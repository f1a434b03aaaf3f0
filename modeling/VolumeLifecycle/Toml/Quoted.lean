import VolumeLifecycle.Json.Token

namespace VolumeLifecycle.Toml

/-- Whether a character may stand in text on one line: control characters other than the tab may
not. -/
def isTextChar (c : Char) : Bool :=
  c = '\t' || (0x20 ≤ c.toNat && c.toNat ≠ 0x7F)

def escapes : List (Char × Char) :=
  [('b', '\x08'), ('t', '\t'), ('n', '\n'), ('f', '\x0C'), ('r', '\r'), ('e', '\x1B'), ('"', '"'),
   ('\\', '\\')]

/-- The character with a code point given in hexadecimal; surrogates are not characters. -/
def ofHex? (digits : List Char) : Option Char := do
  let values ← digits.mapM Text.hexValue?
  let n := values.foldl (fun n d => 16 * n + d) 0
  if n.isValidChar then some (Char.ofNat n) else none

/-- The text of a literal string, from behind the opening quote, and what follows the closing one.
What was read stands in reverse order. -/
def literal? (read : List Char) : List Char → Option (String × List Char)
  | [] => none
  | c :: rest =>
    if c = '\'' then some (String.ofList read.reverse, rest)
    else if isTextChar c then literal? (c :: read) rest
    else none

def basic? (read : List Char) : List Char → Option (String × List Char)
  | [] => none
  | '"' :: rest => some (String.ofList read.reverse, rest)
  | '\\' :: 'x' :: a :: b :: rest => do basic? ((← ofHex? [a, b]) :: read) rest
  | '\\' :: 'u' :: a :: b :: c :: d :: rest => do basic? ((← ofHex? [a, b, c, d]) :: read) rest
  | '\\' :: 'U' :: a :: b :: c :: d :: e :: f :: g :: h :: rest => do
    basic? ((← ofHex? [a, b, c, d, e, f, g, h]) :: read) rest
  | '\\' :: c :: rest => do basic? ((← escapes.lookup c) :: read) rest
  | c :: rest => if isTextChar c then basic? (c :: read) rest else none

/-- Where the reader of a text on several lines is: in the text, between a backslash and the end of
its line, or in the white space that such a backslash removes. -/
inductive LineMode where
  | inside
  | lineEnd
  | skipping
  deriving DecidableEq

/-- The text of a basic string on several lines. A backslash at the end of a line removes the line
break and all white space after it; up to two quotes may stand directly before the closing
three. -/
def basicLines? (mode : LineMode) (read : List Char) : List Char → Option (String × List Char)
  | [] => none
  | '\r' :: '\n' :: rest =>
    if mode = .inside then basicLines? .inside ('\n' :: '\r' :: read) rest
    else basicLines? .skipping read rest
  | '\n' :: rest =>
    if mode = .inside then basicLines? .inside ('\n' :: read) rest
    else basicLines? .skipping read rest
  | '"' :: '"' :: '"' :: '"' :: '"' :: rest =>
    if mode = .lineEnd then none else some (String.ofList ('"' :: '"' :: read).reverse, rest)
  | '"' :: '"' :: '"' :: '"' :: rest =>
    if mode = .lineEnd then none else some (String.ofList ('"' :: read).reverse, rest)
  | '"' :: '"' :: '"' :: rest =>
    if mode = .lineEnd then none else some (String.ofList read.reverse, rest)
  | '\\' :: 'x' :: a :: b :: rest => do
    if mode = .lineEnd then none
    basicLines? .inside ((← ofHex? [a, b]) :: read) rest
  | '\\' :: 'u' :: a :: b :: c :: d :: rest => do
    if mode = .lineEnd then none
    basicLines? .inside ((← ofHex? [a, b, c, d]) :: read) rest
  | '\\' :: 'U' :: a :: b :: c :: d :: e :: f :: g :: h :: rest => do
    if mode = .lineEnd then none
    basicLines? .inside ((← ofHex? [a, b, c, d, e, f, g, h]) :: read) rest
  | '\\' :: '\r' :: '\n' :: rest =>
    if mode = .lineEnd then none else basicLines? .skipping read rest
  | '\\' :: c :: rest =>
    if mode = .lineEnd then none
    else if c = '\n' then basicLines? .skipping read rest
    else if c = ' ' || c = '\t' then basicLines? .lineEnd read rest
    else do basicLines? .inside ((← escapes.lookup c) :: read) rest
  | c :: rest =>
    if mode ≠ .inside && (c = ' ' || c = '\t') then basicLines? mode read rest
    else if mode = .lineEnd then none
    else if isTextChar c then basicLines? .inside (c :: read) rest
    else none

def literalLines? (read : List Char) : List Char → Option (String × List Char)
  | [] => none
  | '\r' :: '\n' :: rest => literalLines? ('\n' :: '\r' :: read) rest
  | '\n' :: rest => literalLines? ('\n' :: read) rest
  | '\'' :: '\'' :: '\'' :: '\'' :: '\'' :: rest =>
    some (String.ofList ('\'' :: '\'' :: read).reverse, rest)
  | '\'' :: '\'' :: '\'' :: '\'' :: rest => some (String.ofList ('\'' :: read).reverse, rest)
  | '\'' :: '\'' :: '\'' :: rest => some (String.ofList read.reverse, rest)
  | c :: rest => if isTextChar c then literalLines? (c :: read) rest else none

/-- A text without the line break that it begins with. -/
def dropNewline : List Char → List Char
  | '\n' :: rest => rest
  | '\r' :: '\n' :: rest => rest
  | s => s

def quoted? : List Char → Option (String × List Char)
  | '"' :: rest => basic? [] rest
  | '\'' :: rest => literal? [] rest
  | _ => none

/-- A quoted text on one or several lines, quotes included: a basic string with escapes or a literal
string without. -/
def quotedLines? : List Char → Option (String × List Char)
  | '"' :: '"' :: '"' :: rest => basicLines? .inside [] (dropNewline rest)
  | '\'' :: '\'' :: '\'' :: rest => literalLines? [] (dropNewline rest)
  | s => quoted? s

end VolumeLifecycle.Toml
