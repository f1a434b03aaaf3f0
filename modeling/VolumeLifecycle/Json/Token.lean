import VolumeLifecycle.Decimal.Literal
import VolumeLifecycle.Json.Basic
import VolumeLifecycle.Text.Hexadecimal

namespace VolumeLifecycle.Json

/-- A token. A string whose escapes name half a surrogate pair has no text, and a number too large
for a float no value; both are tokens all the same, since a text that nobody reads may hold
them. -/
inductive Token where
  | openBracket
  | closeBracket
  | openBrace
  | closeBrace
  | comma
  | colon
  | null
  | bool (b : Bool)
  | number (n : Option Number)
  | string (s : Option String)

namespace Token

def isSpace (c : Char) : Bool :=
  c = ' ' || c = '\n' || c = '\t' || c = '\r'

def isNumberPart (c : Char) : Bool :=
  Text.isDigit c || c = '-' || c = '+' || c = '.' || c = 'e' || c = 'E'

def isWordPart (c : Char) : Bool :=
  'a' ≤ c && c ≤ 'z'

def surrogatePair (high low : Nat) : Nat :=
  0x10000 + (high - 0xD800) * 0x400 + (low - 0xDC00)

/-- The characters that code units denote, where surrogates have to come in pairs. -/
def unitsChars? : List Nat → Option (List Char)
  | [] => some []
  | unit :: rest =>
    if 0xD800 ≤ unit && unit < 0xDC00 then
      match rest with
      | low :: rest =>
        if 0xDC00 ≤ low && low < 0xE000 then
          (unitsChars? rest).map (Char.ofNat (surrogatePair unit low) :: ·)
        else none
      | [] => none
    else if 0xDC00 ≤ unit && unit < 0xE000 then none
    else (unitsChars? rest).map (Char.ofNat unit :: ·)

/-- The one-letter escapes: what follows the backslash and what it stands for. -/
def escapes : List (Char × Nat) :=
  [('"', 0x22), ('\\', 0x5C), ('/', 0x2F), ('b', 0x08), ('f', 0x0C), ('n', 0x0A), ('r', 0x0D),
   ('t', 0x09)]

def exponent? : List Char → Option (Bool × List Char)
  | '-' :: digits => if Text.isDigits digits then some (true, digits) else none
  | '+' :: digits => if Text.isDigits digits then some (false, digits) else none
  | digits => if Text.isDigits digits then some (false, digits) else none

/-- A number by its parts, if it is written as JSON asks: no sign but a minus, no leading zero, a
digit on both sides of the point and in the exponent. -/
def literal? (s : List Char) : Option Decimal.Literal :=
  let negative := s.head? = some '-'
  let s := if negative then s.drop 1 else s
  let whole := s.takeWhile Text.isDigit
  let s := s.dropWhile Text.isDigit
  let hasPoint := s.head? = some '.'
  let fraction := if hasPoint then some ((s.drop 1).takeWhile Text.isDigit) else none
  let s := if hasPoint then (s.drop 1).dropWhile Text.isDigit else s
  if whole.isEmpty || (1 < whole.length && whole.head? = some '0') || fraction = some [] then none
  else
    match s with
    | [] => some ⟨negative, whole, fraction, none⟩
    | mark :: rest =>
      if mark = 'e' || mark = 'E' then
        (exponent? rest).map fun e => ⟨negative, whole, fraction, some e⟩
      else none

/-- The number that a literal denotes: an integer if it has neither point nor exponent and fits,
else a floating-point number. A minus zero is a floating-point number. -/
def literalNumber? (l : Decimal.Literal) : Option Number :=
  let n := l.wholeValue
  if l.isIntegral && !l.negative && n < UInt64.size then some (.integer n)
  else if l.isIntegral && l.negative && 0 < n && n ≤ Nat.pow 2 63 then some (.integer (-n))
  else l.scaled?.map .float

def ofWord? (s : List Char) : Option Token :=
  if s = "null".toList then some .null
  else if s = "true".toList then some (.bool true)
  else if s = "false".toList then some (.bool false)
  else none

def ofNumber? (s : List Char) : Option Token :=
  (literal? s).map fun l => .number (literalNumber? l)

def ofUnits (units : List Nat) : Token :=
  .string ((unitsChars? units).map String.ofList)

def punctuation? (c : Char) : Option Token :=
  if c = '[' then some .openBracket
  else if c = ']' then some .closeBracket
  else if c = '\x7b' then some .openBrace
  else if c = '\x7d' then some .closeBrace
  else if c = ',' then some .comma
  else if c = ':' then some .colon
  else none

/-- Where the scanner is. A character either extends the current token or ends it and begins the
next. What a token has gathered so far stands in reverse order. -/
inductive State where
  | between
  | word (letters : List Char)
  | number (parts : List Char)
  | string (units : List Nat)
  | escape (units : List Nat)
  | unicode (units : List Nat) (digits : List Nat)

/-- What a character between two tokens does: it is a token, or begins one, or is space. -/
def State.begin? (c : Char) : Option (List Token × State) :=
  if isSpace c then some ([], .between)
  else if c = '"' then some ([], .string [])
  else if Text.isDigit c || c = '-' then some ([], .number [c])
  else if isWordPart c then some ([], .word [c])
  else (punctuation? c).map fun t => ([t], .between)

def State.step? (state : State) (c : Char) : Option (List Token × State) :=
  match state with
  | .between => State.begin? c
  | .word letters =>
    if isWordPart c then some ([], .word (c :: letters))
    else do
      let token ← ofWord? letters.reverse
      let (tokens, next) ← State.begin? c
      return (token :: tokens, next)
  | .number parts =>
    if isNumberPart c then some ([], .number (c :: parts))
    else do
      let token ← ofNumber? parts.reverse
      let (tokens, next) ← State.begin? c
      return (token :: tokens, next)
  | .string units =>
    if c = '"' then some ([ofUnits units.reverse], .between)
    else if c = '\\' then some ([], .escape units)
    else if c.toNat < 0x20 then none
    else some ([], .string (c.toNat :: units))
  | .escape units =>
    if c = 'u' then some ([], .unicode units [])
    else (escapes.lookup c).map fun unit => ([], .string (unit :: units))
  | .unicode units digits => do
    let digit ← Text.hexValue? c
    match digits with
    | [d2, d1, d0] =>
      return ([], .string ((((d0 * 16 + d1) * 16 + d2) * 16 + digit) :: units))
    | _ => return ([], .unicode units (digit :: digits))

/-- The tokens that are complete when the text ends; nothing if it ends inside a string. -/
def State.finish? : State → Option (List Token)
  | .between => some []
  | .word letters => (ofWord? letters.reverse).map ([·])
  | .number parts => (ofNumber? parts.reverse).map ([·])
  | _ => none

def scan : State → List Char → Option (List Token)
  | state, [] => state.finish?
  | state, c :: rest => do
    let (tokens, next) ← state.step? c
    let more ← scan next rest
    return tokens ++ more

def ofText? (s : String) : Option (List Token) :=
  scan .between s.toList

end Token
end VolumeLifecycle.Json
