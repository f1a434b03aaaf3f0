import VolumeLifecycle.Toml.Quoted
import VolumeLifecycle.Toml.Scalar
import VolumeLifecycle.Toml.Table

namespace VolumeLifecycle.Toml

/-- The two characters that may stand anywhere between the parts of a line. -/
def isLineSpace (c : Char) : Bool :=
  c = ' ' || c = '\t'

def skipSpace (s : List Char) : List Char :=
  s.dropWhile isLineSpace

/-- What follows a comment, behind its mark: the end of the line or of the document. -/
def comment? : List Char → Option (List Char)
  | [] => some []
  | '\n' :: rest => some ('\n' :: rest)
  | '\r' :: '\n' :: rest => some ('\r' :: '\n' :: rest)
  | c :: rest => if isTextChar c then comment? rest else none

def endLine? (s : List Char) : Option (List Char) := do
  let s ← match skipSpace s with
    | '#' :: rest => comment? rest
    | s => some s
  match s with
  | [] => some []
  | '\n' :: rest => some rest
  | '\r' :: '\n' :: rest => some rest
  | _ => none

/-- What follows the spaces, line breaks and comments at the front; `fuel` bounds how many of them
are skipped. -/
def skipLines? : Nat → List Char → Option (List Char)
  | 0, s => some s
  | fuel + 1, s =>
    match skipSpace s with
    | '\n' :: rest => skipLines? fuel rest
    | '\r' :: '\n' :: rest => skipLines? fuel rest
    | '#' :: rest => (comment? rest).bind (skipLines? fuel)
    | s => some s

def isBareKeyChar (c : Char) : Bool :=
  Text.isDigit c || ('a' ≤ c && c ≤ 'z') || ('A' ≤ c && c ≤ 'Z') || c = '_' || c = '-'

def keyPart? (s : List Char) : Option (String × List Char) :=
  match s.head? with
  | some '"' => quoted? s
  | some '\'' => quoted? s
  | _ =>
    let bare := s.takeWhile isBareKeyChar
    if bare.isEmpty then none else some (String.ofList bare, s.dropWhile isBareKeyChar)

/-- A key with its parts between dots, and what follows it; `fuel` bounds the number of parts. -/
def key? : Nat → List Char → Option (List String × List Char)
  | 0, _ => none
  | fuel + 1, s => do
    let (part, rest) ← keyPart? (skipSpace s)
    match skipSpace rest with
    | '.' :: rest =>
      let (parts, rest) ← key? fuel rest
      return (part :: parts, rest)
    | rest => return ([part], rest)

def maxParts : Nat := 80

/-- A key as the parts before its last one and the last one, and what follows it. -/
def splitKey? (s : List Char) : Option (List String × String × List Char) := do
  let (parts, rest) ← key? s.length s
  if maxParts < parts.length then none
  return (parts.dropLast, ← parts.getLast?, rest)

def delimiters : List Char :=
  ['=', ',', '[', ']', '\x7b', '\x7d', '#', ' ', '\t', '\r', '\n']

def isWordChar (c : Char) : Bool :=
  !delimiters.contains c

/-- An unquoted value, and what follows it. A date and a time may have a space between them. -/
def word? (s : List Char) : Option (Scalar × List Char) := do
  let word := s.takeWhile isWordChar
  let rest := s.dropWhile isWordChar
  match date? word, rest with
  | some (_, []), ' ' :: c :: more =>
    if Text.isDigit c then
      let time := (c :: more).takeWhile isWordChar
      return (← scalar? (word ++ ' ' :: time), (c :: more).dropWhile isWordChar)
    else return (← scalar? word, rest)
  | _, _ => return (← scalar? word, rest)

def maxDepth : Nat := 80

mutual

/-- A value, and what follows it; `fuel` bounds the recursion and `depth` is what is left of the
nesting. -/
def value? : Nat → Nat → List Char → Option (Node × List Char)
  | 0, _, _ => none
  | fuel + 1, depth, s =>
    match s with
    | '[' :: rest =>
      match depth with
      | 0 => none
      | depth + 1 => do
        let (items, rest) ← items? fuel depth [] rest
        return (.array items, rest)
    | '\x7b' :: rest =>
      match depth with
      | 0 => none
      | depth + 1 => do
        let (entries, rest) ← members? fuel depth [] rest
        return (.table .inlined entries, rest)
    | '"' :: _ => (quotedLines? s).map fun r => (.scalar (.text r.1), r.2)
    | '\'' :: _ => (quotedLines? s).map fun r => (.scalar (.text r.1), r.2)
    | _ => (word? s).map fun r => (.scalar r.1, r.2)

/-- The items of an array from behind its bracket or a comma on, after those that were read. -/
def items? : Nat → Nat → List Node → List Char → Option (List Node × List Char)
  | 0, _, _, _ => none
  | fuel + 1, depth, read, s => do
    match ← skipLines? s.length s with
    | ']' :: rest => return (read, rest)
    | s =>
      let (item, rest) ← value? fuel depth s
      match ← skipLines? rest.length rest with
      | ',' :: rest => items? fuel depth (read ++ [item]) rest
      | ']' :: rest => return (read ++ [item], rest)
      | _ => none

/-- The entries of an inline table from behind its brace or a comma on, after those that were
read. -/
def members? : Nat → Nat → Entries → List Char → Option (Entries × List Char)
  | 0, _, _, _ => none
  | fuel + 1, depth, read, s => do
    match ← skipLines? s.length s with
    | '\x7d' :: rest => return (read, rest)
    | s =>
      let (path, key, rest) ← splitKey? s
      match ← skipLines? rest.length rest with
      | '=' :: rest =>
        let (value, rest) ← value? fuel depth (← skipLines? rest.length rest)
        let read ← assign path key value .header read
        match ← skipLines? rest.length rest with
        | ',' :: rest => members? fuel depth read rest
        | '\x7d' :: rest => return (read, rest)
        | _ => none
      | _ => none

end

/-- What has been read of a document: its tables, and the path of the current header. -/
structure Document where
  root : Entries
  header : List String

def Document.empty : Document := ⟨[], []⟩

/-- A header behind its opening brackets: the document with its table opened, and what follows the
closing brackets. -/
def header? (opener : List String → String → Entries → Option Entries) (closing : List Char)
    (d : Document) (s : List Char) : Option (Document × List Char) := do
  let (path, key, rest) ← splitKey? s
  if !closing.isPrefixOf rest then none
  let root ← opener path key d.root
  return (⟨root, path ++ [key]⟩, rest.drop closing.length)

def assignment? (d : Document) (s : List Char) : Option (Document × List Char) := do
  let (path, key, rest) ← splitKey? s
  match rest with
  | '=' :: rest =>
    let rest := skipSpace rest
    let (value, rest) ← value? (2 * rest.length + 2) maxDepth rest
    let root ← assignUnder d.header path key value d.root
    return ({ d with root }, rest)
  | _ => none

def lines? : Nat → Document → List Char → Option Document
  | 0, d, s => if s.isEmpty then some d else none
  | fuel + 1, d, s => do
    match skipSpace s with
    | [] => return d
    | '[' :: '[' :: rest =>
      let (d, rest) ← header? openItem [']', ']'] d rest
      lines? fuel d (← endLine? rest)
    | '[' :: rest =>
      let (d, rest) ← header? openTable [']'] d rest
      lines? fuel d (← endLine? rest)
    | c :: rest =>
      if c = '#' || c = '\n' || c = '\r' then lines? fuel d (← endLine? (c :: rest))
      else
        let (d, rest) ← assignment? d (c :: rest)
        lines? fuel d (← endLine? rest)

/-- A text without the byte order mark that it begins with. -/
def dropMark : List Char → List Char
  | '\uFEFF' :: rest => rest
  | s => s

/-- The entries of a TOML document; nothing if the text is not TOML. -/
def ofText? (text : String) : Option Entries :=
  let s := dropMark text.toList
  (lines? (s.length + 1) .empty s).map Document.root

end VolumeLifecycle.Toml
