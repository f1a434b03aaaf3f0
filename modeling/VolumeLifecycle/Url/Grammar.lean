import VolumeLifecycle.Url.Basic
import VolumeLifecycle.Url.Path

namespace VolumeLifecycle.Url

def defaultPorts : List (String × Nat) :=
  [("http", 80), ("https", 443), ("ws", 80), ("wss", 443), ("ftp", 21)]

def defaultPort? (scheme : List Char) : Option Nat :=
  defaultPorts.lookup (String.ofList scheme)

def isSchemeChar (c : Char) : Bool :=
  c.isAlphanum || c = '+' || c = '-' || c = '.'

def scheme? (s : List Char) : Option (List Char) :=
  if s.head?.any Char.isAlpha && s.all isSchemeChar then some (s.map Char.toLower) else none

/-- The two ends of a text at the first character that satisfies a test; that character is
dropped. -/
def cut (p : Char → Bool) (s : List Char) : List Char × Option (List Char) :=
  match s.dropWhile fun c => !p c with
  | [] => (s, none)
  | _ :: rest => (s.takeWhile fun c => !p c, some rest)

/-- The two ends of a text at the last at sign, which is dropped. -/
def cutAtLast (s : List Char) : Option (List Char) × List Char :=
  match cut (· = '@') s.reverse with
  | (_, none) => (none, s)
  | (behind, some before) => (some before.reverse, behind.reverse)

/-- The user information that a text gives. The first colon ends the name; an empty password is
none. -/
def user (s : List Char) : User :=
  match cut (· = ':') s with
  | (name, some (c :: password)) => ⟨encode userSet name, some (encode userSet (c :: password))⟩
  | (name, _) => ⟨encode userSet name, none⟩

/-- What comes before the first colon that is not between brackets, and the rest. -/
def splitHost (inside : Bool) : List Char → List Char × List Char
  | [] => ([], [])
  | c :: rest =>
    if c = ':' && !inside then ([], c :: rest)
    else
      let (host, rest) := splitHost (c = '[' || (inside && c ≠ ']')) rest
      (c :: host, rest)

/-- The port behind a colon, and what follows it. Nothing but a backslash may, and the default port
of a scheme is dropped. -/
def port? (scheme : List Char) (s : List Char) : Option (Option Nat × List Char) := do
  let digits := s.takeWhile Text.isDigit
  let rest := s.dropWhile Text.isDigit
  if !rest.isEmpty && rest.head? ≠ some '\\' then none
  if digits.isEmpty then return (none, rest)
  let port := Text.digitsValue 0 digits
  if UInt16.size ≤ port then none
  return (if defaultPort? scheme = some port then none else some port, rest)

/-- The authority that a text gives, and what belongs to the path already. User information and a
port need a host, and so does every special scheme. -/
def authority? (scheme s : List Char) : Option (Authority × List Char) := do
  let special := (defaultPort? scheme).isSome
  let (before, s) := cutAtLast s
  if before = some [] && s.isEmpty then none
  let user := user (before.getD [])
  let (hostText, rest) := splitHost false s
  if hostText.isEmpty && (special || !rest.isEmpty) then none
  let host ← Host.ofText? special hostText
  if host.isEmpty && !user.text.isEmpty then none
  let (port, rest) ← if rest.isEmpty then some (none, []) else port? scheme (rest.drop 1)
  return (⟨user, host, port⟩, rest)

/-- The host of a file. The empty one and the one that means this machine are none. -/
def fileHost? (s : List Char) : Option Host := do
  if s.isEmpty then return .empty
  match ← Host.ofText? true s with
  | .name s => return if s = "localhost".toList then .empty else .name s
  | host => return host

def afterSlash? (s : List Char) : Option (List Char) :=
  match s.dropWhile isBreak with
  | '/' :: rest => some rest
  | '\\' :: rest => some rest
  | _ => none

/-- The authority and the path of the URL of a file, from behind its scheme. A drive in the place of
the host begins the path, and a path that begins with a drive needs no host. Where the host is none,
the slash behind it counts as an empty segment in front of the path. -/
def fileParts? (s : List Char) : Option (Authority × List Char) := do
  match afterSlash? s with
  | none => return ({ host := .empty }, (filePath s).1)
  | some s =>
    match afterSlash? s with
    | none => return ({ host := .empty }, (filePath s).1)
    | some s =>
      let isSlash (c : Char) := c = '/' || c = '\\'
      let first := withoutBreaks (s.takeWhile fun c => !isSlash c)
      let rest := s.dropWhile fun c => !isSlash c
      if isDrive first then return ({ host := .empty }, (filePath s).1)
      let host ← fileHost? first
      if host.isEmpty then return ({ host }, (filePath rest).1)
      let (path, isLocal) := filePath (rest.drop 1)
      return ({ host := if isLocal then .empty else host }, path)

/-- The authority and the path of a URL whose scheme is not the one of files, from behind its
scheme. -/
def parts? (scheme s : List Char) : Option (Option Authority × List Char) := do
  let special := (defaultPort? scheme).isSome
  let isSlash (c : Char) := c = '/' || (special && c = '\\')
  if special || ['/', '/'].isPrefixOf s then
    let s := if special then s.dropWhile isSlash else s.drop 2
    let (authority, rest) ← authority? scheme (s.takeWhile fun c => !isSlash c)
    return (some authority, normalPath special (rest ++ s.dropWhile fun c => !isSlash c))
  else if s.head? = some '/' then return (none, normalPath false s)
  else return (none, encode [] s)

/-- A text without the blanks and control characters at its ends. -/
def trimmed (s : List Char) : List Char :=
  let isEdge (c : Char) := c.toNat ≤ 0x20
  ((s.dropWhile isEdge).reverse.dropWhile isEdge).reverse

/-- The absolute URL that a text gives, in normal form: scheme and host in small letters, dots in
paths resolved, default ports dropped, and characters encoded that may not stand in a part; nothing
if the text has no scheme or its host is not one. -/
def ofText? (text : String) : Option Url := do
  let (scheme, rest) := cut (· = ':') (trimmed text.toList)
  let scheme ← scheme? (withoutBreaks scheme)
  let isFile := scheme = "file".toList
  let (rest, fragment) := cut (· = '#') (← rest)
  let (rest, query) := cut (· = '?') rest
  let querySet := querySet (isFile || (defaultPort? scheme).isSome)
  let query := query.map fun s => encode querySet (withoutBreaks s)
  let fragment := fragment.map fun s => encode fragmentSet (withoutBreaks s)
  let (authority, path) ←
    if isFile then (fileParts? rest).map fun parts => (some parts.1, parts.2)
    else parts? scheme (withoutBreaks rest)
  return ⟨scheme, authority, path, query, fragment⟩

end VolumeLifecycle.Url
