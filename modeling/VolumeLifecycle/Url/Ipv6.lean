import VolumeLifecycle.Text.Fragment
import VolumeLifecycle.Text.Hexadecimal

namespace VolumeLifecycle.Url

structure Ipv6 where
  groups : List Nat
  length_eq : groups.length = 8

namespace Ipv6

/-- The group that up to four hexadecimal digits stand for. -/
def group? (s : List Char) : Option Nat :=
  if s.isEmpty || 4 < s.length || !s.all Text.isHexDigit then none else some (Text.hexNumber s)

/-- The byte that decimal digits without a superfluous zero stand for. -/
def byte? (s : List Char) : Option Nat :=
  let value := Text.digitsValue 0 s
  if !Text.isDigits s || (1 < s.length && s.head? = some '0') || 255 < value then none
  else some value

def dotted? (s : List Char) : Option (List Nat) := do
  match ← (Text.splitChars '.' s).mapM byte? with
  | [a, b, c, d] => return [256 * a + b, 256 * c + d]
  | _ => none

/-- The groups that the pieces between colons stand for; the last one may be an IPv4 address if
`atEnd` says so. -/
def pieces? (atEnd : Bool) : List (List Char) → Option (List Nat)
  | [] => some []
  | [last] =>
    if atEnd && last.contains '.' then dotted? last else (group? last).map fun g => [g]
  | piece :: rest => do return (← group? piece) :: (← pieces? atEnd rest)

/-- The groups of a text without a row left out. -/
def groups? (atEnd : Bool) (s : List Char) : Option (List Nat) :=
  if s.isEmpty then some [] else pieces? atEnd (Text.splitChars ':' s)

/-- The parts of a text before and behind the first two colons that stand together. -/
def splitGap? : List Char → Option (List Char × List Char)
  | [] => none
  | ':' :: ':' :: rest => some ([], rest)
  | c :: rest => (splitGap? rest).map fun parts => (c :: parts.1, parts.2)

/-- The address that a text stands for: eight groups between colons, where one row of zero groups
may be left out and the last two groups may be written like an IPv4 address. -/
def ofText? (s : List Char) : Option Ipv6 := do
  let groups ← match splitGap? s with
    | none => groups? true s
    | some (before, behind) => do
      let before ← groups? false before
      let behind ← groups? true behind
      pure (before ++ List.replicate (max 1 (8 - before.length - behind.length)) 0 ++ behind)
  if h : groups.length = 8 then return ⟨groups, h⟩ else none

def zeroRows : List Nat → List Nat
  | [] => []
  | g :: rest =>
    let rows := zeroRows rest
    (if g = 0 then rows.head?.getD 0 + 1 else 0) :: rows

def join (groups : List Nat) : List Char :=
  [':'].intercalate (groups.map (Nat.toDigits 16))

/-- The shortest form of an address: the first of the longest rows of two or more zeros is left
out. -/
def text (a : Ipv6) : List Char :=
  let rows := zeroRows a.groups
  let longest := rows.foldl max 0
  if longest < 2 then join a.groups
  else
    let start := rows.idxOf longest
    join (a.groups.take start) ++ [':', ':'] ++ join (a.groups.drop (start + longest))

end Ipv6
end VolumeLifecycle.Url
