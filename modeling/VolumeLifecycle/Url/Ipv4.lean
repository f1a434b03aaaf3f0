import VolumeLifecycle.Text.Fragment
import VolumeLifecycle.Text.Hexadecimal

namespace VolumeLifecycle.Url

structure Ipv4 where
  value : Nat
  value_lt : value < Nat.pow 2 32

namespace Ipv4

def baseNumber? (base : Nat) (digits : List Char) : Option Nat := do
  let values ← digits.mapM Text.hexValue?
  if values.any (base ≤ ·) then none
  return values.foldl (fun n d => base * n + d) 0

/-- The number that a part of a name stands for: hexadecimal behind `0x`, where no digits are zero,
octal behind another zero, or decimal. -/
def number? : List Char → Option Nat
  | [] => none
  | '0' :: 'x' :: rest => baseNumber? 16 rest
  | '0' :: 'X' :: rest => baseNumber? 16 rest
  | '0' :: d :: rest => baseNumber? 8 (d :: rest)
  | s => baseNumber? 10 s

/-- The parts of a name; a full stop at its end does not count. -/
def parts (name : List Char) : List (List Char) :=
  match (Text.splitChars '.' name).reverse with
  | [] :: second :: rest => (second :: rest).reverse
  | reversed => reversed.reverse

/-- Whether a name can only be an address, since its last part is a number or consists of
digits. -/
def isMeant (name : List Char) : Bool :=
  match (parts name).getLast? with
  | none => false
  | some last => Text.isDigits last || (number? last).isSome

/-- The address that a name stands for: up to four numbers between full stops, of which the last one
stands for all bytes that are left. All numbers but the last are bytes. -/
def ofName? (name : List Char) : Option Ipv4 := do
  let numbers ← (parts name).mapM number?
  let last ← numbers.getLast?
  let front := numbers.dropLast
  if 3 < front.length || front.any (255 < ·) then none
  let room := Nat.pow 256 (4 - front.length)
  if room ≤ last then none
  let value := front.foldl (fun n b => 256 * n + b) 0 * room + last
  if h : value < Nat.pow 2 32 then return ⟨value, h⟩ else none

def text (a : Ipv4) : List Char :=
  let byte (i : Nat) := (toString (a.value / Nat.pow 256 i % 256)).toList
  ['.'].intercalate [byte 3, byte 2, byte 1, byte 0]

end Ipv4
end VolumeLifecycle.Url
