
namespace VolumeLifecycle.Text

def isDigit (c : Char) : Bool :=
  '0' ≤ c && c ≤ '9'

def digitValue (c : Char) : Nat :=
  c.toNat - '0'.toNat

def digitsValue (high : Nat) (digits : List Char) : Nat :=
  digits.foldl (fun n c => 10 * n + digitValue c) high

def isDigits (s : List Char) : Bool :=
  !s.isEmpty && s.all isDigit

def dropPlus : List Char → List Char
  | '+' :: rest => rest
  | s => s

/-- The unsigned integer that a text denotes, if it is written as one and fits 64 bits. A sign
alone, a minus sign and a second plus sign are refused; leading zeros are not. -/
def unsigned? (s : String) : Option Nat :=
  let digits := dropPlus s.toList
  let value := digitsValue 0 digits
  if isDigits digits && value < UInt64.size then some value else none

end VolumeLifecycle.Text
