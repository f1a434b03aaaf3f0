import VolumeLifecycle.Text.Fragment
import VolumeLifecycle.Text.Hexadecimal

namespace VolumeLifecycle.Text

/-- Some code points one after the other that a table says the same of. -/
structure Run where
  first : Nat
  size : Nat
  kind : Char
  numbers : List Nat

namespace Run

/-- The run that a word stands for, when the runs before it end at the code point `next`. The word
is the number of code points that the table passes over, a letter from `g` on for the kind of the
run, and what else the table says of it as numbers between full stops. All numbers are hexadecimal,
and a missing one is zero. The numbers of a run, with its kind, tell its size. -/
def ofWord (size : Char → List Nat → Nat) (next : Nat) (word : List Char) : Run :=
  let first := next + hexNumber (word.takeWhile isHexDigit)
  match word.dropWhile isHexDigit with
  | [] => ⟨first, 0, ' ', []⟩
  | kind :: rest =>
    let numbers := (splitChars '.' rest).map hexNumber
    ⟨first, size kind numbers, kind, numbers⟩

def ofWords (size : Char → List Nat → Nat) (next : Nat) : List (List Char) → List Run
  | [] => []
  | word :: rest =>
    let run := ofWord size next word
    run :: ofWords size (run.first + run.size) rest

def ofLines (size : Char → List Nat → Nat) (lines : List String) : List Run :=
  ofWords size 0 (lines.flatMap fun line => splitChars ' ' line.toList)

/-- The size of a run whose first number says how many more code points it has than one. -/
def sizeByFirst (_ : Char) : List Nat → Nat
  | [] => 1
  | more :: _ => more + 1

def holds (r : Run) (c : Char) : Bool :=
  r.first ≤ c.toNat && c.toNat < r.first + r.size

end Run

def runOf? (table : List Run) (c : Char) : Option Run :=
  table.find? (·.holds c)

end VolumeLifecycle.Text
