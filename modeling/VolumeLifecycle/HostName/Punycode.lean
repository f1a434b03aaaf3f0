import VolumeLifecycle.Text.Unsigned

namespace VolumeLifecycle.HostName.Punycode

def digit (value : Nat) : Char :=
  if value < 26 then .ofNat ('a'.toNat + value) else .ofNat ('0'.toNat + value - 26)

def digitValue? (c : Char) : Option Nat :=
  if 'a' ≤ c && c ≤ 'z' then some (c.toNat - 'a'.toNat)
  else if 'A' ≤ c && c ≤ 'Z' then some (c.toNat - 'A'.toNat)
  else if Text.isDigit c then some (Text.digitValue c + 26)
  else none

/-- The threshold of a digit: a digit below it is the last of its number. `place` is 36 for the
first digit and grows by 36 with each. -/
def threshold (bias place : Nat) : Nat :=
  if place ≤ bias then 1 else min 26 (place - bias)

theorem threshold_pos (bias place : Nat) : 1 ≤ threshold bias place := by
  unfold threshold
  split <;> omega

/-- The bias that goes with a scaled number, when `grown` was reached on the way to it. -/
def biasOf (grown scaled : Nat) : Nat :=
  if 455 < scaled then biasOf (grown + 36) (scaled / 35) else grown + 36 * scaled / (scaled + 38)
termination_by scaled
decreasing_by exact Nat.div_lt_self (by omega) (by omega)

/-- The bias after a number, when the text then has `count` characters. The first number is scaled
down more than the others. -/
def nextBias (number count : Nat) (isFirst : Bool) : Nat :=
  let scaled := if isFirst then number / 700 else number / 2
  biasOf 0 (scaled + scaled / count)

def digits (bias place number : Nat) : List Char :=
  let t := threshold bias place
  if number < t then [digit number]
  else
    digit (t + (number - t) % (36 - t)) :: digits bias (place + 36) ((number - t) / (36 - t))
termination_by number
decreasing_by
  have positive := threshold_pos bias place
  calc (number - threshold bias place) / (36 - threshold bias place)
      ≤ number - threshold bias place := Nat.div_le_self _ _
    _ < number := by omega

/-- A text that is being written with letters, digits and hyphens of ASCII alone: what is written of
it, the number for the next character so far, the bias for that number, and how many characters are
dealt with. The ASCII characters come first. The others follow by increasing code points, and from
left to right where these are the same: one number for each says how many places and code points to
go on from the one before. Numbers are in base 36, of variable length, with thresholds that follow
the size of the last number. -/
structure Writing where
  written : List Char
  number : Nat
  bias : Nat
  count : Nat

/-- Goes past a character while those with the code point `code` are put in. `basic` is the number
of ASCII characters. -/
def Writing.pass (basic code : Nat) (w : Writing) (c : Char) : Writing :=
  if c.toNat < code then { w with number := w.number + 1 }
  else if c.toNat = code then
    { written := w.written ++ digits w.bias 36 w.number
      number := 0
      bias := nextBias w.number (w.count + 1) (w.count = basic)
      count := w.count + 1 }
  else w

/-- Puts in the characters of a text that have one of the given code points, which increase. `next`
is the first code point that has not been tried. -/
def Writing.putIn (s : List Char) (basic : Nat) : Nat → List Nat → Writing → Writing
  | _, [], w => w
  | next, code :: codes, w =>
    let w := { w with number := w.number + (code - next) * (w.count + 1) }
    let w := s.foldl (Writing.pass basic code) w
    putIn s basic (code + 1) codes { w with number := w.number + 1 }

def isBasic (c : Char) : Bool :=
  c.toNat < 0x80

def encode (s : List Char) : List Char :=
  let basic := s.filter isBasic
  let codes := ((s.filter fun c => !isBasic c).map Char.toNat).mergeSort.eraseDups
  let start := if basic.isEmpty then [] else basic ++ ['-']
  (Writing.putIn s basic.length 0x80 codes ⟨start, 0, 72, basic.length⟩).written

/-- A text that is being read: the characters put in so far, the code point and the place of the
last, the bias of the current number, the number so far with what it began with, and place and
weight of its next digit. -/
structure Reading where
  text : List Char
  code : Nat := 0x80
  bias : Nat := 72
  start : Nat := 0
  number : Nat := 0
  place : Nat := 36
  weight : Nat := 1

/-- A digit is read. The last one of a number puts in a character. -/
def Reading.step? (r : Reading) (c : Char) : Option Reading := do
  let value ← digitValue? c
  let number := r.number + value * r.weight
  let t := threshold r.bias r.place
  if t ≤ value then return { r with number, place := r.place + 36, weight := r.weight * (36 - t) }
  let count := r.text.length + 1
  let code := r.code + number / count
  let index := number % count
  if ¬ code.isValidChar then none
  return {
    text := r.text.insertIdx index (.ofNat code)
    code
    bias := nextBias (number - r.start) count (r.start = 0)
    start := index + 1
    number := index + 1 }

/-- The text that has an ASCII form. A hyphen ends the ASCII characters only if there are any. -/
def decode? (s : List Char) : Option (List Char) := do
  let afterHyphen := (s.reverse.takeWhile (· ≠ '-')).reverse
  let basic := s.take (s.length - afterHyphen.length - 1)
  let tail := if basic.isEmpty then s else afterHyphen
  if !basic.all isBasic then none
  let r ← tail.foldlM Reading.step? { text := basic }
  if r.place = 36 then return r.text else none

end VolumeLifecycle.HostName.Punycode
