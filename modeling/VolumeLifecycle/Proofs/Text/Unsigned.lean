import Mathlib.Data.List.Induction
import Mathlib.Data.Nat.Digits.Defs
import VolumeLifecycle.Text.Unsigned

namespace VolumeLifecycle.Text

/-- Decimal digits, at least one, that denote a number. -/
structure Denotes (digits : List Char) (n : Nat) : Prop where
  ne_nil : digits ≠ []
  isDigit : ∀ c ∈ digits, isDigit c = true
  value : Nat.ofDigits 10 (digits.reverse.map digitValue) = n

/-- Digits that denote a number, behind a plus or not. -/
def Spells (s : List Char) (n : Nat) : Prop :=
  ∃ digits, Denotes digits n ∧ (s = digits ∨ s = '+' :: digits)

/-- Digit by digit the reader computes what the digits denote. -/
theorem digitsValue_eq_ofDigits (digits : List Char) :
    digitsValue 0 digits = Nat.ofDigits 10 (digits.reverse.map digitValue) := by
  induction digits using List.reverseRecOn with
  | nil => rfl
  | append_singleton digits c ih =>
    rw [List.reverse_append, List.reverse_singleton, List.singleton_append, List.map_cons,
      Nat.ofDigits_cons, ← ih, digitsValue, List.foldl_append]
    exact Nat.add_comm _ _

/-- The digits of a number are digits, and their value is that number. -/
theorem denotes_iff {digits : List Char} {n : Nat} :
    Denotes digits n ↔ isDigits digits = true ∧ digitsValue 0 digits = n := by
  rw [digitsValue_eq_ofDigits]
  constructor
  · rintro ⟨hne, hdigit, hvalue⟩
    exact ⟨by simpa [isDigits, hne] using hdigit, hvalue⟩
  · rintro ⟨hdigits, hvalue⟩
    simp only [isDigits, Bool.and_eq_true, Bool.not_eq_true', List.isEmpty_eq_false_iff,
      List.all_eq_true] at hdigits
    exact ⟨hdigits.1, hdigits.2, hvalue⟩

/-- No digit is taken for the plus. -/
theorem Denotes.dropPlus_eq {digits : List Char} {n : Nat} (h : Denotes digits n) :
    dropPlus digits = digits := by
  unfold dropPlus
  split
  · exact absurd (h.isDigit '+' List.mem_cons_self) (by decide)
  · rfl

theorem spells_iff {s : List Char} {n : Nat} : Spells s n ↔ Denotes (dropPlus s) n := by
  constructor
  · rintro ⟨digits, hdigits, rfl | rfl⟩
    · rwa [hdigits.dropPlus_eq]
    · exact hdigits
  · intro h
    refine ⟨dropPlus s, h, ?_⟩
    unfold dropPlus
    split
    · exact .inr rfl
    · exact .inl rfl

/-- The reader takes the texts that spell a number of 64 bits, for that number. -/
theorem unsigned?_eq_some_iff {s : String} {n : Nat} :
    unsigned? s = some n ↔ Spells s.toList n ∧ n < UInt64.size := by
  rw [spells_iff, denotes_iff, unsigned?]
  constructor
  · intro h
    split at h
    · next hs =>
      cases h
      simp only [Bool.and_eq_true, decide_eq_true_eq] at hs
      exact ⟨⟨hs.1, rfl⟩, hs.2⟩
    · cases h
  · rintro ⟨⟨hdigits, rfl⟩, hsize⟩
    simp [hdigits, hsize]

end VolumeLifecycle.Text
