import VolumeLifecycle.Proofs.Json.Tokens
import VolumeLifecycle.Proofs.Text.Trim

namespace VolumeLifecycle

namespace Json.Token

def Numeric (s : List Char) : Prop :=
  ∀ c ∈ s, isNumberPart c = true

instance (s : List Char) : Decidable (Numeric s) :=
  decidable_of_iff (s.all isNumberPart = true) List.all_eq_true

theorem Numeric.append {s t : List Char} (hs : Numeric s) (ht : Numeric t) : Numeric (s ++ t) :=
  fun c hc => (List.mem_append.1 hc).elim (hs c) (ht c)

theorem Numeric.cons {c : Char} {s : List Char} (hc : isNumberPart c = true) (hs : Numeric s) :
    Numeric (c :: s) :=
  List.forall_mem_cons.2 ⟨hc, hs⟩

theorem numeric_zeros (n : Nat) : Numeric (List.replicate n '0') :=
  fun _ hc => List.eq_of_mem_replicate hc ▸ rfl

/-- Decimal digits are characters of numbers. -/
theorem numeric_repr (n : Nat) : Numeric (toString n).toList := by
  have htext : (toString n).toList = Nat.toDigits 10 n := Nat.toList_repr
  rw [htext]
  exact isNumberPart_toDigits n

theorem isBlank_of_isNumberPart {c : Char} (h : isNumberPart c = true) : Text.isBlank c = false := by
  simp only [isNumberPart, Bool.or_eq_true, decide_eq_true_eq] at h
  rcases h with ((((hdigit | rfl) | rfl) | rfl) | rfl) | rfl
  · have hrange : 48 ≤ c.toNat ∧ c.toNat ≤ 57 := by
      simpa [Text.isDigit, Char.le_def, UInt32.le_iff_toNat_le] using hdigit
    simp [Text.isBlank, Text.blankRanges]
    omega
  all_goals decide

end Json.Token

namespace Decimal.Layout

open Json.Token

theorem numeric_plain {digits : List Char} (h : Numeric digits) (top : Int) :
    Numeric (json.plain digits top).toList := by
  have hpoint : Numeric ".".toList := by decide
  have htail : Numeric json.integralTail.toList := by decide
  have hfront : Numeric "0.".toList := by decide
  unfold plain
  split
  · simp only [String.toList_append, String.toList_ofList]
    exact hfront.append ((numeric_zeros _).append h)
  · dsimp only
    split
    · simp only [String.toList_append, String.toList_ofList]
      exact (h.append (numeric_zeros _)).append htail
    · have htake : Numeric (digits.take (top.toNat + 1)) := fun c hc => h c (List.mem_of_mem_take hc)
      have hdrop : Numeric (digits.drop (top.toNat + 1)) := fun c hc => h c (List.mem_of_mem_drop hc)
      simp only [String.toList_append, String.toList_ofList]
      exact (htake.append hpoint).append hdrop

theorem numeric_scientific {digits : List Char} (h : Numeric digits) (top : Int) :
    Numeric (json.scientific digits top).toList := by
  have hmark : Numeric json.exponentMark.toList := by decide
  have hsign : Numeric (if top < 0 then "-" else json.exponentPlus).toList := by
    split <;> decide
  unfold scientific
  dsimp only
  simp only [String.toList_append]
  refine Numeric.append (Numeric.append (Numeric.append ?_ hmark) hsign) (numeric_repr _)
  split
  · exact fun c hc => by simp at hc
  · rw [String.toList_ofList]
    exact h
  · next d rest _ =>
    obtain ⟨hd, hrest⟩ := List.forall_mem_cons.1 h
    rw [String.toList_ofList]
    exact .cons hd (.cons rfl hrest)

/-- The text of a floating-point number is that of digits, behind a minus or not. -/
theorem write_json (x : Binary64) :
    ∃ digits top, Numeric digits ∧
      (json.write x = (if x.isNegative then "-" else "") ++ json.plain digits top ∨
        json.write x = (if x.isNegative then "-" else "") ++ json.scientific digits top) := by
  unfold write
  dsimp only
  split
  · exact ⟨['0'], 0, numeric_zeros 1, .inl rfl⟩
  · split
    · exact ⟨_, _, isNumberPart_toDigits _, .inl rfl⟩
    · exact ⟨_, _, isNumberPart_toDigits _, .inr rfl⟩

theorem numeric_write (x : Binary64) : Numeric (json.write x).toList := by
  have hsign : Numeric (if x.isNegative then "-" else "").toList := by
    split <;> decide
  obtain ⟨digits, top, hdigits, heq | heq⟩ := write_json x
  · rw [heq, String.toList_append]
    exact hsign.append (numeric_plain hdigits top)
  · rw [heq, String.toList_append]
    exact hsign.append (numeric_scientific hdigits top)

theorem plain_ne_empty (digits : List Char) (top : Int) : json.plain digits top ≠ "" := by
  unfold plain
  split
  · simp
  · dsimp only
    split <;> simp [json]

theorem scientific_ne_empty (digits : List Char) (top : Int) : json.scientific digits top ≠ "" := by
  simp [scientific, json]

theorem write_ne_empty (x : Binary64) : json.write x ≠ "" := by
  obtain ⟨digits, top, -, heq | heq⟩ := write_json x
  · rw [heq]
    exact fun h => plain_ne_empty digits top (String.append_eq_empty_iff.1 h).2
  · rw [heq]
    exact fun h => scientific_ne_empty digits top (String.append_eq_empty_iff.1 h).2

end Decimal.Layout

namespace Json.Number

open Token Decimal.Layout

theorem numeric_text (n : Number) : Numeric n.text.toList := by
  cases n with
  | float x => exact numeric_write x
  | integer n =>
    cases n with
    | ofNat m => exact numeric_repr m
    | negSucc m =>
      have htext : (text (.integer (.negSucc m))).toList = '-' :: (toString (m + 1)).toList := by
        rw [text, Int.toString_eq_repr, Int.repr, String.toList_append]
        rfl
      rw [htext]
      exact .cons rfl (numeric_repr _)

theorem text_ne_empty (n : Number) : n.text ≠ "" := by
  cases n with
  | float x => exact write_ne_empty x
  | integer n =>
    refine fun hempty => absurd (String.toList_eq_nil_iff.2 hempty) ?_
    cases n with
    | ofNat m =>
      have htext : (text (.integer (.ofNat m))).toList = Nat.toDigits 10 m := Nat.toList_repr
      rw [htext]
      exact Nat.toDigits_ne_nil
    | negSucc m =>
      rw [text, Int.toString_eq_repr, Int.repr, String.toList_append]
      exact List.cons_ne_nil _ _

theorem neat_text (n : Number) : Text.Neat n.text :=
  Text.neat_of_forall (text_ne_empty n) fun c hc => isBlank_of_isNumberPart (numeric_text n c hc)

end Json.Number
end VolumeLifecycle
