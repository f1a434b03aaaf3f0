import Mathlib.Data.List.TakeWhile
import VolumeLifecycle.Proofs.Json.Scan

namespace VolumeLifecycle.Json

namespace Token

theorem hexValue?_hexDigit : ∀ n < 16, Text.hexValue? (hexDigit n) = some n := by
  decide

/-- However a character is escaped, the scanner takes it for its code unit. -/
theorem scan_escapeChar (c : Char) (units : List Nat) (tail : List Char) :
    scan (.string units) (escapeChar c ++ tail) = scan (.string (c.toNat :: units)) tail := by
  have hbackslash : (State.string units).step? '\\' = some ([], .escape units) := rfl
  -- The escapes of one letter differ in the letter alone.
  have hletter : ∀ {letter : Char} {n : Nat}, letter ≠ 'u' → escapes.lookup letter = some n →
      c.toNat = n → scan (.string units) ('\\' :: letter :: tail) =
        scan (.string (c.toNat :: units)) tail := by
    intro letter n hu hlookup hn
    have hstep : (State.escape units).step? letter = some ([], .string (c.toNat :: units)) := by
      rw [State.step?, if_neg hu, hlookup, hn]
      rfl
    rw [scan_step hbackslash, scan_step hstep]
  unfold escapeChar
  split
  · next h => exact hletter (by decide) rfl (h ▸ rfl)
  split
  · next h => exact hletter (by decide) rfl (h ▸ rfl)
  split
  · next h => exact hletter (by decide) rfl h
  split
  · next h => exact hletter (by decide) rfl h
  split
  · next h => exact hletter (by decide) rfl (h ▸ rfl)
  split
  · next h => exact hletter (by decide) rfl (h ▸ rfl)
  split
  · next h => exact hletter (by decide) rfl (h ▸ rfl)
  split
  · next hlow =>
    have hhigh := hexValue?_hexDigit (c.toNat / 16) (by omega)
    have hrest := hexValue?_hexDigit (c.toNat % 16) (by omega)
    have hvalue : ((0 * 16 + 0) * 16 + c.toNat / 16) * 16 + c.toNat % 16 = c.toNat := by omega
    have hfirst : (State.unicode units []).step? '0' = some ([], .unicode units [0]) := rfl
    have hsecond : (State.unicode units [0]).step? '0' = some ([], .unicode units [0, 0]) := rfl
    have hthird : (State.unicode units [0, 0]).step? (hexDigit (c.toNat / 16)) =
        some ([], .unicode units [c.toNat / 16, 0, 0]) := by
      rw [State.step?, hhigh]
      rfl
    have hlast : (State.unicode units [c.toNat / 16, 0, 0]).step? (hexDigit (c.toNat % 16)) =
        some ([], .string (c.toNat :: units)) := by
      rw [State.step?, hrest]
      exact congrArg (fun n => some (([] : List Token), State.string (n :: units))) hvalue
    have hmark : (State.escape units).step? 'u' = some ([], .unicode units []) := rfl
    simp only [List.cons_append, List.nil_append]
    rw [scan_step hbackslash, scan_step hmark, scan_step hfirst, scan_step hsecond,
      scan_step hthird, scan_step hlast]
  · next hquote hslash _ _ _ _ _ hlow =>
    have hstep : (State.string units).step? c = some ([], .string (c.toNat :: units)) := by
      rw [State.step?, if_neg hquote, if_neg hslash, if_neg hlow]
    exact scan_step hstep tail

theorem scan_escaped (cs : List Char) (units : List Nat) (tail : List Char) :
    scan (.string units) (cs.flatMap escapeChar ++ tail) =
      scan (.string ((cs.map Char.toNat).reverse ++ units)) tail := by
  induction cs generalizing units with
  | nil => rfl
  | cons c cs ih =>
    rw [List.flatMap_cons, List.append_assoc, scan_escapeChar, ih]
    simp

/-- No character is half a surrogate pair. -/
theorem unitsChars?_toNat (cs : List Char) : unitsChars? (cs.map Char.toNat) = some cs := by
  induction cs with
  | nil => rfl
  | cons c cs ih =>
    have hvalid : c.toNat < 0xD800 ∨ 0xDFFF < c.toNat ∧ c.toNat < 0x110000 := c.valid
    have hhigh : (decide (0xD800 ≤ c.toNat) && decide (c.toNat < 0xDC00)) = false := by
      simp
      omega
    have hlow : (decide (0xDC00 ≤ c.toNat) && decide (c.toNat < 0xE000)) = false := by
      simp
      omega
    rw [List.map_cons, unitsChars?.eq_def]
    simp [hhigh, hlow, ih]

/-- A quoted text is read as that text. -/
theorem spell_quote (s : String) : Spell (quote s).toList [.string (some s)] := by
  intro tail _
  have hopen : State.between.step? '"' = some ([], .string []) := rfl
  have hunits : ofUnits ((s.toList.map Char.toNat).reverse ++ []).reverse = .string (some s) := by
    simp [ofUnits, unitsChars?_toNat]
  rw [quote, String.toList_ofList, List.append_assoc, List.cons_append, scan_step hopen, scan_escaped,
    List.cons_append, List.nil_append, scan_cons, State.step?, if_pos rfl, Option.bind_some, hunits]

theorem isDigit_toDigits (n : Nat) : ∀ c ∈ Nat.toDigits 10 n, Text.isDigit c = true :=
  fun _ hc => Nat.isDigit_of_mem_toDigits (by decide) (by decide) hc

/-- The digits of a number have its value. -/
theorem digitsValue_toDigits (n : Nat) : Text.digitsValue 0 (Nat.toDigits 10 n) = n :=
  Nat.ofDigitChars_ten_toDigits

/-- Only zero is written with a zero in front. -/
theorem head?_toDigits {n : Nat} (h : (Nat.toDigits 10 n).head? = some '0') : n = 0 := by
  induction n using Nat.strongRecOn with
  | ind n ih =>
    by_cases hn : n < 10
    · rw [Nat.toDigits_of_lt_base hn] at h
      have hzero : ∀ m < 10, Nat.digitChar m = '0' → m = 0 := by decide
      exact hzero n hn (Option.some.inj h)
    · rw [Nat.toDigits_of_base_le (by decide) (by omega), List.head?_append_of_ne_nil _ Nat.toDigits_ne_nil]
        at h
      have hdiv := ih (n / 10) (by omega) h
      omega

theorem leadingZero_toDigits (n : Nat) : (decide (1 < (Nat.toDigits 10 n).length) &&
    decide ((Nat.toDigits 10 n).head? = some '0')) = false := by
  by_cases h : (Nat.toDigits 10 n).head? = some '0'
  · rw [head?_toDigits h]
    rfl
  · simp [h]

/-- The digits of a natural number, with a minus or without, are a literal without point or exponent. -/
theorem literal?_toDigits (n : Nat) (negative : Bool) :
    literal? (if negative then '-' :: Nat.toDigits 10 n else Nat.toDigits 10 n) =
      some ⟨negative, Nat.toDigits 10 n, none, none⟩ := by
  have hdigits := isDigit_toDigits n
  have hne : (Nat.toDigits 10 n).isEmpty = false := by
    simp
  have htake : (Nat.toDigits 10 n).takeWhile Text.isDigit = Nat.toDigits 10 n :=
    List.takeWhile_eq_self_iff.2 hdigits
  have hdrop : (Nat.toDigits 10 n).dropWhile Text.isDigit = [] :=
    List.dropWhile_eq_nil_iff.2 hdigits
  have hminus : (Nat.toDigits 10 n).head? ≠ some '-' := by
    intro h
    have hdigit := hdigits '-' (List.mem_of_mem_head? h)
    cases hdigit
  have hzero := leadingZero_toDigits n
  cases negative with
  | true => simp [literal?, htake, hdrop, hne, hzero]
  | false => simp [literal?, htake, hdrop, hne, hzero, hminus]

theorem ofNumber?_toDigits {n : Nat} (h : n < UInt64.size) :
    ofNumber? (Nat.toDigits 10 n) = some (.number (some (.integer n))) := by
  have hliteral := literal?_toDigits n false
  simp only [Bool.false_eq_true, if_false] at hliteral
  simp [ofNumber?, hliteral, literalNumber?, Decimal.Literal.isIntegral, Decimal.Literal.wholeValue,
    digitsValue_toDigits, h]

theorem ofNumber?_minus_toDigits {n : Nat} (hpos : 0 < n) (h : n ≤ Nat.pow 2 63) :
    ofNumber? ('-' :: Nat.toDigits 10 n) = some (.number (some (.integer (-n)))) := by
  have hliteral := literal?_toDigits n true
  simp only [if_true] at hliteral
  simp [ofNumber?, hliteral, literalNumber?, Decimal.Literal.isIntegral, Decimal.Literal.wholeValue,
    digitsValue_toDigits, hpos, h]

theorem step_of_isDigit {c : Char} (h : Text.isDigit c = true) :
    State.between.step? c = some ([], .number [c]) := by
  have hspace : isSpace c = false := by
    by_contra hspace
    simp only [isSpace, Bool.not_eq_false, Bool.or_eq_true, decide_eq_true_eq] at hspace
    rcases hspace with ((rfl | rfl) | rfl) | rfl <;> cases h
  have hquote : c ≠ '"' := by
    rintro rfl
    cases h
  rw [State.step?, State.begin?, hspace, if_neg hquote, h]
  rfl

theorem isNumberPart_toDigits (n : Nat) : ∀ c ∈ Nat.toDigits 10 n, isNumberPart c = true := by
  intro c hc
  simp [isNumberPart, isDigit_toDigits n c hc]

/-- The digits of an integer spell it. -/
theorem spell_integer {n : Int} (h : Number.InRange n) :
    Spell (toString n).toList [.number (some (.integer n))] := by
  obtain ⟨hlow, hhigh⟩ := h
  cases n with
  | ofNat m =>
    have hsize : m < UInt64.size := Int.ofNat_lt.1 hhigh
    have hnumber := ofNumber?_toDigits hsize
    have hdigits := isDigit_toDigits m
    have hparts := isNumberPart_toDigits m
    have htext : (toString (Int.ofNat m)).toList = Nat.toDigits 10 m := Nat.toList_repr
    rw [htext]
    cases hcs : Nat.toDigits 10 m with
    | nil => exact absurd hcs Nat.toDigits_ne_nil
    | cons c cs =>
      rw [hcs] at hnumber hdigits hparts
      exact spell_number (step_of_isDigit (hdigits c List.mem_cons_self))
        (fun d hd => hparts d (List.mem_cons_of_mem _ hd)) hnumber
  | negSucc m =>
    have hsize : m + 1 ≤ Nat.pow 2 63 := by
      rw [Int.negSucc_eq] at hlow
      change m + 1 ≤ 9223372036854775808
      omega
    have hnumber := ofNumber?_minus_toDigits (Nat.succ_pos m) hsize
    have htext : (toString (Int.negSucc m)).toList = '-' :: Nat.toDigits 10 (m + 1) := by
      rw [Int.toString_eq_repr, Int.repr, String.toList_append, Nat.toList_repr]
      rfl
    rw [htext]
    exact spell_number rfl (isNumberPart_toDigits _) hnumber

end Token
end VolumeLifecycle.Json
