import VolumeLifecycle.Text.Fragment

namespace VolumeLifecycle.Text

variable {sep : Char}

theorem splitChars_ne_nil (s : List Char) : splitChars sep s ≠ [] := by
  cases s with
  | nil => nofun
  | cons c rest =>
    rw [splitChars]
    split
    · nofun
    · split <;> nofun

/-- Splitting starts anew at every separator. -/
theorem splitChars_append (s t : List Char) :
    splitChars sep (s ++ sep :: t) = splitChars sep s ++ splitChars sep t := by
  induction s with
  | nil =>
    rw [List.nil_append, splitChars, splitChars, List.singleton_append]
    cases h : splitChars sep t with
    | nil => exact absurd h (splitChars_ne_nil t)
    | cons piece pieces => exact if_pos rfl
  | cons c rest ih =>
    rw [List.cons_append, splitChars, splitChars, ih]
    cases h : splitChars sep rest with
    | nil => exact absurd h (splitChars_ne_nil rest)
    | cons piece pieces =>
      dsimp only [List.cons_append]
      split <;> rfl

theorem splitChars_of_not_mem {s : List Char} (h : sep ∉ s) : splitChars sep s = [s] := by
  induction s with
  | nil => rfl
  | cons c rest ih =>
    rw [splitChars, ih (List.not_mem_of_not_mem_cons h)]
    exact if_neg (Ne.symm (List.ne_of_not_mem_cons h))

/-- The pieces with separators between them are the text. -/
theorem intercalate_splitChars (s : List Char) : [sep].intercalate (splitChars sep s) = s := by
  induction s with
  | nil => rfl
  | cons c rest ih =>
    rw [splitChars]
    cases h : splitChars sep rest with
    | nil => exact absurd h (splitChars_ne_nil rest)
    | cons piece pieces =>
      rw [h] at ih
      dsimp only
      split
      · next hc => rw [List.intercalate_cons_cons, ih, hc]; rfl
      · cases pieces with
        | nil => simpa using ih
        | cons next pieces => simpa [List.intercalate_cons_cons] using ih

end VolumeLifecycle.Text
