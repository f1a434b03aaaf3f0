import Mathlib.Data.List.DropRight
import VolumeLifecycle.Text.Blank

namespace VolumeLifecycle.Text

/-- A text that is not empty and has no blank at either end. -/
structure Neat (s : String) : Prop where
  ne_empty : s ≠ ""
  head : ∀ c, s.toList.head? = some c → isBlank c = false
  last : ∀ c, s.toList.getLast? = some c → isBlank c = false

/-- What is left begins where the text without the blanks in front begins. -/
theorem trimChars_prefix_dropWhile (s : List Char) : trimChars s <+: s.dropWhile isBlank :=
  List.rdropWhile_prefix isBlank _

theorem head?_trimChars {s : List Char} {c : Char} (h : (trimChars s).head? = some c) :
    isBlank c = false := by
  obtain ⟨rest, hrest⟩ := trimChars_prefix_dropWhile s
  have hdrop : (s.dropWhile isBlank).head? = some c := by
    rw [← hrest, List.head?_append, h]
    rfl
  simpa [hdrop] using List.head?_dropWhile_not isBlank s

theorem getLast?_trimChars {s : List Char} {c : Char} (h : (trimChars s).getLast? = some c) :
    isBlank c = false := by
  rw [trimChars, List.getLast?_reverse] at h
  simpa [h] using List.head?_dropWhile_not isBlank (s.dropWhile isBlank).reverse

theorem trimChars_eq_self {s : List Char} (hhead : ∀ c, s.head? = some c → isBlank c = false)
    (hlast : ∀ c, s.getLast? = some c → isBlank c = false) : trimChars s = s := by
  have hdrop : s.dropWhile isBlank = s := by
    cases s with
    | nil => rfl
    | cons c rest => exact List.dropWhile_cons_of_neg (by simp [hhead c rfl])
  change (s.dropWhile isBlank).rdropWhile isBlank = s
  rw [hdrop, List.rdropWhile_eq_self_iff]
  intro hne
  simp [hlast _ (List.getLast?_eq_some_getLast hne)]

theorem trimChars_trimChars (s : List Char) : trimChars (trimChars s) = trimChars s :=
  trimChars_eq_self (fun _ => head?_trimChars) fun _ => getLast?_trimChars

theorem trim_trim (s : String) : trim (trim s) = trim s := by
  rw [trim, trim, String.toList_ofList, trimChars_trimChars]

/-- Blanks around a text go when it is trimmed, and nothing else does. -/
theorem trimChars_blanks_around {front back : List Char} (hfront : ∀ c ∈ front, isBlank c = true)
    (hback : ∀ c ∈ back, isBlank c = true) (s : List Char) :
    trimChars (front ++ s ++ back) = trimChars s := by
  have hbehind : ∀ t : List Char, (t ++ back).rdropWhile isBlank = t.rdropWhile isBlank := by
    intro t
    rw [List.rdropWhile, List.reverse_append,
      List.dropWhile_append_of_pos fun c hc => hback c (List.mem_reverse.1 hc)]
    rfl
  change ((front ++ s ++ back).dropWhile isBlank).rdropWhile isBlank =
    (s.dropWhile isBlank).rdropWhile isBlank
  rw [List.append_assoc, List.dropWhile_append_of_pos hfront, List.dropWhile_append]
  split
  · next hempty =>
    -- Nothing is left of `s`, and so nothing of what stands behind it.
    rw [List.isEmpty_iff.1 hempty, List.dropWhile_eq_nil_iff.2 hback]
  · rw [hbehind]

def Padded (s t : String) : Prop :=
  ∃ front back, isBlankText front = true ∧ isBlankText back = true ∧ t = front ++ s ++ back

theorem Padded.trim_eq {s t : String} (h : Padded s t) : trim t = trim s := by
  obtain ⟨front, back, hfront, hback, rfl⟩ := h
  rw [trim, trim, String.toList_append, String.toList_append,
    trimChars_blanks_around (List.all_eq_true.1 hfront) (List.all_eq_true.1 hback)]

/-- Nothing is left of a blank text only. -/
theorem trimChars_eq_nil_iff {s : List Char} : trimChars s = [] ↔ ∀ c ∈ s, isBlank c = true := by
  have hback : trimChars s = [] ↔ ∀ c ∈ s.dropWhile isBlank, isBlank c = true :=
    List.rdropWhile_eq_nil_iff
  rw [hback]
  constructor
  · intro h
    refine List.dropWhile_eq_nil_iff.1 ?_
    cases hdrop : s.dropWhile isBlank with
    | nil => rfl
    | cons c rest =>
      have hblank := h c (by simp [hdrop])
      have hnot := List.head?_dropWhile_not isBlank s
      simp [hdrop, hblank] at hnot
  · intro h c hc
    exact h c (List.dropWhile_sublist isBlank |>.subset hc)

theorem trim_eq_empty {s : String} (h : isBlankText s = true) : trim s = "" := by
  rw [trim, trimChars_eq_nil_iff.2 (List.all_eq_true.1 h)]

theorem neat_trim {s : String} (h : isBlankText s = false) : Neat (trim s) where
  ne_empty hempty := by
    have hnil : trimChars s.toList = [] := by
      simpa [trim] using hempty
    have hall : isBlankText s = true := List.all_eq_true.2 (trimChars_eq_nil_iff.1 hnil)
    rw [hall] at h
    cases h
  head c hc := by
    rw [trim, String.toList_ofList] at hc
    exact head?_trimChars hc
  last c hc := by
    rw [trim, String.toList_ofList] at hc
    exact getLast?_trimChars hc

theorem Neat.trim_eq {s : String} (h : Neat s) : trim s = s := by
  rw [trim, trimChars_eq_self h.head h.last, String.ofList_toList]

theorem Neat.isBlankText_eq {s : String} (h : Neat s) : isBlankText s = false := by
  cases hs : s.toList with
  | nil => exact absurd (String.toList_eq_nil_iff.1 hs) h.ne_empty
  | cons c rest =>
    have hc := h.head c (by rw [hs, List.head?_cons])
    simp [isBlankText, hs, hc]

/-- A text without any blank is neat if it is not empty. -/
theorem neat_of_forall {s : String} (hne : s ≠ "") (h : ∀ c ∈ s.toList, isBlank c = false) :
    Neat s where
  ne_empty := hne
  head c hc := h c (List.mem_of_mem_head? hc)
  last c hc := h c (List.mem_of_getLast? hc)

end VolumeLifecycle.Text
