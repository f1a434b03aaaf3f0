
namespace VolumeLifecycle.Numbered

variable {α : Type} (key : α → Nat)

/-- Elements that are changed where they have a given number, and keep it, are found so. -/
theorem find?_update (xs : List α) (n : Nat) (f : α → α)
    (hkey : ∀ x, key x = n → key (f x) = n) (m : Nat) :
    (xs.map fun x => if key x = n then f x else x).find? (fun x => key x = m) =
      if m = n then (xs.find? fun x => key x = n).map f else xs.find? fun x => key x = m := by
  induction xs with
  | nil => simp
  | cons x xs ih =>
    by_cases hx : key x = n
    · by_cases hm : m = n
      · simp [hx, hm, hkey x hx]
      · have hne : ¬ n = m := fun h => hm h.symm
        simpa [hx, hm, hne, hkey x hx] using ih
    · by_cases hm : key x = m
      · have hne : ¬ m = n := fun h => hx (hm.trans h)
        simp [hm, hne]
      · simpa [hx, hm] using ih

/-- Without the elements of a number none is found under it, and nothing else changes. -/
theorem find?_remove (xs : List α) (n m : Nat) :
    (xs.filter fun x => key x ≠ n).find? (fun x => key x = m) =
      if m = n then none else xs.find? fun x => key x = m := by
  rw [List.find?_filter]
  by_cases hm : m = n
  · simp [hm]
  · rw [if_neg hm]
    congr 1
    funext x
    by_cases hx : key x = m <;> simp [hx, hm]

/-- An element put behind the others is found under its number unless there was one before. -/
theorem find?_snoc (xs : List α) (x : α) (m : Nat) :
    (xs ++ [x]).find? (fun y => key y = m) =
      (xs.find? fun y => key y = m).or (if key x = m then some x else none) := by
  rw [List.find?_append]
  by_cases hm : key x = m <;> simp [hm]

/-- As long as no number is used twice, the elements before and behind one have other numbers. -/
theorem exists_eq_append {xs : List α} (hnodup : (xs.map key).Nodup) {x : α} (hx : x ∈ xs) :
    ∃ ys zs, xs = ys ++ x :: zs ∧ (∀ y ∈ ys, key y ≠ key x) ∧ ∀ z ∈ zs, key z ≠ key x := by
  obtain ⟨ys, zs, hsplit⟩ := List.append_of_mem hx
  rw [hsplit, List.map_append, List.map_cons, List.nodup_append, List.nodup_cons] at hnodup
  obtain ⟨-, ⟨hafter, -⟩, hbefore⟩ := hnodup
  refine ⟨ys, zs, hsplit, fun y hy => ?_, fun z hz heq => ?_⟩
  · exact hbefore (key y) (List.mem_map_of_mem hy) (key x) List.mem_cons_self
  · exact hafter (heq ▸ List.mem_map_of_mem hz)

/-- As long as no number is used twice, every element is found under its own. -/
theorem find?_of_mem {xs : List α} (hnodup : (xs.map key).Nodup) {x : α} (hx : x ∈ xs) :
    xs.find? (fun y => key y = key x) = some x := by
  obtain ⟨ys, zs, hsplit, hbefore, -⟩ := exists_eq_append key hnodup hx
  have hnone : ys.find? (fun y => key y = key x) = none :=
    List.find?_eq_none.2 fun y hy => by simpa using hbefore y hy
  simp [hsplit, hnone]

/-- As long as no number is used twice, an element that is changed is changed in its place. -/
theorem map_update {ys zs : List α} {x : α} (hbefore : ∀ y ∈ ys, key y ≠ key x)
    (hafter : ∀ z ∈ zs, key z ≠ key x) (f : α → α) :
    ((ys ++ x :: zs).map fun y => if key y = key x then f y else y) = ys ++ f x :: zs := by
  have hkept : ∀ us : List α, (∀ u ∈ us, key u ≠ key x) →
      (us.map fun u => if key u = key x then f u else u) = us := by
    intro us hus
    refine (List.map_congr_left fun u hu => ?_).trans (List.map_id us)
    simp [hus u hu]
  rw [List.map_append, List.map_cons, hkept ys hbefore, hkept zs hafter, if_pos rfl]

/-- As long as no number is used twice, only one element is taken out. -/
theorem filter_remove {ys zs : List α} {x : α} (hbefore : ∀ y ∈ ys, key y ≠ key x)
    (hafter : ∀ z ∈ zs, key z ≠ key x) :
    (ys ++ x :: zs).filter (fun y => key y ≠ key x) = ys ++ zs := by
  have hkept : ∀ us : List α, (∀ u ∈ us, key u ≠ key x) →
      (us.filter fun u => key u ≠ key x) = us := by
    intro us hus
    exact List.filter_eq_self.2 fun u hu => by simpa using hus u hu
  rw [List.filter_append, List.filter_cons_of_neg (by simp), hkept ys hbefore, hkept zs hafter]

end VolumeLifecycle.Numbered
