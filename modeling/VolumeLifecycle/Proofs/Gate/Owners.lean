import VolumeLifecycle.Proofs.Gate.Standing

namespace VolumeLifecycle.Gate

/-- A lock is taken exactly if some ticket owns it, and never more than one does. The loose lock is
the exception: nobody owns it any more, and it has still to be given back. -/
structure OwnersMatch (held? : Nat → Option Bool) (owned? : Nat → Option Nat)
    (loose : Option Nat) : Prop where
  held_iff : ∀ l b, held? l = some b → (b = true ↔ loose = some l ∨ ∃ id, owned? id = some l)
  unique : ∀ i j l, owned? i = some l → owned? j = some l → i = j
  not_loose : ∀ id l, owned? id = some l → loose ≠ some l

namespace OwnersMatch

variable {held? held?' : Nat → Option Bool} {owned? owned?' : Nat → Option Nat}

/-- A lock that is not taken becomes somebody's own. -/
theorem take (h : OwnersMatch held? owned? none) {l id : Nat} (hfree : held? l = some false)
    (hid : owned? id = none)
    (hheld : ∀ m, held?' m = if m = l then some true else held? m)
    (howned : ∀ j, owned?' j = if j = id then some l else owned? j) :
    OwnersMatch held?' owned?' none := by
  have hnobody : ∀ j, owned? j ≠ some l := by
    intro j hj
    have htaken := (h.held_iff l false hfree).2 (.inr ⟨j, hj⟩)
    cases htaken
  refine ⟨fun m b hb => ?_, fun i j m hi hj => ?_, fun _ _ _ => by simp⟩
  · rw [hheld] at hb
    split at hb
    · next hm =>
      cases hb
      exact ⟨fun _ => .inr ⟨id, by simp [howned, hm]⟩, fun _ => rfl⟩
    · next hm =>
      rw [h.held_iff m b hb]
      refine or_congr_right (exists_congr fun j => ?_)
      rw [howned]
      split
      · next hj => simp [hj, hid, Ne.symm hm]
      · rfl
  · rw [howned] at hi hj
    split at hi <;> split at hj
    · next hi' hj' => rw [hi', hj']
    · cases hi
      exact absurd hj (hnobody j)
    · cases hj
      exact absurd hi (hnobody i)
    · exact h.unique i j m hi hj

/-- An owner lets go of its lock, which is then loose. -/
theorem letGo (h : OwnersMatch held? owned? none) {l id : Nat} (hid : owned? id = some l)
    (howned : ∀ j, owned?' j = if j = id then none else owned? j) :
    OwnersMatch held? owned?' (some l) := by
  refine ⟨fun m b hb => ?_, fun i j m hi hj => ?_, fun j m hj => ?_⟩
  · rw [h.held_iff m b hb]
    constructor
    · rintro (hm | ⟨j, hj⟩)
      · cases hm
      · by_cases hji : j = id
        · rw [hji, hid] at hj
          exact .inl hj
        · exact .inr ⟨j, by simp [howned, hji, hj]⟩
    · rintro (hm | ⟨j, hj⟩)
      · exact .inr ⟨id, hid.trans hm⟩
      · rw [howned] at hj
        split at hj
        · cases hj
        · exact .inr ⟨j, hj⟩
  · rw [howned] at hi hj
    split at hi
    · cases hi
    · split at hj
      · cases hj
      · exact h.unique i j m hi hj
  · rw [howned] at hj
    split at hj
    · cases hj
    · next hji =>
      intro hm
      cases hm
      exact hji (h.unique j id l hj hid)

/-- A loose lock becomes somebody's own again. -/
theorem handOn {l : Nat} (h : OwnersMatch held? owned? (some l)) {id : Nat}
    (hid : owned? id = none) (howned : ∀ j, owned?' j = if j = id then some l else owned? j) :
    OwnersMatch held? owned?' none := by
  refine ⟨fun m b hb => ?_, fun i j m hi hj => ?_, fun _ _ _ => by simp⟩
  · rw [h.held_iff m b hb]
    constructor
    · rintro (hm | ⟨j, hj⟩)
      · exact .inr ⟨id, by simpa [howned] using hm⟩
      · have hji : j ≠ id := by
          rintro rfl
          rw [hid] at hj
          cases hj
        exact .inr ⟨j, by simp [howned, hji, hj]⟩
    · rintro (hm | ⟨j, hj⟩)
      · cases hm
      · rw [howned] at hj
        split at hj
        · exact .inl hj
        · exact .inr ⟨j, hj⟩
  · rw [howned] at hi hj
    split at hi <;> split at hj
    · next hi' hj' => rw [hi', hj']
    · cases hi
      exact absurd rfl (h.not_loose j l hj)
    · cases hj
      exact absurd rfl (h.not_loose i l hi)
    · exact h.unique i j m hi hj

/-- A loose lock is given back. -/
theorem giveBack {l : Nat} (h : OwnersMatch held? owned? (some l))
    (hheld : ∀ m, held?' m = if m = l then (held? m).map fun _ => false else held? m) :
    OwnersMatch held?' owned? none := by
  refine ⟨fun m b hb => ?_, h.unique, fun _ _ _ => by simp⟩
  rw [hheld] at hb
  split at hb
  · next hm =>
    subst hm
    obtain ⟨_, _, rfl⟩ := Option.map_eq_some_iff.1 hb
    constructor
    · simp
    · rintro (hnone | ⟨j, hj⟩)
      · cases hnone
      · exact absurd rfl (h.not_loose j m hj)
  · next hm =>
    have hne : l ≠ m := Ne.symm hm
    simpa [hne] using h.held_iff m b hb

end OwnersMatch

def taken? (g : Gate) (l : Nat) : Option Bool :=
  (g.lock? l).map Lock.isHeld

theorem taken?_setLock {g : Gate} {k : Lock} (hk : g.lock? k.id = some k) (isHeld : Bool)
    (queue : List Nat) (l : Nat) :
    (g.setLock ⟨k.id, isHeld, queue⟩).taken? l = if l = k.id then some isHeld else g.taken? l := by
  unfold taken?
  rw [lock?_setLock]
  split
  · next hl => simp [hl, hk]
  · rfl

section Frames

variable (g : Gate) (id l : Nat) (stage : Stage) (op : Operation) (s : Slots)

@[simp]
theorem taken?_setStage : (g.setStage id stage).taken? l = g.taken? l := rfl

@[simp]
theorem taken?_dropTicket : (g.dropTicket id).taken? l = g.taken? l := rfl

end Frames

end VolumeLifecycle.Gate
