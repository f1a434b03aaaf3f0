import VolumeLifecycle.Proofs.Gate.Moves

namespace VolumeLifecycle.Gate

/-- How many steps a ticket has before it, at most, until it waits or has passed. -/
def Stage.stepsLeft : Stage → Nat
  | arriving => 3
  | admitted => 2
  | located _ => 1
  | granted _ => 1
  | _ => 0

def Still (g : Gate) : Prop :=
  ∀ id t, g.ticket? id = some t → t.stage.stepsLeft = 0

def pollAll (g : Gate) (ids : List Nat) : Gate :=
  ids.foldl poll g

variable {g : Gate}

/-- To poll several tickets is to make one move after the other. -/
theorem pollAll_eq_play (ids : List Nat) : g.pollAll ids = g.play (ids.map Move.poll) := by
  rw [pollAll, play, List.foldl_map]
  rfl

theorem Stage.isPending_of_stepsLeft {stage : Stage} (h : stage.stepsLeft ≠ 0) :
    stage.isPending = true := by
  cases stage <;> simp_all [Stage.stepsLeft, Stage.isPending]

/-- A ticket at a pending stage is among the pending ones. -/
theorem mem_pending {id : Nat} {t : Ticket} (ht : g.ticket? id = some t)
    (hpending : t.stage.isPending = true) : id ∈ g.pending := by
  rw [← id_of_ticket? ht]
  exact List.mem_map_of_mem (List.mem_filter.2 ⟨mem_of_ticket? ht, hpending⟩)

/-- A poll of a ticket that cannot move changes nothing. -/
theorem advance_eq_self {id : Nat} (h : ∀ t, g.ticket? id = some t → t.stage.stepsLeft = 0) :
    g.advance id = g := by
  unfold advance
  split
  · rfl
  · next t ht =>
    have hdone := h t ht
    cases hstage : t.stage <;> simp_all [Stage.stepsLeft]

/-- A lock to which a ticket refers exists. -/
theorem Sound.exists_lock {loose : Option Nat} (hsound : g.Sound loose) {id : Nat} {t : Ticket}
    (ht : g.ticket? id = some t) {l : Nat} (hl : t.stage.lock? = some l) :
    ∃ k, g.lock? l = some k :=
  Option.isSome_iff_exists.1 (hsound.lock_of_entry t.name l (hsound.current id t ht l hl))

/-- What a step of a ticket makes of its stage: every stage on the way in leads to the next one. -/
inductive Stage.Advances : Stage → Stage → Prop
  | stays (stage : Stage) (hdone : stage.stepsLeft = 0) : Advances stage stage
  | queues : Advances arriving queued
  | enters : Advances arriving admitted
  | finds (l : Nat) : Advances admitted (located l)
  | blocks (l : Nat) : Advances (located l) (blocked l)
  | takes (l : Nat) : Advances (located l) (holding l)
  | notices (l : Nat) : Advances (granted l) (holding l)

/-- A step of a ticket moves it on, and moves no other. -/
theorem Sound.exists_advances (hsound : g.Sound none) {id : Nat} {t : Ticket}
    (ht : g.ticket? id = some t) :
    ∃ stage, t.stage.Advances stage ∧
      ∀ j, (g.advance id).ticket? j = if j = id then some { t with stage } else g.ticket? j := by
  obtain rfl := id_of_ticket? ht
  have hmoved : ∀ {g' : Gate} {stage : Stage}, g'.tickets = g.tickets → ∀ j,
      (g'.setStage t.id stage).ticket? j =
        if j = t.id then some { t with stage } else g.ticket? j := by
    intro g' stage htickets j
    have hsame : ∀ i, g'.ticket? i = g.ticket? i := fun i => by simp [ticket?, htickets]
    rw [ticket?_setStage, hsame, hsame, ht]
    rfl
  unfold Gate.advance
  rw [ht]
  dsimp only
  split
  · next hstage =>
    rw [hstage]
    unfold Gate.seekSlot
    split
    · exact ⟨.admitted, .enters, hmoved rfl⟩
    split
    · exact ⟨.admitted, .enters, hmoved (by simp)⟩
    · exact ⟨.queued, .queues, hmoved (by simp)⟩
  · next hstage =>
    rw [hstage]
    unfold Gate.findLock
    split
    · next l _ => exact ⟨.located l, .finds l, hmoved rfl⟩
    · exact ⟨.located g.locks.length, .finds _, hmoved rfl⟩
  · next l hstage =>
    obtain ⟨k, hk⟩ := hsound.exists_lock ht (l := l) (by simp [hstage, Stage.lock?])
    rw [hstage]
    unfold Gate.seekLock
    rw [hk]
    dsimp only
    split
    · exact ⟨.blocked l, .blocks l, hmoved rfl⟩
    · exact ⟨.holding l, .takes l, hmoved rfl⟩
  · next l hstage =>
    rw [hstage]
    exact ⟨.holding l, .notices l, hmoved rfl⟩
  · next harriving hadmitted hlocated hgranted =>
    refine ⟨t.stage, .stays _ ?_, fun j => ?_⟩
    · cases hstage : t.stage <;> simp_all [Stage.stepsLeft]
    · split
      · next hj => rw [hj, ht]
      · rfl

theorem Stage.Advances.stepsLeft_le {before after : Stage} (h : before.Advances after) :
    after.stepsLeft ≤ before.stepsLeft - 1 := by
  cases h with
  | stays _ hdone => simp [hdone]
  | _ => simp [Stage.stepsLeft]

/-- A step of a ticket takes it nearer to where it waits or has passed, and moves no other. -/
theorem Sound.ticket?_advance (hsound : g.Sound none) {id : Nat} {t : Ticket}
    (ht : g.ticket? id = some t) :
    ∃ stage : Stage, stage.stepsLeft ≤ t.stage.stepsLeft - 1 ∧
      ∀ j, (g.advance id).ticket? j = if j = id then some { t with stage } else g.ticket? j := by
  obtain ⟨stage, hadvances, hticket⟩ := hsound.exists_advances ht
  exact ⟨stage, hadvances.stepsLeft_le, hticket⟩

/-- After a poll its ticket waits or has passed, and no other ticket has moved. -/
theorem Sound.ticket?_poll (hsound : g.Sound none) {id : Nat} {t : Ticket}
    (ht : g.ticket? id = some t) :
    ∃ stage : Stage, stage.stepsLeft = 0 ∧
      ∀ j, (g.poll id).ticket? j = if j = id then some { t with stage } else g.ticket? j := by
  obtain ⟨first, hfirst, h₁⟩ := hsound.ticket?_advance ht
  obtain ⟨second, hsecond, h₂⟩ := (hsound.advance id).ticket?_advance ((h₁ id).trans (if_pos rfl))
  obtain ⟨third, hthird, h₃⟩ := ((hsound.advance id).advance id).ticket?_advance
    ((h₂ id).trans (if_pos rfl))
  -- A poll is three steps, and no ticket has more before it.
  have hmost : t.stage.stepsLeft ≤ 3 := by
    cases t.stage <;> simp [Stage.stepsLeft]
  dsimp only at hsecond hthird
  refine ⟨third, by omega, fun j => (h₃ j).trans ?_⟩
  split
  · rfl
  · next hj => rw [h₂, if_neg hj, h₁, if_neg hj]

theorem poll_of_ticket?_eq_none {id : Nat} (h : g.ticket? id = none) : g.poll id = g := by
  have hadvance : g.advance id = g := advance_eq_self fun t ht => by
    rw [h] at ht
    cases ht
  rw [poll, hadvance, hadvance, hadvance]

theorem Still.poll (h : g.Still) (id : Nat) : g.poll id = g := by
  have hadvance : g.advance id = g := advance_eq_self (h id)
  rw [Gate.poll, hadvance, hadvance, hadvance]

/-- The gate is still if and only if polling the pending tickets changes nothing. -/
theorem Sound.still_iff (hsound : g.Sound none) : g.Still ↔ ∀ id ∈ g.pending, g.poll id = g := by
  refine ⟨fun h id _ => h.poll id, fun h id t ht => ?_⟩
  by_cases hleft : t.stage.stepsLeft = 0
  · exact hleft
  obtain ⟨stage, hdone, hpolled⟩ := hsound.ticket?_poll ht
  rw [h id (mem_pending ht (Stage.isPending_of_stepsLeft hleft))] at hpolled
  have hsame := (hpolled id).symm.trans ht
  rw [if_pos rfl] at hsame
  exact (congrArg (·.stage.stepsLeft) (Option.some.inj hsame)).symm.trans hdone

theorem Sound.poll (hsound : g.Sound none) (id : Nat) : (g.poll id).Sound none :=
  ((hsound.advance id).advance id).advance id

/-- A ticket that is found after polls was there before, and it waits or has passed if it was
polled, or has not moved. -/
theorem Sound.ticket?_pollAll (hsound : g.Sound none) (ids : List Nat) {id : Nat} {t : Ticket}
    (ht : (g.pollAll ids).ticket? id = some t) :
    t.stage.stepsLeft = 0 ∨ id ∉ ids ∧ g.ticket? id = some t := by
  -- A ticket that waits after its own poll stays so: the polls of the others do not move it.
  induction ids generalizing g with
  | nil => exact .inr ⟨List.not_mem_nil, ht⟩
  | cons first rest ih =>
    rcases ih (hsound.poll first) ht with hdone | ⟨hrest, hpolled⟩
    · exact .inl hdone
    cases hfound : g.ticket? first with
    | none =>
      rw [poll_of_ticket?_eq_none hfound] at hpolled
      refine .inr ⟨?_, hpolled⟩
      rintro (_ | hmem)
      · rw [hfound] at hpolled
        cases hpolled
      · exact hrest ‹_›
    | some u =>
      obtain ⟨stage, hdone, hticket⟩ := hsound.ticket?_poll hfound
      rw [hticket] at hpolled
      split at hpolled
      · cases hpolled
        exact .inl hdone
      · next hne => exact .inr ⟨by simp [hne, hrest], hpolled⟩

/-- Once every pending ticket has been polled, in whatever order, the gate is still. -/
theorem Sound.still_pollAll (hsound : g.Sound none) {ids : List Nat}
    (hall : ∀ id ∈ g.pending, id ∈ ids) : (g.pollAll ids).Still := by
  intro id t ht
  rcases hsound.ticket?_pollAll ids ht with hdone | ⟨hnot, hbefore⟩
  · exact hdone
  · by_cases hleft : t.stage.stepsLeft = 0
    · exact hleft
    · exact absurd (hall id (mem_pending hbefore (Stage.isPending_of_stepsLeft hleft))) hnot

end VolumeLifecycle.Gate
