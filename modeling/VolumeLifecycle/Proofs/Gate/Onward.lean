import VolumeLifecycle.Proofs.Gate.Settling

namespace VolumeLifecycle.Gate

/-- What a step that takes no ticket on its way in makes of a stage. -/
inductive Stage.Passes : Stage → Stage → Prop
  | stays (stage : Stage) : Passes stage stage
  | slot : Passes queued admitted
  | lock (l : Nat) : Passes (blocked l) (granted l)
  | leaves (l : Nat) : Passes (holding l) leaving

theorem Stage.Passes.trans {s₁ s₂ s₃ : Stage} (h : s₁.Passes s₂) (h' : s₂.Passes s₃) :
    s₁.Passes s₃ := by
  cases h with
  | stays => exact h'
  | slot =>
    cases h'
    exact .slot
  | lock l =>
    cases h'
    exact .lock l
  | leaves l =>
    cases h'
    exact .leaves l

theorem Stage.Passes.isPending {before after : Stage} (h : before.Passes after)
    (hpending : before.isPending = true) : after.isPending = true := by
  cases h with
  | leaves => cases hpending
  | stays => exact hpending
  | _ => rfl

/-- Whoever passes by a step of his own has the lock. -/
theorem Stage.Advances.exists_owned {before after : Stage} (h : before.Advances after)
    (hpending : before.isPending = true) (hpassed : after.isPending = false) :
    ∃ l, after.owned? = some l := by
  cases h with
  | stays =>
    rw [hpending] at hpassed
    cases hpassed
  | takes l => exact ⟨l, rfl⟩
  | notices l => exact ⟨l, rfl⟩
  | _ => cases hpassed

/-- Whether all tickets were there before and nobody's way in has been taken any further. -/
def Follows (g g' : Gate) : Prop :=
  ∀ j u, g'.ticket? j = some u →
    ∃ before : Stage, g.ticket? j = some { u with stage := before } ∧ before.Passes u.stage

variable {g g' g'' : Gate}

namespace Follows

theorem of_same (h : ∀ j, g'.ticket? j = g.ticket? j) : g.Follows g' :=
  fun j u hu => ⟨u.stage, h j ▸ hu, .stays _⟩

theorem refl (g : Gate) : g.Follows g :=
  of_same fun _ => rfl

theorem trans (h : g.Follows g') (h' : g'.Follows g'') : g.Follows g'' := by
  intro j u hu
  obtain ⟨_, hmid, hlast⟩ := h' j u hu
  obtain ⟨before, ht, hfirst⟩ := h j _ hmid
  exact ⟨before, ht, hfirst.trans hlast⟩

theorem of_same_tickets (h : g'.tickets = g.tickets) : g.Follows g' :=
  of_same fun j => by simp [ticket?, h]

theorem dropTicket (g : Gate) (id : Nat) : g.Follows (g.dropTicket id) := by
  intro j u hu
  rw [ticket?_dropTicket] at hu
  split at hu
  · cases hu
  · exact ⟨u.stage, hu, .stays _⟩

theorem setStage {id : Nat} {t : Ticket} (ht : g.ticket? id = some t) {stage : Stage}
    (hstage : t.stage.Passes stage) : g.Follows (g.setStage id stage) := by
  intro j u hu
  rw [ticket?_setStage] at hu
  split at hu
  · next hj =>
    obtain ⟨t', ht', rfl⟩ := Option.map_eq_some_iff.1 hu
    obtain rfl := Option.some.inj (ht.symm.trans ht')
    exact ⟨t.stage, hj ▸ ht, hstage⟩
  · exact ⟨u.stage, hu, .stays _⟩

theorem returnSlot {loose : Option Nat} (hsound : g.Sound loose) (op : Operation) :
    g.Follows (g.returnSlot op) := by
  unfold Gate.returnSlot
  split
  · exact refl g
  next s hs =>
  split
  · exact of_same_tickets (tickets_setSlots ..)
  · next id rest hqueue =>
    obtain ⟨t, ht, -, hstage⟩ := hsound.first_queued hs hqueue
    refine (of_same_tickets (tickets_setSlots ..)).trans
      (setStage ((ticket?_setSlots ..).trans ht) ?_)
    rw [hstage]
    exact .slot

theorem returnLock {loose : Option Nat} (hsound : g.Sound loose) (l : Nat) :
    g.Follows (g.returnLock l) := by
  unfold Gate.returnLock
  split
  · exact refl g
  next k hk =>
  split
  · exact of_same_tickets rfl
  · next id rest hqueue =>
    obtain ⟨t, ht, hstage⟩ := hsound.first_blocked hk hqueue
    refine (of_same_tickets (tickets_setLock ..)).trans
      (setStage ((ticket?_setLock ..).trans ht) ?_)
    rw [hstage]
    exact .lock l

theorem unlock (hsound : g.Sound none) (id : Nat) : g.Follows (g.unlock id) := by
  unfold Gate.unlock
  split
  · next l ht => exact (setStage ht (.leaves l)).trans (returnLock (hsound.letGo ht rfl) l)
  · exact refl g

theorem retire (hsound : g.Sound none) (id : Nat) : g.Follows (g.retire id) := by
  unfold Gate.retire
  split
  · next name op ht =>
    exact ((of_same_tickets (tickets_dropEntry g name)).trans (dropTicket _ id)).trans
      (returnSlot (hsound.dropLeaving ht rfl) op)
  · exact refl g

theorem cancel (hsound : g.Sound none) (id : Nat) : g.Follows (g.cancel id) := by
  unfold Gate.cancel
  split
  · next op stage ht =>
    split
    · exact dropTicket g id
    · exact (of_same_tickets (tickets_leaveSlotQueue ..)).trans (dropTicket _ id)
    · exact (dropTicket g id).trans (returnSlot (hsound.dropIdle ht rfl (by simp)) op)
    · exact ((of_same_tickets (tickets_leaveLockQueue ..)).trans (dropTicket _ id)).trans
        (returnSlot (hsound.dropBlocked ht rfl) op)
    · have hloose := hsound.dropOwner ht rfl
      exact ((dropTicket g id).trans (returnLock hloose _)).trans (returnSlot hloose.returnLock op)
    · exact refl g
  · exact refl g

end Follows

/-- What an event makes of the stage of a ticket. -/
inductive Stage.Becomes (e : Event) (j : Nat) : Stage → Stage → Prop
  | advances (he : e = .advance j) {before after : Stage} (h : before.Advances after) :
    Becomes e j before after
  /-- Another ticket goes on. -/
  | stays (id : Nat) (he : e = .advance id) (hne : j ≠ id) (stage : Stage) : Becomes e j stage stage
  | passes (he : ∀ id, e ≠ .advance id) {before after : Stage} (h : before.Passes after) :
    Becomes e j before after

theorem ticket?_of_arrive {id j : Nat} {name : String} {op : Operation} {u : Ticket}
    (hu : (g.arrive id name op).ticket? j = some u) :
    g.ticket? j = none ∧ u.stage = .arriving ∨ g.ticket? j = some u := by
  rw [ticket?_arrive] at hu
  split at hu
  · next hj =>
    subst hj
    cases ht : g.ticket? j with
    | none =>
      rw [ht] at hu
      cases hu
      exact .inl ⟨rfl, rfl⟩
    | some t =>
      rw [ht] at hu
      exact .inr hu
  · exact .inr hu

/-- A poll of one ticket leaves the others alone. -/
theorem Sound.ticket?_advance_of_ne (hsound : g.Sound none) {id j : Nat} (hj : j ≠ id) :
    (g.advance id).ticket? j = g.ticket? j := by
  cases ht : g.ticket? id with
  | none => rw [advance_eq_self (by simp [ht])]
  | some t =>
    obtain ⟨_, -, hticket⟩ := hsound.exists_advances ht
    rw [hticket, if_neg hj]

/-- A ticket has just come, or was there before and keeps its name and its class. -/
theorem Sound.exists_becomes (hsound : g.Sound none) {e : Event} {j : Nat} {u : Ticket}
    (hu : (g.apply e).ticket? j = some u) :
    g.ticket? j = none ∧ u.stage = .arriving ∨
      ∃ before, g.ticket? j = some { u with stage := before } ∧ before.Becomes e j u.stage := by
  have hfollows : (∀ id, e ≠ .advance id) → g.Follows (g.apply e) →
      ∃ before, g.ticket? j = some { u with stage := before } ∧ before.Becomes e j u.stage := by
    intro he hfollows
    obtain ⟨before, ht, hstage⟩ := hfollows j u hu
    exact ⟨before, ht, .passes he hstage⟩
  cases e with
  | arrive id name op =>
    refine (ticket?_of_arrive hu).imp_right fun ht => ?_
    exact ⟨u.stage, ht, .passes (by simp) (.stays _)⟩
  | advance id =>
    refine .inr ?_
    change (g.advance id).ticket? j = some u at hu
    by_cases hj : j = id
    · subst hj
      cases ht : g.ticket? j with
      | none =>
        rw [advance_eq_self (by simp [ht]), ht] at hu
        cases hu
      | some t =>
        obtain ⟨stage, hadvances, hticket⟩ := hsound.exists_advances ht
        rw [hticket, if_pos rfl] at hu
        cases hu
        exact ⟨t.stage, rfl, .advances rfl hadvances⟩
    · rw [hsound.ticket?_advance_of_ne hj] at hu
      exact ⟨u.stage, hu, .stays id rfl hj _⟩
  | unlock id => exact .inr (hfollows (by simp) (.unlock hsound id))
  | retire id => exact .inr (hfollows (by simp) (.retire hsound id))
  | cancel id => exact .inr (hfollows (by simp) (.cancel hsound id))

end VolumeLifecycle.Gate
