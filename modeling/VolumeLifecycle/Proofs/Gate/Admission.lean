import Mathlib.Algebra.GroupWithZero.Nat
import VolumeLifecycle.Proofs.Gate.Exclusion

namespace VolumeLifecycle.Gate

def Stage.hasSlot : Stage → Bool
  | arriving => false
  | queued => false
  | _ => true

/-- One if a ticket of a class at a stage has a slot of that class, else nothing. -/
def Ticket.slotsOf (op : Operation) (t : Ticket) (stage : Stage) : Nat :=
  if t.op = op ∧ stage.hasSlot = true then 1 else 0

def slotsInUse (g : Gate) (op : Operation) : Nat :=
  (g.tickets.map fun t => t.slotsOf op t.stage).sum

/-- Free slots, slots in use and slots on their way from one to the other make up all slots of a
class, and a slot is free only if nobody waits for one. -/
structure Balanced (g : Gate) (op : Operation) (inTransit total : Nat) : Prop where
  sum_eq : ∀ s, g.slots? op = some s → s.free + g.slotsInUse op + inTransit = total
  free_eq_zero : ∀ s, g.slots? op = some s → s.queue ≠ [] → s.free = 0

/-- A ticket that moves takes its slot along. -/
theorem slotsInUse_setStage {g : Gate} (h : (g.tickets.map Ticket.id).Nodup) {t : Ticket}
    (ht : g.ticket? t.id = some t) (stage : Stage) (op : Operation) :
    (g.setStage t.id stage).slotsInUse op + t.slotsOf op t.stage =
      g.slotsInUse op + t.slotsOf op stage := by
  obtain ⟨ts, us, hsplit, hbefore, hafter⟩ :=
    Numbered.exists_eq_append Ticket.id h (mem_of_ticket? ht)
  have hmoved : (g.setStage t.id stage).tickets = ts ++ { t with stage } :: us := by
    simp only [setStage, hsplit]
    exact Numbered.map_update Ticket.id hbefore hafter fun u => { u with stage }
  have hslot : Ticket.slotsOf op { t with stage } stage = t.slotsOf op stage := rfl
  simp only [slotsInUse, hmoved, hsplit, List.map_append, List.map_cons, List.sum_append,
    List.sum_cons, hslot]
  omega

/-- A ticket that is dropped gives up its slot. -/
theorem slotsInUse_dropTicket {g : Gate} (h : (g.tickets.map Ticket.id).Nodup) {t : Ticket}
    (ht : g.ticket? t.id = some t) (op : Operation) :
    (g.dropTicket t.id).slotsInUse op + t.slotsOf op t.stage = g.slotsInUse op := by
  obtain ⟨ts, us, hsplit, hbefore, hafter⟩ :=
    Numbered.exists_eq_append Ticket.id h (mem_of_ticket? ht)
  have hleft : (g.dropTicket t.id).tickets = ts ++ us := by
    simp only [dropTicket, hsplit]
    exact Numbered.filter_remove Ticket.id hbefore hafter
  simp only [slotsInUse, hleft, hsplit, List.map_append, List.map_cons, List.sum_append,
    List.sum_cons]
  omega

@[simp]
theorem slotsInUse_setSlots (g : Gate) (op other : Operation) (s : Slots) :
    (g.setSlots op s).slotsInUse other = g.slotsInUse other := by
  simp [slotsInUse]

@[simp]
theorem slotsInUse_setLock (g : Gate) (k : Lock) (op : Operation) :
    (g.setLock k).slotsInUse op = g.slotsInUse op := rfl

namespace Balanced

variable {g : Gate} {op : Operation} {inTransit total : Nat}

/-- Only the free slots, the queue and the number of slots in use matter. -/
theorem of_same_slots (h : g.Balanced op inTransit total) {g' : Gate} {inTransit' : Nat}
    (hslots : g'.slots? op = g.slots? op)
    (huse : g'.slotsInUse op + inTransit' = g.slotsInUse op + inTransit) :
    g'.Balanced op inTransit' total := by
  refine ⟨fun s hs => ?_, fun s hs => h.free_eq_zero s (hslots ▸ hs)⟩
  have hsum := h.sum_eq s (hslots ▸ hs)
  omega

theorem setStage (h : g.Balanced op inTransit total) (hids : (g.tickets.map Ticket.id).Nodup)
    {t : Ticket} (ht : g.ticket? t.id = some t) {stage : Stage}
    (hslot : stage.hasSlot = t.stage.hasSlot) :
    (g.setStage t.id stage).Balanced op inTransit total := by
  refine h.of_same_slots (by simp) ?_
  have huse := slotsInUse_setStage hids ht stage op
  simp only [Ticket.slotsOf, hslot] at huse
  omega

theorem arrive (h : g.Balanced op inTransit total) (id : Nat) (name : String) (o : Operation) :
    (g.arrive id name o).Balanced op inTransit total := by
  unfold Gate.arrive
  split
  · exact h
  · refine h.of_same_slots (by cases op <;> rfl) ?_
    simp [slotsInUse, Ticket.slotsOf, Stage.hasSlot]

/-- If the slots of one class change, its own account has to be right, and for any other class the
number of slots in use has to stay what it was. -/
theorem of_setSlots (h : g.Balanced op inTransit total) {o : Operation} {s s' : Slots}
    (hs : g.slots? o = some s) {g' : Gate} {inTransit' : Nat}
    (hslots : ∀ x, g'.slots? x = (g.setSlots o s').slots? x)
    (hown : o = op → s'.free + g'.slotsInUse op + inTransit' = total)
    (hfree : o = op → s'.queue ≠ [] → s'.free = 0)
    (hother : o ≠ op → g'.slotsInUse op + inTransit' = g.slotsInUse op + inTransit) :
    g'.Balanced op inTransit' total := by
  have hafter : g'.slots? op = if op = o then some s' else g.slots? op := by
    rw [hslots, slots?_setSlots, hs]
    rfl
  by_cases ho : o = op
  · rw [if_pos ho.symm] at hafter
    refine ⟨fun u hu => ?_, fun u hu => ?_⟩ <;> (rw [hafter] at hu; cases hu)
    · exact hown ho
    · exact hfree ho
  · rw [if_neg (Ne.symm ho)] at hafter
    exact h.of_same_slots hafter (hother ho)

theorem seekSlot (h : g.Balanced op inTransit total) (hids : (g.tickets.map Ticket.id).Nodup)
    {t : Ticket} (ht : g.ticket? t.id = some t) (hstage : t.stage = .arriving) :
    (g.seekSlot t).Balanced op inTransit total := by
  have huse : ∀ (s : Slots) (stage : Stage),
      ((g.setSlots t.op s).setStage t.id stage).slotsInUse op =
        g.slotsInUse op + t.slotsOf op stage := by
    intro s stage
    have hmoved := slotsInUse_setStage (g := g.setSlots t.op s) (by simpa using hids)
      (by simpa using ht) stage op
    simpa [Ticket.slotsOf, hstage, Stage.hasSlot] using hmoved
  unfold Gate.seekSlot
  split
  · next hnone =>
    refine ⟨fun s hs => ?_, fun s hs => h.free_eq_zero s (by simpa using hs)⟩
    have hne : t.op ≠ op := by
      rintro rfl
      simp [hnone] at hs
    have hmoved := slotsInUse_setStage hids ht .admitted op
    have hsum := h.sum_eq s (by simpa using hs)
    simp only [Ticket.slotsOf, hne, false_and, if_false] at hmoved
    omega
  next s hs =>
  split
  · next hfree =>
    refine h.of_setSlots hs (slots?_setStage _ _ _ ·) ?_ ?_ ?_
    · rintro rfl
      have hsum := h.sum_eq s hs
      simp only [huse, Ticket.slotsOf, Stage.hasSlot, and_self, if_true]
      omega
    · rintro rfl hqueue
      simp [h.free_eq_zero s hs hqueue]
    · intro hne
      simp [huse, Ticket.slotsOf, hne]
  · next hfull =>
    refine h.of_setSlots hs (slots?_setStage _ _ _ ·) ?_ ?_ ?_
    · rintro rfl
      simpa [huse, Ticket.slotsOf, Stage.hasSlot] using h.sum_eq s hs
    · intro _ _
      exact Nat.eq_zero_of_not_pos hfull
    · intro _
      simp [huse, Ticket.slotsOf, Stage.hasSlot]

/-- A slot on its way comes to rest: with the first ticket in the queue, or with the free ones. -/
theorem returnSlot (hsound : g.Sound none) {o : Operation}
    (h : g.Balanced op (inTransit + if o = op then 1 else 0) total) :
    (g.returnSlot o).Balanced op inTransit total := by
  unfold Gate.returnSlot
  split
  · next hnone =>
    refine ⟨fun s hs => ?_, h.free_eq_zero⟩
    have hne : o ≠ op := by
      rintro rfl
      simp [hnone] at hs
    simpa [hne] using h.sum_eq s hs
  next s hs =>
  split
  · next hqueue =>
    refine h.of_setSlots hs (fun _ => rfl) ?_ ?_ ?_
    · rintro rfl
      have hsum := h.sum_eq s hs
      simp only [slotsInUse_setSlots, if_true] at hsum ⊢
      omega
    · intro _ hne
      exact absurd hqueue hne
    · intro hne
      simp [hne]
  · next id rest hqueue =>
    obtain ⟨t, ht, rfl, hstage⟩ := hsound.first_queued hs hqueue
    obtain rfl := id_of_ticket? ht
    have huse := slotsInUse_setStage (g := g.setSlots t.op { s with queue := rest })
      (by simpa using hsound.ids_nodup) (by simpa using ht) .admitted op
    simp only [Ticket.slotsOf, hstage, Stage.hasSlot, slotsInUse_setSlots, Bool.false_eq_true,
      and_false, if_false, and_true] at huse
    refine h.of_setSlots hs (slots?_setStage _ _ _ ·) ?_ ?_ ?_
    · rintro rfl
      have hsum := h.sum_eq s hs
      simp only [if_true] at hsum huse ⊢
      omega
    · rintro rfl _
      exact h.free_eq_zero s hs (by simp [hqueue])
    · intro hne
      simp only [hne, if_false] at huse ⊢
      omega

/-- The slot of a ticket that is dropped is on its way. -/
theorem dropTicket (h : g.Balanced op inTransit total) (hids : (g.tickets.map Ticket.id).Nodup)
    {id : Nat} {t : Ticket} (ht : g.ticket? id = some t) (hslot : t.stage.hasSlot = true) :
    (g.dropTicket id).Balanced op (inTransit + if t.op = op then 1 else 0) total := by
  obtain rfl := id_of_ticket? ht
  refine h.of_same_slots (by simp) ?_
  have huse := slotsInUse_dropTicket hids ht op
  simp only [Ticket.slotsOf, hslot, and_true] at huse
  omega

/-- A ticket without a slot can be dropped. -/
theorem dropTicket_of_not_hasSlot (h : g.Balanced op inTransit total)
    (hids : (g.tickets.map Ticket.id).Nodup) {id : Nat} {t : Ticket} (ht : g.ticket? id = some t)
    (hslot : t.stage.hasSlot = false) : (g.dropTicket id).Balanced op inTransit total := by
  obtain rfl := id_of_ticket? ht
  refine h.of_same_slots (by simp) ?_
  have huse := slotsInUse_dropTicket hids ht op
  simp only [Ticket.slotsOf, hslot, Bool.false_eq_true, and_false, if_false] at huse
  omega

/-- Whoever waits for a slot has none, so the account does not change when a ticket leaves the
queue. -/
theorem leaveSlotQueue (h : g.Balanced op inTransit total) (o : Operation) (id : Nat) :
    (g.leaveSlotQueue o id).Balanced op inTransit total := by
  unfold Gate.leaveSlotQueue
  split
  · exact h
  next s hs =>
  refine h.of_setSlots hs (fun _ => rfl) ?_ ?_ (by simp)
  · rintro rfl
    simpa using h.sum_eq s hs
  · rintro rfl hne
    exact h.free_eq_zero s hs fun hempty => hne (by simp [hempty])

/-- Handing a lock on moves a ticket that has its slot already. -/
theorem returnLock {loose : Option Nat} (hsound : g.Sound loose)
    (h : g.Balanced op inTransit total) (l : Nat) : (g.returnLock l).Balanced op inTransit total := by
  unfold Gate.returnLock
  split
  · exact h
  next k hk =>
  split
  · exact h.of_same_slots (by simp) (by simp)
  · next id rest hqueue =>
    obtain ⟨t, ht, hstage⟩ := hsound.first_blocked hk hqueue
    obtain rfl := id_of_ticket? ht
    have hlocked : (g.setLock { k with queue := rest }).Balanced op inTransit total :=
      h.of_same_slots (by simp) (by simp)
    exact hlocked.setStage (by simpa using hsound.ids_nodup) (by simpa using ht)
      (by simp [hstage, Stage.hasSlot])

theorem advance (hsound : g.Sound none) (h : g.Balanced op inTransit total) (id : Nat) :
    (g.advance id).Balanced op inTransit total := by
  unfold Gate.advance
  split
  · exact h
  next t ht =>
  obtain rfl := id_of_ticket? ht
  split
  · next hstage => exact h.seekSlot hsound.ids_nodup ht hstage
  · next hstage =>
    unfold Gate.findLock
    split
    · exact h.setStage hsound.ids_nodup ht (by simp [hstage, Stage.hasSlot])
    · refine setStage (g := { g with
        entries := g.entries.insert t.name g.locks.length
        locks := g.locks ++ [⟨g.locks.length, false, []⟩] })
        (h.of_same_slots (by cases op <;> rfl) rfl) hsound.ids_nodup ht ?_
      simp [hstage, Stage.hasSlot]
  · next l hstage =>
    unfold Gate.seekLock
    split
    · exact h
    next k _ =>
    have hlocked : ∀ k', (g.setLock k').Balanced op inTransit total := fun k' =>
      h.of_same_slots (by simp) (by simp)
    split
    · exact (hlocked _).setStage hsound.ids_nodup ht (by simp [hstage, Stage.hasSlot])
    · exact (hlocked _).setStage hsound.ids_nodup ht (by simp [hstage, Stage.hasSlot])
  · next l hstage => exact h.setStage hsound.ids_nodup ht (by simp [hstage, Stage.hasSlot])
  · exact h

theorem unlock (hsound : g.Sound none) (h : g.Balanced op inTransit total) (id : Nat) :
    (g.unlock id).Balanced op inTransit total := by
  unfold Gate.unlock
  split
  · next ht =>
    obtain rfl := id_of_ticket? ht
    have hmoved : (g.setStage _ .leaving).Balanced op inTransit total :=
      h.setStage hsound.ids_nodup ht rfl
    exact hmoved.returnLock (hsound.letGo ht rfl) _
  · exact h

theorem retire (hsound : g.Sound none) (h : g.Balanced op inTransit total) (id : Nat) :
    (g.retire id).Balanced op inTransit total := by
  unfold Gate.retire
  split
  · next name o ht =>
    obtain rfl := id_of_ticket? ht
    have hkept := tickets_dropEntry g name
    have hdropped : (g.dropEntry name).Balanced op inTransit total :=
      h.of_same_slots (slots?_dropEntry g op name) (by simp [slotsInUse, hkept])
    have hticket : (g.dropEntry name).ticket? _ = some _ := (ticket?_dropEntry g _ name).trans ht
    exact returnSlot (hsound.dropLeaving ht rfl)
      (hdropped.dropTicket (hsound.dropEntry name).ids_nodup hticket rfl)
  · exact h

theorem cancel (hsound : g.Sound none) (h : g.Balanced op inTransit total) (id : Nat) :
    (g.cancel id).Balanced op inTransit total := by
  unfold Gate.cancel
  split
  · next o stage ht =>
    split
    · exact h.dropTicket_of_not_hasSlot hsound.ids_nodup ht rfl
    · exact (h.leaveSlotQueue o id).dropTicket_of_not_hasSlot
        (by simpa [tickets_leaveSlotQueue] using hsound.ids_nodup)
        (by simpa [ticket?, tickets_leaveSlotQueue] using ht) rfl
    · exact returnSlot (hsound.dropIdle ht rfl (by simp))
        (h.dropTicket hsound.ids_nodup ht rfl)
    · next l =>
      have hkept := tickets_leaveLockQueue g id l
      have hleft : (g.leaveLockQueue l id).Balanced op inTransit total :=
        h.of_same_slots (slots?_leaveLockQueue g id op l) (by simp [slotsInUse, hkept])
      exact returnSlot (hsound.dropBlocked ht rfl)
        (hleft.dropTicket (by simpa [hkept] using hsound.ids_nodup)
          (by simpa [ticket?, hkept] using ht) rfl)
    · next l =>
      have hdropped := h.dropTicket hsound.ids_nodup ht rfl
      exact returnSlot (hsound.dropOwner ht rfl).returnLock
        (hdropped.returnLock (hsound.dropOwner ht rfl) l)
    · exact h
  · exact h

/-- What one atomic step keeps. -/
theorem apply (hsound : g.Sound none) (h : g.Balanced op inTransit total) (e : Event) :
    (g.apply e).Balanced op inTransit total := by
  cases e with
  | arrive id name o => exact h.arrive id name o
  | advance id => exact h.advance hsound id
  | unlock id => exact h.unlock hsound id
  | retire id => exact h.retire hsound id
  | cancel id => exact h.cancel hsound id

/-- What any number of atomic steps keeps. -/
theorem run (hsound : g.Sound none) (h : g.Balanced op inTransit total) (events : List Event) :
    (g.run events).Balanced op inTransit total := by
  induction events generalizing g with
  | nil => exact h
  | cons e rest ih => exact ih (hsound.apply e) (h.apply hsound e)

/-- When all tickets have left, all slots are free. -/
theorem available_eq (h : g.Balanced op 0 total) (hleft : g.tickets = []) {s : Slots}
    (hs : g.slots? op = some s) : g.available op = some total := by
  have hsum := h.sum_eq s hs
  simp only [slotsInUse, hleft, List.map_nil, List.sum_nil] at hsum
  simpa [available, hs] using hsum

/-- Never more tickets of a class have a slot than there are slots. -/
theorem length_le (h : g.Balanced op inTransit total) {s : Slots} (hs : g.slots? op = some s) :
    (g.tickets.filter fun t => t.op = op ∧ t.stage.hasSlot = true).length ≤ total := by
  have hcount : ∀ ts : List Ticket,
      (ts.filter fun t => t.op = op ∧ t.stage.hasSlot = true).length =
        (ts.map fun t => t.slotsOf op t.stage).sum := by
    intro ts
    induction ts with
    | nil => rfl
    | cons t rest ih =>
      rw [List.map_cons, List.sum_cons, ← ih, Ticket.slotsOf, List.filter_cons]
      split
      · next hslot => simp only [decide_eq_true_eq] at hslot; simp [hslot, Nat.add_comm]
      · next hslot => simp only [decide_eq_true_eq] at hslot; simp [hslot]
  have hsum := h.sum_eq s hs
  rw [hcount]
  simp only [slotsInUse] at hsum
  omega

end Balanced

def bound? (c : Config.Admission) : Operation → Option Nat
  | .mount => some (slotsFor c.mount)
  | .unmount => some (slotsFor c.unmount)
  | _ => none

/-- In a new gate all slots of a class are free. -/
theorem balanced_of_ofConfig {c : Config.Admission} {g : Gate} (h : ofConfig c = .ok g)
    {op : Operation} {total : Nat} (hop : bound? c op = some total) :
    g.Balanced op 0 total := by
  unfold ofConfig at h
  split at h
  · cases h
  · cases h
    constructor <;> cases op <;> cases hop <;> simp [slots?, slotsInUse]

end VolumeLifecycle.Gate
