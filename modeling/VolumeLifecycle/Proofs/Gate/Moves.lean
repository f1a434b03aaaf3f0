import VolumeLifecycle.Proofs.Gate.Passing

namespace VolumeLifecycle.Gate

/-- What a caller does in one go. A workflow that drops its handle and one that releases it leave
alike. -/
inductive Move where
  | start (id : Nat) (name : String) (op : Operation)
  | poll (id : Nat)
  | leave (id : Nat)
  | cancel (id : Nat)
  deriving DecidableEq

/-- The atomic steps of a move: those of `poll` for a poll, and those of `release` for leaving. -/
def Move.events : Move → List Event
  | start id name op => [.arrive id name op]
  | poll id => [.advance id, .advance id, .advance id]
  | leave id => [.unlock id, .retire id]
  | cancel id => [.cancel id]

def move (g : Gate) (m : Move) : Gate :=
  g.run m.events

def play (g : Gate) (moves : List Move) : Gate :=
  moves.foldl move g

theorem play_cons (g : Gate) (m : Move) (moves : List Move) :
    g.play (m :: moves) = (g.move m).play moves :=
  rfl

/-- Whole moves are rows of atomic steps. -/
theorem play_eq_run (g : Gate) (moves : List Move) :
    g.play moves = g.run (moves.flatMap Move.events) := by
  induction moves generalizing g with
  | nil => rfl
  | cons m rest ih =>
    rw [play_cons, ih, List.flatMap_cons, run, run, move, run, List.foldl_append]

/-- The last of a row of steps is taken from the state to which the others have led. -/
theorem run_concat (g : Gate) (events : List Event) (e : Event) :
    g.run (events ++ [e]) = (g.run events).apply e := by
  rw [run, List.foldl_append]
  rfl

def NoneLeaving (g : Gate) : Prop :=
  ∀ id s, g.standing? id = some s → s.phase ≠ .leaving

variable {g : Gate}

/-- A ticket that is given up goes, unless it stays as it is; the others are not touched. -/
theorem standing?_cancel (hsound : g.Sound none) (id j : Nat) :
    (g.cancel id).standing? j = g.standing? j ∨ (g.cancel id).standing? j = none := by
  have hdrop : ∀ {g' : Gate}, g'.tickets = g.tickets →
      (g'.dropTicket id).standing? j = g.standing? j ∨ (g'.dropTicket id).standing? j = none := by
    intro g' htickets
    rw [standing?_dropTicket, standing?_of_same_tickets htickets]
    split
    · exact .inr rfl
    · exact .inl rfl
  unfold cancel
  split
  · next op stage ht =>
    -- What the ticket held is handed on after it is gone, and being handed something is no move.
    split
    · exact hdrop rfl
    · exact hdrop (tickets_leaveSlotQueue _ _ _)
    · rw [standing?_returnSlot (hsound.dropIdle ht rfl (by simp))]
      exact hdrop rfl
    · rw [standing?_returnSlot (hsound.dropBlocked ht rfl)]
      exact hdrop (tickets_leaveLockQueue _ _ _)
    · have hloose := hsound.dropOwner ht rfl
      rw [standing?_returnSlot hloose.returnLock, standing?_returnLock hloose]
      exact hdrop rfl
    · exact .inl rfl
  · exact .inl rfl

theorem release_of_not_inside {id : Nat}
    (h : ∀ s, g.standing? id = some s → s.phase = .outside) : g.release id = g := by
  cases ht : g.ticket? id with
  | none => simp [release, unlock, retire, ht]
  | some t =>
    obtain ⟨num, name, op, stage⟩ := t
    have hphase : stage.phase = .outside := h ⟨name, op, stage.phase⟩ (by simp [standing?, ht])
    cases stage with
    | holding l => cases hphase
    | leaving => cases hphase
    | _ => simp [release, unlock, retire, ht]

/-- A workflow that leaves is gone at once, and nobody else moves. -/
theorem standing?_release (hsound : g.Sound none) {id : Nat} {name : String} {op : Operation}
    (h : g.standing? id = some ⟨name, op, .inside⟩) (j : Nat) :
    (g.release id).standing? j = if j = id then none else g.standing? j := by
  have hunlocked := standing?_unlock hsound h
  have hleaving : (g.unlock id).standing? id = some ⟨name, op, .leaving⟩ := by
    rw [hunlocked, if_pos rfl]
  rw [release, standing?_retire (hsound.unlock id) hleaving, hunlocked]
  split <;> rfl

namespace NoneLeaving

theorem arrive (h : g.NoneLeaving) (id : Nat) (name : String) (op : Operation) :
    (g.arrive id name op).NoneLeaving := by
  intro j s hs
  by_cases hnew : g.standing? id = none
  · rw [standing?_arrive hnew] at hs
    split at hs
    · cases hs
      simp
    · exact h j s hs
  · have hthere : (g.ticket? id).isSome := by
      rw [← Option.ne_none_iff_isSome]
      exact fun hnone => hnew (standing?_eq_none.2 hnone)
    rw [Gate.arrive, if_pos hthere] at hs
    exact h j s hs

theorem advance (h : g.NoneLeaving) (id : Nat) : (g.advance id).NoneLeaving := by
  intro j s hs
  rcases standing?_advance g id j with hsame | ⟨rfl, s', -, -, hinside⟩
  · exact h j s (hsame ▸ hs)
  · rw [hinside] at hs
    cases hs
    simp

theorem release (hsound : g.Sound none) (h : g.NoneLeaving) (id : Nat) :
    (g.release id).NoneLeaving := by
  by_cases hinside : ∃ name op, g.standing? id = some ⟨name, op, .inside⟩
  · obtain ⟨name, op, hinside⟩ := hinside
    intro j s hs
    rw [standing?_release hsound hinside] at hs
    split at hs
    · cases hs
    · exact h j s hs
  · rwa [release_of_not_inside]
    intro s hs
    cases hphase : s.phase with
    | outside => rfl
    | inside => exact absurd ⟨s.name, s.op, by rw [hs, ← hphase]⟩ hinside
    | leaving => exact absurd hphase (h id s hs)

theorem cancel (hsound : g.Sound none) (h : g.NoneLeaving) (id : Nat) :
    (g.cancel id).NoneLeaving := by
  intro j s hs
  rcases standing?_cancel hsound id j with hsame | hnone
  · exact h j s (hsame ▸ hs)
  · rw [hnone] at hs
    cases hs

/-- What one move keeps. The two halves of leaving do not, each for itself. -/
theorem move (hsound : g.Sound none) (h : g.NoneLeaving) (m : Move) : (g.move m).NoneLeaving := by
  cases m with
  | start id name op => exact h.arrive id name op
  | poll id => exact ((h.advance id).advance id).advance id
  | leave id => exact h.release hsound id
  | cancel id => exact h.cancel hsound id

theorem play (hsound : g.Sound none) (h : g.NoneLeaving) (moves : List Move) :
    (g.play moves).NoneLeaving := by
  induction moves generalizing g with
  | nil => exact h
  | cons m rest ih => exact ih (hsound.run m.events) (h.move hsound m)

end NoneLeaving

/-- A new gate has no tickets. -/
theorem tickets_of_ofConfig {c : Config.Admission} (h : ofConfig c = .ok g) : g.tickets = [] := by
  unfold ofConfig at h
  split at h
  · cases h
  · cases h
    rfl

/-- From a new gate nobody is on the way out. -/
theorem noneLeaving_of_ofConfig {c : Config.Admission} (h : ofConfig c = .ok g) :
    g.NoneLeaving := by
  intro id s hs
  rw [tickets_eq_nil_iff.1 (tickets_of_ofConfig h) id] at hs
  cases hs

/-- Whether a ticket has not passed yet but has a slot, if its class is bounded: it took one, or was
handed one. -/
def Stage.isAdmitted (stage : Stage) : Bool :=
  stage.isPending && stage.hasSlot

/-- Whether a ticket is between the two halves of leaving. -/
def Stage.isLeaving : Stage → Bool
  | leaving => true
  | _ => false

/-- How many tickets of a class stand at a stage of some sort. -/
def headcount (g : Gate) (op : Operation) (sort : Stage → Bool) : Nat :=
  g.tickets.countP fun t => t.op = op && sort t.stage

theorem slotsInUse_eq_headcount (g : Gate) (op : Operation) :
    g.slotsInUse op = g.headcount op Stage.isLive + g.headcount op Stage.isAdmitted +
      g.headcount op Stage.isLeaving := by
  unfold slotsInUse headcount
  induction g.tickets with
  | nil => rfl
  | cons t rest ih =>
    rw [List.map_cons, List.sum_cons, ih, List.countP_cons, List.countP_cons, List.countP_cons]
    -- A stage with a slot counts for exactly one of the three sorts, and no other stage counts.
    by_cases hop : t.op = op
    · cases t.stage <;>
        simp [hop, Ticket.slotsOf, Stage.hasSlot, Stage.isLive, Stage.isAdmitted,
          Stage.isPending, Stage.isLeaving] <;> omega
    · simp [hop, Ticket.slotsOf]

theorem NoneLeaving.headcount_eq_zero (hsound : g.Sound none) (h : g.NoneLeaving) (op : Operation) :
    g.headcount op Stage.isLeaving = 0 := by
  refine List.countP_eq_zero.2 fun t ht hleaving => ?_
  have hstanding : g.standing? t.id = some ⟨t.name, t.op, t.stage.phase⟩ := by
    simp [standing?, ticket?_of_mem hsound.ids_nodup ht]
  have hphase := h t.id _ hstanding
  cases hstage : t.stage <;> simp_all [Stage.isLeaving, Stage.phase]

/-- A ticket that waits for a slot stands in the queue of its class. -/
theorem Sound.mem_queue {loose : Option Nat} (hsound : g.Sound loose) {t : Ticket}
    (ht : t ∈ g.tickets) (hstage : t.stage = .queued) {s : Slots} (hs : g.slots? t.op = some s) :
    t.id ∈ s.queue := by
  refine ((hsound.slot_queues t.op s.queue (by simp [slotQueue?, hs])).2 t.id).2 ?_
  simp [queued?, ticket?_of_mem hsound.ids_nodup ht, hstage]

/-- The slots of a class are free, or with those who have passed, or with those who have one on
their way in or out; while somebody waits for one, none is free. -/
theorem Balanced.account (hsound : g.Sound none) {op : Operation} {total : Nat}
    (h : g.Balanced op 0 total) {s : Slots} (hs : g.slots? op = some s) :
    ∃ free, g.available op = some free ∧
      free + g.headcount op Stage.isLive + g.headcount op Stage.isAdmitted +
        g.headcount op Stage.isLeaving = total ∧
      ((∃ t ∈ g.tickets, t.op = op ∧ t.stage = .queued) → free = 0) := by
  have hsum := h.sum_eq s hs
  rw [slotsInUse_eq_headcount] at hsum
  refine ⟨s.free, by simp [available, hs], by omega, ?_⟩
  rintro ⟨t, ht, rfl, hstage⟩
  exact h.free_eq_zero s hs (List.ne_nil_of_mem (hsound.mem_queue ht hstage hs))

/-- A configuration gives a gate if its bounds are not too large. -/
theorem exists_ofConfig {c : Config.Admission} (hmount : slotsFor c.mount ≤ maxSlots)
    (hunmount : slotsFor c.unmount ≤ maxSlots) : ∃ g, ofConfig c = .ok g := by
  refine ⟨_, if_neg ?_⟩
  simpa using ⟨hmount, hunmount⟩

/-- A class has slots exactly if the configuration bounds it. -/
theorem exists_slots?_iff (g : Gate) (c : Config.Admission) (op : Operation) :
    (∃ s, g.slots? op = some s) ↔ ∃ total, bound? c op = some total := by
  cases op <;> simp [slots?, bound?]

/-- Slots are conserved. Whatever the callers do, the free slots of a bounded class, the handles of
the class, and the tickets of the class that have a slot and have not passed make up the slots that
the class began with, and none is free while a ticket of the class waits for one. In the middle of a
move, tickets on their way out have to be counted too. -/
theorem slots_conserved {c : Config.Admission} (hmount : slotsFor c.mount ≤ maxSlots)
    (hunmount : slotsFor c.unmount ≤ maxSlots) :
    ∃ g, ofConfig c = .ok g ∧ ∀ op total, bound? c op = some total →
      (∀ moves, ∃ free, (g.play moves).available op = some free ∧
        free + (g.play moves).headcount op Stage.isLive +
          (g.play moves).headcount op Stage.isAdmitted = total ∧
        (g.play moves).headcount op Stage.isLive ≤ total ∧ free ≤ total ∧
        ((∃ t ∈ (g.play moves).tickets, t.op = op ∧ t.stage = .queued) → free = 0)) ∧
      ∀ events, ∃ free, (g.run events).available op = some free ∧
        free + (g.run events).headcount op Stage.isLive +
          (g.run events).headcount op Stage.isAdmitted +
          (g.run events).headcount op Stage.isLeaving = total ∧
        ((∃ t ∈ (g.run events).tickets, t.op = op ∧ t.stage = .queued) → free = 0) := by
  obtain ⟨g, hg⟩ := exists_ofConfig hmount hunmount
  have hsound := sound_of_ofConfig hg
  refine ⟨g, hg, fun op total hop => ?_⟩
  have haccount : ∀ events, ∃ free, (g.run events).available op = some free ∧
      free + (g.run events).headcount op Stage.isLive +
        (g.run events).headcount op Stage.isAdmitted +
        (g.run events).headcount op Stage.isLeaving = total ∧
      ((∃ t ∈ (g.run events).tickets, t.op = op ∧ t.stage = .queued) → free = 0) := by
    intro events
    obtain ⟨s, hs⟩ := (exists_slots?_iff (g.run events) c op).2 ⟨total, hop⟩
    exact ((balanced_of_ofConfig hg hop).run hsound events).account (hsound.run events) hs
  refine ⟨fun moves => ?_, haccount⟩
  -- A row of moves is a row of steps that leaves nobody halfway out.
  have hleaving := ((noneLeaving_of_ofConfig hg).play hsound moves).headcount_eq_zero
    (by rw [play_eq_run]; exact hsound.run _) op
  rw [play_eq_run] at hleaving ⊢
  obtain ⟨free, havailable, hsum, hqueued⟩ := haccount (moves.flatMap Move.events)
  exact ⟨free, havailable, by omega, by omega, by omega, hqueued⟩

/-- One ticket has passed, one has a slot and waits for the lock, and a third one waits for a slot:
both slots are accounted for, and when the second one gives up, its slot is handed to the third. -/
theorem slots_conserved_handed_on :
    let g : Gate := ⟨⟨2, []⟩, ⟨1, []⟩, .empty, [], []⟩
    let moves : List Move :=
      [.start 0 "v" .mount, .poll 0, .start 1 "v" .mount, .poll 1, .start 2 "w" .mount, .poll 2]
    slotsFor 2 ≤ maxSlots ∧ slotsFor 1 ≤ maxSlots ∧ ofConfig ⟨2, 1⟩ = .ok g ∧
      (g.play moves).tickets.map Ticket.stage = [.holding 0, .blocked 0, .queued] ∧
      (g.play (moves ++ [.cancel 1])).tickets.map Ticket.stage = [.holding 0, .admitted] ∧
      ∀ row ∈ [moves, moves ++ [.cancel 1]], ∃ free,
        (g.play row).available .mount = some free ∧
        free + (g.play row).headcount .mount Stage.isLive +
          (g.play row).headcount .mount Stage.isAdmitted = 2 ∧
        (g.play row).headcount .mount Stage.isLive ≤ 2 ∧ free ≤ 2 ∧
        ((∃ t ∈ (g.play row).tickets, t.op = .mount ∧ t.stage = .queued) → free = 0) := by
  refine ⟨by decide, by decide, rfl, by decide, by decide, fun row _ => ?_⟩
  obtain ⟨g, hg, h⟩ := slots_conserved (c := ⟨2, 1⟩) (by decide) (by decide)
  cases hg
  exact (h .mount 2 rfl).1 row

end VolumeLifecycle.Gate
