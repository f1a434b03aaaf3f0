import VolumeLifecycle.Proofs.Gate.Lookup

namespace VolumeLifecycle.Gate

/-- The lock that is a ticket's own at a stage. One that was handed over while the ticket waited is
its own even before the ticket notices. -/
def Stage.owned? : Stage → Option Nat
  | granted l => some l
  | holding l => some l
  | _ => none

def Stage.awaited? : Stage → Option Nat
  | blocked l => some l
  | _ => none

def owned? (g : Gate) (id : Nat) : Option Nat :=
  (g.ticket? id).bind fun t => t.stage.owned?

def awaited? (g : Gate) (id : Nat) : Option Nat :=
  (g.ticket? id).bind fun t => t.stage.awaited?

def queued? (g : Gate) (id : Nat) : Option Operation :=
  (g.ticket? id).bind fun t => if t.stage = .queued then some t.op else none

/-- A lock that is owned is referred to. -/
theorem Stage.lock?_of_owned? {stage : Stage} {l : Nat} (h : stage.owned? = some l) :
    stage.lock? = some l := by
  cases stage <;> simp_all [Stage.owned?, Stage.lock?]

/-- A ticket that refers to no lock owns none. -/
theorem Stage.owned?_eq_none {stage : Stage} (h : stage.lock? = none) : stage.owned? = none := by
  cases stage <;> simp_all [Stage.owned?, Stage.lock?]

/-- A ticket that refers to no lock waits for none. -/
theorem Stage.awaited?_eq_none {stage : Stage} (h : stage.lock? = none) :
    stage.awaited? = none := by
  cases stage <;> simp_all [Stage.awaited?, Stage.lock?]

/-- Whoever waits for a slot of a class has a ticket that is queued. -/
theorem exists_ticket_of_queued? {g : Gate} {id : Nat} {op : Operation} (h : g.queued? id = some op) :
    ∃ t, g.ticket? id = some t ∧ t.op = op ∧ t.stage = .queued := by
  obtain ⟨t, ht, hop⟩ := Option.bind_eq_some_iff.1 h
  by_cases hstage : t.stage = .queued
  · exact ⟨t, ht, by simpa [hstage] using hop, hstage⟩
  · simp [hstage] at hop

/-- Whoever waits for a lock has a ticket that is blocked. -/
theorem exists_ticket_of_awaited? {g : Gate} {id l : Nat} (h : g.awaited? id = some l) :
    ∃ t, g.ticket? id = some t ∧ t.stage = .blocked l := by
  obtain ⟨t, ht, hstage⟩ := Option.bind_eq_some_iff.1 h
  refine ⟨t, ht, ?_⟩
  cases hs : t.stage <;> simp_all [Stage.awaited?]

/-- Whoever owns a lock has a ticket that refers to it. -/
theorem exists_ticket_of_owned? {g : Gate} {id l : Nat} (h : g.owned? id = some l) :
    ∃ t, g.ticket? id = some t ∧ t.stage.lock? = some l := by
  obtain ⟨t, ht, hstage⟩ := Option.bind_eq_some_iff.1 h
  exact ⟨t, ht, Stage.lock?_of_owned? hstage⟩

/-- A new stage of a ticket decides what it owns, and changes nothing for the others. -/
theorem owned?_setStage (g : Gate) (id : Nat) (stage : Stage) (j : Nat) :
    (g.setStage id stage).owned? j =
      if j = id then (g.ticket? id).bind fun _ => stage.owned? else g.owned? j := by
  unfold owned?
  rw [ticket?_setStage]
  split
  · cases g.ticket? id <;> rfl
  · rfl

theorem awaited?_setStage (g : Gate) (id : Nat) (stage : Stage) (j : Nat) :
    (g.setStage id stage).awaited? j =
      if j = id then (g.ticket? id).bind fun _ => stage.awaited? else g.awaited? j := by
  unfold awaited?
  rw [ticket?_setStage]
  split
  · cases g.ticket? id <;> rfl
  · rfl

theorem queued?_setStage (g : Gate) (id : Nat) (stage : Stage) (j : Nat) :
    (g.setStage id stage).queued? j =
      if j = id then (g.ticket? id).bind fun t => if stage = .queued then some t.op else none
      else g.queued? j := by
  unfold queued?
  rw [ticket?_setStage]
  split
  · cases g.ticket? id <;> rfl
  · rfl

/-- A ticket that is gone owns nothing, and the others own what they did. -/
theorem owned?_dropTicket (g : Gate) (id j : Nat) :
    (g.dropTicket id).owned? j = if j = id then none else g.owned? j := by
  unfold owned?
  rw [ticket?_dropTicket]
  split <;> rfl

theorem awaited?_dropTicket (g : Gate) (id j : Nat) :
    (g.dropTicket id).awaited? j = if j = id then none else g.awaited? j := by
  unfold awaited?
  rw [ticket?_dropTicket]
  split <;> rfl

theorem queued?_dropTicket (g : Gate) (id j : Nat) :
    (g.dropTicket id).queued? j = if j = id then none else g.queued? j := by
  unfold queued?
  rw [ticket?_dropTicket]
  split <;> rfl

section Unchanged

variable {g : Gate} {id : Nat} {t : Ticket} {stage : Stage}

/-- A move between stages that own the same does not change who owns what. -/
theorem owned?_setStage_of_eq (ht : g.ticket? id = some t) (h : stage.owned? = t.stage.owned?)
    (j : Nat) : (g.setStage id stage).owned? j = g.owned? j := by
  rw [owned?_setStage]
  split
  · next hj => simp [hj, owned?, ht, h]
  · rfl

/-- A move between stages that wait for the same does not change who waits for what. -/
theorem awaited?_setStage_of_eq (ht : g.ticket? id = some t)
    (h : stage.awaited? = t.stage.awaited?) (j : Nat) :
    (g.setStage id stage).awaited? j = g.awaited? j := by
  rw [awaited?_setStage]
  split
  · next hj => simp [hj, awaited?, ht, h]
  · rfl

/-- A move that neither begins nor ends a wait for slots does not change who waits for them. -/
theorem queued?_setStage_of_iff (ht : g.ticket? id = some t)
    (h : stage = .queued ↔ t.stage = .queued) (j : Nat) :
    (g.setStage id stage).queued? j = g.queued? j := by
  rw [queued?_setStage]
  split
  · next hj => simp [hj, queued?, ht, h]
  · rfl

/-- A ticket without a lock of its own can go without changing who owns what. -/
theorem owned?_dropTicket_of_eq (ht : g.ticket? id = some t) (h : t.stage.owned? = none) (j : Nat) :
    (g.dropTicket id).owned? j = g.owned? j := by
  rw [owned?_dropTicket]
  split
  · next hj => simp [hj, owned?, ht, h]
  · rfl

/-- A ticket that waits for no lock can go without changing who waits for what. -/
theorem awaited?_dropTicket_of_eq (ht : g.ticket? id = some t) (h : t.stage.awaited? = none)
    (j : Nat) : (g.dropTicket id).awaited? j = g.awaited? j := by
  rw [awaited?_dropTicket]
  split
  · next hj => simp [hj, awaited?, ht, h]
  · rfl

/-- A ticket that waits for no slot can go without changing who waits for them. -/
theorem queued?_dropTicket_of_ne (ht : g.ticket? id = some t) (h : t.stage ≠ .queued) (j : Nat) :
    (g.dropTicket id).queued? j = g.queued? j := by
  rw [queued?_dropTicket]
  split
  · next hj => simp [hj, queued?, ht, h]
  · rfl

end Unchanged

section Frames

variable (g : Gate) (k : Lock) (op : Operation) (s : Slots) (id : Nat)

@[simp]
theorem owned?_setLock : (g.setLock k).owned? id = g.owned? id := rfl

@[simp]
theorem awaited?_setLock : (g.setLock k).awaited? id = g.awaited? id := rfl

@[simp]
theorem queued?_setLock : (g.setLock k).queued? id = g.queued? id := rfl

@[simp]
theorem owned?_setSlots : (g.setSlots op s).owned? id = g.owned? id := by
  cases op <;> rfl

@[simp]
theorem awaited?_setSlots : (g.setSlots op s).awaited? id = g.awaited? id := by
  cases op <;> rfl

@[simp]
theorem queued?_setSlots : (g.setSlots op s).queued? id = g.queued? id := by
  cases op <;> rfl

end Frames

/-- Moving a ticket keeps all numbers. -/
theorem map_id_setStage (g : Gate) (id : Nat) (stage : Stage) :
    (g.setStage id stage).tickets.map Ticket.id = g.tickets.map Ticket.id := by
  simp only [setStage, List.map_map]
  refine List.map_congr_left fun t _ => ?_
  by_cases ht : t.id = id <;> simp [ht]

/-- Dropping a ticket leaves the numbers distinct. -/
theorem nodup_dropTicket {g : Gate} (h : (g.tickets.map Ticket.id).Nodup) (id : Nat) :
    ((g.dropTicket id).tickets.map Ticket.id).Nodup :=
  h.sublist (List.filter_sublist.map _)

/-- The lock of some ticket's stage is referred to, and no other lock is. -/
theorem isReferenced_iff {g : Gate} (h : (g.tickets.map Ticket.id).Nodup) (l : Nat) :
    g.isReferenced l = true ↔ ∃ id t, g.ticket? id = some t ∧ t.stage.lock? = some l := by
  simp only [isReferenced, List.any_eq_true, decide_eq_true_eq]
  constructor
  · rintro ⟨t, ht, hl⟩
    exact ⟨t.id, t, ticket?_of_mem h ht, hl⟩
  · rintro ⟨id, t, ht, hl⟩
    exact ⟨t, mem_of_ticket? ht, hl⟩

end VolumeLifecycle.Gate
