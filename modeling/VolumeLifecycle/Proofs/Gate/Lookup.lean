import VolumeLifecycle.Gate.Basic
import VolumeLifecycle.Dict.Lookup
import VolumeLifecycle.Proofs.Numbered

namespace VolumeLifecycle.Gate

/-- A ticket that is found has the number under which it was looked up. -/
theorem id_of_ticket? {g : Gate} {id : Nat} {t : Ticket} (h : g.ticket? id = some t) : t.id = id := by
  simpa using List.find?_some h

/-- A lock that is found has the number under which it was looked up. -/
theorem id_of_lock? {g : Gate} {l : Nat} {k : Lock} (h : g.lock? l = some k) : k.id = l := by
  simpa using List.find?_some h

/-- A ticket that is found is one of the gate's. -/
theorem mem_of_ticket? {g : Gate} {id : Nat} {t : Ticket} (h : g.ticket? id = some t) :
    t ∈ g.tickets :=
  List.mem_of_find?_eq_some h

/-- As long as no number is used twice, every ticket is found under its own number. -/
theorem ticket?_of_mem {g : Gate} (hnodup : (g.tickets.map Ticket.id).Nodup) {t : Ticket}
    (ht : t ∈ g.tickets) : g.ticket? t.id = some t :=
  Numbered.find?_of_mem Ticket.id hnodup ht

/-- A ticket moved to a stage is found there, and nothing else changes. -/
theorem ticket?_setStage (g : Gate) (id : Nat) (stage : Stage) (j : Nat) :
    (g.setStage id stage).ticket? j =
      if j = id then (g.ticket? id).map fun t => { t with stage } else g.ticket? j :=
  Numbered.find?_update Ticket.id g.tickets id (fun t => { t with stage }) (fun _ h => h) j

/-- A dropped ticket is gone, and nothing else changes. -/
theorem ticket?_dropTicket (g : Gate) (id j : Nat) :
    (g.dropTicket id).ticket? j = if j = id then none else g.ticket? j :=
  Numbered.find?_remove Ticket.id g.tickets id j

/-- A new ticket is found under its number, and nothing else changes. -/
theorem ticket?_arrive (g : Gate) (id : Nat) (name : String) (op : Operation) (j : Nat) :
    (g.arrive id name op).ticket? j =
      if j = id then some ((g.ticket? id).getD ⟨id, name, op, .arriving⟩) else g.ticket? j := by
  unfold arrive
  split
  · next h =>
    obtain ⟨t, ht⟩ := Option.isSome_iff_exists.1 h
    by_cases hj : j = id <;> simp [hj, ht]
  · next h =>
    have hnone : g.ticket? id = none := by simpa using h
    by_cases hj : j = id
    · have hfind : g.tickets.find? (fun t => t.id = id) = none := hnone
      simp [hj, ticket?, hfind]
    · have hne : ¬ id = j := fun h => hj h.symm
      simp [hj, ticket?, hne]

/-- A replaced lock is found under its number if there was one, and nothing else changes. -/
theorem lock?_setLock (g : Gate) (k : Lock) (l : Nat) :
    (g.setLock k).lock? l =
      if l = k.id then (g.lock? l).map fun _ => k else g.lock? l := by
  refine (Numbered.find?_update Lock.id g.locks k.id (fun _ => k) (fun _ _ => rfl) l).trans ?_
  split
  · next hl => rw [hl, lock?]
  · rfl

/-- Slots are put in place for a class that has some, and for no other. -/
theorem slots?_setSlots (g : Gate) (op : Operation) (s : Slots) (other : Operation) :
    (g.setSlots op s).slots? other =
      if other = op then (g.slots? op).map fun _ => s else g.slots? other := by
  cases op <;> cases other <;> rfl

section Frames

variable (g : Gate) (id : Nat) (stage : Stage) (k : Lock) (op : Operation) (s : Slots)

@[simp]
theorem locks_setStage : (g.setStage id stage).locks = g.locks := rfl

@[simp]
theorem lock?_setStage (l : Nat) : (g.setStage id stage).lock? l = g.lock? l := rfl

@[simp]
theorem entries_setStage : (g.setStage id stage).entries = g.entries := rfl

@[simp]
theorem slots?_setStage : (g.setStage id stage).slots? op = g.slots? op := by
  cases op <;> rfl

@[simp]
theorem locks_dropTicket : (g.dropTicket id).locks = g.locks := rfl

@[simp]
theorem lock?_dropTicket (l : Nat) : (g.dropTicket id).lock? l = g.lock? l := rfl

@[simp]
theorem entries_dropTicket : (g.dropTicket id).entries = g.entries := rfl

@[simp]
theorem slots?_dropTicket : (g.dropTicket id).slots? op = g.slots? op := by
  cases op <;> rfl

@[simp]
theorem tickets_setLock : (g.setLock k).tickets = g.tickets := rfl

@[simp]
theorem ticket?_setLock : (g.setLock k).ticket? id = g.ticket? id := rfl

@[simp]
theorem slots?_setLock : (g.setLock k).slots? op = g.slots? op := by
  cases op <;> rfl

@[simp]
theorem tickets_setSlots : (g.setSlots op s).tickets = g.tickets := by
  cases op <;> rfl

@[simp]
theorem ticket?_setSlots : (g.setSlots op s).ticket? id = g.ticket? id := by
  cases op <;> rfl

@[simp]
theorem locks_setSlots : (g.setSlots op s).locks = g.locks := by
  cases op <;> rfl

@[simp]
theorem entries_setSlots : (g.setSlots op s).entries = g.entries := by
  cases op <;> rfl

theorem tickets_dropEntry (name : String) : (g.dropEntry name).tickets = g.tickets := by
  unfold dropEntry
  split
  · split <;> rfl
  · rfl

theorem ticket?_dropEntry (name : String) : (g.dropEntry name).ticket? id = g.ticket? id := by
  rw [ticket?, tickets_dropEntry]
  rfl

theorem get?_dropEntry_of_ne {name other : String} (h : other ≠ name) :
    (g.dropEntry name).entries.get? other = g.entries.get? other := by
  unfold dropEntry
  split
  · split
    · rfl
    · exact (Dict.get?_erase _ _ _).trans (if_neg h)
  · rfl

theorem slots?_dropEntry (name : String) : (g.dropEntry name).slots? op = g.slots? op := by
  unfold dropEntry
  split
  · split
    · rfl
    · cases op <;> rfl
  · rfl

theorem tickets_leaveSlotQueue : (g.leaveSlotQueue op id).tickets = g.tickets := by
  unfold leaveSlotQueue
  split <;> simp

theorem tickets_leaveLockQueue (l : Nat) : (g.leaveLockQueue l id).tickets = g.tickets := by
  unfold leaveLockQueue
  split <;> rfl

theorem entries_leaveSlotQueue : (g.leaveSlotQueue op id).entries = g.entries := by
  unfold leaveSlotQueue
  split <;> simp

theorem entries_leaveLockQueue (l : Nat) : (g.leaveLockQueue l id).entries = g.entries := by
  unfold leaveLockQueue
  split <;> rfl

theorem entries_returnSlot : (g.returnSlot op).entries = g.entries := by
  unfold returnSlot
  split
  · rfl
  · split <;> simp

theorem entries_returnLock (l : Nat) : (g.returnLock l).entries = g.entries := by
  unfold returnLock
  split
  · rfl
  · split <;> rfl

theorem slots?_leaveLockQueue (l : Nat) : (g.leaveLockQueue l id).slots? op = g.slots? op := by
  unfold leaveLockQueue
  split
  · rfl
  · simp

end Frames

end VolumeLifecycle.Gate
