import VolumeLifecycle.Proofs.Gate.Standing

namespace VolumeLifecycle.Gate

variable {κ : Type} {queue? queue?' : κ → Option (List Nat)} {waits? waits?' : Nat → Option κ}

/-- Every queue holds, once each, those that wait for what it is the queue of. -/
def QueuesMatch (queue? : κ → Option (List Nat)) (waits? : Nat → Option κ) : Prop :=
  ∀ k q, queue? k = some q → q.Nodup ∧ ∀ id, id ∈ q ↔ waits? id = some k

namespace QueuesMatch

variable [DecidableEq κ]

/-- One who does not wait yet goes to the end of a queue. -/
theorem push (h : QueuesMatch queue? waits?) {k : κ} {q : List Nat} {id : Nat}
    (hq : queue? k = some q) (hid : waits? id = none)
    (hqueue : ∀ j, queue?' j = if j = k then some (q ++ [id]) else queue? j)
    (hwaits : ∀ j, waits?' j = if j = id then some k else waits? j) :
    QueuesMatch queue?' waits?' := by
  have hnew : id ∉ q := by simp [(h k q hq).2, hid]
  intro j r hr
  rw [hqueue] at hr
  split at hr
  · next hj =>
    subst hj
    cases hr
    obtain ⟨hnodup, hmem⟩ := h j q hq
    refine ⟨by simpa [List.nodup_append] using ⟨hnodup, fun i hi heq => hnew (heq ▸ hi)⟩, fun i => ?_⟩
    rw [hwaits, List.mem_append, List.mem_singleton, hmem]
    by_cases hi : i = id <;> simp [hi]
  · next hj =>
    obtain ⟨hnodup, hmem⟩ := h j r hr
    refine ⟨hnodup, fun i => ?_⟩
    rw [hwaits, hmem]
    by_cases hi : i = id
    · simp [hi, hid, Ne.symm hj]
    · simp [hi]

/-- One who waits leaves its queue, which keeps all others. -/
theorem remove (h : QueuesMatch queue? waits?) {k : κ} {q r : List Nat} {id : Nat}
    (hq : queue? k = some q) (hid : waits? id = some k) (hnodup : r.Nodup)
    (hmem : ∀ i, i ∈ r ↔ i ∈ q ∧ i ≠ id)
    (hqueue : ∀ j, queue?' j = if j = k then some r else queue? j)
    (hwaits : ∀ j, waits?' j = if j = id then none else waits? j) :
    QueuesMatch queue?' waits?' := by
  intro j s hs
  rw [hqueue] at hs
  split at hs
  · next hj =>
    subst hj
    cases hs
    refine ⟨hnodup, fun i => ?_⟩
    rw [hwaits, hmem, (h j q hq).2]
    by_cases hi : i = id <;> simp [hi]
  · next hj =>
    refine ⟨(h j s hs).1, fun i => ?_⟩
    rw [hwaits, (h j s hs).2]
    by_cases hi : i = id
    · simp [hi, hid, Ne.symm hj]
    · simp [hi]

/-- The first of a queue leaves it. -/
theorem pop (h : QueuesMatch queue? waits?) {k : κ} {id : Nat} {rest : List Nat}
    (hq : queue? k = some (id :: rest))
    (hqueue : ∀ j, queue?' j = if j = k then some rest else queue? j)
    (hwaits : ∀ j, waits?' j = if j = id then none else waits? j) :
    QueuesMatch queue?' waits?' := by
  obtain ⟨hnodup, hmem⟩ := h k _ hq
  obtain ⟨hout, hrest⟩ := List.nodup_cons.1 hnodup
  refine h.remove hq ((hmem id).1 List.mem_cons_self) hrest (fun i => ?_) hqueue hwaits
  rw [List.mem_cons]
  constructor
  · intro hi
    exact ⟨.inr hi, fun heq => hout (heq ▸ hi)⟩
  · rintro ⟨rfl | hi, hne⟩
    · exact absurd rfl hne
    · exact hi

omit [DecidableEq κ] in
/-- One who stands in no queue goes away. -/
theorem forget (h : QueuesMatch queue? waits?) {id : Nat}
    (hid : ∀ k, waits? id = some k → queue? k = none)
    (hwaits : ∀ j, waits?' j = if j = id then none else waits? j) :
    QueuesMatch queue? waits?' := by
  intro k q hq
  refine ⟨(h k q hq).1, fun i => ?_⟩
  rw [hwaits, (h k q hq).2]
  by_cases hi : i = id
  · have hne : waits? id ≠ some k := fun hk => by simp [hid k hk] at hq
    simp [hi, hne]
  · simp [hi]

/-- One who waits gives up. -/
theorem giveUp (h : QueuesMatch queue? waits?) {k : κ} {q : List Nat} {id : Nat}
    (hq : queue? k = some q) (hid : waits? id = some k)
    (hqueue : ∀ j, queue?' j = if j = k then some (q.filter (· ≠ id)) else queue? j)
    (hwaits : ∀ j, waits?' j = if j = id then none else waits? j) :
    QueuesMatch queue?' waits?' :=
  h.remove hq hid ((h k q hq).1.filter _) (fun i => by simp) hqueue hwaits

end QueuesMatch

def slotQueue? (g : Gate) (op : Operation) : Option (List Nat) :=
  (g.slots? op).map Slots.queue

def lockQueue? (g : Gate) (l : Nat) : Option (List Nat) :=
  (g.lock? l).map Lock.queue

/-- Putting slots in place changes the queue of their class and no other. -/
theorem slotQueue?_setSlots {g : Gate} {op : Operation} {s : Slots} (hs : g.slots? op = some s)
    (s' : Slots) (other : Operation) :
    (g.setSlots op s').slotQueue? other =
      if other = op then some s'.queue else g.slotQueue? other := by
  unfold slotQueue?
  rw [slots?_setSlots, hs]
  split <;> rfl

/-- Putting a lock in place changes its own queue and no other. -/
theorem lockQueue?_setLock {g : Gate} {k : Lock} (hk : g.lock? k.id = some k) (isHeld : Bool)
    (queue : List Nat) (l : Nat) :
    (g.setLock ⟨k.id, isHeld, queue⟩).lockQueue? l =
      if l = k.id then some queue else g.lockQueue? l := by
  unfold lockQueue?
  rw [lock?_setLock]
  split
  · next hl => simp [hl, hk]
  · rfl

section Frames

variable (g : Gate) (id : Nat) (stage : Stage) (k : Lock) (op other : Operation) (s : Slots)

@[simp]
theorem slotQueue?_setStage : (g.setStage id stage).slotQueue? op = g.slotQueue? op := by
  simp [slotQueue?]

@[simp]
theorem slotQueue?_dropTicket : (g.dropTicket id).slotQueue? op = g.slotQueue? op := by
  simp [slotQueue?]

@[simp]
theorem slotQueue?_setLock : (g.setLock k).slotQueue? op = g.slotQueue? op := by
  simp [slotQueue?]

@[simp]
theorem lockQueue?_setStage (l : Nat) : (g.setStage id stage).lockQueue? l = g.lockQueue? l := by
  simp [lockQueue?]

@[simp]
theorem lockQueue?_dropTicket (l : Nat) : (g.dropTicket id).lockQueue? l = g.lockQueue? l := by
  simp [lockQueue?]

end Frames

end VolumeLifecycle.Gate
