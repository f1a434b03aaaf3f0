import VolumeLifecycle.Proofs.Gate.Owners
import VolumeLifecycle.Proofs.Gate.Queues

namespace VolumeLifecycle.Gate

/-- Tickets, queues, locks and entries fit together. Whoever refers to a lock refers to the current
one of its name, and no two names share a lock. A lock is loose in the middle of a step only. -/
structure Sound (g : Gate) (loose : Option Nat) : Prop where
  ids_nodup : (g.tickets.map Ticket.id).Nodup
  lock_id_lt : ∀ k ∈ g.locks, k.id < g.locks.length
  slot_queues : QueuesMatch g.slotQueue? g.queued?
  lock_queues : QueuesMatch g.lockQueue? g.awaited?
  owners : OwnersMatch g.taken? g.owned? loose
  held_of_queue : ∀ l k, g.lock? l = some k → k.queue ≠ [] → k.isHeld = true
  current : ∀ id t, g.ticket? id = some t → ∀ l, t.stage.lock? = some l →
    g.entries.get? t.name = some l
  lock_of_entry : ∀ n l, g.entries.get? n = some l → (g.lock? l).isSome
  entry_inj : ∀ n m l, g.entries.get? n = some l → g.entries.get? m = some l → n = m

namespace Sound

variable {g : Gate} {loose : Option Nat}

/-- A gate with the same locks and entries, and with the same owners and waiters of locks, is sound
if its slots and tickets are in order. -/
theorem of_same_locks (h : g.Sound loose) {g' : Gate} (hids : (g'.tickets.map Ticket.id).Nodup)
    (hlocks : g'.locks = g.locks) (hentries : g'.entries = g.entries)
    (howned : ∀ id, g'.owned? id = g.owned? id) (hawaited : ∀ id, g'.awaited? id = g.awaited? id)
    (hslots : QueuesMatch g'.slotQueue? g'.queued?)
    (hcurrent : ∀ id t, g'.ticket? id = some t → ∀ l, t.stage.lock? = some l →
      g.entries.get? t.name = some l) : g'.Sound loose := by
  have hlock : ∀ l, g'.lock? l = g.lock? l := fun l => by simp [lock?, hlocks]
  constructor
  · exact hids
  · simpa only [hlocks] using h.lock_id_lt
  · exact hslots
  · have hqueue : g'.lockQueue? = g.lockQueue? := funext fun l => by simp [lockQueue?, hlock]
    rw [hqueue, funext hawaited]
    exact h.lock_queues
  · have htaken : g'.taken? = g.taken? := funext fun l => by simp [taken?, hlock]
    rw [htaken, funext howned]
    exact h.owners
  · simpa only [hlock] using h.held_of_queue
  · simpa only [hentries] using hcurrent
  · simpa only [hentries, hlock] using h.lock_of_entry
  · simpa only [hentries] using h.entry_inj

/-- The gate that nobody has come to is sound. -/
theorem of_empty (htickets : g.tickets = []) (hlocks : g.locks = []) (hentries : g.entries = .empty)
    (hmount : g.mountSlots.queue = []) (hunmount : g.unmountSlots.queue = []) : g.Sound none := by
  have hticket : ∀ id, g.ticket? id = none := fun id => by simp [ticket?, htickets]
  have hlock : ∀ l, g.lock? l = none := fun l => by simp [lock?, hlocks]
  have hentry : ∀ n, g.entries.get? n = none := fun n => by rw [hentries]; rfl
  constructor
  · simp [htickets]
  · simp [hlocks]
  · intro op q hq
    have hempty : q = [] := by
      cases op <;> simp_all [slotQueue?, slots?]
    simp [hempty, queued?, hticket]
  · simp [QueuesMatch, lockQueue?, hlock]
  · constructor <;> simp [taken?, owned?, hlock, hticket]
  · simp [hlock]
  · simp [hticket]
  · simp [hentry]
  · simp [hentry]

/-- The first in the queue of a class is a ticket of the class. -/
theorem first_queued (h : g.Sound loose) {op : Operation} {s : Slots} (hs : g.slots? op = some s)
    {id : Nat} {rest : List Nat} (hqueue : s.queue = id :: rest) :
    ∃ t, g.ticket? id = some t ∧ t.op = op ∧ t.stage = .queued := by
  have hfirst : g.slotQueue? op = some (id :: rest) := by simp [slotQueue?, hs, hqueue]
  exact exists_ticket_of_queued? (((h.slot_queues op _ hfirst).2 id).1 List.mem_cons_self)

/-- The first in the queue of a lock is a ticket that waits for it. -/
theorem first_blocked (h : g.Sound loose) {l : Nat} {k : Lock} (hk : g.lock? l = some k)
    {id : Nat} {rest : List Nat} (hqueue : k.queue = id :: rest) :
    ∃ t, g.ticket? id = some t ∧ t.stage = .blocked l := by
  have hfirst : g.lockQueue? l = some (id :: rest) := by simp [lockQueue?, hk, hqueue]
  exact exists_ticket_of_awaited? (((h.lock_queues l _ hfirst).2 id).1 List.mem_cons_self)

/-- If a ticket is moved to where it refers to the current lock of its name, all tickets still refer
to the current locks. -/
theorem current_setStage (h : g.Sound loose) {g' : Gate} (htickets : g'.tickets = g.tickets)
    {id : Nat} {t : Ticket} (ht : g.ticket? id = some t) {stage : Stage}
    (hlock : ∀ l, stage.lock? = some l → g.entries.get? t.name = some l) :
    ∀ j u, (g'.setStage id stage).ticket? j = some u → ∀ l, u.stage.lock? = some l →
      g.entries.get? u.name = some l := by
  intro j u hu l hl
  have hsame : ∀ i, g'.ticket? i = g.ticket? i := fun i => by simp [ticket?, htickets]
  rw [ticket?_setStage, hsame, hsame] at hu
  split at hu
  · simp only [ht, Option.map_some, Option.some.injEq] at hu
    subst hu
    exact hlock l hl
  · exact h.current j u hu l hl

/-- If a ticket goes, the others still refer to the current locks. -/
theorem current_dropTicket (h : g.Sound loose) {g' : Gate} (htickets : g'.tickets = g.tickets)
    (id : Nat) :
    ∀ j u, (g'.dropTicket id).ticket? j = some u → ∀ l, u.stage.lock? = some l →
      g.entries.get? u.name = some l := by
  intro j u hu
  have hsame : ∀ i, g'.ticket? i = g.ticket? i := fun i => by simp [ticket?, htickets]
  rw [ticket?_dropTicket, hsame] at hu
  split at hu
  · cases hu
  · exact h.current j u hu

/-- A ticket that neither waits nor comes to wait moves on. The lock that it owns stays the same,
and a lock to which it refers has to be the current one of its name. -/
theorem move (h : g.Sound loose) {id : Nat} {t : Ticket} (ht : g.ticket? id = some t)
    {stage : Stage} (hbefore : t.stage.isWaiting = false) (hafter : stage.isWaiting = false)
    (howned : stage.owned? = t.stage.owned?)
    (hlock : ∀ l, stage.lock? = some l → g.entries.get? t.name = some l) :
    (g.setStage id stage).Sound loose := by
  have hawaited : stage.awaited? = t.stage.awaited? := by
    cases stage <;> cases hs : t.stage <;> simp_all [Stage.isWaiting, Stage.awaited?]
  have hqueued : stage = .queued ↔ t.stage = .queued := by
    constructor
    · rintro rfl
      cases hafter
    · intro hs
      rw [hs] at hbefore
      cases hbefore
  refine h.of_same_locks (by simpa only [map_id_setStage] using h.ids_nodup) rfl rfl
    (owned?_setStage_of_eq ht howned) (awaited?_setStage_of_eq ht hawaited) ?_
    (h.current_setStage rfl ht hlock)
  have hqueue : (g.setStage id stage).slotQueue? = g.slotQueue? := funext fun op => by simp
  rw [hqueue, funext (queued?_setStage_of_iff ht hqueued)]
  exact h.slot_queues

/-- A new ticket changes nothing for the others. -/
theorem arrive (h : g.Sound loose) (id : Nat) (name : String) (op : Operation) :
    (g.arrive id name op).Sound loose := by
  by_cases hsome : (g.ticket? id).isSome
  · simpa [Gate.arrive, hsome] using h
  have hnone : g.ticket? id = none := by simpa using hsome
  have hticket : ∀ j, (g.arrive id name op).ticket? j =
      if j = id then some ⟨id, name, op, .arriving⟩ else g.ticket? j := by
    intro j
    rw [ticket?_arrive, hnone, Option.getD_none]
  have hgate : g.arrive id name op =
      { g with tickets := g.tickets ++ [⟨id, name, op, .arriving⟩] } := by
    simp [Gate.arrive, hnone]
  refine h.of_same_locks ?_ (by rw [hgate]) (by rw [hgate]) (fun j => ?_) (fun j => ?_) ?_ ?_
  · have hfresh : ∀ t ∈ g.tickets, ¬ t.id = id := by
      rintro t ht rfl
      rw [ticket?_of_mem h.ids_nodup ht] at hnone
      cases hnone
    rw [hgate]
    simpa [List.nodup_append] using ⟨h.ids_nodup, hfresh⟩
  · simp only [owned?, hticket]
    split
    · next hj => simp [hj, hnone, Stage.owned?]
    · rfl
  · simp only [awaited?, hticket]
    split
    · next hj => simp [hj, hnone, Stage.awaited?]
    · rfl
  · have hqueued : (g.arrive id name op).queued? = g.queued? := funext fun j => by
      simp only [queued?, hticket]
      split
      · next hj => simp [hj, hnone]
      · rfl
    have hqueue : (g.arrive id name op).slotQueue? = g.slotQueue? := funext fun o => by
      rw [hgate]
      cases o <;> rfl
    rw [hqueue, hqueued]
    exact h.slot_queues
  · intro j u hu l hl
    rw [hticket] at hu
    split at hu
    · cases hu
      cases hl
    · exact h.current j u hu l hl

/-- The number of free slots does not matter. -/
theorem setSlots (h : g.Sound loose) {op : Operation} {s : Slots} (hs : g.slots? op = some s)
    (free : Nat) : (g.setSlots op { s with free }).Sound loose := by
  refine h.of_same_locks (by simpa using h.ids_nodup) (by simp) (by simp) (by simp) (by simp) ?_
    (by simpa using h.current)
  have hqueue : (g.setSlots op { s with free }).slotQueue? = g.slotQueue? := funext fun o => by
    rw [slotQueue?_setSlots hs]
    split
    · next ho => simp [ho, slotQueue?, hs]
    · rfl
  have hqueued : (g.setSlots op { s with free }).queued? = g.queued? := funext fun j => by simp
  rw [hqueue, hqueued]
  exact h.slot_queues

/-- A ticket that arrives goes to the end of the queue of its class. -/
theorem joinSlotQueue (h : g.Sound loose) {t : Ticket} (ht : g.ticket? t.id = some t)
    {s : Slots} (hs : g.slots? t.op = some s) (hstage : t.stage = .arriving) :
    ((g.setSlots t.op { s with queue := s.queue ++ [t.id] }).setStage t.id .queued).Sound loose := by
  refine h.of_same_locks (by simpa only [map_id_setStage, tickets_setSlots] using h.ids_nodup)
    (by simp) (by simp) (fun j => ?_) (fun j => ?_) ?_ ?_
  · rw [owned?_setStage_of_eq (t := t) (by simpa using ht) (by simp [hstage, Stage.owned?]),
      owned?_setSlots]
  · rw [awaited?_setStage_of_eq (t := t) (by simpa using ht) (by simp [hstage, Stage.awaited?]),
      awaited?_setSlots]
  · have hnotYet : g.queued? t.id = none := by simp [queued?, ht, hstage]
    refine h.slot_queues.push (k := t.op) (q := s.queue) (by simp [slotQueue?, hs]) hnotYet
      (fun o => ?_) (fun j => ?_)
    · rw [slotQueue?_setStage, slotQueue?_setSlots hs]
    · rw [queued?_setStage]
      simp [ht]
  · exact h.current_setStage (by simp) ht (by simp [Stage.lock?])

/-- A slot that is handed to the first ticket in the queue of its class takes it out of the queue. -/
theorem admitFirst (h : g.Sound loose) {op : Operation} {s : Slots}
    (hs : g.slots? op = some s) {id : Nat} {rest : List Nat} (hqueue : s.queue = id :: rest) :
    ((g.setSlots op { s with queue := rest }).setStage id .admitted).Sound loose := by
  have hfirst : g.slotQueue? op = some (id :: rest) := by simp [slotQueue?, hs, hqueue]
  obtain ⟨t, ht, -, hstage⟩ := exists_ticket_of_queued?
    (((h.slot_queues op _ hfirst).2 id).1 List.mem_cons_self)
  refine h.of_same_locks (by simpa only [map_id_setStage, tickets_setSlots] using h.ids_nodup)
    (by simp) (by simp) (fun j => ?_) (fun j => ?_) ?_ ?_
  · rw [owned?_setStage_of_eq (t := t) (by simpa using ht) (by simp [hstage, Stage.owned?]),
      owned?_setSlots]
  · rw [awaited?_setStage_of_eq (t := t) (by simpa using ht) (by simp [hstage, Stage.awaited?]),
      awaited?_setSlots]
  · refine h.slot_queues.pop hfirst (fun o => ?_) (fun j => ?_)
    · rw [slotQueue?_setStage, slotQueue?_setSlots hs]
    · rw [queued?_setStage]
      simp
  · exact h.current_setStage (by simp) ht (by simp [Stage.lock?])

theorem seekSlot (h : g.Sound loose) {t : Ticket} (ht : g.ticket? t.id = some t)
    (hstage : t.stage = .arriving) : (g.seekSlot t).Sound loose := by
  have hadmit : ∀ {g' : Gate}, g'.Sound loose → g'.ticket? t.id = some t →
      (g'.setStage t.id .admitted).Sound loose := fun h' ht' =>
    h'.move ht' (by simp [hstage, Stage.isWaiting]) rfl (by simp [hstage, Stage.owned?])
      (by simp [Stage.lock?])
  unfold Gate.seekSlot
  split
  · exact hadmit h ht
  · next s hs =>
    split
    · exact hadmit (h.setSlots hs _) (by simpa using ht)
    · exact h.joinSlotQueue ht hs hstage

theorem returnSlot (h : g.Sound loose) (op : Operation) : (g.returnSlot op).Sound loose := by
  unfold Gate.returnSlot
  split
  · exact h
  · next s hs =>
    split
    · exact h.setSlots hs _
    · next id rest hqueue => exact h.admitFirst hs hqueue

/-- A ticket that refers to no lock and stands in no queue can be dropped. -/
theorem dropTicket (h : g.Sound loose) {id : Nat} {t : Ticket} (ht : g.ticket? id = some t)
    (hlock : t.stage.lock? = none) (hqueue : ∀ op, g.queued? id = some op → g.slotQueue? op = none) :
    (g.dropTicket id).Sound loose := by
  refine h.of_same_locks (nodup_dropTicket h.ids_nodup id) rfl rfl
    (owned?_dropTicket_of_eq ht (Stage.owned?_eq_none hlock))
    (awaited?_dropTicket_of_eq ht (Stage.awaited?_eq_none hlock)) ?_ (h.current_dropTicket rfl id)
  have hsame : (g.dropTicket id).slotQueue? = g.slotQueue? := funext fun op => by simp
  rw [hsame]
  exact h.slot_queues.forget hqueue fun j => queued?_dropTicket g id j

/-- A ticket that refers to no lock and does not wait can be dropped. -/
theorem dropIdle (h : g.Sound loose) {id : Nat} {t : Ticket} (ht : g.ticket? id = some t)
    (hlock : t.stage.lock? = none) (hstage : t.stage ≠ .queued) : (g.dropTicket id).Sound loose :=
  h.dropTicket ht hlock fun op hop => by simp [queued?, ht, hstage] at hop

/-- A ticket that waits for a slot can be dropped together with its place in the queue. -/
theorem dropQueued (h : g.Sound loose) {id : Nat} {t : Ticket} (ht : g.ticket? id = some t)
    (hstage : t.stage = .queued) : ((g.leaveSlotQueue t.op id).dropTicket id).Sound loose := by
  have hqueued : g.queued? id = some t.op := by simp [queued?, ht, hstage]
  unfold Gate.leaveSlotQueue
  split
  · next hs =>
    refine h.dropTicket ht (by simp [hstage, Stage.lock?]) fun op hop => ?_
    obtain rfl : t.op = op := Option.some.inj (hqueued.symm.trans hop)
    simp [slotQueue?, hs]
  · next s hs =>
    refine h.of_same_locks (nodup_dropTicket (by simpa using h.ids_nodup) id) (by simp) (by simp)
      (fun j => ?_) (fun j => ?_) ?_ (h.current_dropTicket (by simp) id)
    · rw [owned?_dropTicket_of_eq (t := t) (by simpa using ht) (by simp [hstage, Stage.owned?]),
        owned?_setSlots]
    · rw [awaited?_dropTicket_of_eq (t := t) (by simpa using ht) (by simp [hstage, Stage.awaited?]),
        awaited?_setSlots]
    · refine h.slot_queues.giveUp (q := s.queue) (by simp [slotQueue?, hs]) hqueued (fun o => ?_)
        (fun j => ?_)
      · rw [slotQueue?_dropTicket, slotQueue?_setSlots hs]
      · rw [queued?_dropTicket, queued?_setSlots]

end Sound
end VolumeLifecycle.Gate
