import VolumeLifecycle.Proofs.Gate.Sound

namespace VolumeLifecycle.Gate

def withLock (g : Gate) (name : String) : Gate :=
  { g with
    entries := g.entries.insert name g.locks.length
    locks := g.locks ++ [⟨g.locks.length, false, []⟩] }

namespace Sound

variable {g : Gate} {loose : Option Nat}

/-- A gate with the same slots and entries, and with the same tickets waiting for slots, is sound if
its locks are in order. -/
theorem of_same_slots (h : g.Sound loose) {g' : Gate} {loose' : Option Nat}
    (hids : (g'.tickets.map Ticket.id).Nodup) (hlt : ∀ k ∈ g'.locks, k.id < g'.locks.length)
    (hentries : g'.entries = g.entries)
    (hsome : ∀ l, (g'.lock? l).isSome = (g.lock? l).isSome)
    (hslotQueue : ∀ op, g'.slotQueue? op = g.slotQueue? op)
    (hqueued : ∀ id, g'.queued? id = g.queued? id)
    (hlockQueue : QueuesMatch g'.lockQueue? g'.awaited?)
    (howners : OwnersMatch g'.taken? g'.owned? loose')
    (hqueue : ∀ l k, g'.lock? l = some k → k.queue ≠ [] → k.isHeld = true)
    (hcurrent : ∀ id t, g'.ticket? id = some t → ∀ l, t.stage.lock? = some l →
      g.entries.get? t.name = some l) : g'.Sound loose' := by
  constructor
  · exact hids
  · exact hlt
  · rw [funext hslotQueue, funext hqueued]
    exact h.slot_queues
  · exact hlockQueue
  · exact howners
  · exact hqueue
  · simpa only [hentries] using hcurrent
  · simpa only [hentries, hsome] using h.lock_of_entry
  · simpa only [hentries] using h.entry_inj

theorem lock_id_lt_setLock (h : g.Sound loose) (k : Lock) :
    ∀ m ∈ (g.setLock k).locks, m.id < (g.setLock k).locks.length := by
  intro m hm
  simp only [setLock, List.length_map, List.mem_map] at hm ⊢
  obtain ⟨n, hn, rfl⟩ := hm
  split
  · next hid => exact hid ▸ h.lock_id_lt n hn
  · exact h.lock_id_lt n hn

theorem isSome_lock?_setLock (k' : Lock) (l : Nat) :
    ((g.setLock k').lock? l).isSome = (g.lock? l).isSome := by
  rw [lock?_setLock]
  split <;> simp

/-- A lock whose queue is not empty has to be taken; then all such locks are. -/
theorem held_of_queue_setLock (h : g.Sound loose) {k' : Lock}
    (hheld : k'.queue ≠ [] → k'.isHeld = true) :
    ∀ l m, (g.setLock k').lock? l = some m → m.queue ≠ [] → m.isHeld = true := by
  intro l m hm
  rw [lock?_setLock] at hm
  split at hm
  · obtain ⟨_, _, rfl⟩ := Option.map_eq_some_iff.1 hm
    exact hheld
  · exact h.held_of_queue l m hm

/-- A ticket takes the lock that it has found if nobody has it. -/
theorem takeLock (h : g.Sound none) {t : Ticket} (ht : g.ticket? t.id = some t) {k : Lock}
    (hk : g.lock? k.id = some k) (hstage : t.stage = .located k.id) (hfree : k.isHeld = false) :
    ((g.setLock { k with isHeld := true }).setStage t.id (.holding k.id)).Sound none := by
  refine h.of_same_slots (by simpa only [map_id_setStage, tickets_setLock] using h.ids_nodup)
    (h.lock_id_lt_setLock _) rfl (isSome_lock?_setLock _) (by simp) (fun j => ?_) ?_ ?_
    (h.held_of_queue_setLock fun _ => rfl) (h.current_setStage rfl ht ?_)
  · rw [queued?_setStage_of_iff (t := t) (by simpa using ht) (by simp [hstage]), queued?_setLock]
  · have hawaited : ((g.setLock { k with isHeld := true }).setStage t.id
        (.holding k.id)).awaited? = g.awaited? := funext fun j => by
      rw [awaited?_setStage_of_eq (t := t) (by simpa using ht) (by simp [hstage, Stage.awaited?]),
        awaited?_setLock]
    have hqueue : ((g.setLock { k with isHeld := true }).setStage t.id
        (.holding k.id)).lockQueue? = g.lockQueue? := funext fun l => by
      rw [lockQueue?_setStage, lockQueue?_setLock hk]
      split
      · next hl => simp [hl, lockQueue?, hk]
      · rfl
    rw [hawaited, hqueue]
    exact h.lock_queues
  · have hnotYet : g.owned? t.id = none := by simp [owned?, ht, hstage, Stage.owned?]
    refine h.owners.take (l := k.id) (by simp [taken?, hk, hfree]) hnotYet (fun m => ?_)
      (fun j => ?_)
    · rw [taken?_setStage, taken?_setLock hk]
    · rw [owned?_setStage, ticket?_setLock, ht, owned?_setLock]
      rfl
  · intro l hl
    exact h.current t.id t ht l (by simpa [hstage, Stage.lock?] using hl)

/-- A ticket goes to the end of the queue of the lock that it has found if somebody has it. -/
theorem joinLockQueue (h : g.Sound none) {t : Ticket} (ht : g.ticket? t.id = some t) {k : Lock}
    (hk : g.lock? k.id = some k) (hstage : t.stage = .located k.id) (hheld : k.isHeld = true) :
    ((g.setLock { k with queue := k.queue ++ [t.id] }).setStage t.id (.blocked k.id)).Sound none := by
  refine h.of_same_slots (by simpa only [map_id_setStage, tickets_setLock] using h.ids_nodup)
    (h.lock_id_lt_setLock _) rfl (isSome_lock?_setLock _) (by simp) (fun j => ?_) ?_ ?_
    (h.held_of_queue_setLock fun _ => hheld) (h.current_setStage rfl ht ?_)
  · rw [queued?_setStage_of_iff (t := t) (by simpa using ht) (by simp [hstage]), queued?_setLock]
  · have hnotYet : g.awaited? t.id = none := by simp [awaited?, ht, hstage, Stage.awaited?]
    refine h.lock_queues.push (k := k.id) (q := k.queue) (by simp [lockQueue?, hk]) hnotYet
      (fun l => ?_) (fun j => ?_)
    · rw [lockQueue?_setStage, lockQueue?_setLock hk]
    · rw [awaited?_setStage, ticket?_setLock, ht, awaited?_setLock]
      rfl
  · have htaken : ((g.setLock { k with queue := k.queue ++ [t.id] }).setStage t.id
        (.blocked k.id)).taken? = g.taken? := funext fun l => by
      rw [taken?_setStage, taken?_setLock hk]
      split
      · next hl => simp [hl, taken?, hk]
      · rfl
    have howned : ((g.setLock { k with queue := k.queue ++ [t.id] }).setStage t.id
        (.blocked k.id)).owned? = g.owned? := funext fun j => by
      rw [owned?_setStage_of_eq (t := t) (by simpa using ht) (by simp [hstage, Stage.owned?]),
        owned?_setLock]
    rw [htaken, howned]
    exact h.owners
  · intro l hl
    exact h.current t.id t ht l (by simpa [hstage, Stage.lock?] using hl)

theorem seekLock (h : g.Sound none) {t : Ticket} (ht : g.ticket? t.id = some t) {l : Nat}
    (hstage : t.stage = .located l) : (g.seekLock t l).Sound none := by
  unfold Gate.seekLock
  split
  · exact h
  · next k hk =>
    obtain rfl := id_of_lock? hk
    split
    · next hheld => exact h.joinLockQueue ht hk hstage hheld
    · next hfree => exact h.takeLock ht hk hstage (by simpa using hfree)

/-- The number of the next lock has not been given out. -/
theorem lock?_length (h : g.Sound loose) : g.lock? g.locks.length = none := by
  refine List.find?_eq_none.2 fun k hk => ?_
  have hlt := h.lock_id_lt k hk
  simp only [decide_eq_true_eq]
  omega

/-- No ticket refers to the lock that is made next. -/
theorem stage_lock?_ne_length (h : g.Sound loose) {id : Nat} {t : Ticket}
    (ht : g.ticket? id = some t) : t.stage.lock? ≠ some g.locks.length := by
  intro hl
  have hsome := h.lock_of_entry _ _ (h.current id t ht _ hl)
  rw [h.lock?_length] at hsome
  cases hsome

/-- The entry of a name never refers to the lock that is made next. -/
theorem entry_ne_length (h : g.Sound loose) {n : String} {l : Nat}
    (hn : g.entries.get? n = some l) : l ≠ g.locks.length := by
  rintro rfl
  have hsome := h.lock_of_entry n _ hn
  rw [h.lock?_length] at hsome
  cases hsome

/-- A new lock is found under its number, and nothing else changes. -/
theorem lock?_withLock (h : g.Sound loose) (name : String) (l : Nat) :
    (g.withLock name).lock? l =
      if l = g.locks.length then some ⟨g.locks.length, false, []⟩ else g.lock? l := by
  refine (Numbered.find?_snoc Lock.id g.locks _ l).trans ?_
  by_cases hl : l = g.locks.length
  · subst hl
    have hnew : g.locks.find? (fun m => m.id = g.locks.length) = none := h.lock?_length
    rw [hnew, if_pos rfl, if_pos rfl, Option.none_or]
  · simp [hl, Ne.symm hl, lock?]

/-- Nobody waits for a new lock. -/
theorem lockQueues_withLock (h : g.Sound loose) (name : String) :
    QueuesMatch (g.withLock name).lockQueue? g.awaited? := by
  intro l q hq
  simp only [lockQueue?, h.lock?_withLock] at hq
  split at hq
  · next hl =>
    cases hq
    refine ⟨List.nodup_nil, fun id => ⟨fun hid => absurd hid List.not_mem_nil, fun hid => ?_⟩⟩
    obtain ⟨t, ht, hstage⟩ := exists_ticket_of_awaited? hid
    exact absurd (by simp [hstage, hl, Stage.lock?]) (h.stage_lock?_ne_length ht)
  · exact h.lock_queues l q hq

/-- Nobody owns a new lock. -/
theorem owners_withLock (h : g.Sound none) (name : String) :
    OwnersMatch (g.withLock name).taken? g.owned? none := by
  refine ⟨fun l b hb => ?_, h.owners.unique, h.owners.not_loose⟩
  simp only [taken?, h.lock?_withLock] at hb
  split at hb
  · next hl =>
    cases hb
    refine ⟨fun hfree => (Bool.false_ne_true hfree).elim, ?_⟩
    rintro (hloose | ⟨id, hid⟩)
    · cases hloose
    · obtain ⟨t, ht, hstage⟩ := exists_ticket_of_owned? hid
      exact absurd (hl ▸ hstage) (h.stage_lock?_ne_length ht)
  · exact h.owners.held_iff l b hb

/-- No other name has a new lock. -/
theorem entry_inj_withLock (h : g.Sound loose) (name n m : String) (l : Nat)
    (hn : (g.withLock name).entries.get? n = some l)
    (hm : (g.withLock name).entries.get? m = some l) : n = m := by
  replace hn := (Dict.get?_insert _ _ _ _).symm.trans hn
  replace hm := (Dict.get?_insert _ _ _ _).symm.trans hm
  split at hn <;> split at hm
  · next hn' hm' => rw [hn', hm']
  · cases hn
    exact absurd rfl (h.entry_ne_length hm)
  · cases hm
    exact absurd rfl (h.entry_ne_length hn)
  · exact h.entry_inj n m l hn hm

/-- A lock made for a name that has none is that name's current one. -/
theorem makeLock (h : g.Sound none) {name : String} (hnone : g.entries.get? name = none) :
    (g.withLock name).Sound none := by
  constructor
  · exact h.ids_nodup
  · intro k hk
    change k.id < (g.locks ++ [_]).length
    rw [List.length_append, List.length_singleton]
    rcases List.mem_append.1 hk with hk | hk
    · exact Nat.lt_succ_of_lt (h.lock_id_lt k hk)
    · simp [List.mem_singleton.1 hk]
  · exact h.slot_queues
  · exact h.lockQueues_withLock name
  · exact h.owners_withLock name
  · intro l k hk
    rw [h.lock?_withLock] at hk
    split at hk
    · cases hk
      simp
    · exact h.held_of_queue l k hk
  · intro id t ht l hl
    have hentry := h.current id t ht l hl
    have hne : t.name ≠ name := by
      intro heq
      rw [heq, hnone] at hentry
      cases hentry
    exact (Dict.get?_insert _ _ _ _).trans (by simpa [hne] using hentry)
  · intro n l hn
    rw [h.lock?_withLock]
    replace hn := (Dict.get?_insert _ _ _ _).symm.trans hn
    split at hn
    · cases hn
      simp
    · rw [if_neg (h.entry_ne_length hn)]
      exact h.lock_of_entry n l hn
  · exact h.entry_inj_withLock name

theorem findLock (h : g.Sound none) {t : Ticket} (ht : g.ticket? t.id = some t)
    (hstage : t.stage = .admitted) : (g.findLock t).Sound none := by
  have hmove : ∀ {g' : Gate} {l : Nat}, g'.Sound none → g'.ticket? t.id = some t →
      g'.entries.get? t.name = some l → (g'.setStage t.id (.located l)).Sound none :=
    fun h' ht' hl => h'.move ht' (by simp [hstage, Stage.isWaiting]) rfl
      (by simp [hstage, Stage.owned?]) (by simp [Stage.lock?, hl])
  unfold Gate.findLock
  split
  · next l hl => exact hmove h ht hl
  · next hnone => exact hmove (h.makeLock hnone) ht (by rw [Dict.get?_insert, if_pos rfl])

/-- A ticket that gives up its lock leaves it loose. -/
theorem letGo (h : g.Sound none) {id : Nat} {t : Ticket} (ht : g.ticket? id = some t) {l : Nat}
    (hstage : t.stage = .holding l) : (g.setStage id .leaving).Sound (some l) := by
  refine h.of_same_slots (by simpa only [map_id_setStage] using h.ids_nodup) h.lock_id_lt rfl
    (by simp) (by simp) (queued?_setStage_of_iff ht (by simp [hstage])) ?_ ?_ h.held_of_queue
    (h.current_setStage rfl ht (by simp [Stage.lock?]))
  · have hawaited : (g.setStage id .leaving).awaited? = g.awaited? :=
      funext (awaited?_setStage_of_eq ht (by simp [hstage, Stage.awaited?]))
    rw [hawaited]
    exact h.lock_queues
  · have howned : g.owned? id = some l := by simp [owned?, ht, hstage, Stage.owned?]
    refine h.owners.letGo howned fun j => ?_
    rw [owned?_setStage, ht]
    rfl

/-- A ticket that is dropped after it was handed a lock leaves that lock loose. -/
theorem dropOwner (h : g.Sound none) {id : Nat} {t : Ticket} (ht : g.ticket? id = some t) {l : Nat}
    (hstage : t.stage = .granted l) : (g.dropTicket id).Sound (some l) := by
  refine h.of_same_slots (nodup_dropTicket h.ids_nodup id) h.lock_id_lt rfl (by simp) (by simp)
    (queued?_dropTicket_of_ne ht (by simp [hstage])) ?_ ?_ h.held_of_queue
    (h.current_dropTicket rfl id)
  · rw [funext (awaited?_dropTicket_of_eq ht (by simp [hstage, Stage.awaited?]))]
    exact h.lock_queues
  · exact h.owners.letGo (l := l) (by simp [owned?, ht, hstage, Stage.owned?])
      fun j => owned?_dropTicket g id j

/-- A loose lock goes to the first ticket that waits for it, or is free again. -/
theorem returnLock {l : Nat} (h : g.Sound (some l)) : (g.returnLock l).Sound none := by
  unfold Gate.returnLock
  split
  · next hnone =>
    refine h.of_same_slots h.ids_nodup h.lock_id_lt rfl (by simp) (by simp) (by simp) h.lock_queues
      ?_ h.held_of_queue h.current
    refine h.owners.giveBack fun m => ?_
    split
    · next hm => simp [hm, taken?, hnone]
    · rfl
  next k hk =>
  obtain rfl := id_of_lock? hk
  split
  · next hqueue =>
    refine h.of_same_slots h.ids_nodup (h.lock_id_lt_setLock _) rfl (isSome_lock?_setLock _)
      (by simp) (by simp) ?_ ?_ (h.held_of_queue_setLock (by simp [hqueue])) h.current
    · have hsame : (g.setLock { k with isHeld := false }).lockQueue? = g.lockQueue? :=
        funext fun l => by
          rw [lockQueue?_setLock hk]
          split
          · next hl => simp [hl, lockQueue?, hk]
          · rfl
      rw [hsame]
      exact h.lock_queues
    · refine h.owners.giveBack fun m => ?_
      rw [taken?_setLock hk]
      split
      · next hm => simp [hm, taken?, hk]
      · rfl
  · next id rest hqueue =>
    have hfirst : g.lockQueue? k.id = some (id :: rest) := by simp [lockQueue?, hk, hqueue]
    obtain ⟨t, ht, hstage⟩ := exists_ticket_of_awaited?
      (((h.lock_queues k.id _ hfirst).2 id).1 List.mem_cons_self)
    refine h.of_same_slots (by simpa only [map_id_setStage, tickets_setLock] using h.ids_nodup)
      (h.lock_id_lt_setLock _) rfl (isSome_lock?_setLock _) (by simp) (fun j => ?_) ?_ ?_
      (h.held_of_queue_setLock fun _ => h.held_of_queue k.id k hk (by simp [hqueue]))
      (h.current_setStage rfl ht ?_)
    · rw [queued?_setStage_of_iff (t := t) (by simpa using ht) (by simp [hstage]), queued?_setLock]
    · refine h.lock_queues.pop hfirst (fun m => ?_) (fun j => ?_)
      · rw [lockQueue?_setStage, lockQueue?_setLock hk]
      · rw [awaited?_setStage, ticket?_setLock, ht, awaited?_setLock]
        rfl
    · have hheld := h.held_of_queue k.id k hk (by simp [hqueue])
      have htaken : ((g.setLock { k with queue := rest }).setStage id (.granted k.id)).taken? =
          g.taken? := funext fun m => by
        rw [taken?_setStage, taken?_setLock hk]
        split
        · next hm => simp [hm, taken?, hk]
        · rfl
      rw [htaken]
      have hnotYet : g.owned? id = none := by simp [owned?, ht, hstage, Stage.owned?]
      refine h.owners.handOn hnotYet fun j => ?_
      rw [owned?_setStage, ticket?_setLock, ht, owned?_setLock]
      rfl
    · intro m hm
      exact h.current id t ht m (by simpa [hstage, Stage.lock?] using hm)

/-- A ticket that waits for a lock can be dropped together with its place in the queue. -/
theorem dropBlocked (h : g.Sound none) {id : Nat} {t : Ticket} (ht : g.ticket? id = some t) {l : Nat}
    (hstage : t.stage = .blocked l) : ((g.leaveLockQueue l id).dropTicket id).Sound none := by
  have hawaited : g.awaited? id = some l := by simp [awaited?, ht, hstage, Stage.awaited?]
  obtain ⟨k, hk⟩ := Option.isSome_iff_exists.1
    (h.lock_of_entry _ _ (h.current id t ht l (by simp [hstage, Stage.lock?])))
  obtain rfl := id_of_lock? hk
  simp only [leaveLockQueue, hk]
  refine h.of_same_slots (nodup_dropTicket h.ids_nodup id) (h.lock_id_lt_setLock _) rfl
    (isSome_lock?_setLock _) (by simp) (fun j => ?_) ?_ ?_
    (h.held_of_queue_setLock fun hne => ?_) (h.current_dropTicket rfl id)
  · rw [queued?_dropTicket_of_ne (t := t) (by simpa using ht) (by simp [hstage]), queued?_setLock]
  · refine h.lock_queues.giveUp (q := k.queue) (by simp [lockQueue?, hk]) hawaited (fun m => ?_)
      (fun j => ?_)
    · rw [lockQueue?_dropTicket, lockQueue?_setLock hk]
    · rw [awaited?_dropTicket, awaited?_setLock]
  · have htaken : ((g.setLock { k with queue := k.queue.filter (· ≠ id) }).dropTicket id).taken? =
        g.taken? := funext fun m => by
      rw [taken?_dropTicket, taken?_setLock hk]
      split
      · next hm => simp [hm, taken?, hk]
      · rfl
    have howned : ((g.setLock { k with queue := k.queue.filter (· ≠ id) }).dropTicket id).owned? =
        g.owned? := funext fun j => by
      rw [owned?_dropTicket_of_eq (t := t) (by simpa using ht) (by simp [hstage, Stage.owned?]),
        owned?_setLock]
    rw [htaken, howned]
    exact h.owners
  · refine h.held_of_queue k.id k hk fun hempty => hne ?_
    simp [hempty]

/-- An entry whose lock nobody refers to can go. -/
theorem dropEntry (h : g.Sound loose) (name : String) : (g.dropEntry name).Sound loose := by
  unfold Gate.dropEntry
  split
  · next l hl =>
    split
    · exact h
    · next hunreferenced =>
      have hkept : ∀ n m, (g.entries.erase name).get? n = some m → g.entries.get? n = some m := by
        intro n m hn
        rw [Dict.get?_erase] at hn
        split at hn
        · cases hn
        · exact hn
      refine ⟨h.ids_nodup, h.lock_id_lt, h.slot_queues, h.lock_queues, h.owners, h.held_of_queue,
        fun id t ht m hm => ?_, fun n m hn => h.lock_of_entry n m (hkept n m hn),
        fun n m l' hn hm => h.entry_inj n m l' (hkept n l' hn) (hkept m l' hm)⟩
      have hentry := h.current id t ht m hm
      have hne : t.name ≠ name := by
        intro heq
        rw [heq, hl] at hentry
        cases hentry
        exact hunreferenced ((isReferenced_iff h.ids_nodup _).2 ⟨id, t, ht, hm⟩)
      refine (Dict.get?_erase _ _ _).trans ?_
      simpa [hne] using hentry
  · exact h

/-- A ticket on its way out can go after the entry of its name was seen to. -/
theorem dropLeaving (h : g.Sound loose) {id : Nat} {t : Ticket} (ht : g.ticket? id = some t)
    (hstage : t.stage = .leaving) : ((g.dropEntry t.name).dropTicket id).Sound loose :=
  (h.dropEntry t.name).dropIdle ((ticket?_dropEntry g id t.name).trans ht)
    (by simp [hstage, Stage.lock?]) (by simp [hstage])

end Sound
end VolumeLifecycle.Gate
