import VolumeLifecycle.Proofs.Gate.Attended
import VolumeLifecycle.Proofs.Gate.Line

namespace VolumeLifecycle.Gate

/-- The place in the line of its name that a ticket has at a stage. -/
def Stage.lockPlace : Stage → Place
  | located _ => .coming
  | blocked _ => .waiting
  | granted _ => .served
  | holding _ => .served
  | leaving => .served
  | _ => .apart

def lockLine (name : String) : Line where
  place t := if t.name = name then t.stage.lockPlace else .apart
  queue g := ((g.entries.get? name).bind g.lockQueue?).getD []

namespace LockLine

variable {g g' : Gate} {name : String}

theorem place_of_ne {t : Ticket} (hname : t.name ≠ name) : (lockLine name).place t = .apart :=
  if_neg hname

/-- A ticket whose stages have the same place keeps its own. -/
theorem place_eq {t : Ticket} {stage : Stage} (h : stage.lockPlace = t.stage.lockPlace) :
    (lockLine name).place { t with stage } = (lockLine name).place t := by
  simp [lockLine, h]

theorem place_eq_coming {t : Ticket} (h : (lockLine name).place t = .coming) :
    t.name = name ∧ t.stage.isMoving = true ∧ t.stage ≠ .admitted := by
  obtain ⟨num, n, o, stage⟩ := t
  by_cases hn : n = name
  · cases stage <;> simp_all [lockLine, Stage.lockPlace, Stage.isMoving]
  · simp [lockLine, hn] at h

/-- Those who wait in the line of a name are those who wait for its lock. -/
theorem placeOf_eq_waiting_iff {loose : Option Nat} (hsound : g.Sound loose) {id : Nat} :
    (lockLine name).placeOf g id = .waiting ↔
      ∃ l, g.entries.get? name = some l ∧ g.awaited? id = some l := by
  constructor
  · intro hwaiting
    obtain ⟨t, ht, hplace⟩ := Line.exists_of_placeOf hwaiting (by simp)
    by_cases hname : t.name = name
    · subst hname
      cases hstage : t.stage <;> simp [lockLine, hstage, Stage.lockPlace] at hplace
      next l =>
      exact ⟨l, hsound.current id t ht l (by simp [hstage, Stage.lock?]),
        by simp [awaited?, ht, hstage, Stage.awaited?]⟩
    · rw [place_of_ne hname] at hplace
      cases hplace
  · rintro ⟨l, hl, hid⟩
    obtain ⟨t, ht, hstage⟩ := exists_ticket_of_awaited? hid
    have hcurrent := hsound.current id t ht l (by simp [hstage, Stage.lock?])
    have hname := hsound.entry_inj _ _ l hcurrent hl
    rw [Line.placeOf_of_ticket? ht]
    simp [lockLine, hname, hstage, Stage.lockPlace]

theorem placeOf_ne_waiting {id : Nat} {t : Ticket} (ht : g.ticket? id = some t)
    (hstage : ∀ l, t.stage ≠ .blocked l) : (lockLine name).placeOf g id ≠ .waiting := by
  rw [Line.placeOf_of_ticket? ht]
  obtain ⟨num, n, o, stage⟩ := t
  by_cases hn : n = name
  · cases stage <;> simp_all [lockLine, Stage.lockPlace]
  · simp [lockLine, hn]

/-- Nobody waits for the lock of a name that has none. -/
theorem queue_of_none (hnone : g.entries.get? name = none) : (lockLine name).queue g = [] := by
  simp [lockLine, hnone]

theorem queue_of_entry {l : Nat} (hl : g.entries.get? name = some l) :
    (lockLine name).queue g = (g.lockQueue? l).getD [] := by
  simp [lockLine, hl]

/-- The line of a name depends on its entry and on the queue of its lock. -/
theorem queue_of_same (hentries : g'.entries.get? name = g.entries.get? name)
    (hlocks : ∀ l, g.entries.get? name = some l → g'.lockQueue? l = g.lockQueue? l) :
    (lockLine name).queue g' = (lockLine name).queue g := by
  cases hl : g.entries.get? name with
  | none => rw [queue_of_none hl, queue_of_none (hentries.trans hl)]
  | some l => rw [queue_of_entry hl, queue_of_entry (hentries.trans hl), hlocks l hl]

theorem queue_setStage (id : Nat) (stage : Stage) :
    (lockLine name).queue (g.setStage id stage) = (lockLine name).queue g :=
  queue_of_same rfl fun _ _ => rfl

theorem queue_dropTicket (id : Nat) :
    (lockLine name).queue (g.dropTicket id) = (lockLine name).queue g :=
  queue_of_same rfl fun _ _ => rfl

/-- The queue of a name holds those of the name who wait. -/
theorem kept {loose : Option Nat} (hsound : g.Sound loose) : (lockLine name).Kept g := by
  cases hl : g.entries.get? name with
  | none =>
    refine ⟨by simp [queue_of_none hl], fun id => ?_⟩
    rw [queue_of_none hl, placeOf_eq_waiting_iff hsound]
    simp [hl]
  | some l =>
    obtain ⟨k, hk⟩ := Option.isSome_iff_exists.1 (hsound.lock_of_entry name l hl)
    have hqueue : g.lockQueue? l = some k.queue := by simp [lockQueue?, hk]
    obtain ⟨hnodup, hmem⟩ := hsound.lock_queues l k.queue hqueue
    have hfull : (lockLine name).queue g = k.queue := by
      rw [queue_of_entry hl, hqueue]
      rfl
    refine ⟨hfull ▸ hnodup, fun id => ?_⟩
    rw [hfull, hmem, placeOf_eq_waiting_iff hsound]
    simp [hl]

/-- A lock that changes is that of one name only. -/
theorem queue_setLock {loose : Option Nat} (hsound : g.Sound loose) {n : String} {k : Lock}
    (hn : g.entries.get? n = some k.id) (hk : g.lock? k.id = some k) (isHeld : Bool)
    (queue : List Nat) :
    (lockLine name).queue (g.setLock ⟨k.id, isHeld, queue⟩) =
      if n = name then queue else (lockLine name).queue g := by
  split
  · next hname =>
    subst hname
    rw [queue_of_entry (g := g.setLock _) hn, lockQueue?_setLock hk, if_pos rfl]
    rfl
  · next hname =>
    refine queue_of_same rfl fun l hl => ?_
    rw [lockQueue?_setLock hk, if_neg]
    rintro rfl
    exact hname (hsound.entry_inj _ _ _ hn hl)

/-- A lock that is free again keeps its queue. -/
theorem queue_setLock_of_same {k : Lock} (hk : g.lock? k.id = some k) (isHeld : Bool) :
    (lockLine name).queue (g.setLock { k with isHeld }) = (lockLine name).queue g := by
  refine queue_of_same rfl fun l _ => ?_
  rw [lockQueue?_setLock hk]
  split
  · next hl => simp [hl, lockQueue?, hk]
  · rfl

theorem queue_of_lock {k : Lock} (hn : g.entries.get? name = some k.id)
    (hk : g.lock? k.id = some k) : (lockLine name).queue g = k.queue := by
  rw [queue_of_entry hn, lockQueue?, hk]
  rfl

/-- A lock that is made has nobody waiting for it. -/
theorem queue_withLock {loose : Option Nat} (hsound : g.Sound loose) {n : String}
    (hn : g.entries.get? n = none) :
    (lockLine name).queue (g.withLock n) = (lockLine name).queue g := by
  have hentry : (g.withLock n).entries.get? name =
      if name = n then some g.locks.length else g.entries.get? name := Dict.get?_insert ..
  by_cases hname : name = n
  · subst hname
    rw [if_pos rfl] at hentry
    rw [queue_of_none hn, queue_of_entry hentry, lockQueue?, hsound.lock?_withLock, if_pos rfl]
    rfl
  · rw [if_neg hname] at hentry
    refine queue_of_same hentry fun l hl => ?_
    rw [lockQueue?, hsound.lock?_withLock, if_neg (hsound.entry_ne_length hl)]
    rfl

/-- A lock that is forgotten has nobody waiting for it. -/
theorem queue_dropEntry (hsound : g.Sound none) (n : String) :
    (lockLine name).queue (g.dropEntry n) = (lockLine name).queue g := by
  by_cases hname : name = n
  · subst hname
    unfold Gate.dropEntry
    split
    · next l hl =>
      split
      · rfl
      · next hunreferenced =>
        have hempty : (lockLine name).queue g = [] := by
          refine List.eq_nil_iff_forall_not_mem.2 fun id hid => ?_
          obtain ⟨m, hm, hawaited⟩ :=
            (placeOf_eq_waiting_iff hsound).1 (((kept hsound).mem_iff id).1 hid)
          obtain rfl := Option.some.inj (hl.symm.trans hm)
          obtain ⟨t, ht, hstage⟩ := exists_ticket_of_awaited? hawaited
          refine hunreferenced ((isReferenced_iff hsound.ids_nodup l).2 ⟨id, t, ht, ?_⟩)
          simp [hstage, Stage.lock?]
        rw [hempty]
        exact queue_of_none ((Dict.get?_erase ..).trans (if_pos rfl))
    · rfl
  · refine queue_of_same (get?_dropEntry_of_ne g hname) fun l _ => ?_
    unfold Gate.dropEntry
    split
    · split <;> rfl
    · rfl

theorem step_seekSlot {t : Ticket} (ht : g.ticket? t.id = some t) (hstage : t.stage = .arriving) :
    (lockLine name).Step g (g.seekSlot t) := by
  have hmoves : ∀ {g' : Gate} {stage : Stage}, stage.lockPlace = .apart → g'.tickets = g.tickets →
      g'.entries = g.entries → g'.locks = g.locks →
        (lockLine name).Step g (g'.setStage t.id stage) := by
    intro g' stage hplace htickets hentries hlocks
    refine .of_same (Line.placeOf_setStage_of_eq htickets ht (place_eq ?_)) ?_
    · rw [hplace, hstage]
      rfl
    · refine queue_of_same (by simp [hentries]) fun l _ => ?_
      simp [lockQueue?, lock?, hlocks]
  unfold Gate.seekSlot
  split
  · exact hmoves rfl rfl rfl rfl
  · split
    · exact hmoves rfl (tickets_setSlots ..) (entries_setSlots ..) (locks_setSlots ..)
    · exact hmoves rfl (tickets_setSlots ..) (entries_setSlots ..) (locks_setSlots ..)

/-- A ticket that finds the lock of its name comes alone. -/
theorem step_findLock (h : g.Poised) {t : Ticket} (ht : g.ticket? t.id = some t)
    (hstage : t.stage = .admitted) : (lockLine name).Step g (g.findLock t) := by
  have hmoves : ∀ {g' : Gate} (l : Nat), g'.tickets = g.tickets →
      (lockLine name).queue g' = (lockLine name).queue g →
        (lockLine name).Step g (g'.setStage t.id (.located l)) := by
    intro g' l htickets hqueue
    by_cases hname : t.name = name
    · refine .comes t.id (fun j hcoming => ?_) ?_ ?_
        (fun j hj => .inl (Line.placeOf_setStage_of_ne htickets hj _))
        ((queue_setStage ..).trans hqueue)
      · obtain ⟨u, hu, hplace⟩ := Line.exists_of_placeOf hcoming (by simp)
        obtain ⟨-, hmoving, hne⟩ := place_eq_coming hplace
        obtain ⟨mover, hmover⟩ := h.one_moves
        have hj : j = t.id := (hmover j u hu hmoving).trans
          (hmover t.id t ht (by simp [hstage, Stage.isMoving])).symm
        rw [hj, ht] at hu
        cases hu
        exact hne hstage
      · rw [Line.placeOf_of_ticket? ht]
        simp [lockLine, hstage, Stage.lockPlace]
      · rw [Line.placeOf_setStage_self htickets ht]
        simp [lockLine, hname, Stage.lockPlace]
    · refine .of_same (Line.placeOf_setStage_of_eq htickets ht ?_) ((queue_setStage ..).trans hqueue)
      exact (if_neg hname).trans (if_neg hname).symm
  unfold Gate.findLock
  split
  · exact hmoves _ rfl rfl
  · next hnone =>
    have htickets : (g.withLock t.name).tickets = g.tickets := rfl
    exact hmoves _ htickets (queue_withLock h.sound hnone)

theorem step_seekLock (hsound : g.Sound none) {t : Ticket} (ht : g.ticket? t.id = some t) {l : Nat}
    (hstage : t.stage = .located l) : (lockLine name).Step g (g.seekLock t l) := by
  have hentry := hsound.current t.id t ht l (by simp [hstage, Stage.lock?])
  unfold Gate.seekLock
  split
  · exact .refl _ g
  next k hk =>
  obtain rfl := id_of_lock? hk
  have hother : ∀ {isHeld : Bool} {queue : List Nat} {stage : Stage}, t.name ≠ name →
      (lockLine name).Step g ((g.setLock ⟨k.id, isHeld, queue⟩).setStage t.id stage) := by
    intro isHeld queue stage hname
    refine .of_same (Line.placeOf_setStage_of_eq rfl ht ((if_neg hname).trans (if_neg hname).symm)) ?_
    rw [queue_setStage, queue_setLock hsound hentry hk, if_neg hname]
  have hcoming : t.name = name → (lockLine name).placeOf g t.id = .coming := by
    intro hname
    rw [Line.placeOf_of_ticket? ht]
    simp [lockLine, hname, hstage, Stage.lockPlace]
  split
  · next hheld =>
    by_cases hname : t.name = name
    · refine .joins t.id (hcoming hname) ?_
        (fun j hj => .inl (Line.placeOf_setStage_of_ne rfl hj _)) ?_
      · rw [Line.placeOf_setStage_self (tickets_setLock ..) ht]
        simp [lockLine, hname, Stage.lockPlace]
      · rw [queue_setStage, queue_setLock hsound hentry hk, if_pos hname,
          queue_of_lock (hname ▸ hentry) hk]
    · exact hother hname
  · next hfree =>
    by_cases hname : t.name = name
    · have hempty : k.queue = [] := by
        by_contra hne
        exact hfree (hsound.held_of_queue k.id k hk hne)
      refine .passes t.id (hcoming hname) ?_
        (fun j hj => .inl (Line.placeOf_setStage_of_ne rfl hj _)) ?_ ?_
      · rw [Line.placeOf_setStage_self (tickets_setLock ..) ht]
        simp [lockLine, hname, Stage.lockPlace]
      · rw [queue_of_lock (hname ▸ hentry) hk, hempty]
      · rw [queue_setStage, queue_setLock hsound hentry hk, if_pos hname, hempty]
    · exact hother hname

theorem step_advance (h : g.Poised) (id : Nat) : (lockLine name).Step g (g.advance id) := by
  unfold Gate.advance
  split
  · exact .refl _ g
  next t ht =>
  obtain rfl := id_of_ticket? ht
  split
  · next hstage => exact step_seekSlot ht hstage
  · next hstage => exact step_findLock h ht hstage
  · next hstage => exact step_seekLock h.sound ht hstage
  · next hstage =>
    exact .of_same (Line.placeOf_setStage_of_eq rfl ht (place_eq (by simp [hstage, Stage.lockPlace])))
      (queue_setStage ..)
  · exact .refl _ g

/-- A lock that is given back goes to the first of its queue, if anybody waits there. Before that a
ticket may have gone that did not wait. -/
theorem step_returnLock {loose : Option Nat} (hsound : g'.Sound loose)
    (hstays : ∀ j, (lockLine name).Stays g g' j)
    (hqueue : (lockLine name).queue g' = (lockLine name).queue g) (l : Nat) :
    (lockLine name).Step g (g'.returnLock l) := by
  unfold Gate.returnLock
  split
  · exact .stays hstays hqueue
  next k hk =>
  obtain rfl := id_of_lock? hk
  split
  · refine .stays (fun j => (hstays j).trans_eq (Line.placeOf_of_same_tickets rfl j)) ?_
    exact (queue_setLock_of_same hk false).trans hqueue
  · next id rest hwaiting =>
    obtain ⟨t, ht, hstage⟩ := hsound.first_blocked hk hwaiting
    have hentry := hsound.current id t ht k.id (by simp [hstage, Stage.lock?])
    have hothers : ∀ j, j ≠ id → (lockLine name).Stays g
        ((g'.setLock { k with queue := rest }).setStage id (.granted k.id)) j := fun j hj =>
      (hstays j).trans_eq (Line.placeOf_setStage_of_ne (tickets_setLock ..) hj _)
    by_cases hname : t.name = name
    · subst hname
      refine .serves id ?_ hothers ?_
      · rw [Line.placeOf_setStage_self (tickets_setLock ..) ht]
        simp [lockLine, Stage.lockPlace]
      · rw [← hqueue, queue_of_lock hentry hk, hwaiting, queue_setStage,
          queue_setLock hsound hentry hk, if_pos rfl]
    · refine .stays (fun j => (hstays j).trans_eq ?_) ?_
      · exact Line.placeOf_setStage_of_eq (tickets_setLock ..) ht
          ((if_neg hname).trans (if_neg hname).symm) j
      · rw [queue_setStage, queue_setLock hsound hentry hk, if_neg hname, hqueue]

/-- Who is handed a slot does not seek the lock yet. -/
theorem placeOf_returnSlot {loose : Option Nat} (hsound : g.Sound loose) (op : Operation) (j : Nat) :
    (lockLine name).placeOf (g.returnSlot op) j = (lockLine name).placeOf g j := by
  unfold Gate.returnSlot
  split
  · rfl
  next s hs =>
  split
  · exact Line.placeOf_of_same_tickets (tickets_setSlots ..) j
  · next id rest hqueue =>
    obtain ⟨t, ht, -, hstage⟩ := hsound.first_queued hs hqueue
    refine Line.placeOf_setStage_of_eq (tickets_setSlots ..) ht (place_eq ?_) j
    rw [hstage]
    rfl

/-- A slot that is given back moves nobody in the line of a name. -/
theorem queue_returnSlot (op : Operation) :
    (lockLine name).queue (g.returnSlot op) = (lockLine name).queue g := by
  refine queue_of_same (by rw [entries_returnSlot]) fun l _ => ?_
  unfold Gate.returnSlot
  split
  · rfl
  · split <;> simp [lockQueue?, lock?]

theorem step_arrive (id : Nat) (n : String) (op : Operation) :
    (lockLine name).Step g (g.arrive id n op) := by
  by_cases hthere : (g.ticket? id).isSome
  · rw [Gate.arrive, if_pos hthere]
    exact .refl _ g
  have hnone : g.ticket? id = none := by simpa using hthere
  refine .of_same (fun j => ?_) (queue_of_same ?_ fun l _ => ?_)
  · rw [Line.placeOf, ticket?_arrive, Line.placeOf]
    split
    · next hj => simp [hj, hnone, lockLine, Stage.lockPlace]
    · rfl
  · rw [Gate.arrive, if_neg hthere]
  · rw [Gate.arrive, if_neg hthere]
    rfl

theorem step_unlock (hsound : g.Sound none) (id : Nat) : (lockLine name).Step g (g.unlock id) := by
  unfold Gate.unlock
  split
  · next ht =>
    refine step_returnLock (hsound.letGo ht rfl) (fun j => .inl ?_) (queue_setStage ..) _
    refine Line.placeOf_setStage_of_eq rfl ht (place_eq ?_) j
    rfl
  · exact .refl _ g

theorem step_retire (hsound : g.Sound none) (id : Nat) : (lockLine name).Step g (g.retire id) := by
  unfold Gate.retire
  split
  · next n o ht =>
    have hgone : (lockLine name).Step g ((g.dropEntry n).dropTicket id) :=
      .stays (Line.stays_dropTicket (tickets_dropEntry g n) (placeOf_ne_waiting ht (by simp)))
        ((queue_dropTicket id).trans (queue_dropEntry hsound n))
    exact hgone.then_same (placeOf_returnSlot (hsound.dropLeaving ht rfl) o) (queue_returnSlot o)
  · exact .refl _ g

theorem queue_leaveSlotQueue (op : Operation) (id : Nat) :
    (lockLine name).queue (g.leaveSlotQueue op id) = (lockLine name).queue g := by
  refine queue_of_same (by rw [entries_leaveSlotQueue]) fun l _ => ?_
  unfold Gate.leaveSlotQueue
  split
  · rfl
  · simp [lockQueue?, lock?]

/-- Who gives up waiting for a lock leaves its queue. -/
theorem step_dropBlocked (hsound : g.Sound none) {id : Nat} {t : Ticket} (ht : g.ticket? id = some t)
    {l : Nat} (hstage : t.stage = .blocked l) :
    (lockLine name).Step g ((g.leaveLockQueue l id).dropTicket id) := by
  have hentry := hsound.current id t ht l (by simp [hstage, Stage.lock?])
  obtain ⟨k, hk⟩ := Option.isSome_iff_exists.1 (hsound.lock_of_entry _ _ hentry)
  obtain rfl := id_of_lock? hk
  have hqueue : (lockLine name).queue (g.leaveLockQueue k.id id) =
      if t.name = name then k.queue.filter (· ≠ id) else (lockLine name).queue g := by
    simp only [leaveLockQueue, hk]
    exact queue_setLock hsound hentry hk _ _
  by_cases hname : t.name = name
  · refine .quits id (Line.placeOf_dropTicket_self id) (fun j hj => .inl ?_) ?_
    · exact Line.placeOf_dropTicket_of_ne (tickets_leaveLockQueue ..) hj
    · rw [queue_dropTicket, hqueue, if_pos hname, queue_of_lock (hname ▸ hentry) hk]
  · refine .stays (Line.stays_dropTicket (tickets_leaveLockQueue ..) ?_) ?_
    · rw [Line.placeOf_of_ticket? ht, place_of_ne hname]
      simp
    · rw [queue_dropTicket, hqueue, if_neg hname]

/-- A ticket that is given up leaves the queue if it stands there. The lock that it was handed goes
on. -/
theorem step_cancel (hsound : g.Sound none) (id : Nat) : (lockLine name).Step g (g.cancel id) := by
  unfold Gate.cancel
  split
  · next n o stage ht =>
    have hdrops : ∀ {g' : Gate}, (∀ l, stage ≠ .blocked l) → g'.tickets = g.tickets →
        ∀ j, (lockLine name).Stays g (g'.dropTicket id) j := fun hne htickets =>
      Line.stays_dropTicket htickets (placeOf_ne_waiting ht hne)
    split
    · exact .stays (hdrops (by simp) rfl) (queue_dropTicket id)
    · exact .stays (hdrops (by simp) (tickets_leaveSlotQueue ..))
        ((queue_dropTicket id).trans (queue_leaveSlotQueue o id))
    · have hdropped := hsound.dropIdle ht rfl (by simp)
      have hgone : (lockLine name).Step g (g.dropTicket id) :=
        .stays (hdrops (by simp) rfl) (queue_dropTicket id)
      exact hgone.then_same (placeOf_returnSlot hdropped o) (queue_returnSlot o)
    · next l =>
      exact (step_dropBlocked hsound ht rfl).then_same
        (placeOf_returnSlot (hsound.dropBlocked ht rfl) o) (queue_returnSlot o)
    · next l =>
      have hloose := hsound.dropOwner ht rfl
      exact (step_returnLock hloose (hdrops (by simp) rfl) (queue_dropTicket id) l).then_same
        (placeOf_returnSlot hloose.returnLock o) (queue_returnSlot o)
    · exact .refl _ g
  · exact .refl _ g

/-- What a step under attention does to the line for the lock of a name. -/
theorem step (h : g.Poised) (e : Event) : (lockLine name).Step g (g.apply e) := by
  cases e with
  | arrive id n op => exact step_arrive id n op
  | advance id => exact step_advance h id
  | unlock id => exact step_unlock h.sound id
  | retire id => exact step_retire h.sound id
  | cancel id => exact step_cancel h.sound id

end LockLine
end VolumeLifecycle.Gate
