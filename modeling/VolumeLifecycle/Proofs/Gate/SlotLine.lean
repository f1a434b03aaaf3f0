import VolumeLifecycle.Proofs.Gate.Attended
import VolumeLifecycle.Proofs.Gate.Line

namespace VolumeLifecycle.Gate

/-- The place in the line of its class that a ticket has at a stage. -/
def Stage.slotPlace : Stage → Place
  | arriving => .coming
  | queued => .waiting
  | _ => .served

def slotLine (op : Operation) : Line where
  place t := if t.op = op then t.stage.slotPlace else .apart
  queue g := (g.slotQueue? op).getD []

namespace SlotLine

variable {g g' : Gate} {op : Operation}

/-- A ticket that has a slot keeps its place when it moves on. -/
theorem place_eq {t : Ticket} {stage : Stage} (hbefore : t.stage.hasSlot = true)
    (hafter : stage.hasSlot = true) :
    (slotLine op).place { t with stage } = (slotLine op).place t := by
  have hserved : ∀ {s : Stage}, s.hasSlot = true → s.slotPlace = .served := by
    intro s hs
    cases s <;> simp_all [Stage.hasSlot, Stage.slotPlace]
  simp [slotLine, hserved hbefore, hserved hafter]

theorem place_of_ne {t : Ticket} (hop : t.op ≠ op) : (slotLine op).place t = .apart :=
  if_neg hop

theorem place_eq_coming {t : Ticket} (h : (slotLine op).place t = .coming) :
    t.op = op ∧ t.stage = .arriving := by
  obtain ⟨num, name, o, stage⟩ := t
  by_cases ho : o = op
  · cases stage <;> simp_all [slotLine, Stage.slotPlace]
  · simp [slotLine, ho] at h

theorem placeOf_ne_coming (hcalm : g.Calm) (id : Nat) : (slotLine op).placeOf g id ≠ .coming := by
  intro hcoming
  obtain ⟨t, ht, hplace⟩ := Line.exists_of_placeOf hcoming (by simp)
  have hmoving := hcalm id t ht
  rw [(place_eq_coming hplace).2] at hmoving
  cases hmoving

theorem placeOf_eq_waiting_iff {id : Nat} :
    (slotLine op).placeOf g id = .waiting ↔ g.queued? id = some op := by
  cases ht : g.ticket? id with
  | none => simp [Line.placeOf, queued?, ht]
  | some t =>
    rw [Line.placeOf_of_ticket? ht, queued?, ht, Option.bind_some, slotLine]
    by_cases hop : t.op = op
    · cases hstage : t.stage <;> simp [hop, hstage, Stage.slotPlace]
    · simp [hop]

/-- The queue of a class holds those of the class who wait. -/
theorem kept (h : g.Poised) : (slotLine op).Kept g := by
  cases hqueue : g.slotQueue? op with
  | none =>
    have hempty : (slotLine op).queue g = [] := by simp [slotLine, hqueue]
    refine ⟨by simp [hempty], fun id => ?_⟩
    simp only [hempty, List.not_mem_nil, false_iff]
    rw [placeOf_eq_waiting_iff]
    intro hid
    obtain ⟨t, ht, rfl, hstage⟩ := exists_ticket_of_queued? hid
    obtain ⟨s, hs⟩ := h.waits_for_bounded t (mem_of_ticket? ht) hstage
    simp [slotQueue?, hs] at hqueue
  | some q =>
    have hfull : (slotLine op).queue g = q := by simp [slotLine, hqueue]
    obtain ⟨hnodup, hmem⟩ := h.sound.slot_queues op q hqueue
    exact ⟨hfull ▸ hnodup, fun id => by rw [hfull, hmem, placeOf_eq_waiting_iff]⟩

/-- The line of a class depends on its slots alone. -/
theorem queue_of_same_slots (hslots : g'.slots? op = g.slots? op) :
    (slotLine op).queue g' = (slotLine op).queue g := by
  simp [slotLine, slotQueue?, hslots]

theorem queue_of_slots? {s : Slots} (hs : g.slots? op = some s) : (slotLine op).queue g = s.queue := by
  simp [slotLine, slotQueue?, hs]

theorem queue_setSlots {s : Slots} (hs : g.slots? op = some s) (s' : Slots) :
    (slotLine op).queue (g.setSlots op s') = s'.queue := by
  refine queue_of_slots? ?_
  rw [slots?_setSlots, if_pos rfl, hs]
  rfl

theorem queue_setSlots_of_ne {o : Operation} (ho : o ≠ op) (s : Slots) :
    (slotLine op).queue (g.setSlots o s) = (slotLine op).queue g :=
  queue_of_same_slots ((slots?_setSlots ..).trans (if_neg (Ne.symm ho)))

theorem queue_setStage (id : Nat) (stage : Stage) :
    (slotLine op).queue (g.setStage id stage) = (slotLine op).queue g :=
  queue_of_same_slots (slots?_setStage ..)

theorem queue_dropTicket (id : Nat) :
    (slotLine op).queue (g.dropTicket id) = (slotLine op).queue g :=
  queue_of_same_slots (slots?_dropTicket ..)

/-- A ticket that has a slot moves on. -/
theorem step_setStage (htickets : g'.tickets = g.tickets) (hslots : ∀ o, g'.slots? o = g.slots? o)
    {id : Nat} {t : Ticket} (ht : g.ticket? id = some t) (stage : Stage)
    (hbefore : t.stage.hasSlot = true) (hafter : stage.hasSlot = true) :
    (slotLine op).Step g (g'.setStage id stage) := by
  refine .of_same (Line.placeOf_setStage_of_eq htickets ht (place_eq hbefore hafter))
    (queue_of_same_slots ?_)
  rw [slots?_setStage, hslots]

theorem step_seekSlot (h : g.Poised) {t : Ticket} (ht : g.ticket? t.id = some t)
    (hstage : t.stage = .arriving) : (slotLine op).Step g (g.seekSlot t) := by
  have hstays : ∀ {g' : Gate} (stage : Stage), g'.tickets = g.tickets → ∀ j, j ≠ t.id →
      (slotLine op).Stays g (g'.setStage t.id stage) j := fun stage htickets j hj =>
    .inl (Line.placeOf_setStage_of_ne htickets hj stage)
  have hcoming : t.op = op → (slotLine op).placeOf g t.id = .coming := by
    intro hop
    rw [Line.placeOf_of_ticket? ht]
    simp [slotLine, hop, hstage, Stage.slotPlace]
  have hother : ∀ {g' : Gate} (stage : Stage), t.op ≠ op → g'.tickets = g.tickets →
      g'.slots? op = g.slots? op → (slotLine op).Step g (g'.setStage t.id stage) := by
    intro g' stage hop htickets hslots
    refine .of_same (Line.placeOf_setStage_of_eq htickets ht ?_) (queue_of_same_slots ?_)
    · exact (if_neg hop).trans (if_neg hop).symm
    · rw [slots?_setStage, hslots]
  have hunchanged : ∀ s, t.op ≠ op → (g.setSlots t.op s).slots? op = g.slots? op := fun s hop => by
    rw [slots?_setSlots, if_neg (Ne.symm hop)]
  unfold Gate.seekSlot
  split
  · next hnone =>
    by_cases hop : t.op = op
    · have hempty : (slotLine op).queue g = [] := by simp [slotLine, slotQueue?, ← hop, hnone]
      refine .passes t.id (hcoming hop) ?_ (hstays _ rfl) hempty ?_
      · rw [Line.placeOf_setStage_self rfl ht]
        simp [slotLine, hop, Stage.slotPlace]
      · rw [queue_of_same_slots (slots?_setStage ..), hempty]
    · exact hother _ hop rfl rfl
  next s hs =>
  split
  · next hfree =>
    by_cases hop : t.op = op
    · subst hop
      have hempty : s.queue = [] := by
        by_contra hne
        have hnone := h.free_eq_zero t.op s hs hne
        omega
      refine .passes t.id (hcoming rfl) ?_ (hstays _ (tickets_setSlots ..)) ?_ ?_
      · rw [Line.placeOf_setStage_self (tickets_setSlots ..) ht]
        simp [slotLine, Stage.slotPlace]
      · rw [queue_of_slots? hs, hempty]
      · rw [queue_setStage, queue_setSlots hs, hempty]
    · exact hother _ hop (tickets_setSlots ..) (hunchanged _ hop)
  · by_cases hop : t.op = op
    · subst hop
      refine .joins t.id (hcoming rfl) ?_ (hstays _ (tickets_setSlots ..)) ?_
      · rw [Line.placeOf_setStage_self (tickets_setSlots ..) ht]
        simp [slotLine, Stage.slotPlace]
      · rw [queue_setStage, queue_setSlots hs, queue_of_slots? hs]
    · exact hother _ hop (tickets_setSlots ..) (hunchanged _ hop)

theorem step_advance (h : g.Poised) (id : Nat) : (slotLine op).Step g (g.advance id) := by
  unfold Gate.advance
  split
  · exact .refl _ g
  next t ht =>
  obtain rfl := id_of_ticket? ht
  have hmoves : ∀ {g' : Gate} {stage : Stage}, t.stage.hasSlot = true → stage.hasSlot = true →
      g'.tickets = g.tickets → (∀ o, g'.slots? o = g.slots? o) →
        (slotLine op).Step g (g'.setStage t.id stage) :=
    fun hbefore hafter htickets hslots => step_setStage htickets hslots ht _ hbefore hafter
  split
  · next hstage => exact step_seekSlot h ht hstage
  · next hstage =>
    have hslot : t.stage.hasSlot = true := by simp [hstage, Stage.hasSlot]
    unfold Gate.findLock
    split
    · exact hmoves hslot rfl rfl fun _ => rfl
    · exact hmoves hslot rfl rfl fun o => by cases o <;> rfl
  · next hstage =>
    have hslot : t.stage.hasSlot = true := by simp [hstage, Stage.hasSlot]
    unfold Gate.seekLock
    split
    · exact .refl _ g
    split
    · exact hmoves hslot rfl rfl (slots?_setLock g _)
    · exact hmoves hslot rfl rfl (slots?_setLock g _)
  · next hstage => exact hmoves (by simp [hstage, Stage.hasSlot]) rfl rfl fun _ => rfl
  · exact .refl _ g

/-- A slot that is given back goes to the first of the queue of its class, if anybody waits there.
Before that a ticket may have gone that did not wait. -/
theorem step_returnSlot {loose : Option Nat} (hsound : g'.Sound loose)
    (hstays : ∀ j, (slotLine op).Stays g g' j) (hqueue : (slotLine op).queue g' = (slotLine op).queue g)
    (o : Operation) : (slotLine op).Step g (g'.returnSlot o) := by
  unfold Gate.returnSlot
  split
  · exact .stays hstays hqueue
  next s hs =>
  split
  · refine .stays (fun j => (hstays j).trans_eq ?_) (.trans ?_ hqueue)
    · exact Line.placeOf_of_same_tickets (tickets_setSlots ..) j
    · by_cases ho : o = op
      · subst ho
        rw [queue_setSlots hs, queue_of_slots? hs]
      · exact queue_setSlots_of_ne ho _
  · next id rest hwaiting =>
    obtain ⟨t, ht, hop, -⟩ := hsound.first_queued hs hwaiting
    have hothers : ∀ j, j ≠ id → (slotLine op).Stays g
        ((g'.setSlots o { s with queue := rest }).setStage id .admitted) j := fun j hj =>
      (hstays j).trans_eq (Line.placeOf_setStage_of_ne (tickets_setSlots ..) hj _)
    by_cases ho : o = op
    · subst ho
      refine .serves id ?_ hothers ?_
      · rw [Line.placeOf_setStage_self (tickets_setSlots ..) ht]
        simp [slotLine, hop, Stage.slotPlace]
      · rw [← hqueue, queue_of_slots? hs, hwaiting, queue_setStage, queue_setSlots hs]
    · have hne : t.op ≠ op := hop ▸ ho
      refine .stays (fun j => (hstays j).trans_eq ?_) ?_
      · exact Line.placeOf_setStage_of_eq (tickets_setSlots ..) ht
          ((if_neg hne).trans (if_neg hne).symm) j
      · rw [queue_setStage, queue_setSlots_of_ne ho, hqueue]

/-- Who is handed a lock has its slot already. -/
theorem placeOf_returnLock {loose : Option Nat} (hsound : g.Sound loose) (l j : Nat) :
    (slotLine op).placeOf (g.returnLock l) j = (slotLine op).placeOf g j := by
  unfold Gate.returnLock
  split
  · rfl
  next k hk =>
  split
  · rfl
  · next id rest hqueue =>
    obtain ⟨t, ht, hstage⟩ := hsound.first_blocked hk hqueue
    exact Line.placeOf_setStage_of_eq (tickets_setLock ..) ht
      (place_eq (by simp [hstage, Stage.hasSlot]) rfl) j

/-- A lock that is given back moves nobody in the line of a class. -/
theorem queue_returnLock (l : Nat) :
    (slotLine op).queue (g.returnLock l) = (slotLine op).queue g := by
  refine queue_of_same_slots ?_
  unfold Gate.returnLock
  split
  · rfl
  · split
    · exact slots?_setLock ..
    · rw [slots?_setStage, slots?_setLock]

theorem step_arrive (hcalm : g.Calm) (id : Nat) (name : String) (o : Operation) :
    (slotLine op).Step g (g.arrive id name o) := by
  by_cases hthere : (g.ticket? id).isSome
  · rw [Gate.arrive, if_pos hthere]
    exact .refl _ g
  have hnone : g.ticket? id = none := by simpa using hthere
  have hbefore : (slotLine op).placeOf g id = .apart := by simp [Line.placeOf, hnone]
  have hafter : (slotLine op).placeOf (g.arrive id name o) id =
      if o = op then .coming else .apart := by
    simp [Line.placeOf, ticket?_arrive, hnone, slotLine, Stage.slotPlace]
  have hothers : ∀ j, j ≠ id →
      (slotLine op).placeOf (g.arrive id name o) j = (slotLine op).placeOf g j := by
    intro j hj
    rw [Line.placeOf, ticket?_arrive, if_neg hj]
    rfl
  have hqueue : (slotLine op).queue (g.arrive id name o) = (slotLine op).queue g := by
    refine queue_of_same_slots ?_
    rw [Gate.arrive, if_neg hthere]
    cases op <;> rfl
  by_cases ho : o = op
  · exact .comes id (placeOf_ne_coming hcalm) hbefore (hafter.trans (if_pos ho))
      (fun j hj => .inl (hothers j hj)) hqueue
  · refine .of_same (fun j => ?_) hqueue
    by_cases hj : j = id
    · rw [hj, hafter, if_neg ho, hbefore]
    · exact hothers j hj

theorem step_unlock (hsound : g.Sound none) (id : Nat) : (slotLine op).Step g (g.unlock id) := by
  unfold Gate.unlock
  split
  · next ht =>
    have hmoved : (slotLine op).Step g (g.setStage id .leaving) :=
      step_setStage rfl (fun _ => rfl) ht .leaving rfl rfl
    exact hmoved.then_same (placeOf_returnLock (hsound.letGo ht rfl) _) (queue_returnLock _)
  · exact .refl _ g

theorem placeOf_ne_waiting {id : Nat} {t : Ticket} (ht : g.ticket? id = some t)
    (hstage : t.stage ≠ .queued) : (slotLine op).placeOf g id ≠ .waiting := by
  rw [ne_eq, placeOf_eq_waiting_iff]
  intro hid
  obtain ⟨u, hu, -, hqueued⟩ := exists_ticket_of_queued? hid
  rw [ht] at hu
  cases hu
  exact hstage hqueued

theorem step_retire (hsound : g.Sound none) (id : Nat) : (slotLine op).Step g (g.retire id) := by
  unfold Gate.retire
  split
  · next name o ht =>
    refine step_returnSlot (hsound.dropLeaving ht rfl)
      (Line.stays_dropTicket (tickets_dropEntry g name) (placeOf_ne_waiting ht (by simp))) ?_ o
    rw [queue_dropTicket, queue_of_same_slots (slots?_dropEntry ..)]
  · exact .refl _ g

theorem queue_leaveSlotQueue (o : Operation) (id : Nat) :
    (slotLine op).queue (g.leaveSlotQueue o id) =
      if o = op then ((slotLine op).queue g).filter (· ≠ id) else (slotLine op).queue g := by
  unfold Gate.leaveSlotQueue
  split
  · next hnone =>
    split
    · next ho => simp [slotLine, slotQueue?, ← ho, hnone]
    · rfl
  · next s hs =>
    split
    · next ho =>
      subst ho
      rw [queue_setSlots hs, queue_of_slots? hs]
    · next ho => exact queue_setSlots_of_ne ho _

/-- A ticket that is given up leaves the queue if it stands there. The slot that it has goes on. -/
theorem step_cancel (hsound : g.Sound none) (id : Nat) : (slotLine op).Step g (g.cancel id) := by
  unfold Gate.cancel
  split
  · next o stage ht =>
    have hdrops : ∀ {g' : Gate}, stage ≠ .queued → g'.tickets = g.tickets →
        ∀ j, (slotLine op).Stays g (g'.dropTicket id) j := fun hne htickets =>
      Line.stays_dropTicket htickets (placeOf_ne_waiting ht hne)
    split
    · exact .stays (hdrops (by simp) rfl) (queue_dropTicket id)
    · have hqueue : (slotLine op).queue (g.leaveSlotQueue o id) = _ := queue_leaveSlotQueue o id
      by_cases ho : o = op
      · rw [if_pos ho] at hqueue
        refine .quits id (Line.placeOf_dropTicket_self id) (fun j hj => .inl ?_)
          ((queue_dropTicket id).trans hqueue)
        exact Line.placeOf_dropTicket_of_ne (tickets_leaveSlotQueue ..) hj
      · rw [if_neg ho] at hqueue
        refine .stays (Line.stays_dropTicket (tickets_leaveSlotQueue ..) ?_)
          ((queue_dropTicket id).trans hqueue)
        rw [Line.placeOf_of_ticket? ht, place_of_ne ho]
        simp
    · exact step_returnSlot (hsound.dropIdle ht rfl (by simp)) (hdrops (by simp) rfl)
        (queue_dropTicket id) o
    · refine step_returnSlot (hsound.dropBlocked ht rfl)
        (hdrops (by simp) (tickets_leaveLockQueue ..)) ?_ o
      rw [queue_dropTicket, queue_of_same_slots (slots?_leaveLockQueue ..)]
    · have hloose := hsound.dropOwner ht rfl
      refine step_returnSlot hloose.returnLock (fun j => ?_) ?_ o
      · exact (hdrops (by simp) rfl j).trans_eq (placeOf_returnLock hloose _ j)
      · rw [queue_returnLock, queue_dropTicket]
    · exact .refl _ g
  · exact .refl _ g

/-- What a step under attention does to the line for the slots of a class. -/
theorem step (h : g.Poised) {e : Event} (he : g.Allows e) : (slotLine op).Step g (g.apply e) := by
  rcases he with ⟨id, rfl⟩ | hcalm
  · exact step_advance h id
  cases e with
  | arrive id name o => exact step_arrive hcalm id name o
  | advance id => exact step_advance h id
  | unlock id => exact step_unlock h.sound id
  | retire id => exact step_retire h.sound id
  | cancel id => exact step_cancel h.sound id

end SlotLine
end VolumeLifecycle.Gate
