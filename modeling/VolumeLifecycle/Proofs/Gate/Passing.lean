import VolumeLifecycle.Proofs.Gate.Tracking

namespace VolumeLifecycle.Gate

/-- Where a ticket is, as far as its workflow can tell. -/
inductive Phase where
  | outside
  | inside
  | leaving
  deriving DecidableEq

def Stage.phase : Stage → Phase
  | holding _ => .inside
  | leaving => .leaving
  | _ => .outside

/-- What the workflow of a ticket can tell of it. -/
structure Standing where
  name : String
  op : Operation
  phase : Phase
  deriving DecidableEq

/-- What the workflow of a ticket can tell of it, if it is there. -/
def standing? (g : Gate) (id : Nat) : Option Standing :=
  (g.ticket? id).map fun t => ⟨t.name, t.op, t.stage.phase⟩

variable {g : Gate}

/-- A handle is held exactly by those who are inside. -/
theorem Stage.isLive_iff {stage : Stage} : stage.isLive = true ↔ stage.phase = .inside := by
  cases stage <;> simp [Stage.isLive, Stage.phase]

/-- A ticket has passed if and only if its workflow sees it inside. -/
theorem hasPassed_iff {id : Nat} :
    g.hasPassed id = true ↔ ∃ s, g.standing? id = some s ∧ s.phase = .inside := by
  unfold hasPassed standing?
  cases g.ticket? id <;> simp [Stage.isLive_iff]

/-- A ticket whose standing is inside has passed. -/
theorem hasPassed_of_standing? {id : Nat} {name : String} {op : Operation}
    (h : g.standing? id = some ⟨name, op, .inside⟩) : g.hasPassed id = true :=
  hasPassed_iff.2 ⟨_, h, rfl⟩

theorem standing?_of_hasPassed {id : Nat} {s : Standing} (h : g.hasPassed id = true)
    (hs : g.standing? id = some s) : s.phase = .inside := by
  obtain ⟨s', hs', hphase⟩ := hasPassed_iff.1 h
  rw [hs] at hs'
  cases hs'
  exact hphase

theorem standing?_eq_none {id : Nat} : g.standing? id = none ↔ g.ticket? id = none := by
  simp [standing?]

/-- Whoever stands somewhere has a ticket that says so. -/
theorem exists_ticket_of_standing? {id : Nat} {s : Standing} (h : g.standing? id = some s) :
    ∃ t, g.ticket? id = some t ∧ t.name = s.name ∧ t.op = s.op ∧ t.stage.phase = s.phase := by
  obtain ⟨t, ht, rfl⟩ := Option.map_eq_some_iff.1 h
  exact ⟨t, ht, rfl, rfl, rfl⟩

/-- Where tickets stand depends on the tickets alone. -/
theorem standing?_of_same_tickets {g' : Gate} (h : g'.tickets = g.tickets) (id : Nat) :
    g'.standing? id = g.standing? id := by
  simp [standing?, ticket?, h]

/-- A new stage changes the phase of its own ticket alone. -/
theorem standing?_setStage (id : Nat) (stage : Stage) (j : Nat) :
    (g.setStage id stage).standing? j =
      if j = id then (g.standing? id).map fun s => { s with phase := stage.phase }
      else g.standing? j := by
  unfold standing?
  rw [ticket?_setStage]
  split
  · simp [Function.comp_def]
  · rfl

/-- A move within a phase is not seen. -/
theorem standing?_setStage_of_phase {id : Nat} {t : Ticket} (ht : g.ticket? id = some t)
    {stage : Stage} (hphase : stage.phase = t.stage.phase) (j : Nat) :
    (g.setStage id stage).standing? j = g.standing? j := by
  rw [standing?_setStage]
  split
  · next hj => simp [hj, standing?, ht, hphase]
  · rfl

theorem standing?_dropTicket (id j : Nat) :
    (g.dropTicket id).standing? j = if j = id then none else g.standing? j := by
  unfold standing?
  rw [ticket?_dropTicket]
  split <;> rfl

/-- A slot that is handed on does not take anybody inside. -/
theorem standing?_returnSlot {loose : Option Nat} (hsound : g.Sound loose) (op : Operation)
    (j : Nat) : (g.returnSlot op).standing? j = g.standing? j := by
  unfold returnSlot
  split
  · rfl
  next s hs =>
  split
  · exact standing?_of_same_tickets (by simp) j
  · next id rest hqueue =>
    obtain ⟨t, ht, -, hstage⟩ := hsound.first_queued hs hqueue
    rw [standing?_setStage_of_phase (t := t) (by simpa using ht) (by simp [hstage, Stage.phase])]
    exact standing?_of_same_tickets (by simp) j

/-- A lock that is handed on does not take anybody inside. -/
theorem standing?_returnLock {loose : Option Nat} (hsound : g.Sound loose) (l j : Nat) :
    (g.returnLock l).standing? j = g.standing? j := by
  unfold returnLock
  split
  · rfl
  next k hk =>
  split
  · exact standing?_of_same_tickets rfl j
  · next id rest hqueue =>
    obtain ⟨t, ht, hstage⟩ := hsound.first_blocked hk hqueue
    rw [standing?_setStage_of_phase (t := t) (by simpa using ht) (by simp [hstage, Stage.phase])]
    exact standing?_of_same_tickets rfl j

/-- A new ticket stands outside, and all others stay where they are. -/
theorem standing?_arrive {id : Nat} (hnew : g.standing? id = none) (name : String) (op : Operation)
    (j : Nat) :
    (g.arrive id name op).standing? j =
      if j = id then some ⟨name, op, .outside⟩ else g.standing? j := by
  have hnone : g.ticket? id = none := standing?_eq_none.1 hnew
  unfold standing?
  rw [ticket?_arrive, hnone]
  split <;> rfl

/-- A ticket on its way in stays outside or comes inside, and nobody else moves. -/
theorem standing?_advance (g : Gate) (id j : Nat) :
    (g.advance id).standing? j = g.standing? j ∨
      j = id ∧ ∃ s, g.standing? id = some s ∧ s.phase = .outside ∧
        (g.advance id).standing? id = some { s with phase := .inside } := by
  have hsame : ∀ {g' : Gate} {t : Ticket} {stage : Stage}, g'.tickets = g.tickets →
      g.ticket? t.id = some t → t.stage.phase = .outside → stage.phase = .outside →
      (g'.setStage t.id stage).standing? j = g.standing? j := by
    intro g' t stage htickets ht hbefore hafter
    rw [standing?_setStage_of_phase (t := t) (by simpa [ticket?, htickets] using ht)
      (hafter.trans hbefore.symm)]
    exact standing?_of_same_tickets htickets j
  have hpass : ∀ {g' : Gate} {t : Ticket} {l : Nat}, g'.tickets = g.tickets →
      g.ticket? t.id = some t → t.stage.phase = .outside →
      (g'.setStage t.id (.holding l)).standing? j = g.standing? j ∨
        j = t.id ∧ ∃ s, g.standing? t.id = some s ∧ s.phase = .outside ∧
          (g'.setStage t.id (.holding l)).standing? t.id = some { s with phase := .inside } := by
    intro g' t l htickets ht hbefore
    by_cases hj : j = t.id
    · refine .inr ⟨hj, ⟨t.name, t.op, t.stage.phase⟩, by simp [standing?, ht], hbefore, ?_⟩
      rw [standing?_setStage, if_pos rfl, standing?_of_same_tickets htickets]
      simp [standing?, ht, Stage.phase]
    · refine .inl ?_
      rw [standing?_setStage, if_neg hj, standing?_of_same_tickets htickets]
  unfold advance
  split
  · exact .inl rfl
  next t ht =>
  obtain rfl := id_of_ticket? ht
  split
  · next hstage =>
    unfold seekSlot
    split
    · exact .inl (hsame rfl ht (by simp [hstage, Stage.phase]) rfl)
    · split <;> exact .inl (hsame (by simp) ht (by simp [hstage, Stage.phase]) rfl)
  · next hstage =>
    unfold findLock
    split <;> exact .inl (hsame rfl ht (by simp [hstage, Stage.phase]) rfl)
  · next l hstage =>
    unfold seekLock
    split
    · exact .inl rfl
    split
    · exact .inl (hsame rfl ht (by simp [hstage, Stage.phase]) rfl)
    · exact hpass rfl ht (by simp [hstage, Stage.phase])
  · next hstage => exact hpass rfl ht (by simp [hstage, Stage.phase])
  · exact .inl rfl

/-- The first half of leaving takes a ticket from inside to its way out, and nobody else moves. -/
theorem standing?_unlock (hsound : g.Sound none) {id : Nat} {name : String} {op : Operation}
    (h : g.standing? id = some ⟨name, op, .inside⟩) (j : Nat) :
    (g.unlock id).standing? j = if j = id then some ⟨name, op, .leaving⟩ else g.standing? j := by
  obtain ⟨⟨num, n, o, stage⟩, ht, rfl, rfl, hphase⟩ := exists_ticket_of_standing? h
  unfold unlock
  rw [ht]
  cases stage with
  | holding l =>
    rw [standing?_returnLock (hsound.letGo ht rfl), standing?_setStage, h]
    rfl
  | _ => cases hphase

/-- The second half of leaving takes a ticket away, and nobody else moves. -/
theorem standing?_retire (hsound : g.Sound none) {id : Nat} {name : String} {op : Operation}
    (h : g.standing? id = some ⟨name, op, .leaving⟩) (j : Nat) :
    (g.retire id).standing? j = if j = id then none else g.standing? j := by
  obtain ⟨⟨num, n, o, stage⟩, ht, rfl, rfl, hphase⟩ := exists_ticket_of_standing? h
  unfold retire
  rw [ht]
  cases stage with
  | leaving =>
    refine (standing?_returnSlot (hsound.dropLeaving ht rfl) o j).trans ?_
    rw [standing?_dropTicket, standing?_of_same_tickets (tickets_dropEntry g n)]
  | _ => cases hphase

def heldName? (g : Gate) (id : Nat) : Option String :=
  match g.standing? id with
  | some ⟨name, _, .inside⟩ => some name
  | _ => none

theorem heldName?_of_standing? {id : Nat} {name : String} {op : Operation}
    (h : g.standing? id = some ⟨name, op, .inside⟩) : g.heldName? id = some name := by
  simp [heldName?, h]

/-- A ticket under which a name is held stands inside, for that name. -/
theorem standing?_of_heldName? {id : Nat} {name : String} (h : g.heldName? id = some name) :
    ∃ op, g.standing? id = some ⟨name, op, .inside⟩ := by
  unfold heldName? at h
  split at h
  · next hstanding =>
    cases h
    exact ⟨_, hstanding⟩
  · cases h

/-- Nobody is seen at a gate without tickets, and at no other. -/
theorem tickets_eq_nil_iff : g.tickets = [] ↔ ∀ id, g.standing? id = none := by
  constructor
  · intro h id
    simp [standing?, ticket?, h]
  · intro h
    refine List.eq_nil_iff_forall_not_mem.2 fun t ht => ?_
    have hnone := standing?_eq_none.1 (h t.id)
    simpa using List.find?_eq_none.1 hnone t ht

/-- Two workflows inside under the same name are one. -/
theorem Sound.inside_unique (hsound : g.Sound none) {i j : Nat} {name : String} {op op' : Operation}
    (hi : g.standing? i = some ⟨name, op, .inside⟩)
    (hj : g.standing? j = some ⟨name, op', .inside⟩) : i = j := by
  obtain ⟨t, ht, htname, -, htphase⟩ := exists_ticket_of_standing? hi
  obtain ⟨u, hu, huname, -, huphase⟩ := exists_ticket_of_standing? hj
  obtain ⟨l, hl⟩ := Stage.owned?_of_isLive (Stage.isLive_iff.2 htphase)
  obtain ⟨m, hm⟩ := Stage.owned?_of_isLive (Stage.isLive_iff.2 huphase)
  have heq := hsound.owner_unique (mem_of_ticket? ht) (mem_of_ticket? hu)
    (htname.trans huname.symm) hl hm
  rw [← id_of_ticket? ht, ← id_of_ticket? hu, heq]

/-- What holds of a gate with the given numbers of slots at which no ticket is given up. -/
structure Regular (c : Config.Admission) (g : Gate) : Prop where
  sound : g.Sound none
  balanced : ∀ op total, bound? c op = some total → g.Balanced op 0 total
  tracked : g.Tracked

namespace Regular

variable {c : Config.Admission}

theorem of_ofConfig (h : ofConfig c = .ok g) : g.Regular c :=
  ⟨sound_of_ofConfig h, fun _ _ hop => balanced_of_ofConfig h hop, tracked_of_ofConfig h⟩

theorem apply (h : g.Regular c) {e : Event} (he : ∀ id, e ≠ .cancel id) : (g.apply e).Regular c :=
  ⟨h.sound.apply e, fun op total hop => (h.balanced op total hop).apply h.sound e,
    h.tracked.apply h.sound he⟩

/-- When all tickets have left, all slots are free and no name has a lock. -/
theorem at_rest (h : g.Regular c) (hleft : g.tickets = []) :
    g.available .mount = some (slotsFor c.mount) ∧
      g.available .unmount = some (slotsFor c.unmount) ∧ g.trackedNames = 0 :=
  ⟨(h.balanced .mount _ rfl).available_eq hleft rfl,
    (h.balanced .unmount _ rfl).available_eq hleft rfl, h.tracked.trackedNames_eq_zero hleft⟩

/-- Never more workflows of a class are inside or on their way out than the class has slots. -/
theorem length_le (h : g.Regular c) {op : Operation} {total : Nat} (hop : bound? c op = some total)
    {ids : List Nat} (hnodup : ids.Nodup)
    (hin : ∀ id ∈ ids, ∃ s, g.standing? id = some s ∧ s.op = op ∧ s.phase ≠ .outside) :
    ids.length ≤ total := by
  have hslots : ∃ s, g.slots? op = some s := by
    cases op <;> cases hop <;> exact ⟨_, rfl⟩
  obtain ⟨s, hs⟩ := hslots
  refine Nat.le_trans ?_ ((h.balanced op total hop).length_le hs)
  rw [← List.length_map (f := Ticket.id)]
  refine hnodup.length_le_of_subset fun id hid => ?_
  obtain ⟨s', hs', hsop, hphase⟩ := hin id hid
  obtain ⟨t, ht, -, htop, htphase⟩ := exists_ticket_of_standing? hs'
  refine List.mem_map.2 ⟨t, List.mem_filter.2 ⟨mem_of_ticket? ht, ?_⟩, id_of_ticket? ht⟩
  rw [← htphase] at hphase
  have hslot : t.stage.hasSlot = true := by
    cases hstage : t.stage <;> simp_all [Stage.phase, Stage.hasSlot]
  simp [htop, hsop, hslot]

end Regular

end VolumeLifecycle.Gate
