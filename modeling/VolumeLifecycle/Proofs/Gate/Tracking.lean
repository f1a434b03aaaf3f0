import VolumeLifecycle.Proofs.Gate.Admission

namespace VolumeLifecycle.Gate

/-- Whether a ticket at a stage answers for the entry of a lock: it refers to the lock, or the entry
is still to be seen to. -/
def Stage.AnswersFor (stage : Stage) (l : Nat) : Prop :=
  stage.lock? = some l ∨ stage = .leaving

/-- Every entry has a ticket of its name that answers for it. -/
def Tracked (g : Gate) : Prop :=
  ∀ n l, g.entries.get? n = some l →
    ∃ id t, g.ticket? id = some t ∧ t.name = n ∧ t.stage.AnswersFor l

/-- The entry of a name, if there is one, has a ticket of that name that answers for it. -/
def TrackedUnder (g : Gate) (n : String) : Prop :=
  ∀ l, g.entries.get? n = some l →
    ∃ id t, g.ticket? id = some t ∧ t.name = n ∧ t.stage.AnswersFor l

namespace TrackedUnder

variable {g : Gate} {n : String}

/-- Nothing but the entries and the tickets matters. -/
theorem of_same_tickets (h : g.TrackedUnder n) {g' : Gate} (hentries : g'.entries = g.entries)
    (htickets : g'.tickets = g.tickets) : g'.TrackedUnder n := by
  intro l hn
  rw [hentries] at hn
  obtain ⟨id, t, ht, hname, hanswers⟩ := h l hn
  exact ⟨id, t, by simpa [ticket?, htickets] using ht, hname, hanswers⟩

/-- A ticket that moves has to answer for whatever it answered for. -/
theorem setStage (h : g.TrackedUnder n) {id : Nat} {t : Ticket} (ht : g.ticket? id = some t)
    {stage : Stage} (hkept : ∀ l, t.stage.AnswersFor l → stage.AnswersFor l) :
    (g.setStage id stage).TrackedUnder n := by
  intro l hn
  obtain ⟨j, u, hu, hname, hanswers⟩ := h l hn
  by_cases hj : j = id
  · rw [hj, ht] at hu
    cases hu
    refine ⟨id, { t with stage }, by simp [ticket?_setStage, ht], hname, hkept l hanswers⟩
  · exact ⟨j, u, by simp [ticket?_setStage, hj, hu], hname, hanswers⟩

theorem arrive (h : g.TrackedUnder n) (id : Nat) (name : String) (op : Operation) :
    (g.arrive id name op).TrackedUnder n := by
  unfold Gate.arrive
  split
  · exact h
  · intro l hn
    obtain ⟨j, u, hu, hname, hanswers⟩ := h l hn
    have hu : g.tickets.find? (fun t => t.id = j) = some u := hu
    exact ⟨j, u, by simp [ticket?, List.find?_append, hu], hname, hanswers⟩

theorem seekSlot (h : g.TrackedUnder n) {t : Ticket} (ht : g.ticket? t.id = some t)
    (hstage : t.stage = .arriving) : (g.seekSlot t).TrackedUnder n := by
  have hmove : ∀ {g' : Gate} {stage : Stage}, g'.entries = g.entries → g'.tickets = g.tickets →
      (g'.setStage t.id stage).TrackedUnder n := fun hentries htickets =>
    (h.of_same_tickets hentries htickets).setStage (t := t)
      (by simpa [ticket?, htickets] using ht)
      (by simp [hstage, Stage.AnswersFor, Stage.lock?])
  unfold Gate.seekSlot
  split
  · exact hmove rfl rfl
  · split <;> exact hmove (by simp) (by simp)

/-- The ticket that makes a lock answers for its entry. -/
theorem findLock (h : g.TrackedUnder n) {t : Ticket} (ht : g.ticket? t.id = some t)
    (hstage : t.stage = .admitted) : (g.findLock t).TrackedUnder n := by
  have hkept : ∀ l m, t.stage.AnswersFor l → (Stage.located m).AnswersFor l := by
    simp [hstage, Stage.AnswersFor, Stage.lock?]
  unfold Gate.findLock
  split
  · exact h.setStage ht fun l => hkept l _
  · intro l hn
    replace hn := (Dict.get?_insert _ _ _ _).symm.trans hn
    split at hn
    · next hname =>
      cases hn
      refine ⟨t.id, { t with stage := .located g.locks.length }, ?_, hname.symm, .inl rfl⟩
      rw [ticket?_setStage, if_pos rfl]
      exact congrArg _ ht
    · obtain ⟨j, u, hu, hname, hanswers⟩ := h l hn
      by_cases hj : j = t.id
      · rw [hj, ht] at hu
        cases hu
        simp [hstage, Stage.AnswersFor, Stage.lock?] at hanswers
      · refine ⟨j, u, ?_, hname, hanswers⟩
        rw [ticket?_setStage, if_neg hj]
        exact hu

theorem seekLock (h : g.TrackedUnder n) {t : Ticket} (ht : g.ticket? t.id = some t) {l : Nat}
    (hstage : t.stage = .located l) : (g.seekLock t l).TrackedUnder n := by
  have hmove : ∀ {k : Lock} {stage : Stage}, stage.lock? = some l →
      ((g.setLock k).setStage t.id stage).TrackedUnder n := by
    intro k stage hlock
    refine (h.of_same_tickets rfl rfl).setStage (t := t) ht fun m hm => .inl ?_
    rw [hlock]
    simpa [hstage, Stage.AnswersFor, Stage.lock?] using hm
  unfold Gate.seekLock
  split
  · exact h
  · split <;> exact hmove rfl

theorem advance (h : g.TrackedUnder n) (id : Nat) : (g.advance id).TrackedUnder n := by
  unfold Gate.advance
  split
  · exact h
  next t ht =>
  obtain rfl := id_of_ticket? ht
  split
  · next hstage => exact h.seekSlot ht hstage
  · next hstage => exact h.findLock ht hstage
  · next hstage => exact h.seekLock ht hstage
  · next hstage => exact h.setStage ht (by simp [hstage, Stage.AnswersFor, Stage.lock?])
  · exact h

/-- Handing a lock on changes what the ticket that gets it waits for, not what it answers for. -/
theorem returnLock {loose : Option Nat} (hsound : g.Sound loose) (h : g.TrackedUnder n) (l : Nat) :
    (g.returnLock l).TrackedUnder n := by
  unfold Gate.returnLock
  split
  · exact h
  next k hk =>
  split
  · exact h.of_same_tickets rfl rfl
  · next id rest hqueue =>
    obtain ⟨t, ht, hstage⟩ := hsound.first_blocked hk hqueue
    exact (h.of_same_tickets rfl rfl).setStage (t := t) ht
      (by simp [hstage, Stage.AnswersFor, Stage.lock?])

/-- A ticket that has its slot given to it answered for nothing while it waited. -/
theorem returnSlot {loose : Option Nat} (hsound : g.Sound loose) (h : g.TrackedUnder n)
    (op : Operation) : (g.returnSlot op).TrackedUnder n := by
  unfold Gate.returnSlot
  split
  · exact h
  next s hs =>
  split
  · exact h.of_same_tickets (by simp) (by simp)
  · next id rest hqueue =>
    obtain ⟨t, ht, -, hstage⟩ := hsound.first_queued hs hqueue
    exact (h.of_same_tickets (by simp) (by simp)).setStage (t := t) (by simpa using ht)
      (by simp [hstage, Stage.AnswersFor, Stage.lock?])

theorem unlock (hsound : g.Sound none) (h : g.TrackedUnder n) (id : Nat) :
    (g.unlock id).TrackedUnder n := by
  unfold Gate.unlock
  split
  · next ht => exact (h.setStage ht fun _ _ => .inr rfl).returnLock (hsound.letGo ht rfl) _
  · exact h

/-- A ticket that is gone needs to answer for its own name no longer, whatever came before: the entry
of that name is gone too, or another ticket refers to the lock. -/
theorem dropEntry_dropTicket_self (hsound : g.Sound none) {id : Nat} {t : Ticket}
    (ht : g.ticket? id = some t) (hstage : t.stage.lock? = none) :
    ((g.dropEntry t.name).dropTicket id).TrackedUnder t.name := by
  intro l hl
  rw [entries_dropTicket, dropEntry] at hl
  split at hl
  · next m hm =>
    split at hl
    · next hreferenced =>
      obtain rfl := Option.some.inj (hm.symm.trans hl)
      obtain ⟨j, u, hu, hlock⟩ := (isReferenced_iff hsound.ids_nodup m).1 hreferenced
      refine ⟨j, u, ?_, hsound.entry_inj _ _ m (hsound.current j u hu m hlock) hm, .inl hlock⟩
      rw [ticket?_dropTicket, if_neg, ticket?_dropEntry, hu]
      rintro rfl
      rw [ht] at hu
      cases hu
      rw [hstage] at hlock
      cases hlock
    · rw [Dict.get?_erase, if_pos rfl] at hl
      cases hl
  · next hnone =>
    rw [hnone] at hl
    cases hl

/-- The tickets of the other names answer for what they answered for. -/
theorem dropEntry_dropTicket_of_ne (h : g.TrackedUnder n) {id : Nat} {t : Ticket}
    (ht : g.ticket? id = some t) (hne : n ≠ t.name) :
    ((g.dropEntry t.name).dropTicket id).TrackedUnder n := by
  intro l hl
  rw [entries_dropTicket, get?_dropEntry_of_ne g hne] at hl
  obtain ⟨j, u, hu, hname, hanswers⟩ := h l hl
  refine ⟨j, u, ?_, hname, hanswers⟩
  rw [ticket?_dropTicket, if_neg, ticket?_dropEntry, hu]
  rintro rfl
  rw [ht] at hu
  cases hu
  exact hne hname.symm

/-- Who leaves sees to the entry of his name. -/
theorem retire_self (hsound : g.Sound none) {id : Nat} {t : Ticket} (ht : g.ticket? id = some t)
    (hstage : t.stage = .leaving) : (g.retire id).TrackedUnder t.name := by
  obtain ⟨num, name, op, stage⟩ := t
  cases hstage
  rw [Gate.retire, ht]
  exact (dropEntry_dropTicket_self hsound ht rfl).returnSlot (hsound.dropLeaving ht rfl) op

theorem retire (hsound : g.Sound none) (h : g.TrackedUnder n) (id : Nat) :
    (g.retire id).TrackedUnder n := by
  by_cases hleaving : ∃ t, g.ticket? id = some t ∧ t.stage = .leaving ∧ t.name = n
  · obtain ⟨t, ht, hstage, rfl⟩ := hleaving
    exact retire_self hsound ht hstage
  · unfold Gate.retire
    split
    · next name op ht =>
      refine (h.dropEntry_dropTicket_of_ne ht ?_).returnSlot (hsound.dropLeaving ht rfl) op
      rintro rfl
      exact hleaving ⟨_, ht, rfl, rfl⟩
    · exact h

/-- What one atomic step keeps, unless a ticket is given up by it. -/
theorem apply (hsound : g.Sound none) (h : g.TrackedUnder n) {e : Event}
    (he : ∀ id, e ≠ .cancel id) : (g.apply e).TrackedUnder n := by
  cases e with
  | arrive id name op => exact h.arrive id name op
  | advance id => exact h.advance id
  | unlock id => exact h.unlock hsound id
  | retire id => exact h.retire hsound id
  | cancel id => exact absurd rfl (he id)

end TrackedUnder

variable {g : Gate}

/-- No name is tracked exactly if no name has an entry. -/
theorem trackedNames_eq_zero_iff :
    g.trackedNames = 0 ↔ ∀ name, ¬ ∃ l, g.entries.get? name = some l := by
  simp only [← Dict.mem_keys_iff]
  rw [← List.eq_nil_iff_forall_not_mem, Dict.keys, List.map_eq_nil_iff, trackedNames,
    List.length_eq_zero_iff]

namespace Tracked

/-- What one atomic step keeps, unless a ticket is given up by it. -/
theorem apply (hsound : g.Sound none) (h : g.Tracked) {e : Event} (he : ∀ id, e ≠ .cancel id) :
    (g.apply e).Tracked :=
  fun n => TrackedUnder.apply hsound (h n) he

/-- What any number of atomic steps keeps, unless a ticket is given up. -/
theorem run (hsound : g.Sound none) (h : g.Tracked) {events : List Event}
    (hkept : ∀ e ∈ events, ∀ id, e ≠ .cancel id) : (g.run events).Tracked := by
  induction events generalizing g with
  | nil => exact h
  | cons e rest ih =>
    exact ih (hsound.apply e) (h.apply hsound (hkept e List.mem_cons_self))
      fun e' he' => hkept e' (List.mem_cons_of_mem _ he')

/-- When all tickets have left, no name has a lock. -/
theorem trackedNames_eq_zero (h : g.Tracked) (hleft : g.tickets = []) : g.trackedNames = 0 := by
  refine trackedNames_eq_zero_iff.2 fun n ⟨l, hl⟩ => ?_
  obtain ⟨id, t, ht, -, -⟩ := h n l hl
  simp [ticket?, hleft] at ht

end Tracked

/-- A new gate keeps no entry for nobody. -/
theorem tracked_of_ofConfig {c : Config.Admission} (h : ofConfig c = .ok g) :
    g.Tracked := by
  unfold ofConfig at h
  split at h
  · cases h
  · cases h
    intro n l hn
    cases hn

end VolumeLifecycle.Gate
