import Mathlib.Data.Finset.Card
import Mathlib.Data.Finset.Dedup
import Mathlib.Data.List.Dedup
import VolumeLifecycle.Proofs.Gate.Polling

namespace VolumeLifecycle.Gate

def WaitsForBounded (g : Gate) : Prop :=
  ∀ t ∈ g.tickets, t.stage = .queued → ∃ s, g.slots? t.op = some s

variable {g : Gate}

theorem exists_slots?_congr (g g' : Gate) (op : Operation) :
    (∃ s, g.slots? op = some s) ↔ ∃ s, g'.slots? op = some s := by
  cases op <;> simp [slots?]

namespace WaitsForBounded

/-- It is enough that nobody has come to wait for a slot. -/
theorem of_forall_mem (h : g.WaitsForBounded) {g' : Gate}
    (hmem : ∀ t ∈ g'.tickets, t.stage = .queued → t ∈ g.tickets) : g'.WaitsForBounded :=
  fun t ht hstage => (exists_slots?_congr g g' t.op).1 (h t (hmem t ht hstage) hstage)

theorem setStage (h : g.WaitsForBounded) {g' : Gate} (htickets : g'.tickets = g.tickets) (id : Nat)
    {stage : Stage} (hstage : stage ≠ .queued) : (g'.setStage id stage).WaitsForBounded := by
  refine h.of_forall_mem fun t ht hqueued => ?_
  simp only [Gate.setStage, htickets] at ht
  obtain ⟨u, hu, rfl⟩ := List.mem_map.1 ht
  split at hqueued
  · exact absurd hqueued hstage
  · next hne => rwa [if_neg hne]

theorem dropTicket (h : g.WaitsForBounded) {g' : Gate} (htickets : g'.tickets = g.tickets)
    (id : Nat) : (g'.dropTicket id).WaitsForBounded := by
  refine h.of_forall_mem fun t ht _ => ?_
  rw [← htickets]
  exact (List.mem_filter.1 ht).1

theorem of_same_tickets (h : g.WaitsForBounded) {g' : Gate} (htickets : g'.tickets = g.tickets) :
    g'.WaitsForBounded :=
  h.of_forall_mem fun _ ht _ => htickets ▸ ht

theorem returnSlot (h : g.WaitsForBounded) (op : Operation) :
    (g.returnSlot op).WaitsForBounded := by
  unfold Gate.returnSlot
  split
  · exact h
  split
  · exact h.of_same_tickets (by simp)
  · exact h.setStage (by simp) _ (by simp)

theorem returnLock (h : g.WaitsForBounded) (l : Nat) : (g.returnLock l).WaitsForBounded := by
  unfold Gate.returnLock
  split
  · exact h
  split
  · exact h.of_same_tickets rfl
  · exact h.setStage rfl _ (by simp)

theorem arrive (h : g.WaitsForBounded) (id : Nat) (name : String) (op : Operation) :
    (g.arrive id name op).WaitsForBounded := by
  unfold Gate.arrive
  split
  · exact h
  · refine h.of_forall_mem fun t ht hqueued => ?_
    rcases List.mem_append.1 ht with ht | ht
    · exact ht
    · rw [List.mem_singleton.1 ht] at hqueued
      cases hqueued

/-- A ticket that comes to wait has found that the slots of its class are taken. -/
theorem seekSlot (h : g.WaitsForBounded) {t : Ticket} (ht : g.ticket? t.id = some t)
    (hsound : g.Sound none) : (g.seekSlot t).WaitsForBounded := by
  unfold Gate.seekSlot
  split
  · exact h.setStage rfl _ (by simp)
  next s hs =>
  split
  · exact h.setStage (by simp) _ (by simp)
  · intro u hu hqueued
    refine (exists_slots?_congr g _ u.op).1 ?_
    simp only [Gate.setStage, tickets_setSlots] at hu
    obtain ⟨v, hv, rfl⟩ := List.mem_map.1 hu
    by_cases hid : v.id = t.id
    · have hfound := ticket?_of_mem hsound.ids_nodup hv
      rw [hid, ht] at hfound
      cases hfound
      simpa using ⟨s, hs⟩
    · rw [if_neg hid] at hqueued ⊢
      exact h v hv hqueued

theorem advance (hsound : g.Sound none) (h : g.WaitsForBounded) (id : Nat) :
    (g.advance id).WaitsForBounded := by
  unfold Gate.advance
  split
  · exact h
  next t ht =>
  obtain rfl := id_of_ticket? ht
  split
  · exact h.seekSlot ht hsound
  · unfold Gate.findLock
    split
    · exact h.setStage rfl _ (by simp)
    · exact h.setStage rfl _ (by simp)
  · unfold Gate.seekLock
    split
    · exact h
    split
    · exact h.setStage rfl _ (by simp)
    · exact h.setStage rfl _ (by simp)
  · exact h.setStage rfl _ (by simp)
  · exact h

theorem unlock (h : g.WaitsForBounded) (id : Nat) : (g.unlock id).WaitsForBounded := by
  unfold Gate.unlock
  split
  · exact (h.setStage rfl id (by simp)).returnLock _
  · exact h

theorem retire (h : g.WaitsForBounded) (id : Nat) : (g.retire id).WaitsForBounded := by
  unfold Gate.retire
  split
  · exact (h.dropTicket (tickets_dropEntry g _) id).returnSlot _
  · exact h

theorem cancel (h : g.WaitsForBounded) (id : Nat) : (g.cancel id).WaitsForBounded := by
  unfold Gate.cancel
  split
  · split
    · exact h.dropTicket rfl id
    · exact h.dropTicket (tickets_leaveSlotQueue _ _ _) id
    · exact (h.dropTicket rfl id).returnSlot _
    · exact (h.dropTicket (tickets_leaveLockQueue _ _ _) id).returnSlot _
    · exact ((h.dropTicket rfl id).returnLock _).returnSlot _
    · exact h
  · exact h

theorem apply (hsound : g.Sound none) (h : g.WaitsForBounded) (e : Event) :
    (g.apply e).WaitsForBounded := by
  cases e with
  | arrive id name op => exact h.arrive id name op
  | advance id => exact h.advance hsound id
  | unlock id => exact h.unlock id
  | retire id => exact h.retire id
  | cancel id => exact h.cancel id

theorem run (hsound : g.Sound none) (h : g.WaitsForBounded) (events : List Event) :
    (g.run events).WaitsForBounded := by
  induction events generalizing g with
  | nil => exact h
  | cons e rest ih => exact ih (hsound.apply e) (h.apply hsound e)

end WaitsForBounded

/-- The lock for which a ticket waits has an owner, of the same name. -/
theorem Sound.exists_owner (hsound : g.Sound none) {id : Nat} {t : Ticket}
    (ht : g.ticket? id = some t) {l : Nat} (hstage : t.stage = .blocked l) :
    ∃ j u, g.ticket? j = some u ∧ u.name = t.name ∧ u.stage.owned? = some l := by
  have hlock : t.stage.lock? = some l := by simp [hstage, Stage.lock?]
  obtain ⟨k, hk⟩ := hsound.exists_lock ht hlock
  have hqueue : id ∈ k.queue :=
    ((hsound.lock_queues l k.queue (by simp [lockQueue?, hk])).2 id).2
      (by simp [awaited?, ht, hstage, Stage.awaited?])
  have htaken : g.taken? l = some true := by
    simp [taken?, hk, hsound.held_of_queue l k hk (List.ne_nil_of_mem hqueue)]
  rcases (hsound.owners.held_iff l true htaken).1 rfl with hloose | ⟨j, hj⟩
  · cases hloose
  · obtain ⟨u, hu, howned⟩ := Option.bind_eq_some_iff.1 hj
    have hcurrent := hsound.current j u hu l (Stage.lock?_of_owned? howned)
    exact ⟨j, u, hu, hsound.entry_inj _ _ l hcurrent (hsound.current id t ht l hlock), howned⟩

namespace TrackedUnder

variable {n : String}

/-- A ticket can go if another one answers for whatever it answered for. -/
theorem dropTicket (h : g.TrackedUnder n) {g' : Gate} (hentries : g'.entries = g.entries)
    (htickets : g'.tickets = g.tickets) {id : Nat} {t : Ticket} (ht : g.ticket? id = some t)
    (hother : t.name = n → ∀ l, t.stage.AnswersFor l →
      ∃ j u, j ≠ id ∧ g.ticket? j = some u ∧ u.name = n ∧ u.stage.AnswersFor l) :
    (g'.dropTicket id).TrackedUnder n := by
  intro l hn
  rw [entries_dropTicket, hentries] at hn
  have hfound : ∀ j u, j ≠ id → g.ticket? j = some u → (g'.dropTicket id).ticket? j = some u := by
    intro j u hj hu
    rw [ticket?_dropTicket, if_neg hj, ticket?, htickets]
    exact hu
  obtain ⟨j, u, hu, hname, hanswers⟩ := h l hn
  by_cases hj : j = id
  · rw [hj, ht] at hu
    cases hu
    obtain ⟨i, v, hi, hv, hvname, hvanswers⟩ := hother hname l hanswers
    exact ⟨i, v, hfound i v hi hv, hvname, hvanswers⟩
  · exact ⟨j, u, hfound j u hj hu, hname, hanswers⟩

/-- Giving up a ticket that waits, or has not come that far, leaves no entry behind that nobody
answers for. A ticket that has been handed the lock of the name may be the last one to refer to it. -/
theorem cancel (hsound : g.Sound none) (h : g.TrackedUnder n) {id : Nat}
    (hgranted : ∀ t l, g.ticket? id = some t → t.name = n → t.stage ≠ .granted l) :
    (g.cancel id).TrackedUnder n := by
  unfold Gate.cancel
  split
  · next _ name op stage ht =>
    split
    · exact h.dropTicket rfl rfl ht (by simp [Stage.AnswersFor, Stage.lock?])
    · exact h.dropTicket (entries_leaveSlotQueue _ _ _) (tickets_leaveSlotQueue _ _ _) ht
        (by simp [Stage.AnswersFor, Stage.lock?])
    · exact (h.dropTicket rfl rfl ht (by simp [Stage.AnswersFor, Stage.lock?])).returnSlot
        (hsound.dropIdle ht rfl (by simp)) op
    · next l =>
      refine (h.dropTicket (entries_leaveLockQueue _ _ _) (tickets_leaveLockQueue _ _ _) ht
        ?_).returnSlot (hsound.dropBlocked ht rfl) op
      rintro rfl m hm
      obtain ⟨j, u, hu, hname, howned⟩ := hsound.exists_owner ht rfl
      have hml : m = l := by simpa [Stage.AnswersFor, Stage.lock?, eq_comm] using hm
      refine ⟨j, u, ?_, hu, hname, .inl (hml ▸ Stage.lock?_of_owned? howned)⟩
      rintro rfl
      rw [ht] at hu
      cases hu
      cases howned
    · next l =>
      have hloose := hsound.dropOwner ht rfl
      refine ((h.dropTicket rfl rfl ht fun hname => ?_).returnLock hloose l).returnSlot
        hloose.returnLock op
      exact absurd rfl (hgranted _ l ht hname)
    · exact h
  · exact h

end TrackedUnder

theorem Tracked.cancel (hsound : g.Sound none) (h : g.Tracked) {id : Nat}
    (hgranted : ∀ t l, g.ticket? id = some t → t.stage ≠ .granted l) : (g.cancel id).Tracked :=
  fun n => TrackedUnder.cancel hsound (h n) fun t l ht _ => hgranted t l ht

/-- The state that polling leads to: some tickets have been polled, and polling a pending one
changes nothing any more. -/
def Settles (g g' : Gate) : Prop :=
  ∃ ids, g' = g.pollAll ids ∧ ∀ id ∈ g'.pending, g'.poll id = g'

/-- The states of a gate whose pending tickets are polled after every move until nothing moves. -/
inductive Served (g₀ : Gate) : Gate → Prop
  | initial : Served g₀ g₀
  | step {g g' : Gate} (m : Move) : Served g₀ g → Settles (g.move m) g' → Served g₀ g'

def liveNames (g : Gate) : List String :=
  (g.tickets.filter fun t => t.stage.isLive).map Ticket.name

/-- What holds of a gate at rest. -/
structure Settled (c : Config.Admission) (g : Gate) : Prop extends Regular c g where
  none_leaving : g.NoneLeaving
  waits_for_bounded : g.WaitsForBounded
  still : g.Still

theorem pos_of_bound? {c : Config.Admission} {op : Operation} {total : Nat}
    (h : bound? c op = some total) : 0 < total := by
  cases op <;> cases h <;> simp [slotsFor]

theorem Regular.run {c : Config.Admission} (h : g.Regular c) {events : List Event}
    (hkept : ∀ e ∈ events, ∀ id, e ≠ .cancel id) : (g.run events).Regular c :=
  ⟨h.sound.run events, fun op total hop => (h.balanced op total hop).run h.sound events,
    h.tracked.run h.sound hkept⟩

namespace Settled

variable {c : Config.Admission}

theorem of_ofConfig (h : ofConfig c = .ok g) : g.Settled c := by
  have hempty := tickets_of_ofConfig h
  refine ⟨.of_ofConfig h, noneLeaving_of_ofConfig h, fun t ht => ?_, fun id t ht => ?_⟩
  · simp [hempty] at ht
  · simp [ticket?, hempty] at ht

/-- A ticket at rest waits for a slot, waits for its lock, or has passed. -/
theorem stage_cases (h : g.Settled c) {id : Nat} {t : Ticket} (ht : g.ticket? id = some t) :
    t.stage = .queued ∨ (∃ l, t.stage = .blocked l) ∨ ∃ l, t.stage = .holding l := by
  have hstill := h.still id t ht
  have hphase := h.none_leaving id ⟨t.name, t.op, t.stage.phase⟩ (by simp [standing?, ht])
  cases hstage : t.stage <;> simp_all [Stage.stepsLeft, Stage.phase]

/-- No move leaves an entry behind that nobody answers for: a ticket that is given up waits. -/
theorem regular_move (h : g.Settled c) (m : Move) : (g.move m).Regular c := by
  cases m with
  | start id name op => exact h.toRegular.run (by simp [Move.events])
  | poll id => exact h.toRegular.run (by simp [Move.events])
  | leave id => exact h.toRegular.run (by simp [Move.events])
  | cancel id =>
    refine ⟨h.sound.cancel id, fun op total hop => (h.balanced op total hop).cancel h.sound id,
      h.tracked.cancel h.sound fun t l ht => ?_⟩
    -- At rest no ticket has been handed its lock without having taken it.
    rcases h.stage_cases ht with hstage | ⟨_, hstage⟩ | ⟨_, hstage⟩ <;> simp [hstage]

theorem step (h : g.Settled c) {m : Move} {g' : Gate} (hs : Settles (g.move m) g') :
    g'.Settled c := by
  obtain ⟨ids, rfl, hquiet⟩ := hs
  have hmoved := h.regular_move m
  have hplayed := pollAll_eq_play (g := g.move m) ids
  have hpolled : ((g.move m).pollAll ids).Regular c := by
    rw [hplayed, play_eq_run]
    refine hmoved.run fun e he => ?_
    obtain ⟨_, hmem, hevent⟩ := List.mem_flatMap.1 he
    obtain ⟨_, -, rfl⟩ := List.mem_map.1 hmem
    intro id hcancel
    simp [Move.events, hcancel] at hevent
  refine ⟨hpolled, ?_, ?_, hpolled.sound.still_iff.2 hquiet⟩
  · rw [hplayed]
    exact (h.none_leaving.move h.sound m).play hmoved.sound _
  · rw [hplayed, play_eq_run]
    exact (h.waits_for_bounded.run h.sound m.events).run hmoved.sound _

theorem of_served {g₀ : Gate} (h₀ : g₀.Settled c) (h : Served g₀ g) : g.Settled c := by
  induction h with
  | initial => exact h₀
  | step m _ hs ih => exact ih.step hs

theorem exists_holder (h : g.Settled c) {id : Nat} {t : Ticket} (ht : g.ticket? id = some t)
    {l : Nat} (hstage : t.stage = .blocked l) :
    ∃ u ∈ g.tickets, u.name = t.name ∧ u.stage = .holding l := by
  obtain ⟨j, u, hu, hname, howned⟩ := h.sound.exists_owner ht hstage
  refine ⟨u, mem_of_ticket? hu, hname, ?_⟩
  rcases h.stage_cases hu with hs | ⟨_, hs⟩ | ⟨_, hs⟩ <;> rw [hs] at howned <;> cases howned
  exact hs

/-- Whoever is pending at rest waits for a slot while none is free, or waits for a lock under which
somebody has passed. -/
theorem waits (h : g.Settled c) {t : Ticket} (ht : t ∈ g.tickets)
    (hpending : t.stage.isPending = true) :
    t.stage = .queued ∧ (∃ total, bound? c t.op = some total) ∧ g.available t.op = some 0 ∨
      ∃ l, t.stage = .blocked l ∧ ∃ u ∈ g.tickets, u.name = t.name ∧ u.stage = .holding l := by
  have hfound := ticket?_of_mem h.sound.ids_nodup ht
  rcases h.stage_cases hfound with hstage | ⟨l, hstage⟩ | ⟨l, hstage⟩
  · obtain ⟨s, hs⟩ := h.waits_for_bounded t ht hstage
    obtain ⟨total, hop⟩ := (exists_slots?_iff g c t.op).1 ⟨s, hs⟩
    have hfree := (h.balanced t.op total hop).free_eq_zero s hs
      (List.ne_nil_of_mem (h.sound.mem_queue ht hstage hs))
    exact .inl ⟨hstage, ⟨total, hop⟩, by simp [available, hs, hfree]⟩
  · exact .inr ⟨l, hstage, h.exists_holder hfound hstage⟩
  · rw [hstage] at hpending
    cases hpending

/-- At rest a name has a lock if and only if a ticket of that name has passed. -/
theorem get?_eq_some_iff (h : g.Settled c) (name : String) :
    (∃ l, g.entries.get? name = some l) ↔ name ∈ g.liveNames := by
  have hlive : name ∈ g.liveNames ↔ ∃ t ∈ g.tickets, t.stage.isLive = true ∧ t.name = name := by
    simp [liveNames, and_assoc]
  rw [hlive]
  constructor
  · rintro ⟨l, hl⟩
    obtain ⟨id, t, ht, hname, hanswers⟩ := h.tracked name l hl
    rcases h.stage_cases ht with hstage | ⟨m, hstage⟩ | ⟨m, hstage⟩
    · simp [hstage, Stage.AnswersFor, Stage.lock?] at hanswers
    · obtain ⟨u, hu, huname, hholding⟩ := h.exists_holder ht hstage
      exact ⟨u, hu, by simp [hholding, Stage.isLive], huname.trans hname⟩
    · exact ⟨t, mem_of_ticket? ht, by simp [hstage, Stage.isLive], hname⟩
  · rintro ⟨t, ht, hpassed, rfl⟩
    obtain ⟨l, hl⟩ := Stage.owned?_of_isLive hpassed
    exact ⟨l, h.sound.current t.id t (ticket?_of_mem h.sound.ids_nodup ht) l
      (Stage.lock?_of_owned? hl)⟩

theorem trackedNames_eq (h : g.Settled c) : g.trackedNames = g.liveNames.toFinset.card := by
  have hnames : g.entries.keys.toFinset = g.liveNames.toFinset := by
    ext name
    rw [List.mem_toFinset, List.mem_toFinset, Dict.mem_keys_iff, h.get?_eq_some_iff]
  rw [← hnames, List.toFinset_card_of_nodup g.entries.nodup_keys, Dict.keys, List.length_map]
  rfl

/-- At rest nobody is pending unless somebody has passed. -/
theorem tickets_eq_nil (h : g.Settled c) (hnobody : g.liveNames = []) : g.tickets = [] := by
  have hnone : ∀ u ∈ g.tickets, ∀ l, u.stage ≠ .holding l := by
    intro u hu l hstage
    have hmem : u.name ∈ g.liveNames :=
      List.mem_map_of_mem (List.mem_filter.2 ⟨hu, by simp [hstage, Stage.isLive]⟩)
    rw [hnobody] at hmem
    cases hmem
  have hqueued : ∀ u ∈ g.tickets, u.stage = .queued := by
    intro u hu
    have hfound := ticket?_of_mem h.sound.ids_nodup hu
    rcases h.stage_cases hfound with hstage | ⟨l, hstage⟩ | ⟨l, hstage⟩
    · exact hstage
    · obtain ⟨v, hv, -, hholding⟩ := h.exists_holder hfound hstage
      exact absurd hholding (hnone v hv l)
    · exact absurd hstage (hnone u hu l)
  refine List.eq_nil_iff_forall_not_mem.2 fun t ht => ?_
  -- Nobody has a slot, so all are free, and yet `t` waits for one.
  obtain ⟨s, hs⟩ := h.waits_for_bounded t ht (hqueued t ht)
  obtain ⟨total, hop⟩ := (exists_slots?_iff g c t.op).1 ⟨s, hs⟩
  have hsum := (h.balanced t.op total hop).sum_eq s hs
  have hfree := (h.balanced t.op total hop).free_eq_zero s hs
    (List.ne_nil_of_mem (h.sound.mem_queue ht (hqueued t ht) hs))
  have huse : g.slotsInUse t.op = 0 := by
    refine List.sum_eq_zero_iff_forall_eq_nat.2 fun n hn => ?_
    obtain ⟨u, hu, rfl⟩ := List.mem_map.1 hn
    simp [Ticket.slotsOf, hqueued u hu, Stage.hasSlot]
  have hpos := pos_of_bound? hop
  omega

end Settled

/-- The gate never strands a waiter. After a move, any polls among which each pending ticket has had
one lead to rest. At rest, whoever is pending waits for a slot of a class that has none free, or
waits for a lock and somebody has passed under the same name; locks are kept for the names under
which somebody has passed, and for no others; and if nobody has passed, nobody is pending and all
slots are free. -/
theorem served_never_strands {c : Config.Admission} (hmount : slotsFor c.mount ≤ maxSlots)
    (hunmount : slotsFor c.unmount ≤ maxSlots) :
    ∃ g₀, ofConfig c = .ok g₀ ∧ ∀ g, Served g₀ g →
      (∀ m ids, (∀ id ∈ (g.move m).pending, id ∈ ids) →
        Settles (g.move m) ((g.move m).pollAll ids)) ∧
      (∀ t ∈ g.tickets, t.stage.isPending = true →
        t.stage = .queued ∧ (∃ total, bound? c t.op = some total) ∧ g.available t.op = some 0 ∨
          ∃ l, t.stage = .blocked l ∧ ∃ u ∈ g.tickets, u.name = t.name ∧ u.stage = .holding l) ∧
      g.trackedNames = g.liveNames.toFinset.card ∧
      (g.liveNames = [] → g.pending = [] ∧ g.trackedNames = 0 ∧
        ∀ op total, bound? c op = some total → g.available op = some total) := by
  obtain ⟨g₀, hg₀⟩ := exists_ofConfig hmount hunmount
  refine ⟨g₀, hg₀, fun g hserved => ?_⟩
  have h := Settled.of_served (.of_ofConfig hg₀) hserved
  refine ⟨fun m ids hall => ⟨ids, rfl, fun id _ => ?_⟩, fun t ht hpending => h.waits ht hpending,
    h.trackedNames_eq, fun hnobody => ?_⟩
  · exact ((h.regular_move m).sound.still_pollAll hall).poll id
  · have hleft := h.tickets_eq_nil hnobody
    refine ⟨by simp [pending, hleft], h.tracked.trackedNames_eq_zero hleft, fun op total hop => ?_⟩
    obtain ⟨s, hs⟩ := (exists_slots?_iff g c op).2 ⟨total, hop⟩
    exact (h.balanced op total hop).available_eq hleft hs

/-- An unmount waits for the lock of a mount that has passed, and a second mount waits for its slot.
Once the first mount has left, both pass. -/
theorem served_never_strands_two_waiting :
    let g₀ : Gate := ⟨⟨1, []⟩, ⟨1, []⟩, .empty, [], []⟩
    let first := (g₀.move (.start 0 "v" .mount)).pollAll [0]
    let second := (first.move (.start 1 "v" .unmount)).pollAll [1]
    let third := (second.move (.start 2 "w" .mount)).pollAll [2, 1]
    let last := (third.move (.leave 0)).pollAll [1, 2]
    slotsFor 1 ≤ maxSlots ∧ ofConfig ⟨1, 1⟩ = .ok g₀ ∧ Served g₀ third ∧ Served g₀ last ∧
      third.tickets.map Ticket.stage = [.holding 0, .blocked 0, .queued] ∧
      last.tickets.map Ticket.stage = [.holding 0, .holding 1] ∧
      ∀ g ∈ [third, last],
        (∀ t ∈ g.tickets, t.stage.isPending = true →
          t.stage = .queued ∧ (∃ total, bound? ⟨1, 1⟩ t.op = some total) ∧
              g.available t.op = some 0 ∨
            ∃ l, t.stage = .blocked l ∧ ∃ u ∈ g.tickets, u.name = t.name ∧ u.stage = .holding l) ∧
        g.trackedNames = g.liveNames.toFinset.card := by
  obtain ⟨g₀, hg₀, h⟩ := served_never_strands (c := ⟨1, 1⟩) (by decide) (by decide)
  cases hg₀
  have hfirst := Served.initial.step _ ((h _ .initial).1 (.start 0 "v" .mount) [0] (by decide))
  have hsecond := hfirst.step _ ((h _ hfirst).1 (.start 1 "v" .unmount) [1] (by decide))
  have hthird := hsecond.step _ ((h _ hsecond).1 (.start 2 "w" .mount) [2, 1] (by decide))
  have hlast := hthird.step _ ((h _ hthird).1 (.leave 0) [1, 2] (by decide))
  refine ⟨by decide, rfl, hthird, hlast, by decide, by decide, fun g hg => ?_⟩
  rcases List.mem_pair.1 hg with rfl | rfl
  · exact ⟨(h _ hthird).2.1, (h _ hthird).2.2.1⟩
  · exact ⟨(h _ hlast).2.1, (h _ hlast).2.2.1⟩

end VolumeLifecycle.Gate
