import Mathlib.Data.List.Basic
import Mathlib.Data.Nat.Init
import VolumeLifecycle.Proofs.Gate.Moves

namespace VolumeLifecycle.Gate

/-- Where a ticket is with regard to what a line is for. -/
inductive Place where
  /-- It does not seek it. -/
  | apart
  /-- It has come for it and does not stand in the queue yet. -/
  | coming
  | waiting
  /-- It has got it. -/
  | served
  deriving DecidableEq

inductive Place.Leads : Place → Place → Prop
  | stays (p : Place) : Leads p p
  | comes : Leads apart coming
  | passes : Leads coming served
  | joins : Leads coming waiting
  | serves : Leads waiting served
  | goes (p : Place) : Leads p apart

/-- A line for something that the gate gives to one ticket after another. Tickets come for it and
then wait in a queue. -/
structure Line where
  place : Ticket → Place
  queue : Gate → List Nat

/-- Whether those who seek something get it in the order in which they come for it. While one seeks it,
nobody gets it who came later: who neither sought it nor had it at a time since when that one seeks it
without a break. -/
def InTurn (seeks has : Gate → Nat → Prop) (g : Gate) (events : List Event) : Prop :=
  ∀ a b i j, i < j → (∀ k, i ≤ k → k < j → seeks (g.run (events.take k)) a) →
    ¬ seeks (g.run (events.take i)) b → ¬ has (g.run (events.take i)) b →
      ¬ has (g.run (events.take j)) b

/-- Turns are kept if every step keeps whoever came later behind. -/
theorem inTurn_of_step {seeks has : Gate → Nat → Prop} {g : Gate} {events : List Event}
    (ahead : Gate → Nat → Nat → Prop)
    (hbegin : ∀ k a b, seeks (g.run (events.take k)) a → ¬ seeks (g.run (events.take k)) b →
      ¬ has (g.run (events.take k)) b → ahead (g.run (events.take k)) a b)
    (hstep : ∀ before e after, events = before ++ e :: after → ∀ a b, ahead (g.run before) a b →
      ¬ has ((g.run before).apply e) b ∧
        (seeks ((g.run before).apply e) a → ahead ((g.run before).apply e) a b))
    (hnot : ∀ g a b, ahead g a b → ¬ has g b) : InTurn seeks has g events := by
  intro a b i j hij hseeks hbseeks hbhas
  have hnext : ∀ k, ahead (g.run (events.take k)) a b →
      ¬ has (g.run (events.take (k + 1))) b ∧
        (seeks (g.run (events.take (k + 1))) a → ahead (g.run (events.take (k + 1))) a b) := by
    intro k hahead
    by_cases hk : k < events.length
    · rw [List.take_succ_eq_append_getElem hk, run_concat]
      refine hstep _ _ (events.drop (k + 1)) ?_ a b hahead
      rw [← List.drop_eq_getElem_cons hk, List.take_append_drop]
    · rw [List.take_of_length_le (by omega)] at hahead ⊢
      exact ⟨hnot _ a b hahead, fun _ => hahead⟩
  -- Whoever came later stays behind until the other one does not seek it any more.
  have hahead : ∀ k, i ≤ k → k < j → ahead (g.run (events.take k)) a b := by
    intro k hik
    induction k, hik using Nat.le_induction with
    | base => exact fun hlt => hbegin i a b (hseeks i (Nat.le_refl i) hlt) hbseeks hbhas
    | succ k hik ih => exact fun hlt => (hnext k (ih (by omega))).2 (hseeks _ (by omega) hlt)
  obtain ⟨k, rfl⟩ : ∃ k, j = k + 1 := ⟨j - 1, by omega⟩
  exact (hnext k (hahead k (by omega) (by omega))).1

namespace Line

variable {L : Line} {g g' : Gate} {a b : Nat}

def placeOf (L : Line) (g : Gate) (id : Nat) : Place :=
  ((g.ticket? id).map L.place).getD .apart

def Seeks (L : Line) (g : Gate) (id : Nat) : Prop :=
  L.placeOf g id = .coming ∨ L.placeOf g id = .waiting

def Has (L : Line) (g : Gate) (id : Nat) : Prop :=
  L.placeOf g id = .served

/-- Whether the queue holds, once each, those who wait. -/
structure Kept (L : Line) (g : Gate) : Prop where
  nodup : (L.queue g).Nodup
  mem_iff : ∀ id, id ∈ L.queue g ↔ L.placeOf g id = .waiting

/-- Whether a ticket stays where it is, or is gone after it has not waited. -/
def Stays (L : Line) (g g' : Gate) (id : Nat) : Prop :=
  L.placeOf g' id = L.placeOf g id ∨ L.placeOf g id ≠ .waiting ∧ L.placeOf g' id = .apart

/-- A ticket that stays and still seeks is where it was. -/
theorem Stays.placeOf_eq (h : L.Stays g g' a) (hseeks : L.Seeks g' a) :
    L.placeOf g' a = L.placeOf g a := by
  refine h.resolve_right fun ⟨_, hgone⟩ => ?_
  simp [Seeks, hgone] at hseeks

theorem Stays.not_has (h : L.Stays g g' a) (hnot : ¬ L.Has g a) : ¬ L.Has g' a := by
  intro hserved
  rcases h with hsame | ⟨-, hgone⟩
  · exact hnot (hsame.symm.trans hserved)
  · rw [Has, hgone] at hserved
    cases hserved

theorem Stays.trans_eq {g'' : Gate} (h : L.Stays g g' a) (hsame : L.placeOf g'' a = L.placeOf g' a) :
    L.Stays g g'' a := by
  rwa [Stays, hsame]

theorem placeOf_of_ticket? {id : Nat} {t : Ticket} (ht : g.ticket? id = some t) :
    L.placeOf g id = L.place t := by
  simp [placeOf, ht]

theorem placeOf_of_none {id : Nat} (hnone : g.ticket? id = none) : L.placeOf g id = .apart := by
  simp [placeOf, hnone]

/-- Whoever is not apart seeks what the line is for, or has it. -/
theorem seeks_or_has {id : Nat} (h : L.placeOf g id ≠ .apart) : L.Seeks g id ∨ L.Has g id := by
  cases hplace : L.placeOf g id <;> simp_all [Seeks, Has]

theorem Seeks.not_has (h : L.Seeks g a) : ¬ L.Has g a := by
  intro hhas
  rw [Has] at hhas
  simp [Seeks, hhas] at h

theorem exists_of_placeOf {id : Nat} {p : Place} (h : L.placeOf g id = p) (hp : p ≠ .apart) :
    ∃ t, g.ticket? id = some t ∧ L.place t = p := by
  cases ht : g.ticket? id with
  | none =>
    rw [placeOf, ht] at h
    exact absurd h.symm hp
  | some t => exact ⟨t, rfl, placeOf_of_ticket? ht ▸ h⟩

/-- The place of a ticket in a line depends on the ticket alone. -/
theorem placeOf_of_same_ticket? {id : Nat} (hticket : g'.ticket? id = g.ticket? id) :
    L.placeOf g' id = L.placeOf g id := by
  rw [placeOf, hticket, placeOf]

theorem placeOf_of_same_tickets (htickets : g'.tickets = g.tickets) (j : Nat) :
    L.placeOf g' j = L.placeOf g j :=
  placeOf_of_same_ticket? (by simp [ticket?, htickets])

/-- A new stage of one ticket moves nobody else in a line. -/
theorem placeOf_setStage_of_ne (htickets : g'.tickets = g.tickets) {id j : Nat} (hj : j ≠ id)
    (stage : Stage) : L.placeOf (g'.setStage id stage) j = L.placeOf g j := by
  rw [placeOf, ticket?_setStage, if_neg hj]
  exact placeOf_of_same_tickets htickets j

theorem placeOf_setStage_self (htickets : g'.tickets = g.tickets) {id : Nat} {t : Ticket}
    (ht : g.ticket? id = some t) (stage : Stage) :
    L.placeOf (g'.setStage id stage) id = L.place { t with stage } := by
  have ht' : g'.ticket? id = some t := by simpa [ticket?, htickets] using ht
  simp [placeOf, ticket?_setStage, ht']

/-- A ticket that moves to a stage with the same place leaves all places as they are. -/
theorem placeOf_setStage_of_eq (htickets : g'.tickets = g.tickets) {id : Nat} {t : Ticket}
    (ht : g.ticket? id = some t) {stage : Stage} (hplace : L.place { t with stage } = L.place t)
    (j : Nat) : L.placeOf (g'.setStage id stage) j = L.placeOf g j := by
  by_cases hj : j = id
  · rw [hj, placeOf_setStage_self htickets ht, hplace, placeOf_of_ticket? ht]
  · exact placeOf_setStage_of_ne htickets hj stage

theorem placeOf_dropTicket_self (id : Nat) : L.placeOf (g.dropTicket id) id = .apart := by
  simp [placeOf, ticket?_dropTicket]

theorem placeOf_dropTicket_of_ne (htickets : g'.tickets = g.tickets) {id j : Nat} (hj : j ≠ id) :
    L.placeOf (g'.dropTicket id) j = L.placeOf g j := by
  rw [placeOf, ticket?_dropTicket, if_neg hj]
  exact placeOf_of_same_tickets htickets j

/-- A ticket that does not wait can be dropped. -/
theorem stays_dropTicket (htickets : g'.tickets = g.tickets) {id : Nat}
    (hplace : L.placeOf g id ≠ .waiting) (j : Nat) : L.Stays g (g'.dropTicket id) j := by
  by_cases hj : j = id
  · rw [hj]
    exact .inr ⟨hplace, placeOf_dropTicket_self id⟩
  · exact .inl (placeOf_dropTicket_of_ne htickets hj)

/-- What a step may do to a line. -/
inductive Step (L : Line) (g g' : Gate) : Prop
  | stays (hstays : ∀ j, L.Stays g g' j) (hqueue : L.queue g' = L.queue g)
  /-- One comes while nobody else is coming. -/
  | comes (id : Nat) (halone : ∀ j, L.placeOf g j ≠ .coming) (hbefore : L.placeOf g id = .apart)
    (hafter : L.placeOf g' id = .coming) (hstays : ∀ j, j ≠ id → L.Stays g g' j)
    (hqueue : L.queue g' = L.queue g)
  /-- One who comes does not have to wait, as nobody else does. -/
  | passes (id : Nat) (hbefore : L.placeOf g id = .coming) (hafter : L.placeOf g' id = .served)
    (hstays : ∀ j, j ≠ id → L.Stays g g' j) (hfirst : L.queue g = []) (hqueue : L.queue g' = [])
  | joins (id : Nat) (hbefore : L.placeOf g id = .coming) (hafter : L.placeOf g' id = .waiting)
    (hstays : ∀ j, j ≠ id → L.Stays g g' j) (hqueue : L.queue g' = L.queue g ++ [id])
  /-- The first of the queue is served. -/
  | serves (id : Nat) (hafter : L.placeOf g' id = .served)
    (hstays : ∀ j, j ≠ id → L.Stays g g' j) (hqueue : L.queue g = id :: L.queue g')
  | quits (id : Nat) (hafter : L.placeOf g' id = .apart)
    (hstays : ∀ j, j ≠ id → L.Stays g g' j) (hqueue : L.queue g' = (L.queue g).filter (· ≠ id))

theorem Step.refl (L : Line) (g : Gate) : L.Step g g :=
  .stays (fun _ => .inl rfl) rfl

theorem Step.of_same (hplaces : ∀ j, L.placeOf g' j = L.placeOf g j)
    (hqueue : L.queue g' = L.queue g) : L.Step g g' :=
  .stays (fun j => .inl (hplaces j)) hqueue

/-- A step may have a second half that leaves the line as it is. -/
theorem Step.then_same (h : L.Step g g') {g'' : Gate} (hplaces : ∀ j, L.placeOf g'' j = L.placeOf g' j)
    (hqueue : L.queue g'' = L.queue g') : L.Step g g'' := by
  cases h with
  | stays hstays hsame => exact .stays (fun j => (hstays j).trans_eq (hplaces j)) (hqueue.trans hsame)
  | comes i halone hbefore hafter hstays hsame =>
    exact .comes i halone hbefore ((hplaces i).trans hafter)
      (fun j hj => (hstays j hj).trans_eq (hplaces j)) (hqueue.trans hsame)
  | passes i hbefore hafter hstays hfirst hsame =>
    exact .passes i hbefore ((hplaces i).trans hafter)
      (fun j hj => (hstays j hj).trans_eq (hplaces j)) hfirst (hqueue.trans hsame)
  | joins i hbefore hafter hstays hsame =>
    exact .joins i hbefore ((hplaces i).trans hafter)
      (fun j hj => (hstays j hj).trans_eq (hplaces j)) (hqueue.trans hsame)
  | serves i hafter hstays hsame =>
    exact .serves i ((hplaces i).trans hafter) (fun j hj => (hstays j hj).trans_eq (hplaces j))
      (hqueue ▸ hsame)
  | quits i hafter hstays hsame =>
    exact .quits i ((hplaces i).trans hafter) (fun j hj => (hstays j hj).trans_eq (hplaces j))
      (hqueue.trans hsame)

theorem Stays.leads (h : L.Stays g g' a) : (L.placeOf g a).Leads (L.placeOf g' a) := by
  rcases h with hsame | ⟨-, hgone⟩
  · rw [hsame]
    exact .stays _
  · rw [hgone]
    exact .goes _

theorem Step.leads (hkept : L.Kept g) (h : L.Step g g') (id : Nat) :
    (L.placeOf g id).Leads (L.placeOf g' id) := by
  have hmoves : ∀ {i : Nat}, (∀ j, j ≠ i → L.Stays g g' j) →
      (L.placeOf g i).Leads (L.placeOf g' i) → (L.placeOf g id).Leads (L.placeOf g' id) := by
    intro i hstays hleads
    by_cases hid : id = i
    · exact hid ▸ hleads
    · exact (hstays id hid).leads
  cases h with
  | stays hstays => exact (hstays id).leads
  | comes i _ hbefore hafter hstays =>
    refine hmoves hstays ?_
    rw [hbefore, hafter]
    exact .comes
  | passes i hbefore hafter hstays =>
    refine hmoves hstays ?_
    rw [hbefore, hafter]
    exact .passes
  | joins i hbefore hafter hstays =>
    refine hmoves hstays ?_
    rw [hbefore, hafter]
    exact .joins
  | serves i hafter hstays hqueue =>
    refine hmoves hstays ?_
    rw [(hkept.mem_iff i).1 (by simp [hqueue]), hafter]
    exact .serves
  | quits i hafter hstays =>
    refine hmoves hstays ?_
    rw [hafter]
    exact .goes _

/-- Only those who seek it get it. -/
theorem Step.seeks_of_has (hkept : L.Kept g) (h : L.Step g g') (hbefore : ¬ L.Has g a)
    (hafter : L.Has g' a) : L.Seeks g a := by
  have hleads := h.leads hkept a
  rw [hafter] at hleads
  cases hplace : L.placeOf g a with
  | apart =>
    rw [hplace] at hleads
    cases hleads
  | coming => exact .inl hplace
  | waiting => exact .inr hplace
  | served => exact absurd hplace hbefore

/-- Those who have it do not seek it again. -/
theorem Step.not_seeks_of_has (hkept : L.Kept g) (h : L.Step g g') (hbefore : L.Has g a) :
    ¬ L.Seeks g' a := by
  have hleads := h.leads hkept a
  rw [hbefore] at hleads
  rintro (hafter | hafter) <;> rw [hafter] at hleads <;> cases hleads

/-- Whether one seeks what the other one has not got, and stands behind it if at all. -/
def Ahead (L : Line) (g : Gate) (a b : Nat) : Prop :=
  L.placeOf g b ≠ .served ∧
    (L.placeOf g a = .coming ∧ L.placeOf g b = .apart ∨
      L.placeOf g a = .waiting ∧ (L.placeOf g b = .waiting → [a, b].Sublist (L.queue g)))

namespace Ahead

theorem begin (hseeks : L.Seeks g a) (hbseeks : ¬ L.Seeks g b) (hbhas : ¬ L.Has g b) :
    L.Ahead g a b := by
  have hapart : L.placeOf g b = .apart := by
    cases hplace : L.placeOf g b <;> simp_all [Seeks, Has]
  refine ⟨hbhas, hseeks.imp (⟨·, hapart⟩) (⟨·, ?_⟩)⟩
  rw [hapart]
  rintro ⟨⟩

/-- Nothing changes between two who stay where they are. -/
theorem of_stays (h : L.Ahead g a b) (ha : L.Stays g g' a) (hb : L.Stays g g' b)
    (hqueue : [a, b].Sublist (L.queue g) → [a, b].Sublist (L.queue g')) :
    ¬ L.Has g' b ∧ (L.Seeks g' a → L.Ahead g' a b) := by
  obtain ⟨hnot, hahead⟩ := h
  have hbhas := hb.not_has hnot
  refine ⟨hbhas, fun hseeks => ⟨hbhas, ?_⟩⟩
  rw [ha.placeOf_eq hseeks]
  rcases hahead with ⟨hcoming, hapart⟩ | ⟨hwaiting, hbehind⟩
  · refine .inl ⟨hcoming, ?_⟩
    rcases hb with hb | ⟨-, hb⟩
    · rw [hb, hapart]
    · exact hb
  · refine .inr ⟨hwaiting, fun hbwaiting => hqueue (hbehind ?_)⟩
    rcases hb with hb | ⟨-, hb⟩
    · rw [← hb, hbwaiting]
    · rw [hb] at hbwaiting
      cases hbwaiting

/-- Nobody is ahead of itself. -/
theorem ne (hkept : L.Kept g) (h : L.Ahead g a b) : a ≠ b := by
  rintro rfl
  rcases h.2 with ⟨hcoming, hapart⟩ | ⟨hwaiting, hbehind⟩
  · rw [hcoming] at hapart
    cases hapart
  · simpa using hkept.nodup.sublist (hbehind hwaiting)

/-- Only those who wait have anybody behind them. -/
theorem waiting (h : L.Ahead g a b) (hb : L.Seeks g b) : L.placeOf g a = .waiting := by
  rcases h.2 with ⟨-, hapart⟩ | ⟨hwaiting, -⟩
  · simp [Seeks, hapart] at hb
  · exact hwaiting

/-- A ticket that seeks no longer is not overtaken by one behind it that stays. -/
theorem of_done (h : L.Ahead g a b) (hb : L.Stays g g' b) (ha : ¬ L.Seeks g' a) :
    ¬ L.Has g' b ∧ (L.Seeks g' a → L.Ahead g' a b) :=
  ⟨hb.not_has h.1, fun hseeks => absurd hseeks ha⟩

/-- Whoever waits is ahead of those who come behind. -/
theorem of_waiting (hwaiting : L.placeOf g a = .waiting) (ha : L.Stays g g' a)
    (hb : L.placeOf g' b ≠ .served)
    (hqueue : L.placeOf g' b = .waiting → [a, b].Sublist (L.queue g')) :
    ¬ L.Has g' b ∧ (L.Seeks g' a → L.Ahead g' a b) :=
  ⟨hb, fun hseeks => ⟨hb, .inr ⟨(ha.placeOf_eq hseeks).trans hwaiting, hqueue⟩⟩⟩

/-- The first of the queue has nobody ahead. -/
theorem ne_first (hkept : L.Kept g) (h : L.Ahead g a b) {i : Nat} {rest : List Nat}
    (hqueue : L.queue g = i :: rest) : b ≠ i := by
  rintro rfl
  have hwaiting : L.placeOf g b = .waiting := (hkept.mem_iff b).1 (by simp [hqueue])
  have hsub := (h.2.resolve_left fun hcoming => by simp [hwaiting] at hcoming).2 hwaiting
  have hnodup := hkept.nodup
  rw [hqueue] at hsub hnodup
  have hrest : [a, b].Sublist rest := by
    cases hsub with
    | cons _ hrest => exact hrest
    | cons_cons _ hrest => exact absurd rfl (h.ne hkept)
  exact (List.nodup_cons.1 hnodup).1 (hrest.subset (by simp))

section Moves

variable {i : Nat} (hkept : L.Kept g) (h : L.Ahead g a b) (hstays : ∀ j, j ≠ i → L.Stays g g' j)

include h hstays

/-- Nobody is overtaken when a ticket comes to a line to which nobody else is coming. -/
theorem comes (halone : ∀ j, L.placeOf g j ≠ .coming) (hbefore : L.placeOf g i = .apart)
    (hafter : L.placeOf g' i = .coming) (hqueue : L.queue g' = L.queue g) :
    ¬ L.Has g' b ∧ (L.Seeks g' a → L.Ahead g' a b) := by
  have hwaiting : L.placeOf g a = .waiting := (h.2.resolve_left fun hcoming => halone a hcoming.1).1
  have ha : a ≠ i := by
    rintro rfl
    rw [hbefore] at hwaiting
    cases hwaiting
  by_cases hb : b = i
  · subst hb
    exact of_waiting hwaiting (hstays a ha) (by simp [hafter]) (by simp [hafter])
  · exact h.of_stays (hstays a ha) (hstays b hb) (by simp [hqueue])

include hkept

theorem passes (hbefore : L.placeOf g i = .coming) (hafter : L.placeOf g' i = .served)
    (hfirst : L.queue g = []) : ¬ L.Has g' b ∧ (L.Seeks g' a → L.Ahead g' a b) := by
  have hb : b ≠ i := by
    rintro rfl
    have hmem := (hkept.mem_iff a).2 (h.waiting (.inl hbefore))
    simp [hfirst] at hmem
  by_cases ha : a = i
  · exact h.of_done (hstays b hb) (by simp [Seeks, ha, hafter])
  · exact h.of_stays (hstays a ha) (hstays b hb) (by simp [hfirst])

/-- Nobody is overtaken when a ticket joins the end of the queue. -/
theorem joins (hbefore : L.placeOf g i = .coming) (hafter : L.placeOf g' i = .waiting)
    (hqueue : L.queue g' = L.queue g ++ [i]) :
    ¬ L.Has g' b ∧ (L.Seeks g' a → L.Ahead g' a b) := by
  have hne := h.ne hkept
  by_cases hb : b = i
  · subst hb
    have hwaiting := h.waiting (.inl hbefore)
    refine of_waiting hwaiting (hstays a hne) (by simp [hafter]) fun _ => ?_
    rw [hqueue]
    exact (List.singleton_sublist.2 ((hkept.mem_iff a).2 hwaiting)).append (.refl [b])
  by_cases ha : a = i
  · subst ha
    have hbapart : L.placeOf g b = .apart := by
      refine (h.2.resolve_right fun hwaiting => ?_).2
      rw [hbefore] at hwaiting
      cases hwaiting.1
    have hbafter : L.placeOf g' b = .apart := (hstays b hb).elim (·.trans hbapart) And.right
    have hnot : L.placeOf g' b ≠ .served := by simp [hbafter]
    exact ⟨hnot, fun _ => ⟨hnot, .inr ⟨hafter, by simp [hbafter]⟩⟩⟩
  · refine h.of_stays (hstays a ha) (hstays b hb) fun hsub => ?_
    rw [hqueue]
    exact hsub.trans (List.sublist_append_left _ _)

theorem serves (hafter : L.placeOf g' i = .served) (hqueue : L.queue g = i :: L.queue g') :
    ¬ L.Has g' b ∧ (L.Seeks g' a → L.Ahead g' a b) := by
  have hb := h.ne_first hkept hqueue
  by_cases ha : a = i
  · exact h.of_done (hstays b hb) (by simp [Seeks, ha, hafter])
  · refine h.of_stays (hstays a ha) (hstays b hb) fun hsub => ?_
    rw [hqueue] at hsub
    cases hsub with
    | cons _ hrest => exact hrest
    | cons_cons _ hrest => exact absurd rfl ha

/-- Nobody is overtaken when a ticket leaves the queue. -/
theorem quits (hafter : L.placeOf g' i = .apart)
    (hqueue : L.queue g' = (L.queue g).filter (· ≠ i)) :
    ¬ L.Has g' b ∧ (L.Seeks g' a → L.Ahead g' a b) := by
  have hne := h.ne hkept
  by_cases ha : a = i
  · have hb : b ≠ i := fun hb => hne (ha.trans hb.symm)
    exact h.of_done (hstays b hb) (by simp [Seeks, ha, hafter])
  by_cases hb : b = i
  · subst hb
    have hnot : L.placeOf g' b ≠ .served := by simp [hafter]
    refine ⟨hnot, fun hseeks => ⟨hnot, ?_⟩⟩
    rw [(hstays a hne).placeOf_eq hseeks]
    exact h.2.imp (⟨·.1, hafter⟩) (⟨·.1, by simp [hafter]⟩)
  · refine h.of_stays (hstays a ha) (hstays b hb) fun hsub => ?_
    have hkeep := hsub.filter (· ≠ i)
    rw [hqueue]
    simpa [ha, hb] using hkeep

end Moves

/-- Whoever is behind stays behind until the other one does not seek it any more. -/
theorem step (hkept : L.Kept g) (h : L.Ahead g a b) (hstep : L.Step g g') :
    ¬ L.Has g' b ∧ (L.Seeks g' a → L.Ahead g' a b) := by
  cases hstep with
  | stays hstays hqueue => exact h.of_stays (hstays a) (hstays b) (by simp [hqueue])
  | comes i halone hbefore hafter hstays hqueue => exact h.comes hstays halone hbefore hafter hqueue
  | passes i hbefore hafter hstays hfirst _ => exact passes hkept h hstays hbefore hafter hfirst
  | joins i hbefore hafter hstays hqueue => exact joins hkept h hstays hbefore hafter hqueue
  | serves i hafter hstays hqueue => exact serves hkept h hstays hafter hqueue
  | quits i hafter hstays hqueue => exact quits hkept h hstays hafter hqueue

end Ahead

/-- Turns are kept in a line if its queue is kept and every step is one of a line. -/
theorem inTurn {events : List Event} (hkept : ∀ k, L.Kept (g.run (events.take k)))
    (hstep : ∀ before e after, events = before ++ e :: after →
      L.Step (g.run before) ((g.run before).apply e)) : InTurn L.Seeks L.Has g events := by
  refine inTurn_of_step L.Ahead (fun k a b => Ahead.begin) (fun before e after hevents a b h => ?_)
    fun g a b h => h.1
  have hbefore := hkept before.length
  rw [hevents, List.take_left] at hbefore
  exact h.step hbefore (hstep before e after hevents)

end Line
end VolumeLifecycle.Gate
