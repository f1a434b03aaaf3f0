import Mathlib.Algebra.GroupWithZero.Nat
import VolumeLifecycle.Proofs.Provider.Sound

namespace VolumeLifecycle.Provider.Traffic

variable {Client World : Type} {connect : Nat → Except Failure Client}
  {send : Client → Op → Request → World → Except Failure Response × World}
  {t : Traffic Client World} {i : Nat} {op : Op} {request : Request} {stage : Stage Client}
  {c : Change Client World} {e : Event}

def Caller.asked (caller : Caller Client) : Op × Request :=
  (caller.op, caller.request)

/-- How many steps all callers have before them, at most. -/
def stepsLeft (t : Traffic Client World) : Nat :=
  (t.callers.map fun caller => caller.stage.stepsLeft).sum

/-- Whether a row of steps has no new call and gives each of so many callers the chance to take a
step, in any order. -/
def IsRound (n : Nat) (round : List Event) : Prop :=
  (∀ e ∈ round, e.asked? = none) ∧ ∀ i < n, .advance i ∈ round

theorem asked_take (t : Traffic Client World) (i : Nat) (c : Change Client World) :
    (t.take i c).callers.map Caller.asked = t.callers.map Caller.asked := by
  refine List.ext_getElem? fun j => ?_
  rw [List.getElem?_map, List.getElem?_map, callers_take]
  split
  · rw [Option.map_map]
    rfl
  · rfl

theorem asked_apply (connect : Nat → Except Failure Client)
    (send : Client → Op → Request → World → Except Failure Response × World)
    (t : Traffic Client World) (e : Event) :
    (t.apply connect send e).callers.map Caller.asked =
      t.callers.map Caller.asked ++ e.asked?.toList := by
  have hstep := step_apply connect send t e
  generalize t.apply connect send e = t' at hstep
  cases hstep with
  | idles _ hasked => rw [hasked, Option.toList_none, List.append_nil]
  | calls op request => exact List.map_append ..
  | takes _ i op request stage c hcaller hleads =>
    rw [asked_take, hleads.asked?_eq_none, Option.toList_none, List.append_nil]

/-- The callers are those who have called, in order, and they ask for what they called for. -/
theorem asked_run (connect : Nat → Except Failure Client)
    (send : Client → Op → Request → World → Except Failure Response × World)
    (t : Traffic Client World) (events : List Event) :
    (t.run connect send events).callers.map Caller.asked =
      t.callers.map Caller.asked ++ events.filterMap Event.asked? := by
  induction events generalizing t with
  | nil => exact (List.append_nil _).symm
  | cons e rest ih =>
    refine (ih (t.apply connect send e)).trans ?_
    rw [asked_apply, List.append_assoc, List.filterMap_cons]
    cases e.asked? <;> rfl

theorem length_callers_run {events : List Event} (hasked : ∀ e ∈ events, e.asked? = none) :
    (t.run connect send events).callers.length = t.callers.length := by
  have hsame := asked_run connect send t events
  rw [List.filterMap_eq_nil_iff.2 hasked, List.append_nil] at hsame
  simpa using congrArg List.length hsame

theorem stepsLeft_take (hcaller : t.callers[i]? = some ⟨op, request, stage⟩) :
    (t.take i c).stepsLeft + stage.stepsLeft = t.stepsLeft + c.stage.stepsLeft := by
  obtain ⟨hlt, hget⟩ := List.getElem?_eq_some_iff.1 hcaller
  obtain ⟨front, caller, back, hsplit, hlength, hmodify⟩ :=
    List.exists_of_modify (fun caller => { caller with stage := c.stage }) hlt
  obtain rfl : caller = ⟨op, request, stage⟩ := by
    rw [← hget]
    simp [hsplit, hlength]
  rw [stepsLeft, stepsLeft, take, hmodify, hsplit]
  simp only [List.map_append, List.map_cons, List.sum_append, List.sum_cons]
  omega

theorem stepsLeft_take_lt (hcaller : t.callers[i]? = some ⟨op, request, stage⟩)
    (hleads : t.Leads connect send i op request e stage c) :
    (t.take i c).stepsLeft < t.stepsLeft := by
  have hsum := stepsLeft_take (c := c) hcaller
  have hlt := hleads.stepsLeft_lt
  omega

/-- A step that is no new call does nothing, or there are fewer steps left after it. -/
theorem apply_eq_or_stepsLeft_lt (connect : Nat → Except Failure Client)
    (send : Client → Op → Request → World → Except Failure Response × World)
    (t : Traffic Client World) (hasked : e.asked? = none) :
    t.apply connect send e = t ∨ (t.apply connect send e).stepsLeft < t.stepsLeft := by
  have hstep := step_apply connect send t e
  generalize t.apply connect send e = t' at hstep
  cases hstep with
  | idles => exact .inl rfl
  | calls => cases hasked
  | takes _ i op request stage c hcaller hleads => exact .inr (stepsLeft_take_lt hcaller hleads)

theorem stepsLeft_run_le (connect : Nat → Except Failure Client)
    (send : Client → Op → Request → World → Except Failure Response × World)
    (t : Traffic Client World) {events : List Event} (hasked : ∀ e ∈ events, e.asked? = none) :
    (t.run connect send events).stepsLeft ≤ t.stepsLeft := by
  induction events generalizing t with
  | nil => exact Nat.le_refl _
  | cons e rest ih =>
    obtain ⟨he, hrest⟩ := List.forall_mem_cons.1 hasked
    refine Nat.le_trans (ih _ hrest) ?_
    rcases apply_eq_or_stepsLeft_lt connect send t he with hsame | hlt
    · exact Nat.le_of_eq (congrArg stepsLeft hsame)
    · exact Nat.le_of_lt hlt

/-- A row of steps in which a caller is given the chance to take the step that it has leaves fewer
steps. Until something moves, that caller keeps its step. -/
theorem stepsLeft_run_lt {events : List Event} (hasked : ∀ e ∈ events, e.asked? = none)
    (hmoves : (t.advance connect send i).stepsLeft < t.stepsLeft) (hmem : .advance i ∈ events) :
    (t.run connect send events).stepsLeft < t.stepsLeft := by
  induction events with
  | nil => cases hmem
  | cons e rest ih =>
    obtain ⟨he, hrest⟩ := List.forall_mem_cons.1 hasked
    rcases apply_eq_or_stepsLeft_lt connect send t he with hsame | hlt
    · have hless : .advance i ∈ rest → (t.run connect send rest).stepsLeft < t.stepsLeft := ih hrest
      rw [run, List.foldl_cons, hsame]
      refine hless ?_
      rcases List.mem_cons.1 hmem with rfl | hlater
      · exact absurd (congrArg stepsLeft hsame) (Nat.ne_of_lt hmoves)
      · exact hlater
    · have hle := stepsLeft_run_le connect send (t.apply connect send e) hrest
      exact Nat.lt_of_le_of_lt hle hlt

theorem Stage.stepsLeft_ne_zero (hlocked : stage.isLocked = true) : stage.stepsLeft ≠ 0 := by
  cases stage <;> simp_all [Stage.isLocked, Stage.stepsLeft]

/-- A caller that is not over has a step to take if it has the lock, or if nobody has it. -/
theorem exists_change (connect : Nat → Except Failure Client)
    (send : Client → Op → Request → World → Except Failure Response × World) (i : Nat) (op : Op)
    (request : Request) (hleft : stage.stepsLeft ≠ 0)
    (hlock : stage.isLocked = true ∨ t.holder = none) :
    ∃ c, t.change? connect send i op request stage = some c := by
  cases stage with
  | waiting =>
    have hfree := hlock.resolve_left nofun
    exact ⟨_, by rw [change?, hfree]⟩
  | inside => cases hclient : t.handle.client <;> exact ⟨_, by rw [change?, hclient]⟩
  | outside outcome => cases outcome <;> exact ⟨_, rfl⟩
  | returned | dropped => exact absurd rfl hleft
  | _ => exact ⟨_, rfl⟩

theorem stepsLeft_advance_lt (hcaller : t.callers[i]? = some ⟨op, request, stage⟩)
    (hleft : stage.stepsLeft ≠ 0) (hlock : stage.isLocked = true ∨ t.holder = none) :
    (t.advance connect send i).stepsLeft < t.stepsLeft := by
  obtain ⟨c, hc⟩ := exists_change connect send i op request hleft hlock
  have htake : t.advance connect send i = t.take i c := by
    simp only [advance, hcaller, hc]
  rw [htake]
  exact stepsLeft_take_lt hcaller (leads_of_change? hc)

namespace Sound

variable {world : World}

/-- As long as steps are left, somebody can take one. -/
theorem exists_advance_lt (h : Sound connect send world t) (hleft : t.stepsLeft ≠ 0) :
    ∃ i < t.callers.length, (t.advance connect send i).stepsLeft < t.stepsLeft := by
  cases hholder : t.holder with
  | some i =>
    obtain ⟨caller, hcaller, hlocked⟩ := h.exists_holder hholder
    have hleft := Stage.stepsLeft_ne_zero hlocked
    exact ⟨i, h.held i hholder, stepsLeft_advance_lt hcaller hleft (.inl hlocked)⟩
  | none =>
    -- Nobody has the lock, so whoever is not over can take a step.
    obtain ⟨caller, hmem, hopen⟩ : ∃ caller ∈ t.callers, caller.stage.stepsLeft ≠ 0 := by
      by_contra hall
      push Not at hall
      refine hleft (List.sum_eq_zero_iff_forall_eq_nat.2 fun n hn => ?_)
      obtain ⟨caller, hmem, rfl⟩ := List.mem_map.1 hn
      exact hall caller hmem
    obtain ⟨i, hlt, rfl⟩ := List.mem_iff_getElem.1 hmem
    exact ⟨i, hlt, stepsLeft_advance_lt (List.getElem?_eq_getElem hlt) hopen (.inr hholder)⟩

theorem stepsLeft_round_lt (h : Sound connect send world t) (hleft : t.stepsLeft ≠ 0)
    {round : List Event} (hround : IsRound t.callers.length round) :
    (t.run connect send round).stepsLeft < t.stepsLeft := by
  obtain ⟨i, hlt, hmoves⟩ := h.exists_advance_lt hleft
  exact stepsLeft_run_lt hround.1 hmoves (hround.2 i hlt)

/-- After as many rounds as there are steps left, none are left. -/
theorem stepsLeft_rounds (h : Sound connect send world t) {rounds : List (List Event)}
    (hrounds : ∀ round ∈ rounds, IsRound t.callers.length round)
    (hmany : t.stepsLeft ≤ rounds.length) :
    (t.run connect send rounds.flatten).stepsLeft = 0 := by
  induction rounds generalizing t with
  | nil => exact Nat.le_zero.1 hmany
  | cons round rest ih =>
    obtain ⟨hround, hrest⟩ := List.forall_mem_cons.1 hrounds
    rw [List.flatten_cons, run_append]
    refine ih (h.run round) ?_ ?_
    · rwa [length_callers_run hround.1]
    · rw [List.length_cons] at hmany
      by_cases hleft : t.stepsLeft = 0
      · have hle := stepsLeft_run_le connect send t hround.1
        omega
      · have hlt := h.stepsLeft_round_lt hleft hround
        omega

end Sound

theorem Stage.stepsLeft_le (stage : Stage Client) : stage.stepsLeft ≤ 7 := by
  cases stage <;> simp [Stage.stepsLeft]

theorem stepsLeft_le (t : Traffic Client World) : t.stepsLeft ≤ 7 * t.callers.length := by
  rw [stepsLeft]
  induction t.callers with
  | nil => exact Nat.le_refl _
  | cons caller rest ih =>
    have hone := caller.stage.stepsLeft_le
    simp only [List.map_cons, List.sum_cons, List.length_cons]
    omega

/-- If no steps are left, every call has returned or was given up. -/
theorem over_of_stepsLeft (hleft : t.stepsLeft = 0) {caller : Caller Client}
    (hmem : caller ∈ t.callers) : caller.stage = .dropped ∨ ∃ r, caller.stage = .returned r := by
  have hover := List.sum_eq_zero_iff_forall_eq_nat.1 hleft _ (List.mem_map_of_mem hmem)
  generalize caller.stage = stage at hover
  cases stage with
  | returned r => exact .inr ⟨r, rfl⟩
  | dropped => exact .inl rfl
  | _ => cases hover

end VolumeLifecycle.Provider.Traffic
