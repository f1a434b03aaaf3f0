import VolumeLifecycle.Proofs.Agent.Journal
import VolumeLifecycle.Proofs.Numbered

namespace VolumeLifecycle.Agent

variable {World : Type} {a : Agent World}

/-- A task that is found has the number under which it was looked up. -/
theorem ticket_of_task? {n : Nat} {t : Task} (h : a.task? n = some t) : t.ticket = n := by
  simpa using List.find?_some h

theorem mem_of_task? {n : Nat} {t : Task} (h : a.task? n = some t) : t ∈ a.tasks :=
  List.mem_of_find?_eq_some h

/-- A task moved to a stage is found there, and nothing else changes. -/
theorem task?_setStage (n : Nat) (stage : Stage) (m : Nat) :
    (a.setStage n stage).task? m =
      if m = n then (a.task? n).map fun t => { t with stage } else a.task? m :=
  Numbered.find?_update Task.ticket a.tasks n (fun t => { t with stage }) (fun _ h => h) m

/-- A task of another agent with the same tasks, moved to a stage. -/
theorem task?_setStage_of_eq {b : Agent World} (htasks : a.tasks = b.tasks) {n : Nat} {t : Task}
    (ht : b.task? n = some t) (stage : Stage) (m : Nat) :
    (a.setStage n stage).task? m = if m = n then some { t with stage } else b.task? m := by
  have hsame : ∀ m, a.task? m = b.task? m := fun m => by rw [task?, htasks, task?]
  rw [task?_setStage, hsame, hsame, ht]
  rfl

/-- A task that has responded is gone, and nothing else changes. -/
theorem task?_finish (t : Task) (response : Response) (m : Nat) :
    (a.finish t response).task? m = if m = t.ticket then none else a.task? m :=
  Numbered.find?_remove Task.ticket a.tasks t.ticket m

@[simp]
theorem Task.ticket_replaced (t : Task) (id : String) : (t.replaced id).ticket = t.ticket := by
  unfold Task.replaced
  split <;> rfl

@[simp]
theorem Task.stage_replaced (t : Task) (id : String) : (t.replaced id).stage = t.stage := by
  unfold Task.replaced
  split <;> rfl

/-- A new task is found under its number. Those of its name are replaced, and nothing else
changes. -/
theorem task?_start (hnew : a.task? a.next = none) (id : String) (holds : List Call.Kind)
    (program : Program Response) (m : Nat) :
    (a.start id holds program).task? m =
      if m = a.next then some { id, ticket := a.next, holds, stage := .running program }
      else (a.task? m).map (·.replaced id) := by
  have hreplaced : ∀ m, (a.tasks.map (·.replaced id)).find? (fun t => t.ticket = m) =
      (a.task? m).map (·.replaced id) := by
    intro m
    simp only [List.find?_map, Function.comp_def, Task.ticket_replaced]
    rfl
  refine (Numbered.find?_snoc Task.ticket (a.tasks.map (·.replaced id)) _ m).trans ?_
  rw [hreplaced]
  by_cases hm : m = a.next
  · simp [hm, hnew]
  · simp [hm, Ne.symm hm]

/-- Who is there after a start is the new task, or was there at the same stage before. -/
theorem task?_start_cases (hnew : a.task? a.next = none) {id : String} {holds : List Call.Kind}
    {program : Program Response} {m : Nat} {t : Task}
    (ht : (a.start id holds program).task? m = some t) :
    (m = a.next ∧ t.stage = .running program) ∨
      (m ≠ a.next ∧ ∃ u, a.task? m = some u ∧ u.stage = t.stage) := by
  rw [task?_start hnew] at ht
  split at ht
  · next hm =>
    cases ht
    exact .inl ⟨hm, rfl⟩
  · next hm =>
    obtain ⟨u, hu, rfl⟩ := Option.map_eq_some_iff.1 ht
    exact .inr ⟨hm, u, hu, (u.stage_replaced id).symm⟩

/-- Nobody is there after a start who was not there before, but for the new task. -/
theorem task?_eq_none_of_start (hnew : a.task? a.next = none) {id : String}
    {holds : List Call.Kind} {program : Program Response} {m : Nat}
    (hm : (a.start id holds program).task? m = none) : a.task? m = none := by
  rw [task?_start hnew] at hm
  split at hm
  · cases hm
  · exact Option.map_eq_none_iff.1 hm

/-- What a task that is not blocked can do, with the call that it makes and the agent after it. -/
inductive Takes (perform : Perform World) (a : Agent World) (t : Task) :
    Option Call → Agent World → Prop where
  /-- It has its response and begins to leave. -/
  | responded {p : Program Response} {r : Response} (hstage : t.stage = .running p)
      (hview : p.view = .done r) (hpassed : a.gate.hasPassed t.ticket = true) :
      Takes perform a t none
        ({ a with gate := a.gate.unlock t.ticket }.setStage t.ticket (.leaving r))
  /-- It has its response and was never inside. -/
  | ended {p : Program Response} {r : Response} (hstage : t.stage = .running p)
      (hview : p.view = .done r) (hpassed : a.gate.hasPassed t.ticket = false) :
      Takes perform a t none (a.finish t r)
  | called {p : Program Response} {c : Call} {next : c.Reply → Program Response}
      (hstage : t.stage = .running p) (hview : p.view = .asks (.call c) next) :
      Takes perform a t (some c) (a.makeCall t c next)
  /-- It asks for something that takes no time for the others to interfere. -/
  | asked {p : Program Response} {e : Effect} {next : e.Reply → Program Response}
      (hstage : t.stage = .running p) (hview : p.view = .asks e next) (he : ∀ c, e ≠ .call c) :
      Takes perform a t none (a.effect perform t e next)
  | arrived {p : Program Response} {name : String} {op : Operation} {next : Program Response}
      (hstage : t.stage = .running p) (hview : p.view = .enters name op next) :
      Takes perform a t none
        ({ a with gate := a.gate.arrive t.ticket name op }.setStage t.ticket (.entering next))
  | replied {c : Call} {isHeld : Bool} {next : c.Reply → Program Response}
      (hstage : t.stage = .calling c isHeld next) :
      Takes perform a t none (a.effect perform t (.call c) next)
  | passed {next : Program Response} (hstage : t.stage = .entering next)
      (hpassed : a.gate.hasPassed t.ticket = true) :
      Takes perform a t none (a.setStage t.ticket (.running next))
  | moved {next : Program Response} (hstage : t.stage = .entering next)
      (hpassed : a.gate.hasPassed t.ticket = false) :
      Takes perform a t none { a with gate := a.gate.advance t.ticket }
  | left {r : Response} (hstage : t.stage = .leaving r) :
      Takes perform a t none ({ a with gate := a.gate.retire t.ticket }.finish t r)

/-- A task whose program runs does what the program does next. -/
theorem advance_takes (perform : Perform World) (a : Agent World) {t : Task} {p : Program Response}
    (hstage : t.stage = .running p) :
    a.Takes perform t (nextCall? p) (a.advance perform t p) := by
  unfold advance nextCall?
  cases hview : p.view with
  | done r =>
    dsimp only
    split
    · next hpassed => exact .responded hstage hview hpassed
    · next hpassed => exact .ended hstage hview (by simpa using hpassed)
  | asks e next =>
    cases e with
    | call c => exact .called hstage hview
    | describeHost => exact .asked hstage hview fun _ he => by cases he
    | now => exact .asked hstage hview fun _ he => by cases he
    | sleep d => exact .asked hstage hview fun _ he => by cases he
    | removeDirectory path => exact .asked hstage hview fun _ he => by cases he
  | enters name op next => exact .arrived hstage hview

/-- A step changes nothing, or its task does one of the things that it can do. -/
theorem step_takes (perform : Perform World) (a : Agent World) (n : Nat) :
    (a.step perform n = a ∧ a.made? n = none ∧ a.served? n = none) ∨
      ∃ t, a.task? n = some t ∧ a.served? n = t.awaited? ∧
        a.Takes perform t (a.made? n) (a.step perform n) := by
  unfold step made? served?
  cases ht : a.task? n with
  | none => exact .inl ⟨rfl, rfl, rfl⟩
  | some t =>
    dsimp only [Option.bind_some]
    cases hblocked : a.isBlocked t with
    | true =>
      refine .inl ⟨rfl, ?_, rfl⟩
      cases hstage : t.stage <;> simp_all [isBlocked, Task.made?]
    | false =>
      refine .inr ⟨t, rfl, if_neg (by simp), ?_⟩
      rw [if_neg (by simp)]
      unfold stepTask Task.made?
      cases hstage : t.stage with
      | running p => exact advance_takes perform a hstage
      | calling c isHeld next => exact .replied hstage
      | entering next =>
        dsimp only
        split
        · next hpassed => exact .passed hstage hpassed
        · next hpassed => exact .moved hstage (by simpa using hpassed)
      | leaving r => exact .left hstage

end VolumeLifecycle.Agent
