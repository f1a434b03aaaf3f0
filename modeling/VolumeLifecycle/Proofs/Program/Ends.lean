import VolumeLifecycle.Proofs.Program.Laws
import VolumeLifecycle.Proofs.Program.Runs
import VolumeLifecycle.Workflow.Command

namespace VolumeLifecycle

/-- A conflict wait is over at the latest when its next probe fails, so what holds of all waits that
are over, and of every wait that can go on to one of which it holds, holds of every wait. -/
theorem Conflict.Wait.end_induction {motive : Wait → Prop}
    (ended : ∀ w v, w.view = .ended v → motive w)
    (asks : ∀ w e after, w.view = .asks e after → (∃ reply, motive (after reply)) → motive w)
    (w : Wait) : motive w := by
  obtain ⟨name, host, kind, ⟨tick, phase⟩, settled⟩ := w
  have isOver : ∀ o settled, motive ⟨name, host, kind, ⟨tick, .ended o⟩, settled⟩ :=
    fun o settled => ended _ _ rfl
  have expiring : motive ⟨name, host, kind, ⟨tick, .expiring⟩, settled⟩ :=
    asks _ _ _ rfl ⟨(.error default : Except Failure Provider.Response), isOver _ _⟩
  have probing : ∀ d, motive ⟨name, host, kind, ⟨tick, .probing d⟩, settled⟩ := fun d =>
    asks _ _ _ rfl ⟨(.error default : Except Failure Provider.Response), isOver _ _⟩
  have napping : ∀ d t, motive ⟨name, host, kind, ⟨tick, .napping d t⟩, settled⟩ := fun d t =>
    asks _ _ _ rfl ⟨(), probing d⟩
  cases phase with
  | starting timeout => exact asks _ _ _ rfl ⟨(0 : Nat), probing _⟩
  | probing d => exact probing d
  | checking d =>
    refine asks _ _ _ rfl ⟨(0 : Nat), ?_⟩
    simp only [Poll.Loop.withPhase, Poll.Loop.afterCheck]
    split
    · exact expiring
    · exact napping d _
  | napping d t => exact napping d t
  | expiring => exact expiring
  | ended o => exact isOver o settled

/-- A conflict wait is over with the verdict on the reply that settles it. -/
theorem Conflict.Wait.view_afterProbe (w : Wait) (deadline : Option Nat)
    {reply : Except Failure Provider.Response} {verdict : Verdict}
    (h : judgeReply w.name w.host reply = some verdict) :
    (w.afterProbe (fun found => w.loop.withPhase (Poll.Loop.afterProbe deadline found))
      reply).view = .ended verdict := by
  simp only [view, afterProbe, h]
  cases verdict <;> rfl

/-- There is a reply to every effect. -/
theorem Effect.exists_reply (e : Effect) : ∃ _ : e.Reply, True := by
  cases e with
  | call c => exact ⟨(.error default : Except Failure c.Answer), trivial⟩
  | describeHost => exact ⟨(.error default : Except Failure Host), trivial⟩
  | now => exact ⟨(0 : Nat), trivial⟩
  | sleep duration => exact ⟨(), trivial⟩
  | removeDirectory path => exact ⟨(.ok () : Except FileError Unit), trivial⟩

namespace Program

variable {α β : Type}

/-- Only what a program does next matters to its runs. -/
theorem Runs.of_view_eq {p q : Program α} (hview : p.view = q.view) {es : List Exchange}
    {x : Option α} (h : p.Runs es x) : q.Runs es x := by
  cases h with
  | cut => exact .cut q
  | done h => exact .done (hview.symm.trans h)
  | asks h hnext => exact .asks (hview.symm.trans h) hnext
  | enters h hnext => exact .enters (hview.symm.trans h) hnext

/-- A run to the end of one program, and then one of the program that follows. -/
theorem Runs.andThen {p : Program α} {f : α → Program β} {es es' : List Exchange} {a : α}
    {x : Option β} (h : p.Runs es (some a)) (h' : (f a).Runs es' x) :
    (p.andThen f).Runs (es ++ es') x := by
  generalize hy : some a = y at h
  induction h with
  | cut => cases hy
  | done hview =>
    cases hy
    exact h'.of_view_eq (by rw [view_andThen, hview])
  | asks hview _ ih => exact .asks (by rw [view_andThen, hview]) (ih hy)
  | enters hview _ ih => exact .enters (by rw [view_andThen, hview]) (ih hy)

/-- Every program has a run to an end. -/
theorem exists_runs (p : Program α) : ∃ es a, p.Runs es (some a) := by
  induction p with
  | done a => exact ⟨[], a, .done rfl⟩
  | perform e next ih =>
    obtain ⟨reply, -⟩ := e.exists_reply
    obtain ⟨es, a, h⟩ := ih reply
    exact ⟨_, a, .asks rfl h⟩
  | await w next ih =>
    induction w using Conflict.Wait.end_induction with
    | ended w v hview =>
      obtain ⟨es, a, h⟩ := ih v
      exact ⟨es, a, h.of_view_eq (by simp only [Program.view, hview])⟩
    | asks w e after hview hafter =>
      obtain ⟨reply, es, a, h⟩ := hafter
      have hasks : (await w next).view = .asks e fun r => await (after r) next := by
        simp only [Program.view, hview]
      exact ⟨_, a, .asks hasks h⟩
  | enter name op next ih =>
    obtain ⟨es, a, h⟩ := ih
    exact ⟨es, a, .enters rfl h⟩

/-- A run that was cut off can go on to an end. -/
theorem Runs.exists_end {p : Program α} {es : List Exchange} (h : p.Runs es none) :
    ∃ more a, p.Runs (es ++ more) (some a) := by
  generalize hx : (none : Option α) = x at h
  induction h with
  | cut p => exact p.exists_runs
  | done => cases hx
  | asks hview _ ih =>
    obtain ⟨more, a, h⟩ := ih hx
    exact ⟨more, a, .asks hview h⟩
  | enters hview _ ih =>
    obtain ⟨more, a, h⟩ := ih hx
    exact ⟨more, a, .enters hview h⟩

/-- Every run can be brought to an end, and one that has come to it is there already. -/
theorem Runs.exists_completion {p : Program α} {es : List Exchange} {x : Option α}
    (h : p.Runs es x) :
    ∃ more a, p.Runs (es ++ more) (some a) ∧ (x = none ∨ more = [] ∧ x = some a) := by
  cases x with
  | none =>
    obtain ⟨more, a, hend⟩ := h.exists_end
    exact ⟨more, a, hend, .inl rfl⟩
  | some a => exact ⟨[], a, by rwa [List.append_nil], .inr ⟨rfl, rfl⟩⟩

theorem runs_done_iff {a b : α} {es : List Exchange} :
    (Program.done a).Runs es (some b) ↔ es = [] ∧ b = a := by
  constructor
  · intro h
    obtain ⟨hes, hb⟩ := h.done_inv
    exact ⟨hes, by simpa using hb⟩
  · rintro ⟨rfl, rfl⟩
    exact .done rfl

/-- A program that asks for an effect runs by an exchange, whose reply decides what follows. -/
theorem runs_perform_iff {e : Effect} {next : e.Reply → Program α} {es : List Exchange} {a : α} :
    (perform e next).Runs es (some a) ↔
      ∃ reply es', es = ⟨e, reply⟩ :: es' ∧ (next reply).Runs es' (some a) := by
  constructor
  · intro h
    rcases h.perform_inv with ⟨-, hcut⟩ | hrun
    · cases hcut
    · exact hrun
  · rintro ⟨reply, es', rfl, hrun⟩
    exact .asks rfl hrun

/-- Passing the gate is no exchange. -/
theorem runs_enter_iff {name : String} {op : Operation} {next : Program α} {es : List Exchange}
    {a : α} : (enter name op next).Runs es (some a) ↔ next.Runs es (some a) := by
  constructor
  · intro h
    cases h with
    | done hview => cases hview
    | asks hview => cases hview
    | enters hview hnext =>
      cases hview
      exact hnext
  · exact fun h => .enters rfl h

/-- A conflict wait that asks for something goes on with the reply. -/
theorem Runs.await_asks_inv {w : Conflict.Wait} {next : Conflict.Verdict → Program α} {e : Effect}
    {after : e.Reply → Conflict.Wait} (hview : w.view = .asks e after) {es : List Exchange} {a : α}
    (h : (await w next).Runs es (some a)) :
    ∃ reply es', es = ⟨e, reply⟩ :: es' ∧ (await (after reply) next).Runs es' (some a) := by
  have hsame : (await w next).view = (perform e fun r => await (after r) next).view := by
    simp only [Program.view, hview]
  exact runs_perform_iff.1 (h.of_view_eq hsame)

/-- A conflict wait that is over goes on with its verdict. -/
theorem Runs.await_ended_inv {w : Conflict.Wait} {next : Conflict.Verdict → Program α}
    {v : Conflict.Verdict} (hview : w.view = .ended v) {es : List Exchange} {a : α}
    (h : (await w next).Runs es (some a)) : (next v).Runs es (some a) :=
  h.of_view_eq (by simp only [Program.view, hview])

end Program

namespace Workflow

variable {α β : Type} {es : List Exchange}

def Ends (w : Workflow α) (es : List Exchange) (x : Except Failure α) : Prop :=
  w.run.Runs es (some x)

/-- A trace that has come to a result is one of a workflow that has ended. -/
theorem ends_of_trace {World : Type} {perform : World → (e : Effect) → e.Reply × World} {fuel : Nat}
    {w : Workflow α} {world : World} {x : Except Failure α}
    (h : (Program.trace perform fuel w.run world).outcome = some x) :
    Ends w (Program.trace perform fuel w.run world).exchanges x := by
  unfold Ends
  rw [← h]
  exact Program.trace_runs perform fuel w.run world

theorem ends_pure_iff {a : α} {x : Except Failure α} :
    Ends (pure a) es x ↔ es = [] ∧ x = .ok a :=
  Program.runs_done_iff

/-- A result that is there already takes no exchange. -/
theorem ends_ofExcept_iff {result x : Except Failure α} :
    Ends (ofExcept result) es x ↔ es = [] ∧ x = result :=
  Program.runs_done_iff

theorem ends_fail_iff {f : Failure} {x : Except Failure α} :
    Ends (fail f) es x ↔ es = [] ∧ x = .error f :=
  ends_ofExcept_iff

/-- One workflow after the other ends with the failure of the first, or goes through it and on. -/
theorem ends_bind_iff {w : Workflow α} {f : α → Workflow β} {x : Except Failure β} :
    Ends (w >>= f) es x ↔
      (∃ e, x = .error e ∧ Ends w es (.error e)) ∨
        ∃ a es₁ es₂, es = es₁ ++ es₂ ∧ Ends w es₁ (.ok a) ∧ Ends (f a) es₂ x := by
  constructor
  · intro h
    rcases Program.Runs.andThen_inv h with ⟨-, hcut⟩ | ⟨result, es₁, es₂, rfl, hrun, hrest⟩
    · cases hcut
    cases result with
    | ok a => exact .inr ⟨a, es₁, es₂, rfl, hrun, hrest⟩
    | error e =>
      obtain ⟨rfl, rfl⟩ := Program.runs_done_iff.1 hrest
      exact .inl ⟨e, rfl, by rwa [List.append_nil]⟩
  · rintro (⟨e, rfl, hrun⟩ | ⟨a, es₁, es₂, rfl, hrun, hrest⟩)
    · rw [← List.append_nil es]
      exact hrun.andThen (.done rfl)
    · exact hrun.andThen hrest

/-- A step whose result is known asks for nothing. -/
theorem ends_ofExcept_bind_iff {result : Except Failure α} {f : α → Workflow β}
    {x : Except Failure β} :
    Ends (ofExcept result >>= f) es x ↔ match result with
      | .error e => es = [] ∧ x = .error e
      | .ok a => Ends (f a) es x := by
  cases result with
  | error e => exact ends_ofExcept_iff
  | ok a => rfl

/-- A call whose failure is passed on. -/
theorem ends_call_iff {c : Call} {x : c.Reply} : Ends (call c) es x ↔ es = [⟨.call c, x⟩] := by
  constructor
  · intro h
    obtain ⟨reply, es', rfl, hdone⟩ := Program.runs_perform_iff.1 h
    obtain ⟨rfl, rfl⟩ := Program.runs_done_iff.1 hdone
    rfl
  · rintro rfl
    exact .asks rfl (.done rfl)

/-- A call whose failure is passed on, and what follows. -/
theorem ends_call_bind_iff {c : Call} {f : c.Answer → Workflow β} {x : Except Failure β} :
    Ends (call c >>= f) es x ↔
      (∃ e, x = .error e ∧ es = [⟨.call c, Except.error e⟩]) ∨
        ∃ a es', es = ⟨.call c, Except.ok a⟩ :: es' ∧ Ends (f a) es' x := by
  rw [ends_bind_iff]
  constructor
  · rintro (⟨e, rfl, h⟩ | ⟨a, es₁, es₂, rfl, h, hrest⟩)
    · exact .inl ⟨e, rfl, ends_call_iff.1 h⟩
    · obtain rfl := ends_call_iff.1 h
      exact .inr ⟨a, es₂, rfl, hrest⟩
  · rintro (⟨e, rfl, rfl⟩ | ⟨a, es', rfl, hrest⟩)
    · exact .inl ⟨e, rfl, ends_call_iff.2 rfl⟩
    · exact .inr ⟨a, [⟨.call c, Except.ok a⟩], es', rfl, ends_call_iff.2 rfl, hrest⟩

/-- An effect that is asked for its reply, and what follows. -/
theorem ends_perform_bind_iff {e : Effect} {f : e.Reply → Workflow β} {x : Except Failure β} :
    Ends (perform e >>= f) es x ↔ ∃ reply es', es = ⟨e, reply⟩ :: es' ∧ Ends (f reply) es' x :=
  Program.runs_perform_iff

/-- A call that is made for its reply, and what follows. -/
theorem ends_attempt_bind_iff {c : Call} {f : c.Reply → Workflow β} {x : Except Failure β} :
    Ends (attempt c >>= f) es x ↔
      ∃ reply : c.Reply, ∃ es', es = ⟨.call c, reply⟩ :: es' ∧ Ends (f reply) es' x :=
  ends_perform_bind_iff

/-- The removal of a directory, and what follows. -/
theorem ends_removeDirectory_bind_iff {path : Path} {f : Except FileError Unit → Workflow β}
    {x : Except Failure β} :
    Ends (perform (.removeDirectory path) >>= f) es x ↔
      ∃ (removed : Except FileError Unit) (es' : _),
        es = ⟨.removeDirectory path, removed⟩ :: es' ∧ Ends (f removed) es' x :=
  ends_perform_bind_iff

/-- A conflict wait reads the clock and asks for the volume at once. If the reply settles the matter,
the wait is over. -/
theorem ends_await_start {name : String} {host : Host} {kind : Conflict.Kind} {tick timeout : Nat}
    {x : Except Failure Conflict.Verdict}
    (h : Ends (await (.start name host kind tick timeout)) es x) :
    ∃ (time : Nat) (reply : Except Failure Provider.Response) (rest : _),
      es = ⟨.now, time⟩ :: ⟨.call (.provider .get (.named name)), reply⟩ :: rest ∧
        ∀ verdict, Conflict.judgeReply name host reply = some verdict → rest = [] := by
  obtain ⟨time, es₁, rfl, hprobe⟩ := Program.Runs.await_asks_inv rfl h
  obtain ⟨reply, es₂, rfl, hend⟩ := Program.Runs.await_asks_inv rfl hprobe
  refine ⟨time, reply, es₂, rfl, fun verdict hverdict => ?_⟩
  let asking : Conflict.Wait :=
    ⟨name, host, kind, ⟨tick, .probing (Poll.deadline? time timeout)⟩, none⟩
  have hover := asking.view_afterProbe (Poll.deadline? time timeout) hverdict
  exact (Program.runs_done_iff.1 (hend.await_ended_inv hover)).1

/-- A conflict wait whose first question settles the matter. -/
theorem ends_await_of_settled {name : String} {host : Host} (kind : Conflict.Kind)
    (tick timeout time : Nat) {reply : Except Failure Provider.Response}
    {verdict : Conflict.Verdict} (h : Conflict.judgeReply name host reply = some verdict) :
    Ends (await (.start name host kind tick timeout))
      [⟨.now, time⟩, ⟨.call (.provider .get (.named name)), reply⟩] (.ok verdict) := by
  let asking : Conflict.Wait :=
    ⟨name, host, kind, ⟨tick, .probing (Poll.deadline? time timeout)⟩, none⟩
  have hover := asking.view_afterProbe (Poll.deadline? time timeout) h
  exact .asks rfl (.asks rfl (.done (by simp only [Program.view]; exact hover ▸ rfl)))

/-- A conflict wait does not fail. -/
theorem ends_await {w : Conflict.Wait} {x : Except Failure Conflict.Verdict}
    (h : Ends (await w) es x) : ∃ v, x = .ok v := by
  rcases Program.Runs.andThen_inv h with ⟨-, hcut⟩ | ⟨v, es₁, es₂, -, -, hdone⟩
  · cases hcut
  · exact ⟨v, (Program.runs_done_iff.1 hdone).2⟩

/-- A workflow that is run for its result does not fail. -/
theorem ends_result {w : Workflow α} {x : Except Failure (Except Failure α)}
    (h : Ends (result w) es x) : ∃ y, x = .ok y ∧ Ends w es y := by
  rcases Program.Runs.andThen_inv h with ⟨-, hcut⟩ | ⟨y, es₁, es₂, rfl, hw, hdone⟩
  · cases hcut
  · obtain ⟨rfl, rfl⟩ := Program.runs_done_iff.1 hdone
    exact ⟨y, rfl, by rwa [List.append_nil]⟩

/-- A workflow that is run for its result, and what follows. -/
theorem ends_result_bind_iff {w : Workflow α} {f : Except Failure α → Workflow β}
    {x : Except Failure β} :
    Ends (result w >>= f) es x ↔
      ∃ y es₁ es₂, es = es₁ ++ es₂ ∧ Ends w es₁ y ∧ Ends (f y) es₂ x := by
  have hrun : (result w >>= f).run = w.run.andThen fun y => (f y).run :=
    Program.andThen_assoc _ _ _
  unfold Ends
  rw [hrun]
  constructor
  · intro h
    rcases h.andThen_inv with ⟨-, hcut⟩ | ⟨y, es₁, es₂, rfl, hy, hrest⟩
    · cases hcut
    · exact ⟨y, es₁, es₂, rfl, hy, hrest⟩
  · rintro ⟨y, es₁, es₂, rfl, hy, hrest⟩
    exact hy.andThen hrest

/-- Passing the gate is no exchange. -/
theorem ends_enter_bind_iff {name : String} {op : Operation} {f : Unit → Workflow β}
    {x : Except Failure β} : Ends (enter name op >>= f) es x ↔ Ends (f ()) es x :=
  Program.runs_enter_iff

end Workflow

/-- A command has been answered when its workflow has ended. -/
theorem Command.runs_answering_iff {α β : Type} {w : Workflow α} {respond : Except Failure α → β}
    {es : List Exchange} {y : β} :
    (answering w respond).Runs es (some y) ↔ ∃ x, Workflow.Ends w es x ∧ y = respond x := by
  constructor
  · intro h
    rcases h.andThen_inv with ⟨-, hcut⟩ | ⟨x, es₁, es₂, rfl, hw, hrest⟩
    · cases hcut
    · obtain ⟨rfl, rfl⟩ := Program.runs_done_iff.1 hrest
      exact ⟨x, by rwa [List.append_nil], rfl⟩
  · rintro ⟨x, hw, rfl⟩
    rw [← List.append_nil es]
    exact Program.Runs.andThen hw (.done rfl)

end VolumeLifecycle
