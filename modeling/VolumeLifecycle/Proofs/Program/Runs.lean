import VolumeLifecycle.Proofs.Program.Discipline

namespace VolumeLifecycle

/-- Something that a program has asked for, and the reply. -/
structure Exchange where
  effect : Effect
  reply : effect.Reply

namespace Program

variable {α β : Type}

/-- The exchanges of a run, and the value with which the program ended. A run that was cut off has
none. -/
inductive Runs : Program α → List Exchange → Option α → Prop where
  | cut (p : Program α) : Runs p [] none
  | done {p : Program α} {a : α} (hview : p.view = .done a) : Runs p [] (some a)
  | asks {p : Program α} {e : Effect} {next : e.Reply → Program α} {reply : e.Reply}
      {es : List Exchange} {x : Option α} (hview : p.view = .asks e next)
      (hnext : (next reply).Runs es x) : Runs p (⟨e, reply⟩ :: es) x
  | enters {p : Program α} {name : String} {op : Operation} {next : Program α}
      {es : List Exchange} {x : Option α} (hview : p.view = .enters name op next)
      (hnext : next.Runs es x) : Runs p es x

/-- What one program after the other does next. -/
theorem view_andThen (p : Program α) (f : α → Program β) :
    (p.andThen f).view = match p.view with
      | .done a => (f a).view
      | .asks e next => .asks e fun r => (next r).andThen f
      | .enters name op next => .enters name op (next.andThen f) := by
  induction p with
  | done a => rfl
  | perform e next _ => rfl
  | await w next ih =>
    rw [Program.andThen, Program.view, Program.view]
    cases hview : w.view with
    | ended v => exact ih v
    | asks e after => rfl
  | enter name op next _ => rfl

/-- A run of one program after the other stops in the first, or goes through it and on. -/
theorem Runs.andThen_inv {p : Program α} {f : α → Program β} {es : List Exchange} {x : Option β}
    (h : (p.andThen f).Runs es x) :
    (p.Runs es none ∧ x = none) ∨
      ∃ a es₁ es₂, es = es₁ ++ es₂ ∧ p.Runs es₁ (some a) ∧ (f a).Runs es₂ x := by
  generalize hq : p.andThen f = q at h
  induction h generalizing p with
  | cut q => exact .inl ⟨.cut p, rfl⟩
  | done hview =>
    rw [← hq, view_andThen] at hview
    cases hp : p.view with
    | done a => exact .inr ⟨a, [], [], rfl, .done hp, .done (by simpa [hp] using hview)⟩
    | asks e next => simp [hp] at hview
    | enters name op next => simp [hp] at hview
  | asks hview hnext ih =>
    rw [← hq, view_andThen] at hview
    cases hp : p.view with
    | done a =>
      exact .inr ⟨a, [], _, rfl, .done hp, .asks (by simpa [hp] using hview) hnext⟩
    | asks e next =>
      simp only [hp, View.asks.injEq] at hview
      obtain ⟨rfl, hnext'⟩ := hview
      obtain rfl := eq_of_heq hnext'
      rcases ih rfl with ⟨hrun, hx⟩ | ⟨a, es₁, es₂, rfl, hrun, hrest⟩
      · exact .inl ⟨.asks hp hrun, hx⟩
      · exact .inr ⟨a, _ :: es₁, es₂, rfl, .asks hp hrun, hrest⟩
    | enters name op next => simp [hp] at hview
  | enters hview hnext ih =>
    rw [← hq, view_andThen] at hview
    cases hp : p.view with
    | done a =>
      exact .inr ⟨a, [], _, rfl, .done hp, .enters (by simpa [hp] using hview) hnext⟩
    | asks e next => simp [hp] at hview
    | enters name op next =>
      simp only [hp, View.enters.injEq] at hview
      obtain ⟨rfl, rfl, hnext'⟩ := hview
      rcases ih hnext' with ⟨hrun, hx⟩ | ⟨a, es₁, es₂, rfl, hrun, hrest⟩
      · exact .inl ⟨.enters hp hrun, hx⟩
      · exact .inr ⟨a, es₁, es₂, rfl, .enters hp hrun, hrest⟩

/-- A program that is done asks for nothing. -/
theorem Runs.done_inv {a : α} {es : List Exchange} {x : Option α} (h : Runs (.done a) es x) :
    es = [] ∧ (x = none ∨ x = some a) := by
  cases h with
  | cut => exact ⟨rfl, .inl rfl⟩
  | done hview => cases hview; exact ⟨rfl, .inr rfl⟩
  | asks hview => cases hview
  | enters hview => cases hview

/-- A program that asks for something gets no reply, or one with which it goes on. -/
theorem Runs.perform_inv {e : Effect} {next : e.Reply → Program α} {es : List Exchange}
    {x : Option α} (h : Runs (.perform e next) es x) :
    (es = [] ∧ x = none) ∨ ∃ reply es', es = ⟨e, reply⟩ :: es' ∧ (next reply).Runs es' x := by
  cases h with
  | cut => exact .inl ⟨rfl, rfl⟩
  | done hview => cases hview
  | asks hview hnext => cases hview; exact .inr ⟨_, _, rfl, hnext⟩
  | enters hview => cases hview

/-- What a program does in a world in which nobody else acts, as far as a number of steps goes. -/
structure Trace (α World : Type) where
  exchanges : List Exchange
  outcome : Option α
  world : World

/-- The exchanges of a program with a world in which nobody else acts. -/
def trace {World : Type} (perform : World → (e : Effect) → e.Reply × World) :
    Nat → Program α → World → Trace α World
  | 0, _, w => ⟨[], none, w⟩
  | fuel + 1, p, w =>
    match p.view with
    | .done a => ⟨[], some a, w⟩
    | .asks e next =>
      let (reply, w) := perform w e
      let rest := trace perform fuel (next reply) w
      { rest with exchanges := ⟨e, reply⟩ :: rest.exchanges }
    | .enters _ _ next => trace perform fuel next w

/-- What a program does in a world is a run of it. -/
theorem trace_runs {World : Type} (perform : World → (e : Effect) → e.Reply × World) (fuel : Nat)
    (p : Program α) (w : World) :
    p.Runs (trace perform fuel p w).exchanges (trace perform fuel p w).outcome := by
  induction fuel generalizing p w with
  | zero => exact .cut p
  | succ fuel ih =>
    rw [trace]
    cases hview : p.view with
    | done a => exact .done hview
    | asks e next => exact .asks hview (ih _ _)
    | enters name op next => exact .enters hview (ih _ _)

def AllCalls (ok : Call → Prop) (es : List Exchange) : Prop :=
  ∀ ex ∈ es, ∀ c, ex.effect = .call c → ok c

theorem AllCalls.nil {ok : Call → Prop} : AllCalls ok [] := fun ex hex => by cases hex

theorem AllCalls.mono {ok ok' : Call → Prop} (hok : ∀ c, ok c → ok' c) {es : List Exchange}
    (h : AllCalls ok es) : AllCalls ok' es :=
  fun ex hex c hc => hok c (h ex hex c hc)

theorem AllCalls.append {ok : Call → Prop} {es es' : List Exchange} (h : AllCalls ok es)
    (h' : AllCalls ok es') : AllCalls ok (es ++ es') := fun ex hex =>
  (List.mem_append.1 hex).elim (h ex) (h' ex)

/-- The calls of a run are those that the program may make. -/
theorem Keeps.allCalls {free : Call → Prop} {p : Program α} (h : p.Keeps free)
    {es : List Exchange} {x : Option α} (hrun : p.Runs es x) : AllCalls free es := by
  induction hrun with
  | cut => exact .nil
  | done => exact .nil
  | asks hview _ ih =>
    have hasks := h.view
    rw [hview] at hasks
    intro ex hex
    rcases List.mem_cons.1 hex with rfl | hex
    · exact hasks.1
    · exact ih (hasks.2 _) ex hex
  | enters hview =>
    have henters := h.view
    rw [hview] at henters
    exact henters.elim

/-- The calls of a run are those that the program may make on either side of the gate. -/
theorem Passes.allCalls {free inside ok : Call → Prop} {target : Option (String × Operation)}
    (hfree : ∀ c, free c → ok c) (hinside : ∀ c, inside c → ok c) {p : Program α}
    (h : p.Passes free inside target) {es : List Exchange} {x : Option α} (hrun : p.Runs es x) :
    AllCalls ok es := by
  induction hrun with
  | cut => exact .nil
  | done => exact .nil
  | asks hview _ ih =>
    have hasks := h.view
    rw [hview] at hasks
    intro ex hex
    rcases List.mem_cons.1 hex with rfl | hex
    · exact fun c hc => hfree c (hasks.1 c hc)
    · exact ih (hasks.2 _) ex hex
  | enters hview hnext _ =>
    have henters := h.view
    rw [hview] at henters
    exact (henters.2.allCalls hnext).mono hinside

end Program

namespace Workflow

open Program

variable {α β : Type}

/-- A run of one workflow after the other stops in the first without a value, or goes through it
and on. -/
theorem bind_inv {w : Workflow α} {f : α → Workflow β} {es : List Exchange}
    {x : Option (Except Failure β)} (h : Program.Runs (w >>= f).run es x) :
    ((∃ y, w.run.Runs es y) ∧ ∀ b, x ≠ some (.ok b)) ∨
      ∃ a es₁ es₂, es = es₁ ++ es₂ ∧ w.run.Runs es₁ (some (.ok a)) ∧ (f a).run.Runs es₂ x := by
  rcases Program.Runs.andThen_inv h with ⟨hrun, rfl⟩ | ⟨result, es₁, es₂, rfl, hrun, hrest⟩
  · exact .inl ⟨⟨_, hrun⟩, nofun⟩
  · cases result with
    | ok a => exact .inr ⟨a, es₁, es₂, rfl, hrun, hrest⟩
    | error e =>
      replace hrest : Program.Runs (.done (.error e)) es₂ x := hrest
      obtain ⟨rfl, hx⟩ := hrest.done_inv
      rw [List.append_nil]
      refine .inl ⟨⟨_, hrun⟩, fun b hb => ?_⟩
      rcases hx with rfl | rfl <;> cases hb

/-- A call gets no reply, or one that is passed on. -/
theorem attempt_inv {c : Call} {es : List Exchange} {x : Option (Except Failure c.Reply)}
    (h : Program.Runs (attempt c).run es x) :
    (es = [] ∧ x = none) ∨
      ∃ reply, es = [⟨.call c, reply⟩] ∧ (x = none ∨ x = some (.ok reply)) := by
  rcases Program.Runs.perform_inv h with hcut | ⟨reply, es', rfl, hnext⟩
  · exact .inl hcut
  · replace hnext : Program.Runs (.done (.ok reply)) es' x := hnext
    obtain ⟨rfl, hx⟩ := hnext.done_inv
    exact .inr ⟨reply, rfl, hx⟩

/-- A call whose failure is passed on gets no reply, or one that is the outcome. -/
theorem call_inv {c : Call} {es : List Exchange} {x : Option (Except Failure c.Answer)}
    (h : Program.Runs (call c).run es x) :
    (es = [] ∧ x = none) ∨
      ∃ reply : c.Reply, es = [⟨.call c, reply⟩] ∧ (x = none ∨ x = some reply) := by
  rcases Program.Runs.perform_inv h with hcut | ⟨reply, es', rfl, hnext⟩
  · exact .inl hcut
  · obtain ⟨rfl, hx⟩ := Program.Runs.done_inv hnext
    exact .inr ⟨reply, rfl, hx⟩

/-- A workflow that is run for its result. -/
theorem result_inv {w : Workflow α} {es : List Exchange}
    {x : Option (Except Failure (Except Failure α))} (h : Program.Runs (result w).run es x) :
    ∃ y, w.run.Runs es y ∧ (x = none ∨ ∃ r, y = some r ∧ x = some (.ok r)) := by
  rcases Program.Runs.andThen_inv h with ⟨hrun, rfl⟩ | ⟨r, es₁, es₂, rfl, hrun, hrest⟩
  · exact ⟨none, hrun, .inl rfl⟩
  · replace hrest : Program.Runs (.done (.ok r)) es₂ x := hrest
    obtain ⟨rfl, hx⟩ := hrest.done_inv
    rw [List.append_nil]
    exact ⟨some r, hrun, hx.imp_right fun hx => ⟨r, rfl, hx⟩⟩

end Workflow
end VolumeLifecycle
