import VolumeLifecycle.Program.Basic

namespace VolumeLifecycle.Program

variable {α β : Type} {free inside : Call → Prop} {target : Option (String × Operation)}

/-- A program that does not pass the gate, and of which every call is free. -/
def Keeps (free : Call → Prop) : Program α → Prop
  | done _ => True
  | perform e next => (∀ c, e = .call c → free c) ∧ ∀ r, (next r).Keeps free
  | await _ next =>
    (∀ w : Conflict.Wait, free w.probeCall ∧ free w.resetCall) ∧ ∀ v, (next v).Keeps free
  | enter _ _ _ => False

/-- A program that passes the gate as it should or not at all, and not twice. Which calls it may make
depends on whether it has passed. -/
def Passes (free inside : Call → Prop) (target : Option (String × Operation)) : Program α → Prop
  | done _ => True
  | perform e next => (∀ c, e = .call c → free c) ∧ ∀ r, (next r).Passes free inside target
  | await _ next =>
    (∀ w : Conflict.Wait, free w.probeCall ∧ free w.resetCall) ∧
      ∀ v, (next v).Passes free inside target
  | enter name op next => target = some (name, op) ∧ next.Keeps inside

theorem Keeps.mono {free' : Call → Prop} (hfree : ∀ c, free c → free' c) {p : Program α}
    (h : p.Keeps free) : p.Keeps free' := by
  induction p with
  | done a => exact h
  | perform e next ih => exact ⟨fun c hc => hfree c (h.1 c hc), fun r => ih r (h.2 r)⟩
  | await w next ih =>
    exact ⟨fun w => ⟨hfree _ (h.1 w).1, hfree _ (h.1 w).2⟩, fun v => ih v (h.2 v)⟩
  | enter name op next _ => exact h

/-- A program that does not pass the gate passes it in no wrong way. -/
theorem Keeps.passes {p : Program α} (h : p.Keeps free) : p.Passes free inside target := by
  induction p with
  | done a => exact h
  | perform e next ih => exact ⟨h.1, fun r => ih r (h.2 r)⟩
  | await w next ih => exact ⟨h.1, fun v => ih v (h.2 v)⟩
  | enter name op next _ => exact h.elim

theorem Passes.mono {inside' : Call → Prop} {p : Program α} (h : p.Passes free inside target)
    (hinside : ∀ c, inside c → inside' c) : p.Passes free inside' target := by
  induction p with
  | done a => exact h
  | perform e next ih => exact ⟨h.1, fun r => ih r (h.2 r)⟩
  | await w next ih => exact ⟨h.1, fun v => ih v (h.2 v)⟩
  | enter name op next _ => exact ⟨h.1, h.2.mono hinside⟩

theorem Keeps.andThen {p : Program α} (h : p.Keeps free) {f : α → Program β}
    (hf : ∀ a, (f a).Keeps free) : (p.andThen f).Keeps free := by
  induction p with
  | done a => exact hf a
  | perform e next ih => exact ⟨h.1, fun r => ih r (h.2 r)⟩
  | await w next ih => exact ⟨h.1, fun v => ih v (h.2 v)⟩
  | enter name op next _ => exact h

/-- What follows a program that does not pass the gate may pass it. -/
theorem Keeps.andThen_passes {p : Program α} (h : p.Keeps free) {f : α → Program β}
    (hf : ∀ a, (f a).Passes free inside target) : (p.andThen f).Passes free inside target := by
  induction p with
  | done a => exact hf a
  | perform e next ih => exact ⟨h.1, fun r => ih r (h.2 r)⟩
  | await w next ih => exact ⟨h.1, fun v => ih v (h.2 v)⟩
  | enter name op next _ => exact h.elim

/-- What follows a program that may have passed the gate must not pass it. -/
theorem Passes.andThen {p : Program α} (h : p.Passes free inside target) {f : α → Program β}
    (hfree : ∀ a, (f a).Keeps free) (hinside : ∀ a, (f a).Keeps inside) :
    (p.andThen f).Passes free inside target := by
  induction p with
  | done a => exact (hfree a).passes
  | perform e next ih => exact ⟨h.1, fun r => ih r (h.2 r)⟩
  | await w next ih => exact ⟨h.1, fun v => ih v (h.2 v)⟩
  | enter name op next _ => exact ⟨h.1, h.2.andThen hinside⟩

/-- What a program does next, judged like the program itself. -/
def View.Keeps (free : Call → Prop) : View α → Prop
  | .done _ => True
  | .asks e next => (∀ c, e = .call c → free c) ∧ ∀ r, (next r).Keeps free
  | .enters _ _ _ => False

/-- What a program does next, judged like the program itself. -/
def View.Passes (free inside : Call → Prop) (target : Option (String × Operation)) :
    View α → Prop
  | .done _ => True
  | .asks e next => (∀ c, e = .call c → free c) ∧ ∀ r, (next r).Passes free inside target
  | .enters name op next => target = some (name, op) ∧ next.Keeps inside

/-- The only calls of a conflict wait are its probe and its reset. -/
theorem call_of_wait_view {w : Conflict.Wait} {e : Effect} {after : e.Reply → Conflict.Wait}
    (h : w.view = .asks e after) {c : Call} (hc : e = .call c) :
    c = w.probeCall ∨ c = w.resetCall := by
  subst hc
  unfold Conflict.Wait.view at h
  split at h <;> cases h
  · exact .inl rfl
  · exact .inr rfl

theorem Keeps.view {p : Program α} (h : p.Keeps free) : p.view.Keeps free := by
  induction p with
  | done a => exact h
  | perform e next _ => exact h
  | await w next ih =>
    unfold Program.view
    split
    · exact ih _ (h.2 _)
    · next e after hview =>
      refine ⟨fun c hc => ?_, fun r => h⟩
      rcases call_of_wait_view hview hc with rfl | rfl
      · exact (h.1 w).1
      · exact (h.1 w).2
  | enter name op next _ => exact h

theorem Passes.view {p : Program α} (h : p.Passes free inside target) :
    p.view.Passes free inside target := by
  induction p with
  | done a => exact h
  | perform e next _ => exact h
  | await w next ih =>
    unfold Program.view
    split
    · exact ih _ (h.2 _)
    · next e after hview =>
      refine ⟨fun c hc => ?_, fun r => h⟩
      rcases call_of_wait_view hview hc with rfl | rfl
      · exact (h.1 w).1
      · exact (h.1 w).2
  | enter name op next _ => exact h

end Program

namespace Workflow

open Program

variable {α β : Type} {free inside : Call → Prop} {target : Option (String × Operation)}

theorem keeps_pure (a : α) : Program.Keeps free (pure a : Workflow α).run := trivial

theorem keeps_ofExcept (x : Except Failure α) : Program.Keeps free (ofExcept x).run := trivial

theorem keeps_fail (f : Failure) : Program.Keeps free (fail f : Workflow α).run := trivial

theorem keeps_call {c : Call} (hc : free c) : Program.Keeps free (call c).run :=
  ⟨fun _ heq => Effect.call.inj heq ▸ hc, fun _ => trivial⟩

theorem keeps_attempt {c : Call} (hc : free c) : Program.Keeps free (attempt c).run :=
  ⟨fun _ heq => Effect.call.inj heq ▸ hc, fun _ => trivial⟩

theorem keeps_describeHost : Program.Keeps free describeHost.run :=
  ⟨fun _ heq => (nomatch heq), fun _ => trivial⟩

theorem keeps_removeDirectory (path : Path) :
    Program.Keeps free (perform (.removeDirectory path)).run :=
  ⟨fun _ heq => (nomatch heq), fun _ => trivial⟩

/-- A conflict wait makes no other calls than its probes and its reset. -/
theorem keeps_await (hwait : ∀ w : Conflict.Wait, free w.probeCall ∧ free w.resetCall)
    (w : Conflict.Wait) : Program.Keeps free (await w).run :=
  ⟨hwait, fun _ => trivial⟩

theorem keeps_result {w : Workflow α} (h : w.run.Keeps free) :
    Program.Keeps free (result w).run :=
  h.andThen fun _ => trivial

/-- Workflows one after the other stay on their side of the gate if each of them does. -/
theorem keeps_bind {w : Workflow α} {f : α → Workflow β} (hw : w.run.Keeps free)
    (hf : ∀ a, (f a).run.Keeps free) : Program.Keeps free (w >>= f).run := by
  refine Program.Keeps.andThen hw fun result => ?_
  cases result with
  | ok a => exact hf a
  | error e => trivial

/-- A workflow passes the gate once if a part of it does and what comes before stays outside. -/
theorem passes_bind {w : Workflow α} {f : α → Workflow β} (hw : w.run.Keeps free)
    (hf : ∀ a, (f a).run.Passes free inside target) :
    Program.Passes free inside target (w >>= f).run := by
  refine Program.Keeps.andThen_passes hw fun result => ?_
  cases result with
  | ok a => exact hf a
  | error e => trivial

/-- A workflow that passes the gate, and one that follows it inside. -/
theorem passes_enter {name : String} {op : Operation} {f : Unit → Workflow β}
    (hf : (f ()).run.Keeps inside) :
    Program.Passes free inside (some (name, op)) (enter name op >>= f).run :=
  ⟨rfl, hf⟩

end Workflow
end VolumeLifecycle
