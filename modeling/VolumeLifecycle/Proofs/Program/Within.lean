import VolumeLifecycle.Proofs.Program.Runs

namespace VolumeLifecycle

/-- A conflict wait asks for the time and for sleep, and makes its two calls. -/
theorem Conflict.Wait.asks_of_view {w : Wait} {e : Effect} {after : e.Reply → Wait}
    (h : w.view = .asks e after) :
    e = .now ∨ (∃ duration, e = .sleep duration) ∨ e = .call w.probeCall ∨ e = .call w.resetCall := by
  unfold Wait.view at h
  split at h <;> cases h
  · exact .inl rfl
  · exact .inr (.inr (.inl rfl))
  · exact .inr (.inl ⟨_, rfl⟩)
  · exact .inr (.inr (.inr rfl))

namespace Program

variable {α β : Type} {ok : Effect → Prop}

def Within (ok : Effect → Prop) : Program α → Prop
  | done _ => True
  | perform e next => ok e ∧ ∀ r, (next r).Within ok
  | await _ next =>
    (∀ (w : Conflict.Wait) e after, w.view = .asks e after → ok e) ∧ ∀ v, (next v).Within ok
  | enter _ _ next => next.Within ok

theorem Within.mono {ok' : Effect → Prop} (hok : ∀ e, ok e → ok' e) {p : Program α}
    (h : p.Within ok) : p.Within ok' := by
  induction p with
  | done a => trivial
  | perform e next ih => exact ⟨hok e h.1, fun r => ih r (h.2 r)⟩
  | await w next ih => exact ⟨fun w e after hw => hok e (h.1 w e after hw), fun v => ih v (h.2 v)⟩
  | enter name op next ih => exact ih h

theorem within_of_forall (h : ∀ e, ok e) (p : Program α) : p.Within ok := by
  induction p with
  | done a => trivial
  | perform e next ih => exact ⟨h e, ih⟩
  | await w next ih => exact ⟨fun _ e _ _ => h e, ih⟩
  | enter name op next ih => exact ih

theorem Within.andThen {p : Program α} (h : p.Within ok) {f : α → Program β}
    (hf : ∀ a, (f a).Within ok) : (p.andThen f).Within ok := by
  induction p with
  | done a => exact hf a
  | perform e next ih => exact ⟨h.1, fun r => ih r (h.2 r)⟩
  | await w next ih => exact ⟨h.1, fun v => ih v (h.2 v)⟩
  | enter name op next ih => exact ih h

/-- What a program does next, judged like the program itself. -/
def View.Within (ok : Effect → Prop) : View α → Prop
  | .done _ => True
  | .asks e next => ok e ∧ ∀ r, (next r).Within ok
  | .enters _ _ next => next.Within ok

theorem Within.view {p : Program α} (h : p.Within ok) : p.view.Within ok := by
  induction p with
  | done a => exact h
  | perform e next _ => exact h
  | await w next ih =>
    unfold Program.view
    split
    · exact ih _ (h.2 _)
    · next e after hview => exact ⟨h.1 w e after hview, fun _ => h⟩
  | enter name op next _ => exact h

/-- The exchanges of a run are about effects that the program may ask for. -/
theorem Within.effects {p : Program α} (h : p.Within ok) {es : List Exchange} {x : Option α}
    (hrun : p.Runs es x) : ∀ ex ∈ es, ok ex.effect := by
  induction hrun with
  | cut => exact List.forall_mem_nil _
  | done => exact List.forall_mem_nil _
  | asks hview _ ih =>
    have hasks := h.view
    rw [hview] at hasks
    intro ex hex
    rcases List.mem_cons.1 hex with rfl | hex
    · exact hasks.1
    · exact ih (hasks.2 _) ex hex
  | enters hview _ ih =>
    have henters := h.view
    rw [hview] at henters
    exact ih henters

end Program

namespace Workflow

open Program (Within)

variable {α β : Type} {ok : Effect → Prop}

theorem within_pure (a : α) : Within ok (pure a : Workflow α).run := trivial

theorem within_ofExcept (x : Except Failure α) : Within ok (ofExcept x).run := trivial

theorem within_fail (f : Failure) : Within ok (fail f : Workflow α).run := trivial

theorem within_perform {e : Effect} (he : ok e) : Within ok (perform e).run :=
  ⟨he, fun _ => trivial⟩

theorem within_call {c : Call} (hc : ok (.call c)) : Within ok (call c).run :=
  ⟨hc, fun _ => trivial⟩

theorem within_attempt {c : Call} (hc : ok (.call c)) : Within ok (attempt c).run :=
  within_perform hc

theorem within_describeHost (h : ok .describeHost) : Within ok describeHost.run :=
  ⟨h, fun _ => trivial⟩

/-- A conflict wait asks for nothing but what its loop asks for. -/
theorem within_await (hwait : ∀ (w : Conflict.Wait) e after, w.view = .asks e after → ok e)
    (w : Conflict.Wait) : Within ok (await w).run :=
  ⟨hwait, fun _ => trivial⟩

theorem within_result {w : Workflow α} (h : w.run.Within ok) : Within ok (result w).run :=
  h.andThen fun _ => trivial

/-- What holds of the effects of two workflows holds of those of one after the other. -/
theorem within_bind {w : Workflow α} {f : α → Workflow β} (hw : w.run.Within ok)
    (hf : ∀ a, (f a).run.Within ok) : Within ok (w >>= f).run := by
  refine Program.Within.andThen hw fun result => ?_
  cases result with
  | ok a => exact hf a
  | error e => trivial

end Workflow
end VolumeLifecycle
