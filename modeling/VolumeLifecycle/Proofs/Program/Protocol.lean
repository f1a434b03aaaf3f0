import VolumeLifecycle.Proofs.Program.Discipline

namespace VolumeLifecycle

/-- A protocol with stances of type `σ`. It says what may be asked for at a stance, at which stance
the program then waits for the reply, and to which stances a reply can lead. Replies that lead
nowhere are not considered. -/
structure Protocol (σ : Type) where
  asks : σ → Effect → σ → Prop
  after : σ → (e : Effect) → e.Reply → σ → Prop
  enters : σ → String → Operation → σ → Prop

variable {σ α β : Type} {π : Protocol σ}

/-- Whether a conflict wait is always allowed to go on at a stance, and does not leave it. -/
def Protocol.Idles (π : Protocol σ) (s : σ) (name : String) : Prop :=
  ∀ w : Conflict.Wait, w.name = name → ∀ e next, w.view = .asks e next →
    ∃ s₁, π.asks s e s₁ ∧ ∀ reply s', π.after s₁ e reply s' → s' = s

namespace Program

/-- A program obeys a protocol from a stance on, and ends at a stance and with a value that are
related as they should be. -/
def Obeys (π : Protocol σ) (post : σ → α → Prop) : σ → Program α → Prop
  | s, done a => post s a
  | s, perform e next =>
    ∃ s₁, π.asks s e s₁ ∧ ∀ reply s', π.after s₁ e reply s' → Obeys π post s' (next reply)
  | s, await w next => π.Idles s w.name ∧ ∀ v, Obeys π post s (next v)
  | s, enter name op next => ∃ s', π.enters s name op s' ∧ Obeys π post s' next

/-- What a program does next, judged like the program itself. -/
def View.Obeys (π : Protocol σ) (post : σ → α → Prop) (s : σ) : View α → Prop
  | .done a => post s a
  | .asks e next =>
    ∃ s₁, π.asks s e s₁ ∧ ∀ reply s', π.after s₁ e reply s' → (next reply).Obeys π post s'
  | .enters name op next => ∃ s', π.enters s name op s' ∧ next.Obeys π post s'

/-- A conflict wait goes on under its name. -/
theorem name_of_wait_view {w : Conflict.Wait} {e : Effect} {after : e.Reply → Conflict.Wait}
    (h : w.view = .asks e after) (reply : e.Reply) : (after reply).name = w.name := by
  unfold Conflict.Wait.view at h
  split at h <;> cases h <;> rfl

theorem Obeys.view {post : σ → α → Prop} {s : σ} {p : Program α} (h : p.Obeys π post s) :
    p.view.Obeys π post s := by
  induction p with
  | done a => exact h
  | perform e next _ => exact h
  | await w next ih =>
    unfold Program.view
    split
    · exact ih _ (h.2 _)
    · next e after hview =>
      obtain ⟨s₁, hasks, hafter⟩ := h.1 w rfl e after hview
      refine ⟨s₁, hasks, fun reply s' hreply => ?_⟩
      rw [hafter reply s' hreply]
      refine ⟨?_, h.2⟩
      rw [name_of_wait_view hview]
      exact h.1
  | enter name op next _ => exact h

theorem Obeys.andThen {mid : σ → α → Prop} {post : σ → β → Prop} {s : σ} {p : Program α}
    (h : p.Obeys π mid s) {f : α → Program β} (hf : ∀ s' a, mid s' a → (f a).Obeys π post s') :
    (p.andThen f).Obeys π post s := by
  induction p generalizing s with
  | done a => exact hf s a h
  | perform e next ih =>
    obtain ⟨s₁, hasks, hafter⟩ := h
    exact ⟨s₁, hasks, fun reply s' hreply => ih reply (hafter reply s' hreply)⟩
  | await w next ih => exact ⟨h.1, fun v => ih v (h.2 v)⟩
  | enter name op next ih =>
    obtain ⟨s', henters, hnext⟩ := h
    exact ⟨s', henters, ih hnext⟩

end Program

namespace Workflow

open Program (Obeys)

def Goes (π : Protocol σ) (post : σ → α → Prop) (s : σ) (w : Workflow α) : Prop :=
  Obeys π (fun s' x => ∃ a, x = .ok a ∧ post s' a) s w.run

variable {post : σ → β → Prop} {mid : σ → α → Prop} {s : σ}

theorem goes_pure {b : β} (h : post s b) : Goes π post s (pure b) := ⟨b, rfl, h⟩

/-- Workflows one after the other obey a protocol, the second one from where the first has ended. -/
theorem goes_bind {w : Workflow α} {f : α → Workflow β} (hw : Goes π mid s w)
    (hf : ∀ s' a, mid s' a → Goes π post s' (f a)) : Goes π post s (w >>= f) := by
  refine Program.Obeys.andThen hw fun s' x hx => ?_
  obtain ⟨a, rfl, ha⟩ := hx
  exact hf s' a ha

theorem goes_result {w : Workflow α} (h : Goes π mid s w) :
    Goes π (fun s' x => ∃ a, x = .ok a ∧ mid s' a) s (result w) :=
  Program.Obeys.andThen h fun _ x hx => ⟨x, rfl, hx⟩

/-- A result that is there already changes no stance. -/
theorem goes_ofExcept {result : Except Failure α} {a : α} (ha : result = .ok a)
    {f : α → Workflow β} (h : Goes π post s (f a)) : Goes π post s (ofExcept result >>= f) := by
  subst ha
  exact h

/-- A call for its answer, if every reply that leads anywhere is an answer. -/
theorem goes_call {c : Call} {s₁ : σ} (hasks : π.asks s (.call c) s₁) {f : c.Answer → Workflow β}
    (hafter : ∀ (reply : c.Reply) s', π.after s₁ (.call c) reply s' →
      ∃ a, reply = .ok a ∧ Goes π post s' (f a)) : Goes π post s (call c >>= f) := by
  refine ⟨s₁, hasks, fun reply s' hreply => ?_⟩
  obtain ⟨a, rfl, ha⟩ := hafter reply s' hreply
  exact ha

/-- A call for its reply. -/
theorem goes_attempt {c : Call} {s₁ : σ} (hasks : π.asks s (.call c) s₁) {f : c.Reply → Workflow β}
    (hafter : ∀ (reply : c.Reply) s', π.after s₁ (.call c) reply s' → Goes π post s' (f reply)) :
    Goes π post s (attempt c >>= f) :=
  ⟨s₁, hasks, hafter⟩

/-- The description of this node may be asked for where the protocol allows it and answers it. -/
theorem goes_describeHost {s₁ : σ} (hasks : π.asks s .describeHost s₁) {f : Host → Workflow β}
    (hafter : ∀ (reply : Except Failure Host) s', π.after s₁ .describeHost reply s' →
      ∃ host, reply = .ok host ∧ Goes π post s' (f host)) :
    Goes π post s (describeHost >>= f) := by
  refine ⟨s₁, hasks, fun reply s' hreply => ?_⟩
  obtain ⟨host, heq, h⟩ := hafter reply s' hreply
  subst heq
  exact h

/-- A conflict wait obeys a protocol that lets it idle. -/
theorem goes_await {w : Conflict.Wait} (hidles : π.Idles s w.name)
    {f : Conflict.Verdict → Workflow β} (h : ∀ v, Goes π post s (f v)) :
    Goes π post s (await w >>= f) :=
  ⟨hidles, h⟩

/-- The gate may be passed where the protocol says so. -/
theorem goes_enter {name : String} {op : Operation} {s' : σ} (henters : π.enters s name op s')
    {f : Unit → Workflow β} (h : Goes π post s' (f ())) : Goes π post s (enter name op >>= f) :=
  ⟨s', henters, h⟩

end Workflow
end VolumeLifecycle
