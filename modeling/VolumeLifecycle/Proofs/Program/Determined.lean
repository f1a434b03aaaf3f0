import VolumeLifecycle.Proofs.Program.Performed
import VolumeLifecycle.Proofs.Program.Within

namespace VolumeLifecycle.Program

variable {α World : Type} {perform : World → (e : Effect) → e.Reply × World} {w w₁ w₂ : World}
  {es es₁ es₂ : List Exchange}

/-- Two runs to the end in one world are the same run. -/
theorem Runs.eq_of_performed {p : Program α} {a b : α} (h₁ : p.Runs es₁ (some a))
    (h₂ : p.Runs es₂ (some b)) (hw₁ : Performed perform w es₁ w₁)
    (hw₂ : Performed perform w es₂ w₂) : es₁ = es₂ ∧ a = b ∧ w₁ = w₂ := by
  generalize hx : some a = x at h₁
  induction h₁ generalizing w es₂ with
  | cut => cases hx
  | done hview =>
    cases hx
    cases h₂ with
    | done hview' =>
      cases hview.symm.trans hview'
      exact ⟨rfl, rfl, hw₁.nil_inv.trans hw₂.nil_inv.symm⟩
    | asks hview' => cases hview.symm.trans hview'
    | enters hview' => cases hview.symm.trans hview'
  | asks hview _ ih =>
    cases h₂ with
    | done hview' => cases hview.symm.trans hview'
    | asks hview' hnext' =>
      cases hview.symm.trans hview'
      obtain ⟨rfl, hrest₁⟩ := hw₁.cons_inv
      obtain ⟨rfl, hrest₂⟩ := hw₂.cons_inv
      obtain ⟨rfl, hrest⟩ := ih hnext' hrest₁ hrest₂ hx
      exact ⟨rfl, hrest⟩
    | enters hview' => cases hview.symm.trans hview'
  | enters hview _ ih =>
    cases h₂ with
    | done hview' => cases hview.symm.trans hview'
    | asks hview' => cases hview.symm.trans hview'
    | enters hview' hnext' =>
      cases hview.symm.trans hview'
      exact ih hnext' hw₁ hw₂ hx

/-- Two runs to the end that get the same replies are the same run, also if something follows. -/
theorem Runs.eq_of_append {p : Program α} {a b : α} {rest₁ rest₂ : List Exchange}
    (h₁ : p.Runs es₁ (some a)) (h₂ : p.Runs es₂ (some b)) (hsame : es₁ ++ rest₁ = es₂ ++ rest₂) :
    es₁ = es₂ ∧ a = b := by
  generalize hx : some a = x at h₁
  induction h₁ generalizing es₂ with
  | cut => cases hx
  | done hview =>
    cases hx
    cases h₂ with
    | done hview' =>
      cases hview.symm.trans hview'
      exact ⟨rfl, rfl⟩
    | asks hview' => cases hview.symm.trans hview'
    | enters hview' => cases hview.symm.trans hview'
  | asks hview _ ih =>
    cases h₂ with
    | done hview' => cases hview.symm.trans hview'
    | asks hview' hnext' =>
      cases hview.symm.trans hview'
      rw [List.cons_append, List.cons_append] at hsame
      cases (List.cons.inj hsame).1
      obtain ⟨rfl, rfl⟩ := ih hnext' (List.cons.inj hsame).2 hx
      exact ⟨rfl, rfl⟩
    | enters hview' => cases hview.symm.trans hview'
  | enters hview _ ih =>
    cases h₂ with
    | done hview' => cases hview.symm.trans hview'
    | asks hview' => cases hview.symm.trans hview'
    | enters hview' hnext' =>
      cases hview.symm.trans hview'
      exact ih hnext' hsame hx

/-- A program that never looks at the clock comes to an end in every world. -/
theorem exists_performed (perform : World → (e : Effect) → e.Reply × World) {ok : Effect → Prop}
    (hclock : ¬ ok .now) {p : Program α} (h : p.Within ok) (w : World) :
    ∃ es a w', p.Runs es (some a) ∧ Performed perform w es w' := by
  induction p generalizing w with
  | done a => exact ⟨[], a, w, .done rfl, .nil w⟩
  | perform e next ih =>
    obtain ⟨es, a, w', hrun, hperformed⟩ := ih _ (h.2 (perform w e).1) (perform w e).2
    exact ⟨_, a, w', .asks rfl hrun, .cons hperformed⟩
  | await wait next _ =>
    -- Every wait begins with a look at the clock.
    exact absurd (h.1 (.start "" default .mount 0 0) _ _ rfl) hclock
  | enter name op next ih =>
    obtain ⟨es, a, w', hrun, hperformed⟩ := ih h w
    exact ⟨es, a, w', .enters rfl hrun, hperformed⟩

/-- Once a program has come to its end, more steps change nothing. -/
theorem trace_add {fuel : Nat} {p : Program α} {a : α} (h : (trace perform fuel p w).outcome = some a)
    (more : Nat) : trace perform (fuel + more) p w = trace perform fuel p w := by
  induction fuel generalizing p w with
  | zero => cases h
  | succ fuel ih =>
    rw [Nat.add_right_comm, trace, trace]
    rw [trace] at h
    cases hview : p.view with
    | done b => rfl
    | asks e next =>
      simp only [hview] at h ⊢
      rw [ih h]
    | enters name op next =>
      simp only [hview] at h ⊢
      exact ih h

/-- A program is run to its end time after time: the exchanges of each run, and the value with which it
ended. -/
inductive Rounds (perform : World → (e : Effect) → e.Reply × World) (p : Program α) :
    World → List (List Exchange × α) → World → Prop where
  | nil (w : World) : Rounds perform p w [] w
  | cons {w w₁ w₂ : World} {es : List Exchange} {a : α} {rest : List (List Exchange × α)}
      (hrun : p.Runs es (some a)) (hperformed : Performed perform w es w₁)
      (hrest : Rounds perform p w₁ rest w₂) : Rounds perform p w ((es, a) :: rest) w₂

/-- If a run keeps an invariant, a program can be run as often as one likes, and every run goes as the
invariant says. -/
theorem rounds_of_invariant {p : Program α} {inv : World → Prop} {ok : List Exchange → α → Prop}
    (hstep : ∀ w, inv w → ∃ es a w', p.Runs es (some a) ∧ Performed perform w es w' ∧ ok es a ∧ inv w')
    (hw : inv w) :
    (∀ n, ∃ rounds w', rounds.length = n ∧ Rounds perform p w rounds w') ∧
      ∀ {rounds w'}, Rounds perform p w rounds w' → inv w' ∧ ∀ round ∈ rounds, ok round.1 round.2 := by
  constructor
  · intro n
    induction n generalizing w with
    | zero => exact ⟨[], w, rfl, .nil w⟩
    | succ n ih =>
      obtain ⟨es, a, w₁, hrun, hperformed, -, hw₁⟩ := hstep w hw
      obtain ⟨rounds, w₂, hlength, hrounds⟩ := ih hw₁
      exact ⟨(es, a) :: rounds, w₂, congrArg Nat.succ hlength, .cons hrun hperformed hrounds⟩
  · intro rounds w' hrounds
    induction hrounds with
    | nil => exact ⟨hw, List.forall_mem_nil _⟩
    | cons hrun hperformed _ ih =>
      obtain ⟨es, a, w₁, hrun', hperformed', hok, hw₁⟩ := hstep _ hw
      obtain ⟨rfl, rfl, rfl⟩ := hrun.eq_of_performed hrun' hperformed hperformed'
      obtain ⟨hlast, hrest⟩ := ih hw₁
      exact ⟨hlast, List.forall_mem_cons.2 ⟨hok, hrest⟩⟩

end VolumeLifecycle.Program
