import VolumeLifecycle.Proofs.Program.Runs

namespace VolumeLifecycle

namespace Program

variable {α β : Type} {described : Except Failure Host}

/-- A program that ends with a value at once, or when it has been told of this node: it makes no call, does
not look at the clock, does not sleep, removes no directory and does not come to the gate. -/
inductive AtOnce (described : Except Failure Host) : Program α → α → Prop where
  | done {p : Program α} {a : α} (hview : p.view = .done a) : AtOnce described p a
  | told {p : Program α} {next : Effect.describeHost.Reply → Program α} {a : α}
      (hview : p.view = .asks .describeHost next) (hnext : AtOnce described (next described) a) :
    AtOnce described p a

theorem AtOnce.andThen {p : Program α} {f : α → Program β} {a : α} {b : β}
    (hp : p.AtOnce described a) (hf : (f a).AtOnce described b) :
    (p.andThen f).AtOnce described b := by
  induction hp with
  | @done q a hview =>
    have hthen := view_andThen q f
    rw [hview] at hthen
    cases hf with
    | done hview' => exact .done (hthen.trans hview')
    | told hview' hnext => exact .told (hthen.trans hview') hnext
  | @told q _ a hview _ ih =>
    have hthen := view_andThen q f
    rw [hview] at hthen
    exact .told hthen (ih hf)

/-- Every run of such a program in which this node is described so asks for nothing else, and ends with the
one value if it ends. -/
theorem AtOnce.runs {p : Program α} {a : α} {es : List Exchange} {x : Option α}
    (h : p.AtOnce described a) (hruns : p.Runs es x)
    (hdescribed : ∀ reply, ⟨.describeHost, reply⟩ ∈ es → reply = described) :
    (∀ exchange ∈ es, exchange = ⟨.describeHost, described⟩) ∧ (x = none ∨ x = some a) := by
  induction h generalizing es with
  | done hview =>
    cases hruns with
    | cut => exact ⟨List.forall_mem_nil _, .inl rfl⟩
    | done hview' =>
      cases hview.symm.trans hview'
      exact ⟨List.forall_mem_nil _, .inr rfl⟩
    | asks hview' => cases hview.symm.trans hview'
    | enters hview' => cases hview.symm.trans hview'
  | told hview _ ih =>
    cases hruns with
    | cut => exact ⟨List.forall_mem_nil _, .inl rfl⟩
    | done hview' => cases hview.symm.trans hview'
    | asks hview' hnext =>
      cases hview.symm.trans hview'
      obtain rfl := hdescribed _ List.mem_cons_self
      obtain ⟨hall, hx⟩ := ih hnext fun reply hmem => hdescribed reply (List.mem_cons_of_mem _ hmem)
      exact ⟨List.forall_mem_cons.2 ⟨rfl, hall⟩, hx⟩
    | enters hview' => cases hview.symm.trans hview'

end Program

namespace Workflow

open Program (AtOnce)

variable {α β : Type} {described : Except Failure Host}

theorem atOnce_ofExcept (x : Except Failure α) : (ofExcept x).run.AtOnce described x :=
  .done rfl

theorem atOnce_describeHost : describeHost.run.AtOnce described described :=
  .told rfl (.done rfl)

/-- Workflows that have no effect one after the other have none, and the result is that of computing on
their results. -/
theorem atOnce_bind {w : Workflow α} {f : α → Workflow β} {x : Except Failure α}
    {g : α → Except Failure β} (hw : w.run.AtOnce described x)
    (hf : ∀ a, x = .ok a → (f a).run.AtOnce described (g a)) :
    (w >>= f).run.AtOnce described (x >>= g) := by
  cases x with
  | error e => exact hw.andThen (.done rfl)
  | ok a => exact hw.andThen (hf a rfl)

/-- After a failure nothing is done any more. -/
theorem atOnce_bind_error {w : Workflow α} {f : α → Workflow β} {e : Failure}
    (hw : w.run.AtOnce described (.error e)) : (w >>= f).run.AtOnce described (.error e) :=
  hw.andThen (.done rfl)

end Workflow
end VolumeLifecycle
