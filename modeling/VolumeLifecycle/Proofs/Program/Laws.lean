import VolumeLifecycle.Program.Basic

namespace VolumeLifecycle.Program

variable {α β γ : Type}

theorem andThen_done (p : Program α) : p.andThen done = p := by
  induction p with
  | done a => rfl
  | perform e next ih => exact congrArg (perform e) (funext ih)
  | await w next ih => exact congrArg (await w) (funext ih)
  | enter name op next ih => exact congrArg (enter name op) ih

/-- How programs are grouped does not matter. -/
theorem andThen_assoc (p : Program α) (f : α → Program β) (g : β → Program γ) :
    (p.andThen f).andThen g = p.andThen fun a => (f a).andThen g := by
  induction p with
  | done a => rfl
  | perform e next ih => exact congrArg (perform e) (funext ih)
  | await w next ih => exact congrArg (await w) (funext ih)
  | enter name op next ih => exact congrArg (enter name op) ih

instance : LawfulMonad Program :=
  LawfulMonad.mk' Program andThen_done (fun _ _ => rfl) andThen_assoc

end VolumeLifecycle.Program
