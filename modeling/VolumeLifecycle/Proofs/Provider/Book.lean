import VolumeLifecycle.Proofs.Program.Runs
import VolumeLifecycle.Proofs.Provider.Status
import VolumeLifecycle.Proofs.Workflow.Discipline
import VolumeLifecycle.Testbed

namespace VolumeLifecycle

/-- Whether the provider has refused a request. A request that did not get a reply may have gone
through. -/
def Provider.isRefusal : Except Failure Provider.Response → Bool
  | .ok response => response.err ≠ ""
  | .error _ => false

def Exchange.renews? : Exchange → Option String
  | ⟨.call (.provider .create r), reply⟩ => if Provider.isRefusal reply then none else some r.name
  | ⟨.call (.provider .remove r), reply⟩ => if Provider.isRefusal reply then none else some r.name
  | _ => none

/-- Whether an exchange is anything but an update that the provider did not carry out. -/
def Exchange.isServed : Exchange → Bool
  | ⟨.call (.provider .update _), Except.ok response⟩ => response.err = ""
  | ⟨.call (.provider .update _), Except.error _⟩ => false
  | _ => true

namespace Provider

/-- The status maps that a provider stores, by the names of their volumes. -/
abbrev Book : Type := String → Dict Json

/-- What an exchange with an honest provider makes of the status maps. -/
structure Book.Honest (book : Book) (ex : Exchange) (book' : Book) : Prop where
  /-- No update fails. -/
  served : ex.isServed = true
  /-- An update takes away the keys that it gives as null and sets the others. -/
  updated : ∀ r, ex.effect = .call (.provider .update r) → ∀ key,
    (book' r.name).get? key = match r.opts.get? key with
      | none => (book r.name).get? key
      | some value => Store.said value
  /-- The volume in the reply to a mount has the status map that is stored for it. -/
  shown : ∀ r response v, ex = ⟨.call (.provider .mount r), Except.ok response⟩ →
    response.volume = some v → v.status = book v.name
  /-- Nothing else writes the status map of a volume. -/
  kept : ∀ name, (∀ r, ex.effect = .call (.provider .update r) → r.name ≠ name) →
    ex.renews? ≠ some name → book' name = book name

/-- The status maps after a row of exchanges with an honest provider. -/
inductive Book.Serves : Book → List Exchange → Book → Prop where
  | nil (book : Book) : Serves book [] book
  | cons {book mid book' : Book} {ex : Exchange} {es : List Exchange}
      (hex : book.Honest ex mid) (hes : Serves mid es book') : Serves book (ex :: es) book'

namespace Book

variable {book book' : Book} {name : String}

/-- Of an exchange that is neither an update nor a mount, only what it leaves as it is matters. -/
theorem Honest.of_kept {ex : Exchange} (hupdate : ∀ r, ex.effect ≠ .call (.provider .update r))
    (hmount : ∀ r, ex.effect ≠ .call (.provider .mount r))
    (hkept : ∀ name, ex.renews? ≠ some name → book' name = book name) : book.Honest ex book' where
  served := by
    unfold Exchange.isServed
    split
    · exact absurd rfl (hupdate _)
    · exact absurd rfl (hupdate _)
    · rfl
  updated := fun r heffect => absurd heffect (hupdate r)
  shown := fun r _ _ heq => absurd (congrArg Exchange.effect heq) (hmount r)
  kept := fun name _ hrenews => hkept name hrenews

theorem Serves.append_inv {es es' : List Exchange} (h : book.Serves (es ++ es') book') :
    ∃ mid, book.Serves es mid ∧ mid.Serves es' book' := by
  induction es generalizing book with
  | nil => exact ⟨book, .nil book, h⟩
  | cons ex es ih =>
    cases h with
    | cons hex hes =>
      obtain ⟨mid, hfirst, hsecond⟩ := ih hes
      exact ⟨mid, .cons hex hfirst, hsecond⟩

theorem Serves.append {mid : Book} {es es' : List Exchange} (h : book.Serves es mid)
    (h' : mid.Serves es' book') : book.Serves (es ++ es') book' := by
  induction h with
  | nil book => exact h'
  | cons hex _ ih => exact .cons hex (ih h')

/-- The filesystem of a volume is not to be created, as far as its status map says. -/
def Clear (book : Book) (name : String) : Prop :=
  Volume.marksDelayedCreate ((book name).get? Volume.delayedCreateKey) = false

/-- An exchange without creation and removal brings no mark back if an update gives the mark as null
or leaves it alone. -/
theorem Honest.clear {ex : Exchange} (h : book.Honest ex book')
    (htame : ∀ c, ex.effect = .call c → Workflow.Tame c) (hrenews : ex.renews? ≠ some name)
    (hclear : book.Clear name) : book'.Clear name := by
  by_cases hupdate : ∃ r, ex.effect = .call (.provider .update r) ∧ r.name = name
  · obtain ⟨r, heffect, rfl⟩ := hupdate
    unfold Clear
    rw [h.updated r heffect]
    cases hsaid : r.opts.get? Volume.delayedCreateKey with
    | none => exact hclear
    | some value =>
      rw [htame _ heffect value hsaid]
      rfl
  · have hkept : book' name = book name :=
      h.kept name (fun r heffect hname => hupdate ⟨r, heffect, hname⟩) hrenews
    unfold Clear
    rwa [hkept]

theorem Serves.clear {es : List Exchange} (h : book.Serves es book')
    (htame : Program.AllCalls Workflow.Tame es) (hrenews : ∀ ex ∈ es, ex.renews? ≠ some name)
    (hclear : book.Clear name) : book'.Clear name := by
  induction h with
  | nil book => exact hclear
  | cons hex _ ih =>
    refine ih (fun ex hmem => htame ex (List.mem_cons_of_mem _ hmem))
      (fun ex hmem => hrenews ex (List.mem_cons_of_mem _ hmem)) ?_
    exact hex.clear (htame _ List.mem_cons_self) (hrenews _ List.mem_cons_self) hclear

/-- Gentle calls create and remove nothing. -/
theorem renews?_of_gentle {ex : Exchange} (h : ∀ c, ex.effect = .call c → Workflow.Gentle c) :
    ex.renews? = none := by
  unfold Exchange.renews?
  split
  · exact absurd rfl (h _ rfl).2.1
  · exact absurd rfl (h _ rfl).2.2
  · rfl

/-- Gentle calls leave a volume unmarked that is not marked. -/
theorem Serves.clear_of_gentle {es : List Exchange} (h : book.Serves es book')
    (hgentle : Program.AllCalls Workflow.Gentle es) (hclear : book.Clear name) :
    book'.Clear name := by
  refine h.clear (hgentle.mono fun _ => Workflow.Gentle.tame) (fun ex hex hrenews => ?_) hclear
  rw [renews?_of_gentle (hgentle ex hex)] at hrenews
  cases hrenews

/-- An update that gives the mark as null takes it away. -/
theorem Honest.clear_of_null {r : Request} {reply : Except Failure Response}
    (h : book.Honest ⟨.call (.provider .update r), reply⟩ book')
    (hnull : r.opts.get? Volume.delayedCreateKey = some .null) : book'.Clear r.name := by
  unfold Clear
  rw [h.updated r rfl, hnull]
  rfl

end Book
end Provider
end VolumeLifecycle
