import VolumeLifecycle.Proofs.Options.Lookup
import VolumeLifecycle.Proofs.Program.AtOnce
import VolumeLifecycle.Proofs.Workflow.Steps

namespace VolumeLifecycle.Workflow

variable {described : Except Failure Host}

/-- Every name that is not blank will do. -/
theorem checkName_eq_ok_iff {name : String} : checkName name = .ok () ↔ Text.isBlankText name = false := by
  cases hblank : Text.isBlankText name <;> simp [checkName, hblank]

/-- A name is refused for being blank, and for nothing else. -/
theorem checkName_eq_error {name : String} {f : Failure} (h : checkName name = .error f) :
    f = nameRequired ∧ Text.isBlankText name = true := by
  cases hblank : Text.isBlankText name with
  | true => exact ⟨by simpa [checkName, hblank] using h.symm, rfl⟩
  | false => simp [checkName, hblank] at h

/-- The restriction to initiators fails if there are none, or if no interface is one of them. -/
theorem restrictTo_cases (host : Host) (wanted : Option (List String)) :
    (wanted.getD [] = [] ∧ restrictTo host wanted = .error noInitiators) ∨
      ∃ names, wanted = some names ∧ names ≠ [] ∧
        ((∀ i ∈ host.networkInterfaces, i.name ∉ names ∧ i.addressV4 ∉ names) ∧
            restrictTo host wanted = .error (noneMatches names) ∨
          (∃ i ∈ host.networkInterfaces, i.name ∈ names ∨ i.addressV4 ∈ names) ∧
            ∃ kept, restrictTo host wanted = .ok kept) := by
  match wanted with
  | none => exact .inl ⟨rfl, rfl⟩
  | some [] => exact .inl ⟨rfl, rfl⟩
  | some (name :: more) =>
    refine .inr ⟨name :: more, rfl, List.cons_ne_nil _ _, ?_⟩
    have hwanted : ∀ i, isWanted (name :: more) i = true ↔
        i.name ∈ name :: more ∨ i.addressV4 ∈ name :: more := by
      intro i
      simp only [isWanted, List.any_eq_true, Bool.or_eq_true, decide_eq_true_eq]
      constructor
      · rintro ⟨w, hw, rfl | rfl⟩
        · exact .inl hw
        · exact .inr hw
      · rintro (hi | hi)
        · exact ⟨_, hi, .inl rfl⟩
        · exact ⟨_, hi, .inr rfl⟩
    simp only [restrictTo]
    split
    · next hempty =>
      refine .inl ⟨fun i hi => not_or.1 fun hnot => ?_, rfl⟩
      exact absurd ((hwanted i).2 hnot) (List.filter_eq_nil_iff.1 (List.isEmpty_iff.1 hempty) i hi)
    · next hkept =>
      obtain ⟨i, hi⟩ := List.exists_mem_of_ne_nil _ fun hnil => hkept (List.isEmpty_iff.2 hnil)
      obtain ⟨hmem, hi⟩ := List.mem_filter.1 hi
      exact .inr ⟨⟨i, hmem, (hwanted i).1 hi⟩, _, rfl⟩

def gathered (described : Except Failure Host) (name : String) (opts : Dict Json) :
    Except Failure Request := do
  let options ← checkedOptions name opts
  let host ← described
  return { name, options, host }

def gatheredMount (c : Config) (described : Except Failure Host) (name : String) (opts : Dict Json) :
    Except Failure Request := do
  let r ← gathered described name opts
  if c.cloudMode then
    let host ← restrictTo r.host r.options.initiators
    return { r with host }
  else return r

/-- The input of a create, checked on a node that is described so. One that asks for help is not checked
further. -/
def checkedCreate (c : Config) (described : Except Failure Host) (r : Runtime.CreateRequest) :
    Except Failure Unit := do
  checkName r.name
  let options ← Options.layered c.defaults c.selectedDefaults r.opts
  if options.help then return ()
  options.validate
  let _ ← described

/-- The inputs of a workflow are gathered by nothing but the description of this node. -/
theorem atOnce_gather (described : Except Failure Host) (name : String) (opts : Dict Json) :
    (gather name opts).run.AtOnce described (gathered described name opts) := by
  have hsplit : gathered described name opts = (checkName name >>= fun _ =>
      Options.ofDict opts >>= fun options => described >>= fun host => .ok { name, options, host }) := by
    rw [gathered, checkedOptions]
    cases checkName name <;> rfl
  rw [hsplit]
  refine atOnce_bind (atOnce_ofExcept _) fun _ _ => ?_
  refine atOnce_bind (atOnce_ofExcept _) fun options _ => ?_
  exact atOnce_bind atOnce_describeHost fun host _ => atOnce_ofExcept _

theorem atOnce_gatherMount (c : Config) (described : Except Failure Host) (name : String)
    (opts : Dict Json) :
    (gatherMount c name opts).run.AtOnce described (gatheredMount c described name opts) := by
  refine atOnce_bind (atOnce_gather described name opts) fun r _ => ?_
  split
  · exact atOnce_bind (atOnce_ofExcept _) fun host _ => atOnce_ofExcept _
  · exact atOnce_ofExcept _

/-- A check that passes leaves it to the rest whether there is a failure. -/
theorem atOnce_checked {α β : Type} {x : Except Failure α} {a : α} {f : α → Workflow β}
    {y : Except Failure β} (hx : x = .ok a) (hf : (f a).run.AtOnce described y) :
    (ofExcept x >>= f).run.AtOnce described y := by
  subst hx
  exact hf

/-- A create whose input is refused ends before its first call. -/
theorem atOnce_create {c : Config} {r : Runtime.CreateRequest} {f : Failure}
    (h : checkedCreate c described r = .error f) :
    (create c r.name r.opts).run.AtOnce described (.error f) := by
  have hfails : ∀ {α β : Type} {x : Except Failure α} {next : α → Workflow β}, x = .error f →
      (ofExcept x >>= next).run.AtOnce described (.error f) := by
    rintro α β x next rfl
    exact atOnce_bind_error (atOnce_ofExcept _)
  rcases Options.bind_eq_error.1 h with hname | ⟨_, hname, h⟩
  · exact hfails hname
  refine atOnce_checked hname ?_
  rcases Options.bind_eq_error.1 h with hlayers | ⟨options, hlayers, h⟩
  · exact hfails hlayers
  refine atOnce_checked hlayers ?_
  cases hhelp : options.help with
  | true =>
    rw [hhelp] at h
    cases h
  | false =>
    rw [hhelp] at h
    simp only [Bool.false_eq_true, if_false]
    rcases Options.bind_eq_error.1 h with hvalid | ⟨_, hvalid, h⟩
    · exact hfails hvalid
    refine atOnce_checked hvalid ?_
    rcases Options.bind_eq_error.1 h with hhost | ⟨_, -, ⟨⟩⟩
    have hdescribed : describeHost.run.AtOnce described described := atOnce_describeHost
    rw [hhost] at hdescribed ⊢
    exact atOnce_bind_error hdescribed

end VolumeLifecycle.Workflow
