import VolumeLifecycle.Proofs.Program.Runs
import VolumeLifecycle.Proofs.Workflow.Discipline

namespace VolumeLifecycle.Workflow

open Program (Keeps AllCalls Runs)

variable {α β : Type}

/-- A call that has gone well has made one exchange. -/
theorem call_ok_inv {c : Call} {es : List Exchange} {a : c.Answer}
    (h : Runs (call c).run es (some (.ok a))) : es = [⟨.call c, Except.ok a⟩] := by
  rcases call_inv h with ⟨-, hx⟩ | ⟨reply, rfl, hx⟩
  · cases hx
  · rcases hx with hx | hx
    · cases hx
    · rw [← Option.some.inj hx]

/-- A call that is tried has made one exchange if it is over. -/
theorem attempt_ok_inv {c : Call} {es : List Exchange} {reply : c.Reply}
    (h : Runs (attempt c).run es (some (.ok reply))) : es = [⟨.call c, reply⟩] := by
  rcases attempt_inv h with ⟨-, hx⟩ | ⟨reply', rfl, hx⟩
  · cases hx
  · rcases hx with hx | hx
    · cases hx
    · cases hx
      rfl

theorem ofExcept_inv {result : Except Failure α} {es : List Exchange}
    {x : Option (Except Failure α)} (h : Runs (ofExcept result).run es x) :
    es = [] ∧ (x = none ∨ x = some result) :=
  Runs.done_inv h

theorem pure_inv {a : α} {es : List Exchange} {x : Option (Except Failure α)}
    (h : Runs (pure a : Workflow α).run es x) : es = [] ∧ (x = none ∨ x = some (.ok a)) :=
  Runs.done_inv h

/-- A run of one workflow after the other, if the calls of the first are of a sort. -/
theorem keeps_bind_inv {free : Call → Prop} {w : Workflow α} {f : α → Workflow β}
    (hw : w.run.Keeps free) {es : List Exchange} {x : Option (Except Failure β)}
    (h : Runs (w >>= f).run es x) :
    (AllCalls free es ∧ ∀ b, x ≠ some (.ok b)) ∨
      ∃ a es₁ es₂, es = es₁ ++ es₂ ∧ AllCalls free es₁ ∧ w.run.Runs es₁ (some (.ok a)) ∧
        (f a).run.Runs es₂ x := by
  rcases bind_inv h with ⟨⟨y, hrun⟩, hx⟩ | ⟨a, es₁, es₂, rfl, hrun, hrest⟩
  · exact .inl ⟨hw.allCalls hrun, hx⟩
  · exact .inr ⟨a, es₁, es₂, rfl, hw.allCalls hrun, hrun, hrest⟩

/-- Among plain exchanges no filesystem is created. -/
theorem not_setup_of_plain {es : List Exchange} (h : AllCalls Plain es) {ex : Exchange}
    (hex : ex ∈ es) {d : Device} {v : Volume} {fs : String} :
    ex.effect ≠ .call (.setupFilesystem d v fs) := fun heq =>
  (h ex hex _ heq).2 rfl

/-- The filesystem that is created is the one that is asked for. -/
theorem createOnFirstMount_formats {volume : Volume} {mountpoint : Path} {filesystem : String}
    {es : List Exchange} {x : Option (Except Failure Unit)}
    (h : Runs (createOnFirstMount volume mountpoint filesystem).run es x) {ex : Exchange}
    (hex : ex ∈ es) {d : Device} {v : Volume} {fs : String}
    (hsetup : ex.effect = .call (.setupFilesystem d v fs)) : v = volume ∧ filesystem = fs := by
  rcases keeps_bind_inv (keeps_attachFirst (HostSide.plain nofun nofun)) h with
    ⟨hplain, -⟩ | ⟨device, es₁, es₂, rfl, hplain, hrun, hrest⟩
  · exact absurd hsetup (not_setup_of_plain hplain hex)
  replace hex := (List.mem_append.1 hex).resolve_left fun hin =>
    not_setup_of_plain hplain hin hsetup
  have hown : ∀ {es : List Exchange} {y : Option (Except Failure Unit)},
      Runs (call (.setupFilesystem device volume filesystem)).run es y → ex ∈ es →
        v = volume ∧ filesystem = fs := by
    intro es y hrun hex
    rcases call_inv hrun with ⟨rfl, -⟩ | ⟨reply, rfl, -⟩
    · cases hex
    · rw [List.mem_singleton.1 hex] at hsetup
      cases hsetup
      exact ⟨rfl, rfl⟩
  rcases bind_inv hrest with ⟨⟨y, hrun⟩, -⟩ | ⟨u, es₃, es₄, rfl, hrun, hmount⟩
  · exact hown hrun hex
  · refine hown hrun ((List.mem_append.1 hex).resolve_right fun hin => ?_)
    have hmounts : Keeps Plain (do
        let _ ← call (.mountDevice device mountpoint)
        pure () : Workflow Unit).run :=
      keeps_bind (keeps_call (HostSide.plain nofun nofun)) fun _ => keeps_pure _
    exact not_setup_of_plain (hmounts.allCalls hmount) hin hsetup

/-- This node's part of a mount creates a filesystem only if the volume is marked for it, and only
after it has found no healthy mount and could not mount what is there. -/
theorem mountOnHost_formats {volume : Volume} {mountpoint : Path} {es : List Exchange}
    {x : Option (Except Failure HostMount)} (h : Runs (mountOnHost volume mountpoint).run es x)
    {ex : Exchange} (hex : ex ∈ es) {d : Device} {v : Volume} {fs : String}
    (hsetup : ex.effect = .call (.setupFilesystem d v fs)) :
    v = volume ∧ volume.delayedFilesystem = some fs ∧ ∃ mounts f rest,
      es = ⟨.call (.getMounts volume.serialNumber), Except.ok mounts⟩ ::
        ⟨.call (.attachAndMountDevice volume mountpoint), Except.error f⟩ :: rest ∧
      mounts.any (·.servesAt mountpoint) = false ∧ ex ∈ rest := by
  rcases keeps_bind_inv (w := call (.getMounts _)) (keeps_call (HostSide.plain nofun nofun)) h with
    ⟨hplain, -⟩ | ⟨mounts, es₁, es₂, rfl, hplain, hrun, hrest⟩
  · exact absurd hsetup (not_setup_of_plain hplain hex)
  obtain rfl := call_ok_inv hrun
  replace hex := (List.mem_append.1 hex).resolve_left fun hin =>
    not_setup_of_plain hplain hin hsetup
  cases hserves : mounts.any (·.servesAt mountpoint) with
  | true =>
    simp only [hserves, if_true] at hrest
    rw [(pure_inv hrest).1] at hex
    cases hex
  | false =>
    simp only [hserves, Bool.false_eq_true, if_false] at hrest
    rcases keeps_bind_inv (w := attempt (.attachAndMountDevice _ _))
        (keeps_attemptDevice nofun nofun) hrest with
      ⟨hplain, -⟩ | ⟨reply, es₁, es₃, rfl, hplain, hrun, hnext⟩
    · exact absurd hsetup (not_setup_of_plain hplain hex)
    obtain rfl := attempt_ok_inv hrun
    replace hex := (List.mem_append.1 hex).resolve_left fun hin =>
      not_setup_of_plain hplain hin hsetup
    cases reply with
    | ok m =>
      rw [(pure_inv hnext).1] at hex
      cases hex
    | error f =>
      cases hdelayed : volume.delayedFilesystem with
      | none =>
        simp only [hdelayed] at hnext
        rw [(ofExcept_inv hnext).1] at hex
        cases hex
      | some filesystem =>
        simp only [hdelayed] at hnext
        have hformats : v = volume ∧ filesystem = fs := by
          rcases bind_inv hnext with ⟨⟨y, hrun⟩, -⟩ | ⟨u, es₄, es₅, rfl, hrun, hdone⟩
          · exact createOnFirstMount_formats hrun hex hsetup
          · refine createOnFirstMount_formats hrun ?_ hsetup
            rwa [(pure_inv hdone).1, List.append_nil] at hex
        obtain ⟨rfl, rfl⟩ := hformats
        exact ⟨rfl, rfl, mounts, f, es₃, rfl, hserves, hex⟩

/-- The provider's part of a mount has gone well if the reply has a volume. -/
theorem mountOnProvider_ok_inv {r : Request} {request : Provider.Request} {es : List Exchange}
    {volume : Volume} (h : Runs (mountOnProvider r request).run es (some (.ok volume))) :
    ∃ response u, es = [⟨.call (.provider .mount request), Except.ok response⟩] ∧
      response.intoVolume r.name = .ok u ∧
      volume = { u with connectionMode := some Volume.manualConnection } := by
  rcases bind_inv h with ⟨-, hx⟩ | ⟨reply, es₁, es₂, rfl, hrun, hrest⟩
  · exact absurd rfl (hx volume)
  obtain rfl := attempt_ok_inv hrun
  rcases bind_inv hrest with ⟨-, hx⟩ | ⟨u, es₃, es₄, rfl, hresult, hdone⟩
  · exact absurd rfl (hx volume)
  obtain ⟨rfl, hx⟩ := ofExcept_inv hresult
  obtain ⟨rfl, hvolume⟩ := pure_inv hdone
  cases reply with
  | error f => rcases hx with hx | hx <;> cases hx
  | ok response =>
    refine ⟨response, u, rfl, ?_, ?_⟩
    · cases hu : response.intoVolume r.name with
      | error f =>
        simp only [hu] at hx
        rcases hx with hx | hx <;> cases hx
      | ok v =>
        simp only [hu] at hx
        rcases hx with hx | hx <;> cases hx
        rfl
    · simpa using hvolume

/-- A run of the part of a mount inside of the gate. Either the provider's part does not go well, and
nothing but plain calls are made; or it is followed by this node's part and then by plain calls. If
the mount goes well, the last call takes the marks of a volume away whose filesystem was still to be
created; a volume without marks needs no such call. -/
theorem mountLocked_inv {c : Config} {r : Request} {es : List Exchange}
    {x : Option (Except Failure Path)} (h : Runs (mountLocked c r).run es x) :
    (AllCalls Plain es ∧ ∀ p, x ≠ some (.ok p)) ∨
      ∃ response u volume onHost after,
        es = ⟨.call (.provider .mount (providerRequest c r)), Except.ok response⟩ ::
          (onHost ++ after) ∧
        response.intoVolume r.name = .ok u ∧
        volume = { u with connectionMode := some Volume.manualConnection } ∧
        (∃ y, Runs (mountOnHost volume (c.mountpointFor volume.name)).run onHost y) ∧
        AllCalls Plain after ∧
        ∀ p, x = some (.ok p) →
          (volume.hasDelayedCreate = false ∧ after = []) ∨
            ∃ reply, after = [⟨.call (.provider .update
              (((Provider.Request.named volume.name).withOpt Volume.delayedCreateKey .null).withOpt
                Volume.filesystemKey .null)), reply⟩] := by
  rcases keeps_bind_inv (keeps_mountOnProvider r _) h with
    hcut | ⟨volume, es₁, es₂, rfl, -, hrun, hrest⟩
  · exact .inl hcut
  obtain ⟨response, u, rfl, hu, hvolume⟩ := mountOnProvider_ok_inv hrun
  refine .inr ⟨response, u, volume, ?_⟩
  rcases bind_inv hrest with ⟨⟨y, hresult⟩, hx⟩ | ⟨result, es₃, es₄, rfl, hresult, hrest⟩
  · obtain ⟨z, hhost, -⟩ := result_inv hresult
    refine ⟨es₂, [], by simp, hu, hvolume, ⟨z, hhost⟩, .nil, fun p hp => absurd hp (hx p)⟩
  obtain ⟨z, hhost, -⟩ := result_inv hresult
  refine ⟨es₃, es₄, rfl, hu, hvolume, ⟨z, hhost⟩, ?_⟩
  cases result with
  | error f =>
    refine ⟨Keeps.allCalls (keeps_bind (keeps_undoMount _ volume _) fun report => ?_) hrest,
      fun p hp => ?_⟩
    · cases report <;> exact keeps_fail _
    subst hp
    rcases bind_inv hrest with ⟨-, hx⟩ | ⟨report, es₅, es₆, rfl, -, hfail⟩
    · exact absurd rfl (hx p)
    · cases report <;> rcases (ofExcept_inv hfail).2 with hx | hx <;> cases hx
  | ok how =>
    dsimp only at hrest
    cases hmarked : volume.hasDelayedCreate with
    | false =>
      simp only [hmarked, Bool.false_eq_true, if_false] at hrest
      rw [(pure_inv hrest).1]
      exact ⟨.nil, fun _ _ => .inl ⟨rfl, rfl⟩⟩
    | true =>
      simp only [hmarked, if_true] at hrest
      have hclear : Keeps Plain (do
          let _ ← clearDelayedCreate volume.name
          pure (c.mountpointFor volume.name) : Workflow Path).run :=
        keeps_bind (keeps_clearDelayedCreate _) fun _ => keeps_pure _
      refine ⟨hclear.allCalls hrest, fun p hp => .inr ?_⟩
      subst hp
      rcases bind_inv hrest with ⟨-, hx⟩ | ⟨outcome, es₅, es₆, rfl, hupdate, hdone⟩
      · exact absurd rfl (hx p)
      obtain ⟨rfl, -⟩ := pure_inv hdone
      rcases bind_inv hupdate with ⟨-, hx⟩ | ⟨reply, es₇, es₈, rfl, hcall, hlast⟩
      · exact absurd rfl (hx outcome)
      obtain rfl := attempt_ok_inv hcall
      obtain ⟨rfl, -⟩ := pure_inv hlast
      exact ⟨reply, rfl⟩

/-- Gathering the inputs of a mount calls nobody. -/
theorem keeps_gatherMount {free : Call → Prop} (c : Config) (name : String) (opts : Dict Json) :
    Keeps free (gatherMount c name opts).run := by
  have hgather : Keeps free (gather name opts).run := by
    refine keeps_bind (keeps_ofExcept _) fun _ => ?_
    refine keeps_bind (keeps_ofExcept _) fun options => ?_
    exact keeps_bind keeps_describeHost fun host => keeps_pure _
  refine keeps_bind hgather fun r => ?_
  split
  · exact keeps_bind (keeps_ofExcept _) fun _ => keeps_pure _
  · exact keeps_pure _

/-- The inputs of a mount carry the name that was asked for. -/
theorem name_of_gatherMount {c : Config} {name : String} {opts : Dict Json} {es : List Exchange}
    {r : Request} (h : Runs (gatherMount c name opts).run es (some (.ok r))) : r.name = name := by
  have hgather : ∀ {es : List Exchange} {r : Request},
      Runs (gather name opts).run es (some (.ok r)) → r.name = name := by
    intro es r h
    rcases bind_inv h with ⟨-, hx⟩ | ⟨_, es₁, es₂, rfl, -, h⟩
    · exact absurd rfl (hx r)
    rcases bind_inv h with ⟨-, hx⟩ | ⟨options, es₃, es₄, rfl, -, h⟩
    · exact absurd rfl (hx r)
    rcases bind_inv h with ⟨-, hx⟩ | ⟨host, es₅, es₆, rfl, -, h⟩
    · exact absurd rfl (hx r)
    rcases (pure_inv h).2 with hx | hx <;> cases hx
    rfl
  rcases bind_inv h with ⟨-, hx⟩ | ⟨r', es₁, es₂, rfl, hr', h⟩
  · exact absurd rfl (hx r)
  rw [← hgather hr']
  split at h
  · rcases bind_inv h with ⟨-, hx⟩ | ⟨host, es₃, es₄, rfl, -, h⟩
    · exact absurd rfl (hx r)
    rcases (pure_inv h).2 with hx | hx <;> cases hx
    rfl
  · rcases (pure_inv h).2 with hx | hx <;> cases hx
    rfl

/-- A run of a mount: calls from before the gate, then a run of the part inside. -/
theorem mount_inv {c : Config} {name : String} {opts : Dict Json} {es : List Exchange}
    {x : Option (Except Failure Path)} (h : Runs (mount c name opts).run es x) :
    (AllCalls beforeMount es ∧ ∀ p, x ≠ some (.ok p)) ∨
      ∃ options host es₁ es₂, es = es₁ ++ es₂ ∧ AllCalls beforeMount es₁ ∧
        Runs (mountLocked c ⟨name, options, host⟩).run es₂ x := by
  rcases keeps_bind_inv (keeps_gatherMount c name opts) h with
    hcut | ⟨r, es₁, es₂, rfl, hfirst, hgather, hrest⟩
  · exact .inl hcut
  obtain ⟨_, options, host⟩ := r
  obtain rfl := name_of_gatherMount hgather
  rcases keeps_bind_inv (keeps_reconcile _ host) hrest with
    ⟨hcut, hx⟩ | ⟨_, es₃, es₄, rfl, hsecond, -, hrest⟩
  · exact .inl ⟨hfirst.append hcut, hx⟩
  rcases keeps_bind_inv (keeps_awaitConflict_mount c _) hrest with
    ⟨hcut, hx⟩ | ⟨_, es₅, es₆, rfl, hthird, -, hlast⟩
  · exact .inl ⟨hfirst.append (hsecond.append hcut), hx⟩
  refine .inr ⟨options, host, es₁ ++ (es₃ ++ es₅), es₆, by simp, ?_, ?_⟩
  · exact hfirst.append (hsecond.append hthird)
  cases hlast with
  | cut => exact .cut _
  | done hview => cases hview
  | asks hview => cases hview
  | enters hview hnext =>
    cases hview
    exact hnext

end VolumeLifecycle.Workflow
