import VolumeLifecycle.Proofs.Workflow.Steps

namespace VolumeLifecycle.Workflow

open Program (Within)

variable {c : Config} {name : String} {es : List Exchange}

/-- A question that was not answered, and why: the node could not be described, the volume could not be
resolved, or the mount table could not be read. -/
inductive Unanswered (c : Config) (name : String) : List Exchange → Failure → Prop where
  | node (f : Failure) : Unanswered c name [⟨.describeHost, Except.error f⟩] f
  | unresolved (options : Options) (host : Host) (reply : Except Failure Provider.Response)
      {f : Failure} (hreply : shown name reply = .error f) :
    Unanswered c name
      [⟨.describeHost, Except.ok host⟩,
        ⟨.call (.provider .get (providerRequest c ⟨name, options, host⟩)), reply⟩] f
  | unread (options : Options) (host : Host) (response : Provider.Response) {u : Volume}
      (hu : response.intoVolume name = .ok u) (f : Failure) :
    Unanswered c name
      [⟨.describeHost, Except.ok host⟩,
        ⟨.call (.provider .get (providerRequest c ⟨name, options, host⟩)), Except.ok response⟩,
        ⟨.call (.getMounts u.serialNumber), Except.error f⟩] f

/-- A volume as a question for it tells, given what the mount table has for its serial number. -/
def infoOf (c : Config) (u : Volume) (mounts : List Mount) : Runtime.VolumeInfo :=
  { name := u.name
    mountpoint := mountpointIn mounts (c.mountpointFor u.name)
    status := u.status }

/-- A question for a volume whose name is in order. -/
theorem ends_describe {x : Except Failure Runtime.VolumeInfo} (hname : checkName name = .ok ())
    (h : Ends (describe c name) es x) :
    (∃ f, Unanswered c name es f ∧ x = .error f) ∨
      ∃ options host response u mounts,
        es = [⟨.describeHost, Except.ok host⟩,
          ⟨.call (.provider .get (providerRequest c ⟨name, options, host⟩)), Except.ok response⟩,
          ⟨.call (.getMounts u.serialNumber), Except.ok mounts⟩] ∧
        response.intoVolume name = .ok u ∧ x = .ok (infoOf c u mounts) := by
  have hgathered := ends_gather_bind_iff.1 h
  obtain ⟨options, hoptions⟩ : ∃ options, checkedOptions name .empty = .ok options := by
    rw [checkedOptions, hname]
    exact ⟨_, rfl⟩
  rw [hoptions] at hgathered
  obtain ⟨described, es₁, rfl, hgathered⟩ := hgathered
  cases described with
  | error f =>
    obtain ⟨rfl, rfl⟩ := hgathered
    exact .inl ⟨f, .node f, rfl⟩
  | ok host =>
    obtain ⟨reply, es₂, rfl, hfetched⟩ := ends_fetch_bind_iff.1 (ends_enter_bind_iff.1 hgathered)
    cases hshown : shown name reply with
    | error f =>
      rw [hshown] at hfetched
      obtain ⟨rfl, rfl⟩ := hfetched
      exact .inl ⟨f, .unresolved options host reply hshown, rfl⟩
    | ok u =>
      rw [hshown] at hfetched
      cases reply with
      | error e => cases hshown
      | ok response =>
        rcases ends_call_bind_iff.1 hfetched with ⟨f, rfl, rfl⟩ | ⟨mounts, es₃, rfl, hdone⟩
        · exact .inl ⟨f, .unread options host response hshown f, rfl⟩
        · obtain ⟨rfl, rfl⟩ := ends_pure_iff.1 hdone
          exact .inr ⟨options, host, response, u, mounts, rfl, hshown, rfl⟩

/-- A question for a volume reads only. -/
theorem within_describe {ok : Effect → Prop} (hhost : ok .describeHost)
    (hget : ∀ request, ok (.call (.provider .get request)))
    (hmounts : ∀ serial, ok (.call (.getMounts serial))) (c : Config) (name : String) :
    Within ok (describe c name).run := by
  refine within_bind (within_gather hhost name .empty) fun r => ?_
  have hlocked : Within ok (do
      let response ← provider .get (providerRequest c r)
      let volume ← ofExcept (response.intoVolume r.name)
      let mounts ← call (.getMounts volume.serialNumber)
      return infoOf c volume mounts).run := by
    refine within_bind (within_call (hget _)) fun response => ?_
    refine within_bind (within_ofExcept _) fun volume => ?_
    exact within_bind (within_call (hmounts _)) fun _ => within_pure _
  exact hlocked

/-- A volume is reported at the path at which it is looked for, if it is mounted there, in whatever way the
table writes this path. -/
theorem sameAs_mountpointIn {mounts : List Mount} {path : Path}
    (h : ∃ m ∈ mounts, m.isAt path = true) : (Path.mk (mountpointIn mounts path)).sameAs path = true := by
  cases hfound : mounts.find? fun m => m.isAt path with
  | none =>
    obtain ⟨m, hm, hat⟩ := h
    exact absurd hat (List.find?_eq_none.1 hfound m hm)
  | some m =>
    rw [mountpointIn, hfound]
    exact (List.find?_some hfound :)

theorem mountpointIn_nil (path : Path) : mountpointIn [] path = "" := rfl

end VolumeLifecycle.Workflow
