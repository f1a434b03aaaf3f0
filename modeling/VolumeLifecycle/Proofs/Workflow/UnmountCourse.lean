import VolumeLifecycle.Proofs.Workflow.Agreement
import VolumeLifecycle.Proofs.Workflow.Discipline
import VolumeLifecycle.Proofs.Workflow.Removal
import VolumeLifecycle.Proofs.Workflow.RepairCourse

namespace VolumeLifecycle.Workflow

variable {c : Config} {r : Request} {volume : Volume} {request : Provider.Request}
  {es : List Exchange}

/-- How the release of an unmounted volume fails, and after which exchanges. -/
inductive ReleaseFails (volume : Volume) (request : Provider.Request) :
    List Exchange → Failure → Prop where
  | mounted (f : Failure) :
    ReleaseFails volume request [⟨.call (.unmountDevice volume), Except.error f⟩] f
  /-- The device of a group stays online, and could collide with other hosts. -/
  | online (d : Device) (hgroup : volume.targetScope = .group) (f : Failure) :
    ReleaseFails volume request
      [⟨.call (.unmountDevice volume), Except.ok ()⟩, ⟨.call (.getDevice volume), Except.ok (some d)⟩,
        ⟨.call (.offlineDevice d), Except.error f⟩] f
  | undeleted (d : Device) (offlined : Except Failure Unit)
      (hofflined : ∀ f, offlined = .error f → volume.targetScope ≠ .group)
      (detached : Except Failure Provider.Response) {f : Failure} (hf : ¬ f.Says "not found") :
    ReleaseFails volume request
      [⟨.call (.unmountDevice volume), Except.ok ()⟩, ⟨.call (.getDevice volume), Except.ok (some d)⟩,
        ⟨.call (.offlineDevice d), offlined⟩, ⟨.call (.provider .detach request), detached⟩,
        ⟨.call (.deleteDevice d), Except.error f⟩] f

/-- The exchanges of a release that does not fail. A look-up that fails counts as finding no device, and
a device that is not there when it is to be deleted as deleted. -/
inductive Freed (volume : Volume) (request : Provider.Request) : List Exchange → Prop where
  | found (d : Device) (offlined : Except Failure Unit)
      (hofflined : ∀ f, offlined = .error f → volume.targetScope ≠ .group)
      (detached : Except Failure Provider.Response) (deleted : Except Failure Unit)
      (hdeleted : ∀ f, deleted = .error f → f.Says "not found") :
    Freed volume request
      [⟨.call (.unmountDevice volume), Except.ok ()⟩, ⟨.call (.getDevice volume), Except.ok (some d)⟩,
        ⟨.call (.offlineDevice d), offlined⟩, ⟨.call (.provider .detach request), detached⟩,
        ⟨.call (.deleteDevice d), deleted⟩]
  | absent (lookup : Except Failure (Option Device)) (hlookup : deviceFound lookup = none)
      (detached : Except Failure Provider.Response) :
    Freed volume request
      [⟨.call (.unmountDevice volume), Except.ok ()⟩, ⟨.call (.getDevice volume), lookup⟩,
        ⟨.call (.provider .detach request), detached⟩]

theorem offlineForUnmount_eq (volume : Volume) (d : Device) :
    offlineForUnmount volume d = (attempt (.offlineDevice d) >>= fun reply =>
      ofExcept (tolerate (fun _ => !volume.isGroupScoped) reply)) := by
  refine bind_congr fun reply => ?_
  cases reply with
  | ok u => rfl
  | error f => cases volume.isGroupScoped <;> rfl

theorem deleteForUnmount_eq_tolerate (d : Device) :
    deleteForUnmount d = (attempt (.deleteDevice d) >>= fun reply =>
      ofExcept (tolerate Failure.isNotFound reply)) := by
  refine bind_congr fun reply => ?_
  cases reply with
  | ok u => rfl
  | error f =>
    simp only [tolerate]
    split <;> rfl

/-- The offline step of an unmount fails for a group target only. -/
theorem ends_offlineForUnmount_iff {d : Device} {x : Except Failure Unit} :
    Ends (offlineForUnmount volume d) es x ↔ ∃ offlined : Except Failure Unit,
      es = [⟨.call (.offlineDevice d), offlined⟩] ∧
        x = tolerate (fun _ => !volume.isGroupScoped) offlined := by
  rw [offlineForUnmount_eq]
  exact ends_settled_iff

/-- The deletion of a device that is gone already goes well. -/
theorem ends_deleteForUnmount_iff {d : Device} {x : Except Failure Unit} :
    Ends (deleteForUnmount d) es x ↔ ∃ deleted : Except Failure Unit,
      es = [⟨.call (.deleteDevice d), deleted⟩] ∧ x = tolerate Failure.isNotFound deleted := by
  rw [deleteForUnmount_eq_tolerate]
  exact ends_settled_iff

theorem deviceFound_eq_some_iff {lookup : Except Failure (Option Device)} {d : Device} :
    deviceFound lookup = some d ↔ lookup = .ok (some d) := by
  cases lookup <;> simp [deviceFound]

/-- The offline step of an unmount goes on after a failure if the volume is not one of a group. -/
theorem tolerate_offlined_eq_ok_iff {offlined : Except Failure Unit} :
    tolerate (fun _ => !volume.isGroupScoped) offlined = .ok () ↔
      ∀ f, offlined = .error f → volume.targetScope ≠ .group := by
  simp [tolerate_eq_ok_iff, Volume.isGroupScoped]

/-- The release of an unmounted volume fails in one of these ways, or goes through. -/
theorem ends_releaseUnmounted {x : Except Failure Unit}
    (h : Ends (releaseUnmounted volume request) es x) :
    (∃ f, x = .error f ∧ ReleaseFails volume request es f) ∨
      x = .ok () ∧ Freed volume request es := by
  rcases ends_call_bind_iff.1 h with ⟨f, rfl, rfl⟩ | ⟨_, es₁, rfl, hlooked⟩
  · exact .inl ⟨f, rfl, .mounted f⟩
  obtain ⟨lookup, es₂, rfl, hrest⟩ := ends_resolveDevice_bind_iff.1 hlooked
  cases hfound : deviceFound lookup with
  | none =>
    rw [hfound] at hrest
    obtain ⟨detached, es₃, rfl, hdone⟩ := ends_provideBestEffort_bind_iff.1 hrest
    obtain ⟨rfl, rfl⟩ := ends_pure_iff.1 hdone
    exact .inr ⟨rfl, .absent lookup hfound detached⟩
  | some d =>
    rw [hfound] at hrest
    obtain rfl := deviceFound_eq_some_iff.1 hfound
    rcases ends_bind_iff.1 hrest with ⟨f, rfl, hoffline⟩ | ⟨_, es₃, es₄, rfl, hoffline, hdetach⟩
    · obtain ⟨offlined, rfl, hf⟩ := ends_offlineForUnmount_iff.1 hoffline
      obtain ⟨rfl, hgroup⟩ := tolerate_eq_error_iff.1 hf.symm
      exact .inl ⟨f, rfl, .online d (by simpa [Volume.isGroupScoped] using hgroup) f⟩
    · obtain ⟨offlined, rfl, hofflined⟩ := ends_offlineForUnmount_iff.1 hoffline
      replace hofflined := tolerate_offlined_eq_ok_iff.1 hofflined.symm
      obtain ⟨detached, es₅, rfl, hdelete⟩ := ends_provideBestEffort_bind_iff.1 hdetach
      obtain ⟨deleted, rfl, rfl⟩ := ends_deleteForUnmount_iff.1 hdelete
      cases hdeleted : tolerate Failure.isNotFound deleted with
      | error f =>
        obtain ⟨rfl, hf⟩ := tolerate_eq_error_iff.1 hdeleted
        refine .inl ⟨f, rfl, .undeleted d offlined hofflined detached ?_⟩
        rw [← Failure.isNotFound_iff, hf]
        exact Bool.false_ne_true
      | ok _ =>
        refine .inr ⟨rfl, .found d offlined hofflined detached deleted fun f hf => ?_⟩
        exact Failure.isNotFound_iff.1 (tolerate_eq_ok_iff.1 hdeleted f hf)

theorem ReleaseFails.ends {f : Failure} (h : ReleaseFails volume request es f) :
    Ends (releaseUnmounted volume request) es (.error f) := by
  cases h with
  | mounted => exact ends_call_bind_iff.2 (.inl ⟨f, rfl, rfl⟩)
  | online d hgroup =>
    refine ends_call_bind_iff.2 (.inr ⟨(), _, rfl, ends_resolveDevice_bind_iff.2 ⟨_, _, rfl, ?_⟩⟩)
    refine ends_bind_iff.2 (.inl ⟨f, rfl, ends_offlineForUnmount_iff.2 ⟨_, rfl, ?_⟩⟩)
    simp [tolerate, Volume.isGroupScoped, hgroup]
  | undeleted d offlined hofflined detached hf =>
    refine ends_call_bind_iff.2 (.inr ⟨(), _, rfl, ends_resolveDevice_bind_iff.2 ⟨_, _, rfl, ?_⟩⟩)
    refine ends_bind_iff.2 (.inr ⟨(), _, _, List.singleton_append.symm,
      ends_offlineForUnmount_iff.2 ⟨_, rfl, (tolerate_offlined_eq_ok_iff.2 hofflined).symm⟩, ?_⟩)
    refine ends_provideBestEffort_bind_iff.2 ⟨detached, _, rfl,
      ends_deleteForUnmount_iff.2 ⟨.error f, rfl, (tolerate_eq_error_iff.2 ⟨rfl, ?_⟩).symm⟩⟩
    exact Bool.eq_false_iff.2 fun hgone => hf (Failure.isNotFound_iff.1 hgone)

theorem Freed.ends (h : Freed volume request es) :
    Ends (releaseUnmounted volume request) es (.ok ()) := by
  cases h with
  | found d offlined hofflined detached deleted hdeleted =>
    refine ends_call_bind_iff.2 (.inr ⟨(), _, rfl, ends_resolveDevice_bind_iff.2 ⟨_, _, rfl, ?_⟩⟩)
    refine ends_bind_iff.2 (.inr ⟨(), _, _, List.singleton_append.symm,
      ends_offlineForUnmount_iff.2 ⟨_, rfl, (tolerate_offlined_eq_ok_iff.2 hofflined).symm⟩, ?_⟩)
    refine ends_provideBestEffort_bind_iff.2 ⟨detached, _, rfl,
      ends_deleteForUnmount_iff.2 ⟨deleted, rfl, (tolerate_eq_ok_iff.2 fun f hf => ?_).symm⟩⟩
    exact Failure.isNotFound_iff.2 (hdeleted f hf)
  | absent lookup hlookup detached =>
    refine ends_call_bind_iff.2 (.inr ⟨(), _, rfl, ends_resolveDevice_bind_iff.2 ⟨_, _, rfl, ?_⟩⟩)
    rw [hlookup]
    exact ends_provideBestEffort_bind_iff.2 ⟨detached, _, rfl, ends_pure_iff.2 ⟨rfl, rfl⟩⟩

/-- What follows when a volume was released. One that goes away with its last host is removed with the
same request, and it does not matter how that ends. -/
inductive Cascade (c : Config) (r : Request) (volume : Volume) : List Exchange → Prop where
  | kept (hkept : volume.destroyOnDetach = false) : Cascade c r volume []
  | removed (hgoes : volume.destroyOnDetach = true) {es : List Exchange} {y : Except Failure Unit}
      (hremoved : Ends (removeLocked c r) es y) : Cascade c r volume es

/-- What an unmount does inside of the gate, and its result. -/
inductive Unmounting (c : Config) (r : Request) : List Exchange → Except Failure Unit → Prop where
  | refused (reply : Except Failure Provider.Response) {f : Failure} (hreply : checked reply = .error f) :
    Unmounting c r [⟨.call (.provider .unmount (providerRequest c r)), reply⟩] (.error f)
  /-- Other containers still hold the volume. -/
  | held (response : Provider.Response) (herr : response.err = "")
      (hheld : response.message = Provider.Response.doNotUnmount) :
    Unmounting c r [⟨.call (.provider .unmount (providerRequest c r)), Except.ok response⟩] (.ok ())
  | volumeless (response : Provider.Response) (herr : response.err = "")
      (hunheld : response.message ≠ Provider.Response.doNotUnmount) (hnone : response.volume = none) :
    Unmounting c r [⟨.call (.provider .unmount (providerRequest c r)), Except.ok response⟩]
      (.error (.notFound ("volume " ++ r.name)))
  | stopped {response : Provider.Response} {volume : Volume} (hyields : Yields response volume)
      {release : List Exchange} {f : Failure}
      (hrelease : ReleaseFails volume (providerRequest c r) release f) :
    Unmounting c r
      (⟨.call (.provider .unmount (providerRequest c r)), Except.ok response⟩ :: release) (.error f)
  | released {response : Provider.Response} {volume : Volume} (hyields : Yields response volume)
      {release cascade : List Exchange} (hrelease : Freed volume (providerRequest c r) release)
      (hcascade : Cascade c r volume cascade) :
    Unmounting c r
      (⟨.call (.provider .unmount (providerRequest c r)), Except.ok response⟩ :: (release ++ cascade))
      (.ok ())

/-- A volume that goes away with its last host is removed, whatever comes of that. -/
theorem ends_cascade_iff {x : Except Failure Unit} :
    Ends (if volume.destroyOnDetach then do
        let _ ← result (removeLocked c r)
      else pure ()) es x ↔ x = .ok () ∧ Cascade c r volume es := by
  cases hgoes : volume.destroyOnDetach with
  | false =>
    simp only [Bool.false_eq_true, if_false, ends_pure_iff]
    constructor
    · rintro ⟨rfl, rfl⟩
      exact ⟨rfl, .kept hgoes⟩
    · rintro ⟨rfl, hcascade⟩
      cases hcascade with
      | kept => exact ⟨rfl, rfl⟩
      | removed hgoes' => cases hgoes.symm.trans hgoes'
  | true =>
    simp only [if_true, ends_result_bind_iff]
    constructor
    · rintro ⟨y, es₁, es₂, rfl, hremoved, hdone⟩
      obtain ⟨rfl, rfl⟩ := ends_pure_iff.1 hdone
      rw [List.append_nil]
      exact ⟨rfl, .removed hgoes hremoved⟩
    · rintro ⟨rfl, hcascade⟩
      cases hcascade with
      | kept hkept => cases hgoes.symm.trans hkept
      | removed _ hremoved =>
        exact ⟨_, es, [], (List.append_nil es).symm, hremoved, ends_pure_iff.2 ⟨rfl, rfl⟩⟩

/-- Once the device is unmounted, the release fails at a step that matters, or goes through. -/
theorem ends_afterUnmount_iff {x : Except Failure Unit} :
    Ends (afterUnmount c r volume) es x ↔
      (∃ f, x = .error f ∧ ReleaseFails volume (providerRequest c r) es f) ∨
        ∃ release cascade, x = .ok () ∧ es = release ++ cascade ∧
          Freed volume (providerRequest c r) release ∧ Cascade c r volume cascade := by
  refine ends_bind_iff.trans ⟨?_, ?_⟩
  · rintro (⟨f, rfl, hrelease⟩ | ⟨_, release, cascade, rfl, hrelease, hlast⟩)
    · rcases ends_releaseUnmounted hrelease with ⟨f, ⟨⟩, hfails⟩ | ⟨hok, -⟩
      · exact .inl ⟨f, rfl, hfails⟩
      · cases hok
    · rcases ends_releaseUnmounted hrelease with ⟨f, hfails, -⟩ | ⟨-, hfreed⟩
      · cases hfails
      · obtain ⟨rfl, hcascade⟩ := ends_cascade_iff.1 hlast
        exact .inr ⟨release, cascade, rfl, rfl, hfreed, hcascade⟩
  · rintro (⟨f, rfl, hfails⟩ | ⟨release, cascade, rfl, rfl, hfreed, hcascade⟩)
    · exact .inl ⟨f, rfl, hfails.ends⟩
    · exact .inr ⟨(), release, cascade, rfl, hfreed.ends, ends_cascade_iff.2 ⟨rfl, hcascade⟩⟩

/-- An unmount inside of the gate takes one of its courses. -/
theorem unmounting_of_ends {x : Except Failure Unit} (h : Ends (unmountLocked c r) es x) :
    Unmounting c r es x := by
  obtain ⟨reply, rest, rfl, hreplied⟩ := ends_unmountLocked_iff.1 h
  cases hreplied with
  | refused hreply => exact .refused reply hreply
  | held response herr hheld => exact .held response herr hheld
  | volumeless response herr hunheld hnone => exact .volumeless response herr hunheld hnone
  | yielded hyields hafter =>
    rcases ends_afterUnmount_iff.1 hafter with
      ⟨f, rfl, hfails⟩ | ⟨release, cascade, rfl, rfl, hfreed, hcascade⟩
    · exact .stopped hyields hfails
    · exact .released hyields hfreed hcascade

theorem Unmounting.ends {x : Except Failure Unit} (h : Unmounting c r es x) :
    Ends (unmountLocked c r) es x := by
  refine ends_unmountLocked_iff.2 ?_
  cases h with
  | refused reply hreply => exact ⟨reply, [], rfl, .refused hreply⟩
  | held response herr hheld => exact ⟨_, [], rfl, .held response herr hheld⟩
  | volumeless response herr hunheld hnone =>
    exact ⟨_, [], rfl, .volumeless response herr hunheld hnone⟩
  | stopped hyields hfails =>
    exact ⟨_, _, rfl, .yielded hyields (ends_afterUnmount_iff.2 (.inl ⟨_, rfl, hfails⟩))⟩
  | released hyields hfreed hcascade =>
    refine ⟨_, _, rfl, .yielded hyields (ends_afterUnmount_iff.2 (.inr ?_))⟩
    exact ⟨_, _, rfl, rfl, hfreed, hcascade⟩

/-- An unmount passes the gate once, calls nobody before that, and once inside takes one of these
courses; and it can take each of them. In particular, nothing is tried after the provider has refused,
after it has said that other containers hold the volume or has not said which volume it is, after the
device could not be unmounted, and after that of a group could not be taken offline. -/
theorem unmount_course (c : Config) (current : Host) (request : Runtime.MountRequest) :
    ((Command.unmount request).program c current).Passes noCall (fun _ => True)
        (some (request.name, .unmount)) ∧
      ∀ es answer, ((Command.unmount request).program c current).Runs es (some answer) ↔
        ∃ result, answer = .driver (.ofResult result) ∧
          Gathered request.name request.opts (Unmounting c) es result := by
  refine ⟨(Command.program_passes c current (.unmount request)).mono fun _ _ => trivial,
    fun es answer => ?_⟩
  have hgathered : ∀ result, Ends (unmount c request.name request.opts) es result ↔
      Gathered request.name request.opts (Unmounting c) es result := fun _ =>
    ends_gathered_iff fun _ _ _ => ⟨unmounting_of_ends, Unmounting.ends⟩
  refine Command.runs_answering_iff.trans (exists_congr fun result => ?_)
  rw [hgathered, and_comm]

/-- A provider that does not say which volume it has unmounted is not asked for anything else: nothing
is detached. -/
theorem volumeless_unmount_detaches_nothing :
    let r : Request := ⟨"vol1", {}, { uuid := "node" }⟩
    let reply : Provider.Response := {}
    let es : List Exchange :=
      [⟨.describeHost, Except.ok r.host⟩,
        ⟨.call (.provider .unmount (providerRequest {} r)), Except.ok reply⟩]
    reply.err = "" ∧ reply.message ≠ Provider.Response.doNotUnmount ∧
      ((Command.unmount { name := "vol1" }).program {} r.host).Runs es
        (some (.driver ⟨"volume vol1 not found"⟩)) ∧
      .provider .detach ∉ kinds es := by
  intro r reply es
  refine ⟨rfl, by decide, Command.runs_answering_iff.2 ⟨.error (.notFound "volume vol1"), ?_, rfl⟩,
    by decide⟩
  have hunmounting : Unmounting {} r _ _ := .volumeless reply rfl (by decide) rfl
  exact (ends_gathered_iff (w := unmountLocked {}) fun _ _ _ => ⟨unmounting_of_ends, Unmounting.ends⟩).2
    (.inside rfl r.host hunmounting)

end VolumeLifecycle.Workflow
