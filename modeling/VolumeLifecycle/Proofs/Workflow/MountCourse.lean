import VolumeLifecycle.Proofs.Program.Determined
import VolumeLifecycle.Proofs.Workflow.MountRun
import VolumeLifecycle.Proofs.Workflow.Rollback
import VolumeLifecycle.Testbed

namespace VolumeLifecycle.Workflow

open Program (Within)

variable {volume : Volume} {request : Provider.Request} {mountpoint : Path} {es : List Exchange}

/-- How the creation of a filesystem on first mount fails. -/
inductive CreationFails (volume : Volume) (mountpoint : Path) (filesystem : String) :
    List Exchange → Failure → Prop where
  | attach (e : Failure) :
    CreationFails volume mountpoint filesystem [⟨.call (.attachDevice [volume]), Except.error e⟩] e
  | noDevice :
    CreationFails volume mountpoint filesystem [⟨.call (.attachDevice [volume]), Except.ok []⟩]
      (noDeviceFor volume)
  | setup (d : Device) (more : List Device) (e : Failure) :
    CreationFails volume mountpoint filesystem
      [⟨.call (.attachDevice [volume]), Except.ok (d :: more)⟩,
        ⟨.call (.setupFilesystem d volume filesystem), Except.error e⟩] e
  | mount (d : Device) (more : List Device) (e : Failure) :
    CreationFails volume mountpoint filesystem
      [⟨.call (.attachDevice [volume]), Except.ok (d :: more)⟩,
        ⟨.call (.setupFilesystem d volume filesystem), Except.ok ()⟩,
        ⟨.call (.mountDevice d mountpoint), Except.error e⟩] e

/-- How this node's part of a mount fails: the mounts cannot be listed, or the volume cannot be mounted
and no filesystem is to be created, or that fails too. -/
inductive HostFails (volume : Volume) (mountpoint : Path) : List Exchange → Failure → Prop where
  | lookup (e : Failure) :
    HostFails volume mountpoint [⟨.call (.getMounts volume.serialNumber), Except.error e⟩] e
  | mount (mounts : List Mount) (hmounts : mounts.any (·.servesAt mountpoint) = false)
      (hplain : volume.delayedFilesystem = none) (e : Failure) :
    HostFails volume mountpoint
      [⟨.call (.getMounts volume.serialNumber), Except.ok mounts⟩,
        ⟨.call (.attachAndMountDevice volume mountpoint), Except.error e⟩] e
  | creation (mounts : List Mount) (hmounts : mounts.any (·.servesAt mountpoint) = false)
      {filesystem : String} (hfilesystem : volume.delayedFilesystem = some filesystem)
      (refusal : Failure) {rest : List Exchange} {e : Failure}
      (hrest : CreationFails volume mountpoint filesystem rest e) :
    HostFails volume mountpoint
      (⟨.call (.getMounts volume.serialNumber), Except.ok mounts⟩ ::
        ⟨.call (.attachAndMountDevice volume mountpoint), Except.error refusal⟩ :: rest) e

/-- An attach fails, gives no device, or gives one to go on with. -/
theorem ends_attachFirst_bind_iff {β : Type} {f : Device → Workflow β} {x : Except Failure β} :
    Ends (attachFirst volume >>= f) es x ↔
      (∃ e, x = .error e ∧ es = [⟨.call (.attachDevice [volume]), Except.error e⟩]) ∨
        (x = .error (noDeviceFor volume) ∧
          es = [⟨.call (.attachDevice [volume]), Except.ok []⟩]) ∨
        ∃ d more es', es = ⟨.call (.attachDevice [volume]), Except.ok (d :: more)⟩ :: es' ∧
          Ends (f d) es' x := by
  rw [attachFirst, bind_assoc, ends_call_bind_iff]
  refine or_congr_right ?_
  constructor
  · rintro ⟨devices, es₁, rfl, h⟩
    cases devices with
    | nil =>
      obtain ⟨rfl, rfl⟩ := ends_fail_iff.1 h
      exact .inl ⟨rfl, rfl⟩
    | cons d more => exact .inr ⟨d, more, es₁, rfl, h⟩
  · rintro (⟨rfl, rfl⟩ | ⟨d, more, es₁, rfl, h⟩)
    · exact ⟨[], [], rfl, ends_fail_iff.2 ⟨rfl, rfl⟩⟩
    · exact ⟨d :: more, es₁, rfl, h⟩

/-- The creation of a filesystem fails exactly as said above. -/
theorem ends_createOnFirstMount_error_iff {filesystem : String} {e : Failure} :
    Ends (createOnFirstMount volume mountpoint filesystem) es (.error e) ↔
      CreationFails volume mountpoint filesystem es e := by
  rw [createOnFirstMount, ends_attachFirst_bind_iff]
  constructor
  · rintro (⟨e', heq, rfl⟩ | ⟨heq, rfl⟩ | ⟨d, more, es₁, rfl, h⟩)
    · cases heq
      exact .attach e
    · cases heq
      exact .noDevice
    rcases ends_call_bind_iff.1 h with ⟨e', heq, rfl⟩ | ⟨_, es₂, rfl, hset⟩
    · cases heq
      exact .setup d more e
    rcases ends_call_bind_iff.1 hset with ⟨e', heq, rfl⟩ | ⟨m, es₃, rfl, hmounted⟩
    · cases heq
      exact .mount d more e
    · cases (ends_pure_iff.1 hmounted).2
  · intro h
    cases h with
    | attach => exact .inl ⟨e, rfl, rfl⟩
    | noDevice => exact .inr (.inl ⟨rfl, rfl⟩)
    | setup d more =>
      exact .inr (.inr ⟨d, more, _, rfl, ends_call_bind_iff.2 (.inl ⟨e, rfl, rfl⟩)⟩)
    | mount d more =>
      refine .inr (.inr ⟨d, more, _, rfl, ends_call_bind_iff.2 (.inr ⟨(), _, rfl, ?_⟩)⟩)
      exact ends_call_bind_iff.2 (.inl ⟨e, rfl, rfl⟩)

/-- The failures of this node's part are exactly those above. -/
theorem ends_mountOnHost_error_iff {e : Failure} :
    Ends (mountOnHost volume mountpoint) es (.error e) ↔ HostFails volume mountpoint es e := by
  rw [mountOnHost, ends_call_bind_iff]
  constructor
  · rintro (⟨e', heq, rfl⟩ | ⟨mounts, es₁, rfl, h⟩)
    · cases heq
      exact .lookup e
    cases hserves : mounts.any (·.servesAt mountpoint) with
    | true =>
      simp only [hserves, if_true] at h
      cases (ends_pure_iff.1 h).2
    | false =>
      simp only [hserves, Bool.false_eq_true, if_false] at h
      obtain ⟨reply, es₂, rfl, htried⟩ := ends_attempt_bind_iff.1 h
      cases reply with
      | ok m => cases (ends_pure_iff.1 htried).2
      | error refusal =>
        cases hfilesystem : volume.delayedFilesystem with
        | none =>
          simp only [hfilesystem] at htried
          obtain ⟨rfl, heq⟩ := ends_fail_iff.1 htried
          cases heq
          exact .mount mounts hserves hfilesystem e
        | some filesystem =>
          simp only [hfilesystem] at htried
          rcases ends_bind_iff.1 htried with ⟨e', heq, hfails⟩ | ⟨_, es₃, es₄, rfl, -, hdone⟩
          · cases heq
            exact .creation mounts hserves hfilesystem refusal
              (ends_createOnFirstMount_error_iff.1 hfails)
          · cases (ends_pure_iff.1 hdone).2
  · intro h
    cases h with
    | lookup => exact .inl ⟨e, rfl, rfl⟩
    | mount mounts hmounts hplain =>
      refine .inr ⟨mounts, _, rfl, ?_⟩
      simp only [hmounts, Bool.false_eq_true, if_false]
      refine ends_attempt_bind_iff.2 ⟨.error e, _, rfl, ?_⟩
      simp only [hplain]
      exact ends_fail_iff.2 ⟨rfl, rfl⟩
    | creation mounts hmounts hfilesystem refusal hrest =>
      refine .inr ⟨mounts, _, rfl, ?_⟩
      simp only [hmounts, Bool.false_eq_true, if_false]
      refine ends_attempt_bind_iff.2 ⟨.error refusal, _, rfl, ?_⟩
      simp only [hfilesystem]
      exact ends_bind_iff.2 (.inl ⟨e, rfl, ends_createOnFirstMount_error_iff.2 hrest⟩)

def undoing : Call.Kind → Bool
  | .provider .unmount => true
  | .getDevice => true
  | .offlineDevice => true
  | .provider .detach => true
  | .deleteDevice => true
  | _ => false

def Undoes : Effect → Prop
  | .removeDirectory _ => True
  | .call c => undoing c.kind = true
  | _ => False

def repairing : Call.Kind → Bool
  | .provider .get => true
  | .getMounts => true
  | .getDevice => true
  | .unmountFileSystem => true
  | .deleteDevice => true
  | _ => false

/-- The effects of a repair of stale mounts. It looks the device up and may delete it, but it removes no
directory, and it neither takes a device offline nor tells the provider that the volume is released. -/
def Repairs : Effect → Prop
  | .call c => repairing c.kind = true
  | _ => False

/-- To gather the inputs of a workflow only this node is described. -/
theorem within_gather {ok : Effect → Prop} (h : ok .describeHost) (name : String)
    (opts : Dict Json) : Within ok (gather name opts).run := by
  refine within_bind (within_ofExcept _) fun _ => ?_
  refine within_bind (within_ofExcept _) fun options => ?_
  exact within_bind (within_describeHost h) fun host => within_pure _

/-- To gather the inputs of a mount only this node is described. -/
theorem within_gatherMount {ok : Effect → Prop} (h : ok .describeHost) (c : Config) (name : String)
    (opts : Dict Json) : Within ok (gatherMount c name opts).run := by
  refine within_bind (within_gather h name opts) fun r => ?_
  split
  · exact within_bind (within_ofExcept _) fun host => within_pure _
  · exact within_pure _

theorem within_unmountAll {ok : Effect → Prop} (h : ∀ path, ok (.call (.unmountFileSystem path)))
    (mounts : List Mount) : Within ok (unmountAll mounts).run := by
  induction mounts with
  | nil => exact within_pure _
  | cons m rest ih =>
    refine within_bind (within_attempt (h _)) fun reply => ?_
    split
    · split
      · exact ih
      · exact within_fail _
    · exact ih

/-- The effects of a repair of stale mounts. -/
theorem within_reconcile (name : String) (host : Host) :
    Within Repairs (reconcile name host).run := by
  refine within_bind (within_call rfl) fun response => ?_
  refine within_bind (within_ofExcept _) fun volume => ?_
  refine within_bind (within_call rfl) fun mounts => ?_
  split
  · exact within_pure _
  refine within_bind (within_call rfl) fun device => ?_
  split
  · exact within_fail _
  split
  · exact within_pure _
  refine within_bind (within_unmountAll (fun _ => rfl) _) fun _ => ?_
  refine within_bind ?_ fun _ => within_pure _
  unfold deleteShared
  split
  · refine within_bind (within_attempt rfl) fun reply => ?_
    split <;> exact within_pure _
  · exact within_pure _

theorem within_attachFirst {ok : Effect → Prop} (h : ok (.call (.attachDevice [volume]))) :
    Within ok (attachFirst volume).run := by
  refine within_bind (within_call h) fun devices => ?_
  split
  · exact within_pure _
  · exact within_fail _

def mounting : Call.Kind → Bool
  | .getMounts => true
  | .attachAndMountDevice => true
  | .attachDevice => true
  | .setupFilesystem => true
  | .mountDevice => true
  | _ => false

/-- The effects of this node's part of a mount. -/
theorem within_mountOnHost {ok : Effect → Prop}
    (h : ∀ call : Call, mounting call.kind = true → ok (.call call)) (volume : Volume)
    (mountpoint : Path) : Within ok (mountOnHost volume mountpoint).run := by
  refine within_bind (within_call (h _ rfl)) fun mounts => ?_
  split
  · exact within_pure _
  refine within_bind (within_attempt (h _ rfl)) fun reply => ?_
  split
  · exact within_pure _
  split
  · exact within_fail _
  refine within_bind ?_ fun _ => within_pure _
  refine within_bind (within_attachFirst (h _ rfl)) fun d => ?_
  refine within_bind (within_call (h _ rfl)) fun _ => ?_
  exact within_bind (within_call (h _ rfl)) fun _ => within_pure _

theorem within_mountOnProvider {ok : Effect → Prop} {request : Provider.Request}
    (h : ok (.call (.provider .mount request))) (r : Request) :
    Within ok (mountOnProvider r request).run :=
  within_bind (within_attempt h) fun _ => within_bind (within_ofExcept _) fun _ => within_pure _

variable {c : Config} {name : String}

def mountedHere (u : Volume) : Volume :=
  { u with connectionMode := some Volume.manualConnection }

def shown (name : String) : Except Failure Provider.Response → Except Failure Volume
  | .ok response => response.intoVolume name
  | .error f => .error f

/-- The provider's part of a mount is one call; it goes well if the reply shows a volume. -/
theorem ends_mountOnProvider_iff {r : Request} {request : Provider.Request}
    {x : Except Failure Volume} :
    Ends (mountOnProvider r request) es x ↔
      ∃ reply : Except Failure Provider.Response,
        es = [⟨.call (.provider .mount request), reply⟩] ∧ x = match shown r.name reply with
          | .error f => .error (f.clarifyBusy r.name)
          | .ok u => .ok (mountedHere u) := by
  rw [mountOnProvider, ends_attempt_bind_iff]
  refine exists_congr fun reply => ?_
  have hshown : ∀ result : Except Failure Volume, ∀ es',
      Ends (do
        let volume ← ofExcept (result.mapError fun f => f.clarifyBusy r.name)
        pure { volume with connectionMode := some Volume.manualConnection }) es' x ↔
      es' = [] ∧ x = match result with
        | .error f => .error (f.clarifyBusy r.name)
        | .ok u => .ok (mountedHere u) := by
    intro result es'
    rw [ends_ofExcept_bind_iff]
    cases result with
    | error f => rfl
    | ok u => exact ends_pure_iff
  constructor
  · rintro ⟨es', rfl, h⟩
    obtain ⟨rfl, rfl⟩ := (hshown _ es').1 h
    cases reply <;> exact ⟨rfl, rfl⟩
  · rintro ⟨rfl, rfl⟩
    refine ⟨[], rfl, (hshown _ []).2 ⟨rfl, ?_⟩⟩
    cases reply <;> rfl

/-- What follows when this node has mounted a volume: the marks of a filesystem that was still to be
created are taken away. -/
inductive Tidied (volume : Volume) : List Exchange → Prop where
  | unmarked (hunmarked : volume.hasDelayedCreate = false) : Tidied volume []
  | marked (hmarked : volume.hasDelayedCreate = true) (reply : Except Failure Provider.Response) :
    Tidied volume
      [⟨.call (.provider .update (((Provider.Request.named volume.name).withOpt
        Volume.delayedCreateKey .null).withOpt Volume.filesystemKey .null)), reply⟩]

/-- What a mount does inside of the gate after the provider's reply, and its result. If the reply shows
no volume, nothing. If this node's part fails with `e`, the mount of the same request is undone. -/
inductive Mounting (c : Config) (r : Request) :
    Except Failure Provider.Response → List Exchange → Except Failure Path → Prop where
  | refused {reply : Except Failure Provider.Response} {f : Failure}
      (hreply : shown r.name reply = .error f) :
    Mounting c r reply [] (.error (f.clarifyBusy r.name))
  | mounted {reply : Except Failure Provider.Response} {u : Volume}
      (hreply : shown r.name reply = .ok u) {how : HostMount} {onHost after : List Exchange}
      (honHost : Ends (mountOnHost (mountedHere u) (c.mountpointFor u.name)) onHost (.ok how))
      (hafter : Tidied (mountedHere u) after) :
    Mounting c r reply (onHost ++ after) (.ok (c.mountpointFor u.name))
  | undone {reply : Except Failure Provider.Response} {u : Volume}
      (hreply : shown r.name reply = .ok u) {onHost after : List Exchange} {e f : Failure}
      (honHost : HostFails (mountedHere u) (c.mountpointFor u.name) onHost e)
      (hafter : Undone (providerRequest c r) (mountedHere u) (c.mountpointFor u.name) e after f) :
    Mounting c r reply (onHost ++ after) (.error f)

/-- Inside of the gate the provider is asked for the mount first. -/
theorem mounting_of_ends {r : Request} {x : Except Failure Path} (h : Ends (mountLocked c r) es x) :
    ∃ (reply : Except Failure Provider.Response) (rest : _),
      es = ⟨.call (.provider .mount (providerRequest c r)), reply⟩ :: rest ∧
        Mounting c r reply rest x := by
  rcases ends_bind_iff.1 h with ⟨e, rfl, hprovider⟩ | ⟨volume, es₁, es₂, rfl, hprovider, hrest⟩
  · obtain ⟨reply, rfl, he⟩ := ends_mountOnProvider_iff.1 hprovider
    cases hreply : shown r.name reply with
    | ok u => simp [hreply] at he
    | error f =>
      obtain rfl : e = f.clarifyBusy r.name := by simpa [hreply] using he
      exact ⟨reply, [], rfl, .refused hreply⟩
  obtain ⟨reply, rfl, hvolume⟩ := ends_mountOnProvider_iff.1 hprovider
  refine ⟨reply, es₂, rfl, ?_⟩
  cases hreply : shown r.name reply with
  | error f => simp [hreply] at hvolume
  | ok u =>
    obtain rfl : volume = mountedHere u := by simpa [hreply] using hvolume
    obtain ⟨y, onHost, after, rfl, honHost, hafter⟩ := ends_result_bind_iff.1 hrest
    cases y with
    | error e =>
      obtain ⟨f, rfl, hundone⟩ := ends_undoMount_bind_iff.1 hafter
      exact .undone hreply (ends_mountOnHost_error_iff.1 honHost) hundone
    | ok how =>
      cases hmarked : (mountedHere u).hasDelayedCreate with
      | false =>
        simp only [hmarked, Bool.false_eq_true, if_false] at hafter
        obtain ⟨rfl, rfl⟩ := ends_pure_iff.1 hafter
        exact .mounted hreply honHost (.unmarked hmarked)
      | true =>
        simp only [hmarked, if_true] at hafter
        obtain ⟨cleared, es₃, rfl, hdone⟩ := ends_provideBestEffort_bind_iff.1 hafter
        obtain ⟨rfl, rfl⟩ := ends_pure_iff.1 hdone
        exact .mounted hreply honHost (.marked hmarked cleared)

/-- Every course inside of the gate is one of the mount's. -/
theorem Mounting.ends {r : Request} {reply : Except Failure Provider.Response}
    {x : Except Failure Path} (h : Mounting c r reply es x) :
    Ends (mountLocked c r) (⟨.call (.provider .mount (providerRequest c r)), reply⟩ :: es) x := by
  have hprovider : Ends (mountOnProvider r (providerRequest c r))
      [⟨.call (.provider .mount (providerRequest c r)), reply⟩] _ :=
    ends_mountOnProvider_iff.2 ⟨reply, rfl, rfl⟩
  cases h with
  | refused hreply =>
    rw [hreply] at hprovider
    exact ends_bind_iff.2 (.inl ⟨_, rfl, hprovider⟩)
  | mounted hreply honHost hafter =>
    rw [hreply] at hprovider
    refine ends_bind_iff.2 (.inr ⟨_, _, _, rfl, hprovider, ?_⟩)
    refine ends_result_bind_iff.2 ⟨_, _, _, rfl, honHost, ?_⟩
    cases hafter with
    | unmarked hunmarked =>
      simp only [hunmarked, Bool.false_eq_true, if_false]
      exact ends_pure_iff.2 ⟨rfl, rfl⟩
    | marked hmarked cleared =>
      simp only [hmarked, if_true]
      exact ends_provideBestEffort_bind_iff.2 ⟨cleared, [], rfl, ends_pure_iff.2 ⟨rfl, rfl⟩⟩
  | undone hreply honHost hafter =>
    rw [hreply] at hprovider
    refine ends_bind_iff.2 (.inr ⟨_, _, _, rfl, hprovider, ?_⟩)
    refine ends_result_bind_iff.2 ⟨_, _, _, rfl, ends_mountOnHost_error_iff.2 honHost, ?_⟩
    exact ends_undoMount_bind_iff.2 ⟨_, rfl, hafter⟩

/-- What a mount does from its beginning to its end, and its result. It ends before the gate if its
inputs are refused or the repair of stale mounts fails; a conflict wait does not fail. -/
inductive MountAttempt (c : Config) (name : String) (opts : Dict Json) :
    List Exchange → Except Failure Path → Prop where
  | refused {inputs : List Exchange} {f : Failure}
      (hinputs : Ends (gatherMount c name opts) inputs (.error f)) :
    MountAttempt c name opts inputs (.error f)
  | unrepaired {inputs repair : List Exchange} {r : Request} {f : Failure}
      (hinputs : Ends (gatherMount c name opts) inputs (.ok r))
      (hrepair : Ends (reconcile r.name r.host) repair (.error f)) :
    MountAttempt c name opts (inputs ++ repair) (.error f)
  | admitted {inputs repair waiting inside : List Exchange} {r : Request} {cleanup : Cleanup}
      {verdict : Conflict.Verdict} {reply : Except Failure Provider.Response}
      {x : Except Failure Path} (hinputs : Ends (gatherMount c name opts) inputs (.ok r))
      (hrepair : Ends (reconcile r.name r.host) repair (.ok cleanup))
      (hwaiting : Ends (awaitConflict c .mount r) waiting (.ok verdict))
      (hinside : Mounting c r reply inside x) :
    MountAttempt c name opts
      (inputs ++ (repair ++ (waiting ++
        ⟨.call (.provider .mount (providerRequest c r)), reply⟩ :: inside))) x

/-- The exchanges with which a mount ends, part by part. -/
theorem ends_mount_iff {opts : Dict Json} {x : Except Failure Path} :
    Ends (mount c name opts) es x ↔ MountAttempt c name opts es x := by
  constructor
  · intro h
    rcases ends_bind_iff.1 h with ⟨f, rfl, hinputs⟩ | ⟨r, inputs, es₁, rfl, hinputs, hrest⟩
    · exact .refused hinputs
    rcases ends_bind_iff.1 hrest with ⟨f, rfl, hrepair⟩ | ⟨_, repair, es₂, rfl, hrepair, hwaits⟩
    · exact .unrepaired hinputs hrepair
    rcases ends_bind_iff.1 hwaits with ⟨f, -, hwaited⟩ | ⟨_, waiting, es₃, rfl, hwaited, hlocked⟩
    · obtain ⟨verdict, hverdict⟩ := ends_await hwaited
      cases hverdict
    obtain ⟨reply, inside, rfl, hinside⟩ := mounting_of_ends (ends_enter_bind_iff.1 hlocked)
    exact .admitted hinputs hrepair hwaited hinside
  · intro h
    cases h with
    | refused hinputs => exact ends_bind_iff.2 (.inl ⟨_, rfl, hinputs⟩)
    | unrepaired hinputs hrepair =>
      refine ends_bind_iff.2 (.inr ⟨_, _, _, rfl, hinputs, ?_⟩)
      exact ends_bind_iff.2 (.inl ⟨_, rfl, hrepair⟩)
    | admitted hinputs hrepair hwaiting hinside =>
      refine ends_bind_iff.2 (.inr ⟨_, _, _, rfl, hinputs, ?_⟩)
      refine ends_bind_iff.2 (.inr ⟨_, _, _, rfl, hrepair, ?_⟩)
      refine ends_bind_iff.2 (.inr ⟨_, _, _, rfl, hwaiting, ?_⟩)
      exact ends_enter_bind_iff.2 hinside.ends

/-- This node's part of a mount has failed with `e`, after the provider's mount has shown the volume;
`after` is what follows. -/
def HostFailed (c : Config) (name : String) (es : List Exchange) (request : Provider.Request)
    (u : Volume) (e : Failure) (after : List Exchange) : Prop :=
  ∃ (before : List Exchange) (reply : Except Failure Provider.Response) (onHost : List Exchange),
    es = before ++ ⟨.call (.provider .mount request), reply⟩ :: (onHost ++ after) ∧
      shown name reply = .ok u ∧ HostFails (mountedHere u) (c.mountpointFor u.name) onHost e

/-- Nothing is rolled back. The repair of stale mounts, which may look a device up and delete it, is
no rollback. -/
def Spared (name : String) (es : List Exchange) : Prop :=
  ∃ before repair after, es = before ++ (repair ++ after) ∧ (∀ ex ∈ before, ¬ Undoes ex.effect) ∧
    (repair = [] ∨ ∃ host cleanup, Ends (reconcile name host) repair cleanup) ∧
    (∀ ex ∈ repair, Repairs ex.effect) ∧ ∀ ex ∈ after, ¬ Undoes ex.effect

/-- What a mount does, and its result. A rollback follows if this node's part fails after the
provider has mounted the volume, and in no other case. -/
structure MountCourse (c : Config) (name : String) (opts : Dict Json) (es : List Exchange)
    (x : Except Failure Path) : Prop where
  attempt : MountAttempt c name opts es x
  /-- If this node's part fails after the provider's mount, all that follows is the rollback. -/
  undone : ∀ {request u e after}, HostFailed c name es request u e after →
    ∃ f, x = .error f ∧ Undone request (mountedHere u) (c.mountpointFor u.name) e after f
  spared : (∀ request u e after, ¬ HostFailed c name es request u e after) → Spared name es

/-- Neither the provider's mount nor a step of a rollback. -/
def Neutral (e : Effect) : Prop :=
  ¬ Undoes e ∧ ∀ request, e ≠ .call (.provider .mount request)

theorem ne_mount_of_undoes {e : Effect} (h : Undoes e) (request : Provider.Request) :
    e ≠ .call (.provider .mount request) := by
  rintro rfl
  exact Bool.false_ne_true h

theorem ne_mount_of_repairs {e : Effect} (h : Repairs e) (request : Provider.Request) :
    e ≠ .call (.provider .mount request) := by
  rintro rfl
  exact Bool.false_ne_true h

theorem neutral_of_wait_view {w : Conflict.Wait} {e : Effect} {after : e.Reply → Conflict.Wait}
    (h : w.view = .asks e after) : Neutral e := by
  rcases Conflict.Wait.asks_of_view h with rfl | ⟨duration, rfl⟩ | rfl | rfl
  · exact ⟨id, nofun⟩
  · exact ⟨id, nofun⟩
  · exact ⟨Bool.false_ne_true, nofun⟩
  · exact ⟨Bool.false_ne_true, nofun⟩

/-- This node's part of a mount takes no step of a rollback. -/
theorem neutral_of_mounting {call : Call} (h : mounting call.kind = true) : Neutral (.call call) := by
  cases call <;> first | exact ⟨Bool.false_ne_true, nofun⟩ | cases h

theorem Tidied.neutral (h : Tidied volume es) : ∀ ex ∈ es, Neutral ex.effect := by
  cases h with
  | unmarked => exact List.forall_mem_nil _
  | marked => exact List.forall_mem_singleton.2 ⟨Bool.false_ne_true, nofun⟩

/-- A release is made of steps of a rollback. -/
theorem Released.undoes (h : Released volume request es) : ∀ ex ∈ es, Undoes ex.effect := by
  cases h <;> simp [Undoes, undoing, Call.kind]

/-- A rollback is made of its steps. -/
theorem Undone.undoes {e f : Failure} (h : Undone request volume mountpoint e es f) :
    ∀ ex ∈ es, Undoes ex.effect := by
  cases h with
  | blocked => exact List.forall_mem_singleton.2 trivial
  | withdrawn removed hremoved hrest =>
    refine List.forall_mem_cons.2 ⟨trivial, ?_⟩
    cases hrest with
    | held => exact List.forall_mem_singleton.2 rfl
    | released reply hreply hrest => exact List.forall_mem_cons.2 ⟨rfl, hrest.undoes⟩

theorem neutral_of_gatherMount {opts : Dict Json} {y : Except Failure Request}
    (h : Ends (gatherMount c name opts) es y) : ∀ ex ∈ es, Neutral ex.effect :=
  have hasks : Neutral .describeHost := ⟨id, nofun⟩
  (within_gatherMount hasks ..).effects h

theorem neutral_of_mountOnHost {y : Except Failure HostMount}
    (h : Ends (mountOnHost volume mountpoint) es y) : ∀ ex ∈ es, Neutral ex.effect :=
  (within_mountOnHost (fun _ => neutral_of_mounting) volume mountpoint).effects h

variable {r : Request} {reply : Except Failure Provider.Response} {x : Except Failure Path}

/-- The provider is not asked for the mount a second time. -/
theorem Mounting.ne_mount (h : Mounting c r reply es x) :
    ∀ ex ∈ es, ∀ q, ex.effect ≠ .call (.provider .mount q) := by
  cases h with
  | refused => exact List.forall_mem_nil _
  | mounted hreply honHost hafter =>
    exact List.forall_mem_append.2 ⟨fun ex hex => (neutral_of_mountOnHost honHost ex hex).2,
      fun ex hex => (hafter.neutral ex hex).2⟩
  | undone hreply honHost hafter =>
    have hmounted := neutral_of_mountOnHost (ends_mountOnHost_error_iff.2 honHost)
    exact List.forall_mem_append.2 ⟨fun ex hex => (hmounted ex hex).2,
      fun ex hex => ne_mount_of_undoes (hafter.undoes ex hex)⟩

/-- If this node's part fails after the provider's reply, the rollback follows. -/
theorem Mounting.undone_of_append {u : Volume} {onHost after : List Exchange} {e : Failure}
    (h : Mounting c r reply (onHost ++ after) x) (hreply : shown r.name reply = .ok u)
    (honHost : HostFails (mountedHere u) (c.mountpointFor u.name) onHost e) :
    ∃ f, x = .error f ∧
      Undone (providerRequest c r) (mountedHere u) (c.mountpointFor u.name) e after f := by
  have hends := ends_mountOnHost_error_iff.2 honHost
  generalize hes : onHost ++ after = es at h
  cases h with
  | refused hrefused => cases hreply.symm.trans hrefused
  | mounted hreply' honHost' =>
    cases hreply.symm.trans hreply'
    cases (Program.Runs.eq_of_append hends honHost' hes).2
  | undone hreply' honHost' hafter =>
    cases hreply.symm.trans hreply'
    obtain ⟨rfl, heq⟩ :=
      Program.Runs.eq_of_append hends (ends_mountOnHost_error_iff.2 honHost') hes
    cases heq
    rw [List.append_cancel_left hes]
    exact ⟨_, rfl, hafter⟩

theorem repairs_of_reconcile {host : Host} {y : Except Failure Cleanup}
    (h : Ends (reconcile name host) es y) : ∀ ex ∈ es, Repairs ex.effect :=
  (within_reconcile name host).effects h

/-- A conflict wait takes no step of a rollback. -/
theorem neutral_of_awaitConflict {kind : Conflict.Kind} {y : Except Failure Conflict.Verdict}
    (h : Ends (awaitConflict c kind r) es y) : ∀ ex ∈ es, Neutral ex.effect :=
  (within_await (fun _ _ _ => neutral_of_wait_view) _).effects h

namespace MountAttempt

variable {opts : Dict Json}

/-- If this node's part has failed, the mount is undone and nothing else follows. -/
theorem undone (h : MountAttempt c name opts es x) {u : Volume} {e : Failure} {after : List Exchange}
    (hfailed : HostFailed c name es request u e after) :
    ∃ f, x = .error f ∧ Undone request (mountedHere u) (c.mountpointFor u.name) e after f := by
  obtain ⟨before, reply, onHost, hes, hshown, honHost⟩ := hfailed
  have hmem : ⟨.call (.provider .mount request), reply⟩ ∈ es := by simp [hes]
  cases h with
  | refused hinputs => exact absurd rfl ((neutral_of_gatherMount hinputs _ hmem).2 request)
  | unrepaired hinputs hrepair =>
    rcases List.mem_append.1 hmem with hmem | hmem
    · exact absurd rfl ((neutral_of_gatherMount hinputs _ hmem).2 request)
    · exact absurd rfl (ne_mount_of_repairs (repairs_of_reconcile hrepair _ hmem) request)
  | @admitted inputs repair waiting inside r _ _ _ _ hinputs hrepair hwaiting hinside =>
    obtain rfl := name_of_gatherMount hinputs
    have hbefore : ⟨.call (.provider .mount request), reply⟩ ∉ inputs ++ (repair ++ waiting) := by
      intro hmem
      rcases List.mem_append.1 hmem with hmem | hmem
      · exact (neutral_of_gatherMount hinputs _ hmem).2 request rfl
      rcases List.mem_append.1 hmem with hmem | hmem
      · exact ne_mount_of_repairs (repairs_of_reconcile hrepair _ hmem) request rfl
      · exact (neutral_of_awaitConflict hwaiting _ hmem).2 request rfl
    obtain ⟨rest, -, hrest⟩ := exists_append_of_not_mem
      (by simpa only [List.append_assoc] using hes) hbefore
    -- The mount inside of the gate is the only one, so it is the one of which this node's part fails.
    cases rest with
    | nil =>
      cases hrest
      exact hinside.undone_of_append hshown honHost
    | cons first rest =>
      obtain ⟨-, rfl⟩ := List.cons.inj hrest
      have hagain : ⟨.call (.provider .mount request), reply⟩ ∈
          rest ++ ⟨.call (.provider .mount request), reply⟩ :: (onHost ++ after) :=
        List.mem_append_right rest List.mem_cons_self
      exact absurd rfl (hinside.ne_mount _ hagain request)

/-- If this node's part has not failed, nothing is undone. -/
theorem spared (h : MountAttempt c name opts es x)
    (hnever : ∀ request u e after, ¬ HostFailed c name es request u e after) : Spared name es := by
  have hcalm : ∀ {es : List Exchange}, (∀ ex ∈ es, Neutral ex.effect) →
      ∀ ex ∈ es, ¬ Undoes ex.effect := fun hneutral ex hex => (hneutral ex hex).1
  cases h with
  | refused hinputs =>
    exact ⟨es, [], [], by simp, hcalm (neutral_of_gatherMount hinputs), .inl rfl,
      List.forall_mem_nil _, List.forall_mem_nil _⟩
  | unrepaired hinputs hrepair =>
    obtain rfl := name_of_gatherMount hinputs
    exact ⟨_, _, [], by rw [List.append_nil], hcalm (neutral_of_gatherMount hinputs),
      .inr ⟨_, _, hrepair⟩, repairs_of_reconcile hrepair, List.forall_mem_nil _⟩
  | @admitted inputs repair waiting inside r _ _ reply _ hinputs hrepair hwaiting hinside =>
    obtain rfl := name_of_gatherMount hinputs
    refine ⟨inputs, repair, _, rfl, hcalm (neutral_of_gatherMount hinputs), .inr ⟨_, _, hrepair⟩,
      repairs_of_reconcile hrepair, ?_⟩
    refine List.forall_mem_append.2 ⟨hcalm (neutral_of_awaitConflict hwaiting), ?_⟩
    refine List.forall_mem_cons.2 ⟨Bool.false_ne_true, ?_⟩
    cases hinside with
    | refused => exact List.forall_mem_nil _
    | mounted hreply honHost hafter =>
      exact List.forall_mem_append.2
        ⟨hcalm (neutral_of_mountOnHost honHost), hcalm hafter.neutral⟩
    | @undone u hreply onHost after e _ honHost hafter =>
      refine (hnever (providerRequest c r) u e after ?_).elim
      exact ⟨inputs ++ (repair ++ waiting), reply, onHost, by simp, hreply, honHost⟩

/-- Every attempt at a mount takes the course of one. -/
theorem course (h : MountAttempt c name opts es x) : MountCourse c name opts es x where
  attempt := h
  undone := h.undone
  spared := h.spared

end MountAttempt

/-- The exchanges with which mounts end, and their answers; every run can be brought to an end. No
reply of a collaborator is excluded, and the failures of this node's part are exactly those of
`HostFails`. If this node's part fails with `e` after the provider's reply has shown a volume, what
follows is the removal of the mountpoint, with which it ends if the mountpoint stands in the way, one
unmount of the same request, and the release unless other containers still hold the volume. The answer
then carries the text of `e`. In every other case nothing is rolled back. -/
theorem mount_course (c : Config) (current : Host) (request : Runtime.MountRequest) :
    (∀ es answer, ((Command.mount request).program c current).Runs es (some answer) ↔
      ∃ result, answer = .mounted (.ofResult result) ∧
        MountCourse c request.name request.opts es result) ∧
    ∀ es, ((Command.mount request).program c current).Runs es none →
      ∃ more result, MountCourse c request.name request.opts (es ++ more) result := by
  have hcourse : ∀ es result, Ends (mount c request.name request.opts) es result ↔
      MountCourse c request.name request.opts es result := fun _ _ =>
    ends_mount_iff.trans ⟨MountAttempt.course, MountCourse.attempt⟩
  constructor
  · intro es answer
    refine Command.runs_answering_iff.trans (exists_congr fun result => ?_)
    rw [hcourse, and_comm]
  · intro es hcut
    obtain ⟨more, answer, hend⟩ := hcut.exists_end
    obtain ⟨result, hmount, -⟩ := Command.runs_answering_iff.1 hend
    exact ⟨more, result, (hcourse _ result).1 hmount⟩

/-- A volume whose filesystem is still to be created, and which is attached to nothing. -/
def unformatted : Volume :=
  { name := "v", serialNumber := "serial-v",
    status := .ofList [("delayedCreate", .bool true), ("filesystem", .string "xfs")] }

/-- A node on which filesystems can be created but not mounted. -/
def formatOnly : Testbed where
  host := { uuid := "node", initiators := [⟨"iscsi", ["iqn.node"]⟩] }
  store.volumes := Dict.empty.insert "v" unformatted
  failures := fun
    | .attachAndMountDevice => some (.host "no filesystem")
    | .mountDevice => some (.host "no path")
    | _ => none
  files := ⟨[], []⟩

/-- The mount of a volume whose filesystem is created, but cannot be mounted. -/
def formattedOnly : Program.Trace Response Testbed :=
  Program.trace Testbed.perform 20 (Command.program {} formatOnly.host (.mount { name := "v" }))
    formatOnly

/-- Such a mount ends with the whole rollback. -/
theorem mount_course_formatOnly :
    let request := providerRequest {} ⟨"v", {}, formatOnly.host⟩
    let u : Volume := { unformatted with inUse := true, iscsiSessions := [⟨"iqn.node", ""⟩] }
    let d := DeviceTable.deviceOf u .attached
    let steps : List Exchange :=
      [⟨.removeDirectory ⟨"/var/lib/volagent/mounts/v"⟩, Except.error .missing⟩,
        ⟨.call (.provider .unmount request),
          Except.ok (.ofVolume { u with inUse := false, iscsiSessions := [] })⟩,
        ⟨.call (.getDevice (mountedHere u)), Except.ok (some d)⟩,
        ⟨.call (.offlineDevice d), Except.ok ()⟩,
        ⟨.call (.provider .detach request), Except.ok {}⟩,
        ⟨.call (.deleteDevice d), Except.ok ()⟩]
    formattedOnly.outcome = some (.mounted ⟨"", "no path"⟩) ∧
      (∃ before, formattedOnly.exchanges = before ++ steps) ∧
      ∃ f, f.message = "no path" ∧ MountCourse {} "v" .empty formattedOnly.exchanges (.error f) ∧
        Undone request (mountedHere u) (({} : Config).mountpointFor "v") (.host "no path") steps f := by
  intro request u d steps
  have houtcome : formattedOnly.outcome = some (.mounted ⟨"", "no path"⟩) := rfl
  have hrun : (Command.program {} formatOnly.host (.mount { name := "v" })).Runs
      formattedOnly.exchanges (some (.mounted ⟨"", "no path"⟩)) :=
    houtcome ▸ Program.trace_runs _ _ _ _
  have hfailed : HostFailed {} "v" formattedOnly.exchanges request u (.host "no path") steps :=
    ⟨formattedOnly.exchanges.take 5, .ok (.ofVolume u),
      (formattedOnly.exchanges.drop 6).take 5, rfl, rfl,
      .creation [] rfl rfl (.host "no filesystem") (.mount d [] (.host "no path"))⟩
  obtain ⟨result, hanswer, hcourse⟩ :=
    ((mount_course {} formatOnly.host { name := "v" }).1 _ _).1 hrun
  obtain ⟨f, rfl, hundone⟩ := hcourse.undone hfailed
  have hmessage : f.message = "no path" := by
    injection hanswer with hanswer
    exact (congrArg Runtime.MountResponse.err hanswer).symm
  exact ⟨houtcome, ⟨formattedOnly.exchanges.take 11, rfl⟩, f, hmessage, hcourse, hundone⟩

end VolumeLifecycle.Workflow
