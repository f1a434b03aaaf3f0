import VolumeLifecycle.Dict.Lookup
import VolumeLifecycle.Proofs.Program.Discipline
import VolumeLifecycle.Proofs.Program.Laws
import VolumeLifecycle.Workflow.Command

namespace VolumeLifecycle.Workflow

open Program (Keeps Passes)

/-- A call that marks no volume for the creation of its filesystem: if it is an update, it takes the
marker away or leaves it alone. -/
def Tame : Call → Prop
  | .provider .update r => ∀ value, r.opts.get? Volume.delayedCreateKey = some value → value = .null
  | _ => True

/-- A tame call that neither creates nor removes a volume. -/
def Gentle (c : Call) : Prop :=
  Tame c ∧ c.kind ≠ .provider .create ∧ c.kind ≠ .provider .remove

def Plain (c : Call) : Prop :=
  Gentle c ∧ c.kind ≠ .setupFilesystem

abbrev HostSide (c : Call) : Prop := ∀ op, c.kind ≠ .provider op

abbrev noCall : Call → Prop := fun _ => False

/-- What a mount may call before it is inside: anything plain but the provider's mount. -/
abbrev beforeMount (c : Call) : Prop := c.kind ≠ .provider .mount ∧ Plain c

theorem Gentle.tame {c : Call} (h : Gentle c) : Tame c := h.1

theorem Plain.gentle {c : Call} (h : Plain c) : Gentle c := h.1

/-- A call to the device manager is gentle. -/
theorem HostSide.gentle {c : Call} (h : HostSide c) : Gentle c := by
  refine ⟨?_, h .create, h .remove⟩
  cases c with
  | provider op r => exact absurd rfl (h op)
  | _ => trivial

/-- A call to the device manager is plain but for the one that creates filesystems. -/
theorem HostSide.plain {c : Call} (h : HostSide c) (hsetup : c.kind ≠ .setupFilesystem) :
    Plain c :=
  ⟨h.gentle, hsetup⟩

/-- The update of a wait that has reached its time limit concerns another option. -/
theorem tame_resetCall (w : Conflict.Wait) : Tame w.resetCall := by
  intro value hvalue
  replace hvalue := (Dict.get?_insert _ _ _ _).symm.trans hvalue
  have hne : Volume.delayedCreateKey ≠ w.kind.option.name := by
    cases w.kind <;> decide
  rw [if_neg hne] at hvalue
  cases hvalue

theorem plain_wait (w : Conflict.Wait) : Plain w.probeCall ∧ Plain w.resetCall :=
  ⟨⟨⟨trivial, nofun, nofun⟩, nofun⟩, ⟨tame_resetCall w, nofun, nofun⟩, nofun⟩

/-- A plain part of a workflow is gentle. -/
theorem keeps_gentle {α : Type} {p : Program α} (h : p.Keeps Plain) : p.Keeps Gentle :=
  h.mono fun _ => Plain.gentle

/-- A plain part of a workflow is tame. -/
theorem keeps_tame {α : Type} {p : Program α} (h : p.Keeps Plain) : p.Keeps Tame :=
  h.mono fun _ h => h.gentle.tame

/-- A call to the device manager, for its reply. -/
theorem keeps_attemptDevice {c : Call} (h : HostSide c) (hsetup : c.kind ≠ .setupFilesystem) :
    Keeps Plain (attempt c).run :=
  keeps_attempt (h.plain hsetup)

theorem keeps_provideBestEffort {free : Call → Prop} {op : Provider.Op} {request : Provider.Request}
    (h : free (.provider op request)) (step : String) :
    Keeps free (provideBestEffort step op request).run :=
  keeps_bind (keeps_attempt h) fun _ => keeps_pure _

theorem keeps_resolveDevice (volume : Volume) : Keeps Plain (resolveDevice volume).run := by
  refine keeps_bind (keeps_attemptDevice nofun nofun) fun reply => ?_
  cases reply <;> exact keeps_pure _

theorem keeps_onDevice {step : String} {run : Device → Workflow BestEffort.Outcome}
    (hrun : ∀ d, Keeps Plain (run d).run) (device : Option Device) :
    Keeps Plain (onDevice step run device).run := by
  cases device with
  | none => exact keeps_pure _
  | some d => exact hrun d

/-- The release of a volume neither creates nor removes one, and creates no filesystem. -/
theorem keeps_releaseHostSide (volume : Volume) (request : Provider.Request) :
    Keeps Plain (releaseHostSide volume request).run := by
  refine keeps_bind (keeps_resolveDevice volume) fun device => ?_
  refine keeps_bind (keeps_onDevice (fun d => ?_) device) fun _ => ?_
  · exact keeps_bind (keeps_attemptDevice nofun nofun) fun _ => keeps_pure _
  refine keeps_bind (keeps_provideBestEffort ⟨⟨trivial, nofun, nofun⟩, nofun⟩ _) fun _ => ?_
  refine keeps_bind (keeps_onDevice (fun d => ?_) device) fun _ => keeps_pure _
  exact keeps_bind (keeps_attemptDevice nofun nofun) fun _ => keeps_pure _

theorem keeps_attachFirst {free : Call → Prop} {volume : Volume}
    (h : free (.attachDevice [volume])) : Keeps free (attachFirst volume).run := by
  refine keeps_bind (keeps_call h) fun devices => ?_
  cases devices with
  | nil => exact keeps_fail _
  | cons d rest => exact keeps_pure _

/-- This node's part of a mount calls nobody but this node's device manager. -/
theorem keeps_mountOnHost (volume : Volume) (mountpoint : Path) :
    Keeps HostSide (mountOnHost volume mountpoint).run := by
  refine keeps_bind (keeps_call nofun) fun mounts => ?_
  split
  · exact keeps_pure _
  refine keeps_bind (keeps_attempt nofun) fun reply => ?_
  split
  · exact keeps_pure _
  split
  · exact keeps_fail _
  refine keeps_bind ?_ fun _ => keeps_pure _
  refine keeps_bind (keeps_attachFirst nofun) fun d => ?_
  refine keeps_bind (keeps_call nofun) fun _ => ?_
  exact keeps_bind (keeps_call nofun) fun _ => keeps_pure _

theorem keeps_undoMount (request : Provider.Request) (volume : Volume) (mountpoint : Path) :
    Keeps Plain (undoMount request volume mountpoint).run := by
  have hundo : Keeps Plain (undoMount.undo request volume).run := by
    refine keeps_bind ?_ fun ⟨stillHeld, outcome⟩ => ?_
    · refine keeps_bind (keeps_attempt ⟨⟨trivial, nofun, nofun⟩, nofun⟩) fun reply => ?_
      split
      · split <;> exact keeps_pure _
      · exact keeps_pure _
    dsimp only
    split
    · exact keeps_pure _
    · exact keeps_bind (keeps_releaseHostSide volume request) fun _ => keeps_pure _
  refine keeps_bind (keeps_removeDirectory mountpoint) fun removed => ?_
  split
  · exact hundo
  · exact hundo
  · exact keeps_pure _

/-- The markers are taken away by an update that sets them to null. -/
theorem keeps_clearDelayedCreate (name : String) :
    Keeps Plain (clearDelayedCreate name).run := by
  refine keeps_provideBestEffort ⟨⟨?_, nofun, nofun⟩, nofun⟩ _
  intro value hvalue
  simp only [Provider.Request.withOpt, Provider.Request.named, Dict.get?_insert, if_true]
    at hvalue
  split at hvalue
  · exact (Option.some.inj hvalue).symm
  · exact (Option.some.inj hvalue).symm

theorem keeps_mountOnProvider (r : Request) (request : Provider.Request) :
    Keeps Plain (mountOnProvider r request).run := by
  refine keeps_bind (keeps_attempt ⟨⟨trivial, nofun, nofun⟩, nofun⟩) fun reply => ?_
  exact keeps_bind (keeps_ofExcept _) fun _ => keeps_pure _

theorem keeps_mountLocked (c : Config) (r : Request) : Keeps Gentle (mountLocked c r).run := by
  refine keeps_bind (keeps_gentle (keeps_mountOnProvider r _)) fun volume => ?_
  refine keeps_bind (keeps_result ((keeps_mountOnHost volume _).mono fun _ => HostSide.gentle))
    fun result => ?_
  cases result with
  | error f =>
    refine keeps_bind (keeps_gentle (keeps_undoMount _ volume _)) fun report => ?_
    cases report <;> exact keeps_fail _
  | ok how =>
    dsimp only
    split
    · exact keeps_bind (keeps_gentle (keeps_clearDelayedCreate _)) fun _ => keeps_pure _
    · exact keeps_pure _

theorem keeps_unmountForRemoval (volume : Volume) :
    Keeps Plain (unmountForRemoval volume).run := by
  refine keeps_bind (keeps_attemptDevice nofun nofun) fun reply => ?_
  split
  · exact keeps_pure _
  · split
    · exact keeps_pure _
    · exact keeps_fail _

/-- A remove makes tame calls only. -/
theorem keeps_removeLocked (c : Config) (r : Request) : Keeps Tame (removeLocked c r).run := by
  have hremove : ∀ volume, Keeps Tame (do
      unmountForRemoval volume
      let _ ← releaseHostSide volume (providerRequest c r)
      let response ← provider .remove (providerRequest c r)
      let _ ← ofExcept response.check).run := by
    intro volume
    refine keeps_bind (keeps_tame (keeps_unmountForRemoval volume)) fun _ => ?_
    refine keeps_bind (keeps_tame (keeps_releaseHostSide volume _)) fun _ => ?_
    refine keeps_bind (keeps_call trivial) fun _ => ?_
    exact keeps_bind (keeps_ofExcept _) fun _ => keeps_pure _
  refine keeps_bind (keeps_call trivial) fun response => ?_
  refine keeps_bind (keeps_ofExcept _) fun volume => ?_
  split
  · refine keeps_bind (keeps_await (fun w => ?_) _) fun _ => hremove volume
    exact ⟨trivial, tame_resetCall w⟩
  · exact hremove volume

theorem keeps_releaseUnmounted (volume : Volume) (request : Provider.Request) :
    Keeps Plain (releaseUnmounted volume request).run := by
  have hstep : ∀ {run : Device → Workflow Unit}, (∀ d, Keeps Plain (run d).run) →
      ∀ device, Keeps Plain (forDevice run device).run := by
    intro run hrun device
    cases device with
    | none => exact keeps_pure _
    | some d => exact hrun d
  refine keeps_bind (keeps_call (HostSide.plain nofun nofun)) fun _ => ?_
  refine keeps_bind (keeps_resolveDevice volume) fun device => ?_
  refine keeps_bind (hstep (fun d => ?_) device) fun _ => ?_
  · refine keeps_bind (keeps_attemptDevice nofun nofun) fun reply => ?_
    split
    · exact keeps_pure _
    · split
      · exact keeps_fail _
      · exact keeps_pure _
  refine keeps_bind (keeps_provideBestEffort ⟨⟨trivial, nofun, nofun⟩, nofun⟩ _) fun _ => ?_
  refine hstep (fun d => ?_) device
  refine keeps_bind (keeps_attemptDevice nofun nofun) fun reply => ?_
  split
  · exact keeps_pure _
  · split
    · exact keeps_pure _
    · exact keeps_fail _

theorem keeps_unmountLocked (c : Config) (r : Request) : Keeps Tame (unmountLocked c r).run := by
  refine keeps_bind (keeps_call trivial) fun response => ?_
  refine keeps_bind (keeps_ofExcept _) fun response => ?_
  split
  · exact keeps_pure _
  refine keeps_bind (keeps_ofExcept _) fun volume => ?_
  refine keeps_bind (keeps_tame (keeps_releaseUnmounted volume _)) fun _ => ?_
  split
  · exact keeps_bind (keeps_result (keeps_removeLocked c r)) fun _ => keeps_pure _
  · exact keeps_pure _

theorem keeps_prepareAndRelease (volume : Volume) (request : Provider.Request)
    (filesystem : String) : Keeps Gentle (prepareAndRelease volume request filesystem).run := by
  have hdevice : ∀ {c : Call}, HostSide c → Keeps Gentle (call c).run := fun h =>
    keeps_call h.gentle
  refine keeps_bind (keeps_attachFirst (HostSide.gentle nofun)) fun d => ?_
  refine keeps_bind (hdevice nofun) fun _ => ?_
  refine keeps_bind (hdevice nofun) fun _ => ?_
  refine keeps_bind (hdevice nofun) fun _ => ?_
  refine keeps_bind (keeps_call ⟨trivial, nofun, nofun⟩) fun _ => ?_
  exact keeps_bind (keeps_ofExcept _) fun _ => hdevice nofun

theorem keeps_createLocked (c : Config) (r : Request) : Keeps Tame (createLocked c r).run := by
  refine keeps_bind (keeps_call trivial) fun response => ?_
  refine keeps_bind (keeps_ofExcept _) fun volume => ?_
  split
  · have hprepare : Keeps Tame (prepareAndRelease volume (providerRequest c r)
        (r.options.filesystem.getD Options.defaultFilesystem)).run :=
      (keeps_prepareAndRelease _ _ _).mono fun _ => Gentle.tame
    refine keeps_bind (keeps_result hprepare) fun result => ?_
    cases result with
    | ok _ => exact keeps_pure _
    | error f =>
      refine keeps_bind ?_ fun _ => keeps_fail _
      refine keeps_bind (keeps_tame (keeps_releaseHostSide volume _)) fun _ => ?_
      exact keeps_bind (keeps_provideBestEffort trivial _) fun _ => keeps_pure _
  · exact keeps_pure _

/-- The inputs of a workflow carry the name that was asked for. -/
theorem passes_gather_bind {free inside : Call → Prop} {target : Option (String × Operation)}
    {α : Type} {name : String} {opts : Dict Json} {f : Request → Workflow α}
    (hf : ∀ options host, Passes free inside target (f ⟨name, options, host⟩).run) :
    Passes free inside target (gather name opts >>= f).run := by
  unfold gather
  simp only [bind_assoc, pure_bind]
  refine passes_bind (keeps_ofExcept _) fun _ => ?_
  refine passes_bind (keeps_ofExcept _) fun options => ?_
  exact passes_bind keeps_describeHost fun host => hf options host

theorem keeps_unmountAll (mounts : List Mount) : Keeps beforeMount (unmountAll mounts).run := by
  induction mounts with
  | nil => exact keeps_pure _
  | cons m rest ih =>
    refine keeps_bind (keeps_attempt ⟨nofun, HostSide.plain nofun nofun⟩) fun reply => ?_
    split
    · split
      · exact ih
      · exact keeps_fail _
    · exact ih

theorem keeps_deleteShared (volume : Volume) (device : Device) :
    Keeps beforeMount (deleteShared volume device).run := by
  unfold deleteShared
  split
  · refine keeps_bind (keeps_attempt ⟨nofun, HostSide.plain nofun nofun⟩) fun reply => ?_
    split <;> exact keeps_pure _
  · exact keeps_pure _

/-- A repair of stale mounts makes only calls that may be made before the gate. -/
theorem keeps_reconcile (name : String) (host : Host) :
    Keeps beforeMount (reconcile name host).run := by
  refine keeps_bind (keeps_call ⟨nofun, ⟨trivial, nofun, nofun⟩, nofun⟩) fun response => ?_
  refine keeps_bind (keeps_ofExcept _) fun volume => ?_
  refine keeps_bind (keeps_call ⟨nofun, HostSide.plain nofun nofun⟩) fun mounts => ?_
  split
  · exact keeps_pure _
  refine keeps_bind (keeps_call ⟨nofun, HostSide.plain nofun nofun⟩) fun device => ?_
  split
  · exact keeps_fail _
  split
  · exact keeps_pure _
  refine keeps_bind (keeps_unmountAll _) fun _ => ?_
  exact keeps_bind (keeps_deleteShared volume _) fun _ => keeps_pure _

theorem keeps_awaitConflict_mount (c : Config) (r : Request) :
    Keeps beforeMount (awaitConflict c .mount r).run :=
  keeps_await (fun w => ⟨⟨nofun, (plain_wait w).1⟩, nofun, (plain_wait w).2⟩) _

variable (c : Config)

/-- A mount passes the gate for its name, and before that only repairs and waits. -/
theorem mount_passes (name : String) (opts : Dict Json) :
    Passes beforeMount Gentle (some (name, .mount)) (mount c name opts).run := by
  have hrest : ∀ options host, Passes beforeMount Gentle (some (name, .mount)) (do
      let _ ← reconcile name host
      let _ ← awaitConflict c .mount ⟨name, options, host⟩
      enter name .mount
      mountLocked c ⟨name, options, host⟩).run := by
    intro options host
    refine passes_bind (keeps_reconcile _ _) fun _ => ?_
    refine passes_bind (keeps_awaitConflict_mount c _) fun _ => ?_
    exact passes_enter (keeps_mountLocked c _)
  unfold mount gatherMount
  rw [bind_assoc]
  refine passes_gather_bind fun options host => ?_
  split
  · rw [bind_assoc]
    exact passes_bind (keeps_ofExcept _) fun kept => hrest options kept
  · exact hrest options host

theorem unmount_passes (name : String) (opts : Dict Json) :
    Passes noCall Tame (some (name, .unmount)) (unmount c name opts).run :=
  passes_gather_bind fun _ _ => passes_enter (keeps_unmountLocked c _)

theorem create_passes (name : String) (opts : Dict Json) :
    Passes noCall Tame (some (name, .create)) (create c name opts).run := by
  refine passes_bind (keeps_ofExcept _) fun _ => ?_
  refine passes_bind (keeps_ofExcept _) fun options => ?_
  split
  · exact (keeps_pure _).passes
  refine passes_bind (keeps_ofExcept _) fun _ => ?_
  refine passes_bind keeps_describeHost fun host => passes_enter ?_
  exact keeps_bind (keeps_createLocked c _) fun _ => keeps_pure _

theorem remove_passes (name : String) :
    Passes noCall Tame (some (name, .remove)) (remove c name).run :=
  passes_gather_bind fun _ _ => passes_enter (keeps_removeLocked c _)

/-- A question for a volume passes the gate for its name, and calls nobody before that. -/
theorem describe_passes (name : String) :
    Passes noCall Tame (some (name, .get)) (describe c name).run := by
  refine passes_gather_bind fun _ _ => passes_enter ?_
  refine keeps_bind (keeps_call trivial) fun response => ?_
  refine keeps_bind (keeps_ofExcept _) fun volume => ?_
  exact keeps_bind (keeps_call trivial) fun _ => keeps_pure _

end VolumeLifecycle.Workflow

namespace VolumeLifecycle.Command

open Workflow Program

/-- The name and the class under which a command is to pass the gate. The parts of workflows that
run on their own, and questions about the agent itself, are not to pass it. -/
def target? : Command → Option (String × Operation)
  | mount r => some (r.name, .mount)
  | unmount r => some (r.name, .unmount)
  | create r => some (r.name, .create)
  | remove r => some (r.name, .remove)
  | get r => some (r.name, .get)
  | path r => some (r.name, .get)
  | _ => none

def free : Command → Call → Prop
  | mount _ => beforeMount
  | unmount _ => noCall
  | create _ => noCall
  | remove _ => noCall
  | get _ => noCall
  | path _ => noCall
  | _ => Tame

/-- What a command does obeys the gate, and every call is tame. -/
theorem program_passes (c : Config) (host : Host) (command : Command) :
    (command.program c host).Passes command.free Tame command.target? := by
  cases command with
  | mount r =>
    refine Passes.andThen ?_ (fun _ => trivial) fun _ => trivial
    exact (mount_passes c r.name r.opts).mono fun _ => Gentle.tame
  | unmount r => exact (unmount_passes c r.name r.opts).andThen (fun _ => trivial) fun _ => trivial
  | create r => exact (create_passes c r.name r.opts).andThen (fun _ => trivial) fun _ => trivial
  | remove r => exact (remove_passes c r.name).andThen (fun _ => trivial) fun _ => trivial
  | get r => exact (describe_passes c r.name).andThen (fun _ => trivial) fun _ => trivial
  | path r => exact (describe_passes c r.name).andThen (fun _ => trivial) fun _ => trivial
  | capabilities => trivial
  | configuration => trivial
  | awaitConflict name kind timeout =>
    exact ⟨fun w => ⟨trivial, tame_resetCall w⟩, fun _ => trivial⟩
  | reconcile name =>
    refine Keeps.passes (Keeps.andThen ?_ fun _ => trivial)
    exact (keeps_reconcile name host).mono fun _ h => h.2.gentle.tame

end VolumeLifecycle.Command
