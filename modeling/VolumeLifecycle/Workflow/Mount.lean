import VolumeLifecycle.Workflow.Stale
import VolumeLifecycle.Workflow.Teardown

namespace VolumeLifecycle.Workflow

/-- How this node's part of a mount was done. -/
inductive HostMount where
  /-- A healthy mount was there already. -/
  | reused
  | mounted
  /-- The filesystem was created on this first mount. -/
  | delayedCreate
  deriving DecidableEq

def noDeviceFor (volume : Volume) : Failure :=
  .notFound ("device for volume " ++ volume.name)

def attachFirst (volume : Volume) : Workflow Device := do
  match ← call (.attachDevice [volume]) with
  | device :: _ => return device
  | [] => fail (noDeviceFor volume)

def createOnFirstMount (volume : Volume) (mountpoint : Path) (filesystem : String) :
    Workflow Unit := do
  let device ← attachFirst volume
  call (.setupFilesystem device volume filesystem)
  let _ ← call (.mountDevice device mountpoint)

/-- This node's part of a mount. A healthy mount at the mountpoint is used again; else the volume is
attached and mounted, and if that fails for a volume whose filesystem is still to be created, the
filesystem is created first. -/
def mountOnHost (volume : Volume) (mountpoint : Path) : Workflow HostMount := do
  let mounts ← call (.getMounts volume.serialNumber)
  if mounts.any (·.servesAt mountpoint) then return .reused
  match ← attempt (.attachAndMountDevice volume mountpoint) with
  | .ok _ => return .mounted
  | .error f =>
    match volume.delayedFilesystem with
    | none => fail f
    | some filesystem =>
      createOnFirstMount volume mountpoint filesystem
      return .delayedCreate

/-- The provider's part of undoing a mount: whether other containers still hold the volume. -/
def undoProviderMount (request : Provider.Request) : Workflow (Bool × BestEffort.Outcome) := do
  match ← attempt (.provider .unmount request) with
  | .ok response =>
    if response.isDoNotUnmount then return (true, .skipped "provider unmount")
    else return (false, .attempted "provider unmount" response.check)
  | .error f => return (false, .attempted "provider unmount" (.error f : Except Failure Unit))

/-- Undoes a mount of which this node's part has failed. Only a mountpoint that cannot be removed
stops it, and why is returned; a mountpoint that is not there is fine. -/
def undoMount (request : Provider.Request) (volume : Volume) (mountpoint : Path) :
    Workflow (Except String BestEffort.Report) := do
  let removed ← perform (.removeDirectory mountpoint)
  match (removed : Except FileError Unit) with
  | .error .missing => undo
  | .ok () => undo
  | .error e => return .error ("remove " ++ mountpoint.text ++ ": " ++ e.message)
where
  /-- The steps after the removal of the mountpoint. -/
  undo : Workflow (Except String BestEffort.Report) := do
    let (stillHeld, outcome) ← undoProviderMount request
    if stillHeld then return .ok ⟨[outcome]⟩
    let report ← releaseHostSide volume request
    return .ok ⟨outcome :: report.outcomes⟩

/-- Removes the markers of a filesystem that is still to be created, at best effort. -/
def clearDelayedCreate (name : String) : Workflow BestEffort.Outcome :=
  provideBestEffort "clear delayed create" .update
    (((Provider.Request.named name).withOpt Volume.delayedCreateKey .null).withOpt
      Volume.filesystemKey .null)

def mountOnProvider (r : Request) (request : Provider.Request) : Workflow Volume := do
  let reply ← attempt (.provider .mount request)
  let result := match reply with
    | .ok response => response.intoVolume r.name
    | .error f => .error f
  let volume ← ofExcept (result.mapError fun f => f.clarifyBusy r.name)
  return { volume with connectionMode := some Volume.manualConnection }

def mountLocked (c : Config) (r : Request) : Workflow Path := do
  let request := providerRequest c r
  let volume ← mountOnProvider r request
  let mountpoint := c.mountpointFor volume.name
  match ← result (mountOnHost volume mountpoint) with
  | .error f =>
    match ← undoMount request volume mountpoint with
    | .ok _ => fail f
    | .error cause => fail (.rollback f cause)
  | .ok _ =>
    if volume.hasDelayedCreate then
      let _ ← clearDelayedCreate volume.name
    return mountpoint

/-- The inputs of a mount. In cloud mode this node is restricted to the network interfaces that the
request names. -/
def gatherMount (c : Config) (name : String) (opts : Dict Json) : Workflow Request := do
  let r ← gather name opts
  if c.cloudMode then
    let host ← ofExcept (restrictTo r.host r.options.initiators)
    return { r with host }
  else return r

/-- Mounts a volume and answers its mountpoint: repair of stale mounts and the conflict wait, then,
inside the gate, the provider's part and this node's part. If this node's part fails, everything is
undone. -/
def mount (c : Config) (name : String) (opts : Dict Json) : Workflow Path := do
  let r ← gatherMount c name opts
  let _ ← reconcile r.name r.host
  let _ ← awaitConflict c .mount r
  enter r.name .mount
  mountLocked c r

end VolumeLifecycle.Workflow
