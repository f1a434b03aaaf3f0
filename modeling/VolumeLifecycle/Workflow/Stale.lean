import VolumeLifecycle.Workflow.Context

namespace VolumeLifecycle.Workflow

inductive Cleanup where
  /-- There are no mount entries for the volume's serial number. -/
  | nothingToRepair
  /-- There are entries, but this node rightly uses the volume. -/
  | inUseHere
  /-- So many stale entries were unmounted, and the device was deleted or not. -/
  | repaired (unmounted : Nat) (deviceDeleted : Bool)
  deriving DecidableEq

def noDevice (name : String) (mounts : List Mount) (volume : Volume) : Failure :=
  .inconsistentState name
    (toString mounts.length ++ " mount(s) found but no device for serial " ++
      volume.serialNumber ++ ", remove the volume explicitly")

/-- Unmounts entries in order. An entry that turns out to be stale already is passed over; any
other failure ends the repair. -/
def unmountAll : List Mount → Workflow Unit
  | [] => return ()
  | m :: rest => do
    match ← attempt (.unmountFileSystem m.mountpoint) with
    | .error f => if f.isStaleEntry then unmountAll rest else fail f
    | .ok _ => unmountAll rest

/-- Deletes the device of a shared target, at best effort, and tells whether that was done. A
device of its own is left alone. -/
def deleteShared (volume : Volume) (device : Device) : Workflow Bool := do
  if volume.isSharedTarget then
    match ← attempt (.deleteDevice device) with
    | .ok _ => return true
    | .error _ => return false
  else return false

/-- Finds and repairs stale mounts of a volume on a node. It fails if the volume cannot be
resolved, or if there are mount entries and no device behind them. -/
def reconcile (name : String) (host : Host) : Workflow Cleanup := do
  let response ← provider .get (.named name)
  let volume ← ofExcept (response.intoVolume name)
  let mounts ← call (.getMounts volume.serialNumber)
  if mounts.isEmpty then return .nothingToRepair
  match ← call (.getDevice volume) with
  | none => fail (noDevice name mounts volume)
  | some device =>
    if volume.inUse && volume.isAttachedTo host then return .inUseHere
    unmountAll mounts
    let deleted ← deleteShared volume device
    return .repaired mounts.length deleted

end VolumeLifecycle.Workflow
