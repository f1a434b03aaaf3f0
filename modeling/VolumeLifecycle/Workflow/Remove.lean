import VolumeLifecycle.Workflow.Teardown

namespace VolumeLifecycle.Workflow

/-- Unmounts a volume's device; a volume that is clean already is fine. -/
def unmountForRemoval (volume : Volume) : Workflow Unit := do
  match ← attempt (.unmountDevice volume) with
  | .ok _ => return ()
  | .error f => if f.isAlreadyClean then return () else fail f

def removeLocked (c : Config) (r : Request) : Workflow Unit := do
  let request := providerRequest c r
  let response ← provider .get request
  let volume ← ofExcept (response.intoVolume r.name)
  if volume.statusInUse then
    let _ ← awaitConflict c .delete r
  unmountForRemoval volume
  let _ ← releaseHostSide volume request
  let response ← provider .remove request
  let _ ← ofExcept response.check

/-- Removes a volume: whatever this node holds of it is released, then the provider deletes it. -/
def remove (c : Config) (name : String) : Workflow Unit := do
  let r ← gather name .empty
  enter r.name .remove
  removeLocked c r

end VolumeLifecycle.Workflow
