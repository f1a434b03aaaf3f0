import VolumeLifecycle.Workflow.Remove

namespace VolumeLifecycle.Workflow

/-- Takes the device of an unmounted volume offline. For a group target a failure counts, since it
can collide with other hosts. -/
def offlineForUnmount (volume : Volume) (device : Device) : Workflow Unit := do
  match ← attempt (.offlineDevice device) with
  | .ok _ => return ()
  | .error f => if volume.isGroupScoped then fail f else return ()

def deleteForUnmount (device : Device) : Workflow Unit := do
  match ← attempt (.deleteDevice device) with
  | .ok _ => return ()
  | .error f => if f.isNotFound then return () else fail f

def forDevice (run : Device → Workflow Unit) : Option Device → Workflow Unit
  | some device => run device
  | none => return ()

def releaseUnmounted (volume : Volume) (request : Provider.Request) : Workflow Unit := do
  call (.unmountDevice volume)
  let device ← resolveDevice volume
  forDevice (offlineForUnmount volume) device
  let _ ← detach request
  forDevice deleteForUnmount device

/-- The part of an unmount inside the gate. A volume that goes away with its last host is removed
at the end, whatever comes of that. -/
def unmountLocked (c : Config) (r : Request) : Workflow Unit := do
  let request := providerRequest c r
  let response ← provider .unmount request
  let response ← ofExcept response.check
  if response.isDoNotUnmount then return ()
  let volume ← ofExcept (response.intoVolume r.name)
  releaseUnmounted volume request
  if volume.destroyOnDetach then
    let _ ← result (removeLocked c r)

/-- Unmounts a volume and releases it from this node, unless other containers still hold it. -/
def unmount (c : Config) (name : String) (opts : Dict Json) : Workflow Unit := do
  let r ← gather name opts
  enter r.name .unmount
  unmountLocked c r

end VolumeLifecycle.Workflow
