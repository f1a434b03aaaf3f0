import VolumeLifecycle.Runtime.Message
import VolumeLifecycle.Workflow.Context

namespace VolumeLifecycle.Workflow

/-- The path at which a table has a volume mounted, as the table writes it; empty if it is not
there. -/
def mountpointIn (mounts : List Mount) (expected : Path) : String :=
  match mounts.find? fun m => m.isAt expected with
  | some m => m.mountpoint.text
  | none => ""

def describe (c : Config) (name : String) : Workflow Runtime.VolumeInfo := do
  let r ← gather name .empty
  enter r.name .get
  let response ← provider .get (providerRequest c r)
  let volume ← ofExcept (response.intoVolume r.name)
  let mounts ← call (.getMounts volume.serialNumber)
  return { name := volume.name
           mountpoint := mountpointIn mounts (c.mountpointFor volume.name)
           status := volume.status }

end VolumeLifecycle.Workflow
