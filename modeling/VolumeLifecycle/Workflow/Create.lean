import VolumeLifecycle.Options.Validation
import VolumeLifecycle.Workflow.Mount

namespace VolumeLifecycle.Workflow

inductive Created where
  | volume (v : Volume)
  | help
  deriving Inhabited

/-- The option with which a volume is removed even if nodes may still reach it. -/
def forceOption : String := "force"

/-- The options of a fresh volume: marked for the creation of its filesystem, the default one if
none is given. Clones and imports are not marked. -/
def markFresh (o : Options) : Options :=
  if o.isCloneOrImport then o
  else
    { o with
      delayedCreate := some true
      filesystem := some (o.filesystem.getD Options.defaultFilesystem) }

/-- The steps on a new clone or import: it is attached, its filesystem is set up, and it is released
again. The first failure ends them. -/
def prepareAndRelease (volume : Volume) (request : Provider.Request) (filesystem : String) :
    Workflow Unit := do
  let device ← attachFirst volume
  call (.setupFilesystem device volume filesystem)
  call (.unmountDevice volume)
  call (.offlineDevice device)
  let response ← provider .detach request
  let _ ← ofExcept response.check
  call (.deleteDevice device)

/-- Removes a new volume on both sides, at best effort. -/
def discardCreated (volume : Volume) (request : Provider.Request) : Workflow Unit := do
  let _ ← releaseHostSide volume request
  let _ ← provideBestEffort "force remove" .remove (request.withOpt forceOption (.bool true))

def createLocked (c : Config) (r : Request) : Workflow Volume := do
  let request := providerRequest c r
  let response ← provider .create request
  let volume ← ofExcept (response.intoVolume r.name)
  if r.options.isCloneOrImport then
    let filesystem := r.options.filesystem.getD Options.defaultFilesystem
    match ← result (prepareAndRelease volume request filesystem) with
    | .ok _ => return volume
    | .error f =>
      discardCreated volume request
      fail f
  else return volume

/-- Creates a volume with the given options over the configured defaults, or answers that help is
asked for. A fresh volume is marked, and its filesystem is created on first mount. Clones and
imports carry data: they are attached once so that mode and owner can be applied, and released
again; if that fails the volume is removed. -/
def create (c : Config) (name : String) (opts : Dict Json) : Workflow Created := do
  ofExcept (checkName name)
  let options ← ofExcept (Options.layered c.defaults c.selectedDefaults opts)
  if options.help then return .help
  ofExcept options.validate
  let host ← describeHost
  let r : Request := { name, options := markFresh options, host }
  enter r.name .create
  let volume ← createLocked c r
  return .volume volume

end VolumeLifecycle.Workflow
