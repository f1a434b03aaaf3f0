import VolumeLifecycle.Workflow.Context

namespace VolumeLifecycle.Workflow

/-- The local device of a volume; a look-up that fails counts as finding none. -/
def resolveDevice (volume : Volume) : Workflow (Option Device) := do
  match ← attempt (.getDevice volume) with
  | .ok device => return device
  | .error _ => return none

/-- The reply of the provider without its volume: a reply that carries an error is a failure. -/
def checked (reply : Except Failure Provider.Response) : Except Failure Unit :=
  match reply with
  | .error f => .error f
  | .ok response => response.check.map fun _ => ()

def provideBestEffort (step : String) (op : Provider.Op) (request : Provider.Request) :
    Workflow BestEffort.Outcome := do
  let reply ← attempt (.provider op request)
  return .attempted step (checked reply)

def offline (device : Device) : Workflow BestEffort.Outcome := do
  let reply ← attempt (.offlineDevice device)
  return .attempted "offline device" (reply : Except Failure Unit)

/-- Removes this node from those that may reach the volume, at best effort. -/
def detach (request : Provider.Request) : Workflow BestEffort.Outcome :=
  provideBestEffort "detach" .detach request

def delete (device : Device) : Workflow BestEffort.Outcome := do
  let reply ← attempt (.deleteDevice device)
  return .attempted "delete device" (reply : Except Failure Unit)

def onDevice (step : String) (run : Device → Workflow BestEffort.Outcome) :
    Option Device → Workflow BestEffort.Outcome
  | some device => run device
  | none => return .skipped step

/-- Takes the volume's device offline, detaches the volume and deletes the device. Later steps are
tried whatever earlier ones returned. -/
def releaseHostSide (volume : Volume) (request : Provider.Request) :
    Workflow BestEffort.Report := do
  let device ← resolveDevice volume
  let offlined ← onDevice "offline device" offline device
  let detached ← detach request
  let deleted ← onDevice "delete device" delete device
  return ⟨[offlined, detached, deleted]⟩

end VolumeLifecycle.Workflow
