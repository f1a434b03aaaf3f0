import VolumeLifecycle.Workflow.Create
import VolumeLifecycle.Workflow.Query
import VolumeLifecycle.Workflow.Unmount

namespace VolumeLifecycle

/-- Something that the agent can be told to do. The last two are parts of workflows that can be run
on their own. -/
inductive Command where
  | mount (request : Runtime.MountRequest)
  | unmount (request : Runtime.MountRequest)
  | create (request : Runtime.CreateRequest)
  | remove (request : Runtime.NameRequest)
  | get (request : Runtime.NameRequest)
  | path (request : Runtime.NameRequest)
  | capabilities
  | configuration
  /-- A conflict wait, with its time limit in seconds. -/
  | awaitConflict (name : String) (kind : Conflict.Kind) (timeout : Nat)
  | reconcile (name : String)

inductive Response where
  | mounted (r : Runtime.MountResponse)
  | driver (r : Runtime.DriverResponse)
  | created (r : Runtime.CreateResponse)
  | volume (r : Runtime.VolumeResponse)
  | capabilities (r : Runtime.CapabilitiesResponse)
  | configuration (c : Config)
  | conflict (verdict : Conflict.Verdict) (kind : Conflict.Kind)
  | cleanup (result : Except Failure Workflow.Cleanup)

namespace Command

def createResponse : Except Failure Workflow.Created → Runtime.CreateResponse
  | .ok (.volume v) => { volumes := [{ name := v.name, status := v.status }] }
  | .ok .help => { help := Options.helpText }
  | .error f => { err := f.message }

def pathResponse (result : Except Failure Runtime.VolumeInfo) : Runtime.MountResponse :=
  match result with
  | .ok info => ⟨info.mountpoint, ""⟩
  | .error f => ⟨"", f.message⟩

def answering {α β : Type} (w : Workflow α) (respond : Except Failure α → β) : Program β :=
  w.run.andThen fun result => .done (respond result)

/-- What the agent does for a command. `current` is the description of this node at the time when
the command is given; only the parts of workflows that run on their own make use of it. -/
def program (c : Config) (current : Host) : Command → Program Response
  | mount r => answering (Workflow.mount c r.name r.opts) fun x => .mounted (.ofResult x)
  | unmount r => answering (Workflow.unmount c r.name r.opts) fun x => .driver (.ofResult x)
  | create r => answering (Workflow.create c r.name r.opts) fun x => .created (createResponse x)
  | remove r => answering (Workflow.remove c r.name) fun x => .driver (.ofResult x)
  | get r => answering (Workflow.describe c r.name) fun x => .volume (.ofResult x)
  | path r => answering (Workflow.describe c r.name) fun x => .mounted (pathResponse x)
  | capabilities => .done (.capabilities ⟨⟨c.scope⟩⟩)
  | configuration => .done (.configuration c)
  | awaitConflict name kind timeout =>
    .await (.start name current kind (1000 * c.conflict.tick) (1000 * timeout)) fun v =>
      .done (.conflict v kind)
  | reconcile name => answering (Workflow.reconcile name current) .cleanup

end Command
end VolumeLifecycle
