import VolumeLifecycle.Config.Basic
import VolumeLifecycle.Options.Basic
import VolumeLifecycle.Program.Basic

namespace VolumeLifecycle.Workflow

structure Request where
  name : String
  options : Options
  host : Host
  deriving Inhabited

def nameRequired : Failure :=
  .invalidArgument "volume name is required"

def checkName (name : String) : Except Failure Unit :=
  if Text.isBlankText name then .error nameRequired else .ok ()

/-- The inputs of a workflow: the name is checked, the options are read, then this node is
described. -/
def gather (name : String) (opts : Dict Json) : Workflow Request := do
  ofExcept (checkName name)
  let options ← ofExcept (Options.ofDict opts)
  let host ← describeHost
  return { name, options, host }

/-- The request that the provider sees, without the options that only steer the agent. -/
def providerRequest (c : Config) (r : Request) : Provider.Request :=
  { name := r.name
    opts := r.options.stripPrivate.toDict
    host := some r.host
    user := c.provider.user
    scope := c.scope }

/-- How long to wait for another host, in milliseconds: the request's option, else the configured
delay. -/
def conflictTimeout (c : Config) (kind : Conflict.Kind) (options : Options) : Nat :=
  1000 * match kind with
    | .mount => options.mountConflictDelay.getD c.conflict.mountDelaySecs.toNat
    | .delete => options.deleteConflictDelay.getD c.conflict.deleteDelaySecs.toNat

/-- Waits while another host holds the volume of a request. -/
def awaitConflict (c : Config) (kind : Conflict.Kind) (r : Request) : Workflow Conflict.Verdict :=
  await (.start r.name r.host kind (1000 * c.conflict.tick) (conflictTimeout c kind r.options))

/-- Whether one of the wanted names is the name or the address of an interface. -/
def isWanted (wanted : List String) (i : NetworkInterface) : Bool :=
  wanted.any fun w => w = i.name || w = i.addressV4

def noInitiators : Failure :=
  .invalidArgument "no initiators configured, the initiators option is required in cloud mode"

/-- The failure of a mount in cloud mode whose initiators this node does not have. -/
def noneMatches (wanted : List String) : Failure :=
  .invalidArgument
    ("none of the initiators " ++ ",".intercalate wanted ++
      " match a network interface on this host")

/-- This node with the wanted network interfaces only. Some have to be wanted, and one of them has
to be there. -/
def restrictTo (host : Host) (wanted : Option (List String)) : Except Failure Host :=
  match wanted with
  | none | some [] => .error noInitiators
  | some wanted =>
    let kept := host.networkInterfaces.filter (isWanted wanted)
    if kept.isEmpty then .error (noneMatches wanted)
    else .ok { host with networkInterfaces := kept }

end VolumeLifecycle.Workflow
