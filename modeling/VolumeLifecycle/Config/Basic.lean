import VolumeLifecycle.Dict
import VolumeLifecycle.Json.Basic
import VolumeLifecycle.Path

namespace VolumeLifecycle

structure Config.Provider where
  endpoint : String := "http://127.0.0.1:8080"
  /-- The identity of the caller, sent with every request. -/
  user : String := ""
  timeoutSecs : UInt64 := 30
  deriving DecidableEq, Inhabited

/-- How long to wait while another host holds a volume. -/
structure Config.Conflict where
  mountDelaySecs : UInt64 := 30
  deleteDelaySecs : UInt64 := 150
  tickSecs : UInt64 := 5
  deriving DecidableEq, Inhabited

/-- How many workflows of a class may run at once. -/
structure Config.Admission where
  mount : UInt64 := 30
  unmount : UInt64 := 30
  deriving DecidableEq, Inhabited

/-- How long a description of this node is kept. -/
structure Config.Host where
  cacheTtlSecs : UInt64 := 600
  deriving DecidableEq, Inhabited

/-- The configuration of the agent. Every setting has a default, so the empty configuration works. -/
structure Config where
  /-- The directory under which volumes are mounted, each at its name. -/
  mountDir : Path := ⟨"/var/lib/volagent/mounts"⟩
  /-- The name of this plugin instance, which selects the defaults of its driver. -/
  driver : String := "nimble"
  /-- The scope told to the runtime and to the provider. -/
  scope : String := "global"
  /-- Whether mounts are restricted to the network interfaces that a request names. -/
  cloudMode : Bool := false
  logLevel : String := "info"
  provider : Config.Provider := {}
  conflict : Config.Conflict := {}
  admission : Config.Admission := {}
  host : Config.Host := {}
  /-- Default options of all volumes. -/
  defaults : Dict Json := .empty
  /-- Default options by driver. -/
  driverDefaults : Dict (Dict Json) := .empty
  deriving Inhabited

namespace Config

/-- The interval between two looks at a volume held elsewhere, at least one second. -/
def Conflict.tick (c : Config.Conflict) : Nat :=
  max c.tickSecs.toNat 1

def selectedDefaults (c : Config) : Dict Json :=
  (c.driverDefaults.get? c.driver).getD .empty

def mountpointFor (c : Config) (volume : String) : Path :=
  c.mountDir.join volume

end Config
end VolumeLifecycle
