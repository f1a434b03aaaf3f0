import VolumeLifecycle.Failure
import VolumeLifecycle.Path
import VolumeLifecycle.Json.Basic

namespace VolumeLifecycle.Runtime

structure MountRequest where
  name : String
  id : String := ""
  opts : Dict Json := .empty
  deriving Inhabited

structure CreateRequest where
  name : String
  opts : Dict Json := .empty
  deriving Inhabited

/-- A request that names a volume and nothing else. -/
structure NameRequest where
  name : String
  deriving DecidableEq, Inhabited

structure MountResponse where
  mountpoint : String
  err : String
  deriving DecidableEq, Inhabited

structure VolumeInfo where
  name : String
  mountpoint : String := ""
  status : Dict Json := .empty
  deriving Inhabited

structure VolumeResponse where
  volume : Option VolumeInfo
  err : String
  deriving Inhabited

structure CreateResponse where
  err : String := ""
  volumes : List VolumeInfo := []
  help : String := ""
  deriving Inhabited

/-- The answer of operations that have nothing to say but whether they failed. -/
structure DriverResponse where
  err : String
  deriving DecidableEq, Inhabited

structure Capability where
  scope : String
  deriving DecidableEq, Inhabited

structure CapabilitiesResponse where
  capabilities : Capability
  deriving DecidableEq, Inhabited

def errorText {α : Type} : Except Failure α → String
  | .ok _ => ""
  | .error f => f.message

def MountResponse.ofResult : Except Failure Path → MountResponse
  | .ok path => ⟨path.text, ""⟩
  | .error f => ⟨"", f.message⟩

def DriverResponse.ofResult {α : Type} (result : Except Failure α) : DriverResponse :=
  ⟨errorText result⟩

def VolumeResponse.ofResult : Except Failure VolumeInfo → VolumeResponse
  | .ok info => ⟨some info, ""⟩
  | .error f => ⟨none, f.message⟩

end VolumeLifecycle.Runtime
