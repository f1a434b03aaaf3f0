import VolumeLifecycle.Path

namespace VolumeLifecycle

inductive DeviceState where
  | attached
  | mounted
  | offline
  | failed
  | lunIdConflict
  | deleted
  deriving DecidableEq, Inhabited

def DeviceState.isHealthy : DeviceState → Bool
  | failed => false
  | lunIdConflict => false
  | _ => true

structure Device where
  serialNumber : String
  /-- The multipath name, such as `dm-3`. -/
  mpathName : String := ""
  /-- The path of the device file. -/
  path : String := ""
  state : DeviceState := .attached
  deriving DecidableEq, Inhabited

structure Mount where
  mountpoint : Path
  device : Device
  deriving DecidableEq, Inhabited

namespace Mount

def isAt (m : Mount) (path : Path) : Bool :=
  m.mountpoint.sameAs path

def servesAt (m : Mount) (path : Path) : Bool :=
  m.isAt path && m.device.state.isHealthy

end Mount
end VolumeLifecycle
