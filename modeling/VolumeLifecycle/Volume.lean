import VolumeLifecycle.Json.Basic

namespace VolumeLifecycle

/-- The protocol by which a volume's blocks are reached. -/
inductive AccessProtocol where
  | iscsi
  | fc
  deriving DecidableEq, Inhabited

/-- Whether the target behind a volume is its own or shared with other volumes. -/
inductive TargetScope where
  | volume
  | group
  deriving DecidableEq, Inhabited

/-- An active iSCSI connection to a volume's target. -/
structure IscsiSession where
  initiatorName : String
  initiatorIp : String
  deriving DecidableEq, Inhabited

/-- An active Fibre Channel connection to a volume's target, by the initiator's port name. -/
structure FcSession where
  initiatorWwpn : String
  deriving DecidableEq, Inhabited

structure Volume where
  id : String := ""
  name : String
  serialNumber : String := ""
  inUse : Bool := false
  accessProtocol : AccessProtocol := .iscsi
  iscsiSessions : List IscsiSession := []
  fcSessions : List FcSession := []
  targetScope : TargetScope := .volume
  /-- Free-form markers that workflows leave behind. -/
  status : Dict Json := .empty
  /-- How the device manager is to connect; unset as long as the provider does not care. -/
  connectionMode : Option String := none
  /-- Whether the volume goes away when the last host detaches. -/
  destroyOnDetach : Bool := false
  deriving Inhabited

namespace Volume

/-- The status marker of a volume whose filesystem is created on first mount. -/
def delayedCreateKey : String := "delayedCreate"

def filesystemKey : String := "filesystem"

def inUseKey : String := "inUse"

/-- The connection mode of volumes that are mounted for the container runtime. -/
def manualConnection : String := "manual"

def isGroupScoped (v : Volume) : Bool :=
  v.targetScope = .group

/-- Whether every host has to release the device explicitly: Fibre Channel, or a group target. -/
def isSharedTarget (v : Volume) : Bool :=
  v.accessProtocol = .fc || v.isGroupScoped

/-- Whether a status value says that the filesystem is still to be created. Absent, null, `false`
in either spelling and the empty text do not; everything else does, whatever its type. -/
def marksDelayedCreate : Option Json → Bool
  | none => false
  | some .null => false
  | some (.bool b) => b
  | some (.string s) => s ≠ "" && s ≠ "false"
  | some _ => true

def hasDelayedCreate (v : Volume) : Bool :=
  marksDelayedCreate (v.status.get? delayedCreateKey)

/-- The filesystem to create on first mount, if one is still to be created and its name is a text
that is not empty. -/
def delayedFilesystem (v : Volume) : Option String :=
  if v.hasDelayedCreate then
    match v.status.get? filesystemKey with
    | some (.string s) => if s = "" then none else some s
    | _ => none
  else none

/-- Whether the volume is in use: the status marker decides if it is a boolean or a text, else the
flag. -/
def statusInUse (v : Volume) : Bool :=
  match v.status.get? inUseKey with
  | some (.bool b) => b
  | some (.string s) => s = "true"
  | _ => v.inUse

end Volume
end VolumeLifecycle
