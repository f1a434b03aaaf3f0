import VolumeLifecycle.Text.Fragment

namespace VolumeLifecycle

/-- The cause of a failed operation. The texts that callers see are all made by `Failure.message`. -/
inductive Failure where
  /-- Malformed request options, refused before any side effect. -/
  | invalidArgument (text : String)
  /-- The provider answered with an error of its own. -/
  | provider (text : String)
  /-- Another mount is still creating the filesystem of the volume. -/
  | providerBusy (volume : String)
  /-- The device manager of this node failed. -/
  | host (text : String)
  /-- A volume or device could not be found. -/
  | notFound (subject : String)
  /-- What this node knows about the volume contradicts itself. -/
  | inconsistentState (volume : String) (reason : String)
  /-- The configuration could not be read or parsed. -/
  | config (text : String)
  /-- The provider could not be reached. -/
  | transport (text : String)
  /-- Undoing an operation failed after the operation itself had failed. -/
  | rollback (first : Failure) (cause : String)
  /-- Anything else. -/
  | internal (text : String)
  deriving DecidableEq, Inhabited

namespace Failure

/-- The text that a caller sees. Errors of the provider and of the device manager pass through
unchanged. -/
def message : Failure → String
  | invalidArgument text => text
  | provider text => text
  | providerBusy volume =>
    "another mount request creating filesystem on volume " ++ volume ++
      " is in progress, please retry later"
  | host text => text
  | notFound subject => subject ++ " not found"
  | inconsistentState volume reason =>
    "inconsistent state for volume " ++ volume ++ ": " ++ reason
  | config text => "config error: " ++ text
  | transport text => "transport error: " ++ text
  | rollback first cause => first.message ++ "; rollback failed: " ++ cause
  | internal text => "internal error: " ++ text

/-- Whether the provider refused because a filesystem is being created on the volume. -/
def isBusyMount : Failure → Bool
  | provider text => Text.hasFragment text "busy mount"
  | _ => false

/-- Whether the failure says that its object is gone already. The device manager says so in the
text alone. -/
def isNotFound (f : Failure) : Bool :=
  (f matches notFound _) || Text.hasFragment f.message "not found"

/-- Whether an unmount failed because there is nothing left to unmount. -/
def isAlreadyClean (f : Failure) : Bool :=
  f.isNotFound || Text.hasFragment f.message "not mounted" ||
    Text.hasFragment f.message "no such file"

/-- Whether the unmount of a single entry failed because the entry is stale: its text says both
that nothing is mounted and that there is no such file. -/
def isStaleEntry (f : Failure) : Bool :=
  Text.hasFragment f.message "not mounted" && Text.hasFragment f.message "no such file"

/-- The failure with a refusal for a busy mount turned into one that names the volume. -/
def clarifyBusy (f : Failure) (volume : String) : Failure :=
  if f.isBusyMount then providerBusy volume else f

end Failure
end VolumeLifecycle
