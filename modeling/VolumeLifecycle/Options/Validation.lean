import VolumeLifecycle.Options.Basic

namespace VolumeLifecycle.Options

def supportedFilesystems : List String :=
  ["xfs", "ext2", "ext3", "ext4", "btrfs"]

def defaultFilesystem : String := "xfs"

/-- Whether a text is an octal mode: one to four digits below eight. -/
def isOctalMode (s : String) : Bool :=
  let digits := s.toList
  1 ≤ digits.length && digits.length ≤ 4 && digits.all fun c => '0' ≤ c && c ≤ '7'

/-- Whether a text is an owner: digits, a colon, digits. -/
def isOwner (s : String) : Bool :=
  match Text.splitChars ':' s.toList with
  | [user, group] => Text.isDigits user && Text.isDigits group
  | _ => false

def checkSet (setting : Option String) (isValid : String → Bool) (complaint : String → String) :
    Except Failure Unit :=
  match setting with
  | none => .ok ()
  | some s => if isValid s then .ok () else .error (.invalidArgument (complaint s))

def validate (o : Options) : Except Failure Unit := do
  checkSet o.filesystem supportedFilesystems.contains fun s =>
    "invalid filesystem " ++ s ++ ", supported filesystems are " ++
      ", ".intercalate supportedFilesystems
  checkSet o.fsMode isOctalMode fun s =>
    "invalid fsMode " ++ s ++ ", expected an octal mode such as 0755"
  checkSet o.fsOwner isOwner fun s => "invalid fsOwner " ++ s ++ ", expected <uid>:<gid>"

def helpText : String :=
  "\n".intercalate
    ["Volume options:",
     "  -o filesystem=<xfs|ext2|ext3|ext4|btrfs>  filesystem created on the volume (default xfs)",
     "  -o fsMode=<octal>                         permissions of the filesystem root, e.g. 0755",
     "  -o fsOwner=<uid>:<gid>                    owner of the filesystem root",
     "  -o cloneOf=<volume>                       create the volume as a clone of another volume",
     "  -o importVol=<volume>                     import an existing provider volume",
     "  -o mountConflictDelay=<seconds>           wait for other hosts to release before mounting",
     "  -o deleteConflictDelay=<seconds>          wait for other hosts to release before removing",
     "  -o initiators=<iface,...>                 network interfaces used in cloud mode"]

end VolumeLifecycle.Options
