
namespace VolumeLifecycle.Options

/-- An option that the agent knows by name. All others belong to the provider and pass through
untouched. -/
inductive Key where
  | filesystem
  | fsMode
  | fsOwner
  | initiators
  | delayedCreate
  | mountConflictDelay
  | deleteConflictDelay
  | cloneOf
  | importVol
  | help
  deriving DecidableEq, Inhabited

namespace Key

def name : Key → String
  | filesystem => "filesystem"
  | fsMode => "fsMode"
  | fsOwner => "fsOwner"
  | initiators => "initiators"
  | delayedCreate => "delayedCreate"
  | mountConflictDelay => "mountConflictDelay"
  | deleteConflictDelay => "deleteConflictDelay"
  | cloneOf => "cloneOf"
  | importVol => "importVol"
  | help => "help"

def all : List Key :=
  [filesystem, fsMode, fsOwner, initiators, delayedCreate, mountConflictDelay, deleteConflictDelay,
    cloneOf, importVol, help]

def isKnown (s : String) : Bool :=
  all.any fun k => k.name = s

end Key
end VolumeLifecycle.Options
