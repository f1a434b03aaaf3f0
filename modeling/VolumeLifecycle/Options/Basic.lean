import VolumeLifecycle.Options.Grammar

namespace VolumeLifecycle

/-- The options of a volume request. Known options are read from an untyped map, each by its own
grammar; all others are kept as they are. Written back to a map, only set options appear. -/
structure Options where
  filesystem : Option String := none
  fsMode : Option String := none
  fsOwner : Option String := none
  initiators : Option (List String) := none
  delayedCreate : Option Bool := none
  mountConflictDelay : Option Nat := none
  deleteConflictDelay : Option Nat := none
  cloneOf : Option String := none
  importVol : Option String := none
  help : Bool := false
  /-- Options that the agent does not know, with their values as given. -/
  extra : Dict Json := .empty
  deriving Inhabited

namespace Options

/-- The setting of a known option in a map. An option that is not there is unset. -/
def setting {α : Type} (map : Dict Json) (key : Key) (read : Json → Reading α) :
    Except Failure (Option α) :=
  match map.get? key.name with
  | none => .ok none
  | some value => (read value).mapError (invalidValue key value)

def asksForHelp (map : Dict Json) : Bool :=
  match map.get? Key.help.name with
  | none => false
  | some value => readHelp value

def unknownEntries (map : Dict Json) : Dict Json :=
  ⟨map.entries.filter fun e => !Key.isKnown e.1, map.sorted.filter _⟩

/-- The options that a map gives. Each known option is read on its own, so the order of the entries
does not matter; a value outside of its grammar is a failure. -/
def ofDict (map : Dict Json) : Except Failure Options := do
  let filesystem ← setting map .filesystem readText
  let fsMode ← setting map .fsMode readText
  let fsOwner ← setting map .fsOwner readText
  let initiators ← setting map .initiators readTexts
  let delayedCreate ← setting map .delayedCreate readFlag
  let mountConflictDelay ← setting map .mountConflictDelay readDelay
  let deleteConflictDelay ← setting map .deleteConflictDelay readDelay
  let cloneOf ← setting map .cloneOf readText
  let importVol ← setting map .importVol readText
  return { filesystem, fsMode, fsOwner, initiators, delayedCreate, mountConflictDelay,
           deleteConflictDelay, cloneOf, importVol, help := asksForHelp map,
           extra := unknownEntries map }

/-- The options of a request over the defaults of its driver over the defaults of all volumes. The
maps are merged before anything is read, so a value that a later map replaces never matters. -/
def layered (global driver request : Dict Json) : Except Failure Options :=
  ofDict ((global.union driver).union request)

def put (map : Dict Json) (key : Key) : Option Json → Dict Json
  | some value => map.insert key.name value
  | none => map

def toDict (o : Options) : Dict Json :=
  let map := o.extra
  let map := put map .filesystem (o.filesystem.map .string)
  let map := put map .fsMode (o.fsMode.map .string)
  let map := put map .fsOwner (o.fsOwner.map .string)
  let map := put map .initiators (o.initiators.map .strings)
  let map := put map .delayedCreate (o.delayedCreate.map .bool)
  let map := put map .mountConflictDelay (o.mountConflictDelay.map .natural)
  let map := put map .deleteConflictDelay (o.deleteConflictDelay.map .natural)
  let map := put map .cloneOf (o.cloneOf.map .string)
  let map := put map .importVol (o.importVol.map .string)
  put map .help (if o.help then some (.bool true) else none)

def isCloneOrImport (o : Options) : Bool :=
  o.cloneOf.isSome || o.importVol.isSome

/-- The options without those that only steer the agent and that the provider must not see. -/
def stripPrivate (o : Options) : Options :=
  { o with help := false, initiators := none }

end Options
end VolumeLifecycle
