import VolumeLifecycle.Failure
import VolumeLifecycle.Host
import VolumeLifecycle.Volume

namespace VolumeLifecycle.Provider

inductive Op where
  | get
  | create
  | update
  | mount
  | unmount
  | remove
  | detach
  deriving DecidableEq, Inhabited

structure Request where
  name : String
  opts : Dict Json := .empty
  host : Option Host := none
  user : String := ""
  scope : String := ""
  deriving Inhabited

namespace Request

def named (name : String) : Request :=
  { name }

def withOpt (r : Request) (key : String) (value : Json) : Request :=
  { r with opts := r.opts.insert key value }

end Request

/-- A reply of the provider. An error of the provider travels inside of it; only a failure to reach
the provider is a failure of the call. -/
structure Response where
  volume : Option Volume := none
  err : String := ""
  message : String := ""
  deriving Inhabited

namespace Response

/-- The message by which the provider says that other containers still hold the volume. -/
def doNotUnmount : String := "donotunmount"

def ofVolume (v : Volume) : Response :=
  { volume := some v }

def ofError (err : String) : Response :=
  { err }

def isDoNotUnmount (r : Response) : Bool :=
  r.message = doNotUnmount

def check (r : Response) : Except Failure Response :=
  if r.err = "" then .ok r else .error (.provider r.err)

/-- The volume of a reply without error; a reply without volume means that there is none. -/
def intoVolume (r : Response) (name : String) : Except Failure Volume :=
  match r.check with
  | .error f => .error f
  | .ok r =>
    match r.volume with
    | some v => .ok v
    | none => .error (.notFound ("volume " ++ name))

end Response
end VolumeLifecycle.Provider
