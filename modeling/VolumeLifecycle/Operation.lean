
namespace VolumeLifecycle

/-- A kind of workflow, as far as admission and logging tell them apart. -/
inductive Operation where
  | mount
  | unmount
  | remove
  | create
  | get
  deriving DecidableEq, Inhabited

def Operation.name : Operation → String
  | mount => "mount"
  | unmount => "unmount"
  | remove => "remove"
  | create => "create"
  | get => "get"

def Operation.all : List Operation :=
  [mount, unmount, remove, create, get]

end VolumeLifecycle
