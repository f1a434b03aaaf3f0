import VolumeLifecycle.Conflict
import VolumeLifecycle.Operation

namespace VolumeLifecycle

/-- A workflow as data, which ends with a value of type `α`. It is done, or asks for an effect and
goes on with the reply, or waits while another host holds a volume, or passes the gate, at most
once. What effects do is not part of it, so the same program runs against any collaborators and can
be followed step by step among others. -/
inductive Program (α : Type) where
  | done (value : α)
  | perform (effect : Effect) (next : effect.Reply → Program α)
  /-- A conflict wait. It is kept as a whole, since it need not end. -/
  | await (wait : Conflict.Wait) (next : Conflict.Verdict → Program α)
  /-- Passes the gate for a volume name. -/
  | enter (name : String) (op : Operation) (next : Program α)

namespace Program

variable {α β : Type}

def andThen (p : Program α) (f : α → Program β) : Program β :=
  match p with
  | done a => f a
  | perform e next => perform e fun r => (next r).andThen f
  | await w next => await w fun v => (next v).andThen f
  | enter name op next => enter name op (next.andThen f)

instance : Monad Program where
  pure := done
  bind := andThen

/-- What a program does next. -/
inductive View (α : Type) where
  | done (value : α)
  | asks (effect : Effect) (next : effect.Reply → Program α)
  | enters (name : String) (op : Operation) (next : Program α)

/-- What a program does next. A conflict wait is unfolded by one step. -/
def view : Program α → View α
  | done a => .done a
  | perform e next => .asks e next
  | await w next =>
    match w.view with
    | .ended v => (next v).view
    | .asks e after => .asks e fun r => await (after r) next
  | enter name op next => .enters name op next

end Program

/-- A workflow that can fail. -/
abbrev Workflow (α : Type) := ExceptT Failure Program α

namespace Workflow

def perform (e : Effect) : Workflow e.Reply :=
  ExceptT.lift (.perform e .done)

def call (c : Call) : Workflow c.Answer :=
  ExceptT.mk (.perform (.call c) .done)

def attempt (c : Call) : Workflow c.Reply :=
  perform (.call c)

def provider (op : Provider.Op) (request : Provider.Request) : Workflow Provider.Response :=
  call (.provider op request)

def describeHost : Workflow Host :=
  ExceptT.mk (.perform .describeHost .done)

def await (w : Conflict.Wait) : Workflow Conflict.Verdict :=
  ExceptT.lift (.await w .done)

/-- Passes the gate for a volume name; it is held until the workflow ends. -/
def enter (name : String) (op : Operation) : Workflow Unit :=
  ExceptT.lift (.enter name op (.done ()))

def ofExcept {α : Type} (result : Except Failure α) : Workflow α :=
  ExceptT.mk (.done result)

def fail {α : Type} (f : Failure) : Workflow α :=
  ofExcept (.error f)

def result {α : Type} (w : Workflow α) : Workflow (Except Failure α) :=
  ExceptT.lift w.run

end Workflow
end VolumeLifecycle
