import VolumeLifecycle.Gate.Basic
import VolumeLifecycle.Workflow.Command

namespace VolumeLifecycle

inductive Agent.Stage where
  | running (program : Program Response)
  /-- It has made a call and has no reply yet; the reply can be held back. -/
  | calling (call : Call) (isHeld : Bool) (next : call.Reply → Program Response)
  /-- Its ticket is on the way through the gate. -/
  | entering (next : Program Response)
  /-- It has its response and has given back the lock of its name. -/
  | leaving (response : Response)

structure Agent.Task where
  id : String
  /-- Its number, which is also the number of its ticket. -/
  ticket : Nat
  /-- The kinds of calls whose replies are held back until the task is resumed. -/
  holds : List Call.Kind
  stage : Agent.Stage
  /-- Whether a later task has taken its name over. -/
  isReplaced : Bool := false

/-- A call that was made, and the world in which it was made. -/
structure Agent.CallRecord (World : Type) where
  task : String
  call : Call
  world : World

/-- Commands that run side by side, the gate that they pass and the world that their effects act on.
Everything happens in small steps, each taken by one command, so every way in which commands can
overlap is a list of steps. What an effect does is a parameter: the world can be anything. -/
structure Agent (World : Type) where
  gate : Gate
  world : World
  /-- The running commands, in the order in which they were started. -/
  tasks : List Agent.Task := []
  /-- The number of the next task. -/
  next : Nat := 0
  /-- The calls that were made, the latest first. -/
  calls : List (Agent.CallRecord World) := []
  /-- The responses that were given, the latest first. -/
  responses : List (String × Response) := []

namespace Agent

/-- What effects do in a world. -/
abbrev Perform (World : Type) : Type := World → (e : Effect) → e.Reply × World

variable {World : Type}

def task? (a : Agent World) (ticket : Nat) : Option Task :=
  a.tasks.find? fun t => t.ticket = ticket

def setStage (a : Agent World) (ticket : Nat) (stage : Stage) : Agent World :=
  { a with tasks := a.tasks.map fun t => if t.ticket = ticket then { t with stage } else t }

/-- The task when another one is started under a name. -/
def Task.replaced (t : Task) (id : String) : Task :=
  if t.id = id then { t with isReplaced := true } else t

/-- The agent with one more task, for which the name stands from now on. -/
def start (a : Agent World) (id : String) (holds : List Call.Kind) (program : Program Response) :
    Agent World :=
  { a with
    tasks := a.tasks.map (·.replaced id) ++
      [{ id, ticket := a.next, holds, stage := .running program }]
    next := a.next + 1 }

def finish (a : Agent World) (t : Task) (response : Response) : Agent World :=
  { a with
    tasks := a.tasks.filter fun u => u.ticket ≠ t.ticket
    responses := (t.id, response) :: a.responses }

/-- Whether a task cannot take a step: its reply is held back, or it waits at the gate. -/
def isBlocked (a : Agent World) (t : Task) : Bool :=
  match t.stage with
  | .calling _ isHeld _ => isHeld
  | .entering _ => a.gate.isWaiting t.ticket
  | _ => false

def makeCall (a : Agent World) (t : Task) (c : Call) (next : c.Reply → Program Response) :
    Agent World :=
  let record : CallRecord World := ⟨t.id, c, a.world⟩
  { a with calls := record :: a.calls }.setStage t.ticket
    (.calling c (t.holds.contains c.kind) next)

def effect (perform : Perform World) (a : Agent World) (t : Task) (e : Effect)
    (next : e.Reply → Program Response) : Agent World :=
  let (reply, world) := perform a.world e
  { a with world }.setStage t.ticket (.running (next reply))

/-- A step of a running program. A call is two steps, since others can take theirs between the call
and the reply. -/
def advance (perform : Perform World) (a : Agent World) (t : Task) (p : Program Response) :
    Agent World :=
  match p.view with
  | .done response =>
    if a.gate.hasPassed t.ticket then
      { a with gate := a.gate.unlock t.ticket }.setStage t.ticket (.leaving response)
    else a.finish t response
  | .asks (.call c) next => a.makeCall t c next
  | .asks e next => a.effect perform t e next
  | .enters name op next =>
    { a with gate := a.gate.arrive t.ticket name op }.setStage t.ticket (.entering next)

def stepTask (perform : Perform World) (a : Agent World) (t : Task) : Agent World :=
  match t.stage with
  | .running p => a.advance perform t p
  | .calling c _ next => a.effect perform t (.call c) next
  | .entering next =>
    if a.gate.hasPassed t.ticket then a.setStage t.ticket (.running next)
    else { a with gate := a.gate.advance t.ticket }
  | .leaving response => { a with gate := a.gate.retire t.ticket }.finish t response

/-- A step of the task with a given number. A task that is blocked stays where it is. -/
def step (perform : Perform World) (a : Agent World) (ticket : Nat) : Agent World :=
  match a.task? ticket with
  | none => a
  | some t => if a.isBlocked t then a else a.stepTask perform t

def run (perform : Perform World) (a : Agent World) (tickets : List Nat) : Agent World :=
  tickets.foldl (step perform) a

/-- The call whose reply is held back until the name of the task is resumed. If the name stands for
another task by then, nobody can let it go on. -/
def Task.held? (t : Task) : Option Call :=
  match t.stage with
  | .calling c true _ => if t.isReplaced then none else some c
  | _ => none

def Task.released (t : Task) : Task :=
  match t.stage with
  | .calling c _ next => { t with stage := .calling c false next }
  | _ => t

/-- Lets the first task of a name whose reply is held back go on, if there is one. -/
def resume? (a : Agent World) (id : String) : Option (Agent World) := do
  let t ← a.tasks.find? fun t => t.id = id && t.held?.isSome
  return a.setStage t.ticket t.released.stage

def drop (a : Agent World) (t : Task) : Agent World :=
  { a with
    gate := (a.gate.cancel t.ticket).release t.ticket
    tasks := a.tasks.filter fun u => u.ticket ≠ t.ticket }

/-- Drops the tasks of a name, if there are any. -/
def cancel? (a : Agent World) (id : String) : Option (Agent World) :=
  match a.tasks.filter fun t => t.id = id with
  | [] => none
  | dropped => some (dropped.foldl drop a)

end Agent
end VolumeLifecycle
