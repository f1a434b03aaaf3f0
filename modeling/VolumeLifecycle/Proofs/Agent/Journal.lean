import VolumeLifecycle.Agent.Basic
import VolumeLifecycle.Proofs.Gate.Passing
import VolumeLifecycle.Proofs.Workflow.Discipline

namespace VolumeLifecycle

/-- Whether the section of a command begins with a call, if it has not begun before. A mount repairs
and waits before its section, which begins with the provider's mount. -/
def Command.opens : Command → Call → Bool
  | mount _, c => c.kind = .provider .mount
  | unmount _, _ => true
  | create _, _ => true
  | remove _, _ => true
  | get _, _ => true
  | path _, _ => true
  | _, _ => false

namespace Agent

variable {World : Type}

/-- Something that can happen to an agent: a command is given, a task takes a step, or the reply to a
task of a name is held back no longer. -/
inductive Action where
  | start (id : String) (holds : List Call.Kind) (host : Host) (command : Command)
  | step (ticket : Nat)
  | resume (id : String)

def act (c : Config) (perform : Perform World) (a : Agent World) : Action → Agent World
  | .start id holds host command => a.start id holds (command.program c host)
  | .step ticket => a.step perform ticket
  | .resume id => (a.resume? id).getD a

def nextCall? (p : Program Response) : Option Call :=
  match p.view with
  | .asks (.call c) _ => some c
  | _ => none

/-- The call that the next step of a task makes, if it makes one. -/
def Task.made? (t : Task) : Option Call :=
  match t.stage with
  | .running p => nextCall? p
  | _ => none

/-- The call that the next step of a task makes, if it makes one. -/
def made? (a : Agent World) (ticket : Nat) : Option Call :=
  (a.task? ticket).bind Task.made?

def Task.awaited? (t : Task) : Option Call :=
  match t.stage with
  | .calling c _ _ => some c
  | _ => none

/-- The call to which the next step of a task gets the reply, if it gets one. -/
def served? (a : Agent World) (ticket : Nat) : Option Call :=
  (a.task? ticket).bind fun t => if a.isBlocked t then none else t.awaited?

/-- A call that was made. -/
structure Mark where
  ticket : Nat
  call : Call
  /-- Whether the call belongs to the section of its workflow. -/
  isCritical : Bool
  /-- The name under which the task was inside of the gate. -/
  held : Option String

/-- An agent with a journal: which command each task runs, and which calls were made, in order. -/
structure Journal (World : Type) where
  agent : Agent World
  /-- The commands that were given; the number of a task is the place of its command. -/
  commands : List Command := []
  /-- The calls that were made, in order. -/
  marks : List Mark := []

namespace Journal

/-- The journal of an agent that has been given no command yet. -/
def begin (gate : Gate) (world : World) : Journal World :=
  ⟨{ gate, world }, [], []⟩

/-- Whether a call of a task belongs to its section: it opens it, or the section has begun. -/
def isCritical (j : Journal World) (ticket : Nat) (c : Call) : Bool :=
  (j.commands[ticket]?).any (·.opens c) ||
    j.marks.any fun m => m.ticket = ticket && m.isCritical

def mark (j : Journal World) (ticket : Nat) (c : Call) : Mark :=
  ⟨ticket, c, j.isCritical ticket c, j.agent.gate.heldName? ticket⟩

def act (c : Config) (perform : Perform World) (j : Journal World) (action : Action) :
    Journal World where
  agent := j.agent.act c perform action
  commands := match action with
    | .start _ _ _ command => j.commands ++ [command]
    | _ => j.commands
  marks := match action with
    | .step ticket => j.marks ++ ((j.agent.made? ticket).map (j.mark ticket)).toList
    | _ => j.marks

/-- The journal after a row of things has happened to the agent. -/
def run (c : Config) (perform : Perform World) (j : Journal World) (actions : List Action) :
    Journal World :=
  actions.foldl (act c perform) j

/-- The name that the command of a task asks for. -/
def requested? (j : Journal World) (ticket : Nat) : Option String :=
  (j.commands[ticket]?).bind fun command => command.target?.map Prod.fst

def class? (j : Journal World) (ticket : Nat) : Option Operation :=
  (j.commands[ticket]?).bind fun command => command.target?.map Prod.snd

/-- The section of a task: its critical calls, in order. -/
def sectionOf (j : Journal World) (ticket : Nat) : List Mark :=
  j.marks.filter fun m => m.isCritical && m.ticket = ticket

/-- The critical calls of all tasks whose commands ask for a name, in order. -/
def log (j : Journal World) (name : String) : List Mark :=
  j.marks.filter fun m => m.isCritical && j.requested? m.ticket = some name

def openSections (j : Journal World) (op : Operation) : List Task :=
  j.agent.tasks.filter fun t => j.class? t.ticket = some op && !(j.sectionOf t.ticket).isEmpty

end Journal
end Agent
end VolumeLifecycle
