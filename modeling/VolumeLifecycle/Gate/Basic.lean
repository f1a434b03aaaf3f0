import VolumeLifecycle.Config.Basic
import VolumeLifecycle.Operation

namespace VolumeLifecycle

/-- Where a ticket stands. -/
inductive Gate.Stage where
  /-- Nothing has been done for the ticket yet. -/
  | arriving
  /-- It waits for a slot of its class. -/
  | queued
  /-- It has its slot, or needs none; it has not looked for the lock of its name yet. -/
  | admitted
  /-- It has found the lock and not tried it yet. -/
  | located (lock : Nat)
  /-- It waits for the lock. -/
  | blocked (lock : Nat)
  /-- The lock has been handed to it while it waited; it has not noticed yet. -/
  | granted (lock : Nat)
  /-- It has passed: slot and lock are its own. -/
  | holding (lock : Nat)
  /-- It has given the lock back; the entry of its name and its slot are still to be seen to. -/
  | leaving
  deriving DecidableEq, Inhabited

structure Gate.Ticket where
  id : Nat
  name : String
  op : Operation
  stage : Gate.Stage
  deriving DecidableEq, Inhabited

/-- The slots of a bounded class: how many are free, and who waits for one, first come first. -/
structure Gate.Slots where
  free : Nat
  queue : List Nat
  deriving DecidableEq, Inhabited

/-- A lock: whether it is taken, and who waits for it, first come first. -/
structure Gate.Lock where
  id : Nat
  isHeld : Bool
  queue : List Nat
  deriving DecidableEq, Inhabited

/-- The gate that workflows pass: at most so many mounts and unmounts at once, and one workflow at a
time for each volume name. A workflow that wants to pass holds a ticket. It first takes a slot of
its class if the class is bounded, then the lock of its name; both are handed on in the order in
which tickets came to wait for them. Tickets refer to the lock that they found for their name, and a
leaving workflow drops the entry of its name if no ticket refers to its lock any more. -/
structure Gate where
  mountSlots : Gate.Slots
  unmountSlots : Gate.Slots
  /-- The current lock of each name that has one. -/
  entries : Dict Nat
  /-- All locks that were ever made, the newest last. -/
  locks : List Gate.Lock
  /-- All tickets that have not left, in the order in which they came. -/
  tickets : List Gate.Ticket

namespace Gate

def maxSlots : Nat := 2305843009213693951

def tooManySlots : String :=
  "a semaphore may not have more than MAX_PERMITS permits (" ++ toString maxSlots ++ ")"

/-- The slots of a class for a configured number: at least one. -/
def slotsFor (n : UInt64) : Nat :=
  max n.toNat 1

/-- The gate that nobody has come to, if its classes do not have too many slots. -/
def ofConfig (c : Config.Admission) : Except String Gate :=
  if maxSlots < slotsFor c.mount || maxSlots < slotsFor c.unmount then .error tooManySlots
  else .ok
    { mountSlots := ⟨slotsFor c.mount, []⟩
      unmountSlots := ⟨slotsFor c.unmount, []⟩
      entries := .empty
      locks := []
      tickets := [] }

def slots? (g : Gate) : Operation → Option Slots
  | .mount => some g.mountSlots
  | .unmount => some g.unmountSlots
  | _ => none

def setSlots (g : Gate) (op : Operation) (s : Slots) : Gate :=
  match op with
  | .mount => { g with mountSlots := s }
  | .unmount => { g with unmountSlots := s }
  | _ => g

/-- How many slots of a class are free; nothing for a class without a bound. -/
def available (g : Gate) (op : Operation) : Option Nat :=
  (g.slots? op).map Slots.free

def trackedNames (g : Gate) : Nat :=
  g.entries.entries.length

def ticket? (g : Gate) (id : Nat) : Option Ticket :=
  g.tickets.find? fun t => t.id = id

def lock? (g : Gate) (lock : Nat) : Option Lock :=
  g.locks.find? fun l => l.id = lock

def setStage (g : Gate) (id : Nat) (stage : Stage) : Gate :=
  { g with tickets := g.tickets.map fun t => if t.id = id then { t with stage } else t }

def dropTicket (g : Gate) (id : Nat) : Gate :=
  { g with tickets := g.tickets.filter fun t => t.id ≠ id }

def setLock (g : Gate) (lock : Lock) : Gate :=
  { g with locks := g.locks.map fun l => if l.id = lock.id then lock else l }

def Stage.lock? : Stage → Option Nat
  | located l => some l
  | blocked l => some l
  | granted l => some l
  | holding l => some l
  | _ => none

def Stage.isPending : Stage → Bool
  | holding _ => false
  | leaving => false
  | _ => true

def Stage.isWaiting : Stage → Bool
  | queued => true
  | blocked _ => true
  | _ => false

/-- Whether a stage is that of a workflow that has passed and not begun to leave. -/
def Stage.isLive : Stage → Bool
  | holding _ => true
  | _ => false

def isReferenced (g : Gate) (lock : Nat) : Bool :=
  g.tickets.any fun t => t.stage.lock? = some lock

/-- Gives a slot of a class back: to the first ticket in its queue, or to the free ones. -/
def returnSlot (g : Gate) (op : Operation) : Gate :=
  match g.slots? op with
  | none => g
  | some s =>
    match s.queue with
    | [] => g.setSlots op { s with free := s.free + 1 }
    | id :: rest => (g.setSlots op { s with queue := rest }).setStage id .admitted

/-- Gives a lock back: to the first ticket in its queue, or to nobody. -/
def returnLock (g : Gate) (lock : Nat) : Gate :=
  match g.lock? lock with
  | none => g
  | some l =>
    match l.queue with
    | [] => g.setLock { l with isHeld := false }
    | id :: rest => (g.setLock { l with queue := rest }).setStage id (.granted lock)

def seekSlot (g : Gate) (t : Ticket) : Gate :=
  match g.slots? t.op with
  | none => g.setStage t.id .admitted
  | some s =>
    if 0 < s.free then (g.setSlots t.op { s with free := s.free - 1 }).setStage t.id .admitted
    else (g.setSlots t.op { s with queue := s.queue ++ [t.id] }).setStage t.id .queued

/-- A ticket looks up the lock of its name, which is made if there is none. -/
def findLock (g : Gate) (t : Ticket) : Gate :=
  match g.entries.get? t.name with
  | some lock => g.setStage t.id (.located lock)
  | none =>
    let lock := g.locks.length
    let made : Gate :=
      { g with
        entries := g.entries.insert t.name lock
        locks := g.locks ++ [⟨lock, false, []⟩] }
    made.setStage t.id (.located lock)

def seekLock (g : Gate) (t : Ticket) (lock : Nat) : Gate :=
  match g.lock? lock with
  | none => g
  | some l =>
    if l.isHeld then
      (g.setLock { l with queue := l.queue ++ [t.id] }).setStage t.id (.blocked lock)
    else (g.setLock { l with isHeld := true }).setStage t.id (.holding lock)

/-- The gate with a new ticket. Numbers are not used twice. -/
def arrive (g : Gate) (id : Nat) (name : String) (op : Operation) : Gate :=
  if (g.ticket? id).isSome then g
  else { g with tickets := g.tickets ++ [⟨id, name, op, .arriving⟩] }

/-- The next atomic step of a ticket on its way in. A ticket that waits, and one that has passed, do
not move. -/
def advance (g : Gate) (id : Nat) : Gate :=
  match g.ticket? id with
  | none => g
  | some t =>
    match t.stage with
    | .arriving => g.seekSlot t
    | .admitted => g.findLock t
    | .located lock => g.seekLock t lock
    | .granted lock => g.setStage id (.holding lock)
    | _ => g

/-- The first half of leaving: the lock is given back. -/
def unlock (g : Gate) (id : Nat) : Gate :=
  match g.ticket? id with
  | some ⟨_, _, _, .holding lock⟩ => (g.setStage id .leaving).returnLock lock
  | _ => g

/-- The gate without the entry of a name, unless a ticket refers to its lock. -/
def dropEntry (g : Gate) (name : String) : Gate :=
  match g.entries.get? name with
  | some lock => if g.isReferenced lock then g else { g with entries := g.entries.erase name }
  | none => g

/-- The second half of leaving: the entry of the name goes unless it is needed, then the slot is
given back. -/
def retire (g : Gate) (id : Nat) : Gate :=
  match g.ticket? id with
  | some ⟨_, name, op, .leaving⟩ => ((g.dropEntry name).dropTicket id).returnSlot op
  | _ => g

/-- The gate with a ticket taken out of the queue of its class. -/
def leaveSlotQueue (g : Gate) (op : Operation) (id : Nat) : Gate :=
  match g.slots? op with
  | none => g
  | some s => g.setSlots op { s with queue := s.queue.filter (· ≠ id) }

def leaveLockQueue (g : Gate) (lock id : Nat) : Gate :=
  match g.lock? lock with
  | none => g
  | some l => g.setLock { l with queue := l.queue.filter (· ≠ id) }

/-- Gives up a ticket that waits or has been handed something while it waited. What it has been
handed goes on to the next; the entry of its name stays. A ticket that has passed, or is in the
middle of a step, is left alone. -/
def cancel (g : Gate) (id : Nat) : Gate :=
  match g.ticket? id with
  | some ⟨_, _, op, stage⟩ =>
    match stage with
    | .arriving => g.dropTicket id
    | .queued => (g.leaveSlotQueue op id).dropTicket id
    | .admitted => (g.dropTicket id).returnSlot op
    | .blocked lock => ((g.leaveLockQueue lock id).dropTicket id).returnSlot op
    | .granted lock => ((g.dropTicket id).returnLock lock).returnSlot op
    | _ => g
  | none => g

/-- An atomic step of the gate. -/
inductive Event where
  | arrive (id : Nat) (name : String) (op : Operation)
  | advance (id : Nat)
  | unlock (id : Nat)
  | retire (id : Nat)
  | cancel (id : Nat)
  deriving DecidableEq

def apply (g : Gate) : Event → Gate
  | .arrive id name op => g.arrive id name op
  | .advance id => g.advance id
  | .unlock id => g.unlock id
  | .retire id => g.retire id
  | .cancel id => g.cancel id

def run (g : Gate) (events : List Event) : Gate :=
  events.foldl apply g

/-- Lets a ticket go as far as it can. Three steps are enough: slot, lock of its name, taking it. -/
def poll (g : Gate) (id : Nat) : Gate :=
  ((g.advance id).advance id).advance id

def release (g : Gate) (id : Nat) : Gate :=
  (g.unlock id).retire id

def hasPassed (g : Gate) (id : Nat) : Bool :=
  match g.ticket? id with
  | some t => t.stage.isLive
  | none => false

def isWaiting (g : Gate) (id : Nat) : Bool :=
  match g.ticket? id with
  | some t => t.stage.isWaiting
  | none => false

/-- The tickets that have not passed yet, in the order in which they came. -/
def pending (g : Gate) : List Nat :=
  (g.tickets.filter fun t => t.stage.isPending).map Ticket.id

end Gate
end VolumeLifecycle
