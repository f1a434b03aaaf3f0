import VolumeLifecycle.Gate.Basic

namespace VolumeLifecycle.Gate

/-- A gate with the callers' names for its tickets. After every request the waiting tickets are
looked at in the order in which they came, until nothing moves any more. -/
structure Desk where
  gate : Gate
  /-- The tickets that have not passed, in the order in which they came. -/
  waiting : List (String × Nat)
  /-- The tickets that have passed. -/
  held : List (String × Nat)
  /-- The number of the next ticket. -/
  next : Nat

namespace Desk

def ofGate (gate : Gate) : Desk :=
  ⟨gate, [], [], 0⟩

/-- A ticket has passed: it is held under its name, and one that was held under that name before
leaves. -/
def hold (d : Desk) (ticket : String × Nat) : Desk :=
  let held := d.held.filter fun h => h.1 ≠ ticket.1
  let waiting := d.waiting.filter fun w => w.2 ≠ ticket.2
  let gate := match d.held.lookup ticket.1 with
    | some older => d.gate.release older
    | none => d.gate
  { d with gate, waiting, held := held ++ [ticket] }

def look (d : Desk) (ticket : String × Nat) : Desk × List String :=
  let d := { d with gate := d.gate.poll ticket.2 }
  if d.gate.hasPassed ticket.2 then (d.hold ticket, [ticket.1]) else (d, [])

def lookAll (d : Desk) : List (String × Nat) → Desk × List String
  | [] => (d, [])
  | ticket :: rest =>
    let (d, passed) := d.look ticket
    let (d, more) := d.lookAll rest
    (d, passed ++ more)

/-- Looks at all waiting tickets again and again, as long as one passes; `rounds` bounds how
often. -/
def lookUntilQuiet : Nat → Desk → Desk × List String
  | 0, d => (d, [])
  | rounds + 1, d =>
    let (d, passed) := d.lookAll d.waiting
    if passed.isEmpty then (d, [])
    else
      let (d, more) := lookUntilQuiet rounds d
      (d, passed ++ more)

/-- Lets all waiting tickets move as far as they can, and returns the names of those that pass, in
order. Every round but the last lets one pass, so there are at most as many as tickets wait, and
one more. -/
def settle (d : Desk) : Desk × List String :=
  lookUntilQuiet (d.waiting.length + 1) d

/-- What a caller can ask for: a ticket, the release of the one that is held under a name, or the
end of all that wait under a name. -/
inductive Request where
  | acquire (id : String) (name : String) (op : Operation)
  | release (id : String)
  | cancel (id : String)
  | unknown

inductive Refusal where
  | notHeld
  | notWaiting
  | unknown
  deriving DecidableEq

def accept (d : Desk) : Request → Desk × Option Refusal
  | .acquire id name op =>
    ({ d with
        gate := d.gate.arrive d.next name op
        waiting := d.waiting ++ [(id, d.next)]
        next := d.next + 1 }, none)
  | .release id =>
    match d.held.lookup id with
    | some ticket =>
      ({ d with gate := d.gate.release ticket, held := d.held.filter fun h => h.1 ≠ id }, none)
    | none => (d, some .notHeld)
  | .cancel id =>
    match d.waiting.filter fun w => w.1 = id with
    | [] => (d, some .notWaiting)
    | dropped =>
      ({ d with
          gate := dropped.foldl (fun gate w => gate.cancel w.2) d.gate
          waiting := d.waiting.filter fun w => w.1 ≠ id }, none)
  | .unknown => (d, some .unknown)

/-- Serves a request: the desk afterwards, the names of the tickets that passed, and the refusal if
there was one. -/
def serve (d : Desk) (r : Request) : Desk × List String × Option Refusal :=
  let (d, refusal) := d.accept r
  let (d, passed) := d.settle
  (d, passed, refusal)

end Desk
end VolumeLifecycle.Gate
