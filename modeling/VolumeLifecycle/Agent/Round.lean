import VolumeLifecycle.Agent.Basic

namespace VolumeLifecycle.Agent

variable {World : Type}

def Task.isAboutToSleep (t : Task) : Bool :=
  match t.stage with
  | .running p =>
    match p.view with
    | .asks (.sleep _) _ => true
    | _ => false
  | _ => false

/-- A turn of a task, which takes steps until it is blocked, has slept or has responded. `limit`
bounds the steps. -/
def turn (perform : Perform World) : Nat → Agent World → Nat → Agent World
  | 0, a, _ => a
  | limit + 1, a, ticket =>
    match a.task? ticket with
    | none => a
    | some t =>
      if a.isBlocked t then a
      else if t.isAboutToSleep then a.stepTask perform t
      else turn perform limit (a.stepTask perform t) ticket

/-- A turn of every task, in the order in which the tasks were started. -/
def round (perform : Perform World) (limit : Nat) (a : Agent World) : Agent World :=
  (a.tasks.map Task.ticket).foldl (turn perform limit) a

def isQuiet (a : Agent World) : Bool :=
  a.tasks.all a.isBlocked

/-- Rounds until no task can take a step. `limit` bounds the rounds, and the steps of a turn. -/
def settle (perform : Perform World) (limit : Nat) (a : Agent World) : Agent World :=
  go limit a
where
  /-- At most so many more rounds. -/
  go : Nat → Agent World → Agent World
    | 0, a => a
    | rounds + 1, a => if a.isQuiet then a else go rounds (a.round perform limit)

end VolumeLifecycle.Agent
