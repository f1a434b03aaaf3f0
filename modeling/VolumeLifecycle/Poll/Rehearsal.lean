import VolumeLifecycle.Poll.Basic

namespace VolumeLifecycle.Poll

/-- What every probe finds, and how long it takes. -/
structure Script where
  verdict : Nat → Verdict
  duration : Nat → Nat

/-- What has happened so far, on a clock that moves only while somebody sleeps on it or a probe
takes its time. -/
structure Rehearsal where
  clock : Nat := 0
  /-- When each probe began, the latest first. -/
  probes : List Nat := []
  /-- The sleeps, the latest first. -/
  sleeps : List Nat := []
  /-- How often the action for a reached time limit has run. -/
  expiries : Nat := 0
  deriving DecidableEq

namespace Rehearsal

def answer (script : Script) (r : Rehearsal) : (request : Request) → request.Answer × Rehearsal
  | .now => (r.clock, r)
  | .probe =>
    let n := r.probes.length
    (script.verdict n,
      { r with probes := r.clock :: r.probes, clock := r.clock + script.duration n })
  | .sleep d => ((), { r with sleeps := d :: r.sleeps, clock := r.clock + d })
  | .expire => ((), { r with expiries := r.expiries + 1 })

/-- Runs a loop for at most so many requests. The outcome is missing if it has not ended by
then. -/
def run (script : Script) : Nat → Loop → Rehearsal → Option Outcome × Rehearsal
  | 0, l, r =>
    match l.view with
    | .ended outcome => (some outcome, r)
    | .asks _ _ => (none, r)
  | limit + 1, l, r =>
    match l.view with
    | .ended outcome => (some outcome, r)
    | .asks request next =>
      let (a, r) := r.answer script request
      run script limit (next a) r

/-- The requests that so many probes can make: the time at the beginning, three for each probe, and
the action at the end. -/
def limitFor (probes : Nat) : Nat :=
  3 * probes + 2

end Rehearsal
end VolumeLifecycle.Poll
