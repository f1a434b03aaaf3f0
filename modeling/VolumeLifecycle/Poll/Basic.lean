
namespace VolumeLifecycle.Poll

inductive Verdict where
  | ready
  | pending
  | abort
  deriving DecidableEq, Inhabited

inductive Outcome where
  | ready
  | aborted
  | timedOut
  deriving DecidableEq, Inhabited

/-- The first time that a clock cannot show: its seconds are signed integers of 64 bits. -/
def endOfTime : Nat := Nat.pow 2 63 * 1000

/-- When the time limit is reached, if the clock can show that time. -/
def deadline? (now timeout : Nat) : Option Nat :=
  if now + timeout < endOfTime then some (now + timeout) else none

inductive Pause where
  | expire
  | sleep (duration : Nat)
  deriving DecidableEq

/-- What to do when a probe was pending at a given time: give up at the deadline, else sleep a tick
but not beyond the deadline. -/
def pauseAt (tick : Nat) (deadline : Option Nat) (now : Nat) : Pause :=
  match deadline with
  | none => .sleep tick
  | some d => if d ≤ now then .expire else .sleep (min tick (d - now))

inductive Phase where
  /-- The time is needed to set the deadline. -/
  | starting (timeout : Nat)
  /-- A probe is due. -/
  | probing (deadline : Option Nat)
  /-- A probe was pending; the time is needed. -/
  | checking (deadline : Option Nat)
  /-- A sleep is due. -/
  | napping (deadline : Option Nat) (duration : Nat)
  /-- The time limit is reached; the action for this case is due. -/
  | expiring
  | ended (outcome : Outcome)
  deriving DecidableEq

/-- A polling loop with a time limit. It probes at once and then after every tick, until a probe
settles it or the limit is reached. It has no clock and makes no probe itself: it asks for these and
goes on with the answers, so the same loop runs against any clock and any probe. Times are
milliseconds. -/
structure Loop where
  tick : Nat
  phase : Phase
  deriving DecidableEq

inductive Request where
  | now
  | probe
  | sleep (duration : Nat)
  | expire
  deriving DecidableEq

def Request.Answer : Request → Type
  | now => Nat
  | probe => Verdict
  | sleep _ => Unit
  | expire => Unit

namespace Loop

def start (tick timeout : Nat) : Loop :=
  ⟨tick, .starting timeout⟩

def withPhase (l : Loop) (phase : Phase) : Loop :=
  { l with phase }

/-- What a loop does next: it has ended, or it asks for something and goes on with the answer. -/
inductive View where
  | ended (outcome : Outcome)
  | asks (request : Request) (next : request.Answer → Loop)

def afterProbe (deadline : Option Nat) : Verdict → Phase
  | .ready => .ended .ready
  | .abort => .ended .aborted
  | .pending => .checking deadline

/-- The phase after the time has been read for a pending probe. -/
def afterCheck (tick : Nat) (deadline : Option Nat) (now : Nat) : Phase :=
  match pauseAt tick deadline now with
  | .expire => .expiring
  | .sleep duration => .napping deadline duration

def view (l : Loop) : View :=
  match l.phase with
  | .starting timeout => .asks .now fun now => l.withPhase (.probing (deadline? now timeout))
  | .probing deadline => .asks .probe fun verdict => l.withPhase (afterProbe deadline verdict)
  | .checking deadline => .asks .now fun now => l.withPhase (afterCheck l.tick deadline now)
  | .napping deadline duration => .asks (.sleep duration) fun _ => l.withPhase (.probing deadline)
  | .expiring => .asks .expire fun _ => l.withPhase (.ended .timedOut)
  | .ended outcome => .ended outcome

end Loop
end VolumeLifecycle.Poll
