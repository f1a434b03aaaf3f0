import VolumeLifecycle.BestEffort
import VolumeLifecycle.Effect
import VolumeLifecycle.Options.Key
import VolumeLifecycle.Poll.Basic
import VolumeLifecycle.Session

namespace VolumeLifecycle.Conflict

inductive Kind where
  | mount
  | delete
  deriving DecidableEq, Inhabited

/-- The option that holds a volume's own delay for a kind of wait. -/
def Kind.option : Kind → Options.Key
  | mount => .mountConflictDelay
  | delete => .deleteConflictDelay

inductive Verdict where
  /-- Nobody holds the volume. -/
  | free
  /-- This host is among the volume's sessions. -/
  | attachedHere
  /-- The provider could not be asked. -/
  | unreachable
  /-- The time was up and the volume was still held elsewhere. -/
  | timedOut
  deriving DecidableEq, Inhabited

/-- What a volume record says about a conflict: nothing as long as another host holds the
volume. -/
def judge (host : Host) (volume : Volume) : Option Verdict :=
  if !volume.inUse then some .free
  else if volume.isAttachedTo host then some .attachedHere
  else none

/-- What the reply to a question for the volume says about a conflict. -/
def judgeReply (name : String) (host : Host) (reply : Except Failure Provider.Response) :
    Option Verdict :=
  match reply with
  | .error _ => some .unreachable
  | .ok response =>
    match response.intoVolume name with
    | .error _ => some .unreachable
    | .ok volume => judge host volume

/-- A wait, for a limited time, while another host holds a volume: the polling loop, and the verdict
of the probe that settled it. It only buys time for the other host to let go: the workflow goes on
whatever the verdict. -/
structure Wait where
  name : String
  host : Host
  kind : Kind
  loop : Poll.Loop
  settled : Option Verdict

namespace Wait

def start (name : String) (host : Host) (kind : Kind) (tick timeout : Nat) : Wait :=
  ⟨name, host, kind, .start tick timeout, none⟩

def probeCall (w : Wait) : Call :=
  .provider .get (.named w.name)

/-- The call that sets the volume's own delay to zero when the time is up. -/
def resetCall (w : Wait) : Call :=
  .provider .update ((Provider.Request.named w.name).withOpt w.kind.option.name (.natural 0))

def pollVerdict : Option Verdict → Poll.Verdict
  | none => .pending
  | some .unreachable => .abort
  | some _ => .ready

def verdict (w : Wait) : Poll.Outcome → Verdict
  | .ready => w.settled.getD .timedOut
  | .aborted => .unreachable
  | .timedOut => .timedOut

/-- What a wait does next: it has ended, or it asks for something and goes on with the reply. -/
inductive View where
  | ended (verdict : Verdict)
  | asks (effect : Effect) (next : effect.Reply → Wait)

def afterProbe (w : Wait) (next : Poll.Verdict → Poll.Loop)
    (reply : Except Failure Provider.Response) : Wait :=
  let verdict := judgeReply w.name w.host reply
  { w with settled := verdict, loop := next (pollVerdict verdict) }

/-- What a wait does next. The loop's probe is a question for the volume, and its action for a
reached time limit is the reset of the volume's own delay, whose result does not matter. -/
def view (w : Wait) : View :=
  match w.loop.view with
  | .ended outcome => .ended (w.verdict outcome)
  | .asks .now next => .asks .now fun time => { w with loop := next time }
  | .asks .probe next => .asks (.call w.probeCall) (w.afterProbe next)
  | .asks (.sleep duration) next => .asks (.sleep duration) fun _ => { w with loop := next () }
  | .asks .expire next => .asks (.call w.resetCall) fun _ => { w with loop := next () }

end Wait
end VolumeLifecycle.Conflict
