import VolumeLifecycle.Poll.Rehearsal
import Mathlib.Algebra.Order.Floor.Div

namespace VolumeLifecycle.Poll

/-- A request of a loop, and the time at which it is made. -/
structure Stamped where
  time : Nat
  request : Request
  deriving DecidableEq

/-- The requests that a loop makes in a rehearsal, in order, as far as the limit goes. -/
def Rehearsal.history (script : Script) : Nat → Loop → Rehearsal → List Stamped
  | 0, _, _ => []
  | limit + 1, l, r =>
    match l.view with
    | .ended _ => []
    | .asks request next =>
      let (a, after) := r.answer script request
      ⟨r.clock, request⟩ :: history script limit (next a) after

def probeTimes (history : List Stamped) : List Nat :=
  history.filterMap fun s => if s.request = .probe then some s.time else none

/-- How often the action for a reached time limit was taken in a history. -/
def expiries (history : List Stamped) : Nat :=
  history.countP fun s => s.request = .expire

/-- A round of a loop: a probe, a look at the clock and a nap. -/
theorem probeTimes_round (start finish nap : Nat) (rest : List Stamped) :
    probeTimes (⟨start, .probe⟩ :: ⟨finish, .now⟩ :: ⟨finish, .sleep nap⟩ :: rest) =
      start :: probeTimes rest := by
  simp [probeTimes]

theorem pauseAt_eq_expire_iff {tick d now : Nat} : pauseAt tick (some d) now = .expire ↔ d ≤ now := by
  simp only [pauseAt]
  split <;> simp_all

/-- A loop that goes on sleeps a tick, or what is left until the deadline. -/
theorem pauseAt_eq_sleep_iff {tick d now nap : Nat} :
    pauseAt tick (some d) now = .sleep nap ↔ now < d ∧ nap = min tick (d - now) := by
  simp only [pauseAt]
  split
  · simp only [reduceCtorEq, false_iff, not_and]
    omega
  · simp only [Pause.sleep.injEq, eq_comm (a := nap)]
    omega

/-- What comes of a loop whose next probe is the `n`-th and begins at a given time: the requests that it
makes from there on, and how it ends. -/
inductive Course (script : Script) (tick : Nat) (deadline : Option Nat) :
    Nat → Nat → List Stamped → Outcome → Prop where
  | ready {n time : Nat} (hverdict : script.verdict n = .ready) :
    Course script tick deadline n time [⟨time, .probe⟩] .ready
  | aborted {n time : Nat} (hverdict : script.verdict n = .abort) :
    Course script tick deadline n time [⟨time, .probe⟩] .aborted
  | expired {n time : Nat} (hverdict : script.verdict n = .pending)
      (hpause : pauseAt tick deadline (time + script.duration n) = .expire) :
    Course script tick deadline n time
      [⟨time, .probe⟩, ⟨time + script.duration n, .now⟩, ⟨time + script.duration n, .expire⟩]
      .timedOut
  | napped {n time nap : Nat} (hverdict : script.verdict n = .pending)
      (hpause : pauseAt tick deadline (time + script.duration n) = .sleep nap)
      {rest : List Stamped} {outcome : Outcome}
      (hrest : Course script tick deadline (n + 1) (time + script.duration n + nap) rest outcome) :
    Course script tick deadline n time
      (⟨time, .probe⟩ :: ⟨time + script.duration n, .now⟩ ::
        ⟨time + script.duration n, .sleep nap⟩ :: rest)
      outcome

/-- A rehearsal of a loop that ends: what the loop asks for, how it ends and what has happened by
then. -/
def Rehearsal.Plays (script : Script) (limit : Nat) (l : Loop) (r : Rehearsal)
    (history : List Stamped) (outcome : Outcome) (after : Rehearsal) : Prop :=
  Rehearsal.run script limit l r = (some outcome, after) ∧
    Rehearsal.history script limit l r = history

def Rehearsal.probed (r : Rehearsal) (script : Script) : Rehearsal :=
  { r with
    probes := r.clock :: r.probes
    clock := r.clock + script.duration r.probes.length }

def Rehearsal.slept (r : Rehearsal) (nap : Nat) : Rehearsal :=
  { r with sleeps := nap :: r.sleeps, clock := r.clock + nap }

/-- The rehearsal after the action for a reached time limit. -/
def Rehearsal.expired (r : Rehearsal) : Rehearsal :=
  { r with expiries := r.expiries + 1 }

namespace Rehearsal.Plays

variable {script : Script} {limit tick nap : Nat} {deadline : Option Nat} {r after : Rehearsal}
  {history : List Stamped} {outcome : Outcome}

theorem ended : Plays script limit ⟨tick, .ended outcome⟩ r [] outcome r := by
  cases limit <;> exact ⟨rfl, rfl⟩

/-- A loop that asks for something goes on with the answer, and its history begins with the request. -/
theorem asks {l : Loop} {request : Request} {next : request.Answer → Loop}
    (hview : l.view = .asks request next)
    (hnext : Plays script limit (next (r.answer script request).1) (r.answer script request).2 history
      outcome after) :
    Plays script (limit + 1) l r (⟨r.clock, request⟩ :: history) outcome after := by
  simpa [Plays, Rehearsal.run, Rehearsal.history, hview] using hnext

theorem probing (hnext : Plays script limit
      ⟨tick, Loop.afterProbe deadline (script.verdict r.probes.length)⟩ (r.probed script) history outcome
      after) :
    Plays script (limit + 1) ⟨tick, .probing deadline⟩ r (⟨r.clock, .probe⟩ :: history) outcome after :=
  asks rfl hnext

theorem checking (hnext : Plays script limit ⟨tick, Loop.afterCheck tick deadline r.clock⟩ r history
      outcome after) :
    Plays script (limit + 1) ⟨tick, .checking deadline⟩ r (⟨r.clock, .now⟩ :: history) outcome after :=
  asks rfl hnext

theorem napping (hnext : Plays script limit ⟨tick, .probing deadline⟩ (r.slept nap) history outcome
      after) :
    Plays script (limit + 1) ⟨tick, .napping deadline nap⟩ r (⟨r.clock, .sleep nap⟩ :: history) outcome
      after :=
  asks rfl hnext

theorem expiring :
    Plays script (limit + 1) ⟨tick, .expiring⟩ r [⟨r.clock, .expire⟩] .timedOut r.expired :=
  asks rfl ended

end Rehearsal.Plays

namespace Course

variable {script : Script} {tick : Nat} {deadline : Option Nat} {n time : Nat}
  {history : List Stamped} {outcome : Outcome}

end Course
end VolumeLifecycle.Poll
