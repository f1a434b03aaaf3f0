import VolumeLifecycle.Failure

namespace VolumeLifecycle.BestEffort

/-- How a best-effort step went: its name, and the failure that was swallowed if there was one. -/
structure Outcome where
  step : String
  failure : Option Failure
  deriving DecidableEq

namespace Outcome

def attempted {α : Type} (step : String) : Except Failure α → Outcome
  | .ok _ => ⟨step, none⟩
  | .error f => ⟨step, some f⟩

def skipped (step : String) : Outcome :=
  ⟨step, none⟩

def isOk (o : Outcome) : Bool :=
  o.failure.isNone

end Outcome

/-- The outcomes of a teardown, in the order of its steps. -/
structure Report where
  outcomes : List Outcome
  deriving DecidableEq

namespace Report

def failures (r : Report) : List Outcome :=
  r.outcomes.filter fun o => !o.isOk

def isClean (r : Report) : Bool :=
  r.failures.isEmpty

end Report
end VolumeLifecycle.BestEffort
