import VolumeLifecycle.Proofs.Poll.Course

namespace VolumeLifecycle.Poll

theorem deadline?_eq_some {now timeout d : Nat} (h : deadline? now timeout = some d) :
    d = now + timeout := by
  unfold deadline? at h
  split at h <;> cases h
  rfl

namespace Course

variable {script : Script} {tick d n time : Nat} {history : List Stamped} {outcome : Outcome}

/-- A loop makes at most three requests for each probe. -/
theorem length_le {deadline : Option Nat} (h : Course script tick deadline n time history outcome) :
    history.length ≤ 3 * (probeTimes history).length := by
  induction h with
  | ready => simp [probeTimes]
  | aborted => simp [probeTimes]
  | expired => simp [probeTimes]
  | napped _ _ _ ih =>
    rw [probeTimes_round]
    simp only [List.length_cons]
    omega

end Course

end VolumeLifecycle.Poll
