import VolumeLifecycle.Proofs.Workflow.Agreement
import VolumeLifecycle.Proofs.Workflow.Voices

namespace VolumeLifecycle

/-- The error text of an answer, if answers of its sort have one. -/
def Response.err? : Response → Option String
  | mounted r => some r.err
  | driver r => some r.err
  | created r => some r.err
  | volume r => some r.err
  | capabilities _ | configuration _ | conflict _ _ | cleanup _ => none

namespace Command

open Workflow

/-- The workflow that a command carries out, and how its result is answered. -/
inductive CarriesOut (c : Config) : Command → {α : Type} → Workflow α →
    (Except Failure α → Response) → Prop where
  | mount (r : Runtime.MountRequest) :
    CarriesOut c (.mount r) (Workflow.mount c r.name r.opts) fun x => .mounted (.ofResult x)
  | unmount (r : Runtime.MountRequest) :
    CarriesOut c (.unmount r) (Workflow.unmount c r.name r.opts) fun x => .driver (.ofResult x)
  | create (r : Runtime.CreateRequest) :
    CarriesOut c (.create r) (Workflow.create c r.name r.opts) fun x => .created (createResponse x)
  | remove (r : Runtime.NameRequest) :
    CarriesOut c (.remove r) (Workflow.remove c r.name) fun x => .driver (.ofResult x)
  | get (r : Runtime.NameRequest) :
    CarriesOut c (.get r) (Workflow.describe c r.name) fun x => .volume (.ofResult x)
  | path (r : Runtime.NameRequest) :
    CarriesOut c (.path r) (Workflow.describe c r.name) fun x => .mounted (pathResponse x)

variable {c : Config} {command : Command} {α : Type} {w : Workflow α}
  {respond : Except Failure α → Response}

theorem CarriesOut.program_eq (h : CarriesOut c command w respond) (current : Host) :
    command.program c current = answering w respond := by
  cases h <;> rfl

/-- The error text of the answer is that of the result. -/
theorem CarriesOut.err?_respond (h : CarriesOut c command w respond) (x : Except Failure α) :
    (respond x).err? = some (Runtime.errorText x) := by
  cases h <;> rcases x with f | a
  all_goals first | rfl | (cases a <;> rfl)

theorem CarriesOut.voices (h : CarriesOut c command w respond) : Voices (fun _ => False) w := by
  cases h with
  | mount r => exact voices_mount c r.name r.opts
  | unmount r => exact voices_unmount c r.name r.opts
  | create r => exact voices_create c r.name r.opts
  | remove r => exact voices_remove c r.name
  | get r => exact voices_describe c r.name
  | path r => exact voices_describe c r.name

/-- The error text of an answer is empty if and only if the workflow has succeeded, or has passed on a
failure that a collaborator has left without a text. -/
theorem err_eq_empty_iff (h : CarriesOut c command w respond) (current : Host) (es : List Exchange) :
    (∀ r, (command.program c current).Runs es (some r) ↔ ∃ x, Ends w es x ∧ r = respond x) ∧
      ∀ x, Ends w es x → ∃ err, (respond x).err? = some err ∧
        (err = "" ↔ (∃ a, x = .ok a) ∨
          ∃ f, x = .error f ∧ f.IsSilent ∧ ∃ ex ∈ es, ex.failure? = some f) := by
  refine ⟨fun r => ?_, fun x hx => ⟨_, h.err?_respond x, ?_⟩⟩
  · rw [h.program_eq]
    exact runs_answering_iff
  · cases x with
    | ok a => exact iff_of_true rfl (.inl ⟨a, rfl⟩)
    | error f =>
      have hsilent : Runtime.errorText (.error f : Except Failure α) = "" ↔ f.IsSilent :=
        Failure.message_eq_empty_iff
      rw [hsilent]
      constructor
      · intro hf
        exact .inr ⟨f, rfl, hf, (h.voices es f hx hf).resolve_left id⟩
      · rintro (⟨a, ha⟩ | ⟨g, heq, hg, -⟩)
        · cases ha
        · cases heq
          exact hg

/-- The unmount of a volume that is mounted, on a node whose device manager fails with a text. -/
def failedUnmount (text : String) : Program.Trace (Except Failure Unit) Testbed :=
  Program.trace Testbed.perform 20 (Workflow.unmount {} "v" .empty).run
    (mounting.world.withFailure .unmountDevice (some (.host text)))

/-- An unmount that fails as busy is answered with that text. -/
theorem err_eq_empty_iff_busy :
    let command : Command := .unmount { name := "v" }
    CarriesOut {} command (Workflow.unmount {} "v" .empty) (fun x => .driver (.ofResult x)) ∧
      Ends (Workflow.unmount {} "v" .empty) (failedUnmount "busy").exchanges (.error (.host "busy")) ∧
      ∃ r err, (command.program {} oneVolume.host).Runs (failedUnmount "busy").exchanges (some r) ∧
        r.err? = some err ∧ err ≠ "" := by
  intro command
  have hcarries : CarriesOut {} command (Workflow.unmount {} "v" .empty)
      (fun x => .driver (.ofResult x)) := .unmount { name := "v" }
  have hends : Ends (Workflow.unmount {} "v" .empty) (failedUnmount "busy").exchanges
      (.error (.host "busy")) := ends_of_trace rfl
  obtain ⟨hanswers, htext⟩ :=
    err_eq_empty_iff hcarries oneVolume.host (failedUnmount "busy").exchanges
  obtain ⟨err, herr, hempty⟩ := htext _ hends
  refine ⟨hcarries, hends, _, err, (hanswers _).2 ⟨_, hends, rfl⟩, herr, fun h => ?_⟩
  rcases hempty.1 h with ⟨a, ha⟩ | ⟨f, heq, hsilent, -⟩
  · cases ha
  · cases heq
    simp [Failure.IsSilent] at hsilent

/-- If the device manager fails without a text, the unmount is answered like one that went well, while
the volume stays mounted. -/
theorem unmounted_in_silence :
    (failedUnmount "").outcome = some (.error (.host "")) ∧
      ((Command.unmount { name := "v" }).program {} oneVolume.host).Runs (failedUnmount "").exchanges
        (some (.driver (.ofResult (.ok () : Except Failure Unit)))) ∧
      ((failedUnmount "").world.table.mountsOf "serial-v").length = 1 := by
  have houtcome : (failedUnmount "").outcome = some (.error (.host "")) := rfl
  exact ⟨houtcome, runs_answering_iff.2 ⟨_, ends_of_trace houtcome, rfl⟩, rfl⟩

end Command
end VolumeLifecycle
