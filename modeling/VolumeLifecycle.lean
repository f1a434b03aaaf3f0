import VolumeLifecycle.Agent.Round
import VolumeLifecycle.Config.Toml
import VolumeLifecycle.Dict.Lookup
import VolumeLifecycle.Gate.Desk
import VolumeLifecycle.Host.Cache
import VolumeLifecycle.Logging
import VolumeLifecycle.Poll.Rehearsal
import VolumeLifecycle.Proofs.Agent.Exclusion
import VolumeLifecycle.Proofs.Agent.Journal
import VolumeLifecycle.Proofs.Agent.Sections
import VolumeLifecycle.Proofs.Agent.Sound
import VolumeLifecycle.Proofs.Agent.Step
import VolumeLifecycle.Proofs.Conflict.Questions
import VolumeLifecycle.Proofs.Gate.Moves
import VolumeLifecycle.Proofs.Gate.Passing
import VolumeLifecycle.Proofs.Gate.Polling
import VolumeLifecycle.Proofs.Gate.Settling
import VolumeLifecycle.Proofs.Json.NumberText
import VolumeLifecycle.Proofs.Json.Scan
import VolumeLifecycle.Proofs.Json.Text
import VolumeLifecycle.Proofs.Json.Tokens
import VolumeLifecycle.Proofs.Mounts.Board
import VolumeLifecycle.Proofs.Mounts.Concurrent
import VolumeLifecycle.Proofs.Mounts.Good
import VolumeLifecycle.Proofs.Mounts.Ledger
import VolumeLifecycle.Proofs.Mounts.Protocol
import VolumeLifecycle.Proofs.Mounts.Site
import VolumeLifecycle.Proofs.Mounts.Steps
import VolumeLifecycle.Proofs.Mounts.Table
import VolumeLifecycle.Proofs.Options.Grammar
import VolumeLifecycle.Proofs.Options.Layers
import VolumeLifecycle.Proofs.Options.Lifting
import VolumeLifecycle.Proofs.Options.Lookup
import VolumeLifecycle.Proofs.Options.NormalForm
import VolumeLifecycle.Proofs.Options.Syntax
import VolumeLifecycle.Proofs.Path.Join
import VolumeLifecycle.Proofs.Program.AtOnce
import VolumeLifecycle.Proofs.Program.Determined
import VolumeLifecycle.Proofs.Program.Ends
import VolumeLifecycle.Proofs.Program.Performed
import VolumeLifecycle.Proofs.Program.Runs
import VolumeLifecycle.Proofs.Program.Twins
import VolumeLifecycle.Proofs.Program.Within
import VolumeLifecycle.Proofs.Provider.Book
import VolumeLifecycle.Proofs.Provider.Forwarding
import VolumeLifecycle.Proofs.Provider.Memory
import VolumeLifecycle.Proofs.Provider.Status
import VolumeLifecycle.Proofs.Testbed.Injection
import VolumeLifecycle.Proofs.Testbed.Surroundings
import VolumeLifecycle.Proofs.Wire.Faults
import VolumeLifecycle.Proofs.Wire.Kinds
import VolumeLifecycle.Proofs.Wire.Presentation
import VolumeLifecycle.Proofs.Wire.Writing
import VolumeLifecycle.Proofs.Workflow.Agreement
import VolumeLifecycle.Proofs.Workflow.CloudRepair
import VolumeLifecycle.Proofs.Workflow.Discipline
import VolumeLifecycle.Proofs.Workflow.FailedMount
import VolumeLifecycle.Proofs.Workflow.Formatting
import VolumeLifecycle.Proofs.Workflow.History
import VolumeLifecycle.Proofs.Workflow.Identity
import VolumeLifecycle.Proofs.Workflow.Marking
import VolumeLifecycle.Proofs.Workflow.MountCourse
import VolumeLifecycle.Proofs.Workflow.MountRun
import VolumeLifecycle.Proofs.Workflow.Inputs
import VolumeLifecycle.Proofs.Workflow.Mountpoint
import VolumeLifecycle.Proofs.Workflow.PublicOptions
import VolumeLifecycle.Proofs.Workflow.Queries
import VolumeLifecycle.Proofs.Workflow.Refusal
import VolumeLifecycle.Proofs.Workflow.Release
import VolumeLifecycle.Proofs.Workflow.Removal
import VolumeLifecycle.Proofs.Workflow.RemovalWait
import VolumeLifecycle.Proofs.Workflow.Repair
import VolumeLifecycle.Proofs.Workflow.Rollback
import VolumeLifecycle.Proofs.Workflow.SoftSteps
import VolumeLifecycle.Proofs.Workflow.Steps
import VolumeLifecycle.Provider.Endpoint
import VolumeLifecycle.Provider.Handle
import VolumeLifecycle.Testbed
import VolumeLifecycle.Wire.ConfigRecords
import VolumeLifecycle.Wire.RuntimeRecords
import VolumeLifecycle.Proofs.Poll.Course
import VolumeLifecycle.Proofs.Poll.Deadline
import VolumeLifecycle.Proofs.Conflict.Waiting
import VolumeLifecycle.Proofs.Workflow.ErrorText
import VolumeLifecycle.Proofs.Workflow.RepairCourse
import VolumeLifecycle.Proofs.Workflow.UnmountCourse
import VolumeLifecycle.Proofs.Workflow.RemoveCourse
import VolumeLifecycle.Proofs.Workflow.CreateCourse
import VolumeLifecycle.Proofs.Workflow.Remounting
import VolumeLifecycle.Proofs.Session.Writing
import VolumeLifecycle.Proofs.Host.Cache
import VolumeLifecycle.Proofs.Gate.Abandonment
import VolumeLifecycle.Proofs.Gate.Line
import VolumeLifecycle.Proofs.Gate.Attended
import VolumeLifecycle.Proofs.Gate.SlotLine
import VolumeLifecycle.Proofs.Gate.LockLine
import VolumeLifecycle.Proofs.Gate.Onward
import VolumeLifecycle.Proofs.Gate.Fairness
