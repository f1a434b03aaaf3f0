import VolumeLifecycle.DeviceTable
import VolumeLifecycle.Effect
import VolumeLifecycle.Provider.Store

namespace VolumeLifecycle

/-- A reply that is laid out for a call of a kind: a fixed one, or what the call does by itself even
if its kind is told to fail. -/
inductive Testbed.Cue (k : Call.Kind) where
  | reply (r : Except Failure k.Answer)
  | asUsual

/-- Surroundings in memory: a provider and a device manager that do what they should unless they are
told to fail or to give a scripted reply, a clock that moves only when somebody sleeps, and a small
file system. -/
structure Testbed where
  host : Host
  store : Provider.Store := {}
  table : DeviceTable := {}
  /-- The failures of kinds of calls. -/
  failures : Call.Kind → Option Failure := fun _ => none
  /-- The failure of describing this node. -/
  hostFailure : Option Failure := none
  /-- The replies that are laid out for the next calls of each kind. -/
  script : (k : Call.Kind) → List (Testbed.Cue k) := fun _ => []
  files : FileTree
  clock : Nat := 0
  /-- How often somebody has slept. -/
  sleeps : Nat := 0

namespace Testbed

def withScript (t : Testbed) (k : Call.Kind) (cues : List (Cue k)) : Testbed :=
  { t with script := fun j => if h : j = k then h ▸ cues else t.script j }

def withFailure (t : Testbed) (k : Call.Kind) (f : Option Failure) : Testbed :=
  { t with failures := fun j => if j = k then f else t.failures j }

def serve (t : Testbed) : (c : Call) → c.Answer × Testbed
  | .provider op r =>
    let (response, store) := t.store.serve op r
    (response, { t with store })
  | .getMounts serialNumber => (t.table.mountsOf serialNumber, t)
  | .attachDevice volumes =>
    let (devices, table) := t.table.attach volumes
    (devices, { t with table })
  | .attachAndMountDevice v mountpoint =>
    let (entry, table) := t.table.attachAndMount v mountpoint
    (entry, { t with table })
  | .mountDevice d mountpoint =>
    let (entry, table) := t.table.mount d mountpoint
    (entry, { t with table })
  | .setupFilesystem _ _ _ => ((), t)
  | .unmountDevice v => ((), { t with table := t.table.unmount v })
  | .unmountFileSystem mountpoint => ((), { t with table := t.table.unmountAt mountpoint })
  | .offlineDevice _ => ((), t)
  | .deleteDevice d => ((), { t with table := t.table.delete d })
  | .getDevice v => (t.table.find? v, t)

def serveReply (t : Testbed) (c : Call) : c.Reply × Testbed :=
  let (answer, t) := t.serve c
  (.ok answer, t)

/-- The reply to a call: the one that is laid out for it, else the failure of its kind, else what it
does by itself. Failures and scripted replies change nothing else. -/
def respond (t : Testbed) (c : Call) : c.Reply × Testbed :=
  match t.script c.kind with
  | .reply r :: rest => (r, t.withScript c.kind rest)
  | .asUsual :: rest => (t.withScript c.kind rest).serveReply c
  | [] =>
    match t.failures c.kind with
    | some f => (.error f, t)
    | none => t.serveReply c

def describe (t : Testbed) : Except Failure Host :=
  match t.hostFailure with
  | some f => .error f
  | none => .ok t.host

def sleep (t : Testbed) (duration : Nat) : Testbed :=
  { t with clock := t.clock + duration, sleeps := t.sleeps + 1 }

def perform (t : Testbed) : (e : Effect) → e.Reply × Testbed
  | .call c => t.respond c
  | .describeHost => (t.describe, t)
  | .now => (t.clock, t)
  | .sleep duration => ((), t.sleep duration)
  | .removeDirectory path =>
    match t.files.removeDirectory path with
    | .ok files => (.ok (), { t with files })
    | .error e => (.error e, t)

end Testbed
end VolumeLifecycle
