import VolumeLifecycle.Proofs.Program.Twins
import VolumeLifecycle.Proofs.Workflow.MountCourse
import VolumeLifecycle.Proofs.Workflow.Release

namespace VolumeLifecycle

/-- How far the run of a command has come, as far as it decides which steps are soft. -/
inductive Command.Stage where
  | beginning
  /-- The provider was asked for the volume. -/
  | asked
  /-- The device of a volume was looked up, which is one of a group or not. -/
  | looked (grouped : Bool)
  /-- What can still fail does not matter any more. -/
  | closing
  deriving DecidableEq

namespace Observer

def strict : Observer Command.Stage where
  after s _ := s
  isSoft _ _ := false

/-- In a mount, these are the conflict wait, the deletion of a stale device, all steps of a rollback
after the removal of the mountpoint, and the update that clears the markers. The first question to the
provider comes from the repair of stale mounts, the later ones from the conflict wait. -/
def mount : Observer Command.Stage where
  after
    | .beginning, .call (.provider .get _) => .asked
    | _, .removeDirectory _ => .closing
    | s, _ => s
  isSoft
    | .closing, _ => true
    | .asked, .call (.provider .get _) => true
    | _, .call (.provider .update _) => true
    | _, .call (.deleteDevice _) => true
    | _, .now => true
    | _, .sleep _ => true
    | _, _ => false

/-- In a remove, these are the conflict wait and the release of the volume from this node. The first
question to the provider is for the volume that is removed. -/
def remove : Observer Command.Stage where
  after
    | .beginning, .call (.provider .get _) => .asked
    | s, _ => s
  isSoft
    | .asked, .call (.provider .get _) => true
    | _, .call (.provider .update _) => true
    | _, .call (.provider .detach _) => true
    | _, .call (.getDevice _) => true
    | _, .call (.offlineDevice _) => true
    | _, .call (.deleteDevice _) => true
    | _, .now => true
    | _, .sleep _ => true
    | _, _ => false

/-- In an unmount, these are the detach, the offline step unless the volume is one of a group, and the
removal of a volume that goes away with its last host, which begins with the question for it. A look-up
that fails is as good as one that finds no device, and a device to be deleted that is not found as good
as a deleted one. -/
def unmount : Observer Command.Stage where
  after
    | .closing, _ => .closing
    | _, .call (.provider .get _) => .closing
    | _, .call (.getDevice v) => .looked v.isGroupScoped
    | s, _ => s
  isSoft
    | .closing, _ => true
    | _, .call (.provider .get _) => true
    | _, .call (.provider .detach _) => true
    | .looked false, .call (.offlineDevice _) => true
    | _, _ => false
  settled
    | .call (.getDevice _), reply =>
      (.ok (Workflow.deviceFound reply) : Except Failure (Option Device))
    | .call (.deleteDevice _), (.error f : Except Failure Unit) =>
      (if f.isNotFound then .ok () else .error f : Except Failure Unit)
    | _, reply => reply

/-- In a create, these are the steps that discard a volume which was not prepared. They begin with the
look-up of its device. -/
def create : Observer Command.Stage where
  after
    | _, .call (.getDevice _) => .closing
    | s, _ => s
  isSoft
    | .closing, _ => true
    | _, .call (.getDevice _) => true
    | _, _ => false

end Observer

/-- Who sees the steps of a command that are not soft. The other commands have no soft steps. -/
def Command.observer : Command → Observer Command.Stage
  | mount _ => .mount
  | unmount _ => .unmount
  | create _ => .create
  | remove _ => .remove
  | _ => .strict

/-- The steps of a run of a command that are not soft, with their replies as far as they matter. -/
def Command.hardSteps (command : Command) (es : List Exchange) : List Exchange :=
  command.observer.view .beginning es

namespace Observer

theorem mount_soft_closing (e : Effect) : mount.Soft .closing e :=
  ⟨rfl, by cases e <;> rfl⟩

theorem unmount_soft_closing (e : Effect) : unmount.Soft .closing e :=
  ⟨rfl, rfl⟩

theorem create_soft_closing (e : Effect) : create.Soft .closing e :=
  ⟨rfl, by cases e with
    | call c => cases c <;> rfl
    | _ => rfl⟩

theorem strict_hard (s : Command.Stage) (e : Effect) : strict.Hard s e :=
  ⟨rfl, fun _ => rfl, rfl⟩

end Observer

namespace Workflow

open Program (Within)

variable {o : Observer Command.Stage} {s : Command.Stage} {c : Config} {r : Request}

/-- A conflict wait of which nothing is seen. -/
theorem alike_awaitConflict (hnow : o.Soft s .now) (hsleep : ∀ duration, o.Soft s (.sleep duration))
    (hget : ∀ request, o.Soft s (.call (.provider .get request)))
    (hupdate : ∀ request, o.Soft s (.call (.provider .update request))) (kind : Conflict.Kind) :
    Alike o s (fun t _ _ => t = s) (awaitConflict c kind r) (awaitConflict c kind r) := by
  have hwait : ∀ (w : Conflict.Wait) e after, w.view = .asks e after → o.Soft s e := by
    intro w e after hview
    rcases Conflict.Wait.asks_of_view hview with rfl | ⟨duration, rfl⟩ | rfl | rfl
    · exact hnow
    · exact hsleep duration
    · exact hget _
    · exact hupdate _
  refine alike_mono (fun _ _ _ h => h.1) (alike_unseen (P := fun _ => True) fun es x h => ?_)
  obtain ⟨hview, hstage⟩ := Observer.view_of_soft ((within_await hwait _).effects h)
  obtain ⟨v, rfl⟩ := ends_await h
  exact ⟨hview, hstage, v, rfl, trivial⟩

/-- A soft step at best effort may fail in one run and succeed in the other. -/
theorem alike_provideBestEffort {step : String} {op : Provider.Op} {request : Provider.Request}
    (hsoft : o.isSoft s (.call (.provider op request)) = true) :
    Alike o s (fun t _ _ => t = o.after s (.call (.provider op request)))
      (provideBestEffort step op request) (provideBestEffort step op request) := by
  refine alike_bind (alike_attempt_soft hsoft) ?_
  rintro _ reply reply' rfl
  exact alike_pure rfl

theorem alike_deleteShared (volume : Volume) (d : Device) :
    Alike .mount .asked (fun t _ _ => t = .asked) (deleteShared volume d)
      (deleteShared volume d) := by
  unfold deleteShared
  split
  · refine alike_bind (alike_attempt_soft rfl) ?_
    rintro _ reply reply' rfl
    cases reply <;> cases reply' <;> exact alike_pure rfl
  · exact alike_pure rfl

/-- The repair of stale mounts: whether the stale device could be deleted does not matter. -/
theorem alike_reconcile (name : String) (host : Host) :
    Alike .mount .beginning (fun t _ _ => t = .asked) (reconcile name host)
      (reconcile name host) := by
  refine alike_bind (alike_provider rfl fun _ => rfl) ?_
  rintro _ response _ ⟨rfl, rfl⟩
  refine alike_ofExcept_bind fun volume => ?_
  refine alike_bind (alike_call rfl fun _ => rfl) ?_
  rintro _ mounts _ ⟨rfl, rfl⟩
  split
  · exact alike_pure rfl
  refine alike_bind (alike_call rfl fun _ => rfl) ?_
  rintro _ device _ ⟨rfl, rfl⟩
  cases device with
  | none => exact alike_fail _
  | some d =>
    dsimp only
    split
    · exact alike_pure rfl
    refine alike_bind (alike_refl (within_unmountAll (fun _ => ⟨rfl, fun _ => rfl, rfl⟩) _)) ?_
    rintro _ _ _ ⟨rfl, -⟩
    refine alike_bind (alike_deleteShared volume d) ?_
    rintro _ _ _ rfl
    exact alike_pure rfl

/-- After the removal of the mountpoint a rollback does not fail, and nothing of it is seen. -/
theorem alike_undo (request : Provider.Request) (volume : Volume) :
    Alike .mount .closing (fun _ a b => ∃ report report', a = .ok report ∧ b = .ok report')
      (undoMount.undo request volume) (undoMount.undo request volume) := by
  have hunseen : ∀ es x, Ends (undoMount.undo request volume) es x →
      Observer.mount.view .closing es = [] ∧ Observer.mount.stage .closing es = .closing ∧
        ∃ a, x = .ok a ∧ ∃ report, a = .ok report := by
    intro es x h
    obtain ⟨hview, hstage⟩ := Observer.view_of_soft fun ex (_ : ex ∈ es) =>
      Observer.mount_soft_closing ex.effect
    obtain ⟨-, report, rfl⟩ := ends_undo h
    exact ⟨hview, hstage, _, rfl, report, rfl⟩
  refine alike_mono ?_ (alike_unseen hunseen)
  rintro _ _ _ ⟨-, ⟨report, rfl⟩, report', rfl⟩
  exact ⟨report, report', rfl, rfl⟩

/-- The undoing of a mount: only a mountpoint that stands in the way matters. -/
theorem alike_undoMount (request : Provider.Request) (volume : Volume) (mountpoint : Path) :
    Alike .mount .asked (fun _ a b => (∃ cause, a = .error cause ∧ b = .error cause) ∨
        ∃ report report', a = .ok report ∧ b = .ok report')
      (undoMount request volume mountpoint) (undoMount request volume mountpoint) := by
  refine alike_bind (alike_perform rfl) ?_
  rintro _ removed removed' ⟨rfl, hsame⟩
  obtain rfl : removed = removed' := hsame
  split
  · exact alike_mono (fun _ _ _ => .inr) (alike_undo request volume)
  · exact alike_mono (fun _ _ _ => .inr) (alike_undo request volume)
  · exact alike_pure (.inl ⟨_, rfl, rfl⟩)

theorem alike_mountLocked :
    Alike .mount .asked (fun _ a b => a = b) (mountLocked c r) (mountLocked c r) := by
  have hmounting : ∀ call : Call, mounting call.kind = true →
      Observer.mount.Hard .asked (.call call) := by
    intro call hcall
    cases call <;> first | exact ⟨rfl, fun _ => rfl, rfl⟩ | cases hcall
  refine alike_bind (alike_refl (within_mountOnProvider ⟨rfl, fun _ => rfl, rfl⟩ r)) ?_
  rintro _ volume _ ⟨rfl, rfl⟩
  refine alike_bind (alike_refl (within_result (within_mountOnHost hmounting _ _))) ?_
  rintro _ done _ ⟨rfl, rfl⟩
  cases done with
  | error f =>
    refine alike_bind (alike_undoMount _ _ _) ?_
    rintro _ _ _ (⟨cause, rfl, rfl⟩ | ⟨report, report', rfl, rfl⟩)
    · exact alike_fail _
    · exact alike_fail _
  | ok how =>
    dsimp only
    split
    · refine alike_bind (alike_provideBestEffort rfl) ?_
      rintro _ _ _ rfl
      exact alike_pure rfl
    · exact alike_pure rfl

theorem alike_mount (name : String) (opts : Dict Json) :
    Alike .mount .beginning (fun _ a b => a = b) (mount c name opts) (mount c name opts) := by
  refine alike_bind (alike_refl (within_gatherMount ⟨rfl, fun _ => rfl, rfl⟩ c name opts)) ?_
  rintro _ r _ ⟨rfl, rfl⟩
  refine alike_bind (alike_reconcile _ _) ?_
  rintro _ _ _ rfl
  refine alike_bind (alike_awaitConflict ⟨rfl, rfl⟩ (fun _ => ⟨rfl, rfl⟩) (fun _ => ⟨rfl, rfl⟩)
    (fun _ => ⟨rfl, rfl⟩) .mount) ?_
  rintro _ _ _ rfl
  exact alike_enter_bind alike_mountLocked

/-- The release of a volume does not fail, and nothing of it is seen in a remove. -/
theorem alike_releaseHostSide (volume : Volume) (request : Provider.Request) :
    Alike .remove .asked (fun t _ _ => t = .asked) (releaseHostSide volume request)
      (releaseHostSide volume request) := by
  refine alike_mono (fun _ _ _ h => h.1) (alike_unseen (P := fun _ => True) fun es x h => ?_)
  obtain ⟨hreleased, report, rfl⟩ := ends_releaseHostSide h
  have hsoft : ∀ ex ∈ es, Observer.remove.Soft .asked ex.effect := by
    cases hreleased with
    | found =>
      simp only [List.forall_mem_cons]
      exact ⟨⟨rfl, rfl⟩, ⟨rfl, rfl⟩, ⟨rfl, rfl⟩, ⟨rfl, rfl⟩, List.forall_mem_nil _⟩
    | absent =>
      simp only [List.forall_mem_cons]
      exact ⟨⟨rfl, rfl⟩, ⟨rfl, rfl⟩, List.forall_mem_nil _⟩
  obtain ⟨hview, hstage⟩ := Observer.view_of_soft hsoft
  exact ⟨hview, hstage, report, rfl, trivial⟩

theorem alike_removeLocked :
    Alike .remove .beginning (fun _ a b => a = b) (removeLocked c r) (removeLocked c r) := by
  refine alike_bind (alike_provider rfl fun _ => rfl) ?_
  rintro _ response _ ⟨rfl, rfl⟩
  refine alike_ofExcept_bind fun volume => ?_
  have hrelease :
      let release : Workflow Unit := do
        unmountForRemoval volume
        let _ ← releaseHostSide volume (providerRequest c r)
        let response ← provider .remove (providerRequest c r)
        let _ ← ofExcept response.check
      Alike .remove .asked (fun _ a b => a = b) release release := by
    refine alike_bind (alike_refl (within_unmountForRemoval ⟨rfl, fun _ => rfl, rfl⟩)) ?_
    rintro _ _ _ ⟨rfl, -⟩
    refine alike_bind (alike_releaseHostSide _ _) ?_
    rintro _ _ _ rfl
    refine alike_bind (alike_provider rfl fun _ => rfl) ?_
    rintro _ response _ ⟨rfl, rfl⟩
    exact alike_ofExcept_bind fun _ => alike_pure rfl
  split
  · refine alike_bind (alike_awaitConflict ⟨rfl, rfl⟩ (fun _ => ⟨rfl, rfl⟩) (fun _ => ⟨rfl, rfl⟩)
      (fun _ => ⟨rfl, rfl⟩) .delete) ?_
    rintro _ _ _ rfl
    exact hrelease
  · exact hrelease

theorem alike_remove (name : String) :
    Alike .remove .beginning (fun _ a b => a = b) (remove c name) (remove c name) := by
  refine alike_bind (alike_refl (within_gather ⟨rfl, fun _ => rfl, rfl⟩ name .empty)) ?_
  rintro _ r _ ⟨rfl, rfl⟩
  exact alike_enter_bind alike_removeLocked

/-- A look-up that fails is as good as one that finds no device. -/
theorem alike_resolveDevice (volume : Volume) :
    Alike .unmount .beginning (fun t a b => t = .looked volume.isGroupScoped ∧ a = b)
      (resolveDevice volume) (resolveDevice volume) := by
  refine alike_bind (alike_attempt rfl) ?_
  rintro _ lookup lookup' ⟨rfl, hsame⟩
  have hdevice : deviceFound lookup = deviceFound lookup' := Except.ok.inj hsame
  cases lookup <;> cases lookup' <;> exact alike_pure ⟨rfl, hdevice⟩

/-- The failure of the offline step is passed on for the volume of a group only. -/
theorem alike_offlineForUnmount (volume : Volume) (d : Device) :
    Alike .unmount (.looked volume.isGroupScoped) (fun t _ _ => t = .looked volume.isGroupScoped)
      (offlineForUnmount volume d) (offlineForUnmount volume d) := by
  unfold offlineForUnmount
  cases volume.isGroupScoped with
  | true =>
    refine alike_mono (fun _ _ _ h => h.1) (alike_refl ?_)
    refine within_bind (within_attempt ⟨rfl, fun _ => rfl, rfl⟩) fun reply => ?_
    split
    · exact within_pure _
    · exact within_fail _
  | false =>
    refine alike_bind (alike_attempt_soft rfl) ?_
    rintro _ reply reply' rfl
    cases reply <;> cases reply' <;> exact alike_pure rfl

theorem deleteForUnmount_eq (d : Device) :
    deleteForUnmount d = (attempt (.deleteDevice d) >>= fun reply =>
      ofExcept (Observer.unmount.settled (.call (.deleteDevice d)) reply)) := by
  refine bind_congr fun reply => ?_
  cases reply with
  | ok u => rfl
  | error f =>
    show (if f.isNotFound then pure () else fail f) =
      ofExcept (if f.isNotFound then .ok () else .error f)
    split <;> rfl

/-- A device that is not found is as good as a deleted one. -/
theorem alike_deleteForUnmount (grouped : Bool) (d : Device) :
    Alike .unmount (.looked grouped) (fun t _ _ => t = .looked grouped) (deleteForUnmount d)
      (deleteForUnmount d) := by
  rw [deleteForUnmount_eq]
  refine alike_bind (alike_attempt rfl) ?_
  rintro _ reply reply' ⟨rfl, hsame⟩
  rw [hsame]
  exact alike_mono (fun _ _ _ h => h.1) (alike_refl (within_ofExcept _))

/-- The removal of a volume that goes away with its last host. -/
theorem alike_cascade (grouped : Bool) :
    Alike .unmount (.looked grouped) (fun _ _ _ => True) (result (removeLocked c r))
      (result (removeLocked c r)) := by
  refine alike_mono (fun _ _ _ _ => trivial)
    (alike_unseen (t := .closing) (P := fun _ => True) fun es x h => ?_)
  obtain ⟨y, rfl, hremove⟩ := ends_result h
  -- The removal begins with the question for the volume, and from then on everything is soft.
  rcases ends_call_bind_iff.1 hremove with ⟨e, rfl, rfl⟩ | ⟨response, es', rfl, -⟩
  all_goals
    exact and_assoc.1
      ⟨Observer.view_of_closing rfl rfl Observer.unmount_soft_closing _ _, _, rfl, trivial⟩

theorem alike_releaseUnmounted (volume : Volume) (request : Provider.Request) :
    Alike .unmount .beginning (fun t _ _ => t = .looked volume.isGroupScoped)
      (releaseUnmounted volume request) (releaseUnmounted volume request) := by
  refine alike_bind (alike_call (c := .unmountDevice volume) rfl fun _ => rfl) ?_
  rintro _ _ _ ⟨rfl, -⟩
  refine alike_bind (alike_resolveDevice volume) ?_
  rintro _ device _ ⟨rfl, rfl⟩
  cases device with
  | none =>
    refine alike_bind (alike_refl (within_pure ())) ?_
    rintro _ _ _ ⟨rfl, -⟩
    refine alike_bind (alike_provideBestEffort rfl) ?_
    rintro _ _ _ rfl
    exact alike_pure rfl
  | some d =>
    refine alike_bind (alike_offlineForUnmount volume d) ?_
    rintro _ _ _ rfl
    refine alike_bind (alike_provideBestEffort rfl) ?_
    rintro _ _ _ rfl
    exact alike_deleteForUnmount _ d

theorem alike_unmountLocked :
    Alike .unmount .beginning (fun _ a b => a = b) (unmountLocked c r) (unmountLocked c r) := by
  refine alike_bind (alike_provider rfl fun _ => rfl) ?_
  rintro _ response _ ⟨rfl, rfl⟩
  refine alike_ofExcept_bind fun response => ?_
  split
  · exact alike_pure rfl
  refine alike_ofExcept_bind fun volume => ?_
  refine alike_bind (alike_releaseUnmounted volume _) ?_
  rintro _ _ _ rfl
  split
  · refine alike_bind (alike_cascade _) ?_
    rintro _ _ _ -
    exact alike_pure rfl
  · exact alike_pure rfl

theorem alike_unmount (name : String) (opts : Dict Json) :
    Alike .unmount .beginning (fun _ a b => a = b) (unmount c name opts) (unmount c name opts) := by
  refine alike_bind (alike_refl (within_gather ⟨rfl, fun _ => rfl, rfl⟩ name opts)) ?_
  rintro _ r _ ⟨rfl, rfl⟩
  exact alike_enter_bind alike_unmountLocked

theorem within_prepareAndRelease (volume : Volume) (request : Provider.Request)
    (filesystem : String) :
    Within (Observer.create.Hard .beginning) (prepareAndRelease volume request filesystem).run := by
  refine within_bind (within_attachFirst ⟨rfl, fun _ => rfl, rfl⟩) fun d => ?_
  refine within_bind (within_call ⟨rfl, fun _ => rfl, rfl⟩) fun _ => ?_
  refine within_bind (within_call ⟨rfl, fun _ => rfl, rfl⟩) fun _ => ?_
  refine within_bind (within_call ⟨rfl, fun _ => rfl, rfl⟩) fun _ => ?_
  refine within_bind (within_call ⟨rfl, fun _ => rfl, rfl⟩) fun response => ?_
  exact within_bind (within_ofExcept _) fun _ => within_call ⟨rfl, fun _ => rfl, rfl⟩

/-- The discarding of a volume does not fail, and nothing of it is seen. -/
theorem alike_discardCreated (volume : Volume) (request : Provider.Request) :
    Alike .create .beginning (fun _ _ _ => True) (discardCreated volume request)
      (discardCreated volume request) := by
  refine alike_mono (fun _ _ _ _ => trivial)
    (alike_unseen (t := .closing) (P := fun _ => True) fun es x h => ?_)
  rcases ends_bind_iff.1 h with ⟨e, -, hfail⟩ | ⟨report, es₁, es₂, rfl, hrelease, hremove⟩
  · obtain ⟨-, report, hok⟩ := ends_releaseHostSide hfail
    cases hok
  obtain ⟨reply, es₃, rfl, hdone⟩ := ends_provideBestEffort_bind_iff.1 hremove
  obtain ⟨rfl, rfl⟩ := ends_pure_iff.1 hdone
  -- Whether a device is found or not, the first step is the look-up.
  cases (ends_releaseHostSide hrelease).1
  all_goals
    exact and_assoc.1
      ⟨Observer.view_of_closing rfl rfl Observer.create_soft_closing _ _, _, rfl, trivial⟩

theorem alike_createLocked :
    Alike .create .beginning (fun _ a b => a = b) (createLocked c r) (createLocked c r) := by
  refine alike_bind (alike_provider rfl fun _ => rfl) ?_
  rintro _ response _ ⟨rfl, rfl⟩
  refine alike_ofExcept_bind fun volume => ?_
  split
  · refine alike_bind (alike_refl (within_result (within_prepareAndRelease volume _ _))) ?_
    rintro _ prepared _ ⟨rfl, rfl⟩
    cases prepared with
    | ok u => exact alike_pure rfl
    | error f =>
      refine alike_bind (alike_discardCreated volume _) ?_
      rintro _ _ _ -
      exact alike_fail _
  · exact alike_pure rfl

theorem alike_create (name : String) (opts : Dict Json) :
    Alike .create .beginning (fun _ a b => a = b) (create c name opts) (create c name opts) := by
  refine alike_ofExcept_bind fun _ => ?_
  refine alike_ofExcept_bind fun options => ?_
  split
  · exact alike_pure rfl
  refine alike_ofExcept_bind fun _ => ?_
  refine alike_bind (alike_refl (within_describeHost ⟨rfl, fun _ => rfl, rfl⟩)) ?_
  rintro _ host _ ⟨rfl, rfl⟩
  refine alike_enter_bind ?_
  refine alike_bind alike_createLocked ?_
  rintro _ volume _ rfl
  exact alike_pure rfl

def unattachable : Testbed where
  host := { uuid := "node", initiators := [⟨"iscsi", ["iqn.node"]⟩] }
  store.volumes := Dict.empty.insert "v" { name := "v", serialNumber := "serial-v" }
  failures := fun k => if k = .attachAndMountDevice then some (.host "no path") else none
  files := ⟨[], []⟩

def unattached : Program.Trace Response Testbed :=
  Program.trace Testbed.perform 20 (Command.program {} unattachable.host (.mount { name := "v" }))
    unattachable

end Workflow

namespace Command

/-- Workflows that end alike are answered alike. -/
theorem twins_answering {α β : Type} {o : Observer Stage} {w : Workflow α}
    (h : Workflow.Alike o .beginning (fun _ a b => a = b) w w) (respond : Except Failure α → β) :
    Program.Twins o .beginning (fun _ x y => x = y) (answering w respond) (answering w respond) := by
  refine Program.Twins.andThen h fun t x y hxy => Program.Twins.done ?_
  rcases hxy with ⟨f, rfl, rfl⟩ | ⟨a, b, rfl, rfl, rfl⟩ <;> rfl

theorem twins_program (c : Config) (host : Host) (command : Command) :
    Program.Twins command.observer .beginning (fun _ x y => x = y) (command.program c host)
      (command.program c host) := by
  have hstrict : ∀ p : Program Response,
      Program.Twins .strict .beginning (fun _ x y => x = y) p p := fun p =>
    (Program.Twins.refl (Program.within_of_forall (Observer.strict_hard _) p)).mono
      fun _ _ _ h => h.2
  cases command with
  | mount r => exact twins_answering (Workflow.alike_mount r.name r.opts) _
  | unmount r => exact twins_answering (Workflow.alike_unmount r.name r.opts) _
  | create r => exact twins_answering (Workflow.alike_create r.name r.opts) _
  | remove r => exact twins_answering (Workflow.alike_remove r.name) _
  | get => exact hstrict _
  | path => exact hstrict _
  | capabilities => exact hstrict _
  | configuration => exact hstrict _
  | awaitConflict => exact hstrict _
  | reconcile => exact hstrict _

/-- Two runs of a command answer the same if all steps but the soft ones get the same replies in both,
and then these steps are the same too. The soft steps can have any replies, also such that more or
fewer of them follow. -/
theorem response_eq_of_agree {c : Config} {host : Host} {command : Command} {es es' : List Exchange}
    {x y : Response} (h : (command.program c host).Runs es (some x))
    (h' : (command.program c host).Runs es' (some y))
    (hagree : Agree (command.hardSteps es) (command.hardSteps es')) :
    x = y ∧ command.hardSteps es = command.hardSteps es' := by
  rw [← List.append_nil (command.hardSteps es), ← List.append_nil (command.hardSteps es')] at hagree
  obtain ⟨hsteps, -, hxy⟩ := twins_program c host command es x es' y [] [] h h' hagree
  exact ⟨hxy, hsteps⟩

/-- The mount of a volume that cannot be attached, if the provider is not reached for the rollback and a
device is found by then. -/
def unattachedFound : Program.Trace Response Testbed :=
  Program.trace Testbed.perform 20
    (program {} Workflow.unattachable.host (.mount { name := "v" }))
    ((Workflow.unattachable.withFailure (.provider .unmount) (some (.host "unreachable"))).withScript
      .getDevice [.reply (.ok (some { serialNumber := "serial-v" }))])

/-- The soft steps of a rollback, with other replies and more of them, under the same answer. -/
theorem response_eq_of_agree_unattached :
    let command : Command := .mount { name := "v" }
    Workflow.unattached.exchanges.length + 2 = unattachedFound.exchanges.length ∧
      Agree (command.hardSteps Workflow.unattached.exchanges)
        (command.hardSteps unattachedFound.exchanges) ∧
      ∃ x y, Workflow.unattached.outcome = some x ∧ unattachedFound.outcome = some y ∧ x = y := by
  intro command
  have hruns : (program {} Workflow.unattachable.host command).Runs Workflow.unattached.exchanges
      (some (.mounted ⟨"", "no path"⟩)) := Program.trace_runs _ _ _ _
  have hfound : (program {} Workflow.unattachable.host command).Runs unattachedFound.exchanges
      (some (.mounted ⟨"", "no path"⟩)) := Program.trace_runs _ _ _ _
  have hsame : command.hardSteps Workflow.unattached.exchanges =
      command.hardSteps unattachedFound.exchanges := rfl
  have hagree : Agree (command.hardSteps Workflow.unattached.exchanges)
      (command.hardSteps unattachedFound.exchanges) := by
    rw [hsame]
    exact Agree.refl _
  exact ⟨rfl, hagree, _, _, rfl, rfl, (response_eq_of_agree hruns hfound hagree).1⟩

end Command
end VolumeLifecycle
