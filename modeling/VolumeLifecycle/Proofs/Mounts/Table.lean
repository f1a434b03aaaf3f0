import VolumeLifecycle.Proofs.Program.Performed
import VolumeLifecycle.Workflow.Command

namespace VolumeLifecycle

open Program (Performed Runs)

def Call.Kind.mounts : Call.Kind → Bool
  | .attachAndMountDevice => true
  | .mountDevice => true
  | _ => false

def Call.Kind.unmounts : Call.Kind → Bool
  | .unmountDevice => true
  | .unmountFileSystem => true
  | _ => false

/-- An effect that takes no entry out of the mount table and puts none into it. -/
def Effect.LeavesMounts : Effect → Prop
  | .call c => c.kind.mounts = false ∧ c.kind.unmounts = false
  | _ => True

def Effect.AddsNoMount : Effect → Prop
  | .call c => c.kind.mounts = false
  | _ => True

namespace Mount

variable {table table' : List Mount} {ex : Exchange} {serial : String}

/-- How an exchange changes the mount table: a device is mounted for its serial number at the path of the
call, all mounts of a volume's serial number are undone, or those at a path. -/
inductive Changes : List Mount → Exchange → List Mount → Prop where
  | attachAndMount (table : List Mount) (v : Volume) (path : Path) (answer : Mount) {entry : Mount}
      (hat : entry.mountpoint = path) (hof : entry.device.serialNumber = v.serialNumber) :
    Changes table ⟨.call (.attachAndMountDevice v path), Except.ok answer⟩ (table ++ [entry])
  | mount (table : List Mount) (d : Device) (path : Path) (answer : Mount) {entry : Mount}
      (hat : entry.mountpoint = path) (hof : entry.device.serialNumber = d.serialNumber) :
    Changes table ⟨.call (.mountDevice d path), Except.ok answer⟩ (table ++ [entry])
  | unmount (table : List Mount) (v : Volume) :
    Changes table ⟨.call (.unmountDevice v), Except.ok ()⟩
      (table.filter fun m => m.device.serialNumber ≠ v.serialNumber)
  | unmountAt (table : List Mount) (path : Path) :
    Changes table ⟨.call (.unmountFileSystem path), Except.ok ()⟩
      (table.filter fun m => m.mountpoint ≠ path)
  | failed (table : List Mount) (c : Call) (f : Failure) :
    Changes table ⟨.call c, Except.error f⟩ table
  | other (table : List Mount) (ex : Exchange) (h : ex.effect.LeavesMounts) :
    Changes table ex table

def Has (table : List Mount) (serial : String) (path : Path) : Prop :=
  ∃ m ∈ table, m.device.serialNumber = serial ∧ m.isAt path = true

def Lacks (table : List Mount) (serial : String) : Prop :=
  ∀ m ∈ table, m.device.serialNumber ≠ serial

theorem isAt_self (m : Mount) : m.isAt m.mountpoint = true :=
  decide_eq_true rfl

/-- Effects that neither mount nor unmount leave the mount table as it is. -/
theorem Changes.eq_of_leavesMounts (h : Changes table ex table') (hex : ex.effect.LeavesMounts) :
    table' = table := by
  cases h with
  | attachAndMount v path answer => cases hex.1
  | mount d path answer => cases hex.1
  | unmount v => cases hex.2
  | unmountAt path => cases hex.2
  | failed => rfl
  | other => rfl

/-- After a successful attach there is an entry for the volume at the mountpoint. -/
theorem Changes.has_attached {v : Volume} {path : Path} {answer : Mount}
    (h : Changes table ⟨.call (.attachAndMountDevice v path), Except.ok answer⟩ table') :
    Has table' v.serialNumber path := by
  cases h with
  | attachAndMount _ _ _ hat hof =>
    exact ⟨_, List.mem_append_right _ List.mem_cons_self, hof, hat ▸ isAt_self _⟩
  | other _ h => cases h.1

/-- After a successful mount of a device there is an entry for its volume at the mountpoint. -/
theorem Changes.has_mounted {d : Device} {path : Path} {answer : Mount}
    (h : Changes table ⟨.call (.mountDevice d path), Except.ok answer⟩ table') :
    Has table' d.serialNumber path := by
  cases h with
  | mount _ _ _ hat hof =>
    exact ⟨_, List.mem_append_right _ List.mem_cons_self, hof, hat ▸ isAt_self _⟩
  | other _ h => cases h.1

/-- After a successful unmount there is no entry for the volume. -/
theorem Changes.lacks_unmounted {v : Volume}
    (h : Changes table ⟨.call (.unmountDevice v), Except.ok ()⟩ table') :
    Lacks table' v.serialNumber := by
  cases h with
  | unmount =>
    intro m hm
    exact of_decide_eq_true (List.mem_filter.1 hm).2
  | other _ h => cases h.2

/-- What is not in the table comes into it by mounting only. -/
theorem Changes.lacks (h : Changes table ex table') (hex : ex.effect.AddsNoMount)
    (hlacks : Lacks table serial) : Lacks table' serial := by
  cases h with
  | attachAndMount v path answer => cases hex
  | mount d path answer => cases hex
  | unmount v => exact fun m hm => hlacks m (List.mem_filter.1 hm).1
  | unmountAt path => exact fun m hm => hlacks m (List.mem_filter.1 hm).1
  | failed => exact hlacks
  | other => exact hlacks

end Mount

def Effect.RemovesNoVolume : Effect → Prop
  | .call c => c.kind ≠ .provider .remove
  | _ => True

def Exchange.failure? : Exchange → Option Failure
  | ⟨.call _, reply⟩ =>
    match reply with
    | .error f => some f
    | .ok _ => none
  | ⟨.describeHost, reply⟩ =>
    match reply with
    | .error f => some f
    | .ok _ => none
  | _ => none

def Effect.IsQuestion : Effect → Prop
  | .describeHost => True
  | .call c => c.kind = .provider .get ∨ c.kind = .getMounts
  | _ => False

/-- Questions leave the mount table as it is. -/
theorem Effect.IsQuestion.leavesMounts {e : Effect} (h : e.IsQuestion) : e.LeavesMounts := by
  cases e with
  | call c =>
    have hkind : c.kind.mounts = false ∧ c.kind.unmounts = false := by
      rcases h with h | h <;> rw [h] <;> exact ⟨rfl, rfl⟩
    exact hkind
  | _ => trivial

/-- Surroundings with a provider that has a volume until it is removed, and that shows every volume under
its own name and with a serial number of its own, and with a device manager whose mount table changes by
nothing but its calls. They are as described in the states that are sound, and stay so. -/
structure Surroundings (World : Type) where
  perform : World → (e : Effect) → e.Reply × World
  volumes : World → Dict Volume
  devices : World → Dict Device
  mounts : World → List Mount
  /-- The serial number of the volume of a name. -/
  serial : String → String
  Sound : World → Prop
  sound : ∀ w e, Sound w → Sound (perform w e).2
  changes : ∀ w e, Sound w →
    Mount.Changes (mounts w) ⟨e, (perform w e).1⟩ (mounts (perform w e).2)
  reads : ∀ w e, Sound w → e.IsQuestion →
    volumes (perform w e).2 = volumes w ∧ devices (perform w e).2 = devices w
  keeps : ∀ w e name, Sound w → e.RemovesNoVolume →
    ((volumes w).get? name).isSome → ((volumes (perform w e).2).get? name).isSome
  showsMounts : ∀ w w' serialNumber (shown : List Mount), Sound w →
    perform w (.call (.getMounts serialNumber)) = (Except.ok shown, w') →
      shown = (mounts w).filter fun m => m.device.serialNumber = serialNumber
  showsVolume : ∀ w w' op request (response : Provider.Response) v, Sound w →
    perform w (.call (.provider op request)) = (Except.ok response, w') →
      response.volume = some v → v.name = request.name ∧ v.serialNumber = serial request.name ∧
        ((volumes w').get? request.name).isSome
  resolves : ∀ w w' request (response : Provider.Response), Sound w →
    perform w (.call (.provider .get request)) = (Except.ok response, w') →
      ((volumes w).get? request.name).isSome → ∃ v, response.intoVolume request.name = .ok v
  attaches : ∀ w w' volumes (attached : List Device), Sound w →
    perform w (.call (.attachDevice volumes)) = (Except.ok attached, w') →
      ∀ d ∈ attached, ∃ v ∈ volumes, d.serialNumber = v.serialNumber

namespace Surroundings

variable {World : Type} {s : Surroundings World} {w w' : World} {es : List Exchange}

/-- The first exchange of a row, and the state that it leads to. -/
theorem cons_inv (h : s.Sound w) {e : Effect} {reply : e.Reply}
    (hw : Performed s.perform w (⟨e, reply⟩ :: es) w') :
    ∃ w₁, s.perform w e = (reply, w₁) ∧ s.Sound w₁ ∧
      Mount.Changes (s.mounts w) ⟨e, reply⟩ (s.mounts w₁) ∧ Performed s.perform w₁ es w' := by
  obtain ⟨rfl, hrest⟩ := hw.cons_inv
  exact ⟨_, rfl, s.sound w e h, s.changes w e h, hrest⟩

/-- Sound surroundings stay so. -/
theorem sound_of_performed (h : s.Sound w) (hw : Performed s.perform w es w') : s.Sound w' := by
  induction hw with
  | nil => exact h
  | cons _ ih => exact ih (s.sound _ _ h)

/-- Exchanges that neither mount nor unmount leave the mount table as it is. -/
theorem mounts_of_performed (h : s.Sound w) (hw : Performed s.perform w es w')
    (hes : ∀ ex ∈ es, ex.effect.LeavesMounts) : s.mounts w' = s.mounts w := by
  induction hw with
  | nil => rfl
  | cons _ ih =>
    obtain ⟨hex, hrest⟩ := List.forall_mem_cons.1 hes
    rw [ih (s.sound _ _ h) hrest]
    exact (s.changes _ _ h).eq_of_leavesMounts hex

/-- Exchanges that add no mount leave a volume without entries. -/
theorem lacks_of_performed (h : s.Sound w) (hw : Performed s.perform w es w')
    (hes : ∀ ex ∈ es, ex.effect.AddsNoMount) {serial : String}
    (hlacks : Mount.Lacks (s.mounts w) serial) : Mount.Lacks (s.mounts w') serial := by
  induction hw with
  | nil => exact hlacks
  | cons _ ih =>
    obtain ⟨hex, hrest⟩ := List.forall_mem_cons.1 hes
    exact ih (s.sound _ _ h) hrest ((s.changes _ _ h).lacks hex hlacks)

/-- Exchanges that remove no volume leave every stored volume stored. -/
theorem isSome_of_performed (h : s.Sound w) (hw : Performed s.perform w es w')
    (hes : ∀ ex ∈ es, ex.effect.RemovesNoVolume) {name : String}
    (hstored : ((s.volumes w).get? name).isSome) : ((s.volumes w').get? name).isSome := by
  induction hw with
  | nil => exact hstored
  | cons _ ih =>
    obtain ⟨hex, hrest⟩ := List.forall_mem_cons.1 hes
    exact ih (s.sound _ _ h) hrest (s.keeps _ _ _ h hex hstored)

/-- Questions change nothing at all that anybody keeps. -/
theorem reads_of_performed (h : s.Sound w) (hw : Performed s.perform w es w')
    (hes : ∀ ex ∈ es, ex.effect.IsQuestion) :
    s.volumes w' = s.volumes w ∧ s.devices w' = s.devices w ∧ s.mounts w' = s.mounts w := by
  induction hw with
  | nil => exact ⟨rfl, rfl, rfl⟩
  | cons _ ih =>
    obtain ⟨hex, hrest⟩ := List.forall_mem_cons.1 hes
    obtain ⟨hvolumes, hdevices, hmounts⟩ := ih (s.sound _ _ h) hrest
    obtain ⟨hvolumes', hdevices'⟩ := s.reads _ _ h hex
    have hmounts' := (s.changes _ _ h).eq_of_leavesMounts hex.leavesMounts
    exact ⟨hvolumes.trans hvolumes', hdevices.trans hdevices', hmounts.trans hmounts'⟩

/-- A state to which commands lead from another one. They are run one after the other, each to its end or
until it was cut off. -/
inductive Reached (s : Surroundings World) (c : Config) : World → World → Prop where
  | start (w : World) : Reached s c w w
  | run {start w w' : World} (before : Reached s c start w) (command : Command) (current : Host)
      {es : List Exchange} {x : Option Response} (hrun : (command.program c current).Runs es x)
      (hperformed : Performed s.perform w es w') : Reached s c start w'

/-- Surroundings that are reached from sound ones are sound. -/
theorem Reached.sound {c : Config} {start : World} (h : Reached s c start w)
    (hstart : s.Sound start) : s.Sound w := by
  induction h with
  | start => exact hstart
  | run _ _ _ _ hperformed ih => exact s.sound_of_performed ih hperformed

end Surroundings
end VolumeLifecycle
