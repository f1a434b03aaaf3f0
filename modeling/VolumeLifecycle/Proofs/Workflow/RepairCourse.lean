import VolumeLifecycle.Proofs.Conflict.Questions
import VolumeLifecycle.Proofs.Program.Determined
import VolumeLifecycle.Proofs.Workflow.Repair

namespace VolumeLifecycle

/-- A fragment is a row of neighbouring characters. -/
theorem Text.hasFragmentChars_eq_true_iff {fragment s : List Char} :
    hasFragmentChars fragment s = true ↔ fragment <:+: s := by
  induction s with
  | nil => simp [hasFragmentChars]
  | cons c rest ih => simp [hasFragmentChars, ih, List.infix_cons_iff]

/-- The text of the failure says both that nothing is mounted and that there is no such file. -/
def Failure.SaysStale (f : Failure) : Prop :=
  "not mounted".toList <:+: f.message.toList ∧ "no such file".toList <:+: f.message.toList

/-- Whether an entry is stale is read off the text of the failure. -/
theorem Failure.isStaleEntry_iff {f : Failure} : f.isStaleEntry = true ↔ f.SaysStale := by
  simp only [isStaleEntry, Bool.and_eq_true, Text.hasFragment, Text.hasFragmentChars_eq_true_iff,
    SaysStale]

def Failure.Says (f : Failure) (fragment : String) : Prop :=
  fragment.toList <:+: f.message.toList

/-- A failure says a fragment if its text holds it. -/
theorem Failure.hasFragment_message_iff {f : Failure} {fragment : String} :
    Text.hasFragment f.message fragment = true ↔ f.Says fragment :=
  Text.hasFragmentChars_eq_true_iff

theorem Failure.notFound_says (subject : String) : (notFound subject).Says "not found" := by
  unfold Says message
  rw [String.toList_append]
  have hlast : "not found".toList <:+ " not found".toList := ⟨[' '], rfl⟩
  exact (hlast.trans (List.suffix_append _ _)).isInfix

/-- A failure says that its object is gone already if and only if its text does, whatever its cause. -/
theorem Failure.isNotFound_iff {f : Failure} : f.isNotFound = true ↔ f.Says "not found" := by
  unfold isNotFound
  rw [Bool.or_eq_true, hasFragment_message_iff, or_iff_right_of_imp]
  cases f with
  | notFound subject => exact fun _ => notFound_says subject
  | _ => exact nofun

namespace Workflow

/-- What the collaborators answer to a repair; the unmounts are counted from the first one on. -/
structure RepairAnswers where
  get : Except Failure Provider.Response
  getMounts : Except Failure (List Mount)
  getDevice : Except Failure (Option Device)
  unmount : Nat → Except Failure Unit
  delete : Except Failure Unit

namespace RepairAnswers

/-- Surroundings that give these answers, with the number of unmounts so far. What they do on anything
that a repair does not ask for is of no account. -/
def perform (a : RepairAnswers) (unmounts : Nat) : (e : Effect) → e.Reply × Nat
  | .call (.provider .get _) => (a.get, unmounts)
  | .call (.getMounts _) => (a.getMounts, unmounts)
  | .call (.getDevice _) => (a.getDevice, unmounts)
  | .call (.unmountFileSystem _) => (a.unmount unmounts, unmounts + 1)
  | .call (.deleteDevice _) => (a.delete, unmounts)
  | .call _ => (.error default, unmounts)
  | .describeHost => (.error default, unmounts)
  | .now => ((0 : Nat), unmounts)
  | .sleep _ => ((), unmounts)
  | .removeDirectory _ => (.ok (), unmounts)

/-- The answers show a volume with mount entries and a device, which this node does not rightly use. -/
structure Stale (a : RepairAnswers) (host : Host) (volume : Volume) (mounts : List Mount)
    (device : Device) : Prop where
  resolved : ∃ response, a.get = .ok response ∧ response.err = "" ∧ response.volume = some volume
  listed : a.getMounts = .ok mounts
  nonempty : mounts ≠ []
  found : a.getDevice = .ok (some device)
  unused : ¬ (volume.inUse = true ∧ volume.isAttachedTo host = true)

/-- The `n`-th unmount succeeds, or its failure says that the entry is stale. -/
def Passes (a : RepairAnswers) (n : Nat) : Prop :=
  ∀ f, a.unmount n = .error f → f.SaysStale

end RepairAnswers

def unmountCalls (mounts : List Mount) : List Call :=
  mounts.map fun m => .unmountFileSystem m.mountpoint

/-- The calls with which a repair of stale entries begins. -/
def lookCalls (name : String) (volume : Volume) : List Call :=
  [.provider .get (.named name), .getMounts volume.serialNumber, .getDevice volume]

variable {es : List Exchange} {a : RepairAnswers} {name : String} {host : Host} {volume : Volume}
  {mounts : List Mount} {device : Device} {n n' : Nat}

/-- If every entry passes, all are unmounted. -/
theorem Unmounted.of_passes {x : Except Failure Unit} (h : Unmounted mounts es x)
    (hperformed : Program.Performed a.perform n es n')
    (hpass : ∀ i < mounts.length, a.Passes (n + i)) :
    x = .ok () ∧ calls es = unmountCalls mounts := by
  induction h generalizing n with
  | done => exact ⟨rfl, rfl⟩
  | passed m reply _ _ ih =>
    obtain ⟨-, hrest⟩ := hperformed.cons_inv
    obtain ⟨hx, hcalls⟩ := ih (n := n + 1) hrest fun i hi => by
      rw [Nat.add_assoc, Nat.add_comm 1 i]
      exact hpass (i + 1) (Nat.succ_lt_succ hi)
    exact ⟨hx, congrArg (Call.unmountFileSystem m.mountpoint :: ·) hcalls⟩
  | stuck m rest hf =>
    obtain ⟨hreply, -⟩ := hperformed.cons_inv
    have hstale := Failure.isStaleEntry_iff.2 (hpass 0 (Nat.succ_pos _) _ hreply)
    cases hf.symm.trans hstale

/-- If an entry does not pass, it is the last one to be touched. -/
theorem Unmounted.of_failure {x : Except Failure Unit} (h : Unmounted mounts es x)
    (hperformed : Program.Performed a.perform n es n') {i : Nat} (hi : i < mounts.length)
    (hpass : ∀ j < i, a.Passes (n + j)) {f : Failure} (hfailed : a.unmount (n + i) = .error f)
    (hf : ¬ f.SaysStale) :
    x = .error f ∧ calls es = unmountCalls (mounts.take (i + 1)) := by
  -- The first entry either passes, and then the failure is one entry nearer, or it is the one that fails.
  induction h generalizing n i with
  | done => cases hi
  | passed m reply hstale _ ih =>
    obtain ⟨hreply, hrest⟩ := hperformed.cons_inv
    cases i with
    | zero => exact absurd (Failure.isStaleEntry_iff.1 (hstale f (hreply.symm.trans hfailed))) hf
    | succ i =>
      have hshift : ∀ j, n + 1 + j = n + (j + 1) := fun j => by omega
      obtain ⟨hx, hcalls⟩ := ih (n := n + 1) hrest (Nat.lt_of_succ_lt_succ hi)
        (fun j hj => hshift j ▸ hpass (j + 1) (Nat.succ_lt_succ hj)) (hshift i ▸ hfailed)
      exact ⟨hx, congrArg (Call.unmountFileSystem m.mountpoint :: ·) hcalls⟩
  | stuck m rest hstuck =>
    obtain ⟨hreply, -⟩ := hperformed.cons_inv
    cases i with
    | zero => exact ⟨hreply.symm.trans hfailed, rfl⟩
    | succ i =>
      have hstale := Failure.isStaleEntry_iff.2 (hpass 0 (Nat.succ_pos i) _ hreply)
      cases hstuck.symm.trans hstale

/-- A reply shows the volume that it holds, unless it carries an error. -/
theorem shown_eq_ok_iff {reply : Except Failure Provider.Response} :
    shown name reply = .ok volume ↔
      ∃ response, reply = .ok response ∧ response.err = "" ∧ response.volume = some volume := by
  cases reply with
  | error f => simp [shown]
  | ok response => simp [shown, Provider.Response.intoVolume_eq_ok_iff]

/-- A repair tears nothing down if the answers do not show stale entries. -/
theorem Repair.calm {x : Except Failure Cleanup} (h : Repair name host es x)
    (hperformed : Program.Performed a.perform 0 es n)
    (hcalm : ∀ volume mounts device, ¬ a.Stale host volume mounts device) :
    ∀ ex ∈ es, ¬ ex.effect.TearsDown := by
  intro ex hex htears
  obtain ⟨reply, rest, rfl⟩ := h.exists_question
  obtain ⟨hget, hrest⟩ := hperformed.cons_inv
  have hlater : ex ∈ rest := by
    rcases List.mem_cons.1 hex with rfl | hlater
    · simp [Effect.TearsDown, Call.kind] at htears
    · exact hlater
  cases hshown : shown name reply with
  | error f =>
    cases h with
    | unresolved => cases hlater
    | unlisted _ hreply => cases hshown.symm.trans hreply
    | nothing _ hreply => cases hshown.symm.trans hreply
    | listed _ hreply => cases hshown.symm.trans hreply
  | ok volume =>
    obtain ⟨⟨mounts, device, handling, hmounts, rfl⟩, huse⟩ :=
      (h.tearsDown_iff hshown).1 ⟨ex, hlater, htears⟩
    obtain ⟨hlisted, hrest⟩ := hrest.cons_inv
    obtain ⟨hfound, -⟩ := hrest.cons_inv
    refine hcalm volume mounts device
      ⟨shown_eq_ok_iff.1 ((congrArg (shown name) hget).trans hshown), hlisted, hmounts, hfound, ?_⟩
    rintro ⟨hinUse, hattached⟩
    simp [hinUse, hattached] at huse

/-- If the answers show stale entries, a repair looks at the volume and then handles the entries. -/
theorem Repair.exists_handled {x : Except Failure Cleanup} (h : Repair name host es x)
    (hperformed : Program.Performed a.perform 0 es n) (hstale : a.Stale host volume mounts device) :
    ∃ look handling, es = look ++ handling ∧ calls look = lookCalls name volume ∧
      Handled host volume mounts device handling x ∧ Program.Performed a.perform 0 handling n := by
  have hshown : shown name a.get = .ok volume := shown_eq_ok_iff.2 hstale.resolved
  obtain ⟨reply, rest, rfl⟩ := h.exists_question
  obtain ⟨hget, hrest⟩ := hperformed.cons_inv
  replace hshown : shown name reply = .ok volume := hget ▸ hshown
  cases h with
  | unresolved _ hreply => cases hreply.symm.trans hshown
  | unlisted _ _ f => cases hrest.cons_inv.1.symm.trans hstale.listed
  | nothing => exact absurd (Except.ok.inj (hstale.listed.symm.trans hrest.cons_inv.1)) hstale.nonempty
  | listed _ hreply _ hsought =>
    cases hreply.symm.trans hshown
    obtain ⟨hlisted, hlast⟩ := hrest.cons_inv
    cases hlisted.symm.trans hstale.listed
    cases hsought with
    | unasked f => cases hlast.cons_inv.1.symm.trans hstale.found
    | missing => cases hlast.cons_inv.1.symm.trans hstale.found
    | found device' hhandled =>
      obtain ⟨hfound, hhandling⟩ := hlast.cons_inv
      cases hfound.symm.trans hstale.found
      exact ⟨[_, _, _], _, rfl, rfl, hhandled, hhandling⟩

/-- The volume's device is shared: it is reached over Fibre Channel, or its target belongs to a group. -/
def SharesDevice (volume : Volume) : Prop :=
  volume.accessProtocol = .fc ∨ volume.targetScope = .group

instance (volume : Volume) : Decidable (SharesDevice volume) :=
  inferInstanceAs (Decidable (_ ∨ _))

/-- Whether a target is shared is said by its protocol and scope. -/
theorem isSharedTarget_iff : volume.isSharedTarget = true ↔ SharesDevice volume := by
  simp only [Volume.isSharedTarget, Volume.isGroupScoped, SharesDevice, Bool.or_eq_true,
    decide_eq_true_eq]

/-- The device is deleted once if it is shared, and else not at all. -/
theorem Deleted.of_performed {deletion : List Exchange} {deleted : Bool}
    (h : Deleted volume device deletion deleted)
    (hperformed : Program.Performed a.perform n deletion n') :
    calls deletion = (if SharesDevice volume then [.deleteDevice device] else []) ∧
      (deleted = true ↔ SharesDevice volume ∧ a.delete = .ok ()) := by
  cases h with
  | kept hown =>
    have hnot : ¬ SharesDevice volume := by simp [← isSharedTarget_iff, hown]
    simp [calls, hnot]
  | tried hshared reply =>
    obtain ⟨hreply, -⟩ := hperformed.cons_inv
    cases hreply
    have hshares := isSharedTarget_iff.1 hshared
    rw [if_pos hshares, and_iff_right hshares]
    refine ⟨rfl, ?_⟩
    cases hdelete : a.delete <;> simp [RepairAnswers.perform, hdelete, Except.isOk, Except.toBool]

/-- A failure of an entry that does not pass ends the handling of the entries. -/
theorem Handled.of_failure {x : Except Failure Cleanup} (h : Handled host volume mounts device es x)
    (hunused : ¬ (volume.inUse = true ∧ volume.isAttachedTo host = true))
    (hperformed : Program.Performed a.perform 0 es n) {i : Nat} (hi : i < mounts.length)
    (hpass : ∀ j < i, a.Passes j) {f : Failure} (hfailed : a.unmount i = .error f)
    (hf : ¬ f.SaysStale) :
    x = .error f ∧ calls es = unmountCalls (mounts.take (i + 1)) := by
  replace hfailed : a.unmount (0 + i) = .error f := (Nat.zero_add i).symm ▸ hfailed
  have hpass' : ∀ j < i, a.Passes (0 + j) := fun j hj => (Nat.zero_add j).symm ▸ hpass j hj
  cases h with
  | inUseHere huse => exact absurd (Bool.and_eq_true_iff.1 huse) hunused
  | stuck _ hunmounts =>
    obtain ⟨hx, hcalls⟩ := hunmounts.of_failure hperformed hi hpass' hfailed hf
    cases hx
    exact ⟨rfl, hcalls⟩
  | repaired _ hunmounts _ =>
    obtain ⟨mid, hdone, -⟩ := hperformed.append_inv
    cases (hunmounts.of_failure hdone hi hpass' hfailed hf).1

/-- If every entry passes, all are unmounted, and the device goes if it is shared. -/
theorem Handled.of_passes {x : Except Failure Cleanup} (h : Handled host volume mounts device es x)
    (hunused : ¬ (volume.inUse = true ∧ volume.isAttachedTo host = true))
    (hperformed : Program.Performed a.perform 0 es n) (hpass : ∀ i < mounts.length, a.Passes i) :
    ∃ deleted, x = .ok (.repaired mounts.length deleted) ∧
      (deleted = true ↔ SharesDevice volume ∧ a.delete = .ok ()) ∧
      calls es = unmountCalls mounts ++ if SharesDevice volume then [.deleteDevice device] else [] := by
  have hpass' : ∀ i < mounts.length, a.Passes (0 + i) := fun i hi =>
    (Nat.zero_add i).symm ▸ hpass i hi
  cases h with
  | inUseHere huse => exact absurd (Bool.and_eq_true_iff.1 huse) hunused
  | stuck _ hunmounts => cases (hunmounts.of_passes hperformed hpass').1
  | @repaired _ unmounts deletion hunmounts deleted hdeleted =>
    obtain ⟨mid, hdone, hdeletion⟩ := hperformed.append_inv
    obtain ⟨hcalls, htrue⟩ := hdeleted.of_performed hdeletion
    refine ⟨deleted, rfl, htrue, ?_⟩
    rw [calls_append, (hunmounts.of_passes hdone hpass').2, hcalls]

/-- The course of a repair of stale mounts, whatever the collaborators answer. It tears nothing down
unless the answers show stale entries. Then it unmounts the entries in order; a failure that does not say
that its entry is stale ends it, and else the device goes too if it is shared. -/
theorem reconcile_course (name : String) (host : Host) (a : RepairAnswers) :
    ∃ es x n, Ends (reconcile name host) es x ∧ Program.Performed a.perform 0 es n ∧
      ((∀ volume mounts device, ¬ a.Stale host volume mounts device) →
        ∀ ex ∈ es, ¬ ex.effect.TearsDown) ∧
      ∀ volume mounts device, a.Stale host volume mounts device →
        (∀ i < mounts.length, ∀ f, (∀ j < i, a.Passes j) → a.unmount i = .error f → ¬ f.SaysStale →
          x = .error f ∧ calls es = lookCalls name volume ++ unmountCalls (mounts.take (i + 1))) ∧
        ((∀ i < mounts.length, a.Passes i) →
          ∃ deleted, x = .ok (.repaired mounts.length deleted) ∧
            (deleted = true ↔ SharesDevice volume ∧ a.delete = .ok ()) ∧
            calls es = lookCalls name volume ++ (unmountCalls mounts ++
              if SharesDevice volume then [.deleteDevice device] else [])) := by
  obtain ⟨es, x, n, hends, hperformed⟩ :=
    Program.exists_performed a.perform id (within_reconcile name host) 0
  have hrepair : Repair name host es x := ends_reconcile_iff.1 hends
  refine ⟨es, x, n, hends, hperformed, hrepair.calm hperformed, fun volume mounts device hstale => ?_⟩
  obtain ⟨look, handling, rfl, hlook, hhandled, hrest⟩ := hrepair.exists_handled hperformed hstale
  constructor
  · intro i hi f hpass hfailed hf
    obtain ⟨hx, hcalls⟩ := hhandled.of_failure hstale.unused hrest hi hpass hfailed hf
    exact ⟨hx, by rw [calls_append, hlook, hcalls]⟩
  · intro hpass
    obtain ⟨deleted, hx, htrue, hcalls⟩ := hhandled.of_passes hstale.unused hrest hpass
    exact ⟨deleted, hx, htrue, by rw [calls_append, hlook, hcalls]⟩

/-- Two entries behind a group target, the first of which is gone already; the device stays, since its
deletion fails. -/
theorem reconcile_course_two_entries :
    let volume : Volume := { (default : Volume) with serialNumber := "S1", targetScope := .group }
    let gone : Failure := .host "umount: /mnt/a: not mounted (no such file or directory)"
    let answers : RepairAnswers :=
      { get := .ok (.ofVolume volume)
        getMounts := .ok [default, default]
        getDevice := .ok (some default)
        unmount := fun i => if i = 0 then .error gone else .ok ()
        delete := .error default }
    ∃ es n, Ends (reconcile "vol1" default) es (.ok (.repaired 2 false)) ∧
      Program.Performed answers.perform 0 es n ∧
      calls es = [.provider .get (.named "vol1"), .getMounts "S1", .getDevice volume,
        .unmountFileSystem default, .unmountFileSystem default, .deleteDevice default] := by
  intro volume gone answers
  obtain ⟨es, x, n, hends, hperformed, -, hcourse⟩ := reconcile_course "vol1" default answers
  have hstale : answers.Stale default volume [default, default] default :=
    ⟨⟨_, rfl, rfl, rfl⟩, rfl, nofun, rfl, fun h => Bool.false_ne_true h.1⟩
  have hpass : ∀ i, answers.Passes i := by
    intro i f hf
    by_cases hi : i = 0
    · simp only [answers, hi, if_true] at hf
      cases hf
      exact Failure.isStaleEntry_iff.1 (by decide)
    · simp only [answers, hi, if_false] at hf
      cases hf
  obtain ⟨deleted, hx, hdeleted, hcalls⟩ := (hcourse _ _ _ hstale).2 fun i _ => hpass i
  have hkept : deleted = false := by
    simpa [answers] using hdeleted
  rw [hx, hkept] at hends
  exact ⟨es, n, hends, hperformed, hcalls⟩

end Workflow
end VolumeLifecycle
