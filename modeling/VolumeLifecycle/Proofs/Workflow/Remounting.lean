import VolumeLifecycle.Proofs.Program.Determined
import VolumeLifecycle.Proofs.Provider.Memory
import VolumeLifecycle.Proofs.Workflow.CloudRepair

namespace VolumeLifecycle

open Program (Performed Rounds)
open Provider (Store)

variable {v v' : Volume} {host : Host} {name : String}

/-- A volume that keeps its names, its use and its sessions, and may gain sessions. -/
structure Volume.IsKept (v v' : Volume) : Prop where
  name : v'.name = v.name
  serialNumber : v'.serialNumber = v.serialNumber
  inUse : v.inUse = true → v'.inUse = true
  iscsi : v.iscsiSessions ⊆ v'.iscsiSessions
  fc : v'.fcSessions = v.fcSessions

namespace Volume.IsKept

protected theorem refl (v : Volume) : v.IsKept v :=
  ⟨rfl, rfl, fun h => h, List.Subset.refl _, rfl⟩

theorem trans {v'' : Volume} (h : v.IsKept v') (h' : v'.IsKept v'') : v.IsKept v'' :=
  ⟨h'.name.trans h.name, h'.serialNumber.trans h.serialNumber, h'.inUse ∘ h.inUse,
    List.Subset.trans h.iscsi h'.iscsi, h'.fc.trans h.fc⟩

/-- Sessions that are added do not detach anybody. -/
theorem isAttachedTo (h : v.IsKept v') (hattached : v.isAttachedTo host = true) :
    v'.isAttachedTo host = true := by
  simp only [Volume.isAttachedTo, Bool.and_eq_true, Bool.or_eq_true, List.any_eq_true, h.fc]
    at hattached ⊢
  refine hattached.imp_right (Or.imp_left ?_)
  rintro ⟨session, hsession, hmatches⟩
  exact ⟨session, h.iscsi hsession, hmatches⟩

end Volume.IsKept

namespace Provider.Store

variable {s : Store}

theorem isKept_mounted (r : Request) (v : Volume) : v.IsKept (mounted r v) := by
  refine ⟨rfl, rfl, fun _ => rfl, ?_, rfl⟩
  unfold mounted
  cases initiators r with
  | nil => exact List.Subset.refl _
  | cons initiator _ =>
    dsimp only [join]
    split
    · exact List.Subset.refl _
    · exact List.subset_append_left _ _

/-- A change that keeps every volume keeps each of those that are stored. -/
theorem change_keeps {f : Volume → Volume} (hf : ∀ u : Volume, u.IsKept (f u))
    (h : s.volumes.get? name = some v) (key : String) :
    ∃ v', (s.change key f).2.volumes.get? name = some v' ∧ v.IsKept v' := by
  cases hkey : s.volumes.get? key with
  | none =>
    rw [change_of_none hkey]
    exact ⟨v, h, .refl v⟩
  | some u =>
    rw [change_of_some hkey]
    by_cases hname : name = key
    · subst hname
      cases h.symm.trans hkey
      exact ⟨f v, (Dict.get?_insert _ _ _ _).trans (if_pos rfl), hf v⟩
    · exact ⟨v, (Dict.get?_insert _ _ _ _).trans ((if_neg hname).trans h), .refl v⟩

end Provider.Store

/-- An effect that takes time, or that attaches, mounts or tears down something. Neither look-ups nor the
provider's mount and update do so. -/
def Effect.Disturbs : Effect → Prop
  | .describeHost => False
  | .now => False
  | .sleep _ => True
  | .removeDirectory _ => True
  | .call c => match c.kind with
    | .provider .get => False
    | .provider .mount => False
    | .provider .update => False
    | .getMounts => False
    | .getDevice => False
    | _ => True

/-- Whatever tears something down disturbs. -/
theorem Effect.TearsDown.disturbs {e : Effect} (h : e.TearsDown) : e.Disturbs := by
  cases e with
  | call call => cases call <;> first | exact True.intro | exact h.elim nofun nofun
  | _ => exact h.elim

namespace Testbed

variable {c : Config} {t : Testbed}

/-- Nothing fails, and no reply is laid out. -/
structure Flawless (t : Testbed) : Prop where
  node : t.hostFailure = none
  failures : ∀ k, t.failures k = none
  script : ∀ k, t.script k = []

/-- Flawless surroundings describe this node and stay as they are. -/
theorem Flawless.performed_describeHost_iff (h : t.Flawless) {reply : Except Failure Host}
    {rest : List Exchange} {t' : Testbed} :
    Performed perform t (⟨.describeHost, reply⟩ :: rest) t' ↔
      reply = .ok t.host ∧ Performed perform t rest t' := by
  have hdescribe : t.describe = .ok t.host := by
    simp only [describe, h.node]
  exact Performed.cons_iff (congrArg (·, t) hdescribe)

theorem Flawless.respond (h : t.Flawless) (call : Call) : t.respond call = t.serveReply call := by
  rw [Testbed.respond, h.script]
  dsimp only
  rw [h.failures]

/-- Without faults a call gets the answer that it has by itself. -/
theorem Flawless.performed_call_iff (h : t.Flawless) {call : Call} {answer : call.Answer}
    {served : Testbed} (hserve : t.serve call = (answer, served)) {reply : call.Reply}
    {rest : List Exchange} {t' : Testbed} :
    Performed perform t (⟨.call call, reply⟩ :: rest) t' ↔
      reply = .ok answer ∧ Performed perform served rest t' := by
  refine Performed.cons_iff ((h.respond call).trans ?_)
  rw [serveReply, hserve]
  rfl

theorem Flawless.withStore (h : t.Flawless) (s : Store) : Flawless { t with store := s } :=
  ⟨h.node, h.failures, h.script⟩

/-- A volume is in use, the node is attached to it and has its device, and among the mounts of its serial
number there is a healthy one where it belongs. -/
structure HasMounted (c : Config) (name : String) (v : Volume) (t : Testbed) : Prop where
  stored : t.store.volumes.get? name = some v
  inUse : v.inUse = true
  attached : v.isAttachedTo t.host = true
  device : (t.table.find? v).isSome
  healthy : (t.table.mountsOf v.serialNumber).any (·.servesAt (c.mountpointFor v.name)) = true

theorem HasMounted.mounts_ne_nil (h : t.HasMounted c name v) :
    t.table.mountsOf v.serialNumber ≠ [] := by
  intro hnil
  simpa [hnil] using h.healthy

theorem HasMounted.serve_get (h : t.HasMounted c name v) :
    t.serve (.provider .get (.named name)) = (.ofVolume v, t) := by
  have hserve : t.store.serve .get (.named name) = (.ofVolume v, t.store) := Store.serve_get h.stored
  rw [serve, hserve]

/-- A volume that has been kept is still mounted, since nothing else says where it is. -/
theorem HasMounted.of_isKept (h : t.HasMounted c name v) (hkept : v.IsKept v') {s : Store}
    (hstored : s.volumes.get? name = some v') : HasMounted c name v' { t with store := s } where
  stored := hstored
  inUse := hkept.inUse h.inUse
  attached := hkept.isAttachedTo h.attached
  device := by
    rw [DeviceTable.find?, hkept.serialNumber]
    exact h.device
  healthy := by
    rw [hkept.serialNumber, hkept.name]
    exact h.healthy

/-- Surroundings that have come to differ in what the provider stores alone, and there keep a volume. -/
def Keeps (name : String) (v : Volume) (t t' : Testbed) : Prop :=
  ∃ s v', t' = { t with store := s } ∧ s.volumes.get? name = some v' ∧ v.IsKept v'

/-- However often a mount is asked for again, it comes to its end, answers the mountpoint, disturbs
nothing, and leaves devices and mounts as they are. -/
def RemountsQuietly (c : Config) (current : Host) (request : Runtime.MountRequest) (mountpoint : Path)
    (t : Testbed) : Prop :=
  ∀ n, (∃ rounds t', rounds.length = n ∧
      Rounds perform (Command.program c current (.mount request)) t rounds t') ∧
    ∀ rounds t', rounds.length = n →
      Rounds perform (Command.program c current (.mount request)) t rounds t' →
      t'.table = t.table ∧ ∀ round ∈ rounds, round.2 = .mounted ⟨mountpoint.text, ""⟩ ∧
        ∀ ex ∈ round.1, ¬ ex.effect.Disturbs

end Testbed

namespace Workflow

variable {c : Config} {opts : Dict Json} {options : Options} {node : Host} {es : List Exchange}

def Unmarked (u : Volume) (marking : List Exchange) : Prop :=
  if u.hasDelayedCreate then
    ∃ reply : Except Failure Provider.Response,
      marking = [⟨.call (.provider .update (((Provider.Request.named u.name).withOpt
        Volume.delayedCreateKey .null).withOpt Volume.filesystemKey .null)), reply⟩]
  else marking = []

/-- The part inside of the gate, if a healthy mount is found. -/
theorem ends_mountLocked_reused {r : Request} {reply : Except Failure Provider.Response} {u : Volume}
    (hreply : shown r.name reply = .ok u) {mounts : List Mount}
    (hserves : mounts.any (·.servesAt (c.mountpointFor u.name)) = true) {marking : List Exchange}
    (hmarking : Unmarked u marking) :
    Ends (mountLocked c r)
      (⟨.call (.provider .mount (providerRequest c r)), reply⟩ ::
        ⟨.call (.getMounts u.serialNumber), Except.ok mounts⟩ :: marking)
      (.ok (c.mountpointFor u.name)) := by
  have hprovider : Ends (mountOnProvider r (providerRequest c r))
      [⟨.call (.provider .mount (providerRequest c r)), reply⟩] (.ok (mountedHere u)) :=
    ends_mountOnProvider_iff.2 ⟨reply, rfl, by rw [hreply]⟩
  have honHost : Ends (mountOnHost (mountedHere u) (c.mountpointFor u.name))
      [⟨.call (.getMounts u.serialNumber), Except.ok mounts⟩] (.ok .reused) := by
    refine ends_call_bind_iff.2 (.inr ⟨mounts, [], rfl, ?_⟩)
    simp only [hserves, if_true]
    exact ends_pure_iff.2 ⟨rfl, rfl⟩
  refine ends_bind_iff.2 (.inr ⟨_, _, _, rfl, hprovider, ?_⟩)
  refine ends_result_bind_iff.2 ⟨.ok .reused, _, marking, rfl, honHost, ?_⟩
  have hsame : (mountedHere u).hasDelayedCreate = u.hasDelayedCreate := rfl
  unfold Unmarked at hmarking
  cases hmarked : u.hasDelayedCreate with
  | true =>
    simp only [hmarked, if_true] at hmarking
    obtain ⟨cleared, rfl⟩ := hmarking
    simp only [hsame, hmarked, if_true]
    exact ends_provideBestEffort_bind_iff.2 ⟨cleared, [], rfl, ends_pure_iff.2 ⟨rfl, rfl⟩⟩
  | false =>
    simp only [hmarked, Bool.false_eq_true, if_false] at hmarking
    subst hmarking
    simp only [hsame, hmarked, Bool.false_eq_true, if_false]
    exact ends_pure_iff.2 ⟨rfl, rfl⟩

/-- Whoever the collaborators are: if their replies show a volume in use and attached to the node by which
the mount goes, with mounts and a device, and then a healthy mount at its mountpoint, the mount ends there
and has only looked and told the provider. -/
theorem ends_mount_reused (hoptions : checkedOptions name opts = .ok options)
    (hnode : mountNode c options host = .ok node) (first asked reply : Except Failure Provider.Response)
    (hfirst : shown name first = .ok v) (hinUse : v.inUse = true)
    (hattached : v.isAttachedTo node = true) {mounts : List Mount} (hmounts : mounts ≠ [])
    (device : Device) (time : Nat) {verdict : Conflict.Verdict}
    (hasked : Conflict.judgeReply name node asked = some verdict) {u : Volume}
    (hreply : shown name reply = .ok u) {mounts' : List Mount}
    (hserves : mounts'.any (·.servesAt (c.mountpointFor u.name)) = true) {marking : List Exchange}
    (hmarking : Unmarked u marking) :
    Ends (mount c name opts)
      (⟨.describeHost, Except.ok host⟩ ::
        ⟨.call (.provider .get (.named name)), first⟩ ::
        ⟨.call (.getMounts v.serialNumber), Except.ok mounts⟩ ::
        ⟨.call (.getDevice v), Except.ok (some device)⟩ ::
        ⟨.now, time⟩ ::
        ⟨.call (.provider .get (.named name)), asked⟩ ::
        ⟨.call (.provider .mount (providerRequest c ⟨name, options, node⟩)), reply⟩ ::
        ⟨.call (.getMounts u.serialNumber), Except.ok mounts'⟩ :: marking)
      (.ok (c.mountpointFor u.name)) := by
  have hrepair : Repair name node
      [⟨.call (.provider .get (.named name)), first⟩,
        ⟨.call (.getMounts v.serialNumber), Except.ok mounts⟩,
        ⟨.call (.getDevice v), Except.ok (some device)⟩] (.ok .inUseHere) :=
    .listed first hfirst hmounts (.found device (.inUseHere (by rw [hinUse, hattached]; rfl)))
  have hwait : Ends (awaitConflict c .mount ⟨name, options, node⟩)
      [⟨.now, time⟩, ⟨.call (.provider .get (.named name)), asked⟩] (.ok verdict) :=
    ends_await_of_settled .mount _ _ time hasked
  refine (ends_mount_described_iff hoptions hnode).2 ?_
  refine ends_bind_iff.2 (.inr ⟨_, _, _, rfl, ends_reconcile_iff.2 hrepair, ?_⟩)
  refine ends_bind_iff.2 (.inr ⟨_, _, _, rfl, hwait, ends_enter_bind_iff.2 ?_⟩)
  exact ends_mountLocked_reused hreply hserves hmarking

variable {t t' : Testbed}

/-- The end of a mount clears the marker, if there is one, and keeps every volume. -/
theorem exists_unmarked (h : t.Flawless) (hv : t.store.volumes.get? name = some v) (u : Volume) :
    ∃ marking s v', Unmarked u marking ∧
      Performed Testbed.perform t marking { t with store := s } ∧
      (∀ ex ∈ marking, ¬ ex.effect.Disturbs) ∧ s.volumes.get? name = some v' ∧ v.IsKept v' := by
  unfold Unmarked
  cases u.hasDelayedCreate with
  | false => exact ⟨[], t.store, v, rfl, .nil t, List.forall_mem_nil _, hv, .refl v⟩
  | true =>
    let request := ((Provider.Request.named u.name).withOpt Volume.delayedCreateKey .null).withOpt
      Volume.filesystemKey .null
    obtain ⟨v', hv', hkept⟩ := Store.change_keeps (f := fun w =>
        { w with status := request.opts.entries.foldl Store.updateStatus w.status })
      (fun w => ⟨rfl, rfl, id, List.Subset.refl _, rfl⟩) hv u.name
    refine ⟨_, (t.store.serve .update request).2, v', ⟨.ok (t.store.serve .update request).1, rfl⟩,
      (h.performed_call_iff rfl).2 ⟨rfl, .nil _⟩, ?_, hv', hkept⟩
    exact List.forall_mem_singleton.2 id

/-- A mount of a volume that is mounted already, by a node to which the volume is attached, changes no
more than what the provider knows, and keeps the volume. -/
theorem remount_step (h : t.Flawless) (hmounted : t.HasMounted c name v)
    (hoptions : checkedOptions name opts = .ok options)
    (hnode : mountNode c options t.host = .ok node) (hattached : v.isAttachedTo node = true) :
    ∃ es s v', Ends (mount c name opts) es (.ok (c.mountpointFor v.name)) ∧
      Performed Testbed.perform t es { t with store := s } ∧
      (∀ ex ∈ es, ¬ ex.effect.Disturbs) ∧ s.volumes.get? name = some v' ∧ v.IsKept v' := by
  obtain ⟨device, hdevice⟩ := Option.isSome_iff_exists.1 hmounted.device
  let request := providerRequest c ⟨name, options, node⟩
  let u := Store.mounted request v
  let s₁ : Store := { t.store with volumes := t.store.volumes.insert name u }
  have hkept : v.IsKept u := Store.isKept_mounted request v
  have hu : s₁.volumes.get? name = some u := (Dict.get?_insert _ _ _ _).trans (if_pos rfl)
  have hmount : t.serve (.provider .mount request) = (.ofVolume u, { t with store := s₁ }) := by
    rw [Testbed.serve, Store.serve_mount (r := request) hmounted.stored]
    rfl
  have hasked : Conflict.judgeReply name node (.ok (.ofVolume v)) = some .attachedHere := by
    have hjudge : Conflict.judge node v = some .attachedHere := by
      simp [Conflict.judge, hmounted.inUse, hattached]
    exact hjudge
  obtain ⟨marking, s, v', hmarking, hcleared, hcalm, hv', hkept'⟩ :=
    exists_unmarked (h.withStore s₁) hu u
  have hserves : (t.table.mountsOf v.serialNumber).any (·.servesAt (c.mountpointFor u.name)) = true :=
    hmounted.healthy
  refine ⟨_, s, v', ends_mount_reused hoptions hnode (.ok (.ofVolume v)) (.ok (.ofVolume v))
    (.ok (.ofVolume u)) rfl hmounted.inUse hattached hmounted.mounts_ne_nil device t.clock hasked rfl
    hserves hmarking, ?_, ?_, hv', hkept.trans hkept'⟩
  · refine h.performed_describeHost_iff.2 ⟨rfl, ?_⟩
    refine (h.performed_call_iff hmounted.serve_get).2 ⟨rfl, ?_⟩
    refine (h.performed_call_iff rfl).2 ⟨rfl, ?_⟩
    refine (h.performed_call_iff rfl).2 ⟨congrArg Except.ok hdevice.symm, .cons ?_⟩
    refine (h.performed_call_iff hmounted.serve_get).2 ⟨rfl, ?_⟩
    refine (h.performed_call_iff hmount).2 ⟨rfl, ?_⟩
    exact ((h.withStore s₁).performed_call_iff rfl).2 ⟨rfl, hcleared⟩
  · iterate 8 refine List.forall_mem_cons.2 ⟨id, ?_⟩
    exact hcalm

/-- A mount by a node to which the volume is not attached tears down what it finds. -/
theorem disturbs_of_unattached (h : t.Flawless) (hmounted : t.HasMounted c name v)
    (hoptions : checkedOptions name opts = .ok options)
    (hnode : mountNode c options t.host = .ok node) (hattached : v.isAttachedTo node = false)
    {x : Except Failure Path} (hends : Ends (mount c name opts) es x)
    (hperformed : Performed Testbed.perform t es t') : ∃ ex ∈ es, ex.effect.Disturbs := by
  obtain ⟨es', rfl, hafter⟩ : ∃ es', es = ⟨.describeHost, Except.ok t.host⟩ :: es' ∧
      Performed Testbed.perform t es' t' := by
    have hgather := hends
    rw [mount, gatherMount, bind_assoc, ends_gather_bind_iff, hoptions] at hgather
    obtain ⟨described, es', rfl, -⟩ := hgather
    obtain ⟨rfl, hafter⟩ := h.performed_describeHost_iff.1 hperformed
    exact ⟨es', rfl, hafter⟩
  obtain ⟨repair, later, y, rfl, hrepair⟩ := repair_of_mount hoptions hnode hends
  obtain ⟨mid, hrepaired, -⟩ := hafter.append_inv
  suffices htears : ∃ ex ∈ repair, ex.effect.TearsDown by
    obtain ⟨ex, hex, htears⟩ := htears
    exact ⟨ex, List.mem_cons_of_mem _ (List.mem_append_left _ hex), htears.disturbs⟩
  -- Every look-up shows what is there, so the repair finds the mounts and the device.
  cases hrepair with
  | unresolved reply hreply =>
    obtain ⟨rfl, -⟩ := (h.performed_call_iff hmounted.serve_get).1 hrepaired
    cases hreply
  | unlisted reply hreply f =>
    obtain ⟨-, hlisted⟩ := (h.performed_call_iff hmounted.serve_get).1 hrepaired
    cases ((h.performed_call_iff rfl).1 hlisted).1
  | nothing reply hreply =>
    obtain ⟨rfl, hlisted⟩ := (h.performed_call_iff hmounted.serve_get).1 hrepaired
    cases hreply
    have hnil := Except.ok.inj ((h.performed_call_iff rfl).1 hlisted).1
    exact absurd hnil.symm hmounted.mounts_ne_nil
  | listed reply hreply hmounts hsought =>
    obtain ⟨rfl, hlisted⟩ := (h.performed_call_iff hmounted.serve_get).1 hrepaired
    cases hreply
    obtain ⟨-, hasked⟩ := (h.performed_call_iff rfl).1 hlisted
    cases hsought with
    | unasked f => cases ((h.performed_call_iff rfl).1 hasked).1
    | missing =>
      have hnone : none = t.table.find? v := Except.ok.inj ((h.performed_call_iff rfl).1 hasked).1
      have hdevice := hmounted.device
      rw [← hnone] at hdevice
      cases hdevice
    | found device hhandled =>
      obtain ⟨ex, hex, htears⟩ :=
        (hhandled.tearsDown_iff hmounts).2 (by rw [hattached, Bool.and_false])
      exact ⟨ex, List.mem_cons_of_mem _ (List.mem_cons_of_mem _ (List.mem_cons_of_mem _ hex)), htears⟩

/-- The volume is attached to the node that a mount goes by, unless in cloud mode it is attached through
interfaces that are not wanted and by nothing else. -/
theorem isAttachedTo_mountNode_iff (hnode : mountNode c options host = .ok node)
    (hattached : v.isAttachedTo host = true) :
    v.isAttachedTo node = true ↔ (c.cloudMode = true → v.namesInitiatorOf host = true ∨
      ∃ names, options.initiators = some names ∧
        ∃ i ∈ host.networkInterfaces, isWanted names i = true ∧ v.isReachedFrom i = true) := by
  unfold mountNode at hnode
  cases hcloud : c.cloudMode with
  | false =>
    rw [hcloud, if_neg Bool.false_ne_true] at hnode
    exact iff_of_true (Except.ok.inj hnode ▸ hattached) nofun
  | true =>
    rw [hcloud, if_pos rfl] at hnode
    obtain ⟨names, hwanted, -, rfl⟩ := restrictTo_eq_ok_iff.1 hnode
    have hinitiators := (Volume.isAttachedTo_iff.1 hattached).1
    rw [Volume.isAttachedTo_iff]
    change host.hasInitiators = true ∧ (v.namesInitiatorOf host = true ∨ _) ↔ _
    simp only [hinitiators, hwanted, true_and, forall_const, List.mem_filter, and_assoc,
      Option.some.injEq, exists_eq_left']

/-- Mounting a volume again that is mounted already, with whatever options have been accepted, disturbs
nothing however often it is done, if and only if the node is not in cloud mode, or a session of the volume
names an initiator of this node, or a session comes from one of the wanted interfaces. -/
theorem remountsQuietly_iff {current : Host} {request : Runtime.MountRequest}
    (h : t.Flawless) (hmounted : t.HasMounted c request.name v)
    (hoptions : checkedOptions request.name request.opts = .ok options)
    (hnode : mountNode c options t.host = .ok node) :
    t.RemountsQuietly c current request (c.mountpointFor v.name) ↔
      (c.cloudMode = true → v.namesInitiatorOf t.host = true ∨
        ∃ names, options.initiators = some names ∧
          ∃ i ∈ t.host.networkInterfaces, isWanted names i = true ∧ v.isReachedFrom i = true) := by
  rw [← isAttachedTo_mountNode_iff hnode hmounted.attached]
  constructor
  · intro hquiet
    cases hattached : v.isAttachedTo node with
    | true => rfl
    | false =>
      obtain ⟨⟨rounds, t', hlength, hrounds⟩, hall⟩ := hquiet 1
      obtain ⟨-, hcalm⟩ := hall rounds t' hlength hrounds
      cases hrounds with
      | nil => cases hlength
      | cons hrun hperformed _ =>
        obtain ⟨result, hends, -⟩ := Command.runs_answering_iff.1 hrun
        obtain ⟨ex, hex, hdisturbs⟩ :=
          disturbs_of_unattached h hmounted hoptions hnode hattached hends hperformed
        exact absurd hdisturbs ((hcalm _ List.mem_cons_self).2 ex hex)
  · intro hattached
    -- A mount may add a session or clear the marker, so the invariant is not that the state stays.
    have hstep : ∀ t₁, t.Keeps request.name v t₁ → ∃ es a t₂,
        (Command.program c current (.mount request)).Runs es (some a) ∧
          Performed Testbed.perform t₁ es t₂ ∧
          (a = .mounted ⟨(c.mountpointFor v.name).text, ""⟩ ∧ ∀ ex ∈ es, ¬ ex.effect.Disturbs) ∧
          t.Keeps request.name v t₂ := by
      rintro _ ⟨s, v', rfl, hv', hkept⟩
      obtain ⟨es, s', v'', hends, hperformed, hcalm, hv'', hkept'⟩ :=
        remount_step (h.withStore s) (hmounted.of_isKept hkept hv') hoptions hnode
          (hkept.isAttachedTo hattached)
      rw [hkept.name] at hends
      exact ⟨es, _, _, Command.runs_answering_iff.2 ⟨_, hends, rfl⟩, hperformed, ⟨rfl, hcalm⟩,
        s', v'', rfl, hv'', hkept.trans hkept'⟩
    obtain ⟨hexists, hall⟩ := Program.rounds_of_invariant hstep
      (w := t) ⟨t.store, v, rfl, hmounted.stored, .refl v⟩
    refine fun n => ⟨hexists n, fun rounds t' _ hrounds => ?_⟩
    obtain ⟨⟨s, v', rfl, -⟩, hcalm⟩ := hall hrounds
    exact ⟨rfl, hcalm⟩

theorem flawless_twoInterfaces : twoInterfaces.Flawless :=
  ⟨rfl, fun _ => rfl, fun _ => rfl⟩

theorem hasMounted_twoInterfaces : twoInterfaces.HasMounted inCloud "v" behindGateway :=
  ⟨rfl, rfl, rfl, rfl, rfl⟩

/-- The mount of the volume there that wants the second interface, through which it is in use. -/
def wantingSecond : Runtime.MountRequest :=
  { name := "v", opts := .ofList [("initiators", .string "eth1")] }

/-- A volume that is used through the interface which the next mount wants. -/
theorem remountsQuietly_iff_wanted :
    let narrowed := { twoInterfaces.host with networkInterfaces := [⟨"eth1", "10.0.1.5", ""⟩] }
    twoInterfaces.Flawless ∧ twoInterfaces.HasMounted inCloud "v" behindGateway ∧
      checkedOptions wantingSecond.name wantingSecond.opts = .ok { initiators := some ["eth1"] } ∧
      mountNode inCloud { initiators := some ["eth1"] } twoInterfaces.host = .ok narrowed ∧
      twoInterfaces.RemountsQuietly inCloud twoInterfaces.host wantingSecond
        ⟨"/var/lib/volagent/mounts/v"⟩ := by
  have hoptions : checkedOptions wantingSecond.name wantingSecond.opts =
      .ok { initiators := some ["eth1"] } := rfl
  have hnode : mountNode inCloud { initiators := some ["eth1"] } twoInterfaces.host =
      .ok { twoInterfaces.host with networkInterfaces := [⟨"eth1", "10.0.1.5", ""⟩] } := rfl
  refine ⟨flawless_twoInterfaces, hasMounted_twoInterfaces, hoptions, hnode, ?_⟩
  refine (remountsQuietly_iff flawless_twoInterfaces hasMounted_twoInterfaces hoptions
    hnode).2 fun _ => .inr ⟨["eth1"], rfl, ?_⟩
  exact ⟨⟨"eth1", "10.0.1.5", ""⟩, by decide, rfl, rfl⟩

/-- The volume is mounted there, but the first further mount, which wants the other interface, unmounts
it. -/
theorem unwanted_remount_disturbs :
    let narrowed := { twoInterfaces.host with networkInterfaces := [⟨"eth0", "10.0.0.5", ""⟩] }
    twoInterfaces.Flawless ∧ twoInterfaces.HasMounted inCloud "v" behindGateway ∧
      checkedOptions wantingFirst.name wantingFirst.opts = .ok { initiators := some ["eth0"] } ∧
      mountNode inCloud { initiators := some ["eth0"] } twoInterfaces.host = .ok narrowed ∧
      ¬ twoInterfaces.RemountsQuietly inCloud twoInterfaces.host wantingFirst
        ⟨"/var/lib/volagent/mounts/v"⟩ := by
  refine ⟨flawless_twoInterfaces, hasMounted_twoInterfaces, rfl, rfl, fun hquiet => ?_⟩
  have hround : Rounds Testbed.perform
      (Command.program inCloud twoInterfaces.host (.mount wantingFirst)) twoInterfaces
      [(mountingFirst.exchanges, .mounted ⟨"/var/lib/volagent/mounts/v", ""⟩)]
      mountingFirst.world :=
    .cons (Program.trace_runs Testbed.perform 20 _ _) (Program.trace_performed Testbed.perform 20 _ _)
      (.nil _)
  have hunmount : ⟨.call (.unmountFileSystem ⟨"/var/lib/volagent/mounts/v"⟩), Except.ok ()⟩ ∈
      mountingFirst.exchanges := List.mem_of_getElem? (i := 4) rfl
  exact (((hquiet 1).2 _ _ rfl hround).2 _ List.mem_cons_self).2 _ hunmount trivial

end Workflow
end VolumeLifecycle
