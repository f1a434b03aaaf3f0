import VolumeLifecycle.Proofs.Testbed.Injection
import VolumeLifecycle.Proofs.Workflow.MountCourse

namespace VolumeLifecycle

open Program (Performed)
open Provider (Store)

/-- A volume that nobody uses and of which this node has nothing. -/
structure Volume.IsUnused (v : Volume) (store : Store) (table : DeviceTable) : Prop where
  inUse : v.inUse = false
  iscsi : v.iscsiSessions = []
  fc : v.fcSessions = []
  message : store.unmountMessage = ""
  mounts : table.mountsOf v.serialNumber = []
  device : table.devices.get? v.serialNumber = none

namespace Provider.Store

variable {s : Store} {r : Request} {v : Volume}

/-- A volume without sessions is as it was once it has been mounted and released by the same
request. -/
theorem released_mounted (r : Request) (hinUse : v.inUse = false) (hiscsi : v.iscsiSessions = [])
    (hfc : v.fcSessions = []) : released r (mounted r v) = v := by
  have hsessions : (mounted r v).iscsiSessions.filter
      (fun s => !(initiators r).contains s.initiatorName) = [] := by
    unfold mounted
    cases hinitiators : initiators r with
    | nil => simp [hiscsi]
    | cons first rest => simp [hiscsi, join]
  unfold released
  dsimp only
  rw [hsessions]
  obtain ⟨_, _, _, _, _, _, _, _, _, _, _⟩ := v
  subst hinUse hiscsi hfc
  rfl

/-- An unmount by the request that has mounted an unused volume brings the volumes back. -/
theorem serve_unmount_mounted (h : s.volumes.get? r.name = some v) (hinUse : v.inUse = false)
    (hiscsi : v.iscsiSessions = []) (hfc : v.fcSessions = []) (hmessage : s.unmountMessage = "") :
    (serve { s with volumes := s.volumes.insert r.name (mounted r v) } .unmount r).1.message = "" ∧
      (serve { s with volumes := s.volumes.insert r.name (mounted r v) } .unmount r).2 = s := by
  obtain ⟨volumes, message⟩ := s
  obtain rfl : message = "" := hmessage
  have hget : (volumes.insert r.name (mounted r v)).get? r.name = some (mounted r v) := by
    rw [Dict.get?_insert, if_pos rfl]
  unfold serve unmount
  dsimp only
  rw [change_of_some hget]
  simp only [if_true, released_mounted r hinUse hiscsi hfc, Dict.insert_insert, Dict.insert_get? h]
  exact ⟨rfl, rfl⟩

end Provider.Store

namespace Workflow

open Testbed (Stands)

variable {store : Store} {table : DeviceTable} {files : FileTree} {t t' : Testbed}
  {es : List Exchange} {name : String} {v : Volume}

/-- Gathering the inputs of a mount changes nothing. -/
theorem gatherMount_keeps {c : Config} {opts : Dict Json} {x : Except Failure Request}
    (h : Stands store table files t) (hends : Ends (gatherMount c name opts) es x)
    (hperformed : Performed Testbed.perform t es t') : Stands store table files t' := by
  have hdescribe : ∀ ex ∈ es, .describeHost = ex.effect :=
    (within_gatherMount rfl c name opts).effects hends
  clear hends
  induction es generalizing t with
  | nil => rwa [hperformed.nil_inv]
  | cons ex rest ih =>
    have heffect := hdescribe ex List.mem_cons_self
    obtain ⟨s, hrest, hs⟩ := h.idle_inv (.inl heffect.symm) hperformed
    exact ih hs hrest fun ex hex => hdescribe ex (List.mem_cons_of_mem _ hex)

/-- The provider is asked for a volume that it has. -/
theorem get_inv (h : Stands store table files t) (hv : store.volumes.get? name = some v)
    {reply : Except Failure Provider.Response} {rest : List Exchange}
    (hperformed : Performed Testbed.perform t
      (⟨.call (.provider .get (.named name)), reply⟩ :: rest) t') :
    reply = .ok (.ofVolume v) ∧
      ∃ s, Performed Testbed.perform s rest t' ∧ Stands store table files s := by
  have hserve : store.serve .get (.named name) = (.ofVolume v, store) := Store.serve_get hv
  have hget : Provider.Op.get ≠ .mount := nofun
  have hserved := h.provider_inv hget hperformed
  rwa [hserve] at hserved

/-- There is nothing to repair of a volume without mount entries. -/
theorem reconcile_keeps {host : Host} {x : Except Failure Cleanup}
    (h : Stands store table files t) (hv : store.volumes.get? name = some v)
    (hmounts : table.mountsOf v.serialNumber = []) (hends : Ends (reconcile name host) es x)
    (hperformed : Performed Testbed.perform t es t') : Stands store table files t' := by
  rcases ends_call_bind_iff.1 hends with ⟨e, -, rfl⟩ | ⟨response, es₁, rfl, hfound⟩
  · cases (get_inv h hv hperformed).1
  obtain ⟨hreply, s, hafter, hs⟩ := get_inv h hv hperformed
  obtain rfl : response = .ofVolume v := Except.ok.inj hreply
  rcases ends_call_bind_iff.1 hfound with ⟨e, -, rfl⟩ | ⟨mounts, es₂, rfl, hlooked⟩
  · obtain ⟨-, s, hdone, hs⟩ := hs.getMounts_inv hafter
    rwa [hdone.nil_inv]
  obtain ⟨hshown, s, hdone, hs⟩ := hs.getMounts_inv hafter
  obtain rfl : mounts = [] := (hshown mounts rfl).trans hmounts
  obtain ⟨rfl, -⟩ := ends_pure_iff.1 hlooked
  rwa [hdone.nil_inv]

/-- Nobody has to be waited for if the volume is not in use. -/
theorem awaitConflict_keeps {c : Config} {kind : Conflict.Kind} {r : Request}
    {x : Except Failure Conflict.Verdict} (h : Stands store table files t)
    (hv : store.volumes.get? r.name = some v) (hinUse : v.inUse = false)
    (hends : Ends (awaitConflict c kind r) es x) (hperformed : Performed Testbed.perform t es t') :
    Stands store table files t' := by
  obtain ⟨time, reply, rest, rfl, hsettled⟩ := ends_await_start hends
  obtain ⟨s, hperformed, hs⟩ := h.idle_inv (.inr rfl) hperformed
  obtain ⟨rfl, s, hperformed, hs⟩ := get_inv hs hv hperformed
  have hfree : Conflict.judgeReply r.name r.host (.ok (.ofVolume v)) = some .free := by
    simp [Conflict.judgeReply, Provider.Response.intoVolume, Provider.Response.check,
      Provider.Response.ofVolume, Conflict.judge, hinUse]
  obtain rfl := hsettled .free hfree
  rwa [hperformed.nil_inv]

/-- The devices and mounts of a node on which a volume has been attached at most. -/
inductive AtMostAttached (u : Volume) (table : DeviceTable) : DeviceTable → Prop where
  | untouched : AtMostAttached u table table
  | attached : AtMostAttached u table (table.put (DeviceTable.deviceOf u .attached))

/-- A creation of a filesystem that fails has attached the volume, or has not come so far. -/
theorem creationFails_keeps {u : Volume} {mountpoint : Path} {filesystem : String} {e : Failure}
    (h : Stands store table files t) (hfails : CreationFails u mountpoint filesystem es e)
    (hperformed : Performed Testbed.perform t es t') :
    ∃ table', AtMostAttached u table table' ∧ Stands store table' files t' := by
  cases hfails with
  | attach =>
    obtain ⟨s, hdone, hs⟩ := h.failed_inv hperformed
    exact ⟨_, .untouched, by rwa [hdone.nil_inv]⟩
  | noDevice => cases (h.attach_inv hperformed).1
  | setup d more =>
    obtain ⟨-, s, hattached, hs⟩ := h.attach_inv hperformed
    obtain ⟨s, hdone, hs⟩ := hs.failed_inv hattached
    exact ⟨_, .attached, by rwa [hdone.nil_inv]⟩
  | mount d more =>
    obtain ⟨-, s, hattached, hs⟩ := h.attach_inv hperformed
    obtain ⟨s, hset, hs⟩ := hs.setup_inv hattached
    obtain ⟨s, hdone, hs⟩ := hs.failed_inv hset
    exact ⟨_, .attached, by rwa [hdone.nil_inv]⟩

/-- This node's part of a mount that fails has attached the volume at most. -/
theorem hostFails_keeps {u : Volume} {mountpoint : Path} {e : Failure}
    (h : Stands store table files t) (hfails : HostFails u mountpoint es e)
    (hperformed : Performed Testbed.perform t es t') :
    ∃ table', AtMostAttached u table table' ∧ Stands store table' files t' := by
  cases hfails with
  | lookup =>
    obtain ⟨s, hdone, hs⟩ := h.failed_inv hperformed
    exact ⟨_, .untouched, by rwa [hdone.nil_inv]⟩
  | mount mounts =>
    obtain ⟨-, s, hlooked, hs⟩ := h.getMounts_inv hperformed
    obtain ⟨s, hdone, hs⟩ := hs.failed_inv hlooked
    exact ⟨_, .untouched, by rwa [hdone.nil_inv]⟩
  | creation mounts hmounts hfilesystem refusal hrest =>
    obtain ⟨-, s, hlooked, hs⟩ := h.getMounts_inv hperformed
    obtain ⟨s, htried, hs⟩ := hs.failed_inv hlooked
    exact creationFails_keeps hs hrest htried

/-- A release gives back what was attached, and does nothing if that is nothing. -/
theorem released_restores {request : Provider.Request} {u : Volume} {table' : DeviceTable}
    (hdevice : table.devices.get? u.serialNumber = none) (hattached : AtMostAttached u table table')
    (h : Stands store table' files t) (hreleased : Released u request es)
    (hperformed : Performed Testbed.perform t es t') : Stands store table files t' := by
  have hdetach : Provider.Op.detach ≠ .mount := nofun
  have hfound : (table.put (DeviceTable.deviceOf u .attached)).find? u =
      some (DeviceTable.deviceOf u .attached) := by
    simp [DeviceTable.find?, DeviceTable.put, DeviceTable.deviceOf, Dict.get?_insert]
  have hdeleted : (table.put (DeviceTable.deviceOf u .attached)).delete
      (DeviceTable.deviceOf u .attached) = table :=
    congrArg (DeviceTable.mk · table.mounts) (Dict.erase_insert hdevice _)
  cases hreleased with
  | found d offlined deleted detached =>
    obtain ⟨hlookup, s, hlooked, hs⟩ := h.getDevice_inv hperformed
    cases hattached with
    | untouched => cases (Except.ok.inj hlookup).trans hdevice
    | attached =>
      obtain rfl : d = DeviceTable.deviceOf u .attached :=
        Option.some.inj ((Except.ok.inj hlookup).trans hfound)
      obtain ⟨s, hofflined, hs⟩ := hs.offline_inv hlooked
      obtain ⟨-, s, hdetached, hs⟩ := hs.provider_inv hdetach hofflined
      obtain ⟨s, hdone, hs⟩ := hs.delete_inv hdetached
      rw [hdeleted] at hs
      rwa [hdone.nil_inv]
  | absent lookup hlookup detached =>
    obtain ⟨rfl, s, hlooked, hs⟩ := h.getDevice_inv hperformed
    cases hattached with
    | untouched =>
      obtain ⟨-, s, hdone, hs⟩ := hs.provider_inv hdetach hlooked
      rwa [hdone.nil_inv]
    | attached => cases hlookup.symm.trans hfound

/-- A mount whose part on this node has failed is undone. -/
theorem undone_restores {c : Config} {request : Provider.Request} {e f : Failure}
    {onHost after : List Exchange} (hv : store.volumes.get? request.name = some v)
    (hunused : v.IsUnused store table)
    (habsent : ∀ e, files.removeDirectory (c.mountpointFor v.name) = .error e → e = .missing)
    (h : Stands { store with volumes := store.volumes.insert request.name (Store.mounted request v) }
      table files t)
    (honHost : HostFails (mountedHere (Store.mounted request v)) (c.mountpointFor v.name) onHost e)
    (hafter : Undone request (mountedHere (Store.mounted request v)) (c.mountpointFor v.name) e
      after f)
    (hperformed : Performed Testbed.perform t (onHost ++ after) t') :
    t'.store = store ∧ t'.table = table := by
  obtain ⟨mid, hfailed, hundoing⟩ := hperformed.append_inv
  obtain ⟨table', hattached, hmid⟩ := hostFails_keeps h honHost hfailed
  obtain ⟨hmessage, hrestored⟩ := Store.serve_unmount_mounted hv hunused.inUse hunused.iscsi
    hunused.fc hunused.message
  have hunmount : Provider.Op.unmount ≠ .mount := nofun
  cases hafter with
  | blocked e he => exact absurd (habsent e ((hmid.removeDirectory_inv hundoing).1 e rfl)) he
  | withdrawn removed hremoved hrest =>
    obtain ⟨-, s, files', hwithdrawing, hs⟩ := hmid.removeDirectory_inv hundoing
    cases hrest with
    | held response hheld =>
      obtain ⟨hreply, -⟩ := hs.provider_inv hunmount hwithdrawing
      rw [Except.ok.inj hreply, hmessage] at hheld
      exact absurd hheld (by decide)
    | released reply hreply hreleased =>
      obtain ⟨-, s, hunmounted, hs⟩ := hs.provider_inv hunmount hwithdrawing
      rw [hrestored] at hs
      have hdevice : table.devices.get? (mountedHere (Store.mounted request v)).serialNumber = none :=
        hunused.device
      have hlast := released_restores hdevice hattached hs hreleased hunmounted
      exact ⟨hlast.store, hlast.table⟩

/-- The provider's mount fails and changes nothing, or the provider takes the volume for used. -/
theorem mount_provided (h : Stands store table files t) {request : Provider.Request}
    (hv : store.volumes.get? request.name = some v) {reply : Except Failure Provider.Response}
    {rest : List Exchange} (hperformed : Performed Testbed.perform t
      (⟨.call (.provider .mount request), reply⟩ :: rest) t') :
    ∃ s, Performed Testbed.perform s rest t' ∧
      ((∃ f, reply = .error f ∧ Stands store table files s) ∨
        (reply = .ok (.ofVolume (Store.mounted request v)) ∧ Stands
          { store with volumes := store.volumes.insert request.name (Store.mounted request v) }
          table files s)) := by
  obtain ⟨s, hrest, ⟨f, hreply, -, hs⟩ | ⟨hreply, hs⟩⟩ := h.call_inv hperformed
  · exact ⟨s, hrest, .inl ⟨f, hreply, hs⟩⟩
  · have hreply : reply = .ok (t.store.serve .mount request).1 := hreply
    have hs : Stands (t.store.serve .mount request).2 t.table files s := hs
    rw [h.store, Store.serve_mount hv] at hreply hs
    rw [h.table] at hs
    exact ⟨s, hrest, .inr ⟨hreply, hs⟩⟩

/-- A mount that fails from the provider's mount on leaves everything as it was. -/
theorem mounting_restores {c : Config} {r : Request} {f : Failure}
    (hv : store.volumes.get? r.name = some v) (hunused : v.IsUnused store table)
    (habsent : ∀ e, files.removeDirectory (c.mountpointFor v.name) = .error e → e = .missing)
    (h : Stands store table files t) {reply : Except Failure Provider.Response}
    (hmounting : Mounting c r reply es (.error f)) (hperformed : Performed Testbed.perform t
      (⟨.call (.provider .mount (providerRequest c r)), reply⟩ :: es) t') :
    t'.store = store ∧ t'.table = table := by
  cases hmounting with
  | refused hreply =>
    obtain ⟨s, hdone, ⟨f, -, hs⟩ | ⟨rfl, -⟩⟩ := mount_provided h hv hperformed
    · rw [hdone.nil_inv]
      exact ⟨hs.store, hs.table⟩
    · cases hreply
  | undone hreply honHost hafter =>
    obtain ⟨s, hmounted, ⟨f, rfl, -⟩ | ⟨rfl, hs⟩⟩ := mount_provided h hv hperformed
    · cases hreply
    · cases hreply
      exact undone_restores hv hunused habsent hs honHost hafter hmounted

/-- A mount that fails leaves everything as it was. -/
theorem mount_restores {c : Config} {opts : Dict Json} {f : Failure}
    (hv : store.volumes.get? name = some v) (hunused : v.IsUnused store table)
    (habsent : ∀ e, files.removeDirectory (c.mountpointFor v.name) = .error e → e = .missing)
    (h : Stands store table files t) (hends : Ends (mount c name opts) es (.error f))
    (hperformed : Performed Testbed.perform t es t') : t'.store = store ∧ t'.table = table := by
  have hsame : ∀ {s}, Stands store table files s → s.store = store ∧ s.table = table :=
    fun hs => ⟨hs.store, hs.table⟩
  cases ends_mount_iff.1 hends with
  | refused hinputs => exact hsame (gatherMount_keeps h hinputs hperformed)
  | unrepaired hinputs hrepair =>
    obtain rfl := name_of_gatherMount hinputs
    obtain ⟨s, hgathered, hperformed⟩ := hperformed.append_inv
    have hs := gatherMount_keeps h hinputs hgathered
    exact hsame (reconcile_keeps hs hv hunused.mounts hrepair hperformed)
  | admitted hinputs hrepair hwaiting hinside =>
    obtain rfl := name_of_gatherMount hinputs
    obtain ⟨s, hgathered, hperformed⟩ := hperformed.append_inv
    have hs := gatherMount_keeps h hinputs hgathered
    obtain ⟨s', hrepaired, hperformed⟩ := hperformed.append_inv
    have hs' := reconcile_keeps hs hv hunused.mounts hrepair hrepaired
    obtain ⟨s'', hawaited, hperformed⟩ := hperformed.append_inv
    have hs'' := awaitConflict_keeps hs' hv hunused.inUse hwaiting hawaited
    exact mounting_restores hv hunused habsent hs'' hinside hperformed

/-- If a mount of a volume that nobody uses fails because failures were injected, or because its inputs
are refused, the surroundings have the same volumes, devices and mounts as before. Any failures of this
node's part and of the provider's mount may be injected, all calls of a kind at once or some of them.
The mountpoint must be absent, in the sense that its removal finds none: a removal that fails otherwise
ends the rollback. -/
theorem failed_mount_restores {c : Config} {name : String} {opts : Dict Json} {t : Testbed}
    {v : Volume} (hv : t.store.volumes.get? name = some v) (hunused : v.IsUnused t.store t.table)
    (hinjected : t.Injected)
    (habsent : ∀ e, t.files.removeDirectory (c.mountpointFor v.name) = .error e → e = .missing)
    {fuel : Nat} {f : Failure}
    (hfails : (Program.trace Testbed.perform fuel (mount c name opts).run t).outcome =
      some (.error f)) :
    (Program.trace Testbed.perform fuel (mount c name opts).run t).world.store = t.store ∧
      (Program.trace Testbed.perform fuel (mount c name opts).run t).world.table = t.table := by
  have hends := Program.trace_runs Testbed.perform fuel (mount c name opts).run t
  rw [hfails] at hends
  exact mount_restores hv hunused habsent ⟨rfl, rfl, rfl, hinjected⟩ hends
    (Program.trace_performed Testbed.perform fuel _ t)

def unusedVolume (name : String) (status : Dict Json) : Volume :=
  { name, serialNumber := "serial", status }

/-- A node that has nothing of a volume, and on which calls of some kinds fail. -/
def failing (volume : Volume) (kinds : List Call.Kind) : Testbed where
  host := { uuid := "node", initiators := [⟨"iscsi", ["iqn.node"]⟩] }
  store.volumes := Dict.empty.insert volume.name volume
  failures := fun k => if k ∈ kinds then some (.host "injected") else none
  files := ⟨[], []⟩

theorem get?_failing (volume : Volume) (kinds : List Call.Kind) :
    (failing volume kinds).store.volumes.get? volume.name = some volume :=
  (Dict.get?_insert _ _ _ _).trans (if_pos rfl)

theorem isUnused_failing (name : String) (status : Dict Json) (kinds : List Call.Kind) :
    (unusedVolume name status).IsUnused (failing (unusedVolume name status) kinds).store
      (failing (unusedVolume name status) kinds).table :=
  ⟨rfl, rfl, rfl, rfl, rfl, rfl⟩

theorem injected_failing (volume : Volume) {kinds : List Call.Kind}
    (hkinds : ∀ k ∈ kinds, Testbed.injectable k = true) : (failing volume kinds).Injected where
  failures k f hf := by
    by_cases hk : k ∈ kinds
    · exact hkinds k hk
    · have hnone : (failing volume kinds).failures k = none := if_neg hk
      rw [hnone] at hf
      cases hf
  script _ := List.forall_mem_nil _

/-- The mount of a volume without filesystem, of which the creation fails after the attach. -/
def uncreated : Testbed :=
  failing (unusedVolume "v" (.ofList [("delayedCreate", .bool true), ("filesystem", .string "xfs")]))
    [.attachAndMountDevice, .setupFilesystem]

/-- A mount whose filesystem cannot be created leaves everything as it was. -/
theorem failed_mount_restores_uncreated :
    let run := Program.trace Testbed.perform 20 (mount {} "v" .empty).run uncreated
    run.outcome = some (.error (.host "injected")) ∧
      (∃ volumes devices, ⟨.call (.attachDevice volumes), .ok devices⟩ ∈ run.exchanges) ∧
      run.world.store = uncreated.store ∧ run.world.table = uncreated.table := by
  have habsent : uncreated.files.removeDirectory (({} : Config).mountpointFor "v") =
      .error .missing := rfl
  have hfails : (Program.trace Testbed.perform 20 (mount {} "v" .empty).run uncreated).outcome =
      some (.error (.host "injected")) := rfl
  refine ⟨hfails, ⟨_, _, List.mem_of_getElem? (i := 8) rfl⟩, ?_⟩
  exact failed_mount_restores (get?_failing _ _) (isUnused_failing _ _ _)
    (injected_failing _ (by decide)) (fun e he => by cases habsent.symm.trans he; rfl) hfails

/-- A node on which a file stands where the mountpoints should be, so that nothing can be attached and
mounted below it. -/
def obstructed : Testbed :=
  { failing (unusedVolume "v" .empty) [.attachAndMountDevice] with
    files := ⟨[(["mounts"], .file .empty)], []⟩ }

/-- No mountpoint can exist on such a node, but its removal does not fail for absence. This ends the
rollback, and the volume stays in use. -/
theorem obstructed_stays :
    let run := Program.trace Testbed.perform 20
      (mount { mountDir := ⟨"/mounts"⟩ } "v" .empty).run obstructed
    obstructed.store.volumes.get? "v" = some (unusedVolume "v" .empty) ∧
      (unusedVolume "v" .empty).IsUnused obstructed.store obstructed.table ∧ obstructed.Injected ∧
      obstructed.files.kindAt ["mounts", "v"] = none ∧
      run.outcome = some (.error (.rollback (.host "injected")
        "remove /mounts/v: Not a directory (os error 20)")) ∧
      (run.world.store.volumes.get? "v").map Volume.inUse = some true := by
  have hinjected := injected_failing (unusedVolume "v" .empty)
    (by decide : ∀ k ∈ [Call.Kind.attachAndMountDevice], Testbed.injectable k = true)
  exact ⟨rfl, isUnused_failing "v" .empty [.attachAndMountDevice],
    ⟨hinjected.failures, hinjected.script⟩, rfl, rfl, rfl⟩

end Workflow
end VolumeLifecycle
