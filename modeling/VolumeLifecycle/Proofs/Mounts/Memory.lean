import VolumeLifecycle.Testbed
import VolumeLifecycle.Proofs.Mounts.Site
import VolumeLifecycle.Proofs.Provider.Memory
import VolumeLifecycle.Proofs.Text.Trim

namespace VolumeLifecycle

/-- Identifiers have no blanks at their ends. -/
theorem Host.trim_of_mem {h : Host} {protocol name : String}
    (hmem : name ∈ h.initiatorsFor protocol) : Text.trim name = name := by
  obtain ⟨i, -, hi⟩ := List.mem_flatMap.1 hmem
  obtain ⟨given, -, rfl⟩ := List.mem_map.1 hi
  exact Text.trim_trim given

theorem Host.hasInitiators_of_mem {h : Host} {protocol name : String}
    (hmem : name ∈ h.initiatorsFor protocol) : h.hasInitiators = true := by
  obtain ⟨i, hi, hname⟩ := List.mem_flatMap.1 hmem
  refine List.any_eq_true.2 ⟨i, List.mem_of_mem_filter hi, ?_⟩
  cases hinit : i.init with
  | nil =>
    rw [hinit] at hname
    cases hname
  | cons given rest => rfl

namespace Provider.Store

theorem mem_join (sessions : List IscsiSession) (initiator : String) :
    ∃ session ∈ join sessions initiator, session.initiatorName = initiator := by
  unfold join
  split
  · next hany =>
    obtain ⟨session, hmem, heq⟩ := List.any_eq_true.1 hany
    exact ⟨session, hmem, of_decide_eq_true heq⟩
  · exact ⟨⟨initiator, ""⟩, List.mem_append_right _ List.mem_cons_self, rfl⟩

/-- A node is among the sessions of a volume that was mounted with its first identifier. -/
theorem isAttachedTo_mounted {r : Request} {host : Host} {first : String} {rest : List String}
    (hfirst : initiators r = first :: rest) (hmem : first ∈ host.initiatorsFor "iscsi")
    (hblank : first ≠ "") (v : Volume) : (mounted r v).isAttachedTo host = true := by
  have hsessions : (mounted r v).iscsiSessions = join v.iscsiSessions first := by
    simp [mounted, hfirst]
  obtain ⟨session, hsession, hname⟩ := mem_join v.iscsiSessions first
  have hmatches : Session.iscsiMatches host session = true := by
    simp [Session.iscsiMatches, hname, Host.trim_of_mem hmem, hblank, hmem]
  have hany : (join v.iscsiSessions first).any (Session.iscsiMatches host) = true :=
    List.any_eq_true.2 ⟨session, hsession, hmatches⟩
  rw [Volume.isAttachedTo, Host.hasInitiators_of_mem hmem, hsessions, hany]
  rfl

end Provider.Store

namespace Testbed

open Provider (Store)

/-- Surroundings that have the volume of a scene and that do not fail. -/
structure Holds (s : Scene) (t : Testbed) : Prop where
  host : t.describe = .ok s.host
  unfailing : ∀ k, t.failures k = none
  unscripted : ∀ k, t.script k = []
  volume : ∃ v, t.store.volumes.get? s.volume = some v ∧ s.IsOf v

def site (s : Scene) : Site Testbed where
  IsSound := Holds s
  volume t := (t.store.volumes.get? s.volume).getD default
  mounts t := t.table.mountsOf s.serial
  device t := t.table.devices.get? s.serial

namespace Holds

variable {s : Scene} {t : Testbed}

theorem get?_eq (h : t.Holds s) :
    t.store.volumes.get? s.volume = some ((site s).volume t) := by
  obtain ⟨v, hv, -⟩ := h.volume
  simp [site, hv]

/-- What the surroundings in memory hold of a volume belongs to it. -/
theorem isOf (h : t.Holds s) : s.IsOf ((site s).volume t) := by
  obtain ⟨v, hv, hof⟩ := h.volume
  simpa [site, hv] using hof

/-- Calls that are neither scripted nor told to fail do what they do by themselves. -/
theorem respond_eq (h : t.Holds s) (c : Call) : t.respond c = t.serveReply c := by
  rw [respond, h.unscripted]
  dsimp only
  rw [h.unfailing]

/-- A request of the provider that changes a volume under its name, but neither its name nor its serial
number. -/
theorem change (h : t.Holds s) {f : Volume → Volume} (hname : ∀ v, (f v).name = v.name)
    (hserial : ∀ v, (f v).serialNumber = v.serialNumber) :
    t.store.change s.volume f = (.ofVolume (f ((site s).volume t)),
        { t.store with volumes := t.store.volumes.insert s.volume (f ((site s).volume t)) }) ∧
      let t' : Testbed := { t with store := (t.store.change s.volume f).2 }
      t'.Holds s ∧ (site s).volume t' = f ((site s).volume t) := by
  have hchange := Store.change_of_some (f := f) h.get?_eq
  refine ⟨hchange, ?_⟩
  rw [hchange]
  have hget : (t.store.volumes.insert s.volume (f ((site s).volume t))).get? s.volume =
      some (f ((site s).volume t)) := by
    rw [Dict.get?_insert, if_pos rfl]
  obtain ⟨hvolume, hnumber⟩ := h.isOf
  refine ⟨⟨h.host, h.unfailing, h.unscripted, _, hget, ?_⟩, ?_⟩
  · exact ⟨(hname _).trans hvolume, (hserial _).trans hnumber⟩
  · change Option.getD _ _ = _
    rw [hget]
    rfl

theorem of_table (h : t.Holds s) (table : DeviceTable) : { t with table }.Holds s :=
  ⟨h.host, h.unfailing, h.unscripted, h.volume⟩

end Holds

/-- The surroundings in memory serve every call of mounts of a volume that they have. -/
theorem serves {s : Scene} (hname : s.name = s.volume) {first : String} {rest : List String}
    (hfirst : s.host.initiatorsFor "iscsi" = first :: rest) (hblank : first ≠ "") :
    (site s).Serves perform s where
  isOf t h := Holds.isOf h
  describeHost t h := ⟨Holds.host h, h, rfl, rfl, rfl⟩
  now t h := ⟨h, rfl, rfl, rfl⟩
  sleep t duration h :=
    ⟨⟨h.host, h.unfailing, h.unscripted, h.volume⟩, rfl, rfl, rfl⟩
  get t h := by
    obtain ⟨hchange, hholds, hvolume⟩ := Holds.change h (f := id) (fun _ => rfl) fun _ => rfl
    rw [hname]
    have hperform : perform t (.call (.provider .get (.named s.volume))) =
        (Except.ok (t.store.change s.volume id).1,
          { t with store := (t.store.change s.volume id).2 }) := Holds.respond_eq h _
    rw [hperform]
    refine ⟨⟨_, rfl, ?_⟩, hholds, hvolume, rfl, rfl⟩
    rw [hchange]
    rfl
  update t r h hr := by
    have hvolume : r.name = s.volume := hr.elim (fun heq => heq.trans hname) id
    obtain ⟨-, hholds, hnew⟩ := Holds.change h
      (f := fun v => { v with status := r.opts.entries.foldl Store.updateStatus v.status })
      (fun _ => rfl) fun _ => rfl
    have hperform : (perform t (.call (.provider .update r))).2 = { t with
        store := (t.store.change s.volume fun v =>
          { v with status := r.opts.entries.foldl Store.updateStatus v.status }).2 } := by
      rw [← hvolume]
      exact congrArg Prod.snd (Holds.respond_eq h _)
    rw [hperform]
    exact ⟨hholds, ⟨_, hnew⟩, rfl, rfl⟩
  mount t r interfaces h hr hhost := by
    have hvolume : r.name = s.volume := hr.trans hname
    obtain ⟨hchange, hholds, hnew⟩ :=
      Holds.change h (f := Store.mounted r) (fun _ => rfl) fun _ => rfl
    have hperform : perform t (.call (.provider .mount r)) =
        (Except.ok (t.store.change s.volume (Store.mounted r)).1,
          { t with store := (t.store.change s.volume (Store.mounted r)).2 }) := by
      rw [← hvolume]
      exact Holds.respond_eq h _
    rw [hperform]
    refine ⟨⟨_, rfl, ?_⟩, hholds, ?_, fun others => ?_, rfl, rfl⟩
    · rw [hnew, hchange]
      rfl
    · rw [hnew]
      rfl
    · have hinitiators : Store.initiators r = first :: rest := by
        rw [Store.initiators, hhost]
        exact hfirst
      have hmem : first ∈ { s.host with networkInterfaces := others }.initiatorsFor "iscsi" :=
        List.mem_of_head? (congrArg List.head? hfirst)
      rw [hnew]
      exact Store.isAttachedTo_mounted hinitiators hmem hblank _
  getMounts t h := by
    have hperform : perform t (.call (.getMounts s.serial)) =
        (Except.ok (t.table.mountsOf s.serial), t) := Holds.respond_eq h _
    rw [hperform]
    exact ⟨rfl, h, rfl, rfl, rfl⟩
  getDevice t v h hv := by
    have hperform : perform t (.call (.getDevice v)) = (Except.ok (t.table.find? v), t) :=
      Holds.respond_eq h _
    rw [hperform, DeviceTable.find?, hv]
    exact ⟨rfl, h, rfl, rfl, rfl⟩
  attach t v h hof := by
    have hperform : perform t (.call (.attachAndMountDevice v s.mountpoint)) =
        (Except.ok (t.table.attachAndMount v s.mountpoint).1,
          { t with table := (t.table.attachAndMount v s.mountpoint).2 }) := Holds.respond_eq h _
    rw [hperform]
    refine ⟨_, rfl, ?_, ?_, ?_, Holds.of_table h _, rfl⟩
    · simp [DeviceTable.attachAndMount, DeviceTable.mount, Mount.servesAt, Mount.isAt, Path.sameAs,
        DeviceState.isHealthy]
    · simp [site, DeviceTable.attachAndMount, DeviceTable.mount, DeviceTable.mountsOf,
        DeviceTable.put, DeviceTable.deviceOf, hof.2]
    · simp [site, DeviceTable.attachAndMount, DeviceTable.mount, DeviceTable.put,
        DeviceTable.deviceOf, Dict.get?_insert, hof.2]

end Testbed
end VolumeLifecycle
