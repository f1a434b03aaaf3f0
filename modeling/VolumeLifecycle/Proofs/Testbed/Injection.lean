import VolumeLifecycle.Proofs.Program.Performed
import VolumeLifecycle.Proofs.Provider.Memory
import VolumeLifecycle.Testbed

namespace VolumeLifecycle

open Program (Performed)
open Provider (Store)

namespace Testbed

/-- The kinds of calls whose failure is injected: those of this node's part of a mount, and the
provider's mount. -/
def injectable : Call.Kind → Bool
  | .getMounts => true
  | .attachDevice => true
  | .attachAndMountDevice => true
  | .setupFilesystem => true
  | .mountDevice => true
  | .provider .mount => true
  | _ => false

/-- A reply that is laid out is an injected failure, or leaves the call to itself. -/
def Cue.IsInjection {k : Call.Kind} : Cue k → Prop
  | .asUsual => True
  | .reply (.error _) => injectable k = true
  | .reply (.ok _) => False

/-- Surroundings in which failures are injected, all at once or one call at a time. An injected
failure has no effect of its own: a call is served by itself, or it fails and changes nothing. -/
structure Injected (t : Testbed) : Prop where
  failures : ∀ k f, t.failures k = some f → injectable k = true
  script : ∀ k, ∀ cue ∈ t.script k, cue.IsInjection

/-- Surroundings with these volumes, devices, mounts and files, in which every failure is an injected
one. -/
structure Stands (store : Store) (table : DeviceTable) (files : FileTree) (t : Testbed) :
    Prop where
  store : t.store = store
  table : t.table = table
  files : t.files = files
  injected : t.Injected

variable {store : Store} {table : DeviceTable} {files : FileTree} {t t' : Testbed}

/-- With one reply of a script taken, only injected failures are left. -/
theorem Injected.withScript (h : t.Injected) {k : Call.Kind} {cue : Cue k} {rest : List (Cue k)}
    (hcues : t.script k = cue :: rest) : (t.withScript k rest).Injected := by
  refine ⟨h.failures, fun j next hnext => ?_⟩
  by_cases hj : j = k
  · subst hj
    have hrest : (t.withScript j rest).script j = rest := dif_pos rfl
    rw [hrest] at hnext
    exact h.script j next (hcues ▸ List.mem_cons_of_mem _ hnext)
  · have hsame : (t.withScript k rest).script j = t.script j := dif_neg hj
    exact h.script j next (hsame ▸ hnext)

/-- What a call does by itself depends on the volumes, devices and mounts alone, and changes nothing
else. -/
theorem serve_withScript (t : Testbed) (k : Call.Kind) (cues : List (Cue k)) (c : Call) :
    (t.withScript k cues).serve c = ((t.serve c).1, (t.serve c).2.withScript k cues) := by
  cases c <;> rfl

/-- A call changes neither the files nor what is laid out for later calls. -/
theorem serve_frame (t : Testbed) (c : Call) : (t.serve c).2.files = t.files ∧
    (t.serve c).2.failures = t.failures ∧ (t.serve c).2.script = t.script := by
  cases c <;> exact ⟨rfl, rfl, rfl⟩

theorem Injected.serve (h : t.Injected) (c : Call) : (t.serve c).2.Injected := by
  obtain ⟨-, hfailures, hscript⟩ := serve_frame t c
  exact ⟨fun k f => hfailures ▸ h.failures k f, fun k => hscript ▸ h.script k⟩

/-- A call fails by injection and changes nothing, or does what it does by itself. -/
theorem Stands.respond (h : Stands store table files t) (c : Call) :
    (∃ f, (t.respond c).1 = .error f ∧ injectable c.kind = true ∧
        Stands store table files (t.respond c).2) ∨
      ((t.respond c).1 = .ok (t.serve c).1 ∧
        Stands (t.serve c).2.store (t.serve c).2.table files (t.respond c).2) := by
  have hfiles : (t.serve c).2.files = files := (serve_frame t c).1.trans h.files
  unfold Testbed.respond
  split
  · next r rest hcues =>
    have hscript := h.injected.withScript hcues
    have hcue := h.injected.script _ _ (hcues ▸ List.mem_cons_self)
    cases r with
    | error f => exact .inl ⟨f, rfl, hcue, h.store, h.table, h.files, hscript⟩
    | ok a => exact hcue.elim
  · next rest hcues =>
    refine .inr ?_
    rw [serveReply, serve_withScript]
    exact ⟨rfl, rfl, rfl, hfiles, (h.injected.serve c).withScript
      ((congrFun (serve_frame t c).2.2 c.kind).trans hcues)⟩
  · split
    · next f hf => exact .inl ⟨f, rfl, h.injected.failures _ f hf, h⟩
    · exact .inr ⟨rfl, rfl, rfl, hfiles, h.injected.serve c⟩

namespace Stands

variable {rest : List Exchange}

/-- A call fails by injection and changes nothing, or does what it does by itself. -/
theorem call_inv (h : Stands store table files t) {c : Call} {reply : c.Reply}
    (hperformed : Performed perform t (⟨.call c, reply⟩ :: rest) t') :
    ∃ s, Performed perform s rest t' ∧
      ((∃ f, reply = .error f ∧ injectable c.kind = true ∧ Stands store table files s) ∨
        (reply = .ok (t.serve c).1 ∧
          Stands (t.serve c).2.store (t.serve c).2.table files s)) := by
  obtain ⟨rfl, hrest⟩ := hperformed.cons_inv
  exact ⟨_, hrest, h.respond c⟩

/-- A call whose failure is not injected does what it does by itself. -/
theorem served_inv (h : Stands store table files t) {c : Call} {reply : c.Reply}
    (hc : injectable c.kind = false)
    (hperformed : Performed perform t (⟨.call c, reply⟩ :: rest) t') :
    reply = .ok (t.serve c).1 ∧ ∃ s, Performed perform s rest t' ∧
      Stands (t.serve c).2.store (t.serve c).2.table files s := by
  obtain ⟨s, hrest, ⟨f, -, hkind, -⟩ | ⟨hreply, hs⟩⟩ := h.call_inv hperformed
  · rw [hc] at hkind
    cases hkind
  · exact ⟨hreply, s, hrest, hs⟩

/-- A call to the provider that is not told to fail is served by the store, and nothing else
changes. -/
theorem provider_inv (h : Stands store table files t) {op : Provider.Op} (hop : op ≠ .mount)
    {r : Provider.Request} {reply : Except Failure Provider.Response}
    (hperformed : Performed perform t (⟨.call (.provider op r), reply⟩ :: rest) t') :
    reply = .ok (store.serve op r).1 ∧ ∃ s, Performed perform s rest t' ∧
      Stands (store.serve op r).2 table files s := by
  have hserved := h.served_inv (by cases op <;> first | rfl | exact absurd rfl hop) hperformed
  rw [← h.store, ← h.table]
  exact hserved

/-- A look-up that is not told to fail finds the device in the table and changes nothing. -/
theorem getDevice_inv (h : Stands store table files t) {v : Volume}
    {reply : Except Failure (Option Device)}
    (hperformed : Performed perform t (⟨.call (.getDevice v), reply⟩ :: rest) t') :
    reply = .ok (table.find? v) ∧ ∃ s, Performed perform s rest t' ∧
      Stands store table files s := by
  have hserved := h.served_inv rfl hperformed
  rw [← h.store, ← h.table]
  exact hserved

theorem offline_inv (h : Stands store table files t) {d : Device} {reply : Except Failure Unit}
    (hperformed : Performed perform t (⟨.call (.offlineDevice d), reply⟩ :: rest) t') :
    ∃ s, Performed perform s rest t' ∧ Stands store table files s := by
  have hserved := (h.served_inv rfl hperformed).2
  rw [← h.store, ← h.table]
  exact hserved

/-- The deletion of a device takes it out of the table, and nothing else changes. -/
theorem delete_inv (h : Stands store table files t) {d : Device} {reply : Except Failure Unit}
    (hperformed : Performed perform t (⟨.call (.deleteDevice d), reply⟩ :: rest) t') :
    ∃ s, Performed perform s rest t' ∧ Stands store (table.delete d) files s := by
  have hserved := (h.served_inv rfl hperformed).2
  rw [← h.store, ← h.table]
  exact hserved

/-- A call that has failed has changed nothing. -/
theorem failed_inv (h : Stands store table files t) {c : Call} {e : Failure}
    (hperformed : Performed perform t (⟨.call c, Except.error e⟩ :: rest) t') :
    ∃ s, Performed perform s rest t' ∧ Stands store table files s := by
  obtain ⟨s, hrest, ⟨f, -, -, hs⟩ | ⟨hreply, -⟩⟩ := h.call_inv hperformed
  · exact ⟨s, hrest, hs⟩
  · cases hreply

/-- A volume that is attached has its device from then on. -/
theorem attach_inv (h : Stands store table files t) {v : Volume} {devices : List Device}
    (hperformed : Performed perform t (⟨.call (.attachDevice [v]), Except.ok devices⟩ :: rest) t') :
    devices = [DeviceTable.deviceOf v .attached] ∧ ∃ s, Performed perform s rest t' ∧
      Stands store (table.put (DeviceTable.deviceOf v .attached)) files s := by
  obtain ⟨s, hrest, ⟨f, hreply, -, -⟩ | ⟨hreply, hs⟩⟩ := h.call_inv hperformed
  · cases hreply
  · rw [← h.store, ← h.table]
    exact ⟨Except.ok.inj hreply, s, hrest, hs⟩

/-- The creation of a filesystem changes neither volumes nor devices. -/
theorem setup_inv (h : Stands store table files t) {d : Device} {v : Volume} {filesystem : String}
    {reply : Except Failure Unit}
    (hperformed : Performed perform t (⟨.call (.setupFilesystem d v filesystem), reply⟩ :: rest) t') :
    ∃ s, Performed perform s rest t' ∧ Stands store table files s := by
  obtain ⟨s, hrest, ⟨f, -, -, hs⟩ | ⟨-, hs⟩⟩ := h.call_inv hperformed
  · exact ⟨s, hrest, hs⟩
  · rw [← h.store, ← h.table]
    exact ⟨s, hrest, hs⟩

/-- A look at the mount table fails, or shows it. -/
theorem getMounts_inv (h : Stands store table files t) {serial : String}
    {reply : Except Failure (List Mount)}
    (hperformed : Performed perform t (⟨.call (.getMounts serial), reply⟩ :: rest) t') :
    (∀ mounts, reply = .ok mounts → mounts = table.mountsOf serial) ∧
      ∃ s, Performed perform s rest t' ∧ Stands store table files s := by
  rw [← h.table, ← h.store]
  obtain ⟨s, hrest, ⟨f, rfl, -, hs⟩ | ⟨rfl, hs⟩⟩ := h.call_inv hperformed
  · exact ⟨nofun, s, hrest, h.store ▸ h.table ▸ hs⟩
  · exact ⟨fun mounts heq => (Except.ok.inj heq).symm, s, hrest, hs⟩

/-- The description of this node and the clock change nothing. -/
theorem idle_inv (h : Stands store table files t) {e : Effect} {reply : e.Reply}
    (he : e = .describeHost ∨ e = .now)
    (hperformed : Performed perform t (⟨e, reply⟩ :: rest) t') :
    ∃ s, Performed perform s rest t' ∧ Stands store table files s := by
  obtain ⟨-, hrest⟩ := hperformed.cons_inv
  rcases he with rfl | rfl
  · exact ⟨_, hrest, h⟩
  · exact ⟨_, hrest, h⟩

/-- The removal of a directory changes files alone, and fails as the files say. -/
theorem removeDirectory_inv (h : Stands store table files t) {path : Path}
    {removed : Except FileError Unit}
    (hperformed : Performed perform t (⟨.removeDirectory path, removed⟩ :: rest) t') :
    (∀ e, removed = .error e → files.removeDirectory path = .error e) ∧
      ∃ s files', Performed perform s rest t' ∧ Stands store table files' s := by
  obtain ⟨hremoved, hrest⟩ := hperformed.cons_inv
  rw [← h.files]
  unfold perform at hremoved hrest
  dsimp only at hremoved hrest
  cases hfiles : t.files.removeDirectory path with
  | ok files' =>
    rw [hfiles] at hremoved hrest
    refine ⟨fun e heq => ?_, _, files', hrest, h.store, h.table, rfl,
      h.injected.failures, h.injected.script⟩
    cases hremoved.trans heq
  | error e =>
    rw [hfiles] at hremoved hrest
    refine ⟨fun e' heq => ?_, t, files, hrest, h⟩
    cases hremoved.trans heq
    rfl

end Stands
end Testbed
end VolumeLifecycle
