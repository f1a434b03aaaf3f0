import VolumeLifecycle.Proofs.Path.Join
import VolumeLifecycle.Proofs.Workflow.MountCourse
import VolumeLifecycle.Proofs.Workflow.Release
import VolumeLifecycle.Testbed

namespace VolumeLifecycle

def Effect.MountsAt (path : Path) : Effect → Prop
  | .call (.attachAndMountDevice _ mountpoint) => mountpoint = path
  | .call (.mountDevice _ mountpoint) => mountpoint = path
  | .removeDirectory removed => removed = path
  | _ => True

namespace Workflow

open Program (Runs Within)
open Effect (MountsAt)

variable {c : Config} {name : String} {path : Path} {es : List Exchange}

theorem mountsAt_of_repairs {e : Effect} (h : Repairs e) : MountsAt path e := by
  cases e with
  | call call => cases call <;> trivial
  | removeDirectory p => exact h.elim
  | _ => trivial

theorem mountsAt_of_freeing {call : Call} (h : freeing call.kind = true) :
    MountsAt path (.call call) := by
  cases call <;> trivial

theorem mountsAt_of_wait_view {w : Conflict.Wait} {e : Effect} {after : e.Reply → Conflict.Wait}
    (h : w.view = .asks e after) : MountsAt path e := by
  rcases Conflict.Wait.asks_of_view h with rfl | ⟨duration, rfl⟩ | rfl | rfl <;> trivial

/-- This node's part of a mount mounts at the path that it is given. -/
theorem mountOnHost_mountsAt (volume : Volume) (path : Path) :
    Within (MountsAt path) (mountOnHost volume path).run := by
  refine within_bind (within_call trivial) fun mounts => ?_
  split
  · exact within_pure _
  refine within_bind (within_attempt rfl) fun reply => ?_
  split
  · exact within_pure _
  split
  · exact within_fail _
  refine within_bind ?_ fun _ => within_pure _
  refine within_bind (within_attachFirst trivial) fun d => ?_
  refine within_bind (within_call trivial) fun _ => ?_
  exact within_bind (within_call rfl) fun _ => within_pure _

def afterProvider (c : Config) (r : Request) (volume : Volume) : Workflow Path := do
  match ← result (mountOnHost volume (c.mountpointFor volume.name)) with
  | .error f =>
    match ← undoMount (providerRequest c r) volume (c.mountpointFor volume.name) with
    | .ok _ => fail f
    | .error cause => fail (.rollback f cause)
  | .ok _ =>
    if volume.hasDelayedCreate then
      let _ ← clearDelayedCreate volume.name
    return c.mountpointFor volume.name

theorem mountLocked_eq (c : Config) (r : Request) :
    mountLocked c r = mountOnProvider r (providerRequest c r) >>= afterProvider c r :=
  rfl

theorem afterProvider_mountsAt (c : Config) (r : Request) (volume : Volume) :
    Within (MountsAt (c.mountpointFor volume.name)) (afterProvider c r volume).run := by
  refine within_bind (within_result (mountOnHost_mountsAt volume _)) fun result => ?_
  cases result with
  | error f =>
    have hremove : MountsAt (c.mountpointFor volume.name)
        (.removeDirectory (c.mountpointFor volume.name)) := rfl
    refine within_bind ?_ fun report => ?_
    · exact within_undoMount hremove (fun _ => mountsAt_of_freeing) trivial trivial volume
    · cases report <;> exact within_fail _
  | ok how =>
    dsimp only
    split
    · exact within_bind (within_provideBestEffort trivial _) fun _ => within_pure _
    · exact within_pure _

/-- What follows the provider's part of a mount that goes well: this node's part goes well, and at most an
update of the volume comes after it. -/
theorem ends_afterProvider {r : Request} {volume : Volume}
    (h : Ends (afterProvider c r volume) es (.ok path)) :
    ∃ how onHost after, es = onHost ++ after ∧
      Ends (mountOnHost volume (c.mountpointFor volume.name)) onHost (.ok how) ∧
      (∀ ex ∈ after, ∃ request, ex.effect = .call (.provider .update request)) ∧
      path = c.mountpointFor volume.name := by
  obtain ⟨result, onHost, after, rfl, honHost, hafter⟩ := ends_result_bind_iff.1 h
  cases result with
  | error f =>
    rcases ends_bind_iff.1 hafter with ⟨e, heq, -⟩ | ⟨report, es₁, es₂, rfl, -, hfail⟩
    · cases heq
    · cases report <;> cases (ends_fail_iff.1 hfail).2
  | ok how =>
    refine ⟨how, onHost, after, rfl, honHost, ?_⟩
    dsimp only at hafter
    split at hafter
    · obtain ⟨cleared, es₁, rfl, hdone⟩ := ends_provideBestEffort_bind_iff.1 hafter
      obtain ⟨rfl, hpath⟩ := ends_pure_iff.1 hdone
      exact ⟨List.forall_mem_singleton.2 ⟨_, rfl⟩, Except.ok.inj hpath⟩
    · obtain ⟨rfl, hpath⟩ := ends_pure_iff.1 hafter
      exact ⟨List.forall_mem_nil _, Except.ok.inj hpath⟩

/-- A part of a workflow with effects of a sort, and what follows it. -/
theorem within_bind_inv {α β : Type} {ok : Effect → Prop} {w : Workflow α} {f : α → Workflow β}
    (hw : w.run.Within ok) {x : Option (Except Failure β)} (h : Runs (w >>= f).run es x) :
    ((∀ ex ∈ es, ok ex.effect) ∧ ∀ b, x ≠ some (.ok b)) ∨
      ∃ a es₁ es₂, es = es₁ ++ es₂ ∧ (∀ ex ∈ es₁, ok ex.effect) ∧
        Runs w.run es₁ (some (.ok a)) ∧ Runs (f a).run es₂ x := by
  rcases bind_inv h with ⟨⟨y, hrun⟩, hx⟩ | ⟨a, es₁, es₂, rfl, hrun, hrest⟩
  · exact .inl ⟨hw.effects hrun, hx⟩
  · exact .inr ⟨a, es₁, es₂, rfl, hw.effects hrun, hrun, hrest⟩

theorem mountLocked_mountsAt {r : Request} {x : Option (Except Failure Path)}
    (hnamed : ∀ request response u, ⟨.call (.provider .mount request), Except.ok response⟩ ∈ es →
      response.intoVolume r.name = .ok u → c.mountpointFor u.name = path)
    (h : Runs (mountLocked c r).run es x) :
    (∀ ex ∈ es, MountsAt path ex.effect) ∧ ∀ p, x = some (.ok p) → p = path := by
  rw [mountLocked_eq] at h
  have hprovider : Within (MountsAt path) (mountOnProvider r (providerRequest c r)).run :=
    within_mountOnProvider trivial r
  rcases within_bind_inv hprovider h with ⟨hes, hx⟩ | ⟨volume, es₁, es₂, rfl, hes, hrun, hrest⟩
  · exact ⟨hes, fun p hp => absurd hp (hx p)⟩
  obtain ⟨response, u, rfl, hu, rfl⟩ := mountOnProvider_ok_inv hrun
  obtain rfl := hnamed _ response u List.mem_cons_self hu
  refine ⟨fun ex hex => ?_, fun p hp => ?_⟩
  · rcases List.mem_append.1 hex with hex | hex
    · exact hes ex hex
    · exact (afterProvider_mountsAt c r _).effects hrest ex hex
  · subst hp
    obtain ⟨_, _, _, _, _, _, hanswer⟩ := ends_afterProvider hrest
    exact hanswer

/-- All that a mount mounts or removes is at one path, where the provider shows the volume under a name that
belongs there, and this is the path that it answers. -/
theorem mount_mountsAt {opts : Dict Json} {x : Option (Except Failure Path)}
    (hnamed : ∀ request response u, ⟨.call (.provider .mount request), Except.ok response⟩ ∈ es →
      response.intoVolume name = .ok u → c.mountpointFor u.name = path)
    (h : Runs (mount c name opts).run es x) :
    (∀ ex ∈ es, MountsAt path ex.effect) ∧ ∀ p, x = some (.ok p) → p = path := by
  have hgather : Within (MountsAt path) (gatherMount c name opts).run :=
    within_gatherMount trivial c name opts
  rcases within_bind_inv hgather h with ⟨hes, hx⟩ | ⟨r, es₁, es₂, rfl, hes₁, hrun, hrest⟩
  · exact ⟨hes, fun p hp => absurd hp (hx p)⟩
  obtain rfl := name_of_gatherMount hrun
  have hbefore : Within (MountsAt path) (do
      let _ ← reconcile r.name r.host
      let _ ← awaitConflict c .mount r
      enter r.name .mount).run := by
    refine within_bind ((within_reconcile r.name r.host).mono fun _ => mountsAt_of_repairs) ?_
    intro cleanup
    refine within_bind (within_await (fun _ _ _ => mountsAt_of_wait_view) _) fun verdict => ?_
    exact trivial
  have hassoc : (do
      let _ ← reconcile r.name r.host
      let _ ← awaitConflict c .mount r
      enter r.name .mount
      mountLocked c r : Workflow Path) = (do
        let _ ← reconcile r.name r.host
        let _ ← awaitConflict c .mount r
        enter r.name .mount) >>= fun _ => mountLocked c r := by
    simp only [bind_assoc]
  rw [hassoc] at hrest
  rcases within_bind_inv hbefore hrest with ⟨hes, hx⟩ | ⟨_, es₃, es₄, rfl, hes₃, -, hlocked⟩
  · exact ⟨List.forall_mem_append.2 ⟨hes₁, hes⟩, fun p hp => absurd hp (hx p)⟩
  obtain ⟨hes₄, hanswer⟩ := mountLocked_mountsAt
    (fun request response u hmem => hnamed request response u (by simp [hmem])) hlocked
  refine ⟨?_, hanswer⟩
  simp only [List.forall_mem_append]
  exact ⟨hes₁, hes₃, hes₄⟩

/-- Whether an exchange shows the volume of a mount under the name that was asked for, if it shows it. -/
def showsNamed (name : String) : Exchange → Bool
  | ⟨.call (.provider .mount _), reply⟩ =>
    match shown name reply with
    | .ok u => u.name = name
    | .error _ => true
  | _ => true

theorem name_of_showsNamed {request : Provider.Request} {response : Provider.Response} {u : Volume}
    (h : showsNamed name ⟨.call (.provider .mount request), Except.ok response⟩ = true)
    (hu : response.intoVolume name = .ok u) : u.name = name := by
  simpa [showsNamed, shown, hu] using h

/-- A mount mounts, answers and removes one path, that of the name in the configured directory, and here is
when this path stays below the directory and whether another name leads to the same. It does not stay there
for an absolute name, which replaces the directory, for a name with a double dot, and for one without any
step, which is the directory itself. Names of one step are the ones without any of this trouble. -/
theorem mount_isBelow_iff {opts : Dict Json} {x : Option (Except Failure Path)}
    (h : Runs (mount c name opts).run es x) (hnamed : ∀ ex ∈ es, showsNamed name ex = true) :
    ((∀ ex ∈ es, MountsAt (c.mountpointFor name) ex.effect) ∧
        ∀ p, x = some (.ok p) → p = c.mountpointFor name) ∧
      ((Path.mk name).isAbsolute = true ∨ c.mountDir.text = "" → c.mountpointFor name = ⟨name⟩) ∧
      ((Path.mk name).isAbsolute = false → c.mountDir.text ≠ "" →
        ((c.mountpointFor name).IsBelow c.mountDir ↔
          Path.steps name.toList ≠ [] ∧ .parent ∉ Path.steps name.toList)) ∧
      (∀ other, (Path.mk name).isAbsolute = (Path.mk other).isAbsolute → c.mountDir.text ≠ "" →
        ((c.mountpointFor name).sameAs (c.mountpointFor other) = true ↔
          Path.steps name.toList = Path.steps other.toList)) ∧
      (Path.IsPlain name → (c.mountpointFor name).IsBelow c.mountDir ∧
        ∀ other, Path.IsPlain other →
          ((c.mountpointFor name).sameAs (c.mountpointFor other) = true ↔ name = other)) := by
  refine ⟨mount_mountsAt ?_ h, ?_, ?_, ?_, ?_⟩
  · intro request response u hmem hu
    rw [name_of_showsNamed (hnamed _ hmem) hu]
  · rintro (habsolute | hempty)
    · exact Path.join_of_isAbsolute habsolute
    · exact Path.join_of_empty hempty
  · intro hrelative hdir
    exact Path.isBelow_join_iff hdir hrelative
  · intro other hsame hdir
    exact Path.sameAs_join_iff hdir hsame
  · intro hplain
    refine ⟨hplain.isBelow_join c.mountDir, fun other hother => ?_⟩
    exact hplain.sameAs_join_iff hother c.mountDir

/-- A node whose provider has a volume of a name, and whose device manager cannot mount. -/
def unmountable (name : String) : Testbed where
  host := { uuid := "node", initiators := [⟨"iscsi", ["iqn.node"]⟩] }
  store.volumes := Dict.empty.insert name { name := name, serialNumber := "serial" }
  failures := fun k => if k = .attachAndMountDevice then some (.host "busy") else none
  files := ⟨[], []⟩

def refusedAs (name : String) : Program.Trace (Except Failure Path) Testbed :=
  Program.trace Testbed.perform 20 (mount {} name .empty).run (unmountable name)

/-- The mountpoint of a plain name lies below the directory. -/
theorem mount_isBelow_iff_plain :
    (∀ ex ∈ (refusedAs "v").exchanges, showsNamed "v" ex = true) ∧ Path.IsPlain "v" ∧
      (∃ ex ∈ (refusedAs "v").exchanges,
        ex.effect = .removeDirectory ⟨"/var/lib/volagent/mounts/v"⟩) ∧
      (Config.mountpointFor {} "v").IsBelow (Config.mountDir {}) := by
  have hnamed : (refusedAs "v").exchanges.all (showsNamed "v") = true := by decide +kernel
  have hplain : Path.IsPlain "v" := ⟨by decide, by decide, by decide, by decide⟩
  have hmount := mount_isBelow_iff (Program.trace_runs _ _ _ _) (List.all_eq_true.1 hnamed)
  exact ⟨List.all_eq_true.1 hnamed, hplain, ⟨_, List.mem_of_getElem? (i := 8) rfl, rfl⟩,
    (hmount.2.2.2.2 hplain).1⟩

/-- Names that are accepted although their paths do not stay below the configured directory: a mount at the
root of the host, a rollback that removes the directory above the configured one, the configured directory
itself, and two names for one path. -/
theorem mountpoints_escape :
    (∀ name ∈ ["/data", "..", ".", "v", "v/"], checkName name = .ok ()) ∧
      (∃ v ex, ex ∈ (refusedAs "/data").exchanges ∧
        ex.effect = .call (.attachAndMountDevice v ⟨"/data"⟩)) ∧
      ¬ (Config.mountpointFor {} "/data").IsBelow (Config.mountDir {}) ∧
      (∃ ex ∈ (refusedAs "..").exchanges, ex.effect = .removeDirectory ⟨"/var/lib/volagent/mounts/.."⟩) ∧
      ¬ (Config.mountpointFor {} "..").IsBelow (Config.mountDir {}) ∧
      (Config.mountpointFor {} ".").sameAs (Config.mountDir {}) = true ∧
      (Config.mountpointFor {} "v").sameAs (Config.mountpointFor {} "v/") = true := by
  have haccepted : ∀ name ∈ ["/data", "..", ".", "v", "v/"], checkName name = .ok () := by
    simp only [List.forall_mem_cons]
    exact ⟨rfl, rfl, rfl, rfl, rfl, List.forall_mem_nil _⟩
  refine ⟨haccepted, ⟨_, _, List.mem_of_getElem? (i := 7) rfl, rfl⟩, ?_,
    ⟨_, List.mem_of_getElem? (i := 8) rfl, rfl⟩, fun hbelow => ?_, by decide, by decide⟩
  · rintro ⟨names, -, hcomponents⟩
    have hdata : (Config.mountpointFor {} "/data").components = [.root, .name ['d', 'a', 't', 'a']] := by
      decide
    have hdir : (Config.mountDir {}).components = .root :: .name ['v', 'a', 'r'] ::
        (Config.mountDir {}).components.drop 2 := by
      decide
    rw [hdata, hdir] at hcomponents
    exact absurd (List.cons.inj (List.cons.inj hcomponents).2).1 (by decide)
  · have hsteps := (Path.isBelow_join_iff (by decide) (by decide)).1 hbelow
    exact hsteps.2 (by decide)

end Workflow
end VolumeLifecycle
