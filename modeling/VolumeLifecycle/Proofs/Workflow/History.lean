import VolumeLifecycle.Proofs.Workflow.Formatting

namespace VolumeLifecycle

open Program (AllCalls Runs)
open Provider (Book)

/-- A workflow that was run: the exchanges that it had and how it ended, if it was not cut off. -/
inductive Episode (c : Config) where
  | mount (name : String) (opts : Dict Json) (exchanges : List Exchange)
      (outcome : Option (Except Failure Path))
      (runs : Runs (Workflow.mount c name opts).run exchanges outcome)
  | other (command : Command) (host : Host) (exchanges : List Exchange)
      (outcome : Option Response) (isOther : ∀ r, command ≠ .mount r)
      (runs : Runs (command.program c host) exchanges outcome)

namespace Episode

variable {c : Config}

def exchanges : Episode c → List Exchange
  | mount _ _ es _ _ => es
  | other _ _ es _ _ _ => es

/-- Whether a workflow has mounted a volume: it is a mount that has gone well, and the provider has
shown the volume in the reply to it. -/
def Mounted (e : Episode c) (volume : String) : Prop :=
  match e with
  | mount name _ es outcome _ =>
    (∃ path, outcome = some (.ok path)) ∧ ∃ request response u,
      (⟨.call (.provider .mount request), Except.ok response⟩ : Exchange) ∈ es ∧
        response.intoVolume name = .ok u ∧ u.name = volume
  | other .. => False

/-- Whether a workflow is a mount that creates the filesystem of a volume. -/
def Formats (e : Episode c) (volume : String) : Prop :=
  match e with
  | mount _ _ es _ _ =>
    ∃ ex ∈ es, ∃ d v fs, ex.effect = .call (.setupFilesystem d v fs) ∧ v.name = volume
  | other .. => False

/-- Whether a workflow removes a volume or creates it anew. -/
def Renews (e : Episode c) (volume : String) : Prop :=
  ∃ ex ∈ e.exchanges, ex.renews? = some volume

/-- Every call of every workflow is tame. -/
theorem tame (e : Episode c) : AllCalls Workflow.Tame e.exchanges := by
  cases e with
  | mount name opts es outcome runs =>
    exact (Workflow.mount_passes c name opts).allCalls (fun _ h => h.2.gentle.tame)
      (fun _ h => h.tame) runs
  | other command host es outcome isOther runs =>
    refine (command.program_passes c host).allCalls (fun call hcall => ?_) (fun _ h => h) runs
    cases command with
    | mount r => exact absurd rfl (isOther r)
    | unmount r => exact hcall.elim
    | create r => exact hcall.elim
    | remove r => exact hcall.elim
    | get r => exact hcall.elim
    | path r => exact hcall.elim
    | _ => exact hcall

theorem Mounted.clear {e : Episode c} {volume : String} (h : e.Mounted volume) {book book' : Book}
    (hserves : book.Serves e.exchanges book') : book'.Clear volume := by
  cases e with
  | mount name opts es outcome runs =>
    obtain ⟨⟨path, rfl⟩, request, response, u, hmem, hu, rfl⟩ := h
    exact Workflow.mount_clears runs hserves hmem hu
  | other => exact h.elim

theorem Formats.not_clear {e : Episode c} {volume : String} (h : e.Formats volume)
    {book book' : Book} (hserves : book.Serves e.exchanges book') : ¬ book.Clear volume := by
  cases e with
  | mount name opts es outcome runs =>
    obtain ⟨ex, hex, d, v, fs, hsetup, rfl⟩ := h
    exact Workflow.not_formats_of_clear runs hserves hex hsetup
  | other => exact h.elim

/-- Workflows that neither remove a volume nor create it anew do not mark it. -/
theorem clear_of_not_renews {episodes : List (Episode c)} {volume : String}
    (hrenews : ∀ e ∈ episodes, ¬ e.Renews volume) {book book' : Book}
    (hserves : book.Serves (episodes.flatMap exchanges) book') (hclear : book.Clear volume) :
    book'.Clear volume := by
  refine hserves.clear (fun ex hex => ?_) (fun ex hex heq => ?_) hclear
  · obtain ⟨e, -, hin⟩ := List.mem_flatMap.1 hex
    exact e.tame ex hin
  · obtain ⟨e, he, hin⟩ := List.mem_flatMap.1 hex
    exact hrenews e he ⟨ex, hin, heq⟩

end Episode

/-- Once a volume has been mounted, no later mount creates its filesystem unless the volume was
removed or created anew in between; and a mount that does create a filesystem has been shown a marked
volume by the provider, has found no healthy mount, and has failed to mount what is there. It is
assumed of the provider that it is honest; the replies of the device manager are arbitrary, and so are
all failures but those of updates. -/
theorem formats_once_until_renewed {c : Config} {history : List (Episode c)} {book book' : Book}
    (hserves : book.Serves (history.flatMap Episode.exchanges) book') :
    (∀ before first between again after volume,
      history = before ++ first :: (between ++ again :: after) → first.Mounted volume →
        again.Formats volume → ∃ e ∈ between, e.Renews volume) ∧
      ∀ name opts es outcome runs, .mount name opts es outcome runs ∈ history → ∀ ex ∈ es,
        ∀ d v fs, ex.effect = .call (.setupFilesystem d v fs) →
          ∃ before request response u mounts f rest,
            es = before ++ ⟨.call (.provider .mount request), Except.ok response⟩ ::
              ⟨.call (.getMounts u.serialNumber), Except.ok mounts⟩ ::
              ⟨.call (.attachAndMountDevice v (c.mountpointFor u.name)), Except.error f⟩ :: rest ∧
            ex ∈ rest ∧ response.intoVolume name = .ok u ∧
            v = { u with connectionMode := some Volume.manualConnection } ∧
            Volume.marksDelayedCreate (u.status.get? Volume.delayedCreateKey) = true ∧
            u.status.get? Volume.filesystemKey = some (.string fs) ∧ fs ≠ "" ∧
            mounts.any (·.servesAt (c.mountpointFor u.name)) = false := by
  refine ⟨fun before first between again after volume hhistory hmounted hformats => ?_,
    fun name opts es outcome runs _ ex hex d v fs hsetup => ?_⟩
  · subst hhistory
    refine Classical.byContradiction fun hnone => ?_
    simp only [List.flatMap_append, List.flatMap_cons] at hserves
    obtain ⟨_, -, hrest⟩ := hserves.append_inv
    obtain ⟨_, hfirst, hrest⟩ := hrest.append_inv
    obtain ⟨_, hbetween, hrest⟩ := hrest.append_inv
    obtain ⟨_, hagain, -⟩ := hrest.append_inv
    have hclear := Episode.clear_of_not_renews (fun e he hrenews => hnone ⟨e, he, hrenews⟩) hbetween
      (hmounted.clear hfirst)
    exact hformats.not_clear hagain hclear
  · obtain ⟨before, request, response, u, mounts, f, rest, hes, hrest, -, hu, hv⟩ :=
      Workflow.mount_formats runs hex hsetup
    exact ⟨before, request, response, u, mounts, f, rest, hes, hrest, hu, hv⟩

namespace History

/-- A volume that is marked and has no filesystem, so the first attempt to mount it fails. -/
def marked : Testbed where
  host := { uuid := "node", initiators := [⟨"iscsi", ["iqn.node"]⟩] }
  store.volumes := Dict.empty.insert "v"
    { name := "v"
      serialNumber := "serial-v"
      status := .ofList [("delayedCreate", .bool true), ("filesystem", .string "xfs")] }
  script := fun k => match k with
    | .attachAndMountDevice => [.reply (.error (.host "no filesystem"))]
    | _ => []
  files := ⟨[], []⟩

def formatting : Program.Trace (Except Failure Path) Testbed :=
  Program.trace Testbed.perform 20 (Workflow.mount {} "v" .empty).run marked

def remounting : Program.Trace (Except Failure Path) Testbed :=
  Program.trace Testbed.perform 20 (Workflow.mount {} "v" .empty).run formatting.world

def mounting (t : Testbed) : Episode {} :=
  .mount "v" .empty _ _ (Program.trace_runs Testbed.perform 20 (Workflow.mount {} "v" .empty).run t)

theorem marked_faithful : marked.Faithful where
  named := Provider.Store.Named.insert (s := {}) nofun rfl
  unscripted := fun _ => rfl

end History

open History in
/-- A marked volume is formatted by its first mount, and not by the second one. -/
theorem formats_once_until_renewed_remounting :
    marked.store.book.Serves ([mounting marked, mounting formatting.world].flatMap Episode.exchanges)
        remounting.world.store.book ∧
      (mounting marked).Formats "v" ∧ (mounting marked).Mounted "v" ∧
      (mounting formatting.world).Mounted "v" ∧ ¬ (mounting formatting.world).Formats "v" := by
  have hformatting : formatting.exchanges.all Exchange.isServed = true := by decide +kernel
  have hremounting : remounting.exchanges.all Exchange.isServed = true := by decide +kernel
  obtain ⟨hfirst, hfaithful⟩ := Testbed.trace_serves 20 marked_faithful (List.all_eq_true.1 hformatting)
  obtain ⟨hsecond, -⟩ := Testbed.trace_serves 20 hfaithful (List.all_eq_true.1 hremounting)
  have hserves : marked.store.book.Serves
      ([mounting marked, mounting formatting.world].flatMap Episode.exchanges)
      remounting.world.store.book := by
    rw [List.flatMap_cons, List.flatMap_cons, List.flatMap_nil, List.append_nil]
    exact hfirst.append hsecond
  have hmounted : (mounting marked).Mounted "v" :=
    ⟨⟨_, rfl⟩, _, _, _, List.mem_of_getElem? (i := 5) rfl, rfl, rfl⟩
  refine ⟨hserves, ⟨_, List.mem_of_getElem? (i := 9) rfl, _, _, _, rfl, rfl⟩, hmounted,
    ⟨⟨_, rfl⟩, _, _, _, List.mem_of_getElem? (i := 6) rfl, rfl, rfl⟩, fun hformats => ?_⟩
  obtain ⟨e, he, -⟩ :=
    (formats_once_until_renewed hserves).1 [] _ [] _ [] "v" rfl hmounted hformats
  cases he

end VolumeLifecycle
