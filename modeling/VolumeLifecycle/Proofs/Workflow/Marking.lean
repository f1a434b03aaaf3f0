import VolumeLifecycle.Proofs.Options.Lookup
import VolumeLifecycle.Proofs.Program.Runs
import VolumeLifecycle.Proofs.Workflow.Discipline
import VolumeLifecycle.Testbed

namespace VolumeLifecycle

open Program (Keeps Passes Runs)
open Workflow

namespace Workflow

/-- A call that creates no volume, or the one that a request with these options asks for. -/
def CreatesAs (c : Config) (name : String) (options : Options) : Call → Prop
  | .provider .create request =>
    ∃ host, request = providerRequest c ⟨name, markFresh options, host⟩
  | _ => True

variable {c : Config} {name : String} {options : Options}

theorem Gentle.createsAs {call : Call} (h : Gentle call) : CreatesAs c name options call := by
  cases call with
  | provider op request =>
    cases op with
    | create => exact absurd rfl h.2.1
    | _ => trivial
  | _ => trivial

theorem keeps_createLocked_createsAs (host : Host) :
    Keeps (CreatesAs c name options) (createLocked c ⟨name, markFresh options, host⟩).run := by
  have hplain : ∀ {α : Type} {p : Program α}, p.Keeps Plain → p.Keeps (CreatesAs c name options) :=
    fun h => h.mono fun _ hcall => hcall.gentle.createsAs
  refine keeps_bind (keeps_call ⟨host, rfl⟩) fun response => ?_
  refine keeps_bind (keeps_ofExcept _) fun volume => ?_
  split
  · refine keeps_bind (keeps_result ((keeps_prepareAndRelease _ _ _).mono
      fun _ hcall => hcall.createsAs)) fun result => ?_
    cases result with
    | ok _ => exact keeps_pure _
    | error f =>
      refine keeps_bind ?_ fun _ => keeps_fail _
      refine keeps_bind (hplain (keeps_releaseHostSide volume _)) fun _ => ?_
      exact keeps_bind (keeps_provideBestEffort trivial _) fun _ => keeps_pure _
  · exact keeps_pure _

/-- A create creates the volume with the options that the layers give, marked if it is fresh. -/
theorem create_createsAs {opts : Dict Json}
    (hoptions : Options.layered c.defaults c.selectedDefaults opts = .ok options) :
    Passes noCall (CreatesAs c name options) (some (name, .create)) (create c name opts).run := by
  refine passes_bind (keeps_ofExcept _) fun _ => ?_
  rw [hoptions]
  change Passes _ _ _ (if options.help = true then _ else _ : Workflow Created).run
  split
  · exact (keeps_pure _).passes
  refine passes_bind (keeps_ofExcept _) fun _ => ?_
  refine passes_bind keeps_describeHost fun host => passes_enter ?_
  exact keeps_bind (keeps_createLocked_createsAs host) fun _ => keeps_pure _

end Workflow

namespace Workflow

theorem delayedCreate_markFresh (o : Options) :
    (markFresh o).delayedCreate = if o.isCloneOrImport then o.delayedCreate else some true := by
  unfold markFresh
  split <;> rfl

/-- The mark of a fresh volume leaves the options of the provider alone. -/
theorem extra_markFresh (o : Options) : (markFresh o).extra = o.extra := by
  unfold markFresh
  split <;> rfl

/-- The request to create a volume has the mark that its options have after a fresh volume was marked,
and no other. -/
theorem get?_delayedCreate_of_ofDict {map : Dict Json} {o : Options}
    (h : Options.ofDict map = .ok o) (c : Config) (name : String) (host : Host) :
    (providerRequest c ⟨name, markFresh o, host⟩).opts.get? Volume.delayedCreateKey =
      (markFresh o).delayedCreate.map .bool := by
  have hnone : (markFresh o).extra.get? Options.Key.delayedCreate.name = none := by
    rw [extra_markFresh, ← (Options.ofDict_eq_ok_iff.1 h).2.2.2.2.2.2.2.2.2.2,
      Options.get?_unknownEntries, if_pos (Options.Key.isKnown_name _)]
  refine (Options.get?_toDict (markFresh o).stripPrivate .delayedCreate).trans ?_
  change ((markFresh o).delayedCreate.map Json.bool).or
    ((markFresh o).extra.get? Options.Key.delayedCreate.name) = _
  rw [hnone, Option.or_none]

/-- A create whose layers of options cannot be read calls nobody. -/
theorem create_refused {c : Config} {name : String} {opts : Dict Json} {f : Failure}
    (hoptions : Options.layered c.defaults c.selectedDefaults opts = .error f) :
    Passes noCall noCall (some (name, .create)) (create c name opts).run := by
  refine passes_bind (keeps_ofExcept _) fun _ => ?_
  rw [hoptions]
  exact (keeps_ofExcept (.error f : Except Failure Created)).passes

/-- The provider is asked to create a volume with the mark exactly if the volume is fresh or one of the
layers of options gives the mark: a create itself never marks a clone or an import, and it never takes
a mark off one. -/
theorem created_marked_iff {c : Config} {host : Host} {r : Runtime.CreateRequest}
    {es : List Exchange} {x : Option Response}
    (h : (Command.program c host (.create r)).Runs es x) {request : Provider.Request}
    {reply : Except Failure Provider.Response}
    (hmem : ⟨.call (.provider .create request), reply⟩ ∈ es) :
    ∃ options, Options.layered c.defaults c.selectedDefaults r.opts = .ok options ∧
      (request.opts.get? Volume.delayedCreateKey = some (.bool true) ↔
        options.isCloneOrImport = false ∨
          Options.GivesMark ((c.defaults.union c.selectedDefaults).union r.opts)) := by
  cases hoptions : Options.layered c.defaults c.selectedDefaults r.opts with
  | error f =>
    have hpasses : (Command.program c host (.create r)).Passes noCall noCall
        (some (r.name, .create)) :=
      (create_refused hoptions).andThen (fun _ => trivial) fun _ => trivial
    exact (hpasses.allCalls (fun _ => id) (fun _ => id) h _ hmem _ rfl).elim
  | ok options =>
    have hpasses : (Command.program c host (.create r)).Passes noCall
        (CreatesAs c r.name options) (some (r.name, .create)) :=
      (create_createsAs hoptions).andThen (fun _ => trivial) fun _ => trivial
    obtain ⟨node, rfl⟩ : CreatesAs c r.name options (.provider .create request) :=
      hpasses.allCalls (fun _ => False.elim) (fun _ => id) h _ hmem _ rfl
    refine ⟨options, rfl, ?_⟩
    rw [get?_delayedCreate_of_ofDict hoptions, delayedCreate_markFresh,
      ← Options.delayedCreate_eq_true_iff hoptions]
    cases options.isCloneOrImport <;> simp

def cloning : Testbed where
  host := { uuid := "node", initiators := [⟨"iscsi", ["iqn.node"]⟩] }
  files := ⟨[], []⟩

def cloned (more : List (String × Json)) : Program.Trace Response Testbed :=
  Program.trace Testbed.perform 20 (Command.program {} cloning.host
    (.create { name := "copy", opts := .ofList (("cloneOf", .string "base") :: more) })) cloning

/-- A clone for which nobody asks for the mark is not marked. -/
theorem created_marked_iff_cloned :
    ∃ request reply, ⟨.call (.provider .create request), reply⟩ ∈ (cloned []).exchanges ∧
      request.opts.get? Volume.delayedCreateKey ≠ some (.bool true) := by
  have hmem := List.mem_of_getElem? (i := 1) (l := (cloned []).exchanges) rfl
  refine ⟨_, _, hmem, fun hmark => ?_⟩
  obtain ⟨options, hoptions, hiff⟩ := created_marked_iff (Program.trace_runs _ _ _ _) hmem
  have hclone : (Options.layered .empty .empty (.ofList [("cloneOf", .string "base")])).map
      Options.isCloneOrImport = .ok true := rfl
  have hnone : ((Dict.empty.union .empty).union (.ofList [("cloneOf", Json.string "base")])).get?
      Options.Key.delayedCreate.name = none := rfl
  rcases hiff.1 hmark with hfresh | hgiven | ⟨s, hgiven, -⟩
  · have hoptions' : Options.layered .empty .empty (.ofList [("cloneOf", .string "base")]) =
      .ok options := hoptions
    rw [hoptions'] at hclone
    exact absurd (Except.ok.inj hclone) (by simp [hfresh])
  · exact nomatch hnone.symm.trans hgiven
  · exact nomatch hnone.symm.trans hgiven

/-- A clone that the caller marks is created with the mark. Its copied data are then taken for a volume
without filesystem: if they cannot be mounted at once, the next mount formats them. -/
theorem marked_clone_formats :
    let made := cloned [("delayedCreate", .bool true), ("filesystem", .string "xfs")]
    let mounted := Program.trace Testbed.perform 20
      (Command.program {} cloning.host (.mount { name := "copy" }))
      (made.world.withFailure .attachAndMountDevice (some (.host "busy")))
    (∃ request reply, ⟨.call (.provider .create request), reply⟩ ∈ made.exchanges ∧
        request.opts.get? (Options.Key.name .cloneOf) = some (.string "base") ∧
        request.opts.get? Volume.delayedCreateKey = some (.bool true)) ∧
      ∃ d v reply, ⟨.call (.setupFilesystem d v "xfs"), reply⟩ ∈ mounted.exchanges ∧
        v.name = "copy" :=
  ⟨⟨_, _, List.mem_of_getElem? (i := 1) rfl, rfl, rfl⟩,
    _, _, _, List.mem_of_getElem? (i := 9) rfl, rfl⟩

end Workflow
end VolumeLifecycle
