import VolumeLifecycle.Proofs.Options.Layers
import VolumeLifecycle.Proofs.Options.NormalForm
import VolumeLifecycle.Proofs.Workflow.Marking

namespace VolumeLifecycle

namespace Options

def Key.isPrivate : Key → Bool
  | help | initiators => true
  | _ => false

/-- The options that the provider is to see of those that look-ups give: unknown ones as they are, known
ones in their normal form if they are set, and never one that only steers the agent. -/
structure PublicView (look : String → Option Json) (opts : Dict Json) : Prop where
  passed : ∀ name, Key.isKnown name = false → opts.get? name = look name
  settled : ∀ key : Key, key.isPrivate = false →
    opts.get? key.name = (look key.name).bind key.grammar.normal
  unset : ∀ (key : Key) value, look key.name = some value → key.grammar.Unsets value →
    opts.get? key.name = none
  hidden : ∀ key : Key, key.isPrivate = true → opts.get? key.name = none

/-- Of the known options the private ones are left out, and the others stay. -/
theorem get?_stripPrivate {o : Options} (h : ∀ key : Key, o.extra.get? key.name = none) (key : Key) :
    o.stripPrivate.toDict.get? key.name = if key.isPrivate then none else o.written key := by
  rw [get?_toDict]
  change ((o.stripPrivate.written key).or (o.extra.get? key.name)) = _
  rw [h, Option.or_none]
  cases key <;> rfl

/-- Lifted options are shown to the provider as they should be. -/
theorem Lifts.publicView {look : String → Option Json} {o : Options} (h : Lifts look o) :
    PublicView look o.stripPrivate.toDict where
  passed name hname := by
    rw [get?_toDict_of_unknown _ hname]
    change o.extra.get? name = _
    rw [h.extra, hname]
    rfl
  settled key hkey := by
    rw [get?_stripPrivate h.get?_extra, hkey, ← h.written]
    rfl
  unset key value hvalue hunsets := by
    have hnone : o.written key = none := by
      rw [h.written, hvalue, Option.bind_some]
      exact (Grammar.normal_eq_none_iff (h.admits key value hvalue)).2 hunsets
    rw [get?_stripPrivate h.get?_extra, hnone, ite_self]
  hidden key hkey := by
    rw [get?_stripPrivate h.get?_extra, hkey]
    rfl

/-- Look-ups leave no choice of what the provider is to see. -/
theorem PublicView.unique {look : String → Option Json} {opts opts' : Dict Json}
    (h : PublicView look opts) (h' : PublicView look opts') : opts = opts' := by
  refine Dict.ext_get? fun name => ?_
  cases hknown : Key.isKnown name with
  | false => rw [h.passed name hknown, h'.passed name hknown]
  | true =>
    obtain ⟨key, rfl⟩ := Key.isKnown_iff.1 hknown
    cases hkey : key.isPrivate with
    | false => rw [h.settled key hkey, h'.settled key hkey]
    | true => rw [h.hidden key hkey, h'.hidden key hkey]

end Options

namespace Workflow

open Options (PublicView)

/-- The options of a fresh volume: with the mark, and with the default filesystem if none is given. -/
def freshened (opts : Dict Json) : Dict Json :=
  let filesystem := opts.get? (Options.Key.name .filesystem)
  (opts.insert (Options.Key.name .delayedCreate) (.bool true)).insert (Options.Key.name .filesystem)
    (filesystem.getD (.string Options.defaultFilesystem))

/-- Whether options ask for a volume without data: neither for a clone nor for an import. -/
def IsFreshIn (opts : Dict Json) : Prop :=
  opts.get? (Options.Key.name .cloneOf) = none ∧ opts.get? (Options.Key.name .importVol) = none

/-- Whether a volume is fresh can be told from the public options. -/
theorem isFreshIn_iff {look : String → Option Json} {o : Options} (h : Options.Lifts look o) :
    IsFreshIn o.stripPrivate.toDict ↔ o.isCloneOrImport = false := by
  have hclone := Options.get?_stripPrivate h.get?_extra .cloneOf
  have himport := Options.get?_stripPrivate h.get?_extra .importVol
  simp only [Options.Key.isPrivate, Options.written] at hclone himport
  rw [IsFreshIn, hclone, himport]
  simp [Options.isCloneOrImport]

theorem written_markFresh {o : Options} (h : o.isCloneOrImport = false) (key : Options.Key) :
    (markFresh o).written key =
      if key = .filesystem then
        some ((o.written .filesystem).getD (.string Options.defaultFilesystem))
      else if key = .delayedCreate then some (.bool true)
      else o.written key := by
  rw [markFresh, h]
  cases key with
  | filesystem => cases hset : o.filesystem <;> simp [Options.written, hset]
  | _ => rfl

/-- A create shows the provider of a fresh volume its options with the mark and a filesystem. -/
theorem toDict_markFresh {look : String → Option Json} {o : Options} (h : Options.Lifts look o)
    (hfresh : o.isCloneOrImport = false) :
    (markFresh o).stripPrivate.toDict = freshened o.stripPrivate.toDict := by
  have hextra : ∀ key : Options.Key, (markFresh o).extra.get? key.name = none := by
    intro key
    rw [extra_markFresh]
    exact h.get?_extra key
  refine Dict.ext_get? fun name => ?_
  simp only [freshened, Dict.get?_insert]
  cases hknown : Options.Key.isKnown name with
  | false =>
    have hne : ∀ key : Options.Key, name ≠ key.name := by
      rintro key rfl
      rw [key.isKnown_name] at hknown
      cases hknown
    rw [if_neg (hne _), if_neg (hne _), Options.get?_toDict_of_unknown _ hknown,
      Options.get?_toDict_of_unknown _ hknown]
    exact congrArg (fun extra : Dict Json => extra.get? name) (extra_markFresh o)
  | true =>
    obtain ⟨key, rfl⟩ := Options.Key.isKnown_iff.1 hknown
    simp only [Options.get?_stripPrivate hextra, Options.get?_stripPrivate h.get?_extra,
      written_markFresh hfresh]
    cases key <;> simp [Options.Key.isPrivate, Options.Key.name]

/-- The provider is asked to create a volume with the options that the layers give, marked if it is
fresh. -/
theorem created_request {c : Config} {host : Host} {r : Runtime.CreateRequest} {es : List Exchange}
    {x : Option Response} (h : (Command.program c host (.create r)).Runs es x)
    {request : Provider.Request} {reply : Except Failure Provider.Response}
    (hmem : ⟨.call (.provider .create request), reply⟩ ∈ es) :
    ∃ options node, Options.layered c.defaults c.selectedDefaults r.opts = .ok options ∧
      request = providerRequest c ⟨r.name, markFresh options, node⟩ := by
  cases hoptions : Options.layered c.defaults c.selectedDefaults r.opts with
  | error f =>
    have hpasses : (Command.program c host (.create r)).Passes noCall noCall
        (some (r.name, .create)) :=
      (create_refused hoptions).andThen (fun _ => trivial) fun _ => trivial
    exact (hpasses.allCalls (fun _ => id) (fun _ => id) h _ hmem _ rfl).elim
  | ok options =>
    have hpasses : (Command.program c host (.create r)).Passes noCall
        (CreatesAs c r.name options) (some (r.name, .create)) :=
      (create_createsAs hoptions).andThen (fun _ => trivial) fun _ => trivial
    obtain ⟨node, hrequest⟩ : CreatesAs c r.name options (.provider .create request) :=
      hpasses.allCalls (fun _ => False.elim) (fun _ => id) h _ hmem _ rfl
    exact ⟨options, node, rfl, hrequest⟩

/-- The provider sees exactly the public options. Whatever request is made of options that a map gives
shows them so; and a create that asks the provider for a volume shows the options of the layers so,
except that those of a fresh volume are marked and have a filesystem. -/
theorem provider_sees_public (c : Config) :
    (∀ map r, Options.ofDict map = .ok (Request.options r) →
      PublicView map.get? (providerRequest c r).opts) ∧
    ∀ host r es x, (Command.program c host (.create r)).Runs es x →
      ∀ request reply, ⟨.call (.provider .create request), reply⟩ ∈ es →
        ∃ view, PublicView (Options.highest c.defaults c.selectedDefaults r.opts) view ∧
          (IsFreshIn view → request.opts = freshened view) ∧
          (¬IsFreshIn view → request.opts = view) := by
  refine ⟨fun map r hmap => ?_, fun host r es x hruns request reply hmem => ?_⟩
  · exact (Options.ofDict_eq_ok_iff_lifts.1 hmap).publicView
  · obtain ⟨options, node, hoptions, rfl⟩ := created_request hruns hmem
    have hlifts := Options.ofDict_eq_ok_iff_lifts.1 hoptions
    rw [funext (Options.get?_layers c.defaults c.selectedDefaults r.opts)] at hlifts
    refine ⟨_, hlifts.publicView, fun hfresh => ?_, fun hdata => ?_⟩
    · exact toDict_markFresh hlifts ((isFreshIn_iff hlifts).1 hfresh)
    · have hclone : options.isCloneOrImport = true := by
        simpa using hdata.imp (isFreshIn_iff hlifts).2
      simp only [providerRequest, markFresh, hclone, if_true]

/-- The creation of a volume with a private option, a blank one and one of the provider's. -/
def createdUntidy : Program.Trace Response Testbed :=
  Program.trace Testbed.perform 20 (Command.program {} cloning.host
    (.create { name := "vol"
               opts := .ofList [("initiators", .string "eth0"), ("cloneOf", .string " "),
                 ("pool", .string " gold ")] })) cloning

/-- Of untidy options the provider sees the normal forms, less those that are private. -/
theorem provider_sees_public_untidy :
    ∃ request reply, ⟨.call (.provider .create request), reply⟩ ∈ createdUntidy.exchanges ∧
      request.opts.get? "filesystem" = some (.string "xfs") ∧
      request.opts.get? "delayedCreate" = some (.bool true) ∧
      request.opts.get? "initiators" = none ∧ request.opts.get? "cloneOf" = none ∧
      request.opts.get? "pool" = some (.string " gold ") := by
  have hmem := List.mem_of_getElem? (i := 1) (l := createdUntidy.exchanges) rfl
  refine ⟨_, _, hmem, ?_⟩
  obtain ⟨view, hview, hfresh, -⟩ :=
    (provider_sees_public {}).2 _ _ _ _ (Program.trace_runs _ _ _ _) _ _ hmem
  have hclone : view.get? "cloneOf" = none := hview.settled .cloneOf rfl
  have himport : view.get? "importVol" = none := hview.settled .importVol rfl
  have hfilesystem : view.get? "filesystem" = none := hview.settled .filesystem rfl
  have hinitiators : view.get? "initiators" = none := hview.hidden .initiators rfl
  have hpool : view.get? "pool" = some (.string " gold ") := hview.passed "pool" rfl
  rw [hfresh ⟨hclone, himport⟩]
  simp [freshened, Dict.get?_insert, Options.Key.name, Options.defaultFilesystem, hclone, hfilesystem,
    hinitiators, hpool]

end Workflow
end VolumeLifecycle
