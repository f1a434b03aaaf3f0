import VolumeLifecycle.Proofs.Workflow.Discipline
import VolumeLifecycle.Proofs.Workflow.Removal
import VolumeLifecycle.Proofs.Workflow.RepairCourse

namespace VolumeLifecycle

/-- The text of the failure says that there is nothing left to unmount. -/
def Failure.SaysClean (f : Failure) : Prop :=
  f.Says "not found" ∨ f.Says "not mounted" ∨ f.Says "no such file"

/-- Whether nothing is left to unmount is read off the text of the failure. -/
theorem Failure.isAlreadyClean_iff {f : Failure} : f.isAlreadyClean = true ↔ f.SaysClean := by
  simp only [isAlreadyClean, Bool.or_eq_true, isNotFound_iff, hasFragment_message_iff, SaysClean,
    or_assoc]

namespace Workflow

variable {c : Config} {r : Request} {volume : Volume} {request : Provider.Request}
  {es : List Exchange} {x : Except Failure Unit}

/-- What a remove does inside of the gate, and its result. -/
structure RemoveCourse (c : Config) (r : Request) (es : List Exchange) (x : Except Failure Unit) :
    Prop where
  removal : Removal c r es x
  /-- If the volume was shown, it is waited for if and only if it is in use by its status, and then it
  is unmounted. -/
  waits : ∀ fetched volume, shown r.name fetched = .ok volume →
    es.head? = some ⟨.call (.provider .get (providerRequest c r)), fetched⟩ →
    ∃ waiting unmounted later,
      es = ⟨.call (.provider .get (providerRequest c r)), fetched⟩ ::
        (waiting ++ ⟨.call (.unmountDevice volume), unmounted⟩ :: later) ∧
      (volume.statusInUse = true ∧ waiting ≠ [] ∧
          (∃ verdict, Ends (awaitConflict c .delete r) waiting (.ok verdict)) ∨
        volume.statusInUse = false ∧ waiting = [])
  /-- The provider is told to delete the volume if and only if the volume was shown, and was unmounted
  or had nothing to unmount. -/
  removes : .provider .remove ∈ kinds es ↔ ∃ fetched volume unmounted,
    es.head? = some ⟨.call (.provider .get (providerRequest c r)), fetched⟩ ∧
      shown r.name fetched = .ok volume ∧ ⟨.call (.unmountDevice volume), unmounted⟩ ∈ es ∧
      ∀ f, unmounted = .error f → f.SaysClean
  /-- This is the last call. The release of the volume comes right before it, whatever comes of that,
  and before the release there are only questions, updates and the unmount. -/
  last : .provider .remove ∈ kinds es → ∃ first volume released removed,
    es = first ++ (released ++ [⟨.call (.provider .remove (providerRequest c r)), removed⟩]) ∧
      Released volume (providerRequest c r) released ∧ x = checked removed ∧
      ∀ kind ∈ kinds first, kind = .provider .get ∨ kind = .provider .update ∨ kind = .unmountDevice
  once : .provider .remove ∈ kinds es →
    ∀ kind ∈ [.provider .remove, .getDevice, .provider .detach], (kinds es).count kind = 1
  succeeds : x = .ok () ↔ ∃ response : Provider.Response, response.err = "" ∧
    ⟨.call (.provider .remove (providerRequest c r)), Except.ok response⟩ ∈ es

/-- There is a wait exactly if the volume's status says that it is in use. -/
theorem waited_cases (h : Waited c r volume es) :
    volume.statusInUse = true ∧ es ≠ [] ∧
        (∃ verdict, Ends (awaitConflict c .delete r) es (.ok verdict)) ∨
      volume.statusInUse = false ∧ es = [] := by
  cases h with
  | unneeded hfree => exact .inr ⟨hfree, rfl⟩
  | ended hinUse hwait =>
    obtain ⟨time, reply, rest, rfl, -⟩ := ends_await_start hwait
    exact .inl ⟨hinUse, List.cons_ne_nil _ _, _, hwait⟩

/-- A conflict wait makes two kinds of calls. -/
theorem kinds_of_waited (h : Waited c r volume es) :
    ∀ kind ∈ kinds es, kind = .provider .get ∨ kind = .provider .update := by
  intro kind hkind
  cases h with
  | unneeded => cases hkind
  | ended _ hwait =>
    have hkeeps : Program.Keeps (fun call => call.kind = .provider .get ∨ call.kind = .provider .update)
        (awaitConflict c .delete r).run := keeps_await (fun _ => ⟨.inl rfl, .inr rfl⟩) _
    obtain ⟨call, hcall, rfl⟩ := (hkeeps.allCalls hwait).exists_of_mem_kinds hkind
    exact hcall

/-- A reply is fine if it carries no error. -/
theorem checked_eq_ok_iff {reply : Except Failure Provider.Response} :
    checked reply = .ok () ↔
      ∃ response : Provider.Response, response.err = "" ∧ reply = .ok response := by
  cases reply with
  | error f => simp [checked]
  | ok response =>
    by_cases herr : response.err = "" <;>
      simp [checked, Provider.Response.check, Except.map, herr]

theorem not_mem_of_waited (h : Waited c r volume es) {call : Call} {reply : call.Reply}
    (hget : call.kind ≠ .provider .get) (hupdate : call.kind ≠ .provider .update) :
    ⟨.call call, reply⟩ ∉ es := fun hmem =>
  (kinds_of_waited h _ (kind_mem_kinds hmem)).elim hget hupdate

theorem Removal.waits (h : Removal c r es x) {fetched : Except Failure Provider.Response}
    (hshown : shown r.name fetched = .ok volume)
    (hfirst : es.head? = some ⟨.call (.provider .get (providerRequest c r)), fetched⟩) :
    ∃ waiting unmounted later,
      es = ⟨.call (.provider .get (providerRequest c r)), fetched⟩ ::
        (waiting ++ ⟨.call (.unmountDevice volume), unmounted⟩ :: later) ∧
      (volume.statusInUse = true ∧ waiting ≠ [] ∧
          (∃ verdict, Ends (awaitConflict c .delete r) waiting (.ok verdict)) ∨
        volume.statusInUse = false ∧ waiting = []) := by
  cases h with
  | unresolved reply hreply =>
    cases hfirst
    cases hreply.symm.trans hshown
  | stuck reply hreply hwaiting hf =>
    cases hfirst
    cases hreply.symm.trans hshown
    exact ⟨_, _, [], rfl, waited_cases hwaiting⟩
  | asked reply hreply hwaiting unmounted hclean hreleased removed =>
    cases hfirst
    cases hreply.symm.trans hshown
    exact ⟨_, _, _, rfl, waited_cases hwaiting⟩

def askedRow (c : Config) (r : Request) (volume : Volume) (fetched : Except Failure Provider.Response)
    (waiting : List Exchange) (unmounted : Except Failure Unit) (released : List Exchange)
    (removed : Except Failure Provider.Response) : List Exchange :=
  ⟨.call (.provider .get (providerRequest c r)), fetched⟩ ::
    (waiting ++ ⟨.call (.unmountDevice volume), unmounted⟩ ::
      (released ++ [⟨.call (.provider .remove (providerRequest c r)), removed⟩]))

theorem kinds_askedRow {fetched removed : Except Failure Provider.Response}
    {waiting released : List Exchange} {unmounted : Except Failure Unit} :
    kinds (askedRow c r volume fetched waiting unmounted released removed) =
      .provider .get :: (kinds waiting ++ .unmountDevice :: (kinds released ++ [.provider .remove])) := by
  have hlast : kinds (⟨.call (.unmountDevice volume), unmounted⟩ ::
      (released ++ [⟨.call (.provider .remove (providerRequest c r)), removed⟩])) =
      .unmountDevice :: (kinds released ++ [.provider .remove]) :=
    congrArg (_ :: ·) (kinds_append _ _)
  exact congrArg (_ :: ·) ((kinds_append _ _).trans (congrArg _ hlast))

theorem removed_mem_askedRow {fetched removed : Except Failure Provider.Response}
    {waiting released : List Exchange} {unmounted : Except Failure Unit} :
    ⟨.call (.provider .remove (providerRequest c r)), removed⟩ ∈
      askedRow c r volume fetched waiting unmounted released removed :=
  List.mem_cons_of_mem _ (List.mem_append_right _
    (List.mem_cons_of_mem _ (List.mem_append_right _ List.mem_cons_self)))

/-- A remove that does not get beyond the unmount does not tell the provider to delete the volume. -/
theorem not_remove_of_stuck {fetched : Except Failure Provider.Response} {waiting : List Exchange}
    (hwaiting : Waited c r volume waiting) {unmounted : Except Failure Unit} :
    .provider .remove ∉ kinds (⟨.call (.provider .get (providerRequest c r)), fetched⟩ ::
      (waiting ++ [⟨.call (.unmountDevice volume), unmounted⟩])) := by
  change .provider .remove ∉ .provider .get :: kinds (waiting ++ _)
  rw [kinds_append]
  intro hmem
  rcases List.mem_cons.1 hmem with heq | hmem
  · cases heq
  rcases List.mem_append.1 hmem with hmem | hmem
  · rcases kinds_of_waited hwaiting _ hmem with heq | heq <;> cases heq
  · cases List.mem_singleton.1 hmem

/-- A remove that tells the provider to delete the volume has made all of its calls. -/
theorem Removal.exists_askedRow (h : Removal c r es x) (hremove : .provider .remove ∈ kinds es) :
    ∃ volume fetched waiting unmounted released removed, Waited c r volume waiting ∧
      Released volume (providerRequest c r) released ∧ x = checked removed ∧
      es = askedRow c r volume fetched waiting unmounted released removed := by
  cases h with
  | unresolved => cases List.mem_singleton.1 hremove
  | stuck _ _ hwaiting => exact absurd hremove (not_remove_of_stuck hwaiting)
  | asked _ _ hwaiting _ _ hreleased removed =>
    exact ⟨_, _, _, _, _, removed, hwaiting, hreleased, rfl, rfl⟩

/-- The deletion by the provider is the last call, and follows the release of the volume. -/
theorem Removal.last (h : Removal c r es x) (hremove : .provider .remove ∈ kinds es) :
    ∃ first volume released removed,
      es = first ++ (released ++ [⟨.call (.provider .remove (providerRequest c r)), removed⟩]) ∧
        Released volume (providerRequest c r) released ∧ x = checked removed ∧
        ∀ kind ∈ kinds first,
          kind = .provider .get ∨ kind = .provider .update ∨ kind = .unmountDevice := by
  obtain ⟨volume, fetched, waiting, unmounted, released, removed, hwaiting, hreleased, rfl, rfl⟩ :=
    h.exists_askedRow hremove
  refine ⟨⟨.call (.provider .get (providerRequest c r)), fetched⟩ ::
    (waiting ++ [⟨.call (.unmountDevice volume), unmounted⟩]), volume, released, removed,
    by simp [askedRow], hreleased, rfl, ?_⟩
  change ∀ kind ∈ .provider .get :: kinds (waiting ++ _), _
  rw [kinds_append]
  intro kind hkind
  rcases List.mem_cons.1 hkind with rfl | hkind
  · exact .inl rfl
  rcases List.mem_append.1 hkind with hkind | hkind
  · exact (kinds_of_waited hwaiting _ hkind).imp id .inl
  · exact .inr (.inr (List.mem_singleton.1 hkind))

/-- If the volume is deleted, the look-up, the detach and the deletion are made once each. -/
theorem Removal.once (h : Removal c r es x) (hremove : .provider .remove ∈ kinds es) :
    ∀ kind ∈ [.provider .remove, .getDevice, .provider .detach], (kinds es).count kind = 1 := by
  obtain ⟨volume, fetched, waiting, unmounted, released, removed, hwaiting, hreleased, rfl, rfl⟩ :=
    h.exists_askedRow hremove
  have hwait : ∀ kind : Call.Kind, kind ≠ .provider .get → kind ≠ .provider .update →
      (kinds waiting).count kind = 0 := fun kind hget hupdate =>
    List.count_eq_zero.2 fun hmem => (kinds_of_waited hwaiting _ hmem).elim hget hupdate
  rw [kinds_askedRow]
  rcases kinds_of_released hreleased with hkinds | hkinds <;>
    simp [hkinds, List.count_cons, hwait]

theorem Removal.removes_iff (h : Removal c r es x) :
    .provider .remove ∈ kinds es ↔ ∃ fetched volume unmounted,
      es.head? = some ⟨.call (.provider .get (providerRequest c r)), fetched⟩ ∧
        shown r.name fetched = .ok volume ∧ ⟨.call (.unmountDevice volume), unmounted⟩ ∈ es ∧
        ∀ f, unmounted = .error f → f.SaysClean := by
  cases h with
  | unresolved reply hreply =>
    constructor
    · intro hmem
      cases List.mem_singleton.1 hmem
    · rintro ⟨fetched, volume, unmounted, hfirst, hshown, -⟩
      cases hfirst
      cases hreply.symm.trans hshown
  | @stuck reply volume hreply waiting hwaiting f hf =>
    refine ⟨fun hmem => absurd hmem (not_remove_of_stuck hwaiting), ?_⟩
    rintro ⟨fetched, volume', unmounted, hfirst, hshown, hunmounted, hclean⟩
    cases hfirst
    cases hreply.symm.trans hshown
    rcases List.mem_cons.1 hunmounted with heq | hmem
    · cases heq
    rcases List.mem_append.1 hmem with hmem | hmem
    · exact absurd hmem (not_mem_of_waited hwaiting nofun nofun)
    · cases List.mem_singleton.1 hmem
      cases hf.symm.trans (Failure.isAlreadyClean_iff.2 (hclean f rfl))
  | @asked reply volume hreply waiting hwaiting unmounted hclean released hreleased removed =>
    constructor
    · intro _
      refine ⟨reply, volume, unmounted, rfl, hreply, by simp, fun f hf => ?_⟩
      exact Failure.isAlreadyClean_iff.1 (hclean f hf)
    · exact fun _ => kind_mem_kinds removed_mem_askedRow

theorem removed_of_mem_askedRow {fetched removed reply : Except Failure Provider.Response}
    {waiting released : List Exchange} {unmounted : Except Failure Unit}
    (hwaiting : Waited c r volume waiting)
    (hreleased : Released volume (providerRequest c r) released)
    (hmem : ⟨.call (.provider .remove (providerRequest c r)), reply⟩ ∈
      askedRow c r volume fetched waiting unmounted released removed) : reply = removed := by
  rcases List.mem_cons.1 hmem with heq | hmem
  · cases heq
  rcases List.mem_append.1 hmem with hmem | hmem
  · exact absurd hmem (not_mem_of_waited hwaiting nofun nofun)
  rcases List.mem_cons.1 hmem with heq | hmem
  · cases heq
  rcases List.mem_append.1 hmem with hmem | hmem
  · have hkind := kind_mem_kinds hmem
    rcases kinds_of_released hreleased with hkinds | hkinds <;> rw [hkinds] at hkind <;>
      cases hkind <;> contradiction
  · cases List.mem_singleton.1 hmem
    rfl

/-- The remove has succeeded if and only if the provider has deleted the volume. -/
theorem Removal.succeeds_iff (h : Removal c r es x) :
    x = .ok () ↔ ∃ response : Provider.Response, response.err = "" ∧
      ⟨.call (.provider .remove (providerRequest c r)), Except.ok response⟩ ∈ es := by
  constructor
  · intro hok
    cases h with
    | unresolved => cases hok
    | stuck => cases hok
    | asked =>
      obtain ⟨response, herr, rfl⟩ := checked_eq_ok_iff.1 hok
      exact ⟨response, herr, removed_mem_askedRow⟩
  · rintro ⟨response, herr, hmem⟩
    obtain ⟨volume, fetched, waiting, unmounted, released, removed, hwaiting, hreleased, rfl, rfl⟩ :=
      h.exists_askedRow (kind_mem_kinds hmem)
    exact checked_eq_ok_iff.2
      ⟨response, herr, (removed_of_mem_askedRow hwaiting hreleased hmem).symm⟩

theorem Removal.course (h : Removal c r es x) : RemoveCourse c r es x where
  removal := h
  waits _ _ := h.waits
  removes := h.removes_iff
  last := h.last
  once := h.once
  succeeds := h.succeeds_iff

/-- The exchanges with which removes end, and their answers. Whatever the collaborators reply, what
happens inside of the gate is a course as above if the wait comes to an end, and the answer carries its
result; every such course can happen. -/
theorem remove_course {c : Config} {current : Host} {request : Runtime.NameRequest}
    {es : List Exchange} {answer : Response} :
    ((Command.remove request).program c current).Runs es (some answer) ↔
      ∃ result, answer = .driver (.ofResult result) ∧
        Gathered request.name .empty (RemoveCourse c) es result := by
  refine Command.runs_answering_iff.trans (exists_congr fun result => ?_)
  rw [and_comm]
  exact and_congr_right fun _ => ends_gathered_iff fun _ _ _ =>
    ends_removeLocked_iff.trans ⟨Removal.course, RemoveCourse.removal⟩

end Workflow
end VolumeLifecycle
