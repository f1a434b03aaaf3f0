import VolumeLifecycle.Proofs.Conflict.Questions
import VolumeLifecycle.Proofs.Workflow.Steps

namespace VolumeLifecycle.Workflow

variable {c : Config} {r : Request} {es : List Exchange}

inductive Waited (c : Config) (r : Request) (volume : Volume) : List Exchange → Prop where
  | unneeded (hfree : volume.statusInUse = false) : Waited c r volume []
  | ended (hinUse : volume.statusInUse = true) {waiting : List Exchange}
      {verdict : Conflict.Verdict} (hwait : Ends (awaitConflict c .delete r) waiting (.ok verdict)) :
    Waited c r volume waiting

/-- What a remove does inside of the gate, and its result. -/
inductive Removal (c : Config) (r : Request) : List Exchange → Except Failure Unit → Prop where
  | unresolved (reply : Except Failure Provider.Response) {f : Failure}
      (hreply : shown r.name reply = .error f) :
    Removal c r [⟨.call (.provider .get (providerRequest c r)), reply⟩] (.error f)
  /-- The volume could not be unmounted here. -/
  | stuck (reply : Except Failure Provider.Response) {volume : Volume}
      (hreply : shown r.name reply = .ok volume) {waiting : List Exchange}
      (hwaiting : Waited c r volume waiting) {f : Failure} (hf : f.isAlreadyClean = false) :
    Removal c r
      (⟨.call (.provider .get (providerRequest c r)), reply⟩ ::
        (waiting ++ [⟨.call (.unmountDevice volume), Except.error f⟩]))
      (.error f)
  | asked (reply : Except Failure Provider.Response) {volume : Volume}
      (hreply : shown r.name reply = .ok volume) {waiting : List Exchange}
      (hwaiting : Waited c r volume waiting) (unmounted : Except Failure Unit)
      (hclean : ∀ f, unmounted = .error f → f.isAlreadyClean = true) {released : List Exchange}
      (hreleased : Released volume (providerRequest c r) released)
      (removed : Except Failure Provider.Response) :
    Removal c r
      (⟨.call (.provider .get (providerRequest c r)), reply⟩ ::
        (waiting ++ ⟨.call (.unmountDevice volume), unmounted⟩ ::
          (released ++ [⟨.call (.provider .remove (providerRequest c r)), removed⟩])))
      (checked removed)

theorem unmountForRemoval_eq_tolerate (volume : Volume) :
    unmountForRemoval volume = (attempt (.unmountDevice volume) >>= fun reply =>
      ofExcept (tolerate Failure.isAlreadyClean reply)) := by
  refine bind_congr fun reply => ?_
  cases reply with
  | ok u => rfl
  | error f =>
    simp only [tolerate]
    split <;> rfl

/-- The unmount of a remove is one call, and a volume that is clean already is fine. -/
theorem ends_unmountForRemoval_iff {volume : Volume} {x : Except Failure Unit} :
    Ends (unmountForRemoval volume) es x ↔ ∃ unmounted : Except Failure Unit,
      es = [⟨.call (.unmountDevice volume), unmounted⟩] ∧
        x = tolerate Failure.isAlreadyClean unmounted := by
  rw [unmountForRemoval_eq_tolerate]
  exact ends_settled_iff

/-- A remove waits only for a volume that its status says is in use. -/
theorem ends_waited_bind_iff {volume : Volume} {w : Workflow Unit} {x : Except Failure Unit} :
    Ends (if volume.statusInUse then do
        let _ ← awaitConflict c .delete r
        w
      else w) es x ↔
      ∃ waiting rest, es = waiting ++ rest ∧ Waited c r volume waiting ∧ Ends w rest x := by
  cases hinUse : volume.statusInUse with
  | false =>
    simp only [Bool.false_eq_true, if_false]
    constructor
    · exact fun h => ⟨[], es, rfl, .unneeded hinUse, h⟩
    · rintro ⟨waiting, rest, rfl, hwaiting, h⟩
      cases hwaiting with
      | unneeded => exact h
      | ended hinUse' => simp [hinUse] at hinUse'
  | true =>
    simp only [if_true]
    rw [ends_bind_iff]
    constructor
    · rintro (⟨e, rfl, h⟩ | ⟨verdict, waiting, rest, rfl, hwait, h⟩)
      · obtain ⟨_, hok⟩ := ends_await h
        cases hok
      · exact ⟨waiting, rest, rfl, .ended hinUse hwait, h⟩
    · rintro ⟨waiting, rest, rfl, hwaiting, h⟩
      cases hwaiting with
      | unneeded hfree => simp [hinUse] at hfree
      | ended _ hwait => exact .inr ⟨_, waiting, rest, rfl, hwait, h⟩

/-- The exchanges with which a remove ends, and its results. -/
theorem ends_removeLocked_iff {x : Except Failure Unit} :
    Ends (removeLocked c r) es x ↔ Removal c r es x := by
  refine ends_fetch_bind_iff.trans ⟨?_, ?_⟩
  · rintro ⟨reply, es₁, rfl, h⟩
    cases hreply : shown r.name reply with
    | error f =>
      rw [hreply] at h
      obtain ⟨rfl, rfl⟩ := h
      exact .unresolved reply hreply
    | ok volume =>
      rw [hreply] at h
      obtain ⟨waiting, es₂, rfl, hwaiting, hrest⟩ := ends_waited_bind_iff.1 h
      rcases ends_bind_iff.1 hrest with ⟨e, rfl, hunmount⟩ | ⟨_, es₃, es₄, rfl, hunmount, hfreed⟩
      · obtain ⟨unmounted, rfl, he⟩ := ends_unmountForRemoval_iff.1 hunmount
        obtain ⟨rfl, hf⟩ := tolerate_eq_error_iff.1 he.symm
        exact .stuck reply hreply hwaiting hf
      · obtain ⟨unmounted, rfl, hok⟩ := ends_unmountForRemoval_iff.1 hunmount
        have hclean := tolerate_eq_ok_iff.1 hok.symm
        rcases ends_bind_iff.1 hfreed with ⟨e, rfl, hrelease⟩ | ⟨_, es₅, es₆, rfl, hrelease, hlast⟩
        · obtain ⟨-, _, hreport⟩ := ends_releaseHostSide hrelease
          cases hreport
        · obtain ⟨removed, rfl, rfl⟩ := ends_provider_check_iff.1 hlast
          exact .asked reply hreply hwaiting unmounted hclean (ends_releaseHostSide hrelease).1 removed
  · intro h
    cases h with
    | unresolved reply hreply => exact ⟨reply, [], rfl, by rw [hreply]; exact ⟨rfl, rfl⟩⟩
    | stuck reply hreply hwaiting hf =>
      refine ⟨reply, _, rfl, ?_⟩
      rw [hreply]
      refine ends_waited_bind_iff.2 ⟨_, _, rfl, hwaiting, ends_bind_iff.2 (.inl ⟨_, rfl, ?_⟩)⟩
      exact ends_unmountForRemoval_iff.2 ⟨.error _, rfl, (tolerate_eq_error_iff.2 ⟨rfl, hf⟩).symm⟩
    | asked reply hreply hwaiting unmounted hclean hreleased removed =>
      obtain ⟨report, hrelease⟩ := hreleased.ends
      refine ⟨reply, _, rfl, ?_⟩
      rw [hreply]
      refine ends_waited_bind_iff.2 ⟨_, _, rfl, hwaiting, ends_bind_iff.2 (.inr ⟨(), _, _,
        List.singleton_append.symm, ?_, ends_bind_iff.2 (.inr ⟨report, _, _, rfl, hrelease,
          ends_provider_check_iff.2 ⟨removed, rfl, rfl⟩⟩)⟩)⟩
      exact ends_unmountForRemoval_iff.2 ⟨unmounted, rfl, (tolerate_eq_ok_iff.2 hclean).symm⟩

end VolumeLifecycle.Workflow
