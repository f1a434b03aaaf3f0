import VolumeLifecycle.Proofs.Workflow.Steps

namespace VolumeLifecycle

/-- An effect that unmounts a single entry of the mount table, or deletes a device. -/
def Effect.TearsDown : Effect → Prop
  | .call c => c.kind = .unmountFileSystem ∨ c.kind = .deleteDevice
  | _ => False

namespace Workflow

variable {es : List Exchange} {name : String} {host : Host}

/-- The unmounts of a row of entries, and how they end: in order, up to the first one that fails for
another reason than that its entry is stale. -/
inductive Unmounted : List Mount → List Exchange → Except Failure Unit → Prop where
  | done : Unmounted [] [] (.ok ())
  | passed (m : Mount) (reply : Except Failure Unit)
      (hstale : ∀ f, reply = .error f → f.isStaleEntry = true) {rest : List Mount}
      {es : List Exchange} {x : Except Failure Unit} (hrest : Unmounted rest es x) :
    Unmounted (m :: rest) (⟨.call (.unmountFileSystem m.mountpoint), reply⟩ :: es) x
  | stuck (m : Mount) (rest : List Mount) {f : Failure} (hf : f.isStaleEntry = false) :
    Unmounted (m :: rest) [⟨.call (.unmountFileSystem m.mountpoint), Except.error f⟩] (.error f)

/-- Entries are unmounted in order, up to the first failure that matters. -/
theorem ends_unmountAll_iff {mounts : List Mount} {x : Except Failure Unit} :
    Ends (unmountAll mounts) es x ↔ Unmounted mounts es x := by
  -- The induction is on the entries: what follows the first one is the same program for the others.
  induction mounts generalizing es with
  | nil =>
    refine ends_pure_iff.trans ⟨?_, ?_⟩
    · rintro ⟨rfl, rfl⟩
      exact .done
    · rintro ⟨⟩
      exact ⟨rfl, rfl⟩
  | cons m rest ih =>
    rw [unmountAll, ends_attempt_bind_iff]
    constructor
    · rintro ⟨reply, es', rfl, h⟩
      cases reply with
      | ok u => exact .passed m (.ok u) nofun (ih.1 h)
      | error f =>
        cases hstale : f.isStaleEntry with
        | true =>
          simp only [hstale, if_true] at h
          exact .passed m (.error f) (fun _ heq => Except.error.inj heq ▸ hstale) (ih.1 h)
        | false =>
          simp only [hstale, Bool.false_eq_true, if_false] at h
          obtain ⟨rfl, rfl⟩ := ends_fail_iff.1 h
          exact .stuck m rest hstale
    · intro h
      cases h with
      | passed _ reply hstale hrest =>
        refine ⟨reply, _, rfl, ?_⟩
        cases reply with
        | ok u => exact ih.2 hrest
        | error f => simpa only [hstale f rfl, if_true] using ih.2 hrest
      | stuck _ _ hf =>
        refine ⟨.error _, [], rfl, ?_⟩
        simpa only [hf, Bool.false_eq_true, if_false] using ends_fail_iff.2 ⟨rfl, rfl⟩

/-- The deletion of the device behind stale entries, which is tried for a shared target only. -/
inductive Deleted (volume : Volume) (device : Device) : List Exchange → Bool → Prop where
  | kept (hown : volume.isSharedTarget = false) : Deleted volume device [] false
  | tried (hshared : volume.isSharedTarget = true) (reply : Except Failure Unit) :
    Deleted volume device [⟨.call (.deleteDevice device), reply⟩] reply.isOk

/-- The device of a shared target is deleted at best effort. -/
theorem ends_deleteShared_bind_iff {β : Type} {volume : Volume} {device : Device}
    {f : Bool → Workflow β} {x : Except Failure β} :
    Ends (deleteShared volume device >>= f) es x ↔
      ∃ deletion rest deleted, es = deletion ++ rest ∧ Deleted volume device deletion deleted ∧
        Ends (f deleted) rest x := by
  unfold deleteShared
  cases hshared : volume.isSharedTarget with
  | false =>
    simp only [Bool.false_eq_true, if_false, pure_bind]
    constructor
    · exact fun h => ⟨[], es, false, rfl, .kept hshared, h⟩
    · rintro ⟨deletion, rest, deleted, rfl, hdeleted, h⟩
      cases hdeleted with
      | kept => exact h
      | tried hshared' => simp [hshared] at hshared'
  | true =>
    simp only [if_true, bind_assoc]
    rw [ends_attempt_bind_iff]
    constructor
    · rintro ⟨reply, rest, rfl, h⟩
      refine ⟨_, rest, _, List.singleton_append.symm, .tried hshared reply, ?_⟩
      cases reply <;> exact h
    · rintro ⟨deletion, rest, deleted, rfl, hdeleted, h⟩
      cases hdeleted with
      | kept hown => simp [hshared] at hown
      | tried _ reply =>
        refine ⟨reply, rest, rfl, ?_⟩
        cases reply <;> exact h

/-- What a repair does once it has found mount entries and the device, and its result. -/
inductive Handled (host : Host) (volume : Volume) (mounts : List Mount) (device : Device) :
    List Exchange → Except Failure Cleanup → Prop where
  | inUseHere (huse : (volume.inUse && volume.isAttachedTo host) = true) :
    Handled host volume mounts device [] (.ok .inUseHere)
  | stuck (huse : (volume.inUse && volume.isAttachedTo host) = false) {unmounts : List Exchange}
      {f : Failure} (hunmounts : Unmounted mounts unmounts (.error f)) :
    Handled host volume mounts device unmounts (.error f)
  | repaired (huse : (volume.inUse && volume.isAttachedTo host) = false)
      {unmounts deletion : List Exchange} (hunmounts : Unmounted mounts unmounts (.ok ()))
      {deleted : Bool} (hdeleted : Deleted volume device deletion deleted) :
    Handled host volume mounts device (unmounts ++ deletion) (.ok (.repaired mounts.length deleted))

theorem ends_handled_iff {volume : Volume} {mounts : List Mount} {device : Device}
    {x : Except Failure Cleanup} :
    Ends (if volume.inUse && volume.isAttachedTo host then return .inUseHere else do
        unmountAll mounts
        let deleted ← deleteShared volume device
        return .repaired mounts.length deleted) es x ↔
      Handled host volume mounts device es x := by
  cases huse : volume.inUse && volume.isAttachedTo host with
  | true =>
    rw [if_pos rfl, ends_pure_iff]
    constructor
    · rintro ⟨rfl, rfl⟩
      exact .inUseHere huse
    · intro h
      cases h with
      | inUseHere => exact ⟨rfl, rfl⟩
      | stuck huse' => simp [huse] at huse'
      | repaired huse' => simp [huse] at huse'
  | false =>
    rw [if_neg Bool.false_ne_true, ends_bind_iff]
    constructor
    · rintro (⟨f, rfl, h⟩ | ⟨_, unmounts, rest, rfl, h, hrest⟩)
      · exact .stuck huse (ends_unmountAll_iff.1 h)
      · obtain ⟨deletion, rest, deleted, rfl, hdeleted, hdone⟩ := ends_deleteShared_bind_iff.1 hrest
        obtain ⟨rfl, rfl⟩ := ends_pure_iff.1 hdone
        rw [List.append_nil]
        exact .repaired huse (ends_unmountAll_iff.1 h) hdeleted
    · intro h
      cases h with
      | inUseHere huse' => simp [huse] at huse'
      | stuck _ hunmounts => exact .inl ⟨_, rfl, ends_unmountAll_iff.2 hunmounts⟩
      | repaired _ hunmounts hdeleted =>
        refine .inr ⟨(), _, _, rfl, ends_unmountAll_iff.2 hunmounts, ?_⟩
        exact ends_deleteShared_bind_iff.2
          ⟨_, [], _, (List.append_nil _).symm, hdeleted, ends_pure_iff.2 ⟨rfl, rfl⟩⟩

/-- What a repair does once it has found mount entries, and its result. -/
inductive Sought (name : String) (host : Host) (volume : Volume) (mounts : List Mount) :
    List Exchange → Except Failure Cleanup → Prop where
  | unasked (f : Failure) :
    Sought name host volume mounts [⟨.call (.getDevice volume), Except.error f⟩] (.error f)
  | missing :
    Sought name host volume mounts [⟨.call (.getDevice volume), Except.ok none⟩]
      (.error (noDevice name mounts volume))
  | found (device : Device) {handling : List Exchange} {x : Except Failure Cleanup}
      (hhandled : Handled host volume mounts device handling x) :
    Sought name host volume mounts
      (⟨.call (.getDevice volume), Except.ok (some device)⟩ :: handling) x

theorem ends_sought_iff {volume : Volume} {mounts : List Mount} {x : Except Failure Cleanup} :
    Ends (do
        match ← call (.getDevice volume) with
        | none => fail (noDevice name mounts volume)
        | some device =>
          if volume.inUse && volume.isAttachedTo host then return .inUseHere
          unmountAll mounts
          let deleted ← deleteShared volume device
          return .repaired mounts.length deleted) es x ↔
      Sought name host volume mounts es x := by
  rw [ends_call_bind_iff]
  constructor
  · rintro (⟨f, rfl, rfl⟩ | ⟨(device : Option Device), es', rfl, hfound⟩)
    · exact .unasked f
    cases device with
    | none =>
      obtain ⟨rfl, rfl⟩ := ends_fail_iff.1 hfound
      exact .missing
    | some d => exact .found d (ends_handled_iff.1 hfound)
  · intro h
    cases h with
    | unasked f => exact .inl ⟨f, rfl, rfl⟩
    | missing => exact .inr ⟨none, [], rfl, ends_fail_iff.2 ⟨rfl, rfl⟩⟩
    | found d hhandled => exact .inr ⟨some d, _, rfl, ends_handled_iff.2 hhandled⟩

inductive Repair (name : String) (host : Host) : List Exchange → Except Failure Cleanup → Prop where
  | unresolved (reply : Except Failure Provider.Response) {f : Failure}
      (hreply : shown name reply = .error f) :
    Repair name host [⟨.call (.provider .get (.named name)), reply⟩] (.error f)
  | unlisted (reply : Except Failure Provider.Response) {volume : Volume}
      (hreply : shown name reply = .ok volume) (f : Failure) :
    Repair name host
      [⟨.call (.provider .get (.named name)), reply⟩,
        ⟨.call (.getMounts volume.serialNumber), Except.error f⟩]
      (.error f)
  | nothing (reply : Except Failure Provider.Response) {volume : Volume}
      (hreply : shown name reply = .ok volume) :
    Repair name host
      [⟨.call (.provider .get (.named name)), reply⟩,
        ⟨.call (.getMounts volume.serialNumber), Except.ok []⟩]
      (.ok .nothingToRepair)
  | listed (reply : Except Failure Provider.Response) {volume : Volume}
      (hreply : shown name reply = .ok volume) {mounts : List Mount} (hmounts : mounts ≠ [])
      {es : List Exchange} {x : Except Failure Cleanup}
      (hsought : Sought name host volume mounts es x) :
    Repair name host
      (⟨.call (.provider .get (.named name)), reply⟩ ::
        ⟨.call (.getMounts volume.serialNumber), Except.ok mounts⟩ :: es)
      x

/-- The exchanges with which a repair ends, and its results. -/
theorem ends_reconcile_iff {x : Except Failure Cleanup} :
    Ends (reconcile name host) es x ↔ Repair name host es x := by
  refine ends_fetch_bind_iff.trans ⟨?_, ?_⟩
  · rintro ⟨reply, es₁, rfl, h⟩
    cases hreply : shown name reply with
    | error f =>
      rw [hreply] at h
      obtain ⟨rfl, rfl⟩ := h
      exact .unresolved reply hreply
    | ok volume =>
      rw [hreply] at h
      rcases ends_call_bind_iff.1 h with ⟨f, rfl, rfl⟩ | ⟨(mounts : List Mount), es₂, rfl, hlisted⟩
      · exact .unlisted reply hreply f
      cases mounts with
      | nil =>
        obtain ⟨rfl, rfl⟩ := ends_pure_iff.1 hlisted
        exact .nothing reply hreply
      | cons m rest =>
        exact .listed reply hreply (List.cons_ne_nil m rest) (ends_sought_iff.1 hlisted)
  · intro h
    cases h with
    | unresolved reply hreply => exact ⟨reply, [], rfl, by rw [hreply]; exact ⟨rfl, rfl⟩⟩
    | unlisted reply hreply f =>
      refine ⟨reply, _, rfl, ?_⟩
      rw [hreply]
      exact ends_call_bind_iff.2 (.inl ⟨f, rfl, rfl⟩)
    | nothing reply hreply =>
      refine ⟨reply, _, rfl, ?_⟩
      rw [hreply]
      exact ends_call_bind_iff.2 (.inr ⟨([] : List Mount), [], rfl, ends_pure_iff.2 ⟨rfl, rfl⟩⟩)
    | @listed reply volume hreply mounts hmounts es x hsought =>
      refine ⟨reply, _, rfl, ?_⟩
      rw [hreply]
      refine ends_call_bind_iff.2 (.inr ⟨mounts, es, rfl, ?_⟩)
      cases mounts with
      | nil => exact absurd rfl hmounts
      | cons m rest => exact ends_sought_iff.2 hsought

/-- A repair begins with the question for the volume. -/
theorem Repair.exists_question {x : Except Failure Cleanup} (h : Repair name host es x) :
    ∃ reply rest, es = ⟨.call (.provider .get (.named name)), reply⟩ :: rest := by
  cases h <;> exact ⟨_, _, rfl⟩

/-- A repair that has asked for the volume finds mount entries for it, and its device. -/
def FindsEntries (volume : Volume) (es : List Exchange) : Prop :=
  ∃ (mounts : List Mount) (device : Device) (rest : _), mounts ≠ [] ∧
    es = ⟨.call (.getMounts volume.serialNumber), Except.ok mounts⟩ ::
      ⟨.call (.getDevice volume), Except.ok (some device)⟩ :: rest

/-- To unmount entries is to tear something down. -/
theorem Unmounted.tearsDown {mounts : List Mount} {x : Except Failure Unit}
    (h : Unmounted mounts es x) (hmounts : mounts ≠ []) : ∃ ex ∈ es, ex.effect.TearsDown := by
  cases h with
  | done => exact absurd rfl hmounts
  | passed => exact ⟨_, List.mem_cons_self, .inl rfl⟩
  | stuck => exact ⟨_, List.mem_cons_self, .inl rfl⟩

/-- What a repair has found it tears down if and only if this node does not rightly use it. -/
theorem Handled.tearsDown_iff {volume : Volume} {mounts : List Mount} {device : Device}
    {x : Except Failure Cleanup} (h : Handled host volume mounts device es x) (hmounts : mounts ≠ []) :
    (∃ ex ∈ es, ex.effect.TearsDown) ↔ (volume.inUse && volume.isAttachedTo host) = false := by
  cases h with
  | inUseHere huse => simp [huse]
  | stuck huse hunmounts => exact iff_of_true (hunmounts.tearsDown hmounts) huse
  | repaired huse hunmounts _ =>
    obtain ⟨ex, hex, htears⟩ := hunmounts.tearsDown hmounts
    exact iff_of_true ⟨ex, List.mem_append_left _ hex, htears⟩ huse

/-- A repair that has been shown the volume tears something down if and only if it finds mount entries
and the device of a volume that this node does not rightly use. -/
theorem Repair.tearsDown_iff {x : Except Failure Cleanup} {reply : Except Failure Provider.Response}
    {volume : Volume}
    (h : Repair name host (⟨.call (.provider .get (.named name)), reply⟩ :: es) x)
    (hreply : shown name reply = .ok volume) :
    (∃ ex ∈ es, ex.effect.TearsDown) ↔
      FindsEntries volume es ∧ (volume.inUse && volume.isAttachedTo host) = false := by
  have hcalm : ∀ {es : List Exchange}, (∀ ex ∈ es, ¬ ex.effect.TearsDown) → ¬ FindsEntries volume es →
      ((∃ ex ∈ es, ex.effect.TearsDown) ↔
        FindsEntries volume es ∧ (volume.inUse && volume.isAttachedTo host) = false) :=
    fun hnone hnot => iff_of_false (fun ⟨ex, hex, htears⟩ => hnone ex hex htears) fun hfinds =>
      hnot hfinds.1
  cases h with
  | unresolved _ hfailed => cases hfailed.symm.trans hreply
  | unlisted _ hreply' f =>
    cases hreply'.symm.trans hreply
    exact hcalm (by simp [Effect.TearsDown, Call.kind]) (by rintro ⟨_, _, _, -, heq⟩; cases heq)
  | nothing _ hreply' =>
    cases hreply'.symm.trans hreply
    exact hcalm (by simp [Effect.TearsDown, Call.kind]) (by rintro ⟨_, _, _, -, heq⟩; cases heq)
  | @listed _ _ hreply' mounts hmounts _ _ hsought =>
    cases hreply'.symm.trans hreply
    cases hsought with
    | unasked f =>
      exact hcalm (by simp [Effect.TearsDown, Call.kind]) (by rintro ⟨_, _, _, -, heq⟩; cases heq)
    | missing =>
      exact hcalm (by simp [Effect.TearsDown, Call.kind]) (by rintro ⟨_, _, _, -, heq⟩; cases heq)
    | @found device handling _ hhandled =>
      have hfinds : FindsEntries volume (⟨.call (.getMounts volume.serialNumber), Except.ok mounts⟩ ::
          ⟨.call (.getDevice volume), Except.ok (some device)⟩ :: handling) :=
        ⟨mounts, device, handling, hmounts, rfl⟩
      rw [and_iff_right hfinds, ← hhandled.tearsDown_iff hmounts]
      simp [Effect.TearsDown, Call.kind]

end Workflow
end VolumeLifecycle
