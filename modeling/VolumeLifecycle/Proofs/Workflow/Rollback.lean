import VolumeLifecycle.Proofs.Program.Ends
import VolumeLifecycle.Proofs.Program.Performed

namespace VolumeLifecycle.Workflow

variable {volume : Volume} {request : Provider.Request} {mountpoint : Path} {first : Failure}
  {es : List Exchange}

/-- The device that a look-up has found. A look-up that fails counts as finding none. -/
def deviceFound : Except Failure (Option Device) → Option Device
  | .ok device => device
  | .error _ => none

/-- The exchanges of a release. Every step is tried whatever the earlier ones have returned; a device
is taken offline and deleted if and only if the look-up has found one. -/
inductive Released (volume : Volume) (request : Provider.Request) : List Exchange → Prop where
  | found (d : Device) (offlined deleted : Except Failure Unit)
      (detached : Except Failure Provider.Response) :
    Released volume request
      [⟨.call (.getDevice volume), Except.ok (some d)⟩, ⟨.call (.offlineDevice d), offlined⟩,
        ⟨.call (.provider .detach request), detached⟩, ⟨.call (.deleteDevice d), deleted⟩]
  | absent (lookup : Except Failure (Option Device)) (hlookup : deviceFound lookup = none)
      (detached : Except Failure Provider.Response) :
    Released volume request
      [⟨.call (.getDevice volume), lookup⟩, ⟨.call (.provider .detach request), detached⟩]

/-- A release makes four calls if a device is found, and two if not. -/
theorem kinds_of_released (h : Released volume request es) :
    kinds es = [.getDevice, .offlineDevice, .provider .detach, .deleteDevice] ∨
      kinds es = [.getDevice, .provider .detach] := by
  cases h with
  | found => exact .inl rfl
  | absent => exact .inr rfl

section Steps

variable {β : Type} {x : Except Failure β}

/-- A look-up of a device never fails; one that does counts as finding none. -/
theorem ends_resolveDevice_bind_iff {f : Option Device → Workflow β} :
    Ends (resolveDevice volume >>= f) es x ↔ ∃ (lookup : Except Failure (Option Device)) (es' : _),
      es = ⟨.call (.getDevice volume), lookup⟩ :: es' ∧ Ends (f (deviceFound lookup)) es' x := by
  rw [resolveDevice, bind_assoc, ends_attempt_bind_iff]
  refine exists_congr fun lookup => exists_congr fun es' => and_congr_right fun _ => ?_
  cases lookup <;> rfl

/-- A step at best effort is one call, after which the workflow goes on. -/
theorem ends_provideBestEffort_bind_iff {step : String} {op : Provider.Op}
    {f : BestEffort.Outcome → Workflow β} :
    Ends (provideBestEffort step op request >>= f) es x ↔
      ∃ (reply : Except Failure Provider.Response) (es' : _),
        es = ⟨.call (.provider op request), reply⟩ :: es' ∧
          Ends (f (.attempted step (checked reply))) es' x := by
  rw [provideBestEffort, bind_assoc, ends_attempt_bind_iff]
  rfl

/-- The offline step of a release never fails. -/
theorem ends_offline_bind_iff {d : Device} {f : BestEffort.Outcome → Workflow β} :
    Ends (offline d >>= f) es x ↔ ∃ (reply : Except Failure Unit) (es' : _),
      es = ⟨.call (.offlineDevice d), reply⟩ :: es' ∧
        Ends (f (.attempted "offline device" reply)) es' x := by
  rw [offline, bind_assoc, ends_attempt_bind_iff]
  rfl

/-- The deletion of a device in a release never fails. -/
theorem ends_delete_bind_iff {d : Device} {f : BestEffort.Outcome → Workflow β} :
    Ends (delete d >>= f) es x ↔ ∃ (reply : Except Failure Unit) (es' : _),
      es = ⟨.call (.deleteDevice d), reply⟩ :: es' ∧
        Ends (f (.attempted "delete device" reply)) es' x := by
  rw [delete, bind_assoc, ends_attempt_bind_iff]
  rfl

end Steps

/-- A release does not fail, and its exchanges are those that the look-up calls for. -/
theorem ends_releaseHostSide {x : Except Failure BestEffort.Report}
    (h : Ends (releaseHostSide volume request) es x) :
    Released volume request es ∧ ∃ report, x = .ok report := by
  obtain ⟨lookup, es₁, rfl, hlooked⟩ := ends_resolveDevice_bind_iff.1 h
  cases hfound : deviceFound lookup with
  | none =>
    rw [hfound] at hlooked
    obtain ⟨detached, es₂, rfl, hdetached⟩ := ends_provideBestEffort_bind_iff.1 hlooked
    obtain ⟨rfl, rfl⟩ := ends_pure_iff.1 hdetached
    exact ⟨.absent lookup hfound detached, _, rfl⟩
  | some d =>
    rw [hfound] at hlooked
    obtain ⟨offlined, es₂, rfl, hofflined⟩ := ends_offline_bind_iff.1 hlooked
    obtain ⟨detached, es₃, rfl, hdetached⟩ := ends_provideBestEffort_bind_iff.1 hofflined
    obtain ⟨deleted, es₄, rfl, hdeleted⟩ := ends_delete_bind_iff.1 hdetached
    obtain ⟨rfl, rfl⟩ := ends_pure_iff.1 hdeleted
    obtain rfl : lookup = .ok (some d) := by
      cases lookup with
      | ok device => rw [← hfound, deviceFound]
      | error e => cases hfound
    exact ⟨.found d offlined deleted detached, _, rfl⟩

/-- Every such row of exchanges is one that a release can have. -/
theorem Released.ends (h : Released volume request es) :
    ∃ report, Ends (releaseHostSide volume request) es (.ok report) := by
  cases h with
  | found d offlined deleted detached =>
    exact ⟨_, ends_resolveDevice_bind_iff.2 ⟨.ok (some d), _, rfl,
      ends_offline_bind_iff.2 ⟨offlined, _, rfl,
        ends_provideBestEffort_bind_iff.2 ⟨detached, _, rfl,
          ends_delete_bind_iff.2 ⟨deleted, _, rfl, ends_pure_iff.2 ⟨rfl, rfl⟩⟩⟩⟩⟩⟩
  | absent lookup hlookup detached =>
    refine ⟨⟨[.skipped "offline device", .attempted "detach" (checked detached),
      .skipped "delete device"]⟩, ends_resolveDevice_bind_iff.2 ⟨lookup, _, rfl, ?_⟩⟩
    rw [hlookup]
    exact ends_provideBestEffort_bind_iff.2 ⟨detached, _, rfl, ends_pure_iff.2 ⟨rfl, rfl⟩⟩

/-- The exchanges that withdraw a mount once its mountpoint is gone. If other containers still hold the
volume, this node keeps it; else it is released, also if the provider has refused or was not reached. -/
inductive Withdrawn (request : Provider.Request) (volume : Volume) : List Exchange → Prop where
  | held (response : Provider.Response)
      (hheld : response.message = Provider.Response.doNotUnmount) :
    Withdrawn request volume [⟨.call (.provider .unmount request), Except.ok response⟩]
  | released (reply : Except Failure Provider.Response)
      (hreply : ∀ response, reply = .ok response →
        response.message ≠ Provider.Response.doNotUnmount)
      {rest : List Exchange} (hrest : Released volume request rest) :
    Withdrawn request volume (⟨.call (.provider .unmount request), reply⟩ :: rest)

/-- How a mount is undone of which this node's part has failed with `first`: the exchanges, and the
failure with which the mount ends. A mountpoint that is not there is as good as one that was removed;
one that cannot be removed ends the rollback. -/
inductive Undone (request : Provider.Request) (volume : Volume) (mountpoint : Path)
    (first : Failure) : List Exchange → Failure → Prop where
  | blocked (e : FileError) (he : e ≠ .missing) :
    Undone request volume mountpoint first [⟨.removeDirectory mountpoint, Except.error e⟩]
      (.rollback first ("remove " ++ mountpoint.text ++ ": " ++ e.message))
  | withdrawn (removed : Except FileError Unit)
      (hremoved : ∀ e, removed = .error e → e = .missing)
      {rest : List Exchange} (hrest : Withdrawn request volume rest) :
    Undone request volume mountpoint first (⟨.removeDirectory mountpoint, removed⟩ :: rest) first

/-- The withdrawal of a mount never fails, and reports how its steps went. -/
theorem ends_undo {x : Except Failure (Except String BestEffort.Report)}
    (h : Ends (undoMount.undo request volume) es x) :
    Withdrawn request volume es ∧ ∃ report, x = .ok (.ok report) := by
  rw [undoMount.undo, undoProviderMount, bind_assoc, ends_attempt_bind_iff] at h
  obtain ⟨reply, es₁, rfl, hunmounted⟩ := h
  have hgo : ∀ outcome, (∀ response, reply = .ok response →
      response.message ≠ Provider.Response.doNotUnmount) →
      Ends (do
        let report ← releaseHostSide volume request
        pure (.ok ⟨outcome :: report.outcomes⟩) :
          Workflow (Except String BestEffort.Report)) es₁ x →
      Withdrawn request volume (⟨.call (.provider .unmount request), reply⟩ :: es₁) ∧
        ∃ report, x = .ok (.ok report) := by
    intro outcome hreply hreleased
    rcases ends_bind_iff.1 hreleased with ⟨e, -, hfail⟩ | ⟨report, es₂, es₃, rfl, hrelease, hdone⟩
    · obtain ⟨-, report, hok⟩ := ends_releaseHostSide hfail
      cases hok
    · obtain ⟨rfl, rfl⟩ := ends_pure_iff.1 hdone
      rw [List.append_nil]
      exact ⟨.released reply hreply (ends_releaseHostSide hrelease).1, _, rfl⟩
  cases reply with
  | error f => exact hgo _ nofun hunmounted
  | ok response =>
    cases hheld : response.isDoNotUnmount with
    | true =>
      simp only [hheld, if_true] at hunmounted
      obtain ⟨rfl, rfl⟩ := ends_pure_iff.1 hunmounted
      exact ⟨.held response (of_decide_eq_true hheld), _, rfl⟩
    | false =>
      simp only [hheld, Bool.false_eq_true, if_false] at hunmounted
      refine hgo _ (fun response' heq => ?_) hunmounted
      cases heq
      exact of_decide_eq_false hheld

theorem Withdrawn.ends (h : Withdrawn request volume es) :
    ∃ report, Ends (undoMount.undo request volume) es (.ok (.ok report)) := by
  rw [undoMount.undo, undoProviderMount, bind_assoc]
  cases h with
  | held response hheld =>
    refine ⟨⟨[.skipped "provider unmount"]⟩, ends_attempt_bind_iff.2 ⟨.ok response, [], rfl, ?_⟩⟩
    simp only [Provider.Response.isDoNotUnmount, hheld, decide_true, if_true]
    exact ends_pure_iff.2 ⟨rfl, rfl⟩
  | released reply hreply hrest =>
    obtain ⟨report, hrelease⟩ := hrest.ends
    have hgo : ∀ outcome, Ends (do
        let report ← releaseHostSide volume request
        pure (.ok ⟨outcome :: report.outcomes⟩) :
          Workflow (Except String BestEffort.Report)) _ (.ok (.ok ⟨outcome :: report.outcomes⟩)) :=
      fun outcome => ends_bind_iff.2 (.inr ⟨report, _, [], (List.append_nil _).symm, hrelease,
        ends_pure_iff.2 ⟨rfl, rfl⟩⟩)
    cases reply with
    | error f => exact ⟨_, ends_attempt_bind_iff.2 ⟨.error f, _, rfl, hgo _⟩⟩
    | ok response =>
      refine ⟨⟨.attempted "provider unmount" response.check :: report.outcomes⟩,
        ends_attempt_bind_iff.2 ⟨.ok response, _, rfl, ?_⟩⟩
      simp only [Provider.Response.isDoNotUnmount, hreply response rfl, decide_false,
        Bool.false_eq_true, if_false]
      exact hgo _

/-- Undoing a mount and passing the first failure on: exactly the rollbacks above. -/
theorem ends_undoMount_bind_iff {α : Type} {x : Except Failure α} :
    Ends (do
        match ← undoMount request volume mountpoint with
        | .ok _ => fail first
        | .error cause => fail (.rollback first cause) : Workflow α) es x ↔
      ∃ f, x = .error f ∧ Undone request volume mountpoint first es f := by
  have hwithdrawn : ∀ es, Ends (do
      match ← undoMount.undo request volume with
      | .ok _ => fail first
      | .error cause => fail (.rollback first cause) : Workflow α) es x ↔
      x = .error first ∧ Withdrawn request volume es := by
    intro es
    rw [ends_bind_iff]
    constructor
    · rintro (⟨e, -, hfail⟩ | ⟨report, es₂, es₃, rfl, hundo, hfail⟩)
      · obtain ⟨-, report, hok⟩ := ends_undo hfail
        cases hok
      · obtain ⟨hrest, report, hok⟩ := ends_undo hundo
        cases hok
        obtain ⟨rfl, rfl⟩ := ends_fail_iff.1 hfail
        rw [List.append_nil]
        exact ⟨rfl, hrest⟩
    · rintro ⟨rfl, hrest⟩
      obtain ⟨report, hundo⟩ := hrest.ends
      exact .inr ⟨_, es, [], (List.append_nil es).symm, hundo, ends_fail_iff.2 ⟨rfl, rfl⟩⟩
  rw [undoMount, bind_assoc]
  refine ends_removeDirectory_bind_iff.trans ?_
  constructor
  · rintro ⟨removed, es₁, rfl, hremoved⟩
    have hgone : (∀ e, removed = .error e → e = .missing) → Ends (do
        match ← undoMount.undo request volume with
        | .ok _ => fail first
        | .error cause => fail (.rollback first cause) : Workflow α) es₁ x →
        ∃ f, x = .error f ∧ Undone request volume mountpoint first
          (⟨.removeDirectory mountpoint, removed⟩ :: es₁) f := by
      intro hgone h
      obtain ⟨rfl, hrest⟩ := (hwithdrawn es₁).1 h
      exact ⟨first, rfl, .withdrawn removed hgone hrest⟩
    split at hremoved
    · exact hgone (by rintro e ⟨⟩; rfl) hremoved
    · exact hgone nofun hremoved
    · next e hne =>
      obtain ⟨rfl, rfl⟩ := ends_fail_iff.1 hremoved
      exact ⟨_, rfl, .blocked e hne⟩
  · rintro ⟨f, rfl, hundone⟩
    cases hundone with
    | blocked e he =>
      refine ⟨.error e, [], rfl, ?_⟩
      split
      · next heq => exact absurd (Except.error.inj heq) he
      · next heq => cases heq
      · next heq =>
        cases heq
        exact ends_fail_iff.2 ⟨rfl, rfl⟩
    | withdrawn removed hremoved hrest =>
      refine ⟨removed, _, rfl, ?_⟩
      have hundo := (hwithdrawn _).2 ⟨rfl, hrest⟩
      split
      · exact hundo
      · exact hundo
      · next e hne => exact absurd (hremoved e rfl) hne

end VolumeLifecycle.Workflow
