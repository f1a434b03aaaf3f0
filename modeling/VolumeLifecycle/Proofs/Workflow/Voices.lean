import VolumeLifecycle.Proofs.Mounts.Table
import VolumeLifecycle.Proofs.Workflow.Rollback

namespace VolumeLifecycle

def Failure.IsSilent (f : Failure) : Prop :=
  f = .invalidArgument "" ∨ f = .provider "" ∨ f = .host ""

/-- Nothing but an empty payload makes the text of a failure empty. -/
theorem Failure.message_eq_empty_iff {f : Failure} : f.message = "" ↔ f.IsSilent := by
  constructor
  · intro h
    have hleft : ∀ {s t : String}, s ≠ "" → s ++ t ≠ "" := fun hs h =>
      hs (String.append_eq_empty_iff.1 h).1
    have hright : ∀ {s t : String}, t ≠ "" → s ++ t ≠ "" := fun ht h =>
      ht (String.append_eq_empty_iff.1 h).2
    cases f with
    | invalidArgument text => exact .inl (congrArg _ h)
    | provider text => exact .inr (.inl (congrArg _ h))
    | host text => exact .inr (.inr (congrArg _ h))
    | providerBusy => exact absurd h (hright (by decide))
    | notFound => exact absurd h (hright (by decide))
    | inconsistentState => exact absurd h (hleft (hright (by decide)))
    | config => exact absurd h (hleft (by decide))
    | transport => exact absurd h (hleft (by decide))
    | rollback => exact absurd h (hleft (hright (by decide)))
    | internal => exact absurd h (hleft (by decide))
  · rintro (rfl | rfl | rfl) <;> rfl

def Voiced {α : Type} (x : Except Failure α) : Prop :=
  ∀ f, x = .error f → ¬ f.IsSilent

section Complaints

variable {α β : Type}

theorem voiced_ok (a : α) : Voiced (.ok a) := nofun

theorem voiced_invalidArgument {text : String} (h : text ≠ "") :
    Voiced (.error (.invalidArgument text) : Except Failure α) := by
  rintro _ ⟨⟩
  simpa [Failure.IsSilent] using h

/-- Steps one after the other fail with a text if each of them does. -/
theorem Voiced.bind {x : Except Failure α} {f : α → Except Failure β} (hx : Voiced x)
    (hf : ∀ a, Voiced (f a)) : Voiced (x >>= f) := by
  cases x with
  | ok a => exact hf a
  | error e =>
    rintro _ ⟨⟩
    exact hx e rfl

theorem Options.voiced_setting (map : Dict Json) (key : Key) (read : Json → Reading α) :
    Voiced (setting map key read) := by
  unfold setting
  split
  · exact voiced_ok _
  · next value _ =>
    cases read value with
    | ok a => exact voiced_ok _
    | error expected => exact voiced_invalidArgument (by simp)

theorem Options.voiced_ofDict (map : Dict Json) : Voiced (ofDict map) := by
  iterate 9 refine Voiced.bind (voiced_setting _ _ _) fun _ => ?_
  exact voiced_ok _

theorem Options.voiced_checkSet (setting : Option String) (isValid : String → Bool)
    {complaint : String → String} (h : ∀ s, complaint s ≠ "") :
    Voiced (checkSet setting isValid complaint) := by
  unfold checkSet
  split
  · exact voiced_ok _
  · split
    · exact voiced_ok _
    · exact voiced_invalidArgument (h _)

theorem Options.voiced_validate (o : Options) : Voiced o.validate := by
  refine Voiced.bind (voiced_checkSet _ _ fun s => by simp) fun _ => ?_
  refine Voiced.bind (voiced_checkSet _ _ fun s => by simp) fun _ => ?_
  exact voiced_checkSet _ _ fun s => by simp

theorem Provider.Response.voiced_check (response : Provider.Response) : Voiced response.check := by
  unfold check
  split
  · exact voiced_ok _
  · next herr =>
    rintro _ ⟨⟩
    simpa [Failure.IsSilent] using herr

theorem Provider.Response.voiced_intoVolume (response : Provider.Response) (name : String) :
    Voiced (response.intoVolume name) := by
  unfold intoVolume
  cases hcheck : response.check with
  | error f =>
    rintro _ ⟨⟩
    exact response.voiced_check f hcheck
  | ok r =>
    cases hvolume : r.volume with
    | some v => simpa only [hvolume] using voiced_ok v
    | none =>
      simp only [hvolume]
      rintro _ ⟨⟩
      simp [Failure.IsSilent]

namespace Workflow

theorem voiced_checkName (name : String) : Voiced (checkName name) := by
  unfold checkName
  split
  · exact voiced_invalidArgument (by decide)
  · exact voiced_ok _

theorem voiced_restrictTo (host : Host) (wanted : Option (List String)) :
    Voiced (restrictTo host wanted) := by
  unfold restrictTo
  split
  · exact voiced_invalidArgument (by decide)
  · exact voiced_invalidArgument (by decide)
  · dsimp only
    split
    · exact voiced_invalidArgument (by simp)
    · exact voiced_ok _

end Workflow
end Complaints

namespace Workflow

/-- If the workflow ends with a failure without a text, that failure was among those heard before, or a
collaborator has replied with it. -/
def Voices {α : Type} (heard : Failure → Prop) (w : Workflow α) : Prop :=
  ∀ es f, Ends w es (.error f) → f.IsSilent → heard f ∨ ∃ ex ∈ es, ex.failure? = some f

section Rules

variable {α β : Type} {heard : Failure → Prop}

theorem voices_pure (a : α) : Voices heard (pure a : Workflow α) := by
  intro es f h
  cases (ends_pure_iff.1 h).2

theorem voices_ofExcept {x : Except Failure α} (hx : Voiced x) : Voices heard (ofExcept x) := by
  intro es f h hsilent
  exact absurd hsilent (hx f (ends_ofExcept_iff.1 h).2.symm)

theorem voices_fail {f : Failure} (hf : f.IsSilent → heard f) :
    Voices heard (fail f : Workflow α) := by
  intro es e h hsilent
  cases (ends_fail_iff.1 h).2
  exact .inl (hf hsilent)

theorem voices_call (c : Call) : Voices heard (call c) := by
  intro es f h hsilent
  cases ends_call_iff.1 h
  exact .inr ⟨_, List.mem_singleton_self _, rfl⟩

theorem voices_describeHost : Voices heard describeHost := by
  intro es f h hsilent
  obtain ⟨reply, es', rfl, hdone⟩ := Program.runs_perform_iff.1 h
  cases (Program.runs_done_iff.1 hdone).2
  exact .inr ⟨_, List.mem_cons_self, rfl⟩

/-- A workflow that does not fail. -/
theorem voices_of_ends_ok {w : Workflow α} (hw : ∀ es x, Ends w es x → ∃ a, x = .ok a) :
    Voices heard w := by
  intro es f h
  obtain ⟨a, ha⟩ := hw es _ h
  cases ha

theorem voices_await (w : Conflict.Wait) : Voices heard (await w) :=
  voices_of_ends_ok fun _ _ h => ends_await h

theorem voices_bind {w : Workflow α} {g : α → Workflow β} (hw : Voices heard w)
    (hg : ∀ a, Voices heard (g a)) : Voices heard (w >>= g) := by
  intro es f h hsilent
  rcases ends_bind_iff.1 h with ⟨e, heq, hfail⟩ | ⟨a, es₁, es₂, rfl, -, hrest⟩
  · cases heq
    exact hw es f hfail hsilent
  · refine (hg a es₂ f hrest hsilent).imp_right ?_
    rintro ⟨ex, hex, hfailed⟩
    exact ⟨ex, List.mem_append_right es₁ hex, hfailed⟩

/-- What follows a call that is made for its reply has heard the failure in the reply. -/
theorem voices_attempt_bind {c : Call} {g : c.Reply → Workflow β}
    (hg : ∀ reply, Voices (fun f => heard f ∨ reply = .error f) (g reply)) :
    Voices heard (attempt c >>= g) := by
  intro es f h hsilent
  obtain ⟨reply, es', rfl, hrest⟩ := ends_attempt_bind_iff.1 h
  rcases hg reply es' f hrest hsilent with (hheard | rfl) | ⟨ex, hex, hfailed⟩
  · exact .inl hheard
  · exact .inr ⟨_, List.mem_cons_self, rfl⟩
  · exact .inr ⟨ex, List.mem_cons_of_mem _ hex, hfailed⟩

theorem voices_perform_bind {e : Effect} {g : e.Reply → Workflow β}
    (hg : ∀ reply, Voices heard (g reply)) : Voices heard (perform e >>= g) := by
  intro es f h hsilent
  obtain ⟨reply, es', rfl, hrest⟩ := ends_perform_bind_iff.1 h
  refine (hg reply es' f hrest hsilent).imp_right ?_
  rintro ⟨ex, hex, hfailed⟩
  exact ⟨ex, List.mem_cons_of_mem _ hex, hfailed⟩

/-- What follows a workflow that is run for its result has heard the failure that it ended with. -/
theorem voices_result_bind {w : Workflow α} {g : Except Failure α → Workflow β}
    (hw : Voices heard w) (hg : ∀ y, Voices (fun f => heard f ∨ y = .error f) (g y)) :
    Voices heard (result w >>= g) := by
  intro es f h hsilent
  obtain ⟨y, es₁, es₂, rfl, hy, hrest⟩ := ends_result_bind_iff.1 h
  rcases hg y es₂ f hrest hsilent with (hheard | rfl) | ⟨ex, hex, hfailed⟩
  · exact .inl hheard
  · refine (hw es₁ f hy hsilent).imp_right ?_
    rintro ⟨ex, hex, hfailed⟩
    exact ⟨ex, List.mem_append_left es₂ hex, hfailed⟩
  · exact .inr ⟨ex, List.mem_append_right es₁ hex, hfailed⟩

theorem voices_enter_bind {name : String} {op : Operation} {g : Unit → Workflow β}
    (hg : Voices heard (g ())) : Voices heard (enter name op >>= g) :=
  fun es f h => hg es f (ends_enter_bind_iff.1 h)

end Rules

section Steps

variable {heard : Failure → Prop} (c : Config) (r : Request) (volume : Volume)
  (request : Provider.Request)

theorem voices_fetch {α : Type} {op : Provider.Op} {name : String} {g : Volume → Workflow α}
    (hg : ∀ volume, Voices heard (g volume)) :
    Voices heard (do
      let response ← provider op request
      let volume ← ofExcept (response.intoVolume name)
      g volume) := by
  refine voices_bind (voices_call _) fun response => ?_
  exact voices_bind (voices_ofExcept (response.voiced_intoVolume name)) hg

theorem voices_gather (name : String) (opts : Dict Json) : Voices heard (gather name opts) := by
  refine voices_bind (voices_ofExcept (voiced_checkName name)) fun _ => ?_
  refine voices_bind (voices_ofExcept (Options.voiced_ofDict opts)) fun _ => ?_
  exact voices_bind voices_describeHost fun _ => voices_pure _

theorem voices_gatherMount (name : String) (opts : Dict Json) :
    Voices heard (gatherMount c name opts) := by
  refine voices_bind (voices_gather name opts) fun r => ?_
  split
  · exact voices_bind (voices_ofExcept (voiced_restrictTo _ _)) fun _ => voices_pure _
  · exact voices_pure _

theorem voices_unmountAll (mounts : List Mount) : Voices heard (unmountAll mounts) := by
  induction mounts generalizing heard with
  | nil => exact voices_pure ()
  | cons m rest ih =>
    refine voices_attempt_bind fun reply => ?_
    cases reply with
    | ok _ => exact ih
    | error f =>
      dsimp only
      split
      · exact ih
      · exact voices_fail fun _ => .inr rfl

theorem voices_deleteShared (device : Device) : Voices heard (deleteShared volume device) := by
  unfold deleteShared
  split
  · refine voices_attempt_bind fun reply => ?_
    cases reply <;> exact voices_pure _
  · exact voices_pure _

theorem voices_reconcile (name : String) (host : Host) : Voices heard (reconcile name host) := by
  refine voices_fetch _ fun volume => ?_
  refine voices_bind (voices_call _) fun mounts => ?_
  split
  · exact voices_pure _
  refine voices_bind (voices_call _) fun device => ?_
  split
  · exact voices_fail fun h => by simp [noDevice, Failure.IsSilent] at h
  split
  · exact voices_pure _
  refine voices_bind (voices_unmountAll _) fun _ => ?_
  exact voices_bind (voices_deleteShared _ _) fun _ => voices_pure _

theorem voices_attachFirst : Voices heard (attachFirst volume) := by
  refine voices_bind (voices_call _) fun devices => ?_
  split
  · exact voices_pure _
  · exact voices_fail fun h => by simp [noDeviceFor, Failure.IsSilent] at h

theorem voices_mountOnHost (mountpoint : Path) : Voices heard (mountOnHost volume mountpoint) := by
  refine voices_bind (voices_call _) fun mounts => ?_
  split
  · exact voices_pure _
  refine voices_attempt_bind fun reply => ?_
  cases reply with
  | ok _ => exact voices_pure _
  | error f =>
    dsimp only
    split
    · exact voices_fail fun _ => .inr rfl
    · refine voices_bind ?_ fun _ => voices_pure _
      refine voices_bind (voices_attachFirst volume) fun device => ?_
      refine voices_bind (voices_call _) fun _ => ?_
      exact voices_bind (voices_call _) fun _ => voices_pure _

theorem voices_provideBestEffort (step : String) (op : Provider.Op) :
    Voices heard (provideBestEffort step op request) :=
  voices_attempt_bind fun _ => voices_pure _

theorem voices_releaseHostSide : Voices heard (releaseHostSide volume request) :=
  voices_of_ends_ok fun _ _ h => (ends_releaseHostSide h).2

theorem voices_undoMount (mountpoint : Path) :
    Voices heard (undoMount request volume mountpoint) := by
  have hundo : Voices heard (undoMount.undo request volume) := voices_of_ends_ok fun _ _ h =>
    let ⟨_, report, hok⟩ := ends_undo h
    ⟨_, hok⟩
  refine voices_perform_bind fun removed => ?_
  split
  · exact hundo
  · exact hundo
  · exact voices_pure _

/-- The provider's refusal is passed on, or is turned into one that names the volume. -/
theorem voices_mountOnProvider : Voices heard (mountOnProvider r request) := by
  have hclear : ∀ {f : Failure}, (f.clarifyBusy r.name).IsSilent → f.IsSilent ∧
      f.clarifyBusy r.name = f := by
    intro f h
    unfold Failure.clarifyBusy at h ⊢
    split at h
    · simp [Failure.IsSilent] at h
    · next hbusy => exact ⟨h, if_neg hbusy⟩
  refine voices_attempt_bind fun reply => ?_
  refine voices_bind ?_ fun _ => voices_pure _
  intro es f h hsilent
  have hresult := (ends_ofExcept_iff.1 h).2
  cases reply with
  | error e =>
    cases hresult
    exact .inl (.inr (congrArg Except.error (hclear hsilent).2.symm))
  | ok response =>
    dsimp only at hresult
    cases hvolume : response.intoVolume r.name with
    | ok volume =>
      rw [hvolume] at hresult
      cases hresult
    | error e =>
      rw [hvolume] at hresult
      cases hresult
      exact absurd (hclear hsilent).1 (response.voiced_intoVolume r.name e hvolume)

theorem voices_mountLocked : Voices heard (mountLocked c r) := by
  refine voices_bind (voices_mountOnProvider r _) fun volume => ?_
  refine voices_result_bind (voices_mountOnHost volume _) fun y => ?_
  cases y with
  | error f =>
    refine voices_bind (voices_undoMount volume _ _) fun undone => ?_
    cases undone with
    | ok report => exact voices_fail fun _ => .inr rfl
    | error cause => exact voices_fail fun h => by simp [Failure.IsSilent] at h
  | ok _ =>
    dsimp only
    split
    · exact voices_bind (voices_provideBestEffort _ _ _) fun _ => voices_pure _
    · exact voices_pure _

theorem voices_unmountForRemoval : Voices heard (unmountForRemoval volume) := by
  refine voices_attempt_bind fun reply => ?_
  cases reply with
  | ok _ => exact voices_pure _
  | error f =>
    dsimp only
    split
    · exact voices_pure _
    · exact voices_fail fun _ => .inr rfl

theorem voices_removeLocked : Voices heard (removeLocked c r) := by
  refine voices_fetch _ fun volume => ?_
  -- What follows is the same with and without a conflict wait before it.
  have hrelease : Voices heard (do
      unmountForRemoval volume
      let _ ← releaseHostSide volume (providerRequest c r)
      let response ← provider .remove (providerRequest c r)
      let _ ← ofExcept response.check) := by
    refine voices_bind (voices_unmountForRemoval volume) fun _ => ?_
    refine voices_bind (voices_releaseHostSide volume _) fun _ => ?_
    refine voices_bind (voices_call _) fun response => ?_
    exact voices_bind (voices_ofExcept response.voiced_check) fun _ => voices_pure _
  split
  · exact voices_bind (voices_await _) fun _ => hrelease
  · exact hrelease

theorem voices_resolveDevice : Voices heard (resolveDevice volume) := by
  refine voices_attempt_bind fun reply => ?_
  cases reply <;> exact voices_pure _

theorem voices_offlineForUnmount (device : Device) :
    Voices heard (offlineForUnmount volume device) := by
  refine voices_attempt_bind fun reply => ?_
  cases reply with
  | ok _ => exact voices_pure _
  | error f =>
    dsimp only
    split
    · exact voices_fail fun _ => .inr rfl
    · exact voices_pure _

theorem voices_deleteForUnmount (device : Device) : Voices heard (deleteForUnmount device) := by
  refine voices_attempt_bind fun reply => ?_
  cases reply with
  | ok _ => exact voices_pure _
  | error f =>
    dsimp only
    split
    · exact voices_pure _
    · exact voices_fail fun _ => .inr rfl

theorem voices_forDevice {run : Device → Workflow Unit} (hrun : ∀ d, Voices heard (run d)) :
    ∀ device, Voices heard (forDevice run device)
  | some d => hrun d
  | none => voices_pure _

theorem voices_releaseUnmounted : Voices heard (releaseUnmounted volume request) := by
  refine voices_bind (voices_call _) fun _ => ?_
  refine voices_bind (voices_resolveDevice volume) fun device => ?_
  refine voices_bind (voices_forDevice (voices_offlineForUnmount volume) device) fun _ => ?_
  refine voices_bind (voices_provideBestEffort _ _ _) fun _ => ?_
  exact voices_forDevice voices_deleteForUnmount device

theorem voices_unmountLocked : Voices heard (unmountLocked c r) := by
  refine voices_bind (voices_call _) fun response => ?_
  refine voices_bind (voices_ofExcept response.voiced_check) fun response => ?_
  split
  · exact voices_pure _
  refine voices_bind (voices_ofExcept (response.voiced_intoVolume r.name)) fun volume => ?_
  refine voices_bind (voices_releaseUnmounted volume _) fun _ => ?_
  split
  -- The failure of the removal that goes with the last host is dropped, with a text or without.
  · exact voices_result_bind (voices_removeLocked c r) fun _ => voices_pure _
  · exact voices_pure _

theorem voices_prepareAndRelease (filesystem : String) :
    Voices heard (prepareAndRelease volume request filesystem) := by
  refine voices_bind (voices_attachFirst volume) fun device => ?_
  refine voices_bind (voices_call _) fun _ => ?_
  refine voices_bind (voices_call _) fun _ => ?_
  refine voices_bind (voices_call _) fun _ => ?_
  refine voices_bind (voices_call _) fun response => ?_
  exact voices_bind (voices_ofExcept response.voiced_check) fun _ => voices_call _

theorem voices_createLocked : Voices heard (createLocked c r) := by
  refine voices_fetch _ fun volume => ?_
  split
  · refine voices_result_bind (voices_prepareAndRelease volume _ _) fun y => ?_
    cases y with
    | ok _ => exact voices_pure _
    | error f =>
      refine voices_bind ?_ fun _ => voices_fail fun _ => .inr rfl
      refine voices_bind (voices_releaseHostSide volume _) fun _ => ?_
      exact voices_bind (voices_provideBestEffort _ _ _) fun _ => voices_pure _
  · exact voices_pure _

end Steps

section Whole

variable {heard : Failure → Prop} (c : Config) (name : String) (opts : Dict Json)

theorem voices_mount : Voices heard (mount c name opts) := by
  refine voices_bind (voices_gatherMount c name opts) fun r => ?_
  refine voices_bind (voices_reconcile _ _) fun _ => ?_
  refine voices_bind (voices_await _) fun _ => ?_
  exact voices_enter_bind (voices_mountLocked c r)

theorem voices_unmount : Voices heard (unmount c name opts) :=
  voices_bind (voices_gather name opts) fun r => voices_enter_bind (voices_unmountLocked c r)

theorem voices_remove : Voices heard (remove c name) :=
  voices_bind (voices_gather name _) fun r => voices_enter_bind (voices_removeLocked c r)

theorem voices_create : Voices heard (create c name opts) := by
  refine voices_bind (voices_ofExcept (voiced_checkName name)) fun _ => ?_
  refine voices_bind (voices_ofExcept (Options.voiced_ofDict _)) fun options => ?_
  split
  · exact voices_pure _
  refine voices_bind (voices_ofExcept options.voiced_validate) fun _ => ?_
  refine voices_bind voices_describeHost fun host => ?_
  refine voices_enter_bind ?_
  exact voices_bind (voices_createLocked c _) fun _ => voices_pure _

theorem voices_describe : Voices heard (describe c name) := by
  refine voices_bind (voices_gather name _) fun r => ?_
  refine voices_enter_bind ?_
  refine voices_fetch _ fun volume => ?_
  exact voices_bind (voices_call _) fun _ => voices_pure _

end Whole
end Workflow
end VolumeLifecycle
