import VolumeLifecycle.Proofs.Workflow.MountCourse

namespace VolumeLifecycle.Workflow

variable {β : Type} {es : List Exchange} {name : String} {opts : Dict Json}

/-- A description of this node is one exchange; the workflow ends there if it fails. -/
theorem ends_describeHost_bind_iff {f : Host → Workflow β} {x : Except Failure β} :
    Ends (describeHost >>= f) es x ↔ ∃ (reply : Except Failure Host) (es' : _),
      es = ⟨.describeHost, reply⟩ :: es' ∧ match reply with
        | .error e => es' = [] ∧ x = .error e
        | .ok host => Ends (f host) es' x := by
  refine Program.runs_perform_iff.trans ⟨?_, ?_⟩
  · rintro ⟨(reply : Except Failure Host), es', rfl, h⟩
    cases reply with
    | error e => exact ⟨.error e, es', rfl, Program.runs_done_iff.1 h⟩
    | ok host => exact ⟨.ok host, es', rfl, h⟩
  · rintro ⟨reply, es', rfl, h⟩
    cases reply with
    | error e => exact ⟨(.error e : Except Failure Host), es', rfl, Program.runs_done_iff.2 h⟩
    | ok host => exact ⟨(.ok host : Except Failure Host), es', rfl, h⟩

/-- The options of a request, unless its name is blank or an option is not what it should be. -/
def checkedOptions (name : String) (opts : Dict Json) : Except Failure Options :=
  match checkName name with
  | .error f => .error f
  | .ok _ => Options.ofDict opts

/-- The inputs of a workflow are gathered by one question for this node, which is asked if and only if
the request is in order. -/
theorem ends_gather_bind_iff {f : Request → Workflow β} {x : Except Failure β} :
    Ends (gather name opts >>= f) es x ↔ match checkedOptions name opts with
      | .error e => es = [] ∧ x = .error e
      | .ok options => ∃ (reply : Except Failure Host) (es' : _),
        es = ⟨.describeHost, reply⟩ :: es' ∧ match reply with
          | .error e => es' = [] ∧ x = .error e
          | .ok host => Ends (f ⟨name, options, host⟩) es' x := by
  rw [gather, bind_assoc, ends_ofExcept_bind_iff, checkedOptions]
  cases checkName name with
  | error e => rfl
  | ok _ =>
    dsimp only
    rw [bind_assoc, ends_ofExcept_bind_iff]
    cases Options.ofDict opts with
    | error e => rfl
    | ok options =>
      dsimp only
      simp only [bind_assoc, pure_bind]
      exact ends_describeHost_bind_iff

/-- A workflow that gathers its inputs and does the rest inside of the gate, where it takes one of the
given courses. If the request is not in order, nobody is asked for anything; if this node cannot be
described, nobody is called. -/
inductive Gathered (name : String) (opts : Dict Json)
    (course : Request → List Exchange → Except Failure β → Prop) :
    List Exchange → Except Failure β → Prop where
  | request {f : Failure} (hrequest : checkedOptions name opts = .error f) :
    Gathered name opts course [] (.error f)
  | node {options : Options} (hrequest : checkedOptions name opts = .ok options) (f : Failure) :
    Gathered name opts course [⟨.describeHost, Except.error f⟩] (.error f)
  | inside {options : Options} (hrequest : checkedOptions name opts = .ok options) (host : Host)
      {es : List Exchange} {x : Except Failure β} (hcourse : course ⟨name, options, host⟩ es x) :
    Gathered name opts course (⟨.describeHost, Except.ok host⟩ :: es) x

/-- A workflow that gathers its inputs first takes one of the courses of what follows. -/
theorem ends_gathered_iff {op : Operation} {w : Request → Workflow β}
    {course : Request → List Exchange → Except Failure β → Prop}
    (hw : ∀ r es x, Ends (w r) es x ↔ course r es x) {x : Except Failure β} :
    Ends (do
        let r ← gather name opts
        enter r.name op
        w r) es x ↔ Gathered name opts course es x := by
  rw [ends_gather_bind_iff]
  constructor
  · intro h
    cases hrequest : checkedOptions name opts with
    | error f =>
      rw [hrequest] at h
      obtain ⟨rfl, rfl⟩ := h
      exact .request hrequest
    | ok options =>
      rw [hrequest] at h
      obtain ⟨described, es', rfl, hrest⟩ := h
      cases described with
      | error f =>
        obtain ⟨rfl, rfl⟩ := hrest
        exact .node hrequest f
      | ok host => exact .inside hrequest host ((hw _ _ _).1 (ends_enter_bind_iff.1 hrest))
  · intro h
    cases h with
    | request hrequest => simp only [hrequest, and_self]
    | node hrequest f =>
      rw [hrequest]
      exact ⟨.error f, [], rfl, rfl, rfl⟩
    | inside hrequest host hcourse =>
      rw [hrequest]
      exact ⟨.ok host, _, rfl, ends_enter_bind_iff.2 ((hw _ _ _).2 hcourse)⟩

/-- A call to the provider whose failure is passed on, and what follows. -/
theorem ends_provider_bind_iff {op : Provider.Op} {request : Provider.Request}
    {f : Provider.Response → Workflow β} {x : Except Failure β} :
    Ends (provider op request >>= f) es x ↔
      ∃ (reply : Except Failure Provider.Response) (es' : _),
        es = ⟨.call (.provider op request), reply⟩ :: es' ∧ match reply with
          | .error e => es' = [] ∧ x = .error e
          | .ok response => Ends (f response) es' x := by
  refine ends_call_bind_iff.trans ⟨?_, ?_⟩
  · rintro (⟨e, rfl, rfl⟩ | ⟨response, es', rfl, h⟩)
    · exact ⟨.error e, [], rfl, rfl, rfl⟩
    · exact ⟨.ok response, es', rfl, h⟩
  · rintro ⟨reply, es', rfl, h⟩
    cases reply with
    | error e =>
      obtain ⟨rfl, rfl⟩ := h
      exact .inl ⟨e, rfl, rfl⟩
    | ok response => exact .inr ⟨response, es', rfl, h⟩

/-- The result of a step some of whose failures do not matter. -/
def tolerate (fine : Failure → Bool) : Except Failure Unit → Except Failure Unit
  | .ok _ => .ok ()
  | .error f => if fine f then .ok () else .error f

/-- A step whose failures do not all matter is fine unless one that matters has happened. -/
theorem tolerate_eq_ok_iff {fine : Failure → Bool} {reply : Except Failure Unit} :
    tolerate fine reply = .ok () ↔ ∀ f, reply = .error f → fine f = true := by
  cases reply <;> simp [tolerate]

/-- A step fails by a failure that matters, and by no other. -/
theorem tolerate_eq_error_iff {fine : Failure → Bool} {reply : Except Failure Unit} {f : Failure} :
    tolerate fine reply = .error f ↔ reply = .error f ∧ fine f = false := by
  cases reply with
  | ok u => simp [tolerate]
  | error e =>
    cases hfine : fine e with
    | true =>
      simp only [tolerate, hfine, if_true, Except.error.injEq, reduceCtorEq, false_iff]
      rintro ⟨rfl, hnot⟩
      cases hfine.symm.trans hnot
    | false =>
      simp only [tolerate, hfine, Bool.false_eq_true, if_false, Except.error.injEq]
      exact ⟨fun heq => ⟨heq, heq ▸ hfine⟩, And.left⟩

/-- A step of one call whose reply is judged. -/
theorem ends_settled_iff {call : Call} {settle : call.Reply → Except Failure β}
    {x : Except Failure β} :
    Ends (attempt call >>= fun reply => ofExcept (settle reply)) es x ↔
      ∃ reply : call.Reply, es = [⟨.call call, reply⟩] ∧ x = settle reply := by
  rw [ends_attempt_bind_iff]
  refine exists_congr fun reply => ?_
  simp only [ends_ofExcept_iff]
  constructor
  · rintro ⟨_, rfl, rfl, rfl⟩
    exact ⟨rfl, rfl⟩
  · rintro ⟨rfl, rfl⟩
    exact ⟨[], rfl, rfl, rfl⟩

/-- A request for a volume is one call; the workflow goes on with the volume that the reply shows. -/
theorem ends_fetch_bind_iff {op : Provider.Op} {request : Provider.Request}
    {f : Volume → Workflow β} {x : Except Failure β} :
    Ends (do
        let response ← provider op request
        let volume ← ofExcept (response.intoVolume name)
        f volume) es x ↔
      ∃ (reply : Except Failure Provider.Response) (es' : _),
        es = ⟨.call (.provider op request), reply⟩ :: es' ∧ match shown name reply with
          | .error e => es' = [] ∧ x = .error e
          | .ok volume => Ends (f volume) es' x := by
  refine ends_provider_bind_iff.trans (exists_congr fun reply => exists_congr fun es' =>
    and_congr_right fun _ => ?_)
  cases reply with
  | error e => rfl
  | ok response =>
    refine (ends_ofExcept_bind_iff (f := f)).trans ?_
    rw [shown]
    cases response.intoVolume name <;> rfl

/-- The last call of a remove. Its reply is the result. -/
theorem ends_provider_check_iff {op : Provider.Op} {request : Provider.Request}
    {x : Except Failure Unit} :
    Ends (do
        let response ← provider op request
        let _ ← ofExcept response.check) es x ↔
      ∃ reply : Except Failure Provider.Response,
        es = [⟨.call (.provider op request), reply⟩] ∧ x = checked reply := by
  have hchecked : ∀ (response : Provider.Response) (es' : List Exchange),
      Ends (do let _ ← ofExcept response.check) es' x ↔ es' = [] ∧ x = checked (.ok response) := by
    intro response es'
    rw [ends_ofExcept_bind_iff]
    cases hcheck : response.check with
    | error f => simp [checked, hcheck, Except.map]
    | ok _ => rw [ends_pure_iff]; simp [checked, hcheck, Except.map]
  refine ends_provider_bind_iff.trans (exists_congr fun reply => ?_)
  constructor
  · rintro ⟨es', rfl, h⟩
    cases reply with
    | error f =>
      obtain ⟨rfl, rfl⟩ := h
      exact ⟨rfl, rfl⟩
    | ok response =>
      obtain ⟨rfl, rfl⟩ := (hchecked response es').1 h
      exact ⟨rfl, rfl⟩
  · rintro ⟨rfl, rfl⟩
    refine ⟨[], rfl, ?_⟩
    cases reply with
    | error f => exact ⟨rfl, rfl⟩
    | ok response => exact (hchecked response []).2 ⟨rfl, rfl⟩

variable {c : Config} {r : Request}

/-- What follows the provider's part of an unmount: the volume is released, and removed if it goes away with
its last host. -/
def afterUnmount (c : Config) (r : Request) (volume : Volume) : Workflow Unit := do
  releaseUnmounted volume (providerRequest c r)
  if volume.destroyOnDetach then
    let _ ← result (removeLocked c r)

/-- The provider's part of an unmount is done, and the reply shows the volume. -/
structure Yields (response : Provider.Response) (volume : Volume) : Prop where
  err : response.err = ""
  unheld : response.message ≠ Provider.Response.doNotUnmount
  volume : response.volume = some volume

/-- A volume that a reply yields is what the workflow goes on with. -/
theorem Yields.intoVolume {response : Provider.Response} {volume : Volume} (h : Yields response volume)
    (name : String) : response.intoVolume name = .ok volume := by
  rw [Provider.Response.intoVolume, Provider.Response.check, if_pos h.err]
  dsimp only
  rw [h.volume]

def answerUnmount (c : Config) (r : Request) (response : Provider.Response) : Workflow Unit := do
  let response ← ofExcept response.check
  if response.isDoNotUnmount then return ()
  let volume ← ofExcept (response.intoVolume r.name)
  afterUnmount c r volume

theorem answerUnmount_of_err {response : Provider.Response} (herr : response.err ≠ "") :
    answerUnmount c r response = fail (.provider response.err) := by
  rw [answerUnmount, Provider.Response.check, if_neg herr]
  rfl

theorem answerUnmount_of_held {response : Provider.Response} (herr : response.err = "")
    (hheld : response.message = Provider.Response.doNotUnmount) :
    answerUnmount c r response = pure () := by
  rw [answerUnmount, Provider.Response.check, if_pos herr]
  exact if_pos (decide_eq_true hheld)

theorem answerUnmount_of_unheld {response : Provider.Response} (herr : response.err = "")
    (hunheld : response.message ≠ Provider.Response.doNotUnmount) :
    answerUnmount c r response = match response.volume with
      | some volume => afterUnmount c r volume
      | none => fail (.notFound ("volume " ++ r.name)) := by
  have hcheck : response.check = .ok response := if_pos herr
  rw [answerUnmount, hcheck]
  refine (if_neg (ne_true_of_eq_false (decide_eq_false hunheld))).trans ?_
  unfold Provider.Response.intoVolume
  rw [hcheck]
  dsimp only
  cases response.volume <;> rfl

/-- What comes of an unmount when the provider has replied, and after which exchanges. -/
inductive Replied (c : Config) (r : Request) :
    Except Failure Provider.Response → List Exchange → Except Failure Unit → Prop where
  | refused {reply : Except Failure Provider.Response} {f : Failure} (hreply : checked reply = .error f) :
    Replied c r reply [] (.error f)
  | held (response : Provider.Response) (herr : response.err = "")
      (hheld : response.message = Provider.Response.doNotUnmount) :
    Replied c r (.ok response) [] (.ok ())
  | volumeless (response : Provider.Response) (herr : response.err = "")
      (hunheld : response.message ≠ Provider.Response.doNotUnmount) (hnone : response.volume = none) :
    Replied c r (.ok response) [] (.error (.notFound ("volume " ++ r.name)))
  | yielded {response : Provider.Response} {volume : Volume} (hyields : Yields response volume)
      {es : List Exchange} {x : Except Failure Unit} (hafter : Ends (afterUnmount c r volume) es x) :
    Replied c r (.ok response) es x

theorem ends_answerUnmount_iff {response : Provider.Response} {x : Except Failure Unit} :
    Ends (answerUnmount c r response) es x ↔ Replied c r (.ok response) es x := by
  by_cases herr : response.err = ""
  case neg =>
    have hchecked : checked (.ok response) = .error (.provider response.err) := by
      simp [checked, Provider.Response.check, herr, Except.map]
    rw [answerUnmount_of_err herr, ends_fail_iff]
    constructor
    · rintro ⟨rfl, rfl⟩
      exact .refused hchecked
    · intro h
      cases h with
      | refused hreply => exact ⟨rfl, hreply.symm.trans hchecked⟩
      | held _ herr' => exact absurd herr' herr
      | volumeless _ herr' => exact absurd herr' herr
      | yielded hyields => exact absurd hyields.err herr
  have hchecked : ∀ f, checked (.ok response) ≠ .error f := by
    simp [checked, Provider.Response.check, herr, Except.map]
  by_cases hheld : response.message = Provider.Response.doNotUnmount
  · rw [answerUnmount_of_held herr hheld, ends_pure_iff]
    constructor
    · rintro ⟨rfl, rfl⟩
      exact .held response herr hheld
    · intro h
      cases h with
      | refused hreply => exact absurd hreply (hchecked _)
      | held => exact ⟨rfl, rfl⟩
      | volumeless _ _ hunheld => exact absurd hheld hunheld
      | yielded hyields => exact absurd hheld hyields.unheld
  rw [answerUnmount_of_unheld herr hheld]
  constructor
  · intro h
    cases hvolume : response.volume with
    | none =>
      rw [hvolume] at h
      obtain ⟨rfl, rfl⟩ := ends_fail_iff.1 h
      exact .volumeless response herr hheld hvolume
    | some volume =>
      rw [hvolume] at h
      exact .yielded ⟨herr, hheld, hvolume⟩ h
  · intro h
    cases h with
    | refused hreply => exact absurd hreply (hchecked _)
    | held _ _ hheld' => exact absurd hheld' hheld
    | volumeless _ _ _ hnone =>
      rw [hnone]
      exact ends_fail_iff.2 ⟨rfl, rfl⟩
    | yielded hyields hafter =>
      rw [hyields.volume]
      exact hafter

/-- An unmount begins with the provider's, and its reply decides how it goes on. -/
theorem ends_unmountLocked_iff {x : Except Failure Unit} :
    Ends (unmountLocked c r) es x ↔ ∃ (reply : Except Failure Provider.Response) (es' : _),
      es = ⟨.call (.provider .unmount (providerRequest c r)), reply⟩ :: es' ∧
        Replied c r reply es' x := by
  refine (ends_provider_bind_iff (f := answerUnmount c r)).trans
    (exists_congr fun reply => exists_congr fun es' => and_congr_right fun _ => ?_)
  cases reply with
  | ok response => exact ends_answerUnmount_iff
  | error f =>
    constructor
    · rintro ⟨rfl, rfl⟩
      exact .refused rfl
    · intro h
      cases h with
      | refused hreply => exact ⟨rfl, hreply.symm⟩

end VolumeLifecycle.Workflow
