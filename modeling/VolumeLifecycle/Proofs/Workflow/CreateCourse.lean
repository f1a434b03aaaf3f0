import VolumeLifecycle.Proofs.Program.Performed
import VolumeLifecycle.Proofs.Workflow.Discipline
import VolumeLifecycle.Proofs.Workflow.Marking
import VolumeLifecycle.Proofs.Workflow.Steps

namespace VolumeLifecycle.Workflow

variable {c : Config} {r : Request} {volume : Volume} {request : Provider.Request}
  {es : List Exchange}

structure HardStep where
  call : Call
  judge : call.Reply → Except Failure Unit

def takeAll : List HardStep → Workflow Unit
  | [] => return ()
  | step :: rest => do
    let reply ← attempt step.call
    ofExcept (step.judge reply)
    takeAll rest

/-- The exchanges of steps that are taken in order, up to the first one that fails, and the result. -/
inductive Taken : List HardStep → List Exchange → Except Failure Unit → Prop where
  | done : Taken [] [] (.ok ())
  | passed {step : HardStep} {rest : List HardStep} (reply : step.call.Reply)
      (hreply : step.judge reply = .ok ()) {es : List Exchange} {x : Except Failure Unit}
      (hrest : Taken rest es x) : Taken (step :: rest) (⟨.call step.call, reply⟩ :: es) x
  | failed {step : HardStep} (rest : List HardStep) (reply : step.call.Reply) {f : Failure}
      (hreply : step.judge reply = .error f) :
    Taken (step :: rest) [⟨.call step.call, reply⟩] (.error f)

theorem ends_takeAll_iff {steps : List HardStep} {x : Except Failure Unit} :
    Ends (takeAll steps) es x ↔ Taken steps es x := by
  induction steps generalizing es with
  | nil =>
    refine ends_pure_iff.trans ⟨?_, ?_⟩
    · rintro ⟨rfl, rfl⟩
      exact .done
    · intro h
      cases h
      exact ⟨rfl, rfl⟩
  | cons step rest ih =>
    refine ends_attempt_bind_iff.trans ⟨?_, ?_⟩
    · rintro ⟨reply, es', rfl, h⟩
      have h := ends_ofExcept_bind_iff.1 h
      cases hreply : step.judge reply with
      | error f =>
        rw [hreply] at h
        obtain ⟨rfl, rfl⟩ := h
        exact .failed rest reply hreply
      | ok _ =>
        rw [hreply] at h
        exact .passed reply hreply (ih.1 h)
    · intro h
      cases h with
      | passed reply hreply hrest =>
        refine ⟨reply, _, rfl, ends_ofExcept_bind_iff.2 ?_⟩
        rw [hreply]
        exact ih.2 hrest
      | failed _ reply hreply =>
        refine ⟨reply, [], rfl, ends_ofExcept_bind_iff.2 ?_⟩
        rw [hreply]
        exact ⟨rfl, rfl⟩

/-- The steps on a clone or import that was attached as a device: its filesystem is set up, and it is
released again. A reply of the provider that carries an error is a failure. -/
def preparation (volume : Volume) (request : Provider.Request) (filesystem : String) (d : Device) :
    List HardStep :=
  [⟨.setupFilesystem d volume filesystem, fun (reply : Except Failure Unit) => reply⟩,
    ⟨.unmountDevice volume, fun (reply : Except Failure Unit) => reply⟩,
    ⟨.offlineDevice d, fun (reply : Except Failure Unit) => reply⟩,
    ⟨.provider .detach request, fun (reply : Except Failure Provider.Response) => checked reply⟩,
    ⟨.deleteDevice d, fun (reply : Except Failure Unit) => reply⟩]

theorem prepareAndRelease_eq (filesystem : String) :
    prepareAndRelease volume request filesystem =
      (attachFirst volume >>= fun d => takeAll (preparation volume request filesystem d)) := by
  refine bind_congr fun d => ?_
  refine bind_congr (x := call (.setupFilesystem d volume filesystem)) fun _ => ?_
  refine bind_congr (x := call (.unmountDevice volume)) fun _ => ?_
  refine bind_congr (x := call (.offlineDevice d)) fun _ => ?_
  have hdelete : call (.deleteDevice d) =
      takeAll [⟨.deleteDevice d, fun (reply : Except Failure Unit) => reply⟩] := by
    refine bind_congr (x := attempt (.deleteDevice d))
      (f := fun (reply : Except Failure Unit) => ofExcept reply) fun reply => ?_
    cases reply <;> rfl
  rw [hdelete]
  refine bind_congr (x := attempt (.provider .detach request)) fun reply => ?_
  cases reply with
  | error f => rfl
  | ok response =>
    change (ofExcept response.check >>= fun _ => takeAll _) =
      (ofExcept (response.check.map fun _ => ()) >>= fun _ => takeAll _)
    cases response.check <;> rfl

/-- The preparation of a clone or import and its result. An attach that answers no device is a
failure. -/
inductive Readied (volume : Volume) (request : Provider.Request) (filesystem : String) :
    List Exchange → Except Failure Unit → Prop where
  | unattached (f : Failure) :
    Readied volume request filesystem [⟨.call (.attachDevice [volume]), Except.error f⟩] (.error f)
  | noDevice :
    Readied volume request filesystem [⟨.call (.attachDevice [volume]), Except.ok []⟩]
      (.error (noDeviceFor volume))
  | attached (d : Device) (more : List Device) {steps : List Exchange} {x : Except Failure Unit}
      (hsteps : Taken (preparation volume request filesystem d) steps x) :
    Readied volume request filesystem
      (⟨.call (.attachDevice [volume]), Except.ok (d :: more)⟩ :: steps) x

theorem ends_prepareAndRelease_iff {filesystem : String} {x : Except Failure Unit} :
    Ends (prepareAndRelease volume request filesystem) es x ↔
      Readied volume request filesystem es x := by
  rw [prepareAndRelease_eq, ends_attachFirst_bind_iff]
  constructor
  · rintro (⟨f, rfl, rfl⟩ | ⟨rfl, rfl⟩ | ⟨d, more, steps, rfl, h⟩)
    · exact .unattached f
    · exact .noDevice
    · exact .attached d more (ends_takeAll_iff.1 h)
  · intro h
    cases h with
    | unattached f => exact .inl ⟨f, rfl, rfl⟩
    | noDevice => exact .inr (.inl ⟨rfl, rfl⟩)
    | attached d more hsteps => exact .inr (.inr ⟨d, more, _, rfl, ends_takeAll_iff.2 hsteps⟩)

theorem ends_discardCreated_bind_iff {β : Type} {f : Unit → Workflow β} {x : Except Failure β} :
    Ends (discardCreated volume request >>= f) es x ↔ ∃ released removed rest,
      es = released ++
          ⟨.call (.provider .remove (request.withOpt forceOption (.bool true))), removed⟩ :: rest ∧
        Released volume request released ∧ Ends (f ()) rest x := by
  rw [discardCreated, bind_assoc]
  constructor
  · intro h
    rcases ends_bind_iff.1 h with ⟨f, -, hrelease⟩ | ⟨report, released, es₁, rfl, hrelease, hrest⟩
    · obtain ⟨-, report, hreport⟩ := ends_releaseHostSide hrelease
      cases hreport
    · rw [bind_assoc] at hrest
      obtain ⟨removed, rest, rfl, hlast⟩ := ends_provideBestEffort_bind_iff.1 hrest
      exact ⟨released, removed, rest, rfl, (ends_releaseHostSide hrelease).1, hlast⟩
  · rintro ⟨released, removed, rest, rfl, hreleased, hrest⟩
    obtain ⟨report, hrelease⟩ := hreleased.ends
    refine ends_bind_iff.2 (.inr ⟨report, released, _, rfl, hrelease, ?_⟩)
    rw [bind_assoc]
    exact ends_provideBestEffort_bind_iff.2 ⟨removed, rest, rfl, hrest⟩

/-- How a create goes on when the provider has created the volume, and its result. A clone or import
that could not be prepared is released from this node and removed, whatever comes of that. -/
inductive Finishing (options : Options) (volume : Volume) (request : Provider.Request) :
    List Exchange → Except Failure Volume → Prop where
  | fresh (hfresh : options.isCloneOrImport = false) : Finishing options volume request [] (.ok volume)
  | prepared (hcopy : options.isCloneOrImport = true) {preparing : List Exchange}
      (hprepared : Readied volume request (options.filesystem.getD Options.defaultFilesystem)
        preparing (.ok ())) :
    Finishing options volume request preparing (.ok volume)
  | discarded (hcopy : options.isCloneOrImport = true) {preparing : List Exchange} {f : Failure}
      (hfailed : Readied volume request (options.filesystem.getD Options.defaultFilesystem)
        preparing (.error f))
      {released : List Exchange} (hreleased : Released volume request released)
      (removed : Except Failure Provider.Response) :
    Finishing options volume request
      (preparing ++ (released ++
        [⟨.call (.provider .remove (request.withOpt "force" (.bool true))), removed⟩])) (.error f)

/-- What a create does inside of the gate, and its result. -/
inductive Creating (c : Config) (r : Request) : List Exchange → Except Failure Volume → Prop where
  | unresolved (reply : Except Failure Provider.Response) {f : Failure}
      (hreply : shown r.name reply = .error f) :
    Creating c r [⟨.call (.provider .create (providerRequest c r)), reply⟩] (.error f)
  | resolved (reply : Except Failure Provider.Response) {volume : Volume}
      (hreply : shown r.name reply = .ok volume) {rest : List Exchange} {x : Except Failure Volume}
      (hrest : Finishing r.options volume (providerRequest c r) rest x) :
    Creating c r (⟨.call (.provider .create (providerRequest c r)), reply⟩ :: rest) x

theorem ends_finishing_iff {x : Except Failure Volume} :
    Ends (if r.options.isCloneOrImport then do
        match ← result (prepareAndRelease volume request
          (r.options.filesystem.getD Options.defaultFilesystem)) with
        | .ok _ => return volume
        | .error f =>
          discardCreated volume request
          fail f
      else pure volume) es x ↔ Finishing r.options volume request es x := by
  cases hcopy : r.options.isCloneOrImport with
  | false =>
    simp only [Bool.false_eq_true, if_false, ends_pure_iff]
    constructor
    · rintro ⟨rfl, rfl⟩
      exact .fresh hcopy
    · intro h
      cases h with
      | fresh => exact ⟨rfl, rfl⟩
      | prepared hcopy' => cases hcopy.symm.trans hcopy'
      | discarded hcopy' => cases hcopy.symm.trans hcopy'
  | true =>
    simp only [if_true, ends_result_bind_iff, ends_prepareAndRelease_iff]
    constructor
    · rintro ⟨y, preparing, es₂, rfl, hprepares, hrest⟩
      cases y with
      | ok _ =>
        obtain ⟨rfl, rfl⟩ := ends_pure_iff.1 hrest
        rw [List.append_nil]
        exact .prepared hcopy hprepares
      | error f =>
        obtain ⟨released, removed, rest, rfl, hreleased, hfails⟩ :=
          ends_discardCreated_bind_iff.1 hrest
        obtain ⟨rfl, rfl⟩ := ends_fail_iff.1 hfails
        exact .discarded hcopy hprepares hreleased removed
    · intro h
      cases h with
      | fresh hfresh => cases hcopy.symm.trans hfresh
      | prepared _ hprepared =>
        exact ⟨.ok (), es, [], (List.append_nil es).symm, hprepared, ends_pure_iff.2 ⟨rfl, rfl⟩⟩
      | discarded _ hfailed hreleased removed =>
        exact ⟨.error _, _, _, rfl, hfailed, ends_discardCreated_bind_iff.2
          ⟨_, removed, [], rfl, hreleased, ends_fail_iff.2 ⟨rfl, rfl⟩⟩⟩

theorem ends_createLocked_iff {x : Except Failure Volume} :
    Ends (createLocked c r) es x ↔ Creating c r es x := by
  refine ends_fetch_bind_iff.trans ⟨?_, ?_⟩
  · rintro ⟨reply, es₁, rfl, h⟩
    cases hreply : shown r.name reply with
    | error f =>
      rw [hreply] at h
      obtain ⟨rfl, rfl⟩ := h
      exact .unresolved reply hreply
    | ok volume =>
      rw [hreply] at h
      exact .resolved reply hreply (ends_finishing_iff.1 h)
  · intro h
    cases h with
    | unresolved reply hreply => exact ⟨reply, [], rfl, by rw [hreply]; exact ⟨rfl, rfl⟩⟩
    | resolved reply hreply hrest =>
      refine ⟨reply, _, rfl, ?_⟩
      rw [hreply]
      exact ends_finishing_iff.2 hrest

/-- No other volume is created. -/
theorem Finishing.not_create {options : Options} {x : Except Failure Volume}
    (h : Finishing options volume request es x) : .provider .create ∉ kinds es := by
  have hreadied : ∀ {filesystem preparing y}, Readied volume request filesystem preparing y →
      .provider .create ∉ kinds preparing := by
    intro filesystem preparing y hreadied hmem
    have hgentle := (keeps_prepareAndRelease _ _ _).allCalls (ends_prepareAndRelease_iff.2 hreadied)
    obtain ⟨call, hcall, hkind⟩ := hgentle.exists_of_mem_kinds hmem
    exact hcall.2.1 hkind
  cases h with
  | fresh => exact List.not_mem_nil
  | prepared _ hprepared => exact hreadied hprepared
  | discarded _ hfailed hreleased removed =>
    simp only [kinds_append, List.mem_append, not_or]
    refine ⟨hreadied hfailed, ?_, ?_⟩
    · rcases kinds_of_released hreleased with hkinds | hkinds <;> rw [hkinds] <;> decide
    · exact fun hmem => by cases List.mem_singleton.1 hmem

/-- The mark of a fresh volume does not matter to how a create goes on. -/
theorem Finishing.of_markFresh {options : Options} {x : Except Failure Volume}
    (h : Finishing (markFresh options) volume request es x) :
    Finishing options volume request es x := by
  cases hcopy : options.isCloneOrImport with
  | true => rwa [markFresh, if_pos hcopy] at h
  | false =>
    rw [markFresh, if_neg (by simp [hcopy])] at h
    cases h with
    | fresh => exact .fresh hcopy
    | prepared hcopy' => cases hcopy.symm.trans hcopy'
    | discarded hcopy' => cases hcopy.symm.trans hcopy'

/-- A request for a new volume that is in order, and does not ask for help. The options are those of the
request over the configured ones. -/
structure Accepts (c : Config) (request : Runtime.CreateRequest) (options : Options) : Prop where
  name : checkName request.name = .ok ()
  layers : Options.layered c.defaults c.selectedDefaults request.opts = .ok options
  help : options.help = false
  valid : options.validate = .ok ()

/-- A create whose options are accepted describes this node first, and does the rest inside of the
gate. -/
theorem ends_create {request : Runtime.CreateRequest} {options : Options}
    (haccepts : Accepts c request options) {x : Except Failure Created}
    (h : Ends (create c request.name request.opts) es x) :
    (∃ f, x = .error f ∧ es = [⟨.describeHost, Except.error f⟩]) ∨
      ∃ host inside y, es = ⟨.describeHost, Except.ok host⟩ :: inside ∧ x = y.map .volume ∧
        Creating c ⟨request.name, markFresh options, host⟩ inside y := by
  have hnamed := ends_ofExcept_bind_iff.1 h
  rw [haccepts.name] at hnamed
  have hlayered := ends_ofExcept_bind_iff.1 hnamed
  rw [haccepts.layers] at hlayered
  simp only [haccepts.help, Bool.false_eq_true, if_false] at hlayered
  have hvalid := ends_ofExcept_bind_iff.1 hlayered
  rw [haccepts.valid] at hvalid
  obtain ⟨described, inside, rfl, hrest⟩ := ends_describeHost_bind_iff.1 hvalid
  cases described with
  | error f =>
    obtain ⟨rfl, rfl⟩ := hrest
    exact .inl ⟨f, rfl, rfl⟩
  | ok host =>
    refine .inr ⟨host, inside, ?_⟩
    rcases ends_bind_iff.1 (ends_enter_bind_iff.1 hrest) with
      ⟨f, rfl, hcreates⟩ | ⟨volume, es₁, es₂, rfl, hcreates, hdone⟩
    · exact ⟨.error f, rfl, rfl, ends_createLocked_iff.1 hcreates⟩
    · obtain ⟨rfl, rfl⟩ := ends_pure_iff.1 hdone
      rw [List.append_nil]
      exact ⟨.ok volume, rfl, rfl, ends_createLocked_iff.1 hcreates⟩

/-- Once the provider has created a volume, a create comes to its end in one of these ways. A volume that
is neither a clone nor an import is answered at once. A clone or import is prepared, and answered if every
step succeeds; after the first failure, which is what is answered, the volume is released from this node
and removed by force, each step of that being tried whatever the others return. -/
theorem create_course {c : Config} {current : Host} {request : Runtime.CreateRequest}
    {options : Options} (haccepts : Accepts c request options) {es : List Exchange}
    {x : Option Response} (h : ((Command.create request).program c current).Runs es x)
    {asked : Provider.Request} {reply : Except Failure Provider.Response}
    (hasked : ⟨.call (.provider .create asked), reply⟩ ∈ es) {volume : Volume}
    (hshown : shown request.name reply = .ok volume) :
    ∃ host more rest result,
      (x = none ∨
        more = [] ∧ x = some (.created (Command.createResponse (result.map Created.volume)))) ∧
      asked = providerRequest c ⟨request.name, markFresh options, host⟩ ∧
      es ++ more = ⟨.describeHost, Except.ok host⟩ :: ⟨.call (.provider .create asked), reply⟩ :: rest ∧
      Finishing options volume asked rest result := by
  obtain ⟨more, answer, hend, hx⟩ := h.exists_completion
  replace hasked : ⟨.call (.provider .create asked), reply⟩ ∈ es ++ more :=
    List.mem_append_left _ hasked
  obtain ⟨made, hcreate, rfl⟩ := Command.runs_answering_iff.1 hend
  rcases ends_create haccepts hcreate with ⟨f, -, hes⟩ | ⟨host, inside, result, hes, rfl, hcreating⟩
  · rw [hes] at hasked
    cases List.mem_singleton.1 hasked
  rw [hes] at hasked
  rcases List.mem_cons.1 hasked with heq | hasked
  · cases heq
  cases hcreating with
  | unresolved reply' hreply =>
    cases List.mem_singleton.1 hasked
    cases hreply.symm.trans hshown
  | @resolved reply' volume' hreply rest _ hrest =>
    rcases List.mem_cons.1 hasked with heq | hlater
    · cases heq
      cases hreply.symm.trans hshown
      exact ⟨host, more, rest, result, hx, rfl, hes, hrest.of_markFresh⟩
    · exact absurd (kind_mem_kinds hlater) hrest.not_create

def unprepared : Program.Trace Response Testbed :=
  Program.trace Testbed.perform 20 (Command.program {} cloning.host
    (.create { name := "copy", opts := .ofList [("cloneOf", .string "base")] }))
    (cloning.withFailure .setupFilesystem (some (.host "chmod failed")))

/-- A clone whose filesystem cannot be set up is discarded. -/
theorem create_course_unprepared :
    let request : Runtime.CreateRequest :=
      { name := "copy", opts := .ofList [("cloneOf", .string "base")] }
    let options : Options := { cloneOf := some "base" }
    Accepts {} request options ∧ ∃ host asked reply volume rest f,
      unprepared.exchanges =
        ⟨.describeHost, Except.ok host⟩ :: ⟨.call (.provider .create asked), reply⟩ :: rest ∧
      shown request.name reply = .ok volume ∧
      Finishing options volume asked rest (.error f) ∧ f.message = "chmod failed" := by
  intro request options
  have haccepts : Accepts {} request options :=
    ⟨if_neg (by decide), rfl, rfl, rfl⟩
  have hasked := List.mem_of_getElem? (i := 1) (l := unprepared.exchanges) rfl
  have hruns : ((Command.create request).program {} cloning.host).Runs unprepared.exchanges
      unprepared.outcome := Program.trace_runs _ _ _ _
  have houtcome : unprepared.outcome = some (.created { err := "chmod failed" }) := rfl
  obtain ⟨host, more, rest, result, hx, -, hes, hfinishing⟩ :=
    create_course haccepts hruns hasked rfl
  rw [houtcome] at hx
  obtain ⟨rfl, hanswer⟩ := hx.resolve_left (Option.some_ne_none _)
  rw [List.append_nil] at hes
  cases result with
  | ok made => simp [Except.map, Command.createResponse] at hanswer
  | error f =>
    have herr : "chmod failed" = f.message := by
      simpa [Except.map, Command.createResponse] using hanswer
    exact ⟨haccepts, host, _, _, _, rest, f, hes, rfl, hfinishing, herr.symm⟩

end VolumeLifecycle.Workflow
