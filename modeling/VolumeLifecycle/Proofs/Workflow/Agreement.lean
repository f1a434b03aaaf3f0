import VolumeLifecycle.Proofs.Mounts.Table
import VolumeLifecycle.Proofs.Program.Determined
import VolumeLifecycle.Proofs.Testbed.Surroundings
import VolumeLifecycle.Proofs.Workflow.Formatting
import VolumeLifecycle.Proofs.Workflow.Mountpoint
import VolumeLifecycle.Proofs.Workflow.Queries

namespace VolumeLifecycle

open Program (Performed Within)

namespace Workflow

variable {World : Type} {s : Surroundings World} {w w' : World} {c : Config} {name : String}
  {es : List Exchange} {path : Path}

/-- The volume that the provider shows in the surroundings. -/
theorem shown_in {op : Provider.Op} {request : Provider.Request} {response : Provider.Response}
    {u : Volume} (hsound : s.Sound w) (hu : response.intoVolume name = .ok u)
    (hreply : s.perform w (.call (.provider op request)) = (Except.ok response, w')) :
    u.name = request.name ∧ u.serialNumber = s.serial request.name ∧
      ((s.volumes w').get? request.name).isSome :=
  s.showsVolume _ _ _ _ _ _ hsound hreply (Provider.Response.volume_of_intoVolume hu)

/-- The filesystem of a volume is created and then mounted. -/
theorem has_of_createOnFirstMount {volume : Volume} {filesystem : String} (hsound : s.Sound w)
    (h : Ends (createOnFirstMount volume path filesystem) es (.ok ()))
    (hw : Performed s.perform w es w') : Mount.Has (s.mounts w') volume.serialNumber path := by
  rcases ends_attachFirst_bind_iff.1 h with
    ⟨e, heq, -⟩ | ⟨heq, -⟩ | ⟨d, more, es₁, rfl, hattached⟩
  · cases heq
  · cases heq
  rcases ends_call_bind_iff.1 hattached with ⟨e, heq, -⟩ | ⟨_, es₂, rfl, hset⟩
  · cases heq
  rcases ends_call_bind_iff.1 hset with ⟨e, heq, -⟩ | ⟨m, es₃, rfl, hdone⟩
  · cases heq
  obtain ⟨rfl, -⟩ := ends_pure_iff.1 hdone
  obtain ⟨w₁, hattach, hsound₁, -, hw₁⟩ := s.cons_inv hsound hw
  obtain ⟨w₂, -, hsound₂, -, hw₂⟩ := s.cons_inv hsound₁ hw₁
  obtain ⟨w₃, -, -, hmounts, hw₃⟩ := s.cons_inv hsound₂ hw₂
  obtain rfl := hw₃.nil_inv
  obtain ⟨v, hv, hserial⟩ := s.attaches _ _ _ _ hsound hattach d List.mem_cons_self
  obtain rfl := List.mem_singleton.1 hv
  exact hserial ▸ hmounts.has_mounted

/-- However this node's part of a mount goes well, the volume is mounted at the path then. A mount that is
used again is healthy and was there. -/
theorem has_of_mountOnHost {volume : Volume} {how : HostMount} (hsound : s.Sound w)
    (h : Ends (mountOnHost volume path) es (.ok how)) (hw : Performed s.perform w es w') :
    Mount.Has (s.mounts w') volume.serialNumber path := by
  rcases ends_call_bind_iff.1 h with ⟨e, heq, -⟩ | ⟨mounts, es₁, rfl, hrest⟩
  · cases heq
  obtain ⟨w₁, hlook, hsound₁, hchanges, hw₁⟩ := s.cons_inv hsound hw
  cases hserves : mounts.any (·.servesAt path) with
  | true =>
    simp only [hserves, if_true] at hrest
    obtain ⟨rfl, -⟩ := ends_pure_iff.1 hrest
    obtain rfl := hw₁.nil_inv
    obtain ⟨m, hm, hserved⟩ := List.any_eq_true.1 hserves
    rw [s.showsMounts _ _ _ _ hsound hlook] at hm
    obtain ⟨hm, hof⟩ := List.mem_filter.1 hm
    rw [hchanges.eq_of_leavesMounts (Effect.IsQuestion.leavesMounts (.inr rfl))]
    exact ⟨m, hm, of_decide_eq_true hof, (Bool.and_eq_true_iff.1 hserved).1⟩
  | false =>
    simp only [hserves, Bool.false_eq_true, if_false] at hrest
    obtain ⟨reply, es₂, rfl, htried⟩ := ends_attempt_bind_iff.1 hrest
    obtain ⟨w₂, -, hsound₂, hattached, hw₂⟩ := s.cons_inv hsound₁ hw₁
    cases reply with
    | ok m =>
      obtain ⟨rfl, -⟩ := ends_pure_iff.1 htried
      obtain rfl := hw₂.nil_inv
      exact hattached.has_attached
    | error f =>
      cases hfilesystem : volume.delayedFilesystem with
      | none =>
        simp only [hfilesystem] at htried
        cases (ends_fail_iff.1 htried).2
      | some filesystem =>
        simp only [hfilesystem] at htried
        rcases ends_bind_iff.1 htried with ⟨e, heq, -⟩ | ⟨_, es₃, es₄, rfl, hcreates, hdone⟩
        · cases heq
        obtain ⟨rfl, -⟩ := ends_pure_iff.1 hdone
        rw [List.append_nil] at hw₂
        exact has_of_createOnFirstMount hsound₂ hcreates hw₂

theorem mountOnHost_removesNoVolume (volume : Volume) (path : Path) :
    Within Effect.RemovesNoVolume (mountOnHost volume path).run := by
  refine within_mountOnHost (fun call hcall hkind => ?_) volume path
  rw [hkind] at hcall
  cases hcall

/-- A mount that goes well leaves its volume mounted at the path that it answers, and known to the
provider. -/
theorem has_of_mount {opts : Dict Json} (hsound : s.Sound w)
    (h : Ends (mount c name opts) es (.ok path)) (hw : Performed s.perform w es w') :
    path = c.mountpointFor name ∧ Mount.Has (s.mounts w') (s.serial name) path ∧
      ((s.volumes w').get? name).isSome := by
  rcases mount_inv h with ⟨-, hx⟩ | ⟨options, host, es₁, es₂, rfl, -, hlocked⟩
  · exact absurd rfl (hx path)
  obtain ⟨w₁, hw₁, hw₂⟩ := hw.append_inv
  have hsound₁ := s.sound_of_performed hsound hw₁
  rw [mountLocked_eq] at hlocked
  rcases ends_bind_iff.1 hlocked with ⟨e, heq, -⟩ | ⟨volume, es₃, es₄, rfl, hprovider, hafter⟩
  · cases heq
  obtain ⟨reply, rfl, hvolume⟩ := ends_mountOnProvider_iff.1 hprovider
  rw [List.singleton_append] at hw₂
  obtain ⟨w₂, hreply, hsound₂, -, hw₃⟩ := s.cons_inv hsound₁ hw₂
  cases reply with
  | error f => cases hvolume
  | ok response =>
    cases hu : response.intoVolume name with
    | error f => simp [shown, hu] at hvolume
    | ok u =>
      obtain rfl : volume = mountedHere u := by simpa [shown, hu] using hvolume
      obtain ⟨hname, hserial, hstored⟩ := shown_in hsound₁ hu hreply
      obtain ⟨how, onHost, after, rfl, honHost, hupdates, rfl⟩ := ends_afterProvider hafter
      obtain ⟨w₃, hmounts, hlast⟩ := hw₃.append_inv
      have hsound₃ := s.sound_of_performed hsound₂ hmounts
      have hhas := has_of_mountOnHost hsound₂ honHost hmounts
      have hserial' : (mountedHere u).serialNumber = s.serial name := hserial
      have hstored' := s.isSome_of_performed hsound₂ hmounts
        ((mountOnHost_removesNoVolume _ _).effects honHost) hstored
      have hleaves : ∀ ex ∈ after, ex.effect.LeavesMounts ∧ ex.effect.RemovesNoVolume := by
        intro ex hex
        obtain ⟨request, hrequest⟩ := hupdates ex hex
        rw [hrequest]
        exact ⟨⟨rfl, rfl⟩, fun hkind => by cases hkind⟩
      refine ⟨congrArg c.mountpointFor hname, ?_, ?_⟩
      · rw [s.mounts_of_performed hsound₃ hlast fun ex hex => (hleaves ex hex).1]
        rwa [hserial'] at hhas
      · exact s.isSome_of_performed hsound₃ hlast (fun ex hex => (hleaves ex hex).2) hstored'

/-- The name of a workflow whose inputs are in order is in order. -/
theorem checkName_of_checkedOptions {opts : Dict Json} {options : Options}
    (h : checkedOptions name opts = .ok options) : checkName name = .ok () := by
  unfold checkedOptions at h
  split at h
  · cases h
  · next hname => exact hname

theorem checkName_of_mount {opts : Dict Json} (h : Ends (mount c name opts) es (.ok path)) :
    checkName name = .ok () := by
  rcases ends_bind_iff.1 h with ⟨e, heq, -⟩ | ⟨r, es₁, es₂, rfl, hgather, -⟩
  · cases heq
  have hgathered := ends_gather_bind_iff.1 hgather
  cases hoptions : checkedOptions name opts with
  | error f =>
    rw [hoptions] at hgathered
    cases hgathered.2
  | ok options => exact checkName_of_checkedOptions hoptions

theorem addsNoMount_of_freeing {call : Call} (h : freeing call.kind = true) :
    (Effect.call call).AddsNoMount := by
  cases call <;> first | rfl | cases h

theorem addsNoMount_of_wait_view {wait : Conflict.Wait} {e : Effect}
    {after : e.Reply → Conflict.Wait} (h : wait.view = .asks e after) : e.AddsNoMount := by
  rcases Conflict.Wait.asks_of_view h with rfl | ⟨duration, rfl⟩ | rfl | rfl
  · trivial
  · trivial
  · exact (rfl : wait.probeCall.kind.mounts = false)
  · exact (rfl : wait.resetCall.kind.mounts = false)

theorem addsNoMount_provider (op : Provider.Op) (request : Provider.Request) :
    (Effect.call (.provider op request)).AddsNoMount :=
  (rfl : (Call.provider op request).kind.mounts = false)

theorem afterUnmount_addsNoMount (c : Config) (r : Request) (volume : Volume) :
    Within Effect.AddsNoMount (afterUnmount c r volume).run := by
  refine within_bind ?_ fun _ => ?_
  · exact within_releaseUnmounted (fun _ => addsNoMount_of_freeing) (addsNoMount_provider ..) volume
  · split
    · refine within_bind (within_result ?_) fun _ => within_pure _
      exact within_removeLocked (fun _ _ _ => addsNoMount_of_wait_view)
        (fun _ => addsNoMount_of_freeing) (addsNoMount_provider ..) (addsNoMount_provider ..)
        (addsNoMount_provider ..)
    · exact within_pure _

/-- A volume that is released has no mounts left, and none is added when it is removed. -/
theorem lacks_of_afterUnmount {r : Request} {volume : Volume} (hsound : s.Sound w)
    (h : Ends (afterUnmount c r volume) es (.ok ())) (hw : Performed s.perform w es w') :
    Mount.Lacks (s.mounts w') volume.serialNumber := by
  have hadds := (afterUnmount_addsNoMount c r volume).effects h
  obtain ⟨(reply : Except Failure Unit), rest, rfl, hrest⟩ := Program.runs_perform_iff.1 h
  obtain ⟨w₁, -, hsound₁, hunmounts, hw₁⟩ := s.cons_inv hsound hw
  cases reply with
  | error f => cases (Program.runs_done_iff.1 hrest).2
  | ok _ =>
    exact s.lacks_of_performed hsound₁ hw₁ (fun ex hex => hadds ex (List.mem_cons_of_mem _ hex))
      hunmounts.lacks_unmounted

/-- An unmount that goes well leaves no mount of its volume, unless other containers hold it. -/
theorem lacks_of_unmount {opts : Dict Json} (hsound : s.Sound w)
    (h : Ends (unmount c name opts) es (.ok ()))
    (hfree : ∀ request response,
      ⟨.call (.provider .unmount request), Except.ok response⟩ ∈ es → response.isDoNotUnmount = false)
    (hw : Performed s.perform w es w') :
    checkName name = .ok () ∧ Mount.Lacks (s.mounts w') (s.serial name) := by
  have hgathered := ends_gather_bind_iff.1 h
  cases hoptions : checkedOptions name opts with
  | error f =>
    rw [hoptions] at hgathered
    cases hgathered.2
  | ok options =>
    rw [hoptions] at hgathered
    obtain ⟨described, es₁, rfl, hgathered⟩ := hgathered
    cases described with
    | error f => cases hgathered.2
    | ok host =>
      refine ⟨checkName_of_checkedOptions hoptions, ?_⟩
      obtain ⟨w₁, -, hsound₁, -, hw₁⟩ := s.cons_inv hsound hw
      obtain ⟨reply, es₂, rfl, hreplied⟩ :=
        ends_unmountLocked_iff.1 (ends_enter_bind_iff.1 hgathered)
      obtain ⟨w₂, hreply, hsound₂, -, hw₂⟩ := s.cons_inv hsound₁ hw₁
      cases hreplied with
      | held response herr hheld =>
        have hnot := hfree _ response (List.mem_cons_of_mem _ List.mem_cons_self)
        exact absurd hheld (of_decide_eq_false hnot)
      | yielded hyields hafter =>
        obtain ⟨-, hserial, -⟩ := shown_in hsound₁ (hyields.intoVolume name) hreply
        exact hserial ▸ lacks_of_afterUnmount hsound₂ hafter hw₂

theorem describe_isQuestion (c : Config) (name : String) :
    Within Effect.IsQuestion (describe c name).run :=
  within_describe trivial (fun _ => .inl rfl) (fun _ => .inr rfl) c name

/-- The answer to a question for a volume is read off the mount table, unless one of its calls fails. -/
theorem described_in {x : Except Failure Runtime.VolumeInfo} (hsound : s.Sound w)
    (hname : checkName name = .ok ()) (h : Ends (describe c name) es x)
    (hw : Performed s.perform w es w') :
    (∃ f, Unanswered c name es f ∧ x = .error f) ∨
      ∃ info, x = .ok info ∧ info.mountpoint = mountpointIn
        ((s.mounts w).filter fun m => m.device.serialNumber = s.serial name)
        (c.mountpointFor name) := by
  refine (ends_describe hname h).imp_right ?_
  rintro ⟨options, host, response, u, mounts, rfl, hu, rfl⟩
  obtain ⟨w₁, -, hsound₁, hchanges₁, hw₁⟩ := s.cons_inv hsound hw
  obtain ⟨w₂, hreply, hsound₂, hchanges₂, hw₂⟩ := s.cons_inv hsound₁ hw₁
  obtain ⟨w₃, hmounts, -⟩ := s.cons_inv hsound₂ hw₂
  obtain ⟨hnamed, hserial, -⟩ := shown_in hsound₁ hu hreply
  have hsame₁ := hchanges₁.eq_of_leavesMounts trivial
  have hsame₂ := hchanges₂.eq_of_leavesMounts ⟨rfl, rfl⟩
  have hshown := s.showsMounts _ _ _ _ hsound₂ hmounts
  rw [hsame₂, hsame₁, hserial] at hshown
  refine ⟨_, rfl, ?_⟩
  rw [infoOf, hnamed, hshown]
  rfl

/-- A question for a volume that the provider has is unanswered only if one of its calls fails. -/
theorem exists_failure_of_unanswered {f : Failure} (hsound : s.Sound w)
    (hstored : ((s.volumes w).get? name).isSome) (h : Unanswered c name es f)
    (hw : Performed s.perform w es w') : ∃ ex ∈ es, ex.failure? = some f := by
  cases h with
  | node => exact ⟨_, List.mem_cons_self, rfl⟩
  | unread => exact ⟨_, List.mem_cons_of_mem _ (List.mem_cons_of_mem _ List.mem_cons_self), rfl⟩
  | unresolved options host reply hreply =>
    refine ⟨_, List.mem_cons_of_mem _ List.mem_cons_self, ?_⟩
    cases reply with
    | error e =>
      cases hreply
      rfl
    | ok response =>
      have hkeeps := s.keeps w .describeHost name hsound trivial hstored
      obtain ⟨w₁, hnode, hsound₁, -, hw₁⟩ := s.cons_inv hsound hw
      obtain ⟨w₂, hget, -⟩ := s.cons_inv hsound₁ hw₁
      rw [hnode] at hkeeps
      obtain ⟨v, hv⟩ := s.resolves _ _ _ _ hsound₁ hget hkeeps
      have hshown : response.intoVolume name = .error f := hreply
      cases hv.symm.trans hshown

end Workflow

namespace Command

open Workflow

/-- The two questions for a volume, and how they tell the result. -/
inductive Asks (name : String) : Command → (Except Failure Runtime.VolumeInfo → Response) → Prop
  | get : Asks name (.get ⟨name⟩) fun result => .volume (.ofResult result)
  | path : Asks name (.path ⟨name⟩) fun result => .mounted (pathResponse result)

variable {World : Type} {s : Surroundings World} {w w' start : World} {c : Config} {name : String}
  {current : Host} {es : List Exchange} {command : Command}
  {respond : Except Failure Runtime.VolumeInfo → Response} {x : Response}

theorem Asks.runs_iff (h : Asks name command respond) :
    (command.program c current).Runs es (some x) ↔
      ∃ result, Ends (describe c name) es result ∧ x = respond result := by
  cases h with
  | get => exact runs_answering_iff
  | path => exact runs_answering_iff

/-- Both questions come to one and the same end in a state of the surroundings, and change nothing. -/
theorem exists_answer (hsound : s.Sound w) (c : Config) (current : Host) (name : String) :
    ∃ result es w', Performed s.perform w es w' ∧
      (s.volumes w' = s.volumes w ∧ s.devices w' = s.devices w ∧ s.mounts w' = s.mounts w) ∧
      ∀ command respond, Asks name command respond →
        (command.program c current).Runs es (some (respond result)) ∧
          ∀ es' x w'', (command.program c current).Runs es' (some x) →
            Performed s.perform w es' w'' → x = respond result ∧ w'' = w' := by
  have hquestion := describe_isQuestion c name
  obtain ⟨es, result, w', hrun, hperformed⟩ := Program.exists_performed s.perform id hquestion w
  refine ⟨result, es, w', hperformed, s.reads_of_performed hsound hperformed (hquestion.effects hrun),
    fun command respond hasks => ⟨hasks.runs_iff.2 ⟨result, hrun, rfl⟩, fun es' x w'' hx hw'' => ?_⟩⟩
  obtain ⟨result', hrun', rfl⟩ := hasks.runs_iff.1 hx
  obtain ⟨-, rfl, rfl⟩ := hrun'.eq_of_performed hrun hw'' hperformed
  exact ⟨rfl, rfl⟩

/-- Over surroundings whose mount table changes by nothing but the calls made, and whose provider shows
every volume under its own name and with its own serial number, mounts, unmounts and questions agree after
any row of commands. A mount that went well is reported by both questions at the path that it has answered,
unless a call of the question fails. After an unmount that went well, and that was not kept from its work by
other containers, no path is reported, or why the question could not be answered. In whatever state, both
questions come to the same result, and change nothing. -/
theorem queries_agree (hsound : s.Sound start) (hreached : s.Reached c start w) (current : Host)
    (name : String) :
    (∀ opts es path w', Ends (Workflow.mount c name opts) es (.ok path) →
      Performed s.perform w es w' → ∀ command respond es' x w'', Asks name command respond →
        (command.program c current).Runs es' (some x) → Performed s.perform w' es' w'' →
          (∃ f, (∃ ex ∈ es', ex.failure? = some f) ∧ x = respond (.error f)) ∨
            ∃ info, x = respond (.ok info) ∧ (Path.mk info.mountpoint).sameAs path = true) ∧
      (∀ opts es w', Ends (Workflow.unmount c name opts) es (.ok ()) →
        (∀ request response, ⟨.call (.provider .unmount request), Except.ok response⟩ ∈ es →
          response.isDoNotUnmount = false) → Performed s.perform w es w' →
        ∀ es' x w'', ((Command.path ⟨name⟩).program c current).Runs es' (some x) →
          Performed s.perform w' es' w'' →
            (∃ f, Unanswered c name es' f ∧ x = .mounted ⟨"", f.message⟩) ∨ x = .mounted ⟨"", ""⟩) ∧
      ∃ result es w', Performed s.perform w es w' ∧
        (s.volumes w' = s.volumes w ∧ s.devices w' = s.devices w ∧ s.mounts w' = s.mounts w) ∧
        ∀ command respond, Asks name command respond →
          (command.program c current).Runs es (some (respond result)) ∧
            ∀ es' x w'', (command.program c current).Runs es' (some x) →
              Performed s.perform w es' w'' → x = respond result ∧ w'' = w' := by
  have hsound₁ := hreached.sound hsound
  refine ⟨fun opts es path w' hmount hw => ?_, fun opts es w' hunmount hfree hw => ?_,
    exists_answer hsound₁ c current name⟩
  · intro command respond es' x w'' hasks hrun hw'
    obtain ⟨result, hresult, rfl⟩ := hasks.runs_iff.1 hrun
    obtain ⟨rfl, ⟨m, hm, hof, hat⟩, hstored⟩ := has_of_mount hsound₁ hmount hw
    have hsound₂ := s.sound_of_performed hsound₁ hw
    rcases described_in hsound₂ (checkName_of_mount hmount) hresult hw' with
      ⟨f, hfails, rfl⟩ | ⟨info, rfl, hinfo⟩
    · exact .inl ⟨f, exists_failure_of_unanswered hsound₂ hstored hfails hw', rfl⟩
    · refine .inr ⟨info, rfl, ?_⟩
      rw [hinfo]
      exact sameAs_mountpointIn ⟨m, List.mem_filter.2 ⟨hm, decide_eq_true hof⟩, hat⟩
  · intro es' x w'' hrun hw'
    obtain ⟨result, hresult, rfl⟩ := Asks.path.runs_iff.1 hrun
    obtain ⟨hname, hlacks⟩ := lacks_of_unmount hsound₁ hunmount hfree hw
    have hsound₂ := s.sound_of_performed hsound₁ hw
    rcases described_in hsound₂ hname hresult hw' with ⟨f, hfails, rfl⟩ | ⟨info, rfl, hinfo⟩
    · exact .inl ⟨f, hfails, rfl⟩
    · refine .inr ?_
      have hnone : (s.mounts w').filter (fun m => m.device.serialNumber = s.serial name) = [] :=
        List.filter_eq_nil_iff.2 fun m hm => by simpa using hlacks m hm
      rw [pathResponse, hinfo, hnone, mountpointIn_nil]

/-- A node whose provider has one volume, with nothing attached and nothing mounted. -/
def oneVolume : Testbed where
  host := { uuid := "node", initiators := [⟨"iscsi", ["iqn.node"]⟩] }
  store.volumes := Dict.empty.insert "v" { name := "v", serialNumber := "serial-v" }
  files := ⟨[], []⟩

theorem oneVolume_truthful : oneVolume.Truthful := by
  refine ⟨fun _ _ hcue => absurd hcue List.not_mem_nil, fun name v hv => ?_⟩
  rw [oneVolume, Dict.get?_insert] at hv
  split at hv
  · next heq =>
    cases hv
    subst heq
    exact ⟨rfl, by decide⟩
  · cases hv

def mounting : Program.Trace (Except Failure Path) Testbed :=
  Program.trace Testbed.perform 20 (Workflow.mount {} "v" .empty).run oneVolume

def asking : Program.Trace Response Testbed :=
  Program.trace Testbed.perform 20 ((Command.path ⟨"v"⟩).program {} oneVolume.host) mounting.world

/-- A volume that is mounted, and the question for its path afterwards. -/
theorem queries_agree_mounted :
    oneVolume.Truthful ∧ mounting.outcome = some (.ok ⟨"/var/lib/volagent/mounts/v"⟩) ∧
      ∃ info, asking.outcome = some (.mounted (pathResponse (.ok info))) ∧
        (Path.mk info.mountpoint).sameAs ⟨"/var/lib/volagent/mounts/v"⟩ = true := by
  have hmounted : mounting.outcome = some (.ok ⟨"/var/lib/volagent/mounts/v"⟩) := by rfl
  have hasked : ∃ x, asking.outcome = some x := Option.isSome_iff_exists.1 (by rfl)
  have hunfailing : asking.exchanges.all (fun ex => ex.failure?.isNone) = true := by rfl
  obtain ⟨x, hx⟩ := hasked
  have hagree := queries_agree (s := Testbed.surroundings) (c := {}) oneVolume_truthful
    (.start oneVolume) oneVolume.host "v"
  have hmount : Ends (Workflow.mount {} "v" .empty) mounting.exchanges
      (.ok ⟨"/var/lib/volagent/mounts/v"⟩) := by
    unfold Ends
    rw [← hmounted]
    exact Program.trace_runs Testbed.perform 20 _ oneVolume
  have hpath : ((Command.path ⟨"v"⟩).program {} oneVolume.host).Runs asking.exchanges (some x) := by
    rw [← hx]
    exact Program.trace_runs Testbed.perform 20 _ mounting.world
  refine ⟨oneVolume_truthful, hmounted, ?_⟩
  rcases hagree.1 _ _ _ _ hmount (Program.trace_performed ..) _ _ _ _ _ .path hpath
    (Program.trace_performed ..) with ⟨f, ⟨ex, hex, hfailed⟩, -⟩ | ⟨info, rfl, hsame⟩
  · have hnone := List.all_eq_true.1 hunfailing ex hex
    rw [hfailed] at hnone
    cases hnone
  · exact ⟨info, hx, hsame⟩

end Command
end VolumeLifecycle
