import VolumeLifecycle.Proofs.Workflow.Release
import VolumeLifecycle.Proofs.Workflow.Removal
import VolumeLifecycle.Testbed

namespace VolumeLifecycle

/-- Whether the status of a volume says that it is not in use, whatever the flag says. -/
def Volume.marksUnused (v : Volume) : Bool :=
  match v.status.get? inUseKey with
  | some (.bool b) => !b
  | some (.string s) => s ≠ "true"
  | _ => false

def Command.removed? : Command → Option String
  | remove r => some r.name
  | unmount r => some r.name
  | _ => none

def Effect.Uninvolved : Effect → Prop
  | .call c => c.kind ≠ .provider .get ∧ c.kind ≠ .provider .remove
  | _ => True

theorem Effect.Uninvolved.noQuestion {e : Effect} (h : e.Uninvolved) : e.NoQuestion := by
  cases e with
  | call c => exact h.1
  | _ => trivial

theorem Effect.Uninvolved.ne_remove {e : Effect} (h : e.Uninvolved) (request : Provider.Request) :
    e ≠ .call (.provider .remove request) := by
  rintro rfl
  exact h.2 rfl

/-- A volume that is not in use by its status is not in use by its flag either, or is marked so. -/
theorem Volume.inUse_eq_false_or_marksUnused {v : Volume} (h : v.statusInUse = false) :
    v.inUse = false ∨ v.marksUnused = true := by
  unfold statusInUse at h
  unfold marksUnused
  generalize v.status.get? inUseKey = mark at h ⊢
  split at h
  · exact .inr (congrArg (!·) h)
  · exact .inr (decide_eq_true (of_decide_eq_false h))
  · exact .inl h

/-- A remove does without the wait for a volume that another host holds if and only if the volume is
marked as unused. -/
theorem Volume.statusInUse_eq_false_and_judge_iff (v : Volume) (host : Host) :
    (v.statusInUse = false ∧ Conflict.judge host v = none) ↔
      v.marksUnused = true ∧ v.inUse = true ∧ v.isAttachedTo host = false := by
  have hjudge : Conflict.judge host v = none ↔ v.inUse = true ∧ v.isAttachedTo host = false := by
    unfold Conflict.judge
    cases v.inUse <;> cases v.isAttachedTo host <;> simp
  rw [hjudge]
  refine and_congr_left fun hheld => ?_
  unfold statusInUse marksUnused
  generalize v.status.get? inUseKey = mark
  split <;> simp [hheld.1]

namespace Workflow

open Program (Within)

variable {c : Config} {r : Request} {es before after : List Exchange}

/-- How the provider came to be told to delete the volume, as far as the exchanges before that show. -/
inductive Cleared (c : Config) (r : Request) (before : List Exchange) : Prop where
  /-- The last question showed that nobody uses the volume, or that this node does. -/
  | seen {last : Except Failure Provider.Response} {volume : Volume}
      (hlast : (answers before).getLast? = some last) (hshown : shown r.name last = .ok volume)
      (hfree : volume.inUse = false ∨ volume.isAttachedTo r.host = true)
  /-- The wait was over, and the volume was still held or could not be asked for. -/
  | waited {first waiting rest : List Exchange} {verdict : Conflict.Verdict}
      (hbefore : before = first ++ (waiting ++ rest))
      (hwait : Ends (awaitConflict c .delete r) waiting (.ok verdict))
      (hverdict : verdict = .timedOut ∨ verdict = .unreachable)
  /-- The only question showed a volume that is marked as unused. -/
  | marked {only : Except Failure Provider.Response} {volume : Volume}
      (honly : answers before = [only]) (hshown : shown r.name only = .ok volume)
      (hmarked : volume.marksUnused = true)

theorem Cleared.append (h : Cleared c r before) {first : List Exchange}
    (hfirst : ∀ ex ∈ first, ex.effect.Uninvolved) : Cleared c r (first ++ before) := by
  have hanswers : answers (first ++ before) = answers before := by
    rw [answers_append, answers_eq_nil fun ex hex => (hfirst ex hex).noQuestion, List.nil_append]
  cases h with
  | seen hlast hshown hfree => exact .seen (hanswers ▸ hlast) hshown hfree
  | waited hbefore hwait hverdict =>
    exact .waited (hbefore ▸ (List.append_assoc first _ _).symm) hwait hverdict
  | marked honly hshown hmarked => exact .marked (hanswers.trans honly) hshown hmarked

theorem judgeReply_eq (name : String) (host : Host) (reply : Except Failure Provider.Response) :
    Conflict.judgeReply name host reply = match shown name reply with
      | .error _ => some .unreachable
      | .ok volume => Conflict.judge host volume := by
  cases reply with
  | error f => rfl
  | ok response =>
    unfold Conflict.judgeReply shown
    cases response.intoVolume name <;> rfl

/-- A wait that its last question settles has found the volume free, or this node attached to it, or
could not ask. -/
theorem judgeReply_cases {name : String} {host : Host}
    {reply : Except Failure Provider.Response} {verdict : Conflict.Verdict}
    (h : Conflict.judgeReply name host reply = some verdict) :
    verdict = .unreachable ∨ ∃ volume, shown name reply = .ok volume ∧
      (volume.inUse = false ∨ volume.isAttachedTo host = true) := by
  rw [judgeReply_eq] at h
  cases hshown : shown name reply with
  | error f =>
    rw [hshown] at h
    cases h
    exact .inl rfl
  | ok volume =>
    rw [hshown] at h
    refine .inr ⟨volume, rfl, ?_⟩
    replace h : Conflict.judge host volume = some verdict := h
    unfold Conflict.judge at h
    cases hinUse : volume.inUse with
    | false => exact .inl rfl
    | true =>
      cases hattached : volume.isAttachedTo host with
      | true => exact .inr rfl
      | false => simp [hinUse, hattached] at h

theorem uninvolved_of_released {volume : Volume} {request : Provider.Request}
    (h : Released volume request es) : ∀ ex ∈ es, ex.effect.Uninvolved := by
  cases h <;> simp [Effect.Uninvolved, Call.kind]

/-- A conflict wait deletes nothing. -/
theorem ne_remove_of_waited {volume : Volume} (h : Waited c r volume es)
    (request : Provider.Request) : ∀ ex ∈ es, ex.effect ≠ .call (.provider .remove request) := by
  cases h with
  | unneeded => exact List.forall_mem_nil _
  | ended _ hwait =>
    have hwithin : Within (· ≠ .call (.provider .remove request)) (awaitConflict c .delete r).run := by
      refine within_await (fun w e after hview => ?_) _
      rcases Conflict.Wait.asks_of_view hview with rfl | ⟨duration, rfl⟩ | rfl | rfl <;> nofun
    exact hwithin.effects hwait

/-- When the provider is told to delete a volume, its last answer has cleared the way. -/
theorem Removal.cleared {x : Except Failure Unit} (h : Removal c r es x)
    {request : Provider.Request} {reply : Except Failure Provider.Response}
    (hes : es = before ++ ⟨.call (.provider .remove request), reply⟩ :: after) :
    Cleared c r before := by
  have hmem : ∃ ex ∈ es, ex.effect = .call (.provider .remove request) :=
    ⟨⟨.call (.provider .remove request), reply⟩, by simp [hes], rfl⟩
  cases h with
  | unresolved => simp at hmem
  | stuck reply hreply hwaiting hf =>
    have hwait := ne_remove_of_waited hwaiting request
    obtain ⟨ex, hex, heffect⟩ := hmem
    simp only [List.mem_cons, List.mem_append, List.not_mem_nil, or_false] at hex
    rcases hex with rfl | hex | rfl
    · cases heffect
    · exact absurd heffect (hwait ex hex)
    · cases heffect
  | @asked fetched volume hfetched waiting hwaiting unmounted hclean released hreleased removed =>
    have hunmounted : ∀ ex ∈ ⟨.call (.unmountDevice volume), unmounted⟩ :: released,
        ex.effect.Uninvolved :=
      List.forall_mem_cons.2 ⟨⟨nofun, nofun⟩, uninvolved_of_released hreleased⟩
    have hsplit : (⟨.call (.provider .get (providerRequest c r)), fetched⟩ ::
        (waiting ++ ⟨.call (.unmountDevice volume), unmounted⟩ :: released)) ++
          [⟨.call (.provider .remove (providerRequest c r)), removed⟩] =
        before ++ ⟨.call (.provider .remove request), reply⟩ :: after := by
      rw [← hes]
      simp
    obtain ⟨rest, rfl, hlast⟩ := exists_append_of_not_mem hsplit fun hin => by
      rcases List.mem_cons.1 hin with heq | hin
      · cases heq
      rcases List.mem_append.1 hin with hin | hin
      · exact ne_remove_of_waited hwaiting request _ hin rfl
      · exact (hunmounted _ hin).ne_remove request rfl
    obtain rfl : rest = [] := by
      cases rest with
      | nil => rfl
      | cons first rest => simp at hlast
    rw [List.append_nil]
    have hquiet := answers_eq_nil fun ex hex => (hunmounted ex hex).noQuestion
    have hanswers : ∀ waiting, answers (⟨.call (.provider .get (providerRequest c r)), fetched⟩ ::
        (waiting ++ ⟨.call (.unmountDevice volume), unmounted⟩ :: released)) =
        fetched :: answers waiting := by
      intro waiting
      rw [← List.singleton_append, answers_append, answers_append, hquiet, List.append_nil]
      rfl
    cases hwaiting with
    | unneeded hunused =>
      rcases Volume.inUse_eq_false_or_marksUnused hunused with hfree | hmarked
      · exact .seen (by rw [hanswers]; rfl) hfetched (.inl hfree)
      · exact .marked (hanswers []) hfetched hmarked
    | @ended _ waiting verdict hwait =>
      have hover : verdict = .timedOut ∨ verdict = .unreachable →
          Cleared c r (⟨.call (.provider .get (providerRequest c r)), fetched⟩ ::
            (waiting ++ ⟨.call (.unmountDevice volume), unmounted⟩ :: released)) :=
        .waited List.singleton_append.symm hwait
      cases settled_of_await hwait with
      | timedOut => exact hover (.inl rfl)
      | answered es last hjudged =>
        rcases judgeReply_cases hjudged with hunreachable | ⟨shownLast, hshown, hfree⟩
        · exact hover (.inr hunreachable)
        · refine .seen ?_ hshown hfree
          rw [hanswers, answers_append, ← List.cons_append]
          exact List.getLast?_concat

theorem uninvolved_of_freeing {call : Call} (h : freeing call.kind = true) :
    (Effect.call call).Uninvolved := by
  constructor
  · intro hget
    rw [hget] at h
    cases h
  · intro hremove
    rw [hremove] at h
    cases h

/-- An unmount asks for no volume and removes none, but for the remove at its end. -/
theorem ends_unmountLocked {x : Except Failure Unit} (h : Ends (unmountLocked c r) es x) :
    ∃ first cascade, es = first ++ cascade ∧ (∀ ex ∈ first, ex.effect.Uninvolved) ∧
      (cascade = [] ∨ ∃ y, Removal c r cascade y) := by
  have hcall : (Effect.call (.provider .unmount (providerRequest c r))).Uninvolved := ⟨nofun, nofun⟩
  obtain ⟨reply, rest, rfl, hreplied⟩ := ends_unmountLocked_iff.1 h
  cases hreplied with
  | refused => exact ⟨_, [], (List.append_nil _).symm, List.forall_mem_singleton.2 hcall, .inl rfl⟩
  | held => exact ⟨_, [], (List.append_nil _).symm, List.forall_mem_singleton.2 hcall, .inl rfl⟩
  | volumeless => exact ⟨_, [], (List.append_nil _).symm, List.forall_mem_singleton.2 hcall, .inl rfl⟩
  | @yielded _ volume _ _ _ hafter =>
    have hreleases : Within Effect.Uninvolved
        (releaseUnmounted volume (providerRequest c r)).run :=
      within_releaseUnmounted (fun _ => uninvolved_of_freeing) ⟨nofun, nofun⟩ volume
    rcases ends_bind_iff.1 hafter with ⟨e, rfl, hrelease⟩ | ⟨_, es₁, es₂, rfl, hrelease, hend⟩
    · exact ⟨_, [], (List.append_nil _).symm,
        List.forall_mem_cons.2 ⟨hcall, hreleases.effects hrelease⟩, .inl rfl⟩
    · refine ⟨_ :: es₁, es₂, rfl, List.forall_mem_cons.2 ⟨hcall, hreleases.effects hrelease⟩, ?_⟩
      split at hend
      · obtain ⟨y, es₃, es₄, rfl, hremoved, hdone⟩ := ends_result_bind_iff.1 hend
        obtain ⟨rfl, -⟩ := ends_pure_iff.1 hdone
        rw [List.append_nil]
        exact .inr ⟨y, ends_removeLocked_iff.1 hremoved⟩
      · exact .inl (ends_pure_iff.1 hend).1

/-- After the inputs are gathered, a workflow that removes a volume at its end, if at all, has cleared
it by then. -/
theorem cleared_of_gather {β : Type} {name : String} {opts : Dict Json} {w : Request → Workflow β}
    {x : Except Failure β}
    (hw : ∀ r {es : List Exchange} {x : Except Failure β}, Ends (w r) es x →
      ∃ first cascade, es = first ++ cascade ∧ (∀ ex ∈ first, ex.effect.Uninvolved) ∧
        (cascade = [] ∨ ∃ y, Removal c r cascade y))
    (h : Ends (gather name opts >>= w) es x) {request : Provider.Request}
    {reply : Except Failure Provider.Response}
    (hes : es = before ++ ⟨.call (.provider .remove request), reply⟩ :: after) :
    ∃ options host, ⟨.describeHost, Except.ok host⟩ ∈ before ∧
      Cleared c ⟨name, options, host⟩ before := by
  have hmem : ⟨.call (.provider .remove request), reply⟩ ∈ es := by rw [hes]; simp
  have hgathered := ends_gather_bind_iff.1 h
  cases hoptions : checkedOptions name opts with
  | error e =>
    rw [hoptions] at hgathered
    rw [hgathered.1] at hmem
    cases hmem
  | ok options =>
    rw [hoptions] at hgathered
    obtain ⟨described, rest, rfl, hrest⟩ := hgathered
    cases described with
    | error e =>
      rw [hrest.1] at hmem
      cases List.mem_singleton.1 hmem
    | ok host =>
      obtain ⟨first, cascade, rfl, hfirst, hcascade⟩ := hw _ hrest
      have hquiet : ∀ ex ∈ ⟨.describeHost, Except.ok host⟩ :: first, ex.effect.Uninvolved :=
        List.forall_mem_cons.2 ⟨trivial, hfirst⟩
      obtain ⟨rest, rfl, hcascade'⟩ := exists_append_of_not_mem hes fun hin =>
        (hquiet _ hin).ne_remove request rfl
      rcases hcascade with rfl | ⟨y, hremoval⟩
      · simp at hcascade'
      · exact ⟨options, host, by simp, (hremoval.cleared hcascade').append hquiet⟩

/-- Whenever a remove, or an unmount of a volume that goes away with its last host, tells the provider
to delete the volume, the last question has shown that nobody uses it or that this node does, or a
wait has ended in vain, or the only question has shown a volume that is marked as unused. Such a mark
is the only reason to do without the wait for a volume that another host holds. -/
theorem removed_cleared {c : Config} {current : Host} {command : Command} {name : String}
    (hcommand : command.removed? = some name) {es : List Exchange} {x : Option Response}
    (h : (command.program c current).Runs es x) {before after : List Exchange}
    {request : Provider.Request} {reply : Except Failure Provider.Response}
    (hes : es = before ++ ⟨.call (.provider .remove request), reply⟩ :: after) :
    (∃ options host, ⟨.describeHost, Except.ok host⟩ ∈ before ∧
      Cleared c ⟨name, options, host⟩ before) ∧
    ∀ (volume : Volume) (host : Host),
      (volume.statusInUse = false ∧ Conflict.judge host volume = none) ↔
        volume.marksUnused = true ∧ volume.inUse = true ∧ volume.isAttachedTo host = false := by
  refine ⟨?_, Volume.statusInUse_eq_false_and_judge_iff⟩
  obtain ⟨more, y, hend, -⟩ := h.exists_completion
  have hsplit : es ++ more =
      before ++ ⟨.call (.provider .remove request), reply⟩ :: (after ++ more) := by simp [hes]
  cases command with
  | remove r =>
    cases hcommand
    obtain ⟨z, hremove, -⟩ := Command.runs_answering_iff.1 hend
    refine cleared_of_gather (fun r es z hr => ?_) hremove hsplit
    exact ⟨[], es, rfl, List.forall_mem_nil _,
      .inr ⟨z, ends_removeLocked_iff.1 (ends_enter_bind_iff.1 hr)⟩⟩
  | unmount r =>
    cases hcommand
    obtain ⟨z, hunmount, -⟩ := Command.runs_answering_iff.1 hend
    exact cleared_of_gather (fun r es z hr => ends_unmountLocked (ends_enter_bind_iff.1 hr)) hunmount
      hsplit
  | _ => cases hcommand

def heldElsewhere (status : Dict Json) : Volume :=
  { name := "v", serialNumber := "serial", inUse := true, status
    iscsiSessions := [⟨"iqn.other", "10.9.9.9"⟩] }

def bystander (status : Dict Json) : Testbed where
  host := { uuid := "node", initiators := [⟨"iscsi", ["iqn.node"]⟩] }
  store.volumes := Dict.empty.insert "v" (heldElsewhere status)
  files := ⟨[], []⟩

def hasty : Config :=
  { conflict := { deleteDelaySecs := 0 } }

def removing (status : Dict Json) : Program.Trace Response Testbed :=
  Program.trace Testbed.perform 20
    (Command.program hasty (bystander status).host (.remove { name := "v" })) (bystander status)

/-- The volume is unmarked, so the remove has waited in vain before the provider deletes the volume. -/
theorem removed_cleared_unmarked :
    let before := (removing .empty).exchanges.take 9
    (Command.remove { name := "v" }).removed? = some "v" ∧
      (∃ request reply, (removing .empty).exchanges =
        before ++ [⟨.call (.provider .remove request), reply⟩]) ∧
      ∃ options host, ⟨.describeHost, Except.ok host⟩ ∈ before ∧
        Cleared hasty ⟨"v", options, host⟩ before := by
  have hremoved : ∃ request reply, (removing .empty).exchanges =
      (removing .empty).exchanges.take 9 ++ [⟨.call (.provider .remove request), reply⟩] :=
    ⟨_, _, rfl⟩
  refine ⟨rfl, hremoved, ?_⟩
  obtain ⟨request, reply, hsplit⟩ := hremoved
  exact (removed_cleared rfl (Program.trace_runs _ _ _ _) hsplit).1

/-- A mark that the volume is unused goes before the flag and the sessions, so nobody waits for a volume
that carries it by mistake. -/
theorem removed_while_held :
    let marked := heldElsewhere (.ofList [("inUse", .bool false)])
    marked.inUse = true ∧ marked.isAttachedTo (bystander .empty).host = false ∧
      ∃ before request reply,
        (removing (.ofList [("inUse", .bool false)])).exchanges =
          before ++ [⟨.call (.provider .remove request), reply⟩] ∧
        ⟨.describeHost, Except.ok (bystander .empty).host⟩ ∈ before ∧
        answers before = [.ok (.ofVolume marked)] ∧
        ∀ first waiting rest r verdict, before = first ++ (waiting ++ rest) →
          ¬ Ends (awaitConflict hasty .delete r) waiting (.ok verdict) := by
  refine ⟨rfl, rfl, (removing (.ofList [("inUse", .bool false)])).exchanges.take 5, _, _, rfl,
    List.mem_of_getElem? (i := 0) rfl, rfl, ?_⟩
  intro first waiting rest r verdict hbefore hwait
  -- Every wait begins by reading the clock, and nobody has read it.
  obtain ⟨time, reply, more, rfl, -⟩ := ends_await_start hwait
  have hclock : ((removing (.ofList [("inUse", .bool false)])).exchanges.take 5).all
      (fun ex => match ex.effect with | .now => false | _ => true) = true := rfl
  rw [hbefore] at hclock
  simp at hclock

end Workflow
end VolumeLifecycle
