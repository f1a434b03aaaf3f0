import VolumeLifecycle.Proofs.Workflow.MountCourse
import VolumeLifecycle.Proofs.Workflow.Release
import VolumeLifecycle.Testbed

namespace VolumeLifecycle

/-- A request that speaks for the configured user. -/
structure Provider.Request.Signed (c : Config) (r : Provider.Request) : Prop where
  user : r.user = c.provider.user
  scope : r.scope = c.scope
  host : r.host ≠ none

/-- A request that says nothing beyond a volume's name and options. -/
structure Provider.Request.Unsigned (r : Provider.Request) : Prop where
  user : r.user = ""
  scope : r.scope = ""
  host : r.host = none

/-- Effects whose requests to the provider are signed; where `lax` holds, a volume may also be looked up
or updated without a signature. -/
def Effect.Speaks (c : Config) (lax : Prop) : Effect → Prop
  | .call (.provider op request) =>
    request.Signed c ∨ lax ∧ request.Unsigned ∧ (op = .get ∨ op = .update)
  | _ => True

namespace Workflow

open Program (Within Runs)
open Effect (Speaks)

variable {c : Config} {r : Request} {lax : Prop}

/-- A request from the inputs of a workflow carries the configured identity. -/
theorem signed_providerRequest (c : Config) (r : Request) : (providerRequest c r).Signed c :=
  ⟨rfl, rfl, nofun⟩

theorem signed_withOpt {request : Provider.Request} (h : request.Signed c) (key : String)
    (value : Json) : (request.withOpt key value).Signed c :=
  ⟨h.user, h.scope, h.host⟩

/-- A request for a bare name says nothing of who asks. -/
theorem unsigned_named (name : String) : (Provider.Request.named name).Unsigned :=
  ⟨rfl, rfl, rfl⟩

theorem unsigned_withOpt {request : Provider.Request} (h : request.Unsigned) (key : String)
    (value : Json) : (request.withOpt key value).Unsigned :=
  ⟨h.user, h.scope, h.host⟩

theorem speaks_signed {op : Provider.Op} {request : Provider.Request} (h : request.Signed c) :
    Speaks c lax (.call (.provider op request)) :=
  .inl h

theorem speaks_get (hlax : lax) (name : String) :
    Speaks c lax (.call (.provider .get (.named name))) :=
  .inr ⟨hlax, unsigned_named name, .inl rfl⟩

/-- A conflict wait asks without saying who it is. -/
theorem speaks_wait (hlax : lax) {w : Conflict.Wait} {e : Effect} {after : e.Reply → Conflict.Wait}
    (h : w.view = .asks e after) : Speaks c lax e := by
  rcases Conflict.Wait.asks_of_view h with rfl | ⟨duration, rfl⟩ | rfl | rfl
  · trivial
  · trivial
  · exact speaks_get hlax w.name
  · exact .inr ⟨hlax, unsigned_withOpt (unsigned_named w.name) _ _, .inr rfl⟩

theorem speaks_of_freeing {call : Call} (h : freeing call.kind = true) :
    Speaks c lax (.call call) := by
  cases call with
  | provider => cases h
  | _ => trivial

theorem speaks_of_mounting {call : Call} (h : mounting call.kind = true) :
    Speaks c lax (.call call) := by
  cases call with
  | provider => cases h
  | _ => trivial

/-- A repair asks without saying who it is. -/
theorem speaks_reconcile (hlax : lax) (name : String) (host : Host) :
    Within (Speaks c lax) (reconcile name host).run := by
  refine within_bind (within_call (speaks_get hlax name)) fun response => ?_
  refine within_bind (within_ofExcept _) fun volume => ?_
  refine within_bind (within_call trivial) fun mounts => ?_
  split
  · exact within_pure _
  refine within_bind (within_call trivial) fun device => ?_
  split
  · exact within_fail _
  split
  · exact within_pure _
  refine within_bind (within_unmountAll (fun _ => trivial) _) fun _ => ?_
  refine within_bind ?_ fun _ => within_pure _
  unfold deleteShared
  split
  · refine within_bind (within_attempt trivial) fun reply => ?_
    split <;> exact within_pure _
  · exact within_pure _

theorem speaks_awaitConflict (hlax : lax) (kind : Conflict.Kind) :
    Within (Speaks c lax) (awaitConflict c kind r).run :=
  within_await (fun _ _ _ => speaks_wait hlax) _

/-- The update that takes the markers away after a first mount is not signed. -/
theorem speaks_clearDelayedCreate (hlax : lax) (name : String) :
    Within (Speaks c lax) (clearDelayedCreate name).run := by
  have hrequest := unsigned_withOpt
    (unsigned_withOpt (unsigned_named name) Volume.delayedCreateKey .null) Volume.filesystemKey .null
  exact within_provideBestEffort (.inr ⟨hlax, hrequest, .inr rfl⟩) _

theorem speaks_mountLocked (hlax : lax) : Within (Speaks c lax) (mountLocked c r).run := by
  have hsigned := signed_providerRequest c r
  refine within_bind (within_mountOnProvider (speaks_signed hsigned) r) fun volume => ?_
  refine within_bind (within_result (within_mountOnHost (fun _ => speaks_of_mounting) volume _))
    fun result => ?_
  cases result with
  | error f =>
    refine within_bind ?_ fun report => ?_
    · exact within_undoMount trivial (fun _ => speaks_of_freeing) (speaks_signed hsigned)
        (speaks_signed hsigned) volume
    · cases report <;> exact within_fail _
  | ok how =>
    dsimp only
    split
    · exact within_bind (speaks_clearDelayedCreate hlax _) fun _ => within_pure _
    · exact within_pure _

/-- A remove says who it is, but for its conflict wait. -/
theorem speaks_removeLocked (hlax : lax) : Within (Speaks c lax) (removeLocked c r).run := by
  have hsigned := signed_providerRequest c r
  exact within_removeLocked (fun _ _ _ => speaks_wait hlax) (fun _ => speaks_of_freeing)
    (speaks_signed hsigned) (speaks_signed hsigned) (speaks_signed hsigned)

theorem speaks_unmountLocked (hlax : lax) : Within (Speaks c lax) (unmountLocked c r).run := by
  have hsigned := signed_providerRequest c r
  refine within_bind (within_call (speaks_signed hsigned)) fun response => ?_
  refine within_bind (within_ofExcept _) fun response => ?_
  split
  · exact within_pure _
  refine within_bind (within_ofExcept _) fun volume => ?_
  have hreleases : Within (Speaks c lax) (releaseUnmounted volume (providerRequest c r)).run :=
    within_releaseUnmounted (fun _ => speaks_of_freeing) (speaks_signed hsigned) volume
  refine within_bind hreleases fun _ => ?_
  split
  · exact within_bind (within_result (speaks_removeLocked hlax)) fun _ => within_pure _
  · exact within_pure _

theorem speaks_createLocked : Within (Speaks c lax) (createLocked c r).run := by
  have hsigned := signed_providerRequest c r
  have hprepare : ∀ volume filesystem,
      Within (Speaks c lax) (prepareAndRelease volume (providerRequest c r) filesystem).run := by
    intro volume filesystem
    refine within_bind (within_attachFirst trivial) fun d => ?_
    refine within_bind (within_call trivial) fun _ => ?_
    refine within_bind (within_call trivial) fun _ => ?_
    refine within_bind (within_call trivial) fun _ => ?_
    refine within_bind (within_call (speaks_signed hsigned)) fun _ => ?_
    exact within_bind (within_ofExcept _) fun _ => within_call trivial
  refine within_bind (within_call (speaks_signed hsigned)) fun response => ?_
  refine within_bind (within_ofExcept _) fun volume => ?_
  split
  · refine within_bind (within_result (hprepare volume _)) fun result => ?_
    cases result with
    | ok _ => exact within_pure _
    | error f =>
      refine within_bind ?_ fun _ => within_fail _
      have hreleases : Within (Speaks c lax) (releaseHostSide volume (providerRequest c r)).run :=
        within_releaseHostSide (fun _ => speaks_of_freeing) (speaks_signed hsigned) volume
      refine within_bind hreleases fun _ => ?_
      have hforced : Speaks c lax (.call (.provider .remove
          ((providerRequest c r).withOpt forceOption (.bool true)))) :=
        speaks_signed (signed_withOpt hsigned forceOption (.bool true))
      exact within_bind (within_provideBestEffort hforced _) fun _ => within_pure _
  · exact within_pure _

theorem speaks_enter_bind {α : Type} {name : String} {op : Operation} {f : Unit → Workflow α}
    (h : Within (Speaks c lax) (f ()).run) :
    Within (Speaks c lax) (enter name op >>= f).run :=
  h

theorem speaks_mount (hlax : lax) (name : String) (opts : Dict Json) :
    Within (Speaks c lax) (mount c name opts).run := by
  refine within_bind (within_gatherMount trivial c name opts) fun r => ?_
  refine within_bind (speaks_reconcile hlax r.name r.host) fun _ => ?_
  refine within_bind (speaks_awaitConflict hlax .mount) fun _ => ?_
  exact speaks_enter_bind (speaks_mountLocked hlax)

theorem speaks_unmount (hlax : lax) (name : String) (opts : Dict Json) :
    Within (Speaks c lax) (unmount c name opts).run :=
  within_bind (within_gather trivial name opts) fun _ =>
    speaks_enter_bind (speaks_unmountLocked hlax)

theorem speaks_remove (hlax : lax) (name : String) :
    Within (Speaks c lax) (remove c name).run :=
  within_bind (within_gather trivial name .empty) fun _ =>
    speaks_enter_bind (speaks_removeLocked hlax)

theorem speaks_create (name : String) (opts : Dict Json) :
    Within (Speaks c lax) (create c name opts).run := by
  refine within_bind (within_ofExcept _) fun _ => ?_
  refine within_bind (within_ofExcept _) fun options => ?_
  split
  · exact within_pure _
  refine within_bind (within_ofExcept _) fun _ => ?_
  refine within_bind (within_describeHost trivial) fun host => speaks_enter_bind ?_
  exact within_bind speaks_createLocked fun _ => within_pure _

theorem speaks_describe (name : String) : Within (Speaks c lax) (describe c name).run := by
  refine within_bind (within_gather trivial name .empty) fun r => speaks_enter_bind ?_
  refine within_bind (within_call (speaks_signed (signed_providerRequest c r))) fun response => ?_
  refine within_bind (within_ofExcept _) fun volume => ?_
  exact within_bind (within_call trivial) fun _ => within_pure _

/-- The first that a mount asks of the provider is the question of its repair. -/
theorem mount_asks_unsigned {name : String} {opts : Dict Json} {es : List Exchange}
    {x : Option (Except Failure Path)} (h : Runs (mount c name opts).run es x) :
    Program.AllCalls HostSide es ∨
      ∃ reply, ⟨.call (.provider .get (.named name)), reply⟩ ∈ es := by
  have hgathers : Program.Keeps HostSide (gatherMount c name opts).run := keeps_gatherMount c name opts
  rcases keeps_bind_inv hgathers h with
    ⟨hnone, -⟩ | ⟨r, es₁, es₂, rfl, hnone, hgather, hrest⟩
  · exact .inl hnone
  obtain rfl := name_of_gatherMount hgather
  rcases Program.Runs.perform_inv hrest with ⟨rfl, -⟩ | ⟨reply, es₃, rfl, -⟩
  · rw [List.append_nil]
    exact .inl hnone
  · exact .inr ⟨reply, List.mem_append_right _ List.mem_cons_self⟩

end Workflow
namespace Command

open Program (AllCalls Within)
open Effect (Speaks)
open Workflow

/-- Whether a command repairs or waits, and so may ask the provider without a signature. -/
def isLax : Command → Bool
  | create _ => false
  | get _ => false
  | path _ => false
  | capabilities => false
  | configuration => false
  | _ => true

def ForUser (c : Config) : Call → Prop
  | .provider _ request => request.user = c.provider.user
  | _ => True

/-- A call that tells the provider about this node, if it goes to the provider. -/
def FromNode : Call → Prop
  | .provider _ request => request.host ≠ none
  | _ => True

theorem program_speaks (c : Config) (current : Host) (command : Command) :
    Within (Speaks c (command.isLax = true)) (command.program c current) := by
  cases command with
  | mount r => exact (speaks_mount rfl r.name r.opts).andThen fun _ => trivial
  | unmount r => exact (speaks_unmount rfl r.name r.opts).andThen fun _ => trivial
  | create r => exact (speaks_create r.name r.opts).andThen fun _ => trivial
  | remove r => exact (speaks_remove rfl r.name).andThen fun _ => trivial
  | get r => exact (speaks_describe r.name).andThen fun _ => trivial
  | path r => exact (speaks_describe r.name).andThen fun _ => trivial
  | capabilities => trivial
  | configuration => trivial
  | awaitConflict name kind timeout => exact ⟨fun _ _ _ => speaks_wait rfl, fun _ => trivial⟩
  | reconcile name => exact (speaks_reconcile rfl name current).andThen fun _ => trivial

variable {c : Config} {current : Host} {command : Command} {es : List Exchange}
  {x : Option Response}

/-- The configured user is forwarded by exactly the calls that come from this node, unless none is
configured. -/
theorem forUser_iff_fromNode {lax : Prop} {call : Call} (h : Speaks c lax (.call call)) :
    ForUser c call ↔ c.provider.user = "" ∨ FromNode call := by
  cases call with
  | provider op request =>
    rcases h with hsigned | ⟨-, hunsigned, -⟩
    · exact iff_of_true hsigned.user (.inr hsigned.host)
    · constructor
      · intro huser
        exact .inl (huser.symm.trans hunsigned.user)
      · rintro (hnobody | hnode)
        · exact hunsigned.user.trans hnobody.symm
        · exact absurd hunsigned.host hnode
  | _ => exact iff_of_true trivial (.inr trivial)

theorem fromNode_of_not_lax {lax : Prop} (hlax : ¬ lax) {call : Call}
    (h : Speaks c lax (.call call)) : FromNode call := by
  cases call with
  | provider op request =>
    rcases h with hsigned | ⟨hasks, -⟩
    · exact hsigned.host
    · exact absurd hasks hlax
  | _ => trivial

theorem fromNode_of_hostSide {call : Call} (h : HostSide call) : FromNode call := by
  cases call with
  | provider op request => exact absurd rfl (h op)
  | _ => trivial

/-- The requests of a command are signed, but for look-ups and updates of those that repair or wait. So
the configured user is on all of them exactly if there is no such user or all of them tell about this
node. Commands that neither repair nor wait always forward the user; a mount never does, unless it fails
before it comes to the provider. -/
theorem forwards_user_iff (h : (command.program c current).Runs es x) :
    (∀ op request reply, ⟨.call (.provider op request), reply⟩ ∈ es →
        request.Signed c ∨
          command.isLax = true ∧ request.Unsigned ∧ (op = .get ∨ op = .update)) ∧
      (AllCalls (ForUser c) es ↔ c.provider.user = "" ∨ AllCalls FromNode es) ∧
      (command.isLax = false → AllCalls (ForUser c) es) ∧
      ∀ r, command = .mount r →
        (AllCalls (ForUser c) es ↔ c.provider.user = "" ∨ AllCalls HostSide es) := by
  have hspeaks : AllCalls (fun call => Speaks c (command.isLax = true) (.call call)) es := by
    intro ex hex call heq
    rw [← heq]
    exact (program_speaks c current command).effects h ex hex
  have hforwards : AllCalls (ForUser c) es ↔ c.provider.user = "" ∨ AllCalls FromNode es := by
    constructor
    · intro hall
      refine Classical.or_iff_not_imp_left.2 fun huser ex hex call heq => ?_
      exact ((forUser_iff_fromNode (hspeaks ex hex call heq)).1 (hall ex hex call heq)).resolve_left
        huser
    · intro hor ex hex call heq
      exact (forUser_iff_fromNode (hspeaks ex hex call heq)).2
        (hor.imp_right fun hnode => hnode ex hex call heq)
  refine ⟨fun op request reply hmem => hspeaks _ hmem _ rfl, hforwards, fun hstrict => ?_, ?_⟩
  · have hlax : ¬ command.isLax = true := by simp [hstrict]
    exact hforwards.2 (.inr (hspeaks.mono fun _ => fromNode_of_not_lax hlax))
  · rintro r rfl
    have hasks : AllCalls HostSide es ∨
        ∃ reply, ⟨.call (.provider .get (.named r.name)), reply⟩ ∈ es := by
      rcases Program.Runs.andThen_inv h with ⟨hrun, -⟩ | ⟨result, es₁, es₂, rfl, hrun, hdone⟩
      · exact mount_asks_unsigned hrun
      · obtain ⟨rfl, -⟩ := hdone.done_inv
        rw [List.append_nil]
        exact mount_asks_unsigned hrun
    constructor
    · intro hall
      rcases hasks with hnone | ⟨reply, hmem⟩
      · exact .inr hnone
      · exact .inl (hall _ hmem _ rfl).symm
    · intro hor
      exact hforwards.2 (hor.imp_right fun hnone => hnone.mono fun _ => fromNode_of_hostSide)

def forBob : Config := { provider := { user := "bob" } }

/-- A node whose provider has a volume that nobody uses. -/
def unused : Testbed where
  host := { uuid := "node", initiators := [⟨"iscsi", ["iqn.node"]⟩] }
  store.volumes := Dict.empty.insert "v" { name := "v", serialNumber := "serial-v" }
  files := ⟨[], []⟩

def forBobOn (command : Command) : Program.Trace Response Testbed :=
  Program.trace Testbed.perform 20 (command.program forBob unused.host) unused

/-- The configured user is forwarded by a question for a path, and not by a mount. -/
theorem forwards_user_iff_query :
    AllCalls (ForUser forBob) (forBobOn (.path ⟨"v"⟩)).exchanges ∧
      ¬ AllCalls (ForUser forBob) (forBobOn (.mount { name := "v" })).exchanges := by
  refine ⟨(forwards_user_iff (Program.trace_runs _ _ _ _)).2.2.1 rfl, fun hall => ?_⟩
  rcases ((forwards_user_iff (Program.trace_runs _ _ _ _)).2.2.2 _ rfl).1 hall with hnobody | hnone
  · exact absurd hnobody (by decide)
  · exact hnone _ (List.mem_of_getElem? (i := 1) rfl) _ rfl .get rfl

/-- A mount that goes well has asked for the volume for nobody. -/
theorem mount_asks_for_nobody :
    let mounted := forBobOn (.mount { name := "v" })
    (∃ p, mounted.outcome = some (.mounted ⟨p, ""⟩)) ∧
      ∃ request reply, ⟨.call (.provider .get request), reply⟩ ∈ mounted.exchanges ∧
        request.user ≠ forBob.provider.user :=
  ⟨⟨_, rfl⟩, _, _, List.mem_of_getElem? (i := 1) rfl, by decide⟩

end Command
end VolumeLifecycle
