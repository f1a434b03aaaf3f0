import VolumeLifecycle.Proofs.Program.Protocol
import VolumeLifecycle.Proofs.Program.Laws
import VolumeLifecycle.Workflow.Command

namespace VolumeLifecycle

/-- What mounts of one volume have in common: the configuration, the name that is asked for, the name
and the serial number of the volume, and this node. -/
structure Scene where
  config : Config
  name : String
  volume : String
  serial : String
  host : Host

/-- How far a mount has come, as far as the other mounts of the volume are concerned. -/
inductive Stance where
  /-- It has not been told of the volume. -/
  | asking
  /-- It was told of the volume, and whether the volume is in use. -/
  | told (inUse : Bool)
  /-- It was told of the volume and has then found mount entries. -/
  | found (inUse : Bool)
  /-- It has found entries and a device of a volume of which it was told that it is not in use. -/
  | doomed
  /-- It is done with the repair and has unmounted nothing. -/
  | cleared
  /-- It is at the gate, or inside and about to call the provider's mount. -/
  | eager
  /-- It waits for the reply to the provider's mount. -/
  | claiming
  | granted
  /-- It has found no mount entries inside of the gate. -/
  | attaching
  /-- It waits for the reply to the attach. -/
  | mounting
  | settled
  deriving DecidableEq

namespace Scene

def mountpoint (s : Scene) : Path :=
  s.config.mountpointFor s.volume

def IsOf (s : Scene) (v : Volume) : Prop :=
  v.name = s.volume ∧ v.serialNumber = s.serial

/-- Whether this node is among the sessions of a volume, whatever network interfaces count. -/
def Attached (s : Scene) (v : Volume) : Prop :=
  ∀ interfaces, v.isAttachedTo { s.host with networkInterfaces := interfaces } = true

/-- What a mount may ask for at a stance. -/
inductive Asks (s : Scene) : Stance → Effect → Stance → Prop where
  | describe : Asks s .asking .describeHost .asking
  | ask : Asks s .asking (.call (.provider .get (.named s.name))) .asking
  | look {b : Bool} : Asks s (.told b) (.call (.getMounts s.serial)) (.told b)
  | resolve {b : Bool} {v : Volume} (hserial : v.serialNumber = s.serial) :
      Asks s (.found b) (.call (.getDevice v)) (.found b)
  | disturb {p : Path} : Asks s .doomed (.call (.unmountFileSystem p)) .doomed
  | now : Asks s .cleared .now .cleared
  | sleep {duration : Nat} : Asks s .cleared (.sleep duration) .cleared
  | probe : Asks s .cleared (.call (.provider .get (.named s.name))) .cleared
  | reset {r : Provider.Request} (hname : r.name = s.name) :
      Asks s .cleared (.call (.provider .update r)) .cleared
  | claim {r : Provider.Request} {interfaces : List NetworkInterface} (hname : r.name = s.name)
      (hhost : r.host = some { s.host with networkInterfaces := interfaces }) :
      Asks s .eager (.call (.provider .mount r)) .claiming
  | inspect : Asks s .granted (.call (.getMounts s.serial)) .granted
  | attach {v : Volume} (hof : s.IsOf v) :
      Asks s .attaching (.call (.attachAndMountDevice v s.mountpoint)) .mounting
  | clear {r : Provider.Request} (hname : r.name = s.volume) :
      Asks s .settled (.call (.provider .update r)) .settled

/-- Where a reply leads. Failures lead nowhere, since the collaborators do not fail, and neither does
the reply to an unmount, after which nothing is promised. -/
inductive After (s : Scene) : Stance → (e : Effect) → e.Reply → Stance → Prop where
  | describe : After s .asking .describeHost (Except.ok s.host) .asking
  | ask {r : Provider.Request} {response : Provider.Response} {v : Volume}
      (hv : response.intoVolume s.name = .ok v) (hof : s.IsOf v)
      (hattached : v.inUse = true → s.Attached v) :
      After s .asking (.call (.provider .get r)) (Except.ok response) (.told v.inUse)
  | empty {b : Bool} {serial : String} :
      After s (.told b) (.call (.getMounts serial)) (Except.ok ([] : List Mount)) .cleared
  | full {b : Bool} {serial : String} {m : Mount} {mounts : List Mount} :
      After s (.told b) (.call (.getMounts serial)) (Except.ok (m :: mounts)) (.found b)
  | used {v : Volume} {d : Device} :
      After s (.found true) (.call (.getDevice v)) (Except.ok (some d)) .cleared
  | unused {v : Volume} {d : Device} :
      After s (.found false) (.call (.getDevice v)) (Except.ok (some d)) .doomed
  | idle {e : Effect} {reply : e.Reply} : After s .cleared e reply .cleared
  | claim {r : Provider.Request} {response : Provider.Response} {v : Volume}
      (hv : response.intoVolume s.name = .ok v) (hof : s.IsOf v) :
      After s .claiming (.call (.provider .mount r)) (Except.ok response) .granted
  | absent {serial : String} :
      After s .granted (.call (.getMounts serial)) (Except.ok ([] : List Mount)) .attaching
  | present {serial : String} {mounts : List Mount}
      (hserves : mounts.any (·.servesAt s.mountpoint) = true) :
      After s .granted (.call (.getMounts serial)) (Except.ok mounts) .settled
  | attach {v : Volume} {p : Path} {m : Mount} :
      After s .mounting (.call (.attachAndMountDevice v p)) (Except.ok m) .settled
  | clear {r : Provider.Request} {reply : Except Failure Provider.Response} :
      After s .settled (.call (.provider .update r)) reply .settled

/-- The protocol of mounts. They come to the gate with their repair done, under the name that was asked
for. -/
def protocol (s : Scene) : Protocol Stance where
  asks := s.Asks
  after := s.After
  enters := fun stance name op stance' =>
    stance = .cleared ∧ name = s.name ∧ op = .mount ∧ stance' = .eager

/-- Whether a mount with the given options is well-formed. -/
structure Accepts (s : Scene) (opts : Dict Json) : Prop where
  named : Workflow.checkName s.name = .ok ()
  read : ∃ options, Options.ofDict opts = .ok options ∧
    (s.config.cloudMode = true → ∃ host, Workflow.restrictTo s.host options.initiators = .ok host)

def success (s : Scene) : Response :=
  .mounted ⟨s.mountpoint.text, ""⟩

end Scene

namespace Workflow

open Scene (Asks)

variable {s : Scene}

/-- A conflict wait may go on as long as it likes. -/
theorem idles_cleared (s : Scene) : s.protocol.Idles .cleared s.name := by
  intro w hname e next hview
  have hasks : s.Asks .cleared e .cleared := by
    unfold Conflict.Wait.view at hview
    split at hview <;> cases hview
    · exact .now
    · rw [Conflict.Wait.probeCall, hname]
      exact .probe
    · exact .sleep
    · exact .reset hname
  refine ⟨.cleared, hasks, fun reply s' hafter => ?_⟩
  cases hafter
  rfl

theorem restrictTo_ok {host kept : Host} {wanted : Option (List String)}
    (h : restrictTo host wanted = .ok kept) :
    ∃ interfaces, kept = { host with networkInterfaces := interfaces } := by
  unfold restrictTo at h
  split at h
  · cases h
  · cases h
  · dsimp only at h
    split at h
    · cases h
    · cases h
      exact ⟨_, rfl⟩

/-- The inputs of a mount that is well-formed. -/
theorem goes_gatherMount {opts : Dict Json} (h : s.Accepts opts) :
    Goes s.protocol (fun stance r => stance = .asking ∧ r.name = s.name ∧
        ∃ interfaces, r.host = { s.host with networkInterfaces := interfaces })
      .asking (gatherMount s.config s.name opts) := by
  obtain ⟨options, hoptions, hcloud⟩ := h.read
  unfold gatherMount gather
  simp only [bind_assoc, pure_bind]
  refine goes_ofExcept h.named (goes_ofExcept hoptions ?_)
  refine goes_describeHost Asks.describe fun reply stance hafter => ?_
  cases hafter
  refine ⟨_, rfl, ?_⟩
  split
  · next hmode =>
    obtain ⟨kept, hkept⟩ := hcloud hmode
    exact goes_ofExcept hkept (goes_pure ⟨rfl, rfl, restrictTo_ok hkept⟩)
  · exact goes_pure ⟨rfl, rfl, s.host.networkInterfaces, rfl⟩

/-- Nothing is promised of a mount that unmounts entries. -/
theorem goes_unmountAll {post : Stance → Unit → Prop} (m : Mount) (rest : List Mount) :
    Goes s.protocol post .doomed (unmountAll (m :: rest)) := by
  refine goes_attempt Asks.disturb fun reply stance hafter => ?_
  cases hafter

/-- The repair of stale mounts goes well, or ends in the bad stance. -/
theorem goes_reconcile {host : Host}
    (hhost : ∃ interfaces, host = { s.host with networkInterfaces := interfaces }) :
    Goes s.protocol (fun stance _ => stance = .cleared) .asking (reconcile s.name host) := by
  obtain ⟨interfaces, rfl⟩ := hhost
  refine goes_call Asks.ask fun reply stance hafter => ?_
  cases hafter with
  | @ask r response v hv hof hattached =>
    refine ⟨response, rfl, goes_ofExcept hv ?_⟩
    obtain ⟨-, hserial⟩ := hof
    rw [hserial]
    refine goes_call Asks.look fun reply stance hafter => ?_
    cases hafter with
    | empty => exact ⟨[], rfl, goes_pure rfl⟩
    | @full _ _ m mounts =>
      refine ⟨m :: mounts, rfl, ?_⟩
      refine goes_call (Asks.resolve hserial) fun reply stance hafter => ?_
      generalize v.inUse = b at hafter hattached ⊢
      cases hafter with
      | @used _ d =>
        refine ⟨some d, rfl, ?_⟩
        dsimp only
        rw [hattached rfl interfaces]
        exact goes_pure rfl
      | @unused _ d =>
        have hstop : Goes s.protocol (fun _ _ => False) .doomed (unmountAll (m :: mounts)) :=
          goes_unmountAll m mounts
        exact ⟨some d, rfl, goes_bind hstop fun _ _ hfalse => hfalse.elim⟩

/-- This node's part of a mount attaches the volume if there are no entries, and uses them again if
there are. -/
theorem goes_mountOnHost {v : Volume} (hof : s.IsOf v) :
    Goes s.protocol (fun stance _ => stance = .settled) .granted (mountOnHost v s.mountpoint) := by
  unfold mountOnHost
  rw [hof.2]
  refine goes_call Asks.inspect fun reply stance hafter => ?_
  cases hafter with
  | absent =>
    refine ⟨[], rfl, goes_attempt (Asks.attach hof) fun reply stance hafter => ?_⟩
    cases hafter with
    | attach => exact goes_pure rfl
  | @present _ mounts hserves =>
    refine ⟨mounts, rfl, ?_⟩
    rw [if_pos hserves]
    exact goes_pure rfl

/-- The marks that may have to be taken away change nothing. -/
theorem goes_clearDelayedCreate (s : Scene) :
    Goes s.protocol (fun stance _ => stance = .settled) .settled (clearDelayedCreate s.volume) := by
  refine goes_attempt (Asks.clear rfl) fun reply stance hafter => ?_
  cases hafter
  exact goes_pure rfl

theorem goes_mountLocked {r : Request} (hname : r.name = s.name)
    (hhost : ∃ interfaces, r.host = { s.host with networkInterfaces := interfaces }) :
    Goes s.protocol (fun stance path => stance = .settled ∧ path = s.mountpoint) .eager
      (mountLocked s.config r) := by
  obtain ⟨interfaces, hhost⟩ := hhost
  have hprovider : Goes s.protocol (fun stance v => stance = .granted ∧ s.IsOf v) .eager
      (mountOnProvider r (providerRequest s.config r)) := by
    refine goes_attempt (Asks.claim hname (congrArg some hhost)) fun reply stance hafter => ?_
    cases hafter with
    | @claim _ response v hv hof =>
      rw [← hname] at hv
      refine goes_ofExcept (a := v) ?_ (goes_pure ⟨rfl, hof⟩)
      dsimp only
      rw [hv]
      rfl
  refine goes_bind hprovider ?_
  rintro _ v ⟨rfl, hof⟩
  rw [hof.1]
  refine goes_bind (goes_result (goes_mountOnHost hof)) ?_
  rintro _ _ ⟨how, rfl, rfl⟩
  dsimp only
  split
  · refine goes_bind (goes_clearDelayedCreate s) ?_
    rintro _ _ rfl
    exact goes_pure ⟨rfl, rfl⟩
  · exact goes_pure ⟨rfl, rfl⟩

/-- A mount that is well-formed obeys the protocol. -/
theorem goes_mount {opts : Dict Json} (h : s.Accepts opts) :
    Goes s.protocol (fun stance path => stance = .settled ∧ path = s.mountpoint) .asking
      (mount s.config s.name opts) := by
  refine goes_bind (goes_gatherMount h) ?_
  rintro _ r ⟨rfl, hname, hhost⟩
  rw [hname]
  refine goes_bind (goes_reconcile hhost) ?_
  rintro _ _ rfl
  have hidles : s.protocol.Idles .cleared
      (Conflict.Wait.start r.name r.host .mount (1000 * s.config.conflict.tick)
        (conflictTimeout s.config .mount r.options)).name := by
    change s.protocol.Idles .cleared r.name
    rw [hname]
    exact idles_cleared s
  have henters : s.protocol.enters .cleared s.name .mount .eager := ⟨rfl, rfl, rfl, rfl⟩
  exact goes_await hidles fun _ => goes_enter henters (goes_mountLocked hname hhost)

end Workflow

/-- What the agent does for a mount obeys the protocol, and its answer is a success. -/
theorem Scene.program_obeys {s : Scene} {r : Runtime.MountRequest} (hname : r.name = s.name)
    (h : s.Accepts r.opts) (current : Host) :
    ((Command.mount r).program s.config current).Obeys s.protocol
      (fun stance response => stance = .settled ∧ response = s.success) .asking := by
  have hmount := Workflow.goes_mount h
  rw [← hname] at hmount
  refine Program.Obeys.andThen hmount ?_
  rintro _ _ ⟨path, rfl, rfl, rfl⟩
  exact ⟨rfl, rfl⟩

end VolumeLifecycle
