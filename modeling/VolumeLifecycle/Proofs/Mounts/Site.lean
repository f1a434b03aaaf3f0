import VolumeLifecycle.Agent.Basic
import VolumeLifecycle.Proofs.Mounts.Protocol

namespace VolumeLifecycle

/-- Collaborators as far as the mounts of one volume can see them: the volume that the provider
stores, and the mount entries and the device that this node has for it. -/
structure Site (World : Type) where
  /-- Whether the collaborators do what they should. -/
  IsSound : World → Prop
  /-- The volume, as the provider stores it. -/
  volume : World → Volume
  /-- The mount entries of the volume's serial number. -/
  mounts : World → List Mount
  /-- The device of the volume. -/
  device : World → Option Device

namespace Site

variable {World : Type}

/-- Whether nothing that can be seen has changed. -/
structure Same (site : Site World) (w w' : World) : Prop where
  sound : site.IsSound w'
  volume : site.volume w' = site.volume w
  mounts : site.mounts w' = site.mounts w
  device : site.device w' = site.device w

/-- Collaborators that serve every call that mounts of the volume make. The provider's mount marks the
volume as in use, with a session of this node; an attach adds a mount entry and a device. -/
structure Serves (site : Site World) (perform : Agent.Perform World) (s : Scene) : Prop where
  isOf : ∀ w, site.IsSound w → s.IsOf (site.volume w)
  describeHost : ∀ w, site.IsSound w →
    (perform w .describeHost).1 = Except.ok s.host ∧ site.Same w (perform w .describeHost).2
  now : ∀ w, site.IsSound w → site.Same w (perform w .now).2
  sleep : ∀ w duration, site.IsSound w → site.Same w (perform w (.sleep duration)).2
  get : ∀ w, site.IsSound w →
    (∃ response, (perform w (.call (.provider .get (.named s.name)))).1 = Except.ok response ∧
      response.intoVolume s.name = .ok (site.volume w)) ∧
    site.Same w (perform w (.call (.provider .get (.named s.name)))).2
  update : ∀ w r, site.IsSound w → r.name = s.name ∨ r.name = s.volume →
    let w' := (perform w (.call (.provider .update r))).2
    site.IsSound w' ∧ (∃ status, site.volume w' = { site.volume w with status }) ∧
      site.mounts w' = site.mounts w ∧ site.device w' = site.device w
  mount : ∀ w r interfaces, site.IsSound w → r.name = s.name →
    r.host = some { s.host with networkInterfaces := interfaces } →
    let w' := (perform w (.call (.provider .mount r))).2
    (∃ response, (perform w (.call (.provider .mount r))).1 = Except.ok response ∧
      response.intoVolume s.name = .ok (site.volume w')) ∧
    site.IsSound w' ∧ (site.volume w').inUse = true ∧ s.Attached (site.volume w') ∧
      site.mounts w' = site.mounts w ∧ site.device w' = site.device w
  getMounts : ∀ w, site.IsSound w →
    (perform w (.call (.getMounts s.serial))).1 = Except.ok (site.mounts w) ∧
      site.Same w (perform w (.call (.getMounts s.serial))).2
  getDevice : ∀ w v, site.IsSound w → v.serialNumber = s.serial →
    (perform w (.call (.getDevice v))).1 = Except.ok (site.device w) ∧
      site.Same w (perform w (.call (.getDevice v))).2
  attach : ∀ w v, site.IsSound w → s.IsOf v →
    let w' := (perform w (.call (.attachAndMountDevice v s.mountpoint))).2
    ∃ m : Mount, (perform w (.call (.attachAndMountDevice v s.mountpoint))).1 = Except.ok m ∧
      m.servesAt s.mountpoint = true ∧ site.mounts w' = site.mounts w ++ [m] ∧
      (site.device w').isSome = true ∧ site.IsSound w' ∧ site.volume w' = site.volume w

/-- A volume that is not in use, with no mount entry on this node. A device that is there all the same
does not matter. -/
structure IsFresh (site : Site World) (w : World) : Prop where
  sound : site.IsSound w
  inUse : (site.volume w).inUse = false
  mounts : site.mounts w = []

end Site

inductive Scene.Phase where
  | fresh
  /-- The provider has it in use by this node, which has not attached it. -/
  | claimed
  /-- This node has a healthy mount of it. -/
  | shared
  deriving DecidableEq

def Scene.Phase.claim : Phase → Phase
  | fresh => claimed
  | phase => phase

namespace Site

open Scene (Phase After)

variable {World : Type} {site : Site World} {perform : Agent.Perform World} {s : Scene}
  {w w' : World} {phase : Phase}

/-- Whether a world shows a phase. -/
structure At (site : Site World) (s : Scene) (w : World) (phase : Phase) : Prop where
  sound : site.IsSound w
  inUse : (site.volume w).inUse = decide (phase ≠ .fresh)
  attached : phase ≠ .fresh → s.Attached (site.volume w)
  empty : phase ≠ .shared → site.mounts w = []
  served : phase = .shared → (site.mounts w).any (·.servesAt s.mountpoint) = true
  device : phase = .shared → (site.device w).isSome = true

theorem IsFresh.at (h : site.IsFresh w) : site.At s w .fresh where
  sound := h.sound
  inUse := h.inUse
  attached hne := absurd rfl hne
  empty _ := h.mounts
  served heq := by cases heq
  device heq := by cases heq

namespace At

theorem of_same (h : site.At s w phase) (hsame : site.Same w w') : site.At s w' phase where
  sound := hsame.sound
  inUse := hsame.volume ▸ h.inUse
  attached hne := hsame.volume ▸ h.attached hne
  empty hne := hsame.mounts.trans (h.empty hne)
  served heq := hsame.mounts ▸ h.served heq
  device heq := hsame.device ▸ h.device heq

/-- The mount entries of a shared volume are some. -/
theorem mounts_ne_nil (h : site.At s w .shared) : site.mounts w ≠ [] := by
  intro hnil
  have hserved := h.served rfl
  rw [hnil] at hserved
  cases hserved

end At

namespace Serves

/-- The status markers of a volume do not matter. -/
theorem at_update (h : site.Serves perform s) (hat : site.At s w phase) {r : Provider.Request}
    (hr : r.name = s.name ∨ r.name = s.volume) :
    site.At s (perform w (.call (.provider .update r))).2 phase := by
  obtain ⟨hsound, ⟨status, hvolume⟩, hmounts, hdevice⟩ := h.update w r hat.sound hr
  refine ⟨hsound, ?_, fun hne => ?_, fun hne => hmounts.trans (hat.empty hne), fun heq => ?_,
    fun heq => ?_⟩
  · rw [hvolume]
    exact hat.inUse
  · rw [hvolume]
    exact hat.attached hne
  · rw [hmounts]
    exact hat.served heq
  · rw [hdevice]
    exact hat.device heq

/-- The provider's mount claims a fresh volume, and leaves another one as it is. -/
theorem at_mount (h : site.Serves perform s) (hat : site.At s w phase) {r : Provider.Request}
    {interfaces : List NetworkInterface} (hname : r.name = s.name)
    (hhost : r.host = some { s.host with networkInterfaces := interfaces }) :
    site.At s (perform w (.call (.provider .mount r))).2 phase.claim := by
  obtain ⟨-, hsound, hinUse, hattached, hmounts, hdevice⟩ :=
    h.mount w r interfaces hat.sound hname hhost
  have hshared : phase.claim = .shared → phase = .shared := by
    cases phase <;> simp [Phase.claim]
  have hnotFresh : phase.claim ≠ .fresh := by
    cases phase <;> simp [Phase.claim]
  refine ⟨hsound, ?_, fun _ => hattached, fun hne => ?_, fun heq => ?_, fun heq => ?_⟩
  · rw [hinUse, decide_eq_true hnotFresh]
  · rw [hmounts]
    refine hat.empty fun heq => hne ?_
    rw [heq]
    rfl
  · rw [hmounts]
    exact hat.served (hshared heq)
  · rw [hdevice]
    exact hat.device (hshared heq)

/-- The attach makes a claimed volume a shared one. -/
theorem at_attach (h : site.Serves perform s) (hat : site.At s w .claimed) {v : Volume}
    (hof : s.IsOf v) :
    site.At s (perform w (.call (.attachAndMountDevice v s.mountpoint))).2 .shared := by
  obtain ⟨m, -, hserves, hmounts, hdevice, hsound, hvolume⟩ := h.attach w v hat.sound hof
  refine ⟨hsound, ?_, fun _ => ?_, fun hne => absurd rfl hne, fun _ => ?_, fun _ => hdevice⟩
  · rw [hvolume]
    exact hat.inUse
  · rw [hvolume]
    exact hat.attached nofun
  · rw [hmounts]
    simp [hserves]

end Serves
end Site

/-- What a reply to a call makes of the phase of the volume and of the stance of the mount that has
called. -/
inductive Scene.Moves : Phase → Stance → Call.Kind → Phase → Stance → Prop where
  | ask (phase : Phase) :
      Moves phase .asking (.provider .get) phase (.told (decide (phase ≠ .fresh)))
  | empty {phase : Phase} (b : Bool) (hphase : phase ≠ .shared) :
      Moves phase (.told b) .getMounts phase .cleared
  | full (b : Bool) : Moves .shared (.told b) .getMounts .shared (.found b)
  | used (phase : Phase) : Moves phase (.found true) .getDevice phase .cleared
  | unused (phase : Phase) : Moves phase (.found false) .getDevice phase .doomed
  | idle (phase : Phase) (op : Provider.Op) (hop : op ≠ .mount) :
      Moves phase .cleared (.provider op) phase .cleared
  | claim (phase : Phase) : Moves phase .claiming (.provider .mount) phase.claim .granted
  | absent : Moves .claimed .granted .getMounts .claimed .attaching
  | present : Moves .shared .granted .getMounts .shared .settled
  | attach : Moves .claimed .mounting .attachAndMountDevice .shared .settled
  | clear (phase : Phase) : Moves phase .settled (.provider .update) phase .settled

def Stance.Fits (phase : Scene.Phase) : Stance → Prop
  | told b => b = true → phase ≠ .fresh
  | found _ => phase = .shared
  | doomed => phase = .shared
  | granted => phase ≠ .fresh
  | attaching => phase = .claimed
  | mounting => phase = .claimed
  | settled => phase = .shared
  | _ => True

namespace Site.Serves

open Scene (Phase After Asks Moves)

variable {World : Type} {site : Site World} {perform : Agent.Perform World} {s : Scene}
  {w : World} {phase : Phase}

/-- The reply to a call that a mount may make leads somewhere, unless the mount is doomed. -/
theorem moves (h : site.Serves perform s) (hat : site.At s w phase) {c : Call}
    {stance stance₁ : Stance} (hasks : s.Asks stance (.call c) stance₁) (hdoomed : stance ≠ .doomed)
    (hfits : stance₁.Fits phase) :
    ∃ phase' stance', s.After stance₁ (.call c) (perform w (.call c)).1 stance' ∧
      site.At s (perform w (.call c)).2 phase' ∧ Moves phase stance₁ c.kind phase' stance' := by
  cases hasks with
  | ask =>
    obtain ⟨⟨response, hreply, hv⟩, hsame⟩ := h.get w hat.sound
    refine ⟨phase, _, ?_, hat.of_same hsame, .ask phase⟩
    rw [hreply, ← hat.inUse]
    refine After.ask hv (h.isOf w hat.sound) fun hinUse => hat.attached ?_
    rw [hat.inUse] at hinUse
    exact of_decide_eq_true hinUse
  | @look b =>
    obtain ⟨hreply, hsame⟩ := h.getMounts w hat.sound
    have hsame := hat.of_same hsame
    rw [hreply]
    cases phase with
    | shared =>
      obtain ⟨m, rest, hmounts⟩ := List.exists_cons_of_ne_nil hat.mounts_ne_nil
      rw [hmounts]
      exact ⟨_, _, .full, hsame, .full b⟩
    | _ =>
      rw [hat.empty nofun]
      exact ⟨_, _, .empty, hsame, .empty b nofun⟩
  | @resolve b v hserial =>
    obtain ⟨hreply, hsame⟩ := h.getDevice w v hat.sound hserial
    have hsame := hat.of_same hsame
    obtain rfl : phase = .shared := hfits
    obtain ⟨d, hd⟩ := Option.isSome_iff_exists.1 (hat.device rfl)
    rw [hreply, hd]
    cases b with
    | true => exact ⟨_, _, .used, hsame, .used _⟩
    | false => exact ⟨_, _, .unused, hsame, .unused _⟩
  | disturb => exact absurd rfl hdoomed
  | probe =>
    obtain ⟨-, hsame⟩ := h.get w hat.sound
    exact ⟨_, _, .idle, hat.of_same hsame, .idle _ _ nofun⟩
  | reset hname => exact ⟨_, _, .idle, h.at_update hat (.inl hname), .idle _ _ nofun⟩
  | @claim r interfaces hname hhost =>
    have hclaimed := h.at_mount hat hname hhost
    obtain ⟨⟨response, hreply, hv⟩, -⟩ := h.mount w r interfaces hat.sound hname hhost
    refine ⟨_, _, ?_, hclaimed, .claim _⟩
    rw [hreply]
    exact .claim hv (h.isOf _ hclaimed.sound)
  | inspect =>
    obtain ⟨hreply, hsame⟩ := h.getMounts w hat.sound
    have hsame := hat.of_same hsame
    rw [hreply]
    cases phase with
    | fresh => exact absurd rfl hfits
    | claimed =>
      rw [hat.empty nofun]
      exact ⟨_, _, .absent, hsame, .absent⟩
    | shared => exact ⟨_, _, .present (hat.served rfl), hsame, .present⟩
  | @attach v hof =>
    obtain rfl : phase = .claimed := hfits
    obtain ⟨m, hreply, -⟩ := h.attach w v hat.sound hof
    rw [hreply]
    exact ⟨_, _, .attach, h.at_attach hat hof, .attach⟩
  | clear hname => exact ⟨_, _, .clear, h.at_update hat (.inr hname), .clear _⟩

end Site.Serves
end VolumeLifecycle
