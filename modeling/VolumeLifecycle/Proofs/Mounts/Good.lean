import VolumeLifecycle.Proofs.Mounts.Ledger

namespace VolumeLifecycle

open Scene (Phase)
open Agent (Task Journal)

def Scene.Ends (s : Scene) (stance : Stance) (r : Response) : Prop :=
  stance = .settled ∧ r = s.success

def Agent.Stage.Obeys (s : Scene) (stance : Stance) : Agent.Stage → Prop
  | .running p => p.Obeys s.protocol s.Ends stance
  | .calling c _ next =>
    (∃ before, before ≠ .doomed ∧ s.Asks before (.call c) stance) ∧
      ∀ reply stance', s.After stance (.call c) reply stance' →
        (next reply).Obeys s.protocol s.Ends stance'
  | .entering next => next.Obeys s.protocol s.Ends stance
  | .leaving r => s.Ends stance r

def Command.IsMountOf (s : Scene) (command : Command) : Prop :=
  ∃ r, command = .mount r ∧ r.name = s.name ∧ s.Accepts r.opts

namespace Ledger

variable {World : Type} {site : Site World} {perform : Agent.Perform World} {s : Scene}
  {l : Ledger World} {phase : Phase} {stance : Nat → Stance}

/-- What holds between any two steps as long as no mount entry has been unmounted. -/
structure Good (site : Site World) (s : Scene) (l : Ledger World) (phase : Phase)
    (stance : Nat → Stance) : Prop where
  world : site.At s l.agent.world phase
  board : Board phase stance l.served l.attaches
  obeys : ∀ n t, l.agent.task? n = some t → t.stage.Obeys s (stance n)
  /-- A task that is not there has not begun, or has gone well. -/
  gone : ∀ n, l.agent.task? n = none → stance n = .asking ∨ stance n = .settled
  unborn : ∀ n, l.journal.commands.length ≤ n → stance n = .asking
  /-- A task that has called the provider's mount has begun its section. -/
  inside : ∀ n, (stance n).isInside = true → l.journal.sectionOf n ≠ []
  answered : ∀ x ∈ l.agent.responses, x.2 = s.success ∧ phase = .shared
  calm : ∀ r ∈ l.agent.calls, r.call.kind ≠ .unmountFileSystem

namespace Good

/-- A task that has called the provider's mount, and whose own part is not done, is inside of the gate
under the volume's name. -/
theorem standing (h : l.Good site s phase stance) (hsound : l.journal.Sound s.config)
    (hcommands : ∀ command ∈ l.journal.commands, command.IsMountOf s) {n : Nat}
    (hinside : (stance n).isInside = true) :
    ∃ op, l.agent.gate.standing? n = some ⟨s.name, op, .inside⟩ := by
  cases ht : l.agent.task? n with
  | none => rcases h.gone n ht with heq | heq <;> rw [heq] at hinside <;> cases hinside
  | some t =>
    obtain rfl := Agent.ticket_of_task? ht
    obtain ⟨command, hcommand, -⟩ := hsound.fits t.ticket t ht
    obtain ⟨r, rfl, hname, -⟩ := hcommands command (List.mem_of_getElem? hcommand)
    rcases hsound.held_or_leaving (Agent.mem_of_task? ht) (h.inside t.ticket hinside) with
      ⟨response, hstage⟩ | ⟨name, hrequested, hheld⟩
    · have hobeys := h.obeys t.ticket t ht
      rw [hstage] at hobeys
      rw [hobeys.1] at hinside
      cases hinside
    · have hrequest : l.journal.requested? t.ticket = some r.name := by
        simp [Journal.requested?, hcommand, Command.target?]
      rw [hrequest, hname] at hrequested
      cases hrequested
      exact Gate.standing?_of_heldName? hheld

/-- Only one mount is between its call of the provider's mount and the end of its own part. -/
theorem inside_unique (h : l.Good site s phase stance) (hsound : l.journal.Sound s.config)
    (hcommands : ∀ command ∈ l.journal.commands, command.IsMountOf s) {n m : Nat}
    (hm : (stance m).isInside = true) (hn : (stance n).isInside = true) : m = n := by
  obtain ⟨op, hop⟩ := h.standing hsound hcommands hm
  obtain ⟨op', hop'⟩ := h.standing hsound hcommands hn
  exact hsound.gate.sound.inside_unique hop hop'

/-- One task moves to another stage, and to another stance with it. -/
theorem update (h : l.Good site s phase stance) (hsound : l.journal.Sound s.config) {n : Nat}
    {t : Task} (ht : l.agent.task? n = some t) (l' : Ledger World) {stage : Agent.Stage}
    {stance' : Stance} {phase' : Phase} (hcommands : l'.journal.commands = l.journal.commands)
    (hresponses : l'.agent.responses = l.agent.responses)
    (htask : ∀ m, l'.agent.task? m = if m = n then some { t with stage } else l.agent.task? m)
    (hobeys : stage.Obeys s stance') (hworld : site.At s l'.agent.world phase')
    (hboard : Board phase' (Stance.change stance n stance') l'.served l'.attaches)
    (hinside : ∀ m, (Stance.change stance n stance' m).isInside = true →
      l'.journal.sectionOf m ≠ [])
    (hphase : phase = .shared → phase' = .shared)
    (hcalm : ∀ r ∈ l'.agent.calls, r.call.kind ≠ .unmountFileSystem) :
    l'.Good site s phase' (Stance.change stance n stance') where
  world := hworld
  board := hboard
  obeys m u hu := by
    rw [htask] at hu
    split at hu
    · next hm =>
      cases hu
      rw [hm, Stance.change_same]
      exact hobeys
    · next hm =>
      rw [Stance.change_of_ne hm]
      exact h.obeys m u hu
  gone m hm := by
    rw [htask] at hm
    split at hm
    · cases hm
    · next hne =>
      rw [Stance.change_of_ne hne]
      exact h.gone m hm
  unborn m hm := by
    rw [hcommands] at hm
    have hne : m ≠ n := by
      rintro rfl
      exact absurd (hsound.lt_of_task? ht) (Nat.not_lt.2 hm)
    rw [Stance.change_of_ne hne]
    exact h.unborn m hm
  inside := hinside
  answered x hx := by
    rw [hresponses] at hx
    obtain ⟨hsuccess, hshared⟩ := h.answered x hx
    exact ⟨hsuccess, hphase hshared⟩
  calm := hcalm

/-- One task moves to another stage, and to another stance at which it has seen as much; the world
may change. -/
theorem setStage (h : l.Good site s phase stance) (hsound : l.journal.Sound s.config) {n : Nat}
    {t : Task} (ht : l.agent.task? n = some t) {a : Agent World} (htasks : a.tasks = l.agent.tasks)
    (hresponses : a.responses = l.agent.responses) (hcalls : a.calls = l.agent.calls)
    (hworld : site.At s a.world phase) {stage : Agent.Stage} {stance' : Stance}
    (hobeys : stage.Obeys s stance') (hinside : stance'.isInside = (stance n).isInside)
    (hboard : Board phase (Stance.change stance n stance') l.served l.attaches) :
    Good site s ⟨{ l.journal with agent := a.setStage n stage }, l.served⟩ phase
      (Stance.change stance n stance') := by
  have hboard' : Board phase (Stance.change stance n stance') l.served
      (a.calls.countP fun r => r.call.kind = .attachAndMountDevice) := by
    rw [hcalls]
    exact hboard
  refine h.update hsound ht ⟨{ l.journal with agent := a.setStage n stage }, l.served⟩ rfl hresponses
    (Agent.task?_setStage_of_eq htasks ht stage) hobeys hworld hboard' ?_ id
    fun r hr => h.calm r (hcalls ▸ hr)
  exact Stance.forall_change (p := fun m t => t.isInside = true → l.journal.sectionOf m ≠ [])
    (fun hn => h.inside n (hinside ▸ hn)) fun m _ => h.inside m

/-- One task moves to another stage and stays at its stance. -/
theorem stay (h : l.Good site s phase stance) (hsound : l.journal.Sound s.config) {n : Nat}
    {t : Task} (ht : l.agent.task? n = some t) {a : Agent World} (htasks : a.tasks = l.agent.tasks)
    (hresponses : a.responses = l.agent.responses) (hcalls : a.calls = l.agent.calls)
    (hworld : site.At s a.world phase) {stage : Agent.Stage} (hobeys : stage.Obeys s (stance n)) :
    Good site s ⟨{ l.journal with agent := a.setStage n stage }, l.served⟩ phase stance := by
  have hboard : Board phase (Stance.change stance n (stance n)) l.served l.attaches := by
    rw [Stance.change_self]
    exact h.board
  have hgood := h.setStage hsound ht htasks hresponses hcalls hworld hobeys rfl hboard
  rwa [Stance.change_self] at hgood

/-- A task that has responded is gone. -/
theorem finish (h : l.Good site s phase stance) {n : Nat} {t : Task}
    (ht : l.agent.task? n = some t) {r : Response} (hends : s.Ends (stance n) r) (gate : Gate) :
    Good site s ⟨{ l.journal with agent := { l.agent with gate }.finish t r }, l.served⟩ phase
      stance := by
  obtain rfl := Agent.ticket_of_task? ht
  obtain ⟨hsettled, rfl⟩ := hends
  have htask : ∀ m, ({ l.agent with gate }.finish t s.success).task? m =
      if m = t.ticket then none else l.agent.task? m := Agent.task?_finish t s.success
  have hshared : phase = .shared := by
    have hfits := h.board.fits t.ticket
    rw [hsettled] at hfits
    exact hfits
  refine ⟨h.world, h.board, fun m u hu => ?_, fun m hm => ?_, h.unborn, h.inside, fun x hx => ?_,
    h.calm⟩
  · replace hu := (htask m).symm.trans hu
    split at hu
    · cases hu
    · exact h.obeys m u hu
  · replace hm := (htask m).symm.trans hm
    split at hm
    · next heq =>
      rw [heq]
      exact .inr hsettled
    · exact h.gone m hm
  · rcases List.mem_cons.1 hx with rfl | hx
    · exact ⟨rfl, hshared⟩
    · exact h.answered x hx

end Good
end Ledger
end VolumeLifecycle
