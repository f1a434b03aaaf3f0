import VolumeLifecycle.Proofs.Mounts.Good

namespace VolumeLifecycle.Ledger

open Scene (Phase Asks After Moves)
open Agent (Task Journal Action)

variable {World : Type} {site : Site World} {perform : Agent.Perform World} {s : Scene}
  {l : Ledger World} {phase : Phase} {stance : Nat → Stance}

namespace Good

theorem start (h : l.Good site s phase stance) (hsound : l.journal.Sound s.config)
    (perform : Agent.Perform World) (id : String) (holds : List Call.Kind) (host : Host)
    {command : Command} (hcommand : command.IsMountOf s) :
    (l.act s.config perform (.start id holds host command)).Good site s phase stance := by
  obtain ⟨r, rfl, hname, haccepts⟩ := hcommand
  have hnew := hsound.task?_next
  refine ⟨h.world, h.board, fun n t ht => ?_, fun n hn => ?_, fun n hn => ?_, h.inside, h.answered,
    h.calm⟩
  · rcases Agent.task?_start_cases hnew ht with ⟨hnext, hstage⟩ | ⟨-, u, hu, hstage⟩
    · rw [h.unborn n (Nat.le_of_eq (hsound.next_eq.symm.trans hnext.symm)), hstage]
      exact Scene.program_obeys hname haccepts host
    · exact hstage ▸ h.obeys n u hu
  · exact h.gone n (Agent.task?_eq_none_of_start hnew hn)
  · refine h.unborn n (Nat.le_trans ?_ hn)
    simp [act, Journal.act]

theorem resume (h : l.Good site s phase stance) (hsound : l.journal.Sound s.config)
    (perform : Agent.Perform World) (id : String) :
    (l.act s.config perform (.resume id)).Good site s phase stance := by
  change Good site s ⟨{ l.journal with agent := (l.agent.resume? id).getD l.agent }, l.served⟩ phase
    stance
  unfold Agent.resume?
  cases hfind : l.agent.tasks.find? fun t => t.id = id && t.held?.isSome with
  | none => exact h
  | some t =>
    have ht := hsound.task?_of_mem (List.mem_of_find?_eq_some hfind)
    have hobeys := h.obeys t.ticket t ht
    refine h.stay hsound ht (a := l.agent) rfl rfl rfl h.world ?_
    cases hstage : t.stage <;> simp only [Task.released, hstage] <;> rw [hstage] at hobeys <;>
      exact hobeys

/-- What a mount asks for without a call changes nothing. -/
theorem asked (h : l.Good site s phase stance) (hserves : site.Serves perform s) {n : Nat}
    {e : Effect} {stance₁ : Stance} (hasks : s.Asks (stance n) e stance₁) (he : ∀ c, e ≠ .call c) :
    site.At s (perform l.agent.world e).2 phase ∧
      s.After stance₁ e (perform l.agent.world e).1 (stance n) := by
  generalize stance n = before at hasks ⊢
  cases hasks with
  | describe =>
    obtain ⟨hreply, hsame⟩ := hserves.describeHost l.agent.world h.world.sound
    rw [hreply]
    exact ⟨h.world.of_same hsame, .describe⟩
  | now => exact ⟨h.world.of_same (hserves.now _ h.world.sound), .idle⟩
  | sleep => exact ⟨h.world.of_same (hserves.sleep _ _ h.world.sound), .idle⟩
  | _ => exact absurd rfl (he _)

/-- A step in which a task neither calls nor gets the reply to a call. -/
theorem step_quiet (h : l.Good site s phase stance) (hserves : site.Serves perform s)
    (hsound : l.journal.Sound s.config) {t : Task} (ht : l.agent.task? t.ticket = some t)
    {a : Agent World} (htakes : l.agent.Takes perform t none a) (hawaited : t.awaited? = none) :
    ∃ stance', Good site s ⟨{ l.journal with agent := a }, l.served⟩ phase stance' := by
  have hobeys := h.obeys t.ticket t ht
  cases htakes with
  | @responded p r hstage hview hpassed =>
    rw [hstage] at hobeys
    have hends := Program.Obeys.view hobeys
    rw [hview] at hends
    have hleaving : Agent.Stage.Obeys s (stance t.ticket) (.leaving r) := hends
    exact ⟨stance, h.stay hsound ht
      (a := { l.agent with gate := l.agent.gate.unlock t.ticket }) rfl rfl rfl h.world hleaving⟩
  | @ended p r hstage hview hpassed =>
    rw [hstage] at hobeys
    have hends := Program.Obeys.view hobeys
    rw [hview] at hends
    exact ⟨stance, h.finish ht hends l.agent.gate⟩
  | @asked p e next hstage hview he =>
    rw [hstage] at hobeys
    obtain ⟨stance₁, hasks, hafter⟩ : Program.View.Obeys s.protocol s.Ends (stance t.ticket)
      (.asks e next) := hview ▸ Program.Obeys.view hobeys
    obtain ⟨hworld, hstays⟩ := h.asked hserves hasks he
    have hrunning : Agent.Stage.Obeys s (stance t.ticket)
        (.running (next (perform l.agent.world e).1)) := hafter _ _ hstays
    exact ⟨stance, h.stay hsound ht (a := { l.agent with world := (perform l.agent.world e).2 })
      rfl rfl rfl hworld hrunning⟩
  | @arrived p name op next hstage hview =>
    rw [hstage] at hobeys
    obtain ⟨stance', ⟨hcleared, -, -, rfl⟩, hnext⟩ : Program.View.Obeys s.protocol s.Ends
      (stance t.ticket) (.enters name op next) := hview ▸ Program.Obeys.view hobeys
    refine ⟨_, h.setStage hsound ht
      (a := { l.agent with gate := l.agent.gate.arrive t.ticket name op })
      rfl rfl rfl h.world hnext (by rw [hcleared]; rfl) ?_⟩
    refine h.board.shift trivial (by rw [hcleared]; rfl) (by rw [hcleared]; exact nofun) nofun ?_
    rw [hcleared]
    exact fun _ _ hseen => hseen
  | @replied call isHeld next hstage =>
    simp [Task.awaited?, hstage] at hawaited
  | @passed next hstage hpassed =>
    rw [hstage] at hobeys
    exact ⟨stance, h.stay hsound ht rfl rfl rfl h.world hobeys⟩
  | @moved next hstage hpassed =>
    exact ⟨stance, h.world, h.board, h.obeys, h.gone, h.unborn, h.inside, h.answered, h.calm⟩
  | @left r hstage =>
    rw [hstage] at hobeys
    exact ⟨stance, h.finish ht hobeys (l.agent.gate.retire t.ticket)⟩

/-- A call that a mount may make unmounts no entry, unless the mount is doomed. -/
theorem calm_of_asks {before stance₁ : Stance} {c : Call} (hasks : s.Asks before (.call c) stance₁)
    (hdoomed : before ≠ .doomed) : c.kind ≠ .unmountFileSystem := by
  cases hasks <;> first | exact absurd rfl hdoomed | exact nofun

/-- A mount that is inside once it has made a call was inside before, or the call is that of the
provider's mount. -/
theorem inside_of_asks {before stance₁ : Stance} {c : Call}
    (hasks : s.Asks before (.call c) stance₁) (hinside : stance₁.isInside = true) :
    before.isInside = true ∨ c.kind = .provider .mount := by
  cases hasks <;> first | exact .inl rfl | exact .inr rfl | cases hinside

/-- The provider's mount opens the section of a mount. -/
theorem isCritical_mount (hsound : l.journal.Sound s.config)
    (hcommands : ∀ command ∈ l.journal.commands, command.IsMountOf s) {n : Nat} {t : Task}
    (ht : l.agent.task? n = some t) {c : Call} (hkind : c.kind = .provider .mount) :
    l.journal.isCritical n c = true := by
  obtain ⟨command, hcommand, -⟩ := hsound.fits n t ht
  obtain ⟨r, rfl, -⟩ := hcommands command (List.mem_of_getElem? hcommand)
  simp [Journal.isCritical, hcommand, Command.opens, hkind]

/-- A step in which a task makes a call. -/
theorem step_called (h : l.Good site s phase stance) (hsound : l.journal.Sound s.config)
    (hcommands : ∀ command ∈ l.journal.commands, command.IsMountOf s) {t : Task}
    (ht : l.agent.task? t.ticket = some t) {c : Call} {a : Agent World}
    (htakes : l.agent.Takes perform t (some c) a) :
    let l' : Ledger World := ⟨{ l.journal with
      agent := a, marks := l.journal.marks ++ [l.journal.mark t.ticket c] }, l.served⟩
    l'.IsDisturbed ∨ ∃ stance', l'.Good site s phase stance' := by
  intro l'
  have hobeys := h.obeys t.ticket t ht
  cases htakes with
  | @called p _ next hstage hview =>
    rw [hstage] at hobeys
    obtain ⟨stance₁, hasks, hafter⟩ : Program.View.Obeys s.protocol s.Ends (stance t.ticket)
      (.asks (.call c) next) := hview ▸ Program.Obeys.view hobeys
    by_cases hdoomed : stance t.ticket = .doomed
    · have hseen := h.board.seen t.ticket
      rw [hdoomed] at hasks hseen
      cases hasks with
      | disturb => exact .inl ⟨⟨_, List.mem_cons_self, rfl⟩, t.ticket, hseen⟩
    · have hunique := fun m hm hn => h.inside_unique hsound hcommands (m := m) (n := t.ticket) hm hn
      have hboard := h.board.call hasks hunique
      refine .inr ⟨_, h.update hsound ht l' rfl rfl
        (Agent.task?_setStage_of_eq rfl ht _) ⟨⟨stance t.ticket, hdoomed, hasks⟩, hafter⟩ h.world ?_
        ?_ id fun r hr => ?_⟩
      · have hattaches : l'.attaches =
            l.attaches + if c.kind = .attachAndMountDevice then 1 else 0 := by
          simp [l', attaches, agent, Agent.makeCall, Agent.setStage, List.countP_cons]
        rw [hattaches]
        exact hboard
      · have hsection : ∀ k, l'.journal.sectionOf k = l.journal.sectionOf k ++
            if (l.journal.mark t.ticket c).isCritical = true ∧ t.ticket = k
              then [l.journal.mark t.ticket c] else [] :=
          Journal.sectionOf_append (l.journal.mark t.ticket c)
        refine Stance.forall_change
          (p := fun m s => s.isInside = true → l'.journal.sectionOf m ≠ []) (fun hn => ?_) ?_
        · rw [hsection]
          rcases inside_of_asks hasks hn with hbefore | hkind
          · exact List.append_ne_nil_of_left_ne_nil (h.inside t.ticket hbefore) _
          · have hcritical := isCritical_mount hsound hcommands ht hkind
            rw [if_pos ⟨hcritical, rfl⟩]
            exact List.append_ne_nil_of_right_ne_nil _ (List.cons_ne_nil _ _)
        · intro m _ hm
          rw [hsection]
          exact List.append_ne_nil_of_left_ne_nil (h.inside m hm) _
      · rcases List.mem_cons.1 hr with rfl | hr
        · exact calm_of_asks hasks hdoomed
        · exact h.calm r hr

/-- A mount that is inside after a reply was inside before. -/
theorem inside_of_moves {phase' : Phase} {before after : Stance} {kind : Call.Kind}
    (hmoves : Moves phase before kind phase' after) (hinside : after.isInside = true) :
    before.isInside = true := by
  cases hmoves <;> first | rfl | cases hinside

/-- A step in which a task gets the reply to a call. -/
theorem step_replied (h : l.Good site s phase stance) (hserves : site.Serves perform s)
    (hsound : l.journal.Sound s.config)
    (hcommands : ∀ command ∈ l.journal.commands, command.IsMountOf s) {t : Task}
    (ht : l.agent.task? t.ticket = some t) {c : Call} {isHeld : Bool}
    {next : c.Reply → Program Response} (hstage : t.stage = .calling c isHeld next) :
    let l' : Ledger World := ⟨{ l.journal with agent := l.agent.effect perform t (.call c) next },
      l.served ++ [Serving.next l.served t.ticket c.kind]⟩
    ∃ phase' stance', l'.Good site s phase' stance' := by
  intro l'
  have hobeys := h.obeys t.ticket t ht
  rw [hstage] at hobeys
  obtain ⟨⟨before, hdoomed, hasks⟩, hafter⟩ := hobeys
  obtain ⟨phase', stance', hleads, hworld, hmoves⟩ :=
    hserves.moves h.world hasks hdoomed (h.board.fits t.ticket)
  have hunique := fun m hm hn => h.inside_unique hsound hcommands (m := m) (n := t.ticket) hm hn
  refine ⟨phase', _, h.update hsound ht l' rfl rfl (Agent.task?_setStage_of_eq rfl ht _)
    (hafter _ _ hleads) hworld (h.board.reply hmoves hunique) ?_
    (fun hshared => (Board.shared_moves hmoves).1.2 (.inl hshared)) h.calm⟩
  exact Stance.forall_change (p := fun m s => s.isInside = true → l.journal.sectionOf m ≠ [])
    (fun hn => h.inside t.ticket (inside_of_moves hmoves hn)) fun m _ => h.inside m

/-- What one step of a task keeps, unless a mount that was overtaken unmounts an entry. -/
theorem step (h : l.Good site s phase stance) (hserves : site.Serves perform s)
    (hsound : l.journal.Sound s.config)
    (hcommands : ∀ command ∈ l.journal.commands, command.IsMountOf s) (n : Nat) :
    let l' := l.act s.config perform (.step n)
    l'.IsDisturbed ∨ ∃ phase' stance', l'.Good site s phase' stance' := by
  intro l'
  have hact : l' = ⟨⟨l.agent.step perform n, l.journal.commands,
      l.journal.marks ++ ((l.agent.made? n).map (l.journal.mark n)).toList⟩,
      l.served ++ ((l.agent.served? n).map fun c => Serving.next l.served n c.kind).toList⟩ := rfl
  rcases Agent.step_takes perform l.agent n with
    ⟨hsame, hmade, hserved⟩ | ⟨t, ht, hserved, htakes⟩
  · rw [hact, hsame, hmade, hserved]
    simp only [Option.map_none, Option.toList_none, List.append_nil]
    exact .inr ⟨phase, stance, h⟩
  obtain rfl := Agent.ticket_of_task? ht
  generalize l.agent.step perform t.ticket = a at hact htakes
  cases hmade : l.agent.made? t.ticket with
  | some c =>
    rw [hmade] at htakes
    have hawaited : t.awaited? = none := by
      cases htakes with
      | called hstage hview => simp [Task.awaited?, hstage]
    rw [hact, hmade, hserved, hawaited]
    simp only [Option.map_some, Option.map_none, Option.toList_some, Option.toList_none,
      List.append_nil]
    exact (h.step_called hsound hcommands ht htakes).imp_right fun hgood => ⟨phase, hgood⟩
  | none =>
    rw [hmade] at htakes
    cases hawaited : t.awaited? with
    | none =>
      rw [hact, hmade, hserved, hawaited]
      simp only [Option.map_none, Option.toList_none, List.append_nil]
      exact .inr ⟨phase, h.step_quiet hserves hsound ht htakes hawaited⟩
    | some c =>
      rw [hact, hmade, hserved, hawaited]
      simp only [Option.map_none, Option.map_some, Option.toList_none, Option.toList_some,
        List.append_nil]
      cases htakes with
      | @replied c' isHeld next hstage =>
        obtain rfl : c' = c := by simpa [Task.awaited?, hstage] using hawaited
        exact .inr (h.step_replied hserves hsound hcommands ht hstage)
      | _ => simp_all [Task.awaited?]

end Good
end VolumeLifecycle.Ledger
