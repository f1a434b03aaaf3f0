import VolumeLifecycle.Proofs.Agent.Sound

namespace VolumeLifecycle.Agent.Journal

open Workflow (Tame)

variable {World : Type} {c : Config} {j : Journal World}

namespace Sound

/-- One task, which is not leaving, moves to another stage of its own; gate and world may change. -/
theorem setStage (h : j.Sound c) {n : Nat} {t : Task} (ht : j.agent.task? n = some t)
    (hopen : ∀ r, t.stage ≠ .leaving r) {a : Agent World} (htasks : a.tasks = j.agent.tasks)
    (hnext : a.next = j.agent.next) (hresponses : a.responses = j.agent.responses)
    (hgate : a.gate.Regular c.admission)
    (hstanding : ∀ m, m ≠ n → a.gate.standing? m = j.agent.gate.standing? m) {stage : Stage}
    (hfits : ∀ command : Command,
      command.Fits (j.agent.gate.standing? n) (j.sectionOf n) t.stage →
        command.Fits (a.gate.standing? n) (j.sectionOf n) stage) :
    { j with agent := a.setStage n stage }.Sound c := by
  refine h.update ht hopen (a := a.setStage n stage) hnext hresponses ?_
    (task?_setStage_of_eq htasks ht stage) hgate hstanding hfits
  simp only [Agent.setStage, List.map_map, htasks]
  refine List.map_congr_left fun u _ => ?_
  simp only [Function.comp_apply]
  split <;> rfl

theorem resume (h : j.Sound c) (perform : Perform World) (id : String) :
    (j.act c perform (.resume id)).Sound c := by
  change { j with agent := (j.agent.resume? id).getD j.agent }.Sound c
  unfold resume?
  cases hfind : j.agent.tasks.find? fun t => t.id = id && t.held?.isSome with
  | none => exact h
  | some t =>
    have hmem := List.mem_of_find?_eq_some hfind
    have hheld : t.held?.isSome = true := by
      have hfound := List.find?_some hfind
      simp only [Bool.and_eq_true] at hfound
      exact hfound.2
    change { j with agent := j.agent.setStage t.ticket t.released.stage }.Sound c
    cases hstage : t.stage with
    | calling call isHeld next =>
      refine h.setStage (h.task?_of_mem hmem) (by simp [hstage]) rfl rfl rfl h.gate
        (fun _ _ => rfl) fun command hfits => ?_
      simpa [Task.released, hstage, Command.Fits] using hfits
    | _ => simp [Task.held?, hstage] at hheld

/-- A task whose command has not been given has made no critical calls. -/
theorem sectionOf_eq_nil (h : j.Sound c) {n : Nat} (hn : j.commands.length ≤ n) :
    j.sectionOf n = [] := by
  refine List.eq_nil_iff_forall_not_mem.2 fun m hm => ?_
  obtain ⟨hmark, -, hticket⟩ := mem_sectionOf.1 hm
  have hlt := h.marked m hmark
  rw [hticket] at hlt
  exact absurd hlt (Nat.not_lt.2 hn)

/-- Only tasks whose commands have been given have sections. -/
theorem lt_of_mem_order (h : j.Sound c) {name : String} {order : List Nat}
    (horder : j.Serial name order) {n : Nat} (hn : n ∈ order) : n < j.commands.length :=
  Nat.not_le.1 fun hle => horder.made n hn (h.sectionOf_eq_nil hle)

/-- A command that is given changes no name that was asked for before. -/
theorem requested?_start (perform : Perform World) (id : String) (holds : List Call.Kind)
    (host : Host) (command : Command) {n : Nat} (hn : n < j.commands.length) :
    (j.act c perform (.start id holds host command)).requested? n = j.requested? n := by
  simp [requested?, Journal.act, List.getElem?_append_left hn]

theorem start (h : j.Sound c) (perform : Perform World) (id : String) (holds : List Call.Kind)
    (host : Host) (command : Command) :
    (j.act c perform (.start id holds host command)).Sound c := by
  have hnew := h.task?_next
  have hlast : (j.commands ++ [command])[j.commands.length]? = some command := by simp
  have hunmade := h.sectionOf_eq_nil (Nat.le_of_eq h.next_eq.symm)
  refine ⟨h.gate, ?_, ?_, fun n t ht => ?_, fun n hn => ?_, ?_, fun m hm => ?_, fun m hm hc => ?_,
    fun name => ?_⟩
  · simp [act, Agent.act, Agent.start, h.next_eq]
  · change ((j.agent.tasks.map (Task.replaced · id) ++ [_]).map Task.ticket).Nodup
    have hsame : Task.ticket ∘ (Task.replaced · id) = Task.ticket :=
      funext fun t => t.ticket_replaced id
    rw [List.map_append, List.map_map, hsame, List.map_singleton, List.nodup_append]
    refine ⟨h.tickets_nodup, by simp, ?_⟩
    rintro n hn m hm rfl
    obtain ⟨t, ht, rfl⟩ := List.mem_map.1 hn
    have hfound := h.task?_of_mem ht
    rw [List.mem_singleton.1 hm] at hfound
    cases hnew.symm.trans hfound
  · rcases task?_start_cases hnew ht with ⟨hn, hstage⟩ | ⟨-, u, hu, hstage⟩
    · refine ⟨command, by rw [hn, h.next_eq]; exact hlast, ?_⟩
      rw [hstage]
      refine .inl ⟨?_, ?_, ?_⟩
      · exact h.known n (hn ▸ hnew)
      · exact hn ▸ hunmade
      · exact command.program_passes c host
    · obtain ⟨command', hcommand', hfits⟩ := h.fits n u hu
      rw [← hstage]
      exact ⟨command', (List.getElem?_append_left (h.lt_of_task? hu)).trans hcommand', hfits⟩
  · exact h.known n (task?_eq_none_of_start hnew hn)
  · have hanswered := h.answered
    simp only [act, Agent.act, Agent.start, List.length_append, List.length_map,
      List.length_singleton]
    omega
  · have hlt := h.marked m hm
    simp only [act, List.length_append]
    omega
  · obtain ⟨name, hname, hheld⟩ := h.held m hm hc
    exact ⟨name, (requested?_start perform id holds host command (h.marked m hm)).trans hname, hheld⟩
  · obtain ⟨order, horder⟩ := h.serial name
    have hrequested : ∀ n, n < j.commands.length →
        (j.act c perform (.start id holds host command)).requested? n = j.requested? n := fun n =>
      requested?_start perform id holds host command
    refine ⟨order, horder.of_same_sections (fun n hn => hrequested n (h.lt_of_mem_order horder hn))
      (fun _ _ => rfl) ?_ fun n hn hclosed t ht => ?_⟩
    · refine List.filter_congr fun m hm => ?_
      rw [hrequested m.ticket (h.marked m hm)]
    · rcases task?_start_cases hnew ht with ⟨hnext, -⟩ | ⟨-, u, hu, hstage⟩
      · exact absurd (hnext.trans h.next_eq) (Nat.ne_of_lt (h.lt_of_mem_order horder hn))
      · exact hstage ▸ hclosed u hu

/-- A task that has its response begins to leave. -/
theorem responded (h : j.Sound c) {t : Task} (ht : j.agent.task? t.ticket = some t)
    {p : Program Response} (hstage : t.stage = .running p)
    (hpassed : j.agent.gate.hasPassed t.ticket = true) (r : Response) :
    { j with
      agent := { j.agent with
        gate := j.agent.gate.unlock t.ticket }.setStage t.ticket (.leaving r) }.Sound c := by
  obtain ⟨command, hcommand, hfits⟩ := h.fits t.ticket t ht
  simp only [hstage, Command.Fits] at hfits
  rcases hfits with ⟨hnone, -⟩ | ⟨⟨name, op, -, hinside⟩, -⟩
  · obtain ⟨s, hs, -⟩ := Gate.hasPassed_iff.1 hpassed
    cases hnone.symm.trans hs
  · have hmoves := Gate.standing?_unlock h.gate.sound hinside
    refine h.setStage ht (by simp [hstage])
      (a := { j.agent with gate := j.agent.gate.unlock t.ticket }) rfl rfl rfl
      (h.gate.apply (e := .unlock t.ticket) (by simp)) (fun m hm => (hmoves m).trans (if_neg hm))
      fun command' hfits' => ?_
    simp only [hstage, Command.Fits] at hfits'
    rcases hfits' with ⟨hnone, -⟩ | ⟨⟨name', op', htarget, hinside'⟩, -⟩
    · cases hnone.symm.trans hinside
    · cases hinside.symm.trans hinside'
      exact ⟨name, op, htarget, (hmoves t.ticket).trans (if_pos rfl)⟩

/-- A task comes to the gate. -/
theorem arrived (h : j.Sound c) {t : Task} (ht : j.agent.task? t.ticket = some t)
    {p : Program Response} {name : String} {op : Operation} {next : Program Response}
    (hstage : t.stage = .running p) (hview : p.view = .enters name op next) :
    { j with
      agent := { j.agent with
        gate := j.agent.gate.arrive t.ticket name op }.setStage t.ticket (.entering next) }.Sound c := by
  obtain ⟨command, hcommand, hfits⟩ := h.fits t.ticket t ht
  simp only [hstage, Command.Fits] at hfits
  have hnone : j.agent.gate.standing? t.ticket = none := by
    rcases hfits with ⟨hnone, -⟩ | ⟨-, hp⟩
    · exact hnone
    · have henters := hp.view
      rw [hview] at henters
      exact henters.elim
  have hmoves := Gate.standing?_arrive hnone name op
  refine h.setStage ht (by simp [hstage])
    (a := { j.agent with gate := j.agent.gate.arrive t.ticket name op }) rfl rfl rfl
    (h.gate.apply (e := .arrive t.ticket name op) (by simp))
    (fun m hm => (hmoves m).trans (if_neg hm))
    fun command' hfits' => ?_
  simp only [hstage, Command.Fits] at hfits' ⊢
  rcases hfits' with ⟨-, hmade, hp⟩ | ⟨⟨name', op', -, hinside⟩, -⟩
  · have henters := hp.view
    rw [hview] at henters
    exact ⟨hmade, .inl ⟨name, op, henters.1, (hmoves t.ticket).trans (if_pos rfl)⟩, henters.2⟩
  · cases hnone.symm.trans hinside

/-- A task moves on through the gate. -/
theorem moved (h : j.Sound c) {t : Task} (ht : j.agent.task? t.ticket = some t)
    {next : Program Response} (hstage : t.stage = .entering next) :
    { j with agent := { j.agent with gate := j.agent.gate.advance t.ticket } }.Sound c := by
  have hother : ∀ m, m ≠ t.ticket →
      (j.agent.gate.advance t.ticket).standing? m = j.agent.gate.standing? m := fun m hm =>
    (Gate.standing?_advance j.agent.gate t.ticket m).resolve_right fun hmoved => hm hmoved.1
  have hsame : ∀ m, j.agent.task? m =
      if m = t.ticket then some { t with stage := t.stage } else j.agent.task? m := by
    intro m
    split
    · next hm => rw [hm]; exact ht
    · rfl
  refine h.update ht (by simp [hstage]) rfl rfl rfl hsame
    (h.gate.apply (e := .advance t.ticket) (by simp)) hother fun command hfits => ?_
  simp only [hstage, Command.Fits] at hfits ⊢
  obtain ⟨hmade, hplaced, hp⟩ := hfits
  refine ⟨hmade, ?_, hp⟩
  rcases Gate.standing?_advance j.agent.gate t.ticket t.ticket with
    hsame | ⟨-, s, hs, -, hinside⟩
  · simpa only [hsame] using hplaced
  · have htarget : ∃ name op, command.target? = some (name, op) ∧
        s.name = name ∧ s.op = op := by
      rcases hplaced with ⟨name, op, htarget, hstanding⟩ | ⟨name, op, htarget, hstanding⟩ <;>
        cases hs.symm.trans hstanding <;> exact ⟨name, op, htarget, rfl, rfl⟩
    obtain ⟨name, op, htarget, rfl, rfl⟩ := htarget
    exact .inr ⟨_, _, htarget, hinside⟩

/-- A step of a task that makes no call. -/
theorem step_of_quiet (h : j.Sound c) {t : Task} (ht : j.agent.task? t.ticket = some t)
    {perform : Perform World} {a : Agent World} (htakes : j.agent.Takes perform t none a) :
    { j with agent := a }.Sound c := by
  cases htakes with
  | responded hstage hview hpassed => exact h.responded ht hstage hpassed _
  | @ended p r hstage hview hpassed =>
    have hnone : j.agent.gate.standing? t.ticket = none := by
      obtain ⟨command, -, hfits⟩ := h.fits t.ticket t ht
      simp only [hstage, Command.Fits] at hfits
      rcases hfits with ⟨hnone, -⟩ | ⟨⟨name, op, -, hinside⟩, -⟩
      · exact hnone
      · rw [Gate.hasPassed_of_standing? hinside] at hpassed
        cases hpassed
    refine h.finish ht h.gate (fun m => ?_) r
    split
    · next hm => rw [hm, hnone]
    · rfl
  | @asked p e next hstage hview he =>
    refine h.setStage ht (by simp [hstage])
      (a := { j.agent with world := (perform j.agent.world e).2 }) rfl rfl rfl h.gate (fun _ _ => rfl)
      fun command hfits => ?_
    simp only [hstage, Command.Fits] at hfits ⊢
    rcases hfits with ⟨hnone, hmade, hp⟩ | ⟨hin, hp⟩
    · have hasks := hp.view
      rw [hview] at hasks
      exact .inl ⟨hnone, hmade, hasks.2 _⟩
    · have hasks := hp.view
      rw [hview] at hasks
      exact .inr ⟨hin, hasks.2 _⟩
  | arrived hstage hview => exact h.arrived ht hstage hview
  | @replied call isHeld next hstage =>
    refine h.setStage ht (by simp [hstage])
      (a := { j.agent with world := (perform j.agent.world (.call call)).2 }) rfl rfl rfl h.gate
      (fun _ _ => rfl) fun command hfits => ?_
    simp only [hstage, Command.Fits] at hfits ⊢
    rcases hfits with ⟨hnone, hmade, hp⟩ | ⟨hin, hp⟩
    · exact .inl ⟨hnone, hmade, hp _⟩
    · exact .inr ⟨hin, hp _⟩
  | @passed next hstage hpassed =>
    refine h.setStage ht (by simp [hstage]) rfl rfl rfl h.gate (fun _ _ => rfl)
      fun command hfits => ?_
    simp only [hstage, Command.Fits] at hfits ⊢
    obtain ⟨-, ⟨name, op, -, houtside⟩ | hinside, hp⟩ := hfits
    · cases Gate.standing?_of_hasPassed hpassed houtside
    · exact .inr ⟨hinside, hp⟩
  | moved hstage hpassed => exact h.moved ht hstage
  | @left r hstage =>
    obtain ⟨command, hcommand, hfits⟩ := h.fits t.ticket t ht
    simp only [hstage, Command.Fits] at hfits
    obtain ⟨name, op, -, hleaving⟩ := hfits
    exact h.finish ht (h.gate.apply (e := .retire t.ticket) (by simp))
      (Gate.standing?_retire h.gate.sound hleaving) r

/-- A step of a task that makes a call. Outside of the gate the call is free; inside it is made under
the name that the command asks for. -/
theorem step_of_call (h : j.Sound c) {t : Task} (ht : j.agent.task? t.ticket = some t)
    {perform : Perform World} {call : Call} {a : Agent World}
    (htakes : j.agent.Takes perform t (some call) a) :
    { j with agent := a, marks := j.marks ++ [j.mark t.ticket call] }.Sound c := by
  cases htakes with
  | @called p _ next hstage hview =>
    have hcalling : { j with agent := j.agent.makeCall t call next }.Sound c := by
      refine h.setStage ht (by simp [hstage])
        (a := { j.agent with calls := ⟨t.id, call, j.agent.world⟩ :: j.agent.calls }) rfl rfl rfl
        h.gate (fun _ _ => rfl) fun command hfits => ?_
      simp only [hstage, Command.Fits] at hfits ⊢
      rcases hfits with ⟨hnone, hmade, hp⟩ | ⟨hin, hp⟩
      · have hasks := hp.view
        rw [hview] at hasks
        exact .inl ⟨hnone, hmade, hasks.2⟩
      · have hasks := hp.view
        rw [hview] at hasks
        exact .inr ⟨hin, hasks.2⟩
    have htask : (j.agent.makeCall t call next).task? t.ticket =
        some { t with stage := .calling call (t.holds.contains call.kind) next } := by
      refine (task?_setStage t.ticket _ t.ticket).trans ?_
      rw [if_pos rfl]
      exact congrArg _ ht
    obtain ⟨command, hcommand, hfits⟩ := h.fits t.ticket t ht
    simp only [hstage, Command.Fits] at hfits
    rcases hfits with ⟨-, hmade, hp⟩ | ⟨hinside, hp⟩
    · have hasks := hp.view
      rw [hview] at hasks
      exact hcalling.mark_free (h.lt_of_task? ht)
        (isCritical_eq_false hcommand (Command.opens_eq_false_of_free (hasks.1 call rfl)) hmade)
    · have hasks := hp.view
      rw [hview] at hasks
      cases hcritical : j.isCritical t.ticket call with
      | false => exact hcalling.mark_free (h.lt_of_task? ht) hcritical
      | true =>
        refine hcalling.mark_critical htask (by simp) rfl hcritical rfl fun command' hcommand' => ?_
        cases hcommand.symm.trans hcommand'
        exact ⟨hinside, .inr ⟨hinside, hasks.2⟩⟩

/-- What one step of a task keeps. -/
theorem step (h : j.Sound c) (perform : Perform World) (n : Nat) :
    (j.act c perform (.step n)).Sound c := by
  rcases step_takes perform j.agent n with ⟨hsame, hnone, -⟩ | ⟨t, ht, -, htakes⟩
  · simpa [act, Agent.act, hsame, hnone] using h
  · obtain rfl := ticket_of_task? ht
    cases hmade : j.agent.made? t.ticket with
    | none =>
      rw [hmade] at htakes
      simpa [act, Agent.act, hmade] using h.step_of_quiet ht htakes
    | some call =>
      rw [hmade] at htakes
      simpa [act, Agent.act, hmade] using h.step_of_call ht htakes

/-- What anything that can happen keeps. -/
theorem act (h : j.Sound c) (perform : Perform World) (action : Action) :
    (j.act c perform action).Sound c := by
  cases action with
  | start id holds host command => exact h.start perform id holds host command
  | step n => exact h.step perform n
  | resume id => exact h.resume perform id

/-- What any row of things that can happen keeps. -/
theorem run (h : j.Sound c) (perform : Perform World) (actions : List Action) :
    (j.run c perform actions).Sound c := by
  induction actions generalizing j with
  | nil => exact h
  | cons action rest ih => exact ih (h.act perform action)

end Sound

/-- An agent that has been given no command is sound. -/
theorem sound_begin {g : Gate} (hg : Gate.ofConfig c.admission = .ok g) (w : World) :
    (begin g w).Sound c := by
  have hempty : g.tickets = [] := by
    unfold Gate.ofConfig at hg
    split at hg <;> cases hg
    rfl
  constructor
  · exact .of_ofConfig hg
  · rfl
  · exact List.nodup_nil
  · intro n t ht
    cases ht
  · intro n _
    exact Gate.tickets_eq_nil_iff.1 hempty n
  · rfl
  · simp [begin]
  · simp [begin]
  · intro name
    refine ⟨[], List.nodup_nil, ?_, ?_, rfl, ?_⟩ <;> simp

/-- The journal keeps the calls that the agent keeps. -/
theorem calls_act (h : j.agent.calls.map CallRecord.call = (j.marks.map Mark.call).reverse)
    (perform : Perform World) (action : Action) :
    (j.act c perform action).agent.calls.map CallRecord.call =
      ((j.act c perform action).marks.map Mark.call).reverse := by
  cases action with
  | start id holds host command => exact h
  | resume id =>
    change ((j.agent.resume? id).getD j.agent).calls.map CallRecord.call = _
    unfold resume?
    cases j.agent.tasks.find? fun t => t.id = id && t.held?.isSome <;> exact h
  | step n =>
    change (j.agent.step perform n).calls.map CallRecord.call =
      ((j.marks ++ ((j.agent.made? n).map (j.mark n)).toList).map Mark.call).reverse
    rcases step_takes perform j.agent n with ⟨hsame, hnone, -⟩ | ⟨t, ht, -, htakes⟩
    · simpa [hsame, hnone] using h
    · generalize j.agent.step perform n = a at htakes ⊢
      generalize j.agent.made? n = made at htakes ⊢
      cases htakes with
      | called hstage hview => simp [makeCall, Agent.setStage, mark, h]
      | _ =>
        rw [Option.map_none, Option.toList_none, List.append_nil]
        exact h

theorem calls_run (h : j.agent.calls.map CallRecord.call = (j.marks.map Mark.call).reverse)
    (perform : Perform World) (actions : List Action) :
    (j.run c perform actions).agent.calls.map CallRecord.call =
      ((j.run c perform actions).marks.map Mark.call).reverse := by
  induction actions generalizing j with
  | nil => exact h
  | cons action rest ih => exact ih (calls_act h perform action)

namespace Sound

/-- From the first call of its section until it leaves, a task is inside. -/
theorem held_or_leaving (h : j.Sound c) {t : Task} (ht : t ∈ j.agent.tasks)
    (hmade : j.sectionOf t.ticket ≠ []) :
    (∃ r, t.stage = .leaving r) ∨ ∃ name, j.requested? t.ticket = some name ∧
      j.agent.gate.heldName? t.ticket = some name := by
  obtain ⟨command, hcommand, hfits⟩ := h.fits t.ticket t (h.task?_of_mem ht)
  have hinside : command.Placed (j.agent.gate.standing? t.ticket) .inside →
      ∃ name, j.requested? t.ticket = some name ∧
        j.agent.gate.heldName? t.ticket = some name := by
    rintro ⟨name, op, htarget, hstanding⟩
    exact ⟨name, by simp [requested?, hcommand, htarget], Gate.heldName?_of_standing? hstanding⟩
  cases hstage : t.stage with
  | running p =>
    simp only [hstage, Command.Fits, hmade, false_and, and_false, false_or] at hfits
    exact .inr (hinside hfits.1)
  | calling call isHeld next =>
    simp only [hstage, Command.Fits, hmade, false_and, and_false, false_or] at hfits
    exact .inr (hinside hfits.1)
  | entering next =>
    simp only [hstage, Command.Fits, hmade, false_and] at hfits
  | leaving r => exact .inl ⟨r, rfl⟩

/-- Never more sections of a class are open than the class has slots. -/
theorem openSections_le (h : j.Sound c) {op : Operation} {total : Nat}
    (hop : Gate.bound? c.admission op = some total) : (j.openSections op).length ≤ total := by
  rw [← List.length_map (f := Task.ticket)]
  refine h.gate.length_le hop ((List.filter_sublist.map _).nodup h.tickets_nodup) fun n hn => ?_
  obtain ⟨t, ht, rfl⟩ := List.mem_map.1 hn
  obtain ⟨hmem, hopen⟩ := List.mem_filter.1 ht
  simp only [Bool.and_eq_true, decide_eq_true_eq, Bool.not_eq_true', List.isEmpty_eq_false_iff]
    at hopen
  obtain ⟨command, hcommand, hfits⟩ := h.fits t.ticket t (h.task?_of_mem hmem)
  have hplaced : ∀ phase, phase ≠ .outside →
      command.Placed (j.agent.gate.standing? t.ticket) phase →
        ∃ s, j.agent.gate.standing? t.ticket = some s ∧ s.op = op ∧ s.phase ≠ .outside := by
    rintro phase hphase ⟨name, op', htarget, hstanding⟩
    have hclass : op' = op := by simpa [class?, hcommand, htarget] using hopen.1
    exact ⟨_, hstanding, hclass, hphase⟩
  cases hstage : t.stage with
  | running p =>
    simp only [hstage, Command.Fits, hopen.2, false_and, and_false, false_or] at hfits
    exact hplaced .inside (by simp) hfits.1
  | calling call isHeld next =>
    simp only [hstage, Command.Fits, hopen.2, false_and, and_false, false_or] at hfits
    exact hplaced .inside (by simp) hfits.1
  | entering next =>
    simp only [hstage, Command.Fits, hopen.2, false_and] at hfits
  | leaving r =>
    simp only [hstage, Command.Fits] at hfits
    exact hplaced .leaving (by simp) hfits

/-- When all commands have been answered, all slots are free and no name has a lock. -/
theorem at_rest (h : j.Sound c) (hanswered : j.agent.responses.length = j.commands.length) :
    j.agent.gate.available .mount = some (Gate.slotsFor c.admission.mount) ∧
      j.agent.gate.available .unmount = some (Gate.slotsFor c.admission.unmount) ∧
      j.agent.gate.trackedNames = 0 := by
  refine h.gate.at_rest (Gate.tickets_eq_nil_iff.2 fun n => h.known n ?_)
  rw [task?, h.tasks_eq_nil hanswered, List.find?_nil]

end Sound

/-- Critical sections are serial and always closed. However commands are given to an agent and its
tasks take turns, and whatever every call and every other effect answers: every critical call is made
while the gate is held under the name that its command asks for, and the gate is held on until the
task begins to leave; the critical calls of a name are whole sections, one behind the other, of which
the last one only can still be open; no more sections of a bounded class are open at once than the
class has slots; and once all commands are answered, all slots are free and no name has a lock. -/
theorem run_sections {g : Gate} (hg : Gate.ofConfig c.admission = .ok g) (perform : Perform World)
    (w : World) (actions : List Action) :
    let j := (begin g w).run c perform actions
    j.agent.calls.map CallRecord.call = (j.marks.map Mark.call).reverse ∧
      (∀ m ∈ j.marks, m.isCritical = true → ∃ name,
        j.requested? m.ticket = some name ∧ m.held = some name) ∧
      (∀ t ∈ j.agent.tasks, j.sectionOf t.ticket ≠ [] → (∃ r, t.stage = .leaving r) ∨
        ∃ name, j.requested? t.ticket = some name ∧
          j.agent.gate.heldName? t.ticket = some name) ∧
      (∀ name, ∃ order, j.Serial name order) ∧
      (j.openSections .mount).length ≤ max 1 c.admission.mount.toNat ∧
      (j.openSections .unmount).length ≤ max 1 c.admission.unmount.toNat ∧
      (j.agent.responses.length = j.commands.length →
        j.agent.gate.available .mount = some (max 1 c.admission.mount.toNat) ∧
          j.agent.gate.available .unmount = some (max 1 c.admission.unmount.toNat) ∧
          j.agent.gate.trackedNames = 0) := by
  have h := (sound_begin hg w).run perform actions
  simp only [Nat.max_comm 1]
  exact ⟨calls_run rfl perform actions, h.held, fun t ht => h.held_or_leaving ht, h.serial,
    h.openSections_le rfl, h.openSections_le rfl, h.at_rest⟩

def refuse : Perform Unit := fun w e =>
  match e with
  | .call _ => (.error (.notFound "volume"), w)
  | .describeHost => (.ok default, w)
  | .now => ((0 : Nat), w)
  | .sleep _ => ((), w)
  | .removeDirectory _ => (.ok (), w)

/-- A remove of a volume comes to the gate while an unmount of it is inside. -/
def overlap : List Action :=
  [.start "a" [] default (.unmount { name := "v" }), .start "b" [] default (.remove ⟨"v"⟩)] ++
    [0, 0, 0, 0, 0, 0, 1, 1, 0, 1, 1, 1, 0, 1, 0, 1, 1, 0, 1, 1, 1, 1, 1, 1].map .step

/-- Two commands that take turns, for one name. -/
theorem run_sections_overlap :
    let g : Gate := ⟨⟨30, []⟩, ⟨30, []⟩, .empty, [], []⟩
    let j := (begin g ()).run {} refuse overlap
    Gate.ofConfig ({} : Config).admission = .ok g ∧ (j.log "v").map Mark.ticket = [0, 1] ∧
      (∃ order, j.Serial "v" order) ∧ j.agent.gate.trackedNames = 0 := by
  refine ⟨rfl, rfl, ?_⟩
  obtain ⟨-, -, -, hserial, -, -, hrest⟩ := run_sections (c := {})
    (g := ⟨⟨30, []⟩, ⟨30, []⟩, .empty, [], []⟩) rfl refuse () overlap
  exact ⟨hserial "v", (hrest rfl).2.2⟩

end VolumeLifecycle.Agent.Journal
