import VolumeLifecycle.Proofs.Agent.Sections

namespace VolumeLifecycle

open Gate (Standing Phase)
open Workflow (Tame)

namespace Command

/-- A command's ticket is at the gate as it was asked for, in a given phase. -/
def Placed (command : Command) (standing : Option Standing) (phase : Phase) : Prop :=
  ∃ name op, command.target? = some (name, op) ∧ standing = some ⟨name, op, phase⟩

/-- A task's stage fits its command, where its ticket stands, and what it has made of its section:
what is still to come obeys the gate from there on. -/
def Fits (command : Command) (standing : Option Standing) (made : List Agent.Mark) :
    Agent.Stage → Prop
  | .running p =>
    (standing = none ∧ made = [] ∧ p.Passes command.free Tame command.target?) ∨
      (command.Placed standing .inside ∧ p.Keeps Tame)
  | .calling _ _ next =>
    (standing = none ∧ made = [] ∧ ∀ r, (next r).Passes command.free Tame command.target?) ∨
      (command.Placed standing .inside ∧ ∀ r, (next r).Keeps Tame)
  | .entering next =>
    made = [] ∧ (command.Placed standing .outside ∨ command.Placed standing .inside) ∧
      next.Keeps Tame
  | .leaving _ => command.Placed standing .leaving

/-- The calls that a command may make outside of the gate do not open its section. -/
theorem opens_eq_false_of_free {command : Command} {c : Call} (h : command.free c) :
    command.opens c = false := by
  cases command <;> simp_all [free, opens]

end Command

namespace Agent.Journal

variable {World : Type}

/-- What holds of an agent and its journal between any two steps, as long as no task is dropped:
every task stands at the gate where its program supposes it to stand. -/
structure Sound (c : Config) (j : Journal World) : Prop where
  gate : j.agent.gate.Regular c.admission
  next_eq : j.agent.next = j.commands.length
  tickets_nodup : (j.agent.tasks.map Task.ticket).Nodup
  fits : ∀ n t, j.agent.task? n = some t → ∃ command, j.commands[n]? = some command ∧
    command.Fits (j.agent.gate.standing? n) (j.sectionOf n) t.stage
  known : ∀ n, j.agent.task? n = none → j.agent.gate.standing? n = none
  answered : j.agent.responses.length + j.agent.tasks.length = j.commands.length
  marked : ∀ m ∈ j.marks, m.ticket < j.commands.length
  held : ∀ m ∈ j.marks, m.isCritical = true → ∃ name,
    j.requested? m.ticket = some name ∧ m.held = some name
  serial : ∀ name, ∃ order, j.Serial name order

namespace Sound

variable {c : Config} {j : Journal World}

/-- A task that is there has a number that has been given out. -/
theorem lt_of_task? (h : j.Sound c) {n : Nat} {t : Task} (ht : j.agent.task? n = some t) :
    n < j.commands.length := by
  obtain ⟨command, hcommand, -⟩ := h.fits n t ht
  exact (List.getElem?_eq_some_iff.1 hcommand).1

/-- The number of the next task has not been given out. -/
theorem task?_next (h : j.Sound c) : j.agent.task? j.agent.next = none := by
  cases ht : j.agent.task? j.agent.next with
  | none => rfl
  | some t =>
    have hlt := h.lt_of_task? ht
    rw [h.next_eq] at hlt
    exact absurd hlt (Nat.lt_irrefl _)

/-- A task of a sound agent is found under its number. -/
theorem task?_of_mem (h : j.Sound c) {t : Task} (ht : t ∈ j.agent.tasks) :
    j.agent.task? t.ticket = some t :=
  Numbered.find?_of_mem Task.ticket h.tickets_nodup ht

/-- Once all commands have been answered, no task is left. -/
theorem tasks_eq_nil (h : j.Sound c)
    (hanswered : j.agent.responses.length = j.commands.length) : j.agent.tasks = [] := by
  have hall := h.answered
  refine List.length_eq_zero_iff.1 ?_
  omega

/-- One task, which is not leaving, moves to another stage, and its ticket may move with it. -/
theorem update (h : j.Sound c) {n : Nat} {t : Task} (ht : j.agent.task? n = some t)
    (hopen : ∀ r, t.stage ≠ .leaving r) {a : Agent World} {stage : Stage}
    (hnext : a.next = j.agent.next) (hresponses : a.responses = j.agent.responses)
    (htickets : a.tasks.map Task.ticket = j.agent.tasks.map Task.ticket)
    (htask : ∀ m, a.task? m = if m = n then some { t with stage } else j.agent.task? m)
    (hgate : a.gate.Regular c.admission)
    (hstanding : ∀ m, m ≠ n → a.gate.standing? m = j.agent.gate.standing? m)
    (hfits : ∀ command : Command,
      command.Fits (j.agent.gate.standing? n) (j.sectionOf n) t.stage →
        command.Fits (a.gate.standing? n) (j.sectionOf n) stage) :
    { j with agent := a }.Sound c where
  gate := hgate
  next_eq := hnext.trans h.next_eq
  tickets_nodup := htickets ▸ h.tickets_nodup
  fits m u hu := by
    rw [htask] at hu
    split at hu
    · next hm =>
      cases hu
      obtain ⟨command, hcommand, hold⟩ := h.fits n t ht
      exact ⟨command, hm ▸ hcommand, hm ▸ hfits command hold⟩
    · next hm =>
      rw [hstanding m hm]
      exact h.fits m u hu
  known m hm := by
    rw [htask] at hm
    split at hm
    · cases hm
    · next hne => exact (hstanding m hne).trans (h.known m hm)
  answered := by
    have hlength := congrArg List.length htickets
    rw [List.length_map, List.length_map] at hlength
    rw [hresponses, hlength]
    exact h.answered
  marked := h.marked
  held := h.held
  serial name := by
    obtain ⟨order, horder⟩ := h.serial name
    refine ⟨order, horder.of_same_sections (fun _ _ => rfl) (fun _ _ => rfl) rfl fun m _ hm => ?_⟩
    intro u hu
    rw [htask] at hu
    split at hu
    · next hmn =>
      obtain ⟨r, hr⟩ := hm t (hmn ▸ ht)
      exact absurd hr (hopen r)
    · exact hm u hu

/-- One task goes, and its ticket is not at the gate any more. -/
theorem finish (h : j.Sound c) {n : Nat} {t : Task} (ht : j.agent.task? n = some t) {gate : Gate}
    (hgate : gate.Regular c.admission)
    (hstanding : ∀ m, gate.standing? m = if m = n then none else j.agent.gate.standing? m)
    (r : Response) : { j with agent := { j.agent with gate }.finish t r }.Sound c := by
  obtain rfl := ticket_of_task? ht
  have htask : ∀ m, ({ j.agent with gate }.finish t r).task? m =
      if m = t.ticket then none else j.agent.task? m := task?_finish t r
  refine ⟨hgate, h.next_eq, ?_, fun m u hu => ?_, fun m hm => ?_, ?_, h.marked, h.held, ?_⟩
  · exact (List.filter_sublist.map Task.ticket).nodup h.tickets_nodup
  · rw [htask] at hu
    split at hu
    · cases hu
    · next hm =>
      have hsame : ({ j.agent with gate }.finish t r).gate.standing? m =
          j.agent.gate.standing? m := (hstanding m).trans (if_neg hm)
      rw [hsame]
      exact h.fits m u hu
  · refine (hstanding m).trans ?_
    rw [htask] at hm
    split at hm
    · next hm' => rw [if_pos hm']
    · next hm' => rw [if_neg hm', h.known m hm]
  · obtain ⟨ts, us, hsplit, hbefore, hafter⟩ :=
      Numbered.exists_eq_append Task.ticket h.tickets_nodup (mem_of_task? ht)
    have hleft : ({ j.agent with gate }.finish t r).tasks = ts ++ us := by
      simp only [Agent.finish, hsplit]
      exact Numbered.filter_remove Task.ticket hbefore hafter
    have hgiven : ({ j.agent with gate }.finish t r).responses.length =
        j.agent.responses.length + 1 := rfl
    have hanswered := h.answered
    dsimp only
    rw [hleft, hgiven]
    simp only [hsplit, List.length_cons, List.length_append] at hanswered ⊢
    omega
  · intro name
    obtain ⟨order, horder⟩ := h.serial name
    refine ⟨order, horder.of_same_sections (fun _ _ => rfl) (fun _ _ => rfl) rfl fun m _ hm => ?_⟩
    intro u hu
    rw [htask] at hu
    split at hu
    · cases hu
    · exact hm u hu

/-- While a task is inside under a name, all other sections of that name are closed: a task with a
section is inside until it leaves, and only one is inside. -/
theorem closed_of_inside (h : j.Sound c) {name : String} {op : Operation} {n : Nat}
    (hinside : j.agent.gate.standing? n = some ⟨name, op, .inside⟩) {order : List Nat}
    (horder : j.Serial name order) {k : Nat} (hk : k ∈ order) (hne : k ≠ n) :
    j.agent.Closed k := by
  intro u hu
  obtain ⟨command, hcommand, hfits⟩ := h.fits k u hu
  have hmade := horder.made k hk
  have hnotInside : ¬ command.Placed (j.agent.gate.standing? k) .inside := by
    rintro ⟨name', op', htarget, hinside'⟩
    obtain rfl : name' = name := by
      simpa [requested?, hcommand, htarget] using horder.requested k hk
    exact hne (h.gate.sound.inside_unique hinside' hinside)
  cases hstage : u.stage with
  | running p => simp_all [Command.Fits]
  | calling call isHeld next => simp_all [Command.Fits]
  | entering next => simp_all [Command.Fits]
  | leaving r => exact ⟨r, rfl⟩

/-- A critical call is made by a task that is inside under the name that its command asks for, so all
other sections of that name are closed. -/
theorem mark_critical (h : j.Sound c) {n : Nat} {t : Task} (ht : j.agent.task? n = some t)
    (hopen : ∀ r, t.stage ≠ .leaving r) {m : Mark} (hticket : m.ticket = n)
    (hcritical : m.isCritical = true) (hheld : m.held = j.agent.gate.heldName? n)
    (hfits : ∀ command : Command, j.commands[n]? = some command →
      command.Placed (j.agent.gate.standing? n) .inside ∧
        command.Fits (j.agent.gate.standing? n) (j.sectionOf n ++ [m]) t.stage) :
    { j with marks := j.marks ++ [m] }.Sound c := by
  subst hticket
  obtain ⟨command, hcommand, -⟩ := h.fits m.ticket t ht
  obtain ⟨⟨name, op, htarget, hinside⟩, hfit⟩ := hfits command hcommand
  have hname : j.requested? m.ticket = some name := by
    simp [requested?, hcommand, htarget]
  have hnotClosed : ¬ j.agent.Closed m.ticket := fun hclosed => by
    obtain ⟨r, hr⟩ := hclosed t ht
    exact hopen r hr
  refine ⟨h.gate, h.next_eq, h.tickets_nodup, fun k u hu => ?_, h.known, h.answered, ?_, ?_, ?_⟩
  · obtain ⟨command', hcommand', hfit'⟩ := h.fits k u hu
    refine ⟨command', hcommand', ?_⟩
    rw [sectionOf_append]
    split
    · next hk =>
      obtain rfl := hk.2
      obtain rfl : u = t := Option.some.inj (hu.symm.trans ht)
      obtain rfl : command' = command := Option.some.inj (hcommand'.symm.trans hcommand)
      exact hfit
    · rw [List.append_nil]
      exact hfit'
  · intro m' hm'
    rcases List.mem_append.1 hm' with hm' | hm'
    · exact h.marked m' hm'
    · rw [List.mem_singleton.1 hm']
      exact h.lt_of_task? ht
  · intro m' hm' hcritical'
    rcases List.mem_append.1 hm' with hm' | hm'
    · exact h.held m' hm' hcritical'
    · rw [List.mem_singleton.1 hm']
      exact ⟨name, hname, hheld.trans (Gate.heldName?_of_standing? hinside)⟩
  · intro name'
    obtain ⟨order, horder⟩ := h.serial name'
    by_cases heq : j.requested? m.ticket = some name'
    · obtain rfl : name = name' := Option.some.inj (hname.symm.trans heq)
      exact horder.append hcritical hname hnotClosed fun k hk hne =>
        h.closed_of_inside hinside horder hk hne
    · have hother : ∀ k ∈ order, m.ticket ≠ k := by
        rintro k hk rfl
        exact heq (horder.requested _ hk)
      refine ⟨order, horder.of_same_sections (fun _ _ => rfl) (fun k hk => ?_) ?_ fun _ _ hk => hk⟩
      · rw [sectionOf_append, if_neg (by simp [hother k hk]), List.append_nil]
      · rw [log_append, if_neg (by simp [heq]), List.append_nil]

/-- A call that is not critical leaves all sections as they are. -/
theorem mark_free (h : j.Sound c) {m : Mark} (hticket : m.ticket < j.commands.length)
    (hfree : m.isCritical = false) : { j with marks := j.marks ++ [m] }.Sound c := by
  have hsection : ∀ k, { j with marks := j.marks ++ [m] }.sectionOf k = j.sectionOf k := by
    intro k
    rw [sectionOf_append, if_neg (by simp [hfree]), List.append_nil]
  refine ⟨h.gate, h.next_eq, h.tickets_nodup, fun k u hu => ?_, h.known, h.answered, ?_, ?_, ?_⟩
  · rw [hsection]
    exact h.fits k u hu
  · intro m' hm'
    rcases List.mem_append.1 hm' with hm' | hm'
    · exact h.marked m' hm'
    · exact List.mem_singleton.1 hm' ▸ hticket
  · intro m' hm' hcritical
    rcases List.mem_append.1 hm' with hm' | hm'
    · exact h.held m' hm' hcritical
    · rw [List.mem_singleton.1 hm', hfree] at hcritical
      cases hcritical
  · intro name
    obtain ⟨order, horder⟩ := h.serial name
    refine ⟨order, horder.of_same_sections (fun _ _ => rfl) (fun k _ => hsection k) ?_ fun _ _ hk => hk⟩
    rw [log_append, if_neg (by simp [hfree]), List.append_nil]

end Sound
end Agent.Journal
end VolumeLifecycle
