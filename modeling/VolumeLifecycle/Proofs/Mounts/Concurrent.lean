import VolumeLifecycle.Proofs.Mounts.Memory
import VolumeLifecycle.Proofs.Mounts.Steps

namespace VolumeLifecycle

/-- Whether the agent is given no command but a well-formed mount of the volume. -/
def Agent.Action.IsMountOf (s : Scene) : Agent.Action → Prop
  | .start _ _ _ command => command.IsMountOf s
  | _ => True

namespace Ledger

open Scene (Phase)
open Agent (Action Journal)

variable {World : Type} {site : Site World} {perform : Agent.Perform World} {s : Scene}
  {l : Ledger World}

/-- What holds of mounts of one volume between any two steps. -/
structure Settling (site : Site World) (s : Scene) (l : Ledger World) : Prop where
  sound : l.journal.Sound s.config
  commands : ∀ command ∈ l.journal.commands, command.IsMountOf s
  good : l.IsDisturbed ∨ ∃ phase stance, l.Good site s phase stance

theorem good_begin (gate : Gate) {w : World} (hfresh : site.IsFresh w) :
    (begin gate w).Good site s .fresh fun _ => .asking where
  world := hfresh.at
  board := .start
  obeys _ _ ht := by cases ht
  gone _ _ := .inl rfl
  unborn _ _ := rfl
  inside _ hinside := by cases hinside
  answered _ hx := by cases hx
  calm _ hr := by cases hr

theorem settling_begin {g : Gate} (hg : Gate.ofConfig s.config.admission = .ok g) {w : World}
    (hfresh : site.IsFresh w) : (begin g w).Settling site s where
  sound := Journal.sound_begin hg w
  commands _ hcommand := by cases hcommand
  good := .inr ⟨_, _, good_begin g hfresh⟩

namespace Settling

theorem act (h : l.Settling site s) (hserves : site.Serves perform s) {action : Action}
    (haction : action.IsMountOf s) : (l.act s.config perform action).Settling site s := by
  refine ⟨h.sound.act perform action, fun command hcommand => ?_, ?_⟩
  · cases action with
    | start id holds host given =>
      rcases List.mem_append.1 hcommand with hold | hnew
      · exact h.commands command hold
      · rw [List.mem_singleton.1 hnew]
        exact haction
    | _ => exact h.commands command hcommand
  · rcases h.good with hdisturbed | ⟨phase, stance, hgood⟩
    · exact .inl (hdisturbed.act perform action)
    · cases action with
      | start id holds host given =>
        exact .inr ⟨phase, stance, hgood.start h.sound perform id holds host haction⟩
      | resume id => exact .inr ⟨phase, stance, hgood.resume h.sound perform id⟩
      | step n => exact hgood.step hserves h.sound h.commands n

theorem run (h : l.Settling site s) (hserves : site.Serves perform s) {actions : List Action}
    (hactions : ∀ action ∈ actions, action.IsMountOf s) :
    (l.run s.config perform actions).Settling site s := by
  induction actions generalizing l with
  | nil => exact h
  | cons action rest ih =>
    exact ih (h.act hserves (hactions action List.mem_cons_self)) fun a ha =>
      hactions a (List.mem_cons_of_mem _ ha)

end Settling

namespace Good

variable {phase : Phase} {stance : Nat → Stance}

theorem attaches_le (h : l.Good site s phase stance) : l.attaches ≤ 1 := by
  by_cases hdone : phase = .shared ∨ ∃ n, stance n = .mounting
  · exact Nat.le_of_eq (h.board.once hdone)
  · rw [h.board.never (fun hshared => hdone (.inl hshared)) fun n hn => hdone (.inr ⟨n, hn⟩)]
    exact Nat.zero_le 1

/-- Once all commands have been answered, no mount has been overtaken. -/
theorem not_isOvertaken (h : l.Good site s phase stance) (hsound : l.journal.Sound s.config)
    (hanswered : l.agent.responses.length = l.journal.commands.length) (n : Nat) :
    ¬ l.IsOvertaken n := by
  rintro ⟨htold, hfound⟩
  have hnobody : l.agent.tasks = [] := hsound.tasks_eq_nil hanswered
  have hnone : l.agent.task? n = none := by
    rw [Agent.task?, hnobody, List.find?_nil]
  have hseen := h.board.seen n
  rcases h.gone n hnone with hstance | hstance
  · rw [hstance] at hseen
    rw [hseen.1] at htold
    cases htold
  · rw [hstance] at hseen
    obtain ⟨b, a, hb, ha, hba⟩ := hseen
    rw [htold] at hb
    rw [hfound] at ha
    cases hb
    cases ha
    cases hba rfl

/-- Once a mount has been answered, the volume has been attached. -/
theorem attaches_eq (h : l.Good site s phase stance) {x : String × Response}
    (hx : x ∈ l.agent.responses) : l.attaches = 1 :=
  h.board.once (.inl (h.answered x hx).2)

end Good

/-- Concurrent mounts of one fresh volume, under one name and on one agent, do not disturb each
other unless one of them is overtaken. However they are given and take turns, among collaborators that
serve every call and never fail: as long as no mount has been overtaken, the volume is attached at most
once, no entry is unmounted, and every answer is a success with the same mountpoint. Once all have been
answered, the volume has been attached exactly once, no entry has been unmounted and all answers are
successes if and only if no mount was overtaken, that is, if for every mount the provider had served a
mount when it was told of the volume, or no attach had been served when it then saw the mount table. -/
theorem run_undisturbed_iff {g : Gate} (hg : Gate.ofConfig s.config.admission = .ok g)
    (hserves : site.Serves perform s) {w : World} (hfresh : site.IsFresh w) {actions : List Action}
    (hactions : ∀ action ∈ actions, action.IsMountOf s) :
    let l := (begin g w).run s.config perform actions
    ((∀ n, ¬ l.IsOvertaken n) → l.attaches ≤ 1 ∧
        (∀ r ∈ l.agent.calls, r.call.kind ≠ .unmountFileSystem) ∧
        ∀ x ∈ l.agent.responses, x.2 = s.success) ∧
      (l.journal.commands ≠ [] → l.agent.responses.length = l.journal.commands.length →
        ((l.attaches = 1 ∧ (∀ r ∈ l.agent.calls, r.call.kind ≠ .unmountFileSystem) ∧
          ∀ x ∈ l.agent.responses, x.2 = s.success) ↔ ∀ n, ¬ l.IsOvertaken n)) := by
  intro l
  have h : l.Settling site s := (settling_begin hg hfresh).run hserves hactions
  rcases h.good with ⟨⟨r, hr, hkind⟩, n, hovertaken⟩ | ⟨phase, stance, hgood⟩
  · refine ⟨fun hnone => absurd hovertaken (hnone n), fun _ _ => ⟨?_, fun hnone => ?_⟩⟩
    · rintro ⟨-, hcalm, -⟩
      exact absurd hkind (hcalm r hr)
    · exact absurd hovertaken (hnone n)
  · have hsuccess : ∀ x ∈ l.agent.responses, x.2 = s.success := fun x hx => (hgood.answered x hx).1
    refine ⟨fun _ => ⟨hgood.attaches_le, hgood.calm, hsuccess⟩, fun hsome hanswered => ?_⟩
    have hne : l.agent.responses ≠ [] := by
      intro hnil
      rw [hnil] at hanswered
      exact hsome (List.length_eq_zero_iff.1 hanswered.symm)
    obtain ⟨x, hx⟩ := List.exists_mem_of_ne_nil _ hne
    exact ⟨fun _ => hgood.not_isOvertaken h.sound hanswered,
      fun _ => ⟨hgood.attaches_eq hx, hgood.calm, hsuccess⟩⟩

/-- A node and a volume that it does not use. -/
def meeting : Scene where
  config := {}
  name := "v"
  volume := "v"
  serial := "serial-v"
  host := { uuid := "node", initiators := [⟨"iscsi", ["iqn.node"]⟩] }

def unused : Testbed where
  host := meeting.host
  store.volumes := Dict.empty.insert "v" { name := "v", serialNumber := "serial-v" }
  files := ⟨[], []⟩

def turns (tickets : List Nat) : List Action :=
  [.start "a" [] default (.mount { name := "v" }), .start "b" [] default (.mount { name := "v" })] ++
    tickets.map .step

def idle : Ledger Testbed :=
  begin ⟨⟨30, []⟩, ⟨30, []⟩, .empty, [], []⟩ unused

theorem isMountOf_turns (tickets : List Nat) :
    ∀ action ∈ turns tickets, action.IsMountOf meeting := by
  have hmount : (Command.mount { name := "v" }).IsMountOf meeting :=
    ⟨_, rfl, rfl, rfl, _, rfl, fun h => by cases h⟩
  intro action haction
  rcases List.mem_append.1 haction with hstart | hstep
  · rcases List.mem_cons.1 hstart with rfl | hstart
    · exact hmount
    · rw [List.mem_singleton.1 hstart]
      exact hmount
  · obtain ⟨n, -, rfl⟩ := List.mem_map.1 hstep
    trivial

/-- The volume at the meeting is fresh. -/
theorem isFresh_unused : (Testbed.site meeting).IsFresh unused where
  sound := ⟨rfl, fun _ => rfl, fun _ => rfl, _, rfl, rfl, rfl⟩
  inUse := rfl
  mounts := rfl

/-- The surroundings at the meeting serve its mounts. -/
theorem serves_meeting : (Testbed.site meeting).Serves Testbed.perform meeting := by
  have hfirst : meeting.host.initiatorsFor "iscsi" = ["iqn.node"] := by decide +kernel
  exact Testbed.serves rfl hfirst (by decide)

/-- Two mounts that take turns at every step do not disturb each other. -/
theorem run_undisturbed_iff_alternating :
    let l := idle.run meeting.config Testbed.perform (turns ((List.replicate 40 [0, 1]).flatten))
    (∀ n, ¬ l.IsOvertaken n) ∧ l.agent.responses.length = 2 ∧ l.attaches = 1 ∧
      (∀ r ∈ l.agent.calls, r.call.kind ≠ .unmountFileSystem) ∧
      ∀ x ∈ l.agent.responses, x.2 = meeting.success := by
  intro l
  have hserved : ∀ e ∈ l.served, ¬ l.IsOvertaken e.ticket := by decide +kernel
  have hnone : ∀ n, ¬ l.IsOvertaken n := fun n h => by
    obtain ⟨e, he, rfl⟩ := h.exists_served
    exact hserved e he h
  have hcommands : l.journal.commands.length = 2 := by decide +kernel
  have hresponses : l.agent.responses.length = 2 := by decide +kernel
  have hsome : l.journal.commands ≠ [] := List.ne_nil_of_length_eq_add_one hcommands
  obtain ⟨-, hiff⟩ := run_undisturbed_iff rfl serves_meeting isFresh_unused (isMountOf_turns _)
  exact ⟨hnone, hresponses, (hiff hsome (hresponses.trans hcommands.symm)).2 hnone⟩

/-- A mount is told of the volume. Another one mounts the volume and is answered. The first mount then
takes what it finds for stale: it unmounts it, and the volume is attached once more. -/
theorem overtaken_unmounts :
    let l := idle.run meeting.config Testbed.perform
      (turns (List.replicate 3 0 ++ List.replicate 21 1 ++ List.replicate 25 0))
    (Testbed.site meeting).Serves Testbed.perform meeting ∧ (Testbed.site meeting).IsFresh unused ∧
      l.agent.responses.length = l.journal.commands.length ∧ l.IsOvertaken 0 ∧ l.attaches = 2 ∧
      ∃ r ∈ l.agent.calls, r.call.kind = .unmountFileSystem :=
  ⟨serves_meeting, isFresh_unused, by decide +kernel, by decide +kernel, by decide +kernel,
    by decide +kernel⟩

end Ledger
end VolumeLifecycle
