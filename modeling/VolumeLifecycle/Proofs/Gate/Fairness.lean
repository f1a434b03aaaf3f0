import VolumeLifecycle.Proofs.Gate.LockLine
import VolumeLifecycle.Proofs.Gate.Onward
import VolumeLifecycle.Proofs.Gate.SlotLine

namespace VolumeLifecycle.Gate

variable {g : Gate} {op : Operation} {name : String} {a b : Nat} {e : Event}

theorem slotPlace_of_ticket? {id : Nat} {stage : Stage} {n : String}
    (ht : g.ticket? id = some ⟨id, n, op, stage⟩) :
    (slotLine op).placeOf g id = stage.slotPlace := by
  rw [Line.placeOf_of_ticket? ht]
  exact if_pos rfl

theorem lockPlace_of_ticket? {id : Nat} {stage : Stage} {o : Operation}
    (ht : g.ticket? id = some ⟨id, name, o, stage⟩) :
    (lockLine name).placeOf g id = stage.lockPlace := by
  rw [Line.placeOf_of_ticket? ht]
  exact if_pos rfl

/-- Whoever seeks a slot has not come for the lock. -/
theorem exists_ticket_of_seeks_slot (h : (slotLine op).Seeks g b) :
    ∃ t, g.ticket? b = some t ∧ (t.stage = .arriving ∨ t.stage = .queued) := by
  rcases h with hcoming | hwaiting
  · obtain ⟨t, ht, hplace⟩ := Line.exists_of_placeOf hcoming (by simp)
    exact ⟨t, ht, .inl (SlotLine.place_eq_coming hplace).2⟩
  · obtain ⟨t, ht, -, hstage⟩ := exists_ticket_of_queued? (SlotLine.placeOf_eq_waiting_iff.1 hwaiting)
    exact ⟨t, ht, .inr hstage⟩

theorem lockPlace_of_seeks_slot (h : (slotLine op).Seeks g b) :
    (lockLine name).placeOf g b = .apart := by
  obtain ⟨t, ht, hstage⟩ := exists_ticket_of_seeks_slot h
  rw [Line.placeOf_of_ticket? ht]
  rcases hstage with hstage | hstage <;> simp [lockLine, hstage, Stage.lockPlace]

/-- While a ticket is between the two lines, nobody else gets a slot. -/
theorem not_has_slot_of_admitted (h : g.Poised) (he : g.Allows e) {t : Ticket}
    (ha : g.ticket? a = some t) (hadmitted : t.stage = .admitted) (hne : a ≠ b)
    (hseeks : (slotLine op).Seeks g b) : ¬ (slotLine op).Has (g.apply e) b := by
  have hmoving : t.stage.isMoving = true := by rw [hadmitted]; rfl
  rcases he with ⟨id, rfl⟩ | hcalm
  · intro hhas
    change (slotLine op).Has (g.advance id) b at hhas
    by_cases hb : b = id
    · subst hb
      obtain ⟨u, hu, harriving | hqueued⟩ := exists_ticket_of_seeks_slot hseeks
      · obtain ⟨mover, hmover⟩ := h.one_moves
        refine hne ((hmover a t ha hmoving).trans (hmover b u hu ?_).symm)
        rw [harriving]
        rfl
      · have hsame : g.advance b = g := advance_eq_self fun v hv => by
          obtain rfl := Option.some.inj (hu.symm.trans hv)
          simp [hqueued, Stage.stepsLeft]
        exact hseeks.not_has (hsame ▸ hhas)
    · rw [Line.Has, Line.placeOf_of_same_ticket? (h.sound.ticket?_advance_of_ne hb)] at hhas
      exact hseeks.not_has hhas
  · rw [hcalm a t ha] at hmoving
    cases hmoving

/-- Whoever has come for the lock does not turn back. -/
theorem Stage.Becomes.lockPlace_ne {j : Nat} {before after : Stage} (h : before.Becomes e j after)
    (hplace : before.lockPlace ≠ .apart) : after.lockPlace ≠ .apart := by
  cases h with
  | advances _ hadvances => cases hadvances <;> simp_all [Stage.lockPlace]
  | stays => exact hplace
  | passes _ hpasses => cases hpasses <;> simp_all [Stage.lockPlace]

namespace Passage

/-- Whether a ticket of a class and a name has come and not passed. -/
def Seeks (op : Operation) (name : String) (g : Gate) (id : Nat) : Prop :=
  ∃ stage, stage.isPending = true ∧ g.ticket? id = some ⟨id, name, op, stage⟩

def Has (op : Operation) (name : String) (g : Gate) (id : Nat) : Prop :=
  ∃ stage, stage.isPending = false ∧ g.ticket? id = some ⟨id, name, op, stage⟩

/-- Whether a ticket has not overtaken another one: not in the line for a slot, and it has got its own
only if the other one is ahead in the line for the lock or has been handed the lock. -/
structure Behind (op : Operation) (name : String) (g : Gate) (a b : Nat) : Prop where
  slot : (slotLine op).Seeks g a → (slotLine op).Ahead g a b
  lock : (slotLine op).Has g b → (lockLine name).Ahead g a b ∨ (lockLine name).Has g a

namespace Behind

/-- A ticket that is not there yet is behind everybody. -/
theorem of_none (hnone : g.ticket? b = none) : Behind op name g a b := by
  have hapart : (slotLine op).placeOf g b = .apart := Line.placeOf_of_none hnone
  refine ⟨fun hseeks => .begin hseeks ?_ ?_, fun hhas => ?_⟩
  · simp [Line.Seeks, hapart]
  · simp [Line.Has, hapart]
  · simp [Line.Has, hapart] at hhas

/-- Whoever is behind and gets a slot is behind in the line for the lock, too. -/
theorem of_slot (h : g.Poised) (he : g.Allows e) (ha : Seeks op name g a) (hne : a ≠ b)
    (hbehind : Behind op name g a b) (hslot : (slotLine op).Has (g.apply e) b) :
    (lockLine name).Ahead g a b ∨ (lockLine name).Has g a := by
  by_cases hbefore : (slotLine op).Has g b
  · exact hbehind.lock hbefore
  have hkept : (slotLine op).Kept g := SlotLine.kept h
  have hstep : (slotLine op).Step g (g.apply e) := SlotLine.step h he
  have hseeks := hstep.seeks_of_has hkept hbefore hslot
  have hapart : (lockLine name).placeOf g b = .apart := lockPlace_of_seeks_slot hseeks
  have hahead : (lockLine name).Seeks g a → (lockLine name).Ahead g a b := fun ha' =>
    .begin ha' (by simp [Line.Seeks, hapart]) (by simp [Line.Has, hapart])
  have hwaits : ¬ (slotLine op).Seeks g a := fun ha' =>
    ((hbehind.slot ha').step hkept hstep).1 hslot
  obtain ⟨stage, hpending, ht⟩ := ha
  rw [Line.Seeks, slotPlace_of_ticket? ht] at hwaits
  cases stage with
  | arriving => exact absurd (.inl rfl) hwaits
  | queued => exact absurd (.inr rfl) hwaits
  | admitted => exact absurd hslot (not_has_slot_of_admitted h he ht rfl hne hseeks)
  | located l => exact .inl (hahead (.inl (lockPlace_of_ticket? ht)))
  | blocked l => exact .inl (hahead (.inr (lockPlace_of_ticket? ht)))
  | granted l => exact .inr (lockPlace_of_ticket? ht)
  | holding l => cases hpending
  | leaving => cases hpending

/-- Nobody takes a lock inside that has been handed to somebody else. -/
theorem not_has_of_handed (hsound : g.Sound none) (ha : Seeks op name g a)
    (hhanded : (lockLine name).Has g a) (hne : a ≠ b) (hb : ¬ Has op name g b) :
    ¬ Has op name (g.apply e) b := by
  rintro ⟨after, hpassed, hticket⟩
  rcases hsound.exists_becomes hticket with ⟨-, harriving⟩ | ⟨before, hbefore, hbecomes⟩
  · dsimp only at harriving
    rw [harriving] at hpassed
    cases hpassed
  have hpending : before.isPending = true := by
    by_contra hnot
    exact hb ⟨before, by simpa using hnot, hbefore⟩
  cases hbecomes with
  | advances he hadvances =>
    subst he
    obtain ⟨l, hl⟩ := hadvances.exists_owned hpending hpassed
    obtain ⟨stage, hseeks, ht⟩ := ha
    rw [Line.Has, lockPlace_of_ticket? ht] at hhanded
    cases stage with
    | granted m =>
      have hsame := hsound.ticket?_advance_of_ne hne
      have hown := (hsound.advance b).owner_unique (mem_of_ticket? (hsame.trans ht))
        (mem_of_ticket? hticket) rfl rfl hl
      exact hne (congrArg Ticket.id hown)
    | holding m => cases hseeks
    | leaving => cases hseeks
    | _ => cases hhanded
  | stays =>
    rw [hpending] at hpassed
    cases hpassed
  | passes _ hpasses =>
    rw [hpasses.isPending hpending] at hpassed
    cases hpassed

/-- Whoever is behind does not pass in the next step. -/
theorem not_has (h : g.Poised) (he : g.Allows e) (ha : Seeks op name g a) (hne : a ≠ b)
    (hbehind : Behind op name g a b) (hb : ¬ Has op name g b) : ¬ Has op name (g.apply e) b := by
  intro hhas
  obtain ⟨stage, hpassed, ht⟩ := hhas
  have hslot : (slotLine op).Has (g.apply e) b := by
    rw [Line.Has, slotPlace_of_ticket? ht]
    cases stage <;> first | rfl | cases hpassed
  have hlock : (lockLine name).Has (g.apply e) b := by
    rw [Line.Has, lockPlace_of_ticket? ht]
    cases stage <;> first | rfl | cases hpassed
  rcases hbehind.of_slot h he ha hne hslot with hahead | hhanded
  · exact (hahead.step (LockLine.kept h.sound) (LockLine.step h e)).1 hlock
  · exact not_has_of_handed h.sound ha hhanded hne hb ⟨stage, hpassed, ht⟩

/-- Whoever is behind stays behind as long as the other one seeks to pass. -/
theorem step (h : g.Poised) (he : g.Allows e) (ha : Seeks op name g a) (hne : a ≠ b)
    (hbehind : Behind op name g a b) (ha' : Seeks op name (g.apply e) a) :
    Behind op name (g.apply e) a b := by
  have hslots : (slotLine op).Kept g := SlotLine.kept h
  have hslotStep : (slotLine op).Step g (g.apply e) := SlotLine.step h he
  have hlocks : (lockLine name).Kept g := LockLine.kept h.sound
  have hlockStep : (lockLine name).Step g (g.apply e) := LockLine.step h e
  obtain ⟨before, -, ht⟩ := id ha
  obtain ⟨after, -, ht'⟩ := ha'
  refine ⟨fun hseeks => ?_, fun hslot => ?_⟩
  · have hclass : (slotLine op).placeOf g a ≠ .apart := by
      rw [slotPlace_of_ticket? ht]
      cases before <;> simp [Stage.slotPlace]
    have hbefore := (Line.seeks_or_has hclass).resolve_right fun hhas =>
      hslotStep.not_seeks_of_has hslots hhas hseeks
    exact ((hbehind.slot hbefore).step hslots hslotStep).2 hseeks
  · have hahead := hbehind.of_slot h he ha hne hslot
    have hcame : (lockLine name).placeOf g a ≠ .apart := by
      rcases hahead with hahead | hhanded
      · rcases hahead.2 with ⟨hplace, -⟩ | ⟨hplace, -⟩ <;> simp [hplace]
      · rw [hhanded]
        simp
    have hstays : (lockLine name).placeOf (g.apply e) a ≠ .apart := by
      rcases h.sound.exists_becomes ht' with ⟨hnone, -⟩ | ⟨_, hbefore, hbecomes⟩
      · rw [ht] at hnone
        cases hnone
      · rw [lockPlace_of_ticket? hbefore] at hcame
        rw [lockPlace_of_ticket? ht']
        exact hbecomes.lockPlace_ne hcame
    refine (Line.seeks_or_has hstays).imp_left fun hseeks => ?_
    have hseen := hahead.resolve_right fun hhanded =>
      hlockStep.not_seeks_of_has hlocks hhanded hseeks
    exact (hseen.step hlocks hlockStep).2 hseeks

end Behind

/-- Whether one seeks to pass what the other one has not passed, who is behind unless his ticket is of
another class or for another name. -/
structure Ahead (op : Operation) (name : String) (g : Gate) (a b : Nat) : Prop where
  seeks : Seeks op name g a
  ne : a ≠ b
  not_has : ¬ Has op name g b
  behind : (∀ t, g.ticket? b = some t → t.name = name ∧ t.op = op) → Behind op name g a b

namespace Ahead

theorem begin (ha : Seeks op name g a) (hb : ¬ Seeks op name g b) (hb' : ¬ Has op name g b) :
    Ahead op name g a b := by
  refine ⟨ha, fun hab => hb (hab ▸ ha), hb', fun hall => .of_none ?_⟩
  cases ht : g.ticket? b with
  | none => rfl
  | some t =>
    obtain ⟨num, n, o, stage⟩ := t
    obtain ⟨rfl, rfl⟩ := hall _ ht
    obtain rfl : num = b := id_of_ticket? ht
    cases hstage : stage.isPending with
    | true => exact absurd ⟨stage, hstage, ht⟩ hb
    | false => exact absurd ⟨stage, hstage, ht⟩ hb'

theorem step (h : g.Poised) (he : g.Allows e) (hahead : Ahead op name g a b) :
    ¬ Has op name (g.apply e) b ∧
      (Seeks op name (g.apply e) a → Ahead op name (g.apply e) a b) := by
  cases hb : (g.apply e).ticket? b with
  | none =>
    have hnot : ¬ Has op name (g.apply e) b := by
      rintro ⟨stage, -, ht⟩
      rw [hb] at ht
      cases ht
    exact ⟨hnot, fun hseeks => ⟨hseeks, hahead.ne, hnot, fun _ => .of_none hb⟩⟩
  | some u =>
    by_cases hown : u.name = name ∧ u.op = op
    · have hbehind : Behind op name g a b := by
        refine hahead.behind fun t ht => ?_
        rcases h.sound.exists_becomes hb with ⟨hnone, -⟩ | ⟨before, hbefore, -⟩
        · rw [hnone] at ht
          cases ht
        · obtain rfl := Option.some.inj (hbefore.symm.trans ht)
          exact hown
      have hnot := hbehind.not_has h he hahead.seeks hahead.ne hahead.not_has
      exact ⟨hnot, fun hseeks => ⟨hseeks, hahead.ne, hnot,
        fun _ => hbehind.step h he hahead.seeks hahead.ne hseeks⟩⟩
    · have hnot : ¬ Has op name (g.apply e) b := by
        rintro ⟨stage, -, ht⟩
        rw [hb] at ht
        cases ht
        exact hown ⟨rfl, rfl⟩
      exact ⟨hnot, fun hseeks => ⟨hseeks, hahead.ne, hnot,
        fun hall => absurd (hall u hb) hown⟩⟩

end Ahead
end Passage

/-- Where pending tickets are polled after every move until nothing moves any more, the slots of a class
and the lock of a name are given to those who seek them in the order in which they come for them, and
tickets of one class and one name pass in the order in which they come. It is enough to poll those who
are pending once after a move, in the order in which they came. -/
theorem served_in_turn {c : Config.Admission} (hg : ofConfig c = .ok g) {moves : List Move}
    (h : Attended g moves) :
    (∀ m, Attended g (moves ++ m :: (g.play (moves ++ [m])).pending.map .poll)) ∧
      (∀ op, InTurn (slotLine op).Seeks (slotLine op).Has g (moves.flatMap Move.events)) ∧
      (∀ name, InTurn (lockLine name).Seeks (lockLine name).Has g (moves.flatMap Move.events)) ∧
      ∀ op name,
        InTurn (Passage.Seeks op name) (Passage.Has op name) g (moves.flatMap Move.events) := by
  have hsound := sound_of_ofConfig hg
  have horderly := (h.orderly hsound (Settled.of_ofConfig hg).still.calm).1
  have hpoised : ∀ before after, moves.flatMap Move.events = before ++ after →
      (g.run before).Poised := by
    intro before after hevents
    exact poised_run hg (hevents ▸ horderly).of_append
  have htaken : ∀ k, (g.run ((moves.flatMap Move.events).take k)).Poised := fun k =>
    hpoised _ _ (List.take_append_drop k _).symm
  refine ⟨h.turn_pending hsound, fun op => ?_, fun name => ?_, fun op name => ?_⟩
  · exact Line.inTurn (fun k => SlotLine.kept (htaken k)) fun before e after hevents =>
      SlotLine.step (hpoised _ _ hevents) (horderly _ _ _ hevents)
  · exact Line.inTurn (fun k => LockLine.kept (htaken k).sound) fun before e after hevents =>
      LockLine.step (hpoised _ _ hevents) e
  · exact inTurn_of_step (Passage.Ahead op name) (fun k a b => .begin)
      (fun before e after hevents a b hahead =>
        hahead.step (hpoised _ _ hevents) (horderly _ _ _ hevents))
      fun g a b hahead => hahead.not_has

/-- Three come to mount one volume while somebody else works with it. The first is the only one with a
slot and waits for the lock; when it is given up, its slot goes to the second, who passes as soon as the
volume is free. -/
theorem served_in_turn_of_one_slot :
    let g : Gate := ⟨⟨1, []⟩, ⟨1, []⟩, .empty, [], []⟩
    let moves : List Move :=
      [.start 0 "v" .get, .poll 0, .start 1 "v" .mount, .poll 1, .start 2 "v" .mount, .poll 1, .poll 2,
        .start 3 "v" .mount, .poll 1, .poll 2, .poll 3, .cancel 1, .poll 2, .poll 3, .leave 0, .poll 2,
        .poll 3]
    ofConfig ⟨1, 1⟩ = .ok g ∧ Attended g moves ∧
      InTurn (Passage.Seeks .mount "v") (Passage.Has .mount "v") g (moves.flatMap Move.events) ∧
      Passage.Has .mount "v" (g.play moves) 2 ∧ Passage.Seeks .mount "v" (g.play moves) 3 := by
  intro g moves
  have hsound : g.Sound none := sound_of_ofConfig (c := ⟨1, 1⟩) rfl
  have hturn : ∀ {before : List Move} (m : Move) (ids : List Nat), Attended g before →
      (g.play (before ++ [m])).pending = ids → Attended g (before ++ m :: ids.map .poll) :=
    fun m ids h hids => hids ▸ h.turn_pending hsound m
  have hattended : Attended g moves := by
    have h₀ := hturn (.start 0 "v" .get) [0] .begin (by decide)
    have h₁ := hturn (.start 1 "v" .mount) [1] h₀ (by decide)
    have h₂ := hturn (.start 2 "v" .mount) [1, 2] h₁ (by decide)
    have h₃ := hturn (.start 3 "v" .mount) [1, 2, 3] h₂ (by decide)
    have h₄ := hturn (.cancel 1) [2, 3] h₃ (by decide)
    exact hturn (.leave 0) [2, 3] h₄ (by decide)
  have hturns := (served_in_turn (c := ⟨1, 1⟩) rfl hattended).2.2.2 .mount "v"
  exact ⟨rfl, hattended, hturns, ⟨.holding 0, rfl, by decide⟩, ⟨.queued, rfl, by decide⟩⟩

end VolumeLifecycle.Gate
