import VolumeLifecycle.Proofs.Gate.Settling

namespace VolumeLifecycle.Gate

/-- Whether a step gives up a ticket that has been handed the lock of a name. -/
def GivesUp (g : Gate) (name : String) (e : Event) : Prop :=
  ∃ id t l, e = .cancel id ∧ g.ticket? id = some t ∧ t.name = name ∧ t.stage = .granted l

/-- Whether a step is that in which somebody who leaves sees to the entry of a name. -/
def SeesTo (g : Gate) (name : String) (e : Event) : Prop :=
  ∃ id t, e = .retire id ∧ g.ticket? id = some t ∧ t.name = name ∧ t.stage = .leaving

/-- Whether a ticket that had been handed the lock of a name was given up, and nobody has seen to the
entry since. -/
def Abandons (g : Gate) (events : List Event) (name : String) : Prop :=
  ∃ before e after, events = before ++ e :: after ∧ (g.run before).GivesUp name e ∧
    ∀ front e' back, after = front ++ e' :: back →
      ¬ (g.run (before ++ e :: front)).SeesTo name e'

variable {g : Gate} {name : String}

theorem abandons_concat {events : List Event} {e : Event} :
    g.Abandons (events ++ [e]) name ↔ (g.run events).GivesUp name e ∨
      g.Abandons events name ∧ ¬ (g.run events).SeesTo name e := by
  constructor
  · rintro ⟨before, given, after, hevents, hgiven, hsince⟩
    rcases after.eq_nil_or_concat' with rfl | ⟨after, last, rfl⟩
    · obtain ⟨rfl, hlast⟩ := List.append_inj' hevents rfl
      obtain rfl := List.head_eq_of_cons_eq hlast
      exact .inl hgiven
    · rw [← List.cons_append, ← List.append_assoc] at hevents
      obtain ⟨rfl, hlast⟩ := List.append_inj' hevents rfl
      obtain rfl := List.head_eq_of_cons_eq hlast
      refine .inr ⟨⟨before, given, after, rfl, hgiven, fun front e' back hafter => ?_⟩,
        hsince after e [] rfl⟩
      exact hsince front e' (back ++ [e]) (by simp [hafter])
  · rintro (hgiven | ⟨⟨before, given, after, rfl, hgiven, hsince⟩, hlast⟩)
    · exact ⟨events, e, [], rfl, hgiven, by simp⟩
    · refine ⟨before, given, after ++ [e], by simp, hgiven, fun front e' back hafter => ?_⟩
      rcases back.eq_nil_or_concat' with rfl | ⟨back, last, rfl⟩
      · obtain ⟨rfl, he⟩ := List.append_inj' hafter rfl
        rwa [← List.head_eq_of_cons_eq he]
      · rw [← List.cons_append, ← List.append_assoc] at hafter
        exact hsince front e' back (List.append_inj' hafter rfl).1

/-- An entry stays until somebody sees to it. -/
theorem get?_apply_of_not_seesTo {l : Nat} (hentry : g.entries.get? name = some l) {e : Event}
    (he : ¬ g.SeesTo name e) : (g.apply e).entries.get? name = some l := by
  cases e with
  | arrive id n op =>
    change (g.arrive id n op).entries.get? name = some l
    unfold arrive
    split <;> exact hentry
  | advance id =>
    change (g.advance id).entries.get? name = some l
    unfold advance
    split
    · exact hentry
    split
    · unfold seekSlot
      split
      · exact hentry
      · split <;> simpa using hentry
    · unfold findLock
      split
      · exact hentry
      · next hnone =>
        refine (Dict.get?_insert _ _ _ _).trans ((if_neg ?_).trans hentry)
        rintro rfl
        rw [hnone] at hentry
        cases hentry
    · unfold seekLock
      split
      · exact hentry
      · split <;> exact hentry
    · exact hentry
    · exact hentry
  | unlock id =>
    change (g.unlock id).entries.get? name = some l
    unfold unlock
    split
    · rwa [entries_returnLock]
    · exact hentry
  | retire id =>
    change (g.retire id).entries.get? name = some l
    unfold retire
    split
    · next n op ht =>
      rw [entries_returnSlot, entries_dropTicket, get?_dropEntry_of_ne g, hentry]
      rintro rfl
      exact he ⟨id, _, rfl, ht, rfl, rfl⟩
    · exact hentry
  | cancel id =>
    change (g.cancel id).entries.get? name = some l
    unfold cancel
    split
    · split
      · exact hentry
      · rwa [entries_dropTicket, entries_leaveSlotQueue]
      · rwa [entries_returnSlot]
      · rwa [entries_returnSlot, entries_dropTicket, entries_leaveLockQueue]
      · rwa [entries_returnSlot, entries_returnLock]
      · exact hentry
    · exact hentry

/-- What a step does to an entry for which somebody answers: somebody still does, unless the step
gives up a ticket that has been handed the lock. -/
theorem TrackedUnder.apply_of_not_givesUp (hsound : g.Sound none) (h : g.TrackedUnder name)
    {e : Event} (he : ¬ g.GivesUp name e) : (g.apply e).TrackedUnder name := by
  cases e with
  | cancel id =>
    exact h.cancel hsound fun t l ht hname hstage => he ⟨id, t, l, rfl, ht, hname, hstage⟩
  | _ => exact h.apply hsound (by simp)

theorem TrackedUnder.of_seesTo (hsound : g.Sound none) {e : Event} (he : g.SeesTo name e) :
    (g.apply e).TrackedUnder name := by
  obtain ⟨id, t, rfl, ht, rfl, hstage⟩ := he
  exact TrackedUnder.retire_self hsound ht hstage

/-- An abandoned entry is there, and somebody answers for every entry that is not abandoned. -/
theorem tracked_or_abandons {c : Config.Admission} (hg : ofConfig c = .ok g) (events : List Event)
    (name : String) :
    ((g.run events).TrackedUnder name ∨ g.Abandons events name) ∧
      (g.Abandons events name → ∃ l, (g.run events).entries.get? name = some l) := by
  induction events using List.reverseRecOn with
  | nil =>
    refine ⟨.inl (tracked_of_ofConfig hg name), ?_⟩
    rintro ⟨before, e, after, hnil, -⟩
    simp at hnil
  | append_singleton events e ih =>
    have hsound := (sound_of_ofConfig hg).run events
    rw [run_concat, abandons_concat]
    refine ⟨?_, ?_⟩
    · by_cases hgiven : (g.run events).GivesUp name e
      · exact .inr (.inl hgiven)
      by_cases hseen : (g.run events).SeesTo name e
      · exact .inl (.of_seesTo hsound hseen)
      exact ih.1.imp (·.apply_of_not_givesUp hsound hgiven) fun habandoned => .inr ⟨habandoned, hseen⟩
    · rintro (⟨id, t, l, rfl, ht, rfl, hstage⟩ | ⟨habandoned, hseen⟩)
      · have hentry := hsound.current id t ht l (by simp [hstage, Stage.lock?])
        refine ⟨l, get?_apply_of_not_seesTo hentry ?_⟩
        rintro ⟨_, _, hretire, -⟩
        cases hretire
      · obtain ⟨l, hentry⟩ := ih.2 habandoned
        exact ⟨l, get?_apply_of_not_seesTo hentry hseen⟩

/-- The gate keeps the locks to which tickets refer, and those that were abandoned. So when nobody has
passed and nobody is on his way in, it keeps a lock exactly if one was abandoned. -/
theorem lock_kept_iff {c : Config.Admission} (hg : ofConfig c = .ok g) (moves : List Move) :
    (∀ name, (∃ l, (g.play moves).entries.get? name = some l) ↔
      (∃ t ∈ (g.play moves).tickets, t.name = name ∧ ∃ l, t.stage.lock? = some l) ∨
        g.Abandons (moves.flatMap Move.events) name) ∧
    ((∀ t ∈ (g.play moves).tickets, t.stage.isPending = false ∧ t.stage.isLive = false) →
      ((g.play moves).trackedNames = 0 ↔
        ∀ name, ¬ g.Abandons (moves.flatMap Move.events) name)) := by
  have hplayed := play_eq_run g moves
  have hsound : (g.play moves).Sound none := hplayed ▸ (sound_of_ofConfig hg).run _
  have hnone := (noneLeaving_of_ofConfig hg).play (sound_of_ofConfig hg) moves
  have hkept : ∀ name, (∃ l, (g.play moves).entries.get? name = some l) ↔
      (∃ t ∈ (g.play moves).tickets, t.name = name ∧ ∃ l, t.stage.lock? = some l) ∨
        g.Abandons (moves.flatMap Move.events) name := by
    intro name
    obtain ⟨htracked, habandoned⟩ := tracked_or_abandons hg (moves.flatMap Move.events) name
    rw [← hplayed] at htracked habandoned
    refine ⟨fun ⟨l, hl⟩ => htracked.imp_left fun htracked => ?_, ?_⟩
    · obtain ⟨id, t, ht, hname, hanswers⟩ := htracked l hl
      refine ⟨t, mem_of_ticket? ht, hname, l, hanswers.resolve_right fun hleaving => ?_⟩
      -- Between two moves nobody is on the way out.
      exact hnone id ⟨t.name, t.op, t.stage.phase⟩ (by simp [standing?, ht])
        (by simp [hleaving, Stage.phase])
    · rintro (⟨t, ht, rfl, l, hl⟩ | habandons)
      · exact ⟨l, hsound.current t.id t (ticket?_of_mem hsound.ids_nodup ht) l hl⟩
      · exact habandoned habandons
  refine ⟨hkept, fun hquiet => ?_⟩
  rw [trackedNames_eq_zero_iff]
  refine forall_congr' fun name => not_congr ((hkept name).trans (or_iff_right ?_))
  rintro ⟨t, ht, -, l, hl⟩
  obtain ⟨hpending, hlive⟩ := hquiet t ht
  cases hstage : t.stage <;> simp_all [Stage.isPending, Stage.isLive, Stage.lock?]

/-- A lock is handed from the one who leaves to one who waits and is given up before it takes it. The
lock stays when nobody is left, until the next one of its name has come and gone. -/
theorem lock_kept_for_nobody :
    let g : Gate := ⟨⟨1, []⟩, ⟨1, []⟩, .empty, [], []⟩
    let moves : List Move :=
      [.start 0 "v" .get, .poll 0, .start 1 "v" .get, .poll 1, .leave 0, .cancel 1]
    let later : List Move := [.start 2 "v" .get, .poll 2, .leave 2]
    ofConfig ⟨1, 1⟩ = .ok g ∧
      (∃ name, g.Abandons (moves.flatMap Move.events) name) ∧
      ∀ name, ¬ g.Abandons ((moves ++ later).flatMap Move.events) name := by
  intro g moves later
  refine ⟨rfl, ?_, ?_⟩
  · have hnone : ∀ t ∈ (g.play moves).tickets, t.stage.isPending = false ∧ t.stage.isLive = false := by
      decide
    have hiff := (lock_kept_iff (c := ⟨1, 1⟩) rfl moves).2 hnone
    refine Classical.not_forall_not.1 fun hnobody => ?_
    exact absurd (hiff.2 hnobody) (by decide)
  · exact ((lock_kept_iff (c := ⟨1, 1⟩) rfl (moves ++ later)).2 (by decide)).1 (by decide)

/-- Nobody has passed and nobody is on his way in, and yet the gate keeps a lock. -/
theorem lock_map_leaks :
    let g : Gate := ⟨⟨1, []⟩, ⟨1, []⟩, .empty, [], []⟩
    let moves : List Move :=
      [.start 0 "v" .get, .poll 0, .start 1 "v" .get, .poll 1, .leave 0, .cancel 1]
    ofConfig ⟨1, 1⟩ = .ok g ∧ (g.play moves).tickets = [] ∧ (g.play moves).trackedNames = 1 :=
  ⟨rfl, by decide, by decide⟩

end VolumeLifecycle.Gate
