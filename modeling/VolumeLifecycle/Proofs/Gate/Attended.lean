import VolumeLifecycle.Proofs.Gate.Settling

namespace VolumeLifecycle.Gate

/-- Histories in which pending tickets are polled after every move until nothing moves any more. -/
inductive Attended (g₀ : Gate) : List Move → Prop
  | begin : Attended g₀ []
  | turn {moves : List Move} (m : Move) (ids : List Nat) (h : Attended g₀ moves)
    (hquiet : ∀ id ∈ (g₀.play (moves ++ m :: ids.map .poll)).pending,
      (g₀.play (moves ++ m :: ids.map .poll)).poll id = g₀.play (moves ++ m :: ids.map .poll)) :
    Attended g₀ (moves ++ m :: ids.map .poll)

/-- Whether a ticket at a stage can take a place in a queue by itself. -/
def Stage.isMoving : Stage → Bool
  | arriving => true
  | admitted => true
  | located _ => true
  | _ => false

def Calm (g : Gate) : Prop :=
  ∀ id t, g.ticket? id = some t → t.stage.isMoving = false

def OneMoves (g : Gate) : Prop :=
  ∃ id, ∀ j t, g.ticket? j = some t → t.stage.isMoving = true → j = id

/-- Whether a step is one that is taken under attention: that of a ticket on its way in, or one while
nobody is between two queues. -/
def Allows (g : Gate) (e : Event) : Prop :=
  (∃ id, e = .advance id) ∨ g.Calm

variable {g : Gate}

theorem Still.calm (h : g.Still) : g.Calm := by
  intro id t ht
  have hdone := h id t ht
  cases hstage : t.stage <;> simp_all [Stage.stepsLeft, Stage.isMoving]

/-- If everybody is at rest, at most one ticket moves. -/
theorem Calm.oneMoves (h : g.Calm) : g.OneMoves := by
  refine ⟨0, fun j t ht hmoving => ?_⟩
  rw [h j t ht] at hmoving
  cases hmoving

/-- Only from a queue does a ticket go on by being handed something. -/
theorem Stage.Advances.isMoving {before after : Stage} (h : before.Advances after)
    (hmoving : after.isMoving = true) : before.isMoving = true := by
  cases h with
  | stays => exact hmoving
  | notices => cases hmoving
  | _ => rfl

/-- Whoever moves after a step of a ticket has moved before. -/
theorem OneMoves.advance (hsound : g.Sound none) (h : g.OneMoves) (id : Nat) :
    (g.advance id).OneMoves := by
  obtain ⟨mover, hmover⟩ := h
  refine ⟨mover, fun j u hu hmoving => ?_⟩
  cases ht : g.ticket? id with
  | none =>
    rw [advance_eq_self (by simp [ht])] at hu
    exact hmover j u hu hmoving
  | some t =>
    obtain ⟨stage, hadvances, hticket⟩ := hsound.exists_advances ht
    rw [hticket] at hu
    split at hu
    · next hj =>
      cases hu
      exact hmover j t (hj ▸ ht) (hadvances.isMoving hmoving)
    · exact hmover j u hu hmoving

namespace Calm

theorem of_same_tickets (h : g.Calm) {g' : Gate} (htickets : g'.tickets = g.tickets) : g'.Calm :=
  fun id t ht => h id t (by simpa [ticket?, htickets] using ht)

theorem setStage (h : g.Calm) (id : Nat) {stage : Stage} (hstage : stage.isMoving = false) :
    (g.setStage id stage).Calm := by
  intro j u hu
  rw [ticket?_setStage] at hu
  split at hu
  · obtain ⟨t, -, rfl⟩ := Option.map_eq_some_iff.1 hu
    exact hstage
  · exact h j u hu

theorem dropTicket (h : g.Calm) (id : Nat) : (g.dropTicket id).Calm := by
  intro j u hu
  rw [ticket?_dropTicket] at hu
  split at hu
  · cases hu
  · exact h j u hu

theorem returnLock (h : g.Calm) (l : Nat) : (g.returnLock l).Calm := by
  unfold Gate.returnLock
  split
  · exact h
  split
  · exact h.of_same_tickets rfl
  · exact (h.of_same_tickets (tickets_setLock _ _)).setStage _ rfl

/-- A ticket that is handed a slot is on its way to the lock of its name. -/
theorem returnSlot (h : g.Calm) (op : Operation) : (g.returnSlot op).OneMoves := by
  unfold Gate.returnSlot
  split
  · exact h.oneMoves
  next s hs =>
  split
  · exact (h.of_same_tickets (tickets_setSlots _ _ _)).oneMoves
  · next id rest _ =>
    refine ⟨id, fun j t ht hmoving => ?_⟩
    by_contra hj
    rw [ticket?_setStage, if_neg hj, ticket?_setSlots] at ht
    rw [h j t ht] at hmoving
    cases hmoving

theorem arrive (h : g.Calm) (id : Nat) (name : String) (op : Operation) :
    (g.arrive id name op).OneMoves := by
  refine ⟨id, fun j t ht hmoving => ?_⟩
  by_contra hj
  rw [ticket?_arrive, if_neg hj] at ht
  rw [h j t ht] at hmoving
  cases hmoving

theorem unlock (h : g.Calm) (id : Nat) : (g.unlock id).Calm := by
  unfold Gate.unlock
  split
  · exact (h.setStage id rfl).returnLock _
  · exact h

theorem retire (h : g.Calm) (id : Nat) : (g.retire id).OneMoves := by
  unfold Gate.retire
  split
  · exact ((h.of_same_tickets (tickets_dropEntry g _)).dropTicket id).returnSlot _
  · exact h.oneMoves

theorem cancel (h : g.Calm) (id : Nat) : (g.cancel id).OneMoves := by
  unfold Gate.cancel
  split
  · split
    · exact (h.dropTicket id).oneMoves
    · exact ((h.of_same_tickets (tickets_leaveSlotQueue _ _ _)).dropTicket id).oneMoves
    · exact (h.dropTicket id).returnSlot _
    · exact ((h.of_same_tickets (tickets_leaveLockQueue _ _ _)).dropTicket id).returnSlot _
    · exact ((h.dropTicket id).returnLock _).returnSlot _
    · exact h.oneMoves
  · exact h.oneMoves

end Calm

/-- What one step keeps that is taken under attention. -/
theorem OneMoves.apply (hsound : g.Sound none) (h : g.OneMoves) {e : Event} (he : g.Allows e) :
    (g.apply e).OneMoves := by
  rcases he with ⟨id, rfl⟩ | hcalm
  · exact h.advance hsound id
  cases e with
  | arrive id name op => exact hcalm.arrive id name op
  | advance id => exact h.advance hsound id
  | unlock id => exact (hcalm.unlock id).oneMoves
  | retire id => exact hcalm.retire id
  | cancel id => exact hcalm.cancel id

/-- What holds of a gate under attention between any two steps. -/
structure Poised (g : Gate) : Prop where
  sound : g.Sound none
  waits_for_bounded : g.WaitsForBounded
  free_eq_zero : ∀ op s, g.slots? op = some s → s.queue ≠ [] → s.free = 0
  one_moves : g.OneMoves

/-- Whether all steps of a row are taken under attention. -/
def Orderly (g : Gate) (events : List Event) : Prop :=
  ∀ before e after, events = before ++ e :: after → (g.run before).Allows e

theorem play_append (g : Gate) (moves more : List Move) :
    g.play (moves ++ more) = (g.play moves).play more :=
  List.foldl_append

namespace Orderly

variable {events more : List Event} {e : Event}

theorem nil : g.Orderly [] := by
  rintro before e after hnil
  simp at hnil

theorem cons (he : g.Allows e) (h : (g.apply e).Orderly events) : g.Orderly (e :: events) := by
  intro before e' after hevents
  rcases List.cons_eq_append_iff.1 hevents with ⟨rfl, hcons⟩ | ⟨before, rfl, hrest⟩
  · obtain rfl := List.head_eq_of_cons_eq hcons
    exact he
  · exact h before e' after hrest

theorem of_append (h : g.Orderly (events ++ more)) : g.Orderly events :=
  fun before e after hevents => h before e (after ++ more) (by simp [hevents])

theorem append (h : g.Orderly events) (hmore : (g.run events).Orderly more) :
    g.Orderly (events ++ more) := by
  induction events generalizing g with
  | nil => exact hmore
  | cons e rest ih =>
    refine cons (h [] e rest rfl) (ih (fun before e' after hrest => ?_) hmore)
    exact h (e :: before) e' after (by simp [hrest])

/-- Polls alone are taken under attention. -/
theorem of_advances (h : ∀ e ∈ events, ∃ id, e = .advance id) : g.Orderly events :=
  fun _ e _ hevents => .inl (h e (by simp [hevents]))

/-- The steps of a move that is made while nobody is between two queues. -/
theorem of_calm (h : g.Calm) (m : Move) : g.Orderly m.events := by
  cases m with
  | start id name op => exact cons (.inr h) nil
  | poll id => exact of_advances (by simp [Move.events])
  | leave id => exact cons (.inr h) (cons (.inr (h.unlock id)) nil)
  | cancel id => exact cons (.inr h) nil

end Orderly

/-- Under attention a gate is poised after every row of steps. -/
theorem poised_run {c : Config.Admission} (hg : ofConfig c = .ok g) {events : List Event}
    (h : g.Orderly events) : (g.run events).Poised := by
  have hsound := sound_of_ofConfig hg
  have hsettled := Settled.of_ofConfig hg
  refine ⟨hsound.run events, hsettled.waits_for_bounded.run hsound events, fun op s hs => ?_, ?_⟩
  · obtain ⟨total, hop⟩ := (exists_slots?_iff (g.run events) c op).1 ⟨s, hs⟩
    exact ((balanced_of_ofConfig hg hop).run hsound events).free_eq_zero s hs
  · induction events using List.reverseRecOn with
    | nil => exact hsettled.still.calm.oneMoves
    | append_singleton events e ih =>
      rw [run_concat]
      exact (ih h.of_append).apply (hsound.run events) (h events e [] rfl)

namespace Attended

variable {g₀ : Gate} {moves : List Move}

/-- Histories under attention consist of steps under attention, and leave nobody between two queues. -/
theorem orderly (hsound : g₀.Sound none) (hcalm : g₀.Calm) (h : Attended g₀ moves) :
    g₀.Orderly (moves.flatMap Move.events) ∧ (g₀.play moves).Calm := by
  induction h with
  | begin => exact ⟨.nil, hcalm⟩
  | @turn moves m ids _ hquiet ih =>
    obtain ⟨horderly, hcalm⟩ := ih
    have hplayed : (g₀.play (moves ++ m :: ids.map .poll)).Sound none := by
      rw [play_eq_run]
      exact hsound.run _
    refine ⟨?_, (hplayed.still_iff.2 hquiet).calm⟩
    rw [List.flatMap_append, List.flatMap_cons]
    rw [play_eq_run] at hcalm
    refine horderly.append ((Orderly.of_calm hcalm m).append (.of_advances fun e he => ?_))
    obtain ⟨_, hmem, hevent⟩ := List.mem_flatMap.1 he
    obtain ⟨id, -, rfl⟩ := List.mem_map.1 hmem
    exact ⟨id, by simpa [Move.events] using hevent⟩

/-- It is enough to poll the pending tickets once, in the order in which they came. -/
theorem turn_pending (hsound : g₀.Sound none) (h : Attended g₀ moves) (m : Move) :
    Attended g₀ (moves ++ m :: (g₀.play (moves ++ [m])).pending.map .poll) := by
  refine h.turn m _ ?_
  have hmoved : (g₀.play (moves ++ [m])).Sound none := by
    rw [play_eq_run]
    exact hsound.run _
  have hplayed : ∀ ids : List Nat, g₀.play (moves ++ m :: ids.map .poll) =
      (g₀.play (moves ++ [m])).pollAll ids := by
    intro ids
    rw [List.append_cons, play_append, ← pollAll_eq_play]
  rw [hplayed]
  exact fun id _ => (hmoved.still_pollAll fun _ hid => hid).poll id

end Attended
end VolumeLifecycle.Gate
