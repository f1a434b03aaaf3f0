import VolumeLifecycle.Proofs.Provider.Connection

namespace VolumeLifecycle.Provider.Traffic

variable {Client World : Type} {connect : Nat → Except Failure Client}
  {send : Client → Op → Request → World → Except Failure Response × World}
  {t : Traffic Client World} {i : Nat} {op : Op} {request : Request} {stage : Stage Client}
  {c : Change Client World} {e : Event}

/-- What a provider replies to requests that are made one after another, and the world after. -/
def answers (send : Client → Op → Request → World → Except Failure Response × World) (world : World)
    (requests : List (Client × Op × Request)) : List (Except Failure Response) × World :=
  requests.foldl
    (fun (replies, world) (client, op, request) =>
      let (reply, world) := send client op request world
      (replies ++ [reply], world))
    ([], world)

theorem answers_append_singleton (world : World) (requests : List (Client × Op × Request))
    (client : Client) (op : Op) (request : Request) :
    answers send world (requests ++ [(client, op, request)]) =
      let (replies, world) := answers send world requests
      let (reply, world) := send client op request world
      (replies ++ [reply], world) :=
  List.foldl_concat ..

/-- What every atomic step keeps: whoever has the lock is alone in looking for a client and in
trying to connect, so attempts are made one after another until the first that succeeds. -/
structure Sound (connect : Nat → Except Failure Client)
    (send : Client → Op → Request → World → Except Failure Response × World) (world : World)
    (t : Traffic Client World) : Prop where
  /-- One caller has the lock, and the others are at stages without it. -/
  locked : ∀ i (caller : Caller Client), t.callers[i]? = some caller →
    (caller.stage.isLocked = true ↔ t.holder = some i)
  held : ∀ i, t.holder = some i → i < t.callers.length
  /-- While nobody has the lock, no attempt to connect is under way. -/
  rest : t.holder = none → t.handle.Stands connect
  fits : ∀ i (caller : Caller Client), t.callers[i]? = some caller →
    caller.stage.Fits connect t.handle t.log i caller.op caller.request
  /-- Nothing is seen of a caller before it comes. -/
  unseen : ∀ i, t.callers[i]? = none → seenOf t.log i = []
  /-- Every attempt is seen, one after another. -/
  tries : t.log.filterMap Sign.attempt? = List.range t.handle.attempts
  /-- No request reaches a client before the attempt that gave it. -/
  made : ∀ before i client op request, before ++ [.reached i client op request] <+: t.log →
    Made connect before client
  /-- The provider has served one request after another. -/
  served : answers send world ((t.log.filterMap Sign.exchange?).map Prod.fst) =
    ((t.log.filterMap Sign.exchange?).map Prod.snd, t.world)

namespace Sound

variable {world : World}

theorem begin (connect : Nat → Except Failure Client)
    (send : Client → Op → Request → World → Except Failure Response × World) (world : World) :
    Sound connect send world (.begin world) where
  locked := by simp [Traffic.begin]
  held := by simp [Traffic.begin]
  rest _ := .unused
  fits := by simp [Traffic.begin]
  unseen _ _ := rfl
  tries := rfl
  made := by simp [Traffic.begin]
  served := rfl

theorem exists_tried (h : Sound connect send world t) {n : Nat} (hn : n < t.handle.attempts) :
    ∃ j, .tried j n ∈ t.log := by
  have hmem : n ∈ t.log.filterMap Sign.attempt? := h.tries ▸ List.mem_range.2 hn
  obtain ⟨sign, hsign, hattempt⟩ := List.mem_filterMap.1 hmem
  cases sign with
  | tried j m =>
    obtain rfl : m = n := Option.some.inj hattempt
    exact ⟨j, hsign⟩
  | _ => cases hattempt

/-- Who has the lock is there, at a stage with it. -/
theorem exists_holder (h : Sound connect send world t) (hholder : t.holder = some i) :
    ∃ caller, t.callers[i]? = some caller ∧ caller.stage.isLocked = true := by
  have hcaller := List.getElem?_eq_getElem (h.held i hholder)
  exact ⟨_, hcaller, (h.locked i _ hcaller).2 hholder⟩

section Take

variable (h : Sound connect send world t) (hcaller : t.callers[i]? = some ⟨op, request, stage⟩)
  (hleads : t.Leads connect send i op request e stage c)

include h hcaller hleads

/-- What has been seen of the caller fits its new stage. -/
theorem fits_caller : c.stage.Fits connect c.handle (t.log ++ c.signs) i op request := by
  have hfits := h.fits i _ hcaller
  have hseen : seenOf (t.log ++ c.signs) i = seenOf t.log i ++ c.signs := by
    rw [seenOf_append, hleads.seenOf_signs]
  have hsub : t.log ⊆ t.log ++ c.signs := List.subset_append_left ..
  cases hleads with
  | enters hfree =>
    have hnothing : seenOf t.log i = [] := hfits
    exact ⟨hseen.trans (by rw [hnothing]; rfl), h.rest hfree⟩
  | finds client hclient =>
    obtain ⟨n, hattempts, hfirst⟩ := hfits.2.connected client hclient
    have hmade := h.exists_tried (n := n) (by omega)
    rw [moved, List.append_nil]
    refine ⟨?_, hfits.2⟩
    rw [hfits.1]
    exact .shared n client hfirst hmade
  | tries hclient => exact ⟨hseen.trans (by rw [hfits.1]; rfl), hfits.2.attempted hclient⟩
  | connects n =>
    refine ⟨?_, hfits.2.kept⟩
    rw [hseen, hfits.1]
    exact .own n _ hfits.2.failing rfl
  | leaves outcome => rw [moved, List.append_nil]; exact hfits.1
  | reaches client => exact ⟨_, Resolved.mono hfits hsub, hseen⟩
  | fails f =>
    refine (?_ : Course connect _ i op request _ (.error f))
    rw [hseen]
    exact .refused _ f (Resolved.mono hfits hsub)
  | gets client =>
    obtain ⟨way, hway, hsent⟩ := hfits
    exact ⟨way, client, hway.mono hsub, hseen.trans (by simp [hsent])⟩
  | returns reply =>
    obtain ⟨way, client, hway, hreplied⟩ := hfits
    have hcourse : Course connect (t.log ++ [.returned i reply]) i op request _ reply :=
      .forwarded way client reply (hway.mono hsub)
    refine (?_ : Course connect _ i op request _ reply)
    rw [hseen, hreplied, List.append_assoc]
    exact hcourse
  | drops => rw [moved, List.append_nil]; exact hfits.exists_course

theorem locked_take (j : Nat) (caller : Caller Client)
    (hj : (t.take i c).callers[j]? = some caller) :
    caller.stage.isLocked = true ↔ c.holder = some j := by
  have hown := h.locked i _ hcaller
  rcases callers_take_cases hcaller hj with ⟨rfl, rfl⟩ | ⟨hij, hj⟩
  · rcases hleads.holder_cases with ⟨-, hholder, hstage⟩ | ⟨-, hholder, hstage⟩ | ⟨hholder, hstage⟩
    · simp [hholder, hstage]
    · simp [hholder, hstage]
    · rw [hholder, hstage, hown]
  · have hother := h.locked j _ hj
    rcases hleads.holder_cases with ⟨hfree, hholder, -⟩ | ⟨hlocked, hholder, -⟩ | ⟨hholder, -⟩
    · simp_all
    · rw [hother, hown.1 hlocked, hholder]
      simp [hij]
    · rw [hother, hholder]

theorem held_take (j : Nat) (hj : c.holder = some j) : j < t.callers.length := by
  rcases hleads.holder_cases with ⟨-, hholder, -⟩ | ⟨-, hholder, -⟩ | ⟨hholder, -⟩
  · obtain rfl := Option.some.inj (hholder.symm.trans hj)
    exact (List.getElem?_eq_some_iff.1 hcaller).1
  · rw [hholder] at hj
    cases hj
  · exact h.held j (hholder.symm.trans hj)

theorem rest_take (hfree : c.holder = none) : c.handle.Stands connect := by
  have hfits := h.fits i _ hcaller
  have hlocked := h.locked i _ hcaller
  cases hleads with
  | enters => cases hfree
  | finds => exact hfits.2
  | tries => exact absurd (hfree.symm.trans (hlocked.1 rfl)) nofun
  | connects => exact hfits.2.kept
  | leaves => exact hfits.2
  | _ => exact h.rest hfree

theorem fits_take (j : Nat) (caller : Caller Client)
    (hj : (t.take i c).callers[j]? = some caller) :
    caller.stage.Fits connect c.handle (t.log ++ c.signs) j caller.op caller.request := by
  rcases callers_take_cases hcaller hj with ⟨rfl, rfl⟩ | ⟨hij, hj⟩
  · exact h.fits_caller hcaller hleads
  · refine (h.fits j _ hj).mono (List.subset_append_left ..) ?_ fun hother => ?_
    · rw [seenOf_append, hleads.seenOf_signs_of_ne hij, List.append_nil]
    -- The other one has the lock, so the caller does not.
    · refine hleads.handle_eq (Bool.eq_false_iff.2 fun hlocked => hij ?_)
      have hholder := (h.locked i _ hcaller).1 hlocked
      rw [(h.locked j _ hj).1 hother] at hholder
      exact (Option.some.inj hholder).symm

omit hcaller in
theorem tries_take :
    (t.log ++ c.signs).filterMap Sign.attempt? = List.range c.handle.attempts := by
  rw [List.filterMap_append, h.tries]
  cases hleads with
  | tries => exact List.range_succ.symm
  | connects n => simp [moved]
  | _ => exact List.append_nil _

theorem made_take (before : List (Sign Client)) (j : Nat) (client : Client) (op' : Op)
    (request' : Request)
    (hbefore : before ++ [.reached j client op' request'] <+: t.log ++ c.signs) :
    Made connect before client := by
  have hfits := h.fits i _ hcaller
  cases hleads with
  | reaches reached =>
    rcases List.prefix_concat_iff.1 hbefore with heq | hearlier
    · obtain ⟨rfl, hlast⟩ := List.append_inj' heq rfl
      cases hlast
      exact Resolved.made hfits
    · exact h.made _ _ _ _ _ hearlier
  | tries | fails | gets | returns =>
    rcases List.prefix_concat_iff.1 hbefore with heq | hearlier
    · obtain ⟨-, hlast⟩ := List.append_inj' heq rfl
      cases hlast
    · exact h.made _ _ _ _ _ hearlier
  | _ =>
    rw [moved, List.append_nil] at hbefore
    exact h.made _ _ _ _ _ hbefore

omit hcaller in
theorem served_take :
    answers send world (((t.log ++ c.signs).filterMap Sign.exchange?).map Prod.fst) =
      (((t.log ++ c.signs).filterMap Sign.exchange?).map Prod.snd, c.world) := by
  rw [List.filterMap_append, List.map_append, List.map_append]
  cases hleads with
  | gets client =>
    refine (answers_append_singleton ..).trans ?_
    rw [h.served]
    rfl
  | _ =>
    refine (congrArg (answers send world) (List.append_nil _)).trans (h.served.trans ?_)
    exact congrArg (·, t.world) (List.append_nil _).symm

theorem take : Sound connect send world (t.take i c) where
  locked := h.locked_take hcaller hleads
  held j hj := by
    rw [length_callers_take]
    exact h.held_take hcaller hleads j hj
  rest := h.rest_take hcaller hleads
  fits := h.fits_take hcaller hleads
  unseen j hj := by
    rw [callers_take] at hj
    by_cases hij : i = j
    · subst hij
      rw [if_pos rfl, hcaller] at hj
      cases hj
    · rw [if_neg hij] at hj
      exact (seenOf_append ..).trans (by rw [h.unseen j hj, hleads.seenOf_signs_of_ne hij]; rfl)
  tries := h.tries_take hleads
  made := h.made_take hcaller hleads
  served := h.served_take hleads

end Take

theorem call (h : Sound connect send world t) (op : Op) (request : Request) :
    Sound connect send world { t with callers := t.callers ++ [⟨op, request, .waiting⟩] } where
  locked j caller hj := by
    rcases callers_call hj with hbefore | ⟨hnone, rfl⟩
    · exact h.locked j caller hbefore
    · refine ⟨nofun, fun hholder => ?_⟩
      rw [List.getElem?_eq_getElem (h.held j hholder)] at hnone
      cases hnone
  held j hj := by
    have hlt := h.held j hj
    simp only [List.length_append, List.length_singleton]
    omega
  rest := h.rest
  fits j caller hj := by
    rcases callers_call hj with hbefore | ⟨hnone, rfl⟩
    · exact h.fits j caller hbefore
    · exact h.unseen j hnone
  unseen j hj := by
    refine h.unseen j (List.getElem?_eq_none ?_)
    have hle := List.getElem?_eq_none_iff.1 hj
    rw [List.length_append] at hle
    omega
  tries := h.tries
  made := h.made
  served := h.served

/-- What one atomic step keeps. -/
theorem apply (h : Sound connect send world t) (e : Event) :
    Sound connect send world (t.apply connect send e) := by
  have hstep := step_apply connect send t e
  generalize t.apply connect send e = t' at hstep
  cases hstep with
  | idles => exact h
  | calls op request => exact h.call op request
  | takes _ i op request stage c hcaller hleads => exact h.take hcaller hleads

/-- What any number of atomic steps keeps. -/
theorem run (h : Sound connect send world t) (events : List Event) :
    Sound connect send world (t.run connect send events) := by
  induction events generalizing t with
  | nil => exact h
  | cons e rest ih => exact ih (h.apply e)

end Sound

end VolumeLifecycle.Provider.Traffic
