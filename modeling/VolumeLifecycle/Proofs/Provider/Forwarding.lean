import VolumeLifecycle.Proofs.Provider.Ending

namespace VolumeLifecycle.Provider

variable {Client World : Type} {connect : Nat → Except Failure Client}
  {send : Client → Op → Request → World → Except Failure Response × World}

/-- Calls that are made one after another: the results, and the handle and the world after them. -/
def Handle.callAll (connect : Nat → Except Failure Client)
    (send : Client → Op → Request → World → Except Failure Response × World) :
    Handle Client → World → List (Op × Request) →
      List (Except Failure Response) × Handle Client × World
  | h, world, [] => ([], h, world)
  | h, world, (op, request) :: rest =>
    let (result, h, world) := h.call connect send op request world
    let (results, h, world) := callAll connect send h world rest
    (result :: results, h, world)

theorem Handle.Stands.failing {h : Handle Client} (hstands : h.Stands connect) :
    Failing connect (h.attempts - 1) := by
  intro k hk
  cases hclient : h.client with
  | none => exact hstands.unconnected hclient k (by omega)
  | some client =>
    obtain ⟨n, hattempts, hfirst⟩ := hstands.connected client hclient
    exact hfirst.1 k (by omega)

namespace Traffic

variable {t : Traffic Client World} {i : Nat} {op : Op} {request : Request} {e : Event}

namespace Sound

variable {world : World}

/-- All attempts but the last have failed. -/
theorem failing (h : Sound connect send world t) : Failing connect (t.handle.attempts - 1) := by
  cases hholder : t.holder with
  | none => exact (h.rest hholder).failing
  | some i =>
    obtain ⟨⟨op, request, stage⟩, hcaller, hlocked⟩ := h.exists_holder hholder
    have hfits := h.fits i _ hcaller
    cases stage with
    | inside => exact hfits.2.failing
    | connecting n =>
      rw [hfits.2.attempts_eq]
      exact hfits.2.failing
    | leaving => exact hfits.2.failing
    | _ => cases hlocked

/-- The client that a request reaches is that of the last attempt, which was made before. -/
theorem reached_last (h : Sound connect send world t) {before : List (Sign Client)}
    {client : Client} (hreached : before ++ [.reached i client op request] <+: t.log) :
    ∃ n, t.handle.attempts = n + 1 ∧ connect n = .ok client ∧ ∃ j, .tried j n ∈ before := by
  obtain ⟨j, n, htried, hn⟩ := h.made before i client op request hreached
  have hmem : .tried j n ∈ t.log := hreached.subset (List.mem_append_left _ htried)
  have hlt : n < t.handle.attempts := by
    rw [← List.mem_range, ← h.tries]
    exact List.mem_filterMap.2 ⟨_, hmem, rfl⟩
  have hle : t.handle.attempts - 1 ≤ n := h.failing.le hn
  exact ⟨n, by omega, hn, j, htried⟩

end Sound

theorem dropped_apply {caller : Caller Client}
    (hcaller : (t.apply connect send e).callers[i]? = some caller)
    (hstage : caller.stage = .dropped) :
    (∃ before, t.callers[i]? = some before ∧ before.stage = .dropped) ∨ e = .drop i := by
  have hstep := step_apply connect send t e
  generalize t.apply connect send e = t' at hstep hcaller
  cases hstep with
  | idles => exact .inl ⟨caller, hcaller, hstage⟩
  | calls op request =>
    rcases callers_call hcaller with hbefore | ⟨-, rfl⟩
    · exact .inl ⟨caller, hbefore, hstage⟩
    · cases hstage
  | takes _ j op request stage c htaker hleads =>
    rcases callers_take_cases htaker hcaller with ⟨rfl, rfl⟩ | ⟨-, hbefore⟩
    · cases hleads with
      | drops => exact .inr rfl
      | _ => cases hstage
    · exact .inl ⟨caller, hbefore, hstage⟩

/-- Only a caller that was given up does not get a result. -/
theorem dropped_run {events : List Event} {caller : Caller Client}
    (hcaller : (t.run connect send events).callers[i]? = some caller)
    (hstage : caller.stage = .dropped) :
    (∃ before, t.callers[i]? = some before ∧ before.stage = .dropped) ∨ .drop i ∈ events := by
  induction events generalizing t with
  | nil => exact .inl ⟨caller, hcaller, hstage⟩
  | cons e rest ih =>
    rcases ih hcaller with ⟨before, hbefore, hdropped⟩ | hlater
    · exact (dropped_apply hbefore hdropped).imp_right fun he => List.mem_cons.2 (.inl he.symm)
    · exact .inr (List.mem_cons_of_mem _ hlater)

/-- The steps of calls that are made one after another, counted on from a number of callers. -/
def inTurn : Nat → List (Op × Request) → List Event
  | _, [] => []
  | i, (op, request) :: rest =>
    .call op request :: List.replicate 7 (.advance i) ++ inTurn (i + 1) rest

/-- A step of the caller that came last. -/
theorem advance_last (connect : Nat → Except Failure Client)
    (send : Client → Op → Request → World → Except Failure Response × World) (h : Handle Client)
    (holder : Option Nat) (callers : List (Caller Client)) (op : Op) (request : Request)
    (stage : Stage Client) (world : World) (log : List (Sign Client)) :
    let t : Traffic Client World := ⟨h, holder, callers ++ [⟨op, request, stage⟩], world, log⟩
    t.advance connect send callers.length =
      match t.change? connect send callers.length op request stage with
      | none => t
      | some c =>
        ⟨c.handle, c.holder, callers ++ [⟨op, request, c.stage⟩], c.world, log ++ c.signs⟩ := by
  intro t
  have hcaller : t.callers[callers.length]? = some ⟨op, request, stage⟩ :=
    List.getElem?_concat_length
  simp only [advance, hcaller]
  cases t.change? connect send callers.length op request stage with
  | none => rfl
  | some c => simp [take, t, List.modify_eq_take_cons_drop]

/-- A call that is made while nobody has the lock and that nobody gets in the way of. -/
theorem run_alone (connect : Nat → Except Failure Client)
    (send : Client → Op → Request → World → Except Failure Response × World) (h : Handle Client)
    (callers : List (Caller Client)) (world : World) (log : List (Sign Client)) (op : Op)
    (request : Request) :
    ∃ log', run connect send ⟨h, none, callers, world, log⟩
        (.call op request :: List.replicate 7 (.advance callers.length)) =
      ⟨(h.call connect send op request world).2.1, none,
        callers ++ [⟨op, request, .returned (h.call connect send op request world).1⟩],
        (h.call connect send op request world).2.2, log'⟩ := by
  have hadvance := fun h holder => advance_last connect send h holder callers op request
  simp only [Handle.call, Handle.connected_eq, run, List.replicate, List.foldl_cons, List.foldl_nil,
    apply]
  cases hclient : h.client with
  | some client => simp [hadvance, change?, moved, hclient]
  | none =>
    cases hconnect : connect h.attempts with
    | ok client => simp [hadvance, change?, moved, hclient, hconnect]
    | error f => simp [hadvance, change?, moved, hclient, hconnect]

theorem run_inTurn (connect : Nat → Except Failure Client)
    (send : Client → Op → Request → World → Except Failure Response × World) (h : Handle Client)
    (callers : List (Caller Client)) (world : World) (log : List (Sign Client))
    (requests : List (Op × Request)) :
    ∃ callers' log',
      run connect send ⟨h, none, callers, world, log⟩ (inTurn callers.length requests) =
        ⟨(h.callAll connect send world requests).2.1, none, callers',
          (h.callAll connect send world requests).2.2, log'⟩ ∧
      callers'.map Caller.stage =
        callers.map Caller.stage ++ (h.callAll connect send world requests).1.map .returned := by
  induction requests generalizing h callers world log with
  | nil => exact ⟨callers, log, rfl, (List.append_nil _).symm⟩
  | cons first rest ih =>
    obtain ⟨op, request⟩ := first
    obtain ⟨log₁, hfirst⟩ := run_alone connect send h callers world log op request
    obtain ⟨callers', log', hrest, hstages⟩ := ih (h.call connect send op request world).2.1
      (callers ++ [⟨op, request, .returned (h.call connect send op request world).1⟩])
      (h.call connect send op request world).2.2 log₁
    refine ⟨callers', log', ?_, ?_⟩
    · rw [List.length_append] at hrest
      rw [inTurn, run_append, hfirst]
      exact hrest
    · rw [hstages, List.map_append, List.append_assoc]
      rfl

/-- However calls through a handle that has not been used overlap, and whatever attempts to connect
give:
* attempts are made one after another, and all but the last have failed;
* the callers are those who have called, and what is seen of each one follows a course: after an
  attempt of its own, all earlier ones having failed, or after none, because somebody has made the
  first attempt that succeeded, either the failure of its attempt is its result and nothing reaches
  a client, or what it asked for reaches the client once and the reply is its result;
* a request reaches no other client than that of the last attempt, which was made before;
* the client has served the requests that it has replied to one after another, as if there were no
  handle;
* calls come to an end: after seven rounds for each caller, every caller has its result unless it
  was given up.

Calls that are made one after another are a case of this. -/
theorem run_forwards (connect : Nat → Except Failure Client)
    (send : Client → Op → Request → World → Except Failure Response × World) (world : World) :
    (∀ events, let t := (begin world).run connect send events
      (t.log.filterMap Sign.attempt? = List.range t.handle.attempts ∧
        ∀ n, n + 1 < t.handle.attempts → ∃ f, connect n = .error f) ∧
      t.callers.map Caller.asked = events.filterMap Event.asked? ∧
      (∀ i caller, t.callers[i]? = some caller →
        (∃ course result, Course connect t.log i caller.op caller.request course result ∧
          seenOf t.log i <+: course ∧
          ∀ r, caller.stage = .returned r → r = result ∧ seenOf t.log i = course) ∧
        (caller.stage = .dropped → .drop i ∈ events)) ∧
      (∀ before i client op request, before ++ [.reached i client op request] <+: t.log →
        ∃ n, t.handle.attempts = n + 1 ∧ connect n = .ok client ∧ ∃ j, .tried j n ∈ before) ∧
      answers send world ((t.log.filterMap Sign.exchange?).map Prod.fst) =
        ((t.log.filterMap Sign.exchange?).map Prod.snd, t.world) ∧
      ∀ rounds : List (List Event), (∀ round ∈ rounds, IsRound t.callers.length round) →
        7 * t.callers.length ≤ rounds.length →
        ∀ caller ∈ (t.run connect send rounds.flatten).callers,
          caller.stage = .dropped ∨ ∃ r, caller.stage = .returned r) ∧
    ∀ requests, let t := (begin world).run connect send (inTurn 0 requests)
      let (results, handle, world) := Handle.unused.callAll connect send world requests
      t.callers.map Caller.stage = results.map .returned ∧ t.handle = handle ∧ t.world = world := by
  refine ⟨fun events => ?_, fun requests => ?_⟩
  · intro t
    have hsound : Sound connect send world t := (Sound.begin connect send world).run events
    refine ⟨⟨hsound.tries, fun n hn => hsound.failing n (by omega)⟩, asked_run .., ?_,
      fun before i client op request => hsound.reached_last, hsound.served, ?_⟩
    · intro i caller hcaller
      have hfits := hsound.fits i caller hcaller
      refine ⟨?_, fun hstage => ?_⟩
      · by_cases hover : ∃ result, caller.stage = .returned result
        · obtain ⟨result, hstage⟩ := hover
          rw [hstage] at hfits
          refine ⟨_, result, hfits, List.prefix_rfl, fun r hr => ⟨?_, rfl⟩⟩
          exact (Stage.returned.inj (hstage.symm.trans hr)).symm
        · obtain ⟨course, result, hcourse, hbegun⟩ := hfits.exists_course
          exact ⟨course, result, hcourse, hbegun, fun r hr => absurd ⟨r, hr⟩ hover⟩
      · rcases dropped_run hcaller hstage with ⟨before, hbefore, -⟩ | hmem
        · cases hbefore
        · exact hmem
    · intro rounds hrounds hmany caller hmem
      refine over_of_stepsLeft (hsound.stepsLeft_rounds hrounds ?_) hmem
      exact Nat.le_trans t.stepsLeft_le hmany
  · obtain ⟨callers, log, hrun, hstages⟩ := run_inTurn connect send .unused [] world [] requests
    have hbegin : (begin world).run connect send (inTurn 0 requests) = _ := hrun
    rw [hbegin]
    exact ⟨hstages, rfl, rfl⟩

/-- Attempts to connect of which the first one fails; the number of a client tells which attempt
gave it. -/
def refusedOnce (n : Nat) : Except Failure Nat :=
  if n = 0 then .error (.transport "login refused") else .ok n

/-- A provider that says back the names it is asked for, and remembers them. -/
def echo (_ : Nat) (_ : Op) (request : Request) (served : List String) :
    Except Failure Response × List String :=
  (.ok { message := request.name }, served ++ [request.name])

/-- Three calls that overlap, and a fourth one that is given up while it waits. -/
def overlapping : List Event :=
  [.call .mount { name := "a" }, .call .get { name := "b" }, .call .get { name := "c" },
    .advance 0, .advance 1, .call .detach { name := "d" }, .advance 0, .advance 0, .advance 0,
    .advance 1, .advance 2, .advance 1, .drop 3, .advance 0, .advance 1, .advance 1, .advance 2,
    .advance 2, .advance 2, .advance 2, .advance 1, .advance 2, .advance 2, .advance 1]

/-- The first attempt to connect fails and the caller after makes the second one, whose client is
shared with the third caller; that one is served before. -/
theorem run_forwards_overlapping :
    let t := (begin []).run refusedOnce echo overlapping
    let before : List (Sign Nat) :=
      [.tried 0 0, .tried 1 1, .returned 0 (.error (.transport "login refused"))]
    t.log = before ++
        [.reached 2 1 .get { name := "c" }, .reached 1 1 .get { name := "b" },
          .replied 2 1 .get { name := "c" } (.ok { message := "c" }),
          .returned 2 (.ok { message := "c" }),
          .replied 1 1 .get { name := "b" } (.ok { message := "b" })] ∧
      t.world = ["c", "b"] ∧
      (∃ n, t.handle.attempts = n + 1 ∧ refusedOnce n = .ok 1 ∧ ∃ j, .tried j n ∈ before) ∧
      Course refusedOnce t.log 2 .get { name := "c" } (seenOf t.log 2) (.ok { message := "c" }) ∧
      .drop 3 ∈ overlapping ∧
      ∀ caller ∈ (t.run refusedOnce echo
          (List.replicate 28 ((List.range 4).map Event.advance)).flatten).callers,
        caller.stage = .dropped ∨ ∃ r, caller.stage = .returned r := by
  intro t before
  obtain ⟨-, -, hcallers, hreached, -, hends⟩ := (run_forwards refusedOnce echo []).1 overlapping
  refine ⟨rfl, rfl, ?_, ?_, ?_, ?_⟩
  · exact hreached before 2 1 .get { name := "c" } ⟨_, rfl⟩
  · obtain ⟨⟨course, result, hcourse, -, hover⟩, -⟩ := hcallers 2 ⟨.get, { name := "c" }, _⟩ rfl
    obtain ⟨rfl, rfl⟩ := hover _ rfl
    exact hcourse
  · exact (hcallers 3 ⟨.detach, { name := "d" }, _⟩ rfl).2 rfl
  · refine hends _ (fun round hround => ?_) (Nat.le_refl _)
    obtain rfl := List.eq_of_mem_replicate hround
    exact ⟨by simp [Event.asked?], fun i hi => List.mem_map_of_mem (List.mem_range.2 hi)⟩

end Traffic
end VolumeLifecycle.Provider
