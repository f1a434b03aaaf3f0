import VolumeLifecycle.Proofs.Conflict.Questions
import VolumeLifecycle.Proofs.Poll.Deadline
import VolumeLifecycle.Proofs.Program.Determined

namespace VolumeLifecycle

def sleepTime (es : List Exchange) : Nat :=
  (es.map fun ex => match ex.effect with
    | .sleep duration => duration
    | _ => 0).sum

theorem sleepTime_append (es es' : List Exchange) :
    sleepTime (es ++ es') = sleepTime es + sleepTime es' := by
  simp only [sleepTime, List.map_append, List.sum_append]

def Program.Trace.after {α World : Type} (es : List Exchange) (t : Trace α World) : Trace α World :=
  { t with exchanges := es ++ t.exchanges }

/-- The trace of a program that asks for an effect begins with that exchange. -/
theorem Program.trace_asks {α World : Type} {perform : World → (e : Effect) → e.Reply × World}
    {p : Program α} {e : Effect} {next : e.Reply → Program α} (hview : p.view = .asks e next)
    (fuel : Nat) (w : World) :
    trace perform (fuel + 1) p w =
      (trace perform fuel (next (perform w e).1) (perform w e).2).after [⟨e, (perform w e).1⟩] := by
  rw [trace, hview]
  rfl

namespace Conflict

/-- The replies to a question for a volume that settle a wait, and their verdicts. -/
inductive Settles (host : Host) : Except Failure Provider.Response → Verdict → Prop where
  | unanswered (f : Failure) : Settles host (.error f) .unreachable
  | refused {response : Provider.Response} (herr : response.err ≠ "") :
    Settles host (.ok response) .unreachable
  | missing {response : Provider.Response} (herr : response.err = "")
      (hvolume : response.volume = none) :
    Settles host (.ok response) .unreachable
  | free {response : Provider.Response} {volume : Volume} (herr : response.err = "")
      (hvolume : response.volume = some volume) (hfree : volume.inUse = false) :
    Settles host (.ok response) .free
  | attachedHere {response : Provider.Response} {volume : Volume} (herr : response.err = "")
      (hvolume : response.volume = some volume) (hinUse : volume.inUse = true)
      (hattached : volume.isAttachedTo host = true) :
    Settles host (.ok response) .attachedHere

theorem judge_eq_some_iff {host : Host} {volume : Volume} {verdict : Verdict} :
    judge host volume = some verdict ↔
      (volume.inUse = false ∧ verdict = .free) ∨
        (volume.inUse = true ∧ volume.isAttachedTo host = true ∧ verdict = .attachedHere) := by
  cases hinUse : volume.inUse <;> cases hattached : volume.isAttachedTo host <;>
    simp [judge, hinUse, hattached, eq_comm]

/-- A reply is judged by whether it settles the wait. -/
theorem judgeReply_eq_some_iff (name : String) {host : Host}
    {reply : Except Failure Provider.Response} {verdict : Verdict} :
    judgeReply name host reply = some verdict ↔ Settles host reply verdict := by
  constructor
  · intro h
    cases reply with
    | error f =>
      cases h
      exact .unanswered f
    | ok response =>
      unfold judgeReply at h
      cases hshown : response.intoVolume name with
      | error f =>
        simp only [hshown] at h
        cases h
        by_cases herr : response.err = ""
        · refine .missing herr (Option.eq_none_iff_forall_ne_some.2 fun volume hvolume => ?_)
          cases hshown.symm.trans (Provider.Response.intoVolume_eq_ok_iff.2 ⟨herr, hvolume⟩)
        · exact .refused herr
      | ok volume =>
        simp only [hshown] at h
        obtain ⟨herr, hvolume⟩ := Provider.Response.intoVolume_eq_ok_iff.1 hshown
        rcases judge_eq_some_iff.1 h with ⟨hfree, rfl⟩ | ⟨hinUse, hattached, rfl⟩
        · exact .free herr hvolume hfree
        · exact .attachedHere herr hvolume hinUse hattached
  · intro h
    cases h <;> simp_all [judgeReply, Provider.Response.intoVolume, Provider.Response.check, judge]

/-- A reply that settles nothing leaves the wait pending. -/
theorem judgeReply_eq_none_iff (name : String) {host : Host}
    {reply : Except Failure Provider.Response} :
    judgeReply name host reply = none ↔ ∀ verdict, ¬ Settles host reply verdict := by
  rw [Option.eq_none_iff_forall_ne_some]
  exact forall_congr' fun verdict => not_congr (judgeReply_eq_some_iff name)

/-- What the provider replies to the questions of a wait, one after the other, and to its reset. -/
structure Replies where
  get : Nat → Except Failure Provider.Response
  update : Except Failure Provider.Response

/-- How far a wait has come: the time, and how many questions it has asked. -/
structure Standing where
  clock : Nat
  asked : Nat := 0

/-- Surroundings that give these replies at once, so that time passes only while the wait sleeps. What
they do on anything that a wait does not ask for is of no account. -/
def Replies.perform (a : Replies) (s : Standing) : (e : Effect) → e.Reply × Standing
  | .call (.provider .get _) => (a.get s.asked, { s with asked := s.asked + 1 })
  | .call (.provider .update _) => (a.update, s)
  | .call _ => (.error default, s)
  | .describeHost => (.error default, s)
  | .now => (s.clock, s)
  | .sleep duration => ((), { s with clock := s.clock + duration })
  | .removeDirectory _ => (.ok (), s)

def Replies.SettlesAt (a : Replies) (host : Host) (n : Nat) (verdict : Verdict) : Prop :=
  (∀ i < n, ∀ v, ¬ Settles host (a.get i) v) ∧ Settles host (a.get n) verdict

namespace Wait

/-- What a wait does with these replies from a given time on, as far as a number of steps goes. -/
def course (w : Wait) (a : Replies) (now : Nat) (fuel : Nat) : Program.Trace Verdict Standing :=
  Program.trace a.perform fuel (.await w .done) ⟨now, 0⟩

/-- A wait comes to an end with these replies, and what it has asked for and slept by then. -/
def Finishes (w : Wait) (a : Replies) (now : Nat) (verdict : Verdict) (asked : List Call)
    (slept : Nat) : Prop :=
  ∃ enough, ∀ fuel ≥ enough, (w.course a now fuel).outcome = some verdict ∧
    calls (w.course a now fuel).exchanges = asked ∧ sleepTime (w.course a now fuel).exchanges = slept

variable {a : Replies} {name : String} {host : Host} {kind : Kind} {tick : Nat}
  {deadline : Option Nat}

/-- The wait in a phase of its loop, if no reply has settled it so far. -/
def unsettled (name : String) (host : Host) (kind : Kind) (tick : Nat) (phase : Poll.Phase) : Wait :=
  ⟨name, host, kind, ⟨tick, phase⟩, none⟩

def asking (a : Replies) (name : String) (host : Host) (kind : Kind) (tick : Nat)
    (deadline : Option Nat) (fuel : Nat) (s : Standing) : Program.Trace Verdict Standing :=
  Program.trace a.perform fuel (.await (unsettled name host kind tick (.probing deadline)) .done) s

def answered (name : String) (host : Host) (kind : Kind) (tick : Nat) (deadline : Option Nat)
    (reply : Except Failure Provider.Response) : Wait :=
  (unsettled name host kind tick (.probing deadline)).afterProbe
    (fun found => Poll.Loop.withPhase ⟨tick, .probing deadline⟩ (Poll.Loop.afterProbe deadline found))
    reply

theorem asking_succ (s : Standing) (fuel : Nat) :
    asking a name host kind tick deadline (fuel + 1) s =
      (Program.trace a.perform fuel (.await (answered name host kind tick deadline (a.get s.asked)) .done)
        { s with asked := s.asked + 1 }).after
          [⟨.call (.provider .get (.named name)), a.get s.asked⟩] := by
  rw [asking, Program.trace_asks rfl]
  rfl

theorem asking_settled (kind : Kind) (tick : Nat) (deadline : Option Nat) {s : Standing}
    {verdict : Verdict} (h : judgeReply name host (a.get s.asked) = some verdict) (fuel : Nat) :
    ∃ s', asking a name host kind tick deadline (fuel + 2) s =
      ⟨[⟨.call (.provider .get (.named name)), a.get s.asked⟩], some verdict, s'⟩ := by
  have hover : (answered name host kind tick deadline (a.get s.asked)).view = .ended verdict :=
    view_afterProbe (unsettled name host kind tick (.probing deadline)) deadline h
  refine ⟨{ s with asked := s.asked + 1 }, ?_⟩
  rw [asking_succ, Program.trace, Program.view, hover]
  rfl

/-- A question that settles nothing, and the look at the clock after it. -/
theorem asking_pending {s : Standing} (h : judgeReply name host (a.get s.asked) = none) (fuel : Nat) :
    asking a name host kind tick deadline (fuel + 2) s =
      (Program.trace a.perform fuel
        (.await (unsettled name host kind tick (Poll.Loop.afterCheck tick deadline s.clock)) .done)
        { s with asked := s.asked + 1 }).after
          [⟨.call (.provider .get (.named name)), a.get s.asked⟩, ⟨.now, s.clock⟩] := by
  have hchecking : answered name host kind tick deadline (a.get s.asked) =
      unsettled name host kind tick (.checking deadline) := by
    simp only [answered, afterProbe, unsettled, h]
    rfl
  rw [asking_succ, hchecking, Program.trace_asks rfl]
  rfl

theorem asking_napped {s : Standing} {nap : Nat}
    (h : judgeReply name host (a.get s.asked) = none)
    (hpause : Poll.pauseAt tick deadline s.clock = .sleep nap) (fuel : Nat) :
    asking a name host kind tick deadline (fuel + 3) s =
      (asking a name host kind tick deadline fuel ⟨s.clock + nap, s.asked + 1⟩).after
        [⟨.call (.provider .get (.named name)), a.get s.asked⟩, ⟨.now, s.clock⟩, ⟨.sleep nap, ()⟩] := by
  rw [asking_pending h (fuel + 1), Poll.Loop.afterCheck, hpause, Program.trace_asks rfl]
  rfl

theorem asking_expired (kind : Kind) {s : Standing}
    (h : judgeReply name host (a.get s.asked) = none)
    (hpause : Poll.pauseAt tick deadline s.clock = .expire) (fuel : Nat) :
    ∃ s', asking a name host kind tick deadline (fuel + 4) s =
      ⟨[⟨.call (.provider .get (.named name)), a.get s.asked⟩, ⟨.now, s.clock⟩,
        ⟨.call (unsettled name host kind tick .expiring).resetCall, a.update⟩], some .timedOut, s'⟩ := by
  refine ⟨{ s with asked := s.asked + 1 }, ?_⟩
  rw [asking_pending h (fuel + 2), Poll.Loop.afterCheck, hpause, Program.trace_asks rfl]
  rfl

/-- Rounds of a wait, each with a question that settles nothing, a look at the clock and a nap. -/
theorem asking_rounds (kind : Kind) (clock : Nat → Nat) {n : Nat}
    (hpending : ∀ i < n, judgeReply name host (a.get i) = none)
    (hnaps : ∀ i < n, ∃ nap, Poll.pauseAt tick deadline (clock i) = .sleep nap ∧
      clock (i + 1) = clock i + nap) :
    ∃ es, calls es = .replicate n (.provider .get (.named name)) ∧
      clock 0 + sleepTime es = clock n ∧
      ∀ fuel, asking a name host kind tick deadline (fuel + 3 * n) ⟨clock 0, 0⟩ =
        (asking a name host kind tick deadline fuel ⟨clock n, n⟩).after es := by
  -- The induction takes the last round off, since a wait does not know how many rounds are behind it.
  induction n with
  | zero => exact ⟨[], rfl, rfl, fun fuel => rfl⟩
  | succ n ih =>
    obtain ⟨es, hcalls, hsleep, hgoes⟩ := ih (fun i hi => hpending i (Nat.lt_succ_of_lt hi))
      fun i hi => hnaps i (Nat.lt_succ_of_lt hi)
    obtain ⟨nap, hpause, hclock⟩ := hnaps n (Nat.lt_succ_self n)
    refine ⟨es ++ [⟨.call (.provider .get (.named name)), a.get n⟩, ⟨.now, clock n⟩, ⟨.sleep nap, ()⟩],
      ?_, ?_, fun fuel => ?_⟩
    · rw [calls_append, hcalls, List.replicate_succ']
      rfl
    · rw [sleepTime_append, ← Nat.add_assoc, hsleep, hclock]
      simp [sleepTime]
    · rw [show fuel + 3 * (n + 1) = fuel + 3 + 3 * n by omega, hgoes,
        asking_napped (s := ⟨clock n, n⟩) (hpending n (Nat.lt_succ_self n)) hpause, hclock]
      simp only [Program.Trace.after, List.append_assoc]

/-- How the clock stands after so many naps of a wait that began at a given time. -/
def clockAfter (tick : Nat) (deadline : Option Nat) (now naps : Nat) : Nat :=
  match deadline with
  | none => now + naps * tick
  | some d => min (now + naps * tick) d

theorem clockAfter_succ {now n : Nat} (hroom : ∀ d, deadline = some d → now + n * tick < d) :
    ∃ nap, Poll.pauseAt tick deadline (clockAfter tick deadline now n) = .sleep nap ∧
      clockAfter tick deadline now (n + 1) = clockAfter tick deadline now n + nap := by
  cases deadline with
  | none => exact ⟨tick, rfl, by simp only [clockAfter, Nat.succ_mul, Nat.add_assoc]⟩
  | some d =>
    have hbefore := hroom d rfl
    simp only [clockAfter, Nat.min_eq_left hbefore.le]
    refine ⟨_, Poll.pauseAt_eq_sleep_iff.2 ⟨hbefore, rfl⟩, ?_⟩
    rw [Nat.succ_mul]
    omega

/-- A nap that begins before the time is up for each tick of the limit. -/
theorem mul_lt_of_lt_ceilDiv {timeout n : Nat} (htick : 0 < tick) (hn : n < timeout ⌈/⌉ tick) :
    n * tick < timeout := by
  have hlt := mt (ceilDiv_le_iff_le_mul htick).2 (Nat.not_le.2 hn)
  rwa [Nat.mul_comm, Nat.not_le] at hlt

variable {timeout now n : Nat}

theorem course_start (fuel : Nat) :
    course (.start name host kind tick timeout) a now (fuel + 1) =
      (asking a name host kind tick (Poll.deadline? now timeout) fuel ⟨now, 0⟩).after
        [⟨.now, now⟩] := by
  rw [course, Program.trace_asks rfl]
  rfl

/-- A wait up to its `n`-th question, if no reply to an earlier one settles it. -/
theorem course_rounds (name : String) (kind : Kind) (htick : 0 < tick)
    (hpending : ∀ i < n, judgeReply name host (a.get i) = none)
    (hroom : ∀ d, Poll.deadline? now timeout = some d → n ≤ timeout ⌈/⌉ tick) :
    ∃ es, calls es = .replicate n (.provider .get (.named name)) ∧
      now + sleepTime es = clockAfter tick (Poll.deadline? now timeout) now n ∧
      ∀ fuel, course (.start name host kind tick timeout) a now (fuel + 3 * n + 1) =
        (asking a name host kind tick (Poll.deadline? now timeout) fuel
          ⟨clockAfter tick (Poll.deadline? now timeout) now n, n⟩).after es := by
  have hfirst : clockAfter tick (Poll.deadline? now timeout) now 0 = now := by
    cases hdeadline : Poll.deadline? now timeout with
    | none => simp only [clockAfter, Nat.zero_mul, Nat.add_zero]
    | some d =>
      obtain rfl := Poll.deadline?_eq_some hdeadline
      simp only [clockAfter, Nat.zero_mul, Nat.add_zero]
      omega
  obtain ⟨es, hcalls, hsleep, hgoes⟩ := asking_rounds kind
    (clockAfter tick (Poll.deadline? now timeout) now) hpending fun i hi =>
      clockAfter_succ fun d hd => by
        have hbefore := mul_lt_of_lt_ceilDiv htick (Nat.lt_of_lt_of_le hi (hroom d hd))
        rw [Poll.deadline?_eq_some hd]
        omega
  rw [hfirst] at hsleep hgoes
  refine ⟨⟨.now, now⟩ :: es, hcalls, ?_, fun fuel => ?_⟩
  · rw [← hsleep]
    simp [sleepTime]
  · rw [course_start, hgoes]
    rfl

/-- What a wait has done by its end counts, since more steps change nothing. -/
theorem finishes_of_course {w : Wait} {fuel slept : Nat} {es : List Exchange} {verdict : Verdict}
    {s : Standing} {asked : List Call} (h : w.course a now fuel = ⟨es, some verdict, s⟩)
    (hcalls : calls es = asked) (hsleep : sleepTime es = slept) :
    w.Finishes a now verdict asked slept := by
  refine ⟨fuel, fun more hmore => ?_⟩
  obtain ⟨extra, rfl⟩ := Nat.exists_eq_add_of_le hmore
  have hsame : w.course a now (fuel + extra) = w.course a now fuel :=
    Program.trace_add (a := verdict) (congrArg Program.Trace.outcome h) extra
  rw [hsame, h]
  exact ⟨rfl, hcalls, hsleep⟩

/-- A reply settles the wait if the time is not up before its question. -/
theorem finishes_of_settlesAt (name : String) (kind : Kind) (htick : 0 < tick) {verdict : Verdict}
    (hroom : ∀ d, Poll.deadline? now timeout = some d → n ≤ timeout ⌈/⌉ tick)
    (h : a.SettlesAt host n verdict) {slept : Nat}
    (hslept : clockAfter tick (Poll.deadline? now timeout) now n = now + slept) :
    (start name host kind tick timeout).Finishes a now verdict
      (.replicate (n + 1) (.provider .get (.named name))) slept := by
  obtain ⟨es, hcalls, hsleep, hgoes⟩ := course_rounds name kind htick
    (fun i hi => (judgeReply_eq_none_iff name).2 (h.1 i hi)) hroom
  obtain ⟨s', hlast⟩ := asking_settled (a := a) kind tick (Poll.deadline? now timeout)
    (s := ⟨clockAfter tick (Poll.deadline? now timeout) now n, n⟩)
    ((judgeReply_eq_some_iff name).2 h.2) 0
  refine finishes_of_course ((hgoes 2).trans (congrArg (Program.Trace.after es) hlast)) ?_ ?_
  · rw [calls_append, hcalls, List.replicate_succ']
    rfl
  · rw [sleepTime_append, Nat.add_left_cancel (hsleep.trans hslept)]
    rfl

/-- If no reply settles the wait until the time is up, it ends with the reset. -/
theorem finishes_of_pending (name : String) (kind : Kind) (htick : 0 < tick) {d : Nat}
    (hdeadline : Poll.deadline? now timeout = some d)
    (h : ∀ i ≤ timeout ⌈/⌉ tick, ∀ verdict, ¬ Settles host (a.get i) verdict) :
    (start name host kind tick timeout).Finishes a now .timedOut
      (.replicate (timeout ⌈/⌉ tick + 1) (.provider .get (.named name)) ++
        [.provider .update ((Provider.Request.named name).withOpt kind.option.name (.natural 0))])
      timeout := by
  have hpending : ∀ i ≤ timeout ⌈/⌉ tick, judgeReply name host (a.get i) = none :=
    fun i hi => (judgeReply_eq_none_iff name).2 (h i hi)
  obtain ⟨es, hcalls, hsleep, hgoes⟩ := course_rounds (n := timeout ⌈/⌉ tick) name kind htick
    (fun i hi => hpending i hi.le) fun _ _ => le_rfl
  obtain rfl := Poll.deadline?_eq_some hdeadline
  have hup : timeout ≤ timeout ⌈/⌉ tick * tick := by
    rw [Nat.mul_comm]
    exact (ceilDiv_le_iff_le_mul htick).1 le_rfl
  -- The last nap ends at the deadline and not after it, and the question there is still asked.
  have hclock : clockAfter tick (Poll.deadline? now timeout) now (timeout ⌈/⌉ tick) =
      now + timeout := by
    rw [hdeadline, clockAfter, Nat.min_eq_right (Nat.add_le_add_left hup now)]
  have hpause : Poll.pauseAt tick (Poll.deadline? now timeout) (now + timeout) = .expire := by
    rw [hdeadline]
    exact Poll.pauseAt_eq_expire_iff.2 le_rfl
  rw [hclock] at hsleep hgoes
  obtain ⟨s', hlast⟩ := asking_expired kind (s := ⟨now + timeout, timeout ⌈/⌉ tick⟩)
    (hpending _ le_rfl) hpause 0
  refine finishes_of_course ((hgoes 4).trans (congrArg (Program.Trace.after es) hlast)) ?_ ?_
  · rw [calls_append, hcalls, List.replicate_succ', List.append_assoc]
    rfl
  · rw [sleepTime_append, Nat.add_left_cancel hsleep]
    rfl

/-- Without a deadline and without a reply that settles it, a wait does not end. -/
theorem outcome_eq_none (name : String) (kind : Kind) (htick : 0 < tick)
    (hdeadline : Poll.deadline? now timeout = none)
    (h : ∀ i verdict, ¬ Settles host (a.get i) verdict) (fuel : Nat) :
    ((start name host kind tick timeout).course a now fuel).outcome = none := by
  obtain ⟨es, -, -, hgoes⟩ := course_rounds (n := fuel) name kind htick
    (fun i _ => (judgeReply_eq_none_iff name).2 (h i)) fun d hd => absurd (hdeadline.symm.trans hd) nofun
  have hlater : ((start name host kind tick timeout).course a now (0 + 3 * fuel + 1)).outcome = none :=
    congrArg Program.Trace.outcome (hgoes 0)
  cases houtcome : ((start name host kind tick timeout).course a now fuel).outcome with
  | none => rfl
  | some verdict =>
    -- An end would stand for good, but so many rounds later the wait is still going on.
    have hsame := Program.trace_add houtcome (2 * fuel + 1)
    rw [show 0 + 3 * fuel + 1 = fuel + (2 * fuel + 1) by omega, course, hsame] at hlater
    cases houtcome.symm.trans hlater

/-- The course of a conflict wait in closed form. A wait that the clock can time asks at the beginning
and then once for each tick of the limit, the last tick being cut short, and the first reply that
settles it decides; the reply found just when the time is up counts as well. A wait that the clock
cannot time asks until a reply settles it. -/
theorem closed_form (name : String) (host : Host) (kind : Kind) {tick : Nat} (htick : 0 < tick)
    (timeout now : Nat) (a : Replies) :
    let w := start name host kind tick timeout
    let question := Call.provider .get (.named name)
    let reset := Call.provider .update
      ((Provider.Request.named name).withOpt kind.option.name (.natural 0))
    (∀ d, Poll.deadline? now timeout = some d →
      (∀ n ≤ timeout ⌈/⌉ tick, ∀ verdict, a.SettlesAt host n verdict →
        w.Finishes a now verdict (.replicate (n + 1) question) (min (n * tick) timeout)) ∧
      ((∀ i ≤ timeout ⌈/⌉ tick, ∀ verdict, ¬ Settles host (a.get i) verdict) →
        w.Finishes a now .timedOut (.replicate (timeout ⌈/⌉ tick + 1) question ++ [reset]) timeout)) ∧
    (Poll.deadline? now timeout = none →
      (∀ n verdict, a.SettlesAt host n verdict →
        w.Finishes a now verdict (.replicate (n + 1) question) (n * tick)) ∧
      ((∀ i verdict, ¬ Settles host (a.get i) verdict) →
        ∀ fuel, (w.course a now fuel).outcome = none)) := by
  intro w question reset
  refine ⟨fun d hdeadline => ⟨fun n hn verdict hsettles => ?_, fun hpending => ?_⟩,
    fun hdeadline => ⟨fun n verdict hsettles => ?_, fun hpending fuel => ?_⟩⟩
  · refine finishes_of_settlesAt name kind htick (fun _ _ => hn) hsettles ?_
    rw [hdeadline, Poll.deadline?_eq_some hdeadline, clockAfter, Nat.add_min_add_left]
  · exact finishes_of_pending name kind htick hdeadline hpending
  · refine finishes_of_settlesAt name kind htick (fun d hd => ?_) hsettles ?_
    · cases hdeadline.symm.trans hd
    · rw [hdeadline, clockAfter]
  · exact outcome_eq_none name kind htick hdeadline hpending fuel

/-- The other host lets go just when the time is up, at the fourth question, or not at all. -/
theorem closed_form_twelve_seconds :
    let held : Provider.Response := .ofVolume { (default : Volume) with inUse := true }
    let w := start "vol1" default .mount 5000 12000
    let question := Call.provider .get (.named "vol1")
    0 < 5000 ∧
      w.Finishes ⟨fun n => .ok (if n = 3 then .ofVolume default else held), .error default⟩ 0 .free
        [question, question, question, question] 12000 ∧
      w.Finishes ⟨fun _ => .ok held, .error default⟩ 0 .timedOut
        [question, question, question, question,
          .provider .update ((Provider.Request.named "vol1").withOpt Options.Key.mountConflictDelay.name
            (.natural 0))] 12000 := by
  intro held w question
  have htick : 0 < 5000 := by decide
  have hdeadline : Poll.deadline? 0 12000 = some 12000 := by decide +kernel
  have hheld : ∀ verdict, ¬ Settles default (.ok held) verdict :=
    (judgeReply_eq_none_iff "vol1").1 rfl
  refine ⟨htick, ?_, ?_⟩
  · refine ((closed_form "vol1" default .mount htick 12000 0 _).1 12000 hdeadline).1 3 (by decide) .free
      ⟨fun i hi => ?_, .free rfl rfl rfl⟩
    simp only [Nat.ne_of_lt hi, if_false]
    exact hheld
  · exact ((closed_form "vol1" default .mount htick 12000 0 _).1 12000 hdeadline).2 fun i _ => hheld

end Wait
end Conflict
end VolumeLifecycle
