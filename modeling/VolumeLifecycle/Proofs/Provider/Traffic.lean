import Mathlib.Data.List.Basic
import VolumeLifecycle.Provider.Handle

namespace VolumeLifecycle.Provider

variable {Client World : Type}

namespace Handle

def attempted (h : Handle Client) : Handle Client :=
  { h with attempts := h.attempts + 1 }

/-- The handle after an attempt to connect: a client is kept, a failure is not. -/
def kept (h : Handle Client) : Except Failure Client → Handle Client
  | .ok client => { h with client := some client }
  | .error _ => h

end Handle

inductive Traffic.Stage (Client : Type) where
  /-- It waits for the lock. -/
  | waiting
  /-- It has the lock and has not looked for a client yet. -/
  | inside
  /-- It has the lock and has found no client; its attempt to connect is under way. -/
  | connecting (attempt : Nat)
  /-- It has the lock, and a client or the reason why there is none. -/
  | leaving (outcome : Except Failure Client)
  /-- It has given the lock back. -/
  | outside (outcome : Except Failure Client)
  /-- Its request has reached the client. -/
  | sent (client : Client)
  /-- The client has replied. -/
  | replied (reply : Except Failure Response)
  /-- It is over. -/
  | returned (result : Except Failure Response)
  /-- It was given up. -/
  | dropped

structure Traffic.Caller (Client : Type) where
  op : Op
  request : Request
  stage : Traffic.Stage Client

/-- Something that is seen of a caller from outside. -/
inductive Traffic.Sign (Client : Type) where
  /-- It makes an attempt to connect; attempts are counted from zero. -/
  | tried (caller attempt : Nat)
  /-- A request of it reaches a client. -/
  | reached (caller : Nat) (client : Client) (op : Op) (request : Request)
  /-- A client replies to a request of it. -/
  | replied (caller : Nat) (client : Client) (op : Op) (request : Request)
      (reply : Except Failure Response)
  /-- It gets its result. -/
  | returned (caller : Nat) (result : Except Failure Response)

/-- A handle and the calls through it; the number of a caller is its place. -/
structure Traffic (Client World : Type) where
  handle : Handle Client
  /-- Who has the lock of the handle. -/
  holder : Option Nat
  callers : List (Traffic.Caller Client)
  world : World
  /-- What has been seen, in order. -/
  log : List (Traffic.Sign Client)

namespace Traffic

def Sign.caller : Sign Client → Nat
  | tried i _ => i
  | reached i _ _ _ => i
  | replied i _ _ _ _ => i
  | returned i _ => i

def Sign.attempt? : Sign Client → Option Nat
  | tried _ n => some n
  | _ => none

def Sign.exchange? : Sign Client → Option ((Client × Op × Request) × Except Failure Response)
  | replied _ client op request reply => some ((client, op, request), reply)
  | _ => none

def Stage.isLocked : Stage Client → Bool
  | inside => true
  | connecting _ => true
  | leaving _ => true
  | _ => false

def Stage.stepsLeft : Stage Client → Nat
  | waiting => 7
  | inside => 6
  | connecting _ => 5
  | leaving _ => 4
  | outside _ => 3
  | sent _ => 2
  | replied _ => 1
  | returned _ => 0
  | dropped => 0

def begin (world : World) : Traffic Client World :=
  ⟨.unused, none, [], world, []⟩

/-- What one step of a caller makes of the traffic: its stage, what is shared, and what is seen. -/
structure Change (Client World : Type) where
  stage : Stage Client
  handle : Handle Client
  holder : Option Nat
  world : World
  signs : List (Sign Client)

def take (t : Traffic Client World) (i : Nat) (c : Change Client World) : Traffic Client World where
  handle := c.handle
  holder := c.holder
  callers := t.callers.modify i fun caller => { caller with stage := c.stage }
  world := c.world
  log := t.log ++ c.signs

/-- A step that moves a caller to another stage and does nothing else. -/
def moved (t : Traffic Client World) (stage : Stage Client) : Change Client World :=
  ⟨stage, t.handle, t.holder, t.world, []⟩

/-- The next step of a caller. One that waits for the lock has none while somebody holds it. -/
def change? (connect : Nat → Except Failure Client)
    (send : Client → Op → Request → World → Except Failure Response × World)
    (t : Traffic Client World) (i : Nat) (op : Op) (request : Request) :
    Stage Client → Option (Change Client World)
  | .waiting =>
    match t.holder with
    | some _ => none
    | none => some { t.moved .inside with holder := some i }
  | .inside =>
    match t.handle.client with
    | some client => some (t.moved (.leaving (.ok client)))
    | none =>
      some { t.moved (.connecting t.handle.attempts) with
        handle := t.handle.attempted
        signs := [.tried i t.handle.attempts] }
  | .connecting n =>
    some { t.moved (.leaving (connect n)) with handle := t.handle.kept (connect n) }
  | .leaving outcome => some { t.moved (.outside outcome) with holder := none }
  | .outside (.ok client) =>
    some { t.moved (.sent client) with signs := [.reached i client op request] }
  | .outside (.error f) =>
    some { t.moved (.returned (.error f)) with signs := [.returned i (.error f)] }
  | .sent client =>
    let (reply, world) := send client op request t.world
    some { t.moved (.replied reply) with world, signs := [.replied i client op request reply] }
  | .replied reply => some { t.moved (.returned reply) with signs := [.returned i reply] }
  | .returned _ => none
  | .dropped => none

/-- Lets a caller take its next step, if it has one. -/
def advance (connect : Nat → Except Failure Client)
    (send : Client → Op → Request → World → Except Failure Response × World)
    (t : Traffic Client World) (i : Nat) : Traffic Client World :=
  match t.callers[i]? with
  | none => t
  | some ⟨op, request, stage⟩ =>
    match t.change? connect send i op request stage with
    | none => t
    | some c => t.take i c

def Stage.isAwaiting : Stage Client → Bool
  | waiting => true
  | sent _ => true
  | replied _ => true
  | _ => false

/-- Gives up a caller that waits for the lock or for a reply. -/
def drop (t : Traffic Client World) (i : Nat) : Traffic Client World :=
  match t.callers[i]? with
  | none => t
  | some caller => if caller.stage.isAwaiting then t.take i (t.moved .dropped) else t

/-- An atomic step, taken by one caller, so every way in which calls can overlap is a list of them.
The lock goes to any of those who wait for it, and a caller can be given up while it waits for the
lock or for a reply. -/
inductive Event where
  | call (op : Op) (request : Request)
  | advance (i : Nat)
  | drop (i : Nat)

def Event.asked? : Event → Option (Op × Request)
  | call op request => some (op, request)
  | _ => none

def apply (connect : Nat → Except Failure Client)
    (send : Client → Op → Request → World → Except Failure Response × World)
    (t : Traffic Client World) : Event → Traffic Client World
  | .call op request => { t with callers := t.callers ++ [⟨op, request, .waiting⟩] }
  | .advance i => t.advance connect send i
  | .drop i => t.drop i

def run (connect : Nat → Except Failure Client)
    (send : Client → Op → Request → World → Except Failure Response × World)
    (t : Traffic Client World) (events : List Event) : Traffic Client World :=
  events.foldl (apply connect send) t

def seenOf (log : List (Sign Client)) (i : Nat) : List (Sign Client) :=
  log.filter fun sign => sign.caller = i

variable {connect : Nat → Except Failure Client}
  {send : Client → Op → Request → World → Except Failure Response × World}
  {t : Traffic Client World} {i : Nat} {op : Op} {request : Request} {stage : Stage Client}
  {c : Change Client World} {e : Event}

theorem callers_take (t : Traffic Client World) (i j : Nat) (c : Change Client World) :
    (t.take i c).callers[j]? =
      if i = j then (t.callers[j]?).map fun caller => { caller with stage := c.stage }
      else t.callers[j]? := by
  rw [take, List.getElem?_modify]
  split <;> simp

/-- Who is there after a step of a caller is that caller at its new stage, or was there before. -/
theorem callers_take_cases {caller : Caller Client} {j : Nat}
    (hcaller : t.callers[i]? = some ⟨op, request, stage⟩)
    (hj : (t.take i c).callers[j]? = some caller) :
    (i = j ∧ caller = ⟨op, request, c.stage⟩) ∨ (i ≠ j ∧ t.callers[j]? = some caller) := by
  rw [callers_take] at hj
  split at hj
  · next hij =>
    rw [← hij, hcaller] at hj
    exact .inl ⟨hij, (Option.some.inj hj).symm⟩
  · next hij => exact .inr ⟨hij, hj⟩

/-- Who is there after a call was there before, or is the new caller. -/
theorem callers_call {new caller : Caller Client} {j : Nat}
    (hj : (t.callers ++ [new])[j]? = some caller) :
    t.callers[j]? = some caller ∨ t.callers[j]? = none ∧ caller = new := by
  rw [List.getElem?_append] at hj
  split at hj
  · exact .inl hj
  · next hnew =>
    rw [List.getElem?_singleton] at hj
    split at hj
    · exact .inr ⟨List.getElem?_eq_none (by omega), (Option.some.inj hj).symm⟩
    · cases hj

@[simp]
theorem length_callers_take (t : Traffic Client World) (i : Nat) (c : Change Client World) :
    (t.take i c).callers.length = t.callers.length :=
  List.length_modify ..

theorem seenOf_append (log signs : List (Sign Client)) (i : Nat) :
    seenOf (log ++ signs) i = seenOf log i ++ seenOf signs i :=
  List.filter_append ..

/-- What a step of a caller does, and at which stage it takes it. -/
inductive Leads (connect : Nat → Except Failure Client)
    (send : Client → Op → Request → World → Except Failure Response × World)
    (t : Traffic Client World) (i : Nat) (op : Op) (request : Request) :
    Event → Stage Client → Change Client World → Prop
  | enters (hfree : t.holder = none) :
    Leads connect send t i op request (.advance i) .waiting
      { t.moved .inside with holder := some i }
  | finds (client : Client) (hclient : t.handle.client = some client) :
    Leads connect send t i op request (.advance i) .inside (t.moved (.leaving (.ok client)))
  | tries (hclient : t.handle.client = none) :
    Leads connect send t i op request (.advance i) .inside
      { t.moved (.connecting t.handle.attempts) with
        handle := t.handle.attempted
        signs := [.tried i t.handle.attempts] }
  | connects (n : Nat) :
    Leads connect send t i op request (.advance i) (.connecting n)
      { t.moved (.leaving (connect n)) with handle := t.handle.kept (connect n) }
  | leaves (outcome : Except Failure Client) :
    Leads connect send t i op request (.advance i) (.leaving outcome)
      { t.moved (.outside outcome) with holder := none }
  | reaches (client : Client) :
    Leads connect send t i op request (.advance i) (.outside (.ok client))
      { t.moved (.sent client) with signs := [.reached i client op request] }
  | fails (f : Failure) :
    Leads connect send t i op request (.advance i) (.outside (.error f))
      { t.moved (.returned (.error f)) with signs := [.returned i (.error f)] }
  | gets (client : Client) :
    Leads connect send t i op request (.advance i) (.sent client)
      { t.moved (.replied (send client op request t.world).1) with
        world := (send client op request t.world).2
        signs := [.replied i client op request (send client op request t.world).1] }
  | returns (reply : Except Failure Response) :
    Leads connect send t i op request (.advance i) (.replied reply)
      { t.moved (.returned reply) with signs := [.returned i reply] }
  | drops (stage : Stage Client) (hawaiting : stage.isAwaiting = true) :
    Leads connect send t i op request (.drop i) stage (t.moved .dropped)

/-- A caller's next step is one of those that can happen at its stage. -/
theorem leads_of_change? (h : t.change? connect send i op request stage = some c) :
    t.Leads connect send i op request (.advance i) stage c := by
  unfold change? at h
  split at h
  · split at h
    · cases h
    · next hfree => exact Option.some.inj h ▸ .enters hfree
  · split at h
    · next client hclient => exact Option.some.inj h ▸ .finds client hclient
    · next hclient => exact Option.some.inj h ▸ .tries hclient
  · exact Option.some.inj h ▸ .connects _
  · exact Option.some.inj h ▸ .leaves _
  · exact Option.some.inj h ▸ .reaches _
  · exact Option.some.inj h ▸ .fails _
  · exact Option.some.inj h ▸ .gets _
  · exact Option.some.inj h ▸ .returns _
  · cases h
  · cases h

/-- Everything that can happen in one atomic step. -/
inductive Step (connect : Nat → Except Failure Client)
    (send : Client → Op → Request → World → Except Failure Response × World)
    (t : Traffic Client World) : Event → Traffic Client World → Prop
  | idles (e : Event) (hasked : e.asked? = none) : Step connect send t e t
  | calls (op : Op) (request : Request) :
    Step connect send t (.call op request)
      { t with callers := t.callers ++ [⟨op, request, .waiting⟩] }
  | takes (e : Event) (i : Nat) (op : Op) (request : Request) (stage : Stage Client)
    (c : Change Client World) (hcaller : t.callers[i]? = some ⟨op, request, stage⟩)
    (hleads : t.Leads connect send i op request e stage c) : Step connect send t e (t.take i c)

/-- What happens to a handle and its callers is a step. -/
theorem step_apply (connect : Nat → Except Failure Client)
    (send : Client → Op → Request → World → Except Failure Response × World)
    (t : Traffic Client World) (e : Event) : t.Step connect send e (t.apply connect send e) := by
  cases e with
  | call op request => exact .calls op request
  | advance i =>
    unfold apply advance
    dsimp only
    split
    · exact .idles _ rfl
    next op request stage hcaller =>
    split
    · exact .idles _ rfl
    · next c hchange => exact .takes _ i op request stage c hcaller (leads_of_change? hchange)
  | drop i =>
    unfold apply drop
    dsimp only
    split
    · exact .idles _ rfl
    next caller hcaller =>
    split
    · next hawaiting => exact .takes _ i _ _ _ _ hcaller (.drops _ hawaiting)
    · exact .idles _ rfl

namespace Leads

theorem caller_of_mem (h : t.Leads connect send i op request e stage c) {sign : Sign Client}
    (hsign : sign ∈ c.signs) : sign.caller = i := by
  cases h <;> simp_all [moved, Sign.caller]

theorem seenOf_signs (h : t.Leads connect send i op request e stage c) :
    seenOf c.signs i = c.signs :=
  List.filter_eq_self.2 fun _ hsign => by simp [h.caller_of_mem hsign]

/-- What one caller does is not seen of another. -/
theorem seenOf_signs_of_ne (h : t.Leads connect send i op request e stage c) {j : Nat}
    (hne : i ≠ j) : seenOf c.signs j = [] :=
  List.filter_eq_nil_iff.2 fun _ hsign => by simp [h.caller_of_mem hsign, hne]

theorem asked?_eq_none (h : t.Leads connect send i op request e stage c) : e.asked? = none := by
  cases h <;> rfl

/-- Only a caller that has the lock changes the handle. -/
theorem handle_eq (h : t.Leads connect send i op request e stage c)
    (hunlocked : stage.isLocked = false) : c.handle = t.handle := by
  cases h with
  | tries | connects => cases hunlocked
  | _ => rfl

/-- A step takes the lock while nobody has it, or gives it back, or leaves it where it is. -/
theorem holder_cases (h : t.Leads connect send i op request e stage c) :
    (t.holder = none ∧ c.holder = some i ∧ c.stage.isLocked = true) ∨
      (stage.isLocked = true ∧ c.holder = none ∧ c.stage.isLocked = false) ∨
      (c.holder = t.holder ∧ c.stage.isLocked = stage.isLocked) := by
  cases h with
  | enters hfree => exact .inl ⟨hfree, rfl, rfl⟩
  | leaves => exact .inr (.inl ⟨rfl, rfl, rfl⟩)
  | drops _ hawaiting =>
    refine .inr (.inr ⟨rfl, ?_⟩)
    cases stage <;> first | rfl | cases hawaiting
  | _ => exact .inr (.inr ⟨rfl, rfl⟩)

/-- Every step takes a caller nearer to its end. -/
theorem stepsLeft_lt (h : t.Leads connect send i op request e stage c) :
    c.stage.stepsLeft < stage.stepsLeft := by
  cases h with
  | drops _ hawaiting => cases stage <;> first | exact Nat.succ_pos _ | cases hawaiting
  | _ => simp [moved, Stage.stepsLeft]

end Leads

/-- Rows of events are run one after the other. -/
theorem run_append (t : Traffic Client World) (first second : List Event) :
    t.run connect send (first ++ second) = (t.run connect send first).run connect send second :=
  List.foldl_append ..

end Traffic
end VolumeLifecycle.Provider
