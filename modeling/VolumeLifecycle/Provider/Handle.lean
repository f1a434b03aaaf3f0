import VolumeLifecycle.Provider.Message

namespace VolumeLifecycle.Provider

/-- A connection to the provider that is made on first use and shared afterwards: the client, once
there is one, and the number of attempts to connect. A failed attempt is not remembered: the next
call tries again. -/
structure Handle (Client : Type) where
  client : Option Client
  attempts : Nat

namespace Handle

variable {Client World : Type}

def unused : Handle Client :=
  ⟨none, 0⟩

/-- The client, connecting if there is none yet; `connect n` is the result of the `n`-th attempt,
counted from zero. -/
def connected (h : Handle Client) (connect : Nat → Except Failure Client) :
    Except Failure Client × Handle Client :=
  match h.client with
  | some client => (.ok client, h)
  | none =>
    match connect h.attempts with
    | .ok client => (.ok client, ⟨some client, h.attempts + 1⟩)
    | .error f => (.error f, ⟨none, h.attempts + 1⟩)

/-- A call through the handle: it reaches the client unchanged, or fails with the attempt to
connect. -/
def call (h : Handle Client) (connect : Nat → Except Failure Client)
    (send : Client → Op → Request → World → Except Failure Response × World)
    (op : Op) (request : Request) (world : World) :
    Except Failure Response × Handle Client × World :=
  match h.connected connect with
  | (.ok client, h) =>
    let (reply, world) := send client op request world
    (reply, h, world)
  | (.error f, h) => (.error f, h, world)

end Handle
end VolumeLifecycle.Provider
