import VolumeLifecycle.Failure
import VolumeLifecycle.Host

namespace VolumeLifecycle

/-- A kept description of this node, with the time at which it was finished. Times are milliseconds. -/
structure HostCache where
  ttl : Nat
  cached : Option (Nat × Host)
  deriving DecidableEq

namespace HostCache

def ofTtl (ttl : Nat) : HostCache :=
  ⟨ttl, none⟩

/-- The kept description, if it is younger than the time to live. -/
def fresh? (c : HostCache) (now : Nat) : Option Host :=
  match c.cached with
  | some (builtAt, host) => if now - builtAt < c.ttl then some host else none
  | none => none

/-- The cache after a description was built, at the time when that finished. A failure changes
nothing. -/
def store (c : HostCache) (finished : Nat) : Except Failure Host → HostCache
  | .ok host => { c with cached := some (finished, host) }
  | .error _ => c

def invalidate (c : HostCache) : HostCache :=
  { c with cached := none }

/-- What a caller can ask for: the description, or that it be built anew next time. A call for the
description comes at a time, and if it has to build, it finishes at another. -/
inductive Request where
  | host (now finished : Nat)
  | invalidate
  deriving DecidableEq

/-- A cache over a builder, with the number of times the builder was called. -/
structure Service where
  cache : HostCache
  built : Nat
  deriving DecidableEq

/-- Serves a request, where `builder n` is what the builder gives when it is called for the `n`-th
time, counted from zero. -/
def Service.serve (builder : Nat → Except Failure Host) (s : Service) :
    Request → Option (Except Failure Host) × Service
  | .invalidate => (none, { s with cache := s.cache.invalidate })
  | .host now finished =>
    match s.cache.fresh? now with
    | some host => (some (.ok host), s)
    | none =>
      let result := builder s.built
      (some result, ⟨s.cache.store finished result, s.built + 1⟩)

end HostCache
end VolumeLifecycle
