import Mathlib.Data.List.Basic
import Mathlib.Data.List.Induction
import VolumeLifecycle.Host.Cache

namespace VolumeLifecycle.HostCache

def Request.times : Request → List Nat
  | .host now finished => [now, finished]
  | .invalidate => []

/-- Whether requests are made one after another: no time lies before one that was named earlier. -/
def Chronological (requests : List Request) : Prop :=
  (requests.flatMap Request.times).Pairwise (· ≤ ·)

instance (requests : List Request) : Decidable (Chronological requests) :=
  inferInstanceAs (Decidable (List.Pairwise _ _))

/-- What is seen of a request: how it is answered, and how often the builder ran for it. -/
structure Record where
  request : Request
  answer : Option (Except Failure Host)
  built : Nat

def Record.Built (r : Record) (finished : Nat) (host : Host) : Prop :=
  (∃ now, r.request = .host now finished) ∧ 0 < r.built ∧ r.answer = some (.ok host)

/-- Whether a description is the last that was built, and nothing has been invalidated since. -/
def LastBuilt (records : List Record) (finished : Nat) (host : Host) : Prop :=
  ∃ before r after, records = before ++ r :: after ∧ r.Built finished host ∧
    ∀ later ∈ after, later.request ≠ .invalidate ∧ ∀ f h, ¬ later.Built f h

theorem lastBuilt_snoc {records : List Record} {r : Record} {finished : Nat} {host : Host} :
    LastBuilt (records ++ [r]) finished host ↔ r.Built finished host ∨
      LastBuilt records finished host ∧ r.request ≠ .invalidate ∧ ∀ f h, ¬ r.Built f h := by
  constructor
  · rintro ⟨before, built, after, hrecords, hbuilt, hsince⟩
    rcases after.eq_nil_or_concat' with rfl | ⟨after, last, rfl⟩
    · obtain ⟨-, rfl⟩ := List.append_inj' hrecords rfl |>.imp_right List.head_eq_of_cons_eq
      exact .inl hbuilt
    · rw [← List.cons_append, ← List.append_assoc] at hrecords
      obtain ⟨rfl, hlast⟩ := List.append_inj' hrecords rfl
      obtain rfl := List.head_eq_of_cons_eq hlast
      exact .inr ⟨⟨before, built, after, rfl, hbuilt,
        fun later hlater => hsince later (List.mem_append_left _ hlater)⟩, hsince r (by simp)⟩
  · rintro (hbuilt | ⟨⟨before, built, after, rfl, hbuilt, hsince⟩, hr⟩)
    · exact ⟨records, r, [], rfl, hbuilt, by simp⟩
    · refine ⟨before, built, after ++ [r], by simp, hbuilt, fun later hlater => ?_⟩
      rcases List.mem_append.1 hlater with hlater | hlater
      · exact hsince later hlater
      · rwa [List.mem_singleton.1 hlater]

/-- A kept description is given while it is younger than the time to live. -/
theorem fresh?_eq_some_iff {c : HostCache} {now : Nat} {host : Host} :
    c.fresh? now = some host ↔ ∃ f, c.cached = some (f, host) ∧ now - f < c.ttl := by
  rw [fresh?]
  cases hcached : c.cached with
  | none => simp
  | some kept => simp [and_assoc, and_comm, eq_comm, Prod.ext_iff]

namespace Service

variable {builder : Nat → Except Failure Host} {s : Service}

def next (builder : Nat → Except Failure Host) (s : Service) (request : Request) : Service :=
  (s.serve builder request).2

def record (builder : Nat → Except Failure Host) (s : Service) (request : Request) : Record :=
  ⟨request, (s.serve builder request).1, (s.next builder request).built - s.built⟩

def after (builder : Nat → Except Failure Host) (s : Service) (requests : List Request) : Service :=
  requests.foldl (next builder) s

def records (builder : Nat → Except Failure Host) (s : Service) : List Request → List Record
  | [] => []
  | request :: rest => s.record builder request :: (s.next builder request).records builder rest

theorem records_snoc (requests : List Request) (request : Request) :
    s.records builder (requests ++ [request]) =
      s.records builder requests ++ [(s.after builder requests).record builder request] := by
  induction requests generalizing s with
  | nil => rfl
  | cons first rest ih => exact congrArg (s.record builder first :: ·) ih

/-- A fresh description is given again without building. -/
theorem serve_host_fresh {now finished : Nat} {host : Host} (h : s.cache.fresh? now = some host) :
    s.serve builder (.host now finished) = (some (.ok host), s) := by
  simp [serve, h]

/-- Without a fresh description one is built, and kept if that goes well. -/
theorem serve_host_stale {now finished : Nat} (h : s.cache.fresh? now = none) :
    s.serve builder (.host now finished) =
      (some (builder s.built), ⟨s.cache.store finished (builder s.built), s.built + 1⟩) := by
  simp [serve, h]

/-- Only a build that succeeds and an invalidation change what is kept, and what the build gives is
kept then. -/
theorem cached_next (request : Request) (finished : Nat) (host : Host) :
    (s.next builder request).cache.cached = some (finished, host) ↔
      (s.record builder request).Built finished host ∨
        s.cache.cached = some (finished, host) ∧ request ≠ .invalidate ∧
          ∀ f h, ¬ (s.record builder request).Built f h := by
  cases request with
  | invalidate => simp [next, record, serve, HostCache.invalidate, Record.Built]
  | host now done =>
    cases hfresh : s.cache.fresh? now with
    | some kept => simp [next, record, serve_host_fresh hfresh, Record.Built]
    | none =>
      simp only [next, record, serve_host_stale hfresh, Record.Built]
      cases builder s.built with
      | ok built => simp [store]
      | error e => simp [store]

theorem ttl_next (request : Request) : (s.next builder request).cache.ttl = s.cache.ttl := by
  cases request with
  | invalidate => rfl
  | host now done =>
    cases hfresh : s.cache.fresh? now with
    | some kept => rw [next, serve_host_fresh hfresh]
    | none =>
      rw [next, serve_host_stale hfresh]
      cases builder s.built <;> rfl

def ofTtl (ttl : Nat) : Service :=
  ⟨.ofTtl ttl, 0⟩

theorem ttl_after (ttl : Nat) (requests : List Request) :
    ((ofTtl ttl).after builder requests).cache.ttl = ttl := by
  induction requests using List.reverseRecOn with
  | nil => rfl
  | append_singleton requests request ih => rw [after, List.foldl_concat, ttl_next]; exact ih

/-- What is kept is what was built last. -/
theorem cached_after (ttl : Nat) (requests : List Request) (finished : Nat) (host : Host) :
    ((ofTtl ttl).after builder requests).cache.cached = some (finished, host) ↔
      LastBuilt ((ofTtl ttl).records builder requests) finished host := by
  induction requests using List.reverseRecOn with
  | nil => simp [after, ofTtl, HostCache.ofTtl, records, LastBuilt]
  | append_singleton requests request ih =>
    rw [records_snoc, lastBuilt_snoc, ← ih, after, List.foldl_concat]
    exact cached_next request finished host

/-- What was built is the work of a request. -/
theorem exists_request_of_lastBuilt {requests : List Request} {finished : Nat} {host : Host}
    (h : LastBuilt (s.records builder requests) finished host) :
    ∃ now, Request.host now finished ∈ requests := by
  obtain ⟨before, r, after, hrecords, ⟨⟨now, hnow⟩, -⟩, -⟩ := h
  have hrequests : (s.records builder requests).map Record.request = requests := by
    clear hrecords
    induction requests generalizing s with
    | nil => rfl
    | cons first rest ih => exact congrArg (first :: ·) ih
  refine ⟨now, ?_⟩
  rw [← hrequests, hrecords, ← hnow]
  simp

/-- A description is given without building exactly if it was built last, less than the time to live
ago, and nothing has been invalidated since. Else the builder runs once, and what it gives is the
answer. A builder that fails changes nothing of what is kept. -/
theorem serve_host_after (builder : Nat → Except Failure Host) (ttl : Nat) (requests : List Request)
    (now finished : Nat) (htimes : Chronological (requests ++ [.host now finished])) :
    let history := (ofTtl ttl).records builder requests
    let s := (ofTtl ttl).after builder requests
    let (answer, s') := s.serve builder (.host now finished)
    let young := fun host => ∃ f, LastBuilt history f host ∧ f ≤ now ∧ now < f + ttl
    (s'.built = s.built ↔ ∃ host, young host) ∧
      (∀ host, young host → answer = some (.ok host) ∧ s' = s) ∧
      ((¬ ∃ host, young host) → answer = some (builder s.built) ∧ s'.built = s.built + 1) ∧
      ∀ e, answer = some (.error e) → s'.cache = s.cache := by
  intro history s
  have hbefore : ∀ f host, LastBuilt history f host → f ≤ now := by
    intro f host hlast
    obtain ⟨begun, hrequest⟩ := exists_request_of_lastBuilt hlast
    rw [Chronological, List.flatMap_append, List.pairwise_append] at htimes
    exact htimes.2.2 f (List.mem_flatMap.2 ⟨_, hrequest, by simp [Request.times]⟩) now
      (by simp [Request.times])
  have hyoung : ∀ host, (∃ f, LastBuilt history f host ∧ f ≤ now ∧ now < f + ttl) ↔
      s.cache.fresh? now = some host := by
    intro host
    rw [fresh?_eq_some_iff, ttl_after]
    refine exists_congr fun f => ?_
    rw [cached_after]
    refine and_congr_right fun hlast => ?_
    have hle := hbefore f host hlast
    omega
  simp only [hyoung]
  cases hfresh : s.cache.fresh? now with
  | some kept => simp [serve_host_fresh hfresh, eq_comm]
  | none =>
    rw [serve_host_stale hfresh]
    refine ⟨by simp, by simp, fun _ => ⟨rfl, rfl⟩, fun e he => ?_⟩
    rw [Option.some_inj.1 he]
    rfl

/-- One instant before its time is over a description is still given; then the builder runs, and as it
fails, the old description stays as it is. -/
theorem serve_host_at_its_time :
    let builder : Nat → Except Failure Host := fun n =>
      if n = 0 then .ok { uuid := "h" } else .error (.host "none")
    let s := (ofTtl 10).after builder [.host 0 2]
    (s.serve builder (.host 11 11)).1 = some (.ok { uuid := "h" }) ∧
      (s.serve builder (.host 12 13)).1 = some (.error (.host "none")) ∧
      (s.serve builder (.host 12 13)).2.cache = s.cache := by
  intro builder s
  have hlast : LastBuilt ((ofTtl 10).records builder [.host 0 2]) 2 { uuid := "h" } :=
    ⟨[], _, [], rfl, ⟨⟨0, rfl⟩, by decide, rfl⟩, by simp⟩
  obtain ⟨-, hkept, -⟩ := serve_host_after builder 10 [.host 0 2] 11 11 (by decide)
  obtain ⟨-, -, hanew, hfailed⟩ := serve_host_after builder 10 [.host 0 2] 12 13 (by decide)
  have hanswer := (hanew ?old).1
  case old =>
    rintro ⟨host, f, hbuilt, -, hyoung⟩
    rw [← cached_after] at hlast hbuilt
    obtain ⟨rfl, -⟩ := Prod.mk.inj (Option.some.inj (hlast.symm.trans hbuilt))
    omega
  exact ⟨(hkept _ ⟨2, hlast, by omega, by omega⟩).1, hanswer, hfailed _ hanswer⟩

end Service
end VolumeLifecycle.HostCache
