import VolumeLifecycle.Proofs.Provider.Traffic

namespace VolumeLifecycle.Provider

variable {Client : Type} {connect : Nat → Except Failure Client}

def Failing (connect : Nat → Except Failure Client) (n : Nat) : Prop :=
  ∀ k < n, ∃ f, connect k = .error f

/-- Whether an attempt to connect is the first one that succeeds, and gives a client. -/
def FirstSuccess (connect : Nat → Except Failure Client) (n : Nat) (client : Client) : Prop :=
  Failing connect n ∧ connect n = .ok client

/-- Attempts that have failed so far go on failing with one more failure. -/
theorem Failing.succ {n : Nat} {f : Failure} (h : Failing connect n) (hn : connect n = .error f) :
    Failing connect (n + 1) := by
  intro k hk
  rcases Nat.lt_succ_iff_lt_or_eq.1 hk with hlt | rfl
  · exact h k hlt
  · exact ⟨f, hn⟩

/-- An attempt that succeeds is not among those that fail. -/
theorem Failing.le {m n : Nat} {client : Client} (h : Failing connect m)
    (hn : connect n = .ok client) : m ≤ n := by
  by_contra hlt
  obtain ⟨f, hf⟩ := h n (by omega)
  rw [hn] at hf
  cases hf

namespace Handle

/-- How a handle stands between attempts to connect: while there is no client all attempts have
failed, and a client is that of the first success, which was the last attempt. -/
structure Stands (connect : Nat → Except Failure Client) (h : Handle Client) : Prop where
  unconnected : h.client = none → Failing connect h.attempts
  connected : ∀ client, h.client = some client →
    ∃ n, h.attempts = n + 1 ∧ FirstSuccess connect n client

/-- How a handle stands while an attempt to connect is under way. -/
structure Trying (connect : Nat → Except Failure Client) (h : Handle Client) (n : Nat) : Prop where
  client_eq : h.client = none
  attempts_eq : h.attempts = n + 1
  failing : Failing connect n

variable {h : Handle Client}

theorem Stands.unused : (Handle.unused : Handle Client).Stands connect :=
  ⟨fun _ _ hk => absurd hk (Nat.not_lt_zero _), nofun⟩

/-- Whoever finds no client makes the next attempt. -/
theorem Stands.attempted (hstands : h.Stands connect) (hclient : h.client = none) :
    h.attempted.Trying connect h.attempts :=
  ⟨hclient, rfl, hstands.unconnected hclient⟩

theorem Trying.kept {n : Nat} (htrying : h.Trying connect n) :
    (h.kept (connect n)).Stands connect := by
  cases hn : connect n with
  | ok client =>
    refine ⟨nofun, fun client' hclient => ?_⟩
    obtain rfl := Option.some.inj hclient
    exact ⟨n, htrying.attempts_eq, htrying.failing, hn⟩
  | error f =>
    refine ⟨fun _ => ?_, fun client hclient => ?_⟩
    · rw [Handle.kept, htrying.attempts_eq]
      exact htrying.failing.succ hn
    · rw [Handle.kept, htrying.client_eq] at hclient
      cases hclient

@[simp]
theorem attempts_kept (outcome : Except Failure Client) :
    (h.kept outcome).attempts = h.attempts := by
  cases outcome <;> rfl

/-- Connecting is looking for a client, and an attempt if there is none. -/
theorem connected_eq (h : Handle Client) (connect : Nat → Except Failure Client) :
    h.connected connect = match h.client with
      | some client => (.ok client, h)
      | none => (connect h.attempts, h.attempted.kept (connect h.attempts)) := by
  rcases h with ⟨_ | client, n⟩
  · simp only [Handle.connected, Handle.attempted]
    cases connect n <;> rfl
  · rfl

end Handle

namespace Traffic

variable {log log' : List (Sign Client)} {i : Nat} {op : Op} {request : Request}
  {stage : Stage Client}

/-- What a caller has gone through when it has an outcome: an attempt of its own, all earlier ones
having failed, or nothing, because somebody has made the attempt that was the first success. -/
inductive Resolved (connect : Nat → Except Failure Client) (log : List (Sign Client)) (i : Nat) :
    Except Failure Client → List (Sign Client) → Prop
  | own (n : Nat) (outcome : Except Failure Client) (hfailing : Failing connect n)
    (hn : connect n = outcome) : Resolved connect log i outcome [.tried i n]
  | shared (n : Nat) (client : Client) (hfirst : FirstSuccess connect n client)
    (hmade : ∃ j, .tried j n ∈ log) : Resolved connect log i (.ok client) []

/-- What is seen of a call from its beginning to its end, and its result. A failure to connect is
the result; else the request reaches the client, and what the client replies is the result. -/
inductive Course (connect : Nat → Except Failure Client) (log : List (Sign Client)) (i : Nat)
    (op : Op) (request : Request) : List (Sign Client) → Except Failure Response → Prop
  | refused (way : List (Sign Client)) (f : Failure)
    (hway : Resolved connect log i (.error f) way) :
    Course connect log i op request (way ++ [.returned i (.error f)]) (.error f)
  | forwarded (way : List (Sign Client)) (client : Client) (reply : Except Failure Response)
    (hway : Resolved connect log i (.ok client) way) :
    Course connect log i op request
      (way ++ [.reached i client op request, .replied i client op request reply,
        .returned i reply]) reply

theorem Resolved.mono {outcome : Except Failure Client} {way : List (Sign Client)}
    (h : Resolved connect log i outcome way) (hsub : log ⊆ log') :
    Resolved connect log' i outcome way := by
  cases h with
  | own n _ hfailing hn => exact .own n _ hfailing hn
  | shared n client hfirst hmade => exact .shared n client hfirst (hmade.imp fun _ hj => hsub hj)

theorem Course.mono {course : List (Sign Client)} {result : Except Failure Response}
    (h : Course connect log i op request course result) (hsub : log ⊆ log') :
    Course connect log' i op request course result := by
  cases h with
  | refused way f hway => exact .refused way f (hway.mono hsub)
  | forwarded way client reply hway => exact .forwarded way client _ (hway.mono hsub)

/-- A way to an outcome goes on to a course. -/
theorem Resolved.exists_course {outcome : Except Failure Client} {way : List (Sign Client)}
    (h : Resolved connect log i outcome way) (op : Op) (request : Request) :
    ∃ course result, Course connect log i op request course result ∧ way <+: course := by
  cases outcome with
  | ok client => exact ⟨_, .ok {}, .forwarded way client _ h, List.prefix_append ..⟩
  | error f => exact ⟨_, _, .refused way f h, List.prefix_append ..⟩

def Made (connect : Nat → Except Failure Client) (log : List (Sign Client)) (client : Client) :
    Prop :=
  ∃ j n, .tried j n ∈ log ∧ connect n = .ok client

/-- A client that a caller has got is one that was made. -/
theorem Resolved.made {client : Client}
    (h : Resolved connect log i (.ok client) (seenOf log i)) : Made connect log client := by
  generalize hway : seenOf log i = way at h
  cases h with
  | own n _ hfailing hn =>
    have hmem : Sign.tried i n ∈ seenOf log i := hway ▸ List.mem_singleton_self _
    exact ⟨i, n, List.mem_of_mem_filter hmem, hn⟩
  | shared n _ hfirst hmade => exact hmade.imp fun _ hj => ⟨n, hj, hfirst.2⟩

/-- What has been seen of a caller at a stage, and how the handle stands if the caller has the
lock. -/
def Stage.Fits (connect : Nat → Except Failure Client) (h : Handle Client)
    (log : List (Sign Client)) (i : Nat) (op : Op) (request : Request) : Stage Client → Prop
  | waiting => seenOf log i = []
  | inside => seenOf log i = [] ∧ h.Stands connect
  | connecting n => seenOf log i = [.tried i n] ∧ h.Trying connect n
  | leaving outcome => Resolved connect log i outcome (seenOf log i) ∧ h.Stands connect
  | outside outcome => Resolved connect log i outcome (seenOf log i)
  | sent client => ∃ way, Resolved connect log i (.ok client) way ∧
      seenOf log i = way ++ [.reached i client op request]
  | replied reply => ∃ way client, Resolved connect log i (.ok client) way ∧
      seenOf log i = way ++ [.reached i client op request, .replied i client op request reply]
  | returned result => Course connect log i op request (seenOf log i) result
  | dropped => ∃ course result, Course connect log i op request course result ∧
      seenOf log i <+: course

namespace Stage.Fits

variable {h h' : Handle Client}

/-- What is seen of others, and what they do to the handle while the caller does not have the lock,
makes no difference. -/
theorem mono (hfits : stage.Fits connect h log i op request) (hsub : log ⊆ log')
    (hseen : seenOf log' i = seenOf log i) (hhandle : stage.isLocked = true → h' = h) :
    stage.Fits connect h' log' i op request := by
  cases stage with
  | waiting => exact hseen.trans hfits
  | inside => exact hhandle rfl ▸ hfits.imp_left hseen.trans
  | connecting n => exact hhandle rfl ▸ hfits.imp_left hseen.trans
  | leaving outcome =>
    obtain ⟨hway, hstands⟩ := hfits
    exact ⟨hseen ▸ hway.mono hsub, hhandle rfl ▸ hstands⟩
  | outside outcome =>
    have hway : Resolved connect log i outcome (seenOf log i) := hfits
    exact (hseen ▸ hway.mono hsub : Resolved connect log' i outcome (seenOf log' i))
  | sent client =>
    obtain ⟨way, hway, hsent⟩ := hfits
    exact ⟨way, hway.mono hsub, hseen.trans hsent⟩
  | replied reply =>
    obtain ⟨way, client, hway, hreplied⟩ := hfits
    exact ⟨way, client, hway.mono hsub, hseen.trans hreplied⟩
  | returned result =>
    have hcourse : Course connect log i op request (seenOf log i) result := hfits
    exact (hseen ▸ hcourse.mono hsub : Course connect log' i op request (seenOf log' i) result)
  | dropped =>
    obtain ⟨course, result, hcourse, hbegun⟩ := hfits
    exact ⟨course, result, hcourse.mono hsub, hseen ▸ hbegun⟩

/-- What has been seen of a caller is the beginning of a course. -/
theorem exists_course (hfits : stage.Fits connect h log i op request) :
    ∃ course result, Course connect log i op request course result ∧ seenOf log i <+: course := by
  have hnothing : seenOf log i = [] →
      ∃ course result, Course connect log i op request course result ∧ seenOf log i <+: course := by
    intro hseen
    have hfirst : Failing connect 0 := fun k hk => absurd hk (Nat.not_lt_zero k)
    have hway : Resolved connect log i (connect 0) [.tried i 0] := .own 0 _ hfirst rfl
    obtain ⟨course, result, hcourse, -⟩ := hway.exists_course op request
    exact ⟨course, result, hcourse, hseen ▸ List.nil_prefix⟩
  cases stage with
  | waiting => exact hnothing hfits
  | inside => exact hnothing hfits.1
  | connecting n =>
    rw [hfits.1]
    exact (Resolved.own n _ hfits.2.failing rfl).exists_course op request
  | leaving outcome => exact hfits.1.exists_course op request
  | outside outcome => exact Resolved.exists_course hfits op request
  | sent client =>
    obtain ⟨way, hway, hseen⟩ := hfits
    refine ⟨_, .ok {}, .forwarded way client _ hway, ?_⟩
    rw [hseen]
    exact List.prefix_append_right_inj .. |>.2 (List.prefix_append [_] _)
  | replied reply =>
    obtain ⟨way, client, hway, hseen⟩ := hfits
    refine ⟨_, reply, .forwarded way client _ hway, ?_⟩
    rw [hseen]
    exact List.prefix_append_right_inj .. |>.2 (List.prefix_append [_, _] _)
  | returned result => exact ⟨_, result, hfits, List.prefix_rfl⟩
  | dropped => exact hfits

end Stage.Fits

end Traffic
end VolumeLifecycle.Provider
