import VolumeLifecycle.Proofs.Gate.Locks

namespace VolumeLifecycle.Gate

namespace Sound

variable {g : Gate}

theorem advance (h : g.Sound none) (id : Nat) : (g.advance id).Sound none := by
  unfold Gate.advance
  split
  · exact h
  next t ht =>
  obtain rfl := id_of_ticket? ht
  split
  · next hstage => exact h.seekSlot ht hstage
  · next hstage => exact h.findLock ht hstage
  · next l hstage => exact h.seekLock ht hstage
  · next l hstage =>
    exact h.move ht (by simp [hstage, Stage.isWaiting]) rfl (by simp [hstage, Stage.owned?])
      fun m hm => h.current t.id t ht m (by simpa [hstage, Stage.lock?] using hm)
  · exact h

/-- Between the two halves of the first step out, the lock is loose. -/
theorem unlock (h : g.Sound none) (id : Nat) : (g.unlock id).Sound none := by
  unfold Gate.unlock
  split
  · next ht => exact (h.letGo ht rfl).returnLock
  · exact h

theorem retire (h : g.Sound none) (id : Nat) : (g.retire id).Sound none := by
  unfold Gate.retire
  split
  · next op ht => exact (h.dropLeaving ht rfl).returnSlot op
  · exact h

theorem cancel (h : g.Sound none) (id : Nat) : (g.cancel id).Sound none := by
  unfold Gate.cancel
  split
  · next op stage ht =>
    split
    · exact h.dropIdle ht rfl (by simp)
    · exact h.dropQueued ht rfl
    · exact (h.dropIdle ht rfl (by simp)).returnSlot op
    · exact (h.dropBlocked ht rfl).returnSlot op
    · exact ((h.dropOwner ht rfl).returnLock).returnSlot op
    · exact h
  · exact h

/-- What one atomic step keeps. -/
theorem apply (h : g.Sound none) (e : Event) : (g.apply e).Sound none := by
  cases e with
  | arrive id name op => exact h.arrive id name op
  | advance id => exact h.advance id
  | unlock id => exact h.unlock id
  | retire id => exact h.retire id
  | cancel id => exact h.cancel id

/-- What any number of atomic steps keeps. -/
theorem run (h : g.Sound none) (events : List Event) : (g.run events).Sound none := by
  induction events generalizing g with
  | nil => exact h
  | cons e rest ih => exact ih (h.apply e)

/-- A name has at most one owner. Two owners would refer to the current lock of their name, and a
lock has one owner only. -/
theorem owner_unique (h : g.Sound none) {t u : Ticket} (ht : t ∈ g.tickets) (hu : u ∈ g.tickets)
    (hname : t.name = u.name) {l m : Nat} (hl : t.stage.owned? = some l)
    (hm : u.stage.owned? = some m) : t = u := by
  have htfound := ticket?_of_mem h.ids_nodup ht
  have hufound := ticket?_of_mem h.ids_nodup hu
  have hlm : some l = some m := by
    rw [← h.current t.id t htfound l (Stage.lock?_of_owned? hl), hname]
    exact h.current u.id u hufound m (Stage.lock?_of_owned? hm)
  have hid : t.id = u.id :=
    h.owners.unique t.id u.id l (by simp [owned?, htfound, hl]) (by simp [owned?, hufound, hm, hlm])
  rw [hid, hufound] at htfound
  exact (Option.some.inj htfound).symm

end Sound

/-- A new gate is sound. -/
theorem sound_of_ofConfig {c : Config.Admission} {g : Gate} (h : ofConfig c = .ok g) :
    g.Sound none := by
  unfold ofConfig at h
  split at h
  · cases h
  · cases h
    exact .of_empty rfl rfl rfl rfl rfl

/-- Whoever has passed owns a lock. -/
theorem Stage.owned?_of_isLive {stage : Stage} (h : stage.isLive = true) :
    ∃ l, stage.owned? = some l := by
  cases stage <;> simp_all [Stage.isLive, Stage.owned?]

/-- The gate is mutually exclusive. However tickets come, move, leave and are given up, at most one
ticket of a name has passed at any time; a ticket that has found a lock, waits for it or owns it
refers to the lock that the gate now keeps for its name; and so two tickets of a name never refer to
different locks. -/
theorem run_exclusive {c : Config.Admission} {g : Gate} (hg : ofConfig c = .ok g)
    (events : List Event) :
    (∀ t ∈ (g.run events).tickets, ∀ u ∈ (g.run events).tickets, t.name = u.name →
      t.stage.isLive = true → u.stage.isLive = true → t = u) ∧
    (∀ t ∈ (g.run events).tickets, ∀ l, t.stage.lock? = some l →
      (g.run events).entries.get? t.name = some l) ∧
    (∀ t ∈ (g.run events).tickets, ∀ u ∈ (g.run events).tickets, t.name = u.name →
      ∀ l m, t.stage.lock? = some l → u.stage.lock? = some m → l = m) := by
  have h := (sound_of_ofConfig hg).run events
  have hcurrent : ∀ t ∈ (g.run events).tickets, ∀ l, t.stage.lock? = some l →
      (g.run events).entries.get? t.name = some l := fun t ht =>
    h.current t.id t (ticket?_of_mem h.ids_nodup ht)
  refine ⟨?_, hcurrent, ?_⟩
  · intro t ht u hu hname htlive hulive
    obtain ⟨l, hl⟩ := Stage.owned?_of_isLive htlive
    obtain ⟨m, hm⟩ := Stage.owned?_of_isLive hulive
    exact h.owner_unique ht hu hname hl hm
  · intro t ht u hu hname l m hl hm
    have htentry := hcurrent t ht l hl
    rw [hname, hcurrent u hu m hm] at htentry
    exact (Option.some.inj htentry).symm

/-- A first ticket leaves while a second one waits for its lock, and a third one finds that lock
between the two halves of the first one's leaving: the entry of the name stays. -/
theorem run_exclusive_hand_over :
    let g : Gate := ⟨⟨2, []⟩, ⟨2, []⟩, .empty, [], []⟩
    let events : List Event :=
      [.arrive 0 "v" .mount, .advance 0, .advance 0, .advance 0,
       .arrive 1 "v" .mount, .advance 1, .advance 1, .advance 1,
       .arrive 2 "v" .unmount, .advance 2, .unlock 0, .advance 2, .retire 0, .advance 2, .advance 1]
    ofConfig ⟨2, 2⟩ = .ok g ∧
      (g.run events).tickets.map Ticket.stage = [.holding 0, .blocked 0] ∧
      (∀ t ∈ (g.run events).tickets, ∀ u ∈ (g.run events).tickets, t.name = u.name →
        t.stage.isLive = true → u.stage.isLive = true → t = u) ∧
      (∀ t ∈ (g.run events).tickets, ∀ l, t.stage.lock? = some l →
        (g.run events).entries.get? t.name = some l) ∧
      (∀ t ∈ (g.run events).tickets, ∀ u ∈ (g.run events).tickets, t.name = u.name →
        ∀ l m, t.stage.lock? = some l → u.stage.lock? = some m → l = m) :=
  ⟨rfl, by decide, run_exclusive (c := ⟨2, 2⟩) rfl _⟩

end VolumeLifecycle.Gate
