import VolumeLifecycle.Proofs.Mounts.Site

namespace VolumeLifecycle

open Scene (Phase Asks Moves)

/-- A call that was served, and what had been served before it. -/
structure Serving where
  ticket : Nat
  kind : Call.Kind
  /-- Whether a mount of the provider had been served. -/
  isClaimed : Bool
  /-- Whether an attach had been served. -/
  isAttached : Bool

namespace Serving

def next (served : List Serving) (ticket : Nat) (kind : Call.Kind) : Serving where
  ticket := ticket
  kind := kind
  isClaimed := served.any fun e => e.kind = .provider .mount
  isAttached := served.any fun e => e.kind = .attachAndMountDevice

/-- Whether a mount of the provider had been served when a task was told of the volume for the first
time. -/
def told? (served : List Serving) (ticket : Nat) : Option Bool :=
  (served.find? fun e => e.ticket = ticket && e.kind = .provider .get).map isClaimed

/-- Whether an attach had been served when a task saw the mount table for the first time. -/
def found? (served : List Serving) (ticket : Nat) : Option Bool :=
  (served.find? fun e => e.ticket = ticket && e.kind = .getMounts).map isAttached

/-- What a mount was told of the volume first counts. -/
theorem told?_append (served : List Serving) (e : Serving) (n : Nat) :
    told? (served ++ [e]) n =
      (told? served n).or
        (if e.ticket = n ∧ e.kind = .provider .get then some e.isClaimed else none) := by
  unfold told?
  rw [List.find?_append, Option.map_or]
  congr 1
  by_cases h : e.ticket = n ∧ e.kind = .provider .get <;> simp [h]

/-- What a mount found in the mount table first counts. -/
theorem found?_append (served : List Serving) (e : Serving) (n : Nat) :
    found? (served ++ [e]) n =
      (found? served n).or
        (if e.ticket = n ∧ e.kind = .getMounts then some e.isAttached else none) := by
  unfold found?
  rw [List.find?_append, Option.map_or]
  congr 1
  by_cases h : e.ticket = n ∧ e.kind = .getMounts <;> simp [h]

end Serving

namespace Stance

/-- Whether a mount has called the provider's mount, and its own part is not done. -/
def isInside : Stance → Bool
  | claiming => true
  | granted => true
  | attaching => true
  | mounting => true
  | _ => false

/-- Whether a mount has the provider's reply to its mount, and its own part is not done. -/
def isHolding : Stance → Bool
  | granted => true
  | attaching => true
  | mounting => true
  | _ => false

def Seen (told found : Option Bool) : Stance → Prop
  | asking => told = none ∧ found = none
  | Stance.told b => told = some b ∧ found = none
  | Stance.found b => told = some b ∧ found = some true
  | doomed => told = some false ∧ found = some true
  | _ => ∃ b a, told = some b ∧ found = some a ∧ (b = false → a = false)

/-- Whether a mount at a stance has seen what it should of the calls that were served. -/
def Follows (served : List Serving) (n : Nat) (s : Stance) : Prop :=
  s.Seen (Serving.told? served n) (Serving.found? served n)

def change (stance : Nat → Stance) (n : Nat) (s : Stance) : Nat → Stance := fun m =>
  if m = n then s else stance m

variable {stance : Nat → Stance} {n m : Nat} {s : Stance}

@[simp] theorem change_same : change stance n s n = s := if_pos rfl

theorem change_of_ne (h : m ≠ n) : change stance n s m = stance m := if_neg h

/-- What holds of the stance that is changed and of all others holds of all. -/
theorem forall_change {p : Nat → Stance → Prop} (hn : p n s) (hother : ∀ m, m ≠ n → p m (stance m)) :
    ∀ m, p m (change stance n s m) := by
  intro m
  by_cases hm : m = n
  · rw [hm, change_same]
    exact hn
  · rw [change_of_ne hm]
    exact hother m hm

theorem change_self : change stance n (stance n) = stance := by
  funext m
  unfold change
  split
  · next hm => rw [hm]
  · rfl

end Stance

/-- What holds of the mounts of a volume, with the number of attaches that were called. -/
structure Board (phase : Phase) (stance : Nat → Stance) (served : List Serving) (attaches : Nat) :
    Prop where
  fits : ∀ n, (stance n).Fits phase
  /-- A volume that is claimed is held by a mount. -/
  holder : phase = .claimed → ∃ n, (stance n).isHolding = true
  claimed : (served.any fun e => e.kind = .provider .mount) = decide (phase ≠ .fresh)
  attached : (served.any fun e => e.kind = .attachAndMountDevice) = decide (phase = .shared)
  seen : ∀ n, Stance.Follows served n (stance n)
  once : (phase = .shared ∨ ∃ n, stance n = .mounting) → attaches = 1
  never : phase ≠ .shared → (∀ n, stance n ≠ .mounting) → attaches = 0

namespace Board

variable {phase phase' : Phase} {stance : Nat → Stance} {served : List Serving} {attaches : Nat}

/-- The board before anything has happened. -/
theorem start : Board .fresh (fun _ => .asking) [] 0 where
  fits _ := trivial
  holder h := by cases h
  claimed := rfl
  attached := rfl
  seen _ := ⟨rfl, rfl⟩
  once h := by
    rcases h with h | ⟨_, h⟩ <;> cases h
  never _ _ := rfl

/-- A mount that changes to a stance at which it holds the volume as before, and has seen as much. -/
theorem shift (h : Board phase stance served attaches) {n : Nat} {s : Stance} (hfits : s.Fits phase)
    (hholding : s.isHolding = (stance n).isHolding) (hbefore : stance n ≠ .mounting)
    (hafter : s ≠ .mounting)
    (hseen : ∀ told found, (stance n).Seen told found → s.Seen told found) :
    Board phase (Stance.change stance n s) served attaches where
  fits := Stance.forall_change (p := fun _ t => t.Fits phase) hfits fun m _ => h.fits m
  holder hphase := by
    obtain ⟨m, hm⟩ := h.holder hphase
    refine ⟨m, ?_⟩
    by_cases hmn : m = n
    · rw [hmn, Stance.change_same, hholding, ← hmn, hm]
    · rw [Stance.change_of_ne hmn, hm]
  claimed := h.claimed
  attached := h.attached
  seen := Stance.forall_change (hseen _ _ (h.seen n)) fun m _ => h.seen m
  once hdone := by
    refine h.once (hdone.imp_right fun ⟨m, hm⟩ => ⟨m, ?_⟩)
    by_cases hmn : m = n
    · rw [hmn, Stance.change_same] at hm
      exact absurd hm hafter
    · rwa [Stance.change_of_ne hmn] at hm
  never hphase hnone := by
    refine h.never hphase fun m hm => ?_
    by_cases hmn : m = n
    · exact hbefore (hmn ▸ hm)
    · exact hnone m (by rwa [Stance.change_of_ne hmn])

/-- The attach is called by the one mount that holds the volume, so it has not been called before. -/
theorem call_attach (h : Board phase stance served attaches) {n : Nat}
    (hstance : stance n = .attaching)
    (hunique : ∀ m, (stance m).isInside = true → m = n) :
    Board phase (Stance.change stance n .mounting) served (attaches + 1) := by
  have hphase : phase = .claimed := by
    have hfits := h.fits n
    rw [hstance] at hfits
    exact hfits
  have hnone : attaches = 0 := by
    refine h.never (by rw [hphase]; exact nofun) fun m hm => ?_
    have hmn : m = n := hunique m (by rw [hm]; rfl)
    rw [hmn, hstance] at hm
    cases hm
  have hseen := h.seen n
  rw [hstance] at hseen
  refine ⟨?_, fun _ => ⟨n, by rw [Stance.change_same]; rfl⟩, h.claimed, h.attached, ?_,
    fun _ => by rw [hnone], fun _ hno => absurd Stance.change_same (hno n)⟩
  · exact Stance.forall_change (p := fun _ t => t.Fits phase) hphase fun m _ => h.fits m
  · exact Stance.forall_change (p := Stance.Follows served) hseen fun m _ => h.seen m

/-- A call that a mount may make, unless it is doomed. -/
theorem call {s : Scene} (h : Board phase stance served attaches) {n : Nat} {c : Call}
    {stance₁ : Stance} (hasks : s.Asks (stance n) (.call c) stance₁)
    (hunique : ∀ m, (stance m).isInside = true → (stance n).isInside = true → m = n) :
    Board phase (Stance.change stance n stance₁) served
      (attaches + if c.kind = .attachAndMountDevice then 1 else 0) := by
  generalize hstance : stance n = before at hasks
  cases hasks with
  | claim hname hhost =>
    refine h.shift trivial (by rw [hstance]; rfl) (by rw [hstance]; exact nofun) nofun ?_
    rw [hstance]
    exact fun _ _ hseen => hseen
  | attach hof =>
    refine h.call_attach hstance fun m hm => hunique m hm ?_
    rw [hstance]
    rfl
  | _ =>
    rw [← hstance, Stance.change_self]
    exact h

/-- Whether a mount of the provider has been served, after one more reply. -/
theorem claimed_moves {n : Nat} {kind : Call.Kind} {s s' : Stance}
    (hmoves : Moves phase s kind phase' s')
    (hclaimed : (served.any fun e => e.kind = .provider .mount) = decide (phase ≠ .fresh)) :
    ((served ++ [Serving.next served n kind]).any fun e => e.kind = .provider .mount) =
      decide (phase' ≠ .fresh) := by
  rw [List.any_append, hclaimed]
  cases hmoves with
  | claim => cases phase <;> simp [Serving.next, Phase.claim]
  | idle _ op hop => simp [Serving.next, hop]
  | _ => simp [Serving.next]

/-- Whether an attach has been served, after one more reply. -/
theorem attached_moves {n : Nat} {kind : Call.Kind} {s s' : Stance}
    (hmoves : Moves phase s kind phase' s')
    (hattached : (served.any fun e => e.kind = .attachAndMountDevice) = decide (phase = .shared)) :
    ((served ++ [Serving.next served n kind]).any fun e => e.kind = .attachAndMountDevice) =
      decide (phase' = .shared) := by
  rw [List.any_append, hattached]
  cases hmoves with
  | claim => cases phase <;> simp [Serving.next, Phase.claim]
  | _ => simp [Serving.next]

/-- A mount that gets a reply sees what the phase lets it see. -/
theorem seen_moves {n : Nat} {kind : Call.Kind} {s s' : Stance}
    (hmoves : Moves phase s kind phase' s')
    (hclaimed : (served.any fun e => e.kind = .provider .mount) = decide (phase ≠ .fresh))
    (hattached : (served.any fun e => e.kind = .attachAndMountDevice) = decide (phase = .shared))
    (hseen : Stance.Follows served n s) :
    Stance.Follows (served ++ [Serving.next served n kind]) n s' := by
  unfold Stance.Follows at hseen ⊢
  rw [Serving.told?_append, Serving.found?_append]
  simp only [Serving.next, hclaimed, hattached]
  cases hmoves with
  | ask =>
    obtain ⟨htold, hfound⟩ := hseen
    simp [Stance.Seen, htold, hfound]
  | empty b hphase =>
    obtain ⟨htold, hfound⟩ := hseen
    simp [Stance.Seen, htold, hfound, hphase]
  | full b =>
    obtain ⟨htold, hfound⟩ := hseen
    simp [Stance.Seen, htold, hfound]
  | used =>
    obtain ⟨htold, hfound⟩ := hseen
    simp [Stance.Seen, htold, hfound]
  | unused =>
    obtain ⟨htold, hfound⟩ := hseen
    simp [Stance.Seen, htold, hfound]
  | _ =>
    obtain ⟨b, a, htold, hfound, hba⟩ := hseen
    simpa [Stance.Seen, htold, hfound] using hba

/-- A mount sees nothing of the replies to others. -/
theorem seen_other {n m : Nat} (hne : m ≠ n) {kind : Call.Kind} {s : Stance}
    (hseen : Stance.Follows served m s) :
    Stance.Follows (served ++ [Serving.next served n kind]) m s := by
  unfold Stance.Follows at hseen ⊢
  rw [Serving.told?_append, Serving.found?_append]
  simpa [Serving.next, Ne.symm hne] using hseen

/-- What is known of the phase at a stance is known of the next phase at the next stance. -/
theorem fits_moves {kind : Call.Kind} {s s' : Stance} (hmoves : Moves phase s kind phase' s')
    (hfits : s.Fits phase) : s'.Fits phase' := by
  cases hmoves with
  | ask => exact fun h => of_decide_eq_true h
  | claim => cases phase <;> simp [Stance.Fits, Phase.claim]
  | empty => trivial
  | used => trivial
  | idle => trivial
  | full => rfl
  | unused => exact hfits
  | absent => rfl
  | present => rfl
  | attach => rfl
  | clear => exact hfits

/-- What another mount knows of the phase stays true, since at most one mount is inside. -/
theorem fits_other {kind : Call.Kind} {s s' t : Stance} (hmoves : Moves phase s kind phase' s')
    (halone : s.isInside = true → t.isInside = false) (hfits : t.Fits phase) : t.Fits phase' := by
  cases hmoves with
  | claim => cases phase <;> cases t <;> simp_all [Stance.Fits, Phase.claim]
  | attach =>
    have hoff := halone rfl
    cases t <;> simp_all [Stance.Fits, Stance.isInside]
  | _ => exact hfits

/-- The volume is shared after a reply if it was before, or if the reply was that to the attach. -/
theorem shared_moves {kind : Call.Kind} {s s' : Stance} (hmoves : Moves phase s kind phase' s') :
    (phase' = .shared ↔ phase = .shared ∨ s = .mounting) ∧ s' ≠ .mounting := by
  cases hmoves with
  | claim => cases phase <;> simp [Phase.claim]
  | _ => simp

/-- A volume is claimed after a reply if the mount holds it then, or if it was claimed before by
another one. -/
theorem claimed_by_moves {kind : Call.Kind} {s s' : Stance} (hmoves : Moves phase s kind phase' s')
    (hphase : phase' = .claimed) :
    s'.isHolding = true ∨ (phase = .claimed ∧ s.isHolding = false) := by
  cases hmoves with
  | claim => exact .inl rfl
  | absent => exact .inl rfl
  | attach => cases hphase
  | _ => simp_all [Stance.isHolding]

/-- The reply to a call. -/
theorem reply (h : Board phase stance served attaches) {n : Nat} {kind : Call.Kind} {s' : Stance}
    (hmoves : Moves phase (stance n) kind phase' s')
    (hunique : ∀ m, (stance m).isInside = true → (stance n).isInside = true → m = n) :
    Board phase' (Stance.change stance n s') (served ++ [Serving.next served n kind]) attaches := by
  obtain ⟨hshared, hnotMounting⟩ := shared_moves hmoves
  have hmounting : ∀ m, Stance.change stance n s' m = .mounting ↔ m ≠ n ∧ stance m = .mounting := by
    intro m
    by_cases hm : m = n
    · rw [hm, Stance.change_same]
      simp [hnotMounting]
    · rw [Stance.change_of_ne hm]
      simp [hm]
  refine ⟨?_, fun hphase => ?_, claimed_moves hmoves h.claimed, attached_moves hmoves h.attached, ?_,
    fun hdone => ?_, fun hphase hnone => ?_⟩
  · refine Stance.forall_change (p := fun _ t => t.Fits phase') (fits_moves hmoves (h.fits n)) ?_
    intro m hm
    refine fits_other hmoves (fun hinside => ?_) (h.fits m)
    exact Bool.eq_false_iff.2 fun hm' => hm (hunique m hm' hinside)
  · rcases claimed_by_moves hmoves hphase with hholding | ⟨hbefore, hnotHolding⟩
    · exact ⟨n, by rw [Stance.change_same]; exact hholding⟩
    · obtain ⟨m, hm⟩ := h.holder hbefore
      have hmn : m ≠ n := by
        rintro rfl
        rw [hnotHolding] at hm
        cases hm
      exact ⟨m, by rw [Stance.change_of_ne hmn]; exact hm⟩
  · exact Stance.forall_change (p := Stance.Follows (served ++ [Serving.next served n kind]))
      (seen_moves hmoves h.claimed h.attached (h.seen n)) fun m hm => seen_other hm (h.seen m)
  · refine h.once ?_
    rcases hdone with hphase | ⟨m, hm⟩
    · exact (hshared.1 hphase).imp_right fun hn => ⟨n, hn⟩
    · exact .inr ⟨m, ((hmounting m).1 hm).2⟩
  · refine h.never (fun hbefore => hphase (hshared.2 (.inl hbefore))) fun m hm => ?_
    by_cases hmn : m = n
    · exact hphase (hshared.2 (.inr (hmn ▸ hm)))
    · exact hnone m ((hmounting m).2 ⟨hmn, hm⟩)

end Board
end VolumeLifecycle
