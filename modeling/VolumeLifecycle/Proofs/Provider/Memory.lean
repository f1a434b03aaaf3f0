import VolumeLifecycle.Proofs.Provider.Book

namespace VolumeLifecycle

namespace Provider.Store

def book (s : Store) : Book := fun name =>
  ((s.volumes.get? name).map Volume.status).getD .empty

def Named (s : Store) : Prop :=
  ∀ name v, s.volumes.get? name = some v → v.name = name

variable {s : Store} {name : String}

theorem book_of_some {v : Volume} (h : s.volumes.get? name = some v) : s.book name = v.status := by
  rw [book, h]
  rfl

theorem book_insert (s : Store) (v : Volume) (name n : String) :
    book { s with volumes := s.volumes.insert name v } n =
      if n = name then v.status else s.book n := by
  unfold book
  rw [Dict.get?_insert]
  split <;> rfl

theorem Named.insert (hnamed : s.Named) {v : Volume} (hname : v.name = name) :
    Named { s with volumes := s.volumes.insert name v } := by
  intro n w hw
  rw [Dict.get?_insert] at hw
  split at hw
  · next heq =>
    cases hw
    exact hname.trans heq.symm
  · exact hnamed n w hw

theorem book_erase (s : Store) (name n : String) :
    book { s with volumes := s.volumes.erase name } n =
      if n = name then .empty else s.book n := by
  unfold book
  rw [Dict.get?_erase]
  split <;> rfl

theorem Named.erase (hnamed : s.Named) (name : String) :
    Named { s with volumes := s.volumes.erase name } := by
  intro n w hw
  rw [Dict.get?_erase] at hw
  split at hw
  · cases hw
  · exact hnamed n w hw

/-- A volume that is not there is not changed. -/
theorem change_of_none {f : Volume → Volume} (h : s.volumes.get? name = none) :
    s.change name f = (.ofError (absent name), s) := by
  rw [change, h]

/-- A volume that is there is replaced, and shown by the reply. -/
theorem change_of_some {f : Volume → Volume} {v : Volume} (h : s.volumes.get? name = some v) :
    s.change name f = (.ofVolume (f v), { s with volumes := s.volumes.insert name (f v) }) := by
  rw [change, h]

/-- To ask for a volume changes nothing. -/
theorem serve_get {r : Request} {v : Volume} (h : s.volumes.get? r.name = some v) : s.serve .get r = (.ofVolume v, s) := by
  rw [serve, change_of_some h, id, Dict.insert_get? h]

/-- The mount of a volume that is there is answered with the mounted volume, which is stored. -/
theorem serve_mount {r : Request} {v : Volume} (h : s.volumes.get? r.name = some v) :
    s.serve .mount r =
      (.ofVolume (mounted r v), { s with volumes := s.volumes.insert r.name (mounted r v) }) :=
  change_of_some h

/-- A change that keeps names and status maps changes neither, and the volume in its reply is as it
is stored. -/
theorem change_quiet (hnamed : s.Named) (name : String) {f : Volume → Volume}
    (hname : ∀ v, (f v).name = v.name) (hstatus : ∀ v, (f v).status = v.status) :
    (s.change name f).2.Named ∧ (∀ n, (s.change name f).2.book n = s.book n) ∧
      ∀ v, (s.change name f).1.volume = some v → v.status = s.book v.name := by
  cases hfound : s.volumes.get? name with
  | none =>
    rw [change_of_none hfound]
    exact ⟨hnamed, fun _ => rfl, nofun⟩
  | some u =>
    have hu := hnamed name u hfound
    have hbook := book_of_some hfound
    rw [change_of_some hfound]
    refine ⟨hnamed.insert ((hname u).trans hu), fun n => ?_, fun v hv => ?_⟩
    · rw [book_insert]
      split
      · next heq => rw [heq, hbook, hstatus]
      · rfl
    · cases hv
      rw [hname, hu, hbook, hstatus]

theorem absent_ne (name : String) : absent name ≠ "" := by
  intro h
  have hlength := congrArg String.length h
  simp [absent] at hlength

/-- An update that is not refused has found its volume. -/
theorem exists_of_served {r : Request}
    (hserved : Exchange.isServed ⟨.call (.provider .update r), Except.ok (s.serve .update r).1⟩) :
    ∃ v, s.volumes.get? r.name = some v := by
  cases hfound : s.volumes.get? r.name with
  | none =>
    have herr : (s.serve .update r).1.err = absent r.name := by
      rw [serve, change_of_none hfound]
      rfl
    simp [Exchange.isServed, herr, absent_ne] at hserved
  | some v => exact ⟨v, rfl⟩

/-- The provider in memory is honest if it does not refuse an update. -/
theorem serve_honest (hnamed : s.Named) (op : Op) (r : Request)
    (hserved : Exchange.isServed ⟨.call (.provider op r), Except.ok (s.serve op r).1⟩ = true) :
    s.book.Honest ⟨.call (.provider op r), Except.ok (s.serve op r).1⟩ (s.serve op r).2.book ∧
      (s.serve op r).2.Named := by
  cases op with
  | get =>
    obtain ⟨hkeep, hbook, -⟩ :=
      change_quiet hnamed r.name (f := id) (fun _ => rfl) fun _ => rfl
    exact ⟨.of_kept (fun _ h => by cases h) (fun _ h => by cases h) fun n _ => hbook n, hkeep⟩
  | create =>
    refine ⟨.of_kept (fun _ h => by cases h) (fun _ h => by cases h) fun n hn => ?_,
      hnamed.insert rfl⟩
    exact (book_insert s (fresh r) r.name n).trans (if_neg fun heq => hn (congrArg some heq.symm))
  | update =>
    obtain ⟨v, hfound⟩ := exists_of_served hserved
    rw [serve, change_of_some hfound]
    refine ⟨⟨rfl, fun r' heffect key => ?_, fun _ _ _ h => ?_, fun n hn _ => ?_⟩, ?_⟩
    · cases heffect
      rw [book_insert, if_pos rfl, book_of_some hfound]
      exact get?_foldl_updateStatus r.opts.sorted v.status key
    · cases congrArg Exchange.effect h
    · exact (book_insert s _ r.name n).trans (if_neg fun heq => hn r rfl heq.symm)
    · exact hnamed.insert (hnamed r.name v hfound)
  | mount =>
    obtain ⟨hkeep, hbook, hshown⟩ :=
      change_quiet hnamed r.name (f := mounted r) (fun _ => rfl) fun _ => rfl
    refine ⟨⟨rfl, fun r' h => ?_, fun r' response v h hv => ?_, fun n _ _ => hbook n⟩, hkeep⟩
    · cases h
    · cases h
      exact hshown v hv
  | unmount =>
    have hkept : (s.serve .unmount r).2.Named ∧ ∀ n, (s.serve .unmount r).2.book n = s.book n := by
      obtain ⟨hkeep, hbook, -⟩ := change_quiet hnamed r.name
        (f := fun v => if s.unmountMessage = "" then released r v else v)
        (fun v => by split <;> rfl) fun v => by split <;> rfl
      unfold serve unmount
      dsimp only
      split <;> exact ⟨hkeep, hbook⟩
    exact ⟨.of_kept (fun _ h => by cases h) (fun _ h => by cases h) fun n _ => hkept.2 n, hkept.1⟩
  | remove =>
    refine ⟨.of_kept (fun _ h => by cases h) (fun _ h => by cases h) fun n hn => ?_,
      hnamed.erase r.name⟩
    exact (book_erase s r.name n).trans (if_neg fun heq => hn (congrArg some heq.symm))
  | detach =>
    exact ⟨.of_kept (fun _ h => by cases h) (fun _ h => by cases h) fun _ _ => rfl, hnamed⟩

end Provider.Store

namespace Testbed

/-- Surroundings whose provider replies by itself, or fails. -/
structure Faithful (t : Testbed) : Prop where
  named : t.store.Named
  unscripted : ∀ op, t.script (.provider op) = []

variable {t : Testbed}

/-- A call to the device manager leaves the provider alone. -/
theorem respond_hostSide (t : Testbed) {c : Call} (hc : Workflow.HostSide c) :
    (t.respond c).2.store = t.store ∧
      ∀ op, (t.respond c).2.script (.provider op) = t.script (.provider op) := by
  have hserve : ∀ t : Testbed, (t.serveReply c).2.store = t.store ∧
      (t.serveReply c).2.script = t.script := by
    intro t
    cases c with
    | provider op r => exact absurd rfl (hc op)
    | _ => exact ⟨rfl, rfl⟩
  have hscript : ∀ cues op, (t.withScript c.kind cues).script (.provider op) =
      t.script (.provider op) := by
    intro cues op
    exact dif_neg fun heq => hc op heq.symm
  unfold respond
  split
  · exact ⟨rfl, hscript _⟩
  · next rest _ =>
    obtain ⟨hstore, hsame⟩ := hserve (t.withScript c.kind rest)
    exact ⟨hstore, fun op => (congrFun hsame _).trans (hscript rest op)⟩
  · split
    · exact ⟨rfl, fun _ => rfl⟩
    · exact ⟨(hserve t).1, fun op => congrFun (hserve t).2 _⟩

/-- A reply of the provider that is not laid out is a failure, or what the provider does. -/
theorem respond_provider (h : t.Faithful) (op : Provider.Op) (r : Provider.Request) :
    (∃ f, t.respond (.provider op r) = (Except.error f, t)) ∨
      t.respond (.provider op r) =
        (Except.ok (t.store.serve op r).1, { t with store := (t.store.serve op r).2 }) := by
  have hunscripted : t.script (Call.provider op r).kind = [] := h.unscripted op
  unfold respond
  rw [hunscripted]
  dsimp only
  cases t.failures (Call.provider op r).kind with
  | some f => exact .inl ⟨f, rfl⟩
  | none => exact .inr rfl

/-- An effect that is nothing to the provider leaves it honest. -/
theorem honest_of_same (h : t.Faithful) {e : Effect} (he : ∀ op r, e ≠ .call (.provider op r))
    {reply : e.Reply} {t' : Testbed} (hstore : t'.store = t.store)
    (hscript : ∀ op, t'.script (.provider op) = t.script (.provider op)) :
    t.store.book.Honest ⟨e, reply⟩ t'.store.book ∧ t'.Faithful := by
  refine ⟨.of_kept (he .update) (he .mount) fun _ _ => by rw [hstore], ?_, fun op => ?_⟩
  · rw [hstore]
    exact h.named
  · rw [hscript]
    exact h.unscripted op

/-- The surroundings in memory are honest in their reply to a call if it is no update that fails. -/
theorem respond_honest (h : t.Faithful) {c : Call}
    (hserved : Exchange.isServed ⟨.call c, (t.respond c).1⟩ = true) :
    t.store.book.Honest ⟨.call c, (t.respond c).1⟩ (t.respond c).2.store.book ∧
      (t.respond c).2.Faithful := by
  have hdevice : Workflow.HostSide c →
      t.store.book.Honest ⟨.call c, (t.respond c).1⟩ (t.respond c).2.store.book ∧
        (t.respond c).2.Faithful := by
    intro hc
    obtain ⟨hstore, hscript⟩ := respond_hostSide t hc
    refine honest_of_same h (fun op r heq => ?_) hstore hscript
    cases heq
    exact hc op rfl
  cases c with
  | provider op r =>
    rcases respond_provider h op r with ⟨f, hreply⟩ | hreply
    · rw [hreply] at hserved ⊢
      refine ⟨⟨hserved, fun r' heq => ?_, fun r' _ _ heq => ?_, fun _ _ _ => rfl⟩, h⟩
      · cases heq
        cases hserved
      · cases heq
    · rw [hreply] at hserved ⊢
      obtain ⟨hhonest, hnamed⟩ := Provider.Store.serve_honest h.named op r hserved
      exact ⟨hhonest, hnamed, h.unscripted⟩
  | _ => exact hdevice nofun

/-- The surroundings in memory are honest if no update fails. -/
theorem perform_honest (h : t.Faithful) {e : Effect}
    (hserved : Exchange.isServed ⟨e, (t.perform e).1⟩ = true) :
    t.store.book.Honest ⟨e, (t.perform e).1⟩ (t.perform e).2.store.book ∧
      (t.perform e).2.Faithful := by
  cases e with
  | call c => exact respond_honest h hserved
  | removeDirectory path =>
    unfold perform
    dsimp only
    split
    · exact honest_of_same h (fun _ _ heq => by cases heq) rfl fun _ => rfl
    · exact honest_of_same h (fun _ _ heq => by cases heq) rfl fun _ => rfl
  | describeHost => exact honest_of_same h (fun _ _ heq => by cases heq) rfl fun _ => rfl
  | now => exact honest_of_same h (fun _ _ heq => by cases heq) rfl fun _ => rfl
  | sleep d => exact honest_of_same h (fun _ _ heq => by cases heq) rfl fun _ => rfl

/-- What a program does in the surroundings in memory is served by an honest provider if no update
fails. -/
theorem trace_serves {α : Type} (fuel : Nat) {p : Program α} (h : t.Faithful)
    (hserved : ∀ ex ∈ (Program.trace perform fuel p t).exchanges, ex.isServed = true) :
    t.store.book.Serves (Program.trace perform fuel p t).exchanges
        (Program.trace perform fuel p t).world.store.book ∧
      (Program.trace perform fuel p t).world.Faithful := by
  induction fuel generalizing p t with
  | zero => exact ⟨.nil _, h⟩
  | succ fuel ih =>
    rw [Program.trace] at hserved ⊢
    cases hview : p.view with
    | done a => exact ⟨.nil _, h⟩
    | asks e next =>
      rw [hview] at hserved
      obtain ⟨hhonest, hfaithful⟩ := perform_honest h (hserved _ List.mem_cons_self)
      obtain ⟨hserves, hlast⟩ := ih hfaithful fun ex hex => hserved ex (List.mem_cons_of_mem _ hex)
      exact ⟨.cons hhonest hserves, hlast⟩
    | enters name op next =>
      rw [hview] at hserved
      exact ih h hserved

end Testbed
end VolumeLifecycle
