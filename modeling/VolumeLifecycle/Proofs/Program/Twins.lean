import VolumeLifecycle.Proofs.Program.Ends
import VolumeLifecycle.Proofs.Program.Within

namespace VolumeLifecycle

/-- Somebody who sees the exchanges of a run as far as they are hard. Which effects are soft can depend
on how far the run has come, as far as it shows in the effects. -/
structure Observer (σ : Type) where
  /-- The stage after an effect. -/
  after : σ → Effect → σ
  isSoft : σ → Effect → Bool
  /-- The reply to a hard effect, as far as it matters. -/
  settled : (e : Effect) → e.Reply → e.Reply := fun _ reply => reply

/-- Two rows of exchanges have the same replies: as long as they are the same, the same effect has the
same reply in both. -/
def Agree (xs ys : List Exchange) : Prop :=
  ∀ before e reply reply' rest rest', xs = before ++ ⟨e, reply⟩ :: rest →
    ys = before ++ ⟨e, reply'⟩ :: rest' → reply = reply'

theorem Agree.refl (xs : List Exchange) : Agree xs xs := by
  rintro before e reply reply' rest rest' rfl h
  obtain ⟨hexchange, -⟩ := List.cons.inj (List.append_cancel_left h)
  exact eq_of_heq (Exchange.mk.inj hexchange).2

theorem Agree.of_append {shared xs ys : List Exchange} (h : Agree (shared ++ xs) (shared ++ ys)) :
    Agree xs ys := by
  rintro before e reply reply' rest rest' rfl rfl
  exact h (shared ++ before) e reply reply' rest rest' (by simp) (by simp)

theorem Agree.head {e : Effect} {reply reply' : e.Reply} {xs ys : List Exchange}
    (h : Agree (⟨e, reply⟩ :: xs) (⟨e, reply'⟩ :: ys)) : reply = reply' :=
  h [] e reply reply' xs ys rfl rfl

theorem Agree.tail {ex : Exchange} {xs ys : List Exchange} (h : Agree (ex :: xs) (ex :: ys)) :
    Agree xs ys := by
  have happend : Agree ([ex] ++ xs) ([ex] ++ ys) := h
  exact happend.of_append

namespace Observer

variable {σ : Type} (o : Observer σ)

def view : σ → List Exchange → List Exchange
  | _, [] => []
  | s, ⟨e, reply⟩ :: rest =>
    if o.isSoft s e then view (o.after s e) rest
    else ⟨e, o.settled e reply⟩ :: view (o.after s e) rest

def stage (s : σ) (es : List Exchange) : σ :=
  es.foldl (fun s ex => o.after s ex.effect) s

/-- An effect that is seen as it is, and does not lead to another stage. -/
structure Hard (s : σ) (e : Effect) : Prop where
  isSoft : o.isSoft s e = false
  settled : ∀ reply, o.settled e reply = reply
  after : o.after s e = s

/-- An effect that is not seen, and does not lead to another stage. -/
structure Soft (s : σ) (e : Effect) : Prop where
  isSoft : o.isSoft s e = true
  after : o.after s e = s

variable {o} {s : σ} {es : List Exchange}

theorem view_cons_of_soft {e : Effect} (h : o.isSoft s e = true) (reply : e.Reply)
    (rest : List Exchange) : o.view s (⟨e, reply⟩ :: rest) = o.view (o.after s e) rest :=
  if_pos h

theorem view_cons_of_hard {e : Effect} (h : o.isSoft s e = false) (reply : e.Reply)
    (rest : List Exchange) : o.view s (⟨e, reply⟩ :: rest) =
      ⟨e, o.settled e reply⟩ :: o.view (o.after s e) rest :=
  if_neg (by simp [h])

theorem view_append (s : σ) (es es' : List Exchange) :
    o.view s (es ++ es') = o.view s es ++ o.view (o.stage s es) es' := by
  induction es generalizing s with
  | nil => rfl
  | cons ex rest ih =>
    obtain ⟨e, reply⟩ := ex
    cases h : o.isSoft s e with
    | true =>
      rw [List.cons_append, view_cons_of_soft h, view_cons_of_soft h, ih]
      rfl
    | false =>
      rw [List.cons_append, view_cons_of_hard h, view_cons_of_hard h, ih]
      rfl

theorem stage_append (s : σ) (es es' : List Exchange) :
    o.stage s (es ++ es') = o.stage (o.stage s es) es' :=
  List.foldl_append ..

theorem view_of_hard (h : ∀ ex ∈ es, o.Hard s ex.effect) :
    o.view s es = es ∧ o.stage s es = s := by
  induction es with
  | nil => exact ⟨rfl, rfl⟩
  | cons ex rest ih =>
    obtain ⟨e, reply⟩ := ex
    have hhead : o.Hard s e := h _ List.mem_cons_self
    obtain ⟨hview, hstage⟩ := ih fun ex hex => h ex (List.mem_cons_of_mem _ hex)
    rw [view_cons_of_hard hhead.isSoft, hhead.settled, stage, List.foldl_cons, hhead.after, hview]
    exact ⟨rfl, hstage⟩

theorem view_of_soft (h : ∀ ex ∈ es, o.Soft s ex.effect) :
    o.view s es = [] ∧ o.stage s es = s := by
  induction es with
  | nil => exact ⟨rfl, rfl⟩
  | cons ex rest ih =>
    obtain ⟨e, reply⟩ := ex
    have hhead : o.Soft s e := h _ List.mem_cons_self
    rw [view_cons_of_soft hhead.isSoft, stage, List.foldl_cons, hhead.after]
    exact ih fun ex hex => h ex (List.mem_cons_of_mem _ hex)

/-- Nothing is seen of a soft effect and of what follows if everything is soft from then on. -/
theorem view_of_closing {t : σ} {e : Effect} (hsoft : o.isSoft s e = true) (hafter : o.after s e = t)
    (hclosing : ∀ e', o.Soft t e') (reply : e.Reply) (rest : List Exchange) :
    o.view s (⟨e, reply⟩ :: rest) = [] ∧ o.stage s (⟨e, reply⟩ :: rest) = t := by
  rw [view_cons_of_soft hsoft, stage, List.foldl_cons, hafter]
  exact view_of_soft fun ex _ => hclosing ex.effect

end Observer

namespace Program

variable {σ α β : Type} {o : Observer σ} {s : σ}

/-- Any two runs of the programs from a stage on in which the observer sees the same replies are the
same to the observer, and end at the same stage and with values that are related as they should be.
The exchanges that follow are left open, so that programs can be put together. -/
def Twins (o : Observer σ) (s : σ) (post : σ → α → α → Prop) (p q : Program α) : Prop :=
  ∀ es a es' b more more', p.Runs es (some a) → q.Runs es' (some b) →
    Agree (o.view s es ++ more) (o.view s es' ++ more') →
      o.view s es = o.view s es' ∧ o.stage s es = o.stage s es' ∧ post (o.stage s es) a b

namespace Twins

theorem mono {post post' : σ → α → α → Prop} (hpost : ∀ s a b, post s a b → post' s a b)
    {p q : Program α} (h : Twins o s post p q) : Twins o s post' p q := by
  intro es a es' b more more' hp hq hagree
  obtain ⟨hview, hstage, hab⟩ := h es a es' b more more' hp hq hagree
  exact ⟨hview, hstage, hpost _ _ _ hab⟩

theorem done {post : σ → α → α → Prop} {a b : α} (h : post s a b) :
    Twins o s post (.done a) (.done b) := by
  intro es x es' y more more' hp hq _
  obtain ⟨rfl, rfl⟩ := runs_done_iff.1 hp
  obtain ⟨rfl, rfl⟩ := runs_done_iff.1 hq
  exact ⟨rfl, rfl, h⟩

/-- Twins that are followed by twins. -/
theorem andThen {mid : σ → α → α → Prop} {post : σ → β → β → Prop} {p q : Program α}
    {f g : α → Program β} (h : Twins o s mid p q)
    (hfg : ∀ t a b, mid t a b → Twins o t post (f a) (g b)) :
    Twins o s post (p.andThen f) (q.andThen g) := by
  intro es x es' y more more' hp hq hagree
  rcases hp.andThen_inv with ⟨-, hcut⟩ | ⟨a, es₁, es₂, rfl, hpa, hfx⟩
  · cases hcut
  rcases hq.andThen_inv with ⟨-, hcut⟩ | ⟨b, es₁', es₂', rfl, hqb, hgy⟩
  · cases hcut
  rw [Observer.view_append, Observer.view_append, List.append_assoc, List.append_assoc] at hagree
  obtain ⟨hview, hstage, hab⟩ := h _ _ _ _ _ _ hpa hqb hagree
  rw [hview, ← hstage] at hagree
  obtain ⟨hview', hstage', hxy⟩ := hfg _ _ _ hab _ _ _ _ _ _ hfx hgy hagree.of_append
  rw [Observer.view_append, Observer.view_append, Observer.stage_append, Observer.stage_append,
    ← hstage, hview, hview']
  exact ⟨rfl, hstage', hxy⟩

/-- A step that the observer sees has the same reply in both runs, as far as the reply matters. -/
theorem perform {post : σ → α → α → Prop} {e : Effect} {next next' : e.Reply → Program α}
    (hsoft : o.isSoft s e = false)
    (h : ∀ reply reply', o.settled e reply = o.settled e reply' →
      Twins o (o.after s e) post (next reply) (next' reply')) :
    Twins o s post (.perform e next) (.perform e next') := by
  intro es a es' b more more' hp hq hagree
  obtain ⟨reply, rest, rfl, hnext⟩ := runs_perform_iff.1 hp
  obtain ⟨reply', rest', rfl, hnext'⟩ := runs_perform_iff.1 hq
  rw [Observer.view_cons_of_hard hsoft, Observer.view_cons_of_hard hsoft] at hagree ⊢
  have hsettled := hagree.head
  rw [hsettled] at hagree ⊢
  obtain ⟨hview, hstage, hab⟩ := h _ _ hsettled _ _ _ _ _ _ hnext hnext' hagree.tail
  exact ⟨by rw [hview], hstage, hab⟩

/-- A step that the observer does not see can have any reply in either run. -/
theorem perform_soft {post : σ → α → α → Prop} {e : Effect} {next next' : e.Reply → Program α}
    (hsoft : o.isSoft s e = true)
    (h : ∀ reply reply', Twins o (o.after s e) post (next reply) (next' reply')) :
    Twins o s post (.perform e next) (.perform e next') := by
  intro es a es' b more more' hp hq hagree
  obtain ⟨reply, rest, rfl, hnext⟩ := runs_perform_iff.1 hp
  obtain ⟨reply', rest', rfl, hnext'⟩ := runs_perform_iff.1 hq
  rw [Observer.view_cons_of_soft hsoft, Observer.view_cons_of_soft hsoft] at hagree ⊢
  exact h _ _ _ _ _ _ _ _ hnext hnext' hagree

/-- Programs that pass the gate are twins if they are so inside of it. -/
theorem enter {post : σ → α → α → Prop} {name : String} {op : Operation} {p q : Program α}
    (h : Twins o s post p q) : Twins o s post (.enter name op p) (.enter name op q) := by
  intro es a es' b more more' hp hq
  exact h es a es' b more more' (runs_enter_iff.1 hp) (runs_enter_iff.1 hq)

/-- Programs of which nothing is seen. Whatever they do, they are twins. -/
theorem of_unseen {p q : Program α} {t : σ} {P : α → Prop}
    (hp : ∀ es a, p.Runs es (some a) → o.view s es = [] ∧ o.stage s es = t ∧ P a)
    (hq : ∀ es a, q.Runs es (some a) → o.view s es = [] ∧ o.stage s es = t ∧ P a) :
    Twins o s (fun t' a b => t' = t ∧ P a ∧ P b) p q := by
  intro es a es' b more more' hrun hrun' _
  obtain ⟨hview, hstage, ha⟩ := hp es a hrun
  obtain ⟨hview', hstage', hb⟩ := hq es' b hrun'
  rw [hview, hview', hstage, hstage']
  exact ⟨rfl, rfl, rfl, ha, hb⟩

/-- Runs of one program that get the same replies are the same. -/
theorem eq_of_agree {p : Program α} {es es' more more' : List Exchange} {a b : α}
    (h : p.Runs es (some a)) (h' : p.Runs es' (some b)) (hagree : Agree (es ++ more) (es' ++ more')) :
    es = es' ∧ a = b := by
  generalize hx : some a = x at h
  induction h generalizing es' with
  | cut => cases hx
  | done hview =>
    cases hx
    obtain ⟨rfl, rfl⟩ := runs_done_iff.1 (h'.of_view_eq hview)
    exact ⟨rfl, rfl⟩
  | asks hview _ ih =>
    have hperform : (Program.perform _ _).Runs es' (some b) := h'.of_view_eq hview
    obtain ⟨reply', rest', rfl, hnext'⟩ := runs_perform_iff.1 hperform
    rw [List.cons_append, List.cons_append] at hagree
    obtain rfl := hagree.head
    obtain ⟨rfl, rfl⟩ := ih hnext' hagree.tail hx
    exact ⟨rfl, rfl⟩
  | enters hview _ ih =>
    have henter : (Program.enter _ _ _).Runs es' (some b) := h'.of_view_eq hview
    exact ih (runs_enter_iff.1 henter) hagree hx

/-- A program of hard steps alone has but one end. -/
theorem refl {p : Program α} (hp : p.Within (o.Hard s)) :
    Twins o s (fun t a b => t = s ∧ a = b) p p := by
  intro es a es' b more more' hrun hrun' hagree
  obtain ⟨hview, hstage⟩ := Observer.view_of_hard (hp.effects hrun)
  obtain ⟨hview', -⟩ := Observer.view_of_hard (hp.effects hrun')
  rw [hview, hview'] at hagree
  obtain ⟨rfl, rfl⟩ := eq_of_agree hrun hrun' hagree
  exact ⟨rfl, rfl, hstage, rfl⟩

end Twins
end Program

namespace Workflow

open Program (Twins Within)

variable {σ α β : Type} {o : Observer σ} {s : σ}

/-- Workflows that end with the same failure, or with values that are related as they should be. -/
def Alike (o : Observer σ) (s : σ) (post : σ → α → α → Prop) (w w' : Workflow α) : Prop :=
  Twins o s (fun t x y => (∃ f, x = .error f ∧ y = .error f) ∨
    ∃ a b, x = .ok a ∧ y = .ok b ∧ post t a b) w.run w'.run

/-- Workflows that end alike in one sense do so in every weaker one. -/
theorem alike_mono {post post' : σ → α → α → Prop} (hpost : ∀ t a b, post t a b → post' t a b)
    {w w' : Workflow α} (h : Alike o s post w w') : Alike o s post' w w' := by
  refine Twins.mono (fun t x y hxy => ?_) h
  rcases hxy with hfail | ⟨a, b, hx, hy, hab⟩
  · exact .inl hfail
  · exact .inr ⟨a, b, hx, hy, hpost t a b hab⟩

theorem alike_pure {post : σ → α → α → Prop} {a b : α} (h : post s a b) :
    Alike o s post (pure a) (pure b) :=
  Twins.done (.inr ⟨a, b, rfl, rfl, h⟩)

theorem alike_fail {post : σ → α → α → Prop} (f : Failure) :
    Alike o s post (fail f) (fail f) :=
  Twins.done (.inl ⟨f, rfl, rfl⟩)

/-- Workflows are alike one after the other, if what follows is alike for all that the first ones
may end with. -/
theorem alike_bind {mid : σ → α → α → Prop} {post : σ → β → β → Prop} {w w' : Workflow α}
    {f g : α → Workflow β} (h : Alike o s mid w w')
    (hfg : ∀ t a b, mid t a b → Alike o t post (f a) (g b)) :
    Alike o s post (w >>= f) (w' >>= g) := by
  refine Twins.andThen h fun t x y hxy => ?_
  rcases hxy with ⟨e, rfl, rfl⟩ | ⟨a, b, rfl, rfl, hab⟩
  · exact Twins.done (.inl ⟨e, rfl, rfl⟩)
  · exact hfg t a b hab

/-- A workflow of hard steps alone. -/
theorem alike_refl {w : Workflow α} (h : w.run.Within (o.Hard s)) :
    Alike o s (fun t a b => t = s ∧ a = b) w w := by
  refine (Twins.refl h).mono fun t x y hxy => ?_
  obtain ⟨rfl, rfl⟩ := hxy
  cases x with
  | error f => exact .inl ⟨f, rfl, rfl⟩
  | ok a => exact .inr ⟨a, a, rfl, rfl, rfl, rfl⟩

/-- A workflow of which nothing is seen and that does not fail. -/
theorem alike_unseen {w : Workflow α} {t : σ} {P : α → Prop}
    (h : ∀ es x, Ends w es x → o.view s es = [] ∧ o.stage s es = t ∧ ∃ a, x = .ok a ∧ P a) :
    Alike o s (fun t' a b => t' = t ∧ P a ∧ P b) w w := by
  refine (Twins.of_unseen h h).mono fun t' x y hxy => ?_
  obtain ⟨ht, ⟨a, rfl, ha⟩, b, rfl, hb⟩ := hxy
  exact .inr ⟨a, b, rfl, rfl, ht, ha, hb⟩

/-- An effect that is asked for its reply. -/
theorem alike_perform {e : Effect} (hsoft : o.isSoft s e = false) :
    Alike o s (fun t a b => t = o.after s e ∧ o.settled e a = o.settled e b)
      (perform e) (perform e) :=
  Twins.perform hsoft fun reply reply' h => Twins.done (.inr ⟨reply, reply', rfl, rfl, rfl, h⟩)

theorem alike_perform_soft {e : Effect} (hsoft : o.isSoft s e = true) :
    Alike o s (fun t _ _ => t = o.after s e) (perform e) (perform e) :=
  Twins.perform_soft hsoft fun reply reply' => Twins.done (.inr ⟨reply, reply', rfl, rfl, rfl⟩)

/-- A call that is made for its reply. -/
theorem alike_attempt {c : Call} (hsoft : o.isSoft s (.call c) = false) :
    Alike o s (fun t a b => t = o.after s (.call c) ∧
      o.settled (.call c) a = o.settled (.call c) b) (attempt c) (attempt c) :=
  alike_perform hsoft

/-- An attempt at a soft call may fail in one run and succeed in the other. -/
theorem alike_attempt_soft {c : Call} (hsoft : o.isSoft s (.call c) = true) :
    Alike o s (fun t _ _ => t = o.after s (.call c)) (attempt c) (attempt c) :=
  alike_perform_soft hsoft

/-- A call whose failure is passed on. -/
theorem alike_call {c : Call} (hsoft : o.isSoft s (.call c) = false)
    (hsettled : ∀ reply, o.settled (.call c) reply = reply) :
    Alike o s (fun t a b => t = o.after s (.call c) ∧ a = b) (call c) (call c) := by
  refine Twins.perform hsoft fun reply reply' h => Twins.done ?_
  rw [hsettled, hsettled] at h
  cases h
  cases reply with
  | error f => exact .inl ⟨f, rfl, rfl⟩
  | ok a => exact .inr ⟨a, a, rfl, rfl, rfl, rfl⟩

/-- A hard call to the provider gets the same reply in both runs. -/
theorem alike_provider {op : Provider.Op} {request : Provider.Request}
    (hsoft : o.isSoft s (.call (.provider op request)) = false)
    (hsettled : ∀ reply, o.settled (.call (.provider op request)) reply = reply) :
    Alike o s (fun t a b => t = o.after s (.call (.provider op request)) ∧ a = b)
      (provider op request) (provider op request) :=
  alike_call hsoft hsettled

/-- A step whose result is known, and what follows. -/
theorem alike_ofExcept_bind {post : σ → β → β → Prop} {result : Except Failure α}
    {f g : α → Workflow β} (h : ∀ a, Alike o s post (f a) (g a)) :
    Alike o s post (ofExcept result >>= f) (ofExcept result >>= g) := by
  cases result with
  | error e => exact alike_fail e
  | ok a => exact h a

/-- The gate, and what follows. -/
theorem alike_enter_bind {post : σ → β → β → Prop} {name : String} {op : Operation}
    {f g : Unit → Workflow β} (h : Alike o s post (f ()) (g ())) :
    Alike o s post (enter name op >>= f) (enter name op >>= g) :=
  Twins.enter h

end Workflow
end VolumeLifecycle
