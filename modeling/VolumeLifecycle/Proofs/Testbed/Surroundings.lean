import VolumeLifecycle.Proofs.Mounts.Table
import VolumeLifecycle.Proofs.Testbed.Injection

namespace VolumeLifecycle

namespace Provider.Store

variable {s : Store}

/-- The serial number of a volume that this provider creates. -/
def serialOf (name : String) : String :=
  "serial-" ++ name

/-- Every volume has the name under which it is kept, and the serial number that belongs to it. -/
def Numbered (s : Store) : Prop :=
  ∀ name v, s.volumes.get? name = some v → v.name = name ∧ v.serialNumber = serialOf name

theorem Numbered.insert (h : s.Numbered) {v : Volume} {name : String} (hname : v.name = name)
    (hserial : v.serialNumber = serialOf name) :
    Numbered { s with volumes := s.volumes.insert name v } := by
  intro n u hu
  rw [Dict.get?_insert] at hu
  split at hu
  · next heq =>
    cases hu
    exact heq ▸ ⟨hname, hserial⟩
  · exact h n u hu

theorem Numbered.erase (h : s.Numbered) (name : String) :
    Numbered { s with volumes := s.volumes.erase name } := by
  intro n u hu
  rw [Dict.get?_erase] at hu
  split at hu
  · cases hu
  · exact h n u hu

/-- What a request comes to: the volumes keep their numbers, only a remove takes one away, and a volume that
is shown is there. -/
structure Served (s : Store) (op : Op) (request : Request) : Prop where
  numbered : (s.serve op request).2.Numbered
  keeps : op ≠ .remove → ∀ name, (s.volumes.get? name).isSome →
    ((s.serve op request).2.volumes.get? name).isSome
  shows : ∀ v, (s.serve op request).1.volume = some v →
    (s.serve op request).2.volumes.get? request.name = some v

/-- A change of a volume that leaves its name and serial number alone. -/
theorem Numbered.change (h : s.Numbered) {f : Volume → Volume} (hname : ∀ v, (f v).name = v.name)
    (hserial : ∀ v, (f v).serialNumber = v.serialNumber) (name : String) :
    (s.change name f).2.Numbered ∧
      (∀ n, (s.volumes.get? n).isSome → ((s.change name f).2.volumes.get? n).isSome) ∧
      ∀ v, (s.change name f).1.volume = some v →
        (s.change name f).2.volumes.get? name = some v := by
  cases hfound : s.volumes.get? name with
  | none =>
    rw [change_of_none hfound]
    exact ⟨h, fun _ => id, nofun⟩
  | some u =>
    obtain ⟨hu, hnumber⟩ := h name u hfound
    rw [change_of_some hfound]
    refine ⟨h.insert ((hname u).trans hu) ((hserial u).trans hnumber), fun n hn => ?_, ?_⟩
    · rw [Dict.get?_insert]
      split
      · rfl
      · exact hn
    · rintro v hv
      rw [Dict.get?_insert, if_pos rfl]
      exact hv

theorem Numbered.served (h : s.Numbered) (op : Op) (request : Request) : s.Served op request := by
  cases op with
  | get =>
    obtain ⟨hnumbered, hkeeps, hshows⟩ :=
      h.change (f := id) (fun _ => rfl) (fun _ => rfl) request.name
    exact ⟨hnumbered, fun _ => hkeeps, hshows⟩
  | create =>
    refine ⟨h.insert rfl rfl, fun _ name hname => ?_, fun v hv => ?_⟩
    · refine (congrArg Option.isSome (Dict.get?_insert _ _ _ _)).trans ?_
      split
      · rfl
      · exact hname
    · refine (Dict.get?_insert _ _ _ _).trans ((if_pos rfl).trans hv)
  | update =>
    obtain ⟨hnumbered, hkeeps, hshows⟩ := h.change
      (f := fun v => { v with status := request.opts.entries.foldl updateStatus v.status })
      (fun _ => rfl) (fun _ => rfl) request.name
    exact ⟨hnumbered, fun _ => hkeeps, hshows⟩
  | mount =>
    obtain ⟨hnumbered, hkeeps, hshows⟩ :=
      h.change (f := mounted request) (fun _ => rfl) (fun _ => rfl) request.name
    exact ⟨hnumbered, fun _ => hkeeps, hshows⟩
  | unmount =>
    obtain ⟨hnumbered, hkeeps, hshows⟩ := h.change
      (f := fun v => if s.unmountMessage = "" then released request v else v)
      (fun v => by split <;> rfl) (fun v => by split <;> rfl) request.name
    have hserve : (s.serve .unmount request).2 = (s.change request.name fun v =>
        if s.unmountMessage = "" then released request v else v).2 ∧
        (s.serve .unmount request).1.volume = (s.change request.name fun v =>
          if s.unmountMessage = "" then released request v else v).1.volume := by
      unfold serve unmount
      dsimp only
      split <;> exact ⟨rfl, rfl⟩
    refine ⟨hserve.1 ▸ hnumbered, fun _ => hserve.1 ▸ hkeeps, ?_⟩
    rw [hserve.1, hserve.2]
    exact hshows
  | remove => exact ⟨h.erase request.name, fun hne => absurd rfl hne, nofun⟩
  | detach => exact ⟨h, fun _ _ => id, nofun⟩

/-- A look-up changes nothing, and shows a volume that is there. -/
theorem serve_get_volumes (s : Store) (request : Request) :
    (s.serve .get request).2.volumes = s.volumes ∧ ((s.volumes.get? request.name).isSome →
      ∃ v, (s.serve .get request).1.intoVolume request.name = .ok v) := by
  cases hfound : s.volumes.get? request.name with
  | none =>
    rw [serve, change_of_none hfound]
    exact ⟨rfl, fun hsome => absurd hsome Bool.false_ne_true⟩
  | some v =>
    rw [serve_get hfound]
    exact ⟨rfl, fun _ => ⟨v, rfl⟩⟩

end Provider.Store

namespace Testbed

open Provider (Store)

/-- Surroundings that do what they should or fail: nothing but failures is laid out for a call, and the
volumes have their own serial numbers. -/
structure Truthful (t : Testbed) : Prop where
  script : ∀ k, ∀ cue ∈ t.script k, ∀ a, cue ≠ .reply (.ok a)
  numbered : t.store.Numbered

variable {t : Testbed}

/-- A call fails and changes no volume, device or mount, or it does what it does by itself. -/
theorem Truthful.respond (h : t.Truthful) (c : Call) :
    (t.respond c).2.Truthful ∧
      ((∃ f, (t.respond c).1 = .error f ∧ (t.respond c).2.store = t.store ∧
          (t.respond c).2.table = t.table) ∨
        ((t.respond c).1 = .ok (t.serve c).1 ∧ (t.respond c).2.store = (t.serve c).2.store ∧
          (t.respond c).2.table = (t.serve c).2.table)) := by
  have hserve : (t.serve c).2.store.Numbered := by
    cases c with
    | provider op request => exact (h.numbered.served op request).numbered
    | _ => exact h.numbered
  have hscript : ∀ {cue : Cue c.kind} {rest : List (Cue c.kind)}, t.script c.kind = cue :: rest →
      ∀ k, ∀ next ∈ (t.withScript c.kind rest).script k, ∀ a, next ≠ .reply (.ok a) := by
    intro cue rest hcues k next hnext
    by_cases hk : k = c.kind
    · subst hk
      have hrest : (t.withScript c.kind rest).script c.kind = rest := dif_pos rfl
      rw [hrest] at hnext
      exact h.script c.kind next (hcues ▸ List.mem_cons_of_mem _ hnext)
    · have hsame : (t.withScript c.kind rest).script k = t.script k := dif_neg hk
      exact h.script k next (hsame ▸ hnext)
  unfold Testbed.respond
  split
  · next r rest hcues =>
    refine ⟨⟨hscript hcues, h.numbered⟩, ?_⟩
    cases r with
    | error f => exact .inl ⟨f, rfl, rfl, rfl⟩
    | ok a => exact absurd rfl (h.script c.kind _ (hcues ▸ List.mem_cons_self) a)
  · next rest hcues =>
    rw [serveReply, serve_withScript]
    refine ⟨⟨?_, hserve⟩, .inr ⟨rfl, rfl, rfl⟩⟩
    have hframe : (t.serve c).2.script = t.script := (serve_frame t c).2.2
    have hsame : ((t.serve c).2.withScript c.kind rest).script = (t.withScript c.kind rest).script := by
      unfold withScript
      rw [hframe]
    rw [hsame]
    exact hscript hcues
  · split
    · next f hf => exact ⟨h, .inl ⟨f, rfl, rfl, rfl⟩⟩
    · exact ⟨⟨(serve_frame t c).2.2 ▸ h.script, hserve⟩, .inr ⟨rfl, rfl, rfl⟩⟩

/-- An effect that is no call is nothing to the volumes, the devices and the mounts. -/
theorem Truthful.idle (h : t.Truthful) {e : Effect} (he : ∀ c, e ≠ .call c) :
    (t.perform e).2.Truthful ∧ (t.perform e).2.store = t.store ∧ (t.perform e).2.table = t.table := by
  cases e with
  | call c => exact absurd rfl (he c)
  | removeDirectory path =>
    unfold perform
    dsimp only
    split <;> exact ⟨⟨h.script, h.numbered⟩, rfl, rfl⟩
  | describeHost => exact ⟨h, rfl, rfl⟩
  | now => exact ⟨h, rfl, rfl⟩
  | sleep duration => exact ⟨⟨h.script, h.numbered⟩, rfl, rfl⟩

theorem Truthful.perform (h : t.Truthful) (e : Effect) : (t.perform e).2.Truthful := by
  cases e with
  | call c => exact (h.respond c).1
  | _ => exact (h.idle fun _ heq => Effect.noConfusion heq).1

/-- A call that is answered does what it does by itself. -/
theorem Truthful.answered (h : t.Truthful) {t' : Testbed} {c : Call} {a : c.Answer}
    (hreply : t.perform (.call c) = (Except.ok a, t')) :
    a = (t.serve c).1 ∧ t'.store = (t.serve c).2.store ∧ t'.table = (t.serve c).2.table := by
  have hfst : (t.respond c).1 = .ok a := congrArg Prod.fst hreply
  obtain rfl : (t.respond c).2 = t' := congrArg Prod.snd hreply
  rcases (h.respond c).2 with ⟨f, hf, -⟩ | ⟨hok, hstore, htable⟩
  · cases hf.symm.trans hfst
  · exact ⟨Except.ok.inj (hfst.symm.trans hok), hstore, htable⟩

/-- The mount table changes by nothing but the calls that mount and unmount. -/
theorem Truthful.changes (h : t.Truthful) (e : Effect) :
    Mount.Changes t.table.mounts ⟨e, (t.perform e).1⟩ (t.perform e).2.table.mounts := by
  cases e with
  | call c =>
    have hreply : (t.perform (.call c)).1 = (t.respond c).1 := rfl
    have hworld : (t.perform (.call c)).2 = (t.respond c).2 := rfl
    rw [hreply, hworld]
    rcases (h.respond c).2 with ⟨f, hf, -, htable⟩ | ⟨hok, -, htable⟩
    · rw [hf, htable]
      exact .failed _ c f
    · rw [hok, htable]
      cases c with
      | attachAndMountDevice v path => exact .attachAndMount _ v path _ rfl rfl
      | mountDevice d path => exact .mount _ d path _ rfl rfl
      | unmountDevice v => exact .unmount _ v
      | unmountFileSystem path => exact .unmountAt _ path
      | attachDevice volumes =>
        have hmounts : ∀ (devices : List Device) (table : DeviceTable),
            (devices.foldl DeviceTable.put table).mounts = table.mounts := by
          intro devices
          induction devices with
          | nil => exact fun _ => rfl
          | cons d rest ih => exact fun table => ih (table.put d)
        have hsame : (t.serve (.attachDevice volumes)).2.table.mounts = t.table.mounts :=
          hmounts _ t.table
        rw [hsame]
        exact .other _ _ ⟨rfl, rfl⟩
      | _ => exact .other _ _ ⟨rfl, rfl⟩
  | _ =>
    rw [(h.idle fun _ heq => Effect.noConfusion heq).2.2]
    exact .other _ _ trivial

/-- Questions change neither volumes nor devices. -/
theorem Truthful.reads (h : t.Truthful) {e : Effect} (he : e.IsQuestion) :
    (t.perform e).2.store.volumes = t.store.volumes ∧
      (t.perform e).2.table.devices = t.table.devices := by
  cases e with
  | call c =>
    have hworld : (t.perform (.call c)).2 = (t.respond c).2 := rfl
    rw [hworld]
    rcases (h.respond c).2 with ⟨f, -, hstore, htable⟩ | ⟨-, hstore, htable⟩
    · rw [hstore, htable]
      exact ⟨rfl, rfl⟩
    · rw [hstore, htable]
      cases c with
      | getMounts serialNumber => exact ⟨rfl, rfl⟩
      | provider op request =>
        cases op with
        | get => exact ⟨(Store.serve_get_volumes t.store request).1, rfl⟩
        | _ => exact he.elim nofun nofun
      | _ => exact he.elim nofun nofun
  | describeHost => exact ⟨rfl, rfl⟩
  | _ => exact he.elim

/-- Volumes go away by a remove only. -/
theorem Truthful.keeps (h : t.Truthful) {e : Effect} (he : e.RemovesNoVolume) {name : String}
    (hname : (t.store.volumes.get? name).isSome) :
    ((t.perform e).2.store.volumes.get? name).isSome := by
  cases e with
  | call c =>
    have hworld : (t.perform (.call c)).2 = (t.respond c).2 := rfl
    rw [hworld]
    rcases (h.respond c).2 with ⟨f, -, hstore, -⟩ | ⟨-, hstore, -⟩
    · rw [hstore]
      exact hname
    · rw [hstore]
      cases c with
      | provider op request =>
        refine (h.numbered.served op request).keeps (fun hop => he ?_) name hname
        rw [hop]
        rfl
      | _ => exact hname
  | _ =>
    rw [(h.idle fun _ heq => Effect.noConfusion heq).2.1]
    exact hname

def surroundings : Surroundings Testbed where
  perform := perform
  volumes t := t.store.volumes
  devices t := t.table.devices
  mounts t := t.table.mounts
  serial := Store.serialOf
  Sound := Truthful
  sound _ e h := h.perform e
  changes _ e h := h.changes e
  reads _ _ h he := h.reads he
  keeps _ _ _ h he hname := h.keeps he hname
  showsMounts _ _ _ _ h hreply := (h.answered hreply).1
  showsVolume t t' op request response v h hreply hv := by
    obtain ⟨rfl, hstore, -⟩ := h.answered hreply
    have hserved := h.numbered.served op request
    have hstored := hserved.shows v hv
    obtain ⟨hname, hserial⟩ := hserved.numbered _ _ hstored
    refine ⟨hname, hserial, ?_⟩
    rw [hstore]
    exact Option.isSome_of_eq_some hstored
  resolves t t' request response h hreply hname := by
    obtain ⟨rfl, -⟩ := h.answered hreply
    exact (Store.serve_get_volumes t.store request).2 hname
  attaches t t' volumes attached h hreply d hd := by
    obtain ⟨rfl, -⟩ := h.answered hreply
    obtain ⟨v, hv, rfl⟩ := List.mem_map.1 hd
    exact ⟨v, hv, rfl⟩

end Testbed
end VolumeLifecycle
