import VolumeLifecycle.Dict

namespace VolumeLifecycle.Dict

variable {α : Type}

/-- The first entry of a list counts for its own name and no other. -/
theorem lookup_cons (name : String) (entry : String × α) (rest : List (String × α)) :
    (entry :: rest).lookup name = if name = entry.1 then some entry.2 else rest.lookup name := by
  obtain ⟨key, value⟩ := entry
  rw [List.lookup_cons]
  by_cases h : name = key
  · simp [h]
  · simp [h, beq_eq_false_iff_ne.2 h]

/-- An entry put into a list is found under its name, and nothing else changes. -/
theorem lookup_insertEntry (key : String) (value : α) (entries : List (String × α))
    (name : String) :
    (insertEntry key value entries).lookup name =
      if name = key then some value else entries.lookup name := by
  induction entries with
  | nil => simp [insertEntry, lookup_cons]
  | cons entry rest ih =>
    rw [insertEntry]
    split
    · rw [lookup_cons]
    · split
      · next heq =>
        rw [lookup_cons, lookup_cons]
        by_cases h : name = key
        · simp [h]
        · simp [h, ← heq]
      · next hne =>
        rw [lookup_cons, lookup_cons, ih]
        by_cases h : name = entry.1
        · simp [h, Ne.symm hne]
        · simp [h]

/-- A new entry is found under its name, and nothing else changes. -/
theorem get?_insert (d : Dict α) (key : String) (value : α) (name : String) :
    (d.insert key value).get? name = if name = key then some value else d.get? name :=
  lookup_insertEntry key value d.entries name

/-- Among the entries whose names are kept a name is found as before if it is one of these. -/
theorem lookup_filter_name (keep : String → Bool) (entries : List (String × α)) (name : String) :
    (entries.filter fun e => keep e.1).lookup name =
      if keep name then entries.lookup name else none := by
  induction entries with
  | nil => simp
  | cons entry rest ih =>
    rw [lookup_cons]
    by_cases hkeep : keep entry.1
    · rw [List.filter_cons_of_pos (by simpa using hkeep), lookup_cons, ih]
      by_cases h : name = entry.1
      · simp [h, hkeep]
      · simp [h]
    · rw [List.filter_cons_of_neg (by simpa using hkeep), ih]
      by_cases h : name = entry.1
      · simp [h, hkeep]
      · simp [h]

/-- The entry of an erased name is gone, and nothing else changes. -/
theorem get?_erase (d : Dict α) (key name : String) :
    (d.erase key).get? name = if name = key then none else d.get? name := by
  have hfilter := lookup_filter_name (fun other => other ≠ key) d.entries name
  by_cases h : name = key
  · simpa [h, get?, erase] using hfilter
  · simpa [h, get?, erase] using hfilter

/-- A name before all names of a list is not found in it. -/
theorem lookup_eq_none_of_lt {name : String} {entries : List (String × α)}
    (h : ∀ e ∈ entries, name < e.1) : entries.lookup name = none := by
  refine List.lookup_eq_none_iff.2 fun e he => ?_
  have hlt := h e he
  exact bne_iff_ne.2 fun heq : name = e.1 => String.lt_irrefl e.1 (heq ▸ hlt)

/-- The names are those under which something is found. -/
theorem mem_keys_iff {d : Dict α} {name : String} :
    name ∈ d.keys ↔ ∃ value, d.get? name = some value := by
  have hfound : name ∈ d.keys ↔ d.get? name ≠ none := by
    rw [keys, get?, Ne, List.lookup_eq_none_iff]
    simp
  rw [hfound, Option.ne_none_iff_exists']

/-- No name is there twice. -/
theorem nodup_keys (d : Dict α) : d.keys.Nodup := by
  refine List.pairwise_map.2 (d.sorted.imp fun {a b} hlt heq => ?_)
  rw [heq] at hlt
  exact String.lt_irrefl b.1 hlt

/-- Of the entries of a list and those of a map the list's counts, if it has no name twice. -/
theorem get?_insertAll (d : Dict α) {entries : List (String × α)}
    (h : (entries.map Prod.fst).Nodup) (name : String) :
    (d.insertAll entries).get? name = (entries.lookup name).or (d.get? name) := by
  induction entries generalizing d with
  | nil => rfl
  | cons entry rest ih =>
    obtain ⟨hhead, hrest⟩ := List.nodup_cons.1 h
    refine (ih (d.insert entry.1 entry.2) hrest).trans ?_
    rw [get?_insert, lookup_cons]
    by_cases hname : name = entry.1
    · have hnone : rest.lookup entry.1 = none :=
        List.lookup_eq_none_iff.2 fun e he =>
          bne_iff_ne.2 fun heq : entry.1 = e.1 => hhead (heq ▸ List.mem_map_of_mem he)
      simp [hname, hnone]
    · simp [hname]

/-- In a union the second map's entry counts if it has one. -/
theorem get?_union (d e : Dict α) (name : String) :
    (d.union e).get? name = (e.get? name).or (d.get? name) :=
  d.get?_insertAll e.nodup_keys name

/-- In a list that has no name twice, an entry is found under its name. -/
theorem lookup_eq_some_iff_mem {entries : List (String × α)} (h : (entries.map Prod.fst).Nodup)
    {name : String} {value : α} : entries.lookup name = some value ↔ (name, value) ∈ entries := by
  induction entries with
  | nil => simp
  | cons entry rest ih =>
    obtain ⟨hhead, hrest⟩ := List.nodup_cons.1 h
    rw [lookup_cons, List.mem_cons]
    by_cases hname : name = entry.1
    · have hnot : (name, value) ∉ rest := fun hmem => hhead (hname ▸ List.mem_map_of_mem hmem)
      rw [if_pos hname, or_iff_left hnot, Option.some.injEq, Prod.ext_iff]
      exact ⟨fun hvalue => ⟨hname, hvalue.symm⟩, fun heq => heq.2.symm⟩
    · have hne : (name, value) ≠ entry := fun heq => hname (congrArg Prod.fst heq)
      rw [if_neg hname, ih hrest, or_iff_right hne]

/-- Sorted lists of entries with the same look-ups are the same: their first names agree, since
neither can come before the other and be found in both. -/
theorem entries_ext {xs ys : List (String × α)} (hx : xs.Pairwise fun a b => a.1 < b.1)
    (hy : ys.Pairwise fun a b => a.1 < b.1) (h : ∀ name, xs.lookup name = ys.lookup name) :
    xs = ys := by
  induction xs generalizing ys with
  | nil =>
    cases ys with
    | nil => rfl
    | cons y ys => simpa [lookup_cons] using h y.1
  | cons x xs ih =>
    cases ys with
    | nil => simpa [lookup_cons] using h x.1
    | cons y ys =>
      obtain ⟨hxhead, hxs⟩ := List.pairwise_cons.1 hx
      obtain ⟨hyhead, hys⟩ := List.pairwise_cons.1 hy
      have hkeys : x.1 = y.1 := by
        rcases Std.lt_trichotomy x.1 y.1 with hlt | heq | hgt
        · have hnone : (y :: ys).lookup x.1 = none := lookup_eq_none_of_lt fun e he =>
            (List.mem_cons.1 he).elim (fun heq => heq ▸ hlt)
              fun he => String.lt_trans hlt (hyhead e he)
          simpa [hnone, lookup_cons] using h x.1
        · exact heq
        · have hnone : (x :: xs).lookup y.1 = none := lookup_eq_none_of_lt fun e he =>
            (List.mem_cons.1 he).elim (fun heq => heq ▸ hgt)
              fun he => String.lt_trans hgt (hxhead e he)
          simpa [hnone, lookup_cons] using (h y.1).symm
      have hvalues : x.2 = y.2 := by simpa [lookup_cons, hkeys] using h x.1
      have htails : xs = ys := ih hxs hys fun name => by
        by_cases hname : name = x.1
        · rw [hname, lookup_eq_none_of_lt hxhead, hkeys, lookup_eq_none_of_lt hyhead]
        · simpa [lookup_cons, hname, ← hkeys] using h name
      rw [htails, Prod.ext hkeys hvalues]

/-- Maps with the same look-ups are the same. -/
theorem ext_get? {d e : Dict α} (h : ∀ name, d.get? name = e.get? name) : d = e := by
  obtain ⟨xs, hx⟩ := d
  obtain ⟨ys, hy⟩ := e
  obtain rfl : xs = ys := entries_ext hx hy h
  rfl

/-- The order in which the entries of a map are put in does not show. -/
theorem ofList_eq_of_perm {entries : List (String × α)} {d : Dict α} (h : entries.Perm d.entries) :
    ofList entries = d := by
  have hnodup : (entries.map Prod.fst).Nodup := (h.map Prod.fst).nodup_iff.2 d.nodup_keys
  refine ext_get? fun name => ?_
  have hall : (ofList entries).get? name = entries.lookup name :=
    (get?_insertAll empty hnodup name).trans Option.or_none
  rw [hall]
  refine Option.ext fun value => ?_
  exact (lookup_eq_some_iff_mem hnodup).trans
    (h.mem_iff.trans (lookup_eq_some_iff_mem d.nodup_keys).symm)

/-- An entry that is there already changes nothing. -/
theorem insert_get? {d : Dict α} {key : String} {value : α} (h : d.get? key = some value) :
    d.insert key value = d := by
  refine ext_get? fun name => ?_
  rw [get?_insert]
  split
  · next heq => rw [heq, h]
  · rfl

/-- Of two entries of a name the last one counts. -/
theorem insert_insert (d : Dict α) (key : String) (value value' : α) :
    (d.insert key value).insert key value' = d.insert key value' := by
  refine ext_get? fun name => ?_
  rw [get?_insert, get?_insert, get?_insert]
  split <;> rfl

/-- A new entry that is erased again leaves the map as it was. -/
theorem erase_insert {d : Dict α} {key : String} (h : d.get? key = none) (value : α) :
    (d.insert key value).erase key = d := by
  refine ext_get? fun name => ?_
  rw [get?_erase, get?_insert]
  split
  · next heq => rw [heq, h]
  · rfl

end VolumeLifecycle.Dict
