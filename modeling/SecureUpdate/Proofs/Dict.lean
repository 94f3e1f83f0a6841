import SecureUpdate.Dict

/-!
Look-ups in maps. A look-up finds a value only if the entry is there (`mem_of_get?`), and
the map of a list holds the keys that occur in the list (`contains_ofList`). Maps with the same
entries are equal (`entries_eq_of_mem_iff`), and the map of a list without repeated keys has the
entries of the list (`mem_ofList_iff`).
-/

namespace SecureUpdate.SortedMap

variable {κ α β : Type}

section Entries

variable [DecidableEq κ]

theorem mem_of_findEntry {k : κ} {v : α} {es : List (κ × α)} (h : findEntry k es = some v) :
    (k, v) ∈ es := by
  induction es with
  | nil => cases h
  | cons e es ih =>
    rw [findEntry] at h
    split at h
    · rename_i hk
      cases h
      rw [← hk]
      exact List.mem_cons_self
    · exact List.mem_cons_of_mem _ (ih h)

@[simp] theorem findEntry_nil (k : κ) : findEntry k ([] : List (κ × α)) = none := rfl

@[simp] theorem findEntry_cons_self (k : κ) (v : α) (es : List (κ × α)) :
    findEntry k ((k, v) :: es) = some v :=
  if_pos rfl

@[simp] theorem findEntry_cons_of_ne {j k : κ} (h : j ≠ k) (v : α) (es : List (κ × α)) :
    findEntry k ((j, v) :: es) = findEntry k es :=
  if_neg h

theorem findEntry_append (k : κ) (es es' : List (κ × α)) :
    findEntry k (es ++ es') = (findEntry k es).or (findEntry k es') := by
  induction es with
  | nil => rfl
  | cons e es ih =>
    rw [List.cons_append, findEntry, findEntry]
    by_cases h : e.1 = k
    · rw [if_pos h, if_pos h]
      rfl
    · rw [if_neg h, if_neg h, ih]

theorem findEntry_map (f : κ → α → β) (k : κ) (es : List (κ × α)) :
    findEntry k (es.map fun e => (e.1, f e.1 e.2)) = (findEntry k es).map (f k) := by
  induction es with
  | nil => rfl
  | cons e es ih =>
    rw [List.map_cons, findEntry, findEntry]
    by_cases h : e.1 = k
    · rw [if_pos h, if_pos h, h]
      rfl
    · rw [if_neg h, if_neg h]
      exact ih

end Entries

variable [LT κ] [DecidableEq κ]

theorem get?_mapEntries (f : κ → α → β) (m : SortedMap κ α) (k : κ) :
    (m.mapEntries f).get? k = (m.get? k).map (f k) :=
  findEntry_map f k m.entries

theorem mem_of_get? {m : SortedMap κ α} {k : κ} {v : α} (h : m.get? k = some v) :
    (k, v) ∈ m.entries :=
  mem_of_findEntry h

variable [DecidableLT κ] [KeyOrder κ]

/-- Storing pairs in turn adds their keys to those that were there. -/
theorem contains_foldl_insert (es : List (κ × α)) (m : SortedMap κ α) (k : κ) :
    (es.foldl (fun m e => m.insert e.1 e.2) m).contains k = true ↔
      m.contains k = true ∨ k ∈ es.map (·.1) := by
  induction es generalizing m with
  | nil => simp
  | cons e es ih =>
    rw [List.foldl_cons, ih, contains, get?_insert, List.map_cons, List.mem_cons]
    by_cases h : e.1 = k
    · simp [h]
    · simp [h, Ne.symm h, contains]

/-- The map of a list holds the keys that occur in the list. -/
theorem contains_ofList (es : List (κ × α)) (k : κ) :
    (ofList es).contains k = true ↔ k ∈ es.map (·.1) := by
  rw [ofList, contains_foldl_insert]
  simp [contains]

/-- The last of the pairs under a key is found in the map of a list. -/
theorem get?_ofList (es : List (κ × α)) (k : κ) :
    (ofList es).get? k = findEntry k es.reverse := by
  have hfold (m : SortedMap κ α) : (es.foldl (fun m e => m.insert e.1 e.2) m).get? k =
      (findEntry k es.reverse).or (m.get? k) := by
    induction es generalizing m with
    | nil => rfl
    | cons e es ih =>
      rw [List.foldl_cons, ih, get?_insert, List.reverse_cons, findEntry_append, Option.or_assoc,
        findEntry, findEntry]
      split <;> rfl
  rw [ofList, hfold, get?_empty, Option.or_none]

/-! ### The entries of a list of pairs -/

omit [DecidableEq κ] in
/-- Storing pairs in turn adds no entries but those pairs. -/
theorem mem_of_mem_foldl_insert {es : List (κ × α)} {m : SortedMap κ α} {e : κ × α}
    (h : e ∈ (es.foldl (fun m e => m.insert e.1 e.2) m).entries) : e ∈ es ∨ e ∈ m.entries := by
  induction es generalizing m with
  | nil => exact .inr h
  | cons d es ih =>
    rw [List.foldl_cons] at h
    rcases ih h with hes | hm
    · exact .inl (List.mem_cons_of_mem _ hes)
    · rcases mem_insertEntry hm with rfl | hm
      · exact .inl List.mem_cons_self
      · exact .inr hm

omit [DecidableEq κ] in
theorem mem_of_mem_ofList {es : List (κ × α)} {e : κ × α} (h : e ∈ (ofList es).entries) :
    e ∈ es :=
  (mem_of_mem_foldl_insert h).resolve_right (by simp [empty])

/-- Storing pairs under other keys leaves a key alone. -/
theorem get?_foldl_insert_of_notMem {es : List (κ × α)} {k : κ} (h : k ∉ es.map (·.1))
    (m : SortedMap κ α) : (es.foldl (fun m e => m.insert e.1 e.2) m).get? k = m.get? k := by
  induction es generalizing m with
  | nil => rfl
  | cons e es ih =>
    rw [List.map_cons, List.mem_cons, not_or] at h
    rw [List.foldl_cons, ih h.2, get?_insert, if_neg (Ne.symm h.1)]

theorem get?_foldl_insert_of_mem {es : List (κ × α)} (h : (es.map (·.1)).Nodup) {e : κ × α}
    (he : e ∈ es) (m : SortedMap κ α) :
    (es.foldl (fun m e => m.insert e.1 e.2) m).get? e.1 = some e.2 := by
  induction es generalizing m with
  | nil => cases he
  | cons d es ih =>
    rw [List.map_cons, List.nodup_cons] at h
    rw [List.foldl_cons]
    rcases List.mem_cons.1 he with rfl | he
    · rw [get?_foldl_insert_of_notMem h.1, get?_insert, if_pos rfl]
    · exact ih h.2 he _

/-- The map of a list without repeated keys has the entries of the list. -/
theorem mem_ofList_iff {es : List (κ × α)} (h : (es.map (·.1)).Nodup) {e : κ × α} :
    e ∈ (ofList es).entries ↔ e ∈ es :=
  ⟨mem_of_mem_ofList, fun he => mem_of_get? (get?_foldl_insert_of_mem h he empty)⟩

end SecureUpdate.SortedMap

namespace SecureUpdate.SortedMap

variable {κ α : Type} [LT κ] [KeyOrder κ]

theorem nodup_keys_of_sorted {es : List (κ × α)} (h : es.Pairwise fun a b => a.1 < b.1) :
    (es.map (·.1)).Nodup := by
  refine List.pairwise_map.2 (h.imp ?_)
  intro a b hlt heq
  rw [heq] at hlt
  exact KeyOrder.irrefl b.1 hlt

omit [LT κ] [KeyOrder κ] in
theorem nodup_of_nodup_keys {es : List (κ × α)} (h : (es.map (·.1)).Nodup) : es.Nodup := by
  refine List.Pairwise.of_map (·.1) ?_ h
  rintro a _ hne rfl
  exact hne rfl

theorem nodup_of_sorted {es : List (κ × α)} (h : es.Pairwise fun a b => a.1 < b.1) :
    es.Nodup :=
  nodup_of_nodup_keys (nodup_keys_of_sorted h)

/-- Entries in key order are determined by which pairs occur among them. -/
theorem entries_eq_of_mem_iff {es es' : List (κ × α)} (h : es.Pairwise fun a b => a.1 < b.1)
    (h' : es'.Pairwise fun a b => a.1 < b.1) (hmem : ∀ e, e ∈ es ↔ e ∈ es') : es = es' := by
  refine List.Perm.eq_of_pairwise ?_ h h'
    ((List.perm_ext_iff_of_nodup (nodup_of_sorted h) (nodup_of_sorted h')).2 hmem)
  intro a b _ _ hab hba
  exact absurd (KeyOrder.trans hab hba) (KeyOrder.irrefl a.1)

variable [DecidableEq κ] [DecidableLT κ]

/-- Putting pairs in order without repeated keys loses none. -/
theorem perm_ofList {es : List (κ × α)} (h : (es.map (·.1)).Nodup) :
    (ofList es).entries.Perm es :=
  (List.perm_ext_iff_of_nodup (nodup_of_sorted (ofList es).sorted) (nodup_of_nodup_keys h)).2
    fun _ => mem_ofList_iff h

/-- Entries that are put back in order. -/
theorem entries_ofList_of_perm {es es' : List (κ × α)} (h : es.Perm es')
    (hsorted : es'.Pairwise fun a b => a.1 < b.1) : (ofList es).entries = es' := by
  have hnodup : (es.map (·.1)).Nodup :=
    (h.map _).nodup_iff.2 (nodup_keys_of_sorted hsorted)
  exact entries_eq_of_mem_iff (ofList es).sorted hsorted fun _ =>
    (mem_ofList_iff hnodup).trans h.mem_iff

/-- The map of its entries is the map itself. -/
theorem ofList_entries (m : SortedMap κ α) : ofList m.entries = m := by
  obtain ⟨es, hsorted⟩ := m
  have hentries := entries_ofList_of_perm (List.Perm.refl es) hsorted
  generalize ofList es = m at hentries
  cases m
  cases hentries
  rfl

end SecureUpdate.SortedMap
