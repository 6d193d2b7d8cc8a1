import HttpCall.Proofs.Header.Values
import Mathlib

/-!
# One entry per name class

A header map built by any run of its operations keeps one entry per name class (the names
that fold to one text under ASCII case folding) and a value in every entry. Lookup by the
first matching entry then sees all of a class's values, so the map's size is the number of
classes among its pairs, a name is found exactly when it has a value, the pairs are as
many as the values of all names, and collecting the pairs builds the same map again,
spellings and order included.

Append and insert differ only in what they do to the values of the entry they find, so both
are `updateFirst` of their own function, and each fact about them is proved once, of
`updateFirst`.
-/

namespace HttpCall.HeaderMap

/-- The class of a name: its characters with the ASCII capitals made small. -/
def foldKey (s : String) : List Char := s.toList.map Ascii.lower

/-- The classes of the entries' names, in order. -/
def keys (es : List (String × List String)) : List (List Char) :=
  es.map (foldKey ·.1)

theorem nameMatches_eq (name : String) (e : String × List String) :
    nameMatches name e = (foldKey e.1 == foldKey name) := rfl

@[simp] theorem nameMatches_iff {name : String} {e : String × List String} :
    nameMatches name e = true ↔ foldKey e.1 = foldKey name := by
  simp [nameMatches_eq]

theorem nameMatches_eq_false {name : String} {e : String × List String}
    (h : foldKey e.1 ≠ foldKey name) : nameMatches name e = false := by
  simpa [nameMatches_eq] using h

theorem eqFold_eq_false_iff {a b : String} : Ascii.eqFold a b = false ↔ foldKey a ≠ foldKey b := by
  rw [← Bool.not_eq_true, Ascii.eqFold_iff]
  rfl

theorem keys_cons (e : String × List String) (es : List (String × List String)) :
    keys (e :: es) = foldKey e.1 :: keys es := rfl

theorem mem_keys {k : List Char} {es : List (String × List String)} :
    k ∈ keys es ↔ ∃ e ∈ es, foldKey e.1 = k := by
  simp [keys]

/-- A name's class is among the entries' exactly when an entry matches the name. -/
theorem any_nameMatches_iff {name : String} {es : List (String × List String)} :
    es.any (nameMatches name) = true ↔ foldKey name ∈ keys es := by
  rw [List.any_eq_true, mem_keys]
  simp only [nameMatches_iff]

/-- The values of the first entry of a class, or none. -/
def classValues (es : List (String × List String)) (k : List Char) : List String :=
  match es.find? (fun e => foldKey e.1 == k) with
  | some e => e.2
  | none => []

theorem getAll_eq_classValues (h : HeaderMap) (name : String) :
    h.getAll name = classValues h.entries (foldKey name) := rfl

theorem classValues_cons (e : String × List String) (es : List (String × List String))
    (k : List Char) :
    classValues (e :: es) k = if foldKey e.1 = k then e.2 else classValues es k := by
  by_cases hk : foldKey e.1 = k <;> simp [classValues, hk]

theorem classValues_of_not_mem {es : List (String × List String)} {k : List Char}
    (hk : k ∉ keys es) : classValues es k = [] := by
  induction es with
  | nil => rfl
  | cons e rest ih =>
    rw [keys_cons, List.mem_cons, not_or] at hk
    rw [classValues_cons, if_neg (Ne.symm hk.1), ih hk.2]

/-! ## Updating the first entry of a class -/

/-- Entries with the values of the first entry of `name`'s class changed by `f`, or with
the entry `(name, fresh)` added at the end when no entry has that class. -/
def updateFirst (name : String) (f : List String → List String) (fresh : List String) :
    List (String × List String) → List (String × List String)
  | [] => [(name, fresh)]
  | e :: rest =>
    if nameMatches name e then (e.1, f e.2) :: rest else e :: updateFirst name f fresh rest

theorem appendTo_eq_updateFirst (name value : String) (es : List (String × List String)) :
    appendTo name value es = updateFirst name (· ++ [value]) [value] es := by
  induction es with
  | nil => rfl
  | cons e rest ih => simp only [appendTo, updateFirst, ih]

theorem insertInto_eq_updateFirst (name value : String) (es : List (String × List String)) :
    insertInto name value es = updateFirst name (fun _ => [value]) [value] es := by
  induction es with
  | nil => rfl
  | cons e rest ih => simp only [insertInto, updateFirst, ih]

section UpdateFirst

variable {name : String} {f : List String → List String} {fresh : List String}

/-- The names stay, and the name joins at the end when its class is new. -/
theorem updateFirst_names (es : List (String × List String)) :
    (updateFirst name f fresh es).map (·.1) =
      if foldKey name ∈ keys es then es.map (·.1) else es.map (·.1) ++ [name] := by
  induction es with
  | nil => simp [updateFirst, keys]
  | cons e rest ih =>
    by_cases hm : foldKey e.1 = foldKey name
    · have hin : foldKey name ∈ keys (e :: rest) := by simp [keys_cons, hm]
      simp [updateFirst, hm, hin]
    · have hm' : nameMatches name e = false := nameMatches_eq_false hm
      simp only [updateFirst, hm', Bool.false_eq_true, if_false, List.map_cons, ih,
        keys_cons, List.mem_cons, Ne.symm hm, false_or]
      split <;> rfl

theorem updateFirst_keys (es : List (String × List String)) :
    keys (updateFirst name f fresh es) =
      if foldKey name ∈ keys es then keys es else keys es ++ [foldKey name] := by
  have hkeys : ∀ xs : List (String × List String), keys xs = (xs.map (·.1)).map foldKey := by
    intro xs
    simp [keys, List.map_map, Function.comp_def]
  rw [hkeys, updateFirst_names, hkeys]
  split <;> simp

theorem updateFirst_keys_nodup {es : List (String × List String)} (hnd : (keys es).Nodup) :
    (keys (updateFirst name f fresh es)).Nodup := by
  rw [updateFirst_keys]
  split
  · exact hnd
  · next hnew =>
    refine List.nodup_append.2 ⟨hnd, List.nodup_singleton _, ?_⟩
    intro a ha b hb
    rw [List.mem_singleton] at hb
    exact fun hab => hnew (hb ▸ hab ▸ ha)

/-- The class of the name sees its found values changed by `f`, or `fresh` when it was
new. -/
theorem classValues_updateFirst_self (es : List (String × List String)) :
    classValues (updateFirst name f fresh es) (foldKey name) =
      if foldKey name ∈ keys es then f (classValues es (foldKey name)) else fresh := by
  induction es with
  | nil => simp [updateFirst, classValues, keys]
  | cons e rest ih =>
    by_cases hm : foldKey e.1 = foldKey name
    · have hin : foldKey name ∈ keys (e :: rest) := by simp [keys_cons, hm]
      simp [updateFirst, hm, hin, classValues_cons]
    · have hm' : nameMatches name e = false := nameMatches_eq_false hm
      simp only [updateFirst, hm', Bool.false_eq_true, if_false, classValues_cons, hm, ih,
        keys_cons, List.mem_cons, Ne.symm hm, false_or]

/-- Every other class keeps its values. -/
theorem classValues_updateFirst_of_ne {k : List Char} (hk : k ≠ foldKey name)
    (es : List (String × List String)) :
    classValues (updateFirst name f fresh es) k = classValues es k := by
  induction es with
  | nil =>
    have hne : foldKey name ≠ k := Ne.symm hk
    simp [updateFirst, classValues, hne]
  | cons e rest ih =>
    by_cases hm : foldKey e.1 = foldKey name
    · have hm' : nameMatches name e = true := by simpa using hm
      have hek : foldKey e.1 ≠ k := hm ▸ Ne.symm hk
      simp only [updateFirst, hm', if_true, classValues_cons, hek, if_false]
    · have hm' : nameMatches name e = false := nameMatches_eq_false hm
      simp only [updateFirst, hm', Bool.false_eq_true, if_false, classValues_cons, ih]

/-- Entries that no entry before them matches are passed over. -/
theorem updateFirst_append_of_unmatched {es : List (String × List String)}
    (hes : ∀ e ∈ es, foldKey e.1 ≠ foldKey name) (rest : List (String × List String)) :
    updateFirst name f fresh (es ++ rest) = es ++ updateFirst name f fresh rest := by
  induction es with
  | nil => rfl
  | cons e es ih =>
    rw [List.forall_mem_cons] at hes
    have hm : nameMatches name e = false := nameMatches_eq_false hes.1
    simp only [List.cons_append, updateFirst, hm, Bool.false_eq_true, if_false, ih hes.2]

end UpdateFirst

/-! ## Removing a class -/

section Remove

variable {name : String}

/-- Removing keeps the other entries in order. -/
theorem removeFrom_sublist (es : List (String × List String)) :
    (removeFrom name es).2.Sublist es := by
  induction es with
  | nil => exact List.Sublist.slnil
  | cons e rest ih =>
    unfold removeFrom
    split
    · exact List.sublist_cons_self e rest
    · exact ih.cons_cons e

/-- Removing returns the values of the name's class. -/
theorem removeFrom_fst (es : List (String × List String)) :
    (removeFrom name es).1 = classValues es (foldKey name) := by
  induction es with
  | nil => rfl
  | cons e rest ih =>
    unfold removeFrom
    by_cases hm : foldKey e.1 = foldKey name
    · have hm' : nameMatches name e = true := by simpa using hm
      simp [hm', classValues_cons, hm]
    · have hm' : nameMatches name e = false := nameMatches_eq_false hm
      simp only [hm', Bool.false_eq_true, if_false, ih, classValues_cons, hm]

/-- When classes do not repeat, removing takes out every entry of the name's class. -/
theorem removeFrom_snd {es : List (String × List String)} (hnd : (keys es).Nodup) :
    (removeFrom name es).2 = es.filter fun e => foldKey e.1 ≠ foldKey name := by
  induction es with
  | nil => rfl
  | cons e rest ih =>
    rw [keys_cons, List.nodup_cons] at hnd
    unfold removeFrom
    by_cases hm : foldKey e.1 = foldKey name
    · have hm' : nameMatches name e = true := by simpa using hm
      have hrest : ∀ x ∈ rest, decide (foldKey x.1 ≠ foldKey name) = true := by
        intro x hx
        have hx' : foldKey x.1 ∈ keys rest := mem_keys.2 ⟨x, hx, rfl⟩
        simp only [decide_eq_true_eq]
        intro heq
        exact hnd.1 (hm ▸ heq ▸ hx')
      have hdrop : decide (foldKey e.1 ≠ foldKey name) = false := by simpa using hm
      simp only [hm', if_true]
      rw [List.filter_cons_of_neg (by simp [hdrop]), List.filter_eq_self.2 hrest]
    · have hm' : nameMatches name e = false := nameMatches_eq_false hm
      simp [hm', hm, ih hnd.2]

end Remove

/-! ## The invariant -/

/-- A well-formed map: no two entries' names fold to one class, and every entry holds a
value. -/
structure WellFormed (h : HeaderMap) : Prop where
  distinct : (keys h.entries).Nodup
  values : h.HasValues

section WellFormed

variable {h : HeaderMap} {name value : String}

theorem wellFormed_empty : empty.WellFormed :=
  ⟨List.nodup_nil, hasValues_empty⟩

theorem WellFormed.append (hw : h.WellFormed) : (h.append name value).WellFormed := by
  refine ⟨?_, hw.values.append⟩
  show (keys (appendTo name value h.entries)).Nodup
  rw [appendTo_eq_updateFirst]
  exact updateFirst_keys_nodup hw.distinct

theorem WellFormed.insert (hw : h.WellFormed) : (h.insert name value).WellFormed := by
  refine ⟨?_, hw.values.insert⟩
  show (keys (insertInto name value h.entries)).Nodup
  rw [insertInto_eq_updateFirst]
  exact updateFirst_keys_nodup hw.distinct

theorem WellFormed.remove (hw : h.WellFormed) : (h.remove name).2.WellFormed :=
  ⟨hw.distinct.sublist ((removeFrom_sublist h.entries).map _), hw.values.remove⟩

theorem WellFormed.extend (hw : h.WellFormed) (ps : List (String × String)) :
    (h.extend ps).WellFormed := by
  induction ps generalizing h with
  | nil => exact hw
  | cons p ps ih => exact ih hw.append

theorem wellFormed_ofPairs (ps : List (String × String)) : (ofPairs ps).WellFormed :=
  wellFormed_empty.extend ps

/-- When classes do not repeat, an entry is the first of its class. -/
theorem find?_of_mem_of_nodup {es : List (String × List String)} (hnd : (keys es).Nodup)
    {e : String × List String} (he : e ∈ es) : es.find? (nameMatches e.1) = some e := by
  induction es with
  | nil => simp at he
  | cons x rest ih =>
    rw [keys_cons, List.nodup_cons] at hnd
    rcases List.mem_cons.1 he with rfl | hrest
    · simp
    · have hne : foldKey x.1 ≠ foldKey e.1 := fun heq =>
        hnd.1 (heq ▸ mem_keys.2 ⟨e, hrest, rfl⟩)
      rw [List.find?_cons, nameMatches_eq_false hne]
      exact ih hnd.2 hrest

/-- In a well-formed map an entry is the first of its class. -/
theorem WellFormed.find?_of_mem (hw : h.WellFormed) {e : String × List String}
    (he : e ∈ h.entries) : h.entries.find? (nameMatches e.1) = some e :=
  find?_of_mem_of_nodup hw.distinct he

/-- In a well-formed map an entry holds all values of its name. -/
theorem WellFormed.getAll_of_mem (hw : h.WellFormed) {e : String × List String}
    (he : e ∈ h.entries) : h.getAll e.1 = e.2 := by
  simp [getAll, hw.find?_of_mem he]

/-- The pairs of a well-formed map are its names, each with all its values. -/
theorem WellFormed.pairs_eq (hw : h.WellFormed) :
    h.pairs = h.names.flatMap fun s => (h.getAll s).map (s, ·) := by
  rw [pairs, names, List.flatMap_map]
  apply List.flatMap_congr
  intro e he
  rw [hw.getAll_of_mem he]

/-- A well-formed map has as many pairs as its names have values. -/
theorem WellFormed.length_pairs (hw : h.WellFormed) :
    h.pairs.length = (h.names.map fun s => (h.getAll s).length).sum := by
  rw [hw.pairs_eq, List.length_flatMap]
  simp

/-- A map whose entries hold values has as its pairs' classes the entries' classes. -/
theorem HasValues.mem_pairs_keys (hv : h.HasValues) {k : List Char} :
    k ∈ h.pairs.map (foldKey ·.1) ↔ k ∈ keys h.entries := by
  simp only [pairs, List.mem_map, List.mem_flatMap, mem_keys]
  constructor
  · rintro ⟨p, ⟨e, he, v, -, rfl⟩, rfl⟩
    exact ⟨e, he, rfl⟩
  · rintro ⟨e, he, rfl⟩
    obtain ⟨v, vs, hvs⟩ := List.exists_cons_of_ne_nil (hv e he)
    exact ⟨(e.1, v), ⟨e, he, v, by simp [hvs], rfl⟩, rfl⟩

/-- The size of a well-formed map is the number of classes among its pairs. -/
theorem WellFormed.size_eq_card (hw : h.WellFormed) :
    h.size = (h.pairs.map (foldKey ·.1)).toFinset.card := by
  have hsame : (h.pairs.map (foldKey ·.1)).toFinset = (keys h.entries).toFinset := by
    ext k
    simp only [List.mem_toFinset]
    exact hw.values.mem_pairs_keys
  rw [hsame, List.toFinset_card_of_nodup hw.distinct, size, keys, List.length_map]

/-- On a map whose entries hold values, a name has values exactly when the map has it. -/
theorem HasValues.getAll_ne_nil_iff (hv : h.HasValues) :
    h.getAll name ≠ [] ↔ h.contains name = true := by
  rw [← hv.get?_isSome, get?]
  cases h.getAll name <;> simp

/-! ## Collecting the pairs again -/

theorem extend_cons (h : HeaderMap) (p : String × String) (ps : List (String × String)) :
    h.extend (p :: ps) = (h.append p.1 p.2).extend ps := rfl

theorem extend_append (h : HeaderMap) (ps qs : List (String × String)) :
    h.extend (ps ++ qs) = (h.extend ps).extend qs :=
  List.foldl_append

/-- Appending past entries of other classes changes only the entries after them. -/
theorem append_of_unmatched {es : List (String × List String)}
    (hes : ∀ e ∈ es, foldKey e.1 ≠ foldKey name) (tail : List (String × List String))
    (value : String) :
    (⟨es ++ tail⟩ : HeaderMap).append name value =
      ⟨es ++ updateFirst name (· ++ [value]) [value] tail⟩ := by
  simp [HeaderMap.append, appendTo_eq_updateFirst, updateFirst_append_of_unmatched hes]

/-- Values appended under a name whose class only the last entry has join that entry. -/
theorem extend_last_entry {es : List (String × List String)}
    (hes : ∀ e ∈ es, foldKey e.1 ≠ foldKey name) (vs ws : List String) :
    (⟨es ++ [(name, vs)]⟩ : HeaderMap).extend (ws.map (name, ·)) =
      ⟨es ++ [(name, vs ++ ws)]⟩ := by
  induction ws generalizing vs with
  | nil => simp [extend]
  | cons w ws ih =>
    have hstep : (⟨es ++ [(name, vs)]⟩ : HeaderMap).append name w =
        ⟨es ++ [(name, vs ++ [w])]⟩ := by
      simp [append_of_unmatched hes, updateFirst]
    simp only [List.map_cons, extend, List.foldl_cons] at ih ⊢
    rw [hstep, ih]
    simp

/-- Collecting the pairs of entries whose classes are new and distinct adds those
entries. -/
theorem extend_pairs_of_entries {acc es : List (String × List String)}
    (hnd : (keys (acc ++ es)).Nodup) (hv : ∀ e ∈ es, e.2 ≠ []) :
    (⟨acc⟩ : HeaderMap).extend (es.flatMap fun e => e.2.map (e.1, ·)) = ⟨acc ++ es⟩ := by
  induction es generalizing acc with
  | nil => simp [extend]
  | cons e es ih =>
    obtain ⟨n, vs⟩ := e
    rw [List.forall_mem_cons] at hv
    obtain ⟨v, ws, rfl⟩ := List.exists_cons_of_ne_nil hv.1
    have hacc : ∀ x ∈ acc, foldKey x.1 ≠ foldKey n := by
      intro x hx heq
      have hsplit : keys (acc ++ (n, v :: ws) :: es) =
          keys acc ++ foldKey n :: keys es := by simp [keys]
      rw [hsplit, List.nodup_append] at hnd
      exact hnd.2.2 _ (mem_keys.2 ⟨x, hx, rfl⟩) _ List.mem_cons_self heq
    have hfirst : (⟨acc⟩ : HeaderMap).append n v = ⟨acc ++ [(n, [v])]⟩ := by
      simpa [updateFirst] using append_of_unmatched hacc [] v
    have hgroup : (⟨acc⟩ : HeaderMap).extend ((n, v) :: ws.map (n, ·)) =
        ⟨acc ++ [(n, v :: ws)]⟩ := by
      rw [extend_cons, hfirst]
      exact extend_last_entry hacc [v] ws
    have htail := @ih (acc ++ [(n, v :: ws)]) (by simpa using hnd) hv.2
    have hsplit : ((n, v :: ws) :: es).flatMap (fun e => e.2.map (e.1, ·)) =
        ((n, v) :: ws.map (n, ·)) ++ es.flatMap (fun e => e.2.map (e.1, ·)) := rfl
    rw [hsplit, extend_append, hgroup, htail]
    simp

/-- Collecting the pairs of a well-formed map builds the map again. -/
theorem WellFormed.ofPairs_pairs (hw : h.WellFormed) : ofPairs h.pairs = h := by
  have h' : (⟨[]⟩ : HeaderMap).extend (h.entries.flatMap fun e => e.2.map (e.1, ·)) =
      ⟨[] ++ h.entries⟩ := extend_pairs_of_entries (by simpa using hw.distinct) hw.values
  simpa [ofPairs, empty, pairs] using h'

end WellFormed

/-! ## Runs of operations -/

/-- An operation on a header map. Collecting replaces the map by the one built from pairs;
a clone is the map itself, so cloning is no operation here. -/
inductive Op where
  | append (name value : String)
  | insert (name value : String)
  | remove (name : String)
  | extend (pairs : List (String × String))
  | collect (pairs : List (String × String))
  deriving DecidableEq, Repr

/-- The map after one operation. -/
def Op.apply : Op → HeaderMap → HeaderMap
  | .append name value, h => h.append name value
  | .insert name value, h => h.insert name value
  | .remove name, h => (h.remove name).2
  | .extend ps, h => h.extend ps
  | .collect ps, _ => ofPairs ps

/-- The map after operations made in order on the empty map. -/
def run (ops : List Op) : HeaderMap :=
  ops.foldl (fun h op => op.apply h) empty

/-- Every operation keeps a map well formed. -/
theorem WellFormed.apply {h : HeaderMap} (hw : h.WellFormed) : ∀ op : Op, (op.apply h).WellFormed
  | .append _ _ => hw.append
  | .insert _ _ => hw.insert
  | .remove _ => hw.remove
  | .extend ps => hw.extend ps
  | .collect ps => wellFormed_ofPairs ps

theorem WellFormed.foldl_apply {h : HeaderMap} (hw : h.WellFormed) (ops : List Op) :
    (ops.foldl (fun h op => op.apply h) h).WellFormed := by
  induction ops generalizing h with
  | nil => exact hw
  | cons op ops ih => exact ih (hw.apply op)

/-- Every map a run reaches is well formed. -/
theorem wellFormed_run (ops : List Op) : (run ops).WellFormed :=
  wellFormed_empty.foldl_apply ops

/-- **One entry per name class.** On every map reached from the empty map by appending,
inserting, removing, extending and collecting: no two entries' names are equal up to ASCII
case and every entry holds a value; the size is the number of name classes among the
pairs; a name is contained exactly when it has a first value, exactly when it has values;
the pairs are as many as the values of all names; and collecting the pairs builds the
same map. -/
theorem run_keeps_one_entry_per_class (ops : List Op) :
    (run ops).entries.Pairwise (fun a b => Ascii.eqFold a.1 b.1 = false) ∧
      (∀ e ∈ (run ops).entries, e.2 ≠ []) ∧
      (run ops).size = ((run ops).pairs.map (foldKey ·.1)).toFinset.card ∧
      (∀ name, ((run ops).contains name = true ↔ ((run ops).get? name).isSome) ∧
        (((run ops).get? name).isSome ↔ (run ops).getAll name ≠ [])) ∧
      (run ops).pairs.length = ((run ops).names.map fun s => ((run ops).getAll s).length).sum ∧
      ofPairs (run ops).pairs = run ops := by
  have hw := wellFormed_run ops
  have hpair : (run ops).entries.Pairwise (fun a b => Ascii.eqFold a.1 b.1 = false) := by
    have h := hw.distinct
    rw [keys, List.nodup_iff_pairwise_ne, List.pairwise_map] at h
    exact h.imp fun hne => eqFold_eq_false_iff.2 hne
  refine ⟨hpair, hw.values, hw.size_eq_card, fun name => ⟨?_, ?_⟩, hw.length_pairs,
    hw.ofPairs_pairs⟩
  · rw [hw.values.get?_isSome]
  · rw [hw.values.get?_isSome, hw.values.getAll_ne_nil_iff]

end HttpCall.HeaderMap
