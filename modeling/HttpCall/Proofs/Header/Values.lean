import HttpCall.Header.Map

/-!
# Header entries hold values

Every entry a header map gets holds at least one value: a new entry starts with the value
that made it, an existing one only gains values or has them replaced by one, and removing
takes a whole entry. On such a map a name has a first value exactly when the map has the
name, and a name the map lacks names none of its pairs.
-/

namespace HttpCall.HeaderMap

/-- Is the pair's name `name`, with ASCII case folded? -/
def isNamed (name : String) (pair : String × String) : Bool :=
  Ascii.eqFold pair.1 name

@[simp] theorem isNamed_mk (name n v : String) : isNamed name (n, v) = Ascii.eqFold n name := rfl

/-- Two names that fold apart name no pair in common. -/
theorem isNamed_eq_false_of_isNamed {a b : String} {pair : String × String}
    (hab : Ascii.eqFold a b = false) (ha : isNamed a pair = true) : isNamed b pair = false := by
  rw [isNamed, Ascii.eqFold_iff] at ha
  rw [Bool.eq_false_iff]
  intro hb
  rw [isNamed, Ascii.eqFold_iff, ha, ← Ascii.eqFold_iff, hab] at hb
  exact Bool.false_ne_true hb

/-- Every entry of the map holds at least one value. -/
def HasValues (h : HeaderMap) : Prop :=
  ∀ e ∈ h.entries, e.2 ≠ []

section Operations

variable {es : List (String × List String)} {name value : String}

theorem appendTo_values (hv : ∀ e ∈ es, e.2 ≠ []) : ∀ e ∈ appendTo name value es, e.2 ≠ [] := by
  induction es with
  | nil => simp [appendTo]
  | cons e rest ih =>
    rw [List.forall_mem_cons] at hv
    unfold appendTo
    split
    · simpa using hv.2
    · exact List.forall_mem_cons.2 ⟨hv.1, ih hv.2⟩

theorem insertInto_values (hv : ∀ e ∈ es, e.2 ≠ []) :
    ∀ e ∈ insertInto name value es, e.2 ≠ [] := by
  induction es with
  | nil => simp [insertInto]
  | cons e rest ih =>
    rw [List.forall_mem_cons] at hv
    unfold insertInto
    split
    · simpa using hv.2
    · exact List.forall_mem_cons.2 ⟨hv.1, ih hv.2⟩

/-- Removing keeps a sublist of the entries. -/
theorem removeFrom_subset : ∀ e ∈ (removeFrom name es).2, e ∈ es := by
  induction es with
  | nil => simp [removeFrom]
  | cons e rest ih =>
    unfold removeFrom
    split
    · exact fun x hx => List.mem_cons_of_mem e hx
    · intro x hx
      rcases List.mem_cons.1 hx with rfl | hrest
      · exact List.mem_cons_self
      · exact List.mem_cons_of_mem e (ih x hrest)

end Operations

section Maps

variable {h : HeaderMap} {name value : String}

theorem hasValues_empty : empty.HasValues := by
  simp [HasValues, empty]

theorem HasValues.append (hv : h.HasValues) : (h.append name value).HasValues :=
  appendTo_values hv

theorem HasValues.insert (hv : h.HasValues) : (h.insert name value).HasValues :=
  insertInto_values hv

theorem HasValues.remove (hv : h.HasValues) : (h.remove name).2.HasValues :=
  fun e he => hv e (removeFrom_subset e he)

theorem HasValues.extend (hv : h.HasValues) (ps : List (String × String)) :
    (h.extend ps).HasValues := by
  induction ps generalizing h with
  | nil => exact hv
  | cons p ps ih => exact ih hv.append

theorem hasValues_ofPairs (ps : List (String × String)) : (ofPairs ps).HasValues :=
  hasValues_empty.extend ps

/-- On a map whose entries hold values, a name has a first value exactly when the map has
it. -/
theorem HasValues.get?_isSome (hv : h.HasValues) : (h.get? name).isSome = h.contains name := by
  cases hfind : h.entries.find? (nameMatches name) with
  | none =>
    have hno : h.contains name = false := by
      rw [contains, List.any_eq_false]
      exact List.find?_eq_none.1 hfind
    simp [get?, getAll, hfind, hno]
  | some e =>
    have hyes : h.contains name = true := by
      rw [contains, List.any_eq_true]
      exact ⟨e, List.mem_of_find?_eq_some hfind, List.find?_some hfind⟩
    have hne : e.2 ≠ [] := hv e (List.mem_of_find?_eq_some hfind)
    obtain ⟨v, vs, hvs⟩ := List.exists_cons_of_ne_nil hne
    simp [get?, getAll, hfind, hyes, hvs]

/-- A name the map lacks names none of its pairs. -/
theorem filter_pairs_isNamed_of_not_contains (hc : h.contains name = false) :
    h.pairs.filter (isNamed name) = [] := by
  rw [List.filter_eq_nil_iff]
  intro p hp
  simp only [pairs, List.mem_flatMap, List.mem_map] at hp
  obtain ⟨e, he, v, -, rfl⟩ := hp
  rw [contains, List.any_eq_false] at hc
  exact hc e he

end Maps

end HttpCall.HeaderMap
