import HttpCall.Proofs.Header.Classes
import Mathlib.Logic.Function.Basic

/-!
# Header maps refine a map of name classes

The abstract header map is a list of name classes, each spelled as the insertion that made
it, and the values of every class, looked up by its folded name. Appending adds a value at
the end of the class's values and inserting makes the value its only one; both put a new
class at the end and leave a known class where it is, spelled as it was. Removing drops the
class and gives its values back.

A header map stands for the abstract map of its names and of the values its lookup finds
(`toModel`). Appending, inserting and extending do to that abstract map what the abstract
operations do on any map; removing does so on a well-formed map, where no second entry of
the class is left behind. Lookups, removals, names and pairs of a well-formed map read off
its abstract map, so over every run the header map answers as the abstract map does.
Collecting pairs groups them by class: the classes in the order they first occur, each
spelled as its first pair, with all its values in order.
-/

namespace HttpCall.HeaderMap

/-- The abstract header map: the name classes in order, each spelled as the insertion that
made it, and the values of every class by its folded name. -/
structure Model where
  classes : List String
  values : List Char → List String

namespace Model

/-- The abstract map with no class. -/
def empty : Model := ⟨[], fun _ => []⟩

/-- The classes with a name put in: unchanged when its class is there, else with the name
at the end. -/
def enroll (M : Model) (name : String) : List String :=
  if foldKey name ∈ M.classes.map foldKey then M.classes else M.classes ++ [name]

/-- A value added at the end of the name's class. -/
def append (M : Model) (name value : String) : Model :=
  ⟨M.enroll name, Function.update M.values (foldKey name) (M.values (foldKey name) ++ [value])⟩

/-- The value made the only one of the name's class. -/
def insert (M : Model) (name value : String) : Model :=
  ⟨M.enroll name, Function.update M.values (foldKey name) [value]⟩

/-- The values of the name's class, and the map without the class. -/
def remove (M : Model) (name : String) : List String × Model :=
  (M.values (foldKey name),
    ⟨M.classes.filter (foldKey · ≠ foldKey name), Function.update M.values (foldKey name) []⟩)

/-- Pairs appended in order. -/
def extend (M : Model) (ps : List (String × String)) : Model :=
  ps.foldl (fun M p => M.append p.1 p.2) M

/-- Every value with its class's spelling, class by class. -/
def pairs (M : Model) : List (String × String) :=
  M.classes.flatMap fun s => (M.values (foldKey s)).map (s, ·)

/-- The abstract map after one operation. -/
def apply : Op → Model → Model
  | .append name value, M => M.append name value
  | .insert name value, M => M.insert name value
  | .remove name, M => (M.remove name).2
  | .extend ps, M => M.extend ps
  | .collect ps, _ => empty.extend ps

/-- The abstract map after operations made in order on the empty map. -/
def run (ops : List Op) : Model :=
  ops.foldl (fun M op => apply op M) empty

/-- Extending adds to each class the values of its pairs. -/
theorem extend_values (M : Model) (ps : List (String × String)) (k : List Char) :
    (M.extend ps).values k = M.values k ++ (ps.filter fun p => foldKey p.1 == k).map (·.2) := by
  induction ps generalizing M with
  | nil => simp [extend]
  | cons p ps ih =>
    rw [extend, List.foldl_cons, ← extend, ih]
    by_cases hk : foldKey p.1 = k
    · subst hk
      simp [append]
    · have hk' : k ≠ foldKey p.1 := Ne.symm hk
      simp [append, Function.update_of_ne hk', hk]

/-- Extending adds, in order, the first pair of every class that is new, spelled as that
pair. -/
theorem extend_classes (M : Model) (ps : List (String × String)) :
    (M.extend ps).classes = M.classes ++
      ((ps.filter fun p => foldKey p.1 ∉ M.classes.map foldKey).eraseDupsBy
        fun p q => foldKey p.1 == foldKey q.1).map (·.1) := by
  induction ps generalizing M with
  | nil => simp [extend]
  | cons p ps ih =>
    rw [extend, List.foldl_cons, ← extend, ih]
    by_cases hp : foldKey p.1 ∈ M.classes.map foldKey
    · have hcl : (M.append p.1 p.2).classes = M.classes := if_pos hp
      rw [hcl, List.filter_cons_of_neg (by simpa using hp)]
    · have hcl : (M.append p.1 p.2).classes = M.classes ++ [p.1] := if_neg hp
      -- the new class closes the filter to every later pair of its own class
      have hfilter : (ps.filter fun q => foldKey q.1 ∉ (M.classes ++ [p.1]).map foldKey) =
          ((ps.filter fun q => foldKey q.1 ∉ M.classes.map foldKey).filter
            fun q => (foldKey q.1 == foldKey p.1) = false) := by
        rw [List.filter_filter]
        apply List.filter_congr
        intro q _
        simp [and_comm]
      rw [hcl, hfilter, List.filter_cons_of_pos (by simpa using hp), List.eraseDupsBy_cons]
      simp

end Model

/-- Pairs grouped by class: the classes in the order they first occur, each spelled as its
first pair and followed by the values of all its pairs, in order. -/
def groupByClass (ps : List (String × String)) : List (String × String) :=
  (ps.eraseDupsBy fun p q => foldKey p.1 == foldKey q.1).flatMap fun first =>
    (ps.filter fun p => foldKey p.1 == foldKey first.1).map fun p => (first.1, p.2)

/-- Collecting pairs into the abstract map groups them by class. -/
theorem Model.empty_extend_pairs (ps : List (String × String)) :
    (Model.empty.extend ps).pairs = groupByClass ps := by
  have hcl : (Model.empty.extend ps).classes =
      (ps.eraseDupsBy fun p q => foldKey p.1 == foldKey q.1).map (·.1) := by
    simp [Model.extend_classes, Model.empty]
  rw [Model.pairs, hcl, List.flatMap_map, groupByClass]
  apply List.flatMap_congr
  intro first _
  simp [Model.extend_values, Model.empty, List.map_map, Function.comp_def]

/-! ## The abstract map of a header map -/

/-- The abstract map a header map stands for: its names, and the values lookup finds. -/
def toModel (h : HeaderMap) : Model :=
  ⟨h.names, classValues h.entries⟩

theorem toModel_empty : toModel empty = Model.empty := rfl

theorem keys_eq_map_names (h : HeaderMap) : keys h.entries = h.names.map foldKey := by
  simp [keys, names, Function.comp_def]

/-- Values kept by a filter that keeps every entry of a class are still the class's. -/
theorem classValues_filter {q : String × List String → Bool} {k : List Char}
    (hq : ∀ e : String × List String, foldKey e.1 = k → q e = true)
    (es : List (String × List String)) :
    classValues (es.filter q) k = classValues es k := by
  induction es with
  | nil => rfl
  | cons e rest ih =>
    by_cases hk : foldKey e.1 = k
    · simp [List.filter_cons_of_pos (hq e hk), classValues_cons, hk]
    · by_cases he : q e = true
      · simp [List.filter_cons_of_pos he, classValues_cons, hk, ih]
      · simp [List.filter_cons_of_neg he, classValues_cons, hk, ih]

/-- Dropping the entries of a class empties that class and keeps every other. -/
theorem classValues_filter_ne (es : List (String × List String)) (k : List Char) :
    classValues (es.filter fun e => foldKey e.1 ≠ k) = Function.update (classValues es) k [] := by
  funext k'
  by_cases hk : k' = k
  · subst hk
    rw [Function.update_self]
    apply classValues_of_not_mem
    intro hmem
    obtain ⟨e, he, hek⟩ := mem_keys.1 hmem
    have hkeep := List.of_mem_filter he
    rw [decide_eq_true_iff] at hkeep
    exact hkeep hek
  · rw [Function.update_of_ne hk]
    apply classValues_filter
    intro e hek
    simpa [hek] using hk

section Simulation

variable {name : String} {f : List String → List String} {fresh : List String}

/-- Updating the first entry of a class changes the abstract map at that class only. -/
theorem toModel_updateFirst (es : List (String × List String)) :
    toModel ⟨updateFirst name f fresh es⟩ =
      ⟨(toModel ⟨es⟩).enroll name, Function.update (classValues es) (foldKey name)
        (if foldKey name ∈ keys es then f (classValues es (foldKey name)) else fresh)⟩ := by
  have hnames : (updateFirst name f fresh es).map (·.1) = (toModel ⟨es⟩).enroll name := by
    rw [updateFirst_names, Model.enroll, toModel, keys_eq_map_names]
    rfl
  have hvalues : classValues (updateFirst name f fresh es) = Function.update (classValues es)
      (foldKey name) (if foldKey name ∈ keys es then f (classValues es (foldKey name))
        else fresh) := by
    funext k
    by_cases hk : k = foldKey name
    · subst hk
      rw [Function.update_self, classValues_updateFirst_self]
    · rw [Function.update_of_ne hk, classValues_updateFirst_of_ne hk]
  rw [toModel, names, hnames, hvalues]

theorem toModel_append (h : HeaderMap) (value : String) :
    toModel (h.append name value) = (toModel h).append name value := by
  show toModel ⟨appendTo name value h.entries⟩ = _
  rw [appendTo_eq_updateFirst, toModel_updateFirst, Model.append]
  congr 2
  split
  · rfl
  · next hnew =>
    rw [show (toModel h).values (foldKey name) = [] from classValues_of_not_mem hnew]
    rfl

theorem toModel_insert (h : HeaderMap) (value : String) :
    toModel (h.insert name value) = (toModel h).insert name value := by
  show toModel ⟨insertInto name value h.entries⟩ = _
  rw [insertInto_eq_updateFirst, toModel_updateFirst, Model.insert]
  congr 2
  split <;> rfl

theorem toModel_extend (h : HeaderMap) (ps : List (String × String)) :
    toModel (h.extend ps) = (toModel h).extend ps := by
  induction ps generalizing h with
  | nil => rfl
  | cons p ps ih => rw [extend_cons, ih, toModel_append]; rfl

theorem toModel_ofPairs (ps : List (String × String)) :
    toModel (ofPairs ps) = Model.empty.extend ps := by
  rw [ofPairs, toModel_extend, toModel_empty]

/-- Removing returns the abstract map's values of the class. -/
theorem remove_fst_eq (h : HeaderMap) : (h.remove name).1 = ((toModel h).remove name).1 :=
  removeFrom_fst h.entries

/-- On a well-formed map, removing drops the class from the abstract map. -/
theorem WellFormed.toModel_remove {h : HeaderMap} (hw : h.WellFormed) :
    toModel (h.remove name).2 = ((toModel h).remove name).2 := by
  have hsnd : (h.remove name).2 = ⟨h.entries.filter fun e => foldKey e.1 ≠ foldKey name⟩ := by
    simp [HeaderMap.remove, removeFrom_snd hw.distinct]
  have hnames : (h.remove name).2.names = h.names.filter (foldKey · ≠ foldKey name) := by
    rw [hsnd, names, names, List.filter_map]
    rfl
  have hvalues : classValues (h.remove name).2.entries =
      Function.update (classValues h.entries) (foldKey name) [] := by
    rw [hsnd]
    exact classValues_filter_ne h.entries (foldKey name)
  simp only [toModel, Model.remove, hnames, hvalues]

/-- One operation on a well-formed map does to its abstract map what the abstract operation
does. -/
theorem WellFormed.toModel_apply {h : HeaderMap} (hw : h.WellFormed) :
    ∀ op : Op, toModel (op.apply h) = Model.apply op (toModel h)
  | .append _ _ => toModel_append h _
  | .insert _ _ => toModel_insert h _
  | .remove _ => hw.toModel_remove
  | .extend ps => toModel_extend h ps
  | .collect ps => toModel_ofPairs ps

theorem WellFormed.toModel_foldl {h : HeaderMap} (hw : h.WellFormed) (ops : List Op) :
    toModel (ops.foldl (fun h op => op.apply h) h) =
      ops.foldl (fun M op => Model.apply op M) (toModel h) := by
  induction ops generalizing h with
  | nil => rfl
  | cons op ops ih =>
    rw [List.foldl_cons, List.foldl_cons, ih (hw.apply op), hw.toModel_apply op]

/-- A run's map stands for the run's abstract map. -/
theorem toModel_run (ops : List Op) : toModel (run ops) = Model.run ops :=
  wellFormed_empty.toModel_foldl ops

end Simulation

/-! ## Answering as the abstract map -/

/-- A header map answers as an abstract map: the same names in the same order and
spelling, the class's values from every lookup and every removal, its first value from
`get?`, and the same pairs. -/
structure Answers (h : HeaderMap) (M : Model) : Prop where
  names : h.names = M.classes
  getAll : ∀ name, h.getAll name = M.values (foldKey name)
  get : ∀ name, h.get? name = (M.values (foldKey name)).head?
  removed : ∀ name, (h.remove name).1 = (M.remove name).1
  pairs : h.pairs = M.pairs

/-- A well-formed map answers as the abstract map it stands for. -/
theorem WellFormed.answers_toModel {h : HeaderMap} (hw : h.WellFormed) : Answers h (toModel h) where
  names := rfl
  getAll _ := rfl
  get _ := rfl
  removed _ := remove_fst_eq h
  pairs := hw.pairs_eq

/-- **Header maps refine the map of name classes.** After every run of appends, inserts,
removals, extensions and collections from the empty map, the header map answers as the
abstract map after the same run: names in the order of their class's first insertion since
its latest removal, spelled as that insertion; each name's values, first value and removed
values those of its class; pairs class by class. In particular collecting pairs lists them
grouped by class, the classes in the order they first occur, each spelled as its first
pair, with no pair lost or repeated. -/
theorem run_refines_class_model (ops : List Op) (ps : List (String × String)) :
    Answers (run ops) (Model.run ops) ∧ (ofPairs ps).pairs = groupByClass ps := by
  have hrun := (wellFormed_run ops).answers_toModel
  rw [toModel_run] at hrun
  have hcollect : (ofPairs ps).pairs = (toModel (ofPairs ps)).pairs :=
    (wellFormed_ofPairs ps).answers_toModel.pairs
  rw [toModel_ofPairs, Model.empty_extend_pairs] at hcollect
  exact ⟨hrun, hcollect⟩

end HttpCall.HeaderMap
