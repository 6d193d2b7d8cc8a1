import HttpCall.Proofs.MediaType.Reparse

/-!
# The grammar of a `Content-Type` text

Reading a `Content-Type` text (`MediaType.parse`) follows a grammar that can be said without
its loop:

* the media range is the text before the first `;`; trimmed and cut at its first `/`, it
  gives two halves, each trimmed again (`rangeHalves`); both must be non-empty, and the type
  may be `*` only over a `*` subtype;
* the parameters are the text after the first `;`, split at the semicolons outside quotes;
  those with an `=` whose key is `charset` in any ASCII case and whose trimmed, unquoted
  value is not empty give the charset labels, in order (`charsetLabels`);
* a fault of the media range comes first; then the first label that names no encoding is
  refused; otherwise the halves, folded to small letters, are the type and subtype, and the
  last label names the charset (`readByGrammar`).

`parse_eq_readByGrammar` proves that reading is this grammar: the parameter loop, which
stops at the first unknown label and keeps overwriting the charset, is the first unknown label
and the last label of the list (`paramsCharset_eq`).

Main statement: `parse_accepts_grammar`.
-/

namespace HttpCall.MediaType

/-! ## The grammar -/

/-- The label a parameter gives the charset: the trimmed, unquoted value of a parameter with an
`=` whose key trims to `charset` in any ASCII case, unless that value is empty. -/
def charsetLabel? (param : List Char) : Option String :=
  match splitAtFirst '=' param with
  | none => none
  | some (key, value) =>
    if Ascii.eqFold (Blank.trim (String.ofList key)) "charset" = true ∧
        unquote (Blank.trimListBy Blank.isUnicodeBlank value) ≠ [] then
      some (String.ofList (unquote (Blank.trimListBy Blank.isUnicodeBlank value)))
    else none

/-- The charset labels of a `Content-Type` text, in order: those of the parameters after its
first `;`. -/
def charsetLabels (text : String) : List String :=
  (splitParams ((text.toList.dropWhile (· != ';')).drop 1)).filterMap charsetLabel?

/-- The halves of the media range of a text: the text before its first `;`, trimmed and cut
at its first `/`, each half trimmed again. -/
def rangeHalves (text : String) : Option (List Char × List Char) :=
  (splitAtFirst '/' (Blank.trimListBy Blank.isUnicodeBlank (text.toList.takeWhile (· != ';')))).map
    fun h => (Blank.trimListBy Blank.isUnicodeBlank h.1, Blank.trimListBy Blank.isUnicodeBlank h.2)

/-- Halves that make a media type: both non-empty, and a wildcard type only over a wildcard
subtype. -/
def HalvesOk (h : List Char × List Char) : Prop :=
  h.1 ≠ [] ∧ h.2 ≠ [] ∧ (h.1 = ['*'] → h.2 = ['*'])

/-- Does a label name no encoding? -/
def unknownLabel (l : String) : Bool :=
  (Charset.ofLabel? l).isNone

/-- What the grammar makes of a `Content-Type` text: the halves of its media range, checked in
turn; then the first of its charset labels that names no encoding is refused, and otherwise the
last one names the charset. -/
def readByGrammar (text : String) : Except Error MediaType :=
  match rangeHalves text with
  | none => .error (.malformedMediaType text .missingSlash)
  | some (t, s) =>
    if t = [] then .error (.malformedMediaType text .emptyType)
    else if s = [] then .error (.malformedMediaType text .emptySubtype)
    else if t = ['*'] ∧ s ≠ ['*'] then .error (.malformedMediaType text .wildcardType)
    else match (charsetLabels text).find? unknownLabel with
      | some l => .error (.unsupportedCharset l)
      | none => .ok ⟨Ascii.lowerText (String.ofList t), Ascii.lowerText (String.ofList s),
          (charsetLabels text).getLast?.bind Charset.ofLabel?⟩

/-! ## Cutting at the first separator -/

/-- The first separator cuts a list into what stands before it and what follows it. -/
theorem splitAtFirst_eq (sep : Char) (cs : List Char) :
    splitAtFirst sep cs =
      if sep ∈ cs then some (cs.takeWhile (· != sep), (cs.dropWhile (· != sep)).drop 1)
      else none := by
  induction cs with
  | nil => simp [splitAtFirst]
  | cons c cs ih =>
    rw [splitAtFirst_cons, ih]
    by_cases hc : c = sep
    · subst hc; simp
    · have hc' : (c != sep) = true := bne_iff_ne.2 hc
      by_cases hm : sep ∈ cs
      · simp [hc, hm, hc', Ne.symm hc]
      · simp [hc, hm, Ne.symm hc]

/-- Without the separator, the part before it is the whole list and nothing follows. -/
theorem takeWhile_dropWhile_of_not_mem {sep : Char} {cs : List Char} (h : sep ∉ cs) :
    cs.takeWhile (· != sep) = cs ∧ (cs.dropWhile (· != sep)).drop 1 = [] := by
  have hall : ∀ c ∈ cs, (c != sep) = true := fun c hc => bne_iff_ne.2 fun e => h (e ▸ hc)
  exact ⟨List.takeWhile_eq_self_iff.2 hall, by rw [List.dropWhile_eq_nil_iff.2 hall]; rfl⟩

/-! ## Folding the case of a half -/

theorem lowerText_ofList (cs : List Char) :
    Ascii.lowerText (String.ofList cs) = String.ofList (cs.map Ascii.lower) := by
  rw [Ascii.lowerText, String.toList_ofList]

theorem lowerText_ofList_isEmpty (cs : List Char) :
    (Ascii.lowerText (String.ofList cs)).isEmpty = decide (cs = []) := by
  rw [lowerText_ofList]
  cases cs <;> simp

/-- A half folds to `*` exactly when it is `*`: folding touches letters only. -/
theorem lowerText_ofList_eq_star (cs : List Char) :
    Ascii.lowerText (String.ofList cs) = "*" ↔ cs = ['*'] := by
  rw [lowerText_ofList, show "*" = String.ofList ['*'] from rfl, String.ofList_inj]
  constructor
  · intro h
    obtain ⟨c, rfl⟩ : ∃ c, cs = [c] := List.length_eq_one_iff.1 (by simpa using congrArg List.length h)
    simp only [List.map_cons, List.map_nil, List.cons.injEq, and_true] at h
    rw [(Ascii.lower_eq_iff (by decide)).1 h]
  · rintro rfl
    rfl

/-! ## The parameter loop -/

/-- One parameter read by the loop: its label, if any, looked up. -/
theorem paramCharset_eq (p : List Char) :
    paramCharset p = (charsetLabel? p).map fun l =>
      match Charset.ofLabel? l with
      | some cs => .ok cs
      | none => .error (.unsupportedCharset l) := by
  unfold paramCharset charsetLabel?
  cases splitAtFirst '=' p with
  | none => rfl
  | some kv =>
    obtain ⟨key, value⟩ := kv
    by_cases hk : Ascii.eqFold (Blank.trim (String.ofList key)) "charset" = true
    · by_cases hv : unquote (Blank.trimListBy Blank.isUnicodeBlank value) = []
      · simp [hk, hv]
      · have hne : (String.ofList (unquote (Blank.trimListBy Blank.isUnicodeBlank value))).isEmpty
            = false := by simpa [String.isEmpty_iff] using hv
        -- the label is looked up on both sides: split on the lookup before simplifying
        cases hc : Charset.ofLabel? (String.ofList (unquote (Blank.trimListBy Blank.isUnicodeBlank
          value))) <;> simp [hk, hv, hne, hc]
    · simp [hk]

/-- When no label of a list is unknown, its last label names an encoding. -/
theorem getLast?_bind_ofLabel_isSome {ls : List String} (h : ls.find? unknownLabel = none)
    (hne : ls ≠ []) : (ls.getLast?.bind Charset.ofLabel?).isSome := by
  obtain ⟨x, hx⟩ := Option.isSome_iff_exists.1 (List.getLast?_isSome.2 hne)
  have hknown := List.find?_eq_none.1 h x (List.mem_of_getLast? hx)
  simp only [unknownLabel, Option.isNone_iff_eq_none] at hknown
  simpa [hx, Option.isSome_iff_ne_none] using hknown

/-- **The parameter loop as a list function.** It stops at the first label that names no
encoding; otherwise the last label names the charset, and without a label the charset stays
as it was. -/
theorem paramsCharset_eq (ps : List (List Char)) (acc : Option Charset) :
    paramsCharset ps acc =
      match (ps.filterMap charsetLabel?).find? unknownLabel with
      | some l => .error (.unsupportedCharset l)
      | none => .ok (((ps.filterMap charsetLabel?).getLast?.bind Charset.ofLabel?).or acc) := by
  induction ps generalizing acc with
  | nil => rfl
  | cons p ps ih =>
    rw [paramsCharset, paramCharset_eq]
    cases hl : charsetLabel? p with
    | none => simp only [Option.map_none, hl, List.filterMap_cons, ih]
    | some l =>
      cases hc : Charset.ofLabel? l with
      | none =>
        have hunknown : unknownLabel l = true := by simp [unknownLabel, hc]
        simp only [Option.map_some, hc, hl, List.filterMap_cons, List.find?_cons, hunknown]
      | some cs =>
        -- a known label is skipped by the search and overwritten by any later label
        have hknown : unknownLabel l = false := by simp [unknownLabel, hc]
        simp only [Option.map_some, hc, hl, List.filterMap_cons, List.find?_cons, hknown, ih]
        cases hf : (ps.filterMap charsetLabel?).find? unknownLabel with
        | some l' => rfl
        | none =>
          by_cases hne : ps.filterMap charsetLabel? = []
          · simp [hne, hc]
          · obtain ⟨c, hcs⟩ := Option.isSome_iff_exists.1 (getLast?_bind_ofLabel_isSome hf hne)
            obtain ⟨y, ys, hys⟩ := List.exists_cons_of_ne_nil hne
            rw [hys] at hcs ⊢
            simp only [List.getLast?_cons_cons]
            simp [hcs]

/-- The checks on the two halves and then the parameter loop, as the grammar states them. -/
theorem checks_eq_grammar (text : String) (t s : List Char) (ps : List (List Char)) :
    (if (Ascii.lowerText (String.ofList t)).isEmpty = true then
        Except.error (Error.malformedMediaType text .emptyType)
      else if (Ascii.lowerText (String.ofList s)).isEmpty = true then
        Except.error (Error.malformedMediaType text .emptySubtype)
      else if (Ascii.lowerText (String.ofList t) == "*" &&
          Ascii.lowerText (String.ofList s) != "*") = true then
        Except.error (Error.malformedMediaType text .wildcardType)
      else do
        let charset ← paramsCharset ps none
        pure (⟨Ascii.lowerText (String.ofList t), Ascii.lowerText (String.ofList s), charset⟩ :
          MediaType)) =
    (if t = [] then Except.error (Error.malformedMediaType text .emptyType)
      else if s = [] then Except.error (Error.malformedMediaType text .emptySubtype)
      else if t = ['*'] ∧ s ≠ ['*'] then Except.error (Error.malformedMediaType text .wildcardType)
      else match (ps.filterMap charsetLabel?).find? unknownLabel with
        | some l => .error (.unsupportedCharset l)
        | none => .ok (⟨Ascii.lowerText (String.ofList t), Ascii.lowerText (String.ofList s),
            (ps.filterMap charsetLabel?).getLast?.bind Charset.ofLabel?⟩ : MediaType)) := by
  have hstar (cs : List Char) : (Ascii.lowerText (String.ofList cs) == "*") = decide (cs = ['*']) := by
    rw [Bool.eq_iff_iff, beq_iff_eq, decide_eq_true_iff, lowerText_ofList_eq_star]
  have hwild : (Ascii.lowerText (String.ofList t) == "*" &&
      Ascii.lowerText (String.ofList s) != "*") = decide (t = ['*'] ∧ s ≠ ['*']) := by
    rw [bne, hstar, hstar]
    simp
  rw [lowerText_ofList_isEmpty, lowerText_ofList_isEmpty, hwild, paramsCharset_eq]
  simp only [decide_eq_true_eq]
  cases (ps.filterMap charsetLabel?).find? unknownLabel <;> simp

theorem parse_eq_readByGrammar (text : String) : parse text = readByGrammar text := by
  unfold parse readByGrammar rangeHalves charsetLabels
  dsimp only
  rw [splitAtFirst_eq ';']
  by_cases hs : ';' ∈ text.toList
  · simp only [hs, if_true]
    cases hsl : splitAtFirst '/' (Blank.trimListBy Blank.isUnicodeBlank (text.toList.takeWhile (· != ';'))) with
    | none => rfl
    | some ts => exact checks_eq_grammar _ _ _ _
  · -- without a `;` the media range is the whole text and there are no parameters
    obtain ⟨htake, hdrop⟩ := takeWhile_dropWhile_of_not_mem hs
    simp only [hs, if_false, htake, hdrop]
    cases hsl : splitAtFirst '/' (Blank.trimListBy Blank.isUnicodeBlank text.toList) with
    | none => rfl
    | some ts => exact checks_eq_grammar text _ _ (splitParams [])
/-- A media range whose halves do not make a media type is refused as malformed. -/
theorem readByGrammar_of_not_halvesOk {text : String}
    (h : ∀ x ∈ rangeHalves text, ¬ HalvesOk x) :
    ∃ fault, readByGrammar text = .error (.malformedMediaType text fault) := by
  cases hr : rangeHalves text with
  | none => exact ⟨_, by rw [readByGrammar, hr]⟩
  | some ts =>
    obtain ⟨t, s⟩ := ts
    have hbad : ¬ HalvesOk (t, s) := h _ hr
    simp only [HalvesOk, not_and] at hbad
    rw [readByGrammar, hr]
    dsimp only
    by_cases ht : t = []
    · exact ⟨_, if_pos ht⟩
    by_cases hs : s = []
    · exact ⟨_, by rw [if_neg ht, if_pos hs]⟩
    · obtain ⟨hstar, hsub⟩ := Classical.not_imp.1 (hbad ht hs)
      exact ⟨_, by rw [if_neg ht, if_neg hs, if_pos ⟨hstar, hsub⟩]⟩

/-- Halves that make a media type leave the decision to the charset labels. -/
theorem readByGrammar_of_halvesOk {text : String} {t s : List Char}
    (hr : rangeHalves text = some (t, s)) (hok : HalvesOk (t, s)) :
    readByGrammar text =
      match (charsetLabels text).find? unknownLabel with
      | some l => .error (.unsupportedCharset l)
      | none => .ok ⟨Ascii.lowerText (String.ofList t), Ascii.lowerText (String.ofList s),
          (charsetLabels text).getLast?.bind Charset.ofLabel?⟩ := by
  obtain ⟨ht, hs, hwild⟩ := hok
  have hw : ¬ (t = ['*'] ∧ s ≠ ['*']) := fun h => h.2 (hwild h.1)
  rw [readByGrammar, hr]
  simp only [if_neg ht, if_neg hs, if_neg hw]

/-- What the grammar accepts, and what it gives then. -/
theorem readByGrammar_eq_ok_iff {text : String} {m : MediaType} :
    readByGrammar text = .ok m ↔
      ∃ t s, rangeHalves text = some (t, s) ∧ HalvesOk (t, s) ∧
        (charsetLabels text).find? unknownLabel = none ∧
        m = ⟨Ascii.lowerText (String.ofList t), Ascii.lowerText (String.ofList s),
          (charsetLabels text).getLast?.bind Charset.ofLabel?⟩ := by
  constructor
  · intro h
    by_cases hgood : ∃ x ∈ rangeHalves text, HalvesOk x
    · obtain ⟨⟨t, s⟩, hr, hok⟩ := hgood
      rw [readByGrammar_of_halvesOk hr hok] at h
      cases hf : (charsetLabels text).find? unknownLabel with
      | some l => rw [hf] at h; cases h
      | none =>
        rw [hf] at h
        exact ⟨t, s, hr, hok, rfl, (Except.ok.inj h).symm⟩
    · obtain ⟨fault, hfault⟩ := readByGrammar_of_not_halvesOk fun x hx hok => hgood ⟨x, hx, hok⟩
      rw [hfault] at h
      cases h
  · rintro ⟨t, s, hr, hok, hf, rfl⟩
    rw [readByGrammar_of_halvesOk hr hok, hf]

/-- **Reading a `Content-Type` text accepts exactly its grammar.** It succeeds exactly when
the halves of the media range make a media type and every charset label names an encoding; a
fault of the media range is reported before any label; otherwise the first label naming no
encoding is refused; and on success the type and subtype are the halves folded to small
letters and the charset is the one the last label names, whatever the other parameters say. -/
theorem parse_accepts_grammar (text : String) :
    ((∃ m, parse text = .ok m) ↔
        (∃ h ∈ rangeHalves text, HalvesOk h) ∧
          ∀ l ∈ charsetLabels text, (Charset.ofLabel? l).isSome) ∧
      ((∀ h ∈ rangeHalves text, ¬ HalvesOk h) →
        ∃ fault, parse text = .error (.malformedMediaType text fault)) ∧
      (∀ h ∈ rangeHalves text, HalvesOk h → ∀ l ∈ (charsetLabels text).find? unknownLabel,
        parse text = .error (.unsupportedCharset l)) ∧
      (∀ m, parse text = .ok m → ∃ t s, rangeHalves text = some (t, s) ∧
        m = ⟨Ascii.lowerText (String.ofList t), Ascii.lowerText (String.ofList s),
          (charsetLabels text).getLast?.bind Charset.ofLabel?⟩) := by
  rw [parse_eq_readByGrammar]
  -- a label list has no unknown label exactly when every label names an encoding
  have hknown : (charsetLabels text).find? unknownLabel = none ↔
      ∀ l ∈ charsetLabels text, (Charset.ofLabel? l).isSome := by
    simp [List.find?_eq_none, unknownLabel, Option.isSome_iff_ne_none]
  refine ⟨⟨?_, ?_⟩, readByGrammar_of_not_halvesOk, ?_, ?_⟩
  · rintro ⟨m, hm⟩
    obtain ⟨t, s, hr, hok, hf, -⟩ := readByGrammar_eq_ok_iff.1 hm
    exact ⟨⟨(t, s), hr, hok⟩, hknown.1 hf⟩
  · rintro ⟨⟨⟨t, s⟩, hr, hok⟩, hall⟩
    exact ⟨_, readByGrammar_eq_ok_iff.2 ⟨t, s, hr, hok, hknown.2 hall, rfl⟩⟩
  · rintro ⟨t, s⟩ hr hok l hl
    rw [readByGrammar_of_halvesOk hr hok, Option.mem_def.1 hl]
  · intro m hm
    obtain ⟨t, s, hr, -, -, rfl⟩ := readByGrammar_eq_ok_iff.1 hm
    exact ⟨t, s, hr, rfl⟩

end HttpCall.MediaType

namespace HttpCall.Blank

section AroundSeparator

variable {p : Char → Bool}

/-- A kept character stops the leading trim: whatever follows it stays. -/
theorem dropWhile_append_cons {a b : List Char} {c : Char} (hc : p c = false) :
    (a ++ c :: b).dropWhile p = a.dropWhile p ++ c :: b := by
  rw [List.dropWhile_append]
  split
  · next h => rw [List.isEmpty_iff.1 h, List.dropWhile_cons, if_neg (by simp [hc])]; rfl
  · rfl

/-- A kept character stops the trailing trim: whatever precedes it stays. -/
theorem rdropWhile_append_cons {a b : List Char} {c : Char} (hc : p c = false) :
    (a ++ c :: b).rdropWhile p = a ++ c :: b.rdropWhile p := by
  simp only [List.rdropWhile, List.reverse_append, List.reverse_cons, List.append_assoc,
    List.singleton_append]
  rw [dropWhile_append_cons hc]
  simp

/-- The two trims commute. -/
theorem dropWhile_rdropWhile (l : List Char) :
    (l.rdropWhile p).dropWhile p = (l.dropWhile p).rdropWhile p := by
  induction l using List.reverseRecOn with
  | nil => rfl
  | append_singleton l x ih =>
    rw [List.rdropWhile_concat, List.dropWhile_append]
    by_cases hx : p x = true
    · -- a trimmed last character: both sides trim `l` alone
      rw [if_pos hx, ih]
      split
      · next h => simp [List.isEmpty_iff.1 h, hx]
      · rw [List.rdropWhile_concat_pos p _ x hx]
    · -- a kept last character ends both sides
      rw [if_neg hx]
      split
      · next h =>
        rw [List.dropWhile_append, if_pos h, List.dropWhile_cons, if_neg hx,
          List.rdropWhile_singleton, if_neg hx]
      · next h => rw [List.dropWhile_append, if_neg h, List.rdropWhile_concat_neg p _ x hx]

/-- Trimming is the leading trim followed by the trailing one. -/
theorem trimListBy_eq (cs : List Char) : trimListBy p cs = (cs.dropWhile p).rdropWhile p := rfl

/-- Around a kept character, trimming cuts the two sides' outer ends only. -/
theorem trimListBy_append_cons {a b : List Char} {c : Char} (hc : p c = false) :
    trimListBy p (a ++ c :: b) = a.dropWhile p ++ c :: b.rdropWhile p := by
  rw [trimListBy_eq, dropWhile_append_cons hc, rdropWhile_append_cons hc]

/-- Trimming after the leading trim is trimming. -/
theorem trimListBy_dropWhile (cs : List Char) : trimListBy p (cs.dropWhile p) = trimListBy p cs := by
  rw [trimListBy_eq, trimListBy_eq, List.dropWhile_idempotent]

/-- Trimming after the trailing trim is trimming. -/
theorem trimListBy_rdropWhile (cs : List Char) :
    trimListBy p (cs.rdropWhile p) = trimListBy p cs := by
  rw [trimListBy_eq, trimListBy_eq, dropWhile_rdropWhile, List.rdropWhile_idempotent]

end AroundSeparator

end HttpCall.Blank

namespace HttpCall.MediaType

/-! ## Media types from two halves -/

/-- A type with no `/` and no `;` joined to a subtype with no `;`: the media range is the whole
text, its halves are the two parts trimmed, and there is no charset label. -/
theorem rangeHalves_join {type subtype : List Char} (htype : '/' ∉ type ∧ ';' ∉ type)
    (hsub : ';' ∉ subtype) :
    rangeHalves (String.ofList (type ++ '/' :: subtype)) =
        some (Blank.trimListBy Blank.isUnicodeBlank type,
          Blank.trimListBy Blank.isUnicodeBlank subtype) ∧
      charsetLabels (String.ofList (type ++ '/' :: subtype)) = [] := by
  have hsemi : ';' ∉ type ++ '/' :: subtype := by simp [htype.2, hsub]
  obtain ⟨htake, hdrop⟩ := takeWhile_dropWhile_of_not_mem hsemi
  have hslash : Blank.isUnicodeBlank '/' = false := by decide
  -- the leading trim keeps a part of the type, so the first `/` is the one joined in
  have hcut : splitAtFirst '/' (Blank.trimListBy Blank.isUnicodeBlank (type ++ '/' :: subtype)) =
      some (type.dropWhile Blank.isUnicodeBlank, subtype.rdropWhile Blank.isUnicodeBlank) := by
    rw [Blank.trimListBy_append_cons hslash, splitAtFirst_eq_some_iff]
    exact ⟨rfl, fun h => htype.1 (List.dropWhile_sublist _ |>.subset h)⟩
  refine ⟨?_, ?_⟩
  · rw [rangeHalves, String.toList_ofList, htake, hcut]
    simp [Blank.trimListBy_dropWhile, Blank.trimListBy_rdropWhile]
  · rw [charsetLabels, String.toList_ofList, hdrop]
    rfl

/-- **A media type from two halves without separators.** When the type holds no `/` and no `;`
and the subtype no `;`, building from the halves succeeds exactly when both trimmed halves are
non-empty and the trimmed type is `*` only over a `*` subtype; the type and subtype are then
the trimmed halves folded to small letters, and there is no charset. -/
theorem ofParts_of_plain_halves {type subtype : String}
    (htype : '/' ∉ type.toList ∧ ';' ∉ type.toList) (hsub : ';' ∉ subtype.toList) :
    ((∃ m, ofParts type subtype = .ok m) ↔
        Blank.trim type ≠ "" ∧ Blank.trim subtype ≠ "" ∧
          ¬ (Blank.trim type = "*" ∧ Blank.trim subtype ≠ "*")) ∧
      ∀ m, ofParts type subtype = .ok m →
        m = ⟨Ascii.lowerText (Blank.trim type), Ascii.lowerText (Blank.trim subtype), none⟩ := by
  have htext : type ++ "/" ++ subtype = String.ofList (type.toList ++ '/' :: subtype.toList) := by
    rw [← String.toList_inj, String.toList_ofList, String.toList_append, String.toList_append]
    simp
  obtain ⟨hr, hl⟩ := rangeHalves_join htype hsub
  rw [← htext] at hr hl
  -- the trimmed halves as strings and as lists
  have hne (x : String) : Blank.trim x ≠ "" ↔ Blank.trimListBy Blank.isUnicodeBlank x.toList ≠ [] := by
    rw [Blank.trim, Blank.trimBy, ne_eq, ne_eq, String.ofList_eq_empty_iff]
  have hstar (x : String) : Blank.trim x = "*" ↔ Blank.trimListBy Blank.isUnicodeBlank x.toList = ['*'] := by
    rw [Blank.trim, Blank.trimBy, show "*" = String.ofList ['*'] from rfl, String.ofList_inj]
  rw [ofParts, parse_eq_readByGrammar]
  refine ⟨⟨?_, ?_⟩, ?_⟩
  · rintro ⟨m, hm⟩
    obtain ⟨t, s, hr', ⟨ht, hs, hwild⟩, -, -⟩ := readByGrammar_eq_ok_iff.1 hm
    rw [hr] at hr'
    obtain ⟨rfl, rfl⟩ := Prod.mk.inj (Option.some.inj hr')
    exact ⟨(hne _).2 ht, (hne _).2 hs, fun h => h.2 ((hstar _).2 (hwild ((hstar _).1 h.1)))⟩
  · rintro ⟨ht, hs, hwild⟩
    have hwild' : Blank.trimListBy Blank.isUnicodeBlank type.toList = ['*'] →
        Blank.trimListBy Blank.isUnicodeBlank subtype.toList = ['*'] := fun h =>
      (hstar _).1 (Classical.byContradiction fun h' => hwild ⟨(hstar _).2 h, h'⟩)
    refine ⟨_, readByGrammar_eq_ok_iff.2 ⟨_, _, hr, ⟨(hne _).1 ht, (hne _).1 hs, hwild'⟩, ?_, rfl⟩⟩
    rw [hl]
    rfl
  · intro m hm
    obtain ⟨t, s, hr', -, -, rfl⟩ := readByGrammar_eq_ok_iff.1 hm
    rw [hr] at hr'
    obtain ⟨rfl, rfl⟩ := Prod.mk.inj (Option.some.inj hr')
    rw [hl]
    rfl

/-- A `/` inside the type is read as the separator: the halves `a/b` and `c` give the type `a`
and the subtype `b/c`, where the type folded from `a/b` would be `a/b`. -/
theorem ofParts_slash_in_type_moves_split :
    ofParts "a/b" "c" = .ok ⟨"a", "b/c", none⟩ ∧ Ascii.lowerText (Blank.trim "a/b") ≠ "a" := by
  decide

/-- The halves ` Text` and `HTML` give `text/html` with no charset. -/
theorem ofParts_spaced_text_html :
    ('/' ∉ " Text".toList ∧ ';' ∉ " Text".toList) ∧ ';' ∉ "HTML".toList ∧
      (((∃ m, ofParts " Text" "HTML" = .ok m) ↔
          Blank.trim " Text" ≠ "" ∧ Blank.trim "HTML" ≠ "" ∧
            ¬ (Blank.trim " Text" = "*" ∧ Blank.trim "HTML" ≠ "*")) ∧
        ∀ m, ofParts " Text" "HTML" = .ok m →
          m = ⟨Ascii.lowerText (Blank.trim " Text"), Ascii.lowerText (Blank.trim "HTML"), none⟩) :=
  ⟨by decide, by decide, ofParts_of_plain_halves (by decide) (by decide)⟩

end HttpCall.MediaType
