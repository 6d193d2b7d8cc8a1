import HttpCall.MediaType.Extension
import HttpCall.Proofs.MediaType.Params
import Mathlib

/-!
# Reading back the text of a media type

`MediaType.render` writes `type/subtype` and, when there is a charset, `; charset=` and the
charset's canonical name. Reading that text with `MediaType.parse` gives the media type back
for every media type the library hands out (`Issued`): those read from any text, those built
from two halves, the six constants, the types of file extensions, and any of these with its
charset set to any encoding.

The argument has two halves.

* Every media type handed out is `WellShaped`: type and subtype are `Settled` (not empty, no
  Unicode blank at either end, no ASCII capital, no `;`), the type holds no `/`, and a
  wildcard type comes with a wildcard subtype. Reading makes its halves so
  (`wellShaped_of_parse`), the constants and the extension table are so, and setting a
  charset leaves the halves alone.
* The text of a well-shaped media type splits at its first `;` and its first `/` exactly
  where it was joined, trimming and folding leave the halves as they are, and the one
  parameter is `charset` with the canonical name, which is a label of its own encoding for
  all forty encodings, `replacement` included (`Charset.ofLabel_name`).

Main statement: `parse_render_of_issued`.
-/

namespace HttpCall

namespace Ascii

theorem toNat_lower (c : Char) :
    (lower c).toNat = if 65 ≤ c.toNat ∧ c.toNat ≤ 90 then c.toNat + 32 else c.toNat := by
  unfold lower
  split
  · exact toNat_ofNat_of_lt (by omega)
  · rfl

/-- A character that is no ASCII letter is the fold of itself alone. -/
theorem lower_eq_iff {c d : Char}
    (hd : ¬ (65 ≤ d.toNat ∧ d.toNat ≤ 90) ∧ ¬ (97 ≤ d.toNat ∧ d.toNat ≤ 122)) :
    lower c = d ↔ c = d := by
  rw [← Char.toNat_inj, ← Char.toNat_inj, toNat_lower]
  split <;> omega

theorem map_lower_lower (cs : List Char) : (cs.map lower).map lower = cs.map lower := by
  simp [Function.comp_def, lower_lower]

end Ascii

namespace Blank

/-- ASCII letters are no blanks. -/
theorem isUnicodeBlank_of_letter {c : Char} (h : 65 ≤ c.toNat ∧ c.toNat ≤ 122) :
    isUnicodeBlank c = false := by
  unfold isUnicodeBlank
  simp only [Bool.or_eq_false_iff, Bool.and_eq_false_imp, decide_eq_true_eq,
    decide_eq_false_iff_not, beq_eq_false_iff_ne]
  omega

theorem isUnicodeBlank_lower (c : Char) : isUnicodeBlank (Ascii.lower c) = isUnicodeBlank c := by
  by_cases h : 65 ≤ c.toNat ∧ c.toNat ≤ 90
  · -- a capital and its small letter are both no blank
    have hl : 65 ≤ (Ascii.lower c).toNat ∧ (Ascii.lower c).toNat ≤ 122 := by
      rw [Ascii.toNat_lower, if_pos h]; omega
    rw [isUnicodeBlank_of_letter hl, isUnicodeBlank_of_letter (by omega)]
  · unfold Ascii.lower
    rw [if_neg h]

section Trim

variable {p : Char → Bool}

theorem dropWhile_of_head? {cs : List Char} (h : ∀ c ∈ cs.head?, p c = false) :
    cs.dropWhile p = cs := by
  rw [List.dropWhile_eq_self_iff]
  intro hl
  have := h cs[0] (by simp [List.head?_eq_getElem?, List.getElem?_eq_getElem hl])
  simp [this]

/-- Trimming leaves a list alone whose two ends are kept. -/
theorem trimListBy_eq_self {cs : List Char} (hh : ∀ c ∈ cs.head?, p c = false)
    (hl : ∀ c ∈ cs.getLast?, p c = false) : trimListBy p cs = cs := by
  have hr : ∀ c ∈ cs.reverse.head?, p c = false := by rwa [List.head?_reverse]
  rw [trimListBy, dropWhile_of_head? hh, dropWhile_of_head? hr, List.reverse_reverse]

/-- A trimmed list does not begin with a character trimming removes. -/
theorem head?_trimListBy (cs : List Char) : ∀ c ∈ (trimListBy p cs).head?, p c = false := by
  intro c hc
  rw [trimListBy, List.head?_reverse] at hc
  -- the first character kept is the first one left after the leading run
  have hsuffix : [c] <:+ (cs.dropWhile p).reverse :=
    (List.singleton_suffix_iff_getLast?_eq_some.2 hc).trans (List.dropWhile_suffix p)
  rw [List.singleton_suffix_iff_getLast?_eq_some, List.getLast?_reverse] at hsuffix
  have := List.head?_dropWhile_not p cs
  rw [hsuffix] at this
  exact this

/-- A trimmed list does not end with a character trimming removes. -/
theorem getLast?_trimListBy (cs : List Char) :
    ∀ c ∈ (trimListBy p cs).getLast?, p c = false := by
  intro c hc
  rw [trimListBy, List.getLast?_reverse] at hc
  have := List.head?_dropWhile_not p ((cs.dropWhile p).reverse)
  rw [hc] at this
  exact this

/-- Trimming commutes with a map that keeps what is trimmed. -/
theorem trimListBy_map {f : Char → Char} (hf : ∀ c, p (f c) = p c) (cs : List Char) :
    trimListBy p (cs.map f) = (trimListBy p cs).map f := by
  have hpf : p ∘ f = p := funext hf
  simp [trimListBy, List.dropWhile_map, hpf, ← List.map_reverse]

theorem trimListBy_subset (cs : List Char) : trimListBy p cs ⊆ cs := by
  intro c hc
  rw [trimListBy, List.mem_reverse] at hc
  exact List.dropWhile_subset p (List.mem_reverse.1 (List.dropWhile_subset p hc))

end Trim

end Blank

namespace Charset

theorem mem_all (cs : Charset) : cs ∈ all := by
  cases cs <;> decide

/-- The canonical names are not empty and hold no blank, no quote, no `;` and no `=`:
checked once over the forty encodings. -/
theorem names_plain_check :
    all.all (fun cs => !cs.name.isEmpty && cs.name.toList.all
      (fun c => c != ';' && c != '"' && c != '=' && !Blank.isUnicodeBlank c)) = true := by
  decide +kernel

theorem name_plain (cs : Charset) :
    cs.name.isEmpty = false ∧
      ∀ c ∈ cs.name.toList,
        c ≠ ';' ∧ c ≠ '"' ∧ c ≠ '=' ∧ Blank.isUnicodeBlank c = false := by
  have hcs := List.all_eq_true.1 names_plain_check cs (mem_all cs)
  simp only [Bool.and_eq_true, Bool.not_eq_true', List.all_eq_true] at hcs
  refine ⟨hcs.1, fun c hc => ?_⟩
  have := hcs.2 c hc
  simp only [bne_iff_ne, ne_eq] at this
  exact ⟨this.1.1.1, this.1.1.2, this.1.2, this.2⟩

/-- Every canonical name is a label of its own encoding, checked once over the forty. -/
theorem names_label_check : all.all (fun cs => ofLabel? cs.name == some cs) = true := by
  decide +kernel

/-- Every encoding's canonical name is one of its labels; for the replacement encoding too,
whose labels include `replacement`. -/
theorem ofLabel_name (cs : Charset) : ofLabel? cs.name = some cs := by
  have := List.all_eq_true.1 names_label_check cs (mem_all cs)
  simpa using this

-- a label is read without regard to the case of its letters
example : ofLabel? "utf-8" = some utf8 := by decide

end Charset

namespace MediaType

/-! ## Splitting at the first separator -/

theorem splitAtFirst_cons (sep c : Char) (cs : List Char) :
    splitAtFirst sep (c :: cs) =
      if c = sep then some ([], cs) else (splitAtFirst sep cs).map fun p => (c :: p.1, p.2) := by
  unfold splitAtFirst
  rw [List.idxOf?_cons]
  by_cases hc : c = sep
  · simp [hc]
  · cases cs.idxOf? sep <;> simp [hc]

theorem splitAtFirst_eq_some_iff {sep : Char} {cs a b : List Char} :
    splitAtFirst sep cs = some (a, b) ↔ cs = a ++ sep :: b ∧ sep ∉ a := by
  induction cs generalizing a with
  | nil => simp [splitAtFirst]
  | cons c cs ih =>
    rw [splitAtFirst_cons]
    by_cases hc : c = sep
    · subst hc
      cases a with
      | nil => simp
      | cons d a => simp; grind
    · cases a with
      | nil => simp [hc]
      | cons d a => simp [hc, ih]; grind

theorem splitAtFirst_eq_none_iff {sep : Char} {cs : List Char} :
    splitAtFirst sep cs = none ↔ sep ∉ cs := by
  rw [← List.idxOf?_eq_none_iff, splitAtFirst]
  cases cs.idxOf? sep <;> simp

/-! ## Well-shaped media types -/

/-- A half of a media type as reading leaves it: not empty, no Unicode blank at either end,
no ASCII capital, and no `;`. -/
structure Settled (cs : List Char) : Prop where
  ne_nil : cs ≠ []
  head : ∀ c ∈ cs.head?, Blank.isUnicodeBlank c = false
  last : ∀ c ∈ cs.getLast?, Blank.isUnicodeBlank c = false
  lowered : cs.map Ascii.lower = cs
  no_semicolon : ';' ∉ cs

/-- The conditions of `Settled`, computed. -/
def settledCheck (cs : List Char) : Bool :=
  !cs.isEmpty && cs.head?.all (fun c => !Blank.isUnicodeBlank c) &&
    cs.getLast?.all (fun c => !Blank.isUnicodeBlank c) && cs.map Ascii.lower == cs &&
    !cs.contains ';'

theorem settled_of_check {cs : List Char} (h : settledCheck cs = true) : Settled cs := by
  simp only [settledCheck, Bool.and_eq_true, List.isEmpty_eq_false_iff, Option.all_eq_true,
    Bool.not_eq_eq_eq_not, Bool.not_true, beq_iff_eq, List.contains_eq_mem,
    decide_eq_false_iff_not] at h
  obtain ⟨⟨⟨⟨h1, h2⟩, h3⟩, h4⟩, h5⟩ := h
  exact ⟨h1, h2, h3, h4, h5⟩

/-- A media type as reading leaves it: both halves settled, no `/` in the type, and a
wildcard type only with a wildcard subtype. -/
structure WellShaped (m : MediaType) : Prop where
  type : Settled m.type.toList
  subtype : Settled m.subtype.toList
  no_slash : '/' ∉ m.type.toList
  wildcard : m.type = "*" → m.subtype = "*"

/-- The conditions of `WellShaped`, computed. -/
def shapeCheck (m : MediaType) : Bool :=
  settledCheck m.type.toList && settledCheck m.subtype.toList && !m.type.toList.contains '/' &&
    (m.type != "*" || m.subtype == "*")

theorem wellShaped_of_check {m : MediaType} (h : shapeCheck m = true) : WellShaped m := by
  simp only [shapeCheck, Bool.and_eq_true, Bool.or_eq_true, bne_iff_ne, ne_eq, beq_iff_eq,
    Bool.not_eq_true', List.contains_eq_mem, decide_eq_false_iff_not] at h
  obtain ⟨⟨⟨h1, h2⟩, h3⟩, h4⟩ := h
  exact ⟨settled_of_check h1, settled_of_check h2, h3, fun h => h4.resolve_left (not_not.2 h)⟩

/-- Setting a charset leaves the halves alone. -/
theorem WellShaped.withCharset {m : MediaType} (h : WellShaped m) (cs : Charset) :
    WellShaped (m.withCharset cs) :=
  ⟨h.type, h.subtype, h.no_slash, h.wildcard⟩

/-- A half cut out of a media range and trimmed, once folded, is settled. -/
theorem settled_lower_trim {range half : List Char} (hr : ';' ∉ range) (hsub : half ⊆ range)
    (hne : Ascii.lowerText (String.ofList (Blank.trimListBy Blank.isUnicodeBlank half)) ≠ "") :
    Settled
      (Ascii.lowerText (String.ofList (Blank.trimListBy Blank.isUnicodeBlank half))).toList := by
  have hblank : ∀ c, Blank.isUnicodeBlank (Ascii.lower c) = Blank.isUnicodeBlank c :=
    Blank.isUnicodeBlank_lower
  -- folding commutes with trimming, so the folded half is itself trimmed
  have hchars :
      (Ascii.lowerText (String.ofList (Blank.trimListBy Blank.isUnicodeBlank half))).toList =
        Blank.trimListBy Blank.isUnicodeBlank (half.map Ascii.lower) := by
    rw [Ascii.lowerText, String.toList_ofList, String.toList_ofList, Blank.trimListBy_map hblank]
  rw [hchars]
  refine ⟨fun h => hne (String.toList_inj.1 (by rw [hchars, h]; rfl)), Blank.head?_trimListBy _,
    Blank.getLast?_trimListBy _, ?_, ?_⟩
  · rw [Blank.trimListBy_map hblank, Ascii.map_lower_lower]
  · rw [Blank.trimListBy_map hblank]
    intro hmem
    obtain ⟨c, hc, hlow⟩ := List.mem_map.1 hmem
    rw [Ascii.lower_eq_iff (by decide)] at hlow
    exact hr (hsub (Blank.trimListBy_subset _ (hlow ▸ hc)))

/-- The media range of a text, what stands before its first `;`, holds no `;`. -/
theorem semicolon_not_mem_range (cs : List Char) :
    ';' ∉ (match splitAtFirst ';' cs with
      | some (r, p) => (r, some p)
      | none => (cs, none)).1 := by
  split
  · next r p h => exact (splitAtFirst_eq_some_iff.1 h).2
  · next h => exact splitAtFirst_eq_none_iff.1 h

/-- What reading keeps of a text: its media range, trimmed and split at the first `/`, gives
the two halves, each trimmed and folded, both nonempty and not a wildcard type over a
concrete subtype. -/
theorem parse_shape {text : String} {m : MediaType} (h : parse text = .ok m) :
    ∃ range t s, ';' ∉ range ∧
      splitAtFirst '/' (Blank.trimListBy Blank.isUnicodeBlank range) = some (t, s) ∧
      m.type = Ascii.lowerText (String.ofList (Blank.trimListBy Blank.isUnicodeBlank t)) ∧
      m.subtype = Ascii.lowerText (String.ofList (Blank.trimListBy Blank.isUnicodeBlank s)) ∧
      m.type ≠ "" ∧ m.subtype ≠ "" ∧ (m.type = "*" → m.subtype = "*") := by
  unfold parse at h
  simp only at h
  split at h
  · cases h
  · next t s hsplit =>
    refine ⟨_, t, s, semicolon_not_mem_range text.toList, hsplit, ?_⟩
    split at h
    · cases h
    split at h
    · cases h
    split at h
    · cases h
    next hty hsub hwild =>
    -- whatever the parameters say, the halves are the ones checked above
    have hm : m.type = Ascii.lowerText (String.ofList (Blank.trimListBy Blank.isUnicodeBlank t)) ∧
        m.subtype = Ascii.lowerText (String.ofList (Blank.trimListBy Blank.isUnicodeBlank s)) := by
      split at h
      · cases h; exact ⟨rfl, rfl⟩
      · cases hp : paramsCharset (splitParams _) none with
        | error e => rw [hp] at h; cases h
        | ok c => rw [hp] at h; cases h; exact ⟨rfl, rfl⟩
    rw [hm.1, hm.2]
    simp only [String.isEmpty_iff, Bool.and_eq_true, beq_iff_eq, bne_iff_ne, ne_eq]
      at hty hsub hwild
    exact ⟨rfl, rfl, hty, hsub,
      fun h1 => Classical.byContradiction fun h2 => hwild ⟨h1, h2⟩⟩

/-- Reading leaves every media type it returns well shaped. -/
theorem wellShaped_of_parse {text : String} {m : MediaType} (h : parse text = .ok m) :
    WellShaped m := by
  obtain ⟨range, t, s, hr, hsplit, htype, hsubtype, hne, hsne, hwild⟩ := parse_shape h
  obtain ⟨hjoin, hslash⟩ := splitAtFirst_eq_some_iff.1 hsplit
  -- both halves lie in the media range, which holds no `;`
  have ht : t ⊆ range := fun c hc =>
    Blank.trimListBy_subset _ (hjoin ▸ List.mem_append_left _ hc)
  have hs : s ⊆ range := fun c hc =>
    Blank.trimListBy_subset _ (hjoin ▸ List.mem_append_right _ (List.mem_cons_of_mem _ hc))
  refine ⟨?_, ?_, ?_, hwild⟩
  · rw [htype] at hne ⊢
    exact settled_lower_trim hr ht hne
  · rw [hsubtype] at hsne ⊢
    exact settled_lower_trim hr hs hsne
  · rw [htype, Ascii.lowerText, String.toList_ofList, String.toList_ofList]
    intro hmem
    obtain ⟨c, hc, hlow⟩ := List.mem_map.1 hmem
    rw [Ascii.lower_eq_iff (by decide)] at hlow
    exact hslash (Blank.trimListBy_subset _ (hlow ▸ hc))

/-! ## Reading the text of a well-shaped media type -/

/-- A settled half is its own trimmed fold. -/
theorem Settled.lowerText_trim {s : String} (h : Settled s.toList) :
    Ascii.lowerText (String.ofList (Blank.trimListBy Blank.isUnicodeBlank s.toList)) = s := by
  rw [Blank.trimListBy_eq_self h.head h.last, Ascii.lowerText, String.toList_ofList, h.lowered,
    String.ofList_toList]

theorem Settled.isEmpty_eq_false {s : String} (h : Settled s.toList) : s.isEmpty = false := by
  cases he : s.isEmpty
  · rfl
  · exact absurd (String.toList_eq_nil_iff.2 (String.isEmpty_iff.1 he)) h.ne_nil

/-- The charset parameter as the text of a media type writes it reads as that charset. -/
theorem paramsCharset_name (cs : Charset) :
    paramsCharset (splitParams (" charset=" ++ cs.name).toList) none = .ok (some cs) := by
  have hplain := (Charset.name_plain cs).2
  have hq : '"' ∉ (" charset=" ++ cs.name).toList := by
    rw [String.toList_append]
    exact List.not_mem_append (by decide) fun h => (hplain _ h).2.1 rfl
  have hs : ';' ∉ (" charset=" ++ cs.name).toList := by
    rw [String.toList_append]
    exact List.not_mem_append (by decide) fun h => (hplain _ h).1 rfl
  -- the text is one parameter, whose value is the name
  have hone : splitParams (" charset=" ++ cs.name).toList = [(" charset=" ++ cs.name).toList] := by
    have := splitParams_go_append_plain hq hs []
    rw [List.append_nil] at this
    rw [splitParams, this]
    simp [splitParams.go]
  have hsplit : splitAtFirst '=' (" charset=" ++ cs.name).toList =
      some (" charset".toList, cs.name.toList) := by
    rw [splitAtFirst_eq_some_iff, String.toList_append]
    exact ⟨rfl, by decide⟩
  have hname : Blank.trimListBy Blank.isUnicodeBlank cs.name.toList = cs.name.toList :=
    Blank.trimListBy_eq_self (fun c hc => (hplain c (List.mem_of_mem_head? hc)).2.2.2)
      (fun c hc => (hplain c (List.mem_of_mem_getLast? hc)).2.2.2)
  have hunquote : unquote cs.name.toList = cs.name.toList := by
    unfold unquote
    split
    · next rest h => exact absurd (h ▸ List.mem_cons_self) fun hm => (hplain _ hm).2.1 rfl
    · rfl
  have hkey : Ascii.eqFold (Blank.trim " charset") "charset" = true := by decide
  have hlabel := (Charset.name_plain cs).1
  rw [hone, paramsCharset, paramCharset, hsplit]
  simp only [hkey, if_true, hname, hunquote, hlabel, Bool.false_eq_true, if_false,
    String.ofList_toList, Charset.ofLabel_name, paramsCharset]

/-- **The text of a well-shaped media type reads back as it.** -/
theorem parse_render {m : MediaType} (h : WellShaped m) : parse m.render = .ok m := by
  obtain ⟨type, subtype, charset⟩ := m
  obtain ⟨htype, hsub, hslash, hwild⟩ := h
  simp only at htype hsub hslash hwild
  have hrange : ';' ∉ type.toList ++ '/' :: subtype.toList := by
    simp only [List.mem_append, List.mem_cons, not_or]
    exact ⟨htype.no_semicolon, by decide, hsub.no_semicolon⟩
  -- the media range is trimmed already: it begins as the type and ends as the subtype
  have htrim : Blank.trimListBy Blank.isUnicodeBlank (type.toList ++ '/' :: subtype.toList) =
      type.toList ++ '/' :: subtype.toList := by
    apply Blank.trimListBy_eq_self
    · rw [List.head?_append_of_ne_nil _ htype.ne_nil]; exact htype.head
    · rw [show type.toList ++ '/' :: subtype.toList = (type.toList ++ ['/']) ++ subtype.toList
          by simp, List.getLast?_append_of_ne_nil _ hsub.ne_nil]
      exact hsub.last
  have hhalves : splitAtFirst '/' (type.toList ++ '/' :: subtype.toList) =
      some (type.toList, subtype.toList) := splitAtFirst_eq_some_iff.2 ⟨rfl, hslash⟩
  have hwild' : (type == "*" && subtype != "*") = false := by
    by_cases h : type = "*"
    · simp [h, hwild h]
    · simp [h]
  cases charset with
  | none =>
    have hnone : splitAtFirst ';' (type.toList ++ '/' :: subtype.toList) = none :=
      splitAtFirst_eq_none_iff.2 hrange
    simp only [parse, render, essence, String.toList_append]
    simp [hnone, htrim, hhalves, htype.lowerText_trim, hsub.lowerText_trim, htype.isEmpty_eq_false,
      hsub.isEmpty_eq_false, hwild']
    rfl
  | some cs =>
    have hsome : splitAtFirst ';' (type.toList ++ '/' :: subtype.toList ++
        ("; charset=" ++ cs.name).toList) =
        some (type.toList ++ '/' :: subtype.toList, (" charset=" ++ cs.name).toList) := by
      rw [splitAtFirst_eq_some_iff]
      exact ⟨by simp, hrange⟩
    have hparams := paramsCharset_name cs
    -- `simp` spells the literals out as characters; the two facts are brought to that spelling
    simp [List.append_assoc] at hsome
    simp only [String.toList_append] at hparams
    simp at hparams
    simp only [parse, render, essence, String.toList_append]
    simp [hsome, htrim, hhalves, htype.lowerText_trim, hsub.lowerText_trim, htype.isEmpty_eq_false,
      hsub.isEmpty_eq_false, hwild', hparams]

/-! ## The media types the library hands out -/

/-- The six media types the library names. -/
def constants : List MediaType :=
  [octetStream, json, formUrlencoded, formData, textPlain, textHtml]

/-- The media types the library hands out: read from a text, built from two halves, named as
constants, suggested by a file extension, and any of these with its charset set. -/
inductive Issued : MediaType → Prop
  | parsed {text : String} {m : MediaType} : parse text = .ok m → Issued m
  | ofParts {type subtype : String} {m : MediaType} : ofParts type subtype = .ok m → Issued m
  | constant {m : MediaType} : m ∈ constants → Issued m
  | ofExtension (ext : String) : Issued (ofExtension ext)
  | withCharset {m : MediaType} (cs : Charset) : Issued m → Issued (m.withCharset cs)

/-- The constants and the types of the extension table are well shaped. -/
theorem table_shapeCheck : (constants ++ extensionTable.map Prod.snd).all shapeCheck = true := by
  decide +kernel

/-- The type of an extension is one of the table's, or `application/octet-stream`. -/
theorem ofExtension_mem (ext : String) :
    ofExtension ext ∈ constants ++ extensionTable.map Prod.snd := by
  unfold ofExtension
  simp only
  split
  · next _ m h =>
    exact List.mem_append_right _ (List.mem_map.2 ⟨_, List.mem_of_find?_eq_some h, rfl⟩)
  · exact List.mem_append_left _ (by simp [constants])

/-- Every media type the library hands out is well shaped. -/
theorem wellShaped_of_issued {m : MediaType} (h : Issued m) : WellShaped m := by
  induction h with
  | parsed h => exact wellShaped_of_parse h
  | ofParts h => exact wellShaped_of_parse h
  | constant h =>
    exact wellShaped_of_check (List.all_eq_true.1 table_shapeCheck _ (List.mem_append_left _ h))
  | ofExtension ext =>
    exact wellShaped_of_check (List.all_eq_true.1 table_shapeCheck _ (ofExtension_mem ext))
  | withCharset cs _ ih => exact ih.withCharset cs

-- the extension is read without its dot and the case of its letters
example : ofExtension ".PDF" = ⟨"application", "pdf", none⟩ := by decide

/-- **Every media type the library hands out reads back from its text**: type, subtype and
charset, whichever encoding the charset is. -/
theorem parse_render_of_issued {m : MediaType} (h : Issued m) : parse m.render = .ok m :=
  parse_render (wellShaped_of_issued h)

/-- The type of `.HTM` files with the replacement encoding set reads back from its text
`text/html; charset=replacement`. -/
theorem html_replacement_reparses :
    Issued ((ofExtension ".HTM").withCharset .replacement) ∧
      parse ((ofExtension ".HTM").withCharset .replacement).render =
        .ok ((ofExtension ".HTM").withCharset .replacement) :=
  ⟨.withCharset _ (.ofExtension _), parse_render_of_issued (.withCharset _ (.ofExtension _))⟩

end MediaType

end HttpCall
