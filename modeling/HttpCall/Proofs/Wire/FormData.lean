import Mathlib.Data.List.Infix
import HttpCall.Text.Utf8

/-!
# Reading `multipart/form-data`

A reader of form bodies as RFC 2046 and RFC 7578 frame them, on bytes. A body framed with
the boundary `b` opens with the dash boundary `--b`. Each part starts after a line break
and runs up to the next delimiter, a line break and `--b`: the line break before a
delimiter belongs to the delimiter, not to the part. `--` after a delimiter closes the
body, and what follows it is the epilogue. A part is its header lines up to an empty line,
then its body. A header line is a name, a colon, an optional space and a value, and names
are compared with ASCII case folded. The `Content-Disposition` value is `form-data` and
parameters `; key="value"` whose values hold no quote.

The first occurrence of a separator (`breakOn`) carries every step. It finds the separator
right after a run of bytes in which it does not occur, counting occurrences that run on into
the separator itself (`breakOn_append`). A delimiter begins with the only carriage return
it holds, so no occurrence can run from a part into the delimiter after it
(`not_infix_append_dropLast`).

Main statements: the bytes of parts in which the delimiter does not occur, framed with the
boundary, read back as those parts (`parts_frame`); a part made of a `form-data` head and a
body reads back as its name, file name, type and body (`readPart_formHead`); and such a part
holds no delimiter when its body holds none after the line break in front of it
(`not_delimiter_lines`).
-/

namespace HttpCall.FormData

/-- A line break. -/
def crlf : List UInt8 := [13, 10]

/-- Two hyphens: before the boundary, and after the last delimiter. -/
def dashes : List UInt8 := [45, 45]

/-- The delimiter of a boundary: a line break, two hyphens and the boundary. -/
def delimiter (b : List UInt8) : List UInt8 := crlf ++ dashes ++ b

/-- The bytes before the first occurrence of `sep`, and those after it. -/
def breakOn (sep : List UInt8) : List UInt8 → Option (List UInt8 × List UInt8)
  | [] => if sep = [] then some ([], []) else none
  | x :: xs =>
    if sep <+: x :: xs then some ([], (x :: xs).drop sep.length)
    else (breakOn sep xs).map fun p => (x :: p.1, p.2)

section BreakOn

variable {sep a r : List UInt8}

/-- What `breakOn` splits off surrounds the separator. -/
theorem eq_of_breakOn {xs : List UInt8} (h : breakOn sep xs = some (a, r)) : xs = a ++ sep ++ r := by
  induction xs generalizing a with
  | nil =>
    by_cases hs : sep = []
    · simp only [breakOn, hs, if_true, Option.some.injEq, Prod.mk.injEq] at h
      obtain ⟨rfl, rfl⟩ := h
      simp [hs]
    · simp [breakOn, hs] at h
  | cons x xs ih =>
    by_cases hp : sep <+: x :: xs
    · simp only [breakOn, hp, if_true, Option.some.injEq, Prod.mk.injEq] at h
      obtain ⟨rfl, rfl⟩ := h
      obtain ⟨u, hu⟩ := hp
      rw [← hu]
      simp
    · simp only [breakOn, hp, if_false, Option.map_eq_some_iff, Prod.mk.injEq] at h
      obtain ⟨⟨a', r'⟩, hrest, rfl, rfl⟩ := h
      rw [ih hrest]
      simp

/-- What follows the separator is shorter than what was searched. -/
theorem length_lt_of_breakOn {xs : List UInt8} (h : breakOn sep xs = some (a, r))
    (hne : sep ≠ []) : r.length < xs.length := by
  have hlen := congrArg List.length (eq_of_breakOn h)
  have hsep : 0 < sep.length := List.length_pos_iff.2 hne
  simp only [List.length_append] at hlen
  omega

/-- The separator is found right after a run of bytes in which it does not occur, not even
running on into the separator. -/
theorem breakOn_append (h : ¬ sep <:+: a ++ sep.dropLast) (hne : sep ≠ []) :
    breakOn sep (a ++ sep ++ r) = some (a, r) := by
  induction a with
  | nil =>
    obtain ⟨s, t, rfl⟩ := List.exists_cons_of_ne_nil hne
    simp [breakOn]
  | cons x a ih =>
    -- an occurrence at the front would lie within `x :: a` and the separator's front
    have hnot : ¬ sep <+: x :: (a ++ sep ++ r) := by
      intro hp
      have hfront : (x :: a) ++ sep.dropLast <+: x :: (a ++ sep ++ r) := by
        rw [List.cons_append, List.cons_prefix_cons, List.append_assoc]
        exact ⟨rfl, (List.prefix_append_right_inj a).2
          ((List.dropLast_prefix sep).trans (List.prefix_append sep r))⟩
      have hlen : sep.length ≤ ((x :: a) ++ sep.dropLast).length := by
        simp only [List.length_append, List.length_cons, List.length_dropLast]
        omega
      exact h ((List.prefix_of_prefix_length_le hp hfront hlen).isInfix)
    have hrest : ¬ sep <:+: a ++ sep.dropLast := fun hi =>
      h (hi.trans (List.infix_cons (List.infix_refl _)))
    rw [List.cons_append, List.cons_append, breakOn, if_neg (by simpa using hnot), ih hrest]
    rfl

end BreakOn

section Occurrences

variable {x : UInt8} {t a r : List UInt8}

/-- A separator whose first byte is not in `a` occurs in `a ++ r` only within `r`. -/
theorem not_infix_append_of_not_mem (ha : x ∉ a) (hr : ¬ (x :: t) <:+: r) :
    ¬ (x :: t) <:+: a ++ r := by
  induction a with
  | nil => simpa using hr
  | cons y a ih =>
    intro hi
    rw [List.cons_append, List.infix_cons_iff] at hi
    rcases hi with hp | hi
    · rw [List.cons_prefix_cons] at hp
      exact ha (hp.1 ▸ List.mem_cons_self)
    · exact ih (fun hy => ha (List.mem_cons_of_mem y hy)) hi

/-- A separator that holds its first byte only once cannot occur running on from `a` into
its own front. -/
theorem not_infix_append_dropLast (ht : x ∉ t) (ha : ¬ (x :: t) <:+: a) :
    ¬ (x :: t) <:+: a ++ (x :: t).dropLast := by
  rintro ⟨s, r, h⟩
  rw [List.append_assoc, List.append_eq_append_iff] at h
  rcases h with ⟨as, rfl, h⟩ | ⟨bs, -, h⟩
  · rw [List.append_eq_append_iff] at h
    rcases h with ⟨m, rfl, -⟩ | ⟨m, hD, hdrop⟩
    · exact ha ⟨s, m, by simp⟩
    · -- the occurrence starts in `as`, a suffix of `a`, and goes on into the front `m`
      cases m with
      | nil => exact ha ⟨s, [], by simp [hD]⟩
      | cons z m =>
        cases as with
        | nil =>
          have hlen := congrArg List.length hdrop
          rw [List.nil_append] at hD
          rw [hD] at hlen
          simp at hlen
          omega
        | cons y as =>
          rw [List.cons_append, List.cons.injEq] at hD
          have hzt : z ∈ t := by simp [hD.2]
          have hne : t ≠ [] := List.ne_nil_of_mem hzt
          rw [List.dropLast_cons_of_ne_nil hne, List.cons_append, List.cons.injEq] at hdrop
          exact ht (hdrop.1 ▸ hzt)
  · have hlen := congrArg List.length h
    simp at hlen
    omega

end Occurrences

set_option linter.unusedVariables false in
/-- The parts after a dash boundary or a delimiter: `--` closes the body, and a line break
starts a part that runs up to the next delimiter `delim`. -/
def partsAfter (delim : List UInt8) (rest : List UInt8) : Option (List (List UInt8)) :=
  if dashes <+: rest then some []
  else if hbreak : crlf <+: rest then
    match hb : breakOn delim (rest.drop 2) with
    | none => none
    | some (part, after) => (partsAfter delim after).map (part :: ·)
  else none
termination_by rest.length
decreasing_by
  have hlen := congrArg List.length (eq_of_breakOn hb)
  have hbreak := hbreak.length_le
  simp only [List.length_append, List.length_drop, crlf, List.length_cons,
    List.length_nil] at hlen hbreak
  omega

/-- The parts of a body framed with the boundary `b`, which opens with `--b`. -/
def parts (b data : List UInt8) : Option (List (List UInt8)) :=
  if dashes ++ b <+: data then partsAfter (delimiter b) (data.drop (b.length + 2)) else none

/-- The bytes of parts framed with the boundary `b`: the dash boundary, each part after a
line break and before a delimiter, and `--` with the epilogue. -/
def frame (b : List UInt8) (ps : List (List UInt8)) (epilogue : List UInt8) : List UInt8 :=
  dashes ++ b ++ (ps.flatMap fun p => crlf ++ p ++ delimiter b) ++ dashes ++ epilogue

section Frame

variable {b epilogue : List UInt8}

theorem partsAfter_frame (ps : List (List UInt8))
    (hps : ∀ p ∈ ps, ¬ delimiter b <:+: p ++ (delimiter b).dropLast) :
    partsAfter (delimiter b) ((ps.flatMap fun p => crlf ++ p ++ delimiter b) ++ dashes ++
      epilogue) = some ps := by
  induction ps with
  | nil =>
    rw [partsAfter, if_pos (by simp [List.prefix_append])]
  | cons p ps ih =>
    have hnext : ¬ dashes <+: (crlf ++ p ++ delimiter b) ++
        ((ps.flatMap fun p => crlf ++ p ++ delimiter b) ++ dashes ++ epilogue) := by
      simp [dashes, crlf]
    have hbreak : crlf <+: (crlf ++ p ++ delimiter b) ++
        ((ps.flatMap fun p => crlf ++ p ++ delimiter b) ++ dashes ++ epilogue) := by
      simp only [List.append_assoc]
      exact List.prefix_append _ _
    -- the delimiter after `p` is the first one
    have hfound : breakOn (delimiter b) (((crlf ++ p ++ delimiter b) ++
        ((ps.flatMap fun p => crlf ++ p ++ delimiter b) ++ dashes ++ epilogue)).drop 2) =
        some (p, (ps.flatMap fun p => crlf ++ p ++ delimiter b) ++ dashes ++ epilogue) := by
      have hdrop : ((crlf ++ p ++ delimiter b) ++
          ((ps.flatMap fun p => crlf ++ p ++ delimiter b) ++ dashes ++ epilogue)).drop 2 =
          p ++ delimiter b ++
            ((ps.flatMap fun p => crlf ++ p ++ delimiter b) ++ dashes ++ epilogue) := by
        simp [crlf]
      rw [hdrop]
      exact breakOn_append (hps p List.mem_cons_self) (by simp [delimiter, crlf])
    have hsplit : ((p :: ps).flatMap fun p => crlf ++ p ++ delimiter b) ++ dashes ++ epilogue =
        (crlf ++ p ++ delimiter b) ++
          ((ps.flatMap fun p => crlf ++ p ++ delimiter b) ++ dashes ++ epilogue) := by
      simp
    rw [hsplit, partsAfter, if_neg hnext, dif_pos hbreak]
    split
    · rename_i hnone
      rw [hfound] at hnone
      cases hnone
    · rename_i part after hsome
      rw [hfound, Option.some.injEq, Prod.mk.injEq] at hsome
      obtain ⟨rfl, rfl⟩ := hsome
      rw [ih fun q hq => hps q (List.mem_cons_of_mem p hq)]
      rfl

/-- **Framed parts read back.** Parts in which the delimiter does not occur, not even
running on into the delimiter that follows, are read back from their frame. -/
theorem parts_frame (ps : List (List UInt8))
    (hps : ∀ p ∈ ps, ¬ delimiter b <:+: p ++ (delimiter b).dropLast) :
    parts b (frame b ps epilogue) = some ps := by
  have hopen : dashes ++ b <+: frame b ps epilogue := by
    simp only [frame, List.append_assoc]
    exact List.prefix_append _ _
  have hrest : (frame b ps epilogue).drop (b.length + 2) =
      (ps.flatMap fun p => crlf ++ p ++ delimiter b) ++ dashes ++ epilogue := by
    simp [frame, dashes, List.append_assoc]
  rw [parts, if_pos hopen, hrest, partsAfter_frame ps hps]

theorem frame_cons (p : List UInt8) (ps : List (List UInt8)) :
    frame b (p :: ps) epilogue = dashes ++ b ++ crlf ++ p ++ crlf ++ frame b ps epilogue := by
  simp [frame, delimiter]

end Frame

set_option linter.unusedVariables false in
/-- The header lines of a part up to the empty line, and the body after it. -/
def headerLines (s : List UInt8) : Option (List (List UInt8) × List UInt8) :=
  if crlf <+: s then some ([], s.drop 2)
  else
    match hb : breakOn crlf s with
    | none => none
    | some (line, rest) => (headerLines rest).map fun p => (line :: p.1, p.2)
termination_by s.length
decreasing_by exact length_lt_of_breakOn hb (by simp [crlf])

/-- A header line: its name, a colon, an optional space and its value. -/
def field (line : List UInt8) : Option (List UInt8 × List UInt8) :=
  (breakOn [58] line).map fun p => (p.1, if [32] <+: p.2 then p.2.drop 1 else p.2)

/-- The byte with an ASCII capital made small. -/
def lowerByte (x : UInt8) : UInt8 :=
  if 65 ≤ x ∧ x ≤ 90 then x + 32 else x

/-- Are two names equal with ASCII case folded? -/
def sameName (a b : List UInt8) : Bool :=
  a.map lowerByte == b.map lowerByte

/-- The value of the first entry named `name`, case folded. -/
def lookup? (entries : List (List UInt8 × List UInt8)) (name : String) : Option (List UInt8) :=
  (entries.find? fun e => sameName e.1 (Utf8.encode name)).map (·.2)

set_option linter.unusedVariables false in
/-- The parameters `; key="value"` that make up the rest of a header value. -/
def params (s : List UInt8) : Option (List (List UInt8 × List UInt8)) :=
  if s = [] then some []
  else if hsep : [59, 32] <+: s then
    match hk : breakOn [61, 34] (s.drop 2) with
    | none => none
    | some (key, rest) =>
      match hv : breakOn [34] rest with
      | none => none
      | some (value, after) => (params after).map ((key, value) :: ·)
  else none
termination_by s.length
decreasing_by
  have hrest := length_lt_of_breakOn hk (by simp)
  have hafter := length_lt_of_breakOn hv (by simp)
  have hsep := hsep.length_le
  simp only [List.length_drop, List.length_cons, List.length_nil] at hrest hsep
  omega

/-- What a reader finds in one part of a form: the name and the file name of its
`Content-Disposition`, its `Content-Type` value if it has one, and its body. -/
structure ReadPart where
  name : List UInt8
  fileName : Option (List UInt8)
  contentType : Option (List UInt8)
  body : List UInt8
  deriving DecidableEq, Repr

/-- Read one part of a form. -/
def readPart (s : List UInt8) : Option ReadPart := do
  let (lines, body) ← headerLines s
  let fields ← lines.mapM field
  let disposition ← lookup? fields "Content-Disposition"
  if Utf8.encode "form-data" <+: disposition then
    let ps ← params (disposition.drop (Utf8.encode "form-data").length)
    let name ← lookup? ps "name"
    pure ⟨name, lookup? ps "filename", lookup? fields "Content-Type", body⟩
  else none

section Heads

variable {body : List UInt8}

/-- Header lines without carriage returns, each ended by a line break, then an empty line,
read back as those lines and the body after them. -/
theorem headerLines_frame (ls : List (List UInt8)) (hls : ∀ l ∈ ls, l ≠ [] ∧ 13 ∉ l) :
    headerLines ((ls.flatMap fun l => l ++ crlf) ++ crlf ++ body) = some (ls, body) := by
  induction ls with
  | nil =>
    rw [headerLines, if_pos (by simp [List.prefix_append])]
    simp [crlf]
  | cons l ls ih =>
    obtain ⟨hne, hcr⟩ := hls l List.mem_cons_self
    obtain ⟨y, l', rfl⟩ := List.exists_cons_of_ne_nil hne
    have hy : y ≠ 13 := fun h => hcr (h ▸ List.mem_cons_self)
    have hnot : ¬ crlf <+: (y :: l') ++ crlf ++ ((ls.flatMap fun l => l ++ crlf) ++ crlf ++ body) := by
      simp [crlf, Ne.symm hy]
    -- the line ends at its own line break, as it holds no carriage return
    have hline : breakOn crlf ((y :: l') ++ crlf ++ ((ls.flatMap fun l => l ++ crlf) ++ crlf ++ body)) =
        some (y :: l', (ls.flatMap fun l => l ++ crlf) ++ crlf ++ body) :=
      breakOn_append (not_infix_append_of_not_mem hcr fun h => by simpa [crlf] using h.length_le)
        (by simp [crlf])
    have hsplit : (((y :: l') :: ls).flatMap fun l => l ++ crlf) ++ crlf ++ body =
        (y :: l') ++ crlf ++ ((ls.flatMap fun l => l ++ crlf) ++ crlf ++ body) := by
      simp
    rw [hsplit, headerLines, if_neg hnot]
    split
    · rename_i hnone
      rw [hline] at hnone
      cases hnone
    · rename_i line rest hsome
      rw [hline, Option.some.injEq, Prod.mk.injEq] at hsome
      obtain ⟨rfl, rfl⟩ := hsome
      rw [ih fun l hl => hls l (List.mem_cons_of_mem _ hl)]
      rfl

/-- A header line written as name, colon, space and value is read back as that name and
value, for a name without a colon. -/
theorem field_line {name value : List UInt8} (hname : 58 ∉ name) :
    field (name ++ [58, 32] ++ value) = some (name, value) := by
  have hsplit : breakOn [58] (name ++ [58] ++ (32 :: value)) = some (name, 32 :: value) :=
    breakOn_append (not_infix_append_of_not_mem hname (by simp)) (by simp)
  rw [show name ++ [58, 32] ++ value = name ++ [58] ++ (32 :: value) by simp, field, hsplit]
  simp

/-- Parameters as a writer puts them: `; key="value"` each. -/
def paramBytes (kvs : List (List UInt8 × List UInt8)) : List UInt8 :=
  kvs.flatMap fun kv => [59, 32] ++ kv.1 ++ [61, 34] ++ kv.2 ++ [34]

/-- Parameters written as `; key="value"` are read back, for keys in which `="` does not
occur, not even running on into it, and values without a quote. -/
theorem params_frame (kvs : List (List UInt8 × List UInt8))
    (hkvs : ∀ kv ∈ kvs, ¬ [61, 34] <:+: kv.1 ++ [61] ∧ 34 ∉ kv.2) :
    params (paramBytes kvs) = some kvs := by
  induction kvs with
  | nil =>
    rw [paramBytes, params]
    simp
  | cons kv kvs ih =>
    obtain ⟨hkey, hvalue⟩ := hkvs kv List.mem_cons_self
    have hk : breakOn [61, 34] (List.drop 2 ([59, 32] ++ (kv.1 ++ [61, 34] ++
        (kv.2 ++ [34] ++ paramBytes kvs)))) = some (kv.1, kv.2 ++ [34] ++ paramBytes kvs) :=
      breakOn_append hkey (by simp)
    have hv : breakOn [34] (kv.2 ++ [34] ++ paramBytes kvs) = some (kv.2, paramBytes kvs) :=
      breakOn_append (not_infix_append_of_not_mem hvalue (by simp)) (by simp)
    have hsplit : paramBytes (kv :: kvs) =
        [59, 32] ++ (kv.1 ++ [61, 34] ++ (kv.2 ++ [34] ++ paramBytes kvs)) := by
      simp [paramBytes]
    rw [hsplit, params, if_neg (by simp), dif_pos (List.prefix_append _ _)]
    split
    · rename_i hnone
      rw [hk] at hnone
      cases hnone
    · rename_i key rest hsome
      rw [hk, Option.some.injEq, Prod.mk.injEq] at hsome
      obtain ⟨rfl, rfl⟩ := hsome
      split
      · rename_i hnone
        rw [hv] at hnone
        cases hnone
      · rename_i value after hsome
        rw [hv, Option.some.injEq, Prod.mk.injEq] at hsome
        obtain ⟨rfl, rfl⟩ := hsome
        rw [ih fun kv hkv => hkvs kv (List.mem_cons_of_mem _ hkv)]
        rfl

theorem lookup?_cons_of_sameName {name : String} {key value : List UInt8}
    {es : List (List UInt8 × List UInt8)} (h : sameName key (Utf8.encode name) = true) :
    lookup? ((key, value) :: es) name = some value := by
  simp [lookup?, h]

theorem lookup?_cons_of_not_sameName {name : String} {key value : List UInt8}
    {es : List (List UInt8 × List UInt8)} (h : sameName key (Utf8.encode name) = false) :
    lookup? ((key, value) :: es) name = lookup? es name := by
  simp [lookup?, h]

end Heads

/-- The header lines of a form part as a writer puts them: `Content-Disposition: form-data`
with the parameters `kvs`, and a `Content-Type` line when there is a type `ct?`. -/
def formHead (kvs : List (List UInt8 × List UInt8)) (ct? : Option (List UInt8)) :
    List (List UInt8) :=
  (Utf8.encode "Content-Disposition" ++ [58, 32] ++ Utf8.encode "form-data" ++ paramBytes kvs) ::
    (ct?.map fun v => Utf8.encode "Content-Type" ++ [58, 32] ++ v).toList

section FormHead

variable {kvs : List (List UInt8 × List UInt8)} {ct? : Option (List UInt8)} {body : List UInt8}

/-- The lines of a form head hold no carriage return and begin with `C`. -/
theorem formHead_lines (hkvs : ∀ kv ∈ kvs, 13 ∉ kv.1 ∧ 13 ∉ kv.2) (hct : ∀ v ∈ ct?, 13 ∉ v) :
    ∀ l ∈ formHead kvs ct?, 13 ∉ l ∧ l.head? = some 67 := by
  intro l hl
  simp only [formHead, List.mem_cons, Option.mem_toList, Option.map_eq_some_iff] at hl
  rcases hl with rfl | ⟨v, hv, rfl⟩
  · refine ⟨fun h => ?_, rfl⟩
    simp only [List.mem_append, paramBytes, List.mem_flatMap] at h
    rcases h with ((h | h) | h) | ⟨kv, hkv, h⟩
    · exact absurd h (by decide)
    · exact absurd h (by decide)
    · exact absurd h (by decide)
    · simp [(hkvs kv hkv).1, (hkvs kv hkv).2] at h
  · refine ⟨fun h => ?_, rfl⟩
    simp only [List.mem_append] at h
    rcases h with (h | h) | h
    · exact absurd h (by decide)
    · exact absurd h (by decide)
    · exact hct v hv h

/-- A `form-data` head is read as its lines up to the empty line, when no line holds a carriage
return. -/
theorem headerLines_formHead (hkvs : ∀ kv ∈ kvs, 13 ∉ kv.1 ∧ 13 ∉ kv.2)
    (hct : ∀ v ∈ ct?, 13 ∉ v) :
    headerLines (((formHead kvs ct?).flatMap fun l => l ++ crlf) ++ crlf ++ body) =
      some (formHead kvs ct?, body) := by
  have hlines := formHead_lines hkvs hct
  refine headerLines_frame _ fun l hl => ⟨fun h => ?_, (hlines l hl).1⟩
  have hc := (hlines l hl).2
  rw [h] at hc
  cases hc

/-- Each line of a `form-data` head splits at its colon into its name and value. -/
theorem mapM_field_formHead (kvs : List (List UInt8 × List UInt8)) (ct? : Option (List UInt8)) :
    (formHead kvs ct?).mapM field =
      some ((Utf8.encode "Content-Disposition", Utf8.encode "form-data" ++ paramBytes kvs) ::
        (ct?.map fun v => (Utf8.encode "Content-Type", v)).toList) := by
  have hdisp : field (Utf8.encode "Content-Disposition" ++ [58, 32] ++ Utf8.encode "form-data" ++
      paramBytes kvs) =
      some (Utf8.encode "Content-Disposition", Utf8.encode "form-data" ++ paramBytes kvs) := by
    rw [List.append_assoc (Utf8.encode "Content-Disposition" ++ [58, 32])]
    exact field_line (by decide)
  cases ct? with
  | none =>
    simp only [formHead, Option.map_none, Option.toList_none, List.mapM_cons, List.mapM_nil]
    rw [hdisp]
    rfl
  | some v =>
    have htype : field (Utf8.encode "Content-Type" ++ [58, 32] ++ v) =
        some (Utf8.encode "Content-Type", v) := field_line (by decide)
    simp only [formHead, Option.map_some, Option.toList_some, List.mapM_cons, List.mapM_nil]
    rw [hdisp, htype]
    rfl

/-- **A form part reads back.** A head written with parameters whose keys and values the
reader cannot mistake, and a type without a carriage return, reads back as the `name` and
`filename` parameters, the type and the body. -/
theorem readPart_formHead
    (hkvs : ∀ kv ∈ kvs, (¬ [61, 34] <:+: kv.1 ++ [61] ∧ 34 ∉ kv.2) ∧ 13 ∉ kv.1 ∧ 13 ∉ kv.2)
    (hct : ∀ v ∈ ct?, 13 ∉ v) :
    readPart (((formHead kvs ct?).flatMap fun l => l ++ crlf) ++ crlf ++ body) =
      (lookup? kvs "name").map fun name => ⟨name, lookup? kvs "filename", ct?, body⟩ := by
  -- the names of the two fields are told apart with case folded
  have hdispValue : lookup? ((Utf8.encode "Content-Disposition", Utf8.encode "form-data" ++ paramBytes kvs) ::
        (ct?.map fun v => (Utf8.encode "Content-Type", v)).toList) "Content-Disposition" =
      some (Utf8.encode "form-data" ++ paramBytes kvs) :=
    lookup?_cons_of_sameName (by decide)
  have htypeValue : lookup? ((Utf8.encode "Content-Disposition", Utf8.encode "form-data" ++ paramBytes kvs) ::
        (ct?.map fun v => (Utf8.encode "Content-Type", v)).toList) "Content-Type" = ct? := by
    rw [lookup?_cons_of_not_sameName (by decide)]
    cases ct? with
    | none => rfl
    | some v => exact lookup?_cons_of_sameName (by decide)
  have hparams : params ((Utf8.encode "form-data" ++ paramBytes kvs).drop
        (Utf8.encode "form-data").length) = some kvs := by
    rw [List.drop_left]
    exact params_frame kvs fun kv hkv => (hkvs kv hkv).1
  unfold readPart
  rw [headerLines_formHead (fun kv hkv => (hkvs kv hkv).2) hct]
  simp only [Option.bind_apply, Option.bind_some, mapM_field_formHead, hdispValue, htypeValue,
    List.prefix_append, if_true, hparams]
  cases lookup? kvs "name" <;> rfl

/-- What is left of a part from any of its header lines on, with the delimiter after it,
holds no delimiter and does not begin with a hyphen, when the lines hold no carriage return
and begin with no hyphen. -/
theorem no_delimiter_no_dash_lines {b : List UInt8} (hb : 13 ∉ b)
    (hbody : ¬ delimiter b <:+: crlf ++ body) (ls : List (List UInt8))
    (hls : ∀ l ∈ ls, 13 ∉ l ∧ ∀ y ∈ l.head?, y ≠ 45) :
    ¬ delimiter b <:+: ((ls.flatMap fun l => l ++ crlf) ++ crlf ++ body) ++ (delimiter b).dropLast ∧
      ∀ y ∈ (((ls.flatMap fun l => l ++ crlf) ++ crlf ++ body) ++ (delimiter b).dropLast).head?,
        y ≠ 45 := by
  have hD : delimiter b = 13 :: (10 :: 45 :: 45 :: b) := rfl
  have htail : 13 ∉ 10 :: 45 :: 45 :: b := by simp [hb]
  induction ls with
  | nil =>
    simp only [List.flatMap_nil, List.nil_append]
    refine ⟨?_, by simp [crlf]⟩
    rw [hD] at hbody ⊢
    exact not_infix_append_dropLast htail hbody
  | cons l ls ih =>
    obtain ⟨hrest, hhead⟩ := ih fun l' hl' => hls l' (List.mem_cons_of_mem l hl')
    obtain ⟨hcr, hdash⟩ := hls l List.mem_cons_self
    have hsplit : (((l :: ls).flatMap fun l => l ++ crlf) ++ crlf ++ body) ++
        (delimiter b).dropLast =
        l ++ (13 :: 10 :: (((ls.flatMap fun l => l ++ crlf) ++ crlf ++ body) ++
          (delimiter b).dropLast)) := by
      simp [crlf]
    rw [hsplit]
    refine ⟨?_, ?_⟩
    · rw [hD] at hrest hhead ⊢
      refine not_infix_append_of_not_mem hcr fun hi => ?_
      rw [List.infix_cons_iff] at hi
      rcases hi with hp | hi
      · -- a delimiter here would make what is left begin with a hyphen
        rw [List.cons_prefix_cons, List.cons_prefix_cons] at hp
        obtain ⟨u, hu⟩ := hp.2.2
        have := hhead 45
        rw [← hu] at this
        exact this rfl rfl
      · rw [List.infix_cons_iff, List.cons_prefix_cons] at hi
        rcases hi with hp | hi
        · exact absurd hp.1 (by decide)
        · exact hrest hi
    · cases l with
      | nil => simp
      | cons y l => exact hdash

/-- A part made of header lines without a carriage return that do not begin with a hyphen,
an empty line, and a body that holds no delimiter once the line break in front of it is
counted, holds no delimiter, not even running on into the delimiter after it. -/
theorem not_delimiter_lines {b : List UInt8} (hb : 13 ∉ b)
    (hbody : ¬ delimiter b <:+: crlf ++ body) (ls : List (List UInt8))
    (hls : ∀ l ∈ ls, 13 ∉ l ∧ ∀ y ∈ l.head?, y ≠ 45) :
    ¬ delimiter b <:+: ((ls.flatMap fun l => l ++ crlf) ++ crlf ++ body) ++ (delimiter b).dropLast :=
  (no_delimiter_no_dash_lines hb hbody ls hls).1

end FormHead

/-- Read a form body framed with the boundary `b`. -/
def read (b data : List UInt8) : Option (List ReadPart) := do
  let ps ← parts b data
  ps.mapM readPart

end HttpCall.FormData
