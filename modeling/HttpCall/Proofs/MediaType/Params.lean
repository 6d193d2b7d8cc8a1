import HttpCall.MediaType.Basic

/-!
# Parameter lists of a media type

The parameters after a media range are split on the semicolons that stand outside double
quotes, where a backslash inside quotes escapes the character after it. This module says
what that split does.

* `freeChars` lists the characters of a text that stand outside quotes, by the same quoting
  rule written as a scan over the text: these are the only places a split may happen.
* `quoteValue` writes a value as a quoted string, each backslash and quote escaped.

Main statement: the pieces joined with `;` give the text back, no piece holds a semicolon
outside quotes, a quoted value ends the first piece exactly where its closing quote stands,
and unquoting a quoted value gives the value.
-/

namespace HttpCall.MediaType

/-- The characters of a text that stand outside double quotes and escapes, when the scan
starts inside quotes (`inQuotes`) or right after a backslash (`escaped`). A quote that is not
escaped opens or closes a quoted section and stands in neither. -/
def freeChars : List Char → Bool → Bool → List Char
  | [], _, _ => []
  | c :: rest, inQuotes, escaped =>
    if escaped then freeChars rest inQuotes false
    else if inQuotes then
      if c = '\\' then freeChars rest true true
      else if c = '"' then freeChars rest false false
      else freeChars rest true false
    else if c = '"' then freeChars rest true false
    else c :: freeChars rest false false

/-- The body of a quoted string: each backslash and quote gets a backslash before it. -/
def escapeQuoted : List Char → List Char
  | [] => []
  | c :: rest =>
    if c = '\\' ∨ c = '"' then '\\' :: c :: escapeQuoted rest else c :: escapeQuoted rest

/-- A value written as a quoted string. -/
def quoteValue (v : List Char) : List Char :=
  '"' :: escapeQuoted v ++ ['"']

/-- The split keeps its finished pieces and the piece it is building apart from what it
reads next. -/
theorem splitParams_go_acc (cs : List Char) (inQuotes escaped : Bool) (cur : List Char)
    (done : List (List Char)) :
    splitParams.go cs inQuotes escaped cur done =
      done.reverse ++ (splitParams.go cs inQuotes escaped [] []).modifyHead (cur.reverse ++ ·) := by
  induction cs generalizing inQuotes escaped cur done with
  | nil => simp [splitParams.go]
  | cons c rest ih =>
    simp only [splitParams.go]
    split
    · rw [ih, ih _ _ [c]]; simp [List.modifyHead_modifyHead, Function.comp_def]
    split
    · rw [ih, ih _ _ [c]]; simp [List.modifyHead_modifyHead, Function.comp_def]
    split
    · rw [ih, ih _ _ [c]]; simp [List.modifyHead_modifyHead, Function.comp_def]
    split
    · simp only [List.reverse_nil]
      rw [ih _ _ [] (cur.reverse :: done), ih _ _ [] [[]]]; simp
    · rw [ih, ih _ _ [c]]; simp [List.modifyHead_modifyHead, Function.comp_def]

/-- The split always yields at least one piece. -/
theorem splitParams_go_ne_nil (cs : List Char) (inQuotes escaped : Bool) (cur : List Char)
    (done : List (List Char)) : splitParams.go cs inQuotes escaped cur done ≠ [] := by
  induction cs generalizing inQuotes escaped cur done with
  | nil => simp [splitParams.go]
  | cons c rest ih =>
    simp only [splitParams.go]
    repeat' split
    all_goals exact ih _ _ _ _

/-- One character read by the split: it joins the first piece, or, as a semicolon outside
quotes, starts a new one. -/
theorem splitParams_go_cons (c : Char) (rest : List Char) (inQuotes escaped : Bool) :
    splitParams.go (c :: rest) inQuotes escaped [] [] =
      if escaped then (splitParams.go rest inQuotes false [] []).modifyHead (c :: ·)
      else if c = '\\' ∧ inQuotes then
        (splitParams.go rest inQuotes true [] []).modifyHead (c :: ·)
      else if c = '"' then (splitParams.go rest (!inQuotes) false [] []).modifyHead (c :: ·)
      else if c = ';' ∧ ¬inQuotes then [] :: splitParams.go rest inQuotes false [] []
      else (splitParams.go rest inQuotes false [] []).modifyHead (c :: ·) := by
  simp only [splitParams.go]
  split
  · rw [splitParams_go_acc]; simp
  split
  · rw [splitParams_go_acc]; simp
  split
  · rw [splitParams_go_acc]; simp
  split
  · rw [splitParams_go_acc]; cases splitParams.go rest inQuotes false [] [] <;> rfl
  · rw [splitParams_go_acc]; simp

/-- A character put before the first piece comes first in the joined text. -/
theorem intercalate_modifyHead_cons (sep : List Char) (c : Char) :
    ∀ {pieces : List (List Char)}, pieces ≠ [] →
      sep.intercalate (pieces.modifyHead (c :: ·)) = c :: sep.intercalate pieces
  | [], h => absurd rfl h
  | [_], _ => by simp
  | _ :: _ :: _, _ => by simp [List.intercalate_cons_cons]

/-- An empty first piece leaves only the separator before the rest. -/
theorem intercalate_nil_cons (sep : List Char) :
    ∀ {pieces : List (List Char)}, pieces ≠ [] →
      sep.intercalate ([] :: pieces) = sep ++ sep.intercalate pieces
  | [], h => absurd rfl h
  | _ :: _, _ => by simp [List.intercalate_cons_cons]

/-- The pieces of a split joined with semicolons give the text back, from any scan state. -/
theorem intercalate_splitParams_go (cs : List Char) (inQuotes escaped : Bool) :
    [';'].intercalate (splitParams.go cs inQuotes escaped [] []) = cs := by
  induction cs generalizing inQuotes escaped with
  | nil => simp [splitParams.go]
  | cons c rest ih =>
    rw [splitParams_go_cons]
    split
    · rw [intercalate_modifyHead_cons _ _ (splitParams_go_ne_nil _ _ _ _ _), ih]
    split
    · rw [intercalate_modifyHead_cons _ _ (splitParams_go_ne_nil _ _ _ _ _), ih]
    split
    · rw [intercalate_modifyHead_cons _ _ (splitParams_go_ne_nil _ _ _ _ _), ih]
    split
    · rename_i h
      rw [intercalate_nil_cons _ (splitParams_go_ne_nil _ _ _ _ _), ih, h.1]; rfl
    · rw [intercalate_modifyHead_cons _ _ (splitParams_go_ne_nil _ _ _ _ _), ih]

/-- No piece holds a semicolon outside quotes: the first piece scanned from the state
`inQuotes`, `escaped`, each later one from outside quotes. -/
def PiecesSeparated (pieces : List (List Char)) (inQuotes escaped : Bool) : Prop :=
  (∀ p ∈ pieces.head?, ';' ∉ freeChars p inQuotes escaped) ∧
    ∀ p ∈ pieces.tail, ';' ∉ freeChars p false false

/-- A character that the scan passes without a free semicolon keeps the pieces separated
when it joins the first piece. -/
theorem piecesSeparated_modifyHead {c : Char} {pieces : List (List Char)}
    {inQuotes escaped inQuotes' escaped' : Bool}
    (step : ∀ p, ';' ∉ freeChars p inQuotes' escaped' → ';' ∉ freeChars (c :: p) inQuotes escaped)
    (h : PiecesSeparated pieces inQuotes' escaped') (hne : pieces ≠ []) :
    PiecesSeparated (pieces.modifyHead (c :: ·)) inQuotes escaped := by
  obtain ⟨p, ps, rfl⟩ := List.exists_cons_of_ne_nil hne
  exact ⟨fun x hx => by
    simp only [List.modifyHead_cons, List.head?_cons, Option.mem_def, Option.some.injEq] at hx
    subst hx
    exact step p (h.1 p rfl), h.2⟩

/-- The pieces of a split from any scan state hold no semicolon outside quotes. -/
theorem piecesSeparated_splitParams_go (cs : List Char) (inQuotes escaped : Bool) :
    PiecesSeparated (splitParams.go cs inQuotes escaped [] []) inQuotes escaped := by
  induction cs generalizing inQuotes escaped with
  | nil => simp [splitParams.go, PiecesSeparated, freeChars]
  | cons c rest ih =>
    rw [splitParams_go_cons]
    split
    · rename_i he
      refine piecesSeparated_modifyHead (fun p hp => ?_) (ih _ _) (splitParams_go_ne_nil _ _ _ _ _)
      simpa [freeChars, he] using hp
    split
    · rename_i he hc
      refine piecesSeparated_modifyHead (fun p hp => ?_) (ih _ _) (splitParams_go_ne_nil _ _ _ _ _)
      simpa [freeChars, he, hc.1, hc.2] using hp
    split
    · rename_i he hb hc
      refine piecesSeparated_modifyHead (fun p hp => ?_) (ih _ _) (splitParams_go_ne_nil _ _ _ _ _)
      cases inQuotes <;> simpa [freeChars, he, hc] using hp
    split
    · rename_i he hb hq hs
      obtain ⟨rfl, hq'⟩ := hs
      have hrest := ih false false
      simp only [Bool.not_eq_true] at hq'
      subst hq'
      obtain ⟨p, ps, hL⟩ := List.exists_cons_of_ne_nil (splitParams_go_ne_nil rest false false [] [])
      rw [hL] at hrest ⊢
      refine ⟨fun x hx => ?_, fun x hx => ?_⟩
      · simp only [List.head?_cons, Option.mem_def, Option.some.injEq] at hx
        subst hx; simp [freeChars]
      · simp only [List.tail_cons, List.mem_cons] at hx
        rcases hx with rfl | hx
        · exact hrest.1 x rfl
        · exact hrest.2 x hx
    · rename_i he hb hq hs
      refine piecesSeparated_modifyHead (fun p hp => ?_) (ih _ _) (splitParams_go_ne_nil _ _ _ _ _)
      cases inQuotes
      · have hc : ';' ≠ c := fun h => hs ⟨h.symm, by simp⟩
        simp [freeChars, he, hq, hc, hp]
      · have hc : c ≠ '\\' := fun h => hb ⟨h, rfl⟩
        simpa [freeChars, he, hq, hc] using hp

/-- A text with no quote and no semicolon, read outside quotes, stays in the first piece. -/
theorem splitParams_go_append_plain {k : List Char} (hq : '"' ∉ k) (hs : ';' ∉ k)
    (rest : List Char) :
    splitParams.go (k ++ rest) false false [] [] =
      (splitParams.go rest false false [] []).modifyHead (k ++ ·) := by
  induction k with
  | nil =>
    simp only [List.nil_append]
    cases splitParams.go rest false false [] [] <;> rfl
  | cons c k ih =>
    have hcq : c ≠ '"' := fun h => hq (h ▸ List.mem_cons_self)
    have hcs : c ≠ ';' := fun h => hs (h ▸ List.mem_cons_self)
    rw [List.cons_append, splitParams_go_cons,
      ih (fun h => hq (List.mem_cons_of_mem _ h)) (fun h => hs (List.mem_cons_of_mem _ h))]
    simp [hcq, hcs, List.modifyHead_modifyHead, Function.comp_def]

/-- The escaped body of a quoted string, read inside quotes, stays in the first piece and
leaves the scan inside quotes. -/
theorem splitParams_go_escapeQuoted (v rest : List Char) :
    splitParams.go (escapeQuoted v ++ rest) true false [] [] =
      (splitParams.go rest true false [] []).modifyHead (escapeQuoted v ++ ·) := by
  induction v with
  | nil =>
    simp only [escapeQuoted, List.nil_append]
    cases splitParams.go rest true false [] [] <;> rfl
  | cons c v ih =>
    by_cases hc : c = '\\' ∨ c = '"'
    · rw [escapeQuoted, if_pos hc, List.cons_append, List.cons_append, splitParams_go_cons]
      simp only [Bool.false_eq_true, if_false, and_true, if_true]
      rw [splitParams_go_cons, if_pos rfl, ih]
      simp [List.modifyHead_modifyHead, Function.comp_def]
    · have hb : c ≠ '\\' := fun h => hc (Or.inl h)
      have hq : c ≠ '"' := fun h => hc (Or.inr h)
      rw [escapeQuoted, if_neg hc, List.cons_append, splitParams_go_cons, ih]
      simp [hb, hq, List.modifyHead_modifyHead, Function.comp_def]

/-- A parameter whose value is a quoted string is one whole piece, whatever the value holds. -/
theorem splitParams_quoted_param {k : List Char} (hq : '"' ∉ k) (hs : ';' ∉ k)
    (v rest : List Char) :
    splitParams (k ++ '=' :: quoteValue v ++ ';' :: rest) =
      (k ++ '=' :: quoteValue v) :: splitParams rest := by
  have hq' : '"' ∉ k ++ ['='] := by simp [hq]
  have hs' : ';' ∉ k ++ ['='] := by simp [hs]
  have hsplit : k ++ '=' :: quoteValue v ++ ';' :: rest =
      (k ++ ['=']) ++ ('"' :: (escapeQuoted v ++ '"' :: ';' :: rest)) := by
    simp [quoteValue]
  have hopen : splitParams.go ('"' :: (escapeQuoted v ++ '"' :: ';' :: rest)) false false [] [] =
      (splitParams.go (escapeQuoted v ++ '"' :: ';' :: rest) true false [] []).modifyHead
        ('"' :: ·) := by
    rw [splitParams_go_cons]; simp
  have hclose : splitParams.go ('"' :: ';' :: rest) true false [] [] =
      (splitParams.go (';' :: rest) false false [] []).modifyHead ('"' :: ·) := by
    rw [splitParams_go_cons]; simp
  have hsemi : splitParams.go (';' :: rest) false false [] [] =
      [] :: splitParams.go rest false false [] [] := by
    rw [splitParams_go_cons]; simp
  rw [splitParams, hsplit, splitParams_go_append_plain hq' hs', hopen, splitParams_go_escapeQuoted,
    hclose, hsemi]
  simp [quoteValue, splitParams]

/-- Removing the escapes of a quoted body gives the value back. -/
theorem unescape_escapeQuoted (v : List Char) : unescape (escapeQuoted v) = v := by
  induction v with
  | nil => rfl
  | cons c v ih =>
    by_cases hc : c = '\\' ∨ c = '"'
    · rw [escapeQuoted, if_pos hc, unescape, ih]
    · have hb : c ≠ '\\' := fun h => hc (Or.inl h)
      rw [escapeQuoted, if_neg hc]
      cases h : escapeQuoted v with
      | nil =>
        rw [h] at ih
        have hv : v = [] := ih.symm
        subst hv
        unfold unescape
        split <;> simp_all
      | cons d r => rw [h] at ih; simp [unescape, hb, ih]

/-- Unquoting a quoted value gives the value. -/
theorem unquote_quoteValue (v : List Char) : unquote (quoteValue v) = v := by
  simp [quoteValue, unquote, unescape_escapeQuoted]

/-- The parameter split loses nothing and cuts only at free semicolons: its pieces joined with
`;` give the text back, no piece holds a semicolon outside quotes, a parameter whose value
is a quoted string (after a key with no quote and no semicolon) is one whole piece before
the rest, and unquoting that value gives the value written. -/
theorem splitParams_rejoin_and_quoted_piece (cs : List Char) {k : List Char} (hq : '"' ∉ k)
    (hs : ';' ∉ k) (v rest : List Char) :
    [';'].intercalate (splitParams cs) = cs ∧
      (∀ p ∈ splitParams cs, ';' ∉ freeChars p false false) ∧
      splitParams (k ++ '=' :: quoteValue v ++ ';' :: rest) =
        (k ++ '=' :: quoteValue v) :: splitParams rest ∧
      unquote (quoteValue v) = v := by
  refine ⟨intercalate_splitParams_go cs false false, fun p hp => ?_,
    splitParams_quoted_param hq hs v rest, unquote_quoteValue v⟩
  have hsep := piecesSeparated_splitParams_go cs false false
  obtain ⟨x, xs, hL⟩ := List.exists_cons_of_ne_nil (splitParams_go_ne_nil cs false false [] [])
  rw [splitParams, hL] at hp
  rw [hL] at hsep
  rcases List.mem_cons.1 hp with rfl | hp
  · exact hsep.1 p rfl
  · exact hsep.2 p hp

/-- A key, then a value holding a semicolon, a quote and a backslash, then another
parameter: the quoted value stays whole. -/
theorem rejoin_and_quoted_piece_at_escaped_value :
    '"' ∉ ['c', 's'] ∧ ';' ∉ ['c', 's'] ∧
      ([';'].intercalate (splitParams ['a', ';', '"', 'x', ';', '"']) =
          ['a', ';', '"', 'x', ';', '"'] ∧
        (∀ p ∈ splitParams ['a', ';', '"', 'x', ';', '"'], ';' ∉ freeChars p false false) ∧
        splitParams (['c', 's'] ++ '=' :: quoteValue ['x', ';', '"', '\\'] ++ ';' :: ['b']) =
          (['c', 's'] ++ '=' :: quoteValue ['x', ';', '"', '\\']) :: splitParams ['b'] ∧
        unquote (quoteValue ['x', ';', '"', '\\']) = ['x', ';', '"', '\\']) :=
  ⟨by decide, by decide,
    splitParams_rejoin_and_quoted_piece ['a', ';', '"', 'x', ';', '"'] (by decide) (by decide)
      ['x', ';', '"', '\\'] ['b']⟩

end HttpCall.MediaType
