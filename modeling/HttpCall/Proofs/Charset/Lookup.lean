import HttpCall.Charset.Encode
import Mathlib

/-!
# Looking up the encoding indexes

The writers of the multi-byte and single-byte encodings look a code point up in an index
read backwards and turn the pointer found into bytes. That the bytes are the right ones
rests on three facts about the lookup, proved here over every table:

* a binary search over keys in strictly ascending order finds the value stored under a
  key (`Keyed.find?_of_mem`), and whatever it finds is stored there (`Keyed.find?_mem`);
* an index read backwards is in strictly ascending order of code point and keeps, for each
  code point of the index, its first pointer (`CharsetIndex.le_of_mem_backwards`);
* an index read from its compact text has ascending pointers, and an index of `size`
  pointers holds only pointers below `size`.

From them every encoding's writer reads pointers within the rows its lead bytes reach
(`Charset.indexesInRange`), and pointer 1 of JIS X 0208, row 0 and cell 1, is the
ideographic comma U+3001, the first pointer of that code point
(`CharsetIndex.find?_jis0208Back_ideographicComma`).
-/

namespace HttpCall

namespace Keyed

/-! ## Binary search over ascending keys -/

variable {β : Type}

/-- Keys in strictly ascending order. -/
def Ascending (entries : Array (Nat × β)) : Prop :=
  entries.toList.Pairwise fun a b => a.1 < b.1

theorem Ascending.lt {entries : Array (Nat × β)} (hs : Ascending entries) {i j : Nat}
    (hij : i < j) (hj : j < entries.size) : entries[i].1 < entries[j].1 := by
  have := List.pairwise_iff_getElem.1 hs i j (by simpa using Nat.lt_trans hij hj)
    (by simpa using hj) hij
  simpa using this

theorem Ascending.le {entries : Array (Nat × β)} (hs : Ascending entries) {i j : Nat}
    (hij : i ≤ j) (hj : j < entries.size) : entries[i].1 ≤ entries[j].1 := by
  rcases Nat.lt_or_eq_of_le hij with hij | rfl
  · exact Nat.le_of_lt (hs.lt hij hj)
  · exact Nat.le_refl _

/-- A pair pushed after all others with a greater key keeps the keys ascending. -/
theorem Ascending.push {acc : Array (Nat × β)} {x : Nat × β}
    (hs : Ascending acc) (hx : ∀ e ∈ acc, e.1 < x.1) : Ascending (acc.push x) := by
  unfold Ascending at *
  rw [Array.toList_push, List.pairwise_append]
  exact ⟨hs, by simp, fun a ha b hb => by
    rw [List.mem_singleton] at hb
    subst hb
    exact hx a (Array.mem_def.2 ha)⟩

/-- The window `[lo, hi)` that a search for `k` has left open: every entry before it has a
key at most `k`, every entry from its end on a greater one. -/
def Window (entries : Array (Nat × β)) (k lo hi : Nat) : Prop :=
  lo ≤ hi ∧ hi ≤ entries.size ∧
    (∀ i (h : i < entries.size), i < lo → entries[i].1 ≤ k) ∧
    (∀ i (h : i < entries.size), hi ≤ i → k < entries[i].1)

/-- One halving keeps the window of a search in ascending entries. -/
theorem Window.step {entries : Array (Nat × β)} {k lo hi : Nat} (hs : Ascending entries)
    (h : Window entries k lo hi) (hlt : lo < hi) :
    let mid := lo + (hi - lo) / 2
    ∃ hm : mid < entries.size,
      (entries[mid].1 ≤ k → Window entries k (mid + 1) hi) ∧
      (¬ entries[mid].1 ≤ k → Window entries k lo mid) := by
  obtain ⟨_, hhi, hbelow, habove⟩ := h
  intro mid
  have hm : mid < entries.size := by omega
  refine ⟨hm, fun hk => ⟨by omega, hhi, fun i hi hlt' => ?_, habove⟩,
    fun hk => ⟨by omega, by omega, hbelow, fun i hi hle => ?_⟩⟩
  · exact Nat.le_trans (hs.le (by omega) hm) hk
  · exact Nat.lt_of_lt_of_le (Nat.lt_of_not_le hk) (hs.le hle hi)

/-- With enough halvings the search closes its window on the number of entries whose key
is at most `k`. -/
theorem window_countAtMost {entries : Array (Nat × β)} {k : Nat} (hs : Ascending entries) :
    ∀ (fuel lo hi : Nat), Window entries k lo hi → hi - lo < 2 ^ fuel →
      Window entries k (countAtMost entries k fuel lo hi) (countAtMost entries k fuel lo hi)
  | 0, lo, hi, h, hfuel => by
    obtain rfl : hi = lo := by have := h.1; simp at hfuel; omega
    exact h
  | fuel + 1, lo, hi, h, hfuel => by
    unfold countAtMost
    by_cases hlt : lo < hi
    · obtain ⟨hm, hup, hdown⟩ := h.step hs hlt
      rw [if_pos hlt]
      simp only [Array.getElem?_eq_getElem hm]
      rw [Nat.pow_succ] at hfuel
      by_cases hk : entries[lo + (hi - lo) / 2].1 ≤ k
      · rw [if_pos hk]
        exact window_countAtMost hs fuel _ _ (hup hk) (by omega)
      · rw [if_neg hk]
        exact window_countAtMost hs fuel _ _ (hdown hk) (by omega)
    · rw [if_neg hlt]
      obtain rfl : hi = lo := by have := h.1; omega
      exact h

/-- The search over the whole table closes on the number of entries with a key at most
`k`. -/
theorem window_count (entries : Array (Nat × β)) (k : Nat) (hs : Ascending entries) :
    let n := countAtMost entries k (Nat.log2 entries.size + 2) 0 entries.size
    Window entries k n n := by
  refine window_countAtMost hs _ _ _ ⟨Nat.zero_le _, Nat.le_refl _, fun i _ h => absurd h (by omega),
    fun i hi _ => absurd hi (by omega)⟩ ?_
  have := @Nat.lt_log2_self entries.size
  rw [Nat.pow_succ]
  omega

/-- The floor found is an entry of the table. -/
theorem floor?_mem {entries : Array (Nat × β)} {k : Nat} {e : Nat × β}
    (h : floor? entries k = some e) : e ∈ entries := by
  unfold floor? at h
  split at h
  · cases h
  · exact Array.mem_of_getElem? h

/-- A value found under a key is stored under that key. -/
theorem find?_mem {entries : Array (Nat × β)} {k : Nat} {v : β}
    (h : find? entries k = some v) : (k, v) ∈ entries := by
  unfold find? at h
  split at h
  · next key v' hf =>
    split at h
    · next hk =>
      cases h
      rw [← hk]
      exact floor?_mem hf
    · cases h
  · cases h

/-- In a table of ascending keys, the value stored under a key is found. -/
theorem find?_of_mem {entries : Array (Nat × β)} {k : Nat} {v : β} (hs : Ascending entries)
    (h : (k, v) ∈ entries) : find? entries k = some v := by
  obtain ⟨j, hj, hjv⟩ := Array.getElem_of_mem h
  obtain ⟨-, hn, hbelow, habove⟩ := window_count entries k hs
  -- the entry stands before the window's end, and nothing after it is at most `k`
  have hjn : j < countAtMost entries k (Nat.log2 entries.size + 2) 0 entries.size := by
    by_contra hle
    have := habove j hj (by omega)
    rw [hjv] at this
    exact Nat.lt_irrefl _ this
  unfold find? floor?
  obtain ⟨m, hm⟩ : ∃ m, countAtMost entries k (Nat.log2 entries.size + 2) 0 entries.size = m + 1 :=
    ⟨_, (Nat.succ_pred_eq_of_pos (by omega)).symm⟩
  rw [hm] at hjn hn hbelow habove
  have hmk := hbelow m (by omega) (by omega)
  -- the last entry at most `k` is the one with key `k`
  have hjm : j = m := by
    by_contra hne
    have := hs.lt (show j < m by omega) (by omega)
    rw [hjv] at this
    omega
  subst hjm
  simp [hm, Array.getElem?_eq_getElem hj, hjv]

end Keyed

namespace CharsetIndex

/-! ## Indexes read backwards -/

@[simp]
theorem byCodePoint_iff (a b : Nat × Nat) :
    byCodePoint a b = true ↔ a.1 < b.1 ∨ (a.1 = b.1 ∧ a.2 ≤ b.2) := by
  simp [byCodePoint]

theorem byCodePoint_trans (a b c : Nat × Nat) (hab : byCodePoint a b = true)
    (hbc : byCodePoint b c = true) : byCodePoint a c = true := by
  simp only [byCodePoint_iff] at *
  omega

theorem byCodePoint_total (a b : Nat × Nat) : (byCodePoint a b || byCodePoint b a) = true := by
  simp only [Bool.or_eq_true, byCodePoint_iff]
  omega

/-- What keeping first pairs has built from the pairs `seen`, in order of code point:
code points strictly descending, each kept pair one of those seen, and for every pair seen
a kept pair with its code point and no greater pointer. -/
structure FirstsOf (kept seen : List (Nat × Nat)) : Prop where
  desc : kept.Pairwise fun a b => b.1 < a.1
  sub : ∀ e ∈ kept, e ∈ seen
  cover : ∀ x ∈ seen, ∃ e ∈ kept, e.1 = x.1 ∧ e.2 ≤ x.2

theorem firstsOf_nil : FirstsOf [] [] :=
  ⟨List.Pairwise.nil, by simp, by simp⟩

/-- The step: keeping first pairs over one more pair, which comes after every pair seen in
order of code point, keeps the invariant. -/
theorem firstsOf_keepFirst {kept seen : List (Nat × Nat)} {x : Nat × Nat}
    (h : FirstsOf kept seen) (hx : ∀ z ∈ seen, byCodePoint z x = true) :
    FirstsOf (keepFirst kept x) (seen ++ [x]) := by
  obtain ⟨hdesc, hsub, hcover⟩ := h
  cases kept with
  | nil =>
    -- nothing kept: nothing was seen either
    have hseen : seen = [] := by
      rcases seen with _ | ⟨z, zs⟩
      · rfl
      · obtain ⟨e, he, -⟩ := hcover z (by simp)
        simp at he
    subst hseen
    exact ⟨by simp [keepFirst], by simp [keepFirst], by simp [keepFirst]⟩
  | cons y ys =>
    have hy : byCodePoint y x = true := hx y (hsub y (by simp))
    rw [byCodePoint_iff] at hy
    by_cases hyx : y.1 = x.1
    · -- the code point is kept already, with a pointer no greater
      have hle : y.2 ≤ x.2 := by omega
      simp only [keepFirst, beq_iff_eq, hyx, if_true]
      refine ⟨hdesc, fun e he => List.mem_append_left _ (hsub e he), fun z hz => ?_⟩
      rcases List.mem_append.1 hz with hz | hz
      · exact hcover z hz
      · rw [List.mem_singleton] at hz
        subst hz
        exact ⟨y, by simp, hyx, hle⟩
    · -- a new code point, greater than every one kept
      have hlt : y.1 < x.1 := by omega
      simp only [keepFirst, beq_iff_eq, hyx, if_false]
      refine ⟨List.pairwise_cons.2 ⟨fun e he => ?_, hdesc⟩, fun e he => ?_, fun z hz => ?_⟩
      · rcases List.mem_cons.1 he with rfl | he
        · exact hlt
        · exact Nat.lt_trans ((List.pairwise_cons.1 hdesc).1 e he) hlt
      · rcases List.mem_cons.1 he with rfl | he
        · simp
        · exact List.mem_append_left _ (hsub e he)
      · rcases List.mem_append.1 hz with hz | hz
        · obtain ⟨e, he, hek, hep⟩ := hcover z hz
          exact ⟨e, List.mem_cons_of_mem _ he, hek, hep⟩
        · rw [List.mem_singleton] at hz
          subst hz
          exact ⟨z, by simp, rfl, le_rfl⟩

/-- The run: keeping first pairs over pairs in order of code point keeps the invariant. -/
theorem firstsOf_foldl :
    ∀ (l seen kept : List (Nat × Nat)), (seen ++ l).Pairwise (fun a b => byCodePoint a b = true) →
      FirstsOf kept seen → FirstsOf (l.foldl keepFirst kept) (seen ++ l)
  | [], seen, kept, _, h => by simpa using h
  | x :: l, seen, kept, hs, h => by
    have hx : ∀ z ∈ seen, byCodePoint z x = true := fun z hz =>
      List.pairwise_append.1 hs |>.2.2 z hz x (by simp)
    have := firstsOf_foldl l (seen ++ [x]) (keepFirst kept x) (by simpa using hs)
      (firstsOf_keepFirst h hx)
    simpa using this

/-- The pairs an index read backwards is built from, sorted by code point. -/
theorem firstsOf_backwards (pairs : Array (Nat × Nat)) :
    FirstsOf (((pairs.toList.map (fun (p, c) => (c, p))).mergeSort byCodePoint).foldl
        keepFirst [])
      ((pairs.toList.map (fun (p, c) => (c, p))).mergeSort byCodePoint) := by
  have hsorted := List.pairwise_mergeSort byCodePoint_trans byCodePoint_total
    (pairs.toList.map (fun (p, c) => (c, p)))
  simpa using firstsOf_foldl _ [] [] (by simpa using hsorted) firstsOf_nil

/-- Two kept pairs with one code point are one pair. -/
theorem eq_of_fst_eq_of_desc {kept : List (Nat × Nat)} (h : kept.Pairwise fun a b => b.1 < a.1)
    {e e' : Nat × Nat} (he : e ∈ kept) (he' : e' ∈ kept) (hk : e.1 = e'.1) : e = e' :=
  have hnodup : (kept.map Prod.fst).Nodup :=
    List.pairwise_map.2 (h.imp fun hab => (Nat.ne_of_lt hab).symm)
  List.inj_on_of_nodup_map hnodup he he' hk

theorem mem_backwards_iff {pairs : Array (Nat × Nat)} {e : Nat × Nat} :
    e ∈ backwards pairs ↔
      e ∈ ((pairs.toList.map (fun (p, c) => (c, p))).mergeSort byCodePoint).foldl
        keepFirst [] := by
  simp [backwards]

/-- The pairs an index read backwards is built from are the index's pairs, turned round. -/
theorem mem_sorted_iff {pairs : Array (Nat × Nat)} {e : Nat × Nat} :
    e ∈ (pairs.toList.map (fun (p, c) => (c, p))).mergeSort byCodePoint ↔ (e.2, e.1) ∈ pairs := by
  rw [(List.mergeSort_perm _ _).mem_iff, List.mem_map]
  constructor
  · rintro ⟨⟨p, c⟩, hpc, rfl⟩
    simpa using hpc
  · intro h
    exact ⟨(e.2, e.1), by simpa using h, rfl⟩

/-- A pair of an index read backwards is a pair of the index. -/
theorem mem_backwards {pairs : Array (Nat × Nat)} {e : Nat × Nat} (h : e ∈ backwards pairs) :
    (e.2, e.1) ∈ pairs :=
  mem_sorted_iff.1 ((firstsOf_backwards pairs).sub e (mem_backwards_iff.1 h))

/-- An index read backwards keeps the first pointer of a code point. -/
theorem le_of_mem_backwards {pairs : Array (Nat × Nat)} {e : Nat × Nat} (h : e ∈ backwards pairs)
    {q : Nat} (hq : (q, e.1) ∈ pairs) : e.2 ≤ q := by
  have hf := firstsOf_backwards pairs
  obtain ⟨e', he', hk, hle⟩ := hf.cover (e.1, q) (mem_sorted_iff.2 hq)
  -- the pair kept for the code point is `e` itself
  rw [eq_of_fst_eq_of_desc hf.desc he' (mem_backwards_iff.1 h) hk] at hle
  exact hle

/-- Every code point of an index has a pair in the index read backwards. -/
theorem exists_mem_backwards {pairs : Array (Nat × Nat)} {p c : Nat} (h : (p, c) ∈ pairs) :
    ∃ q, (c, q) ∈ backwards pairs := by
  obtain ⟨⟨c', q⟩, he, hk, -⟩ := (firstsOf_backwards pairs).cover (c, p) (mem_sorted_iff.2 h)
  simp only at hk
  subst hk
  exact ⟨q, mem_backwards_iff.2 he⟩

/-- An index read backwards is in strictly ascending order of code point. -/
theorem ascending_backwards (pairs : Array (Nat × Nat)) : Keyed.Ascending (backwards pairs) := by
  have := (firstsOf_backwards pairs).desc
  simpa [Keyed.Ascending, backwards, List.pairwise_reverse] using this


/-! ## Reading the compact text -/

/-- Reading only adds numbers: those read before stay at the end of `done`. -/
theorem done_foldl (cs : List Char) (r : Reading) :
    ∃ more, (cs.foldl Reading.push r).done = more ++ r.done := by
  induction cs generalizing r with
  | nil => exact ⟨[], rfl⟩
  | cons c cs ih =>
    obtain ⟨more, hmore⟩ := ih (r.push c)
    rw [List.foldl_cons, hmore]
    unfold Reading.push
    split
    · exact ⟨more, rfl⟩
    · next d _ => exact ⟨more ++ [r.acc + d * r.scale], by simp⟩
    · exact ⟨more, rfl⟩

/-- The numbers of a text begin with those of its first part. -/
theorem readNumbers_append (a b : List Char) :
    ∃ more, readNumbers (a ++ b) = readNumbers a ++ more := by
  obtain ⟨more, h⟩ := done_foldl b (a.foldl Reading.push {})
  exact ⟨more.reverse, by simp [readNumbers, List.foldl_append, h]⟩

/-- The numbers of an index's lines begin with those of its first line. -/
theorem readNumbers_lines (lines : List String) :
    ∃ more, readNumbers (lines.flatMap String.toList) =
      readNumbers ((lines.take 1).flatMap String.toList) ++ more := by
  rw [← List.take_append_drop 1 lines, List.flatMap_append, List.take_append_drop]
  exact readNumbers_append _ _

/-! ## Expanding runs -/

/-- Pushing a run keeps the pairs already pushed. -/
theorem mem_pushRun {acc : Array (Nat × Nat)} {e : Nat × Nat} (h : e ∈ acc) :
    ∀ p c n, e ∈ pushRun acc p c n := by
  intro p c n
  induction n generalizing acc p c with
  | zero => exact h
  | succ n ih => exact ih (Array.mem_push_of_mem _ h) (p + 1) (c + 1)

/-- Expanding runs keeps the pairs already pushed. -/
theorem mem_expand {acc : Array (Nat × Nat)} {e : Nat × Nat} (h : e ∈ acc) :
    ∀ next last ns, e ∈ expand acc next last ns := by
  intro next last ns
  fun_induction expand acc next last ns with
  | case1 acc next last gap diff len rest pointer cp ih => exact ih (mem_pushRun h _ _ _)
  | case2 => exact h

/-- A run pushed from pointer `p`, after pairs with smaller pointers, keeps the pointers
ascending and leaves them below `p + n`. -/
theorem pushRun_ascending {acc : Array (Nat × Nat)} (p : Nat) (hs : Keyed.Ascending acc)
    (hlt : ∀ e ∈ acc, e.1 < p) (c n : Nat) :
    Keyed.Ascending (pushRun acc p c n) ∧ ∀ e ∈ pushRun acc p c n, e.1 < p + n := by
  induction n generalizing acc p c with
  | zero => exact ⟨hs, hlt⟩
  | succ n ih =>
    have hpush : ∀ e ∈ acc.push (p, c), e.1 < p + 1 := by
      intro e he
      rcases Array.mem_push.1 he with he | rfl
      · exact Nat.lt_succ_of_lt (hlt e he)
      · exact Nat.lt_succ_self p
    obtain ⟨hs', hlt'⟩ := ih (p + 1) (hs.push hlt) hpush (c + 1)
    exact ⟨hs', fun e he => by have := hlt' e he; omega⟩

/-- Runs expanded after pairs with pointers below `next` keep the pointers ascending: each
run starts at or after the end of the one before. -/
theorem expand_ascending {acc : Array (Nat × Nat)} {next : Nat} {last : Int} {ns : List Nat}
    (hs : Keyed.Ascending acc) (hlt : ∀ e ∈ acc, e.1 < next) :
    Keyed.Ascending (expand acc next last ns) := by
  fun_induction expand acc next last ns with
  | case1 acc next last gap diff len rest pointer cp ih =>
    obtain ⟨hs', hlt'⟩ := pushRun_ascending pointer hs
      (fun e he => by have := hlt e he; omega) cp.toNat len
    exact ih hs' hlt'
  | case2 => exact hs

/-- The pointers of an index are ascending. -/
theorem ascending_ofLinesBelow (size : Nat) (lines : List String) :
    Keyed.Ascending (ofLinesBelow size lines) := by
  have hs : Keyed.Ascending (ofLines lines) :=
    expand_ascending (by simp [Keyed.Ascending]) (by simp)
  unfold Keyed.Ascending at *
  rw [ofLinesBelow, Array.toList_filter]
  exact hs.filter _

/-- Every pointer of an index of `size` pointers is below `size`. -/
theorem lt_of_mem_ofLinesBelow {size : Nat} {lines : List String} {e : Nat × Nat}
    (h : e ∈ ofLinesBelow size lines) : e.1 < size := by
  simpa using (Array.mem_filter.1 h).2


/-! ## The pointers of the indexes -/

/-- Every pointer of an index read backwards is below `n`. -/
def PointersBelow (back : Array (Nat × Nat)) (n : Nat) : Prop := ∀ e ∈ back, e.2 < n

theorem PointersBelow.find? {back : Array (Nat × Nat)} {n cp p : Nat}
    (h : PointersBelow back n) (hp : Keyed.find? back cp = some p) : p < n :=
  h _ (Keyed.find?_mem hp)

/-- An index read backwards has the pointers of the index. -/
theorem pointersBelow_backwards {pairs : Array (Nat × Nat)} {n : Nat}
    (h : ∀ e ∈ pairs, e.1 < n) : PointersBelow (backwards pairs) n :=
  fun _ he => h _ (mem_backwards he)

/-- The pointers of an index of `size` pointers, read backwards, are below `size`. -/
theorem pointersBelow_ofLinesBelow (size : Nat) (lines : List String) :
    PointersBelow (backwards (ofLinesBelow size lines)) size :=
  pointersBelow_backwards fun _ => lt_of_mem_ofLinesBelow

theorem gb18030Back_pointersBelow : PointersBelow gb18030Back (126 * 190) :=
  pointersBelow_ofLinesBelow _ _

theorem eucKrBack_pointersBelow : PointersBelow eucKrBack (126 * 190) :=
  pointersBelow_ofLinesBelow _ _

theorem jis0208Back_pointersBelow : PointersBelow jis0208Back (94 * 94) :=
  pointersBelow_backwards fun _ he => by simpa using (Array.mem_filter.1 he).2

theorem shiftJisBack_pointersBelow : PointersBelow shiftJisBack (60 * 188) :=
  pointersBelow_backwards fun _ he => lt_of_mem_ofLinesBelow (Array.mem_filter.1 he).1

/-- Big5 writes a code point with its first usable pointer or, for a few, with its last;
either is a pointer of the index. The last pointers are found as the first of the
pointers counted down from 1000000, which the index's pointers are all below. -/
theorem big5Back_pointersBelow : PointersBelow big5Back (126 * 157) := by
  intro e he
  obtain ⟨⟨c, p⟩, hfirst, rfl⟩ := Array.mem_map.1 he
  have hbig5 : ∀ q c', (q, c') ∈ big5.filter (fun (p, _) => (0xA1 - 0x81) * 157 ≤ p) →
      q < 126 * 157 := fun _ _ hq => lt_of_mem_ofLinesBelow (Array.mem_filter.1 hq).1
  have hp : p < 126 * 157 := hbig5 _ _ (mem_backwards hfirst)
  -- the index of last pointers becomes a name before the lookup's match is reduced, so
  -- that no step evaluates it
  generalize hL : backwards _ = lasts
  dsimp only
  split_ifs
  · cases hq : Keyed.find? lasts c with
    | none => exact hp
    | some q =>
      -- a last pointer: `1000000 - q` for a pair `(1000000 - q', c)` of the index
      rw [← hL] at hq
      obtain ⟨⟨q', c'⟩, hq', heq⟩ := Array.mem_map.1 (mem_backwards (Keyed.find?_mem hq))
      simp only [Prod.mk.injEq] at heq
      have := hbig5 _ _ hq'
      show 1000000 - q < 126 * 157
      omega
  · exact hp

/-- The upper half of a single-byte encoding holds pointers below 128. -/
theorem lt_of_mem_upperHalf {cs : Charset} {e : Nat × Nat} (h : e ∈ cs.upperHalf) :
    e.1 < 128 := by
  unfold Charset.upperHalf at h
  split at h
  · exact lt_of_mem_ofLinesBelow h
  · simp at h

/-- Each four-byte range of gb18030 starts at most 123464 pointers after its code point,
at a scalar value. -/
theorem gb18030Ranges_bounded : ∀ e ∈ gb18030Ranges, e.1 ≤ e.2 + 123464 ∧ e.2 ≤ 0x10FFFF := by
  have hall : gb18030Ranges.toList.all (fun e => e.1 ≤ e.2 + 123464 && e.2 ≤ 0x10FFFF) = true := by
    decide +kernel
  intro e he
  simpa using List.all_eq_true.1 hall e (Array.mem_toList_iff.2 he)

/-- The four-byte pointer of a scalar value is at most 1237575, that of U+10FFFF. -/
theorem rangesPointer_lt {cp : Nat} (h : cp < 0x110000) : rangesPointer cp < 1237576 := by
  unfold rangesPointer
  split_ifs
  · decide
  · generalize hf : Keyed.floor? gb18030RangesBack cp = r
    cases r with
    | none => simp
    | some e =>
      obtain ⟨⟨p, c⟩, hpc, rfl⟩ := Array.mem_map.1 (Keyed.floor?_mem hf)
      have := gb18030Ranges_bounded _ hpc
      show p + (cp - c) < 1237576
      simp only at this
      omega

/-! ## The first run of JIS X 0208 -/

/-- A pair of an index's text with a pointer below `size` is a pair of the index of `size`
pointers. -/
theorem mem_ofLinesBelow {size : Nat} {lines : List String} {e : Nat × Nat}
    (h : e ∈ ofLines lines) (hlt : e.1 < size) : e ∈ ofLinesBelow size lines :=
  Array.mem_filter.2 ⟨h, by simpa using hlt⟩

/-- The pairs of the first run of an index's text are pairs of the index. -/
theorem mem_ofLines_of_firstRun {lines : List String} {gap diff len : Nat} {rest : List Nat}
    (h : readNumbers (lines.flatMap String.toList) = gap :: diff :: len :: rest)
    {e : Nat × Nat} (he : e ∈ pushRun #[] gap (signed diff).toNat len) : e ∈ ofLines lines := by
  rw [ofLines, h, expand]
  simpa using mem_expand he _ _ rest

/-- Pointers 0 and 1 of JIS X 0208 are the ideographic space U+3000 and the ideographic
comma U+3001: the first run of its text starts at pointer 0 with U+3000 and is three long. -/
theorem jis0208_first_pointers : (0, 0x3000) ∈ jis0208 ∧ (1, 0x3001) ∈ jis0208 := by
  obtain ⟨more, hmore⟩ := readNumbers_lines jis0208Lines
  generalize hfirst : readNumbers ((jis0208Lines.take 1).flatMap String.toList) = first at hmore
  -- only the first line is read here: gap 0, a difference up by `0x3000`, a run of 3
  have htake : first.take 3 = [0, 24576, 3] := by
    rw [← hfirst]
    decide +kernel
  have hread : readNumbers (jis0208Lines.flatMap String.toList) =
      0 :: 24576 :: 3 :: (first.drop 3 ++ more) := by
    calc readNumbers (jis0208Lines.flatMap String.toList)
        = (first.take 3 ++ first.drop 3) ++ more := by rw [hmore, List.take_append_drop]
      _ = 0 :: 24576 :: 3 :: (first.drop 3 ++ more) := by rw [htake]; rfl
  have hrun : pushRun #[] 0 (signed 24576).toNat 3 = #[(0, 0x3000), (1, 0x3001), (2, 0x3002)] :=
    rfl
  exact ⟨mem_ofLinesBelow (mem_ofLines_of_firstRun hread (by simp [hrun])) (by decide),
    mem_ofLinesBelow (mem_ofLines_of_firstRun hread (by simp [hrun])) (by decide)⟩

/-- EUC-JP and ISO-2022-JP write the ideographic comma U+3001 with pointer 1: row 0, cell 1
of JIS X 0208. -/
theorem find?_jis0208Back_ideographicComma : Keyed.find? jis0208Back 0x3001 = some 1 := by
  obtain ⟨h0, h1⟩ := jis0208_first_pointers
  have hrows : (1, 0x3001) ∈ jis0208.filter fun (p, _) => p < 94 * 94 :=
    Array.mem_filter.2 ⟨h1, by decide⟩
  obtain ⟨q, hq⟩ := exists_mem_backwards hrows
  have hle : q ≤ 1 := le_of_mem_backwards hq hrows
  -- pointer 0 holds U+3000, so the first pointer of U+3001 is 1
  have hq1 : q = 1 := by
    rcases Nat.le_one_iff_eq_zero_or_eq_one.1 hle with rfl | rfl
    · have h0' : (0, 0x3001) ∈ jis0208 := (Array.mem_filter.1 (mem_backwards hq)).1
      have hs := ascending_ofLinesBelow (60 * 188) jis0208Lines
      have := (Keyed.find?_of_mem hs h0').symm.trans (Keyed.find?_of_mem hs h0)
      exact absurd (Option.some.inj this) (by decide)
    · rfl
  subst hq1
  exact Keyed.find?_of_mem (ascending_backwards _) hq

end CharsetIndex

namespace Charset

open CharsetIndex in
/-- The pointers that an encoding's writer reads back from its indexes lie within them:
below 128 in the upper half of a single-byte encoding, and within the rows that the lead
bytes of a multi-byte encoding reach (126 rows of 190 pointers for gb18030 and EUC-KR, of
157 for Big5, 94 rows of 94 for JIS X 0208 in EUC-JP and ISO-2022-JP, 60 rows of 188 for
Shift_JIS). A four-byte gb18030 pointer is at most 1237575, that of U+10FFFF. -/
def IndexesInRange (cs : Charset) : Prop :=
  match cs.outputEncoding with
  | utf8 | userDefined => True
  | gbk => PointersBelow gb18030Back (126 * 190)
  | gb18030 =>
    PointersBelow gb18030Back (126 * 190) ∧ ∀ cp < 0x110000, rangesPointer cp < 1237576
  | big5 => PointersBelow big5Back (126 * 157)
  | eucJp | iso2022Jp => PointersBelow jis0208Back (94 * 94)
  | shiftJis => PointersBelow shiftJisBack (60 * 188)
  | eucKr => PointersBelow eucKrBack (126 * 190)
  | cs => PointersBelow (backwards cs.upperHalf) 128

open CharsetIndex in
/-- Every charset reads its indexes within range: each index holds only the pointers of
its rows, and an index read backwards holds pointers of the index. -/
theorem indexesInRange (cs : Charset) : cs.IndexesInRange := by
  unfold IndexesInRange
  split
  · trivial
  · trivial
  · exact gb18030Back_pointersBelow
  · exact ⟨gb18030Back_pointersBelow, fun _ => rangesPointer_lt⟩
  · exact big5Back_pointersBelow
  · exact jis0208Back_pointersBelow
  · exact jis0208Back_pointersBelow
  · exact shiftJisBack_pointersBelow
  · exact eucKrBack_pointersBelow
  · -- the single-byte encodings
    exact pointersBelow_backwards fun _ => lt_of_mem_upperHalf

end Charset

end HttpCall
