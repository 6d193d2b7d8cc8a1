import HttpCall.Response.Body
import HttpCall.Stream.Script
import Mathlib

/-!
# Reading a response body in order

A response body is read by a caller through reads into buffers of any length, `bytes`,
`string`, `close` and dropping the handle. Over every sequence of these operations:

* a released body stays released and an exhausted body stays exhausted, whatever the reader;
* an exhausted body serves no bytes on every read, and a released body that is not
  exhausted fails every read with `response body already released`;
* `bytes` and `string` leave the body released, on success and on failure, and `string`
  decodes exactly the bytes that `bytes` returns;
* over a scripted reader, the bytes handed to the caller are a start of the script's bytes,
  nothing skipped or repeated, and `bytes` succeeds exactly when the body can still be read
  and no failure other than an interruption is left in the script, and then returns the
  script's remaining bytes.

The last point rests on one invariant, `Accounted`: what was handed out, followed by what
the reader still holds, is the script's bytes; and an exhausted reader holds no more
results. Every operation keeps it (`Accounted.apply`), hence so does every run.
-/

namespace HttpCall

/-! ## Operations on a body -/

/-- An operation a caller makes on a response body; dropping the handle closes it. -/
inductive BodyOp where
  | read (len : Nat)
  | bytes
  | string (charset : Option Charset)
  | close
  | drop

namespace BodyOp

variable {ρ : Type} [ByteReader ρ]

/-- The body after an operation. -/
def apply : BodyOp → ResponseBody ρ → ResponseBody ρ
  | read len, b => (b.read len).2
  | bytes, b => b.bytes.2.2
  | string cs, b => (b.string cs).2.2
  | close, b => b.close.2
  | drop, b => b.close.2

/-- The bytes an operation hands to the caller: what a read serves, what a successful
`bytes` returns, and the bytes a successful `string` decodes. -/
def delivered : BodyOp → ResponseBody ρ → List UInt8
  | read len, b =>
    match (b.read len).1 with
    | .ok data => data
    | .error _ => []
  | bytes, b | string _, b =>
    match b.bytes.2.1 with
    | .ok data => data
    | .error _ => []
  | close, _ | drop, _ => []

end BodyOp

namespace ResponseBody

/-! ## The two flags only rise -/

section Flags

variable {ρ : Type}

/-- The flags of `b'` are at least those of `b`: released stays released and exhausted
stays exhausted. -/
def FlagsKept (b b' : ResponseBody ρ) : Prop :=
  (b.isReleased = true → b'.isReleased = true) ∧ (b.exhausted = true → b'.exhausted = true)

theorem FlagsKept.refl (b : ResponseBody ρ) : FlagsKept b b :=
  ⟨id, id⟩

theorem FlagsKept.trans {b b' b'' : ResponseBody ρ} (h : FlagsKept b b') (h' : FlagsKept b' b'') :
    FlagsKept b b'' :=
  ⟨fun hr => h'.1 (h.1 hr), fun he => h'.2 (h.2 he)⟩

/-- Closing releases the body and keeps its end. -/
theorem close_isReleased (b : ResponseBody ρ) : b.close.2.isReleased = true := by
  unfold close
  split <;> simp_all [isReleased]

theorem close_exhausted (b : ResponseBody ρ) : b.close.2.exhausted = b.exhausted := by
  unfold close
  split <;> rfl

theorem close_flagsKept (b : ResponseBody ρ) : FlagsKept b b.close.2 :=
  ⟨fun _ => close_isReleased b, fun he => (close_exhausted b).trans he⟩

end Flags

variable {ρ : Type} [ByteReader ρ]

/-- Operations made in order: the bytes handed to the caller, and the body after them. -/
def runOps : List BodyOp → ResponseBody ρ → List UInt8 × ResponseBody ρ
  | [], b => ([], b)
  | op :: ops, b =>
    let rest := runOps ops (op.apply b)
    (op.delivered b ++ rest.1, rest.2)

theorem read_of_exhausted {b : ResponseBody ρ} (he : b.exhausted = true) (len : Nat) :
    b.read len = (.ok [], b) := by
  simp [read, he]

theorem read_of_released {b : ResponseBody ρ} (hr : b.isReleased = true)
    (he : b.exhausted = false) (len : Nat) : b.read len = (.error releasedError, b) := by
  have hs : b.source = none := by simpa [isReleased] using hr
  simp [read, he, hs]

/-- A read of a held body that its reader fails moves the reader on and hands out nothing. -/
theorem read_of_held_error {b : ResponseBody ρ} {s s' : ρ} {len : Nat} {e : IoError}
    (hs : b.source = some s) (he : b.exhausted = false)
    (hread : ByteReader.read s len = (.error e, s')) :
    b.read len = (.error e, { b with source := some s' }) := by
  simp [read, he, hs, hread]

/-- A read of a held body that its reader serves hands out the bytes; one into a nonempty
buffer that gets none marks the end. -/
theorem read_of_held_ok {b : ResponseBody ρ} {s s' : ρ} {len : Nat} {d : List UInt8}
    (hs : b.source = some s) (he : b.exhausted = false)
    (hread : ByteReader.read s len = (.ok d, s')) :
    b.read len = (.ok d, { b with source := some s', exhausted := d.isEmpty && len != 0 }) := by
  simp [read, he, hs, hread]

/-- A read neither releases the body nor brings it back, and never clears its end. -/
theorem read_flagsKept (b : ResponseBody ρ) (len : Nat) : FlagsKept b (b.read len).2 := by
  unfold read
  split
  · exact FlagsKept.refl b
  · next he =>
    split
    · exact FlagsKept.refl b
    · next s hs =>
      have hheld : b.isReleased = false := by simp [isReleased, hs]
      split <;> exact ⟨fun hr => absurd hr (by simp [hheld]), fun hx => absurd hx he⟩

theorem readToEndFrom_flagsKept (fuel : Nat) (b : ResponseBody ρ) (acc : List UInt8) :
    FlagsKept b (b.readToEndFrom fuel acc).2 := by
  induction fuel generalizing b acc with
  | zero => exact FlagsKept.refl b
  | succ fuel ih =>
    have hread := read_flagsKept b (b.workLeft + 1)
    unfold readToEndFrom
    split
    · next b' heq => rw [heq] at hread; exact hread
    · next bytes b' _ heq => rw [heq] at hread; exact hread.trans (ih b' _)
    · next e b' heq =>
      rw [heq] at hread
      split
      · exact hread.trans (ih b' acc)
      · exact hread

theorem bytes_eq_close (b : ResponseBody ρ) : b.bytes.2.2 = b.readToEnd.2.close.2 := by
  unfold bytes
  generalize b.readToEnd = r
  obtain ⟨⟨data, failure⟩, b'⟩ := r
  cases failure <;> rfl

/-- `bytes` releases the body, whether it succeeds or fails. -/
theorem bytes_isReleased (b : ResponseBody ρ) : b.bytes.2.2.isReleased = true := by
  rw [bytes_eq_close]
  exact close_isReleased _

theorem bytes_flagsKept (b : ResponseBody ρ) : FlagsKept b b.bytes.2.2 := by
  rw [bytes_eq_close]
  exact (readToEndFrom_flagsKept _ b []).trans (close_flagsKept _)

/-- `string` ends as `bytes` does and decodes exactly what `bytes` returns, in the charset
asked for or else the declared one. -/
theorem string_eq_bytes (b : ResponseBody ρ) (cs : Option Charset) :
    (b.string cs).2.2 = b.bytes.2.2 ∧
      (b.string cs).2.1 = b.bytes.2.1.map (cs.getD b.declaredCharset).decode :=
  ⟨rfl, rfl⟩

theorem apply_flagsKept (b : ResponseBody ρ) : ∀ op : BodyOp, FlagsKept b (op.apply b)
  | .read len => read_flagsKept b len
  | .bytes => bytes_flagsKept b
  | .string cs => by
    show FlagsKept b (b.string cs).2.2
    rw [(string_eq_bytes b cs).1]
    exact bytes_flagsKept b
  | .close => close_flagsKept b
  | .drop => close_flagsKept b

/-- Over any operations, released stays released and exhausted stays exhausted. -/
theorem runOps_flagsKept (ops : List BodyOp) (b : ResponseBody ρ) :
    FlagsKept b (runOps ops b).2 := by
  induction ops generalizing b with
  | nil => exact FlagsKept.refl b
  | cons op ops ih => exact (apply_flagsKept b op).trans (ih (op.apply b))

end ResponseBody

/-! ## Scripted readers -/

namespace ByteScript

/-- What reading a script to its end gives: its bytes up to the first failure that is not an
interruption, and that failure. -/
def drain : List ScriptStep → List UInt8 × Option IoError
  | [] => ([], none)
  | .bytes first more :: rest => (first :: more ++ (drain rest).1, (drain rest).2)
  | .failure e :: rest => if e.kind = .interrupted then drain rest else ([], some e)

/-- A script whose every failure is an interruption. -/
def Clean (steps : List ScriptStep) : Prop :=
  ∀ e, ScriptStep.failure e ∈ steps → e.kind = .interrupted

@[simp] theorem byteReader_read (s : ByteScript) (len : Nat) :
    ByteReader.read s len = s.read len := rfl

@[simp] theorem byteReader_workLeft (s : ByteScript) :
    ByteReader.workLeft s = measure s.steps := rfl

theorem data_cons (step : ScriptStep) (rest : List ScriptStep) :
    (⟨step :: rest⟩ : ByteScript).data = step.data ++ (⟨rest⟩ : ByteScript).data := rfl

theorem length_le_measure (steps : List ScriptStep) : steps.length ≤ measure steps := by
  induction steps with
  | nil => exact Nat.le_refl 0
  | cons step rest ih =>
    have hpos : 1 ≤ step.size := by cases step <;> simp [ScriptStep.size]
    simp only [List.length_cons, measure]
    omega

theorem data_putBack (bs : List UInt8) (steps : List ScriptStep) :
    (⟨putBack bs steps⟩ : ByteScript).data = bs ++ (⟨steps⟩ : ByteScript).data := by
  cases bs <;> rfl

theorem read_nil (len : Nat) : (⟨[]⟩ : ByteScript).read len = (.ok [], ⟨[]⟩) := rfl

theorem read_failure (e : IoError) (rest : List ScriptStep) (len : Nat) :
    (⟨.failure e :: rest⟩ : ByteScript).read len = (.error e, ⟨rest⟩) := rfl

theorem read_bytes_zero (first : UInt8) (more : List UInt8) (rest : List ScriptStep) :
    (⟨.bytes first more :: rest⟩ : ByteScript).read 0 =
      (.ok [], ⟨.bytes first more :: rest⟩) := rfl

theorem read_bytes_succ (first : UInt8) (more : List UInt8) (rest : List ScriptStep) (n : Nat) :
    (⟨.bytes first more :: rest⟩ : ByteScript).read (n + 1) =
      (.ok (first :: more.take n), ⟨putBack (more.drop n) rest⟩) := rfl

/-- A read hands out a start of the script's bytes and keeps the rest. -/
theorem read_ok_data {s s' : ByteScript} {len : Nat} {d : List UInt8}
    (h : s.read len = (.ok d, s')) : d ++ s'.data = s.data := by
  obtain ⟨steps⟩ := s
  rcases steps with _ | ⟨_ | e, rest⟩
  · rw [read_nil] at h
    cases h
    rfl
  · next first more =>
    cases len with
    | zero =>
      rw [read_bytes_zero] at h
      cases h
      rfl
    | succ n =>
      rw [read_bytes_succ] at h
      cases h
      rw [data_putBack, data_cons, ← List.append_assoc, List.cons_append,
        List.take_append_drop]
      rfl
  · rw [read_failure] at h
    cases h

/-- A failing read keeps every byte. -/
theorem read_error_data {s s' : ByteScript} {len : Nat} {e : IoError}
    (h : s.read len = (.error e, s')) : s'.data = s.data := by
  obtain ⟨steps⟩ := s
  rcases steps with _ | ⟨_ | e', rest⟩
  · rw [read_nil] at h
    cases h
  · cases len with
    | zero => rw [read_bytes_zero] at h; cases h
    | succ n => rw [read_bytes_succ] at h; cases h
  · rw [read_failure] at h
    cases h
    rfl

/-- A read into a nonempty buffer hands out nothing only at the end of the script. -/
theorem read_ok_nil {s s' : ByteScript} {len : Nat} (h : s.read len = (.ok [], s'))
    (hlen : len ≠ 0) : s.steps = [] ∧ s' = s := by
  obtain ⟨steps⟩ := s
  rcases steps with _ | ⟨_ | e, rest⟩
  · rw [read_nil] at h
    cases h
    exact ⟨rfl, rfl⟩
  · obtain ⟨n, rfl⟩ : ∃ n, len = n + 1 := ⟨len - 1, by omega⟩
    rw [read_bytes_succ] at h
    simp at h
  · rw [read_failure] at h
    cases h

/-- A clean script drains to all its bytes with no failure. -/
theorem drain_of_clean {steps : List ScriptStep} (hc : Clean steps) :
    drain steps = ((⟨steps⟩ : ByteScript).data, none) := by
  induction steps with
  | nil => rfl
  | cons step rest ih =>
    have hrest : Clean rest := fun e he => hc e (List.mem_cons_of_mem _ he)
    cases step with
    | bytes first more => simp [drain, ih hrest, data_cons, ScriptStep.data]
    | failure e =>
      have hint : e.kind = .interrupted := hc e List.mem_cons_self
      simp [drain, hint, ih hrest, data_cons, ScriptStep.data]

/-- A script drains with no failure exactly when it is clean. -/
theorem drain_snd_eq_none_iff (steps : List ScriptStep) : (drain steps).2 = none ↔ Clean steps := by
  induction steps with
  | nil => simp [drain, Clean]
  | cons step rest ih =>
    cases step with
    | bytes first more =>
      simp only [drain, ih, Clean, List.mem_cons, reduceCtorEq, false_or]
    | failure e =>
      by_cases hint : e.kind = .interrupted
      · simp only [drain, hint, if_true, ih, Clean, List.mem_cons, ScriptStep.failure.injEq]
        constructor
        · rintro h e' (rfl | he')
          · exact hint
          · exact h e' he'
        · exact fun h e' he' => h e' (Or.inr he')
      · simp only [drain, hint, if_false, reduceCtorEq, false_iff, Clean, List.mem_cons,
          ScriptStep.failure.injEq, not_forall]
        exact ⟨e, Or.inl rfl, hint⟩

end ByteScript

namespace ResponseBody

/-- The bytes a body over a script can still hand out: its reader's, none once released. -/
def remaining (b : ResponseBody ByteScript) : List UInt8 :=
  match b.source with
  | some r => r.data
  | none => []

/-- Reading a held, unexhausted body over a script to the end drains the script, given more
reads than the script has results. -/
theorem readToEndFrom_script {b : ResponseBody ByteScript} {steps : List ScriptStep}
    (hs : b.source = some ⟨steps⟩) (he : b.exhausted = false) (fuel : Nat)
    (hfuel : steps.length < fuel) (acc : List UInt8) :
    (b.readToEndFrom fuel acc).1 =
      (acc.reverse ++ (ByteScript.drain steps).1, (ByteScript.drain steps).2) := by
  induction steps generalizing b fuel acc with
  | nil =>
    obtain ⟨fuel, rfl⟩ : ∃ f, fuel = f + 1 := ⟨fuel - 1, by simp at hfuel; omega⟩
    simp [readToEndFrom, read, hs, he, ByteScript.read, ByteScript.drain]
  | cons step rest ih =>
    obtain ⟨fuel, rfl⟩ : ∃ f, fuel = f + 1 := ⟨fuel - 1, by simp at hfuel; omega⟩
    have hrest : rest.length < fuel := by simp at hfuel; omega
    cases step with
    | failure e =>
      by_cases hint : e.kind = .interrupted
      · have h := @ih { b with source := some ⟨rest⟩, exhausted := false } rfl rfl fuel hrest acc
        simp [readToEndFrom, read, hs, he, ByteScript.read, hint, ByteScript.drain, h]
      · simp [readToEndFrom, read, hs, he, ByteScript.read, hint, ByteScript.drain]
    | bytes first more =>
      -- the buffer exceeds what the script holds, so the read takes the whole result
      have hbuf : ∃ n, b.workLeft + 1 = n + 1 ∧ more.length ≤ n := by
        refine ⟨b.workLeft, rfl, ?_⟩
        simp [workLeft, hs, ByteReader.workLeft, ByteScript.measure, ScriptStep.size]
        omega
      obtain ⟨n, hn, hmore⟩ := hbuf
      have hread : b.read (b.workLeft + 1) =
          (.ok (first :: more), { b with source := some ⟨rest⟩, exhausted := false }) := by
        rw [hn]
        simp [read, hs, he, ByteScript.read, List.take_of_length_le hmore,
          List.drop_eq_nil_of_le hmore, ByteScript.putBack]
      have h := @ih { b with source := some ⟨rest⟩, exhausted := false } rfl rfl fuel hrest
        ((first :: more).reverse ++ acc)
      rw [readToEndFrom, hread]
      show (readToEndFrom fuel _ ((first :: more).reverse ++ acc)).1 = _
      rw [h]
      simp [ByteScript.drain]

/-- `bytes` on a held, unexhausted body over a script: the drained bytes, or the failure the
drain stops at. -/
theorem bytes_script {b : ResponseBody ByteScript} {steps : List ScriptStep}
    (hs : b.source = some ⟨steps⟩) (he : b.exhausted = false) :
    b.bytes.2.1 = match ByteScript.drain steps with
      | (data, none) => .ok data
      | (_, some e) => .error (Error.ofIo e) := by
  have hfuel : steps.length < b.workLeft + 1 := by
    have := ByteScript.length_le_measure steps
    simp [workLeft, hs, ByteReader.workLeft]
    omega
  have hend := readToEndFrom_script hs he (b.workLeft + 1) hfuel []
  unfold bytes readToEnd
  generalize readToEndFrom (b.workLeft + 1) b [] = r at hend ⊢
  obtain ⟨⟨data, failure⟩, b'⟩ := r
  simp only [List.reverse_nil, List.nil_append, Prod.mk.injEq] at hend
  obtain ⟨rfl, rfl⟩ := hend
  generalize ByteScript.drain steps = dr
  obtain ⟨d, f⟩ := dr
  cases f <;> rfl

/-- `bytes` on an exhausted body returns no bytes. -/
theorem bytes_of_exhausted {b : ResponseBody ByteScript} (he : b.exhausted = true) :
    b.bytes.2.1 = .ok [] := by
  unfold bytes readToEnd
  simp [readToEndFrom, read_of_exhausted he]

/-- `bytes` on a released body that is not exhausted fails. -/
theorem bytes_of_released {b : ResponseBody ByteScript} (hr : b.isReleased = true)
    (he : b.exhausted = false) : b.bytes.2.1 = .error (Error.ofIo releasedError) := by
  have hkind : releasedError.kind ≠ .interrupted := by decide
  unfold bytes readToEnd
  simp [readToEndFrom, read_of_released hr he, hkind]

/-! ## What was handed out is the script's start -/

/-- What was handed out is a start of the script's bytes; a held reader still has the rest,
and an exhausted one has no results left. -/
def Accounted (script handed : List UInt8) (b : ResponseBody ByteScript) : Prop :=
  handed <+: script ∧
    ∀ r : ByteScript, b.source = some r → handed ++ r.data = script ∧
      (b.exhausted = true → r.steps = [])

theorem accounted_new (s : ByteScript) (len : Option Nat) (ct : Option String) :
    Accounted s.data [] (ResponseBody.new s len ct) := by
  refine ⟨List.nil_prefix, ?_⟩
  intro r hr
  simp only [ResponseBody.new, Option.some.injEq] at hr
  subst hr
  simp [ResponseBody.new]

/-- A released body hands out at most what it has, which is a start of the script. -/
theorem Accounted.released {script handed : List UInt8} {b : ResponseBody ByteScript}
    (hp : handed <+: script) (hr : b.source = none) : Accounted script handed b :=
  ⟨hp, fun r h => by simp [hr] at h⟩

theorem Accounted.read {script handed : List UInt8} {b : ResponseBody ByteScript}
    (ha : Accounted script handed b) (len : Nat) :
    Accounted script (handed ++ (BodyOp.read len).delivered b) ((BodyOp.read len).apply b) := by
  simp only [BodyOp.delivered, BodyOp.apply]
  by_cases he : b.exhausted = true
  · simpa [read_of_exhausted he] using ha
  · have he' : b.exhausted = false := by simpa using he
    cases hs : b.source with
    | none =>
      have hr : b.isReleased = true := by simp [isReleased, hs]
      simpa [read_of_released hr he'] using ha
    | some r =>
      obtain ⟨hp, hheld⟩ := ha
      have hrest := (hheld r hs).1
      cases hread : r.read len with
      | mk result r' =>
        cases result with
        | error e =>
          have hdata := ByteScript.read_error_data hread
          rw [read_of_held_error hs he' hread]
          refine ⟨by simpa using hp, ?_⟩
          intro r'' hr''
          simp only [Option.some.injEq] at hr''
          subst hr''
          exact ⟨by simpa [hdata] using hrest, fun hx => absurd hx (by simpa using he')⟩
        | ok d =>
          have hdata := ByteScript.read_ok_data hread
          rw [read_of_held_ok hs he' hread]
          have hsum : handed ++ d ++ r'.data = script := by
            rw [List.append_assoc, hdata, hrest]
          refine ⟨⟨r'.data, hsum⟩, ?_⟩
          intro r'' hr''
          simp only [Option.some.injEq] at hr''
          subst hr''
          refine ⟨by simpa using hsum, ?_⟩
          intro hx
          simp only [Bool.and_eq_true, List.isEmpty_iff, bne_iff_ne, ne_eq] at hx
          obtain ⟨rfl, hlen⟩ := hx
          have hend := ByteScript.read_ok_nil hread hlen
          rw [hend.2]
          exact hend.1

/-- `bytes` and `string` hand out at most the rest of the script and release the body. -/
theorem Accounted.drainBytes {script handed : List UInt8} {b : ResponseBody ByteScript}
    (ha : Accounted script handed b) :
    Accounted script (handed ++ (match b.bytes.2.1 with
      | .ok data => data
      | .error _ => [])) b.bytes.2.2 := by
  have hrel : b.bytes.2.2.source = none := by
    simpa [isReleased] using bytes_isReleased b
  apply Accounted.released _ hrel
  obtain ⟨hp, hheld⟩ := ha
  by_cases he : b.exhausted = true
  · simpa [bytes_of_exhausted he] using hp
  · have he' : b.exhausted = false := by simpa using he
    cases hs : b.source with
    | none =>
      have hr : b.isReleased = true := by simp [isReleased, hs]
      simpa [bytes_of_released hr he'] using hp
    | some r =>
      obtain ⟨steps⟩ := r
      rw [bytes_script hs he']
      cases hdrain : ByteScript.drain steps with
      | mk data failure =>
        cases failure with
        | some e => simpa using hp
        | none =>
          have hclean := (ByteScript.drain_snd_eq_none_iff steps).1 (by simp [hdrain])
          have hdata : data = (⟨steps⟩ : ByteScript).data := by
            rw [ByteScript.drain_of_clean hclean] at hdrain
            exact (Prod.mk.inj hdrain).1.symm
          simp only
          rw [hdata, (hheld _ hs).1]

/-- Every operation keeps the account. -/
theorem Accounted.apply {script handed : List UInt8} {b : ResponseBody ByteScript}
    (ha : Accounted script handed b) :
    ∀ op : BodyOp, Accounted script (handed ++ op.delivered b) (op.apply b)
  | .read len => ha.read len
  | .bytes => ha.drainBytes
  | .string cs => by
    show Accounted script (handed ++ BodyOp.bytes.delivered b) (b.string cs).2.2
    rw [(string_eq_bytes b cs).1]
    exact ha.drainBytes
  | .close => Accounted.released (by simpa [BodyOp.delivered] using ha.1)
      (by simpa [isReleased, BodyOp.apply] using close_isReleased b)
  | .drop => Accounted.released (by simpa [BodyOp.delivered] using ha.1)
      (by simpa [isReleased, BodyOp.apply] using close_isReleased b)

/-- Every run keeps the account. -/
theorem Accounted.runOps {script handed : List UInt8} {b : ResponseBody ByteScript}
    (ha : Accounted script handed b) (ops : List BodyOp) :
    Accounted script (handed ++ (runOps ops b).1) (runOps ops b).2 := by
  induction ops generalizing handed b with
  | nil => simpa [ResponseBody.runOps] using ha
  | cons op ops ih =>
    have h := ih (ha.apply op)
    simpa [ResponseBody.runOps, List.append_assoc] using h

/-- On an accounted body, `bytes` succeeds exactly when the body can still be read and no
failure but an interruption is left, and then returns the script's remaining bytes. -/
theorem Accounted.bytes_ok_iff {script handed : List UInt8} {b : ResponseBody ByteScript}
    (ha : Accounted script handed b) (data : List UInt8) :
    b.bytes.2.1 = .ok data ↔
      data = b.remaining ∧ (b.source = none → b.exhausted = true) ∧
        ∀ r : ByteScript, b.source = some r → ByteScript.Clean r.steps := by
  by_cases he : b.exhausted = true
  · -- an exhausted reader has no results left
    have hempty : ∀ r : ByteScript, b.source = some r → r.steps = [] :=
      fun r hs => (ha.2 r hs).2 he
    have hrem : b.remaining = [] := by
      cases hs : b.source with
      | none => simp [remaining, hs]
      | some r => simp [remaining, hs, ByteScript.data, hempty r hs]
    rw [bytes_of_exhausted he, hrem]
    constructor
    · rintro ⟨⟩
      refine ⟨rfl, fun _ => he, ?_⟩
      intro r hs e hmem
      simp [hempty r hs] at hmem
    · rintro ⟨rfl, -⟩
      rfl
  · have he' : b.exhausted = false := by simpa using he
    cases hs : b.source with
    | none =>
      have hr : b.isReleased = true := by simp [isReleased, hs]
      rw [bytes_of_released hr he']
      simp [he']
    | some r =>
      obtain ⟨steps⟩ := r
      rw [bytes_script hs he']
      by_cases hclean : ByteScript.Clean steps
      · rw [ByteScript.drain_of_clean hclean]
        simp [remaining, hs, hclean]
        exact eq_comm
      · have hfail : (ByteScript.drain steps).2 ≠ none :=
          fun h => hclean ((ByteScript.drain_snd_eq_none_iff steps).1 h)
        rcases hdrain : ByteScript.drain steps with ⟨data', failure⟩
        obtain ⟨e, rfl⟩ := Option.ne_none_iff_exists'.1 (by simpa [hdrain] using hfail)
        simp [hclean]

/-- **A response body hands out its script in order.** Over a scripted reader, for every
content length and type and every sequence of reads, `bytes`, `string`, closes and drops
made on a new body, with `b` the body after them:

* what the caller was handed (read bytes, and the bytes successful `bytes` and `string`
  calls returned or decoded) is a start of the script's bytes;
* from `b` on, released stays released and exhausted stays exhausted;
* every read of an exhausted `b` serves no bytes and leaves it as it is; every read of a
  released `b` that is not exhausted fails with `response body already released` and
  hands out nothing;
* `bytes` and `string` leave `b` released, on success and on failure; `string` ends as
  `bytes` does and decodes exactly the bytes `bytes` returns; and `bytes` returns `data`
  exactly when `data` is the script's remaining bytes, the body can still be read, and
  every failure left is an interruption, which reading to the end retries. -/
theorem script_body_reads_in_order (s : ByteScript) (len : Option Nat) (ct : Option String)
    (ops : List BodyOp) :
    (runOps ops (ResponseBody.new s len ct)).1 <+: s.data ∧
      (∀ more : List BodyOp, FlagsKept (runOps ops (ResponseBody.new s len ct)).2
        (runOps more (runOps ops (ResponseBody.new s len ct)).2).2) ∧
      (∀ n, (runOps ops (ResponseBody.new s len ct)).2.exhausted = true →
        (runOps ops (ResponseBody.new s len ct)).2.read n =
          (.ok [], (runOps ops (ResponseBody.new s len ct)).2)) ∧
      (∀ n, (runOps ops (ResponseBody.new s len ct)).2.isReleased = true →
        (runOps ops (ResponseBody.new s len ct)).2.exhausted = false →
        (runOps ops (ResponseBody.new s len ct)).2.read n =
          (.error releasedError, (runOps ops (ResponseBody.new s len ct)).2)) ∧
      (∀ cs, (runOps ops (ResponseBody.new s len ct)).2.bytes.2.2.isReleased = true ∧
        ((runOps ops (ResponseBody.new s len ct)).2.string cs).2.2.isReleased = true ∧
        ((runOps ops (ResponseBody.new s len ct)).2.string cs).2.1 =
          (runOps ops (ResponseBody.new s len ct)).2.bytes.2.1.map
            (cs.getD (runOps ops (ResponseBody.new s len ct)).2.declaredCharset).decode) ∧
      (∀ data, (runOps ops (ResponseBody.new s len ct)).2.bytes.2.1 = .ok data ↔
        data = (runOps ops (ResponseBody.new s len ct)).2.remaining ∧
          ((runOps ops (ResponseBody.new s len ct)).2.source = none →
            (runOps ops (ResponseBody.new s len ct)).2.exhausted = true) ∧
          ∀ r : ByteScript, (runOps ops (ResponseBody.new s len ct)).2.source = some r →
            ByteScript.Clean r.steps) := by
  have ha := (accounted_new s len ct).runOps ops
  rw [List.nil_append] at ha
  refine ⟨ha.1, fun more => runOps_flagsKept more _, fun n he => read_of_exhausted he n,
    fun n hr he => read_of_released hr he n, fun cs => ⟨bytes_isReleased _, ?_, ?_⟩,
    ha.bytes_ok_iff⟩
  · rw [(string_eq_bytes _ cs).1]
    exact bytes_isReleased _
  · exact (string_eq_bytes _ cs).2

end ResponseBody

end HttpCall
