import HttpCall.Options.Basic

/-!
# Timeouts set from spans

A builder step sets the connect, read or write timeout from a span of seconds and
nanoseconds. The options keep whole milliseconds, capped at the largest 64-bit count, and a
count of zero turns the timeout off.

Main statement (`setTimeout_millis_and_off`): after the step, the count is the span's whole
milliseconds capped at `2^64 - 1`, and the timeout is off exactly when the span is shorter
than one millisecond; otherwise it is that count. A span of half a millisecond is not zero
and still turns the timeout off (`half_millisecond_turns_timeout_off`).
-/

namespace HttpCall

namespace Span

/-- The length of a span in nanoseconds. -/
def nanosTotal (s : Span) : Nat :=
  s.secs.toNat * 1000000000 + s.nanos.toNat

/-- The whole milliseconds of a span, from its length in nanoseconds. -/
theorem nanosTotal_div (s : Span) :
    s.nanosTotal / 1000000 = s.secs.toNat * 1000 + s.nanos.toNat / 1000000 := by
  unfold nanosTotal
  rw [show s.secs.toNat * 1000000000 = 1000000 * (s.secs.toNat * 1000) by omega,
    Nat.add_comm, Nat.add_mul_div_left _ _ (by decide), Nat.add_comm]

/-- The stored count is the span's whole milliseconds, capped at the largest 64-bit count. -/
theorem millis_toNat (s : Span) :
    s.millis.toNat = min (s.nanosTotal / 1000000) (UInt64.size - 1) := by
  rw [nanosTotal_div, millis]
  split
  · next h =>
    rw [Nat.toUInt64_eq, UInt64.toNat_ofNat_of_lt' h]
    omega
  · next h =>
    rw [Nat.toUInt64_eq, UInt64.toNat_ofNat_of_lt' (by decide)]
    omega

/-- The count is zero exactly when the span is shorter than a millisecond. -/
theorem millis_eq_zero_iff (s : Span) : s.millis = 0 ↔ s.nanosTotal < 1000000 := by
  rw [← UInt64.toNat_inj, millis_toNat, UInt64.toNat_zero]
  constructor
  · intro h
    have : s.nanosTotal / 1000000 = 0 := by
      have hsize : UInt64.size - 1 ≠ 0 := by decide
      omega
    omega
  · intro h
    have : s.nanosTotal / 1000000 = 0 := Nat.div_eq_of_lt h
    omega

end Span

namespace Options

/-- The three timeouts of the options. -/
inductive Timeout where
  | connect
  | read
  | write
  deriving DecidableEq, Repr

/-- The builder step that sets a timeout. -/
def Timeout.step : Timeout → Span → OptionsStep
  | .connect => .connectTimeout
  | .read => .readTimeout
  | .write => .writeTimeout

/-- The count of milliseconds the options keep for a timeout. -/
def Timeout.millis : Timeout → Options → UInt64
  | .connect => connectTimeoutMillis
  | .read => readTimeoutMillis
  | .write => writeTimeoutMillis

/-- Setting a timeout stores the span's capped whole milliseconds, whatever the options held. -/
@[simp]
theorem Timeout.millis_apply_step (t : Timeout) (o : Options) (s : Span) :
    t.millis (o.apply (t.step s)) = s.millis := by
  cases t <;> rfl

/-- A timeout is off exactly when its count is zero. -/
theorem timeout?_eq (m : UInt64) : timeout? m = if m = 0 then none else some m := rfl

/-- **A timeout set from a span.** Its count is the span's whole milliseconds, capped at
`2^64 - 1`; the timeout is off exactly when the span is shorter than one millisecond, and is
otherwise that count. -/
theorem setTimeout_millis_and_off (t : Timeout) (o : Options) (s : Span) :
    (t.millis (o.apply (t.step s))).toNat = min (s.nanosTotal / 1000000) (UInt64.size - 1) ∧
      timeout? (t.millis (o.apply (t.step s))) =
        if s.nanosTotal < 1000000 then none else some (t.millis (o.apply (t.step s))) := by
  rw [Timeout.millis_apply_step]
  refine ⟨s.millis_toNat, ?_⟩
  rw [timeout?_eq]
  by_cases h : s.nanosTotal < 1000000
  · rw [if_pos ((Span.millis_eq_zero_iff s).2 h), if_pos h]
  · rw [if_neg (mt (Span.millis_eq_zero_iff s).1 h), if_neg h]

/-- Half a millisecond is not a zero span, yet it turns the read timeout off. -/
theorem half_millisecond_turns_timeout_off :
    (⟨0, 500000⟩ : Span) ≠ ⟨0, 0⟩ ∧
      timeout? (defaults.apply (.readTimeout ⟨0, 500000⟩)).readTimeoutMillis = none := by
  decide

end Options

end HttpCall
