import Mathlib.Data.Nat.Find
import Mathlib.Order.Bounds.Defs
import HttpCall.Retry.Run

/-!
# Where a run of attempts stops

The retry rules name the outcomes that end a call. `FailureKind.IsFinal` is a kind of
failure the policy never retries: a failed TLS handshake, any other TLS failure, an
interruption, and, for a request with a body, a timeout or another I/O failure.
`RetryPolicy.Final` lifts it to the outcome of an attempt: a value with no status to
judge or with a 2xx status, or an error that is no transport failure or of a final kind.
`RetryPolicy.EndsRun` adds the budget: attempt `retryCount + 1` ends a run whatever its
outcome.

Main statement (`runFrom_one_stops_at_first_end`): a run makes attempts 1, 2, …, k for the
least k whose outcome ends it, and returns that outcome; but when k is `2 ^ 32`, which
takes the largest budget, the 32-bit attempt counter runs past its largest value after
attempt `2 ^ 32 - 1`. `run_attempts_until_first_final` reads it for the plain loop, where
every value settles the call.
-/

namespace HttpCall

/-- A kind of failure that no budget retries: a failed TLS handshake, any other TLS
failure, an interruption, and for a request with a body a timeout or another I/O
failure. -/
def FailureKind.IsFinal (hasBody : Bool) (kind : FailureKind) : Prop :=
  kind = .tlsHandshake ∨ kind = .tls ∨ kind = .interrupted ∨
    ((kind = .timeout ∨ kind = .io) ∧ hasBody = true)

namespace RetryPolicy

/-- An outcome that ends a run whatever budget is left: a value that `judge` gives no
status or a 2xx one, or an error that is no transport failure or whose kind is final. -/
def Final {α : Type} (hasBody : Bool) (judge : α → Option Nat) : Except Error α → Prop
  | .ok v => ∀ status ∈ judge v, 200 ≤ status ∧ status < 300
  | .error e => ∀ kind ∈ e.failureKind?, kind.IsFinal hasBody

/-- Does attempt `i` with outcome `o` end a run with budget `r`: it is the budget's last
attempt, or its outcome is final? -/
def EndsRun {α : Type} (r : Nat) (hasBody : Bool) (judge : α → Option Nat) (i : Nat)
    (o : Except Error α) : Prop :=
  i = r + 1 ∨ Final hasBody judge o

/-- The decision table read as a condition: a failure is stopped on when the budget is
spent or its kind is final. -/
theorem decide_eq_stop_iff {p : RetryPolicy} {kind : FailureKind} {n : Nat} {hasBody : Bool} :
    p.decide kind n hasBody = .stop ↔ p.retryCount.toNat < n ∨ kind.IsFinal hasBody := by
  unfold decide FailureKind.IsFinal
  by_cases hn : n > p.retryCount.toNat
  · simp [hn]
  · rw [if_neg hn]
    cases kind <;> cases hasBody <;> simp <;> omega

/-- A status is stopped on when it is a success or the budget is spent. -/
theorem decideStatus_eq_stop_iff {p : RetryPolicy} {status n : Nat} :
    p.decideStatus status n = .stop ↔ (200 ≤ status ∧ status < 300) ∨ p.retryCount.toNat < n := by
  unfold decideStatus
  by_cases h : (200 ≤ status ∧ status < 300) ∨ n > p.retryCount.toNat
  · simp only [if_pos h, true_iff]; omega
  · simp only [if_neg h, reduceCtorEq, false_iff]; omega

/-- A decision that is not a retry is a stop. -/
theorem eq_stop_of_ne_retry {d : RetryDecision} (h : ¬d = .retry) : d = .stop := by
  cases d <;> simp_all

/-- A failure retried for a request with a body is a dropped connection or an unreachable
host. -/
theorem failureKind_of_not_final_with_body {α : Type} {judge : α → Option Nat} {e : Error}
    (h : ¬Final true judge (.error e)) :
    e.failureKind? = some .connectionDropped ∨ e.failureKind? = some .unreachable := by
  cases hk : e.failureKind? with
  | none => simp [Final, hk] at h
  | some kind => cases kind <;> simp_all [Final, FailureKind.IsFinal]

/-- An attempt before the least ending one is neither the budget's last nor final. -/
theorem not_endsRun_of_lt_least {α : Type} {r : Nat} {hasBody : Bool} {judge : α → Option Nat}
    {outcome : Nat → Except Error α} {k i : Nat}
    (hk : IsLeast {i | 1 ≤ i ∧ EndsRun r hasBody judge i (outcome i)} k) (h1 : 1 ≤ i)
    (hi : i < k) : ¬EndsRun r hasBody judge i (outcome i) :=
  fun h => absurd (hk.2 ⟨h1, h⟩) (by omega)

/-- The budget's last attempt ends every run, so the least ending attempt is within it. -/
theorem least_le_budget {α : Type} {r : Nat} {hasBody : Bool} {judge : α → Option Nat}
    {outcome : Nat → Except Error α} {k : Nat}
    (hk : IsLeast {i | 1 ≤ i ∧ EndsRun r hasBody judge i (outcome i)} k) : k ≤ r + 1 :=
  hk.2 ⟨by omega, .inl rfl⟩

section Verdict

variable {α : Type} {p : RetryPolicy} {hasBody : Bool} {judge : α → Option Nat} {n : Nat}

/-- A verdict either settles the call with the attempt's own outcome or retries. -/
theorem verdict_settle_or_retry (p : RetryPolicy) (hasBody : Bool) (judge : α → Option Nat)
    (n : Nat) (o : Except Error α) :
    p.verdict hasBody judge n o = .settle o ∨ ∃ w, p.verdict hasBody judge n o = .retry w := by
  cases o with
  | ok v =>
    cases hj : judge v with
    | none => simp [verdict, hj]
    | some status => simp only [verdict, hj]; split <;> simp
  | error e =>
    cases hk : e.failureKind? with
    | none => simp [verdict, hk]
    | some kind => simp only [verdict, hk]; split <;> simp

/-- The verdict settles exactly when the budget is spent or the outcome is final. -/
theorem verdict_eq_settle_iff {o : Except Error α} :
    p.verdict hasBody judge n o = .settle o ↔ p.retryCount.toNat < n ∨ Final hasBody judge o := by
  cases o with
  | ok v =>
    cases hj : judge v with
    | none => simp [verdict, Final, hj]
    | some status =>
      simp only [verdict, Final, hj, Option.mem_def, Option.some.injEq, forall_eq']
      by_cases hr : p.decideStatus status n = .retry
      · have hns : ¬p.decideStatus status n = .stop := by rw [hr]; simp
        rw [decideStatus_eq_stop_iff] at hns
        simp only [hr, if_true, reduceCtorEq, false_iff]
        exact fun h => hns h.symm
      · simp only [hr, if_false, true_iff]
        exact (decideStatus_eq_stop_iff.1 (eq_stop_of_ne_retry hr)).symm
  | error e =>
    cases hk : e.failureKind? with
    | none => simp [verdict, Final, hk]
    | some kind =>
      simp only [verdict, Final, hk, Option.mem_def, Option.some.injEq, forall_eq']
      by_cases hr : p.decide kind n hasBody = .retry
      · have hns : ¬p.decide kind n hasBody = .stop := by rw [hr]; simp
        rw [decide_eq_stop_iff] at hns
        simp only [hr, if_true, reduceCtorEq, false_iff]
        exact hns
      · simp only [hr, if_false, true_iff]
        exact decide_eq_stop_iff.1 (eq_stop_of_ne_retry hr)

end Verdict

section Run

variable {α : Type} {p : RetryPolicy} {hasBody : Bool} (before : Nat → List LogEntry)
  {judge : α → Option Nat} {attempt : Nat → Except Error α}

/-- `m` retried attempts from number `n` followed by one that settles: the run makes these
`m + 1` attempts and returns the settled result. -/
theorem runFrom_of_retries_then_settle {result : Except Error α} (m n : Nat)
    (room : n + m < UInt32.size)
    (retries : ∀ i, n ≤ i → i < n + m → ∃ w, p.verdict hasBody judge i (attempt i) = .retry w)
    (settles : p.verdict hasBody judge (n + m) (attempt (n + m)) = .settle result) :
    (p.runFrom hasBody before judge attempt n).calls = List.range' n (m + 1) ∧
      (p.runFrom hasBody before judge attempt n).result = .returned result := by
  induction m generalizing n with
  | zero =>
    rw [runFrom_of_settle (by simpa using settles)]
    exact ⟨rfl, rfl⟩
  | succ m ih =>
    obtain ⟨w, hw⟩ := retries n le_rfl (by omega)
    have hrest := ih (n + 1) (by omega) (fun i h1 h2 => retries i (by omega) (by omega))
      (by rwa [show n + 1 + m = n + (m + 1) by omega])
    rw [runFrom_of_retry hw (by omega)]
    exact ⟨by simp only [hrest.1, List.range'_succ], hrest.2⟩

/-- Attempts retried from number `n` up to the largest 32-bit number: the run makes them
all, and the counter overflows after the last. -/
theorem runFrom_of_retries_to_overflow (m n : Nat) (full : n + m + 1 = UInt32.size)
    (retries : ∀ i, n ≤ i → i ≤ n + m → ∃ w, p.verdict hasBody judge i (attempt i) = .retry w) :
    (p.runFrom hasBody before judge attempt n).calls = List.range' n (m + 1) ∧
      (p.runFrom hasBody before judge attempt n).result = .overflowed := by
  induction m generalizing n with
  | zero =>
    obtain ⟨w, hw⟩ := retries n le_rfl (by omega)
    rw [runFrom_of_retry_last hw (by omega)]
    exact ⟨rfl, rfl⟩
  | succ m ih =>
    obtain ⟨w, hw⟩ := retries n le_rfl (by omega)
    have hrest := ih (n + 1) (by omega) (fun i h1 h2 => retries i (by omega) (by omega))
    rw [runFrom_of_retry hw (by omega)]
    exact ⟨by simp only [hrest.1, List.range'_succ], hrest.2⟩

/-- **A run stops at its first ending attempt.** For the least `k ≥ 1` whose attempt ends
the run (the budget's last attempt, or a final outcome), the run makes attempts `1, …, k`
and returns attempt `k`'s outcome. Only when `k = 2 ^ 32`, which needs the largest
budget and a retried outcome at every smaller number, does the 32-bit counter overflow
after attempt `2 ^ 32 - 1` instead. -/
theorem runFrom_one_stops_at_first_end (p : RetryPolicy) (hasBody : Bool)
    (before : Nat → List LogEntry) (judge : α → Option Nat) (attempt : Nat → Except Error α) :
    ∃ k, IsLeast {i | 1 ≤ i ∧ EndsRun p.retryCount.toNat hasBody judge i (attempt i)} k ∧
      (k < UInt32.size →
        (p.runFrom hasBody before judge attempt 1).calls = List.range' 1 k ∧
          (p.runFrom hasBody before judge attempt 1).result = .returned (attempt k)) ∧
      (k = UInt32.size →
        (p.runFrom hasBody before judge attempt 1).calls = List.range' 1 (UInt32.size - 1) ∧
          (p.runFrom hasBody before judge attempt 1).result = .overflowed) := by
  classical
  have hex : ∃ i, 1 ≤ i ∧ EndsRun p.retryCount.toNat hasBody judge i (attempt i) :=
    ⟨p.retryCount.toNat + 1, by omega, .inl rfl⟩
  have hleast : IsLeast {i | 1 ≤ i ∧ EndsRun p.retryCount.toNat hasBody judge i (attempt i)}
      (Nat.find hex) :=
    ⟨Nat.find_spec hex, fun i hi => Nat.find_min' hex hi⟩
  have hk1 : 1 ≤ Nat.find hex := (Nat.find_spec hex).1
  have hkr : Nat.find hex ≤ p.retryCount.toNat + 1 := least_le_budget hleast
  have retries : ∀ i, 1 ≤ i → i < Nat.find hex →
      ∃ w, p.verdict hasBody judge i (attempt i) = .retry w := by
    intro i h1 h2
    rcases verdict_settle_or_retry p hasBody judge i (attempt i) with hs | hw
    · exfalso
      rcases verdict_eq_settle_iff.1 hs with hlt | hf
      · omega
      · exact Nat.find_min hex h2 ⟨h1, .inr hf⟩
    · exact hw
  have settles : p.verdict hasBody judge (Nat.find hex) (attempt (Nat.find hex)) =
      .settle (attempt (Nat.find hex)) := by
    rcases (Nat.find_spec hex).2 with heq | hf
    · exact verdict_eq_settle_iff.2 (.inl (by omega))
    · exact verdict_eq_settle_iff.2 (.inr hf)
  refine ⟨Nat.find hex, hleast, ?_, ?_⟩
  · intro hlt
    have hk : Nat.find hex - 1 + 1 = Nat.find hex := by omega
    have h := runFrom_of_retries_then_settle before (Nat.find hex - 1) 1 (by omega)
      (fun i h1 h2 => retries i h1 (by omega)) (by rwa [Nat.add_comm, hk])
    rwa [hk] at h
  · intro heq
    exact runFrom_of_retries_to_overflow before (UInt32.size - 2) 1 (by decide)
      (fun i h1 h2 => retries i h1 (by rw [heq]; exact Nat.lt_of_le_of_lt h2 (by decide)))

section Least

variable {before}

/-- A run from attempt 1 makes the attempts up to the least ending one, or up to the
counter's largest value when that is `2 ^ 32`. -/
theorem runFrom_one_calls {k : Nat}
    (hk : IsLeast {i | 1 ≤ i ∧ EndsRun p.retryCount.toNat hasBody judge i (attempt i)} k) :
    (p.runFrom hasBody before judge attempt 1).calls = List.range' 1 (min k (UInt32.size - 1)) := by
  obtain ⟨k', hk', hfits, hover⟩ := runFrom_one_stops_at_first_end p hasBody before judge attempt
  -- the least ending attempt is unique
  obtain rfl : k = k' := Nat.le_antisymm (hk.2 hk'.1) (hk'.2 hk.1)
  have hkr := least_le_budget hk
  have hks : k ≤ UInt32.size := by
    have := p.retryCount.toNat_lt_size
    omega
  by_cases hlt : k < UInt32.size
  · rw [(hfits hlt).1, Nat.min_eq_left (by omega)]
  · rw [(hover (by omega)).1, Nat.min_eq_right (by omega)]

/-- A run makes at most `retryCount + 1` attempts. -/
theorem runFrom_one_calls_length_le :
    (p.runFrom hasBody before judge attempt 1).calls.length ≤ p.retryCount.toNat + 1 := by
  obtain ⟨k, hk, -, -⟩ := runFrom_one_stops_at_first_end p hasBody before judge attempt
  have hkr := least_le_budget hk
  rw [runFrom_one_calls hk, List.length_range']
  omega

/-- An outcome a run returns before its budget is spent is final. -/
theorem final_of_runFrom_one_returned {o : Except Error α}
    (hres : (p.runFrom hasBody before judge attempt 1).result = .returned o)
    (hlen : (p.runFrom hasBody before judge attempt 1).calls.length ≤ p.retryCount.toNat) :
    Final hasBody judge o := by
  obtain ⟨k, hk, hfits, hover⟩ := runFrom_one_stops_at_first_end p hasBody before judge attempt
  have hkr := least_le_budget hk
  have hks : k ≤ UInt32.size := by
    have := p.retryCount.toNat_lt_size
    omega
  -- a run that overflows returns nothing
  have hlt : k < UInt32.size := by
    refine Nat.lt_of_le_of_ne hks fun heq => ?_
    rw [(hover heq).2] at hres
    cases hres
  rw [(hfits hlt).2] at hres
  cases hres
  rw [runFrom_one_calls hk, List.length_range'] at hlen
  rcases hk.1.2 with hlast | hfinal
  · omega
  · exact hfinal

/-- An attempt that a run follows with another one has an outcome that is not final. -/
theorem not_final_of_runFrom_one_retried {i : Nat}
    (hi : i ∈ (p.runFrom hasBody before judge attempt 1).calls)
    (hnext : i + 1 ∈ (p.runFrom hasBody before judge attempt 1).calls) :
    ¬Final hasBody judge (attempt i) := by
  obtain ⟨k, hk, -, -⟩ := runFrom_one_stops_at_first_end p hasBody before judge attempt
  rw [runFrom_one_calls hk, List.mem_range'_1] at hi hnext
  exact fun hf => not_endsRun_of_lt_least hk hi.1 (by omega) (.inr hf)

end Least

/-- **The plain attempt loop stops at the first final outcome.** For every budget `r`,
every body flag and every sequence of outcomes, with `k` the least attempt number that is
`r + 1` or whose outcome is a value, an error that is no transport failure, or a
transport failure of a final kind: when `k` fits the 32-bit counter, the loop makes
attempts `1, …, k` in order, returns attempt `k`'s outcome, and makes at most
`maxAttempts` attempts. When `k = 2 ^ 32` (budget `2 ^ 32 - 1`, every earlier outcome
retried) it makes attempts `1, …, 2 ^ 32 - 1` and the counter overflows. -/
theorem run_attempts_until_first_final (p : RetryPolicy) (hasBody : Bool)
    (attempt : Nat → Except Error α) :
    ∃ k, IsLeast {i | 1 ≤ i ∧ EndsRun p.retryCount.toNat hasBody (fun _ => none) i (attempt i)} k ∧
      (k < UInt32.size →
        (p.run hasBody attempt).calls = List.range' 1 k ∧
          (p.run hasBody attempt).result = .returned (attempt k) ∧ k ≤ p.maxAttempts) ∧
      (k = UInt32.size →
        (p.run hasBody attempt).calls = List.range' 1 (UInt32.size - 1) ∧
          (p.run hasBody attempt).result = .overflowed) := by
  obtain ⟨k, hleast, hfits, hover⟩ :=
    runFrom_one_stops_at_first_end p hasBody (fun _ => []) (fun _ => none) attempt
  have hkr : k ≤ p.retryCount.toNat + 1 := least_le_budget hleast
  refine ⟨k, hleast, fun hlt => ?_, hover⟩
  obtain ⟨hcalls, hresult⟩ := hfits hlt
  refine ⟨hcalls, hresult, ?_⟩
  unfold maxAttempts
  omega

/-- With the largest budget and a connection that always drops, the loop makes attempts
`1, …, 2 ^ 32 - 1` and then runs the counter past its largest value: no outcome is
returned. -/
theorem run_overflows_when_every_attempt_drops :
    (RetryPolicy.run ⟨4294967295⟩ false
      (fun _ => (.error (.transport .connectionDropped "reset") : Except Error Unit))).result =
      .overflowed := by
  refine (runFrom_of_retries_to_overflow (fun _ => []) (UInt32.size - 2) 1 (by decide) ?_).2
  intro i _ hi
  have hbudget : (⟨4294967295⟩ : RetryPolicy).retryCount.toNat = 4294967295 := rfl
  have hsize : UInt32.size = 4294967296 := rfl
  rcases verdict_settle_or_retry ⟨4294967295⟩ false (fun _ => none) i
    (.error (.transport .connectionDropped "reset") : Except Error Unit) with hs | hw
  · rcases verdict_eq_settle_iff.1 hs with hlt | hf
    · omega
    · simp [Final, Error.failureKind?, FailureKind.IsFinal] at hf
  · exact hw

end Run

end RetryPolicy

end HttpCall
