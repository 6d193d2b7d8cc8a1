import HttpCall.Error

/-!
# Retry policy

A policy allows a number of retries beyond the first attempt. After an attempt fails,
the decision reads the failure's kind, how many attempts were made (the failed one
included) and whether the request carries a body. The rules apply in order and the first
that matches decides:

1. the budget is spent (`attempts > retryCount`): stop;
2. the connection was dropped: retry;
3. the TLS handshake failed: stop;
4. the attempt was interrupted: stop;
5. the host was unreachable: retry;
6. any other TLS failure: stop;
7. the request carries a body: stop;
8. otherwise (a timeout or another I/O failure): retry.

A received status is retried while the budget lasts unless it is a success (2xx).
-/

namespace HttpCall

/-- What to do after a failed attempt. -/
inductive RetryDecision where
  | retry
  | stop
  deriving DecidableEq, Repr, Inhabited

/-- The number of retries allowed beyond the first attempt. -/
structure RetryPolicy where
  retryCount : UInt32 := 0
  deriving DecidableEq, Repr, Inhabited

namespace RetryPolicy

/-- The policy that never retries. -/
def disabled : RetryPolicy := {}

/-- The most attempts a call makes, the first included: one more than the retries,
capped at the largest 32-bit count. -/
def maxAttempts (p : RetryPolicy) : Nat :=
  min (p.retryCount.toNat + 1) (UInt32.size - 1)

/-- The decision after a failure of kind `kind` at attempt number `attempts`. -/
def decide (p : RetryPolicy) (kind : FailureKind) (attempts : Nat) (hasBody : Bool) :
    RetryDecision :=
  if attempts > p.retryCount.toNat then .stop
  else match kind with
    | .connectionDropped => .retry
    | .tlsHandshake => .stop
    | .interrupted => .stop
    | .unreachable => .retry
    | .tls => .stop
    | .timeout | .io => if hasBody then .stop else .retry

/-- The decision after a response with status `status` at attempt number `attempts`. -/
def decideStatus (p : RetryPolicy) (status attempts : Nat) : RetryDecision :=
  if (200 ≤ status ∧ status < 300) ∨ attempts > p.retryCount.toNat then .stop else .retry

/-- A retry is decided only while the budget lasts. -/
theorem le_of_decide_eq_retry {p : RetryPolicy} {kind : FailureKind} {attempts : Nat}
    {hasBody : Bool} (h : p.decide kind attempts hasBody = .retry) :
    attempts ≤ p.retryCount.toNat := by
  unfold decide at h
  by_cases ha : attempts > p.retryCount.toNat
  · rw [if_pos ha] at h; cases h
  · omega

/-- A status is retried only while the budget lasts. -/
theorem le_of_decideStatus_eq_retry {p : RetryPolicy} {status attempts : Nat}
    (h : p.decideStatus status attempts = .retry) : attempts ≤ p.retryCount.toNat := by
  unfold decideStatus at h
  by_cases ha : attempts > p.retryCount.toNat
  · rw [if_pos (Or.inr ha)] at h; cases h
  · omega

end RetryPolicy

end HttpCall
