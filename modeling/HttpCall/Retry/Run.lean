import HttpCall.Retry.Policy
import HttpCall.Error

/-!
# The attempt loop

A call is attempted with numbers 1, 2, … until an attempt settles it. After each attempt
the policy gives its verdict on the outcome (`RetryPolicy.verdict`): an error that is no
transport failure settles the call; a transport failure settles it when the policy says
stop, and is otherwise reported as a warning and followed by the next attempt. A value
settles the call, unless it has a status to judge (`judge`) and the policy retries that
status.

The attempt number is a 32-bit counter, raised by one before each attempt with no check.
The policy stops once the number passes the budget, so below the largest budget a call
makes at most `retryCount + 1` attempts. With the largest budget the number never passes
it: when attempt `2 ^ 32 - 1` is retried, the counter runs past its largest value (a
panic in a debug build, a wrap to zero in a release build), and the run ends there as
`overflowed`. `runFrom` is defined by well-founded recursion on the room left in the
counter.
-/

namespace HttpCall

/-- How a run of attempts ends. -/
inductive RunEnd (α : Type) where
  /-- An attempt settled the call with this result. -/
  | returned (result : Except Error α)
  /-- The attempt counter ran past the largest 32-bit number. -/
  | overflowed
  deriving Repr, Inhabited

/-- What the policy makes of the outcome of one attempt. -/
inductive Verdict (α : Type) where
  /-- The call ends with this result. -/
  | settle (result : Except Error α)
  /-- The call goes on after this warning. -/
  | retry (warning : LogEntry)
  deriving Repr

/-- What a run of attempts did: the attempt numbers in order, the entries it logged, and
how it ended. -/
structure RunTrace (α : Type) where
  calls : List Nat
  logs : List LogEntry
  result : RunEnd α

namespace RetryPolicy

/-- The warning before a retry after a failure. -/
def failureWarning (p : RetryPolicy) (kind : FailureKind) (n : Nat) (e : Error) : LogEntry :=
  .warn ("Retrying after " ++ kind.describe ++ " failure (attempt " ++ toString n ++ " of " ++
    toString p.maxAttempts ++ "): " ++ e.message)

/-- The warning before a retry after a status. -/
def statusWarning (p : RetryPolicy) (status n : Nat) : LogEntry :=
  .warn ("Retrying after status " ++ toString status ++ " (attempt " ++ toString n ++ " of " ++
    toString p.maxAttempts ++ ")")

/-- The verdict on the outcome of attempt number `n`. `judge v` is the status of a value
that the policy may retry, or none for a value that settles the call. -/
def verdict {α : Type} (p : RetryPolicy) (hasBody : Bool) (judge : α → Option Nat) (n : Nat) :
    Except Error α → Verdict α
  | .ok v =>
    match judge v with
    | none => .settle (.ok v)
    | some status =>
      if p.decideStatus status n = .retry then .retry (p.statusWarning status n)
      else .settle (.ok v)
  | .error e =>
    match e.failureKind? with
    | none => .settle (.error e)
    | some kind =>
      if p.decide kind n hasBody = .retry then .retry (p.failureWarning kind n e)
      else .settle (.error e)

/-- Attempts from number `n` on. `before n` is logged as attempt `n` starts. -/
def runFrom {α : Type} (p : RetryPolicy) (hasBody : Bool) (before : Nat → List LogEntry)
    (judge : α → Option Nat) (attempt : Nat → Except Error α) (n : Nat) : RunTrace α :=
  match p.verdict hasBody judge n (attempt n) with
  | .settle result => ⟨[n], before n, .returned result⟩
  | .retry warning =>
    if _h : n + 1 < UInt32.size then
      let rest := runFrom p hasBody before judge attempt (n + 1)
      ⟨n :: rest.calls, before n ++ warning :: rest.logs, rest.result⟩
    else ⟨[n], before n ++ [warning], .overflowed⟩
termination_by UInt32.size - n
decreasing_by omega

/-- Attempts from the first on, each value settling the call. -/
def run {α : Type} (p : RetryPolicy) (hasBody : Bool) (attempt : Nat → Except Error α) :
    RunTrace α :=
  runFrom p hasBody (fun _ => []) (fun _ => none) attempt 1

section Steps

variable {α : Type} {p : RetryPolicy} {hasBody : Bool} {before : Nat → List LogEntry}
  {judge : α → Option Nat} {attempt : Nat → Except Error α} {n : Nat}

/-- An attempt whose outcome settles the call is the last. -/
theorem runFrom_of_settle {result : Except Error α}
    (h : p.verdict hasBody judge n (attempt n) = .settle result) :
    p.runFrom hasBody before judge attempt n = ⟨[n], before n, .returned result⟩ := by
  rw [runFrom, h]

/-- A retried attempt with room left in the counter is followed by the run from the next
number. -/
theorem runFrom_of_retry {warning : LogEntry}
    (h : p.verdict hasBody judge n (attempt n) = .retry warning) (room : n + 1 < UInt32.size) :
    p.runFrom hasBody before judge attempt n =
      ⟨n :: (p.runFrom hasBody before judge attempt (n + 1)).calls,
        before n ++ warning :: (p.runFrom hasBody before judge attempt (n + 1)).logs,
        (p.runFrom hasBody before judge attempt (n + 1)).result⟩ := by
  rw [runFrom, h]
  simp only [dif_pos room]

/-- A retried attempt with the largest number overflows the counter. -/
theorem runFrom_of_retry_last {warning : LogEntry}
    (h : p.verdict hasBody judge n (attempt n) = .retry warning) (full : ¬n + 1 < UInt32.size) :
    p.runFrom hasBody before judge attempt n = ⟨[n], before n ++ [warning], .overflowed⟩ := by
  rw [runFrom, h]
  simp only [dif_neg full]

end Steps

end RetryPolicy

end HttpCall
