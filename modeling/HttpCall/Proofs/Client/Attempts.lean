import HttpCall.Client.Execute
import HttpCall.Proofs.Retry.Stop

/-!
# The attempts of a call

A call that gets through its preparation makes its attempts as the retry policy of its
options allows, each one a send on the client's engine; one that does not makes none and
returns the error that stopped it. The `ureq` engine judges a response by its status: a
success settles the call, any other status is retried while the budget lasts, whatever
the method. A failed send goes through the same rules as on the other engine.

Main statement (`agent_call_attempts_until_first_final`): on the `ureq` engine the call
makes attempts `1, …, k` for the least `k` that is the budget's last attempt or whose
outcome is a success, an error that is no transport failure, or a transport failure of
a final kind, and returns attempt `k`'s outcome; unless `k = 2 ^ 32`, where the 32-bit
attempt counter overflows after attempt `2 ^ 32 - 1`. So a response that is no success
is returned only once the budget is spent, and a request with a body is sent again only
after a status that is no success, a dropped connection or an unreachable host.
-/

namespace HttpCall.Client

section Outcome

variable {c : Client} {net : Network} {files : FileStore} {fresh : String} {r : Request}
  {call : Option Options} {logs : List LogEntry} {r' : Request}

/-- A call whose preparation fails makes no attempt and returns the error. -/
theorem execute_of_prepareCall_error {e : Error}
    (h : c.prepareCall net.nativeBuild files fresh r call = (logs, .error e, r')) :
    c.execute net files fresh r call = ⟨logs, [], .returned (.error e), r'⟩ := by
  rw [execute, h]

/-- A prepared call is the run of its attempts from number 1. -/
theorem execute_of_prepareCall_ok {plan : CallPlan}
    (h : c.prepareCall net.nativeBuild files fresh r call = (logs, .ok plan, r')) :
    c.execute net files fresh r call =
      ⟨logs ++ (plan.options.retryPolicy.runFrom r.hasBody (fun n => [attemptLog r n])
          c.backend.judge (c.attemptOutcome net plan r') 1).logs,
        (plan.options.retryPolicy.runFrom r.hasBody (fun n => [attemptLog r n])
          c.backend.judge (c.attemptOutcome net plan r') 1).calls,
        (plan.options.retryPolicy.runFrom r.hasBody (fun n => [attemptLog r n])
          c.backend.judge (c.attemptOutcome net plan r') 1).result, r'⟩ := by
  rw [execute, h]

end Outcome

/-- For the `ureq` engine a response is final exactly when it is a success. -/
theorem final_response_iff_isSuccess {hasBody : Bool} {resp : Response} :
    RetryPolicy.Final hasBody (Backend.judge .ureq) (.ok resp) ↔ resp.isSuccess = true := by
  simp [RetryPolicy.Final, Backend.judge, Response.isSuccess]

/-- **A call on the `ureq` engine stops at its first final outcome.** A call whose
preparation fails makes no attempt and returns that error. A prepared call with budget
`r` makes attempts `1, …, k` for the least `k` that is `r + 1` or whose outcome is a
success, an error that is no transport failure, or a failure of a final kind, and
returns attempt `k`'s outcome, unless `k = 2 ^ 32`, where the counter overflows after
attempt `2 ^ 32 - 1`. In every case it makes at most `r + 1` attempts, returns a
response that is no success only once the budget is spent, and sends a request with a
body again only after a status that is no success, a dropped connection or an
unreachable host. -/
theorem agent_call_attempts_until_first_final (defaults : Options) (net : Network)
    (files : FileStore) (fresh : String) (r : Request) (call : Option Options) :
    let c : Client := ⟨.ureq, defaults⟩
    let out := c.execute net files fresh r call
    match c.prepareCall net.nativeBuild files fresh r call with
    | (_, .error e, _) => out.attempts = [] ∧ out.result = .returned (.error e)
    | (_, .ok plan, r') =>
      let budget := plan.options.retryPolicy.retryCount.toNat
      let outcome := c.attemptOutcome net plan r'
      ∃ k, IsLeast {i | 1 ≤ i ∧ RetryPolicy.EndsRun budget r.hasBody (Backend.judge .ureq) i
          (outcome i)} k ∧
        (k < UInt32.size → out.attempts = List.range' 1 k ∧ out.result = .returned (outcome k)) ∧
        (k = UInt32.size →
          out.attempts = List.range' 1 (UInt32.size - 1) ∧ out.result = .overflowed) ∧
        out.attempts.length ≤ budget + 1 ∧
        (∀ resp, out.result = .returned (.ok resp) → out.attempts.length ≤ budget →
          resp.isSuccess = true) ∧
        (r.hasBody = true → ∀ i ∈ out.attempts, i + 1 ∈ out.attempts →
          (∃ resp, outcome i = .ok resp ∧ resp.isSuccess = false) ∨
            ∃ e, outcome i = .error e ∧
              (e.failureKind? = some .connectionDropped ∨ e.failureKind? = some .unreachable)) := by
  intro c out
  rcases hprep : c.prepareCall net.nativeBuild files fresh r call with ⟨logs, e | plan, r'⟩
  · have hout : out = ⟨logs, [], .returned (.error e), r'⟩ := execute_of_prepareCall_error hprep
    exact ⟨by rw [hout], by rw [hout]⟩
  dsimp only
  have hout : out = _ := execute_of_prepareCall_ok hprep
  -- the call's attempts and result are those of the run from attempt 1
  have hattempts : out.attempts = (plan.options.retryPolicy.runFrom r.hasBody
      (fun n => [attemptLog r n]) c.backend.judge (c.attemptOutcome net plan r') 1).calls := by
    rw [hout]
  have hresult : out.result = (plan.options.retryPolicy.runFrom r.hasBody
      (fun n => [attemptLog r n]) c.backend.judge (c.attemptOutcome net plan r') 1).result := by
    rw [hout]
  obtain ⟨k, hleast, hfits, hover⟩ := RetryPolicy.runFrom_one_stops_at_first_end
    plan.options.retryPolicy r.hasBody (fun n => [attemptLog r n]) c.backend.judge
    (c.attemptOutcome net plan r')
  refine ⟨k, hleast, fun hlt => ?_, fun heq => ?_, ?_, ?_, ?_⟩
  · rw [hattempts, hresult]
    exact hfits hlt
  · rw [hattempts, hresult]
    exact hover heq
  · rw [hattempts]
    exact RetryPolicy.runFrom_one_calls_length_le
  · intro resp hres hlen
    rw [hresult] at hres
    rw [hattempts] at hlen
    exact final_response_iff_isSuccess.1 (RetryPolicy.final_of_runFrom_one_returned hres hlen)
  · intro hbody i hi hnext
    rw [hattempts] at hi hnext
    have hnot := RetryPolicy.not_final_of_runFrom_one_retried hi hnext
    rw [hbody] at hnot
    cases ho : c.attemptOutcome net plan r' i with
    | ok resp =>
      rw [ho] at hnot
      have hfail : ¬resp.isSuccess = true := fun hs => hnot (final_response_iff_isSuccess.2 hs)
      exact .inl ⟨resp, rfl, by simpa using hfail⟩
    | error e =>
      rw [ho] at hnot
      exact .inr ⟨e, rfl, RetryPolicy.failureKind_of_not_final_with_body hnot⟩

end HttpCall.Client
