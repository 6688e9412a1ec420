import AttestationSdk.HttpSettings
import AttestationSdk.HttpTransfer

/-! The retry loop of `NvHttpClient::do_request_as_string`. -/
namespace AttestationSdk.Http
open Effects

def curleOk : Int := 0
def curleCouldntResolveHost : Int := 6
def curleCouldntConnect : Int := 7
def curleOperationTimedout : Int := 28

def isHttpStatus2xx (code : Int) : Bool := 200 ≤ code && code < 300

def isHttpRetryable (code : Int) : Bool :=
  code = 408 || code = 429 || code = 500 || code = 502 || code = 503 || code = 504

def isCurlRetryable (code : Int) : Bool :=
  code = curleCouldntConnect || code = curleCouldntResolveHost || code = curleOperationTimedout

/-- What `curl_easy_perform` comes to: its code, the response code, and what the write callback was
given, which may be a part of a body. -/
structure Attempt where
  curlCode : Int
  responseCode : Int
  written : String
  deriving Repr, DecidableEq

/-- The variables of the loop. `bounds` collects the bounds of the jitter, and `curTry` stays far
from the bounds of a `long`. -/
structure LoopState where
  lastError : Error := .InternalError
  curTry : Nat := 0
  backoffMs : Int
  outStatus : Int
  outResponse : String := ""
  bounds : List Int := []
  deriving Repr, DecidableEq

/-- Before a repeated attempt: the response is cleared and the loop sleeps for a random time. -/
def backOff (options : HttpOptions) (st : LoopState) : LoopState :=
  if st.curTry = 0 then st
  else { st with
    outResponse := ""
    backoffMs := min (st.backoffMs * 2) options.maxBackoffMs
    bounds := st.bounds ++ [st.backoffMs] }

/-- How the turn with an attempt ends: it returns, or goes on to the condition of the loop. -/
def afterAttempt (attempt : Attempt) (st : LoopState) : Except (Error × LoopState) LoopState :=
  let st := { st with curTry := st.curTry + 1, outResponse := st.outResponse ++ attempt.written }
  if attempt.curlCode ≠ curleOk then
    if isCurlRetryable attempt.curlCode then .ok st else .error (.InternalError, st)
  else
    let st := { st with outStatus := attempt.responseCode }
    if isHttpStatus2xx attempt.responseCode then .error (.Ok, st)
    else if !isHttpRetryable attempt.responseCode then .error (.Ok, st)
    else .ok { st with lastError := .Ok }

section Loop
variable {σ : Type} (options : HttpOptions) (perform : Prog Fault σ Attempt)

/-- The loop with a bound on its turns. -/
def retryLoop : Nat → LoopState → Prog Fault σ (Error × LoopState)
  | 0, _ => Prog.fail .outOfFuel
  | turns + 1, st => do
    let attempt ← perform
    match afterAttempt attempt (backOff options st) with
    | .error result => return result
    | .ok st =>
      if st.curTry ≤ options.maxRetryCount then retryLoop turns st
      else return (st.lastError, st)

end Loop

section Request
variable {σ M P : Type} (lib : SlistLib M P)
  (perform : M × CurlHandle P → Prog Fault σ Attempt)

/-- `NvHttpClient::do_request_as_string`, with the caller's status and libcurl's memory. -/
def doRequestAsString (client : NvHttpClient) (m : M) (outStatus : Int) (request : NvRequest) :
    Prog Fault σ (Error × LoopState) :=
  let st : LoopState := { backoffMs := client.options.baseBackoffMs, outStatus }
  if client.options.caBundlePathError ≠ .Ok || client.options.caBundlePath.isEmpty then
    pure (.InternalError, st)
  else
    retryLoop client.options (perform (prepare lib client request m))
      (client.options.maxRetryCount.toNat + 1) st

/-- The client that the services are asked with; a caller's status starts at zero. -/
def NvHttpClient.toClient (client : NvHttpClient) (m : M) : HttpClient σ where
  doRequestAsString request := do
    let (rc, st) ← Http.doRequestAsString lib perform client m 0 request
    return (rc, st.outStatus, st.outResponse)

end Request

/-- Attempts that end in a given order; the world counts them. -/
def attemptsFrom (outcomes : Nat → Attempt) : Prog Fault Nat Attempt :=
  fun n => (.ok (outcomes n), n + 1)

/-- The attempt got an HTTP response. -/
def Attempt.Responded (attempt : Attempt) : Prop := attempt.curlCode = curleOk

/-- The loop stops at the attempt: a status that is 2xx or not retryable, or a fatal transport
error. -/
def Attempt.Final (attempt : Attempt) : Prop :=
  (attempt.curlCode = curleOk ∧ (isHttpStatus2xx attempt.responseCode = true ∨
    isHttpRetryable attempt.responseCode = false)) ∨
  (attempt.curlCode ≠ curleOk ∧ isCurlRetryable attempt.curlCode = false)

section Turns
variable {attempt : Attempt} {st : LoopState}

/-- At a final attempt the loop returns what the attempt got, or an error. -/
theorem afterAttempt_final (h : attempt.Final) (hclear : st.outResponse = "") :
    ∃ rc st', afterAttempt attempt st = .error (rc, st') ∧
      (attempt.Responded → rc = .Ok ∧ st'.outStatus = attempt.responseCode ∧
        st'.outResponse = attempt.written) ∧
      (¬ attempt.Responded → rc = .InternalError) := by
  rw [afterAttempt, hclear, String.empty_append]
  cases h with
  | inl hstatus =>
    simp only [hstatus.1, ne_eq, not_true_eq_false, if_false]
    by_cases hok : isHttpStatus2xx attempt.responseCode = true
    · rw [if_pos hok]
      exact ⟨_, _, rfl, fun _ => ⟨rfl, rfl, rfl⟩, fun hnone => absurd hstatus.1 hnone⟩
    · have hstop := hstatus.2.resolve_left hok
      rw [if_neg hok, hstop]
      exact ⟨_, _, rfl, fun _ => ⟨rfl, rfl, rfl⟩, fun hnone => absurd hstatus.1 hnone⟩
  | inr hfatal =>
    simp only [ne_eq, hfatal.1, not_false_eq_true, if_true, hfatal.2, Bool.false_eq_true, if_false]
    exact ⟨_, _, rfl, fun hresponded => absurd hresponded hfatal.1, fun _ => rfl⟩

/-- After any other attempt the loop goes on, and only a response changes its verdict. -/
theorem afterAttempt_continues (h : ¬ attempt.Final) (hclear : st.outResponse = "") :
    ∃ st', afterAttempt attempt st = .ok st' ∧ st'.curTry = st.curTry + 1 ∧
      (attempt.Responded → st'.lastError = .Ok ∧ st'.outStatus = attempt.responseCode ∧
        st'.outResponse = attempt.written) ∧
      (¬ attempt.Responded → st'.lastError = st.lastError) := by
  rw [afterAttempt, hclear, String.empty_append]
  by_cases hcode : attempt.curlCode = curleOk
  · have hok : isHttpStatus2xx attempt.responseCode = false :=
      Bool.eq_false_iff.mpr fun hok => h (.inl ⟨hcode, .inl hok⟩)
    have hretry : isHttpRetryable attempt.responseCode = true :=
      Bool.not_eq_false _ ▸ fun hstop => h (.inl ⟨hcode, .inr hstop⟩)
    simp only [hcode, ne_eq, not_true_eq_false, if_false, hok, Bool.false_eq_true, hretry,
      Bool.not_true]
    exact ⟨_, rfl, rfl, fun _ => ⟨rfl, rfl, rfl⟩, fun hnone => absurd hcode hnone⟩
  · have hretry : isCurlRetryable attempt.curlCode = true :=
      Bool.not_eq_false _ ▸ fun hfatal => h (.inr ⟨hcode, hfatal⟩)
    simp only [ne_eq, hcode, not_false_eq_true, if_true, hretry]
    exact ⟨_, rfl, rfl, fun hresponded => absurd hresponded hcode, fun _ => rfl⟩

theorem backOff_clear {options : HttpOptions} (h : st.curTry = 0 → st.outResponse = "") :
    (backOff options st).outResponse = "" := by
  rw [backOff]
  split
  · next hfirst => exact h hfirst
  · rfl

theorem backOff_curTry (options : HttpOptions) : (backOff options st).curTry = st.curTry := by
  rw [backOff]
  split
  · rfl
  · rfl

theorem backOff_lastError (options : HttpOptions) :
    (backOff options st).lastError = st.lastError := by
  rw [backOff]
  split
  · rfl
  · rfl

end Turns

/-- The loop, entered at attempt `n` of those up to `limit`, ended at attempt `k`. -/
structure Ended (outcomes : Nat → Attempt) (n limit : Nat) (okBefore : Prop) (rc : Error)
    (st : LoopState) (k : Nat) : Prop where
  le : n ≤ k
  le_limit : k ≤ limit
  earlier : ∀ i, n ≤ i → i < k → ¬ (outcomes i).Final
  stops : (outcomes k).Final ∨ k = limit
  responded : (outcomes k).Responded →
    rc = .Ok ∧ st.outStatus = (outcomes k).responseCode ∧ st.outResponse = (outcomes k).written
  unanswered : ¬ (outcomes k).Responded → (rc = .Ok ↔ ¬ (outcomes k).Final ∧
    (okBefore ∨ ∃ i, n ≤ i ∧ i < k ∧ (outcomes i).Responded))

/-- One turn of the loop over given attempts. -/
theorem retryLoop_turn (options : HttpOptions) (outcomes : Nat → Attempt) (turns : Nat)
    (st : LoopState) (n : Nat) :
    retryLoop options (attemptsFrom outcomes) (turns + 1) st n =
      match afterAttempt (outcomes n) (backOff options st) with
      | .error result => (.ok result, n + 1)
      | .ok st =>
        if st.curTry ≤ options.maxRetryCount then
          retryLoop options (attemptsFrom outcomes) turns st (n + 1)
        else (.ok (st.lastError, st), n + 1) := by
  have hperform : attemptsFrom outcomes n = (.ok (outcomes n), n + 1) := rfl
  rw [retryLoop, Prog.bind_of_ok hperform]
  cases afterAttempt (outcomes n) (backOff options st) with
  | error result => rfl
  | ok st =>
    by_cases hmore : st.curTry ≤ options.maxRetryCount
    · simp only [if_pos hmore]
    · simp only [if_neg hmore]
      rfl

section Loop
variable {options : HttpOptions} {outcomes : Nat → Attempt}

/-- The loop ends at its final attempt. -/
theorem ended_final {rc : Error} {st : LoopState} {n limit : Nat} {okBefore : Prop}
    (hfinal : (outcomes n).Final) (hn : n ≤ limit)
    (hresponded : (outcomes n).Responded → rc = .Ok ∧
      st.outStatus = (outcomes n).responseCode ∧ st.outResponse = (outcomes n).written)
    (hfatal : ¬ (outcomes n).Responded → rc = .InternalError) :
    Ended outcomes n limit okBefore rc st n where
  le := Nat.le_refl n
  le_limit := hn
  earlier _ hle hlt := absurd hlt (Nat.not_lt.mpr hle)
  stops := .inl hfinal
  responded := hresponded
  unanswered hnone := by
    rw [hfatal hnone]
    exact iff_of_false nofun fun h => h.1 hfinal

/-- An attempt before the end that is not final. -/
theorem Ended.before {rc : Error} {st : LoopState} {n limit k : Nat} {okBefore okAfter : Prop}
    (h : Ended outcomes (n + 1) limit okAfter rc st k) (hfinal : ¬ (outcomes n).Final)
    (hok : okAfter ↔ okBefore ∨ (outcomes n).Responded) :
    Ended outcomes n limit okBefore rc st k where
  le := Nat.le_of_succ_le h.le
  le_limit := h.le_limit
  earlier i hle hlt := by
    cases Nat.eq_or_lt_of_le hle with
    | inl heq => exact heq ▸ hfinal
    | inr hlater => exact h.earlier i hlater hlt
  stops := h.stops
  responded := h.responded
  unanswered hnone := by
    rw [h.unanswered hnone, hok]
    refine and_congr_right fun _ => ⟨?_, ?_⟩
    · rintro ((hbefore | hfirst) | ⟨i, hle, hlt, hi⟩)
      · exact .inl hbefore
      · exact .inr ⟨n, Nat.le_refl n, h.le, hfirst⟩
      · exact .inr ⟨i, Nat.le_of_succ_le hle, hlt, hi⟩
    · rintro (hbefore | ⟨i, hle, hlt, hi⟩)
      · exact .inl (.inl hbefore)
      · cases Nat.eq_or_lt_of_le hle with
        | inl heq => exact .inl (.inr (heq ▸ hi))
        | inr hlater => exact .inr ⟨i, hlater, hlt, hi⟩

/-- A final attempt ends the loop. -/
theorem retryLoop_final {st : LoopState} {n limit : Nat}
    (hcleared : (backOff options st).outResponse = "") (hfinal : (outcomes n).Final) (turns : Nat)
    (hle : n ≤ limit) :
    ∃ rc st' k, retryLoop options (attemptsFrom outcomes) (turns + 1) st n =
        (.ok (rc, st'), k + 1) ∧
      Ended outcomes n limit (st.lastError = .Ok) rc st' k := by
  rw [retryLoop_turn]
  obtain ⟨rc, st', hend, hresponded, hfatal⟩ := afterAttempt_final hfinal hcleared
  rw [hend]
  exact ⟨rc, st', n, rfl, ended_final hfinal hle hresponded hfatal⟩

/-- A turn that does not end the loop leaves it with one more attempt made. -/
theorem retryLoop_continues {st : LoopState} {n : Nat} (hn : st.curTry = n)
    (hcleared : (backOff options st).outResponse = "") (hfinal : ¬ (outcomes n).Final)
    (turns : Nat) :
    ∃ st', retryLoop options (attemptsFrom outcomes) (turns + 1) st n =
        (if ((n + 1 : Nat) : Int) ≤ options.maxRetryCount then
          retryLoop options (attemptsFrom outcomes) turns st' (n + 1)
        else (.ok (st'.lastError, st'), n + 1)) ∧
      st'.curTry = (n + 1 : Nat) ∧
      ((outcomes n).Responded → st'.lastError = .Ok ∧ st'.outStatus = (outcomes n).responseCode ∧
        st'.outResponse = (outcomes n).written) ∧
      (¬ (outcomes n).Responded → st'.lastError = st.lastError) := by
  obtain ⟨st', hgo, htry, hresponded, hnone⟩ := afterAttempt_continues hfinal hcleared
  rw [backOff_curTry, hn] at htry
  rw [backOff_lastError] at hnone
  refine ⟨st', ?_, htry, hresponded, hnone⟩
  rw [retryLoop_turn, hgo]
  simp only [htry]

/-- The bound on the turns is never reached. -/
theorem retryLoop_ends (hcount : 0 ≤ options.maxRetryCount) (turns : Nat) {st : LoopState}
    {n : Nat} (hn : st.curTry = n) (hlimit : n + turns = options.maxRetryCount.toNat)
    (hclear : n = 0 → st.outResponse = "") :
    ∃ rc st' k, retryLoop options (attemptsFrom outcomes) (turns + 1) st n =
        (.ok (rc, st'), k + 1) ∧
      Ended outcomes n options.maxRetryCount.toNat (st.lastError = .Ok) rc st' k := by
  have hcleared : (backOff options st).outResponse = "" :=
    backOff_clear fun hfirst => hclear (hn ▸ hfirst)
  induction turns generalizing st n with
  | zero =>
    by_cases hfinal : (outcomes n).Final
    · exact retryLoop_final hcleared hfinal _ (by omega)
    · obtain ⟨st', hrun, htry, hresponded, hnone⟩ := retryLoop_continues hn hcleared hfinal 0
      rw [hrun, if_neg (by omega)]
      refine ⟨st'.lastError, st', n, rfl, Nat.le_refl n, by omega, fun i hle hlt => by omega,
        .inr (by omega), hresponded, fun hsilent => ?_⟩
      rw [hnone hsilent]
      refine ⟨fun hok => ⟨hfinal, .inl hok⟩, fun h => h.2.resolve_right ?_⟩
      rintro ⟨i, hle, hlt, -⟩
      omega
  | succ turns ih =>
    by_cases hfinal : (outcomes n).Final
    · exact retryLoop_final hcleared hfinal _ (by omega)
    · obtain ⟨st', hturn, htry, hresponded, hnone⟩ :=
        retryLoop_continues hn hcleared hfinal (turns + 1)
      rw [hturn, if_pos (by omega)]
      have hnext : (backOff options st').outResponse = "" :=
        backOff_clear fun hfirst => absurd (htry.symm.trans hfirst) (Nat.succ_ne_zero n)
      obtain ⟨rc, st'', k, hrun, hended⟩ := ih htry (by omega) nofun hnext
      refine ⟨rc, st'', k, hrun, hended.before hfinal ?_⟩
      by_cases hanswer : (outcomes n).Responded
      · exact iff_of_true (hresponded hanswer).1 (.inr hanswer)
      · rw [hnone hanswer, or_iff_left hanswer]

end Loop

/-- The loop made so many attempts as it may, stopped where it should, and an answer it returns is
that of its last attempt. -/
structure ReportsLast (options : HttpOptions) (outcomes : Nat → Attempt) (rc : Error)
    (st : LoopState) (attempts : Nat) : Prop where
  attempts_le : attempts ≤ options.maxRetryCount + 1
  earlier : ∀ i, i + 1 < attempts → ¬ (outcomes i).Final
  stops : ∀ k, attempts = k + 1 → (outcomes k).Final ∨ (attempts : Int) = options.maxRetryCount + 1
  answer : rc = .Ok → ∃ k, attempts = k + 1 ∧ (outcomes k).Responded ∧
    st.outStatus = (outcomes k).responseCode ∧ st.outResponse = (outcomes k).written

/-- The last permitted attempt gets no response after an earlier one got a retryable status. -/
structure Masked (options : HttpOptions) (outcomes : Nat → Attempt) : Prop where
  usable : options.caBundlePathError = .Ok ∧ options.caBundlePath.isEmpty = false
  retried : ∀ i ≤ options.maxRetryCount.toNat, ¬ (outcomes i).Final
  silent : ¬ (outcomes options.maxRetryCount.toNat).Responded
  answered : ∃ i < options.maxRetryCount.toNat, (outcomes i).Responded

section Answer
variable {options : HttpOptions} {outcomes : Nat → Attempt}

/-- Where the loop ended, only a masked failure spoils its report. -/
theorem Ended.reportsLast_iff {rc : Error} {st : LoopState} {k : Nat} {okBefore : Prop}
    (h : Ended outcomes 0 options.maxRetryCount.toNat okBefore rc st k) (hbefore : ¬ okBefore)
    (hcount : 0 ≤ options.maxRetryCount)
    (husable : options.caBundlePathError = .Ok ∧ options.caBundlePath.isEmpty = false) :
    ReportsLast options outcomes rc st (k + 1) ↔ ¬ Masked options outcomes := by
  have hlimit := h.le_limit
  have hstops : ∀ i, k + 1 = i + 1 →
      (outcomes i).Final ∨ ((k + 1 : Nat) : Int) = options.maxRetryCount + 1 := by
    intro i hi
    cases Nat.succ_inj.mp hi
    exact h.stops.imp_right fun hlast => by omega
  have hearlier : ∀ i, i + 1 < k + 1 → ¬ (outcomes i).Final := fun i hi =>
    h.earlier i (Nat.zero_le i) (Nat.lt_of_succ_lt_succ hi)
  by_cases hresponded : (outcomes k).Responded
  · refine iff_of_true ⟨by omega, hearlier, hstops, fun _ => ⟨k, rfl, hresponded, ?_⟩⟩ ?_
    · exact (h.responded hresponded).2
    · intro hmasked
      have hlast := h.stops.resolve_left (hmasked.retried k h.le_limit)
      exact hmasked.silent (hlast ▸ hresponded)
  · refine ⟨fun hreport hmasked => ?_, fun hclean => ⟨by omega, hearlier, hstops, fun hok => ?_⟩⟩
    · have hgo := hmasked.retried k h.le_limit
      have hlast := h.stops.resolve_left hgo
      obtain ⟨i, hi, hanswered⟩ := hmasked.answered
      have hok : rc = .Ok :=
        (h.unanswered hresponded).mpr ⟨hgo, .inr ⟨i, Nat.zero_le i, hlast ▸ hi, hanswered⟩⟩
      obtain ⟨j, hj, hanswer, -⟩ := hreport.answer hok
      exact hresponded (Nat.succ_inj.mp hj ▸ hanswer)
    · obtain ⟨hgo, hanswered⟩ := (h.unanswered hresponded).mp hok
      have hlast := h.stops.resolve_left hgo
      have hsome := hanswered.resolve_left hbefore
      refine absurd ⟨husable, ?_, hlast ▸ hresponded, ?_⟩ hclean
      · intro i hi
        cases Nat.eq_or_lt_of_le (hlast.symm ▸ hi : i ≤ k) with
        | inl heq => exact heq ▸ hgo
        | inr hlt => exact h.earlier i (Nat.zero_le i) hlt
      · exact hsome.imp fun i hi => ⟨hlast ▸ hi.2.1, hi.2.2⟩

end Answer

/-- A request reports its last attempt exactly when no failure is masked. -/
theorem doRequestAsString_reportsLast_iff {M P : Type} (lib : SlistLib M P) (client : NvHttpClient)
    (hreachable : client.options.Reachable) (m : M) (outStatus : Int) (request : NvRequest)
    (outcomes : Nat → Attempt) :
    ∃ rc st attempts, doRequestAsString lib (fun _ => attemptsFrom outcomes) client m outStatus
        request 0 = (.ok (rc, st), attempts) ∧
      (ReportsLast client.options outcomes rc st attempts ↔ ¬ Masked client.options outcomes) := by
  have hcount := hreachable.bounded.maxRetryCount
  rw [doRequestAsString]
  by_cases hunusable : (client.options.caBundlePathError ≠ .Ok ||
      client.options.caBundlePath.isEmpty) = true
  · rw [if_pos hunusable]
    rw [Bool.or_eq_true, decide_eq_true_iff] at hunusable
    refine ⟨.InternalError, _, 0, rfl, iff_of_true ⟨by omega, ?_, ?_, nofun⟩ ?_⟩
    · exact fun i hi => absurd hi (Nat.not_lt_zero _)
    · exact fun k hk => absurd hk.symm (Nat.succ_ne_zero k)
    · intro hmasked
      cases hunusable with
      | inl herror => exact herror hmasked.usable.1
      | inr hempty => exact Bool.false_ne_true (hmasked.usable.2.symm.trans hempty)
  · rw [if_neg hunusable]
    rw [Bool.or_eq_true, decide_eq_true_iff, not_or, not_not, Bool.not_eq_true] at hunusable
    obtain ⟨rc, st, k, hrun, hended⟩ := @retryLoop_ends _ outcomes hcount
      client.options.maxRetryCount.toNat
      { backoffMs := client.options.baseBackoffMs, outStatus } 0 rfl (Nat.zero_add _) fun _ => rfl
    exact ⟨rc, st, k + 1, hrun, hended.reportsLast_iff (nofun) hcount hunusable⟩

/-- A machine with the first bundle of the probe list. -/
def sampleHost : CaBundleHost where
  getEnvOrDefault _ defaultValue := defaultValue
  readsRegularFile path := path == "/etc/ssl/certs/ca-certificates.crt"
  compiledDefaultCaBundlePath := ""

def retryingClient : NvHttpClient where
  options := (newHttpOptions sampleHost).setMaxRetryCount 1
  serviceKey := ""

theorem retryingClient_reachable : retryingClient.options.Reachable :=
  .maxRetryCount 1 (.default sampleHost)

/-- A busy server, then a connection that times out within a body. -/
def busyThenTimeout : Nat → Attempt
  | 0 => ⟨curleOk, 503, "busy"⟩
  | _ + 1 => ⟨curleOperationTimedout, 0, "partial"⟩

theorem retryingClient_reportsLast_iff :
    ∃ rc st attempts, doRequestAsString memoryLib (fun _ => attemptsFrom busyThenTimeout)
        retryingClient (0, fun _ => []) 0 sampleRequest 0 = (.ok (rc, st), attempts) ∧
      (ReportsLast retryingClient.options busyThenTimeout rc st attempts ↔
        ¬ Masked retryingClient.options busyThenTimeout) :=
  doRequestAsString_reportsLast_iff memoryLib retryingClient retryingClient_reachable
    (0, fun _ => []) 0 sampleRequest busyThenTimeout

theorem masked_timeout :
    ¬ ∀ (client : NvHttpClient) (outStatus : Int) (request : NvRequest)
      (outcomes : Nat → Attempt), client.options.Reachable →
      ∃ rc st attempts, doRequestAsString memoryLib (fun _ => attemptsFrom outcomes) client
          (0, fun _ => []) outStatus request 0 = (.ok (rc, st), attempts) ∧
        ReportsLast client.options outcomes rc st attempts := by
  intro hclaim
  obtain ⟨rc, st, attempts, hrun, hreport⟩ :=
    hclaim retryingClient 0 sampleRequest busyThenTimeout retryingClient_reachable
  have hok : (doRequestAsString memoryLib (fun _ => attemptsFrom busyThenTimeout) retryingClient
      (0, fun _ => []) 0 sampleRequest 0).1.toOption.map Prod.fst = some .Ok := by decide +kernel
  have htwo : (doRequestAsString memoryLib (fun _ => attemptsFrom busyThenTimeout) retryingClient
      (0, fun _ => []) 0 sampleRequest 0).2 = 2 := by decide +kernel
  rw [hrun] at hok htwo
  obtain ⟨k, hk, hresponded, -⟩ := hreport.answer (Option.some.inj hok)
  have hlast : k = 1 := Nat.succ_inj.mp (hk.symm.trans htwo)
  rw [hlast] at hresponded
  exact absurd hresponded (show ¬ curleOperationTimedout = curleOk by decide)

end AttestationSdk.Http
