import AttestationSdk.HttpRetry
import Mathlib.Algebra.Order.Ring.Int

/-! Which bounds the retry loop gives its jitter, and what doubling them comes to in a `long`. -/
namespace AttestationSdk.Http
open Effects

def longMax : Int := 9223372036854775807

/-- `backoff_ms` after so many repeated attempts: each use is followed by the doubling, then by the
cap. -/
def backoffAt (base most : Int) : Nat → Int
  | 0 => base
  | n + 1 => min (backoffAt base most n * 2) most

section Doubling
variable {base most : Int}

/-- From a base under the cap, the backoff doubles until the cap holds it. -/
theorem backoffAt_eq (h0 : 0 ≤ base) (h : base ≤ most) (n : Nat) :
    backoffAt base most n = min (2 ^ n * base) most := by
  induction n with
  | zero =>
    rw [backoffAt, pow_zero, one_mul, min_eq_left h]
  | succ n ih =>
    have hmost : most ≤ most * 2 := by omega
    calc min (backoffAt base most n * 2) most
        = min (min (2 ^ n * base * 2) (most * 2)) most := by
          rw [ih, min_mul_of_nonneg _ _ (by decide)]
      _ = min (2 ^ n * base * 2) most := by rw [min_assoc, min_eq_right hmost]
      _ = min (2 ^ (n + 1) * base) most := by rw [pow_succ, mul_right_comm]

theorem backoffAt_nonneg (h0 : 0 ≤ base) (hmost : 0 ≤ most) (n : Nat) :
    0 ≤ backoffAt base most n := by
  induction n with
  | zero => exact h0
  | succ n ih => exact le_min (Int.mul_nonneg ih (by decide)) hmost

theorem backoffAt_mono (h0 : 0 ≤ base) (h : base ≤ most) {m n : Nat} (hmn : m ≤ n) :
    backoffAt base most m ≤ backoffAt base most n := by
  rw [backoffAt_eq h0 h, backoffAt_eq h0 h]
  have hpow : (2 : Int) ^ m ≤ 2 ^ n := pow_le_pow_right₀ (by decide) hmn
  exact min_le_min_right most (mul_le_mul_of_nonneg_right hpow h0)

end Doubling

/-- The jitter is drawn within the limit, and the doubling after it stays within a `long`. -/
structure WithinLimits (options : HttpOptions) (bound : Int) : Prop where
  nonneg : 0 ≤ bound
  le_max : bound ≤ options.maxBackoffMs
  doubles : bound * 2 ≤ longMax

/-- The loop at its head: one backoff was taken for each attempt after the first. -/
structure Paced (options : HttpOptions) (st : LoopState) : Prop where
  backoffMs : st.backoffMs =
    backoffAt options.baseBackoffMs options.maxBackoffMs (st.curTry - 1)
  bounds : st.bounds =
    (List.range (st.curTry - 1)).map (backoffAt options.baseBackoffMs options.maxBackoffMs)

/-- The variables after a turn, whether it returned or goes on. -/
def turnState : Except (Error × LoopState) LoopState → LoopState
  | .error (_, st) => st
  | .ok st => st

/-- An attempt counts itself and leaves the backoff alone. -/
theorem turnState_afterAttempt (attempt : Attempt) (st : LoopState) :
    (turnState (afterAttempt attempt st)).curTry = st.curTry + 1 ∧
      (turnState (afterAttempt attempt st)).backoffMs = st.backoffMs ∧
      (turnState (afterAttempt attempt st)).bounds = st.bounds := by
  rw [afterAttempt]
  by_cases hcode : attempt.curlCode ≠ curleOk
  · rw [if_pos hcode]
    by_cases hretry : isCurlRetryable attempt.curlCode = true
    · rw [if_pos hretry]
      exact ⟨rfl, rfl, rfl⟩
    · rw [if_neg hretry]
      exact ⟨rfl, rfl, rfl⟩
  · rw [if_neg hcode]
    by_cases hok : isHttpStatus2xx attempt.responseCode = true
    · simp only [hok, if_true]
      exact ⟨rfl, rfl, rfl⟩
    · by_cases hstop : (!isHttpRetryable attempt.responseCode) = true
      · simp only [hok, hstop, if_true]
        exact ⟨rfl, rfl, rfl⟩
      · simp only [hok, hstop]
        exact ⟨rfl, rfl, rfl⟩

section Loop
variable {options : HttpOptions} {st : LoopState}

/-- One turn takes one more backoff, unless it is the first. -/
theorem Paced.turn (h : Paced options st) (attempt : Attempt) :
    Paced options (turnState (afterAttempt attempt (backOff options st))) := by
  have hturn := turnState_afterAttempt attempt (backOff options st)
  rw [backOff_curTry] at hturn
  have hcount : (turnState (afterAttempt attempt (backOff options st))).curTry - 1 = st.curTry := by
    rw [hturn.1, Nat.add_sub_cancel]
  refine ⟨?_, ?_⟩
  · rw [hturn.2.1, hcount, backOff]
    by_cases hfirst : st.curTry = 0
    · rw [if_pos hfirst, h.backoffMs, hfirst]
    · rw [if_neg hfirst]
      obtain ⟨n, hn⟩ := Nat.exists_eq_succ_of_ne_zero hfirst
      have hms := h.backoffMs
      rw [hn, Nat.succ_sub_one] at hms
      rw [hn, hms]
      rfl
  · rw [hturn.2.2, hcount, backOff]
    by_cases hfirst : st.curTry = 0
    · rw [if_pos hfirst, h.bounds, hfirst]
    · rw [if_neg hfirst]
      obtain ⟨n, hn⟩ := Nat.exists_eq_succ_of_ne_zero hfirst
      have hms := h.backoffMs
      have hbounds := h.bounds
      rw [hn, Nat.succ_sub_one] at hms hbounds
      rw [hn, List.range_succ, List.map_append, ← hbounds, List.map_singleton, ← hms]

/-- Over a whole run of the loop the backoff keeps its pace, and no more attempts are made than
there may be. -/
theorem retryLoop_paced {σ : Type} {perform : Prog Fault σ Attempt} {rc : Error} {st' : LoopState}
    {s' : σ} (turns : Nat) {s : σ} (h : Paced options st)
    (hcount : (st.curTry : Int) ≤ options.maxRetryCount)
    (hrun : retryLoop options perform turns st s = (.ok (rc, st'), s')) :
    Paced options st' ∧ (st'.curTry : Int) ≤ options.maxRetryCount + 1 := by
  induction turns generalizing st s with
  | zero => cases hrun
  | succ turns ih =>
    rw [retryLoop] at hrun
    obtain ⟨attempt, s₁, hattempt, hrest⟩ := Prog.bind_eq_ok.mp hrun
    have hturn := h.turn attempt
    have htry := (turnState_afterAttempt attempt (backOff options st)).1
    rw [backOff_curTry] at htry
    generalize afterAttempt attempt (backOff options st) = result at hrest hturn htry
    cases result with
    | error result =>
      cases hrest
      rw [turnState] at hturn htry
      exact ⟨hturn, by omega⟩
    | ok st₁ =>
      rw [turnState] at hturn htry
      by_cases hmore : (st₁.curTry : Int) ≤ options.maxRetryCount
      · simp only [if_pos hmore] at hrest
        exact ih hturn hmore hrest
      · simp only [if_neg hmore] at hrest
        cases hrest
        exact ⟨hturn, by omega⟩

end Loop

/-- A connection that is refused every time. -/
def refusedConnection : Nat → Attempt := fun _ => ⟨curleCouldntConnect, 0, ""⟩

/-- A refused connection leaves the state to the next attempt. -/
theorem afterAttempt_refused (n : Nat) (st : LoopState) :
    afterAttempt (refusedConnection n) st =
      .ok { st with curTry := st.curTry + 1, outResponse := st.outResponse ++ "" } := rfl

/-- Against refused connections the loop makes every attempt it may. -/
theorem retryLoop_refused {options : HttpOptions} (turns : Nat) {st : LoopState} (n : Nat)
    (hlimit : (st.curTry : Int) + turns = options.maxRetryCount) :
    ∃ rc st' s', retryLoop options (attemptsFrom refusedConnection) (turns + 1) st n =
        (.ok (rc, st'), s') ∧ (st'.curTry : Int) = options.maxRetryCount + 1 := by
  induction turns generalizing st n with
  | zero =>
    rw [retryLoop_turn]
    simp only [afterAttempt_refused, backOff_curTry]
    rw [if_neg (by omega)]
    exact ⟨_, _, _, rfl, show ((st.curTry + 1 : Nat) : Int) = _ by omega⟩
  | succ turns ih =>
    rw [retryLoop_turn]
    simp only [afterAttempt_refused, backOff_curTry]
    rw [if_pos (by omega)]
    exact ih (n + 1) (show ((st.curTry + 1 : Nat) : Int) + turns = _ by omega)

/-- The base is within the limit, and the largest backoff before the last attempt can be
doubled. -/
def PacesWell (options : HttpOptions) : Prop :=
  options.baseBackoffMs ≤ options.maxBackoffMs ∧
    min (2 ^ (options.maxRetryCount.toNat - 1) * options.baseBackoffMs) options.maxBackoffMs * 2 ≤
      longMax

/-- Where there is a repeated attempt at all, the first bound of the run and the last one decide. -/
theorem bounds_within_iff {options : HttpOptions} (hoptions : options.Bounded)
    (hretries : options.maxRetryCount ≠ 0) :
    (∀ n < options.maxRetryCount.toNat, WithinLimits options
      (backoffAt options.baseBackoffMs options.maxBackoffMs n)) ↔ PacesWell options := by
  have hpos : 0 < options.maxRetryCount.toNat := by
    have hcount := hoptions.maxRetryCount
    omega
  constructor
  · intro h
    have hbase := (h 0 hpos).le_max
    rw [backoffAt] at hbase
    have hlast := (h (options.maxRetryCount.toNat - 1) (by omega)).doubles
    rw [backoffAt_eq hoptions.baseBackoffMs hbase] at hlast
    exact ⟨hbase, hlast⟩
  · rintro ⟨hbase, hlast⟩ n hn
    have hlarge := backoffAt_mono hoptions.baseBackoffMs hbase (Nat.le_sub_one_of_lt hn)
    rw [← backoffAt_eq hoptions.baseBackoffMs hbase] at hlast
    refine ⟨backoffAt_nonneg hoptions.baseBackoffMs hoptions.maxBackoffMs n, ?_, by omega⟩
    rw [backoffAt_eq hoptions.baseBackoffMs hbase]
    exact min_le_right _ _

/-- Some request can be repeated, as the client has a CA bundle and a retry. -/
structure Retries (options : HttpOptions) : Prop where
  usable : options.caBundlePathError = .Ok ∧ options.caBundlePath.isEmpty = false
  retried : options.maxRetryCount ≠ 0

section Request
variable {M P : Type} (lib : SlistLib M P) (client : NvHttpClient)

/-- The bounds of a run are the first ones of the doubling, at most one for each retry. -/
theorem doRequestAsString_bounds (hoptions : client.options.Bounded) {σ : Type}
    {perform : M × CurlHandle P → Prog Fault σ Attempt} {m : M} {outStatus : Int}
    {request : NvRequest} {s s' : σ} {rc : Error} {st : LoopState}
    (hrun : doRequestAsString lib perform client m outStatus request s = (.ok (rc, st), s')) :
    st.bounds = [] ∨ Retries client.options ∧ ∃ retries ≤ client.options.maxRetryCount.toNat,
      st.bounds = (List.range retries).map
        (backoffAt client.options.baseBackoffMs client.options.maxBackoffMs) := by
  rw [doRequestAsString] at hrun
  by_cases hunusable : (client.options.caBundlePathError ≠ .Ok ||
      client.options.caBundlePath.isEmpty) = true
  · rw [if_pos hunusable] at hrun
    cases hrun
    exact .inl rfl
  · rw [if_neg hunusable] at hrun
    rw [Bool.or_eq_true, decide_eq_true_iff, not_or, not_not, Bool.not_eq_true] at hunusable
    have hpaced := retryLoop_paced _ ⟨rfl, rfl⟩ hoptions.maxRetryCount hrun
    by_cases hretries : client.options.maxRetryCount = 0
    · have hnone : st.curTry - 1 = 0 := by omega
      rw [hpaced.1.bounds, hnone]
      exact .inl rfl
    · exact .inr ⟨⟨hunusable, hretries⟩, st.curTry - 1, by omega, hpaced.1.bounds⟩

/-- A client whose connections are refused takes every backoff there may be. -/
theorem doRequestAsString_refused (hoptions : client.options.Bounded)
    (hretries : Retries client.options) (m : M) (outStatus : Int) (request : NvRequest) :
    ∃ rc st s', doRequestAsString lib (fun _ => attemptsFrom refusedConnection) client m outStatus
        request 0 = (.ok (rc, st), s') ∧
      st.bounds = (List.range client.options.maxRetryCount.toNat).map
        (backoffAt client.options.baseBackoffMs client.options.maxBackoffMs) := by
  have husable : ¬ (client.options.caBundlePathError ≠ .Ok ||
      client.options.caBundlePath.isEmpty) = true := by
    rw [Bool.or_eq_true, decide_eq_true_iff, not_or, not_not, Bool.not_eq_true]
    exact hretries.usable
  have hcount := hoptions.maxRetryCount
  rw [doRequestAsString, if_neg husable]
  obtain ⟨rc, st, s', hrun, htry⟩ := @retryLoop_refused client.options
    client.options.maxRetryCount.toNat
    { backoffMs := client.options.baseBackoffMs, outStatus } 0
    (show ((0 : Nat) : Int) + _ = _ by omega)
  have hpaced := retryLoop_paced _ ⟨rfl, rfl⟩ hcount hrun
  have hlast : st.curTry - 1 = client.options.maxRetryCount.toNat := by omega
  exact ⟨rc, st, s', hrun, hlast ▸ hpaced.1.bounds⟩

/-- Every backoff of every run stays within its limits exactly when there are no retries or the
options pace well. -/
theorem doRequestAsString_backoff_iff (hreachable : client.options.Reachable) (m : M)
    (outStatus : Int) (request : NvRequest) :
    (∀ {σ : Type} (perform : M × CurlHandle P → Prog Fault σ Attempt) (s s' : σ) (rc : Error)
        (st : LoopState), doRequestAsString lib perform client m outStatus request s =
          (.ok (rc, st), s') → ∀ bound ∈ st.bounds, WithinLimits client.options bound) ↔
      (Retries client.options → PacesWell client.options) := by
  have hoptions := hreachable.bounded
  constructor
  · intro h hretries
    obtain ⟨rc, st, s', hrun, hbounds⟩ :=
      doRequestAsString_refused lib client hoptions hretries m outStatus request
    have hwithin := h _ 0 s' rc st hrun
    rw [hbounds] at hwithin
    exact (bounds_within_iff hoptions hretries.retried).mp fun n hn =>
      hwithin _ (List.mem_map_of_mem (List.mem_range.mpr hn))
  · intro h σ perform s s' rc st hrun bound hbound
    cases doRequestAsString_bounds lib client hoptions hrun with
    | inl hnone =>
      rw [hnone] at hbound
      cases hbound
    | inr hsome =>
      obtain ⟨hretries, retries, hle, hbounds⟩ := hsome
      rw [hbounds, List.mem_map] at hbound
      obtain ⟨n, hn, rfl⟩ := hbound
      have hwithin := (bounds_within_iff hoptions hretries.retried).mpr (h hretries)
      exact hwithin n (Nat.lt_of_lt_of_le (List.mem_range.mp hn) hle)

end Request

/-- A client whose base backoff is over its maximum. -/
def impatientClient : NvHttpClient where
  options := (newHttpOptions sampleHost).setBaseBackoffMs 60000
  serviceKey := ""

theorem impatientClient_reachable : impatientClient.options.Reachable :=
  .baseBackoffMs 60000 (.default sampleHost)

theorem retryingClient_backoff_iff :
    (∀ {σ : Type} (perform : (Nat × (Nat → List String)) × CurlHandle Nat → Prog Fault σ Attempt)
        (s s' : σ) (rc : Error) (st : LoopState),
        doRequestAsString memoryLib perform retryingClient (0, fun _ => []) 0 sampleRequest s =
          (.ok (rc, st), s') → ∀ bound ∈ st.bounds, WithinLimits retryingClient.options bound) ↔
      (Retries retryingClient.options → PacesWell retryingClient.options) :=
  doRequestAsString_backoff_iff memoryLib retryingClient retryingClient_reachable
    (0, fun _ => []) 0 sampleRequest

theorem base_over_maximum :
    ¬ ∀ (client : NvHttpClient), client.options.Reachable →
      ∀ (outcomes : Nat → Attempt) (attempts : Nat) (rc : Error) (st : LoopState),
        doRequestAsString memoryLib (fun _ => attemptsFrom outcomes) client (0, fun _ => []) 0
          sampleRequest 0 = (.ok (rc, st), attempts) →
        ∀ bound ∈ st.bounds, WithinLimits client.options bound := by
  intro hclaim
  have hbounds : (doRequestAsString memoryLib (fun _ => attemptsFrom busyThenTimeout)
      impatientClient (0, fun _ => []) 0 sampleRequest 0).1.toOption.map (fun r => r.2.bounds) =
      some [60000, 30000, 30000, 30000, 30000] := by decide +kernel
  generalize hrun : doRequestAsString memoryLib (fun _ => attemptsFrom busyThenTimeout)
    impatientClient (0, fun _ => []) 0 sampleRequest 0 = run at hbounds
  obtain ⟨result, attempts⟩ := run
  cases result with
  | error fault => cases hbounds
  | ok result =>
    obtain ⟨rc, st⟩ := result
    have hlist : st.bounds = [60000, 30000, 30000, 30000, 30000] := Option.some.inj hbounds
    have hfirst : (60000 : Int) ∈ st.bounds := by
      rw [hlist]
      exact List.mem_cons_self
    have hwithin := hclaim impatientClient impatientClient_reachable busyThenTimeout attempts rc st
      hrun 60000 hfirst
    exact absurd hwithin.le_max (by decide)

end AttestationSdk.Http
