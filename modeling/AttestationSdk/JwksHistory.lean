import AttestationSdk.JwkStore
import AttestationSdk.KeyedList
import Mathlib.Data.List.Induction

/-! Runs of `JwkStore::get_jwk_by_kid` against an endpoint that may answer anything. -/
namespace AttestationSdk.Jwt
open Json AttestationSdk.Http Effects

/-- How a request for the key set ends, and after how long. -/
structure Answer where
  delayMs : Nat
  rc : Error
  status : Int
  body : String
  deriving Repr, DecidableEq

structure Fetch where
  atMs : Nat
  answer : Answer
  deriving Repr, DecidableEq

/-- The clock, which never goes back, and the answers so far. -/
structure Feed where
  timeMs : Nat
  fetches : List Fetch := []
  deriving Repr, DecidableEq

def Feed.wait (feed : Feed) (pauseMs : Nat) : Feed :=
  { feed with timeMs := feed.timeMs + pauseMs }

def Feed.receive (feed : Feed) (answer : Answer) : Feed where
  timeMs := feed.timeMs + answer.delayMs
  fetches := feed.fetches ++ [⟨feed.timeMs + answer.delayMs, answer⟩]

/-- The endpoint behind the client: its `n`-th answer is the `n`-th request's. -/
def endpoint (answers : Nat → Answer) : HttpClient Feed where
  doRequestAsString _ feed :=
    let answer := answers feed.fetches.length
    (.ok (answer.rc, answer.status, answer.body), feed.receive answer)

def onFeed (lib : JwtLib Feed) : JwtLib Feed :=
  { lib with nowMs := fun feed => (.ok feed.timeMs, feed) }

/-- `JwkStore::init_from_env`. -/
def newJwkStore (jwksUrl : String) (cacheDurationMs : Int) : JwkStore where
  jwksUrl := jwksUrl
  cacheDurationMs := cacheDurationMs
  lastUpdateUnixMs := 0
  jwks := []

/-- A call, some time after the one before it. -/
structure JwkCall where
  pauseMs : Nat
  kid : String
  deriving Repr, DecidableEq

section Runs
variable (lib : JwtLib Feed) (answers : Nat → Answer)

def callJwk (call : JwkCall) : Prog Fault (JwkStore × Feed) Jwk := fun w =>
  getJwkByKid (onFeed lib) (endpoint answers) call.kid (w.1, w.2.wait call.pauseMs)

def runJwkCalls (calls : List JwkCall) (w : JwkStore × Feed) : JwkStore × Feed :=
  calls.foldl (fun w call => (callJwk lib answers call w).2) w

/-- The response lists a key under its `kid`. -/
def Listed (body kid : String) (jwk : Jwk) : Prop :=
  ∃ keys key raw rest, keysOf lib body = .ok keys ∧ key ∈ keys ∧
    key.member? "kid" = some (.str kid) ∧ key.member? "x5c" = some (.arr (.str raw :: rest)) ∧
    jwk = ⟨kid, wrapPublicKey raw⟩

/-- The keys that `refresh_jwks` takes from an answer, whatever its status. -/
def keysFrom (answer : Answer) : List (String × Jwk) :=
  if answer.rc = .Ok then
    match keysOf lib answer.body with
    | .ok keys => (addKeys keys []).2
    | .error _ => []
  else []

variable {lib answers}

theorem jwkOf_some {key : Value} {jwk : Jwk} (h : jwkOf key = .ok (some jwk)) :
    ∃ raw rest, key.member? "kid" = some (.str jwk.kid) ∧
      key.member? "x5c" = some (.arr (.str raw :: rest)) ∧ jwk = ⟨jwk.kid, wrapPublicKey raw⟩ := by
  rw [jwkOf] at h
  split at h
  · next kid first rest hkid hx5c =>
    split at h
    · next raw =>
      cases h
      exact ⟨raw, rest, hkid, hx5c, rfl⟩
    · cases h
  · cases h

/-- What the loop leaves, also where it throws, are keys from before or of the entries. -/
theorem addKeys_mem (keys : List Value) (jwks : List (String × Jwk)) {entry : String × Jwk}
    (h : entry ∈ (addKeys keys jwks).2) :
    entry ∈ jwks ∨ ∃ key ∈ keys, jwkOf key = .ok (some entry.2) ∧ entry.1 = entry.2.kid := by
  induction keys generalizing jwks with
  | nil => exact .inl h
  | cons key rest ih =>
    have hlater : ∀ {jwks}, entry ∈ (addKeys rest jwks).2 → entry ∈ jwks ∨
        ∃ k ∈ key :: rest, jwkOf k = .ok (some entry.2) ∧ entry.1 = entry.2.kid := fun hmem =>
      (ih _ hmem).imp_right fun ⟨k, hk, hjwk⟩ => ⟨k, List.mem_cons_of_mem key hk, hjwk⟩
    cases hkey : jwkOf key with
    | error f =>
      simp only [addKeys, hkey] at h
      exact .inl h
    | ok found =>
      cases found with
      | none =>
        simp only [addKeys, hkey] at h
        exact hlater h
      | some jwk =>
        simp only [addKeys, hkey] at h
        cases hlater h with
        | inr hlisted => exact .inr hlisted
        | inl hmem =>
          cases List.mem_cons.mp hmem with
          | inl hnew =>
            rw [hnew]
            exact .inr ⟨key, List.mem_cons_self, hkey, rfl⟩
          | inr hold => exact .inl (List.mem_of_mem_filter hold)

theorem listed_of_keysFrom {answer : Answer} {entry : String × Jwk}
    (h : entry ∈ keysFrom lib answer) :
    answer.rc = .Ok ∧ Listed lib answer.body entry.1 entry.2 := by
  rw [keysFrom] at h
  split at h
  · next hrc =>
    split at h
    · next keys hkeys =>
      cases addKeys_mem keys [] h with
      | inl hnone => cases hnone
      | inr hlisted =>
        obtain ⟨key, hkey, hjwk, hkid⟩ := hlisted
        obtain ⟨raw, rest, hname, hx5c, heq⟩ := jwkOf_some hjwk
        rw [← hkid] at hname heq
        exact ⟨hrc, keys, key, raw, rest, hkeys, hkey, hname, hx5c, heq⟩
    · cases h
  · cases h

/-- What `refresh_jwks` leaves of a store without keys. -/
theorem refreshJwks_run (store : JwkStore) (feed : Feed) (h : store.jwks = []) :
    ∃ r, refreshJwks (onFeed lib) (endpoint answers) (store, feed) =
      (r, ({ store with jwks := keysFrom lib (answers feed.fetches.length) },
        feed.receive (answers feed.fetches.length))) := by
  have hload : (Prog.liftFirst fun st => (.ok st, st) : Prog Fault (JwkStore × Feed) JwkStore)
      (store, feed) = (.ok store, (store, feed)) := rfl
  have hrequest : Prog.onSecond ((endpoint answers).doRequestAsString
      { url := store.jwksUrl, method := .GET }) (store, feed) =
      (.ok ((answers feed.fetches.length).rc, (answers feed.fetches.length).status,
        (answers feed.fetches.length).body),
        (store, feed.receive (answers feed.fetches.length))) := rfl
  have hnone : { store with jwks := [] } = store := by
    rw [← h]
  rw [refreshJwks, Prog.bind_of_ok hload, Prog.bind_of_ok hrequest, keysFrom]
  by_cases hrc : (answers feed.fetches.length).rc = .Ok
  · simp only [hrc, ne_eq, not_true_eq_false, if_false, if_true]
    cases hkeys : keysOf (onFeed lib) (answers feed.fetches.length).body with
    | error f =>
      have hlift := @Prog.lift_run Fault (JwkStore × Feed) (List Value) (.error f)
        (store, feed.receive (answers feed.fetches.length))
      rw [Prog.bind_of_error hlift, show keysOf lib _ = .error f from hkeys]
      exact ⟨_, congrArg (fun st => (_, (st, _))) hnone.symm⟩
    | ok keys =>
      have hlift := @Prog.lift_run Fault (JwkStore × Feed) (List Value) (.ok keys)
        (store, feed.receive (answers feed.fetches.length))
      rw [Prog.bind_of_ok hlift, show keysOf lib _ = .ok keys from hkeys, ← h]
      exact ⟨_, rfl⟩
  · simp only [ne_eq, hrc, not_false_eq_true, if_true, if_false]
    exact ⟨_, congrArg (fun st => (_, (st, _))) hnone.symm⟩

variable (lib answers) in
/-- The store with the keys of the next answer and nothing from before. -/
def refreshed (w : JwkStore × Feed) (lastUpdateUnixMs : Int) : JwkStore × Feed :=
  ({ w.1 with jwks := keysFrom lib (answers w.2.fetches.length), lastUpdateUnixMs },
    w.2.receive (answers w.2.fetches.length))

theorem refreshAt_run (nowMs : Int) (store : JwkStore) (feed : Feed) :
    ∃ r lastUpdate, refreshAt (onFeed lib) (endpoint answers) nowMs (store, feed) =
        (r, refreshed lib answers (store, feed) lastUpdate) ∧
      (lastUpdate = nowMs ∨ lastUpdate = store.lastUpdateUnixMs) := by
  cases @refreshJwks_run lib answers { store with jwks := [] } feed rfl with
  | intro r hrun =>
    rw [refreshAt, hrun]
    cases r with
    | ok _ => exact ⟨_, nowMs, rfl, .inl rfl⟩
    | error f =>
      cases f with
      | code e => exact ⟨_, nowMs, rfl, .inl rfl⟩
      | _ => exact ⟨_, store.lastUpdateUnixMs, rfl, .inr rfl⟩

/-- One call: a store that is up to date is kept, any other gets the keys of the next answer. The
key returned is one held afterwards. -/
structure Called (lib : JwtLib Feed) (answers : Nat → Answer) (call : JwkCall)
    (w : JwkStore × Feed) (r : Except Fault Jwk) (w' : JwkStore × Feed) : Prop where
  duration : w'.1.cacheDurationMs = w.1.cacheDurationMs
  returned : ∀ jwk, r = .ok jwk → w'.1.jwks.lookup call.kid = some jwk
  change : (w' = (w.1, w.2.wait call.pauseMs) ∧
      (w.2.timeMs + call.pauseMs : Int) ≤ w.1.lastUpdateUnixMs + w.1.cacheDurationMs) ∨
    (w'.1.jwks = keysFrom lib (answers w.2.fetches.length) ∧
      w'.2 = (w.2.wait call.pauseMs).receive (answers w.2.fetches.length) ∧
      (w'.1.lastUpdateUnixMs = w.2.timeMs + call.pauseMs ∨
        w'.1.lastUpdateUnixMs = w.1.lastUpdateUnixMs))

/-- The end of a call returns a key that the store holds. -/
theorem lookup_run (kid : String) (w : JwkStore × Feed) :
    ∃ r, (Prog.liftFirst (fun st => (.ok st, st)) >>= fun store : JwkStore =>
        match store.jwks.lookup kid with
        | none => Prog.fail (.code .CertNotFound)
        | some jwk => pure jwk : Prog Fault (JwkStore × Feed) Jwk) w = (r, w) ∧
      ∀ jwk, r = .ok jwk → w.1.jwks.lookup kid = some jwk := by
  have hload : (Prog.liftFirst fun st => (.ok st, st) : Prog Fault (JwkStore × Feed) JwkStore) w =
      (.ok w.1, w) := rfl
  rw [Prog.bind_of_ok hload]
  cases w.1.jwks.lookup kid with
  | none => exact ⟨_, rfl, nofun⟩
  | some held => exact ⟨_, rfl, fun jwk h => congrArg some (Except.ok.inj h)⟩

theorem called (call : JwkCall) (w : JwkStore × Feed) :
    Called lib answers call w (callJwk lib answers call w).1 (callJwk lib answers call w).2 := by
  have hclock : Prog.onSecond (onFeed lib).nowMs (w.1, w.2.wait call.pauseMs) =
      (.ok ((w.2.timeMs + call.pauseMs : Nat) : Int), (w.1, w.2.wait call.pauseMs)) := rfl
  have hload : (Prog.liftFirst fun st => (.ok st, st) : Prog Fault (JwkStore × Feed) JwkStore)
      (w.1, w.2.wait call.pauseMs) = (.ok w.1, (w.1, w.2.wait call.pauseMs)) := rfl
  cases hstale : stale call.kid ((w.2.timeMs + call.pauseMs : Nat) : Int) w.1 with
  | false =>
    cases lookup_run call.kid (w.1, w.2.wait call.pauseMs) with | intro r hend =>
    have hcall : callJwk lib answers call w = (r, (w.1, w.2.wait call.pauseMs)) := by
      rw [callJwk, getJwkByKid, Prog.bind_of_ok hclock, Prog.bind_of_ok hload, hstale]
      exact hend.1
    have hfresh : ¬ w.1.lastUpdateUnixMs + w.1.cacheDurationMs <
        ((w.2.timeMs + call.pauseMs : Nat) : Int) := fun hold =>
      Bool.false_ne_true (hstale.symm.trans (decide_eq_true (.inl hold)))
    rw [hcall]
    exact ⟨rfl, hend.2, .inl ⟨rfl, by omega⟩⟩
  | true =>
    obtain ⟨r, lastUpdate, hrefresh, hupdate⟩ := @refreshAt_run lib answers
      ((w.2.timeMs + call.pauseMs : Nat) : Int) w.1 (w.2.wait call.pauseMs)
    have hrecorded : lastUpdate = w.2.timeMs + call.pauseMs ∨
        lastUpdate = w.1.lastUpdateUnixMs :=
      hupdate.imp_left fun h => h.trans (Int.natCast_add _ _)
    cases r with
    | error f =>
      have hcall : callJwk lib answers call w =
          (.error f, refreshed lib answers (w.1, w.2.wait call.pauseMs) lastUpdate) := by
        rw [callJwk, getJwkByKid, Prog.bind_of_ok hclock, Prog.bind_of_ok hload, hstale]
        exact Prog.bind_of_error hrefresh _
      rw [hcall]
      exact ⟨rfl, nofun, .inr ⟨rfl, rfl, hrecorded⟩⟩
    | ok _ =>
      cases lookup_run call.kid (refreshed lib answers (w.1, w.2.wait call.pauseMs) lastUpdate)
        with | intro r hend =>
      have hcall : callJwk lib answers call w =
          (r, refreshed lib answers (w.1, w.2.wait call.pauseMs) lastUpdate) := by
        rw [callJwk, getJwkByKid, Prog.bind_of_ok hclock, Prog.bind_of_ok hload, hstale]
        exact (Prog.bind_of_ok hrefresh _).trans hend.1
      rw [hcall]
      exact ⟨rfl, hend.2, .inr ⟨rfl, rfl, hrecorded⟩⟩

/-- The keys held are those of the latest answer, and no older than the time stamp says. -/
structure Traced (lib : JwtLib Feed) (cacheDurationMs : Int) (w : JwkStore × Feed) : Prop where
  duration : w.1.cacheDurationMs = cacheDurationMs
  stamped : w.1.lastUpdateUnixMs ≤ w.2.timeMs
  held : w.1.jwks = [] ∨ ∃ earlier fetch, w.2.fetches = earlier ++ [fetch] ∧
    w.1.jwks = keysFrom lib fetch.answer ∧ w.1.lastUpdateUnixMs ≤ fetch.atMs

theorem Called.traced {call : JwkCall} {w w' : JwkStore × Feed} {r : Except Fault Jwk}
    {cacheDurationMs : Int} (h : Called lib answers call w r w')
    (htraced : Traced lib cacheDurationMs w) : Traced lib cacheDurationMs w' := by
  have hstamped := htraced.stamped
  cases h.change with
  | inl hkept =>
    rw [hkept.1]
    refine ⟨htraced.duration, ?_, htraced.held⟩
    simp only [Feed.wait]
    omega
  | inr hnew =>
    have hfetch : w'.1.lastUpdateUnixMs ≤
        (w.2.timeMs + call.pauseMs + (answers w.2.fetches.length).delayMs : Nat) := by
      omega
    refine ⟨h.duration.trans htraced.duration, ?_, .inr ⟨w.2.fetches,
      ⟨w.2.timeMs + call.pauseMs + (answers w.2.fetches.length).delayMs,
        answers w.2.fetches.length⟩, ?_, hnew.1, hfetch⟩⟩
    · rw [hnew.2.1]
      exact hfetch
    · rw [hnew.2.1]
      rfl

theorem runJwkCalls_concat (calls : List JwkCall) (call : JwkCall) (w : JwkStore × Feed) :
    runJwkCalls lib answers (calls ++ [call]) w =
      (callJwk lib answers call (runJwkCalls lib answers calls w)).2 := by
  rw [runJwkCalls, List.foldl_append]
  rfl

theorem runJwkCalls_traced (calls : List JwkCall) {w : JwkStore × Feed} {cacheDurationMs : Int}
    (h : Traced lib cacheDurationMs w) :
    Traced lib cacheDurationMs (runJwkCalls lib answers calls w) := by
  induction calls generalizing w with
  | nil => exact h
  | cons call rest ih => exact ih ((called call w).traced h)

/-- Fetches are only ever added. -/
theorem fetches_subset (calls : List JwkCall) (w : JwkStore × Feed) :
    w.2.fetches ⊆ (runJwkCalls lib answers calls w).2.fetches := by
  induction calls generalizing w with
  | nil => exact List.Subset.refl _
  | cons call rest ih =>
    have hcall : w.2.fetches ⊆ (callJwk lib answers call w).2.2.fetches := by
      cases (@called lib answers call w).change with
      | inl hkept =>
        rw [hkept.1]
        exact List.Subset.refl _
      | inr hnew =>
        rw [hnew.2.1]
        exact List.subset_append_left _ _
    exact List.Subset.trans hcall (ih _)

/-- Every fetch of a run was the latest after some call, with its keys in the store. -/
theorem fetch_of_run (calls : List JwkCall) {w : JwkStore × Feed} (h : w.2.fetches = [])
    {fetch : Fetch} (hmem : fetch ∈ (runJwkCalls lib answers calls w).2.fetches) :
    ∃ before call after, calls = before ++ call :: after ∧
      (∃ earlier, (callJwk lib answers call (runJwkCalls lib answers before w)).2.2.fetches =
        earlier ++ [fetch]) ∧
      (callJwk lib answers call (runJwkCalls lib answers before w)).2.1.jwks =
        keysFrom lib fetch.answer := by
  induction calls using List.reverseRecOn with
  | nil =>
    rw [runJwkCalls, List.foldl_nil, h] at hmem
    cases hmem
  | append_singleton calls last ih =>
    have hearlier : fetch ∈ (runJwkCalls lib answers calls w).2.fetches →
        ∃ before call after, calls ++ [last] = before ++ call :: after ∧ _ := fun hold => by
      obtain ⟨before, call, after, hcalls, hfound⟩ := ih hold
      refine ⟨before, call, after ++ [last], ?_, hfound⟩
      rw [hcalls, List.append_assoc, List.cons_append]
    rw [runJwkCalls_concat] at hmem
    cases (@called lib answers last (runJwkCalls lib answers calls w)).change with
    | inl hkept =>
      rw [hkept.1] at hmem
      exact hearlier hmem
    | inr hnew =>
      rw [hnew.2.1] at hmem
      cases List.mem_append.mp hmem with
      | inl hold => exact hearlier hold
      | inr hlast =>
        cases List.mem_singleton.mp hlast
        refine ⟨calls, last, [], rfl, ⟨(runJwkCalls lib answers calls w).2.fetches, ?_⟩, hnew.1⟩
        rw [hnew.2.1]
        rfl

variable (lib) in
/-- The keys that the store holds are all listed in the latest answer, which has status 200. -/
structure Source (w : JwkStore × Feed) (fetch : Fetch) : Prop where
  latest : ∃ earlier, w.2.fetches = earlier ++ [fetch]
  rc : fetch.answer.rc = .Ok
  status : fetch.answer.status = httpStatusOk
  listed : ∀ entry ∈ w.1.jwks, Listed lib fetch.answer.body entry.1 entry.2

variable (lib answers) in
/-- What a call promises: a key returned is listed under its `kid` in the answer that the whole
store comes from, the latest one, which came during the call or no longer ago than the cache
duration. An answer with an error or without keys is the source of no key. -/
structure KeysCurrent (cacheDurationMs : Int) (call : JwkCall) (w : JwkStore × Feed) : Prop where
  held : (callJwk lib answers call w).2.1.jwks = [] ∨
    ∃ fetch, Source lib (callJwk lib answers call w).2 fetch
  returned : ∀ jwk, (callJwk lib answers call w).1 = .ok jwk →
    ∃ fetch, Source lib (callJwk lib answers call w).2 fetch ∧
      Listed lib fetch.answer.body call.kid jwk ∧
      (w.2.timeMs + call.pauseMs ≤ fetch.atMs ∨
        (w.2.timeMs + call.pauseMs : Int) ≤ fetch.atMs + cacheDurationMs)

/-- One call keeps its promise if no key comes from an answer with another status. -/
theorem keysCurrent_of_status {cacheDurationMs : Int} {call : JwkCall} {w : JwkStore × Feed}
    (h : Traced lib cacheDurationMs w)
    (hstatus : ∀ fetch ∈ (callJwk lib answers call w).2.2.fetches,
      keysFrom lib fetch.answer ≠ [] → fetch.answer.status = httpStatusOk) :
    KeysCurrent lib answers cacheDurationMs call w := by
  have hcalled := @called lib answers call w
  have hsource : ∀ entry ∈ (callJwk lib answers call w).2.1.jwks, ∃ fetch,
      Source lib (callJwk lib answers call w).2 fetch ∧
      (callJwk lib answers call w).2.1.lastUpdateUnixMs ≤ fetch.atMs := by
    intro entry hentry
    cases (hcalled.traced h).held with
    | inl hnone =>
      rw [hnone] at hentry
      cases hentry
    | inr hheld =>
      obtain ⟨earlier, fetch, hfetches, hkeys, hstamp⟩ := hheld
      rw [hkeys] at hentry
      refine ⟨fetch, ⟨⟨earlier, hfetches⟩, (listed_of_keysFrom hentry).1, ?_, ?_⟩, hstamp⟩
      · refine hstatus fetch ?_ (List.ne_nil_of_mem hentry)
        rw [hfetches]
        exact List.mem_append_right _ (List.mem_singleton_self fetch)
      · rw [hkeys]
        exact fun other hother => (listed_of_keysFrom hother).2
  refine ⟨?_, fun jwk hjwk => ?_⟩
  · cases hjwks : (callJwk lib answers call w).2.1.jwks with
    | nil => exact .inl rfl
    | cons entry rest =>
      cases hsource entry (hjwks ▸ List.mem_cons_self) with
      | intro fetch hfetch => exact .inr ⟨fetch, hfetch.1⟩
  · have hmem := KeyedList.mem_of_lookup (hcalled.returned jwk hjwk)
    obtain ⟨fetch, hfetch, hstamp⟩ := hsource _ hmem
    refine ⟨fetch, hfetch, hfetch.listed _ hmem, ?_⟩
    cases hcalled.change with
    | inl hkept =>
      have hfresh := hkept.2
      rw [h.duration] at hfresh
      rw [hkept.1] at hstamp
      exact .inr (Int.le_trans hfresh (Int.add_le_add_right hstamp cacheDurationMs))
    | inr hnew =>
      obtain ⟨earlier, hlatest⟩ := hfetch.latest
      rw [hnew.2.1] at hlatest
      have hlast := (List.append_inj' hlatest rfl).2
      cases List.singleton_inj.mp hlast
      exact .inl (Nat.le_add_right _ _)

/-- Every call of a run keeps its promise exactly when every answer of the run that the store takes
keys from has status 200. -/
theorem keys_current_iff (jwksUrl : String) (cacheDurationMs : Int) (timeMs : Nat)
    (calls : List JwkCall) :
    (∀ before call after, calls = before ++ call :: after →
      KeysCurrent lib answers cacheDurationMs call
        (runJwkCalls lib answers before (newJwkStore jwksUrl cacheDurationMs, ⟨timeMs, []⟩))) ↔
    ∀ fetch ∈ (runJwkCalls lib answers calls
        (newJwkStore jwksUrl cacheDurationMs, ⟨timeMs, []⟩)).2.fetches,
      keysFrom lib fetch.answer ≠ [] → fetch.answer.status = httpStatusOk := by
  have hstart : Traced lib cacheDurationMs
      (newJwkStore jwksUrl cacheDurationMs, ⟨timeMs, []⟩) :=
    ⟨rfl, Int.natCast_nonneg timeMs, .inl rfl⟩
  constructor
  · intro hcurrent fetch hmem hkeys
    obtain ⟨before, call, after, hcalls, ⟨earlier, hlatest⟩, hheld⟩ := fetch_of_run calls rfl hmem
    cases (hcurrent before call after hcalls).held with
    | inl hnone => exact absurd (hheld.symm.trans hnone) hkeys
    | inr hfound =>
      obtain ⟨source, hsource⟩ := hfound
      obtain ⟨others, hothers⟩ := hsource.latest
      have hlast := (List.append_inj' (hlatest.symm.trans hothers) rfl).2
      cases List.singleton_inj.mp hlast
      exact hsource.status
  · intro hstatus before call after hcalls
    refine keysCurrent_of_status (runJwkCalls_traced before hstart)
      fun fetch hmem => hstatus fetch ?_
    rw [hcalls, ← List.singleton_append, ← List.append_assoc]
    have hrest := @fetches_subset lib answers after (runJwkCalls lib answers (before ++ [call])
      (newJwkStore jwksUrl cacheDurationMs, ⟨timeMs, []⟩))
    rw [runJwkCalls_concat] at hrest
    have hrun := hrest hmem
    rwa [← runJwkCalls_concat, runJwkCalls, runJwkCalls, ← List.foldl_append] at hrun

end Runs

def jwksText : String :=
  "\x7b\"keys\":[\x7b\"kid\":\"k\",\"x5c\":[\"cert\"]\x7d]\x7d"

def jwksValue : Value :=
  .obj [("keys", .arr [.obj [("kid", .str "k"), ("x5c", .arr [.str "cert"])]])]

def sampleJwtLib : JwtLib Feed where
  parse text := if text = jwksText then some jwksValue else none
  decode _ := none
  acceptsKey _ := true
  verify _ _ := pure false
  nowMs := pure 0

/-- A key set in an answer that says the page was not found. -/
def notFoundKeys : Answer where
  delayMs := 5
  rc := .Ok
  status := 404
  body := jwksText

theorem key_from_not_found :
    ¬ ∀ (answers : Nat → Answer) (jwksUrl : String) (cacheDurationMs : Int) (timeMs : Nat)
      (calls before : List JwkCall) (call : JwkCall) (after : List JwkCall),
      calls = before ++ call :: after →
      KeysCurrent sampleJwtLib answers cacheDurationMs call
        (runJwkCalls sampleJwtLib answers before
          (newJwkStore jwksUrl cacheDurationMs, ⟨timeMs, []⟩)) := by
  intro hclaim
  have hcall := hclaim (fun _ => notFoundKeys) "https://nras/jwks" 900000 10 [⟨0, "k"⟩] [] ⟨0, "k"⟩
    [] rfl
  have hjwks : (callJwk sampleJwtLib (fun _ => notFoundKeys) ⟨0, "k"⟩
      (newJwkStore "https://nras/jwks" 900000, ⟨10, []⟩)).2.1.jwks ≠ [] := by decide +kernel
  have hfetches : (callJwk sampleJwtLib (fun _ => notFoundKeys) ⟨0, "k"⟩
      (newJwkStore "https://nras/jwks" 900000, ⟨10, []⟩)).2.2.fetches = [] ++ [⟨15, notFoundKeys⟩] := by
    decide +kernel
  obtain ⟨fetch, hsource⟩ := hcall.held.resolve_left hjwks
  obtain ⟨earlier, hlatest⟩ := hsource.latest
  have hlast := (List.append_inj' (hfetches.symm.trans hlatest) rfl).2
  have hstatus := hsource.status
  rw [← List.singleton_inj.mp hlast] at hstatus
  exact absurd hstatus (by decide)

end AttestationSdk.Jwt
