import AttestationSdk.CachingWrappers

/-! When the caching wrappers hand out what the inner client would. -/
namespace AttestationSdk.Caching
open AttestationSdk.Ocsp AttestationSdk.ChainStatus AttestationSdk.Rim AttestationSdk.Cache
open Effects CalendarTime ExceptRules
variable {σ κ ν : Type} [DecidableEq κ]

/-- Every stored object satisfies `P`. -/
structure Caches (P : κ → ν → Nat → Prop) (c : NvCache κ ν) : Prop where
  linked : Linked c
  stored : ∀ k obj, c.cache k = some obj → P k obj.value obj.sizeBytes

/-- The cache holds an entry of the key that has not expired. -/
def Live (c : NvCache κ ν) (now : Int) (k : κ) : Prop :=
  ∃ obj, c.cache k = some obj ∧ now < obj.expiryTime

omit [DecidableEq κ] in
theorem caches_empty (P : κ → ν → Nat → Prop) : Caches P (emptyCache : NvCache κ ν) :=
  ⟨linked_empty, by simp [emptyCache]⟩

/-- A hit moves the entry to the front and keeps the map. -/
theorem cacheGet_hit {c : NvCache κ ν} (h : Linked c) {now : Int} {k : κ} {obj : NvCacheObject ν}
    (hobj : c.cache k = some obj) (hlive : now < obj.expiryTime) (s : σ) :
    ∃ c', cacheGet now k (c, s) = (.ok (.Ok, some obj.value), (c', s)) ∧ Linked c' ∧
      c'.cache = c.cache := by
  refine ⟨_, ?_, h.moved hobj, rfl⟩
  simp [cacheGet, cacheCall, Prog.onFirst, get_spec h now k hobj hlive, Except.map]

theorem cacheGet_live {P : κ → ν → Nat → Prop} {c : NvCache κ ν} (h : Caches P c) {now : Int}
    {k : κ} {obj : NvCacheObject ν} (hobj : c.cache k = some obj) (hlive : now < obj.expiryTime)
    (s : σ) :
    ∃ c', cacheGet now k (c, s) = (.ok (.Ok, some obj.value), (c', s)) ∧ Caches P c' := by
  obtain ⟨c', hget, hlinked, hmap⟩ := cacheGet_hit h.linked hobj hlive s
  exact ⟨c', hget, hlinked, fun k' obj' hobj' => h.stored k' obj' (hmap ▸ hobj')⟩

omit [DecidableEq κ] in
theorem not_live_iff {c : NvCache κ ν} {now : Int} {k : κ} :
    ¬ Live c now k ↔ ∀ obj, c.cache k = some obj → obj.expiryTime ≤ now := by
  simp [Live]

omit [DecidableEq κ] in
theorem cacheGet_dead {c : NvCache κ ν} {now : Int} {k : κ} (hdead : ¬ Live c now k) (s : σ) :
    cacheGet now k (c, s) = (.ok (.CacheObjectNotFound, none), (c, s)) := by
  have hget : Cache.get now c k = .ok (.CacheObjectNotFound, none, c) := by
    cases hobj : c.cache k with
    | none => rw [Cache.get, hobj]
    | some obj =>
      rw [Cache.get, hobj]
      exact if_pos (not_live_iff.mp hdead obj hobj)
  simp [cacheGet, cacheCall, Prog.onFirst, hget, Except.map]

theorem cachePut_large (opts : NvCacheOptions) (clock : Nat → Int) (c : NvCache κ ν) (k : κ)
    (v : ν) {size : Nat} (h : opts.maxSizeBytes < size) (s : σ) :
    cachePut opts clock k v size (c, s) = (.ok .BadArgument, (c, s)) := by
  simp [cachePut, cacheCall, Prog.onFirst, put, h]

/-- A put that fits stores the object and keeps no more of the others than there was,
or ends in a time that no longer fits. -/
theorem cachePut_cases {opts : NvCacheOptions} (clock : Nat → Int) {c : NvCache κ ν}
    (h : Linked c) (k : κ) (v : ν) {size : Nat} (hsize : size ≤ opts.maxSizeBytes) (s : σ) :
    (∃ c' obj i, cachePut opts clock k v size (c, s) = (.ok .Ok, (c', s)) ∧ Linked c' ∧
      c'.cache k = some obj ∧ obj.value = v ∧ obj.sizeBytes = size ∧
      obj.expiryTime = clock i + opts.ttlSeconds ∧
      ∀ k', k' ≠ k → c'.cache k' = c.cache k' ∨ c'.cache k' = none) ∨
    (cachePut opts clock k v size (c, s) = (.error .undefined, (c, s)) ∧
      ∃ i, ¬ InTimeT (clock i + opts.ttlSeconds)) := by
  obtain ⟨es, ls, i, _, _, hput⟩ := put_spec clock h k v hsize
  have hlinked := ((h.dropKey k).dropAll es).dropAll ls
  have hnone : (dropAll (dropAll (dropKey c k) es) ls).cache k = none := by
    simp [dropAll_cache, dropKey]
  by_cases ht : InTimeT (clock i + opts.ttlSeconds)
  · refine .inl ⟨_, _, i, ?_, hlinked.insertFront hnone v size (clock i + opts.ttlSeconds),
      Function.update_self .., rfl, rfl, rfl, ?_⟩
    · simp [cachePut, cacheCall, Prog.onFirst, hput, addTime, ht]
    · intro k' hk
      simp only [insertFront, Function.update_of_ne hk, dropAll_cache, dropKey]
      split
      · exact .inr rfl
      · split
        · exact .inr rfl
        · exact .inl rfl
  · exact .inr ⟨by simp [cachePut, cacheCall, Prog.onFirst, hput, addTime, ht], i, ht⟩

theorem cachePut_fits {P : κ → ν → Nat → Prop} {opts : NvCacheOptions} (clock : Nat → Int)
    {c : NvCache κ ν} (h : Caches P c) (k : κ) (v : ν) {size : Nat}
    (hsize : size ≤ opts.maxSizeBytes) (hp : P k v size) (s : σ) :
    (∃ c', cachePut opts clock k v size (c, s) = (.ok .Ok, (c', s)) ∧ Caches P c') ∨
      (cachePut opts clock k v size (c, s) = (.error .undefined, (c, s)) ∧
        ∃ i, ¬ InTimeT (clock i + opts.ttlSeconds)) := by
  refine (cachePut_cases clock h.linked k v hsize s).imp_left ?_
  rintro ⟨c', obj, i, hrun, hlinked, hobj, hvalue, hsizeBytes, _, hothers⟩
  refine ⟨c', hrun, hlinked, fun k' obj' hobj' => ?_⟩
  by_cases hk : k' = k
  · subst hk
    obtain rfl : obj = obj' := by simpa [hobj] using hobj'
    rw [hvalue, hsizeBytes]
    exact hp
  · cases hothers k' hk with
    | inl hsame => exact h.stored k' obj' (hsame ▸ hobj')
    | inr hnone => simp [hnone] at hobj'

section RimStore
variable (opts : NvCacheOptions) (readDoc : String → Option Xml) (inner : RimStore σ)
  (answer : String → Except Error RimDocument)

/-- The inner store answers a given id the same way each time. -/
def Answers : Prop :=
  ∀ rimId out s, ∃ s', match answer rimId with
    | .ok d => inner.getRim rimId out s = (.ok (.Ok, d), s')
    | .error e => e ≠ .Ok ∧ ∃ out', inner.getRim rimId out s = (.ok (e, out'), s')

structure RimRequest where
  clock : Nat → Int
  rimId : String
  out : RimDocument

/-- The cache and the inner world after a sequence of requests. -/
def serveRims (requests : List RimRequest) (w : NvCache String String × σ) :
    NvCache String String × σ :=
  requests.foldl (fun w r => (getRim opts readDoc inner r.clock r.rimId r.out w).2) w

/-- `Ok`, with the raw data and the RIM id of the inner store's document. -/
def SameRim (d : RimDocument) (outcome : Except Fault (Error × RimDocument)) : Prop :=
  ∃ d', outcome = .ok (.Ok, d') ∧ d'.rimData = d.rimData ∧ d'.rimId = d.rimId

/-- What the wrapper may hold under an id: the raw data of the inner answer. -/
def HoldsRim (rimId rimData : String) (_size : Nat) : Prop :=
  ∃ d, answer rimId = .ok d ∧ rimData = d.rimData ∧ d.rimData.length ≤ opts.maxSizeBytes

variable {answer}

/-- A request that misses. -/
theorem getRim_miss (hans : Answers inner answer) {c : NvCache String String} {s : σ}
    (hc : Caches (HoldsRim opts answer) c) (r : RimRequest)
    (hdead : ¬ Live c (r.clock 0) r.rimId) :
    Caches (HoldsRim opts answer)
        (getRim opts readDoc inner r.clock r.rimId r.out (c, s)).2.1 ∧
      ∀ d, answer r.rimId = .ok d → (∀ i, InTimeT (r.clock i + opts.ttlSeconds)) →
        ∃ rc, (getRim opts readDoc inner r.clock r.rimId r.out (c, s)).1 = .ok (rc, d) ∧
          (rc = .Ok ↔ d.rimData.length ≤ opts.maxSizeBytes) := by
  have hget := cacheGet_dead hdead s
  obtain ⟨s', hinner⟩ := hans r.rimId r.out s
  rw [getRim, Prog.bind_of_ok hget]
  simp only [if_true]
  cases hd : answer r.rimId with
  | error e =>
    rw [hd] at hinner
    obtain ⟨he, out', hrun⟩ := hinner
    have hsecond : (Prog.onSecond (inner.getRim r.rimId r.out) :
        Prog Fault (NvCache String String × σ) _) (c, s) = (.ok (e, out'), (c, s')) := by
      simp [Prog.onSecond, hrun]
    rw [Prog.bind_of_ok hsecond]
    simp [he, hc]
  | ok d =>
    rw [hd] at hinner
    have hsecond : (Prog.onSecond (inner.getRim r.rimId r.out) :
        Prog Fault (NvCache String String × σ) _) (c, s) = (.ok (.Ok, d), (c, s')) := by
      simp [Prog.onSecond, hinner]
    rw [Prog.bind_of_ok hsecond]
    simp only [ne_eq, not_true_eq_false, if_false]
    by_cases hsize : d.rimData.length ≤ opts.maxSizeBytes
    · have hput := cachePut_fits (fun i => r.clock (i + 1)) hc r.rimId d.rimData hsize
        ⟨d, hd, rfl, hsize⟩ s'
      cases hput with
      | inl hok =>
        obtain ⟨c', hrun, hc'⟩ := hok
        rw [Prog.bind_of_ok hrun]
        exact ⟨hc', fun d' hd' _ => ⟨.Ok, by simp_all, by simp_all⟩⟩
      | inr herr =>
        obtain ⟨hrun, i, hover⟩ := herr
        rw [Prog.bind_of_error hrun]
        exact ⟨hc, fun d' _ hclock => absurd (hclock (i + 1)) hover⟩
    · have hrun := cachePut_large opts (fun i => r.clock (i + 1)) c r.rimId d.rimData
        (by omega : opts.maxSizeBytes < d.rimData.length) s'
      rw [Prog.bind_of_ok hrun]
      refine ⟨hc, fun d' hd' _ => ⟨.BadArgument, by simp_all, ?_⟩⟩
      obtain rfl : d = d' := by simpa using hd'
      simp [hsize]

/-- A request that hits. -/
theorem getRim_hit {c : NvCache String String} {s : σ}
    (hc : Caches (HoldsRim opts answer) c) (r : RimRequest)
    (hlive : Live c (r.clock 0) r.rimId) :
    ∃ c' d, Caches (HoldsRim opts answer) c' ∧ answer r.rimId = .ok d ∧
      d.rimData.length ≤ opts.maxSizeBytes ∧
      getRim opts readDoc inner r.clock r.rimId r.out (c, s) =
        (.ok (createFromRimData readDoc d.rimData r.out), (c', s)) := by
  obtain ⟨obj, hobj, hnow⟩ := hlive
  obtain ⟨c', hget, hc'⟩ := cacheGet_live hc hobj hnow s
  obtain ⟨d, hd, hval, hsize⟩ := hc.stored r.rimId obj hobj
  refine ⟨c', d, hc', hd, hsize, ?_⟩
  rw [getRim, Prog.bind_of_ok hget, hval]
  rfl

theorem answers_ok (hans : Answers inner answer) {rimId : String} {out d : RimDocument} {s : σ}
    (hok : (inner.getRim rimId out s).1 = .ok (.Ok, d)) : answer rimId = .ok d := by
  obtain ⟨s', hinner⟩ := hans rimId out s
  cases hd : answer rimId with
  | ok d' =>
    simp only [hd] at hinner
    simpa [hinner] using hok
  | error e =>
    simp only [hd] at hinner
    obtain ⟨he, out', hrun⟩ := hinner
    simp [hrun, he] at hok

theorem serveRims_caches (hans : Answers inner answer) (requests : List RimRequest) :
    ∀ w : NvCache String String × σ, Caches (HoldsRim opts answer) w.1 →
      Caches (HoldsRim opts answer) (serveRims opts readDoc inner requests w).1 := by
  induction requests with
  | nil => exact fun w h => h
  | cons r rest ih =>
    intro w h
    obtain ⟨c, s⟩ := w
    refine ih (getRim opts readDoc inner r.clock r.rimId r.out (c, s)).2 ?_
    by_cases hlive : Live c (r.clock 0) r.rimId
    · obtain ⟨c', d, hc', _, _, hrun⟩ :=
        getRim_hit opts readDoc inner h r hlive
      rw [hrun]
      exact hc'
    · exact (getRim_miss opts readDoc inner hans h r hlive).1

/-- A request is transparent exactly when its document fits the cache and, on a
hit, the caller's document already carries the id and the data parses. -/
theorem getRim_transparent_iff (hans : Answers inner answer) (requests : List RimRequest) (s : σ)
    (r : RimRequest) {d : RimDocument}
    (hok : (inner.getRim r.rimId r.out
      (serveRims opts readDoc inner requests (emptyCache, s)).2).1 = .ok (.Ok, d))
    (hclock : ∀ i, InTimeT (r.clock i + opts.ttlSeconds)) :
    SameRim d (getRim opts readDoc inner r.clock r.rimId r.out
        (serveRims opts readDoc inner requests (emptyCache, s))).1 ↔
      d.rimData.length ≤ opts.maxSizeBytes ∧
      (Live (serveRims opts readDoc inner requests (emptyCache, s)).1 (r.clock 0) r.rimId →
        (readDoc d.rimData).isSome ∧ r.out.rimId = d.rimId) := by
  have hc := serveRims_caches opts readDoc inner hans requests (emptyCache, s)
    (caches_empty _)
  generalize serveRims opts readDoc inner requests (emptyCache, s) = w at hc hok
  obtain ⟨c, s⟩ := w
  have hd := answers_ok inner hans hok
  by_cases hlive : Live c (r.clock 0) r.rimId
  · obtain ⟨c', d', _, hd', hsize, hrun⟩ :=
      getRim_hit opts readDoc inner hc r hlive
    obtain rfl : d = d' := by simpa [hd] using hd'
    rw [hrun, SameRim, createFromRimData]
    cases hparse : readDoc d.rimData with
    | none => simp [hlive]
    | some doc => simp [hlive, hsize]
  · obtain ⟨rc, hrun, hrc⟩ := (getRim_miss opts readDoc inner hans hc r hlive).2 d hd hclock
    rw [hrun, SameRim]
    simp [hlive, ← hrc]

end RimStore

section OcspClient
variable (opts : NvCacheOptions) (lib : OcspLib) (inner : OcspClient σ)
  (answer : Bytes → Except Error NvOcspResponse)

/-- The inner client answers a given certificate id the same way each time. -/
def OcspAnswers : Prop :=
  ∀ q key, getCacheKey lib q = some key → ∀ out s, ∃ s', match answer key with
    | .ok response => inner.getOcspResponse q out s = (.ok (.Ok, response), s')
    | .error e => e ≠ .Ok ∧ ∃ out', inner.getOcspResponse q out s = (.ok (e, out'), s')

structure OcspRequest where
  clock : Nat → Int
  query : OcspQuery
  out : NvOcspResponse

/-- The cache and the inner world after a sequence of requests. -/
def serveOcsp (requests : List OcspRequest) (w : NvCache Bytes NvOcspResponse × σ) :
    NvCache Bytes NvOcspResponse × σ :=
  requests.foldl (fun w r => (getOcspResponse opts lib inner r.clock r.query r.out w).2) w

/-- What the wrapper may hold under a key: the inner answer. -/
def HoldsOcsp (key : Bytes) (response : NvOcspResponse) (_size : Nat) : Prop :=
  answer key = .ok response ∧ nvOcspResponseSizeBytes + key.length ≤ opts.maxSizeBytes

variable {answer}

/-- A request that goes to the inner client. -/
theorem refresh_spec (hans : OcspAnswers lib inner answer)
    {c : NvCache Bytes NvOcspResponse} {s : σ} (hc : Caches (HoldsOcsp opts answer) c)
    (r : OcspRequest) {key : Bytes} (hkey : getCacheKey lib r.query = some key) (i : Nat) :
    Caches (HoldsOcsp opts answer)
        (getOcspResponse.refresh opts inner r.clock r.query r.out key i (c, s)).2.1 ∧
      ∀ response, answer key = .ok response → (∀ i, InTimeT (r.clock i + opts.ttlSeconds)) →
        ∃ rc, (getOcspResponse.refresh opts inner r.clock r.query r.out key i (c, s)).1 =
            .ok (rc, response) ∧
          (rc = .Ok ↔ nvOcspResponseSizeBytes + key.length ≤ opts.maxSizeBytes) := by
  obtain ⟨s', hinner⟩ := hans r.query key hkey r.out s
  rw [getOcspResponse.refresh]
  cases hd : answer key with
  | error e =>
    rw [hd] at hinner
    obtain ⟨he, out', hrun⟩ := hinner
    have hsecond : (Prog.onSecond (inner.getOcspResponse r.query r.out) :
        Prog Fault (NvCache Bytes NvOcspResponse × σ) _) (c, s) = (.ok (e, out'), (c, s')) := by
      simp [Prog.onSecond, hrun]
    rw [Prog.bind_of_ok hsecond]
    simp [he, hc]
  | ok response =>
    rw [hd] at hinner
    have hsecond : (Prog.onSecond (inner.getOcspResponse r.query r.out) :
        Prog Fault (NvCache Bytes NvOcspResponse × σ) _) (c, s) =
        (.ok (.Ok, response), (c, s')) := by
      simp [Prog.onSecond, hinner]
    rw [Prog.bind_of_ok hsecond]
    simp only [ne_eq, not_true_eq_false, if_false]
    by_cases hsize : nvOcspResponseSizeBytes + key.length ≤ opts.maxSizeBytes
    · have hput := cachePut_fits (fun j => r.clock (i + j)) hc key response hsize ⟨hd, hsize⟩ s'
      cases hput with
      | inl hok =>
        obtain ⟨c', hrun, hc'⟩ := hok
        rw [Prog.bind_of_ok hrun]
        exact ⟨hc', fun response' hd' _ => ⟨.Ok, by simp_all, by simp_all⟩⟩
      | inr herr =>
        obtain ⟨hrun, j, hover⟩ := herr
        rw [Prog.bind_of_error hrun]
        exact ⟨hc, fun _ _ hclock => absurd (hclock (i + j)) hover⟩
    · have hrun := cachePut_large opts (fun j => r.clock (i + j)) c key response
        (by omega : opts.maxSizeBytes < nvOcspResponseSizeBytes + key.length) s'
      rw [Prog.bind_of_ok hrun]
      exact ⟨hc, fun response' hd' _ => ⟨.BadArgument, by simp_all, by simp_all⟩⟩

/-- Every request keeps the cache true to the inner client and, where the key
can be built and the inner client answers, returns that answer exactly when the
entry fits. -/
theorem getOcspResponse_spec (hans : OcspAnswers lib inner answer)
    {c : NvCache Bytes NvOcspResponse} {s : σ} (hc : Caches (HoldsOcsp opts answer) c)
    (r : OcspRequest) :
    Caches (HoldsOcsp opts answer)
        (getOcspResponse opts lib inner r.clock r.query r.out (c, s)).2.1 ∧
      ∀ key response, getCacheKey lib r.query = some key → answer key = .ok response →
        (∀ i, InTimeT (r.clock i + opts.ttlSeconds)) →
        ∃ rc, (getOcspResponse opts lib inner r.clock r.query r.out (c, s)).1 =
            .ok (rc, response) ∧
          (rc = .Ok ↔ nvOcspResponseSizeBytes + key.length ≤ opts.maxSizeBytes) := by
  rw [getOcspResponse]
  cases hkey : getCacheKey lib r.query with
  | none => exact ⟨hc, fun _ _ h => by simp at h⟩
  | some key =>
    simp only
    by_cases hlive : Live c (r.clock 0) key
    · obtain ⟨obj, hobj, hnow⟩ := hlive
      obtain ⟨c', hget, hc'⟩ := cacheGet_live hc hobj hnow s
      obtain ⟨hd, hsize⟩ := hc.stored key obj hobj
      rw [Prog.bind_of_ok hget]
      by_cases hnext : obj.value.nextupd < r.clock 1
      · have hspec := refresh_spec opts lib inner hans (s := s) hc' r hkey 2
        simp only [hnext]
        refine ⟨hspec.1, fun key' response hk => ?_⟩
        obtain rfl : key = key' := by simpa using hk
        exact hspec.2 response
      · simp only [hnext]
        refine ⟨hc', fun key' response hk hd' _ => ⟨.Ok, ?_, ?_⟩⟩
        · obtain rfl : key = key' := by simpa using hk
          rw [hd] at hd'
          obtain rfl : obj.value = response := by simpa using hd'
          rfl
        · obtain rfl : key = key' := by simpa using hk
          simp [hsize]
    · rw [Prog.bind_of_ok (cacheGet_dead hlive s)]
      have hspec := refresh_spec opts lib inner hans (s := s) hc r hkey 1
      refine ⟨hspec.1, fun key' response hk => ?_⟩
      obtain rfl : key = key' := by simpa using hk
      exact hspec.2 response

theorem ocspAnswers_ok (hans : OcspAnswers lib inner answer) {q : OcspQuery} {key : Bytes}
    (hkey : getCacheKey lib q = some key) {out response : NvOcspResponse} {s : σ}
    (hok : (inner.getOcspResponse q out s).1 = .ok (.Ok, response)) :
    answer key = .ok response := by
  obtain ⟨s', hinner⟩ := hans q key hkey out s
  cases hd : answer key with
  | ok response' =>
    simp only [hd] at hinner
    simpa [hinner] using hok
  | error e =>
    simp only [hd] at hinner
    obtain ⟨he, out', hrun⟩ := hinner
    simp [hrun, he] at hok

theorem serveOcsp_caches (hans : OcspAnswers lib inner answer) (requests : List OcspRequest) :
    ∀ w : NvCache Bytes NvOcspResponse × σ, Caches (HoldsOcsp opts answer) w.1 →
      Caches (HoldsOcsp opts answer) (serveOcsp opts lib inner requests w).1 := by
  induction requests with
  | nil => exact fun w h => h
  | cons r rest ih =>
    intro w h
    obtain ⟨c, s⟩ := w
    exact ih (getOcspResponse opts lib inner r.clock r.query r.out (c, s)).2
      (getOcspResponse_spec opts lib inner hans h r).1

/-- A request that the inner client answers gets that answer exactly when its
certificate id can be encoded and the entry fits the cache. -/
theorem getOcspResponse_transparent_iff (hans : OcspAnswers lib inner answer)
    (requests : List OcspRequest) (s : σ) (r : OcspRequest) {response : NvOcspResponse}
    (hok : (inner.getOcspResponse r.query r.out
      (serveOcsp opts lib inner requests (emptyCache, s)).2).1 = .ok (.Ok, response))
    (hclock : ∀ i, InTimeT (r.clock i + opts.ttlSeconds)) :
    (getOcspResponse opts lib inner r.clock r.query r.out
        (serveOcsp opts lib inner requests (emptyCache, s))).1 = .ok (.Ok, response) ↔
      ∃ key, getCacheKey lib r.query = some key ∧
        nvOcspResponseSizeBytes + key.length ≤ opts.maxSizeBytes := by
  have hc := serveOcsp_caches opts lib inner hans requests (emptyCache, s) (caches_empty _)
  generalize serveOcsp opts lib inner requests (emptyCache, s) = w at hc hok
  obtain ⟨c, s⟩ := w
  cases hkey : getCacheKey lib r.query with
  | none => simp [getOcspResponse, hkey]
  | some key =>
    have hd := ocspAnswers_ok lib inner hans hkey hok
    obtain ⟨rc, hrun, hrc⟩ :=
      (getOcspResponse_spec opts lib inner hans hc r).2 key response hkey hd hclock
    rw [hrun]
    simp [hrc]

end OcspClient

/-- In every sequence of requests, a request that the inner client answers with
`Ok` gets that answer through the wrapper exactly when: for a RIM, its raw data fit
the cache and, where the cache holds the id, the data parse and the caller's document
already carries the RIM id; for an OCSP response, its certificate id can be encoded
and the entry fits the cache. -/
theorem wrappers_transparent_iff {τ : Type} (opts : NvCacheOptions)
    (readDoc : String → Option Xml) (store : RimStore σ)
    (rimAnswer : String → Except Error RimDocument) (hrim : Answers store rimAnswer)
    (lib : OcspLib) (client : OcspClient τ) (ocspAnswer : Bytes → Except Error NvOcspResponse)
    (hocsp : OcspAnswers lib client ocspAnswer) :
    (∀ (requests : List RimRequest) (s : σ) (r : RimRequest) (d : RimDocument),
      let w := serveRims opts readDoc store requests (emptyCache, s)
      (store.getRim r.rimId r.out w.2).1 = .ok (.Ok, d) →
      (∀ i, InTimeT (r.clock i + opts.ttlSeconds)) →
      (SameRim d (getRim opts readDoc store r.clock r.rimId r.out w).1 ↔
        d.rimData.length ≤ opts.maxSizeBytes ∧
        (Live w.1 (r.clock 0) r.rimId →
          (readDoc d.rimData).isSome ∧ r.out.rimId = d.rimId))) ∧
    (∀ (requests : List OcspRequest) (s : τ) (r : OcspRequest) (response : NvOcspResponse),
      let w := serveOcsp opts lib client requests (emptyCache, s)
      (client.getOcspResponse r.query r.out w.2).1 = .ok (.Ok, response) →
      (∀ i, InTimeT (r.clock i + opts.ttlSeconds)) →
      ((getOcspResponse opts lib client r.clock r.query r.out w).1 = .ok (.Ok, response) ↔
        ∃ key, getCacheKey lib r.query = some key ∧
          nvOcspResponseSizeBytes + key.length ≤ opts.maxSizeBytes)) :=
  ⟨fun requests s r _ hok hclock =>
      getRim_transparent_iff opts readDoc store hrim requests s r hok hclock,
    fun requests s r _ hok hclock =>
      getOcspResponse_transparent_iff opts lib client hocsp requests s r hok hclock⟩

/-- A store that knows one document and answers every id with it. -/
def sampleRim : RimDocument := ⟨"NV_GPU_DRIVER", some (.text ""), "<a/>"⟩

def sampleStore : RimStore Unit := ⟨fun _ _ => pure (.Ok, sampleRim)⟩

def sampleRequest : RimRequest := ⟨fun _ => 0, "NV_GPU_DRIVER", {}⟩

def sampleCertIdLib : OcspLib :=
  { (default : OcspLib) with
    certToId := fun subject issuer => some ⟨[], issuer.der, subject.der, 1⟩
    i2dCertId := fun id => 48 :: id.issuerNameHash ++ id.issuerKeyHash }

def sampleResponse : NvOcspResponse := ⟨0, 3600, 0, 0, true, true, false, 0, 0⟩

def sampleOcspClient : OcspClient Unit := ⟨fun _ _ => pure (.Ok, sampleResponse)⟩

def sampleOcspRequest : OcspRequest := ⟨fun _ => 0, ⟨⟨[1]⟩, ⟨[2]⟩, [], ⟨[]⟩⟩, sampleResponse⟩

theorem wrappers_transparent_sample :
    SameRim sampleRim (getRim ⟨100, 3600⟩ (fun _ => some (.text "")) sampleStore
        sampleRequest.clock sampleRequest.rimId sampleRequest.out (emptyCache, ())).1 ∧
      (getOcspResponse ⟨100, 3600⟩ sampleCertIdLib sampleOcspClient sampleOcspRequest.clock
        sampleOcspRequest.query sampleOcspRequest.out (emptyCache, ())).1 =
          .ok (.Ok, sampleResponse) := by
  have h := wrappers_transparent_iff ⟨100, 3600⟩ (fun _ => some (.text "")) sampleStore
    (fun _ => .ok sampleRim) (fun _ _ s => ⟨s, rfl⟩) sampleCertIdLib sampleOcspClient
    (fun _ => .ok sampleResponse) (fun _ _ _ _ s => ⟨s, rfl⟩)
  have ht : InTimeT (0 + 3600) := by decide
  constructor
  · refine (h.1 [] () sampleRequest sampleRim rfl (fun _ => ht)).mpr ⟨by decide, ?_⟩
    simp [serveRims, Live, emptyCache]
  · exact (h.2 [] () sampleOcspRequest sampleResponse rfl (fun _ => ht)).mpr
      ⟨[48, 2, 1], by decide, by decide⟩

/-- The second request for an id, made with a fresh document, loses the RIM id. -/
theorem second_rim_request_loses_id :
    ¬ ∀ (opts : NvCacheOptions) (readDoc : String → Option Xml) (store : RimStore Unit)
      (answer : String → Except Error RimDocument), Answers store answer →
      ∀ (requests : List RimRequest) (r : RimRequest) (d : RimDocument),
        let w := serveRims opts readDoc store requests (emptyCache, ())
        (store.getRim r.rimId r.out w.2).1 = .ok (.Ok, d) →
        SameRim d (getRim opts readDoc store r.clock r.rimId r.out w).1 := by
  intro h
  have hsame := h ⟨100, 3600⟩ (fun _ => some (.text "")) sampleStore (fun _ => .ok sampleRim)
    (fun _ _ s => ⟨s, rfl⟩) [sampleRequest] sampleRequest sampleRim rfl
  obtain ⟨d', hrun, _, hid⟩ := hsame
  have hlost : (.ok (.Ok, ⟨"", some (.text ""), "<a/>"⟩) : Except Fault (Error × RimDocument)) =
      .ok (.Ok, d') := hrun
  obtain rfl : _ = d' := by simpa using hlost
  exact absurd hid (by decide)

end AttestationSdk.Caching
