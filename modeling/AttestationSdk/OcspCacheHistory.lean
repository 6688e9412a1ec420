import AttestationSdk.CachingTransparency

/-! Which answer of the inner OCSP client a cached status is, over whole runs of the
caching client. -/
namespace AttestationSdk.Caching
open AttestationSdk.Ocsp AttestationSdk.ChainStatus AttestationSdk.Cache
open Effects Prog CalendarTime
variable {σ : Type}

/-- One call of the inner client. -/
structure InnerAnswer where
  query : OcspQuery
  outcome : Except Fault (Error × NvOcspResponse)

/-- The inner client with a record of its answers. -/
def recording (inner : OcspClient σ) : OcspClient (List InnerAnswer × σ) where
  getOcspResponse q out := fun w =>
    let r := inner.getOcspResponse q out w.2
    (r.1, (w.1 ++ [⟨q, r.1⟩], r.2))

/-- A request with the inner answers it took and what the caller got. -/
structure Served where
  request : OcspRequest
  answers : List InnerAnswer
  outcome : Except Fault (Error × NvOcspResponse)

abbrev OcspCache := NvCache Bytes NvOcspResponse

/-- One request to the caching client: the outcome, the cache, the inner answers and
the inner world. -/
def serve (opts : NvCacheOptions) (lib : OcspLib) (inner : OcspClient σ) (r : OcspRequest)
    (c : OcspCache) (s : σ) :
    Except Fault (Error × NvOcspResponse) × OcspCache × List InnerAnswer × σ :=
  getOcspResponse opts lib (recording inner) r.clock r.query r.out (c, ([], s))

/-- The clock does not go back, within a request and from one to the next. -/
def ClockAfter (past : List Served) (r : OcspRequest) : Prop :=
  (∀ i j, i ≤ j → r.clock i ≤ r.clock j) ∧ ∀ e ∈ past, ∀ i j, e.request.clock i ≤ r.clock j

/-- Runs from the empty cache. A call whose behaviour is undefined ends the run. -/
inductive Serves (opts : NvCacheOptions) (lib : OcspLib) (inner : OcspClient σ) :
    List Served → OcspCache → σ → Prop where
  | start (s : σ) : Serves opts lib inner [] emptyCache s
  | request {past : List Served} {c c' : OcspCache} {s s' : σ} {r : OcspRequest}
      {answers : List InnerAnswer} {outcome : Except Fault (Error × NvOcspResponse)}
      (before : Serves opts lib inner past c s) (later : ClockAfter past r)
      (run : serve opts lib inner r c s = (outcome, c', answers, s'))
      (defined : outcome ≠ .error .undefined) :
      Serves opts lib inner (past ++ [⟨r, answers, outcome⟩]) c' s'

/-- The inner client answered `Ok` with a response for a cache key. -/
def AnswersKey (lib : OcspLib) (key : Bytes) (response : NvOcspResponse) (e : Served) : Prop :=
  ∃ a ∈ e.answers, getCacheKey lib a.query = some key ∧ a.outcome = .ok (.Ok, response)

/-- All that one request can do. -/
inductive Serving (opts : NvCacheOptions) (lib : OcspLib) (r : OcspRequest) (c : OcspCache) :
    Except Fault (Error × NvOcspResponse) → OcspCache → List InnerAnswer → Prop where
  | noKey : getCacheKey lib r.query = none →
    Serving opts lib r c (.ok (.InternalError, r.out)) c []
  | hit {key : Bytes} {obj : NvCacheObject NvOcspResponse} {c' : OcspCache} :
    getCacheKey lib r.query = some key → c.cache key = some obj →
    r.clock 0 < obj.expiryTime → r.clock 1 ≤ obj.value.nextupd → Linked c' → c'.cache = c.cache →
    Serving opts lib r c (.ok (.Ok, obj.value)) c' []
  | refused {key : Bytes} {c' : OcspCache} {outcome : Except Fault (Error × NvOcspResponse)} :
    getCacheKey lib r.query = some key → (∀ response, outcome ≠ .ok (.Ok, response)) →
    Linked c' → c'.cache = c.cache → Serving opts lib r c outcome c' [⟨r.query, outcome⟩]
  | tooLarge {key : Bytes} {c' : OcspCache} {response : NvOcspResponse} :
    getCacheKey lib r.query = some key →
    opts.maxSizeBytes < nvOcspResponseSizeBytes + key.length → Linked c' → c'.cache = c.cache →
    Serving opts lib r c (.ok (.BadArgument, response)) c' [⟨r.query, .ok (.Ok, response)⟩]
  | stored {key : Bytes} {c' : OcspCache} {response : NvOcspResponse}
      {obj : NvCacheObject NvOcspResponse} {i : Nat} :
    getCacheKey lib r.query = some key →
    nvOcspResponseSizeBytes + key.length ≤ opts.maxSizeBytes → Linked c' →
    c'.cache key = some obj → obj.value = response →
    obj.expiryTime = r.clock i + opts.ttlSeconds →
    (∀ k, k ≠ key → c'.cache k = c.cache k ∨ c'.cache k = none) →
    Serving opts lib r c (.ok (.Ok, response)) c' [⟨r.query, .ok (.Ok, response)⟩]
  | overflow {key : Bytes} {c' : OcspCache} {response : NvOcspResponse} :
    getCacheKey lib r.query = some key →
    Serving opts lib r c (.error .undefined) c' [⟨r.query, .ok (.Ok, response)⟩]

variable {opts : NvCacheOptions} {lib : OcspLib} {inner : OcspClient σ}

/-- The inner client is asked once and its answer recorded. -/
theorem recording_run (inner : OcspClient σ) (q : OcspQuery) (out : NvOcspResponse)
    (c : OcspCache) (s : σ) :
    (Prog.onSecond ((recording inner).getOcspResponse q out) :
      Prog Fault (OcspCache × List InnerAnswer × σ) _) (c, ([], s)) =
    ((inner.getOcspResponse q out s).1,
      (c, ([⟨q, (inner.getOcspResponse q out s).1⟩], (inner.getOcspResponse q out s).2))) := rfl

/-- What asking the inner client does, in a cache with the map of `c₀`. -/
theorem refresh_serving {r : OcspRequest} {c₀ c c' : OcspCache} {s s' : σ}
    {answers : List InnerAnswer} {outcome : Except Fault (Error × NvOcspResponse)} {key : Bytes}
    (hkey : getCacheKey lib r.query = some key) (h : Linked c) (hmap : c.cache = c₀.cache)
    (i : Nat)
    (hrun : getOcspResponse.refresh opts (recording inner) r.clock r.query r.out key i
      (c, ([], s)) = (outcome, c', answers, s')) :
    Serving opts lib r c₀ outcome c' answers := by
  have hinner := recording_run inner r.query r.out c s
  rw [getOcspResponse.refresh] at hrun
  cases hanswer : (inner.getOcspResponse r.query r.out s).1 with
  | error e =>
    rw [hanswer] at hinner
    rw [Prog.bind_of_error hinner] at hrun
    cases hrun
    exact .refused hkey (by simp) h hmap
  | ok a =>
    obtain ⟨rc, response⟩ := a
    rw [hanswer] at hinner
    rw [Prog.bind_of_ok hinner] at hrun
    by_cases hrc : rc = .Ok
    · subst hrc
      simp only [ne_eq, not_true_eq_false, if_false] at hrun
      by_cases hsize : nvOcspResponseSizeBytes + key.length ≤ opts.maxSizeBytes
      · cases cachePut_cases (fun j => r.clock (i + j)) h key response hsize
          (([⟨r.query, .ok (.Ok, response)⟩], (inner.getOcspResponse r.query r.out s).2) :
            List InnerAnswer × σ) with
        | inl hput =>
          obtain ⟨c₁, obj, j, hput, hlinked, hobj, hvalue, _, htime, hothers⟩ := hput
          rw [Prog.bind_of_ok hput] at hrun
          cases hrun
          exact .stored hkey hsize hlinked hobj hvalue htime (hmap ▸ hothers)
        | inr hput =>
          rw [Prog.bind_of_error hput.1] at hrun
          cases hrun
          exact .overflow hkey
      · have hlarge : opts.maxSizeBytes < nvOcspResponseSizeBytes + key.length := by omega
        rw [Prog.bind_of_ok (cachePut_large opts _ c key response hlarge _)] at hrun
        cases hrun
        exact .tooLarge hkey hlarge h hmap
    · simp only [ne_eq, hrc, not_false_eq_true, if_true] at hrun
      cases hrun
      exact .refused hkey (by simp [hrc]) h hmap

/-- Every request does one of the things `Serving` lists. -/
theorem serve_serving {r : OcspRequest} {c c' : OcspCache} {s s' : σ}
    {answers : List InnerAnswer} {outcome : Except Fault (Error × NvOcspResponse)}
    (h : Linked c) (hrun : serve opts lib inner r c s = (outcome, c', answers, s')) :
    Serving opts lib r c outcome c' answers := by
  rw [serve, getOcspResponse] at hrun
  cases hkey : getCacheKey lib r.query with
  | none =>
    rw [hkey] at hrun
    cases hrun
    exact .noKey hkey
  | some key =>
    rw [hkey] at hrun
    by_cases hlive : Live c (r.clock 0) key
    · obtain ⟨obj, hobj, hnow⟩ := hlive
      obtain ⟨c₁, hget, hlinked, hmap⟩ := cacheGet_hit h hobj hnow (([], s) : List InnerAnswer × σ)
      dsimp only at hrun
      rw [Prog.bind_of_ok hget] at hrun
      by_cases hnext : obj.value.nextupd < r.clock 1
      · simp only [hnext] at hrun
        exact refresh_serving hkey hlinked hmap 2 hrun
      · simp only [hnext] at hrun
        cases hrun
        exact .hit hkey hobj hnow (by omega) hlinked hmap
    · have hget := cacheGet_dead hlive (([], s) : List InnerAnswer × σ)
      dsimp only at hrun
      rw [Prog.bind_of_ok hget] at hrun
      exact refresh_serving hkey h rfl 1 hrun

/-- A stored object is the last `Ok` answer for its key, and its time is counted from a
time read in that request. -/
structure LastAnswer (opts : NvCacheOptions) (lib : OcspLib) (past : List Served) (key : Bytes)
    (obj : NvCacheObject NvOcspResponse) : Prop where
  fits : nvOcspResponseSizeBytes + key.length ≤ opts.maxSizeBytes
  answered : ∃ before e after i, past = before ++ e :: after ∧
    AnswersKey lib key obj.value e ∧ obj.expiryTime = e.request.clock i + opts.ttlSeconds ∧
    ∀ e' ∈ after, ∀ response, ¬ AnswersKey lib key response e'

/-- The cache in terms of the run behind it. -/
structure Current (opts : NvCacheOptions) (lib : OcspLib) (past : List Served) (c : OcspCache) :
    Prop where
  linked : Linked c
  stored : ∀ key obj, c.cache key = some obj → LastAnswer opts lib past key obj

theorem LastAnswer.snoc {past : List Served} {key : Bytes} {obj : NvCacheObject NvOcspResponse}
    (h : LastAnswer opts lib past key obj) {e : Served}
    (hnew : ∀ response, ¬ AnswersKey lib key response e) :
    LastAnswer opts lib (past ++ [e]) key obj := by
  obtain ⟨hfits, before, e', after, i, hpast, hanswer, htime, hlater⟩ := h
  refine ⟨hfits, before, e', after ++ [e], i, by simp [hpast], hanswer, htime, ?_⟩
  intro e'' hmem
  cases List.mem_append.mp hmem with
  | inl hold => exact hlater e'' hold
  | inr hlast =>
    obtain rfl := List.mem_singleton.mp hlast
    exact hnew

/-- A request without an `Ok` answer for any key the cache holds. -/
theorem Current.snoc {past : List Served} {c c' : OcspCache} (h : Current opts lib past c)
    (hlinked : Linked c') (hmap : c'.cache = c.cache) {e : Served}
    (hnew : ∀ key obj, c.cache key = some obj → ∀ response, ¬ AnswersKey lib key response e) :
    Current opts lib (past ++ [e]) c' := by
  refine ⟨hlinked, fun key obj hobj => ?_⟩
  rw [hmap] at hobj
  exact (h.stored key obj hobj).snoc (hnew key obj hobj)

theorem not_answersKey_nil (lib : OcspLib) (key : Bytes) (response : NvOcspResponse)
    (r : OcspRequest) (outcome : Except Fault (Error × NvOcspResponse)) :
    ¬ AnswersKey lib key response ⟨r, [], outcome⟩ := by
  simp [AnswersKey]

/-- What one request does to the cache and the record. -/
theorem Serving.current {past : List Served} {r : OcspRequest} {c c' : OcspCache}
    {answers : List InnerAnswer} {outcome : Except Fault (Error × NvOcspResponse)}
    (h : Current opts lib past c) (hstep : Serving opts lib r c outcome c' answers)
    (hdefined : outcome ≠ .error .undefined) :
    Current opts lib (past ++ [⟨r, answers, outcome⟩]) c' := by
  cases hstep with
  | noKey => exact h.snoc h.linked rfl fun key _ _ response => not_answersKey_nil lib key response r _
  | hit _ _ _ _ hlinked hmap =>
    exact h.snoc hlinked hmap fun key _ _ response => not_answersKey_nil lib key response r _
  | refused _ hrefused hlinked hmap =>
    refine h.snoc hlinked hmap fun key _ _ response hanswer => ?_
    obtain ⟨a, ha, _, hok⟩ := hanswer
    obtain rfl := List.mem_singleton.mp ha
    exact hrefused response hok
  | @tooLarge key _ answer hkey hlarge hlinked hmap =>
    -- every entry of this key has this size, so the cache holds none
    refine h.snoc hlinked hmap fun key' obj hobj response hanswer => ?_
    obtain ⟨a, ha, hkey', _⟩ := hanswer
    obtain rfl := List.mem_singleton.mp ha
    obtain rfl : key = key' := by simpa [hkey] using hkey'
    have hfits := (h.stored key obj hobj).fits
    omega
  | @stored key _ response obj i hkey hfits hlinked hobj hvalue htime hothers =>
    refine ⟨hlinked, fun key' obj' hobj' => ?_⟩
    by_cases hk : key' = key
    · subst hk
      obtain rfl : obj = obj' := by simpa [hobj] using hobj'
      refine ⟨hfits, past, _, [], i, rfl, ?_, htime, by simp⟩
      exact ⟨_, List.mem_singleton_self _, hkey, by rw [hvalue]⟩
    · cases hothers key' hk with
      | inl hsame =>
        refine (h.stored key' obj' (hsame ▸ hobj')).snoc fun answer hanswer => ?_
        obtain ⟨a, ha, hkey', _⟩ := hanswer
        obtain rfl := List.mem_singleton.mp ha
        exact hk (by simpa [hkey] using hkey'.symm)
      | inr hnone => simp [hnone] at hobj'
  | overflow => exact absurd rfl hdefined

theorem Serves.current {past : List Served} {c : OcspCache} {s : σ}
    (h : Serves opts lib inner past c s) : Current opts lib past c := by
  induction h with
  | start => exact ⟨linked_empty, by simp [emptyCache]⟩
  | request _ _ hrun hdefined ih =>
    exact Serving.current ih (serve_serving ih.linked hrun) hdefined

/-- The inner client answered `Ok` with a response for a certificate id. -/
def AnswersCertId (lib : OcspLib) (id : CertId) (response : NvOcspResponse) (e : Served) :
    Prop :=
  ∃ a ∈ e.answers, lib.certToId a.query.subject a.query.issuer = some id ∧
    a.outcome = .ok (.Ok, response)

/-- DER encodings of different certificate ids differ. -/
def EncodesCertIds (lib : OcspLib) : Prop :=
  ∀ id id', lib.i2dCertId id ≠ [] → lib.i2dCertId id = lib.i2dCertId id' → id = id'

theorem getCacheKey_some {q : OcspQuery} {key : Bytes} (h : getCacheKey lib q = some key) :
    ∃ id, lib.certToId q.subject q.issuer = some id ∧ lib.i2dCertId id = key ∧ key ≠ [] := by
  rw [getCacheKey] at h
  cases hid : lib.certToId q.subject q.issuer with
  | none => simp [hid] at h
  | some id =>
    by_cases hempty : lib.i2dCertId id = []
    · simp [hid, hempty] at h
    · obtain rfl : lib.i2dCertId id = key := by simpa [hid, hempty] using h
      exact ⟨id, rfl, rfl, hempty⟩

theorem AnswersKey.certId (henc : EncodesCertIds lib) {id : CertId}
    (hid : lib.i2dCertId id ≠ []) {response : NvOcspResponse} {e : Served}
    (h : AnswersKey lib (lib.i2dCertId id) response e) : AnswersCertId lib id response e := by
  obtain ⟨a, ha, hkey, hok⟩ := h
  obtain ⟨id', hid', hder, _⟩ := getCacheKey_some hkey
  obtain rfl := henc id id' hid hder.symm
  exact ⟨a, ha, hid', hok⟩

theorem AnswersCertId.key {id : CertId} (hid : lib.i2dCertId id ≠ [])
    {response : NvOcspResponse} {e : Served} (h : AnswersCertId lib id response e) :
    AnswersKey lib (lib.i2dCertId id) response e := by
  obtain ⟨a, ha, hid', hok⟩ := h
  exact ⟨a, ha, by simp [getCacheKey, hid', hid], hok⟩

/-- The response is the last `Ok` answer of the inner client for the certificate id of the
request, stored less than the cache's lifetime ago, and its next update is not past. -/
structure StillValid (opts : NvCacheOptions) (lib : OcspLib) (past : List Served)
    (r : OcspRequest) (response : NvOcspResponse) : Prop where
  answered : ∃ id before e after i,
    lib.certToId r.query.subject r.query.issuer = some id ∧ past = before ++ e :: after ∧
    AnswersCertId lib id response e ∧
    (∀ e' ∈ after, ∀ response', ¬ AnswersCertId lib id response' e') ∧
    e.request.clock i ≤ r.clock 0 ∧ r.clock 0 < e.request.clock i + opts.ttlSeconds
  nextUpdate : r.clock 1 ≤ response.nextupd

theorem LastAnswer.stillValid (henc : EncodesCertIds lib) {past : List Served} {key : Bytes}
    {obj : NvCacheObject NvOcspResponse} (h : LastAnswer opts lib past key obj)
    {r : OcspRequest} (hclock : ClockAfter past r) (hkey : getCacheKey lib r.query = some key)
    (hlive : r.clock 0 < obj.expiryTime) (hnext : r.clock 1 ≤ obj.value.nextupd) :
    StillValid opts lib past r obj.value := by
  obtain ⟨_, before, e, after, i, hpast, hanswer, htime, hlater⟩ := h
  obtain ⟨id, hid, rfl, hne⟩ := getCacheKey_some hkey
  have hmem : e ∈ past := by simp [hpast]
  refine ⟨⟨id, before, e, after, i, hid, hpast, hanswer.certId henc hne, ?_, ?_, ?_⟩, hnext⟩
  · exact fun e' he' response' h' => hlater e' he' response' (h'.key hne)
  · exact hclock.2 e hmem i 0
  · omega

/-- In every run from the empty cache, a response the client returns without asking the inner
client is still valid, and an answer of the inner client that is not `Ok` is handed on and leaves
what is stored as it was. -/
theorem serve_still_valid (opts : NvCacheOptions) (lib : OcspLib) (inner : OcspClient σ)
    (henc : EncodesCertIds lib) {past : List Served} {c : OcspCache} {s : σ}
    (hpast : Serves opts lib inner past c s) {r : OcspRequest} (hclock : ClockAfter past r)
    {outcome : Except Fault (Error × NvOcspResponse)} {c' : OcspCache}
    {answers : List InnerAnswer} {s' : σ}
    (hrun : serve opts lib inner r c s = (outcome, c', answers, s')) :
    (∀ response, answers = [] → outcome = .ok (.Ok, response) →
      StillValid opts lib past r response) ∧
    (∀ a ∈ answers, (∀ response, a.outcome ≠ .ok (.Ok, response)) →
      outcome = a.outcome ∧ c'.cache = c.cache) := by
  have hcurrent := hpast.current
  have hstep := serve_serving hcurrent.linked hrun
  cases hstep with
  | noKey => simp
  | @hit key obj _ hkey hobj hlive hnext _ _ =>
    refine ⟨fun response _ hok => ?_, by simp⟩
    obtain rfl : obj.value = response := by simpa using hok
    exact (hcurrent.stored key obj hobj).stillValid henc hclock hkey hlive hnext
  | refused _ _ _ hmap =>
    refine ⟨by simp, fun a ha _ => ?_⟩
    obtain rfl := List.mem_singleton.mp ha
    exact ⟨rfl, hmap⟩
  | tooLarge => simp
  | stored => simp
  | overflow => simp

/-- The algorithm identifier of SHA-1, as `OCSP_cert_to_id` fills it in. -/
def sha1Identifier : Bytes := [0x06, 0x05, 0x2b, 0x0e, 0x03, 0x02, 0x1a, 0x05, 0x00]

/-- A certificate id with SHA-1 hashes and a serial number of one octet. -/
def ShortCertId (id : CertId) : Prop :=
  id.hashAlgorithm = sha1Identifier ∧ id.issuerNameHash.length = 20 ∧
    id.issuerKeyHash.length = 20 ∧ 0 ≤ id.serialNumber ∧ id.serialNumber < 128

instance (id : CertId) : Decidable (ShortCertId id) :=
  inferInstanceAs (Decidable (_ ∧ _))

/-- DER of short certificate ids; the others are left out. -/
def shortCertIdLib : OcspLib :=
  { (default : OcspLib) with
    certToId := fun subject issuer =>
      some ⟨sha1Identifier, List.replicate 20 (issuer.der.headD 0),
        List.replicate 20 (issuer.der.headD 0), (subject.der.headD 0).toNat⟩
    i2dCertId := fun id =>
      if ShortCertId id then
        [0x30, 0x3a, 0x30, 0x09] ++ sha1Identifier ++ [0x04, 0x14] ++ (id.issuerNameHash ++
          ([0x04, 0x14] ++ (id.issuerKeyHash ++ [0x02, 0x01, UInt8.ofNat id.serialNumber.toNat])))
      else [] }

theorem shortCertIdLib_encodes : EncodesCertIds shortCertIdLib := by
  intro id id' hne heq
  have hshort : ShortCertId id := by
    by_contra h
    exact hne (if_neg h)
  have hshort' : ShortCertId id' := by
    by_contra h
    exact hne (heq.trans (if_neg h))
  simp only [shortCertIdLib, if_pos hshort, if_pos hshort', List.append_cancel_left_eq] at heq
  obtain ⟨halg, hname, hkey, hpos, hlt⟩ := hshort
  obtain ⟨halg', hname', hkey', hpos', hlt'⟩ := hshort'
  obtain ⟨hnames, hrest⟩ := List.append_inj heq (by rw [hname, hname'])
  obtain ⟨hkeys, hserials⟩ := List.append_inj (List.append_cancel_left hrest) (by rw [hkey, hkey'])
  have hserial : UInt8.ofNat id.serialNumber.toNat = UInt8.ofNat id'.serialNumber.toNat := by
    simpa using hserials
  have hnat := congrArg UInt8.toNat hserial
  simp only [UInt8.toNat_ofNat'] at hnat
  have hint : id.serialNumber = id'.serialNumber := by omega
  cases id
  cases id'
  simp_all

/-- The sample request, made ten seconds later. -/
def lateRequest : OcspRequest := { sampleOcspRequest with clock := fun _ => 10 }

def earlyServed : Served :=
  ⟨sampleOcspRequest, [⟨sampleOcspRequest.query, .ok (.Ok, sampleResponse)⟩], .ok (.Ok, sampleResponse)⟩

theorem serve_still_valid_sample :
    StillValid ⟨100, 3600⟩ shortCertIdLib [earlyServed] lateRequest sampleResponse := by
  have hpast : Serves ⟨100, 3600⟩ shortCertIdLib sampleOcspClient [earlyServed] _ () :=
    .request (.start ()) ⟨by simp [sampleOcspRequest], by simp⟩
      (show serve _ _ _ sampleOcspRequest emptyCache () = (_, _, _, ()) from rfl) (by simp)
  have hclock : ClockAfter [earlyServed] lateRequest := by
    simp [ClockAfter, earlyServed, lateRequest, sampleOcspRequest]
  exact (serve_still_valid ⟨100, 3600⟩ shortCertIdLib sampleOcspClient shortCertIdLib_encodes
    hpast hclock rfl).1 sampleResponse rfl rfl

end AttestationSdk.Caching
