import AttestationSdk.CachingTransparency
import AttestationSdk.Base64Decoding
import AttestationSdk.DetachedEat
import AttestationSdk.Http

/-! `NvRemoteRimStoreImpl`, and where the documents of the caching store over it come from. -/
namespace AttestationSdk.RemoteRim
open Json AttestationSdk.Claims AttestationSdk.Text AttestationSdk.Rim AttestationSdk.Http
open AttestationSdk.Cache AttestationSdk.Caching AttestationSdk.Eat Effects Prog CalendarTime
variable {σ : Type}

def httpStatusNotFound : Int := 404

/-- `RimResponse`, as far as `from_json` fills it. -/
structure RimResponse where
  id : String
  rim : String
  requestId : String
  sha256 : String
  deriving Repr, DecidableEq

def rimResponseFromJson (js : Value) : Except ReadFault RimResponse := do
  return {
    id := ← field js "id" Value.getString
    rim := ← field js "rim" Value.getString
    requestId := ← field js "request_id" Value.getString
    sha256 := ← field js "sha256" Value.getString }

def rimUrl (baseUrl rimId : String) : String := baseUrl ++ "/v1/rim/" ++ rimId

def rimRequest (baseUrl rimId : String) : NvRequest where
  url := rimUrl baseUrl rimId
  method := .GET

/-- What the store makes of a status other than 200. -/
def statusError (httpCode : Int) : Error :=
  if httpCode = httpStatusNotFound then .RimNotFound
  else if httpCode = httpStatusForbidden ∨ httpCode = httpStatusUnauthorized then .RimForbidden
  else .RimInternalError

/-- What the store uses of nlohmann, OpenSSL and libxml2. -/
structure RimLib where
  parse : String → Option Value
  decodeBlock : List Char → Option Bytes
  readDoc : String → Option Xml

section Store
variable (lib : RimLib)

/-- `NvRemoteRimStoreImpl::extract_rim_document`: a new document replaces the caller's. -/
def extractRimDocument (rimResponseData : String) (out : RimDocument) :
    Except Fault (Error × RimDocument) :=
  match decodeBase64 lib.decodeBlock rimResponseData with
  | .error (.code _) => .ok (.InternalError, out)
  | .error e => .error e
  | .ok decodedRimData =>
    let (rc, rimDocument) := createFromRimData lib.readDoc (ofBytes decodedRimData) {}
    if rc ≠ .Ok then .ok (.InternalError, out) else .ok (.Ok, rimDocument)

/-- `deserialize_from_json<RimResponse>`. -/
def readRimResponse (response : String) : Except Fault RimResponse :=
  match lib.parse response with
  | none => .error (.code .InternalError)
  | some js => orInternalError (rimResponseFromJson js)

/-- The body of a 200 answer. -/
def takeRimResponse (rimId response : String) (out : RimDocument) :
    Except Fault (Error × RimDocument) :=
  match readRimResponse lib response with
  | .error (.code e) => .ok (e, out)
  | .error e => .error e
  | .ok rimResponse =>
    if rimId ≠ rimResponse.id then .ok (.InternalError, out) else do
      let (rc, out) ← extractRimDocument lib rimResponse.rim out
      if rc ≠ .Ok then return (rc, out) else return (.Ok, { out with rimId })

/-- `NvRemoteRimStoreImpl::get_rim`. -/
def remoteGetRim (http : HttpClient σ) (baseUrl rimId : String) (out : RimDocument) :
    Prog Fault σ (Error × RimDocument) := do
  let (rc, httpCode, response) ← http.doRequestAsString (rimRequest baseUrl rimId)
  if rc ≠ .Ok then return (rc, out)
  else if httpCode ≠ httpStatusOk then return (statusError httpCode, out)
  else Prog.lift (takeRimResponse lib rimId response out)

/-- `NvRemoteRimStoreImpl`. -/
def remoteRimStore (http : HttpClient σ) (baseUrl : String) : RimStore σ where
  getRim := remoteGetRim lib http baseUrl

end Store

/-- One request to the service and its answer. -/
structure Exchange where
  request : NvRequest
  outcome : Except Fault (Error × Int × String)

/-- The client with a record of what it sent and got. -/
def recordingHttp (http : HttpClient σ) : HttpClient (List Exchange × σ) where
  doRequestAsString request := fun w =>
    let r := http.doRequestAsString request w.2
    (r.1, (w.1 ++ [⟨request, r.1⟩], r.2))

/-- The service was asked for this id and answered 200 with the id and the data. -/
structure Vouches (lib : RimLib) (baseUrl rimId rimData : String) (x : Exchange) : Prop where
  asked : x.request = rimRequest baseUrl rimId
  answered : ∃ body response decoded, x.outcome = .ok (.Ok, httpStatusOk, body) ∧
    readRimResponse lib body = .ok response ∧ response.id = rimId ∧
    decodeBase64 lib.decodeBlock response.rim = .ok decoded ∧ rimData = ofBytes decoded

/-- The document is what the XML reader makes of its raw data. -/
def Parsed (lib : RimLib) (d : RimDocument) : Prop :=
  ∃ doc, lib.readDoc d.rimData = some doc ∧ d.doc = some doc

section Fetch
variable {lib : RimLib}

theorem createFromRimData_ok {rimData : String} {out d : RimDocument}
    (h : createFromRimData lib.readDoc rimData out = (.Ok, d)) :
    Parsed lib d ∧ d.rimData = rimData ∧ d.rimId = out.rimId := by
  rw [createFromRimData] at h
  cases hdoc : lib.readDoc rimData with
  | none => simp [hdoc] at h
  | some doc =>
    rw [hdoc] at h
    cases h
    exact ⟨⟨doc, hdoc, rfl⟩, rfl, rfl⟩

/-- The document is new: nothing of the caller's stays in it. -/
theorem extractRimDocument_cases {data : String} {rc : Error} {out d : RimDocument}
    (h : extractRimDocument lib data out = .ok (rc, d)) :
    (rc = .InternalError ∧ d = out) ∨
      (rc = .Ok ∧ Parsed lib d ∧
        ∃ decoded, decodeBase64 lib.decodeBlock data = .ok decoded ∧ d.rimData = ofBytes decoded) := by
  rw [extractRimDocument] at h
  cases hdecode : decodeBase64 lib.decodeBlock data with
  | error e =>
    rw [hdecode] at h
    cases e with
    | code e =>
      cases h
      exact .inl ⟨rfl, rfl⟩
    | exception => cases h
    | undefined => cases h
    | outOfFuel => cases h
  | ok decoded =>
    rw [hdecode] at h
    dsimp only at h
    cases hcreate : createFromRimData lib.readDoc (ofBytes decoded) {} with
    | mk rc' d' =>
      rw [hcreate] at h
      by_cases hrc : rc' = .Ok
      · subst hrc
        cases h
        obtain ⟨hparsed, hdata, _⟩ := createFromRimData_ok hcreate
        exact .inr ⟨rfl, hparsed, decoded, rfl, hdata⟩
      · rw [if_pos hrc] at h
        cases h
        exact .inl ⟨rfl, rfl⟩

theorem readRimResponse_code {body : String} {e : Error}
    (h : readRimResponse lib body = .error (.code e)) : e = .InternalError := by
  rw [readRimResponse] at h
  cases hparse : lib.parse body with
  | none =>
    rw [hparse] at h
    cases h
    rfl
  | some js =>
    rw [hparse] at h
    cases hread : rimResponseFromJson js with
    | ok response => simp [hread, orInternalError] at h
    | error fault =>
      cases fault with
      | thrown => simpa [hread, orInternalError, eq_comm] using h
      | undefined => simp [hread, orInternalError] at h

theorem takeRimResponse_cases {rimId body : String} {rc : Error} {out d : RimDocument}
    (h : takeRimResponse lib rimId body out = .ok (rc, d)) :
    (rc = .InternalError ∧ d = out) ∨
      (rc = .Ok ∧ Parsed lib d ∧ d.rimId = rimId ∧
        ∃ response decoded, readRimResponse lib body = .ok response ∧ response.id = rimId ∧
          decodeBase64 lib.decodeBlock response.rim = .ok decoded ∧
          d.rimData = ofBytes decoded) := by
  rw [takeRimResponse] at h
  cases hread : readRimResponse lib body with
  | error fault =>
    rw [hread] at h
    cases fault with
    | code e =>
      cases h
      exact .inl ⟨readRimResponse_code hread, rfl⟩
    | exception => cases h
    | undefined => cases h
    | outOfFuel => cases h
  | ok response =>
    rw [hread] at h
    dsimp only at h
    by_cases hid : rimId = response.id
    · rw [if_neg (not_not_intro hid)] at h
      obtain ⟨⟨rc', d'⟩, hextract, hrest⟩ := ExceptRules.bind_eq_ok.mp h
      cases extractRimDocument_cases hextract with
      | inl hfail =>
        obtain ⟨rfl, rfl⟩ := hfail
        cases hrest
        exact .inl ⟨rfl, rfl⟩
      | inr hdone =>
        obtain ⟨rfl, ⟨doc, hdoc, hd⟩, decoded, hdecode, hdata⟩ := hdone
        cases hrest
        exact .inr ⟨rfl, ⟨doc, hdoc, hd⟩, rfl, response, decoded, rfl, hid.symm, hdecode, hdata⟩
    · rw [if_pos hid] at h
      cases h
      exact .inl ⟨rfl, rfl⟩

/-- All that one request to the remote store can do, in a world with an empty record. -/
inductive Fetching (lib : RimLib) (baseUrl rimId : String) (out : RimDocument) (x : Exchange) :
    Except Fault (Error × RimDocument) → Prop where
  | failed {fault : Fault} : Fetching lib baseUrl rimId out x (.error fault)
  | refused {rc : Error} : rc ≠ .Ok → Fetching lib baseUrl rimId out x (.ok (rc, out))
  | fetched {d : RimDocument} : Parsed lib d → d.rimId = rimId →
    Vouches lib baseUrl rimId d.rimData x → Fetching lib baseUrl rimId out x (.ok (.Ok, d))

theorem statusError_ne (httpCode : Int) : statusError httpCode ≠ .Ok := by
  rw [statusError]
  split
  · simp
  · split <;> simp

/-- The service is asked once, and nothing but its answer to this request is handed out. -/
theorem remoteGetRim_fetching (lib : RimLib) (http : HttpClient σ) (baseUrl rimId : String)
    (out : RimDocument) (s : σ) : ∃ x outcome s',
      remoteGetRim lib (recordingHttp http) baseUrl rimId out ([], s) = (outcome, ([x], s')) ∧
        x.request = rimRequest baseUrl rimId ∧ Fetching lib baseUrl rimId out x outcome := by
  cases hsent : http.doRequestAsString (rimRequest baseUrl rimId) s with
  | mk outcome s' =>
    have hrun : (recordingHttp http).doRequestAsString (rimRequest baseUrl rimId) ([], s) =
        (outcome, ([⟨rimRequest baseUrl rimId, outcome⟩], s')) := by
      simp [recordingHttp, hsent]
    refine ⟨⟨rimRequest baseUrl rimId, outcome⟩, ?_⟩
    cases outcome with
    | error fault =>
      exact ⟨.error fault, s', by rw [remoteGetRim, bind_of_error hrun], rfl, .failed⟩
    | ok answer =>
      obtain ⟨rc, httpCode, body⟩ := answer
      rw [remoteGetRim, bind_of_ok hrun]
      dsimp only
      by_cases hrc : rc = .Ok
      · subst hrc
        rw [if_neg (by simp)]
        by_cases hstatus : httpCode = httpStatusOk
        · subst hstatus
          rw [if_neg (by simp), lift_run]
          refine ⟨_, s', rfl, rfl, ?_⟩
          cases htake : takeRimResponse lib rimId body out with
          | error fault => exact .failed
          | ok result =>
            obtain ⟨rc, d⟩ := result
            cases takeRimResponse_cases htake with
            | inl hfail =>
              obtain ⟨rfl, rfl⟩ := hfail
              exact .refused (by simp)
            | inr hdone =>
              obtain ⟨rfl, hparsed, hid, response, decoded, hread, hsame, hdecode, hdata⟩ := hdone
              exact .fetched hparsed hid
                ⟨rfl, body, response, decoded, rfl, hread, hsame, hdecode, hdata⟩
        · rw [if_pos hstatus]
          exact ⟨_, s', rfl, rfl, .refused (statusError_ne httpCode)⟩
      · rw [if_pos hrc]
        exact ⟨_, s', rfl, rfl, .refused hrc⟩

end Fetch

abbrev RimCache := NvCache String String

/-- A request with what was sent for it and what the caller got. -/
structure ServedRim where
  request : RimRequest
  exchanges : List Exchange
  outcome : Except Fault (Error × RimDocument)

section Runs
variable (opts : NvCacheOptions) (lib : RimLib) (http : HttpClient σ) (baseUrl : String)

/-- One request to the caching store over the remote one. -/
def serveRim (r : RimRequest) (c : RimCache) (s : σ) :
    Except Fault (Error × RimDocument) × RimCache × List Exchange × σ :=
  getRim opts lib.readDoc (remoteRimStore lib (recordingHttp http) baseUrl) r.clock r.rimId r.out
    (c, ([], s))

/-- Runs from the empty cache. A call whose behaviour is undefined ends the run. -/
inductive ServesRims : List ServedRim → RimCache → σ → Prop where
  | start (s : σ) : ServesRims [] emptyCache s
  | request {past : List ServedRim} {c c' : RimCache} {s s' : σ} {r : RimRequest}
      {exchanges : List Exchange} {outcome : Except Fault (Error × RimDocument)}
      (before : ServesRims past c s)
      (run : serveRim opts lib http baseUrl r c s = (outcome, c', exchanges, s'))
      (defined : outcome ≠ .error .undefined) :
      ServesRims (past ++ [⟨r, exchanges, outcome⟩]) c' s'

/-- All that one request can do. -/
inductive Serving (r : RimRequest) (c : RimCache) :
    Except Fault (Error × RimDocument) → RimCache → List Exchange → Prop where
  | hit {obj : NvCacheObject String} {c' : RimCache} :
    c.cache r.rimId = some obj → r.clock 0 < obj.expiryTime → Linked c' → c'.cache = c.cache →
    Serving r c (.ok (createFromRimData lib.readDoc obj.value r.out)) c' []
  | failed {x : Exchange} {fault : Fault} : x.request = rimRequest baseUrl r.rimId →
    Serving r c (.error fault) c [x]
  | refused {x : Exchange} {rc : Error} : x.request = rimRequest baseUrl r.rimId → rc ≠ .Ok →
    Serving r c (.ok (rc, r.out)) c [x]
  | tooLarge {x : Exchange} {d : RimDocument} : Vouches lib baseUrl r.rimId d.rimData x →
    opts.maxSizeBytes < d.rimData.length → Serving r c (.ok (.BadArgument, d)) c [x]
  | stored {x : Exchange} {d : RimDocument} {c' : RimCache} {obj : NvCacheObject String}
      {i : Nat} : Vouches lib baseUrl r.rimId d.rimData x → Parsed lib d → d.rimId = r.rimId →
    Linked c' → c'.cache r.rimId = some obj → obj.value = d.rimData →
    obj.expiryTime = r.clock i + opts.ttlSeconds →
    (∀ id, id ≠ r.rimId → c'.cache id = c.cache id ∨ c'.cache id = none) →
    Serving r c (.ok (.Ok, d)) c' [x]
  | overflow {x : Exchange} : x.request = rimRequest baseUrl r.rimId →
    Serving r c (.error .undefined) c [x]

/-- A stored object came with an answer of the service to an earlier request for its id, and its
time is counted from a time read in that request. -/
structure FetchedFor (past : List ServedRim) (rimId : String) (obj : NvCacheObject String) :
    Prop where
  parses : (lib.readDoc obj.value).isSome
  fetched : ∃ e ∈ past, e.request.rimId = rimId ∧
    (∃ x ∈ e.exchanges, Vouches lib baseUrl rimId obj.value x) ∧
    ∃ i, obj.expiryTime = e.request.clock i + opts.ttlSeconds

/-- The cache in terms of the run behind it. -/
structure Backed (past : List ServedRim) (c : RimCache) : Prop where
  linked : Linked c
  stored : ∀ rimId obj, c.cache rimId = some obj →
    FetchedFor opts lib baseUrl past rimId obj

/-- Where a document that was handed out came from: an answer to this request, or one to an
earlier request for the same id less than the cache's lifetime ago. -/
inductive Origin (past : List ServedRim) (r : RimRequest) (d : RimDocument) :
    List Exchange → Prop where
  | service {x : Exchange} : Vouches lib baseUrl r.rimId d.rimData x → d.rimId = r.rimId →
    Origin past r d [x]
  | cache {e : ServedRim} {x : Exchange} {i : Nat} : e ∈ past → e.request.rimId = r.rimId →
    x ∈ e.exchanges → Vouches lib baseUrl r.rimId d.rimData x →
    r.clock 0 < e.request.clock i + opts.ttlSeconds → d.rimId = r.out.rimId →
    Origin past r d []

end Runs

section RunLemmas
variable {opts : NvCacheOptions} {lib : RimLib} {http : HttpClient σ} {baseUrl : String}

theorem serveRim_serving {r : RimRequest} {c c' : RimCache} {s s' : σ}
    {exchanges : List Exchange} {outcome : Except Fault (Error × RimDocument)} (h : Linked c)
    (hrun : serveRim opts lib http baseUrl r c s = (outcome, c', exchanges, s')) :
    Serving opts lib baseUrl r c outcome c' exchanges := by
  rw [serveRim, getRim] at hrun
  by_cases hlive : Live c (r.clock 0) r.rimId
  · obtain ⟨obj, hobj, hnow⟩ := hlive
    obtain ⟨c₁, hget, hlinked, hmap⟩ := cacheGet_hit h hobj hnow (([], s) : List Exchange × σ)
    rw [bind_of_ok hget] at hrun
    cases hrun
    exact .hit hobj hnow hlinked hmap
  · have hget := cacheGet_dead hlive (([], s) : List Exchange × σ)
    rw [bind_of_ok hget] at hrun
    simp only [if_true] at hrun
    obtain ⟨x, answer, s₁, hfetch, hasked, hfetching⟩ :=
      remoteGetRim_fetching lib http baseUrl r.rimId r.out s
    have hinner : (onSecond ((remoteRimStore lib (recordingHttp http) baseUrl).getRim r.rimId r.out) :
        Prog Fault (RimCache × List Exchange × σ) _) (c, ([], s)) = (answer, (c, ([x], s₁))) := by
      simp [onSecond, remoteRimStore, hfetch]
    cases hfetching with
    | failed =>
      rw [bind_of_error hinner] at hrun
      cases hrun
      exact .failed hasked
    | refused hrc =>
      rw [bind_of_ok hinner] at hrun
      simp only [ne_eq, hrc, not_false_eq_true, if_true] at hrun
      cases hrun
      exact .refused hasked hrc
    | @fetched d hparsed hid hvouches =>
      rw [bind_of_ok hinner] at hrun
      simp only [ne_eq, not_true_eq_false, if_false] at hrun
      by_cases hsize : d.rimData.length ≤ opts.maxSizeBytes
      · cases cachePut_cases (fun i => r.clock (i + 1)) h r.rimId d.rimData hsize
          (([x], s₁) : List Exchange × σ) with
        | inl hput =>
          obtain ⟨c₁, obj, i, hput, hlinked, hobj, hvalue, _, htime, hothers⟩ := hput
          rw [bind_of_ok hput] at hrun
          cases hrun
          exact .stored hvouches hparsed hid hlinked hobj hvalue htime hothers
        | inr hput =>
          rw [bind_of_error hput.1] at hrun
          cases hrun
          exact .overflow hasked
      · have hlarge : opts.maxSizeBytes < d.rimData.length := by omega
        rw [bind_of_ok (cachePut_large opts _ c r.rimId d.rimData hlarge _)] at hrun
        cases hrun
        exact .tooLarge hvouches hlarge

theorem FetchedFor.snoc {past : List ServedRim} {rimId : String} {obj : NvCacheObject String}
    (h : FetchedFor opts lib baseUrl past rimId obj) (e : ServedRim) :
    FetchedFor opts lib baseUrl (past ++ [e]) rimId obj := by
  obtain ⟨hparses, e', hmem, hrest⟩ := h
  exact ⟨hparses, e', List.mem_append_left _ hmem, hrest⟩

theorem Backed.snoc {past : List ServedRim} {c c' : RimCache} (h : Backed opts lib baseUrl past c)
    (hlinked : Linked c') (hmap : c'.cache = c.cache) (e : ServedRim) :
    Backed opts lib baseUrl (past ++ [e]) c' :=
  ⟨hlinked, fun rimId obj hobj => (h.stored rimId obj (hmap ▸ hobj)).snoc e⟩

/-- What one request does to the cache and the record. -/
theorem Serving.backed {past : List ServedRim} {r : RimRequest} {c c' : RimCache}
    {exchanges : List Exchange} {outcome : Except Fault (Error × RimDocument)}
    (h : Backed opts lib baseUrl past c)
    (hstep : Serving opts lib baseUrl r c outcome c' exchanges) :
    Backed opts lib baseUrl (past ++ [⟨r, exchanges, outcome⟩]) c' := by
  cases hstep with
  | hit _ _ hlinked hmap => exact h.snoc hlinked hmap _
  | failed _ => exact h.snoc h.linked rfl _
  | refused _ _ => exact h.snoc h.linked rfl _
  | tooLarge _ _ => exact h.snoc h.linked rfl _
  | overflow _ => exact h.snoc h.linked rfl _
  | @stored x d _ obj i hvouches hparsed _ hlinked hobj hvalue htime hothers =>
    refine ⟨hlinked, fun id obj' hobj' => ?_⟩
    by_cases hid : id = r.rimId
    · subst hid
      obtain rfl : obj = obj' := by simpa [hobj] using hobj'
      obtain ⟨doc, hdoc, _⟩ := hparsed
      refine ⟨by rw [hvalue, hdoc]; rfl, ⟨r, [x], .ok (.Ok, d)⟩, by simp, rfl,
        ⟨x, List.mem_singleton_self x, ?_⟩, i, htime⟩
      rw [hvalue]
      exact hvouches
    · cases hothers id hid with
      | inl hsame => exact (h.stored id obj' (hsame ▸ hobj')).snoc _
      | inr hnone => simp [hnone] at hobj'

theorem ServesRims.backed {past : List ServedRim} {c : RimCache} {s : σ}
    (h : ServesRims opts lib http baseUrl past c s) : Backed opts lib baseUrl past c := by
  induction h with
  | start => exact ⟨linked_empty, by simp [emptyCache]⟩
  | request _ hrun _ ih => exact Serving.backed ih (serveRim_serving ih.linked hrun)

/-- A document read again from the cache. -/
theorem createFromRimData_parses {rimData : String} (out : RimDocument)
    (h : (lib.readDoc rimData).isSome) : ∃ d, createFromRimData lib.readDoc rimData out = (.Ok, d) ∧
      Parsed lib d ∧ d.rimData = rimData ∧ d.rimId = out.rimId := by
  obtain ⟨doc, hdoc⟩ := Option.isSome_iff_exists.mp h
  have hrun : createFromRimData lib.readDoc rimData out =
      (.Ok, { out with rimData := rimData, doc := some doc }) := by
    rw [createFromRimData, hdoc]
  exact ⟨_, hrun, createFromRimData_ok hrun⟩

end RunLemmas

/-- In every run from the empty cache, whatever the service answers, a document is handed out only
with raw data that the service sent with this id in a 200 answer to a request for it, at most a
lifetime ago; a request that finds its id in the cache sends nothing and succeeds; and one that
fails leaves the caller's document as it was, unless the new one was too large to keep. -/
theorem served_rim_origin (opts : NvCacheOptions) (lib : RimLib) (http : HttpClient σ)
    (baseUrl : String) {past : List ServedRim} {c : RimCache} {s : σ}
    (hpast : ServesRims opts lib http baseUrl past c s) {r : RimRequest}
    {outcome : Except Fault (Error × RimDocument)} {c' : RimCache} {exchanges : List Exchange}
    {s' : σ} (hrun : serveRim opts lib http baseUrl r c s = (outcome, c', exchanges, s')) :
    (∀ d, outcome = .ok (.Ok, d) →
      Parsed lib d ∧ Origin opts lib baseUrl past r d exchanges) ∧
    (exchanges = [] → ∃ d, outcome = .ok (.Ok, d)) ∧
    (∀ rc d, outcome = .ok (rc, d) → rc ≠ .Ok →
      d = r.out ∨ rc = .BadArgument ∧ opts.maxSizeBytes < d.rimData.length) := by
  have hbacked := hpast.backed
  have hstep := serveRim_serving hbacked.linked hrun
  cases hstep with
  | @hit obj _ hobj hnow _ _ =>
    obtain ⟨hparses, e, hmem, hid, ⟨x, hx, hvouches⟩, i, htime⟩ := hbacked.stored r.rimId obj hobj
    obtain ⟨d, hcreate, hparsed, hdata, hdoc⟩ := createFromRimData_parses r.out hparses
    rw [hcreate]
    refine ⟨fun d' hd' => ?_, fun _ => ⟨d, rfl⟩, fun rc d' hd' hrc => ?_⟩
    · cases hd'
      exact ⟨hparsed, .cache hmem hid hx (hdata ▸ hvouches) (htime ▸ hnow) hdoc⟩
    · cases hd'
      exact absurd rfl hrc
  | failed => simp
  | refused _ hrc =>
    refine ⟨fun d hd => ?_, by simp, fun rc d hd _ => ?_⟩
    · cases hd
      exact absurd rfl hrc
    · cases hd
      exact .inl rfl
  | tooLarge _ hlarge =>
    refine ⟨fun d hd => ?_, by simp, fun rc d hd _ => ?_⟩
    · cases hd
    · cases hd
      exact .inr ⟨rfl, hlarge⟩
  | stored hvouches hparsed hid =>
    refine ⟨fun d hd => ?_, by simp, fun rc d hd hrc => ?_⟩
    · cases hd
      exact ⟨hparsed, .service hvouches hid⟩
    · cases hd
      exact absurd rfl hrc
  | overflow => simp

def sampleBody : Value :=
  .obj [("id", .str "driver"), ("rim", .str "QQ=="), ("request_id", .str ""), ("sha256", .str "")]

def sampleLib : RimLib := ⟨fun _ => some sampleBody, documentedBlock, fun _ => some (.text "")⟩

def sampleService : HttpClient Unit := ⟨fun _ => pure (.Ok, httpStatusOk, "answer")⟩

def sampleRim : RimDocument := ⟨"driver", some (.text ""), "A"⟩

def firstRequest : RimRequest := ⟨fun _ => 0, "driver", {}⟩

/-- The same id ten seconds later. -/
def secondRequest : RimRequest := { firstRequest with clock := fun _ => 10 }

def sampleExchange : Exchange :=
  ⟨rimRequest "https://rim" "driver", .ok (.Ok, httpStatusOk, "answer")⟩

def firstServed : ServedRim := ⟨firstRequest, [sampleExchange], .ok (.Ok, sampleRim)⟩

theorem take_sample (out : RimDocument) :
    takeRimResponse sampleLib "driver" "answer" out = .ok (.Ok, sampleRim) := by
  have hdecode : decodeBase64 documentedBlock "QQ==" = .ok [65] := by decide
  have hread : readRimResponse sampleLib "answer" = .ok ⟨"driver", "QQ==", "", ""⟩ := rfl
  rw [takeRimResponse, hread]
  simp [extractRimDocument, sampleLib, hdecode, createFromRimData]
  rfl

theorem fetch_sample (out : RimDocument) :
    (onSecond ((remoteRimStore sampleLib (recordingHttp sampleService) "https://rim").getRim "driver"
      out) : Prog Fault (RimCache × List Exchange × Unit) _) (emptyCache, ([], ())) =
      (.ok (.Ok, sampleRim), (emptyCache, ([sampleExchange], ()))) := by
  have hsent : (recordingHttp sampleService).doRequestAsString (rimRequest "https://rim" "driver")
      ([], ()) = (.ok (.Ok, httpStatusOk, "answer"), ([sampleExchange], ())) := rfl
  have hrun : remoteGetRim sampleLib (recordingHttp sampleService) "https://rim" "driver" out
      ([], ()) = (.ok (.Ok, sampleRim), ([sampleExchange], ())) := by
    rw [remoteGetRim, bind_of_ok hsent]
    simp [take_sample]
  simp [onSecond, remoteRimStore, hrun]

def sampleCache : RimCache := insertFront emptyCache "driver" "A" 1 3600

theorem served_first_sample : ServesRims ⟨100, 3600⟩ sampleLib sampleService "https://rim"
    [firstServed] sampleCache () := by
  have hdead : ¬ Live (emptyCache : RimCache) (firstRequest.clock 0) firstRequest.rimId := by
    simp [Live, emptyCache]
  have hget := cacheGet_dead hdead (([], ()) : List Exchange × Unit)
  have hrun : serveRim ⟨100, 3600⟩ sampleLib sampleService "https://rim" firstRequest
      emptyCache () = (.ok (.Ok, sampleRim), sampleCache, [sampleExchange], ()) := by
    rw [serveRim, getRim, bind_of_ok hget]
    simp only [if_true]
    exact bind_of_ok (fetch_sample firstRequest.out) _
  exact .request (.start ()) hrun (by simp)

/-- The second request is answered from the cache. -/
theorem served_rim_origin_sample : ∃ d : RimDocument, d.rimData = "A" ∧ Parsed sampleLib d ∧
    Origin ⟨100, 3600⟩ sampleLib "https://rim" [firstServed] secondRequest d [] :=
  ⟨{ sampleRim with rimId := "" }, rfl, (served_rim_origin ⟨100, 3600⟩ sampleLib sampleService
    "https://rim" served_first_sample rfl).1 _ rfl⟩

end AttestationSdk.RemoteRim
