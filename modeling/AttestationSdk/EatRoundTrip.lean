import AttestationSdk.EatValidation
import AttestationSdk.EatWriting
import AttestationSdk.GpuSoundness

/-! A written detached EAT is accepted by a reader that has the key. -/
namespace AttestationSdk.Eat
open Json AttestationSdk.Claims KeyedList

theorem member_submod (common : SerializableCommonEATClaims) (claim : DeviceClaims) (key : String) :
    (submodClaimsToJson common claim).member? key =
      (claim.toJsonObject.member? key).or ((object common.members).member? key) := by
  obtain ⟨members, hmembers, hincreasing⟩ := toJsonObject_obj claim
  rw [submodClaimsToJson, hmembers]
  simp only [Value.member?, object, lookup_assignAll, hincreasing.lookup_reverse]

/-- A token of the issuer that is alive from `iat` to `exp`. -/
structure HasCommon (common : SerializableCommonEATClaims) (payload : Value) : Prop where
  iat : payload.member? "iat" = some (.int common.iat)
  exp : payload.member? "exp" = some (.int common.exp)
  iss : payload.member? "iss" = some (.str common.iss)
  jti : payload.member? "jti" = some (.str common.jti)

theorem hasCommon_members (common : SerializableCommonEATClaims) :
    HasCommon common (object common.members) := by
  constructor <;> simp [member?_object, SerializableCommonEATClaims.members, lookup_cons_ite]

/-- The payload of a device token is its claims and the common ones. -/
theorem hasCommon_submod (common : SerializableCommonEATClaims) (claim : DeviceClaims) :
    HasCommon common (submodClaimsToJson common claim) := by
  have hcommon := hasCommon_members common
  constructor
  · rw [member_submod, member_common claim (by simp), Option.none_or, hcommon.iat]
  · rw [member_submod, member_common claim (by simp), Option.none_or, hcommon.exp]
  · rw [member_submod, member_common claim (by simp), Option.none_or, hcommon.iss]
  · rw [member_submod, member_common claim (by simp), Option.none_or, hcommon.jti]

theorem member_submod_other (common : SerializableCommonEATClaims) (claim : DeviceClaims)
    {key : String} (h : key ∉ ["iat", "exp", "jti", "iss"]) :
    (submodClaimsToJson common claim).member? key = claim.toJsonObject.member? key := by
  have hnone : (object common.members).member? key = none := by
    simp only [List.mem_cons, List.not_mem_nil, or_false, not_or] at h
    simp [member?_object, SerializableCommonEATClaims.members, lookup_cons_ite, h]
  rw [member_submod, hnone, Option.or_none]

theorem hasCommon_overall (claims : SerializableOverallEATClaims) :
    HasCommon claims.commonClaims claims.toJson := by
  by_cases h : claims.submodDigests.isEmpty <;> constructor <;>
    simp [SerializableOverallEATClaims.toJson, SerializableCommonEATClaims.members, member?_object,
      lookup_cons_ite, h]

end AttestationSdk.Eat

namespace AttestationSdk.Remote
open Json AttestationSdk.Claims AttestationSdk.Text AttestationSdk.Eat AttestationSdk.Http
open AttestationSdk.Jwt KeyedList Effects Prog

/-- An object made of distinct entries has them in some order. -/
theorem object_entries (write : String → Value) {entries : List (String × String)}
    (h : Distinct entries) :
    ∃ entries' : List (String × String), entries'.Perm entries ∧
      object (entries.map fun p => (p.1, write p.2)) =
        .obj (entries'.map fun p => (p.1, write p.2)) := by
  have hkeys : keys (entries.map fun p => (p.1, write p.2)) = keys entries := by
    rw [keys, keys, List.map_map]
    rfl
  have hdistinct : Distinct (entries.map (fun p => (p.1, write p.2)) ++ []) := by
    rw [Distinct, List.append_nil, hkeys]
    exact h
  have hperm := assignAll_perm hdistinct
  rw [List.append_nil] at hperm
  obtain ⟨entries', hentries, heq⟩ := perm_map_lift hperm
  exact ⟨entries', hentries, congrArg Value.obj heq⟩

theorem mapM_entries {write : String → Value}
    {read : String × Value → Except ReadFault (String × String)}
    (h : ∀ p : String × String, read (p.1, write p.2) = .ok p) (entries : List (String × String)) :
    (entries.map fun p => (p.1, write p.2)).mapM read = .ok entries := by
  induction entries with
  | nil => rfl
  | cons p rest ih =>
    rw [List.map_cons, List.mapM_cons, h, ih]
    rfl

theorem foldl_insertNew {entries map : List (String × String)} (h : Distinct (map ++ entries)) :
    entries.foldl insertNew map = map ++ entries := by
  induction entries generalizing map with
  | nil => exact (List.append_nil map).symm
  | cons p rest ih =>
    have hnew : map.lookup p.1 = none := by
      rw [lookup_eq_none_iff]
      intro hin
      rw [Distinct, keys_append, keys_cons] at h
      exact (List.nodup_append.mp h).2.2 _ hin _ List.mem_cons_self rfl
    have hinsert : insertNew map p = map ++ [p] := by
      rw [insertNew, hnew]
      rfl
    rw [List.foldl_cons, hinsert, ih (by rwa [List.append_assoc]), List.append_assoc]
    rfl

theorem foldl_assign {entries map : List (String × String)} (h : Distinct (entries.reverse ++ map)) :
    entries.foldl (fun map p => assign p.1 p.2 map) map = entries.reverse ++ map := by
  induction entries generalizing map with
  | nil => rfl
  | cons p rest ih =>
    rw [List.reverse_cons, List.append_assoc] at h
    have hnew : p.1 ∉ keys map := by
      rw [Distinct, keys_append] at h
      exact (List.nodup_cons.mp (List.nodup_append.mp h).2.1).1
    rw [List.foldl_cons, assign_of_new hnew, List.reverse_cons, List.append_assoc]
    exact ih h

/-- The reader finds the tokens that were written. -/
theorem detachedEatFromJson_toJson {eat : SerializableDetachedEAT}
    (h : Distinct eat.deviceJwtTokens) :
    ∃ tokens, tokens.Perm eat.deviceJwtTokens ∧
      detachedEatFromJson eat.toJson = .ok ⟨eat.overallJwtToken, tokens⟩ := by
  obtain ⟨tokens, hperm, hobject⟩ := object_entries .str h
  have hread : (object (eat.deviceJwtTokens.map fun p => (p.1, .str p.2))).items.mapM
      (fun p => do return (p.1, ← p.2.getString)) = .ok tokens := by
    rw [hobject]
    exact mapM_entries (fun _ => rfl) tokens
  have hfold : tokens.foldl insertNew [] = tokens :=
    foldl_insertNew (by rw [List.nil_append]; exact h.perm hperm.symm)
  have hresult : (pure ⟨eat.overallJwtToken, tokens.foldl insertNew []⟩ :
      Except ReadFault SerializableDetachedEAT) = .ok ⟨eat.overallJwtToken, tokens⟩ := by
    rw [hfold]
    rfl
  refine ⟨tokens, hperm, ?_⟩
  exact ExceptRules.bind_eq_ok.mpr ⟨_, rfl, ExceptRules.bind_eq_ok.mpr ⟨_, rfl,
    ExceptRules.bind_eq_ok.mpr ⟨_, rfl, ExceptRules.bind_eq_ok.mpr ⟨_, rfl,
      ExceptRules.bind_eq_ok.mpr ⟨tokens, hread, hresult⟩⟩⟩⟩⟩

theorem field_ok {α : Type} {js v : Value} {key : String} {read : Value → Except ReadFault α} {a : α}
    (hmember : js.member? key = some v) (hread : read v = .ok a) : field js key read = .ok a := by
  rw [field, Value.atKey, hmember]
  exact hread

theorem commonFromJson_ok {common : SerializableCommonEATClaims} {js : Value}
    (h : HasCommon common js) : ∃ read, commonFromJson js = .ok read := by
  have hint (n : Int) : ∃ m, getInt64 (.int n) = .ok m := ⟨_, rfl⟩
  obtain ⟨iat, hiat⟩ := hint common.iat
  obtain ⟨exp, hexp⟩ := hint common.exp
  have hjti : field js "jti" Value.getString = .ok common.jti := field_ok h.jti rfl
  have hiss : field js "iss" Value.getString = .ok common.iss := field_ok h.iss rfl
  rw [commonFromJson, field_ok h.iat hiat, field_ok h.exp hexp, hjti, hiss]
  exact ⟨⟨iat, exp, common.iss, common.jti⟩, rfl⟩

/-- The reader finds the nonce, the verdict and the digests that were written. -/
theorem overallFromJson_toJson {claims : SerializableOverallEATClaims}
    (hne : claims.submodDigests ≠ []) (h : Distinct claims.submodDigests) :
    ∃ read, overallFromJson claims.toJson = .ok read ∧ read.eatNonce = claims.eatNonce ∧
      read.overallResult = claims.overallResult ∧
      read.submodDigests.Perm claims.submodDigests := by
  obtain ⟨digests, hperm, hobject⟩ := object_entries digestToJson h
  obtain ⟨common, hcommon⟩ := commonFromJson_ok (hasCommon_overall claims)
  have hmember : claims.toJson.member? "sub" = some (.str claims.sub) ∧
      claims.toJson.member? "x-nvidia-ver" = some (.str claims.claimsVersion) ∧
      claims.toJson.member? "x-nvidia-overall-att-result" = some (.bool claims.overallResult) ∧
      claims.toJson.member? "eat_nonce" = some (.str claims.eatNonce) ∧
      claims.toJson.member? "submods" =
        some (object (claims.submodDigests.map fun p => (p.1, digestToJson p.2))) := by
    simp [SerializableOverallEATClaims.toJson, SerializableCommonEATClaims.members, member?_object,
      lookup_cons_ite, hne]
  obtain ⟨hsub, hversion, hverdict, hnonce, hsubmods⟩ := hmember
  have hread : (object (claims.submodDigests.map fun p => (p.1, digestToJson p.2))).items.mapM
      (fun p => do return (p.1, ← (← (← p.2.atIndex 1).atIndex 1).getString)) = .ok digests := by
    rw [hobject]
    exact mapM_entries (fun _ => rfl) digests
  have hfold : digests.foldl (fun map p => assign p.1 p.2 map) [] = digests.reverse := by
    have hdistinct := h.perm (hperm.symm.trans (List.reverse_perm digests).symm)
    rw [foldl_assign (by rwa [List.append_nil]), List.append_nil]
  have hsub' : field claims.toJson "sub" Value.getString = .ok claims.sub := field_ok hsub rfl
  have hversion' : field claims.toJson "x-nvidia-ver" Value.getString = .ok claims.claimsVersion :=
    field_ok hversion rfl
  have hverdict' : field claims.toJson "x-nvidia-overall-att-result" Value.getBool =
      .ok claims.overallResult := field_ok hverdict rfl
  have hnonce' : field claims.toJson "eat_nonce" Value.getString = .ok claims.eatNonce :=
    field_ok hnonce rfl
  refine ⟨⟨claims.sub, common, claims.claimsVersion, digests.reverse, claims.overallResult,
    claims.eatNonce⟩, ?_, rfl, rfl, (List.reverse_perm digests).trans hperm⟩
  rw [overallFromJson, hsub', hcommon, hversion', hverdict', hnonce', Value.atKey, hsubmods]
  simp only [ExceptRules.ok_bind]
  rw [hread, ExceptRules.ok_bind, hfold]
  rfl

section Reader
variable {σ τ : Type} {env : Platform σ} {lib : RemoteLib τ} {http : HttpClient τ}
  {clock : τ → Int} {KeyPair : String → String → Prop}

/-- The two sides have the same JSON text and hash, and a token that one signs the other decodes
and, under the other key of the pair and while the token is alive, verifies. -/
structure Agree (env : Platform σ) (lib : RemoteLib τ) (clock : τ → Int)
    (KeyPair : String → String → Prop) : Prop where
  parse : ∀ js text, env.dump js = some text → lib.parse text = some js
  sha256 : ∀ text, lib.sha256 text = env.sha256 text
  decode : ∀ kid key payload s token s',
    env.jwtSign (some kid) (some key) payload s = (.ok token, s') →
    ∃ header fields text, lib.decode token = some (header, text) ∧
      lib.parse header = some fields ∧ fields.member? "kid" = some (.str kid) ∧
      env.dump payload = some text
  verify : ∀ kid key payload s token s' pem iat exp t,
    env.jwtSign (some kid) (some key) payload s = (.ok token, s') → KeyPair key pem →
    payload.member? "iat" = some (.int iat) → payload.member? "exp" = some (.int exp) →
    iat ≤ clock t → clock t ≤ exp → (lib.verify pem token t).1 = .ok true
  acceptsKey : ∀ key pem, KeyPair key pem → lib.acceptsKey pem = true
  noEmptyKey : ∀ pem, ¬ KeyPair "" pem

/-- States of the reader between `iat` and `exp`, which a check does not leave. -/
structure Lifetime (lib : RemoteLib τ) (clock : τ → Int) (iat exp : Int) (Alive : τ → Prop) :
    Prop where
  within : ∀ t, Alive t → iat ≤ clock t ∧ clock t ≤ exp
  now : ∀ t, Alive t → ∃ nowMs t', lib.nowMs t = (.ok nowMs, t') ∧ Alive t'
  verify : ∀ pem token t, Alive t → Alive (lib.verify pem token t).2

/-- The cached key set has a key of the kind and stays fresh. -/
def Caches (lib : RemoteLib τ) (Alive : τ → Prop) (kid : String) (store : JwkStore) : Prop :=
  (store.jwks.lookup kid).isSome ∧ ∀ t nowMs t', Alive t → lib.nowMs t = (.ok nowMs, t') →
    nowMs ≤ store.lastUpdateUnixMs + store.cacheDurationMs

/-- The endpoint serves a key set that has a key of the kind. -/
def Serves (lib : RemoteLib τ) (http : HttpClient τ) (Alive : τ → Prop) (kid : String)
    (Fits : Jwk → Prop) (url : String) : Prop :=
  ∀ t, Alive t → ∃ status body t' keySet jwks jwk,
    http.doRequestAsString { url, method := .GET } t = (.ok (.Ok, status, body), t') ∧ Alive t' ∧
    keysOf lib.toJwtLib body = .ok keySet ∧ addKeys keySet [] = (.ok (), jwks) ∧
    jwks.lookup kid = some jwk ∧ Fits jwk

/-- The store holds the key for a key id: it has no other, and has it cached for as long as the
tokens live or finds it at its endpoint. -/
def Holds (lib : RemoteLib τ) (http : HttpClient τ) (Alive : τ → Prop) (kid : String)
    (Fits : Jwk → Prop) (store : JwkStore) : Prop :=
  (∀ jwk, store.jwks.lookup kid = some jwk → Fits jwk) ∧
    (Caches lib Alive kid store ∨ Serves lib http Alive kid Fits store.jwksUrl)

/-- A reader that can check the tokens. -/
def Ready (lib : RemoteLib τ) (http : HttpClient τ) (Alive : τ → Prop) (kid : String)
    (Fits : Jwk → Prop) (w : JwkStore × τ) : Prop :=
  Holds lib http Alive kid Fits w.1 ∧ Alive w.2

theorem refreshAt_serves {Alive : τ → Prop} {kid : String} {Fits : Jwk → Prop} {store : JwkStore}
    {t : τ} (hserves : Serves lib http Alive kid Fits store.jwksUrl) (halive : Alive t)
    (nowMs : Int) :
    ∃ jwk w', refreshAt lib.toJwtLib http nowMs (store, t) = (.ok (), w') ∧
      w'.1.jwks.lookup kid = some jwk ∧ Fits jwk ∧ w'.1.jwksUrl = store.jwksUrl ∧ Alive w'.2 := by
  obtain ⟨status, body, t', keySet, jwks, jwk, hrequest, halive', hkeys, hadd, hlookup, hfits⟩ :=
    hserves t halive
  have hrefresh : refreshJwks lib.toJwtLib http ({ store with jwks := [] }, t) =
      (.ok (), ({ store with jwks }, t')) := by
    refine bind_eq_ok.mpr ⟨{ store with jwks := [] }, ({ store with jwks := [] }, t), rfl, ?_⟩
    refine bind_eq_ok.mpr ⟨(.Ok, status, body), ({ store with jwks := [] }, t'), ?_, ?_⟩
    · simp only [onSecond, hrequest]
    · refine bind_eq_ok.mpr ⟨keySet, _, lift_iff.mpr ⟨hkeys, rfl⟩, ?_⟩
      simp only [liftFirst, hadd]
  refine ⟨jwk, ({ store with jwks, lastUpdateUnixMs := nowMs }, t'), ?_, hlookup, hfits, rfl,
    halive'⟩
  rw [refreshAt, hrefresh]

theorem Ready.keyNamed {Alive : τ → Prop} {iat exp : Int} {kid : String} {Fits : Jwk → Prop}
    {w : JwkStore × τ} (hlife : Lifetime lib clock iat exp Alive)
    (h : Ready lib http Alive kid Fits w) :
    ∃ jwk w', KeyNamed lib http kid w jwk w' ∧ Fits jwk ∧ Ready lib http Alive kid Fits w' := by
  obtain ⟨⟨hfits, hholds⟩, halive⟩ := h
  obtain ⟨nowMs, t, hnow, halive'⟩ := hlife.now w.2 halive
  by_cases hstale : stale kid nowMs w.1 = true
  · have hserves : Serves lib http Alive kid Fits w.1.jwksUrl := by
      refine hholds.resolve_left fun hcaches => ?_
      have hfresh := hcaches.2 w.2 nowMs t halive hnow
      have hsome := hcaches.1
      simp only [stale, decide_eq_true_eq] at hstale
      cases hstale with
      | inl hold => omega
      | inr hmissing =>
        rw [Option.isNone_iff_eq_none] at hmissing
        rw [hmissing] at hsome
        cases hsome
    obtain ⟨jwk, w', hrefresh, hlookup, hjwk, hurl, halive''⟩ :=
      refreshAt_serves hserves halive' nowMs
    refine ⟨jwk, w', ⟨nowMs, t, hnow, by rw [if_pos hstale]; exact hrefresh, hlookup⟩, hjwk,
      ⟨fun other hother => ?_, .inr (hurl ▸ hserves)⟩, halive''⟩
    rw [hlookup] at hother
    cases hother
    exact hjwk
  · have hsome : (w.1.jwks.lookup kid).isSome := by
      simp only [stale, decide_eq_true_eq, not_or] at hstale
      simpa using hstale.2
    obtain ⟨jwk, hlookup⟩ := Option.isSome_iff_exists.mp hsome
    exact ⟨jwk, (w.1, t), ⟨nowMs, t, hnow, by rw [if_neg hstale], hlookup⟩, hfits jwk hlookup,
      ⟨hfits, hholds⟩, halive'⟩

theorem tokenMember_ok {text key s : String} {js : Value} (hparse : lib.parse text = some js)
    (hmember : js.member? key = some (.str s)) : tokenMember lib.toJwtLib text key = .ok s := by
  rw [tokenMember, hparse]
  simp only [hmember]

theorem nonEmpty_of_ne {s : String} (h : s ≠ "") : nonEmpty s = some s := by
  rw [nonEmpty, if_neg]
  simpa using h

/-- A signed token verifies at a ready reader. -/
theorem Ready.verifies (hagree : Agree env lib clock KeyPair) {options : DetachedEATOptions}
    (hkid : options.kid ≠ "") {Alive : τ → Prop} {iat exp : Int} {issuer : String}
    (hlife : Lifetime lib clock iat exp Alive) {w : JwkStore × τ}
    (hready : Ready lib http Alive options.kid
      (fun jwk => KeyPair options.privateKeyPem jwk.pemPublicKey) w)
    {payload : Value} {token : String} (hiat : payload.member? "iat" = some (.int iat))
    (hexp : payload.member? "exp" = some (.int exp))
    (hiss : payload.member? "iss" = some (.str issuer))
    (hsigned : SignedFor env options payload token) :
    ∃ text w', TokenVerifies lib http issuer token w text w' ∧ env.dump payload = some text ∧
      Ready lib http Alive options.kid
        (fun jwk => KeyPair options.privateKeyPem jwk.pemPublicKey) w' := by
  obtain ⟨jwk, w₁, hnamed, hpair, hholds, halive⟩ := hready.keyNamed hlife
  have hkey : options.privateKeyPem ≠ "" := by
    intro hempty
    rw [hempty] at hpair
    exact hagree.noEmptyKey _ hpair
  obtain ⟨s, s', hsign⟩ := hsigned
  rw [sign, nonEmpty_of_ne hkid, nonEmpty_of_ne hkey] at hsign
  obtain ⟨header, fields, text, hdecode, hheader, hfields, hdump⟩ :=
    hagree.decode _ _ _ _ _ _ hsign
  obtain ⟨hafter, hbefore⟩ := hlife.within w₁.2 halive
  have hverify := hagree.verify _ _ _ _ _ _ _ _ _ w₁.2 hsign hpair hiat hexp hafter hbefore
  refine ⟨text, (w₁.1, (lib.verify jwk.pemPublicKey token w₁.2).2), ?_, hdump, hholds,
    hlife.verify _ _ _ halive⟩
  exact ⟨header, options.kid, jwk, w₁, hdecode, tokenMember_ok hheader hfields,
    tokenMember_ok (hagree.parse _ _ hdump) hiss, hnamed, hagree.acceptsKey _ _ hpair,
    Prod.ext hverify rfl⟩

/-- Written devices verify one after another at a ready reader. -/
theorem Ready.devices (hagree : Agree env lib clock KeyPair) {options : DetachedEATOptions}
    (hkid : options.kid ≠ "") {Alive : τ → Prop} {common : SerializableCommonEATClaims}
    (hlife : Lifetime lib clock common.iat common.exp Alive) {tokens : List (String × String)}
    {records : List WrittenSubmod}
    (hwritten : ∀ r ∈ records, ∃ claim, Written env options common claim r)
    (htokens : ∀ r ∈ records, (r.label, r.token) ∈ tokens) {w : JwkStore × τ}
    (hready : Ready lib http Alive options.kid
      (fun jwk => KeyPair options.privateKeyPem jwk.pemPublicKey) w) :
    ∃ w', DevicesVerify lib http common.iss tokens (records.map fun r => (r.label, r.digest)) w w' := by
  induction records generalizing w with
  | nil => exact ⟨w, .nil w⟩
  | cons r rest ih =>
    obtain ⟨claim, ⟨jti, hsigned⟩, hdigest⟩ := hwritten r List.mem_cons_self
    have hcommon := hasCommon_submod { common with jti } claim
    obtain ⟨text, w₁, hverifies, -, hready₁⟩ :=
      hready.verifies hagree hkid hlife hcommon.iat hcommon.exp hcommon.iss hsigned
    obtain ⟨w', hdevices⟩ := ih (fun r' hr' => hwritten r' (List.mem_cons_of_mem r hr'))
      (fun r' hr' => htokens r' (List.mem_cons_of_mem r hr')) hready₁
    have hhash : sha256Hex lib r.token = .ok r.digest := by
      rw [sha256Hex, hagree.sha256]
      exact hdigest
    exact ⟨w', .cons (htokens r List.mem_cons_self) hverifies hhash hdevices⟩

/-- A payload of a device token: the claim's JSON with the members common to all tokens. -/
def Describes (lib : RemoteLib τ) (iat : Int) (issuer : String) (claim : DeviceClaims)
    (payload : String) : Prop :=
  ∃ js jti, lib.parse payload = some js ∧ HasCommon ⟨iat, iat + jwtTtlSeconds, issuer, jti⟩ js ∧
    ∀ key, key ∉ ["iat", "exp", "jti", "iss"] → js.member? key = claim.toJsonObject.member? key

/-- The payload of a token, as text. -/
def payloadOf (lib : RemoteLib τ) (token : String) : String :=
  ((lib.decode token).map Prod.snd).getD ""

theorem payloadOf_written (hagree : Agree env lib clock KeyPair) {options : DetachedEATOptions}
    (hkid : options.kid ≠ "") (hkey : options.privateKeyPem ≠ "")
    {common : SerializableCommonEATClaims} {claim : DeviceClaims} {r : WrittenSubmod}
    (h : Written env options common claim r) :
    (∃ header, lib.decode r.token = some (header, payloadOf lib r.token)) ∧
      ∃ jti, env.dump (submodClaimsToJson { common with jti } claim) =
        some (payloadOf lib r.token) := by
  obtain ⟨⟨jti, s, s', hsign⟩, -⟩ := h
  rw [sign, nonEmpty_of_ne hkid, nonEmpty_of_ne hkey] at hsign
  obtain ⟨header, fields, text, hdecode, -, -, hdump⟩ := hagree.decode _ _ _ _ _ _ hsign
  have hpayload : payloadOf lib r.token = text := by rw [payloadOf, hdecode]; rfl
  rw [hpayload]
  exact ⟨⟨header, hdecode⟩, jti, hdump⟩

theorem describes_written (hagree : Agree env lib clock KeyPair) {options : DetachedEATOptions}
    (hkid : options.kid ≠ "") (hkey : options.privateKeyPem ≠ "")
    {common : SerializableCommonEATClaims} {iat : Int} (hiat : common.iat = iat)
    (hexp : common.exp = iat + jwtTtlSeconds) {claim : DeviceClaims} {r : WrittenSubmod}
    (h : Written env options common claim r) :
    Describes lib iat common.iss claim (payloadOf lib r.token) := by
  obtain ⟨-, jti, hdump⟩ := payloadOf_written hagree hkid hkey h
  refine ⟨_, jti, hagree.parse _ _ hdump, ?_, fun key hkey' => member_submod_other _ claim hkey'⟩
  have hcommon := hasCommon_submod { common with jti } claim
  rw [← hexp, ← hiat]
  exact hcommon

theorem written_mem {options : DetachedEATOptions} {common : SerializableCommonEATClaims}
    {claims : List DeviceClaims} {records : List WrittenSubmod}
    (h : List.Forall₂ (Written env options common) claims records) :
    ∀ r ∈ records, ∃ claim, Written env options common claim r := by
  induction h with
  | nil => simp
  | cons hclaim _ ih =>
    intro r hr
    cases List.mem_cons.mp hr with
    | inl heq => exact ⟨_, heq ▸ hclaim⟩
    | inr hrest => exact ih r hrest

theorem distinct_labels {α : Type} {value : WrittenSubmod → α} {claims : List DeviceClaims}
    {records : List WrittenSubmod} (h : records.map WrittenSubmod.label = submodLabels claims) :
    Distinct (records.map fun r => (r.label, value r)) := by
  have hkeys : keys (records.map fun r => (r.label, value r)) = submodLabels claims := by
    rw [keys, List.map_map, ← h]
    rfl
  rw [Distinct, hkeys]
  exact labelsFrom_nodup claims 0 0

theorem deserialize_dumped (hagree : Agree env lib clock KeyPair) {α : Type} {js : Value}
    {text : String} {read : Value → Except ReadFault α} {a : α} (hdump : env.dump js = some text)
    (hread : read js = .ok a) : deserializeFromJson lib read text = .ok a := by
  rw [deserializeFromJson, hagree.parse _ _ hdump]
  simp only [hread, orInternalError]

/-- The digests of a written EAT in the order the reader walks them. -/
theorem order_digests {digests : List (String × String)} {records : List WrittenSubmod}
    (h : digests.Perm (records.map fun r => (r.label, r.digest))) :
    ∃ walked : List WrittenSubmod, walked.Perm records ∧
      lib.mapOrder.order digests = walked.map fun r => (r.label, r.digest) :=
  perm_map_lift ((lib.mapOrder.perm digests).trans h)

theorem decoded_records {tokens : List (String × String)} {records : List WrittenSubmod}
    (htokens : ∀ r ∈ records, (r.label, r.token) ∈ tokens)
    (hdecode : ∀ r ∈ records, ∃ header, lib.decode r.token = some (header, payloadOf lib r.token)) :
    List.Forall₂ (DecodedAs lib tokens) (records.map fun r => (r.label, r.digest))
      (records.map fun r => (r.label, payloadOf lib r.token)) := by
  induction records with
  | nil => exact .nil
  | cons r rest ih =>
    obtain ⟨header, hheader⟩ := hdecode r List.mem_cons_self
    refine .cons ⟨rfl, r.token, header, htokens r List.mem_cons_self, hheader⟩ (ih ?_ ?_)
    · exact fun r' hr' => htokens r' (List.mem_cons_of_mem r hr')
    · exact fun r' hr' => hdecode r' (List.mem_cons_of_mem r hr')

/-- The EAT that `get_detached_eat` writes is accepted, with the nonce, the verdict and one entry a
claim. -/
theorem detachedEat_roundTrip (hagree : Agree env lib clock KeyPair)
    {options : DetachedEATOptions} (hkid : options.kid ≠ "") {claims : List DeviceClaims}
    (hne : claims ≠ []) {nonce : String} (hnonce : ∀ claim ∈ claims, claim.getNonce = nonce)
    (hnonempty : nonce ≠ "") (heven : nonce.length % 2 = 0)
    (hhex : ∀ c ∈ nonce.toList, c ∈ lowerHexDigits) {iat : Int} {text : String} {verdict : Bool}
    {s s₁ s' : σ} (hnow : env.now s = (.ok iat, s₁))
    (hrun : getDetachedEat env options claims s = (.ok (text, verdict), s')) {Alive : τ → Prop}
    (hlife : Lifetime lib clock iat (iat + jwtTtlSeconds) Alive) {store : JwkStore} {t : τ}
    (halive : Alive t)
    (hstore : Holds lib http Alive options.kid
      (fun jwk => KeyPair options.privateKeyPem jwk.pemPublicKey) store) :
    ∃ eat decoded w', deserializeFromJson lib detachedEatFromJson text = .ok eat ∧
      validateAndDecodeEAT lib http options.issuer eat (store, t) = (.ok decoded, w') ∧
      toHexString decoded.eatNonce = nonce ∧ decoded.overallResult = verdict ∧
      (submodLabels claims).Nodup ∧ decoded.claims.length = claims.length ∧
      ∃ payloads, decoded.claims.Perm ((submodLabels claims).zip payloads) ∧
        List.Forall₂ (Describes lib iat options.issuer) claims payloads := by
  obtain ⟨common, records, token, hiat, hexp, hiss, hwritten, hlabels, hsigned, hdump⟩ :=
    getDetachedEat_ok hne hnonce hnonempty hnow hrun
  have hready : Ready lib http Alive options.kid
      (fun jwk => KeyPair options.privateKeyPem jwk.pemPublicKey) (store, t) := ⟨hstore, halive⟩
  have hkey : options.privateKeyPem ≠ "" := by
    obtain ⟨jwk, _, -, hpair, -⟩ := hready.keyNamed hlife
    intro hempty
    rw [hempty] at hpair
    exact hagree.noEmptyKey _ hpair
  have hrecords := written_mem hwritten
  -- what the reader makes of the text
  have hdistinct : Distinct (SerializableDetachedEAT.mk token
      (records.map fun r => (r.label, r.token)).reverse).deviceJwtTokens :=
    (distinct_labels hlabels).perm (List.reverse_perm _).symm
  obtain ⟨tokens, htokensPerm, hread⟩ := detachedEatFromJson_toJson hdistinct
  have htokens : tokens.Perm (records.map fun r => (r.label, r.token)) :=
    htokensPerm.trans (List.reverse_perm _)
  -- the overall token
  have hcommon := hasCommon_overall (overallClaims common records nonce verdict)
  obtain ⟨payload, w₁, hverifies, hpayload, hready₁⟩ := hready.verifies hagree hkid
    hlife (hiat ▸ hcommon.iat) (hexp ▸ hcommon.exp) (hiss ▸ hcommon.iss) hsigned
  have hdigestsNe : (overallClaims common records nonce verdict).submodDigests ≠ [] := by
    intro hempty
    have hnil : records = [] := by simpa [overallClaims] using hempty
    rw [hnil] at hwritten
    cases hwritten
    exact hne rfl
  obtain ⟨overall, hoverall, hnonceRead, hverdict, hdigestsPerm⟩ :=
    overallFromJson_toJson hdigestsNe ((distinct_labels hlabels).perm (List.reverse_perm _).symm)
  have hdigests : overall.submodDigests.Perm (records.map fun r => (r.label, r.digest)) :=
    hdigestsPerm.trans (List.reverse_perm _)
  -- the devices, in the order in which they are walked
  obtain ⟨walked, hwalked, horder⟩ := order_digests hdigests
  have hmem : ∀ r ∈ walked, (r.label, r.token) ∈ tokens := fun r hr =>
    htokens.mem_iff.mpr (List.mem_map_of_mem (hwalked.mem_iff.mp hr))
  obtain ⟨w', hdevices⟩ := hready₁.devices hagree hkid (hiat ▸ hexp ▸ hlife)
    (fun r hr => hrecords r (hwalked.mem_iff.mp hr)) hmem
  have hdecoded := decoded_records hmem fun r hr => by
    obtain ⟨claim, hclaim⟩ := hrecords r (hwalked.mem_iff.mp hr)
    exact (payloadOf_written hagree hkid hkey hclaim).1
  have hlength : overall.submodDigests.length = tokens.length := by
    rw [hdigests.length_eq, htokens.length_eq, List.length_map, List.length_map]
  have hnonceNe : overall.eatNonce ≠ "" := by
    rw [hnonceRead]
    exact hnonempty
  have htokensDistinct : Distinct tokens := (distinct_labels hlabels).perm htokens.symm
  refine ⟨⟨token, tokens⟩, ⟨hexStringToBytes overall.eatNonce,
    walked.map fun r => (r.label, payloadOf lib r.token), overall.overallResult⟩, w',
    deserialize_dumped hagree hdump hread, ?_, ?_, hverdict, labelsFrom_nodup claims 0 0, ?_,
    records.map fun r => payloadOf lib r.token, ?_, ?_⟩
  · refine (validateAndDecodeEAT_iff htokensDistinct).mpr ⟨payload, w₁, overall, hverifies,
      deserialize_dumped hagree hpayload hoverall, hnonceNe, hlength, ?_, ?_, rfl, rfl⟩
    · rw [horder, ← hiss]
      exact hdevices
    · rw [horder]
      exact hdecoded
  · rw [hnonceRead]
    exact hexStringToBytes_lower heven hhex
  · rw [List.length_map, hwalked.length_eq, hwritten.length_eq]
  · rw [← hlabels, List.zip_map']
    exact hwalked.map _
  · refine List.forall₂_map_right_iff.mpr (hwritten.imp fun claim r hr => ?_)
    rw [← hiss]
    exact describes_written hagree hkid hkey hiat hexp hr

end Reader

end AttestationSdk.Remote

namespace AttestationSdk.EatSample
open Json AttestationSdk.Claims AttestationSdk.Text AttestationSdk.Eat AttestationSdk.Remote
open AttestationSdk.Http AttestationSdk.Jwt KeyedList Effects Prog

def claim : DeviceClaims := .gpu { nonce := "ab" }

def common : SerializableCommonEATClaims :=
  ⟨0, 3600, "I", toHexString (List.replicate jtiSizeBytes 7)⟩

def deviceJson : Value := submodClaimsToJson common claim

/-- The one device, whose token starts with `tag`. -/
def device (tag : String) : WrittenSubmod :=
  ⟨"GPU-0", tag ++ "D", toHexString (toBytes (tag ++ "D"))⟩

def overallJson (tag : String) : Value := (overallClaims common [device tag] "ab" true).toJson

def eatJson (tag : String) : Value :=
  (SerializableDetachedEAT.mk (tag ++ "O") [("GPU-0", tag ++ "D")]).toJson

def matchJson : Value :=
  .obj [("result", .arr [.obj [("expressions", .arr [.obj [("value", .bool true)]])]])]

open Classical in
/-- Texts for the values of the sample. -/
noncomputable def dump (tag : String) (js : Value) : Option String :=
  if js = deviceJson then some "D"
  else if js = overallJson tag then some "O"
  else if js = collectionToJson [claim] then some "C"
  else if js = eatJson tag then some "E"
  else none

def parse (tag text : String) : Option Value :=
  if text = "D" then some deviceJson
  else if text = "O" then some (overallJson tag)
  else if text = "C" then some (collectionToJson [claim])
  else if text = "E" then some (eatJson tag)
  else if text = "R" then some matchJson
  else if text = "K" then some (.obj [("kid", .str "k")])
  else if text = "N" then some (.obj [])
  else none

/-- A token is its payload after `K`, or after `N` where it has no key id. -/
noncomputable def jwtSign (tag : String) (kid key : Option String) (payload : Value) :
    Prog Fault Unit String :=
  match dump tag payload with
  | none => Prog.fail .exception
  | some text =>
    if key.isNone then Prog.fail .exception
    else if kid = some "k" then pure ("K" ++ text)
    else if kid = none then pure ("N" ++ text) else Prog.fail .exception

def decode (token : String) : Option (String × String) :=
  match token.toList with
  | [] => none
  | c :: text => some (String.ofList [c], String.ofList text)

noncomputable def env (tag : String) : Platform Unit :=
  { GpuSample.env with
    dump := dump tag
    parse := parse tag
    evaluatePolicy := fun _ _ => some "R"
    sha256 := fun text => some (toBytes text)
    now := pure 0
    jwtSign := jwtSign tag }

noncomputable def lib (tag : String) : RemoteLib Unit where
  parse := parse tag
  decode := decode
  acceptsKey _ := true
  verify _ _ := pure true
  nowMs := pure 0
  dump := dump tag
  sha256 text := some (toBytes text)
  mapOrder := ⟨id, ValidationSample.id_perm⟩

def http : HttpClient Unit := ⟨fun _ => Prog.fail (.code .InternalError)⟩

def KeyPair (key pem : String) : Prop := key = "key" ∧ pem = "pem"

def store (kid : String) : JwkStore := ⟨"", 0, 0, [(kid, ⟨kid, "pem"⟩)]⟩

def options (kid : String) : DetachedEATOptions := ⟨"key", "I", kid⟩

theorem dump_cases {tag : String} {js : Value} {text : String} (h : dump tag js = some text) :
    js = deviceJson ∧ text = "D" ∨ js = overallJson tag ∧ text = "O" ∨
      js = collectionToJson [claim] ∧ text = "C" ∨ js = eatJson tag ∧ text = "E" := by
  unfold dump at h
  split at h
  · next heq => exact .inl ⟨heq, (Option.some.inj h).symm⟩
  · split at h
    · next heq => exact .inr (.inl ⟨heq, (Option.some.inj h).symm⟩)
    · split at h
      · next heq => exact .inr (.inr (.inl ⟨heq, (Option.some.inj h).symm⟩))
      · split at h
        · next heq => exact .inr (.inr (.inr ⟨heq, (Option.some.inj h).symm⟩))
        · cases h

theorem parse_dump {tag : String} {js : Value} {text : String} (h : dump tag js = some text) :
    parse tag text = some js := by
  rcases dump_cases h with ⟨rfl, rfl⟩ | ⟨rfl, rfl⟩ | ⟨rfl, rfl⟩ | ⟨rfl, rfl⟩
  · rfl
  · rfl
  · rfl
  · rfl

theorem decode_append (c : Char) (text : String) :
    decode (String.ofList [c] ++ text) = some (String.ofList [c], text) := by
  rw [decode, String.toList_append, String.toList_ofList]
  simp

theorem agree (tag : String) : Agree (env tag) (lib tag) (fun _ => 0) KeyPair := by
  refine ⟨fun _ _ h => parse_dump h, fun _ => rfl, ?_, fun _ _ _ _ _ _ _ _ _ _ _ _ _ _ _ _ => rfl,
    fun _ _ _ => rfl, fun pem h => absurd h.1 (by decide)⟩
  intro kid key payload s token s' h
  change jwtSign tag (some kid) (some key) payload s = (.ok token, s') at h
  cases htext : dump tag payload with
  | none =>
    simp only [jwtSign, htext] at h
    cases h
  | some text =>
    by_cases hkid : kid = "k"
    · simp only [jwtSign, htext, hkid] at h
      cases h
      exact ⟨"K", .obj [("kid", .str "k")], text, decode_append 'K' text, rfl, by rw [hkid]; rfl,
        htext⟩
    · simp only [jwtSign, htext, Option.isNone_some, Option.some.injEq, hkid, reduceCtorEq,
        if_false, Bool.false_eq_true] at h
      cases h

theorem dump_device (tag : String) : dump tag deviceJson = some "D" := if_pos rfl

theorem overall_ne_device (tag : String) : overallJson tag ≠ deviceJson := by
  intro h
  have hsub := congrArg (Value.member? "sub") h
  have hdevice : deviceJson.member? "sub" = none := by
    rw [deviceJson, member_submod_other _ _ (by decide)]
    simp [claim, DeviceClaims.toJsonObject, SerializableGpuClaimsV3.toJson, member?_object,
      lookup_cons_ite]
  rw [hdevice] at hsub
  simp [overallJson, overallClaims, SerializableOverallEATClaims.toJson,
    SerializableCommonEATClaims.members, member?_object, lookup_cons_ite] at hsub

theorem dump_overall (tag : String) : dump tag (overallJson tag) = some "O" := by
  rw [dump, if_neg (overall_ne_device tag), if_pos rfl]

theorem dump_collection (tag : String) : dump tag (collectionToJson [claim]) = some "C" := by
  have hdevice : collectionToJson [claim] ≠ deviceJson := by
    intro h
    cases h
  have hoverall : collectionToJson [claim] ≠ overallJson tag := by
    intro h
    cases h
  rw [dump, if_neg hdevice, if_neg hoverall, if_pos rfl]

theorem dump_eat (tag : String) : dump tag (eatJson tag) = some "E" := by
  have hdevice : eatJson tag ≠ deviceJson := by
    intro h
    cases h
  have hoverall : eatJson tag ≠ overallJson tag := by
    intro h
    cases h
  have hcollection : eatJson tag ≠ collectionToJson [claim] := by
    intro h
    cases h
  rw [dump, if_neg hdevice, if_neg hoverall, if_neg hcollection, if_pos rfl]

theorem sign_sample {kid tag : String} (hkid : kid = "k" ∧ tag = "K" ∨ kid = "" ∧ tag = "N")
    {payload : Value} {text : String} (h : dump tag payload = some text) :
    sign (env tag) (options kid) payload () = (.ok (tag ++ text), ()) := by
  change jwtSign tag (nonEmpty kid) (nonEmpty "key") payload () = _
  simp only [jwtSign, h]
  rcases hkid with ⟨rfl, rfl⟩ | ⟨rfl, rfl⟩
  · rfl
  · rfl

theorem nonce_sample (tag : String) :
    generateNonce (env tag) jtiSizeBytes () = (.ok (List.replicate jtiSizeBytes 7), ()) := rfl

theorem addSubmods_sample {kid tag : String} (hkid : kid = "k" ∧ tag = "K" ∨ kid = "" ∧ tag = "N") :
    addSubmods (env tag) (options kid) common [claim] {} () =
      (.ok ⟨"ab", [("GPU", 1)], [("GPU-0", (device tag).digest)], [("GPU-0", tag ++ "D")]⟩, ()) := by
  have hjoin : joinNonce (SubmodState.overallNonce {}) claim.getNonce = .ok "ab" := rfl
  have hsign : sign (env tag) (options kid)
      (submodClaimsToJson { common with jti := toHexString (List.replicate jtiSizeBytes 7) } claim)
        () = (.ok (tag ++ "D"), ()) := sign_sample hkid (dump_device tag)
  have hdigest : computeSha256Hex (env tag) (tag ++ "D") = .ok (device tag).digest := rfl
  have htype : toUpper claim.getDeviceType = "GPU" := toUpper_gpu _
  have hone : addSubmod (env tag) (options kid) common {} claim () =
      (.ok ⟨"ab", [("GPU", 1)], [("GPU-0", (device tag).digest)], [("GPU-0", tag ++ "D")]⟩, ()) := by
    rw [addSubmod, htype, bind_of_ok (lift_iff.mpr ⟨hjoin, rfl⟩),
      bind_of_ok (nonce_sample tag), bind_of_ok hsign, bind_of_ok (lift_iff.mpr ⟨hdigest, rfl⟩)]
    rfl
  rw [addSubmods, bind_of_ok hone]
  rfl

theorem evaluateClaims_sample (tag : String) :
    evaluateClaims (env tag) .overallResult [claim] = .ok true := by
  have hdump : serializeToJson (env tag) (collectionToJson [claim]) = .ok "C" := by
    have hjson : (env tag).dump (collectionToJson [claim]) = some "C" := dump_collection tag
    rw [serializeToJson, hjson]
  have hmatch : readMatch (env tag) "R" = true := rfl
  rw [evaluateClaims, hdump]
  exact congrArg Except.ok hmatch

theorem getDetachedEat_sample {kid tag : String}
    (hkid : kid = "k" ∧ tag = "K" ∨ kid = "" ∧ tag = "N") :
    getDetachedEat (env tag) (options kid) [claim] () = (.ok ("E", true), ()) := by
  have hnow : (env tag).now () = (.ok 0, ()) := rfl
  have hsign : sign (env tag) (options kid) (overallJson tag) () = (.ok (tag ++ "O"), ()) :=
    sign_sample hkid (dump_overall tag)
  have htext : serializeToJson (env tag) (eatJson tag) = .ok "E" := by
    have hjson : (env tag).dump (eatJson tag) = some "E" := dump_eat tag
    rw [serializeToJson, hjson]
  rw [getDetachedEat, bind_of_ok hnow, bind_of_ok (nonce_sample tag)]
  refine (bind_of_ok (addSubmods_sample hkid) _).trans ?_
  refine (bind_of_ok (lift_iff.mpr ⟨evaluateClaims_sample tag, rfl⟩) _).trans ?_
  refine (bind_of_ok hsign _).trans ?_
  exact bind_of_ok (lift_iff.mpr ⟨htext, rfl⟩) _

theorem lifetime (tag : String) : Lifetime (lib tag) (fun _ => 0) 0 (0 + jwtTtlSeconds)
    fun _ => True :=
  ⟨fun _ _ => ⟨by decide, by decide⟩, fun t _ => ⟨0, t, rfl, trivial⟩, fun _ _ _ _ => trivial⟩

theorem holds (kid tag : String) : Holds (lib tag) http (fun _ => True) kid
    (fun jwk => KeyPair (options kid).privateKeyPem jwk.pemPublicKey) (store kid) := by
  refine ⟨fun jwk hjwk => ?_, .inl ⟨by simp [store], fun t nowMs t' _ hnow => ?_⟩⟩
  · simp only [store, List.lookup_cons_self, Option.some.injEq] at hjwk
    cases hjwk
    exact ⟨rfl, rfl⟩
  · cases hnow
    exact Int.le_refl 0

theorem nonce_lower : ∀ c ∈ "ab".toList, c ∈ lowerHexDigits := by
  have hall : ("ab".toList.all fun c => lowerHexDigits.contains c) = true := by decide
  simpa only [List.all_eq_true, List.contains_iff_mem] using hall

/-- One device, signed and read with the key id `k`. -/
theorem claim_roundTrip :
    ∃ eat decoded w', deserializeFromJson (lib "K") detachedEatFromJson "E" = .ok eat ∧
      validateAndDecodeEAT (lib "K") http "I" eat (store "k", ()) = (.ok decoded, w') ∧
      toHexString decoded.eatNonce = "ab" ∧ decoded.overallResult = true ∧
      (submodLabels [claim]).Nodup ∧ decoded.claims.length = [claim].length ∧
      ∃ payloads, decoded.claims.Perm ((submodLabels [claim]).zip payloads) ∧
        List.Forall₂ (Describes (lib "K") 0 "I") [claim] payloads :=
  detachedEat_roundTrip (agree "K") (by decide) (by decide) (by simp [claim, DeviceClaims.getNonce])
    (by decide) (by decide) nonce_lower rfl (getDetachedEat_sample (.inl ⟨rfl, rfl⟩)) (lifetime "K")
    trivial (holds "k" "K")

/-- A token without a key id does not verify. -/
theorem no_key_id_rejected {eat : SerializableDetachedEAT} {decoded : DecodedEAT}
    {w w' : JwkStore × Unit} (heat : eat.overallJwtToken = "NO") :
    validateAndDecodeEAT (lib "N") http "I" eat w ≠ (.ok decoded, w') := by
  intro h
  obtain ⟨payload, w₁, hvalid, -⟩ := bind_eq_ok.mp h
  rw [heat] at hvalid
  obtain ⟨header, kid, -, -, hdecode, hkid, -⟩ := validateAndDecode_iff.mp hvalid
  have hheader : header = "N" := congrArg Prod.fst
    (Option.some.inj (hdecode.symm.trans (decode_append 'N' "O")))
  have hmember : tokenMember (lib "N").toJwtLib "N" "kid" = .error (.code .NrasTokenInvalid) := rfl
  rw [hheader, hmember] at hkid
  cases hkid

/-- With the empty key id, which is the default, the written EAT is refused. -/
theorem empty_key_id_refused :
    ¬ ∀ (env : Platform Unit) (lib : RemoteLib Unit) (http : HttpClient Unit) (clock : Unit → Int)
      (KeyPair : String → String → Prop) (options : DetachedEATOptions)
      (claims : List DeviceClaims) (nonce : String) (iat : Int) (text : String) (verdict : Bool)
      (Alive : Unit → Prop) (store : JwkStore),
      Agree env lib clock KeyPair → claims ≠ [] → (∀ claim ∈ claims, claim.getNonce = nonce) →
      nonce ≠ "" → nonce.length % 2 = 0 → (∀ c ∈ nonce.toList, c ∈ lowerHexDigits) →
      env.now () = (.ok iat, ()) →
      getDetachedEat env options claims () = (.ok (text, verdict), ()) →
      Lifetime lib clock iat (iat + jwtTtlSeconds) Alive → Alive () →
      Holds lib http Alive options.kid
        (fun jwk => KeyPair options.privateKeyPem jwk.pemPublicKey) store →
      ∃ eat decoded w', deserializeFromJson lib detachedEatFromJson text = .ok eat ∧
        validateAndDecodeEAT lib http options.issuer eat (store, ()) = (.ok decoded, w') := by
  intro h
  obtain ⟨eat, decoded, w', hread, hvalid⟩ := h (env "N") (lib "N") http _ KeyPair (options "")
    [claim] "ab" 0 "E" true _ (store "") (agree "N") (by decide)
    (by simp [claim, DeviceClaims.getNonce]) (by decide) (by decide) nonce_lower rfl
    (getDetachedEat_sample (.inr ⟨rfl, rfl⟩)) (lifetime "N") trivial (holds "" "N")
  have hdistinct : Distinct (SerializableDetachedEAT.mk "NO" [("GPU-0", "ND")]).deviceJwtTokens :=
    List.nodup_singleton _
  obtain ⟨tokens, -, htokens⟩ := detachedEatFromJson_toJson hdistinct
  have hparsed := deserialize_dumped (agree "N") (dump_eat "N") htokens
  have heat : eat = ⟨"NO", tokens⟩ := Except.ok.inj (hread.symm.trans hparsed)
  exact no_key_id_rejected (by rw [heat]) hvalid

end AttestationSdk.EatSample
