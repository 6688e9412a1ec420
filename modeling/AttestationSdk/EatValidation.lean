import AttestationSdk.RemoteVerifier

/-! What `validate_and_decode_EAT` accepts, and what it then returns. -/
namespace AttestationSdk.Remote
open Json AttestationSdk.Text AttestationSdk.Eat AttestationSdk.Http AttestationSdk.Jwt
open KeyedList Effects Prog
variable {σ : Type}

/-- The digests of an overall token stand under distinct names. -/
theorem overallFromJson_distinct {js : Value} {overall : SerializableOverallEATClaims}
    (h : overallFromJson js = .ok overall) : Distinct overall.submodDigests := by
  unfold overallFromJson at h
  obtain ⟨_, _, h⟩ := ExceptRules.bind_eq_ok.mp h
  obtain ⟨_, _, h⟩ := ExceptRules.bind_eq_ok.mp h
  obtain ⟨_, _, h⟩ := ExceptRules.bind_eq_ok.mp h
  obtain ⟨_, _, h⟩ := ExceptRules.bind_eq_ok.mp h
  obtain ⟨_, _, h⟩ := ExceptRules.bind_eq_ok.mp h
  obtain ⟨_, _, h⟩ := ExceptRules.bind_eq_ok.mp h
  obtain ⟨digests, _, h⟩ := ExceptRules.bind_eq_ok.mp h
  cases h
  exact foldl_assign_distinct digests [] distinct_nil

section Rules
variable (lib : RemoteLib σ) (http : HttpClient σ) (eatIssuer : String)

/-- The entry of the store for a key id: the cached one while it is fresh, else the one of the
key set that the endpoint then serves. -/
def KeyNamed (kid : String) (w : JwkStore × σ) (jwk : Jwk) (w' : JwkStore × σ) : Prop :=
  ∃ nowMs s, lib.nowMs w.2 = (.ok nowMs, s) ∧
    (if stale kid nowMs w.1 then refreshAt lib.toJwtLib http nowMs (w.1, s) = (.ok (), w')
      else w' = (w.1, s)) ∧
    w'.1.jwks.lookup kid = some jwk

/-- A token of the issuer whose signature holds under the key that its `kid` names. -/
def TokenVerifies (token : String) (w : JwkStore × σ) (payload : String) (w' : JwkStore × σ) :
    Prop :=
  ∃ header kid jwk w₁,
    lib.decode token = some (header, payload) ∧
    tokenMember lib.toJwtLib header "kid" = .ok kid ∧
    tokenMember lib.toJwtLib payload "iss" = .ok eatIssuer ∧
    KeyNamed lib http kid w jwk w₁ ∧ lib.acceptsKey jwk.pemPublicKey = true ∧
    onSecond (lib.verify jwk.pemPublicKey token) w₁ = (.ok true, w')

/-- The token of every listed name verifies in its turn and has the listed digest. -/
inductive DevicesVerify (tokens : List (String × String)) :
    List (String × String) → JwkStore × σ → JwkStore × σ → Prop where
  | nil (w : JwkStore × σ) : DevicesVerify tokens [] w w
  | cons {name digest token payload : String} {rest : List (String × String)}
      {w w₁ w' : JwkStore × σ} (hmem : (name, token) ∈ tokens)
      (hverifies : TokenVerifies lib http eatIssuer token w payload w₁)
      (hdigest : sha256Hex lib token = .ok digest)
      (hrest : DevicesVerify tokens rest w₁ w') :
      DevicesVerify tokens ((name, digest) :: rest) w w'

/-- The rule for a detached EAT: the overall token verifies and its payload has a nonce, it
names the device tokens there are, and each of these verifies and has its listed digest. -/
def EatVerifies (eat : SerializableDetachedEAT) (w : JwkStore × σ) : Prop :=
  ∃ payload w₁ overall w',
    TokenVerifies lib http eatIssuer eat.overallJwtToken w payload w₁ ∧
    deserializeFromJson lib overallFromJson payload = .ok overall ∧ overall.eatNonce ≠ "" ∧
    (∀ name, name ∈ keys overall.submodDigests ↔ name ∈ keys eat.deviceJwtTokens) ∧
    DevicesVerify lib http eatIssuer eat.deviceJwtTokens
      (lib.mapOrder.order overall.submodDigests) w₁ w'

end Rules

variable {lib : RemoteLib σ} {http : HttpClient σ} {eatIssuer : String}

/-- The end of `get_jwk_by_kid`: the key set has the key, or not. -/
theorem readKey_iff {kid : String} {w w' : JwkStore × σ} {jwk : Jwk} :
    (do
      let store ← liftFirst fun st => (.ok st, st)
      match store.jwks.lookup kid with
      | none => Prog.fail (.code .CertNotFound)
      | some jwk => pure jwk : Prog Fault (JwkStore × σ) Jwk) w = (.ok jwk, w') ↔
      w.1.jwks.lookup kid = some jwk ∧ w' = w := by
  have hread : (liftFirst fun st => (.ok st, st) : Prog Fault (JwkStore × σ) JwkStore) w =
    (.ok w.1, w) := rfl
  rw [bind_of_ok hread]
  cases w.1.jwks.lookup kid with
  | none => simp
  | some found => rw [pure_iff, Option.some.injEq, eq_comm (a := jwk)]

theorem getJwkByKid_iff {kid : String} {w w' : JwkStore × σ} {jwk : Jwk} :
    getJwkByKid lib.toJwtLib http kid w = (.ok jwk, w') ↔ KeyNamed lib http kid w jwk w' := by
  have hread (v : JwkStore × σ) :
      (liftFirst fun st => (.ok st, st) : Prog Fault (JwkStore × σ) JwkStore) v = (.ok v.1, v) :=
    rfl
  constructor
  · intro h
    obtain ⟨nowMs, w₁, hnow, h⟩ := bind_eq_ok.mp h
    rw [bind_of_ok (hread w₁)] at h
    have hsame : w.1 = w₁.1 := congrArg (fun r => r.2.1) hnow
    refine ⟨nowMs, w₁.2, onSecond_ok hnow, ?_⟩
    rw [hsame]
    split at h
    · next hstale =>
      obtain ⟨_, w₂, hrefresh, h⟩ := bind_eq_ok.mp h
      obtain ⟨hlookup, rfl⟩ := readKey_iff.mp h
      rw [if_pos hstale]
      exact ⟨hrefresh, hlookup⟩
    · next hstale =>
      obtain ⟨hlookup, rfl⟩ := readKey_iff.mp h
      rw [if_neg hstale]
      exact ⟨rfl, hlookup⟩
  · rintro ⟨nowMs, s, hnow, hrefresh, hlookup⟩
    have hclock : onSecond lib.nowMs w = (.ok nowMs, (w.1, s)) := by rw [onSecond, hnow]
    refine bind_eq_ok.mpr ⟨nowMs, (w.1, s), hclock, ?_⟩
    rw [bind_of_ok (hread _)]
    split at hrefresh
    · next hstale =>
      rw [if_pos hstale]
      exact bind_eq_ok.mpr ⟨(), w', hrefresh, readKey_iff.mpr ⟨hlookup, rfl⟩⟩
    · next hstale =>
      rw [if_neg hstale]
      exact readKey_iff.mpr ⟨hrefresh ▸ hlookup, hrefresh⟩

theorem validateAndDecode_iff {token payload : String} {w w' : JwkStore × σ} :
    validateAndDecode lib.toJwtLib http eatIssuer token w = (.ok payload, w') ↔
      TokenVerifies lib http eatIssuer token w payload w' := by
  have haccept {jwk : Jwk} {u : Unit} :
      (if lib.acceptsKey jwk.pemPublicKey then .ok () else .error .exception :
        Except Fault Unit) = .ok u ↔ lib.acceptsKey jwk.pemPublicKey = true := by
    cases lib.acceptsKey jwk.pemPublicKey with
    | true => simp
    | false => simp
  cases hdecode : lib.decode token with
  | none =>
    rw [validateAndDecode, hdecode]
    constructor
    · intro h
      cases h
    · rintro ⟨header, kid, jwk, w₁, hdecoded, -⟩
      cases hdecode.symm.trans hdecoded
  | some parts =>
    rw [validateAndDecode, hdecode]
    simp only [bind_eq_ok, lift_iff, pure_iff, require_iff, haccept, getJwkByKid_iff]
    constructor
    · rintro ⟨kid, _, ⟨hkid, rfl⟩, issuer, _, ⟨hissuer, rfl⟩, _, _, ⟨hsame, rfl⟩, jwk, w₁, hjwk,
        _, _, ⟨hkey, rfl⟩, verified, w₂, hverify, _, _, ⟨rfl, rfl⟩, rfl, rfl⟩
      have hissuerIs : issuer = eatIssuer := of_decide_eq_true hsame
      exact ⟨parts.1, kid, jwk, _, hdecode, hkid, hissuerIs ▸ hissuer, hjwk, hkey, hverify⟩
    · rintro ⟨header, kid, jwk, w₁, hdecoded, hkid, hissuer, hjwk, hkey, hverify⟩
      obtain rfl := Option.some.inj (hdecode.symm.trans hdecoded)
      exact ⟨kid, w, ⟨hkid, rfl⟩, eatIssuer, w, ⟨hissuer, rfl⟩, (), w, ⟨decide_eq_true rfl, rfl⟩,
        jwk, w₁, hjwk, (), w₁, ⟨hkey, rfl⟩, true, w', hverify, (), w', ⟨rfl, rfl⟩, rfl, rfl⟩

/-- A claim of the result: the listed name with the payload of the token of that name. -/
def DecodedAs (lib : RemoteLib σ) (tokens : List (String × String)) (entry claim : String × String) :
    Prop :=
  claim.1 = entry.1 ∧ ∃ token header,
    (entry.1, token) ∈ tokens ∧ lib.decode token = some (header, claim.2)

theorem TokenVerifies.decode {token payload : String} {w w' : JwkStore × σ}
    (h : TokenVerifies lib http eatIssuer token w payload w') :
    ∃ header, lib.decode token = some (header, payload) := by
  cases h with
  | intro header h =>
    obtain ⟨_, _, _, hdecode, -⟩ := h
    exact ⟨header, hdecode⟩

/-- One turn of the loop. -/
theorem validateSubmod_iff {tokens : List (String × String)} (htokens : Distinct tokens)
    {name digest : String} {entry : String × String} {w w' : JwkStore × σ} :
    validateSubmod lib http eatIssuer tokens (name, digest) w = (.ok entry, w') ↔
      entry.1 = name ∧ ∃ token, (name, token) ∈ tokens ∧
        TokenVerifies lib http eatIssuer token w entry.2 w' ∧
        sha256Hex lib token = .ok digest := by
  rw [validateSubmod]
  cases hlookup : tokens.lookup name with
  | none =>
    have hnot := lookup_eq_none_iff.mp hlookup
    constructor
    · intro h
      cases h
    · rintro ⟨-, token, hmem, -⟩
      exact absurd (mem_keys_of_mem hmem) hnot
  | some token =>
    simp only [bind_eq_ok, lift_iff, pure_iff, require_iff, validateAndDecode_iff]
    constructor
    · rintro ⟨payload, w₁, hverifies, actual, _, ⟨hactual, rfl⟩, _, _, ⟨hsame, rfl⟩, rfl, rfl⟩
      have hdigest : actual = digest := of_decide_eq_true hsame
      exact ⟨rfl, token, mem_of_lookup hlookup, hverifies, hdigest ▸ hactual⟩
    · rintro ⟨hname, token', hmem, hverifies, hdigest⟩
      have htoken : token = token' :=
        Option.some.inj (hlookup.symm.trans ((lookup_eq_some_iff htokens).mpr hmem))
      rw [htoken]
      exact ⟨entry.2, w', hverifies, digest, w', ⟨hdigest, rfl⟩, (), w', ⟨decide_eq_true rfl, rfl⟩,
        Prod.ext hname rfl, rfl⟩

theorem DecodedAs.payload_eq {tokens : List (String × String)} (htokens : Distinct tokens)
    {entry claim : String × String} {token header payload : String}
    (h : DecodedAs lib tokens entry claim) (hmem : (entry.1, token) ∈ tokens)
    (hdecode : lib.decode token = some (header, payload)) : claim = (entry.1, payload) := by
  obtain ⟨hname, token', header', hmem', hdecode'⟩ := h
  have htoken : token' = token := by
    have hlookup := (lookup_eq_some_iff htokens).mpr hmem
    have hlookup' := (lookup_eq_some_iff htokens).mpr hmem'
    exact Option.some.inj (hlookup'.symm.trans hlookup)
  rw [htoken, hdecode] at hdecode'
  cases hdecode'
  exact Prod.ext hname rfl

/-- The loop over the digests. -/
theorem validateSubmods_iff {tokens : List (String × String)} (htokens : Distinct tokens)
    {entries claims : List (String × String)} {w w' : JwkStore × σ} :
    validateSubmods lib http eatIssuer tokens entries w = (.ok claims, w') ↔
      DevicesVerify lib http eatIssuer tokens entries w w' ∧
        List.Forall₂ (DecodedAs lib tokens) entries claims := by
  induction entries generalizing claims w w' with
  | nil =>
    rw [validateSubmods, pure_iff]
    constructor
    · rintro ⟨rfl, rfl⟩
      exact ⟨.nil _, .nil⟩
    · rintro ⟨hdevices, hclaims⟩
      cases hdevices
      cases hclaims
      exact ⟨rfl, rfl⟩
  | cons p rest ih =>
    rw [validateSubmods]
    simp only [bind_eq_ok, pure_iff, ih, validateSubmod_iff htokens]
    constructor
    · rintro ⟨claim, w₁, ⟨hname, token, hmem, hverifies, hdigest⟩, others, _,
        ⟨hdevices, hdecoded⟩, rfl, rfl⟩
      obtain ⟨header, hdecode⟩ := hverifies.decode
      exact ⟨.cons hmem hverifies hdigest hdevices,
        .cons ⟨hname, token, header, hmem, hdecode⟩ hdecoded⟩
    · rintro ⟨hdevices, hdecoded⟩
      cases hdevices with
      | @cons name digest token payload _ _ w₁ _ hmem hverifies hdigest hdevices =>
        cases hdecoded with
        | cons hclaim hdecoded =>
          obtain ⟨header, hdecode⟩ := hverifies.decode
          cases hclaim.payload_eq htokens hmem hdecode
          exact ⟨(name, payload), w₁, ⟨rfl, token, hmem, hverifies, hdigest⟩, _, w',
            ⟨hdevices, hdecoded⟩, rfl, rfl⟩

/-- Each listed token has one payload. -/
theorem DevicesVerify.decoded {tokens entries : List (String × String)} {w w' : JwkStore × σ}
    (h : DevicesVerify lib http eatIssuer tokens entries w w') :
    ∃ claims, List.Forall₂ (DecodedAs lib tokens) entries claims := by
  induction h with
  | nil w => exact ⟨[], .nil⟩
  | @cons name digest token payload _ _ _ _ hmem hverifies _ _ ih =>
    obtain ⟨header, hdecode⟩ := hverifies.decode
    obtain ⟨claims, hclaims⟩ := ih
    exact ⟨(name, payload) :: claims, .cons ⟨rfl, token, header, hmem, hdecode⟩ hclaims⟩

theorem DevicesVerify.mem {tokens entries : List (String × String)} {w w' : JwkStore × σ}
    (h : DevicesVerify lib http eatIssuer tokens entries w w') :
    ∀ p ∈ entries, ∃ token, (p.1, token) ∈ tokens ∧ sha256Hex lib token = .ok p.2 := by
  induction h with
  | nil w => simp
  | cons hmem _ hdigest _ ih =>
    intro p hp
    cases List.mem_cons.mp hp with
    | inl heq => exact heq ▸ ⟨_, hmem, hdigest⟩
    | inr hrest => exact ih p hrest

/-- An accepted EAT: the overall token verifies and its digests, walked in the order of the map,
name every device token. -/
theorem validateAndDecodeEAT_iff {eat : SerializableDetachedEAT}
    (htokens : Distinct eat.deviceJwtTokens) {decoded : DecodedEAT} {w w' : JwkStore × σ} :
    validateAndDecodeEAT lib http eatIssuer eat w = (.ok decoded, w') ↔
      ∃ payload w₁ overall,
        TokenVerifies lib http eatIssuer eat.overallJwtToken w payload w₁ ∧
        deserializeFromJson lib overallFromJson payload = .ok overall ∧ overall.eatNonce ≠ "" ∧
        overall.submodDigests.length = eat.deviceJwtTokens.length ∧
        DevicesVerify lib http eatIssuer eat.deviceJwtTokens
          (lib.mapOrder.order overall.submodDigests) w₁ w' ∧
        List.Forall₂ (DecodedAs lib eat.deviceJwtTokens)
          (lib.mapOrder.order overall.submodDigests) decoded.claims ∧
        decoded.eatNonce = hexStringToBytes overall.eatNonce ∧
        decoded.overallResult = overall.overallResult := by
  rw [validateAndDecodeEAT]
  simp only [bind_eq_ok, lift_iff, pure_iff, require_iff, validateAndDecode_iff,
    validateSubmods_iff htokens]
  constructor
  · rintro ⟨payload, w₁, hverifies, overall, _, ⟨hread, rfl⟩, _, _, ⟨hnonce, rfl⟩, claims, _,
      ⟨hdevices, hdecoded⟩, _, _, ⟨hlength, rfl⟩, rfl, rfl⟩
    have hne : overall.eatNonce ≠ "" := by
      intro heq
      simp [heq] at hnonce
    exact ⟨payload, _, overall, hverifies, hread, hne, of_decide_eq_true hlength, hdevices,
      hdecoded, rfl, rfl⟩
  · rintro ⟨payload, w₁, overall, hverifies, hread, hne, hlength, hdevices, hdecoded, hnonce,
      hresult⟩
    have hnonce' : (!overall.eatNonce.isEmpty) = true := by simpa using hne
    refine ⟨payload, w₁, hverifies, overall, w₁, ⟨hread, rfl⟩, (), w₁, ⟨hnonce', rfl⟩,
      decoded.claims, w', ⟨hdevices, hdecoded⟩, (), w', ⟨decide_eq_true hlength, rfl⟩, ?_, rfl⟩
    rw [← hnonce, ← hresult]

/-- Digests whose tokens are all there are as many as the tokens exactly when no token is left
over. -/
theorem length_eq_iff_names {tokens digests : List (String × String)} (htokens : Distinct tokens)
    (hdigests : Distinct digests) (hsub : ∀ name ∈ keys digests, name ∈ keys tokens) :
    digests.length = tokens.length ↔ ∀ name, name ∈ keys digests ↔ name ∈ keys tokens := by
  constructor
  · intro hlength name
    exact (keys_eq_of_length hdigests hsub hlength).mem_iff
  · intro hnames
    exact length_eq_of_keys hdigests htokens hnames

theorem DevicesVerify.names {tokens digests : List (String × String)} {w w' : JwkStore × σ}
    (h : DevicesVerify lib http eatIssuer tokens (lib.mapOrder.order digests) w w') :
    ∀ name ∈ keys digests, name ∈ keys tokens := by
  intro name hname
  have horder := (keys_perm (lib.mapOrder.perm digests)).mem_iff.mpr hname
  obtain ⟨digest, hmem⟩ := mem_keys.mp horder
  obtain ⟨token, htoken, -⟩ := h.mem (name, digest) hmem
  exact mem_keys_of_mem htoken

theorem deserialize_distinct {payload : String} {overall : SerializableOverallEATClaims}
    (h : deserializeFromJson lib overallFromJson payload = .ok overall) :
    Distinct overall.submodDigests := by
  rw [deserializeFromJson] at h
  split at h
  · cases h
  · next js _ =>
    cases hread : overallFromJson js with
    | error e =>
      rw [hread] at h
      cases e <;> cases h
    | ok claims =>
      rw [hread] at h
      cases h
      exact overallFromJson_distinct hread

theorem eatVerifies_iff {eat : SerializableDetachedEAT} (htokens : Distinct eat.deviceJwtTokens)
    {w : JwkStore × σ} :
    (∃ decoded w', validateAndDecodeEAT lib http eatIssuer eat w = (.ok decoded, w')) ↔
      EatVerifies lib http eatIssuer eat w := by
  constructor
  · rintro ⟨decoded, w', h⟩
    obtain ⟨payload, w₁, overall, hverifies, hread, hnonce, hlength, hdevices, -⟩ :=
      (validateAndDecodeEAT_iff htokens).mp h
    have hnames := (length_eq_iff_names htokens (deserialize_distinct hread) hdevices.names).mp
      hlength
    exact ⟨payload, w₁, overall, w', hverifies, hread, hnonce, hnames, hdevices⟩
  · rintro ⟨payload, w₁, overall, w', hverifies, hread, hnonce, hnames, hdevices⟩
    obtain ⟨claims, hclaims⟩ := hdevices.decoded
    have hlength := (length_eq_iff_names htokens (deserialize_distinct hread) hdevices.names).mpr
      hnames
    exact ⟨⟨hexStringToBytes overall.eatNonce, claims, overall.overallResult⟩, w',
      (validateAndDecodeEAT_iff htokens).mpr ⟨payload, w₁, overall, hverifies, hread, hnonce,
        hlength, hdevices, hclaims, rfl, rfl⟩⟩

theorem keys_of_decoded {tokens entries claims : List (String × String)}
    (h : List.Forall₂ (DecodedAs lib tokens) entries claims) : keys claims = keys entries := by
  induction h with
  | nil => rfl
  | cons hclaim _ ih => rw [keys_cons, keys_cons, hclaim.1, ih]

theorem mem_of_decoded {tokens entries claims : List (String × String)}
    (h : List.Forall₂ (DecodedAs lib tokens) entries claims) :
    ∀ claim ∈ claims, ∃ token header,
      (claim.1, token) ∈ tokens ∧ lib.decode token = some (header, claim.2) := by
  induction h with
  | nil => simp
  | cons hclaim _ ih =>
    intro claim hmem
    cases List.mem_cons.mp hmem with
    | inl heq =>
      obtain ⟨hname, token, header, htoken, hdecode⟩ := hclaim
      exact ⟨token, header, by rw [heq, hname]; exact htoken, by rw [heq]; exact hdecode⟩
    | inr hrest => exact ih claim hrest

theorem sha256Hex_iff {token digest : String} :
    sha256Hex lib token = .ok digest ↔
      ∃ hash, lib.sha256 token = some hash ∧ digest = toHexString hash := by
  rw [sha256Hex]
  cases lib.sha256 token with
  | none => simp
  | some hash => simp [eq_comm]

/-- No token of one map has the hash of another token of the other map. -/
def NoCollision (lib : RemoteLib σ) (tokens tokens' : List (String × String)) : Prop :=
  ∀ p ∈ tokens, ∀ p' ∈ tokens', ∀ hash,
    lib.sha256 p.2 = some hash → lib.sha256 p'.2 = some hash → p.2 = p'.2

/-- One overall token accepts one map of device tokens. -/
theorem accepted_tokens_unique {eat eat' : SerializableDetachedEAT}
    (htokens : Distinct eat.deviceJwtTokens) (htokens' : Distinct eat'.deviceJwtTokens)
    (hoverall : eat'.overallJwtToken = eat.overallJwtToken)
    (hhash : NoCollision lib eat.deviceJwtTokens eat'.deviceJwtTokens) {w w' : JwkStore × σ}
    (h : EatVerifies lib http eatIssuer eat w) (h' : EatVerifies lib http eatIssuer eat' w') :
    eat.deviceJwtTokens.Perm eat'.deviceJwtTokens := by
  obtain ⟨payload, _, overall, _, hverifies, hread, -, hnames, hdevices⟩ := h
  obtain ⟨payload', _, overall', _, hverifies', hread', -, hnames', hdevices'⟩ := h'
  obtain ⟨header, hdecode⟩ := hverifies.decode
  obtain ⟨header', hdecode'⟩ := hverifies'.decode
  rw [hoverall, hdecode] at hdecode'
  cases hdecode'
  obtain rfl : overall = overall' := Except.ok.inj (hread.symm.trans hread')
  refine perm_of_lookup_eq htokens htokens' fun name => ?_
  by_cases hname : name ∈ keys overall.submodDigests
  · have horder := (keys_perm (lib.mapOrder.perm overall.submodDigests)).mem_iff.mpr hname
    obtain ⟨digest, hmem⟩ := mem_keys.mp horder
    obtain ⟨token, htoken, hdigest⟩ := hdevices.mem (name, digest) hmem
    obtain ⟨token', htoken', hdigest'⟩ := hdevices'.mem (name, digest) hmem
    obtain ⟨hash, hsha, hhex⟩ := sha256Hex_iff.mp hdigest
    obtain ⟨hash', hsha', hhex'⟩ := sha256Hex_iff.mp hdigest'
    have hsame : hash = hash' := toHexString_injective (hhex.symm.trans hhex')
    have heq : token = token' := hhash _ htoken _ htoken' hash hsha (hsame ▸ hsha')
    rw [(lookup_eq_some_iff htokens).mpr htoken, (lookup_eq_some_iff htokens').mpr htoken', heq]
  · rw [lookup_eq_none_iff.mpr (fun hin => hname ((hnames name).mpr hin)),
      lookup_eq_none_iff.mpr (fun hin => hname ((hnames' name).mpr hin))]

/-- A detached EAT is accepted exactly when it verifies; the result then has the payloads of the
device tokens under their names, and with other device tokens the overall token is refused. -/
theorem detachedEat_exact {eat : SerializableDetachedEAT} (htokens : Distinct eat.deviceJwtTokens)
    (w : JwkStore × σ) :
    ((∃ decoded w', validateAndDecodeEAT lib http eatIssuer eat w = (.ok decoded, w')) ↔
      EatVerifies lib http eatIssuer eat w) ∧
    (∀ decoded w', validateAndDecodeEAT lib http eatIssuer eat w = (.ok decoded, w') →
      Distinct decoded.claims ∧
      (∀ name, name ∈ keys decoded.claims ↔ name ∈ keys eat.deviceJwtTokens) ∧
      ∀ claim ∈ decoded.claims, ∃ token header,
        (claim.1, token) ∈ eat.deviceJwtTokens ∧ lib.decode token = some (header, claim.2)) ∧
    (∀ eat' w₂, eat'.overallJwtToken = eat.overallJwtToken → Distinct eat'.deviceJwtTokens →
      NoCollision lib eat.deviceJwtTokens eat'.deviceJwtTokens →
      ¬ eat.deviceJwtTokens.Perm eat'.deviceJwtTokens →
      (∃ decoded w', validateAndDecodeEAT lib http eatIssuer eat w = (.ok decoded, w')) →
      ∀ decoded w', validateAndDecodeEAT lib http eatIssuer eat' w₂ ≠ (.ok decoded, w')) := by
  refine ⟨eatVerifies_iff htokens, ?_, ?_⟩
  · intro decoded w' h
    obtain ⟨_, _, overall, -, hread, -, hlength, hdevices, hclaims, -⟩ :=
      (validateAndDecodeEAT_iff htokens).mp h
    have hdigests := deserialize_distinct hread
    have hperm : (keys decoded.claims).Perm (keys overall.submodDigests) := by
      rw [keys_of_decoded hclaims]
      exact keys_perm (lib.mapOrder.perm _)
    have hnames := (length_eq_iff_names htokens hdigests hdevices.names).mp hlength
    exact ⟨hperm.nodup_iff.mpr hdigests, fun name => hperm.mem_iff.trans (hnames name),
      mem_of_decoded hclaims⟩
  · intro eat' w₂ hoverall htokens' hhash hother haccepted decoded w' h
    have hverifies := (eatVerifies_iff htokens).mp haccepted
    have hverifies' := (eatVerifies_iff htokens').mp ⟨decoded, w', h⟩
    exact hother (accepted_tokens_unique htokens htokens' hoverall hhash hverifies hverifies')

end AttestationSdk.Remote

namespace AttestationSdk.ValidationSample
open Json AttestationSdk.Text AttestationSdk.Eat AttestationSdk.Remote AttestationSdk.Http
open AttestationSdk.Jwt KeyedList Effects Prog

def overallJson : Value := .obj [
  ("eat_nonce", .str "ab"), ("exp", .int 3600), ("iat", .int 0), ("iss", .str "nras"),
  ("jti", .str "id"), ("sub", .str "all"),
  ("submods", .obj [("GPU-0", .arr [.str "DIGEST", .arr [.str "SHA256", .str "646576"]])]),
  ("x-nvidia-overall-att-result", .bool true), ("x-nvidia-ver", .str "3.0")]

def parse (text : String) : Option Value :=
  if text = "header" then some (.obj [("kid", .str "k")])
  else if text = "overall" then some overallJson
  else if text = "gpu" then some (.obj [("iss", .str "nras")])
  else none

def decode (token : String) : Option (String × String) :=
  if token = "all" then some ("header", "overall")
  else if token = "dev" then some ("header", "gpu")
  else none

theorem id_perm (entries : List (String × String)) : (id entries).Perm entries := .refl entries

/-- Every signature holds and a text is its own hash. -/
def lib : RemoteLib Unit where
  parse := parse
  decode := decode
  acceptsKey _ := true
  verify _ _ := pure true
  nowMs := pure 0
  dump _ := none
  sha256 text := some (toBytes text)
  mapOrder := ⟨id, id_perm⟩

def http : HttpClient Unit := ⟨fun _ => Prog.fail (.code .InternalError)⟩

def store : JwkStore := ⟨"", 0, 0, [("k", ⟨"k", "pem"⟩)]⟩

def eat (token : String) : SerializableDetachedEAT := ⟨"all", [("GPU-0", token)]⟩

theorem token_verifies {token payload : String} (hdecode : decode token = some ("header", payload))
    (hissuer : tokenMember lib.toJwtLib payload "iss" = .ok "nras") :
    TokenVerifies lib http "nras" token (store, ()) payload (store, ()) :=
  ⟨"header", "k", ⟨"k", "pem"⟩, (store, ()), hdecode, rfl, hissuer, ⟨0, (), rfl, rfl, rfl⟩, rfl, rfl⟩

theorem overall_read : ∃ overall,
    deserializeFromJson lib overallFromJson "overall" = .ok overall ∧ overall.eatNonce = "ab" ∧
      overall.submodDigests = [("GPU-0", "646576")] :=
  ⟨⟨"all", ⟨0, 3600, "nras", "id"⟩, "3.0", [("GPU-0", "646576")], true, "ab"⟩, rfl, rfl, rfl⟩

theorem eat_verifies : EatVerifies lib http "nras" (eat "dev") (store, ()) := by
  obtain ⟨overall, hread, hnonce, hdigests⟩ := overall_read
  refine ⟨"overall", (store, ()), overall, (store, ()), token_verifies rfl rfl, hread, ?_, ?_, ?_⟩
  · rw [hnonce]
    decide
  · rw [hdigests]
    exact fun _ => Iff.rfl
  · rw [hdigests]
    exact .cons List.mem_cons_self (token_verifies rfl rfl) rfl (.nil _)

/-- The EAT of one device is accepted, and refused with another token for the device. -/
theorem device_token_exact :
    (∃ decoded w', validateAndDecodeEAT lib http "nras" (eat "dev") (store, ()) =
      (.ok decoded, w')) ∧
    ∀ decoded w', validateAndDecodeEAT lib http "nras" (eat "other") (store, ()) ≠
      (.ok decoded, w') := by
  obtain ⟨hiff, -, hother⟩ :=
    @detachedEat_exact Unit lib http "nras" (eat "dev") (List.nodup_singleton _) (store, ())
  have haccepted := hiff.mpr eat_verifies
  refine ⟨haccepted, hother (eat "other") (store, ()) rfl (List.nodup_singleton _) ?_ ?_ haccepted⟩
  · intro p hp p' hp' hash hhash hhash'
    have hpair : p = ("GPU-0", "dev") := List.mem_singleton.mp hp
    have hpair' : p' = ("GPU-0", "other") := List.mem_singleton.mp hp'
    rw [hpair] at hhash
    rw [hpair', ← hhash] at hhash'
    exact absurd (Option.some.inj hhash') (by decide)
  · intro hperm
    have hmem : ("GPU-0", "dev") ∈ [("GPU-0", "other")] := hperm.mem_iff.mp List.mem_cons_self
    exact absurd (List.mem_singleton.mp hmem) (by decide)

end AttestationSdk.ValidationSample
