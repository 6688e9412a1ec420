import AttestationSdk.DeviceClaims

/-! The overall-result policy of `claims_evaluator.cpp`, rule by rule over the JSON
the claims serialise to, and what it asks of the claims themselves. -/
namespace AttestationSdk.OverallPolicy
open Json AttestationSdk.Claims

def isText (s : String) : Option Value → Bool
  | some (.str t) => t = s
  | _ => false

def isBool (b : Bool) : Option Value → Bool
  | some (.bool c) => c = b
  | _ => false

def number? : Value → Option Rat
  | .int n => some n
  | .float q => some q
  | _ => none

def isNumber (n : Int) (v : Option Value) : Bool :=
  match v.bind number? with
  | some q => q = n
  | none => false

/-- The order of the kinds in Rego. -/
def kind : Value → Nat
  | .null => 0
  | .bool _ => 1
  | .int _ | .float _ => 2
  | .str _ => 3
  | .arr _ => 4
  | .obj _ => 5

/-- `a > b` on numbers and between kinds; an undefined side makes it undefined. -/
def greater : Option Value → Option Value → Bool
  | some a, some b => match number? a, number? b with
    | some x, some y => y < x
    | _, _ => kind b < kind a
  | _, _ => false

/-- `not` of a reference: the value is undefined or false. -/
def negation : Option Value → Bool
  | none => true
  | some (.bool b) => !b
  | some _ => false

def freshByNonce (certChain : Value) : Bool :=
  isBool true (certChain.member? "x-nvidia-cert-ocsp-nonce-matches") &&
    negation (certChain.member? "x-sol-cert-ocsp-signed-age")

def freshBySignedAge (certChain : Value) : Bool :=
  isBool false (certChain.member? "x-nvidia-cert-ocsp-nonce-matches") &&
    match certChain.member? "x-sol-cert-ocsp-signed-age" with
    | none => false
    | some signedAge =>
      isNumber 1 (signedAge.member? "version") &&
        isText "signed-age" (signedAge.member? "mode") &&
        greater (signedAge.member? "covered_certificates") (some (.int 0)) &&
        greater (signedAge.member? "status_deadline_unix")
          (signedAge.member? "verification_time_unix")

def checkCertChainStatusFreshness (certChain : Value) : Bool :=
  freshByNonce certChain || freshBySignedAge certChain

/-- The five chain rules, which differ in the member they read. -/
def checkCertChain (key : String) (claims : Value) : Bool :=
  match claims.member? key with
  | none => false
  | some certChain =>
    isText "valid" (certChain.member? "x-nvidia-cert-status") &&
      isText "good" (certChain.member? "x-nvidia-cert-ocsp-status") &&
      isBool true (certChain.member? "x-nvidia-cert-ocsp-response-valid") &&
      checkCertChainStatusFreshness certChain

def checkGpuArCertChain : Value → Bool :=
  checkCertChain "x-nvidia-gpu-attestation-report-cert-chain"
def checkGpuDriverRimCertChain : Value → Bool :=
  checkCertChain "x-nvidia-gpu-driver-rim-cert-chain"
def checkGpuVbiosRimCertChain : Value → Bool :=
  checkCertChain "x-nvidia-gpu-vbios-rim-cert-chain"
def checkSwitchArCertChain : Value → Bool :=
  checkCertChain "x-nvidia-switch-attestation-report-cert-chain"
def checkSwitchBiosRimCertChain : Value → Bool :=
  checkCertChain "x-nvidia-switch-bios-rim-cert-chain"

def checkMeasurementsMatch (claims : Value) : Bool := isText "success" (claims.member? "measres")

def validateGpuClaims (claims : Value) : Bool :=
  checkMeasurementsMatch claims && checkGpuArCertChain claims &&
    checkGpuDriverRimCertChain claims && checkGpuVbiosRimCertChain claims

def validateSwitchClaims (claims : Value) : Bool :=
  checkMeasurementsMatch claims && checkSwitchArCertChain claims &&
    checkSwitchBiosRimCertChain claims

def validateClaimByDeviceType (claim : Value) : Bool :=
  (isText "gpu" (claim.member? "x-nvidia-device-type") && validateGpuClaims claim) ||
    (isText "nvswitch" (claim.member? "x-nvidia-device-type") && validateSwitchClaims claim)

/-- What `count` counts and `every` ranges over. -/
def elements : Value → List Value
  | .arr elems => elems
  | .obj members => members.map (·.2)
  | _ => []

def nvMatch (input : Value) : Bool :=
  0 < (elements input).length && (elements input).all validateClaimByDeviceType

/-- The status of a chain was got in a way the policy takes as fresh. -/
def Fresh (chain : SerializableCertChainClaims) : Prop :=
  match chain.ocspSignedAge with
  | none => chain.ocspNonceMatches = true
  | some status => chain.ocspNonceMatches = false ∧ status.version = 1 ∧
    0 < status.coveredCertificates ∧ status.verificationTimeUnix < status.statusDeadlineUnix

def TrustedChain (chain : SerializableCertChainClaims) : Prop :=
  chain.certStatus = "valid" ∧ chain.certOcspStatus = "good" ∧ chain.ocspResponseValid = true ∧
    Fresh chain

/-- The chains the policy reads from a device's claims. -/
def chains : DeviceClaims → List SerializableCertChainClaims
  | .gpu claims => [claims.arCertChain, claims.driverRimCertChain, claims.vbiosRimCertChain]
  | .switch claims => [claims.arCertChainClaims, claims.biosRimCertChain]

/-- One device passes the policy. -/
def Trusted (claims : DeviceClaims) : Prop :=
  claims.measurementsMatching = .Success ∧ ∀ chain ∈ chains claims, TrustedChain chain

theorem isText_str (s t : String) : isText s (some (.str t)) = true ↔ t = s := by
  simp [isText]

theorem isBool_bool (b c : Bool) : isBool b (some (.bool c)) = true ↔ c = b := by
  simp [isBool]

theorem isNumber_int (n m : Int) : isNumber n (some (.int m)) = true ↔ m = n := by
  simp [isNumber, number?]

theorem greater_int (n m : Int) : greater (some (.int n)) (some (.int m)) = true ↔ m < n := by
  simp [greater, number?, Rat.intCast_lt_intCast]

section Members
variable (chain : SerializableCertChainClaims)

theorem member_certStatus :
    chain.toJson.member? "x-nvidia-cert-status" = some (.str chain.certStatus) := by
  cases h : chain.ocspSignedAge <;>
    simp [SerializableCertChainClaims.toJson, member?_object, lookup_cons_ite, h]

theorem member_ocspStatus :
    chain.toJson.member? "x-nvidia-cert-ocsp-status" = some (.str chain.certOcspStatus) := by
  cases h : chain.ocspSignedAge <;>
    simp [SerializableCertChainClaims.toJson, member?_object, lookup_cons_ite, h]

theorem member_responseValid :
    chain.toJson.member? "x-nvidia-cert-ocsp-response-valid" =
      some (.bool chain.ocspResponseValid) := by
  cases h : chain.ocspSignedAge <;>
    simp [SerializableCertChainClaims.toJson, member?_object, lookup_cons_ite, h]

theorem member_nonceMatches :
    chain.toJson.member? "x-nvidia-cert-ocsp-nonce-matches" =
      some (.bool chain.ocspNonceMatches) := by
  cases h : chain.ocspSignedAge <;>
    simp [SerializableCertChainClaims.toJson, member?_object, lookup_cons_ite, h]

theorem member_signedAge :
    chain.toJson.member? "x-sol-cert-ocsp-signed-age" =
      chain.ocspSignedAge.map SerializableSignedAgeStatus.toJson := by
  cases h : chain.ocspSignedAge <;>
    simp [SerializableCertChainClaims.toJson, member?_object, lookup_cons_ite, h]

end Members

/-- Only the second freshness rule can hold of a chain with a signed-age status, and
only the first of one without. -/
theorem checkFreshness_iff (chain : SerializableCertChainClaims) :
    checkCertChainStatusFreshness chain.toJson = true ↔ Fresh chain := by
  rw [checkCertChainStatusFreshness, freshByNonce, freshBySignedAge, Fresh, member_nonceMatches,
    member_signedAge]
  cases h : chain.ocspSignedAge with
  | none => simp [negation, isBool_bool]
  | some status =>
    have hversion : status.toJson.member? "version" = some (.int status.version) := by
      simp [SerializableSignedAgeStatus.toJson, member?_object, lookup_cons_ite]
    have hmode : status.toJson.member? "mode" = some (.str "signed-age") := by
      simp [SerializableSignedAgeStatus.toJson, member?_object, lookup_cons_ite]
    have hcovered : status.toJson.member? "covered_certificates" =
        some (.int status.coveredCertificates) := by
      simp [SerializableSignedAgeStatus.toJson, member?_object]
    have hdeadline : status.toJson.member? "status_deadline_unix" =
        some (.int status.statusDeadlineUnix) := by
      simp [SerializableSignedAgeStatus.toJson, member?_object, lookup_cons_ite]
    have htime : status.toJson.member? "verification_time_unix" =
        some (.int status.verificationTimeUnix) := by
      simp [SerializableSignedAgeStatus.toJson, member?_object, lookup_cons_ite]
    have hdefined : negation (some status.toJson) = false := by
      simp [SerializableSignedAgeStatus.toJson, object, negation]
    simp [hversion, hmode, hcovered, hdeadline, htime, hdefined, isBool_bool, isNumber_int,
      isText_str, greater_int, and_assoc]

theorem checkCertChain_iff {key : String} {js : Value} {chain : SerializableCertChainClaims}
    (h : js.member? key = some chain.toJson) :
    checkCertChain key js = true ↔ TrustedChain chain := by
  simp only [checkCertChain, h, member_certStatus, member_ocspStatus, member_responseValid,
    Bool.and_eq_true, isText_str, isBool_bool, checkFreshness_iff, TrustedChain, and_assoc]

section Gpu
variable (claims : SerializableGpuClaimsV3)

theorem gpu_member_deviceType : claims.toJson.member? "x-nvidia-device-type" = some (.str "gpu") := by
  by_cases h : claims.gpuSwitchPdis.isEmpty <;>
    simp [SerializableGpuClaimsV3.toJson, member?_object, h, lookup_cons_ite]

theorem gpu_member_ar : claims.toJson.member? "x-nvidia-gpu-attestation-report-cert-chain" =
    some claims.arCertChain.toJson := by
  by_cases h : claims.gpuSwitchPdis.isEmpty <;>
    simp [SerializableGpuClaimsV3.toJson, member?_object, h, lookup_cons_ite]

theorem gpu_member_driverRim : claims.toJson.member? "x-nvidia-gpu-driver-rim-cert-chain" =
    some claims.driverRimCertChain.toJson := by
  by_cases h : claims.gpuSwitchPdis.isEmpty <;>
    simp [SerializableGpuClaimsV3.toJson, member?_object, h, lookup_cons_ite]

theorem gpu_member_vbiosRim : claims.toJson.member? "x-nvidia-gpu-vbios-rim-cert-chain" =
    some claims.vbiosRimCertChain.toJson := by
  by_cases h : claims.gpuSwitchPdis.isEmpty <;>
    simp [SerializableGpuClaimsV3.toJson, member?_object, h, lookup_cons_ite]

end Gpu

section Switch
variable (claims : SerializableSwitchClaimsV3)

theorem switch_member_deviceType :
    claims.toJson.member? "x-nvidia-device-type" = some (.str "nvswitch") := by
  by_cases h : claims.switchPdi.isEmpty <;> by_cases h' : claims.switchGpuPdis.isEmpty <;>
    simp [SerializableSwitchClaimsV3.toJson, member?_object, h, h', lookup_cons_ite]

theorem switch_member_ar : claims.toJson.member? "x-nvidia-switch-attestation-report-cert-chain" =
    some claims.arCertChainClaims.toJson := by
  by_cases h : claims.switchPdi.isEmpty <;> by_cases h' : claims.switchGpuPdis.isEmpty <;>
    simp [SerializableSwitchClaimsV3.toJson, member?_object, h, h', lookup_cons_ite]

theorem switch_member_biosRim : claims.toJson.member? "x-nvidia-switch-bios-rim-cert-chain" =
    some claims.biosRimCertChain.toJson := by
  by_cases h : claims.switchPdi.isEmpty <;> by_cases h' : claims.switchGpuPdis.isEmpty <;>
    simp [SerializableSwitchClaimsV3.toJson, member?_object, h, h', lookup_cons_ite]

end Switch

theorem checkMeasurementsMatch_iff (claims : DeviceClaims) :
    checkMeasurementsMatch claims.toJsonObject = true ↔
      claims.measurementsMatching = .Success := by
  rw [checkMeasurementsMatch, member_measres]
  cases claims.measurementsMatching <;>
    simp [SerializableMeasresClaim.toJson, enumToJson, measresRest, isText]

/-- The rules for one claim ask what `Trusted` says of the claims it serialises. -/
theorem validateClaim_iff (claims : DeviceClaims) :
    validateClaimByDeviceType claims.toJsonObject = true ↔ Trusted claims := by
  have hmeasres := checkMeasurementsMatch_iff claims
  cases claims with
  | gpu claims =>
    simp only [DeviceClaims.toJsonObject] at hmeasres ⊢
    simp only [validateClaimByDeviceType, gpu_member_deviceType, isText_str, validateGpuClaims,
      Bool.or_eq_true, Bool.and_eq_true, hmeasres, checkGpuArCertChain,
      checkGpuDriverRimCertChain, checkGpuVbiosRimCertChain,
      checkCertChain_iff (gpu_member_ar claims), checkCertChain_iff (gpu_member_driverRim claims),
      checkCertChain_iff (gpu_member_vbiosRim claims)]
    simp [Trusted, chains, and_assoc]
  | switch claims =>
    simp only [DeviceClaims.toJsonObject] at hmeasres ⊢
    simp only [validateClaimByDeviceType, switch_member_deviceType, isText_str,
      validateSwitchClaims, Bool.or_eq_true, Bool.and_eq_true, hmeasres, checkSwitchArCertChain,
      checkSwitchBiosRimCertChain, checkCertChain_iff (switch_member_ar claims),
      checkCertChain_iff (switch_member_biosRim claims)]
    simp [Trusted, chains, and_assoc]

/-- The policy on a serialised collection. -/
theorem nvMatch_iff (claims : List DeviceClaims) :
    nvMatch (.arr (claims.map DeviceClaims.toJsonObject)) = true ↔
      claims ≠ [] ∧ ∀ c ∈ claims, Trusted c := by
  simp [nvMatch, elements, validateClaim_iff, List.length_pos_iff]

end AttestationSdk.OverallPolicy
