import AttestationSdk.Json
import AttestationSdk.ExceptRules

/-! The device claims the verifiers emit and read back: `claims.h` and the
GPU and NVSwitch `claims.cpp`. -/
namespace AttestationSdk.Claims
open Json

def getInt32 : Value → Except ReadFault Int := Value.getInteger (-2147483648) 4294967296
def getUint32 : Value → Except ReadFault Int := Value.getInteger 0 4294967296
def getInt64 : Value → Except ReadFault Int :=
  Value.getInteger (-9223372036854775808) 18446744073709551616
def getUint64 : Value → Except ReadFault Int := Value.getInteger 0 18446744073709551616

/-- Read the member of a key. -/
def field {α : Type} (js : Value) (key : String) (read : Value → Except ReadFault α) :
    Except ReadFault α := do
  read (← js.atKey key)

/-- `deserialize_optional_shared_ptr`. -/
def deserializeOptional {α : Type} (js : Value) (key : String)
    (read : Value → Except ReadFault α) : Except ReadFault (Option α) :=
  match js.member? key with
  | none => .ok none
  | some v => if v.isNull then .ok none else (read v).map some

/-- `serialize_optional_shared_ptr`. -/
def serializeOptional {α : Type} (write : α → Value) : Option α → Value
  | none => .null
  | some a => write a

/-- Read a member that may be missing, with the value it then has. -/
def fieldOr {α : Type} (js : Value) (key : String) (read : Value → Except ReadFault α)
    (missing : α) : Except ReadFault α :=
  if js.contains key then field js key read else .ok missing

structure SerializableSignedAgeStatus where
  version : Int := 1
  verificationTimeUnix : Int := 0
  statusDeadlineUnix : Int := 0
  oldestThisUpdateUnix : Int := 0
  coveredCertificates : Int := 0
  deriving Repr, DecidableEq

def SerializableSignedAgeStatus.toJson (status : SerializableSignedAgeStatus) : Value :=
  object [
    ("version", .int status.version),
    ("mode", .str "signed-age"),
    ("verification_time_unix", .int status.verificationTimeUnix),
    ("status_deadline_unix", .int status.statusDeadlineUnix),
    ("oldest_this_update_unix", .int status.oldestThisUpdateUnix),
    ("covered_certificates", .int status.coveredCertificates)]

def SerializableSignedAgeStatus.fromJson (js : Value) :
    Except ReadFault SerializableSignedAgeStatus := do
  return {
    version := ← field js "version" getInt32
    verificationTimeUnix := ← field js "verification_time_unix" getInt64
    statusDeadlineUnix := ← field js "status_deadline_unix" getInt64
    oldestThisUpdateUnix := ← field js "oldest_this_update_unix" getInt64
    coveredCertificates := ← field js "covered_certificates" getUint64 }

def makeSignedAgeStatus (signedAge : Bool) (verificationTime statusDeadline oldestThisUpdate : Int)
    (coveredCertificates : Nat) : Option SerializableSignedAgeStatus :=
  if !signedAge then none
  else some {
    verificationTimeUnix := verificationTime
    statusDeadlineUnix := statusDeadline
    oldestThisUpdateUnix := oldestThisUpdate
    coveredCertificates := coveredCertificates }

structure SerializableCertChainClaims where
  certExpirationDate : String := ""
  certStatus : String := ""
  certOcspStatus : String := ""
  certRevocationReason : Option String := none
  ocspNonceMatches : Bool := false
  ocspResponseValid : Bool := false
  ocspSignedAge : Option SerializableSignedAgeStatus := none
  deriving Repr, DecidableEq

def SerializableCertChainClaims.toJson (claims : SerializableCertChainClaims) : Value :=
  object ([
    ("x-nvidia-cert-expiration-date", .str claims.certExpirationDate),
    ("x-nvidia-cert-status", .str claims.certStatus),
    ("x-nvidia-cert-ocsp-status", .str claims.certOcspStatus),
    ("x-nvidia-cert-revocation-reason", serializeOptional .str claims.certRevocationReason),
    ("x-nvidia-cert-ocsp-nonce-matches", .bool claims.ocspNonceMatches),
    ("x-nvidia-cert-ocsp-response-valid", .bool claims.ocspResponseValid)] ++
    match claims.ocspSignedAge with
    | none => []
    | some status => [("x-sol-cert-ocsp-signed-age", status.toJson)])

/-- The service does not emit the nonce and validity members yet; missing ones read as true. -/
def SerializableCertChainClaims.fromJson (js : Value) :
    Except ReadFault SerializableCertChainClaims := do
  return {
    certExpirationDate := ← field js "x-nvidia-cert-expiration-date" Value.getString
    certStatus := ← field js "x-nvidia-cert-status" Value.getString
    certOcspStatus := ← field js "x-nvidia-cert-ocsp-status" Value.getString
    certRevocationReason :=
      ← deserializeOptional js "x-nvidia-cert-revocation-reason" Value.getString
    ocspNonceMatches := ← fieldOr js "x-nvidia-cert-ocsp-nonce-matches" Value.getBool true
    ocspResponseValid := ← fieldOr js "x-nvidia-cert-ocsp-response-valid" Value.getBool true
    ocspSignedAge := ← fieldOr js "x-sol-cert-ocsp-signed-age"
      (fun v => (SerializableSignedAgeStatus.fromJson v).map some) none }

inductive SerializableMeasresClaim where
  | Success | Failure | NotRun | Absent
  deriving Repr, DecidableEq

/-- The pairs of `NLOHMANN_JSON_SERIALIZE_ENUM` after the first. -/
def measresRest : List (SerializableMeasresClaim × String) :=
  [(.Failure, "fail"), (.NotRun, "not-run"), (.Absent, "absent")]

def SerializableMeasresClaim.toJson : SerializableMeasresClaim → Value :=
  enumToJson (.Success, "success") measresRest

def SerializableMeasresClaim.fromJson : Value → SerializableMeasresClaim :=
  enumOfJson (.Success, "success") measresRest

inductive MeasurementSource where
  | VBIOS | DRIVER
  deriving Repr, DecidableEq

structure SerializableMismatchedMeasurements where
  index : Int
  goldenSize : Int
  goldenValue : String
  runtimeSize : Int
  runtimeValue : String
  source : MeasurementSource
  deriving Repr, DecidableEq

def SerializableMismatchedMeasurements.toJson (m : SerializableMismatchedMeasurements) : Value :=
  object [
    ("index", .int m.index),
    ("goldenSize", .int m.goldenSize),
    ("goldenValue", .str m.goldenValue),
    ("runtimeSize", .int m.runtimeSize),
    ("runtimeValue", .str m.runtimeValue),
    ("measurementSource", enumToJson (.VBIOS, "Firmware") [(.DRIVER, "Driver")] m.source)]

def SerializableMismatchedMeasurements.fromJson (js : Value) :
    Except ReadFault SerializableMismatchedMeasurements := do
  return {
    index := ← field js "index" getUint32
    goldenSize := ← field js "goldenSize" getUint32
    goldenValue := ← field js "goldenValue" Value.getString
    runtimeSize := ← field js "runtimeSize" getUint32
    runtimeValue := ← field js "runtimeValue" Value.getString
    source := ← field js "measurementSource" fun v =>
      .ok (enumOfJson (.VBIOS, "Firmware") [(.DRIVER, "Driver")] v) }

structure SerializableGpuClaimsV3 where
  nonce : String := ""
  hwmodel : String := ""
  ueid : String := ""
  oemId : String := ""
  driverVersion : String := ""
  vbiosVersion : String := ""
  gpuSwitchPdis : List String := []
  measurementsMatching : SerializableMeasresClaim := .Failure
  gpuArchMatch : Bool := false
  secureBoot : Option Bool := none
  debugStatus : Option String := none
  mismatchedMeasurements : Option (List SerializableMismatchedMeasurements) := none
  arCertChain : SerializableCertChainClaims := {}
  arCertChainFwidMatch : Bool := false
  arParsed : Bool := false
  gpuArNonceMatch : Bool := false
  arSignatureVerified : Bool := false
  driverRimFetched : Bool := false
  driverRimCertChain : SerializableCertChainClaims := {}
  driverRimSignatureVerified : Bool := false
  gpuDriverRimVersionMatch : Bool := false
  driverRimMeasurementsAvailable : Bool := false
  vbiosRimFetched : Bool := false
  vbiosRimCertChain : SerializableCertChainClaims := {}
  gpuVbiosRimVersionMatch : Bool := false
  vbiosRimSignatureVerified : Bool := false
  vbiosRimMeasurementsAvailable : Bool := false
  vbiosIndexNoConflict : Bool := false
  mode : String := ""
  version : String := "3.0"
  deriving Repr, DecidableEq

def SerializableGpuClaimsV3.fromJson (js : Value) : Except ReadFault SerializableGpuClaimsV3 := do
  return {
    nonce := ← field js "eat_nonce" Value.getString
    measurementsMatching := ← field js "measres" fun v => .ok (SerializableMeasresClaim.fromJson v)
    secureBoot := ← deserializeOptional js "secboot" Value.getBool
    debugStatus := ← deserializeOptional js "dbgstat" Value.getString
    mismatchedMeasurements := ← deserializeOptional js "x-nvidia-mismatch-measurement-records"
      (Value.getArray SerializableMismatchedMeasurements.fromJson)
    gpuArchMatch := ← field js "x-nvidia-gpu-arch-check" Value.getBool
    hwmodel := ← field js "hwmodel" Value.getString
    ueid := ← field js "ueid" Value.getString
    oemId := ← field js "oemid" Value.getString
    driverVersion := ← field js "x-nvidia-gpu-driver-version" Value.getString
    vbiosVersion := ← field js "x-nvidia-gpu-vbios-version" Value.getString
    gpuSwitchPdis := ← fieldOr js "x-nvidia-gpu-switch-pdis" (Value.getArray Value.getString) []
    arCertChain := ← field js "x-nvidia-gpu-attestation-report-cert-chain"
      SerializableCertChainClaims.fromJson
    arCertChainFwidMatch :=
      ← field js "x-nvidia-gpu-attestation-report-cert-chain-fwid-match" Value.getBool
    arParsed := ← field js "x-nvidia-gpu-attestation-report-parsed" Value.getBool
    gpuArNonceMatch := ← field js "x-nvidia-gpu-attestation-report-nonce-match" Value.getBool
    arSignatureVerified :=
      ← field js "x-nvidia-gpu-attestation-report-signature-verified" Value.getBool
    driverRimFetched := ← field js "x-nvidia-gpu-driver-rim-fetched" Value.getBool
    driverRimCertChain := ← field js "x-nvidia-gpu-driver-rim-cert-chain"
      SerializableCertChainClaims.fromJson
    driverRimSignatureVerified :=
      ← field js "x-nvidia-gpu-driver-rim-signature-verified" Value.getBool
    gpuDriverRimVersionMatch := ← field js "x-nvidia-gpu-driver-rim-version-match" Value.getBool
    driverRimMeasurementsAvailable :=
      ← field js "x-nvidia-gpu-driver-rim-measurements-available" Value.getBool
    vbiosRimFetched := ← field js "x-nvidia-gpu-vbios-rim-fetched" Value.getBool
    vbiosRimCertChain := ← field js "x-nvidia-gpu-vbios-rim-cert-chain"
      SerializableCertChainClaims.fromJson
    gpuVbiosRimVersionMatch := ← field js "x-nvidia-gpu-vbios-rim-version-match" Value.getBool
    vbiosRimSignatureVerified :=
      ← field js "x-nvidia-gpu-vbios-rim-signature-verified" Value.getBool
    vbiosRimMeasurementsAvailable :=
      ← field js "x-nvidia-gpu-vbios-rim-measurements-available" Value.getBool
    vbiosIndexNoConflict := ← field js "x-nvidia-gpu-vbios-index-no-conflict" Value.getBool
    version := "3.0" }

def SerializableGpuClaimsV3.toJson (claims : SerializableGpuClaimsV3) : Value :=
  object ([
    ("eat_nonce", .str claims.nonce),
    ("measres", claims.measurementsMatching.toJson),
    ("secboot", serializeOptional .bool claims.secureBoot),
    ("dbgstat", serializeOptional .str claims.debugStatus),
    ("hwmodel", .str claims.hwmodel),
    ("ueid", .str claims.ueid),
    ("oemid", .str claims.oemId),
    ("x-nvidia-device-type", .str "gpu"),
    ("x-nvidia-mismatch-measurement-records", serializeOptional
      (fun ms => .arr (ms.map SerializableMismatchedMeasurements.toJson))
      claims.mismatchedMeasurements),
    ("x-nvidia-gpu-arch-check", .bool claims.gpuArchMatch),
    ("x-nvidia-gpu-driver-version", .str claims.driverVersion),
    ("x-nvidia-gpu-vbios-version", .str claims.vbiosVersion)] ++
    (if claims.gpuSwitchPdis.isEmpty then []
      else [("x-nvidia-gpu-switch-pdis", .arr (claims.gpuSwitchPdis.map .str))]) ++ [
    ("x-nvidia-gpu-attestation-report-cert-chain", claims.arCertChain.toJson),
    ("x-nvidia-gpu-attestation-report-cert-chain-fwid-match", .bool claims.arCertChainFwidMatch),
    ("x-nvidia-gpu-attestation-report-parsed", .bool claims.arParsed),
    ("x-nvidia-gpu-attestation-report-nonce-match", .bool claims.gpuArNonceMatch),
    ("x-nvidia-gpu-attestation-report-signature-verified", .bool claims.arSignatureVerified),
    ("x-nvidia-gpu-driver-rim-fetched", .bool claims.driverRimFetched),
    ("x-nvidia-gpu-driver-rim-cert-chain", claims.driverRimCertChain.toJson),
    ("x-nvidia-gpu-driver-rim-signature-verified", .bool claims.driverRimSignatureVerified),
    ("x-nvidia-gpu-driver-rim-version-match", .bool claims.gpuDriverRimVersionMatch),
    ("x-nvidia-gpu-driver-rim-measurements-available",
      .bool claims.driverRimMeasurementsAvailable),
    ("x-nvidia-gpu-vbios-rim-fetched", .bool claims.vbiosRimFetched),
    ("x-nvidia-gpu-vbios-rim-cert-chain", claims.vbiosRimCertChain.toJson),
    ("x-nvidia-gpu-vbios-rim-version-match", .bool claims.gpuVbiosRimVersionMatch),
    ("x-nvidia-gpu-vbios-rim-signature-verified", .bool claims.vbiosRimSignatureVerified),
    ("x-nvidia-gpu-vbios-rim-measurements-available", .bool claims.vbiosRimMeasurementsAvailable),
    ("x-nvidia-gpu-vbios-index-no-conflict", .bool claims.vbiosIndexNoConflict),
    ("x-nvidia-gpu-claims-version", .str "3.0")])

structure SerializableSwitchClaimsV3 where
  nonce : String := ""
  hwmodel : String := ""
  ueid : String := ""
  measurementsMatching : SerializableMeasresClaim := .Failure
  secureBoot : Option Bool := none
  debugStatus : Option String := none
  mismatchedMeasurements : Option (List SerializableMismatchedMeasurements) := none
  switchArchMatch : Bool := false
  switchArNonceMatch : Bool := false
  switchBiosVersion : String := ""
  switchPdi : String := ""
  switchGpuPdis : List String := []
  arCertChainClaims : SerializableCertChainClaims := {}
  arCertChainFwidMatch : Bool := false
  arParsed : Bool := false
  arSignatureVerified : Bool := false
  biosRimFetched : Bool := false
  biosRimCertChain : SerializableCertChainClaims := {}
  biosRimSignatureVerified : Bool := false
  switchBiosRimVersionMatch : Bool := false
  biosRimMeasurementsAvailable : Bool := false
  version : String := "3.0"
  deriving Repr, DecidableEq

def SerializableSwitchClaimsV3.fromJson (js : Value) :
    Except ReadFault SerializableSwitchClaimsV3 := do
  return {
    nonce := ← field js "eat_nonce" Value.getString
    measurementsMatching := ← field js "measres" fun v => .ok (SerializableMeasresClaim.fromJson v)
    secureBoot := ← deserializeOptional js "secboot" Value.getBool
    debugStatus := ← deserializeOptional js "dbgstat" Value.getString
    mismatchedMeasurements := ← deserializeOptional js "x-nvidia-mismatch-measurement-records"
      (Value.getArray SerializableMismatchedMeasurements.fromJson)
    hwmodel := ← field js "hwmodel" Value.getString
    ueid := ← field js "ueid" Value.getString
    switchArchMatch := ← field js "x-nvidia-switch-arch-check" Value.getBool
    switchBiosVersion := ← field js "x-nvidia-switch-bios-version" Value.getString
    switchPdi := ← fieldOr js "x-nvidia-switch-pdi" Value.getString ""
    switchGpuPdis := ← fieldOr js "x-nvidia-switch-gpu-pdis" (Value.getArray Value.getString) []
    arCertChainClaims := ← field js "x-nvidia-switch-attestation-report-cert-chain"
      SerializableCertChainClaims.fromJson
    arCertChainFwidMatch :=
      ← field js "x-nvidia-switch-attestation-report-cert-chain-fwid-match" Value.getBool
    arParsed := ← field js "x-nvidia-switch-attestation-report-parsed" Value.getBool
    switchArNonceMatch :=
      ← field js "x-nvidia-switch-attestation-report-nonce-match" Value.getBool
    arSignatureVerified :=
      ← field js "x-nvidia-switch-attestation-report-signature-verified" Value.getBool
    biosRimFetched := ← field js "x-nvidia-switch-bios-rim-fetched" Value.getBool
    biosRimCertChain := ← field js "x-nvidia-switch-bios-rim-cert-chain"
      SerializableCertChainClaims.fromJson
    biosRimSignatureVerified :=
      ← field js "x-nvidia-switch-bios-rim-signature-verified" Value.getBool
    switchBiosRimVersionMatch :=
      ← field js "x-nvidia-switch-bios-rim-version-match" Value.getBool
    biosRimMeasurementsAvailable :=
      ← field js "x-nvidia-switch-bios-rim-measurements-available" Value.getBool
    version := "3.0" }

def SerializableSwitchClaimsV3.toJson (claims : SerializableSwitchClaimsV3) : Value :=
  object ([
    ("eat_nonce", .str claims.nonce),
    ("measres", claims.measurementsMatching.toJson),
    ("secboot", serializeOptional .bool claims.secureBoot),
    ("dbgstat", serializeOptional .str claims.debugStatus),
    ("x-nvidia-device-type", .str "nvswitch"),
    ("x-nvidia-mismatch-measurement-records", serializeOptional
      (fun ms => .arr (ms.map SerializableMismatchedMeasurements.toJson))
      claims.mismatchedMeasurements),
    ("hwmodel", .str claims.hwmodel),
    ("ueid", .str claims.ueid),
    ("x-nvidia-switch-arch-check", .bool claims.switchArchMatch),
    ("x-nvidia-switch-bios-version", .str claims.switchBiosVersion)] ++
    (if claims.switchPdi.isEmpty then [] else [("x-nvidia-switch-pdi", .str claims.switchPdi)]) ++
    (if claims.switchGpuPdis.isEmpty then []
      else [("x-nvidia-switch-gpu-pdis", .arr (claims.switchGpuPdis.map .str))]) ++ [
    ("x-nvidia-switch-attestation-report-cert-chain", claims.arCertChainClaims.toJson),
    ("x-nvidia-switch-attestation-report-cert-chain-fwid-match",
      .bool claims.arCertChainFwidMatch),
    ("x-nvidia-switch-attestation-report-parsed", .bool claims.arParsed),
    ("x-nvidia-switch-attestation-report-nonce-match", .bool claims.switchArNonceMatch),
    ("x-nvidia-switch-attestation-report-signature-verified", .bool claims.arSignatureVerified),
    ("x-nvidia-switch-bios-rim-fetched", .bool claims.biosRimFetched),
    ("x-nvidia-switch-bios-rim-cert-chain", claims.biosRimCertChain.toJson),
    ("x-nvidia-switch-bios-rim-signature-verified", .bool claims.biosRimSignatureVerified),
    ("x-nvidia-switch-bios-rim-version-match", .bool claims.switchBiosRimVersionMatch),
    ("x-nvidia-switch-bios-rim-measurements-available", .bool claims.biosRimMeasurementsAvailable),
    ("x-nvidia-version", .str "3.0")])

/-- `Claims` with its two implementations. -/
inductive DeviceClaims where
  | gpu (claims : SerializableGpuClaimsV3)
  | switch (claims : SerializableSwitchClaimsV3)
  deriving Repr, DecidableEq

namespace DeviceClaims

def getNonce : DeviceClaims → String
  | .gpu claims => claims.nonce
  | .switch claims => claims.nonce

def getDeviceType : DeviceClaims → String
  | .gpu _ => "gpu"
  | .switch _ => "switch"

def toJsonObject : DeviceClaims → Value
  | .gpu claims => claims.toJson
  | .switch claims => claims.toJson

def measurementsMatching : DeviceClaims → SerializableMeasresClaim
  | .gpu claims => claims.measurementsMatching
  | .switch claims => claims.measurementsMatching

end DeviceClaims

theorem member_measres (claims : DeviceClaims) :
    claims.toJsonObject.member? "measres" = some claims.measurementsMatching.toJson := by
  cases claims with
  | gpu claims =>
    by_cases h : claims.gpuSwitchPdis.isEmpty <;>
      simp [DeviceClaims.toJsonObject, SerializableGpuClaimsV3.toJson, member?_object, h,
        lookup_cons_ite, DeviceClaims.measurementsMatching]
  | switch claims =>
    by_cases h : claims.switchPdi.isEmpty <;> by_cases h' : claims.switchGpuPdis.isEmpty <;>
      simp [DeviceClaims.toJsonObject, SerializableSwitchClaimsV3.toJson, member?_object, h, h',
        lookup_cons_ite, DeviceClaims.measurementsMatching]

theorem toJsonObject_obj (claims : DeviceClaims) :
    ∃ members, claims.toJsonObject = .obj members ∧ Increasing members := by
  cases claims with
  | gpu claims => exact ⟨_, rfl, assignAll_increasing List.Pairwise.nil⟩
  | switch claims => exact ⟨_, rfl, assignAll_increasing List.Pairwise.nil⟩

/-- No device claim stands under a key of the common token claims. -/
theorem member_common (claims : DeviceClaims) {key : String}
    (h : key ∈ ["iat", "exp", "jti", "iss"]) : claims.toJsonObject.member? key = none := by
  simp only [List.mem_cons, List.not_mem_nil, or_false] at h
  cases claims with
  | gpu claims =>
    by_cases hpdis : claims.gpuSwitchPdis.isEmpty <;> rcases h with rfl | rfl | rfl | rfl <;>
      simp [DeviceClaims.toJsonObject, SerializableGpuClaimsV3.toJson, member?_object, hpdis,
        lookup_cons_ite]
  | switch claims =>
    by_cases hpdi : claims.switchPdi.isEmpty <;> by_cases hpdis : claims.switchGpuPdis.isEmpty <;>
      rcases h with rfl | rfl | rfl | rfl <;>
        simp [DeviceClaims.toJsonObject, SerializableSwitchClaimsV3.toJson, member?_object, hpdi,
          hpdis, lookup_cons_ite]

end AttestationSdk.Claims
