import AttestationSdk.DeviceClaims

/-! Device claims read back from the JSON they are written as. -/
namespace AttestationSdk.Claims
open Json ExceptRules KeyedList

section Reading
variable {α : Type} {assigned : List (String × Value)} {key : String} {v : Value} {a : α}
  {read : Value → Except ReadFault α}

theorem field_written (hdistinct : Distinct assigned) (hmem : (key, v) ∈ assigned)
    (hread : read v = .ok a) : field (object assigned) key read = .ok a := by
  rw [field, Value.atKey, member?_of_mem hdistinct hmem]
  exact hread

theorem fieldOr_written (hdistinct : Distinct assigned) (hmem : (key, v) ∈ assigned)
    (hread : read v = .ok a) {missing : α} :
    fieldOr (object assigned) key read missing = .ok a := by
  rw [fieldOr, Value.contains, member?_of_mem hdistinct hmem]
  exact field_written hdistinct hmem hread

theorem fieldOr_missing (h : key ∉ keys assigned) {missing : α} :
    fieldOr (object assigned) key read missing = .ok missing := by
  rw [fieldOr, Value.contains, member?_of_not_mem h]
  rfl

theorem deserializeOptional_written {write : α → Value} {o : Option α}
    (hdistinct : Distinct assigned) (hmem : (key, serializeOptional write o) ∈ assigned)
    (hnull : ∀ a, (write a).isNull = false) (hread : ∀ a, o = some a → read (write a) = .ok a) :
    deserializeOptional (object assigned) key read = .ok o := by
  rw [deserializeOptional, member?_of_mem hdistinct hmem]
  cases o with
  | none => rfl
  | some a =>
    simp only [serializeOptional, hnull a, hread a rfl]
    rfl

theorem getArray_map {write : α → Value} {values : List α}
    (hread : ∀ a ∈ values, read (write a) = .ok a) :
    Value.getArray read (.arr (values.map write)) = .ok values := by
  rw [Value.getArray, mapM_eq_ok, List.forall₂_map_left_iff, List.forall₂_same]
  exact hread

end Reading

/-- The integers of a signed-age block are of their types. -/
structure SerializableSignedAgeStatus.Fits (status : SerializableSignedAgeStatus) : Prop where
  version : -2147483648 ≤ status.version ∧ status.version < 2147483648
  verificationTimeUnix : -9223372036854775808 ≤ status.verificationTimeUnix ∧
    status.verificationTimeUnix < 9223372036854775808
  statusDeadlineUnix : -9223372036854775808 ≤ status.statusDeadlineUnix ∧
    status.statusDeadlineUnix < 9223372036854775808
  oldestThisUpdateUnix : -9223372036854775808 ≤ status.oldestThisUpdateUnix ∧
    status.oldestThisUpdateUnix < 9223372036854775808
  coveredCertificates : 0 ≤ status.coveredCertificates ∧
    status.coveredCertificates < 18446744073709551616

def SerializableCertChainClaims.Fits (claims : SerializableCertChainClaims) : Prop :=
  ∀ status, claims.ocspSignedAge = some status → status.Fits

structure SerializableMismatchedMeasurements.Fits (m : SerializableMismatchedMeasurements) :
    Prop where
  index : 0 ≤ m.index ∧ m.index < 4294967296
  goldenSize : 0 ≤ m.goldenSize ∧ m.goldenSize < 4294967296
  runtimeSize : 0 ≤ m.runtimeSize ∧ m.runtimeSize < 4294967296

theorem SerializableSignedAgeStatus.fromJson_toJson {status : SerializableSignedAgeStatus}
    (h : status.Fits) : fromJson status.toJson = .ok status := by
  rw [toJson]
  generalize hassigned : (_ :: _ : List (String × Value)) = assigned
  have hdistinct : Distinct assigned := by
    rw [← hassigned]
    exact (by decide : ["version", "mode", "verification_time_unix", "status_deadline_unix",
      "oldest_this_update_unix", "covered_certificates"].Nodup)
  have hint {key : String} {lo size : Int} (n : Int) (hmem : (key, .int n) ∈ assigned)
      (hfits : lo ≤ n ∧ n < lo + size) :
      field (object assigned) key (Value.getInteger lo size) = .ok n :=
    field_written hdistinct hmem (getInteger_of_fits hfits.1 hfits.2)
  rw [fromJson]
  refine bind_eq_ok.mpr ⟨_, hint status.version (by simp [← hassigned]) h.version, ?_⟩
  refine bind_eq_ok.mpr ⟨_, hint status.verificationTimeUnix (by simp [← hassigned])
    h.verificationTimeUnix, ?_⟩
  refine bind_eq_ok.mpr ⟨_, hint status.statusDeadlineUnix (by simp [← hassigned])
    h.statusDeadlineUnix, ?_⟩
  refine bind_eq_ok.mpr ⟨_, hint status.oldestThisUpdateUnix (by simp [← hassigned])
    h.oldestThisUpdateUnix, ?_⟩
  exact bind_eq_ok.mpr ⟨_, hint status.coveredCertificates (by simp [← hassigned])
    h.coveredCertificates, rfl⟩

theorem SerializableMismatchedMeasurements.fromJson_toJson
    {m : SerializableMismatchedMeasurements} (h : m.Fits) : fromJson m.toJson = .ok m := by
  rw [toJson]
  generalize hassigned : (_ :: _ : List (String × Value)) = assigned
  have hdistinct : Distinct assigned := by
    rw [← hassigned]
    exact (by decide : ["index", "goldenSize", "goldenValue", "runtimeSize", "runtimeValue",
      "measurementSource"].Nodup)
  have hint {key : String} (n : Int) (hmem : (key, .int n) ∈ assigned)
      (hfits : 0 ≤ n ∧ n < 4294967296) : field (object assigned) key getUint32 = .ok n := by
    have hread : getUint32 (.int n) = .ok n := getInteger_of_fits hfits.1 (by omega)
    exact field_written hdistinct hmem hread
  have hstr {key : String} (s : String) (hmem : (key, .str s) ∈ assigned) :
      field (object assigned) key Value.getString = .ok s := field_written hdistinct hmem rfl
  have hsource : enumOfJson (.VBIOS, "Firmware") [(.DRIVER, "Driver")]
      (enumToJson (.VBIOS, "Firmware") [(.DRIVER, "Driver")] m.source) = m.source := by
    generalize m.source = source
    cases source <;> decide
  rw [fromJson]
  refine bind_eq_ok.mpr ⟨_, hint m.index (by simp [← hassigned]) h.index, ?_⟩
  refine bind_eq_ok.mpr ⟨_, hint m.goldenSize (by simp [← hassigned]) h.goldenSize, ?_⟩
  refine bind_eq_ok.mpr ⟨_, hstr m.goldenValue (by simp [← hassigned]), ?_⟩
  refine bind_eq_ok.mpr ⟨_, hint m.runtimeSize (by simp [← hassigned]) h.runtimeSize, ?_⟩
  refine bind_eq_ok.mpr ⟨_, hstr m.runtimeValue (by simp [← hassigned]), ?_⟩
  refine bind_eq_ok.mpr ⟨m.source, ?_, rfl⟩
  have hmem : ("measurementSource", enumToJson (.VBIOS, "Firmware") [(.DRIVER, "Driver")] m.source)
      ∈ assigned := by simp [← hassigned]
  exact field_written hdistinct hmem (congrArg Except.ok hsource)

theorem SerializableCertChainClaims.fromJson_toJson {claims : SerializableCertChainClaims}
    (h : claims.Fits) : fromJson claims.toJson = .ok claims := by
  rw [toJson]
  generalize hassigned : (_ ++ _ : List (String × Value)) = assigned
  have hdistinct : Distinct assigned := by
    rw [← hassigned]
    cases claims.ocspSignedAge with
    | none =>
      exact (by decide : ["x-nvidia-cert-expiration-date", "x-nvidia-cert-status",
        "x-nvidia-cert-ocsp-status", "x-nvidia-cert-revocation-reason",
        "x-nvidia-cert-ocsp-nonce-matches", "x-nvidia-cert-ocsp-response-valid"].Nodup)
    | some status =>
      exact (by decide : ["x-nvidia-cert-expiration-date", "x-nvidia-cert-status",
        "x-nvidia-cert-ocsp-status", "x-nvidia-cert-revocation-reason",
        "x-nvidia-cert-ocsp-nonce-matches", "x-nvidia-cert-ocsp-response-valid",
        "x-sol-cert-ocsp-signed-age"].Nodup)
  have hstr {key : String} (s : String) (hmem : (key, .str s) ∈ assigned) :
      field (object assigned) key Value.getString = .ok s := field_written hdistinct hmem rfl
  have hbool {key : String} (b : Bool) (hmem : (key, .bool b) ∈ assigned) :
      fieldOr (object assigned) key Value.getBool true = .ok b := by
    have hread : Value.getBool (.bool b) = .ok b := rfl
    exact fieldOr_written hdistinct hmem hread
  have hage : fieldOr (object assigned) "x-sol-cert-ocsp-signed-age"
      (fun v => (SerializableSignedAgeStatus.fromJson v).map some) none =
        .ok claims.ocspSignedAge := by
    cases hstatus : claims.ocspSignedAge with
    | none =>
      refine fieldOr_missing ?_
      simp [← hassigned, hstatus]
    | some status =>
      have hmem : ("x-sol-cert-ocsp-signed-age", status.toJson) ∈ assigned := by
        simp [← hassigned, hstatus]
      refine fieldOr_written hdistinct hmem ?_
      rw [SerializableSignedAgeStatus.fromJson_toJson (h status hstatus)]
      rfl
  rw [fromJson]
  refine bind_eq_ok.mpr ⟨_, hstr claims.certExpirationDate (by simp [← hassigned]), ?_⟩
  refine bind_eq_ok.mpr ⟨_, hstr claims.certStatus (by simp [← hassigned]), ?_⟩
  refine bind_eq_ok.mpr ⟨_, hstr claims.certOcspStatus (by simp [← hassigned]), ?_⟩
  have hreason : ("x-nvidia-cert-revocation-reason",
      serializeOptional .str claims.certRevocationReason) ∈ assigned := by simp [← hassigned]
  refine bind_eq_ok.mpr ⟨claims.certRevocationReason, deserializeOptional_written hdistinct hreason
    (fun _ => rfl) (fun _ _ => rfl), ?_⟩
  refine bind_eq_ok.mpr ⟨_, hbool claims.ocspNonceMatches (by simp [← hassigned]), ?_⟩
  refine bind_eq_ok.mpr ⟨_, hbool claims.ocspResponseValid (by simp [← hassigned]), ?_⟩
  exact bind_eq_ok.mpr ⟨_, hage, rfl⟩

section Members
variable {assigned : List (String × Value)} {key : String}

theorem str_written (hdistinct : Distinct assigned) (s : String)
    (hmem : (key, .str s) ∈ assigned) : field (object assigned) key Value.getString = .ok s :=
  field_written hdistinct hmem rfl

theorem bool_written (hdistinct : Distinct assigned) (b : Bool)
    (hmem : (key, .bool b) ∈ assigned) : field (object assigned) key Value.getBool = .ok b :=
  field_written hdistinct hmem rfl

theorem measres_written {m : SerializableMeasresClaim} (hdistinct : Distinct assigned)
    (hmem : (key, m.toJson) ∈ assigned) :
    field (object assigned) key (fun v => .ok (SerializableMeasresClaim.fromJson v)) = .ok m := by
  refine field_written hdistinct hmem (congrArg Except.ok ?_)
  cases m <;> decide

theorem records_written {records : Option (List SerializableMismatchedMeasurements)}
    (hdistinct : Distinct assigned) (hmem : (key, serializeOptional
      (fun ms => .arr (ms.map SerializableMismatchedMeasurements.toJson)) records) ∈ assigned)
    (hfits : ∀ ms, records = some ms → ∀ m ∈ ms, m.Fits) :
    deserializeOptional (object assigned) key
      (Value.getArray SerializableMismatchedMeasurements.fromJson) = .ok records := by
  refine deserializeOptional_written hdistinct hmem (fun _ => rfl) fun ms hms => ?_
  exact getArray_map fun m hm =>
    SerializableMismatchedMeasurements.fromJson_toJson (hfits ms hms m hm)

/-- A list of texts that is left out when it is empty. -/
theorem texts_written {texts : List String} (hdistinct : Distinct assigned)
    (hempty : texts = [] → key ∉ keys assigned)
    (hmem : texts ≠ [] → (key, .arr (texts.map .str)) ∈ assigned) :
    fieldOr (object assigned) key (Value.getArray Value.getString) [] = .ok texts := by
  by_cases h : texts = []
  · rw [fieldOr_missing (hempty h), h]
  · exact fieldOr_written hdistinct (hmem h) (getArray_map fun _ _ => rfl)

theorem chain_written {claims : SerializableCertChainClaims} (hdistinct : Distinct assigned)
    (hmem : (key, claims.toJson) ∈ assigned) (hfits : claims.Fits) :
    field (object assigned) key SerializableCertChainClaims.fromJson = .ok claims :=
  field_written hdistinct hmem (SerializableCertChainClaims.fromJson_toJson hfits)

end Members

/-- The integers in the claims are of their types. -/
structure SerializableGpuClaimsV3.Fits (claims : SerializableGpuClaimsV3) : Prop where
  records : ∀ ms, claims.mismatchedMeasurements = some ms → ∀ m ∈ ms, m.Fits
  arCertChain : claims.arCertChain.Fits
  driverRimCertChain : claims.driverRimCertChain.Fits
  vbiosRimCertChain : claims.vbiosRimCertChain.Fits

structure SerializableSwitchClaimsV3.Fits (claims : SerializableSwitchClaimsV3) : Prop where
  records : ∀ ms, claims.mismatchedMeasurements = some ms → ∀ m ∈ ms, m.Fits
  arCertChainClaims : claims.arCertChainClaims.Fits
  biosRimCertChain : claims.biosRimCertChain.Fits

theorem SerializableGpuClaimsV3.fromJson_toJson {claims : SerializableGpuClaimsV3}
    (h : claims.Fits) :
    fromJson claims.toJson = .ok { claims with mode := "", version := "3.0" } := by
  rw [toJson]
  generalize hassigned : (_ ++ _ : List (String × Value)) = assigned
  have hdistinct : Distinct assigned := by
    rw [← hassigned, Distinct]
    by_cases hempty : claims.gpuSwitchPdis.isEmpty
    · simp [hempty]
    · simp [hempty]
  have hmeasures : ("measres", claims.measurementsMatching.toJson) ∈ assigned := by
    simp [← hassigned]
  have hsecure : ("secboot", serializeOptional .bool claims.secureBoot) ∈ assigned := by
    simp [← hassigned]
  have hdebug : ("dbgstat", serializeOptional .str claims.debugStatus) ∈ assigned := by
    simp [← hassigned]
  have hrecords : ("x-nvidia-mismatch-measurement-records", serializeOptional
      (fun ms => .arr (ms.map SerializableMismatchedMeasurements.toJson))
      claims.mismatchedMeasurements) ∈ assigned := by
    simp [← hassigned]
  have hpdis : fieldOr (object assigned) "x-nvidia-gpu-switch-pdis"
      (Value.getArray Value.getString) [] = .ok claims.gpuSwitchPdis := by
    refine texts_written hdistinct (fun hempty => ?_) fun hsome => ?_
    · simp [← hassigned, hempty]
    · simp [← hassigned, hsome]
  rw [fromJson]
  refine bind_eq_ok.mpr ⟨_, str_written hdistinct claims.nonce (by simp [← hassigned]), ?_⟩
  refine bind_eq_ok.mpr ⟨_, measres_written hdistinct hmeasures, ?_⟩
  refine bind_eq_ok.mpr ⟨_, deserializeOptional_written hdistinct hsecure (fun _ => rfl)
    (fun _ _ => rfl), ?_⟩
  refine bind_eq_ok.mpr ⟨_, deserializeOptional_written hdistinct hdebug (fun _ => rfl)
    (fun _ _ => rfl), ?_⟩
  refine bind_eq_ok.mpr ⟨_, records_written hdistinct hrecords h.records, ?_⟩
  refine bind_eq_ok.mpr ⟨_, bool_written hdistinct claims.gpuArchMatch (by simp [← hassigned]), ?_⟩
  refine bind_eq_ok.mpr ⟨_, str_written hdistinct claims.hwmodel (by simp [← hassigned]), ?_⟩
  refine bind_eq_ok.mpr ⟨_, str_written hdistinct claims.ueid (by simp [← hassigned]), ?_⟩
  refine bind_eq_ok.mpr ⟨_, str_written hdistinct claims.oemId (by simp [← hassigned]), ?_⟩
  refine bind_eq_ok.mpr ⟨_, str_written hdistinct claims.driverVersion (by simp [← hassigned]), ?_⟩
  refine bind_eq_ok.mpr ⟨_, str_written hdistinct claims.vbiosVersion (by simp [← hassigned]), ?_⟩
  refine bind_eq_ok.mpr ⟨_, hpdis, ?_⟩
  refine bind_eq_ok.mpr ⟨_, chain_written hdistinct (by simp [← hassigned]) h.arCertChain, ?_⟩
  refine bind_eq_ok.mpr ⟨_, bool_written hdistinct claims.arCertChainFwidMatch
    (by simp [← hassigned]), ?_⟩
  refine bind_eq_ok.mpr ⟨_, bool_written hdistinct claims.arParsed (by simp [← hassigned]), ?_⟩
  refine bind_eq_ok.mpr ⟨_, bool_written hdistinct claims.gpuArNonceMatch
    (by simp [← hassigned]), ?_⟩
  refine bind_eq_ok.mpr ⟨_, bool_written hdistinct claims.arSignatureVerified
    (by simp [← hassigned]), ?_⟩
  refine bind_eq_ok.mpr ⟨_, bool_written hdistinct claims.driverRimFetched
    (by simp [← hassigned]), ?_⟩
  refine bind_eq_ok.mpr ⟨_, chain_written hdistinct (by simp [← hassigned])
    h.driverRimCertChain, ?_⟩
  refine bind_eq_ok.mpr ⟨_, bool_written hdistinct claims.driverRimSignatureVerified
    (by simp [← hassigned]), ?_⟩
  refine bind_eq_ok.mpr ⟨_, bool_written hdistinct claims.gpuDriverRimVersionMatch
    (by simp [← hassigned]), ?_⟩
  refine bind_eq_ok.mpr ⟨_, bool_written hdistinct claims.driverRimMeasurementsAvailable
    (by simp [← hassigned]), ?_⟩
  refine bind_eq_ok.mpr ⟨_, bool_written hdistinct claims.vbiosRimFetched
    (by simp [← hassigned]), ?_⟩
  refine bind_eq_ok.mpr ⟨_, chain_written hdistinct (by simp [← hassigned]) h.vbiosRimCertChain, ?_⟩
  refine bind_eq_ok.mpr ⟨_, bool_written hdistinct claims.gpuVbiosRimVersionMatch
    (by simp [← hassigned]), ?_⟩
  refine bind_eq_ok.mpr ⟨_, bool_written hdistinct claims.vbiosRimSignatureVerified
    (by simp [← hassigned]), ?_⟩
  refine bind_eq_ok.mpr ⟨_, bool_written hdistinct claims.vbiosRimMeasurementsAvailable
    (by simp [← hassigned]), ?_⟩
  exact bind_eq_ok.mpr ⟨_, bool_written hdistinct claims.vbiosIndexNoConflict
    (by simp [← hassigned]), rfl⟩

theorem SerializableSwitchClaimsV3.fromJson_toJson {claims : SerializableSwitchClaimsV3}
    (h : claims.Fits) : fromJson claims.toJson = .ok { claims with version := "3.0" } := by
  rw [toJson]
  generalize hassigned : (_ ++ _ : List (String × Value)) = assigned
  have hdistinct : Distinct assigned := by
    rw [← hassigned, Distinct]
    by_cases hpdi : claims.switchPdi.isEmpty
    · by_cases hpdis : claims.switchGpuPdis.isEmpty
      · simp [hpdi, hpdis]
      · simp [hpdi, hpdis]
    · by_cases hpdis : claims.switchGpuPdis.isEmpty
      · simp [hpdi, hpdis]
      · simp [hpdi, hpdis]
  have hmeasures : ("measres", claims.measurementsMatching.toJson) ∈ assigned := by
    simp [← hassigned]
  have hsecure : ("secboot", serializeOptional .bool claims.secureBoot) ∈ assigned := by
    simp [← hassigned]
  have hdebug : ("dbgstat", serializeOptional .str claims.debugStatus) ∈ assigned := by
    simp [← hassigned]
  have hrecords : ("x-nvidia-mismatch-measurement-records", serializeOptional
      (fun ms => .arr (ms.map SerializableMismatchedMeasurements.toJson))
      claims.mismatchedMeasurements) ∈ assigned := by
    simp [← hassigned]
  have hpdi : fieldOr (object assigned) "x-nvidia-switch-pdi" Value.getString "" =
      .ok claims.switchPdi := by
    by_cases hempty : claims.switchPdi = ""
    · rw [fieldOr_missing (by simp [← hassigned, hempty, apply_ite keys]), hempty]
    · have hmem : ("x-nvidia-switch-pdi", .str claims.switchPdi) ∈ assigned := by
        simp [← hassigned, hempty]
      have hread : Value.getString (.str claims.switchPdi) = .ok claims.switchPdi := rfl
      exact fieldOr_written hdistinct hmem hread
  have hpdis : fieldOr (object assigned) "x-nvidia-switch-gpu-pdis"
      (Value.getArray Value.getString) [] = .ok claims.switchGpuPdis := by
    refine texts_written hdistinct (fun hempty => ?_) fun hsome => ?_
    · simp [← hassigned, hempty, apply_ite keys]
    · simp [← hassigned, hsome]
  rw [fromJson]
  refine bind_eq_ok.mpr ⟨_, str_written hdistinct claims.nonce (by simp [← hassigned]), ?_⟩
  refine bind_eq_ok.mpr ⟨_, measres_written hdistinct hmeasures, ?_⟩
  refine bind_eq_ok.mpr ⟨_, deserializeOptional_written hdistinct hsecure (fun _ => rfl)
    (fun _ _ => rfl), ?_⟩
  refine bind_eq_ok.mpr ⟨_, deserializeOptional_written hdistinct hdebug (fun _ => rfl)
    (fun _ _ => rfl), ?_⟩
  refine bind_eq_ok.mpr ⟨_, records_written hdistinct hrecords h.records, ?_⟩
  refine bind_eq_ok.mpr ⟨_, str_written hdistinct claims.hwmodel (by simp [← hassigned]), ?_⟩
  refine bind_eq_ok.mpr ⟨_, str_written hdistinct claims.ueid (by simp [← hassigned]), ?_⟩
  refine bind_eq_ok.mpr ⟨_, bool_written hdistinct claims.switchArchMatch
    (by simp [← hassigned]), ?_⟩
  refine bind_eq_ok.mpr ⟨_, str_written hdistinct claims.switchBiosVersion
    (by simp [← hassigned]), ?_⟩
  refine bind_eq_ok.mpr ⟨_, hpdi, ?_⟩
  refine bind_eq_ok.mpr ⟨_, hpdis, ?_⟩
  refine bind_eq_ok.mpr ⟨_, chain_written hdistinct (by simp [← hassigned]) h.arCertChainClaims, ?_⟩
  refine bind_eq_ok.mpr ⟨_, bool_written hdistinct claims.arCertChainFwidMatch
    (by simp [← hassigned]), ?_⟩
  refine bind_eq_ok.mpr ⟨_, bool_written hdistinct claims.arParsed (by simp [← hassigned]), ?_⟩
  refine bind_eq_ok.mpr ⟨_, bool_written hdistinct claims.switchArNonceMatch
    (by simp [← hassigned]), ?_⟩
  refine bind_eq_ok.mpr ⟨_, bool_written hdistinct claims.arSignatureVerified
    (by simp [← hassigned]), ?_⟩
  refine bind_eq_ok.mpr ⟨_, bool_written hdistinct claims.biosRimFetched
    (by simp [← hassigned]), ?_⟩
  refine bind_eq_ok.mpr ⟨_, chain_written hdistinct (by simp [← hassigned]) h.biosRimCertChain, ?_⟩
  refine bind_eq_ok.mpr ⟨_, bool_written hdistinct claims.biosRimSignatureVerified
    (by simp [← hassigned]), ?_⟩
  refine bind_eq_ok.mpr ⟨_, bool_written hdistinct claims.switchBiosRimVersionMatch
    (by simp [← hassigned]), ?_⟩
  exact bind_eq_ok.mpr ⟨_, bool_written hdistinct claims.biosRimMeasurementsAvailable
    (by simp [← hassigned]), rfl⟩

/-- Claims read back from their JSON are as they were, less what is not written: the mode of a GPU
is that of a fresh object, and the version is 3.0, as it is wherever claims are made. -/
theorem claims_survive :
    (∀ claims : SerializableGpuClaimsV3, claims.Fits →
      ∃ back, SerializableGpuClaimsV3.fromJson claims.toJson = .ok back ∧
        back = { claims with mode := "", version := "3.0" } ∧ back.toJson = claims.toJson) ∧
    ∀ claims : SerializableSwitchClaimsV3, claims.Fits →
      ∃ back, SerializableSwitchClaimsV3.fromJson claims.toJson = .ok back ∧
        back = { claims with version := "3.0" } ∧ back.toJson = claims.toJson :=
  ⟨fun _ h => ⟨_, SerializableGpuClaimsV3.fromJson_toJson h, rfl, rfl⟩,
    fun _ h => ⟨_, SerializableSwitchClaimsV3.fromJson_toJson h, rfl, rfl⟩⟩

namespace Sample

def agedChain : SerializableCertChainClaims :=
  { certStatus := "valid", certRevocationReason := some "keyCompromise", ocspSignedAge := some {} }

def records : List SerializableMismatchedMeasurements := [⟨9, 48, "aa", 0, "NA", .DRIVER⟩]

def gpuClaims : SerializableGpuClaimsV3 :=
  { nonce := "ab", gpuSwitchPdis := ["00"], secureBoot := some true, arCertChain := agedChain,
    mismatchedMeasurements := some records, measurementsMatching := .Absent, mode := "SPT" }

def switchClaims : SerializableSwitchClaimsV3 :=
  { nonce := "ab", switchPdi := "01", biosRimCertChain := agedChain,
    mismatchedMeasurements := some records }

theorem agedChain_fits : agedChain.Fits := by
  intro status hstatus
  obtain rfl : {} = status := Option.some.inj hstatus
  exact ⟨by decide, by decide, by decide, by decide, by decide⟩

theorem emptyChain_fits : SerializableCertChainClaims.Fits {} := fun _ h => by cases h

theorem records_fit : ∀ ms, some records = some ms → ∀ m ∈ ms, m.Fits := by
  intro ms hms m hm
  obtain rfl := Option.some.inj hms
  obtain rfl := List.mem_singleton.mp hm
  exact ⟨by decide, by decide, by decide⟩

theorem gpuClaims_fit : gpuClaims.Fits :=
  ⟨records_fit, agedChain_fits, emptyChain_fits, emptyChain_fits⟩

theorem switchClaims_fit : switchClaims.Fits := ⟨records_fit, emptyChain_fits, agedChain_fits⟩

end Sample

theorem claims_survive_samples :
    (∃ back, SerializableGpuClaimsV3.fromJson Sample.gpuClaims.toJson = .ok back ∧
      back = { Sample.gpuClaims with mode := "", version := "3.0" } ∧
      back.toJson = Sample.gpuClaims.toJson) ∧
    ∃ back, SerializableSwitchClaimsV3.fromJson Sample.switchClaims.toJson = .ok back ∧
      back = { Sample.switchClaims with version := "3.0" } ∧
      back.toJson = Sample.switchClaims.toJson :=
  ⟨claims_survive.1 _ Sample.gpuClaims_fit, claims_survive.2 _ Sample.switchClaims_fit⟩

/-- Another version than the one that is written does not come back. -/
theorem version_not_restored :
    ¬ ∀ claims back : SerializableGpuClaimsV3, claims.Fits →
      SerializableGpuClaimsV3.fromJson claims.toJson = .ok back →
        { back with mode := claims.mode } = claims := by
  intro h
  have hfits : SerializableGpuClaimsV3.Fits { version := "2.0" } :=
    ⟨fun _ hms => (by cases hms), Sample.emptyChain_fits, Sample.emptyChain_fits,
      Sample.emptyChain_fits⟩
  have hsame := h _ _ hfits (SerializableGpuClaimsV3.fromJson_toJson hfits)
  exact absurd (congrArg SerializableGpuClaimsV3.version hsame) (by decide)

end AttestationSdk.Claims
