import Mathlib.Data.List.Basic

/-! Return codes of the SDK and the ways a modelled call can end. -/
namespace AttestationSdk

/-- The type-safe return codes of `error.h`. -/
inductive Error where
  | Ok | Unknown | InternalError | NotInitialized | BadArgument | AllocFailed
  | FeatureNotEnabled | XmlInitFailed | RelyingPartyPolicyMismatch | OverallResultFalse
  | RimForbidden | RimInternalError | RimConnectionError | RimNotFound
  | RimInvalidSignature | RimInvalidSchema | RimMeasurementNotFound | RimMeasurementConflict
  | NrasAttestationError | NrasTokenInvalid | NrasForbidden
  | OcspInvalidResponse | OcspServerError | OcspInvalidRequest | OcspStatusNotGood
  | OcspForbidden | PolicyEvaluationError
  | SpdmParseError | SpdmOpaqueDataParseError | SpdmMeasurementRecordParseError
  | SpdmRequestParseError | SpdmFieldNotFound
  | NvmlInitFailed | NvmlError
  | GpuArchitectureNotSupported | GpuEvidenceInvalid | GpuEvidenceNonceMismatch
  | GpuEvidenceDriverRimVersionMismatch | GpuEvidenceVbiosRimVersionMismatch
  | GpuEvidenceFwidMismatch | GpuEvidenceInvalidSignature | GpuModeNotSupported
  | GpuFwNotSupported
  | CertFwidNotFound | CertNotFound | CertChainVerificationFailure
  | JsonSerializationError | LibXml2Error
  | NscqInitFailed | NscqError | CorelibInitFailed | CorelibError
  | SwitchArchitectureNotSupported | SwitchEvidenceNonceMismatch
  | SwitchEvidenceVbiosRimVersionMismatch | SwitchEvidenceFwidMismatch
  | SwitchEvidenceInvalidSignature
  | CacheObjectNotFound
  deriving Repr, DecidableEq

/-- How a call ends when it does not produce its value: it returns an error
code, a C++ exception leaves it, it reads outside a buffer, or a loop runs past
the bound the model gives it. -/
inductive Fault where
  | code (e : Error)
  | exception
  | undefined
  | outOfFuel
  deriving Repr, DecidableEq

abbrev Bytes := List UInt8

/-- Stop with an error code unless the condition holds. -/
def require (cond : Bool) (e : Error) : Except Fault Unit :=
  if cond then .ok () else .error (.code e)

theorem require_ok {cond : Bool} {e : Error} {u : Unit} (h : require cond e = .ok u) :
    cond = true := by
  cases cond with
  | true => rfl
  | false => simp [require] at h

theorem require_iff {cond : Bool} {e : Error} {u : Unit} :
    require cond e = .ok u ↔ cond = true := by
  refine ⟨require_ok, fun h => ?_⟩
  rw [h]
  rfl

end AttestationSdk
