import AttestationSdk.MeasurementComparison
import AttestationSdk.LocalSwitchVerifier

/-! The two comparison loops as `gpu/verify.cpp` and `switch/verify.cpp` write them, each with its
flag and its list, and that they agree. -/
namespace AttestationSdk.LocalVerifier
open AttestationSdk.Claims AttestationSdk.Rim AttestationSdk.Text ExceptRules

/-- The locals `all_measurements_match` and `mismatched_measurements`. -/
structure Comparison where
  allMeasurementsMatch : Bool := true
  mismatchedMeasurements : List SerializableMismatchedMeasurements := []

/-- The loop over the alternatives: equal sizes and `std::equal`. -/
def foundMatchInAlternatives (runtimeValue : Bytes) : List Bytes → Bool
  | [] => false
  | alternative :: rest =>
    if runtimeValue.length = alternative.length ∧
        (runtimeValue.zip alternative).all (fun (a, b) => a == b) then true
    else foundMatchInAlternatives runtimeValue rest

/-- `get_values()[0]`. -/
def firstValue (golden : Measurement) : Except Fault Bytes :=
  match golden.values with
  | [] => .error .undefined
  | first :: _ => .ok first

theorem zip_all_iff {xs ys : Bytes} (hlength : xs.length = ys.length) :
    (xs.zip ys).all (fun (a, b) => a == b) = true ↔ xs = ys := by
  induction xs generalizing ys with
  | nil => simp [List.eq_nil_of_length_eq_zero hlength.symm]
  | cons x xs ih =>
    cases ys with
    | nil => simp at hlength
    | cons y ys =>
      have hrest : xs.length = ys.length := by simpa using hlength
      simpa using and_congr_right fun _ => ih hrest

theorem foundMatchInAlternatives_eq (value : Bytes) (alternatives : List Bytes) :
    foundMatchInAlternatives value alternatives = alternatives.any (· = value) := by
  induction alternatives with
  | nil => rfl
  | cons alternative rest ih =>
    have hequal : (value.length = alternative.length ∧
        (value.zip alternative).all (fun (a, b) => a == b)) ↔ alternative = value := by
      constructor
      · rintro ⟨hlength, hall⟩
        exact ((zip_all_iff hlength).mp hall).symm
      · rintro rfl
        exact ⟨rfl, (zip_all_iff rfl).mpr rfl⟩
    rw [foundMatchInAlternatives, List.any_cons, ih]
    by_cases h : alternative = value
    · rw [if_pos (hequal.mpr h)]
      simp [h]
    · rw [if_neg fun hp => h (hequal.mp hp)]
      simp [h]

/-- The state that a list of records stands for. -/
def Comparison.ofRecords (records : List SerializableMismatchedMeasurements) : Comparison :=
  ⟨records.isEmpty, records⟩

theorem Comparison.ofRecords_concat (records : List SerializableMismatchedMeasurements)
    (record : SerializableMismatchedMeasurements) :
    ofRecords (records ++ [record]) = ⟨false, records ++ [record]⟩ := by
  simp [ofRecords]

/-- What one comparison adds to a state without a flag. -/
def addRecord (records : List SerializableMismatchedMeasurements)
    (record : Option SerializableMismatchedMeasurements) : Comparison :=
  .ofRecords (records ++ record.toList)

theorem mismatch_of_firstValue (source : MeasurementSource) (index : Int) (golden : Measurement)
    (size : Nat) (value : String) (records : List SerializableMismatchedMeasurements) :
    (mismatch source index golden size value).map (addRecord records) = (do
      let first ← firstValue golden
      return ⟨false, records ++ [⟨uint32 index, uint32 golden.size, toHexString first, uint32 size,
        value, source⟩]⟩) := by
  cases hvalues : golden.values with
  | nil => simp [mismatch, firstValue, hvalues, Except.map]
  | cons first rest =>
    simp [mismatch, firstValue, hvalues, Except.map, addRecord, Comparison.ofRecords_concat]

end AttestationSdk.LocalVerifier

namespace AttestationSdk.Gpu.AsWritten
open AttestationSdk.Claims AttestationSdk.Rim AttestationSdk.Text AttestationSdk.LocalVerifier
open ExceptRules

/-- The lambda `compare_measurements`, which changes both locals. -/
def compareMeasurements (runtime : Runtime) (index : Int) (golden : Measurement)
    (source : MeasurementSource) (st : Comparison) : Except Fault Comparison :=
  match runtime.lookup index with
  | none => do
    let first ← firstValue golden
    return ⟨false, st.mismatchedMeasurements ++
      [⟨uint32 index, uint32 golden.size, toHexString first, 0, "NA", source⟩]⟩
  | some value =>
    if !foundMatchInAlternatives value golden.values then do
      let first ← firstValue golden
      return ⟨false, st.mismatchedMeasurements ++ [⟨uint32 index, uint32 golden.size,
        toHexString first, uint32 value.length, toHexString value, source⟩]⟩
    else return st

/-- The loop over the driver's indices and the loop over those of the VBIOS. -/
def compareIndices (runtime : Runtime) (isMsr35Valid : Bool) (golden : Measurements)
    (source : MeasurementSource) : List Int → Comparison → Except Fault Comparison
  | [], st => .ok st
  | index :: rest, st =>
    if index = 35 && !isMsr35Valid then compareIndices runtime isMsr35Valid golden source rest st
    else do
      let measurement ← golden.getMeasurementAtIndex index
      let st ← compareMeasurements runtime index measurement source st
      compareIndices runtime isMsr35Valid golden source rest st

def assignResult (st : Comparison) (claims : SerializableGpuClaimsV3) :
    Except Fault SerializableGpuClaimsV3 :=
  if st.allMeasurementsMatch then .ok { claims with
    measurementsMatching := .Success
    secureBoot := some true
    debugStatus := some "disabled"
    mismatchedMeasurements := none }
  else if st.mismatchedMeasurements.isEmpty then .error (.code .InternalError)
  else .ok { claims with
    measurementsMatching := .Failure
    secureBoot := none
    debugStatus := none
    mismatchedMeasurements := some st.mismatchedMeasurements }

/-- `LocalGpuVerifier::generate_set_measurement_claims`, loop by loop. -/
def generateSetMeasurementClaims (driver vbios : Measurements) (report : AttestationReport)
    (claims : SerializableGpuClaimsV3) : Except Fault SerializableGpuClaimsV3 := do
  require (!indexConflict driver vbios) .RimMeasurementConflict
  let nvdec0Status ← report.getNvdec0Status
  let msr35Valid ← isMsr35Valid nvdec0Status
  let runtime := report.getMeasurements
  let st ← compareIndices runtime msr35Valid driver .DRIVER driver.getAllIndices {}
  let st ← compareIndices runtime msr35Valid vbios .VBIOS vbios.getAllIndices st
  assignResult st { claims with vbiosIndexNoConflict := true }

/-- The lambda adds the record that the comparison leaves. -/
theorem compareMeasurements_eq (runtime : Runtime) (index : Int) (golden : Measurement)
    (source : MeasurementSource) (records : List SerializableMismatchedMeasurements) :
    compareMeasurements runtime index golden source (.ofRecords records) =
      (compareMeasurement runtime source index golden).map (addRecord records) := by
  rw [compareMeasurements, compareMeasurement]
  cases runtime.lookup index with
  | none => exact (mismatch_of_firstValue source index golden 0 "NA" records).symm
  | some value =>
    dsimp only
    rw [foundMatchInAlternatives_eq]
    cases golden.values.any (· = value) with
    | true => simp [Except.map, addRecord]
    | false => exact (mismatch_of_firstValue source index golden _ _ records).symm

theorem compareIndices_eq (runtime : Runtime) (isMsr35Valid : Bool) (golden : Measurements)
    (source : MeasurementSource) (indices : List Int)
    (records : List SerializableMismatchedMeasurements) :
    compareIndices runtime isMsr35Valid golden source indices (.ofRecords records) =
      (compareAll runtime source (fun index => index = 35 && !isMsr35Valid) golden indices
        records).map .ofRecords := by
  induction indices generalizing records with
  | nil => rfl
  | cons index rest ih =>
    rw [compareIndices, compareAll]
    split
    · exact ih records
    · cases golden.getMeasurementAtIndex index with
      | error fault => rfl
      | ok measurement =>
        rw [ok_bind, ok_bind, compareMeasurements_eq]
        cases compareMeasurement runtime source index measurement with
        | error fault => rfl
        | ok record => exact ih (records ++ record.toList)

theorem assignResult_eq (records : List SerializableMismatchedMeasurements)
    (claims : SerializableGpuClaimsV3) :
    assignResult (.ofRecords records) claims = .ok { claims with
      measurementsMatching := (measurementClaims records).measurementsMatching
      secureBoot := (measurementClaims records).secureBoot
      debugStatus := (measurementClaims records).debugStatus
      mismatchedMeasurements := (measurementClaims records).mismatchedMeasurements } := by
  cases records <;> rfl

/-- The loops of the source compute the claims of the model. -/
theorem generateSetMeasurementClaims_eq (driver vbios : Measurements) (report : AttestationReport)
    (claims : SerializableGpuClaimsV3) :
    generateSetMeasurementClaims driver vbios report claims =
      Gpu.generateSetMeasurementClaims driver vbios report claims := by
  rw [generateSetMeasurementClaims, Gpu.generateSetMeasurementClaims]
  refine bind_congr fun _ => bind_congr fun status => bind_congr fun valid => ?_
  dsimp only
  have hstart : ({} : Comparison) = .ofRecords [] := rfl
  rw [hstart, compareIndices_eq]
  cases compareAll report.getMeasurements .DRIVER (fun index => index = 35 && !valid) driver
      driver.getAllIndices [] with
  | error fault => rfl
  | ok records =>
    simp only [Except.map, ok_bind, compareIndices_eq]
    cases compareAll report.getMeasurements .VBIOS (fun index => index = 35 && !valid) vbios
        vbios.getAllIndices records with
    | error fault => rfl
    | ok records => exact assignResult_eq records _

end AttestationSdk.Gpu.AsWritten

namespace AttestationSdk.Switch.AsWritten
open AttestationSdk.Claims AttestationSdk.Rim AttestationSdk.Text AttestationSdk.LocalVerifier
open ExceptRules

/-- The loop over the golden indices, with its `continue`. -/
def compareIndices (runtime : Runtime) (golden : Measurements) :
    List Int → Comparison → Except Fault Comparison
  | [], st => .ok st
  | index :: rest, st => do
    let measurement ← golden.getMeasurementAtIndex index
    match runtime.lookup index with
    | none => do
      let first ← firstValue measurement
      compareIndices runtime golden rest ⟨false, st.mismatchedMeasurements ++
        [⟨uint32 index, uint32 measurement.size, toHexString first, 0, "NA", .VBIOS⟩]⟩
    | some value =>
      if !foundMatchInAlternatives value measurement.values then do
        let first ← firstValue measurement
        compareIndices runtime golden rest ⟨false, st.mismatchedMeasurements ++ [⟨uint32 index,
          uint32 measurement.size, toHexString first, uint32 value.length, toHexString value,
          .VBIOS⟩]⟩
      else compareIndices runtime golden rest st

def assignResult (st : Comparison) (claims : SerializableSwitchClaimsV3) :
    Except Fault SerializableSwitchClaimsV3 :=
  if st.allMeasurementsMatch then .ok { claims with
    measurementsMatching := .Success
    secureBoot := some true
    debugStatus := some "disabled"
    mismatchedMeasurements := none }
  else if st.mismatchedMeasurements.isEmpty then .error (.code .InternalError)
  else .ok { claims with
    measurementsMatching := .Failure
    secureBoot := none
    debugStatus := none
    mismatchedMeasurements := some st.mismatchedMeasurements }

/-- `LocalSwitchVerifier::generate_set_measurement_claims`, loop by loop. -/
def generateSetMeasurementClaims (golden : Measurements) (report : AttestationReport)
    (claims : SerializableSwitchClaimsV3) : Except Fault SerializableSwitchClaimsV3 := do
  let st ← compareIndices report.getMeasurements golden golden.getAllIndices {}
  assignResult st claims

theorem compareIndices_eq (runtime : Runtime) (golden : Measurements) (indices : List Int)
    (records : List SerializableMismatchedMeasurements) :
    compareIndices runtime golden indices (.ofRecords records) =
      (compareAll runtime .VBIOS (fun _ => false) golden indices records).map .ofRecords := by
  induction indices generalizing records with
  | nil => rfl
  | cons index rest ih =>
    rw [compareIndices, compareAll, if_neg (by simp)]
    cases golden.getMeasurementAtIndex index with
    | error fault => rfl
    | ok measurement =>
      rw [ok_bind, ok_bind, compareMeasurement]
      cases runtime.lookup index with
      | none =>
        cases hvalues : measurement.values with
        | nil => simp [mismatch, firstValue, hvalues, Except.map]
        | cons first others =>
          simp only [mismatch, firstValue, hvalues, ok_bind, Option.toList_some]
          rw [← ih, Comparison.ofRecords_concat]
          rfl
      | some value =>
        dsimp only
        rw [foundMatchInAlternatives_eq]
        cases measurement.values.any (· = value) with
        | true => simpa using ih records
        | false =>
          cases hvalues : measurement.values with
          | nil => simp [mismatch, firstValue, hvalues, Except.map]
          | cons first others =>
            simp only [mismatch, firstValue, hvalues, ok_bind, Option.toList_some, Bool.not_false,
              if_true, Bool.false_eq_true, if_false]
            rw [← ih, Comparison.ofRecords_concat]
            rfl

theorem assignResult_eq (records : List SerializableMismatchedMeasurements)
    (claims : SerializableSwitchClaimsV3) :
    assignResult (.ofRecords records) claims = .ok { claims with
      measurementsMatching := (measurementClaims records).measurementsMatching
      secureBoot := (measurementClaims records).secureBoot
      debugStatus := (measurementClaims records).debugStatus
      mismatchedMeasurements := (measurementClaims records).mismatchedMeasurements } := by
  cases records <;> rfl

/-- The loop of the source computes the claims of the model. -/
theorem generateSetMeasurementClaims_eq (golden : Measurements) (report : AttestationReport)
    (claims : SerializableSwitchClaimsV3) :
    generateSetMeasurementClaims golden report claims =
      Switch.generateSetMeasurementClaims golden report claims := by
  have hstart : ({} : Comparison) = .ofRecords [] := rfl
  rw [generateSetMeasurementClaims, Switch.generateSetMeasurementClaims, hstart, compareIndices_eq]
  cases compareAll report.getMeasurements .VBIOS (fun _ => false) golden golden.getAllIndices [] with
  | error fault => rfl
  | ok records => exact assignResult_eq records claims

end AttestationSdk.Switch.AsWritten

namespace AttestationSdk.LocalVerifier
open AttestationSdk.Claims AttestationSdk.Rim ExceptRules

/-- `measres`, `secboot`, `dbgstat` and the mismatch records of the GPU claims. -/
def gpuMeasurementClaims (claims : SerializableGpuClaimsV3) : MeasurementClaims :=
  ⟨claims.measurementsMatching, claims.secureBoot, claims.debugStatus,
    claims.mismatchedMeasurements⟩

/-- `measres`, `secboot`, `dbgstat` and the mismatch records of the switch claims. -/
def switchMeasurementClaims (claims : SerializableSwitchClaimsV3) : MeasurementClaims :=
  ⟨claims.measurementsMatching, claims.secureBoot, claims.debugStatus,
    claims.mismatchedMeasurements⟩

theorem gpuMeasurementClaims_eq (golden : Measurements) {report : Gpu.AttestationReport}
    (hstatus : report.getNvdec0Status = .ok 0xAA) (claims : SerializableGpuClaimsV3) :
    (Gpu.generateSetMeasurementClaims {} golden report claims).map gpuMeasurementClaims =
      (compareAll report.getMeasurements .VBIOS (fun _ => false) golden golden.getAllIndices
        []).map measurementClaims := by
  have hfree : Gpu.indexConflict {} golden = false :=
    Gpu.indexConflict_false (by simp [Gpu.Conflict, Measurements.getAllIndices])
  have hvalid : Gpu.isMsr35Valid 0xAA = .ok true := rfl
  have hdriver : Measurements.getAllIndices {} = [] := rfl
  have hskips : (fun index : Int => decide (index = 35) && !true) = fun _ => false := by simp
  simp only [Gpu.generateSetMeasurementClaims, hfree, require, Bool.not_false, if_true, ok_bind,
    hstatus, hvalid, hdriver, hskips, compareAll]
  cases compareAll report.getMeasurements .VBIOS (fun _ => false) golden golden.getAllIndices [] with
  | error fault => rfl
  | ok records => rfl

theorem switchMeasurementClaims_eq (golden : Measurements) (report : Switch.AttestationReport)
    (claims : SerializableSwitchClaimsV3) :
    (Switch.generateSetMeasurementClaims golden report claims).map switchMeasurementClaims =
      (compareAll report.getMeasurements .VBIOS (fun _ => false) golden golden.getAllIndices
        []).map measurementClaims := by
  rw [Switch.generateSetMeasurementClaims]
  cases compareAll report.getMeasurements .VBIOS (fun _ => false) golden golden.getAllIndices [] with
  | error fault => rfl
  | ok records => rfl

/-- The two verifiers end alike and claim the same about measurements, where the driver
document states none and NVDEC0 is enabled. -/
theorem gpu_switch_agree (golden : Measurements) (report : Gpu.AttestationReport)
    (switchReport : Switch.AttestationReport) (hstatus : report.getNvdec0Status = .ok 0xAA)
    (hruntime : report.getMeasurements = switchReport.getMeasurements)
    (claims : SerializableGpuClaimsV3) (switchClaims : SerializableSwitchClaimsV3) :
    (Gpu.AsWritten.generateSetMeasurementClaims {} golden report claims).map gpuMeasurementClaims =
      (Switch.AsWritten.generateSetMeasurementClaims golden switchReport switchClaims).map
        switchMeasurementClaims := by
  rw [Gpu.AsWritten.generateSetMeasurementClaims_eq,
    Switch.AsWritten.generateSetMeasurementClaims_eq, gpuMeasurementClaims_eq golden hstatus,
    switchMeasurementClaims_eq, hruntime]

theorem gpu_switch_agree_sample :
    (Gpu.AsWritten.generateSetMeasurementClaims {} (Gpu.goldenAt 35)
        (Gpu.reportOf [(11, .byteVector [0xAA])] [(1, ⟨1, 1, [0xbb]⟩)]) {}).map
        gpuMeasurementClaims =
      (Switch.AsWritten.generateSetMeasurementClaims (Gpu.goldenAt 35)
        ⟨(Gpu.reportOf [] [(1, ⟨1, 1, [0xbb]⟩)]).toSignedMessages, []⟩ {}).map
        switchMeasurementClaims :=
  gpu_switch_agree (Gpu.goldenAt 35) _ _ rfl rfl {} {}

end AttestationSdk.LocalVerifier
