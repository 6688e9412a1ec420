import AttestationSdk.GoldenMeasurements

/-! Which records the comparison of golden and runtime measurements leaves, and what the GPU
verifier then claims. -/
namespace AttestationSdk.Rim.Measurements

/-- The indices stand as the keys of a `std::map` do. -/
def Increasing (ms : Measurements) : Prop := ms.getAllIndices.Pairwise (· < ·)

def HasAlternatives (ms : Measurements) : Prop := ∀ m ∈ ms.measurements, m.values ≠ []

theorem Increasing.distinct {ms : Measurements} (h : ms.Increasing) : ms.Distinct :=
  h.imp fun hlt => ne_of_lt hlt

end AttestationSdk.Rim.Measurements

namespace AttestationSdk.LocalVerifier
open AttestationSdk.Claims AttestationSdk.Rim AttestationSdk.Text ExceptRules
variable {runtime : Runtime} {source : MeasurementSource} {skips : Int → Bool}
  {golden : Measurements}

instance (runtime : Runtime) (index : Int) (alternatives : List Bytes) :
    Decidable (Matches runtime index alternatives) :=
  inferInstanceAs (Decidable (∃ value ∈ alternatives, runtime.lookup index = some value))

/-- The record of a golden measurement that no runtime measurement matches. -/
def mismatchRecord (source : MeasurementSource) (runtime : Runtime) (m : Measurement) :
    SerializableMismatchedMeasurements where
  index := uint32 m.index
  goldenSize := uint32 m.size
  goldenValue := toHexString (m.values.headD [])
  runtimeSize := uint32 (((runtime.lookup m.index).getD []).length)
  runtimeValue := ((runtime.lookup m.index).map toHexString).getD "NA"
  source := source

def unmatched (runtime : Runtime) (skips : Int → Bool) (m : Measurement) : Bool :=
  !skips m.index && !decide (Matches runtime m.index m.values)

/-- The measurements that are compared and not matched, in index order. -/
def failing (runtime : Runtime) (skips : Int → Bool) (golden : Measurements) : List Measurement :=
  golden.measurements.filter (unmatched runtime skips)

theorem failing_nil_iff : failing runtime skips golden = [] ↔ AllMatch runtime skips golden := by
  rw [failing, List.filter_eq_nil_iff]
  refine forall₂_congr fun m _ => ?_
  cases hskip : skips m.index <;> simp [unmatched, hskip]

theorem mismatch_eq {m : Measurement} (hm : m.values ≠ []) (size : Nat) (value : String) :
    mismatch source m.index m size value = .ok (some {
      index := uint32 m.index
      goldenSize := uint32 m.size
      goldenValue := toHexString (m.values.headD [])
      runtimeSize := uint32 size
      runtimeValue := value
      source := source }) := by
  cases hvalues : m.values with
  | nil => exact absurd hvalues hm
  | cons first rest => simp [mismatch, hvalues]

/-- One comparison leaves the record of the measurement exactly where it is not matched. -/
theorem compareMeasurement_eq {m : Measurement} (hm : m.values ≠ []) :
    compareMeasurement runtime source m.index m =
      .ok (if Matches runtime m.index m.values then none
        else some (mismatchRecord source runtime m)) := by
  rw [compareMeasurement]
  cases hlookup : runtime.lookup m.index with
  | none =>
    have hno : ¬ Matches runtime m.index m.values := by simp [Matches, hlookup]
    simp [mismatch_eq hm, hno, mismatchRecord, hlookup]
  | some value =>
    by_cases hmem : value ∈ m.values
    · have hyes : Matches runtime m.index m.values := ⟨value, hmem, hlookup⟩
      simp [hmem, hyes]
    · have hno : ¬ Matches runtime m.index m.values := by
        rintro ⟨other, hother, heq⟩
        have hsame : value = other := Option.some.inj (hlookup.symm.trans heq)
        exact hmem (hsame ▸ hother)
      simp [hmem, hno, mismatch_eq hm, mismatchRecord, hlookup]

/-- The loop adds the records of the failing measurements, each once and in order. -/
theorem compareAll_eq (hdistinct : golden.Distinct) (halternatives : golden.HasAlternatives)
    (records : List SerializableMismatchedMeasurements) :
    compareAll runtime source skips golden golden.getAllIndices records =
      .ok (records ++ (failing runtime skips golden).map (mismatchRecord source runtime)) := by
  -- the loop walks a suffix of the measurements
  suffices hsuffix : ∀ ms : List Measurement, (∀ m ∈ ms, m ∈ golden.measurements) →
      ∀ records, compareAll runtime source skips golden (ms.map (·.index)) records =
        .ok (records ++ (ms.filter (unmatched runtime skips)).map (mismatchRecord source runtime)) from
    hsuffix golden.measurements (fun _ hm => hm) records
  intro ms
  induction ms with
  | nil => simp [compareAll]
  | cons m rest ih =>
    intro hms records
    have hrest := ih fun x hx => hms x (List.mem_cons_of_mem m hx)
    have hm : m ∈ golden.measurements := hms m List.mem_cons_self
    rw [List.map_cons, compareAll]
    cases hskip : skips m.index with
    | true => simp [hrest, unmatched, hskip]
    | false =>
      rw [if_neg (by simp), Measurements.getMeasurementAtIndex_of_mem hdistinct hm, ok_bind,
        compareMeasurement_eq (halternatives m hm), ok_bind, hrest]
      by_cases hmatch : Matches runtime m.index m.values
      · simp [unmatched, hskip, hmatch]
      · simp [unmatched, hskip, hmatch]

end AttestationSdk.LocalVerifier

namespace AttestationSdk.Gpu
open AttestationSdk.Claims AttestationSdk.Rim AttestationSdk.LocalVerifier AttestationSdk.OpaqueData
open AttestationSdk.OpaqueData.Gpu ExceptRules
variable {driver vbios : Measurements} {report : AttestationReport}
  {claims : SerializableGpuClaimsV3}

def Conflict (driver vbios : Measurements) : Prop :=
  ∃ index, index ∈ driver.getAllIndices ∧ index ∈ vbios.getAllIndices

/-- The report has the NVDEC0 status, and it is one of the two known bytes. -/
def StatusKnown (report : AttestationReport) : Prop :=
  ∃ status, report.getNvdec0Status = .ok status ∧ (status = 0xAA ∨ status = 0x55)

/-- The NVDEC0 status field is there and has no byte. -/
def EmptyStatus (report : AttestationReport) : Prop :=
  getBytes report.opaqueData.fields NVDEC0_STATUS = .ok []

/-- The records of the driver's measurements, then those of the VBIOS. -/
def failureRecords (driver vbios : Measurements) (report : AttestationReport) (status : UInt8) :
    List SerializableMismatchedMeasurements :=
  (failing report.getMeasurements (skipsMsr35 status) driver).map
      (mismatchRecord .DRIVER report.getMeasurements) ++
    (failing report.getMeasurements (skipsMsr35 status) vbios).map
      (mismatchRecord .VBIOS report.getMeasurements)

/-- What the claims say where the comparison returns. -/
structure ExactClaims (driver vbios : Measurements) (report : AttestationReport) (status : UInt8)
    (claims : SerializableGpuClaimsV3) : Prop where
  success : claims.measurementsMatching = .Success ↔
    AllMatch report.getMeasurements (skipsMsr35 status) driver ∧
      AllMatch report.getMeasurements (skipsMsr35 status) vbios
  secureBoot : claims.secureBoot =
    if claims.measurementsMatching = .Success then some true else none
  debugStatus : claims.debugStatus =
    if claims.measurementsMatching = .Success then some "disabled" else none
  mismatched : claims.mismatchedMeasurements =
    if claims.measurementsMatching = .Success then none
    else some (failureRecords driver vbios report status)

/-- The comparison of two sets of golden measurements with a report is exact. -/
structure ExactComparison (driver vbios : Measurements) (report : AttestationReport)
    (claims : SerializableGpuClaimsV3) : Prop where
  conflict : generateSetMeasurementClaims driver vbios report claims =
    .error (.code .RimMeasurementConflict) ↔ Conflict driver vbios
  error : ¬ Conflict driver vbios →
    ((∃ e, generateSetMeasurementClaims driver vbios report claims = .error (.code e)) ↔
      ¬ StatusKnown report)
  ok : ¬ Conflict driver vbios → StatusKnown report →
    ∃ claims', generateSetMeasurementClaims driver vbios report claims = .ok claims'
  claims : ∀ claims' status,
    generateSetMeasurementClaims driver vbios report claims = .ok claims' →
    report.getNvdec0Status = .ok status → ExactClaims driver vbios report status claims'

theorem indexConflict_iff : indexConflict driver vbios = true ↔ Conflict driver vbios := by
  simp only [indexConflict, Conflict, List.any_eq_true, List.mem_append, Bool.and_eq_true,
    Measurements.hasMeasurementAtIndex, Measurements.getAllIndices, List.mem_map, decide_eq_true_eq]
  constructor
  · rintro ⟨index, _, hboth⟩
    exact ⟨index, hboth⟩
  · rintro ⟨index, hboth⟩
    exact ⟨index, .inl hboth.1, hboth⟩

theorem indexConflict_false (h : ¬ Conflict driver vbios) : indexConflict driver vbios = false := by
  simpa [← indexConflict_iff] using h

/-- The status is read, or its field is missing, or the field has no byte to read. -/
theorem getNvdec0Status_cases (report : AttestationReport) :
    (∃ status, report.getNvdec0Status = .ok status ∧ ¬ EmptyStatus report) ∨
    (report.getNvdec0Status = .error (.code .SpdmFieldNotFound) ∧ ¬ EmptyStatus report) ∨
    (report.getNvdec0Status = .error .exception ∧ EmptyStatus report) := by
  unfold AttestationReport.getNvdec0Status EmptyStatus
  cases hfield : report.opaqueData.fields.lookup NVDEC0_STATUS with
  | none => simp [getBytes, getField, hfield]
  | some field =>
    cases field with
    | byteVector data =>
      cases data with
      | nil => simp [getBytes, getField, hfield, ParsedField.getByteVector]
      | cons b rest => simp [getBytes, getField, hfield, ParsedField.getByteVector]
    | uint32Vector data => simp [getBytes, getField, hfield, ParsedField.getByteVector]
    | pdiVector data => simp [getBytes, getField, hfield, ParsedField.getByteVector]
    | portVector data => simp [getBytes, getField, hfield, ParsedField.getByteVector]

theorem generate_conflict (hconflict : Conflict driver vbios) :
    generateSetMeasurementClaims driver vbios report claims =
      .error (.code .RimMeasurementConflict) := by
  simp [generateSetMeasurementClaims, indexConflict_iff.mpr hconflict, require]

theorem generate_statusError (hconflict : ¬ Conflict driver vbios) {fault : Fault}
    (hstatus : report.getNvdec0Status = .error fault) :
    generateSetMeasurementClaims driver vbios report claims = .error fault := by
  have hfree := indexConflict_false hconflict
  simp [generateSetMeasurementClaims, hfree, require, hstatus]

theorem generate_unknown (hconflict : ¬ Conflict driver vbios) {status : UInt8}
    (hstatus : report.getNvdec0Status = .ok status) (henabled : status ≠ 0xAA)
    (hdisabled : status ≠ 0x55) :
    generateSetMeasurementClaims driver vbios report claims = .error (.code .InternalError) := by
  have hfree := indexConflict_false hconflict
  have hvalid : isMsr35Valid status = .error (.code .InternalError) := by
    simp [isMsr35Valid, nvdecStatusDisabled, nvdecStatusEnabled, henabled, hdisabled]
  simp [generateSetMeasurementClaims, hfree, require, hstatus, hvalid]

/-- The claims that a known status gives. -/
theorem generate_known (hdriver : driver.Distinct) (hvbios : vbios.Distinct)
    (hdriverValues : driver.HasAlternatives) (hvbiosValues : vbios.HasAlternatives)
    (hconflict : ¬ Conflict driver vbios) {status : UInt8}
    (hstatus : report.getNvdec0Status = .ok status) (hknown : status = 0xAA ∨ status = 0x55) :
    generateSetMeasurementClaims driver vbios report claims = .ok { claims with
      vbiosIndexNoConflict := true
      measurementsMatching :=
        (measurementClaims (failureRecords driver vbios report status)).measurementsMatching
      secureBoot := (measurementClaims (failureRecords driver vbios report status)).secureBoot
      debugStatus := (measurementClaims (failureRecords driver vbios report status)).debugStatus
      mismatchedMeasurements :=
        (measurementClaims (failureRecords driver vbios report status)).mismatchedMeasurements } := by
  have hfree := indexConflict_false hconflict
  have hvalid : isMsr35Valid status = .ok (decide (status ≠ nvdecStatusDisabled)) :=
    isMsr35Valid_ok_iff.mpr ⟨hknown.symm, rfl⟩
  have hskips : (fun index : Int =>
      (decide (index = 35) && !decide (status ≠ nvdecStatusDisabled))) = skipsMsr35 status := by
    funext index
    simp [skipsMsr35]
  simp only [generateSetMeasurementClaims, hfree, require, Bool.not_false, if_true, ok_bind, hstatus,
    hvalid, hskips, compareAll_eq hdriver hdriverValues, compareAll_eq hvbios hvbiosValues,
    List.nil_append]
  rfl

theorem failureRecords_nil_iff {status : UInt8} : failureRecords driver vbios report status = [] ↔
    AllMatch report.getMeasurements (skipsMsr35 status) driver ∧
      AllMatch report.getMeasurements (skipsMsr35 status) vbios := by
  rw [failureRecords, List.append_eq_nil_iff, List.map_eq_nil_iff, List.map_eq_nil_iff,
    failing_nil_iff, failing_nil_iff]

theorem measurementClaims_fields (records : List SerializableMismatchedMeasurements) :
    (measurementClaims records).secureBoot =
        (if (measurementClaims records).measurementsMatching = .Success then some true else none) ∧
      (measurementClaims records).debugStatus =
        (if (measurementClaims records).measurementsMatching = .Success then some "disabled"
          else none) ∧
      (measurementClaims records).mismatchedMeasurements =
        (if (measurementClaims records).measurementsMatching = .Success then none
          else some records) := by
  cases records <;> simp [measurementClaims]

theorem exact_of_conflict (hconflict : Conflict driver vbios) :
    ExactComparison driver vbios report claims where
  conflict := iff_of_true (generate_conflict hconflict) hconflict
  error := absurd hconflict
  ok := absurd hconflict
  claims := by
    intro claims' status h
    exact absurd ((generate_conflict hconflict).symm.trans h) (by simp)

theorem exact_of_known (hdriver : driver.Distinct) (hvbios : vbios.Distinct)
    (hdriverValues : driver.HasAlternatives) (hvbiosValues : vbios.HasAlternatives)
    (hconflict : ¬ Conflict driver vbios) {status : UInt8}
    (hstatus : report.getNvdec0Status = .ok status) (hknown : status = 0xAA ∨ status = 0x55) :
    ExactComparison driver vbios report claims := by
  have hrun : generateSetMeasurementClaims driver vbios report claims = _ :=
    generate_known hdriver hvbios hdriverValues hvbiosValues hconflict hstatus hknown
  have hready : StatusKnown report := ⟨status, hstatus, hknown⟩
  refine ⟨by simp [hrun, hconflict], by simp [hrun, hready], fun _ _ => ⟨_, hrun⟩, ?_⟩
  intro claims' status' h hstatus'
  have hsame : status = status' := Except.ok.inj (hstatus.symm.trans hstatus')
  subst hsame
  obtain rfl := Except.ok.inj (hrun.symm.trans h)
  obtain ⟨hboot, hdebug, hmismatched⟩ :=
    measurementClaims_fields (failureRecords driver vbios report status)
  exact ⟨measurementsMatching_iff.trans failureRecords_nil_iff, hboot, hdebug, hmismatched⟩

/-- Without a known status the comparison is exact if it ends in a code of its own. -/
theorem exact_of_code (hconflict : ¬ Conflict driver vbios) (hunknown : ¬ StatusKnown report)
    {e : Error} (he : e ≠ .RimMeasurementConflict)
    (hrun : generateSetMeasurementClaims driver vbios report claims = .error (.code e)) :
    ExactComparison driver vbios report claims := by
  refine ⟨by simp [hrun, hconflict, he], by simp [hrun, hunknown], fun _ h => absurd h hunknown, ?_⟩
  intro claims' status' h
  exact absurd (hrun.symm.trans h) (by simp)

/-- The comparison of golden and runtime measurements is exact unless the documents do not
conflict and the report has an NVDEC0 status field without a byte: reading the first byte then
throws, and no error is returned. -/
theorem comparison_exact_iff (hdriver : driver.Increasing) (hvbios : vbios.Increasing)
    (hdriverValues : driver.HasAlternatives) (hvbiosValues : vbios.HasAlternatives)
    (report : AttestationReport) (claims : SerializableGpuClaimsV3) :
    ExactComparison driver vbios report claims ↔ Conflict driver vbios ∨ ¬ EmptyStatus report := by
  by_cases hconflict : Conflict driver vbios
  · exact iff_of_true (exact_of_conflict hconflict) (.inl hconflict)
  rcases getNvdec0Status_cases report with ⟨status, hstatus, hempty⟩ | ⟨hstatus, hempty⟩ |
      ⟨hstatus, hempty⟩
  · refine iff_of_true ?_ (.inr hempty)
    by_cases hknown : status = 0xAA ∨ status = 0x55
    · exact exact_of_known hdriver.distinct hvbios.distinct hdriverValues hvbiosValues hconflict
        hstatus hknown
    · have hunknown : ¬ StatusKnown report := by
        rintro ⟨status', hstatus', hknown'⟩
        exact hknown (Except.ok.inj (hstatus.symm.trans hstatus') ▸ hknown')
      exact exact_of_code hconflict hunknown (by simp)
        (generate_unknown hconflict hstatus (fun h => hknown (.inl h)) fun h => hknown (.inr h))
  · have hunknown : ¬ StatusKnown report := by simp [StatusKnown, hstatus]
    exact iff_of_true (exact_of_code hconflict hunknown (by simp)
      (generate_statusError hconflict hstatus)) (.inr hempty)
  · -- the read of the first byte throws, which is neither claims nor a code
    have hrun : generateSetMeasurementClaims driver vbios report claims = _ :=
      generate_statusError hconflict hstatus
    have hunknown : ¬ StatusKnown report := by simp [StatusKnown, hstatus]
    refine iff_of_false ?_ (by simp [hconflict, hempty])
    intro h
    obtain ⟨e, he⟩ := (h.error hconflict).mpr hunknown
    exact absurd (hrun.symm.trans he) (by simp)

/-- A report with these opaque fields and these runtime measurements. -/
def reportOf (opaqueFields : Fields) (blocks : Spdm.Blocks) : AttestationReport where
  certChain := ⟨[], .GPU_DEVICE_IDENTITY, none⟩
  request := ⟨0x11, 0xe0, 0, 0xff, [], 0⟩
  response := ⟨0x11, 0x60, 0, 0, 0, 0, [], blocks, [], 0, [], [], []⟩
  opaqueData := ⟨opaqueFields, 0⟩

/-- A golden measurement with two alternatives, as a RIM states it. -/
def goldenAt (index : Int) : Measurements :=
  ⟨[⟨true, index, 48, 2, [[0xaa], [0xbb]], "M"⟩]⟩

theorem goldenAt_increasing (index : Int) : (goldenAt index).Increasing := by
  simp [goldenAt, Measurements.Increasing, Measurements.getAllIndices]

theorem goldenAt_hasAlternatives (index : Int) : (goldenAt index).HasAlternatives := by
  simp [goldenAt, Measurements.HasAlternatives]

theorem comparison_exact_sample : ExactComparison (goldenAt 0) (goldenAt 1)
    (reportOf [(11, .byteVector [0x55])] [(1, ⟨1, 1, [0xbb]⟩)]) {} :=
  (comparison_exact_iff (goldenAt_increasing 0) (goldenAt_increasing 1)
    (goldenAt_hasAlternatives 0) (goldenAt_hasAlternatives 1) _ {}).mpr
    (.inr (by simp [EmptyStatus, reportOf, getBytes, getField, NVDEC0_STATUS,
      ParsedField.getByteVector]))

/-- The parser accepts an NVDEC0 status field without a byte. -/
theorem empty_status_throws :
    create [⟨11, []⟩] = .ok (reportOf [(11, .byteVector [])] []).opaqueData ∧
    ¬ ∀ (driver vbios : Measurements) (report : AttestationReport)
      (claims : SerializableGpuClaimsV3), driver.Increasing → vbios.Increasing →
      driver.HasAlternatives → vbios.HasAlternatives →
      ExactComparison driver vbios report claims := by
  refine ⟨by decide, fun h => ?_⟩
  have hexact := h (goldenAt 0) (goldenAt 1) (reportOf [(11, .byteVector [])] []) {}
    (goldenAt_increasing 0) (goldenAt_increasing 1) (goldenAt_hasAlternatives 0)
    (goldenAt_hasAlternatives 1)
  have hconflict : ¬ Conflict (goldenAt 0) (goldenAt 1) := by
    simp [Conflict, goldenAt, Measurements.getAllIndices]
  have hunknown : ¬ StatusKnown (reportOf [(11, .byteVector [])] []) := by
    simp [StatusKnown, reportOf, AttestationReport.getNvdec0Status, getBytes, getField,
      NVDEC0_STATUS, ParsedField.getByteVector]
  obtain ⟨e, he⟩ := (hexact.error hconflict).mpr hunknown
  cases he

end AttestationSdk.Gpu
