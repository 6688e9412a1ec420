import AttestationSdk.VerifiedItem

/-! Which golden measurements a RIM document states, and when no comparison with the
runtime measurements leaves a record. -/
namespace AttestationSdk.Rim
open AttestationSdk.Text ExceptRules

/-- The active measurement a resource element states: its index and its alternatives. -/
def Golden (node : Xml) (index : Int) (alternatives : List Bytes) : Prop :=
  node.getProp "active" = some "True" ∧
  (∃ text, node.getProp "index" = some text ∧ stoi text = .ok index) ∧
  ∃ text count, node.getProp "alternatives" = some text ∧ stoi text = .ok count ∧
    hashValues node count.toNat = .ok alternatives

namespace Measurements

/-- One measurement for each index. -/
def Distinct (ms : Measurements) : Prop := ms.getAllIndices.Nodup

theorem insert_perm (m : Measurement) (ms : List Measurement) : (insert m ms).Perm (m :: ms) := by
  induction ms with
  | nil => exact .refl _
  | cons x rest ih =>
    rw [insert]
    split
    · exact .refl _
    · exact (ih.cons x).trans (.swap m x rest)

theorem addMeasurement_ok {ms ms' : Measurements} {m : Measurement}
    (h : ms.addMeasurement m = .ok ms') :
    m.index ∉ ms.getAllIndices ∧ ms'.measurements.Perm (m :: ms.measurements) := by
  rw [addMeasurement] at h
  split at h
  · cases h
  · next hfree =>
    cases h
    refine ⟨?_, insert_perm m ms.measurements⟩
    simpa [getAllIndices, hasMeasurementAtIndex] using hfree

/-- Of distinct measurements a lookup finds the one with the index. -/
theorem getMeasurementAtIndex_of_mem {ms : Measurements} (hms : ms.Distinct) {m : Measurement}
    (hm : m ∈ ms.measurements) : ms.getMeasurementAtIndex m.index = .ok m := by
  cases hfind : ms.measurements.find? (·.index = m.index) with
  | none =>
    have hnone := List.find?_eq_none.mp hfind m hm
    simp at hnone
  | some found =>
    have hindex : found.index = m.index := by simpa using List.find?_some hfind
    have hfound : found = m := List.inj_on_of_nodup_map hms (List.mem_of_find?_eq_some hfind) hm hindex
    rw [getMeasurementAtIndex, hfind, hfound]

end Measurements

/-- The measurement an active resource element states, with its number of alternatives. -/
def States (node : Xml) (m : Measurement) : Prop :=
  Golden node m.index m.values ∧ (m.values.length : Int) = m.count ∧
    ∃ text, node.getProp "alternatives" = some text ∧ stoi text = .ok m.count

theorem hashValues_length {node : Xml} {n : Nat} {values : List Bytes}
    (h : hashValues node n = .ok values) : values.length = n := by
  induction n generalizing values with
  | zero =>
    cases h
    rfl
  | succ n ih =>
    rw [hashValues] at h
    obtain ⟨first, hfirst, h⟩ := bind_eq_ok.mp h
    split at h
    · cases h
    · cases h
      rw [List.length_append, ih hfirst, List.length_singleton]

/-- A resource is inactive and left out, or it is active and adds what it states. -/
theorem addResource_states {ms ms' : Measurements} {node : Xml}
    (h : addResource ms node = .ok ms') :
    (node.getProp "active" ≠ some "True" ∧ ms' = ms) ∨
    ∃ m, States node m ∧ ms.addMeasurement m = .ok ms' := by
  rw [addResource] at h
  split at h
  · next active indexText countText name sizeText hactive hindexText hcountText hname hsizeText =>
    obtain ⟨index, hindex, h⟩ := bind_eq_ok.mp h
    obtain ⟨count, hcount, h⟩ := bind_eq_ok.mp h
    obtain ⟨size, hsize, h⟩ := bind_eq_ok.mp h
    split at h
    · next hinactive =>
      cases h
      refine .inl ⟨fun htrue => ?_, rfl⟩
      exact hinactive (Option.some.inj (hactive.symm.trans htrue))
    · next hisActive =>
      obtain ⟨values, hvalues, h⟩ := bind_eq_ok.mp h
      split at h
      · cases h
      · next hcounted =>
        have htrue : active = "True" := not_not.mp hisActive
        have hgolden : Golden node index values := ⟨hactive.trans (congrArg some htrue),
          ⟨indexText, hindexText, hindex⟩, countText, count, hcountText, hcount, hvalues⟩
        have hlength := hashValues_length hvalues
        exact .inr ⟨_, ⟨hgolden, by simp only [hlength]; omega, countText, hcountText, hcount⟩, h⟩
  · cases h

theorem addResource_ok {ms ms' : Measurements} {node : Xml} (h : addResource ms node = .ok ms') :
    (node.getProp "active" ≠ some "True" ∧ ms' = ms) ∨
    ∃ m, Golden node m.index m.values ∧ ms.addMeasurement m = .ok ms' :=
  (addResource_states h).imp_right fun ⟨m, hm, hadd⟩ => ⟨m, hm.1, hadd⟩

theorem Golden.unique {node : Xml} {index index' : Int} {alternatives alternatives' : List Bytes}
    (h : Golden node index alternatives) (h' : Golden node index' alternatives') :
    index = index' ∧ alternatives = alternatives' := by
  obtain ⟨_, ⟨text, htext, hindex⟩, countText, count, hcountText, hcount, hvalues⟩ := h
  obtain ⟨_, ⟨text', htext', hindex'⟩, countText', count', hcountText', hcount', hvalues'⟩ := h'
  have hsame : text = text' := Option.some.inj (htext.symm.trans htext')
  have hsameCount : countText = countText' := Option.some.inj (hcountText.symm.trans hcountText')
  subst hsame hsameCount
  have hcounts : count = count' := Except.ok.inj (hcount.symm.trans hcount')
  subst hcounts
  exact ⟨Except.ok.inj (hindex.symm.trans hindex'), Except.ok.inj (hvalues.symm.trans hvalues')⟩

/-- An active resource of a document is among its measurements. -/
def Kept (node : Xml) (ms : Measurements) : Prop :=
  node.getProp "active" = some "True" → ∃ m ∈ ms.measurements, States node m

theorem addResource_kept {ms ms' : Measurements} {node : Xml}
    (h : addResource ms node = .ok ms') : Kept node ms' := by
  intro hactive
  cases addResource_states h with
  | inl hinactive => exact absurd hactive hinactive.1
  | inr hadded =>
    obtain ⟨m, hm, hadd⟩ := hadded
    have hmem : m ∈ ms'.measurements :=
      (Measurements.addMeasurement_ok hadd).2.mem_iff.mpr List.mem_cons_self
    exact ⟨m, hmem, hm⟩

theorem addResource_mem_of_mem {ms ms' : Measurements} {node : Xml}
    (h : addResource ms node = .ok ms') {m : Measurement} (hm : m ∈ ms.measurements) :
    m ∈ ms'.measurements := by
  cases addResource_states h with
  | inl hinactive => exact hinactive.2 ▸ hm
  | inr hadded =>
    obtain ⟨_, _, hadd⟩ := hadded
    exact (Measurements.addMeasurement_ok hadd).2.mem_iff.mpr (List.mem_cons_of_mem _ hm)

/-- What a node states is among the measurements. -/
def Stated (node : Xml) (ms : Measurements) : Prop :=
  ∀ index alternatives, Golden node index alternatives →
    ∃ m ∈ ms.measurements, m.index = index ∧ m.values = alternatives

theorem Kept.stated {node : Xml} {ms : Measurements} (h : Kept node ms) : Stated node ms := by
  intro index alternatives hgolden
  obtain ⟨m, hm, hstates⟩ := h hgolden.1
  exact ⟨m, hm, hstates.1.unique hgolden⟩

theorem addResource_distinct {ms ms' : Measurements} {node : Xml} (hms : ms.Distinct)
    (h : addResource ms node = .ok ms') : ms'.Distinct := by
  cases addResource_ok h with
  | inl hinactive => exact hinactive.2 ▸ hms
  | inr hadded =>
    obtain ⟨m, _, hadd⟩ := hadded
    obtain ⟨hfree, hperm⟩ := Measurements.addMeasurement_ok hadd
    have hindices : ms'.getAllIndices.Perm (m.index :: ms.getAllIndices) := hperm.map _
    exact hindices.nodup_iff.mpr (List.nodup_cons.mpr ⟨hfree, hms⟩)

section Documents
variable {rim : RimDocument} {ms : Measurements}

theorem getMeasurements_fold (h : rim.getMeasurements = .ok ms) :
    rim.resources.foldlM addResource {} = .ok ms := by
  rw [RimDocument.getMeasurements] at h
  split at h
  · cases h
  · exact h

theorem getMeasurements_kept (h : rim.getMeasurements = .ok ms) :
    ∀ node ∈ rim.resources, Kept node ms := by
  refine foldlM_each (Q := Kept) (fun _ _ _ => addResource_kept) ?_ (getMeasurements_fold h)
  intro node b x b' hkept hstep hactive
  obtain ⟨m, hm, hstates⟩ := hkept hactive
  exact ⟨m, addResource_mem_of_mem hstep hm, hstates⟩

/-- The measurements of a document: one for each index, and all it states. -/
theorem getMeasurements_ok (h : rim.getMeasurements = .ok ms) :
    ms.Distinct ∧ ∀ node ∈ rim.resources, Stated node ms := by
  constructor
  · have hempty : Measurements.Distinct {} := List.nodup_nil
    exact foldlM_keeps (fun _ _ _ => addResource_distinct) hempty (getMeasurements_fold h)
  · intro node hnode
    exact (getMeasurements_kept h node hnode).stated

end Documents

end AttestationSdk.Rim

namespace AttestationSdk.LocalVerifier
open AttestationSdk.Claims AttestationSdk.Rim ExceptRules
variable {runtime : Runtime} {source : MeasurementSource} {skips : Int → Bool}
  {golden : Measurements}

/-- The runtime measurement at an index is one of the alternatives. -/
def Matches (runtime : Runtime) (index : Int) (alternatives : List Bytes) : Prop :=
  ∃ value ∈ alternatives, runtime.lookup index = some value

theorem mismatch_ne_none {index : Int} {m : Measurement} {size : Nat} {value : String} :
    mismatch source index m size value ≠ .ok none := by
  rw [mismatch]
  split <;> simp

theorem compareMeasurement_none_iff {index : Int} {m : Measurement} :
    compareMeasurement runtime source index m = .ok none ↔ Matches runtime index m.values := by
  rw [compareMeasurement, Matches]
  cases hlookup : runtime.lookup index with
  | none => simp [mismatch_ne_none]
  | some value =>
    by_cases hmem : value ∈ m.values
    · simp [hmem]
    · simp [hmem, mismatch_ne_none]

/-- No record is left exactly where each index that is not skipped matches. -/
theorem compareAll_nil_iff {indices : List Int}
    {records : List SerializableMismatchedMeasurements} :
    compareAll runtime source skips golden indices records = .ok [] ↔
      records = [] ∧ ∀ index ∈ indices, skips index = true ∨
        ∃ m, golden.getMeasurementAtIndex index = .ok m ∧ Matches runtime index m.values := by
  induction indices generalizing records with
  | nil => simp [compareAll]
  | cons index rest ih =>
    rw [compareAll, List.forall_mem_cons]
    cases hskip : skips index with
    | true => simp [ih]
    | false =>
      simp only [Bool.false_eq_true, if_false, false_or, bind_eq_ok, ih, List.append_eq_nil_iff]
      constructor
      · rintro ⟨m, hm, record, hrecord, ⟨hrecords, hnone⟩, hrest⟩
        cases record with
        | none => exact ⟨hrecords, ⟨m, hm, compareMeasurement_none_iff.mp hrecord⟩, hrest⟩
        | some r => cases hnone
      · rintro ⟨hrecords, ⟨m, hm, hmatches⟩, hrest⟩
        exact ⟨m, hm, none, compareMeasurement_none_iff.mpr hmatches, ⟨hrecords, rfl⟩, hrest⟩

/-- Every measurement but the skipped ones matches. -/
def AllMatch (runtime : Runtime) (skips : Int → Bool) (golden : Measurements) : Prop :=
  ∀ m ∈ golden.measurements, skips m.index = true ∨ Matches runtime m.index m.values

theorem compareAll_all_iff (hgolden : golden.Distinct)
    {records : List SerializableMismatchedMeasurements} :
    compareAll runtime source skips golden golden.getAllIndices records = .ok [] ↔
      records = [] ∧ AllMatch runtime skips golden := by
  rw [compareAll_nil_iff, Measurements.getAllIndices, List.forall_mem_map]
  refine and_congr_right fun _ => forall₂_congr fun m hm => ?_
  simp [Measurements.getMeasurementAtIndex_of_mem hgolden hm]

theorem measurementsMatching_iff {records : List SerializableMismatchedMeasurements} :
    (measurementClaims records).measurementsMatching = .Success ↔ records = [] := by
  cases records <;> simp [measurementClaims]

end AttestationSdk.LocalVerifier

namespace AttestationSdk.Gpu
open AttestationSdk.Rim AttestationSdk.LocalVerifier ExceptRules

/-- The NVDEC0 status is one of two bytes, and one of them leaves out measurement 35. -/
theorem isMsr35Valid_ok_iff {status : UInt8} {valid : Bool} :
    isMsr35Valid status = .ok valid ↔
      (status = nvdecStatusDisabled ∨ status = nvdecStatusEnabled) ∧
        valid = decide (status ≠ nvdecStatusDisabled) := by
  rw [isMsr35Valid]
  by_cases hdisabled : status = nvdecStatusDisabled
  · simp [hdisabled, eq_comm]
  · by_cases henabled : status = nvdecStatusEnabled
    · simp [henabled, nvdecStatusEnabled, nvdecStatusDisabled, eq_comm]
    · simp [hdisabled, henabled]

/-- Measurement 35 is left out exactly where the status byte is 0x55. -/
def skipsMsr35 (status : UInt8) (index : Int) : Bool :=
  index = 35 ∧ status = nvdecStatusDisabled

/-- No mismatch is recorded exactly where the documents do not conflict, the status byte
is known and all measurements match but 35 where it is left out. -/
theorem mismatchRecords_nil_iff {driver vbios : Measurements} {report : AttestationReport}
    (hdriver : driver.Distinct) (hvbios : vbios.Distinct) :
    mismatchRecords driver vbios report = .ok [] ↔
      indexConflict driver vbios = false ∧ ∃ status, report.getNvdec0Status = .ok status ∧
        (status = nvdecStatusDisabled ∨ status = nvdecStatusEnabled) ∧
        AllMatch report.getMeasurements (skipsMsr35 status) driver ∧
        AllMatch report.getMeasurements (skipsMsr35 status) vbios := by
  have hskips (status : UInt8) : (fun index : Int =>
      (decide (index = 35) && !decide (status ≠ nvdecStatusDisabled))) = skipsMsr35 status := by
    funext index
    simp [skipsMsr35]
  constructor
  · intro h
    obtain ⟨_, hconflict, h⟩ := bind_eq_ok.mp h
    obtain ⟨status, hstatus, h⟩ := bind_eq_ok.mp h
    obtain ⟨valid, hvalid, h⟩ := bind_eq_ok.mp h
    obtain ⟨records, hrecords, h⟩ := bind_eq_ok.mp h
    obtain ⟨hknown, rfl⟩ := isMsr35Valid_ok_iff.mp hvalid
    simp only [hskips] at h hrecords
    obtain ⟨rfl, hvbiosMatch⟩ := (compareAll_all_iff hvbios).mp h
    have hdriverMatch := ((compareAll_all_iff hdriver).mp hrecords).2
    exact ⟨by simpa using require_ok hconflict, status, hstatus, hknown, hdriverMatch, hvbiosMatch⟩
  · rintro ⟨hconflict, status, hstatus, hknown, hdriverMatch, hvbiosMatch⟩
    have hvalid : isMsr35Valid status = .ok (decide (status ≠ nvdecStatusDisabled)) :=
      isMsr35Valid_ok_iff.mpr ⟨hknown, rfl⟩
    have hfirst : compareAll report.getMeasurements .DRIVER (skipsMsr35 status) driver
        driver.getAllIndices [] = .ok [] := (compareAll_all_iff hdriver).mpr ⟨rfl, hdriverMatch⟩
    have hsecond : compareAll report.getMeasurements .VBIOS (skipsMsr35 status) vbios
        vbios.getAllIndices [] = .ok [] := (compareAll_all_iff hvbios).mpr ⟨rfl, hvbiosMatch⟩
    simp only [mismatchRecords, hconflict, require, Bool.not_false, if_true, ok_bind, hstatus,
      hvalid, hskips, hfirst, hsecond]

end AttestationSdk.Gpu
