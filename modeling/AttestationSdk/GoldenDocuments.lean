import AttestationSdk.MeasurementComparison
import AttestationSdk.LocalSwitchVerifier

/-! What a RIM document leaves to compare: when a successful result means that something was
compared, and when no comparison reads an alternative that is not there. -/
namespace AttestationSdk.Rim
open AttestationSdk.Text ExceptRules

/-- Inserting at the place of its index keeps the indices in order. -/
theorem insert_pairwise {m : Measurement} {ms : List Measurement}
    (h : ms.Pairwise (·.index < ·.index)) (hfree : ∀ x ∈ ms, x.index ≠ m.index) :
    (Measurements.insert m ms).Pairwise (·.index < ·.index) := by
  induction ms with
  | nil => simp [Measurements.insert]
  | cons x rest ih =>
    obtain ⟨hx, hrest⟩ := List.pairwise_cons.mp h
    rw [Measurements.insert]
    split
    · next hlt =>
      refine List.pairwise_cons.mpr ⟨fun y hy => ?_, h⟩
      cases List.mem_cons.mp hy with
      | inl heq => exact heq ▸ hlt
      | inr hin => exact lt_trans hlt (hx y hin)
    · next hge =>
      have hlater := ih hrest fun y hy => hfree y (List.mem_cons_of_mem x hy)
      refine List.pairwise_cons.mpr ⟨fun y hy => ?_, hlater⟩
      cases List.mem_cons.mp ((Measurements.insert_perm m rest).mem_iff.mp hy) with
      | inl heq =>
        have hne := hfree x List.mem_cons_self
        subst heq
        omega
      | inr hin => exact hx y hin

theorem increasing_iff {ms : Measurements} :
    ms.Increasing ↔ ms.measurements.Pairwise (·.index < ·.index) := by
  rw [Measurements.Increasing, Measurements.getAllIndices, List.pairwise_map]

theorem addResource_increasing {ms ms' : Measurements} {node : Xml} (hms : ms.Increasing)
    (h : addResource ms node = .ok ms') : ms'.Increasing := by
  cases addResource_states h with
  | inl hinactive => exact hinactive.2 ▸ hms
  | inr hadded =>
    obtain ⟨m, _, hadd⟩ := hadded
    have hfree := (Measurements.addMeasurement_ok hadd).1
    rw [Measurements.addMeasurement] at hadd
    split at hadd
    · cases hadd
    · cases hadd
      refine increasing_iff.mpr (insert_pairwise (increasing_iff.mp hms) fun x hx heq => hfree ?_)
      exact heq ▸ List.mem_map_of_mem hx

theorem addResource_mem {ms ms' : Measurements} {node : Xml} (h : addResource ms node = .ok ms')
    {m : Measurement} (hm : m ∈ ms'.measurements) : m ∈ ms.measurements ∨ States node m := by
  cases addResource_states h with
  | inl hinactive => exact .inl (hinactive.2 ▸ hm)
  | inr hadded =>
    obtain ⟨new, hnew, hadd⟩ := hadded
    cases List.mem_cons.mp ((Measurements.addMeasurement_ok hadd).2.mem_iff.mp hm) with
    | inl heq => exact .inr (heq ▸ hnew)
    | inr hin => exact .inl hin

section Documents
variable {rim : RimDocument} {ms : Measurements}

theorem getMeasurements_increasing (h : rim.getMeasurements = .ok ms) : ms.Increasing := by
  have hempty : Measurements.Increasing {} := List.Pairwise.nil
  exact foldlM_keeps (fun _ _ _ => addResource_increasing) hempty (getMeasurements_fold h)

/-- Every measurement of a document is stated by one of its resources. -/
theorem getMeasurements_states (h : rim.getMeasurements = .ok ms) :
    ∀ m ∈ ms.measurements, ∃ node ∈ rim.resources, States node m := by
  refine foldlM_keeps_of_mem (P := fun ms : Measurements => ∀ m ∈ ms.measurements,
    ∃ node ∈ rim.resources, States node m) ?_ (by simp) (getMeasurements_fold h)
  intro node hnode b b' hb hstep m hm
  cases addResource_mem hstep hm with
  | inl hold => exact hb m hold
  | inr hstates => exact ⟨node, hnode, hstates⟩

end Documents

end AttestationSdk.Rim

namespace AttestationSdk.Gpu
open AttestationSdk.Claims AttestationSdk.Rim AttestationSdk.LocalVerifier ExceptRules
variable {driver vbios : Measurements} {report : AttestationReport}

/-- Where every measurement has an alternative, the comparison reads nothing undefined. -/
theorem generate_defined (hdriver : driver.Distinct) (hvbios : vbios.Distinct)
    (hdriverValues : driver.HasAlternatives) (hvbiosValues : vbios.HasAlternatives)
    (report : AttestationReport) (claims : SerializableGpuClaimsV3) :
    generateSetMeasurementClaims driver vbios report claims ≠ .error .undefined := by
  by_cases hconflict : Conflict driver vbios
  · rw [generate_conflict hconflict]
    simp
  rcases getNvdec0Status_cases report with ⟨status, hstatus, _⟩ | ⟨hstatus, _⟩ | ⟨hstatus, _⟩
  · by_cases hknown : status = 0xAA ∨ status = 0x55
    · rw [generate_known hdriver hvbios hdriverValues hvbiosValues hconflict hstatus hknown]
      simp
    · rw [generate_unknown hconflict hstatus (fun h => hknown (.inl h)) fun h => hknown (.inr h)]
      simp
  · rw [generate_statusError hconflict hstatus]
    simp
  · rw [generate_statusError hconflict hstatus]
    simp

/-- The call succeeds exactly where there is no conflict, the status is known and every
measurement that is compared matches. -/
theorem generate_success_iff (hdriver : driver.Distinct) (hvbios : vbios.Distinct)
    (claims : SerializableGpuClaimsV3) :
    (∃ claims', generateSetMeasurementClaims driver vbios report claims = .ok claims' ∧
        claims'.measurementsMatching = .Success) ↔
      ¬ Conflict driver vbios ∧ ∃ status, report.getNvdec0Status = .ok status ∧
        (status = 0xAA ∨ status = 0x55) ∧
        AllMatch report.getMeasurements (skipsMsr35 status) driver ∧
        AllMatch report.getMeasurements (skipsMsr35 status) vbios := by
  have hnil : mismatchRecords driver vbios report = .ok [] ↔ _ :=
    mismatchRecords_nil_iff hdriver hvbios
  have hnil' : mismatchRecords driver vbios report = .ok [] ↔
      ¬ Conflict driver vbios ∧ ∃ status, report.getNvdec0Status = .ok status ∧
        (status = 0xAA ∨ status = 0x55) ∧
        AllMatch report.getMeasurements (skipsMsr35 status) driver ∧
        AllMatch report.getMeasurements (skipsMsr35 status) vbios := by
    rw [hnil, ← indexConflict_iff, Bool.not_eq_true]
    simp only [nvdecStatusDisabled, nvdecStatusEnabled, or_comm]
  rw [← hnil']
  constructor
  · rintro ⟨claims', hrun, hsuccess⟩
    obtain ⟨records, hrecords, rfl⟩ := generateSetMeasurementClaims_ok hrun
    rw [hrecords, measurementsMatching_iff.mp hsuccess]
  · intro hrecords
    rw [generateSetMeasurementClaims_eq, hrecords]
    exact ⟨_, rfl, rfl⟩

end AttestationSdk.Gpu

namespace AttestationSdk.Switch
open AttestationSdk.Claims AttestationSdk.Rim AttestationSdk.LocalVerifier ExceptRules
variable {golden : Measurements} {report : AttestationReport}

theorem generate_defined (hgolden : golden.Distinct) (hvalues : golden.HasAlternatives)
    (report : AttestationReport) (claims : SerializableSwitchClaimsV3) :
    generateSetMeasurementClaims golden report claims ≠ .error .undefined := by
  simp [generateSetMeasurementClaims, compareAll_eq hgolden hvalues]

theorem generate_success_iff (hgolden : golden.Distinct) (claims : SerializableSwitchClaimsV3) :
    (∃ claims', generateSetMeasurementClaims golden report claims = .ok claims' ∧
        claims'.measurementsMatching = .Success) ↔
      AllMatch report.getMeasurements (fun _ => false) golden := by
  have hnil : compareAll report.getMeasurements .VBIOS (fun _ => false) golden golden.getAllIndices
      [] = .ok [] ↔ _ := compareAll_all_iff hgolden
  constructor
  · rintro ⟨claims', hrun, hsuccess⟩
    obtain ⟨records, hrecords, h⟩ := bind_eq_ok.mp hrun
    cases h
    exact (hnil.mp (measurementsMatching_iff.mp hsuccess ▸ hrecords)).2
  · intro hmatch
    rw [generateSetMeasurementClaims, hnil.mpr ⟨rfl, hmatch⟩]
    exact ⟨_, rfl, rfl⟩

end AttestationSdk.Switch

namespace AttestationSdk.Rim
open AttestationSdk.Claims AttestationSdk.Text AttestationSdk.LocalVerifier ExceptRules

/-- The measurements of a document can be compared with any report: each has as many
alternatives as its resource says, at least one, no index comes twice, and neither verifier
reads an alternative that is not there. -/
structure SafeToCompare (rim : RimDocument) (golden : Measurements) : Prop where
  someValue : golden.HasAlternatives
  asMany : ∀ m ∈ golden.measurements, ∃ node ∈ rim.resources, States node m
  distinct : golden.Distinct
  gpu : ∀ other : Measurements, other.Distinct → other.HasAlternatives →
    ∀ (report : Gpu.AttestationReport) (claims : SerializableGpuClaimsV3),
      Gpu.generateSetMeasurementClaims golden other report claims ≠ .error .undefined ∧
      Gpu.generateSetMeasurementClaims other golden report claims ≠ .error .undefined
  switch : ∀ (report : Switch.AttestationReport) (claims : SerializableSwitchClaimsV3),
    Switch.generateSetMeasurementClaims golden report claims ≠ .error .undefined

/-- The measurements of an accepted document are safe to compare exactly where no active
resource announces zero alternatives. -/
theorem safe_to_compare_iff {rim : RimDocument} {golden : Measurements}
    (h : rim.getMeasurements = .ok golden) :
    SafeToCompare rim golden ↔ ∀ node ∈ rim.resources, node.getProp "active" = some "True" →
      ∀ text, node.getProp "alternatives" = some text → stoi text ≠ .ok 0 := by
  constructor
  · intro hsafe node hnode hactive text htext hzero
    obtain ⟨m, hm, _, hlength, text', htext', hcount⟩ := getMeasurements_kept h node hnode hactive
    have hsame : text = text' := Option.some.inj (htext.symm.trans htext')
    subst hsame
    have hnone : m.count = 0 := Except.ok.inj (hcount.symm.trans hzero)
    have hempty : m.values = [] := List.eq_nil_of_length_eq_zero (by omega)
    exact hsafe.someValue m hm hempty
  · intro hcounts
    have hstates := getMeasurements_states h
    have hdistinct := (getMeasurements_increasing h).distinct
    have hvalues : golden.HasAlternatives := by
      intro m hm hempty
      obtain ⟨node, hnode, hgolden, hlength, text, htext, hcount⟩ := hstates m hm
      have hzero : m.count = 0 := by simp [← hlength, hempty]
      exact hcounts node hnode hgolden.1 text htext (hzero ▸ hcount)
    refine ⟨hvalues, hstates, hdistinct, fun other hother hotherValues report claims => ⟨?_, ?_⟩, ?_⟩
    · exact Gpu.generate_defined hdistinct hother hvalues hotherValues report claims
    · exact Gpu.generate_defined hother hdistinct hotherValues hvalues report claims
    · exact Switch.generate_defined hdistinct hvalues

/-- A resource for measurement 3 with one hash value. -/
def resourceWith (active alternatives : String) : Xml :=
  .element (some iso19770Ns) "Resource" [⟨none, "type", "Measurement"⟩, ⟨none, "active", active⟩,
    ⟨none, "index", "3"⟩, ⟨none, "alternatives", alternatives⟩, ⟨none, "name", "M"⟩,
    ⟨none, "size", "48"⟩, ⟨some xmlEncSha384Ns, "Hash0", "aa"⟩] []

def documentWith (active alternatives : String) : RimDocument :=
  { doc := some (resourceWith active alternatives) }

theorem documentWith_resources (active alternatives : String) :
    (documentWith active alternatives).resources = [resourceWith active alternatives] := by
  simp [RimDocument.resources, RimDocument.select, documentWith, resourceWith, Xml.elements,
    elementsOf, Xml.isElement, Xml.plainAttr, Xml.attrs]

theorem documentWith_measurements :
    (documentWith "True" "1").getMeasurements = .ok ⟨[⟨true, 3, 48, 1, [[0xaa]], "M"⟩]⟩ := by
  decide

theorem safe_to_compare_sample :
    SafeToCompare (documentWith "True" "1") ⟨[⟨true, 3, 48, 1, [[0xaa]], "M"⟩]⟩ := by
  refine (safe_to_compare_iff documentWith_measurements).mpr ?_
  rw [documentWith_resources]
  intro node hnode _ text htext
  obtain rfl := List.mem_singleton.mp hnode
  obtain rfl : "1" = text := Option.some.inj htext
  decide

/-- A switch report with these runtime measurements. -/
def switchReportOf (blocks : Spdm.Blocks) : Switch.AttestationReport :=
  ⟨(Gpu.reportOf [] blocks).toSignedMessages, []⟩

/-- A measurement with no alternative is accepted, and comparing it reads the first one. -/
theorem zero_alternatives_accepted :
    ¬ ∀ (rim : RimDocument) (golden : Measurements), rim.getMeasurements = .ok golden →
      SafeToCompare rim golden := by
  intro h
  have hgolden : (documentWith "True" "0").getMeasurements =
      .ok ⟨[⟨true, 3, 48, 0, [], "M"⟩]⟩ := by decide
  exact (h _ _ hgolden).switch (switchReportOf []) {} rfl

/-- Some active resource of the document is compared. -/
def LeavesComparison (rim : RimDocument) (skips : Int → Bool) : Prop :=
  ∃ node ∈ rim.resources, ∃ index alternatives, Golden node index alternatives ∧ skips index = false

/-- A golden measurement was compared with a runtime measurement and found equal. -/
def FoundEqual (runtime : Runtime) (skips : Int → Bool) (golden : Measurements) : Prop :=
  ∃ m ∈ golden.measurements, skips m.index = false ∧ Matches runtime m.index m.values

theorem foundEqual_of_allMatch {rim : RimDocument} {golden : Measurements} {runtime : Runtime}
    {skips : Int → Bool} (h : rim.getMeasurements = .ok golden)
    (hmatch : AllMatch runtime skips golden) :
    FoundEqual runtime skips golden ↔ LeavesComparison rim skips := by
  constructor
  · rintro ⟨m, hm, hskips, _⟩
    obtain ⟨node, hnode, hgolden, _⟩ := getMeasurements_states h m hm
    exact ⟨node, hnode, m.index, m.values, hgolden, hskips⟩
  · rintro ⟨node, hnode, index, alternatives, hgolden, hskips⟩
    obtain ⟨m, hm, rfl, _⟩ := (getMeasurements_ok h).2 node hnode index alternatives hgolden
    have hcompared := (hmatch m hm).resolve_left (by simp [hskips])
    exact ⟨m, hm, hskips, hcompared⟩

/-- A document none of whose measurements is compared matches every report. -/
theorem allMatch_of_nothing {rim : RimDocument} {golden : Measurements} {skips : Int → Bool}
    (h : rim.getMeasurements = .ok golden) (runtime : Runtime)
    (hnothing : ¬ LeavesComparison rim skips) : AllMatch runtime skips golden := by
  intro m hm
  obtain ⟨node, hnode, hgolden, _⟩ := getMeasurements_states h m hm
  by_contra hopen
  have hskips : skips m.index = false := by simpa using (not_or.mp hopen).1
  exact hnothing ⟨node, hnode, m.index, m.values, hgolden, hskips⟩

end AttestationSdk.Rim

namespace AttestationSdk.Rim
open AttestationSdk.Claims AttestationSdk.LocalVerifier

/-- A successful GPU result means that something was compared and found equal. -/
def GpuSuccessCompares (driver vbios : Measurements) (report : Gpu.AttestationReport) : Prop :=
  ∀ claims claims' status,
    Gpu.generateSetMeasurementClaims driver vbios report claims = .ok claims' →
    claims'.measurementsMatching = .Success → report.getNvdec0Status = .ok status →
    FoundEqual report.getMeasurements (Gpu.skipsMsr35 status) driver ∨
      FoundEqual report.getMeasurements (Gpu.skipsMsr35 status) vbios

/-- A successful switch result means that something was compared and found equal. -/
def SwitchSuccessCompares (golden : Measurements) (report : Switch.AttestationReport) : Prop :=
  ∀ claims claims', Switch.generateSetMeasurementClaims golden report claims = .ok claims' →
    claims'.measurementsMatching = .Success →
    FoundEqual report.getMeasurements (fun _ => false) golden

section Success
variable {driverRim vbiosRim : RimDocument} {driver vbios : Measurements}

theorem gpuSuccessCompares_iff (hdriver : driverRim.getMeasurements = .ok driver)
    (hvbios : vbiosRim.getMeasurements = .ok vbios) (report : Gpu.AttestationReport) :
    GpuSuccessCompares driver vbios report ↔
      Gpu.Conflict driver vbios ∨ ∀ status, report.getNvdec0Status = .ok status →
        status = 0xAA ∨ status = 0x55 →
        LeavesComparison driverRim (Gpu.skipsMsr35 status) ∨
          LeavesComparison vbiosRim (Gpu.skipsMsr35 status) := by
  have hdistinct := (getMeasurements_increasing hdriver).distinct
  have hdistinct' := (getMeasurements_increasing hvbios).distinct
  have hsuccess (claims : SerializableGpuClaimsV3) :
      (∃ claims', Gpu.generateSetMeasurementClaims driver vbios report claims = .ok claims' ∧
        claims'.measurementsMatching = .Success) ↔ _ :=
    Gpu.generate_success_iff hdistinct hdistinct' claims
  constructor
  · intro hcompares
    by_contra hopen
    obtain ⟨hconflict, hstatuses⟩ := not_or.mp hopen
    push Not at hstatuses
    obtain ⟨status, hstatus, hknown, hnoDriver, hnoVbios⟩ := hstatuses
    have hdriverMatch := allMatch_of_nothing hdriver report.getMeasurements hnoDriver
    have hvbiosMatch := allMatch_of_nothing hvbios report.getMeasurements hnoVbios
    obtain ⟨claims', hrun, hok⟩ :=
      (hsuccess {}).mpr ⟨hconflict, status, hstatus, hknown, hdriverMatch, hvbiosMatch⟩
    cases hcompares {} claims' status hrun hok hstatus with
    | inl hfound => exact hnoDriver ((foundEqual_of_allMatch hdriver hdriverMatch).mp hfound)
    | inr hfound => exact hnoVbios ((foundEqual_of_allMatch hvbios hvbiosMatch).mp hfound)
  · intro hcondition claims claims' status hrun hok hstatus
    obtain ⟨hconflict, status', hstatus', hknown, hdriverMatch, hvbiosMatch⟩ :=
      (hsuccess claims).mp ⟨claims', hrun, hok⟩
    have hsame : status' = status := Except.ok.inj (hstatus'.symm.trans hstatus)
    subst hsame
    exact ((hcondition.resolve_left hconflict) status' hstatus hknown).imp
      (foundEqual_of_allMatch hdriver hdriverMatch).mpr
      (foundEqual_of_allMatch hvbios hvbiosMatch).mpr

theorem switchSuccessCompares_iff (hvbios : vbiosRim.getMeasurements = .ok vbios)
    (report : Switch.AttestationReport) :
    SwitchSuccessCompares vbios report ↔ LeavesComparison vbiosRim fun _ => false := by
  have hsuccess (claims : SerializableSwitchClaimsV3) :
      (∃ claims', Switch.generateSetMeasurementClaims vbios report claims = .ok claims' ∧
        claims'.measurementsMatching = .Success) ↔ _ :=
    Switch.generate_success_iff (getMeasurements_increasing hvbios).distinct claims
  constructor
  · intro hcompares
    by_contra hnothing
    have hmatch := allMatch_of_nothing hvbios report.getMeasurements hnothing
    obtain ⟨claims', hrun, hok⟩ := (hsuccess {}).mpr hmatch
    exact hnothing ((foundEqual_of_allMatch hvbios hmatch).mp (hcompares {} claims' hrun hok))
  · intro hleaves claims claims' hrun hok
    have hmatch := (hsuccess claims).mp ⟨claims', hrun, hok⟩
    exact (foundEqual_of_allMatch hvbios hmatch).mpr hleaves

/-- When a successful result means that something was compared, for both verifiers. -/
theorem success_compares_iff (hdriver : driverRim.getMeasurements = .ok driver)
    (hvbios : vbiosRim.getMeasurements = .ok vbios) :
    (∀ report, GpuSuccessCompares driver vbios report ↔
      Gpu.Conflict driver vbios ∨ ∀ status, report.getNvdec0Status = .ok status →
        status = 0xAA ∨ status = 0x55 →
        LeavesComparison driverRim (Gpu.skipsMsr35 status) ∨
          LeavesComparison vbiosRim (Gpu.skipsMsr35 status)) ∧
    ∀ report, SwitchSuccessCompares vbios report ↔ LeavesComparison vbiosRim fun _ => false :=
  ⟨gpuSuccessCompares_iff hdriver hvbios, switchSuccessCompares_iff hvbios⟩

end Success

theorem success_compares_sample :
    SwitchSuccessCompares ⟨[⟨true, 3, 48, 1, [[0xaa]], "M"⟩]⟩ (switchReportOf []) ↔
      LeavesComparison (documentWith "True" "1") fun _ => false :=
  (success_compares_iff documentWith_measurements documentWith_measurements).2 (switchReportOf [])

/-- A document whose only measurement is inactive gives a successful result. -/
theorem inactive_document_succeeds :
    ¬ ∀ (driverRim vbiosRim : RimDocument) (driver vbios : Measurements),
      driverRim.getMeasurements = .ok driver → vbiosRim.getMeasurements = .ok vbios →
      (∀ report, GpuSuccessCompares driver vbios report) ∧
        ∀ report, SwitchSuccessCompares vbios report := by
  intro h
  have hgolden : (documentWith "False" "1").getMeasurements = .ok {} := by decide
  obtain ⟨m, hm, _⟩ := (h _ _ _ _ hgolden hgolden).2 (switchReportOf []) {} _ rfl rfl
  cases hm

end AttestationSdk.Rim
