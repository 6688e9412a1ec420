import AttestationSdk.DeclaredFieldTypes
import AttestationSdk.GpuSoundness
import AttestationSdk.SwitchEvidence

/-! The identifiers by which GPUs and NVSwitches name each other agree. -/
namespace AttestationSdk.Text

def upperHexDigits : List Char := lowerHexDigits.map Char.toUpper

theorem toLower_toUpper : ∀ c ∈ lowerHexDigits, c.toUpper.toLower = c := by
  have hall : (lowerHexDigits.all fun c => c.toUpper.toLower == c) = true := by decide
  simpa only [List.all_eq_true, beq_iff_eq] using hall

/-- Upper case loses nothing of a lower-case hexadecimal text. -/
theorem toUpper_toHexString_injective {a b : Bytes}
    (h : toUpper (toHexString a) = toUpper (toHexString b)) : a = b := by
  have hback (data : Bytes) :
      (toUpper (toHexString data)).toList.map Char.toLower = (toHexString data).toList := by
    rw [toUpper, String.toList_map, List.map_map]
    refine (List.map_congr_left fun c hc => ?_).trans (List.map_id _)
    exact toLower_toUpper c (toHexString_chars data c hc)
  refine toHexString_injective (String.toList_inj.mp ?_)
  rw [← hback a, ← hback b, h]

end AttestationSdk.Text

namespace AttestationSdk.Report

theorem mem_insertSet {s t : String} {set : List String} :
    t ∈ insertSet s set ↔ t = s ∨ t ∈ set := by
  induction set with
  | nil => simp [insertSet]
  | cons u rest ih =>
    rw [insertSet]
    split
    · next heq => simp [heq]
    · split
      · exact List.mem_cons
      · rw [List.mem_cons, ih, List.mem_cons]
        exact or_left_comm

theorem insertSet_increasing {s : String} {set : List String} (h : set.Pairwise (· < ·)) :
    (insertSet s set).Pairwise (· < ·) := by
  induction set with
  | nil => exact List.pairwise_singleton _ _
  | cons u rest ih =>
    obtain ⟨hfirst, hrest⟩ := List.pairwise_cons.mp h
    rw [insertSet]
    split
    · exact h
    · next hne =>
      split
      · next hlt =>
        refine List.pairwise_cons.mpr ⟨fun t ht => ?_, h⟩
        cases List.mem_cons.mp ht with
        | inl heq => exact heq ▸ hlt
        | inr hin => exact String.lt_trans hlt (hfirst t hin)
      · next hge =>
        have hgt : u < s := by
          refine String.not_le.mp fun hle => ?_
          exact hne (String.le_antisymm hle (String.not_lt.mp hge))
        refine List.pairwise_cons.mpr ⟨fun t ht => ?_, ih hrest⟩
        cases mem_insertSet.mp ht with
        | inl heq => exact heq ▸ hgt
        | inr hin => exact hfirst t hin

/-- A set is walked in increasing order and holds what was put into it. -/
theorem sortedSet_spec (strings : List String) : (sortedSet strings).Pairwise (· < ·) ∧
    ∀ s, s ∈ sortedSet strings ↔ s ∈ strings := by
  have hfold (strings set : List String) (hset : set.Pairwise (· < ·)) :
      (strings.foldl (fun set s => insertSet s set) set).Pairwise (· < ·) ∧
        ∀ s, s ∈ strings.foldl (fun set s => insertSet s set) set ↔ s ∈ strings ∨ s ∈ set := by
    induction strings generalizing set with
    | nil => exact ⟨hset, fun s => by simp⟩
    | cons t rest ih =>
      obtain ⟨hincreasing, hmem⟩ := ih (insertSet t set) (insertSet_increasing hset)
      refine ⟨hincreasing, fun s => (hmem s).trans ?_⟩
      rw [mem_insertSet, List.mem_cons, ← or_assoc, or_comm (a := s ∈ rest)]
  obtain ⟨hincreasing, hmem⟩ := hfold strings [] List.Pairwise.nil
  exact ⟨hincreasing, fun s => (hmem s).trans (by simp)⟩

end AttestationSdk.Report

namespace AttestationSdk.OpaqueData
open AttestationSdk.Spdm Buffer ExceptRules

theorem copyElements_size {size count : Nat} {data : Bytes} {elements : List Bytes}
    (h : copyElements size count data = .ok elements) : ∀ e ∈ elements, e.length = size := by
  intro e he
  obtain ⟨i, -, hi⟩ := (mem_mapM h).2 e he
  exact (checkedCopyN_iff.mp (orCode_iff.mp hi)).2.1

/-- The PDIs under a type all have eight bytes. -/
def PdisSized (type : Nat) (fields : Fields) : Prop :=
  ∀ pdis, fields.lookup type = some (.pdiVector pdis) → ∀ p ∈ pdis, p.length = pdiDataSize

theorem Gpu.stored_pdis_sized {fields : List ParsedOpaqueFieldData}
    {parser : Gpu.GpuOpaqueDataParser} (h : Gpu.create fields = .ok parser) :
    PdisSized Gpu.SWITCH_PDI parser.fields := by
  intro pdis hpdis p hp
  obtain ⟨field, hfield, hentry⟩ := Gpu.stored_lastOf h hpdis
  have hdecoded : Gpu.decoded field = .pdiVector (groupsOf pdiDataSize field.data) := by
    rw [Gpu.decoded, (of_lastOf hfield).2, if_neg (by decide), if_pos rfl]
  rw [hdecoded, ParsedField.pdiVector.injEq] at hentry
  exact groupsOf_length (hentry ▸ hp)

theorem Switch.stored_pdis_sized {fields : List ParsedOpaqueFieldData} {stored : Fields}
    (h : Switch.create fields = .ok stored) : PdisSized Switch.SWITCH_GPU_PDIS stored := by
  refine foldlM_keeps (fun before field after hsized hstep => ?_) (fun pdis hnone => ?_) h
  · intro pdis hpdis
    by_cases htype : field.type = Switch.SWITCH_GPU_PDIS
    · obtain ⟨_, -, hwrite⟩ := bind_eq_ok.mp hstep
      rw [if_neg (htype ▸ by decide), if_pos htype] at hwrite
      obtain ⟨copied, hcopy, hafter⟩ := bind_eq_ok.mp hwrite
      rw [← Except.ok.inj hafter, htype, lookup_setField, if_pos rfl, Option.some.injEq,
        ParsedField.pdiVector.injEq] at hpdis
      exact hpdis ▸ copyElements_size hcopy
    · refine hsized pdis ?_
      rw [← hpdis, (Switch.addField_spec hstep).2, if_neg (Ne.symm htype),
        if_neg fun hboth => htype hboth.1]
  · cases hnone

end AttestationSdk.OpaqueData

namespace AttestationSdk.Topology
open AttestationSdk.OpaqueData AttestationSdk.Text AttestationSdk.Report ExceptRules

/-- A PDI as a switch writes its own. -/
def pdiText (pdi : Bytes) : String := toUpper (toHexString pdi)

/-- Identifiers in increasing order, each of sixteen upper-case digits. -/
structure SortedIdentifiers (strings : List String) : Prop where
  increasing : strings.Pairwise (· < ·)
  digits : ∀ s ∈ strings, s.length = 16 ∧ ∀ c ∈ s.toList, c ∈ upperHexDigits

theorem pdiText_digits {pdi : Bytes} (h : pdi.length = pdiDataSize) :
    (pdiText pdi).length = 16 ∧ ∀ c ∈ (pdiText pdi).toList, c ∈ upperHexDigits := by
  constructor
  · rw [pdiText, toUpper, ← String.length_toList, String.toList_map, List.length_map,
      toHexString_length, h, pdiDataSize]
  · intro c hc
    rw [pdiText, toUpper, String.toList_map] at hc
    obtain ⟨d, hd, rfl⟩ := List.mem_map.mp hc
    exact List.mem_map_of_mem (toHexString_chars pdi d hd)

theorem sortedIdentifiers_texts {pdis : List Bytes} (h : ∀ p ∈ pdis, p.length = pdiDataSize) :
    SortedIdentifiers (sortedSet (pdis.map pdiText)) := by
  obtain ⟨hincreasing, hmem⟩ := sortedSet_spec (pdis.map pdiText)
  refine ⟨hincreasing, fun s hs => ?_⟩
  obtain ⟨p, hp, rfl⟩ := List.mem_map.mp ((hmem s).mp hs)
  exact pdiText_digits (h p hp)

theorem getGpuSwitchPdis_eq {gpu : Gpu.AttestationReport} {pdis : List Bytes}
    (h : gpu.opaqueData.fields.lookup Gpu.SWITCH_PDI = some (.pdiVector pdis)) :
    gpu.getGpuSwitchPdis = .ok (sortedSet ((pdis.map List.reverse).map pdiText)) := by
  rw [Gpu.AttestationReport.getGpuSwitchPdis, getField, h, List.map_map]
  rfl

theorem getSwitchGpuPdis_eq {switch : Switch.AttestationReport} {pdis : List Bytes}
    (h : switch.fields.lookup Switch.SWITCH_GPU_PDIS = some (.pdiVector pdis)) :
    switch.getSwitchGpuPdis = .ok (sortedSet (pdis.map pdiText)) := by
  rw [Switch.AttestationReport.getSwitchGpuPdis, getField, h]
  rfl

theorem getSwitchPdi_eq {switch : Switch.AttestationReport} {pdi : Bytes}
    (h : switch.fields.lookup Switch.DEVICE_PDI = some (.byteVector pdi)) :
    switch.getSwitchPdi = .ok (pdiText pdi) := by
  rw [Switch.AttestationReport.getSwitchPdi, getBytes, getField, h]
  rfl

/-- The lists of both kinds of report are sorted identifiers, and a GPU's list has the identifier
that a switch reports of itself exactly where the GPU reported that switch. -/
theorem topology_identifiers_agree :
    (∀ (gpu : Gpu.AttestationReport) (pdis : List Bytes),
      gpu.opaqueData.fields.lookup Gpu.SWITCH_PDI = some (.pdiVector pdis) →
      (∀ p ∈ pdis, p.length = pdiDataSize) →
      ∃ strings, gpu.getGpuSwitchPdis = .ok strings ∧ SortedIdentifiers strings ∧
        (∀ s, s ∈ strings ↔ ∃ p ∈ pdis, pdiText p.reverse = s) ∧
        ∀ (switch : Switch.AttestationReport) (q : Bytes),
          switch.fields.lookup Switch.DEVICE_PDI = some (.byteVector q) →
          ∃ s, switch.getSwitchPdi = .ok s ∧ (s ∈ strings ↔ q.reverse ∈ pdis)) ∧
    (∀ (switch : Switch.AttestationReport) (pdis : List Bytes),
      switch.fields.lookup Switch.SWITCH_GPU_PDIS = some (.pdiVector pdis) →
      (∀ p ∈ pdis, p.length = pdiDataSize) →
      ∃ strings, switch.getSwitchGpuPdis = .ok strings ∧ SortedIdentifiers strings ∧
        ∀ s, s ∈ strings ↔ ∃ p ∈ pdis, pdiText p = s) ∧
    (∀ (switch : Switch.AttestationReport) (p : Bytes),
      switch.fields.lookup Switch.DEVICE_PDI = some (.byteVector p.reverse) →
      switch.getSwitchPdi = .ok (pdiText p.reverse)) ∧
    ∀ p q : Bytes, pdiText p.reverse = pdiText q.reverse → p = q := by
  have hinjective {a b : Bytes} (h : pdiText a = pdiText b) : a = b :=
    toUpper_toHexString_injective h
  refine ⟨fun gpu pdis hpdis hsize => ?_, fun switch pdis hpdis hsize => ?_,
    fun switch p hp => getSwitchPdi_eq hp, fun p q h => List.reverse_injective (hinjective h)⟩
  · have hreversed : ∀ p ∈ pdis.map List.reverse, p.length = pdiDataSize := by
      intro p hp
      obtain ⟨q, hq, rfl⟩ := List.mem_map.mp hp
      rw [List.length_reverse, hsize q hq]
    have hmem (s : String) : s ∈ sortedSet ((pdis.map List.reverse).map pdiText) ↔
        ∃ p ∈ pdis, pdiText p.reverse = s := by
      rw [(sortedSet_spec _).2, List.map_map, List.mem_map]
      rfl
    refine ⟨_, getGpuSwitchPdis_eq hpdis, sortedIdentifiers_texts hreversed, hmem,
      fun switch q hq => ⟨_, getSwitchPdi_eq hq, (hmem _).trans ⟨fun h => ?_, fun h => ?_⟩⟩⟩
    · obtain ⟨p, hp, heq⟩ := h
      rw [← hinjective heq, List.reverse_reverse]
      exact hp
    · exact ⟨q.reverse, h, by rw [List.reverse_reverse]⟩
  · refine ⟨_, getSwitchGpuPdis_eq hpdis, sortedIdentifiers_texts hsize, fun s => ?_⟩
    rw [(sortedSet_spec _).2, List.mem_map]

/-- A switch that reports the bytes of the second PDI of a GPU in reverse. -/
theorem topology_identifiers_agree_pair :
    ∃ strings s, Gpu.AttestationReport.getGpuSwitchPdis ⟨GpuSample.report.toSignedMessages,
        ⟨[(22, .pdiVector [List.replicate 8 9, [1, 2, 3, 4, 5, 6, 7, 8]])], 0⟩⟩ = .ok strings ∧
      Switch.AttestationReport.getSwitchPdi ⟨GpuSample.report.toSignedMessages,
        [(22, .byteVector [8, 7, 6, 5, 4, 3, 2, 1])]⟩ = .ok s ∧ s ∈ strings := by
  obtain ⟨strings, hstrings, -, -, hswitch⟩ := topology_identifiers_agree.1
    ⟨GpuSample.report.toSignedMessages,
      ⟨[(22, .pdiVector [List.replicate 8 9, [1, 2, 3, 4, 5, 6, 7, 8]])], 0⟩⟩ _ rfl (by decide)
  obtain ⟨s, hs, hmem⟩ := hswitch ⟨GpuSample.report.toSignedMessages,
    [(22, .byteVector [8, 7, 6, 5, 4, 3, 2, 1])]⟩ _ rfl
  exact ⟨strings, s, hstrings, hs, hmem.mpr (by decide)⟩

end AttestationSdk.Topology
