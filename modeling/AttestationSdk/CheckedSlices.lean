import AttestationSdk.SpdmLayout

/-! `checked_assign` and `checked_copy_n` of `spdm/utils.h` on 64-bit offsets and lengths, with the
targets they write to. -/
namespace AttestationSdk.Buffer
open ByteLayout ExceptRules

/-- A `std::vector<uint8_t>`: its size is a `difference_type`. -/
structure ByteVector where
  bytes : Bytes
  fits : bytes.length < differenceBound

/-- `static_cast<difference_type>`. -/
def toDifference (n : UInt64) : Int := n.toInt64.toInt

/-- The lines that both functions share: the bytes of the range, or nothing where a test fails. -/
def checkedRange (source : ByteVector) (uOffset uLength : UInt64) : Except Fault (Option Bytes) :=
  if !canReadBuffer source.bytes uOffset.toNat uLength.toNat then .ok none
  else if toDifference uOffset < 0 then .ok none
  else if toDifference uLength < 0 then .ok none
  else do
    let data ← slice source.bytes (toDifference uOffset).toNat (toDifference uLength).toNat
    return some data

/-- `checked_assign`: what it returns, and the target. -/
def checkedAssignInto (target : Bytes) (source : ByteVector) (uOffset uLength : UInt64) :
    Except Fault (Bool × Bytes) := do
  match ← checkedRange source uOffset uLength with
  | none => return (false, target)
  | some data => return (true, data)

/-- `std::copy_n` to the start of an array; undefined past its end. -/
def copyN {n : Nat} (target : Vector UInt8 n) (data : Bytes) : Except Fault (Vector UInt8 n) :=
  if data.length ≤ n then .ok (Vector.ofFn fun i => data.getD i target[i]) else .error .undefined

/-- `checked_copy_n`: what it returns, and the target. -/
def checkedCopyNInto {n : Nat} (target : Vector UInt8 n) (source : ByteVector)
    (uOffset uLength : UInt64) : Except Fault (Bool × Vector UInt8 n) :=
  if n < uLength.toNat then .ok (false, target) else do
    match ← checkedRange source uOffset uLength with
    | none => return (false, target)
    | some data => return (true, ← copyN target data)

section Words
variable {n offset length : UInt64} {source : ByteVector}

/-- A word that is no negative difference is less than half of all words. -/
theorem toDifference_eq (n : UInt64) :
    toDifference n = if n.toNat < differenceBound then (n.toNat : Int)
      else n.toNat - (sizeModulus : Int) := by
  change n.toBitVec.toInt = _
  rw [BitVec.toInt_eq_toNat_cond, differenceBound, sizeModulus]
  change (if 2 * n.toNat < 2 ^ 64 then (n.toNat : Int) else n.toNat - ((2 ^ 64 : Nat) : Int)) = _
  split <;> split <;> omega

theorem toDifference_neg_iff : toDifference n < 0 ↔ differenceBound ≤ n.toNat := by
  have hn : n.toNat < 18446744073709551616 := n.toNat_lt
  rw [toDifference_eq, sizeModulus]
  split <;> omega

theorem toNat_toDifference (h : n.toNat < differenceBound) : (toDifference n).toNat = n.toNat := by
  rw [toDifference_eq, if_pos h]
  rfl

/-- The tests on words are those on their values. -/
theorem checkedRange_eq (source : ByteVector) (offset length : UInt64) :
    checkedRange source offset length =
      checkedAssign source.bytes offset.toNat length.toNat := by
  rw [checkedRange, checkedAssign]
  by_cases hread : (!canReadBuffer source.bytes offset.toNat length.toNat) = true
  · rw [if_pos hread, if_pos hread]
  · rw [if_neg hread, if_neg hread]
    by_cases hoffset : toDifference offset < 0
    · rw [if_pos hoffset, if_pos (.inl (toDifference_neg_iff.mp hoffset))]
    · rw [if_neg hoffset]
      have hsmall := mt toDifference_neg_iff.mpr hoffset
      by_cases hlength : toDifference length < 0
      · rw [if_pos hlength, if_pos (.inr (toDifference_neg_iff.mp hlength))]
      · have hshort := mt toDifference_neg_iff.mpr hlength
        have hneither : ¬ (9223372036854775808 ≤ offset.toNat ∨
            9223372036854775808 ≤ length.toNat) := not_or.mpr ⟨hsmall, hshort⟩
        rw [if_neg hlength, if_neg hneither, toNat_toDifference (Nat.lt_of_not_le hsmall),
          toNat_toDifference (Nat.lt_of_not_le hshort)]
        cases slice source.bytes offset.toNat length.toNat <;> rfl

/-- A range is found exactly where it is inside the vector, which no wrapped sum hides. -/
theorem checkedRange_cases (source : ByteVector) (offset length : UInt64) :
    (offset.toNat + length.toNat ≤ source.bytes.length ∧ checkedRange source offset length =
      .ok (some ((source.bytes.drop offset.toNat).take length.toNat))) ∨
    (¬ offset.toNat + length.toNat ≤ source.bytes.length ∧
      checkedRange source offset length = .ok none) := by
  have hfits := source.fits
  rw [checkedRange_eq]
  by_cases hinside : offset.toNat + length.toNat ≤ source.bytes.length
  · refine .inl ⟨hinside, checkedAssign_iff.mpr ⟨fieldAt_slice hinside, ?_, by omega, by omega⟩⟩
    rw [List.length_take, List.length_drop]
    omega
  · refine .inr ⟨hinside, ?_⟩
    obtain ⟨found, hfound⟩ := checkedAssign_total source.bytes offset.toNat length.toNat
    cases found with
    | none => exact hfound
    | some field =>
      obtain ⟨hat, hlength, -⟩ := checkedAssign_iff.mp hfound
      have hle := hat.le
      rw [hlength] at hle
      exact absurd hle hinside

end Words

/-- What `checked_assign` is to leave. -/
structure AssignExact (source : ByteVector) (offset length : UInt64) (target : Bytes)
    (outcome : Bool × Bytes) : Prop where
  returns : outcome.1 = true ↔ offset.toNat + length.toNat ≤ source.bytes.length
  assigned : outcome.1 = true → outcome.2 = (source.bytes.drop offset.toNat).take length.toNat
  unchanged : outcome.1 = false → outcome.2 = target

/-- What `checked_copy_n` is to leave. -/
structure CopyExact {n : Nat} (source : ByteVector) (offset length : UInt64)
    (target : Vector UInt8 n) (outcome : Bool × Vector UInt8 n) : Prop where
  returns : outcome.1 = true ↔
    offset.toNat + length.toNat ≤ source.bytes.length ∧ length.toNat ≤ n
  copied : outcome.1 = true → ∀ (i : Nat) (h : i < n), i < length.toNat →
    source.bytes[offset.toNat + i]? = some outcome.2[i]
  kept : ∀ (i : Nat) (h : i < n), length.toNat ≤ i → outcome.2[i] = target[i]
  unchanged : outcome.1 = false → outcome.2 = target

theorem checkedAssignInto_exact (source : ByteVector) (offset length : UInt64) (target : Bytes) :
    ∃ outcome, checkedAssignInto target source offset length = .ok outcome ∧
      AssignExact source offset length target outcome := by
  rcases checkedRange_cases source offset length with ⟨hinside, hrange⟩ | ⟨houtside, hrange⟩
  · refine ⟨(true, _), ?_, iff_of_true rfl hinside, fun _ => rfl, (fun h => by cases h)⟩
    rw [checkedAssignInto, hrange]
    rfl
  · refine ⟨(false, target), ?_, iff_of_false Bool.false_ne_true houtside, (fun h => by cases h),
      fun _ => rfl⟩
    rw [checkedAssignInto, hrange]
    rfl

/-- What is copied stands at the start of the array, and the rest of the array stays. -/
theorem copyN_ok {n : Nat} (target : Vector UInt8 n) {data : Bytes} (hfits : data.length ≤ n) :
    ∃ copied, copyN target data = .ok copied ∧
      (∀ (i : Nat) (h : i < n), i < data.length → data[i]? = some copied[i]) ∧
      ∀ (i : Nat) (h : i < n), data.length ≤ i → copied[i] = target[i] := by
  refine ⟨_, if_pos hfits, fun i h hi => ?_, fun i h hi => ?_⟩
  · rw [Vector.getElem_ofFn, List.getD_eq_getElem?_getD, List.getElem?_eq_getElem hi]
    rfl
  · rw [Vector.getElem_ofFn, List.getD_eq_getElem?_getD, List.getElem?_eq_none hi]
    rfl

theorem checkedCopyNInto_exact {n : Nat} (source : ByteVector) (offset length : UInt64)
    (target : Vector UInt8 n) :
    ∃ outcome, checkedCopyNInto target source offset length = .ok outcome ∧
      CopyExact source offset length target outcome := by
  by_cases hlarge : n < length.toNat
  · refine ⟨(false, target), if_pos hlarge, iff_of_false Bool.false_ne_true ?_,
      (fun h => by cases h), fun i h _ => rfl, fun _ => rfl⟩
    exact fun h => absurd h.2 (Nat.not_le.mpr hlarge)
  rcases checkedRange_cases source offset length with ⟨hinside, hrange⟩ | ⟨houtside, hrange⟩
  · have hlength : ((source.bytes.drop offset.toNat).take length.toNat).length =
        length.toNat := by
      rw [List.length_take, List.length_drop]
      omega
    obtain ⟨copied, hcopied, hfirst, hrest⟩ := copyN_ok target
      (hlength.trans_le (Nat.le_of_not_lt hlarge))
    rw [hlength] at hfirst hrest
    refine ⟨(true, copied), ?_, iff_of_true rfl ⟨hinside, Nat.le_of_not_lt hlarge⟩,
      fun _ i h hi => ?_, hrest, (fun h => by cases h)⟩
    · rw [checkedCopyNInto, if_neg hlarge, hrange, ok_bind]
      dsimp only
      rw [hcopied]
      rfl
    · rw [← hfirst i h hi, List.getElem?_take_of_lt hi, List.getElem?_drop]
  · refine ⟨(false, target), ?_, iff_of_false Bool.false_ne_true fun h => houtside h.1,
      (fun h => by cases h), fun i h _ => rfl, fun _ => rfl⟩
    rw [checkedCopyNInto, if_neg hlarge, hrange]
    rfl

/-- Both functions take a range exactly where it is inside the vector as natural numbers, and the
array where it is also long enough; where they return false the target is as it was. -/
theorem checked_slices_exact {n : Nat} (source : ByteVector) (offset length : UInt64)
    (target : Bytes) (array : Vector UInt8 n) :
    (∃ outcome, checkedAssignInto target source offset length = .ok outcome ∧
      AssignExact source offset length target outcome) ∧
    ∃ outcome, checkedCopyNInto array source offset length = .ok outcome ∧
      CopyExact source offset length array outcome :=
  ⟨checkedAssignInto_exact source offset length target,
    checkedCopyNInto_exact source offset length array⟩

-- the sum of the two is zero, and the sign of the offset refuses it
example : checkedAssignInto [7] ⟨[1, 2], by decide⟩ 18446744073709551615 1 = .ok (false, [7]) := by
  rfl

end AttestationSdk.Buffer
