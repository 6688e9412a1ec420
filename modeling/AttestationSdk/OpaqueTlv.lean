import AttestationSdk.CheckedSlices
import AttestationSdk.SpdmReuse

/-! The loop of `OpaqueDataParser::parse`: what it accepts, and that it ends inside the data. -/
namespace AttestationSdk.Spdm
open ByteLayout Buffer DerReader Effects ExceptRules

section Loop
variable {e : Error} {raw : Bytes} {fuel offset next : Nat} {field : ParsedOpaqueFieldData}
  {fields held : List ParsedOpaqueFieldData}

/-- The failures of a function that has one code for all of them. -/
abbrev OnlyCode {α : Type} (e : Error) (x : Except Fault α) : Prop := FailsOnly (· = .code e) x

theorem onlyCode_error {α : Type} {f : Fault} :
    OnlyCode e (.error f : Except Fault α) ↔ f = .code e := by
  constructor
  · exact fun h => h f rfl
  · exact fun h f' hf => (Except.error.inj hf).symm.trans h

theorem orCode_onlyCode {α : Type} {x : Except Fault (Option α)} (h : ∃ found, x = .ok found) :
    OnlyCode e (orCode e x) := by
  obtain ⟨found, hfound⟩ := h
  rw [hfound]
  cases found with
  | some a => exact failsOnly_ok _ a
  | none => exact onlyCode_error.mpr rfl

theorem onlyCode_require (cond : Bool) : OnlyCode e (require cond e) := by
  cases cond with
  | true => exact failsOnly_ok _ ()
  | false => exact onlyCode_error.mpr rfl

/-- A field that is read begins at the offset and ends inside the data, four bytes on or more. -/
theorem readField_ok (h : readField e raw offset = .ok (field, next)) :
    field.Fits ∧ FieldAt raw offset field.encode ∧ next = offset + field.encode.length ∧
      offset + 4 ≤ next ∧ next ≤ raw.length := by
  obtain ⟨type, htype, h⟩ := bind_eq_ok.mp h
  obtain ⟨size, hsize, h⟩ := bind_eq_ok.mp h
  obtain ⟨data, hdata, h⟩ := bind_eq_ok.mp h
  cases h
  obtain ⟨htypeFits, htypeAt⟩ := readUint16_iff.mp htype
  obtain ⟨hsizeFits, hsizeAt⟩ := readUint16_iff.mp hsize
  obtain ⟨hdataAt, rfl, -⟩ := assign_iff.mp hdata
  have hinside := hdataAt.le
  refine ⟨⟨htypeFits, hsizeFits⟩, field_fieldAt.mpr ⟨htypeAt, hsizeAt, hdataAt⟩, ?_, ?_, hinside⟩
  · rw [encodeField_length, Nat.add_assoc]
  · exact Nat.le_add_right (offset + 4) data.length

theorem readField_onlyCode (hraw : raw.length < differenceBound) (hoffset : offset ≤ raw.length) :
    OnlyCode e (readField e raw offset) := by
  have htwo (size : Nat) : 2 ≤ if size = sizeModulus then 8 else 4 := by split <;> omega
  rw [differenceBound] at hraw
  refine (orCode_onlyCode (readLittleEndian_total (htwo _) (le_of_canReadBuffer ?_))).bind
    fun type _ => ?_
  · rw [sizeModulus]
    omega
  refine (orCode_onlyCode (readLittleEndian_total (htwo _) (le_of_canReadBuffer ?_))).bind
    fun size _ => ?_
  · rw [sizeModulus]
    omega
  exact (orCode_onlyCode (checkedAssign_total _ _ _)).bind fun data _ => failsOnly_ok _ _

/-- A turn for every four bytes is enough, and no turn leaves the data. -/
theorem pushFields_onlyCode (hraw : raw.length < differenceBound) (hoffset : offset ≤ raw.length)
    (hfuel : raw.length < offset + 4 * fuel) :
    OnlyCode e (pushFields e raw fuel offset held).1 := by
  induction fuel generalizing offset held with
  | zero => omega
  | succ fuel ih =>
    rw [pushFields]
    split
    · exact failsOnly_ok _ offset
    · have hstep := readField_onlyCode hraw hoffset (e := e)
      cases hread : readField e raw offset with
      | error f =>
        rw [hread] at hstep
        exact onlyCode_error.mpr (onlyCode_error.mp hstep)
      | ok read =>
        obtain ⟨-, -, -, hfour, hinside⟩ := readField_ok hread
        exact ih hinside (by omega)

theorem createOpaqueInto_onlyCode (hraw : raw.length < differenceBound) :
    OnlyCode e (createOpaqueInto e raw held).1 := by
  have hloop : OnlyCode e (pushFields e raw (raw.length + 1) 0 held).1 :=
    pushFields_onlyCode hraw (Nat.zero_le _) (by omega)
  cases hrun : pushFields e raw (raw.length + 1) 0 held with
  | mk r pushed =>
    rw [hrun] at hloop
    cases r with
    | error f =>
      rw [createOpaqueInto, Prog.bind_of_error hrun]
      exact onlyCode_error.mpr (onlyCode_error.mp hloop)
    | ok last =>
      rw [createOpaqueInto, Prog.bind_of_ok hrun]
      exact onlyCode_require _

/-- A new parser accepts what its fields are written as, one after another. -/
theorem createOpaqueInto_iff (hraw : raw.length < differenceBound) :
    createOpaqueInto e raw [] = (.ok (), fields) ↔
      raw = encodeFields fields ∧ ∀ f ∈ fields, f.Fits := by
  have hsimulates := pushFields_simulates e raw (raw.length + 1) 0 []
  constructor
  · intro h
    obtain ⟨last, pushed, hpush, hend⟩ := Prog.bind_eq_ok.mp h
    obtain ⟨-, rfl⟩ := Prog.lift_iff.mp hend
    obtain ⟨result, hloop, rfl⟩ := hsimulates.ok hpush
    obtain ⟨new, hfields, hat, hfits, hlast, hend⟩ := opaqueLoop_ok (Nat.zero_le _) hloop
    rw [List.nil_append] at hfields
    subst hfields
    exact ⟨(fieldAt_all (by omega)).mp hat, hfits⟩
  · intro h
    obtain ⟨rfl, hfits⟩ := h
    have hloop : opaqueLoop e (encodeFields fields) ((encodeFields fields).length + 1) 0 [] =
        .ok ([] ++ fields, (encodeFields fields).length) :=
      opaqueLoop_fields hraw (by omega) hfits ((fieldAt_all rfl).mpr rfl) (Nat.zero_add _)
    rw [hloop] at hsimulates
    obtain ⟨last, pushed, hpush, hresult⟩ := hsimulates
    rw [List.nil_append, Prod.mk.injEq] at hresult
    obtain ⟨rfl, rfl⟩ := hresult
    refine Prog.bind_eq_ok.mpr ⟨_, _, hpush, Prog.lift_iff.mpr ⟨?_, rfl⟩⟩
    exact require_iff.mpr (decide_eq_true rfl)

end Loop

/-- The loop on a vector of bytes: what a new parser accepts, the one code of every failure, so
that no read is outside the data and the turns do not run out, how many turns there are, and how
far each of them gets. -/
structure TlvExact (raw : ByteVector) : Prop where
  accepts : ∀ fields, createOpaqueInto .InternalError raw.bytes [] = (.ok (), fields) ↔
    raw.bytes = encodeFields fields ∧ ∀ f ∈ fields, f.Fits
  refuses : ∀ fault, (createOpaqueInto .InternalError raw.bytes []).1 = .error fault →
    fault = .code .InternalError
  ends : ∀ turns held, raw.bytes.length < 4 * turns →
    (pushFields .InternalError raw.bytes turns 0 held).1 ≠ .error .outOfFuel
  advances : ∀ offset field next, readField .InternalError raw.bytes offset = .ok (field, next) →
    offset + 4 ≤ next ∧ next ≤ raw.bytes.length

/-- Opaque data are accepted exactly where they are fields, one after another. -/
theorem opaque_tlv_exact (raw : ByteVector) : TlvExact raw where
  accepts := fun _ => createOpaqueInto_iff raw.fits
  refuses := createOpaqueInto_onlyCode raw.fits
  ends := by
    intro turns held hturns hout
    have hcode := pushFields_onlyCode raw.fits (Nat.zero_le _) (by omega) .outOfFuel hout
    cases hcode
  advances := fun _ _ _ h => (readField_ok h).2.2.2

end AttestationSdk.Spdm
