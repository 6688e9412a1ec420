import AttestationSdk.Effects
import AttestationSdk.SpdmLayout

/-! Responses and opaque data parsed into objects that were used before: `create` of
`spdm_resp.cpp` and `spdm_opaque_data_parser.cpp` with their out-parameters. -/
namespace AttestationSdk.Spdm
open DerReader Buffer Effects ExceptRules

/-- One opaque field and the offset after it. -/
def readField (e : Error) (raw : Bytes) (offset : Nat) :
    Except Fault (ParsedOpaqueFieldData × Nat) := do
  let type ← orCode e (readLittleEndian 65536 raw offset 2)
  let size ← orCode e (readLittleEndian 65536 raw (offset + 2) 2)
  let data ← orCode e (checkedAssign raw (offset + 4) size)
  return (⟨type, data⟩, offset + 4 + size)

/-- The loop of `OpaqueDataParser::parse` on `m_fields`: what was pushed stays when a field fails. -/
def pushFields (e : Error) (raw : Bytes) : Nat → Nat → Prog Fault (List ParsedOpaqueFieldData) Nat
  | 0, _ => Prog.fail .outOfFuel
  | fuel + 1, offset =>
    if raw.length ≤ offset then pure offset else do
      let (field, next) ← Prog.lift (readField e raw offset)
      Prog.update (· ++ [field])
      pushFields e raw fuel next

/-- `OpaqueDataParser::create`, by its `m_fields`. The code is `InternalError`, or what the caller
makes of it. -/
def createOpaqueInto (e : Error) (raw : Bytes) : Prog Fault (List ParsedOpaqueFieldData) Unit := do
  let offset ← pushFields e raw (raw.length + 1) 0
  Prog.lift (require (offset = raw.length) e)

/-- A new message; no records are parsed yet. -/
def newMessage : SpdmMeasurementResponseMessage11 where
  spdmVersion := 0
  requestResponseCode := 0
  param1 := 0
  param2 := 0
  numberOfBlocks := 0
  measurementRecordLength := 0
  measurementRecord := []
  measurementBlocks := []
  nonce := List.replicate kNonceSize 0
  opaqueDataLength := 0
  opaqueData := []
  opaqueFields := []
  signature := []

/-- The lines of `parse` up to the opaque data, and the offset after these. -/
def assignHead (data : Bytes) : Prog Fault SpdmMeasurementResponseMessage11 Nat := do
  let e := Error.SpdmParseError
  let spdmVersion ← Prog.lift (readByte e data 0)
  Prog.update ({ · with spdmVersion })
  Prog.lift (require (spdmVersion = spdmVersion11) e)
  let requestResponseCode ← Prog.lift (readByte e data 1)
  Prog.update ({ · with requestResponseCode })
  Prog.lift (require (requestResponseCode = spdmResCodeMeasurements) e)
  let param1 ← Prog.lift (readByte e data 2)
  Prog.update ({ · with param1 })
  let param2 ← Prog.lift (readByte e data 3)
  Prog.update ({ · with param2 })
  let numberOfBlocks ← Prog.lift (readByte e data 4)
  Prog.update ({ · with numberOfBlocks })
  Prog.lift (require (numberOfBlocks ≠ 0) e)
  let recordLength ← Prog.lift (orCode e (readLittleEndian 4294967296 data 5 3))
  Prog.update ({ · with measurementRecordLength := recordLength })
  let measurementRecord ← Prog.lift (orCode e (checkedAssign data 8 recordLength))
  Prog.update ({ · with measurementRecord })
  let measurementBlocks ← Prog.lift (parseRecord measurementRecord numberOfBlocks.toNat)
  Prog.update ({ · with measurementBlocks })
  let nonceAt := 8 + recordLength
  let nonce ← Prog.lift (orCode e (checkedCopyN kNonceSize data nonceAt kNonceSize))
  Prog.update ({ · with nonce })
  let opaqueLength ← Prog.lift (orCode e (readLittleEndian 65536 data (nonceAt + 32) 2))
  Prog.update ({ · with opaqueDataLength := opaqueLength })
  let opaqueData ← Prog.lift (orCode e (checkedAssign data (nonceAt + 34) opaqueLength))
  Prog.update ({ · with opaqueData })
  Prog.lift (require (!opaqueData.isEmpty) e)
  return nonceAt + 34 + opaqueLength

/-- A part of an object is handed to a call. -/
def onOpaqueFields (x : Prog Fault (List ParsedOpaqueFieldData) Unit) :
    Prog Fault SpdmMeasurementResponseMessage11 Unit := fun m =>
  ((x m.opaqueFields).1, { m with opaqueFields := (x m.opaqueFields).2 })

theorem onOpaqueFields_run {x : Prog Fault (List ParsedOpaqueFieldData) Unit}
    {m : SpdmMeasurementResponseMessage11} {r : Except Fault Unit}
    {fields : List ParsedOpaqueFieldData} (h : x m.opaqueFields = (r, fields)) :
    onOpaqueFields x m = (r, { m with opaqueFields := fields }) := by
  rw [onOpaqueFields, h]

/-- The lines of `parse` after the opaque fields. -/
def assignSignature (data : Bytes) (signatureAt signatureLength : Nat) :
    Prog Fault SpdmMeasurementResponseMessage11 Unit := do
  let e := Error.SpdmParseError
  let signature ← Prog.lift (orCode e (checkedAssign data signatureAt signatureLength))
  Prog.update ({ · with signature })
  Prog.lift (require (signatureAt + signatureLength = data.length) e)

/-- `SpdmMeasurementResponseMessage11::create` with the message it is handed. -/
def createInto (data : Bytes) (signatureLength : Nat) :
    Prog Fault SpdmMeasurementResponseMessage11 Unit := do
  let signatureAt ← assignHead data
  let opaqueData ← fun m => (.ok m.opaqueData, m)
  onOpaqueFields (createOpaqueInto .SpdmOpaqueDataParseError opaqueData)
  assignSignature data signatureAt signatureLength

/-- What the lines up to the opaque data read, as a message without fields and signature. -/
def readHead (data : Bytes) : Except Fault SpdmMeasurementResponseMessage11 := do
  let e := Error.SpdmParseError
  let spdmVersion ← readByte e data 0
  require (spdmVersion = spdmVersion11) e
  let requestResponseCode ← readByte e data 1
  require (requestResponseCode = spdmResCodeMeasurements) e
  let param1 ← readByte e data 2
  let param2 ← readByte e data 3
  let numberOfBlocks ← readByte e data 4
  require (numberOfBlocks ≠ 0) e
  let recordLength ← orCode e (readLittleEndian 4294967296 data 5 3)
  let measurementRecord ← orCode e (checkedAssign data 8 recordLength)
  let measurementBlocks ← parseRecord measurementRecord numberOfBlocks.toNat
  let nonceAt := 8 + recordLength
  let nonce ← orCode e (checkedCopyN kNonceSize data nonceAt kNonceSize)
  let opaqueLength ← orCode e (readLittleEndian 65536 data (nonceAt + 32) 2)
  let opaqueData ← orCode e (checkedAssign data (nonceAt + 34) opaqueLength)
  require (!opaqueData.isEmpty) e
  return {
    spdmVersion, requestResponseCode, param1, param2, numberOfBlocks,
    measurementRecordLength := recordLength, measurementRecord, measurementBlocks, nonce,
    opaqueDataLength := opaqueLength, opaqueData, opaqueFields := [], signature := [] }

theorem parse_eq_readHead (data : Bytes) (signatureLength : Nat) :
    SpdmMeasurementResponseMessage11.parse data signatureLength = do
      let e := Error.SpdmParseError
      let head ← readHead data
      let opaqueFields ← parseOpaqueData head.opaqueData
      let signatureAt := 8 + head.measurementRecordLength + 34 + head.opaqueDataLength
      let signature ← orCode e (checkedAssign data signatureAt signatureLength)
      require (signatureAt + signatureLength = data.length) e
      return { head with opaqueFields, signature } := by
  simp only [SpdmMeasurementResponseMessage11.parse, readHead, bind_assoc, pure_bind]

/-- On any message the lines up to the opaque data do what they do on a new one, and leave the
fields and the signature. -/
theorem assignHead_simulates (data : Bytes) (m : SpdmMeasurementResponseMessage11) :
    (assignHead data).Simulates (readHead data) m fun head signatureAt m' =>
      signatureAt = 8 + head.measurementRecordLength + 34 + head.opaqueDataLength ∧
        m' = { head with opaqueFields := m.opaqueFields, signature := m.signature } := by
  rw [assignHead, readHead]
  refine .lift fun spdmVersion => .update (.lift fun _ => ?_)
  refine .lift fun requestResponseCode => .update (.lift fun _ => ?_)
  refine .lift fun param1 => .update (.lift fun param2 => .update ?_)
  refine .lift fun numberOfBlocks => .update (.lift fun _ => ?_)
  refine .lift fun recordLength => .update (.lift fun measurementRecord => .update ?_)
  refine .lift fun measurementBlocks => .update ?_
  refine .lift fun nonce => .update ?_
  refine .lift fun opaqueLength => .update (.lift fun opaqueData => .update (.lift fun _ => ?_))
  exact .pure ⟨rfl, rfl⟩

theorem assignHead_leaves (data : Bytes) :
    (assignHead data).Leaves SpdmMeasurementResponseMessage11.opaqueFields := by
  rw [assignHead]
  refine .bind (.lift _) fun spdmVersion => .bind (.update fun _ => rfl) fun _ => ?_
  refine .bind (.lift _) fun _ => .bind (.lift _) fun requestResponseCode => ?_
  refine .bind (.update fun _ => rfl) fun _ => .bind (.lift _) fun _ => ?_
  refine .bind (.lift _) fun param1 => .bind (.update fun _ => rfl) fun _ => ?_
  refine .bind (.lift _) fun param2 => .bind (.update fun _ => rfl) fun _ => ?_
  refine .bind (.lift _) fun numberOfBlocks => .bind (.update fun _ => rfl) fun _ => ?_
  refine .bind (.lift _) fun _ => .bind (.lift _) fun recordLength => ?_
  refine .bind (.update fun _ => rfl) fun _ => .bind (.lift _) fun measurementRecord => ?_
  refine .bind (.update fun _ => rfl) fun _ => .bind (.lift _) fun measurementBlocks => ?_
  refine .bind (.update fun _ => rfl) fun _ => .bind (.lift _) fun nonce => ?_
  refine .bind (.update fun _ => rfl) fun _ => .bind (.lift _) fun opaqueLength => ?_
  refine .bind (.update fun _ => rfl) fun _ => .bind (.lift _) fun opaqueData => ?_
  refine .bind (.update fun _ => rfl) fun _ => .bind (.lift _) fun _ => ?_
  exact .pure _

theorem assignSignature_leaves (data : Bytes) (signatureAt signatureLength : Nat) :
    (assignSignature data signatureAt signatureLength).Leaves
      SpdmMeasurementResponseMessage11.opaqueFields := by
  rw [assignSignature]
  refine .bind (.lift _) fun signature => .bind (.update fun _ => rfl) fun _ => ?_
  exact .lift _

/-- What is pushed does not depend on what the vector held. -/
theorem pushFields_append (e : Error) (raw : Bytes) (fuel offset : Nat)
    (held : List ParsedOpaqueFieldData) :
    pushFields e raw fuel offset held =
      ((pushFields e raw fuel offset []).1, held ++ (pushFields e raw fuel offset []).2) := by
  induction fuel generalizing offset held with
  | zero => simp [pushFields]
  | succ fuel ih =>
    rw [pushFields]
    split
    · simp
    · cases hfield : readField e raw offset with
      | error f =>
        have hfirst (s : List ParsedOpaqueFieldData) :
            (Prog.lift (.error f) : Prog Fault _ (ParsedOpaqueFieldData × Nat)) s =
              (.error f, s) := rfl
        rw [Prog.bind_of_error (hfirst held), Prog.bind_of_error (hfirst []), List.append_nil]
      | ok read =>
        change pushFields e raw fuel read.2 (held ++ [read.1]) =
          ((pushFields e raw fuel read.2 ([] ++ [read.1])).1,
            held ++ (pushFields e raw fuel read.2 ([] ++ [read.1])).2)
        rw [ih, ih read.2 ([] ++ [read.1]), List.append_assoc, List.nil_append]

/-- The loop with its vector is the loop that returns the fields. -/
theorem pushFields_simulates (e : Error) (raw : Bytes) (fuel offset : Nat)
    (held : List ParsedOpaqueFieldData) :
    (pushFields e raw fuel offset).Simulates (opaqueLoop e raw fuel offset held) held
      fun result offset' fields => result = (fields, offset') := by
  induction fuel generalizing offset held with
  | zero => exact ⟨held, rfl⟩
  | succ fuel ih =>
    rw [pushFields, opaqueLoop]
    split
    · exact ⟨offset, held, rfl, rfl⟩
    · have hread : (do
          let type ← orCode e (readLittleEndian 65536 raw offset 2)
          let size ← orCode e (readLittleEndian 65536 raw (offset + 2) 2)
          let data ← orCode e (checkedAssign raw (offset + 4) size)
          opaqueLoop e raw fuel (offset + 4 + size) (held ++ [⟨type, data⟩])) =
          (readField e raw offset >>= fun read =>
            opaqueLoop e raw fuel read.2 (held ++ [read.1])) := by
        simp only [readField, bind_assoc, pure_bind]
      rw [hread]
      exact .lift fun read => .update (ih read.2 (held ++ [read.1]))

theorem createOpaqueInto_append (e : Error) (raw : Bytes) (held : List ParsedOpaqueFieldData) :
    createOpaqueInto e raw held =
      ((createOpaqueInto e raw []).1, held ++ (createOpaqueInto e raw []).2) := by
  have hpush := pushFields_append e raw (raw.length + 1) 0 held
  cases hnew : pushFields e raw (raw.length + 1) 0 [] with
  | mk r pushed =>
    rw [hnew] at hpush
    cases r with
    | error f =>
      rw [createOpaqueInto, Prog.bind_of_error hpush, Prog.bind_of_error hnew]
    | ok offset =>
      rw [createOpaqueInto, Prog.bind_of_ok hpush, Prog.bind_of_ok hnew]
      rfl

theorem createOpaqueInto_simulates (raw : Bytes) :
    (createOpaqueInto .SpdmOpaqueDataParseError raw).Simulates (parseOpaqueData raw) []
      fun parsed _ fields => fields = parsed := by
  rw [createOpaqueInto, parseOpaqueData]
  refine (pushFields_simulates _ raw (raw.length + 1) 0 []).bind fun result offset fields h => ?_
  rw [h]
  exact .last fun _ => rfl

/-- Nothing is pushed exactly where the first field cannot be read. -/
theorem createOpaqueInto_nil_iff (e : Error) (raw : Bytes) :
    (createOpaqueInto e raw []).2 = [] ↔ ∀ read, readField e raw 0 ≠ .ok read := by
  have hend : (createOpaqueInto e raw []).2 = (pushFields e raw (raw.length + 1) 0 []).2 := by
    cases h : pushFields e raw (raw.length + 1) 0 [] with
    | mk r pushed =>
      cases r with
      | error f => rw [createOpaqueInto, Prog.bind_of_error h]
      | ok offset =>
        rw [createOpaqueInto, Prog.bind_of_ok h]
        rfl
  rw [hend, pushFields]
  split
  · next hempty =>
    have hnone : readLittleEndian 65536 raw 0 2 = .ok none := by
      have hnil : raw = [] := List.length_eq_zero_iff.mp (by omega)
      rw [hnil]
      rfl
    refine iff_of_true rfl fun read hread => ?_
    rw [readField, hnone] at hread
    cases hread
  · cases hfield : readField e raw 0 with
    | error f => exact iff_of_true rfl fun read hread => by cases hread
    | ok read =>
      have hpushed := pushFields_append e raw raw.length read.2 [read.1]
      refine iff_of_false (fun hnil => ?_) fun h => h read rfl
      change (pushFields e raw raw.length read.2 [read.1]).2 = [] at hnil
      rw [hpushed] at hnil
      exact absurd hnil (List.append_ne_nil_of_left_ne_nil (List.cons_ne_nil _ _) _)

/-- A response in place is the response that is returned, with its fields after those that the
message held. -/
theorem createInto_simulates (data : Bytes) (signatureLength : Nat)
    (m : SpdmMeasurementResponseMessage11) :
    (createInto data signatureLength).Simulates
      (SpdmMeasurementResponseMessage11.parse data signatureLength) m fun parsed _ m' =>
        m' = { parsed with opaqueFields := m.opaqueFields ++ parsed.opaqueFields } := by
  rw [createInto, parse_eq_readHead]
  refine (assignHead_simulates data m).bind fun head signatureAt m₁ hhead => ?_
  obtain ⟨rfl, rfl⟩ := hhead
  have hnew := createOpaqueInto_simulates head.opaqueData
  have happend := createOpaqueInto_append .SpdmOpaqueDataParseError head.opaqueData m.opaqueFields
  have hfields : (onOpaqueFields (createOpaqueInto .SpdmOpaqueDataParseError head.opaqueData)
      ).Simulates (parseOpaqueData head.opaqueData)
        { head with opaqueFields := m.opaqueFields, signature := m.signature }
        fun parsed _ m' => m' = { head with
          opaqueFields := m.opaqueFields ++ parsed, signature := m.signature } := by
    cases hparsed : parseOpaqueData head.opaqueData with
    | error f =>
      rw [hparsed] at hnew
      obtain ⟨pushed, hrun⟩ := hnew
      rw [hrun] at happend
      exact ⟨_, onOpaqueFields_run happend⟩
    | ok parsed =>
      rw [hparsed] at hnew
      obtain ⟨_, pushed, hrun, rfl⟩ := hnew
      rw [hrun] at happend
      exact ⟨(), _, onOpaqueFields_run happend, rfl⟩
  refine hfields.bind fun parsed _ m₂ hm₂ => ?_
  subst hm₂
  rw [assignSignature]
  refine .lift fun signature => .update ?_
  exact .last fun _ => rfl

/-- The opaque fields after any outcome: those that were held, then those that could be read. -/
theorem createInto_fields (data : Bytes) (signatureLength : Nat) :
    (createInto data signatureLength newMessage).2.opaqueFields = [] ↔
      ∀ head read, readHead data = .ok head →
        readField .SpdmOpaqueDataParseError head.opaqueData 0 ≠ .ok read := by
  have hhead := assignHead_simulates data newMessage
  have hleaves := assignHead_leaves data newMessage
  rw [createInto]
  cases hread : readHead data with
  | error f =>
    rw [hread] at hhead
    obtain ⟨m₁, hrun⟩ := hhead
    rw [hrun] at hleaves
    rw [Prog.bind_of_error hrun, hleaves]
    exact iff_of_true rfl fun head read h => by cases h
  | ok head =>
    rw [hread] at hhead
    obtain ⟨signatureAt, m₁, hrun, rfl, rfl⟩ := hhead
    rw [Prog.bind_of_ok hrun]
    have hpushed : ((onOpaqueFields (createOpaqueInto .SpdmOpaqueDataParseError head.opaqueData) >>=
        fun _ => assignSignature data (8 + head.measurementRecordLength + 34 +
          head.opaqueDataLength) signatureLength)
        { head with opaqueFields := newMessage.opaqueFields, signature := newMessage.signature }
        ).2.opaqueFields = (createOpaqueInto .SpdmOpaqueDataParseError head.opaqueData []).2 := by
      cases hfields : createOpaqueInto .SpdmOpaqueDataParseError head.opaqueData [] with
      | mk r pushed =>
        cases r with
        | error f => rw [Prog.bind_of_error (onOpaqueFields_run hfields)]
        | ok _ =>
          rw [Prog.bind_of_ok (onOpaqueFields_run hfields)]
          exact assignSignature_leaves _ _ _ _
    refine (Eq.congr_left hpushed).trans ((createOpaqueInto_nil_iff _ _).trans ?_)
    exact ⟨fun h head' read hsame => Except.ok.inj hsame ▸ h read, fun h read => h head read rfl⟩

/-- The bytes are refused before an opaque field is read whole. -/
def ReadsNoField (data : Bytes) : Prop :=
  ∀ head read, readHead data = .ok head →
    readField .SpdmOpaqueDataParseError head.opaqueData 0 ≠ .ok read

/-- An object that was used before ends as a new one does exactly where its first bytes gave it no
opaque field, whatever the outcome was then: the vector of fields is never cleared. -/
theorem parse_into_used_iff (a b : Bytes) (signatureLength : Nat) :
    (∀ used, createInto b signatureLength (createInto a signatureLength newMessage).2 =
        (.ok (), used) →
      ∃ new, createInto b signatureLength newMessage = (.ok (), new) ∧
        (used = new ↔ ReadsNoField a)) ∧
    ∀ used, createOpaqueInto .InternalError b (createOpaqueInto .InternalError a []).2 =
        (.ok (), used) →
      ∃ new, createOpaqueInto .InternalError b [] = (.ok (), new) ∧
        (used = new ↔ ∀ read, readField .InternalError a 0 ≠ .ok read) := by
  constructor
  · intro used hused
    generalize hbefore : (createInto a signatureLength newMessage).2 = before at hused
    obtain ⟨parsed, hparsed, rfl⟩ := (createInto_simulates b signatureLength before).ok hused
    have hfresh := createInto_simulates b signatureLength newMessage
    rw [hparsed] at hfresh
    obtain ⟨_, new, hnew, rfl⟩ := hfresh
    refine ⟨_, hnew, ?_⟩
    rw [ReadsNoField, ← createInto_fields a signatureLength, hbefore]
    constructor
    · intro hsame
      have hfields := congrArg SpdmMeasurementResponseMessage11.opaqueFields hsame
      exact List.append_left_eq_self.mp hfields
    · intro hnone
      rw [hnone]
      rfl
  · intro used hused
    rw [createOpaqueInto_append, Prod.mk.injEq] at hused
    obtain ⟨hok, rfl⟩ := hused
    refine ⟨_, Prod.ext hok rfl, ?_⟩
    rw [← createOpaqueInto_nil_iff]
    exact List.append_left_eq_self

section Samples

/-- A response of one block and one opaque field, with a signature of one byte. -/
def smallResponse (data : UInt8) : Bytes :=
  [0x11, 0x60, 0, 0, 1, 8, 0, 0] ++ [1, 1, 4, 0, 1, 1, 0, 0xaa] ++ List.replicate 32 0xcd ++
    [5, 0] ++ [3, 0, 1, 0, data] ++ [0x11]

theorem parse_into_used_iff_refused :
    (∃ new, createInto (smallResponse 53) 1 newMessage = (.ok (), new) ∧
      ((createInto (smallResponse 53) 1 (createInto [0x11] 1 newMessage).2).2 = new ↔
        ReadsNoField [0x11])) ∧
    ∃ new, createOpaqueInto .InternalError [3, 0, 1, 0, 53] [] = (.ok (), new) ∧
      ((createOpaqueInto .InternalError [3, 0, 1, 0, 53]
        (createOpaqueInto .InternalError [3, 0] []).2).2 = new ↔
          ∀ read, readField .InternalError [3, 0] 0 ≠ .ok read) :=
  ⟨(parse_into_used_iff [0x11] (smallResponse 53) 1).1 _ rfl,
    (parse_into_used_iff [3, 0] [3, 0, 1, 0, 53] 1).2 _ rfl⟩

/-- The field of a first response stays in front of that of a second. -/
theorem opaque_fields_left_over : ∃ used new,
    createInto (smallResponse 54) 1 (createInto (smallResponse 53) 1 newMessage).2 =
      (.ok (), used) ∧
    createInto (smallResponse 54) 1 newMessage = (.ok (), new) ∧
    used.opaqueFields = [⟨3, [53]⟩, ⟨3, [54]⟩] ∧ new.opaqueFields = [⟨3, [54]⟩] :=
  ⟨_, _, rfl, rfl, rfl, rfl⟩

end Samples

end AttestationSdk.Spdm
