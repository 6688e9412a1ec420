import AttestationSdk.DerReader

/-! The version 1 status-proof bundle: `RawProofOcspClient::decode_bundle` and
the encoding it is the inverse of. -/
namespace AttestationSdk.StatusProofBundle
open DerCodec DerReader ExceptRules

def bundleVersion : Nat := 1
def maxBundleBytes : Nat := 16384
def maxResponses : Nat := 16
def maxResponseBytes : Nat := 2048

def refuse {α : Type} : Except Fault α := .error (.code .OcspInvalidResponse)

/-- The item loop of `decode_bundle`; `fuel` bounds its iterations. -/
def itemLoop (data : Bytes) (listEnd : Nat) : Nat → Nat → List Bytes → Except Fault (List Bytes)
  | 0, _, _ => .error .outOfFuel
  | fuel + 1, item, responses =>
    if item < listEnd then
      if maxResponses ≤ responses.length then refuse else do
        match ← readDerTlv data item listEnd 0x04 with
        | none => refuse
        | some (next, start, length) =>
          if length = 0 ∨ maxResponseBytes < length then refuse else do
            let response ← substr data start length
            itemLoop data listEnd fuel next (responses ++ [response])
    else .ok responses

def decodeResponses (bundle : Bytes) : Except Fault (List Bytes) :=
  if bundle = [] ∨ maxBundleBytes < bundle.length then refuse else do
    match ← readDerTlv bundle 0 bundle.length 0x30 with
    | none => refuse
    | some (offset, bodyStart, bodyLength) =>
      if offset ≠ bundle.length then refuse else
        let bodyEnd := bodyStart + bodyLength
        match ← readDerTlv bundle bodyStart bodyEnd 0x02 with
        | none => refuse
        | some (cursor, versionStart, versionLength) =>
          if versionLength ≠ 1 then refuse else do
            let version ← byteAt bundle versionStart
            if version.toNat ≠ bundleVersion then refuse else
              match ← readDerTlv bundle cursor bodyEnd 0x30 with
              | none => refuse
              | some (cursor, listStart, listLength) =>
                if cursor ≠ bodyEnd then refuse else do
                  let responses ← itemLoop bundle (listStart + listLength)
                    (listLength + 1) listStart []
                  if responses = [] then refuse else return responses

/-- Return code and out-parameter of a call that returns. -/
structure Decoded where
  rc : Error
  outResponses : List Bytes
  deriving Repr, DecidableEq

/-- `decode_bundle` clears `out_responses` first and fills it only on success. -/
def decodeBundle (bundle : Bytes) (_outResponses : List Bytes) : Except Fault Decoded :=
  match decodeResponses bundle with
  | .ok responses => .ok ⟨.Ok, responses⟩
  | .error (.code e) => .ok ⟨e, []⟩
  | .error f => .error f

/-- The published format: SEQUENCE { INTEGER 1, SEQUENCE OF OCTET STRING }. -/
def encode (responses : List Bytes) : Bytes :=
  tlv 0x30 (tlv 0x02 [1] ++ tlv 0x30 (tlvs 0x04 responses))

def Admissible (responses : List Bytes) : Prop :=
  1 ≤ responses.length ∧ responses.length ≤ maxResponses ∧
    (∀ r ∈ responses, 1 ≤ r.length ∧ r.length ≤ maxResponseBytes) ∧
    (encode responses).length ≤ maxBundleBytes

def ItemBounds (r : Bytes) : Prop := 1 ≤ r.length ∧ r.length ≤ maxResponseBytes

theorem itemLoop_items {data : Bytes} (rs : List Bytes) :
    ∀ (fuel item : Nat) (acc : List Bytes), item ≤ data.length →
      data.drop item = tlvs 0x04 rs → (∀ r ∈ rs, ItemBounds r) →
      acc.length + rs.length ≤ maxResponses → rs.length < fuel →
      itemLoop data data.length fuel item acc = .ok (acc ++ rs) := by
  induction rs with
  | nil =>
    intro fuel item acc hi hd _ _ hf
    obtain ⟨fuel, rfl⟩ : ∃ f, fuel = f + 1 := ⟨fuel - 1, by simp at hf; omega⟩
    have hend : ¬ item < data.length := by simpa [tlvs] using hd
    simp [itemLoop, hend]
  | cons r rs ih =>
    intro fuel item acc hi hd hb hc hf
    obtain ⟨fuel, rfl⟩ : ∃ f, fuel = f + 1 := ⟨fuel - 1, by simp at hf; omega⟩
    have hr := hb r (by simp)
    have hcons : data.drop item = tlv 0x04 r ++ tlvs 0x04 rs := by simpa [tlvs] using hd
    have hsize := congrArg List.length hcons
    simp only [List.length_drop, List.length_append] at hsize
    have hpos := tlv_length 0x04 r
    have hr2 : r.length ≤ 2048 := hr.2
    have hitem : ItemAt data item data.length 0x04 r :=
      ⟨by omega, by omega, tlvs 0x04 rs, hcons⟩
    have hnext : data.drop (item + (tlv 0x04 r).length) = tlvs 0x04 rs := by
      rw [← List.drop_drop, hcons, List.drop_left]
    have hcount : ¬ maxResponses ≤ acc.length := by simp at hc; omega
    have hlen : ¬ (r.length = 0 ∨ maxResponseBytes < r.length) := by
      have := hr.1
      have : r.length ≤ maxResponseBytes := hr.2
      omega
    have hrest := ih fuel (item + (tlv 0x04 r).length) (acc ++ [r]) (by omega) hnext
      (fun x hx => hb x (List.mem_cons_of_mem r hx)) (by simp at hc ⊢; omega) (by simp at hf; omega)
    rw [itemLoop, if_pos (by omega), if_neg hcount, readDerTlv_item (Nat.le_refl _) hitem]
    simp only [ok_bind, if_neg hlen, substr_item (Nat.le_refl _) hitem, hrest]
    simp

theorem items_of_itemLoop {data : Bytes} (fuel : Nat) :
    ∀ (item : Nat) (acc out : List Bytes), item ≤ data.length → acc.length ≤ maxResponses →
      itemLoop data data.length fuel item acc = .ok out →
      ∃ rs, out = acc ++ rs ∧ data.drop item = tlvs 0x04 rs ∧
        (∀ r ∈ rs, ItemBounds r) ∧ out.length ≤ maxResponses := by
  induction fuel with
  | zero => intro item acc out _ _ h; simp [itemLoop] at h
  | succ fuel ih =>
    intro item acc out hi hacc h
    rw [itemLoop] at h
    by_cases hend : item < data.length
    · rw [if_pos hend] at h
      by_cases hcount : maxResponses ≤ acc.length
      · simp [hcount, refuse] at h
      obtain ⟨r?, hr⟩ := readDerTlv_safe data item data.length 0x04 (Nat.le_refl _)
      rw [if_neg hcount, hr, ok_bind] at h
      match r? with
      | none => simp [refuse] at h
      | some (next, start, length) =>
        obtain ⟨v, hitem, rfl, rfl, rfl⟩ := item_of_readDerTlv (Nat.le_refl _) hr
        simp only at h
        by_cases hlen : v.length = 0 ∨ maxResponseBytes < v.length
        · rw [if_pos hlen] at h; simp [refuse] at h
        rw [if_neg hlen, substr_item (Nat.le_refl _) hitem, ok_bind] at h
        obtain ⟨rs, rfl, hd, hb, hmax⟩ := ih _ _ _ hitem.2.1 (by simp; omega) h
        refine ⟨v :: rs, by simp, ?_, ?_, hmax⟩
        · rw [hitem.value.1, hd]; simp [tlvs]
        · intro r hr
          rcases List.mem_cons.mp hr with rfl | hr
          · exact ⟨by omega, by omega⟩
          · exact hb r hr
    · obtain rfl : acc = out := by simpa [hend] using h
      exact ⟨[], by simp, by simpa [tlvs] using hend, by simp, hacc⟩

/-- With one unit of fuel per remaining byte the loop always returns. -/
theorem itemLoop_returns (data : Bytes) (fuel : Nat) :
    ∀ (item : Nat) (acc : List Bytes), item ≤ data.length → data.length - item < fuel →
      (∃ out, itemLoop data data.length fuel item acc = .ok out) ∨
        itemLoop data data.length fuel item acc = refuse := by
  induction fuel with
  | zero => intro item acc _ hf; omega
  | succ fuel ih =>
    intro item acc hi hf
    rw [itemLoop]
    by_cases hend : item < data.length
    · rw [if_pos hend]
      by_cases hcount : maxResponses ≤ acc.length
      · exact Or.inr (if_pos hcount)
      obtain ⟨r?, hr⟩ := readDerTlv_safe data item data.length 0x04 (Nat.le_refl _)
      rw [if_neg hcount, hr, ok_bind]
      match r? with
      | none => exact Or.inr rfl
      | some (next, start, length) =>
        obtain ⟨v, hitem, rfl, rfl, rfl⟩ := item_of_readDerTlv (Nat.le_refl _) hr
        simp only
        by_cases hlen : v.length = 0 ∨ maxResponseBytes < v.length
        · exact Or.inr (if_pos hlen)
        have hpos := tlv_length 0x04 v
        have hin := hitem.2.1
        rw [if_neg hlen, substr_item (Nat.le_refl _) hitem, ok_bind]
        exact ih _ _ hin (by omega)
    · exact Or.inl ⟨acc, if_neg hend⟩

/-- Where items of a nested sequence stand inside the encoded bundle. -/
structure Layout (data body list : Bytes) (start cursor : Nat) : Prop where
  outer : ItemAt data 0 data.length 0x30 body
  outer_end : (tlv 0x30 body).length = data.length
  body_start : start = 1 + (lengthOctets body.length).length
  version : ItemAt data start data.length 0x02 [1]
  cursor_eq : cursor = start + (tlv 0x02 [1]).length
  items : ItemAt data cursor data.length 0x30 list
  items_end : cursor + (tlv 0x30 list).length = data.length

theorem layout_encode (rs : List Bytes) (h : (encode rs).length ≤ maxBundleBytes) :
    ∃ body start cursor, Layout (encode rs) body (tlvs 0x04 rs) start cursor := by
  have hsize : (encode rs).length ≤ 16384 := h
  set list := tlvs 0x04 rs with hlist
  obtain ⟨body, hbody⟩ : ∃ body, body = tlv 0x02 [1] ++ tlv 0x30 list := ⟨_, rfl⟩
  have he : encode rs = tlv 0x30 body := by rw [hbody, hlist]; rfl
  rw [he] at hsize ⊢
  have hl := tlv_length 0x30 body
  have hll := tlv_length 0x30 list
  have hbl : body.length = (tlv 0x02 [1]).length + (tlv 0x30 list).length := by simp [hbody]
  have hitem : ItemAt (tlv 0x30 body) 0 (tlv 0x30 body).length 0x30 body :=
    ⟨by omega, by omega, [], by simp⟩
  have hbd := hitem.drop_start
  simp only [Nat.zero_add, List.drop_length, List.append_nil] at hbd
  have hver : ItemAt (tlv 0x30 body) (1 + (lengthOctets body.length).length)
      (tlv 0x30 body).length 0x02 [1] :=
    ⟨by simp, by omega, tlv 0x30 list, by rw [hbd, hbody]⟩
  have hrest : (tlv 0x30 body).drop (1 + (lengthOctets body.length).length +
      (tlv 0x02 [1]).length) = tlv 0x30 list := by
    rw [← List.drop_drop, hbd, hbody, List.drop_left]
  exact ⟨body, _, _, hitem, rfl, rfl, hver, rfl,
    ⟨by omega, by omega, [], by simp [hrest]⟩, by omega⟩

theorem Layout.list_bytes {data body list : Bytes} {start cursor : Nat}
    (h : Layout data body list start cursor) :
    data.drop (cursor + 1 + (lengthOctets list.length).length) = list := by
  have hd := h.items.drop_start
  rwa [h.items_end, List.drop_length, List.append_nil] at hd

theorem Layout.eq_tlv {data body list : Bytes} {start cursor : Nat}
    (h : Layout data body list start cursor) :
    data = tlv 0x30 (tlv 0x02 [1] ++ tlv 0x30 list) := by
  have hout := h.outer.value.1
  rw [Nat.zero_add, h.outer_end, List.drop_length, List.append_nil, List.drop_zero] at hout
  have hbody := h.outer.drop_start
  rw [Nat.zero_add, Nat.zero_add, ← h.body_start, h.outer_end, List.drop_length,
    List.append_nil] at hbody
  have hver := h.version.value.1
  have hitems := h.items.value.1
  rw [h.items_end, List.drop_length, List.append_nil] at hitems
  rw [← h.cursor_eq, hitems, hbody] at hver
  rw [hout, hver]

/-- The reads of `decode_bundle` before its loop, on a well-placed bundle. -/
theorem decodeResponses_layout {data body list : Bytes} {start cursor : Nat}
    (h : Layout data body list start cursor) (hsize : data.length ≤ maxBundleBytes) :
    decodeResponses data = (do
      let responses ← itemLoop data data.length (list.length + 1)
        (cursor + 1 + (lengthOctets list.length).length) []
      if responses = [] then refuse else return responses) := by
  have hlen := tlv_length 0x30 body
  have hll := tlv_length 0x30 list
  have hend := h.outer_end
  have hiend := h.items_end
  have hbs := h.body_start
  have hbodyEnd : start + body.length = data.length := by omega
  have hlistEnd : cursor + 1 + (lengthOctets list.length).length + list.length = data.length := by
    omega
  have hv : byteAt data (start + 1 + (lengthOctets [(1 : UInt8)].length).length) = .ok 1 :=
    byteAt_cons _ _ 1 _ (by rw [h.version.drop_start]; rfl)
  have hne : ¬ (data = [] ∨ maxBundleBytes < data.length) := by
    rintro (hnil | hc)
    · rw [hnil, List.length_nil] at hend
      omega
    · omega
  have h1 := readDerTlv_item (Nat.le_refl _) h.outer
  have h2 := readDerTlv_item (Nat.le_refl _) h.version
  have h3 := readDerTlv_item (Nat.le_refl _) h.items
  simp only [Nat.zero_add, hend, ← hbs] at h1
  rw [← h.cursor_eq] at h2
  rw [hiend] at h3
  rw [decodeResponses, if_neg hne, h1]
  simp only [ok_bind, hbodyEnd, h2, hv, h3, hlistEnd]
  simp [bundleVersion]

/-- A bundle is refused before the item loop or is laid out like an encoded one. -/
theorem refuse_or_layout (data : Bytes) :
    decodeResponses data = refuse ∨ (data.length ≤ maxBundleBytes ∧
      ∃ body list start cursor, Layout data body list start cursor) := by
  rw [decodeResponses]
  by_cases hne : data = [] ∨ maxBundleBytes < data.length
  · exact Or.inl (if_pos hne)
  rw [if_neg hne]
  obtain ⟨r1, h1⟩ := readDerTlv_safe data 0 data.length 0x30 (Nat.le_refl _)
  rw [h1, ok_bind]
  match r1 with
  | none => exact Or.inl rfl
  | some (next, start, length) =>
    obtain ⟨body, hbody, rfl, rfl, rfl⟩ := item_of_readDerTlv (Nat.le_refl _) h1
    simp only [Nat.zero_add]
    by_cases hend : (tlv 0x30 body).length ≠ data.length
    · exact Or.inl (if_pos hend)
    rw [if_neg hend]
    have hend' : (tlv 0x30 body).length = data.length := by simpa using hend
    have hlen := tlv_length 0x30 body
    have hbodyEnd : 1 + (lengthOctets body.length).length + body.length = data.length := by omega
    rw [hbodyEnd]
    obtain ⟨r2, h2⟩ := readDerTlv_safe data (1 + (lengthOctets body.length).length) data.length 0x02
      (Nat.le_refl _)
    rw [h2, ok_bind]
    match r2 with
    | none => exact Or.inl rfl
    | some (cursor, vstart, vlength) =>
      obtain ⟨v, hver, rfl, rfl, rfl⟩ := item_of_readDerTlv (Nat.le_refl _) h2
      simp only
      by_cases hv1 : v.length ≠ 1
      · exact Or.inl (if_pos hv1)
      rw [if_neg hv1]
      obtain ⟨b, rfl⟩ := List.length_eq_one_iff.mp (not_not.mp hv1)
      rw [byteAt_cons _ _ b _ hver.drop_start, ok_bind]
      by_cases hb : b.toNat ≠ bundleVersion
      · exact Or.inl (if_pos hb)
      rw [if_neg hb]
      obtain rfl : b = 1 := UInt8.toNat_inj.mp (not_not.mp hb)
      obtain ⟨r3, h3⟩ := readDerTlv_safe data (1 + (lengthOctets body.length).length +
        (tlv 0x02 [1]).length) data.length 0x30 (Nat.le_refl _)
      rw [h3, ok_bind]
      match r3 with
      | none => exact Or.inl rfl
      | some (cursor', lstart, llength) =>
        obtain ⟨list, hitems, rfl, rfl, rfl⟩ := item_of_readDerTlv (Nat.le_refl _) h3
        simp only
        by_cases hfin : 1 + (lengthOctets body.length).length + (tlv 0x02 [1]).length +
            (tlv 0x30 list).length ≠ data.length
        · exact Or.inl (if_pos hfin)
        · exact Or.inr ⟨by omega, body, list, _, _, hbody, hend', rfl, hver, rfl, hitems,
            by simpa using hfin⟩

theorem decodeResponses_encode (rs : List Bytes) (h : Admissible rs) :
    decodeResponses (encode rs) = .ok rs := by
  obtain ⟨hne, hmax, hb, hsize⟩ := h
  obtain ⟨body, start, cursor, hlay⟩ := layout_encode rs hsize
  have hin := hlay.items.2.1
  have hll := tlv_length 0x30 (tlvs 0x04 rs)
  have hcount := length_le_tlvs 0x04 rs
  have hloop := itemLoop_items rs ((tlvs 0x04 rs).length + 1)
    (cursor + 1 + (lengthOctets (tlvs 0x04 rs).length).length) [] (by omega) hlay.list_bytes hb
    (by simpa using hmax) (by omega)
  have hrs : rs ≠ [] := by
    rintro rfl
    simp at hne
  rw [decodeResponses_layout hlay hsize, hloop]
  simp [hrs]

theorem encode_of_decodeResponses {data : Bytes} {rs : List Bytes}
    (h : decodeResponses data = .ok rs) : data = encode rs ∧ Admissible rs := by
  rcases refuse_or_layout data with hr | ⟨hsize, body, list, start, cursor, hlay⟩
  · simp [h, refuse] at hr
  have hin := hlay.items.2.1
  have hll := tlv_length 0x30 list
  rw [decodeResponses_layout hlay hsize] at h
  obtain ⟨out, hloop, hout⟩ := bind_eq_ok.mp h
  have hne : out ≠ [] := by
    rintro rfl
    simp [refuse] at hout
  obtain rfl : out = rs := by simpa [hne] using hout
  obtain ⟨rs', hrs', hlist, hb, hmax⟩ := items_of_itemLoop _ _ _ _ (by omega) (by simp) hloop
  obtain rfl : out = rs' := by simpa using hrs'
  rw [hlay.list_bytes] at hlist
  have he : data = encode out := by rw [hlay.eq_tlv, hlist]; rfl
  exact ⟨he, List.length_pos_iff.mpr hne, hmax, hb, he ▸ hsize⟩

/-- Whatever the bytes, the reads stay inside the bundle and the loop ends. -/
theorem decodeResponses_returns (data : Bytes) :
    (∃ rs, decodeResponses data = .ok rs) ∨ decodeResponses data = refuse := by
  rcases refuse_or_layout data with hr | ⟨hsize, body, list, start, cursor, hlay⟩
  · exact Or.inr hr
  have hend := hlay.items_end
  have hll := tlv_length 0x30 list
  rw [decodeResponses_layout hlay hsize]
  have hloop := itemLoop_returns data (list.length + 1)
    (cursor + 1 + (lengthOctets list.length).length) [] (by omega) (by omega)
  rcases hloop with ⟨out, hout⟩ | hout
  · rw [hout, ok_bind]
    by_cases hnil : out = []
    · exact Or.inr (if_pos hnil)
    · exact Or.inl ⟨out, by simp [hnil]⟩
  · exact Or.inr (by rw [hout]; rfl)

theorem decodeBundle_ok_iff (bundle : Bytes) (out rs : List Bytes) :
    decodeBundle bundle out = .ok ⟨.Ok, rs⟩ ↔ bundle = encode rs ∧ Admissible rs := by
  constructor
  · intro h
    rw [decodeBundle] at h
    rcases decodeResponses_returns bundle with ⟨rs', hrs⟩ | href
    · obtain rfl : rs' = rs := by simpa [hrs] using h
      exact encode_of_decodeResponses hrs
    · simp [href, refuse] at h
  · rintro ⟨rfl, hadm⟩
    rw [decodeBundle, decodeResponses_encode rs hadm]

theorem decodeBundle_total (bundle : Bytes) (out : List Bytes) :
    (∃ rs, decodeBundle bundle out = .ok ⟨.Ok, rs⟩) ∨
      decodeBundle bundle out = .ok ⟨.OcspInvalidResponse, []⟩ := by
  rcases decodeResponses_returns bundle with ⟨rs, hrs⟩ | href
  · exact Or.inl ⟨rs, by rw [decodeBundle, hrs]⟩
  · exact Or.inr (by rw [decodeBundle, href]; rfl)

/-- The decoder accepts exactly the encodings of admissible response lists. Every
other byte string is answered by an error with an empty list, and since no call
ends in a `Fault`, none reads outside its buffer or leaves the item loop running. -/
theorem decodeBundle_accepts_exactly_canonical_der (bundle : Bytes) (out : List Bytes) :
    (∀ rs, decodeBundle bundle out = .ok ⟨.Ok, rs⟩ ↔ bundle = encode rs ∧ Admissible rs) ∧
    ((¬ ∃ rs, bundle = encode rs ∧ Admissible rs) →
      ∃ e, e ≠ .Ok ∧ decodeBundle bundle out = .ok ⟨e, []⟩) ∧
    (∀ rs, Admissible rs → decodeBundle (encode rs) out = .ok ⟨.Ok, rs⟩) ∧
    (∀ rs, decodeBundle bundle out = .ok ⟨.Ok, rs⟩ → encode rs = bundle) := by
  refine ⟨decodeBundle_ok_iff bundle out, ?_, ?_, ?_⟩
  · intro hnone
    rcases decodeBundle_total bundle out with ⟨rs, hrs⟩ | herr
    · exact absurd ⟨rs, (decodeBundle_ok_iff bundle out rs).mp hrs⟩ hnone
    · exact ⟨.OcspInvalidResponse, by simp, herr⟩
  · intro rs hadm
    exact (decodeBundle_ok_iff (encode rs) out rs).mpr ⟨rfl, hadm⟩
  · intro rs hrs
    exact ((decodeBundle_ok_iff bundle out rs).mp hrs).1.symm

theorem decodeBundle_two_responses :
    Admissible [[7], [8, 9]] ∧
      decodeBundle (encode [[7], [8, 9]]) [[1]] = .ok ⟨.Ok, [[7], [8, 9]]⟩ := by
  have hadm : Admissible [[7], [8, 9]] :=
    ⟨by decide, by decide, by decide, by simp [encode, tlv, tlvs, lengthOctets, maxBundleBytes]⟩
  exact ⟨hadm, (decodeBundle_accepts_exactly_canonical_der [] [[1]]).2.2.1 _ hadm⟩

end AttestationSdk.StatusProofBundle
