import Mathlib.Data.List.DropRight
import AttestationSdk.Base64
import AttestationSdk.TextCodec

/-! `decode_base64` of `utils.h`, and which texts it decodes as RFC 4648 does. -/
namespace AttestationSdk.Text
open Base64

/-- The text without the white space around it. -/
def trimSpace (cs : List Char) : List Char := (cs.dropWhile isSpace).rdropWhile isSpace

/-- `EVP_DecodeBlock`, by its documentation: white space around the text is ignored, padding is
read as zero bits, and what is left comes in groups of four characters. -/
structure DecodesBlocks (decodeBlock : List Char → Option Bytes) : Prop where
  reads : ∀ cs out, decodeBlock cs = some out → decodeZero (trimSpace cs) = some out
  accepts : ∀ cs, (∀ c ∈ cs, IsCode c) → cs.length % 4 = 0 → ∃ out, decodeBlock cs = some out

/-- The pad characters among the last two of a text. -/
def countPadding (cs : List Char) : Nat :=
  match cs.reverse with
  | last :: before :: _ => (if last = '=' then 1 else 0) + (if before = '=' then 1 else 0)
  | _ => 0

/-- `decode_base64`. The length is held in an `int`: a negative one is no size for the buffer. -/
def decodeBase64 (decodeBlock : List Char → Option Bytes) (base64Data : String) :
    Except Fault Bytes :=
  let len := base64Data.length % 4294967296
  if 2147483648 ≤ len then .error .exception
  else match decodeBlock (base64Data.toList.take len) with
    | none => .error (.code .InternalError)
    | some out =>
      let padding := countPadding base64Data.toList
      if out.length < padding then .error .undefined
      else .ok (out.take (out.length - padding))

theorem char_of_toNat {c : Char} {n : Nat} (h : c.toNat = n) : c = Char.ofNat n := by
  rw [← h, Char.ofNat_toNat]

/-- White space is no character of the alphabet and no padding. -/
theorem not_isSpace_of_isCode {c : Char} (h : IsCode c) : isSpace c = false := by
  refine Bool.eq_false_iff.mpr fun hspace => ?_
  have hcases : c = ' ' ∨ c.toNat = 9 ∨ c.toNat = 10 ∨ c.toNat = 11 ∨ c.toNat = 12 ∨
      c.toNat = 13 :=
    (of_decide_eq_true hspace).imp_right fun hrange => by omega
  obtain rfl | hc | hc | hc | hc | hc := hcases
  · exact absurd h (by decide)
  all_goals exact absurd (char_of_toNat hc ▸ h) (by decide)

theorem trimSpace_core {lead body trail : List Char} (hlead : ∀ c ∈ lead, isSpace c = true)
    (htrail : ∀ c ∈ trail, isSpace c = true) (hbody : ∀ c ∈ body, isSpace c = false) :
    trimSpace (lead ++ (body ++ trail)) = body := by
  rw [trimSpace, List.dropWhile_append_of_pos hlead]
  have htail (text : List Char) :
      (text ++ trail).rdropWhile isSpace = text.rdropWhile isSpace := by
    rw [List.rdropWhile, List.rdropWhile, List.reverse_append, List.dropWhile_append_of_pos]
    simpa using htrail
  cases body with
  | nil =>
    rw [List.nil_append, List.dropWhile_eq_nil_iff.mpr htrail]
    rfl
  | cons b rest =>
    have hself : ((b :: rest) ++ trail).dropWhile isSpace = (b :: rest) ++ trail := by
      rw [List.cons_append, List.dropWhile_cons_of_neg]
      simp [hbody b List.mem_cons_self]
    rw [hself, htail, List.rdropWhile_eq_self_iff]
    intro hne
    simp [hbody _ (List.getLast_mem hne)]

theorem trimSpace_parts (cs : List Char) : ∃ lead trail, (∀ c ∈ lead, isSpace c = true) ∧
    (∀ c ∈ trail, isSpace c = true) ∧ cs = lead ++ (trimSpace cs ++ trail) := by
  refine ⟨cs.takeWhile isSpace, (cs.dropWhile isSpace).rtakeWhile isSpace,
    fun c hc => List.mem_takeWhile_imp hc, fun c hc => List.mem_rtakeWhile_imp hc, ?_⟩
  rw [trimSpace, List.rdropWhile_append_rtakeWhile, List.takeWhile_append_dropWhile]

/-- Where no white space is left, trimming is the same as leaving white space out. -/
theorem trimSpace_eq_filter {cs : List Char} (h : ∀ c ∈ trimSpace cs, isSpace c = false) :
    cs.filter (fun c => !isSpace c) = trimSpace cs := by
  obtain ⟨lead, trail, hlead, htrail, hcs⟩ := trimSpace_parts cs
  have hnone {text : List Char} (htext : ∀ c ∈ text, isSpace c = true) :
      text.filter (fun c => !isSpace c) = [] := by
    rw [List.filter_eq_nil_iff]
    intro c hc
    simp [htext c hc]
  have hall : (trimSpace cs).filter (fun c => !isSpace c) = trimSpace cs := by
    rw [List.filter_eq_self]
    intro c hc
    simp [h c hc]
  conv_lhs => rw [hcs]
  rw [List.filter_append, List.filter_append, hnone hlead, hnone htrail, hall, List.nil_append,
    List.append_nil]

/-- Counting the last two characters counts the padding, unless white space follows it. -/
theorem countPadding_eq_iff {front trail : List Char} {p : Nat} (hp : p ≤ 2)
    (hfront : '=' ∉ front) (htrail : '=' ∉ trail) (hlong : p = 0 ∨ 2 ≤ front.length) :
    countPadding (front ++ (List.replicate p '=' ++ trail)) = p ↔ p = 0 ∨ p + trail.length ≤ 2 := by
  have hreverse : (front ++ (List.replicate p '=' ++ trail)).reverse =
      trail.reverse ++ (List.replicate p '=' ++ front.reverse) := by
    simp [List.reverse_append]
  have hlength : trail.length = trail.reverse.length := List.length_reverse.symm
  rw [countPadding, hreverse, hlength]
  rw [← List.mem_reverse] at hfront htrail
  rw [← List.length_reverse] at hlong
  generalize front.reverse = front at *
  generalize trail.reverse = trail at *
  cases trail with
  | nil =>
    obtain rfl | rfl | rfl : p = 0 ∨ p = 1 ∨ p = 2 := by omega
    · match front, hfront with
      | [], _ | [_], _ => simp
      | a :: b :: _, hfront => grind
    · match front, hlong with
      | [], hlong => simp at hlong
      | a :: _, _ => grind
    · simp [List.replicate]
  | cons t rest =>
    cases rest with
    | nil =>
      obtain rfl | rfl | rfl : p = 0 ∨ p = 1 ∨ p = 2 := by omega
      · match front, hfront with
        | [], _ => simp
        | a :: _, hfront => grind
      · grind
      · grind
    | cons t' rest => grind

/-- The decoding of RFC 4648, with as many bytes as the groups give less the padding. -/
structure RfcDecoding (cs : List Char) (out : Bytes) : Prop where
  decoded : decode (trimSpace cs) = some out
  length : 4 * (out.length + ((trimSpace cs).rtakeWhile (· = '=')).length) =
    3 * (trimSpace cs).length

/-- The text is no longer than an `int` tells, and white space never hides its padding. -/
structure PaddingInSight (cs : List Char) : Prop where
  whole : ∀ c ∈ cs.drop (cs.length % 4294967296), isSpace c = true
  padding : ∃ p, p ≤ 2 ∧ PaddedBy p (trimSpace cs) ∧
    (p = 0 ∨ p + (cs.rtakeWhile isSpace).length ≤ 2)

theorem rtakeWhile_padded {p : Nat} {text : List Char} (h : PaddedBy p text) :
    (text.rtakeWhile (· = '=')).length = p := by
  obtain ⟨body, rfl, hbody⟩ := h
  rw [List.rtakeWhile, List.reverse_append, List.reverse_replicate, List.length_reverse]
  have hhead : (body.reverse.takeWhile (· = '=')) = [] := by
    cases hrev : body.reverse with
    | nil => rfl
    | cons b rest =>
      have hmem : b ∈ body := List.mem_reverse.mp (hrev ▸ List.mem_cons_self)
      have hne : b ≠ '=' := fun heq => hbody (heq ▸ hmem)
      simp [hne]
  rw [List.takeWhile_append_of_pos (by simp), hhead, List.append_nil, List.length_replicate]

/-- A text that is decoded has the groups that reading padding as zero bits needs. -/
theorem decodeZero_of_decode {text : List Char} {out : Bytes} (h : decode text = some out) :
    ∃ zeros, decodeZero text = some zeros := by
  induction text using decode.induct generalizing out with
  | case1 => exact ⟨[], rfl⟩
  | case2 a b c d rest ih =>
    obtain ⟨x, hx, h⟩ := Option.bind_eq_some_iff.mp h
    obtain ⟨y, hy, h⟩ := Option.bind_eq_some_iff.mp h
    have hgroup {z w : Nat} {tail : Bytes} (hz : zeroValue c = some z) (hw : zeroValue d = some w)
        (htail : decodeZero rest = some tail) :
        ∃ zeros, decodeZero (a :: b :: c :: d :: rest) = some zeros :=
      ⟨_, decodeZero_cons.mpr ⟨x, y, z, w, tail, zeroValue_of_value hx, zeroValue_of_value hy, hz,
        hw, htail, rfl⟩⟩
    by_cases hlast : rest = [] ∧ d = '='
    · have hd : zeroValue d = some 0 := by
        rw [hlast.2]
        rfl
      have hrest : decodeZero rest = some [] := by
        rw [hlast.1]
        rfl
      rw [if_pos hlast] at h
      by_cases hpad : c = '='
      · have hc : zeroValue c = some 0 := by
          rw [hpad]
          rfl
        exact hgroup hc hd hrest
      · rw [if_neg hpad] at h
        obtain ⟨z, hz, -⟩ := Option.bind_eq_some_iff.mp h
        exact hgroup (zeroValue_of_value hz) hd hrest
    · rw [if_neg hlast] at h
      obtain ⟨z, hz, h⟩ := Option.bind_eq_some_iff.mp h
      obtain ⟨w, hw, h⟩ := Option.bind_eq_some_iff.mp h
      obtain ⟨more, hmore, -⟩ := Option.bind_eq_some_iff.mp h
      obtain ⟨tail, htail⟩ := ih hmore
      exact hgroup (zeroValue_of_value hz) (zeroValue_of_value hw) htail
  | case3 text hnil hcons =>
    rw [decode] at h
    · cases h
    · exact hnil
    · exact hcons

/-- Whether the padding is counted right, for a text of whole groups between the white space. -/
theorem countPadding_trimmed {cs : List Char} {p : Nat} (hp : p ≤ 2)
    (hpad : PaddedBy p (trimSpace cs)) (hgroups : (trimSpace cs).length % 4 = 0) :
    countPadding cs = p ↔ p = 0 ∨ p + (cs.rtakeWhile isSpace).length ≤ 2 := by
  obtain ⟨lead, trail, hlead, htrail, hcs⟩ := trimSpace_parts cs
  obtain ⟨body, hbody, hnopad⟩ := hpad
  have hspace {text : List Char} (htext : ∀ c ∈ text, isSpace c = true) : '=' ∉ text :=
    fun hmem => absurd (htext _ hmem) (by decide)
  have hfront : '=' ∉ lead ++ body := by
    rw [List.mem_append, not_or]
    exact ⟨hspace hlead, hnopad⟩
  have hsplit : cs = (lead ++ body) ++ (List.replicate p '=' ++ trail) := by
    conv_lhs => rw [hcs, hbody]
    simp only [List.append_assoc]
  rw [hbody, List.length_append, List.length_replicate] at hgroups
  obtain rfl | hpos := Nat.eq_zero_or_pos p
  · rw [hsplit, countPadding_eq_iff hp hfront (hspace htrail) (.inl rfl)]
    simp
  have htail : cs.rtakeWhile isSpace = trail := by
    have hlast : List.replicate p '=' = List.replicate (p - 1) '=' ++ ['='] := by
      rw [← List.replicate_succ', Nat.sub_add_cancel hpos]
    rw [hsplit, hlast, List.rtakeWhile]
    simp only [List.reverse_append, List.append_assoc]
    rw [List.takeWhile_append_of_pos (by simpa using htrail)]
    simp [isSpace]
  rw [htail]
  conv_lhs => rw [hsplit]
  exact countPadding_eq_iff hp hfront (hspace htrail)
    (.inr (by rw [List.length_append]; omega))

section Accepted
variable {decodeBlock : List Char → Option Bytes} {base64Data : String} {out : Bytes}

/-- The characters `decode_base64` hands over, with the length it makes of the text's. -/
def handedOver (cs : List Char) : List Char := cs.take (cs.length % 4294967296)

theorem decodeBase64_ok (hdoc : DecodesBlocks decodeBlock)
    (h : decodeBase64 decodeBlock base64Data = .ok out) :
    ∃ zeros, decodeZero (trimSpace (handedOver base64Data.toList)) = some zeros ∧
      countPadding base64Data.toList ≤ zeros.length ∧
      out = zeros.take (zeros.length - countPadding base64Data.toList) := by
  rw [decodeBase64] at h
  split at h
  · cases h
  · split at h
    · cases h
    · next zeros hzeros =>
      dsimp only at h
      split at h
      · cases h
      · next hlong =>
        refine ⟨zeros, ?_, Nat.le_of_not_lt hlong, (Except.ok.inj h).symm⟩
        rw [handedOver, String.length_toList]
        exact hdoc.reads _ _ hzeros

/-- White space that is not handed over is trimmed anyway. -/
theorem trimSpace_handedOver {cs : List Char}
    (hwhole : ∀ c ∈ cs.drop (cs.length % 4294967296), isSpace c = true)
    (hcodes : ∀ c ∈ trimSpace (handedOver cs), IsCode c) :
    trimSpace cs = trimSpace (handedOver cs) := by
  obtain ⟨lead, trail, hlead, htrail, hparts⟩ := trimSpace_parts (handedOver cs)
  have hsplit : cs = lead ++ (trimSpace (handedOver cs) ++
      (trail ++ cs.drop (cs.length % 4294967296))) := by
    conv_lhs => rw [← List.take_append_drop (cs.length % 4294967296) cs]
    rw [← handedOver]
    conv_lhs => rw [hparts]
    simp only [List.append_assoc]
  conv_lhs => rw [hsplit]
  refine trimSpace_core hlead ?_ fun c hc => not_isSpace_of_isCode (hcodes c hc)
  intro c hc
  exact (List.mem_append.mp hc).elim (htrail c) (hwhole c)

/-- Decoding a text of which a part was never handed over gives too many bytes. -/
theorem whole_of_rfcDecoding {cs : List Char} {zeros : Bytes} (h : RfcDecoding cs out)
    (hzeros : decodeZero (trimSpace (handedOver cs)) = some zeros)
    (hshort : out.length ≤ zeros.length) :
    ∀ c ∈ cs.drop (cs.length % 4294967296), isSpace c = true := by
  obtain ⟨allZeros, hall⟩ := decodeZero_of_decode h.decoded
  obtain ⟨p, hp, -, hout⟩ := (decode_iff hall).mp h.decoded
  have hlength : out.length = allZeros.length - p := by
    rw [hout, List.length_take]
    omega
  have hfilter {text : List Char} {bytes : Bytes}
      (hbytes : decodeZero (trimSpace text) = some bytes) :
      text.filter (fun c => !isSpace c) = trimSpace text :=
    trimSpace_eq_filter fun c hc => not_isSpace_of_isCode (decodeZero_codes hbytes c hc)
  have hparts : trimSpace cs = trimSpace (handedOver cs) ++
      (cs.drop (cs.length % 4294967296)).filter (fun c => !isSpace c) := by
    rw [← hfilter hall, ← hfilter hzeros, ← List.filter_append, handedOver, List.take_append_drop]
  have hcount := congrArg List.length hparts
  rw [List.length_append] at hcount
  have hgroups := decodeZero_length hzeros
  have hallGroups := decodeZero_length hall
  have hnil : (cs.drop (cs.length % 4294967296)).filter (fun c => !isSpace c) = [] :=
    List.length_eq_zero_iff.mp (by omega)
  intro c hc
  simpa using List.filter_eq_nil_iff.mp hnil c hc

/-- An accepted text is decoded as RFC 4648 does exactly where its padding is in sight. -/
theorem base64_rfc_iff (hdoc : DecodesBlocks decodeBlock)
    (h : decodeBase64 decodeBlock base64Data = .ok out) :
    RfcDecoding base64Data.toList out ↔ PaddingInSight base64Data.toList := by
  obtain ⟨zeros, hzeros, hpadding, rfl⟩ := decodeBase64_ok hdoc h
  have hgroups := decodeZero_length hzeros
  have htrim (hwhole : ∀ c ∈ base64Data.toList.drop (base64Data.toList.length % 4294967296),
      isSpace c = true) : trimSpace base64Data.toList = trimSpace (handedOver base64Data.toList) :=
    trimSpace_handedOver hwhole (decodeZero_codes hzeros)
  constructor
  · intro hrfc
    have hwhole := whole_of_rfcDecoding hrfc hzeros (by rw [List.length_take]; omega)
    have hdecoded := hrfc.decoded
    rw [htrim hwhole] at hdecoded
    obtain ⟨p, hp, hpad, hout⟩ := (decode_iff hzeros).mp hdecoded
    have hple : p ≤ (trimSpace (handedOver base64Data.toList)).length := by
      obtain ⟨body, hbody, -⟩ := hpad
      rw [hbody, List.length_append, List.length_replicate]
      omega
    have hlength := congrArg List.length hout
    rw [List.length_take, List.length_take] at hlength
    rw [← htrim hwhole] at hpad hgroups hple
    exact ⟨hwhole, p, hp, hpad, (countPadding_trimmed hp hpad (by omega)).mp (by omega)⟩
  · intro hsight
    obtain ⟨hwhole, p, hp, hpad, hseen⟩ := hsight
    have hcount : countPadding base64Data.toList = p := by
      refine (countPadding_trimmed hp hpad ?_).mpr hseen
      rw [htrim hwhole]
      omega
    refine ⟨?_, ?_⟩
    · rw [htrim hwhole] at hpad ⊢
      exact (decode_iff hzeros).mpr ⟨p, hp, hpad, by rw [hcount]⟩
    · rw [rtakeWhile_padded hpad, htrim hwhole, List.length_take]
      omega

end Accepted

/-- A decoder as the documentation describes it. -/
def documentedBlock (cs : List Char) : Option Bytes := decodeZero (trimSpace cs)

theorem trimSpace_codes {cs : List Char} (h : ∀ c ∈ cs, IsCode c) : trimSpace cs = cs := by
  have hcore : trimSpace ([] ++ (cs ++ [])) = cs :=
    trimSpace_core (by simp) (by simp) fun c hc => not_isSpace_of_isCode (h c hc)
  rwa [List.nil_append, List.append_nil] at hcore

theorem documentedBlock_decodes : DecodesBlocks documentedBlock where
  reads := fun _ _ h => h
  accepts := fun cs hcodes hlength => by
    rw [documentedBlock, trimSpace_codes hcodes]
    exact decodeZero_succeeds hcodes hlength

theorem base64_rfc_iff_padded : RfcDecoding "TWE=".toList [77, 97] ↔ PaddingInSight "TWE=".toList :=
  base64_rfc_iff documentedBlock_decodes
    (show decodeBase64 documentedBlock "TWE=" = .ok [77, 97] by decide)

/-- A line end after the padding, and a zero byte too many is given. -/
theorem base64_line_end : decodeBase64 documentedBlock "QQ==\n" = .ok [65, 0] ∧
    decode (trimSpace "QQ==\n".toList) = some [65] ∧ ¬ RfcDecoding "QQ==\n".toList [65, 0] := by
  refine ⟨by decide, by decide, fun h => ?_⟩
  exact absurd h.decoded (by decide)

end AttestationSdk.Text
