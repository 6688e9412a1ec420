import AttestationSdk.HexDecoding

/-! A nonce through the C API, as text and back: `nvat_nonce_from_hex` and
`nvat_nonce_to_hex_string`. -/
namespace AttestationSdk.Cli
open AttestationSdk.Eat AttestationSdk.Text AttestationSdk.Evidence Effects

/-- `nvat_nonce_from_hex` as a call, with the caller's variable for the nonce. -/
def nvatNonceFromHexInto (hexString : String) : Prog Error (Option Bytes) Unit := do
  let nonce ← Prog.lift (nvatNonceFromHex hexString)
  Prog.update fun _ => some nonce

/-- A text of a nonce: an optional prefix and two digits for each of its bytes. -/
structure NonceText (s digits : String) (n : Nat) : Prop where
  shape : s = digits ∨ s = "0x" ++ digits ∨ s = "0X" ++ digits
  pairs : digits.length = 2 * n
  long : minValidNonceLen ≤ n
  hex : ∀ c ∈ digits.toList, isDigitIn 16 c = true

/-- The text is read as a nonce exactly if it is one; the nonce is written as its digits in lower
case, which are read as the same nonce; and nothing is written for another text. -/
structure ReadExactly (s : String) : Prop where
  accepts : ∀ out, (nvatNonceFromHexInto s out).1 = .ok () ↔ ∃ digits n, NonceText s digits n
  nonce : ∀ digits n, NonceText s digits n → ∀ out, ∃ nonce : Bytes,
    nvatNonceFromHexInto s out = (.ok (), some nonce) ∧ nonce.length = n ∧
      toHexString nonce = toLower digits ∧
      ∀ out', nvatNonceFromHexInto (toHexString nonce) out' = (.ok (), some nonce)
  untouched : (¬ ∃ digits n, NonceText s digits n) → ∀ out, (nvatNonceFromHexInto s out).2 = out

section Prefix
variable {s digits : String}

theorem not_isDigitIn_x : isDigitIn 16 'x' = false ∧ isDigitIn 16 'X' = false := by
  decide

/-- Digits alone do not start like a prefix. -/
theorem hexNoPrefix_digits (h : ∀ c ∈ s.toList, isDigitIn 16 c = true) : hexNoPrefix s = s := by
  have hno (p : String) (x : Char) (hp : p.toList = ['0', x]) (hx : isDigitIn 16 x = false) :
      s.startsWith p = false := by
    refine Bool.eq_false_iff.mpr fun hstarts => ?_
    rw [String.startsWith_string_iff, hp] at hstarts
    have hmem : x ∈ s.toList := hstarts.subset (by simp)
    exact Bool.false_ne_true (hx.symm.trans (h x hmem))
  rw [hexNoPrefix, hno "0x" 'x' rfl not_isDigitIn_x.1, hno "0X" 'X' rfl not_isDigitIn_x.2]
  rfl

theorem hexNoPrefix_prefixed {p : String} (hp : p = "0x" ∨ p = "0X") :
    hexNoPrefix (p ++ digits) = digits := by
  have htwo : p.toList.length = 2 := by
    cases hp with
    | inl h => rw [h]; rfl
    | inr h => rw [h]; rfl
  have hstarts : (p ++ digits).startsWith p = true := by
    rw [String.startsWith_string_iff, String.toList_append]
    exact List.prefix_append p.toList digits.toList
  have hcond : ((p ++ digits).startsWith "0x" || (p ++ digits).startsWith "0X") = true := by
    cases hp with
    | inl h => rw [← h, hstarts, Bool.true_or]
    | inr h => rw [← h, hstarts, Bool.or_true]
  rw [hexNoPrefix, if_pos hcond, String.toList_append, ← htwo, List.drop_left, String.ofList_toList]

/-- What is left of a text with or without its prefix. -/
theorem hexNoPrefix_shape (s : String) :
    s = hexNoPrefix s ∨ s = "0x" ++ hexNoPrefix s ∨ s = "0X" ++ hexNoPrefix s := by
  have hsplit (p : String) (hp : p.toList.length = 2) (h : s.startsWith p = true) :
      s = p ++ String.ofList (s.toList.drop 2) := by
    rw [String.startsWith_string_iff] at h
    obtain ⟨rest, hrest⟩ := h
    rw [← String.toList_inj, String.toList_append, String.toList_ofList, ← hrest, ← hp,
      List.drop_left]
  rw [hexNoPrefix]
  by_cases hlower : s.startsWith "0x" = true
  · rw [hlower, Bool.true_or, if_pos rfl]
    exact .inr (.inl (hsplit "0x" rfl hlower))
  · by_cases hupper : s.startsWith "0X" = true
    · rw [hupper, Bool.or_true, if_pos rfl]
      exact .inr (.inr (hsplit "0X" rfl hupper))
    · rw [if_neg (by simp [hlower, hupper])]
      exact .inl rfl

theorem NonceText.hexNoPrefix {n : Nat} (h : NonceText s digits n) : Cli.hexNoPrefix s = digits := by
  cases h.shape with
  | inl hplain =>
    rw [hplain]
    exact hexNoPrefix_digits h.hex
  | inr hprefixed =>
    cases hprefixed with
    | inl hlower =>
      rw [hlower]
      exact hexNoPrefix_prefixed (.inl rfl)
    | inr hupper =>
      rw [hupper]
      exact hexNoPrefix_prefixed (.inr rfl)

end Prefix

theorem hexStringToBytes_length {hex : String} {n : Nat} (h : hex.length = 2 * n) :
    (hexStringToBytes hex).length = n := by
  have hpairs (cs : List Char) (n : Nat) (hlen : cs.length = 2 * n) : (pairsOf cs).length = n := by
    induction cs using pairsOf.induct generalizing n with
    | case1 =>
      rw [List.length_nil] at hlen
      rw [pairsOf, List.length_nil]
      omega
    | case2 c =>
      rw [List.length_singleton] at hlen
      omega
    | case3 c d rest ih =>
      rw [List.length_cons, List.length_cons] at hlen
      rw [pairsOf, List.length_cons, ih (n - 1) (by omega)]
      omega
  rw [hexStringToBytes, List.length_map]
  exact hpairs hex.toList n (by rwa [String.length_toList])

section Reading
variable {s digits : String} {n : Nat}

/-- A text of a nonce passes every check, so the decoder has the word. -/
theorem NonceText.nvatNonceFromHex (h : NonceText s digits n) :
    Cli.nvatNonceFromHex s = match readHex digits with
      | .error _ => .error .InternalError
      | .ok bytes => if bytes.length < minValidNonceLen then .error .BadArgument else .ok bytes := by
  have hmin : minValidNonceLen = 32 := rfl
  have hlong := h.long
  have hpairs := h.pairs
  have hempty : digits.isEmpty = false := by
    refine Bool.eq_false_iff.mpr fun hempty => ?_
    rw [String.isEmpty_iff.mp hempty, String.length_empty] at hpairs
    omega
  have hshape : ¬ (digits.isEmpty || decide (digits.length % 2 ≠ 0)) = true := by
    rw [hempty, Bool.false_or, decide_eq_true_iff]
    omega
  have hdigits : ¬ (!digits.toList.all hexDigitChars.contains) = true := by
    have hall : digits.toList.all hexDigitChars.contains = true :=
      List.all_eq_true.mpr fun c hc => List.contains_iff_mem.mpr (mem_hexDigitChars (h.hex c hc))
    rw [hall]
    decide
  rw [Cli.nvatNonceFromHex, h.hexNoPrefix]
  exact (if_neg hshape).trans (if_neg hdigits)

/-- Of the texts of nonces, those are read that the counter of the decoder can count. -/
theorem NonceText.nvatNonceFromHex_iff (h : NonceText s digits n) :
    (∃ nonce, Cli.nvatNonceFromHex s = .ok nonce) ↔ digits.length < 4294967296 := by
  have hpairs := h.pairs
  rw [h.nvatNonceFromHex, readHex]
  by_cases hcount : 4294967295 ≤ digits.length
  · rw [if_pos hcount]
    refine iff_of_false (fun hread => ?_) (by omega)
    obtain ⟨nonce, hnonce⟩ := hread
    cases hnonce
  · rw [if_neg hcount]
    simp only [hexStringToBytes_length hpairs, if_neg (Nat.not_lt.mpr h.long)]
    exact iff_of_true ⟨_, rfl⟩ (by omega)

/-- What is read of a text that can be counted. -/
theorem NonceText.nonce_eq (h : NonceText s digits n) (hcount : digits.length < 4294967296) :
    Cli.nvatNonceFromHex s = .ok (hexStringToBytes digits) := by
  have hpairs := h.pairs
  rw [h.nvatNonceFromHex, readHex, if_neg (by omega)]
  simp only [hexStringToBytes_length hpairs, if_neg (Nat.not_lt.mpr h.long)]

/-- A text that is read is the text of a nonce. -/
theorem nonceText_of_ok {nonce : Bytes} (h : nvatNonceFromHex s = .ok nonce) :
    ∃ n, NonceText s (hexNoPrefix s) n := by
  rw [nvatNonceFromHex] at h
  by_cases hshape : ((hexNoPrefix s).isEmpty || decide ((hexNoPrefix s).length % 2 ≠ 0)) = true
  · simp only [if_pos hshape] at h
    cases h
  · rw [Bool.or_eq_true, decide_eq_true_iff, not_or, not_not] at hshape
    have heven := hshape.2
    have hlength : (hexNoPrefix s).length = 2 * ((hexNoPrefix s).length / 2) := by omega
    rw [Bool.not_eq_true] at hshape
    simp only [hshape.1, heven, ne_eq, not_true_eq_false, decide_false, Bool.or_self,
      Bool.false_eq_true, if_false] at h
    by_cases hdigits : (hexNoPrefix s).toList.all hexDigitChars.contains = true
    · simp only [hdigits, Bool.not_true, Bool.false_eq_true, if_false, readHex] at h
      by_cases hcount : 4294967295 ≤ (hexNoPrefix s).length
      · rw [if_pos hcount] at h
        cases h
      · rw [if_neg hcount] at h
        dsimp only at h
        rw [hexStringToBytes_length hlength] at h
        by_cases hshort : (hexNoPrefix s).length / 2 < minValidNonceLen
        · rw [if_pos hshort] at h
          cases h
        · exact ⟨_, hexNoPrefix_shape s, hlength, Nat.not_lt.mp hshort,
            (hexChecked_iff.mp (by rw [hexChecked, hdigits, heven]; rfl)).2⟩
    · rw [Bool.not_eq_true] at hdigits
      simp only [hdigits, Bool.not_false, if_true] at h
      cases h

theorem nvatNonceFromHexInto_ok {nonce : Bytes} (h : nvatNonceFromHex s = .ok nonce)
    (out : Option Bytes) : nvatNonceFromHexInto s out = (.ok (), some nonce) := by
  rw [nvatNonceFromHexInto, h]
  rfl

theorem nvatNonceFromHexInto_error {e : Error} (h : nvatNonceFromHex s = .error e)
    (out : Option Bytes) : nvatNonceFromHexInto s out = (.error e, out) := by
  rw [nvatNonceFromHexInto, h]
  rfl

/-- The bytes of a nonce as the C API writes them are the text of that nonce. -/
theorem nonceText_toHexString {nonce : Bytes} (hlong : minValidNonceLen ≤ nonce.length) :
    NonceText (toHexString nonce) (toHexString nonce) nonce.length where
  shape := .inl rfl
  pairs := by rw [← String.length_toList, toHexString_length]
  long := hlong
  hex c hc := by
    have hlower : ∀ d ∈ lowerHexDigits, isDigitIn 16 d = true := by
      have hall : lowerHexDigits.all (isDigitIn 16) = true := by decide
      simpa only [List.all_eq_true] using hall
    exact hlower c (toHexString_chars nonce c hc)

end Reading

/-- Nonces are read exactly from texts, apart from a text with more digits than the decoder can
count. -/
theorem readExactly_iff (s : String) :
    ReadExactly s ↔ ∀ digits n, NonceText s digits n → digits.length < 4294967296 := by
  constructor
  · intro h digits n htext
    obtain ⟨nonce, hread, -⟩ := h.nonce digits n htext none
    cases hresult : nvatNonceFromHex s with
    | error e =>
      rw [nvatNonceFromHexInto_error hresult] at hread
      cases hread
    | ok nonce => exact htext.nvatNonceFromHex_iff.mp ⟨nonce, hresult⟩
  · intro hcount
    refine ⟨fun out => ⟨fun hok => ?_, fun htext => ?_⟩, fun digits n htext out => ?_,
      fun hno out => ?_⟩
    · cases hresult : nvatNonceFromHex s with
      | error e =>
        rw [nvatNonceFromHexInto_error hresult] at hok
        cases hok
      | ok nonce => exact ⟨_, nonceText_of_ok hresult⟩
    · obtain ⟨digits, n, htext⟩ := htext
      rw [nvatNonceFromHexInto_ok (htext.nonce_eq (hcount digits n htext))]
    · have hfits := hcount digits n htext
      have hchecked : hexChecked digits = true := hexChecked_iff.mpr
        ⟨by have hpairs := htext.pairs; omega, htext.hex⟩
      have hlength := hexStringToBytes_length htext.pairs
      have hback : NonceText (toHexString (hexStringToBytes digits)) _ _ :=
        nonceText_toHexString (hlength.symm ▸ htext.long)
      have hbackCount : (toHexString (hexStringToBytes digits)).length < 4294967296 := by
        have hsame := hback.pairs
        have hpairs := htext.pairs
        omega
      refine ⟨hexStringToBytes digits, nvatNonceFromHexInto_ok (htext.nonce_eq hfits) out,
        hlength, hexStringToBytes_back hchecked, fun out' => ?_⟩
      have hagain := hback.nonce_eq hbackCount
      rw [hexStringToBytes_toHexString] at hagain
      exact nvatNonceFromHexInto_ok hagain out'
    · cases hresult : nvatNonceFromHex s with
      | error e => rw [nvatNonceFromHexInto_error hresult]
      | ok nonce =>
        obtain ⟨n, htext⟩ := nonceText_of_ok hresult
        exact absurd ⟨_, n, htext⟩ hno

/-- A text of so many zero bytes. -/
theorem nonceText_zeros {n : Nat} (hlong : minValidNonceLen ≤ n) :
    NonceText (String.ofList (List.replicate (2 * n) '0'))
      (String.ofList (List.replicate (2 * n) '0')) n where
  shape := .inl rfl
  pairs := by rw [String.length_ofList, List.length_replicate]
  long := hlong
  hex c hc := by
    rw [String.toList_ofList] at hc
    rw [List.eq_of_mem_replicate hc]
    decide

/-- Four gibibytes of zeros are the text of a nonce, and are not read. -/
theorem zeros_not_read : ¬ ∀ s, ReadExactly s := by
  intro hclaim
  have htext := nonceText_zeros (show minValidNonceLen ≤ 2147483648 by decide)
  obtain ⟨nonce, hread, -⟩ := (hclaim _).nonce _ _ htext none
  have herror : nvatNonceFromHex (String.ofList (List.replicate (2 * 2147483648) '0')) =
      .error .InternalError := by
    rw [htext.nvatNonceFromHex, readHex, if_pos]
    rw [String.length_ofList, List.length_replicate]
    decide
  rw [nvatNonceFromHexInto_error herror] at hread
  cases hread

end AttestationSdk.Cli
