import AttestationSdk.GpuSoundness
import AttestationSdk.DelimitedText
import AttestationSdk.ExceptRules
import Mathlib.Data.List.TakeWhile

/-! From the text of a certificate chain to the certificates whose revocation is checked. -/
namespace AttestationSdk.CertChain
open AttestationSdk.Ocsp AttestationSdk.ChainStatus DelimitedText Effects ExceptRules

/-- What the splitting loop skips behind a marker. -/
def LineBreak (c : Char) : Prop := c = '\n' ∨ c = '\r'

/-- The END CERTIFICATE markers of a text. -/
def markerCount (certChain : String) : Nat :=
  occurrences endCertificate.toList 0 certChain.toList

/-- `X509CertChain::generate_ocsp_claims`. -/
def generateOcspClaims {σ : Type} (lib : X509Lib) (ocspLib : OcspLib) (client : OcspClient σ)
    (chain : X509CertChain) : Prog Fault σ OCSPClaims := do
  let path ← Prog.lift (verify lib chain)
  generateOcspClaimsForPath ocspLib client chain.type chain.trustStore path

theorem endCertificate_ne_nil : endCertificate.toList ≠ [] := by decide

theorem splitAfter_cutsAt {d text piece rest : List Char} (hd : d ≠ [])
    (h : splitAfter d text = some (piece, rest)) : CutsAt d text piece rest := by
  induction text generalizing piece with
  | nil => simp [splitAfter] at h
  | cons c text ih =>
    rw [splitAfter] at h
    by_cases hfront : d.isPrefixOf (c :: text)
    · rw [if_pos hfront, Option.some.injEq, Prod.mk.injEq] at h
      obtain ⟨rfl, rfl⟩ := h
      have htext := List.prefix_iff_eq_append.mp (List.isPrefixOf_iff_prefix.mp hfront)
      have hcut := cutsAt_here hd ((c :: text).drop d.length)
      rwa [htext] at hcut
    · rw [if_neg hfront, Option.map_eq_some_iff] at h
      obtain ⟨⟨inner, rest'⟩, hinner, hpair⟩ := h
      rw [Prod.mk.injEq] at hpair
      obtain ⟨rfl, rfl⟩ := hpair
      exact (ih hinner).cons hd fun hp => hfront (List.isPrefixOf_iff_prefix.mpr hp)

theorem splitAfter_free {d text : List Char} (hd : d ≠ []) (h : splitAfter d text = none) :
    ¬ d <:+: text := by
  induction text with
  | nil => exact fun hin => hd (List.infix_nil.mp hin)
  | cons c text ih =>
    rw [splitAfter] at h
    by_cases hfront : d.isPrefixOf (c :: text)
    · rw [if_pos hfront] at h
      cases h
    · rw [if_neg hfront, Option.map_eq_none_iff] at h
      rw [List.infix_cons_iff, not_or]
      exact ⟨fun hp => hfront (List.isPrefixOf_iff_prefix.mpr hp), ih h⟩

/-- With a turn more than the text is long the loop cuts the whole text. -/
theorem pemPieces_pieces {fuel : Nat} {text : List Char} (hfuel : text.length < fuel) :
    Pieces endCertificate.toList LineBreak text ((pemPieces fuel text).map String.toList) := by
  induction fuel generalizing text with
  | zero => omega
  | succ fuel ih =>
    rw [pemPieces]
    cases hsplit : splitAfter endCertificate.toList text with
    | none => exact .done (splitAfter_free endCertificate_ne_nil hsplit)
    | some found =>
      obtain ⟨piece, rest⟩ := found
      have hcut := splitAfter_cutsAt endCertificate_ne_nil hsplit
      have hlt := hcut.rest_length_lt endCertificate_ne_nil
      have hshorter : (rest.dropWhile fun c => c = '\n' ∨ c = '\r').length ≤ rest.length :=
        (List.dropWhile_sublist _).length_le
      rw [List.map_cons, String.toList_ofList]
      have hcut' : CutsAt endCertificate.toList text piece
          ((rest.takeWhile fun c => c = '\n' ∨ c = '\r') ++
            rest.dropWhile fun c => c = '\n' ∨ c = '\r') := by
        rwa [List.takeWhile_append_dropWhile]
      refine .cut hcut' ?_ ?_ (ih (by omega))
      · intro c hc
        simpa [LineBreak] using List.mem_takeWhile_imp hc
      · intro c hc
        have := List.head?_dropWhile_not (fun c : Char => decide (c = '\n' ∨ c = '\r')) rest
        rw [hc] at this
        simpa [LineBreak] using this

/-- More turns find no more pieces. -/
theorem pemPieces_fuel {fuel fuel' : Nat} {text : List Char} (h : text.length < fuel)
    (h' : text.length < fuel') : pemPieces fuel text = pemPieces fuel' text := by
  induction fuel generalizing fuel' text with
  | zero => omega
  | succ fuel ih =>
    cases fuel' with
    | zero => omega
    | succ fuel' =>
      rw [pemPieces, pemPieces]
      cases hsplit : splitAfter endCertificate.toList text with
      | none => rfl
      | some found =>
        have hlt := (splitAfter_cutsAt endCertificate_ne_nil hsplit).rest_length_lt
          endCertificate_ne_nil
        have hshorter : (found.2.dropWhile fun c => c = '\n' ∨ c = '\r').length ≤ found.2.length :=
          (List.dropWhile_sublist _).length_le
        exact congrArg (String.ofList found.1 :: ·) (ih (by omega) (by omega))

/-- The certificates are those of the pieces, in their order. -/
theorem pushPieces_ok {lib : X509Lib} {pieces : List String} {chain chain' : X509CertChain}
    (h : pieces.foldlM (fun chain piece => mapCode .InternalError (lib.pushBack chain piece)) chain =
      .ok chain') :
    ∃ certs, pieces.map lib.pemReadX509 = certs.map some ∧
      chain' = { chain with certs := chain.certs ++ certs } := by
  induction pieces generalizing chain with
  | nil =>
    obtain rfl : chain = chain' := Except.ok.inj h
    exact ⟨[], rfl, by simp⟩
  | cons piece pieces ih =>
    rw [List.foldlM_cons, bind_eq_ok] at h
    obtain ⟨next, hpush, hrest⟩ := h
    obtain ⟨x, hread, rfl⟩ := X509Lib.pushBack_ok (mapCode_ok hpush)
    obtain ⟨certs, hcerts, rfl⟩ := ih hrest
    exact ⟨x :: certs, by simp [hread, hcerts], by simp⟩

/-- The type asked for is not read. -/
theorem createFromCertChainStr_type (lib : X509Lib) (type type' : CertificateChainType)
    (rootCert certChain : String) : createFromCertChainStr lib type rootCert certChain =
      createFromCertChainStr lib type' rootCert certChain := rfl

/-- A chain made from a text: its certificates are the text's pieces, and its type does not
depend on the type asked for. -/
theorem createFromCertChainStr_ok {lib : X509Lib} {type : CertificateChainType}
    {rootCert certChain : String} {chain : X509CertChain}
    (h : createFromCertChainStr lib type rootCert certChain = .ok chain) :
    (pemPieces (certChain.length + 1) certChain.toList).map lib.pemReadX509 =
        chain.certs.map some ∧
      chain.certs ≠ [] ∧ chain.type = .GPU_DEVICE_IDENTITY := by
  rw [createFromCertChainStr] at h
  split at h
  · cases h
  · obtain ⟨empty, hcreate, h⟩ := bind_eq_ok.mp h
    obtain ⟨filled, hpush, h⟩ := bind_eq_ok.mp h
    obtain ⟨certs, hcerts, rfl⟩ := pushPieces_ok hpush
    obtain ⟨root, -, rfl⟩ := X509Lib.create_ok hcreate
    cases certs with
    | nil => cases h
    | cons x certs =>
      obtain rfl := Except.ok.inj h
      exact ⟨hcerts, by simp, rfl⟩

/-- A call asked about exactly the certificates from an index on up to the one below the root,
each once, and counted them. -/
def Covers {σ : Type} (client : OcspClient σ) (chain : X509CertChain) (s s' : σ)
    (claims : OCSPClaims) (start : Nat) : Prop :=
  ∃ store qs rs, chain.trustStore = some store ∧
    qs.map some = (coveredIndices start (chain.certs.length - 1)).map
      (queryAt store chain.certs) ∧
    Asked client s qs rs s' ∧ claims.coveredCertificates = qs.length

theorem Covers.count {σ : Type} {client : OcspClient σ} {chain : X509CertChain} {s s' : σ}
    {claims : OCSPClaims} {start : Nat} (h : Covers client chain s s' claims start) :
    claims.coveredCertificates = chain.certs.length - 1 - start := by
  obtain ⟨store, qs, rs, -, hqs, -, hcount⟩ := h
  have hlength := congrArg List.length hqs
  rw [List.length_map, List.length_map] at hlength
  rw [hcount, hlength, coveredIndices, List.length_reverse, List.length_range']

/-- A call that returns covers the certificates its chain's own type names. -/
theorem generateOcspClaims_covers {σ : Type} {lib : X509Lib} {ocspLib : OcspLib}
    {client : OcspClient σ} {chain : X509CertChain} {s s' : σ} {claims : OCSPClaims}
    (h : generateOcspClaims lib ocspLib client chain s = (.ok claims, s')) :
    Covers client chain s s' claims (startIndex chain.type) := by
  obtain ⟨path, s₁, hpath, hwalk⟩ := Prog.bind_eq_ok.mp h
  obtain ⟨hverify, rfl⟩ := Prog.lift_iff.mp hpath
  obtain ⟨_, _, _, _, _, _, hsame⟩ := VouchedChain.verify_ok hverify
  obtain ⟨store, qs, rs, hstore, hqs, hasked, hsum, -⟩ := generateOcspClaimsForPath_ok hwalk
  rw [hsame] at hqs
  exact ⟨store, qs, rs, hstore, hqs, hasked, by rw [hsum.covered, hasked.length_eq]⟩

theorem startIndex_zero_or_one (type : CertificateChainType) :
    startIndex type = 0 ∨ startIndex type = 1 := by
  cases type <;> simp [startIndex]

theorem startIndex_one_iff (type : CertificateChainType) : startIndex type = 1 ↔
    type = .GPU_DEVICE_IDENTITY ∨ type = .NVSWITCH_DEVICE_IDENTITY := by
  cases type <;> simp [startIndex]

/-- Below a single certificate there is nothing to cover. -/
theorem Covers.of_single {σ : Type} {client : OcspClient σ} {chain : X509CertChain} {s s' : σ}
    {claims : OCSPClaims} {start : Nat} (h : Covers client chain s s' claims start)
    (hsingle : chain.certs.length = 1) (start' : Nat) :
    Covers client chain s s' claims start' := by
  have hempty : ∀ start, coveredIndices start (chain.certs.length - 1) = [] := by
    intro start
    have hnone : chain.certs.length - 1 - start = 0 := by omega
    rw [coveredIndices, hnone]
    rfl
  obtain ⟨store, qs, rs, hstore, hqs, hasked, hanswered⟩ := h
  exact ⟨store, qs, rs, hstore, by rw [hempty]; rwa [hempty] at hqs, hasked, hanswered⟩

/-- Where the first certificate is left out, another type is covered as well only if it leaves
out the first one too, or there is no other. -/
theorem Covers.type_iff {σ : Type} {client : OcspClient σ} {chain : X509CertChain} {s s' : σ}
    {claims : OCSPClaims} (h : Covers client chain s s' claims 1) (hne : chain.certs ≠ [])
    (type : CertificateChainType) : Covers client chain s s' claims (startIndex type) ↔
      (type = .GPU_DEVICE_IDENTITY ∨ type = .NVSWITCH_DEVICE_IDENTITY) ∨
        chain.certs.length = 1 := by
  rw [← startIndex_one_iff]
  constructor
  · intro hwanted
    -- both coverages count the same answers
    have hsame := h.count.symm.trans hwanted.count
    have hpos := List.length_pos_iff.mpr hne
    cases startIndex_zero_or_one type with
    | inl hzero => right; omega
    | inr hstart => exact .inl hstart
  · rintro (hstart | hsingle)
    · rwa [hstart]
    · exact h.of_single hsingle _

/-- The pieces of a text, with the certificates they hold. -/
theorem createFromCertChainStr_pieces {lib : X509Lib} {type : CertificateChainType}
    {rootCert certChain : String} {chain : X509CertChain}
    (h : createFromCertChainStr lib type rootCert certChain = .ok chain) :
    ∃ pieces, Pieces endCertificate.toList LineBreak certChain.toList
        (pieces.map String.toList) ∧
      (∀ fuel, certChain.length < fuel → pemPieces fuel certChain.toList = pieces) ∧
      pieces.map lib.pemReadX509 = chain.certs.map some ∧
      chain.certs.length = markerCount certChain := by
  obtain ⟨hcerts, -, -⟩ := createFromCertChainStr_ok h
  have hpieces : Pieces endCertificate.toList LineBreak certChain.toList
      ((pemPieces (certChain.length + 1) certChain.toList).map String.toList) :=
    pemPieces_pieces (by rw [String.length_toList]; omega)
  have hgap : ∀ c, LineBreak c → c ∉ endCertificate.toList.head? := by
    rintro c (rfl | rfl) <;> decide
  have hcount : chain.certs.length = markerCount certChain := by
    have hlength := congrArg List.length hcerts
    rw [List.length_map, List.length_map] at hlength
    rw [← hlength, markerCount, ← hpieces.length_eq endCertificate_ne_nil hgap, List.length_map]
  refine ⟨_, hpieces, fun fuel hfuel => ?_, hcerts, hcount⟩
  apply pemPieces_fuel <;> rw [String.length_toList] <;> omega

/-- Splitting and coverage of a chain made from a text. It has one certificate for each marker,
in order, and the loop has ended once it has taken as many turns as the text is long. Its
revocation coverage is that of a device identity: it is the coverage of the requested type
exactly where that type is a device identity or the text has a single certificate. -/
theorem coverage_follows_type_iff (lib : X509Lib) (type : CertificateChainType)
    (rootCert certChain : String) (chain : X509CertChain)
    (h : createFromCertChainStr lib type rootCert certChain = .ok chain) :
    (∃ pieces, Pieces endCertificate.toList LineBreak certChain.toList
        (pieces.map String.toList) ∧
      (∀ fuel, certChain.length < fuel → pemPieces fuel certChain.toList = pieces) ∧
      pieces.map lib.pemReadX509 = chain.certs.map some ∧
      chain.certs.length = markerCount certChain) ∧
    ∀ (σ : Type) (ocspLib : OcspLib) (client : OcspClient σ) (s s' : σ) (claims : OCSPClaims),
      generateOcspClaims lib ocspLib client chain s = (.ok claims, s') →
      (Covers client chain s s' claims (startIndex type) ↔
        (type = .GPU_DEVICE_IDENTITY ∨ type = .NVSWITCH_DEVICE_IDENTITY) ∨
          markerCount certChain = 1) := by
  obtain ⟨-, hne, htype⟩ := createFromCertChainStr_ok h
  have hsplit := createFromCertChainStr_pieces h
  refine ⟨hsplit, fun σ ocspLib client s s' claims hrun => ?_⟩
  obtain ⟨_, -, -, -, hcount⟩ := hsplit
  have hcovers := generateOcspClaims_covers hrun
  have hone : startIndex chain.type = 1 := by rw [htype]; rfl
  rw [hone] at hcovers
  rw [← hcount]
  exact hcovers.type_iff hne type

section DeviceText
open GpuSample Report

theorem deviceText_chain (type : CertificateChainType) :
    createFromCertChainStr GpuSample.x509 type deviceRootCert certChainText = .ok deviceChain :=
  (createFromCertChainStr_type _ _ _ _ _).trans createFromCertChainStr_chain

theorem deviceChain_covered : ∃ claims,
    generateOcspClaims GpuSample.x509 GpuSample.ocsp ocspClient deviceChain () =
      (.ok claims, ()) ∧ claims.coveredCertificates = 1 := by
  have hrun : (generateOcspClaims GpuSample.x509 GpuSample.ocsp ocspClient deviceChain
      ()).1.toOption.map (·.coveredCertificates) = some 1 := by
    decide +kernel
  obtain ⟨claims, hclaims, hcount⟩ := Option.map_eq_some_iff.mp hrun
  exact ⟨claims, run_of_toOption hclaims, hcount⟩

theorem coverage_follows_type_sample : ∃ claims,
    Covers ocspClient deviceChain () () claims (startIndex .NVSWITCH_DEVICE_IDENTITY) := by
  obtain ⟨claims, hrun, -⟩ := deviceChain_covered
  exact ⟨claims, ((coverage_follows_type_iff GpuSample.x509 .NVSWITCH_DEVICE_IDENTITY
    deviceRootCert certChainText deviceChain (deviceText_chain _)).2 Unit GpuSample.ocsp
    ocspClient () () claims hrun).mpr (.inl (.inr rfl))⟩

/-- Three certificates asked for as the chain of a driver RIM: the first is not covered. -/
theorem rim_chain_leaf_uncovered :
    ¬ ∀ (lib : X509Lib) (ocspLib : OcspLib) (client : OcspClient Unit)
      (type : CertificateChainType) (rootCert certChain : String) (chain : X509CertChain)
      (claims : OCSPClaims), createFromCertChainStr lib type rootCert certChain = .ok chain →
      generateOcspClaims lib ocspLib client chain () = (.ok claims, ()) →
      Covers client chain () () claims (startIndex type) := by
  intro h
  obtain ⟨claims, hrun, hcount⟩ := deviceChain_covered
  have hcovers := h GpuSample.x509 GpuSample.ocsp ocspClient .GPU_DRIVER_RIM deviceRootCert
    certChainText deviceChain claims (deviceText_chain _) hrun
  have htwo := hcovers.count
  rw [hcount] at htwo
  exact absurd htwo (by decide)

end DeviceText

end AttestationSdk.CertChain
