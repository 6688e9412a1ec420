import AttestationSdk.VouchedChain

/-! Which ends of the certificates' validity a chain reported valid lies within. -/
namespace AttestationSdk.CertChain
open AttestationSdk.Ocsp AttestationSdk.ChainStatus AttestationSdk.VouchedChain
open CalendarTime Effects Prog
variable {σ : Type} {x509 : X509Lib} {ocsp : OcspLib} {client : OcspClient σ}
  {now : Prog Fault σ Int} {chain : X509CertChain}

/-- Every certificate's `notBefore`, as `X509_get0_notBefore` would read it, has come. -/
def Started (notBefore : X509 → Option Tm) (chain : X509CertChain) (time : Int) : Prop :=
  ∀ cert ∈ chain.certs, ∃ tm, notBefore cert = some tm ∧ timegm tm ≤ time

/-- The time is inside the validity period of every certificate, and the expiration date is the
earliest `notAfter`. -/
structure WithinValidity (x509 : X509Lib) (notBefore : X509 → Option Tm) (chain : X509CertChain)
    (time : Int) (claims : CertChainClaims) : Prop where
  started : Started notBefore chain time
  unexpired : ∀ cert ∈ chain.certs, ∃ tm, x509.notAfter cert = some tm ∧ time ≤ timegm tm
  earliest : ∃ first ∈ chain.certs, ∃ tm, x509.notAfter first = some tm ∧
    claims.expirationDate = x509.iso8601 (timegm tm) ∧
    ∀ cert ∈ chain.certs, ∃ tm', x509.notAfter cert = some tm' ∧ timegm tm ≤ timegm tm'

/-- The least expiration time is the one before, or that of a certificate. -/
theorem minExpirationLoop_attained {certs : List X509} {least least' : Int} {found found' : Bool}
    (h : minExpirationLoop x509 certs least found = .ok (least', found')) :
    (least' = least ∧ found' = found) ∨
      ∃ cert ∈ certs, ∃ tm, x509.notAfter cert = some tm ∧ timegm tm = least' := by
  induction certs generalizing least found with
  | nil =>
    cases h
    exact .inl ⟨rfl, rfl⟩
  | cons cert rest ih =>
    cases htm : x509.notAfter cert with
    | none => simp [minExpirationLoop, htm, internalError] at h
    | some tm =>
      simp only [minExpirationLoop, htm] at h
      split at h
      · rcases ih h with ⟨rfl, _⟩ | ⟨later, hlater, hleast⟩
        · exact .inr ⟨cert, List.mem_cons_self, tm, htm, rfl⟩
        · exact .inr ⟨later, List.mem_cons_of_mem cert hlater, hleast⟩
      · rcases ih h with hsame | ⟨later, hlater, hleast⟩
        · exact .inl hsame
        · exact .inr ⟨later, List.mem_cons_of_mem cert hlater, hleast⟩

theorem calculateMinExpirationTime_attained {least : Int} {date : String}
    (h : calculateMinExpirationTime x509 chain = .ok (least, date)) :
    date = x509.iso8601 least ∧
      ∃ cert ∈ chain.certs, ∃ tm, x509.notAfter cert = some tm ∧ timegm tm = least := by
  obtain ⟨hdate, hloop⟩ := calculateMinExpirationTime_ok h
  refine ⟨hdate, (minExpirationLoop_attained hloop).resolve_left fun hsame => ?_⟩
  simp at hsame

/-- A chain reported valid is inside its validity period exactly where every certificate's
`notBefore` has come: only the other end is compared with the clock. -/
theorem valid_within_iff (notBefore : X509 → Option Tm) {s s' : σ} {claims : CertChainClaims}
    (h : generateCertChainClaims x509 ocsp client now chain s = (.ok claims, s'))
    (hvalid : claims.status = .VALID) :
    ∃ time s₁, now s = (.ok time, s₁) ∧
      (WithinValidity x509 notBefore chain time claims ↔ Started notBefore chain time) := by
  obtain ⟨least, time, path, s₁, hexpiry, htime, _, _, hunexpired⟩ := generateCertChainClaims_ok h
  have hunexpired := hunexpired.mp hvalid
  have hle := calculateMinExpirationTime_le hexpiry
  obtain ⟨hdate, first, hfirst, tm, htm, hattained⟩ := calculateMinExpirationTime_attained hexpiry
  refine ⟨time, s₁, htime, fun hwithin => hwithin.started, fun hstarted => ⟨hstarted, ?_, ?_⟩⟩
  · intro cert hcert
    obtain ⟨tm', htm', hle'⟩ := hle cert hcert
    exact ⟨tm', htm', le_trans hunexpired hle'⟩
  · exact ⟨first, hfirst, tm, htm, hattained ▸ hdate, hattained ▸ hle⟩

def midnight (year : Nat) (h : year ≤ 9999) : Tm :=
  ⟨year, 0, 1, 0, 0, 0, h, by omega, by omega, by omega, by omega, by omega, by omega⟩

/-- Certificates that expire in 2030, in a path that is accepted as it is presented. -/
def patientLib : X509Lib where
  pemReadX509 _ := none
  verifyCert _ target untrusted := some (target :: untrusted)
  notAfter _ := some (midnight 2030 (by decide))
  iso8601 _ := "2030-01-01T00:00:00Z"
  digestVerify _ _ _ _ _ := false
  extensionData _ _ := none
  sequenceAny _ := none
  subjectCommonName _ := none
  serialNumberDec _ := none

def oneCertificate : X509CertChain := ⟨[⟨[1]⟩], .GPU_DRIVER_RIM, some ⟨[⟨[1]⟩]⟩⟩

/-- The client is not asked about the only certificate of a path. -/
def silentClient : OcspClient Unit where
  getOcspResponse _ _ := Prog.fail .undefined

def validClaims : CertChainClaims := { expirationDate := "2030-01-01T00:00:00Z", status := .VALID }

theorem oneCertificate_expiration : calculateMinExpirationTime patientLib oneCertificate =
    .ok (1893456000, "2030-01-01T00:00:00Z") := by
  have htime : timegm (midnight 2030 (by decide)) = 1893456000 := by decide
  simp [calculateMinExpirationTime, minExpirationLoop, oneCertificate, patientLib, htime]

theorem oneCertificate_valid : generateCertChainClaims patientLib default silentClient (pure 0)
    oneCertificate () = (.ok validClaims, ()) := by
  rw [generateCertChainClaims, oneCertificate_expiration]
  rfl

theorem valid_within_sample : ∃ time s₁, (pure 0 : Prog Fault Unit Int) () = (.ok time, s₁) ∧
    (WithinValidity patientLib (fun _ => some (midnight 1970 (by decide))) oneCertificate time
      validClaims ↔
      Started (fun _ => some (midnight 1970 (by decide))) oneCertificate time) :=
  valid_within_iff _ oneCertificate_valid rfl

/-- In 1970 a certificate that is valid from 2000 on is reported valid. -/
theorem not_yet_valid_reported_valid :
    ¬ ∀ (x509 : X509Lib) (notBefore : X509 → Option Tm) (ocsp : OcspLib) (client : OcspClient Unit)
      (chain : X509CertChain) (time : Int) (claims : CertChainClaims),
      generateCertChainClaims x509 ocsp client (pure time) chain () = (.ok claims, ()) →
      claims.status = .VALID → WithinValidity x509 notBefore chain time claims := by
  intro h
  obtain ⟨tm, htm, hle⟩ := (h patientLib (fun _ => some (midnight 2000 (by decide))) default
    silentClient oneCertificate 0 validClaims oneCertificate_valid rfl).started _ List.mem_cons_self
  obtain rfl := Option.some.inj htm
  exact absurd hle (by decide)

end AttestationSdk.CertChain
