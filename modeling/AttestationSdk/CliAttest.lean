import AttestationSdk.AttestVerdict
import AttestationSdk.EvidenceJson
import AttestationSdk.FilesystemRimStore
import AttestationSdk.HttpSettings
import AttestationSdk.InstalledComponents

/-! The `attest` command up to the attestation itself: `attest.cpp` and `utils.cpp` of the command
line tool. -/
namespace AttestationSdk.Cli
open AttestationSdk.Attestation AttestationSdk.ChainStatus AttestationSdk.Rim AttestationSdk.Eat
open AttestationSdk.Gpu AttestationSdk.Switch AttestationSdk.Http AttestationSdk.Ocsp
open AttestationSdk.RawProofOcsp AttestationSdk.StatusProofBundle Effects

structure EvidenceCollectionOptions where
  nonce : String
  device : String
  gpuEvidenceSource : String
  switchEvidenceSource : String
  gpuEvidenceFile : String
  switchEvidenceFile : String
  deriving Repr, DecidableEq

structure EvidencePolicyOptions where
  verifyRimSignature : Bool := true
  verifyRimCertChain : Bool := true
  deriving Repr, DecidableEq

structure EvidenceVerificationOptions where
  verifier : String
  relyingPartyPolicy : String
  rimStore : String
  rimUrl : String
  rimPath : String
  ocspUrl : String
  nrasUrl : String
  serviceKey : String
  caBundlePath : String
  ocspProofBundle : String
  ocspVerificationTime : String
  deriving Repr, DecidableEq

def EvidenceVerificationOptions.offlineStatusProofs (options : EvidenceVerificationOptions) : Bool :=
  !options.ocspProofBundle.isEmpty

/-- An option after parsing: how often it was given, by the command line or by its environment
variable, and its value. -/
structure CliOption where
  count : Nat
  value : String
  deriving Repr, DecidableEq

/-- The parsed command and its environment. -/
structure CommandLine where
  getOptionNoThrow : String → Option CliOption
  getenv : String → Option String

def CommandLine.givenOnCommandLine (app : CommandLine) (name envname : String) : Bool :=
  match app.getOptionNoThrow name with
  | none => false
  | some option =>
    if option.count = 0 then false
    else match app.getenv envname with
      | none => true
      | some environment => option.value ≠ environment

/-- `CLI::ValidationError`. -/
structure ValidationError where
  name : String
  message : String
  deriving Repr, DecidableEq

def networkOptions : List (String × String) :=
  [("--ocsp-url", "NVAT_OCSP_BASE_URL"), ("--rim-url", "NVAT_RIM_SERVICE_BASE_URL"),
    ("--nras-url", "NVAT_NRAS_BASE_URL"), ("--service-key", "NV_ATTESTATION_SERVICE_KEY"),
    ("--ca-bundle", "NVAT_CA_BUNDLE")]

def decimalDigits : List Char := "0123456789".toList

/-- `validate_offline_status_options`. -/
def validateOfflineStatusOptions (app : CommandLine) (options : EvidenceVerificationOptions) :
    Except ValidationError Unit :=
  let time := options.ocspVerificationTime
  if time.isEmpty || 18 < time.length || !time.toList.all decimalDigits.contains ||
      time.toList.all (· = '0') then
    .error ⟨"--ocsp-verification-time",
      "--ocsp-proof-bundle needs a positive decimal --ocsp-verification-time"⟩
  else if options.verifier ≠ "local" then
    .error ⟨"--ocsp-proof-bundle", "requires --verifier local"⟩
  else if options.rimStore ≠ "dir" then
    .error ⟨"--ocsp-proof-bundle", "requires --rim-store dir"⟩
  else match networkOptions.find? fun (name, envname) => app.givenOnCommandLine name envname with
    | some (name, _) =>
      .error ⟨name, "cannot be combined with --ocsp-proof-bundle, which contacts no service"⟩
    | none => .ok ()

/-- What the command reads of its machine without asking a service. -/
structure Machine (σ : Type) where
  initSdk : Error
  /-- The bytes of a file that can be opened and read. -/
  readBytes : String → Option Bytes
  /-- The text of a relying party's policy. -/
  readText : String → Option String
  regoClaimsEvaluator : String → ClaimsEvaluator σ
  gpuEvidenceSourceFromJsonFile : String → Except Error (EvidenceSource σ GpuEvidence)
  switchEvidenceSourceFromJsonFile : String → Except Error (EvidenceSource σ SwitchEvidence)
  rimFiles : FileSystem σ
  readDoc : String → Option Xml
  ocspLib : OcspLib

/-- The environment of the network components, and their constructors. -/
structure Network (σ : Type) where
  caBundle : CaBundleHost
  setenv : String → String → Prog Fault σ Unit
  factories : Factories σ

/-- What comes back through the C API: exceptions are caught there. -/
def nvatRc {α : Type} : Except Fault α → Except Fault α
  | .error .exception => .error (.code .InternalError)
  | r => r

/-- `read_status_proof_bundle`: one byte more than the limit is asked for. -/
def readStatusProofBundle (file : Option Bytes) : Except Error Bytes :=
  match file with
  | none => .error .BadArgument
  | some content =>
    let read := content.take (maxBundleBytes + 1)
    if read = [] ∨ maxBundleBytes < read.length then .error .BadArgument else .ok read

def int64Min : Int := -9223372036854775808
def int64Max : Int := 9223372036854775807

/-- Signed arithmetic on 64 bits; an overflow is undefined. -/
def int64 (n : Int) : Except Fault Int :=
  if int64Min ≤ n ∧ n ≤ int64Max then .ok n else .error .undefined

/-- The loop of `parse_verification_time`. -/
def parseDigits : List Char → Int → Except Fault Int
  | [], parsed => .ok parsed
  | digit :: rest, parsed => do
    let shifted ← int64 (parsed * 10)
    let parsed ← int64 (shifted + ((digit.toNat : Int) - '0'.toNat))
    parseDigits rest parsed

def parseVerificationTime (value : String) : Except Fault Int :=
  if value.isEmpty || 18 < value.length || !value.toList.all decimalDigits.contains then
    .error (.code .BadArgument)
  else do
    let parsed ← parseDigits value.toList 0
    if parsed ≤ 0 then .error (.code .BadArgument) else .ok parsed

/-- `nvat_ocsp_client_create_raw_proofs`. -/
def nvatOcspClientCreateRawProofs (lib : OcspLib) (bundle : Bytes) (verificationTimeUnix : Int) :
    Except Fault RawProofOcspClient :=
  if bundle = [] then .error (.code .BadArgument)
  else if maxBundleBytes < bundle.length then .error (.code .BadArgument)
  else if verificationTimeUnix ≤ 0 ∨ maxVerificationTime < verificationTimeUnix then
    .error (.code .BadArgument)
  else nvatRc (createFromBundle lib bundle verificationTimeUnix)

def hexDigitChars : List Char := "0123456789abcdefABCDEF".toList

/-- The digits that `nvat_nonce_from_hex` decodes. -/
def hexNoPrefix (hexString : String) : String :=
  if hexString.startsWith "0x" || hexString.startsWith "0X" then
    String.ofList (hexString.toList.drop 2)
  else hexString

/-- `nvat_nonce_from_hex`. -/
def nvatNonceFromHex (hexString : String) : Except Error Bytes :=
  let hex := hexNoPrefix hexString
  if hex.isEmpty || hex.length % 2 ≠ 0 then .error .BadArgument
  else if !hex.toList.all hexDigitChars.contains then .error .BadArgument
  else match Evidence.readHex hex with
    -- An exception of the decoder is caught at the C API.
    | .error _ => .error .InternalError
    | .ok bytes => if bytes.length < minValidNonceLen then .error .BadArgument else .ok bytes

section Stages
variable {σ : Type} (machine : Machine σ) (network : Network σ)
  (collection : EvidenceCollectionOptions) (policy : EvidencePolicyOptions)
  (options : EvidenceVerificationOptions)

/-- A call that returns an error ends the command with it. -/
def check {α : Type} : Except Error α → Prog Fault σ α
  | .ok a => pure a
  | .error e => Prog.fail (.code e)

def checkRc (rc : Error) : Prog Fault σ Unit :=
  if rc = .Ok then pure () else Prog.fail (.code rc)

/-- Options for the network components, which only a command with services has. -/
def makeHttpOptions : Prog Fault σ (Option HttpOptions) :=
  if options.offlineStatusProofs then pure none
  else do
    let httpOptions :=
      (newHttpOptions network.caBundle).setCaBundlePath network.caBundle options.caBundlePath
    checkRc httpOptions.caBundlePathError
    return some httpOptions

/-- `nvat_attestation_ctx_create` and the options made before. -/
def newContext (httpOptions : Option HttpOptions) : AttestationContext σ :=
  let ctx : AttestationContext σ := { defaultHttpOptions := newHttpOptions network.caBundle }
  match httpOptions with
  | none => ctx
  | some httpOptions => setDefaultHttpOptions httpOptions ctx

def configurePolicy (ctx : AttestationContext σ) : AttestationContext σ :=
  setEvidencePolicy {
    verifyRimSignature := policy.verifyRimSignature
    verifyRimCertChain := policy.verifyRimCertChain } ctx

def configureDevice (ctx : AttestationContext σ) : Prog Fault σ (AttestationContext σ) :=
  if collection.device = "gpu" then
    let ctx := setDeviceType nvatDeviceGpu ctx
    if collection.gpuEvidenceSource = "corelib" then Prog.fail (.code .BadArgument)
    else if collection.gpuEvidenceSource = "file" then do
      let source ← check (machine.gpuEvidenceSourceFromJsonFile collection.gpuEvidenceFile)
      return setGpuEvidenceSourceJsonFile (.ok source) ctx
    else return ctx
  else if collection.device = "nvswitch" then
    let ctx := setDeviceType nvatDeviceNvswitch ctx
    if collection.switchEvidenceSource = "file" then do
      let source ← check (machine.switchEvidenceSourceFromJsonFile collection.switchEvidenceFile)
      return setSwitchEvidenceSourceJsonFile (.ok source) ctx
    else return ctx
  else return ctx

def configureServiceKey (ctx : AttestationContext σ) : AttestationContext σ :=
  if !options.offlineStatusProofs && !options.serviceKey.isEmpty then
    setServiceKey options.serviceKey ctx
  else ctx

/-- `httpOptions` is given wherever the command is not offline. -/
def configureRimStore (httpOptions : Option HttpOptions) (ctx : AttestationContext σ) :
    Prog Fault σ (AttestationContext σ) :=
  if options.verifier = "local" then
    if options.rimStore = "remote" && !options.offlineStatusProofs then
      match httpOptions with
      | none => Prog.fail .undefined
      | some httpOptions => do
        let rimStore ← network.factories.remoteRimStore options.rimUrl options.serviceKey httpOptions
        return setDefaultRimStore (some rimStore) ctx
    else if options.rimStore = "dir" then
      return setDefaultRimStore
        (some (filesystemRimStore machine.rimFiles machine.readDoc options.rimPath)) ctx
    else Prog.fail (.code .BadArgument)
  else return ctx

def configureOcspClient (httpOptions : Option HttpOptions) (ctx : AttestationContext σ) :
    Prog Fault σ (AttestationContext σ) :=
  if options.offlineStatusProofs then do
    let bundle ← check (readStatusProofBundle (machine.readBytes options.ocspProofBundle))
    let verificationTime ← Prog.lift (parseVerificationTime options.ocspVerificationTime)
    let client ← Prog.lift
      (nvatOcspClientCreateRawProofs machine.ocspLib bundle verificationTime)
    return setDefaultOcspClient (some (rawProofClient machine.ocspLib client)) ctx
  else if !options.ocspUrl.isEmpty then
    match httpOptions with
    | none => Prog.fail .undefined
    | some httpOptions => do
      let client ← network.factories.httpOcspClient options.ocspUrl options.serviceKey httpOptions
      return setDefaultOcspClient (some client) ctx
  else return ctx

def configureNras : Prog Fault σ Unit :=
  if !options.offlineStatusProofs && !options.nrasUrl.isEmpty then
    network.setenv "NVAT_NRAS_BASE_URL" options.nrasUrl
  else pure ()

/-- `set_relying_party_policy`. -/
def setRelyingPartyPolicy (ctx : AttestationContext σ) : Prog Fault σ (AttestationContext σ) :=
  if options.relyingPartyPolicy.isEmpty then return ctx
  else match machine.readText options.relyingPartyPolicy with
    | none => Prog.fail (.code .BadArgument)
    | some regoStr => return setClaimsEvaluator (some (machine.regoClaimsEvaluator regoStr)) ctx

def configureVerifier (ctx : AttestationContext σ) : Prog Fault σ (AttestationContext σ) :=
  if options.verifier = "local" then return setVerifierType .Local ctx
  else if options.verifier = "remote" then return setVerifierType .Remote ctx
  else Prog.fail (.code .BadArgument)

/-- No nonce is the empty one, which the attestation replaces. -/
def chosenNonce : Prog Fault σ Bytes :=
  if collection.nonce.isEmpty then pure [] else check (nvatNonceFromHex collection.nonce)

/-- `attest` up to its call of `nvat_attest_device`, with the arguments of that call. -/
def prepareAttestation : Prog Fault σ (AttestationContext σ × Bytes) := do
  checkRc machine.initSdk
  if options.offlineStatusProofs ∧ (options.verifier ≠ "local" ∨ options.rimStore ≠ "dir") then
    Prog.fail (.code .BadArgument)
  else do
    let httpOptions ← makeHttpOptions network options
    let ctx := configurePolicy policy (newContext network httpOptions)
    let ctx ← configureDevice machine collection ctx
    let ctx := configureServiceKey options ctx
    let ctx ← configureRimStore machine network options httpOptions ctx
    let ctx ← configureOcspClient machine network options httpOptions ctx
    configureNras network options
    let ctx ← setRelyingPartyPolicy machine options ctx
    let ctx ← configureVerifier options ctx
    let nonce ← chosenNonce collection
    return (ctx, nonce)

structure AttestOutput where
  resultCode : Error
  claims : String := ""
  detachedEat : String := ""
  deriving Repr, DecidableEq

/-- The end of `attest`, after an attestation that came to a verdict. -/
def finalOutput (env : Platform σ) (attestation : Attestation) : Except Fault AttestOutput :=
  match serializeToJson env (collectionToJson attestation.claims) with
  | .error (.code e) => .ok ⟨e, "", ""⟩
  | .error f => .error f
  | .ok claims => .ok ⟨attestation.rc, claims, attestation.detachedEat.getD ""⟩

/-- `attest`. -/
def attest (env : Platform σ) : Prog Fault σ AttestOutput := fun s =>
  match prepareAttestation machine network collection policy options s with
  | (.error (.code e), s) => (.ok ⟨e, "", ""⟩, s)
  | (.error f, s) => (.error f, s)
  | (.ok (ctx, nonce), s) =>
    let (result, (_, s)) := attestDevice env network.factories nonce true (ctx, s)
    match nvatRc result with
    | .error (.code e) => (.ok ⟨e, "", ""⟩, s)
    | .error f => (.error f, s)
    | .ok attestation => (finalOutput env attestation, s)

end Stages

end AttestationSdk.Cli
