import AttestationSdk.Http

/-! How HTTP options come about: the constructors, the setters and the CA bundle of `nv_http.h`. -/
namespace AttestationSdk.Http

/-- What resolving a CA bundle reads of its process and machine. -/
structure CaBundleHost where
  getEnvOrDefault : String → String → String
  readsRegularFile : String → Bool
  compiledDefaultCaBundlePath : String

def caBundleProbePaths : List String :=
  ["/etc/ssl/certs/ca-certificates.crt", "/etc/pki/tls/certs/ca-bundle.crt",
    "/etc/ssl/ca-bundle.pem", "/etc/ca-certificates/extracted/tls-ca-bundle.pem",
    "/etc/ssl/cert.pem"]

def environmentTiers : List String := ["NVAT_CA_BUNDLE", "CURL_CA_BUNDLE", "SSL_CERT_FILE"]

/-- The result of resolving a CA bundle: `out_path`, `out_tier` and the code. -/
structure CaBundle where
  path : String
  tier : String
  error : Error
  deriving Repr, DecidableEq

namespace CaBundleHost
variable (host : CaBundleHost)

def isReadableRegularFile (path : String) : Bool := !path.isEmpty && host.readsRegularFile path

def useAuthoritativeCaBundlePath (path tier : String) : CaBundle where
  path := path
  tier := tier
  error := if host.isReadableRegularFile path then .Ok else .InternalError

/-- The first tier of the environment that names a path decides. -/
def fromEnvironment : List String → Option CaBundle
  | [] => none
  | environmentTier :: rest =>
    let path := host.getEnvOrDefault environmentTier ""
    if path.isEmpty then fromEnvironment rest
    else some (host.useAuthoritativeCaBundlePath path environmentTier)

/-- `resolve_ca_bundle_path`. -/
def resolveCaBundlePath (explicitPath : String) : CaBundle :=
  if !explicitPath.isEmpty then host.useAuthoritativeCaBundlePath explicitPath "--ca-bundle"
  else match host.fromEnvironment environmentTiers with
    | some bundle => bundle
    | none =>
      if host.isReadableRegularFile host.compiledDefaultCaBundlePath then
        ⟨host.compiledDefaultCaBundlePath, "libcurl compiled default", .Ok⟩
      else match caBundleProbePaths.find? host.isReadableRegularFile with
        | some probePath => ⟨probePath, "system CA bundle probe", .Ok⟩
        | none =>
          ⟨"", "no readable CA bundle; provide one with --ca-bundle or NVAT_CA_BUNDLE",
            .InternalError⟩

end CaBundleHost

/-- `HttpOptions()`. -/
def newHttpOptions (host : CaBundleHost) : HttpOptions :=
  let bundle := host.resolveCaBundlePath ""
  { caBundlePath := bundle.path, caBundlePathTier := bundle.tier, caBundlePathError := bundle.error }

/-- `HttpOptions(retry, base_backoff_ms, max_backoff_ms, connection_timeout_ms, request_timeout_ms)`. -/
def newHttpOptionsWith (host : CaBundleHost)
    (retry baseBackoffMs maxBackoffMs connectionTimeoutMs requestTimeoutMs : Int) : HttpOptions :=
  { newHttpOptions host with
    maxRetryCount := max 0 retry
    baseBackoffMs := max 0 baseBackoffMs
    maxBackoffMs := max 0 maxBackoffMs
    connectionTimeoutMs := max 0 connectionTimeoutMs
    requestTimeoutMs := max 0 requestTimeoutMs }

namespace HttpOptions
variable (options : HttpOptions)

def setMaxRetryCount (retry : Int) : HttpOptions := { options with maxRetryCount := max 0 retry }

def setBaseBackoffMs (retryBackoffMs : Int) : HttpOptions :=
  { options with baseBackoffMs := max 0 retryBackoffMs }

def setMaxBackoffMs (maxBackoffMs : Int) : HttpOptions :=
  { options with maxBackoffMs := max 0 maxBackoffMs }

def setConnectionTimeoutMs (connectionTimeoutMs : Int) : HttpOptions :=
  { options with connectionTimeoutMs := max 0 connectionTimeoutMs }

def setRequestTimeoutMs (requestTimeoutMs : Int) : HttpOptions :=
  { options with requestTimeoutMs := max 0 requestTimeoutMs }

def setCaBundlePath (host : CaBundleHost) (path : String) : HttpOptions :=
  let bundle := host.resolveCaBundlePath path
  { options with
    caBundlePath := bundle.path
    caBundlePathTier := bundle.tier
    caBundlePathError := bundle.error }

/-- The options that the constructors and setters lead to, on whatever machines. -/
inductive Reachable : HttpOptions → Prop
  | default (host : CaBundleHost) : Reachable (newHttpOptions host)
  | explicit (host : CaBundleHost)
      (retry baseBackoffMs maxBackoffMs connectionTimeoutMs requestTimeoutMs : Int) :
      Reachable (newHttpOptionsWith host retry baseBackoffMs maxBackoffMs connectionTimeoutMs
        requestTimeoutMs)
  | maxRetryCount {options : HttpOptions} (retry : Int) :
      Reachable options → Reachable (options.setMaxRetryCount retry)
  | baseBackoffMs {options : HttpOptions} (retryBackoffMs : Int) :
      Reachable options → Reachable (options.setBaseBackoffMs retryBackoffMs)
  | maxBackoffMs {options : HttpOptions} (maxBackoffMs : Int) :
      Reachable options → Reachable (options.setMaxBackoffMs maxBackoffMs)
  | connectionTimeoutMs {options : HttpOptions} (connectionTimeoutMs : Int) :
      Reachable options → Reachable (options.setConnectionTimeoutMs connectionTimeoutMs)
  | requestTimeoutMs {options : HttpOptions} (requestTimeoutMs : Int) :
      Reachable options → Reachable (options.setRequestTimeoutMs requestTimeoutMs)
  | caBundlePath {options : HttpOptions} (host : CaBundleHost) (path : String) :
      Reachable options → Reachable (options.setCaBundlePath host path)

/-- No limit is negative. -/
structure Bounded (options : HttpOptions) : Prop where
  maxRetryCount : 0 ≤ options.maxRetryCount
  baseBackoffMs : 0 ≤ options.baseBackoffMs
  maxBackoffMs : 0 ≤ options.maxBackoffMs
  connectionTimeoutMs : 0 ≤ options.connectionTimeoutMs
  requestTimeoutMs : 0 ≤ options.requestTimeoutMs

theorem bounded_default (host : CaBundleHost) : (newHttpOptions host).Bounded where
  maxRetryCount := show (0 : Int) ≤ 5 by decide
  baseBackoffMs := show (0 : Int) ≤ 100 by decide
  maxBackoffMs := show (0 : Int) ≤ 30000 by decide
  connectionTimeoutMs := show (0 : Int) ≤ 5000 by decide
  requestTimeoutMs := show (0 : Int) ≤ 30000 by decide

variable {options}

/-- Every constructor and setter clamps what it is given. -/
theorem Reachable.bounded (h : options.Reachable) : options.Bounded := by
  induction h with
  | default host => exact bounded_default host
  | explicit host retry base most connection request =>
    exact ⟨Int.le_max_left 0 retry, Int.le_max_left 0 base, Int.le_max_left 0 most,
      Int.le_max_left 0 connection, Int.le_max_left 0 request⟩
  | maxRetryCount retry _ ih => exact { ih with maxRetryCount := Int.le_max_left 0 retry }
  | baseBackoffMs ms _ ih => exact { ih with baseBackoffMs := Int.le_max_left 0 ms }
  | maxBackoffMs ms _ ih => exact { ih with maxBackoffMs := Int.le_max_left 0 ms }
  | connectionTimeoutMs ms _ ih => exact { ih with connectionTimeoutMs := Int.le_max_left 0 ms }
  | requestTimeoutMs ms _ ih => exact { ih with requestTimeoutMs := Int.le_max_left 0 ms }
  | caBundlePath host path _ ih => exact { ih with }

end HttpOptions

end AttestationSdk.Http
