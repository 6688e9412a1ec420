import AttestationSdk.Effects
import AttestationSdk.Error

/-! Requests to a service and the client that makes them: `nv_http.h`. -/
namespace AttestationSdk.Http
open Effects

inductive NvHttpMethod where
  | GET | POST | PUT | DELETE
  deriving Repr, DecidableEq

/-- The constructors resolve the CA bundle in the environment, so it has no default here. -/
structure HttpOptions where
  maxRetryCount : Int := 5
  baseBackoffMs : Int := 100
  maxBackoffMs : Int := 30000
  connectionTimeoutMs : Int := 5000
  requestTimeoutMs : Int := 30000
  caBundlePath : String
  caBundlePathTier : String
  caBundlePathError : Error
  deriving Repr, DecidableEq

structure NvRequest where
  url : String
  method : NvHttpMethod
  headers : List (String × String) := []
  payload : String := ""
  deriving Repr, DecidableEq

/-- `NvHttpClient::do_request_as_string`: the return code, the status and the body. -/
structure HttpClient (σ : Type) where
  doRequestAsString : NvRequest → Prog Fault σ (Error × Int × String)

def httpStatusOk : Int := 200
def httpStatusUnauthorized : Int := 401
def httpStatusForbidden : Int := 403

end AttestationSdk.Http
