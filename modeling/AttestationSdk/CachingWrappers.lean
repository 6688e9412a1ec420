import AttestationSdk.RimDocument
import AttestationSdk.ChainStatus
import AttestationSdk.NvCacheInvariant

/-! The caching wrappers over a RIM store and over an OCSP client. -/
namespace AttestationSdk.Caching
open AttestationSdk.Ocsp AttestationSdk.ChainStatus AttestationSdk.Rim AttestationSdk.Cache
open Effects CalendarTime
variable {σ κ ν : Type} [DecidableEq κ]

/-- A cache call; outside its contract the behaviour is undefined. -/
def cacheCall {α : Type} (f : NvCache κ ν → Except CacheFault (α × NvCache κ ν)) :
    Prog Fault (NvCache κ ν × σ) α :=
  Prog.onFirst fun c => match f c with
    | .ok r => .ok r
    | .error _ => .error .undefined

def cacheGet (now : Int) (key : κ) : Prog Fault (NvCache κ ν × σ) (Error × Option ν) :=
  cacheCall fun c => (get now c key).map fun (rc, out, c) => ((rc, out), c)

def cachePut (opts : NvCacheOptions) (clock : Nat → Int) (key : κ) (value : ν)
    (sizeBytes : Nat) : Prog Fault (NvCache κ ν × σ) Error :=
  cacheCall fun c => put opts clock c key value sizeBytes

/-- `InMemoryCachingRimStoreImpl::get_rim`; `clock` gives the times the call reads. -/
def getRim (opts : NvCacheOptions) (readDoc : String → Option Xml) (inner : RimStore σ)
    (clock : Nat → Int) (rimId : String) (out : RimDocument) :
    Prog Fault (NvCache String String × σ) (Error × RimDocument) := do
  let (rc, cached) ← cacheGet (clock 0) rimId
  if rc = .CacheObjectNotFound then do
    let (rc, out) ← Prog.onSecond (inner.getRim rimId out)
    if rc ≠ .Ok then return (rc, out) else do
      let rc ← cachePut opts (fun i => clock (i + 1)) rimId out.rimData out.rimData.length
      return (rc, out)
  else match cached with
    | none => Prog.fail .undefined
    | some rimData => return createFromRimData readDoc rimData out

def nvOcspResponseSizeBytes : Nat := 20

/-- `NvHttpOcspCacheClient::get_cache_key`. -/
def getCacheKey (lib : OcspLib) (q : OcspQuery) : Option Bytes :=
  match lib.certToId q.subject q.issuer with
  | none => none
  | some id => if lib.i2dCertId id = [] then none else some (lib.i2dCertId id)

/-- `NvHttpOcspCacheClient::get_ocsp_response`. -/
def getOcspResponse (opts : NvCacheOptions) (lib : OcspLib) (inner : OcspClient σ)
    (clock : Nat → Int) (q : OcspQuery) (out : NvOcspResponse) :
    Prog Fault (NvCache Bytes NvOcspResponse × σ) (Error × NvOcspResponse) :=
  match getCacheKey lib q with
  | none => return (.InternalError, out)
  | some key => do
    let (rc, cached) ← cacheGet (clock 0) key
    if rc ≠ .Ok ∧ rc ≠ .CacheObjectNotFound then return (rc, out) else
      match rc, cached with
      | .CacheObjectNotFound, _ => refresh key 1
      | _, none => Prog.fail .undefined
      | _, some response =>
        if response.nextupd < clock 1 then refresh key 2 else return (.Ok, response)
where
  /-- Ask the inner client and store its answer; `i` times have been read. -/
  refresh (key : Bytes) (i : Nat) :
      Prog Fault (NvCache Bytes NvOcspResponse × σ) (Error × NvOcspResponse) := do
    let (rc, out) ← Prog.onSecond (inner.getOcspResponse q out)
    if rc ≠ .Ok then return (rc, out) else do
      let rc ← cachePut opts (fun j => clock (i + j)) key out
        (nvOcspResponseSizeBytes + key.length)
      return (rc, out)

end AttestationSdk.Caching
