import AttestationSdk.Http
import Mathlib.Data.List.TakeWhile
import Mathlib.Logic.Function.Basic

/-! The transfer that `NvHttpClient::do_request_as_string` sets up: its options and headers. -/
namespace AttestationSdk.Http
open Effects

/-- `NvHttpClient`. -/
structure NvHttpClient where
  options : HttpOptions
  serviceKey : String
  deriving Repr, DecidableEq

/-- `c_str`, as a function that reads up to the terminating zero sees it. -/
def cStr (s : String) : String := String.ofList (s.toList.takeWhile (· ≠ Char.ofNat 0))

/-- libcurl's string lists in its memory: a null head is the empty list, appending puts a line at
the end and keeps the head of a list that has one. -/
structure SlistLib (M P : Type) where
  append : M → Option P → String → M × P
  lines : M → Option P → List String
  lines_null : ∀ m, lines m none = []
  lines_append : ∀ m list line,
    lines (append m list line).1 (some (append m list line).2) = lines m list ++ [line]
  append_head : ∀ m p line, (append m (some p) line).2 = p

/-- The options of a curl handle; a header list is held by its head. -/
structure CurlHandle (P : Type) where
  connectTimeoutMs : Int
  timeoutMs : Int
  caInfo : String
  url : String
  customRequest : String
  httpHeader : Option P := none
  postFields : Option String := none
  deriving Repr, DecidableEq

def methodStr : NvHttpMethod → String
  | .GET => "GET"
  | .POST => "POST"
  | .PUT => "PUT"
  | .DELETE => "DELETE"

def headerLine (entry : String × String) : String := cStr (entry.1 ++ ": " ++ entry.2)

def authorizationHeader (serviceKey : String) : String := "Authorization: Bearer " ++ serviceKey

section Setup
variable {M P : Type} (lib : SlistLib M P)

/-- One more line; the variable holds the head that `curl_slist_append` returns. -/
def appendLine (acc : M × Option P) (line : String) : M × Option P :=
  let (m, head) := lib.append acc.1 acc.2 line
  (m, some head)

/-- The options that do not depend on the header map and the payload. -/
def newHandle (client : NvHttpClient) (request : NvRequest) : CurlHandle P where
  connectTimeoutMs := client.options.connectionTimeoutMs
  timeoutMs := client.options.requestTimeoutMs
  caInfo := client.options.caBundlePath
  url := request.url
  customRequest := methodStr request.method

def setPayload (request : NvRequest) (handle : CurlHandle P) : CurlHandle P :=
  if request.payload.isEmpty then handle
  else { handle with postFields := some request.payload }

@[simp] theorem setPayload_httpHeader (request : NvRequest) (handle : CurlHandle P) :
    (setPayload request handle).httpHeader = handle.httpHeader := by
  rw [setPayload]
  split
  · rfl
  · rfl

/-- The handle before the first attempt, with libcurl's memory. The list is handed to the handle
before the service key is appended to it. -/
def prepare (client : NvHttpClient) (request : NvRequest) (m : M) : M × CurlHandle P :=
  let list := (request.headers.map headerLine).foldl (appendLine lib) (m, none)
  let handle := newHandle client request
  let handle := if request.headers.isEmpty then handle else { handle with httpHeader := list.2 }
  let list := if client.serviceKey.isEmpty then list
    else appendLine lib list (cStr (authorizationHeader client.serviceKey))
  (list.1, setPayload request handle)

/-- The header lines that a transfer over the handle uses. -/
def headersInForce (r : M × CurlHandle P) : List String := lib.lines r.1 r.2.httpHeader

variable {lib}

theorem lines_appendLine (acc : M × Option P) (line : String) :
    lib.lines (appendLine lib acc line).1 (appendLine lib acc line).2 =
      lib.lines acc.1 acc.2 ++ [line] :=
  lib.lines_append acc.1 acc.2 line

theorem lines_foldl (lines : List String) (acc : M × Option P) :
    lib.lines (lines.foldl (appendLine lib) acc).1 (lines.foldl (appendLine lib) acc).2 =
      lib.lines acc.1 acc.2 ++ lines := by
  induction lines generalizing acc with
  | nil => exact (List.append_nil _).symm
  | cons line rest ih =>
    rw [List.foldl_cons, ih, lines_appendLine, List.append_assoc, List.singleton_append]

/-- The variable points to the same head after another line, once there is one. -/
theorem appendLine_head (acc : M × Option P) (line : String) (h : acc.2.isSome) :
    (appendLine lib acc line).2 = acc.2 := by
  cases Option.isSome_iff_exists.mp h with
  | intro p hp =>
    rw [appendLine, hp]
    exact congrArg some (lib.append_head acc.1 p line)

theorem foldl_isSome (lines : List String) (acc : M × Option P) (h : lines ≠ []) :
    (lines.foldl (appendLine lib) acc).2.isSome := by
  induction lines generalizing acc with
  | nil => exact absurd rfl h
  | cons line rest ih =>
    rw [List.foldl_cons]
    cases rest with
    | nil => rfl
    | cons next later => exact ih _ (List.cons_ne_nil next later)

/-- The option and the variable name the same list only where the request has headers. -/
theorem headersInForce_prepare (client : NvHttpClient) (request : NvRequest) (m : M) :
    headersInForce lib (prepare lib client request m) =
      if request.headers = [] then []
      else request.headers.map headerLine ++
        (if client.serviceKey = "" then []
          else [cStr (authorizationHeader client.serviceKey)]) := by
  rw [headersInForce, prepare, setPayload_httpHeader]
  by_cases hheaders : request.headers = []
  · simp only [hheaders, List.isEmpty_nil, if_true]
    exact lib.lines_null _
  · have hnonempty : request.headers.isEmpty = false := by
      simpa [List.isEmpty_iff] using hheaders
    have hlines : request.headers.map headerLine ≠ [] := by simpa using hheaders
    have hsome : ((request.headers.map headerLine).foldl (appendLine lib) (m, none)).2.isSome :=
      foldl_isSome _ _ hlines
    have hread := @lines_foldl M P lib (request.headers.map headerLine) (m, none)
    rw [lib.lines_null, List.nil_append] at hread
    simp only [hheaders, hnonempty, Bool.false_eq_true, if_false]
    by_cases hkey : client.serviceKey = ""
    · have hunkeyed : client.serviceKey.isEmpty = true := by
        rw [hkey]
        rfl
      rw [if_pos hunkeyed, if_pos hkey, List.append_nil]
      exact hread
    · have hkeyed : client.serviceKey.isEmpty = false := by
        simpa [String.isEmpty_iff] using hkey
      simp only [hkey, hkeyed, Bool.false_eq_true, if_false]
      rw [← appendLine_head _ _ hsome, lines_appendLine, hread]

theorem cStr_eq_iff (s : String) : cStr s = s ↔ Char.ofNat 0 ∉ s.toList := by
  rw [cStr, ← String.toList_inj, String.toList_ofList, List.takeWhile_eq_self_iff]
  constructor
  · intro h hmem
    simpa using h _ hmem
  · intro h c hc
    simpa using fun heq : c = Char.ofNat 0 => h (heq ▸ hc)

theorem cStr_authorization_iff (key : String) :
    cStr (authorizationHeader key) = authorizationHeader key ↔ Char.ofNat 0 ∉ key.toList := by
  have hprefix : Char.ofNat 0 ∉ "Authorization: Bearer ".toList := by simp
  have hsplit : (authorizationHeader key).toList = "Authorization: Bearer ".toList ++ key.toList :=
    String.toList_append
  rw [cStr_eq_iff, hsplit, List.mem_append]
  constructor
  · intro h hmem
    exact h (.inr hmem)
  · intro h hmem
    cases hmem with
    | inl hmem => exact hprefix hmem
    | inr hmem => exact h hmem

/-- The client's line is sent, beside one line for each header of the request, exactly where the
request has headers and the key has no zero byte. -/
theorem service_key_sent_iff (lib : SlistLib M P) (client : NvHttpClient) (request : NvRequest)
    (m : M) (hkey : client.serviceKey ≠ "") :
    (headersInForce lib (prepare lib client request m)).Perm
        (authorizationHeader client.serviceKey :: request.headers.map headerLine) ↔
      request.headers ≠ [] ∧ Char.ofNat 0 ∉ client.serviceKey.toList := by
  rw [headersInForce_prepare, if_neg hkey, ← cStr_authorization_iff]
  by_cases hheaders : request.headers = []
  · rw [if_pos hheaders]
    exact iff_of_false (fun h => List.cons_ne_nil _ _ h.symm.eq_nil) fun h => h.1 hheaders
  · rw [if_neg hheaders, and_iff_right hheaders]
    constructor
    · intro h
      have hswap := List.perm_append_comm.trans h
      exact List.singleton_perm_singleton.mp ((List.perm_append_right_iff _).mp hswap)
    · intro h
      rw [h]
      exact List.perm_append_comm

end Setup

/-- Lists named by the numbers below a counter. -/
def memoryLib : SlistLib (Nat × (Nat → List String)) Nat where
  append m list line := match list with
    | none => ((m.1 + 1, Function.update m.2 m.1 [line]), m.1)
    | some p => ((m.1, Function.update m.2 p (m.2 p ++ [line])), p)
  lines m list := match list with
    | none => []
    | some p => m.2 p
  lines_null _ := rfl
  lines_append m list line := match list with
    | none => Function.update_self m.1 [line] m.2
    | some p => Function.update_self p (m.2 p ++ [line]) m.2
  append_head _ _ _ := rfl

def sampleClient : NvHttpClient where
  options := {
    caBundlePath := "/etc/ssl/certs/ca-certificates.crt"
    caBundlePathTier := "system CA bundle probe"
    caBundlePathError := .Ok }
  serviceKey := "key"

/-- The request of a remote verifier. -/
def sampleRequest : NvRequest where
  url := "https://nras"
  method := .POST
  headers := [("Content-Type", "application/json")]
  payload := "evidence"

theorem remote_request_keyed :
    (headersInForce memoryLib (prepare memoryLib sampleClient sampleRequest (0, fun _ => []))).Perm
      (authorizationHeader "key" :: sampleRequest.headers.map headerLine) :=
  (service_key_sent_iff memoryLib sampleClient sampleRequest (0, fun _ => []) (by decide)).mpr
    ⟨List.cons_ne_nil _ _, by decide +kernel⟩

/-- A request without headers, such as those for a key set or a RIM, goes out without the key. -/
theorem headerless_request_unkeyed :
    ¬ ∀ (client : NvHttpClient) (request : NvRequest) (m : Nat × (Nat → List String)),
      client.serviceKey ≠ "" →
      (headersInForce memoryLib (prepare memoryLib client request m)).Perm
        (authorizationHeader client.serviceKey :: request.headers.map headerLine) := by
  intro hclaim
  have hsent := hclaim sampleClient { url := "https://nras/jwks", method := .GET } (0, fun _ => [])
    (by decide)
  exact List.cons_ne_nil _ _ hsent.symm.eq_nil

end AttestationSdk.Http
