import AttestationSdk.ReleaseAuthority
import AttestationSdk.ExceptRules

/-! Release manifests: `manifest.py`, with the tool evidence of `runtime.py` and `apple.py`. -/
namespace AttestationSdk.ReleaseSet
open PyValue Transaction ExceptRules

/-- What `validate_build_tools` raises. -/
inductive ManifestError
  | manifest (targetId reason : String)
  | python (e : PythonError)

def checkManifest (cond : Bool) (targetId reason : String) : Except ManifestError Unit :=
  if cond then .ok () else .error (.manifest targetId reason)

/-- `BUILD_TOOL_KEYS`. -/
def buildToolKeys : List String := ["compiler", "cmake", "rustc", "cargo", "tar", "xz", "python"]

def Target.onLinux (target : Target) : Bool := (target.get? "host_os").any (·.equals (.str "Linux"))

def Target.evidenceKey (target : Target) : String :=
  if target.onLinux then "container_runtime" else "apple_toolchain"

/-- `isinstance(value, dict) and tuple(value) == keys`. -/
def hasFields (keys : List String) : Option Value → Bool
  | some (.dict members) => decide (members.map Prod.fst = keys)
  | _ => false

/-- A member that is a nonempty text. -/
def hasText (section_ : Value) (key : String) : Bool := nonEmptyText (section_.get? key)

def textAt (section_ : Value) (key : String) : String :=
  match section_.get? key with
  | some (.str s) => s
  | _ => ""

/-- `runtime._target_architecture`. -/
def targetArchitecture (target : Target) : Except ManifestError String :=
  match target.get? "container_platform", target.get? "expected_arch" with
  | some platform, some arch =>
    if !(hashable platform && hashable arch) then .error (.python .TypeError)
    else if platform.equals (.str "linux/amd64") && arch.equals (.str "EM_X86_64") then .ok "amd64"
    else if platform.equals (.str "linux/arm64") && arch.equals (.str "EM_AARCH64") then .ok "arm64"
    else .error (.manifest target.id "container platform and architecture disagree")
  | _, _ => .error (.python .KeyError)

/-- `runtime.validate_evidence`. -/
def validateRuntimeEvidence (target : Target) (value : Value) : Except ManifestError Unit := do
  checkManifest (hasFields ["client", "engine"] (some value)) target.id
    "container runtime evidence has invalid fields"
  checkManifest (hasFields ["name", "version"] (value.get? "client")) target.id
    "container runtime client evidence has invalid fields"
  checkManifest (hasFields ["name", "version", "os", "architecture"] (value.get? "engine")) target.id
    "container runtime engine evidence has invalid fields"
  let client := (value.get? "client").getD .none
  let engine := (value.get? "engine").getD .none
  checkManifest (["name", "version"].all (hasText client) &&
    ["name", "version", "os", "architecture"].all (hasText engine)) target.id
    "container runtime evidence must be normalized"
  checkManifest ((textAt client "name", textAt engine "name") ∈
    [("Podman Engine", "Podman Engine"), ("Docker Engine", "Docker Engine")]) target.id
    "container runtime evidence has invalid product identity"
  checkManifest (isDottedVersion (textAt client "version") &&
    isDottedVersion (textAt engine "version")) target.id "malformed version"
  checkManifest (textAt engine "os" = "linux") target.id "container runtime engine OS must be linux"
  checkManifest (textAt engine "architecture" ∈ ["amd64", "arm64"]) target.id
    "container runtime evidence has invalid engine architecture"
  let architecture ← targetArchitecture target
  checkManifest (textAt engine "architecture" = architecture) target.id
    "engine architecture is incompatible with target architecture"

/-- `apple._target_values`: the deployment target of an arm64 target. -/
def appleFloor (target : Target) : Except ManifestError String :=
  match (target.get? "abi_floor").getD (.dict []) with
  | .dict floor =>
    match floor.lookup "macos" with
    | some (.str s) =>
      if !isDottedVersion s then .error (.manifest target.id "authority deployment target is invalid")
      else if (target.get? "expected_arch").any (·.equals (.str "CPU_TYPE_ARM64")) then .ok s
      else .error (.manifest target.id "authority architecture is not CPU_TYPE_ARM64")
    | _ => .error (.manifest target.id "authority deployment target is invalid")
  | _ => .error (.python .AttributeError)

/-- `[A-Za-z0-9.]+`. -/
def isBuildNumber (s : String) : Bool :=
  s ≠ "" && s.toList.all fun c => c.isAlphanum || c = '.'

/-- `apple.validate_evidence`. -/
def validateAppleEvidence (target : Target) (value : Value) : Except ManifestError Unit := do
  checkManifest (hasFields ["apple_clang", "xcode", "sdk", "architecture", "deployment_target"]
    (some value)) target.id "Apple toolchain evidence has invalid fields"
  checkManifest (hasFields ["name", "version"] (value.get? "apple_clang")) target.id
    "Apple toolchain evidence has invalid AppleClang fields"
  checkManifest (hasFields ["version", "build"] (value.get? "xcode")) target.id
    "Apple toolchain evidence has invalid Xcode fields"
  checkManifest (hasFields ["name", "version", "path"] (value.get? "sdk")) target.id
    "Apple toolchain evidence has invalid SDK fields"
  let clang := (value.get? "apple_clang").getD .none
  let xcode := (value.get? "xcode").getD .none
  let sdk := (value.get? "sdk").getD .none
  checkManifest (["name", "version"].all (hasText clang) && ["version", "build"].all (hasText xcode) &&
    ["name", "version", "path"].all (hasText sdk) &&
    ["architecture", "deployment_target"].all (hasText value)) target.id
    "Apple toolchain evidence must be normalized"
  checkManifest (textAt clang "name" = "Apple clang" && textAt sdk "name" = "macosx" &&
    textAt value "architecture" = "arm64" && isDottedVersion (textAt clang "version") &&
    isDottedVersion (textAt xcode "version") && isBuildNumber (textAt xcode "build") &&
    isDottedVersion (textAt sdk "version") && (PurePath.parse (textAt sdk "path")).root ≠ "" &&
    isDottedVersion (textAt value "deployment_target")) target.id
    "Apple toolchain evidence has invalid normalized values"
  let floor ← appleFloor target
  checkManifest (textAt value "deployment_target" = floor) target.id
    "Apple deployment target differs from authority"

/-- `validate_build_tools`. -/
def validateBuildTools (target : Target) (value : Value) : Except ManifestError Unit :=
  match value with
  | .dict tools => do
    checkManifest (tools.map Prod.fst = buildToolKeys ++ [target.evidenceKey]) target.id
      "build_tools has invalid fields"
    buildToolKeys.forM fun key =>
      let tool := tools.lookup key
      checkManifest (hasFields ["name", "version"] tool &&
        ["name", "version"].all (hasText (tool.getD .none))) target.id
        ("invalid build tool evidence: " ++ key)
    let evidence := (tools.lookup target.evidenceKey).getD .none
    if target.onLinux then validateRuntimeEvidence target evidence
    else validateAppleEvidence target evidence
  | _ => .error (.manifest target.id "build_tools must be an object")

/-- `member["path"]`, `member["kind"]` and `member.get("link_target")`. -/
def Member.toValue (member : Member) : Value :=
  .dict [("path", .str member.path), ("kind", .str member.kind.str),
    ("link_target", member.linkTarget.getD .none)]

/-- The archive a manifest is about. -/
structure Artifact where
  name : String
  size : Nat
  sha256 : String

/-- The value `build` returns once the tools have been validated; `none` is a `KeyError`. -/
def manifestValue (release : Table) (target : Target) (version : String) (source : Table)
    (artifact : Artifact) (dependencies buildTools : Value) : Option Value := do
  return .dict [
    ("schema_version", .int 2),
    ("release", .dict [
      ("version", .str version),
      ("sol_revision", ← release.lookup "sol_revision")]),
    ("target", .dict [
      ("id", .str target.id),
      ("binary_format", ← target.get? "binary_format"),
      ("architecture", ← target.get? "expected_arch"),
      ("abi", .dict [
        ("kind", ← target.get? "abi_kind"),
        ("floor", ← target.get? "abi_floor")])]),
    ("source", .dict [
      ("commit", ← source.lookup "commit"),
      ("upstream_base_commit", ← source.lookup "upstream_base_commit"),
      ("sol_series_commits", ← source.lookup "sol_series_commits"),
      ("source_date_epoch", ← source.lookup "source_date_epoch")]),
    ("artifact", .dict [
      ("name", .str artifact.name),
      ("size", .int artifact.size),
      ("sha256", .str artifact.sha256)]),
    ("archive_members", .list (target.members.map Member.toValue)),
    ("dependency_pins", dependencies),
    ("build_inputs", .dict [
      ("build_image", ← target.get? "build_image"),
      ("gate_images", ← target.get? "gate_images"),
      ("ca_snapshot", .dict [
        ("date", ← release.lookup "ca_snapshot_date"),
        ("url", ← release.lookup "ca_bundle_url"),
        ("sha256", ← release.lookup "ca_bundle_sha256")]),
      ("archive", .dict [
        ("tar_format", .str "gnu"),
        ("xz_preset", ← release.lookup "archive_xz_preset"),
        ("xz_threads", ← release.lookup "archive_xz_threads")])]),
    ("build_tools", buildTools)]

/-- `build`. -/
def build (release : Table) (target : Target) (version : String) (source : Table)
    (artifact : Artifact) (dependencies buildTools : Value) : Except ManifestError Value := do
  validateBuildTools target buildTools
  match manifestValue release target version source artifact dependencies buildTools with
  | some value => return value
  | none => throw (.python .KeyError)

end AttestationSdk.ReleaseSet
