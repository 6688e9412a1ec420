import AttestationSdk.ReleaseManifest
import AttestationSdk.QuartetPromotion
import AttestationSdk.Sha256

/-! Validation of a three-target release set: `set_validator.py`. -/
namespace AttestationSdk.ReleaseSet
open PyValue Transaction LinkedFiles

/-- The `SetValidationError`s, one for each text. -/
inductive SetValidationError
  | expectedCommit (commit : String)
  | noDirectory
  | extraReleaseFile (path : PurePath)
  | invalidManifest (path : PurePath)
  | unknownTarget (targetId : Value) (path : PurePath)
  | missingTargets (targetIds : List String)
  | duplicateTarget (targetId : String) (paths : List PurePath)
  | incompleteQuartet (targetId : String) (missing : List String)
  | buildTools (targetId : String)
  | layoutMismatch (targetId field : String) (expected actual : Value)
  | hashMismatch (targetId label : String) (expected actual : Value)
  | invalidArchive (targetId : String)
  | gateFailed (targetId : String)
  | crossTargetMismatch (field : List String) (values : List (String × Value))
  | sourceIdentity (expected : String) (actual : Value)

inductive Raised
  | setValidation (e : SetValidationError)
  | allowlist (targetId : String)
  | python (e : PythonError)

def check (cond : Bool) (e : SetValidationError) : Except Raised Unit :=
  if cond then .ok () else .error (.setValidation e)

/-- A value or the exception that is raised for the lack of it. -/
def orRaise {α : Type} (e : Raised) : Option α → Except Raised α
  | some a => .ok a
  | none => .error e

/-- The types of tar entries, as far as `tarfile` tells them apart when it extracts data. -/
inductive EntryType
  | regular
  | hardLink
  | symlink
  | directory
  | special
  deriving DecidableEq

structure TarInfo where
  name : String
  type : EntryType
  linkname : String

/-- What the validator calls: Python's library, the checkout's allowlists and the static gate. -/
structure Library where
  /-- `json.loads`; `none` is a `JSONDecodeError`. -/
  loads : String → Option Value
  /-- `archive_name.format(target=..., version=...)`. -/
  format : String → String → String → Option String
  /-- `tarfile.open(..., "r:xz").getmembers()`. -/
  getMembers : Bytes → Option (List TarInfo)
  /-- `extractall(..., filter="data")` into an empty directory: what is then read at a path. -/
  extractAll : Bytes → Option (String → Option Bytes)
  /-- `authority.read_allowlist`. -/
  readAllowlist : Target → Option (List String)
  /-- `gate.gate_file`, by the bytes of the file. -/
  gateFile : Bytes → Target → List String → Bool

/-- A directory with its listing, `sorted(dist.iterdir())`. -/
structure Dist where
  fs : Files
  path : PurePath
  entries : List PurePath
  nodup : entries.Nodup
  mem_entries : ∀ p, p ∈ entries ↔ p.parent = path ∧ p ≠ path ∧ (fs.names p).isSome
  fileNames : ∀ p ∈ entries, isFileName p.name = true

namespace Dist
variable (dist : Dist)

/-- The bytes of the file a path leads to. -/
def read (p : PurePath) : Option Bytes :=
  match dist.fs.leadsTo p with
  | some (.file i) => some (dist.fs.data i)
  | _ => none

/-- `is_file() and not is_symlink()`. -/
def isRegular (p : PurePath) : Bool := dist.fs.isFile p && !dist.fs.isSymlink p

end Dist

/-- Text files are read with universal newlines. -/
def universalNewlines : List Char → List Char
  | [] => []
  | '\r' :: '\n' :: rest => '\n' :: universalNewlines rest
  | '\r' :: rest => '\n' :: universalNewlines rest
  | c :: rest => c :: universalNewlines rest

def encodeText (s : String) : Bytes := s.toUTF8.data.toList

/-- `read_text(encoding="utf-8")` of these bytes; `none` is a `UnicodeDecodeError`. -/
def decodeText (data : Bytes) : Option String :=
  (String.fromUTF8? ⟨data.toArray⟩).map fun s => String.ofList (universalNewlines s.toList)

/-- `quartet_names`. -/
def Target.quartetNames (lib : Library) (target : Target) (version : String) :
    Except Raised (List (String × String)) :=
  match target.get? "archive_name" with
  | some (.str template) => do
    let archiveName ← orRaise (.python .ValueError) (lib.format template target.id version)
    return Transaction.quartetNames archiveName
  | some _ => .error (.python .AttributeError)
  | none => .error (.python .KeyError)

def nameOf (names : List (String × String)) (key : Key) : String := (names.lookup key.str).getD ""

/-- `value[key]`. -/
def index (v : Value) (key : String) : Except Raised Value :=
  match v with
  | .dict members => orRaise (.python .KeyError) (members.lookup key)
  | _ => .error (.python .TypeError)

/-- `_field`, by the components of the dotted name. -/
def field : Value → List String → Except Raised Value
  | v, [] => .ok v
  | v, key :: rest => do field (← index v key) rest

/-- The manifest a path holds: a file that is missing or is no JSON is an invalid manifest. -/
def readManifest (lib : Library) (dist : Dist) (path : PurePath) : Except Raised Value := do
  let data ← orRaise (.setValidation (.invalidManifest path)) (dist.read path)
  let text ← orRaise (.python .ValueError) (decodeText data)
  orRaise (.setValidation (.invalidManifest path)) (lib.loads text)

/-- `archive.sha256`. -/
def sha256 (payload : Bytes) : String := Sha256.hexdigest payload

/-- The line of a checksum sidecar. -/
def sidecarLine (payload : Bytes) (name : String) : String :=
  sha256 payload ++ "  " ++ name ++ "\n"

/-- `_sidecar`. -/
def checkSidecar (dist : Dist) (sidecar payload : PurePath)
    (targetId label : String) : Except Raised Unit := do
  let bytes ← orRaise (.python .OSError) (dist.read payload)
  let data ← orRaise (.python .OSError) (dist.read sidecar)
  let actual ← orRaise (.python .ValueError) (decodeText data)
  check (actual = sidecarLine bytes payload.name)
    (.hashMismatch targetId label (.str (sidecarLine bytes payload.name)) (.str actual))

/-- The projection of a tar entry the validator compares: everything but a symbolic link counts
as regular. -/
def TarInfo.toValue (entry : TarInfo) : Value :=
  .dict [("path", .str entry.name),
    ("kind", .str (if entry.type = .symlink then "symlink" else "regular")),
    ("link_target", if entry.type = .symlink then .str entry.linkname else .none)]

/-- `gate.is_binary_member`. -/
def Member.isBinary (member : Member) : Bool :=
  member.path = "bin/nvattest" ||
    ("lib/".toList.isPrefixOf member.path.toList && member.kind = .regular)

def expectedIdentity (target : Target) (version : String) : Option (List (List String × Value)) := do
  return [(["schema_version"], .int 2), (["release", "version"], .str version),
    (["target", "id"], .str target.id),
    (["target", "binary_format"], ← target.get? "binary_format"),
    (["target", "architecture"], ← target.get? "expected_arch")]

/-- The manifest names the release and the target. -/
def checkIdentity (target : Target) (version : String) (value : Value) : Except Raised Unit := do
  let identity ← orRaise (.python .KeyError) (expectedIdentity target version)
  identity.forM fun (components, expected) => do
    let actual ← field value components
    check (actual.equals expected)
      (.layoutMismatch target.id (".".intercalate components) expected actual)

/-- The tool evidence of the manifest; an error of the manifest module is an error of the layout. -/
def checkTools (target : Target) (value : Value) : Except Raised Unit :=
  match value with
  | .dict members =>
    match members.lookup "build_tools" with
    | none => .error (.setValidation (.buildTools target.id))
    | some tools =>
      match validateBuildTools target tools with
      | .ok _ => .ok ()
      | .error (.manifest _ _) => .error (.setValidation (.buildTools target.id))
      | .error (.python e) => .error (.python e)
  | _ => .error (.python .TypeError)

/-- The archive and what the manifest says of it. -/
def checkArtifact (targetId : String) (value : Value) (archivePath : PurePath)
    (archive : Bytes) : Except Raised Unit := do
  let artifact ← index value "artifact"
  let name ← index artifact "name"
  check (name.equals (.str archivePath.name))
    (.layoutMismatch targetId "artifact.name" (.str archivePath.name) name)
  let hash ← index artifact "sha256"
  check (hash.equals (.str (sha256 archive)))
    (.hashMismatch targetId "archive" hash (.str (sha256 archive)))
  let size ← index artifact "size"
  check (size.equals (.int archive.length))
    (.layoutMismatch targetId "artifact.size" size (.int archive.length))

/-- The members, as the manifest and as the archive list them. -/
def checkMembers (lib : Library) (target : Target) (value : Value) (archive : Bytes) :
    Except Raised Unit := do
  let expected := Value.list (target.members.map Member.toValue)
  let listed ← index value "archive_members"
  check (listed.equals expected) (.layoutMismatch target.id "archive_members" expected listed)
  let members ← orRaise (.setValidation (.invalidArchive target.id)) (lib.getMembers archive)
  let actual := Value.list (members.map TarInfo.toValue)
  check (actual.equals expected) (.layoutMismatch target.id "archive_members" expected actual)

/-- The static gate on the extracted binaries. -/
def checkGates (lib : Library) (target : Target) (archive : Bytes) : Except Raised Unit := do
  let allowlist ← orRaise (.allowlist target.id) (lib.readAllowlist target)
  let extracted ← orRaise (.setValidation (.gateFailed target.id)) (lib.extractAll archive)
  target.members.forM fun member =>
    check (!member.isBinary || (extracted member.path).any (lib.gateFile · target allowlist))
      (.gateFailed target.id)

/-- `_validate_one`. -/
def validateOne (lib : Library) (dist : Dist) (target : Target) (version : String)
    (manifestPath : PurePath) : Except Raised Value := do
  let names ← target.quartetNames lib version
  let path := fun key => dist.path.join (nameOf names key)
  let missing := ((quartetOrder.map path).filter fun p => !dist.isRegular p).map PurePath.name
  check missing.isEmpty (.incompleteQuartet target.id missing)
  let value ← readManifest lib dist manifestPath
  checkTools target value
  checkIdentity target version value
  let archive ← orRaise (.python .OSError) (dist.read (path .archive))
  checkArtifact target.id value (path .archive) archive
  checkSidecar dist (path .archiveSha256) (path .archive) target.id "archive sidecar"
  checkSidecar dist (path .manifestSha256) manifestPath target.id "manifest sidecar"
  checkMembers lib target value archive
  checkGates lib target archive
  return value

/-- The manifests of `dist` by the target they name. -/
def indexManifests (lib : Library) (dist : Dist) (authority : Authority) :
    List PurePath → Except Raised (List (String × PurePath))
  | [] => return []
  | path :: rest => do
    let value ← readManifest lib dist path
    let id ← orRaise (.setValidation (.invalidManifest path))
      ((value.get? "target").bind (·.get? "id"))
    match id with
    | .str targetId => do
      check (authority.targets.lookup targetId).isSome (.unknownTarget id path)
      return (targetId, path) :: (← indexManifests lib dist authority rest)
    | _ =>
      if hashable id then throw (.setValidation (.unknownTarget id path))
      else throw (.python .TypeError)

/-- `compared`. -/
def compared : List (List String) :=
  [["schema_version"], ["release", "version"], ["release", "sol_revision"], ["source", "commit"],
    ["source", "upstream_base_commit"], ["source", "sol_series_commits"],
    ["source", "source_date_epoch"], ["dependency_pins"], ["build_inputs", "ca_snapshot"],
    ["build_inputs", "archive"]]

/-- A field of all manifests against that of the first. -/
def checkCompared (manifests : List (String × Value)) (components : List String) :
    Except Raised Unit := do
  let values ← manifests.mapM fun entry => return (entry.1, ← field entry.2 components)
  match values with
  | [] => .error (.python .ValueError)
  | (_, first) :: _ =>
    check (values.all fun v => v.2.equals first) (.crossTargetMismatch components values)

/-- A file of this release by its name. -/
def isReleaseFile (version name : String) : Bool :=
  "libnvat-".toList.isPrefixOf name.toList && decide (version.toList <:+: name.toList)

def isManifestName (name : String) : Bool := ".manifest.json".toList.isSuffixOf name.toList

/-- The manifest of a target: there is one, under the name of its quartet. -/
def pickManifest (expectedNames : List (String × String)) (byTarget : List (String × PurePath))
    (targetId : String) : Except Raised PurePath :=
  match (byTarget.filter (·.1 = targetId)).map Prod.snd with
  | [path] => do
    let expected ← orRaise (.python .KeyError) (expectedNames.lookup targetId)
    check (path.name = expected) (.extraReleaseFile path)
    return path
  | paths => .error (.setValidation (.duplicateTarget targetId paths))

/-- `validate`. -/
def validate (lib : Library) (dist : Dist) (authority : Authority) (version : String)
    (expectedSourceCommit : String) : Except Raised (List (String × Value)) := do
  check (isHex 40 expectedSourceCommit) (.expectedCommit expectedSourceCommit)
  check (dist.fs.isDirectory dist.path) .noDirectory
  let quartets ← authority.targets.mapM fun entry =>
    return (entry.1, ← entry.2.quartetNames lib version)
  let expectedNames := quartets.map fun entry => (entry.1, nameOf entry.2 .manifest)
  let allowed := quartets.flatMap fun entry => entry.2.map Prod.snd
  dist.entries.forM fun path =>
    check (!((dist.fs.isFile path || dist.fs.isSymlink path) && isReleaseFile version path.name &&
      path.name ∉ allowed)) (.extraReleaseFile path)
  let byTarget ← indexManifests lib dist authority
    (dist.entries.filter fun path => isManifestName path.name)
  let missing := targetIds.filter fun targetId => (byTarget.lookup targetId).isNone
  check missing.isEmpty (.missingTargets missing)
  let picked ← targetIds.mapM fun targetId =>
    return (targetId, ← pickManifest expectedNames byTarget targetId)
  let manifests ← picked.mapM fun entry => do
    let target ← orRaise (.python .KeyError) (authority.targets.lookup entry.1)
    return (entry.1, ← validateOne lib dist target version entry.2)
  compared.forM (checkCompared manifests)
  let first ← orRaise (.python .KeyError) (manifests.lookup "linux-x86_64")
  let commit ← field first ["source", "commit"]
  check (commit.equals (.str expectedSourceCommit)) (.sourceIdentity expectedSourceCommit commit)
  let revision ← field first ["release", "sol_revision"]
  let expectedRevision ← orRaise (.python .KeyError) (authority.release.lookup "sol_revision")
  check (revision.equals expectedRevision)
    (.layoutMismatch "all targets" "release.sol_revision" expectedRevision revision)
  return manifests

end AttestationSdk.ReleaseSet
