import AttestationSdk.ReleaseSetCompleteness

/-! The release rail: `builder` of `driver.release`, from the staged tree on, and the set it makes of
three targets. -/
namespace AttestationSdk.ReleaseSet
open PyValue Transaction LinkedFiles ExceptRules KeyedList

/-- What stands at a path of a tree. -/
inductive Node
  | file
  | directory
  | symlink (target : String)

/-- A directory with what is under it, by relative paths. -/
structure Tree where
  node : String → Option Node
  /-- What is read at a path, where symbolic links are followed. -/
  read : String → Option Bytes
  /-- The number of entries of a directory. -/
  count : String → Option Nat

/-- What `archive.construct` runs `tar` and `xz` with. -/
structure ArchiveCall where
  tar : String
  xz : String
  sourceDateEpoch : Value
  xzPreset : Value
  xzThreads : Value
  members : List String

/-- What the builder calls besides what the validator calls. -/
structure Rail where
  /-- `tar --format=gnu --sort=name ... | xz -c` in a staged tree. -/
  tarXz : ArchiveCall → Tree → Option Bytes
  /-- `tar -xJf` into an empty directory. -/
  untar : String → Bytes → Option Tree
  /-- `json.dumps(..., indent=2)`. -/
  dumps : Value → Option String
  /-- `gate.gate_build_roots`. -/
  gateBuildRoots : Tree → List Member → Bool
  /-- `_runtime_gates`, on the extracted tree. -/
  runtimeGates : Tree → Target → Bool

/-- What the builder raises. -/
inductive RailError
  | expectedRegular (path : String)
  | expectedSymlink (path : String)
  | expectedLink (path : String) (expected : Value) (target : String)
  | expectedEntries (relative : String) (expected : Value) (actual : Nat)
  | allowlist
  | gate
  | archive
  | extraction
  | raised (e : Raised)
  | manifest (e : ManifestError)
  | python (e : PythonError)

def checkRail (cond : Bool) (e : RailError) : Except RailError Unit :=
  if cond then .ok () else .error e

def orFail {α : Type} (e : RailError) : Option α → Except RailError α
  | some a => .ok a
  | none => .error e

/-- A call whose exceptions pass through. -/
def passing {ε α : Type} (f : ε → RailError) : Except ε α → Except RailError α
  | .ok a => .ok a
  | .error e => .error (f e)

/-- One turn of the loop over the members. -/
def checkMember (tree : Tree) (member : Member) : Except RailError Unit :=
  match member.linkTarget, tree.node member.path with
  | none, some .file => .ok ()
  | none, _ => .error (.expectedRegular member.path)
  | some expected, some (.symlink target) =>
    checkRail ((Value.str target).equals expected) (.expectedLink member.path expected target)
  | some _, _ => .error (.expectedSymlink member.path)

/-- `_validate_layout`. -/
def validateLayout (tree : Tree) (target : Target) : Except RailError Unit := do
  target.members.forM (checkMember tree)
  match target.get? "directory_counts" with
  | some (.dict counts) =>
    counts.forM fun (relative, expected) => do
      let actual ← orFail (.python .OSError) (tree.count relative)
      checkRail ((Value.int actual).equals expected) (.expectedEntries relative expected actual)
  | some _ => .error (.python .AttributeError)
  | none => .error (.python .KeyError)

/-- `_gate_binaries`. -/
def gateBinaries (lib : Library) (tree : Tree) (target : Target) : Except RailError Unit := do
  let allowlist ← orFail .allowlist (lib.readAllowlist target)
  target.members.forM fun member =>
    checkRail (!member.isBinary || (tree.read member.path).any (lib.gateFile · target allowlist))
      .gate

/-- `archive.construct`. -/
def construct (rail : Rail) (stage : Tree) (target : Target) (release : Table)
    (sourceDateEpoch : Value) : Except RailError Bytes := do
  let tar ← orFail (.python .IndexError) target.requiredTools[4]?
  let xz ← orFail (.python .IndexError) target.requiredTools[5]?
  let preset ← orFail (.python .KeyError) (release.lookup "archive_xz_preset")
  let threads ← orFail (.python .KeyError) (release.lookup "archive_xz_threads")
  orFail .archive
    (rail.tarXz ⟨tar, xz, sourceDateEpoch, preset, threads, target.members.map Member.path⟩ stage)

/-- What the builder has written when it returns. -/
structure Built where
  names : List (String × String)
  archive : Bytes
  value : Value
  manifest : Bytes

/-- The name a file of the quartet has in the staging directory. -/
def Built.fileName (built : Built) (key : Key) : String :=
  (PurePath.parse (nameOf built.names key)).name

/-- The bytes of a file of the quartet. -/
def Built.file (built : Built) : Key → Bytes
  | .archive => built.archive
  | .archiveSha256 => encodeText (sidecarLine built.archive (built.fileName .archive))
  | .manifest => built.manifest
  | .manifestSha256 => encodeText (sidecarLine built.manifest (built.fileName .manifest))

/-- `builder`, from the staged tree on. -/
def builder (lib : Library) (rail : Rail) (authority : Authority) (target : Target)
    (version : String) (source : Table) (dependencies tools : Value) (stage : Tree) :
    Except RailError Built := do
  let names ← passing .raised (target.quartetNames lib version)
  validateLayout stage target
  gateBinaries lib stage target
  checkRail (rail.gateBuildRoots stage target.members) .gate
  let epoch ← orFail (.python .KeyError) (source.lookup "source_date_epoch")
  let archive ← construct rail stage target authority.release epoch
  let tar ← orFail (.python .IndexError) target.requiredTools[4]?
  let extracted ← orFail .extraction (rail.untar tar archive)
  validateLayout extracted target
  gateBinaries lib extracted target
  checkRail (rail.gateBuildRoots extracted target.members) .gate
  let name := (PurePath.parse (nameOf names .archive)).name
  let value ← passing .manifest (build authority.release target version source
    ⟨name, archive.length, sha256 archive⟩ dependencies tools)
  let text ← orFail (.python .TypeError) (rail.dumps value)
  checkRail (rail.runtimeGates extracted target) .gate
  return ⟨names, archive, value, encodeText (text ++ "\n")⟩

section Specification
variable {lib : Library} {rail : Rail} {authority : Authority} {target : Target} {version : String}
  {source : Table} {dependencies tools : Value} {stage : Tree} {built : Built}

theorem checkRail_iff {cond : Bool} {e : RailError} {u : Unit} :
    checkRail cond e = .ok u ↔ cond = true := by
  cases cond <;> simp [checkRail]

theorem orFail_iff {α : Type} {e : RailError} {x : Option α} {a : α} :
    orFail e x = .ok a ↔ x = some a := by
  cases x <;> simp [orFail]

theorem passing_iff {ε α : Type} {f : ε → RailError} {x : Except ε α} {a : α} :
    passing f x = .ok a ↔ x = .ok a := by
  cases x <;> simp [passing]

/-- What `builder` has done for a target when it returns. -/
structure Completed (lib : Library) (rail : Rail) (authority : Authority) (target : Target)
    (version : String) (source : Table) (dependencies tools : Value) (stage : Tree)
    (built : Built) : Prop where
  named : target.quartetNames lib version = .ok built.names
  laidOut : ∀ member ∈ target.members, checkMember stage member = .ok ()
  archived : ∃ call : ArchiveCall, call.members = target.members.map Member.path ∧
    rail.tarXz call stage = some built.archive
  gated : ∃ tar extracted allowlist, rail.untar tar built.archive = some extracted ∧
    lib.readAllowlist target = some allowlist ∧
    ∀ member ∈ target.members, member.isBinary = true →
      ∃ bytes, extracted.read member.path = some bytes ∧ lib.gateFile bytes target allowlist = true
  validTools : validateBuildTools target tools = .ok ()
  value : manifestValue authority.release target version source
    ⟨built.fileName .archive, built.archive.length, sha256 built.archive⟩ dependencies tools =
      some built.value
  written : ∃ text, rail.dumps built.value = some text ∧ built.manifest = encodeText (text ++ "\n")

theorem validateLayout_ok (h : validateLayout stage target = .ok ()) :
    ∀ member ∈ target.members, checkMember stage member = .ok () := by
  rw [validateLayout, bind_eq_ok] at h
  obtain ⟨_, hmembers, -⟩ := h
  exact forM_eq_ok.mp hmembers

theorem gateBinaries_ok (h : gateBinaries lib stage target = .ok ()) :
    ∃ allowlist, lib.readAllowlist target = some allowlist ∧
      ∀ member ∈ target.members, member.isBinary = true →
        ∃ bytes, stage.read member.path = some bytes ∧
          lib.gateFile bytes target allowlist = true := by
  simp only [gateBinaries, bind_eq_ok, orFail_iff, forM_eq_ok, checkRail_iff] at h
  obtain ⟨allowlist, hallow, hgates⟩ := h
  refine ⟨allowlist, hallow, fun member hmember hbinary => ?_⟩
  have hgate := hgates member hmember
  rw [hbinary, Bool.not_true, Bool.false_or, Option.any_eq_true] at hgate
  exact hgate

theorem build_ok {release : Table} {artifact : Artifact} {value : Value}
    (h : build release target version source artifact dependencies tools = .ok value) :
    validateBuildTools target tools = .ok () ∧
      manifestValue release target version source artifact dependencies tools = some value := by
  rw [build, bind_eq_ok] at h
  obtain ⟨_, htools, h⟩ := h
  split at h
  next found hfound =>
    obtain rfl := Except.ok.inj h
    exact ⟨htools, hfound⟩
  · cases h

theorem builder_ok (h : builder lib rail authority target version source dependencies tools stage =
    .ok built) :
    Completed lib rail authority target version source dependencies tools stage built := by
  simp only [builder, construct, bind_eq_ok, passing_iff, orFail_iff, checkRail_iff, pure_eq_ok,
    Except.ok.injEq] at h
  obtain ⟨names, hnames, _, hlayout, _, -, _, -, epoch, -, archive, ⟨_, -, _, -, _, -, _, -, htar⟩,
    tar, -, extracted, huntar, _, -, _, hgates, _, -, value, hvalue, text, htext, _, -, rfl⟩ := h
  obtain ⟨htools, hvalue⟩ := build_ok hvalue
  obtain ⟨allowlist, hallow, hgated⟩ := gateBinaries_ok hgates
  exact {
    named := hnames
    laidOut := validateLayout_ok hlayout
    archived := ⟨_, rfl, htar⟩
    gated := ⟨tar, extracted, allowlist, huntar, hallow, hgated⟩
    validTools := htools
    value := hvalue
    written := ⟨text, htext, rfl⟩ }

end Specification

section Manifests
variable {release source : Table} {target target' : Target} {version : String}
  {artifact artifact' : Artifact} {dependencies buildTools buildTools' value value' : Value}

/-- What a manifest states of its target. -/
structure ManifestFields (release source : Table) (target : Target) (version : String)
    (artifact : Artifact) (buildTools value : Value) : Prop where
  toolsAt : value.get? "build_tools" = some buildTools
  membersAt : value.get? "archive_members" = some (.list (target.members.map Member.toValue))
  artifactAt : value.get? "artifact" = some (.dict [("name", .str artifact.name),
    ("size", .int artifact.size), ("sha256", .str artifact.sha256)])
  identityAt : ∃ identity, expectedIdentity target version = some identity ∧
    ∀ expected ∈ identity, field value expected.1 = .ok expected.2
  revisionAt : ∃ revision, release.lookup "sol_revision" = some revision ∧
    field value ["release", "sol_revision"] = .ok revision
  commitAt : ∃ commit, source.lookup "commit" = some commit ∧
    field value ["source", "commit"] = .ok commit

/-- The rule for `bind` itself, so that nested calls are taken apart from the outside. -/
theorem bind_eq_some {α β : Type} {x : Option α} {f : α → Option β} {b : β} :
    (x >>= f) = some b ↔ ∃ a, x = some a ∧ f a = some b :=
  Option.bind_eq_some_iff

theorem manifestFields (h : manifestValue release target version source artifact dependencies
    buildTools = some value) :
    ManifestFields release source target version artifact buildTools value := by
  simp only [manifestValue, bind_eq_some, Option.pure_def, Option.some.injEq] at h
  obtain ⟨revision, hrevision, format, hformat, arch, harch, _, -, _, -, commit, hcommit, _, -, _, -,
    _, -, _, -, _, -, _, -, _, -, _, -, _, -, _, -, rfl⟩ := h
  constructor
  · simp [List.lookup_cons]
  · simp [List.lookup_cons]
  · simp [List.lookup_cons]
  · refine ⟨_, by rw [expectedIdentity, hformat, harch]; rfl, ?_⟩
    simp [field, index, orRaise, List.lookup_cons]
  · exact ⟨revision, hrevision, by simp [field, index, orRaise, List.lookup_cons]⟩
  · exact ⟨commit, hcommit, by simp [field, index, orRaise, List.lookup_cons]⟩

/-- The compared fields do not depend on the target. -/
theorem manifests_agree (h : manifestValue release target version source artifact dependencies
    buildTools = some value)
    (h' : manifestValue release target' version source artifact' dependencies buildTools' =
      some value') : ∀ components ∈ compared, ∃ v, field value components = .ok v ∧
        field value' components = .ok v := by
  simp only [manifestValue, bind_eq_some, Option.pure_def, Option.some.injEq] at h h'
  obtain ⟨revision, hrevision, _, -, _, -, _, -, _, -, commit, hcommit, base, hbase, series, hseries,
    epoch, hepoch, _, -, _, -, date, hdate, url, hurl, sha, hsha, preset, hpreset, threads, hthreads,
    rfl⟩ := h
  simp only [hrevision, hcommit, hbase, hseries, hepoch, hdate, hurl, hsha, hpreset, hthreads,
    Option.some.injEq, exists_eq_left'] at h'
  obtain ⟨_, -, _, -, _, -, _, -, _, -, _, -, rfl⟩ := h'
  simp [compared, field, index, orRaise, List.lookup_cons]

end Manifests

end AttestationSdk.ReleaseSet
