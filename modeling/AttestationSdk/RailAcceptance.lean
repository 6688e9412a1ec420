import AttestationSdk.ReleaseRail
import AttestationSdk.JsonText

/-! What the rail builds the validator accepts, with the conditions on names, values and links that
the builder does not check. -/
namespace AttestationSdk.ReleaseSet
open PyValue Transaction LinkedFiles ExceptRules KeyedList

/-- The entry of an archive made from the tree. -/
def Tree.entry (tree : Tree) (path : String) : TarInfo :=
  match tree.node path with
  | some (.symlink target) => ⟨path, .symlink, target⟩
  | some .directory => ⟨path, .directory, ""⟩
  | _ => ⟨path, .regular, ""⟩

/-- What is relied on of `json`, `tarfile`, GNU tar and xz. -/
structure Documented (lib : Library) (rail : Rail) : Prop where
  jsonText : ∀ v text, rail.dumps v = some text → '\r' ∉ text.toList
  jsonRoundTrip : ∀ v text, v.Plain → rail.dumps v = some text →
    lib.loads (text ++ "\n") = some v
  listsMembers : ∀ call stage archive, rail.tarXz call stage = some archive →
    lib.getMembers archive = some (call.members.map stage.entry)
  extractsAlike : ∀ tar archive tree read, rail.untar tar archive = some tree →
    lib.extractAll archive = some read → read = tree.read

/-- The directory holds the promoted files of the three targets and nothing else. -/
structure HoldsPromoted (dist : Dist) (built : String → Built) : Prop where
  directory : dist.fs.isDirectory dist.path = true
  files : ∀ p, p ∈ dist.entries ↔
    ∃ targetId ∈ targetIds, ∃ key, p = dist.quartetPath (built targetId).names key
  content : ∀ targetId ∈ targetIds, ∀ key,
    dist.fs.content (dist.quartetPath (built targetId).names key) =
      some (.file ((built targetId).file key))

/-- What the builder does not look at and the validator does: no value is a NaN, the archive has
the name of a file that is no manifest, and no link leads out of the archive. -/
structure Acceptable (lib : Library) (built : Built) : Prop where
  plain : built.value.Plain
  noSlash : '/' ∉ (nameOf built.names .archive).toList
  noReturn : '\r' ∉ (nameOf built.names .archive).toList
  notDots : nameOf built.names .archive ∉ ["", ".", ".."]
  archiveName : isManifestName (nameOf built.names .archive) = false
  extracts : (lib.extractAll built.archive).isSome = true

section Acceptance
variable {lib : Library} {rail : Rail} {dist : Dist} {authority : Authority} {target : Target}
  {version : String} {release source : Table} {dependencies tools : Value} {stage : Tree}
  {built : Built}

theorem read_of_content {p : PurePath} {bytes : Bytes}
    (h : dist.fs.content p = some (.file bytes)) : dist.read p = some bytes := by
  obtain ⟨i, hentry, hdata⟩ := file_of_content h
  rw [Dist.read, leadsTo_of_file hentry, ← hdata]

/-- A staged member that passes the layout check is listed as the authority lists it. -/
theorem checkMember_projects {member : Member} (h : checkMember stage member = .ok ()) :
    Projects member (stage.entry member.path) := by
  rw [checkMember] at h
  split at h
  next hlink hnode => simp [Projects, Tree.entry, Member.kind, hlink, hnode]
  next => cases h
  next expected target hlink hnode =>
    obtain rfl := Value.str_equals_iff.mp (checkRail_iff.mp h)
    simp [Projects, Tree.entry, Member.kind, hlink, hnode]
  next => cases h

theorem noReturn_sha256 (bytes : Bytes) : '\r' ∉ (sha256 bytes).toList := by
  intro hmem
  have hdigit := Sha256.mem_hexdigest hmem
  revert hdigit
  decide

theorem isFileName_of {s : String} (hslash : '/' ∉ s.toList) (hdots : s ∉ ["", ".", ".."]) :
    isFileName s = true := by
  simp only [List.mem_cons, List.not_mem_nil, or_false, not_or] at hdots
  obtain ⟨hempty, hdot, hdotdot⟩ := hdots
  have hparts : (s.toList.splitOn '/').map String.ofList = [s] := by
    rw [List.splitOn_eq_singleton hslash, List.map_singleton, String.ofList_toList]
  have hroot : PurePath.rootOf s.toList = "" := by
    cases hs : s.toList with
    | nil => rfl
    | cons c rest =>
      rw [hs, List.mem_cons, not_or] at hslash
      unfold PurePath.rootOf
      split
      next heq => exact absurd (List.cons.inj heq).1.symm hslash.1
      next heq => exact absurd (List.cons.inj heq).1.symm hslash.1
      next heq => exact absurd (List.cons.inj heq).1.symm hslash.1
      next => rfl
  simp [isFileName, PurePath.parse, hparts, hroot, hempty, hdot, hdotdot]

theorem isFileName_append {front ending : String} (hfront : '/' ∉ front.toList)
    (hending : '/' ∉ ending.toList) (hlong : 2 < ending.toList.length) :
    isFileName (front ++ ending) = true := by
  refine isFileName_of (by simp [hfront, hending]) fun hmem => ?_
  have hlength : (front ++ ending).toList.length ≤ 2 := by
    simp only [List.mem_cons, List.not_mem_nil, or_false] at hmem
    obtain h | h | h := hmem <;> rw [h] <;> decide
  rw [String.toList_append, List.length_append] at hlength
  omega

theorem not_mem_removeSuffix {c : Char} {s : String} (h : c ∉ s.toList) (suffix : String) :
    c ∉ (removeSuffix s suffix).toList := by
  obtain ⟨ending, -, hparts⟩ := removeSuffix_cases s suffix
  rw [hparts, List.mem_append, not_or] at h
  exact h.1

/-- The names of a quartet are those of files if the archive's is. -/
theorem Acceptable.fileNames (hnamed : target.quartetNames lib version = .ok built.names)
    (h : Acceptable lib built) (key : Key) : isFileName (nameOf built.names key) = true := by
  obtain ⟨archiveName, hnames⟩ := quartetNames_ok hnamed
  have hslash := h.noSlash
  have hdots := h.notDots
  rw [hnames] at hslash hdots ⊢
  change '/' ∉ archiveName.toList at hslash
  have hfront := not_mem_removeSuffix hslash ".tar.xz"
  cases key with
  | archive => exact isFileName_of hslash hdots
  | archiveSha256 => exact isFileName_append hslash (by decide) (by decide)
  | manifest => exact isFileName_append hfront (by decide) (by decide)
  | manifestSha256 =>
    refine isFileName_append ?_ (by decide) (by decide)
    rw [String.toList_append, List.mem_append, not_or]
    exact ⟨hfront, by decide⟩

theorem Acceptable.noReturn_manifest (hnamed : target.quartetNames lib version = .ok built.names)
    (h : Acceptable lib built) : '\r' ∉ (nameOf built.names .manifest).toList := by
  obtain ⟨archiveName, hnames⟩ := quartetNames_ok hnamed
  have hreturn := h.noReturn
  rw [hnames] at hreturn ⊢
  change '\r' ∉ (removeSuffix archiveName ".tar.xz" ++ ".manifest.json").toList
  rw [String.toList_append, List.mem_append, not_or]
  exact ⟨not_mem_removeSuffix hreturn ".tar.xz", by decide⟩

theorem Built.fileName_eq {key : Key} (h : isFileName (nameOf built.names key) = true) :
    built.fileName key = nameOf built.names key := by
  simp only [isFileName, Bool.and_eq_true, beq_iff_eq] at h
  rw [Built.fileName, h.1]
  rfl

/-- A sidecar that was written is found to hold. -/
theorem sidecarHolds {payload sidecar : PurePath} {bytes : Bytes}
    {name : String} (hname : payload.name = name) (hreturn : '\r' ∉ name.toList)
    (hpayload : dist.fs.content payload = some (.file bytes))
    (hsidecar : dist.fs.content sidecar = some (.file (encodeText (sidecarLine bytes name)))) :
    SidecarHolds dist sidecar payload := by
  refine ⟨bytes, _, read_of_content hpayload, read_of_content hsidecar, ?_⟩
  rw [hname]
  refine decodeText_encodeText ?_
  have hdigest := noReturn_sha256 bytes
  simp [sidecarLine, hdigest, hreturn]

/-- A quartet that was written to the directory from what the manifest says. -/
structure Written (lib : Library) (dist : Dist) (release source : Table) (target : Target)
    (version : String) (dependencies tools : Value) (built : Built) : Prop where
  named : target.quartetNames lib version = .ok built.names
  validTools : validateBuildTools target tools = .ok ()
  value : manifestValue release target version source
    ⟨built.fileName .archive, built.archive.length, sha256 built.archive⟩ dependencies tools =
      some built.value
  listed : ∃ entries, lib.getMembers built.archive = some entries ∧
    List.Forall₂ Projects target.members entries
  gated : GatesPassed lib target built.archive
  manifest : readManifest lib dist (dist.quartetPath built.names .manifest) = .ok built.value
  content : ∀ key,
    dist.fs.content (dist.quartetPath built.names key) = some (.file (built.file key))

/-- What the builder completes and what is promoted as it is, is a written quartet. -/
theorem Completed.promoted (hdoc : Documented lib rail) (hok : Acceptable lib built)
    (h : Completed lib rail authority target version source dependencies tools stage built)
    (hcontent : ∀ key,
      dist.fs.content (dist.quartetPath built.names key) = some (.file (built.file key))) :
    Written lib dist authority.release source target version dependencies tools built := by
  obtain ⟨call, hmembers, hcall⟩ := h.archived
  obtain ⟨tar, extracted, allowlist, huntar, hallow, hgates⟩ := h.gated
  obtain ⟨read, hread⟩ := Option.isSome_iff_exists.mp hok.extracts
  obtain rfl := hdoc.extractsAlike tar built.archive extracted read huntar hread
  obtain ⟨text, htext, hmanifest⟩ := h.written
  exact {
    named := h.named
    validTools := h.validTools
    value := h.value
    listed := by
      refine ⟨_, hdoc.listsMembers call stage _ hcall, ?_⟩
      rw [hmembers, List.map_map, List.forall₂_map_right_iff, List.forall₂_same]
      exact fun member hmember => checkMember_projects (h.laidOut member hmember)
    gated := ⟨allowlist, extracted.read, hallow, hread, hgates⟩
    manifest := by
      have hbytes := hcontent .manifest
      rw [Built.file, hmanifest] at hbytes
      refine readManifest_iff.mpr ⟨_, text ++ "\n", read_of_content hbytes, decodeText_encodeText ?_,
        hdoc.jsonRoundTrip built.value text hok.plain htext⟩
      have hreturn := hdoc.jsonText built.value text htext
      simp [hreturn]
    content := hcontent }

/-- A written quartet passes the checks on its own. -/
theorem Written.checked (hok : Acceptable lib built)
    (h : Written lib dist release source target version dependencies tools built) :
    Checked lib dist target version built.names built.archive
      (dist.quartetPath built.names .manifest) built.value := by
  have hfields := manifestFields h.value
  have hfiles := hok.fileNames h.named
  have hname : ∀ key, (dist.quartetPath built.names key).name = nameOf built.names key :=
    fun key => name_join (hfiles key) dist.path
  obtain ⟨identity, hidentity, hstated⟩ := hfields.identityAt
  exact {
    named := h.named
    regular := by
      intro key _
      obtain ⟨i, hentry, -⟩ := file_of_content (h.content key)
      exact isRegular_iff.mpr ⟨i, hentry⟩
    manifest := h.manifest
    tools := ⟨tools, hfields.toolsAt, h.validTools⟩
    identity := by
      refine ⟨identity, hidentity, fun expected hexpected => ?_⟩
      have hfield := hstated expected hexpected
      exact ⟨expected.2, hfield, Value.equals_self _ (plain_field hok.plain hfield)⟩
    archiveRead := read_of_content (h.content .archive)
    artifact := by
      refine ⟨_, _, hfields.artifactAt, ?_, rfl, rfl, (Value.int_equals_int _ _).mpr rfl⟩
      rw [hname, ← Built.fileName_eq (hfiles _)]
      rfl
    archiveSidecar := by
      have hsidecar := h.content .archiveSha256
      rw [Built.file, Built.fileName_eq (hfiles _)] at hsidecar
      exact sidecarHolds (hname .archive) hok.noReturn (h.content .archive) hsidecar
    manifestSidecar := by
      have hsidecar := h.content .manifestSha256
      rw [Built.file, Built.fileName_eq (hfiles _)] at hsidecar
      exact sidecarHolds (hname .manifest) (hok.noReturn_manifest h.named)
        (h.content .manifest) hsidecar
    members := ⟨⟨_, hfields.membersAt, Value.equals_self _ (hok.plain.get? hfields.membersAt)⟩,
      h.listed⟩
    gates := h.gated }

end Acceptance

/-- Three written quartets with the same source record and dependencies, and nothing else. -/
structure WrittenSet (lib : Library) (dist : Dist) (authority : Authority) (version : String)
    (source : Table) (dependencies : Value) (target : String → Target) (tools : String → Value)
    (built : String → Built) : Prop where
  targets : ∀ targetId ∈ targetIds, authority.targets.lookup targetId = some (target targetId)
  directory : dist.fs.isDirectory dist.path = true
  files : ∀ p, p ∈ dist.entries ↔
    ∃ targetId ∈ targetIds, ∃ key, p = dist.quartetPath (built targetId).names key
  written : ∀ targetId ∈ targetIds, Written lib dist authority.release source (target targetId)
    version dependencies (tools targetId) (built targetId)

/-- The quartets of a set. -/
def quartetsOf (target : String → Target) (built : String → Built) (targetId : String) : Quartet :=
  ⟨target targetId, (built targetId).names, (built targetId).archive, (built targetId).value⟩

section Sets
variable {lib : Library} {dist : Dist} {authority : Authority} {version commit : String}
  {source : Table} {dependencies : Value} {target : String → Target} {tools : String → Value}
  {built : String → Built}

theorem first_mem_targetIds : "linux-x86_64" ∈ targetIds := by
  simp [targetIds]

theorem targetIds_cases {targetId : String} (h : targetId ∈ targetIds) :
    targetId = "linux-x86_64" ∨ targetId = "linux-aarch64" ∨ targetId = "macos-arm64" := by
  simpa [targetIds] using h

/-- The manifests of the set have the same compared fields. -/
theorem WrittenSet.agree
    (h : WrittenSet lib dist authority version source dependencies target tools built)
    (hplain : ∀ targetId ∈ targetIds, (built targetId).value.Plain) :
    ∀ components ∈ compared, FieldAgrees (manifestsOf (quartetsOf target built)) components := by
  intro components hcomponents
  have hfirst := (h.written "linux-x86_64" first_mem_targetIds).value
  obtain ⟨v, hv, -⟩ := manifests_agree hfirst hfirst components hcomponents
  refine ⟨v, ⟨_, rfl, hv⟩, fun m hm => ?_⟩
  obtain ⟨targetId, hid, rfl⟩ := List.mem_map.mp hm
  obtain ⟨w, hw, hfield⟩ :=
    manifests_agree hfirst (h.written targetId hid).value components hcomponents
  obtain rfl : w = v := Except.ok.inj (hw.symm.trans hv)
  exact ⟨w, hfield, Value.equals_self w (plain_field (hplain targetId hid) hfield)⟩

theorem WrittenSet.first
    (h : WrittenSet lib dist authority version source dependencies target tools built)
    (hplain : ∀ targetId ∈ targetIds, (built targetId).value.Plain)
    (hcommit : source.lookup "commit" = some (.str commit)) :
    FirstAgrees authority commit (manifestsOf (quartetsOf target built)) := by
  have hfields := manifestFields (h.written "linux-x86_64" first_mem_targetIds).value
  obtain ⟨revision, hrevision, hrevisionAt⟩ := hfields.revisionAt
  obtain ⟨found, hfound, hcommitAt⟩ := hfields.commitAt
  obtain rfl := Option.some.inj (hfound.symm.trans hcommit)
  exact ⟨_, revision, revision, rfl, hcommitAt, hrevisionAt, hrevision,
    Value.equals_self _ (plain_field (hplain _ first_mem_targetIds) hrevisionAt)⟩

theorem WrittenSet.completeSet
    (h : WrittenSet lib dist authority version source dependencies target tools built)
    (hok : ∀ targetId ∈ targetIds, Acceptable lib (built targetId))
    (hcommit : source.lookup "commit" = some (.str commit)) (hhex : isHex 40 commit = true) :
    CompleteSet lib dist authority version commit (quartetsOf target built) where
  commitHex := hhex
  directory := h.directory
  targets := h.targets
  files := h.files
  fileNames := fun targetId hid => (hok targetId hid).fileNames (h.written targetId hid).named
  archiveName := fun targetId hid => (hok targetId hid).archiveName
  checked := fun targetId hid => (h.written targetId hid).checked (hok targetId hid)
  agree := h.agree fun targetId hid => (hok targetId hid).plain
  first := h.first (fun targetId hid => (hok targetId hid).plain) hcommit

theorem WrittenSet.accepted {data : Table} (hload : load data = .ok authority)
    (h : WrittenSet lib dist authority version source dependencies target tools built)
    (hok : ∀ targetId ∈ targetIds, Acceptable lib (built targetId))
    (hcommit : source.lookup "commit" = some (.str commit)) (hhex : isHex 40 commit = true) :
    validate lib dist authority version commit =
      .ok (targetIds.map fun targetId => (targetId, (built targetId).value)) :=
  (h.completeSet hok hcommit hhex).accepted (load_indexed hload).1

end Sets

/-- The builder completed for the three targets, with the same source record and dependencies. -/
structure RailRun (lib : Library) (rail : Rail) (authority : Authority) (version : String)
    (source : Table) (dependencies : Value) (target : String → Target) (tools : String → Value)
    (stage : String → Tree) (built : String → Built) : Prop where
  targets : ∀ targetId ∈ targetIds, authority.targets.lookup targetId = some (target targetId)
  completed : ∀ targetId ∈ targetIds, builder lib rail authority (target targetId) version source
    dependencies (tools targetId) (stage targetId) = .ok (built targetId)

theorem RailRun.writtenSet {lib : Library} {rail : Rail} {dist : Dist} {authority : Authority}
    {version : String} {source : Table} {dependencies : Value} {target : String → Target}
    {tools : String → Value} {stage : String → Tree} {built : String → Built}
    (hdoc : Documented lib rail)
    (h : RailRun lib rail authority version source dependencies target tools stage built)
    (hdist : HoldsPromoted dist built)
    (hok : ∀ targetId ∈ targetIds, Acceptable lib (built targetId)) :
    WrittenSet lib dist authority version source dependencies target tools built where
  targets := h.targets
  directory := hdist.directory
  files := hdist.files
  written := fun targetId hid => (builder_ok (h.completed targetId hid)).promoted hdoc
    (hok targetId hid) (hdist.content targetId hid)

/-- What the rail builds the validator accepts. -/
theorem built_set_accepted {lib : Library} {rail : Rail} {dist : Dist} {data : Table}
    {authority : Authority} {version commit : String} {source : Table} {dependencies : Value}
    {target : String → Target} {tools : String → Value} {stage : String → Tree}
    {built : String → Built} (hload : load data = .ok authority) (hdoc : Documented lib rail)
    (h : RailRun lib rail authority version source dependencies target tools stage built)
    (hdist : HoldsPromoted dist built)
    (hok : ∀ targetId ∈ targetIds, Acceptable lib (built targetId))
    (hcommit : source.lookup "commit" = some (.str commit)) (hhex : isHex 40 commit = true) :
    validate lib dist authority version commit =
      .ok (targetIds.map fun targetId => (targetId, (built targetId).value)) := by
  have hset := h.writtenSet hdoc hdist hok
  exact hset.accepted hload hok hcommit hhex

section Sample

def sampleRelease : Table :=
  [("sol_revision", .int 8),
    ("upstream_base_commit", .str "73efa3ac1bec28ed7d7f0c0811a6c993e722dbd4"),
    ("ca_snapshot_date", .str "2026-07-16"),
    ("ca_bundle_url", .str "https://curl.se/ca/cacert-2026-07-16.pem"),
    ("ca_bundle_sha256", .str "3ff344e30b9b1ed2971044eabb438a08f2e2245ddb5f8ab1a3ad8b63ab4eaf91"),
    ("archive_xz_preset", .int 6),
    ("archive_xz_threads", .int 1)]

def sampleImage : Value :=
  .str "manylinux@sha256:a61875a2f84cab7df8de222ff12cabc08ff86eb4ad402ac90ba7bdaed9600cca"

/-- The table of a target, by what is not the same for all. -/
def sampleTable (id os machine platform format arch link : String) (image : Value)
    (gates : List Value) (floor policy : Table) : Table :=
  [("id", .str id),
    ("host_os", .str os),
    ("host_machines", .list [.str machine]),
    ("build_image", image),
    ("gate_images", .list gates),
    ("container_platform", .str platform),
    ("archive_name", .str "libnvat-{target}-{version}-archive.tar.xz"),
    ("binary_format", .str format),
    ("expected_arch", .str arch),
    ("abi_kind", .str "sample"),
    ("abi_floor", .dict floor),
    ("runtime_allowlist", .str ("sol/release/allowlists/" ++ id ++ ".txt")),
    ("members", .list [.dict [("path", .str "LICENSE"), ("kind", .str "regular")],
      .dict [("path", .str "COPYING"), ("kind", .str "symlink"), ("link_target", .str link)]]),
    ("directory_counts", .dict [(".", .int 2)]),
    ("required_tools", .list (["c++", "cmake", "rustc", "cargo", "tar", "xz", "python3"].map .str))]
    ++ policy

def linuxTable (id machine platform arch link : String) : Table :=
  sampleTable id "Linux" machine platform "elf64-le" arch link sampleImage [sampleImage, sampleImage]
    [("glibc", .str "2.28")] [("elf_runpath", .str "$ORIGIN/../lib")]

def sampleTables (link : String) : List (String × Table) :=
  [("linux-x86_64", linuxTable "linux-x86_64" "x86_64" "linux/amd64" "EM_X86_64" link),
    ("linux-aarch64", linuxTable "linux-aarch64" "aarch64" "linux/arm64" "EM_AARCH64" link),
    ("macos-arm64", sampleTable "macos-arm64" "Darwin" "arm64" "none" "macho64-le" "CPU_TYPE_ARM64"
      link (.str "none") [] [("macos", .str "14.0")]
      [("macho_install_id", .str "@rpath/libnvat.1.dylib"),
        ("macho_rpath", .str "@executable_path/../lib")])]

def sampleData (link : String) : Table :=
  [("release", .dict sampleRelease),
    ("targets", .list ((sampleTables link).map fun entry => .dict entry.2))]

def sampleTarget (link : String) (entry : String × Table) : Target :=
  ⟨entry.1, [⟨"LICENSE", none⟩, ⟨"COPYING", some (.str link)⟩],
    ["c++", "cmake", "rustc", "cargo", "tar", "xz", "python3"], entry.2⟩

def sampleAuthority (link : String) : Authority :=
  ⟨sampleRelease, (sampleTables link).map fun entry => (entry.1, sampleTarget link entry)⟩

def sampleTargetOf (link targetId : String) : Target :=
  ((sampleAuthority link).targets.lookup targetId).getD ⟨targetId, [], [], []⟩

def sampleVersion : String := "1.2.2-sol.8"

def sampleCommit : String := "0123456789abcdef0123456789abcdef01234567"

def sampleSource : Table :=
  [("commit", .str sampleCommit),
    ("upstream_base_commit", .str "73efa3ac1bec28ed7d7f0c0811a6c993e722dbd4"),
    ("sol_series_commits",
      .list [.dict [("commit", .str sampleCommit), ("subject", .str "release: sol 8")]]),
    ("source_date_epoch", .int 0)]

def sampleDependencies : Value := .list []

def toolEvidence (name version : String) : Value :=
  .dict [("name", .str name), ("version", .str version)]

def sampleEvidence (targetId : String) : String × Value :=
  if targetId = "macos-arm64" then
    ("apple_toolchain", .dict [("apple_clang", toolEvidence "Apple clang" "15.0.0"),
      ("xcode", .dict [("version", .str "15.4"), ("build", .str "15F31d")]),
      ("sdk", .dict [("name", .str "macosx"), ("version", .str "14.5"), ("path", .str "/sdk")]),
      ("architecture", .str "arm64"), ("deployment_target", .str "14.0")])
  else
    ("container_runtime", .dict [("client", toolEvidence "Docker Engine" "26.1.4"),
      ("engine", .dict [("name", .str "Docker Engine"), ("version", .str "26.1.4"),
        ("os", .str "linux"),
        ("architecture", .str (if targetId = "linux-x86_64" then "amd64" else "arm64"))])])

def sampleTools (targetId : String) : Value :=
  .dict (buildToolKeys.map (fun key => (key, toolEvidence key "1.0")) ++ [sampleEvidence targetId])

def sampleArchiveName (targetId : String) : String :=
  "libnvat-" ++ targetId ++ "-" ++ sampleVersion ++ "-archive.tar.xz"

def sampleManifest (link : String) (archive : Bytes) (targetId : String) : Value :=
  (manifestValue sampleRelease (sampleTargetOf link targetId) sampleVersion sampleSource
    ⟨sampleArchiveName targetId, archive.length, sha256 archive⟩ sampleDependencies
    (sampleTools targetId)).getD .none

/-- An archive of LICENSE and a link to it. -/
def plainArchive : Bytes :=
  [253, 55, 122, 88, 90, 0, 0, 4, 230, 214, 180, 70, 2, 0, 33, 1, 22, 0, 0, 0, 116, 47, 229, 163,
    224, 39, 255, 0, 119, 93, 0, 38, 18, 68, 107, 255, 188, 253, 156, 201, 12, 127, 111, 196,
    118, 245, 224, 206, 11, 48, 228, 167, 252, 28, 190, 179, 167, 95, 203, 186, 42, 118, 24, 2,
    207, 10, 229, 176, 204, 31, 96, 229, 228, 121, 92, 110, 110, 75, 148, 65, 125, 134, 152, 104,
    194, 52, 134, 33, 142, 112, 147, 117, 181, 98, 157, 6, 239, 115, 135, 148, 49, 101, 125, 69,
    51, 0, 198, 38, 229, 142, 196, 202, 118, 33, 62, 175, 190, 102, 35, 196, 206, 188, 171, 86,
    229, 49, 95, 144, 25, 155, 53, 125, 23, 143, 254, 242, 89, 112, 69, 180, 102, 128, 95, 174,
    220, 118, 232, 239, 50, 192, 0, 0, 139, 92, 170, 95, 37, 246, 115, 85, 0, 1, 147, 1, 128, 80,
    0, 0, 11, 1, 34, 228, 177, 196, 103, 251, 2, 0, 0, 0, 0, 4, 89, 90]

/-- An archive with an absolute link. -/
def absoluteArchive : Bytes :=
  [253, 55, 122, 88, 90, 0, 0, 4, 230, 214, 180, 70, 2, 0, 33, 1, 22, 0, 0, 0, 116, 47, 229, 163,
    224, 39, 255, 0, 120, 93, 0, 38, 18, 68, 107, 255, 188, 253, 156, 201, 12, 127, 111, 196,
    118, 245, 224, 206, 11, 48, 228, 167, 252, 28, 190, 179, 167, 95, 203, 186, 42, 118, 24, 2,
    207, 10, 229, 176, 204, 31, 96, 229, 228, 121, 92, 110, 110, 75, 148, 65, 125, 134, 152, 104,
    194, 52, 134, 33, 142, 112, 147, 117, 181, 98, 157, 6, 239, 115, 135, 148, 49, 82, 122, 122,
    174, 35, 254, 68, 45, 201, 183, 39, 217, 120, 217, 198, 121, 211, 233, 58, 92, 59, 61, 174,
    45, 26, 8, 85, 140, 217, 97, 194, 230, 98, 86, 235, 6, 231, 35, 3, 194, 143, 253, 154, 198,
    162, 244, 145, 25, 85, 64, 0, 9, 112, 37, 250, 152, 193, 249, 198, 0, 1, 148, 1, 128, 80, 0,
    0, 179, 49, 39, 249, 177, 196, 103, 251, 2, 0, 0, 0, 0, 4, 89, 90]

/-- An archive of a directory and a link to it. -/
def directoryArchive : Bytes :=
  [253, 55, 122, 88, 90, 0, 0, 4, 230, 214, 180, 70, 2, 0, 33, 1, 22, 0, 0, 0, 116, 47, 229, 163,
    224, 39, 255, 0, 108, 93, 0, 38, 18, 68, 107, 255, 188, 253, 157, 139, 198, 143, 67, 252, 71,
    46, 155, 73, 63, 57, 236, 211, 165, 59, 169, 58, 66, 147, 107, 105, 19, 83, 128, 63, 215,
    158, 100, 216, 210, 110, 30, 250, 51, 22, 216, 103, 83, 20, 218, 20, 121, 247, 219, 220, 207,
    127, 130, 159, 141, 19, 137, 228, 88, 234, 6, 176, 195, 64, 49, 170, 238, 83, 38, 205, 232,
    177, 18, 106, 105, 158, 220, 229, 68, 160, 174, 143, 13, 107, 230, 2, 254, 242, 195, 149, 2,
    10, 151, 151, 96, 117, 93, 95, 174, 226, 32, 195, 93, 79, 0, 0, 103, 39, 195, 173, 156, 115,
    14, 14, 0, 1, 136, 1, 128, 80, 0, 0, 83, 243, 51, 141, 177, 196, 103, 251, 2, 0, 0, 0, 0, 4,
    89, 90]

def sampleStage (link : String) : Tree where
  node := fun path =>
    [("LICENSE", Node.file), ("COPYING", Node.symlink link)].lookup path
  read := fun path =>
    if path = "LICENSE" ∨ (path = "COPYING" ∧ link = "LICENSE") then some (encodeText "MIT\n") else none
  count := fun path => if path = "." then some 2 else none

/-- The link targets of the archives that `tar` makes. -/
def sampleArchives : List (String × Bytes) :=
  [("LICENSE", plainArchive), ("/LICENSE", absoluteArchive)]

def sampleEntries (license : EntryType) (link : String) : List TarInfo :=
  [⟨"LICENSE", license, ""⟩, ⟨"COPYING", .symlink, link⟩]

def sampleLibrary (link : String) (archive : Bytes) : Library where
  loads := fun text =>
    (targetIds.map (sampleManifest link archive)).find? fun v => jsonText v ++ "\n" = text
  format := fun template target version =>
    if template = "libnvat-{target}-{version}-archive.tar.xz" then
      some ("libnvat-" ++ target ++ "-" ++ version ++ "-archive.tar.xz")
    else none
  getMembers := fun bytes =>
    if bytes = plainArchive then some (sampleEntries .regular "LICENSE")
    else if bytes = absoluteArchive then some (sampleEntries .regular "/LICENSE")
    else if bytes = directoryArchive then some (sampleEntries .directory "LICENSE")
    else none
  extractAll := fun bytes =>
    if bytes = plainArchive then some (sampleStage "LICENSE").read
    else if bytes = directoryArchive then some fun _ => none
    else none
  readAllowlist := fun _ => some []
  gateFile := fun _ _ _ => false

open Classical in
noncomputable def sampleRail (link : String) (archive : Bytes) : Rail where
  tarXz := fun call stage =>
    match stage.node "LICENSE", stage.node "COPYING" with
    | some .file, some (.symlink target) =>
      if call.members = ["LICENSE", "COPYING"] then sampleArchives.lookup target else none
    | _, _ => none
  untar := fun _ bytes =>
    if bytes = plainArchive then some (sampleStage "LICENSE")
    else if bytes = absoluteArchive then some (sampleStage "/LICENSE")
    else none
  dumps := fun v =>
    if v ∈ targetIds.map (sampleManifest link archive) then some (jsonText v) else none
  gateBuildRoots := fun _ _ => true
  runtimeGates := fun _ _ => true

def sampleBuilt (link : String) (archive : Bytes) (targetId : String) : Built :=
  ⟨Transaction.quartetNames (sampleArchiveName targetId), archive,
    sampleManifest link archive targetId,
    encodeText (jsonText (sampleManifest link archive targetId) ++ "\n")⟩

section Directory

def sampleDist : PurePath := ⟨"", ["dist"]⟩

theorem holding_fresh (files : List (PurePath × Bytes)) (p : PurePath) (i : Nat)
    (h : (if p = sampleDist then some .directory
      else if p ∈ keys files then some (.file ((keys files).idxOf p)) else none :
        Option (Entry PurePath)) = some (.file i)) : i < files.length := by
  split_ifs at h with hdir hmem
  · cases h
  · obtain rfl := Entry.file.inj (Option.some.inj h)
    rw [← length_keys files]
    exact List.idxOf_lt_length_of_mem hmem

/-- A directory of these files. -/
def holding (files : List (PurePath × Bytes)) : Files where
  names := fun p => if p = sampleDist then some .directory
    else if p ∈ keys files then some (.file ((keys files).idxOf p)) else none
  data := fun i => (files.map Prod.snd).getD i []
  next := files.length
  fresh := holding_fresh files

variable {files : List (PurePath × Bytes)}

/-- Files of the sample directory. -/
def InDist (files : List (PurePath × Bytes)) : Prop :=
  ∀ p ∈ keys files, ∃ name, isFileName name = true ∧ p = sampleDist.join name

theorem InDist.ne (h : InDist files) {p : PurePath} (hp : p ∈ keys files) : p ≠ sampleDist := by
  obtain ⟨name, hname, rfl⟩ := h p hp
  rw [join_fileName hname, sampleDist]
  simp

theorem InDist.mem_entries (h : InDist files) (p : PurePath) : p ∈ keys files ↔
    p.parent = sampleDist ∧ p ≠ sampleDist ∧ ((holding files).names p).isSome = true := by
  constructor
  · intro hp
    obtain ⟨name, hname, hjoin⟩ := h p hp
    refine ⟨?_, h.ne hp, ?_⟩
    · rw [hjoin, join_fileName hname, PurePath.parent, List.dropLast_concat]
    · simp [holding, h.ne hp, hp]
  · rintro ⟨-, hne, hsome⟩
    by_contra hnot
    simp [holding, hne, hnot] at hsome

theorem InDist.fileNames (h : InDist files) : ∀ p ∈ keys files, isFileName p.name = true := by
  intro p hp
  obtain ⟨name, hname, rfl⟩ := h p hp
  rw [name_join hname]
  exact hname

def distOf (files : List (PurePath × Bytes)) (hin : InDist files) (hnodup : Distinct files) :
    Dist where
  fs := holding files
  path := sampleDist
  entries := keys files
  nodup := hnodup
  mem_entries := hin.mem_entries
  fileNames := hin.fileNames

theorem holding_content (hin : InDist files) (hnodup : Distinct files) {p : PurePath}
    {bytes : Bytes} (h : (p, bytes) ∈ files) : (holding files).content p = some (.file bytes) := by
  obtain ⟨k, hk, hfile⟩ := List.mem_iff_getElem.mp h
  have hlt : k < (keys files).length := (length_keys files).symm ▸ hk
  have hp : (keys files)[k] = p := by simp [keys, hfile]
  have hidx : (keys files).idxOf p = k := by
    rw [← hp]
    exact hnodup.idxOf_getElem k hlt
  have hmem : p ∈ keys files := mem_keys_of_mem h
  rw [FileSystem.content, holding]
  simp [hin.ne hmem, hmem, hidx, view, List.getD_eq_getElem?_getD, hk, hfile]

end Directory

def sampleFiles (built : String → Built) : List (PurePath × Bytes) :=
  targetIds.flatMap fun targetId => quartetOrder.map fun key =>
    (sampleDist.join (nameOf (built targetId).names key), (built targetId).file key)

variable {link : String} {archive : Bytes}

theorem sample_archiveName : ∀ targetId ∈ targetIds,
    '/' ∉ (sampleArchiveName targetId).toList ∧ '\r' ∉ (sampleArchiveName targetId).toList ∧
      sampleArchiveName targetId ∉ ["", ".", ".."] ∧
      isManifestName (sampleArchiveName targetId) = false := by
  decide +kernel

theorem sample_targets (link : String) : ∀ targetId ∈ targetIds,
    (sampleAuthority link).targets.lookup targetId = some (sampleTargetOf link targetId) := by
  intro targetId hid
  obtain rfl | rfl | rfl := targetIds_cases hid <;> rfl

theorem sample_named (link : String) (archive : Bytes) : ∀ targetId ∈ targetIds,
    (sampleTargetOf link targetId).quartetNames (sampleLibrary link archive) sampleVersion =
      .ok (sampleBuilt link archive targetId).names := by
  intro targetId hid
  obtain rfl | rfl | rfl := targetIds_cases hid <;> rfl

theorem sample_plain (link : String) (archive : Bytes) : ∀ targetId ∈ targetIds,
    (sampleManifest link archive targetId).Plain := by
  intro targetId hid
  obtain rfl | rfl | rfl := targetIds_cases hid <;>
    simp [sampleManifest, manifestValue, sampleTargetOf, sampleAuthority, sampleTables, linuxTable,
      sampleTable, sampleTarget, sampleRelease, sampleSource, sampleDependencies, sampleTools,
      buildToolKeys, toolEvidence, sampleEvidence, sampleImage, Target.get?, Member.toValue,
      Member.kind, List.lookup_cons, Value.Plain, Value.PlainItems, Value.PlainMembers, Distinct,
      keys]

theorem sample_acceptable (hextracts : ((sampleLibrary link archive).extractAll archive).isSome) :
    ∀ targetId ∈ targetIds,
      Acceptable (sampleLibrary link archive) (sampleBuilt link archive targetId) := by
  intro targetId hid
  obtain ⟨hslash, hreturn, hdots, harchive⟩ := sample_archiveName targetId hid
  exact ⟨sample_plain link archive targetId hid, hslash, hreturn, hdots, harchive, hextracts⟩

def sampleFileNames : List String :=
  targetIds.flatMap fun targetId => quartetOrder.map fun key =>
    nameOf (Transaction.quartetNames (sampleArchiveName targetId)) key

theorem sampleFileNames_nodup : sampleFileNames.Nodup := by
  decide +kernel

theorem sample_fileName {targetId : String} (hid : targetId ∈ targetIds) (key : Key) :
    isFileName (nameOf (Transaction.quartetNames (sampleArchiveName targetId)) key) = true := by
  have hextracts : ((sampleLibrary "LICENSE" plainArchive).extractAll plainArchive).isSome := by
    simp [sampleLibrary]
  exact (sample_acceptable hextracts targetId hid).fileNames
    (sample_named "LICENSE" plainArchive targetId hid) key

theorem sample_builtName (link : String) (archive : Bytes) {targetId : String}
    (hid : targetId ∈ targetIds) :
    (sampleBuilt link archive targetId).fileName .archive = sampleArchiveName targetId :=
  Built.fileName_eq (sample_fileName hid .archive)

theorem isFileName_of_mem {name : String} (h : name ∈ sampleFileNames) :
    isFileName name = true := by
  obtain ⟨targetId, hid, h⟩ := List.mem_flatMap.mp h
  obtain ⟨key, -, rfl⟩ := List.mem_map.mp h
  exact sample_fileName hid key

theorem keys_sampleFiles (link : String) (archive : Bytes) :
    keys (sampleFiles (sampleBuilt link archive)) = sampleFileNames.map sampleDist.join := by
  simp only [keys, sampleFiles, sampleFileNames, List.map_flatMap, List.map_map]
  rfl

theorem sample_inDist (link : String) (archive : Bytes) :
    InDist (sampleFiles (sampleBuilt link archive)) := by
  rw [InDist, keys_sampleFiles]
  intro p hp
  obtain ⟨name, hname, rfl⟩ := List.mem_map.mp hp
  exact ⟨name, isFileName_of_mem hname, rfl⟩

theorem sampleFiles_distinct (link : String) (archive : Bytes) :
    Distinct (sampleFiles (sampleBuilt link archive)) := by
  rw [Distinct, keys_sampleFiles]
  refine sampleFileNames_nodup.map_on fun a ha b hb heq => ?_
  have hname := congrArg PurePath.name heq
  rwa [name_join (isFileName_of_mem ha), name_join (isFileName_of_mem hb)] at hname

def sampleDirectory (link : String) (archive : Bytes) : Dist :=
  distOf (sampleFiles (sampleBuilt link archive)) (sample_inDist link archive)
    (sampleFiles_distinct link archive)

theorem sample_holdsPromoted (link : String) (archive : Bytes) :
    HoldsPromoted (sampleDirectory link archive) (sampleBuilt link archive) where
  directory := by rfl
  files := by
    intro p
    change p ∈ keys (sampleFiles (sampleBuilt link archive)) ↔ _
    rw [keys, sampleFiles, List.map_flatMap, List.mem_flatMap]
    constructor
    · rintro ⟨targetId, hid, hp⟩
      rw [List.map_map] at hp
      obtain ⟨key, -, rfl⟩ := List.mem_map.mp hp
      exact ⟨targetId, hid, key, rfl⟩
    · rintro ⟨targetId, hid, key, rfl⟩
      refine ⟨targetId, hid, ?_⟩
      rw [List.map_map]
      exact List.mem_map.mpr ⟨key, key_mem_quartetOrder key, rfl⟩
  content := by
    intro targetId hid key
    refine holding_content (sample_inDist link archive) (sampleFiles_distinct link archive) ?_
    exact List.mem_flatMap.mpr ⟨targetId, hid,
      List.mem_map.mpr ⟨key, key_mem_quartetOrder key, rfl⟩⟩

theorem sample_load (h : link = "LICENSE" ∨ link = "/LICENSE") :
    load (sampleData link) = .ok (sampleAuthority link) := by
  obtain rfl | rfl := h
  · with_unfolding_all rfl
  · with_unfolding_all rfl

/-- The archives of the sample, with the link target of the authority they go with. -/
def sampleCases : List (String × Bytes) := ("LICENSE", directoryArchive) :: sampleArchives

theorem sample_texts (h : (link, archive) ∈ sampleCases) :
    (targetIds.map fun targetId => render 0 (sampleManifest link archive targetId)).Nodup := by
  simp only [sampleCases, sampleArchives, List.mem_cons, Prod.mk.injEq, List.not_mem_nil,
    or_false] at h
  obtain ⟨rfl, rfl⟩ | ⟨rfl, rfl⟩ | ⟨rfl, rfl⟩ := h
  · decide +kernel
  · decide +kernel
  · decide +kernel

theorem find?_of_unique {α : Type} {l : List α} {p : α → Bool} {a : α} (hmem : a ∈ l)
    (ha : p a = true) (hunique : ∀ x ∈ l, p x = true → x = a) : l.find? p = some a := by
  cases hfound : l.find? p with
  | none => exact absurd ha (List.find?_eq_none.mp hfound a hmem)
  | some x =>
    rw [hunique x (List.mem_of_find?_eq_some hfound) (List.find?_some hfound)]

/-- The text of a manifest is read back. -/
theorem sample_loads (h : (link, archive) ∈ sampleCases) {targetId : String}
    (hid : targetId ∈ targetIds) :
    (sampleLibrary link archive).loads (jsonText (sampleManifest link archive targetId) ++ "\n") =
      some (sampleManifest link archive targetId) := by
  simp only [sampleLibrary]
  refine find?_of_unique (List.mem_map_of_mem hid) (by simp) fun v hv htext => ?_
  obtain ⟨targetId', hid', rfl⟩ := List.mem_map.mp hv
  have hrender : render 0 (sampleManifest link archive targetId') =
      render 0 (sampleManifest link archive targetId) := by
    have hlist := congrArg String.toList (of_decide_eq_true htext)
    rw [String.toList_append, String.toList_append] at hlist
    have hfront := List.append_cancel_right hlist
    rwa [jsonText, jsonText, String.toList_ofList, String.toList_ofList] at hfront
  rw [List.inj_on_of_nodup_map (sample_texts h) hid' hid hrender]

theorem sample_manifest (link : String) (archive : Bytes) {targetId : String}
    (hid : targetId ∈ targetIds) :
    manifestValue sampleRelease (sampleTargetOf link targetId) sampleVersion sampleSource
      ⟨sampleArchiveName targetId, archive.length, sha256 archive⟩ sampleDependencies
      (sampleTools targetId) = some (sampleManifest link archive targetId) := by
  obtain rfl | rfl | rfl := targetIds_cases hid <;> rfl

theorem ok_of_isOk {ε : Type} {x : Except ε Unit} (h : x.isOk = true) : x = .ok () := by
  cases x with
  | ok u => rfl
  | error e => cases h

theorem sample_tools (h : link = "LICENSE" ∨ link = "/LICENSE") : ∀ targetId ∈ targetIds,
    validateBuildTools (sampleTargetOf link targetId) (sampleTools targetId) = .ok () := by
  intro targetId hid
  refine ok_of_isOk ?_
  revert targetId
  obtain rfl | rfl := h
  · decide +kernel
  · decide +kernel

theorem archives_ne : absoluteArchive ≠ plainArchive ∧ directoryArchive ≠ plainArchive ∧
    directoryArchive ≠ absoluteArchive := by
  decide

theorem sample_documented (h : (link, archive) ∈ sampleCases) :
    Documented (sampleLibrary link archive) (sampleRail link archive) where
  jsonText := by
    intro v text hdumps
    simp only [sampleRail] at hdumps
    split_ifs at hdumps
    obtain rfl := Option.some.inj hdumps
    exact noReturn_jsonText v
  jsonRoundTrip := by
    intro v text _ hdumps
    simp only [sampleRail] at hdumps
    split_ifs at hdumps with hmem
    obtain rfl := Option.some.inj hdumps
    obtain ⟨targetId, hid, rfl⟩ := List.mem_map.mp hmem
    exact sample_loads h hid
  listsMembers := by
    intro call stage made hmade
    simp only [sampleRail] at hmade
    split at hmade
    next target hlicense hcopying =>
      split_ifs at hmade with hmembers
      have hmem := KeyedList.mem_of_lookup hmade
      simp only [sampleArchives, List.mem_cons, Prod.mk.injEq, List.not_mem_nil, or_false] at hmem
      rw [hmembers]
      obtain ⟨rfl, rfl⟩ | ⟨rfl, rfl⟩ := hmem
      · simp [sampleLibrary, sampleEntries, Tree.entry, hlicense, hcopying]
      · simp [sampleLibrary, sampleEntries, Tree.entry, hlicense, hcopying, archives_ne]
    next => cases hmade
  extractsAlike := by
    intro tar made tree read htree hread
    simp only [sampleRail, sampleLibrary] at htree hread
    split_ifs at htree with hplain habsolute
    · rw [if_pos hplain] at hread
      rw [← Option.some.inj htree, ← Option.some.inj hread]
    · subst habsolute
      simp [archives_ne, archives_ne.2.2.symm] at hread

theorem sample_layout (link : String) : ∀ targetId ∈ targetIds,
    validateLayout (sampleStage link) (sampleTargetOf link targetId) = .ok () := by
  intro targetId hid
  have hself : (Value.str link).equals (.str link) = true := Value.str_equals_iff.mpr rfl
  obtain rfl | rfl | rfl := targetIds_cases hid <;>
    simp [validateLayout, sampleStage, sampleTargetOf, sampleAuthority, sampleTables, linuxTable,
      sampleTable, sampleTarget, checkMember, checkRail, orFail, List.lookup_cons, Target.get?, hself]

theorem sample_gates (link : String) (archive : Bytes) (tree : Tree) : ∀ targetId ∈ targetIds,
    gateBinaries (sampleLibrary link archive) tree (sampleTargetOf link targetId) = .ok () := by
  have hlicense : Member.isBinary ⟨"LICENSE", none⟩ = false := by decide
  have hcopying : Member.isBinary ⟨"COPYING", some (.str link)⟩ = false := by
    simp [Member.isBinary, Member.kind]
  intro targetId hid
  obtain rfl | rfl | rfl := targetIds_cases hid <;>
    simp [gateBinaries, sampleLibrary, sampleTargetOf, sampleAuthority, sampleTables, sampleTarget,
      List.lookup_cons, hlicense, hcopying, checkRail, orFail]

theorem sample_archives_cases (h : (link, archive) ∈ sampleArchives) :
    (link = "LICENSE" ∧ archive = plainArchive) ∨
      (link = "/LICENSE" ∧ archive = absoluteArchive) := by
  simpa [sampleArchives] using h

theorem sample_construct (h : (link, archive) ∈ sampleArchives) {targetId : String}
    (hid : targetId ∈ targetIds) (epoch : Value) :
    construct (sampleRail link archive) (sampleStage link) (sampleTargetOf link targetId)
      sampleRelease epoch = .ok archive := by
  have hmade : sampleArchives.lookup link = some archive := by
    obtain ⟨rfl, rfl⟩ | ⟨rfl, rfl⟩ := sample_archives_cases h
    · rfl
    · rfl
  obtain rfl | rfl | rfl := targetIds_cases hid <;>
    simp [construct, sampleRail, sampleStage, sampleTargetOf, sampleAuthority, sampleTables,
      sampleTarget, sampleRelease, List.lookup_cons, orFail, hmade]

theorem sample_untar (h : (link, archive) ∈ sampleArchives) (tar : String) :
    (sampleRail link archive).untar tar archive = some (sampleStage link) := by
  obtain ⟨rfl, rfl⟩ | ⟨rfl, rfl⟩ := sample_archives_cases h
  · simp [sampleRail]
  · simp [sampleRail, archives_ne]

theorem sample_link (h : (link, archive) ∈ sampleArchives) :
    link = "LICENSE" ∨ link = "/LICENSE" := by
  obtain ⟨rfl, rfl⟩ | ⟨rfl, rfl⟩ := sample_archives_cases h
  · exact .inl rfl
  · exact .inr rfl

theorem sample_built (h : (link, archive) ∈ sampleArchives) {targetId : String}
    (hid : targetId ∈ targetIds) :
    builder (sampleLibrary link archive) (sampleRail link archive) (sampleAuthority link)
      (sampleTargetOf link targetId) sampleVersion sampleSource sampleDependencies
      (sampleTools targetId) (sampleStage link) = .ok (sampleBuilt link archive targetId) := by
  have hname : (PurePath.parse (nameOf (sampleBuilt link archive targetId).names .archive)).name =
      sampleArchiveName targetId := sample_builtName link archive hid
  have hbuild : build sampleRelease (sampleTargetOf link targetId) sampleVersion sampleSource
      ⟨(PurePath.parse (nameOf (sampleBuilt link archive targetId).names .archive)).name,
        archive.length, sha256 archive⟩ sampleDependencies (sampleTools targetId) =
      .ok (sampleManifest link archive targetId) := by
    rw [hname, build, sample_tools (sample_link h) targetId hid, sample_manifest link archive hid]
    rfl
  have htar : (sampleTargetOf link targetId).requiredTools[4]? = some "tar" := by
    obtain rfl | rfl | rfl := targetIds_cases hid <;> rfl
  have hdumps : (sampleRail link archive).dumps (sampleManifest link archive targetId) =
      some (jsonText (sampleManifest link archive targetId)) :=
    if_pos (List.mem_map_of_mem hid)
  simp only [builder, bind_eq_ok, passing_iff, orFail_iff, checkRail_iff, pure_eq_ok,
    Except.ok.injEq]
  exact ⟨_, sample_named link archive targetId hid, (), sample_layout link targetId hid, (),
    sample_gates link archive _ targetId hid, (), rfl, .int 0, rfl, archive,
    sample_construct h hid _, "tar", htar, sampleStage link, sample_untar h "tar", (),
    sample_layout link targetId hid, (), sample_gates link archive _ targetId hid, (), rfl,
    _, hbuild, _, hdumps, (), rfl, rfl⟩

theorem sample_run (h : (link, archive) ∈ sampleArchives) :
    RailRun (sampleLibrary link archive) (sampleRail link archive) (sampleAuthority link)
      sampleVersion sampleSource sampleDependencies (sampleTargetOf link) sampleTools
      (fun _ => sampleStage link) (sampleBuilt link archive) where
  targets := sample_targets link
  completed := fun _ hid => sample_built h hid

theorem sample_commit : sampleSource.lookup "commit" = some (.str sampleCommit) := by
  rfl

theorem sample_hex : isHex 40 sampleCommit = true := by
  decide +kernel

theorem sample_extracts :
    ((sampleLibrary "LICENSE" plainArchive).extractAll plainArchive).isSome = true := by
  simp [sampleLibrary]

theorem plain_mem_sampleArchives : ("LICENSE", plainArchive) ∈ sampleArchives := by
  simp [sampleArchives]

theorem absolute_mem_sampleArchives : ("/LICENSE", absoluteArchive) ∈ sampleArchives := by
  simp [sampleArchives]

theorem sample_set_accepted :
    validate (sampleLibrary "LICENSE" plainArchive) (sampleDirectory "LICENSE" plainArchive)
      (sampleAuthority "LICENSE") sampleVersion sampleCommit =
        .ok (targetIds.map fun targetId =>
          (targetId, sampleManifest "LICENSE" plainArchive targetId)) :=
  built_set_accepted (sample_load (.inl rfl))
    (sample_documented (List.mem_cons_of_mem _ plain_mem_sampleArchives))
    (sample_run plain_mem_sampleArchives) (sample_holdsPromoted "LICENSE" plainArchive)
    (sample_acceptable sample_extracts) sample_commit sample_hex

/-- A set with an absolute link is built and not accepted. -/
theorem absolute_link_refused :
    load (sampleData "/LICENSE") = .ok (sampleAuthority "/LICENSE") ∧
      Documented (sampleLibrary "/LICENSE" absoluteArchive)
        (sampleRail "/LICENSE" absoluteArchive) ∧
      RailRun (sampleLibrary "/LICENSE" absoluteArchive) (sampleRail "/LICENSE" absoluteArchive)
        (sampleAuthority "/LICENSE") sampleVersion sampleSource sampleDependencies
        (sampleTargetOf "/LICENSE") sampleTools (fun _ => sampleStage "/LICENSE")
        (sampleBuilt "/LICENSE" absoluteArchive) ∧
      HoldsPromoted (sampleDirectory "/LICENSE" absoluteArchive)
        (sampleBuilt "/LICENSE" absoluteArchive) ∧
      sampleSource.lookup "commit" = some (.str sampleCommit) ∧
      ∀ manifests, validate (sampleLibrary "/LICENSE" absoluteArchive)
        (sampleDirectory "/LICENSE" absoluteArchive) (sampleAuthority "/LICENSE") sampleVersion
        sampleCommit ≠ .ok manifests := by
  have hdist := sample_holdsPromoted "/LICENSE" absoluteArchive
  refine ⟨sample_load (.inr rfl),
    sample_documented (List.mem_cons_of_mem _ absolute_mem_sampleArchives),
    sample_run absolute_mem_sampleArchives, hdist, sample_commit, fun manifests h => ?_⟩
  obtain ⟨quartets, byTarget, picked, hvalidated⟩ := validate_iff.mp h
  obtain ⟨target, names, archive, value, htarget, -, hchecked⟩ :=
    hvalidated.quartet first_mem_targetIds
  -- the names and the archive are those that were built
  obtain rfl := Option.some.inj
    (htarget.symm.trans (sample_targets "/LICENSE" "linux-x86_64" first_mem_targetIds))
  obtain rfl := Except.ok.inj (hchecked.named.symm.trans
    (sample_named "/LICENSE" absoluteArchive "linux-x86_64" first_mem_targetIds))
  have hbytes := read_of_content (hdist.content "linux-x86_64" first_mem_targetIds .archive)
  obtain rfl := Option.some.inj (hchecked.archiveRead.symm.trans hbytes)
  obtain ⟨_, extracted, -, hextracted, -⟩ := hchecked.gates
  simp [sampleLibrary, sampleBuilt, Built.file, archives_ne, archives_ne.2.2.symm] at hextracted

end Sample

end AttestationSdk.ReleaseSet
