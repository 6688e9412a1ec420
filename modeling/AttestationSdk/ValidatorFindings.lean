import AttestationSdk.SetValidator

/-! What `validate` and the functions it calls have found when they return. -/
namespace AttestationSdk.ReleaseSet
open PyValue Transaction LinkedFiles ExceptRules KeyedList
variable {lib : Library} {dist : Dist} {authority : Authority} {version : String}

theorem check_iff {cond : Bool} {e : SetValidationError} {u : Unit} :
    check cond e = .ok u ↔ cond = true := by
  cases cond <;> simp [check]

theorem orRaise_iff {α : Type} {e : Raised} {x : Option α} {a : α} :
    orRaise e x = .ok a ↔ x = some a := by
  cases x <;> simp [orRaise]

theorem index_iff {v w : Value} {key : String} : index v key = .ok w ↔ v.get? key = some w := by
  cases v <;> simp [index, orRaise_iff, Value.get?]

@[simp] theorem field_nil (v : Value) : field v [] = .ok v := by
  rw [field]

theorem field_cons_iff {v w : Value} {key : String} {rest : List String} :
    field v (key :: rest) = .ok w ↔ ∃ u, v.get? key = some u ∧ field u rest = .ok w := by
  rw [field, bind_eq_ok]
  simp only [index_iff]

/-- A field of a plain value is plain. -/
theorem plain_field {v w : Value} (h : v.Plain) {components : List String}
    (hw : field v components = .ok w) : w.Plain := by
  induction components generalizing v with
  | nil =>
    rw [field_nil] at hw
    exact Except.ok.inj hw ▸ h
  | cons key rest ih =>
    obtain ⟨u, hu, hw⟩ := field_cons_iff.mp hw
    exact ih (h.get? hu) hw

theorem readManifest_iff {path : PurePath} {value : Value} :
    readManifest lib dist path = .ok value ↔
      ∃ data text, dist.read path = some data ∧ decodeText data = some text ∧
        lib.loads text = some value := by
  simp only [readManifest, bind_eq_ok, orRaise_iff]
  constructor
  · rintro ⟨data, hdata, text, htext, hvalue⟩
    exact ⟨data, text, hdata, htext, hvalue⟩
  · rintro ⟨data, text, hdata, htext, hvalue⟩
    exact ⟨data, hdata, text, htext, hvalue⟩

theorem universalNewlines_cons {c : Char} (hc : c ≠ '\r') (rest : List Char) :
    universalNewlines (c :: rest) = c :: universalNewlines rest :=
  universalNewlines.eq_4 c rest (fun _ heq => absurd heq hc) hc

theorem universalNewlines_eq {cs : List Char} (h : '\r' ∉ cs) : universalNewlines cs = cs := by
  induction cs with
  | nil => rfl
  | cons c rest ih =>
    rw [List.mem_cons, not_or] at h
    have hc : c ≠ '\r' := fun heq => h.1 heq.symm
    rw [universalNewlines_cons hc, ih h.2]

/-- A text without carriage returns is read as it was written. -/
theorem decodeText_encodeText {s : String} (h : '\r' ∉ s.toList) :
    decodeText (encodeText s) = some s := by
  have hdecoded : String.fromUTF8? ⟨s.toUTF8.data.toList.toArray⟩ = some s := by
    rw [Array.toArray_toList, String.fromUTF8?]
    exact dif_pos s.isValidUTF8
  rw [decodeText, encodeText, hdecoded, Option.map_some, universalNewlines_eq h,
    String.ofList_toList]

/-- A sidecar holds the checksum line of its payload. -/
structure SidecarHolds (dist : Dist) (sidecar payload : PurePath) : Prop where
  holds : ∃ bytes data, dist.read payload = some bytes ∧ dist.read sidecar = some data ∧
    decodeText data = some (sidecarLine bytes payload.name)

theorem checkSidecar_iff {sidecar payload : PurePath} {targetId label : String} {u : Unit} :
    checkSidecar dist sidecar payload targetId label = .ok u ↔
      SidecarHolds dist sidecar payload := by
  simp only [checkSidecar, bind_eq_ok, orRaise_iff, check_iff, decide_eq_true_eq]
  constructor
  · rintro ⟨bytes, hbytes, data, hdata, text, htext, rfl⟩
    exact ⟨bytes, data, hbytes, hdata, htext⟩
  · rintro ⟨bytes, data, hbytes, hdata, htext⟩
    exact ⟨bytes, hbytes, data, hdata, _, htext, rfl⟩

/-- The manifest and the archive agree on the archive's name, hash and size. -/
structure ArtifactAgrees (value : Value) (name : String) (archive : Bytes) : Prop where
  agrees : ∃ artifact size, value.get? "artifact" = some artifact ∧
    artifact.get? "name" = some (.str name) ∧
    artifact.get? "sha256" = some (.str (sha256 archive)) ∧
    artifact.get? "size" = some size ∧ size.equals (.int archive.length) = true

theorem checkArtifact_iff {targetId : String} {value : Value} {path : PurePath} {archive : Bytes}
    {u : Unit} : checkArtifact targetId value path archive = .ok u ↔
      ArtifactAgrees value path.name archive := by
  simp only [checkArtifact, bind_eq_ok, index_iff, check_iff, Value.equals_str_iff]
  constructor
  · rintro ⟨artifact, hartifact, _, hname, _, rfl, _, hhash, _, rfl, size, hsize, hequal⟩
    exact ⟨artifact, size, hartifact, hname, hhash, hsize, hequal⟩
  · rintro ⟨artifact, size, hartifact, hname, hhash, hsize, hequal⟩
    exact ⟨artifact, hartifact, _, hname, (), rfl, _, hhash, (), rfl, size, hsize, hequal⟩

/-- What the comparison of the projections sees of an entry. -/
def Projects (member : Member) (entry : TarInfo) : Prop :=
  entry.name = member.path ∧ (entry.type = .symlink ↔ member.kind = .symlink) ∧
    (if entry.type = .symlink then .str entry.linkname else .none) = member.linkTarget.getD .none

theorem toValue_isSame (entry : TarInfo) (v : Value) : entry.toValue.isSame v = false := rfl

theorem toValue_equals_iff {member : Member} {entry : TarInfo} :
    entry.toValue.equals member.toValue = true ↔ Projects member entry := by
  have hkind : (Value.str (if entry.type = .symlink then "symlink" else "regular")).equals
      (.str member.kind.str) = true ↔ (entry.type = .symlink ↔ member.kind = .symlink) := by
    rw [Value.equals_str_iff, Value.str.injEq]
    by_cases hentry : entry.type = .symlink <;> cases member.kind <;>
      simp [hentry, MemberKind.str]
  have hlink : (if entry.type = .symlink then Value.str entry.linkname else .none).equals
      (member.linkTarget.getD .none) = true ↔
      (if entry.type = .symlink then .str entry.linkname else .none) =
        member.linkTarget.getD .none := by
    by_cases hentry : entry.type = .symlink
    · simp only [hentry, if_true, Value.str_equals_iff]
      exact eq_comm
    · simp only [hentry, if_false, Value.none_equals_iff]
      exact eq_comm
  have hpath : (Value.str entry.name).equals (.str member.path) = true ↔
      entry.name = member.path := by
    rw [Value.equals_str_iff, Value.str.injEq]
  have hsame : (if entry.type = .symlink then Value.str entry.linkname else .none).isSame
      (member.linkTarget.getD .none) = false := by
    by_cases hentry : entry.type = .symlink
    · rw [if_pos hentry, Value.str_isSame]
    · rw [if_neg hentry, Value.none_isSame]
  rw [TarInfo.toValue, Member.toValue, Projects, Value.dict_equals_dict, ← hkind, ← hlink, ← hpath]
  simp [Value.equalMembers, List.lookup_cons, hsame]

/-- The manifest and the archive list the members in order. -/
structure MembersListed (lib : Library) (target : Target) (value : Value) (archive : Bytes) :
    Prop where
  listed : ∃ members, value.get? "archive_members" = some members ∧
    members.equals (.list (target.members.map Member.toValue)) = true
  entries : ∃ entries, lib.getMembers archive = some entries ∧
    List.Forall₂ Projects target.members entries

theorem checkMembers_iff {target : Target} {value : Value} {archive : Bytes} {u : Unit} :
    checkMembers lib target value archive = .ok u ↔ MembersListed lib target value archive := by
  have hentries : ∀ entries : List TarInfo,
      (Value.list (entries.map TarInfo.toValue)).equals
        (.list (target.members.map Member.toValue)) = true ↔
      List.Forall₂ Projects target.members entries := by
    intro entries
    rw [Value.list_equals_list, Value.equalItems_iff, List.forall₂_map_left_iff,
      List.forall₂_map_right_iff]
    simp only [toValue_isSame, Bool.false_or, toValue_equals_iff]
    exact ⟨List.Forall₂.flip, List.Forall₂.flip⟩
  simp only [checkMembers, bind_eq_ok, index_iff, orRaise_iff, check_iff, hentries]
  constructor
  · rintro ⟨members, hmembers, _, hlisted, entries, hread, hprojects⟩
    exact ⟨⟨members, hmembers, hlisted⟩, ⟨entries, hread, hprojects⟩⟩
  · rintro ⟨⟨members, hmembers, hlisted⟩, ⟨entries, hread, hprojects⟩⟩
    exact ⟨members, hmembers, (), hlisted, entries, hread, hprojects⟩

/-- The extracted binaries pass the gate. -/
structure GatesPassed (lib : Library) (target : Target) (archive : Bytes) : Prop where
  passed : ∃ allowlist extracted, lib.readAllowlist target = some allowlist ∧
    lib.extractAll archive = some extracted ∧
    ∀ member ∈ target.members, member.isBinary = true →
      ∃ bytes, extracted member.path = some bytes ∧ lib.gateFile bytes target allowlist = true

theorem checkGates_iff {target : Target} {archive : Bytes} :
    checkGates lib target archive = .ok () ↔ GatesPassed lib target archive := by
  simp only [checkGates, bind_eq_ok, orRaise_iff, forM_eq_ok, check_iff]
  have hgate : ∀ {extracted : String → Option Bytes} {allowlist : List String} {member : Member},
      (!member.isBinary || (extracted member.path).any (lib.gateFile · target allowlist)) = true ↔
        (member.isBinary = true →
          ∃ bytes, extracted member.path = some bytes ∧
            lib.gateFile bytes target allowlist = true) := by
    intro extracted allowlist member
    cases member.isBinary <;> simp [Option.any_eq_true]
  simp only [hgate]
  constructor
  · rintro ⟨allowlist, hallow, extracted, hextracted, hgates⟩
    exact ⟨allowlist, extracted, hallow, hextracted, hgates⟩
  · rintro ⟨allowlist, extracted, hallow, hextracted, hgates⟩
    exact ⟨allowlist, hallow, extracted, hextracted, hgates⟩

theorem checkTools_iff {target : Target} {value : Value} {u : Unit} :
    checkTools target value = .ok u ↔ ∃ tools, value.get? "build_tools" = some tools ∧
      validateBuildTools target tools = .ok () := by
  cases value with
  | dict members =>
    rw [checkTools, Value.get?_dict]
    cases members.lookup "build_tools" with
    | none => simp
    | some tools =>
      simp only [Option.some.injEq, exists_eq_left']
      cases validateBuildTools target tools with
      | ok u => simp
      | error e => cases e <;> simp
  | _ => simp [checkTools, Value.get?]

theorem checkIdentity_iff {target : Target} {value : Value} :
    checkIdentity target version value = .ok () ↔
      ∃ identity, expectedIdentity target version = some identity ∧
        ∀ expected ∈ identity, ∃ actual, field value expected.1 = .ok actual ∧
          actual.equals expected.2 = true := by
  simp only [checkIdentity, bind_eq_ok, orRaise_iff, forM_eq_ok, check_iff]

/-- A regular file stands at the path, not a link to one. -/
def Dist.RegularFile (dist : Dist) (p : PurePath) : Prop := ∃ i, dist.fs.names p = some (.file i)

theorem isRegular_iff {p : PurePath} : dist.isRegular p = true ↔ dist.RegularFile p := by
  rw [Dist.isRegular, Dist.RegularFile, ← regular_iff]
  simp

/-- A file of the directory is found under its name. -/
theorem join_name {p : PurePath} (hp : p ∈ dist.entries) : dist.path.join p.name = p := by
  obtain ⟨hparent, hne, -⟩ := (dist.mem_entries p).mp hp
  have hparts : p.parts ≠ [] := by
    intro hnil
    apply hne
    rw [← hparent, PurePath.parent, hnil, List.dropLast_nil, ← hnil]
  have hlast : p.name = p.parts.getLast hparts := by
    rw [PurePath.name, List.getLastD_eq_getLast?, List.getLast?_eq_some_getLast hparts,
      Option.getD_some]
  rw [join_fileName (dist.fileNames p hp), ← hparent, PurePath.parent, hlast,
    List.dropLast_append_getLast]

theorem quartetNames_ok {target : Target} {names : List (String × String)}
    (h : target.quartetNames lib version = .ok names) :
    ∃ archiveName, names = Transaction.quartetNames archiveName := by
  rw [Target.quartetNames] at h
  split at h
  · obtain ⟨archiveName, -, h⟩ := bind_eq_ok.mp h
    exact ⟨archiveName, (Except.ok.inj h).symm⟩
  · cases h
  · cases h

/-- The names of a quartet are those of its keys. -/
theorem mem_names_iff {target : Target} {names : List (String × String)}
    (h : target.quartetNames lib version = .ok names) {name : String} :
    name ∈ names.map Prod.snd ↔ ∃ key, name = nameOf names key := by
  obtain ⟨archiveName, rfl⟩ := quartetNames_ok h
  have hnames : (Transaction.quartetNames archiveName).map Prod.snd =
      quartetOrder.map (nameOf (Transaction.quartetNames archiveName)) := by
    simp [Transaction.quartetNames, quartetOrder, nameOf, List.lookup_cons, Key.str]
  rw [hnames, List.mem_map]
  constructor
  · rintro ⟨key, -, rfl⟩
    exact ⟨key, rfl⟩
  · rintro ⟨key, rfl⟩
    exact ⟨key, key_mem_quartetOrder key, rfl⟩

/-- The path of a quartet's file. -/
def Dist.quartetPath (dist : Dist) (names : List (String × String)) (key : Key) : PurePath :=
  dist.path.join (nameOf names key)

/-- What `_validate_one` has found of a target when it returns. -/
structure Checked (lib : Library) (dist : Dist) (target : Target) (version : String)
    (names : List (String × String)) (archive : Bytes) (manifestPath : PurePath) (value : Value) :
    Prop where
  named : target.quartetNames lib version = .ok names
  regular : ∀ key ∈ quartetOrder, dist.isRegular (dist.quartetPath names key) = true
  manifest : readManifest lib dist manifestPath = .ok value
  tools : ∃ tools, value.get? "build_tools" = some tools ∧ validateBuildTools target tools = .ok ()
  identity : ∃ identity, expectedIdentity target version = some identity ∧
    ∀ expected ∈ identity, ∃ actual, field value expected.1 = .ok actual ∧
      actual.equals expected.2 = true
  archiveRead : dist.read (dist.quartetPath names .archive) = some archive
  artifact : ArtifactAgrees value (dist.quartetPath names .archive).name archive
  archiveSidecar : SidecarHolds dist (dist.quartetPath names .archiveSha256)
    (dist.quartetPath names .archive)
  manifestSidecar : SidecarHolds dist (dist.quartetPath names .manifestSha256) manifestPath
  members : MembersListed lib target value archive
  gates : GatesPassed lib target archive

theorem validateOne_iff {target : Target} {manifestPath : PurePath} {value : Value} :
    validateOne lib dist target version manifestPath = .ok value ↔
      ∃ names archive, Checked lib dist target version names archive manifestPath value := by
  have hmissing : ∀ names : List (String × String),
      (((quartetOrder.map (dist.quartetPath names)).filter fun p => !dist.isRegular p).map
        PurePath.name).isEmpty = true ↔
      ∀ key ∈ quartetOrder, dist.isRegular (dist.quartetPath names key) = true := by
    intro names
    simp [List.filter_eq_nil_iff]
  have hpath : ∀ names : List (String × String),
      (fun key => dist.path.join (nameOf names key)) = dist.quartetPath names := fun _ => rfl
  simp only [validateOne, bind_eq_ok, orRaise_iff, check_iff, checkTools_iff, checkArtifact_iff,
    checkSidecar_iff, checkMembers_iff, hpath, hmissing, pure_eq_ok, Except.ok.injEq]
  constructor
  · rintro ⟨names, hnames, _, hregular, _, hmanifest, _, htools, _, hidentity, archive, harchive,
      _, hartifact, _, hsidecar, _, hmanifestSidecar, _, hmembers, _, hgates, rfl⟩
    exact ⟨names, archive, hnames, hregular, hmanifest, htools, checkIdentity_iff.mp hidentity,
      harchive, hartifact, hsidecar, hmanifestSidecar, hmembers, checkGates_iff.mp hgates⟩
  · rintro ⟨names, archive, h⟩
    exact ⟨names, h.named, (), h.regular, value, h.manifest, (), h.tools, (),
      checkIdentity_iff.mpr h.identity, archive, h.archiveRead, (), h.artifact, (),
      h.archiveSidecar, (), h.manifestSidecar, (), h.members, (), checkGates_iff.mpr h.gates, rfl⟩

theorem exists_pair_iff {α β : Type} {P : β → Prop} {a : α} {q : α × β} :
    (∃ b, P b ∧ (a, b) = q) ↔ q.1 = a ∧ P q.2 := by
  constructor
  · rintro ⟨b, hb, rfl⟩
    exact ⟨rfl, hb⟩
  · rintro ⟨rfl, hq⟩
    exact ⟨q.2, hq, rfl⟩

/-- The manifest names by target. -/
def manifestNames (quartets : List (String × List (String × String))) : List (String × String) :=
  quartets.map fun entry => (entry.1, nameOf entry.2 .manifest)

/-- The first of all manifests, and what it is compared with. -/
structure FirstAgrees (authority : Authority) (commit : String)
    (manifests : List (String × Value)) : Prop where
  agrees : ∃ first revision expected, manifests.lookup "linux-x86_64" = some first ∧
    field first ["source", "commit"] = .ok (.str commit) ∧
    field first ["release", "sol_revision"] = .ok revision ∧
    authority.release.lookup "sol_revision" = some expected ∧ revision.equals expected = true

/-- What `validate` has found when it returns. -/
structure Validated (lib : Library) (dist : Dist) (authority : Authority) (version commit : String)
    (quartets : List (String × List (String × String))) (byTarget picked : List (String × PurePath))
    (manifests : List (String × Value)) : Prop where
  commitHex : isHex 40 commit = true
  directory : dist.fs.isDirectory dist.path = true
  named : List.Forall₂ (fun (t : String × Target) q =>
    q.1 = t.1 ∧ t.2.quartetNames lib version = .ok q.2) authority.targets quartets
  noExtra : ∀ path ∈ dist.entries,
    (!((dist.fs.isFile path || dist.fs.isSymlink path) && isReleaseFile version path.name &&
      path.name ∉ quartets.flatMap fun entry => entry.2.map Prod.snd)) = true
  indexed : indexManifests lib dist authority
    (dist.entries.filter fun path => isManifestName path.name) = .ok byTarget
  present : (targetIds.filter fun targetId => (byTarget.lookup targetId).isNone).isEmpty = true
  picks : List.Forall₂ (fun targetId p => p.1 = targetId ∧
    pickManifest (manifestNames quartets) byTarget targetId = .ok p.2) targetIds picked
  checked : List.Forall₂ (fun p m => ∃ target, authority.targets.lookup p.1 = some target ∧
    m.1 = p.1 ∧ validateOne lib dist target version p.2 = .ok m.2) picked manifests
  allCompared : ∀ components ∈ compared, checkCompared manifests components = .ok ()
  firstAgrees : FirstAgrees authority commit manifests

theorem validate_iff {commit : String} {manifests : List (String × Value)} :
    validate lib dist authority version commit = .ok manifests ↔
      ∃ quartets byTarget picked,
        Validated lib dist authority version commit quartets byTarget picked manifests := by
  simp only [validate, bind_eq_ok, check_iff, orRaise_iff, mapM_eq_ok, pure_eq_ok,
    Except.ok.injEq, exists_pair_iff, Value.equals_str_iff]
  constructor
  · rintro ⟨_, hhex, _, hdirectory, quartets, hnamed, _, hextra, byTarget, hindexed, _, hpresent,
      picked, hpicked, found, hchecked, _, hcompared, first, hfirst, _, hcommit, _, rfl, revision,
      hrevision, expected, hexpected, _, hequal, rfl⟩
    refine ⟨quartets, byTarget, picked, hhex, hdirectory, hnamed,
      fun path hpath => check_iff.mp (forM_eq_ok.mp hextra path hpath), hindexed, hpresent,
      hpicked, hchecked, forM_eq_ok.mp hcompared,
      ⟨first, revision, expected, hfirst, hcommit, hrevision, hexpected, hequal⟩⟩
  · rintro ⟨quartets, byTarget, picked, h⟩
    obtain ⟨first, revision, expected, hfirst, hcommit, hrevision, hexpected, hequal⟩ :=
      h.firstAgrees
    exact ⟨(), h.commitHex, (), h.directory, quartets, h.named, (),
      forM_eq_ok.mpr fun path hpath => check_iff.mpr (h.noExtra path hpath), byTarget, h.indexed, (),
      h.present, picked, h.picks, manifests, h.checked, (), forM_eq_ok.mpr h.allCompared, first,
      hfirst, _, hcommit, (), rfl, revision, hrevision, expected, hexpected, (), hequal, rfl⟩

/-- The manifest at a path names this target. -/
structure NamesTarget (lib : Library) (dist : Dist) (path : PurePath) (targetId : String) :
    Prop where
  names : ∃ value target, readManifest lib dist path = .ok value ∧
    value.get? "target" = some target ∧ target.get? "id" = some (.str targetId)

theorem indexManifests_cons_iff {path : PurePath} {rest : List PurePath}
    {byTarget : List (String × PurePath)} :
    indexManifests lib dist authority (path :: rest) = .ok byTarget ↔
      ∃ targetId others, NamesTarget lib dist path targetId ∧
        (authority.targets.lookup targetId).isSome = true ∧
        indexManifests lib dist authority rest = .ok others ∧
        byTarget = (targetId, path) :: others := by
  rw [indexManifests]
  simp only [bind_eq_ok, orRaise_iff, Option.bind_eq_some_iff]
  constructor
  · rintro ⟨value, hvalue, id, ⟨target, htarget, hid⟩, h⟩
    cases id with
    | str targetId =>
      simp only [bind_eq_ok, check_iff, pure_eq_ok, Except.ok.injEq] at h
      obtain ⟨_, hknown, others, hothers, rfl⟩ := h
      exact ⟨targetId, others, ⟨value, target, hvalue, htarget, hid⟩, hknown, hothers, rfl⟩
    | _ => split_ifs at h
  · rintro ⟨targetId, others, ⟨value, target, hvalue, htarget, hid⟩, hknown, hothers, rfl⟩
    refine ⟨value, hvalue, .str targetId, ⟨target, htarget, hid⟩, ?_⟩
    simp only [bind_eq_ok, check_iff, pure_eq_ok, Except.ok.injEq]
    exact ⟨(), hknown, others, hothers, rfl⟩

theorem indexManifests_iff {paths : List PurePath} {byTarget : List (String × PurePath)} :
    indexManifests lib dist authority paths = .ok byTarget ↔
      List.Forall₂ (fun path entry => entry.2 = path ∧ NamesTarget lib dist path entry.1 ∧
        (authority.targets.lookup entry.1).isSome = true) paths byTarget := by
  induction paths generalizing byTarget with
  | nil =>
    rw [indexManifests, pure_eq_ok, Except.ok.injEq, List.forall₂_nil_left_iff]
    exact eq_comm
  | cons path rest ih =>
    simp only [indexManifests_cons_iff, ih, List.forall₂_cons_left_iff]
    constructor
    · rintro ⟨targetId, others, hnames, hknown, hothers, rfl⟩
      exact ⟨_, others, ⟨rfl, hnames, hknown⟩, hothers, rfl⟩
    · rintro ⟨entry, others, ⟨rfl, hnames, hknown⟩, hothers, rfl⟩
      exact ⟨entry.1, others, hnames, hknown, hothers, rfl⟩

theorem pickManifest_iff {expectedNames : List (String × String)}
    {byTarget : List (String × PurePath)} {targetId : String} {path : PurePath} :
    pickManifest expectedNames byTarget targetId = .ok path ↔
      (byTarget.filter (·.1 = targetId)).map Prod.snd = [path] ∧
        expectedNames.lookup targetId = some path.name := by
  rw [pickManifest]
  split
  next found hfound =>
    simp only [bind_eq_ok, orRaise_iff, check_iff, decide_eq_true_eq, pure_eq_ok, Except.ok.injEq,
      hfound, List.cons.injEq, and_true]
    constructor
    · rintro ⟨expected, hexpected, _, rfl, rfl⟩
      exact ⟨rfl, hexpected⟩
    · rintro ⟨rfl, hexpected⟩
      exact ⟨_, hexpected, (), rfl, rfl⟩
  next hfound =>
    constructor
    · rintro ⟨⟩
    · rintro ⟨hone, -⟩
      exact absurd hone (hfound path)

/-- Every manifest has the field, with the value the first has there. -/
structure FieldAgrees (manifests : List (String × Value)) (components : List String) : Prop where
  agrees : ∃ first, (∃ m, manifests.head? = some m ∧ field m.2 components = .ok first) ∧
    ∀ m ∈ manifests, ∃ v, field m.2 components = .ok v ∧ v.equals first = true

theorem checkCompared_iff {manifests : List (String × Value)} {components : List String} :
    checkCompared manifests components = .ok () ↔ FieldAgrees manifests components := by
  have hfield : ∀ {m v : String × Value},
      (do return (m.1, ← field m.2 components) : Except Raised (String × Value)) = .ok v ↔
        v.1 = m.1 ∧ field m.2 components = .ok v.2 := by
    intro m v
    simp only [bind_eq_ok, pure_eq_ok, Except.ok.injEq, exists_pair_iff]
  rw [checkCompared, bind_eq_ok]
  constructor
  · rintro ⟨values, hvalues, h⟩
    have hmem := (mem_mapM hvalues).1
    rw [mapM_eq_ok] at hvalues
    cases hvalues with
    | nil => cases h
    | @cons m v ms vs hv _ =>
      have hall := List.all_eq_true.mp (check_iff.mp h)
      refine ⟨v.2, ⟨m, rfl, (hfield.mp hv).2⟩, fun x hx => ?_⟩
      obtain ⟨w, hw, hxw⟩ := hmem x hx
      exact ⟨w.2, (hfield.mp hxw).2, hall w hw⟩
  · rintro ⟨first, ⟨m, hm, hfirst⟩, hall⟩
    obtain ⟨values, hvalues⟩ : ∃ values, manifests.mapM
        (fun m => (do return (m.1, ← field m.2 components) : Except Raised _)) = .ok values := by
      refine mapM_succeeds fun x hx => ?_
      obtain ⟨v, hv, -⟩ := hall x hx
      exact ⟨(x.1, v), hfield.mpr ⟨rfl, hv⟩⟩
    refine ⟨values, hvalues, ?_⟩
    have hmem := (mem_mapM hvalues).2
    rw [mapM_eq_ok] at hvalues
    cases hvalues with
    | nil => cases hm
    | @cons m' v ms vs hv _ =>
      obtain rfl : m' = m := by simpa using hm
      obtain rfl : v.2 = first := by simpa [hfirst] using (hfield.mp hv).2.symm
      refine check_iff.mpr (List.all_eq_true.mpr fun w hw => ?_)
      obtain ⟨x, hx, hxw⟩ := hmem w hw
      obtain ⟨u, hu, hequal⟩ := hall x hx
      rw [(hfield.mp hxw).2] at hu
      obtain rfl := Except.ok.inj hu
      exact hequal

section Found
variable {commit : String} {manifests : List (String × Value)}
  {quartets : List (String × List (String × String))}
  {byTarget picked : List (String × PurePath)}

/-- An indexed manifest is a file of the directory. -/
theorem Validated.mem_entries
    (h : Validated lib dist authority version commit quartets byTarget picked manifests)
    {entry : String × PurePath} (hentry : entry ∈ byTarget) : entry.2 ∈ dist.entries := by
  obtain ⟨path, hpath, rfl, -⟩ := (mem_of_forall₂ (indexManifests_iff.mp h.indexed)).2 entry hentry
  exact (List.mem_filter.mp hpath).1

/-- Each of the three targets has been checked under the names of its quartet. -/
theorem Validated.quartet
    (h : Validated lib dist authority version commit quartets byTarget picked manifests)
    {targetId : String} (hid : targetId ∈ targetIds) :
    ∃ target names archive value, authority.targets.lookup targetId = some target ∧
      manifests.lookup targetId = some value ∧
      Checked lib dist target version names archive (dist.quartetPath names .manifest) value := by
  obtain ⟨path, hpicked, hpick⟩ := lookup_of_forall₂_keys (R := fun targetId path =>
    pickManifest (manifestNames quartets) byTarget targetId = .ok path) h.picks hid
  obtain ⟨hfilter, hname⟩ := pickManifest_iff.mp hpick
  have hchecked : List.Forall₂ (fun p m => m.1 = p.1 ∧ ∃ target,
      authority.targets.lookup p.1 = some target ∧
        validateOne lib dist target version p.2 = .ok m.2) picked manifests :=
    h.checked.imp fun _ _ ⟨target, htarget, hkey, hvalue⟩ => ⟨hkey, target, htarget, hvalue⟩
  obtain ⟨value, hvalue, target, htarget, hvalidated⟩ := lookup_of_forall₂
    (R := fun key path value => ∃ target, authority.targets.lookup key = some target ∧
      validateOne lib dist target version path = .ok value) hchecked hpicked
  obtain ⟨names, hquartet, hnames⟩ := lookup_of_forall₂
    (R := fun _ target names => Target.quartetNames lib target version = .ok names) h.named htarget
  have hexpected : (manifestNames quartets).lookup targetId = some (nameOf names .manifest) := by
    have hsame : List.Forall₂ (fun p q => q.1 = p.1 ∧ q.2 = nameOf p.2 .manifest) quartets
        (manifestNames quartets) :=
      List.forall₂_map_right_iff.mpr (List.forall₂_same.mpr fun _ _ => ⟨rfl, rfl⟩)
    obtain ⟨name, hlookup, rfl⟩ := lookup_of_forall₂
      (R := fun _ names name => name = nameOf names .manifest) hsame hquartet
    exact hlookup
  have hpath : dist.quartetPath names .manifest = path := by
    rw [hname, Option.some.injEq] at hexpected
    have hmem : path ∈ (byTarget.filter (·.1 = targetId)).map Prod.snd := by simp [hfilter]
    obtain ⟨entry, hentry, rfl⟩ := List.mem_map.mp hmem
    rw [Dist.quartetPath, ← hexpected]
    exact join_name (h.mem_entries (List.mem_filter.mp hentry).1)
  obtain ⟨names', archive, hfound⟩ := validateOne_iff.mp hvalidated
  obtain rfl : names' = names := Except.ok.inj (hfound.named.symm.trans hnames)
  exact ⟨target, names', archive, value, htarget, hvalue, hpath ▸ hfound⟩

/-- The expected commit is that of every manifest. -/
theorem Validated.sameCommit
    (h : Validated lib dist authority version commit quartets byTarget picked manifests) :
    ∀ m ∈ manifests, field m.2 ["source", "commit"] = .ok (.str commit) := by
  obtain ⟨first, -, -, hfirst, hcommit, -⟩ := h.firstAgrees
  obtain ⟨value, -, hall⟩ := checkCompared_iff.mp
    (h.allCompared ["source", "commit"] (by simp [compared]))
  obtain ⟨v, hv, hequal⟩ := hall _ (KeyedList.mem_of_lookup hfirst)
  rw [hcommit] at hv
  obtain rfl := Except.ok.inj hv
  obtain rfl := Value.str_equals_iff.mp hequal
  intro m hm
  obtain ⟨w, hw, hequal⟩ := hall m hm
  rw [hw, Value.equals_str_iff.mp hequal]

/-- A release file is one of the three quartets. -/
theorem Validated.noOther (hindexed : Indexed authority.targets)
    (h : Validated lib dist authority version commit quartets byTarget picked manifests)
    {path : PurePath} (hpath : path ∈ dist.entries)
    (hfile : (dist.fs.isFile path || dist.fs.isSymlink path) = true)
    (hrelease : isReleaseFile version path.name = true) :
    ∃ targetId ∈ targetIds, ∃ target names key, authority.targets.lookup targetId = some target ∧
      target.quartetNames lib version = .ok names ∧ path = dist.quartetPath names key := by
  have hallowed : path.name ∈ quartets.flatMap fun entry => entry.2.map Prod.snd := by
    simpa [hfile, hrelease] using h.noExtra path hpath
  obtain ⟨entry, hentry, hname⟩ := List.mem_flatMap.mp hallowed
  obtain ⟨target, htarget, -, hnames⟩ := (mem_of_forall₂ h.named).2 entry hentry
  obtain ⟨key, hkey⟩ := (mem_names_iff hnames).mp hname
  refine ⟨target.1, (hindexed.named target htarget).1, target.2, entry.2, key,
    (lookup_eq_some_iff hindexed.distinct).mpr htarget, hnames, ?_⟩
  rw [Dist.quartetPath, ← hkey]
  exact (join_name hpath).symm

end Found

end AttestationSdk.ReleaseSet
