import AttestationSdk.RailAcceptance

/-! What a release set that `validate` accepts is sure to be, and what the archives must be besides
for its entries to have the types the authority names. -/
namespace AttestationSdk.ReleaseSet
open PyValue Transaction LinkedFiles ExceptRules KeyedList

section Statement
variable (lib : Library) (dist : Dist)

/-- The entry is the member, of the type the authority names. -/
def Member.Matches (member : Member) (entry : TarInfo) : Prop :=
  entry.name = member.path ∧
    match member.kind with
    | .regular => entry.type = .regular
    | .symlink => entry.type = .symlink ∧ member.linkTarget = some (.str entry.linkname)

/-- The quartet of a target is what its manifest and the authority say. -/
structure SoundQuartet (target : Target) (version : String) (names : List (String × String))
    (archive : Bytes) (entries : List TarInfo) (value : Value) : Prop where
  named : target.quartetNames lib version = .ok names
  regular : ∀ key, dist.RegularFile (dist.quartetPath names key)
  manifest : readManifest lib dist (dist.quartetPath names .manifest) = .ok value
  archiveRead : dist.read (dist.quartetPath names .archive) = some archive
  artifact : ArtifactAgrees value (dist.quartetPath names .archive).name archive
  archiveSidecar : SidecarHolds dist (dist.quartetPath names .archiveSha256)
    (dist.quartetPath names .archive)
  manifestSidecar : SidecarHolds dist (dist.quartetPath names .manifestSha256)
    (dist.quartetPath names .manifest)
  listed : lib.getMembers archive = some entries
  matching : List.Forall₂ Member.Matches target.members entries
  gates : GatesPassed lib target archive

/-- The three quartets are sound, belong together, and are all there is of the release. -/
structure SoundSet (authority : Authority) (version commit : String)
    (manifests : List (String × Value)) : Prop where
  quartets : ∀ targetId ∈ targetIds, ∃ target names archive entries value,
    authority.targets.lookup targetId = some target ∧ manifests.lookup targetId = some value ∧
      SoundQuartet lib dist target version names archive entries value
  agree : ∀ components ∈ compared, FieldAgrees manifests components
  commit : ∀ m ∈ manifests, field m.2 ["source", "commit"] = .ok (.str commit)
  noOther : ∀ path ∈ dist.entries,
    (dist.fs.isFile path || dist.fs.isSymlink path) = true → isReleaseFile version path.name = true →
    ∃ targetId ∈ targetIds, ∃ target names key, authority.targets.lookup targetId = some target ∧
      target.quartetNames lib version = .ok names ∧ path = dist.quartetPath names key

/-- All entries of the three archives are regular files and symbolic links. -/
def PlainArchives (authority : Authority) (version : String) : Prop :=
  ∀ targetId ∈ targetIds, ∀ target names archive entries,
    authority.targets.lookup targetId = some target → target.quartetNames lib version = .ok names →
    dist.read (dist.quartetPath names .archive) = some archive →
    lib.getMembers archive = some entries →
    ∀ entry ∈ entries, entry.type = .regular ∨ entry.type = .symlink

end Statement

section Soundness
variable {lib : Library} {dist : Dist} {authority : Authority} {version commit : String}
  {manifests : List (String × Value)}

theorem Member.Matches.plain {member : Member} {entry : TarInfo} (h : member.Matches entry) :
    entry.type = .regular ∨ entry.type = .symlink := by
  obtain ⟨-, htype⟩ := h
  cases hkind : member.kind with
  | regular =>
    rw [hkind] at htype
    exact .inl htype
  | symlink =>
    rw [hkind] at htype
    exact .inr htype.1

/-- The comparison tells the types of regular files and symbolic links, and of no other entries. -/
theorem matches_iff {member : Member} {entry : TarInfo} (h : Projects member entry) :
    member.Matches entry ↔ entry.type = .regular ∨ entry.type = .symlink := by
  obtain ⟨hname, htype, hlink⟩ := h
  cases hstated : member.linkTarget with
  | none =>
    have hkind : member.kind = .regular := by rw [Member.kind, hstated]; rfl
    have hentry : entry.type ≠ .symlink := by
      intro hsym
      rw [htype, hkind] at hsym
      cases hsym
    simp [Member.Matches, hkind, hname, hentry]
  | some target =>
    have hkind : member.kind = .symlink := by rw [Member.kind, hstated]; rfl
    have hentry : entry.type = .symlink := htype.mpr hkind
    rw [if_pos hentry, hstated, Option.getD_some] at hlink
    simp [Member.Matches, hkind, hname, hentry, hstated, hlink]

theorem matching_iff {members : List Member} {entries : List TarInfo}
    (h : List.Forall₂ Projects members entries) :
    List.Forall₂ Member.Matches members entries ↔
      ∀ entry ∈ entries, entry.type = .regular ∨ entry.type = .symlink := by
  induction h with
  | nil => simp
  | cons hprojects _ ih =>
    rw [List.forall₂_cons, ih, matches_iff hprojects, List.forall_mem_cons]

/-- The quartet of a target that has been checked is sound, if its entries are of these types. -/
theorem Checked.sound_iff {target : Target} {names : List (String × String)} {archive : Bytes}
    {entries : List TarInfo} {value : Value}
    (h : Checked lib dist target version names archive (dist.quartetPath names .manifest) value)
    (hentries : lib.getMembers archive = some entries) :
    SoundQuartet lib dist target version names archive entries value ↔
      ∀ entry ∈ entries, entry.type = .regular ∨ entry.type = .symlink := by
  obtain ⟨entries', hlisted, hprojects⟩ := h.members.entries
  obtain rfl : entries' = entries := Option.some.inj (hlisted.symm.trans hentries)
  rw [← matching_iff hprojects]
  constructor
  · intro hsound
    exact hsound.matching
  · intro hmatching
    exact {
      named := h.named
      regular := fun key => isRegular_iff.mp (h.regular key (key_mem_quartetOrder key))
      manifest := h.manifest
      archiveRead := h.archiveRead
      artifact := h.artifact
      archiveSidecar := h.archiveSidecar
      manifestSidecar := h.manifestSidecar
      listed := hentries
      matching := hmatching
      gates := h.gates }

/-- An accepted set is sound exactly when its archives hold regular files and symbolic links
only. -/
theorem accepted_set_sound_iff {data : Table} (hload : load data = .ok authority)
    (h : validate lib dist authority version commit = .ok manifests) :
    SoundSet lib dist authority version commit manifests ↔
      PlainArchives lib dist authority version := by
  obtain ⟨hindexed, -⟩ := load_indexed hload
  obtain ⟨quartets, byTarget, picked, hfound⟩ := validate_iff.mp h
  constructor
  · intro hsound targetId hid target names archive entries htarget hnames harchive hentries
    obtain ⟨target', names', archive', entries', value, htarget', -, hquartet⟩ :=
      hsound.quartets targetId hid
    obtain rfl : target' = target := Option.some.inj (htarget'.symm.trans htarget)
    obtain rfl : names' = names := Except.ok.inj (hquartet.named.symm.trans hnames)
    obtain rfl : archive' = archive := Option.some.inj (hquartet.archiveRead.symm.trans harchive)
    obtain rfl : entries' = entries := Option.some.inj (hquartet.listed.symm.trans hentries)
    intro entry hentry
    obtain ⟨member, -, hmatches⟩ := (mem_of_forall₂ hquartet.matching).2 entry hentry
    exact hmatches.plain
  · intro hplain
    refine ⟨fun targetId hid => ?_, fun components hc => checkCompared_iff.mp
      (hfound.allCompared components hc), hfound.sameCommit,
      fun path hpath hfile hrelease => hfound.noOther hindexed hpath hfile hrelease⟩
    obtain ⟨target, names, archive, value, htarget, hvalue, hchecked⟩ := hfound.quartet hid
    obtain ⟨entries, hentries, -⟩ := hchecked.members.entries
    refine ⟨target, names, archive, entries, value, htarget, hvalue,
      (hchecked.sound_iff hentries).mpr ?_⟩
    exact hplain targetId hid target names archive entries htarget hchecked.named
      hchecked.archiveRead hentries

end Soundness

section Sample

theorem sample_plainArchives : PlainArchives (sampleLibrary "LICENSE" plainArchive)
    (sampleDirectory "LICENSE" plainArchive) (sampleAuthority "LICENSE") sampleVersion := by
  intro targetId hid target names archive entries htarget hnames harchive hentries entry hentry
  obtain rfl := Option.some.inj (htarget.symm.trans (sample_targets "LICENSE" targetId hid))
  obtain rfl := Except.ok.inj
    (hnames.symm.trans (sample_named "LICENSE" plainArchive targetId hid))
  have hbytes := read_of_content
    ((sample_holdsPromoted "LICENSE" plainArchive).content targetId hid .archive)
  obtain rfl := Option.some.inj (harchive.symm.trans hbytes)
  simp only [sampleLibrary, sampleBuilt, Built.file, if_true, Option.some.injEq] at hentries
  obtain rfl := hentries
  simp only [sampleEntries, List.mem_cons, List.not_mem_nil, or_false] at hentry
  obtain rfl | rfl := hentry
  · exact .inl rfl
  · exact .inr rfl

theorem sample_sound : SoundSet (sampleLibrary "LICENSE" plainArchive)
    (sampleDirectory "LICENSE" plainArchive) (sampleAuthority "LICENSE") sampleVersion sampleCommit
    (targetIds.map fun targetId => (targetId, sampleManifest "LICENSE" plainArchive targetId)) := by
  have hset := (sample_run plain_mem_sampleArchives).writtenSet
    (sample_documented (List.mem_cons_of_mem _ plain_mem_sampleArchives))
    (sample_holdsPromoted "LICENSE" plainArchive) (sample_acceptable sample_extracts)
  have haccepted := hset.accepted (sample_load (.inl rfl)) (sample_acceptable sample_extracts)
    sample_commit sample_hex
  exact (accepted_set_sound_iff (sample_load (.inl rfl)) haccepted).mpr sample_plainArchives

theorem directory_mem_sampleCases : ("LICENSE", directoryArchive) ∈ sampleCases := by
  simp [sampleCases]

theorem directory_listed : (sampleLibrary "LICENSE" directoryArchive).getMembers directoryArchive =
    some (sampleEntries .directory "LICENSE") := by
  simp [sampleLibrary, archives_ne]

theorem directory_extracts : (sampleLibrary "LICENSE" directoryArchive).extractAll directoryArchive =
    some fun _ => none := by
  simp [sampleLibrary, archives_ne]

/-- The directory is compared as a regular file. -/
theorem directory_projects : ∀ targetId ∈ targetIds,
    List.Forall₂ Projects (sampleTargetOf "LICENSE" targetId).members
      (sampleEntries .directory "LICENSE") := by
  intro targetId hid
  obtain rfl | rfl | rfl := targetIds_cases hid <;>
    simp [sampleTargetOf, sampleAuthority, sampleTables, sampleTarget, List.lookup_cons,
      sampleEntries, Projects, Member.kind]

theorem directory_gates : ∀ targetId ∈ targetIds,
    GatesPassed (sampleLibrary "LICENSE" directoryArchive) (sampleTargetOf "LICENSE" targetId)
      directoryArchive := by
  intro targetId hid
  have hgates := sample_gates "LICENSE" directoryArchive
    ⟨fun _ => none, fun _ => none, fun _ => none⟩ targetId hid
  obtain ⟨allowlist, hallow, hpassed⟩ := gateBinaries_ok hgates
  exact ⟨allowlist, _, hallow, directory_extracts, hpassed⟩

theorem directory_written : WrittenSet (sampleLibrary "LICENSE" directoryArchive)
    (sampleDirectory "LICENSE" directoryArchive) (sampleAuthority "LICENSE") sampleVersion
    sampleSource sampleDependencies (sampleTargetOf "LICENSE") sampleTools
    (sampleBuilt "LICENSE" directoryArchive) where
  targets := sample_targets "LICENSE"
  directory := (sample_holdsPromoted "LICENSE" directoryArchive).directory
  files := (sample_holdsPromoted "LICENSE" directoryArchive).files
  written := by
    intro targetId hid
    have hcontent := (sample_holdsPromoted "LICENSE" directoryArchive).content targetId hid
    exact {
      named := sample_named "LICENSE" directoryArchive targetId hid
      validTools := sample_tools (.inl rfl) targetId hid
      value := by
        rw [sample_builtName "LICENSE" directoryArchive hid]
        exact sample_manifest "LICENSE" directoryArchive hid
      listed := ⟨_, directory_listed, directory_projects targetId hid⟩
      gated := directory_gates targetId hid
      manifest := by
        refine readManifest_iff.mpr ⟨_, _, read_of_content (hcontent .manifest),
          decodeText_encodeText ?_, sample_loads directory_mem_sampleCases hid⟩
        have hreturn := noReturn_jsonText (sampleManifest "LICENSE" directoryArchive targetId)
        simp [hreturn]
      content := hcontent }

/-- A set with a directory for a regular file is accepted. -/
theorem directory_accepted :
    load (sampleData "LICENSE") = .ok (sampleAuthority "LICENSE") ∧
      ∃ manifests, validate (sampleLibrary "LICENSE" directoryArchive)
          (sampleDirectory "LICENSE" directoryArchive) (sampleAuthority "LICENSE") sampleVersion
          sampleCommit = .ok manifests ∧
        ¬SoundSet (sampleLibrary "LICENSE" directoryArchive)
          (sampleDirectory "LICENSE" directoryArchive) (sampleAuthority "LICENSE") sampleVersion
          sampleCommit manifests := by
  have hextracts : ((sampleLibrary "LICENSE" directoryArchive).extractAll directoryArchive).isSome =
      true := by
    rw [directory_extracts]
    rfl
  have hdist := sample_holdsPromoted "LICENSE" directoryArchive
  refine ⟨sample_load (.inl rfl), _, directory_written.accepted (sample_load (.inl rfl))
    (sample_acceptable hextracts) sample_commit sample_hex, fun hsound => ?_⟩
  obtain ⟨target, names, archive, entries, value, htarget, -, hquartet⟩ :=
    hsound.quartets "linux-x86_64" first_mem_targetIds
  -- the archive is the one of the directory
  obtain rfl := Option.some.inj
    (htarget.symm.trans (sample_targets "LICENSE" "linux-x86_64" first_mem_targetIds))
  obtain rfl := Except.ok.inj (hquartet.named.symm.trans
    (sample_named "LICENSE" directoryArchive "linux-x86_64" first_mem_targetIds))
  have hbytes := read_of_content (hdist.content "linux-x86_64" first_mem_targetIds .archive)
  obtain rfl := Option.some.inj (hquartet.archiveRead.symm.trans hbytes)
  obtain rfl := Option.some.inj (hquartet.listed.symm.trans directory_listed)
  obtain ⟨member, -, hmatches⟩ := (mem_of_forall₂ hquartet.matching).2 ⟨"LICENSE", .directory, ""⟩
    (by simp [sampleEntries])
  simpa using hmatches.plain

end Sample

end AttestationSdk.ReleaseSet
