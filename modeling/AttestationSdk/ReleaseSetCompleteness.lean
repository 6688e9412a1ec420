import AttestationSdk.ValidatorFindings

/-! Release sets that `validate` accepts: three quartets that each pass the checks, agree with one
another and are all the directory holds. -/
namespace AttestationSdk.ReleaseSet
open PyValue Transaction LinkedFiles ExceptRules KeyedList
variable {lib : Library} {dist : Dist} {authority : Authority} {version commit : String}

/-- What a target has in the directory. -/
structure Quartet where
  target : Target
  names : List (String × String)
  archive : Bytes
  value : Value

/-- The manifests of the three targets. -/
def manifestsOf (quartets : String → Quartet) : List (String × Value) :=
  targetIds.map fun targetId => (targetId, (quartets targetId).value)

/-- The path of a target's manifest. -/
def manifestPath (dist : Dist) (quartets : String → Quartet) (targetId : String) : PurePath :=
  dist.quartetPath (quartets targetId).names .manifest

/-- The directory holds these three quartets and nothing else. -/
structure CompleteSet (lib : Library) (dist : Dist) (authority : Authority)
    (version commit : String) (quartets : String → Quartet) : Prop where
  commitHex : isHex 40 commit = true
  directory : dist.fs.isDirectory dist.path = true
  targets : ∀ targetId ∈ targetIds,
    authority.targets.lookup targetId = some (quartets targetId).target
  files : ∀ p, p ∈ dist.entries ↔
    ∃ targetId ∈ targetIds, ∃ key, p = dist.quartetPath (quartets targetId).names key
  fileNames : ∀ targetId ∈ targetIds, ∀ key,
    isFileName (nameOf (quartets targetId).names key) = true
  archiveName : ∀ targetId ∈ targetIds,
    isManifestName (nameOf (quartets targetId).names .archive) = false
  checked : ∀ targetId ∈ targetIds, Checked lib dist (quartets targetId).target version
    (quartets targetId).names (quartets targetId).archive (manifestPath dist quartets targetId)
    (quartets targetId).value
  agree : ∀ components ∈ compared, FieldAgrees (manifestsOf quartets) components
  first : FirstAgrees authority commit (manifestsOf quartets)

theorem eq_singleton_of_nodup {α : Type} {l : List α} {a : α} (hnodup : l.Nodup) (hmem : a ∈ l)
    (hall : ∀ x ∈ l, x = a) : l = [a] := by
  cases l with
  | nil => cases hmem
  | cons x rest =>
    obtain rfl := hall x (by simp)
    have hrest : rest = [] := by
      rw [List.eq_nil_iff_forall_not_mem]
      intro y hy
      obtain rfl := hall y (by simp [hy])
      exact (List.nodup_cons.mp hnodup).1 hy
    rw [hrest]

/-- The manifest that has been checked names its target. -/
theorem Checked.namesTarget {target : Target} {names : List (String × String)} {archive : Bytes}
    {path : PurePath} {value : Value}
    (h : Checked lib dist target version names archive path value) :
    NamesTarget lib dist path target.id := by
  obtain ⟨identity, hidentity, hall⟩ := h.identity
  have hid : (["target", "id"], Value.str target.id) ∈ identity := by
    simp only [expectedIdentity, bind, Option.bind_eq_some_iff, pure, Option.some.injEq] at hidentity
    obtain ⟨_, -, _, -, rfl⟩ := hidentity
    simp
  obtain ⟨actual, hactual, hequal⟩ := hall _ hid
  obtain rfl := Value.equals_str_iff.mp hequal
  obtain ⟨inner, hinner, hactual⟩ := field_cons_iff.mp hactual
  obtain ⟨found, hfound, hactual⟩ := field_cons_iff.mp hactual
  rw [field_nil] at hactual
  obtain rfl := Except.ok.inj hactual
  exact ⟨value, inner, h.manifest, hinner, hfound⟩

theorem NamesTarget.unique {path : PurePath} {targetId targetId' : String}
    (h : NamesTarget lib dist path targetId) (h' : NamesTarget lib dist path targetId') :
    targetId = targetId' := by
  obtain ⟨value, target, hvalue, htarget, hid⟩ := h.names
  obtain ⟨value', target', hvalue', htarget', hid'⟩ := h'.names
  obtain rfl : value = value' := Except.ok.inj (hvalue.symm.trans hvalue')
  obtain rfl : target = target' := Option.some.inj (htarget.symm.trans htarget')
  exact Value.str.inj (Option.some.inj (hid.symm.trans hid'))

theorem isManifestName_sha256 (name : String) : isManifestName (name ++ ".sha256") = false := by
  rw [isManifestName, ← Bool.not_eq_true, List.isSuffixOf_iff_suffix, String.toList_append]
  rintro ⟨before, hbefore⟩
  have hlast := congrArg List.getLast? hbefore
  rw [List.getLast?_append_of_ne_nil _ (by decide), List.getLast?_append_of_ne_nil _ (by decide)]
    at hlast
  revert hlast
  decide

theorem isManifestName_manifest (name : String) :
    isManifestName (name ++ ".manifest.json") = true := by
  rw [isManifestName, List.isSuffixOf_iff_suffix, String.toList_append]
  exact List.suffix_append _ _

/-- The checksum files of a quartet are no manifests. -/
theorem manifest_of_name {target : Target} {names : List (String × String)}
    (h : target.quartetNames lib version = .ok names)
    (harchive : isManifestName (nameOf names .archive) = false) {key : Key}
    (hkey : isManifestName (nameOf names key) = true) : key = .manifest := by
  obtain ⟨archiveName, rfl⟩ := quartetNames_ok h
  have hsidecar : ∀ name, isManifestName (name ++ ".sha256") ≠ true := by
    intro name
    rw [isManifestName_sha256]
    decide
  cases key with
  | archive =>
    rw [harchive] at hkey
    cases hkey
  | archiveSha256 =>
    simp only [nameOf, Transaction.quartetNames, Key.str, List.lookup_cons] at hkey
    exact absurd hkey (hsidecar _)
  | manifest => rfl
  | manifestSha256 =>
    simp only [nameOf, Transaction.quartetNames, Key.str, List.lookup_cons] at hkey
    exact absurd hkey (hsidecar _)

theorem name_join {name : String} (h : isFileName name = true) (base : PurePath) :
    (base.join name).name = name := by
  rw [join_fileName h, PurePath.name]
  exact List.getLastD_concat

namespace CompleteSet
variable {quartets : String → Quartet} {targetId targetId' : String}

theorem namesTarget (hindexed : Indexed authority.targets)
    (h : CompleteSet lib dist authority version commit quartets) (hid : targetId ∈ targetIds) :
    NamesTarget lib dist (manifestPath dist quartets targetId) targetId := by
  have hnamed := (hindexed.named _ (KeyedList.mem_of_lookup (h.targets targetId hid))).2
  have hnames := (h.checked targetId hid).namesTarget
  rwa [show (quartets targetId).target.id = targetId from hnamed] at hnames

/-- The name of a file is that of its key. -/
theorem name_eq (h : CompleteSet lib dist authority version commit quartets)
    (hid : targetId ∈ targetIds) (key : Key) :
    (dist.quartetPath (quartets targetId).names key).name = nameOf (quartets targetId).names key :=
  name_join (h.fileNames targetId hid key) dist.path

/-- A manifest in the directory is that of one of the three targets. -/
theorem manifest_mem_iff (h : CompleteSet lib dist authority version commit quartets)
    {p : PurePath} : p ∈ (dist.entries.filter fun path => isManifestName path.name) ↔
      ∃ targetId ∈ targetIds, p = manifestPath dist quartets targetId := by
  rw [List.mem_filter, h.files]
  constructor
  · rintro ⟨⟨targetId, hid, key, rfl⟩, hname⟩
    rw [h.name_eq hid] at hname
    obtain rfl := manifest_of_name (h.checked targetId hid).named (h.archiveName targetId hid) hname
    exact ⟨targetId, hid, rfl⟩
  · rintro ⟨targetId, hid, rfl⟩
    refine ⟨⟨targetId, hid, .manifest, rfl⟩, ?_⟩
    obtain ⟨archiveName, hnames⟩ := quartetNames_ok (h.checked targetId hid).named
    rw [manifestPath, h.name_eq hid, hnames]
    simp only [nameOf, Transaction.quartetNames, Key.str, List.lookup_cons]
    exact isManifestName_manifest _

theorem manifestPath_inj (hindexed : Indexed authority.targets)
    (h : CompleteSet lib dist authority version commit quartets) (hid : targetId ∈ targetIds)
    (hid' : targetId' ∈ targetIds)
    (heq : manifestPath dist quartets targetId = manifestPath dist quartets targetId') :
    targetId = targetId' := by
  have hnames := h.namesTarget hindexed hid
  rw [heq] at hnames
  exact hnames.unique (h.namesTarget hindexed hid')

/-- The index holds the manifest of each target once, under its id. -/
theorem indexed (hindexed : Indexed authority.targets)
    (h : CompleteSet lib dist authority version commit quartets) :
    ∃ byTarget, indexManifests lib dist authority
        (dist.entries.filter fun path => isManifestName path.name) = .ok byTarget ∧
      ∀ targetId ∈ targetIds, byTarget.filter (·.1 = targetId) =
        [(targetId, manifestPath dist quartets targetId)] := by
  obtain ⟨byTarget, hby⟩ := exists_forall₂ (R := fun path (entry : String × PurePath) =>
      entry.2 = path ∧ entry.1 ∈ targetIds ∧ path = manifestPath dist quartets entry.1)
    fun p hp => by
      obtain ⟨targetId, hid, rfl⟩ := h.manifest_mem_iff.mp hp
      exact ⟨(targetId, _), rfl, hid, rfl⟩
  have hmem := mem_of_forall₂ hby
  have hnodup : byTarget.Nodup := by
    have hsnd : byTarget.map Prod.snd = dist.entries.filter fun path => isManifestName path.name := by
      rw [← List.forall₂_eq_eq_eq, List.forall₂_map_left_iff]
      exact (hby.imp fun _ _ hentry => hentry.1).flip
    refine List.Nodup.of_map Prod.snd ?_
    rw [hsnd]
    exact dist.nodup.filter _
  refine ⟨byTarget, indexManifests_iff.mpr (hby.imp fun path entry => ?_), fun targetId hid => ?_⟩
  · rintro ⟨hpath, hid, hmanifest⟩
    refine ⟨hpath, hmanifest ▸ h.namesTarget hindexed hid, ?_⟩
    rw [h.targets _ hid, Option.isSome_some]
  · refine eq_singleton_of_nodup (hnodup.filter _) ?_ fun entry hentry => ?_
    · obtain ⟨entry, hentry, hpath, hid', hmanifest⟩ :=
        hmem.1 _ (h.manifest_mem_iff.mpr ⟨targetId, hid, rfl⟩)
      obtain rfl := h.manifestPath_inj hindexed hid hid' hmanifest
      rw [List.mem_filter, ← hpath]
      exact ⟨hentry, by simp⟩
    · obtain ⟨hin, hkey⟩ := List.mem_filter.mp hentry
      obtain rfl : entry.1 = targetId := of_decide_eq_true hkey
      obtain ⟨path, -, hpath, -, hmanifest⟩ := hmem.2 entry hin
      rw [← hmanifest, ← hpath]

/-- The names of the quartets, as `validate` collects them. -/
def namesOf (authority : Authority) (quartets : String → Quartet) :
    List (String × List (String × String)) :=
  authority.targets.map fun entry => (entry.1, (quartets entry.1).names)

theorem target_eq (hindexed : Indexed authority.targets)
    (h : CompleteSet lib dist authority version commit quartets) {entry : String × Target}
    (hentry : entry ∈ authority.targets) : (quartets entry.1).target = entry.2 := by
  have hlookup : authority.targets.lookup entry.1 = some entry.2 :=
    (lookup_eq_some_iff hindexed.distinct).mpr hentry
  rw [h.targets _ (hindexed.named entry hentry).1] at hlookup
  exact Option.some.inj hlookup

theorem lookup_manifestNames (h : CompleteSet lib dist authority version commit quartets)
    (hid : targetId ∈ targetIds) :
    (manifestNames (namesOf authority quartets)).lookup targetId =
      some (manifestPath dist quartets targetId).name := by
  have hsame : List.Forall₂ (fun p q => q.1 = p.1 ∧ q.2 = nameOf (quartets p.1).names .manifest)
      authority.targets (manifestNames (namesOf authority quartets)) := by
    rw [manifestNames, namesOf, List.map_map, List.forall₂_map_right_iff]
    exact List.forall₂_same.mpr fun _ _ => ⟨rfl, rfl⟩
  obtain ⟨name, hname, rfl⟩ := lookup_of_forall₂
    (R := fun key _ name => name = nameOf (quartets key).names .manifest) hsame
    (h.targets targetId hid)
  rw [hname, manifestPath, h.name_eq hid]

/-- A file of one of the quartets is no extra release file. -/
theorem noExtra (h : CompleteSet lib dist authority version commit quartets) {path : PurePath}
    (hpath : path ∈ dist.entries) :
    path.name ∈ (namesOf authority quartets).flatMap fun entry => entry.2.map Prod.snd := by
  obtain ⟨targetId, hid, key, rfl⟩ := (h.files path).mp hpath
  rw [h.name_eq hid, List.mem_flatMap]
  have htarget := KeyedList.mem_of_lookup (h.targets targetId hid)
  refine ⟨(targetId, (quartets targetId).names), List.mem_map.mpr ⟨_, htarget, rfl⟩, ?_⟩
  exact (mem_names_iff (h.checked targetId hid).named).mpr ⟨key, rfl⟩

theorem validated (hindexed : Indexed authority.targets)
    (h : CompleteSet lib dist authority version commit quartets) :
    ∃ byTarget, Validated lib dist authority version commit (namesOf authority quartets) byTarget
      (targetIds.map fun targetId => (targetId, manifestPath dist quartets targetId))
      (manifestsOf quartets) := by
  obtain ⟨byTarget, hby, hfilter⟩ := h.indexed hindexed
  refine ⟨byTarget, {
    commitHex := h.commitHex
    directory := h.directory
    named := ?_
    noExtra := fun path hpath => by simp [h.noExtra hpath]
    indexed := hby
    present := ?_
    picks := ?_
    checked := ?_
    allCompared := fun components hc => checkCompared_iff.mpr (h.agree components hc)
    firstAgrees := h.first }⟩
  · rw [namesOf, List.forall₂_map_right_iff, List.forall₂_same]
    intro entry hentry
    have hnamed := (h.checked entry.1 (hindexed.named entry hentry).1).named
    rw [h.target_eq hindexed hentry] at hnamed
    exact ⟨rfl, hnamed⟩
  · rw [List.isEmpty_iff, List.filter_eq_nil_iff]
    intro targetId hid hmissing
    have hmem : (targetId, manifestPath dist quartets targetId) ∈ byTarget := by
      refine List.mem_of_mem_filter (p := (·.1 = targetId)) ?_
      rw [hfilter targetId hid]
      exact List.mem_singleton_self _
    rw [Option.isNone_iff_eq_none, lookup_eq_none_iff] at hmissing
    exact hmissing (mem_keys_of_mem hmem)
  · rw [List.forall₂_map_right_iff, List.forall₂_same]
    intro targetId hid
    refine ⟨rfl, pickManifest_iff.mpr ⟨?_, h.lookup_manifestNames hid⟩⟩
    rw [hfilter targetId hid, List.map_singleton]
  · rw [manifestsOf, List.forall₂_map_left_iff, List.forall₂_map_right_iff, List.forall₂_same]
    intro targetId hid
    exact ⟨_, h.targets targetId hid, rfl, validateOne_iff.mpr ⟨_, _, h.checked targetId hid⟩⟩

/-- A complete set of quartets is accepted. -/
theorem accepted (hindexed : Indexed authority.targets)
    (h : CompleteSet lib dist authority version commit quartets) :
    validate lib dist authority version commit = .ok (manifestsOf quartets) := by
  obtain ⟨byTarget, hvalidated⟩ := h.validated hindexed
  exact validate_iff.mpr ⟨_, _, _, hvalidated⟩

end CompleteSet

end AttestationSdk.ReleaseSet
