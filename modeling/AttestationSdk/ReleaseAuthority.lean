import AttestationSdk.ExceptRules
import AttestationSdk.PyValue
import AttestationSdk.ReleaseTransaction

/-! The release authority: `authority.load` on the TOML value of `targets.toml`. -/
namespace AttestationSdk.ReleaseSet
open PyValue Transaction ExceptRules KeyedList

abbrev Table := List (String × Value)

/-- The `AuthorityError`s of `load`, one for each `raise`. -/
inductive AuthorityError
  | unknownFields (name : String) (fields : List String)
  | memberNotATable (targetId : String)
  | invalidMemberKind (targetId : String) (path : Option Value)
  | emptyMemberPath (targetId : String)
  | unsafeMemberPath (targetId path : String)
  | symlinkWithoutTarget (targetId path : String)
  | regularWithTarget (targetId path : String)
  | tablesRequired
  | missingReleaseFields (fields : List String)
  | caBundleSha256
  | upstreamBaseCommit
  | targetNotATable
  | missingTargetFields (id : Option Value) (fields : List String)
  | duplicateTarget (targetId : String)
  | unknownTarget (targetId : Value)
  | hostMachines (targetId : String)
  | imageNotPinned (targetId image : String)
  | machoWithImages (targetId : String)
  | machoField (targetId field : String)
  | machoFloor (targetId : String)
  | machoArchitecture (targetId : String)
  | machoWithRunpath (targetId : String)
  | linuxImages (targetId : String)
  | machoPolicy (targetId : String)
  | elfRunpath (targetId : String)
  | membersRequired (targetId : String)
  | duplicateMember (targetId : String)
  | requiredTools (targetId : String)
  | invalidTool (targetId : String)
  | missingTargets (targetIds : List String)

/-- Exceptions of the language itself, by their classes. -/
inductive PythonError
  | KeyError
  | TypeError
  | AttributeError
  | IndexError
  | ValueError
  | OSError

/-- `TARGET_IDS`. -/
def targetIds : List String := ["linux-x86_64", "linux-aarch64", "macos-arm64"]

def rootKeys : List String := ["release", "targets"]

def releaseKeys : List String :=
  ["sol_revision", "upstream_base_commit", "ca_snapshot_date", "ca_bundle_url", "ca_bundle_sha256",
    "archive_xz_preset", "archive_xz_threads"]

def policyKeys : List String := ["macho_install_id", "macho_rpath", "elf_runpath"]

def requiredTargetKeys : List String :=
  ["id", "host_os", "host_machines", "build_image", "gate_images", "container_platform",
    "archive_name", "binary_format", "expected_arch", "abi_kind", "abi_floor", "runtime_allowlist",
    "members", "directory_counts", "required_tools"]

def targetKeys : List String := requiredTargetKeys ++ policyKeys

inductive MemberKind
  | regular
  | symlink
  deriving DecidableEq

def MemberKind.str : MemberKind → String
  | .regular => "regular"
  | .symlink => "symlink"

/-- A member `_validate_member` has accepted: a symbolic link if it has a link target, and a
regular file if it has none. -/
structure Member where
  path : String
  linkTarget : Option Value

def Member.kind (member : Member) : MemberKind :=
  if member.linkTarget.isSome then .symlink else .regular

/-- A target `load` has accepted: its table, with the parts `load` has checked. -/
structure Target where
  id : String
  members : List Member
  requiredTools : List String
  table : Table

structure Authority where
  release : Table
  targets : List (String × Target)

section Texts

def isHexDigit (c : Char) : Bool := c ∈ "0123456789abcdef".toList

/-- `[0-9a-f]{n}`. -/
def isHex (n : Nat) (s : String) : Bool := s.toList.length = n && s.toList.all isHexDigit

def isDigit (c : Char) : Bool := c ∈ "0123456789".toList

/-- `\s`. -/
def isSpace (c : Char) : Bool :=
  (9 ≤ c.toNat && c.toNat ≤ 13) || (28 ≤ c.toNat && c.toNat ≤ 32) ||
    (0x2000 ≤ c.toNat && c.toNat ≤ 0x200a) ||
    c.toNat ∈ [0x85, 0xa0, 0x1680, 0x2028, 0x2029, 0x202f, 0x205f, 0x3000]

/-- `[0-9]+(?:\.[0-9]+){1,3}`. -/
def isDottedVersion (s : String) : Bool :=
  let components := s.toList.splitOn '.'
  2 ≤ components.length && components.length ≤ 4 &&
    components.all fun component => !component.isEmpty && component.all isDigit

/-- `[^@\s]+@sha256:[0-9a-f]{64}`. -/
def isDigestReference (s : String) : Bool :=
  let name := s.toList.takeWhile (· ≠ '@')
  !name.isEmpty && name.all (fun c => !isSpace c) &&
    match s.toList.drop name.length with
    | '@' :: digest => "sha256:".toList.isPrefixOf digest && isHex 64 (String.ofList (digest.drop 7))
    | _ => false

end Texts

/-- `str` of a value, where the text could be 64 digits. -/
def hexText : Value → Option String
  | .str s => some s
  | .int n => some (toString n)
  | _ => none

/-- What a `for` loop or `*` takes from a value. -/
def iterate : Value → Option (List Value)
  | .list items => some items
  | .str s => some (s.toList.map fun c => .str c.toString)
  | .dict members => some (members.map fun m => .str m.1)
  | _ => none

/-- Sets and dictionaries take it as an element or a key. -/
def hashable : Value → Bool
  | .list _ => false
  | .dict _ => false
  | _ => true

/-- What `load` raises. -/
inductive LoadError
  | python (e : PythonError)
  | authority (e : AuthorityError)

def checkAuthority (cond : Bool) (e : AuthorityError) : Except LoadError Unit :=
  if cond then .ok () else .error (.authority e)

/-- `_unknown_keys`. -/
def unknownKeys (name : String) (table : Table) (allowed : List String) : Except LoadError Unit :=
  let unknown := ((table.map Prod.fst).filter (· ∉ allowed)).mergeSort (· ≤ ·)
  checkAuthority unknown.isEmpty (.unknownFields name unknown)

def readKind : Option Value → Option MemberKind
  | some (.str s) =>
    if s = "regular" then some .regular else if s = "symlink" then some .symlink else none
  | _ => none

/-- `_validate_member`. -/
def validateMember (targetId : String) : Value → Except LoadError Member
  | .dict table => do
    unknownKeys (targetId ++ " member") table ["path", "kind", "link_target"]
    if !(table.lookup "kind").all hashable then throw (.python .TypeError)
    match readKind (table.lookup "kind") with
    | none => throw (.authority (.invalidMemberKind targetId (table.lookup "path")))
    | some kind =>
      match table.lookup "path" with
      | some (.str path) => do
        checkAuthority (path ≠ "") (.emptyMemberPath targetId)
        let parsed := PurePath.parse path
        checkAuthority (parsed.root = "" && ".." ∉ parsed.parts) (.unsafeMemberPath targetId path)
        let linkTarget := table.lookup "link_target"
        match kind with
        | .symlink =>
          checkAuthority (linkTarget.any Value.truthy) (.symlinkWithoutTarget targetId path)
        | .regular => checkAuthority linkTarget.isNone (.regularWithTarget targetId path)
        return ⟨path, linkTarget⟩
      | _ => throw (.authority (.emptyMemberPath targetId))
  | _ => throw (.authority (.memberNotATable targetId))

/-- `target[key]`; `none` is a `KeyError`. -/
def Target.get? (target : Target) (key : String) : Option Value := target.table.lookup key

def nonEmptyText : Option Value → Bool
  | some (.str s) => s ≠ ""
  | _ => false

/-- The container images of a target are pinned by a digest. -/
def checkImages (targetId : String) (images : List Value) : Except LoadError Unit :=
  images.forM fun image =>
    match image with
    | .str s => checkAuthority (s = "none" || isDigestReference s) (.imageNotPinned targetId s)
    | _ => throw (.python .TypeError)

/-- The checks of a Mach-O target. -/
def checkMacho (targetId : String) (table : Table) (buildImage gateImages : Value) :
    Except LoadError Unit := do
  checkAuthority (buildImage.equals (.str "none") && !gateImages.truthy) (.machoWithImages targetId)
  ["macho_install_id", "macho_rpath"].forM fun field =>
    checkAuthority (nonEmptyText (table.lookup field)) (.machoField targetId field)
  match table.lookup "abi_floor" with
  | some (.dict [(key, .str floor)]) =>
    checkAuthority (key = "macos" && isDottedVersion floor) (.machoFloor targetId)
  | _ => throw (.authority (.machoFloor targetId))
  checkAuthority ((table.lookup "expected_arch").any (·.equals (.str "CPU_TYPE_ARM64")))
    (.machoArchitecture targetId)
  checkAuthority (table.lookup "elf_runpath").isNone (.machoWithRunpath targetId)

/-- The checks of every other target. -/
def checkElf (targetId : String) (table : Table) (buildImage : Value) (gateImages : List Value) :
    Except LoadError Unit := do
  checkAuthority (!buildImage.equals (.str "none") && gateImages.length = 2) (.linuxImages targetId)
  checkAuthority ((table.lookup "macho_install_id").isNone && (table.lookup "macho_rpath").isNone)
    (.machoPolicy targetId)
  match table.lookup "elf_runpath" with
  | some (.str runpath) =>
    checkAuthority ((runpath.toList.splitOn ':').all fun entry => !entry.isEmpty)
      (.elfRunpath targetId)
  | _ => throw (.authority (.elfRunpath targetId))

/-- `required_tools`. -/
def readTools (targetId : String) : Option Value → Except LoadError (List String)
  | some (.list tools) => do
    checkAuthority (!tools.isEmpty) (.requiredTools targetId)
    tools.mapM fun tool =>
      match tool with
      | .str s => if s = "" then throw (.authority (.invalidTool targetId)) else return s
      | _ => throw (.authority (.invalidTool targetId))
  | _ => throw (.authority (.requiredTools targetId))

def readMembers (targetId : String) : Option Value → Except LoadError (List Member)
  | some (.list values) => do
    checkAuthority (!values.isEmpty) (.membersRequired targetId)
    let members ← values.mapM (validateMember targetId)
    checkAuthority (decide (members.map Member.path).Nodup) (.duplicateMember targetId)
    return members
  | _ => throw (.authority (.membersRequired targetId))

def missingKeys (table : Table) (required : List String) : List String :=
  (required.filter fun key => (table.lookup key).isNone).mergeSort (· ≤ ·)

def checkHostMachines (targetId : String) : Option Value → Except LoadError Unit
  | some (.list (_ :: _)) => .ok ()
  | _ => throw (.authority (.hostMachines targetId))

/-- The checks that depend on the binary format. -/
def checkFormat (targetId : String) (table : Table) (buildImage gateImages : Value)
    (images : List Value) : Except LoadError Unit :=
  if (table.lookup "binary_format").any (·.equals (.str "macho64-le")) then
    checkMacho targetId table buildImage gateImages
  else checkElf targetId table buildImage images

/-- The checks of a target behind that of its id. -/
def readTarget (targetId : String) (table : Table) : Except LoadError Target := do
  checkHostMachines targetId (table.lookup "host_machines")
  let buildImage := (table.lookup "build_image").getD .none
  let gateImages := (table.lookup "gate_images").getD .none
  match iterate gateImages with
  | none => throw (.python .TypeError)
  | some images => do
    checkImages targetId (buildImage :: images)
    checkFormat targetId table buildImage gateImages images
    let members ← readMembers targetId (table.lookup "members")
    let tools ← readTools targetId (table.lookup "required_tools")
    return ⟨targetId, members, tools, table⟩

/-- One turn of the loop over `targets`. -/
def addTarget (indexed : List (String × Target)) : Value → Except LoadError (List (String × Target))
  | .dict table => do
    unknownKeys "target" table targetKeys
    let missing := missingKeys table requiredTargetKeys
    checkAuthority missing.isEmpty (.missingTargetFields (table.lookup "id") missing)
    match (table.lookup "id").getD .none with
    | .str targetId => do
      checkAuthority (indexed.lookup targetId).isNone (.duplicateTarget targetId)
      checkAuthority (targetId ∈ targetIds) (.unknownTarget (.str targetId))
      let target ← readTarget targetId table
      return indexed ++ [(targetId, target)]
    | id => if hashable id then throw (.authority (.unknownTarget id)) else throw (.python .TypeError)
  | _ => throw (.authority .targetNotATable)

def checkBaseCommit : Option Value → Except LoadError Unit
  | some (.str commit) => checkAuthority (isHex 40 commit) .upstreamBaseCommit
  | _ => throw (.authority .upstreamBaseCommit)

/-- `load`, on what the TOML reader has made of the file. -/
def load (data : Table) : Except LoadError Authority := do
  unknownKeys "release authority" data rootKeys
  match data.lookup "release", data.lookup "targets" with
  | some (.dict release), some (.list targets) => do
    unknownKeys "release" release releaseKeys
    let missing := missingKeys release releaseKeys
    checkAuthority missing.isEmpty (.missingReleaseFields missing)
    checkAuthority (((release.lookup "ca_bundle_sha256").bind hexText).any (isHex 64))
      .caBundleSha256
    checkBaseCommit (release.lookup "upstream_base_commit")
    let indexed ← targets.foldlM addTarget []
    let missingTargets := targetIds.filter fun targetId => (indexed.lookup targetId).isNone
    checkAuthority missingTargets.isEmpty (.missingTargets missingTargets)
    return ⟨release, indexed⟩
  | _, _ => throw (.authority .tablesRequired)

section Loading
variable {data : Table} {authority : Authority}

theorem checkAuthority_iff {cond : Bool} {e : AuthorityError} {u : Unit} :
    checkAuthority cond e = .ok u ↔ cond = true := by
  cases cond <;> simp [checkAuthority]

theorem readTarget_id {targetId : String} {table : Table} {target : Target}
    (h : readTarget targetId table = .ok target) : target.id = targetId := by
  rw [readTarget, bind_eq_ok] at h
  obtain ⟨_, -, h⟩ := h
  dsimp only at h
  split at h
  · cases h
  · simp only [bind_eq_ok, pure_eq_ok, Except.ok.injEq] at h
    obtain ⟨_, -, _, -, _, -, _, -, rfl⟩ := h
    rfl

/-- A turn of the loop adds one target, whose id is new and known. -/
theorem addTarget_ok {indexed indexed' : List (String × Target)} {value : Value}
    (h : addTarget indexed value = .ok indexed') :
    ∃ target : Target, indexed.lookup target.id = none ∧ target.id ∈ targetIds ∧
      indexed' = indexed ++ [(target.id, target)] := by
  cases value with
  | dict table =>
    rw [addTarget, bind_eq_ok] at h
    obtain ⟨_, -, h⟩ := h
    rw [bind_eq_ok] at h
    obtain ⟨_, -, h⟩ := h
    split at h
    next targetId _ =>
      simp only [bind_eq_ok, checkAuthority_iff, pure_eq_ok, Except.ok.injEq,
        Option.isNone_iff_eq_none, decide_eq_true_eq] at h
      obtain ⟨_, hnew, _, hknown, target, htarget, rfl⟩ := h
      obtain rfl := readTarget_id htarget
      exact ⟨target, hnew, hknown, rfl⟩
    · split_ifs at h
  | _ => cases h

/-- The targets so far, each once and under its own id. -/
structure Indexed (indexed : List (String × Target)) : Prop where
  distinct : Distinct indexed
  named : ∀ entry ∈ indexed, entry.1 ∈ targetIds ∧ entry.2.id = entry.1

theorem addTarget_indexed {indexed indexed' : List (String × Target)} {value : Value}
    (hindexed : Indexed indexed) (h : addTarget indexed value = .ok indexed') :
    Indexed indexed' := by
  obtain ⟨target, hnew, hknown, rfl⟩ := addTarget_ok h
  constructor
  · rw [Distinct, keys_append, List.nodup_append]
    refine ⟨hindexed.distinct, List.nodup_singleton _, ?_⟩
    intro key hkey other hother heq
    have hother : other = target.id := List.mem_singleton.mp hother
    exact lookup_eq_none_iff.mp hnew (hother ▸ heq ▸ hkey)
  · intro entry hentry
    cases List.mem_append.mp hentry with
    | inl hold => exact hindexed.named entry hold
    | inr hlast =>
      obtain rfl := List.mem_singleton.mp hlast
      exact ⟨hknown, rfl⟩

/-- An authority that `load` accepts has the three targets and no other. -/
theorem load_indexed (h : load data = .ok authority) :
    Indexed authority.targets ∧ ∀ targetId ∈ targetIds,
      (authority.targets.lookup targetId).isSome = true := by
  rw [load, bind_eq_ok] at h
  obtain ⟨_, -, h⟩ := h
  split at h
  · simp only [bind_eq_ok, checkAuthority_iff, pure_eq_ok, Except.ok.injEq] at h
    obtain ⟨_, -, _, -, _, -, _, -, indexed, hfold, _, hmissing, rfl⟩ := h
    constructor
    · exact foldlM_keeps (fun _ _ _ => addTarget_indexed) ⟨distinct_nil, by simp⟩ hfold
    · intro targetId hmem
      rw [List.isEmpty_iff, List.filter_eq_nil_iff] at hmissing
      simpa using hmissing targetId hmem
  · cases h

end Loading

end AttestationSdk.ReleaseSet
