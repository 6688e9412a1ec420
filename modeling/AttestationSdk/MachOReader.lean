import AttestationSdk.BinaryReader
import AttestationSdk.FoldRules

/-! `macho.py`: the reader of the Mach-O 64 fields that the release rail uses, and what an accepted
file holds. -/
namespace AttestationSdk.MachO
open BinaryReader ByteLayout ExceptRules FoldRules

def MH_MAGIC_64 : Nat := 0xFEEDFACF
def MH_CIGAM_64 : Nat := 0xCFFAEDFE
def FAT_MAGICS : List Nat := [0xCAFEBABE, 0xBEBAFECA, 0xCAFEBABF, 0xBFBAFECA]
def CPU_TYPE_ARM64 : Nat := 0x0100000C
def CPU_SUBTYPE_MASK : Nat := 0x00FFFFFF
def LC_REQ_DYLD : Nat := 0x80000000
def LC_LOAD_DYLIB : Nat := 0x0C
def LC_ID_DYLIB : Nat := 0x0D
def LC_LOAD_WEAK_DYLIB : Nat := LC_REQ_DYLD ||| 0x18
def LC_RPATH : Nat := LC_REQ_DYLD ||| 0x1C
def LC_REEXPORT_DYLIB : Nat := LC_REQ_DYLD ||| 0x1F
def LC_LAZY_LOAD_DYLIB : Nat := 0x20
def LC_LOAD_UPWARD_DYLIB : Nat := LC_REQ_DYLD ||| 0x23
def LC_VERSION_MIN_MACOSX : Nat := 0x24
def LC_BUILD_VERSION : Nat := 0x32
def DYLIB_COMMANDS : List Nat := [LC_LOAD_DYLIB, LC_ID_DYLIB, LC_LOAD_WEAK_DYLIB, LC_REEXPORT_DYLIB,
  LC_LAZY_LOAD_DYLIB, LC_LOAD_UPWARD_DYLIB]

/-- The lists that the load commands are read into. -/
structure LoadCommands where
  platforms : List Nat := []
  deployments : List (Nat × Nat × Nat) := []
  dylibs : List (Nat × String) := []
  rpaths : List String := []
  deriving Repr, DecidableEq

structure MachOInfo extends LoadCommands where
  cputype : Nat
  cpusubtype : Nat
  data : Bytes
  deriving Repr, DecidableEq

/-- A load command: where it stands, what it is and how long it says it is. -/
structure LoadCommand where
  offset : Nat
  command : Nat
  size : Nat
  deriving Repr, DecidableEq

/-- `_version`. -/
def version (value : Nat) : Nat × Nat × Nat := (value >>> 16, (value >>> 8) &&& 0xFF, value &&& 0xFF)

section Read
variable (data : Bytes)

/-- A number of four bytes with the highest first, `>I`. -/
def bigEndian32 (offset : Nat) : Nat := Buffer.littleEndian ((data.drop offset).take 4).reverse

/-- `_command_string`. -/
def commandString (entry : LoadCommand) (stringOffset : Nat) : Except ReaderFault String :=
  if stringOffset < 8 ∨ entry.size ≤ stringOffset then
    parseError (entry.offset + 8)
      ("load-command string offset " ++ toString stringOffset ++ " is invalid")
  else textUntilNul data (entry.offset + stringOffset) (entry.offset + entry.size)
    "unterminated load-command string" "non-UTF-8 load-command string"

/-- What the loop does with a command by its kind. -/
def readFields (entry : LoadCommand) (found : LoadCommands) : Except ReaderFault LoadCommands :=
  if entry.command = LC_BUILD_VERSION then do
    check (24 ≤ entry.size) entry.offset "LC_BUILD_VERSION is shorter than 24 bytes"
    unpackFrom data (entry.offset + 8) 4
    unpackFrom data (entry.offset + 12) 4
    return { found with
      platforms := found.platforms ++ [u32 data (entry.offset + 8)]
      deployments := found.deployments ++ [version (u32 data (entry.offset + 12))] }
  else if entry.command = LC_VERSION_MIN_MACOSX then do
    check (16 ≤ entry.size) entry.offset "LC_VERSION_MIN_MACOSX is shorter than 16 bytes"
    unpackFrom data (entry.offset + 8) 4
    return { found with
      platforms := found.platforms ++ [1]
      deployments := found.deployments ++ [version (u32 data (entry.offset + 8))] }
  else if entry.command ∈ DYLIB_COMMANDS then do
    check (24 ≤ entry.size) entry.offset "dylib command is shorter than 24 bytes"
    unpackFrom data (entry.offset + 8) 4
    let name ← commandString data entry (u32 data (entry.offset + 8))
    return { found with dylibs := found.dylibs ++ [(entry.command, name)] }
  else if entry.command = LC_RPATH then do
    check (12 ≤ entry.size) entry.offset "LC_RPATH is shorter than 12 bytes"
    unpackFrom data (entry.offset + 8) 4
    let path ← commandString data entry (u32 data (entry.offset + 8))
    return { found with rpaths := found.rpaths ++ [path] }
  else .ok found

/-- The command at a place. -/
def commandAt (offset : Nat) : LoadCommand where
  offset := offset
  command := u32 data offset
  size := u32 data (offset + 4)

/-- The header of a command, which has to lie in the table. -/
def readCommand (stop index cursor : Nat) : Except ReaderFault LoadCommand := do
  check (cursor + 8 ≤ stop) cursor ("load command " ++ toString index ++ " exceeds sizeofcmds")
  requireBytes data cursor 8 ("load command " ++ toString index)
  unpackFrom data cursor 8
  let entry := commandAt data cursor
  check (8 ≤ entry.size) (cursor + 4)
    ("load command " ++ toString index ++ " has invalid cmdsize")
  check (cursor + entry.size ≤ stop) cursor
    ("load command " ++ toString index ++ " exceeds sizeofcmds")
  requireBytes data cursor entry.size ("load command " ++ toString index)
  return entry

/-- The loop over the commands that remain: the cursor it ends with and what was found. -/
def readCommands (stop : Nat) :
    Nat → Nat → Nat → LoadCommands → Except ReaderFault (Nat × LoadCommands)
  | 0, _, cursor, found => .ok (cursor, found)
  | remaining + 1, index, cursor, found => do
    let entry ← readCommand data stop index cursor
    let found ← readFields data entry found
    readCommands stop remaining (index + 1) (cursor + entry.size) found

end Read

/-- `read`, on the bytes of the file. -/
def read (data : Bytes) : Except ReaderFault MachOInfo := do
  requireBytes data 0 4 "magic"
  unpackFrom data 0 4
  check (bigEndian32 data 0 ∉ FAT_MAGICS) 0 "universal Mach-O is not permitted"
  check (u32 data 0 ≠ MH_CIGAM_64) 0 "big-endian Mach-O is not supported"
  check (u32 data 0 = MH_MAGIC_64) 0 "bad Mach-O magic"
  requireBytes data 0 32 "mach_header_64"
  unpackFrom data 4 8
  unpackFrom data 16 8
  let commandCount := u32 data 16
  let commandBytes := u32 data 20
  requireBytes data 32 commandBytes "load-command table"
  let commandEnd := 32 + commandBytes
  let (cursor, found) ← readCommands data commandEnd commandCount 0 32 {}
  check (cursor = commandEnd) cursor "sizeofcmds contains unclaimed bytes"
  return { found with
    cputype := u32 data 4
    cpusubtype := u32 data 8 &&& CPU_SUBTYPE_MASK
    data }

section Fails
variable {data : Bytes}

theorem commandString_fails (entry : LoadCommand) (stringOffset : Nat) :
    FailsOnly ReaderFault.IsParseError (commandString data entry stringOffset) :=
  failsOnly_ite (fun _ => parseError_fails) fun _ => textUntilNul_fails

/-- The size that is checked covers the fields that are unpacked. -/
theorem readFields_fails {entry : LoadCommand} (found : LoadCommands)
    (h : entry.offset + entry.size ≤ data.length) :
    FailsOnly ReaderFault.IsParseError (readFields data entry found) := by
  refine failsOnly_ite (fun _ => ?_) fun _ => failsOnly_ite (fun _ => ?_) fun _ =>
    failsOnly_ite (fun _ => ?_) fun _ => failsOnly_ite (fun _ => ?_) fun _ => failsOnly_ok _ found
  all_goals
    refine check_fails.bind fun _ hsize => ?_
    have hsize := of_decide_eq_true (check_iff.mp hsize)
    refine (unpackFrom_fails (by omega)).bind fun _ _ => ?_
  · exact (unpackFrom_fails (by omega)).bind fun _ _ => failsOnly_ok _ _
  · exact failsOnly_ok _ _
  · exact (commandString_fails _ _).bind fun _ _ => failsOnly_ok _ _
  · exact (commandString_fails _ _).bind fun _ _ => failsOnly_ok _ _

theorem readCommand_fails (stop index cursor : Nat) :
    FailsOnly ReaderFault.IsParseError (readCommand data stop index cursor) := by
  refine check_fails.bind fun _ _ => requireBytes_fails.bind fun _ hheader => ?_
  refine (unpackFrom_fails (requireBytes_iff.mp hheader)).bind fun _ _ => ?_
  refine check_fails.bind fun _ _ => check_fails.bind fun _ _ => ?_
  exact requireBytes_fails.bind fun _ _ => failsOnly_ok _ _

/-- A command that is accepted is the one at the cursor, and it lies in the table. -/
theorem readCommand_ok {stop index cursor : Nat} {entry : LoadCommand}
    (h : readCommand data stop index cursor = .ok entry) :
    entry = commandAt data cursor ∧ 8 ≤ entry.size ∧ cursor + entry.size ≤ stop ∧
      cursor + entry.size ≤ data.length := by
  obtain ⟨_, _, h⟩ := bind_eq_ok.mp h
  obtain ⟨_, _, h⟩ := bind_eq_ok.mp h
  obtain ⟨_, _, h⟩ := bind_eq_ok.mp h
  obtain ⟨_, hmin, h⟩ := bind_eq_ok.mp h
  obtain ⟨_, hstop, h⟩ := bind_eq_ok.mp h
  obtain ⟨_, hinside, h⟩ := bind_eq_ok.mp h
  obtain rfl := Except.ok.inj h
  exact ⟨rfl, of_decide_eq_true (check_iff.mp hmin), of_decide_eq_true (check_iff.mp hstop),
    requireBytes_iff.mp hinside⟩

theorem readCommands_fails (stop remaining index cursor : Nat) (found : LoadCommands) :
    FailsOnly ReaderFault.IsParseError
      (readCommands data stop remaining index cursor found) := by
  induction remaining generalizing index cursor found with
  | zero => exact failsOnly_ok _ (cursor, found)
  | succ remaining ih =>
    refine (readCommand_fails stop index cursor).bind fun entry hentry => ?_
    obtain ⟨rfl, _, _, hinside⟩ := readCommand_ok hentry
    exact (readFields_fails found hinside).bind fun found _ => ih _ _ found

theorem read_fails (data : Bytes) : FailsOnly ReaderFault.IsParseError (read data) := by
  refine requireBytes_fails.bind fun _ hmagic => ?_
  refine (unpackFrom_fails (requireBytes_iff.mp hmagic)).bind fun _ _ => ?_
  refine check_fails.bind fun _ _ => check_fails.bind fun _ _ => check_fails.bind fun _ _ => ?_
  refine requireBytes_fails.bind fun _ hheader => ?_
  have hlength := requireBytes_iff.mp hheader
  refine (unpackFrom_fails (by omega)).bind fun _ _ => ?_
  refine (unpackFrom_fails (by omega)).bind fun _ _ => ?_
  refine requireBytes_fails.bind fun _ _ => ?_
  refine (readCommands_fails _ _ _ _ _).bind fun _ _ => ?_
  exact check_fails.bind fun _ _ => failsOnly_ok _ _

end Fails

section Layout
variable (data : Bytes)

/-- Commands that follow one another from an offset on, up to another. -/
inductive Tiles : Nat → List LoadCommand → Nat → Prop
  | done (offset : Nat) : Tiles offset [] offset
  | next {offset stop : Nat} {rest : List LoadCommand} (hmin : 8 ≤ (commandAt data offset).size)
      (hrest : Tiles (offset + (commandAt data offset).size) rest stop) :
      Tiles offset (commandAt data offset :: rest) stop

/-- The least size of a command by its kind. -/
def minimumSize (command : Nat) : Nat :=
  if command = LC_BUILD_VERSION then 24
  else if command = LC_VERSION_MIN_MACOSX then 16
  else if command ∈ DYLIB_COMMANDS then 24
  else if command = LC_RPATH then 12
  else 8

/-- The platform and the deployment version that a command tells. -/
def buildVersion (entry : LoadCommand) : Option (Nat × (Nat × Nat × Nat)) :=
  if entry.command = LC_BUILD_VERSION then
    some (u32 data (entry.offset + 8), version (u32 data (entry.offset + 12)))
  else if entry.command = LC_VERSION_MIN_MACOSX then
    some (1, version (u32 data (entry.offset + 8)))
  else none

/-- The text that a command names stands with its NUL inside the command, behind its header. -/
def CommandText (entry : LoadCommand) (text : String) : Prop :=
  8 ≤ u32 data (entry.offset + 8) ∧
    NulText data (entry.offset + u32 data (entry.offset + 8)) (entry.offset + entry.size) text

def DylibText (entry : LoadCommand) (dylib : Nat × String) : Prop :=
  dylib.1 = entry.command ∧ CommandText data entry dylib.2

def isDylib (entry : LoadCommand) : Bool := entry.command ∈ DYLIB_COMMANDS

def isRpath (entry : LoadCommand) : Bool := entry.command = LC_RPATH

/-- What some commands add to the lists. -/
structure Reads (entries : List LoadCommand) (found found' : LoadCommands) : Prop where
  sizes : ∀ entry ∈ entries, minimumSize entry.command ≤ entry.size
  platforms : found'.platforms =
    found.platforms ++ (entries.filterMap (buildVersion data)).map Prod.fst
  deployments : found'.deployments =
    found.deployments ++ (entries.filterMap (buildVersion data)).map Prod.snd
  dylibs : Adds (DylibText data) (entries.filter isDylib) found.dylibs found'.dylibs
  rpaths : Adds (CommandText data) (entries.filter isRpath) found.rpaths found'.rpaths

/-- What an accepted file holds. -/
structure Exact (info : MachOInfo) : Prop where
  data_eq : info.data = data
  header : 32 ≤ data.length
  magic : u32 data 0 = MH_MAGIC_64
  cputype : info.cputype = u32 data 4
  cpusubtype : info.cpusubtype = u32 data 8 &&& CPU_SUBTYPE_MASK
  table : 32 + u32 data 20 ≤ data.length
  commands : ∃ entries, entries.length = u32 data 16 ∧ Tiles data 32 entries (32 + u32 data 20) ∧
    (∀ entry ∈ entries, minimumSize entry.command ≤ entry.size) ∧
    info.platforms = (entries.filterMap (buildVersion data)).map Prod.fst ∧
    info.deployments = (entries.filterMap (buildVersion data)).map Prod.snd ∧
    List.Forall₂ (DylibText data) (entries.filter isDylib) info.dylibs ∧
    List.Forall₂ (CommandText data) (entries.filter isRpath) info.rpaths

end Layout

section Lists
variable {data : Bytes} {found found' found'' : LoadCommands} {entry : LoadCommand}

theorem commandString_ok {text : String} (hinside : entry.offset + entry.size ≤ data.length)
    (h : commandString data entry (u32 data (entry.offset + 8)) = .ok text) :
    CommandText data entry text := by
  rw [commandString] at h
  by_cases houtside : u32 data (entry.offset + 8) < 8 ∨ entry.size ≤ u32 data (entry.offset + 8)
  · rw [if_pos houtside] at h
    cases h
  · rw [if_neg houtside] at h
    exact ⟨by omega, textUntilNul_ok hinside h⟩

theorem Reads.empty : Reads data [] found found where
  sizes := by simp
  platforms := (List.append_nil _).symm
  deployments := (List.append_nil _).symm
  dylibs := .none
  rpaths := .none

theorem Reads.trans {entries entries' : List LoadCommand} (h : Reads data entries found found')
    (h' : Reads data entries' found' found'') : Reads data (entries ++ entries') found found'' where
  sizes := by
    intro entry hmem
    cases List.mem_append.mp hmem with
    | inl hfirst => exact h.sizes entry hfirst
    | inr hsecond => exact h'.sizes entry hsecond
  platforms := by
    rw [h'.platforms, h.platforms, List.filterMap_append, List.map_append, List.append_assoc]
  deployments := by
    rw [h'.deployments, h.deployments, List.filterMap_append, List.map_append, List.append_assoc]
  dylibs := by
    rw [List.filter_append]
    exact h.dylibs.trans h'.dylibs
  rpaths := by
    rw [List.filter_append]
    exact h.rpaths.trans h'.rpaths

theorem buildVersions_one :
    [entry].filterMap (buildVersion data) = (buildVersion data entry).toList := by
  rw [List.filterMap_cons, List.filterMap_nil]
  cases buildVersion data entry with
  | none => rfl
  | some found => rfl

theorem Reads.one (hsize : minimumSize entry.command ≤ entry.size)
    (hplatforms : found'.platforms =
      found.platforms ++ (buildVersion data entry).toList.map Prod.fst)
    (hdeployments : found'.deployments =
      found.deployments ++ (buildVersion data entry).toList.map Prod.snd)
    (hdylibs : Adds (DylibText data) (if isDylib entry then [entry] else []) found.dylibs
      found'.dylibs)
    (hrpaths : Adds (CommandText data) (if isRpath entry then [entry] else []) found.rpaths
      found'.rpaths) : Reads data [entry] found found' where
  sizes := List.forall_mem_singleton.mpr hsize
  platforms := by rwa [buildVersions_one]
  deployments := by rwa [buildVersions_one]
  dylibs := by rwa [List.filter_singleton, Bool.cond_eq_ite]
  rpaths := by rwa [List.filter_singleton, Bool.cond_eq_ite]

/-- A command that tells no version leaves the platforms and deployments. -/
theorem Reads.unversioned (hbuilt : buildVersion data entry = none)
    (hsize : minimumSize entry.command ≤ entry.size)
    (hplatforms : found'.platforms = found.platforms)
    (hdeployments : found'.deployments = found.deployments)
    (hdylibs : Adds (DylibText data) (if isDylib entry then [entry] else []) found.dylibs
      found'.dylibs)
    (hrpaths : Adds (CommandText data) (if isRpath entry then [entry] else []) found.rpaths
      found'.rpaths) : Reads data [entry] found found' := by
  refine .one hsize ?_ ?_ hdylibs hrpaths
  · rw [hbuilt, hplatforms]
    exact (List.append_nil _).symm
  · rw [hbuilt, hdeployments]
    exact (List.append_nil _).symm

/-- A command that tells a version adds it alone. -/
theorem Reads.versioned {version : Nat × (Nat × Nat × Nat)} (hbuilt : buildVersion data entry = some version)
    (hkind : isDylib entry = false ∧ isRpath entry = false)
    (hsize : minimumSize entry.command ≤ entry.size)
    (hplatforms : found'.platforms = found.platforms ++ [version.1])
    (hdeployments : found'.deployments = found.deployments ++ [version.2])
    (hdylibs : found'.dylibs = found.dylibs) (hrpaths : found'.rpaths = found.rpaths) :
    Reads data [entry] found found' := by
  refine .one hsize ?_ ?_ ?_ ?_
  · rw [hbuilt]
    exact hplatforms
  · rw [hbuilt]
    exact hdeployments
  · rw [hkind.1, hdylibs]
    exact .none
  · rw [hkind.2, hrpaths]
    exact .none

/-- A command adds what its kind tells, and nothing else. -/
theorem readFields_reads (hmin : 8 ≤ entry.size)
    (hinside : entry.offset + entry.size ≤ data.length)
    (h : readFields data entry found = .ok found') : Reads data [entry] found found' := by
  rw [readFields] at h
  by_cases hbuild : entry.command = LC_BUILD_VERSION
  · rw [if_pos hbuild] at h
    obtain ⟨_, hsize, h⟩ := bind_eq_ok.mp h
    obtain ⟨_, _, h⟩ := bind_eq_ok.mp h
    obtain ⟨_, _, h⟩ := bind_eq_ok.mp h
    cases h
    have hother : isDylib entry = false ∧ isRpath entry = false := by
      rw [isDylib, isRpath, hbuild]
      decide
    refine .versioned (if_pos hbuild) hother ?_ rfl rfl rfl rfl
    rw [minimumSize, if_pos hbuild]
    exact of_decide_eq_true (check_iff.mp hsize)
  rw [if_neg hbuild] at h
  by_cases hlegacy : entry.command = LC_VERSION_MIN_MACOSX
  · rw [if_pos hlegacy] at h
    obtain ⟨_, hsize, h⟩ := bind_eq_ok.mp h
    obtain ⟨_, _, h⟩ := bind_eq_ok.mp h
    cases h
    have hother : isDylib entry = false ∧ isRpath entry = false := by
      rw [isDylib, isRpath, hlegacy]
      decide
    refine .versioned ((if_neg hbuild).trans (if_pos hlegacy)) hother ?_ rfl rfl rfl rfl
    rw [minimumSize, if_neg hbuild, if_pos hlegacy]
    exact of_decide_eq_true (check_iff.mp hsize)
  rw [if_neg hlegacy] at h
  have hbuilt : buildVersion data entry = none := by
    rw [buildVersion, if_neg hbuild, if_neg hlegacy]
  by_cases hdylib : entry.command ∈ DYLIB_COMMANDS
  · rw [if_pos hdylib] at h
    obtain ⟨_, hsize, h⟩ := bind_eq_ok.mp h
    obtain ⟨_, _, h⟩ := bind_eq_ok.mp h
    obtain ⟨name, hname, h⟩ := bind_eq_ok.mp h
    cases h
    have hrpath : entry.command ≠ LC_RPATH := by
      intro heq
      rw [heq] at hdylib
      exact absurd hdylib (by decide)
    refine .unversioned hbuilt ?_ rfl rfl ?_ ?_
    · rw [minimumSize, if_neg hbuild, if_neg hlegacy, if_pos hdylib]
      exact of_decide_eq_true (check_iff.mp hsize)
    · rw [isDylib, decide_eq_true hdylib]
      exact .one ⟨rfl, commandString_ok hinside hname⟩
    · rw [isRpath, decide_eq_false hrpath]
      exact .none
  rw [if_neg hdylib] at h
  by_cases hrpath : entry.command = LC_RPATH
  · rw [if_pos hrpath] at h
    obtain ⟨_, hsize, h⟩ := bind_eq_ok.mp h
    obtain ⟨_, _, h⟩ := bind_eq_ok.mp h
    obtain ⟨path, hpath, h⟩ := bind_eq_ok.mp h
    cases h
    refine .unversioned hbuilt ?_ rfl rfl ?_ ?_
    · rw [minimumSize, if_neg hbuild, if_neg hlegacy, if_neg hdylib, if_pos hrpath]
      exact of_decide_eq_true (check_iff.mp hsize)
    · rw [isDylib, decide_eq_false hdylib]
      exact .none
    · rw [isRpath, decide_eq_true hrpath]
      exact .one (commandString_ok hinside hpath)
  rw [if_neg hrpath] at h
  cases h
  refine .unversioned hbuilt ?_ rfl rfl ?_ ?_
  · rwa [minimumSize, if_neg hbuild, if_neg hlegacy, if_neg hdylib, if_neg hrpath]
  · rw [isDylib, decide_eq_false hdylib]
    exact .none
  · rw [isRpath, decide_eq_false hrpath]
    exact .none

/-- The commands that are read follow one another from the cursor to where it ends. -/
theorem readCommands_reads {stop remaining index cursor cursor' : Nat}
    (h : readCommands data stop remaining index cursor found = .ok (cursor', found')) :
    ∃ entries, entries.length = remaining ∧ Tiles data cursor entries cursor' ∧
      Reads data entries found found' := by
  induction remaining generalizing index cursor found with
  | zero =>
    cases h
    exact ⟨[], rfl, .done _, .empty⟩
  | succ remaining ih =>
    obtain ⟨entry, hentry, h⟩ := bind_eq_ok.mp h
    obtain ⟨rfl, hmin, _, hinside⟩ := readCommand_ok hentry
    obtain ⟨found₁, hfields, h⟩ := bind_eq_ok.mp h
    obtain ⟨rest, hlength, htiles, hreads⟩ := ih h
    refine ⟨commandAt data cursor :: rest, ?_, .next hmin htiles, ?_⟩
    · rw [List.length_cons, hlength]
    · exact (readFields_reads hmin hinside hfields).trans hreads

theorem read_ok {info : MachOInfo} (h : read data = .ok info) : Exact data info := by
  obtain ⟨_, _, h⟩ := bind_eq_ok.mp h
  obtain ⟨_, _, h⟩ := bind_eq_ok.mp h
  obtain ⟨_, _, h⟩ := bind_eq_ok.mp h
  obtain ⟨_, _, h⟩ := bind_eq_ok.mp h
  obtain ⟨_, hmagic, h⟩ := bind_eq_ok.mp h
  obtain ⟨_, hheader, h⟩ := bind_eq_ok.mp h
  obtain ⟨_, _, h⟩ := bind_eq_ok.mp h
  obtain ⟨_, _, h⟩ := bind_eq_ok.mp h
  obtain ⟨_, htable, h⟩ := bind_eq_ok.mp h
  obtain ⟨⟨cursor, found⟩, hcommands, h⟩ := bind_eq_ok.mp h
  obtain ⟨_, hall, h⟩ := bind_eq_ok.mp h
  obtain rfl := Except.ok.inj h
  have hend := of_decide_eq_true (check_iff.mp hall)
  obtain ⟨entries, hlength, htiles, hreads⟩ := readCommands_reads hcommands
  rw [hend] at htiles
  have hheader := requireBytes_iff.mp hheader
  rw [Nat.zero_add] at hheader
  exact {
    data_eq := rfl
    header := hheader
    magic := of_decide_eq_true (check_iff.mp hmagic)
    cputype := rfl
    cpusubtype := rfl
    table := requireBytes_iff.mp htable
    commands := ⟨entries, hlength, htiles, hreads.sizes, hreads.platforms, hreads.deployments,
      hreads.dylibs.all, hreads.rpaths.all⟩ }

end Lists

/-- What the reader may do with a file: raise its own exception, or read exactly what is there. -/
def ReadResult (data : Bytes) : Except ReaderFault MachOInfo → Prop
  | .error fault => fault.IsParseError
  | .ok info => Exact data info

theorem read_tiles (data : Bytes) : ReadResult data (read data) := by
  cases hread : read data with
  | error fault => exact read_fails data fault hread
  | ok info => exact read_ok hread

end AttestationSdk.MachO
