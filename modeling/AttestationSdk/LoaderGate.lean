import AttestationSdk.ElfReader
import AttestationSdk.MachOReader
import AttestationSdk.ReleaseRail

/-! `gate.py`: what the gate of the release rail asks of the binaries, and which of them it takes for
libraries. -/
namespace AttestationSdk.LoaderGate
open PyValue ReleaseSet ExceptRules BinaryReader

/-- The `GateError`s, one for each `raise` of `gate_elf`, `gate_macho` and `gate_file`. -/
inductive GateError
  | unreadable (offset : Nat) (message : String)
  | hostCaPath (value : String)
  | openssldirPath (value : String)
  | opensslModulePath (value : String)
  | elfArchitecture (expectedArch : Value) (expected machine : Nat)
  | noNeeded
  | forbiddenNeeded (needed : String)
  | aboveFloor (family value limit : String)
  | rpath (rpaths : List String)
  | libraryRunpath (runpaths : List String)
  | emptyRunpathEntry (runpath : String)
  | executableRunpath (expected : Value) (runpaths : List String)
  | machoArchitecture (cputype : Nat)
  | cpusubtype (cpusubtype : Nat)
  | noDeployments
  | platform
  | deploymentTarget (expected : List Int) (deployments : List (Nat × Nat × Nat))
  | noLoaded
  | installId (expected : Value) (identities : List String)
  | libraryRpath
  | executableRpath (expected : Value)
  | forbiddenReference (reference : String)
  | unsupportedFormat (format : Value)

/-- What the gate raises. -/
inductive GateFault
  | gate (e : GateError)
  | reader (e : ReaderFault)
  | python (e : PythonError)

def refuseUnless (condition : Bool) (e : GateError) : Except GateFault Unit :=
  if condition then .ok () else .error (.gate e)

/-- `target[key]`. -/
def item (target : Target) (key : String) : Except GateFault Value :=
  match target.get? key with
  | some value => .ok value
  | none => .error (.python .KeyError)

/-- A reader inside `gate_file`, which turns the readers' own errors into the gate's. -/
def opened {α : Type} : Except ReaderFault α → Except GateFault α
  | .ok info => .ok info
  | .error (.parseError offset message) => .error (.gate (.unreadable offset message))
  | .error e => .error (.reader e)

def FORBIDDEN_CA_PATHS : List String :=
  ["/etc/ssl/certs/ca-certificates.crt", "/etc/pki/tls/certs/ca-bundle.crt", "/etc/ssl/cert.pem"]

def FORBIDDEN_OPENSSLDIR_PATHS : List String :=
  ["openssl-install/certs", "openssl-install/cert.pem", "openssl-install/private",
    "openssl-install/ct_log_list.cnf"]

def FORBIDDEN_OPENSSL_MODULE_PATHS : List String :=
  ["openssl-install/lib/ossl-modules", "openssl-install/lib/engines-3"]

/-- `_ELF_MACHINES`. -/
def elfMachines : List (String × Nat) :=
  [("EM_X86_64", Elf.EM_X86_64), ("EM_AARCH64", Elf.EM_AARCH64)]

/-- `_ELF_MACHINES[target["expected_arch"]]`. -/
def elfMachine (arch : Value) : Except GateFault Nat :=
  match arch with
  | .str name => match elfMachines.lookup name with
    | some machine => .ok machine
    | none => .error (.python .KeyError)
  | _ => .error (.python (if hashable arch then .KeyError else .TypeError))

/-- `[0-9]+(?:\.[0-9]+)*`. -/
def isDotted (text : List Char) : Bool :=
  (text.splitOn '.').all fun component => !component.isEmpty && component.all isDigit

def floorKeys : List (String × String) :=
  [("GLIBC", "glibc"), ("GLIBCXX", "glibcxx"), ("CXXABI", "cxxabi")]

/-- The groups of `_VERSION.fullmatch`. -/
def matchVersion (version : String) : Option (String × String) :=
  floorKeys.findSome? fun (family, _) =>
    let start := family.toList ++ ['_']
    let rest := version.toList.drop start.length
    if start.isPrefixOf version.toList && isDotted rest then some (family, String.ofList rest)
    else none

section Gate
-- the built-in `int` on a text; `none` is a `ValueError`
variable (int : String → Option Int)

/-- `_version_tuple`. -/
def versionTuple (value : String) : Except GateFault (List Int) :=
  match (value.toList.splitOn '.').mapM fun component => int (String.ofList component) with
  | some components => .ok components
  | none => .error (.python .ValueError)

/-- `target["abi_floor"][key]`, of which a version is made. -/
def floorLimit (target : Target) (key : String) : Except GateFault String := do
  match ← item target "abi_floor" with
  | .dict floor => match floor.lookup key with
    | some (.str limit) => .ok limit
    | some _ => .error (.python .AttributeError)
    | none => .error (.python .KeyError)
  | _ => .error (.python .TypeError)

/-- A symbol version of the three families is not above the floor of the target. -/
def gateVersion (target : Target) (version : String) : Except GateFault Unit :=
  match matchVersion version with
  | none => .ok ()
  | some (family, value) => do
    let limit ← floorLimit target ((floorKeys.lookup family).getD "")
    let required ← versionTuple int value
    let floor ← versionTuple int limit
    refuseUnless (!decide (floor < required)) (.aboveFloor family value limit)

/-- `value in data`, for a text of ASCII characters. -/
def contains (data : Bytes) (value : String) : Bool :=
  decide (value.toList.map (fun c => UInt8.ofNat c.toNat) <:+: data)

/-- `_forbidden_strings`. -/
def forbiddenStrings (data : Bytes) : Except GateFault Unit := do
  FORBIDDEN_CA_PATHS.forM fun value => refuseUnless (!contains data value) (.hostCaPath value)
  FORBIDDEN_OPENSSLDIR_PATHS.forM fun value =>
    refuseUnless (!contains data value) (.openssldirPath value)
  FORBIDDEN_OPENSSL_MODULE_PATHS.forM fun value =>
    refuseUnless (!contains data value) (.opensslModulePath value)

/-- A list of texts is the one text. -/
def isOnly (texts : List String) (expected : Value) : Bool :=
  match texts with
  | [text] => (Value.str text).equals expected
  | _ => false

def hasEmptyEntry (runpath : String) : Bool := (runpath.toList.splitOn ':').any List.isEmpty

/-- `_gate_elf_runpath`. -/
def gateElfRunpath (info : Elf.ElfInfo) (target : Target) : Except GateFault Unit := do
  refuseUnless info.rpaths.isEmpty (.rpath info.rpaths)
  if info.soname.isEmpty then do
    info.runpaths.forM fun runpath =>
      refuseUnless (!hasEmptyEntry runpath) (.emptyRunpathEntry runpath)
    let expected ← item target "elf_runpath"
    refuseUnless (isOnly info.runpaths expected) (.executableRunpath expected info.runpaths)
  else refuseUnless info.runpaths.isEmpty (.libraryRunpath info.runpaths)

/-- `gate_elf`, on the bytes of the file. -/
def gateElf (bytes : Bytes) (target : Target) (allowlist : List String) :
    Except GateFault Unit := do
  let info ← opened (Elf.read bytes)
  let arch ← item target "expected_arch"
  let expected ← elfMachine arch
  refuseUnless (info.machine = expected) (.elfArchitecture arch expected info.machine)
  refuseUnless (!info.needed.isEmpty) .noNeeded
  info.needed.forM fun needed => refuseUnless (needed ∈ allowlist) (.forbiddenNeeded needed)
  info.versions.forM (gateVersion int target)
  gateElfRunpath info target
  forbiddenStrings info.data

/-- `_allowed_macho_reference`. -/
def allowedMachoReference (reference : String) (allowlist : List String) : Bool :=
  allowlist.any fun rule =>
    let kind := rule.toList.takeWhile (· ≠ ':')
    match rule.toList.drop kind.length with
    | ':' :: value =>
      (kind = "exact".toList && reference.toList = value) ||
        (kind = "prefix".toList && value.isPrefixOf reference.toList)
    | _ => false

def identities (info : MachO.MachOInfo) : List String :=
  (info.dylibs.filter (·.1 = MachO.LC_ID_DYLIB)).map Prod.snd

def loaded (info : MachO.MachOInfo) : List String :=
  (info.dylibs.filter (·.1 ≠ MachO.LC_ID_DYLIB)).map Prod.snd

/-- The part of `gate_macho` on the identity and the loader paths. -/
def gateMachoPaths (info : MachO.MachOInfo) (target : Target) : Except GateFault Unit :=
  if (identities info).isEmpty then do
    let expected ← item target "macho_rpath"
    refuseUnless (isOnly info.rpaths expected) (.executableRpath expected)
  else do
    let expected ← item target "macho_install_id"
    refuseUnless (isOnly (identities info) expected) (.installId expected (identities info))
    refuseUnless info.rpaths.isEmpty .libraryRpath

/-- `gate_macho`, on the bytes of the file. -/
def gateMacho (bytes : Bytes) (target : Target) (allowlist : List String) :
    Except GateFault Unit := do
  let info ← opened (MachO.read bytes)
  refuseUnless (info.cputype = MachO.CPU_TYPE_ARM64) (.machoArchitecture info.cputype)
  refuseUnless (info.cpusubtype = 0) (.cpusubtype info.cpusubtype)
  refuseUnless (!info.deployments.isEmpty) .noDeployments
  refuseUnless (info.platforms.all (· = 1)) .platform
  let limit ← floorLimit target "macos"
  let floor ← versionTuple int limit
  let expected := floor ++ List.replicate (3 - floor.length) 0
  refuseUnless (info.deployments.all fun (x, y, z) => [(x : Int), (y : Int), (z : Int)] = expected)
    (.deploymentTarget expected info.deployments)
  refuseUnless (!(loaded info).isEmpty) .noLoaded
  gateMachoPaths info target
  (loaded info).forM fun reference =>
    refuseUnless (allowedMachoReference reference allowlist) (.forbiddenReference reference)
  forbiddenStrings info.data

/-- `gate_file`, on the bytes of the file. -/
def gateFile (bytes : Bytes) (target : Target) (allowlist : List String) :
    Except GateFault Unit := do
  let format ← item target "binary_format"
  if format.equals (.str "elf64-le") then gateElf int bytes target allowlist
  else if format.equals (.str "macho64-le") then gateMacho int bytes target allowlist
  else .error (.gate (.unsupportedFormat format))

/-- The gate, as the validator and the driver use it. -/
def passes (bytes : Bytes) (target : Target) (allowlist : List String) : Bool :=
  match gateFile int bytes target allowlist with
  | .ok _ => true
  | .error _ => false

end Gate

/-- What a binary says, by the format of its target. -/
inductive BinaryInfo
  | elf (info : Elf.ElfInfo)
  | macho (info : MachO.MachOInfo)

def binaryInfo (target : Target) (bytes : Bytes) : Option BinaryInfo :=
  match target.get? "binary_format" with
  | some (.str "elf64-le") => (Elf.read bytes).toOption.map .elf
  | some (.str "macho64-le") => (MachO.read bytes).toOption.map .macho
  | _ => none

/-- The file names itself as a library. -/
def BinaryInfo.namesLibrary : BinaryInfo → Bool
  | .elf info => !info.soname.isEmpty
  | .macho info => !(identities info).isEmpty

/-- The one loader path of the target, and no `DT_RPATH`. -/
def ExecutablePaths (target : Target) : BinaryInfo → Prop
  | .elf info => (∃ runpath, target.get? "elf_runpath" = some (.str runpath) ∧
      info.runpaths = [runpath]) ∧ info.rpaths = []
  | .macho info => ∃ rpath, target.get? "macho_rpath" = some (.str rpath) ∧ info.rpaths = [rpath]

/-- No loader path, and the identity of the target where the format has one. -/
def LibraryPaths (target : Target) : BinaryInfo → Prop
  | .elf info => info.rpaths = [] ∧ info.runpaths = []
  | .macho info => info.rpaths = [] ∧ ∃ installId,
      target.get? "macho_install_id" = some (.str installId) ∧ identities info = [installId]

section Paths
variable {int : String → Option Int} {target : Target} {bytes : Bytes} {allowlist : List String}

theorem refuseUnless_iff {condition : Bool} {e : GateError} {u : Unit} :
    refuseUnless condition e = .ok u ↔ condition = true := by
  cases condition with
  | false => exact iff_of_false nofun nofun
  | true => exact iff_of_true rfl rfl

theorem item_iff {key : String} {value : Value} :
    item target key = .ok value ↔ target.get? key = some value := by
  rw [item]
  cases target.get? key with
  | none => exact iff_of_false nofun nofun
  | some found => exact ⟨fun h => congrArg some (Except.ok.inj h), fun h => congrArg _ (Option.some.inj h)⟩

theorem opened_iff {α : Type} {x : Except ReaderFault α} {info : α} :
    opened x = .ok info ↔ x = .ok info := by
  cases x with
  | ok found => exact ⟨fun h => congrArg _ (Except.ok.inj h), fun h => congrArg _ (Except.ok.inj h)⟩
  | error e => cases e <;> exact iff_of_false nofun nofun

theorem isOnly_iff {texts : List String} {expected : Value} :
    isOnly texts expected = true ↔ ∃ text, expected = .str text ∧ texts = [text] := by
  rw [isOnly.eq_def]
  split
  · next text =>
    rw [Value.str_equals_iff]
    constructor
    · intro h
      exact ⟨text, h, rfl⟩
    · intro h
      obtain ⟨other, hexpected, hsame⟩ := h
      rw [hexpected, List.singleton_inj.mp hsame]
  · next hmany =>
    refine iff_of_false nofun fun h => ?_
    obtain ⟨text, _, htexts⟩ := h
    exact hmany text htexts

/-- The paths of a file by what it names itself. -/
def OwnPaths (target : Target) (info : BinaryInfo) : Prop :=
  if info.namesLibrary then LibraryPaths target info else ExecutablePaths target info

theorem gateElfRunpath_paths {info : Elf.ElfInfo} (h : gateElfRunpath info target = .ok ()) :
    OwnPaths target (.elf info) := by
  obtain ⟨_, hrpaths, h⟩ := bind_eq_ok.mp h
  have hrpaths := List.isEmpty_iff.mp (refuseUnless_iff.mp hrpaths)
  rw [OwnPaths, BinaryInfo.namesLibrary]
  cases hsoname : info.soname.isEmpty with
  | true =>
    rw [hsoname, if_pos rfl] at h
    obtain ⟨_, _, h⟩ := bind_eq_ok.mp h
    obtain ⟨expected, hitem, h⟩ := bind_eq_ok.mp h
    obtain ⟨runpath, rfl, honly⟩ := isOnly_iff.mp (refuseUnless_iff.mp h)
    exact ⟨⟨runpath, item_iff.mp hitem, honly⟩, hrpaths⟩
  | false =>
    rw [hsoname, if_neg Bool.false_ne_true] at h
    exact ⟨hrpaths, List.isEmpty_iff.mp (refuseUnless_iff.mp h)⟩

theorem gateMachoPaths_paths {info : MachO.MachOInfo} (h : gateMachoPaths info target = .ok ()) :
    OwnPaths target (.macho info) := by
  rw [gateMachoPaths] at h
  rw [OwnPaths, BinaryInfo.namesLibrary]
  cases hidentity : (identities info).isEmpty with
  | true =>
    rw [hidentity, if_pos rfl] at h
    obtain ⟨expected, hitem, h⟩ := bind_eq_ok.mp h
    obtain ⟨rpath, rfl, honly⟩ := isOnly_iff.mp (refuseUnless_iff.mp h)
    exact ⟨rpath, item_iff.mp hitem, honly⟩
  | false =>
    rw [hidentity, if_neg Bool.false_ne_true] at h
    obtain ⟨expected, hitem, h⟩ := bind_eq_ok.mp h
    obtain ⟨_, hidentities, hrpaths⟩ := bind_eq_ok.mp h
    obtain ⟨installId, rfl, honly⟩ := isOnly_iff.mp (refuseUnless_iff.mp hidentities)
    exact ⟨List.isEmpty_iff.mp (refuseUnless_iff.mp hrpaths), installId, item_iff.mp hitem, honly⟩

theorem gateElf_paths (h : gateElf int bytes target allowlist = .ok ()) :
    ∃ info, Elf.read bytes = .ok info ∧ OwnPaths target (.elf info) := by
  obtain ⟨info, hread, h⟩ := bind_eq_ok.mp h
  obtain ⟨_, _, h⟩ := bind_eq_ok.mp h
  obtain ⟨_, _, h⟩ := bind_eq_ok.mp h
  obtain ⟨_, _, h⟩ := bind_eq_ok.mp h
  obtain ⟨_, _, h⟩ := bind_eq_ok.mp h
  obtain ⟨_, _, h⟩ := bind_eq_ok.mp h
  obtain ⟨_, _, h⟩ := bind_eq_ok.mp h
  obtain ⟨_, hpaths, _⟩ := bind_eq_ok.mp h
  exact ⟨info, opened_iff.mp hread, gateElfRunpath_paths hpaths⟩

theorem gateMacho_paths (h : gateMacho int bytes target allowlist = .ok ()) :
    ∃ info, MachO.read bytes = .ok info ∧ OwnPaths target (.macho info) := by
  obtain ⟨info, hread, h⟩ := bind_eq_ok.mp h
  obtain ⟨_, _, h⟩ := bind_eq_ok.mp h
  obtain ⟨_, _, h⟩ := bind_eq_ok.mp h
  obtain ⟨_, _, h⟩ := bind_eq_ok.mp h
  obtain ⟨_, _, h⟩ := bind_eq_ok.mp h
  obtain ⟨_, _, h⟩ := bind_eq_ok.mp h
  obtain ⟨_, _, h⟩ := bind_eq_ok.mp h
  obtain ⟨_, _, h⟩ := bind_eq_ok.mp h
  obtain ⟨_, _, h⟩ := bind_eq_ok.mp h
  obtain ⟨_, hpaths, _⟩ := bind_eq_ok.mp h
  exact ⟨info, opened_iff.mp hread, gateMachoPaths_paths hpaths⟩

/-- A file that passes the gate carries the paths of what it names itself. -/
theorem gateFile_paths (h : gateFile int bytes target allowlist = .ok ()) :
    ∃ info, binaryInfo target bytes = some info ∧ OwnPaths target info := by
  obtain ⟨format, hitem, h⟩ := bind_eq_ok.mp h
  have hitem := item_iff.mp hitem
  by_cases helf : format.equals (.str "elf64-le") = true
  · rw [if_pos helf] at h
    obtain rfl := Value.equals_str_iff.mp helf
    obtain ⟨info, hread, hpaths⟩ := gateElf_paths h
    refine ⟨.elf info, ?_, hpaths⟩
    simp only [binaryInfo, hitem, hread]
    rfl
  rw [if_neg helf] at h
  by_cases hmacho : format.equals (.str "macho64-le") = true
  · rw [if_pos hmacho] at h
    obtain rfl := Value.equals_str_iff.mp hmacho
    obtain ⟨info, hread, hpaths⟩ := gateMacho_paths h
    refine ⟨.macho info, ?_, hpaths⟩
    simp only [binaryInfo, hitem, hread]
    rfl
  · rw [if_neg hmacho] at h
    cases h

theorem passes_iff :
    passes int bytes target allowlist = true ↔ gateFile int bytes target allowlist = .ok () := by
  rw [passes]
  cases gateFile int bytes target allowlist with
  | ok => exact iff_of_true rfl rfl
  | error e => exact iff_of_false nofun nofun

/-- No file carries the paths of both. -/
theorem not_both_paths {info : BinaryInfo} (hlibrary : LibraryPaths target info)
    (hexecutable : ExecutablePaths target info) : False := by
  cases info with
  | elf info =>
    obtain ⟨_, hnone⟩ := hlibrary
    obtain ⟨⟨runpath, _, hone⟩, _⟩ := hexecutable
    exact absurd (hnone.symm.trans hone) nofun
  | macho info =>
    obtain ⟨hnone, _⟩ := hlibrary
    obtain ⟨rpath, _, hone⟩ := hexecutable
    exact absurd (hnone.symm.trans hone) nofun

/-- The paths of a library or those of the executable tell which of them the file names itself. -/
theorem OwnPaths.iff {info : BinaryInfo} (h : OwnPaths target info) :
    (LibraryPaths target info ↔ info.namesLibrary = true) ∧
      (ExecutablePaths target info ↔ info.namesLibrary = false) := by
  rw [OwnPaths] at h
  cases hnames : info.namesLibrary with
  | true =>
    rw [hnames, if_pos rfl] at h
    exact ⟨iff_of_true h rfl, iff_of_false (fun hother => not_both_paths h hother) nofun⟩
  | false =>
    rw [hnames, if_neg Bool.false_ne_true] at h
    exact ⟨iff_of_false (fun hother => not_both_paths hother h) nofun, iff_of_true h rfl⟩

end Paths

/-- The binary members pass the gate, as the validator and the driver call it. -/
def GatePassed (int : String → Option Int) (extracted : String → Option Bytes) (target : Target)
    (allowlist : List String) : Prop :=
  ∀ member ∈ target.members, member.isBinary = true →
    ∃ bytes, extracted member.path = some bytes ∧ gateFile int bytes target allowlist = .ok ()

/-- The loader paths follow the member: those of the executable at its place, those of a library at
every other binary member. -/
def LoaderPaths (extracted : String → Option Bytes) (target : Target) : Prop :=
  ∀ member ∈ target.members, member.isBinary = true →
    ∃ bytes info, extracted member.path = some bytes ∧ binaryInfo target bytes = some info ∧
      if member.path = "bin/nvattest" then ExecutablePaths target info else LibraryPaths target info

def namesLibrary (target : Target) (bytes : Bytes) : Bool :=
  (binaryInfo target bytes).any BinaryInfo.namesLibrary

/-- The files name themselves what they are: the libraries, and the executable alone does not. -/
def NamedByPlace (extracted : String → Option Bytes) (target : Target) : Prop :=
  ∀ member ∈ target.members, member.isBinary = true →
    ((extracted member.path).any (namesLibrary target) = true ↔ member.path ≠ "bin/nvattest")

section Members
variable {int : String → Option Int} {extracted : String → Option Bytes} {target : Target}
  {allowlist : List String}

section Callers
variable {lib : Library} (hlib : lib.gateFile = passes int)
include hlib

/-- What the validator has accepted has passed the gate. -/
theorem gatePassed_of_checkGates {archive : Bytes}
    (h : checkGates lib target archive = .ok ()) : ∃ allowlist extracted,
      lib.extractAll archive = some extracted ∧ GatePassed int extracted target allowlist := by
  obtain ⟨allowlist, extracted, _, hextracted, hgates⟩ := (checkGates_iff.mp h).passed
  refine ⟨allowlist, extracted, hextracted, fun member hmember hbinary => ?_⟩
  obtain ⟨bytes, hbytes, hgate⟩ := hgates member hmember hbinary
  rw [hlib, passes_iff] at hgate
  exact ⟨bytes, hbytes, hgate⟩

/-- What the driver has staged has passed the gate. -/
theorem gatePassed_of_gateBinaries {stage : Tree}
    (h : gateBinaries lib stage target = .ok ()) :
    ∃ allowlist, GatePassed int stage.read target allowlist := by
  obtain ⟨allowlist, _, hgates⟩ := gateBinaries_ok h
  refine ⟨allowlist, fun member hmember hbinary => ?_⟩
  obtain ⟨bytes, hbytes, hgate⟩ := hgates member hmember hbinary
  rw [hlib, passes_iff] at hgate
  exact ⟨bytes, hbytes, hgate⟩

end Callers

theorem loaderPaths_iff (h : GatePassed int extracted target allowlist) :
    LoaderPaths extracted target ↔ NamedByPlace extracted target := by
  refine forall₂_congr fun member hmember => forall_congr' fun hbinary => ?_
  obtain ⟨bytes, hbytes, hgate⟩ := h member hmember hbinary
  obtain ⟨info, hinfo, hown⟩ := gateFile_paths hgate
  have hnames : (extracted member.path).any (namesLibrary target) = info.namesLibrary := by
    rw [hbytes, Option.any_some, namesLibrary, hinfo, Option.any_some]
  rw [hnames]
  have hpaths : (∃ bytes info, extracted member.path = some bytes ∧
      binaryInfo target bytes = some info ∧ if member.path = "bin/nvattest" then
        ExecutablePaths target info else LibraryPaths target info) ↔
      if member.path = "bin/nvattest" then ExecutablePaths target info
        else LibraryPaths target info := by
    constructor
    · intro hexists
      obtain ⟨bytes', info', hbytes', hinfo', hcarries⟩ := hexists
      obtain rfl := Option.some.inj (hbytes.symm.trans hbytes')
      obtain rfl := Option.some.inj (hinfo.symm.trans hinfo')
      exact hcarries
    · intro hcarries
      exact ⟨bytes, info, hbytes, hinfo, hcarries⟩
  rw [hpaths]
  by_cases hplace : member.path = "bin/nvattest"
  · rw [if_pos hplace, hown.iff.2, ← Bool.not_eq_true]
    exact ⟨fun hnot => iff_of_false hnot (not_not.mpr hplace), fun hiff hyes =>
      hiff.mp hyes hplace⟩
  · rw [if_neg hplace, hown.iff.1]
    exact ⟨fun hyes => iff_of_true hyes hplace, fun hiff => hiff.mpr hplace⟩

end Members

/-- The table of the first target of `targets.toml`. -/
def linuxTable : Table :=
  [("id", .str "linux-x86_64"),
    ("host_os", .str "Linux"),
    ("host_machines", .list [.str "x86_64", .str "amd64"]),
    ("build_image", .str ("quay.io/pypa/manylinux_2_28_x86_64@sha256:" ++
      "a61875a2f84cab7df8de222ff12cabc08ff86eb4ad402ac90ba7bdaed9600cca")),
    ("gate_images", .list [
      .str ("docker.io/library/fedora@sha256:" ++
        "89f61a124414261868224666aa7fb8df1b78397a53623774bdfb105d1612b48b"),
      .str ("docker.io/opensuse/tumbleweed@sha256:" ++
        "cdc11dd58d01acfde221f1b6fba21b64acbed561ef18ab086f78571dff4a4d17")]),
    ("container_platform", .str "linux/amd64"),
    ("archive_name", .str "libnvat-{target}-{version}-archive.tar.xz"),
    ("binary_format", .str "elf64-le"),
    ("expected_arch", .str "EM_X86_64"),
    ("abi_kind", .str "gnu-symbol-max"),
    ("abi_floor", .dict [("glibc", .str "2.28"), ("glibcxx", .str "3.4.25"),
      ("cxxabi", .str "1.3.11")]),
    ("runtime_allowlist", .str "sol/release/allowlists/linux-x86_64.txt"),
    ("elf_runpath", .str "$ORIGIN/../lib"),
    ("members", .list [
      .dict [("path", .str "bin/nvattest"), ("kind", .str "regular")],
      .dict [("path", .str "lib/libnvat.so"), ("kind", .str "symlink"),
        ("link_target", .str "libnvat.so.1")],
      .dict [("path", .str "lib/libnvat.so.1"), ("kind", .str "symlink"),
        ("link_target", .str "libnvat.so.1.2.2")],
      .dict [("path", .str "lib/libnvat.so.1.2.2"), ("kind", .str "regular")],
      .dict [("path", .str "LICENSE"), ("kind", .str "regular")],
      .dict [("path", .str "share/ca/ca-bundle.pem"), ("kind", .str "regular")],
      .dict [("path", .str "share/THIRD_PARTY_NOTICES.md"), ("kind", .str "regular")]]),
    ("directory_counts", .dict [(".", .int 4), ("bin", .int 1), ("lib", .int 3),
      ("share", .int 2), ("share/ca", .int 1)]),
    ("required_tools", .list (["c++", "cmake", "rustc", "cargo", "tar", "xz", "python3"].map .str))]

def linuxTarget : Target where
  id := "linux-x86_64"
  members := [⟨"bin/nvattest", none⟩, ⟨"lib/libnvat.so", some (.str "libnvat.so.1")⟩,
    ⟨"lib/libnvat.so.1", some (.str "libnvat.so.1.2.2")⟩, ⟨"lib/libnvat.so.1.2.2", none⟩,
    ⟨"LICENSE", none⟩, ⟨"share/ca/ca-bundle.pem", none⟩, ⟨"share/THIRD_PARTY_NOTICES.md", none⟩]
  requiredTools := ["c++", "cmake", "rustc", "cargo", "tar", "xz", "python3"]
  table := linuxTable

example : (readTarget "linux-x86_64" linuxTable).toOption.map (fun target =>
    target.members.map Member.path) = some (linuxTarget.members.map Member.path) := by
  decide +kernel

/-- The same library at every path. -/
def sameLibrary (_ : String) : Option Bytes := some Elf.sharedObject

theorem sameLibrary_passed :
    GatePassed String.toInt? sameLibrary linuxTarget ["libc.so.6"] := by
  have hpasses : passes String.toInt? Elf.sharedObject linuxTarget ["libc.so.6"] = true := by
    decide +kernel
  exact fun _ _ _ => ⟨Elf.sharedObject, rfl, passes_iff.mp hpasses⟩

theorem sameLibrary_loaderPaths_iff :
    GatePassed String.toInt? sameLibrary linuxTarget ["libc.so.6"] ∧
      (LoaderPaths sameLibrary linuxTarget ↔ NamedByPlace sameLibrary linuxTarget) :=
  ⟨sameLibrary_passed, loaderPaths_iff sameLibrary_passed⟩

/-- A library in the place of the executable passes the gate and carries no loader path. -/
theorem library_as_executable : ¬ ∀ (int : String → Option Int)
    (extracted : String → Option Bytes) (target : Target) (allowlist : List String),
    GatePassed int extracted target allowlist → LoaderPaths extracted target := by
  intro hlaw
  have hbinary : Member.isBinary ⟨"bin/nvattest", none⟩ = true := by decide
  obtain ⟨bytes, info, hbytes, hinfo, hpaths⟩ :=
    hlaw _ _ _ _ sameLibrary_passed _ List.mem_cons_self hbinary
  obtain ⟨bytes', hbytes', hgate⟩ := sameLibrary_passed _ List.mem_cons_self hbinary
  obtain rfl := Option.some.inj hbytes
  obtain rfl := Option.some.inj hbytes'
  obtain ⟨info', hinfo', hown⟩ := gateFile_paths hgate
  obtain rfl := Option.some.inj (hinfo.symm.trans hinfo')
  rw [if_pos rfl, hown.iff.2] at hpaths
  have hnames : namesLibrary linuxTarget Elf.sharedObject = true := by decide +kernel
  rw [namesLibrary, hinfo, Option.any_some, hpaths] at hnames
  cases hnames

end AttestationSdk.LoaderGate
