import AttestationSdk.BinaryReader
import AttestationSdk.FoldRules

/-! `elf.py`: the reader of the ELF64 little-endian fields that the release rail uses, and what an
accepted file holds. -/
namespace AttestationSdk.Elf
open BinaryReader ByteLayout ExceptRules FoldRules

def elfMagic : Bytes := [0x7f, 0x45, 0x4c, 0x46]
def ELFCLASS64 : UInt8 := 2
def ELFDATA2LSB : UInt8 := 1
def EM_X86_64 : Nat := 62
def EM_AARCH64 : Nat := 183
def SHT_STRTAB : Nat := 3
def SHT_DYNAMIC : Nat := 6
def SHT_GNU_VERNEED : Nat := 0x6ffffffe
def DT_NEEDED : Int := 1
def DT_SONAME : Int := 14
def DT_RPATH : Int := 15
def DT_RUNPATH : Int := 29

/-- The lists that the sections are read into. -/
structure ElfStrings where
  needed : List String := []
  versions : List String := []
  soname : List String := []
  rpaths : List String := []
  runpaths : List String := []
  deriving Repr, DecidableEq

structure ElfInfo extends ElfStrings where
  machine : Nat
  data : Bytes
  deriving Repr, DecidableEq

/-- `_Section`. -/
structure ElfSection where
  sectionType : Nat
  offset : Nat
  size : Nat
  link : Nat
  entrySize : Nat
  deriving Repr, DecidableEq

/-- A number of eight bytes with a sign, `<q`. -/
def i64 (data : Bytes) (offset : Nat) : Int :=
  if u64 data offset < 9223372036854775808 then u64 data offset
  else (u64 data offset : Int) - 18446744073709551616

section Read
variable (data : Bytes)

/-- `_cstring`. -/
def cstring (start limit : Nat) (what : String) : Except ReaderFault String :=
  if limit ≤ start then parseError start (what ++ " string offset is outside its table")
  else textUntilNul data start limit ("unterminated " ++ what ++ " string")
    ("non-UTF-8 " ++ what ++ " string")

/-- `_string_from_section`. -/
def stringFromSection (sections : List ElfSection) (index offset : Nat) (what : String) :
    Except ReaderFault String :=
  match sections[index]? with
  | none => parseError 0 (what ++ " references missing string-table section " ++ toString index)
  | some strings =>
    if strings.sectionType ≠ SHT_STRTAB then
      parseError strings.offset (what ++ " link is not a string table")
    else do
      requireBytes data strings.offset strings.size (what ++ " string table")
      cstring data (strings.offset + offset) (strings.offset + strings.size) what

/-- The fields of a section header. -/
def sectionAt (offset : Nat) : ElfSection where
  sectionType := u32 data (offset + 4)
  offset := u64 data (offset + 24)
  size := u64 data (offset + 32)
  link := u32 data (offset + 40)
  entrySize := u64 data (offset + 56)

/-- One entry of the section table. -/
def readSection (offset index : Nat) : Except ReaderFault ElfSection := do
  unpackFrom data offset 64
  let entry := sectionAt data offset
  if entry.sectionType ≠ 0 then
    requireBytes data entry.offset entry.size ("section " ++ toString index)
  return entry

variable (sections : List ElfSection)

/-- One entry of a dynamic section. -/
def readEntry (link : Nat) (found : ElfStrings) (offset : Nat) :
    Except ReaderFault ElfStrings := do
  unpackFrom data offset 16
  let tag := i64 data offset
  let value := u64 data (offset + 8)
  if tag = DT_NEEDED then
    let text ← stringFromSection data sections link value "DT_NEEDED"
    return { found with needed := found.needed ++ [text] }
  else if tag = DT_SONAME then
    let text ← stringFromSection data sections link value "DT_SONAME"
    return { found with soname := found.soname ++ [text] }
  else if tag = DT_RPATH then
    let text ← stringFromSection data sections link value "DT_RPATH"
    return { found with rpaths := found.rpaths ++ [text] }
  else if tag = DT_RUNPATH then
    let text ← stringFromSection data sections link value "DT_RUNPATH"
    return { found with runpaths := found.runpaths ++ [text] }
  else return found

def readDynamic (entry : ElfSection) (found : ElfStrings) : Except ReaderFault ElfStrings :=
  if (entry.entrySize ≠ 0 ∧ entry.entrySize ≠ 16) ∨ entry.size % 16 ≠ 0 then
    parseError entry.offset "invalid dynamic-section entry size"
  else (List.range (entry.size / 16)).foldlM
    (fun found i => readEntry data sections entry.link found (entry.offset + 16 * i)) found

/-- The auxiliary records that remain of a version-need record, from a cursor on. -/
def readAuxiliaries (link stop : Nat) : Nat → Nat → List String → Except ReaderFault (List String)
  | 0, _, versions => .ok versions
  | remaining + 1, cursor, versions =>
    if stop ≤ cursor then parseError cursor "version auxiliary is outside section"
    else do
      requireBytes data cursor 16 "version auxiliary"
      unpackFrom data cursor 16
      let name ← stringFromSection data sections link (u32 data (cursor + 8)) "symbol version"
      if u32 data (cursor + 12) = 0 then
        if remaining ≠ 0 then
          parseError cursor "version auxiliary chain ends before declared count"
        else return versions ++ [name]
      else readAuxiliaries link stop remaining (cursor + u32 data (cursor + 12)) (versions ++ [name])

/-- The loop over the records of a version-need section, with a bound on its turns: the cursor it
ends with and the names. -/
def readNeeds (link stop : Nat) :
    Nat → Nat → List Nat → List String → Except ReaderFault (Nat × List String)
  | 0, _, _, _ => .error .outOfFuel
  | turns + 1, cursor, seen, versions =>
    if stop ≤ cursor then .ok (cursor, versions)
    else if cursor ∈ seen then parseError cursor "version-need record cycle"
    else do
      requireBytes data cursor 16 "version-need record"
      unpackFrom data cursor 16
      let versions ← readAuxiliaries data sections link stop (u16 data (cursor + 2))
        (cursor + u32 data (cursor + 8)) versions
      if u32 data (cursor + 12) = 0 then return (cursor, versions)
      else readNeeds link stop turns (cursor + u32 data (cursor + 12)) (cursor :: seen) versions

def readVerneed (entry : ElfSection) (found : ElfStrings) : Except ReaderFault ElfStrings := do
  let stop := entry.offset + entry.size
  let (cursor, versions) ← readNeeds data sections entry.link stop (entry.size + 1) entry.offset []
    found.versions
  if stop < cursor then parseError cursor "version-need record is outside section"
  else return { found with versions }

def readStrings (found : ElfStrings) (entry : ElfSection) : Except ReaderFault ElfStrings :=
  if entry.sectionType = SHT_DYNAMIC then readDynamic data sections entry found
  else if entry.sectionType = SHT_GNU_VERNEED then readVerneed data sections entry found
  else .ok found

end Read

/-- `read`, on the bytes of the file. -/
def read (data : Bytes) : Except ReaderFault ElfInfo := do
  requireBytes data 0 64 "ELF64 header"
  check (data.take 4 = elfMagic) 0 "bad ELF magic"
  check (data[4]? = some ELFCLASS64) 4 "expected ELFCLASS64"
  check (data[5]? = some ELFDATA2LSB) 5 "expected little-endian ELF"
  unpackFrom data 18 2
  unpackFrom data 40 8
  unpackFrom data 58 4
  let machine := u16 data 18
  let sectionOffset := u64 data 40
  let sectionEntrySize := u16 data 58
  let sectionCount := u16 data 60
  check (sectionCount ≠ 0) 60 "extended or empty section table is not supported"
  check (64 ≤ sectionEntrySize) 58
    ("section entry size " ++ toString sectionEntrySize ++ " is below 64")
  requireBytes data sectionOffset (sectionEntrySize * sectionCount) "section table"
  let sections ← (List.range sectionCount).mapM fun index =>
    readSection data (sectionOffset + index * sectionEntrySize) index
  let found ← sections.foldlM (readStrings data sections) {}
  return { found with machine, data }

section Fails
variable {data : Bytes} {sections : List ElfSection}

theorem cstring_fails (start limit : Nat) (what : String) :
    FailsOnly ReaderFault.IsParseError (cstring data start limit what) :=
  failsOnly_ite (fun _ => parseError_fails) fun _ => textUntilNul_fails

theorem stringFromSection_fails (index offset : Nat) (what : String) :
    FailsOnly ReaderFault.IsParseError (stringFromSection data sections index offset what) := by
  rw [stringFromSection]
  cases sections[index]? with
  | none => exact parseError_fails
  | some strings =>
    refine failsOnly_ite (fun _ => parseError_fails) fun _ => ?_
    exact requireBytes_fails.bind fun _ _ => cstring_fails _ _ _

theorem readSection_fails {offset : Nat} (index : Nat) (h : offset + 64 ≤ data.length) :
    FailsOnly ReaderFault.IsParseError (readSection data offset index) := by
  refine (unpackFrom_fails h).bind fun _ _ => ?_
  refine failsOnly_ite (fun _ => ?_) fun _ => failsOnly_ok _ _
  exact requireBytes_fails.bind fun _ _ => failsOnly_ok _ _

theorem readEntry_fails (link : Nat) (found : ElfStrings) {offset : Nat}
    (h : offset + 16 ≤ data.length) :
    FailsOnly ReaderFault.IsParseError (readEntry data sections link found offset) := by
  have hread (what : String) (f : String → ElfStrings) : FailsOnly ReaderFault.IsParseError
      (stringFromSection data sections link (u64 data (offset + 8)) what >>= fun text =>
        pure (f text)) :=
    (stringFromSection_fails _ _ _).bind fun _ _ => failsOnly_ok _ _
  refine (unpackFrom_fails h).bind fun _ _ => ?_
  refine failsOnly_ite (fun _ => hread _ _) fun _ => ?_
  refine failsOnly_ite (fun _ => hread _ _) fun _ => ?_
  refine failsOnly_ite (fun _ => hread _ _) fun _ => ?_
  exact failsOnly_ite (fun _ => hread _ _) fun _ => failsOnly_ok _ _

/-- The entries of a dynamic section lie in the section. -/
theorem readDynamic_fails (entry : ElfSection) (found : ElfStrings)
    (h : entry.offset + entry.size ≤ data.length) :
    FailsOnly ReaderFault.IsParseError (readDynamic data sections entry found) := by
  refine failsOnly_ite (fun _ => parseError_fails) fun _ => ?_
  refine failsOnly_foldlM (fun found i hi => readEntry_fails _ _ ?_) found
  have hlt := List.mem_range.mp hi
  omega

/-- The check before each auxiliary record covers what is unpacked of it. -/
theorem readAuxiliaries_fails (link stop remaining cursor : Nat) (versions : List String) :
    FailsOnly ReaderFault.IsParseError
      (readAuxiliaries data sections link stop remaining cursor versions) := by
  induction remaining generalizing cursor versions with
  | zero => exact failsOnly_ok _ versions
  | succ remaining ih =>
    refine failsOnly_ite (fun _ => parseError_fails) fun _ => ?_
    refine requireBytes_fails.bind fun _ hthere => ?_
    refine (unpackFrom_fails (requireBytes_iff.mp hthere)).bind fun _ _ => ?_
    refine (stringFromSection_fails _ _ _).bind fun name _ => ?_
    refine failsOnly_ite (fun _ => ?_) fun _ => ih _ _
    exact failsOnly_ite (fun _ => parseError_fails) fun _ => failsOnly_ok _ _

/-- The cursor rises with every record, so the loop ends within the section. -/
theorem readNeeds_fails (link stop turns cursor : Nat) (seen : List Nat) (versions : List String)
    (hturns : stop - cursor < turns) : FailsOnly ReaderFault.IsParseError
      (readNeeds data sections link stop turns cursor seen versions) := by
  induction turns generalizing cursor seen versions with
  | zero => exact absurd hturns (Nat.not_lt_zero _)
  | succ turns ih =>
    refine failsOnly_ite (fun _ => failsOnly_ok _ _) fun hmore => ?_
    refine failsOnly_ite (fun _ => parseError_fails) fun _ => ?_
    refine requireBytes_fails.bind fun _ hthere => ?_
    refine (unpackFrom_fails (requireBytes_iff.mp hthere)).bind fun _ _ => ?_
    refine (readAuxiliaries_fails _ _ _ _ _).bind fun versions _ => ?_
    refine failsOnly_ite (fun _ => failsOnly_ok _ _) fun hnext => ?_
    exact ih _ _ _ (by omega)

theorem readVerneed_fails (entry : ElfSection) (found : ElfStrings) :
    FailsOnly ReaderFault.IsParseError (readVerneed data sections entry found) := by
  refine (readNeeds_fails _ _ _ _ _ _ (by omega)).bind fun result _ => ?_
  exact failsOnly_ite (fun _ => parseError_fails) fun _ => failsOnly_ok _ _

theorem readStrings_fails (found : ElfStrings) (entry : ElfSection)
    (h : entry.sectionType ≠ 0 → entry.offset + entry.size ≤ data.length) :
    FailsOnly ReaderFault.IsParseError (readStrings data sections found entry) := by
  refine failsOnly_ite (fun hdynamic => ?_) fun _ => ?_
  · refine readDynamic_fails entry found (h ?_)
    rw [hdynamic]
    decide
  · exact failsOnly_ite (fun _ => readVerneed_fails entry found) fun _ => failsOnly_ok _ _

end Fails

/-- A string by its offset in the table that a section links to. -/
structure Ref where
  link : Nat
  offset : Nat
  deriving Repr, DecidableEq

section Layout
variable (data : Bytes)

/-- The text stands with its NUL inside the string table that is linked to. -/
def Names (sections : List ElfSection) (ref : Ref) (text : String) : Prop :=
  ∃ strings, sections[ref.link]? = some strings ∧ strings.sectionType = SHT_STRTAB ∧
    strings.offset + strings.size ≤ data.length ∧
    NulText data (strings.offset + ref.offset) (strings.offset + strings.size) text

/-- The section table of a file. -/
structure SectionTable (sections : List ElfSection) : Prop where
  some : u16 data 60 ≠ 0
  entrySize : 64 ≤ u16 data 58
  inside : u64 data 40 + u16 data 58 * u16 data 60 ≤ data.length
  entries : sections = (List.range (u16 data 60)).map fun i =>
    sectionAt data (u64 data 40 + i * u16 data 58)
  sections_inside : ∀ entry ∈ sections, entry.sectionType ≠ 0 →
    entry.offset + entry.size ≤ data.length

/-- The tags of a dynamic section that are read, with the lists they are read into. -/
inductive DynamicTag
  | needed | soname | rpath | runpath

def DynamicTag.value : DynamicTag → Int
  | .needed => DT_NEEDED
  | .soname => DT_SONAME
  | .rpath => DT_RPATH
  | .runpath => DT_RUNPATH

def DynamicTag.list : DynamicTag → ElfStrings → List String
  | .needed => ElfStrings.needed
  | .soname => ElfStrings.soname
  | .rpath => ElfStrings.rpaths
  | .runpath => ElfStrings.runpaths

/-- A string at the end of the list of its tag. -/
def DynamicTag.add : DynamicTag → ElfStrings → String → ElfStrings
  | .needed, found, text => { found with needed := found.needed ++ [text] }
  | .soname, found, text => { found with soname := found.soname ++ [text] }
  | .rpath, found, text => { found with rpaths := found.rpaths ++ [text] }
  | .runpath, found, text => { found with runpaths := found.runpaths ++ [text] }

def entryRefs (tag : DynamicTag) (link offset : Nat) : List Ref :=
  if i64 data offset = tag.value then [⟨link, u64 data (offset + 8)⟩] else []

/-- The strings of all entries with a tag, where the section is a dynamic one. -/
def dynamicRefs (tag : DynamicTag) (entry : ElfSection) : List Ref :=
  if entry.sectionType = SHT_DYNAMIC then
    (List.range (entry.size / 16)).flatMap fun i =>
      entryRefs data tag entry.link (entry.offset + 16 * i)
  else []

/-- So many auxiliary records from a position on, each found by the offset in the one before it. -/
inductive AuxiliaryChain (link : Nat) : Nat → Nat → List Ref → Prop
  | done (position : Nat) : AuxiliaryChain link position 0 []
  | last (position : Nat) (hnext : u32 data (position + 12) = 0) :
      AuxiliaryChain link position 1 [⟨link, u32 data (position + 8)⟩]
  | next (position : Nat) {count : Nat} {refs : List Ref} (hnext : u32 data (position + 12) ≠ 0)
      (rest : AuxiliaryChain link (position + u32 data (position + 12)) count refs) :
      AuxiliaryChain link position (count + 1) (⟨link, u32 data (position + 8)⟩ :: refs)

/-- The version-need records from a position on, with the auxiliary records of each. -/
inductive NeedChain (link stop : Nat) : Nat → List Ref → Prop
  | done : NeedChain link stop stop []
  | last {position : Nat} {refs : List Ref} (hin : position < stop)
      (hnext : u32 data (position + 12) = 0)
      (hrefs : AuxiliaryChain data link (position + u32 data (position + 8))
        (u16 data (position + 2)) refs) : NeedChain link stop position refs
  | next {position : Nat} {refs rest : List Ref} (hin : position < stop)
      (hnext : u32 data (position + 12) ≠ 0)
      (hrefs : AuxiliaryChain data link (position + u32 data (position + 8))
        (u16 data (position + 2)) refs)
      (hrest : NeedChain link stop (position + u32 data (position + 12)) rest) :
      NeedChain link stop position (refs ++ rest)

/-- The names of all auxiliary records that a version-need section leads to. -/
def VersionRefs (entry : ElfSection) (refs : List Ref) : Prop :=
  if entry.sectionType = SHT_GNU_VERNEED then
    NeedChain data entry.link (entry.offset + entry.size) entry.offset refs
  else refs = []

/-- What an accepted file holds. -/
structure Exact (info : ElfInfo) : Prop where
  data_eq : info.data = data
  magic : data.take 4 = elfMagic
  class64 : data[4]? = some ELFCLASS64
  littleEndian : data[5]? = some ELFDATA2LSB
  machine : info.machine = u16 data 18
  strings : ∃ sections, SectionTable data sections ∧
    (∀ tag : DynamicTag, List.Forall₂ (Names data sections)
      (sections.flatMap (dynamicRefs data tag)) (tag.list info.toElfStrings)) ∧
    ∃ chains, List.Forall₂ (VersionRefs data) sections chains ∧
      List.Forall₂ (Names data sections) chains.flatten info.versions

end Layout

section Lists
variable {data : Bytes} {sections : List ElfSection}

theorem cstring_ok {start limit : Nat} {what text : String} (hlimit : limit ≤ data.length)
    (h : cstring data start limit what = .ok text) : NulText data start limit text := by
  rw [cstring] at h
  by_cases hempty : limit ≤ start
  · rw [if_pos hempty] at h
    cases h
  · rw [if_neg hempty] at h
    exact textUntilNul_ok hlimit h

theorem stringFromSection_ok {index offset : Nat} {what text : String}
    (h : stringFromSection data sections index offset what = .ok text) :
    Names data sections ⟨index, offset⟩ text := by
  rw [stringFromSection] at h
  cases hstrings : sections[index]? with
  | none =>
    rw [hstrings] at h
    cases h
  | some strings =>
    rw [hstrings] at h
    dsimp only at h
    by_cases htype : strings.sectionType ≠ SHT_STRTAB
    · rw [if_pos htype] at h
      cases h
    · rw [if_neg htype] at h
      obtain ⟨_, hinside, htext⟩ := bind_eq_ok.mp h
      have hlimit := requireBytes_iff.mp hinside
      exact ⟨strings, hstrings, not_not.mp htype, hlimit, cstring_ok hlimit htext⟩

theorem DynamicTag.value_injective : ∀ {a b : DynamicTag}, a.value = b.value → a = b := by
  intro a b h
  cases a <;> cases b <;> first
    | rfl
    | exact absurd h (by decide)

theorem DynamicTag.list_add (tag : DynamicTag) (found : ElfStrings) (text : String) :
    tag.list (tag.add found text) = tag.list found ++ [text] := by
  cases tag <;> rfl

theorem DynamicTag.list_add_other {t tag : DynamicTag} (h : t ≠ tag) (found : ElfStrings)
    (text : String) : t.list (tag.add found text) = t.list found := by
  cases t <;> cases tag <;> first
    | rfl
    | exact absurd rfl h

theorem DynamicTag.versions_add (tag : DynamicTag) (found : ElfStrings) (text : String) :
    (tag.add found text).versions = found.versions := by
  cases tag <;> rfl

/-- An entry with a tag that is read adds its string to the list of the tag; another entry adds
nothing. -/
theorem readEntry_cases {link offset : Nat} {found found' : ElfStrings}
    (h : readEntry data sections link found offset = .ok found') :
    (∃ tag : DynamicTag, i64 data offset = tag.value ∧
      ∃ text, Names data sections ⟨link, u64 data (offset + 8)⟩ text ∧
        found' = tag.add found text) ∨
    (∀ tag : DynamicTag, i64 data offset ≠ tag.value) ∧ found' = found := by
  obtain ⟨_, _, h⟩ := bind_eq_ok.mp h
  dsimp only at h
  have hread (tag : DynamicTag) (what : String) (hvalue : i64 data offset = tag.value)
      (hrun : (stringFromSection data sections link (u64 data (offset + 8)) what >>= fun text =>
        pure (tag.add found text)) = .ok found') : ∃ tag : DynamicTag,
      i64 data offset = tag.value ∧ ∃ text,
        Names data sections ⟨link, u64 data (offset + 8)⟩ text ∧ found' = tag.add found text := by
    obtain ⟨text, htext, hrun⟩ := bind_eq_ok.mp hrun
    exact ⟨tag, hvalue, text, stringFromSection_ok htext, (Except.ok.inj hrun).symm⟩
  by_cases hneeded : i64 data offset = DT_NEEDED
  · rw [if_pos hneeded] at h
    exact .inl (hread .needed _ hneeded h)
  rw [if_neg hneeded] at h
  by_cases hsoname : i64 data offset = DT_SONAME
  · rw [if_pos hsoname] at h
    exact .inl (hread .soname _ hsoname h)
  rw [if_neg hsoname] at h
  by_cases hrpath : i64 data offset = DT_RPATH
  · rw [if_pos hrpath] at h
    exact .inl (hread .rpath _ hrpath h)
  rw [if_neg hrpath] at h
  by_cases hrunpath : i64 data offset = DT_RUNPATH
  · rw [if_pos hrunpath] at h
    exact .inl (hread .runpath _ hrunpath h)
  rw [if_neg hrunpath] at h
  refine .inr ⟨fun tag => ?_, (Except.ok.inj h).symm⟩
  cases tag with
  | needed => exact hneeded
  | soname => exact hsoname
  | rpath => exact hrpath
  | runpath => exact hrunpath

theorem readEntry_adds (tag : DynamicTag) {link offset : Nat} {found found' : ElfStrings}
    (h : readEntry data sections link found offset = .ok found') :
    Adds (Names data sections) (entryRefs data tag link offset) (tag.list found)
      (tag.list found') := by
  cases readEntry_cases h with
  | inl hread =>
    obtain ⟨own, hvalue, text, htext, rfl⟩ := hread
    by_cases hsame : tag = own
    · rw [hsame, entryRefs, if_pos hvalue, own.list_add]
      exact .one htext
    · have hother : i64 data offset ≠ tag.value := fun heq =>
        hsame (DynamicTag.value_injective (heq.symm.trans hvalue))
      rw [entryRefs, if_neg hother, DynamicTag.list_add_other hsame]
      exact .none
  | inr hskip =>
    rw [entryRefs, if_neg (hskip.1 tag), hskip.2]
    exact .none

theorem readEntry_versions {link offset : Nat} {found found' : ElfStrings}
    (h : readEntry data sections link found offset = .ok found') :
    found'.versions = found.versions := by
  cases readEntry_cases h with
  | inl hread =>
    obtain ⟨own, _, text, _, rfl⟩ := hread
    exact own.versions_add found text
  | inr hskip => rw [hskip.2]

/-- A dynamic section adds the strings of all its entries in order, and no versions. -/
theorem readDynamic_adds {entry : ElfSection} {found found' : ElfStrings}
    (htype : entry.sectionType = SHT_DYNAMIC)
    (h : readDynamic data sections entry found = .ok found') :
    (∀ tag : DynamicTag, Adds (Names data sections) (dynamicRefs data tag entry) (tag.list found)
      (tag.list found')) ∧ found'.versions = found.versions := by
  rw [readDynamic] at h
  by_cases hsizes : (entry.entrySize ≠ 0 ∧ entry.entrySize ≠ 16) ∨ entry.size % 16 ≠ 0
  · rw [if_pos hsizes] at h
    cases h
  rw [if_neg hsizes] at h
  refine ⟨fun tag => ?_, ?_⟩
  · obtain ⟨refss, hrefss, hadds⟩ := foldlM_adds (N := Names data sections)
      (R := fun i refs => refs = entryRefs data tag entry.link (entry.offset + 16 * i))
      (v := tag.list) (fun i _ found found' hstep => ⟨_, rfl, readEntry_adds tag hstep⟩) h
    rw [flatten_of_forall₂_eq hrefss] at hadds
    rw [dynamicRefs, if_pos htype]
    exact hadds
  · exact foldlM_keeps (P := fun later => later.versions = found.versions)
      (fun b _ b' hb hstep => (readEntry_versions hstep).trans hb) rfl h

/-- The auxiliary records that are read are a chain, and their names are added in order. -/
theorem readAuxiliaries_adds {link stop remaining cursor : Nat} {versions versions' : List String}
    (h : readAuxiliaries data sections link stop remaining cursor versions = .ok versions') :
    ∃ refs, AuxiliaryChain data link cursor remaining refs ∧
      Adds (Names data sections) refs versions versions' := by
  induction remaining generalizing cursor versions with
  | zero =>
    cases h
    exact ⟨[], .done cursor, .none⟩
  | succ remaining ih =>
    rw [readAuxiliaries] at h
    by_cases houtside : stop ≤ cursor
    · rw [if_pos houtside] at h
      cases h
    rw [if_neg houtside] at h
    obtain ⟨_, _, h⟩ := bind_eq_ok.mp h
    obtain ⟨_, _, h⟩ := bind_eq_ok.mp h
    obtain ⟨name, hname, h⟩ := bind_eq_ok.mp h
    have hone := Adds.one (a := versions) (stringFromSection_ok hname)
    by_cases hnext : u32 data (cursor + 12) = 0
    · rw [if_pos hnext] at h
      by_cases hmore : remaining ≠ 0
      · rw [if_pos hmore] at h
        cases h
      · rw [if_neg hmore] at h
        rw [not_not.mp hmore]
        cases h
        exact ⟨_, .last cursor hnext, hone⟩
    · rw [if_neg hnext] at h
      obtain ⟨refs, hchain, hadds⟩ := ih h
      exact ⟨_, .next cursor hnext hchain, hone.trans hadds⟩

/-- The version-need records that are read are a chain that ends within the section or at its
end. -/
theorem readNeeds_adds {link stop turns cursor cursor' : Nat} {seen : List Nat}
    {versions versions' : List String}
    (h : readNeeds data sections link stop turns cursor seen versions = .ok (cursor', versions'))
    (hinside : ¬ stop < cursor') :
    ∃ refs, NeedChain data link stop cursor refs ∧
      Adds (Names data sections) refs versions versions' := by
  induction turns generalizing cursor seen versions with
  | zero => cases h
  | succ turns ih =>
    rw [readNeeds] at h
    by_cases hend : stop ≤ cursor
    · rw [if_pos hend] at h
      obtain ⟨rfl, rfl⟩ := Prod.mk.inj (Except.ok.inj h)
      have hat : cursor = stop := by omega
      exact ⟨[], hat ▸ .done, .none⟩
    rw [if_neg hend] at h
    by_cases hseen : cursor ∈ seen
    · rw [if_pos hseen] at h
      cases h
    rw [if_neg hseen] at h
    obtain ⟨_, _, h⟩ := bind_eq_ok.mp h
    obtain ⟨_, _, h⟩ := bind_eq_ok.mp h
    obtain ⟨names, hnames, h⟩ := bind_eq_ok.mp h
    obtain ⟨refs, hchain, hadds⟩ := readAuxiliaries_adds hnames
    by_cases hnext : u32 data (cursor + 12) = 0
    · rw [if_pos hnext] at h
      cases h
      exact ⟨refs, .last (by omega) hnext hchain, hadds⟩
    · rw [if_neg hnext] at h
      obtain ⟨rest, hrest, hmore⟩ := ih h
      exact ⟨refs ++ rest, .next (by omega) hnext hchain hrest, hadds.trans hmore⟩

theorem readVerneed_adds {entry : ElfSection} {found found' : ElfStrings}
    (htype : entry.sectionType = SHT_GNU_VERNEED)
    (h : readVerneed data sections entry found = .ok found') :
    (∃ refs, VersionRefs data entry refs ∧
      Adds (Names data sections) refs found.versions found'.versions) ∧
    ∀ tag : DynamicTag, tag.list found' = tag.list found := by
  obtain ⟨⟨cursor, versions⟩, hneeds, h⟩ := bind_eq_ok.mp h
  dsimp only at h
  by_cases houtside : entry.offset + entry.size < cursor
  · rw [if_pos houtside] at h
    cases h
  rw [if_neg houtside] at h
  cases h
  obtain ⟨refs, hchain, hadds⟩ := readNeeds_adds hneeds houtside
  refine ⟨⟨refs, ?_, hadds⟩, fun tag => ?_⟩
  · rw [VersionRefs, if_pos htype]
    exact hchain
  · cases tag <;> rfl

theorem readStrings_list (tag : DynamicTag) {entry : ElfSection} {found found' : ElfStrings}
    (h : readStrings data sections found entry = .ok found') :
    Adds (Names data sections) (dynamicRefs data tag entry) (tag.list found)
      (tag.list found') := by
  rw [readStrings] at h
  by_cases hdynamic : entry.sectionType = SHT_DYNAMIC
  · rw [if_pos hdynamic] at h
    exact (readDynamic_adds hdynamic h).1 tag
  rw [if_neg hdynamic] at h
  rw [dynamicRefs, if_neg hdynamic]
  by_cases hneeds : entry.sectionType = SHT_GNU_VERNEED
  · rw [if_pos hneeds] at h
    rw [(readVerneed_adds hneeds h).2 tag]
    exact .none
  · rw [if_neg hneeds] at h
    cases h
    exact .none

theorem readStrings_versions {entry : ElfSection} {found found' : ElfStrings}
    (h : readStrings data sections found entry = .ok found') :
    ∃ refs, VersionRefs data entry refs ∧
      Adds (Names data sections) refs found.versions found'.versions := by
  rw [readStrings] at h
  by_cases hdynamic : entry.sectionType = SHT_DYNAMIC
  · rw [if_pos hdynamic] at h
    have hother : entry.sectionType ≠ SHT_GNU_VERNEED := by
      rw [hdynamic]
      decide
    refine ⟨[], ?_, ?_⟩
    · rw [VersionRefs, if_neg hother]
    · rw [(readDynamic_adds hdynamic h).2]
      exact .none
  rw [if_neg hdynamic] at h
  by_cases hneeds : entry.sectionType = SHT_GNU_VERNEED
  · rw [if_pos hneeds] at h
    exact (readVerneed_adds hneeds h).1
  · rw [if_neg hneeds] at h
    cases h
    refine ⟨[], ?_, .none⟩
    rw [VersionRefs, if_neg hneeds]

/-- An entry of the section table is the header at its place, and what it describes is there. -/
theorem readSection_ok {offset index : Nat} {entry : ElfSection}
    (h : readSection data offset index = .ok entry) :
    entry = sectionAt data offset ∧
      (entry.sectionType ≠ 0 → entry.offset + entry.size ≤ data.length) := by
  obtain ⟨_, _, h⟩ := bind_eq_ok.mp h
  dsimp only at h
  by_cases htype : (sectionAt data offset).sectionType ≠ 0
  · rw [if_pos htype] at h
    obtain ⟨_, hinside, h⟩ := bind_eq_ok.mp h
    cases h
    exact ⟨rfl, fun _ => requireBytes_iff.mp hinside⟩
  · rw [if_neg htype] at h
    cases h
    exact ⟨rfl, fun hused => absurd hused htype⟩

end Lists

/-- The headers of a section table that fits in the file lie in the file. -/
theorem header_fits {data : Bytes} {index : Nat} (hentry : 64 ≤ u16 data 58)
    (hindex : index < u16 data 60)
    (hinside : u64 data 40 + u16 data 58 * u16 data 60 ≤ data.length) :
    u64 data 40 + index * u16 data 58 + 64 ≤ data.length := by
  have hrows : (index + 1) * u16 data 58 ≤ u16 data 60 * u16 data 58 :=
    Nat.mul_le_mul_right _ hindex
  rw [Nat.succ_mul, Nat.mul_comm (u16 data 60)] at hrows
  omega

theorem read_fails (data : Bytes) : FailsOnly ReaderFault.IsParseError (read data) := by
  refine requireBytes_fails.bind fun _ hheader => ?_
  have hlength := requireBytes_iff.mp hheader
  refine check_fails.bind fun _ _ => check_fails.bind fun _ _ => check_fails.bind fun _ _ => ?_
  refine (unpackFrom_fails (by omega)).bind fun _ _ => ?_
  refine (unpackFrom_fails (by omega)).bind fun _ _ => ?_
  refine (unpackFrom_fails (by omega)).bind fun _ _ => ?_
  refine check_fails.bind fun _ _ => check_fails.bind fun _ hentry => ?_
  refine requireBytes_fails.bind fun _ htable => ?_
  have hinside := requireBytes_iff.mp htable
  have hsize := of_decide_eq_true (check_iff.mp hentry)
  refine (failsOnly_mapM fun index hindex => ?_).bind fun sections hsections => ?_
  · exact readSection_fails index (header_fits hsize (List.mem_range.mp hindex) hinside)
  refine (failsOnly_foldlM (fun found entry hentry => ?_) _).bind fun _ _ => failsOnly_ok _ _
  obtain ⟨index, _, hread⟩ := (mem_mapM hsections).2 entry hentry
  exact readStrings_fails found entry (readSection_ok hread).2

/-- The section table as it is read. -/
theorem sectionTable_of_read {data : Bytes} {sections : List ElfSection} (hsome : u16 data 60 ≠ 0)
    (hentry : 64 ≤ u16 data 58) (hinside : u64 data 40 + u16 data 58 * u16 data 60 ≤ data.length)
    (h : (List.range (u16 data 60)).mapM (fun index =>
      readSection data (u64 data 40 + index * u16 data 58) index) = .ok sections) :
    SectionTable data sections where
  some := hsome
  entrySize := hentry
  inside := hinside
  entries := mapM_eq_map (fun _ _ _ hread => (readSection_ok hread).1) h
  sections_inside := by
    intro entry hentry
    obtain ⟨index, _, hread⟩ := (mem_mapM h).2 entry hentry
    exact (readSection_ok hread).2

theorem read_ok {data : Bytes} {info : ElfInfo} (h : read data = .ok info) : Exact data info := by
  obtain ⟨_, _, h⟩ := bind_eq_ok.mp h
  obtain ⟨_, hmagic, h⟩ := bind_eq_ok.mp h
  obtain ⟨_, hclass, h⟩ := bind_eq_ok.mp h
  obtain ⟨_, hendian, h⟩ := bind_eq_ok.mp h
  obtain ⟨_, _, h⟩ := bind_eq_ok.mp h
  obtain ⟨_, _, h⟩ := bind_eq_ok.mp h
  obtain ⟨_, _, h⟩ := bind_eq_ok.mp h
  obtain ⟨_, hsome, h⟩ := bind_eq_ok.mp h
  obtain ⟨_, hentry, h⟩ := bind_eq_ok.mp h
  obtain ⟨_, htable, h⟩ := bind_eq_ok.mp h
  obtain ⟨sections, hsections, h⟩ := bind_eq_ok.mp h
  obtain ⟨found, hfound, h⟩ := bind_eq_ok.mp h
  obtain rfl := Except.ok.inj h
  refine ⟨rfl, of_decide_eq_true (check_iff.mp hmagic), of_decide_eq_true (check_iff.mp hclass),
    of_decide_eq_true (check_iff.mp hendian), rfl, sections, ?_, fun tag => ?_, ?_⟩
  · exact sectionTable_of_read (of_decide_eq_true (check_iff.mp hsome))
      (of_decide_eq_true (check_iff.mp hentry)) (requireBytes_iff.mp htable) hsections
  · obtain ⟨refss, hrefss, hadds⟩ := foldlM_adds (N := Names data sections)
      (R := fun entry refs => refs = dynamicRefs data tag entry) (v := tag.list)
      (fun entry _ _ _ hstep => ⟨_, rfl, readStrings_list tag hstep⟩) hfound
    rw [flatten_of_forall₂_eq hrefss] at hadds
    cases tag with
    | needed => exact hadds.all
    | soname => exact hadds.all
    | rpath => exact hadds.all
    | runpath => exact hadds.all
  · obtain ⟨chains, hchains, hadds⟩ := foldlM_adds (N := Names data sections)
      (v := ElfStrings.versions) (fun entry _ _ _ hstep => readStrings_versions hstep) hfound
    exact ⟨chains, hchains, hadds.all⟩

/-- What the reader may do with a file: raise its own exception, or read exactly what is there. -/
def ReadResult (data : Bytes) : Except ReaderFault ElfInfo → Prop
  | .error fault => fault.IsParseError
  | .ok info => Exact data info

theorem read_exact (data : Bytes) : ReadResult data (read data) := by
  cases hread : read data with
  | error fault => exact read_fails data fault hread
  | ok info => exact read_ok hread

def zeros (n : Nat) : Bytes := List.replicate n 0

/-- A file of a string table and a dynamic section with two entries: the library that is needed and
the name of the library that this is. -/
def sharedObject : Bytes :=
  elfMagic ++ [2, 1] ++ zeros 12 ++ [62, 0] ++ zeros 20 ++ [64] ++ zeros 17 ++
    [64, 0, 2, 0, 0, 0] ++
    -- the headers of the two sections, which stand at 192 and 203
    zeros 4 ++ [3] ++ zeros 19 ++ [192] ++ zeros 7 ++ [11] ++ zeros 31 ++
    zeros 4 ++ [6] ++ zeros 19 ++ [203] ++ zeros 7 ++ [32] ++ zeros 31 ++
    [0, 108, 105, 98, 99, 46, 115, 111, 46, 54, 0] ++
    [1] ++ zeros 7 ++ [1] ++ zeros 7 ++ [14] ++ zeros 7 ++ [1] ++ zeros 7

example : (read sharedObject).map ElfInfo.toElfStrings =
    .ok { needed := ["libc.so.6"], soname := ["libc.so.6"] } := by
  decide +kernel

end AttestationSdk.Elf
