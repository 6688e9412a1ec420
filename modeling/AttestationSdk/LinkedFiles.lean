import Mathlib.Logic.Function.Basic

/-! A file system of names and inodes. A file may have several names; what is written to it in
place is read under each of them. -/
namespace LinkedFiles

/-- What a name stands for. -/
inductive Entry (P : Type)
  | file (inode : Nat)
  | directory
  | symlink (target : P)
  deriving DecidableEq

/-- What is read at a name. -/
inductive Content (P β : Type)
  | file (bytes : β)
  | directory
  | symlink (target : P)
  deriving DecidableEq

/-- Inodes from `next` on are not in use. -/
structure FileSystem (P β : Type) where
  names : P → Option (Entry P)
  data : Nat → β
  next : Nat
  fresh : ∀ p i, names p = some (.file i) → i < next

/-- Why no new name was made. -/
inductive LinkError
  | missing
  | present
  | directory
  deriving DecidableEq

variable {P β : Type}

def view (data : Nat → β) : Entry P → Content P β
  | .file i => .file (data i)
  | .directory => .directory
  | .symlink target => .symlink target

namespace FileSystem
variable (fs : FileSystem P β)

def content (p : P) : Option (Content P β) := (fs.names p).map (view fs.data)

/-- The longest chain of symbolic links that is followed. -/
def maxSymlinks : Nat := 40

/-- The entry a name leads to. -/
def resolve : Nat → P → Option (Entry P)
  | 0, _ => none
  | n + 1, p =>
    match fs.names p with
    | some (.symlink target) => resolve n target
    | entry => entry

def leadsTo (p : P) : Option (Entry P) := fs.resolve maxSymlinks p

def isSymlink (p : P) : Bool :=
  match fs.names p with
  | some (.symlink _) => true
  | _ => false

def isFile (p : P) : Bool :=
  match fs.leadsTo p with
  | some (.file _) => true
  | _ => false

def isDirectory (p : P) : Bool :=
  match fs.leadsTo p with
  | some .directory => true
  | _ => false

theorem rearrange_fresh {fs : FileSystem P β} {names : P → Option (Entry P)}
    (h : ∀ p i, names p = some (.file i) → ∃ q, fs.names q = some (.file i)) (p : P) (i : Nat)
    (hp : names p = some (.file i)) : i < fs.next := by
  cases h p i hp with
  | intro q hq => exact fs.fresh q i hq

/-- Other names for the files that are there. -/
def rearrange (names : P → Option (Entry P))
    (h : ∀ p i, names p = some (.file i) → ∃ q, fs.names q = some (.file i)) :
    FileSystem P β where
  names := names
  data := fs.data
  next := fs.next
  fresh := rearrange_fresh h

theorem names_of_if {D : P → Bool} {p : P} {i : Nat} {e : Option (Entry P)}
    (he : e ≠ some (.file i)) (h : (if D p then e else fs.names p) = some (.file i)) :
    ∃ q, fs.names q = some (.file i) := by
  split at h
  · exact absurd h he
  · exact ⟨p, h⟩

theorem removeAll_source (D : P → Bool) (p : P) (i : Nat)
    (h : (if D p then none else fs.names p) = some (.file i)) :
    ∃ q, fs.names q = some (.file i) :=
  fs.names_of_if (by simp) h

/-- Every name of `D` goes. -/
def removeAll (D : P → Bool) : FileSystem P β :=
  fs.rearrange (fun p => if D p then none else fs.names p) (fs.removeAll_source D)

theorem addDirectories_source (D : P → Bool) (p : P) (i : Nat)
    (h : (if D p then some .directory else fs.names p) = some (.file i)) :
    ∃ q, fs.names q = some (.file i) :=
  fs.names_of_if (by simp) h

/-- Every name of `D` becomes a directory. -/
def addDirectories (D : P → Bool) : FileSystem P β :=
  fs.rearrange (fun p => if D p then some .directory else fs.names p)
    (fs.addDirectories_source D)

theorem file_inj (j i : Nat) (h : (Entry.file j : Entry P) = .file i) : i = j := by
  cases h
  rfl

variable [DecidableEq P]

theorem copyName_source (src dst p : P) (i : Nat)
    (h : Function.update fs.names dst (fs.names src) p = some (.file i)) :
    ∃ q, fs.names q = some (.file i) := by
  by_cases hp : p = dst
  · rw [hp, Function.update_self] at h
    exact ⟨src, h⟩
  · rw [Function.update_of_ne hp] at h
    exact ⟨p, h⟩

/-- `dst` becomes a further name of what `src` stands for. -/
def copyName (src dst : P) : FileSystem P β :=
  fs.rearrange (Function.update fs.names dst (fs.names src)) (fs.copyName_source src dst)

def removeName (p : P) : FileSystem P β := fs.removeAll (fun q => q == p)

/-- A hard link; it never replaces a name. -/
def link (src dst : P) : Except LinkError (FileSystem P β) :=
  match fs.names src with
  | none => .error .missing
  | some entry =>
    if (fs.names dst).isSome then .error .present
    else if entry = .directory then .error .directory
    else .ok (fs.copyName src dst)

def unlink (p : P) : Except LinkError (FileSystem P β) :=
  match fs.names p with
  | none => .error .missing
  | some .directory => .error .directory
  | some _ => .ok (fs.removeName p)

theorem create_fresh (p : P) (e : Entry P) (he : ∀ i, e = .file i → i = fs.next) (q : P) (i : Nat)
    (h : Function.update fs.names p (some e) q = some (.file i)) : i < fs.next + 1 := by
  by_cases hq : q = p
  · rw [hq, Function.update_self] at h
    exact (he i (Option.some.inj h)) ▸ Nat.lt_succ_self _
  · rw [Function.update_of_ne hq] at h
    exact Nat.lt_succ_of_lt (fs.fresh q i h)

/-- A new file, under an inode of its own. -/
def createFile (p : P) (bytes : β) : FileSystem P β where
  names := Function.update fs.names p (some (.file fs.next))
  data := Function.update fs.data fs.next bytes
  next := fs.next + 1
  fresh := fs.create_fresh p (.file fs.next) (file_inj fs.next)

/-- What is written over a file goes into the inode, under whatever names it has. -/
def overwrite (i : Nat) (bytes : β) : FileSystem P β :=
  { fs with data := Function.update fs.data i bytes }

/-- Opens `p` for writing, creating it where it is missing, and writes `bytes`. -/
def write (p : P) (bytes : β) : Option (FileSystem P β) :=
  match fs.names p with
  | none => some (fs.createFile p bytes)
  | some (.file i) => some (fs.overwrite i bytes)
  | some _ => none

/-- No name of `D` shares its file with another name. -/
def Unshared (D : P → Bool) : Prop :=
  ∀ p q i, D p = true → fs.names p = some (.file i) → fs.names q = some (.file i) → q = p

end FileSystem

section Contents
open FileSystem
variable {fs fs' : FileSystem P β} {D : P → Bool}

theorem content_eq_none {p : P} : fs.content p = none ↔ fs.names p = none :=
  Option.map_eq_none_iff

/-- A path with content is not a free one. -/
theorem ne_of_free {p q : P} {k : Content P β} (hk : fs.content p = some k)
    (hfree : fs.names q = none) : p ≠ q := by
  intro heq
  rw [heq, content_eq_none.mpr hfree] at hk
  cases hk

theorem content_of_names {p : P} {e : Entry P} (h : fs.names p = some e) :
    fs.content p = some (view fs.data e) := by
  rw [FileSystem.content, h, Option.map_some]

theorem leadsTo_of_file {p : P} {i : Nat} (h : fs.names p = some (.file i)) :
    fs.leadsTo p = some (.file i) := by
  unfold leadsTo maxSymlinks resolve
  rw [h]

theorem file_of_content {p : P} {bytes : β} (h : fs.content p = some (.file bytes)) :
    ∃ i, fs.names p = some (.file i) ∧ fs.data i = bytes := by
  obtain ⟨e, he, hview⟩ := Option.map_eq_some_iff.mp h
  cases e with
  | file i => exact ⟨i, he, Content.file.inj hview⟩
  | directory => cases hview
  | symlink target => cases hview

/-- A file that is no symbolic link is a regular file. -/
theorem regular_iff {p : P} :
    (fs.isFile p = true ∧ fs.isSymlink p = false) ↔ ∃ i, fs.names p = some (.file i) := by
  constructor
  · rintro ⟨hfile, hlink⟩
    unfold isSymlink at hlink
    unfold isFile leadsTo maxSymlinks resolve at hfile
    cases he : fs.names p with
    | none => simp [he] at hfile
    | some e =>
      cases e with
      | file i => exact ⟨i, rfl⟩
      | directory => simp [he] at hfile
      | symlink target => simp [he] at hlink
  · rintro ⟨i, h⟩
    constructor
    · rw [isFile, leadsTo_of_file h]
    · rw [isSymlink, h]

@[simp] theorem removeAll_names (p : P) :
    (fs.removeAll D).names p = if D p then none else fs.names p := rfl

@[simp] theorem addDirectories_names (p : P) :
    (fs.addDirectories D).names p = if D p then some .directory else fs.names p := rfl

theorem content_removeAll (p : P) :
    (fs.removeAll D).content p = if D p then none else fs.content p := by
  rw [FileSystem.content, removeAll_names]
  cases D p with
  | true => rfl
  | false => rfl

theorem content_addDirectories (p : P) :
    (fs.addDirectories D).content p = if D p then some .directory else fs.content p := by
  rw [FileSystem.content, addDirectories_names]
  cases D p with
  | true => rfl
  | false => rfl

/-- Whatever only takes names of files away shares no more files. -/
theorem unshared_of_names
    (hfiles : ∀ p i, fs'.names p = some (.file i) → fs.names p = some (.file i)) (h : fs.Unshared D) : fs'.Unshared D :=
  fun p q i hp hpi hqi => h p q i hp (hfiles p i hpi) (hfiles q i hqi)

theorem unshared_of_no_file (h : ∀ p i, D p = true → fs.names p ≠ some (.file i)) :
    fs.Unshared D :=
  fun p _ i hp hpi _ => absurd hpi (h p i hp)

theorem removeAll_unshared {R : P → Bool} (h : fs.Unshared D) : (fs.removeAll R).Unshared D := by
  refine unshared_of_names (fun p i hp => ?_) h
  rw [removeAll_names] at hp
  split at hp
  · cases hp
  · exact hp

theorem addDirectories_unshared {R : P → Bool} (h : fs.Unshared D) :
    (fs.addDirectories R).Unshared D := by
  refine unshared_of_names (fun p i hp => ?_) h
  rw [addDirectories_names] at hp
  split at hp
  · cases hp
  · exact hp

/-- A new inode is not read under any older name. -/
theorem view_fresh {p : P} {e : Entry P} (hp : fs.names p = some e) (bytes : β) :
    view (Function.update fs.data fs.next bytes) e = view fs.data e := by
  cases e with
  | file i =>
    have hi := fs.fresh p i hp
    simp only [view, Function.update_of_ne (Nat.ne_of_lt hi)]
  | directory => rfl
  | symlink target => rfl

variable [DecidableEq P]

theorem content_copyName (fs : FileSystem P β) (src dst p : P) :
    (fs.copyName src dst).content p = Function.update fs.content dst (fs.content src) p := by
  by_cases hp : p = dst
  · rw [hp, Function.update_self, FileSystem.content, copyName, rearrange]
    dsimp only
    rw [Function.update_self]
    rfl
  · rw [Function.update_of_ne hp, FileSystem.content, copyName, rearrange]
    dsimp only
    rw [Function.update_of_ne hp]
    rfl

theorem content_removeName (fs : FileSystem P β) (p q : P) :
    (fs.removeName p).content q = Function.update fs.content p none q := by
  rw [removeName, content_removeAll, Function.update_apply]
  simp only [beq_iff_eq]

theorem link_ok {src dst : P} (h : fs.link src dst = .ok fs') :
    (fs.content src ≠ none ∧ fs.content src ≠ some .directory) ∧ fs.names dst = none ∧
      fs' = fs.copyName src dst := by
  unfold FileSystem.link at h
  cases hsrc : fs.names src with
  | none => simp [hsrc] at h
  | some e =>
    cases hdst : fs.names dst with
    | some e' => simp [hsrc, hdst] at h
    | none =>
      simp only [hsrc, hdst, Option.isSome_none, Bool.false_eq_true, if_false] at h
      rw [content_of_names hsrc]
      cases e with
      | directory => simp at h
      | file i => exact ⟨by simp [view], rfl, (Except.ok.inj h).symm⟩
      | symlink target => exact ⟨by simp [view], rfl, (Except.ok.inj h).symm⟩

theorem unlink_ok {p : P} (h : fs.unlink p = .ok fs') : fs' = fs.removeName p := by
  unfold FileSystem.unlink at h
  split at h
  · cases h
  · cases h
  · exact (Except.ok.inj h).symm

theorem unlink_file {p : P} {bytes : β} (h : fs.content p = some (.file bytes)) :
    fs.unlink p = .ok (fs.removeName p) := by
  rw [FileSystem.content, Option.map_eq_some_iff] at h
  obtain ⟨e, he, hview⟩ := h
  unfold FileSystem.unlink
  cases e with
  | file i => rw [he]
  | directory => cases hview
  | symlink target => cases hview

theorem content_createFile (fs : FileSystem P β) (p q : P) (bytes : β) :
    (fs.createFile p bytes).content q =
      Function.update fs.content p (some (.file bytes)) q := by
  by_cases hq : q = p
  · simp [hq, FileSystem.content, createFile, view]
  · rw [Function.update_of_ne hq, FileSystem.content, createFile]
    dsimp only
    rw [Function.update_of_ne hq, FileSystem.content]
    cases he : fs.names q with
    | none => rfl
    | some e => rw [Option.map_some, Option.map_some, view_fresh he]

theorem createFile_names_inv {p q : P} {bytes : β} {i : Nat}
    (h : (fs.createFile p bytes).names q = some (.file i)) :
    q = p ∧ i = fs.next ∨ fs.names q = some (.file i) := by
  unfold createFile at h
  dsimp only at h
  by_cases hq : q = p
  · rw [hq, Function.update_self] at h
    exact .inl ⟨hq, file_inj fs.next i (Option.some.inj h)⟩
  · rw [Function.update_of_ne hq] at h
    exact .inr h

theorem createFile_unshared {p : P} {bytes : β} (h : fs.Unshared D) :
    (fs.createFile p bytes).Unshared D := by
  intro a b i ha hai hbi
  cases createFile_names_inv hai with
  | inl hnew =>
    cases createFile_names_inv hbi with
    | inl hnew' => exact hnew'.1.trans hnew.1.symm
    | inr hold => exact absurd (fs.fresh b i hold) (by omega)
  | inr hold =>
    cases createFile_names_inv hbi with
    | inl hnew' => exact absurd (fs.fresh a i hold) (by omega)
    | inr hold' => exact h a b i ha hold hold'

theorem write_unshared {p : P} {bytes : β} (hw : fs.write p bytes = some fs')
    (h : fs.Unshared D) : fs'.Unshared D := by
  unfold FileSystem.write at hw
  split at hw
  · cases hw
    exact createFile_unshared h
  · cases hw
    exact h
  · cases hw

/-- Writing to a file with no other name changes what is read under that name only. -/
theorem content_write {p : P} {bytes : β} (hw : fs.write p bytes = some fs')
    (h : fs.Unshared D) (hp : D p = true) (q : P) :
    fs'.content q = Function.update fs.content p (some (.file bytes)) q := by
  unfold FileSystem.write at hw
  split at hw
  · cases hw
    exact content_createFile fs p q bytes
  next i hi =>
    cases hw
    by_cases hq : q = p
    · rw [hq, Function.update_self, FileSystem.content]
      simp [overwrite, hi, view]
    · rw [Function.update_of_ne hq, FileSystem.content, FileSystem.content, overwrite]
      cases he : fs.names q with
      | none => rfl
      | some e =>
        cases e with
        | file j =>
          have hj : j ≠ i := fun hji => hq (h p q i hp hi (hji ▸ he))
          simp [view, Function.update_of_ne hj]
        | directory => rfl
        | symlink target => rfl
  · cases hw

end Contents

end LinkedFiles
