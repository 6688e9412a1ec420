import Mathlib.Data.List.Dedup
import Mathlib.Data.List.Lex
import Mathlib.Data.String.Basic
import AttestationSdk.DependencyDeclarations
import AttestationSdk.FoldRules
import AttestationSdk.KeyedList

/-! `generate-dependencies.py`: the pins of the dependencies of a checkout, and what they owe to the
directory it stands in. -/
namespace AttestationSdk.Dependencies
open KeyedList ExceptRules FoldRules

/-- What the language knows of characters. -/
structure Unicode where
  /-- `str.lower`. -/
  lower : String → String
  /-- `\d`. -/
  isDecimal : Char → Bool

inductive Classification
  | runtime
  | build
  | test
  deriving Repr, DecidableEq

inductive Pin
  | git (repository revision : String)
  | archive (url algorithm digest : String)
  deriving Repr, DecidableEq

structure Entry where
  name : String
  classification : Classification
  pin : Pin
  deriving Repr, DecidableEq

/-- A path by its parts. -/
abbrev Path := List String

/-- What `parse` raises. -/
inductive PinError
  | unreadable (path : Path)
  | scan (path : Path) (e : ScanError)
  | incompleteGit (name : String) (path : Path)
  | hashWithoutUrl (name : String) (path : Path)
  | urlWithoutHash (name : String) (path : Path)
  | floatingUrl (name url : String)
  | invalidHash (name : String)
  | unpinned (name : String) (path : Path)
  | conflicting (name : String)
  deriving Repr, DecidableEq

/-- A checked out tree: the absolute directory, the `CMakeLists.txt` that the two `rglob` find in
it, and its files by their relative paths. -/
structure Checkout where
  root : Path
  found : List Path
  read : Path → Option (List Char)

def gtestPath : Path := ["nv-attestation-sdk-cpp", "cmake", "nvat_fetch_gtest.cmake"]

/-- `select_dependency_inputs`. -/
def selectDependencyInputs (candidates : List Path) : List Path :=
  let inputs := (candidates.dedup.filter fun path => path.getLast? = some "CMakeLists.txt" ∧
    path.head? ∈ [some "nv-attestation-sdk-cpp", some "nv-attestation-cli"]).mergeSort
      fun a b => decide (a ≤ b)
  if gtestPath ∈ candidates then inputs ++ [gtestPath] else inputs

/-- `dependency_inputs`, by their relative paths. -/
def Checkout.dependencyInputs (checkout : Checkout) : List Path :=
  selectDependencyInputs (checkout.found ++ [gtestPath])

/-- `(root / relative).parts`. -/
def Checkout.parts (checkout : Checkout) (relative : Path) : Path :=
  "/" :: (checkout.root ++ relative)

section Parse
variable (unicode : Unicode)

/-- `classify`. -/
def classify (name : String) (path : Path) : Classification :=
  if unicode.lower name ∈ ["googletest", "gtest"] ∨ "unit-tests" ∈ path ∨ "tests" ∈ path then .test
  else if unicode.lower name = "corrosion" then .build
  else .runtime

/-- `(?:/v?\d|[-_]\d)` at the start of a text. -/
def versionStart : List Char → Bool
  | '/' :: rest => rest.head?.any unicode.isDecimal ||
      (rest.head? = some 'v' && rest.tail.head?.any unicode.isDecimal)
  | c :: rest => (c = '-' || c = '_') && rest.head?.any unicode.isDecimal
  | [] => false

def hasVersion (url : String) : Bool := url.toList.tails.any (versionStart unicode)

/-- A value that is there and not empty. -/
def present (declaration : Declaration) (key : String) : Option String :=
  (valueAfter declaration.tokens key).filter (· ≠ "")

/-- The parts of `url_hash.partition("=")`, where there is a separator and a digest. -/
def splitHash (urlHash : String) : Option (String × String) :=
  match urlHash.toList.dropWhile (· ≠ '=') with
  | _ :: digest => if digest = [] then none
      else some (String.ofList (urlHash.toList.takeWhile (· ≠ '=')), String.ofList digest)
  | [] => none

/-- The pin of an archive. -/
def archivePin (name url urlHash : String) : Except PinError Pin :=
  if ¬ hasVersion unicode url then .error (.floatingUrl name url)
  else match splitHash urlHash with
    | none => .error (.invalidHash name)
    | some (algorithm, digest) => .ok (.archive url (unicode.lower algorithm) digest)

/-- The pin of a declaration. -/
def pinOf (declaration : Declaration) (path : Path) : Except PinError Pin :=
  match present declaration "GIT_REPOSITORY", present declaration "GIT_TAG",
    present declaration "URL", present declaration "URL_HASH" with
  | some repository, some tag, none, none => .ok (.git repository tag)
  | none, none, some url, some urlHash => archivePin unicode declaration.name url urlHash
  | none, none, some _, none => .error (.urlWithoutHash declaration.name path)
  | none, none, none, some _ => .error (.hashWithoutUrl declaration.name path)
  | none, none, none, none => .error (.unpinned declaration.name path)
  | _, _, _, _ => .error (.incompleteGit declaration.name path)

/-- The classification of two declarations of one dependency. -/
def Classification.merge (previous entry : Classification) : Classification :=
  if previous = .runtime ∨ entry = .runtime then .runtime
  else if previous = .build ∨ entry = .build then .build
  else entry

/-- One turn of the loop over the declarations of a file. -/
def addDeclaration (path : Path) (dependencies : List (String × Entry))
    (declaration : Declaration) : Except PinError (List (String × Entry)) := do
  let pin ← pinOf unicode declaration path
  let key := unicode.lower declaration.name
  let own := classify unicode declaration.name path
  match dependencies.lookup key with
  | none => return setKey key ⟨declaration.name, own, pin⟩ dependencies
  | some previous =>
    if previous.pin ≠ pin then .error (.conflicting declaration.name)
    else return setKey key ⟨previous.name, previous.classification.merge own, pin⟩ dependencies

variable (checkout : Checkout)

/-- One turn of the loop over the files. -/
def readInput (dependencies : List (String × Entry)) (relative : Path) :
    Except PinError (List (String × Entry)) :=
  match checkout.read relative with
  | none => .error (.unreadable (checkout.parts relative))
  | some text => do
    let run := declarationRecords text
    let dependencies ← run.yields.foldlM (addDeclaration unicode (checkout.parts relative))
      dependencies
    match run.raised with
    | some e => .error (.scan (checkout.parts relative) e)
    | none => .ok dependencies

/-- The dependencies of some files by their names in lower case. -/
def readInputs (inputs : List Path) : Except PinError (List (String × Entry)) :=
  inputs.foldlM (readInput unicode checkout) []

/-- `parse`, on the files in some order. -/
def parseFiles (inputs : List Path) : Except PinError (List Entry) := do
  let dependencies ← readInputs unicode checkout inputs
  return (dependencies.map Prod.snd).mergeSort fun a b =>
    decide (unicode.lower a.name ≤ unicode.lower b.name)

/-- `parse`. -/
def parse : Except PinError (List Entry) :=
  parseFiles unicode checkout checkout.dependencyInputs

end Parse

/-- The classification of all declarations of one dependency, in whatever order. -/
def overall (classifications : List Classification) : Classification :=
  if .runtime ∈ classifications then .runtime
  else if .build ∈ classifications then .build
  else .test

theorem overall_append (classifications : List Classification) (own : Classification) :
    overall (classifications ++ [own]) = (overall classifications).merge own := by
  simp only [overall, List.mem_append, List.mem_singleton]
  by_cases hruntime : .runtime ∈ classifications
  · simp [hruntime, Classification.merge]
  · by_cases hbuild : .build ∈ classifications
    · cases own <;> simp [hruntime, hbuild, Classification.merge]
    · cases own <;> simp [hruntime, hbuild, Classification.merge]

theorem overall_perm {xs ys : List Classification} (h : xs.Perm ys) : overall xs = overall ys := by
  simp only [overall, h.mem_iff]

theorem overall_eq_test {classifications : List Classification} :
    overall classifications = .test ↔ ∀ own ∈ classifications, own = .test := by
  rw [overall]
  constructor
  · intro h own hown
    split_ifs at h with hruntime hbuild
    cases own with
    | runtime => exact absurd hown hruntime
    | build => exact absurd hown hbuild
    | test => rfl
  · intro h
    have hruntime : .runtime ∉ classifications := fun hin => absurd (h _ hin) nofun
    have hbuild : .build ∉ classifications := fun hin => absurd (h _ hin) nofun
    rw [if_neg hruntime, if_neg hbuild]

section Pins
variable {unicode : Unicode} {checkout : Checkout}

/-- Whether a declaration has a pin, and which, does not depend on where its file stands. -/
theorem pinOf_path {declaration : Declaration} {path path' : Path} {pin : Pin}
    (h : pinOf unicode declaration path = .ok pin) :
    pinOf unicode declaration path' = .ok pin := by
  rw [pinOf] at h ⊢
  split at h
  · exact h
  · exact h
  all_goals cases h

/-- A declaration with its file, which has a key and a classification there. -/
abbrev Declared := Path × Declaration

def keyOf (unicode : Unicode) (declared : Declared) : String := unicode.lower declared.2.name

def classOf (unicode : Unicode) (checkout : Checkout) (declared : Declared) : Classification :=
  classify unicode declared.2.name (checkout.parts declared.1)

/-- The declarations of some files in order. -/
def Checkout.declaredIn (checkout : Checkout) (inputs : List Path) : List Declared :=
  inputs.flatMap fun relative =>
    ((checkout.read relative).elim [] fun text => (declarationRecords text).yields).map (relative, ·)

def Checkout.declared (checkout : Checkout) : List Declared :=
  checkout.declaredIn checkout.dependencyInputs

/-- The classification of the declarations under a key. -/
def overallOf (unicode : Unicode) (checkout : Checkout) (declared : List Declared) (key : String) :
    Classification :=
  overall ((declared.filter fun p => keyOf unicode p = key).map (classOf unicode checkout))

/-- The file is there, and its declarations are read to the end. -/
def Readable (checkout : Checkout) (relative : Path) : Prop :=
  ∃ text, checkout.read relative = some text ∧ (declarationRecords text).raised = none

/-- The loop over the declarations of a list of files. -/
def addDeclared (unicode : Unicode) (checkout : Checkout) (dependencies : List (String × Entry))
    (p : Declared) : Except PinError (List (String × Entry)) :=
  addDeclaration unicode (checkout.parts p.1) dependencies p.2

theorem readInput_iff {relative : Path} {dependencies dependencies' : List (String × Entry)} :
    readInput unicode checkout dependencies relative = .ok dependencies' ↔
      Readable checkout relative ∧ (checkout.declaredIn [relative]).foldlM
        (addDeclared unicode checkout) dependencies = .ok dependencies' := by
  rw [readInput, Readable, Checkout.declaredIn, List.flatMap_singleton]
  cases checkout.read relative with
  | none => exact iff_of_false nofun fun h => nomatch h.1
  | some text =>
    simp only [Option.some.injEq, exists_eq_left', Option.elim_some, List.foldlM_map, bind_eq_ok]
    constructor
    · intro h
      obtain ⟨found, hfold, h⟩ := h
      cases hraised : (declarationRecords text).raised with
      | some e =>
        rw [hraised] at h
        cases h
      | none =>
        rw [hraised] at h
        cases h
        exact ⟨rfl, hfold⟩
    · intro h
      refine ⟨dependencies', h.2, ?_⟩
      rw [h.1]

/-- The files are read where each of them can be, and then their declarations decide. -/
theorem readInputs_iff {inputs : List Path} {dependencies dependencies' : List (String × Entry)} :
    inputs.foldlM (readInput unicode checkout) dependencies = .ok dependencies' ↔
      (∀ relative ∈ inputs, Readable checkout relative) ∧
        (checkout.declaredIn inputs).foldlM (addDeclared unicode checkout) dependencies =
          .ok dependencies' := by
  induction inputs generalizing dependencies with
  | nil => simp [Checkout.declaredIn]
  | cons relative rest ih =>
    have hsplit : checkout.declaredIn (relative :: rest) =
        checkout.declaredIn [relative] ++ checkout.declaredIn rest := by
      rw [Checkout.declaredIn, Checkout.declaredIn, Checkout.declaredIn, List.flatMap_cons,
        List.flatMap_singleton]
    rw [List.foldlM_cons, bind_eq_ok, hsplit, List.foldlM_append, bind_eq_ok, List.forall_mem_cons]
    constructor
    · intro h
      obtain ⟨found, hfirst, hrest⟩ := h
      obtain ⟨hreadable, hfold⟩ := readInput_iff.mp hfirst
      obtain ⟨hreadables, hfolds⟩ := ih.mp hrest
      exact ⟨⟨hreadable, hreadables⟩, found, hfold, hfolds⟩
    · intro h
      obtain ⟨⟨hreadable, hreadables⟩, found, hfold, hfolds⟩ := h
      exact ⟨found, readInput_iff.mpr ⟨hreadable, hfold⟩, ih.mpr ⟨hreadables, hfolds⟩⟩

/-- The entry that a declaration leaves under its key. -/
def entryAfter (previous : Option Entry) (name : String) (own : Classification) (pin : Pin) :
    Entry where
  name := previous.elim name Entry.name
  classification := previous.elim own fun entry => entry.classification.merge own
  pin := pin

/-- A declaration is taken where it has a pin that agrees with the one under its key. -/
theorem addDeclared_iff {dependencies dependencies' : List (String × Entry)} {p : Declared} :
    addDeclared unicode checkout dependencies p = .ok dependencies' ↔
      ∃ pin, pinOf unicode p.2 (checkout.parts p.1) = .ok pin ∧
        (∀ previous, dependencies.lookup (keyOf unicode p) = some previous → previous.pin = pin) ∧
        dependencies' = setKey (keyOf unicode p) (entryAfter (dependencies.lookup (keyOf unicode p))
          p.2.name (classOf unicode checkout p) pin) dependencies := by
  rw [addDeclared, addDeclaration, bind_eq_ok]
  refine exists_congr fun pin => and_congr_right fun _ => ?_
  dsimp only
  cases hlookup : dependencies.lookup (unicode.lower p.2.name) with
  | none =>
    rw [keyOf, hlookup]
    exact ⟨fun h => ⟨nofun, (Except.ok.inj h).symm⟩, fun h => congrArg Except.ok h.2.symm⟩
  | some previous =>
    rw [keyOf, hlookup]
    by_cases hpin : previous.pin ≠ pin
    · simp only [if_pos hpin]
      exact iff_of_false nofun fun h => hpin (h.1 previous rfl)
    · simp only [if_neg hpin]
      have hpin := not_not.mp hpin
      constructor
      · intro h
        refine ⟨fun other hother => ?_, (Except.ok.inj h).symm⟩
        rw [← Option.some.inj hother]
        exact hpin
      · intro h
        exact congrArg Except.ok h.2.symm

theorem overallOf_append_same {declared : List Declared} {p : Declared} :
    overallOf unicode checkout (declared ++ [p]) (keyOf unicode p) =
      (overallOf unicode checkout declared (keyOf unicode p)).merge (classOf unicode checkout p) := by
  have hown : [p].filter (fun q => keyOf unicode q = keyOf unicode p) = [p] :=
    List.filter_cons_of_pos (decide_eq_true rfl)
  rw [overallOf, List.filter_append, hown, List.map_append]
  exact overall_append _ _

theorem overallOf_append_other {declared : List Declared} {p : Declared} {key : String}
    (h : keyOf unicode p ≠ key) : overallOf unicode checkout (declared ++ [p]) key =
      overallOf unicode checkout declared key := by
  have hnone : [p].filter (fun q => keyOf unicode q = key) = [] :=
    List.filter_cons_of_neg (by rw [decide_eq_false h]; exact Bool.false_ne_true)
  rw [overallOf, List.filter_append, hnone, List.append_nil, overallOf]

theorem overallOf_of_absent {declared : List Declared} {key : String}
    (h : ∀ p ∈ declared, keyOf unicode p ≠ key) :
    overallOf unicode checkout declared key = .test := by
  have hnone : declared.filter (fun p => keyOf unicode p = key) = [] :=
    List.filter_eq_nil_iff.mpr fun p hp => by simpa using h p hp
  rw [overallOf, hnone]
  rfl

/-- The dictionary tells every dependency declared so far: its pin, which all its declarations
share, and their overall classification. -/
structure Describes (unicode : Unicode) (checkout : Checkout) (declared : List Declared)
    (dependencies : List (String × Entry)) : Prop where
  distinct : Distinct dependencies
  complete : ∀ p ∈ declared, keyOf unicode p ∈ keys dependencies
  named : ∀ e ∈ dependencies, unicode.lower e.2.name = e.1
  pinned : ∀ e ∈ dependencies, ∀ p ∈ declared, keyOf unicode p = e.1 →
    pinOf unicode p.2 (checkout.parts p.1) = .ok e.2.pin
  held : ∀ e ∈ dependencies, ∃ p ∈ declared, keyOf unicode p = e.1
  classified : ∀ e ∈ dependencies, e.2.classification = overallOf unicode checkout declared e.1

theorem describes_nil : Describes unicode checkout [] [] where
  distinct := distinct_nil
  complete := nofun
  named := nofun
  pinned := nofun
  held := nofun
  classified := nofun

/-- The entry of a declaration has the classification of all under its key. -/
theorem Describes.classified_after {declared : List Declared}
    {dependencies : List (String × Entry)} {p : Declared}
    (h : Describes unicode checkout declared dependencies) (name : String) (pin : Pin) :
    (entryAfter (dependencies.lookup (keyOf unicode p)) name (classOf unicode checkout p)
      pin).classification = overallOf unicode checkout (declared ++ [p]) (keyOf unicode p) := by
  rw [overallOf_append_same]
  cases hlookup : dependencies.lookup (keyOf unicode p) with
  | none =>
    have habsent : ∀ q ∈ declared, keyOf unicode q ≠ keyOf unicode p := fun q hq heq =>
      lookup_eq_none_iff.mp hlookup (heq ▸ h.complete q hq)
    rw [overallOf_of_absent habsent]
    show classOf unicode checkout p = _
    cases classOf unicode checkout p <;> rfl
  | some previous =>
    rw [← h.classified (_, previous) (mem_of_lookup hlookup)]
    rfl

/-- Earlier declarations under the key have the pin of the entry that was there. -/
theorem Describes.pinned_before {declared : List Declared} {dependencies : List (String × Entry)}
    {p q : Declared} {pin : Pin} (h : Describes unicode checkout declared dependencies)
    (hsame : ∀ previous, dependencies.lookup (keyOf unicode p) = some previous →
      previous.pin = pin) (hq : q ∈ declared) (hkey : keyOf unicode q = keyOf unicode p) :
    pinOf unicode q.2 (checkout.parts q.1) = .ok pin := by
  obtain ⟨previous, hprevious⟩ := mem_keys.mp (h.complete q hq)
  rw [hkey] at hprevious
  have hpinned := h.pinned _ hprevious q hq hkey
  rwa [hsame previous ((lookup_eq_some_iff h.distinct).mpr hprevious)] at hpinned

/-- A declaration that is taken keeps the dictionary telling what is declared. -/
theorem Describes.add {declared : List Declared} {dependencies dependencies' : List (String × Entry)}
    {p : Declared} (h : Describes unicode checkout declared dependencies)
    (hadd : addDeclared unicode checkout dependencies p = .ok dependencies') :
    Describes unicode checkout (declared ++ [p]) dependencies' := by
  obtain ⟨pin, hpin, hsame, rfl⟩ := addDeclared_iff.mp hadd
  have hcases (e : String × Entry) (he : e ∈ setKey (keyOf unicode p)
      (entryAfter (dependencies.lookup (keyOf unicode p)) p.2.name (classOf unicode checkout p) pin)
      dependencies) := mem_setKey.mp he
  constructor
  · exact distinct_setKey h.distinct
  · intro q hq
    rw [mem_keys]
    by_cases hkey : keyOf unicode q = keyOf unicode p
    · rw [hkey]
      exact ⟨_, mem_setKey.mpr (.inl rfl)⟩
    · have hold : q ∈ declared := by
        cases List.mem_append.mp hq with
        | inl hold => exact hold
        | inr hlast => exact absurd (congrArg _ (List.mem_singleton.mp hlast)) hkey
      obtain ⟨entry, hentry⟩ := mem_keys.mp (h.complete q hold)
      exact ⟨entry, mem_setKey.mpr (.inr ⟨hentry, hkey⟩)⟩
  · intro e he
    cases hcases e he with
    | inl hnew =>
      rw [hnew]
      cases hlookup : dependencies.lookup (keyOf unicode p) with
      | none => rfl
      | some previous => exact h.named (_, previous) (mem_of_lookup hlookup)
    | inr hold => exact h.named e hold.1
  · intro e he q hq hkey
    cases hcases e he with
    | inl hnew =>
      rw [hnew] at hkey ⊢
      cases List.mem_append.mp hq with
      | inl hold => exact h.pinned_before hsame hold hkey
      | inr hlast =>
        rw [List.mem_singleton.mp hlast]
        exact hpin
    | inr hold =>
      cases List.mem_append.mp hq with
      | inl hqold => exact h.pinned e hold.1 q hqold hkey
      | inr hlast =>
        rw [List.mem_singleton.mp hlast] at hkey
        exact absurd hkey.symm hold.2
  · intro e he
    cases hcases e he with
    | inl hnew => exact ⟨p, List.mem_append_right declared List.mem_cons_self, by rw [hnew]⟩
    | inr hold =>
      obtain ⟨q, hq, hkey⟩ := h.held e hold.1
      exact ⟨q, List.mem_append_left [p] hq, hkey⟩
  · intro e he
    cases hcases e he with
    | inl hnew =>
      rw [hnew]
      exact h.classified_after p.2.name pin
    | inr hold =>
      rw [overallOf_append_other (Ne.symm hold.2)]
      exact h.classified e hold.1

/-- All declarations of a list that are taken one by one. -/
theorem Describes.addAll {declared rest : List Declared}
    {dependencies dependencies' : List (String × Entry)}
    (h : Describes unicode checkout declared dependencies)
    (hadd : rest.foldlM (addDeclared unicode checkout) dependencies = .ok dependencies') :
    Describes unicode checkout (declared ++ rest) dependencies' := by
  induction rest generalizing declared dependencies with
  | nil =>
    cases hadd
    rw [List.append_nil]
    exact h
  | cons p rest ih =>
    rw [List.foldlM_cons] at hadd
    obtain ⟨found, hfirst, hrest⟩ := bind_eq_ok.mp hadd
    have hall := ih (h.add hfirst) hrest
    rwa [List.append_assoc] at hall

theorem readInputs_describes {inputs : List Path} {dependencies : List (String × Entry)}
    (h : readInputs unicode checkout inputs = .ok dependencies) :
    Describes unicode checkout (checkout.declaredIn inputs) dependencies :=
  describes_nil.addAll (readInputs_iff.mp h).2

theorem mem_parseFiles {inputs : List Path} {pins : List Entry}
    (h : parseFiles unicode checkout inputs = .ok pins) :
    ∃ dependencies, readInputs unicode checkout inputs = .ok dependencies ∧
      ∀ item, item ∈ pins ↔ ∃ key, (key, item) ∈ dependencies := by
  obtain ⟨dependencies, hread, h⟩ := bind_eq_ok.mp h
  refine ⟨dependencies, hread, fun item => ?_⟩
  rw [← Except.ok.inj h, List.mem_mergeSort, List.mem_map]
  constructor
  · intro hmem
    obtain ⟨e, he, rfl⟩ := hmem
    exact ⟨e.1, he⟩
  · intro hmem
    obtain ⟨key, he⟩ := hmem
    exact ⟨_, he, rfl⟩

theorem parseFiles_succeeds {inputs : List Path} :
    (∃ pins, parseFiles unicode checkout inputs = .ok pins) ↔
      ∃ dependencies, readInputs unicode checkout inputs = .ok dependencies := by
  constructor
  · intro h
    obtain ⟨pins, h⟩ := h
    obtain ⟨dependencies, hread, _⟩ := bind_eq_ok.mp h
    exact ⟨dependencies, hread⟩
  · intro h
    obtain ⟨dependencies, h⟩ := h
    exact ⟨_, bind_eq_ok.mpr ⟨dependencies, h, rfl⟩⟩

/-- A tree whose declarations can all be read and have pins, the same under the same name. -/
structure Pinned (unicode : Unicode) (checkout : Checkout) : Prop where
  readable : ∀ relative ∈ checkout.dependencyInputs, Readable checkout relative
  pinned : ∀ p ∈ checkout.declared, ∃ pin, pinOf unicode p.2 [] = .ok pin
  agree : ∀ p ∈ checkout.declared, ∀ q ∈ checkout.declared, keyOf unicode p = keyOf unicode q →
    pinOf unicode p.2 [] = pinOf unicode q.2 []

/-- Declarations with pins that agree are taken one by one. -/
theorem Describes.addAll_succeeds {declared rest : List Declared}
    {dependencies : List (String × Entry)} (h : Describes unicode checkout declared dependencies)
    (hpinned : ∀ p ∈ rest, ∃ pin, pinOf unicode p.2 [] = .ok pin)
    (hagree : ∀ p ∈ declared ++ rest, ∀ q ∈ rest, keyOf unicode p = keyOf unicode q →
      pinOf unicode p.2 [] = pinOf unicode q.2 []) :
    ∃ dependencies', rest.foldlM (addDeclared unicode checkout) dependencies =
      .ok dependencies' := by
  induction rest generalizing declared dependencies with
  | nil => exact ⟨dependencies, rfl⟩
  | cons p rest ih =>
    obtain ⟨pin, hpin⟩ := hpinned p List.mem_cons_self
    have hsame (previous : Entry)
        (hprevious : dependencies.lookup (keyOf unicode p) = some previous) :
        previous.pin = pin := by
      have hmem := mem_of_lookup hprevious
      obtain ⟨q, hq, hkey⟩ := h.held _ hmem
      have hqpin : pinOf unicode q.2 [] = .ok previous.pin := pinOf_path (h.pinned _ hmem q hq hkey)
      rw [hagree q (List.mem_append_left _ hq) p List.mem_cons_self hkey, hpin] at hqpin
      exact (Except.ok.inj hqpin).symm
    obtain ⟨found, hadd⟩ : ∃ found, addDeclared unicode checkout dependencies p = .ok found :=
      ⟨_, addDeclared_iff.mpr ⟨pin, pinOf_path hpin, hsame, rfl⟩⟩
    obtain ⟨dependencies', hrest⟩ := ih (h.add hadd)
      (fun q hq => hpinned q (List.mem_cons_of_mem p hq))
      (fun q hq r hr => hagree q (by simpa using hq) r (List.mem_cons_of_mem p hr))
    refine ⟨dependencies', ?_⟩
    rw [List.foldlM_cons, hadd]
    exact hrest

theorem parse_succeeds_iff :
    (∃ pins, parse unicode checkout = .ok pins) ↔ Pinned unicode checkout := by
  rw [parse, parseFiles_succeeds]
  constructor
  · intro h
    obtain ⟨dependencies, hread⟩ := h
    have hdescribes := readInputs_describes hread
    have hpin (p : Declared) (hp : p ∈ checkout.declared) : ∃ entry,
        (keyOf unicode p, entry) ∈ dependencies ∧ pinOf unicode p.2 [] = .ok entry.pin := by
      obtain ⟨entry, hentry⟩ := mem_keys.mp (hdescribes.complete p hp)
      exact ⟨entry, hentry, pinOf_path (hdescribes.pinned _ hentry p hp rfl)⟩
    refine ⟨(readInputs_iff.mp hread).1, fun p hp => ?_, fun p hp q hq hkey => ?_⟩
    · obtain ⟨entry, _, hentry⟩ := hpin p hp
      exact ⟨entry.pin, hentry⟩
    · obtain ⟨entry, hentry, hppin⟩ := hpin p hp
      rw [hppin]
      exact (pinOf_path (hdescribes.pinned _ hentry q hq hkey.symm)).symm
  · intro h
    have hstart : Describes unicode checkout [] [] := describes_nil
    obtain ⟨dependencies, hfold⟩ := hstart.addAll_succeeds h.pinned h.agree
    exact ⟨dependencies, readInputs_iff.mpr ⟨h.readable, hfold⟩⟩

/-- Runtime where any declaration is, else build where any is, else test, for the files in any
order. -/
def MergeRule (unicode : Unicode) (checkout : Checkout) : Prop :=
  ∀ inputs, inputs.Perm checkout.dependencyInputs → ∀ pins,
    parseFiles unicode checkout inputs = .ok pins → ∀ item ∈ pins,
      item.classification =
        overallOf unicode checkout checkout.declared (unicode.lower item.name)

theorem mergeRule : MergeRule unicode checkout := by
  intro inputs hperm pins hparse item hitem
  obtain ⟨dependencies, hread, hmem⟩ := mem_parseFiles hparse
  obtain ⟨key, hin⟩ := (hmem item).mp hitem
  have hdescribes := readInputs_describes hread
  have hdeclared : (checkout.declaredIn inputs).Perm checkout.declared :=
    hperm.flatMap_right _
  have hnamed : unicode.lower item.name = key := hdescribes.named _ hin
  rw [hnamed, hdescribes.classified _ hin]
  exact overall_perm ((hdeclared.filter _).map _)

end Pins

/-- Two directories that hold the same files, whatever the order they are found in. -/
structure Checkout.SameContent (a b : Checkout) : Prop where
  found : ∀ path, path ∈ a.found ↔ path ∈ b.found
  read : a.read = b.read

/-- The directory stands under one whose name marks tests. -/
def Checkout.Unlucky (checkout : Checkout) : Prop :=
  "unit-tests" ∈ checkout.root ∨ "tests" ∈ checkout.root

/-- A declaration is one of tests by its name or its place in the tree. -/
def OwnTest (unicode : Unicode) (p : Declared) : Prop := classify unicode p.2.name p.1 = .test

section TwoRoots
variable {unicode : Unicode} {a b checkout : Checkout}

/-- Sorting forgets the order in which the files were found. -/
theorem mergeSort_of_perm {xs ys : List Path} (h : xs.Perm ys) :
    xs.mergeSort (fun p q => decide (p ≤ q)) = ys.mergeSort fun p q => decide (p ≤ q) := by
  have hsorted (zs : List Path) : (zs.mergeSort fun p q => decide (p ≤ q)).Pairwise
      fun p q => decide (p ≤ q) = true := by
    refine List.pairwise_mergeSort (fun p q r hpq hqr => ?_) (fun p q => ?_) zs
    · exact decide_eq_true (le_trans (of_decide_eq_true hpq) (of_decide_eq_true hqr))
    · rw [Bool.or_eq_true, decide_eq_true_eq, decide_eq_true_eq]
      exact le_total p q
  have hperm := ((List.mergeSort_perm xs fun p q => decide (p ≤ q)).trans h).trans
    (List.mergeSort_perm ys fun p q => decide (p ≤ q)).symm
  exact List.Perm.eq_of_pairwise (fun p q _ _ hpq hqp =>
    le_antisymm (of_decide_eq_true hpq) (of_decide_eq_true hqp)) (hsorted xs) (hsorted ys) hperm

theorem selectDependencyInputs_congr {xs ys : List Path} (h : ∀ path, path ∈ xs ↔ path ∈ ys) :
    selectDependencyInputs xs = selectDependencyInputs ys := by
  have hdedup : xs.dedup.Perm ys.dedup := by
    refine (List.perm_ext_iff_of_nodup xs.nodup_dedup ys.nodup_dedup).mpr fun path => ?_
    rw [List.mem_dedup, List.mem_dedup, h path]
  simp only [selectDependencyInputs, h gtestPath]
  rw [mergeSort_of_perm (hdedup.filter _)]

theorem Checkout.SameContent.symm (h : a.SameContent b) : b.SameContent a where
  found := fun path => (h.found path).symm
  read := h.read.symm

theorem Checkout.SameContent.inputs (h : a.SameContent b) :
    a.dependencyInputs = b.dependencyInputs := by
  refine selectDependencyInputs_congr fun path => ?_
  rw [List.mem_append, List.mem_append, h.found path]

theorem Checkout.SameContent.declared (h : a.SameContent b) : a.declared = b.declared := by
  rw [Checkout.declared, Checkout.declared, h.inputs, Checkout.declaredIn, Checkout.declaredIn,
    h.read]

theorem Checkout.SameContent.pinned (h : a.SameContent b) (hpinned : Pinned unicode a) :
    Pinned unicode b where
  readable := by
    rw [← h.inputs]
    intro relative hrelative
    rw [Readable, ← h.read]
    exact hpinned.readable relative hrelative
  pinned := h.declared ▸ hpinned.pinned
  agree := h.declared ▸ hpinned.agree

theorem classOf_unlucky (h : checkout.Unlucky) (p : Declared) :
    classOf unicode checkout p = .test := by
  refine if_pos (.inr ?_)
  cases h with
  | inl hunit => exact .inl (List.mem_cons_of_mem _ (List.mem_append_left p.1 hunit))
  | inr htests => exact .inr (List.mem_cons_of_mem _ (List.mem_append_left p.1 htests))

theorem classOf_lucky (h : ¬ checkout.Unlucky) (p : Declared) :
    classOf unicode checkout p = classify unicode p.2.name p.1 := by
  rw [Checkout.Unlucky, not_or] at h
  have hparts (name : String) (hroot : name ∉ checkout.root) (hslash : name ≠ "/") :
      name ∈ checkout.parts p.1 ↔ name ∈ p.1 := by
    rw [Checkout.parts, List.mem_cons, List.mem_append]
    exact ⟨fun hin => (hin.resolve_left hslash).resolve_left hroot, fun hin => .inr (.inr hin)⟩
  simp only [classOf, classify, hparts _ h.1 (by decide), hparts _ h.2 (by decide)]

/-- The same classifications of the same declarations are the same pins. -/
theorem parse_congr (h : a.SameContent b)
    (hclass : ∀ p ∈ a.declared, classOf unicode a p = classOf unicode b p) (pins : List Entry) :
    parse unicode a = .ok pins ↔ parse unicode b = .ok pins := by
  have hreadable (relative : Path) : Readable a relative ↔ Readable b relative := by
    rw [Readable, Readable, h.read]
  have hadd (p : Declared) (hp : p ∈ a.declared) (found found' : List (String × Entry)) :
      addDeclared unicode a found p = .ok found' ↔ addDeclared unicode b found p = .ok found' := by
    rw [addDeclared_iff, addDeclared_iff, hclass p hp]
    exact exists_congr fun pin => and_congr_left' ⟨pinOf_path, pinOf_path⟩
  have hread (found : List (String × Entry)) :
      readInputs unicode a a.dependencyInputs = .ok found ↔
        readInputs unicode b b.dependencyInputs = .ok found := by
    rw [readInputs, readInputs, readInputs_iff, readInputs_iff, ← h.inputs]
    simp only [hreadable]
    refine and_congr_right fun _ => ?_
    have hdeclared : b.declaredIn a.dependencyInputs = a.declared := by
      rw [h.inputs]
      exact h.declared.symm
    rw [hdeclared]
    exact foldlM_ok_congr hadd
  rw [parse, parse, parseFiles, parseFiles, bind_eq_ok, bind_eq_ok]
  exact exists_congr fun found => and_congr_left' (hread found)

/-- Under a directory that marks tests the pins are those of tests, and elsewhere they are not. -/
theorem parse_differs (h : a.SameContent b) (hunlucky : a.Unlucky) (hlucky : ¬ b.Unlucky)
    {p : Declared} (hp : p ∈ a.declared) (hown : ¬ OwnTest unicode p) {pins : List Entry}
    (ha : parse unicode a = .ok pins) (hb : parse unicode b = .ok pins) : False := by
  obtain ⟨dependencies, hread, hmem⟩ := mem_parseFiles hb
  have hdescribes := readInputs_describes hread
  have hpb : p ∈ b.declared := h.declared ▸ hp
  obtain ⟨entry, hentry⟩ := mem_keys.mp (hdescribes.complete p hpb)
  have hitem := (hmem entry).mpr ⟨_, hentry⟩
  have htest : entry.classification = .test := by
    rw [mergeRule a.dependencyInputs (List.Perm.refl _) pins ha entry hitem, overallOf,
      overall_eq_test]
    intro own hin
    obtain ⟨q, _, rfl⟩ := List.mem_map.mp hin
    exact classOf_unlucky hunlucky q
  rw [hdescribes.classified _ hentry, overallOf, overall_eq_test] at htest
  have hclass := htest _ (List.mem_map_of_mem (List.mem_filter.mpr ⟨hpb, decide_eq_true rfl⟩))
  rw [classOf_lucky hlucky] at hclass
  exact hown hclass

/-- The pins are the same in both directories, and the declarations of one dependency are merged as
they should be. -/
def PinsAgree (unicode : Unicode) (a b : Checkout) : Prop :=
  (∀ pins, parse unicode a = .ok pins ↔ parse unicode b = .ok pins) ∧
    MergeRule unicode a ∧ MergeRule unicode b

theorem pinsAgree_iff (h : a.SameContent b) :
    PinsAgree unicode a b ↔ (a.Unlucky ↔ b.Unlucky) ∨
      (∀ p ∈ a.declared, OwnTest unicode p) ∨ ¬ Pinned unicode a := by
  constructor
  · intro hagree
    by_contra hnone
    rw [not_or, not_or, not_not, not_forall] at hnone
    obtain ⟨hroots, ⟨p, hp⟩, hpinned⟩ := hnone
    obtain ⟨hp, hown⟩ := Classical.not_imp.mp hp
    obtain ⟨pins, ha⟩ := parse_succeeds_iff.mpr hpinned
    have hb := (hagree.1 pins).mp ha
    by_cases hunlucky : a.Unlucky
    · have hlucky : ¬ b.Unlucky := fun hother => hroots (iff_of_true hunlucky hother)
      exact parse_differs h hunlucky hlucky hp hown ha hb
    · have hother : b.Unlucky := by
        by_contra hlucky
        exact hroots (iff_of_false hunlucky hlucky)
      exact parse_differs h.symm hother hunlucky (h.declared ▸ hp) hown hb ha
  · intro hcondition
    refine ⟨fun pins => ?_, mergeRule, mergeRule⟩
    rcases hcondition with hroots | hown | hpinned
    · refine parse_congr h (fun p _ => ?_) pins
      by_cases hunlucky : a.Unlucky
      · rw [classOf_unlucky hunlucky, classOf_unlucky (hroots.mp hunlucky)]
      · rw [classOf_lucky hunlucky, classOf_lucky fun hother => hunlucky (hroots.mpr hother)]
    · have htest (c : Checkout) (p : Declared) (hp : OwnTest unicode p) :
          classOf unicode c p = .test := by
        by_cases hunlucky : c.Unlucky
        · exact classOf_unlucky hunlucky p
        · exact (classOf_lucky hunlucky p).trans hp
      refine parse_congr h (fun p hp => ?_) pins
      rw [htest a p (hown p hp), htest b p (hown p hp)]
    · refine iff_of_false (fun ha => hpinned (parse_succeeds_iff.mp ⟨pins, ha⟩)) fun hb => hpinned ?_
      exact h.symm.pinned (parse_succeeds_iff.mp ⟨pins, hb⟩)

end TwoRoots

/-- What is known of the characters of ASCII. -/
def ascii : Unicode where
  lower := fun s => String.ofList (s.toList.map Char.toLower)
  isDecimal := Char.isDigit

/-- A tree with one declaration, in a directory. -/
def sampleCheckout (root : Path) : Checkout where
  root := root
  found := [["nv-attestation-sdk-cpp", "CMakeLists.txt"]]
  read := fun path =>
    if path = ["nv-attestation-sdk-cpp", "CMakeLists.txt"] then
      some "FetchContent_Declare(fmt GIT_REPOSITORY https://host/fmt GIT_TAG 11.0.2)".toList
    else if path = gtestPath then some []
    else none

theorem sampleCheckout_sameContent (r r' : Path) :
    (sampleCheckout r).SameContent (sampleCheckout r') :=
  ⟨fun _ => Iff.rfl, rfl⟩

theorem sampleCheckouts_pinsAgree_iff :
    (sampleCheckout ["home"]).SameContent (sampleCheckout ["srv"]) ∧
      (PinsAgree ascii (sampleCheckout ["home"]) (sampleCheckout ["srv"]) ↔
        ((sampleCheckout ["home"]).Unlucky ↔ (sampleCheckout ["srv"]).Unlucky) ∨
          (∀ p ∈ (sampleCheckout ["home"]).declared, OwnTest ascii p) ∨
            ¬ Pinned ascii (sampleCheckout ["home"])) :=
  ⟨sampleCheckout_sameContent _ _, pinsAgree_iff (sampleCheckout_sameContent _ _)⟩

/-- Under a directory of the name `tests` a runtime dependency is one of tests. -/
theorem checkout_under_tests : ¬ ∀ a b : Checkout, a.SameContent b → PinsAgree ascii a b := by
  intro hlaw
  have hhome : parse ascii (sampleCheckout ["home"]) =
      .ok [⟨"fmt", .runtime, .git "https://host/fmt" "11.0.2"⟩] := by decide +kernel
  have htests : parse ascii (sampleCheckout ["home", "tests"]) =
      .ok [⟨"fmt", .test, .git "https://host/fmt" "11.0.2"⟩] := by decide +kernel
  have hagree := hlaw _ _ (sampleCheckout_sameContent ["home"] ["home", "tests"])
  have hsame := (hagree.1 _).mp hhome
  exact absurd (htests.symm.trans hsame) (by decide)

end AttestationSdk.Dependencies
