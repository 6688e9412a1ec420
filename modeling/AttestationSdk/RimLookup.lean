import AttestationSdk.EvidenceJson
import AttestationSdk.FilesystemRimStore
import AttestationSdk.ReportAccessors
import AttestationSdk.ReportLayout
import Mathlib.Data.List.TakeWhile

/-! Where the filesystem store looks for the RIMs of a GPU report, and which reports it cannot tell
apart. -/
namespace AttestationSdk.Rim
open Effects

section Recording
variable {σ : Type} (files : FileSystem σ)

/-- A file system with a list of the files that were opened. -/
def recording : FileSystem (σ × List String) where
  pathExists path := Prog.liftFirst (files.pathExists path)
  pathIsDirectory path := Prog.liftFirst (files.pathIsDirectory path)
  readFileIntoString path := do
    Prog.update fun w => (w.1, w.2 ++ [path])
    Prog.liftFirst (files.readFileIntoString path)

/-- The files that `get_rim` opens. -/
def openedFiles (readDoc : String → Option Xml) (path rimId : String) (out : RimDocument) (s : σ) :
    List String :=
  (filesystemGetRim (recording files) readDoc path rimId out (s, [])).2.2

/-- A question to the file system opens nothing. -/
theorem liftFirst_leaves {α : Type} (x : Prog Fault σ α) :
    Prog.Leaves Prod.snd (Prog.liftFirst x : Prog Fault (σ × List String) α) := fun _ => rfl

/-- What is opened for a TCG RIM is the file of that name. -/
theorem readTcgRim_opens (readDoc : String → Option Xml) (tcgPath rimId : String)
    (out : RimDocument) (s : σ) (log : List String) :
    (readTcgRim (recording files) readDoc tcgPath rimId out (s, log)).2.2 = log ++ [tcgPath] := by
  rw [readTcgRim, recording, Prog.bind_assoc]
  change ((Prog.liftFirst (files.readFileIntoString tcgPath) >>= _) (s, log ++ [tcgPath])).2.2 = _
  -- the file was noted when it was read, and nothing else is
  refine ((liftFirst_leaves _).bind fun found => ?_) (s, log ++ [tcgPath])
  cases found with
  | none => exact .pure _
  | some rimData =>
    dsimp only
    split
    · exact .pure _
    · exact .pure _

/-- At most one file is opened, the one that is named after the RIM. -/
theorem mem_openedFiles {readDoc : String → Option Xml} {path rimId : String} {out : RimDocument}
    {s : σ} {file : String} (h : file ∈ openedFiles files readDoc path rimId out s) :
    file = pathJoin path (rimId ++ tcgExt) := by
  have hrun : ∀ (x : Prog Fault σ Bool) (f : Bool → Prog Fault (σ × List String)
      (Error × RimDocument)) (s : σ), (∀ answer s', file ∈ (f answer (s', [])).2.2 →
        file = pathJoin path (rimId ++ tcgExt)) →
      file ∈ ((Prog.liftFirst x >>= f) (s, [])).2.2 → file = pathJoin path (rimId ++ tcgExt) := by
    intro x f s hnext hmem
    cases hx : x s with
    | mk r s' =>
      have hlift : (Prog.liftFirst x : Prog Fault (σ × List String) Bool) (s, []) =
          (r, (s', [])) := by
        rw [Prog.liftFirst, hx]
      cases r with
      | ok answer =>
        rw [Prog.bind_of_ok hlift] at hmem
        exact hnext answer s' hmem
      | error e =>
        rw [Prog.bind_of_error hlift] at hmem
        cases hmem
  refine hrun _ _ s (fun found s₁ hfound => ?_) h
  cases found with
  | false => cases hfound
  | true =>
    refine hrun _ _ s₁ (fun directory s₂ hdirectory => ?_) hfound
    cases directory with
    | false => cases hdirectory
    | true =>
      refine hrun _ _ s₂ (fun hasTcg s₃ htcg => ?_) hdirectory
      cases hasTcg with
      | true =>
        have hopened := readTcgRim_opens files readDoc (pathJoin path (rimId ++ tcgExt)) rimId out
          s₃ []
        have hin : file ∈ [] ++ [pathJoin path (rimId ++ tcgExt)] := by
          rw [← hopened]
          exact htcg
        exact List.mem_singleton.mp hin
      | false =>
        refine hrun _ _ s₃ (fun hasCorim s₄ hcorim => ?_) htcg
        cases hasCorim with
        | false => cases hcorim
        | true => cases hcorim

end Recording

/-- A file system where every path is there. -/
def everyFile : FileSystem Unit where
  pathExists _ := pure true
  pathIsDirectory _ := pure true
  readFileIntoString _ := pure none

theorem openedFiles_everyFile (readDoc : String → Option Xml) (path rimId : String)
    (out : RimDocument) :
    openedFiles everyFile readDoc path rimId out () = [pathJoin path (rimId ++ tcgExt)] :=
  readTcgRim_opens everyFile readDoc (pathJoin path (rimId ++ tcgExt)) rimId out () []

/-- A name of a directory entry. -/
structure EntryName (name : String) : Prop where
  noSlash : '/' ∉ name.toList
  nonempty : name ≠ ""
  notDot : name ≠ "."
  notDotDot : name ≠ ".."

/-- The path is that of a directory followed by the name of an entry. -/
def ChildOf (directory path : String) : Prop :=
  ∃ name, EntryName name ∧
    (path = directory ++ "/" ++ name ∨
      path = directory ++ name ∧ (directory = "" ∨ directory.back = '/'))

/-- Whatever the store's directory and whatever is in it, a lookup opens entries of it. -/
def OpensEntries (rimId : String) : Prop :=
  ∀ (σ : Type) (files : FileSystem σ) (readDoc : String → Option Xml) (path : String)
    (out : RimDocument) (s : σ), ∀ file ∈ openedFiles files readDoc path rimId out s,
    ChildOf path file

theorem entryName_tcg {rimId : String} (h : '/' ∉ rimId.toList) : EntryName (rimId ++ tcgExt) := by
  have hlist : (rimId ++ tcgExt).toList = rimId.toList ++ ['.', 'x', 'm', 'l'] := by
    rw [String.toList_append]
    rfl
  have hlong (s : String) (hshort : s.toList.length < 4) : rimId ++ tcgExt ≠ s := by
    intro heq
    rw [← heq, hlist, List.length_append] at hshort
    simp only [List.length_cons, List.length_nil] at hshort
    omega
  refine ⟨?_, hlong "" (by decide), hlong "." (by decide), hlong ".." (by decide)⟩
  rw [hlist, List.mem_append, not_or]
  exact ⟨h, by decide⟩

/-- The lookup of an identifier stays in the directory exactly if it has no slash. -/
theorem opensEntries_iff {rimId : String} (hfront : (rimId ++ tcgExt).front ≠ '/') :
    OpensEntries rimId ↔ '/' ∉ rimId.toList := by
  constructor
  · intro h hslash
    obtain ⟨name, hname, hpath⟩ := h Unit everyFile (fun _ => none) "store" {} () _
      (openedFiles_everyFile (fun _ => none) "store" rimId {} ▸ List.mem_singleton_self _)
    have hstore : "store".back ≠ '/' := by decide +kernel
    have hsome : (rimId ++ tcgExt).isEmpty = false := by
      refine Bool.eq_false_iff.mpr fun hempty => ?_
      have hlist := congrArg String.toList (String.isEmpty_iff.mp hempty)
      rw [String.toList_append] at hlist
      exact absurd (List.append_eq_nil_iff.mp hlist).2 (by decide)
    have hjoin : pathJoin "store" (rimId ++ tcgExt) = "store" ++ "/" ++ (rimId ++ tcgExt) := by
      rw [pathJoin, if_neg (by decide), hsome, if_neg Bool.false_ne_true, if_pos ⟨hstore, hfront⟩]
    rw [hjoin] at hpath
    cases hpath with
    | inl hslashed =>
      have hsame : rimId ++ tcgExt = name := (String.append_right_inj _).mp hslashed
      refine hname.noSlash (hsame ▸ ?_)
      rw [String.toList_append]
      exact List.mem_append_left _ hslash
    | inr hplain =>
      cases hplain.2 with
      | inl hempty => exact absurd hempty (by decide)
      | inr hback => exact absurd hback hstore
  · intro h σ files readDoc path out s file hfile
    rw [mem_openedFiles files hfile, pathJoin]
    have hname := entryName_tcg h
    have hsome : (rimId ++ tcgExt).isEmpty = false :=
      Bool.eq_false_iff.mpr fun hempty => hname.nonempty (String.isEmpty_iff.mp hempty)
    by_cases hpath : path.isEmpty = true
    · rw [if_pos hpath]
      refine ⟨_, hname, .inr ⟨?_, .inl (String.isEmpty_iff.mp hpath)⟩⟩
      rw [String.isEmpty_iff.mp hpath, String.empty_append]
    · rw [if_neg hpath, hsome, if_neg Bool.false_ne_true]
      by_cases hback : path.back ≠ '/'
      · rw [if_pos ⟨hback, hfront⟩]
        exact ⟨_, hname, .inl rfl⟩
      · rw [if_neg fun hboth => hback hboth.1]
        exact ⟨_, hname, .inr ⟨rfl, .inr (not_not.mp hback)⟩⟩

end AttestationSdk.Rim

namespace AttestationSdk.Text
open AttestationSdk.Evidence

/-- A text that `remove_null_terminators` leaves of bytes. -/
structure CutText (s : String) : Prop where
  bytes : ByteText s
  noNul : ∀ c ∈ s.toList, c ≠ Char.ofNat 0

theorem cutText_ofBytes (data : Bytes) : CutText (removeNullTerminators (ofBytes data)) := by
  have hlist : (removeNullTerminators (ofBytes data)).toList =
      (data.map fun b => Char.ofNat b.toNat).takeWhile (· ≠ Char.ofNat 0) := by
    rw [removeNullTerminators, ofBytes, String.toList_ofList, String.toList_ofList]
  refine ⟨fun c hc => ?_, fun c hc => ?_⟩
  · rw [hlist] at hc
    obtain ⟨b, -, rfl⟩ := List.mem_map.mp ((List.takeWhile_sublist _).subset hc)
    exact (toNat_charOf b).trans_lt b.toNat_lt
  · rw [hlist] at hc
    have hkept := List.mem_takeWhile_imp hc
    exact of_decide_eq_true hkept

/-- A text has no more characters than the field it was read from has bytes. -/
theorem cutText_length_le (data : Bytes) :
    (removeNullTerminators (ofBytes data)).toList.length ≤ data.length := by
  rw [removeNullTerminators, ofBytes, String.toList_ofList, String.toList_ofList]
  exact (List.takeWhile_sublist _).length_le.trans (List.length_map _).le

/-- The bytes of such a text are read as it. -/
theorem removeNullTerminators_toBytes {s : String} (h : CutText s) :
    removeNullTerminators (ofBytes (toBytes s)) = s := by
  rw [ofBytes_toBytes h.bytes, removeNullTerminators, List.takeWhile_eq_self_iff.mpr,
    String.ofList_toList]
  exact fun c hc => decide_eq_true (h.noNul c hc)

/-- Four parts and the separators between them. -/
def joinParts (a b c d : List Char) : List Char := a ++ '_' :: (b ++ '_' :: (c ++ '_' :: d))

theorem mem_joinParts {a b c d : List Char} {x : Char} :
    x ∈ joinParts a b c d ↔ x = '_' ∨ x ∈ a ∨ x ∈ b ∨ x ∈ c ∨ x ∈ d := by
  simp only [joinParts, List.mem_append, List.mem_cons]
  constructor
  · intro h
    obtain h | h | h | h | h | h | h := h <;> simp [h]
  · intro h
    obtain h | h | h | h | h := h <;> simp [h]

/-- A first part without a separator ends at the first one. -/
theorem first_part {a b x y : List Char} (ha : '_' ∉ a) (hb : '_' ∉ b)
    (h : a ++ '_' :: x = b ++ '_' :: y) : a = b ∧ x = y := by
  induction a generalizing b with
  | nil =>
    cases b with
    | nil => exact ⟨rfl, (List.cons.inj h).2⟩
    | cons c cs => exact absurd (List.mem_cons.mpr (.inl (List.cons.inj h).1)) hb
  | cons d ds ih =>
    cases b with
    | nil => exact absurd (List.mem_cons.mpr (.inl (List.cons.inj h).1.symm)) ha
    | cons c cs =>
      have htail := ih (fun hmem => ha (List.mem_cons_of_mem d hmem))
        (fun hmem => hb (List.mem_cons_of_mem c hmem)) (List.cons.inj h).2
      exact ⟨List.cons_eq_cons.mpr ⟨(List.cons.inj h).1, htail.1⟩, htail.2⟩

theorem count_joinParts (a b c d : List Char) :
    (joinParts a b c d).count '_' = a.count '_' + b.count '_' + c.count '_' + d.count '_' + 3 := by
  simp only [joinParts, List.count_append, List.count_cons_self]
  omega

/-- Parts without a separator are the only ones with their text, whatever the others hold. -/
theorem joinParts_inj {a b c d a' b' c' d' : List Char} (ha : '_' ∉ a) (hb : '_' ∉ b) (hc : '_' ∉ c)
    (hd : '_' ∉ d) (h : joinParts a b c d = joinParts a' b' c' d') :
    a = a' ∧ b = b' ∧ c = c' ∧ d = d' := by
  have hcount := congrArg (List.count '_') h
  rw [count_joinParts, count_joinParts, List.count_eq_zero.mpr ha, List.count_eq_zero.mpr hb,
    List.count_eq_zero.mpr hc, List.count_eq_zero.mpr hd] at hcount
  have ha' : '_' ∉ a' := List.count_eq_zero.mp (by omega)
  have hb' : '_' ∉ b' := List.count_eq_zero.mp (by omega)
  have hc' : '_' ∉ c' := List.count_eq_zero.mp (by omega)
  have hfirst := first_part ha ha' h
  have hsecond := first_part hb hb' hfirst.2
  have hthird := first_part hc hc' hsecond.2
  exact ⟨hfirst.1, hsecond.1, hthird.1, hthird.2⟩

/-- Where one of the first three parts holds a separator, other parts of the same length have the
same text. -/
theorem joinParts_other {a b c : List Char} (h : '_' ∈ a ∨ '_' ∈ b ∨ '_' ∈ c) :
    ∃ a' b' c', (∀ d, joinParts a' b' c' d = joinParts a b c d) ∧
      a'.length + b'.length + c'.length = a.length + b.length + c.length ∧
      ¬ (a' = a ∧ b' = b ∧ c' = c) := by
  have hshorter {x y z : List Char} (hx : x = y ++ '_' :: z) : y.length < x.length := by
    rw [hx, List.length_append, List.length_cons]
    omega
  have hlater {x y z : List Char} (hx : x = y ++ '_' :: z) : z.length < x.length := by
    rw [hx, List.length_append, List.length_cons]
    omega
  cases h with
  | inl hmem =>
    obtain ⟨x, y, hsplit⟩ := List.append_of_mem hmem
    refine ⟨x, y ++ '_' :: b, c, fun d => ?_, ?_, fun hsame => ?_⟩
    · rw [hsplit]
      simp only [joinParts, List.append_assoc, List.cons_append]
    · rw [hsplit]
      simp only [List.length_append, List.length_cons]
      omega
    · exact absurd (congrArg List.length hsame.1) (Nat.ne_of_lt (hshorter hsplit))
  | inr h =>
    cases h with
    | inl hmem =>
      obtain ⟨x, y, hsplit⟩ := List.append_of_mem hmem
      refine ⟨a ++ '_' :: x, y, c, fun d => ?_, ?_, fun hsame => ?_⟩
      · rw [hsplit]
        simp only [joinParts, List.append_assoc, List.cons_append]
      · rw [hsplit]
        simp only [List.length_append, List.length_cons]
        omega
      · exact absurd (congrArg List.length hsame.2.1) (Nat.ne_of_lt (hlater hsplit))
    | inr hmem =>
      obtain ⟨x, y, hsplit⟩ := List.append_of_mem hmem
      refine ⟨a, b ++ '_' :: x, y, fun d => ?_, ?_, fun hsame => ?_⟩
      · rw [hsplit]
        simp only [joinParts, List.append_assoc, List.cons_append]
      · rw [hsplit]
        simp only [List.length_append, List.length_cons]
        omega
      · exact absurd (congrArg List.length hsame.2.2) (Nat.ne_of_lt (hlater hsplit))

end AttestationSdk.Text

namespace AttestationSdk.Gpu
open AttestationSdk.Spdm AttestationSdk.OpaqueData AttestationSdk.OpaqueData.Gpu
open AttestationSdk.Text AttestationSdk.Report AttestationSdk.CertChain AttestationSdk.Rim
open Buffer ExceptRules

/-- The hex digits of a VBIOS version, in the order in which it is written. -/
def vbiosDigits (data : Bytes) : List Char :=
  let hex := (toHexString data.reverse).toList
  let half := hex.length / 2
  (hex.drop half).take hex.length ++ (hex.drop ((half + (sizeModulus - 2)) % sizeModulus)).take 2

/-- The digits in pairs with dots between them, in upper case. -/
def vbiosText (digits : List Char) : String :=
  removeNullTerminators (toUpper (".".intercalate (pairsOf digits)))

theorem mem_vbiosDigits {data : Bytes} {c : Char} (h : c ∈ vbiosDigits data) :
    c ∈ lowerHexDigits := by
  refine toHexString_chars data.reverse c ?_
  cases List.mem_append.mp h with
  | inl hlast => exact List.mem_of_mem_drop (List.mem_of_mem_take hlast)
  | inr hmiddle => exact List.mem_of_mem_drop (List.mem_of_mem_take hmiddle)

section Version
variable {report : AttestationReport}

/-- A version is read from two bytes on. -/
theorem getVbiosVersion_iff {version : String} : report.getVbiosVersion = .ok version ↔
    ∃ data, getBytes report.opaqueData.fields VBIOS_VERSION = .ok data ∧ 2 ≤ data.length ∧
      version = vbiosText (vbiosDigits data) := by
  rw [AttestationReport.getVbiosVersion, bind_eq_ok]
  refine exists_congr fun data => and_congr_right fun _ => ?_
  obtain ⟨hlength, hhalf⟩ := AttestationReport.half_toHexString data
  have hpos := AttestationReport.beforeMiddle_le_iff data.length
  dsimp only
  rw [hhalf, AttestationReport.substr_ok (by omega), ok_bind]
  by_cases htwo : 2 ≤ data.length
  · rw [AttestationReport.substr_ok (hlength ▸ hpos.mpr htwo), ok_bind, vbiosText, vbiosDigits,
      hhalf, pure_eq_ok, Except.ok.injEq, eq_comm]
    exact (and_iff_right htwo).symm
  · rw [AttestationReport.substr, if_pos (hlength ▸ Nat.lt_of_not_le (mt hpos.mp htwo)), error_bind]
    exact iff_of_false (fun h => by cases h) fun h => htwo h.1

/-- The pairs with dots hold the digits in order, and nothing but dots beside them. -/
theorem dotted_pairs (digits : List Char) (hdigits : '.' ∉ digits) :
    (".".intercalate (pairsOf digits)).toList.filter (· ≠ '.') = digits ∧
      ∀ c ∈ (".".intercalate (pairsOf digits)).toList, c ∈ digits ∨ c = '.' := by
  induction digits using pairsOf.induct with
  | case1 => exact ⟨rfl, fun c hc => absurd hc List.not_mem_nil⟩
  | case2 c =>
    rw [pairsOf, String.intercalate_singleton, String.toList_ofList]
    refine ⟨List.filter_eq_self.mpr fun d hd => ?_, fun d hd => .inl hd⟩
    exact decide_eq_true fun hdot => hdigits (hdot ▸ hd)
  | case3 c d rest ih =>
    have hpair : [c, d].filter (· ≠ '.') = [c, d] := by
      refine List.filter_eq_self.mpr fun x hx => decide_eq_true fun hdot => hdigits ?_
      exact List.mem_append_left rest (hdot ▸ hx)
    cases hrest : pairsOf rest with
    | nil =>
      have hnone : rest = [] := by
        cases rest with
        | nil => rfl
        | cons e more =>
          cases more with
          | nil => cases hrest
          | cons f more => cases hrest
      rw [pairsOf, hrest, String.intercalate_singleton, String.toList_ofList, hnone]
      exact ⟨hpair, fun x hx => .inl hx⟩
    | cons first more =>
      obtain ⟨hfilter, hmem⟩ := ih fun hdot => hdigits (List.mem_append_right [c, d] hdot)
      have hsome : pairsOf rest ≠ [] := by
        rw [hrest]
        exact List.cons_ne_nil first more
      have hlist : (".".intercalate (pairsOf (c :: d :: rest))).toList =
          [c, d] ++ ['.'] ++ (".".intercalate (pairsOf rest)).toList := by
        rw [pairsOf, String.intercalate_cons_of_ne_nil hsome, String.toList_append,
          String.toList_append, String.toList_ofList]
        rfl
      rw [hlist]
      refine ⟨?_, fun x hx => ?_⟩
      · rw [List.filter_append, List.filter_append, hpair, hfilter]
        rfl
      · cases List.mem_append.mp hx with
        | inl hfirst =>
          cases List.mem_append.mp hfirst with
          | inl hin => exact .inl (List.mem_append_left rest hin)
          | inr hdot => exact .inr (List.mem_singleton.mp hdot)
        | inr hlater => exact (hmem x hlater).imp_left (List.mem_append_right [c, d])

theorem lowerHexDigit_facts : ∀ c ∈ lowerHexDigits, c ≠ '.' ∧ c.toUpper ≠ '.' ∧ c.toUpper ≠ '_' ∧
    c.toUpper ≠ Char.ofNat 0 ∧ c.toUpper ≠ '/' ∧ c.toUpper.toLower = c := by
  have hall : (lowerHexDigits.all fun c => c ≠ '.' && c.toUpper ≠ '.' && c.toUpper ≠ '_' &&
      c.toUpper ≠ Char.ofNat 0 && c.toUpper ≠ '/' && c.toUpper.toLower = c) = true := by decide
  simpa only [List.all_eq_true, Bool.and_eq_true, decide_eq_true_eq, and_assoc] using hall

/-- Without its dots the text of a version is its digits in upper case. -/
theorem vbiosText_digits {digits : List Char} (h : ∀ c ∈ digits, c ∈ lowerHexDigits) :
    (vbiosText digits).toList.filter (· ≠ '.') = digits.map Char.toUpper := by
  have hdots : '.' ∉ digits := fun hdot => (lowerHexDigit_facts '.' (h '.' hdot)).1 rfl
  obtain ⟨hfilter, hmem⟩ := dotted_pairs digits hdots
  have hupper : ∀ c ∈ (".".intercalate (pairsOf digits)).toList,
      c.toUpper ≠ Char.ofNat 0 ∧ (c.toUpper = '.' ↔ c = '.') := by
    intro c hc
    cases hmem c hc with
    | inl hdigit =>
      have hfacts := lowerHexDigit_facts c (h c hdigit)
      exact ⟨hfacts.2.2.2.1, iff_of_false hfacts.2.1 hfacts.1⟩
    | inr hdot =>
      rw [hdot]
      decide
  have hlist : (vbiosText digits).toList =
      (".".intercalate (pairsOf digits)).toList.map Char.toUpper := by
    rw [vbiosText, removeNullTerminators, String.toList_ofList, toUpper, String.toList_map]
    refine List.takeWhile_eq_self_iff.mpr fun c hc => ?_
    obtain ⟨d, hd, rfl⟩ := List.mem_map.mp hc
    exact decide_eq_true (hupper d hd).1
  rw [hlist, List.filter_map]
  have hsame : (".".intercalate (pairsOf digits)).toList.filter
      ((fun c => decide (c ≠ '.')) ∘ Char.toUpper) =
      (".".intercalate (pairsOf digits)).toList.filter (· ≠ '.') :=
    List.filter_congr fun c hc => decide_eq_decide.mpr (not_congr (hupper c hc).2)
  rw [hsame, hfilter]

/-- The digits of a version can be told from its text without dots. -/
theorem vbiosText_inj {a b : List Char} (ha : ∀ c ∈ a, c ∈ lowerHexDigits)
    (hb : ∀ c ∈ b, c ∈ lowerHexDigits)
    (h : (vbiosText a).toList.filter (· ≠ '.') = (vbiosText b).toList.filter (· ≠ '.')) :
    a = b := by
  have hlower (l : List Char) (hl : ∀ c ∈ l, c ∈ lowerHexDigits) :
      (l.map Char.toUpper).map Char.toLower = l := by
    rw [List.map_map]
    refine (List.map_congr_left fun c hc => ?_).trans (List.map_id l)
    exact (lowerHexDigit_facts c (hl c hc)).2.2.2.2.2
  rw [vbiosText_digits ha, vbiosText_digits hb] at h
  rw [← hlower a ha, h, hlower b hb]

theorem getText_iff {type : Nat} {text : String} : report.getText type = .ok text ↔
    ∃ data, getBytes report.opaqueData.fields type = .ok data ∧
      text = removeNullTerminators (ofBytes data) := by
  rw [AttestationReport.getText, bind_eq_ok]
  simp only [pure_eq_ok, Except.ok.injEq, eq_comm]

/-- The identifier of a VBIOS RIM and the texts it is made of. -/
theorem getVbiosRimId_iff {id : String} : report.getVbiosRimId = .ok id ↔
    ∃ project projectSku chipSku version, report.getText PROJECT = .ok project ∧
      report.getText PROJECT_SKU = .ok projectSku ∧ report.getText CHIP_SKU = .ok chipSku ∧
      report.getVbiosVersion = .ok version ∧
      id.toList = "NV_GPU_VBIOS_".toList ++ joinParts project.toList projectSku.toList
        chipSku.toList (version.toList.filter (· ≠ '.')) := by
  rw [AttestationReport.getVbiosRimId, bind_eq_ok]
  have hid (p s c v : String) : ("NV_GPU_VBIOS_" ++ p ++ "_" ++ s ++ "_" ++ c ++ "_" ++
      String.ofList (v.toList.filter (· ≠ '.'))).toList = "NV_GPU_VBIOS_".toList ++
        joinParts p.toList s.toList c.toList (v.toList.filter (· ≠ '.')) := by
    simp only [String.toList_append, String.toList_ofList, joinParts, List.append_assoc]
    rfl
  simp only [bind_eq_ok, pure_eq_ok, Except.ok.injEq, exists_and_left]
  refine exists_congr fun p => and_congr_right fun _ => exists_congr fun s =>
    and_congr_right fun _ => exists_congr fun c => and_congr_right fun _ => exists_congr fun v =>
    and_congr_right fun _ => ?_
  rw [← hid, String.toList_inj, eq_comm]

end Version

/-- Reports that `AttestationReport::create` accepts, of whatever device. -/
def Accepted (report : AttestationReport) : Prop :=
  ∃ lib e, getParsedAttestationReport lib e = .ok report

section OtherFields
variable {report : AttestationReport} {fields : List ParsedOpaqueFieldData}

/-- The response of a report with other opaque fields. -/
def withFields (response : SpdmMeasurementResponseMessage11) (fields : List ParsedOpaqueFieldData) :
    SpdmMeasurementResponseMessage11 :=
  { response with
    opaqueDataLength := (encodeFields fields).length
    opaqueData := encodeFields fields
    opaqueFields := fields }

theorem withFields_wellFormed {response : SpdmMeasurementResponseMessage11} {signatureLength : Nat}
    (h : response.WellFormed signatureLength) (hsome : fields ≠ [])
    (htypes : ∀ f ∈ fields, f.type < 65536) (hlength : (encodeFields fields).length < 65536) :
    (withFields response fields).WellFormed signatureLength where
  spdmVersion := h.spdmVersion
  requestResponseCode := h.requestResponseCode
  numberOfBlocks := h.numberOfBlocks
  recordLength := h.recordLength
  recordFits := h.recordFits
  blocks := h.blocks
  nonce := h.nonce
  opaqueLength := rfl
  opaqueFits := hlength
  opaqueSome := by
    cases fields with
    | nil => exact absurd rfl hsome
    | cons f rest =>
      intro hempty
      have hnone := congrArg List.length hempty
      rw [withFields, encodeFields_cons, List.length_append, encodeField_length,
        List.length_nil] at hnone
      omega
  fields := by
    refine parseOpaqueData_encode (fun f hf => ⟨htypes f hf, ?_⟩) (lt_trans hlength (by decide))
    obtain ⟨before, after, hsplit⟩ := List.append_of_mem hf
    rw [hsplit, encodeFields, List.flatMap_append, List.flatMap_cons, List.length_append,
      List.length_append, encodeField_length] at hlength
    omega
  signature := h.signature
  signatureFits := h.signatureFits

theorem held_of_length (hlength : (encodeFields fields).length < 65536) :
    ∀ field ∈ fields, Held field := by
  intro field hmem
  obtain ⟨before, after, hsplit⟩ := List.append_of_mem hmem
  rw [hsplit, encodeFields, List.flatMap_append, List.flatMap_cons, List.length_append,
    List.length_append, encodeField_length] at hlength
  rw [Held, differenceBound]
  omega

/-- Where a report is accepted, a device may report any other acceptable fields. -/
theorem accepted_withFields (h : Accepted report) (hsome : fields ≠ [])
    (hlength : (encodeFields fields).length < 65536) (hfields : Acceptable fields) :
    ∃ other, Accepted other ∧ other.response.opaqueFields = fields := by
  obtain ⟨lib, e, hreport⟩ := h
  obtain ⟨messages, hmessages, -⟩ := bind_eq_ok.mp hreport
  obtain ⟨a, requestBytes, harch, hchain, hsigned, -, hrequest, hresponse⟩ :=
    readMessages_calls hmessages
  obtain ⟨hrequestWell, -⟩ := request_parse_iff.mp hrequest
  obtain ⟨hresponseWell, -⟩ := response_parse_ok hresponse
  have hwell := withFields_wellFormed hresponseWell hsome
    (fun f hf => by have htype := hfields.types f hf; omega) hlength
  obtain ⟨parser, hparser⟩ := (create_succeeds_iff (held_of_length hlength)).mpr hfields
  have hsignatureLength : a.signatureLength = 96 := (architectureData_ok harch).2
  have hrequestLength := hrequestWell.length
  obtain ⟨leaf, rest, hcerts, -⟩ := hsigned
  have hdata : (messages.request.encode ++ (withFields messages.response fields).encode).length =
      37 + (withFields messages.response fields).encode.length := by
    rw [List.length_append, hrequestLength]
    rfl
  have hencode := SpdmMeasurementResponseMessage11.encode_length hwell.nonce
  rw [hwell.signature, hsignatureLength] at hencode
  refine ⟨⟨⟨messages.certChain, messages.request, withFields messages.response fields⟩, parser⟩,
    ⟨{ lib with digestVerify := fun _ _ _ _ _ => true },
      { e with attestationReport :=
          messages.request.encode ++ (withFields messages.response fields).encode }, ?_⟩, rfl⟩
  refine bind_eq_ok.mpr ⟨_, bind_eq_ok.mpr ⟨messages.certChain, ?_, ?_⟩, bind_eq_ok.mpr
    ⟨parser, hparser, rfl⟩⟩
  · rw [GpuSample.createFromCertChainStr_digest, hchain]
    rfl
  refine bind_eq_ok.mpr ⟨a, harch, bind_eq_ok.mpr ⟨(), require_iff.mpr (decide_eq_true ?_), ?_⟩⟩
  · dsimp only
    rw [hdata, hsignatureLength]
    omega
  refine bind_eq_ok.mpr ⟨(), ?_, bind_eq_ok.mpr ⟨messages.request.encode, ?_, ?_⟩⟩
  · rw [verifySignaturePkcs11, hcerts, if_neg]
    · rfl
    · rw [not_not, List.length_drop, hdata, hsignatureLength]
      omega
  · rw [slice, if_pos (by rw [hdata, kRequestLength]; omega), List.drop_zero, ← hrequestLength,
      List.take_left]
  refine bind_eq_ok.mpr ⟨messages.request, ?_, bind_eq_ok.mpr
    ⟨withFields messages.response fields, ?_, rfl⟩⟩
  · rw [request_parse_iff.mpr ⟨hrequestWell, rfl⟩]
    rfl
  · rw [← hrequestLength, List.drop_left, response_parse_encode hwell]
    rfl

end OtherFields

/-- Different fields take their own places in the opaque data. -/
theorem fields_le {few fields : List ParsedOpaqueFieldData} (hnodup : few.Nodup)
    (hsub : few ⊆ fields) : (encodeFields few).length ≤ (encodeFields fields).length := by
  obtain ⟨l, hperm, hl⟩ := List.subperm_of_subset hnodup hsub
  have hsame : (encodeFields l).length = (encodeFields few).length :=
    (hperm.flatMap_right _).length_eq
  rw [← hsame]
  exact (hl.flatMap _).length_le

/-- The texts of the VBIOS fields of two reports. -/
structure SameVbios (a b : AttestationReport) : Prop where
  project : a.getText PROJECT = b.getText PROJECT
  projectSku : a.getText PROJECT_SKU = b.getText PROJECT_SKU
  chipSku : a.getText CHIP_SKU = b.getText CHIP_SKU
  version : a.getVbiosVersion = b.getVbiosVersion

/-- Lookups with the identifiers of a report stay in the directory of the store, and no report with
other VBIOS fields has its VBIOS identifier. -/
structure LookupsSafe (report : AttestationReport) : Prop where
  driver : ∀ architecture id, report.getDriverRimId architecture = .ok id → OpensEntries id
  vbios : ∀ id, report.getVbiosRimId = .ok id → OpensEntries id
  unambiguous : ∀ other, Accepted other → ∀ id, report.getVbiosRimId = .ok id →
    other.getVbiosRimId = .ok id → SameVbios report other

/-- Neither the separator of paths nor that of identifiers is in a text. -/
structure PlainText (text : String) : Prop where
  noSlash : '/' ∉ text.toList
  noUnderscore : '_' ∉ text.toList

/-- What the fields of a report would have to hold. -/
structure PlainFields (report : AttestationReport) : Prop where
  driver : ∀ driver, report.getText DRIVER_VERSION = .ok driver → '/' ∉ driver.toList
  chip : ∀ chip driver, report.getText CHIP_INFO = .ok chip →
    report.getText DRIVER_VERSION = .ok driver → '/' ∉ chip.toList
  vbios : ∀ project projectSku chipSku data, report.getText PROJECT = .ok project →
    report.getText PROJECT_SKU = .ok projectSku → report.getText CHIP_SKU = .ok chipSku →
    getBytes report.opaqueData.fields VBIOS_VERSION = .ok data → 2 ≤ data.length →
    PlainText project ∧ PlainText projectSku ∧ PlainText chipSku

section Driver
variable {report : AttestationReport}

/-- The identifiers of driver RIMs: of Hopper, and of Blackwell with and without chip information. -/
theorem getDriverRimId_iff {architecture : GpuArchitecture} {id : String} :
    report.getDriverRimId architecture = .ok id ↔
      ∃ driver, report.getText DRIVER_VERSION = .ok driver ∧
        (architecture = .Hopper ∧ id = "NV_GPU_DRIVER_GH100_" ++ driver ∨
          architecture = .Blackwell ∧
            (getField report.opaqueData.fields CHIP_INFO = .error (.code .SpdmFieldNotFound) ∧
                id = "NV_GPU_CC_DRIVER_GB100_" ++ driver ∨
              ∃ chip, report.getText CHIP_INFO = .ok chip ∧
                id = "NV_GPU_CC_DRIVER_" ++ chip ++ "_" ++ driver)) := by
  rw [AttestationReport.getDriverRimId, bind_eq_ok]
  refine exists_congr fun driver => and_congr_right fun _ => ?_
  cases architecture with
  | Unknown => simp
  | Ampere => simp
  | Hopper => simp [pure_eq_ok, eq_comm]
  | Blackwell =>
    cases hlookup : report.opaqueData.fields.lookup CHIP_INFO with
    | none =>
      have hfield : getField report.opaqueData.fields CHIP_INFO =
          .error (.code .SpdmFieldNotFound) := by
        rw [getField, hlookup]
      have hnoText (chip : String) : report.getText CHIP_INFO ≠ .ok chip := by
        rw [AttestationReport.getText, getBytes, hfield]
        intro htext
        cases htext
      simp [hfield, hnoText, eq_comm]
    | some field =>
      have hfield : getField report.opaqueData.fields CHIP_INFO = .ok field := by
        rw [getField, hlookup]
      have htext : report.getText CHIP_INFO =
          field.getByteVector >>= fun data => pure (removeNullTerminators (ofBytes data)) := by
        rw [AttestationReport.getText, getBytes, hfield]
        rfl
      simp only [hfield, htext, bind_eq_ok, pure_eq_ok, Except.ok.injEq, reduceCtorEq, false_and,
        true_and, false_or]
      constructor
      · intro h
        obtain ⟨data, hdata, hid⟩ := h
        exact ⟨_, ⟨data, hdata, rfl⟩, hid.symm⟩
      · intro h
        obtain ⟨chip, ⟨data, hdata, hchip⟩, hid⟩ := h
        exact ⟨data, hdata, by rw [hchip, hid]⟩

end Driver

section Lookups
variable {report : AttestationReport}

theorem front_tcg {start rest : String} (h : start.toList.head? = some 'N') :
    (start ++ rest ++ tcgExt).front ≠ '/' := by
  cases hstart : start.toList with
  | nil =>
    rw [hstart] at h
    cases h
  | cons c cs =>
    rw [hstart] at h
    rw [String.front_eq, String.front?_eq, String.toList_append, String.toList_append, hstart,
      Option.some.inj h]
    exact show 'N' ≠ '/' by decide

/-- A lookup stays in the directory where the part that a report supplies has no slash. -/
theorem opensEntries_append {start rest : String} (h : start.toList.head? = some 'N')
    (hslash : '/' ∉ start.toList) : OpensEntries (start ++ rest) ↔ '/' ∉ rest.toList := by
  rw [opensEntries_iff (front_tcg h), String.toList_append, List.mem_append, not_or]
  exact and_iff_right hslash

/-- The field that a text was read from. -/
theorem field_of_getBytes (h : Accepted report) {type : Nat} (hmsr : type ≠ MSRSCNT)
    (hpdi : type ≠ SWITCH_PDI) {data : Bytes}
    (hbytes : getBytes report.opaqueData.fields type = .ok data) :
    ⟨type, data⟩ ∈ report.response.opaqueFields := by
  obtain ⟨lib, e, hreport⟩ := h
  obtain ⟨field, hlast, rfl⟩ := (getBytes_iff (parsed_create hreport) hmsr hpdi).mp hbytes
  obtain ⟨hmem, rfl⟩ := of_lastOf hlast
  exact hmem

theorem getBytes_of_last (h : Accepted report) {type : Nat} (hmsr : type ≠ MSRSCNT)
    (hpdi : type ≠ SWITCH_PDI) {data : Bytes}
    (hlast : lastOf type report.response.opaqueFields = some ⟨type, data⟩) :
    getBytes report.opaqueData.fields type = .ok data := by
  obtain ⟨lib, e, hreport⟩ := h
  exact (getBytes_iff (parsed_create hreport) hmsr hpdi).mpr ⟨_, hlast, rfl⟩

theorem opaqueFields_fit (h : Accepted report) :
    (encodeFields report.response.opaqueFields).length < 65536 := by
  obtain ⟨lib, e, hreport⟩ := h
  obtain ⟨messages, hmessages, hrest⟩ := bind_eq_ok.mp hreport
  obtain ⟨parser, -, hmade⟩ := bind_eq_ok.mp hrest
  cases hmade
  obtain ⟨a, requestBytes, -, -, -, -, -, hresponse⟩ := readMessages_calls hmessages
  obtain ⟨hwell, -⟩ := response_parse_ok hresponse
  rw [← (parseOpaqueData_ok hwell.fields).1]
  exact hwell.opaqueFits

/-- The four fields that a VBIOS identifier is made of. -/
def vbiosFields (project projectSku chipSku version : Bytes) : List ParsedOpaqueFieldData :=
  [⟨PROJECT, project⟩, ⟨PROJECT_SKU, projectSku⟩, ⟨CHIP_SKU, chipSku⟩, ⟨VBIOS_VERSION, version⟩]

theorem vbiosFields_acceptable (project projectSku chipSku version : Bytes) :
    Acceptable (vbiosFields project projectSku chipSku version) := by
  have hnone (type : Nat) (h : type ≠ 17 ∧ type ≠ 18 ∧ type ≠ 15 ∧ type ≠ 6) :
      ∀ field ∈ vbiosFields project projectSku chipSku version, field.type ≠ type := by
    simp only [vbiosFields, List.forall_mem_cons, List.not_mem_nil, false_imp_iff, implies_true,
      and_true, PROJECT, PROJECT_SKU, CHIP_SKU, VBIOS_VERSION]
    omega
  refine ⟨?_, fun f hf h => absurd h (hnone _ (by decide) f hf),
    fun f hf h => absurd h (hnone _ (by decide) f hf),
    fun f hf h => absurd h (hnone _ (by decide) f hf), ?_⟩
  · simp [vbiosFields, PROJECT, PROJECT_SKU, CHIP_SKU, VBIOS_VERSION]
  · rw [versionOf, lastOf_eq_none.mpr (hnone _ (by decide))]
    decide

theorem vbiosFields_length (project projectSku chipSku version : Bytes) :
    (encodeFields (vbiosFields project projectSku chipSku version)).length =
      16 + project.length + projectSku.length + chipSku.length + version.length := by
  simp only [vbiosFields, encodeFields_cons, encodeFields_nil, List.length_append,
    encodeField_length, List.length_nil]
  omega

/-- A report with just these fields reads as their texts. -/
theorem vbiosFields_read (h : Accepted report) {project projectSku chipSku : String} {data : Bytes}
    (hfields : report.response.opaqueFields =
      vbiosFields (toBytes project) (toBytes projectSku) (toBytes chipSku) data)
    (hproject : CutText project) (hprojectSku : CutText projectSku) (hchipSku : CutText chipSku) :
    report.getText PROJECT = .ok project ∧ report.getText PROJECT_SKU = .ok projectSku ∧
      report.getText CHIP_SKU = .ok chipSku ∧
      getBytes report.opaqueData.fields VBIOS_VERSION = .ok data := by
  have hread {type : Nat} {bytes : Bytes} (hmsr : type ≠ MSRSCNT) (hpdi : type ≠ SWITCH_PDI)
      (hlast : lastOf type (vbiosFields (toBytes project) (toBytes projectSku) (toBytes chipSku)
        data) = some ⟨type, bytes⟩) : getBytes report.opaqueData.fields type = .ok bytes :=
    getBytes_of_last h hmsr hpdi (hfields ▸ hlast)
  refine ⟨getText_iff.mpr ⟨_, hread (by decide) (by decide) rfl, ?_⟩,
    getText_iff.mpr ⟨_, hread (by decide) (by decide) rfl, ?_⟩,
    getText_iff.mpr ⟨_, hread (by decide) (by decide) rfl, ?_⟩,
    hread (by decide) (by decide) rfl⟩
  · exact (removeNullTerminators_toBytes hproject).symm
  · exact (removeNullTerminators_toBytes hprojectSku).symm
  · exact (removeNullTerminators_toBytes hchipSku).symm

/-- The parts of an identifier that was read from a report can be sent in one again, divided
otherwise. -/
theorem vbiosFields_fit (h : Accepted report) {bytes₁ bytes₂ bytes₃ data : Bytes}
    (h₁ : getBytes report.opaqueData.fields PROJECT = .ok bytes₁)
    (h₂ : getBytes report.opaqueData.fields PROJECT_SKU = .ok bytes₂)
    (h₃ : getBytes report.opaqueData.fields CHIP_SKU = .ok bytes₃)
    (h₄ : getBytes report.opaqueData.fields VBIOS_VERSION = .ok data) {p s c : Bytes}
    (hle : p.length + s.length + c.length ≤ bytes₁.length + bytes₂.length + bytes₃.length) :
    (encodeFields (vbiosFields p s c data)).length < 65536 := by
  have hnodup : (vbiosFields bytes₁ bytes₂ bytes₃ data).Nodup := by
    simp [vbiosFields, PROJECT, PROJECT_SKU, CHIP_SKU, VBIOS_VERSION]
  have hsub : vbiosFields bytes₁ bytes₂ bytes₃ data ⊆ report.response.opaqueFields := by
    refine List.cons_subset.mpr ⟨field_of_getBytes h (by decide) (by decide) h₁, ?_⟩
    refine List.cons_subset.mpr ⟨field_of_getBytes h (by decide) (by decide) h₂, ?_⟩
    refine List.cons_subset.mpr ⟨field_of_getBytes h (by decide) (by decide) h₃, ?_⟩
    refine List.cons_subset.mpr ⟨field_of_getBytes h (by decide) (by decide) h₄, ?_⟩
    exact List.nil_subset _
  have hheld := fields_le hnodup hsub
  have hfit := opaqueFields_fit h
  rw [vbiosFields_length] at hheld ⊢
  omega

/-- What is made of the characters of cut texts and underscores is a cut text. -/
theorem cutText_of_joined {project projectSku chipSku : String} {l : List Char}
    (hproject : CutText project) (hprojectSku : CutText projectSku) (hchipSku : CutText chipSku)
    (hl : ∀ x ∈ l, x ∈ joinParts project.toList projectSku.toList chipSku.toList []) :
    CutText (String.ofList l) := by
  have hchars : ∀ x ∈ l, x.toNat < 256 ∧ x ≠ Char.ofNat 0 := by
    intro x hx
    cases mem_joinParts.mp (hl x hx) with
    | inl hseparator =>
      rw [hseparator]
      decide
    | inr hpart =>
      obtain hp | hs | hc | hnone := hpart
      · exact ⟨hproject.bytes x hp, hproject.noNul x hp⟩
      · exact ⟨hprojectSku.bytes x hs, hprojectSku.noNul x hs⟩
      · exact ⟨hchipSku.bytes x hc, hchipSku.noNul x hc⟩
      · cases hnone
  refine ⟨fun x hx => ?_, fun x hx => ?_⟩
  · rw [String.toList_ofList] at hx
    exact (hchars x hx).1
  · rw [String.toList_ofList] at hx
    exact (hchars x hx).2

/-- Where one of the parts of an identifier holds an underscore, another accepted report has the
identifier, with other parts. -/
theorem ambiguous (h : Accepted report) {project projectSku chipSku version id : String}
    (hproject : report.getText PROJECT = .ok project)
    (hprojectSku : report.getText PROJECT_SKU = .ok projectSku)
    (hchipSku : report.getText CHIP_SKU = .ok chipSku)
    (hversion : report.getVbiosVersion = .ok version)
    (hid : id.toList = "NV_GPU_VBIOS_".toList ++ joinParts project.toList projectSku.toList
      chipSku.toList (version.toList.filter (· ≠ '.')))
    (hunderscore : '_' ∈ project.toList ∨ '_' ∈ projectSku.toList ∨ '_' ∈ chipSku.toList) :
    ∃ other, Accepted other ∧ other.getVbiosRimId = .ok id ∧ ¬ SameVbios report other := by
  obtain ⟨a, b, c, hjoined, hlengths, hother⟩ := joinParts_other hunderscore
  obtain ⟨bytes₁, h₁, rfl⟩ := getText_iff.mp hproject
  obtain ⟨bytes₂, h₂, rfl⟩ := getText_iff.mp hprojectSku
  obtain ⟨bytes₃, h₃, rfl⟩ := getText_iff.mp hchipSku
  obtain ⟨data, h₄, htwo, rfl⟩ := getVbiosVersion_iff.mp hversion
  have htext {l : List Char} (hl : ∀ x ∈ l, x ∈ joinParts a b c []) : CutText (String.ofList l) :=
    cutText_of_joined (cutText_ofBytes bytes₁) (cutText_ofBytes bytes₂) (cutText_ofBytes bytes₃)
      fun x hx => hjoined [] ▸ hl x hx
  have hbytes (l : List Char) : (toBytes (String.ofList l)).length = l.length := by
    rw [toBytes, String.toList_ofList, List.length_map]
  have hfits : (encodeFields (vbiosFields (toBytes (String.ofList a)) (toBytes (String.ofList b))
      (toBytes (String.ofList c)) data)).length < 65536 := by
    refine vbiosFields_fit h h₁ h₂ h₃ h₄ ?_
    have hle₁ := cutText_length_le bytes₁
    have hle₂ := cutText_length_le bytes₂
    have hle₃ := cutText_length_le bytes₃
    rw [hbytes, hbytes, hbytes]
    omega
  obtain ⟨other, haccepted, hfields⟩ := accepted_withFields h (List.cons_ne_nil _ _) hfits
    (vbiosFields_acceptable _ _ _ _)
  obtain ⟨hp, hs, hc, hv⟩ := vbiosFields_read haccepted hfields
    (htext fun x hx => mem_joinParts.mpr (.inr (.inl hx)))
    (htext fun x hx => mem_joinParts.mpr (.inr (.inr (.inl hx))))
    (htext fun x hx => mem_joinParts.mpr (.inr (.inr (.inr (.inl hx)))))
  refine ⟨other, haccepted, ?_, fun hsame => hother ?_⟩
  · refine getVbiosRimId_iff.mpr ⟨_, _, _, _, hp, hs, hc,
      getVbiosVersion_iff.mpr ⟨data, hv, htwo, rfl⟩, ?_⟩
    rw [hid, ← hjoined]
    simp only [String.toList_ofList]
  · have hsameList {x : String} {l : List Char}
        (hx : (.ok x : Except Fault String) = .ok (String.ofList l)) : l = x.toList := by
      rw [Except.ok.inj hx, String.toList_ofList]
    exact ⟨hsameList (hproject.symm.trans (hsame.project.trans hp)),
      hsameList (hprojectSku.symm.trans (hsame.projectSku.trans hs)),
      hsameList (hchipSku.symm.trans (hsame.chipSku.trans hc))⟩

/-- The identifier of a VBIOS RIM stays in the directory where none of the texts has a slash. -/
theorem opensEntries_vbios {id : String} {project projectSku chipSku : String} {digits : List Char}
    (hdigits : ∀ c ∈ digits, c ∈ lowerHexDigits)
    (hid : id.toList = "NV_GPU_VBIOS_".toList ++ joinParts project.toList projectSku.toList
      chipSku.toList ((vbiosText digits).toList.filter (· ≠ '.'))) :
    OpensEntries id ↔
      '/' ∉ project.toList ∧ '/' ∉ projectSku.toList ∧ '/' ∉ chipSku.toList := by
  have hversion : '/' ∉ (vbiosText digits).toList.filter (· ≠ '.') := by
    rw [vbiosText_digits hdigits]
    intro hslash
    obtain ⟨c, hc, hupper⟩ := List.mem_map.mp hslash
    exact (lowerHexDigit_facts c (hdigits c hc)).2.2.2.2.1 hupper
  have hsplit : id = "NV_GPU_VBIOS_" ++ String.ofList (joinParts project.toList projectSku.toList
      chipSku.toList ((vbiosText digits).toList.filter (· ≠ '.'))) := by
    rw [← String.toList_inj, hid, String.toList_append]
    simp only [String.toList_ofList]
  rw [hsplit, opensEntries_append rfl (by decide), String.toList_ofList, mem_joinParts, not_or,
    not_or, not_or, not_or]
  exact ⟨fun h => ⟨h.2.1, h.2.2.1, h.2.2.2.1⟩,
    fun h => ⟨by decide, h.1, h.2.1, h.2.2, hversion⟩⟩

/-- With plain fields, a lookup for the driver stays in the directory. -/
theorem PlainFields.opensDriver (hplain : PlainFields report) {architecture : GpuArchitecture}
    {id : String} (hid : report.getDriverRimId architecture = .ok id) : OpensEntries id := by
  obtain ⟨driver, hdriver, hcases⟩ := getDriverRimId_iff.mp hid
  have hnoSlash := hplain.driver driver hdriver
  obtain ⟨-, rfl⟩ | ⟨-, ⟨-, rfl⟩ | ⟨chip, hchip, rfl⟩⟩ := hcases
  · exact (@opensEntries_append "NV_GPU_DRIVER_GH100_" driver rfl (by decide)).mpr hnoSlash
  · exact (@opensEntries_append "NV_GPU_CC_DRIVER_GB100_" driver rfl (by decide)).mpr hnoSlash
  · have hchipSlash := hplain.chip chip driver hchip hdriver
    rw [String.append_assoc, String.append_assoc]
    refine (@opensEntries_append "NV_GPU_CC_DRIVER_" (chip ++ ("_" ++ driver)) rfl
      (by decide)).mpr ?_
    rw [String.toList_append, List.mem_append, not_or, String.toList_append, List.mem_append,
      not_or]
    exact ⟨hchipSlash, by decide, hnoSlash⟩

/-- Reports with one identifier, of which one has plain fields, have the same VBIOS fields. -/
theorem PlainFields.sameVbios (hplain : PlainFields report) {other : AttestationReport} {id : String}
    (hid : report.getVbiosRimId = .ok id) (hother : other.getVbiosRimId = .ok id) :
    SameVbios report other := by
  obtain ⟨project, projectSku, chipSku, version, hproject, hprojectSku, hchipSku, hversion,
    htext⟩ := getVbiosRimId_iff.mp hid
  obtain ⟨project', projectSku', chipSku', version', hproject', hprojectSku', hchipSku',
    hversion', htext'⟩ := getVbiosRimId_iff.mp hother
  obtain ⟨data, hdata, htwo, rfl⟩ := getVbiosVersion_iff.mp hversion
  obtain ⟨data', -, -, rfl⟩ := getVbiosVersion_iff.mp hversion'
  obtain ⟨hp, hs, hc⟩ := hplain.vbios _ _ _ _ hproject hprojectSku hchipSku hdata htwo
  have hdigits : '_' ∉ (vbiosText (vbiosDigits data)).toList.filter (· ≠ '.') := by
    rw [vbiosText_digits fun c => mem_vbiosDigits]
    intro hmem
    obtain ⟨c, hc, hupper⟩ := List.mem_map.mp hmem
    exact (lowerHexDigit_facts c (mem_vbiosDigits hc)).2.2.1 hupper
  have hjoined := List.append_cancel_left (htext.symm.trans htext')
  obtain ⟨hp', hs', hc', hv'⟩ :=
    joinParts_inj hp.noUnderscore hs.noUnderscore hc.noUnderscore hdigits hjoined
  exact {
    project := by rw [hproject, hproject', String.toList_inj.mp hp']
    projectSku := by rw [hprojectSku, hprojectSku', String.toList_inj.mp hs']
    chipSku := by rw [hchipSku, hchipSku', String.toList_inj.mp hc']
    version := by
      rw [hversion, hversion', vbiosText_inj (fun c => mem_vbiosDigits)
        (fun c => mem_vbiosDigits) hv'] }

theorem PlainFields.lookupsSafe (hplain : PlainFields report) : LookupsSafe report where
  driver _ _ hid := hplain.opensDriver hid
  vbios id hid := by
    obtain ⟨project, projectSku, chipSku, version, hproject, hprojectSku, hchipSku, hversion,
      htext⟩ := getVbiosRimId_iff.mp hid
    obtain ⟨data, hdata, htwo, rfl⟩ := getVbiosVersion_iff.mp hversion
    obtain ⟨hp, hs, hc⟩ := hplain.vbios _ _ _ _ hproject hprojectSku hchipSku hdata htwo
    exact (opensEntries_vbios (fun c => mem_vbiosDigits) htext).mpr
      ⟨hp.noSlash, hs.noSlash, hc.noSlash⟩
  unambiguous _ _ _ hid hother := hplain.sameVbios hid hother

/-- Safe lookups take plain fields: a slash leaves the directory, and an underscore is a boundary
that another report may put elsewhere. -/
theorem LookupsSafe.plainFields (hsafe : LookupsSafe report) (h : Accepted report) :
    PlainFields report where
  driver driver hdriver := by
    have hid : report.getDriverRimId .Hopper = .ok ("NV_GPU_DRIVER_GH100_" ++ driver) :=
      getDriverRimId_iff.mpr ⟨driver, hdriver, .inl ⟨rfl, rfl⟩⟩
    exact (opensEntries_append rfl (by decide)).mp (hsafe.driver .Hopper _ hid)
  chip chip driver hchip hdriver := by
    have hid : report.getDriverRimId .Blackwell =
        .ok ("NV_GPU_CC_DRIVER_" ++ chip ++ "_" ++ driver) :=
      getDriverRimId_iff.mpr ⟨driver, hdriver, .inr ⟨rfl, .inr ⟨chip, hchip, rfl⟩⟩⟩
    have hopens := hsafe.driver .Blackwell _ hid
    rw [String.append_assoc, String.append_assoc, opensEntries_append rfl (by decide),
      String.toList_append, List.mem_append, not_or] at hopens
    exact hopens.1
  vbios project projectSku chipSku data hproject hprojectSku hchipSku hdata htwo := by
    have hversion := getVbiosVersion_iff.mpr ⟨data, hdata, htwo, rfl⟩
    have htext : (String.ofList ("NV_GPU_VBIOS_".toList ++ joinParts project.toList
        projectSku.toList chipSku.toList ((vbiosText (vbiosDigits data)).toList.filter
          (· ≠ '.')))).toList = _ := String.toList_ofList
    have hid := getVbiosRimId_iff.mpr
      ⟨project, projectSku, chipSku, _, hproject, hprojectSku, hchipSku, hversion, htext⟩
    obtain ⟨hp, hs, hc⟩ :=
      (opensEntries_vbios (fun c => mem_vbiosDigits) htext).mp (hsafe.vbios _ hid)
    have hunderscore : ¬ ('_' ∈ project.toList ∨ '_' ∈ projectSku.toList ∨
        '_' ∈ chipSku.toList) := by
      intro hmem
      obtain ⟨other, haccepted, hother, hdiffers⟩ :=
        ambiguous h hproject hprojectSku hchipSku hversion htext hmem
      exact hdiffers (hsafe.unambiguous other haccepted _ hid hother)
    rw [not_or, not_or] at hunderscore
    exact ⟨⟨hp, hunderscore.1⟩, ⟨hs, hunderscore.2.1⟩, ⟨hc, hunderscore.2.2⟩⟩

/-- Lookups for an accepted report stay in the directory and are unambiguous exactly where the
texts that make up the identifiers are plain. -/
theorem lookupsSafe_iff (h : Accepted report) : LookupsSafe report ↔ PlainFields report :=
  ⟨fun hsafe => hsafe.plainFields h, fun hplain => hplain.lookupsSafe⟩

end Lookups

theorem sampleReport_accepted : Accepted GpuSample.report :=
  ⟨GpuSample.env.x509, GpuSample.evidence, GpuSample.reads.parsed⟩

theorem sampleReport_lookupsSafe_iff :
    LookupsSafe GpuSample.report ↔ PlainFields GpuSample.report :=
  lookupsSafe_iff sampleReport_accepted

/-- A driver version that names a file two directories up. -/
def strayDriverVersion : String := "/../../x"

theorem stray_lookup : ¬ ∀ report, Accepted report → LookupsSafe report := by
  intro hclaim
  have hfields : Acceptable [⟨DRIVER_VERSION, toBytes strayDriverVersion⟩] := by
    have hother (type : Nat) (h : DRIVER_VERSION ≠ type) : ∀ field ∈
        ([⟨DRIVER_VERSION, toBytes strayDriverVersion⟩] : List ParsedOpaqueFieldData),
        field.type ≠ type := List.forall_mem_singleton.mpr h
    refine ⟨List.forall_mem_singleton.mpr (by decide),
      fun f hf h => absurd h (hother _ (by decide) f hf),
      fun f hf h => absurd h (hother _ (by decide) f hf),
      fun f hf h => absurd h (hother _ (by decide) f hf), ?_⟩
    rw [versionOf, lastOf_eq_none.mpr (hother _ (by decide))]
    decide
  obtain ⟨report, haccepted, hstray⟩ := accepted_withFields sampleReport_accepted
    (List.cons_ne_nil _ _) (by decide) hfields
  have hbytes : getBytes report.opaqueData.fields DRIVER_VERSION =
      .ok (toBytes strayDriverVersion) :=
    getBytes_of_last haccepted (by decide) (by decide) (hstray ▸ rfl)
  have hnoNul : strayDriverVersion.toList.all (· ≠ Char.ofNat 0) = true := by decide
  have hcut : CutText strayDriverVersion :=
    ⟨by decide, fun c hc => of_decide_eq_true (List.all_eq_true.mp hnoNul c hc)⟩
  have hdriver : report.getText DRIVER_VERSION = .ok strayDriverVersion :=
    getText_iff.mpr ⟨_, hbytes, (removeNullTerminators_toBytes hcut).symm⟩
  have hid : report.getDriverRimId .Hopper =
      .ok ("NV_GPU_DRIVER_GH100_" ++ strayDriverVersion) :=
    getDriverRimId_iff.mpr ⟨_, hdriver, .inl ⟨rfl, rfl⟩⟩
  have hopens := (hclaim report haccepted).driver .Hopper _ hid
  exact (opensEntries_append rfl (by decide)).mp hopens (by decide)

end AttestationSdk.Gpu
