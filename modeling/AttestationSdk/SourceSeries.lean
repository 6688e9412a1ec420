import Mathlib
import AttestationSdk.CommitGraph
import AttestationSdk.PythonText
import AttestationSdk.ValidatorFindings

/-! The source that a release records: `driver._source`. -/
namespace AttestationSdk.SourceSeries
open CommitGraph PythonText ExceptRules
open ReleaseSet (isSpace isHexDigit universalNewlines universalNewlines_eq)

/-- The name of an object. -/
structure ObjectId where
  digits : List Char
  count : digits.length = 40
  hex : ∀ c ∈ digits, isHexDigit c = true
deriving DecidableEq

/-- The revision of the checkout. -/
def headRevision : List Char := "HEAD".toList

/-- A repository, with what its revisions name. -/
structure Repository where
  commits : Graph ObjectId
  /-- The commit that a revision names, itself or through tags. -/
  resolve : List Char → Option ObjectId
  resolve_commit : ∀ {revision id}, resolve revision = some id → resolve id.digits = some id
  parent_commit : ∀ {child parent}, parent ∈ commits.parents child →
    resolve parent.digits = some parent
  /-- What `%s` prints; `none` is bytes that are no text. -/
  subject : ObjectId → Option (List Char)
  subject_line : ∀ {id text}, subject id = some text → '\n' ∉ text
  committed : ObjectId → Nat

/-- What a command leaves. -/
inductive Output
  | failed
  | printed (text : List Char)
  /-- It printed bytes that are no text. -/
  | undecodable

/-- What git documents of the answers that it alone computes. -/
structure Git (repository : Repository) where
  isAncestor : ObjectId → ObjectId → Bool
  /-- The commits of `base..tip` with `--reverse`. -/
  range : ObjectId → ObjectId → List ObjectId
  isAncestor_iff : ∀ {base tip}, repository.resolve base.digits = some base →
    repository.resolve tip.digits = some tip →
    (isAncestor base tip = true ↔ repository.commits.Reaches tip base)
  lists : ∀ {base tip}, repository.resolve base.digits = some base →
    repository.resolve tip.digits = some tip → repository.commits.Lists base tip (range base tip)

namespace Git
variable {repository : Repository} (git : Git repository)

/-- Each line with a newline behind it. -/
def endLines (lines : List (List Char)) : List Char := lines.flatMap (· ++ ['\n'])

/-- `rev-parse revision^{commit}`. -/
def revParse (_ : Git repository) (revision : List Char) : Output :=
  match repository.resolve revision with
  | some id => .printed (endLines [id.digits])
  | none => .failed

/-- Whether `cat-file -e revision^{commit}` exits with zero. -/
def catFile (_ : Git repository) (revision : List Char) : Bool :=
  (repository.resolve revision).isSome

/-- Whether `merge-base --is-ancestor` exits with zero. -/
def mergeBase (base tip : List Char) : Bool :=
  match repository.resolve base, repository.resolve tip with
  | some base, some tip => git.isAncestor base tip
  | _, _ => false

/-- What is printed of a range. -/
def onRange (base tip : List Char) (print : List ObjectId → Output) : Output :=
  match repository.resolve base, repository.resolve tip with
  | some base, some tip => print (git.range base tip)
  | _, _ => .failed

/-- `%H%x09%s`. -/
def record (_ : Git repository) (id : ObjectId) : List Char :=
  id.digits ++ '\t' :: (repository.subject id).getD []

/-- `log --reverse --format=%H%x09%s base..tip`. -/
def log (base tip : List Char) : Output :=
  git.onRange base tip fun ids =>
    if ids.all fun id => (repository.subject id).isSome then .printed (endLines (ids.map git.record))
    else .undecodable

/-- `rev-list --count base..tip`. -/
def revListCount (base tip : List Char) : Output :=
  git.onRange base tip fun ids => .printed (endLines [(Nat.repr ids.length).toList])

def isMerge (_ : Git repository) (id : ObjectId) : Bool :=
  2 ≤ (repository.commits.parents id).length

/-- `rev-list --merges base..tip`. -/
def revListMerges (base tip : List Char) : Output :=
  git.onRange base tip fun ids =>
    .printed (endLines ((ids.reverse.filter git.isMerge).map ObjectId.digits))

/-- `rev-parse revision^`. -/
def revParseParent (_ : Git repository) (revision : List Char) : Output :=
  match (repository.resolve revision).map repository.commits.parents with
  | some (parent :: _) => .printed (endLines [parent.digits])
  | _ => .failed

/-- `log -1 --format=%ct revision`. -/
def logTime (_ : Git repository) (revision : List Char) : Output :=
  match repository.resolve revision with
  | some id => .printed (endLines [(Nat.repr (repository.committed id)).toList])
  | none => .failed

end Git

/-- The `SourceError`s, one for each text. -/
inductive SourceError
  | gitCommand
  | noHead
  | noBase (base : List Char)
  | notAncestor (base commit : List Char)
  | emptySeries
  | invalidRecord (base commit : List Char)
  | invalidCount (output base commit : List Char)
  | incomplete (expected : Int) (base commit : List Char) (parsed : Nat)
  | merge (commit : List Char)
  | wrongEnd (expected got : List Char)
  | wrongStart (base first parent : List Char)

inductive Raised
  | sourceError (error : SourceError)
  | unicodeDecodeError
  | valueError

def raise {α : Type} (error : SourceError) : Except Raised α := .error (.sourceError error)

def check (passed : Bool) (error : SourceError) : Except Raised Unit :=
  if passed then .ok () else raise error

/-- `except SourceError`. -/
def onSourceError {α : Type} (x handler : Except Raised α) : Except Raised α :=
  match x with
  | .error (.sourceError _) => handler
  | x => x

/-- `_git`. -/
def runGit : Output → Except Raised (List Char)
  | .printed text => .ok (strip isSpace (universalNewlines text))
  | .failed => raise .gitCommand
  | .undecodable => .error .unicodeDecodeError

/-- A commit of the series. -/
structure Entry where
  commit : List Char
  subject : List Char
deriving DecidableEq

structure Source where
  commit : List Char
  upstreamBaseCommit : List Char
  solSeriesCommits : List Entry
  sourceDateEpoch : Int

/-- `line.split("\t", 1)` of two parts. -/
def readEntry (line : List Char) : Option Entry :=
  match line.dropWhile (· != '\t') with
  | [] => none
  | _ :: subject => some ⟨line.takeWhile (· != '\t'), subject⟩

/-- `int`. -/
def readInt (text : List Char) (error : Raised) : Except Raised Int :=
  match (String.ofList text).toInt? with
  | some n => .ok n
  | none => .error error

section
variable {repository : Repository} (git : Git repository)

/-- The first part of `_source`: the commit, with the base behind it. -/
def sourceCommit (base : List Char) : Except Raised (List Char) := do
  let commit ← onSourceError (runGit (git.revParse headRevision)) (raise .noHead)
  check (git.catFile base) (.noBase base)
  check (git.mergeBase base commit) (.notAncestor base commit)
  pure commit

/-- The second: the lines of the log, as many as commits are counted. -/
def readSeries (base commit : List Char) : Except Raised (List Entry) := do
  let log ← runGit (git.log base commit)
  let lines := splitLines log
  check (!lines.isEmpty) .emptySeries
  let series ← lines.mapM fun line =>
    match readEntry line with
    | some entry => .ok entry
    | none => raise (.invalidRecord base commit)
  let countOutput ← runGit (git.revListCount base commit)
  let count ← readInt countOutput (.sourceError (.invalidCount countOutput base commit))
  check (series.length == count) (.incomplete count base commit series.length)
  pure series

/-- The third: no merges, and the ends of the series. -/
def checkSeries (base commit : List Char) (series : List Entry) : Except Raised Unit := do
  let merges ← runGit (git.revListMerges base commit)
  check merges.isEmpty (.merge ((splitLines merges).headD []))
  -- the series is not empty here
  let last := (series.map Entry.commit).getLastD []
  check (last == commit) (.wrongEnd commit last)
  let first := (series.map Entry.commit).headD []
  let parent ← onSourceError (runGit (git.revParseParent first)) (pure "<unavailable>".toList)
  check (parent == base) (.wrongStart base first parent)

/-- `_source`. -/
def source (base : List Char) : Except Raised Source := do
  let commit ← sourceCommit git base
  let series ← readSeries git base commit
  checkSeries git base commit series
  let epoch ← readInt (← runGit (git.logTime commit)) .valueError
  pure ⟨commit, base, series, epoch⟩

end

section Texts
variable {c : Char} {word last text log : List Char} {lines : List (List Char)}

/-- A text without white space. -/
def IsWord (word : List Char) : Prop := word ≠ [] ∧ ∀ c ∈ word, isSpace c = false

theorem isSpace_of_isLineEnd (h : isLineEnd c = true) : isSpace c = true := by
  simp only [isLineEnd, isSpace, List.mem_cons, List.not_mem_nil, or_false, decide_eq_true_eq,
    Bool.or_eq_true, Bool.and_eq_true] at h ⊢
  omega

theorem not_isLineEnd_of_not_isSpace (h : isSpace c = false) : isLineEnd c = false := by
  rw [Bool.eq_false_iff] at h ⊢
  exact mt isSpace_of_isLineEnd h

theorem isSpace_of_isHexDigit (h : isHexDigit c = true) : isSpace c = false := by
  have hall : ("0123456789abcdef".toList.all fun x => !isSpace x) = true := by decide
  rw [isHexDigit, decide_eq_true_eq] at h
  simpa using List.all_eq_true.mp hall c h

theorem ObjectId.isWord (id : ObjectId) : IsWord id.digits := by
  refine ⟨fun hnil => ?_, fun c hc => isSpace_of_isHexDigit (id.hex c hc)⟩
  have hcount := id.count
  rw [hnil] at hcount
  cases hcount

theorem isWord_repr (n : Nat) : IsWord (Nat.repr n).toList := by
  rw [Nat.toList_repr]
  refine ⟨Nat.toDigits_ne_nil, fun c hc => ?_⟩
  have hdigit := Nat.isDigit_of_mem_toDigits (by decide) (by decide) hc
  simp only [Char.isDigit, Bool.and_eq_true, decide_eq_true_eq, UInt32.le_iff_toNat_le] at hdigit
  rw [Bool.eq_false_iff]
  simp only [isSpace, List.mem_cons, List.not_mem_nil, or_false, ne_eq, decide_eq_true_eq,
    Bool.or_eq_true, Bool.and_eq_true]
  have hlow : 48 ≤ c.toNat := hdigit.1
  have hhigh : c.toNat ≤ 57 := hdigit.2
  omega

theorem not_mem_return (h : ∀ c ∈ word, isLineEnd c = false) : '\r' ∉ word := by
  intro hmem
  have hreturn := h '\r' hmem
  revert hreturn
  decide

/-- What one word leaves. -/
theorem runGit_word (h : IsWord word) : runGit (.printed (Git.endLines [word])) = .ok word := by
  obtain ⟨front, d, hfront⟩ := (List.eq_nil_or_concat word).resolve_left h.1
  obtain ⟨c, rest, hrest⟩ := List.exists_cons_of_ne_nil h.1
  rw [List.concat_eq_append] at hfront
  have hprinted : Git.endLines [word] = word ++ ['\n'] := by simp [Git.endLines]
  have hreturn : '\r' ∉ word ++ ['\n'] := by
    simpa using not_mem_return fun c hc => not_isLineEnd_of_not_isSpace (h.2 c hc)
  rw [runGit, hprinted, universalNewlines_eq hreturn,
    strip_append (h.2 c (by simp [hrest])) (h.2 d (by simp [hfront])) ⟨rest, hrest⟩ ⟨front, hfront⟩]
  simp [isSpace]

/-- Lines that hold no end of a line, the last with an end that is not stripped, are read back. -/
theorem runGit_lines (hlines : ∀ line ∈ lines ++ [last], ∀ x ∈ line, isLineEnd x = false)
    (hstart : ∃ c rest, Git.endLines lines ++ last = c :: rest ∧ isSpace c = false)
    (hend : ∃ front d, last = front ++ [d] ∧ isSpace d = false) :
    ∃ log, runGit (.printed (Git.endLines (lines ++ [last]))) = .ok log ∧
      splitLines log = lines ++ [last] := by
  obtain ⟨c, rest, hrest, hc⟩ := hstart
  obtain ⟨front, d, hfront, hd⟩ := hend
  have hprinted : Git.endLines (lines ++ [last]) = Git.endLines lines ++ last ++ ['\n'] := by
    simp [Git.endLines]
  have hreturn : '\r' ∉ Git.endLines (lines ++ [last]) := by
    rw [Git.endLines, List.mem_flatMap]
    intro hmem
    obtain ⟨line, hline, hin⟩ := hmem
    have hnewline : '\r' ≠ '\n' := by decide
    exact not_mem_return (hlines line hline) (by simpa [hnewline] using hin)
  refine ⟨Git.endLines lines ++ last, ?_, splitLines_lines (fun line hline => ?_) ?_ ?_⟩
  · rw [runGit, universalNewlines_eq hreturn, hprinted,
      strip_append hc hd ⟨rest, hrest⟩ ⟨Git.endLines lines ++ front, by rw [hfront]; simp⟩]
    simp [isSpace]
  · exact hlines line (List.mem_append_left [last] hline)
  · exact hlines last (by simp)
  · simp [hfront]

/-- The last line of what git leaves does not end in white space. -/
theorem last_of_stripped (h : splitLines (strip isSpace text) = lines ++ [last]) :
    ∃ front d, last = front ++ [d] ∧ isSpace d = false := by
  have hsome : strip isSpace text ≠ [] := by
    intro hnil
    rw [hnil, splitLines] at h
    exact List.append_ne_nil_of_right_ne_nil lines (List.cons_ne_nil last []) h.symm
  obtain ⟨front, d, hfront⟩ := (List.eq_nil_or_concat _).resolve_left hsome
  rw [List.concat_eq_append] at hfront
  have hd := not_space_of_strip hfront
  have hconcat : ∃ others final, splitLines (front ++ [d]) = others ++ [final ++ [d]] :=
    splitLines_concat (not_isLineEnd_of_not_isSpace hd)
  obtain ⟨others, final, hsplit⟩ := hconcat
  rw [hfront, hsplit] at h
  exact ⟨final, d, (List.append_singleton_inj.mp h).2.symm, hd⟩

end Texts

section Failures
variable {α : Type} {error : SourceError} {output : Output} {x handler : Except Raised α}

def Raised.IsSourceError (raised : Raised) : Prop := ∃ error, raised = .sourceError error

theorem failsOnly_raise : FailsOnly Raised.IsSourceError (raise error : Except Raised α) := by
  intro raised h
  exact ⟨error, (Except.error.inj h).symm⟩

theorem failsOnly_check (passed : Bool) : FailsOnly Raised.IsSourceError (check passed error) := by
  cases passed with
  | true => exact failsOnly_ok _ ()
  | false => exact failsOnly_raise

theorem failsOnly_runGit (h : output ≠ .undecodable) :
    FailsOnly Raised.IsSourceError (runGit output) := by
  cases output with
  | failed => exact failsOnly_raise
  | printed text => exact failsOnly_ok _ _
  | undecodable => exact absurd rfl h

theorem failsOnly_onSourceError (hx : FailsOnly Raised.IsSourceError x)
    (hhandler : FailsOnly Raised.IsSourceError handler) :
    FailsOnly Raised.IsSourceError (onSourceError x handler) := by
  cases x with
  | ok a => exact failsOnly_ok _ a
  | error raised =>
    obtain ⟨error, rfl⟩ := hx raised rfl
    exact hhandler

theorem check_eq_ok {passed : Bool} {u : Unit} : check passed error = .ok u ↔ passed = true := by
  cases passed <;> simp [check, raise]

theorem readInt_repr (n : Nat) (raised : Raised) :
    readInt (Nat.repr n).toList raised = .ok (n : Int) := by
  rw [readInt, String.ofList_toList, Nat.toInt?_repr]

end Failures

section Stages
variable {repository : Repository} {git : Git repository} {head b : ObjectId}
  {base commit : List Char} {series : List Entry}

theorem sourceCommit_eq_ok : sourceCommit git base = .ok commit ↔
    ∃ head b, repository.resolve headRevision = some head ∧ repository.resolve base = some b ∧
      repository.commits.Reaches head b ∧ commit = head.digits := by
  cases hhead : repository.resolve headRevision with
  | none => simp [sourceCommit, Git.revParse, hhead, runGit, raise, onSourceError]
  | some head =>
    cases hbase : repository.resolve base with
    | none =>
      simp [sourceCommit, Git.revParse, hhead, runGit_word head.isWord, onSourceError, Git.catFile,
        hbase, check, raise]
    | some b =>
      have hself := repository.resolve_commit hhead
      have hancestor := git.isAncestor_iff (repository.resolve_commit hbase) hself
      simp only [sourceCommit, Git.revParse, hhead, runGit_word head.isWord, onSourceError, ok_bind,
        Git.catFile, hbase, Git.mergeBase, hself, bind_eq_ok, check_eq_ok, Option.isSome_some,
        pure_eq_ok, Except.ok.injEq, hancestor, exists_const, true_and, Option.some.injEq]
      constructor
      · intro h
        exact ⟨head, b, rfl, rfl, h.1, h.2.symm⟩
      · intro h
        obtain ⟨_, _, rfl, rfl, hreach, hcommit⟩ := h
        exact ⟨hreach, hcommit.symm⟩

theorem failsOnly_sourceCommit : FailsOnly Raised.IsSourceError (sourceCommit git base) := by
  refine FailsOnly.bind (failsOnly_onSourceError (failsOnly_runGit ?_) failsOnly_raise) fun commit _ =>
    (failsOnly_check _).bind fun _ _ => (failsOnly_check _).bind fun _ _ => failsOnly_ok _ commit
  rw [Git.revParse]
  cases repository.resolve headRevision <;> exact Output.noConfusion

/-- The commands on a range of two commits print what they do of the commits in it. -/
theorem onRange_eq (hbase : repository.resolve base = some b)
    (hself : repository.resolve head.digits = some head) (print : List ObjectId → Output) :
    git.onRange base head.digits print = print (git.range b head) := by
  rw [Git.onRange, hbase, hself]

theorem onRange_ne_undecodable {print : List ObjectId → Output}
    (h : ∀ ids, print ids ≠ .undecodable) : git.onRange base commit print ≠ .undecodable := by
  rw [Git.onRange]
  split
  · exact h _
  · exact Output.noConfusion

theorem readSeries_eq_ok (hbase : repository.resolve base = some b)
    (hself : repository.resolve head.digits = some head) :
    readSeries git base head.digits = .ok series ↔
      ∃ log, runGit (git.log base head.digits) = .ok log ∧ splitLines log ≠ [] ∧
        List.Forall₂ (fun line entry => readEntry line = some entry) (splitLines log) series ∧
        series.length = (git.range b head).length := by
  have hcount : runGit (git.revListCount base head.digits) =
      .ok (Nat.repr (git.range b head).length).toList := by
    rw [Git.revListCount, onRange_eq hbase hself, runGit_word (isWord_repr _)]
  have hentry (line : List Char) (entry : Entry) :
      (match readEntry line with
        | some entry => .ok entry
        | none => raise (.invalidRecord base head.digits)) = Except.ok entry ↔
        readEntry line = some entry := by
    cases readEntry line <;> simp [raise]
  simp only [readSeries, bind_eq_ok, check_eq_ok, mapM_eq_ok, hentry, hcount, readInt_repr,
    Except.ok.injEq, exists_eq_left', pure_eq_ok, exists_const, Bool.not_eq_true',
    List.isEmpty_eq_false_iff, beq_iff_eq, Nat.cast_inj]
  constructor
  · intro h
    obtain ⟨log, hlog, hsome, _, hlines, hlength, rfl⟩ := h
    exact ⟨log, hlog, hsome, hlines, hlength⟩
  · intro h
    obtain ⟨log, hlog, hsome, hlines, hlength⟩ := h
    exact ⟨log, hlog, hsome, series, hlines, hlength, rfl⟩

/-- Every subject that the log is to print is a text. -/
def Readable (repository : Repository) (base tip : ObjectId) : Prop :=
  ∀ id, repository.commits.InRange base tip id → (repository.subject id).isSome = true

theorem log_eq (hbase : repository.resolve base = some b)
    (hself : repository.resolve head.digits = some head) (hread : Readable repository b head) :
    git.log base head.digits = .printed (Git.endLines ((git.range b head).map git.record)) := by
  rw [Git.log, onRange_eq hbase hself, if_pos]
  rw [List.all_eq_true]
  intro id hid
  exact hread id (((git.lists (repository.resolve_commit hbase) hself).mem_iff id).mp hid)

/-- The first reading that fails otherwise is that of the log. -/
theorem readable_of_failsOnly (hbase : repository.resolve base = some b)
    (hself : repository.resolve head.digits = some head)
    (h : FailsOnly Raised.IsSourceError (readSeries git base head.digits)) :
    Readable repository b head := by
  intro id hid
  by_contra hnone
  have hlog : git.log base head.digits = .undecodable := by
    rw [Git.log, onRange_eq hbase hself, if_neg]
    rw [List.all_eq_true]
    intro hall
    exact hnone (hall id (((git.lists (repository.resolve_commit hbase) hself).mem_iff id).mpr hid))
  rw [readSeries, hlog] at h
  obtain ⟨error, herror⟩ := h .unicodeDecodeError rfl
  cases herror

theorem failsOnly_readSeries (hbase : repository.resolve base = some b)
    (hself : repository.resolve head.digits = some head) (hread : Readable repository b head) :
    FailsOnly Raised.IsSourceError (readSeries git base head.digits) := by
  refine (failsOnly_runGit ?_).bind fun log _ => (failsOnly_check _).bind fun _ _ =>
    (failsOnly_mapM fun line _ => ?_).bind fun series _ => (failsOnly_runGit ?_).bind fun output _ =>
    FailsOnly.bind ?_ fun count _ => (failsOnly_check _).bind fun _ _ => failsOnly_ok _ series
  · rw [log_eq hbase hself hread]
    exact Output.noConfusion
  · cases readEntry line with
    | some entry => exact failsOnly_ok _ entry
    | none => exact failsOnly_raise
  · exact onRange_ne_undecodable fun ids => Output.noConfusion
  · rw [readInt]
    cases (String.ofList output).toInt? with
    | some n => exact failsOnly_ok _ n
    | none => exact failsOnly_raise

theorem failsOnly_checkSeries :
    FailsOnly Raised.IsSourceError (checkSeries git base commit series) := by
  refine (failsOnly_runGit ?_).bind fun merges _ => (failsOnly_check _).bind fun _ _ =>
    (failsOnly_check _).bind fun _ _ =>
    (failsOnly_onSourceError (failsOnly_runGit ?_) (failsOnly_ok _ _)).bind fun _ _ =>
    failsOnly_check _
  · exact onRange_ne_undecodable fun ids => Output.noConfusion
  · rw [Git.revParseParent]
    split <;> exact Output.noConfusion

/-- The merges of a range, where there are none. -/
theorem merges_eq (hbase : repository.resolve base = some b)
    (hself : repository.resolve head.digits = some head)
    (h : ∀ id ∈ git.range b head, git.isMerge id = false) :
    runGit (git.revListMerges base head.digits) = .ok [] := by
  have hnone : (git.range b head).reverse.filter git.isMerge = [] := by
    rw [List.filter_eq_nil_iff]
    intro id hid
    rw [h id (List.mem_reverse.mp hid)]
    exact Bool.false_ne_true
  rw [Git.revListMerges, onRange_eq hbase hself, hnone]
  rfl

theorem no_merges (hbase : repository.resolve base = some b)
    (hself : repository.resolve head.digits = some head)
    (h : runGit (git.revListMerges base head.digits) = .ok []) :
    ∀ id ∈ git.range b head, git.isMerge id = false := by
  intro id hid
  rw [Git.revListMerges, onRange_eq hbase hself, runGit, Except.ok.injEq] at h
  cases hmerges : (git.range b head).reverse.filter git.isMerge with
  | nil =>
    rw [List.filter_eq_nil_iff] at hmerges
    exact Bool.not_eq_true _ ▸ hmerges id (List.mem_reverse.mpr hid)
  | cons merge more =>
    -- the first merge begins with a digit, which is not stripped
    obtain ⟨c, rest, hdigits⟩ := List.exists_cons_of_ne_nil merge.isWord.1
    have hc : isSpace c = false := merge.isWord.2 c (by simp [hdigits])
    have hreturn : c ≠ '\r' := by
      intro heq
      rw [heq] at hc
      revert hc
      decide
    rw [hmerges, List.map_cons, Git.endLines, List.flatMap_cons, hdigits, List.cons_append,
      List.cons_append, ReleaseSet.universalNewlines_cons hreturn] at h
    exact absurd h (strip_ne_nil hc)

theorem revParseParent_eq_ok {revision parent : List Char}
    (h : runGit (git.revParseParent revision) = .ok parent) :
    ∃ child id, id ∈ repository.commits.parents child ∧ parent = id.digits := by
  rw [Git.revParseParent] at h
  split at h
  next id more hparents =>
    obtain ⟨child, _, hchild⟩ := Option.map_eq_some_iff.mp hparents
    rw [runGit_word id.isWord, Except.ok.injEq] at h
    exact ⟨child, id, by simp [hchild], h.symm⟩
  next => cases h

theorem checkSeries_ok {base : ObjectId} {u : Unit} (hbase : repository.resolve base.digits = some b)
    (hself : repository.resolve head.digits = some head)
    (h : checkSeries git base.digits head.digits series = .ok u) :
    (∀ id ∈ git.range b head, git.isMerge id = false) ∧
      ∃ child, base ∈ repository.commits.parents child := by
  simp only [checkSeries, bind_eq_ok, check_eq_ok, exists_const, List.isEmpty_iff, beq_iff_eq] at h
  obtain ⟨merges, hmerges, rfl, -, parent, hparent, rfl⟩ := h
  refine ⟨no_merges hbase hself hmerges, ?_⟩
  cases hrun : runGit (git.revParseParent ((series.map Entry.commit).headD [])) with
  | ok parent =>
    rw [hrun] at hparent
    obtain ⟨child, id, hid, hdigits⟩ := revParseParent_eq_ok hrun
    have heq : base.digits = id.digits := (Except.ok.inj hparent).symm.trans hdigits
    have hsame : repository.resolve base.digits = some id := by
      rw [heq]
      exact repository.parent_commit hid
    refine ⟨child, ?_⟩
    have hbaseid : base = id := by
      cases base
      cases id
      simpa using heq
    rwa [hbaseid]
  | error raised =>
    rw [hrun] at hparent
    cases raised with
    | sourceError error =>
      -- what stands for no parent is no name of an object
      have hhex := base.hex '<'
      rw [← Except.ok.inj hparent] at hhex
      exact absurd (hhex (by decide)) (by decide)
    | unicodeDecodeError => cases hparent
    | valueError => cases hparent

end Stages

section Series
variable {repository : Repository} {git : Git repository} {base head b id : ObjectId}
  {chain : List ObjectId} {value : Source}

/-- What the log's line of an entry says. -/
def Entry.line (entry : Entry) : List Char := entry.commit ++ '\t' :: entry.subject

/-- The entry of a commit. -/
def Git.entry (_ : Git repository) (id : ObjectId) : Entry :=
  ⟨id.digits, (repository.subject id).getD []⟩

theorem record_eq (id : ObjectId) : git.record id = (git.entry id).line := rfl

theorem readEntry_record (id : ObjectId) : readEntry (git.record id) = some (git.entry id) := by
  have hdigits : ∀ c ∈ id.digits, (c != '\t') = true := by
    intro c hc
    rw [bne_iff_ne]
    intro heq
    have hspace := id.isWord.2 c hc
    rw [heq] at hspace
    revert hspace
    decide
  rw [readEntry, Git.record, List.dropWhile_append_of_pos hdigits,
    List.takeWhile_append_of_pos hdigits]
  simp [Git.entry]

theorem line_of_readEntry {line : List Char} {entry : Entry} (h : readEntry line = some entry) :
    line = entry.line := by
  rw [readEntry] at h
  split at h
  next => cases h
  next c subject hdrop =>
    have hc : (c != '\t') = false := by
      have hhead := List.head?_dropWhile_not (· != '\t') line
      rw [hdrop] at hhead
      simpa using hhead
    rw [bne_eq_false_iff_eq] at hc
    rw [hc] at hdrop
    rw [← Option.some.inj h, Entry.line, ← hdrop]
    exact List.takeWhile_append_dropWhile.symm

/-- The record of the chain: what the commit is, the base, and each commit with its subject. -/
structure Records (base head : ObjectId) (chain : List ObjectId) (repository : Repository)
    (value : Source) : Prop where
  commit : value.commit = head.digits
  upstreamBaseCommit : value.upstreamBaseCommit = base.digits
  solSeriesCommits : List.Forall₂ (fun id entry => entry.commit = id.digits ∧
    repository.subject id = some entry.subject) chain value.solSeriesCommits

/-- A linear chain behind the base is recorded as it is, and anything else is a `SourceError`. -/
structure SeriesExact (git : Git repository) (base : ObjectId) : Prop where
  recorded : ∀ head chain, repository.resolve headRevision = some head →
    repository.commits.LinearChain base head chain →
    ∃ value, source git base.digits = .ok value ∧ Records base head chain repository value
  refused : (¬ ∃ head chain, repository.resolve headRevision = some head ∧
    repository.commits.LinearChain base head chain) →
    ∃ error, source git base.digits = .error (.sourceError error)

/-- No subject of the chain breaks its line, and the last ends in a character that stays. -/
structure Legible (repository : Repository) (head : ObjectId) (chain : List ObjectId) : Prop where
  oneLine : ∀ id ∈ chain, ∀ text, repository.subject id = some text →
    ∀ c ∈ text, isLineEnd c = false
  ended : ∀ text, repository.subject head = some text →
    ∃ front d, text = front ++ [d] ∧ isSpace d = false

/-- Where the log of a range is read, its subjects are texts, and those of a chain are legible. -/
def SubjectsKept (repository : Repository) (base : ObjectId) : Prop :=
  ∀ head b, repository.resolve headRevision = some head → repository.resolve base.digits = some b →
    repository.commits.Reaches head b → Readable repository b head ∧
      ∀ chain, repository.commits.LinearChain base head chain → Legible repository head chain

theorem base_commit (h : repository.commits.LinearChain base head chain) :
    repository.resolve base.digits = some base := by
  obtain ⟨oldest, _, _, hparents⟩ := h.head_parents
  have hparent : base ∈ repository.commits.parents oldest := by simp [hparents]
  exact repository.parent_commit hparent

/-- What is recorded has a chain. -/
theorem exists_chain (h : source git base.digits = .ok value) :
    ∃ head chain, repository.resolve headRevision = some head ∧
      repository.commits.LinearChain base head chain := by
  simp only [source, bind_eq_ok] at h
  obtain ⟨commit, hcommit, series, hseries, _, hcheck, -⟩ := h
  obtain ⟨head, b, hhead, hb, hreach, rfl⟩ := sourceCommit_eq_ok.mp hcommit
  have hself := repository.resolve_commit hhead
  obtain ⟨log, -, hsome, hlines, hlength⟩ := (readSeries_eq_ok hb hself).mp hseries
  obtain ⟨hmerges, child, hchild⟩ := checkSeries_ok hb hself hcheck
  rw [repository.parent_commit hchild, Option.some.injEq] at hb
  subst hb
  have hlists := git.lists (repository.parent_commit hchild) hself
  have hproper : head ≠ base := by
    intro heq
    have hpositive := List.length_pos_of_ne_nil hsome
    rw [hlines.length_eq, hlength] at hpositive
    obtain ⟨id, hid⟩ := List.exists_mem_of_length_pos hpositive
    obtain ⟨hreached, hfresh⟩ := (hlists.mem_iff id).mp hid
    rw [heq] at hreached
    exact hfresh hreached
  have hparents : ∀ id, repository.commits.InRange base head id →
      (repository.commits.parents id).length ≤ 1 := by
    intro id hid
    have hmerge := hmerges id ((hlists.mem_iff id).mpr hid)
    simp only [Git.isMerge, decide_eq_false_iff_not] at hmerge
    omega
  obtain ⟨chain, hchain⟩ := Graph.exists_linearChain_iff.mpr ⟨hreach, hproper, hparents⟩
  exact ⟨head, chain, hhead, hchain⟩

theorem reached_commit (hself : repository.resolve head.digits = some head)
    (h : repository.commits.Reaches head id) : repository.resolve id.digits = some id := by
  cases Relation.ReflTransGen.cases_tail h with
  | inl heq =>
    rw [heq]
    exact hself
  | inr hstep =>
    obtain ⟨child, _, hparent⟩ := hstep
    exact repository.parent_commit hparent

theorem subject_of_readable (hchain : repository.commits.LinearChain base head chain)
    (hread : Readable repository base head) (hid : id ∈ chain) :
    repository.subject id = some (git.entry id).subject := by
  obtain ⟨text, htext⟩ := Option.isSome_iff_exists.mp (hread id (hchain.mem_iff.mp hid))
  rw [Git.entry, htext, Option.getD_some]

theorem record_oneLine (h : ∀ c ∈ (git.entry id).subject, isLineEnd c = false) :
    ∀ c ∈ git.record id, isLineEnd c = false := by
  intro c hc
  rw [record_eq, Entry.line, List.mem_append, List.mem_cons] at hc
  rcases hc with hdigit | rfl | hin
  · exact not_isLineEnd_of_not_isSpace (id.isWord.2 c hdigit)
  · decide
  · exact h c hin

theorem record_start (rest : List Char) :
    ∃ c more, git.record id ++ rest = c :: more ∧ isSpace c = false := by
  obtain ⟨c, more, hdigits⟩ := List.exists_cons_of_ne_nil id.isWord.1
  refine ⟨c, more ++ '\t' :: (git.entry id).subject ++ rest, ?_, id.isWord.2 c (by simp [hdigits])⟩
  rw [record_eq, Entry.line, Git.entry, hdigits]
  rfl

/-- The log of a chain with legible subjects splits into the lines of its commits. -/
theorem log_of_legible (hhead : repository.resolve headRevision = some head)
    (hchain : repository.commits.LinearChain base head chain)
    (hread : Readable repository base head) (hlegible : Legible repository head chain) :
    ∃ log, runGit (git.log base.digits head.digits) = .ok log ∧
      splitLines log = chain.map git.record := by
  have hself := repository.resolve_commit hhead
  have hbase := base_commit hchain
  obtain ⟨init, rfl⟩ := List.getLast?_eq_some_iff.mp hchain.getLast
  rw [log_eq hbase hself hread, hchain.eq_of_lists (git.lists hbase hself), List.map_append,
    List.map_singleton]
  refine runGit_lines (fun line hline => ?_) ?_ ?_
  · rw [← List.map_singleton, ← List.map_append, List.mem_map] at hline
    obtain ⟨id, hid, rfl⟩ := hline
    exact record_oneLine (hlegible.oneLine id hid _ (subject_of_readable hchain hread hid))
  · cases init with
    | nil =>
      have hstart : ∃ c rest, git.record head ++ [] = c :: rest ∧ isSpace c = false := record_start []
      rwa [List.append_nil] at hstart
    | cons first others =>
      rw [List.map_cons, Git.endLines, List.flatMap_cons, List.append_assoc, List.append_assoc]
      exact record_start _
  · have hin : head ∈ init ++ [head] := by simp
    obtain ⟨front, d, hfront, hd⟩ := hlegible.ended _ (subject_of_readable hchain hread hin)
    refine ⟨head.digits ++ '\t' :: front, d, ?_, hd⟩
    rw [record_eq, Entry.line, hfront, List.append_assoc, List.cons_append]
    rfl

theorem checkSeries_of_chain (hhead : repository.resolve headRevision = some head)
    (hchain : repository.commits.LinearChain base head chain) :
    checkSeries git base.digits head.digits (chain.map git.entry) = .ok () := by
  have hself := repository.resolve_commit hhead
  have hbase := base_commit hchain
  obtain ⟨oldest, more, hcons, hparents⟩ := hchain.head_parents
  obtain ⟨init, hinit⟩ := List.getLast?_eq_some_iff.mp hchain.getLast
  have hmerges : ∀ id ∈ git.range base head, git.isMerge id = false := by
    intro id hid
    rw [hchain.eq_of_lists (git.lists hbase hself)] at hid
    simp [Git.isMerge, hchain.one_parent hid]
  have hparent : runGit (git.revParseParent oldest.digits) = .ok base.digits := by
    have hin : oldest ∈ chain := by simp [hcons]
    rw [Git.revParseParent, reached_commit hself (hchain.mem_iff.mp hin).1, Option.map_some, hparents]
    exact runGit_word base.isWord
  have hlast : ((chain.map git.entry).map Entry.commit).getLastD [] = head.digits := by
    rw [hinit]
    simp [Git.entry]
  have hfirst : ((chain.map git.entry).map Entry.commit).headD [] = oldest.digits := by
    rw [hcons]
    rfl
  simp only [checkSeries, merges_eq hbase hself hmerges, hlast, hfirst, hparent, onSourceError,
    ok_bind, List.isEmpty_nil, beq_self_eq_true, check, if_true]

theorem logTime_eq (hself : repository.resolve head.digits = some head) :
    runGit (git.logTime head.digits) = .ok (Nat.repr (repository.committed head)).toList := by
  rw [Git.logTime, hself]
  exact runGit_word (isWord_repr _)

/-- A chain with legible subjects is recorded. -/
theorem source_of_legible (hhead : repository.resolve headRevision = some head)
    (hchain : repository.commits.LinearChain base head chain)
    (hread : Readable repository base head) (hlegible : Legible repository head chain) :
    ∃ value, source git base.digits = .ok value ∧ Records base head chain repository value := by
  have hself := repository.resolve_commit hhead
  have hbase := base_commit hchain
  have hcommit : sourceCommit git base.digits = .ok head.digits :=
    sourceCommit_eq_ok.mpr ⟨head, base, hhead, hbase, hchain.reaches_base, rfl⟩
  obtain ⟨log, hrun, hlines⟩ := log_of_legible hhead hchain hread hlegible
  have hseries : readSeries git base.digits head.digits = .ok (chain.map git.entry) := by
    refine (readSeries_eq_ok hbase hself).mpr ⟨log, hrun, ?_, ?_, ?_⟩
    · obtain ⟨oldest, more, hcons, _⟩ := hchain.head_parents
      rw [hlines, hcons]
      exact List.cons_ne_nil _ _
    · rw [hlines, List.forall₂_map_left_iff, List.forall₂_map_right_iff, List.forall₂_same]
      exact fun id _ => readEntry_record id
    · rw [hchain.eq_of_lists (git.lists hbase hself), List.length_map]
  refine ⟨⟨head.digits, base.digits, chain.map git.entry, repository.committed head⟩, ?_, rfl, rfl, ?_⟩
  · simp only [source, hcommit, hseries, checkSeries_of_chain hhead hchain, logTime_eq hself,
      readInt_repr, ok_bind, pure_eq_ok]
  · rw [List.forall₂_map_right_iff, List.forall₂_same]
    exact fun id hid => ⟨rfl, subject_of_readable hchain hread hid⟩

/-- Where the series is that of the chain, the log splits into the lines of its commits. -/
theorem lines_of_records {lines : List (List Char)} {series : List Entry}
    (hlines : List.Forall₂ (fun line entry => readEntry line = some entry) lines series)
    (hseries : List.Forall₂ (fun id entry => entry.commit = id.digits ∧
      repository.subject id = some entry.subject) chain series) :
    lines = chain.map git.record := by
  have hread : List.Forall₂ Eq lines (series.map Entry.line) :=
    List.forall₂_map_right_iff.mpr (hlines.imp fun _ _ => line_of_readEntry)
  have hentries : List.Forall₂ Eq (chain.map git.entry) series := by
    refine List.forall₂_map_left_iff.mpr (hseries.imp fun id entry h => ?_)
    rw [Git.entry, h.2, ← h.1, Option.getD_some]
  rw [List.forall₂_eq_eq_eq] at hread hentries
  rw [hread, ← hentries, List.map_map]
  rfl

/-- A chain that is recorded as it is has legible subjects. -/
theorem legible_of_records (hhead : repository.resolve headRevision = some head)
    (hchain : repository.commits.LinearChain base head chain)
    (hread : Readable repository base head) (h : source git base.digits = .ok value)
    (hrecords : Records base head chain repository value) : Legible repository head chain := by
  have hself := repository.resolve_commit hhead
  have hbase := base_commit hchain
  simp only [source, bind_eq_ok] at h
  obtain ⟨commit, hcommit, series, hseries, _, -, output, -, epoch, -, hvalue⟩ := h
  obtain ⟨_, _, htip, -, -, rfl⟩ := sourceCommit_eq_ok.mp hcommit
  obtain rfl := Option.some.inj (htip.symm.trans hhead)
  obtain rfl := Except.ok.inj hvalue
  obtain ⟨log, hrun, -, hlines, -⟩ := (readSeries_eq_ok hbase hself).mp hseries
  have hsplit : splitLines log = chain.map git.record :=
    lines_of_records hlines hrecords.solSeriesCommits
  have hline (id : ObjectId) (hid : id ∈ chain) : git.record id ∈ splitLines log := by
    rw [hsplit]
    exact List.mem_map_of_mem hid
  refine ⟨fun id hid text htext c hc => ?_, fun text htext => ?_⟩
  · refine not_isLineEnd_of_mem (hline id hid) c ?_
    simp [Git.record, htext, hc]
  · obtain ⟨init, hinit⟩ := List.getLast?_eq_some_iff.mp hchain.getLast
    rw [log_eq hbase hself hread, runGit, Except.ok.injEq] at hrun
    rw [← hrun, hinit, List.map_append, List.map_singleton] at hsplit
    obtain ⟨front, d, hfront, hd⟩ := last_of_stripped hsplit
    rw [Git.record, htext, Option.getD_some] at hfront
    rcases List.eq_nil_or_concat text with rfl | ⟨before, last, rfl⟩
    · -- an empty subject leaves the tab at the end
      rw [← (List.append_singleton_inj.mp hfront).2] at hd
      exact absurd hd (by decide)
    · rw [List.concat_eq_append, ← List.cons_append, ← List.append_assoc] at hfront
      rw [← (List.append_singleton_inj.mp hfront).2] at hd
      exact ⟨before, last, List.concat_eq_append, hd⟩

/-- What fails of a readable range fails with a `SourceError`. -/
theorem failsOnly_source (h : SubjectsKept repository base) :
    FailsOnly Raised.IsSourceError (source git base.digits) := by
  refine failsOnly_sourceCommit.bind fun commit hcommit => ?_
  obtain ⟨head, b, hhead, hb, hreach, rfl⟩ := sourceCommit_eq_ok.mp hcommit
  have hself := repository.resolve_commit hhead
  refine (failsOnly_readSeries hb hself (h head b hhead hb hreach).1).bind fun series _ =>
    failsOnly_checkSeries.bind fun _ _ => ?_
  simp only [logTime_eq hself, readInt_repr, ok_bind]
  exact failsOnly_ok _ _

/-- The recorded series is exact if and only if the subjects that the log prints are kept. -/
theorem seriesExact_iff (git : Git repository) (base : ObjectId) :
    SeriesExact git base ↔ SubjectsKept repository base := by
  constructor
  · intro hexact head b hhead hb hreach
    have hself := repository.resolve_commit hhead
    have hfails : FailsOnly Raised.IsSourceError (readSeries git base.digits head.digits) := by
      intro raised hraised
      have hcommit : sourceCommit git base.digits = .ok head.digits :=
        sourceCommit_eq_ok.mpr ⟨head, b, hhead, hb, hreach, rfl⟩
      have hsource : source git base.digits = .error raised := by
        rw [source, hcommit, ok_bind, hraised]
        rfl
      by_cases hsome : ∃ head chain, repository.resolve headRevision = some head ∧
          repository.commits.LinearChain base head chain
      · obtain ⟨tip, chain, htip, hchain⟩ := hsome
        obtain ⟨value, hvalue, _⟩ := hexact.recorded tip chain htip hchain
        rw [hsource] at hvalue
        cases hvalue
      · obtain ⟨error, herror⟩ := hexact.refused hsome
        exact ⟨error, Except.error.inj (hsource.symm.trans herror)⟩
    have hread := readable_of_failsOnly hb hself hfails
    refine ⟨hread, fun chain hchain => ?_⟩
    rw [base_commit hchain, Option.some.injEq] at hb
    subst hb
    obtain ⟨value, hvalue, hrecords⟩ := hexact.recorded head chain hhead hchain
    exact legible_of_records hhead hchain hread hvalue hrecords
  · intro hkept
    refine ⟨fun head chain hhead hchain => ?_, fun hnone => ?_⟩
    · obtain ⟨hread, hlegible⟩ := hkept head base hhead (base_commit hchain) hchain.reaches_base
      exact source_of_legible hhead hchain hread (hlegible chain hchain)
    · cases hsource : source git base.digits with
      | ok value => exact absurd (exists_chain hsource) hnone
      | error raised =>
        obtain ⟨error, rfl⟩ := failsOnly_source hkept raised hsource
        exact ⟨error, rfl⟩

end Series

section Sample

def sampleBase : ObjectId := ⟨List.replicate 40 '2', rfl, by simp [isHexDigit]⟩

def sampleHead : ObjectId := ⟨List.replicate 40 '1', rfl, by simp [isHexDigit]⟩

theorem sampleHead_ne : sampleHead ≠ sampleBase := by decide

def sampleParents (id : ObjectId) : List ObjectId := if id = sampleHead then [sampleBase] else []

theorem mem_sampleParents {parent child : ObjectId} :
    parent ∈ sampleParents child ↔ child = sampleHead ∧ parent = sampleBase := by
  rw [sampleParents]
  split <;> simp_all

/-- One commit on the base. -/
def sampleCommits : Graph ObjectId where
  parents := sampleParents
  wellFounded := by
    have hnone : Acc (fun parent child => parent ∈ sampleParents child) sampleBase := by
      refine ⟨_, fun parent h => ?_⟩
      exact absurd (mem_sampleParents.mp h).1.symm sampleHead_ne
    refine ⟨fun child => ⟨_, fun parent h => ?_⟩⟩
    rw [(mem_sampleParents.mp h).2]
    exact hnone

theorem sampleCommits_reaches {x y : ObjectId} :
    sampleCommits.Reaches x y ↔ y = x ∨ (x = sampleHead ∧ y = sampleBase) := by
  constructor
  · intro h
    cases Relation.ReflTransGen.cases_tail h with
    | inl heq => exact .inl heq
    | inr hstep =>
      obtain ⟨child, hchild, hparent⟩ := hstep
      obtain ⟨rfl, rfl⟩ := mem_sampleParents.mp hparent
      cases Relation.ReflTransGen.cases_tail hchild with
      | inl heq => exact .inr ⟨heq.symm, rfl⟩
      | inr hstep =>
        obtain ⟨_, _, hbetween⟩ := hstep
        exact absurd (mem_sampleParents.mp hbetween).2 sampleHead_ne
  · intro h
    rcases h with rfl | ⟨rfl, rfl⟩
    · exact Relation.ReflTransGen.refl
    · exact Graph.reaches_parent (mem_sampleParents.mpr ⟨rfl, rfl⟩)

def sampleResolve (revision : List Char) : Option ObjectId :=
  if revision = headRevision ∨ revision = sampleHead.digits then some sampleHead
  else if revision = sampleBase.digits then some sampleBase
  else none

theorem sampleResolve_cases {revision : List Char} {id : ObjectId}
    (h : sampleResolve revision = some id) : id = sampleHead ∨ id = sampleBase := by
  rw [sampleResolve] at h
  split at h
  · exact .inl (Option.some.inj h).symm
  · split at h
    · exact .inr (Option.some.inj h).symm
    · cases h

/-- The subject of the commit holds a character that ends a line for Python and not for git. -/
def sampleSubject : List Char := "Fix\u2028the parser".toList

def sampleRepository : Repository where
  commits := sampleCommits
  resolve := sampleResolve
  resolve_commit := by
    intro revision id h
    cases sampleResolve_cases h with
    | inl heq =>
      rw [heq]
      decide
    | inr heq =>
      rw [heq]
      decide
  parent_commit := by
    intro child parent h
    rw [(mem_sampleParents.mp h).2]
    decide
  subject := fun _ => some sampleSubject
  subject_line := by
    intro id text h
    rw [← Option.some.inj h]
    decide
  committed := fun _ => 0

def sampleGit : Git sampleRepository where
  isAncestor base tip := base = tip || (tip = sampleHead && base = sampleBase)
  range base tip := if tip = sampleHead ∧ base = sampleBase then [sampleHead] else []
  isAncestor_iff := by
    intro base tip _ _
    simp only [Bool.or_eq_true, Bool.and_eq_true, decide_eq_true_eq]
    exact sampleCommits_reaches.symm
  lists := by
    intro base tip hbase htip
    have hne := sampleHead_ne
    refine ⟨?_, fun node => ?_, fun before node after hlisted hnode => ?_⟩
    · split <;> simp
    · simp only [Graph.InRange, sampleRepository, sampleCommits_reaches]
      cases sampleResolve_cases hbase with
      | inl hb => cases sampleResolve_cases htip <;> grind
      | inr hb => cases sampleResolve_cases htip <;> grind
    · split at hlisted
      next hends =>
        cases before with
        | nil => exact absurd ((List.cons.inj hlisted).1.symm.trans hends.1.symm) hnode
        | cons first more =>
          have hrest := (List.cons.inj hlisted).2
          exact absurd hrest.symm (by simp)
      next => exact absurd hlisted.symm (by simp)

/-- The commit is alone on the base, and its record is refused. -/
theorem line_separator_in_subject : ¬ SeriesExact sampleGit sampleBase := by
  intro hexact
  have hchain : sampleCommits.LinearChain sampleBase sampleHead [sampleHead] := .first rfl
  obtain ⟨value, hvalue, _⟩ := hexact.recorded sampleHead _ rfl hchain
  have hsource : source sampleGit sampleBase.digits = .error (.sourceError
      (.invalidRecord sampleBase.digits sampleHead.digits)) := by
    rfl
  rw [hsource] at hvalue
  cases hvalue

end Sample

end AttestationSdk.SourceSeries
