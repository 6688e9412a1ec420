import Mathlib.Data.List.Forall2
import AttestationSdk.DependencyDeclarations

/-! Comments and the declarations that `generate-dependencies.py` finds: which comments it reads past,
and what it makes of a number sign within quotes. -/
namespace AttestationSdk.Dependencies
open ReleaseSet (isSpace)

/-- What a character of a CMake text stands in. -/
inductive Mode
  | plain
  | quoted
  | escaped
  | comment
  deriving Repr, DecidableEq

def Mode.next : Mode → Char → Mode
  | .plain, c => if c = '#' then .comment else if c = '"' then .quoted else .plain
  | .quoted, c => if c = '\\' then .escaped else if c = '"' then .plain else .quoted
  | .escaped, _ => .quoted
  | .comment, c => if c = '\n' then .plain else .comment

/-- The text without its line comments. -/
def stripComments : Mode → List Char → List Char
  | _, [] => []
  | m, c :: rest =>
    if m.next c = .comment then stripComments .comment rest else c :: stripComments (m.next c) rest

/-- The loop reads no parenthesis and no quotation mark of a comment. -/
def undisturbed : Mode → LoopState → List Char → Bool
  | _, _, [] => true
  | m, s, c :: rest =>
    (m.next c ≠ .comment || c ∉ ['(', ')', '"']) &&
      ((s.read c).depth = 0 || undisturbed (m.next c) (s.read c) rest)

/-- The mode behind the part of a text that a match covers. -/
def modeBehind (m : Mode) (text after : List Char) : Mode :=
  (text.take (text.length - after.length)).foldl Mode.next m

/-- No declaration begins in a comment or has one before its parenthesis, and none disturbs the loop
behind it. -/
def neutralAt (m : Mode) (text : List Char) : Bool :=
  match matchStart text with
  | some (_, after) => m ≠ .comment && undisturbed (modeBehind m text after) {} after
  | none => m = .comment || (matchStart (stripComments m text)).isNone

/-- The comments of a text are neutral at each of its places. -/
def neutral : Mode → List Char → Bool
  | _, [] => true
  | m, c :: rest => neutralAt m (c :: rest) && neutral (m.next c) rest

section Matches
variable {m : Mode} {text after rest spaces : List Char} {kind : String} {c : Char}

theorem stripComments_cons_comment (h : m.next c = .comment) :
    stripComments m (c :: rest) = stripComments .comment rest := by
  rw [stripComments, if_pos h]

theorem stripComments_cons (h : m.next c ≠ .comment) :
    stripComments m (c :: rest) = c :: stripComments (m.next c) rest := by
  rw [stripComments, if_neg h]

theorem next_ne_comment (hm : m ≠ .comment) (hc : c ≠ '#') : m.next c ≠ .comment := by
  cases m with
  | plain =>
    rw [Mode.next, if_neg hc]
    split_ifs <;> exact nofun
  | quoted =>
    rw [Mode.next]
    split_ifs <;> exact nofun
  | escaped => exact nofun
  | comment => exact absurd rfl hm

theorem foldl_next_ne_comment {before : List Char} (hm : m ≠ .comment)
    (hbefore : ∀ c ∈ before, c ≠ '#') : before.foldl Mode.next m ≠ .comment := by
  induction before generalizing m with
  | nil => exact hm
  | cons c before ih =>
    exact ih (next_ne_comment hm (hbefore c List.mem_cons_self)) fun x hx =>
      hbefore x (List.mem_cons_of_mem c hx)

/-- What holds no number sign stays. -/
theorem stripComments_append {before : List Char} (hm : m ≠ .comment)
    (hbefore : ∀ c ∈ before, c ≠ '#') :
    stripComments m (before ++ text) = before ++ stripComments (before.foldl Mode.next m) text := by
  induction before generalizing m with
  | nil => rfl
  | cons c before ih =>
    have hnext := next_ne_comment hm (hbefore c List.mem_cons_self)
    rw [List.cons_append, stripComments_cons hnext,
      ih hnext fun x hx => hbefore x (List.mem_cons_of_mem c hx)]
    rfl

theorem dropWhile_spaces (hspaces : ∀ c ∈ spaces, isSpace c = true) :
    (spaces ++ '(' :: after).dropWhile isSpace = '(' :: after := by
  rw [List.dropWhile_append_of_pos hspaces]
  exact List.dropWhile_cons_of_neg (by decide)

theorem matchKind_iff {k : String} : matchKind text kind = some (k, after) ↔ k = kind ∧
    ∃ spaces, (∀ c ∈ spaces, isSpace c = true) ∧ text = kind.toList ++ (spaces ++ '(' :: after) := by
  rw [matchKind]
  constructor
  · intro h
    split_ifs at h with hstart
    obtain ⟨behind, rfl⟩ := List.isPrefixOf_iff_prefix.mp hstart
    rw [List.drop_left] at h
    split at h
    · next found hbehind =>
      obtain ⟨rfl, rfl⟩ := Prod.mk.inj (Option.some.inj h)
      refine ⟨rfl, behind.takeWhile isSpace, ?_, ?_⟩
      · exact List.all_eq_true.mp List.all_takeWhile
      · rw [← hbehind, List.takeWhile_append_dropWhile]
    · cases h
  · intro h
    obtain ⟨rfl, spaces, hspaces, rfl⟩ := h
    rw [if_pos (List.isPrefixOf_iff_prefix.mpr (List.prefix_append _ _)), List.drop_left,
      dropWhile_spaces hspaces]
    rfl

/-- The names begin with letters of their own. -/
theorem kinds_cases (h : kind ∈ kinds) :
    (kind = "ExternalProject_Add" ∧ kind.toList.head? = some 'E') ∨
      (kind = "FetchContent_Declare" ∧ kind.toList.head? = some 'F') := by
  rw [kinds, List.mem_cons, List.mem_singleton] at h
  cases h with
  | inl heq => exact .inl ⟨heq, by rw [heq]; decide⟩
  | inr heq => exact .inr ⟨heq, by rw [heq]; decide⟩

/-- A match is a name, spaces and a parenthesis. -/
theorem matchStart_iff : matchStart text = some (kind, after) ↔
    kind ∈ kinds ∧ ∃ spaces, (∀ c ∈ spaces, isSpace c = true) ∧
      text = kind.toList ++ (spaces ++ '(' :: after) := by
  rw [matchStart]
  constructor
  · intro h
    obtain ⟨k, hk, hmatch⟩ := List.exists_of_findSome?_eq_some h
    obtain ⟨rfl, hform⟩ := matchKind_iff.mp hmatch
    exact ⟨hk, hform⟩
  · intro h
    obtain ⟨hk, hform⟩ := h
    have hmatch : matchKind text kind = some (kind, after) := matchKind_iff.mpr ⟨rfl, hform⟩
    cases kinds_cases hk with
    | inl hfirst =>
      rw [hfirst.1] at hmatch ⊢
      rw [kinds, List.findSome?_cons, hmatch]
    | inr hsecond =>
      have hnone : matchKind text "ExternalProject_Add" = none := by
        rw [matchKind, if_neg]
        intro hstart
        obtain ⟨behind, hbehind⟩ := List.isPrefixOf_iff_prefix.mp hstart
        obtain ⟨spaces, _, hform⟩ := hform
        have hhead := congrArg List.head? (hbehind.trans hform)
        have hletter : "ExternalProject_Add".toList.head? = some 'E' := by decide
        rw [List.head?_append, List.head?_append, hsecond.2, hletter, Option.some_or,
          Option.some_or, Option.some.injEq] at hhead
        exact absurd hhead (by decide)
      rw [hsecond.1] at hmatch ⊢
      rw [kinds, List.findSome?_cons, hnone, List.findSome?_cons, hmatch]

theorem matchStart_head (h : matchStart (c :: rest) = some (kind, after)) : c = 'E' ∨ c = 'F' := by
  obtain ⟨hkind, spaces, _, hform⟩ := matchStart_iff.mp h
  have hhead := congrArg List.head? hform
  rw [List.head?_append, List.head?_cons] at hhead
  cases kinds_cases hkind with
  | inl hfirst =>
    rw [hfirst.2, Option.some_or] at hhead
    exact .inl (Option.some.inj hhead)
  | inr hsecond =>
    rw [hsecond.2, Option.some_or] at hhead
    exact .inr (Option.some.inj hhead)

/-- What a match covers: a part of the text without a number sign. -/
theorem matchStart_covers (h : matchStart text = some (kind, after)) :
    ∃ covered, text = covered ++ after ∧ (∀ c ∈ covered, c ≠ '#') ∧ covered ≠ [] ∧
      ∀ behind, matchStart (covered ++ behind) = some (kind, behind) := by
  obtain ⟨hkind, spaces, hspaces, rfl⟩ := matchStart_iff.mp h
  refine ⟨kind.toList ++ (spaces ++ ['(']), by simp, fun c hc => ?_, by simp, fun behind => ?_⟩
  · have hname : kind.toList.all (· ≠ '#') = true := by
      cases kinds_cases hkind with
      | inl hfirst => rw [hfirst.1]; decide
      | inr hsecond => rw [hsecond.1]; decide
    rw [List.mem_append, List.mem_append, List.mem_singleton] at hc
    rcases hc with hin | hin | hin
    · exact of_decide_eq_true (List.all_eq_true.mp hname c hin)
    · intro heq
      have hspace := hspaces c hin
      rw [heq] at hspace
      exact absurd hspace (by decide)
    · rw [hin]
      decide
  · exact matchStart_iff.mpr ⟨hkind, spaces, hspaces, by simp⟩

end Matches

/-- A match of a text and one of the text without its comments. -/
def SameStart (start stripped : String × List Char) : Prop :=
  start.1 = stripped.1 ∧ ∃ m : Mode, m ≠ .comment ∧ undisturbed m {} start.2 = true ∧
    stripped.2 = stripComments m start.2

/-- Where no declaration starts, none does without the comments. -/
theorem matchStart_stripComments_none {m : Mode} {c : Char} {rest : List Char}
    (hcomment : m.next c ≠ .comment) (hhere : neutralAt m (c :: rest) = true)
    (hmatch : matchStart (c :: rest) = none) :
    matchStart (stripComments m (c :: rest)) = none := by
  by_cases hm : m = .comment
  · -- the character that ends a comment starts no declaration
    cases hstart : matchStart (stripComments m (c :: rest)) with
    | none => rfl
    | some found =>
      rw [stripComments_cons hcomment] at hstart
      rw [hm, Mode.next] at hcomment
      have hline : c = '\n' := by
        by_contra hother
        exact hcomment (if_neg hother)
      have hletter := matchStart_head hstart
      rw [hline] at hletter
      exact absurd hletter (by decide)
  · rw [neutralAt, hmatch, Bool.or_eq_true, decide_eq_true_eq, Option.isNone_iff_eq_none] at hhere
    exact hhere.resolve_left hm

/-- Where the comments are neutral, they change none of the matches. -/
theorem starts_strip {m : Mode} {text : List Char} {skip : Nat} (h : neutral m text = true)
    (hskip : ∀ c ∈ text.take skip, c ≠ '#') (hmode : 0 < skip → m ≠ .comment) :
    List.Forall₂ SameStart (starts skip text) (starts skip (stripComments m text)) := by
  induction text generalizing m skip with
  | nil =>
    rw [stripComments]
    cases skip <;> exact .nil
  | cons c rest ih =>
    rw [neutral, Bool.and_eq_true] at h
    obtain ⟨hhere, hrest⟩ := h
    cases skip with
    | succ skip =>
      have hnext := next_ne_comment (hmode skip.succ_pos) (hskip c (by simp))
      rw [stripComments_cons hnext]
      exact ih hrest (fun x hx => hskip x (by simp [hx])) fun _ => hnext
    | zero =>
      by_cases hcomment : m.next c = .comment
      · rw [stripComments_cons_comment hcomment]
        cases hmatch : matchStart (c :: rest) with
        | some found =>
          rw [neutralAt, hmatch, Bool.and_eq_true, decide_eq_true_eq] at hhere
          have hc : c ≠ '#' := by
            cases matchStart_head hmatch with
            | inl heq => rw [heq]; decide
            | inr heq => rw [heq]; decide
          exact absurd hcomment (next_ne_comment hhere.1 hc)
        | none =>
          rw [starts, hmatch]
          rw [hcomment] at hrest
          exact ih hrest (by simp) (by simp)
      · cases hmatch : matchStart (c :: rest) with
        | some found =>
          obtain ⟨kind, after⟩ := found
          rw [neutralAt, hmatch, Bool.and_eq_true, decide_eq_true_eq] at hhere
          obtain ⟨hm, hundisturbed⟩ := hhere
          obtain ⟨covered, hform, hsigns, hsome, hbehind⟩ := matchStart_covers hmatch
          obtain ⟨x, more, rfl⟩ := List.exists_cons_of_ne_nil hsome
          rw [List.cons_append] at hform
          obtain ⟨rfl, rfl⟩ := List.cons.inj hform
          have hstrip : stripComments m (c :: (more ++ after)) =
              c :: (more ++ stripComments ((c :: more).foldl Mode.next m) after) :=
            stripComments_append hm hsigns
          have hmore : stripComments (m.next c) (more ++ after) =
              more ++ stripComments (more.foldl Mode.next (m.next c)) after :=
            stripComments_append (next_ne_comment hm (hsigns c List.mem_cons_self))
              fun x hx => hsigns x (List.mem_cons_of_mem c hx)
          have hmode : modeBehind m (c :: (more ++ after)) after =
              (c :: more).foldl Mode.next m := by
            rw [modeBehind, ← List.cons_append, List.length_append, Nat.add_sub_cancel,
              List.take_left]
          have hsame := hbehind (stripComments ((c :: more).foldl Mode.next m) after)
          have hfollow : List.Forall₂ SameStart (starts more.length (more ++ after))
              (starts more.length (stripComments (m.next c) (more ++ after))) := by
            refine ih hrest (fun x hx => ?_) fun _ => hcomment
            rw [List.take_left] at hx
            exact hsigns x (List.mem_cons_of_mem c hx)
          rw [hmore] at hfollow
          rw [List.cons_append] at hsame
          rw [hstrip, starts, hmatch, starts, hsame]
          simp only [List.length_append, Nat.add_sub_cancel]
          rw [hmode] at hundisturbed
          exact .cons ⟨rfl, _, foldl_next_ne_comment hm hsigns, hundisturbed, rfl⟩ hfollow
        | none =>
          have hnone := matchStart_stripComments_none hcomment hhere hmatch
          rw [stripComments_cons hcomment] at hnone ⊢
          rw [starts, hmatch, starts, hnone]
          exact ih hrest (by simp) (by simp)

section Bodies
variable {m : Mode} {s s' : LoopState} {b b' : Bool} {c : Char} {text rest : List Char}

/-- The loop is at the same depth with and without the comments, and what is cut out of the body
differs at most within a comment. -/
structure Abreast (m : Mode) (b b' : Bool) (s s' : LoopState) : Prop where
  depth : s.depth = s'.depth
  quoted : s.quoted = s'.quoted
  inside : s.depth ≠ 0
  same : m ≠ .comment → s.escaped = s'.escaped ∧ b = b'
  dropped : m = .comment → b = true

theorem read_other (h : c ∉ ['(', ')', '"']) :
    (s.read c).depth = s.depth ∧ (s.read c).quoted = s.quoted := by
  simp only [List.mem_cons, List.not_mem_nil, or_false, not_or] at h
  rw [LoopState.read, if_neg h.2.2]
  split_ifs with _ _ hopen hclose
  · exact ⟨rfl, rfl⟩
  · exact ⟨rfl, rfl⟩
  · exact absurd hopen.2 h.1
  · exact absurd hclose.2 h.2.1
  · exact ⟨rfl, rfl⟩

theorem read_newline : s.read '\n' = { s with escaped := false } := by
  rw [LoopState.read]
  cases hescaped : s.escaped with
  | true => rfl
  | false =>
    rw [if_neg Bool.false_ne_true, if_neg (by simp), if_neg (by decide), if_neg (by simp),
      if_neg (by simp), ← hescaped]

/-- What a character of a body leaves of it. -/
theorem subComments_cons (b : Bool) (c : Char) : ∃ (kept : List Char) (b₁ : Bool),
    ∀ body, subComments b (c :: body) = kept ++ subComments b₁ body := by
  cases b with
  | false =>
    by_cases hsign : c = '#'
    · exact ⟨[], true, fun body => by rw [subComments, if_pos hsign, List.nil_append]⟩
    · exact ⟨[c], false, fun body => by rw [subComments, if_neg hsign, List.singleton_append]⟩
  | true =>
    by_cases hline : c = '\n'
    · exact ⟨[c], false, fun body => by rw [subComments, if_pos hline, List.singleton_append]⟩
    · exact ⟨[], true, fun body => by rw [subComments, if_neg hline, List.nil_append]⟩

/-- A character of a comment is cut out, and so is what follows it. -/
theorem subComments_comment (hc : m.next c = .comment) (hb : m = .comment → b = true)
    (body : List Char) : subComments b (c :: body) = subComments true body := by
  cases m with
  | plain =>
    have hsign : c = '#' := by
      by_contra hother
      exact next_ne_comment (by decide : Mode.plain ≠ .comment) hother hc
    cases b with
    | false => rw [subComments, if_pos hsign]
    | true => rw [subComments, if_neg (by rw [hsign]; decide)]
  | quoted =>
    rw [Mode.next] at hc
    split_ifs at hc
  | escaped => cases hc
  | comment =>
    rw [Mode.next] at hc
    split_ifs at hc with hline
    rw [hb rfl, subComments, if_neg hline]

theorem bodyFrom_cons {kept : List Char} {b₁ : Bool} (hdepth : (s.read c).depth ≠ 0)
    (hkept : ∀ body, subComments b (c :: body) = kept ++ subComments b₁ body) :
    (bodyFrom s (c :: rest)).map (subComments b) =
      ((bodyFrom (s.read c) rest).map (subComments b₁)).map (kept ++ ·) := by
  rw [bodyFrom, if_neg hdepth, Option.map_map, Option.map_map]
  exact congrArg (fun f => Option.map f (bodyFrom (s.read c) rest)) (funext hkept)

/-- Comments that do not disturb the loop leave the body as it is without them. -/
theorem bodyFrom_strip (h : undisturbed m s text = true) (habreast : Abreast m b b' s s') :
    (bodyFrom s text).map (subComments b) =
      (bodyFrom s' (stripComments m text)).map (subComments b') := by
  induction text generalizing m s s' b b' with
  | nil => rfl
  | cons c rest ih =>
    rw [undisturbed, Bool.and_eq_true, Bool.or_eq_true, Bool.or_eq_true, decide_eq_true_eq,
      decide_eq_true_eq, decide_eq_true_eq] at h
    obtain ⟨hbrackets, hrest⟩ := h
    by_cases hcomment : m.next c = .comment
    · have hread : (s.read c).depth = s.depth ∧ (s.read c).quoted = s.quoted :=
        read_other (hbrackets.resolve_left (not_not.mpr hcomment))
      have hinside : (s.read c).depth ≠ 0 := by
        rw [hread.1]
        exact habreast.inside
      have hkept : ∀ body, subComments b (c :: body) = [] ++ subComments true body :=
        subComments_comment hcomment habreast.dropped
      rw [stripComments_cons_comment hcomment, bodyFrom_cons hinside hkept]
      rw [hcomment] at hrest
      simp only [List.nil_append, Option.map_id']
      refine ih (hrest.resolve_left hinside) ?_
      exact ⟨hread.1.trans habreast.depth, hread.2.trans habreast.quoted, hinside,
        fun hm => absurd rfl hm, fun _ => rfl⟩
    · rw [stripComments_cons hcomment]
      by_cases hm : m = .comment
      · -- the line ends, and with it the comment
        have hline : c = '\n' := by
          by_contra hother
          rw [hm, Mode.next] at hcomment
          exact hcomment (if_neg hother)
        rw [hline] at hrest ⊢
        have hread : s.read '\n' = { s with escaped := false } := read_newline
        have hread' : s'.read '\n' = { s' with escaped := false } := read_newline
        have hinside : (s.read '\n').depth ≠ 0 := by
          rw [hread]
          exact habreast.inside
        have hinside' : (s'.read '\n').depth ≠ 0 := by
          rw [hread']
          exact habreast.depth ▸ habreast.inside
        have hkept (flag : Bool) (body : List Char) :
            subComments flag ('\n' :: body) = ['\n'] ++ subComments false body := by
          cases flag <;> rfl
        rw [bodyFrom_cons hinside (hkept b), bodyFrom_cons hinside' (hkept b')]
        refine congrArg _ (ih (hrest.resolve_left hinside) ?_)
        rw [hread, hread', hm]
        exact ⟨habreast.depth, habreast.quoted, habreast.inside, fun _ => ⟨rfl, rfl⟩, nofun⟩
      · obtain ⟨hescaped, rfl⟩ := habreast.same hm
        obtain rfl : s = s' := by
          cases s
          cases s'
          rw [LoopState.mk.injEq]
          exact ⟨habreast.depth, habreast.quoted, hescaped⟩
        by_cases hdepth : (s.read c).depth = 0
        · rw [bodyFrom, bodyFrom, if_pos hdepth, if_pos hdepth]
        · obtain ⟨kept, b₁, hkept⟩ := subComments_cons b c
          rw [bodyFrom_cons hdepth hkept, bodyFrom_cons hdepth hkept]
          refine congrArg _ (ih (hrest.resolve_left hdepth) ?_)
          exact ⟨rfl, rfl, hdepth, fun _ => ⟨rfl, rfl⟩, fun heq => absurd heq hcomment⟩

end Bodies

section Records
variable {text : List Char}

theorem readRecord_congr {start start' : String × List Char} (hkind : start.1 = start'.1)
    (hbody : (bodyFrom {} start.2).map (subComments false) =
      (bodyFrom {} start'.2).map (subComments false)) : readRecord start = readRecord start' := by
  rw [readRecord, readRecord, hkind]
  cases hleft : bodyFrom {} start.2 with
  | none =>
    rw [hleft, Option.map_none, eq_comm, Option.map_eq_none_iff] at hbody
    rw [hbody]
  | some body =>
    rw [hleft, Option.map_some, eq_comm, Option.map_eq_some_iff] at hbody
    obtain ⟨body', hright, hsame⟩ := hbody
    rw [hright]
    dsimp only
    rw [hsame]

theorem generate_congr {ε α β : Type} {f : β → Except ε α} {xs ys : List β}
    (h : List.Forall₂ (fun x y => f x = f y) xs ys) : generate f xs = generate f ys := by
  induction h with
  | nil => rfl
  | cons hhead _ ih => rw [generate, generate, hhead, ih]

/-- Neutral comments change none of the declarations and tokens, and nothing that is raised. -/
theorem declarationRecords_strip (h : neutral .plain text = true) :
    declarationRecords text = declarationRecords (stripComments .plain text) := by
  refine generate_congr ((starts_strip h (by simp) nofun).imp fun start stripped hstart => ?_)
  obtain ⟨hkind, m, hm, hundisturbed, hbehind⟩ := hstart
  refine readRecord_congr hkind ?_
  rw [hbehind]
  exact bodyFrom_strip hundisturbed ⟨rfl, rfl, nofun, fun _ => ⟨rfl, rfl⟩, fun heq => absurd heq hm⟩

end Records

section Loop

/-- The loop as it stands, with a bound on its turns: the place and the state that it ends with. -/
def scan (text : List Char) : Nat → Nat → LoopState → Option (Nat × LoopState)
  | 0, _, _ => none
  | turns + 1, index, s =>
    match text[index]? with
    | some c => if s.depth = 0 then some (index, s) else scan text turns (index + 1) (s.read c)
    | none => some (index, s)

/-- Every turn takes a character, so the loop ends with the text at the latest, and it finds the
same body. -/
theorem scan_ends {text : List Char} {turns index : Nat} {s : LoopState}
    (hturns : text.length - index < turns) (hs : s.depth ≠ 0) :
    ∃ stop last, scan text turns index s = some (stop, last) ∧
      (last.depth = 0 → index < stop) ∧
      bodyFrom s (text.drop index) =
        if last.depth = 0 then some ((text.drop index).take (stop - 1 - index)) else none := by
  induction turns generalizing index s with
  | zero => exact absurd hturns (Nat.not_lt_zero _)
  | succ turns ih =>
    cases hchar : text[index]? with
    | none =>
      have hend := List.getElem?_eq_none_iff.mp hchar
      refine ⟨index, s, ?_, fun hzero => absurd hzero hs, ?_⟩
      · rw [scan, hchar]
      · rw [List.drop_eq_nil_of_le hend, bodyFrom, if_neg hs]
    | some c =>
      obtain ⟨hlt, hget⟩ := List.getElem?_eq_some_iff.mp hchar
      rw [scan, hchar, List.drop_eq_getElem_cons hlt, hget, bodyFrom]
      dsimp only
      rw [if_neg hs]
      by_cases hdepth : (s.read c).depth = 0
      · rw [if_pos hdepth]
        refine ⟨index + 1, s.read c, ?_, fun _ => Nat.lt_succ_self index, ?_⟩
        · obtain ⟨more, rfl⟩ : ∃ more, turns = more + 1 :=
            Nat.exists_eq_succ_of_ne_zero (by omega)
          rw [scan]
          cases text[index + 1]? with
          | none => rfl
          | some next => exact if_pos hdepth
        · rw [if_pos hdepth, Nat.add_sub_cancel, Nat.sub_self, List.take_zero]
      · rw [if_neg hdepth]
        have hmore : text.length - (index + 1) < turns := by omega
        obtain ⟨stop, last, hscan, hlast, hbody⟩ := ih hmore hdepth
        refine ⟨stop, last, hscan, fun hzero => by have := hlast hzero; omega, ?_⟩
        rw [hbody]
        by_cases hzero : last.depth = 0
        · have hstop := hlast hzero
          rw [if_pos hzero, if_pos hzero, Option.map_some]
          have hlength : stop - 1 - index = stop - 1 - (index + 1) + 1 := by omega
          rw [hlength, List.take_succ_cons]
        · rw [if_neg hzero, if_neg hzero, Option.map_none]

end Loop

section Hashes
variable {text : List Char}

/-- A number sign within quotes. -/
def hasQuotedHash : Mode → List Char → Bool
  | _, [] => false
  | m, c :: rest => (c = '#' && (m = .quoted || m = .escaped)) || hasQuotedHash (m.next c) rest

/-- The tokens hold nothing but characters of the text and escape characters. -/
theorem lex_chars {P : Char → Prop} (hescape : P '\\') {state : LexState} {token : List Char}
    {tokens : List String} (htoken : ∀ c ∈ token, P c) (htext : ∀ c ∈ text, P c)
    (h : lex state token text = .ok tokens) : ∀ t ∈ tokens, ∀ c ∈ t.toList, P c := by
  induction text generalizing state token tokens with
  | nil =>
    cases state with
    | space =>
      cases h
      exact nofun
    | word =>
      cases h
      intro t ht
      rw [List.mem_singleton.mp ht, String.toList_ofList]
      exact htoken
    | quote mark => cases h
    | escape mark => cases h
  | cons c rest ih =>
    have hc : P c := htext c List.mem_cons_self
    have hrest : ∀ x ∈ rest, P x := fun x hx => htext x (List.mem_cons_of_mem c hx)
    have hone : ∀ x ∈ [c], P x := by
      intro x hx
      rw [List.mem_singleton.mp hx]
      exact hc
    have hnone : ∀ x ∈ ([] : List Char), P x := fun x hx => absurd hx List.not_mem_nil
    have happend : ∀ x ∈ token ++ [c], P x := by
      intro x hx
      cases List.mem_append.mp hx with
      | inl hin => exact htoken x hin
      | inr hin => exact hone x hin
    cases state with
    | space =>
      rw [lex] at h
      split_ifs at h
      · exact ih hnone hrest h
      · exact ih hnone hrest h
      · exact ih hnone hrest h
      · exact ih hone hrest h
    | word =>
      rw [lex] at h
      split_ifs at h
      · cases hlex : lex .space [] rest with
        | error e =>
          rw [hlex] at h
          cases h
        | ok more =>
          rw [hlex] at h
          cases h
          intro t ht
          cases List.mem_cons.mp ht with
          | inl heq =>
            rw [heq, String.toList_ofList]
            exact htoken
          | inr hin => exact ih hnone hrest hlex t hin
      · exact ih htoken hrest h
      · exact ih htoken hrest h
      · exact ih happend hrest h
    | quote mark =>
      rw [lex] at h
      split_ifs at h
      · exact ih htoken hrest h
      · exact ih htoken hrest h
      · exact ih happend hrest h
    | escape back =>
      cases back with
      | none =>
        rw [lex] at h
        exact ih happend hrest h
      | some mark =>
        rw [lex] at h
        refine ih (fun x hx => ?_) hrest h
        split_ifs at hx
        · exact happend x hx
        · simp only [List.mem_append, List.mem_cons, List.not_mem_nil, or_false] at hx
          rcases hx with hin | rfl | rfl
          · exact htoken x hin
          · exact hescape
          · exact hc

theorem subComments_noHash {b : Bool} : ∀ c ∈ subComments b text, c ≠ '#' := by
  induction text generalizing b with
  | nil => exact nofun
  | cons c rest ih =>
    cases b with
    | false =>
      rw [subComments]
      split_ifs with hsign
      · exact ih
      · exact List.forall_mem_cons.mpr ⟨hsign, ih⟩
    | true =>
      rw [subComments]
      split_ifs with hline
      · exact List.forall_mem_cons.mpr ⟨by rw [hline]; decide, ih⟩
      · exact ih

/-- A declaration holds no number sign, wherever it stood. -/
theorem readRecord_noHash {start : String × List Char} {declaration : Declaration}
    (h : readRecord start = .ok declaration) :
    ∀ token ∈ declaration.tokens, '#' ∉ token.toList := by
  rw [readRecord] at h
  cases hbody : bodyFrom {} start.2 with
  | none =>
    rw [hbody] at h
    cases h
  | some body =>
    rw [hbody] at h
    dsimp only at h
    cases hsplit : shlexSplit (subComments false body) with
    | error e =>
      rw [hsplit] at h
      cases h
    | ok tokens =>
      rw [hsplit, ExceptRules.ok_bind] at h
      split_ifs at h
      cases h
      intro token htoken hsign
      have hescape : ('\\' : Char) ≠ '#' := by decide
      exact lex_chars hescape (by simp) subComments_noHash hsplit token htoken '#' hsign rfl

/-- A number sign within quotes is part of the argument. -/
def HashesKept (text : List Char) : Prop :=
  ∀ start ∈ starts 0 text, ∀ body, bodyFrom {} start.2 = some body →
    hasQuotedHash .plain body = true → ∃ declaration, readRecord start = .ok declaration ∧
      ∃ token ∈ declaration.tokens, '#' ∈ token.toList

/-- No declaration holds a number sign within quotes. -/
def HashesOutside (text : List Char) : Prop :=
  ∀ start ∈ starts 0 text, ∀ body, bodyFrom {} start.2 = some body →
    hasQuotedHash .plain body = false

theorem hashesKept_iff : HashesKept text ↔ HashesOutside text := by
  refine forall₄_congr fun start _ body _ => ?_
  cases hasQuotedHash .plain body with
  | false => exact iff_of_true nofun rfl
  | true =>
    refine iff_of_false (fun hkept => ?_) nofun
    obtain ⟨declaration, hread, token, htoken, hsign⟩ := hkept rfl
    exact readRecord_noHash hread token htoken hsign

end Hashes

theorem comments_invariant {text text' : List Char}
    (hsame : stripComments .plain text = stripComments .plain text')
    (h : neutral .plain text = true) (h' : neutral .plain text' = true) :
    declarationRecords text = declarationRecords text' ∧
      (HashesKept text ↔ HashesOutside text) ∧
        ∀ index s, ∃ turns stop last, scan text turns index s = some (stop, last) := by
  refine ⟨?_, hashesKept_iff, fun index s => ?_⟩
  · rw [declarationRecords_strip h, hsame, declarationRecords_strip h']
  · by_cases hs : s.depth = 0
    · refine ⟨1, index, s, ?_⟩
      rw [scan]
      cases text[index]? with
      | none => rfl
      | some c => exact if_pos hs
    · obtain ⟨stop, last, hscan, _⟩ := scan_ends (Nat.lt_succ_self (text.length - index)) hs
      exact ⟨_, stop, last, hscan⟩

/-- A declaration with a comment behind its name. -/
def commented (comment : String) : List Char :=
  ("FetchContent_Declare(fmt # " ++ comment ++ "\n GIT_TAG 11)").toList

theorem commented_invariant :
    stripComments .plain (commented "pinned") = stripComments .plain (commented "as released") ∧
      neutral .plain (commented "pinned") = true ∧
      neutral .plain (commented "as released") = true ∧
      declarationRecords (commented "pinned") = declarationRecords (commented "as released") := by
  have hsame : stripComments .plain (commented "pinned") =
      stripComments .plain (commented "as released") := by decide +kernel
  have hpinned : neutral .plain (commented "pinned") = true := by decide +kernel
  have hreleased : neutral .plain (commented "as released") = true := by decide +kernel
  exact ⟨hsame, hpinned, hreleased, (comments_invariant hsame hpinned hreleased).1⟩

/-- A parenthesis in a comment ends the declaration. -/
theorem parenthesis_in_comment : ¬ ∀ text text' : List Char,
    stripComments .plain text = stripComments .plain text' →
      declarationRecords text = declarationRecords text' := by
  intro hlaw
  have hsame : stripComments .plain (commented "pinned") =
      stripComments .plain (commented "pinned :)") := by decide +kernel
  have hleft : (declarationRecords (commented "pinned")).yields.map Declaration.tokens =
      [["fmt", "GIT_TAG", "11"]] := by decide +kernel
  have hright : (declarationRecords (commented "pinned :)")).yields.map Declaration.tokens =
      [["fmt"]] := by decide +kernel
  rw [hlaw _ _ hsame, hright] at hleft
  exact absurd hleft (by decide)

end AttestationSdk.Dependencies
