import Mathlib.Data.List.DropRight

/-! Python's `str.strip` and `str.splitlines` on lists of characters. -/
namespace PythonText

section Strip
variable {α : Type}

/-- `strip()`. -/
def strip (space : α → Bool) (text : List α) : List α := (text.dropWhile space).rdropWhile space

variable {space : α → Bool} {c d : α} {text front trail : List α}

/-- White space around a text goes, up to its first and last other character. -/
theorem strip_append (hfirst : space c = false) (hlast : space d = false)
    (hstart : ∃ rest, text = c :: rest) (hend : ∃ front, text = front ++ [d])
    (htrail : ∀ x ∈ trail, space x = true) : strip space (text ++ trail) = text := by
  have hdrop : (text ++ trail).dropWhile space = text ++ trail := by
    obtain ⟨rest, hrest⟩ := hstart
    rw [hrest, List.cons_append, List.dropWhile_cons_of_neg (by simp [hfirst])]
  rw [strip, hdrop]
  clear hdrop
  induction trail using List.reverseRecOn with
  | nil =>
    obtain ⟨front, hfront⟩ := hend
    rw [List.append_nil, hfront, List.rdropWhile_concat_neg _ _ _ (by simp [hlast])]
  | append_singleton trail x ih =>
    rw [← List.append_assoc, List.rdropWhile_concat_pos _ _ _ (htrail x (by simp))]
    exact ih fun y hy => htrail y (List.mem_append_left [x] hy)

theorem strip_ne_nil (hfirst : space c = false) : strip space (c :: text) ≠ [] := by
  rw [strip, List.dropWhile_cons_of_neg (by simp [hfirst])]
  intro hnil
  have hspace := List.rdropWhile_eq_nil_iff.mp hnil c List.mem_cons_self
  rw [hfirst] at hspace
  cases hspace

/-- A stripped text does not end in white space. -/
theorem not_space_of_strip (h : strip space text = front ++ [d]) : space d = false := by
  have hsome : strip space text ≠ [] := by simp [h]
  have hlast : ¬ space ((strip space text).getLast hsome) = true :=
    List.rdropWhile_last_not space (text.dropWhile space) hsome
  have hd : (strip space text).getLast hsome = d := by simp [h]
  rwa [hd, Bool.not_eq_true] at hlast

end Strip

/-- The characters that end a line. -/
def isLineEnd (c : Char) : Bool :=
  c.toNat ∈ [0x0a, 0x0b, 0x0c, 0x0d, 0x1c, 0x1d, 0x1e, 0x85, 0x2028, 0x2029]

/-- A character in front of the first line. -/
def startWith (c : Char) : List (List Char) → List (List Char)
  | [] => [[c]]
  | line :: lines => (c :: line) :: lines

/-- `splitlines()`. -/
def splitLines : List Char → List (List Char)
  | [] => []
  | '\r' :: '\n' :: rest => [] :: splitLines rest
  | c :: rest => if isLineEnd c then [] :: splitLines rest else startWith c (splitLines rest)

variable {c : Char} {text line rest last : List Char} {lines : List (List Char)}

theorem splitLines_cons (h : isLineEnd c = false) :
    splitLines (c :: rest) = startWith c (splitLines rest) := by
  have hreturn : c ≠ '\r' := by
    intro heq
    rw [heq] at h
    revert h
    decide
  rw [splitLines.eq_3 c rest fun _ heq _ => absurd heq hreturn, h]
  rfl

theorem splitLines_newline : splitLines ('\n' :: rest) = [] :: splitLines rest := by
  rw [splitLines.eq_3 '\n' rest fun _ heq _ => absurd heq (by decide)]
  rfl

theorem splitLines_line (hline : ∀ x ∈ line, isLineEnd x = false) (hsome : line ≠ []) :
    splitLines line = [line] := by
  induction line with
  | nil => exact absurd rfl hsome
  | cons x more ih =>
    rw [List.forall_mem_cons] at hline
    rw [splitLines_cons hline.1]
    cases more with
    | nil => rfl
    | cons y after => rw [ih hline.2 (List.cons_ne_nil y after), startWith]

theorem splitLines_line_append (hline : ∀ x ∈ line, isLineEnd x = false) :
    splitLines (line ++ '\n' :: rest) = line :: splitLines rest := by
  induction line with
  | nil => exact splitLines_newline
  | cons x more ih =>
    rw [List.forall_mem_cons] at hline
    rw [List.cons_append, splitLines_cons hline.1, ih hline.2, startWith]

/-- Lines with a newline behind each but the last are what the text splits into. -/
theorem splitLines_lines (hlines : ∀ line ∈ lines, ∀ x ∈ line, isLineEnd x = false)
    (hlast : ∀ x ∈ last, isLineEnd x = false) (hsome : last ≠ []) :
    splitLines (lines.flatMap (· ++ ['\n']) ++ last) = lines ++ [last] := by
  induction lines with
  | nil => exact splitLines_line hlast hsome
  | cons line lines ih =>
    rw [List.forall_mem_cons] at hlines
    have hfirst : (line :: lines).flatMap (· ++ ['\n']) ++ last =
        line ++ '\n' :: (lines.flatMap (· ++ ['\n']) ++ last) := by simp
    rw [hfirst, splitLines_line_append hlines.1, ih hlines.2, List.cons_append]

theorem mem_startWith (hline : line ∈ startWith c lines) (x : Char) (hx : x ∈ line) :
    x = c ∨ ∃ other ∈ lines, x ∈ other := by
  cases lines with
  | nil =>
    rw [startWith, List.mem_singleton] at hline
    rw [hline, List.mem_singleton] at hx
    exact .inl hx
  | cons first more =>
    cases List.mem_cons.mp hline with
    | inl heq =>
      rw [heq] at hx
      exact (List.mem_cons.mp hx).imp_right fun hin => ⟨first, List.mem_cons_self, hin⟩
    | inr hmore => exact .inr ⟨line, List.mem_cons_of_mem first hmore, hx⟩

/-- No line holds a character that ends one. -/
theorem not_isLineEnd_of_mem (hline : line ∈ splitLines text) : ∀ x ∈ line, isLineEnd x = false := by
  induction text using splitLines.induct generalizing line with
  | case1 => cases hline
  | case2 rest ih =>
    rw [splitLines] at hline
    cases List.mem_cons.mp hline with
    | inl heq => simp [heq]
    | inr hmore => exact ih hmore
  | case3 c rest hpair hc ih =>
    rw [splitLines.eq_3 c rest hpair, if_pos hc] at hline
    cases List.mem_cons.mp hline with
    | inl heq => simp [heq]
    | inr hmore => exact ih hmore
  | case4 c rest hpair hc ih =>
    rw [splitLines.eq_3 c rest hpair, if_neg hc] at hline
    intro x hx
    cases mem_startWith hline x hx with
    | inl heq => rw [heq, Bool.eq_false_iff.mpr hc]
    | inr hother =>
      obtain ⟨other, hin, hx⟩ := hother
      exact ih hin x hx

/-- The last line ends as the text does. -/
theorem splitLines_concat (hc : isLineEnd c = false) :
    ∃ lines last, splitLines (text ++ [c]) = lines ++ [last ++ [c]] := by
  have hnewline : c ≠ '\n' := by
    intro heq
    rw [heq] at hc
    revert hc
    decide
  induction text using splitLines.induct with
  | case1 => exact ⟨[], [], by rw [List.nil_append, splitLines_cons hc]; rfl⟩
  | case2 rest ih =>
    obtain ⟨lines, last, hsplit⟩ := ih
    refine ⟨[] :: lines, last, ?_⟩
    rw [List.cons_append, List.cons_append, splitLines, hsplit, List.cons_append]
  | case3 x rest hpair hx ih =>
    obtain ⟨lines, last, hsplit⟩ := ih
    refine ⟨[] :: lines, last, ?_⟩
    rw [List.cons_append, splitLines.eq_3, if_pos hx, hsplit, List.cons_append]
    intro after hreturn hrest
    cases rest with
    | nil => exact hnewline (List.cons.inj hrest).1
    | cons y more => exact hpair more hreturn (by rw [(List.cons.inj hrest).1])
  | case4 x rest hpair hx ih =>
    obtain ⟨lines, last, hsplit⟩ := ih
    rw [Bool.not_eq_true] at hx
    rw [List.cons_append, splitLines_cons hx, hsplit]
    cases lines with
    | nil => exact ⟨[], x :: last, rfl⟩
    | cons first more => exact ⟨(x :: first) :: more, last, rfl⟩

end PythonText
