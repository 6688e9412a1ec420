import Mathlib.Data.List.Basic
import Mathlib.Data.List.Infix

/-! Cutting a list at the occurrences of a delimiter, read from the left. -/
namespace DelimitedText
variable {α : Type}

/-- The text is cut at the end of the delimiter's first occurrence. -/
structure CutsAt (d text piece rest : List α) : Prop where
  text_eq : text = piece ++ rest
  ends : d <:+ piece
  first : ¬ d <:+: piece.dropLast

/-- The pieces of a text: each ends with the first occurrence of the delimiter in what is left,
all elements of the gap that follow it are skipped, and no occurrence is left over. -/
inductive Pieces (d : List α) (gap : α → Prop) : List α → List (List α) → Prop where
  | done {text : List α} (free : ¬ d <:+: text) : Pieces d gap text []
  | cut {text piece skipped rest : List α} {pieces : List (List α)}
      (head : CutsAt d text piece (skipped ++ rest)) (inGap : ∀ c ∈ skipped, gap c)
      (stop : ∀ c ∈ rest.head?, ¬ gap c) (tail : Pieces d gap rest pieces) :
      Pieces d gap text (piece :: pieces)

theorem CutsAt.ne_nil {d text piece rest : List α} (hd : d ≠ []) (h : CutsAt d text piece rest) :
    piece ≠ [] := by
  rintro rfl
  exact hd (List.suffix_nil.mp h.ends)

theorem cutsAt_here {d : List α} (hd : d ≠ []) (rest : List α) :
    CutsAt d (d ++ rest) d rest := by
  refine ⟨rfl, List.suffix_refl d, fun h => ?_⟩
  have hlength := h.length_le
  have := List.length_pos_iff.mpr hd
  simp at hlength
  omega

theorem CutsAt.cons {d text piece rest : List α} {c : α} (hd : d ≠ []) (hc : ¬ d <+: c :: text)
    (h : CutsAt d text piece rest) : CutsAt d (c :: text) (c :: piece) rest := by
  refine ⟨by rw [h.text_eq, List.cons_append], h.ends.trans (List.suffix_cons c piece),
    fun hin => ?_⟩
  rw [List.dropLast_cons_of_ne_nil (h.ne_nil hd)] at hin
  cases List.infix_cons_iff.mp hin with
  | inl hfront =>
    -- an occurrence at the front of the piece is one at the front of the text
    have hpiece : c :: piece.dropLast <+: c :: text := by
      rw [h.text_eq]
      exact List.cons_prefix_cons.mpr
        ⟨rfl, (List.dropLast_prefix piece).trans (List.prefix_append piece rest)⟩
    exact hc (hfront.trans hpiece)
  | inr hinner => exact h.first hinner

/-- Where the text begins with the delimiter, the piece is the delimiter. -/
theorem CutsAt.eq_of_prefix {d text piece rest : List α} (h : CutsAt d text piece rest)
    (hfront : d <+: text) : piece = d := by
  have hle := h.ends.length_le
  by_cases hlength : d.length = piece.length
  · exact (h.ends.eq_of_length hlength).symm
  · have hdrop : d <+: piece.dropLast := by
      refine List.prefix_of_prefix_length_le hfront ?_ (by simp; omega)
      rw [h.text_eq]
      exact (List.dropLast_prefix piece).trans (List.prefix_append piece rest)
    exact absurd hdrop.isInfix h.first

/-- Where it does not, the cut lies behind the first element. -/
theorem CutsAt.tail_of_not_prefix {d text piece rest : List α} {c : α} (hd : d ≠ [])
    (h : CutsAt d (c :: text) piece rest) (hfront : ¬ d <+: c :: text) :
    ∃ inner, piece = c :: inner ∧ CutsAt d text inner rest := by
  cases piece with
  | nil => exact absurd rfl (h.ne_nil hd)
  | cons c' inner =>
    have htext := h.text_eq
    rw [List.cons_append, List.cons.injEq] at htext
    obtain ⟨rfl, rfl⟩ := htext
    have hends : d <:+ inner := by
      cases List.suffix_cons_iff.mp h.ends with
      | inl heq =>
        rw [heq, ← List.cons_append] at hfront
        exact absurd (List.prefix_append _ rest) hfront
      | inr hsuffix => exact hsuffix
    refine ⟨inner, rfl, rfl, hends, fun hin => h.first ?_⟩
    have hinner : inner ≠ [] := by
      rintro rfl
      exact hd (List.suffix_nil.mp hends)
    rw [List.dropLast_cons_of_ne_nil hinner]
    exact List.infix_cons hin

theorem CutsAt.rest_length_lt {d text piece rest : List α} (hd : d ≠ [])
    (h : CutsAt d text piece rest) : rest.length < text.length := by
  have := List.length_pos_iff.mpr (h.ne_nil hd)
  rw [h.text_eq, List.length_append]
  omega

section Counting
variable [DecidableEq α]

/-- How often the delimiter occurs, from the left and without overlaps; the first argument counts
the elements of an occurrence still to be passed. -/
def occurrences (d : List α) : Nat → List α → Nat
  | _, [] => 0
  | skip + 1, _ :: cs => occurrences d skip cs
  | 0, c :: cs =>
    if d <+: c :: cs then occurrences d (d.length - 1) cs + 1 else occurrences d 0 cs

theorem occurrences_skip (d passed rest : List α) :
    occurrences d passed.length (passed ++ rest) = occurrences d 0 rest := by
  induction passed with
  | nil => rfl
  | cons c passed ih => rw [List.length_cons, List.cons_append, occurrences, ih]

theorem occurrences_of_free {d text : List α} (h : ¬ d <:+: text) :
    occurrences d 0 text = 0 := by
  induction text with
  | nil => rfl
  | cons c text ih =>
    rw [List.infix_cons_iff, not_or] at h
    rw [occurrences, if_neg h.1, ih h.2]

/-- Elements that do not begin the delimiter are passed. -/
theorem occurrences_gap {d skipped : List α} (hskipped : ∀ c ∈ skipped, c ∉ d.head?)
    (hd : d ≠ []) (rest : List α) : occurrences d 0 (skipped ++ rest) = occurrences d 0 rest := by
  induction skipped with
  | nil => rfl
  | cons c skipped ih =>
    have hno : ¬ d <+: c :: (skipped ++ rest) := by
      intro hfront
      cases d with
      | nil => exact hd rfl
      | cons c' d =>
        have heq := (List.cons_prefix_cons.mp hfront).1
        exact hskipped c (by simp) (by simp [heq])
    rw [List.cons_append, occurrences, if_neg hno]
    exact ih fun c hc => hskipped c (by simp [hc])

theorem CutsAt.occurrences_eq {d text piece rest : List α} (hd : d ≠ [])
    (h : CutsAt d text piece rest) : occurrences d 0 text = occurrences d 0 rest + 1 := by
  induction text generalizing piece with
  | nil =>
    have := h.rest_length_lt hd
    simp at this
  | cons c text ih =>
    by_cases hfront : d <+: c :: text
    · obtain rfl := h.eq_of_prefix hfront
      cases piece with
      | nil => exact absurd rfl hd
      | cons c' body =>
        have htext : text = body ++ rest := by
          have := h.text_eq
          rw [List.cons_append, List.cons.injEq] at this
          exact this.2
        rw [occurrences, if_pos hfront, htext]
        exact congrArg (· + 1) (occurrences_skip (c' :: body) body rest)
    · obtain ⟨inner, -, hinner⟩ := h.tail_of_not_prefix hd hfront
      rw [occurrences, if_neg hfront, ih hinner]

/-- There are as many pieces as occurrences. -/
theorem Pieces.length_eq {d text : List α} {gap : α → Prop} {pieces : List (List α)}
    (hd : d ≠ []) (hgap : ∀ c, gap c → c ∉ d.head?) (h : Pieces d gap text pieces) :
    pieces.length = occurrences d 0 text := by
  induction h with
  | done free => rw [occurrences_of_free free, List.length_nil]
  | cut head inGap _ _ ih =>
    rw [head.occurrences_eq hd, occurrences_gap (fun c hc => hgap c (inGap c hc)) hd,
      List.length_cons, ih]

end Counting
end DelimitedText
