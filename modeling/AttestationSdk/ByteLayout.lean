import Mathlib.Tactic.Common

/-! Fields that stand one after another in a sequence, and where each stands. -/
namespace ByteLayout
variable {α : Type} {data field a b : List α} {offset n : Nat}

/-- The field stands at the offset. -/
def FieldAt (data : List α) (offset : Nat) (field : List α) : Prop :=
  ∃ before after, data = before ++ (field ++ after) ∧ before.length = offset

theorem FieldAt.le (h : FieldAt data offset field) : offset + field.length ≤ data.length := by
  obtain ⟨before, after, rfl, rfl⟩ := h
  simp only [List.length_append]
  omega

theorem FieldAt.eq_slice (h : FieldAt data offset field) :
    field = (data.drop offset).take field.length := by
  obtain ⟨before, after, rfl, rfl⟩ := h
  rw [List.drop_left, List.take_left]

theorem fieldAt_slice (h : offset + n ≤ data.length) :
    FieldAt data offset ((data.drop offset).take n) := by
  refine ⟨data.take offset, (data.drop offset).drop n, ?_, ?_⟩
  · rw [List.take_append_drop, List.take_append_drop]
  · rw [List.length_take]
    omega

theorem fieldAt_singleton {x : α} : FieldAt data offset [x] ↔ data[offset]? = some x := by
  constructor
  · rintro ⟨before, after, rfl, rfl⟩
    simp
  · intro h
    obtain ⟨hlt, rfl⟩ := List.getElem?_eq_some_iff.mp h
    have hslice : FieldAt data offset ((data.drop offset).take 1) := fieldAt_slice (by omega)
    rwa [List.drop_eq_getElem_cons hlt, List.take_succ_cons, List.take_zero] at hslice

/-- Neighbours: the second field stands where the first ends. -/
theorem fieldAt_append :
    FieldAt data offset (a ++ b) ↔ FieldAt data offset a ∧ FieldAt data (offset + a.length) b := by
  constructor
  · rintro ⟨before, after, rfl, rfl⟩
    exact ⟨⟨before, b ++ after, by simp, rfl⟩, ⟨before ++ a, after, by simp, by simp⟩⟩
  · rintro ⟨⟨before, after, rfl, rfl⟩, before', after', hdata, hlength⟩
    rw [← List.append_assoc] at hdata
    obtain ⟨-, rfl⟩ := List.append_inj hdata (by simp [hlength])
    exact ⟨before, after', by simp, rfl⟩

/-- A field as long as the data is the data. -/
theorem fieldAt_all (h : field.length = data.length) : FieldAt data 0 field ↔ data = field := by
  constructor
  · intro hat
    rw [hat.eq_slice, List.drop_zero, h, List.take_length]
  · rintro rfl
    exact ⟨[], [], by simp, rfl⟩

theorem FieldAt.unique (ha : FieldAt data offset a) (hb : FieldAt data offset b)
    (h : a.length = b.length) : a = b := by
  rw [ha.eq_slice, hb.eq_slice, h]

end ByteLayout
