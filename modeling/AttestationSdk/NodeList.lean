import Mathlib.Data.List.Nodup
import Mathlib.Logic.Function.Basic

/-! Linked lists whose cells keep their identity, and an index of iterators into
them: what `std::list` with stored iterators provides. -/
namespace NodeList
variable {κ : Type}

structure Node (κ : Type) where
  id : Nat
  key : κ
  deriving Repr, DecidableEq

def keys (l : List (Node κ)) : List κ := l.map Node.key

/-- Erase the cell an iterator points at; `none` if the iterator is invalid. -/
def erase (l : List (Node κ)) (id : Nat) : Option (List (Node κ)) :=
  if ∃ n ∈ l, n.id = id then some (l.filter (fun n => n.id ≠ id)) else none

/-- Move the cell an iterator points at to the front. -/
def spliceFront (l : List (Node κ)) (id : Nat) : Option (List (Node κ)) :=
  match l.find? (fun n => n.id = id) with
  | some n => some (n :: l.filter (fun n => n.id ≠ id))
  | none => none

/-- Every key has at most one cell, the index points at exactly that cell, and
all cells are older than `next`. -/
structure Indexed (l : List (Node κ)) (ptr : κ → Option Nat) (next : Nat) : Prop where
  points : ∀ i k, ⟨i, k⟩ ∈ l ↔ ptr k = some i
  ids : (l.map Node.id).Nodup
  fresh : ∀ n ∈ l, n.id < next

variable {l : List (Node κ)} {ptr : κ → Option Nat} {next : Nat}

theorem indexed_nil (next : Nat) : Indexed ([] : List (Node κ)) (fun _ => none) next :=
  ⟨by simp, by simp, by simp⟩

theorem Indexed.mem_keys (h : Indexed l ptr next) (k : κ) : k ∈ keys l ↔ (ptr k).isSome := by
  simp only [keys, List.mem_map, Option.isSome_iff_exists]
  constructor
  · intro hk
    obtain ⟨⟨i, k'⟩, hn, rfl⟩ := hk
    exact ⟨i, (h.points i k').mp hn⟩
  · intro hk
    obtain ⟨i, hi⟩ := hk
    exact ⟨⟨i, k⟩, (h.points i k).mpr hi, rfl⟩

theorem Indexed.eq_of_id {n m : Node κ} (h : Indexed l ptr next) (hn : n ∈ l) (hm : m ∈ l)
    (hid : n.id = m.id) : n = m :=
  List.inj_on_of_nodup_map h.ids hn hm hid

theorem Indexed.eq_of_key {n m : Node κ} (h : Indexed l ptr next) (hn : n ∈ l) (hm : m ∈ l)
    (hkey : n.key = m.key) : n = m := by
  have h1 := (h.points n.id n.key).mp hn
  have h2 := (h.points m.id m.key).mp hm
  rw [hkey, h2] at h1
  cases n with
  | mk i k =>
    cases m with
    | mk j k' => simp_all

theorem Indexed.keys_nodup (h : Indexed l ptr next) : (keys l).Nodup :=
  List.Nodup.map_on (fun _ hn _ hm hkey => h.eq_of_key hn hm hkey) (List.Nodup.of_map _ h.ids)

/-- The cell an iterator points at is the cell of its key. -/
theorem Indexed.id_iff_key {k : κ} {i : Nat} (h : Indexed l ptr next) (hk : ptr k = some i)
    {n : Node κ} (hn : n ∈ l) : n.id = i ↔ n.key = k := by
  have hcell : ⟨i, k⟩ ∈ l := (h.points i k).mpr hk
  constructor
  · intro hid
    rw [h.eq_of_id hn hcell hid]
  · intro hkey
    rw [h.eq_of_key hn hcell hkey]

variable [DecidableEq κ]

/-- Dropping the cell of a key is dropping the key. -/
theorem Indexed.filter_id {k : κ} {i : Nat} (h : Indexed l ptr next) (hk : ptr k = some i) :
    l.filter (fun n => n.id ≠ i) = l.filter (fun n => n.key ≠ k) := by
  apply List.filter_congr
  intro n hn
  simp [h.id_iff_key hk hn]

theorem keys_filter_key (l : List (Node κ)) (k : κ) :
    keys (l.filter (fun n => n.key ≠ k)) = (keys l).filter (· ≠ k) := by
  rw [keys, keys, List.filter_map]
  rfl

theorem Indexed.drop {k : κ} (h : Indexed l ptr next) :
    Indexed (l.filter (fun n => n.key ≠ k)) (Function.update ptr k none) next := by
  refine ⟨fun i k' => ?_, h.ids.sublist (List.filter_sublist.map _),
    fun n hn => h.fresh n (List.mem_of_mem_filter hn)⟩
  by_cases hk : k' = k
  · subst hk
    simp
  · simp [hk, h.points i k']

theorem Indexed.erase {k : κ} {i : Nat} (h : Indexed l ptr next) (hk : ptr k = some i) :
    erase l i = some (l.filter (fun n => n.key ≠ k)) := by
  have hcell : ∃ n ∈ l, n.id = i := ⟨⟨i, k⟩, (h.points i k).mpr hk, rfl⟩
  rw [NodeList.erase, if_pos hcell, h.filter_id hk]

theorem Indexed.spliceFront {k : κ} {i : Nat} (h : Indexed l ptr next) (hk : ptr k = some i) :
    spliceFront l i = some (⟨i, k⟩ :: l.filter (fun n => n.key ≠ k)) := by
  have hcell : ⟨i, k⟩ ∈ l := (h.points i k).mpr hk
  have hfind : l.find? (fun n => n.id = i) = some ⟨i, k⟩ := by
    cases hf : l.find? (fun n => n.id = i) with
    | none =>
      have hnone := List.find?_eq_none.mp hf ⟨i, k⟩ hcell
      simp at hnone
    | some n =>
      have hid : n.id = i := by simpa using List.find?_some hf
      rw [h.eq_of_id (List.mem_of_find?_eq_some hf) hcell hid]
  simp only [NodeList.spliceFront, hfind, h.filter_id hk]

theorem Indexed.moved {k : κ} {i : Nat} (h : Indexed l ptr next) (hk : ptr k = some i) :
    Indexed (⟨i, k⟩ :: l.filter (fun n => n.key ≠ k)) ptr next := by
  have hcell : ⟨i, k⟩ ∈ l := (h.points i k).mpr hk
  refine ⟨fun j k' => ?_, ?_, fun n hn => ?_⟩
  · rw [List.mem_cons, List.mem_filter, ← h.points j k']
    constructor
    · intro hj
      cases hj with
      | inl heq => rw [heq]; exact hcell
      | inr hin => exact hin.1
    · intro hj
      by_cases hkey : k' = k
      · exact Or.inl (h.eq_of_key hj hcell hkey)
      · exact Or.inr ⟨hj, by simpa using hkey⟩
  · rw [List.map_cons, List.nodup_cons, ← h.filter_id hk]
    refine ⟨by simp, h.ids.sublist (List.filter_sublist.map _)⟩
  · cases List.mem_cons.mp hn with
    | inl heq => rw [heq]; exact h.fresh _ hcell
    | inr hin => exact h.fresh n (List.mem_of_mem_filter hin)

theorem Indexed.push {k : κ} {i next' : Nat} (h : Indexed l ptr next) (hk : ptr k = none)
    (hi : next ≤ i) (hnext : i < next') :
    Indexed (⟨i, k⟩ :: l) (Function.update ptr k (some i)) next' := by
  refine ⟨fun j k' => ?_, ?_, fun n hn => ?_⟩
  · rw [List.mem_cons]
    by_cases hkey : k' = k
    · subst hkey
      simp [h.points, hk, eq_comm]
    · simp [hkey, h.points]
  · rw [List.map_cons, List.nodup_cons]
    refine ⟨fun hmem => ?_, h.ids⟩
    obtain ⟨n, hn, hid⟩ := List.mem_map.mp hmem
    have hlt := h.fresh n hn
    have hi' : n.id = i := hid
    omega
  · cases List.mem_cons.mp hn with
    | inl heq => rw [heq]; exact hnext
    | inr hin =>
      have := h.fresh n hin
      omega

end NodeList
