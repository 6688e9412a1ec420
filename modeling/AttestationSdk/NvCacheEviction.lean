import AttestationSdk.NvCache
import AttestationSdk.ExceptRules
import Mathlib

/-! The representation invariant of `NvCache` and what its two eviction loops
remove. -/
namespace AttestationSdk.Cache
open CalendarTime NodeList ExceptRules
variable {κ ν : Type}

def sizeAt (c : NvCache κ ν) (k : κ) : Nat := ((c.cache k).map NvCacheObject.sizeBytes).getD 0

/-- The map, the two lists and the stored iterators are in step. -/
structure Linked (c : NvCache κ ν) : Prop where
  lru : Indexed c.lruList (fun k => (c.cache k).map NvCacheObject.lruNode) c.nextNode
  insertion : Indexed c.insertionList (fun k => (c.cache k).map NvCacheObject.insertionNode)
    c.nextNode
  counter : c.currentSizeBytes < uint64Modulus

/-- The representation invariant: the byte counter is in step too. -/
structure Inv (opts : NvCacheOptions) (c : NvCache κ ν) : Prop extends Linked c where
  size : c.currentSizeBytes = ((keys c.lruList).map (sizeAt c)).sum
  bounded : c.currentSizeBytes ≤ opts.maxSizeBytes
  unsigned : c.underflowed = false

theorem linked_empty : Linked (emptyCache : NvCache κ ν) :=
  ⟨indexed_nil 0, indexed_nil 0, by simp [emptyCache, uint64Modulus]⟩

theorem inv_empty (opts : NvCacheOptions) : Inv opts (emptyCache : NvCache κ ν) :=
  ⟨linked_empty, rfl, Nat.zero_le _, rfl⟩

theorem Linked.mem_lru {c : NvCache κ ν} (h : Linked c) (k : κ) :
    k ∈ keys c.lruList ↔ (c.cache k).isSome := by
  rw [h.lru.mem_keys, Option.isSome_map]

theorem Linked.mem_insertion {c : NvCache κ ν} (h : Linked c) (k : κ) :
    k ∈ keys c.insertionList ↔ (c.cache k).isSome := by
  rw [h.insertion.mem_keys, Option.isSome_map]

variable [DecidableEq κ]

/-- The cache without a key, whether or not it held it. -/
def dropKey (c : NvCache κ ν) (k : κ) : NvCache κ ν where
  cache := Function.update c.cache k none
  lruList := c.lruList.filter (fun n => n.key ≠ k)
  insertionList := c.insertionList.filter (fun n => n.key ≠ k)
  currentSizeBytes := subSize c.currentSizeBytes (sizeAt c k)
  nextNode := c.nextNode
  underflowed := c.underflowed || c.currentSizeBytes < sizeAt c k

theorem sum_filter_ne {l : List κ} (h : l.Nodup) (f : κ → Nat) (k : κ) :
    ((l.filter (· ≠ k)).map f).sum + (if k ∈ l then f k else 0) = (l.map f).sum := by
  by_cases hk : k ∈ l
  · have hsum := List.sum_map_erase f hk
    have herase : l.erase k = l.filter (· ≠ k) := by
      rw [List.Nodup.erase_eq_filter h]
      exact List.filter_congr fun x _ => by simp [bne, beq_eq_decide]
    rw [if_pos hk, ← hsum, herase, Nat.add_comm]
  · have hsame : l.filter (· ≠ k) = l := by
      apply List.filter_eq_self.mpr
      intro x hx
      simpa using fun (heq : x = k) => hk (heq ▸ hx)
    rw [hsame, if_neg hk, Nat.add_zero]

theorem sizeAt_dropKey {c : NvCache κ ν} {k k' : κ} (h : k' ≠ k) :
    sizeAt (dropKey c k) k' = sizeAt c k' := by
  simp [sizeAt, dropKey, h]

theorem map_update_none {β : Type} (c : NvCache κ ν) (k : κ) (f : NvCacheObject ν → β) :
    (fun k' => (Function.update c.cache k none k').map f) =
      Function.update (fun k' => (c.cache k').map f) k none := by
  funext k'
  by_cases h : k' = k
  · subst h; simp
  · simp [h]

theorem subSize_eq {a b : Nat} (h : b ≤ a) (ha : a < uint64Modulus) : subSize a b = a - b := by
  have hsub : a + uint64Modulus - b = (a - b) + uint64Modulus := by omega
  rw [subSize, hsub, Nat.add_mod_right, Nat.mod_eq_of_lt (by omega)]

theorem Linked.dropKey {c : NvCache κ ν} (h : Linked c) (k : κ) : Linked (dropKey c k) := by
  refine ⟨?_, ?_, Nat.mod_lt _ (by decide)⟩
  · simpa only [Cache.dropKey, map_update_none] using h.lru.drop
  · simpa only [Cache.dropKey, map_update_none] using h.insertion.drop

theorem Linked.sum_dropKey {c : NvCache κ ν} (h : Linked c) (k : κ) :
    ((keys (Cache.dropKey c k).lruList).map (sizeAt (Cache.dropKey c k))).sum + sizeAt c k =
      ((keys c.lruList).map (sizeAt c)).sum := by
  have hsum := sum_filter_ne h.lru.keys_nodup (sizeAt c) k
  have hkeys : keys (Cache.dropKey c k).lruList = (keys c.lruList).filter (· ≠ k) :=
    keys_filter_key c.lruList k
  have hmap : ((keys c.lruList).filter (· ≠ k)).map (sizeAt (Cache.dropKey c k)) =
      ((keys c.lruList).filter (· ≠ k)).map (sizeAt c) := by
    apply List.map_congr_left
    intro k' hk'
    exact sizeAt_dropKey (by simpa using (List.mem_filter.mp hk').2)
  have hk : (if k ∈ keys c.lruList then sizeAt c k else 0) = sizeAt c k := by
    by_cases hmem : k ∈ keys c.lruList
    · exact if_pos hmem
    · have hnone : c.cache k = none := by simpa using mt (h.mem_lru k).mpr hmem
      simp [hmem, sizeAt, hnone]
  rw [hkeys, hmap, ← hsum, hk]

theorem Inv.sizeAt_le {opts : NvCacheOptions} {c : NvCache κ ν} (h : Inv opts c) (k : κ) :
    sizeAt c k ≤ c.currentSizeBytes := by
  have hsum := h.sum_dropKey k
  rw [h.size]
  omega

theorem Inv.dropKey_size {opts : NvCacheOptions} {c : NvCache κ ν} (h : Inv opts c) (k : κ) :
    (Cache.dropKey c k).currentSizeBytes = c.currentSizeBytes - sizeAt c k :=
  subSize_eq (h.sizeAt_le k) h.counter

theorem Inv.dropKey {opts : NvCacheOptions} {c : NvCache κ ν} (h : Inv opts c) (k : κ) :
    Inv opts (dropKey c k) := by
  have hsum := h.sum_dropKey k
  have hsize := h.dropKey_size k
  have hle := h.sizeAt_le k
  refine ⟨h.toLinked.dropKey k, ?_, ?_, ?_⟩
  · rw [hsize, h.size]
    omega
  · have := h.bounded
    omega
  · simp only [Cache.dropKey, h.unsigned, Bool.false_or, decide_eq_false_iff_not]
    omega

/-- On a key it holds, the helper drops exactly that key. -/
theorem removeHelper_eq {c : NvCache κ ν} (h : Linked c) {k : κ} (hk : (c.cache k).isSome) :
    removeHelper c k = .ok (dropKey c k) := by
  obtain ⟨obj, hobj⟩ := Option.isSome_iff_exists.mp hk
  have hsize : sizeAt c k = obj.sizeBytes := by simp [sizeAt, hobj]
  have hlru := h.lru.erase (k := k) (i := obj.lruNode) (by simp [hobj])
  have hins := h.insertion.erase (k := k) (i := obj.insertionNode) (by simp [hobj])
  rw [removeHelper, hobj]
  simp only [hlru, hins, ← hsize]
  rfl

/-- The cache after a list of keys is dropped, first to last. -/
def dropAll (c : NvCache κ ν) (ks : List κ) : NvCache κ ν := ks.foldl dropKey c

@[simp] theorem dropAll_nil (c : NvCache κ ν) : dropAll c [] = c := rfl

@[simp] theorem dropAll_cons (c : NvCache κ ν) (k : κ) (ks : List κ) :
    dropAll c (k :: ks) = dropAll (dropKey c k) ks := rfl

theorem Linked.dropAll {c : NvCache κ ν} (h : Linked c) (ks : List κ) : Linked (dropAll c ks) := by
  induction ks generalizing c with
  | nil => exact h
  | cons k ks ih => exact ih (h.dropKey k)

theorem Inv.dropAll {opts : NvCacheOptions} {c : NvCache κ ν} (h : Inv opts c) (ks : List κ) :
    Inv opts (dropAll c ks) := by
  induction ks generalizing c with
  | nil => exact h
  | cons k ks ih => exact ih (h.dropKey k)

theorem dropAll_cache (c : NvCache κ ν) (ks : List κ) (k : κ) :
    (dropAll c ks).cache k = if k ∈ ks then none else c.cache k := by
  induction ks generalizing c with
  | nil => simp
  | cons k' ks ih =>
    rw [dropAll_cons, ih]
    by_cases hks : k ∈ ks
    · simp [hks]
    · by_cases hk : k = k' <;> simp [dropKey, hks, hk]

theorem Inv.dropAll_size_le {opts : NvCacheOptions} {c : NvCache κ ν} (h : Inv opts c)
    (ks : List κ) : (Cache.dropAll c ks).currentSizeBytes ≤ c.currentSizeBytes := by
  induction ks generalizing c with
  | nil => exact Nat.le_refl _
  | cons k ks ih =>
    have hdrop : (Cache.dropKey c k).currentSizeBytes ≤ c.currentSizeBytes := by
      rw [h.dropKey_size k]
      omega
    exact Nat.le_trans (ih (h.dropKey k)) hdrop

/-- Dropping the last key of a list without duplicates. -/
theorem keys_dropLast {l : List (Node κ)} {n : Node κ} (hnd : (keys l).Nodup)
    (hlast : l.getLast? = some n) :
    keys l = keys (l.filter (fun m => m.key ≠ n.key)) ++ [n.key] := by
  obtain ⟨front, rfl⟩ : ∃ front, l = front ++ [n] := by
    obtain ⟨front, hfront⟩ := List.getLast?_eq_some_iff.mp hlast
    exact ⟨front, hfront⟩
  have hnot : n.key ∉ keys front := by
    rw [keys, List.map_append, List.nodup_append] at hnd
    intro hmem
    exact hnd.2.2 _ hmem n.key (by simp) rfl
  rw [keys_filter_key]
  have hfront : (front.map Node.key).filter (· ≠ n.key) = front.map Node.key := by
    apply List.filter_eq_self.mpr
    intro x hx
    simpa using fun (heq : x = n.key) => hnot (heq ▸ hx)
  simp only [keys, List.map_append, List.filter_append, hfront]
  simp

/-- What the first eviction loop leaves: it dropped `ks`, the oldest keys oldest
first, each while there was no room and after its expiry, and it stopped with
room, with nothing left, or at a key that has not expired. -/
structure ExpiredEvicted (opts : NvCacheOptions) (clock : Nat → Int) (size i : Nat)
    (c : NvCache κ ν) (ks : List κ) : Prop where
  oldest : keys c.insertionList = keys (dropAll c ks).insertionList ++ ks.reverse
  needed : ∀ j k, ks[j]? = some k → NoRoom opts (dropAll c (ks.take j)) size ∧
    ∃ obj, c.cache k = some obj ∧ obj.expiryTime ≤ clock (i + j)
  stopped : ¬ NoRoom opts (dropAll c ks) size ∨ (dropAll c ks).insertionList = [] ∨
    ∃ last obj, (dropAll c ks).insertionList.getLast? = some last ∧
      (dropAll c ks).cache last.key = some obj ∧ clock (i + ks.length) < obj.expiryTime

theorem evictExpired_spec (opts : NvCacheOptions) (clock : Nat → Int) (size : Nat) :
    ∀ (fuel i : Nat) (c : NvCache κ ν), Linked c → c.insertionList.length ≤ fuel →
      ∃ ks i', evictExpired opts clock size fuel i c = .ok (dropAll c ks, i') ∧
        ExpiredEvicted opts clock size i c ks := by
  intro fuel
  induction fuel with
  | zero =>
    intro i c h hf
    have hnil : c.insertionList = [] := List.eq_nil_of_length_eq_zero (by omega)
    refine ⟨[], i, by simp [evictExpired, hnil], ?_⟩
    exact ⟨by simp, by simp, Or.inr (Or.inl (by simpa using hnil))⟩
  | succ fuel ih =>
    intro i c h hf
    cases hlast : c.insertionList.getLast? with
    | none =>
      have hnil : c.insertionList = [] := List.getLast?_eq_none_iff.mp hlast
      refine ⟨[], i, by simp [evictExpired, hnil], ?_⟩
      exact ⟨by simp, by simp, Or.inr (Or.inl (by simpa using hnil))⟩
    | some oldest =>
      have hmem : oldest ∈ c.insertionList := List.mem_of_getLast? hlast
      have hstored : (c.cache oldest.key).isSome :=
        (h.mem_insertion oldest.key).mp (List.mem_map_of_mem hmem)
      obtain ⟨obj, hobj⟩ := Option.isSome_iff_exists.mp hstored
      by_cases hroom : NoRoom opts c size
      · by_cases hexp : clock i < obj.expiryTime
        · refine ⟨[], i + 1, by rw [evictExpired, hlast]; simp [hroom, hobj, hexp], ?_⟩
          exact ⟨by simp, by simp, Or.inr (Or.inr ⟨oldest, obj, by simpa using hlast, hobj, hexp⟩)⟩
        · have hkeys := keys_dropLast h.insertion.keys_nodup hlast
          have hlen : (dropKey c oldest.key).insertionList.length ≤ fuel := by
            have := congrArg List.length hkeys
            simp only [keys, List.length_map, List.length_append, List.length_singleton] at this
            change (c.insertionList.filter (fun m => m.key ≠ oldest.key)).length ≤ fuel
            omega
          obtain ⟨ks, i', hrun, hspec⟩ := ih (i + 1) (dropKey c oldest.key) (h.dropKey _) hlen
          refine ⟨oldest.key :: ks, i', ?_, ?_, ?_, ?_⟩
          · rw [evictExpired, hlast]
            simp [hroom, hobj, hexp, removeHelper_eq h hstored, hrun]
          · rw [hkeys, List.reverse_cons, ← List.append_assoc, dropAll_cons, ← hspec.oldest]
            rfl
          · intro j k hj
            cases j with
            | zero =>
              obtain rfl : oldest.key = k := by simpa using hj
              exact ⟨hroom, obj, hobj, by simpa using hexp⟩
            | succ j =>
              obtain ⟨hnr, obj', hobj', hexp'⟩ := hspec.needed j k (by simpa using hj)
              refine ⟨hnr, obj', ?_, ?_⟩
              · by_cases hk : k = oldest.key
                · simp [dropKey, hk] at hobj'
                · simpa [dropKey, hk] using hobj'
              · rwa [Nat.add_right_comm, Nat.add_assoc] at hexp'
          · have hidx : i + (oldest.key :: ks).length = i + 1 + ks.length := by
              simp
              omega
            rw [hidx]
            exact hspec.stopped
      · refine ⟨[], i, by rw [evictExpired, hlast]; simp [hroom], ?_⟩
        exact ⟨by simp, by simp, Or.inl hroom⟩

/-- What the second eviction loop leaves: it dropped `ks`, the least recently
used keys first, each while there was no room. -/
structure LruEvicted (opts : NvCacheOptions) (size : Nat) (c : NvCache κ ν) (ks : List κ) :
    Prop where
  leastRecent : keys c.lruList = keys (dropAll c ks).lruList ++ ks.reverse
  needed : ∀ j, j < ks.length → NoRoom opts (dropAll c (ks.take j)) size
  stopped : ¬ NoRoom opts (dropAll c ks) size ∨ (dropAll c ks).lruList = []

theorem evictLru_spec (opts : NvCacheOptions) (size : Nat) :
    ∀ (fuel : Nat) (c : NvCache κ ν), Linked c → c.lruList.length ≤ fuel →
      ∃ ks, evictLru opts size fuel c = .ok (dropAll c ks) ∧ LruEvicted opts size c ks := by
  intro fuel
  induction fuel with
  | zero =>
    intro c h hf
    have hnil : c.lruList = [] := List.eq_nil_of_length_eq_zero (by omega)
    exact ⟨[], by simp [evictLru, hnil], by simp, by simp, Or.inr (by simpa using hnil)⟩
  | succ fuel ih =>
    intro c h hf
    cases hlast : c.lruList.getLast? with
    | none =>
      have hnil : c.lruList = [] := List.getLast?_eq_none_iff.mp hlast
      exact ⟨[], by simp [evictLru, hnil], by simp, by simp, Or.inr (by simpa using hnil)⟩
    | some oldest =>
      have hmem : oldest ∈ c.lruList := List.mem_of_getLast? hlast
      have hstored : (c.cache oldest.key).isSome :=
        (h.mem_lru oldest.key).mp (List.mem_map_of_mem hmem)
      by_cases hroom : NoRoom opts c size
      · have hkeys := keys_dropLast h.lru.keys_nodup hlast
        have hlen : (dropKey c oldest.key).lruList.length ≤ fuel := by
          have := congrArg List.length hkeys
          simp only [keys, List.length_map, List.length_append, List.length_singleton] at this
          change (c.lruList.filter (fun m => m.key ≠ oldest.key)).length ≤ fuel
          omega
        obtain ⟨ks, hrun, hspec⟩ := ih (dropKey c oldest.key) (h.dropKey _) hlen
        refine ⟨oldest.key :: ks, ?_, ?_, ?_, hspec.stopped⟩
        · rw [evictLru, hlast]
          simp [hroom, removeHelper_eq h hstored, hrun]
        · rw [hkeys, List.reverse_cons, ← List.append_assoc, dropAll_cons, ← hspec.leastRecent]
          rfl
        · intro j hj
          cases j with
          | zero => exact hroom
          | succ j => exact hspec.needed j (by simpa using hj)
      · exact ⟨[], by rw [evictLru, hlast]; simp [hroom], by simp, by simp, Or.inl hroom⟩

/-- A cache that holds nothing has room for whatever fits at all. -/
theorem LruEvicted.room {opts : NvCacheOptions} {size : Nat} {c : NvCache κ ν} {ks : List κ}
    (hspec : LruEvicted opts size c ks) (h : Inv opts c) (hsize : size ≤ opts.maxSizeBytes) :
    ¬ NoRoom opts (dropAll c ks) size := by
  cases hspec.stopped with
  | inl hroom => exact hroom
  | inr hnil =>
    have hzero : (dropAll c ks).currentSizeBytes = 0 := by
      rw [(h.dropAll ks).size, hnil]
      rfl
    have hmod := Nat.mod_le size uint64Modulus
    simp only [NoRoom, hzero, Nat.zero_add]
    omega

end AttestationSdk.Cache
