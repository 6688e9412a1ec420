import AttestationSdk.NvCacheEviction

/-! Each call of `NvCache` and the invariant over whole sequences of calls. -/
namespace AttestationSdk.Cache
open CalendarTime NodeList ExceptRules
variable {κ ν : Type} [DecidableEq κ]

theorem map_update_some {β : Type} (c : NvCache κ ν) (k : κ) (obj : NvCacheObject ν)
    (f : NvCacheObject ν → β) :
    (fun k' => (Function.update c.cache k (some obj) k').map f) =
      Function.update (fun k' => (c.cache k').map f) k (some (f obj)) := by
  funext k'
  by_cases h : k' = k
  · subst h; simp
  · simp [h]

theorem Linked.insertFront {c : NvCache κ ν} (h : Linked c) {k : κ} (hk : c.cache k = none)
    (value : ν) (size : Nat) (expiry : Int) : Linked (insertFront c k value size expiry) := by
  refine ⟨?_, ?_, Nat.mod_lt _ (by decide)⟩
  · simp only [Cache.insertFront, map_update_some]
    exact h.lru.push (by simp [hk]) (Nat.le_refl _) (by omega)
  · simp only [Cache.insertFront, map_update_some]
    exact h.insertion.push (by simp [hk]) (Nat.le_succ _) (by omega)

theorem Inv.insertFront {opts : NvCacheOptions} {c : NvCache κ ν} (h : Inv opts c) {k : κ}
    (hk : c.cache k = none) (value : ν) {size : Nat} (expiry : Int)
    (hroom : ¬ NoRoom opts c size) (hfit : c.currentSizeBytes + size < uint64Modulus) :
    Inv opts (insertFront c k value size expiry) := by
  have hmod : (c.currentSizeBytes + size) % uint64Modulus = c.currentSizeBytes + size :=
    Nat.mod_eq_of_lt hfit
  have hnot : k ∉ keys c.lruList := by
    rw [h.mem_lru, hk]
    simp
  refine ⟨h.toLinked.insertFront hk value size expiry, ?_, ?_, h.unsigned⟩
  · have hsame : (keys c.lruList).map (sizeAt (Cache.insertFront c k value size expiry)) =
        (keys c.lruList).map (sizeAt c) := by
      apply List.map_congr_left
      intro k' hk'
      have hne : k' ≠ k := fun heq => hnot (heq ▸ hk')
      simp [sizeAt, Cache.insertFront, hne]
    have hnew : sizeAt (Cache.insertFront c k value size expiry) k = size := by
      simp [sizeAt, Cache.insertFront]
    change (c.currentSizeBytes + size) % uint64Modulus =
      ((k :: keys c.lruList).map (sizeAt (Cache.insertFront c k value size expiry))).sum
    rw [List.map_cons, List.sum_cons, hsame, hnew, hmod, h.size, Nat.add_comm]
  · simpa [NoRoom, Cache.insertFront] using hroom

theorem dropKey_absent {c : NvCache κ ν} (h : Linked c) {k : κ}
    (hk : c.cache k = none) : dropKey c k = c := by
  have hkeep : ∀ l : List (Node κ), k ∉ keys l → l.filter (fun n => n.key ≠ k) = l := by
    intro l hl
    apply List.filter_eq_self.mpr
    intro n hn
    simpa using fun (heq : n.key = k) => hl (heq ▸ List.mem_map_of_mem hn)
  have hlru := hkeep c.lruList (by rw [h.mem_lru, hk]; simp)
  have hins := hkeep c.insertionList (by rw [h.mem_insertion, hk]; simp)
  have hmap : Function.update c.cache k none = c.cache := by rw [← hk, Function.update_eq_self]
  have hsize : sizeAt c k = 0 := by simp [sizeAt, hk]
  rw [dropKey, hlru, hins, hmap, hsize, subSize_eq (Nat.zero_le _) h.counter]
  simp

/-- A put that fits drops the key itself, what the two loops evict, and inserts
in front. -/
theorem put_spec {opts : NvCacheOptions} {c : NvCache κ ν} (clock : Nat → Int) (h : Linked c)
    (key : κ) (value : ν) {size : Nat} (hsize : size ≤ opts.maxSizeBytes) :
    ∃ es ls i, ExpiredEvicted opts clock size 0 (dropKey c key) es ∧
      LruEvicted opts size (dropAll (dropKey c key) es) ls ∧
      put opts clock c key value size = (do
        let expiry ← addTime (clock i) opts.ttlSeconds
        .ok (.Ok, insertFront (dropAll (dropAll (dropKey c key) es) ls) key value size expiry)) := by
  have h0 := h.dropKey key
  obtain ⟨es, i, hexp, hes⟩ := evictExpired_spec opts clock size
    (dropKey c key).insertionList.length 0 (dropKey c key) h0 (Nat.le_refl _)
  obtain ⟨ls, hlru, hls⟩ := evictLru_spec opts size
    (dropAll (dropKey c key) es).lruList.length _ (h0.dropAll es) (Nat.le_refl _)
  refine ⟨es, ls, i, hes, hls, ?_⟩
  have hremove : removeExisting c key = .ok (dropKey c key) := by
    by_cases hk : (c.cache key).isSome
    · rw [removeExisting, if_pos hk, removeHelper_eq h hk]
    · rw [removeExisting, if_neg hk, dropKey_absent h (by simpa using hk)]
  rw [put, if_neg (by omega), hremove]
  simp only [ok_bind, hexp, hlru]
  rfl

theorem put_inv {opts : NvCacheOptions} {c : NvCache κ ν} (clock : Nat → Int) (h : Inv opts c)
    (key : κ) (value : ν) {size : Nat} (hfit : c.currentSizeBytes + size < uint64Modulus) :
    (∃ rc c', put opts clock c key value size = .ok (rc, c') ∧ Inv opts c' ∧
        c'.currentSizeBytes ≤ c.currentSizeBytes + size) ∨
      (put opts clock c key value size = .error .timeOverflow ∧
        ∃ i, ¬ InTimeT (clock i + opts.ttlSeconds)) := by
  by_cases hsize : size ≤ opts.maxSizeBytes
  · obtain ⟨es, ls, i, hes, hls, hput⟩ := put_spec clock h.toLinked key value hsize
    have h1 := (h.dropKey key).dropAll es
    have h2 := h1.dropAll ls
    have hle : (dropAll (dropAll (dropKey c key) es) ls).currentSizeBytes ≤ c.currentSizeBytes :=
      Nat.le_trans (h1.dropAll_size_le ls) (h.dropAll_size_le (key :: es))
    have habsent : (dropAll (dropAll (dropKey c key) es) ls).cache key = none := by
      simp [dropAll_cache, dropKey]
    rw [hput, addTime]
    by_cases ht : InTimeT (clock i + opts.ttlSeconds)
    · refine Or.inl ⟨.Ok, _, by rw [if_pos ht]; rfl,
        h2.insertFront habsent value _ (hls.room h1 hsize) (by omega), ?_⟩
      have hmod := Nat.mod_le
        ((dropAll (dropAll (dropKey c key) es) ls).currentSizeBytes + size) uint64Modulus
      change ((dropAll (dropAll (dropKey c key) es) ls).currentSizeBytes + size) %
        uint64Modulus ≤ _
      omega
    · exact Or.inr ⟨by rw [if_neg ht]; rfl, i, ht⟩
  · exact Or.inl ⟨.BadArgument, c, by rw [put, if_pos (by omega)], h, Nat.le_add_right _ _⟩

/-- A get that finds a live entry moves its cell to the front. -/
theorem get_spec {c : NvCache κ ν} (h : Linked c) (now : Int) (key : κ)
    {obj : NvCacheObject ν} (hobj : c.cache key = some obj) (hlive : now < obj.expiryTime) :
    get now c key = .ok (.Ok, some obj.value, { c with
      lruList := ⟨obj.lruNode, key⟩ :: c.lruList.filter (fun n => n.key ≠ key) }) := by
  have hsplice := h.lru.spliceFront (k := key) (i := obj.lruNode) (by simp [hobj])
  rw [get, hobj]
  simp only
  rw [if_neg (by omega), hsplice]

theorem Linked.moved {c : NvCache κ ν} (h : Linked c) {key : κ} {obj : NvCacheObject ν}
    (hobj : c.cache key = some obj) :
    Linked { c with
      lruList := ⟨obj.lruNode, key⟩ :: c.lruList.filter (fun n => n.key ≠ key) } :=
  ⟨h.lru.moved (by simp [hobj]), h.insertion, h.counter⟩

theorem Inv.moved {opts : NvCacheOptions} {c : NvCache κ ν} (h : Inv opts c) {key : κ}
    {obj : NvCacheObject ν} (hobj : c.cache key = some obj) :
    Inv opts { c with
      lruList := ⟨obj.lruNode, key⟩ :: c.lruList.filter (fun n => n.key ≠ key) } := by
  refine ⟨h.toLinked.moved hobj, ?_, h.bounded, h.unsigned⟩
  have hmem : key ∈ keys c.lruList := (h.mem_lru key).mpr (by simp [hobj])
  have hsum := sum_filter_ne h.lru.keys_nodup (sizeAt c) key
  rw [if_pos hmem, ← keys_filter_key, ← h.size, Nat.add_comm] at hsum
  exact hsum.symm

theorem get_inv {opts : NvCacheOptions} {c : NvCache κ ν} (h : Inv opts c) (now : Int) (key : κ) :
    ∃ rc out c', get now c key = .ok (rc, out, c') ∧ Inv opts c' ∧
      c'.currentSizeBytes = c.currentSizeBytes := by
  cases hobj : c.cache key with
  | none => exact ⟨.CacheObjectNotFound, none, c, by rw [get, hobj], h, rfl⟩
  | some obj =>
    by_cases hlive : now < obj.expiryTime
    · exact ⟨_, _, _, get_spec h.toLinked now key hobj hlive, h.moved hobj, rfl⟩
    · refine ⟨.CacheObjectNotFound, none, c, ?_, h, rfl⟩
      rw [get, hobj]
      exact if_pos (by omega)

theorem remove_eq {c : NvCache κ ν} (h : Linked c) (key : κ) :
    remove c key = .ok (dropKey c key) := by
  cases hobj : c.cache key with
  | none => rw [remove, hobj, dropKey_absent h hobj]
  | some obj =>
    rw [remove, hobj]
    exact removeHelper_eq h (by simp [hobj])

omit [DecidableEq κ] in
theorem Inv.clear {opts : NvCacheOptions} {c : NvCache κ ν} (h : Inv opts c) :
    Inv opts (clear c) :=
  ⟨⟨indexed_nil _, indexed_nil _, by simp [Cache.clear, uint64Modulus]⟩, rfl, Nat.zero_le _,
    h.unsigned⟩

/-- One call keeps the invariant; the only way out is a `time_t` sum that
overflows. -/
theorem step_inv {opts : NvCacheOptions} {c : NvCache κ ν} (clock : Nat → Int) (h : Inv opts c)
    (op : Op κ ν) (hfit : c.currentSizeBytes + op.size < uint64Modulus) :
    (∃ rc out c', step opts clock c op = .ok (rc, out, c') ∧ Inv opts c' ∧
        c'.currentSizeBytes ≤ c.currentSizeBytes + op.size) ∨
      (step opts clock c op = .error .timeOverflow ∧
        ∃ i, ¬ InTimeT (clock i + opts.ttlSeconds)) := by
  cases op with
  | put key value size =>
    have hfit' : c.currentSizeBytes + size < uint64Modulus := hfit
    cases put_inv clock h key value hfit' with
    | inl hok =>
      obtain ⟨rc, c', hput, hinv, hle⟩ := hok
      exact Or.inl ⟨rc, none, c', by simp [step, hput], hinv, hle⟩
    | inr herr => exact Or.inr ⟨by simp [step, herr.1], herr.2⟩
  | get key =>
    obtain ⟨rc, out, c', hget, hinv, hsize⟩ := get_inv h (clock 0) key
    exact Or.inl ⟨rc, out, c', hget, hinv, by omega⟩
  | remove key =>
    refine Or.inl ⟨.Ok, none, dropKey c key, by simp [step, remove_eq h.toLinked key], h.dropKey key, ?_⟩
    exact Nat.le_trans (h.dropAll_size_le [key]) (Nat.le_add_right _ _)
  | clear => exact Or.inl ⟨.Ok, none, clear c, rfl, h.clear, Nat.zero_le _⟩

/-- What a reader of the header may rely on between two calls. -/
structure WellFormed (opts : NvCacheOptions) (c : NvCache κ ν) : Prop where
  lru_keys : ∀ k, k ∈ keys c.lruList ↔ (c.cache k).isSome
  insertion_keys : ∀ k, k ∈ keys c.insertionList ↔ (c.cache k).isSome
  lru_nodup : (keys c.lruList).Nodup
  insertion_nodup : (keys c.insertionList).Nodup
  lru_pointer : ∀ k obj, c.cache k = some obj →
    ⟨obj.lruNode, k⟩ ∈ c.lruList ∧ ∀ n ∈ c.lruList, n.id = obj.lruNode → n.key = k
  insertion_pointer : ∀ k obj, c.cache k = some obj →
    ⟨obj.insertionNode, k⟩ ∈ c.insertionList ∧
      ∀ n ∈ c.insertionList, n.id = obj.insertionNode → n.key = k
  size : ∀ ks : List κ, ks.Nodup → (∀ k, k ∈ ks ↔ (c.cache k).isSome) →
    c.currentSizeBytes = (ks.map (sizeAt c)).sum
  bounded : c.currentSizeBytes ≤ opts.maxSizeBytes
  unsigned : c.underflowed = false

omit [DecidableEq κ] in
theorem Inv.wellFormed {opts : NvCacheOptions} {c : NvCache κ ν} (h : Inv opts c) :
    WellFormed opts c where
  lru_keys := h.mem_lru
  insertion_keys := h.mem_insertion
  lru_nodup := h.lru.keys_nodup
  insertion_nodup := h.insertion.keys_nodup
  lru_pointer k obj hobj :=
    ⟨(h.lru.points _ _).mpr (by simp [hobj]),
      fun _ hn hid => (h.lru.id_iff_key (by simp [hobj]) hn).mp hid⟩
  insertion_pointer k obj hobj :=
    ⟨(h.insertion.points _ _).mpr (by simp [hobj]),
      fun _ hn hid => (h.insertion.id_iff_key (by simp [hobj]) hn).mp hid⟩
  size ks hnd hks := by
    have hperm : ks.Perm (keys c.lruList) :=
      (List.perm_ext_iff_of_nodup hnd h.lru.keys_nodup).mpr fun k => by rw [hks, h.mem_lru]
    rw [h.size, (hperm.map (sizeAt c)).sum_eq]
  bounded := h.bounded
  unsigned := h.unsigned

theorem run_inv {opts : NvCacheOptions} (calls : List ((Nat → Int) × Op κ ν)) :
    ∀ {c : NvCache κ ν}, Inv opts c →
      c.currentSizeBytes + (calls.map (fun call => call.2.size)).sum < uint64Modulus →
      (∃ c', run opts c calls = .ok c' ∧ Inv opts c') ∨
        (run opts c calls = .error .timeOverflow ∧
          ∃ call ∈ calls, ∃ i, ¬ InTimeT (call.1 i + opts.ttlSeconds)) := by
  induction calls with
  | nil => exact fun h _ => Or.inl ⟨_, rfl, h⟩
  | cons call rest ih =>
    intro c h hfit
    obtain ⟨clock, op⟩ := call
    simp only [List.map_cons, List.sum_cons] at hfit
    cases step_inv clock h op (by omega) with
    | inl hok =>
      obtain ⟨rc, out, c', hstep, hinv, hle⟩ := hok
      have hrun : run opts c ((clock, op) :: rest) = run opts c' rest := by
        simp [run, hstep]
      rw [hrun]
      cases ih hinv (by omega) with
      | inl hrest => exact Or.inl hrest
      | inr hrest =>
        obtain ⟨herr, call, hcall, hover⟩ := hrest
        exact Or.inr ⟨herr, call, List.mem_cons_of_mem _ hcall, hover⟩
    | inr herr =>
      obtain ⟨hstep, hover⟩ := herr
      exact Or.inr ⟨by simp [run, hstep], (clock, op), by simp, hover⟩

/-- Every sequence of calls, with any clock readings, leaves the map, the two
lists, the stored iterators and the byte counter in step. No call indexes a key
the map does not hold, uses an invalid iterator or lets the counter wrap; the one
call without a result is a put whose expiry time no longer fits a `time_t`. -/
theorem run_wellFormed (opts : NvCacheOptions) (calls : List ((Nat → Int) × Op κ ν))
    (hsizes : (calls.map (fun call => call.2.size)).sum < 9223372036854775808) :
    (∃ c, run opts emptyCache calls = .ok c ∧ WellFormed opts c) ∨
      (run opts emptyCache calls = .error .timeOverflow ∧
        ∃ call ∈ calls, ∃ i, ¬ InTimeT (call.1 i + opts.ttlSeconds)) := by
  have hfit : (emptyCache : NvCache κ ν).currentSizeBytes +
      (calls.map (fun call => call.2.size)).sum < uint64Modulus := by
    simp only [emptyCache, uint64Modulus]
    omega
  cases run_inv calls (inv_empty opts) hfit with
  | inl hok =>
    obtain ⟨c, hrun, hinv⟩ := hok
    exact Or.inl ⟨c, hrun, hinv.wellFormed⟩
  | inr herr => exact Or.inr herr

/-- The second put evicts the expired entry of the first. -/
def sampleCalls : List ((Nat → Int) × Op Nat Nat) :=
  [(fun _ => 0, .put 1 7 6), (fun _ => 1, .get 1), (fun i => 9 + i, .put 2 8 9),
    (fun _ => 10, .remove 1), (fun _ => 11, .put 2 9 10)]

theorem run_wellFormed_sample :
    ∃ c, run ⟨10, 5⟩ emptyCache sampleCalls = .ok c ∧ WellFormed ⟨10, 5⟩ c := by
  cases run_wellFormed ⟨10, 5⟩ sampleCalls (by decide) with
  | inl hok => exact hok
  | inr herr =>
    have hrun : (run ⟨10, 5⟩ emptyCache sampleCalls).isOk := by decide
    rw [herr.1] at hrun
    cases hrun

end AttestationSdk.Cache
