import AttestationSdk.NvCacheHistory

/-! `NvCache` as a bounded map with a time to live and the documented eviction
order. -/
namespace AttestationSdk.Cache
open NodeList ExceptRules
variable {κ ν : Type} [DecidableEq κ]

theorem dropAll_append (c : NvCache κ ν) (ks ks' : List κ) :
    dropAll c (ks ++ ks') = dropAll (dropAll c ks) ks' :=
  List.foldl_append

/-- A put that returns `Ok` under one clock reading. -/
theorem put_ok {opts : NvCacheOptions} {c c' : NvCache κ ν} {now : Int} (h : Linked c)
    {key : κ} {value : ν} {size : Nat} {rc : Error}
    (hput : put opts (fun _ => now) c key value size = .ok (rc, c')) (hrc : rc = .Ok) :
    size ≤ opts.maxSizeBytes ∧ ∃ es ls,
      ExpiredEvicted opts (fun _ => now) size 0 (dropKey c key) es ∧
      LruEvicted opts size (dropAll (dropKey c key) es) ls ∧
      c' = insertFront (dropAll c (key :: (es ++ ls))) key value size (now + opts.ttlSeconds) := by
  by_cases hsize : size ≤ opts.maxSizeBytes
  · obtain ⟨es, ls, i, hes, hls, heq⟩ := put_spec (fun _ => now) h key value hsize
    refine ⟨hsize, es, ls, hes, hls, ?_⟩
    rw [heq, addTime] at hput
    split at hput
    · rw [dropAll_cons, dropAll_append]
      simp only [ok_bind, Except.ok.injEq, Prod.mk.injEq] at hput
      exact hput.2.symm
    · simp at hput
  · rw [put, if_pos (by omega)] at hput
    simp only [Except.ok.injEq, Prod.mk.injEq] at hput
    rw [← hput.1] at hrc
    cases hrc

/-- A put that returns an error returns the cache it was given. -/
theorem put_error {opts : NvCacheOptions} {c c' : NvCache κ ν} {now : Int} (h : Linked c)
    {key : κ} {value : ν} {size : Nat} {rc : Error}
    (hput : put opts (fun _ => now) c key value size = .ok (rc, c')) (hrc : rc ≠ .Ok) :
    c' = c := by
  by_cases hsize : size ≤ opts.maxSizeBytes
  · obtain ⟨es, ls, i, _, _, heq⟩ := put_spec (fun _ => now) h key value hsize
    rw [heq, addTime] at hput
    split at hput
    · simp only [ok_bind, Except.ok.injEq, Prod.mk.injEq] at hput
      exact absurd hput.1.symm hrc
    · simp at hput
  · rw [put, if_pos (by omega)] at hput
    simp only [Except.ok.injEq, Prod.mk.injEq] at hput
    exact hput.2.symm

theorem untouched_of_get {k k' : κ} {s : Step κ ν} (h : s.op = .get k') : Untouched k s := by
  simp [Untouched, h]

/-- One call of a history. -/
theorem Tracks.step {opts : NvCacheOptions} {steps : List (Step κ ν)} {c : NvCache κ ν}
    (h : Tracks opts steps c) {s : Step κ ν} (hbefore : s.before = c)
    (hnow : ∀ s' ∈ steps, s'.time ≤ s.time)
    (hfit : c.currentSizeBytes + s.op.size < uint64Modulus)
    (hstep : step opts (fun _ => s.time) c s.op = .ok (s.rc, s.out, s.after)) :
    Tracks opts (steps ++ [s]) s.after := by
  cases hop : s.op with
  | put key value size =>
    rw [hop, Cache.step] at hstep
    obtain ⟨⟨rc, c'⟩, hput, heq⟩ := bind_eq_ok.mp hstep
    obtain ⟨hrc, -, hafter⟩ : rc = s.rc ∧ none = s.out ∧ c' = s.after := by simpa using heq
    subst hafter
    by_cases hok : s.rc = .Ok
    · obtain ⟨hsize, es, ls, hes, hls, hafter⟩ := put_ok h.inv.toLinked hput (hrc.trans hok)
      have hroom := hls.room ((h.inv.dropKey key).dropAll es) hsize
      rw [← dropAll_cons, ← dropAll_append] at hroom
      rw [hop] at hfit
      exact h.insert (key :: (es ++ ls)) (by simp) hroom hfit hop hok hnow hafter
    · have hsame := put_error h.inv.toLinked hput (hrc ▸ hok)
      rw [hsame]
      refine h.keep (fun k => ?_) (by simp [recency_snoc, hop, hok])
      by_cases hk : key = k
      · simp [Untouched, hop, hk, hok]
      · simp [Untouched, hop, hk, hbefore, hsame]
        intro hsome hnone
        simp [hnone] at hsome
  | get key =>
    rw [hop] at hstep
    have hget : get s.time c key = .ok (s.rc, s.out, s.after) := hstep
    cases hobj : c.cache key with
    | none =>
      rw [get, hobj] at hget
      obtain ⟨hrc, -, hafter⟩ : .CacheObjectNotFound = s.rc ∧ none = s.out ∧ c = s.after := by
        simpa using hget
      rw [← hafter]
      exact h.keep (fun k => untouched_of_get hop) (by simp [recency_snoc, hop, ← hrc])
    | some obj =>
      by_cases hlive : s.time < obj.expiryTime
      · rw [get_spec h.inv.toLinked s.time key hobj hlive] at hget
        simp only [Except.ok.injEq, Prod.mk.injEq] at hget
        rw [← hget.2.2]
        exact h.moved hobj hop hget.1.symm
      · have hexpired : obj.expiryTime ≤ s.time := by omega
        rw [get, hobj] at hget
        simp only [if_pos hexpired, Except.ok.injEq, Prod.mk.injEq] at hget
        rw [← hget.2.2]
        exact h.keep (fun k => untouched_of_get hop) (by simp [recency_snoc, hop, ← hget.1])
  | remove key =>
    rw [hop, Cache.step, remove_eq h.inv.toLinked] at hstep
    have hafter : dropAll c [key] = s.after := by
      simp only [ok_bind, pure_eq_ok, Except.ok.injEq, Prod.mk.injEq] at hstep
      exact hstep.2.2
    rw [← hafter]
    refine h.drop [key] (fun k hk => ?_) (by simp [recency_snoc, hop])
    simpa [Untouched, hop, eq_comm] using hk
  | clear =>
    rw [hop, Cache.step] at hstep
    have hafter : clear c = s.after := by
      simp only [Except.ok.injEq, Prod.mk.injEq] at hstep
      exact hstep.2.2
    rw [← hafter]
    exact ⟨h.inv.clear, by simp [clear], by simp [clear], by simp [clear, keys],
      by simp [clear, keys]⟩

theorem History.snoc_inv {opts : NvCacheOptions} {steps : List (Step κ ν)} {s : Step κ ν}
    {c' : NvCache κ ν} (h : History opts (steps ++ [s]) c') :
    History opts steps s.before ∧ (∀ s' ∈ steps, s'.time ≤ s.time) ∧
      Cache.step opts (fun _ => s.time) s.before s.op = .ok (s.rc, s.out, s.after) ∧
      s.after = c' := by
  generalize hl : steps ++ [s] = l at h
  cases h with
  | start => simp at hl
  | call past later run =>
    obtain ⟨rfl, hs⟩ := List.append_inj' hl rfl
    obtain rfl : s = _ := by simpa using hs
    exact ⟨past, later, run, rfl⟩

/-- The invariant over whole histories. -/
theorem tracks_of_history {opts : NvCacheOptions} {steps : List (Step κ ν)} {c : NvCache κ ν}
    (h : History opts steps c)
    (hsizes : (steps.map (fun s => s.op.size)).sum < 9223372036854775808) :
    Tracks opts steps c := by
  induction h with
  | start => exact tracks_empty opts
  | call past later run ih =>
    simp only [List.map_append, List.sum_append, List.map_cons, List.map_nil,
      List.sum_singleton] at hsizes
    have htracks := ih (by omega)
    have hused := htracks.used
    exact htracks.step rfl later (by simp only [uint64Modulus]; omega) run

/-- The oldest entry bounds the expiry of all that is stored. -/
theorem Tracks.oldest_le {opts : NvCacheOptions} {steps : List (Step κ ν)} {c : NvCache κ ν}
    (h : Tracks opts steps c) (ks : List κ) {last : Node κ} {k : κ}
    (hlast : (dropAll c ks).insertionList.getLast? = some last)
    (hk : k ∈ keys (dropAll c ks).insertionList) :
    expiryAt (dropAll c ks) last.key ≤ expiryAt (dropAll c ks) k := by
  obtain ⟨front, hfront⟩ := List.getLast?_eq_some_iff.mp hlast
  have hord := ordered_dropAll ks h.ordered
  have hkeys : keys (dropAll c ks).insertionList = keys front ++ [last.key] := by
    rw [hfront, keys, List.map_append]
    rfl
  rw [hkeys] at hk hord
  cases List.mem_append.mp hk with
  | inl hin => exact (List.pairwise_append.mp hord).2.2 k hin last.key (by simp)
  | inr hin => exact Int.le_of_eq (by rw [List.mem_singleton.mp hin])

/-- A successful put evicts in the documented order. -/
theorem Tracks.evicts {opts : NvCacheOptions} {steps : List (Step κ ν)} {c c' : NvCache κ ν}
    (h : Tracks opts steps c) {now : Int} {key : κ} {value : ν} {size : Nat}
    (hfit : c.currentSizeBytes + size < uint64Modulus)
    (hput : put opts (fun _ => now) c key value size = .ok (.Ok, c')) :
    ∃ es ls, EvictsInOrder opts steps now c c' key value size es ls := by
  obtain ⟨hsize, es, ls, hes, hls, hafter⟩ := put_ok h.inv.toLinked hput rfl
  have h0 := h.inv.dropKey key
  have hle0 : (dropKey c key).currentSizeBytes ≤ c.currentSizeBytes := h.inv.dropAll_size_le [key]
  have hroom_iff : ∀ ks, NoRoom opts (dropAll (dropKey c key) ks) size ↔
      ¬ Fits opts (dropAll (dropKey c key) ks) size := by
    intro ks
    have := h0.dropAll_size_le ks
    exact noRoom_iff (by omega)
  have hcons : ∀ ks, dropAll (dropKey c key) ks = dropAll c (key :: ks) := fun _ => rfl
  have hcache : ∀ k, k ≠ key → c'.cache k = if k ∈ es ++ ls then none else c.cache k := by
    intro k hk
    simp [hafter, insertFront, dropAll_cache, dropKey, hk]
  refine ⟨es, ls, ⟨_, hes.oldest⟩, ?_, ?_, ?_, ?_, ?_, ?_, ?_, ?_, ?_⟩
  · intro k hk
    obtain ⟨j, hj⟩ := List.mem_iff_getElem?.mp hk
    obtain ⟨_, obj, hobj, hexp⟩ := hes.needed j k hj
    have hne : k ≠ key := by
      intro heq
      simp [dropKey, heq] at hobj
    exact ⟨obj, by simpa [dropKey, hne] using hobj, hexp⟩
  · intro j hj
    obtain ⟨hno, -⟩ := hes.needed j es[j] (by simp [hj])
    exact (hroom_iff _).mp hno
  · intro hne k obj hobj hk hkes
    have hno : NoRoom opts (dropAll (dropKey c key) es) size :=
      hls.needed 0 (List.length_pos_iff.mpr hne)
    have hstored : k ∈ keys (dropAll (dropKey c key) es).insertionList := by
      rw [(h0.dropAll es).mem_insertion, dropAll_cache]
      simp [hkes, dropKey, hk, hobj]
    cases hes.stopped with
    | inl hroom => exact absurd hno hroom
    | inr hrest =>
      cases hrest with
      | inl hnil =>
        rw [hnil] at hstored
        simp [keys] at hstored
      | inr hlive =>
        obtain ⟨last, obj', hlast, hobj', hlt⟩ := hlive
        rw [hcons] at hlast hobj' hstored
        have hmin := h.oldest_le (key :: es) hlast hstored
        have hk' : (dropAll c (key :: es)).cache k = some obj := by
          simp [dropAll_cache, dropKey, hkes, hk, hobj]
        simp only [expiryAt, hobj', hk', Option.map_some, Option.getD_some] at hmin
        omega
  · refine ⟨keys (dropAll (dropAll (dropKey c key) es) ls).lruList, ?_⟩
    rw [← hls.leastRecent, hcons, keys_dropAll_lru, h.recent, List.filter_filter]
    apply List.filter_congr
    intro k _
    by_cases hk : k = key
    · simp [hk]
    · by_cases hks : k ∈ es <;> simp [hk, hks]
  · intro j hj
    have hno := hls.needed j hj
    rw [← dropAll_append] at hno ⊢
    exact (hroom_iff _).mp hno
  · have hroom := hls.room (h0.dropAll es) hsize
    rw [← dropAll_append] at hroom ⊢
    by_contra hc
    exact hroom ((hroom_iff _).mpr hc)
  · intro k hk hin
    rw [hcache k hk, if_pos (List.mem_append.mpr hin)]
  · intro k hk hes' hls'
    rw [hcache k hk, if_neg (by simp [hes', hls'])]
  · simp [hafter, insertFront]

/-- The cache as a bounded map with a time to live, over every history. A get
that succeeds hands out the last put value, still present and not expired; a put
that fails changes nothing; the insertion list is ordered by expiry; and a put
that succeeds evicts the expired entries oldest first, then the shortest suffix
of the recency order that makes room. -/
theorem history_refines_bounded_ttl_map (opts : NvCacheOptions) {steps : List (Step κ ν)}
    {s : Step κ ν} {c : NvCache κ ν} (h : History opts (steps ++ [s]) c)
    (hsizes : ((steps ++ [s]).map (fun s => s.op.size)).sum < 9223372036854775808) :
    (∀ k v, s.op = .get k → s.rc = .Ok → s.out = some v →
      ∃ time, LastPut steps k v time ∧ s.time < time + opts.ttlSeconds) ∧
    (∀ k v size, s.op = .put k v size → s.rc ≠ .Ok → s.after = s.before) ∧
    (keys c.insertionList).Pairwise (fun a b => expiryAt c b ≤ expiryAt c a) ∧
    (∀ k v size, s.op = .put k v size → s.rc = .Ok →
      ∃ es ls, EvictsInOrder opts steps s.time s.before s.after k v size es ls) := by
  have hall := tracks_of_history h hsizes
  obtain ⟨hpast, hnow, hstep, hafter⟩ := h.snoc_inv
  simp only [List.map_append, List.sum_append, List.map_cons, List.map_nil,
    List.sum_singleton] at hsizes
  have htracks := tracks_of_history hpast (by omega)
  have hused := htracks.used
  refine ⟨?_, ?_, hall.ordered, ?_⟩
  · intro k v hop hrc hout
    rw [hop] at hstep
    have hget : get s.time s.before k = .ok (s.rc, s.out, s.after) := hstep
    cases hobj : s.before.cache k with
    | none =>
      rw [get, hobj] at hget
      simp only [Except.ok.injEq, Prod.mk.injEq] at hget
      rw [hrc] at hget
      cases hget.1
    | some obj =>
      by_cases hlive : s.time < obj.expiryTime
      · rw [get_spec htracks.inv.toLinked s.time k hobj hlive] at hget
        simp only [Except.ok.injEq, Prod.mk.injEq] at hget
        obtain rfl : obj.value = v := by simpa [hout] using hget.2.1
        obtain ⟨time, hlast, hexp⟩ := htracks.lastPut k obj hobj
        exact ⟨time, hlast, by omega⟩
      · have hexpired : obj.expiryTime ≤ s.time := by omega
        rw [get, hobj] at hget
        simp only [if_pos hexpired, Except.ok.injEq, Prod.mk.injEq] at hget
        rw [hrc] at hget
        cases hget.1
  · intro k v size hop hrc
    rw [hop, Cache.step] at hstep
    obtain ⟨⟨rc, c'⟩, hput, heq⟩ := bind_eq_ok.mp hstep
    obtain ⟨hrc', -, rfl⟩ : rc = s.rc ∧ none = s.out ∧ c' = s.after := by simpa using heq
    exact put_error htracks.inv.toLinked hput (hrc' ▸ hrc)
  · intro k v size hop hrc
    rw [hop, Cache.step] at hstep
    obtain ⟨⟨rc, c'⟩, hput, heq⟩ := bind_eq_ok.mp hstep
    obtain ⟨hrc', -, rfl⟩ : rc = s.rc ∧ none = s.out ∧ c' = s.after := by simpa using heq
    rw [hop] at hsizes
    have hsz : (Op.put k v size).size = size := rfl
    refine htracks.evicts ?_ (hrc ▸ hrc' ▸ hput)
    simp only [uint64Modulus]
    omega

/- The second put finds the first entry expired and evicts it. -/
def sampleFirst : NvCache Nat Nat := insertFront emptyCache 1 7 6 5

def sampleSecond : NvCache Nat Nat := insertFront (dropKey sampleFirst 1) 2 8 9 14

theorem history_sample : ∃ es ls, EvictsInOrder ⟨10, 5⟩
    [⟨0, .put 1 7 6, .Ok, none, emptyCache, sampleFirst⟩] 9 sampleFirst sampleSecond 2 8 9 es ls := by
  have h1 : History ⟨10, 5⟩ [⟨0, .put 1 7 6, .Ok, none, emptyCache, sampleFirst⟩] sampleFirst :=
    .call .start (by simp) rfl
  have h2 : History ⟨10, 5⟩ ([⟨0, .put 1 7 6, .Ok, none, emptyCache, sampleFirst⟩] ++
      [⟨9, .put 2 8 9, .Ok, none, sampleFirst, sampleSecond⟩]) sampleSecond :=
    .call h1 (by simp) rfl
  exact (history_refines_bounded_ttl_map ⟨10, 5⟩ h2 (by decide)).2.2.2 2 8 9 rfl rfl

end AttestationSdk.Cache
