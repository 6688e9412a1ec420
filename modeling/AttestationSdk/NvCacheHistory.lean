import AttestationSdk.NvCacheInvariant

/-! Histories of calls under a clock that never goes back: the last put of each
key, the recency order and the expiry order, kept call by call. -/
namespace AttestationSdk.Cache
open NodeList ExceptRules
variable {κ ν : Type} [DecidableEq κ]

/-- One call of a history, with the cache before and after it. -/
structure Step (κ ν : Type) where
  time : Int
  op : Op κ ν
  rc : Error
  out : Option ν
  before : NvCache κ ν
  after : NvCache κ ν

/-- Calls from the empty cache, each reading the clock once and never earlier
than the calls before it. -/
inductive History (opts : NvCacheOptions) : List (Step κ ν) → NvCache κ ν → Prop where
  | start : History opts [] emptyCache
  | call {steps : List (Step κ ν)} {c c' : NvCache κ ν} {time : Int} {op : Op κ ν} {rc : Error}
      {out : Option ν} (past : History opts steps c) (later : ∀ s ∈ steps, s.time ≤ time)
      (run : step opts (fun _ => time) c op = .ok (rc, out, c')) :
      History opts (steps ++ [⟨time, op, rc, out, c, c'⟩]) c'

/-- A call that leaves the entry of a key alone. -/
def Untouched (k : κ) (s : Step κ ν) : Prop :=
  match s.op with
  | .put k' _ _ =>
    if k' = k then s.rc ≠ .Ok else ¬ ((s.before.cache k).isSome ∧ s.after.cache k = none)
  | .get _ => True
  | .remove k' => k' ≠ k
  | .clear => False

/-- The last successful put of a key and its time, with no removal, clearing or
eviction of the key since. -/
def LastPut (steps : List (Step κ ν)) (k : κ) (value : ν) (time : Int) : Prop :=
  ∃ pre s post size, steps = pre ++ s :: post ∧ s.op = .put k value size ∧ s.rc = .Ok ∧
    s.time = time ∧ ∀ s' ∈ post, Untouched k s'

/-- Keys by their last successful get or put, most recent first. -/
def recency (steps : List (Step κ ν)) : List κ :=
  steps.foldl (fun recent s => match s.op with
    | .put k _ _ | .get k => if s.rc = .Ok then k :: recent.filter (· ≠ k) else recent
    | _ => recent) []

def expiryAt (c : NvCache κ ν) (k : κ) : Int :=
  ((c.cache k).map NvCacheObject.expiryTime).getD 0

def Fits (opts : NvCacheOptions) (c : NvCache κ ν) (size : Nat) : Prop :=
  c.currentSizeBytes + size ≤ opts.maxSizeBytes

/-- The eviction order of a successful put of `key` into `c`: `es` expired, `ls`
least recently used. -/
structure EvictsInOrder (opts : NvCacheOptions) (steps : List (Step κ ν)) (now : Int)
    (c c' : NvCache κ ν) (key : κ) (value : ν) (size : Nat) (es ls : List κ) : Prop where
  oldest : ∃ kept, keys (dropKey c key).insertionList = kept ++ es.reverse
  expired : ∀ k ∈ es, ∃ obj, c.cache k = some obj ∧ obj.expiryTime ≤ now
  expired_needed : ∀ j < es.length, ¬ Fits opts (dropAll (dropKey c key) (es.take j)) size
  expired_first : ls ≠ [] → ∀ k obj, c.cache k = some obj → k ≠ key → k ∉ es →
    now < obj.expiryTime
  leastRecent : ∃ kept, (recency steps).filter
      (fun k => (c.cache k).isSome && k ≠ key && k ∉ es) = kept ++ ls.reverse
  shortest : ∀ j < ls.length, ¬ Fits opts (dropAll (dropAll (dropKey c key) es) (ls.take j)) size
  room : Fits opts (dropAll (dropAll (dropKey c key) es) ls) size
  evicted : ∀ k, k ≠ key → k ∈ es ∨ k ∈ ls → c'.cache k = none
  kept : ∀ k, k ≠ key → k ∉ es → k ∉ ls → c'.cache k = c.cache k
  stored : ∃ obj, c'.cache key = some obj ∧ obj.value = value ∧
    obj.expiryTime = now + opts.ttlSeconds

theorem keys_dropAll_lru (c : NvCache κ ν) (ks : List κ) :
    keys (dropAll c ks).lruList = (keys c.lruList).filter (· ∉ ks) := by
  induction ks generalizing c with
  | nil => simp
  | cons k ks ih =>
    rw [dropAll_cons, ih]
    change (keys (c.lruList.filter (fun n => n.key ≠ k))).filter (· ∉ ks) = _
    rw [keys_filter_key, List.filter_filter]
    exact List.filter_congr fun x _ => by by_cases hx : x = k <;> simp [hx]

theorem keys_dropAll_insertion (c : NvCache κ ν) (ks : List κ) :
    keys (dropAll c ks).insertionList = (keys c.insertionList).filter (· ∉ ks) := by
  induction ks generalizing c with
  | nil => simp
  | cons k ks ih =>
    rw [dropAll_cons, ih]
    change (keys (c.insertionList.filter (fun n => n.key ≠ k))).filter (· ∉ ks) = _
    rw [keys_filter_key, List.filter_filter]
    exact List.filter_congr fun x _ => by by_cases hx : x = k <;> simp [hx]

omit [DecidableEq κ] in
/-- While the counter cannot wrap, the source's comparison is the plain one. -/
theorem noRoom_iff {opts : NvCacheOptions} {c : NvCache κ ν} {size : Nat}
    (h : c.currentSizeBytes + size < uint64Modulus) : NoRoom opts c size ↔ ¬ Fits opts c size := by
  rw [NoRoom, Fits, Nat.mod_eq_of_lt h]
  omega

/-- The invariant of a history, beside the representation invariant. -/
structure Tracks (opts : NvCacheOptions) (steps : List (Step κ ν)) (c : NvCache κ ν) : Prop where
  inv : Inv opts c
  used : c.currentSizeBytes ≤ (steps.map (fun s => s.op.size)).sum
  lastPut : ∀ k obj, c.cache k = some obj →
    ∃ time, LastPut steps k obj.value time ∧ obj.expiryTime = time + opts.ttlSeconds
  ordered : (keys c.insertionList).Pairwise (fun a b => expiryAt c b ≤ expiryAt c a)
  recent : keys c.lruList = (recency steps).filter (fun k => (c.cache k).isSome)

theorem tracks_empty (opts : NvCacheOptions) :
    Tracks opts [] (emptyCache : NvCache κ ν) :=
  ⟨inv_empty opts, Nat.le_refl _, by simp [emptyCache], by simp [emptyCache, keys],
    by simp [emptyCache, keys, recency]⟩

theorem LastPut.snoc {steps : List (Step κ ν)} {k : κ} {value : ν} {time : Int}
    (h : LastPut steps k value time) {s : Step κ ν} (hs : Untouched k s) :
    LastPut (steps ++ [s]) k value time := by
  obtain ⟨pre, s0, post, size, rfl, hop, hrc, htime, hpost⟩ := h
  refine ⟨pre, s0, post ++ [s], size, by simp, hop, hrc, htime, ?_⟩
  intro s' hs'
  cases List.mem_append.mp hs' with
  | inl hin => exact hpost s' hin
  | inr hin => rwa [List.mem_singleton.mp hin]

theorem LastPut.time_le {steps : List (Step κ ν)} {k : κ} {value : ν} {time now : Int}
    (h : LastPut steps k value time) (hnow : ∀ s ∈ steps, s.time ≤ now) : time ≤ now := by
  obtain ⟨pre, s0, post, size, rfl, _, _, rfl, _⟩ := h
  exact hnow s0 (by simp)

theorem recency_snoc (steps : List (Step κ ν)) (s : Step κ ν) :
    recency (steps ++ [s]) = match s.op with
      | .put k _ _ | .get k =>
        if s.rc = .Ok then k :: (recency steps).filter (· ≠ k) else recency steps
      | _ => recency steps := by
  rw [recency, List.foldl_append]
  rfl

theorem expiryAt_dropAll {c : NvCache κ ν} {ks : List κ} {k : κ} (h : k ∉ ks) :
    expiryAt (dropAll c ks) k = expiryAt c k := by
  simp [expiryAt, dropAll_cache, h]

theorem ordered_dropAll {c : NvCache κ ν} (ks : List κ)
    (h : (keys c.insertionList).Pairwise (fun a b => expiryAt c b ≤ expiryAt c a)) :
    (keys (dropAll c ks).insertionList).Pairwise
      (fun a b => expiryAt (dropAll c ks) b ≤ expiryAt (dropAll c ks) a) := by
  rw [keys_dropAll_insertion]
  have hsub := h.sublist (List.filter_sublist (p := fun k => k ∉ ks))
  refine hsub.imp_of_mem ?_
  intro a b ha hb hab
  have ha' : a ∉ ks := by simpa using (List.mem_filter.mp ha).2
  have hb' : b ∉ ks := by simpa using (List.mem_filter.mp hb).2
  rw [expiryAt_dropAll ha', expiryAt_dropAll hb']
  exact hab

/-- A call that keeps the map and the insertion order. -/
theorem Tracks.keep {opts : NvCacheOptions} {steps : List (Step κ ν)} {c : NvCache κ ν}
    (h : Tracks opts steps c) {s : Step κ ν} (hs : ∀ k, Untouched k s)
    (hrec : recency (steps ++ [s]) = recency steps) : Tracks opts (steps ++ [s]) c where
  inv := h.inv
  used := by
    have := h.used
    simp only [List.map_append, List.sum_append]
    omega
  lastPut k obj hobj := by
    obtain ⟨time, hlast, hexp⟩ := h.lastPut k obj hobj
    exact ⟨time, hlast.snoc (hs k), hexp⟩
  ordered := h.ordered
  recent := by rw [hrec]; exact h.recent

/-- A call that only drops keys. -/
theorem Tracks.drop {opts : NvCacheOptions} {steps : List (Step κ ν)} {c : NvCache κ ν}
    (h : Tracks opts steps c) (ks : List κ) {s : Step κ ν} (hs : ∀ k, k ∉ ks → Untouched k s)
    (hrec : recency (steps ++ [s]) = recency steps) :
    Tracks opts (steps ++ [s]) (dropAll c ks) where
  inv := h.inv.dropAll ks
  used := by
    have := h.used
    have := h.inv.dropAll_size_le ks
    simp only [List.map_append, List.sum_append]
    omega
  lastPut k obj hobj := by
    rw [dropAll_cache] at hobj
    by_cases hk : k ∈ ks
    · simp [hk] at hobj
    · rw [if_neg hk] at hobj
      obtain ⟨time, hlast, hexp⟩ := h.lastPut k obj hobj
      exact ⟨time, hlast.snoc (hs k hk), hexp⟩
  ordered := ordered_dropAll ks h.ordered
  recent := by
    rw [hrec, keys_dropAll_lru, h.recent, List.filter_filter]
    exact List.filter_congr fun k _ => by by_cases hk : k ∈ ks <;> simp [dropAll_cache, hk]

theorem Tracks.moved {opts : NvCacheOptions} {steps : List (Step κ ν)} {c : NvCache κ ν}
    (h : Tracks opts steps c) {key : κ} {obj : NvCacheObject ν} (hobj : c.cache key = some obj)
    {s : Step κ ν} (hop : s.op = .get key) (hrc : s.rc = .Ok) :
    Tracks opts (steps ++ [s]) { c with
      lruList := ⟨obj.lruNode, key⟩ :: c.lruList.filter (fun n => n.key ≠ key) } where
  inv := h.inv.moved hobj
  used := by
    have := h.used
    simp only [List.map_append, List.sum_append]
    omega
  lastPut k obj' hobj' := by
    obtain ⟨time, hlast, hexp⟩ := h.lastPut k obj' hobj'
    exact ⟨time, hlast.snoc (by simp [Untouched, hop]), hexp⟩
  ordered := h.ordered
  recent := by
    have hkeys := keys_filter_key c.lruList key
    rw [recency_snoc, hop, hrc]
    change key :: keys (c.lruList.filter (fun n => n.key ≠ key)) =
      (key :: (recency steps).filter (· ≠ key)).filter (fun k => (c.cache k).isSome)
    rw [hkeys, h.recent, List.filter_cons_of_pos (by simp [hobj]), List.filter_filter,
      List.filter_filter]
    congr 1
    exact List.filter_congr fun k _ => by rw [Bool.and_comm]

theorem Tracks.insert {opts : NvCacheOptions} {steps : List (Step κ ν)} {c : NvCache κ ν}
    (h : Tracks opts steps c) {key : κ} {value : ν} {size : Nat} (ks : List κ)
    (hkey : key ∈ ks) (hroom : ¬ NoRoom opts (dropAll c ks) size)
    (hfit : c.currentSizeBytes + size < uint64Modulus) {s : Step κ ν}
    (hop : s.op = .put key value size) (hrc : s.rc = .Ok)
    (hnow : ∀ s' ∈ steps, s'.time ≤ s.time)
    (hafter : s.after = insertFront (dropAll c ks) key value size (s.time + opts.ttlSeconds)) :
    Tracks opts (steps ++ [s]) s.after := by
  have hle := h.inv.dropAll_size_le ks
  have hnone : (dropAll c ks).cache key = none := by simp [dropAll_cache, hkey]
  have hcache : ∀ k, k ≠ key → s.after.cache k = (dropAll c ks).cache k := by
    intro k hk
    simp [hafter, insertFront, hk]
  have hnew : ∃ obj, s.after.cache key = some obj ∧ obj.value = value ∧
      obj.expiryTime = s.time + opts.ttlSeconds := by
    simp [hafter, insertFront]
  obtain ⟨obj, hobj, hval, hexp⟩ := hnew
  refine ⟨?_, ?_, ?_, ?_, ?_⟩
  · rw [hafter]
    exact (h.inv.dropAll ks).insertFront hnone value _ hroom (by omega)
  · have hmod := Nat.mod_le ((dropAll c ks).currentSizeBytes + size) uint64Modulus
    have hused := h.used
    have hsz : s.op.size = size := by rw [hop]; rfl
    rw [hafter, List.map_append, List.sum_append]
    simp only [insertFront, List.map_cons, List.map_nil, List.sum_singleton, hsz]
    omega
  · intro k obj' hobj'
    by_cases hk : k = key
    · subst hk
      rw [hobj] at hobj'
      obtain rfl : obj = obj' := by simpa using hobj'
      exact ⟨s.time, ⟨steps, s, [], size, rfl, by rw [hop, hval], hrc, rfl, by simp⟩, hexp⟩
    · have hold := hobj'
      rw [hcache k hk, dropAll_cache] at hold
      by_cases hks : k ∈ ks
      · simp [hks] at hold
      · rw [if_neg hks] at hold
        obtain ⟨time, hlast, hexp'⟩ := h.lastPut k obj' hold
        refine ⟨time, hlast.snoc ?_, hexp'⟩
        simp [Untouched, hop, Ne.symm hk, hobj']
  · have hkeys : keys s.after.insertionList = key :: keys (dropAll c ks).insertionList := by
      rw [hafter]
      rfl
    have hsame : ∀ k ∈ keys (dropAll c ks).insertionList,
        expiryAt s.after k = expiryAt (dropAll c ks) k := by
      intro k hk
      have hne : k ≠ key := by
        intro heq
        rw [(h.inv.dropAll ks).mem_insertion, heq, hnone] at hk
        simp at hk
      rw [expiryAt, expiryAt, hcache k hne]
    rw [hkeys, List.pairwise_cons]
    constructor
    · intro k hk
      -- what is still stored was put no later than now
      obtain ⟨obj', hobj'⟩ := Option.isSome_iff_exists.mp
        (((h.inv.dropAll ks).mem_insertion k).mp hk)
      have hold : c.cache k = some obj' := by
        rw [dropAll_cache] at hobj'
        by_cases hks : k ∈ ks
        · simp [hks] at hobj'
        · simpa [hks] using hobj'
      obtain ⟨time, hlast, hexp'⟩ := h.lastPut k obj' hold
      have htime := hlast.time_le hnow
      rw [hsame k hk]
      simp only [expiryAt, hobj, hobj', Option.map_some, Option.getD_some]
      omega
    · refine (ordered_dropAll ks h.ordered).imp_of_mem ?_
      intro a b ha hb hab
      rw [hsame a ha, hsame b hb]
      exact hab
  · have hkeys : keys s.after.lruList = key :: keys (dropAll c ks).lruList := by
      rw [hafter]
      rfl
    rw [recency_snoc, hop, hrc, hkeys, keys_dropAll_lru, h.recent]
    simp only [if_true]
    rw [List.filter_cons_of_pos (by simp [hobj]), List.filter_filter, List.filter_filter]
    congr 1
    apply List.filter_congr
    intro k _
    by_cases hk : k = key
    · simp [hk, hkey]
    · by_cases hks : k ∈ ks
      · simp [hcache k hk, dropAll_cache, hks]
      · simp [hcache k hk, dropAll_cache, hks, hk]

end AttestationSdk.Cache
