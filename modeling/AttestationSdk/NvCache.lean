import AttestationSdk.Error
import AttestationSdk.CalendarTime
import AttestationSdk.NodeList

/-! `NvCache`: a byte-bounded cache with one time to live, its map, its two
linked lists with stored iterators and its byte counter. -/
namespace AttestationSdk.Cache
open CalendarTime NodeList

structure NvCacheOptions where
  maxSizeBytes : Nat
  ttlSeconds : Int
  deriving Repr, DecidableEq

structure NvCacheObject (ν : Type) where
  value : ν
  sizeBytes : Nat
  expiryTime : Int
  lruNode : Nat
  insertionNode : Nat
  deriving Repr, DecidableEq

/-- The cells of both lists are numbered in the order of their allocation;
`underflowed` is a ghost that records a subtraction below zero. -/
structure NvCache (κ ν : Type) where
  cache : κ → Option (NvCacheObject ν)
  lruList : List (Node κ)
  insertionList : List (Node κ)
  currentSizeBytes : Nat
  nextNode : Nat
  underflowed : Bool

/-- What the source would do outside its contract: index the map with a key it
does not hold, use an invalid iterator, let a `time_t` sum overflow. -/
inductive CacheFault where
  | absentKey | invalidIterator | timeOverflow | outOfFuel
  deriving Repr, DecidableEq

variable {κ ν : Type}

def emptyCache : NvCache κ ν where
  cache _ := none
  lruList := []
  insertionList := []
  currentSizeBytes := 0
  nextNode := 0
  underflowed := false

def uint64Modulus : Nat := 18446744073709551616

/-- Unsigned 64-bit subtraction. -/
def subSize (a b : Nat) : Nat := (a + uint64Modulus - b) % uint64Modulus

/-- `m_current_size_bytes + size_bytes > max_size_bytes`, in 64-bit arithmetic. -/
def NoRoom (opts : NvCacheOptions) (c : NvCache κ ν) (sizeBytes : Nat) : Prop :=
  opts.maxSizeBytes < (c.currentSizeBytes + sizeBytes) % uint64Modulus

instance (opts : NvCacheOptions) (c : NvCache κ ν) (sizeBytes : Nat) :
    Decidable (NoRoom opts c sizeBytes) := inferInstanceAs (Decidable (_ < _))

def addTime (now ttl : Int) : Except CacheFault Int :=
  if InTimeT (now + ttl) then .ok (now + ttl) else .error .timeOverflow

variable [DecidableEq κ]

def removeHelper (c : NvCache κ ν) (key : κ) : Except CacheFault (NvCache κ ν) :=
  match c.cache key with
  | none => .error .absentKey
  | some obj =>
    match erase c.lruList obj.lruNode, erase c.insertionList obj.insertionNode with
    | some lru, some insertion => .ok { c with
        cache := Function.update c.cache key none
        lruList := lru
        insertionList := insertion
        currentSizeBytes := subSize c.currentSizeBytes obj.sizeBytes
        underflowed := c.underflowed || c.currentSizeBytes < obj.sizeBytes }
    | _, _ => .error .invalidIterator

/-- The first eviction loop. `clock i` is the `i`-th time the call reads; the
result counts the readings so far. -/
def evictExpired (opts : NvCacheOptions) (clock : Nat → Int) (sizeBytes : Nat) :
    Nat → Nat → NvCache κ ν → Except CacheFault (NvCache κ ν × Nat)
  | fuel, i, c =>
    match c.insertionList.getLast? with
    | none => .ok (c, i)
    | some oldest =>
      if NoRoom opts c sizeBytes then
        match c.cache oldest.key with
        | none => .error .absentKey
        | some obj =>
          if clock i < obj.expiryTime then .ok (c, i + 1) else
            match fuel with
            | 0 => .error .outOfFuel
            | fuel + 1 => do
              let c ← removeHelper c oldest.key
              evictExpired opts clock sizeBytes fuel (i + 1) c
      else .ok (c, i)

/-- The second eviction loop, from the least recently used key. -/
def evictLru (opts : NvCacheOptions) (sizeBytes : Nat) :
    Nat → NvCache κ ν → Except CacheFault (NvCache κ ν)
  | fuel, c =>
    match c.lruList.getLast? with
    | none => .ok c
    | some oldest =>
      if NoRoom opts c sizeBytes then
        match fuel with
        | 0 => .error .outOfFuel
        | fuel + 1 => do
          let c ← removeHelper c oldest.key
          evictLru opts sizeBytes fuel c
      else .ok c

def insertFront (c : NvCache κ ν) (key : κ) (value : ν) (sizeBytes : Nat) (expiryTime : Int) :
    NvCache κ ν where
  cache := Function.update c.cache key
    (some ⟨value, sizeBytes, expiryTime, c.nextNode, c.nextNode + 1⟩)
  lruList := ⟨c.nextNode, key⟩ :: c.lruList
  insertionList := ⟨c.nextNode + 1, key⟩ :: c.insertionList
  currentSizeBytes := (c.currentSizeBytes + sizeBytes) % uint64Modulus
  nextNode := c.nextNode + 2
  underflowed := c.underflowed

/-- What `put` does first with a key the map already holds. -/
def removeExisting (c : NvCache κ ν) (key : κ) : Except CacheFault (NvCache κ ν) :=
  if (c.cache key).isSome then removeHelper c key else .ok c

def put (opts : NvCacheOptions) (clock : Nat → Int) (c : NvCache κ ν) (key : κ) (value : ν)
    (sizeBytes : Nat) : Except CacheFault (Error × NvCache κ ν) :=
  if opts.maxSizeBytes < sizeBytes then .ok (.BadArgument, c) else do
    let c ← removeExisting c key
    let (c, i) ← evictExpired opts clock sizeBytes c.insertionList.length 0 c
    let c ← evictLru opts sizeBytes c.lruList.length c
    let expiryTime ← addTime (clock i) opts.ttlSeconds
    return (.Ok, insertFront c key value sizeBytes expiryTime)

/-- Return code, out-value and cache; an entry that has expired is not refreshed. -/
def get (now : Int) (c : NvCache κ ν) (key : κ) :
    Except CacheFault (Error × Option ν × NvCache κ ν) :=
  match c.cache key with
  | none => .ok (.CacheObjectNotFound, none, c)
  | some obj =>
    if obj.expiryTime ≤ now then .ok (.CacheObjectNotFound, none, c) else
      match spliceFront c.lruList obj.lruNode with
      | some lru => .ok (.Ok, some obj.value, { c with lruList := lru })
      | none => .error .invalidIterator

def remove (c : NvCache κ ν) (key : κ) : Except CacheFault (NvCache κ ν) :=
  match c.cache key with
  | none => .ok c
  | some _ => removeHelper c key

def clear (c : NvCache κ ν) : NvCache κ ν :=
  { c with cache := fun _ => none, lruList := [], insertionList := [], currentSizeBytes := 0 }

inductive Op (κ ν : Type) where
  | put (key : κ) (value : ν) (sizeBytes : Nat)
  | get (key : κ)
  | remove (key : κ)
  | clear

/-- One call: its return code (`Ok` where the source returns nothing), the value
handed out and the cache after it. -/
def step (opts : NvCacheOptions) (clock : Nat → Int) (c : NvCache κ ν) :
    Op κ ν → Except CacheFault (Error × Option ν × NvCache κ ν)
  | .put key value sizeBytes => do
    let (rc, c) ← put opts clock c key value sizeBytes
    return (rc, none, c)
  | .get key => get (clock 0) c key
  | .remove key => do
    let c ← remove c key
    return (.Ok, none, c)
  | .clear => .ok (.Ok, none, clear c)

def Op.size : Op κ ν → Nat
  | .put _ _ sizeBytes => sizeBytes
  | _ => 0

/-- A run of calls, each with its own clock readings. -/
def run (opts : NvCacheOptions) : NvCache κ ν → List ((Nat → Int) × Op κ ν) →
    Except CacheFault (NvCache κ ν)
  | c, [] => .ok c
  | c, (clock, op) :: rest => do
    let (_, _, c) ← step opts clock c op
    run opts c rest

end AttestationSdk.Cache
