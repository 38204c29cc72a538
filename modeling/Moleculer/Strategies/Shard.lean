import Moleculer.Base.Lru
import Mathlib

/-! The sharding strategy (`strategies/shard.js`). Numbers are exact. -/

namespace Moleculer.Strategies

open Base

variable {ι κ σ : Type}

/-- A slot of the ring: the last hash value in it and the node that owns it. -/
structure Slot (ι : Type) where
  key : Nat
  nodeID : ι
  deriving DecidableEq, Repr

/-- The options of the strategy, apart from where the key is found. -/
structure ShardOptions where
  vnodes : Nat
  ringSize : Option Nat
  cacheSize : Nat

/-- The number of hash values: `ringSize` if it is set, else all of 32 bits. -/
def ShardOptions.size (opts : ShardOptions) : Nat :=
  match opts.ringSize with
  | some (size + 1) => size + 1
  | _ => 2 ^ 32

/-- The strategy: its ring and the nodes it has found for keys, in an `LRU` cache. -/
structure Shard (ι σ : Type) where
  needRebuild : Bool
  ring : List (Slot ι)
  cache : σ

/-- `getHash`: the first eight hexadecimal digits of the digest, reduced to the ring. -/
def getHash (digest : String → UInt32) (opts : ShardOptions) (key : String) : Nat :=
  match opts.ringSize with
  | some (size + 1) => (digest key).toNat % (size + 1)
  | _ => (digest key).toNat

/-- Append a slot for a node. -/
def pushSlot (slice : ℚ) (ring : List (Slot ι)) (nodeID : ι) : List (Slot ι) :=
  ring ++ [⟨⌊slice * (ring.length + 1)⌋₊, nodeID⟩]

/-- The slots of all nodes, in as many rounds as there are virtual nodes. -/
def pushRounds (slice : ℚ) (arr : List ι) (rounds : Nat) : List (Slot ι) :=
  (List.range rounds).foldl (fun ring _ => arr.foldl (pushSlot slice) ring) []

/-- Set the border of the last slot. An empty ring has none, and the assignment throws. -/
def closeRing (size : Nat) (ring : List (Slot ι)) : Option (List (Slot ι)) :=
  ring.getLast?.map fun last => ring.dropLast ++ [{ last with key := size }]

/-- The ring for a list of nodes, if it can be built. -/
def buildRing [LinearOrder ι] (opts : ShardOptions) (ids : List ι) : Option (List (Slot ι)) :=
  let arr := ids.mergeSort fun left right => left ≤ right
  let total := arr.length * opts.vnodes
  let slice : ℚ := opts.size / total
  closeRing opts.size (pushRounds slice arr opts.vnodes)

/-- The slot of a hash value. -/
def findSlot (ring : List (Slot ι)) (hashNum : Nat) : Option (Slot ι) :=
  ring.find? fun slot => hashNum ≤ slot.key

namespace Shard

variable [LruCache σ κ ι]

/-- A new strategy. -/
def new (opts : ShardOptions) : Shard ι σ := ⟨true, [], LruCache.new opts.cacheSize⟩

/-- `rebuild`; `false` if it throws. -/
def rebuild [LinearOrder ι] (opts : ShardOptions) (shard : Shard ι σ) (ids : List ι) :
    Shard ι σ × Bool :=
  match buildRing opts ids with
  | some ring => (⟨false, ring, LruCache.clear shard.cache⟩, true)
  | none => (⟨shard.needRebuild, [], LruCache.clear shard.cache⟩, false)

/-- `getNodeIDByKey`: the node found for the key before, else that of its slot. -/
def getNodeIDByKey (hash : κ → Nat) (shard : Shard ι σ) (key : κ) : Shard ι σ × Option ι :=
  let (cached, cache) := LruCache.get shard.cache key
  match cached with
  | some nodeID => ({ shard with cache := cache }, some nodeID)
  | none =>
    match findSlot shard.ring (hash key) with
    | some found => ({ shard with cache := LruCache.set cache key found.nodeID }, some found.nodeID)
    | none => ({ shard with cache := cache }, none)

end Shard

end Moleculer.Strategies
