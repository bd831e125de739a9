import Mathlib.Tactic
import Mathlib.Logic.Function.Basic
import KonsanNet.Run

/-!
# The elastic memory cache (`CXMemoryCache`, `CXElasticMemoryCache`)

An elastic cache has two inner caches, each with its blocks of `m_iObjectNumInMB` objects and the list of
its free objects, chained through the headers in front of the objects. It hands out objects of one; when
that has grown to three blocks of which most is free, `CompactMemory` swaps the two, and destroys the
blocks of the one swapped out as soon as its last object has come back.

An object is addressed by its block and the offset of its header there; that `new` returns blocks that do
not overlap is all that is used of addresses. The offsets and the size of a block are computed as the
source computes them, in `int`: an offset may lie outside its block. The counters are `DWORD`s. A call that
divides by zero is `none`.
-/

namespace KonsanNet

/-- `m_firstObj` and `m_secondObj` -/
inductive CacheName
  | firstObj
  | secondObj
deriving DecidableEq, Repr

def CacheName.other : CacheName → CacheName
  | firstObj => secondObj
  | secondObj => firstObj

/-- A `cx_cache_obj *` -/
structure CacheObj where
  block : Nat
  off : Int
deriving DecidableEq, Repr

/-- The blocks that are allocated, with their sizes, and the headers of the objects. -/
structure CacheHeap where
  fresh : Nat
  blockSize : Nat → Option Nat
  pThis : CacheObj → CacheName
  pNext : CacheObj → Option CacheObj

/-- The arguments of `Initialize`, two `int`s. -/
structure CacheSizes where
  iObjectSize : Nat
  iObjectNumInMB : Nat
  size_lt : iObjectSize < 2 ^ 31
  num_ge : 2 ≤ iObjectNumInMB
  num_lt : iObjectNumInMB < 2 ^ 31

namespace CacheSizes

/-- `sizeof(cx_cache_obj) + m_iObjectSize` -/
def iObjectStructSize (z : CacheSizes) : Int := Int.bmod (24 + z.iObjectSize) (2 ^ 32)

def iBufferSize (z : CacheSizes) : Int := Int.bmod (z.iObjectStructSize * z.iObjectNumInMB) (2 ^ 32)

/-- `iObjectStructSize * i` -/
def offset (z : CacheSizes) (i : Nat) : Int := Int.bmod (z.iObjectStructSize * i) (2 ^ 32)

end CacheSizes

namespace CacheHeap

def setNext (h : CacheHeap) (p : CacheObj) (pNext : Option CacheObj) : CacheHeap :=
  { h with pNext := Function.update h.pNext p pNext }

def setThis (h : CacheHeap) (p : CacheObj) (pThis : CacheName) : CacheHeap :=
  { h with pThis := Function.update h.pThis p pThis }

/-- The loop `while (++i < m_iObjectNumInMB)` with `left` rounds to go, and the stores to the last object
after it, which is returned. -/
def linkObjects (offset : Nat → Int) (me : CacheName) (b : Nat) :
    (left i : Nat) → (pObjectList : CacheObj) → CacheHeap → CacheHeap × CacheObj
  | 0, _, pObjectList, h => ((h.setThis pObjectList me).setNext pObjectList none, pObjectList)
  | left + 1, i, pObjectList, h =>
    linkObjects offset me b left (i + 1) ⟨b, offset i⟩
      ((h.setThis pObjectList me).setNext pObjectList (some ⟨b, offset i⟩))

end CacheHeap

structure CXMemoryCache where
  pEmptyObjectListHead : Option CacheObj
  pEmptyObjectListEnd : Option CacheObj
  lstBlocks : List Nat
  nMemoryBlocksNumber : Nat
  bInited : Bool
  dwNumberOfUsingNodes : Nat
  dwNumberOfTotalNodes : Nat

namespace CXMemoryCache

def construct : CXMemoryCache := ⟨none, none, [], 0, false, 0, 0⟩

variable (z : CacheSizes) (me : CacheName)

/-- `none` is the result -1; `bNew` tells whether the system has the memory (a negative size is refused). -/
def allocateMemoryBlock (bNew : Bool) (h : CacheHeap) (c : CXMemoryCache) : Option (CacheHeap × CXMemoryCache) :=
  if !bNew ∨ z.iBufferSize < 0 then none
  else
    let b := h.fresh
    let linked := CacheHeap.linkObjects z.offset me b (z.iObjectNumInMB - 1) 1 ⟨b, 0⟩
      { h with fresh := b + 1, blockSize := Function.update h.blockSize b (some z.iBufferSize.toNat) }
    some (linked.1,
      { c with
        lstBlocks := c.lstBlocks ++ [b]
        nMemoryBlocksNumber := (c.nMemoryBlocksNumber + 1) % 2 ^ 32
        dwNumberOfTotalNodes := (c.dwNumberOfTotalNodes + z.iObjectNumInMB) % 2 ^ 32
        pEmptyObjectListHead := some ⟨b, 0⟩
        pEmptyObjectListEnd := some linked.2 })

def realInitialize (bNew : Bool) (h : CacheHeap) (c : CXMemoryCache) : Option (CacheHeap × CXMemoryCache) :=
  if c.bInited then some (h, c)
  else (allocateMemoryBlock z me bNew h c).map fun r => (r.1, { r.2 with bInited := true })

/-- `m_dwNumberOfUsingNodes++; pObj->pNext = NULL;` -/
def handOut (p : CacheObj) (h : CacheHeap) (c : CXMemoryCache) : CacheHeap × CXMemoryCache × Option CacheObj :=
  (h.setNext p none, { c with dwNumberOfUsingNodes := (c.dwNumberOfUsingNodes + 1) % 2 ^ 32 }, some p)

/-- What `GetObject` does with `m_lock` held. -/
def takeObject (bNew : Bool) (h : CacheHeap) (c : CXMemoryCache) : CacheHeap × CXMemoryCache × Option CacheObj :=
  match c.pEmptyObjectListHead with
  | some p =>
    handOut p h { c with
      pEmptyObjectListHead := h.pNext p
      pEmptyObjectListEnd := if h.pNext p = none then none else c.pEmptyObjectListEnd }
  | none =>
    match allocateMemoryBlock z me bNew h c with
    | none => (h, c, none)
    | some (h, c) =>
      match c.pEmptyObjectListHead with
      | none => (h, c, none)
      | some p => handOut p h { c with pEmptyObjectListHead := h.pNext p }

def getObject (bNew : Bool) (h : CacheHeap) (c : CXMemoryCache) : CacheHeap × CXMemoryCache × Option CacheObj :=
  if c.bInited then takeObject z me bNew h c
  else if z.iObjectNumInMB ≠ 0 ∧ z.iObjectSize ≠ 0 then
    match realInitialize z me bNew h c with
    | none => (h, c, none)
    | some (h, c) => takeObject z me bNew h c
  else (h, c, none)

/-- What `FreeObject` does with `m_lock` held. -/
def putObject (p : CacheObj) (h : CacheHeap) (c : CXMemoryCache) : CacheHeap × CXMemoryCache :=
  let dwNumberOfUsingNodes := (c.dwNumberOfUsingNodes + 2 ^ 32 - 1) % 2 ^ 32
  match c.pEmptyObjectListEnd with
  | some e =>
    (h.setNext e (some p),
      { c with pEmptyObjectListEnd := some p, dwNumberOfUsingNodes := dwNumberOfUsingNodes })
  | none =>
    (h, { c with
      pEmptyObjectListHead := some p
      pEmptyObjectListEnd := some p
      dwNumberOfUsingNodes := dwNumberOfUsingNodes })

def freeObject (p : CacheObj) (h : CacheHeap) (c : CXMemoryCache) : CacheHeap × CXMemoryCache :=
  if c.bInited then putObject p (h.setNext p none) c else (h, c)

def destroy (h : CacheHeap) (c : CXMemoryCache) : CacheHeap × CXMemoryCache :=
  if c.bInited then
    ({ h with blockSize := fun b => if b ∈ c.lstBlocks then none else h.blockSize b }, construct)
  else (h, c)

end CXMemoryCache

/-- `m_pCacheObjBak` is the one that `m_pCacheObj` is not; `m_bAutoCompactMemory` is on. -/
structure CXElasticMemoryCache where
  heap : CacheHeap
  obj : CacheName → CXMemoryCache
  pCacheObj : CacheName
  isSwapping : Bool

namespace CXElasticMemoryCache

def cur (e : CXElasticMemoryCache) : CXMemoryCache := e.obj e.pCacheObj

def bak (e : CXElasticMemoryCache) : CXMemoryCache := e.obj e.pCacheObj.other

/-- One inner cache and the memory after an operation on it. -/
def set (e : CXElasticMemoryCache) (i : CacheName) (h : CacheHeap) (c : CXMemoryCache) : CXElasticMemoryCache :=
  { e with heap := h, obj := Function.update e.obj i c }

def construct : CXElasticMemoryCache where
  heap := ⟨0, fun _ => none, fun _ => .firstObj, fun _ => none⟩
  obj _ := .construct
  pCacheObj := .firstObj
  isSwapping := false

/-- `Initialize`; where it fails the cache is as constructed. -/
def init (z : CacheSizes) (bInitAtOnce bNew : Bool) : CXElasticMemoryCache :=
  if bInitAtOnce then
    match CXMemoryCache.realInitialize z .firstObj bNew construct.heap .construct with
    | none => construct
    | some (h, c) => construct.set .firstObj h c
  else construct

/-- The first half of `CompactMemory`. -/
def swap (e : CXElasticMemoryCache) : Option CXElasticMemoryCache :=
  if !e.isSwapping ∧ 3 ≤ e.cur.nMemoryBlocksNumber ∧ e.bak.dwNumberOfUsingNodes = 0 then
    if e.cur.dwNumberOfUsingNodes = 0 then none
    else if 3 ≤ e.cur.dwNumberOfTotalNodes / e.cur.dwNumberOfUsingNodes then
      some { e with pCacheObj := e.pCacheObj.other, isSwapping := true }
    else some e
  else some e

/-- The test of its second half. -/
def drained (e : CXElasticMemoryCache) : Prop := e.isSwapping ∧ e.bak.dwNumberOfUsingNodes = 0

instance (e : CXElasticMemoryCache) : Decidable e.drained := inferInstanceAs (Decidable (_ ∧ _))

def destroyBak (e : CXElasticMemoryCache) : CXElasticMemoryCache :=
  let r := CXMemoryCache.destroy e.heap e.bak
  { e.set e.pCacheObj.other r.1 r.2 with isSwapping := false }

def compactMemory (e : CXElasticMemoryCache) : Option CXElasticMemoryCache :=
  e.swap.map fun e => if e.drained then e.destroyBak else e

def getObject (z : CacheSizes) (bNew : Bool) (e : CXElasticMemoryCache) :
    Option (CXElasticMemoryCache × Option CacheObj) :=
  e.compactMemory.map fun e =>
    let r := CXMemoryCache.getObject z e.pCacheObj bNew e.heap e.cur
    (e.set e.pCacheObj r.1 r.2.1, r.2.2)

def freeObject (p : CacheObj) (e : CXElasticMemoryCache) : Option CXElasticMemoryCache :=
  e.compactMemory.map fun e =>
    let r := CXMemoryCache.freeObject p e.heap (e.obj (e.heap.pThis p))
    e.set (e.heap.pThis p) r.1 r.2

end CXElasticMemoryCache

/-- A run of one elastic cache: the objects that were handed out and have not been freed. -/
structure CacheRun where
  cache : CXElasticMemoryCache
  live : List CacheObj

namespace CacheRun

inductive Act
  | getObject (bNew : Bool)
  | freeObject (p : CacheObj)

/-- Only a live object is freed. -/
def step (z : CacheSizes) (r : CacheRun) : Act → Option CacheRun
  | .getObject bNew => (r.cache.getObject z bNew).map fun q => ⟨q.1, q.2.toList ++ r.live⟩
  | .freeObject p =>
    if p ∈ r.live then (r.cache.freeObject p).map fun e => ⟨e, r.live.erase p⟩ else none

def start (z : CacheSizes) (bInitAtOnce bNew : Bool) : CacheRun := ⟨.init z bInitAtOnce bNew, []⟩

end CacheRun

end KonsanNet
