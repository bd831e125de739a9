import KonsanNet.MemoryCache

/-!
# The cache manager with several threads (`GetBuffer`, `FreeBuffer`, `CheckCachePool`)

Any number of threads call `GetBuffer` and `FreeBuffer` on the elastic caches of the manager, and the
background thread runs `CheckCachePool`. One step of a thread is what it does under a lock, or one read
outside of the locks whose result it acts on later: `CompactMemory` holds the elastic cache's lock and, to
destroy the backup, that of the inner cache; `m_pCacheObj` and `m_bInited` are read without a lock; the free
list and the counters are changed under the inner cache's lock; `CheckCachePool` asks for the unused state
under the one lock and destroys both inner caches under the others.

The caches of the table are named by `κ`, the threads by `τ`. `live` has the objects that were handed out and
have not come back to a free list, `freeing` those of them that `FreeBuffer` has been called with.
-/

namespace KonsanNet

structure PoolCache where
  cache : CXElasticMemoryCache
  /-- `CXElasticMemoryCache::m_lock` is held between two steps. -/
  locked : Bool
  live : List CacheObj
  freeing : List CacheObj

/-- The call that `CompactMemory` runs in; `rest` are the caches that `GetBuffer` goes on with. -/
inductive PoolCall (κ : Type)
  | getObject (rest : List κ)
  | freeObject (p : CacheObj)
deriving DecidableEq

/-- What a thread does next. -/
inductive PoolPc (κ : Type)
  | idle
  /-- the loop of `GetBuffer` -/
  | loop (rest : List κ)
  | compactMemory (k : κ) (call : PoolCall κ)
  | destroyBak (k : κ) (call : PoolCall κ)
  | readCur (k : κ) (rest : List κ)
  | readInited (k : κ) (i : CacheName) (rest : List κ)
  | realInitialize (k : κ) (i : CacheName) (rest : List κ)
  | takeObject (k : κ) (i : CacheName) (rest : List κ)
  | readThis (k : κ) (p : CacheObj)
  | putObject (k : κ) (i : CacheName) (p : CacheObj)
  /-- the loops of `CheckCachePool` -/
  | check (todo : List κ)
  | destroyFirst (k : κ) (todo : List κ)
  | destroySecond (k : κ) (todo : List κ)
deriving DecidableEq

structure CachePool (κ τ : Type) where
  caches : κ → PoolCache
  threads : τ → PoolPc κ

/-- A thread starts a call or goes on; `bNew` is the answer of `new`, `bUnused` tells that the cache was last used
more than sixty seconds ago. -/
inductive PoolChoice (κ : Type)
  | getBuffer (j : κ) (row : List κ)
  | freeBuffer (k : κ) (p : CacheObj)
  | checkCachePool (table : List κ)
  | next (bNew bUnused : Bool)

namespace CXElasticMemoryCache

/-- `GetUnusedState` says that nothing is used, and that this has been so for long. -/
def unusedState (e : CXElasticMemoryCache) (bUnused : Bool) : Bool :=
  !e.isSwapping && e.cur.bInited && bUnused &&
    (e.cur.dwNumberOfUsingNodes + e.bak.dwNumberOfUsingNodes) % 2 ^ 32 == 0

def destroyInner (e : CXElasticMemoryCache) (i : CacheName) : CXElasticMemoryCache :=
  e.set i (CXMemoryCache.destroy e.heap (e.obj i)).1 (CXMemoryCache.destroy e.heap (e.obj i)).2

end CXElasticMemoryCache

namespace CachePool

variable {κ τ : Type} [DecidableEq κ] [DecidableEq τ]

/-- Thread `t` has changed cache `k` and goes on with `pc`. -/
def set (s : CachePool κ τ) (t : τ) (k : κ) (c : PoolCache) (pc : PoolPc κ) : CachePool κ τ :=
  ⟨Function.update s.caches k c, Function.update s.threads t pc⟩

def setPc (s : CachePool κ τ) (t : τ) (pc : PoolPc κ) : CachePool κ τ :=
  { s with threads := Function.update s.threads t pc }

/-- Where a call goes on after `CompactMemory`. -/
def afterCompact (k : κ) : PoolCall κ → PoolPc κ
  | .getObject rest => .readCur k rest
  | .freeObject p => .readThis k p

/-- A thread that has begun a call makes its next step. -/
def next (z : κ → CacheSizes) (s : CachePool κ τ) (t : τ) (bNew bUnused : Bool) : Option (CachePool κ τ) :=
  match s.threads t with
  | .idle => none
  | .loop [] => some (s.setPc t .idle)
  | .loop (k :: rest) =>
    if (s.caches k).cache.cur.pEmptyObjectListHead ≠ none then
      some (s.setPc t (.compactMemory k (.getObject rest)))
    else some (s.setPc t (.loop rest))
  | .compactMemory k call =>
    let c := s.caches k
    if c.locked then none
    else
      match c.cache.swap with
      | none => none
      | some e =>
        if e.drained then some (s.set t k { c with cache := e, locked := true } (.destroyBak k call))
        else some (s.set t k { c with cache := e } (afterCompact k call))
  | .destroyBak k call =>
    let c := s.caches k
    some (s.set t k { c with cache := c.cache.destroyBak, locked := false } (afterCompact k call))
  | .readCur k rest => some (s.setPc t (.readInited k (s.caches k).cache.pCacheObj rest))
  | .readInited k i rest =>
    if ((s.caches k).cache.obj i).bInited then some (s.setPc t (.takeObject k i rest))
    else if (z k).iObjectNumInMB ≠ 0 ∧ (z k).iObjectSize ≠ 0 then some (s.setPc t (.realInitialize k i rest))
    else some (s.setPc t (.loop rest))
  | .realInitialize k i rest =>
    let c := s.caches k
    match CXMemoryCache.realInitialize (z k) i bNew c.cache.heap (c.cache.obj i) with
    | none => some (s.setPc t (.loop rest))
    | some r => some (s.set t k { c with cache := c.cache.set i r.1 r.2 } (.takeObject k i rest))
  | .takeObject k i rest =>
    let c := s.caches k
    let r := CXMemoryCache.takeObject (z k) i bNew c.cache.heap (c.cache.obj i)
    match r.2.2 with
    | none => some (s.set t k { c with cache := c.cache.set i r.1 r.2.1 } (.loop rest))
    | some p => some (s.set t k { c with cache := c.cache.set i r.1 r.2.1, live := p :: c.live } .idle)
  | .readThis k p =>
    let c := s.caches k
    let i := c.cache.heap.pThis p
    if (c.cache.obj i).bInited then
      some (s.set t k { c with cache := { c.cache with heap := c.cache.heap.setNext p none } } (.putObject k i p))
    else some (s.set t k { c with live := c.live.erase p, freeing := c.freeing.erase p } .idle)
  | .putObject k i p =>
    let c := s.caches k
    let r := CXMemoryCache.putObject p c.cache.heap (c.cache.obj i)
    some (s.set t k
      { c with cache := c.cache.set i r.1 r.2, live := c.live.erase p, freeing := c.freeing.erase p } .idle)
  | .check [] => some (s.setPc t .idle)
  | .check (k :: todo) =>
    if (s.caches k).locked then none
    else if (s.caches k).cache.unusedState bUnused then some (s.setPc t (.destroyFirst k todo))
    else some (s.setPc t (.check todo))
  | .destroyFirst k todo =>
    let c := s.caches k
    some (s.set t k { c with cache := c.cache.destroyInner .firstObj } (.destroySecond k todo))
  | .destroySecond k todo =>
    let c := s.caches k
    some (s.set t k { c with cache := c.cache.destroyInner .secondObj } (.check todo))

/-- `FreeBuffer` is called once for an object that was handed out. -/
def step (z : κ → CacheSizes) (s : CachePool κ τ) : τ × PoolChoice κ → Option (CachePool κ τ)
  | (t, .getBuffer j row) =>
    if s.threads t = .idle then some (s.setPc t (.compactMemory j (.getObject row))) else none
  | (t, .freeBuffer k p) =>
    let c := s.caches k
    if s.threads t = .idle ∧ p ∈ c.live ∧ p ∉ c.freeing then
      some (s.set t k { c with freeing := p :: c.freeing } (.compactMemory k (.freeObject p)))
    else none
  | (t, .checkCachePool table) => if s.threads t = .idle then some (s.setPc t (.check table)) else none
  | (t, .next bNew bUnused) => s.next z t bNew bUnused

def start (z : κ → CacheSizes) (bInitAtOnce bNew : κ → Bool) : CachePool κ τ where
  caches k := ⟨.init (z k) (bInitAtOnce k) (bNew k), false, [], []⟩
  threads _ := .idle

end CachePool

end KonsanNet
