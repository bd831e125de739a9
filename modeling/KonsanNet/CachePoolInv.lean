import KonsanNet.CachePool
import KonsanNet.MemoryCacheInv

/-!
# When reclaiming idle caches is safe

`CheckCachePool` and `CompactMemory` test that nothing of a cache is used, and destroy it in a later step. If
at that step nothing is used still, and no `GetObject` that has seen the cache initialised is about to take an
object (`DestroyOk`), then whatever the threads do the blocks of live objects stay and the counters count them.
Otherwise the blocks go with a live object in them (`reclaimedRun`).

The invariant has `ElasticOk` for every cache, and for every thread what it relies on when it goes on
(`PcOk`). A step touches one cache: `Effect` says what the other threads may see of that.
-/

namespace KonsanNet

variable {κ : Type}

/-- The object that a thread is giving back. -/
def PoolPc.frees : PoolPc κ → Option (κ × CacheObj)
  | .compactMemory k (.freeObject p) => some (k, p)
  | .destroyBak k (.freeObject p) => some (k, p)
  | .readThis k p => some (k, p)
  | .putObject k _ p => some (k, p)
  | _ => none

/-- The thread has seen inner cache `i` of `k` initialised and is about to take an object. -/
def PoolPc.takes (pc : PoolPc κ) (k : κ) (i : CacheName) : Prop :=
  match pc with
  | .takeObject k' i' _ => k' = k ∧ i' = i
  | _ => False

instance [DecidableEq κ] (k : κ) (i : CacheName) : ∀ pc : PoolPc κ, Decidable (pc.takes k i)
  | .takeObject _ _ _ => inferInstanceAs (Decidable (_ ∧ _))
  | .idle | .loop _ | .compactMemory _ _ | .destroyBak _ _ | .readCur _ _ | .readInited _ _ _
  | .realInitialize _ _ _ | .readThis _ _ | .putObject _ _ _ | .check _ | .destroyFirst _ _
  | .destroySecond _ _ => inferInstanceAs (Decidable False)

/-- What a thread at `pc` relies on. -/
def PcOk (caches : κ → PoolCache) (lives : κ → CacheName → List CacheObj) : PoolPc κ → Prop
  | .takeObject k i _ => ((caches k).cache.obj i).bInited = true
  | .putObject k i p => p ∈ lives k i ∧ (caches k).cache.heap.pNext p = none
  | _ => True

/-- One cache with its live objects, by inner cache. -/
structure CacheInv (z : CacheSizes) (c : PoolCache) (lives : CacheName → List CacheObj) : Prop where
  elastic : ElasticOk z c.cache lives
  perm : c.live.Perm (lives .firstObj ++ lives .secondObj)
  freeing : ∀ p ∈ c.freeing, p ∈ c.live
  nodup : c.freeing.Nodup

structure PoolInv {τ : Type} (z : κ → CacheSizes) (s : CachePool κ τ) (lives : κ → CacheName → List CacheObj) :
    Prop where
  caches : ∀ k, CacheInv (z k) (s.caches k) (lives k)
  pcs : ∀ t, PcOk s.caches lives (s.threads t)
  frees : ∀ t k p, (s.threads t).frees = some (k, p) → p ∈ (s.caches k).freeing
  apart : ∀ t t' x, (s.threads t).frees = some x → (s.threads t').frees = some x → t = t'

/-- What the other threads see of a change of one cache: it still has the objects but `own`, with their
headers, and only the inner cache `gone` is not initialised any more. -/
structure Effect (c d : PoolCache) (lives lives' : CacheName → List CacheObj) (own : Option CacheObj)
    (gone : Option CacheName) : Prop where
  lives : ∀ i, ∀ p ∈ lives i, some p ≠ own → p ∈ lives' i ∧ d.cache.heap.pNext p = c.cache.heap.pNext p
  inited : ∀ i, some i ≠ gone → (c.cache.obj i).bInited = true → (d.cache.obj i).bInited = true
  freeing : ∀ p ∈ c.freeing, some p ≠ own → p ∈ d.freeing

variable {τ : Type} [DecidableEq κ] [DecidableEq τ] {z : κ → CacheSizes} {s s' : CachePool κ τ}
  {lives : κ → CacheName → List CacheObj} {t : τ} {k : κ} {d : PoolCache} {pc : PoolPc κ}
  {lives' : CacheName → List CacheObj} {own : Option CacheObj} {gone : Option CacheName}

theorem PoolInv.set (h : PoolInv z s lives) (hc : CacheInv (z k) d lives')
    (he : Effect (s.caches k) d (lives k) lives' own gone)
    (hgone : ∀ i, some i = gone → ∀ t' ≠ t, ¬ (s.threads t').takes k i)
    (hown : ∀ p, some p = own → (s.threads t).frees = some (k, p))
    (hpc : PcOk (Function.update s.caches k d) (Function.update lives k lives') pc)
    (hfrees : ∀ k' p, pc.frees = some (k', p) → p ∈ (Function.update s.caches k d k').freeing)
    (hapart : ∀ x, pc.frees = some x → (s.threads t).frees = some x ∨ ∀ t', (s.threads t').frees ≠ some x) :
    PoolInv z (s.set t k d pc) (Function.update lives k lives') := by
  have hne : ∀ t' ≠ t, ∀ p, (s.threads t').frees = some (k, p) → some p ≠ own := by
    intro t' ht p hf ho
    exact ht (h.apart t' t _ hf (hown p ho))
  have hthread : ∀ t' ≠ t, (s.set t k d pc).threads t' = s.threads t' :=
    fun t' ht => Function.update_of_ne ht ..
  have hself : (s.set t k d pc).threads t = pc := Function.update_self ..
  refine ⟨fun k' => ?_, fun t' => ?_, fun t' k' p hf => ?_, fun t₁ t₂ x h₁ h₂ => ?_⟩
  · by_cases hk : k' = k
    · subst hk
      show CacheInv _ (Function.update s.caches k' d k') _
      rw [Function.update_self, Function.update_self]
      exact hc
    · show CacheInv _ (Function.update s.caches k d k') _
      rw [Function.update_of_ne hk, Function.update_of_ne hk]
      exact h.caches k'
  · by_cases ht : t' = t
    · rw [ht, hself]
      exact hpc
    · rw [hthread t' ht]
      have hok := h.pcs t'
      cases hpc' : s.threads t' with
      | takeObject k' i rest =>
        rw [hpc'] at hok
        show ((Function.update s.caches k d k').cache.obj i).bInited = true
        by_cases hk : k' = k
        · subst hk
          rw [Function.update_self]
          refine he.inited i (fun hi => hgone i hi t' ht ?_) hok
          rw [hpc']
          exact ⟨rfl, rfl⟩
        · rw [Function.update_of_ne hk]
          exact hok
      | putObject k' i p =>
        rw [hpc'] at hok
        show p ∈ Function.update lives k lives' k' i ∧ (Function.update s.caches k d k').cache.heap.pNext p = none
        by_cases hk : k' = k
        · subst hk
          rw [Function.update_self, Function.update_self]
          obtain ⟨hmem, hnext⟩ := he.lives i p hok.1 (hne t' ht p (by rw [hpc']; rfl))
          exact ⟨hmem, hnext.trans hok.2⟩
        · rw [Function.update_of_ne hk, Function.update_of_ne hk]
          exact hok
      | _ => trivial
  · by_cases ht : t' = t
    · rw [ht, hself] at hf
      exact hfrees k' p hf
    · rw [hthread t' ht] at hf
      have hold := h.frees t' k' p hf
      show p ∈ (Function.update s.caches k d k').freeing
      by_cases hk : k' = k
      · subst hk
        rw [Function.update_self]
        exact he.freeing p hold (hne t' ht p hf)
      · rw [Function.update_of_ne hk]
        exact hold
  · by_cases ht₁ : t₁ = t
    · by_cases ht₂ : t₂ = t
      · rw [ht₁, ht₂]
      · rw [ht₁, hself] at h₁
        rw [hthread t₂ ht₂] at h₂
        rcases hapart x h₁ with hold | hno
        · rw [ht₁]
          exact h.apart t t₂ x hold h₂
        · exact absurd h₂ (hno t₂)
    · rw [hthread t₁ ht₁] at h₁
      by_cases ht₂ : t₂ = t
      · rw [ht₂, hself] at h₂
        rcases hapart x h₂ with hold | hno
        · rw [ht₂]
          exact h.apart t₁ t x h₁ hold
        · exact absurd h₁ (hno t₁)
      · rw [hthread t₂ ht₂] at h₂
        exact h.apart t₁ t₂ x h₁ h₂

omit [DecidableEq κ] in
theorem PoolInv.setPc (h : PoolInv z s lives) (hpc : PcOk s.caches lives pc)
    (hfrees : ∀ x, pc.frees = some x → (s.threads t).frees = some x) : PoolInv z (s.setPc t pc) lives := by
  have hold : ∀ t' x, ((s.setPc t pc).threads t').frees = some x → (s.threads t').frees = some x := by
    intro t' x hf
    by_cases ht : t' = t
    · subst ht
      rw [show (s.setPc t' pc).threads t' = pc from Function.update_self ..] at hf
      exact hfrees x hf
    · rwa [show (s.setPc t pc).threads t' = s.threads t' from Function.update_of_ne ht ..] at hf
  refine ⟨h.caches, fun t' => ?_, fun t' k p hf => h.frees t' k p (hold t' _ hf),
    fun t₁ t₂ x h₁ h₂ => h.apart t₁ t₂ x (hold t₁ x h₁) (hold t₂ x h₂)⟩
  by_cases ht : t' = t
  · subst ht
    rw [show (s.setPc t' pc).threads t' = pc from Function.update_self ..]
    exact hpc
  · rw [show (s.setPc t pc).threads t' = s.threads t' from Function.update_of_ne ht ..]
    exact h.pcs t'

/-! ### What the steps do to a cache -/

variable {w : CacheSizes} {c : PoolCache} {ls : CacheName → List CacheObj} {i : CacheName} {e : CXElasticMemoryCache}
  {h' : CacheHeap} {m : CXMemoryCache} {live free keep : List CacheObj} {p : CacheObj} {bNew bUnused : Bool}

theorem Effect.of_local (hinv : CacheInv w c ls) (hl : Local c.cache.heap h' (c.cache.obj i) m keep)
    (hkeep : ∀ p ∈ ls i, some p ≠ own → p ∈ keep ∧ p ∈ live)
    (hin : some i ≠ gone → (c.cache.obj i).bInited = true → m.bInited = true)
    (hcache : d.cache = c.cache.set i h' m) (hfreeing : ∀ p ∈ c.freeing, some p ≠ own → p ∈ d.freeing) :
    Effect c d ls (Function.update ls i live) own gone := by
  refine ⟨fun j p hp hne => ?_, fun j hj hjin => ?_, hfreeing⟩
  · rw [hcache]
    rcases CacheName.eq_or_eq_other (i := i) (j := j) with rfl | rfl
    · rw [Function.update_self]
      obtain ⟨hk, hlive⟩ := hkeep p hp hne
      exact ⟨hlive, hl.kept p hk⟩
    · rw [Function.update_of_ne CacheName.other_ne]
      obtain ⟨free', hok⟩ := hinv.elastic.ok i.other
      have hb := hok.block_mem (Or.inr hp)
      have hnot := hinv.elastic.apart i.other _ hb
      rw [CacheName.other_other] at hnot
      exact ⟨hp, (hl.headers p (hok.old _ hb) hnot).1⟩
  · rw [hcache]
    rcases CacheName.eq_or_eq_other (i := i) (j := j) with rfl | rfl
    · rw [show (c.cache.set j h' m).obj j = m from Function.update_self ..]
      exact hin hj hjin
    · rw [show (c.cache.set i h' m).obj i.other = c.cache.obj i.other from
        Function.update_of_ne CacheName.other_ne ..]
      exact hjin

theorem CacheInv.flags (hinv : CacheInv w c ls) (hheap : d.cache.heap = c.cache.heap)
    (hobj : d.cache.obj = c.cache.obj) (hlive : d.live = c.live) (hfreeing : d.freeing = c.freeing) :
    CacheInv w d ls ∧ Effect c d ls ls none none := by
  refine ⟨⟨hinv.elastic.of_obj hheap hobj, ?_, ?_, ?_⟩, fun i p hp _ => ⟨hp, ?_⟩, fun i _ hi => ?_,
    fun p hp _ => ?_⟩
  · rw [hlive]
    exact hinv.perm
  · rw [hlive, hfreeing]
    exact hinv.freeing
  · rw [hfreeing]
    exact hinv.nodup
  · rw [hheap]
  · rw [hobj]
    exact hi
  · rw [hfreeing]
    exact hp

theorem CacheInv.destroy (hinv : CacheInv w c ls) (hnil : (c.cache.obj i).dwNumberOfUsingNodes = 0)
    (hheap : d.cache.heap = (c.cache.destroyInner i).heap) (hobj : d.cache.obj = (c.cache.destroyInner i).obj)
    (hlive : d.live = c.live) (hfreeing : d.freeing = c.freeing) :
    CacheInv w d ls ∧ Effect c d ls ls none (some i) := by
  have hls : ls i = [] := hinv.elastic.lives_eq_nil.mpr hnil
  obtain ⟨free, hok⟩ := hinv.elastic.ok i
  rw [hls] at hok
  obtain ⟨⟨free', hok'⟩, hl, -⟩ := hok.destroy rfl
  have hset := hinv.elastic.set hok' hl
  have hupd : Function.update ls i [] = ls := by rw [← hls, Function.update_eq_self]
  rw [hupd] at hset
  have hinv' : CacheInv w ⟨c.cache.destroyInner i, c.locked, c.live, c.freeing⟩ ls :=
    ⟨hset, hinv.perm, hinv.freeing, hinv.nodup⟩
  have he : Effect c ⟨c.cache.destroyInner i, c.locked, c.live, c.freeing⟩ ls (Function.update ls i []) none
      (some i) := by
    refine Effect.of_local hinv hl (fun p hp _ => ?_) (fun hne => absurd rfl hne) rfl fun p hp _ => hp
    rw [hls] at hp
    cases hp
  rw [hupd] at he
  refine ⟨(hinv'.flags hheap hobj hlive hfreeing).1, fun j p hp hne => ?_, fun j hj hin => ?_, fun p hp _ => ?_⟩
  · rw [hheap]
    exact he.lives j p hp hne
  · rw [hobj]
    exact he.inited j hj hin
  · rw [hfreeing]
    exact hp

theorem CacheInv.realInitialize (hinv : CacheInv w c ls) (hfit : w.Fits)
    (hroom : (c.cache.obj i).pEmptyObjectListHead = none →
      ((c.cache.obj i).lstBlocks.length + 1) * w.iObjectNumInMB < 2 ^ 32)
    (hi : CXMemoryCache.realInitialize w i bNew c.cache.heap (c.cache.obj i) = some (h', m)) :
    CacheInv w { c with cache := c.cache.set i h' m } ls ∧
      Effect c { c with cache := c.cache.set i h' m } ls ls none none ∧ m.bInited = true := by
  cases hin : (c.cache.obj i).bInited with
  | true =>
    unfold CXMemoryCache.realInitialize at hi
    rw [if_pos hin] at hi
    cases hi
    have hset : (c.cache.set i c.cache.heap (c.cache.obj i)).obj = c.cache.obj := Function.update_eq_self ..
    obtain ⟨hinv', he⟩ := hinv.flags (d := { c with cache := c.cache.set i c.cache.heap (c.cache.obj i) })
      rfl hset rfl rfl
    exact ⟨hinv', he, hin⟩
  | false =>
    obtain ⟨free, hok⟩ := hinv.elastic.ok i
    have hnil : free = [] := by
      by_contra hne
      obtain ⟨o, ho⟩ := List.exists_mem_of_ne_nil _ hne
      rw [hok.inited_of_mem (Or.inl ho)] at hin
      cases hin
    subst hnil
    obtain ⟨hok', hl, hm⟩ := hok.realInitialize hfit (hroom (Linked.nil_iff.mp hok.linked)) hin hi
    have hset := hinv.elastic.set hok' hl
    have he : Effect c { c with cache := c.cache.set i h' m } ls (Function.update ls i (ls i)) none none :=
      Effect.of_local hinv hl (fun p hp _ => ⟨hp, hp⟩) (fun _ _ => hm) rfl fun p hp _ => hp
    rw [Function.update_eq_self] at hset he
    exact ⟨⟨hset, hinv.perm, hinv.freeing, hinv.nodup⟩, he, hm⟩

/-- Taking an object: it was not live, and it is of the inner cache. -/
theorem CacheInv.takeObject {r : Option CacheObj} (hinv : CacheInv w c ls) (hfit : w.Fits)
    (hin : (c.cache.obj i).bInited = true)
    (hroom : (c.cache.obj i).pEmptyObjectListHead = none →
      ((c.cache.obj i).lstBlocks.length + 1) * w.iObjectNumInMB < 2 ^ 32)
    (ht : CXMemoryCache.takeObject w i bNew c.cache.heap (c.cache.obj i) = (h', m, r)) :
    ∃ ls', CacheInv w { c with cache := c.cache.set i h' m, live := r.toList ++ c.live } ls' ∧
      Effect c { c with cache := c.cache.set i h' m, live := r.toList ++ c.live } ls ls' none none := by
  obtain ⟨free, hok⟩ := hinv.elastic.ok i
  have hroom' : free = [] → ((c.cache.obj i).lstBlocks.length + 1) * w.iObjectNumInMB < 2 ^ 32 := by
    rintro rfl
    exact hroom (Linked.nil_iff.mp hok.linked)
  rcases hok.takeObject hfit hin hroom' ht with ⟨rfl, rfl, rfl, -⟩ | ⟨p, free', rfl, hok', hl⟩
  · exact ⟨ls, hinv.flags rfl (Function.update_eq_self ..) rfl rfl⟩
  · refine ⟨_, ⟨hinv.elastic.set hok' hl, CacheRun.perm_cons hinv.perm, fun q hq => ?_, hinv.nodup⟩,
      Effect.of_local hinv hl (fun q hq _ => ⟨hq, List.mem_cons_of_mem _ hq⟩) (fun _ _ => ?_) rfl fun q hq _ => hq⟩
    · exact List.mem_cons_of_mem _ (hinv.freeing q hq)
    · exact hok'.inited_of_mem (Or.inr (List.mem_cons_self ..))

theorem CacheInv.setNext (hinv : CacheInv w c ls) (hp : p ∈ ls i) :
    CacheInv w { c with cache := { c.cache with heap := c.cache.heap.setNext p none } } ls ∧
      Effect c { c with cache := { c.cache with heap := c.cache.heap.setNext p none } } ls ls (some p) none := by
  obtain ⟨free, hok⟩ := hinv.elastic.ok i
  obtain ⟨hok', hl⟩ := hok.setNext hp
  have hset := hinv.elastic.set hok' hl
  have hobj : (c.cache.set i (c.cache.heap.setNext p none) (c.cache.obj i)).obj = c.cache.obj :=
    Function.update_eq_self ..
  have he : Effect c { c with cache := c.cache.set i (c.cache.heap.setNext p none) (c.cache.obj i) } ls
      (Function.update ls i (ls i)) (some p) none := by
    refine Effect.of_local hinv hl (fun q hq hne => ⟨?_, hq⟩) (fun _ hin => hin) rfl fun q hq _ => hq
    exact (List.mem_erase_of_ne fun heq => hne (congrArg some heq)).mpr hq
  rw [Function.update_eq_self] at hset he
  refine ⟨⟨hset.of_obj rfl hobj.symm, hinv.perm, hinv.freeing, hinv.nodup⟩, he.lives, fun j hj hin => ?_, he.freeing⟩
  exact hin

theorem CacheInv.putObject (hinv : CacheInv w c ls) (hp : p ∈ ls i) (hnext : c.cache.heap.pNext p = none)
    (hput : CXMemoryCache.putObject p c.cache.heap (c.cache.obj i) = (h', m)) :
    ∃ ls', CacheInv w
        { c with cache := c.cache.set i h' m, live := c.live.erase p, freeing := c.freeing.erase p } ls' ∧
      Effect c { c with cache := c.cache.set i h' m, live := c.live.erase p, freeing := c.freeing.erase p } ls ls'
        (some p) none := by
  obtain ⟨free, hok⟩ := hinv.elastic.ok i
  obtain ⟨hok', hl, -⟩ := hok.putObject hp hnext hput
  have hne : ∀ q : CacheObj, some q ≠ some p → q ≠ p := fun q hq heq => hq (congrArg some heq)
  refine ⟨_, ⟨hinv.elastic.set hok' hl, CacheRun.perm_erase hinv.perm hp hinv.elastic.nodup, fun q hq => ?_,
    hinv.nodup.erase p⟩, Effect.of_local hinv hl (fun q hq hqp => ?_) (fun _ hin => ?_) rfl fun q hq hqp => ?_⟩
  · have hqp : q ≠ p := fun heq => hinv.nodup.not_mem_erase (heq ▸ hq)
    exact (List.mem_erase_of_ne hqp).mpr (hinv.freeing q (List.mem_of_mem_erase hq))
  · have := (List.mem_erase_of_ne (hne q hqp)).mpr hq
    exact ⟨this, this⟩
  · exact hok'.inited_of_mem (Or.inl (List.mem_append_right free (List.mem_singleton_self p)))
  · exact (List.mem_erase_of_ne (hne q hqp)).mpr hq

/-! ### Runs -/

namespace CachePool

/-- A destruction finds nothing used, and nobody about to take an object. -/
def DestroyOk (s : CachePool κ τ) (k : κ) (i : CacheName) : Prop :=
  ((s.caches k).cache.obj i).dwNumberOfUsingNodes = 0 ∧ ∀ t, ¬ (s.threads t).takes k i

/-- A new block keeps the number of objects below `2 ^ 32`. -/
def RoomOk (z : κ → CacheSizes) (s : CachePool κ τ) (k : κ) (i : CacheName) : Prop :=
  ((s.caches k).cache.obj i).pEmptyObjectListHead = none →
    (((s.caches k).cache.obj i).lstBlocks.length + 1) * (z k).iObjectNumInMB < 2 ^ 32

/-- The condition on what a thread does next. -/
def KeepsPc (z : κ → CacheSizes) (s : CachePool κ τ) : PoolPc κ → Prop
  | .destroyBak k _ => s.DestroyOk k (s.caches k).cache.pCacheObj.other
  | .destroyFirst k _ => s.DestroyOk k .firstObj
  | .destroySecond k _ => s.DestroyOk k .secondObj
  | .realInitialize k i _ => s.RoomOk z k i
  | .takeObject k i _ => s.RoomOk z k i
  | _ => True

def Keeps (z : κ → CacheSizes) (s : CachePool κ τ) : τ × PoolChoice κ → Prop
  | (t, .next _ _) => s.KeepsPc z (s.threads t)
  | _ => True

instance [Fintype τ] (s : CachePool κ τ) (k : κ) (i : CacheName) : Decidable (s.DestroyOk k i) :=
  inferInstanceAs (Decidable (_ ∧ _))

instance (s : CachePool κ τ) (k : κ) (i : CacheName) : Decidable (s.RoomOk z k i) :=
  inferInstanceAs (Decidable (_ → _))

instance [Fintype τ] (s : CachePool κ τ) (a : τ × PoolChoice κ) : Decidable (s.Keeps z a) := by
  unfold Keeps KeepsPc
  split
  · split <;> infer_instance
  · infer_instance

variable {call : PoolCall κ} {rest : List κ}

omit [DecidableEq κ] in
theorem frees_afterCompact : (afterCompact k call).frees = (PoolPc.compactMemory k call).frees := by
  cases call <;> rfl

omit [DecidableEq κ] in
theorem frees_destroyBak : (PoolPc.destroyBak k call).frees = (PoolPc.compactMemory k call).frees := by
  cases call <;> rfl

omit [DecidableEq κ] in
theorem pcOk_afterCompact {caches : κ → PoolCache} {lives : κ → CacheName → List CacheObj} :
    PcOk caches lives (afterCompact k call) := by
  cases call <;> trivial

theorem next_of_effect (h : PoolInv z s lives) (hc : CacheInv (z k) d lives')
    (he : Effect (s.caches k) d (lives k) lives' none gone)
    (hgone : ∀ i, some i = gone → ∀ t', ¬ (s.threads t').takes k i)
    (hpc : PcOk (Function.update s.caches k d) (Function.update lives k lives') pc)
    (hfrees : ∀ x, pc.frees = some x → (s.threads t).frees = some x) :
    ∃ lives', PoolInv z (s.set t k d pc) lives' := by
  refine ⟨_, h.set hc he (fun i hi t' _ => hgone i hi t') (fun p hp => ?_) hpc (fun k' p hf => ?_)
    fun x hx => Or.inl (hfrees x hx)⟩
  · cases hp
  · have hold := h.frees t k' p (hfrees _ hf)
    by_cases hk : k' = k
    · subst hk
      rw [Function.update_self]
      exact he.freeing p hold (Option.some_ne_none p)
    · rw [Function.update_of_ne hk]
      exact hold

theorem inv_next (hfit : ∀ k, (z k).Fits) (h : PoolInv z s lives) {bNew bUnused : Bool}
    (hok : s.KeepsPc z (s.threads t)) (hs : s.next z t bNew bUnused = some s') :
    ∃ lives', PoolInv z s' lives' := by
  unfold next at hs
  cases hpc : s.threads t with
  | idle =>
    rw [hpc] at hs
    cases hs
  | loop todo =>
    rw [hpc] at hs
    cases todo with
    | nil =>
      cases hs
      exact ⟨lives, h.setPc trivial fun x hx => by cases hx⟩
    | cons k rest =>
      simp only at hs
      split at hs
      · cases hs
        exact ⟨lives, h.setPc trivial fun x hx => by cases hx⟩
      · cases hs
        exact ⟨lives, h.setPc trivial fun x hx => by cases hx⟩
  | compactMemory k call =>
    rw [hpc] at hs
    simp only at hs
    split at hs
    case isTrue => cases hs
    case isFalse =>
      cases hswap : (s.caches k).cache.swap with
      | none =>
        rw [hswap] at hs
        cases hs
      | some e =>
        rw [hswap] at hs
        simp only at hs
        obtain ⟨hheap, hobj⟩ := CXElasticMemoryCache.swap_same hswap
        split at hs
        · cases hs
          obtain ⟨hc, he⟩ := (h.caches k).flags (d := { s.caches k with cache := e, locked := true })
            hheap hobj rfl rfl
          exact next_of_effect h hc he (fun i hi => by cases hi) trivial fun x hx => by
            rw [hpc, ← frees_destroyBak]
            exact hx
        · cases hs
          obtain ⟨hc, he⟩ := (h.caches k).flags (d := { s.caches k with cache := e }) hheap hobj rfl rfl
          refine next_of_effect h hc he (fun i hi => by cases hi) pcOk_afterCompact fun x hx => ?_
          rw [hpc, ← frees_afterCompact]
          exact hx
  | destroyBak k call =>
    rw [hpc] at hs hok
    cases hs
    obtain ⟨hc, he⟩ := (h.caches k).destroy hok.1
      (d := { s.caches k with cache := (s.caches k).cache.destroyBak, locked := false }) rfl rfl rfl rfl
    refine next_of_effect h hc he (fun i hi => ?_) pcOk_afterCompact fun x hx => ?_
    · cases hi
      exact hok.2
    · rw [hpc, frees_destroyBak, ← frees_afterCompact]
      exact hx
  | readCur k rest =>
    rw [hpc] at hs
    cases hs
    exact ⟨lives, h.setPc trivial fun x hx => by cases hx⟩
  | readInited k i rest =>
    rw [hpc] at hs
    simp only at hs
    split at hs
    case isTrue hin =>
      cases hs
      exact ⟨lives, h.setPc hin fun x hx => by cases hx⟩
    case isFalse =>
      split at hs
      · cases hs
        exact ⟨lives, h.setPc trivial fun x hx => by cases hx⟩
      · cases hs
        exact ⟨lives, h.setPc trivial fun x hx => by cases hx⟩
  | realInitialize k i rest =>
    rw [hpc] at hs hok
    simp only at hs
    split at hs
    case h_1 =>
      cases hs
      exact ⟨lives, h.setPc trivial fun x hx => by cases hx⟩
    case h_2 r hinit =>
      cases hs
      obtain ⟨hc, he, hin⟩ := (h.caches k).realInitialize (hfit k) hok hinit
      refine next_of_effect h hc he (fun i hi => by cases hi) ?_ fun x hx => by cases hx
      show ((Function.update s.caches k _ k).cache.obj i).bInited = true
      rw [Function.update_self]
      exact (congrArg CXMemoryCache.bInited (Function.update_self ..)).trans hin
  | takeObject k i rest =>
    have hin := h.pcs t
    rw [hpc] at hs hok hin
    simp only at hs
    generalize htake : CXMemoryCache.takeObject (z k) i bNew (s.caches k).cache.heap ((s.caches k).cache.obj i) = r
      at hs
    obtain ⟨h', m, r⟩ := r
    obtain ⟨lives', hc, he⟩ := (h.caches k).takeObject (hfit k) hin hok htake
    cases r with
    | none =>
      cases hs
      exact next_of_effect h hc he (fun i hi => by cases hi) trivial fun x hx => by cases hx
    | some p =>
      cases hs
      exact next_of_effect h hc he (fun i hi => by cases hi) trivial fun x hx => by cases hx
  | readThis k p =>
    rw [hpc] at hs
    have hfree := h.frees t k p (by rw [hpc]; rfl)
    obtain ⟨i, hp⟩ := (mem_live_iff (h.caches k).perm).mp ((h.caches k).freeing p hfree)
    obtain ⟨free, hi⟩ := (h.caches k).elastic.ok i
    simp only [hi.pThis_eq (Or.inr hp), hi.inited_of_mem (Or.inr hp), if_true] at hs
    cases hs
    obtain ⟨hc, he⟩ := (h.caches k).setNext hp
    refine ⟨_, h.set hc he (fun i hi => by cases hi) (fun q hq => ?_) ?_ (fun k' q hf => ?_) fun x hx => Or.inl ?_⟩
    · cases hq
      rw [hpc]
      rfl
    · show p ∈ Function.update lives k (lives k) k i ∧ (Function.update s.caches k _ k).cache.heap.pNext p = none
      rw [Function.update_self, Function.update_self]
      exact ⟨hp, Function.update_self ..⟩
    · cases hf
      rw [Function.update_self]
      exact hfree
    · rw [hpc]
      exact hx
  | putObject k i p =>
    have hp := h.pcs t
    rw [hpc] at hs hp
    simp only at hs
    generalize hput : CXMemoryCache.putObject p (s.caches k).cache.heap ((s.caches k).cache.obj i) = r at hs
    obtain ⟨h', m⟩ := r
    cases hs
    obtain ⟨lives', hc, he⟩ := (h.caches k).putObject hp.1 hp.2 hput
    refine ⟨_, h.set hc he (fun i hi => by cases hi) (fun q hq => ?_) trivial (fun k' q hf => by cases hf)
      fun x hx => by cases hx⟩
    cases hq
    rw [hpc]
    rfl
  | check todo =>
    rw [hpc] at hs
    cases todo with
    | nil =>
      cases hs
      exact ⟨lives, h.setPc trivial fun x hx => by cases hx⟩
    | cons k todo =>
      simp only at hs
      split at hs
      · cases hs
      split at hs
      · cases hs
        exact ⟨lives, h.setPc trivial fun x hx => by cases hx⟩
      · cases hs
        exact ⟨lives, h.setPc trivial fun x hx => by cases hx⟩
  | destroyFirst k todo =>
    rw [hpc] at hs hok
    cases hs
    obtain ⟨hc, he⟩ := (h.caches k).destroy hok.1
      (d := { s.caches k with cache := (s.caches k).cache.destroyInner .firstObj }) rfl rfl rfl rfl
    refine next_of_effect h hc he (fun i hi => ?_) trivial fun x hx => by cases hx
    cases hi
    exact hok.2
  | destroySecond k todo =>
    rw [hpc] at hs hok
    cases hs
    obtain ⟨hc, he⟩ := (h.caches k).destroy hok.1
      (d := { s.caches k with cache := (s.caches k).cache.destroyInner .secondObj }) rfl rfl rfl rfl
    refine next_of_effect h hc he (fun i hi => ?_) trivial fun x hx => by cases hx
    cases hi
    exact hok.2

theorem inv_step (hfit : ∀ k, (z k).Fits) (h : PoolInv z s lives) {a : τ × PoolChoice κ} (hok : s.Keeps z a)
    (hs : step z s a = some s') : ∃ lives', PoolInv z s' lives' := by
  obtain ⟨t, choice⟩ := a
  cases choice with
  | getBuffer j row =>
    change (if s.threads t = .idle then _ else none) = _ at hs
    split at hs
    · cases hs
      exact ⟨lives, h.setPc trivial fun x hx => by cases hx⟩
    · cases hs
  | checkCachePool table =>
    change (if s.threads t = .idle then _ else none) = _ at hs
    split at hs
    · cases hs
      exact ⟨lives, h.setPc trivial fun x hx => by cases hx⟩
    · cases hs
  | freeBuffer k p =>
    change (if s.threads t = .idle ∧ p ∈ (s.caches k).live ∧ p ∉ (s.caches k).freeing then _ else none) = _ at hs
    split at hs
    case isTrue hp =>
      obtain ⟨hidle, hlive, hnew⟩ := hp
      cases hs
      have hc := h.caches k
      have hmem : ∀ q ∈ p :: (s.caches k).freeing, q ∈ (s.caches k).live := by
        intro q hq
        rcases List.mem_cons.mp hq with rfl | hq
        · exact hlive
        · exact hc.freeing q hq
      have he : Effect (s.caches k) { s.caches k with freeing := p :: (s.caches k).freeing } (lives k) (lives k)
          none none :=
        ⟨fun i q hq _ => ⟨hq, rfl⟩, fun i _ hi => hi, fun q hq _ => List.mem_cons_of_mem _ hq⟩
      refine ⟨_, h.set ⟨hc.elastic, hc.perm, hmem, List.nodup_cons.mpr ⟨hnew, hc.nodup⟩⟩ he
        (fun i hi => by cases hi) (fun q hq => by cases hq) trivial (fun k' q hf => ?_)
        fun x hx => Or.inr fun t' hf => ?_⟩
      · cases hf
        rw [Function.update_self]
        exact List.mem_cons_self ..
      · cases hx
        exact hnew (h.frees t' k p hf)
    case isFalse => cases hs
  | next bNew bUnused => exact inv_next hfit h hok hs

omit [DecidableEq κ] [DecidableEq τ] in
theorem inv_start (hfit : ∀ k, (z k).Fits) (bInitAtOnce bNew : κ → Bool) :
    ∃ lives, PoolInv z (start z bInitAtOnce bNew : CachePool κ τ) lives := by
  have hok : ∀ k, ∃ lives, (CacheRun.start (z k) (bInitAtOnce k) (bNew k)).Ok (z k) lives :=
    fun k => CacheRun.ok_start (hfit k)
  choose lives hok using hok
  refine ⟨lives, fun k => ⟨(hok k).elastic, (hok k).perm, ?_, List.nodup_nil⟩, fun _ => trivial, ?_, ?_⟩
  · intro p hp
    cases hp
  · intro t k p hf
    cases hf
  · intro t t' x hf
    cases hf

/-- The live objects are handed out once, lie in blocks that are there, and are what the counters count. -/
structure Safe (s : CachePool κ τ) : Prop where
  once : ∀ k, (s.caches k).live.Nodup
  there : ∀ k, ∀ o ∈ (s.caches k).live, (s.caches k).cache.heap.blockSize o.block ≠ none
  uses : ∀ k i, ((s.caches k).cache.obj i).dwNumberOfUsingNodes =
    ((s.caches k).live.filter fun o => o.block ∈ ((s.caches k).cache.obj i).lstBlocks).length

omit [DecidableEq κ] [DecidableEq τ] in
theorem safe_of_inv (h : PoolInv z s lives) : s.Safe := by
  refine ⟨fun k => (h.caches k).perm.nodup_iff.mpr (h.caches k).elastic.nodup, fun k o ho => ?_,
    fun k i => (h.caches k).elastic.uses_eq (h.caches k).perm⟩
  obtain ⟨i, hi⟩ := (mem_live_iff (h.caches k).perm).mp ho
  obtain ⟨free, hok⟩ := (h.caches k).elastic.ok i
  rw [hok.size _ (hok.block_mem (Or.inr hi))]
  exact Option.some_ne_none _

/-- Reclaiming is safe in every run whose destructions meet the condition. -/
theorem safe_of_keeps [Fintype τ] {bInitAtOnce bNew : κ → Bool} (hfit : ∀ k, (z k).Fits)
    (h : Reachable (guarded (Keeps z) (step z)) (start z bInitAtOnce bNew) s) : s.Safe := by
  obtain ⟨lives, hinv⟩ : ∃ lives, PoolInv z s lives := by
    induction h with
    | init => exact inv_start hfit bInitAtOnce bNew
    | step a _ hs ih =>
      obtain ⟨lives, hinv⟩ := ih
      obtain ⟨hok, hs⟩ := guarded_eq_some.mp hs
      exact inv_step hfit hinv hok hs
  exact safe_of_inv hinv

/-! ### Concrete runs -/

/-- One cache, a worker (`true`) and the checking thread (`false`): an object is taken and comes back, and the
cache is found unused. -/
def unusedRun : List (Bool × PoolChoice Unit) :=
  [(true, .getBuffer () []), (true, .next true true), (true, .next true true), (true, .next true true),
    (true, .next true true), (true, .next true true),
    (true, .freeBuffer () ⟨0, 0⟩), (true, .next true true), (true, .next true true), (true, .next true true),
    (false, .checkCachePool [()]), (false, .next true true)]

/-- Before the cache is destroyed the worker takes another object. -/
def reclaimedRun : List (Bool × PoolChoice Unit) :=
  unusedRun ++ [(true, .getBuffer () []), (true, .next true true), (true, .next true true),
    (true, .next true true), (true, .next true true), (false, .next true true)]

def oneCache : CachePool Unit Bool := start (fun _ => CacheRun.twoBytes) (fun _ => false) fun _ => true

theorem not_safe_reclaimed : ∃ s, Reachable (step fun _ => CacheRun.twoBytes) oneCache s ∧ ¬ s.Safe := by
  have hrun : (runSteps (step fun _ => CacheRun.twoBytes) oneCache reclaimedRun).any
      (fun s => (s.caches ()).live = [⟨0, 25⟩] ∧ (s.caches ()).cache.heap.blockSize 0 = none) = true := by
    decide +kernel
  obtain ⟨s, hs, hlive⟩ := (Option.any_eq_true _ _).mp hrun
  obtain ⟨hlive, hsize⟩ := of_decide_eq_true hlive
  refine ⟨s, Reachable.of_runSteps hs, fun hsafe => ?_⟩
  exact hsafe.there () ⟨0, 25⟩ (by rw [hlive]; exact List.mem_singleton_self _) hsize

theorem safe_of_keeps_unused : ∃ s : CachePool Unit Bool,
    (s.caches ()).cache.heap.blockSize 0 = none ∧ (s.caches ()).cache.heap.fresh = 1 ∧ s.Safe := by
  have hrun : (runSteps (guarded (Keeps fun _ => CacheRun.twoBytes) (step fun _ => CacheRun.twoBytes)) oneCache
      (unusedRun ++ [(false, .next true true)])).any (fun s => (s.caches ()).cache.heap.blockSize 0 = none ∧
        (s.caches ()).cache.heap.fresh = 1) = true := by decide +kernel
  obtain ⟨s, hs, hsize⟩ := (Option.any_eq_true _ _).mp hrun
  obtain ⟨hsize, hfresh⟩ := of_decide_eq_true hsize
  exact ⟨s, hsize, hfresh, safe_of_keeps (fun _ => CacheRun.fits_twoBytes) (Reachable.of_runSteps hs)⟩

end CachePool

end KonsanNet
