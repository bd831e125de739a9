import KonsanNet.Linked
import KonsanNet.MemoryCache

/-!
# What the elastic memory cache keeps

`CacheOk` ties one inner cache together: its blocks consist of the objects of its free list and of its live
objects, each once, and its counters count them. It is proved once for every locked operation of
`CXMemoryCache`; each of them leaves the other inner cache's blocks alone (`Local`), so both stay right
(`ElasticOk`).

The division of `CompactMemory` is defined as long as a current cache of three blocks or more has a live
object. A call of `FreeObject` that destroys the drained cache does not look at the current one, so it
may free that object (`FreesLastGrown`).
-/

namespace KonsanNet

/-! ### Sizes -/

namespace CacheSizes

variable {z : CacheSizes} {i j b : Nat} {o : CacheObj}

/-- The bytes of an object with its header. -/
def structSize (z : CacheSizes) : Nat := 24 + z.iObjectSize

/-- The size of a block does not overflow its `int`, or it overflows to a size that `new` refuses. -/
def Fits (z : CacheSizes) : Prop := z.iBufferSize < 0 ∨ z.iBufferSize = z.structSize * z.iObjectNumInMB

/-- The size of a block is right. -/
def Exact (z : CacheSizes) : Prop := z.iBufferSize = z.structSize * z.iObjectNumInMB

theorem Exact.lt (h : z.Exact) : z.structSize * z.iObjectNumInMB < 2 ^ 31 := by
  have hlt : z.iBufferSize < (((2 ^ 32 : Nat) : Int) + 1) / 2 := Int.bmod_lt (by decide)
  rw [h] at hlt
  have : ((z.structSize * z.iObjectNumInMB : Nat) : Int) < 2 ^ 31 := by
    push_cast at hlt ⊢
    omega
  exact_mod_cast this

theorem Exact.iObjectStructSize_eq (h : z.Exact) : z.iObjectStructSize = z.structSize := by
  have hle : z.structSize * 2 ≤ z.structSize * z.iObjectNumInMB := Nat.mul_le_mul_left _ z.num_ge
  have hlt := h.lt
  unfold iObjectStructSize structSize at *
  exact Int.bmod_eq_of_le (by omega) (by omega)

theorem Exact.offset_eq (h : z.Exact) (hi : i ≤ z.iObjectNumInMB) : z.offset i = z.structSize * i := by
  have hlt := h.lt
  have hle : z.structSize * i ≤ z.structSize * z.iObjectNumInMB := Nat.mul_le_mul_left _ hi
  unfold offset
  rw [h.iObjectStructSize_eq]
  exact Int.bmod_eq_of_le (by push_cast; omega) (by push_cast; omega)

theorem offset_zero : z.offset 0 = 0 := by
  unfold offset
  rw [Int.natCast_zero, Int.mul_zero]
  rfl

theorem Exact.offset_inj (h : z.Exact) (hi : i < z.iObjectNumInMB) (hj : j < z.iObjectNumInMB)
    (heq : z.offset i = z.offset j) : i = j := by
  rw [h.offset_eq hi.le, h.offset_eq hj.le] at heq
  have hpos : 0 < z.structSize := by unfold structSize; omega
  exact Nat.eq_of_mul_eq_mul_left hpos (by exact_mod_cast heq)

/-- The objects of a block, in order. -/
def objs (z : CacheSizes) (b : Nat) : List CacheObj :=
  (List.range z.iObjectNumInMB).map fun i => ⟨b, z.offset i⟩

theorem mem_objs : o ∈ z.objs b ↔ ∃ i < z.iObjectNumInMB, o = ⟨b, z.offset i⟩ := by
  simp only [objs, List.mem_map, List.mem_range, eq_comm]

theorem block_of_mem_objs (h : o ∈ z.objs b) : o.block = b := by
  obtain ⟨i, -, rfl⟩ := mem_objs.mp h
  rfl

theorem Exact.nodup_objs (h : z.Exact) : (z.objs b).Nodup := by
  refine (List.nodup_map_iff_inj_on List.nodup_range).mpr fun i hi j hj heq => ?_
  rw [CacheObj.mk.injEq] at heq
  exact h.offset_inj (List.mem_range.mp hi) (List.mem_range.mp hj) heq.2

theorem length_objs : (z.objs b).length = z.iObjectNumInMB := by simp [objs]

theorem objs_eq_cons : ∃ o p rest, z.objs b = o :: p :: rest := by
  have hnum := z.num_ge
  have hlen := length_objs (z := z) (b := b)
  cases hobjs : z.objs b with
  | nil =>
    rw [hobjs, List.length_nil] at hlen
    omega
  | cons o rest =>
    cases rest with
    | nil =>
      rw [hobjs, List.length_singleton] at hlen
      omega
    | cons p rest => exact ⟨o, p, rest, rfl⟩

theorem length_flatMap_objs {bs : List Nat} : (bs.flatMap z.objs).length = bs.length * z.iObjectNumInMB := by
  induction bs with
  | nil => simp
  | cons b bs ih => rw [List.flatMap_cons, List.length_append, ih, length_objs, List.length_cons]; ring

theorem Exact.nodup_flatMap_objs (h : z.Exact) {bs : List Nat} (hbs : bs.Nodup) : (bs.flatMap z.objs).Nodup := by
  refine List.nodup_flatMap.mpr ⟨fun b _ => h.nodup_objs, hbs.imp fun hne => ?_⟩
  intro o ho ho'
  exact hne ((block_of_mem_objs ho).symm.trans (block_of_mem_objs ho'))

end CacheSizes

/-! ### A new block -/

namespace CacheHeap

variable {f : Nat → Int} {w : CacheName} {b : Nat} {o p : CacheObj}

/-- The cells that the loop writes: from `i` on, `n + 1` of them. -/
def cells (f : Nat → Int) (b i n : Nat) : List CacheObj :=
  (List.range' i (n + 1)).map fun k => ⟨b, f k⟩

theorem cells_zero {i : Nat} : cells f b i 0 = [⟨b, f i⟩] := rfl

theorem cells_succ {i n : Nat} : cells f b i (n + 1) = ⟨b, f i⟩ :: cells f b (i + 1) n := by
  unfold cells
  rw [List.range'_succ, List.map_cons]

theorem linkObjects_size : ∀ {n i : Nat} {p : CacheObj} {h : CacheHeap},
    (linkObjects f w b n i p h).1.fresh = h.fresh ∧
      (linkObjects f w b n i p h).1.blockSize = h.blockSize
  | 0, _, _, _ => ⟨rfl, rfl⟩
  | n + 1, _, _, _ => linkObjects_size (n := n)

theorem linkObjects_frame : ∀ {n i : Nat} {h : CacheHeap}, o ∉ cells f b i n →
    (linkObjects f w b n (i + 1) ⟨b, f i⟩ h).1.pNext o = h.pNext o ∧
      (linkObjects f w b n (i + 1) ⟨b, f i⟩ h).1.pThis o = h.pThis o
  | 0, i, h, ho => by
    have hne : o ≠ ⟨b, f i⟩ := fun e => ho (by rw [cells_zero, e]; exact List.mem_singleton_self _)
    exact ⟨Function.update_of_ne hne .., Function.update_of_ne hne ..⟩
  | n + 1, i, h, ho => by
    rw [cells_succ, List.mem_cons, not_or] at ho
    obtain ⟨hn, ht⟩ := linkObjects_frame (n := n) (i := i + 1) ho.2
      (h := (h.setThis ⟨b, f i⟩ w).setNext ⟨b, f i⟩ (some ⟨b, f (i + 1)⟩))
    refine ⟨hn.trans (Function.update_of_ne ho.1 ..), ht.trans (Function.update_of_ne ho.1 ..)⟩

theorem linkObjects_this : ∀ {n i : Nat} {h : CacheHeap}, (cells f b i n).Nodup → o ∈ cells f b i n →
    (linkObjects f w b n (i + 1) ⟨b, f i⟩ h).1.pThis o = w
  | 0, i, h, _, ho => by
    rw [cells_zero, List.mem_singleton] at ho
    rw [ho]
    exact Function.update_self ..
  | n + 1, i, h, hnd, ho => by
    rw [cells_succ] at hnd ho
    obtain ⟨hnot, hnd⟩ := List.nodup_cons.mp hnd
    rcases List.mem_cons.mp ho with rfl | ho
    · refine (linkObjects_frame hnot).2.trans ?_
      exact Function.update_self ..
    · exact linkObjects_this (n := n) (i := i + 1) hnd ho

theorem linkObjects_linked : ∀ {n i : Nat} {h : CacheHeap}, (cells f b i n).Nodup →
    Linked (linkObjects f w b n (i + 1) ⟨b, f i⟩ h).1.pNext (some ⟨b, f i⟩) (cells f b i n) ∧
      some (linkObjects f w b n (i + 1) ⟨b, f i⟩ h).2 = (cells f b i n).getLast?
  | 0, i, h, _ => ⟨⟨rfl, Function.update_self ..⟩, rfl⟩
  | n + 1, i, h, hnd => by
    rw [cells_succ] at hnd ⊢
    obtain ⟨hnot, hnd⟩ := List.nodup_cons.mp hnd
    obtain ⟨hlinked, hlast⟩ := linkObjects_linked (n := n) (i := i + 1) hnd
      (h := (h.setThis ⟨b, f i⟩ w).setNext ⟨b, f i⟩ (some ⟨b, f (i + 1)⟩))
    refine ⟨⟨rfl, ?_⟩, ?_⟩
    · have hnext := (linkObjects_frame hnot (w := w)
        (h := (h.setThis ⟨b, f i⟩ w).setNext ⟨b, f i⟩ (some ⟨b, f (i + 1)⟩))).1
      have hself : ((h.setThis ⟨b, f i⟩ w).setNext ⟨b, f i⟩ (some ⟨b, f (i + 1)⟩)).pNext
          ⟨b, f i⟩ = some ⟨b, f (i + 1)⟩ := Function.update_self ..
      show Linked (linkObjects f w b n (i + 1 + 1) ⟨b, f (i + 1)⟩ _).1.pNext _ _
      rw [show linkObjects f w b (n + 1) (i + 1) ⟨b, f i⟩ h = linkObjects f w b n (i + 1 + 1)
        ⟨b, f (i + 1)⟩ _ from rfl, hnext, hself]
      exact hlinked
    · rw [List.getLast?_cons, ← hlast]
      rfl

/-- The new objects are chained in order and belong to the cache; no other header changes. -/
theorem linkObjects_spec {n : Nat} (h : CacheHeap) (h0 : f 0 = 0) (hnd : (cells f b 0 n).Nodup) :
    ∃ h' last, linkObjects f w b n 1 ⟨b, 0⟩ h = (h', last) ∧ h'.fresh = h.fresh ∧ h'.blockSize = h.blockSize ∧
      Linked h'.pNext (some ⟨b, 0⟩) (cells f b 0 n) ∧ some last = (cells f b 0 n).getLast? ∧
      (∀ o ∈ cells f b 0 n, h'.pThis o = w) ∧
      ∀ o ∉ cells f b 0 n, h'.pNext o = h.pNext o ∧ h'.pThis o = h.pThis o := by
  obtain ⟨hlinked, hlast⟩ := linkObjects_linked (w := w) (i := 0) (h := h) hnd
  have hthis := fun o => linkObjects_this (o := o) (w := w) (i := 0) (h := h) hnd
  have hframe := fun o => linkObjects_frame (o := o) (f := f) (b := b) (w := w) (i := 0) (n := n) (h := h)
  obtain ⟨hfresh, hsize⟩ := linkObjects_size (f := f) (w := w) (b := b) (n := n) (i := 1) (p := ⟨b, 0⟩) (h := h)
  rw [h0] at hlinked hlast hthis hframe
  exact ⟨_, _, rfl, hfresh, hsize, hlinked, hlast, hthis, hframe⟩

end CacheHeap

/-! ### One inner cache -/

/-- The objects of the blocks are on the free list or live, each once, and the counters are right. -/
structure CacheOk (z : CacheSizes) (h : CacheHeap) (w : CacheName) (c : CXMemoryCache) (live free : List CacheObj) :
    Prop where
  sizes : c.lstBlocks ≠ [] → z.Exact
  linked : Linked h.pNext c.pEmptyObjectListHead free
  last : c.pEmptyObjectListEnd = free.getLast?
  perm : (free ++ live).Perm (c.lstBlocks.flatMap z.objs)
  nodup : c.lstBlocks.Nodup
  old : ∀ b ∈ c.lstBlocks, b < h.fresh
  size : ∀ b ∈ c.lstBlocks, h.blockSize b = some (z.structSize * z.iObjectNumInMB)
  this : ∀ b ∈ c.lstBlocks, ∀ o ∈ z.objs b, h.pThis o = w
  number : c.nMemoryBlocksNumber = c.lstBlocks.length
  total : c.dwNumberOfTotalNodes = c.lstBlocks.length * z.iObjectNumInMB
  uses : c.dwNumberOfUsingNodes = live.length
  room : c.lstBlocks.length * z.iObjectNumInMB < 2 ^ 32
  inited : c.bInited = false → c.lstBlocks = []

/-- An operation on one cache changes nothing but its own blocks and headers, and new ones, and of its own not
the headers of the objects `keep`. -/
structure Local (h h' : CacheHeap) (c c' : CXMemoryCache) (keep : List CacheObj) : Prop where
  fresh : h.fresh ≤ h'.fresh
  size : ∀ b < h.fresh, b ∉ c.lstBlocks → h'.blockSize b = h.blockSize b
  headers : ∀ o : CacheObj, o.block < h.fresh → o.block ∉ c.lstBlocks →
    h'.pNext o = h.pNext o ∧ h'.pThis o = h.pThis o
  blocks : ∀ b ∈ c'.lstBlocks, b ∈ c.lstBlocks ∨ h.fresh ≤ b
  kept : ∀ o ∈ keep, h'.pNext o = h.pNext o

variable {z : CacheSizes} {h h' h'' : CacheHeap} {w : CacheName} {c c' c'' d : CXMemoryCache}
  {live free keep : List CacheObj} {o p : CacheObj} {b : Nat} {bNew : Bool} {r : Option CacheObj}

theorem Local.refl : Local h h c c keep :=
  ⟨le_rfl, fun _ _ _ => rfl, fun _ _ _ => ⟨rfl, rfl⟩, fun _ hb => Or.inl hb, fun _ _ => rfl⟩

theorem Local.trans (h₁ : Local h h' c c' keep) (h₂ : Local h' h'' c' c'' keep) : Local h h'' c c'' keep := by
  have hnot : ∀ b < h.fresh, b ∉ c.lstBlocks → b ∉ c'.lstBlocks := by
    intro b hlt hb hb'
    rcases h₁.blocks b hb' with hb' | hge
    · exact hb hb'
    · omega
  refine ⟨h₁.fresh.trans h₂.fresh, fun b hlt hb => ?_, fun o hlt ho => ?_, fun b hb => ?_,
    fun o ho => (h₂.kept o ho).trans (h₁.kept o ho)⟩
  · exact (h₂.size b (hlt.trans_le h₁.fresh) (hnot b hlt hb)).trans (h₁.size b hlt hb)
  · obtain ⟨hn, ht⟩ := h₂.headers o (hlt.trans_le h₁.fresh) (hnot _ hlt ho)
    obtain ⟨hn', ht'⟩ := h₁.headers o hlt ho
    exact ⟨hn.trans hn', ht.trans ht'⟩
  · rcases h₂.blocks b hb with hb | hge
    · exact h₁.blocks b hb
    · exact Or.inr (h₁.fresh.trans hge)

namespace CacheOk

theorem mem_objs (hok : CacheOk z h w c live free) (ho : o ∈ free ∨ o ∈ live) :
    ∃ b ∈ c.lstBlocks, o ∈ z.objs b :=
  List.mem_flatMap.mp (hok.perm.mem_iff.mp (List.mem_append.mpr ho))

theorem block_mem (hok : CacheOk z h w c live free) (ho : o ∈ free ∨ o ∈ live) : o.block ∈ c.lstBlocks := by
  obtain ⟨b, hb, ho⟩ := hok.mem_objs ho
  rwa [CacheSizes.block_of_mem_objs ho]

theorem pThis_eq (hok : CacheOk z h w c live free) (ho : o ∈ free ∨ o ∈ live) : h.pThis o = w := by
  obtain ⟨b, hb, ho⟩ := hok.mem_objs ho
  exact hok.this b hb o ho

theorem length (hok : CacheOk z h w c live free) :
    free.length + live.length = c.lstBlocks.length * z.iObjectNumInMB := by
  rw [← List.length_append, hok.perm.length_eq, CacheSizes.length_flatMap_objs]

theorem nodup_objs (hok : CacheOk z h w c live free) : (free ++ live).Nodup := by
  refine hok.perm.nodup_iff.mpr ?_
  by_cases hnil : c.lstBlocks = []
  · rw [hnil]
    exact List.nodup_nil
  · exact (hok.sizes hnil).nodup_flatMap_objs hok.nodup

theorem inited_of_mem (hok : CacheOk z h w c live free) (ho : o ∈ free ∨ o ∈ live) : c.bInited = true := by
  cases hin : c.bInited with
  | true => rfl
  | false =>
    have := hok.block_mem ho
    rw [hok.inited hin] at this
    cases this

theorem of_local (hok : CacheOk z h w d live free) (hl : Local h h' c c' keep)
    (hd : ∀ b ∈ d.lstBlocks, b ∉ c.lstBlocks) : CacheOk z h' w d live free := by
  refine ⟨hok.sizes, hok.linked.congr fun o ho => ?_, hok.last, hok.perm, hok.nodup,
    fun b hb => (hok.old b hb).trans_le hl.fresh, fun b hb => ?_, fun b hb o ho => ?_, hok.number, hok.total,
    hok.uses, hok.room, hok.inited⟩
  · have hb := hok.block_mem (Or.inl ho)
    exact (hl.headers o (hok.old _ hb) (hd _ hb)).1
  · exact (hl.size b (hok.old b hb) (hd b hb)).trans (hok.size b hb)
  · have hblock := CacheSizes.block_of_mem_objs ho
    have hb' : o.block ∈ d.lstBlocks := by rwa [hblock]
    exact (hl.headers o (hok.old _ hb') (hd _ hb')).2.trans (hok.this b hb o ho)

theorem construct : CacheOk z h w .construct [] [] := by
  refine ⟨fun hne => absurd rfl hne, rfl, rfl, List.Perm.refl _, List.nodup_nil, ?_, ?_, ?_, rfl,
    (Nat.zero_mul _).symm, rfl, ?_, fun _ => rfl⟩
  case refine_4 =>
    rw [show CXMemoryCache.construct.lstBlocks.length = 0 from rfl, Nat.zero_mul]
    exact Nat.two_pow_pos 32
  all_goals
    intro b hb
    cases hb

theorem cells_eq_objs : CacheHeap.cells z.offset b 0 (z.iObjectNumInMB - 1) = z.objs b := by
  have := z.num_ge
  unfold CacheHeap.cells CacheSizes.objs
  rw [Nat.sub_add_cancel (by omega), List.range_eq_range']

theorem allocate (hok : CacheOk z h w c live []) (hfit : z.Fits)
    (hroom : (c.lstBlocks.length + 1) * z.iObjectNumInMB < 2 ^ 32)
    (ha : CXMemoryCache.allocateMemoryBlock z w bNew h c = some (h', c')) :
    CacheOk z h' w { c' with bInited := true } live (z.objs h.fresh) ∧ Local h h' c c' live := by
  unfold CXMemoryCache.allocateMemoryBlock at ha
  split at ha
  case isTrue => cases ha
  case isFalse hneg =>
    rw [not_or, not_lt] at hneg
    have hz : z.Exact := by
      rcases hfit with hlt | hz
      · exact absurd hlt (not_lt.mpr hneg.2)
      · exact hz
    have hnew : h.fresh ∉ c.lstBlocks := fun hm => Nat.lt_irrefl _ (hok.old _ hm)
    have hnd : (CacheHeap.cells z.offset h.fresh 0 (z.iObjectNumInMB - 1)).Nodup := by
      rw [cells_eq_objs]
      exact hz.nodup_objs
    obtain ⟨h₁, last, hlink, hfresh, hsize, hlinked, hlast, hthis, hframe⟩ := CacheHeap.linkObjects_spec (w := w)
      { h with fresh := h.fresh + 1, blockSize := Function.update h.blockSize h.fresh (some z.iBufferSize.toNat) }
      CacheSizes.offset_zero hnd
    rw [cells_eq_objs] at hlinked hlast hthis hframe
    simp only [hlink, Option.some.injEq, Prod.mk.injEq] at ha
    obtain ⟨rfl, rfl⟩ := ha
    have hold : ∀ o : CacheObj, o.block < h.fresh → o ∉ z.objs h.fresh := by
      intro o hlt ho
      have := CacheSizes.block_of_mem_objs ho
      omega
    have hother : ∀ b < h.fresh, h₁.blockSize b = h.blockSize b := by
      intro b hlt
      rw [hsize]
      exact Function.update_of_ne hlt.ne ..
    have hblocks : (c.lstBlocks ++ [h.fresh]).length = c.lstBlocks.length + 1 := by simp
    have hnum := z.num_ge
    have hle : c.lstBlocks.length + 1 ≤ (c.lstBlocks.length + 1) * z.iObjectNumInMB :=
      Nat.le_mul_of_pos_right _ (by omega)
    refine ⟨⟨fun _ => hz, hlinked, hlast, ?_, ?_, ?_, ?_, ?_, ?_, ?_, hok.uses, ?_, ?_⟩, ⟨?_, ?_, ?_, ?_, ?_⟩⟩
    · show (z.objs h.fresh ++ live).Perm ((c.lstBlocks ++ [h.fresh]).flatMap z.objs)
      rw [List.flatMap_append, List.flatMap_singleton]
      exact List.perm_append_comm.trans (hok.perm.append_right _)
    · exact List.nodup_append.mpr ⟨hok.nodup, List.nodup_singleton _, fun a ha b hb => by
        rw [List.mem_singleton.mp hb]
        exact fun heq => hnew (heq ▸ ha)⟩
    · intro b hb
      rw [hfresh]
      rcases List.mem_append.mp hb with hb | hb
      · exact Nat.lt_succ_of_lt (hok.old b hb)
      · rw [List.mem_singleton.mp hb]
        exact Nat.lt_succ_self _
    · intro b hb
      rcases List.mem_append.mp hb with hb | hb
      · exact (hother b (hok.old b hb)).trans (hok.size b hb)
      · rw [List.mem_singleton.mp hb, hsize]
        refine (Function.update_self ..).trans ?_
        rw [show z.iBufferSize = ((z.structSize * z.iObjectNumInMB : Nat) : Int) by rw [hz]; push_cast; rfl]
        rfl
    · intro b hb o ho
      rcases List.mem_append.mp hb with hb | hb
      · have hlt : o.block < h.fresh := by
          rw [CacheSizes.block_of_mem_objs ho]
          exact hok.old b hb
        exact (hframe o (hold o hlt)).2.trans (hok.this b hb o ho)
      · rw [List.mem_singleton.mp hb] at ho
        exact hthis o ho
    · show (c.nMemoryBlocksNumber + 1) % 2 ^ 32 = (c.lstBlocks ++ [h.fresh]).length
      rw [hok.number, hblocks]
      exact Nat.mod_eq_of_lt (by omega)
    · show (c.dwNumberOfTotalNodes + z.iObjectNumInMB) % 2 ^ 32 = (c.lstBlocks ++ [h.fresh]).length * z.iObjectNumInMB
      rw [hok.total, hblocks, ← Nat.succ_mul]
      exact Nat.mod_eq_of_lt hroom
    · show (c.lstBlocks ++ [h.fresh]).length * z.iObjectNumInMB < 2 ^ 32
      rw [hblocks]
      exact hroom
    · intro hin
      cases hin
    · rw [hfresh]
      exact Nat.le_succ _
    · exact fun b hlt _ => hother b hlt
    · exact fun o hlt _ => hframe o (hold o hlt)
    · intro b hb
      rcases List.mem_append.mp hb with hb | hb
      · exact Or.inl hb
      · rw [List.mem_singleton.mp hb]
        exact Or.inr le_rfl
    · exact fun o ho => (hframe o (hold o (hok.old _ (hok.block_mem (Or.inr ho))))).1

theorem handOut (hok : CacheOk z h w c live (o :: free)) {e : Option CacheObj} (he : e = free.getLast?) :
    CacheOk z (CXMemoryCache.handOut o h { c with
        pEmptyObjectListHead := h.pNext o, pEmptyObjectListEnd := e }).1 w
      (CXMemoryCache.handOut o h { c with
        pEmptyObjectListHead := h.pNext o, pEmptyObjectListEnd := e }).2.1 (o :: live) free ∧
    Local h (CXMemoryCache.handOut o h { c with
        pEmptyObjectListHead := h.pNext o, pEmptyObjectListEnd := e }).1 c
      (CXMemoryCache.handOut o h { c with
        pEmptyObjectListHead := h.pNext o, pEmptyObjectListEnd := e }).2.1 live := by
  have ho := hok.block_mem (Or.inl (List.mem_cons_self ..))
  have hfree : o ∉ free := (List.nodup_cons.mp hok.linked.nodup).1
  have hlen := hok.length
  have hroom := hok.room
  rw [List.length_cons] at hlen
  refine ⟨⟨hok.sizes, ?_, he, ?_, hok.nodup, hok.old, hok.size, hok.this, hok.number, hok.total, ?_, hok.room,
    hok.inited⟩, ⟨le_rfl, fun _ _ _ => rfl, fun p _ hp => ⟨?_, rfl⟩, fun _ hb => Or.inl hb, fun p hp => ?_⟩⟩
  · exact hok.linked.2.update_of_notMem hfree none
  · exact List.perm_middle.trans hok.perm
  · show (c.dwNumberOfUsingNodes + 1) % 2 ^ 32 = (o :: live).length
    rw [hok.uses, List.length_cons]
    exact Nat.mod_eq_of_lt (by omega)
  · refine Function.update_of_ne (fun heq => hp ?_) ..
    rwa [heq]
  · refine Function.update_of_ne (fun heq => ?_) ..
    rw [heq] at hp
    exact List.disjoint_of_nodup_append hok.nodup_objs (List.mem_cons_self ..) hp

theorem realInitialize (hok : CacheOk z h w c live []) (hfit : z.Fits)
    (hroom : (c.lstBlocks.length + 1) * z.iObjectNumInMB < 2 ^ 32) (hin : c.bInited = false)
    (hi : CXMemoryCache.realInitialize z w bNew h c = some (h', c')) :
    CacheOk z h' w c' live (z.objs h.fresh) ∧ Local h h' c c' live ∧ c'.bInited = true := by
  unfold CXMemoryCache.realInitialize at hi
  rw [if_neg (by rw [hin]; exact Bool.false_ne_true)] at hi
  obtain ⟨⟨h₁, c₁⟩, ha, heq⟩ := Option.map_eq_some_iff.mp hi
  obtain ⟨hok', hl⟩ := hok.allocate hfit hroom ha
  cases heq
  exact ⟨hok', ⟨hl.fresh, hl.size, hl.headers, hl.blocks, hl.kept⟩, rfl⟩

theorem takeHead (hok : CacheOk z h w c live (o :: free))
    (ht : CXMemoryCache.takeObject z w bNew h c = (h', c', r)) :
    r = some o ∧ CacheOk z h' w c' (o :: live) free ∧ Local h h' c c' live := by
  have hlinked := hok.linked.2
  have hend : (if h.pNext o = none then none else c.pEmptyObjectListEnd) = free.getLast? := by
    rw [hok.last]
    cases free with
    | nil =>
      rw [if_pos (Linked.nil_iff.mp hlinked)]
      rfl
    | cons a free => rw [if_neg (by rw [hlinked.1]; exact Option.some_ne_none a), List.getLast?_cons_cons]
  obtain ⟨hok', hl⟩ := hok.handOut hend
  unfold CXMemoryCache.takeObject at ht
  rw [← hok.linked.head?_eq] at ht
  cases ht
  exact ⟨rfl, hok', hl⟩

/-- What `GetObject` does under the lock: nothing, when there is no object and no block to be had, or it hands
out an object that was not live. -/
theorem takeObject (hok : CacheOk z h w c live free) (hfit : z.Fits) (hin : c.bInited = true)
    (hroom : free = [] → (c.lstBlocks.length + 1) * z.iObjectNumInMB < 2 ^ 32)
    (ht : CXMemoryCache.takeObject z w bNew h c = (h', c', r)) :
    (r = none ∧ h' = h ∧ c' = c ∧ free = []) ∨
      ∃ o free', r = some o ∧ CacheOk z h' w c' (o :: live) free' ∧ Local h h' c c' live := by
  cases free with
  | cons o free => exact Or.inr ⟨o, free, hok.takeHead ht⟩
  | nil =>
    unfold CXMemoryCache.takeObject at ht
    rw [← hok.linked.head?_eq] at ht
    cases ha : CXMemoryCache.allocateMemoryBlock z w bNew h c with
    | none =>
      simp only [List.head?_nil, ha] at ht
      cases ht
      exact Or.inl ⟨rfl, rfl, rfl, rfl⟩
    | some q =>
      obtain ⟨h₁, c₁⟩ := q
      obtain ⟨hok₁, hl₁⟩ := hok.allocate hfit (hroom rfl) ha
      have hin₁ : { c₁ with bInited := true } = c₁ := by
        unfold CXMemoryCache.allocateMemoryBlock at ha
        split at ha
        · cases ha
        · cases ha
          rw [← hin]
      rw [hin₁] at hok₁
      obtain ⟨o, a, rest, hobjs⟩ := CacheSizes.objs_eq_cons (z := z) (b := h.fresh)
      rw [hobjs] at hok₁
      simp only [List.head?_nil, ha] at ht
      rw [← hok₁.linked.head?_eq] at ht
      have hend : c₁.pEmptyObjectListEnd = (a :: rest).getLast? := by
        rw [hok₁.last, List.getLast?_cons_cons]
      obtain ⟨hok', hl'⟩ := hok₁.handOut hend
      cases ht
      exact Or.inr ⟨o, a :: rest, rfl, hok', hl₁.trans hl'⟩

theorem getObject (hok : CacheOk z h w c live free) (hfit : z.Fits)
    (hroom : free = [] → (c.lstBlocks.length + 1) * z.iObjectNumInMB < 2 ^ 32)
    (hg : CXMemoryCache.getObject z w bNew h c = (h', c', r)) :
    (r = none ∧ h' = h ∧ c' = c ∧ free = []) ∨
      ∃ o free', r = some o ∧ CacheOk z h' w c' (o :: live) free' ∧ Local h h' c c' live := by
  unfold CXMemoryCache.getObject at hg
  cases hin : c.bInited with
  | true =>
    rw [if_pos hin] at hg
    exact hok.takeObject hfit hin hroom hg
  | false =>
    have hnil : free = [] := by
      by_contra hne
      obtain ⟨o, ho⟩ := List.exists_mem_of_ne_nil _ hne
      rw [hok.inited_of_mem (Or.inl ho)] at hin
      cases hin
    subst hnil
    rw [if_neg (by rw [hin]; exact Bool.false_ne_true)] at hg
    split at hg
    case isTrue =>
      cases hinit : CXMemoryCache.realInitialize z w bNew h c with
      | none =>
        rw [hinit] at hg
        cases hg
        exact Or.inl ⟨rfl, rfl, rfl, rfl⟩
      | some q =>
        rw [hinit] at hg
        obtain ⟨h₁, c₁⟩ := q
        obtain ⟨hok₁, hl₁, -⟩ := hok.realInitialize hfit (hroom rfl) hin hinit
        obtain ⟨o, a, rest, hobjs⟩ := CacheSizes.objs_eq_cons (z := z) (b := h.fresh)
        rw [hobjs] at hok₁
        obtain ⟨hr, hok', hl⟩ := hok₁.takeHead hg
        exact Or.inr ⟨o, a :: rest, hr, hok', hl₁.trans hl⟩
    case isFalse =>
      cases hg
      exact Or.inl ⟨rfl, rfl, rfl, rfl⟩

theorem setNext (hok : CacheOk z h w c live free) (ho : o ∈ live) : CacheOk z (h.setNext o none) w c live free ∧
    Local h (h.setNext o none) c c (live.erase o) := by
  have hnot : o ∉ free := fun hm => List.disjoint_of_nodup_append hok.nodup_objs hm ho
  have hblock := hok.block_mem (Or.inr ho)
  refine ⟨⟨hok.sizes, hok.linked.update_of_notMem hnot none, hok.last, hok.perm, hok.nodup, hok.old, hok.size,
    hok.this, hok.number, hok.total, hok.uses, hok.room, hok.inited⟩,
    ⟨le_rfl, fun _ _ _ => rfl, fun p _ hp => ⟨?_, rfl⟩, fun _ hb => Or.inl hb, fun p hp => ?_⟩⟩
  · refine Function.update_of_ne (fun heq => hp ?_) ..
    rwa [heq]
  · refine Function.update_of_ne (fun heq => ?_) ..
    rw [heq] at hp
    exact hok.nodup_objs.of_append_right.not_mem_erase hp

theorem putObject (hok : CacheOk z h w c live free) (ho : o ∈ live) (hnext : h.pNext o = none)
    (hp : CXMemoryCache.putObject o h c = (h', c')) :
    CacheOk z h' w c' (live.erase o) (free ++ [o]) ∧ Local h h' c c' (live.erase o) ∧
      c'.lstBlocks = c.lstBlocks := by
  have hnot : o ∉ free := fun hm => List.disjoint_of_nodup_append hok.nodup_objs hm ho
  have hlen := hok.length
  have hroom := hok.room
  have hpos : 0 < live.length := List.length_pos_of_mem ho
  have hperm : (free ++ [o] ++ live.erase o).Perm (c.lstBlocks.flatMap z.objs) := by
    rw [List.append_assoc]
    exact ((List.perm_cons_erase ho).symm.append_left free).trans hok.perm
  have huses : (c.dwNumberOfUsingNodes + 2 ^ 32 - 1) % 2 ^ 32 = (live.erase o).length := by
    rw [hok.uses, List.length_erase_of_mem ho]
    omega
  unfold CXMemoryCache.putObject at hp
  rw [hok.last] at hp
  rcases List.eq_nil_or_concat free with rfl | ⟨l, e, rfl⟩
  · rw [List.getLast?_nil] at hp
    cases hp
    exact ⟨⟨hok.sizes, ⟨rfl, hnext⟩, rfl, hperm, hok.nodup, hok.old, hok.size, hok.this,
      hok.number, hok.total, huses, hok.room, hok.inited⟩,
      ⟨le_rfl, fun _ _ _ => rfl, fun _ _ _ => ⟨rfl, rfl⟩, fun _ hb => Or.inl hb, fun _ _ => rfl⟩, rfl⟩
  · rw [List.concat_eq_append] at hnot hperm hp hok ⊢
    rw [List.getLast?_concat] at hp
    cases hp
    have he : e ∈ l ++ [e] := List.mem_append_right l (List.mem_singleton_self e)
    have hblock := hok.block_mem (Or.inl he)
    refine ⟨⟨hok.sizes, ?_, ?_, hperm, hok.nodup, hok.old, hok.size, hok.this,
      hok.number, hok.total, huses, hok.room, hok.inited⟩,
      ⟨le_rfl, fun _ _ _ => rfl, fun p _ hp => ⟨?_, rfl⟩, fun _ hb => Or.inl hb, fun p hp => ?_⟩, rfl⟩
    · rw [List.append_assoc]
      exact hok.linked.relink hnot hnext
    · rw [List.getLast?_concat]
    · refine Function.update_of_ne (fun heq => hp ?_) ..
      rwa [heq]
    · refine Function.update_of_ne (fun heq => ?_) ..
      rw [heq] at hp
      exact List.disjoint_of_nodup_append hok.nodup_objs he (List.mem_of_mem_erase hp)

theorem freeObject (hok : CacheOk z h w c live free) (ho : o ∈ live)
    (hf : CXMemoryCache.freeObject o h c = (h', c')) :
    CacheOk z h' w c' (live.erase o) (free ++ [o]) ∧ Local h h' c c' (live.erase o) ∧
      c'.lstBlocks = c.lstBlocks := by
  unfold CXMemoryCache.freeObject at hf
  rw [if_pos (hok.inited_of_mem (Or.inr ho))] at hf
  obtain ⟨hok₁, hl₁⟩ := hok.setNext ho
  obtain ⟨hok', hl, hblocks⟩ := hok₁.putObject ho (Function.update_self ..) hf
  exact ⟨hok', hl₁.trans hl, hblocks⟩

theorem destroy (hok : CacheOk z h w c [] free) (hd : CXMemoryCache.destroy h c = (h', c')) :
    (∃ free', CacheOk z h' w c' [] free') ∧ Local h h' c c' [] ∧ c'.lstBlocks = [] := by
  unfold CXMemoryCache.destroy at hd
  split at hd
  case isTrue =>
    cases hd
    refine ⟨⟨[], construct⟩, ⟨le_rfl, fun b _ hb => if_neg hb, fun _ _ _ => ⟨rfl, rfl⟩, fun b hb => ?_,
      fun _ _ => rfl⟩, rfl⟩
    cases hb
  case isFalse hin =>
    cases hd
    exact ⟨⟨free, hok⟩, Local.refl, hok.inited (Bool.eq_false_iff.mpr hin)⟩

end CacheOk

/-! ### Both inner caches -/

namespace CacheName

variable {i j : CacheName}

@[simp] theorem other_other : i.other.other = i := by cases i <;> rfl

theorem other_ne : i.other ≠ i := by cases i <;> exact CacheName.noConfusion

theorem eq_or_eq_other : j = i ∨ j = i.other := by
  cases i <;> cases j <;> first | exact Or.inl rfl | exact Or.inr rfl

end CacheName

theorem mem_live_iff {lives : CacheName → List CacheObj}
    (hperm : live.Perm (lives .firstObj ++ lives .secondObj)) :
    o ∈ live ↔ ∃ i, o ∈ lives i := by
  rw [hperm.mem_iff, List.mem_append]
  constructor
  · rintro (ho | ho)
    · exact ⟨_, ho⟩
    · exact ⟨_, ho⟩
  · rintro ⟨i, ho⟩
    cases i with
    | firstObj => exact Or.inl ho
    | secondObj => exact Or.inr ho

/-- Both are right, and they share no block; `lives i` are the live objects of cache `i`. -/
structure ElasticOk (z : CacheSizes) (e : CXElasticMemoryCache) (lives : CacheName → List CacheObj) : Prop where
  ok : ∀ i, ∃ free, CacheOk z e.heap i (e.obj i) (lives i) free
  apart : ∀ i, ∀ b ∈ (e.obj i).lstBlocks, b ∉ (e.obj i.other).lstBlocks

namespace ElasticOk

variable {e e' : CXElasticMemoryCache} {lives : CacheName → List CacheObj} {i : CacheName}

theorem set (he : ElasticOk z e lives) (hok : CacheOk z h' i c' live free)
    (hl : Local e.heap h' (e.obj i) c' keep) :
    ElasticOk z (e.set i h' c') (Function.update lives i live) := by
  have hobj : (e.set i h' c').obj i = c' := Function.update_self ..
  have hother : (e.set i h' c').obj i.other = e.obj i.other := Function.update_of_ne CacheName.other_ne ..
  have hnew : ∀ b ∈ c'.lstBlocks, b ∉ (e.obj i.other).lstBlocks := by
    intro b hb hb'
    rcases hl.blocks b hb with hb | hge
    · exact he.apart i b hb hb'
    · obtain ⟨free', hok'⟩ := he.ok i.other
      exact Nat.lt_irrefl _ ((hok'.old b hb').trans_le hge)
  constructor
  · intro j
    rcases CacheName.eq_or_eq_other (i := i) (j := j) with rfl | rfl
    · rw [hobj, Function.update_self]
      exact ⟨free, hok⟩
    · obtain ⟨free', hok'⟩ := he.ok i.other
      rw [hother, Function.update_of_ne CacheName.other_ne]
      refine ⟨free', hok'.of_local hl fun b hb => ?_⟩
      have := he.apart i.other b hb
      rwa [CacheName.other_other] at this
  · intro j b hb
    rcases CacheName.eq_or_eq_other (i := i) (j := j) with rfl | rfl
    · rw [hother]
      rw [hobj] at hb
      exact hnew b hb
    · rw [CacheName.other_other, hobj]
      rw [hother] at hb
      exact fun hb' => hnew b hb' hb

theorem of_obj (he : ElasticOk z e lives) (hheap : e'.heap = e.heap) (hobj : e'.obj = e.obj) :
    ElasticOk z e' lives := by
  constructor
  · rw [hheap, hobj]
    exact he.ok
  · rw [hobj]
    exact he.apart

theorem lives_eq_nil (he : ElasticOk z e lives) : lives i = [] ↔ (e.obj i).dwNumberOfUsingNodes = 0 := by
  obtain ⟨free, hok⟩ := he.ok i
  rw [hok.uses, List.length_eq_zero_iff]

theorem nodup (he : ElasticOk z e lives) : (lives .firstObj ++ lives .secondObj).Nodup := by
  obtain ⟨free, hok⟩ := he.ok .firstObj
  obtain ⟨free', hok'⟩ := he.ok .secondObj
  refine List.nodup_append'.mpr ⟨hok.nodup_objs.of_append_right, hok'.nodup_objs.of_append_right, ?_⟩
  intro o ho ho'
  exact he.apart .firstObj _ (hok.block_mem (Or.inr ho)) (hok'.block_mem (Or.inr ho'))

theorem mem_lives (he : ElasticOk z e lives) (hperm : live.Perm (lives .firstObj ++ lives .secondObj)) :
    o ∈ lives i ↔ o ∈ live ∧ o.block ∈ (e.obj i).lstBlocks := by
  obtain ⟨free, hok⟩ := he.ok i
  constructor
  · exact fun ho => ⟨(mem_live_iff hperm).mpr ⟨i, ho⟩, hok.block_mem (Or.inr ho)⟩
  · rintro ⟨ho, hb⟩
    obtain ⟨j, ho⟩ := (mem_live_iff hperm).mp ho
    rcases CacheName.eq_or_eq_other (i := i) (j := j) with rfl | rfl
    · exact ho
    · obtain ⟨free', hok'⟩ := he.ok i.other
      exact absurd (hok'.block_mem (Or.inr ho)) (he.apart i _ hb)

theorem uses_eq (he : ElasticOk z e lives) (hperm : live.Perm (lives .firstObj ++ lives .secondObj)) :
    (e.obj i).dwNumberOfUsingNodes = (live.filter fun o => o.block ∈ (e.obj i).lstBlocks).length := by
  obtain ⟨free, hok⟩ := he.ok i
  rw [hok.uses]
  refine List.Perm.length_eq ((List.perm_ext_iff_of_nodup hok.nodup_objs.of_append_right
    ((hperm.nodup_iff.mpr he.nodup).filter _)).mpr fun o => ?_)
  rw [he.mem_lives hperm, List.mem_filter, decide_eq_true_eq]

end ElasticOk

namespace CXElasticMemoryCache

variable {e e' : CXElasticMemoryCache} {lives : CacheName → List CacheObj} {i : CacheName}

/-- `CompactMemory` does nothing, swaps the two, or destroys the one swapped out. -/
theorem compactMemory_cases (hs : e.compactMemory = some e') :
    (e' = e ∧ ¬ e.drained ∧ (e.isSwapping = false → 3 ≤ e.cur.nMemoryBlocksNumber →
      e.bak.dwNumberOfUsingNodes = 0 → e.cur.dwNumberOfTotalNodes / e.cur.dwNumberOfUsingNodes < 3)) ∨
    (e' = { e with pCacheObj := e.pCacheObj.other, isSwapping := true } ∧ e.isSwapping = false ∧
      e.cur.dwNumberOfUsingNodes ≠ 0) ∨
    (e' = e.destroyBak ∧ e.drained) := by
  obtain ⟨e₁, hswap, rfl⟩ := Option.map_eq_some_iff.mp hs
  unfold swap at hswap
  split at hswap
  case isTrue hif =>
    have hsw : e.isSwapping = false := by simpa using hif.1
    have hnot : ¬ e.drained := fun hd => by rw [drained, hsw] at hd; exact Bool.false_ne_true hd.1
    split at hswap
    case isTrue => cases hswap
    case isFalse huse =>
      split at hswap
      case isTrue =>
        cases hswap
        rw [if_neg]
        · exact Or.inr (Or.inl ⟨rfl, hsw, huse⟩)
        · intro hd
          refine huse ?_
          have := hd.2
          simpa only [bak, cur, CacheName.other_other] using this
      case isFalse hlt =>
        cases hswap
        rw [if_neg hnot]
        exact Or.inl ⟨rfl, hnot, fun _ _ _ => not_le.mp hlt⟩
  case isFalse hif =>
    cases hswap
    by_cases hd : e.drained
    · rw [if_pos hd]
      exact Or.inr (Or.inr ⟨rfl, hd⟩)
    · rw [if_neg hd]
      exact Or.inl ⟨rfl, hd, fun h1 h2 h3 => absurd ⟨by simpa using h1, h2, h3⟩ hif⟩

theorem swap_same (hs : e.swap = some e') : e'.heap = e.heap ∧ e'.obj = e.obj := by
  unfold swap at hs
  split at hs
  · split at hs
    · cases hs
    · split at hs <;> cases hs <;> exact ⟨rfl, rfl⟩
  · cases hs
    exact ⟨rfl, rfl⟩

theorem cur_destroyBak : e.destroyBak.cur = e.cur := Function.update_of_ne CacheName.other_ne.symm ..

theorem bak_destroyBak : e.destroyBak.bak = (CXMemoryCache.destroy e.heap e.bak).2 := Function.update_self ..

theorem ok_destroyBak (he : ElasticOk z e lives) (hd : e.drained) :
    ElasticOk z e.destroyBak lives ∧ e.destroyBak.bak.lstBlocks = [] := by
  have hnil : lives e.pCacheObj.other = [] := he.lives_eq_nil.mpr hd.2
  obtain ⟨free, hok⟩ := he.ok e.pCacheObj.other
  rw [hnil] at hok
  obtain ⟨⟨free', hok'⟩, hl, hblocks⟩ := hok.destroy rfl
  have hset := he.set hok' hl
  rw [show Function.update lives e.pCacheObj.other [] = lives by rw [← hnil, Function.update_eq_self]] at hset
  refine ⟨hset.of_obj rfl rfl, ?_⟩
  rw [bak_destroyBak]
  exact hblocks

theorem ok_compactMemory (he : ElasticOk z e lives) (hs : e.compactMemory = some e') : ElasticOk z e' lives := by
  rcases compactMemory_cases hs with ⟨rfl, -⟩ | ⟨rfl, -⟩ | ⟨rfl, hd⟩
  · exact he
  · exact he.of_obj rfl rfl
  · exact (ok_destroyBak he hd).1

/-- The cache that is not in use has no blocks, unless it has just been swapped out. -/
def Idle (e : CXElasticMemoryCache) : Prop := e.isSwapping = false → e.bak.lstBlocks = []

theorem Idle.compactMemory (hi : e.Idle) (he : ElasticOk z e lives) (hs : e.compactMemory = some e') :
    e'.Idle := by
  rcases compactMemory_cases hs with ⟨rfl, -⟩ | ⟨rfl, -⟩ | ⟨rfl, hd⟩
  · exact hi
  · intro hsw
    cases hsw
  · exact fun _ => (ok_destroyBak he hd).2

/-- The cache in use afterwards was in use before, or it has no blocks. -/
theorem Idle.cur_compactMemory (hi : e.Idle) (hs : e.compactMemory = some e') :
    e'.cur = e.cur ∨ e'.cur.lstBlocks = [] := by
  rcases compactMemory_cases hs with ⟨rfl, -⟩ | ⟨rfl, hsw, -⟩ | ⟨rfl, -⟩
  · exact Or.inl rfl
  · exact Or.inr (hi hsw)
  · exact Or.inl cur_destroyBak

/-- The cache in use has a live object when it has three blocks or more. -/
def Grown (e : CXElasticMemoryCache) : Prop := 3 ≤ e.cur.nMemoryBlocksNumber → e.cur.dwNumberOfUsingNodes ≠ 0

theorem Grown.compactMemory_defined (h : e.isSwapping = false → e.Grown) : e.compactMemory ≠ none := by
  intro hnone
  rw [compactMemory, Option.map_eq_none_iff] at hnone
  unfold swap at hnone
  split at hnone
  case isTrue hif =>
    rw [if_neg (h (by simpa using hif.1) hif.2.1)] at hnone
    split at hnone <;> cases hnone
  case isFalse => cases hnone

end CXElasticMemoryCache

/-! ### Runs -/

namespace CacheRun

variable {r r' : CacheRun} {lives : CacheName → List CacheObj} {i : CacheName} {a : Act} {bInitAtOnce : Bool}

/-- The live objects in the blocks of an inner cache. -/
def liveOf (r : CacheRun) (i : CacheName) : List CacheObj :=
  r.live.filter fun o => o.block ∈ (r.cache.obj i).lstBlocks

/-- No object is handed out twice, the live objects lie apart from each other inside blocks that are there, the
counters are right, and the objects of a cache that are not live are on its free list. -/
structure Safe (z : CacheSizes) (r : CacheRun) : Prop where
  once : r.live.Nodup
  inside : ∀ o ∈ r.live, ∃ n, r.cache.heap.blockSize o.block = some n ∧
    0 ≤ o.off ∧ o.off + 24 + z.iObjectSize ≤ n
  apart : ∀ o ∈ r.live, ∀ p ∈ r.live, o ≠ p → o.block = p.block →
    o.off + 24 + z.iObjectSize ≤ p.off + 24 ∨ p.off + 24 + z.iObjectSize ≤ o.off + 24
  owned : ∀ o ∈ r.live, ∃ i, o.block ∈ (r.cache.obj i).lstBlocks
  uses : ∀ i, (r.cache.obj i).dwNumberOfUsingNodes = (r.liveOf i).length
  total : ∀ i, (r.cache.obj i).dwNumberOfTotalNodes = (r.cache.obj i).lstBlocks.length * z.iObjectNumInMB
  free : ∀ i, ∃ free, Linked r.cache.heap.pNext (r.cache.obj i).pEmptyObjectListHead free ∧
    ∀ b ∈ (r.cache.obj i).lstBlocks, ∀ o ∈ z.objs b, o ∈ free ↔ o ∉ r.live

structure Ok (z : CacheSizes) (r : CacheRun) (lives : CacheName → List CacheObj) : Prop where
  elastic : ElasticOk z r.cache lives
  perm : r.live.Perm (lives .firstObj ++ lives .secondObj)
  idle : r.cache.Idle

/-- A new block keeps the number of objects of the cache in use below `2 ^ 32`. -/
def CountsFit (z : CacheSizes) (r : CacheRun) : Act → Prop
  | .getObject _ => r.cache.cur.pEmptyObjectListHead = none →
    (r.cache.cur.lstBlocks.length + 1) * z.iObjectNumInMB < 2 ^ 32
  | .freeObject _ => True

instance (r : CacheRun) : ∀ a, Decidable (r.CountsFit z a)
  | .getObject _ => by
    unfold CountsFit
    infer_instance
  | .freeObject _ => by
    unfold CountsFit
    infer_instance

theorem perm_cons {live : List CacheObj} (h : live.Perm (lives .firstObj ++ lives .secondObj)) :
    (o :: live).Perm (Function.update lives i (o :: lives i) .firstObj ++
      Function.update lives i (o :: lives i) .secondObj) := by
  cases i with
  | firstObj =>
    rw [Function.update_self, Function.update_of_ne CacheName.noConfusion]
    exact h.cons o
  | secondObj =>
    rw [Function.update_self, Function.update_of_ne CacheName.noConfusion]
    exact (h.cons o).trans List.perm_middle.symm

theorem perm_erase {live : List CacheObj} (h : live.Perm (lives .firstObj ++ lives .secondObj))
    (ho : o ∈ lives i) (hnd : (lives .firstObj ++ lives .secondObj).Nodup) :
    (live.erase o).Perm (Function.update lives i ((lives i).erase o) .firstObj ++
      Function.update lives i ((lives i).erase o) .secondObj) := by
  refine (h.erase o).trans ?_
  cases i with
  | firstObj =>
    rw [Function.update_self, Function.update_of_ne CacheName.noConfusion, List.erase_append_left _ ho]
  | secondObj =>
    rw [Function.update_self, Function.update_of_ne CacheName.noConfusion, List.erase_append_right]
    exact fun ho' => List.disjoint_of_nodup_append hnd ho' ho

theorem Ok.getObject (h : r.Ok z lives) (hfit : z.Fits) (hcount : r.CountsFit z (.getObject bNew))
    (hs : step z r (.getObject bNew) = some r') :
    (∃ lives', r'.Ok z lives') ∧ r'.cache.Grown := by
  obtain ⟨⟨e, p⟩, hget, rfl⟩ := Option.map_eq_some_iff.mp hs
  obtain ⟨e₁, hcompact, heq⟩ := Option.map_eq_some_iff.mp hget
  have he := CXElasticMemoryCache.ok_compactMemory h.elastic hcompact
  have hidle := h.idle.compactMemory h.elastic hcompact
  obtain ⟨free, hok⟩ := he.ok e₁.pCacheObj
  have hroom : free = [] → (e₁.cur.lstBlocks.length + 1) * z.iObjectNumInMB < 2 ^ 32 := by
    rintro rfl
    have hhead : e₁.cur.pEmptyObjectListHead = none := Linked.nil_iff.mp hok.linked
    rcases h.idle.cur_compactMemory hcompact with hcur | hnil
    · rw [hcur] at hhead ⊢
      exact hcount hhead
    · have := z.num_lt
      rw [hnil, List.length_nil]
      omega
  generalize hg : CXMemoryCache.getObject z e₁.pCacheObj bNew e₁.heap e₁.cur = q at heq
  obtain ⟨h', c', p'⟩ := q
  cases heq
  rcases hok.getObject hfit hroom hg with ⟨rfl, rfl, rfl, hnil⟩ | ⟨o, free', rfl, hok', hl⟩
  · have hset : e₁.set e₁.pCacheObj e₁.heap e₁.cur = e₁ := by
      unfold CXElasticMemoryCache.set CXElasticMemoryCache.cur
      rw [Function.update_eq_self]
    refine ⟨⟨lives, ?_⟩, ?_⟩
    · show Ok z ⟨e₁.set e₁.pCacheObj e₁.heap e₁.cur, r.live⟩ lives
      rw [hset]
      exact ⟨he, h.perm, hidle⟩
    · -- no object is free, so all objects of the blocks are live
      show (e₁.set e₁.pCacheObj e₁.heap e₁.cur).Grown
      rw [hset]
      intro hblocks
      have hlen := hok.length
      have hnum := z.num_ge
      have hmul : 3 * 2 ≤ (e₁.obj e₁.pCacheObj).lstBlocks.length * z.iObjectNumInMB :=
        Nat.mul_le_mul (hok.number ▸ hblocks) hnum
      rw [CXElasticMemoryCache.cur, hok.uses]
      rw [hnil, List.length_nil] at hlen
      omega
  · refine ⟨⟨_, he.set hok' hl, perm_cons h.perm, fun hsw => ?_⟩, fun _ => ?_⟩
    rotate_left
    · rw [show (e₁.set e₁.pCacheObj h' c').cur = c' from Function.update_self .., hok'.uses]
      exact Nat.succ_ne_zero _
    show (Function.update e₁.obj e₁.pCacheObj c' e₁.pCacheObj.other).lstBlocks = []
    rw [Function.update_of_ne CacheName.other_ne]
    exact hidle hsw

/-- The object goes back to its cache; the blocks stay as `CompactMemory` left them. -/
theorem Ok.freeObject (h : r.Ok z lives) (hs : step z r (.freeObject o) = some r') :
    ∃ e i, r.cache.compactMemory = some e ∧ o ∈ lives i ∧
      r'.Ok z (Function.update lives i ((lives i).erase o)) ∧ r'.cache.pCacheObj = e.pCacheObj ∧
      r'.cache.isSwapping = e.isSwapping ∧ ∀ j, (r'.cache.obj j).lstBlocks = (e.obj j).lstBlocks := by
  change (if o ∈ r.live then _ else none) = _ at hs
  split at hs
  case isFalse => cases hs
  case isTrue ho =>
    obtain ⟨e, hfree, rfl⟩ := Option.map_eq_some_iff.mp hs
    obtain ⟨e₁, hcompact, rfl⟩ := Option.map_eq_some_iff.mp hfree
    have he := CXElasticMemoryCache.ok_compactMemory h.elastic hcompact
    have hidle := h.idle.compactMemory h.elastic hcompact
    obtain ⟨i, hi⟩ := (mem_live_iff h.perm).mp ho
    obtain ⟨free, hok⟩ := he.ok i
    rw [hok.pThis_eq (Or.inr hi)]
    generalize hf : CXMemoryCache.freeObject o e₁.heap (e₁.obj i) = q
    obtain ⟨h', c'⟩ := q
    obtain ⟨hok', hl, hblocks⟩ := hok.freeObject hi hf
    have hsame : ∀ j, (Function.update e₁.obj i c' j).lstBlocks = (e₁.obj j).lstBlocks := by
      intro j
      rcases CacheName.eq_or_eq_other (i := i) (j := j) with rfl | rfl
      · rw [Function.update_self, hblocks]
      · rw [Function.update_of_ne CacheName.other_ne]
    exact ⟨e₁, i, hcompact, hi, ⟨he.set hok' hl, perm_erase h.perm hi h.elastic.nodup,
      fun hsw => (hsame _).trans (hidle hsw)⟩, rfl, rfl, hsame⟩

theorem ok_start (hfit : z.Fits) : ∃ lives, (start z bInitAtOnce bNew).Ok z lives := by
  have hconstruct : ElasticOk z .construct fun _ => [] :=
    ⟨fun i => ⟨[], CacheOk.construct⟩, fun i b hb => by cases hb⟩
  unfold start CXElasticMemoryCache.init
  cases bInitAtOnce with
  | false => exact ⟨fun _ => [], hconstruct, List.Perm.refl _, fun _ => rfl⟩
  | true =>
    rw [if_pos rfl]
    split
    case h_1 => exact ⟨fun _ => [], hconstruct, List.Perm.refl _, fun _ => rfl⟩
    case h_2 h' c' hinit =>
      have hroom : (CXMemoryCache.construct.lstBlocks.length + 1) * z.iObjectNumInMB < 2 ^ 32 := by
        have := z.num_lt
        rw [show CXMemoryCache.construct.lstBlocks.length = 0 from rfl]
        omega
      obtain ⟨hok, hl, -⟩ := CacheOk.construct.realInitialize (w := .firstObj) hfit hroom rfl hinit
      have hset := hconstruct.set hok hl
      rw [Function.update_eq_self] at hset
      exact ⟨fun _ => [], hset, List.Perm.refl _, fun _ => rfl⟩

theorem Ok.place (h : r.Ok z lives) (ho : o ∈ r.live) : z.Exact ∧
    (∃ n < z.iObjectNumInMB, o.off = z.structSize * n) ∧
    r.cache.heap.blockSize o.block = some (z.structSize * z.iObjectNumInMB) ∧
    ∃ i, o.block ∈ (r.cache.obj i).lstBlocks := by
  obtain ⟨i, hi⟩ := (mem_live_iff h.perm).mp ho
  obtain ⟨free, hok⟩ := h.elastic.ok i
  obtain ⟨b, hb, hobj⟩ := hok.mem_objs (Or.inr hi)
  obtain ⟨n, hn, heq⟩ := CacheSizes.mem_objs.mp hobj
  have hz := hok.sizes (List.ne_nil_of_mem hb)
  have hoff : o.off = z.structSize * n := by
    rw [heq, ← hz.offset_eq hn.le]
  rw [← CacheSizes.block_of_mem_objs hobj] at hb
  exact ⟨hz, ⟨n, hn, hoff⟩, hok.size _ hb, i, hb⟩

theorem Ok.safe (h : r.Ok z lives) : r.Safe z := by
  have hsize : ∀ {m n : Nat}, m < n → z.structSize * m + z.structSize ≤ z.structSize * n := fun hmn => by
    rw [← Nat.mul_succ]
    exact Nat.mul_le_mul_left _ hmn
  refine ⟨h.perm.nodup_iff.mpr h.elastic.nodup, fun o ho => ?_, fun o ho p hp hne hb => ?_,
    fun o ho => (h.place ho).2.2.2, fun i => h.elastic.uses_eq h.perm, fun i => ?_, fun i => ?_⟩
  · obtain ⟨hz, ⟨n, hn, hoff⟩, hblock, -⟩ := h.place ho
    have := hsize hn
    refine ⟨_, hblock, ?_⟩
    rw [hoff]
    unfold CacheSizes.structSize at *
    push_cast
    constructor
    · positivity
    · have : ((24 + z.iObjectSize) * n + (24 + z.iObjectSize) : Int) ≤ (24 + z.iObjectSize) * z.iObjectNumInMB := by
        exact_mod_cast this
      omega
  · obtain ⟨-, ⟨m, -, hm⟩, -⟩ := h.place ho
    obtain ⟨-, ⟨n, -, hn⟩, -⟩ := h.place hp
    have hmn : m ≠ n := by
      rintro rfl
      refine hne ?_
      obtain ⟨b, off⟩ := o
      obtain ⟨b', off'⟩ := p
      simp only at hb hm hn
      rw [hb, hm, hn]
    have hsum : ∀ k : Nat, ((z.structSize * k + z.structSize : Nat) : Int) =
        (z.structSize * k : Int) + 24 + z.iObjectSize := by
      intro k
      unfold CacheSizes.structSize
      push_cast
      ring
    rw [hm, hn]
    rcases Nat.lt_or_gt_of_ne hmn with hlt | hlt
    · left
      rw [← hsum m]
      have : ((z.structSize * m + z.structSize : Nat) : Int) ≤ (z.structSize * n : Nat) := by exact_mod_cast hsize hlt
      push_cast at this ⊢
      omega
    · right
      rw [← hsum n]
      have : ((z.structSize * n + z.structSize : Nat) : Int) ≤ (z.structSize * m : Nat) := by exact_mod_cast hsize hlt
      push_cast at this ⊢
      omega
  · obtain ⟨free, hok⟩ := h.elastic.ok i
    exact hok.total
  · obtain ⟨free, hok⟩ := h.elastic.ok i
    refine ⟨free, hok.linked, fun b hb o ho => ?_⟩
    have hmem : o ∈ free ++ lives i := hok.perm.mem_iff.mpr (List.mem_flatMap.mpr ⟨b, hb, ho⟩)
    constructor
    · intro hfree hlive
      have hblock := hok.block_mem (Or.inl hfree)
      exact List.disjoint_of_nodup_append hok.nodup_objs hfree ((h.elastic.mem_lives h.perm).mpr ⟨hlive, hblock⟩)
    · intro hnot
      rcases List.mem_append.mp hmem with hfree | hlive
      · exact hfree
      · exact absurd ((h.elastic.mem_lives h.perm).mp hlive).1 hnot

theorem Ok.step (h : r.Ok z lives) (hfit : z.Fits) (hcount : r.CountsFit z a) (hs : step z r a = some r') :
    ∃ lives', r'.Ok z lives' := by
  cases a with
  | getObject bNew => exact (h.getObject hfit hcount hs).1
  | freeObject o =>
    obtain ⟨e, i, -, -, hok, -⟩ := h.freeObject hs
    exact ⟨_, hok⟩

/-- As long as the size of a block and the counters do not overflow, every run is safe. -/
theorem safe_of_countsFit (hfit : z.Fits)
    (h : Reachable (guarded (CountsFit z) (step z)) (start z bInitAtOnce bNew) r) : r.Safe z := by
  obtain ⟨lives, hok⟩ : ∃ lives, r.Ok z lives := by
    induction h with
    | init => exact ok_start hfit
    | step a _ hs ih =>
      obtain ⟨lives, hok⟩ := ih
      obtain ⟨hcount, hs⟩ := guarded_eq_some.mp hs
      exact hok.step hfit hcount hs
  exact hok.safe

/-! ### The division -/

/-- The call destroys the drained cache and frees the last live object of one that has three blocks or more. -/
def FreesLastGrown (r : CacheRun) : Prop :=
  r.cache.drained ∧ 3 ≤ r.cache.cur.nMemoryBlocksNumber ∧ r.cache.cur.dwNumberOfUsingNodes = 1

instance (r : CacheRun) : Decidable r.FreesLastGrown := inferInstanceAs (Decidable (_ ∧ _))

def KeepsGrown (z : CacheSizes) (r : CacheRun) (a : Act) : Prop :=
  r.CountsFit z a ∧ match a with
    | .getObject _ => True
    | .freeObject _ => ¬ r.FreesLastGrown

instance (r : CacheRun) : ∀ a, Decidable (r.KeepsGrown z a)
  | .getObject _ => by
    unfold KeepsGrown
    infer_instance
  | .freeObject _ => by
    unfold KeepsGrown
    infer_instance

/-- The counters of the cache in use after an object has gone back. -/
theorem Ok.cur_freeObject {e : CXElasticMemoryCache} (h : r.Ok z lives)
    (hcompact : r.cache.compactMemory = some e)
    (ho : o ∈ lives i) (hok : r'.Ok z (Function.update lives i ((lives i).erase o)))
    (hcur : r'.cache.pCacheObj = e.pCacheObj) (hblocks : ∀ j, (r'.cache.obj j).lstBlocks = (e.obj j).lstBlocks) :
    r'.cache.cur.nMemoryBlocksNumber = e.cur.nMemoryBlocksNumber ∧
      r'.cache.cur.dwNumberOfUsingNodes =
        if i = e.pCacheObj then e.cur.dwNumberOfUsingNodes - 1 else e.cur.dwNumberOfUsingNodes := by
  obtain ⟨free, hok₁⟩ := (CXElasticMemoryCache.ok_compactMemory h.elastic hcompact).ok e.pCacheObj
  obtain ⟨free', hok'⟩ := hok.elastic.ok e.pCacheObj
  unfold CXElasticMemoryCache.cur
  rw [hcur, hok'.number, hok₁.number, hok'.uses, hok₁.uses, hblocks]
  refine ⟨rfl, ?_⟩
  split
  case isTrue heq => rw [← heq, Function.update_self, List.length_erase_of_mem ho]
  case isFalse hne => rw [Function.update_of_ne (Ne.symm hne)]

theorem Ok.eq_cur_of_drained (h : r.Ok z lives) (hd : r.cache.drained) (ho : o ∈ lives i) :
    i = r.cache.pCacheObj := by
  have hnil : lives r.cache.pCacheObj.other = [] := h.elastic.lives_eq_nil.mpr hd.2
  rcases CacheName.eq_or_eq_other (i := r.cache.pCacheObj) (j := i) with hi | hi
  · exact hi
  · rw [hi, hnil] at ho
    cases ho

theorem Ok.grown_freeObject (h : r.Ok z lives) (hg : r.cache.isSwapping = false → r.cache.Grown)
    (hkeep : ¬ r.FreesLastGrown) (hs : CacheRun.step z r (.freeObject o) = some r')
    (hsw : r'.cache.isSwapping = false) : r'.cache.Grown := by
  obtain ⟨e, i, hcompact, ho, hok, hcur, hsw', hblocks⟩ := h.freeObject hs
  obtain ⟨hnumber, huses⟩ := h.cur_freeObject hcompact ho hok hcur hblocks
  rw [hsw'] at hsw
  intro hthree
  rw [hnumber] at hthree
  rw [huses]
  have hgoal : e.cur.dwNumberOfUsingNodes ≠ 0 → e.cur.dwNumberOfUsingNodes ≠ 1 →
      (if i = e.pCacheObj then e.cur.dwNumberOfUsingNodes - 1 else e.cur.dwNumberOfUsingNodes) ≠ 0 := by
    intro h0 h1
    split <;> omega
  rcases CXElasticMemoryCache.compactMemory_cases hcompact with ⟨rfl, -, hdiv⟩ | ⟨rfl, -⟩ | ⟨rfl, hd⟩
  · -- nothing was done: the blocks are not three times what is used
    obtain ⟨free, hok₁⟩ := h.elastic.ok r.cache.pCacheObj
    obtain ⟨free', hok₂⟩ := h.elastic.ok r.cache.pCacheObj.other
    have hbak : r.cache.bak.dwNumberOfUsingNodes = 0 := by
      have hlen := hok₂.length
      have hnil : (r.cache.obj r.cache.pCacheObj.other).lstBlocks = [] := h.idle hsw
      rw [hnil, List.length_nil, Nat.zero_mul] at hlen
      rw [CXElasticMemoryCache.bak, hok₂.uses]
      omega
    have hlt := hdiv hsw hthree hbak
    have hne := hg hsw hthree
    have hnum := z.num_ge
    have htotal : 3 * 2 ≤ r.cache.cur.dwNumberOfTotalNodes := by
      rw [CXElasticMemoryCache.cur, hok₁.total]
      exact Nat.mul_le_mul (hok₁.number ▸ hthree) hnum
    rw [Nat.div_lt_iff_lt_mul (by omega)] at hlt
    exact hgoal hne (by omega)
  · cases hsw
  · -- the drained cache was destroyed: the object is one of the cache in use
    rw [CXElasticMemoryCache.cur_destroyBak] at hthree hgoal ⊢
    obtain ⟨free, hok₁⟩ := h.elastic.ok r.cache.pCacheObj
    have hpos : r.cache.cur.dwNumberOfUsingNodes ≠ 0 := by
      rw [CXElasticMemoryCache.cur, hok₁.uses]
      rw [h.eq_cur_of_drained hd ho] at ho
      exact (List.length_pos_of_mem ho).ne'
    exact hgoal hpos fun h1 => hkeep ⟨hd, hthree, h1⟩

theorem start_blocks : (start z bInitAtOnce bNew).cache.cur.nMemoryBlocksNumber ≤ 1 := by
  unfold start CXElasticMemoryCache.init CXMemoryCache.realInitialize CXMemoryCache.allocateMemoryBlock
  cases bInitAtOnce with
  | false => exact Nat.zero_le 1
  | true =>
    rw [if_pos rfl]
    split
    case h_1 => exact Nat.zero_le 1
    case h_2 hinit =>
      rw [if_neg (by decide)] at hinit
      obtain ⟨q, ha, heq⟩ := Option.map_eq_some_iff.mp hinit
      cases heq
      split at ha
      · cases ha
      · cases ha
        exact le_rfl

/-- In a run that keeps the condition `CompactMemory` never divides by zero. -/
theorem compactMemory_ne_none (hfit : z.Fits)
    (h : Reachable (guarded (KeepsGrown z) (step z)) (start z bInitAtOnce bNew) r) :
    r.cache.compactMemory ≠ none := by
  obtain ⟨lives, -, hg⟩ : ∃ lives, r.Ok z lives ∧ (r.cache.isSwapping = false → r.cache.Grown) := by
    induction h with
    | init =>
      obtain ⟨lives, hok⟩ : ∃ lives, (start z bInitAtOnce bNew).Ok z lives := ok_start hfit
      exact ⟨lives, hok, fun _ hthree => absurd (hthree.trans start_blocks) (by decide)⟩
    | step a _ hs ih =>
      obtain ⟨lives, hok, hg⟩ := ih
      obtain ⟨⟨hcount, hkeep⟩, hs⟩ := guarded_eq_some.mp hs
      cases a with
      | getObject bNew =>
        obtain ⟨⟨lives', hok'⟩, hg'⟩ := hok.getObject hfit hcount hs
        exact ⟨lives', hok', fun _ => hg'⟩
      | freeObject o =>
        have hgrown := hok.grown_freeObject hg hkeep hs
        obtain ⟨e, i, -, -, hok', -⟩ := hok.freeObject hs
        exact ⟨_, hok', hgrown⟩
  exact CXElasticMemoryCache.Grown.compactMemory_defined hg

/-- The steps that the condition excludes lead to the division: the next call is undefined. -/
theorem Ok.compactMemory_eq_none (h : r.Ok z lives) (hf : r.FreesLastGrown)
    (hs : CacheRun.step z r (.freeObject o) = some r') : r'.cache.compactMemory = none := by
  obtain ⟨hd, hthree, hone⟩ := hf
  obtain ⟨e, i, hcompact, ho, hok, hcur, hsw, hblocks⟩ := h.freeObject hs
  obtain ⟨hnumber, huses⟩ := h.cur_freeObject hcompact ho hok hcur hblocks
  obtain rfl := h.eq_cur_of_drained hd ho
  rcases CXElasticMemoryCache.compactMemory_cases hcompact with ⟨rfl, hnot, -⟩ | ⟨rfl, hsw', -⟩ | ⟨rfl, -⟩
  · exact absurd hd hnot
  · rw [CXElasticMemoryCache.drained, hsw'] at hd
    exact absurd hd.1 Bool.false_ne_true
  · rw [CXElasticMemoryCache.cur_destroyBak] at hnumber huses
    rw [if_pos (show r.cache.pCacheObj = r.cache.destroyBak.pCacheObj from rfl), hone] at huses
    have hbak : r'.cache.bak.dwNumberOfUsingNodes = 0 := by
      refine hok.elastic.lives_eq_nil.mp ?_
      rw [hcur]
      show Function.update lives r.cache.pCacheObj _ r.cache.pCacheObj.other = []
      rw [Function.update_of_ne CacheName.other_ne]
      exact h.elastic.lives_eq_nil.mpr hd.2
    rw [CXElasticMemoryCache.compactMemory, Option.map_eq_none_iff]
    unfold CXElasticMemoryCache.swap
    rw [if_pos ⟨by rw [hsw]; rfl, by rw [hnumber]; exact hthree, hbak⟩, if_pos huses]

/-! ### Concrete runs -/

/-- Two objects of one byte in a block. -/
def twoBytes : CacheSizes := ⟨1, 2, by decide, by decide, by decide⟩

theorem fits_twoBytes : twoBytes.Fits := Or.inr (by decide +kernel)

/-- Five objects are taken, three come back, and the next call swaps the caches. -/
def swapRun : List Act :=
  [.getObject true, .getObject true, .getObject true, .getObject true, .getObject true,
    .freeObject ⟨2, 0⟩, .freeObject ⟨1, 25⟩, .freeObject ⟨1, 0⟩, .getObject true]

/-- Then four more are taken, four of the new ones come back, the first cache is drained, and the last object
comes back. -/
def lastGrownRun : List Act :=
  swapRun ++ [.getObject true, .getObject true, .getObject true, .getObject true,
    .freeObject ⟨3, 25⟩, .freeObject ⟨4, 0⟩, .freeObject ⟨4, 25⟩, .freeObject ⟨5, 0⟩,
    .freeObject ⟨0, 0⟩, .freeObject ⟨0, 25⟩, .freeObject ⟨3, 0⟩]

theorem divides_by_zero : ∃ r, Reachable (step twoBytes) (start twoBytes false true) r ∧
    r.cache.compactMemory = none := by
  have hrun : (runSteps (step twoBytes) (start twoBytes false true) lastGrownRun).any
      (fun r => r.cache.compactMemory.isNone) = true := by decide +kernel
  obtain ⟨r, hr, hnone⟩ := (Option.any_eq_true _ _).mp hrun
  exact ⟨r, Reachable.of_runSteps hr, Option.isNone_iff_eq_none.mp hnone⟩

theorem compactMemory_ne_none_swapped : ∃ r : CacheRun, r.cache.isSwapping = true ∧ r.live.length = 3 ∧
    r.cache.compactMemory ≠ none := by
  have hrun : (runSteps (guarded (KeepsGrown twoBytes) (step twoBytes)) (start twoBytes false true) swapRun).any
      (fun r => r.cache.isSwapping && r.live.length = 3) = true := by decide +kernel
  obtain ⟨r, hr, hsw⟩ := (Option.any_eq_true _ _).mp hrun
  rw [Bool.and_eq_true, decide_eq_true_eq] at hsw
  exact ⟨r, hsw.1, hsw.2, compactMemory_ne_none fits_twoBytes (Reachable.of_runSteps hr)⟩

theorem safe_swapped : ∃ r : CacheRun, r.cache.isSwapping = true ∧ r.live.length = 3 ∧ r.Safe twoBytes := by
  have hrun : (runSteps (guarded (CountsFit twoBytes) (step twoBytes)) (start twoBytes false true) swapRun).any
      (fun r => r.cache.isSwapping && r.live.length = 3) = true := by decide +kernel
  obtain ⟨r, hr, hsw⟩ := (Option.any_eq_true _ _).mp hrun
  rw [Bool.and_eq_true, decide_eq_true_eq] at hsw
  exact ⟨r, hsw.1, hsw.2, safe_of_countsFit fits_twoBytes (Reachable.of_runSteps hr)⟩

/-- Four objects of a gigabyte less their headers: the size of a block overflows to 0. -/
def fourGigabytes : CacheSizes := ⟨2 ^ 30 - 24, 4, by decide, by decide, by decide⟩

/-- The object handed out does not fit into its block of no bytes. -/
theorem not_safe_fourGigabytes : ∃ r, Reachable (step fourGigabytes) (start fourGigabytes false true) r ∧
    ¬ r.Safe fourGigabytes := by
  have hrun : (runSteps (step fourGigabytes) (start fourGigabytes false true) [.getObject true]).any
      (fun r => r.live = [⟨0, 0⟩] ∧ r.cache.heap.blockSize 0 = some 0) = true := by decide +kernel
  obtain ⟨r, hr, hlive⟩ := (Option.any_eq_true _ _).mp hrun
  obtain ⟨hlive, hsize⟩ := of_decide_eq_true hlive
  refine ⟨r, Reachable.of_runSteps hr, fun hsafe => ?_⟩
  obtain ⟨n, hn, -, hle⟩ := hsafe.inside ⟨0, 0⟩ (by rw [hlive]; exact List.mem_singleton_self _)
  rw [hsize] at hn
  cases hn
  have : (0 : Int) + 24 + fourGigabytes.iObjectSize ≤ 0 := hle
  omega

end CacheRun

end KonsanNet
