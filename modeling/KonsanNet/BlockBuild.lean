import KonsanNet.MemoryCacheInv
import KonsanNet.QueueNodes

/-!
# A block for any sizes (`CXMemoryCache::AllocateMemoryBlock`, `CXQueueData::AllocateMemoryBlock`)

`Initialize` and `Init` take any size and any count. The size of a block is an `int` product, which `new` refuses
when it is negative; a product that overflows to another one gives a block that is too small. The loop of the cache
builds one node for a count of 0, and the loop of the queue two for a count of 0 or 1. Here each store is checked
against the block, as in `QueueData`, and `right_iff` says for which sizes the nodes are as many as they should be,
in the block, apart and linked.
-/

namespace KonsanNet

namespace BlockBuild

theorem bmod_of_range {x : Int} (hlo : -2147483648 ≤ x) (hhi : x < 2147483648) : Int.bmod x (2 ^ 32) = x :=
  Int.bmod_eq_of_le (by norm_num; omega) (by norm_num; omega)

theorem bmod_range (x : Int) : -2147483648 ≤ Int.bmod x (2 ^ 32) ∧ Int.bmod x (2 ^ 32) < 2147483648 := by
  rw [Int.bmod_def]
  norm_num
  split_ifs <;> omega

/-- An `int` is negative when the upper half of the residues is met. -/
theorem bmod_neg_iff (x : Int) : Int.bmod x (2 ^ 32) < 0 ↔ 2 ^ 31 ≤ x % 2 ^ 32 := by
  rw [Int.bmod_def]
  norm_num
  split_ifs <;> omega

/-! ### The cache -/

section Cache

-- the arguments of `Initialize`
variable (iObjectSize iObjectNumInMB : Int32)

/-- `sizeof(cx_cache_obj) + m_iObjectSize` -/
def iObjectStructSize : Int := Int.bmod (24 + iObjectSize.toInt) (2 ^ 32)

def iBufferSize : Int := Int.bmod (iObjectStructSize iObjectSize * iObjectNumInMB.toInt) (2 ^ 32)

/-- `iObjectStructSize * i` -/
def offset (i : Nat) : Int := Int.bmod (iObjectStructSize iObjectSize * i) (2 ^ 32)

/-- The rounds of `while (++i < m_iObjectNumInMB)`. -/
def rounds : Nat := (iObjectNumInMB.toInt - 1).toNat

/-- The header at `p` lies in a block of `size` bytes. -/
def HeaderInside (size : Int) (p : CacheObj) : Prop := 0 ≤ p.off ∧ p.off + 24 ≤ size

instance (size : Int) (p : CacheObj) : Decidable (HeaderInside size p) := inferInstanceAs (Decidable (_ ∧ _))

/-- The loop as in `linkObjects`; `none` when a header is outside the block. -/
def linkInside (size : Int) (offset : Nat → Int) (me : CacheName) (b : Nat) :
    (left i : Nat) → (pObjectList : CacheObj) → CacheHeap → Option (CacheHeap × CacheObj)
  | 0, _, pObjectList, h =>
    if HeaderInside size pObjectList then some ((h.setThis pObjectList me).setNext pObjectList none, pObjectList)
    else none
  | left + 1, i, pObjectList, h =>
    if HeaderInside size pObjectList then
      linkInside size offset me b left (i + 1) ⟨b, offset i⟩
        ((h.setThis pObjectList me).setNext pObjectList (some ⟨b, offset i⟩))
    else none

/-- `AllocateMemoryBlock` of a cache, with its result; `bNew` tells whether the system has the memory. -/
def allocateCacheBlock (me : CacheName) (bNew : Bool) (h : CacheHeap) (c : CXMemoryCache) :
    Option (CacheHeap × CXMemoryCache × Int) :=
  let size := iBufferSize iObjectSize iObjectNumInMB
  if !bNew ∨ size < 0 then some (h, c, -1)
  else
    let b := h.fresh
    (linkInside size (offset iObjectSize) me b (rounds iObjectNumInMB) 1 ⟨b, 0⟩
      { h with fresh := b + 1, blockSize := Function.update h.blockSize b (some size.toNat) }).map fun linked =>
        (linked.1,
          { c with
            lstBlocks := c.lstBlocks ++ [b]
            nMemoryBlocksNumber := (c.nMemoryBlocksNumber + 1) % 2 ^ 32
            dwNumberOfTotalNodes := ((c.dwNumberOfTotalNodes + iObjectNumInMB.toInt) % 2 ^ 32).toNat
            pEmptyObjectListHead := some ⟨b, 0⟩
            pEmptyObjectListEnd := some linked.2 }, 0)

/-- The nodes that the loop builds in the block `b`. -/
def cacheNodes (b : Nat) : List CacheObj := CacheHeap.cells (offset iObjectSize) b 0 (rounds iObjectNumInMB)

/-- The bytes of a node: the header and the object. -/
def nodeLen : Int := 24 + max 0 iObjectSize.toInt

/-- As many nodes as there should be, in the block, apart, and linked to the free list that ends with the last. -/
structure CacheBuilt (h : CacheHeap) (c : CXMemoryCache) (h' : CacheHeap) (c' : CXMemoryCache) : Prop where
  count : ((cacheNodes iObjectSize iObjectNumInMB h.fresh).length : Int) = iObjectNumInMB.toInt
  block : ∃ size, h'.blockSize h.fresh = some size ∧
    ∀ p ∈ cacheNodes iObjectSize iObjectNumInMB h.fresh, 0 ≤ p.off ∧ p.off + nodeLen iObjectSize ≤ size
  apart : (cacheNodes iObjectSize iObjectNumInMB h.fresh).Pairwise fun p q =>
    p.off + nodeLen iObjectSize ≤ q.off ∨ q.off + nodeLen iObjectSize ≤ p.off
  linked : Linked h'.pNext c'.pEmptyObjectListHead (cacheNodes iObjectSize iObjectNumInMB h.fresh)
  last : c'.pEmptyObjectListEnd = (cacheNodes iObjectSize iObjectNumInMB h.fresh).getLast?
  total : (c'.dwNumberOfTotalNodes : Int) = c.dwNumberOfTotalNodes + iObjectNumInMB.toInt

/-- The call fails and changes nothing, or builds the block. -/
def CacheRight (me : CacheName) (bNew : Bool) (h : CacheHeap) (c : CXMemoryCache) : Prop :=
  ∃ h' c' ret, allocateCacheBlock iObjectSize iObjectNumInMB me bNew h c = some (h', c', ret) ∧
    (ret = -1 ∧ h' = h ∧ c' = c ∨ ret = 0 ∧ CacheBuilt iObjectSize iObjectNumInMB h c h' c')

end Cache

section CacheLemmas

variable {size : Int} {f : Nat → Int} {me : CacheName} {b : Nat} {h : CacheHeap}

theorem mem_cells {f : Nat → Int} {b i n : Nat} {o : CacheObj} :
    o ∈ CacheHeap.cells f b i n ↔ ∃ k, i ≤ k ∧ k ≤ i + n ∧ o = ⟨b, f k⟩ := by
  simp only [CacheHeap.cells, List.mem_map, List.mem_range'_1, Nat.lt_succ_iff, and_assoc, ← Nat.add_assoc]
  exact exists_congr fun k => and_congr_right fun _ => and_congr_right fun _ => eq_comm

/-- The checked loop is the loop, where all headers are in the block. -/
theorem linkInside_eq_some_iff : ∀ {n i : Nat} {h : CacheHeap} {r : CacheHeap × CacheObj},
    linkInside size f me b n (i + 1) ⟨b, f i⟩ h = some r ↔
      (∀ o ∈ CacheHeap.cells f b i n, HeaderInside size o) ∧ r = CacheHeap.linkObjects f me b n (i + 1) ⟨b, f i⟩ h
  | 0, i, h, r => by
    rw [CacheHeap.cells_zero, List.forall_mem_singleton]
    unfold linkInside
    by_cases hin : HeaderInside size ⟨b, f i⟩
    · rw [if_pos hin, Option.some_inj, and_iff_right hin, eq_comm]
      rfl
    · rw [if_neg hin]
      exact iff_of_false nofun fun hc => hin hc.1
  | n + 1, i, h, r => by
    rw [CacheHeap.cells_succ, List.forall_mem_cons]
    unfold linkInside
    by_cases hin : HeaderInside size ⟨b, f i⟩
    · rw [if_pos hin, linkInside_eq_some_iff (n := n) (i := i + 1), and_assoc, and_iff_right hin]
      rfl
    · rw [if_neg hin]
      exact iff_of_false nofun fun hc => hin hc.1.1

end CacheLemmas

/-! ### Sizes that fit -/

section Fits

variable {iObjectSize iObjectNumInMB : Int32}

theorem iBufferSize_eq : iBufferSize iObjectSize iObjectNumInMB =
    Int.bmod ((24 + iObjectSize.toInt) * iObjectNumInMB.toInt) (2 ^ 32) := by
  unfold iBufferSize iObjectStructSize
  exact Int.bmod_mul_bmod

theorem toInt_range (x : Int32) : -2147483648 ≤ x.toInt ∧ x.toInt < 2147483648 :=
  ⟨x.le_toInt, x.toInt_lt⟩

theorem offset_zero : offset iObjectSize 0 = 0 := by
  unfold offset
  rw [Int.natCast_zero, Int.mul_zero]
  rfl

theorem offset_one : offset iObjectSize 1 = iObjectStructSize iObjectSize := by
  obtain ⟨hlo, hhi⟩ := bmod_range (24 + iObjectSize.toInt)
  unfold offset
  rw [Int.natCast_one, Int.mul_one]
  exact bmod_of_range hlo hhi

/-- The bytes of a node are what a block is divided into. -/
def Fits (iObjectSize iObjectNumInMB : Int32) : Prop :=
  0 ≤ iObjectSize.toInt ∧ 1 ≤ iObjectNumInMB.toInt ∧
    (24 + iObjectSize.toInt) * iObjectNumInMB.toInt < 2147483648

instance : Decidable (Fits iObjectSize iObjectNumInMB) := inferInstanceAs (Decidable (_ ∧ _))

namespace Fits

variable (hfit : Fits iObjectSize iObjectNumInMB)

include hfit

theorem structSize_lt : 24 + iObjectSize.toInt < 2147483648 := by
  obtain ⟨hsize, hnum, hlt⟩ := hfit
  refine lt_of_le_of_lt ?_ hlt
  exact le_mul_of_one_le_right (by omega) hnum

theorem iObjectStructSize_eq : iObjectStructSize iObjectSize = 24 + iObjectSize.toInt :=
  bmod_of_range (by have := hfit.1; omega) hfit.structSize_lt

theorem iBufferSize_eq : iBufferSize iObjectSize iObjectNumInMB =
    (24 + iObjectSize.toInt) * iObjectNumInMB.toInt := by
  rw [BlockBuild.iBufferSize_eq]
  obtain ⟨hsize, hnum, hlt⟩ := hfit
  refine bmod_of_range ?_ hlt
  have : 0 ≤ (24 + iObjectSize.toInt) * iObjectNumInMB.toInt := mul_nonneg (by omega) (by omega)
  omega

theorem offset_eq {i : Nat} (hi : (i : Int) < iObjectNumInMB.toInt) :
    offset iObjectSize i = (24 + iObjectSize.toInt) * i := by
  unfold offset
  rw [hfit.iObjectStructSize_eq]
  obtain ⟨hsize, hnum, hlt⟩ := hfit
  have hle : (24 + iObjectSize.toInt) * i ≤ (24 + iObjectSize.toInt) * iObjectNumInMB.toInt :=
    mul_le_mul_of_nonneg_left hi.le (by omega)
  have : 0 ≤ (24 + iObjectSize.toInt) * (i : Int) := mul_nonneg (by omega) (by omega)
  exact bmod_of_range (by omega) (by omega)

theorem nodeLen_eq : nodeLen iObjectSize = 24 + iObjectSize.toInt := by
  have := hfit.1
  unfold nodeLen
  omega

/-- A node ends where the next one begins, or where the block ends. -/
theorem node_end {i j : Nat} (hij : i < j) (hj : (j : Int) ≤ iObjectNumInMB.toInt) :
    offset iObjectSize i + nodeLen iObjectSize ≤ (24 + iObjectSize.toInt) * j := by
  rw [hfit.offset_eq (by omega), hfit.nodeLen_eq]
  have hle : (24 + iObjectSize.toInt) * ((i : Int) + 1) ≤ (24 + iObjectSize.toInt) * j :=
    mul_le_mul_of_nonneg_left (by omega) (by have := hfit.1; omega)
  rw [mul_add, mul_one] at hle
  exact hle

theorem offset_nonneg {i : Nat} (hi : (i : Int) < iObjectNumInMB.toInt) : 0 ≤ offset iObjectSize i := by
  rw [hfit.offset_eq hi]
  exact mul_nonneg (by have := hfit.1; omega) (by omega)

theorem rounds_add_one : ((rounds iObjectNumInMB : Int)) + 1 = iObjectNumInMB.toInt := by
  have := hfit.2.1
  unfold rounds
  omega

theorem inside {b : Nat} : ∀ p ∈ cacheNodes iObjectSize iObjectNumInMB b,
    0 ≤ p.off ∧ p.off + nodeLen iObjectSize ≤ iBufferSize iObjectSize iObjectNumInMB := by
  intro p hp
  have hrounds := hfit.rounds_add_one
  obtain ⟨k, -, hk, rfl⟩ := mem_cells.mp hp
  refine ⟨hfit.offset_nonneg (by omega), ?_⟩
  obtain ⟨n, hn⟩ : ∃ n : Nat, iObjectNumInMB.toInt = n := Int.eq_ofNat_of_zero_le (by omega)
  rw [hfit.iBufferSize_eq, hn]
  exact hfit.node_end (by omega) hn.ge

theorem apart {b : Nat} : (cacheNodes iObjectSize iObjectNumInMB b).Pairwise fun p q =>
    p.off + nodeLen iObjectSize ≤ q.off ∨ q.off + nodeLen iObjectSize ≤ p.off := by
  have hrounds := hfit.rounds_add_one
  refine List.pairwise_map.mpr
    (List.Pairwise.imp_of_mem (fun {i j} hi hj hij => .inl ?_) List.pairwise_lt_range')
  have hj := (List.mem_range'_1.mp hj).2
  rw [hfit.offset_eq (show (j : Int) < _ by omega)]
  exact hfit.node_end hij (by omega)

theorem nodup {b : Nat} : (cacheNodes iObjectSize iObjectNumInMB b).Nodup := by
  refine hfit.apart.imp fun {p q} hpq heq => ?_
  have hlen := hfit.nodeLen_eq
  have := hfit.1
  subst heq
  omega

end Fits

/-- Blocks that are built right have sizes that fit: the nodes follow each other without an overflow. -/
theorem fits_of_built {h h' : CacheHeap} {c c' : CXMemoryCache}
    (hsize : h'.blockSize h.fresh = some (iBufferSize iObjectSize iObjectNumInMB).toNat)
    (hpos : 0 ≤ iBufferSize iObjectSize iObjectNumInMB)
    (hb : CacheBuilt iObjectSize iObjectNumInMB h c h' c') : Fits iObjectSize iObjectNumInMB := by
  have hlen : rounds iObjectNumInMB + 1 = iObjectNumInMB.toInt := by
    have := hb.count
    simpa [cacheNodes, CacheHeap.cells] using this
  have hinside : ∀ k : Nat, (k : Int) < iObjectNumInMB.toInt → 0 ≤ offset iObjectSize k ∧
      offset iObjectSize k + nodeLen iObjectSize ≤ iBufferSize iObjectSize iObjectNumInMB := by
    intro k hk
    obtain ⟨size, hsize', hin⟩ := hb.block
    obtain rfl := Option.some.inj (hsize.symm.trans hsize')
    have := hin ⟨h.fresh, offset iObjectSize k⟩ (mem_cells.mpr ⟨k, Nat.zero_le _, by omega, rfl⟩)
    rwa [Int.toNat_of_nonneg hpos] at this
  have hnode : 24 ≤ nodeLen iObjectSize := by
    unfold nodeLen
    omega
  have hnum : 1 ≤ iObjectNumInMB.toInt := by omega
  have hstruct : nodeLen iObjectSize ≤ iObjectStructSize iObjectSize := by
    obtain ⟨hlo, hhi⟩ := bmod_range (24 + iObjectSize.toInt)
    rcases hnum.eq_or_lt with hone | hmore
    · -- the only node fills the block
      have hB : iBufferSize iObjectSize iObjectNumInMB = iObjectStructSize iObjectSize := by
        unfold iBufferSize
        rw [← hone, Int.mul_one]
        exact bmod_of_range hlo hhi
      have := (hinside 0 (by omega)).2
      rwa [offset_zero, Int.zero_add, hB] at this
    · -- the second node is apart from the first
      obtain ⟨r, hr⟩ : ∃ r, rounds iObjectNumInMB = r + 1 := Nat.exists_eq_succ_of_ne_zero (by omega)
      have hapart := hb.apart
      unfold cacheNodes at hapart
      rw [hr, CacheHeap.cells_succ] at hapart
      have htwo := (List.pairwise_cons.mp hapart).1 ⟨h.fresh, offset iObjectSize 1⟩
        (mem_cells.mpr ⟨1, le_rfl, by omega, rfl⟩)
      have hone := (hinside 1 (by omega)).1
      rw [offset_zero, offset_one] at htwo
      rw [offset_one] at hone
      dsimp only at htwo
      omega
  obtain ⟨hsize0, hS⟩ : 0 ≤ iObjectSize.toInt ∧ iObjectStructSize iObjectSize = 24 + iObjectSize.toInt := by
    obtain ⟨hlo, hhi⟩ := toInt_range iObjectSize
    unfold iObjectStructSize at hstruct ⊢
    rw [Int.bmod_def] at hstruct ⊢
    norm_num at hstruct ⊢
    split_ifs at hstruct ⊢ <;> omega
  have hL : nodeLen iObjectSize = 24 + iObjectSize.toInt := by
    unfold nodeLen
    omega
  have hlt : iBufferSize iObjectSize iObjectNumInMB < 2147483648 := (bmod_range _).2
  -- the end of each node, by induction: so the next offset does not overflow
  have hend : ∀ k : Nat, (k : Int) < iObjectNumInMB.toInt →
      (24 + iObjectSize.toInt) * (k + 1) ≤ iBufferSize iObjectSize iObjectNumInMB := by
    intro k
    induction k with
    | zero =>
      intro hk
      have := (hinside 0 hk).2
      rw [offset_zero, hL] at this
      simpa using this
    | succ k ih =>
      intro hk
      have hprev := ih (by omega)
      have hpos : 0 ≤ (24 + iObjectSize.toInt) * ((k : Int) + 1) := mul_nonneg (by omega) (by omega)
      have hoff : offset iObjectSize (k + 1) = (24 + iObjectSize.toInt) * ((k : Int) + 1) := by
        unfold offset
        rw [hS, Int.natCast_add, Int.natCast_one]
        exact bmod_of_range (by omega) (by omega)
      have := (hinside (k + 1) hk).2
      rw [hoff, hL] at this
      rw [Int.natCast_add, Int.natCast_one, mul_add _ _ (1 : Int), mul_one]
      exact this
  refine ⟨hsize0, hnum, lt_of_le_of_lt ?_ hlt⟩
  have := hend (rounds iObjectNumInMB) (by omega)
  rwa [hlen] at this

variable {me : CacheName} {bNew : Bool} {h : CacheHeap} {c : CXMemoryCache}

theorem linkInside_start {size : Int} {b n : Nat} {r : CacheHeap × CacheObj} :
    linkInside size (offset iObjectSize) me b n 1 ⟨b, 0⟩ h = some r ↔
      (∀ o ∈ CacheHeap.cells (offset iObjectSize) b 0 n, HeaderInside size o) ∧
        r = CacheHeap.linkObjects (offset iObjectSize) me b n 1 ⟨b, 0⟩ h := by
  have hiff := @linkInside_eq_some_iff size (offset iObjectSize) me b n 0 h r
  rwa [offset_zero] at hiff

theorem Fits.cacheBuilt (hfit : Fits iObjectSize iObjectNumInMB)
    (htotal : c.dwNumberOfTotalNodes + iObjectNumInMB.toInt < 4294967296) :
    ∃ h' c', allocateCacheBlock iObjectSize iObjectNumInMB me true h c = some (h', c', 0) ∧
      CacheBuilt iObjectSize iObjectNumInMB h c h' c' := by
  have hsize := hfit.1
  have hnum := hfit.2.1
  have hpos : 0 ≤ iBufferSize iObjectSize iObjectNumInMB := by
    rw [hfit.iBufferSize_eq]
    exact mul_nonneg (by omega) (by omega)
  have hheader : ∀ o ∈ CacheHeap.cells (offset iObjectSize) h.fresh 0 (rounds iObjectNumInMB),
      HeaderInside (iBufferSize iObjectSize iObjectNumInMB) o := fun o ho => by
    have hin := hfit.inside o ho
    have hlen := hfit.nodeLen_eq
    exact ⟨hin.1, by omega⟩
  have hnd : (CacheHeap.cells (offset iObjectSize) h.fresh 0 (rounds iObjectNumInMB)).Nodup := hfit.nodup
  have h0 : offset iObjectSize 0 = 0 := offset_zero
  obtain ⟨h', last, hrun, -, hblock, hlinked, hlast, -, -⟩ := CacheHeap.linkObjects_spec (w := me)
    { h with
      fresh := h.fresh + 1
      blockSize := Function.update h.blockSize h.fresh (some (iBufferSize iObjectSize iObjectNumInMB).toNat) }
    h0 hnd
  unfold allocateCacheBlock
  simp only [Bool.not_true, Bool.false_eq_true, false_or, if_neg (not_lt.mpr hpos)]
  rw [linkInside_start.mpr ⟨hheader, rfl⟩, hrun]
  refine ⟨_, _, rfl, ?_, ⟨(iBufferSize iObjectSize iObjectNumInMB).toNat, ?_, fun p hp => ?_⟩, hfit.apart,
    hlinked, hlast, ?_⟩
  · have hrounds := hfit.rounds_add_one
    simpa [cacheNodes, CacheHeap.cells] using hrounds
  · show h'.blockSize h.fresh = _
    rw [hblock]
    exact Function.update_self ..
  · rw [Int.toNat_of_nonneg hpos]
    exact hfit.inside p hp
  · show ((((c.dwNumberOfTotalNodes : Int) + iObjectNumInMB.toInt) % 2 ^ 32).toNat : Int) = _
    norm_num
    omega

/-- Where no header is outside the block this is the call that the elastic caches make. -/
theorem allocateMemoryBlock_of_sizes {z : CacheSizes} {h' : CacheHeap} {c' : CXMemoryCache}
    (hsize : iObjectSize.toInt = z.iObjectSize) (hnum : iObjectNumInMB.toInt = z.iObjectNumInMB)
    (hrun : allocateCacheBlock iObjectSize iObjectNumInMB me bNew h c = some (h', c', 0)) :
    CXMemoryCache.allocateMemoryBlock z me bNew h c = some (h', c') := by
  have hoffset : offset iObjectSize = z.offset := by
    funext i
    unfold offset CacheSizes.offset iObjectStructSize CacheSizes.iObjectStructSize
    rw [hsize]
  have hbuffer : iBufferSize iObjectSize iObjectNumInMB = z.iBufferSize := by
    unfold iBufferSize CacheSizes.iBufferSize iObjectStructSize CacheSizes.iObjectStructSize
    rw [hsize, hnum]
  have hrounds : rounds iObjectNumInMB = z.iObjectNumInMB - 1 := by
    unfold rounds
    omega
  have htotal : (((c.dwNumberOfTotalNodes : Int) + iObjectNumInMB.toInt) % 2 ^ 32).toNat =
      (c.dwNumberOfTotalNodes + z.iObjectNumInMB) % 2 ^ 32 := by
    rw [hnum]
    exact congrArg Int.toNat (Int.natCast_emod (c.dwNumberOfTotalNodes + z.iObjectNumInMB) (2 ^ 32)).symm
  unfold allocateCacheBlock at hrun
  unfold CXMemoryCache.allocateMemoryBlock
  dsimp only at hrun ⊢
  rw [hbuffer] at hrun
  split at hrun
  case isTrue => cases hrun
  case isFalse hfail =>
    rw [if_neg hfail]
    obtain ⟨linked, hlinked, hresult⟩ := Option.map_eq_some_iff.mp hrun
    obtain ⟨-, rfl⟩ := linkInside_start.mp hlinked
    rw [htotal, hoffset, hrounds] at hresult
    cases hresult
    rfl

theorem cacheRight_iff : CacheRight iObjectSize iObjectNumInMB me bNew h c ↔
    bNew = false ∨ 2 ^ 31 ≤ (24 + iObjectSize.toInt) * iObjectNumInMB.toInt % 2 ^ 32 ∨
      Fits iObjectSize iObjectNumInMB ∧ c.dwNumberOfTotalNodes + iObjectNumInMB.toInt < 4294967296 := by
  rw [← bmod_neg_iff, ← iBufferSize_eq]
  constructor
  · rintro ⟨h', c', ret, hrun, hright⟩
    cases bNew with
    | false => exact .inl rfl
    | true =>
      refine .inr ?_
      by_cases hneg : iBufferSize iObjectSize iObjectNumInMB < 0
      · exact .inl hneg
      refine .inr ?_
      unfold allocateCacheBlock at hrun
      simp only [Bool.not_true, Bool.false_eq_true, false_or, if_neg hneg, Option.map_eq_some_iff] at hrun
      obtain ⟨linked, hlinked, hresult⟩ := hrun
      obtain ⟨-, rfl⟩ := linkInside_start.mp hlinked
      cases hresult
      rcases hright with ⟨hret, -⟩ | ⟨-, hbuilt⟩
      · cases hret
      · refine ⟨fits_of_built ?_ (not_lt.mp hneg) hbuilt, ?_⟩
        · show (CacheHeap.linkObjects ..).1.blockSize _ = _
          rw [(CacheHeap.linkObjects_size).2]
          exact Function.update_self ..
        · have htotal := hbuilt.total
          change ((((c.dwNumberOfTotalNodes : Int) + iObjectNumInMB.toInt) % 2 ^ 32).toNat : Int) = _ at htotal
          norm_num at htotal
          omega
  · intro hcond
    by_cases hfail : bNew = false ∨ iBufferSize iObjectSize iObjectNumInMB < 0
    · refine ⟨h, c, -1, ?_, .inl ⟨rfl, rfl, rfl⟩⟩
      unfold allocateCacheBlock
      exact if_pos (by simpa using hfail)
    · rw [not_or] at hfail
      obtain ⟨hfit, htotal⟩ := (hcond.resolve_left hfail.1).resolve_left hfail.2
      obtain ⟨h', c', hrun, hbuilt⟩ := hfit.cacheBuilt htotal
      rw [Bool.not_eq_false] at hfail
      rw [hfail.1]
      exact ⟨h', c', 0, hrun, .inr ⟨rfl, hbuilt⟩⟩

end Fits

/-! ### The queue -/

section Queue

open CXQueueData

variable {δ : Type} {s s' : CXQueueData δ} {newOk : Bool}

/-- The nodes that the two stores and the loop build in the new block. -/
def queueNodes (s : CXQueueData δ) : List NodePtr := blockNodes s.mem.size.length 0 (max 2 s.dwInitSize.toNat)

/-- As for the cache; the empty nodes are counted. -/
structure QueueBuilt (s s' : CXQueueData δ) : Prop where
  count : (queueNodes s).length = s.dwInitSize.toNat
  inside : ∀ p ∈ queueNodes s, s'.mem.InBounds p
  apart : (queueNodes s).Pairwise fun p q => 24 * p.idx + 24 ≤ 24 * q.idx ∨ 24 * q.idx + 24 ≤ 24 * p.idx
  linked : Linked s'.mem.next s'.pEmptyListHead (queueNodes s)
  last : s'.pEmptyListEnd = (queueNodes s).getLast?
  empty : s'.dwNumberOfEmptyNodes.toNat = s.dwNumberOfEmptyNodes.toNat + s.dwInitSize.toNat

def QueueRight (newOk : Bool) (s : CXQueueData δ) : Prop :=
  ∃ s' ret, allocateMemoryBlock newOk s = some (s', ret) ∧ (ret = -1 ∧ s' = s ∨ ret = 0 ∧ QueueBuilt s s')

def QueueFits (dwInitSize : UInt32) : Prop := 2 ≤ dwInitSize.toNat ∧ 24 * dwInitSize.toNat + 16 < 2147483648

instance (dwInitSize : UInt32) : Decidable (QueueFits dwInitSize) := inferInstanceAs (Decidable (_ ∧ _))

theorem bufferSize_eq {n : UInt32} : bufferSize n = Int.bmod (24 * n.toNat + 16) (2 ^ 32) := by
  unfold bufferSize
  rw [Int.natCast_add, Int.natCast_emod, Int.emod_add_bmod, Int.natCast_mul]
  rfl

theorem bufferSize_neg_iff {n : UInt32} : bufferSize n < 0 ↔ 2 ^ 31 ≤ (24 * n.toNat + 16) % 2 ^ 32 := by
  rw [bufferSize_eq, bmod_neg_iff]
  exact_mod_cast Iff.rfl

theorem QueueFits.sizeOk {n : UInt32} (hfit : QueueFits n) : SizeOk n := by
  obtain ⟨-, hlt⟩ := hfit
  unfold SizeOk
  rw [bufferSize_eq]
  exact bmod_of_range (by omega) (by omega)

theorem apart_blockNodes {b i k : Nat} : (blockNodes b i k).Pairwise fun p q =>
    24 * p.idx + 24 ≤ 24 * q.idx ∨ 24 * q.idx + 24 ≤ 24 * p.idx := by
  have hlt : (List.range' i k).Pairwise (· < ·) := List.pairwise_lt_range'
  refine List.pairwise_map.mpr (hlt.imp fun {i j} hij => .inl ?_)
  show 24 * i + 24 ≤ 24 * j
  omega

theorem length_queueNodes : (queueNodes s).length = max 2 s.dwInitSize.toNat := by
  unfold queueNodes blockNodes
  rw [List.length_map, List.length_range']

theorem QueueFits.queueBuilt (hfit : QueueFits s.dwInitSize) (hs : s.pEmptyListHead = none)
    (hempty : s.dwNumberOfEmptyNodes.toNat + s.dwInitSize.toNat < 4294967296) :
    ∃ s', allocateMemoryBlock true s = some (s', 0) ∧ QueueBuilt s s' := by
  obtain ⟨n, hn⟩ : ∃ n, s.dwInitSize.toNat = n + 2 := ⟨_, (Nat.sub_add_cancel hfit.1).symm⟩
  have hnodes : queueNodes s = blockNodes s.mem.size.length 0 (n + 2) := by
    unfold queueNodes
    rw [hn, Nat.max_eq_right (Nat.le_add_left ..)]
  obtain ⟨s', hrun, hs', -, hinside, hlinked⟩ := allocateMemoryBlock_spec hn hfit.sizeOk hs
  obtain ⟨-, -, -, hfree⟩ := counts_allocateMemoryBlock hrun
  have hhead : s'.pEmptyListHead = some ⟨s.mem.size.length, 0⟩ := by rw [hs']
  have hend : s'.pEmptyListEnd = some ⟨s.mem.size.length, n + 1⟩ := by rw [hs']
  refine ⟨s', hrun, ⟨?_, ?_, apart_blockNodes, ?_, ?_, ?_⟩⟩
  · rw [length_queueNodes]
    exact Nat.max_eq_right hfit.1
  · rwa [hnodes]
  · rwa [hnodes, hhead]
  · rw [hnodes, hend, getLast?_blockNodes, Nat.zero_add]
  · rw [hfree, UInt32.toNat_add]
    exact Nat.mod_eq_of_lt hempty

/-- The last node is in the block only if the size of the block did not overflow. -/
theorem queueFits_of_built (hsize : s'.mem.size = s.mem.size ++ [(bufferSize s.dwInitSize).toNat])
    (hb : QueueBuilt s s') : QueueFits s.dwInitSize := by
  have hcount := hb.count
  rw [length_queueNodes] at hcount
  have htwo : 2 ≤ s.dwInitSize.toNat := by omega
  have hlast := hb.inside ⟨s.mem.size.length, s.dwInitSize.toNat - 1⟩
    (mem_blockNodes.mpr ⟨rfl, Nat.zero_le _, show s.dwInitSize.toNat - 1 < _ by omega⟩)
  change 16 + 24 * (s.dwInitSize.toNat - 1 + 1) ≤ s'.mem.size.getD s.mem.size.length 0 at hlast
  rw [hsize, List.getD_eq_getElem?_getD, List.getElem?_concat_length, Option.getD_some] at hlast
  have hlt : bufferSize s.dwInitSize < 2147483648 := by
    rw [bufferSize_eq]
    exact (bmod_range _).2
  exact ⟨htwo, by omega⟩

theorem queueRight_iff (hs : s.pEmptyListHead = none) : QueueRight newOk s ↔
    newOk = false ∨ 2 ^ 31 ≤ (24 * s.dwInitSize.toNat + 16) % 2 ^ 32 ∨
      QueueFits s.dwInitSize ∧ s.dwNumberOfEmptyNodes.toNat + s.dwInitSize.toNat < 4294967296 := by
  rw [← bufferSize_neg_iff]
  constructor
  · rintro ⟨s', ret, hrun, hright⟩
    obtain ⟨hfail, -, -⟩ | ⟨-, hret, hsize, -, -, -⟩ := allocateMemoryBlock_cases hrun
    · exact hfail.imp_right .inl
    · obtain ⟨hret', -⟩ | ⟨-, hbuilt⟩ := hright
      · rw [hret] at hret'
        cases hret'
      · refine .inr (.inr ⟨queueFits_of_built hsize hbuilt, ?_⟩)
        rw [← hbuilt.empty]
        exact s'.dwNumberOfEmptyNodes.toNat_lt
  · intro hcond
    by_cases hfail : newOk = false ∨ bufferSize s.dwInitSize < 0
    · refine ⟨s, -1, ?_, .inl ⟨rfl, rfl⟩⟩
      unfold allocateMemoryBlock
      exact if_pos (by simpa using hfail)
    · rw [not_or, Bool.not_eq_false] at hfail
      obtain ⟨hnew, hneg⟩ := hfail
      subst hnew
      obtain ⟨hfit, hempty⟩ := (hcond.resolve_left nofun).resolve_left hneg
      obtain ⟨s', hrun, hbuilt⟩ := hfit.queueBuilt hs hempty
      exact ⟨s', 0, hrun, .inr ⟨rfl, hbuilt⟩⟩

end Queue

/-! ### Both -/

/-- Which sizes the two functions build a block for, or refuse; with the others they write outside of it, or build
another number of nodes, or a counter overflows. The list of empty nodes of the queue is `NULL` at both calls. -/
theorem right_iff {δ : Type} (iObjectSize iObjectNumInMB : Int32) (me : CacheName) (bNew : Bool) (h : CacheHeap)
    (c : CXMemoryCache) (newOk : Bool) (s : CXQueueData δ) (hs : s.pEmptyListHead = none) :
    (CacheRight iObjectSize iObjectNumInMB me bNew h c ↔
      bNew = false ∨ 2 ^ 31 ≤ (24 + iObjectSize.toInt) * iObjectNumInMB.toInt % 2 ^ 32 ∨
        Fits iObjectSize iObjectNumInMB ∧ c.dwNumberOfTotalNodes + iObjectNumInMB.toInt < 4294967296) ∧
    (QueueRight newOk s ↔
      newOk = false ∨ 2 ^ 31 ≤ (24 * s.dwInitSize.toNat + 16) % 2 ^ 32 ∨
        QueueFits s.dwInitSize ∧ s.dwNumberOfEmptyNodes.toNat + s.dwInitSize.toNat < 4294967296) :=
  ⟨cacheRight_iff, queueRight_iff hs⟩

/-- Nothing is allocated yet. -/
def noBlocks : CacheHeap := ⟨0, fun _ => none, fun _ => .firstObj, fun _ => none⟩

theorem right_smallest :
    CacheRight 256 1 .firstObj true noBlocks CXMemoryCache.construct ∧
      QueueRight true ({ CXQueueData.construct with dwInitSize := 2 } : CXQueueData Nat) := by
  obtain ⟨hcache, hqueue⟩ := right_iff 256 1 .firstObj true noBlocks CXMemoryCache.construct true
    ({ CXQueueData.construct with dwInitSize := 2 } : CXQueueData Nat) rfl
  exact ⟨hcache.mpr (.inr (.inr ⟨by decide, by decide⟩)), hqueue.mpr (.inr (.inr ⟨by decide, by decide⟩))⟩

/-- A count of 0 gives the cache a block of no bytes, and the loop one node; a count of 1 the queue a block for one
node, and the loop two. -/
theorem not_right_counts :
    ¬ CacheRight 256 0 .firstObj true noBlocks CXMemoryCache.construct ∧
      ¬ QueueRight true ({ CXQueueData.construct with dwInitSize := 1 } : CXQueueData Nat) := by
  have hcache : allocateCacheBlock 256 0 .firstObj true noBlocks CXMemoryCache.construct = none := by
    decide +kernel
  have hqueue : (CXQueueData.allocateMemoryBlock true
      ({ CXQueueData.construct with dwInitSize := 1 } : CXQueueData Nat)).isNone = true := by
    decide +kernel
  constructor
  · rintro ⟨h', c', ret, hrun, -⟩
    rw [hcache] at hrun
    cases hrun
  · rintro ⟨s', ret, hrun, -⟩
    rw [hrun] at hqueue
    cases hqueue

end BlockBuild

end KonsanNet
