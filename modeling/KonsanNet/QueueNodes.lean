import KonsanNet.QueueFifo

/-!
# The nodes of a pointer queue (`CXQueueData`)

As long as no node is freed while the empty list is `NULL`, each node of each block is a live or an empty one,
the end pointers are right and the counters are exact (`Clean`). `Clear` then makes all of them empty ones
(`Clean.clear`), unless there are empty nodes and no live one: it dereferences `NULL` (`clear_eq_none`).
-/

namespace KonsanNet

variable {δ : Type}

namespace QueueMem

variable {m m' : QueueMem δ}

theorem size_of_modify {p : Option NodePtr} {f : CxListNode δ → CxListNode δ} (h : m.modify p f = some m') :
    m'.size = m.size := by
  obtain ⟨q, -, hq⟩ := Option.bind_eq_some_iff.mp h
  split at hq
  · cases hq
    rfl
  · cases hq

end QueueMem

namespace CXQueueData

variable {s s' : CXQueueData δ} {q : List (Option δ)} {L F : List NodePtr}

/-! ### What the operations on nodes leave alone -/

theorem size_of_linkNodes {b n : Nat} : ∀ {m m' : QueueMem δ} {i : Nat} {prev p o : NodePtr},
    linkNodes b n m i prev = some (m', p, o) → m'.size = m.size := by
  intro m m' i prev p o h
  fun_induction linkNodes b n m i prev with
  | case1 m i prev _ ih =>
    obtain ⟨m₁, hm₁, h⟩ := Option.bind_eq_some_iff.mp h
    exact (ih m₁ h).trans (QueueMem.size_of_modify hm₁)
  | case2 =>
    cases h
    rfl

/-- The blocks and the member variables that only `Init` and `Destroy` set. -/
structure SameBlocks (s s' : CXQueueData δ) : Prop where
  size : s'.mem.size = s.mem.size
  dwInitSize : s'.dwInitSize = s.dwInitSize
  dwNumberOfBlocks : s'.dwNumberOfBlocks = s.dwNumberOfBlocks

theorem SameBlocks.trans {s'' : CXQueueData δ} (h : SameBlocks s s') (h' : SameBlocks s' s'') : SameBlocks s s'' :=
  ⟨h'.size.trans h.size, h'.dwInitSize.trans h.dwInitSize, h'.dwNumberOfBlocks.trans h.dwNumberOfBlocks⟩

theorem same_takeEmpty {pObj : Option NodePtr} (h : takeEmpty s = some (s', pObj)) :
    SameBlocks s s' ∧ s'.dwNumberOfEmptyNodes = s.dwNumberOfEmptyNodes := by
  obtain ⟨nd, -, h⟩ := Option.bind_eq_some_iff.mp h
  dsimp only at h
  split at h
  · cases h
    exact ⟨⟨rfl, rfl, rfl⟩, rfl⟩
  · obtain ⟨m, hm, h⟩ := Option.bind_eq_some_iff.mp h
    cases h
    exact ⟨⟨QueueMem.size_of_modify hm, rfl, rfl⟩, rfl⟩

theorem same_clearNode {pObj pObj' : Option NodePtr} (h : clearNode s pObj = some (s', pObj')) :
    SameBlocks s s' ∧ s'.dwNumberOfEmptyNodes = s.dwNumberOfEmptyNodes - 1 := by
  obtain ⟨m, hm, h⟩ := Option.bind_eq_some_iff.mp h
  cases h
  exact ⟨⟨QueueMem.size_of_modify hm, rfl, rfl⟩, rfl⟩

theorem same_linkBack {p : NodePtr} {d : Option δ} {ok : Bool} (h : linkBack p d s = some (s', ok)) :
    SameBlocks s s' ∧ s'.dwNumberOfEmptyNodes = s.dwNumberOfEmptyNodes := by
  obtain ⟨m, hm, h⟩ := Option.bind_eq_some_iff.mp h
  have hsize := QueueMem.size_of_modify hm
  dsimp only at h
  split at h
  · cases h
    exact ⟨⟨hsize, rfl, rfl⟩, rfl⟩
  · obtain ⟨m₁, hm₁, h⟩ := Option.bind_eq_some_iff.mp h
    obtain ⟨m₂, hm₂, h⟩ := Option.bind_eq_some_iff.mp h
    cases h
    have hsize' := (QueueMem.size_of_modify hm₂).trans ((QueueMem.size_of_modify hm₁).trans hsize)
    exact ⟨⟨hsize', rfl, rfl⟩, rfl⟩

/-- The call fails and changes nothing, or there is one block more, and as many empty nodes as it has. -/
theorem allocateMemoryBlock_cases {newOk : Bool} {ret : Int} (h : allocateMemoryBlock newOk s = some (s', ret)) :
    (newOk = false ∨ bufferSize s.dwInitSize < 0) ∧ s' = s ∧ ret = -1 ∨
      0 ≤ bufferSize s.dwInitSize ∧ ret = 0 ∧ s'.mem.size = s.mem.size ++ [(bufferSize s.dwInitSize).toNat] ∧
        s'.dwInitSize = s.dwInitSize ∧ s'.dwNumberOfBlocks = s.dwNumberOfBlocks + 1 ∧
        s'.dwNumberOfEmptyNodes = s.dwNumberOfEmptyNodes + s.dwInitSize := by
  unfold allocateMemoryBlock at h
  dsimp only at h
  split at h
  case isTrue hfail =>
    cases h
    exact .inl ⟨by simpa using hfail, rfl, rfl⟩
  case isFalse hpos =>
    rw [not_or, not_lt] at hpos
    obtain ⟨m₁, hm₁, h⟩ := Option.bind_eq_some_iff.mp h
    obtain ⟨⟨m₂, prev, o⟩, hm₂, h⟩ := Option.bind_eq_some_iff.mp h
    obtain ⟨m₃, hm₃, h⟩ := Option.bind_eq_some_iff.mp h
    have hsize : m₃.size = s.mem.size ++ [(bufferSize s.dwInitSize).toNat] :=
      (QueueMem.size_of_modify hm₃).trans ((size_of_linkNodes hm₂).trans (QueueMem.size_of_modify hm₁))
    dsimp only at h
    split at h
    · cases h
      exact .inr ⟨hpos.2, rfl, hsize, rfl, rfl, rfl⟩
    · obtain ⟨m₄, hm₄, h⟩ := Option.bind_eq_some_iff.mp h
      obtain ⟨m₅, hm₅, h⟩ := Option.bind_eq_some_iff.mp h
      cases h
      have hsize' := (QueueMem.size_of_modify hm₅).trans (QueueMem.size_of_modify hm₄)
      exact .inr ⟨hpos.2, rfl, hsize'.trans hsize, rfl, rfl, rfl⟩

theorem counts_allocateMemoryBlock (h : allocateMemoryBlock true s = some (s', 0)) :
    s'.mem.size.length = s.mem.size.length + 1 ∧ s'.dwInitSize = s.dwInitSize ∧
      s'.dwNumberOfBlocks = s.dwNumberOfBlocks + 1 ∧
      s'.dwNumberOfEmptyNodes = s.dwNumberOfEmptyNodes + s.dwInitSize := by
  obtain ⟨-, -, hret⟩ | ⟨-, -, hsize, hcounts⟩ := allocateMemoryBlock_cases h
  · cases hret
  · refine ⟨?_, hcounts⟩
    rw [hsize, List.length_append, List.length_singleton]

/-! ### A queue none of whose nodes is lost -/

/-- Each node of the blocks is in the live list `L` or in the empty list `F`, and the counters say how many there
are. -/
structure Clean (s : CXQueueData δ) (q : List (Option δ)) (L F : List NodePtr) : Prop extends Rep s q L [] F where
  cover : ∀ p, p ∈ L ++ F ↔ p.block < s.mem.size.length ∧ p.idx < s.dwInitSize.toNat
  total : (L ++ F).length = s.mem.size.length * s.dwInitSize.toNat
  bound : s.mem.size.length * s.dwInitSize.toNat < 2 ^ 32
  blocks : s.dwNumberOfBlocks = UInt32.ofNat s.mem.size.length
  free : s.dwNumberOfEmptyNodes = UInt32.ofNat F.length

namespace Clean

theorem length_live (h : Clean s q L F) : L.length = q.length := by
  rw [← h.data, List.length_map]

theorem toNat_using (h : Clean s q L F) : s.dwNumberOfUsingNodes.toNat = q.length := by
  have htotal := h.total
  have hbound := h.bound
  rw [List.length_append, h.length_live] at htotal
  rw [h.count]
  exact UInt32.toNat_ofNat_of_lt' (show q.length < 2 ^ 32 by omega)

theorem toNat_empty (h : Clean s q L F) : s.dwNumberOfEmptyNodes.toNat = F.length := by
  have htotal := h.total
  have hbound := h.bound
  rw [List.length_append] at htotal
  rw [h.free]
  exact UInt32.toNat_ofNat_of_lt' (show F.length < 2 ^ 32 by omega)

theorem toNat_blocks (h : Clean s q L F) : s.dwNumberOfBlocks.toNat = s.mem.size.length := by
  have hle : s.mem.size.length * 1 ≤ s.mem.size.length * s.dwInitSize.toNat :=
    Nat.mul_le_mul_left _ (le_trans (by decide) h.initSize)
  have hbound := h.bound
  rw [h.blocks]
  exact UInt32.toNat_ofNat_of_lt' (show s.mem.size.length < 2 ^ 32 by omega)

theorem emptyHead (h : Clean s q L F) : s.pEmptyListHead = none ↔ F = [] := by
  rw [← h.empty.head?_eq]
  exact List.head?_eq_none_iff

theorem listHead (h : Clean s q L F) : s.pListHead = none ↔ q = [] := by
  have hlive := h.live
  rw [List.append_nil] at hlive
  rw [← hlive.head?_eq, List.head?_eq_none_iff, ← h.data, List.map_eq_nil_iff]

theorem of_rep {q' : List (Option δ)} (L' F' : List NodePtr) (h : Clean s q L F) (hr : Rep s' q' L' [] F')
    (hsame : SameBlocks s s') (hperm : (L' ++ F').Perm (L ++ F))
    (hfree : s'.dwNumberOfEmptyNodes = UInt32.ofNat F'.length) : Clean s' q' L' F' where
  toRep := hr
  cover := fun p => by rw [hperm.mem_iff, h.cover p, hsame.size, hsame.dwInitSize]
  total := by rw [hperm.length_eq, h.total, hsame.size, hsame.dwInitSize]
  bound := by
    rw [hsame.size, hsame.dwInitSize]
    exact h.bound
  blocks := by rw [hsame.dwNumberOfBlocks, hsame.size, h.blocks]
  free := hfree

end Clean

/-! ### `Push` -/

theorem Clean.push_free {p : NodePtr} (h : Clean s q L (p :: F)) (newOk : Bool) (d : Option δ) :
    ∃ s', CXQueueData.push newOk d s = some (s', true) ∧ Clean s' (q ++ [d]) (L ++ [p]) F ∧ SameBlocks s s' := by
  obtain ⟨-, hready⟩ := h.ready
  obtain ⟨s₁, s₂, hrun₁, -, hrun₂, ht⟩ := hready.take
  obtain ⟨s', hrun₃, hr⟩ := ht.linkBack d
  obtain ⟨hsame₁, hfree₁⟩ := same_takeEmpty hrun₁
  obtain ⟨hsame₂, hfree₂⟩ := same_clearNode hrun₂
  obtain ⟨hsame₃, hfree₃⟩ := same_linkBack hrun₃
  have hsame := (hsame₁.trans hsame₂).trans hsame₃
  refine ⟨s', ?_, h.of_rep _ _ hr hsame (by simp) ?_, hsame⟩
  · have hget : getNode newOk s = some (s₂, some p) := by
      unfold getNode
      simp [h.inited, h.empty.1, hrun₁, hrun₂]
    unfold CXQueueData.push
    simp only [h.inited, if_true, Option.bind_eq_bind, Option.bind_some, hget]
    exact hrun₃
  · rw [hfree₃, hfree₂, hfree₁]
    exact count_pop h.free

/-- Without one a block is added; its nodes are the empty list, less the first. -/
theorem Clean.push_full (h : Clean s q L []) (d : Option δ)
    (hroom : (s.mem.size.length + 1) * s.dwInitSize.toNat < 2 ^ 32) :
    ∃ s' p F', CXQueueData.push true d s = some (s', true) ∧ Clean s' (q ++ [d]) (L ++ [p]) F' ∧
      s'.mem.size.length = s.mem.size.length + 1 ∧ s'.dwInitSize = s.dwInitSize := by
  obtain ⟨n, hn⟩ : ∃ n, s.dwInitSize.toNat = n + 2 := ⟨_, (Nat.sub_add_cancel h.initSize).symm⟩
  obtain ⟨s₀, p, F', hrun₀, hF', hready⟩ := h.ready_of_allocate
  obtain ⟨s₁, s₂, hrun₁, hhead, hrun₂, ht⟩ := hready.take
  obtain ⟨s', hrun₃, hr⟩ := ht.linkBack d
  -- the new empty list is the new block
  have hblock : p :: F' = blockNodes s.mem.size.length 0 (n + 2) := by
    obtain ⟨s₀', hrun₀', hs₀', -, -, hlink⟩ := allocateMemoryBlock_spec hn h.sizeOk h.empty
    obtain rfl : s₀' = s₀ := congrArg Prod.fst (Option.some.inj (hrun₀'.symm.trans hrun₀))
    have hempty := hready.empty
    rw [show s₀'.pEmptyListHead = some ⟨s.mem.size.length, 0⟩ by rw [hs₀']] at hempty
    exact hempty.unique hlink
  obtain ⟨hlen₀, hinit₀, hblocks₀, hfree₀⟩ := counts_allocateMemoryBlock hrun₀
  obtain ⟨hsame₁, hfree₁⟩ := same_takeEmpty hrun₁
  obtain ⟨hsame₂, hfree₂⟩ := same_clearNode hrun₂
  obtain ⟨hsame₃, hfree₃⟩ := same_linkBack hrun₃
  have hsame := (hsame₁.trans hsame₂).trans hsame₃
  have hlen : s'.mem.size.length = s.mem.size.length + 1 := (congrArg List.length hsame.size).trans hlen₀
  have hinit : s'.dwInitSize = s.dwInitSize := hsame.dwInitSize.trans hinit₀
  have hF'len : F'.length + 1 = n + 2 := by
    have := congrArg List.length hblock
    simpa [blockNodes] using this
  have hnodes : L ++ [p] ++ F' = L ++ blockNodes s.mem.size.length 0 (n + 2) := by
    rw [List.append_assoc, List.singleton_append, hblock]
  refine ⟨s', p, F', ?_, ⟨hr, fun r => ?_, ?_, ?_, ?_, ?_⟩, hlen, hinit⟩
  · have he : s.pEmptyListHead = none := h.empty
    have hne : s₁.pEmptyListHead ≠ none := by
      rw [hhead]
      simpa using hF'
    have hget : getNode true s = some (s₂, some p) := by
      unfold getNode
      simp [h.inited, he, hrun₀, hrun₁, hrun₂, hne]
    unfold CXQueueData.push
    simp only [h.inited, if_true, Option.bind_eq_bind, Option.bind_some, hget]
    exact hrun₃
  · have hcover := h.cover r
    rw [List.append_nil] at hcover
    rw [hnodes, List.mem_append, hcover, mem_blockNodes, hlen, hinit, hn]
    omega
  · have htotal := h.total
    rw [List.append_nil] at htotal
    rw [hnodes, List.length_append, htotal, hlen, hinit, hn, Nat.add_mul]
    simp [blockNodes]
  · rw [hlen, hinit]
    exact hroom
  · rw [hsame.dwNumberOfBlocks, hblocks₀, h.blocks, hlen]
    exact count_push rfl
  · rw [hfree₃, hfree₂, hfree₁, hfree₀, h.free]
    refine count_pop ?_
    rw [hF'len, ← hn, List.length_nil]
    simp

theorem Clean.push_refused (h : Clean s q L []) (d : Option δ) :
    CXQueueData.push false d s = some (s, false) := by
  have he : s.pEmptyListHead = none := h.empty
  unfold CXQueueData.push getNode allocateMemoryBlock
  simp [h.inited, he]

/-! ### `PopFront` -/

/-- A node is taken from the live list and linked in behind the empty one, which is not `NULL`. -/
theorem Clean.popFront {d : Option δ} {x : NodePtr} (h : Clean s (d :: q) (x :: L) F) (hF : F ≠ []) :
    ∃ s', CXQueueData.popFront s = some (s', d) ∧ Clean s' q L (F ++ [x]) ∧ SameBlocks s s' := by
  have hhead : s.pEmptyListHead ≠ none := fun he => hF (h.emptyHead.mp he)
  obtain ⟨s', hrun, hr⟩ := h.toRep.popFront_cons fun hc => hhead hc.2
  rw [if_neg hF, if_neg hF] at hr
  obtain ⟨e, he⟩ : ∃ e, (L ++ [] ++ F).getLast? = some e :=
    ⟨_, List.getLast?_eq_some_getLast (by simp [hF])⟩
  obtain ⟨m, hrun', hsize, -, -⟩ := popFront_spec h.toRep he
  obtain ⟨rfl, -⟩ := Prod.mk.inj (Option.some.inj (hrun.symm.trans hrun'))
  have hsame : SameBlocks s { s with
      mem := m, pListHead := (L ++ []).head?, pEmptyListEnd := some x
      pListEnd := if L ++ [] = [] then none else s.pListEnd
      dwNumberOfUsingNodes := s.dwNumberOfUsingNodes - 1
      dwNumberOfEmptyNodes := s.dwNumberOfEmptyNodes + 1 } := ⟨hsize, rfl, rfl⟩
  refine ⟨_, hrun, h.of_rep _ _ hr hsame ?_ ?_, hsame⟩
  · rw [← List.append_assoc]
    exact List.perm_append_comm
  · rw [List.length_append]
    exact count_push h.free

/-! ### `Clear` -/

/-- An empty node and no live one: `m_pListHead` is `NULL` and is written to. -/
theorem clear_eq_none (hempty : s.pEmptyListHead ≠ none) (hlive : s.pListHead = none) : clear s = none := by
  obtain ⟨h, hh⟩ := Option.ne_none_iff_exists'.mp hempty
  unfold clear
  simp only [hh, hlive, Option.bind_eq_bind]
  cases he : s.pEmptyListEnd with
  | none => rfl
  | some e =>
    by_cases hb : s.mem.InBounds e
    · have hb' : (s.mem.set e fun nd => { nd with pNext := none }).InBounds e := hb
      rw [QueueMem.modify_some hb]
      simp [QueueMem.load_some hb', QueueMem.next_set, QueueMem.modify]
    · simp [QueueMem.modify, hb]

/-- The live nodes are linked in behind the empty ones, and all of them are empty ones. -/
theorem Clean.clear (h : Clean s q L F) (hok : s.pEmptyListHead = none ∨ s.pListHead ≠ none) :
    ∃ s', CXQueueData.clear s = some s' ∧ Clean s' [] [] (F ++ L) ∧ SameBlocks s s' := by
  have hcount : s.dwNumberOfEmptyNodes + s.dwNumberOfUsingNodes = UInt32.ofNat (F ++ L).length := by
    rw [h.free, h.count, List.length_append, h.length_live, UInt32.ofNat_add]
  have hlive : Linked s.mem.next s.pListHead L := by simpa using h.live
  have hnd : (L ++ F).Nodup := by simpa using h.nodup
  have hbounds : ∀ p ∈ L ++ F, s.mem.InBounds p := by simpa using h.inBounds
  have htwo : 2 ≤ (F ++ L).length := by
    have := h.two
    simp only [List.append_nil, List.length_append] at this ⊢
    omega
  have hnd' : (F ++ L).Nodup := List.nodup_append_comm.mp hnd
  have hbounds' : ∀ p ∈ F ++ L, s.mem.InBounds p := fun p hp =>
    hbounds p (List.mem_append.mpr (List.mem_append.mp hp).symm)
  have hne : F ++ L ≠ [] := List.ne_nil_of_length_pos (by omega)
  cases F with
  | nil =>
    have he : s.pEmptyListHead = none := h.empty
    unfold CXQueueData.clear
    simp only [he, Option.bind_eq_bind, Option.bind_some]
    refine ⟨_, rfl, h.of_rep [] L { h with
      live := rfl, listEnd := rfl, empty := hlive, emptyEnd := h.listEnd, parked := fun _ => rfl
      drained := fun _ => hne, nodup := hnd', inBounds := hbounds', two := htwo, data := rfl, count := rfl }
      ⟨rfl, rfl, rfl⟩ (by simp) hcount, ⟨rfl, rfl, rfl⟩⟩
  | cons f F =>
    have hhead : s.pEmptyListHead = some f := h.empty.1
    obtain ⟨x, L, rfl⟩ : ∃ x L', L = x :: L' := by
      refine List.exists_cons_of_ne_nil fun hL => ?_
      rcases hok with he | hl
      · rw [hhead] at he
        cases he
      · rw [hL] at hlive
        exact hl hlive
    obtain ⟨R, e, hR⟩ : ∃ R e, f :: F = R ++ [e] := ⟨_, _, (List.dropLast_append_getLast (by simp)).symm⟩
    rw [hR] at hnd hbounds htwo hnd' hbounds' hne hcount ⊢
    have hend : s.pEmptyListEnd = some e := by
      rw [h.emptyEnd, hR, ← List.append_assoc, List.getLast?_concat]
    have he : s.mem.InBounds e := hbounds e (by simp)
    have hx : s.mem.InBounds x := hbounds x (by simp)
    have heL : e ∉ x :: L := fun hm => (List.nodup_append.mp hnd).2.2 e hm e (by simp) rfl
    have hchain : Linked (Function.update s.mem.next e (some x)) s.pEmptyListHead (R ++ e :: (x :: L)) := by
      have hempty := h.empty
      rw [hR] at hempty
      exact hempty.splice (hlive.1 ▸ hlive) heL
    unfold CXQueueData.clear
    simp only [hhead, hend, hlive.1, Option.bind_eq_bind, QueueMem.modify_some he, Option.bind_some]
    rw [QueueMem.load_some (by exact he)]
    have hnext : ((s.mem.set e fun nd => { nd with pNext := some x }).node e).pNext = some x := by
      simp [QueueMem.set]
    simp only [Option.bind_some, hnext]
    rw [QueueMem.modify_some (by exact hx)]
    simp only [Option.bind_some]
    refine ⟨_, rfl, h.of_rep [] (R ++ [e] ++ x :: L) { h with
      live := rfl, listEnd := rfl, empty := ?_, emptyEnd := ?_, parked := fun _ => rfl, drained := fun _ => hne
      nodup := hnd', inBounds := hbounds', two := htwo, data := rfl, count := rfl } ⟨rfl, rfl, rfl⟩ ?_ hcount,
      ⟨rfl, rfl, rfl⟩⟩
    · rw [hhead] at hchain
      simpa [QueueMem.next_set] using hchain
    · obtain ⟨y, hy⟩ : ∃ y, (x :: L).getLast? = some y := ⟨_, List.getLast?_eq_some_getLast (by simp)⟩
      rw [h.listEnd, List.nil_append, List.nil_append, List.getLast?_append, hy]
      rfl
    · rw [List.nil_append, hR]
      exact List.perm_append_comm

/-! ### The queue as its users see it -/

/-- The queue stands for the list `q`: no block was ever allocated, or none of its nodes is lost. -/
def Holds (s : CXQueueData δ) (q : List (Option δ)) : Prop := Fresh s ∧ q = [] ∨ ∃ L F, Clean s q L F

/-- All blocks but the last are full of live nodes. -/
def Packed (s : CXQueueData δ) : Prop :=
  2 ≤ s.dwNumberOfBlocks.toNat →
    (s.dwNumberOfBlocks.toNat - 1) * s.dwInitSize.toNat < s.dwNumberOfUsingNodes.toNat

/-- Each node of each block is on the empty list, once, and the end pointer is the last of them. -/
structure AllFree (s : CXQueueData δ) : Prop where
  listHead : s.pListHead = none
  listEnd : s.pListEnd = none
  empty : ∃ F, Linked s.mem.next s.pEmptyListHead F ∧ s.pEmptyListEnd = F.getLast? ∧ F.Nodup ∧
    ∀ p, p ∈ F ↔ p.block < s.mem.size.length ∧ p.idx < s.dwInitSize.toNat

theorem fresh_construct : Fresh (construct : CXQueueData δ) := ⟨10240, rfl⟩

namespace Fresh

theorem holds (h : Fresh s) : Holds s [] := Or.inl ⟨h, rfl⟩

theorem bInited (h : Fresh s) : s.bInited = false := by
  obtain ⟨n, rfl⟩ := h
  rfl

theorem blocks (h : Fresh s) : s.dwNumberOfBlocks = 0 := by
  obtain ⟨n, rfl⟩ := h
  rfl

theorem packed (h : Fresh s) : Packed s := fun hb => by
  rw [h.blocks] at hb
  exact absurd hb (by decide)

theorem clear (h : Fresh s) : CXQueueData.clear s = some s := by
  obtain ⟨n, rfl⟩ := h
  rfl

theorem popFront (h : Fresh s) : CXQueueData.popFront s = some (s, none) := by
  obtain ⟨n, rfl⟩ := h
  rfl

theorem destroy (h : Fresh s) : CXQueueData.destroy s = s := by
  unfold CXQueueData.destroy
  rw [h.bInited]
  rfl

/-- A first block is allocated, or the queue stays as it is but for the size of its blocks. -/
theorem init (h : Fresh s) (newOk : Bool) {n : UInt32} (hn : 2 ≤ n.toNat)
    (hsize : bufferSize n < 0 ∨ SizeOk n) :
    ∃ s' r, CXQueueData.init newOk n s = some (s', r) ∧
      (r = -1 ∧ (newOk = false ∨ bufferSize n < 0) ∧ Fresh s' ∨
        r = 0 ∧ ∃ F, Clean s' [] [] F ∧ s'.dwNumberOfBlocks = 1) := by
  obtain ⟨k, rfl⟩ := h
  by_cases hfail : newOk = false ∨ bufferSize n < 0
  · refine ⟨{ construct with dwInitSize := n }, -1, ?_, Or.inl ⟨rfl, hfail, n, rfl⟩⟩
    unfold CXQueueData.init allocateMemoryBlock
    simp [construct, hfail]
  · simp only [not_or, Bool.not_eq_false] at hfail
    obtain ⟨hnew, hneg⟩ := hfail
    subst hnew
    have hok := hsize.resolve_left hneg
    obtain ⟨j, hj⟩ : ∃ j, n.toNat = j + 2 := ⟨_, (Nat.sub_add_cancel hn).symm⟩
    obtain ⟨s', r, hrun, ⟨-, hneg', -⟩ | ⟨rfl, F, hr⟩⟩ := init_spec (s := { construct with dwInitSize := k })
      (δ := δ) ⟨k, rfl⟩ hn hsize
    · exact absurd hneg' hneg
    · obtain ⟨s₀, hrun₀, hs₀, -, -, hlink⟩ := allocateMemoryBlock_spec (δ := δ)
        (s := { construct with dwInitSize := n }) hj hok rfl
      obtain ⟨hlen, hinit, hblocks, hfree⟩ := counts_allocateMemoryBlock hrun₀
      have hs' : s' = { s₀ with bInited := true } := by
        unfold CXQueueData.init at hrun
        simp only [construct, Bool.false_eq_true, if_false, Option.bind_eq_bind] at hrun hrun₀
        rw [hrun₀] at hrun
        simpa using hrun.symm
      subst hs'
      -- the empty list is the block
      have hF : F = blockNodes 0 0 (j + 2) := by
        have hempty := hr.empty
        rw [show s₀.pEmptyListHead = some ⟨0, 0⟩ by rw [hs₀]; rfl] at hempty
        exact hempty.unique hlink
      have hlen' : s₀.mem.size.length = 1 := hlen
      have hinit' : s₀.dwInitSize = n := hinit
      refine ⟨_, 0, hrun, Or.inr ⟨rfl, F, ⟨hr, fun p => ?_, ?_, ?_, ?_, ?_⟩, ?_⟩⟩
      · show p ∈ [] ++ F ↔ p.block < s₀.mem.size.length ∧ p.idx < s₀.dwInitSize.toNat
        rw [List.nil_append, hF, mem_blockNodes, hlen', hinit', hj]
        omega
      · show ([] ++ F).length = s₀.mem.size.length * s₀.dwInitSize.toNat
        rw [hlen', hinit', hj, hF]
        simp [blockNodes]
      · show s₀.mem.size.length * s₀.dwInitSize.toNat < 2 ^ 32
        rw [hlen', hinit', one_mul]
        exact n.toNat_lt
      · show s₀.dwNumberOfBlocks = UInt32.ofNat s₀.mem.size.length
        rw [hblocks, hlen']
        rfl
      · show s₀.dwNumberOfEmptyNodes = UInt32.ofNat F.length
        rw [hfree, hF]
        simp [blockNodes, construct, ← hj]
      · exact hblocks

end Fresh

namespace Holds

theorem toNat_using (h : Holds s q) : s.dwNumberOfUsingNodes.toNat = q.length := by
  rcases h with ⟨⟨n, rfl⟩, rfl⟩ | ⟨L, F, h⟩
  · rfl
  · exact h.toNat_using

theorem using_eq_zero (h : Holds s q) : s.dwNumberOfUsingNodes = 0 ↔ q = [] := by
  rw [← UInt32.toNat_inj, h.toNat_using]
  exact List.length_eq_zero_iff

theorem listHead (h : Holds s q) : s.pListHead = none ↔ q = [] := by
  rcases h with ⟨⟨n, rfl⟩, rfl⟩ | ⟨L, F, h⟩
  · exact Iff.intro (fun _ => rfl) fun _ => rfl
  · exact h.listHead

theorem emptyHead (h : Holds s q) : s.pEmptyListHead = none ↔ s.dwNumberOfEmptyNodes.toNat = 0 := by
  rcases h with ⟨⟨n, rfl⟩, rfl⟩ | ⟨L, F, h⟩
  · exact Iff.intro (fun _ => rfl) fun _ => rfl
  · rw [h.emptyHead, h.toNat_empty]
    exact List.length_eq_zero_iff.symm

theorem nodes (h : Holds s q) :
    q.length + s.dwNumberOfEmptyNodes.toNat = s.dwNumberOfBlocks.toNat * s.dwInitSize.toNat := by
  rcases h with ⟨⟨n, rfl⟩, rfl⟩ | ⟨L, F, h⟩
  · exact (Nat.zero_mul n.toNat).symm
  · rw [h.toNat_empty, h.toNat_blocks, ← h.total, List.length_append, h.length_live]

theorem two_le_initSize (h : Holds s q) (hb : 1 ≤ s.dwNumberOfBlocks.toNat) : 2 ≤ s.dwInitSize.toNat := by
  rcases h with ⟨⟨n, rfl⟩, rfl⟩ | ⟨L, F, h⟩
  · exact absurd hb (Nat.not_succ_le_zero 0)
  · exact h.initSize

theorem ten (h : Holds s q) (hp : Packed s) (hb : 10 ≤ s.dwNumberOfBlocks.toNat) : 10 ≤ q.length := by
  have hlt := hp (by omega)
  have hle : 9 * 2 ≤ (s.dwNumberOfBlocks.toNat - 1) * s.dwInitSize.toNat :=
    Nat.mul_le_mul (by omega) (h.two_le_initSize (by omega))
  rw [h.toNat_using] at hlt
  omega

theorem allFree (h : Holds s []) : AllFree s := by
  rcases h with ⟨⟨n, rfl⟩, -⟩ | ⟨L, F, h⟩
  · exact ⟨rfl, rfl, [], rfl, rfl, List.nodup_nil, fun p => by simp [construct]⟩
  · have hL : L = [] := List.length_eq_zero_iff.mp h.length_live
    subst hL
    exact ⟨h.live, h.listEnd, F, h.empty, h.emptyEnd, by simpa using h.nodup, h.cover⟩

theorem front (h : Holds s []) : CXQueueData.front s = some none := by
  unfold CXQueueData.front
  rw [h.listHead.mpr rfl]

theorem destroy (h : Holds s q) : Fresh s.destroy := by
  rcases h with ⟨h, -⟩ | ⟨L, F, h⟩
  · rw [h.destroy]
    exact h
  · unfold CXQueueData.destroy
    rw [if_pos h.inited]
    exact fresh_construct

theorem clear (h : Holds s q) (hok : s.pEmptyListHead = none ∨ s.pListHead ≠ none) :
    ∃ s', CXQueueData.clear s = some s' ∧ Holds s' [] ∧ s'.dwNumberOfBlocks = s.dwNumberOfBlocks ∧
      (Fresh s → Fresh s') := by
  rcases h with ⟨h, -⟩ | ⟨L, F, h⟩
  · exact ⟨s, h.clear, h.holds, rfl, id⟩
  · obtain ⟨s', hrun, hc, hsame⟩ := h.clear hok
    refine ⟨s', hrun, Or.inr ⟨_, _, hc⟩, hsame.dwNumberOfBlocks, fun hf => ?_⟩
    exact absurd (h.inited.symm.trans hf.bInited) (by decide)

/-- The first element is taken, unless a node would be freed while the empty list is `NULL`. -/
theorem popFront (h : Holds s q) (hok : s.pListHead = none ∨ s.pEmptyListHead ≠ none) :
    ∃ s', CXQueueData.popFront s = some (s', q.head?.join) ∧ Holds s' q.tail ∧
      s'.dwNumberOfBlocks = s.dwNumberOfBlocks ∧ (s.pEmptyListHead ≠ none → s'.pEmptyListHead ≠ none) ∧
      (Fresh s → Fresh s') := by
  rcases h with ⟨h, rfl⟩ | ⟨L, F, h⟩
  · exact ⟨s, h.popFront, h.holds, rfl, id, id⟩
  · cases q with
    | nil =>
      have hhead := h.listHead.mpr rfl
      refine ⟨s, ?_, Or.inr ⟨L, F, h⟩, rfl, id, id⟩
      unfold CXQueueData.popFront
      rw [hhead]
      rfl
    | cons d q =>
      have hF : F ≠ [] := fun hF => hok.elim (fun hl => absurd (h.listHead.mp hl) (by simp))
        fun he => he (h.emptyHead.mpr hF)
      obtain ⟨x, L, rfl⟩ : ∃ x L', L = x :: L' :=
        List.exists_cons_of_ne_nil fun hL => absurd h.length_live (by simp [hL])
      obtain ⟨s', hrun, hc, hsame⟩ := h.popFront hF
      refine ⟨s', hrun, Or.inr ⟨_, _, hc⟩, hsame.dwNumberOfBlocks, fun _ he => ?_, fun hf => ?_⟩
      · exact absurd (hc.emptyHead.mp he) (by simp)
      · exact absurd (h.inited.symm.trans hf.bInited) (by decide)

end Holds

/-- What comes out of a `Push`: the element is at the end of the list, or there was no memory for a block. -/
inductive Pushed (s : CXQueueData δ) (q : List (Option δ)) (newOk : Bool) (d : Option δ) :
    CXQueueData δ × Bool → Prop
  | pushed {s' : CXQueueData δ} (h : Holds s' (q ++ [d])) (hp : Packed s → Packed s') :
    Pushed s q newOk d (s', true)
  | refused {s' : CXQueueData δ} (hnew : newOk = false) (h : Holds s' q)
    (hb : s'.dwNumberOfBlocks = s.dwNumberOfBlocks) (hp : Packed s → Packed s') (hf : Fresh s → Fresh s') :
    Pushed s q newOk d (s', false)

theorem Packed.of_same {d : Option δ} {L' F' : List NodePtr} (hp : Packed s) (h : Clean s q L F)
    (h' : Clean s' (q ++ [d]) L' F') (hsame : SameBlocks s s') : Packed s' := by
  intro hb
  rw [hsame.dwNumberOfBlocks] at hb ⊢
  have hlt := hp hb
  rw [hsame.dwInitSize, h'.toNat_using, List.length_append, List.length_singleton]
  rw [h.toNat_using] at hlt
  omega

theorem Clean.push (h : Clean s q L F) (newOk : Bool) (d : Option δ)
    (hroom : s.pEmptyListHead = none → (s.dwNumberOfBlocks.toNat + 1) * s.dwInitSize.toNat < 2 ^ 32) :
    ∃ r, CXQueueData.push newOk d s = some r ∧ Pushed s q newOk d r := by
  cases F with
  | cons p F =>
    obtain ⟨s', hrun, hc, hsame⟩ := h.push_free newOk d
    exact ⟨_, hrun, .pushed (Or.inr ⟨_, _, hc⟩) fun hp => hp.of_same h hc hsame⟩
  | nil =>
    cases newOk with
    | false =>
      refine ⟨_, h.push_refused d, .refused rfl (Or.inr ⟨_, _, h⟩) rfl id fun hf => ?_⟩
      exact absurd (h.inited.symm.trans hf.bInited) (by decide)
    | true =>
      have hlt := hroom (h.emptyHead.mpr rfl)
      rw [h.toNat_blocks] at hlt
      obtain ⟨s', p, F', hrun, hc, hlen, hinit⟩ := h.push_full d hlt
      refine ⟨_, hrun, .pushed (Or.inr ⟨_, _, hc⟩) fun _ _ => ?_⟩
      -- the blocks that were there are full
      have htotal := h.total
      rw [List.append_nil, h.length_live] at htotal
      rw [hc.toNat_blocks, hlen, hinit, hc.toNat_using, Nat.add_sub_cancel, ← htotal, List.length_append,
        List.length_singleton]
      omega

theorem sizeOk_10240 : SizeOk 10240 := by
  show bufferSize 10240 = 24 * (10240 : UInt32).toNat + 16
  decide +kernel

theorem Holds.push (h : Holds s q) (newOk : Bool) (d : Option δ)
    (hroom : s.bInited = true → s.pEmptyListHead = none →
      (s.dwNumberOfBlocks.toNat + 1) * s.dwInitSize.toNat < 2 ^ 32) :
    ∃ r, CXQueueData.push newOk d s = some r ∧ Pushed s q newOk d r := by
  rcases h with ⟨h, rfl⟩ | ⟨L, F, h⟩
  · obtain ⟨s₁, r, hrun, ⟨rfl, hfail, hf⟩ | ⟨rfl, F, hc, hblocks⟩⟩ :=
      h.init newOk (n := 10240) (by decide) (Or.inr sizeOk_10240)
    · have hnew : newOk = false := hfail.resolve_right fun hneg => by
        rw [sizeOk_10240] at hneg
        omega
      have hblocks := hf.blocks.trans h.blocks.symm
      refine ⟨(s₁, false), ?_, .refused hnew hf.holds hblocks (fun _ => hf.packed) fun _ => hf⟩
      unfold CXQueueData.push
      simp [h.bInited, hrun]
    · have hF : F ≠ [] := hc.drained rfl
      obtain ⟨p, F, rfl⟩ := List.exists_cons_of_ne_nil hF
      obtain ⟨s', hrun', hc', hsame⟩ := hc.push_free newOk d
      refine ⟨(s', true), ?_, .pushed (Or.inr ⟨_, _, hc'⟩) fun _ hb => ?_⟩
      · have hpush : CXQueueData.push newOk d s = CXQueueData.push newOk d s₁ := by
          unfold CXQueueData.push
          simp [h.bInited, hrun, hc.inited]
        exact hpush.trans hrun'
      · rw [hsame.dwNumberOfBlocks, hblocks] at hb
        exact absurd hb (by decide)
  · exact h.push newOk d (hroom h.inited)

end CXQueueData

end KonsanNet
