import KonsanNet.QueueData

/-!
# `CXQueueData` as a FIFO queue

The nodes of the queue are `L ++ P ++ F`: `L` the live ones, `F` the empty ones, and `P` nodes that
were freed while the empty list was `NULL`: `FreeNode` then links a node behind `m_pEmptyListEnd`,
which is still the last node of the live chain, and `m_pEmptyListHead` stays `NULL`. The chain from
`m_pListHead` is `L ++ P`, and `m_pListEnd` is the last node of `L`. As long as the last live node is
not popped with `P` in that place, no operation sees `P`, and the next block drops it.
-/

namespace KonsanNet

variable {δ : Type}

namespace QueueMem

variable {m : QueueMem δ} {p q : NodePtr} {f : CxListNode δ → CxListNode δ}

@[simp] theorem load_none : m.load none = none := rfl

theorem load_some (h : m.InBounds p) : m.load (some p) = some (m.node p) := if_pos h

theorem modify_some (h : m.InBounds p) : m.modify (some p) f = some (m.set p f) := if_pos h

@[simp] theorem size_set : (m.set p f).size = m.size := rfl

@[simp] theorem inBounds_set : (m.set p f).InBounds q ↔ m.InBounds q := Iff.rfl

theorem next_set : (m.set p f).next = Function.update m.next p (f (m.node p)).pNext := by
  funext q
  by_cases h : q = p
  · subst h; simp [set, next]
  · simp [set, next, h]

theorem data_set : (m.set p f).data = Function.update m.data p (f (m.node p)).pData := by
  funext q
  by_cases h : q = p
  · subst h; simp [set, data]
  · simp [set, data, h]

@[simp] theorem node_pNext : (m.node p).pNext = m.next p := rfl

@[simp] theorem node_pData : (m.node p).pData = m.data p := rfl

theorem InBounds.congr {m' : QueueMem δ} (hs : m'.size = m.size) (h : m.InBounds p) :
    m'.InBounds p := by
  unfold InBounds at h ⊢
  rw [hs]; exact h

theorem InBounds.block_lt (h : m.InBounds p) : p.block < m.size.length := by
  by_contra hb
  unfold InBounds at h
  rw [List.getD_eq_getElem?_getD, List.getElem?_eq_none (by omega)] at h
  simp at h

end QueueMem

namespace CXQueueData

/-- The nodes `i, …, i + k - 1` of block `b`. -/
def blockNodes (b i k : Nat) : List NodePtr := (List.range' i k).map (NodePtr.mk b)

theorem mem_blockNodes {b i k : Nat} {p : NodePtr} :
    p ∈ blockNodes b i k ↔ p.block = b ∧ i ≤ p.idx ∧ p.idx < i + k := by
  constructor
  · intro h
    obtain ⟨j, hj, rfl⟩ := List.mem_map.mp h
    have := List.mem_range'_1.mp hj
    exact ⟨rfl, this.1, this.2⟩
  · rintro ⟨rfl, h₁, h₂⟩
    exact List.mem_map.mpr ⟨p.idx, List.mem_range'_1.mpr ⟨h₁, by omega⟩, rfl⟩

theorem nodup_blockNodes (b i k : Nat) : (blockNodes b i k).Nodup :=
  (List.nodup_range' 1).map fun _ _ h => by cases h; rfl

theorem blockNodes_succ (b i k : Nat) : blockNodes b i (k + 1) = ⟨b, i⟩ :: blockNodes b (i + 1) k := rfl

theorem getLast?_blockNodes (b i k : Nat) : (blockNodes b i (k + 1)).getLast? = some ⟨b, i + k⟩ := by
  simp [blockNodes, List.range'_concat]

theorem linked_blockNodes {next : NodePtr → Option NodePtr} {b : Nat} :
    ∀ {k i : Nat}, (∀ j, i ≤ j → j < i + k → next ⟨b, j⟩ = some ⟨b, j + 1⟩) →
      next ⟨b, i + k⟩ = none → Linked next (some ⟨b, i⟩) (blockNodes b i (k + 1))
  | 0, i, _, hn => ⟨rfl, hn⟩
  | k + 1, i, h, hn => by
    refine ⟨rfl, ?_⟩
    rw [h i (by omega) (by omega)]
    exact linked_blockNodes (fun j hj hjk => h j (by omega) (by omega))
      (by rw [show i + 1 + k = i + (k + 1) by omega]; exact hn)

/-- The linking loop chains the nodes it visits and touches no other node. -/
theorem linkNodes_spec {b n : Nat} (m : QueueMem δ) (i : Nat) (prev : NodePtr) (hi : i < n)
    (hb : ∀ j, j < n → m.InBounds ⟨b, j⟩) :
    ∃ m' prev', linkNodes b n m i prev = some (m', prev', ⟨b, n - 1⟩) ∧ m'.size = m.size ∧
      (∀ p : NodePtr, p.block ≠ b ∨ p.idx < i → m'.node p = m.node p) ∧
      ∀ j, i ≤ j → j + 1 < n → m'.next ⟨b, j⟩ = some ⟨b, j + 1⟩ := by
  induction hk : n - i generalizing m i prev with
  | zero => omega
  | succ k ih =>
    unfold linkNodes
    by_cases hlt : i + 1 < n
    · rw [if_pos hlt, QueueMem.modify_some (hb i hi)]
      obtain ⟨m', prev', hrun, hs, hf, hl⟩ := ih
        (m.set ⟨b, i⟩ fun nd => { nd with pNext := some ⟨b, i + 1⟩, pPrev := some prev }) (i + 1) ⟨b, i⟩
        hlt hb (by omega)
      refine ⟨m', prev', hrun, hs, fun p hp => ?_, fun j hj hjn => ?_⟩
      · rw [hf p (by omega)]
        have hne : p ≠ ⟨b, i⟩ := by
          rintro rfl
          simp at hp
        simp [QueueMem.set, hne]
      · rcases Nat.eq_or_lt_of_le hj with rfl | hj
        · have := hf ⟨b, i⟩ (Or.inr (by simp))
          simp [QueueMem.next, this, QueueMem.set]
        · exact hl j hj hjn
    · rw [if_neg hlt]
      have hin : i = n - 1 := by omega
      exact ⟨m, prev, by rw [← hin], rfl, fun _ _ => rfl, fun j _ _ => by omega⟩

variable {s : CXQueueData δ}

/-- A block for `n` nodes is neither cut off nor refused. -/
def SizeOk (n : UInt32) : Prop := bufferSize n = 24 * n.toNat + 16

/-- A new block, allocated while there is no empty node: its nodes are the empty list. -/
theorem allocateMemoryBlock_spec {n : Nat} (hn : s.dwInitSize.toNat = n + 2) (hok : SizeOk s.dwInitSize)
    (he : s.pEmptyListHead = none) :
    ∃ s', allocateMemoryBlock true s = some (s', 0) ∧
      s' = { s with
        mem := s'.mem
        plstBlocksHead := s'.plstBlocksHead
        plstBlocksEnd := s'.plstBlocksEnd
        dwNumberOfBlocks := s'.dwNumberOfBlocks
        dwNumberOfEmptyNodes := s'.dwNumberOfEmptyNodes
        pEmptyListHead := some ⟨s.mem.size.length, 0⟩
        pEmptyListEnd := some ⟨s.mem.size.length, n + 1⟩ } ∧
      (∀ p, s.mem.InBounds p → s'.mem.InBounds p ∧ s'.mem.node p = s.mem.node p) ∧
      (∀ p ∈ blockNodes s.mem.size.length 0 (n + 2), s'.mem.InBounds p) ∧
      Linked s'.mem.next (some ⟨s.mem.size.length, 0⟩) (blockNodes s.mem.size.length 0 (n + 2)) := by
  have hpos : ¬ (bufferSize s.dwInitSize < 0) := by rw [hok]; omega
  simp only [allocateMemoryBlock, he, hpos, hn]
  set b := s.mem.size.length with hbdef
  generalize hm₀ : ({ size := s.mem.size ++ [(bufferSize s.dwInitSize).toNat], header := _, node := _ } :
    QueueMem δ) = m₀
  have hsize : m₀.size = s.mem.size ++ [24 * (n + 2) + 16] := by
    rw [← hm₀, hok, hn]
    simp
    omega
  have hold : ∀ p : NodePtr, p.block ≠ b → m₀.node p = s.mem.node p := by
    intro p hp
    rw [← hm₀]; simp [hp]
  have hb : ∀ j, j < n + 2 → m₀.InBounds ⟨b, j⟩ := by
    intro j hj
    simp only [QueueMem.InBounds, hsize, hbdef, List.getD_eq_getElem?_getD]
    simp
    omega
  rw [QueueMem.modify_some (hb 0 (by omega))]
  set m₁ := m₀.set ⟨b, 0⟩ fun nd => { nd with pPrev := none, pNext := some ⟨b, 1⟩ }
  obtain ⟨m₂, prev', hrun, hs₂, hf₂, hl₂⟩ := linkNodes_spec m₁ 1 ⟨b, 0⟩ (n := n + 2) (by omega) hb
  have hb₂ : ∀ j, j < n + 2 → m₂.InBounds ⟨b, j⟩ := fun j hj => (hb j hj).congr hs₂
  have hend : m₂.modify (some ⟨b, n + 2 - 1⟩) (fun nd => { nd with pNext := none, pPrev := some prev' })
      = some (m₂.set ⟨b, n + 1⟩ fun nd => { nd with pNext := none, pPrev := some prev' }) :=
    QueueMem.modify_some (hb₂ (n + 1) (by omega))
  simp only [Option.bind_eq_bind, Option.bind_some, hrun, hend, Bool.not_true, Bool.false_eq_true,
    or_self, if_false]
  refine ⟨_, rfl, rfl, fun p hp => ?_, fun p hp => ?_, ?_⟩
  · have hblock := hp.block_lt
    have hne : p.block ≠ b := by omega
    have hpe : p ≠ ⟨b, n + 1⟩ := fun h => hne (by rw [h])
    have hp0 : p ≠ ⟨b, 0⟩ := fun h => hne (by rw [h])
    constructor
    · simp only [QueueMem.InBounds, QueueMem.size_set, hs₂, m₁, hsize, List.getD_eq_getElem?_getD,
        List.getElem?_append_left hblock]
      simpa only [QueueMem.InBounds, List.getD_eq_getElem?_getD] using hp
    · simp only [QueueMem.set, Function.update_of_ne hpe]
      rw [hf₂ p (Or.inl hne)]
      simp only [m₁, QueueMem.set, Function.update_of_ne hp0, hold p hne]
  · obtain ⟨hpb, -, hlt⟩ := mem_blockNodes.mp hp
    have hbp := hb₂ p.idx (by omega)
    rw [← hpb] at hbp
    exact hbp
  · refine linked_blockNodes (fun j _ hj => ?_) ?_
    · rw [QueueMem.next_set, Function.update_of_ne (by simp; omega)]
      rcases Nat.eq_zero_or_pos j with rfl | hj0
      · have := hf₂ ⟨b, 0⟩ (Or.inr (by simp))
        simp [QueueMem.next, this, m₁, QueueMem.set]
      · exact hl₂ j hj0 (by omega)
    · rw [QueueMem.next_set]; simp

/-! ### The invariant -/

/-- The queue `s` holds the list `q`, in the live nodes `L`; `P` and `F` as in the header above. -/
structure Rep (s : CXQueueData δ) (q : List (Option δ)) (L P F : List NodePtr) : Prop where
  inited : s.bInited = true
  initSize : 2 ≤ s.dwInitSize.toNat
  sizeOk : SizeOk s.dwInitSize
  live : Linked s.mem.next s.pListHead (L ++ P)
  listEnd : s.pListEnd = L.getLast?
  empty : Linked s.mem.next s.pEmptyListHead F
  emptyEnd : s.pEmptyListEnd = (L ++ P ++ F).getLast?
  parked : F ≠ [] → P = []
  drained : L = [] → F ≠ []
  nodup : (L ++ P ++ F).Nodup
  inBounds : ∀ p ∈ L ++ P ++ F, s.mem.InBounds p
  two : 2 ≤ (L ++ P ++ F).length
  data : L.map s.mem.data = q
  count : s.dwNumberOfUsingNodes = UInt32.ofNat q.length

/-- A queue whose empty node `p` is being taken: `F` is what is left of the empty list. -/
structure Split (s : CXQueueData δ) (q : List (Option δ)) (L P : List NodePtr) (p : NodePtr)
    (F : List NodePtr) : Prop where
  inited : s.bInited = true
  initSize : 2 ≤ s.dwInitSize.toNat
  sizeOk : SizeOk s.dwInitSize
  live : Linked s.mem.next s.pListHead (L ++ P)
  listEnd : s.pListEnd = L.getLast?
  emptyEnd : s.pEmptyListEnd = (L ++ p :: F).getLast?
  notMem : p ∉ L ++ P
  drained : L = [] → P = []
  nodup : (L ++ p :: F).Nodup
  inBounds : ∀ r ∈ L ++ p :: F, s.mem.InBounds r
  two : 2 ≤ (L ++ p :: F).length
  data : L.map s.mem.data = q
  count : s.dwNumberOfUsingNodes = UInt32.ofNat q.length

/-- Before: `p` is the head of the empty list. -/
structure Ready (s : CXQueueData δ) (q : List (Option δ)) (L P : List NodePtr) (p : NodePtr)
    (F : List NodePtr) : Prop extends Split s q L P p F where
  empty : Linked s.mem.next s.pEmptyListHead (p :: F)

/-- After: `p` belongs to no list. -/
structure Taken (s : CXQueueData δ) (q : List (Option δ)) (L P : List NodePtr) (p : NodePtr)
    (F : List NodePtr) : Prop extends Split s q L P p F where
  empty : Linked s.mem.next s.pEmptyListHead F
  next_taken : s.mem.next p = none

theorem takeEmpty_spec {p : NodePtr} {F : List NodePtr} (he : s.pEmptyListHead = some p)
    (hl : Linked s.mem.next (some p) (p :: F)) (hb : ∀ r ∈ p :: F, s.mem.InBounds r) :
    ∃ m, takeEmpty s = some ({ s with mem := m, pEmptyListHead := F.head? }, some p) ∧
      m.size = s.mem.size ∧ m.next = s.mem.next ∧ m.data = s.mem.data := by
  have hp := hb p (List.mem_cons_self ..)
  have hF := hl.2
  unfold takeEmpty
  simp only [he, QueueMem.load_some hp, Option.bind_eq_bind, Option.bind_some, QueueMem.node_pNext]
  cases F with
  | nil =>
    rw [Linked.nil_iff.mp hF]
    exact ⟨s.mem, rfl, rfl, rfl, rfl⟩
  | cons r F =>
    rw [hF.1]
    simp only [QueueMem.modify_some (hb r (by simp)), Option.bind_some]
    exact ⟨_, rfl, rfl, by simp [QueueMem.next_set], by simp [QueueMem.data_set]⟩

theorem clearNode_spec {p : NodePtr} (hp : s.mem.InBounds p) :
    clearNode s (some p) = some ({ s with
      mem := s.mem.set p fun _ => ⟨none, none, none⟩
      dwNumberOfEmptyNodes := s.dwNumberOfEmptyNodes - 1 }, some p) := by
  simp [clearNode, QueueMem.modify_some hp]

theorem Ready.take {q : List (Option δ)} {L P F : List NodePtr} {p : NodePtr}
    (h : Ready s q L P p F) :
    ∃ s₁ s', takeEmpty s = some (s₁, some p) ∧ s₁.pEmptyListHead = F.head? ∧
      clearNode s₁ (some p) = some (s', some p) ∧ Taken s' q L P p F := by
  have hpF : p ∉ F := (List.nodup_cons.mp (List.nodup_append.mp h.nodup).2.1).1
  have he := h.empty.1
  obtain ⟨m, hrun, hs, hn, hd⟩ := takeEmpty_spec he (he ▸ h.empty) fun r hr =>
    h.inBounds r (List.mem_append_right _ hr)
  have hp : m.InBounds p := (h.inBounds p (by simp)).congr hs
  refine ⟨_, _, hrun, rfl, clearNode_spec hp, { h with
    live := ?_, inBounds := fun r hr => (h.inBounds r hr).congr hs, data := ?_, empty := ?_,
    next_taken := ?_ }⟩
  · rw [QueueMem.next_set, hn]
    exact h.live.update_of_notMem h.notMem _
  · rw [QueueMem.data_set, hd, ← h.data]
    refine List.map_congr_left fun r hr => Function.update_of_ne (fun e => h.notMem ?_) _ _
    rw [← e]; exact List.mem_append_left _ hr
  · rw [QueueMem.next_set, hn]
    have hF := h.empty.2
    rw [← hF.head?_eq] at hF
    exact hF.update_of_notMem hpF _
  · rw [QueueMem.next_set]; simp

theorem Rep.ready {q : List (Option δ)} {L P F : List NodePtr} {p : NodePtr}
    (h : Rep s q L P (p :: F)) : P = [] ∧ Ready s q L [] p F := by
  have hP : P = [] := h.parked (by simp)
  subst hP
  have hnd := h.nodup
  simp only [List.append_nil] at hnd
  refine ⟨rfl, { h with
    emptyEnd := by simpa using h.emptyEnd, notMem := ?_, drained := fun _ => rfl, nodup := hnd,
    inBounds := by simpa using h.inBounds, two := by simpa using h.two }⟩
  simp only [List.append_nil]
  exact fun hp => (List.nodup_append.mp hnd).2.2 p hp p (by simp) rfl

/-- Without an empty node a new block is allocated; the nodes `P` stay behind. -/
theorem Rep.ready_of_allocate {q : List (Option δ)} {L P : List NodePtr} (h : Rep s q L P []) :
    ∃ s' p F, allocateMemoryBlock true s = some (s', 0) ∧ F ≠ [] ∧ Ready s' q L P p F := by
  obtain ⟨n, hn⟩ : ∃ n, s.dwInitSize.toNat = n + 2 := ⟨_, (Nat.sub_add_cancel h.initSize).symm⟩
  obtain ⟨s', hrun, hs', hold, hb, hlink⟩ := allocateMemoryBlock_spec hn h.sizeOk h.empty
  set b := s.mem.size.length with hbdef
  have hmem : ∀ r ∈ L ++ P, s.mem.InBounds r := fun r hr => h.inBounds r (by simpa using hr)
  have hfresh : ∀ r ∈ blockNodes b 0 (n + 2), r ∉ L ++ P := fun r hr hm => by
    have := (hmem r hm).block_lt
    have := (mem_blockNodes.mp hr).1
    omega
  have hnode : ∀ r ∈ L ++ P, s'.mem.node r = s.mem.node r := fun r hr => (hold r (hmem r hr)).2
  have hLP : (L ++ P).Nodup := by simpa using h.nodup
  refine ⟨s', ⟨b, 0⟩, blockNodes b 1 (n + 1), hrun, by simp [blockNodes_succ], ?_⟩
  constructor
  · refine ⟨by rw [hs']; exact h.inited, by rw [hs']; exact h.initSize, by rw [hs']; exact h.sizeOk,
      ?_, by rw [hs']; exact h.listEnd, ?_, ?_, fun hL => absurd rfl (h.drained hL), ?_, ?_, ?_, ?_,
      by rw [hs']; exact h.count⟩
    · rw [hs']
      exact h.live.congr fun r hr => by simp only [QueueMem.next, hnode r hr]
    · rw [hs', ← blockNodes_succ, List.getLast?_append, getLast?_blockNodes]
      simp
    · exact hfresh _ (mem_blockNodes.mpr ⟨rfl, by simp, by simp⟩)
    · rw [← blockNodes_succ]
      exact List.nodup_append.mpr ⟨(List.nodup_append.mp hLP).1, nodup_blockNodes _ _ _,
        fun a ha r hr e => hfresh r hr (e ▸ List.mem_append_left _ ha)⟩
    · intro r hr
      rw [← blockNodes_succ] at hr
      rcases List.mem_append.mp hr with hr | hr
      · exact (hold r (hmem r (List.mem_append_left _ hr))).1
      · exact hb r hr
    · simp [blockNodes]
      omega
    · rw [← h.data]
      refine List.map_congr_left fun r hr => ?_
      simp only [QueueMem.data, hnode r (List.mem_append_left _ hr)]
  · rw [hs', ← blockNodes_succ]
    exact hlink

/-- `getNode` takes a node from the empty list, or from a new block. -/
theorem getNode_spec {q : List (Option δ)} {L P F : List NodePtr} (h : Rep s q L P F) :
    ∃ s' p P' F', getNode true s = some (s', some p) ∧ Taken s' q L P' p F' := by
  unfold getNode
  cases F with
  | cons p F =>
    obtain ⟨-, hr⟩ := h.ready
    obtain ⟨s₁, s', hrun₁, -, hrun₂, ht⟩ := hr.take
    refine ⟨s', p, [], F, ?_, ht⟩
    simp [h.inited, hr.empty.1, hrun₁, hrun₂]
  | nil =>
    obtain ⟨s₀, p, F', hrun₀, hF', hr⟩ := h.ready_of_allocate
    obtain ⟨s₁, s', hrun₁, hs₁, hrun₂, ht⟩ := hr.take
    refine ⟨s', p, P, F', ?_, ht⟩
    have he : s.pEmptyListHead = none := h.empty
    have hne : s₁.pEmptyListHead ≠ none := by rw [hs₁]; simpa using hF'
    simp [h.inited, he, hrun₀, hrun₁, hrun₂, hne]

theorem count_push {c : UInt32} {n : Nat} (h : c = UInt32.ofNat n) : c + 1 = UInt32.ofNat (n + 1) := by
  rw [h, UInt32.ofNat_add]; rfl

theorem count_pop {c : UInt32} {n : Nat} (h : c = UInt32.ofNat (n + 1)) : c - 1 = UInt32.ofNat n := by
  rw [h, ← count_push rfl, UInt32.add_sub_cancel]

/-- The taken node becomes the last live one; a chain behind the old last one is cut off. -/
theorem Taken.linkBack {q : List (Option δ)} {L P F : List NodePtr} {p : NodePtr} (h : Taken s q L P p F)
    (d : Option δ) :
    ∃ s', linkBack p d s = some (s', true) ∧ Rep s' (q ++ [d]) (L ++ [p]) [] F := by
  have hp : s.mem.InBounds p := h.inBounds p (by simp)
  have hnd : (L ++ [p] ++ [] ++ F).Nodup := by simpa using h.nodup
  have hcat : L ++ [p] ++ [] ++ F = L ++ p :: F := by simp
  have hpL : p ∉ L := fun hm => h.notMem (List.mem_append_left _ hm)
  have hpF : p ∉ F := (List.nodup_cons.mp (List.nodup_append.mp h.nodup).2.1).1
  have hdata : ∀ m : QueueMem δ, m.data = Function.update s.mem.data p d →
      (L ++ [p]).map m.data = q ++ [d] := fun m hm => by
    rw [List.map_append, hm, ← h.data]
    congr 1
    · exact List.map_congr_left fun r hr => Function.update_of_ne (ne_of_mem_of_not_mem hr hpL) _ _
    · simp
  unfold CXQueueData.linkBack
  rw [QueueMem.modify_some hp]
  simp only [Option.bind_eq_bind, Option.bind_some]
  rcases List.eq_nil_or_concat L with rfl | ⟨L, e, rfl⟩
  · have hP := h.drained rfl
    subst hP
    have hend : s.pListEnd = none := h.listEnd
    simp only [hend]
    refine ⟨_, rfl, { h with
      live := ?_, listEnd := rfl, emptyEnd := by rw [hcat]; exact h.emptyEnd, parked := fun _ => rfl
      drained := fun hL => absurd hL (by simp), nodup := hnd, inBounds := by rw [hcat]; exact h.inBounds
      two := by rw [hcat]; exact h.two, data := hdata _ (by simp [QueueMem.data_set]), empty := ?_
      count := by rw [List.length_append]; exact count_push h.count }⟩
    · simpa [QueueMem.next_set] using h.next_taken
    · simpa [QueueMem.next_set] using h.empty
  · simp only [List.concat_eq_append] at *
    have he : s.mem.InBounds e := h.inBounds e (by simp)
    have hend : s.pListEnd = some e := by rw [h.listEnd]; simp
    have hep : e ≠ p := fun hep => hpL (by simp [hep])
    have heF : e ∉ F := fun hm => by
      have := (List.nodup_append.mp h.nodup).2.2 e (by simp) e (by simp [hm])
      exact this rfl
    simp only [hend]
    rw [QueueMem.modify_some (by exact hp)]
    simp only [Option.bind_some]
    rw [QueueMem.modify_some (by exact he)]
    refine ⟨_, rfl, { h with
      live := ?_, listEnd := by simp, emptyEnd := by rw [hcat]; exact h.emptyEnd, parked := fun _ => rfl
      drained := fun hL => absurd hL (by simp), nodup := hnd, inBounds := by rw [hcat]; exact h.inBounds
      two := by rw [hcat]; exact h.two, empty := ?_
      data := hdata _ (by simp [QueueMem.data_set])
      count := by rw [List.length_append]; exact count_push h.count }⟩
    · have hlive := Linked.relink (b := p) (l := L) (a := e) (r := P) (by simpa using h.live) hpL
        h.next_taken
      simpa [QueueMem.next_set] using hlive
    · simpa [QueueMem.next_set] using h.empty.update_of_notMem heF (some p)

theorem Rep.push {q : List (Option δ)} {L P F : List NodePtr} (h : Rep s q L P F) (d : Option δ) :
    ∃ s' p F', CXQueueData.push true d s = some (s', true) ∧ Rep s' (q ++ [d]) (L ++ [p]) [] F' := by
  obtain ⟨s₁, p, P', F', hrun, ht⟩ := getNode_spec h
  obtain ⟨s', hrun', hr⟩ := ht.linkBack d
  refine ⟨s', p, F', ?_, hr⟩
  unfold CXQueueData.push
  simp only [h.inited, if_true, Option.bind_eq_bind, Option.bind_some, hrun]
  exact hrun'

/-- `freeNode` links the node behind the last one of the empty list, or what it takes for it. -/
theorem freeNode_spec {p e : NodePtr} (hi : s.bInited = true) (he : s.pEmptyListEnd = some e)
    (hp : s.mem.InBounds p) (hbe : s.mem.InBounds e) :
    ∃ m, freeNode p s = some { s with
        mem := m, dwNumberOfEmptyNodes := s.dwNumberOfEmptyNodes + 1, pEmptyListEnd := some p } ∧
      m.size = s.mem.size ∧ m.data = s.mem.data ∧
      m.next = Function.update (Function.update s.mem.next p none) e (some p) := by
  unfold freeNode
  simp only [hi, Bool.not_true, Bool.false_eq_true, if_false, QueueMem.modify_some hp,
    Option.bind_eq_bind, Option.bind_some, he]
  rw [QueueMem.modify_some (by exact hp)]
  simp only [Option.bind_some]
  rw [QueueMem.modify_some (by exact hbe)]
  exact ⟨_, rfl, rfl, by simp [QueueMem.data_set], by simp [QueueMem.next_set]⟩

/-- What `popFront` does when there is a live node: `x` leaves the front of the chain and is linked
behind the last node of all. -/
theorem popFront_spec {d : Option δ} {q : List (Option δ)} {x e : NodePtr} {L P F : List NodePtr}
    (h : Rep s (d :: q) (x :: L) P F) (he : (L ++ P ++ F).getLast? = some e) :
    ∃ m, popFront s = some ({ s with
        mem := m, pListHead := (L ++ P).head?, pEmptyListEnd := some x
        pListEnd := if L ++ P = [] then none else s.pListEnd
        dwNumberOfUsingNodes := s.dwNumberOfUsingNodes - 1
        dwNumberOfEmptyNodes := s.dwNumberOfEmptyNodes + 1 }, d) ∧
      m.size = s.mem.size ∧ m.data = s.mem.data ∧
      m.next = Function.update (Function.update s.mem.next x none) e (some x) := by
  have hx : s.mem.InBounds x := h.inBounds x (by simp)
  have hbe : s.mem.InBounds e := h.inBounds e (by
    have := List.mem_of_getLast? he
    simp only [List.cons_append, List.mem_cons]
    exact Or.inr this)
  have hend : s.pEmptyListEnd = some e := by
    rw [h.emptyEnd, List.cons_append, List.cons_append, List.getLast?_cons, he]
    rfl
  have hd : s.mem.data x = d := (List.cons.inj h.data).1
  have hlive : Linked s.mem.next (s.mem.next x) (L ++ P) := h.live.2
  unfold popFront
  simp only [h.live.1, QueueMem.load_some hx, Option.bind_eq_bind, Option.bind_some,
    QueueMem.node_pNext]
  cases hLP : L ++ P with
  | nil =>
    rw [hLP] at hlive
    rw [Linked.nil_iff.mp hlive]
    obtain ⟨m, hrun, hm⟩ := freeNode_spec (s := { s with
      pListHead := none, pListEnd := none
      dwNumberOfUsingNodes := s.dwNumberOfUsingNodes - 1 }) h.inited hend hx hbe
    exact ⟨m, by simp [hrun, hd], hm⟩
  | cons y R =>
    rw [hLP] at hlive
    have hy : s.mem.InBounds y := h.inBounds y (by
      have : y ∈ L ++ P := by rw [hLP]; simp
      simp only [List.cons_append, List.mem_cons, List.mem_append] at this ⊢
      tauto)
    rw [hlive.1]
    simp only [QueueMem.modify_some hy, Option.bind_some]
    have hx' : (s.mem.set y fun nd => { nd with pPrev := none }).InBounds x := hx
    simp only [QueueMem.load_some hx', Option.bind_some]
    obtain ⟨m, hrun, hs, hdt, hn⟩ := freeNode_spec (s := { s with
      mem := s.mem.set y fun nd => { nd with pPrev := none }
      pListHead := some y
      dwNumberOfUsingNodes := s.dwNumberOfUsingNodes - 1 }) (p := x) h.inited hend hx' hbe
    refine ⟨m, ?_, hs, ?_, ?_⟩
    · simp [hrun, QueueMem.data_set, hd]
    · rw [hdt]; simp [QueueMem.data_set]
    · rw [hn]; simp [QueueMem.next_set]

/-- `popFront` keeps the invariant, unless the last live node goes while the empty list is `NULL`. -/
theorem Rep.popFront_cons {d : Option δ} {q : List (Option δ)} {x : NodePtr} {L P F : List NodePtr}
    (h : Rep s (d :: q) (x :: L) P F) (hc : ¬ (q = [] ∧ s.pEmptyListHead = none)) :
    ∃ s', CXQueueData.popFront s = some (s', d) ∧
      Rep s' q L (if F = [] then P ++ [x] else P) (if F = [] then F else F ++ [x]) := by
  have hq : L.map s.mem.data = q := (List.cons.inj h.data).2
  have hcount := count_pop h.count
  have hnd := h.nodup
  simp only [List.cons_append] at hnd
  obtain ⟨hx, hnd'⟩ := List.nodup_cons.mp hnd
  have hb : ∀ r ∈ L ++ P ++ F ++ [x], s.mem.InBounds r := fun r hr => h.inBounds r (by
    simp only [List.cons_append, List.mem_cons, List.mem_append, List.not_mem_nil, or_false] at hr ⊢
    tauto)
  have htwo : 2 ≤ (L ++ P ++ F ++ [x]).length := by
    have := h.two
    simp only [List.cons_append, List.length_cons, List.length_append, List.length_nil] at this ⊢
    omega
  have hrot : (L ++ P ++ F ++ [x]).Nodup := by
    refine List.nodup_append.mpr ⟨hnd', by simp, fun a ha b hb hab => hx ?_⟩
    rw [← List.mem_singleton.mp hb, ← hab]; exact ha
  have hne : L ++ P ++ F ≠ [] := fun h0 => by simp [h0] at htwo
  obtain ⟨e, he⟩ : ∃ e, (L ++ P ++ F).getLast? = some e := ⟨_, List.getLast?_eq_some_getLast hne⟩
  obtain ⟨m, hrun, hs, hdt, hn⟩ := popFront_spec h he
  have hlive : Linked s.mem.next (s.mem.next x) (L ++ P) := h.live.2
  rw [← hlive.head?_eq] at hlive
  have hxLP : x ∉ L ++ P := fun hm => hx (List.mem_append_left _ hm)
  refine ⟨_, hrun, ?_⟩
  by_cases hF : F = []
  · -- the node joins the nodes parked behind the live ones
    subst hF
    have hempty : s.pEmptyListHead = none := h.empty
    have hL : L ≠ [] := fun hL => hc ⟨by rw [← hq, hL]; rfl, hempty⟩
    simp only [List.append_nil] at he hb htwo hrot
    obtain ⟨R, hR⟩ := List.getLast?_eq_some_iff.mp he
    have hchain : Linked m.next (L ++ P).head? (L ++ (P ++ [x])) := by
      rw [hn, ← List.append_assoc, hR, List.append_assoc, List.singleton_append]
      rw [hR] at hlive hxLP
      exact Linked.relink (hlive.update_of_notMem hxLP none) hxLP (Function.update_self ..)
    have hPne : L ++ P ≠ [] := by simp [hL]
    have hend : (x :: L).getLast? = L.getLast? := by
      obtain ⟨y, L, rfl⟩ := List.exists_cons_of_ne_nil hL
      rfl
    simp only [if_true]
    refine { h with
      live := hchain, listEnd := ?_, emptyEnd := ?_, parked := fun h => absurd rfl h
      drained := fun h => absurd h hL, nodup := by simpa using hrot
      inBounds := fun r hr => (hb r (by simpa using hr)).congr hs, two := by simpa using htwo
      data := by rw [hdt]; exact hq, empty := hempty, count := hcount }
    · simp only [if_neg hPne, h.listEnd, hend]
    · simp [← List.append_assoc]
  · -- the node joins the empty list
    have hP : P = [] := h.parked hF
    subst hP
    simp only [List.append_nil] at he hb htwo hrot hnd' hxLP hx hlive
    have heF : F.getLast? = some e := by
      rw [List.getLast?_append] at he
      obtain ⟨e', he'⟩ : ∃ e', F.getLast? = some e' := ⟨_, List.getLast?_eq_some_getLast hF⟩
      rw [he'] at he ⊢
      exact he
    obtain ⟨R, hR⟩ := List.getLast?_eq_some_iff.mp heF
    have hxF : x ∉ F := fun hm => hx (List.mem_append_right _ hm)
    have heL : e ∉ L := fun hm =>
      (List.nodup_append.mp hnd').2.2 e hm e (by rw [hR]; simp) rfl
    have hchain : Linked m.next s.pEmptyListHead (F ++ [x]) := by
      have hF' := h.empty.update_of_notMem hxF none
      rw [hR] at hF' hxF
      rw [hn, hR, List.append_assoc, List.singleton_append]
      exact Linked.relink hF' hxF (Function.update_self ..)
    simp only [if_neg hF, List.append_nil]
    refine { h with
      live := ?_, listEnd := ?_, emptyEnd := by simp, parked := fun _ => rfl, drained := fun _ => by simp
      nodup := by simpa using hrot
      inBounds := fun r hr => (hb r (by simpa using hr)).congr hs, two := by simpa using htwo
      data := by rw [hdt]; exact hq, empty := hchain, count := hcount }
    · rw [hn]
      simpa using (hlive.update_of_notMem hxLP none).update_of_notMem heL (some x)
    · cases L with
      | nil => rfl
      | cons y L => exact h.listEnd

theorem Rep.popFront {d : Option δ} {q : List (Option δ)} {L P F : List NodePtr}
    (h : Rep s (d :: q) L P F) (hc : ¬ (q = [] ∧ s.pEmptyListHead = none)) :
    ∃ s' L' P' F', CXQueueData.popFront s = some (s', d) ∧ Rep s' q L' P' F' := by
  obtain _ | ⟨x, L⟩ := L
  · cases h.data
  · obtain ⟨s', hrun, hr⟩ := h.popFront_cons hc
    exact ⟨s', _, _, _, hrun, hr⟩

/-- The excluded pop: the queue's list becomes empty, but `m_pListHead` stays at a node that was
freed before. -/
theorem Rep.popFront_stale {d : Option δ} {L P F : List NodePtr} (h : Rep s [d] L P F)
    (he : s.pEmptyListHead = none) :
    ∃ s' y, CXQueueData.popFront s = some (s', d) ∧ s'.pListHead = some y := by
  have hF : F = [] := by
    have := h.empty
    rw [he] at this
    exact List.head?_eq_none_iff.mp this.head?_eq
  subst hF
  obtain _ | ⟨x, L⟩ := L
  · cases h.data
  have hL : L = [] := List.map_eq_nil_iff.mp (List.cons.inj h.data).2
  subst hL
  obtain _ | ⟨y, P⟩ := P
  · have := h.two
    simp at this
  obtain ⟨m, hrun, -⟩ := popFront_spec h (List.getLast?_eq_some_getLast (by simp))
  exact ⟨_, y, hrun, rfl⟩

/-! ### Runs -/

/-- A constructed queue whose `Init` has not succeeded yet. -/
def Fresh (s : CXQueueData δ) : Prop := ∃ n, s = { construct with dwInitSize := n }

/-- The queue `s` behaves as the list `q`. -/
def Inv (s : CXQueueData δ) (q : List (Option δ)) : Prop :=
  Fresh s ∧ q = [] ∨ ∃ L P F, Rep s q L P F

/-- `Init` of a fresh queue gives an empty one, or leaves it fresh. -/
theorem init_spec {n : UInt32} (hs : Fresh s) (hn : 2 ≤ n.toNat) (hsize : bufferSize n < 0 ∨ SizeOk n) :
    ∃ s' r, init true n s = some (s', r) ∧
      (r = -1 ∧ bufferSize n < 0 ∧ Fresh s' ∨ r = 0 ∧ ∃ F, Rep s' [] [] [] F) := by
  obtain ⟨k, rfl⟩ := hs
  unfold init
  simp only [construct, Bool.false_eq_true, if_false]
  rcases hsize with hneg | hok
  · simp only [allocateMemoryBlock, Bool.not_true, Bool.false_eq_true, hneg, or_true, if_true,
      Option.bind_eq_bind, Option.bind_some]
    exact ⟨_, -1, rfl, Or.inl ⟨rfl, trivial, n, rfl⟩⟩
  · obtain ⟨j, hj⟩ : ∃ j, n.toNat = j + 2 := ⟨_, (Nat.sub_add_cancel hn).symm⟩
    obtain ⟨s', hrun, hs', -, hb, hlink⟩ := allocateMemoryBlock_spec (δ := δ)
      (s := { construct with dwInitSize := n }) hj hok rfl
    simp only [construct] at hrun
    simp only [Option.bind_eq_bind, hrun, Option.bind_some, if_true]
    refine ⟨_, 0, rfl, Or.inr ⟨rfl, blockNodes 0 0 (j + 2), ?_⟩⟩
    rw [hs']
    exact {
      inited := rfl, initSize := hn, sizeOk := hok, live := rfl, listEnd := rfl, empty := hlink
      emptyEnd := by simp [getLast?_blockNodes, construct], parked := fun _ => rfl
      drained := fun _ => by simp [blockNodes_succ], nodup := by simpa using nodup_blockNodes _ _ _
      inBounds := hb, two := by simp [blockNodes], data := rfl, count := rfl }

/-- What the queue may be asked in the state `s`, where it stands for `q`: the allocator succeeds,
the last element is not popped while `m_pEmptyListHead` is `NULL`, and `Size` is only called with
fewer than `2^31` elements. -/
def StepOk (s : CXQueueData δ) (q : List (Option δ)) : Op δ → Prop
  | .push _ newOk => newOk = true
  | .popFront => ¬ (q.length = 1 ∧ s.pEmptyListHead = none)
  | .front => True
  | .size => q.length < 2 ^ 31

instance (s : CXQueueData δ) (q : List (Option δ)) : ∀ op, Decidable (StepOk s q op)
  | .push _ newOk => inferInstanceAs (Decidable (newOk = true))
  | .popFront => inferInstanceAs (Decidable (¬ (_ ∧ _)))
  | .front => inferInstanceAs (Decidable True)
  | .size => inferInstanceAs (Decidable (_ < _))

/-- Every operation of the run meets `StepOk`. -/
def runOk (s : CXQueueData δ) (q : List (Option δ)) : List (Op δ) → Bool
  | [] => true
  | op :: ops =>
    decide (StepOk s q op) && (step s op).all fun r => runOk r.1 (ListQueue.step q op).1 ops

/-- A run on a new queue that was given to `Init`. -/
def runFrom (n : UInt32) (ops : List (Op δ)) : Option (List (Res δ)) := do
  let (s, _) ← init true n construct
  run s ops

def runFromOk (n : UInt32) (ops : List (Op δ)) : Bool :=
  (init true n (construct : CXQueueData δ)).all fun r => runOk r.1 [] ops

theorem size_eq {n : Nat} (hc : s.dwNumberOfUsingNodes = UInt32.ofNat n) (hn : n < 2 ^ 31) :
    size s = n := by
  have h32 : (UInt32.ofNat n).toNat = n := UInt32.toNat_ofNat_of_lt' (by show n < 2 ^ 32; omega)
  unfold size
  rw [hc, h32]
  exact Int.bmod_eq_of_le (by omega) (by omega)

theorem Inv.step {q : List (Option δ)} {op : Op δ} (h : Inv s q) (hop : StepOk s q op) :
    ∃ s', CXQueueData.step s op = some (s', (ListQueue.step q op).2) ∧
      Inv s' (ListQueue.step q op).1 := by
  rcases h with ⟨hfresh, rfl⟩ | ⟨L, P, F, h⟩
  · cases op with
    | push d newOk =>
      cases hop
      have h10240 : bufferSize 10240 = 24 * (10240 : UInt32).toNat + 16 := by decide +kernel
      obtain ⟨s₁, r, hrun, ⟨-, hneg, -⟩ | ⟨rfl, F, hr⟩⟩ := init_spec (n := 10240) hfresh (by decide)
        (Or.inr h10240)
      · exact absurd hneg (by rw [h10240]; omega)
      obtain ⟨s', p, F', hrun', hr'⟩ := hr.push d
      refine ⟨s', ?_, Or.inr ⟨_, _, _, hr'⟩⟩
      obtain ⟨k, rfl⟩ := hfresh
      have hpush : CXQueueData.push true d { construct with dwInitSize := k } =
          CXQueueData.push true d s₁ := by
        unfold CXQueueData.push
        simp only [construct] at hrun
        simp [hrun, hr.inited, construct]
      simp [CXQueueData.step, ListQueue.step, hpush, hrun']
    | popFront =>
      obtain ⟨k, rfl⟩ := hfresh
      exact ⟨_, rfl, Or.inl ⟨⟨k, rfl⟩, rfl⟩⟩
    | front =>
      obtain ⟨k, rfl⟩ := hfresh
      exact ⟨_, rfl, Or.inl ⟨⟨k, rfl⟩, rfl⟩⟩
    | size =>
      have h0 : size s = (0 : Nat) := size_eq (by obtain ⟨k, rfl⟩ := hfresh; rfl) (by norm_num)
      exact ⟨s, by simp [CXQueueData.step, ListQueue.step, h0], Or.inl ⟨hfresh, rfl⟩⟩
  · cases op with
    | push d newOk =>
      cases hop
      obtain ⟨s', p, F', hrun, hr⟩ := h.push d
      exact ⟨s', by simp [CXQueueData.step, ListQueue.step, hrun], Or.inr ⟨_, _, _, hr⟩⟩
    | popFront =>
      cases q with
      | nil =>
        have hL : L = [] := List.map_eq_nil_iff.mp h.data
        have hhead : s.pListHead = none := by
          have hP : P = [] := h.parked (h.drained hL)
          simpa [hL, hP] using h.live
        refine ⟨s, ?_, Or.inr ⟨L, P, F, h⟩⟩
        simp [CXQueueData.step, ListQueue.step, CXQueueData.popFront, hhead]
      | cons d q =>
        obtain ⟨s', L', P', F', hrun, hr⟩ := h.popFront (fun hc => hop ⟨by simp [hc.1], hc.2⟩)
        exact ⟨s', by simp [CXQueueData.step, ListQueue.step, hrun], Or.inr ⟨_, _, _, hr⟩⟩
    | front =>
      refine ⟨s, ?_, Or.inr ⟨L, P, F, h⟩⟩
      cases L with
      | nil =>
        have hP : P = [] := h.parked (h.drained rfl)
        have hhead : s.pListHead = none := by simpa [hP] using h.live
        have hq : q = [] := h.data.symm
        simp [CXQueueData.step, ListQueue.step, CXQueueData.front, hhead, hq]
      | cons x L =>
        have hq : s.mem.data x :: L.map s.mem.data = q := h.data
        simp [CXQueueData.step, ListQueue.step, CXQueueData.front, h.live.1,
          QueueMem.load_some (h.inBounds x (by simp)), ← hq]
    | size =>
      exact ⟨s, by simp [CXQueueData.step, ListQueue.step, size_eq h.count hop],
        Or.inr ⟨L, P, F, h⟩⟩

theorem Inv.run : ∀ {s : CXQueueData δ} {q : List (Option δ)} (ops : List (Op δ)), Inv s q →
    runOk s q ops = true → CXQueueData.run s ops = some (ListQueue.run q ops)
  | _, _, [], _, _ => rfl
  | s, q, op :: ops, h, hok => by
    obtain ⟨hop, hops⟩ := Bool.and_eq_true_iff.mp hok
    obtain ⟨s', hrun, h'⟩ := h.step (of_decide_eq_true hop)
    rw [hrun] at hops
    have ih := Inv.run ops h' hops
    simp [CXQueueData.run, ListQueue.run, hrun, ih]

/-- Every run on a queue that was constructed and given to `Init` has the results of the list queue,
as long as each operation meets `StepOk`. A negative `iBufferSize` makes `Init` fail, and the first
`Push` then falls back to blocks of 10240 nodes; a block whose size was cut off is the other case that
`hsize` leaves out. -/
theorem runFrom_eq_listQueue (n : UInt32) (hn : 2 ≤ n.toNat)
    (hsize : bufferSize n < 0 ∨ bufferSize n = 24 * n.toNat + 16) (ops : List (Op δ))
    (hok : runFromOk n ops = true) : runFrom n ops = some (ListQueue.run [] ops) := by
  obtain ⟨s, r, hrun, h⟩ := init_spec (δ := δ) (s := construct) ⟨_, rfl⟩ hn hsize
  have hinv : Inv s ([] : List (Option δ)) := by
    rcases h with ⟨-, -, hs⟩ | ⟨-, F, hr⟩
    · exact Or.inl ⟨hs, rfl⟩
    · exact Or.inr ⟨_, _, F, hr⟩
  simp only [runFromOk, hrun] at hok
  simp only [runFrom, hrun, Option.bind_eq_bind, Option.bind_some]
  exact Inv.run ops hinv hok

/-- A run that drains a block of three, grows by another and recycles. -/
theorem runFrom_eq_listQueue_three :
    runFrom 3 [.push (some 1) true, .push (some 2) true, .push (some 3) true, .popFront,
        .push (some 4) true, .popFront, .popFront, .popFront, .popFront, .front, .size] =
      some (ListQueue.run [] [.push (some 1) true, .push (some 2) true, .push (some 3) true, .popFront,
        .push (some 4) true, .popFront, .popFront, .popFront, .popFront, .front, .size]) :=
  runFrom_eq_listQueue 3 (by decide) (Or.inr (by decide +kernel)) _ (by decide +kernel)

/-- Two nodes, two pushes, three pops: the third pop returns the first element again. -/
theorem runFrom_two_stale :
    runFrom 2 [.push (some 1) true, .push (some 2) true, .popFront, .popFront, .popFront] =
        some [.pushed true, .pushed true, .data (some 1), .data (some 2), .data (some 1)] ∧
      ListQueue.run [] [.push (some 1) true, .push (some 2) true, .popFront, .popFront, .popFront] =
        [.pushed true, .pushed true, .data (some 1), .data (some 2), .data none] := by
  constructor
  · decide +kernel
  · decide

end CXQueueData

end KonsanNet
