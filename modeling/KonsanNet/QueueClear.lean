import KonsanNet.Queue
import KonsanNet.QueueNodes

/-!
# Clearing the compacting queue (`CXQueue::Clear`)

`CXQueue` over the two inner queues with their nodes. `Clear` splices the live list of each of them behind its
empty list. It dereferences `NULL` where an inner queue has empty nodes and no live one (`not_runSound_clear`),
and leaves ten blocks or more without an element, so that `CompactMemory` divides by zero. Where neither
happens, and no node was freed into an empty list that is `NULL`, the queue is empty, all its nodes are free,
and it goes on as a list (`runSound_of_runOk`).
-/

namespace KonsanNet

open CXQueueData (Holds Fresh Packed AllFree Pushed SizeOk bufferSize)

variable {δ : Type}

/-- A `CXQueue` with its nodes. -/
structure NodeQueue (δ : Type) where
  firstQueueData : CXQueueData δ
  secondQueueData : CXQueueData δ
  pQueueData : QueueMember
  pQueueDataBak : QueueMember
  dwInitSize : UInt32
  bInited : Bool
  bAutoCompactMemory : Bool
  isSwappingQueue : Bool

namespace NodeQueue

/-- `CXQueue()` -/
def construct : NodeQueue δ where
  firstQueueData := .construct
  secondQueueData := .construct
  pQueueData := .first
  pQueueDataBak := .second
  dwInitSize := 10240
  bInited := false
  bAutoCompactMemory := true
  isSwappingQueue := false

def member (s : NodeQueue δ) : QueueMember → CXQueueData δ
  | .first => s.firstQueueData
  | .second => s.secondQueueData

/-- `*m_pQueueData` -/
def data (s : NodeQueue δ) : CXQueueData δ := s.member s.pQueueData

/-- `*m_pQueueDataBak` -/
def bak (s : NodeQueue δ) : CXQueueData δ := s.member s.pQueueDataBak

def set (s : NodeQueue δ) (i : QueueMember) (d : CXQueueData δ) : NodeQueue δ :=
  { s with
    firstQueueData := if i = .first then d else s.firstQueueData
    secondQueueData := if i = .second then d else s.secondQueueData }

def init (newOk : Bool) (dwInitSize : UInt32) (s : NodeQueue δ) : Option (NodeQueue δ × Int) :=
  if s.bInited then some (s, 0)
  else
    (CXQueueData.init newOk dwInitSize s.firstQueueData).map fun r =>
      ({ s.set .first r.1 with bInited := decide (r.2 = (0 : Int)), dwInitSize := dwInitSize }, r.2)

def swap (s : NodeQueue δ) : NodeQueue δ :=
  { s with pQueueData := s.pQueueDataBak, pQueueDataBak := s.pQueueData, isSwappingQueue := true }

/-- `none` is the division by zero. -/
def compactMemory (s : NodeQueue δ) : Option (NodeQueue δ) :=
  if s.isSwappingQueue then some s
  else if 10 ≤ s.data.dwNumberOfBlocks ∧ s.bak.dwNumberOfUsingNodes = 0 then
    if s.data.dwNumberOfUsingNodes = 0 then none
    else if 2 < s.data.dwNumberOfEmptyNodes / s.data.dwNumberOfUsingNodes then some s.swap
    else some s
  else some s

def destroyBak (s : NodeQueue δ) : NodeQueue δ :=
  { s.set s.pQueueDataBak s.bak.destroy with isSwappingQueue := false }

/-- The block `if (m_isSwappingQueue)` of `Push`, `Pop` and `PopFront`. -/
def endSwap (s : NodeQueue δ) : NodeQueue δ :=
  if s.isSwappingQueue ∧ s.bak.dwNumberOfUsingNodes = 0 then s.destroyBak else s

/-- What all three do first. -/
def settle (s : NodeQueue δ) : Option (NodeQueue δ) :=
  (if s.bAutoCompactMemory then s.compactMemory else some s).map endSwap

/-- `Push` on a queue that `Init` has succeeded for. -/
def pushInited (newOk : Bool) (pData : Option δ) (s : NodeQueue δ) : Option (NodeQueue δ × Bool) :=
  s.settle.bind fun s => (s.data.push newOk pData).map fun r => (s.set s.pQueueData r.1, r.2)

def push (newOk : Bool) (pData : Option δ) (s : NodeQueue δ) : Option (NodeQueue δ × Bool) :=
  if s.bInited then s.pushInited newOk pData
  else (s.init newOk 10240).bind fun r => if r.2 ≠ 0 then some (r.1, false) else r.1.pushInited newOk pData

/-- The inner queue that is popped from. -/
def source (s : NodeQueue δ) : QueueMember :=
  if s.isSwappingQueue then s.pQueueDataBak else s.pQueueData

def popFront (s : NodeQueue δ) : Option (NodeQueue δ × Option δ) :=
  s.settle.bind fun s => ((s.member s.source).popFront).map fun r => (s.set s.source r.1, r.2)

def pop (s : NodeQueue δ) : Option (NodeQueue δ) := s.popFront.map Prod.fst

def front (s : NodeQueue δ) : Option (Option δ) := (s.member s.source).front

def size (s : NodeQueue δ) : Int := s.firstQueueData.size + s.secondQueueData.size

def clear (s : NodeQueue δ) : Option (NodeQueue δ) :=
  s.bak.clear.bind fun b =>
    let s := s.set s.pQueueDataBak b
    s.data.clear.map fun d =>
      let s := s.set s.pQueueData d
      if s.isSwappingQueue then s.destroyBak else s

/-! ### Runs -/

inductive Op (δ : Type)
  | init (dwInitSize : UInt32) (newOk : Bool)
  | push (pData : Option δ) (newOk : Bool)
  | pop
  | popFront
  | clear
  | setAutoCompactMemory (bSet : Bool)

/-- What an operation returns. -/
inductive Res (δ : Type)
  | inited (iRet : Int)
  | pushed (ok : Bool)
  | data (pData : Option δ)
  | void
deriving DecidableEq

def step (s : NodeQueue δ) : Op δ → Option (NodeQueue δ × Res δ)
  | .init dwInitSize newOk => (s.init newOk dwInitSize).map fun r => (r.1, .inited r.2)
  | .push pData newOk => (s.push newOk pData).map fun r => (r.1, .pushed r.2)
  | .pop => s.pop.map (·, .void)
  | .popFront => s.popFront.map fun r => (r.1, .data r.2)
  | .clear => s.clear.map (·, .void)
  | .setAutoCompactMemory bSet => some ({ s with bAutoCompactMemory := bSet }, .void)

/-- The same operations on a list; without memory nothing is pushed. -/
inductive ListStep (q : List (Option δ)) : Op δ → Res δ → List (Option δ) → Prop
  | init {n newOk} : ListStep q (.init n newOk) (.inited 0) q
  | noInit {n newOk} : newOk = false ∨ bufferSize n < 0 → ListStep q (.init n newOk) (.inited (-1)) q
  | push {d newOk} : ListStep q (.push d newOk) (.pushed true) (q ++ [d])
  | noPush {d} : ListStep q (.push d false) (.pushed false) q
  | pop : ListStep q .pop .void q.tail
  | popFront : ListStep q .popFront (.data q.head?.join) q.tail
  | clear : ListStep q .clear .void []
  | setAutoCompactMemory {b} : ListStep q (.setAutoCompactMemory b) .void q

/-- What is left after a `Clear`: nothing to be seen, all nodes free, and a `CompactMemory` that can be called. -/
structure Cleared (s : NodeQueue δ) : Prop where
  size : s.size = 0
  front : s.front = some none
  popFront : ∃ s', s.popFront = some (s', none)
  compactMemory : ∃ s', s.compactMemory = some s'
  allFree : ∀ i, AllFree (s.member i)

/-- No operation of the run fails, each has the result it has on a list, which `Clear` empties, and what it
leaves is `Cleared`. -/
def RunSound : NodeQueue δ → List (Option δ) → List (Op δ) → Prop
  | _, _, [] => True
  | s, q, op :: ops => ∃ s' r q', s.step op = some (s', r) ∧ ListStep q op r q' ∧ (op = .clear → Cleared s') ∧
    RunSound s' q' ops

/-- `Init` with blocks of at least two nodes whose size fits an `int`; a block that fits the counters; no node
freed while the empty list of `*m_pQueueData` is `NULL`; no `Clear` with an inner queue that has empty nodes and
no live one, or with ten blocks; and `SetAutoCompactMemory(true)` not where `CompactMemory` would divide by
zero. -/
def StepOk (s : NodeQueue δ) : Op δ → Prop
  | .init n _ => s.bInited = false → 2 ≤ n.toNat ∧ (bufferSize n < 0 ∨ bufferSize n = 24 * n.toNat + 16)
  | .push _ _ => s.data.bInited = true → s.data.pEmptyListHead = none →
    (s.data.dwNumberOfBlocks.toNat + 1) * s.data.dwInitSize.toNat < 2 ^ 32
  | .pop | .popFront => s.isSwappingQueue = true ∧ s.bak.dwNumberOfUsingNodes ≠ 0 ∨ s.data.pListHead = none ∨
    s.data.pEmptyListHead ≠ none
  | .clear => (s.bak.pEmptyListHead = none ∨ s.bak.pListHead ≠ none) ∧
    (s.data.pEmptyListHead = none ∨ s.data.pListHead ≠ none) ∧ s.data.dwNumberOfBlocks < 10
  | .setAutoCompactMemory bSet => bSet = true → s.isSwappingQueue = false → 10 ≤ s.data.dwNumberOfBlocks →
    s.data.dwNumberOfUsingNodes ≠ 0

instance (s : NodeQueue δ) : ∀ op, Decidable (StepOk s op)
  | .init .. => inferInstanceAs (Decidable (_ → _ ∧ (_ ∨ _)))
  | .push .. => inferInstanceAs (Decidable (_ → _ → _))
  | .pop | .popFront => inferInstanceAs (Decidable (_ ∧ _ ∨ _ ∨ _))
  | .clear => inferInstanceAs (Decidable ((_ ∨ _) ∧ (_ ∨ _) ∧ _))
  | .setAutoCompactMemory _ => inferInstanceAs (Decidable (_ → _ → _ → _))

/-- Each operation of the run meets the condition. -/
def runOk (s : NodeQueue δ) : List (Op δ) → Bool
  | [] => true
  | op :: ops => decide (StepOk s op) && (s.step op).all fun r => runOk r.1 ops

/-! ### The pointers -/

variable {s : NodeQueue δ} {qb qd : List (Option δ)}

theorem member_set_self (i : QueueMember) (d : CXQueueData δ) : (s.set i d).member i = d := by
  cases i <;> rfl

theorem member_set_ne {i j : QueueMember} (h : j ≠ i) (d : CXQueueData δ) : (s.set i d).member j = s.member j := by
  cases i <;> cases j <;> first | rfl | exact absurd rfl h

theorem data_set_data (d : CXQueueData δ) : (s.set s.pQueueData d).data = d := member_set_self ..

theorem bak_set_bak (d : CXQueueData δ) : (s.set s.pQueueDataBak d).bak = d := member_set_self ..

theorem bak_set_data (h : s.pQueueDataBak ≠ s.pQueueData) (d : CXQueueData δ) :
    (s.set s.pQueueData d).bak = s.bak :=
  member_set_ne h d

theorem data_set_bak (h : s.pQueueDataBak ≠ s.pQueueData) (d : CXQueueData δ) :
    (s.set s.pQueueDataBak d).data = s.data :=
  member_set_ne h.symm d

theorem data_destroyBak (h : s.pQueueDataBak ≠ s.pQueueData) : s.destroyBak.data = s.data := data_set_bak h _

theorem bak_destroyBak : s.destroyBak.bak = s.bak.destroy := member_set_self ..

theorem eq_data_or_bak (h : s.pQueueDataBak ≠ s.pQueueData) (i : QueueMember) :
    s.member i = s.data ∨ s.member i = s.bak := by
  unfold data bak
  cases hd : s.pQueueData <;> cases hb : s.pQueueDataBak <;> cases i <;> simp_all

/-! ### The invariant -/

/-- The queue stands for `qb ++ qd`: `qb` is in the inner queue that is drained, `qd` in the one pushed to. -/
structure Inv (s : NodeQueue δ) (qb qd : List (Option δ)) : Prop where
  ptr : s.pQueueDataBak ≠ s.pQueueData
  bak : Holds s.bak qb
  data : Holds s.data qd
  idle : s.isSwappingQueue = false → Fresh s.bak
  large : s.bAutoCompactMemory = true → s.isSwappingQueue = false → 10 ≤ s.data.dwNumberOfBlocks.toNat → qd ≠ []
  packed : s.isSwappingQueue = true → Packed s.data
  spare : s.isSwappingQueue = true → s.bak.pEmptyListHead ≠ none
  new : s.bInited = false → s.pQueueData = .first ∧ s.isSwappingQueue = false ∧ Fresh s.data

theorem nil_of_fresh {d : CXQueueData δ} {q : List (Option δ)} (h : Holds d q) (hf : Fresh d) : q = [] := by
  obtain ⟨n, rfl⟩ := hf
  exact h.using_eq_zero.mp rfl

theorem Inv.construct : Inv (construct : NodeQueue δ) [] [] where
  ptr := by simp [NodeQueue.construct]
  bak := CXQueueData.fresh_construct.holds
  data := CXQueueData.fresh_construct.holds
  idle := fun _ => CXQueueData.fresh_construct
  large := fun _ _ h => absurd h (show ¬ 10 ≤ 0 by decide)
  packed := nofun
  spare := nofun
  new := fun _ => ⟨rfl, rfl, CXQueueData.fresh_construct⟩

/-- The state an operation on the inner queues meets: a swap has been begun or ended. -/
structure Settled (s₀ s : NodeQueue δ) (qb qd : List (Option δ)) : Prop extends Inv s qb qd where
  undrained : s.isSwappingQueue = true → qb ≠ []
  two : s.bAutoCompactMemory = true → s.isSwappingQueue = false → 10 ≤ s.data.dwNumberOfBlocks.toNat →
    2 ≤ qd.length
  inited : s.bInited = s₀.bInited
  data_eq : s.data = s₀.data ∨ Fresh s.data
  kept : s.isSwappingQueue = false → s.data = s₀.data ∧
    ¬ (s₀.isSwappingQueue = true ∧ s₀.bak.dwNumberOfUsingNodes ≠ 0)

theorem ten_le_iff {b : UInt32} : 10 ≤ b ↔ 10 ≤ b.toNat := UInt32.le_iff_toNat_le

/-- A division by zero would need ten blocks without an element. A swap begins where more than three quarters of the
nodes are empty. -/
theorem Inv.compactMemory (h : Inv s qb qd) (hauto : s.bAutoCompactMemory = true) :
    s.compactMemory = some s ∧
        (s.isSwappingQueue = false → 10 ≤ s.data.dwNumberOfBlocks.toNat → 2 ≤ qd.length) ∨
      s.isSwappingQueue = false ∧ s.compactMemory = some s.swap ∧ qd ≠ [] ∧ s.data.pEmptyListHead ≠ none := by
  unfold NodeQueue.compactMemory
  cases hs : s.isSwappingQueue with
  | true => exact Or.inl ⟨rfl, nofun⟩
  | false =>
    have hbak : s.bak.dwNumberOfUsingNodes = 0 := h.bak.using_eq_zero.mpr (nil_of_fresh h.bak (h.idle hs))
    rw [if_neg Bool.false_ne_true]
    by_cases hb : 10 ≤ s.data.dwNumberOfBlocks ∧ s.bak.dwNumberOfUsingNodes = 0
    · rw [if_pos hb]
      have hb' := ten_le_iff.mp hb.1
      have hne := h.large hauto hs hb'
      have hpos : s.data.dwNumberOfUsingNodes ≠ 0 := fun hc => hne (h.data.using_eq_zero.mp hc)
      have hnodes := h.data.nodes
      have hten : 10 * 2 ≤ s.data.dwNumberOfBlocks.toNat * s.data.dwInitSize.toNat :=
        Nat.mul_le_mul hb' (h.data.two_le_initSize (by omega))
      have hlen : 0 < qd.length := List.length_pos_iff.mpr hne
      have hquot : 2 < s.data.dwNumberOfEmptyNodes / s.data.dwNumberOfUsingNodes ↔
          2 < s.data.dwNumberOfEmptyNodes.toNat / qd.length := by
        rw [UInt32.lt_iff_toNat_lt, UInt32.toNat_div, h.data.toNat_using]
        rfl
      rw [if_neg hpos]
      by_cases hq : 2 < s.data.dwNumberOfEmptyNodes / s.data.dwNumberOfUsingNodes
      · rw [if_pos hq]
        refine Or.inr ⟨rfl, rfl, hne, fun he => ?_⟩
        rw [hquot, h.data.emptyHead.mp he, Nat.zero_div] at hq
        exact absurd hq (by decide)
      · rw [if_neg hq]
        refine Or.inl ⟨rfl, fun _ _ => ?_⟩
        have hlt : s.data.dwNumberOfEmptyNodes.toNat < 3 * qd.length :=
          (Nat.div_lt_iff_lt_mul hlen).mp (by rw [hquot] at hq; omega)
        omega
    · rw [if_neg hb]
      exact Or.inl ⟨rfl, fun _ hc => absurd ⟨ten_le_iff.mpr hc, hbak⟩ hb⟩

theorem Inv.endSwap (h : Inv s qb qd) (htwo : s.bAutoCompactMemory = true → s.isSwappingQueue = false →
    10 ≤ s.data.dwNumberOfBlocks.toNat → 2 ≤ qd.length) : Settled s s.endSwap qb qd := by
  unfold NodeQueue.endSwap
  by_cases hs : s.isSwappingQueue = true ∧ s.bak.dwNumberOfUsingNodes = 0
  · rw [if_pos hs]
    have hqb : qb = [] := h.bak.using_eq_zero.mp hs.2
    subst hqb
    have hdata : s.destroyBak.data = s.data := data_destroyBak h.ptr
    have hfresh : Fresh s.destroyBak.bak := bak_destroyBak ▸ h.bak.destroy
    have hten : 10 ≤ s.destroyBak.data.dwNumberOfBlocks.toNat → 10 ≤ qd.length := by
      rw [hdata]
      exact h.data.ten (h.packed hs.1)
    exact
      { ptr := h.ptr
        bak := hfresh.holds
        data := hdata ▸ h.data
        idle := fun _ => hfresh
        large := fun _ _ hb => List.ne_nil_of_length_pos (lt_of_lt_of_le (by decide) (hten hb))
        packed := nofun
        spare := nofun
        new := fun hi => absurd ((h.new hi).2.1.symm.trans hs.1) (by decide)
        undrained := nofun
        two := fun _ _ hb => le_trans (by decide) (hten hb)
        inited := rfl
        data_eq := Or.inl hdata
        kept := fun _ => ⟨hdata, fun hc => hc.2 hs.2⟩ }
  · rw [if_neg hs]
    have hund : s.isSwappingQueue = true → s.bak.dwNumberOfUsingNodes ≠ 0 := fun hsw hc => hs ⟨hsw, hc⟩
    exact
      { h with
        undrained := fun hsw hqb => hund hsw (h.bak.using_eq_zero.mpr hqb)
        two := htwo
        inited := rfl
        data_eq := Or.inl rfl
        kept := fun hsw => ⟨rfl, fun hc => absurd (hsw.symm.trans hc.1) (by decide)⟩ }

/-- A swap that begins does not end at once. -/
theorem Inv.endSwap_swap (h : Inv s qb qd) (hs : s.isSwappingQueue = false) (hne : qd ≠ [])
    (hspare : s.data.pEmptyListHead ≠ none) : Settled s s.swap.endSwap qd [] := by
  have hfresh := h.idle hs
  have hend : s.swap.endSwap = s.swap := by
    unfold NodeQueue.endSwap
    refine if_neg fun hc => hne (h.data.using_eq_zero.mp hc.2)
  rw [hend]
  exact
    { ptr := h.ptr.symm
      bak := h.data
      data := hfresh.holds
      idle := nofun
      large := nofun
      packed := fun _ => hfresh.packed
      spare := fun _ => hspare
      new := fun hi => absurd (nil_of_fresh h.data (h.new hi).2.2) hne
      undrained := fun _ => hne
      two := nofun
      inited := rfl
      data_eq := Or.inr hfresh
      kept := nofun }

theorem Inv.settle (h : Inv s qb qd) :
    ∃ s' qb' qd', s.settle = some s' ∧ Settled s s' qb' qd' ∧ qb' ++ qd' = qb ++ qd := by
  unfold NodeQueue.settle
  cases ha : s.bAutoCompactMemory with
  | false =>
    exact ⟨s.endSwap, qb, qd, rfl, h.endSwap fun hc => absurd (ha.symm.trans hc) (by decide), rfl⟩
  | true =>
    rw [if_pos rfl]
    rcases h.compactMemory ha with ⟨hrun, htwo⟩ | ⟨hs, hrun, hne, hspare⟩
    · rw [hrun]
      exact ⟨s.endSwap, qb, qd, rfl, h.endSwap fun _ => htwo, rfl⟩
    · rw [hrun]
      have hqb := nil_of_fresh h.bak (h.idle hs)
      exact ⟨s.swap.endSwap, qd, [], rfl, h.endSwap_swap hs hne hspare, by rw [hqb, List.append_nil, List.nil_append]⟩

/-! ### The operations -/

theorem Inv.init (h : Inv s qb qd) {n : UInt32} (newOk : Bool)
    (hn : s.bInited = false → 2 ≤ n.toNat ∧ (bufferSize n < 0 ∨ SizeOk n)) :
    ∃ s' r, s.init newOk n = some (s', r) ∧ Inv s' qb qd ∧
      (r = 0 ∧ s'.bInited = true ∨ r = -1 ∧ (newOk = false ∨ bufferSize n < 0)) ∧
      (s.bInited = false → r = 0 → s'.data.pEmptyListHead ≠ none) := by
  unfold NodeQueue.init
  cases hi : s.bInited with
  | true => exact ⟨s, 0, rfl, h, Or.inl ⟨rfl, hi⟩, nofun⟩
  | false =>
    obtain ⟨hp, hsw, hf⟩ := h.new hi
    obtain rfl := nil_of_fresh h.data hf
    have hfirst : s.firstQueueData = s.data := by
      unfold NodeQueue.data
      rw [hp]
      rfl
    obtain ⟨hn2, hsize⟩ := hn hi
    obtain ⟨d, r, hrun, hd⟩ := hf.init newOk hn2 hsize
    have hdata : (s.set .first d).data = d := hp ▸ data_set_data d
    have hbak : (s.set .first d).bak = s.bak := hp ▸ bak_set_data h.ptr d
    have hholds : Holds d [] := by
      rcases hd with ⟨-, -, hd⟩ | ⟨-, F, hd, -⟩
      · exact hd.holds
      · exact Or.inr ⟨_, F, hd⟩
    have hblocks : ¬ 10 ≤ d.dwNumberOfBlocks.toNat := by
      rcases hd with ⟨-, -, hd⟩ | ⟨-, F, -, hd⟩
      · rw [hd.blocks]
        decide
      · rw [hd]
        decide
    have hres : r = 0 ∧ decide (r = 0) = true ∨ r = -1 ∧ (newOk = false ∨ bufferSize n < 0) := by
      rcases hd with ⟨rfl, hfail, -⟩ | ⟨rfl, -⟩
      · exact Or.inr ⟨rfl, hfail⟩
      · exact Or.inl ⟨rfl, rfl⟩
    refine ⟨{ s.set .first d with bInited := decide (r = (0 : Int)), dwInitSize := n }, r, ?_, ?_, hres, ?_⟩
    · rw [if_neg Bool.false_ne_true, hfirst, hrun]
      rfl
    · exact
        { ptr := h.ptr
          bak := by
            show Holds (s.set .first d).bak qb
            rw [hbak]
            exact h.bak
          data := by
            show Holds (s.set .first d).data []
            rw [hdata]
            exact hholds
          idle := fun _ => by
            show Fresh (s.set .first d).bak
            rw [hbak]
            exact h.idle hsw
          large := fun _ _ hb => by
            change 10 ≤ (s.set .first d).data.dwNumberOfBlocks.toNat at hb
            rw [hdata] at hb
            exact absurd hb hblocks
          packed := fun hc => absurd (hsw.symm.trans hc) (by decide)
          spare := fun hc => absurd (hsw.symm.trans hc) (by decide)
          new := fun hc => by
            refine ⟨hp, hsw, ?_⟩
            show Fresh (s.set .first d).data
            rw [hdata]
            rcases hd with ⟨-, -, hd⟩ | ⟨rfl, -⟩
            · exact hd
            · cases hc }
    · intro _ hr he
      change (s.set .first d).data.pEmptyListHead = none at he
      rw [hdata] at he
      rcases hd with ⟨rfl, -⟩ | ⟨-, F, hd, -⟩
      · cases hr
      · exact hd.drained rfl (hd.emptyHead.mp he)

theorem Inv.setData {q : List (Option δ)} {d : CXQueueData δ} (h : Inv s qb qd) (hd : Holds d q)
    (hlarge : s.bAutoCompactMemory = true → s.isSwappingQueue = false → 10 ≤ d.dwNumberOfBlocks.toNat → q ≠ [])
    (hpacked : s.isSwappingQueue = true → Packed d) (hnew : s.bInited = false → Fresh d) :
    Inv (s.set s.pQueueData d) qb q := by
  have hdata : (s.set s.pQueueData d).data = d := data_set_data d
  have hbak : (s.set s.pQueueData d).bak = s.bak := bak_set_data h.ptr d
  refine ⟨h.ptr, ?_, ?_, fun hs => ?_, fun ha hs hb => ?_, fun hs => ?_, fun hs => ?_, fun hi => ?_⟩
  · rw [hbak]
    exact h.bak
  · rw [hdata]
    exact hd
  · rw [hbak]
    exact h.idle hs
  · rw [hdata] at hb
    exact hlarge ha hs hb
  · rw [hdata]
    exact hpacked hs
  · rw [hbak]
    exact h.spare hs
  · refine ⟨(h.new hi).1, (h.new hi).2.1, ?_⟩
    rw [hdata]
    exact hnew hi

theorem Inv.setBak {q : List (Option δ)} {b : CXQueueData δ} (h : Inv s qb qd) (hb : Holds b q)
    (hs : s.isSwappingQueue = true) (hspare : b.pEmptyListHead ≠ none) : Inv (s.set s.pQueueDataBak b) q qd := by
  have hdata : (s.set s.pQueueDataBak b).data = s.data := data_set_bak h.ptr b
  have hbak : (s.set s.pQueueDataBak b).bak = b := bak_set_bak b
  have hns : ∀ {p : Prop}, s.isSwappingQueue = false → p := fun hc => absurd (hs.symm.trans hc) (by decide)
  refine ⟨h.ptr, ?_, ?_, hns, fun _ => hns, fun _ => ?_, fun _ => ?_, fun hi => hns (h.new hi).2.1⟩
  · rw [hbak]
    exact hb
  · rw [hdata]
    exact h.data
  · rw [hdata]
    exact h.packed hs
  · rw [hbak]
    exact hspare

theorem Inv.pushInited (h : Inv s qb qd) (hi : s.bInited = true) (newOk : Bool) (d : Option δ)
    (hroom : s.data.bInited = true → s.data.pEmptyListHead = none →
      (s.data.dwNumberOfBlocks.toNat + 1) * s.data.dwInitSize.toNat < 2 ^ 32) :
    ∃ s' ok qb' qd', s.pushInited newOk d = some (s', ok) ∧ Inv s' qb' qd' ∧
      (ok = true ∧ qb' ++ qd' = qb ++ qd ++ [d] ∨ ok = false ∧ newOk = false ∧ qb' ++ qd' = qb ++ qd) := by
  obtain ⟨s₁, qb₁, qd₁, hrun, hset, hq⟩ := h.settle
  have hi₁ : s₁.bInited = true := hset.inited.trans hi
  have hnew : ∀ {d : CXQueueData δ}, s₁.bInited = false → Fresh d := fun hc =>
    absurd (hi₁.symm.trans hc) (by decide)
  have hroom₁ : s₁.data.bInited = true → s₁.data.pEmptyListHead = none →
      (s₁.data.dwNumberOfBlocks.toNat + 1) * s₁.data.dwInitSize.toNat < 2 ^ 32 := by
    intro hin he
    rcases hset.data_eq with heq | hf
    · rw [heq] at hin he ⊢
      exact hroom hin he
    · exact absurd (hin.symm.trans hf.bInited) (by decide)
  obtain ⟨r, hrun₁, hr⟩ := hset.data.push newOk d hroom₁
  unfold NodeQueue.pushInited
  rw [hrun, Option.bind_some, hrun₁]
  cases hr with
  | pushed hd hp =>
    refine ⟨_, true, qb₁, qd₁ ++ [d], rfl, ?_, Or.inl ⟨rfl, by rw [← List.append_assoc, hq]⟩⟩
    exact hset.setData hd (fun _ _ _ => by simp) (fun hs => hp (hset.packed hs)) hnew
  | refused hno hd hb hp =>
    refine ⟨_, false, qb₁, qd₁, rfl, ?_, Or.inr ⟨rfl, hno, hq⟩⟩
    exact hset.setData hd (fun ha hs hc => hset.large ha hs (hb ▸ hc)) (fun hs => hp (hset.packed hs)) hnew

theorem Inv.push (h : Inv s qb qd) (newOk : Bool) (d : Option δ)
    (hroom : s.data.bInited = true → s.data.pEmptyListHead = none →
      (s.data.dwNumberOfBlocks.toNat + 1) * s.data.dwInitSize.toNat < 2 ^ 32) :
    ∃ s' ok qb' qd', s.push newOk d = some (s', ok) ∧ Inv s' qb' qd' ∧
      (ok = true ∧ qb' ++ qd' = qb ++ qd ++ [d] ∨ ok = false ∧ newOk = false ∧ qb' ++ qd' = qb ++ qd) := by
  unfold NodeQueue.push
  cases hi : s.bInited with
  | true => exact h.pushInited hi newOk d hroom
  | false =>
    rw [if_neg Bool.false_ne_true]
    have h10240 : SizeOk 10240 := CXQueueData.sizeOk_10240
    obtain ⟨s₁, r, hrun, h₁, hr, hfree⟩ := h.init (n := 10240) newOk fun _ => ⟨by decide, Or.inr h10240⟩
    rw [hrun, Option.bind_some]
    rcases hr with ⟨rfl, hi₁⟩ | ⟨rfl, hfail⟩
    · exact h₁.pushInited hi₁ newOk d fun _ he => absurd he (hfree hi rfl)
    · have hno : newOk = false := hfail.resolve_right fun hneg => by
        rw [h10240] at hneg
        omega
      exact ⟨s₁, false, qb, qd, rfl, h₁, Or.inr ⟨rfl, hno, rfl⟩⟩

theorem Inv.popFront (h : Inv s qb qd) (hok : s.isSwappingQueue = true ∧ s.bak.dwNumberOfUsingNodes ≠ 0 ∨
      s.data.pListHead = none ∨ s.data.pEmptyListHead ≠ none) :
    ∃ s' qb' qd', s.popFront = some (s', (qb ++ qd).head?.join) ∧ Inv s' qb' qd' ∧
      qb' ++ qd' = (qb ++ qd).tail := by
  obtain ⟨s₁, qb₁, qd₁, hrun, hset, hq⟩ := h.settle
  unfold NodeQueue.popFront
  rw [hrun, Option.bind_some]
  unfold source
  rw [← hq]
  cases hs : s₁.isSwappingQueue with
  | true =>
    simp only [if_true]
    obtain ⟨x, xs, rfl⟩ := List.exists_cons_of_ne_nil (hset.undrained hs)
    obtain ⟨b, hrun₁, hb, -, hspare, -⟩ := hset.bak.popFront (Or.inr (hset.spare hs))
    refine ⟨_, xs, qd₁, ?_, hset.setBak hb hs (hspare (hset.spare hs)), rfl⟩
    unfold NodeQueue.bak at hrun₁
    rw [hrun₁]
    rfl
  | false =>
    simp only [Bool.false_eq_true, if_false]
    obtain rfl := nil_of_fresh hset.bak (hset.idle hs)
    obtain ⟨heq, hkept⟩ := hset.kept hs
    have hok₁ : s₁.data.pListHead = none ∨ s₁.data.pEmptyListHead ≠ none := by
      rw [heq]
      exact hok.resolve_left hkept
    obtain ⟨d, hrun₁, hd, hblocks, -, hfresh⟩ := hset.data.popFront hok₁
    refine ⟨_, [], qd₁.tail, ?_, hset.setData hd (fun ha _ hb => ?_) (fun hc => ?_) fun hc => ?_, rfl⟩
    · unfold NodeQueue.data at hrun₁
      rw [hrun₁]
      rfl
    · rw [hblocks] at hb
      have htwo := hset.two ha hs hb
      refine List.ne_nil_of_length_pos ?_
      rw [List.length_tail]
      omega
    · exact absurd (hs.symm.trans hc) (by decide)
    · exact hfresh (hset.new hc).2.2

theorem Inv.of_cleared (hptr : s.pQueueDataBak ≠ s.pQueueData) (hs : s.isSwappingQueue = false)
    (hbak : Fresh s.bak) (hdata : Holds s.data []) (hlt : s.data.dwNumberOfBlocks < 10)
    (hnew : s.bInited = false → s.pQueueData = .first ∧ Fresh s.data) : Inv s [] [] where
  ptr := hptr
  bak := hbak.holds
  data := hdata
  idle := fun _ => hbak
  large := fun _ _ hb => absurd hlt (UInt32.not_lt.mpr (ten_le_iff.mpr hb))
  packed := fun hc => absurd (hs.symm.trans hc) (by decide)
  spare := fun hc => absurd (hs.symm.trans hc) (by decide)
  new := fun hi => ⟨(hnew hi).1, hs, (hnew hi).2⟩

/-- Both inner queues are cleared, and the drained one is destroyed. -/
theorem Inv.clear (h : Inv s qb qd) (hok : s.StepOk .clear) :
    ∃ s', s.clear = some s' ∧ Inv s' [] [] ∧ s'.isSwappingQueue = false ∧ s'.data.dwNumberOfBlocks < 10 := by
  obtain ⟨hokb, hokd, hlt⟩ := hok
  obtain ⟨b, hrunb, hb, -, hfreshb⟩ := h.bak.clear hokb
  obtain ⟨d, hrund, hd, hblocks, hfreshd⟩ := h.data.clear hokd
  have hdata₁ : (s.set s.pQueueDataBak b).data = s.data := data_set_bak h.ptr b
  unfold NodeQueue.clear
  rw [hrunb, Option.bind_some]
  dsimp only
  rw [hdata₁, hrund, Option.map_some]
  show ∃ s', some (if s.isSwappingQueue then ((s.set s.pQueueDataBak b).set s.pQueueData d).destroyBak
    else (s.set s.pQueueDataBak b).set s.pQueueData d) = some s' ∧ _
  have hptr : ((s.set s.pQueueDataBak b).set s.pQueueData d).pQueueDataBak ≠
      ((s.set s.pQueueDataBak b).set s.pQueueData d).pQueueData := h.ptr
  have hsw : ((s.set s.pQueueDataBak b).set s.pQueueData d).isSwappingQueue = s.isSwappingQueue := rfl
  have hdata : ((s.set s.pQueueDataBak b).set s.pQueueData d).data = d := member_set_self ..
  have hbak : ((s.set s.pQueueDataBak b).set s.pQueueData d).bak = b :=
    (member_set_ne h.ptr d).trans (member_set_self ..)
  have hnew : ((s.set s.pQueueDataBak b).set s.pQueueData d).bInited = false →
      ((s.set s.pQueueDataBak b).set s.pQueueData d).pQueueData = .first ∧ Fresh d := fun hi =>
    ⟨(h.new hi).1, hfreshd (h.new hi).2.2⟩
  generalize (s.set s.pQueueDataBak b).set s.pQueueData d = s₂ at hptr hsw hdata hbak hnew ⊢
  subst hdata hbak
  rw [← hblocks] at hlt
  cases hs : s.isSwappingQueue with
  | true =>
    have hdata := data_destroyBak hptr
    refine ⟨s₂.destroyBak, rfl, Inv.of_cleared hptr rfl ?_ ?_ ?_ ?_, rfl, ?_⟩
    · rw [bak_destroyBak]
      exact hb.destroy
    · rw [hdata]
      exact hd
    · rw [hdata]
      exact hlt
    · rw [hdata]
      exact hnew
    · rw [hdata]
      exact hlt
  | false =>
    have hfresh := hfreshb (h.idle hs)
    exact ⟨s₂, rfl, Inv.of_cleared hptr (hsw.trans hs) hfresh hd hlt hnew, hsw.trans hs, hlt⟩

theorem size_eq_zero {d : CXQueueData δ} (h : Holds d []) : d.size = 0 := by
  unfold CXQueueData.size
  rw [h.toNat_using]
  exact Int.zero_bmod

theorem Inv.cleared (h : Inv s [] []) (hs : s.isSwappingQueue = false) (hlt : s.data.dwNumberOfBlocks < 10) :
    Cleared s := by
  have hholds : ∀ i, Holds (s.member i) [] := by
    intro i
    rcases eq_data_or_bak h.ptr i with hi | hi
    · rw [hi]
      exact h.data
    · rw [hi]
      exact h.bak
  have hpop : ∃ s' qb' qd', s.popFront = some (s', none) ∧ Inv s' qb' qd' ∧ qb' ++ qd' = [] :=
    h.popFront (Or.inr (Or.inl (h.data.listHead.mpr rfl)))
  obtain ⟨s', -, -, hrun, -⟩ := hpop
  refine ⟨?_, ?_, ⟨s', hrun⟩, ⟨s, ?_⟩, fun i => (hholds i).allFree⟩
  · show (s.member .first).size + (s.member .second).size = 0
    rw [size_eq_zero (hholds .first), size_eq_zero (hholds .second)]
    rfl
  · exact (hholds s.source).front
  · unfold NodeQueue.compactMemory
    have hten : ¬ (10 ≤ s.data.dwNumberOfBlocks ∧ s.bak.dwNumberOfUsingNodes = 0) := fun hb =>
      UInt32.not_lt.mpr hb.1 hlt
    rw [if_neg (by rw [hs]; exact Bool.false_ne_true), if_neg hten]

/-! ### Runs -/

theorem Inv.setAutoCompactMemory (h : Inv s qb qd) {bSet : Bool} (hok : s.StepOk (.setAutoCompactMemory bSet)) :
    Inv { s with bAutoCompactMemory := bSet } qb qd :=
  { h with
    large := fun ha hs hb hq =>
      hok ha hs (ten_le_iff.mpr hb) (h.data.using_eq_zero.mpr hq) }

theorem Inv.step (h : Inv s qb qd) {op : Op δ} (hok : s.StepOk op) :
    ∃ s' r qb' qd', s.step op = some (s', r) ∧ ListStep (qb ++ qd) op r (qb' ++ qd') ∧
      (op = .clear → Cleared s') ∧ Inv s' qb' qd' := by
  cases op with
  | init n newOk =>
    obtain ⟨s', r, hrun, h', hr, -⟩ := h.init newOk hok
    refine ⟨s', .inited r, qb, qd, ?_, ?_, nofun, h'⟩
    · show (s.init newOk n).map _ = _
      rw [hrun]
      rfl
    · rcases hr with ⟨rfl, -⟩ | ⟨rfl, hfail⟩
      · exact .init
      · exact .noInit hfail
  | push d newOk =>
    obtain ⟨s', ok, qb', qd', hrun, h', hr⟩ := h.push newOk d hok
    refine ⟨s', .pushed ok, qb', qd', ?_, ?_, nofun, h'⟩
    · show (s.push newOk d).map _ = _
      rw [hrun]
      rfl
    · rcases hr with ⟨rfl, hq⟩ | ⟨rfl, rfl, hq⟩
      · rw [hq]
        exact .push
      · rw [hq]
        exact .noPush
  | pop =>
    obtain ⟨s', qb', qd', hrun, h', hq⟩ := h.popFront hok
    refine ⟨s', .void, qb', qd', ?_, hq ▸ .pop, nofun, h'⟩
    show (s.popFront.map Prod.fst).map _ = _
    rw [hrun]
    rfl
  | popFront =>
    obtain ⟨s', qb', qd', hrun, h', hq⟩ := h.popFront hok
    refine ⟨s', .data (qb ++ qd).head?.join, qb', qd', ?_, hq ▸ .popFront, nofun, h'⟩
    show s.popFront.map _ = _
    rw [hrun]
    rfl
  | clear =>
    obtain ⟨s', hrun, h', hs, hlt⟩ := h.clear hok
    refine ⟨s', .void, [], [], ?_, .clear, fun _ => h'.cleared hs hlt, h'⟩
    show s.clear.map _ = _
    rw [hrun]
    rfl
  | setAutoCompactMemory bSet =>
    exact ⟨_, .void, qb, qd, rfl, .setAutoCompactMemory, nofun, h.setAutoCompactMemory hok⟩

theorem Inv.runSound {ops : List (Op δ)} (h : Inv s qb qd) (hok : s.runOk ops = true) :
    RunSound s (qb ++ qd) ops := by
  induction ops generalizing s qb qd with
  | nil => trivial
  | cons op ops ih =>
    obtain ⟨hop, hops⟩ := Bool.and_eq_true_iff.mp hok
    obtain ⟨s', r, qb', qd', hrun, hl, hc, h'⟩ := h.step (of_decide_eq_true hop)
    rw [hrun] at hops
    exact ⟨s', r, qb' ++ qd', hrun, hl, hc, ih h' hops⟩

/-- Every run from a new queue whose operations all meet `StepOk` has the results of a list that `Clear`
empties, and what `Clear` leaves is `Cleared`. -/
theorem runSound_of_runOk (ops : List (Op δ)) (hok : construct.runOk ops = true) : RunSound construct [] ops :=
  Inv.construct.runSound hok

/-- Two of three nodes are live when the queue is cleared; all three are used again. -/
def clearedOps : List (Op Nat) :=
  [.init 3 true, .push (some 1) true, .push (some 2) true, .clear, .push (some 3) true, .popFront, .popFront,
    .push (some 4) false, .push (some 5) false, .clear, .popFront]

theorem runSound_of_runOk_cleared : RunSound (construct : NodeQueue Nat) [] clearedOps :=
  runSound_of_runOk clearedOps (by decide +kernel)

/-- A queue that was given to `Init` and never pushed to: `Clear` writes to `NULL`. -/
theorem not_runSound_clear : ¬ RunSound (construct : NodeQueue Nat) [] [.init 2 true, .clear] := by
  rintro ⟨s, r, q, hinit, -, -, s', r', q', hclear, -⟩
  have hrun : ((construct : NodeQueue Nat).step (.init 2 true)).all fun r => (r.1.step .clear).isNone := by
    decide +kernel
  rw [hinit] at hrun
  change (s.step .clear).isNone = true at hrun
  rw [hclear] at hrun
  cases hrun

/-- Nineteen elements in ten blocks of two nodes: after a `Clear` the next `CompactMemory` divides by zero. -/
example : (runSteps (fun (s : NodeQueue Nat) op => (s.step op).map Prod.fst) construct
    (.init 2 true :: List.replicate 19 (.push (some 1) true) ++ [.clear])).map
      (fun s => s.compactMemory.isNone) = some true := by
  decide +kernel

end NodeQueue

end KonsanNet
