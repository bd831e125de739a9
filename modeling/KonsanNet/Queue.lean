import KonsanNet.Run
import Mathlib.Tactic

/-!
# The compacting queue (`CXQueue`)

A `CXQueue` holds its elements in two inner queues behind the pointers `m_pQueueData` (pushed to) and
`m_pQueueDataBak`. When the pushed-to queue has ten blocks or more and is mostly empty, the pointers
are exchanged and the old queue is drained before it is destroyed. The inner queue is taken here as what
it stands for: a FIFO queue whose node and block counters are exact, that allocates a block when no node
is empty, and that always gets its memory. An element is a `void*`, `none` being a pushed `NULL`.
-/

namespace KonsanNet

variable {δ : Type}

structure FifoQueueData (δ : Type) where
  items : List (Option δ)
  dwNumberOfBlocks : Nat
  dwInitSize : Nat
  bInited : Bool

namespace FifoQueueData

def construct : FifoQueueData δ := ⟨[], 0, 10240, false⟩

def numberOfUsingNodes (d : FifoQueueData δ) : Nat := d.items.length

def numberOfEmptyNodes (d : FifoQueueData δ) : Nat :=
  d.dwNumberOfBlocks * d.dwInitSize - d.items.length

def allocateMemoryBlock (d : FifoQueueData δ) : FifoQueueData δ :=
  { d with dwNumberOfBlocks := d.dwNumberOfBlocks + 1 }

def init (dwInitSize : Nat) (d : FifoQueueData δ) : FifoQueueData δ :=
  if d.bInited then d
  else { allocateMemoryBlock { d with dwInitSize := dwInitSize } with bInited := true }

def destroy (d : FifoQueueData δ) : FifoQueueData δ := if d.bInited then construct else d

def push (pData : Option δ) (d : FifoQueueData δ) : FifoQueueData δ :=
  let d := d.init 10240
  let d := if d.numberOfEmptyNodes = 0 then d.allocateMemoryBlock else d
  { d with items := d.items ++ [pData] }

def popFront (d : FifoQueueData δ) : FifoQueueData δ × Option δ :=
  ({ d with items := d.items.tail }, d.items.head?.join)

def front (d : FifoQueueData δ) : Option δ := d.items.head?.join

/-- The counters fit the contents. -/
structure WF (d : FifoQueueData δ) : Prop where
  init_pos : 1 ≤ d.dwInitSize
  fits : d.items.length ≤ d.dwNumberOfBlocks * d.dwInitSize
  fresh : d.bInited = false → d.dwNumberOfBlocks = 0

/-- A queue that has only been pushed to: all blocks but the last are full. -/
def Packed (d : FifoQueueData δ) : Prop :=
  2 ≤ d.dwNumberOfBlocks → (d.dwNumberOfBlocks - 1) * d.dwInitSize < d.items.length

theorem WF.construct : (construct : FifoQueueData δ).WF :=
  ⟨show 1 ≤ 10240 by decide, Nat.zero_le _, fun _ => rfl⟩

variable {d : FifoQueueData δ}

theorem Packed.of_no_block (h : d.dwNumberOfBlocks = 0) : d.Packed := by
  intro hb
  omega

namespace WF

theorem nil (h : d.WF) (h0 : d.dwNumberOfBlocks = 0) : d.items = [] := by
  have hfits := h.fits
  rw [h0, Nat.zero_mul] at hfits
  exact List.length_eq_zero_iff.mp (Nat.le_zero.mp hfits)

theorem destroy (h : d.WF) : d.destroy.WF ∧ d.destroy.dwNumberOfBlocks = 0 := by
  unfold FifoQueueData.destroy
  by_cases hd : d.bInited = true
  · rw [if_pos hd]
    exact ⟨WF.construct, rfl⟩
  · rw [if_neg hd]
    exact ⟨h, h.fresh (by simpa using hd)⟩

theorem init (h : d.WF) {n : Nat} (hn : 1 ≤ n) : (d.init n).WF ∧ (d.init n).items = d.items := by
  unfold FifoQueueData.init
  by_cases hd : d.bInited = true
  · rw [if_pos hd]
    exact ⟨h, rfl⟩
  · rw [if_neg hd]
    have h0 := h.fresh (by simpa using hd)
    have hfits := h.fits
    rw [h0] at hfits
    refine ⟨⟨hn, ?_, fun hc => absurd hc (by simp)⟩, rfl⟩
    show d.items.length ≤ (d.dwNumberOfBlocks + 1) * n
    omega

theorem allocate (h : d.WF) (hd : d.bInited = true) : d.allocateMemoryBlock.WF := by
  refine ⟨h.init_pos, ?_, fun hc => absurd (hd.symm.trans hc) (by decide)⟩
  show d.items.length ≤ (d.dwNumberOfBlocks + 1) * d.dwInitSize
  have := h.fits
  rw [Nat.add_mul]
  omega

theorem popFront (h : d.WF) : d.popFront.1.WF := by
  refine ⟨h.init_pos, ?_, h.fresh⟩
  show d.items.tail.length ≤ _
  have := h.fits
  rw [List.length_tail]
  exact le_trans (Nat.sub_le _ _) this

end WF

theorem init_bInited (n : Nat) : (d.init n).bInited = true := by
  unfold init
  by_cases hd : d.bInited = true
  · rw [if_pos hd, hd]
  · rw [if_neg hd]

theorem init_blocks (n : Nat) (h0 : d.dwNumberOfBlocks = 0) : (d.init n).dwNumberOfBlocks ≤ 1 := by
  unfold init
  by_cases hd : d.bInited = true
  · rw [if_pos hd, h0]
    exact Nat.zero_le 1
  · rw [if_neg hd]
    show d.dwNumberOfBlocks + 1 ≤ 1
    omega

theorem push_items (h : d.WF) (x : Option δ) : (d.push x).items = d.items ++ [x] := by
  have hi := (h.init (by decide : 1 ≤ 10240)).2
  unfold push
  by_cases he : (d.init 10240).numberOfEmptyNodes = 0
  · simp [he, allocateMemoryBlock, hi]
  · simp [he, hi]

theorem WF.push (h : d.WF) (x : Option δ) : (d.push x).WF := by
  obtain ⟨hi, -⟩ := h.init (by decide : 1 ≤ 10240)
  have hin := init_bInited (d := d) 10240
  unfold FifoQueueData.push
  by_cases he : (d.init 10240).numberOfEmptyNodes = 0
  · simp only [he, if_true]
    have ha := hi.allocate hin
    refine ⟨ha.init_pos, ?_, ha.fresh⟩
    have := hi.fits
    have := hi.init_pos
    simp only [allocateMemoryBlock, List.length_append, List.length_singleton, Nat.add_mul, one_mul]
    omega
  · simp only [he, if_false]
    refine ⟨hi.init_pos, ?_, hi.fresh⟩
    have := hi.fits
    unfold numberOfEmptyNodes at he
    simp only [List.length_append, List.length_singleton]
    omega

theorem Packed.push (hp : d.Packed) (h : d.WF) (x : Option δ) : (d.push x).Packed := by
  obtain ⟨hi, hitems⟩ := h.init (by decide : 1 ≤ 10240)
  have hpi : (d.init 10240).Packed := by
    unfold FifoQueueData.init
    by_cases hd : d.bInited = true
    · rw [if_pos hd]
      exact hp
    · rw [if_neg hd]
      intro hb
      have h0 := h.fresh (by simpa using hd)
      simp [allocateMemoryBlock, h0] at hb
  unfold FifoQueueData.push
  by_cases he : (d.init 10240).numberOfEmptyNodes = 0
  · simp only [he, if_true]
    intro hb
    have := hi.fits
    unfold numberOfEmptyNodes at he
    simp only [allocateMemoryBlock, List.length_append, List.length_singleton, Nat.add_sub_cancel]
    omega
  · simp only [he, if_false]
    intro hb
    have := hpi hb
    simp only [List.length_append, List.length_singleton]
    omega

theorem Packed.ten (hp : d.Packed) (h : d.WF) (hb : 10 ≤ d.dwNumberOfBlocks) :
    10 ≤ d.items.length := by
  have hlt := hp (by omega)
  have hle : 9 * 1 ≤ (d.dwNumberOfBlocks - 1) * d.dwInitSize :=
    Nat.mul_le_mul (by omega) h.init_pos
  omega

end FifoQueueData

/-- The members `m_firstQueueData` and `m_secondQueueData`. -/
inductive QueueMember
  | first
  | second
deriving DecidableEq

structure CXQueue (δ : Type) where
  firstQueueData : FifoQueueData δ
  secondQueueData : FifoQueueData δ
  pQueueData : QueueMember
  pQueueDataBak : QueueMember
  dwInitSize : Nat
  bInited : Bool
  bAutoCompactMemory : Bool
  isSwappingQueue : Bool
  /-- The elements that an inner queue still held when it was destroyed. -/
  destroyed : List (Option δ)

namespace CXQueue

def construct : CXQueue δ where
  firstQueueData := .construct
  secondQueueData := .construct
  pQueueData := .first
  pQueueDataBak := .second
  dwInitSize := 10240
  bInited := false
  bAutoCompactMemory := true
  isSwappingQueue := false
  destroyed := []

def member (s : CXQueue δ) : QueueMember → FifoQueueData δ
  | .first => s.firstQueueData
  | .second => s.secondQueueData

/-- `*m_pQueueData`. -/
def data (s : CXQueue δ) : FifoQueueData δ := s.member s.pQueueData

/-- `*m_pQueueDataBak`. -/
def bak (s : CXQueue δ) : FifoQueueData δ := s.member s.pQueueDataBak

def set (s : CXQueue δ) (i : QueueMember) (d : FifoQueueData δ) : CXQueue δ :=
  { s with
    firstQueueData := if i = .first then d else s.firstQueueData
    secondQueueData := if i = .second then d else s.secondQueueData }

def init (dwInitSize : Nat) (s : CXQueue δ) : CXQueue δ :=
  if s.bInited then s
  else { s.set .first (s.firstQueueData.init dwInitSize) with bInited := true, dwInitSize := dwInitSize }

/-- `none` is the division by zero. -/
def compactMemory (s : CXQueue δ) : Option (CXQueue δ) :=
  if s.isSwappingQueue then some s
  else if 10 ≤ s.data.dwNumberOfBlocks ∧ s.bak.numberOfUsingNodes = 0 then
    if s.data.numberOfUsingNodes = 0 then none
    else if 2 < s.data.numberOfEmptyNodes / s.data.numberOfUsingNodes then
      some { s with
        pQueueData := s.pQueueDataBak, pQueueDataBak := s.pQueueData, isSwappingQueue := true }
    else some s
  else some s

/-- The block `if (m_isSwappingQueue)` with which `Push`, `Pop` and `PopFront` end a swap. -/
def endSwap (s : CXQueue δ) : CXQueue δ :=
  if s.isSwappingQueue ∧ s.bak.numberOfUsingNodes = 0 then
    { s.set s.pQueueDataBak s.bak.destroy with
      isSwappingQueue := false, destroyed := s.destroyed ++ s.bak.items }
  else s

/-- What all three do first. -/
def settle (s : CXQueue δ) : Option (CXQueue δ) :=
  (if s.bAutoCompactMemory then s.compactMemory else some s).map endSwap

def push (pData : Option δ) (s : CXQueue δ) : Option (CXQueue δ) :=
  let s := if s.bInited then s else s.init 10240
  s.settle.map fun s => s.set s.pQueueData (s.data.push pData)

/-- The inner queue that is popped from. -/
def source (s : CXQueue δ) : QueueMember :=
  if s.isSwappingQueue then s.pQueueDataBak else s.pQueueData

def popFront (s : CXQueue δ) : Option (CXQueue δ × Option δ) :=
  s.settle.map fun s =>
    let r := (s.member s.source).popFront
    (s.set s.source r.1, r.2)

def pop (s : CXQueue δ) : Option (CXQueue δ) := s.popFront.map Prod.fst

def front (s : CXQueue δ) : Option δ := (s.member s.source).front

def size (s : CXQueue δ) : Nat :=
  s.firstQueueData.numberOfUsingNodes + s.secondQueueData.numberOfUsingNodes

inductive Op (δ : Type)
  | push (pData : Option δ)
  | pop
  | popFront
  | front
  | size

/-- What an operation returns; `Pop` returns nothing. -/
inductive Res (δ : Type)
  | pushed
  | popped
  | data (pData : Option δ)
  | size (n : Nat)
deriving DecidableEq

def step (s : CXQueue δ) : Op δ → Option (CXQueue δ × Res δ)
  | .push d => (s.push d).map (·, .pushed)
  | .pop => s.pop.map (·, .popped)
  | .popFront => s.popFront.map fun r => (r.1, .data r.2)
  | .front => some (s, .data s.front)
  | .size => some (s, .size s.size)

def run (s : CXQueue δ) : List (Op δ) → Option (CXQueue δ × List (Res δ))
  | [] => some (s, [])
  | op :: ops => do
    let (s, r) ← s.step op
    let (s, rs) ← s.run ops
    some (s, r :: rs)

/-- The same operations on a list. -/
def listStep (q : List (Option δ)) : Op δ → List (Option δ) × Res δ
  | .push d => (q ++ [d], .pushed)
  | .pop => (q.tail, .popped)
  | .popFront => (q.tail, .data q.head?.join)
  | .front => (q, .data q.head?.join)
  | .size => (q, .size q.length)

def listRun (q : List (Option δ)) : List (Op δ) → List (Option δ) × List (Res δ)
  | [] => (q, [])
  | op :: ops =>
    let r := listStep q op
    ((listRun r.1 ops).1, r.2 :: (listRun r.1 ops).2)

/-- A queue before its first operation, `Init` having been called or not. -/
def IsNew (s : CXQueue δ) : Prop := s = construct ∨ ∃ n, 1 ≤ n ∧ s = construct.init n

/-- The elements in the order they leave. -/
def contents (s : CXQueue δ) : List (Option δ) :=
  if s.isSwappingQueue then s.bak.items ++ s.data.items else s.data.items

end CXQueue

end KonsanNet
