import Mathlib.Tactic
import KonsanNet.Linked

/-!
# The pointer queue (`CXQueueData`)

Nodes live in blocks of `dwInitSize` nodes behind a 16-byte header; a node is addressed by its block
and its index there. A pointer is an `Option NodePtr` (`none` is `NULL`). Every access is checked
against the size the block was allocated with: dereferencing `NULL` or a node outside its block makes
the operation `none`. The live list and the list of empty nodes are chained through `pNext`.
-/

namespace KonsanNet

/-- The address of node `idx` of block `block`. -/
structure NodePtr where
  block : Nat
  idx : Nat
deriving DecidableEq, Repr

/-- `cx_list_node`; `δ` is what the stored `void*` point to. -/
structure CxListNode (δ : Type) where
  pNext : Option NodePtr
  pPrev : Option NodePtr
  pData : Option δ

/-- The blocks allocated so far: their sizes in bytes, the `pNext` of their headers and their nodes. -/
structure QueueMem (δ : Type) where
  size : List Nat
  header : Nat → Option Nat
  node : NodePtr → CxListNode δ

structure CXQueueData (δ : Type) where
  mem : QueueMem δ
  pListHead : Option NodePtr
  pListEnd : Option NodePtr
  pEmptyListHead : Option NodePtr
  pEmptyListEnd : Option NodePtr
  plstBlocksHead : Option Nat
  plstBlocksEnd : Option Nat
  dwNumberOfUsingNodes : UInt32
  dwNumberOfEmptyNodes : UInt32
  dwNumberOfBlocks : UInt32
  dwInitSize : UInt32
  bInited : Bool

variable {δ : Type}

namespace QueueMem

/-- The node lies inside its block. -/
def InBounds (m : QueueMem δ) (p : NodePtr) : Prop := 16 + 24 * (p.idx + 1) ≤ m.size.getD p.block 0

instance (m : QueueMem δ) (p : NodePtr) : Decidable (m.InBounds p) :=
  inferInstanceAs (Decidable (_ ≤ _))

def next (m : QueueMem δ) (p : NodePtr) : Option NodePtr := (m.node p).pNext

def data (m : QueueMem δ) (p : NodePtr) : Option δ := (m.node p).pData

def load (m : QueueMem δ) (p : Option NodePtr) : Option (CxListNode δ) :=
  p.bind fun p => if m.InBounds p then some (m.node p) else none

def set (m : QueueMem δ) (p : NodePtr) (f : CxListNode δ → CxListNode δ) : QueueMem δ :=
  { m with node := Function.update m.node p (f (m.node p)) }

def modify (m : QueueMem δ) (p : Option NodePtr) (f : CxListNode δ → CxListNode δ) :
    Option (QueueMem δ) :=
  p.bind fun p => if m.InBounds p then some (m.set p f) else none

end QueueMem

namespace CXQueueData

/-- `CXQueueData()`. -/
def construct : CXQueueData δ where
  mem := ⟨[], fun _ => none, fun _ => ⟨none, none, none⟩⟩
  pListHead := none
  pListEnd := none
  pEmptyListHead := none
  pEmptyListEnd := none
  plstBlocksHead := none
  plstBlocksEnd := none
  dwNumberOfUsingNodes := 0
  dwNumberOfEmptyNodes := 0
  dwNumberOfBlocks := 0
  dwInitSize := 10240
  bInited := false

/-- `int iBufferSize`: the product is a 32-bit unsigned one and the sum is cut to an `int`. -/
def bufferSize (dwInitSize : UInt32) : Int :=
  Int.bmod ((24 * dwInitSize.toNat % 2 ^ 32 + 16 : Nat) : Int) (2 ^ 32)

/-- The loop `while (++i < m_dwInitSize)`; `i` is the index of `pObjectList` in the block. Returns
`pPrevNode` and `pObjectList` at its end. -/
def linkNodes (b n : Nat) (m : QueueMem δ) (i : Nat) (pPrevNode : NodePtr) :
    Option (QueueMem δ × NodePtr × NodePtr) :=
  if i + 1 < n then do
    let m ← m.modify (some ⟨b, i⟩) fun nd =>
      { nd with pNext := some ⟨b, i + 1⟩, pPrev := some pPrevNode }
    linkNodes b n m (i + 1) ⟨b, i⟩
  else some (m, pPrevNode, ⟨b, i⟩)
termination_by n - i

/-- `AllocateMemoryBlock`; `newOk` says whether the system has the memory (`new` with a negative
size throws `bad_array_new_length`). -/
def allocateMemoryBlock (newOk : Bool) (s : CXQueueData δ) : Option (CXQueueData δ × Int) :=
  let iBufferSize := bufferSize s.dwInitSize
  if !newOk ∨ iBufferSize < 0 then some (s, -1)
  else do
    let b := s.mem.size.length
    let n := s.dwInitSize.toNat
    let m : QueueMem δ :=
      { size := s.mem.size ++ [iBufferSize.toNat]
        header := match s.plstBlocksHead, s.plstBlocksEnd with
          | some _, some e => Function.update s.mem.header e (some b)
          | _, _ => s.mem.header
        node := fun p => if p.block = b then ⟨none, none, none⟩ else s.mem.node p }
    let m ← m.modify (some ⟨b, 0⟩) fun nd => { nd with pPrev := none, pNext := some ⟨b, 1⟩ }
    let (m, pPrevNode, pObjectList) ← linkNodes b n m 1 ⟨b, 0⟩
    let m ← m.modify (some pObjectList) fun nd => { nd with pNext := none, pPrev := some pPrevNode }
    let (m, pEmptyListHead) ←
      match s.pEmptyListHead with
      | none => some (m, some ⟨b, 0⟩)
      | some h => do
        let m ← m.modify s.pEmptyListEnd fun nd => { nd with pNext := some ⟨b, 0⟩ }
        let m ← m.modify (some ⟨b, 0⟩) fun nd => { nd with pPrev := s.pEmptyListEnd }
        some (m, some h)
    some ({ s with
      mem := m
      plstBlocksHead := if s.plstBlocksHead = none then some b else s.plstBlocksHead
      plstBlocksEnd := some b
      dwNumberOfBlocks := s.dwNumberOfBlocks + 1
      dwNumberOfEmptyNodes := s.dwNumberOfEmptyNodes + s.dwInitSize
      pEmptyListHead := pEmptyListHead
      pEmptyListEnd := some pObjectList }, 0)

def init (newOk : Bool) (dwInitSize : UInt32) (s : CXQueueData δ) : Option (CXQueueData δ × Int) :=
  if s.bInited then some (s, 0)
  else do
    let (s, nRet) ← allocateMemoryBlock newOk { s with dwInitSize := dwInitSize }
    some (if nRet = 0 then { s with bInited := true } else s, nRet)

/-- Unlinking the head of the empty list, its `pNext` possibly `NULL`. -/
def takeEmpty (s : CXQueueData δ) : Option (CXQueueData δ × Option NodePtr) := do
  let pObj := s.pEmptyListHead
  let nd ← s.mem.load pObj
  let m ← match nd.pNext with
    | none => some s.mem
    | some p => s.mem.modify (some p) fun nd => { nd with pPrev := none }
  some ({ s with mem := m, pEmptyListHead := nd.pNext }, pObj)

/-- The stores to the node that end `GetNode`. -/
def clearNode (s : CXQueueData δ) (pObj : Option NodePtr) :
    Option (CXQueueData δ × Option NodePtr) := do
  let m ← s.mem.modify pObj fun _ => ⟨none, none, none⟩
  some ({ s with mem := m, dwNumberOfEmptyNodes := s.dwNumberOfEmptyNodes - 1 }, pObj)

/-- `GetNode`. Neither branch touches `m_pEmptyListEnd`: where the empty list becomes empty the
source sets `m_pEmptyListHead` to `NULL` a second time. -/
def getNode (newOk : Bool) (s : CXQueueData δ) : Option (CXQueueData δ × Option NodePtr) :=
  if !s.bInited then some (s, none)
  else if s.pEmptyListHead ≠ none then do
    let (s, pObj) ← takeEmpty s
    clearNode s pObj
  else do
    let (s, iRet) ← allocateMemoryBlock newOk s
    if iRet = 0 then
      -- here the source stores to `m_pEmptyListHead->pPrev` without a test for `NULL`
      let (s, pObj) ← takeEmpty s
      if s.pEmptyListHead = none then none else clearNode s pObj
    else some (s, none)

/-- The rest of `Push` for the node `p` that `GetNode` returned. -/
def linkBack (p : NodePtr) (pData : Option δ) (s : CXQueueData δ) : Option (CXQueueData δ × Bool) := do
  let m ← s.mem.modify (some p) fun nd => { nd with pData := pData }
  let s := { s with dwNumberOfUsingNodes := s.dwNumberOfUsingNodes + 1 }
  match s.pListEnd with
  | none => some ({ s with mem := m, pListHead := some p, pListEnd := some p }, true)
  | some e =>
    let m ← m.modify (some p) fun nd => { nd with pPrev := some e }
    let m ← m.modify (some e) fun nd => { nd with pNext := some p }
    some ({ s with mem := m, pListEnd := some p }, true)

def push (newOk : Bool) (pData : Option δ) (s : CXQueueData δ) : Option (CXQueueData δ × Bool) := do
  let (s, nRet) ← if s.bInited then some (s, 0) else init newOk 10240 s
  if nRet ≠ 0 then some (s, false)
  else
    let (s, pNode) ← getNode newOk s
    match pNode with
    | none => some (s, false)
    | some p => linkBack p pData s

/-- `FreeNode`. With `m_pEmptyListEnd` set the node is linked behind it, whatever that node is. -/
def freeNode (pObj : NodePtr) (s : CXQueueData δ) : Option (CXQueueData δ) :=
  if !s.bInited then some s
  else do
    let m ← s.mem.modify (some pObj) fun nd => { nd with pNext := none }
    let s := { s with dwNumberOfEmptyNodes := s.dwNumberOfEmptyNodes + 1 }
    match s.pEmptyListEnd with
    | some e =>
      let m ← m.modify (some pObj) fun nd => { nd with pPrev := some e }
      let m ← m.modify (some e) fun nd => { nd with pNext := some pObj }
      some { s with mem := m, pEmptyListEnd := some pObj }
    | none =>
      let m ← m.modify (some pObj) fun nd => { nd with pPrev := none }
      some { s with mem := m, pEmptyListHead := some pObj }

def popFront (s : CXQueueData δ) : Option (CXQueueData δ × Option δ) :=
  match s.pListHead with
  | none => some (s, none)
  | some p => do
    let nd ← s.mem.load (some p)
    let s ← match nd.pNext with
      | none => some { s with pListHead := none, pListEnd := none }
      | some q => do
        let m ← s.mem.modify (some q) fun nd => { nd with pPrev := none }
        some { s with mem := m, pListHead := some q }
    let nd ← s.mem.load (some p)
    let s ← freeNode p { s with dwNumberOfUsingNodes := s.dwNumberOfUsingNodes - 1 }
    some (s, nd.pData)

def front (s : CXQueueData δ) : Option (Option δ) :=
  match s.pListHead with
  | none => some none
  | some p => do
    let nd ← s.mem.load (some p)
    some nd.pData

/-- `Destroy`, which deletes the blocks. -/
def destroy (s : CXQueueData δ) : CXQueueData δ := if s.bInited then construct else s

/-- The live list is linked in behind the empty one; it is not tested for `NULL`. -/
def clear (s : CXQueueData δ) : Option (CXQueueData δ) := do
  let (m, pEmptyListHead) ←
    match s.pEmptyListHead with
    | none => some (s.mem, s.pListHead)
    | some h => do
      let m ← s.mem.modify s.pEmptyListEnd fun nd => { nd with pNext := s.pListHead }
      let nd ← m.load s.pEmptyListEnd
      let m ← m.modify nd.pNext fun nd => { nd with pPrev := s.pEmptyListEnd }
      some (m, some h)
  some { s with
    mem := m
    pEmptyListHead := pEmptyListHead
    pEmptyListEnd := s.pListEnd
    pListHead := none
    pListEnd := none
    dwNumberOfEmptyNodes := s.dwNumberOfEmptyNodes + s.dwNumberOfUsingNodes
    dwNumberOfUsingNodes := 0 }

/-- `int Size()`: the `DWORD` count read as an `int`. -/
def size (s : CXQueueData δ) : Int := Int.bmod s.dwNumberOfUsingNodes.toNat (2 ^ 32)

/-! ### Runs -/

inductive Op (δ : Type)
  | push (pData : Option δ) (newOk : Bool)
  | popFront
  | front
  | size
deriving DecidableEq

inductive Res (δ : Type)
  | pushed (ok : Bool)
  | data (pData : Option δ)
  | count (i : Int)
deriving DecidableEq

def step (s : CXQueueData δ) : Op δ → Option (CXQueueData δ × Res δ)
  | .push pData newOk => do let (s, ok) ← push newOk pData s; some (s, .pushed ok)
  | .popFront => do let (s, pData) ← popFront s; some (s, .data pData)
  | .front => do let pData ← front s; some (s, .data pData)
  | .size => some (s, .count (size s))

/-- The results of a run from `s`; `none` when an access of it is out of bounds. -/
def run (s : CXQueueData δ) : List (Op δ) → Option (List (Res δ))
  | [] => some []
  | op :: ops => do
    let (s, r) ← step s op
    let rs ← run s ops
    some (r :: rs)

end CXQueueData

/-! ### The queue it stands for -/

namespace ListQueue

open CXQueueData (Op Res)

def step (q : List (Option δ)) : Op δ → List (Option δ) × Res δ
  | .push pData _ => (q ++ [pData], .pushed true)
  | .popFront => (q.tail, .data q.head?.join)
  | .front => (q, .data q.head?.join)
  | .size => (q, .count q.length)

def run (q : List (Option δ)) : List (Op δ) → List (Res δ)
  | [] => []
  | op :: ops => (step q op).2 :: run (step q op).1 ops

end ListQueue

end KonsanNet
