import Mathlib.Tactic
import KonsanNet.QueueDrain

/-!
# The message queue between threads (`CXMessageQueue`, `CXSpinLock`)

Any number of threads call `PushMessage`, `GetMessage` and `Wait`. A step is one access to what they share: the
exchange and the test of `spin_lock`, the reference count, `m_event`, the store that frees the lock, and the two
counters that `Size` adds up without the lock. Behind the lock a thread reads `m_queue`, and in a later step writes
what its operation makes of it; only the lock keeps another thread from doing the same in between. The queue is the
compacting one as it is in the memory.

`log` has the operations in the order of these writes and `returned` what the calls gave back.
-/

namespace KonsanNet

/-- A call that takes `m_lock`. -/
inductive QueueCall (δ : Type)
  | pushMessage (pMes : Option δ)
  | getMessage
deriving DecidableEq

/-- The steps from the write to the store that frees the lock. -/
def QueueCall.rest {δ : Type} : QueueCall δ → Nat
  | pushMessage _ => 2
  | getMessage => 1

/-- Where a thread stands. -/
inductive QueuePc (δ : Type)
  | idle
  /-- `m_queue.Size()` without the lock -/
  | firstSize
  | secondSize (iFirst : Int)
  /-- `xchg_8(lock, KLOCK_BUSY)` -/
  | exchange (c : QueueCall δ)
  /-- `while (*lock)` -/
  | spin (c : QueueCall δ)
  /-- `__sync_fetch_and_add(&m_lLockRefNum, 1)` -/
  | addRef (c : QueueCall δ)
  | read (c : QueueCall δ)
  | write (c : QueueCall δ) (queue : NodeQueue δ)
  | setEvent (pMes : Option δ)
  /-- `*lock = 0` -/
  | unlock (c : QueueCall δ) (ret : Option δ)
  /-- `__sync_fetch_and_sub(&m_lLockRefNum, 1)` -/
  | subRef (c : QueueCall δ) (ret : Option δ)

/-- An operation of a thread with what it returns; `PushMessage` returns nothing. -/
structure QueueEntry (ι δ : Type) where
  thread : ι
  call : QueueCall δ
  ret : Option δ
deriving DecidableEq

namespace QueuePc

variable {δ : Type}

/-- Between the exchange that has found the lock free and the store that frees it. -/
def holds : QueuePc δ → Bool
  | addRef _ | read _ | write _ _ | setEvent _ | unlock _ _ => true
  | idle | firstSize | secondSize _ | exchange _ | spin _ | subRef _ _ => false

/-- Counted in `m_lLockRefNum`. -/
def counted : QueuePc δ → Bool
  | read _ | write _ _ | setEvent _ | unlock _ _ | subRef _ _ => true
  | idle | firstSize | secondSize _ | exchange _ | spin _ | addRef _ => false

def isWrite : QueuePc δ → Bool
  | write _ _ => true
  | idle | firstSize | secondSize _ | exchange _ | spin _ | addRef _ | read _ | setEvent _ | unlock _ _
  | subRef _ _ => false

/-- The steps to the end of the section. -/
def left : QueuePc δ → Nat
  | addRef c => c.rest + 3
  | read c => c.rest + 2
  | write c _ => c.rest + 1
  | setEvent _ => 2
  | unlock _ _ => 1
  | idle | firstSize | secondSize _ | exchange _ | spin _ | subRef _ _ => 0

/-- What the thread has done and not returned. -/
def pending {ι : Type} (t : ι) : QueuePc δ → List (QueueEntry ι δ)
  | setEvent pMes => [⟨t, .pushMessage pMes, none⟩]
  | unlock c ret | subRef c ret => [⟨t, c, ret⟩]
  | idle | firstSize | secondSize _ | exchange _ | spin _ | addRef _ | read _ | write _ _ => []

end QueuePc

structure CXMessageQueue (ι δ : Type) where
  m_queue : NodeQueue δ
  m_lock : Bool
  m_lLockRefNum : Int
  m_event : Nat
  pc : ι → QueuePc δ
  log : List (QueueEntry ι δ)
  returned : List (QueueEntry ι δ)

namespace CXMessageQueue

variable {ι δ : Type} [DecidableEq ι]

def construct : CXMessageQueue ι δ where
  m_queue := NodeQueue.construct
  m_lock := false
  m_lLockRefNum := 0
  m_event := 0
  pc := fun _ => .idle
  log := []
  returned := []

def setPc (s : CXMessageQueue ι δ) (t : ι) (p : QueuePc δ) : CXMessageQueue ι δ :=
  { s with pc := Function.update s.pc t p }

/-- The beginning of `PushMessage` and `GetMessage`. -/
def call (s : CXMessageQueue ι δ) (t : ι) (c : QueueCall δ) : Option (CXMessageQueue ι δ) :=
  match s.pc t, c with
  | .idle, .pushMessage pMes => some (s.setPc t (.exchange (.pushMessage pMes)))
  | .idle, .getMessage => some (s.setPc t .firstSize)
  | _, _ => none

/-- `Wait(dwMilliseconds)` up to its end, with a signal or with the time that has passed. -/
def wait (s : CXMessageQueue ι δ) (t : ι) : Option (CXMessageQueue ι δ) :=
  match s.pc t with
  | .idle => some { s with m_event := s.m_event - 1 }
  | _ => none

/-- What the call does with the queue that it has read, `newOk` is whether a block gets its memory; `none` is an
access that fails. `PushMessage` does not look at what `Push` returns. -/
def operate (newOk : Bool) (c : QueueCall δ) (queue : NodeQueue δ) : Option (NodeQueue δ × Option δ) :=
  match c with
  | .pushMessage pMes => (queue.push newOk pMes).map fun r => (r.1, none)
  | .getMessage => if 0 < queue.size then queue.popFront else some (queue, none)

/-- `PushMessage` sets the event with the lock held. -/
def afterWrite (c : QueueCall δ) (ret : Option δ) : QueuePc δ :=
  match c with
  | .pushMessage pMes => .setEvent pMes
  | .getMessage => .unlock c ret

/-- The queue is the one that the operation has made. -/
def written (s : CXMessageQueue ι δ) (t : ι) (c : QueueCall δ) (r : NodeQueue δ × Option δ) : CXMessageQueue ι δ :=
  { s.setPc t (afterWrite c r.2) with m_queue := r.1, log := s.log ++ [⟨t, c, r.2⟩] }

/-- The next step of a thread in a call. -/
def go (s : CXMessageQueue ι δ) (t : ι) (newOk : Bool) : Option (CXMessageQueue ι δ) :=
  match s.pc t with
  | .idle => none
  | .firstSize => some (s.setPc t (.secondSize s.m_queue.firstQueueData.size))
  | .secondSize iFirst =>
    if 0 < iFirst + s.m_queue.secondQueueData.size then some (s.setPc t (.exchange .getMessage))
    -- `return NULL`
    else some (s.setPc t .idle)
  | .exchange c => some { s.setPc t (if s.m_lock then .spin c else .addRef c) with m_lock := true }
  | .spin c => some (s.setPc t (if s.m_lock then .spin c else .exchange c))
  | .addRef c => some { s.setPc t (.read c) with m_lLockRefNum := s.m_lLockRefNum + 1 }
  | .read c => some (s.setPc t (.write c s.m_queue))
  | .write c queue =>
    (operate newOk c queue).map (s.written t c)
  | .setEvent pMes => some { s.setPc t (.unlock (.pushMessage pMes) none) with m_event := s.m_event + 1 }
  | .unlock c ret => some { s.setPc t (.subRef c ret) with m_lock := false }
  | .subRef c ret =>
    some { s.setPc t .idle with
      m_lLockRefNum := s.m_lLockRefNum - 1
      returned := s.returned ++ [⟨t, c, ret⟩] }

inductive Act (ι δ : Type)
  | call (t : ι) (c : QueueCall δ)
  | wait (t : ι)
  | go (t : ι) (newOk : Bool)

def step (s : CXMessageQueue ι δ) : Act ι δ → Option (CXMessageQueue ι δ)
  | .call t c => s.call t c
  | .wait t => s.wait t
  | .go t newOk => s.go t newOk

/-- The operation on the queue meets its condition. -/
def CallOk (newOk : Bool) (queue : NodeQueue δ) : QueueCall δ → Prop
  | .pushMessage _ => queue.PushOk newOk
  | .getMessage => 0 < queue.size → queue.PopOk

instance (newOk : Bool) (queue : NodeQueue δ) : ∀ c, Decidable (CallOk newOk queue c)
  | .pushMessage _ => inferInstanceAs (Decidable (NodeQueue.PushOk _ _))
  | .getMessage => inferInstanceAs (Decidable (_ → NodeQueue.PopOk _))

/-- A thread at this place does its operation next, and meets its condition. -/
def WriteOk (newOk : Bool) : QueuePc δ → Prop
  | .write c queue => CallOk newOk queue c
  | .idle | .firstSize | .secondSize _ | .exchange _ | .spin _ | .addRef _ | .read _ | .setEvent _ | .unlock _ _
  | .subRef _ _ => True

instance (newOk : Bool) : ∀ p : QueuePc δ, Decidable (WriteOk newOk p)
  | .write c queue => inferInstanceAs (Decidable (CallOk newOk queue c))
  | .idle | .firstSize | .secondSize _ | .exchange _ | .spin _ | .addRef _ | .read _ | .setEvent _ | .unlock _ _
  | .subRef _ _ => inferInstanceAs (Decidable True)

def StepOk (s : CXMessageQueue ι δ) : Act ι δ → Prop
  | .go t newOk => WriteOk newOk (s.pc t)
  | .call _ _ | .wait _ => True

instance (s : CXMessageQueue ι δ) : ∀ a, Decidable (StepOk s a)
  | .go t newOk => inferInstanceAs (Decidable (WriteOk newOk (s.pc t)))
  | .call _ _ | .wait _ => inferInstanceAs (Decidable True)

/-- The operation that a thread in the section has still to do meets its condition. -/
def Ready (queue : NodeQueue δ) : QueuePc δ → Prop
  | .addRef c | .read c => CallOk true queue c
  | .write c q => CallOk true q c
  | .idle | .firstSize | .secondSize _ | .exchange _ | .spin _ | .setEvent _ | .unlock _ _ | .subRef _ _ => True

/-! ### One queue and no threads -/

/-- The operations one after the other on a list, with their results. -/
inductive Atomic : List (QueueEntry ι δ) → List (Option δ) → Prop
  | nil : Atomic [] []
  | push {log : List (QueueEntry ι δ)} {q : List (Option δ)} (h : Atomic log q) (t : ι) (pMes : Option δ) :
    Atomic (log ++ [⟨t, .pushMessage pMes, none⟩]) (q ++ [pMes])
  | get {log : List (QueueEntry ι δ)} {q : List (Option δ)} (h : Atomic log q) (t : ι) :
    Atomic (log ++ [⟨t, .getMessage, q.head?.join⟩]) q.tail

/-- The messages that were pushed, `NULL` apart. -/
def sent (log : List (QueueEntry ι δ)) : List δ :=
  log.filterMap fun e =>
    match e.call with
    | .pushMessage pMes => pMes
    | .getMessage => none

/-- The messages that were taken. -/
def taken (log : List (QueueEntry ι δ)) : List δ :=
  log.filterMap fun e =>
    match e.call with
    | .pushMessage _ => none
    | .getMessage => e.ret

/-- What holds in every state of a run whose operations meet their conditions, whatever the order of the steps. -/
structure Atomically [Fintype ι] (s : CXMessageQueue ι δ) : Prop where
  mutex : ∀ t t', (s.pc t).holds = true → (s.pc t').holds = true → t = t'
  /-- one queue, with the calls in the order of their writes: no message is lost, none is taken twice, and none
  overtakes another -/
  atomic : ∃ q, s.m_queue.Stands q ∧ Atomic s.log q ∧ taken s.log ++ q.reduceOption = sent s.log
  /-- each call returns what its own operation gave -/
  own : ∀ t, s.log.filter (·.thread = t) = s.returned.filter (·.thread = t) ++ (s.pc t).pending t
  /-- `GetLockingCount()` -/
  count : s.m_lLockRefNum = (Finset.univ.filter fun t => (s.pc t).counted = true).card
  /-- no section gets stuck: the thread in it frees the lock by itself -/
  frees : s.m_lock = true → ∃ t, (s.pc t).holds = true ∧ (Ready s.m_queue (s.pc t) →
    ∃ s', runSteps (guarded StepOk step) s (List.replicate (s.pc t).left (.go t true)) = some s' ∧ s'.m_lock = false)

end CXMessageQueue

end KonsanNet
