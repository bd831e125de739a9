import Mathlib.Tactic
import KonsanNet.TaskPoolInv

/-!
# The task pool up to its end (`CXTaskPool::Destroy`)

`ProcessTasks` reads `m_bRunning` in front of each wait, behind it and in front of each look at the queue. These reads
are steps here: a worker of `CXTaskPool` stands in front of one until it is `checked`. The owner of the pool calls
`ResizePool`, and at last, with no `ResizePool` in progress, `Destroy`, which takes `m_bRunning` back and posts one
signal for each worker that `m_dwPoolSize` counts when it looks; tasks may be pushed at any time.
-/

namespace KonsanNet

/-- Where the owner stands: not in `Destroy`, in its loop, or in `WaitAllExited`. -/
inductive PoolOwner
  | free
  | notifying (i : Nat)
  | waitingAll
deriving DecidableEq

structure PoolLife (τ : Type) where
  pool : CXTaskPool τ
  m_bRunning : Bool
  /-- the workers behind their read of `m_bRunning` -/
  checked : List Bool
  owner : PoolOwner

namespace PoolLife

variable {τ : Type}

/-- `Create` has succeeded. -/
def created (iPoolSize iTaskQueueSize : Nat) : PoolLife τ where
  pool := .created iPoolSize iTaskQueueSize
  m_bRunning := true
  checked := List.replicate iPoolSize false
  owner := .free

/-- A section of worker `i`, which has read `m_bRunning`. -/
def inSection (s : PoolLife τ) (i : Nat) (pool : Option (CXTaskPool τ)) : Option (PoolLife τ) :=
  if s.checked[i]? = some true then pool.map fun pool => { s with pool := pool, checked := s.checked.set i false }
  else none

/-- The read of `m_bRunning`: the worker goes on, or it leaves its loop. -/
def check (s : PoolLife τ) (i : Nat) : Option (PoolLife τ) :=
  match s.pool.workers[i]?, s.checked[i]? with
  | some .waiting, some false =>
    if s.m_bRunning then some { s with checked := s.checked.set i true }
    else some { s with pool := s.pool.setWorker i .exited }
  | some .woken, some false =>
    if s.m_bRunning then some { s with checked := s.checked.set i true }
    else some { s with pool := s.pool.setWorker i .exited }
  -- the inner loop; the outer one reads again
  | some .taking, some false =>
    if s.m_bRunning then some { s with checked := s.checked.set i true }
    else some { s with pool := s.pool.setWorker i .waiting }
  | _, _ => none

inductive Act (τ : Type)
  | pushTask (pTask : τ)
  | resizePool (iPoolSize : Int) (free new : List StartAnswer) (bAddPoolSize : Bool)
  | resizeWait (r : WaitResult)
  | destroy
  | notify
  | check (i : Nat)
  | wake (i : Nat)
  | decideExit (i : Nat)
  | takeTask (i : Nat)
  | runTask (i : Nat)

/-- A step of a worker. -/
def Act.ofWorker : Act τ → Bool
  | check _ | wake _ | decideExit _ | takeTask _ | runTask _ => true
  | pushTask _ | resizePool .. | resizeWait _ | destroy | notify => false

/-- The threads that a `ResizePool` has started come with it. -/
def resized (s : PoolLife τ) (pool : CXTaskPool τ) : PoolLife τ :=
  { s with pool := pool, checked := s.checked ++ List.replicate (pool.workers.length - s.pool.workers.length) false }

/-- `m_bRunning = false;`. A `ResizePool` of another thread that still waits could take one of the signals. -/
def destroy (s : PoolLife τ) : Option (PoolLife τ) :=
  if s.owner = .free ∧ s.pool.bResizing = false then some { s with m_bRunning := false, owner := .notifying 0 }
  else none

/-- One round of `for (int i = 0; i < m_dwPoolSize; i++)` -/
def notify (s : PoolLife τ) : Option (PoolLife τ) :=
  match s.owner with
  | .notifying i =>
    if i < s.pool.dwPoolSize then
      some { s with pool := { s.pool with event := s.pool.event + 1 }, owner := .notifying (i + 1) }
    else some { s with owner := .waitingAll }
  | _ => none

def step (s : PoolLife τ) : Act τ → Option (PoolLife τ)
  | .pushTask pTask => (s.pool.pushTask pTask).map fun pool => { s with pool := pool }
  | .resizePool iPoolSize free new bAddPoolSize =>
    if s.owner = .free then (s.pool.resizePool iPoolSize free new bAddPoolSize).map s.resized else none
  | .resizeWait r => if s.owner = .free then (s.pool.resizeWait r).map fun pool => { s with pool := pool } else none
  | .destroy => s.destroy
  | .notify => s.notify
  | .check i => s.check i
  | .wake i => s.inSection i (s.pool.wake i)
  | .decideExit i => s.inSection i (s.pool.decideExit i)
  | .takeTask i => s.inSection i (s.pool.takeTask i)
  | .runTask i => (s.pool.runTask i).map fun pool => { s with pool := pool, checked := s.checked.set i false }

/-- Where the workers stand. -/
def stands (s : PoolLife τ) : List (PoolWorker τ × Bool) := s.pool.workers.zip s.checked

/-- The worker needs a signal, or it may still be sent away by a `ResizePool`. -/
def waits : PoolWorker τ × Bool → Bool
  | (.waiting, true) | (.woken, true) => true
  | _ => false

def stays : PoolWorker τ × Bool → Bool
  | (.exited, _) => false
  | _ => true

/-- The worker is going to look at the queue. -/
def takes : PoolWorker τ × Bool → Bool
  | (.taking, true) => true
  | _ => false

/-- The steps that are left for a worker behind `m_bRunning = false`. -/
def rank : PoolWorker τ × Bool → Nat
  | (.exited, _) => 0
  | (.waiting, false) | (.woken, false) => 1
  | (.waiting, true) | (.taking, false) => 2
  | (.woken, true) | (.running _, _) => 3
  | (.taking, true) => 4

/-- The steps that all workers can still take. -/
def stepsLeft (s : PoolLife τ) : Nat := (s.stands.map rank).sum

def AllExited (s : PoolLife τ) : Prop := ∀ w ∈ s.pool.workers, w = .exited

/-- A run behind `Destroy`. -/
structure Leaves (s₀ : PoolLife τ) (as : List (Act τ)) (s : PoolLife τ) : Prop where
  /-- the workers take few steps -/
  bounded : as.countP Act.ofWorker + s.stepsLeft ≤ s₀.stepsLeft
  few : s₀.stepsLeft ≤ 4 * s₀.pool.workers.length
  /-- no worker takes a task but the ones that were about to -/
  taken : s.pool.popped.length ≤ s₀.pool.popped.length + s₀.stands.countP takes
  /-- `Destroy` posts at most `m_dwPoolSize` signals, and nothing holds it up -/
  notifies : ∀ i, s.owner = .notifying i → i ≤ s₀.pool.dwPoolSize ∧ (s.step .notify).isSome
  /-- no worker waits for a signal that does not come -/
  leaves : s.owner = .waitingAll → s.AllExited ∨ ∃ a, Act.ofWorker a = true ∧ (s.step a).isSome

end PoolLife

end KonsanNet
