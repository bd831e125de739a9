import KonsanNet.QueueInv

/-!
# The task pool (`CXTaskPool`, `CXEvent`)

`m_event` is a counting semaphore. `PushTask` posts it once for each task, `ResizePool` once for each worker
that is to leave, and `ResizePool` then waits for it itself, with `m_lock` held. A worker that has taken a
signal leaves or empties the queue. Everything that works on the queue or the sizes does so with `m_lock`; such
a section is one step, but that the workers take signals while `ResizePool` waits.

The model is of a pool that runs (`m_bRunning`), and `popped` and `ran` record the tasks with the workers that
have taken them and called their `Run`. `m_bReducingPoolSize` is only taken back by a worker that finds nobody
left to send away.

The queue is `CXQueue` here, whose blocks are lists; `TaskQueue` has the same steps over the queue in memory and says
when the two agree.
-/

namespace KonsanNet

/-- Where a worker stands in `ProcessTasks`. -/
inductive PoolWorker (τ : Type)
  /-- in `m_event.WaitForSingleObject(INFINITE)` -/
  | waiting
  /-- at the `m_lock.Lock()` behind it -/
  | woken
  /-- at the `m_lock.Lock()` of the inner loop -/
  | taking
  /-- with a task that it is going to run -/
  | running (pTask : τ)
  /-- It has left the pool. -/
  | exited
deriving DecidableEq

namespace PoolWorker

variable {τ : Type}

def isWoken : PoolWorker τ → Bool
  | woken => true
  | waiting | taking | running _ | exited => false

/-- The worker will look at the queue. -/
def drains : PoolWorker τ → Bool
  | taking | running _ => true
  | waiting | woken | exited => false

end PoolWorker

/-- What `CXEvent::WaitForSingleObject` returns to `ResizePool`. -/
inductive WaitResult
  | object0
  | timeout
  | failed
deriving DecidableEq

/-- One round of a loop of `ResizePool`: `GetFreeThread` and `Start`. -/
inductive StartAnswer
  | noThread
  | started
  | failed
deriving DecidableEq

/-- The pool, with what `ResizePool` has returned, the pushed tasks, and the tasks that the workers have taken
and run, in this order. -/
structure CXTaskPool (τ : Type) (Q : Type := CXQueue τ) where
  dwPoolSize : Nat
  dwReducedPoolSize : Nat
  bReducingPoolSize : Bool
  event : Nat
  queueOutstandingTask : Q
  /-- A call of `ResizePool` waits, with `m_lock`. -/
  bResizing : Bool
  workers : List (PoolWorker τ)
  resized : List Bool
  pushed : List τ
  popped : List (Nat × τ)
  ran : List (Nat × τ)

namespace CXTaskPool

variable {τ Q : Type}

/-- `Create(iPoolSize, iTaskQueueSize, ..)` has succeeded. -/
def created (iPoolSize iTaskQueueSize : Nat) : CXTaskPool τ where
  dwPoolSize := iPoolSize
  dwReducedPoolSize := iPoolSize
  bReducingPoolSize := false
  event := 0
  queueOutstandingTask := CXQueue.construct.init (if iTaskQueueSize > 10000 then iTaskQueueSize else 10000)
  bResizing := false
  workers := List.replicate iPoolSize .waiting
  resized := []
  pushed := []
  popped := []
  ran := []

def setWorker (s : CXTaskPool τ Q) (i : Nat) (w : PoolWorker τ) : CXTaskPool τ Q :=
  { s with workers := s.workers.set i w }

def pushTask (s : CXTaskPool τ) (pTask : τ) : Option (CXTaskPool τ) :=
  if s.bResizing then none
  else (s.queueOutstandingTask.push (some pTask)).map fun q =>
    { s with queueOutstandingTask := q, event := s.event + 1, pushed := s.pushed ++ [pTask] }

/-- A loop that starts threads: `i`, the bound of `i` by `iAddNumber`, and `iAddNumber`. -/
def startThreads (bound : Nat → Nat) : Nat → Nat → List StartAnswer → Option (Nat × Bool)
  | i, iAddNumber, [] => if i < bound iAddNumber then none else some (iAddNumber, true)
  | i, iAddNumber, a :: answers =>
    if i < bound iAddNumber then
      match a with
      | .noThread => startThreads bound (i + 1) iAddNumber answers
      | .started => startThreads bound (i + 1) (iAddNumber + 1) answers
      | .failed => some (iAddNumber, false)
    else some (iAddNumber, true)

/-- The branch of `ResizePool` that adds workers: their number and what it returns. The loop over the new threads
compares `i` with `iPoolSize - iAddNumber`, which gets smaller. -/
def addWorkers (iPoolSize : Nat) (free new : List StartAnswer) (bAddPoolSize : Bool) : Option (Nat × Bool) :=
  match startThreads (fun _ => iPoolSize) 0 0 free with
  | none => none
  | some (iAddNumber, bSucceed) =>
    if bSucceed && bAddPoolSize then startThreads (fun iAddNumber => iPoolSize - iAddNumber) 0 iAddNumber new
    else some (iAddNumber, false)

/-- `ResizePool(iPoolSize)`; where it reduces, up to its first wait. -/
def resizePool (s : CXTaskPool τ Q) (iPoolSize : Int) (free new : List StartAnswer) (bAddPoolSize : Bool) :
    Option (CXTaskPool τ Q) :=
  if iPoolSize < 2 then some { s with resized := s.resized ++ [false] }
  else if s.bResizing then none
  else if iPoolSize.toNat < s.dwPoolSize then
    some { s with
      bReducingPoolSize := true
      dwReducedPoolSize := iPoolSize.toNat
      event := s.event + (s.dwPoolSize - iPoolSize.toNat)
      bResizing := true }
  else
    (addWorkers iPoolSize.toNat free new bAddPoolSize).map fun r =>
      { s with
        dwPoolSize := s.dwPoolSize + r.1
        workers := s.workers ++ List.replicate r.1 .waiting
        resized := s.resized ++ [r.2] }

/-- `m_event.WaitForSingleObject(100)` in `ResizePool`. -/
def resizeWait (s : CXTaskPool τ Q) (r : WaitResult) : Option (CXTaskPool τ Q) :=
  if s.bResizing then
    match r with
    | .object0 =>
      if 0 < s.event then
        some { s with event := s.event - 1, bResizing := false, resized := s.resized ++ [true] }
      else none
    | .timeout => some s
    | .failed => some { s with bResizing := false, resized := s.resized ++ [false] }
  else none

/-- A worker takes a signal. -/
def wake (s : CXTaskPool τ Q) (i : Nat) : Option (CXTaskPool τ Q) :=
  match s.workers[i]? with
  | some .waiting => if 0 < s.event then some ({ s with event := s.event - 1 }.setWorker i .woken) else none
  | _ => none

/-- The section behind the wait: the worker leaves, or goes on to the queue. -/
def decideExit (s : CXTaskPool τ Q) (i : Nat) : Option (CXTaskPool τ Q) :=
  match s.workers[i]? with
  | some .woken =>
    if s.bResizing then none
    else if s.bReducingPoolSize then
      if s.dwReducedPoolSize < s.dwPoolSize then
        some ({ s with dwPoolSize := s.dwPoolSize - 1 }.setWorker i .exited)
      else some ({ s with bReducingPoolSize := false }.setWorker i .taking)
    else some (s.setWorker i .taking)
  | _ => none

/-- The section of the inner loop; without a task the worker goes back to the wait. -/
def takeTask (s : CXTaskPool τ) (i : Nat) : Option (CXTaskPool τ) :=
  match s.workers[i]? with
  | some .taking =>
    if s.bResizing then none
    else if 0 < s.queueOutstandingTask.size then
      match s.queueOutstandingTask.popFront with
      | none => none
      | some (q, none) => some ({ s with queueOutstandingTask := q }.setWorker i .waiting)
      | some (q, some pTask) =>
        some ({ s with queueOutstandingTask := q, popped := s.popped ++ [(i, pTask)] }.setWorker i (.running pTask))
    else some (s.setWorker i .waiting)
  | _ => none

/-- `pTask->Run()` -/
def runTask (s : CXTaskPool τ Q) (i : Nat) : Option (CXTaskPool τ Q) :=
  match s.workers[i]? with
  | some (.running pTask) => some ({ s with ran := s.ran ++ [(i, pTask)] }.setWorker i .taking)
  | _ => none

inductive Act (τ : Type)
  | pushTask (pTask : τ)
  | resizePool (iPoolSize : Int) (free new : List StartAnswer) (bAddPoolSize : Bool)
  | resizeWait (r : WaitResult)
  | wake (i : Nat)
  | decideExit (i : Nat)
  | takeTask (i : Nat)
  | runTask (i : Nat)

def step (s : CXTaskPool τ) : Act τ → Option (CXTaskPool τ)
  | .pushTask pTask => s.pushTask pTask
  | .resizePool iPoolSize free new bAddPoolSize => s.resizePool iPoolSize free new bAddPoolSize
  | .resizeWait r => s.resizeWait r
  | .wake i => s.wake i
  | .decideExit i => s.decideExit i
  | .takeTask i => s.takeTask i
  | .runTask i => s.runTask i

/-- The workers that are still to leave. -/
def exits (s : CXTaskPool τ Q) : Nat := if s.bReducingPoolSize then s.dwPoolSize - s.dwReducedPoolSize else 0

/-- The signals that are not used up: in the semaphore, or with a worker that has not decided yet. -/
def signals (s : CXTaskPool τ Q) : Nat := s.event + s.workers.countP PoolWorker.isWoken

/-- A worker is at the queue. -/
def Draining (s : CXTaskPool τ Q) : Prop := s.workers.any PoolWorker.drains = true

/-- The task that the worker has taken and not run yet. -/
def held (s : CXTaskPool τ Q) (i : Nat) : List (Nat × τ) :=
  match s.workers[i]? with
  | some (.running pTask) => [(i, pTask)]
  | _ => []

/-- All workers that are left wait for a signal, and there is none. -/
def Asleep (s : CXTaskPool τ Q) : Prop := (∀ w ∈ s.workers, w = .waiting ∨ w = .exited) ∧ s.event = 0

end CXTaskPool

end KonsanNet
