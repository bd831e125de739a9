import KonsanNet.TaskPoolInv
import KonsanNet.ThreadPool

/-!
# Which size `ResizePool` reaches

The task pool takes its workers from a thread pool. `ResizePool(n)` starts `a = min(free, n)` free threads
first, adds `n - a` new ones, and starts `⌈(n - a) / 2⌉` of these, since its loop compares `i` with `n -
iAddNumber`. All of them are counted on top of the workers that are there. Where it reduces, it waits for a
signal of `m_event` with `m_lock` held, so that no worker can leave, and returns `true` only with a signal that
was meant for a worker.

A thread that was started is a worker. A worker that leaves gives its thread back at any time between two calls of
`ResizePool`, or never, as `m_stateThread` was not initialised.
-/

namespace KonsanNet

namespace PoolWorker

variable {τ : Type}

/-- The worker is in `ProcessTasks`. -/
def inProcessTasks : PoolWorker τ → Bool
  | waiting | woken | taking | running _ => true
  | exited => false

end PoolWorker

/-- A task pool and its `m_threadTasks`. -/
structure ThreadedPool (τ : Type) where
  pool : CXTaskPool τ
  threadTasks : CXThreadPool

namespace ThreadedPool

variable {τ : Type}

/-- A loop that starts threads, for `fuel` rounds at most: `i`, the bound of `i` by `iAddNumber`, and
`iAddNumber`. -/
def startLoop (start : Nat → Bool) (bound : Nat → Nat) : Nat → Nat → Nat → CXThreadPool → CXThreadPool × Nat × Bool
  | 0, _, iAddNumber, tp => (tp, iAddNumber, true)
  | fuel + 1, i, iAddNumber, tp =>
    if i < bound iAddNumber then
      match tp.getFreeThread with
      | (tp, none) => startLoop start bound fuel (i + 1) iAddNumber tp
      | (tp, some pThread) =>
        if start pThread then startLoop start bound fuel (i + 1) (iAddNumber + 1) tp
        else (tp, iAddNumber, false)
    else (tp, iAddNumber, true)

/-- The branch of `ResizePool` that adds workers. -/
def addWorkers (iPoolSize : Nat) (start : Nat → Bool) (create : Nat → Option Nat) (tp : CXThreadPool) :
    CXThreadPool × Nat × Bool :=
  match startLoop start (fun _ => iPoolSize) iPoolSize 0 0 tp with
  | (tp, iAddNumber, false) => (tp, iAddNumber, false)
  | (tp, iAddNumber, true) =>
    match tp.addPoolSize (iPoolSize - iAddNumber) create with
    | (tp, false) => (tp, iAddNumber, false)
    | (tp, true) => startLoop start (fun iAddNumber => iPoolSize - iAddNumber) iPoolSize 0 iAddNumber tp

/-- `ResizePool(iPoolSize)`, up to its first wait where it reduces; `start` says which threads can be started, and
`create` which can be created and with what ids. -/
def resizePool (s : ThreadedPool τ) (iPoolSize : Int) (start : Nat → Bool) (create : Nat → Option Nat) :
    Option (ThreadedPool τ) :=
  if iPoolSize < 2 then some { s with pool := { s.pool with resized := s.pool.resized ++ [false] } }
  else if s.pool.bResizing then none
  else if iPoolSize.toNat < s.pool.dwPoolSize then
    some { s with
      pool := { s.pool with
        bReducingPoolSize := true
        dwReducedPoolSize := iPoolSize.toNat
        event := s.pool.event + (s.pool.dwPoolSize - iPoolSize.toNat)
        bResizing := true } }
  else
    let r := addWorkers iPoolSize.toNat start create s.threadTasks
    r.1.withDistinctIds.map fun tp =>
      { pool := { s.pool with
          dwPoolSize := s.pool.dwPoolSize + r.2.1
          workers := s.pool.workers ++ List.replicate r.2.1 .waiting
          resized := s.pool.resized ++ [r.2.2] }
        threadTasks := tp }

/-- `Create(iPoolSize, iTaskQueueSize, ..)` on a new pool, where it succeeds. -/
def create (iPoolSize iTaskQueueSize : Nat) (start : Nat → Bool) (create : Nat → Option Nat) :
    Option (ThreadedPool τ) :=
  if iPoolSize < 2 ∨ iTaskQueueSize < 100 ∨ 1000000 < iTaskQueueSize then none
  else
    match CXThreadPool.construct.createPool iPoolSize create with
    | (_, false) => none
    | (tp, true) =>
      match startLoop start (fun _ => iPoolSize) iPoolSize 0 0 tp with
      | (_, _, false) => none
      | (tp, _, true) =>
        tp.withDistinctIds.map fun tp => { pool := .created iPoolSize iTaskQueueSize, threadTasks := tp }

/-- `work` is everything that is not a call of `ResizePool`: tasks that are pushed, the wait of a call that reduces,
and the workers. -/
inductive Act (τ : Type)
  | resizePool (iPoolSize : Int) (start : Nat → Bool) (create : Nat → Option Nat)
  | releaseThread (t : Nat) (state : ThreadState)
  | work (a : CXTaskPool.Act τ)

def Act.isCall : Act τ → Bool
  | .resizePool .. | .work (.resizePool ..) => true
  | .releaseThread .. | .work (.pushTask _) | .work (.resizeWait _) | .work (.wake _) | .work (.decideExit _)
  | .work (.takeTask _) | .work (.runTask _) => false

def step (s : ThreadedPool τ) : Act τ → Option (ThreadedPool τ)
  | .resizePool iPoolSize start create => s.resizePool iPoolSize start create
  | .releaseThread t state =>
    (s.threadTasks.step (.releaseThread t state)).map fun tp => { s with threadTasks := tp }
  | .work a => if (Act.work a).isCall then none else (s.pool.step a).map fun p => { s with pool := p }

/-- A call of `ResizePool(n)`, and what is done without another call until it has returned `true` and later. -/
structure ReturnsTrue (s : ThreadedPool τ) (n : Nat) (start : Nat → Bool) (create : Nat → Option Nat)
    (s₁ : ThreadedPool τ) (acts : List (Act τ)) (s' : ThreadedPool τ) : Prop where
  call : s.step (.resizePool n start create) = some s₁
  noCall : ∀ a ∈ acts, a.isCall = false
  run : runSteps step s₁ acts = some s'
  returned : s'.pool.resized = s.pool.resized ++ [true]

/-- The size is reached, once the signals for the workers that were to leave are used up. A call that reduces has
taken none of them, and has not held the lock while the workers were to leave. -/
structure Reached (s : ThreadedPool τ) (n : Nat) (s₁ : ThreadedPool τ) (acts : List (Act τ)) (s' : ThreadedPool τ) :
    Prop where
  size : (n < s.pool.dwPoolSize → s'.pool.signals = 0) → s'.pool.dwPoolSize = n
  workers : (n < s.pool.dwPoolSize → s'.pool.signals = 0) → s'.pool.workers.countP PoolWorker.inProcessTasks = n
  notTaken : n < s.pool.dwPoolSize → .work (.resizeWait .object0) ∉ acts
  unlocked : n < s.pool.dwPoolSize → s₁.pool.bResizing = false

/-- `ResizePool(n)`, called now, reaches `n` whenever it returns `true`. -/
def Reaches (s : ThreadedPool τ) (n : Nat) : Prop :=
  ∀ start create s₁ acts s', ReturnsTrue s n start create s₁ acts s' → Reached s n s₁ acts s'

/-- The number of workers that `ResizePool(n)` adds where it does not reduce. -/
def added (n free : Nat) : Nat := min n free + (n - min n free + 1) / 2

end ThreadedPool

/-! ### The workers and the size -/

namespace CXTaskPool

variable {τ : Type} {s s' : CXTaskPool τ} {i : Nat} {w : PoolWorker τ}

/-- The size is the number of workers, and it is not reduced below what was asked for. -/
structure Staffed (s : CXTaskPool τ) : Prop where
  workers : s.workers.countP PoolWorker.inProcessTasks = s.dwPoolSize
  reduced : s.bReducingPoolSize = true → s.dwReducedPoolSize ≤ s.dwPoolSize

/-- The sizes, the flags and what `ResizePool` has returned are as before. -/
structure Steady (s s' : CXTaskPool τ) : Prop where
  workers : s'.workers.countP PoolWorker.inProcessTasks = s.workers.countP PoolWorker.inProcessTasks
  size : s'.dwPoolSize = s.dwPoolSize
  reduced : s'.dwReducedPoolSize = s.dwReducedPoolSize
  reducing : s'.bReducingPoolSize = s.bReducingPoolSize
  resizing : s'.bResizing = s.bResizing
  resized : s'.resized = s.resized

theorem Steady.refl (s : CXTaskPool τ) : Steady s s := ⟨rfl, rfl, rfl, rfl, rfl, rfl⟩

theorem Steady.trans {s₁ : CXTaskPool τ} (h : Steady s s₁) (h' : Steady s₁ s') : Steady s s' where
  workers := h'.workers.trans h.workers
  size := h'.size.trans h.size
  reduced := h'.reduced.trans h.reduced
  reducing := h'.reducing.trans h.reducing
  resizing := h'.resizing.trans h.resizing
  resized := h'.resized.trans h.resized

theorem Steady.staffed (hst : Steady s s') (h : Staffed s) : Staffed s' where
  workers := by rw [hst.workers, hst.size, h.workers]
  reduced := by
    rw [hst.reducing, hst.reduced, hst.size]
    exact h.reduced

/-- A worker that stays. -/
theorem steady_setWorker (w' : PoolWorker τ) (h : s.workers[i]? = some w) (hw : w.inProcessTasks = true)
    (hw' : w'.inProcessTasks = true) : Steady s (s.setWorker i w') where
  workers := by
    have hset := countP_setWorker PoolWorker.inProcessTasks w' h
    rw [hw, hw'] at hset
    exact Nat.add_right_cancel hset
  size := rfl
  reduced := rfl
  reducing := rfl
  resizing := rfl
  resized := rfl

theorem steady_pushTask {pTask : τ} (hs : s.pushTask pTask = some s') : Steady s s' := by
  unfold pushTask at hs
  split at hs
  · cases hs
  obtain ⟨q, -, rfl⟩ := Option.map_eq_some_iff.mp hs
  exact ⟨rfl, rfl, rfl, rfl, rfl, rfl⟩

theorem steady_wake (hs : s.wake i = some s') : Steady s s' := by
  unfold wake at hs
  split at hs
  case h_2 => cases hs
  rename_i hw
  split at hs
  case isFalse => cases hs
  cases hs
  have hset := steady_setWorker (s := { s with event := s.event - 1 }) .woken hw rfl rfl
  exact ⟨hset.workers, rfl, rfl, rfl, rfl, rfl⟩

theorem steady_takeTask (hs : s.takeTask i = some s') : Steady s s' := by
  unfold takeTask at hs
  split at hs
  case h_2 => cases hs
  rename_i hw
  split at hs
  · cases hs
  split at hs
  · split at hs
    · cases hs
    · rename_i q _
      cases hs
      have hset := steady_setWorker (s := { s with queueOutstandingTask := q }) .waiting hw rfl rfl
      exact ⟨hset.workers, rfl, rfl, rfl, rfl, rfl⟩
    · rename_i q t _
      cases hs
      have hset := steady_setWorker (s := { s with queueOutstandingTask := q, popped := s.popped ++ [(i, t)] })
        (.running t) hw rfl rfl
      exact ⟨hset.workers, rfl, rfl, rfl, rfl, rfl⟩
  · cases hs
    exact steady_setWorker _ hw rfl rfl

theorem steady_runTask (hs : s.runTask i = some s') : Steady s s' := by
  unfold runTask at hs
  split at hs
  case h_2 => cases hs
  rename_i t hw
  cases hs
  have hset := steady_setWorker (s := { s with ran := s.ran ++ [(i, t)] }) .taking hw rfl rfl
  exact ⟨hset.workers, rfl, rfl, rfl, rfl, rfl⟩

/-- Nobody leaves while the size is not being reduced. -/
theorem steady_decideExit (hred : s.bReducingPoolSize = false) (hs : s.decideExit i = some s') : Steady s s' := by
  unfold decideExit at hs
  split at hs
  case h_2 => cases hs
  rename_i hw
  split at hs
  · cases hs
  rw [hred] at hs
  cases hs
  exact steady_setWorker _ hw rfl rfl

theorem Staffed.decideExit (h : Staffed s) (hs : s.decideExit i = some s') : Staffed s' := by
  cases hred : s.bReducingPoolSize with
  | false => exact (steady_decideExit hred hs).staffed h
  | true =>
    unfold CXTaskPool.decideExit at hs
    split at hs
    case h_2 => cases hs
    rename_i hw
    split at hs
    · cases hs
    split at hs
    · rename_i hlt
      cases hs
      have hset := countP_setWorker (s := { s with dwPoolSize := s.dwPoolSize - 1 }) PoolWorker.inProcessTasks
        .exited hw
      have hworkers := h.workers
      simp only [PoolWorker.inProcessTasks, if_true, Bool.false_eq_true, if_false] at hset
      refine ⟨?_, fun _ => ?_⟩
      · show _ = s.dwPoolSize - 1
        omega
      · show s.dwReducedPoolSize ≤ s.dwPoolSize - 1
        omega
    · cases hs
      have hset := steady_setWorker (s := { s with bReducingPoolSize := false }) .taking hw rfl rfl
      exact hset.staffed ⟨h.workers, nofun⟩

theorem Staffed.resizePool {iPoolSize : Int} {free new : List StartAnswer} {bAddPoolSize : Bool} (h : Staffed s)
    (hs : s.resizePool iPoolSize free new bAddPoolSize = some s') : Staffed s' := by
  unfold CXTaskPool.resizePool at hs
  split at hs
  · cases hs
    exact ⟨h.workers, h.reduced⟩
  split at hs
  · cases hs
  split at hs
  · rename_i hlt
    cases hs
    exact ⟨h.workers, fun _ => Nat.le_of_lt hlt⟩
  · obtain ⟨r, -, rfl⟩ := Option.map_eq_some_iff.mp hs
    refine ⟨?_, fun hred => Nat.le_add_right_of_le (h.reduced hred)⟩
    show (s.workers ++ List.replicate r.1 PoolWorker.waiting).countP _ = s.dwPoolSize + r.1
    rw [List.countP_append, h.workers, List.countP_replicate]
    rfl

theorem Staffed.resizeWait {r : WaitResult} (h : Staffed s) (hs : s.resizeWait r = some s') : Staffed s' := by
  unfold CXTaskPool.resizeWait at hs
  split at hs
  case isFalse => cases hs
  cases r with
  | object0 =>
    dsimp only at hs
    split at hs
    · cases hs
      exact ⟨h.workers, h.reduced⟩
    · cases hs
  | timeout =>
    cases hs
    exact h
  | failed =>
    cases hs
    exact ⟨h.workers, h.reduced⟩

theorem Staffed.step {a : Act τ} (h : Staffed s) (hs : s.step a = some s') : Staffed s' := by
  cases a with
  | pushTask t => exact (steady_pushTask hs).staffed h
  | resizePool n free new b => exact h.resizePool hs
  | resizeWait r => exact h.resizeWait hs
  | wake i => exact (steady_wake hs).staffed h
  | decideExit i => exact h.decideExit hs
  | takeTask i => exact (steady_takeTask hs).staffed h
  | runTask i => exact (steady_runTask hs).staffed h

theorem staffed_created (iPoolSize iTaskQueueSize : Nat) :
    Staffed (created iPoolSize iTaskQueueSize : CXTaskPool τ) := by
  refine ⟨?_, nofun⟩
  show (List.replicate iPoolSize PoolWorker.waiting).countP _ = iPoolSize
  rw [List.countP_replicate]
  rfl

end CXTaskPool

namespace ThreadedPool

variable {τ : Type} {s s' : ThreadedPool τ} {start : Nat → Bool} {create : Nat → Option Nat} {tp tp' : CXThreadPool}
  {n k : Nat} {b : Bool}

/-! ### The loops -/

theorem length_getFreeThread {t : Nat} (h : tp.getFreeThread = (tp', some t)) :
    tp.lstFreePool.length = tp'.lstFreePool.length + 1 := by
  unfold CXThreadPool.getFreeThread at h
  split at h
  · cases h
  · rename_i hl
    cases h
    rw [hl, List.length_cons]

theorem getFreeThread_none (h : tp.getFreeThread = (tp', none)) : tp' = tp ∧ tp.lstFreePool.length = 0 := by
  unfold CXThreadPool.getFreeThread at h
  split at h
  · rename_i hl
    cases h
    exact ⟨rfl, by rw [hl, List.length_nil]⟩
  · cases h

theorem ids_getFreeThread (tp : CXThreadPool) : tp.getFreeThread.1.ids = tp.ids := by
  unfold CXThreadPool.getFreeThread
  split <;> rfl

theorem startLoop_free : ∀ {fuel i iAdd : Nat} {tp : CXThreadPool}, n - i ≤ fuel →
    startLoop start (fun _ => n) fuel i iAdd tp = (tp', k, true) →
      k = iAdd + min (n - i) tp.lstFreePool.length ∧
        tp'.lstFreePool.length = tp.lstFreePool.length - min (n - i) tp.lstFreePool.length
  | 0, i, iAdd, tp, hfuel, h => by
    cases h
    have : n - i = 0 := by omega
    rw [this, Nat.zero_min]
    exact ⟨rfl, rfl⟩
  | fuel + 1, i, iAdd, tp, hfuel, h => by
    unfold startLoop at h
    split at h
    · rename_i hi
      rcases hg : tp.getFreeThread with ⟨tp₁, _ | t⟩
      · rw [hg] at h
        obtain ⟨rfl, hlen⟩ := getFreeThread_none hg
        obtain ⟨hk, hl⟩ := startLoop_free (by omega) h
        rw [hlen, Nat.min_zero] at hk hl ⊢
        exact ⟨hk, hl⟩
      · rw [hg] at h
        have hlen := length_getFreeThread hg
        dsimp only at h
        split at h
        · obtain ⟨hk, hl⟩ := startLoop_free (by omega) h
          omega
        · cases h
    · rename_i hi
      cases h
      omega

/-- The loop over the new threads ends half way, since its bound comes down as fast as `i` goes up. -/
theorem startLoop_new : ∀ {fuel i iAdd : Nat} {tp : CXThreadPool}, n - i ≤ fuel →
    n - iAdd - i ≤ tp.lstFreePool.length →
    startLoop start (fun iAddNumber => n - iAddNumber) fuel i iAdd tp = (tp', k, true) →
      k = iAdd + (n - iAdd - i + 1) / 2
  | 0, i, iAdd, tp, hfuel, _, h => by
    cases h
    omega
  | fuel + 1, i, iAdd, tp, hfuel, hfree, h => by
    unfold startLoop at h
    split at h
    · rename_i hi
      rcases hg : tp.getFreeThread with ⟨tp₁, _ | t⟩
      · have := (getFreeThread_none hg).2
        omega
      · rw [hg] at h
        have hlen := length_getFreeThread hg
        dsimp only at h
        split at h
        · have := startLoop_new (by omega) (by omega) h
          omega
        · cases h
    · rename_i hi
      cases h
      omega

theorem startLoop_true (bound : Nat → Nat) : ∀ (fuel i iAdd : Nat) (tp : CXThreadPool),
    (startLoop (fun _ => true) bound fuel i iAdd tp).2.2 = true
  | 0, _, _, _ => rfl
  | fuel + 1, i, iAdd, tp => by
    unfold startLoop
    split
    · split
      · exact startLoop_true ..
      · exact startLoop_true ..
    · rfl

theorem ids_startLoop (start : Nat → Bool) (bound : Nat → Nat) : ∀ (fuel i iAdd : Nat) (tp : CXThreadPool),
    (startLoop start bound fuel i iAdd tp).1.ids = tp.ids
  | 0, _, _, _ => rfl
  | fuel + 1, i, iAdd, tp => by
    have hids := ids_getFreeThread tp
    unfold startLoop
    split
    · split
      · rename_i hg
        rw [hg] at hids
        exact (ids_startLoop ..).trans hids
      · rename_i hg
        rw [hg] at hids
        split
        · exact (ids_startLoop ..).trans hids
        · exact hids
    · rfl

theorem length_addPoolSize (h : tp.addPoolSize n create = (tp', true)) :
    tp'.lstFreePool.length = tp.lstFreePool.length + n := by
  have hloop : ∀ (k i : Nat) (tp : CXThreadPool), CXThreadPool.createThreads
      (fun id s => { s.addThread id with dwThreadsNum := s.dwThreadsNum + 1 }) create i k tp = (tp', true) →
        tp'.lstFreePool.length = tp.lstFreePool.length + k := by
    intro k
    induction k with
    | zero =>
      intro i tp h
      cases h
      rfl
    | succ k ih =>
      intro i tp h
      unfold CXThreadPool.createThreads at h
      split at h
      · rw [ih _ _ h]
        show (tp.lstFreePool ++ [_]).length + k = _
        rw [List.length_append, List.length_singleton]
        omega
      · cases h
  unfold CXThreadPool.addPoolSize at h
  split at h
  · rename_i h0
    cases h
    rw [h0]
    rfl
  · exact hloop _ _ _ h

theorem addWorkers_true (h : addWorkers n start create tp = (tp', k, true)) :
    k = added n tp.lstFreePool.length := by
  unfold addWorkers at h
  split at h
  · cases h
  rename_i tp₁ iAdd hfree
  split at h
  · cases h
  rename_i tp₂ hadd
  obtain ⟨hk, hlen⟩ := startLoop_free (Nat.sub_le n 0) hfree
  have hlen₂ := length_addPoolSize hadd
  have := startLoop_new (Nat.sub_le n 0) (by omega) h
  unfold added
  omega

theorem createThreads_fresh {add : Nat → CXThreadPool → CXThreadPool} (hids : ∀ id s, (add id s).ids = s.ids ++ [id])
    (m : Nat) : ∀ (k i : Nat) (tp : CXThreadPool), tp.ids.Nodup → (∀ id ∈ tp.ids, id < m + i) →
      (CXThreadPool.createThreads add (fun i => some (m + i)) i k tp).2 = true ∧
        (CXThreadPool.createThreads add (fun i => some (m + i)) i k tp).1.ids.Nodup
  | 0, _, _, hnd, _ => ⟨rfl, hnd⟩
  | k + 1, i, tp, hnd, hlt => by
    unfold CXThreadPool.createThreads
    refine createThreads_fresh hids m k (i + 1) _ ?_ fun id hid => ?_
    · rw [hids]
      refine hnd.append (List.nodup_singleton _) (List.disjoint_singleton.mpr fun hm => ?_)
      exact Nat.lt_irrefl _ (hlt _ hm)
    · rw [hids] at hid
      rcases List.mem_append.mp hid with hid | hid
      · exact Nat.lt_succ_of_lt (hlt id hid)
      · rw [List.mem_singleton.mp hid]
        exact Nat.lt_succ_self _

/-- Where everything can be created and started, the call returns `true`. -/
theorem exists_addWorkers_true (hnd : tp.ids.Nodup) (n : Nat) : ∃ create tp' k,
    addWorkers n (fun _ => true) create tp = (tp', k, true) ∧ tp'.ids.Nodup := by
  obtain ⟨m, hm⟩ := tp.ids.toFinset.exists_nat_subset_range
  have hlt : ∀ id ∈ tp.ids, id < m := fun id hid => Finset.mem_range.mp (hm (List.mem_toFinset.mpr hid))
  rcases h₁ : startLoop (fun _ => true) (fun _ => n) n 0 0 tp with ⟨tp₁, iAdd, b₁⟩
  have hb₁ := startLoop_true (fun _ => n) n 0 0 tp
  have hids₁ := ids_startLoop (fun _ => true) (fun _ => n) n 0 0 tp
  rw [h₁] at hb₁ hids₁
  cases hb₁
  have hadd : (tp₁.addPoolSize (n - iAdd) fun i => some (m + i)).2 = true ∧
      (tp₁.addPoolSize (n - iAdd) fun i => some (m + i)).1.ids.Nodup := by
    unfold CXThreadPool.addPoolSize
    split
    · exact ⟨rfl, hids₁ ▸ hnd⟩
    · exact createThreads_fresh (fun _ _ => rfl) m _ 0 tp₁ (hids₁ ▸ hnd) (hids₁ ▸ hlt)
  rcases h₂ : tp₁.addPoolSize (n - iAdd) fun i => some (m + i) with ⟨tp₂, b₂⟩
  rw [h₂] at hadd
  obtain ⟨rfl, hnd₂⟩ := hadd
  rcases h₃ : startLoop (fun _ => true) (fun iAddNumber => n - iAddNumber) n 0 iAdd tp₂ with ⟨tp₃, k, b₃⟩
  have hb₃ := startLoop_true (fun iAddNumber => n - iAddNumber) n 0 iAdd tp₂
  have hids₃ := ids_startLoop (fun _ => true) (fun iAddNumber => n - iAddNumber) n 0 iAdd tp₂
  rw [h₃] at hb₃ hids₃
  cases hb₃
  refine ⟨fun i => some (m + i), tp₃, k, ?_, hids₃ ▸ hnd₂⟩
  unfold addWorkers
  simp only [h₁, h₂, h₃]

/-! ### The pool by itself -/

theorem exists_startThreads (start : Nat → Bool) (bound : Nat → Nat) : ∀ (fuel i iAdd : Nat) (tp : CXThreadPool),
    (∀ m, bound m ≤ i + fuel) →
      ∃ answers, CXTaskPool.startThreads bound i iAdd answers = some (startLoop start bound fuel i iAdd tp).2
  | 0, i, iAdd, tp, hfuel => ⟨[], if_neg (Nat.not_lt.mpr (hfuel iAdd))⟩
  | fuel + 1, i, iAdd, tp, hfuel => by
    have hfuel' : ∀ m, bound m ≤ i + 1 + fuel := fun m => by
      have := hfuel m
      omega
    unfold startLoop
    split
    · rename_i hi
      split
      · rename_i tp₁ _
        obtain ⟨answers, ha⟩ := exists_startThreads start bound fuel (i + 1) iAdd tp₁ hfuel'
        refine ⟨.noThread :: answers, ?_⟩
        rw [CXTaskPool.startThreads, if_pos hi]
        exact ha
      · rename_i tp₁ _ _
        split
        · obtain ⟨answers, ha⟩ := exists_startThreads start bound fuel (i + 1) (iAdd + 1) tp₁ hfuel'
          refine ⟨.started :: answers, ?_⟩
          rw [CXTaskPool.startThreads, if_pos hi]
          exact ha
        · refine ⟨[.failed], ?_⟩
          rw [CXTaskPool.startThreads, if_pos hi]
    · rename_i hi
      exact ⟨[], if_neg hi⟩

theorem exists_addWorkers (n : Nat) (start : Nat → Bool) (create : Nat → Option Nat) (tp : CXThreadPool) :
    ∃ free new bAddPoolSize,
      CXTaskPool.addWorkers n free new bAddPoolSize = some (addWorkers n start create tp).2 := by
  obtain ⟨free, hfree⟩ := exists_startThreads start (fun _ => n) n 0 0 tp fun _ => by omega
  unfold addWorkers CXTaskPool.addWorkers
  rcases h₁ : startLoop start (fun _ => n) n 0 0 tp with ⟨tp₁, iAdd, _ | _⟩
  · rw [h₁] at hfree
    refine ⟨free, [], false, ?_⟩
    simp only [hfree]
    rfl
  · rw [h₁] at hfree
    rcases h₂ : tp₁.addPoolSize (n - iAdd) create with ⟨tp₂, _ | _⟩
    · refine ⟨free, [], false, ?_⟩
      simp only [hfree, h₂]
      rfl
    · obtain ⟨new, hnew⟩ := exists_startThreads start (fun iAddNumber => n - iAddNumber) n 0 iAdd tp₂
        fun _ => by omega
      refine ⟨free, new, true, ?_⟩
      simp only [hfree, h₂]
      exact hnew

/-- `ResizePool` with the threads is `ResizePool` of the task pool, with some answers. -/
theorem pool_resizePool {iPoolSize : Int} (hs : s.resizePool iPoolSize start create = some s') :
    ∃ free new bAddPoolSize, s.pool.resizePool iPoolSize free new bAddPoolSize = some s'.pool := by
  unfold resizePool at hs
  unfold CXTaskPool.resizePool
  split at hs
  · rename_i h2
    cases hs
    exact ⟨[], [], true, if_pos h2⟩
  rename_i h2
  split at hs
  · cases hs
  rename_i hlock
  split at hs
  · rename_i hlt
    cases hs
    refine ⟨[], [], true, ?_⟩
    rw [if_neg h2, if_neg hlock, if_pos hlt]
  · rename_i hlt
    obtain ⟨tp, -, rfl⟩ := Option.map_eq_some_iff.mp hs
    obtain ⟨free, new, b, hadd⟩ := exists_addWorkers iPoolSize.toNat start create s.threadTasks
    refine ⟨free, new, b, ?_⟩
    rw [if_neg h2, if_neg hlock, if_neg hlt, hadd]
    rfl

theorem step_work {a : CXTaskPool.Act τ} (hs : s.step (.work a) = some s') :
    ∃ p, s.pool.step a = some p ∧ s' = { s with pool := p } := by
  have hs : (if (Act.work a).isCall then none else (s.pool.step a).map fun p => { s with pool := p }) = some s' := hs
  split at hs
  · cases hs
  · obtain ⟨p, hp, rfl⟩ := Option.map_eq_some_iff.mp hs
    exact ⟨p, hp, rfl⟩

theorem pool_step {a : Act τ} (hs : s.step a = some s') :
    s'.pool = s.pool ∨ ∃ a', s.pool.step a' = some s'.pool := by
  cases a with
  | resizePool n start create =>
    obtain ⟨free, new, b, h⟩ := pool_resizePool hs
    exact Or.inr ⟨.resizePool n free new b, h⟩
  | releaseThread t state =>
    obtain ⟨tp, -, rfl⟩ := Option.map_eq_some_iff.mp hs
    exact Or.inl rfl
  | work a =>
    obtain ⟨p, hp, rfl⟩ := step_work hs
    exact Or.inr ⟨a, hp⟩

/-! ### Runs -/

structure Inv (s : ThreadedPool τ) : Prop where
  staffed : s.pool.Staffed
  filed : ∃ items, s.pool.Filed items
  ids_nodup : s.threadTasks.ids.Nodup

theorem inv_create {iPoolSize iTaskQueueSize : Nat}
    (h : ThreadedPool.create iPoolSize iTaskQueueSize start create = some s) : Inv s := by
  unfold ThreadedPool.create at h
  split at h
  · cases h
  split at h
  · cases h
  split at h
  · cases h
  obtain ⟨tp, htp, rfl⟩ := Option.map_eq_some_iff.mp h
  obtain ⟨hnd, rfl⟩ : _ ∧ _ = tp := by simpa [CXThreadPool.withDistinctIds] using htp
  exact ⟨CXTaskPool.staffed_created .., (CXTaskPool.inv_created ..).filed, hnd⟩

theorem ids_nodup_resizePool {iPoolSize : Int} (h : s.threadTasks.ids.Nodup)
    (hs : s.resizePool iPoolSize start create = some s') : s'.threadTasks.ids.Nodup := by
  unfold resizePool at hs
  split at hs
  · cases hs
    exact h
  split at hs
  · cases hs
  split at hs
  · cases hs
    exact h
  · obtain ⟨tp, htp, rfl⟩ := Option.map_eq_some_iff.mp hs
    obtain ⟨hnd, rfl⟩ : _ ∧ _ = tp := by simpa [CXThreadPool.withDistinctIds] using htp
    exact hnd

theorem Inv.step {a : Act τ} (h : Inv s) (hs : s.step a = some s') : Inv s' := by
  obtain ⟨items, hfiled⟩ := h.filed
  have hpool : s'.pool.Staffed ∧ ∃ items, s'.pool.Filed items := by
    rcases pool_step hs with heq | ⟨a', ha'⟩
    · rw [heq]
      exact ⟨h.staffed, h.filed⟩
    · exact ⟨h.staffed.step ha', hfiled.step ha'⟩
  refine ⟨hpool.1, hpool.2, ?_⟩
  cases a with
  | resizePool n start create => exact ids_nodup_resizePool h.ids_nodup hs
  | releaseThread t state =>
    obtain ⟨tp, htp, rfl⟩ := Option.map_eq_some_iff.mp hs
    obtain ⟨-, rfl⟩ : t < s.threadTasks.ids.length ∧ _ = tp := by simpa [CXThreadPool.step] using htp
    show (s.threadTasks.releaseThread t state).ids.Nodup
    have hids : (s.threadTasks.releaseThread t state).ids = s.threadTasks.ids := by
      unfold CXThreadPool.releaseThread
      split
      · rfl
      split <;> rfl
    exact hids ▸ h.ids_nodup
  | work a =>
    obtain ⟨p, -, rfl⟩ := step_work hs
    exact h.ids_nodup

/-- While nobody reduces the size, it changes by calls of `ResizePool` only. -/
theorem steady_step {a : Act τ} (ha : a.isCall = false) (hred : s.pool.bReducingPoolSize = false)
    (hlock : s.pool.bResizing = false) (hs : s.step a = some s') : s.pool.Steady s'.pool := by
  cases a with
  | resizePool n start create => cases ha
  | releaseThread t state =>
    obtain ⟨tp, -, rfl⟩ := Option.map_eq_some_iff.mp hs
    exact .refl _
  | work a =>
    obtain ⟨p, hp, rfl⟩ := step_work hs
    cases a with
    | pushTask t => exact CXTaskPool.steady_pushTask hp
    | resizePool n free new b => cases ha
    | resizeWait r =>
      unfold CXTaskPool.step CXTaskPool.resizeWait at hp
      rw [hlock] at hp
      cases hp
    | wake i => exact CXTaskPool.steady_wake hp
    | decideExit i => exact CXTaskPool.steady_decideExit hred hp
    | takeTask i => exact CXTaskPool.steady_takeTask hp
    | runTask i => exact CXTaskPool.steady_runTask hp

theorem steady_run {acts : List (Act τ)} (hacts : ∀ a ∈ acts, a.isCall = false)
    (hred : s.pool.bReducingPoolSize = false) (hlock : s.pool.bResizing = false)
    (hs : runSteps step s acts = some s') : s.pool.Steady s'.pool := by
  induction acts generalizing s with
  | nil =>
    cases hs
    exact .refl _
  | cons a acts ih =>
    obtain ⟨s₁, h₁, hs⟩ := Option.bind_eq_some_iff.mp hs
    have hstep := steady_step (hacts a (List.mem_cons_self ..)) hred hlock h₁
    exact hstep.trans (ih (fun b hb => hacts b (List.mem_cons_of_mem _ hb)) (hstep.reducing.trans hred)
      (hstep.resizing.trans hlock) hs)

theorem resizePool_grow (h2 : 2 ≤ n) (hlock : s.pool.bResizing = false) (hge : s.pool.dwPoolSize ≤ n)
    (hadd : addWorkers n start create s.threadTasks = (tp, k, b)) (hnd : tp.ids.Nodup) :
    s.resizePool n start create = some
      { pool := { s.pool with
          dwPoolSize := s.pool.dwPoolSize + k
          workers := s.pool.workers ++ List.replicate k .waiting
          resized := s.pool.resized ++ [b] }
        threadTasks := tp } := by
  unfold resizePool
  rw [if_neg (by omega), hlock, if_neg Bool.false_ne_true, Int.toNat_natCast, if_neg (Nat.not_lt.mpr hge), hadd]
  dsimp only
  rw [CXThreadPool.withDistinctIds, if_pos hnd]
  rfl

theorem runSteps_work {acts : List (CXTaskPool.Act τ)} (hacts : ∀ a ∈ acts, (Act.work a).isCall = false) :
    runSteps step s (acts.map .work) = (runSteps CXTaskPool.step s.pool acts).map fun p => { s with pool := p } := by
  induction acts generalizing s with
  | nil => rfl
  | cons a acts ih =>
    have hstep : s.step (.work a) = (s.pool.step a).map fun p => { s with pool := p } := by
      show (if (Act.work a).isCall then none else _) = _
      rw [hacts a (List.mem_cons_self ..)]
      rfl
    show (s.step (.work a)).bind _ = ((s.pool.step a).bind _).map _
    rw [hstep]
    cases s.pool.step a with
    | none => rfl
    | some p => exact ih (s := { s with pool := p }) fun b hb => hacts b (List.mem_cons_of_mem _ hb)

/-- While the size is being reduced, a signal for a task can send a worker away. -/
theorem exists_leave {p : CXTaskPool τ} {items : List τ} {i : Nat} (hfiled : p.Filed items)
    (hw : p.workers[i]? = some .waiting) (hred : p.bReducingPoolSize = true) (hlock : p.bResizing = false)
    (hlt : p.dwReducedPoolSize < p.dwPoolSize) (t : τ) :
    ∃ p', runSteps CXTaskPool.step p [.pushTask t, .wake i, .decideExit i] = some p' ∧
      p'.dwPoolSize = p.dwPoolSize - 1 ∧ p'.resized = p.resized := by
  obtain ⟨q, hq, -⟩ := hfiled.queue.push (some t)
  have hpush : p.pushTask t = some { p with
      queueOutstandingTask := q, event := p.event + 1, pushed := p.pushed ++ [t] } := by
    unfold CXTaskPool.pushTask
    rw [hlock, hq]
    rfl
  let p₁ : CXTaskPool τ := { p with queueOutstandingTask := q, pushed := p.pushed ++ [t] }
  have hwake : CXTaskPool.wake { p with
      queueOutstandingTask := q, event := p.event + 1, pushed := p.pushed ++ [t] } i =
        some (p₁.setWorker i .woken) := by
    unfold CXTaskPool.wake
    dsimp only
    rw [hw]
    exact if_pos (Nat.succ_pos _)
  have hwoken : (p₁.setWorker i .woken).workers[i]? = some .woken :=
    List.getElem?_set_self (CXTaskPool.getElem?_lt hw)
  have hexit : (p₁.setWorker i .woken).decideExit i =
      some ({ p₁.setWorker i .woken with dwPoolSize := p.dwPoolSize - 1 }.setWorker i .exited) := by
    unfold CXTaskPool.decideExit
    rw [hwoken]
    show (if p.bResizing = true then none else if p.bReducingPoolSize = true then
      if p.dwReducedPoolSize < p.dwPoolSize then _ else _ else _) = _
    rw [hlock, if_neg Bool.false_ne_true, if_pos hred, if_pos hlt]
    rfl
  refine ⟨{ p₁.setWorker i .woken with dwPoolSize := p.dwPoolSize - 1 }.setWorker i .exited, ?_, rfl, rfl⟩
  show (p.pushTask t).bind _ = _
  rw [hpush]
  show (CXTaskPool.wake _ i).bind _ = _
  rw [hwake]
  show (CXTaskPool.decideExit _ i).bind _ = _
  rw [hexit]
  rfl

theorem resizePool_reduce (start : Nat → Bool) (create : Nat → Option Nat) (hn : 2 ≤ n)
    (hlock : s.pool.bResizing = false) (hlt : n < s.pool.dwPoolSize) :
    s.resizePool n start create = some { s with
      pool := { s.pool with
        bReducingPoolSize := true
        dwReducedPoolSize := n
        event := s.pool.event + (s.pool.dwPoolSize - n)
        bResizing := true } } := by
  unfold resizePool
  rw [if_neg (by omega), hlock, if_neg Bool.false_ne_true, Int.toNat_natCast, if_pos hlt]

theorem resizeWait_object0 {p : CXTaskPool τ} (hlock : p.bResizing = true) (hevent : 0 < p.event) :
    p.resizeWait .object0 =
      some { p with event := p.event - 1, bResizing := false, resized := p.resized ++ [true] } := by
  unfold CXTaskPool.resizeWait
  rw [if_pos hlock]
  exact if_pos hevent

namespace Inv

/-- A call that reduces holds the lock while it waits, and returns with a signal. -/
theorem not_reaches_of_lt (hn : 2 ≤ n) (hlock : s.pool.bResizing = false) (hlt : n < s.pool.dwPoolSize) :
    ¬ Reaches s n := by
  intro h
  have hcall := resizePool_reduce (fun _ => true) (fun _ => none) hn hlock hlt
  have hacts : ∀ a ∈ [CXTaskPool.Act.resizeWait .object0], (Act.work (τ := τ) a).isCall = false := by
    simp [Act.isCall]
  have hrun : ReturnsTrue s n (fun _ => true) (fun _ => none) _
      (List.map .work [.resizeWait .object0]) { s with pool := { s.pool with
        bReducingPoolSize := true
        dwReducedPoolSize := n
        event := s.pool.event + (s.pool.dwPoolSize - n) - 1
        bResizing := false
        resized := s.pool.resized ++ [true] } } :=
    { call := hcall
      noCall := fun a ha => by
        obtain ⟨b, hb, rfl⟩ := List.mem_map.mp ha
        exact hacts b hb
      run := by
        rw [runSteps_work hacts]
        show Option.map _ ((CXTaskPool.resizeWait _ .object0).bind _) = _
        rw [resizeWait_object0 rfl (show 0 < s.pool.event + (s.pool.dwPoolSize - n) by omega)]
        rfl
      returned := rfl }
  have hunlocked : true = false := (h _ _ _ _ _ hrun).unlocked hlt
  cases hunlocked

theorem size_of_reaches (h : Inv s) (hn : 2 ≤ n) (hlock : s.pool.bResizing = false) (hge : s.pool.dwPoolSize ≤ n)
    (hr : Reaches s n) : s.pool.dwPoolSize + added n s.threadTasks.lstFreePool.length = n := by
  obtain ⟨create, tp, k, hadd, hnd⟩ := exists_addWorkers_true h.ids_nodup n
  have hcall := resizePool_grow hn hlock hge hadd hnd
  have hrun : ReturnsTrue s n _ create _ [] _ :=
    { call := hcall, noCall := nofun, run := rfl, returned := rfl }
  have hsize := (hr _ _ _ _ _ hrun).size fun hlt => absurd hge (Nat.not_le.mpr hlt)
  rw [← addWorkers_true hadd]
  exact hsize

theorem not_reducing_of_reaches [Inhabited τ] (h : Inv s) (hn : 2 ≤ n) (hlock : s.pool.bResizing = false)
    (hge : s.pool.dwPoolSize ≤ n) (hr : Reaches s n) : s.pool.bReducingPoolSize = false := by
  refine Bool.eq_false_iff.mpr fun hred => ?_
  have hsize := h.size_of_reaches hn hlock hge hr
  obtain ⟨create, tp, k, hadd, hnd⟩ := exists_addWorkers_true h.ids_nodup n
  have hcall := resizePool_grow hn hlock hge hadd hnd
  rw [← addWorkers_true hadd] at hsize
  have hk : 0 < k := by
    rw [addWorkers_true hadd]
    unfold added
    omega
  obtain ⟨items, hfiled⟩ := h.filed
  obtain ⟨free, new, b, hpool⟩ := pool_resizePool hcall
  have hreduced := h.staffed.reduced hred
  obtain ⟨p', hp', hsize', hret⟩ := exists_leave (i := s.pool.workers.length) (hfiled.resizePool hpool)
    (by
      show (s.pool.workers ++ List.replicate k .waiting)[s.pool.workers.length]? = _
      rw [List.getElem?_append_right (Nat.le_refl _), Nat.sub_self, List.getElem?_replicate_of_lt hk])
    hred hlock (show s.pool.dwReducedPoolSize < s.pool.dwPoolSize + k by omega) default
  have hacts : ∀ a ∈ [CXTaskPool.Act.pushTask default, .wake s.pool.workers.length,
      .decideExit s.pool.workers.length], (Act.work (τ := τ) a).isCall = false := by
    simp [Act.isCall]
  have hrun : ReturnsTrue s n _ create _ (List.map .work
      [.pushTask default, .wake s.pool.workers.length, .decideExit s.pool.workers.length])
      { pool := p', threadTasks := tp } :=
    { call := hcall
      noCall := fun a ha => by
        obtain ⟨b, hb, rfl⟩ := List.mem_map.mp ha
        exact hacts b hb
      run := by
        rw [runSteps_work hacts, hp']
        rfl
      returned := hret }
  have hlast := (hr _ _ _ _ _ hrun).size fun hlt => absurd hge (Nat.not_le.mpr hlt)
  have hlast : s.pool.dwPoolSize + k - 1 = n := hsize'.symm.trans hlast
  omega

/-- A call that adds as many workers as are missing, while nobody is to leave. -/
theorem reaches (h : Inv s) (hn : 2 ≤ n) (hge : s.pool.dwPoolSize ≤ n) (hred : s.pool.bReducingPoolSize = false)
    (hlock : s.pool.bResizing = false)
    (hsize : s.pool.dwPoolSize + added n s.threadTasks.lstFreePool.length = n) : Reaches s n := by
  intro start create s₁ acts s' hrun
  have hnlt : ¬ n < s.pool.dwPoolSize := Nat.not_lt.mpr hge
  rcases hadd : addWorkers n start create s.threadTasks with ⟨tp, k, b⟩
  have hcall : s.resizePool n start create = some s₁ := hrun.call
  have hnd : tp.ids.Nodup := by
    unfold resizePool at hcall
    rw [if_neg (by omega), hlock, if_neg Bool.false_ne_true, Int.toNat_natCast, if_neg hnlt, hadd] at hcall
    obtain ⟨tp', htp, -⟩ := Option.map_eq_some_iff.mp hcall
    unfold CXThreadPool.withDistinctIds at htp
    split at htp
    · assumption
    · cases htp
  rw [resizePool_grow hn hlock hge hadd hnd] at hcall
  cases hcall
  have hsteady := steady_run hrun.noCall (by exact hred) (by exact hlock) hrun.run
  have hb : b = true := by
    have hret : s'.pool.resized = s.pool.resized ++ [b] := hsteady.resized
    rw [hrun.returned] at hret
    exact (List.singleton_inj.mp (List.append_cancel_left hret)).symm
  subst hb
  have hk := addWorkers_true hadd
  have hworkers : s'.pool.workers.countP PoolWorker.inProcessTasks = s'.pool.dwPoolSize := by
    obtain ⟨free, new, b, hpool⟩ := pool_resizePool hrun.call
    exact (hsteady.staffed (h.staffed.resizePool hpool)).workers
  have hlast : s'.pool.dwPoolSize = n := by
    rw [hsteady.size]
    show s.pool.dwPoolSize + k = n
    rw [hk]
    exact hsize
  exact ⟨fun _ => hlast, fun _ => hworkers.trans hlast, fun hlt => absurd hlt hnlt, fun hlt => absurd hlt hnlt⟩

end Inv

end ThreadedPool

end KonsanNet
