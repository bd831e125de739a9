import KonsanNet.Run
import Mathlib.Tactic

/-!
# A thread and its tasks (`CXThread`)

An owner calls `Start` and `Wait` on a thread that runs its tasks in `ThreadLoop`. Every access to a member that
both use is a step, and the steps of the two interleave at will. `m_eveWaitRunning` and `m_eveFinish` are
counting semaphores (`CXEvent` on Linux); the signals of `m_eveFinish` are named by the tasks that they
complete, and one that is taken is the oldest.

`Start` posts its signal before it stores `m_bRunning = true`. A task that ends between the two leaves the
thread running for ever. `Wait` takes no signal when it finds the thread no longer running, and the signal that
stays behind is taken by the `Wait` for a later task. Where neither happens, the thread can be started again
after each task, and each `Wait` returns after its task and only then (`sound_of_run`).
-/

namespace KonsanNet

/-- Where the owner stands: behind the tests of `Start`, its two pointers stored, its signal posted; or in the
wait of a `Wait` that was called behind so many accepted `Start`s. -/
inductive OwnerPc
  | idle
  | accepted
  | stored
  | posted
  | waiting (n : Nat)
deriving DecidableEq

/-- Where the loop stands: not created, in the wait, behind it, in the task, behind its return, behind
`m_bRunning = false`, behind the completion signal. -/
inductive LoopPc
  | none
  | waiting
  | woken
  | running (k : Nat)
  | returned (k : Nat)
  | cleared (k : Nat)
  | signalled
deriving DecidableEq

/-- What `m_pThreadPool` holds; the constructor leaves it as it is. -/
inductive PoolPtr
  | null
  | pool
  | garbage
deriving DecidableEq

/-- A thread, with the number of accepted `Start`s, the tasks that have returned and those whose completion was
posted, the `Wait`s that returned (how many `Start`s were accepted before, and the signal taken) and whether
`m_pThreadPool` was used while it was garbage. -/
structure CXThread where
  bStarted : Bool
  bRunning : Bool
  funRun : Option Nat
  eveWaitRunning : Nat
  eveFinish : List Nat
  pThreadPool : PoolPtr
  owner : OwnerPc
  loop : LoopPc
  started : Nat
  returned : List Nat
  posted : List Nat
  waited : List (Nat × Option Nat)
  fault : Bool

namespace CXThread

/-- `CXThread()` -/
def construct (pThreadPool : PoolPtr) : CXThread where
  bStarted := false
  bRunning := false
  funRun := none
  eveWaitRunning := 0
  eveFinish := []
  pThreadPool := pThreadPool
  owner := .idle
  loop := .none
  started := 0
  returned := []
  posted := []
  waited := []
  fault := false

/-- The tests of `Start`, and `Create` where the thread does not run yet. -/
def startTest (createOk : Bool) (s : CXThread) : Option CXThread :=
  if s.owner = .idle then
    if s.bRunning then some s
    else if s.bStarted then some { s with owner := .accepted }
    else if createOk then some { s with bStarted := true, loop := .waiting, owner := .accepted }
    else some { s with bRunning := false }
  else none

/-- `m_funRun = funTask; m_pTaskPara = pTaskPara;`, the task being named by its number. -/
def startStore (s : CXThread) : Option CXThread :=
  if s.owner = .accepted then some { s with funRun := some s.started, owner := .stored } else none

/-- `m_eveWaitRunning.SetEvent();` -/
def startSignal (s : CXThread) : Option CXThread :=
  if s.owner = .stored then
    some { s with eveWaitRunning := s.eveWaitRunning + 1, started := s.started + 1, owner := .posted }
  else none

/-- `m_bRunning = true;` -/
def startRunning (s : CXThread) : Option CXThread :=
  if s.owner = .posted then some { s with bRunning := true, owner := .idle } else none

/-- The tests of `Wait`. -/
def waitTest (s : CXThread) : Option CXThread :=
  if s.owner = .idle then
    if s.bRunning && s.bStarted then some { s with owner := .waiting s.started }
    else some { s with waited := s.waited ++ [(s.started, none)] }
  else none

/-- `m_eveFinish.WaitForSingleObject(INFINITE)` -/
def waitTake (s : CXThread) : Option CXThread :=
  match s.owner, s.eveFinish with
  | .waiting n, k :: rest => some { s with eveFinish := rest, owner := .idle, waited := s.waited ++ [(n, some k)] }
  | _, _ => none

/-- `m_eveWaitRunning.WaitForSingleObject(INFINITE)` -/
def loopTake (s : CXThread) : Option CXThread :=
  if s.loop = .waiting ∧ 0 < s.eveWaitRunning then
    some { s with eveWaitRunning := s.eveWaitRunning - 1, loop := .woken }
  else none

/-- The call of `m_funRun`. -/
def loopRun (s : CXThread) : Option CXThread :=
  match s.loop, s.funRun with
  | .woken, some k => some { s with loop := .running k }
  | _, _ => none

def taskReturn (s : CXThread) : Option CXThread :=
  match s.loop with
  | .running k => some { s with loop := .returned k, returned := s.returned ++ [k] }
  | _ => none

/-- `m_bRunning = false;` -/
def loopClear (s : CXThread) : Option CXThread :=
  match s.loop with
  | .returned k => some { s with bRunning := false, loop := .cleared k }
  | _ => none

/-- `m_eveFinish.SetEvent();` -/
def loopSignal (s : CXThread) : Option CXThread :=
  match s.loop with
  | .cleared k => some { s with eveFinish := s.eveFinish ++ [k], posted := s.posted ++ [k], loop := .signalled }
  | _ => none

/-- `((CXThreadPool*)m_pThreadPool)->ReleaseThread(this);`, which touches nothing of the thread, and back to the
wait. -/
def loopRelease (s : CXThread) : Option CXThread :=
  match s.loop with
  | .signalled => some { s with fault := s.fault || s.pThreadPool = .garbage, loop := .waiting }
  | _ => none

inductive Act
  | startTest (createOk : Bool)
  | startStore
  | startSignal
  | startRunning
  | waitTest
  | waitTake
  | loopTake
  | loopRun
  | taskReturn
  | loopClear
  | loopSignal
  | loopRelease

def step (s : CXThread) : Act → Option CXThread
  | .startTest createOk => s.startTest createOk
  | .startStore => s.startStore
  | .startSignal => s.startSignal
  | .startRunning => s.startRunning
  | .waitTest => s.waitTest
  | .waitTake => s.waitTake
  | .loopTake => s.loopTake
  | .loopRun => s.loopRun
  | .taskReturn => s.taskReturn
  | .loopClear => s.loopClear
  | .loopSignal => s.loopSignal
  | .loopRelease => s.loopRelease

/-- With all tasks returned and the loop waiting again, the next `Start` is accepted. Each `Wait` that has
returned did so behind all tasks started before it, and took no other signal than that of the last. A `Wait`
whose tasks have returned can return too, behind what is left of `m_bRunning = false; m_eveFinish.SetEvent();`.
-/
structure Sound (s : CXThread) : Prop where
  restartable : s.loop = .waiting → s.owner = .idle → s.returned.length = s.started →
    s.bRunning = false ∧ ∃ s', s.step (.startTest true) = some s' ∧ s'.owner = .accepted
  waited : ∀ w ∈ s.waited, (∀ k < w.1, k ∈ s.returned) ∧ ∀ k, w.2 = some k → k + 1 = w.1
  returns : ∀ n, s.owner = .waiting n → (∀ k < n, k ∈ s.returned) →
    ∃ acts, acts <:+ [.loopClear, .loopSignal] ∧ ∃ s', runSteps step s (acts ++ [.waitTake]) = some s'
  noFault : s.fault = false

/-- The loop does not store `m_bRunning = false` between the signal of a `Start` and its `m_bRunning = true`. No
`Wait` finds the thread running while the signal of an earlier task is in the semaphore, or about to be posted.
And `m_pThreadPool` is not garbage. -/
def StepOk (s : CXThread) : Act → Prop
  | .loopClear => s.owner ≠ .posted
  | .waitTest => s.bRunning = true → s.eveFinish = [] ∧ ∀ k, s.loop ≠ .cleared k
  | .loopRelease => s.pThreadPool ≠ .garbage
  | .startTest _ | .startStore | .startSignal | .startRunning | .waitTake | .loopTake | .loopRun | .taskReturn
  | .loopSignal => True

/-- From the taking of a signal until `m_bRunning = false`. -/
def inTask (s : CXThread) : Bool :=
  match s.loop with
  | .woken | .running _ | .returned _ => true
  | .none | .waiting | .cleared _ | .signalled => false

/-- The tasks whose start was signalled and whose end did not clear `m_bRunning` yet. -/
def pending (s : CXThread) : Nat := s.eveWaitRunning + if s.inTask then 1 else 0

/-- The task has returned, but `m_bRunning` is not cleared. -/
def uncleared (s : CXThread) : Nat :=
  match s.loop with
  | .returned _ => 1
  | .none | .waiting | .woken | .running _ | .cleared _ | .signalled => 0

/-- The task has returned, but its completion is not posted. -/
def unposted (s : CXThread) : Nat :=
  match s.loop with
  | .returned _ | .cleared _ => 1
  | .none | .waiting | .woken | .running _ | .signalled => 0

/-- At most one task is pending, and while it is the thread is running or its `Start` about to say so. -/
structure Inv (s : CXThread) : Prop where
  returned : s.returned = List.range s.returned.length
  posted : s.posted = List.range s.posted.length
  started : s.returned.length + s.pending = s.started + s.uncleared
  posted_length : s.posted.length + s.unposted = s.returned.length
  pending_le : s.pending ≤ 1
  running : s.pending = 1 ↔ s.bRunning = true ∨ s.owner = .posted
  not_both : s.owner = .posted → s.bRunning = false
  task : ∀ k, s.loop = .running k → k = s.returned.length
  ended : ∀ k, s.loop = .returned k ∨ s.loop = .cleared k → k + 1 = s.returned.length
  funRun : s.pending = 1 → ∃ k, s.funRun = some k ∧ k + 1 = s.started
  stored : s.owner = .stored → s.funRun = some s.started
  starting : s.owner = .accepted ∨ s.owner = .stored → s.pending = 0
  waiting : ∀ n, s.owner = .waiting n → n = s.started ∧
    (s.posted.length = n ∧ (∃ k, s.eveFinish = [k] ∧ k + 1 = n) ∨ s.posted.length + 1 = n ∧ s.eveFinish = [])
  waited : ∀ w ∈ s.waited, w.1 ≤ s.returned.length ∧ ∀ k, w.2 = some k → k + 1 = w.1
  created : s.bStarted = false → s.loop = .none ∧ s.owner = .idle ∧ s.bRunning = false
  noFault : s.fault = false

theorem inv_construct (p : PoolPtr) : Inv (construct p) where
  returned := rfl
  posted := rfl
  started := rfl
  posted_length := rfl
  pending_le := Nat.zero_le _
  running := by simp [construct, pending, inTask]
  not_both := nofun
  task := nofun
  ended _ h := by rcases h with h | h <;> cases h
  funRun h := by cases h
  stored := nofun
  starting _ := rfl
  waiting := nofun
  waited := nofun
  created _ := ⟨rfl, rfl, rfl⟩
  noFault := rfl

variable {s s' : CXThread}

namespace Inv

theorem sound (h : Inv s) : Sound s where
  restartable hloop howner hret := by
    have hrun : s.bRunning = false := by
      have hstarted := h.started
      have hunc : s.uncleared = 0 := by rw [uncleared, hloop]
      have hpend : s.pending ≠ 1 := by omega
      exact Bool.eq_false_iff.mpr fun hc => hpend (h.running.mpr (Or.inl hc))
    refine ⟨hrun, ?_⟩
    unfold step startTest
    cases hb : s.bStarted with
    | true => exact ⟨{ s with owner := .accepted }, by simp [howner, hrun, hb], rfl⟩
    | false =>
      exact ⟨{ s with bStarted := true, loop := .waiting, owner := .accepted }, by simp [howner, hrun], rfl⟩
  waited w hw := by
    obtain ⟨hle, hsig⟩ := h.waited w hw
    refine ⟨fun k hk => ?_, hsig⟩
    rw [h.returned]
    exact List.mem_range.mpr (Nat.lt_of_lt_of_le hk hle)
  returns n hn hret := by
    have htake {t : CXThread} {k : Nat} {rest : List Nat} (ho : t.owner = .waiting n) (hf : t.eveFinish = k :: rest) :
        ∃ s', runSteps step t [.waitTake] = some s' :=
      ⟨{ t with eveFinish := rest, owner := .idle, waited := t.waited ++ [(n, some k)] }, by
        simp only [runSteps, step, waitTake, ho, hf, Option.bind_some]⟩
    obtain ⟨hns, ⟨-, k, hk, -⟩ | ⟨hlen, hnil⟩⟩ := h.waiting n hn
    · exact ⟨[], List.nil_suffix, htake hn hk⟩
    · -- the task has returned, so the loop is on its way to the signal
      have hge : n ≤ s.returned.length := by
        by_contra hlt
        have hmem := hret s.returned.length (by omega)
        rw [h.returned] at hmem
        simp at hmem
      have hunposted := h.posted_length
      cases hloop : s.loop with
      | returned k =>
        refine ⟨_, List.suffix_rfl, ?_⟩
        have hrun : runSteps step s [.loopClear, .loopSignal] = some { s with
            bRunning := false, eveFinish := [k], posted := s.posted ++ [k], loop := .signalled } := by
          simp [runSteps, step, loopClear, loopSignal, hloop, hnil]
        rw [runSteps_append, hrun]
        exact htake hn rfl
      | cleared k =>
        refine ⟨[.loopSignal], List.suffix_cons .., ?_⟩
        have hrun : runSteps step s [.loopSignal] = some { s with
            eveFinish := [k], posted := s.posted ++ [k], loop := .signalled } := by
          simp [runSteps, step, loopSignal, hloop, hnil]
        rw [runSteps_append, hrun]
        exact htake hn rfl
      | none | waiting | woken | running | signalled =>
        rw [unposted, hloop] at hunposted
        simp only at hunposted
        omega
  noFault := h.noFault

/-- An owner that is not in `Start` has no task pending, where the thread does not run. -/
theorem pending_eq_zero (h : Inv s) (howner : s.owner ≠ .posted) (hrun : s.bRunning = false) : s.pending = 0 := by
  have hle := h.pending_le
  have hne : s.pending ≠ 1 := fun hc => by
    rcases h.running.mp hc with hc | hc
    · rw [hrun] at hc
      cases hc
    · exact howner hc
  omega

theorem startTest (h : Inv s) {ok : Bool} (hs : s.startTest ok = some s') : Inv s' := by
  unfold CXThread.startTest at hs
  split at hs
  case isFalse => cases hs
  rename_i howner
  split at hs
  · cases hs
    exact h
  rename_i hrun
  have hrun : s.bRunning = false := by simpa using hrun
  have hpend := h.pending_eq_zero (by rw [howner]; decide) hrun
  split at hs
  · rename_i hstarted
    cases hs
    exact { h with
      running := by
        show s.pending = 1 ↔ _
        simp [hpend, hrun]
      not_both := nofun, stored := nofun, starting := fun _ => hpend, waiting := nofun
      created := fun hc => absurd (hc.symm.trans hstarted) nofun }
  rename_i hstarted
  have hnone := (h.created (by simpa using hstarted)).1
  split at hs
  · cases hs
    have hinTask : s.inTask = false := by rw [inTask, hnone]
    have hpending : pending { s with bStarted := true, loop := .waiting, owner := .accepted } = s.pending := by
      unfold pending
      rw [hinTask]
      rfl
    have hunc : s.uncleared = 0 := by rw [uncleared, hnone]
    have hunp : s.unposted = 0 := by rw [unposted, hnone]
    exact { h with
      started := by
        have := h.started
        rw [hpending]
        show s.returned.length + s.pending = s.started + 0
        omega
      posted_length := by
        have := h.posted_length
        show s.posted.length + 0 = s.returned.length
        omega
      pending_le := hpending ▸ h.pending_le
      running := by
        rw [hpending]
        simp [hpend, hrun]
      not_both := nofun, task := nofun
      ended := fun k hk => by rcases hk with hk | hk <;> cases hk
      funRun := fun hc => by
        rw [hpending, hpend] at hc
        cases hc
      stored := nofun
      starting := fun _ => hpending.trans hpend
      waiting := nofun, created := nofun }
  · cases hs
    exact { h with
      running := by
        show s.pending = 1 ↔ _
        simp [hpend, howner]
      not_both := fun _ => rfl
      created := fun _ => ⟨hnone, howner, rfl⟩ }

theorem started_of_owner (h : Inv s) (howner : s.owner ≠ .idle) : s.bStarted = true :=
  Bool.eq_true_of_not_eq_false fun hc => howner (h.created hc).2.1

theorem startStore (h : Inv s) (hs : s.startStore = some s') : Inv s' := by
  obtain ⟨howner, rfl⟩ : s.owner = .accepted ∧ _ = s' := by simpa [CXThread.startStore] using hs
  have hpend := h.starting (Or.inl howner)
  have hstarted := h.started_of_owner (by rw [howner]; decide)
  exact { h with
    running := by
      have := h.running
      rw [howner] at this
      show s.pending = 1 ↔ _
      simpa using this
    not_both := nofun
    funRun := fun hc => by
      change s.pending = 1 at hc
      rw [hpend] at hc
      cases hc
    stored := fun _ => rfl, starting := fun _ => hpend, waiting := nofun
    created := fun hc => absurd (hc.symm.trans hstarted) nofun }

theorem startSignal (h : Inv s) (hs : s.startSignal = some s') : Inv s' := by
  obtain ⟨howner, rfl⟩ : s.owner = .stored ∧ _ = s' := by simpa [CXThread.startSignal] using hs
  have hpend := h.starting (Or.inr howner)
  have hstarted := h.started_of_owner (by rw [howner]; decide)
  have hnot : ¬ s.inTask = true := by
    intro hc
    rw [pending, if_pos hc] at hpend
    omega
  have hpending : pending { s with
      eveWaitRunning := s.eveWaitRunning + 1, started := s.started + 1, owner := .posted } = 1 := by
    unfold pending at hpend ⊢
    rw [if_neg hnot] at hpend
    show s.eveWaitRunning + 1 + (if s.inTask = true then 1 else 0) = 1
    rw [if_neg hnot]
    omega
  have hrun : s.bRunning = false := by
    refine Bool.eq_false_iff.mpr fun hc => ?_
    have := h.running.mpr (Or.inl hc)
    omega
  exact { h with
    started := by
      have := h.started
      rw [hpending]
      show s.returned.length + 1 = s.started + 1 + s.uncleared
      omega
    pending_le := hpending.le
    running := by
      rw [hpending]
      simp
    not_both := fun _ => hrun
    funRun := fun _ => ⟨s.started, h.stored howner, rfl⟩
    stored := nofun
    starting := fun hc => by rcases hc with hc | hc <;> cases hc
    waiting := nofun
    created := fun hc => absurd (hc.symm.trans hstarted) nofun }

theorem startRunning (h : Inv s) (hs : s.startRunning = some s') : Inv s' := by
  obtain ⟨howner, rfl⟩ : s.owner = .posted ∧ _ = s' := by simpa [CXThread.startRunning] using hs
  have hpend := h.running.mpr (Or.inr howner)
  have hstarted := h.started_of_owner (by rw [howner]; decide)
  exact { h with
    running := by
      show s.pending = 1 ↔ _
      simp [hpend]
    not_both := nofun, stored := nofun
    starting := fun hc => by rcases hc with hc | hc <;> cases hc
    waiting := nofun
    created := fun hc => absurd (hc.symm.trans hstarted) nofun }

/-- A `Wait` that finds the thread running has no signal of an earlier task ahead of it. -/
theorem waitTest (h : Inv s) (hok : StepOk s .waitTest) (hs : s.waitTest = some s') : Inv s' := by
  unfold CXThread.waitTest at hs
  split at hs
  case isFalse => cases hs
  rename_i howner
  split at hs
  · rename_i hboth
    cases hs
    have hrun : s.bRunning = true := (Bool.and_eq_true_iff.mp hboth).1
    obtain ⟨hfinish, hcleared⟩ := hok hrun
    have hpend := h.running.mpr (Or.inl hrun)
    refine { h with
      running := by
        show s.pending = 1 ↔ _
        simp [hpend, hrun]
      not_both := nofun, stored := nofun
      starting := fun hc => by rcases hc with hc | hc <;> cases hc
      waiting := fun n hn => ?_
      created := fun hc => absurd (hc.symm.trans (Bool.and_eq_true_iff.mp hboth).2) nofun }
    cases hn
    refine ⟨rfl, Or.inr ⟨?_, hfinish⟩⟩
    have hunposted : s.unposted = s.uncleared := by
      unfold unposted uncleared
      cases hl : s.loop with
      | cleared k => exact absurd hl (hcleared k)
      | none | waiting | woken | running | returned | signalled => rfl
    have := h.started
    have := h.posted_length
    show s.posted.length + 1 = s.started
    omega
  · rename_i hboth
    cases hs
    have hpend : s.pending = 0 := by
      cases hrun : s.bRunning with
      | false => exact h.pending_eq_zero (by rw [howner]; decide) hrun
      | true =>
        have hstarted : s.bStarted = false := by simpa [hrun] using hboth
        rw [(h.created hstarted).2.2] at hrun
        cases hrun
    refine { h with waited := fun w hw => ?_ }
    rcases List.mem_append.mp hw with hw | hw
    · exact h.waited w hw
    · rw [List.mem_singleton.mp hw]
      have := h.started
      exact ⟨by show s.started ≤ s.returned.length; omega, nofun⟩

theorem waitTake (h : Inv s) (hs : s.waitTake = some s') : Inv s' := by
  unfold CXThread.waitTake at hs
  split at hs
  case h_2 => cases hs
  rename_i n k rest howner hfinish
  cases hs
  have hstarted := h.started_of_owner (by rw [howner]; nofun)
  obtain ⟨hn, ⟨hlen, j, hj, hjn⟩ | ⟨-, hnil⟩⟩ := h.waiting n howner
  · rw [hfinish] at hj
    cases hj
    refine { h with
      running := by
        have := h.running
        rw [howner] at this
        show s.pending = 1 ↔ _
        simpa using this
      not_both := nofun, stored := nofun
      starting := fun hc => by rcases hc with hc | hc <;> cases hc
      waiting := nofun
      waited := fun w hw => ?_
      created := fun hc => absurd (hc.symm.trans hstarted) nofun }
    rcases List.mem_append.mp hw with hw | hw
    · exact h.waited w hw
    · rw [List.mem_singleton.mp hw]
      have := h.posted_length
      refine ⟨by show n ≤ s.returned.length; omega, fun j hj => ?_⟩
      cases hj
      exact hjn
  · rw [hnil] at hfinish
    cases hfinish

theorem started_of_loop (h : Inv s) (hloop : s.loop ≠ .none) : s.bStarted = true :=
  Bool.eq_true_of_not_eq_false fun hc => hloop (h.created hc).1

/-- The loop goes on from a place where no task has returned to another one, with the same tasks pending. -/
theorem goOn (h : Inv s) {sem : Nat} {loop : LoopPc} (hstarted : s.bStarted = true)
    (hpending : pending { s with eveWaitRunning := sem, loop := loop } = s.pending)
    (hunc : s.uncleared = 0) (hunc' : uncleared { s with eveWaitRunning := sem, loop := loop } = 0)
    (hunp : s.unposted = 0) (hunp' : unposted { s with eveWaitRunning := sem, loop := loop } = 0)
    (htask : ∀ k, loop = .running k → k = s.returned.length)
    (hended : ∀ k, loop ≠ .returned k ∧ loop ≠ .cleared k) :
    Inv { s with eveWaitRunning := sem, loop := loop } :=
  { h with
    started := by
      have := h.started
      rw [hpending, hunc']
      show s.returned.length + s.pending = s.started + 0
      omega
    posted_length := by
      have := h.posted_length
      rw [hunp']
      show s.posted.length + 0 = s.returned.length
      omega
    pending_le := hpending ▸ h.pending_le
    running := hpending ▸ h.running
    task := htask
    ended := fun k hk => by
      rcases hk with hk | hk
      · exact absurd hk (hended k).1
      · exact absurd hk (hended k).2
    funRun := fun hc => h.funRun (hpending ▸ hc)
    starting := fun hc => hpending.trans (h.starting hc)
    created := fun hc => absurd (hc.symm.trans hstarted) nofun }

theorem loopTake (h : Inv s) (hs : s.loopTake = some s') : Inv s' := by
  obtain ⟨⟨hloop, hpos⟩, rfl⟩ : (s.loop = .waiting ∧ 0 < s.eveWaitRunning) ∧ _ = s' := by
    simpa [CXThread.loopTake] using hs
  have hpending : pending { s with eveWaitRunning := s.eveWaitRunning - 1, loop := .woken } = s.pending := by
    have hinTask : s.inTask = false := by rw [inTask, hloop]
    unfold pending
    rw [hinTask]
    show s.eveWaitRunning - 1 + 1 = s.eveWaitRunning + 0
    omega
  exact h.goOn (h.started_of_loop (by rw [hloop]; nofun)) hpending (by rw [uncleared, hloop]) rfl
    (by rw [unposted, hloop]) rfl nofun fun _ => ⟨nofun, nofun⟩

theorem loopRun (h : Inv s) (hs : s.loopRun = some s') : Inv s' := by
  unfold CXThread.loopRun at hs
  split at hs
  case h_2 => cases hs
  rename_i k hloop hfun
  cases hs
  have hinTask : s.inTask = true := by rw [inTask, hloop]
  have hpending : pending { s with loop := .running k } = s.pending := by
    unfold pending
    rw [hinTask]
    rfl
  have hunc : s.uncleared = 0 := by rw [uncleared, hloop]
  have hone : s.pending = 1 := by
    have hle := h.pending_le
    unfold pending at hle ⊢
    rw [if_pos hinTask] at hle ⊢
    omega
  refine h.goOn (h.started_of_loop (by rw [hloop]; nofun)) hpending hunc rfl (by rw [unposted, hloop]) rfl
    (fun j hj => ?_) fun _ => ⟨nofun, nofun⟩
  cases hj
  obtain ⟨k', hk', hks⟩ := h.funRun hone
  have hreturned := h.started
  rw [hfun] at hk'
  cases hk'
  omega

theorem taskReturn (h : Inv s) (hs : s.taskReturn = some s') : Inv s' := by
  unfold CXThread.taskReturn at hs
  split at hs
  case h_2 => cases hs
  rename_i k hloop
  cases hs
  have hstarted := h.started_of_loop (by rw [hloop]; nofun)
  have hinTask : s.inTask = true := by rw [inTask, hloop]
  have hunc : s.uncleared = 0 := by rw [uncleared, hloop]
  have hunp : s.unposted = 0 := by rw [unposted, hloop]
  have hk := h.task k hloop
  have hpending : pending { s with loop := .returned k, returned := s.returned ++ [k] } = s.pending := by
    unfold pending
    rw [hinTask]
    rfl
  have hlen : (s.returned ++ [k]).length = s.returned.length + 1 := by
    rw [List.length_append, List.length_singleton]
  have hreturned := h.started
  have hposted := h.posted_length
  exact { h with
    returned := by
      show s.returned ++ [k] = List.range (s.returned ++ [k]).length
      rw [hlen, List.range_succ, ← h.returned, hk]
    started := by
      rw [hpending]
      show (s.returned ++ [k]).length + s.pending = s.started + 1
      omega
    posted_length := by
      show s.posted.length + 1 = (s.returned ++ [k]).length
      omega
    pending_le := hpending ▸ h.pending_le
    running := hpending ▸ h.running
    task := nofun
    ended := fun j hj => by
      rcases hj with hj | hj
      · cases hj
        show k + 1 = (s.returned ++ [k]).length
        omega
      · cases hj
    funRun := fun hc => h.funRun (hpending ▸ hc)
    starting := fun hc => hpending.trans (h.starting hc)
    waited := fun w hw => by
      obtain ⟨hle, hsig⟩ := h.waited w hw
      refine ⟨?_, hsig⟩
      show w.1 ≤ (s.returned ++ [k]).length
      omega
    created := fun hc => absurd (hc.symm.trans hstarted) nofun }

theorem loopClear (h : Inv s) (hok : s.owner ≠ .posted) (hs : s.loopClear = some s') : Inv s' := by
  unfold CXThread.loopClear at hs
  split at hs
  case h_2 => cases hs
  rename_i k hloop
  cases hs
  have hstarted := h.started_of_loop (by rw [hloop]; nofun)
  have hinTask : s.inTask = true := by rw [inTask, hloop]
  have hunc : s.uncleared = 1 := by rw [uncleared, hloop]
  have hunp : s.unposted = 1 := by rw [unposted, hloop]
  have hle := h.pending_le
  have hpend : s.pending = s.eveWaitRunning + 1 := by rw [pending, if_pos hinTask]
  have hpending : pending { s with bRunning := false, loop := .cleared k } = 0 := by
    show s.eveWaitRunning + 0 = 0
    omega
  exact { h with
    started := by
      have := h.started
      rw [hpending]
      show s.returned.length + 0 = s.started + 0
      omega
    posted_length := by
      have := h.posted_length
      show s.posted.length + 1 = s.returned.length
      omega
    pending_le := hpending ▸ Nat.zero_le 1
    running := by
      rw [hpending]
      simp [hok]
    not_both := fun _ => rfl
    task := nofun
    ended := fun j hj => by
      rcases hj with hj | hj
      · cases hj
      · cases hj
        exact h.ended k (Or.inl hloop)
    funRun := fun hc => by
      rw [hpending] at hc
      cases hc
    starting := fun _ => hpending
    created := fun hc => absurd (hc.symm.trans hstarted) nofun }

theorem loopSignal (h : Inv s) (hs : s.loopSignal = some s') : Inv s' := by
  unfold CXThread.loopSignal at hs
  split at hs
  case h_2 => cases hs
  rename_i k hloop
  cases hs
  have hstarted := h.started_of_loop (by rw [hloop]; nofun)
  have hinTask : s.inTask = false := by rw [inTask, hloop]
  have hunc : s.uncleared = 0 := by rw [uncleared, hloop]
  have hunp : s.unposted = 1 := by rw [unposted, hloop]
  have hpending : pending { s with
      eveFinish := s.eveFinish ++ [k], posted := s.posted ++ [k], loop := .signalled } = s.pending := by
    unfold pending
    rw [hinTask]
    rfl
  have hlen : (s.posted ++ [k]).length = s.posted.length + 1 := by
    rw [List.length_append, List.length_singleton]
  have hk := h.ended k (Or.inr hloop)
  have hreturned := h.started
  have hposted := h.posted_length
  exact { h with
    posted := by
      show s.posted ++ [k] = List.range (s.posted ++ [k]).length
      rw [hlen, List.range_succ, ← h.posted, show k = s.posted.length by omega]
    started := by
      rw [hpending]
      show s.returned.length + s.pending = s.started + 0
      omega
    posted_length := by
      show (s.posted ++ [k]).length + 0 = s.returned.length
      omega
    pending_le := hpending ▸ h.pending_le
    running := hpending ▸ h.running
    task := nofun
    ended := fun k hk => by rcases hk with hk | hk <;> cases hk
    funRun := fun hc => h.funRun (hpending ▸ hc)
    starting := fun hc => hpending.trans (h.starting hc)
    waiting := fun n hn => by
      obtain ⟨hns, ⟨hpost, -⟩ | ⟨hpost, hnil⟩⟩ := h.waiting n hn
      · omega
      · refine ⟨hns, Or.inl ⟨?_, k, ?_, ?_⟩⟩
        · show (s.posted ++ [k]).length = n
          omega
        · show s.eveFinish ++ [k] = [k]
          rw [hnil]
          rfl
        · omega
    created := fun hc => absurd (hc.symm.trans hstarted) nofun }

theorem loopRelease (h : Inv s) (hok : s.pThreadPool ≠ .garbage) (hs : s.loopRelease = some s') : Inv s' := by
  unfold CXThread.loopRelease at hs
  split at hs
  case h_2 => cases hs
  rename_i hloop
  cases hs
  have hpending : pending { s with loop := .waiting } = s.pending := by
    have hinTask : s.inTask = false := by rw [inTask, hloop]
    unfold pending
    rw [hinTask]
    rfl
  have hgo : Inv { s with loop := .waiting } :=
    h.goOn (h.started_of_loop (by rw [hloop]; nofun)) hpending (by rw [uncleared, hloop]) rfl
      (by rw [unposted, hloop]) rfl nofun fun _ => ⟨nofun, nofun⟩
  have hfault : (s.fault || s.pThreadPool = .garbage) = false := by simp [h.noFault, hok]
  rw [hfault, ← h.noFault]
  exact hgo

theorem step {a : Act} (h : Inv s) (hok : StepOk s a) (hs : s.step a = some s') : Inv s' := by
  cases a with
  | startTest createOk => exact h.startTest hs
  | startStore => exact h.startStore hs
  | startSignal => exact h.startSignal hs
  | startRunning => exact h.startRunning hs
  | waitTest => exact h.waitTest hok hs
  | waitTake => exact h.waitTake hs
  | loopTake => exact h.loopTake hs
  | loopRun => exact h.loopRun hs
  | taskReturn => exact h.taskReturn hs
  | loopClear => exact h.loopClear hok hs
  | loopSignal => exact h.loopSignal hs
  | loopRelease => exact h.loopRelease hok hs

end Inv

/-- In every interleaving whose steps meet the condition, every state is sound. -/
theorem sound_of_run {p : PoolPtr} {acts : List Act} (hok : EachStep step StepOk (construct p) acts)
    (hs : runSteps step (construct p) acts = some s) : Sound s :=
  (hok.invariant (fun _ _ _ h hok hs => h.step hok hs) (inv_construct p) hs).sound

/-- Two tasks, for the first of which the owner waits. -/
theorem sound_of_run_two : ∃ s, runSteps step (construct .null)
    [.startTest true, .startStore, .startSignal, .loopTake, .startRunning, .loopRun, .waitTest, .taskReturn,
      .loopClear, .loopSignal, .waitTake, .loopRelease, .startTest true, .startStore, .startSignal, .startRunning,
      .loopTake, .loopRun, .taskReturn, .loopClear, .waitTest, .loopSignal, .loopRelease] = some s ∧ Sound s := by
  obtain ⟨s, hs⟩ := Option.isSome_iff_exists.mp (show (runSteps step (construct .null)
    [.startTest true, .startStore, .startSignal, .loopTake, .startRunning, .loopRun, .waitTest, .taskReturn,
      .loopClear, .loopSignal, .waitTake, .loopRelease, .startTest true, .startStore, .startSignal, .startRunning,
      .loopTake, .loopRun, .taskReturn, .loopClear, .waitTest, .loopSignal, .loopRelease]).isSome by decide)
  refine ⟨s, hs, sound_of_run ?_ hs⟩
  refine ⟨trivial, fun _ h => ?_⟩
  cases h
  refine ⟨trivial, fun _ h => ?_⟩
  cases h
  refine ⟨trivial, fun _ h => ?_⟩
  cases h
  refine ⟨trivial, fun _ h => ?_⟩
  cases h
  refine ⟨trivial, fun _ h => ?_⟩
  cases h
  refine ⟨trivial, fun _ h => ?_⟩
  cases h
  refine ⟨fun _ => ⟨rfl, nofun⟩, fun _ h => ?_⟩
  cases h
  refine ⟨trivial, fun _ h => ?_⟩
  cases h
  refine ⟨nofun, fun _ h => ?_⟩
  cases h
  refine ⟨trivial, fun _ h => ?_⟩
  cases h
  refine ⟨trivial, fun _ h => ?_⟩
  cases h
  refine ⟨nofun, fun _ h => ?_⟩
  cases h
  refine ⟨trivial, fun _ h => ?_⟩
  cases h
  refine ⟨trivial, fun _ h => ?_⟩
  cases h
  refine ⟨trivial, fun _ h => ?_⟩
  cases h
  refine ⟨trivial, fun _ h => ?_⟩
  cases h
  refine ⟨trivial, fun _ h => ?_⟩
  cases h
  refine ⟨trivial, fun _ h => ?_⟩
  cases h
  refine ⟨trivial, fun _ h => ?_⟩
  cases h
  refine ⟨nofun, fun _ h => ?_⟩
  cases h
  refine ⟨nofun, fun _ h => ?_⟩
  cases h
  refine ⟨trivial, fun _ h => ?_⟩
  cases h
  exact ⟨nofun, fun _ _ => trivial⟩

/-- A task that ends before its `Start` stores `m_bRunning = true` leaves the thread running for ever. -/
theorem not_sound_fast_task : ∃ s, runSteps step (construct .null)
    [.startTest true, .startStore, .startSignal, .loopTake, .loopRun, .taskReturn, .loopClear, .loopSignal,
      .loopRelease, .startRunning] = some s ∧ ¬ Sound s := by
  refine ⟨_, rfl, fun h => ?_⟩
  exact absurd (h.restartable rfl rfl rfl).1 (by decide)

end CXThread

end KonsanNet
