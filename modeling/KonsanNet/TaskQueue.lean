import Mathlib.Tactic
import KonsanNet.QueueDrain
import KonsanNet.TaskPoolInv

/-!
# The task pool over its queue (`CXTaskPool`, `m_queueOutstandingTask`)

The pool of `TaskPool`, with the compacting queue as it is in the memory. Where each operation on the queue meets
its condition the pool is that of `TaskPool` (`Refines`), and what holds of the runs there holds of its own.
-/

namespace KonsanNet

namespace CXTaskPool

variable {τ Q Q' : Type}

/-- Another queue in its place. -/
def withQueue (s : CXTaskPool τ Q) (q : Q') : CXTaskPool τ Q' :=
  ⟨s.dwPoolSize, s.dwReducedPoolSize, s.bReducingPoolSize, s.event, q, s.bResizing, s.workers, s.resized, s.pushed,
    s.popped, s.ran⟩

end CXTaskPool

abbrev NodeTaskPool (τ : Type) := CXTaskPool τ (NodeQueue τ)

namespace NodeTaskPool

open CXTaskPool (withQueue)

variable {τ : Type}

/-- `Create(iPoolSize, iTaskQueueSize, ..)`, `none` where it fails. All threads are started. -/
def create (iPoolSize iTaskQueueSize : Nat) (newOk : Bool) : Option (NodeTaskPool τ) :=
  if iPoolSize < 2 ∨ iTaskQueueSize < 100 ∨ iTaskQueueSize > 1000000 then none
  else
    (NodeQueue.construct.init newOk (UInt32.ofNat (if iTaskQueueSize > 10000 then iTaskQueueSize else 10000))).bind
      fun r => if r.2 ≠ 0 then none else
        some ((CXTaskPool.created iPoolSize iTaskQueueSize : CXTaskPool τ).withQueue r.1)

/-- Nobody looks at what `Push` returns. -/
def pushTask (s : NodeTaskPool τ) (pTask : τ) (newOk : Bool) : Option (NodeTaskPool τ) :=
  if s.bResizing then none
  else (s.queueOutstandingTask.push newOk (some pTask)).map fun r =>
    { s with queueOutstandingTask := r.1, event := s.event + 1, pushed := s.pushed ++ [pTask] }

def takeTask (s : NodeTaskPool τ) (i : Nat) : Option (NodeTaskPool τ) :=
  match s.workers[i]? with
  | some .taking =>
    if s.bResizing then none
    else if 0 < s.queueOutstandingTask.size then
      match s.queueOutstandingTask.popFront with
      | none => none
      | some (q, none) => some ({ s with queueOutstandingTask := q }.setWorker i .waiting)
      | some (q, some pTask) =>
        some ({ s with queueOutstandingTask := q, popped := s.popped ++ [(i, pTask)] }.setWorker i (.running pTask))
    else some (s.setWorker i .waiting)
  | _ => none

inductive Act (τ : Type)
  | pushTask (pTask : τ) (newOk : Bool)
  | resizePool (iPoolSize : Int) (free new : List StartAnswer) (bAddPoolSize : Bool)
  | resizeWait (r : WaitResult)
  | wake (i : Nat)
  | decideExit (i : Nat)
  | takeTask (i : Nat)
  | runTask (i : Nat)

def step (s : NodeTaskPool τ) : Act τ → Option (NodeTaskPool τ)
  | .pushTask pTask newOk => pushTask s pTask newOk
  | .resizePool iPoolSize free new bAddPoolSize => CXTaskPool.resizePool s iPoolSize free new bAddPoolSize
  | .resizeWait r => CXTaskPool.resizeWait s r
  | .wake i => CXTaskPool.wake s i
  | .decideExit i => CXTaskPool.decideExit s i
  | .takeTask i => takeTask s i
  | .runTask i => CXTaskPool.runTask s i

/-- `ResizePool` takes a signal only while there is one to spare, and it does not add workers while others are
to leave; the operations on the queue meet their conditions. -/
def StepOk (s : NodeTaskPool τ) : Act τ → Prop
  | .pushTask _ newOk => s.queueOutstandingTask.PushOk newOk
  | .resizePool iPoolSize _ _ _ => 2 ≤ iPoolSize → s.dwPoolSize ≤ iPoolSize.toNat → s.bReducingPoolSize = false
  | .resizeWait .object0 => s.exits < s.signals ∧
      (0 < s.queueOutstandingTask.size → s.Draining ∨ s.exits + 1 < s.signals)
  | .takeTask _ => s.queueOutstandingTask.PopOk
  | .resizeWait .timeout | .resizeWait .failed | .wake _ | .decideExit _ | .runTask _ => True

instance (s : NodeTaskPool τ) : ∀ a, Decidable (StepOk s a)
  | .pushTask _ _ => inferInstanceAs (Decidable (NodeQueue.PushOk _ _))
  | .resizePool _ _ _ _ => inferInstanceAs (Decidable (_ → _ → _))
  | .resizeWait .object0 => inferInstanceAs (Decidable (_ ∧ (_ → s.Draining ∨ _)))
  | .takeTask _ => inferInstanceAs (Decidable (NodeQueue.PopOk _))
  | .resizeWait .timeout | .resizeWait .failed | .wake _ | .decideExit _ | .runTask _ =>
    inferInstanceAs (Decidable True)

/-- Where all workers sleep, nothing is queued, and every pushed task has been taken and run; and at any time each
pushed task is taken once, by one worker, who runs it once. -/
structure NotStranded (s : NodeTaskPool τ) : Prop where
  empty : s.Asleep → s.queueOutstandingTask.size = 0 ∧ s.popped.map Prod.snd = s.pushed ∧
    ∀ i, s.popped.filter (fun p => p.1 = i) = s.ran.filter (fun p => p.1 = i)
  taken : s.popped.map Prod.snd <+: s.pushed
  runs : ∀ i, s.popped.filter (fun p => p.1 = i) = s.ran.filter (fun p => p.1 = i) ++ s.held i

/-! ### The pool with a queue that is what it stands for -/

variable {s s' : NodeTaskPool τ} {t t' : CXTaskPool τ} {items : List τ} {q : NodeQueue τ}

/-- `t` is the pool, with the tasks `items` in its queue. -/
structure Refines (s : NodeTaskPool τ) (t : CXTaskPool τ) (items : List τ) : Prop where
  pool : s = t.withQueue s.queueOutstandingTask
  queue : s.queueOutstandingTask.Stands (items.map some)
  filed : t.Filed items
  covered : t.Covered

theorem resizePool_withQueue (iPoolSize : Int) (free new : List StartAnswer) (bAddPoolSize : Bool) :
    (t.withQueue q).resizePool iPoolSize free new bAddPoolSize =
      (t.resizePool iPoolSize free new bAddPoolSize).map (·.withQueue q) := by
  unfold CXTaskPool.resizePool
  split
  · rfl
  split
  · rename_i h2 hres
    rw [if_pos (show t.bResizing = true from hres)]
    rfl
  rename_i h2 hres
  rw [if_neg (show ¬ t.bResizing = true from hres)]
  split
  · rename_i hlt
    rw [if_pos (show iPoolSize.toNat < t.dwPoolSize from hlt)]
    rfl
  · rename_i hge
    rw [if_neg (show ¬ iPoolSize.toNat < t.dwPoolSize from hge), Option.map_map]
    rfl

theorem resizeWait_withQueue (r : WaitResult) :
    (t.withQueue q).resizeWait r = (t.resizeWait r).map (·.withQueue q) := by
  unfold CXTaskPool.resizeWait
  by_cases hres : t.bResizing = true
  · rw [if_pos hres, if_pos (show (t.withQueue q).bResizing = true from hres)]
    cases r with
    | object0 =>
      by_cases hpos : 0 < t.event
      · simp only [if_pos hpos, if_pos (show 0 < (t.withQueue q).event from hpos)]
        rfl
      · simp only [if_neg hpos, if_neg (show ¬ 0 < (t.withQueue q).event from hpos)]
        rfl
    | timeout => rfl
    | failed => rfl
  · rw [if_neg hres, if_neg (show ¬ (t.withQueue q).bResizing = true from hres)]
    rfl

theorem wake_withQueue (i : Nat) : (t.withQueue q).wake i = (t.wake i).map (·.withQueue q) := by
  unfold CXTaskPool.wake
  rw [show (t.withQueue q).workers = t.workers from rfl, show (t.withQueue q).event = t.event from rfl]
  rcases t.workers[i]? with - | w
  · rfl
  cases w with
  | waiting =>
    by_cases hpos : 0 < t.event
    · simp only [if_pos hpos]
      rfl
    · simp only [if_neg hpos]
      rfl
  | woken | taking | running | exited => rfl

theorem decideExit_withQueue (i : Nat) : (t.withQueue q).decideExit i = (t.decideExit i).map (·.withQueue q) := by
  unfold CXTaskPool.decideExit
  rw [show (t.withQueue q).workers = t.workers from rfl, show (t.withQueue q).bResizing = t.bResizing from rfl,
    show (t.withQueue q).bReducingPoolSize = t.bReducingPoolSize from rfl,
    show (t.withQueue q).dwReducedPoolSize = t.dwReducedPoolSize from rfl,
    show (t.withQueue q).dwPoolSize = t.dwPoolSize from rfl]
  rcases t.workers[i]? with - | w
  · rfl
  cases w with
  | woken =>
    dsimp only
    split
    · rfl
    split
    · split <;> rfl
    · rfl
  | waiting | taking | running | exited => rfl

theorem runTask_withQueue (i : Nat) : (t.withQueue q).runTask i = (t.runTask i).map (·.withQueue q) := by
  unfold CXTaskPool.runTask
  rw [show (t.withQueue q).workers = t.workers from rfl]
  rcases t.workers[i]? with - | w
  · rfl
  cases w <;> rfl

namespace Refines

theorem size (h : Refines s t items) : s.queueOutstandingTask.size = t.queueOutstandingTask.size := by
  rw [h.queue.size, h.filed.queue.size, List.length_map]

theorem other {f : CXTaskPool τ → Option (CXTaskPool τ)} {r : Option (NodeTaskPool τ)} (h : Refines s t items)
    (hf : r = (f t).map (·.withQueue s.queueOutstandingTask)) (hr : r = some s')
    (hkeep : ∀ t', f t = some t' → t'.Filed items ∧ t'.Covered) : ∃ t', f t = some t' ∧ Refines s' t' items := by
  obtain ⟨t', ht', rfl⟩ := Option.map_eq_some_iff.mp (hf.symm.trans hr)
  obtain ⟨hfiled, hcov⟩ := hkeep t' ht'
  exact ⟨t', ht', rfl, h.queue, hfiled, hcov⟩

theorem pushTask (h : Refines s t items) {pTask : τ} {newOk : Bool} (hok : s.queueOutstandingTask.PushOk newOk)
    (hs : pushTask s pTask newOk = some s') :
    ∃ t', t.pushTask pTask = some t' ∧ Refines s' t' (items ++ [pTask]) := by
  unfold NodeTaskPool.pushTask at hs
  split at hs
  case isTrue => cases hs
  rename_i hres
  obtain ⟨q', hrun, hq'⟩ := h.queue.push hok (some pTask)
  rw [hrun] at hs
  cases hs
  obtain ⟨c, hc, -⟩ := h.filed.queue.push (some pTask)
  have hrest : t.bResizing = false := by
    have heq := congrArg CXTaskPool.bResizing h.pool
    rw [Bool.not_eq_true] at hres
    exact heq.symm.trans hres
  have hpush : t.pushTask pTask = some { t with
      queueOutstandingTask := c, event := t.event + 1, pushed := t.pushed ++ [pTask] } := by
    unfold CXTaskPool.pushTask
    rw [hrest, hc]
    rfl
  refine ⟨_, hpush, ?_, ?_, h.filed.pushTask hpush, h.covered.pushTask hpush⟩
  · rw [h.pool]
    rfl
  · rw [List.map_append]
    exact hq'

theorem takeTask (h : Refines s t items) {i : Nat} (hok : s.queueOutstandingTask.PopOk)
    (hs : takeTask s i = some s') : ∃ t' items', t.takeTask i = some t' ∧ Refines s' t' items' := by
  have hworkers : s.workers = t.workers := congrArg CXTaskPool.workers h.pool
  have hres : s.bResizing = t.bResizing := congrArg CXTaskPool.bResizing h.pool
  have hcov : ∀ t', t.takeTask i = some t' → t'.Covered := fun t' ht' =>
    h.covered.takeTask ht' fun q hpop hsize => by
      obtain ⟨x, rest, q', -, hpop', -⟩ := h.filed.popFront hsize
      rw [hpop] at hpop'
      cases hpop'
  unfold NodeTaskPool.takeTask at hs
  split at hs
  case h_2 => cases hs
  rename_i hw
  rw [hworkers] at hw
  split at hs
  case isTrue => cases hs
  rename_i hr
  rw [hres] at hr
  by_cases hsize : 0 < t.queueOutstandingTask.size
  · obtain ⟨x, rest, c, rfl, hpop, hinv⟩ := h.filed.popFront hsize
    obtain ⟨q', hrun, hq'⟩ := h.queue.popFront hok
    rw [if_pos (by rw [h.size]; exact_mod_cast hsize), hrun] at hs
    cases hs
    have htake : t.takeTask i = some ({ t with
        queueOutstandingTask := c, popped := t.popped ++ [(i, x)] }.setWorker i (.running x)) := by
      unfold CXTaskPool.takeTask
      simp only [hw, hr, Bool.false_eq_true, if_false, hsize, if_true, hpop]
    obtain ⟨items', hfiled⟩ := h.filed.takeTask htake
    have hitems : items' = rest := by
      have htaken := hfiled.taken
      have hold := h.filed.taken
      have heq : t.popped.map Prod.snd ++ (x :: rest) = (t.popped ++ [(i, x)]).map Prod.snd ++ items' :=
        hold.symm.trans htaken
      rw [List.map_append, List.append_assoc] at heq
      exact (List.cons.inj (List.append_cancel_left heq)).2.symm
    subst hitems
    refine ⟨_, items', htake, ?_, hq', hfiled, hcov _ htake⟩
    rw [h.pool]
    rfl
  · rw [if_neg (by rw [h.size]; exact_mod_cast hsize)] at hs
    cases hs
    have htake : t.takeTask i = some (t.setWorker i .waiting) := by
      unfold CXTaskPool.takeTask
      simp only [hw, hr, Bool.false_eq_true, if_false, hsize]
    refine ⟨_, items, htake, ?_, h.queue, h.filed.setWorker hw (fun t => by rintro ⟨⟩) (fun t => by rintro ⟨⟩),
      hcov _ htake⟩
    rw [h.pool]
    rfl

theorem step {a : Act τ} (h : Refines s t items) (hok : StepOk s a) (hs : step s a = some s') :
    ∃ t' items', Refines s' t' items' := by
  have hpool := h.pool
  cases a with
  | pushTask pTask newOk =>
    obtain ⟨t', -, h'⟩ := h.pushTask hok hs
    exact ⟨t', _, h'⟩
  | resizePool n free new b =>
    have hred : CXTaskPool.stepOk t (.resizePool n free new b) := by
      rw [hpool] at hok
      exact hok
    obtain ⟨t', -, h'⟩ := h.other (f := fun t => t.resizePool n free new b)
      (by rw [← resizePool_withQueue, ← hpool]; rfl) hs fun t' ht' =>
        ⟨h.filed.resizePool ht', h.covered.resizePool hred ht'⟩
    exact ⟨t', _, h'⟩
  | resizeWait r =>
    have hspare : CXTaskPool.stepOk t (.resizeWait r) := by
      cases r with
      | object0 =>
        obtain ⟨hlt, hq⟩ := hok
        have hsize := h.size
        rw [hpool] at hlt hq
        refine ⟨hlt, fun hpos => ?_⟩
        exact hq (show 0 < s.queueOutstandingTask.size by omega)
      | timeout | failed => trivial
    obtain ⟨t', -, h'⟩ := h.other (f := fun t => t.resizeWait r) (by rw [← resizeWait_withQueue, ← hpool]; rfl) hs
      fun t' ht' => ⟨h.filed.resizeWait ht', h.covered.resizeWait hspare ht'⟩
    exact ⟨t', _, h'⟩
  | wake i =>
    obtain ⟨t', -, h'⟩ := h.other (f := fun t => t.wake i) (by rw [← wake_withQueue, ← hpool]; rfl) hs
      fun t' ht' => ⟨h.filed.wake ht', h.covered.wake ht'⟩
    exact ⟨t', _, h'⟩
  | decideExit i =>
    obtain ⟨t', -, h'⟩ := h.other (f := fun t => t.decideExit i) (by rw [← decideExit_withQueue, ← hpool]; rfl) hs
      fun t' ht' => ⟨h.filed.decideExit ht', h.covered.decideExit ht'⟩
    exact ⟨t', _, h'⟩
  | takeTask i =>
    obtain ⟨t', items', -, h'⟩ := h.takeTask hok hs
    exact ⟨t', items', h'⟩
  | runTask i =>
    obtain ⟨t', -, h'⟩ := h.other (f := fun t => t.runTask i) (by rw [← runTask_withQueue, ← hpool]; rfl) hs
      fun t' ht' => ⟨h.filed.runTask ht', h.covered.runTask ht'⟩
    exact ⟨t', _, h'⟩

theorem notStranded (h : Refines s t items) : NotStranded s where
  empty hs := by
    have hst : t.Asleep := by
      rw [h.pool] at hs
      exact hs
    have hempty := CXTaskPool.Inv.queue_empty ⟨⟨items, h.filed⟩, h.covered⟩ hst
    rw [h.filed.queue.contents_eq, List.map_eq_nil_iff] at hempty
    subst hempty
    refine ⟨h.queue.size, ?_, fun i => ?_⟩
    · rw [h.pool]
      exact (h.filed.taken.trans (List.append_nil _)).symm
    · have hruns := h.filed.runs i
      have hheld : t.held i = [] := by
        unfold CXTaskPool.held
        split
        · rename_i pTask hw
          rcases hst.1 _ (List.mem_of_getElem? hw) with hw | hw <;> cases hw
        · rfl
      rw [hheld, List.append_nil] at hruns
      rw [h.pool]
      exact hruns
  taken := by
    rw [h.pool]
    exact ⟨items, h.filed.taken.symm⟩
  runs i := by
    rw [h.pool]
    exact h.filed.runs i

end Refines

theorem refines_create {iPoolSize iTaskQueueSize : Nat} {newOk : Bool}
    (hs : create iPoolSize iTaskQueueSize newOk = some s) :
    Refines s (CXTaskPool.created iPoolSize iTaskQueueSize) ([] : List τ) := by
  unfold create at hs
  split at hs
  · cases hs
  rename_i hsizes
  have hle : (if iTaskQueueSize > 10000 then iTaskQueueSize else 10000) ≤ 1000000 := by
    split <;> omega
  have hge : 10000 ≤ (if iTaskQueueSize > 10000 then iTaskQueueSize else 10000) := by
    split <;> omega
  generalize (if iTaskQueueSize > 10000 then iTaskQueueSize else 10000) = n at hs hle hge
  have hnat : (UInt32.ofNat n).toNat = n := UInt32.toNat_ofNat_of_lt' (by show n < 2 ^ 32; omega)
  obtain ⟨r, hrun, hs⟩ := Option.bind_eq_some_iff.mp hs
  split at hs
  · cases hs
  cases hs
  obtain ⟨qb, qd, hq⟩ : ∃ qb qd, r.1.Inv qb qd ∧ qb ++ qd = ([] : List (Option τ)) := by
    obtain ⟨s', k, hrun', hinv, -⟩ := (NodeQueue.Inv.construct (δ := τ)).init newOk fun _ =>
      ⟨by rw [hnat]; omega, Or.inr (NodeQueue.sizeOk_of_lt (by rw [hnat]; omega))⟩
    obtain rfl := Option.some.inj (hrun.symm.trans hrun')
    exact ⟨[], [], hinv, rfl⟩
  have hcreated := CXTaskPool.filed_created (τ := τ) iPoolSize iTaskQueueSize
  exact ⟨rfl, ⟨Nat.two_pow_pos 31, qb, qd, hq⟩, hcreated, (CXTaskPool.inv_created iPoolSize iTaskQueueSize).covered⟩

def Refined (s : NodeTaskPool τ) : Prop := ∃ t items, Refines s t items

/-- In the runs whose steps meet `StepOk` no task is stranded, and each is run once. -/
theorem notStranded_of_stepOk {iPoolSize iTaskQueueSize : Nat} {newOk : Bool} {s₀ : NodeTaskPool τ}
    (hc : create iPoolSize iTaskQueueSize newOk = some s₀) (h : Reachable (guarded StepOk step) s₀ s) :
    NotStranded s := by
  have hinv : Refined s := h.invariant ⟨_, _, refines_create hc⟩ fun s a s' hr hs => by
    obtain ⟨t, items, hr⟩ := hr
    obtain ⟨hok, hs⟩ := guarded_eq_some.mp hs
    exact hr.step hok hs
  obtain ⟨t, items, hr⟩ := hinv
  exact hr.notStranded

/-! ### Concrete runs -/

/-- The queue of a new pool of three workers, with one task, and without it again. -/
theorem create_three : ∃ q₀ q₁ q₂ : NodeQueue Nat,
    create 3 100 true = some ((CXTaskPool.created 3 100 : CXTaskPool Nat).withQueue q₀) ∧
    (q₀.PushOk true ∧ q₀.push true (some 7) = some (q₁, true)) ∧ q₁.size = 1 ∧
    (q₁.PopOk ∧ q₁.popFront = some (q₂, some 7)) ∧ q₂.size = 0 ∧ q₂.PopOk := by
  obtain ⟨d, F, hrun, hc, hF, hblocks⟩ := CXQueueData.init_one (δ := Nat) (n := 10000) (by decide)
    (NodeQueue.sizeOk_of_lt (by decide))
  obtain ⟨p, F, rfl⟩ := List.exists_cons_of_length_pos (l := F) (by rw [hF]; decide)
  have hne : F ≠ [] := by
    rintro rfl
    cases hF
  obtain ⟨d₁, hpush, hc₁, hblocks₁⟩ := NodeQueue.push_single_free (n := 10000) hc (by rw [hblocks]; decide) (some 7)
  obtain ⟨d₂, hpop, hc₂, -⟩ := NodeQueue.popFront_single_free (n := 10000) hc₁ hne (by rw [hblocks₁, hblocks]; decide)
  refine ⟨_, _, _, ?_, ⟨NodeQueue.pushOk_single hc (by decide), hpush⟩, NodeQueue.size_single_clean hc₁ (by decide),
    ⟨NodeQueue.popOk_single hc₁ hne, hpop⟩, NodeQueue.size_single_clean hc₂ (by decide),
    NodeQueue.popOk_single hc₂ (by simp)⟩
  unfold create
  rw [if_neg (by decide), if_neg (by decide), show UInt32.ofNat 10000 = 10000 from rfl,
    NodeQueue.init_construct hrun]
  rfl

theorem takeTask_pop {i : Nat} {x : τ} (hw : s.workers[i]? = some .taking) (hres : s.bResizing = false)
    (hsize : 0 < s.queueOutstandingTask.size) (hpop : s.queueOutstandingTask.popFront = some (q, some x)) :
    takeTask s i = some ({ s with
      queueOutstandingTask := q, popped := s.popped ++ [(i, x)] }.setWorker i (.running x)) := by
  unfold takeTask
  simp only [hw, hres, Bool.false_eq_true, if_false, hsize, if_true, hpop]

theorem takeTask_empty {i : Nat} (hw : s.workers[i]? = some .taking) (hres : s.bResizing = false)
    (hsize : ¬ 0 < s.queueOutstandingTask.size) : takeTask s i = some (s.setWorker i .waiting) := by
  unfold takeTask
  simp only [hw, hres, Bool.false_eq_true, if_false, hsize]

/-- A task is run, and the pool is then reduced: `ResizePool` gets no signal and gives up. -/
theorem notStranded_shrink : ∃ s₀ s : NodeTaskPool Nat, create 3 100 true = some s₀ ∧
    Reachable (guarded StepOk step) s₀ s ∧ s.Asleep ∧ s.ran = [(0, 7)] ∧ s.dwPoolSize = 2 ∧ NotStranded s := by
  obtain ⟨q₀, q₁, q₂, hcreate, ⟨hpushOk, hpush⟩, hsize₁, ⟨hpopOk, hpop⟩, hsize₂, hpopOk₂⟩ := create_three
  have hpos : 0 < q₁.size := by
    rw [hsize₁]
    decide
  have hnot : ¬ 0 < q₂.size := by
    rw [hsize₂]
    decide
  let pool : CXTaskPool Nat := { CXTaskPool.created 3 100 with pushed := [7] }
  have htask : guarded StepOk step ((CXTaskPool.created 3 100 : CXTaskPool Nat).withQueue q₀) (.pushTask 7 true) =
      some ({ pool with event := 1 }.withQueue q₁) := by
    refine guarded_eq_some.mpr ⟨hpushOk, ?_⟩
    show (q₀.push true (some 7)).map _ = _
    rw [hpush]
    rfl
  have hwake : runSteps (guarded StepOk step) ({ pool with event := 1 }.withQueue q₁) [.wake 0, .decideExit 0] =
      some ({ pool with workers := [.taking, .waiting, .waiting] }.withQueue q₁) := rfl
  have htake : guarded StepOk step ({ pool with workers := [.taking, .waiting, .waiting] }.withQueue q₁)
      (.takeTask 0) =
      some ({ pool with workers := [.running 7, .waiting, .waiting], popped := [(0, 7)] }.withQueue q₂) := by
    refine guarded_eq_some.mpr ⟨hpopOk, ?_⟩
    simp only [step]
    rw [takeTask_pop (x := 7) (q := q₂)]
    · rfl
    · rfl
    · rfl
    · exact hpos
    · exact hpop
  have hempty : guarded StepOk step ({ pool with
      workers := [.taking, .waiting, .waiting], popped := [(0, 7)], ran := [(0, 7)] }.withQueue q₂) (.takeTask 0) =
      some ({ pool with popped := [(0, 7)], ran := [(0, 7)] }.withQueue q₂) := by
    refine guarded_eq_some.mpr ⟨hpopOk₂, ?_⟩
    simp only [step]
    rw [takeTask_empty]
    · rfl
    · rfl
    · rfl
    · exact hnot
  have hshrink : runSteps (guarded StepOk step)
      ({ pool with popped := [(0, 7)], ran := [(0, 7)] }.withQueue q₂)
      [.resizePool 2 [] [] true, .wake 1, .resizeWait .timeout, .resizeWait .failed, .decideExit 1] =
      some ({ pool with
        dwPoolSize := 2, dwReducedPoolSize := 2, bReducingPoolSize := true, workers := [.waiting, .exited, .waiting]
        popped := [(0, 7)], ran := [(0, 7)], resized := [false] }.withQueue q₂) := rfl
  have hreach := (((((Reachable.init.step _ htask).runSteps_of hwake).step _ htake).step (.runTask 0) rfl).step _
    hempty).runSteps_of hshrink
  exact ⟨_, _, hcreate, hreach, ⟨by simp [CXTaskPool.withQueue], rfl⟩, rfl, rfl, notStranded_of_stepOk hcreate hreach⟩

/-- A task is pushed, and the pool is reduced to two before one of its workers has woken up: `ResizePool` takes one
of the two signals, and the worker that takes the other one leaves. -/
theorem stranded_reduced : ¬ ∀ (iPoolSize iTaskQueueSize : Nat) (newOk : Bool) (s₀ s : NodeTaskPool Nat),
    create iPoolSize iTaskQueueSize newOk = some s₀ → Reachable step s₀ s → NotStranded s := by
  intro h
  obtain ⟨q₀, q₁, -, hcreate, ⟨-, hpush⟩, hsize₁, -⟩ := create_three
  have htask : step ((CXTaskPool.created 3 100 : CXTaskPool Nat).withQueue q₀) (.pushTask 7 true) =
      some ({ (CXTaskPool.created 3 100 : CXTaskPool Nat) with event := 1, pushed := [7] }.withQueue q₁) := by
    show (q₀.push true (some 7)).map _ = _
    rw [hpush]
    rfl
  have hreduce : runSteps step
      ({ (CXTaskPool.created 3 100 : CXTaskPool Nat) with event := 1, pushed := [7] }.withQueue q₁)
      [.resizePool 2 [] [] true, .resizeWait .object0, .wake 0, .decideExit 0] =
      some ({ (CXTaskPool.created 3 100 : CXTaskPool Nat) with
        dwPoolSize := 2, dwReducedPoolSize := 2, bReducingPoolSize := true, workers := [.exited, .waiting, .waiting]
        resized := [true], pushed := [7] }.withQueue q₁) := rfl
  have hempty := ((h 3 100 true _ _ hcreate ((Reachable.init.step _ htask).runSteps_of hreduce)).empty
    ⟨by simp [CXTaskPool.withQueue], rfl⟩).1
  exact absurd (hsize₁.symm.trans hempty) (by decide)

end NodeTaskPool

end KonsanNet
