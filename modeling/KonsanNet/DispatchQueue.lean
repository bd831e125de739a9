import Mathlib.Tactic
import KonsanNet.QueueDrain
import KonsanNet.DispatchInv

/-!
# Dispatching over the message queue (`CXMessageQueue`, `m_queue`)

The threads of `Dispatch`, with the compacting queue as it is in the memory. Where each operation on the queue meets
its condition, a run is one of `Dispatch` (`Refines`), and the handlers are entered in order. A queue that has been
drained while the nodes of its block were all in use hands the first message out again.
-/

namespace KonsanNet

namespace Dispatch

variable {Q Q' : Type}

/-- Another queue in its place. -/
def withQueue (s : Dispatch Q) (q : Q') : Dispatch Q' :=
  ⟨s.lstMessage, s.uiLastProcessedMessageSequenceNum, s.uiNumberOfReceivedPacketInQueue, s.lockSend, q, s.worker,
    s.arrived, s.posted, s.log⟩

end Dispatch

abbrev NodeDispatch := Dispatch (NodeQueue CXMessageData)

namespace NodeDispatch

open Dispatch (withQueue runLog Settled)

def fresh : NodeDispatch := Dispatch.fresh.withQueue .construct

/-- `PushMessage` does not look at what `Push` returns. -/
def arrive (s : NodeDispatch) (pMes : CXMessageData) (newOk : Bool) : Option NodeDispatch :=
  if pMes.dwType ≠ 2 ∧ 1 ≤ pMes.iSequenceNum ∧ pMes.iSequenceNum ∉ s.arrived then
    (s.queue.push newOk (some pMes)).map fun r =>
      { s with
        uiNumberOfReceivedPacketInQueue := s.uiNumberOfReceivedPacketInQueue + 1
        queue := r.1
        arrived := pMes.iSequenceNum :: s.arrived }
  else none

def post (bAsync : Nat → Bool) (s : NodeDispatch) (pMes : CXMessageData) (newOk : Bool) : Option NodeDispatch :=
  if bAsync pMes.iSequenceNum ∧ DispatchEvent.entered pMes.iSequenceNum ∈ s.log ∧ pMes.iSequenceNum ∉ s.posted then
    (s.queue.push newOk (some { pMes with dwType := 2 })).map fun r =>
      { s with queue := r.1, posted := pMes.iSequenceNum :: s.posted }
  else none

/-- `GetMessage`; with `NULL` the thread goes back to the wait. -/
def getMessage (s : NodeDispatch) (w : Nat) : Option NodeDispatch :=
  if 0 < s.queue.size then
    match s.queue.popFront with
    | none => none
    | some (q, none) => some { s with queue := q }
    | some (q, some pMes) =>
      some ({ s with queue := q }.setWorker w (if pMes.dwType = 2 then .asyncEnd pMes else .input pMes))
  else none

inductive Act
  | arrive (pMes : CXMessageData) (newOk : Bool)
  | post (pMes : CXMessageData) (newOk : Bool)
  | run (w : Nat)

def step (bAsync : Nat → Bool) (s : NodeDispatch) : Act → Option NodeDispatch
  | .arrive pMes newOk => arrive s pMes newOk
  | .post pMes newOk => post bAsync s pMes newOk
  | .run w =>
    match s.worker w with
    | .idle => getMessage s w
    | .input pInputMes => Dispatch.inputMessage s w pInputMes
    | .asyncEnd pMessageData => Dispatch.processAsyncMessageEnd s w pMessageData
    | .resume => Dispatch.resumeLoop s w
    | .loop => Dispatch.testLoop s w
    | .handler pCurMes => some (Dispatch.endHandler bAsync s w pCurMes)

/-- The operations on the queue meet their conditions. -/
def StepOk (s : NodeDispatch) : Act → Prop
  | .arrive _ newOk | .post _ newOk => s.queue.PushOk newOk
  | .run w => s.worker w = .idle → s.queue.PopOk

instance (s : NodeDispatch) : ∀ a, Decidable (StepOk s a)
  | .arrive _ _ | .post _ _ => inferInstanceAs (Decidable (NodeQueue.PushOk _ _))
  | .run _ => inferInstanceAs (Decidable (_ → NodeQueue.PopOk _))

/-- The handlers have been entered in order, each once, after the one before has completed. If none is open, a message
that is left in the list while nobody is about to look at it has a predecessor that is not complete; and if all
threads are idle at an empty queue, every message whose predecessors have arrived too is complete. -/
structure InOrder (s : NodeDispatch) : Prop where
  order : ∃ n, s.log = runLog n ∨ s.log = runLog n ++ [.entered (n + 1)]
  list : Settled s → (∀ w, s.worker w ≠ .loop ∧ s.worker w ≠ .resume) →
    ∀ m ∈ s.lstMessage.head, ∃ k, 1 ≤ k ∧ k < m.iSequenceNum ∧ .completed k ∉ s.log
  complete : Settled s → (∀ w, s.worker w = .idle) → s.queue.size = 0 →
    ∀ k, (∀ j, 1 ≤ j → j ≤ k → j ∈ s.arrived) → ∀ j, 1 ≤ j → j ≤ k → .completed j ∈ s.log

/-! ### The threads with a queue that is what it stands for -/

variable {bAsync : Nat → Bool} {s s' : NodeDispatch} {t t' : Dispatch} {q q' : NodeQueue CXMessageData}
  {m : CXMessageData} {w : Nat} {newOk : Bool}

structure Refines (s : NodeDispatch) (t : Dispatch) : Prop where
  rest : s = t.withQueue s.queue
  queue : s.queue.Stands (t.queue.map some)

theorem arrive_withQueue (hnew : m.dwType ≠ 2 ∧ 1 ≤ m.iSequenceNum ∧ m.iSequenceNum ∉ t.arrived) {ok : Bool}
    (hpush : q.push newOk (some m) = some (q', ok)) :
    arrive (t.withQueue q) m newOk = some ({ t with
      uiNumberOfReceivedPacketInQueue := t.uiNumberOfReceivedPacketInQueue + 1
      arrived := m.iSequenceNum :: t.arrived }.withQueue q') := by
  unfold arrive
  rw [show (t.withQueue q).arrived = t.arrived from rfl, if_pos hnew, show (t.withQueue q).queue = q from rfl, hpush]
  rfl

theorem getMessage_withQueue (hsize : 0 < q.size) (hpop : q.popFront = some (q', some m)) :
    getMessage (t.withQueue q) w =
      some ((t.setWorker w (if m.dwType = 2 then .asyncEnd m else .input m)).withQueue q') := by
  unfold getMessage
  rw [show (t.withQueue q).queue = q from rfl, if_pos hsize, hpop]
  rfl

section

variable {Q : Type} {q : Q}

theorem inputMessage_withQueue :
    (t.withQueue q).inputMessage w m = (t.inputMessage w m).map (·.withQueue q) := by
  unfold Dispatch.inputMessage
  by_cases hlock : t.lockSend = none
  · rw [if_pos hlock, if_pos (show (t.withQueue q).lockSend = none from hlock)]
    unfold Dispatch.pushMessage
    rw [show (t.withQueue q).lstMessage = t.lstMessage from rfl]
    cases SeqList.push CXMessageData.iSequenceNum t.lstMessage m with
    | none => rfl
    | some r => obtain ⟨l, ok⟩ := r; cases ok <;> rfl
  · rw [if_neg hlock, if_neg (show ¬ (t.withQueue q).lockSend = none from hlock)]
    rfl

theorem resumeLoop_withQueue : (t.withQueue q).resumeLoop w = (t.resumeLoop w).map (·.withQueue q) := by
  unfold Dispatch.resumeLoop
  by_cases hlock : t.lockSend = none
  · rw [if_pos hlock, if_pos (show (t.withQueue q).lockSend = none from hlock)]
    rw [show (t.withQueue q).lstMessage = t.lstMessage from rfl]
    split <;> rfl
  · rw [if_neg hlock, if_neg (show ¬ (t.withQueue q).lockSend = none from hlock)]
    rfl

theorem testLoop_withQueue : (t.withQueue q).testLoop w = (t.testLoop w).map (·.withQueue q) := by
  unfold Dispatch.testLoop
  rw [show (t.withQueue q).lstMessage = t.lstMessage from rfl,
    show (t.withQueue q).uiLastProcessedMessageSequenceNum = t.uiLastProcessedMessageSequenceNum from rfl]
  cases t.lstMessage.head with
  | nil => rfl
  | cons pCurMes rest =>
    dsimp only
    split <;> rfl

theorem processAsyncMessageEnd_withQueue :
    (t.withQueue q).processAsyncMessageEnd w m = (t.processAsyncMessageEnd w m).map (·.withQueue q) := by
  unfold Dispatch.processAsyncMessageEnd
  by_cases hlock : t.lockSend = none
  · rw [if_pos hlock, if_pos (show (t.withQueue q).lockSend = none from hlock)]
    rfl
  · rw [if_neg hlock, if_neg (show ¬ (t.withQueue q).lockSend = none from hlock)]
    rfl

theorem endHandler_withQueue : (t.withQueue q).endHandler bAsync w m = (t.endHandler bAsync w m).withQueue q := by
  unfold Dispatch.endHandler
  split <;> rfl

end

theorem step_withQueue (hw : t.worker w ≠ .idle) :
    step bAsync (t.withQueue q) (.run w) = (Dispatch.step bAsync t (.run w)).map (·.withQueue q) := by
  simp only [step, Dispatch.step, show (t.withQueue q).worker w = t.worker w from rfl]
  cases ht : t.worker w with
  | idle => exact absurd ht hw
  | input m => exact inputMessage_withQueue
  | asyncEnd m => exact processAsyncMessageEnd_withQueue
  | resume => exact resumeLoop_withQueue
  | loop => exact testLoop_withQueue
  | handler m => exact congrArg some endHandler_withQueue

theorem queue_inputMessage (h : t.inputMessage w m = some t') : t'.queue = t.queue := by
  unfold Dispatch.inputMessage at h
  split at h
  · obtain ⟨r, hr, rfl⟩ := Option.map_eq_some_iff.mp h
    obtain ⟨l, -, rfl⟩ := Option.map_eq_some_iff.mp hr
    split <;> rfl
  · cases h

theorem queue_resumeLoop (h : t.resumeLoop w = some t') : t'.queue = t.queue := by
  unfold Dispatch.resumeLoop at h
  split at h
  · split at h <;> cases h <;> rfl
  · cases h

theorem queue_testLoop (h : t.testLoop w = some t') : t'.queue = t.queue := by
  unfold Dispatch.testLoop at h
  split at h
  · cases h
  · split at h <;> cases h <;> rfl

theorem queue_processAsyncMessageEnd (h : t.processAsyncMessageEnd w m = some t') : t'.queue = t.queue := by
  unfold Dispatch.processAsyncMessageEnd at h
  split at h <;> cases h
  rfl

theorem queue_endHandler : (t.endHandler bAsync w m).queue = t.queue := by
  unfold Dispatch.endHandler
  split <;> rfl

theorem queue_run (hw : t.worker w ≠ .idle) (h : Dispatch.step bAsync t (.run w) = some t') : t'.queue = t.queue := by
  simp only [Dispatch.step] at h
  cases ht : t.worker w with
  | idle => exact absurd ht hw
  | input m => exact queue_inputMessage (by simpa only [ht] using h)
  | asyncEnd m => exact queue_processAsyncMessageEnd (by simpa only [ht] using h)
  | resume => exact queue_resumeLoop (by simpa only [ht] using h)
  | loop => exact queue_testLoop (by simpa only [ht] using h)
  | handler m =>
    rw [ht] at h
    cases h
    exact queue_endHandler

namespace Refines

theorem fresh : Refines fresh Dispatch.fresh := ⟨rfl, NodeQueue.stands_construct⟩

theorem size (h : Refines s t) : s.queue.size = t.queue.length := by
  rw [h.queue.size, List.length_map]

theorem push (h : Refines s t) (hok : s.queue.PushOk newOk) (m : CXMessageData) :
    ∃ q, s.queue.push newOk (some m) = some (q, true) ∧ q.Stands ((t.queue ++ [m]).map some) := by
  obtain ⟨q, hrun, hq⟩ := h.queue.push hok (some m)
  refine ⟨q, hrun, ?_⟩
  rw [List.map_append]
  exact hq

theorem arrive (h : Refines s t) (hok : s.queue.PushOk newOk) (hs : arrive s m newOk = some s') :
    ∃ t', t.arrive m = some t' ∧ Refines s' t' := by
  obtain ⟨q, hrun, hq⟩ := h.push hok m
  have hrest := h.rest
  have harrived : s.arrived = t.arrived := congrArg Dispatch.arrived hrest
  unfold NodeDispatch.arrive at hs
  split at hs
  case isFalse => cases hs
  rename_i hnew
  rw [hrun] at hs
  cases hs
  rw [harrived] at hnew
  unfold Dispatch.arrive
  rw [if_pos hnew]
  refine ⟨_, rfl, ?_, hq⟩
  rw [hrest]
  rfl

theorem post (h : Refines s t) (hok : s.queue.PushOk newOk) (hs : post bAsync s m newOk = some s') :
    ∃ t', t.post bAsync m = some t' ∧ Refines s' t' := by
  obtain ⟨q, hrun, hq⟩ := h.push hok { m with dwType := 2 }
  have hrest := h.rest
  have hposted : s.posted = t.posted := congrArg Dispatch.posted hrest
  have hlog : s.log = t.log := congrArg Dispatch.log hrest
  unfold NodeDispatch.post at hs
  split at hs
  case isFalse => cases hs
  rename_i hentered
  rw [hrun] at hs
  cases hs
  rw [hposted, hlog] at hentered
  unfold Dispatch.post
  rw [if_pos hentered]
  refine ⟨_, rfl, ?_, hq⟩
  rw [hrest]
  rfl

theorem getMessage (h : Refines s t) (hok : s.queue.PopOk) (hs : getMessage s w = some s') :
    ∃ t', t.getMessage w = some t' ∧ Refines s' t' := by
  have hrest := h.rest
  unfold NodeDispatch.getMessage at hs
  split at hs
  case isFalse => cases hs
  rename_i hsize
  rw [h.size] at hsize
  obtain ⟨m, rest, hqueue⟩ := List.exists_cons_of_length_pos (l := t.queue) (by exact_mod_cast hsize)
  obtain ⟨q, hrun, hq⟩ := h.queue.popFront hok
  rw [hqueue] at hrun hq
  rw [hrun] at hs
  cases hs
  unfold Dispatch.getMessage
  rw [hqueue]
  refine ⟨_, rfl, ?_, hq⟩
  rw [hrest]
  rfl

theorem step {a : Act} (h : Refines s t) (hok : StepOk s a) (hs : step bAsync s a = some s') :
    ∃ b t', Dispatch.step bAsync t b = some t' ∧ Refines s' t' := by
  have hrest := h.rest
  cases a with
  | arrive m newOk =>
    obtain ⟨t', ht, h'⟩ := h.arrive hok hs
    exact ⟨.arrive m, t', ht, h'⟩
  | post m newOk =>
    obtain ⟨t', ht, h'⟩ := h.post hok hs
    exact ⟨.post m, t', ht, h'⟩
  | run w =>
    have hworker : s.worker w = t.worker w := congrFun (congrArg Dispatch.worker hrest) w
    refine ⟨.run w, ?_⟩
    by_cases hw : t.worker w = .idle
    · have hidle := hworker.trans hw
      simp only [NodeDispatch.step, hidle] at hs
      simp only [Dispatch.step, hw]
      exact h.getMessage (hok hidle) hs
    · rw [hrest, step_withQueue hw] at hs
      obtain ⟨t', ht, rfl⟩ := Option.map_eq_some_iff.mp hs
      refine ⟨t', ht, rfl, ?_⟩
      rw [queue_run hw ht]
      exact h.queue

theorem inOrder (h : Refines s t) (ht : Reachable (Dispatch.step bAsync) Dispatch.fresh t) : InOrder s := by
  obtain ⟨horder, hlist, hcomplete⟩ := Dispatch.dispatch_in_order ht
  have hrest := h.rest
  have hlog : s.log = t.log := congrArg Dispatch.log hrest
  have hworker : s.worker = t.worker := congrArg Dispatch.worker hrest
  have hsettled : Settled s → Settled t := fun hs k => by
    rw [← hlog]
    exact hs k
  constructor
  case order =>
    rw [hlog]
    exact horder
  case list =>
    intro hs hw m hm
    rw [hlog]
    rw [hworker] at hw
    rw [hrest] at hm
    exact hlist (hsettled hs) hw m hm
  case complete =>
    intro hs hw hsize
    rw [hlog, show s.arrived = t.arrived from congrArg Dispatch.arrived hrest]
    rw [hworker] at hw
    rw [h.size] at hsize
    exact hcomplete (hsettled hs) hw (List.length_eq_zero_iff.mp (by exact_mod_cast hsize))

end Refines

/-- In the runs whose operations on the queue meet their conditions the messages are dispatched in order. -/
theorem inOrder_of_stepOk (h : Reachable (guarded StepOk (step bAsync)) fresh s) : InOrder s := by
  obtain ⟨t, hr, ht⟩ := h.simulation Refines.fresh fun s t a s' hr hs =>
    .inr (hr.step (guarded_eq_some.mp hs).1 (guarded_eq_some.mp hs).2)
  exact hr.inOrder ht

/-! ### Runs with few messages in the queue -/

/-- The threads are those of `t`, and its messages are in one block. -/
structure Roomy (s : NodeDispatch) (t : Dispatch) : Prop where
  rest : s = t.withQueue s.queue
  queue : s.queue.OneBlock (t.queue.map some)

namespace Roomy

theorem getMessage (h : Roomy s t) (hlt : t.queue.length < 10240) (ht : t.getMessage w = some t') :
    ∃ s', s.queue.PopOk ∧ NodeDispatch.getMessage s w = some s' ∧ Roomy s' t' := by
  unfold Dispatch.getMessage at ht
  split at ht
  case h_1 => cases ht
  rename_i m rest hqueue
  cases ht
  have hq := h.queue
  rw [hqueue] at hq hlt
  obtain ⟨q, hok, hsize, hpop, hq'⟩ := NodeQueue.OneBlock.popFront hq (by rwa [← List.map_cons, List.length_map])
  rw [h.rest]
  exact ⟨_, hok, getMessage_withQueue hsize hpop, rfl, hq'⟩

theorem step {a : DispatchAct} (h : Roomy s t) (hlt : t.queue.length < 10240)
    (ht : Dispatch.step bAsync t a = some t') :
    ∃ b s', guarded StepOk (NodeDispatch.step bAsync) s b = some s' ∧ Roomy s' t' := by
  have hrest := h.rest
  have hlog : s.log = t.log := congrArg Dispatch.log hrest
  cases a with
  | arrive m =>
    simp only [Dispatch.step, Dispatch.arrive] at ht
    split at ht
    case isFalse => cases ht
    rename_i hnew
    cases ht
    obtain ⟨q, hok, hrun, h'⟩ := h.queue.push (by rwa [List.length_map]) (some m)
    rw [← List.map_singleton, ← List.map_append] at h'
    refine ⟨.arrive m true, Dispatch.withQueue _ q, guarded_eq_some.mpr ⟨hok, ?_⟩, rfl, h'⟩
    simp only [NodeDispatch.step, NodeDispatch.arrive]
    rw [if_pos (by rw [show s.arrived = t.arrived from congrArg Dispatch.arrived hrest]; exact hnew), hrun, hrest]
    rfl
  | post m =>
    simp only [Dispatch.step, Dispatch.post] at ht
    split at ht
    case isFalse => cases ht
    rename_i hentered
    cases ht
    obtain ⟨q, hok, hrun, h'⟩ := h.queue.push (by rwa [List.length_map]) (some { m with dwType := 2 })
    rw [← List.map_singleton, ← List.map_append] at h'
    refine ⟨.post m true, Dispatch.withQueue _ q, guarded_eq_some.mpr ⟨hok, ?_⟩, rfl, h'⟩
    simp only [NodeDispatch.step, NodeDispatch.post]
    rw [if_pos (by rw [hlog, show s.posted = t.posted from congrArg Dispatch.posted hrest]; exact hentered), hrun,
      hrest]
    rfl
  | run w =>
    have hworker : s.worker w = t.worker w := congrFun (congrArg Dispatch.worker hrest) w
    refine ⟨.run w, ?_⟩
    by_cases hw : t.worker w = .idle
    · simp only [Dispatch.step, hw] at ht
      obtain ⟨s', hok, hrun, h'⟩ := h.getMessage hlt ht
      refine ⟨s', guarded_eq_some.mpr ⟨fun _ => hok, ?_⟩, h'⟩
      simp only [NodeDispatch.step, hworker.trans hw]
      exact hrun
    · refine ⟨t'.withQueue s.queue, guarded_eq_some.mpr ⟨fun hi => absurd (hworker.symm.trans hi) hw, ?_⟩, rfl, ?_⟩
      · rw [hrest, step_withQueue hw, ht]
        rfl
      · rw [queue_run hw ht]
        exact h.queue

end Roomy

/-- A run during which the queue has a node to spare is a run of the threads here, and each operation of it meets its
condition. -/
theorem exists_of_short
    (h : Reachable (guarded (fun t _ => t.queue.length < 10240) (Dispatch.step bAsync)) Dispatch.fresh t) :
    ∃ s, Roomy s t ∧ Reachable (guarded StepOk (step bAsync)) fresh s :=
  h.simulation (R := fun t s => Roomy s t) ⟨rfl, .inl ⟨rfl, rfl⟩⟩ fun t s a t' hr ht => by
    obtain ⟨hlt, ht⟩ := guarded_eq_some.mp ht
    exact .inr (hr.step hlt ht)

/-- Two threads; message 2 is the first in the queue, and the end of message 1 is posted before its handler
has returned. -/
def twoActs : List DispatchAct :=
  [.arrive ⟨0, 1, 0, 2, []⟩, .arrive ⟨1, 1, 0, 1, []⟩, .run 0, .run 1, .run 0, .run 0, .run 1, .run 1,
    .post ⟨1, 1, 0, 1, []⟩, .run 1, .run 0, .run 0, .run 0, .run 0, .run 0, .run 0]

theorem inOrder_two : ∃ s, Reachable (guarded StepOk (step fun k => k == 1)) fresh s ∧
    s.log = [.entered 1, .completed 1, .entered 2, .completed 2] ∧ InOrder s := by
  obtain ⟨t, ht⟩ : ∃ t, runSteps (guarded (fun t _ => t.queue.length < 10240) (Dispatch.step fun k => k == 1))
    Dispatch.fresh twoActs = some t := ⟨_, rfl⟩
  obtain ⟨s, hr, hs⟩ := exists_of_short (Reachable.of_runSteps ht)
  refine ⟨s, hs, ?_, inOrder_of_stepOk hs⟩
  rw [show s.log = t.log from congrArg Dispatch.log hr.rest]
  cases ht
  rfl

/-! ### A queue that is drained while no node is free -/

open CXQueueData (Draining Stale)

def message (k : Nat) : CXMessageData := ⟨0, 1, 0, k, []⟩

/-- The messages 1 to `n` have arrived, and the first `j` are in the hands of as many threads. -/
def taken (n j : Nat) : Dispatch :=
  { Dispatch.fresh with
    uiNumberOfReceivedPacketInQueue := UInt64.ofNat n
    queue := (List.range n).map fun k => message (k + 1)
    worker := fun w => if w < j then .input (message (w + 1)) else .idle
    arrived := ((List.range n).map (· + 1)).reverse }

theorem taken_succ {n : Nat} : (taken n 0).arrive (message (n + 1)) = some (taken (n + 1) 0) := by
  unfold Dispatch.arrive
  rw [if_pos]
  · simp [taken, message, List.range_succ]
  · simp [taken, message]

theorem reachable_taken (bAsync : Nat → Bool) (n : Nat) (hn : n ≤ 10240) :
    Reachable (guarded (fun t _ => t.queue.length < 10240) (Dispatch.step bAsync)) Dispatch.fresh (taken n 0) := by
  induction n with
  | zero => exact .init
  | succ n ih =>
    refine (ih (by omega)).step (.arrive (message (n + 1))) (guarded_eq_some.mpr ⟨?_, taken_succ⟩)
    simp [taken]
    omega

/-- The state with the elements that the threads have taken out of the queue. -/
def drainedBy (j : Nat) (d : CXQueueData CXMessageData) : NodeDispatch :=
  (taken 10240 j).withQueue (.single 10240 d)

def messages : List (Option CXMessageData) := (taken 10240 0).queue.map some

theorem length_messages : messages.length = 10240 := by simp [messages, taken]

theorem head?_messages {j : Nat} (hj : j < 10240) : (messages.drop j).head?.join = some (message (j + 1)) := by
  rw [List.head?_drop]
  simp [messages, taken, hj]

theorem exists_full (bAsync : Nat → Bool) : ∃ d L,
    Reachable (step bAsync) fresh (drainedBy 0 d) ∧ Draining d messages L 0 ∧
    d.dwNumberOfBlocks = 1 := by
  obtain ⟨s, hr, hs⟩ := exists_of_short (reachable_taken bAsync 10240 (by decide))
  rcases hr.queue with ⟨-, hnil⟩ | ⟨d, L, F, hq, hc, hF, hblocks⟩
  · have := congrArg List.length hnil
    simp [taken] at this
  · have hnone : F = [] := by
      simp [taken] at hF
      exact hF
    subst hnone
    have heq : s = drainedBy 0 d := by
      rw [hr.rest, hq]
      rfl
    exact ⟨d, L, heq ▸ hs.of_guarded, hc.draining, hblocks⟩

theorem taken_setWorker {n j : Nat} {q : NodeQueue CXMessageData} :
    ((taken n j).setWorker j (.input (message (j + 1)))).withQueue q = (taken n (j + 1)).withQueue q := by
  have hworker : Function.update (taken n j).worker j (.input (message (j + 1))) = (taken n (j + 1)).worker := by
    funext w
    rw [Function.update_apply]
    simp only [taken]
    by_cases hw : w = j
    · subst hw
      simp
    · rw [if_neg hw]
      by_cases hlt : w < j
      · rw [if_pos hlt, if_pos (by omega)]
      · rw [if_neg hlt, if_neg (by omega)]
  unfold Dispatch.setWorker
  rw [hworker]
  rfl

theorem step_getMessage (hw : t.worker w = .idle) (hsize : 0 < q.size) (hpop : q.popFront = some (q', some m))
    (hty : m.dwType ≠ 2) : step bAsync (t.withQueue q) (.run w) = some ((t.setWorker w (.input m)).withQueue q') := by
  simp only [step, show (t.withQueue q).worker w = .idle from hw]
  rw [getMessage_withQueue hsize hpop, if_neg hty]

theorem getMessage_drained {j : Nat} {d d' : CXQueueData CXMessageData} (hsize : 0 < d.size)
    (hblocks : d.dwNumberOfBlocks < 10) (hpop : d.popFront = some (d', some (message (j + 1)))) :
    step bAsync (drainedBy j d) (.run j) = some (drainedBy (j + 1) d') := by
  have hidle : (taken 10240 j).worker j = .idle := by simp [taken]
  unfold drainedBy
  rw [step_getMessage hidle (NodeQueue.size_single (n := 10240) ▸ hsize) (NodeQueue.popFront_single hblocks hpop)]
  · rw [taken_setWorker]
  · show 1 ≠ 2
    decide

theorem exists_draining (bAsync : Nat → Bool) {j : Nat} (hj : j < 10240) : ∃ d L,
    Reachable (step bAsync) fresh (drainedBy j d) ∧ Draining d messages L j ∧ d.dwNumberOfBlocks = 1 := by
  induction j with
  | zero => exact exists_full bAsync
  | succ j ih =>
    obtain ⟨d, L, hs, hd, hblocks⟩ := ih (by omega)
    obtain ⟨d', hpop, hd', hblocks'⟩ := hd.popFront (by rw [length_messages]; omega)
    rw [head?_messages (by omega)] at hpop
    have hsize : 0 < d.size := by
      rw [CXQueueData.size_eq hd.rep.count (by rw [List.length_drop, length_messages]; omega), List.length_drop,
        length_messages]
      omega
    refine ⟨d', L, hs.step (.run j) (getMessage_drained hsize ?_ hpop), hd', hblocks'.trans hblocks⟩
    rw [hblocks]
    decide

/-- All messages are taken, the queue counts none, and it still has the chain of all of them. -/
theorem exists_stale (bAsync : Nat → Bool) : ∃ d L,
    Reachable (step bAsync) fresh (drainedBy 10240 d) ∧ Stale d messages L ∧
    d.dwNumberOfBlocks = 1 := by
  obtain ⟨d, L, hs, hd, hblocks⟩ := exists_draining bAsync (j := 10239) (by decide)
  obtain ⟨d', hpop, hd', hblocks'⟩ := hd.popLast (by rw [length_messages])
  rw [head?_messages (by decide)] at hpop
  have hsize : 0 < d.size := by
    rw [CXQueueData.size_eq hd.rep.count (by rw [List.length_drop, length_messages]; decide), List.length_drop,
      length_messages]
    decide
  refine ⟨d', L, hs.step (.run 10239) (getMessage_drained hsize ?_ hpop), hd', hblocks'.trans hblocks⟩
  rw [hblocks]
  decide

/-- One message more arrives; the thread that asks for it gets message 1, and the queue counts none again. -/
theorem exists_again (bAsync : Nat → Bool) : ∃ d d' : CXQueueData CXMessageData,
    Reachable (step bAsync) fresh (drainedBy 10240 d) ∧
    (NodeQueue.single 10240 d).push true (some (message 10241)) = some (.single 10240 d', true) ∧
    0 < (NodeQueue.single 10240 d').size ∧
    ∃ d'', (NodeQueue.single 10240 d').popFront = some (.single 10240 d'', some (message 1)) ∧
      (NodeQueue.single 10240 d'').size = 0 := by
  obtain ⟨d, L, hs, hd, hblocks⟩ := exists_stale bAsync
  obtain ⟨d', p, F, hpush, hone, hrep, hblocks'⟩ := hd.push (some (message 10241))
  rw [hblocks] at hblocks'
  have htwo : 2 ≤ (L ++ [p]).length := by
    have hlen := congrArg List.length hrep.data
    rw [List.length_map, List.length_append, List.length_append, length_messages] at hlen
    rw [List.length_append, hlen]
    decide
  obtain ⟨rest, hrest⟩ : ∃ rest, messages = some (message 1) :: rest :=
    ⟨_, List.eq_cons_of_mem_head? (by simp [messages, taken, List.head?_range, message])⟩
  rw [hrest, List.cons_append] at hrep
  obtain ⟨d'', hpop, hzero⟩ := CXQueueData.popFront_again hone hrep htwo
  have hblocks₁ : d.dwNumberOfBlocks < 10 := by
    rw [hblocks]
    decide
  have hblocks₂ : d'.dwNumberOfBlocks < 10 := by
    rw [hblocks']
    decide
  refine ⟨d, d', hs, NodeQueue.push_single hblocks₁ hpush, ?_, d'', NodeQueue.popFront_single hblocks₂ hpop, ?_⟩
  · rw [NodeQueue.size_single, CXQueueData.size_eq (n := 1) hone (by decide)]
    decide
  · rw [NodeQueue.size_single, CXQueueData.size_eq (n := 0) hzero (by decide)]
    rfl

/-- Message 1 is handled and comes out of the queue once more, in the place of message 10241. -/
theorem not_inOrder_drained : ¬ ∀ (bAsync : Nat → Bool) (s : NodeDispatch),
    Reachable (step bAsync) fresh s → InOrder s := by
  intro h
  obtain ⟨d, d', hs, hpush, hpos, d'', hpop, hzero⟩ := exists_again fun _ => false
  let full : Dispatch := { taken 10240 10240 with
    uiNumberOfReceivedPacketInQueue := (taken 10240 10240).uiNumberOfReceivedPacketInQueue + 1
    arrived := 10241 :: (taken 10240 10240).arrived }
  have harrive : step (fun _ => false) (drainedBy 10240 d) (.arrive (message 10241) true) =
      some (full.withQueue (.single 10240 d')) := by
    have hnew : (message 10241).iSequenceNum ∉ (taken 10240 10240).arrived := by simp [taken, message]
    have hinput : (message 10241).dwType ≠ 2 := by
      show 1 ≠ 2
      decide
    exact arrive_withQueue ⟨hinput, by decide, hnew⟩ hpush
  have hget : step (fun _ => false) (full.withQueue (.single 10240 d')) (.run 10240) =
      some ((full.setWorker 10240 (.input (message 1))).withQueue (.single 10240 d'')) :=
    step_getMessage (t := full) (w := 10240) (m := message 1) (by simp [full, taken]) hpos hpop (by decide)
  -- message 1 is handled, and the thread 10240 puts it into the list again
  obtain ⟨s, p₁, p₂, p₃, p₄, p₅, hrun, hlog, hlist, hworker⟩ : ∃ s p₁ p₂ p₃ p₄ p₅, runSteps (step fun _ => false)
      ((full.setWorker 10240 (.input (message 1))).withQueue (.single 10240 d''))
      [.run 0, .run 0, .run 0, .run 0, .run 10240, .run 10240] = some s ∧ s.log = [.entered 1, .completed 1] ∧
        s.lstMessage.head = [message 1] ∧ s.worker = Function.update (Function.update (Function.update (Function.update
          (Function.update (Function.update (Function.update full.worker 10240 p₁) 0 p₂) 0 p₃) 0 p₄) 0 .idle)
            10240 p₅) 10240 .idle :=
    ⟨_, _, _, _, _, _, rfl, rfl, rfl, rfl⟩
  have hwait : ∀ w, s.worker w ≠ .loop ∧ s.worker w ≠ .resume := fun w => by
    rw [hworker]
    simp only [Function.update_apply, full, taken]
    split
    · simp
    split
    · simp
    split <;> simp
  have hsettled : Settled s := fun k hk => by
    rw [hlog] at hk ⊢
    simpa using hk
  obtain ⟨k, hk, hlt, -⟩ := (h _ s ((((hs.step _ harrive).step _ hget)).runSteps_of hrun)).list hsettled hwait
    (message 1) (by rw [hlist]; exact List.mem_singleton_self _)
  exact absurd hlt (by simp only [message]; omega)

end NodeDispatch

end KonsanNet
