import Mathlib.Tactic
import KonsanNet.CloseInv
import KonsanNet.DispatchQueue
import KonsanNet.QueueSystem

/-!
# Closing a connection, over its message queue

The connection of `Close`, with the message queue as it is in the memory. What a step does is not affected by the
messages that wait in the queue, so the connection is a `QueueSystem`; and as long as the queue stands for the list of
its messages a closing connection that is at rest is released.
-/

namespace KonsanNet

namespace Dispatch

variable {bAsync : Nat → Bool} {s : Dispatch} {l : List CXMessageData} {m : CXMessageData} {w : Nat}

theorem post_before : (s.withQueue (l ++ s.queue)).post bAsync m =
    (s.post bAsync m).map fun s' => s'.withQueue (l ++ s'.queue) := by
  unfold Dispatch.post
  show (if bAsync m.iSequenceNum ∧ DispatchEvent.entered m.iSequenceNum ∈ s.log ∧ m.iSequenceNum ∉ s.posted then
    some { s with
      queue := l ++ s.queue ++ [{ m with dwType := 2 }]
      posted := m.iSequenceNum :: s.posted }
    else none) = _
  rw [List.append_assoc]
  split <;> rfl

theorem run_before (hw : s.worker w ≠ .idle) : (s.withQueue (l ++ s.queue)).step bAsync (.run w) =
    (s.step bAsync (.run w)).map fun s' => s'.withQueue (l ++ s'.queue) := by
  have hstep : (s.withQueue (l ++ s.queue)).step bAsync (.run w) =
      (s.step bAsync (.run w)).map (·.withQueue (l ++ s.queue)) := by
    simp only [step, show (s.withQueue (l ++ s.queue)).worker w = s.worker w from rfl]
    cases hs : s.worker w with
    | idle => exact absurd hs hw
    | input m => exact NodeDispatch.inputMessage_withQueue
    | asyncEnd m => exact NodeDispatch.processAsyncMessageEnd_withQueue
    | resume => exact NodeDispatch.resumeLoop_withQueue
    | loop => exact NodeDispatch.testLoop_withQueue
    | handler m => exact congrArg some NodeDispatch.endHandler_withQueue
  rw [hstep]
  refine Option.map_congr fun s' hs' => ?_
  rw [NodeDispatch.queue_run hw hs']

end Dispatch

namespace Connection

variable {env : RecvEnv} {bAsync : Nat → Bool} {s s' : Connection} {l : List CXMessageData} {i w : Nat}

/-- Other messages in the queue. -/
def putQueue (s : Connection) (l : List CXMessageData) : Connection := { s with dispatch := s.dispatch.withQueue l }

/-- The messages `l` before those in the queue. -/
def before (l : List CXMessageData) (s : Connection) : Connection := s.putQueue (l ++ s.dispatch.queue)

/-- The step calls `GetMessage`. -/
def takes (s : Connection) : ConnectionAct → Bool
  | .run w => decide (s.dispatch.worker w = .idle)
  | .recvData _ | .thread _ | .task _ | .close | .post _ => false

theorem before_putQueue_nil : (s.putQueue []).before s.dispatch.queue = s := by
  show s.putQueue (s.dispatch.queue ++ []) = s
  rw [List.append_nil]
  rfl

theorem setRecv_before {r : RecvState} : (s.before l).setRecv r = (s.setRecv r).before l := by
  unfold setRecv before putQueue Dispatch.withQueue
  simp only [List.append_assoc]

theorem goOn_before {r : RecvState × RecvStage} : (s.before l).goOn i r = (s.goOn i r).before l := by
  unfold goOn
  rw [setRecv_before]
  rfl

theorem recvPacket_before {pBufObj : CXBufferObj} :
    (s.before l).recvPacket env i pBufObj = (s.recvPacket env i pBufObj).map (before l) := by
  unfold recvPacket
  rw [show (s.before l).recv = s.recv from rfl]
  split
  · exact congrArg some goOn_before
  · cases s.recv.pushReceivedBuffer pBufObj with
    | none => rfl
    | some p =>
      obtain ⟨r, ok⟩ := p
      cases ok <;> exact congrArg some goOn_before

theorem deliver_before {h : CXPacketHeader} {m : CXMessageData} {pCurBuf : Option Nat} :
    (s.before l).deliver env i h m pCurBuf = (s.deliver env i h m pCurBuf).map (before l) := by
  unfold deliver
  rw [show (s.before l).recv = s.recv from rfl]
  split
  · rfl
  · cases s.recv.deliver env h m pCurBuf.isSome with
    | none => rfl
    | some p =>
      obtain ⟨r, iRet⟩ := p
      cases iRet with
      | none => exact congrArg some goOn_before
      | some iRet =>
        show some { (s.before l).goOn i (r, .ret iRet) with lost := m.iSequenceNum :: s.lost } = _
        rw [goOn_before]
        rfl

theorem closeObj_before : (s.before l).closeObj = s.closeObj.before l := by
  unfold closeObj
  by_cases h : s.uiPostedSentBuffers = 0 ∧ s.recv.listRead.head ≠ []
  · rw [if_pos h, if_pos (show (s.before l).uiPostedSentBuffers = 0 ∧ (s.before l).recv.listRead.head ≠ [] from h)]
    rfl
  · rw [if_neg h, if_neg (show ¬ ((s.before l).uiPostedSentBuffers = 0 ∧ (s.before l).recv.listRead.head ≠ []) from h)]
    rfl

theorem closeConnection_before : (s.before l).closeConnection = s.closeConnection.before l := by
  unfold closeConnection
  rw [closeObj_before, show (s.before l).nState = s.nState from rfl]
  rw [show (s.closeObj.before l).noWorkLeft = s.closeObj.noWorkLeft from rfl]
  split
  · rfl
  · split <;> rfl

theorem returned_before {iRet : Int} : (s.before l).returned i iRet = (s.returned i iRet).before l := by
  unfold returned
  rw [closeConnection_before, show (s.before l).nState = s.nState from rfl]
  split <;> rfl

theorem thread_before : (s.before l).thread env i = (s.thread env i).map (before l) := by
  unfold thread
  rw [show (s.before l).threads = s.threads from rfl, show (s.before l).recv = s.recv from rfl]
  cases s.threads[i]? with
  | none => rfl
  | some t =>
    cases t with
    | read pBufObj => exact recvPacket_before
    | deliver h m pCurBuf => exact deliver_before
    | scan pCurBuf =>
      dsimp only
      split
      · rfl
      · exact congrArg some goOn_before
    | ret iRet => exact congrArg some returned_before

theorem task_before : (s.before l).task env i = (s.task env i).map (before l) := by
  unfold task processTask
  rw [show (s.before l).recv = s.recv from rfl]
  cases s.recv.tasks[i]? with
  | none => rfl
  | some p =>
    obtain ⟨m, h⟩ := p
    dsimp only
    split
    · exact congrArg some setRecv_before
    · rw [setRecv_before]
      rfl

theorem step_before {a : ConnectionAct} (ha : s.takes a = false) :
    (s.before l).step env bAsync a = (s.step env bAsync a).map (before l) := by
  cases a with
  | recvData bytes =>
    simp only [step, recvData]
    split <;> rfl
  | thread i => exact thread_before
  | task i => exact task_before
  | close => exact congrArg some closeConnection_before
  | post m =>
    show ((s.dispatch.withQueue (l ++ s.dispatch.queue)).post bAsync m).map _ = _
    rw [Dispatch.post_before, Option.map_map]
    show _ = ((s.dispatch.post bAsync m).map s.setDispatch).map (before l)
    rw [Option.map_map]
    rfl
  | run w =>
    show ((s.dispatch.withQueue (l ++ s.dispatch.queue)).step bAsync (.run w)).map _ = _
    rw [Dispatch.run_before (of_decide_eq_false ha), Option.map_map]
    show _ = ((s.dispatch.step bAsync (.run w)).map s.setDispatch).map (before l)
    rw [Option.map_map]
    rfl

theorem stepOk_putQueue (a : ConnectionAct) : (s.putQueue l).stepOk env a = s.stepOk env a := by
  cases a <;> rfl

/-- The connection, with its message queue to be replaced. -/
def overQueue (env : RecvEnv) (bAsync : Nat → Bool) : QueueSystem Connection ConnectionAct CXMessageData where
  step s a := s.step env bAsync a
  get s := s.dispatch.queue
  put := putQueue
  takes := takes
  get_put _ _ := rfl
  put_put _ _ _ := rfl
  put_get _ := rfl
  takes_put s l a := by cases a <;> rfl
  step_adds s l a ha := step_before ha
  step_takes s m l a ha := by
    cases a with
    | run w =>
      have hw : s.dispatch.worker w = .idle := of_decide_eq_true ha
      simp only [step, Dispatch.step, putQueue, Dispatch.withQueue, hw]
      rfl
    | recvData _ | thread _ | task _ | close | post _ => cases ha
  step_nil s a ha := by
    cases a with
    | run w =>
      have hw : s.dispatch.worker w = .idle := of_decide_eq_true ha
      simp only [step, Dispatch.step, putQueue, Dispatch.withQueue, hw]
      rfl
    | recvData _ | thread _ | task _ | close | post _ => cases ha

end Connection

/-- A connection with its message queue. -/
abbrev NodeConnection := Connection × NodeQueue CXMessageData

namespace NodeConnection

open Connection (overQueue)

variable {env : RecvEnv} {bAsync : Nat → Bool} {s s' : NodeConnection} {t : Connection}

/-- An established connection. -/
abbrev start (pDataParserHandle pTaskPool bAsyncParseData : Bool) : NodeConnection :=
  (.start pDataParserHandle pTaskPool bAsyncParseData, .construct)

/-- A step, with the answer of `new` if it pushes. -/
abbrev step (env : RecvEnv) (bAsync : Nat → Bool) : NodeConnection → ConnectionAct × Bool → Option NodeConnection :=
  (overQueue env bAsync).nodeStep

/-- No packet is dropped and no buffer refused, and the operations on the queue meet their conditions. -/
abbrev StepOk (env : RecvEnv) (bAsync : Nat → Bool) : NodeConnection → ConnectionAct × Bool → Prop :=
  (overQueue env bAsync).StepOk fun t a => t.stepOk env a = true

/-- No thread is inside a call for the connection, nothing in the task pool and the message queue refers to it, and
no asynchronous message is waiting for its end. -/
structure AtRest (s : NodeConnection) : Prop where
  threads : s.1.threads = []
  tasks : s.1.recv.tasks = []
  queue : s.2.size = 0
  workers : ∀ w, s.1.dispatch.worker w = .idle
  settled : s.1.dispatch.Settled

def closeConnection (s : NodeConnection) : NodeConnection := (s.1.closeConnection, s.2)

theorem atRest_iff (hrest : s.1 = t.putQueue []) (hsize : s.2.size = t.dispatch.queue.length) :
    s.AtRest ↔ t.AtRest := by
  have hnil : s.2.size = 0 ↔ t.dispatch.queue = [] := by
    rw [hsize, ← List.length_eq_zero_iff]
    exact Int.natCast_eq_zero
  constructor
  · rintro ⟨hthreads, htasks, hqueue, hworkers, hsettled⟩
    rw [hrest] at hthreads htasks hworkers hsettled
    exact ⟨hthreads, htasks, hnil.mp hqueue, hworkers, hsettled⟩
  · rintro ⟨hthreads, htasks, hqueue, hworkers, hsettled⟩
    refine ⟨?_, ?_, hnil.mpr hqueue, ?_, ?_⟩ <;> rw [hrest]
    · exact hthreads
    · exact htasks
    · exact hworkers
    · exact hsettled

theorem closeConnection_eq_before (hrest : s.1 = t.putQueue []) :
    t.closeConnection = s.1.closeConnection.before t.dispatch.queue := by
  rw [← Connection.closeConnection_before, hrest, Connection.before_putQueue_nil]

theorem closed_step {a : ConnectionAct × Bool} (hst : s.1.nState = .closed) (hs : step env bAsync s a = some s') :
    s'.1.nState = .closed ∧ s'.1.released = s.1.released := by
  unfold step QueueSystem.nodeStep at hs
  split at hs
  · split at hs
    · split at hs
      · cases hs
      · cases hs
        exact ⟨hst, rfl⟩
      · rename_i m _
        obtain ⟨c, hc, rfl⟩ := Option.map_eq_some_iff.mp hs
        have hclosed := Connection.closed_step (s := s.1.putQueue [m]) hst hc
        exact hclosed
    · cases hs
  · obtain ⟨c, hc, hs⟩ := Option.bind_eq_some_iff.mp hs
    obtain ⟨q, -, rfl⟩ := Option.map_eq_some_iff.mp hs
    have hclosed := Connection.closed_step hst hc
    exact hclosed

theorem released_of_closed (h : Reachable (step env bAsync) s s') (hst : s.1.nState = .closed) :
    s'.1.nState = .closed ∧ s'.1.released = s.1.released := by
  induction h with
  | init => exact ⟨hst, rfl⟩
  | step a _ hs ih =>
    obtain ⟨hst', hrel⟩ := closed_step ih.1 hs
    exact ⟨hst', hrel.trans ih.2⟩

section Witnesses

open RecvState (undecryptableEnv)

/-- A packet with an empty body, in plain. -/
def emptyPacket : List UInt8 := leBytes 2 cxPacketHeaderFlag ++ List.replicate 14 0

/-- A run with few messages in the list ends in the same connection over the queue. -/
theorem exists_of_short {f g a : Bool} (h : Reachable (guarded
    (fun t a => True ∧ (overQueue env bAsync).Short t a) (overQueue env bAsync).step) (Connection.start f g a) t) :
    ∃ s, Reachable (step env bAsync) (start f g a) s ∧ s.1 = t.putQueue [] ∧ (s.AtRest ↔ t.AtRest) ∧
      (closeConnection s).1.nState = t.closeConnection.nState := by
  obtain ⟨s, hroomy, hr⟩ := QueueSystem.exists_of_short (fun _ _ => True) (fun _ _ _ => Iff.rfl) rfl h
  have hsame : s.1 = t.putQueue [] := hroomy.rest
  refine ⟨s, hr.of_guarded, hsame, atRest_iff hsame hroomy.size, ?_⟩
  rw [closeConnection_eq_before hsame]
  rfl

/-- Message 1 cannot be decrypted by its task, message 2 waits for it for ever. -/
theorem message_behind_lost_stays : ∃ s,
    Reachable (step undecryptableEnv fun _ => false) (start true true true) s ∧
    s.1.nState = .closing ∧ s.AtRest ∧ s.1.dispatch.uiNumberOfReceivedPacketInQueue = 1 ∧
    s.closeConnection.1.nState = .closing := by
  obtain ⟨t, hrun⟩ : ∃ t, runSteps (guarded
      (fun t a => True ∧ (overQueue undecryptableEnv fun _ => false).Short t a)
      (overQueue undecryptableEnv fun _ => false).step) (Connection.start true true true)
      [.recvData (leBytes 2 cxPacketHeaderFlag ++ [0, 0x81] ++ List.replicate 12 0 ++ emptyPacket), .thread 0,
        .thread 0, .thread 0, .thread 0, .thread 0, .thread 0, .task 0, .thread 0, .run 0, .run 0, .run 0] = some t :=
    ⟨_, rfl⟩
  obtain ⟨s, hr, hsame, hrest, hclose⟩ := exists_of_short (Reachable.of_runSteps hrun)
  refine ⟨s, hr, ?_, hrest.mpr ?_, ?_, hclose.trans ?_⟩
  · rw [hsame]
    cases hrun
    rfl
  · cases hrun
    refine ⟨rfl, rfl, rfl, ?_, fun k hk => by cases hk⟩
    intro w
    cases w <;> rfl
  · rw [hsame]
    cases hrun
    rfl
  · cases hrun
    rfl

end Witnesses

end NodeConnection

end KonsanNet
