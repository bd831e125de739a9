import Mathlib.Tactic
import KonsanNet.Run
import KonsanNet.Send
import KonsanNet.DispatchInv
import KonsanNet.RecvOwn

/-!
# Closing a connection and releasing it (`CloseConnection`, `Close`, `OnRecv`)

The receive path and the message processing of one established connection together. `recv` and `dispatch`
are the parts of `CXConnectionObject` that the two work on; they share `m_uiNumberOfReceivedPacketInQueue`, and
what `recv` pushes is appended to the queue of `dispatch`.

`threads` lists the threads that have a receive buffer or the return value of a parse task in their hands: each
step takes one of them from one release of `m_lock` to the next. `RecvData`, a task of the pool, and
`CloseConnection`, which anybody may call at any time, are steps of their own. A thread keeps `pCurBuf` while it
has released `m_lock`; one that reads a buffer which has been freed meanwhile goes no further (`RecvThreads` is
about that).

The message queue is a list here; `CloseQueue` has the same steps over the queue in memory.

Two fields record history: `lost`, the numbers of the packets that were dropped after they had been numbered,
and `released`, how often `ReleaseConnection` was called.
-/

namespace KonsanNet

inductive RecvStage
  /-- `RecvData` has returned this buffer -/
  | read (pBufObj : CXBufferObj)
  /-- in `RecvPacket`, with a complete packet and `m_lock` released -/
  | deliver (packetHeader : CXPacketHeader) (pMessageData : CXMessageData) (pCurBuf : Option Nat)
  /-- in `RecvPacket`, at the next round of its loop -/
  | scan (pCurBuf : Option Nat)
  /-- `RecvPacket` or `ParseMessage` has returned, the test whether to close follows -/
  | ret (iRet : Int)
deriving DecidableEq, Repr

structure Connection where
  nState : ConnectionState
  recv : RecvState
  dispatch : Dispatch
  uiRecvBufferIndex : Nat
  uiPostedSentBuffers : UInt64
  threads : List RecvStage
  lost : List Nat
  released : Nat

inductive ConnectionAct
  /-- `RecvData` with the bytes that it has received, at least one -/
  | recvData (bytes : List UInt8)
  /-- the thread at this place of the list goes on -/
  | thread (i : Nat)
  /-- a task of the pool parses a message -/
  | task (i : Nat)
  /-- `CloseConnection` -/
  | close
  | post (pMes : CXMessageData)
  /-- a thread of `ProcessMessage` goes on -/
  | run (w : Nat)

namespace Connection

/-- An established connection. -/
def start (pDataParserHandle pTaskPool bAsyncParseData : Bool) : Connection where
  nState := .established
  recv := .built pDataParserHandle pTaskPool bAsyncParseData
  dispatch := .fresh
  uiRecvBufferIndex := 0
  uiPostedSentBuffers := 0
  threads := []
  lost := []
  released := 0

/-- What the receive path leaves behind. -/
def setRecv (s : Connection) (r : RecvState) : Connection :=
  { s with
    recv := { r with mesQueue := [] }
    dispatch := { s.dispatch with
      uiNumberOfReceivedPacketInQueue := r.uiNumberOfReceivedPacketInQueue
      queue := s.dispatch.queue ++ r.mesQueue
      arrived := r.mesQueue.map CXMessageData.iSequenceNum ++ s.dispatch.arrived } }

def setDispatch (s : Connection) (d : Dispatch) : Connection :=
  { s with
    recv := { s.recv with uiNumberOfReceivedPacketInQueue := d.uiNumberOfReceivedPacketInQueue }
    dispatch := d }

/-- The four counters of `CloseConnection`. -/
def noWorkLeft (s : Connection) : Bool :=
  s.recv.uiNumberOfReceivedBufferInList == 0 && s.uiPostedSentBuffers == 0 &&
    s.recv.uiPostedRecvBuffers == 0 && s.dispatch.uiNumberOfReceivedPacketInQueue == 0

/-- `CXConnectionObject::Close`. The read list is freed, its end pointer stays. -/
def closeObj (s : Connection) : Connection :=
  if s.uiPostedSentBuffers = 0 ∧ s.recv.listRead.head ≠ [] then
    { s with
      nState := .closing
      recv := { s.recv with listRead := ⟨[], s.recv.listRead.endSeq⟩, uiNumberOfReceivedBufferInList := 0 } }
  else { s with nState := .closing }

def closeConnection (s : Connection) : Connection :=
  if s.nState = .closed then s
  else if s.closeObj.noWorkLeft then { s.closeObj with nState := .closed, released := s.released + 1 }
  else s.closeObj

def recvData (s : Connection) (bytes : List UInt8) : Option Connection :=
  if bytes = [] then none
  else some { s with
    uiRecvBufferIndex := s.uiRecvBufferIndex + 1
    recv := { s.recv with uiPostedRecvBuffers := s.recv.uiPostedRecvBuffers + 1 }
    threads := s.threads ++ [.read (.received (s.uiRecvBufferIndex + 1) bytes)] }

/-- The buffer that `pCurBuf` points to has been freed. -/
def isFreed (r : RecvState) (pCurBuf : Option Nat) : Bool :=
  pCurBuf.any fun p => r.listRead.head.all fun b => b.nSequenceNum ≠ p

/-- One round of the loop of `RecvPacket` from `pCurBuf` on, up to the release of `m_lock`. The buffers that are
freed are those from the head of the list up to the new `pCurBuf`. -/
def scanRound (env : RecvEnv) (r : RecvState) : Option Nat → RecvState × RecvStage
  | none => (r, .ret 0)
  | some pCurBuf =>
    let front := r.listRead.head.takeWhile fun b => b.nSequenceNum ≠ pCurBuf
    let chain := r.listRead.head.dropWhile fun b => b.nSequenceNum ≠ pCurBuf
    match RecvState.scan env chain 0 (.start r.uiLastProcessBufferIndex) r with
    | (r, .drained m) => (r.freeMessage m, .ret 0)
    | (r, .errorPacket m) => (r.freeMessage m, .ret (-4))
    | (r, .noBuffer) => (r, .ret (-3))
    | (r, .packet h m freed left) =>
      (r.takePacket h (front.length + freed) left,
        .deliver h { m with iSequenceNum := r.iLastUnpackedMessageSequenceNum + 1 }
          (left.head?.map CXBufferObj.nSequenceNum))

/-- The thread at place `i` has reached `stage`, with the state `r` of the receive path. -/
def goOn (s : Connection) (i : Nat) (r : RecvState × RecvStage) : Connection :=
  { s.setRecv r.1 with threads := s.threads.set i r.2 }

def recvPacket (env : RecvEnv) (s : Connection) (i : Nat) (pBufObj : CXBufferObj) : Option Connection :=
  if !s.recv.lpServer then some (s.goOn i (s.recv, .ret (-1)))
  else
    match s.recv.pushReceivedBuffer pBufObj with
    | none => none
    | some (r, false) => some (s.goOn i (r, .ret (-2)))
    | some (r, true) => some (s.goOn i (scanRound env r (r.listRead.head.head?.map CXBufferObj.nSequenceNum)))

def deliver (env : RecvEnv) (s : Connection) (i : Nat) (h : CXPacketHeader) (m : CXMessageData)
    (pCurBuf : Option Nat) : Option Connection :=
  -- the log line for a packet that fails the check reads `pCurBuf`
  if !RecvState.verifyPacketBodyData h m && isFreed s.recv pCurBuf then none
  else
    match s.recv.deliver env h m pCurBuf.isSome with
    | none => none
    | some (r, some iRet) => some { s.goOn i (r, .ret iRet) with lost := m.iSequenceNum :: s.lost }
    | some (r, none) => some (s.goOn i (r, .scan pCurBuf))

/-- `OnRecv` after `RecvPacket`, and `CallbackTaskProcess`. -/
def returned (s : Connection) (i : Nat) (iRet : Int) : Connection :=
  { (if iRet ≠ 0 ∨ s.nState = .closing then s.closeConnection else s) with threads := s.threads.eraseIdx i }

def thread (env : RecvEnv) (s : Connection) (i : Nat) : Option Connection :=
  match s.threads[i]? with
  | none => none
  | some (.read pBufObj) => s.recvPacket env i pBufObj
  | some (.deliver h m pCurBuf) => s.deliver env i h m pCurBuf
  | some (.scan pCurBuf) => if isFreed s.recv pCurBuf then none else some (s.goOn i (scanRound env s.recv pCurBuf))
  | some (.ret iRet) => some (s.returned i iRet)

/-- The task at this place of the pool, run by a thread of the pool. -/
def processTask (env : RecvEnv) (s : Connection) (i : Nat) (m : CXMessageData) (h : CXPacketHeader) :
    RecvState × Int :=
  RecvState.processTask env m h { s.recv with tasks := s.recv.tasks.eraseIdx i }

def task (env : RecvEnv) (s : Connection) (i : Nat) : Option Connection :=
  match s.recv.tasks[i]? with
  | none => none
  | some (m, h) =>
    match s.processTask env i m h with
    | (r, iRet) =>
      if iRet = 0 then some (s.setRecv r)
      else some { s.setRecv r with threads := s.threads ++ [.ret iRet], lost := m.iSequenceNum :: s.lost }

def step (env : RecvEnv) (bAsync : Nat → Bool) (s : Connection) : ConnectionAct → Option Connection
  | .recvData bytes => s.recvData bytes
  | .thread i => s.thread env i
  | .task i => s.task env i
  | .close => some s.closeConnection
  | .post pMes => (s.dispatch.post bAsync pMes).map s.setDispatch
  | .run w => (s.dispatch.step bAsync (.run w)).map s.setDispatch

/-- No thread is inside a call for the connection, nothing in the task pool and the message queue refers to it, and
no asynchronous message is waiting for its end. -/
structure AtRest (s : Connection) : Prop where
  threads : s.threads = []
  tasks : s.recv.tasks = []
  queue : s.dispatch.queue = []
  workers : ∀ w, s.dispatch.worker w = .idle
  settled : s.dispatch.Settled

/-! ### The runs without a defect -/

/-- A message that reaches the queue has no lost number before it. -/
def pushOk (s : Connection) (m : CXMessageData) : Bool := s.lost.all fun k => m.iSequenceNum < k

/-- A packet that is dropped has no pushed message behind it. -/
def dropOk (s : Connection) (m : CXMessageData) : Bool := s.dispatch.arrived.all fun k => k < m.iSequenceNum

/-- A buffer is pushed while the two ends of the read list agree; no packet is dropped before a pushed message. -/
def stepOk (env : RecvEnv) (s : Connection) : ConnectionAct → Bool
  | .thread i =>
    match s.threads[i]? with
    | some (.read _) => !s.recv.listRead.head.isEmpty || s.recv.listRead.endSeq.isNone
    | some (.deliver h m pCurBuf) =>
      match s.recv.deliver env h m pCurBuf.isSome with
      | some (_, some _) => s.dropOk m
      | some (r, none) => r.mesQueue.isEmpty || s.pushOk m
      | none => true
    | _ => true
  | .task i =>
    match s.recv.tasks[i]? with
    | some (m, h) => if (s.processTask env i m h).2 = 0 then s.pushOk m else s.dropOk m
    | none => true
  | _ => true

end Connection

end KonsanNet
