import KonsanNet.Run
import KonsanNet.SeqList
import KonsanNet.Packet

/-!
# Dispatching the messages of a connection

Any number of threads run `CXMessageProcessLevelBase::ProcessMessage`: each takes the next message from
the queue and hands it to `ProcessUnpackedMessage`, or, if it reports the end of an asynchronous
message (`dwType == 2`), to `ProcessAsyncMessageEnd` and then `ProcessUnpackedMessage(NULL)`.

A step of the model is what a thread does from one point where others can get in between to the next:
`m_lockSend` is released, or a handler runs (with `m_lockSend` held, but the message queue and the other
threads that post to it do not need that lock). Which messages complete asynchronously is the
parameter `bAsync`, by sequence number. A failing handler is one that completes: its `CloseConnection`
follows after the unlock, like that of a closing connection, and changes neither the message list nor
the numbers.

The message queue is a list here, which is what the queue is for; `DispatchQueue` has the same steps over the queue
in memory and says when the two agree.
-/

namespace KonsanNet

/-- Where a thread of `ProcessMessage` stands. -/
inductive Worker
  /-- at `pQueue->GetMessage()` -/
  | idle
  /-- `ProcessUnpackedMessage(pInputMes)`, waiting for `m_lockSend` -/
  | input (pInputMes : CXMessageData)
  /-- `ProcessAsyncMessageEnd(pMessageData)`, waiting for `m_lockSend` -/
  | asyncEnd (pMessageData : CXMessageData)
  /-- waiting for `m_lockSend` to look at the head of the list: `ProcessUnpackedMessage(NULL)`, and the
  end of the loop's body -/
  | resume
  /-- at the test of the loop, with the lock -/
  | loop
  /-- in `pObjectServer->ProcessMessage(pCurMes)`, with the lock -/
  | handler (pCurMes : CXMessageData)
deriving DecidableEq, Repr

inductive DispatchEvent
  | entered (iSequenceNum : Nat)
  | completed (iSequenceNum : Nat)
deriving DecidableEq, Repr

structure Dispatch (Q : Type := List CXMessageData) where
  lstMessage : SeqList CXMessageData
  uiLastProcessedMessageSequenceNum : Nat
  uiNumberOfReceivedPacketInQueue : UInt64
  lockSend : Option Nat
  queue : Q
  worker : Nat → Worker
  /-- the numbers of the messages that reached the queue, and of those whose end was posted -/
  arrived : List Nat
  posted : List Nat
  log : List DispatchEvent

inductive DispatchAct
  /-- `PushReceivedMessage(pMes)` -/
  | arrive (pMes : CXMessageData)
  /-- `pMes->dwType = 2; PushReceivedMessage(pMes, false)` -/
  | post (pMes : CXMessageData)
  /-- the thread goes on -/
  | run (w : Nat)

namespace Dispatch

variable {Q : Type}

/-- A freshly built connection. -/
def fresh : Dispatch where
  lstMessage := SeqList.empty
  uiLastProcessedMessageSequenceNum := 0
  uiNumberOfReceivedPacketInQueue := 0
  lockSend := none
  queue := []
  worker _ := .idle
  arrived := []
  posted := []
  log := []

def setWorker (s : Dispatch Q) (w : Nat) (p : Worker) : Dispatch Q :=
  { s with worker := Function.update s.worker w p }

def arrive (s : Dispatch) (pMes : CXMessageData) : Option Dispatch :=
  if pMes.dwType ≠ 2 ∧ 1 ≤ pMes.iSequenceNum ∧ pMes.iSequenceNum ∉ s.arrived then
    some { s with
      uiNumberOfReceivedPacketInQueue := s.uiNumberOfReceivedPacketInQueue + 1
      queue := s.queue ++ [pMes]
      arrived := pMes.iSequenceNum :: s.arrived }
  else none

/-- Once for each asynchronous message, and not before its handler was entered. -/
def post (bAsync : Nat → Bool) (s : Dispatch) (pMes : CXMessageData) : Option Dispatch :=
  if bAsync pMes.iSequenceNum ∧ DispatchEvent.entered pMes.iSequenceNum ∈ s.log ∧ pMes.iSequenceNum ∉ s.posted then
    some { s with
      queue := s.queue ++ [{ pMes with dwType := 2 }]
      posted := pMes.iSequenceNum :: s.posted }
  else none

/-- `ReduceReceivedPacketNumber(); m_uiLastProcessedMessageSequenceNum++`. -/
def complete (s : Dispatch Q) (pMes : CXMessageData) : Dispatch Q :=
  { s with
    uiNumberOfReceivedPacketInQueue := s.uiNumberOfReceivedPacketInQueue - 1
    uiLastProcessedMessageSequenceNum := s.uiLastProcessedMessageSequenceNum + 1
    log := s.log ++ [.completed pMes.iSequenceNum] }

/-- `m_plstMessageHead = pCurMes->pNext`, and the end pointer with an empty list. -/
def popHead (s : Dispatch Q) : Dispatch Q :=
  { s with lstMessage :=
      ⟨s.lstMessage.head.tail, if s.lstMessage.head.tail.isEmpty then none else s.lstMessage.endSeq⟩ }

def pushMessage (s : Dispatch Q) (pMes : CXMessageData) : Option (Dispatch Q × Bool) :=
  (SeqList.push CXMessageData.iSequenceNum s.lstMessage pMes).map fun r =>
    ({ s with lstMessage := r.1 }, r.2)

/-- `ProcessMessage`: the next message of the queue. -/
def getMessage (s : Dispatch) (w : Nat) : Option Dispatch :=
  match s.queue with
  | [] => none
  | pMes :: rest =>
    some ({ s with queue := rest }.setWorker w
      (if pMes.dwType = 2 then .asyncEnd pMes else .input pMes))

/-- `ProcessUnpackedMessage` up to the loop. A list that refuses the message makes it return -2. -/
def inputMessage (s : Dispatch Q) (w : Nat) (pInputMes : CXMessageData) : Option (Dispatch Q) :=
  if s.lockSend = none then
    (s.pushMessage pInputMes).map fun r =>
      if r.2 then { r.1 with lockSend := some w }.setWorker w .loop else r.1.setWorker w .idle
  else none

def resumeLoop (s : Dispatch Q) (w : Nat) : Option (Dispatch Q) :=
  if s.lockSend = none then
    if s.lstMessage.head.isEmpty then some (s.setWorker w .idle)
    else some ({ s with lockSend := some w }.setWorker w .loop)
  else none

def testLoop (s : Dispatch Q) (w : Nat) : Option (Dispatch Q) :=
  match s.lstMessage.head with
  | [] => none
  | pCurMes :: _ =>
    if pCurMes.iSequenceNum = s.uiLastProcessedMessageSequenceNum + 1 then
      some ({ s with log := s.log ++ [DispatchEvent.entered pCurMes.iSequenceNum] }.setWorker w (.handler pCurMes))
    else
      some ({ s with lockSend := none }.setWorker w .idle)

/-- The handler returns. -/
def endHandler (bAsync : Nat → Bool) (s : Dispatch Q) (w : Nat) (pCurMes : CXMessageData) : Dispatch Q :=
  if bAsync pCurMes.iSequenceNum then { s.popHead with lockSend := none }.setWorker w .idle
  else { s.popHead.complete pCurMes with lockSend := none }.setWorker w .resume

/-- `AsynCallbackResult` has been called before. -/
def processAsyncMessageEnd (s : Dispatch Q) (w : Nat) (pMessageData : CXMessageData) : Option (Dispatch Q) :=
  if s.lockSend = none then some ((s.complete pMessageData).setWorker w .resume) else none

def step (bAsync : Nat → Bool) (s : Dispatch) : DispatchAct → Option Dispatch
  | .arrive pMes => s.arrive pMes
  | .post pMes => s.post bAsync pMes
  | .run w =>
    match s.worker w with
    | .idle => s.getMessage w
    | .input pInputMes => s.inputMessage w pInputMes
    | .asyncEnd pMessageData => s.processAsyncMessageEnd w pMessageData
    | .resume => s.resumeLoop w
    | .loop => s.testLoop w
    | .handler pCurMes => some (s.endHandler bAsync w pCurMes)

end Dispatch

end KonsanNet
