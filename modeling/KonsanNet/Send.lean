import KonsanNet.Run
import KonsanNet.Packet
import KonsanNet.SeqList
import KonsanNet.RecvPacket

/-!
# The send path (`SendPacket`, `SendDataList`, `CXTaskPrepareMessage`)

`SendPacket` numbers the packet, prepares it (compress, encrypt; maybe in a task of the pool), puts it
into the ordered send list and sends what follows the last sent packet. All of this, a task's
`PreparedAndSendPacket` and the write event run with `m_lockSend` held, so each is one step.

The answers of the objects around the connection are a `SendEnv`, one for each step: the caches, the
task pool, the parser, the results of `send()` in the order of the calls, `epoll_ctl`, and whether a
`CloseConnection` finds the connection's counters zero (by the number of the last sent packet). `none`
is a call that does not return with these answers.
-/

namespace KonsanNet

/-- `CXConnectionObject::CONNECTION_STATE` -/
inductive ConnectionState
  | initialized
  | creating
  | pending
  | established
  | closing
  | closed
deriving DecidableEq, Repr

/-- One `send()`. -/
inductive SendResult
  | written (nWritenLen : Nat)
  | eagain
  | eintr
  | econnreset
  | error
deriving DecidableEq, Repr

structure PrepareEnv where
  getFirstThreadCache : Nat → Bool
  getBuffer : Nat → Bool
  getCXBufferObj : Nat → Bool
  /-- `PrepareData` on the packet's body; `none` for `false` -/
  prepareData : List UInt8 → Option (List UInt8)
  /-- what the sequence number of a freed buffer reads -/
  freedNumber : Nat → Nat

structure SendEnv extends PrepareEnv where
  getFreeTaskObject : Bool
  send : List SendResult
  setWaitWritingEvent : Bool
  released : Nat → Bool

/-- A `CXTaskPrepareMessage` in the task pool; `bMes` tells whether it has a message to report to. -/
structure PrepareTask where
  pSendBuf : CXBufferObj
  bMes : Bool
deriving DecidableEq, Repr

/-- The part of `CXConnectionObject` that sending works on, with its tasks in the pool, the `iProcessedRet`
of the type 2 messages in the message queue, and the bytes that the socket has accepted. -/
structure SendState where
  nState : ConnectionState
  listSendBuf : SeqList CXBufferObj
  uiCurSendingPacketSequenceNum : Nat
  uiLastSentPacketSequenceNum : Nat
  encryptType : UInt8
  compressType : UInt8
  lpServer : Bool
  pSocketKernel : Bool
  pDataParserHandle : Bool
  pTaskPool : Bool
  bAsyncPrepareData : Bool
  tasks : List PrepareTask
  ends : List Int
  wire : List UInt8

/-- `sizeof(CXPacketData) - 1` -/
def packetDataLen : Nat := 56

/-- `sizeof(CXBufferObj) - CX_BUF_SIZE` -/
def bufferObjLen : Nat := 56

/-- `wsaBuf.len - sizeof(CXPacketHeader)`, a `DWORD` -/
def CXBufferObj.bodyLen (b : CXBufferObj) : Nat := (b.len + 2 ^ 32 - headerLen) % 2 ^ 32

namespace SendState

/-- `CloseConnection` on this part of the connection. -/
def closeConnection (env : SendEnv) (s : SendState) : SendState :=
  if s.nState = .closed then s
  else { s with nState := if env.released s.uiLastSentPacketSequenceNum then .closed else .closing }

/-! ### `SendDataList` -/

inductive SendEnd
  | sent
  | again (nLeftDataLen : Nat)
  | failed (nRet : Int)

/-- The inner loop: how it ends, `nTotalWritenLen`, and the answers that are left. -/
def sendBytes : Nat → Nat → List SendResult → Option (SendEnd × Nat × List SendResult)
  | nTotalWritenLen, 0, rs => some (.sent, nTotalWritenLen, rs)
  | _, _ + 1, [] => none
  | nTotalWritenLen, nLeft + 1, .eagain :: rs => some (.again (nLeft + 1), nTotalWritenLen, rs)
  | nTotalWritenLen, nLeft + 1, .eintr :: rs => sendBytes nTotalWritenLen (nLeft + 1) rs
  | nTotalWritenLen, _ + 1, .econnreset :: rs => some (.failed (-2), nTotalWritenLen, rs)
  | nTotalWritenLen, _ + 1, .error :: rs => some (.failed (-2), nTotalWritenLen, rs)
  | nTotalWritenLen, nLeft + 1, .written n :: rs =>
    if n = 0 then some (.failed (-3), nTotalWritenLen, rs)
    else if n = nLeft + 1 then some (.sent, nTotalWritenLen + n, rs)
    else if n < nLeft + 1 then sendBytes (nTotalWritenLen + n) (nLeft + 1 - n) rs
    else none

/-- The head of the list is sent, or given up, and freed. -/
def popSent (s : SendState) (pCurBuf : CXBufferObj) (rest : List CXBufferObj) (nTotalWritenLen : Nat) :
    SendState :=
  { s with
    uiLastSentPacketSequenceNum := s.uiLastSentPacketSequenceNum + 1
    listSendBuf := ⟨rest, if rest.isEmpty then none else s.listSendBuf.endSeq⟩
    wire := s.wire ++ (pCurBuf.buf.drop pCurBuf.nCurDataPointer).take nTotalWritenLen }

/-- `EAGAIN`: the head stays, with what is left of it. -/
def keepHead (s : SendState) (pCurBuf : CXBufferObj) (rest : List CXBufferObj) (nTotalWritenLen nLeft : Nat) :
    SendState :=
  { s with
    listSendBuf := ⟨{ pCurBuf with
      len := nLeft, nCurDataPointer := pCurBuf.nCurDataPointer + nTotalWritenLen } :: rest, s.listSendBuf.endSeq⟩
    wire := s.wire ++ (pCurBuf.buf.drop pCurBuf.nCurDataPointer).take nTotalWritenLen }

/-- The outer loop from `pCurBuf` on. `nRet` and `bNeedClose` are not reset between two packets. -/
def sendLoop (env : SendEnv) :
    List CXBufferObj → List SendResult → Int → Bool → SendState → Option (SendState × Int)
  | [], _, nRet, _, s => some (s, nRet)
  | pCurBuf :: rest, answers, nRet, bNeedClose, s =>
    if pCurBuf.nSequenceNum = s.uiLastSentPacketSequenceNum + 1 then
      match sendBytes 0 pCurBuf.len answers with
      | none => none
      | some (.again nLeft, nTotal, _) =>
        some (s.keepHead pCurBuf rest nTotal nLeft, if env.setWaitWritingEvent then 0 else -4)
      | some (.failed nRet', nTotal, answers') =>
        sendLoop env rest answers' nRet' true ((s.popSent pCurBuf rest nTotal).closeConnection env)
      | some (.sent, nTotal, answers') =>
        sendLoop env rest answers' nRet bNeedClose
          (if bNeedClose ∨ s.nState = .closing then (s.popSent pCurBuf rest nTotal).closeConnection env
            else s.popSent pCurBuf rest nTotal)
    else some (s, nRet)

def sendDataList (env : SendEnv) (s : SendState) : Option (SendState × Int) :=
  sendLoop env s.listSendBuf.head env.send 0 false s

/-! ### `SendPacket` -/

def pushSendBuffer (s : SendState) (pBufObj : CXBufferObj) : Option (SendState × Bool) :=
  (SeqList.push CXBufferObj.nSequenceNum s.listSendBuf pBufObj).map fun r =>
    ({ s with listSendBuf := r.1 }, r.2)

/-- `PostSend(pBufObj, false)` -/
def postSend (env : SendEnv) (s : SendState) (pBufObj : CXBufferObj) : Option (SendState × Int) :=
  if s.pSocketKernel = false ∨ pBufObj.len = 0 ∨ 1024 * 1024 < pBufObj.len then some (s, -1)
  else if s.nState = .closing ∨ s.nState = .closed then some (s, -4)
  else
    match s.pushSendBuffer pBufObj with
    | none => none
    | some (s', false) => some (s', -2)
    | some (s', true) => if s'.nState ≠ .established then some (s', 0) else sendDataList env s'

def sendAssembledPacket (env : SendEnv) (s : SendState) (pBufObj : CXBufferObj) (dwOrignDataLen : Nat) :
    Option (SendState × Bool) :=
  let dwPacketBodyLen := pBufObj.bodyLen
  let header : CXPacketHeader :=
    { wFlag := cxPacketHeaderFlag
      byCompressFlag := s.compressType
      byEncryptFlag := s.encryptType
      dwDataLen := dwPacketBodyLen
      dwCheckSum := byteSum ((pBufObj.buf.drop headerLen).take dwPacketBodyLen)
      dwOrignDataLen := dwOrignDataLen }
  (postSend env s { pBufObj with buf := memcpy pBufObj.buf 0 header.toBytes }).map fun r => (r.1, r.2 == 0)

/-- `dwCacheBufLen` -/
def cacheBufLen (dwPacketBodyLen : Nat) : Nat :=
  if dwPacketBodyLen * 2 % 2 ^ 32 < 256 then 256 else dwPacketBodyLen * 2 % 2 ^ 32

/-- `dwBufferLen` -/
def preparedBufLen (dwPacketBodyLen : Nat) : Nat :=
  if (dwPacketBodyLen * 2 + headerLen + bufferObjLen) % 2 ^ 32 < 512 then 512
  else (dwPacketBodyLen * 2 + headerLen + bufferObjLen + 256) % 2 ^ 32

/-- The packet after `PrepareData`, in a buffer of its own; `none` if something is missing. -/
def prepare (env : PrepareEnv) (pInputBuf : CXBufferObj) : Option CXBufferObj :=
  let dwPacketBodyLen := pInputBuf.bodyLen
  let dwCacheBufLen := cacheBufLen dwPacketBodyLen
  if !env.getFirstThreadCache dwCacheBufLen && !env.getBuffer dwCacheBufLen then none
  else if !env.getCXBufferObj (preparedBufLen dwPacketBodyLen) then none
  else
    (env.prepareData ((pInputBuf.buf.drop headerLen).take dwPacketBodyLen)).map fun prepared =>
      -- `pInputBuf->nSequenceNum` is read after `FreeCXBufferObj(pInputBuf)`
      { nSequenceNum := env.freedNumber pInputBuf.nSequenceNum
        buf := List.replicate headerLen 0 ++ prepared
        len := (prepared.length + headerLen) % 2 ^ 32
        nCurDataPointer := 0 }

def preparedAndSendPacket (env : SendEnv) (s : SendState) (pInputBuf : CXBufferObj) :
    Option (SendState × Bool) :=
  match prepare env.toPrepareEnv pInputBuf with
  | none => some (s, false)
  | some pBufObj => sendAssembledPacket env s pBufObj pInputBuf.bodyLen

/-- The packet takes its number. -/
def takeNumber (s : SendState) (pBufObj : CXBufferObj) (dwLen : Nat) : SendState × CXBufferObj :=
  ({ s with uiCurSendingPacketSequenceNum := s.uiCurSendingPacketSequenceNum + 1 },
    { pBufObj with nSequenceNum := s.uiCurSendingPacketSequenceNum, len := (dwLen + packetDataLen) % 2 ^ 32 })

def mustPrepare (s : SendState) : Bool := s.encryptType != 0 || s.compressType != 0

/-- `SendPacket` from the number on. -/
def sendNumbered (env : SendEnv) (s : SendState) (pBufObj : CXBufferObj) (bMes : Bool) :
    Option (SendState × Bool) :=
  if s.mustPrepare then
    if s.pDataParserHandle = false then some (s, false)
    else if s.pTaskPool && s.bAsyncPrepareData then
      if env.getFreeTaskObject then some ({ s with tasks := s.tasks ++ [⟨pBufObj, bMes⟩] }, true)
      else some (s, false)
    else preparedAndSendPacket env s pBufObj
  else sendAssembledPacket env s pBufObj pBufObj.bodyLen

/-- `SendPacket(pBufObj, dwLen, dwMesCode, pMes)`; the body's texts and ids are already in the buffer. -/
def sendPacket (env : SendEnv) (s : SendState) (pBufObj : CXBufferObj) (dwLen : Nat) (bMes : Bool) :
    Option (SendState × Bool) :=
  if dwLen = 0 ∨ s.lpServer = false then some (s, false)
  else sendNumbered env (s.takeNumber pBufObj dwLen).1 (s.takeNumber pBufObj dwLen).2 bMes

/-! ### The system -/

/-- `CXTaskPrepareMessage::ProcessTask` of the task at `i`; with a message it reports its end. -/
def processTask (env : SendEnv) (s : SendState) (i : Nat) : Option SendState :=
  match s.tasks[i]? with
  | none => none
  | some task =>
    (preparedAndSendPacket env { s with tasks := s.tasks.eraseIdx i } task.pSendBuf).map fun r =>
      if task.bMes then { r.1 with ends := r.1.ends ++ [if r.2 then 0 else -5] } else r.1

/-- What `ProcessAsyncMessageEnd` does to the connection. -/
def processAsyncMessageEnd (env : SendEnv) (s : SendState) (i : Nat) : Option SendState :=
  match s.ends[i]? with
  | none => none
  | some iProcessedRet =>
    let s := { s with ends := s.ends.eraseIdx i }
    some (if iProcessedRet = -2 ∨ s.nState = .closing ∨ s.nState = .closed then s.closeConnection env else s)

inductive SendAct
  | send (pBufObj : CXBufferObj) (dwLen : Nat) (bMes : Bool) (env : SendEnv)
  | task (i : Nat) (env : SendEnv)
  /-- the write event; `SetWaitWritingEvent(false)` may fail before anything is sent -/
  | writable (bSet : Bool) (env : SendEnv)
  | asyncEnd (i : Nat) (env : SendEnv)
  | close (env : SendEnv)
  /-- `RecvPacket` and `ProcessUnpackedMessage` set how the next packets are prepared -/
  | configure (encryptType compressType : UInt8) (bAsyncPrepareData : Bool)

def step (s : SendState) : SendAct → Option SendState
  | .send pBufObj dwLen bMes env => (s.sendPacket env pBufObj dwLen bMes).map Prod.fst
  | .task i env => s.processTask env i
  | .writable bSet env => if bSet then (s.sendDataList env).map Prod.fst else some s
  | .asyncEnd i env => s.processAsyncMessageEnd env i
  | .close env => some (s.closeConnection env)
  | .configure encryptType compressType bAsyncPrepareData =>
    some { s with
      encryptType := encryptType
      compressType := compressType
      bAsyncPrepareData := bAsyncPrepareData }

/-- An established connection that has not sent anything yet. -/
def fresh (pDataParserHandle pTaskPool : Bool) : SendState where
  nState := .established
  listSendBuf := SeqList.empty
  uiCurSendingPacketSequenceNum := 1
  uiLastSentPacketSequenceNum := 0
  encryptType := 0
  compressType := 0
  lpServer := true
  pSocketKernel := true
  pDataParserHandle := pDataParserHandle
  pTaskPool := pTaskPool
  bAsyncPrepareData := false
  tasks := []
  ends := []
  wire := []

end SendState

end KonsanNet
