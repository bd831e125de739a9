import KonsanNet.RecvPacket
import KonsanNet.Run

/-!
# The read list in memory (`PushReceivedBuffer`, `RecvPacket`, `Close`)

`RecvState` has the read list as a list. Here it is what the source has: receive buffers linked by `pNext`, with
a head and an end pointer, and buffers that are freed while pointers to them may be left. A receive buffer has
the number of the `RecvData` call that obtained it as its address, so that no address is used again.

`none` is an access through `NULL` or to a buffer that is freed, or a loop that does not end: a chain that visits
more buffers than there are is a cycle.
-/

namespace KonsanNet

structure ReadHeap where
  created : Nat
  /-- The buffers that are allocated. -/
  node : Nat → Option CXBufferObj
  pNext : Nat → Option Nat
  pListReadBuf : Option Nat
  pListReadBufEnd : Option Nat

namespace ReadHeap

def empty : ReadHeap := ⟨0, fun _ => none, fun _ => none, none, none⟩

def setNode (h : ReadHeap) (p : Nat) (b : Option CXBufferObj) : ReadHeap :=
  { h with node := Function.update h.node p b }

def setNext (h : ReadHeap) (p : Nat) (q : Option Nat) : ReadHeap :=
  { h with pNext := Function.update h.pNext p q }

/-- `p->nSequenceNum` -/
def seqOf (h : ReadHeap) (p : Nat) : Option Nat := (h.node p).map CXBufferObj.nSequenceNum

/-- `p != NULL`, and a test of `p->nSequenceNum`. -/
def test (h : ReadHeap) (ok : Nat → Bool) : Option Nat → Option Bool
  | none => some false
  | some p => (h.seqOf p).map ok

/-- The loop of the last branch of `PushReceivedBuffer`. -/
def insertMiddle (h : ReadHeap) (p nSequenceNum : Nat) : Nat → Option Nat → Nat → Option ReadHeap
  | 0, _, _ => none
  | _ + 1, none, _ => some h
  | fuel + 1, some pCurBuf, pPrevBuf =>
    match h.seqOf pCurBuf with
    | none => none
    | some n =>
      if n > nSequenceNum then some ((h.setNext pPrevBuf (some p)).setNext p (some pCurBuf))
      else insertMiddle h p nSequenceNum fuel (h.pNext pCurBuf) pCurBuf

/-- The branches of `PushReceivedBuffer` for a list that is not empty, with `pBufObj->pNext` cleared. -/
def linkIn (h : ReadHeap) (p nSequenceNum : Nat) : Option (ReadHeap × Bool) := do
  if ← h.test (fun n => n < nSequenceNum) h.pListReadBufEnd then
    let pEnd ← h.pListReadBufEnd
    some ({ h.setNext pEnd (some p) with pListReadBufEnd := some p }, h.pListReadBuf.isSome)
  else if ← h.test (fun n => n > nSequenceNum) h.pListReadBuf then
    some ({ h.setNext p h.pListReadBuf with pListReadBuf := some p }, h.pListReadBufEnd.isSome)
  else
    let pHead ← h.pListReadBuf
    let _ ← h.node pHead
    let h ← h.insertMiddle p nSequenceNum (h.created + 1) (h.pNext pHead) pHead
    some (h, true)

def pushReceivedBuffer (h : ReadHeap) (p : Nat) : Option (ReadHeap × Bool) := do
  let nSequenceNum ← h.seqOf p
  let h := h.setNext p none
  if h.pListReadBuf = none ∧ h.pListReadBufEnd = none then
    some ({ h with
      pListReadBuf := some p
      pListReadBufEnd := some p }, true)
  else h.linkIn p nSequenceNum

/-- Buffers are freed from the head on until `pCurBuf` is the head; with their number. -/
def freeUntil (pCurBuf : Option Nat) : Nat → ReadHeap → Nat → Option (ReadHeap × Nat)
  | 0, _, _ => none
  | fuel + 1, h, freed =>
    match h.pListReadBuf with
    | none => some (h, freed)
    | some p =>
      if pCurBuf = some p then some (h, freed)
      else if (h.node p).isSome then
        freeUntil pCurBuf fuel { h.setNode p none with pListReadBuf := h.pNext p } (freed + 1)
      else none

/-- How the loop of `RecvPacket` ends, as in `ScanEnd`: a complete packet ends at `iBeginPointInBuffer` of the
buffer `pCurBuf`. -/
inductive ScanEnd
  | drained (pMessageData : Option CXMessageData)
  | errorPacket (pMessageData : Option CXMessageData)
  | noBuffer
  | packet (packetHeader : CXPacketHeader) (pMessageData : CXMessageData) (pCurBuf iBeginPointInBuffer : Nat)

/-- The loop of `RecvPacket` up to a complete packet. -/
def scan (env : RecvEnv) (h : ReadHeap) : Nat → Option Nat → RecvState.Cursor → RecvState →
    Option (RecvState × ScanEnd)
  | 0, _, _, _ => none
  | _ + 1, none, c, s => some (s, .drained c.pMessageData)
  | fuel + 1, some pCurBuf, c, s =>
    match h.node pCurBuf with
    | none => none
    | some b =>
      if b.nSequenceNum ≠ c.uiPacketIndex + 1 then some (s, .drained c.pMessageData)
      else if b.len = 0 then
        scan env h fuel (h.pNext pCurBuf) { c with uiPacketIndex := c.uiPacketIndex + 1 } s
      else
        let (c, iLeftLen, iBegin, ok) := RecvState.readHeader b c
        let s := s.check ok
        if c.iUsedLen < headerLen then
          scan env h fuel (h.pNext pCurBuf) { c with uiPacketIndex := c.uiPacketIndex + 1 } s
        else
          let hd := CXPacketHeader.ofBytes c.packetHeader
          if hd.wFlag ≠ cxPacketHeaderFlag then some (s, .errorPacket c.pMessageData)
          else if hd.dwDataLen > cxMaxCacheSize then some (s, .errorPacket c.pMessageData)
          else
            match RecvState.getMessage env hd c.pMessageData s with
            | (s, none) => some (s, .noBuffer)
            | (s, some m) =>
              let (m, iUsedLen, iBegin, ok) := RecvState.readBody b hd m c.iUsedLen iLeftLen iBegin
              let s := s.check ok
              if iUsedLen < hd.dwDataLen + headerLen then
                scan env h fuel (h.pNext pCurBuf) { c with
                  iUsedLen := iUsedLen, uiPacketIndex := c.uiPacketIndex + 1, pMessageData := some m } s
              else some (s, .packet hd m pCurBuf iBegin)

/-- The bytes left in the buffers from `p` on. -/
def totalLen (h : ReadHeap) : Nat → Option Nat → Nat
  | 0, _ | _, none => 0
  | fuel + 1, some p => ((h.node p).map CXBufferObj.len).getD 0 + totalLen h fuel (h.pNext p)

end ReadHeap

/-- The connection with its read list in memory; the field `listRead` of `con` is not looked at. `nLock` and
`nUnlock` count how often `m_lock` is taken and released, and `inFlight` holds the buffers that `RecvData` has
returned and that are not in the read list yet. -/
structure ReadConn where
  heap : ReadHeap
  con : RecvState
  uiRecvBufferIndex : Nat
  inFlight : List Nat
  nLock : Nat
  nUnlock : Nat

inductive ReadAct
  /-- `RecvData` has read these bytes. -/
  | recvData (bytes : List UInt8)
  | pushReceivedBuffer (p : Nat)
  | recvPacket (p : Nat)
  /-- The parse task at this place of the task pool runs. -/
  | task (i : Nat)
  /-- `Close`, which frees the read list if `m_uiPostedSentBuffers` is zero. -/
  | close (bNonePosted : Bool)

namespace ReadConn

def built (pDataParserHandle pTaskPool bAsyncParseData : Bool) : ReadConn where
  heap := .empty
  con := .built pDataParserHandle pTaskPool bAsyncParseData
  uiRecvBufferIndex := 0
  inFlight := []
  nLock := 0
  nUnlock := 0

def lock (s : ReadConn) : ReadConn := { s with nLock := s.nLock + 1 }

def unlock (s : ReadConn) : ReadConn := { s with nUnlock := s.nUnlock + 1 }

def recvData (s : ReadConn) (bytes : List UInt8) : ReadConn :=
  { s with
    heap := { s.heap.setNode s.heap.created (some (.received (s.uiRecvBufferIndex + 1) bytes)) with
      created := s.heap.created + 1 }
    con := { s.con with uiPostedRecvBuffers := s.con.uiPostedRecvBuffers + 1 }
    uiRecvBufferIndex := s.uiRecvBufferIndex + 1
    inFlight := s.inFlight ++ [s.heap.created] }

def pushReceivedBuffer (s : ReadConn) (p : Nat) : Option (ReadConn × Bool) :=
  match s.heap.pushReceivedBuffer p with
  | none => none
  | some (heap, false) => some ({ s with heap := heap }, false)
  | some (heap, true) =>
    some ({ s with
      heap := heap
      con := { s.con with
        uiNumberOfReceivedBufferInList := s.con.uiNumberOfReceivedBufferInList + 1
        uiPostedRecvBuffers := s.con.uiPostedRecvBuffers - 1 } }, true)

/-- What `RecvPacket` records about a complete packet for which it frees so many buffers. -/
def countPacket (con : RecvState) (hd : CXPacketHeader) (freed : Nat) : RecvState :=
  { con with
    iLastUnpackedMessageSequenceNum := con.iLastUnpackedMessageSequenceNum + 1
    encryptType := hd.byEncryptFlag
    compressType := hd.byCompressFlag
    uiLastProcessBufferIndex := con.uiLastProcessBufferIndex + freed
    uiNumberOfReceivedBufferInList := con.uiNumberOfReceivedBufferInList - UInt64.ofNat freed }

/-- From a complete packet to `m_lock.Unlock()`; with the pointer `pCurBuf`. -/
def takePacket (s : ReadConn) (hd : CXPacketHeader) (p iBegin : Nat) : Option (ReadConn × Option Nat) := do
  let b ← s.heap.node p
  let len := b.len - (iBegin - b.nCurDataPointer)
  let heap := s.heap.setNode p (some { b with len := len, nCurDataPointer := iBegin })
  let pCurBuf := if len = 0 then heap.pNext p else some p
  let (heap, freed) ← heap.freeUntil pCurBuf (heap.created + 1) 0
  some ({ s with
    heap := if pCurBuf = none then { heap with pListReadBuf := none, pListReadBufEnd := none } else heap
    con := countPacket s.con hd freed }, pCurBuf)

/-- From `m_lock.Unlock()` after a packet to the next `m_lock.Lock()`, or to the end of the call; a packet with a
wrong checksum is logged with a number of the buffer `pCurBuf`. -/
def deliver (env : RecvEnv) (s : ReadConn) (hd : CXPacketHeader) (m : CXMessageData) (pCurBuf : Option Nat) :
    Option (ReadConn × Option Int) :=
  match s.con.deliver env hd { m with iSequenceNum := s.con.iLastUnpackedMessageSequenceNum }
    (pCurBuf.bind s.heap.node).isSome with
  | none => none
  | some (con, none) => some ({ s.unlock with con := con }.lock, none)
  | some (con, some iRet) =>
    -- without a task object the loop is left by `break`, and `m_lock` is released behind it
    if iRet = -3 then some ({ s.unlock with con := con }.unlock, some iRet)
    else some ({ s.unlock with con := con }, some iRet)

/-- The loop over packets from `pCurBuf`; `fuel` bounds their number. -/
def unpack (env : RecvEnv) : Nat → Option Nat → ReadConn → Option (ReadConn × Int)
  | 0, _, _ => none
  | fuel + 1, pCurBuf, s =>
    match s.heap.scan env (s.heap.created + 1) pCurBuf (.start s.con.uiLastProcessBufferIndex) s.con with
    | none => none
    | some (con, .drained m) => some ({ s with con := con.freeMessage m }.unlock, 0)
    | some (con, .errorPacket m) => some ({ s with con := con.freeMessage m }.unlock, -4)
    | some (con, .noBuffer) => some ({ s with con := con }.unlock, -3)
    | some (con, .packet hd m p iBegin) =>
      match { s with con := con }.takePacket hd p iBegin with
      | none => none
      | some (s, pCurBuf) =>
        match s.deliver env hd m pCurBuf with
        | none => none
        | some (s, some iRet) => some (s, iRet)
        | some (s, none) => unpack env fuel pCurBuf s

/-- `RecvPacket` with `bLockBySelf`. -/
def recvPacket (env : RecvEnv) (s : ReadConn) (p : Nat) : Option (ReadConn × Int) :=
  if !s.con.lpServer then some (s, -1)
  else
    match s.lock.pushReceivedBuffer p with
    | none => none
    | some (s, false) => some (s.unlock, -2)
    | some (s, true) =>
      s.unpack env (s.heap.totalLen (s.heap.created + 1) s.heap.pListReadBuf + 1) s.heap.pListReadBuf

def processTask (env : RecvEnv) (s : ReadConn) (i : Nat) : Option ReadConn :=
  s.con.tasks[i]?.map fun t =>
    { s with con := (RecvState.processTask env t.1 t.2 { s.con with tasks := s.con.tasks.eraseIdx i }).1 }

/-- `Close` leaves the end pointer as it is. -/
def close (s : ReadConn) (bNonePosted : Bool) : Option ReadConn :=
  if bNonePosted ∧ s.heap.pListReadBuf.isSome then
    (s.heap.freeUntil none (s.heap.created + 1) 0).map fun r =>
      { s with heap := r.1, con := { s.con with uiNumberOfReceivedBufferInList := 0 } }
  else some s

def step (env : RecvEnv) (s : ReadConn) : ReadAct → Option ReadConn
  | .recvData bytes => some (s.recvData bytes)
  | .pushReceivedBuffer p =>
    if p ∈ s.inFlight then ({ s with inFlight := s.inFlight.erase p }.pushReceivedBuffer p).map Prod.fst else none
  | .recvPacket p =>
    if p ∈ s.inFlight then ({ s with inFlight := s.inFlight.erase p }.recvPacket env p).map Prod.fst else none
  | .task i => s.processTask env i
  | .close bNonePosted => s.close bNonePosted

end ReadConn

end KonsanNet
