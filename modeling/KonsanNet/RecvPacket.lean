import KonsanNet.Packet
import KonsanNet.SeqList
import KonsanNet.CacheManager

/-!
# The receive path (`CXConnectionObject::RecvPacket`)

`recvPacket` pushes a receive buffer into the read list and then unpacks one packet after another.
`scan` is the loop of the source up to the point where a packet is complete and the buffers before it
are freed; `deliver` is what follows with `m_lock` released: verify, parse, push the message.

What the connection asks of other objects (`GetBuffer`, the task pool, the thread cache, the parser) is
answered by a `RecvEnv`, one answer for each call number. Every message or scratch buffer carries the
number of the `GetBuffer` call that returned it, and `events` records what happens to it. A copy that
leaves its source or its target sets `overrun`; `none` is the dereference of a `NULL` pointer.
-/

namespace KonsanNet

/-- `CXBufferObj` on the read list; `len` is `wsaBuf.len`, the bytes left from `nCurDataPointer` on. A
receive buffer holds `CX_BUF_SIZE` bytes, so no `int` that counts its bytes overflows. -/
structure CXBufferObj where
  nSequenceNum : Nat
  buf : List UInt8
  len : Nat
  nCurDataPointer : Nat
deriving DecidableEq, Repr

namespace CXBufferObj

/-- A buffer as `RecvData` hands it over. -/
def received (nSequenceNum : Nat) (bytes : List UInt8) : CXBufferObj := ⟨nSequenceNum, bytes, bytes.length, 0⟩

/-- The bytes left in the buffer. -/
def rest (b : CXBufferObj) : List UInt8 := (b.buf.drop b.nCurDataPointer).take b.len

end CXBufferObj

/-- What happens to a buffer obtained from `GetBuffer`. -/
inductive BufEvent
  | alloc (id : Nat)
  | free (id : Nat)
  | pushed (id : Nat)
deriving DecidableEq, Repr

/-- The outcome of one `CXDataParserImpl::ParseData`. -/
structure ParseOutcome where
  ret : Bool
  dwRetLen : Nat
  output : List UInt8

/-- The answers of the objects around the connection, by call number. A size above `CX_MAX_CHACHE_SIZE`
is refused, as `CXMemoryCacheManager::GetBuffer` does. -/
structure RecvEnv where
  getBuffer : Nat → Nat → Option (List UInt8)
  getBuffer_le : ∀ {n size : Nat} {mem : List UInt8}, getBuffer n size = some mem → size ≤ cxMaxCacheSize
  getFreeTaskObject : Nat → Bool
  getFirstThreadCache : Nat → Nat → Bool
  parseData : Nat → ParseOutcome

/-- The environment with the memory caches of a manager, whose objects come zeroed. -/
def RecvEnv.ofManager (m : CXMemoryCacheManager) (hm : m.dwMaxObjectSize ≤ cxMaxCacheSize)
    (get : Nat → GetOutcome) (getFreeTaskObject : Nat → Bool) (getFirstThreadCache : Nat → Nat → Bool)
    (parseData : Nat → ParseOutcome) : RecvEnv where
  getBuffer n size := (CXMemoryCacheManager.getBuffer (get n) m size).map fun c => List.replicate c.dwObjectSize 0
  getBuffer_le {n size mem} h := by
    obtain ⟨c, hc, -⟩ := Option.map_eq_some_iff.mp h
    unfold CXMemoryCacheManager.getBuffer at hc
    split at hc
    · cases hc
    · omega
  getFreeTaskObject := getFreeTaskObject
  getFirstThreadCache := getFirstThreadCache
  parseData := parseData

/-- The part of `CXConnectionObject` that receiving works on, together with the messages it has pushed
to the message queue (`mesQueue`), the parse tasks it has pushed to the task pool, and the records
described above. -/
structure RecvState where
  listRead : SeqList CXBufferObj
  uiLastProcessBufferIndex : Nat
  uiNumberOfReceivedBufferInList : UInt64
  uiPostedRecvBuffers : UInt64
  uiNumberOfReceivedPacketInQueue : UInt64
  iLastUnpackedMessageSequenceNum : Nat
  encryptType : UInt8
  compressType : UInt8
  lpServer : Bool
  pDataParserHandle : Bool
  pTaskPool : Bool
  bAsyncParseData : Bool
  mesQueue : List CXMessageData
  tasks : List (CXMessageData × CXPacketHeader)
  events : List BufEvent
  calls : Nat
  overrun : Bool

namespace RecvState

/-- After `Build` (that is, `Reset`) and the settings of `BuildConnection`, which give the connection its
server and maybe a data parser and a task pool. -/
def built (pDataParserHandle pTaskPool bAsyncParseData : Bool) : RecvState where
  listRead := .empty
  uiLastProcessBufferIndex := 0
  uiNumberOfReceivedBufferInList := 0
  uiPostedRecvBuffers := 0
  uiNumberOfReceivedPacketInQueue := 0
  iLastUnpackedMessageSequenceNum := 0
  encryptType := 0
  compressType := 0
  lpServer := true
  pDataParserHandle := pDataParserHandle
  pTaskPool := pTaskPool
  bAsyncParseData := bAsyncParseData
  mesQueue := []
  tasks := []
  events := []
  calls := 0
  overrun := false

/-- `m_lpCacheObj->GetBuffer(size)`. -/
def getBuffer (env : RecvEnv) (size : Nat) (s : RecvState) : RecvState × Option (Nat × List UInt8) :=
  match env.getBuffer s.calls size with
  | none => ({ s with calls := s.calls + 1 }, none)
  | some mem =>
    ({ s with calls := s.calls + 1, events := s.events ++ [.alloc s.calls] }, some (s.calls, mem))

def freeBuffer (id : Nat) (s : RecvState) : RecvState := { s with events := s.events ++ [.free id] }

/-- `if (pMessageData != NULL) FreeBuffer(pMessageData);` -/
def freeMessage (m : Option CXMessageData) (s : RecvState) : RecvState :=
  match m with
  | none => s
  | some m => s.freeBuffer m.id

def check (ok : Bool) (s : RecvState) : RecvState := { s with overrun := s.overrun || !ok }

def pushReceivedBuffer (b : CXBufferObj) (s : RecvState) : Option (RecvState × Bool) := do
  let (l, ok) ← SeqList.push CXBufferObj.nSequenceNum s.listRead b
  if ok then
    some ({ s with
      listRead := l
      uiNumberOfReceivedBufferInList := s.uiNumberOfReceivedBufferInList + 1
      uiPostedRecvBuffers := s.uiPostedRecvBuffers - 1 }, true)
  else some ({ s with listRead := l }, false)

/-! ### The scan -/

/-- The locals of the loop that survive an iteration. -/
structure Cursor where
  packetHeader : List UInt8
  iUsedLen : Nat
  uiPacketIndex : Nat
  pMessageData : Option CXMessageData

def Cursor.start (uiPacketIndex : Nat) : Cursor := ⟨List.replicate headerLen 0, 0, uiPacketIndex, none⟩

/-- How the loop ends: no further buffer in sequence, a wrong header, no message buffer, or a complete
packet, which leaves `left` of the read list after `freed` buffers of it were freed. -/
inductive ScanEnd
  | drained (pMessageData : Option CXMessageData)
  | errorPacket (pMessageData : Option CXMessageData)
  | noBuffer
  | packet (packetHeader : CXPacketHeader) (pMessageData : CXMessageData) (freed : Nat)
      (left : List CXBufferObj)

/-- Copying header bytes: the cursor, `iLeftLen` and `iBeginPointInBuffer` after it, and whether the
copy stayed inside. -/
def readHeader (b : CXBufferObj) (c : Cursor) : Cursor × Nat × Nat × Bool :=
  if c.iUsedLen < headerLen then
    let iNeedCopyLen := headerLen - c.iUsedLen
    let iNeedCopyLen := if b.len < iNeedCopyLen then b.len else iNeedCopyLen
    ({ c with
        packetHeader := memcpy c.packetHeader c.iUsedLen ((b.buf.drop b.nCurDataPointer).take iNeedCopyLen)
        iUsedLen := c.iUsedLen + iNeedCopyLen },
      b.len - iNeedCopyLen, b.nCurDataPointer + iNeedCopyLen,
      c.iUsedLen + iNeedCopyLen ≤ c.packetHeader.length ∧ b.nCurDataPointer + iNeedCopyLen ≤ b.buf.length)
  else (c, b.len, b.nCurDataPointer, true)

/-- The message object of the packet, obtained when its header is complete. -/
def getMessage (env : RecvEnv) (h : CXPacketHeader) (pMessageData : Option CXMessageData) (s : RecvState) :
    RecvState × Option CXMessageData :=
  match pMessageData with
  | some m => (s, some m)
  | none =>
    match s.getBuffer env (messageDataLen + h.dwDataLen) with
    | (s, none) => (s, none)
    | (s, some (id, mem)) =>
      (s.check (bodyOffset ≤ mem.length), some ⟨id, 1, h.dwDataLen, 0, mem.drop bodyOffset⟩)

/-- Copying body bytes: the message, `iUsedLen` and `iBeginPointInBuffer` after it, and whether the copy
stayed inside. -/
def readBody (b : CXBufferObj) (h : CXPacketHeader) (m : CXMessageData) (iUsedLen iLeftLen iBegin : Nat) :
    CXMessageData × Nat × Nat × Bool :=
  let iNeedCopyLen := h.dwDataLen + headerLen - iUsedLen
  if iLeftLen > 0 ∧ iNeedCopyLen > 0 then
    let iNeedCopyLen := if iLeftLen < iNeedCopyLen then iLeftLen else iNeedCopyLen
    let iBeginOffset := iUsedLen - headerLen
    ({ m with bodyData := memcpy m.bodyData iBeginOffset ((b.buf.drop iBegin).take iNeedCopyLen) },
      iUsedLen + iNeedCopyLen, iBegin + iNeedCopyLen,
      iBeginOffset + iNeedCopyLen ≤ m.bodyData.length ∧ iBegin + iNeedCopyLen ≤ b.buf.length)
  else (m, iUsedLen, iBegin, true)

/-- The loop over the chain from `pCurBuf`, which has `passed` buffers before it. -/
def scan (env : RecvEnv) : List CXBufferObj → Nat → Cursor → RecvState → RecvState × ScanEnd
  | [], _, c, s => (s, .drained c.pMessageData)
  | b :: rest, passed, c, s =>
    if b.nSequenceNum ≠ c.uiPacketIndex + 1 then (s, .drained c.pMessageData)
    else if b.len = 0 then scan env rest (passed + 1) { c with uiPacketIndex := c.uiPacketIndex + 1 } s
    else
      let (c, iLeftLen, iBegin, ok) := readHeader b c
      let s := s.check ok
      if c.iUsedLen < headerLen then
        scan env rest (passed + 1) { c with uiPacketIndex := c.uiPacketIndex + 1 } s
      else
        let h := CXPacketHeader.ofBytes c.packetHeader
        if h.wFlag ≠ cxPacketHeaderFlag then (s, .errorPacket c.pMessageData)
        else if h.dwDataLen > cxMaxCacheSize then (s, .errorPacket c.pMessageData)
        else
          match getMessage env h c.pMessageData s with
          | (s, none) => (s, .noBuffer)
          | (s, some m) =>
            let (m, iUsedLen, iBegin, ok) := readBody b h m c.iUsedLen iLeftLen iBegin
            let s := s.check ok
            if iUsedLen < h.dwDataLen + headerLen then
              scan env rest (passed + 1) { c with
                iUsedLen := iUsedLen, uiPacketIndex := c.uiPacketIndex + 1, pMessageData := some m } s
            else
              let len := b.len - (iBegin - b.nCurDataPointer)
              if len = 0 then (s, .packet h m (passed + 1) rest)
              else (s, .packet h m passed ({ b with len := len, nCurDataPointer := iBegin } :: rest))

/-- The updates for a complete packet that the source makes before it releases `m_lock`. -/
def takePacket (h : CXPacketHeader) (freed : Nat) (left : List CXBufferObj) (s : RecvState) : RecvState :=
  { s with
    iLastUnpackedMessageSequenceNum := s.iLastUnpackedMessageSequenceNum + 1
    encryptType := h.byEncryptFlag
    compressType := h.byCompressFlag
    listRead := ⟨left, if left.isEmpty then none else s.listRead.endSeq⟩
    uiLastProcessBufferIndex := s.uiLastProcessBufferIndex + freed
    uiNumberOfReceivedBufferInList := s.uiNumberOfReceivedBufferInList - UInt64.ofNat freed }

/-! ### Delivering a packet -/

def verifyPacketBodyData (h : CXPacketHeader) (m : CXMessageData) : Bool :=
  byteSum (m.bodyData.take h.dwDataLen) = h.dwCheckSum

/-- `PushReceivedMessage` with `m_pfnProcessOnePacket` set: the message goes to the message queue. -/
def pushReceivedMessage (m : CXMessageData) (s : RecvState) : RecvState :=
  { s with
    uiNumberOfReceivedPacketInQueue := s.uiNumberOfReceivedPacketInQueue + 1
    mesQueue := s.mesQueue ++ [m]
    events := s.events ++ [.pushed m.id] }

/-- `int iNewBufferLen` -/
def newBufferLen (h : CXPacketHeader) : Nat :=
  let iNewBufferLen := Int.bmod ((2 * h.dwOrignDataLen : Nat) : Int) (2 ^ 32)
  if iNewBufferLen < 256 then 256 else iNewBufferLen.toNat

def outputBufLen (h : CXPacketHeader) : Nat :=
  let dwOutputBufLen := (h.dwOrignDataLen + messageDataLen) % 2 ^ 32
  if dwOutputBufLen < 512 then 512 else (dwOutputBufLen + 256) % 2 ^ 32

/-- The scratch buffer of `ParseMessage`: the thread cache (`some none`), a buffer of its own, or none. -/
def getScratch (env : RecvEnv) (size : Nat) (s : RecvState) : RecvState × Option (Option Nat) :=
  let call := s.calls
  let s := { s with calls := s.calls + 1 }
  if env.getFirstThreadCache call size then (s, some none)
  else
    match s.getBuffer env size with
    | (s, none) => (s, none)
    | (s, some (id, _)) => (s, some (some id))

/-- `if (!bUseThreadCache) FreeBuffer(pbyFirstCache);` -/
def freeScratch (scratch : Option Nat) (s : RecvState) : RecvState :=
  match scratch with
  | none => s
  | some id => s.freeBuffer id

def parseMessage (env : RecvEnv) (m : CXMessageData) (h : CXPacketHeader) (s : RecvState) :
    RecvState × Bool :=
  if !s.lpServer then (s.freeBuffer m.id, false)
  else
    match s.getScratch env (newBufferLen h) with
    | (s, none) => (s.freeBuffer m.id, false)
    | (s, some scratch) =>
      match s.getBuffer env (outputBufLen h) with
      | (s, none) => ((s.freeBuffer m.id).freeScratch scratch, false)
      | (s, some (id, mem)) =>
        let r := env.parseData s.calls
        let s := { s with calls := s.calls + 1 }
        if !r.ret ∨ r.dwRetLen ≠ h.dwOrignDataLen then
          (((s.freeScratch scratch).freeBuffer m.id).freeBuffer id, false)
        else
          let new : CXMessageData :=
            ⟨id, 1, h.dwOrignDataLen, m.iSequenceNum, memcpy (mem.drop bodyOffset) 0 r.output⟩
          (((s.freeScratch scratch).freeBuffer m.id).pushReceivedMessage new, true)

/-- From `m_lock.Unlock()` after a packet to the `m_lock.Lock()` before the next: the value `RecvPacket`
returns, if it returns here. `pCurBuf` tells whether that pointer is not `NULL`; the log line of a
packet that fails the check dereferences it. -/
def deliver (env : RecvEnv) (h : CXPacketHeader) (m : CXMessageData) (pCurBuf : Bool) (s : RecvState) :
    Option (RecvState × Option Int) :=
  if verifyPacketBodyData h m then
    if h.byEncryptFlag ≠ 0 ∨ h.byCompressFlag ≠ 0 then
      if !s.pDataParserHandle then some (s.freeBuffer m.id, some (-6))
      else if s.pTaskPool && s.bAsyncParseData then
        let call := s.calls
        let s := { s with calls := s.calls + 1 }
        if env.getFreeTaskObject call then some ({ s with tasks := s.tasks ++ [(m, h)] }, none)
        else some (s.freeBuffer m.id, some (-3))
      else
        match s.parseMessage env m h with
        | (s, true) => some (s, none)
        -- `ParseMessage` has freed the message on every such path
        | (s, false) => some (s.freeBuffer m.id, some (-5))
    else some (s.pushReceivedMessage m, none)
  else if pCurBuf then some (s.freeBuffer m.id, some (-4))
  else none

/-! ### `RecvPacket` -/

/-- The loop over packets; `fuel` bounds their number. -/
def unpack (env : RecvEnv) : Nat → RecvState → Option (RecvState × Int)
  | 0, _ => none
  | fuel + 1, s =>
    match scan env s.listRead.head 0 (.start s.uiLastProcessBufferIndex) s with
    | (s, .drained m) => some (s.freeMessage m, 0)
    | (s, .errorPacket m) => some (s.freeMessage m, -4)
    | (s, .noBuffer) => some (s, -3)
    | (s, .packet h m freed left) =>
      let s := s.takePacket h freed left
      match s.deliver env h { m with iSequenceNum := s.iLastUnpackedMessageSequenceNum } (!left.isEmpty) with
      | none => none
      | some (s, some iRet) => some (s, iRet)
      | some (s, none) => unpack env fuel s

/-- The bytes left in a chain of buffers. -/
def totalLen (l : List CXBufferObj) : Nat := (l.map CXBufferObj.len).sum

def recvPacket (env : RecvEnv) (b : CXBufferObj) (s : RecvState) : Option (RecvState × Int) :=
  if !s.lpServer then some (s, -1)
  else
    match s.pushReceivedBuffer b with
    | none => none
    | some (s, false) => some (s, -2)
    | some (s, true) => unpack env (totalLen s.listRead.head + 1) s

/-- A parse task of the pool: `CXTaskParseMessage::ProcessTask`. -/
def processTask (env : RecvEnv) (m : CXMessageData) (h : CXPacketHeader) (s : RecvState) : RecvState × Int :=
  match s.parseMessage env m h with
  | (s, true) => (s, 0)
  | (s, false) => (s, -2)

end RecvState

end KonsanNet
