import KonsanNet.Memory
import KonsanNet.Send

/-!
# Sending from the client (`CXTcpClient::SendPacket`)

The client keeps three buffers, replaced by larger ones when a payload does not fit. Pointers are
addresses in one flat memory (0 is `NULL`), since `SendPacket` compares the caller's pointer with its own
buffers. `delete[]` of anything that did not come from `new[]` makes the call `none`.
-/

namespace KonsanNet

/-- Where memory comes from: `new[]`, the memory cache pool, or the caller's own. -/
inductive BufKind
  | new
  | pool
  | caller
deriving DecidableEq

/-- `sizeof(CXPacketBodyData) - 1` -/
def bodyDataLen : Nat := 40

/-- The body of a packet: the fields before `buf`, and `buf`. -/
structure CXPacketBodyData where
  byObjectGuid : List UInt8
  byRequestID : List UInt8
  dwMesCode : Nat
  dwPacketNum : Nat
  buf : List UInt8
deriving DecidableEq

namespace CXPacketBodyData

def ofBytes (bs : List UInt8) : CXPacketBodyData where
  byObjectGuid := bs.take 16
  byRequestID := (bs.drop 16).take 16
  dwMesCode := leValue ((bs.drop 32).take 4)
  dwPacketNum := leValue ((bs.drop 36).take 4)
  buf := bs.drop bodyDataLen

/-- The fields before `buf`. -/
def fixedBytes (b : CXPacketBodyData) : List UInt8 :=
  b.byObjectGuid ++ b.byRequestID ++ leBytes 4 b.dwMesCode ++ leBytes 4 b.dwPacketNum

end CXPacketBodyData

/-- What one `SendBytes` of the socket answers. -/
inductive SendBytesAnswer
  | sent (iSent : Nat)
  | socketError

/-- The answers to the three requests of `SetSendBufferSize`, and what released memory then holds. -/
structure BufferAnswers where
  pData : Option Nat
  pDataReal : Option Nat
  pCacheData : Option Nat
  junk : Nat → UInt8

/-- The arguments of one `SendPacket` and what the objects around it answer. -/
structure SendCall where
  pbData : Nat
  dwLen : Nat
  dwMesCode : UInt32
  newGuid : List UInt8
  buffers : BufferAnswers
  prepareData : List UInt8 → Option (List UInt8)
  sendBytes : List SendBytesAnswer

/-- The part of `CXTcpClient` that sending works on, the memory, and the bytes the socket has taken. -/
structure CXTcpClient where
  mem : Memory BufKind
  pbySendBuffer : Nat
  dwSendBufferLen : Nat
  pbyCacheSendBuffer : Nat
  dwCacheSendBufferLen : Nat
  pbyRealSendBuffer : Nat
  dwRealSendBufferLen : Nat
  iPacketNumber : UInt32
  byRPCObjectGuid : List UInt8
  byRequestID : List UInt8
  encryptType : UInt8
  compressType : UInt8
  pDataParserHandle : Bool
  bUsedMemoryCachePool : Bool
  bCreated : Bool
  bConnected : Bool
  bClosing : Bool
  wire : List UInt8

namespace CXTcpClient

def construct (mem : Memory BufKind) : CXTcpClient where
  mem := mem
  pbySendBuffer := 0
  dwSendBufferLen := 0
  pbyCacheSendBuffer := 0
  dwCacheSendBufferLen := 0
  pbyRealSendBuffer := 0
  dwRealSendBufferLen := 0
  iPacketNumber := 0
  byRPCObjectGuid := List.replicate 16 0
  byRequestID := List.replicate 16 0
  encryptType := 0
  compressType := 0
  pDataParserHandle := false
  bUsedMemoryCachePool := false
  bCreated := false
  bConnected := false
  bClosing := false
  wire := []

/-- `if (p != NULL) delete[]p;` -/
def deleteArray (junk : Nat → UInt8) (p : Nat) (m : Memory BufKind) : Option (Memory BufKind) :=
  if p = 0 then some m else m.release junk p .new

/-- Both branches of `SetSendBufferSize` delete the old buffers with `delete[]`. -/
def replaceBuffers (junk : Nat → UInt8) (pData pDataReal pCacheData dwBufSize : Nat) (s : CXTcpClient) :
    Option CXTcpClient := do
  let m ← deleteArray junk s.pbySendBuffer s.mem
  let m ← deleteArray junk s.pbyRealSendBuffer m
  let m ← deleteArray junk s.pbyCacheSendBuffer m
  some { s with
    mem := m
    pbySendBuffer := pData
    dwSendBufferLen := dwBufSize
    pbyRealSendBuffer := pDataReal
    dwRealSendBufferLen := dwBufSize * 2 % 2 ^ 32
    pbyCacheSendBuffer := pCacheData
    dwCacheSendBufferLen := dwBufSize * 2 % 2 ^ 32 }

def allocate (kind : BufKind) (base len : Nat) (s : CXTcpClient) : CXTcpClient :=
  { s with mem := s.mem.alloc ⟨base, len, kind⟩ }

/-- The three buffers, and the client with them allocated; without the last of them `new[]` has thrown
and what came before is leaked, while the pool gets back what it gave. -/
def getBuffers (a : BufferAnswers) (dwBufSize : Nat) (s : CXTcpClient) : CXTcpClient × Option (Nat × Nat × Nat) :=
  let dwRealSize := dwBufSize * 2 % 2 ^ 32
  if s.bUsedMemoryCachePool then
    match a.pData, a.pDataReal, a.pCacheData with
    | some pData, some pDataReal, some pCacheData =>
      (((s.allocate .pool pData dwBufSize).allocate .pool pDataReal dwRealSize).allocate .pool pCacheData
        dwRealSize, some (pData, pDataReal, pCacheData))
    | _, _, _ => (s, none)
  else
    match a.pData with
    | none => (s, none)
    | some pData =>
      let s := s.allocate .new pData dwBufSize
      match a.pDataReal with
      | none => (s, none)
      | some pDataReal =>
        let s := s.allocate .new pDataReal dwRealSize
        match a.pCacheData with
        | none => (s, none)
        | some pCacheData => (s.allocate .new pCacheData dwRealSize, some (pData, pDataReal, pCacheData))

def setSendBufferSize (a : BufferAnswers) (dwBufSize : Nat) (s : CXTcpClient) : Option (CXTcpClient × Bool) :=
  let dwBufSize := (dwBufSize + packetDataLen) % 2 ^ 32
  if 0 < dwBufSize ∧ dwBufSize ≤ s.dwSendBufferLen then some (s, true)
  else
    match s.getBuffers a dwBufSize with
    | (s, none) => some (s, false)
    | (s, some (pData, pDataReal, pCacheData)) =>
      (s.replaceBuffers a.junk pData pDataReal pCacheData dwBufSize).map (·, true)

/-- `SetSendBufferSize(CLIENT_BUF_SIZE)` and a socket; the receive buffers are not modelled here. -/
def create (a : BufferAnswers) (s : CXTcpClient) : Option (CXTcpClient × Int) :=
  match s.setSendBufferSize a 4096 with
  | none => none
  | some (s, false) => some (s, -3)
  | some (s, true) => some ({ s with bCreated := true }, 0)

def close (s : CXTcpClient) : CXTcpClient := { s with bClosing := false, bConnected := false }

/-- The loop of `Send`: `iOffset` at its end and the value returned. -/
def sendLoop (iWantSendLen : Nat) : List SendBytesAnswer → Nat → Option (Nat × Int)
  | [], _ => none
  | .socketError :: _, iOffset => some (iOffset, -3)
  | .sent 0 :: _, iOffset => some (iOffset, 0)
  | .sent (k + 1) :: answers, iOffset =>
    -- the socket takes at most what it is given
    let iOffset := iOffset + min (k + 1) (iWantSendLen - iOffset)
    if iOffset < iWantSendLen then sendLoop iWantSendLen answers iOffset else some (iOffset, iOffset)

def send (answers : List SendBytesAnswer) (bpBuf iWantSendLen : Nat) (s : CXTcpClient) :
    Option (CXTcpClient × Int) :=
  if bpBuf = 0 ∨ iWantSendLen = 0 then some (s, -1)
  else if !s.bConnected ∨ !s.bCreated ∨ s.bClosing then some (s, -2)
  else
    let (m, bytes) := s.mem.load bpBuf iWantSendLen
    (sendLoop iWantSendLen answers 0).map fun r => ({ s with mem := m, wire := s.wire ++ bytes.take r.1 }, r.2)

/-- The pointer is in the buffer or, the last comparison being `>`, right behind it. -/
def inBuffer (p base len : Nat) : Bool := base ≤ p && p ≤ base + len

/-- Filling in the structure at `pBodyData`; the payload is copied unless it is said to be there. -/
def putBody (c : SendCall) (pBodyData : Nat) (bThere : Bool) (s : CXTcpClient) : CXTcpClient :=
  let s := { s with iPacketNumber := s.iPacketNumber + 1 }
  let fixed := CXPacketBodyData.fixedBytes
    ⟨s.byRPCObjectGuid, s.byRequestID, c.dwMesCode.toNat, s.iPacketNumber.toNat, []⟩
  let m := s.mem.store pBodyData fixed
  if !bThere ∧ 0 < c.dwLen then
    let (m, payload) := m.load c.pbData c.dwLen
    { s with mem := m.store (pBodyData + bodyDataLen) payload }
  else { s with mem := m }

/-- The body of the packet, its length with the header, or `none` where `PrepareData` fails. -/
def buildBody (c : SendCall) (pbyBodyData : Nat) (s : CXTcpClient) : CXTcpClient × Option Nat :=
  if s.encryptType ≠ 0 ∨ s.compressType ≠ 0 then
    let pBodyData := s.pbySendBuffer + headerLen
    let s := s.putBody c pBodyData (inBuffer c.pbData s.pbySendBuffer s.dwSendBufferLen)
    let (m, src) := s.mem.load pBodyData (c.dwLen + bodyDataLen)
    match c.prepareData src with
    | none => ({ s with mem := m }, none)
    | some dest => ({ s with mem := m.store pbyBodyData dest }, some (dest.length + headerLen))
  else
    (s.putBody c (s.pbyRealSendBuffer + headerLen)
      (inBuffer c.pbData s.pbyRealSendBuffer s.dwRealSendBufferLen), some (c.dwLen + packetDataLen))

/-- The checksum over the bytes at `pbyBodyData`, and the header. -/
def putHeader (pbyBodyData iPacketBodyLen dwOrignDataLen : Nat) (s : CXTcpClient) : CXTcpClient :=
  let (m, body) := s.mem.load pbyBodyData iPacketBodyLen
  let header : CXPacketHeader :=
    ⟨cxPacketHeaderFlag, s.compressType, s.encryptType, iPacketBodyLen, byteSum body, dwOrignDataLen⟩
  { s with mem := m.store s.pbyRealSendBuffer header.toBytes }

/-- From the checksum on. -/
def sendBuilt (c : SendCall) (pbyBodyData dwPacketLen dwOrignDataLen : Nat) (s : CXTcpClient) :
    Option (CXTcpClient × Int) :=
  match (s.putHeader pbyBodyData (dwPacketLen - headerLen) dwOrignDataLen).send c.sendBytes
      s.pbyRealSendBuffer dwPacketLen with
  | none => none
  | some (s, iTransRet) => some (if iTransRet ≠ dwPacketLen then (s.close, -6) else (s, 0))

def sendPacket (c : SendCall) (s : CXTcpClient) : Option (CXTcpClient × Int) :=
  if c.pbData = 0 ∨ 1024 * 1024 * 1024 < c.dwLen then some (s, -1)
  else if (s.encryptType ≠ 0 ∨ s.compressType ≠ 0) ∧ !s.pDataParserHandle then some (s, -1)
  else
    let pbyBodyData := s.pbyRealSendBuffer + headerLen
    let s := { s with byRequestID := c.newGuid }
    let useSame : Bool := s.pbySendBuffer ≤ c.pbData ∧ c.pbData < s.pbySendBuffer + s.dwSendBufferLen
    match (if useSame then some (s, true) else s.setSendBufferSize c.buffers c.dwLen) with
    | none => none
    | some (s, false) => some (s, -2)
    | some (s, true) =>
      match s.buildBody c pbyBodyData with
      | (s, none) => some (s, -3)
      | (s, some dwPacketLen) => s.sendBuilt c pbyBodyData dwPacketLen (c.dwLen + bodyDataLen)

/-! ### Runs of a client -/

/-- The allocator's answers to requests of `n`, `2n` and `2n` bytes: memory that is not in use, and
never the first page. -/
structure AnswersOk (m : Memory BufKind) (a : BufferAnswers) (n : Nat) : Prop where
  data : ∀ p, a.pData = some p → 4096 ≤ p ∧ m.Fresh ⟨p, n, .new⟩
  real : ∀ p, a.pDataReal = some p → 4096 ≤ p ∧ m.Fresh ⟨p, n * 2, .new⟩ ∧
    ∀ q, a.pData = some q → @Region.Disjoint BufKind ⟨p, n * 2, .new⟩ ⟨q, n, .new⟩
  cache : ∀ p, a.pCacheData = some p → 4096 ≤ p ∧ m.Fresh ⟨p, n * 2, .new⟩ ∧
    (∀ q, a.pData = some q → @Region.Disjoint BufKind ⟨p, n * 2, .new⟩ ⟨q, n, .new⟩) ∧
    ∀ q, a.pDataReal = some q → @Region.Disjoint BufKind ⟨p, n * 2, .new⟩ ⟨q, n * 2, .new⟩

/-- The payload is in memory the caller may read, a GUID has 16 bytes. -/
structure CallOk (s : CXTcpClient) (c : SendCall) : Prop where
  payload : s.mem.Live c.pbData c.dwLen
  newGuid : c.newGuid.length = 16
  buffers : AnswersOk s.mem c.buffers (c.dwLen + packetDataLen)

/-- The client's buffers stay as the caller allocates, frees and writes memory of its own. -/
structure CallerOk (s : CXTcpClient) (m : Memory BufKind) : Prop where
  separate : m.Separate
  low : ∀ r ∈ m.live, 4096 ≤ r.base
  dead : m.dead = s.mem.dead
  kept : ∀ r ∈ s.mem.live, r.kind ≠ .caller → r ∈ m.live

/-- The states after any sequence of calls, with neither encryption nor compression set. -/
inductive Reached : CXTcpClient → Prop
  | construct (mem : Memory BufKind) (hs : mem.Separate) (hlow : ∀ r ∈ mem.live, 4096 ≤ r.base) :
    Reached (construct mem)
  | create {s s' : CXTcpClient} {iRet : Int} (a : BufferAnswers) (h : Reached s)
    (ha : AnswersOk s.mem a (4096 + packetDataLen)) (hs : s.create a = some (s', iRet)) : Reached s'
  | connect {s : CXTcpClient} (h : Reached s) : Reached { s with bConnected := true }
  | close {s : CXTcpClient} (h : Reached s) : Reached s.close
  | setRPCObjectGuid {s : CXTcpClient} (pbyGuid : List UInt8) (h : Reached s) (hg : pbyGuid.length = 16) :
    Reached { s with byRPCObjectGuid := pbyGuid }
  | setUsedMemoryCachePool {s : CXTcpClient} (bSet : Bool) (h : Reached s) :
    Reached { s with bUsedMemoryCachePool := bSet }
  | setSendBufferSize {s s' : CXTcpClient} {ok : Bool} (a : BufferAnswers) (n : Nat) (h : Reached s)
    (hn : n ≤ 1024 * 1024 * 1024) (ha : AnswersOk s.mem a (n + packetDataLen))
    (hs : s.setSendBufferSize a n = some (s', ok)) : Reached s'
  | caller {s : CXTcpClient} (m : Memory BufKind) (h : Reached s) (hm : CallerOk s m) :
    Reached { s with mem := m }
  | send {s s' : CXTcpClient} {iRet : Int} (c : SendCall) (h : Reached s) (hc : CallOk s c)
    (hs : s.sendPacket c = some (s', iRet)) : Reached s'

/-- `SetSendBufferSize` replaces the buffers in the middle of this `SendPacket`. -/
def Replaces (s : CXTcpClient) (c : SendCall) : Prop :=
  c.pbData ≠ 0 ∧ c.dwLen ≤ 1024 * 1024 * 1024 ∧
    ¬ (s.pbySendBuffer ≤ c.pbData ∧ c.pbData < s.pbySendBuffer + s.dwSendBufferLen) ∧
    s.dwSendBufferLen < c.dwLen + packetDataLen ∧
    c.buffers.pData.isSome ∧ c.buffers.pDataReal.isSome ∧ c.buffers.pCacheData.isSome

/-- The payload is copied, or where the copy is left out it is in its place already. -/
def InPlace (s : CXTcpClient) (c : SendCall) : Prop :=
  inBuffer c.pbData s.pbyRealSendBuffer s.dwRealSendBufferLen = false ∨
    s.mem.bytes (s.pbyRealSendBuffer + packetDataLen) c.dwLen = s.mem.bytes c.pbData c.dwLen

end CXTcpClient

end KonsanNet
