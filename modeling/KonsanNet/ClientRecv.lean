import KonsanNet.ParserStores
import KonsanNet.TcpClient

/-!
# Receiving at the client (`CXTcpClient::RecvPacket`, `ReadLeftData`)

A reply is received into the receive buffer, which `SetRecvBufferSize` has made 40 bytes larger than `dwDataLen`.
An encoded reply is decoded into the parser buffer and copied back. `outside` counts the accesses that were not
within a buffer.
-/

namespace KonsanNet

def EncryptType.ofFlag (byEncryptFlag : UInt8) : EncryptType :=
  if byEncryptFlag = 0 then .none
  else if byEncryptFlag = 0x81 then .rsaPKCS1v15
  else if byEncryptFlag = 0x82 then .rsaOAEP
  else if byEncryptFlag = 0x83 then .blowfish
  else .other byEncryptFlag

def CompressType.ofFlag (byCompressFlag : UInt8) : CompressType :=
  if byCompressFlag = 0 then .none
  else if byCompressFlag = 0x81 then .gzip
  else if byCompressFlag = 0x82 then .snappy
  else if byCompressFlag = 0x83 then .zlib
  else .other byCompressFlag

namespace Primitives

variable {Pub Priv Rand : Type} (p : Primitives Pub Priv Rand) (h : CXFastDataParserHandle)

/-- What `ParseData` reads: all of its input, then as much of the cache as the first stage has returned. -/
def parseReads (enc : EncryptType) (comp : CompressType) (b : Buffers) : List (BufName × Nat) :=
  (.src, b.src.length) ::
    if enc ≠ .none ∧ comp ≠ .none then
      match p.decryptStage h enc b.src b.cache.length with
      | none => []
      | some out => [(.cache, out.2)]
    else []

/-- What the second stage reads. -/
def compressedText (enc : EncryptType) (b : Buffers) : Bytes :=
  if enc = .none then b.src
  else
    match p.decryptStage h enc b.src b.cache.length with
    | none => []
    | some out => (out.1 ++ b.cache.drop out.1.length).take out.2

/-- The length of the text that the last stage of `ParseData` makes, also where the output has no room for it. -/
def textLength (enc : EncryptType) (comp : CompressType) (b : Buffers) : Nat :=
  match comp with
  | .none =>
    match enc with
    | .blowfish => ((p.eaxDecrypt h.m_byKey h.m_byIv b.src).getD []).length
    | _ => ((p.decryptStage h enc b.src b.dest.length).getD ([], 0)).2
  | .gzip => ((p.gzipUncompress (p.compressedText h enc b)).getD []).length
  | .zlib => ((p.zlibUncompress (p.compressedText h enc b)).getD []).length
  | .snappy => (p.getUncompressedLength (p.compressedText h enc b)).getD 0
  | .other _ => 0

end Primitives

/-- What one `RecvBytes` of the socket answers; no bytes if the peer has closed. -/
inductive RecvBytesAnswer
  | received (bytes : Bytes)
  | socketError

/-- The arguments of one `RecvPacket` and what the objects around it answer; `buffers` is what new buffers hold. -/
structure PacketCall where
  iReadBytes : Int
  isInt : iReadBytes < 2 ^ 31
  dwMesCode : Nat
  answers : List RecvBytesAnswer
  buffers : Option (Nat → UInt8)

structure RecvResult where
  iRet : Int
  iReadBytes : Int
  dwMesCode : Nat
deriving DecidableEq, Repr

/-- The part of `CXTcpClient` that receiving works on; each buffer is as long as its `DWORD` says. -/
structure ClientRecv where
  pbyRecvBuffer : Bytes
  pbyParserBuffer : Bytes
  pbyCacheRecvBuffer : Bytes
  dwLeftDataBeginPos : Nat
  dwLeftRecvDataLen : Nat
  pDataParserHandle : Option CXFastDataParserHandle
  byRPCObjectGuid : Bytes
  byRequestID : Bytes
  bGetRealObjectID : Bool
  bCreated : Bool
  bConnected : Bool
  bClosing : Bool
  outside : Nat

namespace ClientRecv

def construct : ClientRecv where
  pbyRecvBuffer := []
  pbyParserBuffer := []
  pbyCacheRecvBuffer := []
  dwLeftDataBeginPos := 0
  dwLeftRecvDataLen := 0
  pDataParserHandle := none
  byRPCObjectGuid := List.replicate 16 0
  byRequestID := List.replicate 16 0
  bGetRealObjectID := false
  bCreated := false
  bConnected := false
  bClosing := false
  outside := 0

/-- An access. -/
def check (inside : Prop) [Decidable inside] (s : ClientRecv) : ClientRecv :=
  if inside then s else { s with outside := s.outside + 1 }

def noLeft (s : ClientRecv) : ClientRecv := { s with dwLeftDataBeginPos := 0, dwLeftRecvDataLen := 0 }

def close (s : ClientRecv) : ClientRecv :=
  { s.noLeft with bClosing := false, bConnected := false, bGetRealObjectID := false }

/-- What memory holds that is not written yet. -/
def fill (junk : Nat → UInt8) (n : Nat) : Bytes := (List.range n).map junk

def setRecvBufferSize (dwBufSize : Nat) (buffers : Option (Nat → UInt8)) (s : ClientRecv) : ClientRecv × Bool :=
  let dwBufSize := (dwBufSize + bodyDataLen) % 2 ^ 32
  if 0 < dwBufSize ∧ dwBufSize ≤ s.pbyRecvBuffer.length then (s, true)
  else
    match buffers with
    | none => (s, false)
    | some junk =>
      ({ s with
        pbyRecvBuffer := fill junk dwBufSize
        pbyParserBuffer := fill junk (dwBufSize * 2 % 2 ^ 32)
        pbyCacheRecvBuffer := fill junk (dwBufSize * 2 % 2 ^ 32) }, true)

/-- The loop of `Recv`: what it has received, the value returned, and the answers that are left. -/
def recvLoop (iWantRecvLen : Nat) : List RecvBytesAnswer → Bytes → Option (Bytes × Int × List RecvBytesAnswer)
  | [], _ => none
  | .socketError :: answers, got => some (got, -3, answers)
  | .received [] :: answers, got => some (got, 0, answers)
  | .received (b :: bytes) :: answers, got =>
    -- the socket gives at most what it is asked for
    let got := got ++ (b :: bytes).take (iWantRecvLen - got.length)
    if got.length < iWantRecvLen then recvLoop iWantRecvLen answers got else some (got, got.length, answers)

def recv (iWantRecvLen : Nat) (answers : List RecvBytesAnswer) (s : ClientRecv) :
    Option (ClientRecv × Bytes × Int × List RecvBytesAnswer) :=
  if iWantRecvLen = 0 then some (s, [], -1, answers)
  else if !s.bConnected ∨ !s.bCreated ∨ s.bClosing then some (s, [], -2, answers)
  else (recvLoop iWantRecvLen answers []).map fun r => (if r.2.1 ≤ 0 then s.close else s, r)

/-- `data` at the start of a buffer, as far as it holds it. -/
def overlay (data buf : Bytes) : Bytes := data.take buf.length ++ buf.drop data.length

def putRecv (data : Bytes) (s : ClientRecv) : ClientRecv :=
  { s with pbyRecvBuffer := overlay data s.pbyRecvBuffer }

/-- `RecvPacket` up to the body of the packet, or with the value that it returns before. -/
def receive (c : PacketCall) (s : ClientRecv) : Option (ClientRecv × Except Int (CXPacketHeader × Bytes)) :=
  match s.noLeft.recv headerLen c.answers with
  | none => none
  | some (s, bytes, iTransRet, answers) =>
    let header := CXPacketHeader.ofBytes bytes
    if iTransRet ≤ 0 then some (s, .error (-3))
    else if header.dwDataLen > 1024 * 1024 * 1024 then some (s.close, .error (-4))
    else if header.wFlag ≠ cxPacketHeaderFlag then some (s.close, .error (-5))
    else
      match s.setRecvBufferSize header.dwDataLen c.buffers with
      | (s, false) => some (s, .error (-6))
      | (s, true) =>
        (s.recv header.dwDataLen answers).map fun r =>
          ((r.1.check (r.2.1.length ≤ r.1.pbyRecvBuffer.length)).putRecv r.2.1,
            if r.2.2.1 ≠ (header.dwDataLen : Int) then .error (-7) else .ok (header, r.2.1))

def Encoded (header : CXPacketHeader) : Prop := header.byEncryptFlag ≠ 0 ∨ header.byCompressFlag ≠ 0

instance (header : CXPacketHeader) : Decidable (Encoded header) := inferInstanceAs (Decidable (_ ∨ _))

/-- The server's id of the object. -/
def takeObjectGuid (body : CXPacketBodyData) (s : ClientRecv) : ClientRecv :=
  if !s.bGetRealObjectID ∧ body.byObjectGuid ≠ s.byRPCObjectGuid ∧ body.byRequestID = s.byRequestID then
    { s with byRPCObjectGuid := body.byObjectGuid, bGetRealObjectID := true }
  else s

/-- From the decoded body of `dwLen` bytes in the receive buffer on; `iReadBytes` is an `int`. -/
def finish (dwLen : Nat) (s : ClientRecv) : ClientRecv × RecvResult :=
  let s := s.check (bodyDataLen ≤ s.pbyRecvBuffer.length)
  let body := CXPacketBodyData.ofBytes s.pbyRecvBuffer
  let dwRealDataLen := (dwLen + 2 ^ 32 - bodyDataLen) % 2 ^ 32
  (s.takeObjectGuid body, ⟨0, Int.bmod (dwRealDataLen : Nat) (2 ^ 32), body.dwMesCode⟩)

def parserBuffers (body : Bytes) (s : ClientRecv) : Buffers := ⟨body, s.pbyParserBuffer, s.pbyCacheRecvBuffer⟩

section

variable {Pub Priv Rand : Type} (p : Primitives Pub Priv Rand)

/-- The accesses of `ParseData`. -/
def checkParse (h : CXFastDataParserHandle) (enc : EncryptType) (comp : CompressType) (b : Buffers)
    (s : ClientRecv) :
    ClientRecv :=
  (s.check (∀ st ∈ p.parseStores h enc comp b, st.fin ≤ (b.get st.buf).length)).check
    (∀ rd ∈ p.parseReads h enc comp b, rd.2 ≤ (b.get rd.1).length)

def putParsed (b : Buffers) (s : ClientRecv) : ClientRecv :=
  { s with
    pbyParserBuffer := overlay b.dest s.pbyParserBuffer
    pbyCacheRecvBuffer := overlay b.cache s.pbyCacheRecvBuffer }

/-- `memcpy(m_pbyRecvBuffer, m_pbyParserBuffer, dwDestLen)` -/
def copyBack (dwDestLen : Nat) (s : ClientRecv) : ClientRecv :=
  (s.check (dwDestLen ≤ s.pbyParserBuffer.length ∧ dwDestLen ≤ s.pbyRecvBuffer.length)).putRecv
    (s.pbyParserBuffer.take dwDestLen)

/-- From the received body on. What a `ParseData` that fails has stored is not read again. -/
def decode (header : CXPacketHeader) (body : Bytes) (dwMesCode : Nat) (s : ClientRecv) :
    ClientRecv × RecvResult :=
  if Encoded header then
    match s.pDataParserHandle with
    | none => (s, ⟨-3, 0, dwMesCode⟩)
    | some h =>
      let enc := EncryptType.ofFlag header.byEncryptFlag
      let comp := CompressType.ofFlag header.byCompressFlag
      let s' := s.checkParse p h enc comp (s.parserBuffers body)
      match p.parseData h enc comp (s.parserBuffers body) with
      | none => (s', ⟨-3, 0, dwMesCode⟩)
      | some (b, dwDestLen) =>
        ((s'.putParsed b).copyBack dwDestLen).finish dwDestLen
  else s.finish body.length

/-- `RecvPacket(iReadBytes, dwMesCode)` -/
def recvPacket (c : PacketCall) (s : ClientRecv) : Option (ClientRecv × RecvResult) :=
  if !s.bConnected ∨ !s.bCreated ∨ s.bClosing then some (s, ⟨-2, c.iReadBytes, c.dwMesCode⟩)
  else
    match s.receive c with
    | none => none
    | some (s, .error iRet) => some (s, ⟨iRet, 0, c.dwMesCode⟩)
    | some (s, .ok (header, body)) => some (s.decode p header body c.dwMesCode)

/-- The payload to the caller's buffer, as much as it holds; the rest is left. -/
def giveData (data : Bytes) (iReadBytes : Int) (r : ClientRecv × RecvResult) : ClientRecv × RecvResult × Bytes :=
  let buf := r.1.pbyRecvBuffer.drop bodyDataLen
  if r.2.iRet = 0 ∧ 0 < r.2.iReadBytes then
    let iRecvLen := r.2.iReadBytes.toNat
    if data.length < iRecvLen then
      ({ r.1.check (bodyDataLen + data.length ≤ r.1.pbyRecvBuffer.length) with
        dwLeftRecvDataLen := iRecvLen - data.length, dwLeftDataBeginPos := data.length },
        { r.2 with iRet := -8, iReadBytes := data.length }, buf.take data.length)
    else (r.1.check (bodyDataLen + iRecvLen ≤ r.1.pbyRecvBuffer.length), r.2, memcpy data 0 (buf.take iRecvLen))
  -- `iReadBytes` is as it was
  else (r.1, { r.2 with iReadBytes := iReadBytes }, data)

/-- `RecvPacket(pData, iDataLen, iReadBytes, dwMesCode)`; `pData` has `iDataLen` bytes. -/
def recvPacketInto (c : PacketCall) (pData : Option Bytes) (s : ClientRecv) :
    Option (ClientRecv × RecvResult × Bytes) :=
  match pData with
  | none => some (s, ⟨-1, c.iReadBytes, c.dwMesCode⟩, [])
  | some data =>
    (s.noLeft.recvPacket p { c with iReadBytes := 0, isInt := by decide }).map
      (giveData (List.replicate data.length 0) c.iReadBytes)

end

/-- `ReadLeftData(pData, iDataLen, iReadBytes)`: the value returned, `iReadBytes` and the caller's buffer. -/
def readLeftData (pData : Bytes) (iReadBytes : Int) (s : ClientRecv) : ClientRecv × Bool × Int × Bytes :=
  if s.dwLeftRecvDataLen = 0 then (s, true, iReadBytes, pData)
  else if pData.length < s.dwLeftRecvDataLen then (s, false, 0, pData)
  else
    let left := (s.pbyRecvBuffer.drop (bodyDataLen + s.dwLeftDataBeginPos)).take s.dwLeftRecvDataLen
    ((s.check (bodyDataLen + s.dwLeftDataBeginPos + s.dwLeftRecvDataLen ≤ s.pbyRecvBuffer.length)).noLeft, true,
      s.dwLeftRecvDataLen, memcpy pData 0 left)

/-! ### Runs -/

inductive RecvOp
  | recvPacket (c : PacketCall)
  | recvPacketInto (c : PacketCall) (pData : Option Bytes)
  | readLeftData (pData : Bytes) (iReadBytes : Int)
  | setRecvBufferSize (dwBufSize : Nat) (buffers : Option (Nat → UInt8))
  | setDataParserHandle (h : Option CXFastDataParserHandle)
  | connect
  | close
  /-- `SendPacket` has taken a new id for its request. -/
  | request (byRequestID : Bytes)

section

variable {Pub Priv Rand : Type} (p : Primitives Pub Priv Rand)

def runOp (s : ClientRecv) : RecvOp → Option ClientRecv
  | .recvPacket c => (s.recvPacket p c).map Prod.fst
  | .recvPacketInto c pData => (s.recvPacketInto p c pData).map Prod.fst
  | .readLeftData pData iReadBytes => some (s.readLeftData pData iReadBytes).1
  | .setRecvBufferSize dwBufSize buffers => some (s.setRecvBufferSize dwBufSize buffers).1
  | .setDataParserHandle h => some { s with pDataParserHandle := h }
  | .connect => some { s with bCreated := true, bConnected := true }
  | .close => some s.close
  | .request byRequestID => some { s with byRequestID := byRequestID }

/-- `P` holds of every call of the run, with the state before it. -/
def Along (P : ClientRecv → RecvOp → Prop) : ClientRecv → List RecvOp → Prop
  | _, [] => True
  | s, op :: ops => P s op ∧ ∀ s', s.runOp p op = some s' → Along P s' ops

/-- The length of the decoded body of a packet. -/
def bodyLength (header : CXPacketHeader) (body : Bytes) (s : ClientRecv) : Nat :=
  if Encoded header then
    match s.pDataParserHandle with
    | none => 0
    | some h => p.textLength h (.ofFlag header.byEncryptFlag) (.ofFlag header.byCompressFlag) (s.parserBuffers body)
  else body.length

/-- No access is outside, and what is returned with a packet is the length of its payload; `-8` is returned with the
part that the caller's buffer holds, the rest is kept for `ReadLeftData`. -/
def Survives (s : ClientRecv) : RecvOp → Prop
  | .recvPacket c => ∀ s' r, s.recvPacket p c = some (s', r) → s'.outside = s.outside ∧
      ∀ s₁ header body, s.receive c = some (s₁, .ok (header, body)) → r.iRet = 0 →
        r.iReadBytes = (s₁.bodyLength p header body - bodyDataLen : Nat)
  | .recvPacketInto c pData => ∀ s' r data, s.recvPacketInto p c pData = some (s', r, data) →
      s'.outside = s.outside ∧
      ∀ s₁ header body, s.noLeft.receive c = some (s₁, .ok (header, body)) →
        (r.iRet = 0 → r.iReadBytes = (s₁.bodyLength p header body - bodyDataLen : Nat)) ∧
        (r.iRet = -8 → r.iReadBytes + s'.dwLeftRecvDataLen = (s₁.bodyLength p header body - bodyDataLen : Nat))
  | .readLeftData pData iReadBytes => (s.readLeftData pData iReadBytes).1.outside = s.outside ∧
      ((s.readLeftData pData iReadBytes).2.1 = true →
        (s.readLeftData pData iReadBytes).2.2.1 = s.dwLeftRecvDataLen)
  | _ => True

/-- What the first of two stages of `ParseData` returns is in the cache buffer. -/
def CacheFits (h : CXFastDataParserHandle) (enc : EncryptType) (comp : CompressType) (b : Buffers) : Prop :=
  enc ≠ .none → comp ≠ .none → ∀ out, p.decryptStage h enc b.src b.cache.length = some out → out.2 ≤ b.cache.length

/-- The buffers hold a decoded body of `n` bytes, and an `int` its payload. -/
def Holds (s : ClientRecv) (n : Nat) : Prop :=
  n ≤ s.pbyRecvBuffer.length ∧ n ≤ s.pbyParserBuffer.length ∧ n < 2 ^ 31 + bodyDataLen

/-- `RecvPacket` gets to the end with this packet. -/
def Decodes (header : CXPacketHeader) (body : Bytes) (s : ClientRecv) : Prop :=
  Encoded header → ∃ h, s.pDataParserHandle = some h ∧ (p.parseData h (.ofFlag header.byEncryptFlag)
    (.ofFlag header.byCompressFlag) (s.parserBuffers body)).isSome

/-- An encoded packet is decoded within the buffers. -/
def BodyFits (header : CXPacketHeader) (body : Bytes) (s : ClientRecv) : Prop :=
  Encoded header → ∀ h, s.pDataParserHandle = some h →
    CacheFits p h (.ofFlag header.byEncryptFlag) (.ofFlag header.byCompressFlag) (s.parserBuffers body) ∧
      (s.Decodes p header body → s.Holds (s.bodyLength p header body))

def Meets (s : ClientRecv) : RecvOp → Prop
  | .recvPacket c => ∀ s₁ header body, s.receive c = some (s₁, .ok (header, body)) →
      s₁.BodyFits p header body ∧ (s₁.Decodes p header body → bodyDataLen ≤ s₁.bodyLength p header body)
  | .recvPacketInto c pData => pData.isSome → ∀ s₁ header body,
      s.noLeft.receive c = some (s₁, .ok (header, body)) → s₁.BodyFits p header body ∧
        (s₁.Decodes p header body → bodyDataLen < s₁.bodyLength p header body ∨ c.iReadBytes = 0)
  | .readLeftData _ iReadBytes => s.dwLeftRecvDataLen = 0 → iReadBytes = 0
  -- a size that wraps to 0 replaces the buffer that the left data are in
  | .setRecvBufferSize dwBufSize buffers =>
    s.dwLeftRecvDataLen ≠ 0 → buffers.isSome → (dwBufSize + bodyDataLen) % 2 ^ 32 ≠ 0
  | _ => True

end

end ClientRecv

end KonsanNet
