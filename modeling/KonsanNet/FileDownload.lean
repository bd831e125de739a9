import KonsanNet.File64
import KonsanNet.TcpClient

/-!
# Reading a file from the server (`CXFileRPCServer::Read`, `CXFileTcpClient::Read`)

One `Read` of the client asks the server for a number of bytes at the server's position; the answer is a message
with a reply code, a length and the bytes. The client takes the two words first (`RecvPacket`, which keeps the
rest of the message) and then the bytes (`ReadLeftData`). The connection neither compresses nor encrypts, and
delivers what it is given.

A `ReadEnv` says what happens to one `Read`: what the server's objects answer, the text of `strerror(errno)`,
and the system calls of the file.
-/

namespace KonsanNet

structure ReadEnv where
  isOpen : Bool
  /-- `GetSendCXBufferObj` and `GetWritableBuffer` -/
  getSendBuffer : Bool
  read : List (Option Nat)
  position : SeekAnswer
  strerror : List UInt8

/-- `CX_FILE_READ_REPLY_CODE` -/
def cxFileReadReplyCode : Nat := 2006

/-- `sizeof(CXFileReadReply) - 1` -/
def readReplyLen : Nat := 8

/-- The bytes of a text with its terminating zero, as `strcpy` writes them. -/
def cString (s : List UInt8) : List UInt8 := s ++ [0]

namespace CXFileRPCServer

/-- A `CXFileReadReply` in its buffer; `szData` is the rest of the buffer. -/
structure ReadReply where
  dwReplyCode : Nat
  dwDataLen : Nat
  szData : List UInt8

/-- The message that is sent: the first `dwDataLen + sizeof(CXFileReadReply) - 1` bytes. -/
def ReadReply.message (r : ReadReply) : List UInt8 :=
  (leBytes 4 r.dwReplyCode ++ leBytes 4 r.dwDataLen ++ r.szData).take ((r.dwDataLen + readReplyLen) % 2 ^ 32)

def textReply (dwReplyCode : Nat) (text : List UInt8) : ReadReply := ⟨dwReplyCode, text.length + 1, cString text⟩

/-- The loop over `m_file.Read`, with an answer of `read` for each round. -/
def readLoop (env : ReadEnv) (dwReadLen : Nat) :
    List (Option Nat) → CXFile64 → Nat → ReadReply → Option (CXFile64 × ReadReply)
  | [], file, iTotalReadLen, r => if iTotalReadLen < dwReadLen then none else some (file, r)
  | a :: answers, file, iTotalReadLen, r =>
    if iTotalReadLen < dwReadLen then
      let iNeedRead := if dwReadLen > dwReadLen - iTotalReadLen then dwReadLen - iTotalReadLen else dwReadLen
      match file.read iNeedRead a with
      | (file, true, n, bytes) =>
        let r := { r with dwDataLen := (r.dwDataLen + n) % 2 ^ 32, szData := memcpy r.szData iTotalReadLen bytes }
        if n ≠ iNeedRead then some ((file.getCurrentPosition env.position).1, { r with dwReplyCode := 204 })
        else readLoop env dwReadLen answers file (iTotalReadLen + n) r
      | (file, false, _, _) =>
        some ((file.getCurrentPosition env.position).1,
          { dwReplyCode := 205
            dwDataLen := env.strerror.length + 1
            szData := memcpy r.szData 0 (cString env.strerror) })
    else some (file, r)

/-- `SendPacket` lets the message through (`PostSend` bounds its length). -/
def sends (message : List UInt8) : Bool := 0 < message.length && (message.length + packetDataLen) ≤ 1024 * 1024

/-- `Read`: the message that it sends, `none` where `SendPacket` fails. -/
def read (env : ReadEnv) (dwReadLen : Nat) (file : CXFile64) : Option (CXFile64 × Option (List UInt8)) :=
  let send (r : CXFile64 × ReadReply) := (r.1, if sends r.2.message then some r.2.message else none)
  if dwReadLen ≤ 0 ∨ 1024 * 10240 < dwReadLen then
    some (send (file, textReply 201
      s!"Failed to read data,the need read length {toInt32 dwReadLen} is a invalid value".toUTF8.toList))
  else if !env.isOpen then some (send (file, textReply 202 "The file had been closed!\n".toUTF8.toList))
  else if !env.getSendBuffer then
    some (send (file, textReply 203
      s!"Failed to read data,an error occur in allocating memory {dwReadLen + readReplyLen} bytes".toUTF8.toList))
  else
    (readLoop env dwReadLen env.read file 0 ⟨200, 0, List.replicate dwReadLen 0⟩).map send

end CXFileRPCServer

/-! ### The client -/

/-- What `CXTcpClient` keeps of a received packet. -/
structure RecvPart where
  pbyRecvBuffer : List UInt8
  dwLeftDataBeginPos : Nat
  dwLeftRecvDataLen : Nat

namespace RecvPart

/-- `RecvPacket(iReadBytes, dwMesCode)` on the bytes that arrive until the connection ends: the result,
`iReadBytes` and `dwMesCode`. -/
def recvBody (stream : List UInt8) : Int × Nat × Nat × List UInt8 :=
  let header := CXPacketHeader.ofBytes stream
  if stream.length < headerLen then (-3, 0, 0, [])
  else if 1024 * 1024 * 1024 < header.dwDataLen then (-4, 0, 0, [])
  else if header.wFlag ≠ cxPacketHeaderFlag then (-5, 0, 0, [])
  else
    let body := (stream.drop headerLen).take header.dwDataLen
    if body.length ≠ header.dwDataLen ∨ header.dwDataLen = 0 then (-7, 0, 0, [])
    else if header.byCompressFlag ≠ 0 ∨ header.byEncryptFlag ≠ 0 then (-3, 0, 0, [])
    else (0, (header.dwDataLen + 2 ^ 32 - bodyDataLen) % 2 ^ 32, (CXPacketBodyData.ofBytes body).dwMesCode, body)

/-- `RecvPacket(pData, iDataLen, iReadBytes, dwMesCode)`: the result, `pData` and `dwMesCode`. -/
def recvPacket (iDataLen : Nat) (stream : List UInt8) : RecvPart × Int × List UInt8 × Nat :=
  let (iRet, iRecvLen, dwMesCode, body) := recvBody stream
  let buf := (CXPacketBodyData.ofBytes body).buf
  if iRet = 0 ∧ 0 < iRecvLen then
    if iDataLen < iRecvLen then
      (⟨body, iDataLen, iRecvLen - iDataLen⟩, -8, memcpy (List.replicate iDataLen 0) 0 (buf.take iDataLen), dwMesCode)
    else (⟨body, 0, 0⟩, iRet, memcpy (List.replicate iDataLen 0) 0 (buf.take iRecvLen), dwMesCode)
  else (⟨body, 0, 0⟩, iRet, List.replicate iDataLen 0, dwMesCode)

/-- `ReadLeftData`: the result and the bytes, `none` where `iReadBytes` is left alone. -/
def readLeftData (p : RecvPart) (iDataLen : Nat) : Bool × Option (List UInt8) :=
  if p.dwLeftRecvDataLen = 0 then (true, none)
  else if iDataLen < p.dwLeftRecvDataLen then (false, some [])
  else
    (true, some (((CXPacketBodyData.ofBytes p.pbyRecvBuffer).buf.drop p.dwLeftDataBeginPos).take p.dwLeftRecvDataLen))

end RecvPart

/-- What one `CXFileTcpClient::Read` gives its caller, and the server's position before it. -/
structure ReadResult where
  iRet : Int
  bytes : List UInt8
  bOpened : Bool
  start : Nat
deriving DecidableEq

namespace CXFileTcpClient

/-- `Read` from the call of `ReadLeftData` on, with its result and bytes. -/
def finishRead (iWantReadLen dwReplyCode dwDataLen start : Nat) (left : Bool × Option (List UInt8)) :
    ReadResult :=
  let bytes := left.2.getD []
  if left.1 = false then ⟨-8, bytes, false, start⟩
  else if 0 < dwDataLen ∧ iWantReadLen ≠ bytes.length then ⟨-12, bytes, false, start⟩
  else if dwReplyCode = 203 then ⟨-9, bytes, true, start⟩
  else if dwReplyCode = 204 then ⟨-10, bytes, true, start⟩
  else if dwReplyCode = 205 then ⟨-11, bytes, true, start⟩
  else ⟨0, bytes, true, start⟩

/-- `Read(pBuf, iWantReadLen, piReadLen)` from `RecvPacket` on; `*piReadLen` was 0 before. -/
def readReply (iWantReadLen : Nat) (stream : List UInt8) (start : Nat) : ReadResult :=
  let (part, iTransRet, pData, dwMesCode) := RecvPart.recvPacket readReplyLen stream
  let dwReplyCode := leValue (pData.take 4)
  let dwDataLen := leValue ((pData.drop 4).take 4)
  if iTransRet ≠ 0 ∧ iTransRet ≠ -8 then ⟨-4, [], false, start⟩
  else if dwMesCode ≠ cxFileReadReplyCode then ⟨-5, [], false, start⟩
  else if dwReplyCode ≠ 200 ∧ dwReplyCode ≠ 205 ∧ dwReplyCode ≠ 204 then ⟨-6, [], false, start⟩
  else if iWantReadLen < dwDataLen then ⟨-7, [], false, start⟩
  else finishRead iWantReadLen dwReplyCode dwDataLen start
    (if 0 < dwDataLen then part.readLeftData iWantReadLen else (true, none))

/-- The ids in the packets; which ones they are does not matter here. -/
def anyGuid : List UInt8 := List.replicate 16 0

theorem length_anyGuid : anyGuid.length = 16 := rfl

/-- The packet with a message, as the server's connection puts it on the wire. -/
def packetOf (byObjectGuid byRequestID message : List UInt8) : List UInt8 :=
  let body := CXPacketBodyData.fixedBytes ⟨byObjectGuid, byRequestID, cxFileReadReplyCode, 0, []⟩ ++ message
  PlainPacket.encode ⟨body, UInt32.ofNat body.length⟩

/-- One `Read` over a connection that delivers what the server sends; the server closes it where `SendPacket`
fails. -/
def read (env : ReadEnv) (iWantReadLen : Nat) (file : CXFile64) : Option (CXFile64 × ReadResult) :=
  (CXFileRPCServer.read env iWantReadLen file).map fun r =>
    (r.1, readReply iWantReadLen ((r.2.map (packetOf anyGuid anyGuid)).getD [])
      file.file.offset)

/-- A loop over `Read` that ends with the first result other than `RETURN_SUCCEED`. -/
def download (iWantReadLen : Nat) : List ReadEnv → CXFile64 → Option (List ReadResult)
  | [], _ => none
  | env :: envs, file =>
    (read env iWantReadLen file).bind fun r =>
      if r.2.iRet = 0 then (download iWantReadLen envs r.1).map (r.2 :: ·) else some [r.2]

/-- The bytes of the file in order; the `Read` that meets the end returns the remaining bytes with the
end-of-file code and leaves the client open; and no `Read` that has transferred correct bytes fails. -/
structure Downloads (contents : List UInt8) (iWantReadLen : Nat) (results : List ReadResult) : Prop where
  whole : results.flatMap ReadResult.bytes = contents
  eof : ∀ r ∈ results, contents.length < r.start + iWantReadLen →
    r.iRet = -10 ∧ r.bytes = contents.drop r.start ∧ r.bOpened = true
  transferred : ∀ r ∈ results, r.bytes ≠ [] → r.bytes = (contents.drop r.start).take r.bytes.length →
    r.iRet = 0 ∨ r.iRet = -10

end CXFileTcpClient

end KonsanNet
