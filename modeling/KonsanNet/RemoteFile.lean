import Mathlib.Tactic
import KonsanNet.FileDownload

/-!
# A file of the server and its client (`CXFileRPCServer`, `CXFileTcpClient`)

A `RemoteFile` is a client together with the server's object that its two channels lead to. An operation sends one
request and waits for the reply; a `Transfer` says what becomes of the two (`ReplyStream` is about the bytes of the
connection). A failed operation calls `Close`, which is a request of its own.

An `OpEnv` has what one operation meets: the transfers, the system calls of the server, and whether there is memory
for the client's buffer. `CXFileTcpClient::Read` up to its request and `CXFileRPCServer::Read` are in `FileDownload`.
-/

namespace KonsanNet

/-! ### The messages -/

/-- An `int64` in a message. -/
def int64Bytes (i : Int) : List UInt8 := leBytes 8 (toUInt64 i)

def int64Value (bs : List UInt8) : Int := toInt64 (leValue bs)

/-- A `DWORD` that is cast to `SEEKTYPE`; `Seek` takes every other value for the first one. -/
def seekTypeOf (dwSeekType : Nat) : SeekType :=
  if dwSeekType = 1 then .current else if dwSeekType = 2 then .end else .begin

def SeekType.value : SeekType → Nat
  | .begin => 0
  | .current => 1
  | .end => 2

inductive OpenType
  | modeRead
  | modeWrite
  | modeReadWrite
  | modeNoTruncateWrite
  | modeNoTruncateReadWrite
deriving DecidableEq

def OpenType.value : OpenType → UInt8
  | .modeRead => 0
  | .modeWrite => 1
  | .modeReadWrite => 2
  | .modeNoTruncateWrite => 3
  | .modeNoTruncateReadWrite => 4

structure CXFileOpenFile where
  byOpenType : UInt8
  byReserve : List UInt8
  dwFilePathLen : Nat
  szFilePath : List UInt8

structure CXFileSeek where
  dwSeekType : Nat
  iSeekPos : Int

structure CXFileRead where
  dwSeekType : Nat
  iBeginPos : Int
  dwReadLen : Nat

structure CXFileWrite where
  dwSeekType : Nat
  iBeginPos : Int
  dwDataLen : Nat
  szData : List UInt8

namespace CXFileOpenFile

def toBytes (m : CXFileOpenFile) : List UInt8 :=
  [m.byOpenType] ++ m.byReserve ++ leBytes 4 m.dwFilePathLen ++ m.szFilePath

def ofBytes (bs : List UInt8) : CXFileOpenFile :=
  ⟨bs.getD 0 0, (bs.drop 1).take 3, leValue ((bs.drop 4).take 4), bs.drop 8⟩

end CXFileOpenFile

namespace CXFileSeek

def toBytes (m : CXFileSeek) : List UInt8 := leBytes 4 m.dwSeekType ++ int64Bytes m.iSeekPos

def ofBytes (bs : List UInt8) : CXFileSeek := ⟨leValue (bs.take 4), int64Value ((bs.drop 4).take 8)⟩

end CXFileSeek

namespace CXFileRead

def toBytes (m : CXFileRead) : List UInt8 :=
  leBytes 4 m.dwSeekType ++ int64Bytes m.iBeginPos ++ leBytes 4 m.dwReadLen

def ofBytes (bs : List UInt8) : CXFileRead :=
  ⟨leValue (bs.take 4), int64Value ((bs.drop 4).take 8), leValue ((bs.drop 12).take 4)⟩

end CXFileRead

namespace CXFileWrite

def toBytes (m : CXFileWrite) : List UInt8 :=
  leBytes 4 m.dwSeekType ++ int64Bytes m.iBeginPos ++ leBytes 4 m.dwDataLen ++ m.szData

def ofBytes (bs : List UInt8) : CXFileWrite :=
  ⟨leValue (bs.take 4), int64Value ((bs.drop 4).take 8), leValue ((bs.drop 12).take 4), bs.drop 16⟩

end CXFileWrite

/-- In `bySendBuf`, of which the rest is zero. -/
structure CXCommonMessageReply where
  dwReplyCode : Nat
  dwValue1 : Nat
  dwValue2 : Nat
  dwDataLen : Nat
  szData : List UInt8

namespace CXCommonMessageReply

def ofCode (dwReplyCode : Nat) : CXCommonMessageReply := ⟨dwReplyCode, 0, 0, 0, []⟩

def ofText (dwReplyCode : Nat) (text : List UInt8) : CXCommonMessageReply :=
  ⟨dwReplyCode, 0, 0, text.length + 1, cString text⟩

/-- `sizeof(CXCommonMessageReply)` -/
def size : Nat := 17

/-- The first bytes of `bySendBuf`. -/
def message (r : CXCommonMessageReply) (dwSendMesLen : Nat) : List UInt8 :=
  (leBytes 4 r.dwReplyCode ++ leBytes 4 r.dwValue1 ++ leBytes 4 r.dwValue2 ++ leBytes 4 r.dwDataLen ++ r.szData ++
    List.replicate (1024 - 16 - r.szData.length) 0).take dwSendMesLen

end CXCommonMessageReply

/-! ### The server -/

/-- What the system answers to one request. `read` and `getSendBuffer` are those of `ReadEnv`. -/
structure FileEnv where
  fd : Int
  /-- of the file that `open` finds or makes -/
  contents : List UInt8
  /-- `st_size` of the path -/
  stat : Option UInt64
  seek₁ : SeekAnswer
  seek₂ : SeekAnswer
  write : Option Nat
  position : SeekAnswer
  read : List (Option Nat)
  getSendBuffer : Bool
  dwError : Nat
  strerror : List UInt8

/-- The file of the object, its `m_bIsOpened` and `m_strFilePath`. -/
structure CXFileRPCServer where
  m_file : CXFile64
  m_bIsOpened : Bool
  m_strFilePath : List UInt8

namespace CXFileRPCServer

/-- `m_file.Close()` -/
def closeHandle (s : CXFileRPCServer) : CXFileRPCServer :=
  if !s.m_bIsOpened then s
  else if s.m_file.m_file ≤ 0 then s
  else { s with m_file := { s.m_file with m_file := -1 }, m_bIsOpened := false }

/-- `O_TRUNC` -/
def truncates (byOpenType : UInt8) : Bool := byOpenType = 1 || byOpenType = 2

/-- `m_file.Open(szFilePath, type, 0, bOpenExisted)`; the last argument is not used. -/
def openHandle (e : FileEnv) (szFilePath : List UInt8) (byOpenType : UInt8) (s : CXFileRPCServer) :
    CXFileRPCServer × Bool :=
  if e.fd ≤ 0 then ({ s with m_file := { s.m_file with m_file := e.fd } }, false)
  else (⟨⟨e.fd, ⟨if truncates byOpenType then [] else e.contents, 0⟩⟩, true, szFilePath⟩, true)

def openFile (e : FileEnv) (pData : CXFileOpenFile) (dwDataLen : Nat) (s : CXFileRPCServer) :
    CXFileRPCServer × CXCommonMessageReply :=
  if pData.dwFilePathLen ≤ 0 ∨ dwDataLen < pData.dwFilePathLen then (s, .ofCode 201)
  else
    match (if s.m_bIsOpened then s.closeHandle else s).openHandle e (pData.szFilePath.takeWhile (· ≠ 0))
      pData.byOpenType with
    | (s, false) => (s, .ofText 202 e.strerror)
    | (s, true) => (s, .ofCode 200)

def closeFile (s : CXFileRPCServer) : CXFileRPCServer × CXCommonMessageReply :=
  (if s.m_bIsOpened then s.closeHandle else s, .ofCode 200)

def closedText : List UInt8 := "The file is closed!\n".toUTF8.toList

/-- Nothing is done for the current position. -/
def seekFile (e : FileEnv) (dwSeekType : Nat) (iSeekPos : Int) (s : CXFileRPCServer) : CXFileRPCServer × Bool :=
  if dwSeekType = 1 ∧ iSeekPos = 0 then (s, true)
  else
    let r := s.m_file.seek iSeekPos (seekTypeOf dwSeekType) (e.stat.map UInt64.toNat) e.seek₁ e.seek₂
    ({ s with m_file := r.1 }, r.2)

def seekText (iSeekPos : Int) (dwSeekType : Nat) : List UInt8 :=
  s!"Failed to seek to a new position {iSeekPos}, seek type is {toInt32 dwSeekType}!".toUTF8.toList

def seek (e : FileEnv) (pData : CXFileSeek) (s : CXFileRPCServer) : CXFileRPCServer × CXCommonMessageReply :=
  if !s.m_bIsOpened then (s, .ofText 412 closedText)
  else
    match s.seekFile e pData.dwSeekType pData.iSeekPos with
    | (s, false) => (s, .ofText 501 (seekText pData.iSeekPos pData.dwSeekType))
    | (s, true) => (s, .ofCode 200)

def writeText (uiPos dwDataLen dwWrittenLen dwError : Nat) : List UInt8 :=
  (s!"Failed to write data to file, in position {toInt64 uiPos}, " ++
    s!"the size needed to write is {toInt32 dwDataLen}, " ++
    s!"had written {toInt32 dwWrittenLen},error code={toInt32 dwError}!").toUTF8.toList

def write (e : FileEnv) (pData : CXFileWrite) (s : CXFileRPCServer) : CXFileRPCServer × CXCommonMessageReply :=
  if !s.m_bIsOpened then (s, .ofText 412 closedText)
  else
    match s.seekFile e pData.dwSeekType pData.iBeginPos with
    | (s, false) => (s, .ofText 501 (seekText pData.iBeginPos pData.dwSeekType))
    | (s, true) =>
      match s.m_file.write (pData.szData.take pData.dwDataLen) e.write with
      | (file, bRet, dwWrittenLen) =>
        if !bRet ∨ dwWrittenLen ≠ pData.dwDataLen then
          match file.getCurrentPosition e.position with
          | (file, _, uiPos) =>
            ({ s with m_file := file }, .ofText 502 (writeText uiPos pData.dwDataLen dwWrittenLen e.dwError))
        else ({ s with m_file := file }, .ofCode 200)

def getFileLength (e : FileEnv) (s : CXFileRPCServer) : CXCommonMessageReply :=
  if !s.m_bIsOpened then .ofText 412 closedText
  else
    match s.m_file.getFileLength (e.stat.map UInt64.toNat) with
    | some uiFileLen => { CXCommonMessageReply.ofCode 200 with
      dwValue1 := uiFileLen / 2 ^ 32 % 2 ^ 32, dwValue2 := uiFileLen % 2 ^ 32 }
    | none => .ofCode 201

/-- The environment of `CXFileRPCServer::Read` in this one. -/
def readEnv (e : FileEnv) (s : CXFileRPCServer) : ReadEnv :=
  ⟨s.m_bIsOpened, e.getSendBuffer, e.read, e.position, e.strerror⟩

/-- `DispatchMes` of a connection with a session: the code and the bytes of the reply, if there is one. -/
def dispatchMes (e : FileEnv) (dwMesCode : Nat) (buf : List UInt8) (s : CXFileRPCServer) :
    CXFileRPCServer × Option (Nat × List UInt8) :=
  match dwMesCode with
  | 7 => (s, some (8, (CXCommonMessageReply.ofCode 200).message CXCommonMessageReply.size))
  | 2001 =>
    let r := s.openFile e (.ofBytes buf) buf.length
    (r.1, some (2002, r.2.message (CXCommonMessageReply.size - 1 + r.2.dwDataLen)))
  | 2003 =>
    let r := s.seek e (.ofBytes buf)
    (r.1, some (2004, r.2.message (r.2.dwDataLen + CXCommonMessageReply.size - 1)))
  | 2005 =>
    match read (s.readEnv e) (CXFileRead.ofBytes buf).dwReadLen s.m_file with
    -- the system calls do not come back
    | none => (s, none)
    | some (file, message) => ({ s with m_file := file }, message.map (2006, ·))
  | 2007 =>
    let r := s.write e (.ofBytes buf)
    (r.1, some (2008, r.2.message (CXCommonMessageReply.size + r.2.dwDataLen)))
  | 2009 => (s.closeFile.1, some (2010, s.closeFile.2.message (CXCommonMessageReply.size + s.closeFile.2.dwDataLen)))
  | 2011 =>
    (s, some (2012, (s.getFileLength e).message ((s.getFileLength e).dwDataLen + CXCommonMessageReply.size - 1)))
  -- there is no case for the current position and for the size of the buffers
  | _ => (s, none)

end CXFileRPCServer

/-! ### The client -/

/-- What becomes of a request and its reply. -/
inductive Transfer
  /-- `SendPacket` fails -/
  | notSent
  /-- the connection breaks before the request arrives -/
  | lost
  /-- the connection breaks after the request has been processed -/
  | replyLost
  | answered
deriving DecidableEq

/-- What `OpenChannel` achieves for the channels that are not connected. -/
inductive ChannelsAnswer
  | connected
  | noMajor
  | noData
deriving DecidableEq

structure OpEnv where
  channels : ChannelsAnswer
  transfer : Transfer
  file : FileEnv
  /-- `SetSendBufferSize` -/
  setSendBufferSize : Bool
  /-- `SetRecvBufferSize` -/
  setRecvBufferSize : Bool
  /-- the `Close` in the operation -/
  closeTransfer : Transfer
  closeFile : FileEnv

inductive FileOp
  | open (strRemoteFilePath : List UInt8) (type : OpenType) (bOpenExisted : Bool)
  | read (iWantReadLen : Nat)
  | write (pBuf : List UInt8) (uiOffset : UInt64) (type : SeekType)
  | seek (pos : Int) (type : SeekType)
  | getFileLength
  | getCurrentPosition
  | setPeerRecvBufSize (dwSize : UInt32)
  | close

/-- `value` is `*piWrittenLen` or `uiFileLength`. -/
structure FileResult where
  iRet : Int
  value : Option Nat
  bytes : List UInt8
deriving DecidableEq

structure RemoteFile where
  m_bIsOpened : Bool
  server : CXFileRPCServer

namespace RemoteFile

/-- `SendPacket` and `RecvPacket`. -/
def exchange (t : Transfer) (e : FileEnv) (dwMesCode : Nat) (message : List UInt8) (s : CXFileRPCServer) :
    CXFileRPCServer × Except Int (Nat × List UInt8) :=
  match t with
  | .notSent => (s, .error (-3))
  | .lost => (s, .error (-4))
  | .replyLost => ((s.dispatchMes e dwMesCode message).1, .error (-4))
  | .answered =>
    ((s.dispatchMes e dwMesCode message).1,
      match (s.dispatchMes e dwMesCode message).2 with
      | some reply => .ok reply
      | none => .error (-4))

/-- The tests of a reply, which has to fit into `m_byPacketData`. -/
def replyOf (dwReplyMesCode : Nat) : Except Int (Nat × List UInt8) → Except Int (List UInt8)
  | .error iRet => .error iRet
  | .ok (dwMesCode, payload) =>
    if 4096 < payload.length then .error (-4)
    else if dwMesCode ≠ dwReplyMesCode then .error (-5)
    else if leValue (payload.take 4) ≠ 200 then .error (-6)
    else .ok payload

/-- One request with its reply. -/
def ask (t : Transfer) (e : FileEnv) (dwMesCode : Nat) (message : List UInt8) (s : CXFileRPCServer) :
    CXFileRPCServer × Except Int (List UInt8) :=
  ((exchange t e dwMesCode message s).1, replyOf (dwMesCode + 1) (exchange t e dwMesCode message s).2)

/-- `Close`, which does not depend on the reply. -/
def close (t : Transfer) (e : FileEnv) (r : RemoteFile) : RemoteFile × FileResult :=
  if !r.m_bIsOpened then (r, ⟨0, none, []⟩)
  else
    match ask t e 2009 (List.replicate 9 0) r.server with
    | (s, .error iRet) => (⟨false, s⟩, ⟨iRet, none, []⟩)
    | (s, .ok _) => (⟨false, s⟩, ⟨0, none, []⟩)

/-- An operation that fails with the client open. -/
def fail (c : OpEnv) (s : CXFileRPCServer) (res : FileResult) : RemoteFile × FileResult :=
  ((close c.closeTransfer c.closeFile ⟨true, s⟩).1, res)

/-- The operations that send a request, test the reply and call `Close` where something is wrong. -/
def request (c : OpEnv) (dwMesCode : Nat) (message : List UInt8) (value : List UInt8 → Option Nat) (r : RemoteFile) :
    RemoteFile × FileResult :=
  match ask c.transfer c.file dwMesCode message r.server with
  | (s, .error iRet) => fail c s ⟨iRet, none, []⟩
  | (s, .ok payload) => (⟨true, s⟩, ⟨0, value payload, []⟩)

/-- The path with the terminating zero. -/
def openMessage (strRemoteFilePath : List UInt8) (type : OpenType) (bOpenExisted : Bool) : CXFileOpenFile :=
  ⟨type.value, [if bOpenExisted then 1 else 0, 0, 0], strRemoteFilePath.length + 1, cString strRemoteFilePath⟩

/-- `Open` with the server's address and user set. `m_strRemoteFilePath` is never set, so an open client is closed. -/
def openFile (c : OpEnv) (strRemoteFilePath : List UInt8) (type : OpenType) (bOpenExisted : Bool) (r : RemoteFile) :
    RemoteFile × FileResult :=
  if strRemoteFilePath = [] then (r, ⟨-1, none, []⟩)
  else
    let r := (r.close c.closeTransfer c.closeFile).1
    match c.channels with
    | .noMajor => (r, ⟨-3, none, []⟩)
    | .noData => (r, ⟨-4, none, []⟩)
    | .connected =>
      match ask c.transfer c.file 2001 (openMessage strRemoteFilePath type bOpenExisted).toBytes r.server with
      -- both channels are closed
      | (s, .error iRet) => (⟨false, s⟩, ⟨iRet - 2, none, []⟩)
      | (s, .ok _) => (⟨true, s⟩, ⟨0, none, []⟩)

/-- The request is sent before the buffer for its reply is there. -/
def read (c : OpEnv) (iWantReadLen : Nat) (r : RemoteFile) : RemoteFile × FileResult :=
  if !r.m_bIsOpened then (r, ⟨-2, none, []⟩)
  else if c.transfer ≠ .notSent ∧ c.setRecvBufferSize = false then
    (⟨true, (exchange c.transfer c.file 2005 (CXFileRead.toBytes ⟨1, 0, iWantReadLen⟩) r.server).1⟩, ⟨-6, none, []⟩)
  else
    match exchange c.transfer c.file 2005 (CXFileRead.toBytes ⟨1, 0, iWantReadLen⟩) r.server with
    | (s, .error iRet) => fail c s ⟨iRet, none, []⟩
    | (s, .ok (_, message)) =>
      let res := CXFileTcpClient.readReply iWantReadLen
        (CXFileTcpClient.packetOf CXFileTcpClient.anyGuid CXFileTcpClient.anyGuid message)
        r.server.m_file.file.offset
      if res.bOpened then (⟨true, s⟩, ⟨res.iRet, none, res.bytes⟩) else fail c s ⟨res.iRet, none, res.bytes⟩

def write (c : OpEnv) (pBuf : List UInt8) (uiOffset : UInt64) (type : SeekType) (r : RemoteFile) :
    RemoteFile × FileResult :=
  if !r.m_bIsOpened then (r, ⟨-2, none, []⟩)
  else if !c.setSendBufferSize then (r, ⟨-7, none, []⟩)
  else
    r.request c 2007 (CXFileWrite.toBytes ⟨type.value, toInt64 uiOffset.toNat, pBuf.length, pBuf⟩) fun _ =>
      some pBuf.length

def seek (c : OpEnv) (pos : Int) (type : SeekType) (r : RemoteFile) : RemoteFile × FileResult :=
  if !r.m_bIsOpened then (r, ⟨-2, none, []⟩)
  else r.request c 2003 (CXFileSeek.toBytes ⟨type.value, pos⟩) fun _ => none

/-- `dwValue1` and `dwValue2` as one `uint64`. -/
def twoWords (payload : List UInt8) : Nat :=
  leValue ((payload.drop 4).take 4) * 2 ^ 32 + leValue ((payload.drop 8).take 4)

/-- A closed client succeeds without a length. -/
def getFileLength (c : OpEnv) (r : RemoteFile) : RemoteFile × FileResult :=
  if !r.m_bIsOpened then (r, ⟨0, none, []⟩)
  else r.request c 2011 (List.replicate 12 0) fun payload => some (twoWords payload)

def getCurrentPosition (c : OpEnv) (r : RemoteFile) : RemoteFile × FileResult :=
  if !r.m_bIsOpened then (r, ⟨-2, none, []⟩)
  else r.request c 2013 [] fun payload => some (twoWords payload)

/-- Without a test whether the client is open. -/
def setPeerRecvBufSize (c : OpEnv) (dwSize : UInt32) (r : RemoteFile) : RemoteFile × FileResult :=
  match ask c.transfer c.file 9 ([0, 0, 0, 0] ++ leBytes 4 dwSize.toNat ++ List.replicate 9 0) r.server with
  | (s, .error iRet) => ((close c.closeTransfer c.closeFile ⟨r.m_bIsOpened, s⟩).1, ⟨iRet, none, []⟩)
  | (s, .ok _) => (⟨r.m_bIsOpened, s⟩, ⟨0, none, []⟩)

def step (c : OpEnv) (r : RemoteFile) : FileOp → RemoteFile × FileResult
  | .open strRemoteFilePath type bOpenExisted => r.openFile c strRemoteFilePath type bOpenExisted
  | .read iWantReadLen => r.read c iWantReadLen
  | .write pBuf uiOffset type => r.write c pBuf uiOffset type
  | .seek pos type => r.seek c pos type
  | .getFileLength => r.getFileLength c
  | .getCurrentPosition => r.getCurrentPosition c
  | .setPeerRecvBufSize dwSize => r.setPeerRecvBufSize c dwSize
  | .close => r.close c.transfer c.file

/-- A `Read` that has not received its reply; every other -6 closes the client. -/
def unread (r : RemoteFile) (res : FileResult) : Bool := res.iRet = -6 && r.m_bIsOpened

/-- The results of a run of operations, up to a reply that stays on the channel: the next operation there would take
it for its own. -/
def run (r : RemoteFile) : List (OpEnv × FileOp) → RemoteFile × List FileResult
  | [] => (r, [])
  | (c, op) :: ops =>
    if unread (r.step c op).1 (r.step c op).2 then ((r.step c op).1, [(r.step c op).2])
    else (((r.step c op).1.run ops).1, (r.step c op).2 :: ((r.step c op).1.run ops).2)

end RemoteFile

end KonsanNet
