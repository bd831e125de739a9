import KonsanNet.Blocks
import KonsanNet.FileDownload

/-!
# The reply to a proxied read (`CXStorageRPCClient::OnRead`, `CXFileRPCProxyServer::ReadReply`)

The reply of the storage server is a message in memory; `CXRPCReply` carries a pointer to its data to
`ReadReply`, which copies the data into a send buffer and sends it to the client. Before that `OnRead` ends the
text of an error reply with a zero, in the message. Lengths and codes are those that the storage server has
written.

`CXRPCReply`'s pointer is an offset in the message. `ReplyRequester` and `ReceiveInternalReplyData` are taken to
find the object and the state of a request that `PopRequest` has found; which one they find is the matter of
`ProxyRequests`.
-/

namespace KonsanNet

/-- The objects that `OnRead` and `ReadReply` have pointers to: `pMes->bodyData`, `bySendBuf` and the
`CXBufferObj`. -/
inductive ReplyObject
  | bodyData
  | bySendBuf
  | pCXBuf
deriving DecidableEq

structure ProxyReadEnv where
  /-- whether there is a request with the id -/
  popRequest : List UInt8 → Bool
  /-- `GetBuffer` with a size; the bytes of a new buffer are arbitrary -/
  getBuffer : Nat → Option (Nat → UInt8)
  /-- what `sprintf_s` makes of a format with conversions and no arguments -/
  printf : List UInt8 → List UInt8
  /-- what is behind the objects -/
  beyond : ReplyObject → Nat → UInt8

/-- `CX_BUF_SIZE - sizeof(CXFileReadReply) - 1` -/
def leftDataLen : Nat := cxBufSize - (readReplyLen + 1) - 1

/-- What `sprintf_s(szData, dwLeftDataLen, …)` writes for a text. -/
def sprintfText (text : List UInt8) : List UInt8 := text.take (leftDataLen - 1) ++ [0]

structure RPCReply where
  strReplyContent : List UInt8
  dwReplyCode : Nat
  pbyReplyData : Nat
  dwReplyDataLen : Nat

namespace CXStorageRPCClient

/-- `OnRead` up to `ReplyRequester`. -/
def onRead (env : ProxyReadEnv) (mem : Blocks ReplyObject) (dwMesLen : Nat) :
    Blocks ReplyObject × Option RPCReply :=
  let (mem, byRequestID) := mem.load .bodyData 16 16
  if env.popRequest byRequestID then
    let dwDataLen := (dwMesLen + 2 ^ 32 - bodyDataLen) % 2 ^ 32
    let (mem, dwReplyCode) := mem.load .bodyData bodyDataLen 4
    let (mem, dwReplyDataLen) := mem.load .bodyData (bodyDataLen + 4) 4
    let reply : RPCReply := ⟨[], leValue dwReplyCode, bodyDataLen + readReplyLen, leValue dwReplyDataLen⟩
    -- the difference is a `size_t`
    if reply.dwReplyCode ≠ 200 ∧ 0 < reply.dwReplyDataLen ∧
        reply.dwReplyDataLen = (dwDataLen + 2 ^ 64 - readReplyLen) % 2 ^ 64 then
      let mem := mem.store .bodyData (reply.pbyReplyData + (reply.dwReplyDataLen - 1)) [0]
      let (mem, szData) := mem.load .bodyData reply.pbyReplyData reply.dwReplyDataLen
      (mem, some { reply with strReplyContent := cText szData })
    else (mem, some reply)
  else (mem, none)

end CXStorageRPCClient

namespace CXFileRPCProxyServer

/-- A text with its code in `bySendBuf`, and what of it is sent. -/
def sendText (mem : Blocks ReplyObject) (dwReplyCode : Nat) (text : List UInt8) :
    Blocks ReplyObject × List UInt8 :=
  let szData := sprintfText text
  let dwDataLen := (cText szData).length + 1
  let mem := mem.store .bySendBuf 0 (leBytes 4 dwReplyCode)
  let mem := mem.store .bySendBuf readReplyLen szData
  let mem := mem.store .bySendBuf 4 (leBytes 4 dwDataLen)
  mem.load .bySendBuf 0 (readReplyLen + dwDataLen)

/-- `iSendBufLen`, as the `DWORD` that `GetSendCXBufferObj` gets -/
def sendBufLen (dwReplyDataLen : Nat) : Nat := (dwReplyDataLen + readReplyLen) % 2 ^ 32

/-- `dwBufSize` of `GetSendCXBufferObj` -/
def bufSize (dwReplyDataLen : Nat) : Nat := (sendBufLen dwReplyDataLen + bufferObjLen + packetDataLen) % 2 ^ 32

def allocateText (dwReplyDataLen : Nat) : List UInt8 :=
  let iSendBufLen := toInt32 (sendBufLen dwReplyDataLen)
  s!"Failed to read data,an error occur in allocating memory {iSendBufLen} bytes".toUTF8.toList

/-- The send buffer filled with the reply, and what of it is sent. -/
def sendData (mem : Blocks ReplyObject) (rpcReply : RPCReply) : Blocks ReplyObject × List UInt8 :=
  let pBufSend := bufferObjLen + packetDataLen
  let mem := mem.store .pCXBuf pBufSend (leBytes 4 rpcReply.dwReplyCode)
  let mem := mem.store .pCXBuf (pBufSend + 4) (leBytes 4 rpcReply.dwReplyDataLen)
  let mem :=
    if 0 < rpcReply.dwReplyDataLen then
      let (mem, data) := mem.load .bodyData rpcReply.pbyReplyData rpcReply.dwReplyDataLen
      mem.store .pCXBuf (pBufSend + readReplyLen) data
    else mem
  mem.load .pCXBuf pBufSend ((rpcReply.dwReplyDataLen + readReplyLen) % 2 ^ 32)

/-- `ReadReply`: the message that `SendPacket` gets. A content with `%` in it is a format. -/
def readReply (env : ProxyReadEnv) (mem : Blocks ReplyObject) (rpcReply : RPCReply) :
    Blocks ReplyObject × List UInt8 :=
  let mem := mem.create .bySendBuf (List.replicate cxBufSize 0)
  if rpcReply.dwReplyCode = 503 then
    sendText mem 404
      (if 37 ∈ rpcReply.strReplyContent then env.printf rpcReply.strReplyContent else rpcReply.strReplyContent)
  else
    match env.getBuffer (bufSize rpcReply.dwReplyDataLen) with
    | none => sendText mem 203 (allocateText rpcReply.dwReplyDataLen)
    | some fill =>
      sendData (mem.create .pCXBuf ((List.range (bufSize rpcReply.dwReplyDataLen)).map fill)) rpcReply

end CXFileRPCProxyServer

/-- The memory when a message has come. -/
def receivedMes (env : ProxyReadEnv) (mes : List UInt8) : Blocks ReplyObject where
  bytes
    | .bodyData => mes
    | .bySendBuf | .pCXBuf => []
  beyond := env.beyond
  outside := 0

/-- A message of the storage server, from `OnRead` to the reply that is sent. -/
def proxyRead (env : ProxyReadEnv) (mes : List UInt8) : Blocks ReplyObject × Option (List UInt8) :=
  let (mem, reply) := CXStorageRPCClient.onRead env (receivedMes env mes) mes.length
  match reply with
  | none => (mem, none)
  | some rpcReply =>
    let r := CXFileRPCProxyServer.readReply env mem rpcReply
    (r.1, some r.2)

/-! ### What it is for -/

/-- A reply as its receiver reads it. -/
structure CXFileReadReply where
  dwReplyCode : Nat
  dwDataLen : Nat
  szData : List UInt8
deriving DecidableEq

def CXFileReadReply.ofBytes (buf : List UInt8) : CXFileReadReply where
  dwReplyCode := leValue (buf.take 4)
  dwDataLen := leValue ((buf.drop 4).take 4)
  szData := (buf.drop readReplyLen).take (leValue ((buf.drop 4).take 4))

/-- The reply in a message of the storage server. -/
def storageReply (mes : List UInt8) : CXFileReadReply := .ofBytes (mes.drop bodyDataLen)

/-- The message is as long as its reply says. -/
def Consistent (mes : List UInt8) : Prop := mes.length = bodyDataLen + readReplyLen + (storageReply mes).dwDataLen

instance (mes : List UInt8) : Decidable (Consistent mes) := inferInstanceAs (Decidable (_ = _))

/-- The client gets the reply of the storage server; if that one is not consistent, no access is outside the
objects. -/
def Transparent (env : ProxyReadEnv) (mes : List UInt8) : Prop :=
  if Consistent mes then (proxyRead env mes).2.map CXFileReadReply.ofBytes = some (storageReply mes)
  else (proxyRead env mes).1.outside = 0

/-- The reply of `ReadReply` when there is no buffer. -/
def allocateReply (dwDataLen : Nat) : CXFileReadReply :=
  let text := cText (sprintfText (CXFileRPCProxyServer.allocateText dwDataLen))
  ⟨203, text.length + 1, text ++ [0]⟩

/-- A reply that `OnRead` and `ReadReply` pass on as it is: there is a buffer for it, 503 is not its code, and with
another code than 200 its data end with a zero. -/
def PassedOn (env : ProxyReadEnv) (mes : List UInt8) : Prop :=
  let reply := storageReply mes
  if (env.getBuffer (CXFileRPCProxyServer.bufSize reply.dwDataLen)).isSome then
    reply.dwReplyCode ≠ 503 ∧ (reply.dwReplyCode = 200 ∨ reply.dwDataLen = 0 ∨ reply.szData.getLast? = some 0)
  else reply = allocateReply reply.dwDataLen

/-- A reply whose copy stays within the message: the message has both lengths, and they are not used, or there
are as many bytes of data as the reply says. -/
def Contained (env : ProxyReadEnv) (mes : List UInt8) : Prop :=
  let reply := storageReply mes
  bodyDataLen + readReplyLen ≤ mes.length ∧
    (reply.dwReplyCode = 503 ∨ (env.getBuffer (CXFileRPCProxyServer.bufSize reply.dwDataLen)).isNone ∨
      bodyDataLen + readReplyLen + reply.dwDataLen ≤ mes.length)

end KonsanNet
