import KonsanNet.RPCObjects
import Mathlib.Tactic

/-!
# An RPC object that is used again (`CXRPCObjectServer`, `CXRPCObjectClientInServer`, `CXStorageRPCClient`,
`CXFileRPCProxyServer`)

`GetFreeObject` takes an object from the free list, which its `Destroy` was called for, and calls `Init`; or it
makes one with `CreateObject` and calls `Init`. The constructor of a class looks up the class guid; `Reset`,
which `Destroy` ends with, clears its bytes, and `Init` does not look it up again (`not_likeNew_recycled`). What
else is left of the former use is said by `rest_recycled_iff`.
-/

namespace KonsanNet

/-- What the digits are, read as one number, by the values of the single ones. -/
def hexNumber (digit : Char → Nat) (cs : List Char) : Nat := cs.foldl (fun n c => 16 * n + digit c) 0

namespace Recycle

/-! ### Guids -/

def hexDigit (c : Char) : Nat :=
  if c.isDigit then c.toNat - '0'.toNat else c.toNat - 'A'.toNat + 10

/-- `memcpy` of a number of `k` bytes. -/
def littleEndian (k n : Nat) : List Nat := (List.range k).map fun i => n / 256 ^ i % 256

/-- `ConvertGuid(strGuid, pbyGuid)`, for a text `{XXXXXXXX-XXXX-XXXX-XXXX-XXXXXXXXXXXX}`. -/
def convertGuid (strGuid : String) : List Nat :=
  let field (i n : Nat) := hexNumber hexDigit ((strGuid.toList.drop i).take n)
  littleEndian 4 (field 1 8) ++ littleEndian 2 (field 10 4) ++ littleEndian 2 (field 15 4) ++
    [field 20 2, field 22 2, field 25 2, field 27 2, field 29 2, field 31 2, field 33 2, field 35 2]

def g_mapRPCObjectGuid : List (String × String) :=
  [("CXHeartBeatV1", "\x7bFE66615A-E22B-4A3D-936D-61EEDEDA2080\x7d"),
    ("CXConnectionLoginV1", "\x7b6E34084E-970B-427F-A973-2763A19D7C07\x7d"),
    ("CXRPCObjectV1", "\x7b2A3E8648-A997-4457-947C-23ABA77D815D\x7d"),
    ("CXFileTcpV1", "\x7bA888441E-F757-4775-B69A-CCEBD63156FB\x7d"),
    ("CXStorageTcpV1", "\x7bD2753C32-37A1-47F7-A1E0-7F4CAC074B47\x7d"),
    ("CXUnknownObjectV1", "\x7b0307F567-72FC-4355-8192-9E37DC766D2E\x7d")]

/-- `memset(.., 0, CX_GUID_LEN)` -/
def noGuid : List Nat := List.replicate 16 0

/-! ### `CXRPCObjectServer` -/

/-- The members of `CXRPCObjectServer`; the states of `m_mapStateMachine` are named by numbers. -/
structure ObjectServer where
  bIsUsing : Bool
  strClassGuid : String
  strObjectGuid : String
  byClassGuid : List Nat
  byObjectGuid : List Nat
  bIsUniqueInstance : Bool
  bContinuousObject : Bool
  /-- whether `m_pComServer` is set -/
  bComServer : Bool
  bNeedToDestroy : Bool
  mapStateMachine : StrMap (List Nat)

namespace ObjectServer

/-- `CXRPCObjectServer()` -/
def construct : ObjectServer where
  bIsUsing := false
  strClassGuid := ""
  strObjectGuid := ""
  byClassGuid := noGuid
  byObjectGuid := noGuid
  bIsUniqueInstance := false
  bContinuousObject := false
  bComServer := false
  bNeedToDestroy := false
  mapStateMachine := ∅

def getClassGuid (strName : String) (o : ObjectServer) : ObjectServer :=
  match g_mapRPCObjectGuid.find? fun e => e.1 = strName with
  | some e => { o with strClassGuid := e.2, byClassGuid := convertGuid e.2 }
  | none => o

/-- `Init`, which generates `guid`. -/
def init (guid : String) (o : ObjectServer) : ObjectServer :=
  if o.bIsUniqueInstance then o
  else { o with strObjectGuid := guid, byObjectGuid := convertGuid guid, bIsUsing := true }

def reset (o : ObjectServer) : ObjectServer :=
  { o with
    strObjectGuid := ""
    byObjectGuid := noGuid
    byClassGuid := noGuid
    bIsUsing := false
    bNeedToDestroy := false }

def pushState (strPacketGuid : String) (state : Nat) (o : ObjectServer) : ObjectServer :=
  match o.mapStateMachine.lookup strPacketGuid with
  | some deque => { o with mapStateMachine := o.mapStateMachine.insert strPacketGuid (deque ++ [state]) }
  | none => { o with mapStateMachine := o.mapStateMachine.insert strPacketGuid [state] }

def popState (strPacketGuid : String) (o : ObjectServer) : ObjectServer :=
  match o.mapStateMachine.lookup strPacketGuid with
  | some deque =>
    { o with
      mapStateMachine :=
        if deque.dropLast = [] then o.mapStateMachine.erase strPacketGuid
        else o.mapStateMachine.insert strPacketGuid deque.dropLast }
  | none => o

end ObjectServer

/-! ### `CXRPCObjectClientInServer`, `CXStorageRPCClient` -/

/-- A request is named by its number. -/
structure ObjectClientInServer extends ObjectServer where
  strRemoteIp : String
  wRemotePort : Nat
  pAttachedConnection : Option Nat
  pAttachedSession : Option Nat
  mapRequests : StrMap Nat
  bAlignedIDWithServer : Bool

namespace ObjectClientInServer

/-- `CXRPCObjectClientInServer()` -/
def construct : ObjectClientInServer :=
  { ObjectServer.construct with
    strRemoteIp := ""
    wRemotePort := 0
    pAttachedConnection := none
    pAttachedSession := none
    mapRequests := ∅
    bAlignedIDWithServer := false }

/-- `Create`; `GetProxyConnection` returns `con`, and its session is `session`. -/
def create (strRemoteIp : String) (wRemotePort : Nat) (con session : Option Nat) (o : ObjectClientInServer) :
    ObjectClientInServer :=
  if o.bComServer = false then o
  else if o.pAttachedConnection ≠ none then { o with strRemoteIp := strRemoteIp, wRemotePort := wRemotePort }
  else if con = none then o
  else if session = none then { o with pAttachedConnection := con, pAttachedSession := none }
  else
    { o with
      pAttachedConnection := con
      pAttachedSession := session
      strRemoteIp := strRemoteIp
      wRemotePort := wRemotePort }

def unCreate (o : ObjectClientInServer) : ObjectClientInServer :=
  if o.bComServer then { o with pAttachedConnection := none } else o

/-- `SendPacketData` with valid parameters: the request is pushed, and popped again where the packet is not sent. -/
def sendPacketData (strRequestID : String) (request : Nat) (bSent : Bool) (o : ObjectClientInServer) :
    ObjectClientInServer :=
  if o.pAttachedConnection = none then o
  else
    let o := if strRequestID ∈ o.mapRequests then o
      else { o with mapRequests := o.mapRequests.insert strRequestID request }
    if bSent then o else { o with mapRequests := o.mapRequests.erase strRequestID }

end ObjectClientInServer

structure StorageRPCClient extends ObjectClientInServer where
  strCurrentFilePath : String
  bIsOpened : Bool

namespace StorageRPCClient

/-- `CXStorageRPCClient()` -/
def construct : StorageRPCClient :=
  { ObjectClientInServer.construct with
    toObjectServer := { ObjectServer.construct.getClassGuid "CXStorageTcpV1" with bContinuousObject := true }
    strCurrentFilePath := ""
    bIsOpened := false }

/-- `OnOpen`, `OnClose` (`bOpened` is what they set on success) and the other functions for a reply: the request is
popped. -/
def onReply (strRequestID : String) (bOpened : Option Bool) (dwReplyCode : Nat) (o : StorageRPCClient) :
    StorageRPCClient :=
  if strRequestID ∈ o.mapRequests then
    { o with
      mapRequests := o.mapRequests.erase strRequestID
      bIsOpened := if dwReplyCode = 200 then bOpened.getD o.bIsOpened else o.bIsOpened }
  else o

def init (guid : String) (o : StorageRPCClient) : StorageRPCClient :=
  { o with toObjectServer := o.toObjectServer.init guid }

def destroy (o : StorageRPCClient) : StorageRPCClient :=
  let o : StorageRPCClient := { o with strCurrentFilePath := "" }
  let o : StorageRPCClient := { o with toObjectClientInServer := o.toObjectClientInServer.unCreate }
  { o with toObjectServer := o.toObjectServer.reset }

inductive Op
  | init (guid : String)
  | setCommunicationServer (bSet : Bool)
  | create (strRemoteIp : String) (wRemotePort : Nat) (con session : Option Nat)
  | sendPacketData (strRequestID : String) (request : Nat) (bSent : Bool)
  | onReply (strRequestID : String) (bOpened : Option Bool) (dwReplyCode : Nat)
  | setAlignedIDWithServer (bSet : Bool)
  | setNeedToDestroy (bSet : Bool)
  | receiveInternalReplyData (strRequestID : String)
  | unCreate
  | destroy

def apply (o : StorageRPCClient) : Op → StorageRPCClient
  | .init guid => o.init guid
  | .setCommunicationServer bSet => { o with bComServer := bSet }
  | .create strRemoteIp wRemotePort con session =>
    { o with toObjectClientInServer := o.toObjectClientInServer.create strRemoteIp wRemotePort con session }
  | .sendPacketData strRequestID request bSent =>
    { o with toObjectClientInServer := o.toObjectClientInServer.sendPacketData strRequestID request bSent }
  | .onReply strRequestID bOpened dwReplyCode => o.onReply strRequestID bOpened dwReplyCode
  | .setAlignedIDWithServer bSet => { o with bAlignedIDWithServer := bSet }
  | .setNeedToDestroy bSet => { o with bNeedToDestroy := bSet }
  | .receiveInternalReplyData strRequestID => { o with toObjectServer := o.toObjectServer.popState strRequestID }
  | .unCreate => { o with toObjectClientInServer := o.toObjectClientInServer.unCreate }
  | .destroy => o.destroy

/-- The flags, the connection and the maps are those of `new`. -/
structure Rest (o new : StorageRPCClient) : Prop where
  opened : o.bIsOpened = new.bIsOpened
  aligned : o.bAlignedIDWithServer = new.bAlignedIDWithServer
  connection : o.pAttachedConnection = new.pAttachedConnection
  session : o.pAttachedSession = new.pAttachedSession
  requests : o.mapRequests = new.mapRequests
  states : o.mapStateMachine = new.mapStateMachine

structure LikeNew (o new : StorageRPCClient) : Prop extends Rest o new where
  classGuid : o.byClassGuid = new.byClassGuid

end StorageRPCClient

/-! ### `CXFileRPCProxyServer` -/

structure FileRPCProxyServer extends ObjectServer where
  strCurrentFilePath : String
  bFileOpened : Bool
  pStorageObj : Option Nat

namespace FileRPCProxyServer

/-- `CXFileRPCProxyServer()` -/
def construct : FileRPCProxyServer :=
  { ObjectServer.construct.getClassGuid "CXFileTcpV1" with
    bContinuousObject := true
    strCurrentFilePath := ""
    bFileOpened := false
    pStorageObj := none }

def init (guid : String) (o : FileRPCProxyServer) : FileRPCProxyServer :=
  { o with toObjectServer := o.toObjectServer.init guid }

def destroy (o : FileRPCProxyServer) : FileRPCProxyServer :=
  let o : FileRPCProxyServer :=
    { o with
      strCurrentFilePath := ""
      bFileOpened := false
      pStorageObj := if o.bComServer then none else o.pStorageObj }
  { o with toObjectServer := o.toObjectServer.reset }

/-- `openFile` is `OpenFile` up to `PushState`, `replyClient` the answer to it. -/
inductive Op
  | init (guid : String)
  | setCommunicationServer (bSet : Bool)
  | openFile (szFilePath : String) (storageObj : Option Nat)
  | pushState (strRequestID : String) (state : Nat)
  | popState (strRequestID : String)
  | replyClient (dwReplyCode : Nat)
  | closeFileReply
  | setNeedToDestroy (bSet : Bool)
  | destroy

def apply (o : FileRPCProxyServer) : Op → FileRPCProxyServer
  | .init guid => o.init guid
  | .setCommunicationServer bSet => { o with bComServer := bSet }
  | .openFile szFilePath storageObj =>
    { o with
      strCurrentFilePath := szFilePath
      pStorageObj := if o.pStorageObj = none then storageObj else o.pStorageObj }
  | .pushState strRequestID state => { o with toObjectServer := o.toObjectServer.pushState strRequestID state }
  | .popState strRequestID => { o with toObjectServer := o.toObjectServer.popState strRequestID }
  | .replyClient dwReplyCode => { o with bFileOpened := o.bFileOpened || dwReplyCode = 200 }
  | .closeFileReply =>
    { o with
      pStorageObj := if o.bComServer then none else o.pStorageObj
      strCurrentFilePath := ""
      bFileOpened := false }
  | .setNeedToDestroy bSet => { o with bNeedToDestroy := bSet }
  | .destroy => o.destroy

/-- The flag and the map are those of `new`. -/
structure Rest (o new : FileRPCProxyServer) : Prop where
  opened : o.bFileOpened = new.bFileOpened
  states : o.mapStateMachine = new.mapStateMachine

structure LikeNew (o new : FileRPCProxyServer) : Prop extends Rest o new where
  classGuid : o.byClassGuid = new.byClassGuid

end FileRPCProxyServer

/-! ### What is left of the former use -/

variable {guid guid' : String}

@[simp] theorem byClassGuid_init (o : ObjectServer) : (o.init guid).byClassGuid = o.byClassGuid := by
  unfold ObjectServer.init
  split <;> rfl

@[simp] theorem mapStateMachine_init (o : ObjectServer) : (o.init guid).mapStateMachine = o.mapStateMachine := by
  unfold ObjectServer.init
  split <;> rfl

theorem StorageRPCClient.byClassGuid_construct : construct.byClassGuid =
    [0x32, 0x3C, 0x75, 0xD2, 0xA1, 0x37, 0xF7, 0x47, 0xA1, 0xE0, 0x7F, 0x4C, 0xAC, 0x07, 0x4B, 0x47] := by
  decide +kernel

theorem FileRPCProxyServer.byClassGuid_construct : construct.byClassGuid =
    [0x1E, 0x44, 0x88, 0xA8, 0x57, 0xF7, 0x75, 0x47, 0xB6, 0x9A, 0xCC, 0xEB, 0xD6, 0x31, 0x56, 0xFB] := by
  decide +kernel

theorem StorageRPCClient.byClassGuid_recycled (o : StorageRPCClient) : (o.destroy.init guid).byClassGuid = noGuid :=
  byClassGuid_init _

theorem FileRPCProxyServer.byClassGuid_recycled (o : FileRPCProxyServer) :
    (o.destroy.init guid).byClassGuid = noGuid :=
  byClassGuid_init _

theorem StorageRPCClient.connection_destroy (o : StorageRPCClient) :
    o.destroy.pAttachedConnection = none ↔ o.bComServer = true ∨ o.pAttachedConnection = none := by
  show o.toObjectClientInServer.unCreate.pAttachedConnection = none ↔ _
  unfold ObjectClientInServer.unCreate
  cases hcom : o.bComServer with
  | true => simp
  | false => simp

/-- What `Destroy` leaves alone of the members that a storage object has besides those of the base class. -/
theorem StorageRPCClient.frame_destroy (o : StorageRPCClient) :
    o.destroy.bIsOpened = o.bIsOpened ∧ o.destroy.bAlignedIDWithServer = o.bAlignedIDWithServer ∧
      o.destroy.pAttachedSession = o.pAttachedSession ∧ o.destroy.mapRequests = o.mapRequests ∧
      o.destroy.mapStateMachine = o.mapStateMachine := by
  unfold StorageRPCClient.destroy ObjectClientInServer.unCreate
  dsimp only
  split <;> exact ⟨rfl, rfl, rfl, rfl, rfl⟩

/-- Besides the class guid, a storage object is like a new one if the former use has closed the file and has left no
request, no state, no session and no id of the server. -/
theorem StorageRPCClient.rest_recycled_iff (o : StorageRPCClient) :
    Rest (o.destroy.init guid) (construct.init guid') ↔
      o.bIsOpened = false ∧ o.bAlignedIDWithServer = false ∧ (o.bComServer = true ∨ o.pAttachedConnection = none) ∧
        o.pAttachedSession = none ∧ o.mapRequests = ∅ ∧ o.mapStateMachine = ∅ := by
  obtain ⟨hopened, haligned, hsession, hrequests, hstates⟩ := o.frame_destroy
  have hleft : (o.destroy.init guid).mapStateMachine = o.mapStateMachine := (mapStateMachine_init _).trans hstates
  have hnew : (construct.init guid').mapStateMachine = ∅ := mapStateMachine_init _
  rw [← o.connection_destroy, ← hopened, ← haligned, ← hsession, ← hrequests, ← hleft, ← hnew]
  constructor
  · intro h
    exact ⟨h.opened, h.aligned, h.connection, h.session, h.requests, h.states⟩
  · rintro ⟨ho, ha, hc, hs, hr, hm⟩
    exact ⟨ho, ha, hc, hs, hr, hm⟩

/-- Besides the class guid, a file proxy is like a new one if the former use has left no state. -/
theorem FileRPCProxyServer.rest_recycled_iff (o : FileRPCProxyServer) :
    Rest (o.destroy.init guid) (construct.init guid') ↔ o.mapStateMachine = ∅ := by
  have hleft : (o.destroy.init guid).mapStateMachine = o.mapStateMachine := mapStateMachine_init _
  have hnew : (construct.init guid').mapStateMachine = ∅ := mapStateMachine_init _
  rw [← hleft, ← hnew]
  exact ⟨fun h => h.states, fun h => ⟨rfl, h⟩⟩

/-- For every run of operations: an object that is destroyed and initialised again has lost the bytes of its class
guid. -/
theorem not_likeNew_recycled (guid guid' : String) :
    (∀ ops : List StorageRPCClient.Op, ¬ StorageRPCClient.LikeNew
      ((ops.foldl StorageRPCClient.apply StorageRPCClient.construct).destroy.init guid)
      (StorageRPCClient.construct.init guid')) ∧
    ∀ ops : List FileRPCProxyServer.Op, ¬ FileRPCProxyServer.LikeNew
      ((ops.foldl FileRPCProxyServer.apply FileRPCProxyServer.construct).destroy.init guid)
      (FileRPCProxyServer.construct.init guid') := by
  constructor
  · intro ops h
    have hguid := h.classGuid
    rw [StorageRPCClient.byClassGuid_recycled] at hguid
    have hnew : (StorageRPCClient.construct.init guid').byClassGuid = StorageRPCClient.construct.byClassGuid :=
      byClassGuid_init _
    rw [hnew, StorageRPCClient.byClassGuid_construct] at hguid
    exact absurd hguid (by decide)
  · intro ops h
    have hguid := h.classGuid
    rw [FileRPCProxyServer.byClassGuid_recycled] at hguid
    have hnew : (FileRPCProxyServer.construct.init guid').byClassGuid = FileRPCProxyServer.construct.byClassGuid :=
      byClassGuid_init _
    rw [hnew, FileRPCProxyServer.byClassGuid_construct] at hguid
    exact absurd hguid (by decide)

/-- A storage object that has opened a file and has learned its id is destroyed and used again: it names no
class, and it still has the file open and the id aligned. -/
theorem not_likeNew_opened : ∃ o : StorageRPCClient,
    o = [.init "\x7b00000000-0000-0000-0000-000000000001\x7d", .setCommunicationServer true,
      .create "192.168.0.118" 4354 (some 0) (some 0), .sendPacketData "r" 0 true, .setAlignedIDWithServer true,
      .onReply "r" (some true) 200].foldl StorageRPCClient.apply StorageRPCClient.construct ∧
    o.destroy.bIsOpened = true ∧ o.destroy.bAlignedIDWithServer = true ∧
    ¬ StorageRPCClient.LikeNew (o.destroy.init "\x7b00000000-0000-0000-0000-000000000002\x7d")
      (StorageRPCClient.construct.init "\x7b00000000-0000-0000-0000-000000000002\x7d") := by
  refine ⟨_, rfl, by decide +kernel, by decide +kernel, fun h => ?_⟩
  have hopened : true = false := h.opened
  cases hopened

end Recycle

end KonsanNet
