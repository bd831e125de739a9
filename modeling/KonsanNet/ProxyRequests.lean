import Mathlib.Tactic
import Mathlib.Data.List.AList
import KonsanNet.Run
import KonsanNet.Send
import KonsanNet.RPCObjects

/-!
# Proxied requests (`CXRPCObjectClientInServer`, `PushState`, `ReceiveInternalReplyData`)

A message of a client asks an RPC object for something that a remote server has to do. The object pushes a step
state under the id of the request, which the client has chosen, and its client object sends a packet over the
proxy connection. The reply, or the error of a task that could not connect or send, comes back with the id: the
client object pops the request, the RPC object pops the state, and the message in it is answered and completed.

A step is a section under one lock. The model has one RPC object, one client object and the proxy connection
between them, with any number of client connections and messages. The session and its RPC object stay; the client
object may be destroyed, from then on it answers nothing. The model does not use that the sections of the
proxy connection exclude each other, so that it has more runs than the code. `packets` are those that
`SendPacket` has taken and the remote server has not answered, wherever they are or got lost; what becomes of
them in the sending list is in `Send`. The remote server answers a packet at most once, and a guid that one side
generates is not one of the other side. The text of a guid is not empty.

The requests do not record which message they are for; the field `pMes` of requests, packets and tasks says so.
-/

namespace KonsanNet

/-- A message of a client connection. -/
structure ClientMes where
  pConObj : Nat
  iSequenceNum : Nat
deriving DecidableEq

structure RPCRequest where
  strRequestID : String
  pMes : ClientMes

structure ProxyPacket where
  strRequestID : String
  strObjectGuid : String
  pMes : ClientMes
deriving DecidableEq

/-- `CXTaskCreateConnection` -/
structure ConnectTask where
  strRequestID : String
  pMes : ClientMes
deriving DecidableEq

/-- Where the handler of a client connection stands. -/
inductive Requester
  | idle
  /-- at `PushRequest` -/
  | pushedState (pMes : ClientMes) (strRequestID : String)
  /-- at `LockSend` -/
  | pushedRequest (pMes : ClientMes) (strRequestID : String)
  /-- The send has failed; at `PopRequest`. -/
  | failed (pMes : ClientMes) (strRequestID : String)
  /-- at `PopState` -/
  | poppedRequest (pMes : ClientMes) (strRequestID : String)
deriving DecidableEq

namespace Requester

def request : Requester → Option (ClientMes × String)
  | idle => none
  | pushedState m id | pushedRequest m id | failed m id | poppedRequest m id => some (m, id)

end Requester

/-- A reply or an error on its way through `ReplyRequester`, for the request of `pMes`. -/
structure Answer where
  /-- from the worker of the proxy connection, not from a task -/
  bReply : Bool
  strRequestID : String
  pMes : ClientMes
  /-- what `PopState` has returned -/
  pPrevMes : Option ClientMes
deriving DecidableEq

inductive PacketResult
  | sent
  /-- A `CXTaskPrepareMessage` is to send it. -/
  | prepared
  /-- `bKept` tells whether the packet is in the sending list nevertheless. -/
  | failed (bKept : Bool)
deriving DecidableEq

inductive ConnectResult
  | connected
  | notConnected
  /-- `OnProxyConnectionCreated` fails. -/
  | notAttached
  /-- `SendDataList` fails. -/
  | notSent
deriving DecidableEq

structure ProxyRequests where
  /-- the number of the messages of the client connections that have been handled -/
  uiReceived : Nat → Nat
  requester : Nat → Requester
  mapStateMachine : StrMap (List ClientMes)
  /-- `m_mapRequests` and the ids of the client object -/
  mapRequests : StrMap RPCRequest
  strClassGuid : String
  strObjectGuid : String
  bAlignedIDWithServer : Bool
  /-- The client object has its connection: `UnCreate` has not been called. -/
  pAttachedConnection : Bool
  /-- the proxy connection: the keys of its session and of `m_mapRPCObj` that lead to the client object -/
  nState : ConnectionState
  byObjectID : String
  mapObjects : List String
  mapRPCObj : List String
  packets : List ProxyPacket
  prepareTasks : List ProxyPacket
  connectTasks : List ConnectTask
  answers : List Answer
  /-- whether the object of the remote server is a unique instance -/
  bUniqueInstance : Bool
  /-- for each reply or error the message it answers and the message it has been delivered to -/
  answered : List (ClientMes × Option ClientMes)
  completed : List ClientMes

namespace ProxyRequests

def start (strClassGuid strObjectGuid : String) (bUniqueInstance : Bool) : ProxyRequests where
  uiReceived _ := 0
  requester _ := .idle
  mapStateMachine := ∅
  mapRequests := ∅
  strClassGuid := strClassGuid
  strObjectGuid := strObjectGuid
  bAlignedIDWithServer := false
  pAttachedConnection := true
  nState := .creating
  byObjectID := strClassGuid
  mapObjects := [strObjectGuid]
  mapRPCObj := []
  packets := []
  prepareTasks := []
  connectTasks := []
  answers := []
  bUniqueInstance := bUniqueInstance
  answered := []
  completed := []

def setRequester (s : ProxyRequests) (con : Nat) (r : Requester) : ProxyRequests :=
  { s with requester := Function.update s.requester con r }

/-! ### `CXRPCObjectServer` -/

def pushState (s : ProxyRequests) (strPacketGuid : String) (pMes : ClientMes) : ProxyRequests :=
  match s.mapStateMachine.lookup strPacketGuid with
  | some deque => { s with mapStateMachine := s.mapStateMachine.insert strPacketGuid (deque ++ [pMes]) }
  | none => { s with mapStateMachine := s.mapStateMachine.insert strPacketGuid [pMes] }

def popState (s : ProxyRequests) (strPacketGuid : String) : ProxyRequests × Option ClientMes :=
  match s.mapStateMachine.lookup strPacketGuid with
  | some deque =>
    ({ s with
      mapStateMachine :=
        if deque.dropLast = [] then s.mapStateMachine.erase strPacketGuid
        else s.mapStateMachine.insert strPacketGuid deque.dropLast },
      deque.getLast?)
  | none => (s, none)

/-! ### `CXRPCObjectClientInServer` -/

def pushRequest (s : ProxyRequests) (request : RPCRequest) : ProxyRequests :=
  if request.strRequestID ∈ s.mapRequests then s
  else { s with mapRequests := s.mapRequests.insert request.strRequestID request }

def popRequest (s : ProxyRequests) (strRequestID : String) : ProxyRequests × Option RPCRequest :=
  ({ s with mapRequests := s.mapRequests.erase strRequestID }, s.mapRequests.lookup strRequestID)

/-- `OnSendDataError`, `OnCreateConnectionError` and the functions that receive a reply: the request is popped,
and if there is one the answer is on its way. -/
def answer (s : ProxyRequests) (bReply : Bool) (strRequestID : String) (pMes : ClientMes) : ProxyRequests :=
  match s.popRequest strRequestID with
  | (s, some request) => { s with answers := ⟨bReply, request.strRequestID, pMes, none⟩ :: s.answers }
  | (s, none) => { s with answered := (pMes, none) :: s.answered }

/-- The section of `SendPacketData` under `m_lockSend`; `bTask` tells whether there is a task to connect with. -/
def sendPacketData (s : ProxyRequests) (con : Nat) (pMes : ClientMes) (strRequestID : String)
    (result : PacketResult)
    (bTask : Bool) : ProxyRequests :=
  let pBufObj : ProxyPacket := ⟨strRequestID, s.byObjectID, pMes⟩
  let s := if s.bAlignedIDWithServer then s else { s with mapRPCObj := s.mapRPCObj.insert strRequestID }
  let popRPCObj (s : ProxyRequests) : ProxyRequests :=
    if s.bAlignedIDWithServer then s else { s with mapRPCObj := s.mapRPCObj.erase strRequestID }
  let s := match result with
    | .sent | .failed true => { s with packets := pBufObj :: s.packets }
    | .prepared => { s with prepareTasks := pBufObj :: s.prepareTasks }
    | .failed false => s
  match result with
  | .failed _ => (popRPCObj s).setRequester con (.failed pMes strRequestID)
  | .sent | .prepared =>
    if s.nState = .creating then
      if bTask then
        { s with connectTasks := ⟨strRequestID, pMes⟩ :: s.connectTasks }.setRequester con .idle
      else (popRPCObj s).setRequester con (.failed pMes strRequestID)
    else s.setRequester con .idle

/-- `ProcessUnpackedMessage` of the proxy connection looks for the object of a message. -/
def findReplyObject (s : ProxyRequests) (strObjectGuid strRequestID : String) : ProxyRequests × Bool :=
  if strObjectGuid ∈ s.mapObjects then (s, true)
  else if strRequestID ∈ s.mapRPCObj then
    ({ s with
      mapRPCObj := s.mapRPCObj.erase strRequestID
      byObjectID := strObjectGuid
      mapObjects := strObjectGuid :: s.mapObjects.erase s.strObjectGuid
      bAlignedIDWithServer := true }, true)
  else (s, false)

/-- `CXTaskPrepareMessage::ProcessTask` looks for the object of a packet. -/
def findSendObject (s : ProxyRequests) (strObjectGuid strRequestID : String) : ProxyRequests × Bool :=
  if strObjectGuid ∈ s.mapObjects then (s, true)
  else if strRequestID ∈ s.mapRPCObj then ({ s with mapRPCObj := s.mapRPCObj.erase strRequestID }, true)
  else (s, false)

/-- The object that has been found gets the reply or the error. -/
def answerFound (r : ProxyRequests × Bool) (bReply : Bool) (pBufObj : ProxyPacket) : ProxyRequests :=
  if r.2 then r.1.answer bReply pBufObj.strRequestID pBufObj.pMes
  else { r.1 with answered := (pBufObj.pMes, none) :: r.1.answered }

/-! ### The steps -/

/-- `PostSend` takes nothing for a connection that is being closed. -/
def CanSend (s : ProxyRequests) : PacketResult → Prop
  | .sent | .failed true => s.nState ≠ .closing ∧ s.nState ≠ .closed
  | .prepared | .failed false => True

/-- What the remote server puts into the reply: a new object for a packet that names the class. -/
def IsReplyGuid (s : ProxyRequests) (pBufObj : ProxyPacket) (strObjectGuid : String) : Prop :=
  strObjectGuid ≠ s.strObjectGuid ∧
    if pBufObj.strObjectGuid = s.strClassGuid then s.bUniqueInstance = decide (strObjectGuid = s.strClassGuid)
    else strObjectGuid = pBufObj.strObjectGuid

instance (s : ProxyRequests) : DecidablePred s.CanSend
  | .sent | .failed true => inferInstanceAs (Decidable (_ ∧ _))
  | .prepared | .failed false => inferInstanceAs (Decidable True)

instance (s : ProxyRequests) (p : ProxyPacket) (g : String) : Decidable (s.IsReplyGuid p g) :=
  inferInstanceAs (Decidable (_ ∧ ite _ _ _))

inductive Action
  /-- The handler of a client connection gets the next message and pushes its state. -/
  | request (con : Nat) (strRequestID : String)
  | pushRequest (con : Nat)
  | sendPacketData (con : Nat) (result : PacketResult) (bTask : Bool)
  /-- after a send that has failed -/
  | popRequest (con : Nat)
  /-- The handler answers the client itself and is done. -/
  | popState (con : Nat)
  /-- the worker of the proxy connection -/
  | reply (pBufObj : ProxyPacket) (strObjectGuid : String)
  | prepareTask (pBufObj : ProxyPacket) (result : PacketResult)
  | connectTask (pTask : ConnectTask) (result : ConnectResult)
  /-- `ReplyRequester`, and `ReceiveInternalReplyData` up to `LockSend` -/
  | receiveInternalReplyData (a : Answer)
  /-- its reply function, and the end of the message -/
  | complete (a : Answer)
  /-- `CloseConnection` of the proxy connection; `bZero` tells whether the other counters are zero -/
  | closeConnection (bZero : Bool)
  /-- The client object is destroyed, as the reply to a close of its file asks for. What it does to the connection is
  `closeConnection`. -/
  | unCreate

def step (s : ProxyRequests) : Action → Option ProxyRequests
  | .request con strRequestID =>
    if s.requester con = .idle ∧ strRequestID ≠ "" then
      let pMes : ClientMes := ⟨con, s.uiReceived con⟩
      some ({ s.pushState strRequestID pMes with
        uiReceived := Function.update s.uiReceived con (s.uiReceived con + 1) }.setRequester con
          (.pushedState pMes strRequestID))
    else none
  | .pushRequest con =>
    match s.requester con with
    | .pushedState pMes strRequestID =>
      if s.pAttachedConnection then
        some ((s.pushRequest ⟨strRequestID, pMes⟩).setRequester con (.pushedRequest pMes strRequestID))
      -- `SendPacketData` returns at once
      else some (s.setRequester con (.poppedRequest pMes strRequestID))
    | _ => none
  | .sendPacketData con result bTask =>
    match s.requester con with
    | .pushedRequest pMes strRequestID =>
      -- without the connection the code runs into a null pointer here
      if s.pAttachedConnection = true ∧ s.CanSend result then
        some (s.sendPacketData con pMes strRequestID result bTask)
      else none
    | _ => none
  | .popRequest con =>
    match s.requester con with
    | .failed pMes strRequestID =>
      some ((s.popRequest strRequestID).1.setRequester con (.poppedRequest pMes strRequestID))
    | _ => none
  | .popState con =>
    match s.requester con with
    | .poppedRequest pMes strRequestID =>
      some ({ (s.popState strRequestID).1 with completed := pMes :: s.completed }.setRequester con .idle)
    | _ => none
  | .reply pBufObj strObjectGuid =>
    if pBufObj ∈ s.packets ∧ (s.nState = .established ∨ s.nState = .closing) ∧ s.IsReplyGuid pBufObj strObjectGuid then
      some (answerFound ({ s with packets := s.packets.erase pBufObj }.findReplyObject strObjectGuid
        pBufObj.strRequestID) true pBufObj)
    else none
  | .prepareTask pBufObj result =>
    if pBufObj ∈ s.prepareTasks ∧ result ≠ .prepared ∧ s.CanSend result then
      let s := { s with prepareTasks := s.prepareTasks.erase pBufObj }
      let s := if result = .failed false then s else { s with packets := pBufObj :: s.packets }
      if result = .sent then some s
      else some (answerFound (s.findSendObject pBufObj.strObjectGuid pBufObj.strRequestID) false pBufObj)
    else none
  | .connectTask pTask result =>
    if pTask ∈ s.connectTasks then
      let s := { s with connectTasks := s.connectTasks.erase pTask }
      match result with
      | .connected => some { s with nState := .established }
      | .notConnected => some (s.answer false pTask.strRequestID pTask.pMes)
      | .notAttached => some ({ s with nState := .closed }.answer false pTask.strRequestID pTask.pMes)
      | .notSent => some ({ s with nState := .established }.answer false pTask.strRequestID pTask.pMes)
    else none
  | .receiveInternalReplyData a =>
    if a ∈ s.answers ∧ a.pPrevMes = none then
      if s.pAttachedConnection = false then
        some { s with answered := (a.pMes, none) :: s.answered, answers := s.answers.erase a }
      else
      let r := s.popState a.strRequestID
      let s := { r.1 with answered := (a.pMes, r.2) :: r.1.answered }
      match r.2 with
      | none => some { s with answers := s.answers.erase a }
      | some pPrevMes => some { s with answers := { a with pPrevMes := some pPrevMes } :: s.answers.erase a }
    else none
  | .complete a =>
    match a.pPrevMes with
    | none => none
    | some pPrevMes =>
      if a ∈ s.answers ∧ s.requester pPrevMes.pConObj = .idle then
        some { s with answers := s.answers.erase a, completed := pPrevMes :: s.completed }
      else none
  | .closeConnection bZero =>
    if s.nState = .closed then none
    else if bZero ∧ ∀ a ∈ s.answers, a.bReply = false then some { s with nState := .closed }
    else some { s with nState := .closing }
  | .unCreate =>
    if s.pAttachedConnection then
      some { s with pAttachedConnection := false, mapObjects := s.mapObjects.erase s.strClassGuid }
    else none

/-! ### What is promised -/

/-- The message has been completed, or the thread that does it has what it needs. -/
def Settled (s : ProxyRequests) (m : ClientMes) : Prop :=
  m ∈ s.completed ∨ (∃ a ∈ s.answers, a.pMes = m) ∨ ∃ id, s.requester m.pConObj = .poppedRequest m id

/-- A reply or an error is delivered to the message of its own request, or dropped when the message is answered
otherwise; a message is completed once. Over a `CLOSED` connection, with no task left, every request and state
that is left is that of a thread that is about to take it out. -/
structure Consistent (s : ProxyRequests) : Prop where
  delivered : ∀ e ∈ s.answered, ∀ m, e.2 = some m → m = e.1
  dropped : ∀ e ∈ s.answered, e.2 = none → s.Settled e.1
  once : s.completed.Nodup
  closed : s.nState = .closed → s.connectTasks = [] → s.prepareTasks = [] →
    (∀ id ∈ s.mapRequests, ∃ con m, (s.requester con).request = some (m, id)) ∧
    ∀ id ∈ s.mapStateMachine, (∃ con m, (s.requester con).request = some (m, id)) ∨
      ∃ a ∈ s.answers, a.pPrevMes = none ∧ a.strRequestID = id

/-! ### When it holds -/

/-- The request ids that are still to come back. -/
def inFlight (s : ProxyRequests) : List (String × ClientMes) :=
  s.packets.map (fun p => (p.strRequestID, p.pMes)) ++ (s.prepareTasks.map (fun p => (p.strRequestID, p.pMes)) ++
    s.connectTasks.map fun t => (t.strRequestID, t.pMes))

/-- The send of the request of `m` has failed, and its handler has not popped the request yet. -/
def Failing (s : ProxyRequests) (m : ClientMes) : Prop := ∃ id, s.requester m.pConObj = .failed m id

/-- Each packet that waits for its reply is that of a task that is to connect. -/
def KeepsClose (s : ProxyRequests) : Prop :=
  ∀ p ∈ s.packets, p.strRequestID ∈ s.mapRequests → ∃ t ∈ s.connectTasks, t.strRequestID = p.strRequestID

/-- Nobody waits for the client object: no request, and no answer that is still to reach `ReplyRequester`. -/
def KeepsUnCreate (s : ProxyRequests) : Prop :=
  s.mapRequests.keys = [] ∧ ∀ a ∈ s.answers, a.pPrevMes ≠ none

def Keeps (s : ProxyRequests) : Action → Prop
  -- the id is not in use
  | .request _ strRequestID => strRequestID ∉ s.mapStateMachine ∧ strRequestID ∉ s.mapRequests ∧
    ∀ e ∈ s.inFlight, e.1 ≠ strRequestID
  | .reply pBufObj _ => ¬ s.Failing pBufObj.pMes
  | .prepareTask pBufObj result => result = .sent ∨ ¬ s.Failing pBufObj.pMes
  | .connectTask pTask result => (result = .connected ∨ ¬ s.Failing pTask.pMes) ∧
    (result = .notAttached → s.KeepsClose)
  | .closeConnection bZero => bZero = true → s.KeepsClose
  | .unCreate => s.KeepsUnCreate
  | _ => True

instance (s : ProxyRequests) (m : ClientMes) : Decidable (s.Failing m) :=
  match h : s.requester m.pConObj with
  | .failed m' id => decidable_of_iff (m' = m) (by
      unfold Failing
      rw [h]
      constructor
      · rintro rfl
        exact ⟨id, rfl⟩
      · rintro ⟨_, ⟨⟩⟩
        rfl)
  | .idle | .pushedState _ _ | .pushedRequest _ _ | .poppedRequest _ _ => .isFalse (by
      rintro ⟨id, hid⟩
      rw [h] at hid
      cases hid)

instance (s : ProxyRequests) : Decidable s.KeepsClose :=
  inferInstanceAs (Decidable (∀ p ∈ s.packets, p.strRequestID ∈ s.mapRequests →
    ∃ t ∈ s.connectTasks, t.strRequestID = p.strRequestID))

instance (s : ProxyRequests) : Decidable s.KeepsUnCreate :=
  inferInstanceAs (Decidable (_ ∧ ∀ a ∈ s.answers, a.pPrevMes ≠ none))

instance (s : ProxyRequests) : DecidablePred s.Keeps
  | .request _ _ => inferInstanceAs (Decidable (_ ∧ _ ∧ ∀ e ∈ s.inFlight, _))
  | .reply _ _ => inferInstanceAs (Decidable (¬ s.Failing _))
  | .prepareTask _ _ => inferInstanceAs (Decidable (_ ∨ ¬ s.Failing _))
  | .connectTask _ _ => inferInstanceAs (Decidable ((_ ∨ ¬ s.Failing _) ∧ (_ → s.KeepsClose)))
  | .closeConnection _ => inferInstanceAs (Decidable (_ → s.KeepsClose))
  | .unCreate => inferInstanceAs (Decidable s.KeepsUnCreate)
  | .pushRequest _ | .sendPacketData _ _ _ | .popRequest _ | .popState _ | .receiveInternalReplyData _
  | .complete _ => inferInstanceAs (Decidable True)

end ProxyRequests

end KonsanNet
