import Mathlib.Tactic
import KonsanNet.LockOrder
import KonsanNet.Send

/-!
# Where the server takes its locks

The functions of the server as the threads of `LockOrder` run them: a function's body lists what it locks, what it
unlocks and which functions it calls. Connections, sessions and RPC objects are numbered. The data are those that
the locking depends on: the state of a connection, its session, the objects of a session, what an RPC object is
attached to, and the containers. Where a function tests something else (a counter, what `send` returned, what a
packet holds), the outcome is the choice of the step.

All proxied connections lead to the same address, the one in `CXFileRPCProxyServer::OpenFile`. The locks of the
log, the caches, the queues, the pools and a single RPC object are left out: nothing is locked inside them but
other ones of these.
-/

namespace KonsanNet

inductive ServerLock
  /-- `m_lockSend`, `m_lock` and `m_lockRead` of a `CXConnectionObject` -/
  | send (c : Nat)
  | con (c : Nat)
  | read (c : Nat)
  /-- `CXConnectionSession::m_lock` -/
  | session (s : Nat)
  /-- `CXSessionsManager::m_lock` -/
  | sessions
  /-- `CXRPCObjectManager::m_lock` -/
  | objects
  /-- `m_lockUsingConnections`, `m_lockReleasedConnections` and `m_lockFreeConnections` -/
  | usingCons
  | releasedCons
  | freeCons
deriving DecidableEq, Repr

/-- An RPC object, with what its `Destroy` looks at. -/
inductive RPCObject
  /-- one for all requests, like `CXSessionLevelBase` -/
  | unique
  | plain
  /-- `CXFileRPCProxyServer` -/
  | fileProxy (pStorageObj : Option Nat)
  /-- `CXStorageRPCClient` -/
  | storageClient (pAttachedConnection pAttachedSession : Option Nat)
deriving DecidableEq, Repr

structure ServerConnection where
  nState : ConnectionState
  pSession : Option Nat
  bProxyConnection : Bool

structure ServerSession where
  pMainConnection : Option Nat
  lstMessageConnections : List Nat
  lstDataConnections : List Nat
  mapObjects : List Nat
  /-- `m_pObjectsPool` is not NULL -/
  bObjectsPool : Bool

structure Server where
  con : Nat → ServerConnection
  session : Nat → ServerSession
  object : Nat → RPCObject
  bNeedToDestroy : Nat → Bool
  createdConnections : Nat
  queueFreeConnections : List Nat
  mapUsingConnections : List Nat
  listReleasedConnections : List Nat
  /-- the entry of `m_mapAttachProxyConnectionsPool`, if there is one -/
  attachProxyConnections : Option (List Nat)
  detachedProxyConnections : List Nat
  createdSessions : Nat
  queueFreeSessions : List Nat
  mapUsingSessions : List Nat
  mapUsingObjs : List Nat

namespace Server

/-- The server has started; `object` tells of which class the RPC objects are. -/
def start (object : Nat → RPCObject) : Server where
  con _ := ⟨.initialized, none, false⟩
  session _ := ⟨none, [], [], [], false⟩
  object := object
  bNeedToDestroy _ := false
  createdConnections := 0
  queueFreeConnections := []
  mapUsingConnections := []
  listReleasedConnections := []
  attachProxyConnections := none
  detachedProxyConnections := []
  createdSessions := 0
  queueFreeSessions := []
  mapUsingSessions := []
  mapUsingObjs := []

def setCon (d : Server) (c : Nat) (f : ServerConnection → ServerConnection) : Server :=
  { d with con := Function.update d.con c (f (d.con c)) }

def setState (d : Server) (c : Nat) (nState : ConnectionState) : Server :=
  d.setCon c fun con => { con with nState := nState }

def setSession (d : Server) (s : Nat) (f : ServerSession → ServerSession) : Server :=
  { d with session := Function.update d.session s (f (d.session s)) }

def setObject (d : Server) (o : Nat) (obj : RPCObject) : Server :=
  { d with object := Function.update d.object o obj }

def setNeedToDestroy (d : Server) (o : Nat) (bSet : Bool) : Server :=
  { d with bNeedToDestroy := Function.update d.bNeedToDestroy o bSet }

/-- `GetFreeConnectionObj` fills an empty queue with 1000 new connections. -/
def popFreeConnection (d : Server) : Nat × Server :=
  match d.queueFreeConnections with
  | c :: rest => (c, { d with queueFreeConnections := rest })
  | [] => (d.createdConnections, { d with
      queueFreeConnections := List.range' (d.createdConnections + 1) 999
      createdConnections := d.createdConnections + 1000 })

/-- `GetFreeSession` does the same with sessions. -/
def popFreeSession (d : Server) : Nat × Server :=
  match d.queueFreeSessions with
  | s :: rest => (s, { d with queueFreeSessions := rest })
  | [] => (d.createdSessions, { d with
      queueFreeSessions := List.range' (d.createdSessions + 1) 999
      createdSessions := d.createdSessions + 1000 })

def removeConnectionOf (d : Server) (s c : Nat) : Server :=
  d.setSession s fun ses =>
    if ses.pMainConnection = some c then { ses with pMainConnection := none }
    else if c ∈ ses.lstMessageConnections then
      { ses with lstMessageConnections := ses.lstMessageConnections.erase c }
    else { ses with lstDataConnections := ses.lstDataConnections.erase c }

/-- What `GetConnectionNumber` counts. -/
def connectionNumber (d : Server) (s : Nat) : Nat :=
  (d.session s).pMainConnection.toList.length + (d.session s).lstMessageConnections.length +
    (d.session s).lstDataConnections.length

/-- `ReleaseConnection` finds the connection in the map it belongs to, and takes it out. -/
def eraseUsing (d : Server) (c : Nat) : Option Server :=
  if (d.con c).bProxyConnection then
    match d.attachProxyConnections with
    | none => none
    | some l => if c ∈ l then some { d with attachProxyConnections := some (l.erase c) } else none
  else if c ∈ d.mapUsingConnections then
    some { d with mapUsingConnections := d.mapUsingConnections.erase c }
  else none

/-- `AttachProxyConnection`, inside the lock. -/
def attachProxy (d : Server) (c : Nat) : Server :=
  { d with attachProxyConnections := some (c :: d.attachProxyConnections.getD []) }

/-- `DetachProxyConnection`, inside the lock: the whole entry of the address goes. -/
def detachProxy (d : Server) (c : Nat) : Server :=
  match d.attachProxyConnections with
  | none => d
  | some _ => { d with
      attachProxyConnections := none, detachedProxyConnections := d.detachedProxyConnections ++ [c] }

end Server

/-- What `ProcessUnpackedMessage` finds under the guid of a packet. -/
inductive ObjectLookup
  | emptyGuid
  | found (o : Nat)
  /-- `GetFreeObject` knows the class -/
  | created (o : Nat)
  | unknown
deriving DecidableEq, Repr

def ObjectLookup.object : ObjectLookup → Option Nat
  | .found o => some o
  | .created o => some o
  | _ => none

/-- What the handler of a message does next on the connection `c`. -/
inductive HandlerWork
  | finish
  /-- `SendPacket` to the own peer -/
  | send
  /-- `SendPacketData` to the connection that an object is attached to, or `ReceiveInternalReplyData` of an
  object of another connection -/
  | forward (e : Nat)
  /-- `FindUsingObject` -/
  | findObject
  /-- `OpenFile` of the proxy `o` takes the storage client `p` -/
  | openFile (o p : Nat)
  /-- `CXRPCObjectClientInServer::Create` -/
  | create (o : Nat)
  /-- `CloseFileReply` of the proxy `o` -/
  | closeFileReply (o : Nat)
  /-- `SessionLogin` with a main connection -/
  | login
  /-- `SessionLogin` with a further connection of the session `s` -/
  | join (s : Nat) (bData : Bool)
deriving DecidableEq, Repr

/-- How `SendDataList` goes on after one buffer. -/
inductive SendRound
  | stop
  | sent
  | failed
deriving DecidableEq, Repr

/-- What one round of `RecvPacket` ends with. -/
inductive RecvRound
  /-- no complete packet, or an error that ends the loop -/
  | stop
  /-- `n` buffers are freed and a packet is pushed to the queue -/
  | pushed (n : Nat)
  /-- a task shall parse the packet -/
  | task (n : Nat)
  /-- there is no task to give it to -/
  | noTask (n : Nat)
  /-- the packet is wrong, `RecvPacket` returns with `m_lock` released -/
  | wrong (n : Nat)
deriving DecidableEq, Repr

inductive ServerChoice
  | go
  /-- the outcome of a test, and of three of them -/
  | test (b : Bool)
  | tests (b₁ b₂ b₃ : Bool)
  | send (r : SendRound)
  | recv (r : RecvRound)
  | message (m : Option ObjectLookup)
  | work (w : HandlerWork)
  /-- whether `ReplyRequester` has to look for the requesting object, and the connection that this belongs to -/
  | requester (bFind : Bool) (e : Option Nat)
  | connections (l : List Nat)
deriving DecidableEq, Repr

/-- The functions, cut where they read the data. -/
inductive ServerFun
  /-- data are written, nothing is locked -/
  | set (f : Server → Server)
  -- `CXCommunicationServer::CloseConnection`, and what it calls
  | closeConnection (c : Nat)
  | closeCounters (c : Nat) (pSession : Option Nat)
  | getConnectionNumber (s : Nat)
  | closeSession (s : Nat)
  | releaseConnection (c : Nat)
  | closeIfClosing (c : Nat)
  | closeClosing (c : Nat)
  | onClose (c : Nat)
  -- `CXConnectionSession::Destroy`, and the `Destroy` of RPC objects
  | destroyObjects (s : Nat)
  | freeToPool (s o : Nat)
  | destroy (bySession : Bool) (o : Nat)
  | freeObject (o : Nat)
  | unCreate (bySession : Bool) (o : Nat)
  | detach (c : Nat)
  -- the accepting thread
  | onAccept
  | getFreeConnectionObj
  | attachToModel (c : Nat)
  -- the threads that wait for events
  | readEvent (c : Nat)
  | recvPacket (c : Nat)
  | recvLoop (c : Nat)
  | closeAfterRecv (c : Nat)
  | writeEvent (c : Nat)
  | sendDataList (c : Nat)
  -- the threads that process messages
  | processUnpackedMessage (c : Nat)
  | processMessages (c : Nat)
  | processed (c : Nat) (o : Option Nat)
  | destroyIfNeeded (o : Nat)
  | closeAfter (c : Nat)
  | handler (c : Nat)
  | create (o : Nat)
  | getFreeProxyClient (o : Nat) (pCon : Option Nat)
  | proxyConnection (o c : Nat)
  | getFreeSession (o c : Nat)
  | attachObject (o c : Nat)
  | loginSession (c : Nat)
  | processAsyncMessageEnd (c : Nat)
  -- the tasks
  | createConnection (c : Nat)
  | onProxyConnectionCreated (c : Nat)
  | prepareMessage (c : Nat)
  | parseMessage (c : Nat)
  | replyRequester
  -- the thread that looks for timeouts
  | detectTimeoutConnections
  | travelReleaseList
  | travelTimeoutRequest

abbrev ServerOp := Op ServerLock ServerFun

namespace Server

/-- `CloseConnection` with `bLockBySelf`. -/
def closeBySelf (c : Nat) : List ServerOp :=
  withLock (.con c) [.call (.closeConnection c)]

/-- `CXConnectionObject::Close` without `bLockBySelf`; `bList` tells whether it frees a read list. -/
def close (c : Nat) (bList : Bool) : List ServerOp :=
  withLock (.read c) [.call (.set fun d =>
    if (d.con c).nState = .closed then d else d.setState c .closing)] ++
  if bList then withLock (.read c) [] else []

def removeConnection (s c : Nat) : List ServerOp :=
  withLock (.session s) [.call (.set fun d => d.removeConnectionOf s c)]

/-- `CXConnectionSession::Destroy`. -/
def destroySession (s : Nat) : List ServerOp :=
  .call (.set fun d => d.setSession s fun ses => { ses with pMainConnection := none }) ::
    withLock (.session s) [.call (.destroyObjects s)]

/-- `RemoveObject` looks for the class id of the object, which was added under its object id. -/
def removeObject (s : Nat) : List ServerOp :=
  withLock (.session s) []

def freeSendingList (c : Nat) : List ServerOp :=
  withLock (.send c) []

def detachProxyConnection (c : Nat) : List ServerOp :=
  withLock .usingCons [.call (.set fun d => d.detachProxy c)]

def addFreeConnectionObj (c : Nat) : List ServerOp :=
  withLock .freeCons [.call (.set fun d => { d with queueFreeConnections := d.queueFreeConnections ++ [c] })]

def getCurrentConnectionIndex : List ServerOp :=
  withLock .usingCons []

/-- `CXConnectionObject::Build`; the state is set only when there is a socket. -/
def build (c : Nat) (bSock : Bool) : List ServerOp :=
  withLock (.con c) (withLock (.read c) [.call (.set fun d => d.setCon c fun _ => ⟨.initialized, none, false⟩)] ++
    [.call (.set fun d => if bSock then d.setState c .pending else d)])

def addMainConnection (s c : Nat) : List ServerOp :=
  withLock (.session s) [.call (.set fun d => d.setSession s fun ses => { ses with pMainConnection := some c })]

def addUsingSession (s : Nat) : List ServerOp :=
  withLock .sessions [.call (.set fun d =>
    if s ∈ d.mapUsingSessions then d else { d with mapUsingSessions := s :: d.mapUsingSessions })]

def addObject (s o : Nat) (bLockBySelf : Bool) : List ServerOp :=
  let add : ServerOp := .call (.set fun d => d.setSession s fun ses => { ses with mapObjects := ses.mapObjects ++ [o] })
  if bLockBySelf then withLock (.session s) [add] else [add]

/-- `GetFreeObject` that hands out `o`. -/
def getFreeObject (o : Nat) : List ServerOp :=
  withLock .objects [.call (.set fun d =>
    if d.object o = .unique then d else { d with mapUsingObjs := o :: d.mapUsingObjs })]

/-- The session looks up the object of a message. -/
def lookup (pSession : Option Nat) : ObjectLookup → List ServerOp
  | .emptyGuid => []
  | m =>
    match pSession, m with
    | some s, .created o => withLock (.session s) (getFreeObject o ++ addObject s o false)
    | some s, .unknown => withLock (.session s) (withLock .objects [] ++ withLock .objects [])
    | some s, _ => withLock (.session s) []
    | none, .created o => getFreeObject o
    | none, _ => withLock .objects [] ++ withLock .objects []

/-! ### `CloseConnection` -/

/-- `CloseConnection`, with the connection's `m_lock` taken. -/
def closeConnection (d : Server) (c : Nat) : ServerChoice → Option (List ServerOp)
  | .test bList =>
    if (d.con c).nState = .closed then some []
    else some (close c bList ++ [.call (.closeCounters c (d.con c).pSession)])
  | _ => none

/-- The test of the four counters, and what follows. -/
def closeCounters (d : Server) (c : Nat) (pSession : Option Nat) : ServerChoice → Option (Server × List ServerOp)
  | .test false => some (d, [])
  | .test true => some (d.setState c .closed,
      (match pSession with
        | some s => removeConnection s c ++ [.lock (.session s), .call (.getConnectionNumber s)]
        | none => []) ++
      [.lock .usingCons, .call (.releaseConnection c)])
  | _ => none

def getConnectionNumber (d : Server) (s : Nat) : List ServerOp :=
  .unlock (.session s) ::
    if d.connectionNumber s = 0 then withLock .sessions [.call (.closeSession s)] else []

def closeSession (d : Server) (s : Nat) : Server × List ServerOp :=
  if s ∈ d.mapUsingSessions then
    ({ d with mapUsingSessions := d.mapUsingSessions.erase s },
      destroySession s ++ [.call (.set fun d => { d with queueFreeSessions := d.queueFreeSessions ++ [s] })])
  else (d, [])

def releaseConnection (d : Server) (c : Nat) : Server × List ServerOp :=
  match d.eraseUsing c with
  | some d' => (d', .unlock .usingCons :: withLock .releasedCons [.call (.set fun d =>
      { d with listReleasedConnections := d.listReleasedConnections ++ [c] })])
  | none => (d, [.unlock .usingCons])

/-- `if (GetState() >= CLOSING)`, and the lock for the second test. -/
def closeIfClosing (d : Server) (c : Nat) : List ServerOp :=
  if (d.con c).nState = .closing ∨ (d.con c).nState = .closed then withLock (.con c) [.call (.closeClosing c)]
  else []

def closeClosing (d : Server) (c : Nat) : List ServerOp :=
  if (d.con c).nState = .closing then [.call (.closeConnection c)] else []

def onClose (d : Server) (c : Nat) : List ServerOp :=
  if (d.con c).nState = .closed then [] else closeBySelf c

/-! ### `Destroy` -/

/-- The loop of `CXConnectionSession::Destroy`. -/
def destroyObjects (d : Server) (s : Nat) : List ServerOp :=
  match (d.session s).mapObjects with
  | [] => []
  | o :: _ => [.call (.destroy true o), .call (.freeToPool s o),
      .call (.set fun d => d.setSession s fun ses => { ses with mapObjects := ses.mapObjects.erase o }),
      .call (.destroyObjects s)]

def freeToPool (d : Server) (s o : Nat) : List ServerOp :=
  if (d.session s).bObjectsPool then [.call (.freeObject o)] else []

/-- `CXRPCObjectManager::FreeObject`. -/
def freeObject (d : Server) (o : Nat) : List ServerOp :=
  if d.object o = .unique then []
  else withLock .objects [.call (.set fun d => { d with mapUsingObjs := d.mapUsingObjs.erase o })]

/-- `Destroy` of an RPC object; `bySession` tells that `CXConnectionSession::Destroy` calls it, with the lock
of the session taken. -/
def destroy (d : Server) (bySession : Bool) (o : Nat) : List ServerOp :=
  (match d.object o with
    | .fileProxy (some p) => [.call (.destroy bySession p), .call (.freeObject p),
        .call (.set fun d => d.setObject o (.fileProxy none))]
    | .storageClient _ _ => [.call (.unCreate bySession o)]
    | _ => []) ++
  [.call (.set fun d => d.setNeedToDestroy o false)]

def unCreate (d : Server) (o : Nat) : List ServerOp :=
  match d.object o with
  | .storageClient (some c) pAttachedSession =>
    (match pAttachedSession with
      | some s => removeObject s
      | none => []) ++
    freeSendingList c ++
    [.call (.detach c), .call (.set fun d => d.setObject o (.storageClient none pAttachedSession))]
  | _ => []

/-- The end of `UnCreate`; the choice is whether the three counters are zero. -/
def detach (c : Nat) : ServerChoice → Option (List ServerOp)
  | .test true => some (detachProxyConnection c)
  | .test false => some (closeBySelf c)
  | _ => none

/-! ### `BuildConnection` -/

def getFreeConnectionObj (d : Server) : Server × List ServerOp :=
  let (c, d) := d.popFreeConnection
  (d, .unlock .freeCons :: .call (.set fun d => d.setState c .initialized) ::
    getCurrentConnectionIndex ++ build c true ++ [.call (.attachToModel c)])

/-- `AttachConnetionToModel` has succeeded or not. -/
def attachToModel (c : Nat) : ServerChoice → Option (List ServerOp)
  | .test true => some (withLock .usingCons [.call (.set fun d =>
        if c ∈ d.mapUsingConnections then d else { d with mapUsingConnections := c :: d.mapUsingConnections })] ++
      [.call (.set fun d => d.setState c .established)])
  | .test false => some (withLock (.con c) (close c false) ++
      [.call (.set fun d => d.setState c .closed)] ++ addFreeConnectionObj c)
  | _ => none

/-! ### Events -/

/-- One round of `ProcessEpollEvent`. `RecvData` takes the lock unless the connection is closing or there is no
buffer; it has read something, has found an error, or may be called again. -/
def readEvent (c : Nat) : ServerChoice → Option (List ServerOp)
  | .test bNoBuffer => some (if bNoBuffer then [.call (.onClose c)] else [])
  | .tests bData bError bAgain => some (withLock (.read c) [] ++
      (if bData then [.call (.recvPacket c), .call (.closeAfterRecv c)] else []) ++
      (if bError then [.call (.onClose c)] else []) ++
      if bAgain then [.call (.readEvent c)] else [])
  | _ => none

def recvPacket (c : Nat) : ServerChoice → Option (List ServerOp)
  | .test true => some (.lock (.con c) :: withLock (.read c) [] ++ [.call (.recvLoop c)])
  | .test false => some (withLock (.con c) [])
  | _ => none

/-- `n` buffers are freed, each with a section of `m_lockRead`; then `m_lock` is released. -/
def freeBuffers (c : Nat) : Nat → List ServerOp
  | 0 => [.unlock (.con c)]
  | n + 1 => withLock (.read c) [] ++ freeBuffers c n

/-- A round of the loop of `RecvPacket`. Without a task for the packet `m_lock` is released twice. -/
def recvLoop (c : Nat) : ServerChoice → Option (List ServerOp)
  | .recv .stop => some [.unlock (.con c)]
  | .recv (.pushed n) =>
    some (freeBuffers c n ++ withLock (.read c) [] ++ [.lock (.con c), .call (.recvLoop c)])
  | .recv (.task n) => some (freeBuffers c n ++ [.lock (.con c), .call (.recvLoop c)])
  | .recv (.noTask n) => some (freeBuffers c n ++ [.unlock (.con c)])
  | .recv (.wrong n) => some (freeBuffers c n)
  | _ => none

/-- `OnRecv` after `RecvPacket`. -/
def closeAfterRecv (d : Server) (c : Nat) : ServerChoice → Option (List ServerOp)
  | .test bNeedClose =>
    if (d.con c).nState = .closed then some []
    else if bNeedClose ∨ (d.con c).nState = .closing then some (closeBySelf c)
    else some []
  | _ => none

def writeEvent (c : Nat) : List ServerOp :=
  withLock (.send c) [.call (.sendDataList c)]

/-- A round of the loop of `SendDataList`; the caller has `m_lockSend`. -/
def sendDataList (c : Nat) : ServerChoice → Option (List ServerOp)
  | .send .stop => some []
  | .send .sent => some [.call (.closeIfClosing c), .call (.sendDataList c)]
  | .send .failed => some (closeBySelf c ++ [.call (.sendDataList c)])
  | _ => none

/-! ### Messages -/

/-- `ProcessUnpackedMessage`; the choice is whether `PushMessage` succeeds. -/
def processUnpackedMessage (c : Nat) : ServerChoice → Option (List ServerOp)
  | .test true => some (withLock (.send c) [.call (.processMessages c)])
  | .test false => some (withLock (.send c) [] ++ closeBySelf c)
  | _ => none

/-- The next message of the list, if it is that one's turn. -/
def processMessages (d : Server) (c : Nat) : ServerChoice → Option (List ServerOp)
  | .message none => some []
  | .message (some m) => some (lookup (d.con c).pSession m ++
      (if m = .emptyGuid then [] else [.call (.handler c)]) ++ [.call (.processed c m.object)])
  | _ => none

/-- The message has been handled: an asynchronous one ends the loop. -/
def processed (c : Nat) (o : Option Nat) : ServerChoice → Option (List ServerOp)
  | .test true => some []
  | .test false => some (withLock (.read c) [] ++ .unlock (.send c) ::
      (match o with
        | some o => [.call (.destroyIfNeeded o)]
        | none => []) ++
      [.call (.closeAfter c), .lock (.send c), .call (.processMessages c)])
  | _ => none

def destroyIfNeeded (d : Server) (o : Nat) : List ServerOp :=
  if d.bNeedToDestroy o then [.call (.destroy false o), .call (.freeObject o)] else []

def closeAfter (c : Nat) : ServerChoice → Option (List ServerOp)
  | .test true => some (closeBySelf c)
  | .test false => some [.call (.closeIfClosing c)]
  | _ => none

/-- The handler of a message, or of a reply to one; the caller has `m_lockSend`. -/
def handlerWork (d : Server) (c : Nat) : HandlerWork → List ServerOp
  | .finish => []
  | .send => [.call (.sendDataList c), .call (.handler c)]
  | .forward e => withLock (.send e) [.call (.handler e)] ++ [.call (.handler c)]
  | .findObject => withLock .objects [] ++ [.call (.handler c)]
  | .openFile o p =>
    (match d.object o with
      | .fileProxy none => getFreeObject p ++ [.call (.set fun d => d.setObject o (.fileProxy (some p)))]
      | _ => []) ++
    [.call (.handler c)]
  | .create o => [.call (.create o), .call (.handler c)]
  | .closeFileReply o =>
    (match d.object o with
      | .fileProxy (some p) => [.call (.set fun d => (d.setNeedToDestroy p true).setObject o (.fileProxy none))]
      | _ => []) ++
    [.call (.handler c)]
  | .login =>
    (match (d.con c).pSession with
      | some _ => []
      | none => [.lock .sessions, .call (.loginSession c)]) ++
    [.call (.handler c)]
  | .join s bData =>
    (match (d.con c).pSession with
      | some _ => []
      | none =>
        -- `FindUsingSession`, then `AddMessageConnection` or `AddDataConnection`
        withLock .sessions [] ++ [.call (.set fun d => d.setCon c fun con => { con with pSession := some s })] ++
        withLock (.session s) [.call (.set fun d => d.setSession s fun ses =>
          if bData then { ses with lstDataConnections := ses.lstDataConnections ++ [c] }
          else { ses with lstMessageConnections := ses.lstMessageConnections ++ [c] })]) ++
    [.call (.handler c)]

def handler (d : Server) (c : Nat) : ServerChoice → Option (List ServerOp)
  | .work w => some (d.handlerWork c w)
  | _ => none

def loginSession (d : Server) (c : Nat) : Server × List ServerOp :=
  let (s, d) := d.popFreeSession
  (d, .unlock .sessions :: addMainConnection s c ++ addUsingSession s ++
    [.call (.set fun d => d.setSession s fun ses => { ses with bObjectsPool := true }),
      .call (.set fun d => d.setCon c fun con => { con with pSession := some s })])

/-- `CXRPCObjectClientInServer::Create`. -/
def create (d : Server) (o : Nat) : List ServerOp :=
  match d.object o with
  | .storageClient none _ => [.lock .freeCons, .call (.getFreeProxyClient o none)]
  | _ => []

/-- The loop of `GetFreeProxyClient`; `pCon` is the connection that it has closed last. -/
def getFreeProxyClient (d : Server) (o : Nat) (pCon : Option Nat) : Server × List ServerOp :=
  match d.detachedProxyConnections with
  | c :: rest =>
    if (d.con c).nState = .established then
      ({ d with detachedProxyConnections := rest }, [.unlock .freeCons, .call (.proxyConnection o c)])
    else ({ d with detachedProxyConnections := rest }, d.onClose c ++ [.call (.getFreeProxyClient o (some c))])
  | [] =>
    match pCon with
    | some c => (d, [.unlock .freeCons, .call (.proxyConnection o c)])
    | none => ({ d with createdConnections := d.createdConnections + 1 }.setState d.createdConnections .creating,
        [.unlock .freeCons, .call (.proxyConnection o d.createdConnections)])

/-- `GetProxyConnection`, after `GetFreeProxyClient`. -/
def proxyConnection (d : Server) (o c : Nat) : List ServerOp :=
  if (d.con c).nState = .established then [.call (.attachObject o c)]
  else [.lock .sessions, .call (.getFreeSession o c)]

def getFreeSession (d : Server) (o c : Nat) : Server × List ServerOp :=
  let (s, d) := d.popFreeSession
  (d, .unlock .sessions :: getCurrentConnectionIndex ++ build c false ++
    [.call (.set fun d => d.setCon c fun _ => ⟨.creating, some s, true⟩), .call (.attachObject o c)])

/-- The end of `Create`. -/
def attachObject (d : Server) (o c : Nat) : Server × List ServerOp :=
  (d.setObject o (.storageClient (some c) (d.con c).pSession),
    match (d.con c).pSession with
    | some s => addObject s o true
    | none => [])

/-- The choice is whether the class of the object is known, and whether the connection has to be closed. -/
def processAsyncMessageEnd (c : Nat) : ServerChoice → Option (List ServerOp)
  | .tests bKnown bNeedClose _ => some (withLock .objects [] ++
      (if bKnown then [] else withLock .objects []) ++
      withLock (.send c) (withLock (.read c) []) ++
      if bNeedClose then closeBySelf c else withLock (.con c) [.call (.closeClosing c)])
  | _ => none

/-! ### Tasks -/

/-- `CXTaskCreateConnection`; the choice is whether the peer was reached. -/
def createConnection (c : Nat) : ServerChoice → Option (List ServerOp)
  | .test true => some (withLock (.con c) [.call (.set fun d => d.setState c .established)] ++
      [.call (.onProxyConnectionCreated c)])
  | .test false => some [.call .replyRequester]
  | _ => none

/-- `OnProxyConnectionCreated`, and the rest of the task. -/
def onProxyConnectionCreated (d : Server) (c : Nat) : ServerChoice → Option (List ServerOp)
  | .test true => some (withLock .usingCons [.call (.set fun d => d.attachProxy c)] ++
      .call (.set fun d => d.setState c .established) ::
      (match (d.con c).pSession with
        | some s => addMainConnection s c ++ addUsingSession s
        | none => []) ++
      withLock (.send c) [.call (.sendDataList c)] ++ [.call .replyRequester])
  | .test false => some (withLock (.con c) (close c false) ++ [.call (.set fun d => d.setState c .closed)] ++
      addFreeConnectionObj c ++ [.call .replyRequester])
  | _ => none

/-- `CXTaskPrepareMessage`. If sending fails the object of the packet is looked up, in the session and among the
requests of the connection. -/
def prepareMessage (d : Server) (c : Nat) : ServerChoice → Option (List ServerOp)
  | .tests bSent bPopRPCObj _ => some (withLock (.send c) [.call (.sendDataList c)] ++
      (if bSent then [] else
        match (d.con c).pSession with
        | some s => withLock (.session s) []
        | none => []) ++
      (if bPopRPCObj then withLock (.send c) [] else []) ++
      if bSent then [] else [.call .replyRequester])
  | _ => none

/-- `CXTaskParseMessage`. -/
def parseMessage (c : Nat) : ServerChoice → Option (List ServerOp)
  | .test true => some (withLock (.read c) [])
  | .test false => some [.call (.onClose c)]
  | _ => none

/-- `ReplyRequester`, if the error is for anybody. -/
def replyRequester : ServerChoice → Option (List ServerOp)
  | .requester _ none => some []
  | .requester bFind (some e) => some ((if bFind then withLock .objects [] else []) ++
      withLock (.send e) [.call (.handler e)])
  | _ => none

/-! ### Timeouts -/

def detectTimeoutConnections : ServerChoice → Option (List ServerOp)
  | .connections l => some (withLock .usingCons [] ++ l.map fun c => .call (.onClose c))
  | _ => none

/-- The choice is which connections were released long enough ago. -/
def travelReleaseList : ServerChoice → Option (List ServerOp)
  | .connections l => some (withLock .releasedCons (l.flatMap fun c => addFreeConnectionObj c ++
      [.call (.set fun d => { d with listReleasedConnections := d.listReleasedConnections.erase c })]))
  | _ => none

/-! ### The functions together -/

def exec (d : Server) (f : ServerFun) (x : ServerChoice) : Option (Server × List ServerOp) :=
  match f with
  | .set f => some (f d, [])
  | .closeConnection c => (d.closeConnection c x).map (d, ·)
  | .closeCounters c pSession => d.closeCounters c pSession x
  | .getConnectionNumber s => some (d, d.getConnectionNumber s)
  | .closeSession s => some (d.closeSession s)
  | .releaseConnection c => some (d.releaseConnection c)
  | .closeIfClosing c => some (d, d.closeIfClosing c)
  | .closeClosing c => some (d, d.closeClosing c)
  | .onClose c => some (d, d.onClose c)
  | .destroyObjects s => some (d, d.destroyObjects s)
  | .freeToPool s o => some (d, d.freeToPool s o)
  | .destroy bySession o => some (d, d.destroy bySession o)
  | .freeObject o => some (d, d.freeObject o)
  | .unCreate _ o => some (d, d.unCreate o)
  | .detach c => (detach c x).map (d, ·)
  | .onAccept => some (d, [.lock .freeCons, .call .getFreeConnectionObj])
  | .getFreeConnectionObj => some d.getFreeConnectionObj
  | .attachToModel c => (attachToModel c x).map (d, ·)
  | .readEvent c => (readEvent c x).map (d, ·)
  | .recvPacket c => (recvPacket c x).map (d, ·)
  | .recvLoop c => (recvLoop c x).map (d, ·)
  | .closeAfterRecv c => (d.closeAfterRecv c x).map (d, ·)
  | .writeEvent c => some (d, writeEvent c)
  | .sendDataList c => (sendDataList c x).map (d, ·)
  | .processUnpackedMessage c => (processUnpackedMessage c x).map (d, ·)
  | .processMessages c => (d.processMessages c x).map (d, ·)
  | .processed c o => (processed c o x).map (d, ·)
  | .destroyIfNeeded o => some (d, d.destroyIfNeeded o)
  | .closeAfter c => (closeAfter c x).map (d, ·)
  | .handler c => (d.handler c x).map (d, ·)
  | .create o => some (d, d.create o)
  | .getFreeProxyClient o pCon => some (d.getFreeProxyClient o pCon)
  | .proxyConnection o c => some (d, d.proxyConnection o c)
  | .getFreeSession o c => some (d.getFreeSession o c)
  | .attachObject o c => some (d.attachObject o c)
  | .loginSession c => some (d.loginSession c)
  | .processAsyncMessageEnd c => (processAsyncMessageEnd c x).map (d, ·)
  | .createConnection c => (createConnection c x).map (d, ·)
  | .onProxyConnectionCreated c => (d.onProxyConnectionCreated c x).map (d, ·)
  | .prepareMessage c => (d.prepareMessage c x).map (d, ·)
  | .parseMessage c => (parseMessage c x).map (d, ·)
  | .replyRequester => (replyRequester x).map (d, ·)
  | .detectTimeoutConnections => (detectTimeoutConnections x).map (d, ·)
  | .travelReleaseList => (travelReleaseList x).map (d, ·)
  | .travelTimeoutRequest => some (d, withLock .objects [])

/-- What the threads of the server begin with. -/
def entry : ServerFun → Bool
  | .onAccept | .readEvent _ | .writeEvent _ | .processUnpackedMessage _ | .processAsyncMessageEnd _ => true
  | .createConnection _ | .prepareMessage _ | .parseMessage _ => true
  | .detectTimeoutConnections | .travelReleaseList | .travelTimeoutRequest => true
  | _ => false

end Server

abbrev ServerThreads := Threads Nat ServerLock ServerFun Server

abbrev ServerThreads.step : ServerThreads → ThreadAct Nat ServerFun ServerChoice → Option ServerThreads :=
  Threads.step Server.exec Server.entry

end KonsanNet
