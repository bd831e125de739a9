import KonsanNet.Run
import KonsanNet.Send

/-!
# Connecting a proxy connection (`SendPacketData`, `AsyncConnect`, `CXTaskCreateConnection`)

`GetProxyConnection` builds a connection without a socket, in the state `CREATING`. A `SendPacketData` on it
puts its packet into the sending list and, if it finds that state, starts a task that connects. The task gives
its socket to the connection with `OnCreated` and sends what is in the list.

A call of `SendPacketData` holds `m_lockSend` from its `SendPacket` to the start of the task, the task only
while it sends; the state is read and written without a lock. So every access to the state is a step of its own
here, while `SendDataList` with the lock around it is one step. While the connection is `CREATING` a packet is
prepared within `SendPacket` (`Reset` turns the tasks for that off). Any number of calls and tasks may be under
way, and the connection can be closed, detached and built again at any time between their steps.
-/

namespace KonsanNet

/-- Where a call of `SendPacketData` stands. -/
inductive SendPacketCall
  /-- at `LockSend` -/
  | lockSend (strRequestID : String)
  /-- at the first test of `m_nState` in `PostSend` -/
  | sendPacket (strRequestID : String)
  /-- The packet is in the list; at the second test. -/
  | pushed
  /-- at `GetState` -/
  | sent
  /-- at `GetState` in `AsyncConnect` -/
  | asyncConnect
  /-- at `GetCreateConnectionTask` -/
  | createTask
  /-- There is no task, and the lock is released; at `FreeSendingList`. -/
  | freeSendingList
deriving DecidableEq

namespace SendPacketCall

/-- The call has `m_lockSend`. -/
def holds : SendPacketCall → Bool
  | sendPacket _ | pushed | sent | asyncConnect | createTask => true
  | lockSend _ | freeSendingList => false

/-- The call has not got `m_lockSend` yet. -/
def waits : SendPacketCall → Bool
  | lockSend _ => true
  | sendPacket _ | pushed | sent | asyncConnect | createTask | freeSendingList => false

/-- Its packet is in the list, and it will start a task or free the list while the state is `CREATING`. -/
def settles : SendPacketCall → Bool
  | pushed | sent | asyncConnect | createTask | freeSendingList => true
  | lockSend _ | sendPacket _ => false

end SendPacketCall

/-- Where the `ProcessTask` of a `CXTaskCreateConnection` stands. -/
inductive CreateTask
  /-- before the end of `Login`, or still in the pool -/
  | connecting
  /-- at `OnCreated` -/
  | connected
  /-- at `OnProxyConnectionCreated` -/
  | created
  /-- at `LockSend` -/
  | attached
deriving DecidableEq

/-- `OnCreated` is still to come. -/
def CreateTask.connects : CreateTask → Bool
  | connecting | connected => true
  | created | attached => false

/-- The connection, with the ids of the requests in its sending list, the calls of `OnCreated` since `Build`,
and the calls and tasks that are under way. -/
structure ProxyConnect where
  nState : ConnectionState
  listSendBuf : List String
  uiCreated : Nat
  /-- in `m_mapDetachedProxyConnectionsPool` -/
  bDetached : Bool
  calls : List SendPacketCall
  tasks : List CreateTask
deriving DecidableEq

/-- A `SendDataList`: the number of packets that leave the list, a `CloseConnection` with whether the counters
are zero, and whether the result is not 0. -/
structure SentList where
  nSent : Nat
  bClosed : Option Bool
  bFailed : Bool

structure CallEnv where
  /-- `SendPacket` gets as far as `PostSend`. -/
  bPrepared : Bool
  sent : SentList
  /-- There is a task to connect with. -/
  bTask : Bool

structure TaskEnv where
  /-- `Create`, `Bind`, `Connect` and `Login` succeed. -/
  bConnected : Bool
  /-- `AttachConnetionToModel` succeeds. -/
  bAttached : Bool
  sent : SentList

namespace ProxyConnect

/-- A new connection as `GetProxyConnection` returns it. -/
def built : ProxyConnect := ⟨.creating, [], 0, false, [], []⟩

def setCall (s : ProxyConnect) (i : Nat) (c : SendPacketCall) : ProxyConnect :=
  { s with calls := s.calls.set i c }

def endCall (s : ProxyConnect) (i : Nat) : ProxyConnect := { s with calls := s.calls.eraseIdx i }

def setTask (s : ProxyConnect) (j : Nat) (t : CreateTask) : ProxyConnect := { s with tasks := s.tasks.set j t }

def endTask (s : ProxyConnect) (j : Nat) : ProxyConnect := { s with tasks := s.tasks.eraseIdx j }

/-- Some call has `m_lockSend`. -/
def Locked (s : ProxyConnect) : Prop := ∃ c ∈ s.calls, c.holds = true

instance (s : ProxyConnect) : Decidable s.Locked := inferInstanceAs (Decidable (∃ c ∈ s.calls, _))

def closeConnection (s : ProxyConnect) (bZero : Bool) : ProxyConnect :=
  if s.nState = .closed then s else { s with nState := if bZero then .closed else .closing }

def sendDataList (s : ProxyConnect) (r : SentList) : ProxyConnect :=
  let s := { s with listSendBuf := s.listSendBuf.drop r.nSent }
  match r.bClosed with
  | none => s
  | some bZero => s.closeConnection bZero

/-- The next section of a call. -/
def callStep (s : ProxyConnect) (i : Nat) (env : CallEnv) : SendPacketCall → Option ProxyConnect
  | .lockSend strRequestID => if s.Locked then none else some (s.setCall i (.sendPacket strRequestID))
  | .sendPacket strRequestID =>
    if env.bPrepared = false ∨ s.nState = .closing ∨ s.nState = .closed then some (s.endCall i)
    else some ({ s with listSendBuf := s.listSendBuf ++ [strRequestID] }.setCall i .pushed)
  | .pushed =>
    if s.nState = .established then
      if env.sent.bFailed then some ((s.sendDataList env.sent).endCall i)
      else some ((s.sendDataList env.sent).setCall i .sent)
    else some (s.setCall i .sent)
  | .sent => if s.nState = .creating then some (s.setCall i .asyncConnect) else some (s.endCall i)
  | .asyncConnect => if s.nState = .creating then some (s.setCall i .createTask) else some (s.endCall i)
  | .createTask =>
    if env.bTask then some ({ s with tasks := s.tasks ++ [CreateTask.connecting] }.endCall i)
    else some (s.setCall i .freeSendingList)
  | .freeSendingList => if s.Locked then none else some ({ s with listSendBuf := [] }.endCall i)

/-- The next section of a task. -/
def taskStep (s : ProxyConnect) (j : Nat) (env : TaskEnv) : CreateTask → Option ProxyConnect
  | .connecting => if env.bConnected then some (s.setTask j .connected) else some (s.endTask j)
  | .connected => some ({ s with nState := .established, uiCreated := s.uiCreated + 1 }.setTask j .created)
  | .created =>
    if env.bAttached then some ({ s with nState := .established }.setTask j .attached)
    else some ({ s with nState := .closed }.endTask j)
  | .attached => if s.Locked then none else some ((s.sendDataList env.sent).endTask j)

inductive Action
  | sendPacketData (strRequestID : String)
  | call (i : Nat) (env : CallEnv)
  | task (j : Nat) (env : TaskEnv)
  /-- of `UnCreate` -/
  | freeSendingList
  | closeConnection (bZero : Bool)
  | detachProxyConnection
  /-- `GetProxyConnection` finds this connection in the pool. -/
  | getProxyConnection

def step (s : ProxyConnect) : Action → Option ProxyConnect
  | .sendPacketData strRequestID => some { s with calls := s.calls ++ [.lockSend strRequestID] }
  | .call i env => (s.calls[i]?).bind (s.callStep i env)
  | .task j env => (s.tasks[j]?).bind (s.taskStep j env)
  | .freeSendingList => if s.Locked then none else some { s with listSendBuf := [] }
  | .closeConnection bZero => some (s.closeConnection bZero)
  | .detachProxyConnection => some { s with bDetached := true }
  | .getProxyConnection =>
    if s.bDetached then
      if s.nState = .established then some { s with bDetached := false }
      else some { built with calls := s.calls, tasks := s.tasks }
    else none

/-! ### What it is for -/

structure OneSocket (s : ProxyConnect) : Prop where
  task : s.nState = .creating → s.tasks.length ≤ 1
  created : s.uiCreated ≤ 1
  /-- Packets of a connection that has not been made have a task, or a call that is about to start one or to
  free them. -/
  sends : s.nState = .creating → s.listSendBuf ≠ [] → s.tasks ≠ [] ∨ ∃ c ∈ s.calls, c.settles = true

/-- A call takes `m_lockSend` of a connection that is `CREATING` only while no task connects it; a connect fails only
on a connection that is not `CREATING` any more or has nothing to send; and a connection is not built again while a
task is under way. -/
def Orderly (s : ProxyConnect) : Action → Prop
  | .call i _ => (s.calls[i]?).any SendPacketCall.waits = true → s.nState = .creating → s.tasks = []
  | .task j env => s.tasks[j]? = some .connecting → env.bConnected = false →
      s.nState = .creating → s.listSendBuf = []
  | .getProxyConnection => s.nState ≠ .established → s.tasks = []
  | .sendPacketData _ | .freeSendingList | .closeConnection _ | .detachProxyConnection => True

instance (s : ProxyConnect) : DecidablePred s.Orderly
  | .call _ _ => inferInstanceAs (Decidable (_ → _ → _))
  | .task _ _ => inferInstanceAs (Decidable (_ → _ → _ → _))
  | .getProxyConnection => inferInstanceAs (Decidable (_ → _))
  | .sendPacketData _ | .freeSendingList | .closeConnection _ | .detachProxyConnection =>
    inferInstanceAs (Decidable True)

end ProxyConnect

end KonsanNet
