import KonsanNet.Epoll
import KonsanNet.Run
import KonsanNet.Send
import Mathlib.Logic.Function.Basic

/-!
# The write event (`WaitThread`, `ProcessEpollEvent`, `SetWaitWritingEvent`)

`SendDataList` asks for `EPOLLOUT` when a `send()` ends with `EAGAIN`; the write event takes that back and sends
on. Any number of threads run `WaitThread`, and others post packets. A thread's step is what it does up to the
next point where epoll or another thread can tell the difference: `EAGAIN` and the `epoll_ctl` behind it are two
steps, so the socket can become writable in between.

`dropped` records the events with `EPOLLOUT` after which `WaitThread` has come back to `epoll_wait` without a
call of `SendDataList`, while the connection was established.
-/

namespace KonsanNet

namespace SendState

/-! ### `PostSend` and `SendDataList` in steps -/

/-- `PostSend` up to its `SendDataList`: what it returns, `none` where it goes on to send. -/
def postPush (s : SendState) (pBufObj : CXBufferObj) : Option (SendState × Option Int) :=
  if s.pSocketKernel = false ∨ pBufObj.len = 0 ∨ 1024 * 1024 < pBufObj.len then some (s, some (-1))
  else if s.nState = .closing ∨ s.nState = .closed then some (s, some (-4))
  else
    match s.pushSendBuffer pBufObj with
    | none => none
    | some (s', false) => some (s', some (-2))
    | some (s', true) => if s'.nState ≠ .established then some (s', some 0) else some (s', none)

theorem postSend_eq (env : SendEnv) (s : SendState) (pBufObj : CXBufferObj) :
    s.postSend env pBufObj = (s.postPush pBufObj).bind fun r =>
      match r.2 with
      | some iRet => some (r.1, iRet)
      | none => r.1.sendDataList env := by
  unfold postSend postPush
  split
  · rfl
  split
  · rfl
  rcases s.pushSendBuffer pBufObj with _ | ⟨s', _ | _⟩
  · rfl
  · rfl
  · by_cases h : s'.nState ≠ .established
    · simp only [if_pos h, Option.bind_some]
    · simp only [if_neg h, Option.bind_some]

/-- How one round of the loop of `SendDataList` ends. -/
inductive SendRound
  | ended
  | again
  | next (nRet : Int) (bNeedClose : Bool) (answers : List SendResult)

/-- One round, from `pCurBuf = m_pListSendBuf` on; after `EAGAIN` up to `SetWaitWritingEvent`. -/
def sendRound (env : SendEnv) (answers : List SendResult) (nRet : Int) (bNeedClose : Bool) (s : SendState) :
    Option (SendState × SendRound) :=
  match s.listSendBuf.head with
  | [] => some (s, .ended)
  | pCurBuf :: rest =>
    if pCurBuf.nSequenceNum = s.uiLastSentPacketSequenceNum + 1 then
      match sendBytes 0 pCurBuf.len answers with
      | none => none
      | some (.again nLeft, nTotal, _) => some (s.keepHead pCurBuf rest nTotal nLeft, .again)
      | some (.failed nRet', nTotal, answers') =>
        some ((s.popSent pCurBuf rest nTotal).closeConnection env, .next nRet' true answers')
      | some (.sent, nTotal, answers') =>
        some (if bNeedClose ∨ s.nState = .closing then (s.popSent pCurBuf rest nTotal).closeConnection env
          else s.popSent pCurBuf rest nTotal, .next nRet bNeedClose answers')
    else some (s, .ended)

theorem closeConnection_list (env : SendEnv) (s : SendState) :
    (s.closeConnection env).listSendBuf = s.listSendBuf := by
  unfold closeConnection
  split <;> rfl

theorem sendLoop_eq_sendRound (env : SendEnv) (answers : List SendResult) (nRet : Int) (bNeedClose : Bool)
    (s : SendState) :
    sendLoop env s.listSendBuf.head answers nRet bNeedClose s =
      (sendRound env answers nRet bNeedClose s).bind fun r =>
        match r.2 with
        | .ended => some (r.1, nRet)
        | .again => some (r.1, if env.setWaitWritingEvent then 0 else -4)
        | .next nRet' bNeedClose' answers' =>
          sendLoop env r.1.listSendBuf.head answers' nRet' bNeedClose' r.1 := by
  unfold sendRound
  rcases hl : s.listSendBuf.head with _ | ⟨b, rest⟩
  · rfl
  rw [sendLoop]
  by_cases hb : b.nSequenceNum = s.uiLastSentPacketSequenceNum + 1
  · simp only [if_pos hb]
    rcases sendBytes 0 b.len answers with _ | ⟨_ | nLeft | nRet', nTotal, answers'⟩
    · rfl
    · simp only [Option.bind_some]
      split
      · rw [closeConnection_list]
        rfl
      · rfl
    · rfl
    · simp only [Option.bind_some]
      rw [closeConnection_list]
      rfl
  · simp only [if_neg hb, Option.bind_some]

/-- The head of the send list is the packet to be sent next. -/
def HeadNext (s : SendState) : Prop :=
  ∃ b ∈ s.listSendBuf.head.head?, b.nSequenceNum = s.uiLastSentPacketSequenceNum + 1

end SendState

/-- Who runs `SendDataList`. -/
inductive SendCaller
  /-- a thread outside `WaitThread` -/
  | task
  /-- a message that is handled in `ProcessEpollEvent(con)` -/
  | reader (ev : EpollEvent)
  /-- `ProcessEpollEvent(con, false)` -/
  | writer (ev : EpollEvent)
deriving DecidableEq

/-- Where a thread stands. -/
inductive EpollThread
  /-- in `epoll_wait`, or not working on this connection -/
  | waiting
  /-- at the tests of the event's flags -/
  | event (ev : EpollEvent)
  /-- in `ProcessEpollEvent(con)` -/
  | reading (ev : EpollEvent)
  /-- in `ProcessEpollEvent(con, false)`, at `LockSend` -/
  | writing (ev : EpollEvent)
  /-- at `SetWaitWritingEvent(false)`, with `m_lockSend` -/
  | clearWait (ev : EpollEvent)
  /-- in `PostSend`, with `m_lockSend` -/
  | post (pBufObj : CXBufferObj) (caller : SendCaller)
  /-- at a round of `SendDataList`, with `m_lockSend` -/
  | sendList (nRet : Int) (bNeedClose : Bool) (caller : SendCaller)
  /-- at `SetWaitWritingEvent(true)`, with `m_lockSend` -/
  | setWait (caller : SendCaller)
  /-- at the test for `EPOLLERR`; `bSent` tells whether `SendDataList` has been called for the event -/
  | checkError (ev : EpollEvent) (bSent : Bool)
deriving DecidableEq

/-- Where the thread goes on after `PostSend` or `SendDataList`. -/
def SendCaller.back : SendCaller → EpollThread
  | .task => .waiting
  | .reader ev => .reading ev
  | .writer ev => .checkError ev true

structure WriteEvents where
  con : SendState
  item : EpollItem
  /-- `m_lockSend` -/
  bLocked : Bool
  thread : Nat → EpollThread
  dropped : List EpollEvent

namespace WriteEvents

def setThread (s : WriteEvents) (t : Nat) (c : EpollThread) : WriteEvents :=
  { s with thread := Function.update s.thread t c }

def lock (s : WriteEvents) (t : Nat) (c : EpollThread) : Option WriteEvents :=
  if s.bLocked then none else some ({ s with bLocked := true }.setThread t c)

def unlock (s : WriteEvents) (t : Nat) (c : EpollThread) : WriteEvents :=
  { s with bLocked := false }.setThread t c

/-- The connection after a step of the send functions; `CloseConnection` has detached it and closed its socket. -/
def withCon (s : WriteEvents) (con : SendState) : WriteEvents :=
  { s with con := con, item := if con.nState = .established then s.item else s.item.remove }

def closeConnection (env : SendEnv) (s : WriteEvents) : WriteEvents := s.withCon (s.con.closeConnection env)

/-- `bOk` is the answer of `epoll_ctl`; where it fails, the socket is closed. -/
def setWaitWritingEvent (s : WriteEvents) (bSet bOk : Bool) : WriteEvents × Bool :=
  if bOk && s.item.registered then ({ s with item := s.item.modify bSet }, true)
  else ({ s with item := s.item.remove }, false)

inductive Act
  /-- `epoll_wait` reports an event of the connection. -/
  | deliver (t : Nat) (ev : EpollEvent)
  /-- the tests for `EPOLLIN` and `EPOLLOUT` -/
  | dispatch (t : Nat)
  /-- The read loop ends, with an error if there is an `env`. -/
  | readEnd (t : Nat) (env : Option SendEnv)
  | lockSend (t : Nat)
  | clearWait (t : Nat) (bOk : Bool)
  /-- A thread takes `m_lockSend` and calls `PostSend`. -/
  | post (t : Nat) (pBufObj : CXBufferObj)
  | push (t : Nat)
  /-- A thread takes `m_lockSend` and calls `SendDataList` (`CXTaskCreateConnection`). -/
  | sendDataList (t : Nat)
  | round (t : Nat) (env : SendEnv)
  | setWait (t : Nat) (bOk : Bool)
  /-- the test for `EPOLLERR` and `EPOLLHUP` -/
  | checkError (t : Nat) (env : SendEnv)
  /-- The peer reads. -/
  | writable
  /-- The last bytes that were written have filled the socket. -/
  | full
  | close (env : SendEnv)

/-- The branches of `WaitThread`. -/
def dispatch (ev : EpollEvent) : EpollThread :=
  if ev.epollin then .reading ev
  else if ev.epollout then .writing ev
  else .checkError ev false

def step (s : WriteEvents) : Act → Option WriteEvents
  | .deliver t ev =>
    match s.thread t with
    | .waiting => (s.item.deliver ev).map fun item => { s with item := item }.setThread t (.event ev)
    | _ => none
  | .dispatch t =>
    match s.thread t with
    | .event ev => some (s.setThread t (dispatch ev))
    | _ => none
  | .readEnd t env =>
    match s.thread t with
    | .reading ev => some ((env.elim s s.closeConnection).setThread t (.checkError ev false))
    | _ => none
  | .lockSend t =>
    match s.thread t with
    | .writing ev => s.lock t (.clearWait ev)
    | _ => none
  | .clearWait t bOk =>
    match s.thread t with
    | .clearWait ev =>
      match s.setWaitWritingEvent false bOk with
      | (s', true) => some (s'.setThread t (.sendList 0 false (.writer ev)))
      | (s', false) => some (s'.unlock t (.checkError ev false))
    | _ => none
  | .post t pBufObj =>
    match s.thread t with
    | .waiting => s.lock t (.post pBufObj .task)
    | .reading ev => s.lock t (.post pBufObj (.reader ev))
    | _ => none
  | .push t =>
    match s.thread t with
    | .post pBufObj caller =>
      match s.con.postPush pBufObj with
      | none => none
      | some (con, some _) => some ((s.withCon con).unlock t (caller.back))
      | some (con, none) => some ((s.withCon con).setThread t (.sendList 0 false caller))
    | _ => none
  | .sendDataList t =>
    match s.thread t with
    | .waiting => s.lock t (.sendList 0 false .task)
    | _ => none
  | .round t env =>
    match s.thread t with
    | .sendList nRet bNeedClose caller =>
      match s.con.sendRound env env.send nRet bNeedClose with
      | none => none
      | some (con, .ended) => some ((s.withCon con).unlock t (caller.back))
      | some (con, .again) => some ({ s.withCon con with item := s.item.block }.setThread t (.setWait caller))
      | some (con, .next nRet' bNeedClose' _) =>
        some ((s.withCon con).setThread t (.sendList nRet' bNeedClose' caller))
    | _ => none
  | .setWait t bOk =>
    match s.thread t with
    | .setWait caller => some ((s.setWaitWritingEvent true bOk).1.unlock t (caller.back))
    | _ => none
  | .checkError t env =>
    match s.thread t with
    | .checkError ev bSent =>
      let s' := if ev.epollerr then s.closeConnection env else s
      let dropped :=
        if ev.epollout ∧ bSent = false ∧ s.con.nState = .established then ev :: s.dropped else s.dropped
      some ({ s' with dropped := dropped }.setThread t .waiting)
    | _ => none
  | .writable => some { s with item := s.item.becomeWritable }
  | .full => some { s with item := s.item.block }
  | .close env => some (s.closeConnection env)

/-- A connection that has just been established. Packets that were posted before that are sent by the task that has
created the connection (`CXTaskCreateConnection`). -/
structure Started (s : WriteEvents) : Prop where
  established : s.con.nState = .established
  registered : s.item.registered = true
  linked : s.con.listSendBuf.head.isEmpty = s.con.listSendBuf.endSeq.isNone
  thread : ∀ t, s.thread t = .waiting ∨ s.thread t = .sendList 0 false .task
  sends : s.con.HeadNext → ∃ t, s.thread t = .sendList 0 false .task
  dropped : s.dropped = []

/-- `AttachConnetionToModel` does not ask for `EPOLLOUT`. -/
def attached (con : SendState) : WriteEvents where
  con := con
  item := ⟨true, false, true, false⟩
  bLocked := false
  thread _ := .waiting
  dropped := []

end WriteEvents

end KonsanNet
