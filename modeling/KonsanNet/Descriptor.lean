import Mathlib.Tactic
import KonsanNet.Run
import KonsanNet.Send

/-!
# The socket descriptor of one connection

What is done with `m_sock`, from `accept` (or, for a proxied connection, `CXConnectionObject::OnCreated`) on:
`log` lists the calls on the descriptor in their order. A step goes from one test, call or locked section to
the next. The threads are the one that opens the connection (`building`), those in `RecvData` between its test
of `m_nState` and `m_lockRead` (`receiving` of them), the one in `SendDataList`, which holds `m_lockSend`
(`sending`), and those in `CloseConnection`, which hold `m_lock` between `DetachConnetionToModel` and `Close`
(`closing`, or the sender's stage of that name). Whatever `recv`, `send` and `epoll_ctl` return is part of the
action, and so is whether `CloseConnection` finds the four counters zero.
-/

namespace KonsanNet

/-- A call on the descriptor. -/
inductive FdOp
  | epollAdd
  | epollMod
  | epollDel
  | send
  | recv
  | closesocket
deriving DecidableEq, Repr

/-- `BuildConnection` and `ListenThread`, or `OnProxyConnectionCreated`. -/
inductive OpenStage
  | accepted
  | built
  | attached
  /-- `AttachConnetionToModel` has failed -/
  | refused
  /-- `OnAccept` has returned an error to `ListenThread` -/
  | returned
  | opened
deriving DecidableEq, Repr

inductive SendStage
  | idle
  /-- the test of the outer loop -/
  | next
  /-- the inner loop -/
  | bytes
  /-- `EAGAIN` -/
  | again
  /-- the head has been sent, or given up, and freed -/
  | popped
  /-- in `CloseConnection` -/
  | closing
deriving DecidableEq, Repr

/-- How one `send()` ends, for the inner loop. -/
inductive SentBytes
  | more
  | all
  | eagain
  | error
deriving DecidableEq, Repr

structure Socket where
  bAccepted : Bool
  nState : ConnectionState
  building : OpenStage
  receiving : Nat
  sending : SendStage
  bNeedClose : Bool
  closing : Bool
  listSendBuf : SeqList Nat
  uiLastSentPacketSequenceNum : Nat
  log : List FdOp

inductive SocketAct
  /-- The opening goes on; `ok` tells whether there is an object for it, or whether `epoll_ctl` succeeds. -/
  | build (ok : Bool)
  /-- `RecvData` tests the state -/
  | recvTest
  /-- the locked section of `RecvData`, with so many calls -/
  | recv (n : Nat)
  | postSend (nSequenceNum : Nat)
  /-- the write event of `ProcessEpollEvent`, up to `SendDataList` -/
  | writeEvent (ok : Bool)
  /-- `CXTaskCreateConnection` sends what has been queued -/
  | flush
  /-- `SendDataList` goes on; `ok` tells whether `epoll_ctl` succeeds, or whether the counters are zero -/
  | sendDataList (r : SentBytes) (ok : Bool)
  /-- `CloseConnection`, up to `Close` -/
  | closeTest
  | close (bZero : Bool)

/-- `m_nState < CLOSING` -/
def ConnectionState.beforeClosing : ConnectionState → Bool
  | .closing | .closed => false
  | .initialized | .creating | .pending | .established => true

namespace Socket

/-- An accepted descriptor, or a proxied one with the packets that were queued while it was created. -/
def start (queued : Option (SeqList Nat)) : Socket where
  bAccepted := queued.isNone
  nState := if queued.isNone then .initialized else .established
  building := if queued.isNone then .accepted else .built
  receiving := 0
  sending := .idle
  bNeedClose := false
  closing := false
  listSendBuf := queued.getD SeqList.empty
  uiLastSentPacketSequenceNum := 0
  log := []

def op (s : Socket) (f : FdOp) : Socket := { s with log := s.log ++ [f] }

/-- Nobody holds `m_lock`. -/
def unlocked (s : Socket) : Bool := !s.closing && s.sending != .closing

/-- `CXConnectionObject::Close` -/
def closeSock (s : Socket) : Socket :=
  if s.nState.beforeClosing then { s.op .closesocket with nState := .closing } else s

/-- The test of the state in `CloseConnection`, and `DetachConnetionToModel`. -/
def detach (s : Socket) : Socket :=
  if s.nState = .pending ∨ s.nState = .established then s.op .epollDel else s

/-- `CloseConnection` from `Close` on. -/
def closeConnection (s : Socket) (bZero : Bool) : Socket :=
  if bZero then { s.closeSock with nState := .closed } else s.closeSock

/-- `SetWaitWritingEvent` -/
def setWaitWritingEvent (s : Socket) (ok : Bool) : Socket :=
  if ok then s.op .epollMod else (s.op .epollMod).op .closesocket

def build (s : Socket) (ok : Bool) : Option Socket :=
  match s.building with
  | .accepted =>
    some (if ok then { s with nState := .pending, building := .built }
      else { s.op .closesocket with building := .returned })
  | .built =>
    some (if ok then { s.op .epollAdd with building := .attached }
      else { (s.op .epollAdd).op .closesocket with building := .refused })
  | .attached => some { s with nState := .established, building := .opened }
  | .refused =>
    if s.unlocked then
      some { s.closeSock with nState := .closed, building := if s.bAccepted then .returned else .opened }
    else none
  | .returned => some { s.op .closesocket with building := .opened }
  | .opened => none

def recvTest (s : Socket) : Option Socket :=
  if s.building ≠ .accepted ∧ s.nState.beforeClosing then some { s with receiving := s.receiving + 1 } else none

def recv (s : Socket) (n : Nat) : Option Socket :=
  if s.receiving = 0 then none
  else some { s with receiving := s.receiving - 1, log := s.log ++ List.replicate n .recv }

/-- `PostSend`. The first test of the state is not modelled: it does not hold any more when the buffer is pushed. -/
def postSend (s : Socket) (nSequenceNum : Nat) : Option Socket :=
  if s.building ≠ .accepted ∧ s.sending = .idle then
    (SeqList.push id s.listSendBuf nSequenceNum).map fun r =>
      if r.2 ∧ s.nState = .established then { s with listSendBuf := r.1, sending := .next, bNeedClose := false }
      else { s with listSendBuf := r.1 }
  else none

def writeEvent (s : Socket) (ok : Bool) : Option Socket :=
  if s.building ≠ .accepted ∧ s.sending = .idle then
    some { s.setWaitWritingEvent ok with sending := if ok then .next else .idle, bNeedClose := false }
  else none

def flush (s : Socket) : Option Socket :=
  if s.bAccepted = false ∧ s.building = .opened ∧ s.sending = .idle then
    some { s with sending := .next, bNeedClose := false }
  else none

/-- The head of the list is the next packet. -/
def headNext (s : Socket) : Bool := s.listSendBuf.head.head? == some (s.uiLastSentPacketSequenceNum + 1)

def popHead (s : Socket) : Socket :=
  { s with
    uiLastSentPacketSequenceNum := s.uiLastSentPacketSequenceNum + 1
    listSendBuf := ⟨s.listSendBuf.head.tail, if s.listSendBuf.head.tail.isEmpty then none else s.listSendBuf.endSeq⟩
    sending := .popped }

def sendBytes (s : Socket) : SentBytes → Socket
  | .more => s.op .send
  | .all => (s.op .send).popHead
  | .eagain => { s.op .send with sending := .again }
  | .error => { (s.op .send).popHead with bNeedClose := true }

/-- The next step of the thread in `SendDataList`. -/
def sendDataList (s : Socket) (r : SentBytes) (ok : Bool) : Option Socket :=
  match s.sending with
  | .idle => none
  | .next => some { s with sending := if s.headNext then .bytes else .idle }
  | .bytes => some (s.sendBytes r)
  | .again => some { s.setWaitWritingEvent ok with sending := .idle }
  | .popped =>
    if s.bNeedClose ∨ s.nState = .closing then
      if s.unlocked then
        some (if s.nState = .closed then { s with sending := .next } else { s.detach with sending := .closing })
      else none
    else some { s with sending := .next }
  | .closing => some { s.closeConnection ok with sending := .next }

def closeTest (s : Socket) : Option Socket :=
  if s.building ≠ .accepted ∧ s.unlocked then
    some (if s.nState = .closed then s else { s.detach with closing := true })
  else none

def close (s : Socket) (bZero : Bool) : Option Socket :=
  if s.closing then some { s.closeConnection bZero with closing := false } else none

def step (s : Socket) : SocketAct → Option Socket
  | .build ok => s.build ok
  | .recvTest => s.recvTest
  | .recv n => s.recv n
  | .postSend n => s.postSend n
  | .writeEvent ok => s.writeEvent ok
  | .flush => s.flush
  | .sendDataList r ok => s.sendDataList r ok
  | .closeTest => s.closeTest
  | .close bZero => s.close bZero

/-- The descriptor is closed at most once, and nothing is done with it afterwards. -/
def ClosedLast (log : List FdOp) : Prop := ∀ pre post, log = pre ++ FdOp.closesocket :: post → post = []

/-! ### The runs without a defect -/

/-- The thread in `SendDataList` goes on to use the descriptor. -/
def willSend (s : Socket) : Bool :=
  match s.sending with
  | .idle => false
  | .next | .popped | .closing => s.headNext
  | .bytes | .again => true

/-- No other thread is about to use the descriptor, and no packet is next for the sender. -/
def quiet (s : Socket) : Bool := s.receiving == 0 && s.building == .opened && !s.willSend

/-- The step fails neither in `epoll_ctl` nor for want of an object, does not start to write to a closed
connection, and closes the connection only when it is quiet. -/
def stepOk (s : Socket) : SocketAct → Bool
  | .build ok => ok || (s.building != .accepted && s.building != .built)
  | .writeEvent ok => ok && s.nState.beforeClosing
  | .flush => s.nState.beforeClosing || !s.headNext
  | .sendDataList _ ok =>
    (s.sending != .again || ok) && (s.sending != .closing || !s.nState.beforeClosing || s.quiet)
  | .close _ => !s.nState.beforeClosing || s.quiet
  | _ => true

/-! ### The log -/

variable {s s' : Socket} {log calls : List FdOp}

theorem closedLast_of_notMem (h : FdOp.closesocket ∉ log) : ClosedLast log := by
  intro pre post heq
  exact absurd (by rw [heq]; simp) h

theorem closedLast_append_closesocket (h : FdOp.closesocket ∉ log) : ClosedLast (log ++ [.closesocket]) := by
  intro pre post heq
  rcases List.eq_nil_or_concat post with rfl | ⟨post', y, rfl⟩
  · rfl
  · have heq : log ++ [FdOp.closesocket] = (pre ++ FdOp.closesocket :: post') ++ [y] := by simpa using heq
    obtain ⟨hlog, -⟩ := List.append_inj' heq rfl
    exact absurd (by rw [hlog]; simp) h

/-- Anything after a `closesocket` is too much. -/
theorem not_closedLast_append (h : FdOp.closesocket ∈ log) (hne : calls ≠ []) : ¬ClosedLast (log ++ calls) := by
  obtain ⟨pre, post, rfl⟩ := List.append_of_mem h
  intro hc
  have := hc pre (post ++ calls) (by simp)
  exact hne (List.append_eq_nil_iff.mp this).2

/-! ### The invariant -/

structure Inv (s : Socket) : Prop where
  opened : s.nState.beforeClosing → FdOp.closesocket ∉ s.log
  closed : s.nState.beforeClosing = false → ∃ log, s.log = log ++ [FdOp.closesocket] ∧ FdOp.closesocket ∉ log
  quiet : s.nState.beforeClosing = false → s.quiet
  building : s.building ≠ .refused ∧ s.building ≠ .returned

theorem Inv.start (queued : Option (SeqList Nat)) : Inv (start queued) := by
  cases queued with
  | none => constructor <;> simp [Socket.start, ConnectionState.beforeClosing]
  | some l => constructor <;> simp [Socket.start, ConnectionState.beforeClosing]

theorem Inv.closedLast (h : Inv s) : ClosedLast s.log := by
  cases hst : s.nState.beforeClosing with
  | true => exact closedLast_of_notMem (h.opened hst)
  | false =>
    obtain ⟨log, hlog, hnot⟩ := h.closed hst
    rw [hlog]
    exact closedLast_append_closesocket hnot

theorem quiet_iff : s.quiet ↔ s.receiving = 0 ∧ s.building = .opened ∧ s.willSend = false := by
  simp [Socket.quiet, and_assoc]

theorem Inv.op {f : FdOp} (h : Inv s) (hst : s.nState.beforeClosing) (hf : f ≠ .closesocket) : Inv (s.op f) where
  opened _ := by
    have := h.opened hst
    simp [Socket.op, this, hf.symm]
  closed hst' := absurd hst (by simp [show s.nState.beforeClosing = false from hst'])
  quiet hst' := absurd hst (by simp [show s.nState.beforeClosing = false from hst'])
  building := h.building

theorem Inv.live (hst : s'.nState.beforeClosing) (hlog : FdOp.closesocket ∉ s'.log)
    (hb : s'.building ≠ .refused ∧ s'.building ≠ .returned) : Inv s' :=
  ⟨fun _ => hlog, fun h => absurd hst (by simp [h]), fun h => absurd hst (by simp [h]), hb⟩

theorem Inv.same (h : Inv s) (hst : s'.nState = s.nState) (hlog : s'.log = s.log)
    (hq : s.nState.beforeClosing = false → s.quiet → s'.quiet)
    (hb : s'.building ≠ .refused ∧ s'.building ≠ .returned) : Inv s' where
  opened h' := by rw [hlog]; exact h.opened (hst ▸ h')
  closed h' := by rw [hlog]; exact h.closed (hst ▸ h')
  quiet h' := hq (hst ▸ h') (h.quiet (hst ▸ h'))
  building := hb

theorem Inv.build {ok : Bool} (h : Inv s) (hs : s.build ok = some s') (hok : s.stepOk (.build ok)) : Inv s' := by
  have hlive : s.building ≠ .opened → s.nState.beforeClosing = true := fun hb => by
    by_contra hst
    exact hb (quiet_iff.mp (h.quiet (by simpa using hst))).2.1
  unfold Socket.build at hs
  cases hb : s.building with
  | accepted =>
    have hok : ok = true := by simpa [stepOk, hb] using hok
    rw [hb, hok] at hs
    cases hs
    exact Inv.live rfl (h.opened (hlive (by simp [hb]))) (by simp)
  | built =>
    have hok : ok = true := by simpa [stepOk, hb] using hok
    rw [hb, hok] at hs
    cases hs
    have hst := hlive (by simp [hb])
    exact Inv.live hst (by simp [Socket.op, h.opened hst]) (by simp)
  | attached =>
    rw [hb] at hs
    cases hs
    exact Inv.live rfl (h.opened (hlive (by simp [hb]))) (by simp)
  | refused => exact absurd hb h.building.1
  | returned => exact absurd hb h.building.2
  | opened =>
    rw [hb] at hs
    cases hs

theorem Inv.detach (h : Inv s) : Inv s.detach := by
  unfold Socket.detach
  split
  case isTrue hst =>
    refine h.op ?_ (by simp)
    rcases hst with hst | hst <;> rw [hst] <;> rfl
  case isFalse => exact h

theorem quiet_closeConnection {bZero : Bool} : (s.closeConnection bZero).quiet = s.quiet := by
  unfold Socket.closeConnection closeSock
  split <;> split <;> rfl

theorem building_closeConnection {bZero : Bool} : (s.closeConnection bZero).building = s.building := by
  unfold Socket.closeConnection closeSock
  split <;> split <;> rfl

theorem sending_closeConnection {bZero : Bool} : (s.closeConnection bZero).sending = s.sending := by
  unfold Socket.closeConnection closeSock
  split <;> split <;> rfl

theorem beforeClosing_closeConnection {bZero : Bool} :
    (s.closeConnection bZero).nState.beforeClosing = false := by
  unfold Socket.closeConnection closeSock
  split <;> split <;> simp_all [ConnectionState.beforeClosing]

theorem Inv.closeConnection {bZero : Bool} (h : Inv s) (hq : s.nState.beforeClosing → s.quiet) :
    Inv (s.closeConnection bZero) := by
  have hquiet : s.quiet := by
    cases hst : s.nState.beforeClosing with
    | true => exact hq hst
    | false => exact h.quiet hst
  have hlog : ∃ log, s.closeSock.log = log ++ [FdOp.closesocket] ∧ FdOp.closesocket ∉ log := by
    unfold closeSock
    split
    case isTrue hst => exact ⟨s.log, rfl, h.opened hst⟩
    case isFalse hst => exact h.closed (by simpa using hst)
  refine ⟨fun h' => absurd h' (by simp [beforeClosing_closeConnection]), fun _ => ?_, fun _ => ?_, ?_⟩
  · unfold Socket.closeConnection
    split <;> exact hlog
  · rw [quiet_closeConnection]
    exact hquiet
  · have hb : (s.closeConnection bZero).building = s.building := by
      unfold Socket.closeConnection closeSock
      split <;> split <;> rfl
    rw [hb]
    exact h.building

theorem Inv.recvTest (h : Inv s) (hs : s.recvTest = some s') : Inv s' := by
  unfold Socket.recvTest at hs
  split at hs <;> cases hs
  case isTrue hst => exact Inv.live hst.2 (h.opened hst.2) h.building

theorem Inv.recv {n : Nat} (h : Inv s) (hs : s.recv n = some s') : Inv s' := by
  unfold Socket.recv at hs
  split at hs <;> cases hs
  case isFalse hr =>
    have hst : s.nState.beforeClosing = true := by
      by_contra hst
      exact hr (quiet_iff.mp (h.quiet (by simpa using hst))).1
    exact Inv.live hst (by simp [h.opened hst]) h.building

theorem Inv.postSend {n : Nat} (h : Inv s) (hs : s.postSend n = some s') : Inv s' := by
  unfold Socket.postSend at hs
  split at hs
  case isFalse => cases hs
  case isTrue hidle =>
    obtain ⟨r, -, rfl⟩ := Option.map_eq_some_iff.mp hs
    split
    case isTrue hst =>
      have hlive : s.nState.beforeClosing = true := by rw [hst.2]; rfl
      exact Inv.live hlive (h.opened hlive) h.building
    case isFalse =>
      refine h.same rfl rfl (fun _ hq => ?_) h.building
      have hq := quiet_iff.mp hq
      exact quiet_iff.mpr ⟨hq.1, hq.2.1, by simp [willSend, hidle.2]⟩

theorem Inv.writeEvent {ok : Bool} (h : Inv s) (hs : s.writeEvent ok = some s')
    (hok : s.stepOk (.writeEvent ok)) : Inv s' := by
  obtain ⟨rfl, hst⟩ : ok = true ∧ s.nState.beforeClosing = true := by simpa [stepOk] using hok
  unfold Socket.writeEvent at hs
  split at hs <;> cases hs
  exact Inv.live hst (by simp [setWaitWritingEvent, Socket.op, h.opened hst]) h.building

theorem Inv.flush (h : Inv s) (hs : s.flush = some s') (hok : s.stepOk .flush) : Inv s' := by
  unfold Socket.flush at hs
  split at hs <;> cases hs
  refine h.same rfl rfl (fun hst hq => ?_) h.building
  have hq := quiet_iff.mp hq
  have hhead : s.headNext = false := by simpa [stepOk, hst] using hok
  exact quiet_iff.mpr ⟨hq.1, hq.2.1, hhead⟩

/-- The thread in `SendDataList` at a stage in which it uses the descriptor. -/
theorem Inv.live_of_willSend (h : Inv s) (hw : s.willSend) : s.nState.beforeClosing = true := by
  by_contra hst
  exact absurd hw (by simp [(quiet_iff.mp (h.quiet (by simpa using hst))).2.2])

theorem Inv.sendBytes {r : SentBytes} (h : Inv s) (hst : s.nState.beforeClosing) : Inv (s.sendBytes r) := by
  cases r <;> exact Inv.live hst (by simp [Socket.op, Socket.sendBytes, popHead, h.opened hst]) h.building

/-- The thread only goes to another stage, with the same packet to look at. -/
theorem Inv.stage {st : SendStage} (h : Inv s)
    (hw : s.willSend = false → willSend { s with sending := st } = false) :
    Inv { s with sending := st } := by
  refine h.same rfl rfl (fun _ hq => ?_) h.building
  have hq := quiet_iff.mp hq
  exact quiet_iff.mpr ⟨hq.1, hq.2.1, hw hq.2.2⟩

theorem Inv.sendDataList {r : SentBytes} {ok : Bool} (h : Inv s) (hs : s.sendDataList r ok = some s')
    (hok : s.stepOk (.sendDataList r ok)) : Inv s' := by
  unfold Socket.sendDataList at hs
  cases hsend : s.sending with
  | idle =>
    rw [hsend] at hs
    cases hs
  | next =>
    rw [hsend] at hs
    cases hs
    refine h.stage fun hw => ?_
    have hhead : s.headNext = false := by simpa [willSend, hsend] using hw
    rw [hhead]
    rfl
  | bytes =>
    rw [hsend] at hs
    cases hs
    exact h.sendBytes (h.live_of_willSend (by simp [willSend, hsend]))
  | again =>
    rw [hsend] at hs
    cases hs
    have hok : ok = true := by simpa [stepOk, hsend] using hok
    have hst := h.live_of_willSend (by simp [willSend, hsend])
    rw [hok]
    exact Inv.live hst (by simp [setWaitWritingEvent, Socket.op, h.opened hst]) h.building
  | popped =>
    rw [hsend] at hs
    have hw : ∀ s : Socket, s.sending = .popped → ∀ st, st = .next ∨ st = .closing → s.willSend = false →
        willSend { s with sending := st } = false := by
      rintro s hsend st (rfl | rfl) hw <;> simpa [willSend, headNext, hsend] using hw
    have hdet : s.detach.sending = .popped := by
      unfold Socket.detach
      split <;> exact hsend
    dsimp only at hs
    split at hs
    case isFalse =>
      cases hs
      exact h.stage (hw s hsend .next (.inl rfl))
    case isTrue =>
      split at hs <;> cases hs
      split
      · exact h.stage (hw s hsend .next (.inl rfl))
      · exact h.detach.stage (hw _ hdet .closing (.inr rfl))
  | closing =>
    rw [hsend] at hs
    cases hs
    have hc : Inv (s.closeConnection ok) := h.closeConnection fun hst => by
      simpa [stepOk, hsend, hst] using hok
    refine hc.stage fun hw => ?_
    have hsend' : (s.closeConnection ok).sending = .closing := sending_closeConnection.trans hsend
    simpa [willSend, headNext, hsend'] using hw

theorem Inv.closeTest (h : Inv s) (hs : s.closeTest = some s') : Inv s' := by
  unfold Socket.closeTest at hs
  split at hs <;> cases hs
  split
  · exact h
  · exact h.detach.same rfl rfl (fun _ hq => hq) h.detach.building

theorem Inv.close {bZero : Bool} (h : Inv s) (hs : s.close bZero = some s') (hok : s.stepOk (.close bZero)) :
    Inv s' := by
  unfold Socket.close at hs
  split at hs <;> cases hs
  have hc : Inv (s.closeConnection bZero) := h.closeConnection fun hst => by simpa [stepOk, hst] using hok
  exact hc.same rfl rfl (fun _ hq => hq) hc.building

theorem Inv.step {a : SocketAct} (h : Inv s) (hs : s.step a = some s') (hok : s.stepOk a) : Inv s' := by
  cases a with
  | build ok => exact h.build hs hok
  | recvTest => exact h.recvTest hs
  | recv n => exact h.recv hs
  | postSend n => exact h.postSend hs
  | writeEvent ok => exact h.writeEvent hs hok
  | flush => exact h.flush hs hok
  | sendDataList r ok => exact h.sendDataList hs hok
  | closeTest => exact h.closeTest hs
  | close bZero => exact h.close hs hok

/-! ### The condition is sharp -/

/-- Some run from here does something with the closed descriptor. -/
def Fails (s : Socket) : Prop := ∃ as s', runSteps step s as = some s' ∧ ¬ClosedLast s'.log

theorem Fails.now (h : ¬ClosedLast s.log) : Fails s := ⟨[], s, rfl, h⟩

theorem Fails.step {a : SocketAct} (hs : s.step a = some s') (h : Fails s') : Fails s := by
  obtain ⟨as, s'', hr, hl⟩ := h
  exact ⟨a :: as, s'', by rw [runSteps, hs]; exact hr, hl⟩

theorem Fails.after (calls : List FdOp) (h : FdOp.closesocket ∈ s.log) (hlog : s'.log = s.log ++ calls)
    (hne : calls ≠ []) : Fails s' :=
  Fails.now (by rw [hlog]; exact not_closedLast_append h hne)

theorem log_closeConnection {bZero : Bool} (hst : s.nState.beforeClosing) :
    (s.closeConnection bZero).log = s.log ++ [.closesocket] := by
  unfold Socket.closeConnection closeSock
  rw [if_pos hst]
  split <;> rfl

theorem Fails.close (h : FdOp.closesocket ∈ s.log) (hst : s.nState.beforeClosing) (hc : s.closing = true) :
    Fails s := by
  refine Fails.step (a := .close false) (by rw [Socket.step, Socket.close, if_pos hc]) ?_
  exact Fails.after [.closesocket] h (log_closeConnection hst) (by simp)

/-- The descriptor has been closed without a change of the state: `CloseConnection` closes it again. -/
theorem Fails.closeAgain (h : FdOp.closesocket ∈ s.log) (hst : s.nState.beforeClosing) : Fails s := by
  by_cases hb : s.building = .accepted
  · refine Fails.step (a := .build true) (by rw [Socket.step, Socket.build, hb]) ?_
    refine Fails.step (a := .build true) rfl ?_
    exact Fails.after [.epollAdd] h rfl (by simp)
  by_cases hsend : s.sending = .closing
  · refine Fails.step (a := .sendDataList .all false) (by rw [Socket.step, Socket.sendDataList, hsend]) ?_
    exact Fails.after [.closesocket] h (log_closeConnection hst) (by simp)
  by_cases hc : s.closing = true
  · exact Fails.close h hst hc
  have hu : s.unlocked = true := by simp [unlocked, hc, hsend]
  have hne : s.nState ≠ .closed := by
    intro heq
    rw [heq] at hst
    cases hst
  refine Fails.step (a := .closeTest) (by rw [Socket.step, Socket.closeTest, if_pos ⟨hb, hu⟩, if_neg hne]) ?_
  have hmem : FdOp.closesocket ∈ s.detach.log := by
    unfold Socket.detach
    split <;> simp [Socket.op, h]
  have hdet : s.detach.nState.beforeClosing := by
    unfold Socket.detach
    split <;> exact hst
  exact Fails.close (s := { s.detach with closing := true }) hmem hdet rfl

theorem Fails.next (h : FdOp.closesocket ∈ s.log) (hsend : s.sending = .next) (hhead : s.headNext) : Fails s := by
  have h₁ : s.step (.sendDataList .all true) = some { s with sending := .bytes } := by
    rw [Socket.step, Socket.sendDataList, hsend]
    dsimp only
    rw [hhead, if_pos rfl]
  refine Fails.step h₁ (Fails.step (a := .sendDataList .more true) rfl ?_)
  exact Fails.after [.send] h rfl (by simp)

theorem closeConnection_dead (hst : s.nState.beforeClosing = false) : s.closeConnection false = s := by
  unfold Socket.closeConnection closeSock
  simp [hst]

theorem Fails.popped (h : FdOp.closesocket ∈ s.log) (hst : s.nState.beforeClosing = false) (hu : s.unlocked)
    (hsend : s.sending = .popped) (hhead : s.headNext) : Fails s := by
  by_cases hclose : s.bNeedClose = true ∨ s.nState = .closing
  · by_cases hclosed : s.nState = .closed
    · have h₁ : s.step (.sendDataList .all true) = some { s with sending := .next } := by
        rw [Socket.step, Socket.sendDataList, hsend]
        dsimp only
        rw [if_pos hclose, if_pos hu, if_pos hclosed]
      exact Fails.step h₁ (Fails.next h rfl hhead)
    · have hdet : s.detach = s := by
        unfold Socket.detach
        rw [if_neg]
        rintro (h' | h') <;> rw [h'] at hst <;> cases hst
      have h₁ : s.step (.sendDataList .all true) = some { s with sending := .closing } := by
        rw [Socket.step, Socket.sendDataList, hsend]
        dsimp only
        rw [if_pos hclose, if_pos hu, if_neg hclosed, hdet]
      refine Fails.step h₁ (Fails.step (a := .sendDataList .all false) rfl ?_)
      rw [closeConnection_dead (s := { s with sending := .closing }) hst]
      exact Fails.next h rfl hhead
  · have h₁ : s.step (.sendDataList .all true) = some { s with sending := .next } := by
      rw [Socket.step, Socket.sendDataList, hsend]
      dsimp only
      rw [if_neg hclose]
    exact Fails.step h₁ (Fails.next h rfl hhead)

theorem Fails.willSend (h : FdOp.closesocket ∈ s.log) (hst : s.nState.beforeClosing = false) (hw : s.willSend) :
    Fails s := by
  cases hsend : s.sending with
  | idle => simp [Socket.willSend, hsend] at hw
  | next => exact Fails.next h hsend (by simpa [Socket.willSend, hsend] using hw)
  | bytes =>
    refine Fails.step (a := .sendDataList .more true) (by rw [Socket.step, Socket.sendDataList, hsend]) ?_
    exact Fails.after [.send] h rfl (by simp)
  | again =>
    refine Fails.step (a := .sendDataList .more true) (by rw [Socket.step, Socket.sendDataList, hsend]) ?_
    exact Fails.after [.epollMod] h rfl (by simp)
  | popped =>
    have hhead : s.headNext := by simpa [Socket.willSend, hsend] using hw
    by_cases hc : s.closing = true
    · -- the thread in `CloseConnection` first gives `m_lock` back
      have h₁ : s.step (.close false) = some { s with closing := false } := by
        rw [Socket.step, Socket.close, if_pos hc, closeConnection_dead hst]
      exact Fails.step h₁ (Fails.popped h hst (by simp [unlocked, hsend]) hsend hhead)
    · exact Fails.popped h hst (by simp [unlocked, hc, hsend]) hsend hhead
  | closing =>
    have hhead : s.headNext := by simpa [Socket.willSend, hsend] using hw
    have h₁ : s.step (.sendDataList .all false) = some { s with sending := .next } := by
      rw [Socket.step, Socket.sendDataList, hsend]
      dsimp only
      rw [closeConnection_dead hst]
    exact Fails.step h₁ (Fails.next h rfl hhead)

/-- The descriptor has been closed while another thread is about to use it. -/
theorem Fails.of_not_quiet (h : FdOp.closesocket ∈ s.log) (hst : s.nState.beforeClosing = false)
    (hb : s.building ≠ .refused ∧ s.building ≠ .returned) (hq : s.quiet = false) : Fails s := by
  by_cases hr : s.receiving = 0
  · cases hbuild : s.building with
    | accepted =>
      refine Fails.step (a := .build true) (by rw [Socket.step, Socket.build, hbuild]) ?_
      refine Fails.step (a := .build true) rfl ?_
      exact Fails.after [.epollAdd] h rfl (by simp)
    | built =>
      refine Fails.step (a := .build true) (by rw [Socket.step, Socket.build, hbuild]) ?_
      exact Fails.after [.epollAdd] h rfl (by simp)
    | attached =>
      refine Fails.step (a := .build true) (by rw [Socket.step, Socket.build, hbuild]) ?_
      exact Fails.closeAgain h rfl
    | refused => exact absurd hbuild hb.1
    | returned => exact absurd hbuild hb.2
    | opened => exact Fails.willSend h hst (by simpa [Socket.quiet, hr, hbuild] using hq)
  · refine Fails.step (a := .recv 1) (by rw [Socket.step, Socket.recv, if_neg hr]) ?_
    exact Fails.after [.recv] h rfl (by simp)

theorem Inv.fails_close {bZero : Bool} (h : Inv s) (hst : s.nState.beforeClosing) (hq : s.quiet = false)
    (hlog : s'.log = (s.closeConnection bZero).log) (hst' : s'.nState = (s.closeConnection bZero).nState)
    (hb : s'.building = (s.closeConnection bZero).building) (hq' : s'.quiet = s.quiet) : Fails s' := by
  refine Fails.of_not_quiet ?_ ?_ ?_ (by rw [hq']; exact hq)
  · rw [hlog, log_closeConnection hst]
    simp
  · rw [hst']
    exact beforeClosing_closeConnection
  · rw [hb, building_closeConnection]
    exact h.building

theorem Inv.fails_build {ok : Bool} (h : Inv s) (hs : s.build ok = some s') (hok : s.stepOk (.build ok) = false) :
    Fails s' := by
  have hlive : s.building ≠ .opened → s.nState.beforeClosing = true := fun hb => by
    by_contra hst
    exact hb (quiet_iff.mp (h.quiet (by simpa using hst))).2.1
  obtain ⟨rfl, hb⟩ : ok = false ∧ (s.building = .accepted ∨ s.building = .built) := by
    simp only [stepOk, Bool.or_eq_false_iff, Bool.and_eq_false_iff, bne_eq_false_iff_eq] at hok
    exact hok
  rw [Socket.build] at hs
  rcases hb with hb | hb
  · rw [hb] at hs
    cases hs
    refine Fails.step (a := .build true) rfl ?_
    exact Fails.after [.closesocket] (by simp [Socket.op]) rfl (by simp)
  · have hst := hlive (by simp [hb])
    rw [hb] at hs
    cases hs
    exact Fails.closeAgain (by simp [Socket.op]) hst

/-- Every step that the condition excludes can be followed by a wrong call. -/
theorem Inv.fails {a : SocketAct} (h : Inv s) (hs : s.step a = some s') (hok : s.stepOk a = false) :
    Fails s' := by
  have hmem : s.nState.beforeClosing = false → FdOp.closesocket ∈ s.log := fun hst => by
    obtain ⟨log, hlog, -⟩ := h.closed hst
    rw [hlog]
    simp
  cases a with
  | build ok => exact h.fails_build hs hok
  | recvTest => simp [stepOk] at hok
  | recv n => simp [stepOk] at hok
  | postSend n => simp [stepOk] at hok
  | writeEvent ok =>
    rw [Socket.step, Socket.writeEvent] at hs
    split at hs
    case isFalse => cases hs
    case isTrue hb =>
      cases hs
      cases hst : s.nState.beforeClosing with
      | true =>
        have hok : ok = false := by simpa [stepOk, hst] using hok
        rw [hok]
        exact Fails.closeAgain (by simp [setWaitWritingEvent, Socket.op]) hst
      | false =>
        cases ok with
        | true => exact Fails.after [.epollMod] (hmem hst) rfl (by simp)
        | false =>
          exact Fails.after [.epollMod, .closesocket] (hmem hst) (by simp [setWaitWritingEvent, Socket.op]) (by simp)
  | flush =>
    rw [Socket.step, Socket.flush] at hs
    split at hs <;> cases hs
    obtain ⟨hst, hhead⟩ : s.nState.beforeClosing = false ∧ s.headNext = true := by simpa [stepOk] using hok
    exact Fails.next (hmem hst) rfl hhead
  | sendDataList r ok =>
    rw [Socket.step, Socket.sendDataList] at hs
    rw [stepOk, Bool.and_eq_false_iff] at hok
    rcases hok with hok | hok
    · obtain ⟨hsend, rfl⟩ : s.sending = .again ∧ ok = false := by simpa using hok
      rw [hsend] at hs
      cases hs
      exact Fails.closeAgain (by simp [setWaitWritingEvent, Socket.op])
        (h.live_of_willSend (by simp [Socket.willSend, hsend]))
    · obtain ⟨⟨hsend, hst⟩, hq⟩ : (s.sending = .closing ∧ s.nState.beforeClosing = true) ∧ s.quiet = false := by
        simpa using hok
      rw [hsend] at hs
      cases hs
      refine h.fails_close hst hq rfl rfl rfl ?_
      have hsend' : (s.closeConnection ok).sending = .closing := sending_closeConnection.trans hsend
      calc Socket.quiet { s.closeConnection ok with sending := .next }
        _ = (s.closeConnection ok).quiet := by simp [Socket.quiet, Socket.willSend, headNext, hsend']
        _ = s.quiet := quiet_closeConnection
  | closeTest => simp [stepOk] at hok
  | close bZero =>
    obtain ⟨hst, hq⟩ : s.nState.beforeClosing = true ∧ s.quiet = false := by simpa [stepOk] using hok
    rw [Socket.step, Socket.close] at hs
    split at hs <;> cases hs
    exact h.fails_close hst hq rfl rfl rfl quiet_closeConnection

/-! ### The descriptor is closed once, at the end -/

theorem inv_of_reachable {queued : Option (SeqList Nat)}
    (h : Reachable (guarded (fun s a => s.stepOk a) step) (start queued) s) : Inv s :=
  h.invariant (Inv.start queued) fun _ _ _ hi hs =>
    hi.step (guarded_eq_some.mp hs).2 (guarded_eq_some.mp hs).1

/-- As long as the steps meet the condition nothing follows a `closesocket`, and a step that does not meet it
can be followed by a call on the closed descriptor. -/
theorem closedLast_of_reachable {queued : Option (SeqList Nat)}
    (h : Reachable (guarded (fun s a => s.stepOk a) step) (start queued) s) :
    ClosedLast s.log ∧ ∀ a s', s.step a = some s' → s.stepOk a = false → Fails s' :=
  ⟨(inv_of_reachable h).closedLast, fun _ _ hs hok => (inv_of_reachable h).fails hs hok⟩

/-- A packet is read, one is sent in two parts, and the peer then hangs up. -/
theorem closedLast_of_reachable_peer :
    ∃ s, Reachable (guarded (fun s a => s.stepOk a) step) (start none) s ∧
      s.log = [.epollAdd, .recv, .recv, .send, .epollMod, .epollMod, .send, .epollDel, .closesocket] ∧
      ClosedLast s.log := by
  obtain ⟨s, hs⟩ : ∃ s, runSteps (guarded (fun s a => s.stepOk a) step) (start none)
      [.build true, .build true, .build true, .recvTest, .recv 2, .postSend 1, .sendDataList .all true,
        .sendDataList .eagain true, .sendDataList .all true, .writeEvent true, .sendDataList .all true,
        .sendDataList .all true, .sendDataList .all true, .sendDataList .all true, .closeTest, .close true] =
      some s := ⟨_, rfl⟩
  have hr := Reachable.of_runSteps hs
  have hlog : s.log =
      [.epollAdd, .recv, .recv, .send, .epollMod, .epollMod, .send, .epollDel, .closesocket] := by
    cases hs
    rfl
  exact ⟨s, hr, hlog, (closedLast_of_reachable hr).1⟩

/-- `epoll_ctl` refuses the accepted socket: `AttachConnetionToModel`, `Close` and `ListenThread` all close it. -/
theorem closed_three_times : ∃ s, Reachable step (start none) s ∧
    s.log = [.epollAdd, .closesocket, .closesocket, .closesocket] ∧ ¬ClosedLast s.log := by
  obtain ⟨s, hs⟩ : ∃ s, runSteps step (start none) [.build true, .build false, .build true, .build true] =
      some s := ⟨_, rfl⟩
  refine ⟨s, Reachable.of_runSteps hs, ?_⟩
  cases hs
  refine ⟨rfl, fun hc => ?_⟩
  cases hc [.epollAdd] [.closesocket, .closesocket] rfl

/-- A send error closes the connection, and `SendDataList` goes on with the next packet of its list. -/
theorem sent_after_closed : ∃ s, Reachable step (start none) s ∧
    s.log = [.epollAdd, .send, .epollMod, .send, .epollDel, .closesocket, .send] := by
  obtain ⟨s, hs⟩ : ∃ s, runSteps step (start none)
      [.build true, .build true, .build true, .postSend 1, .sendDataList .all true, .sendDataList .eagain true,
        .sendDataList .all true, .postSend 2, .sendDataList .all true, .sendDataList .error true,
        .sendDataList .all true, .sendDataList .all true, .sendDataList .all true, .sendDataList .error true] =
      some s := ⟨_, rfl⟩
  refine ⟨s, Reachable.of_runSteps hs, ?_⟩
  cases hs
  rfl

end Socket

end KonsanNet
