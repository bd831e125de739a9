import Mathlib.Tactic
import KonsanNet.ServerLocks

/-!
# No circle of waiting threads

The order of the locks, from the first to the last: `m_lockSend` (among connections by `level`), `m_lock` of a
connection, `CXSessionsManager`, `CXConnectionSession`, `CXRPCObjectManager`, `m_lockUsingConnections`,
`m_lockReleasedConnections`, `m_lockFreeConnections`, `m_lockRead`. Three places do not follow it:

* `UnCreate`, called by `CXConnectionSession::Destroy`, locks the session the object is attached to, which may be
  the one that is being destroyed, then `m_lockSend` and `m_lock` of a connection;
* the handler of a message, which has `m_lockSend` of its connection, locks that of another one to forward a
  request, and the handler of the reply does the same the other way round;
* `GetFreeProxyClient` closes a connection with `m_lockFreeConnections` taken.

`KeepsOrder` is the condition that none of the three does harm. Every function fits the order under it.
-/

namespace KonsanNet
namespace Server

@[simp] def rank (level : Nat → Nat) : ServerLock → ℤ
  | .send c => -1 - level c
  | .con _ => 0
  | .sessions => 1
  | .session _ => 2
  | .objects => 3
  | .usingCons => 4
  | .releasedCons => 5
  | .freeCons => 6
  | .read _ => 7

/-- With which locks a function may be run. -/
@[simp] def pre (level : Nat → Nat) (f : ServerFun) (held : List ServerLock) : Prop :=
  match f with
  | .set _ => True
  | .closeConnection _ | .closeCounters _ _ | .closeClosing _ => Below (rank level) held 1
  | .getConnectionNumber s => ∃ rest, held = .session s :: rest ∧ Below (rank level) rest 1
  | .closeSession _ => Below (rank level) held 2
  | .releaseConnection _ => ∃ rest, held = .usingCons :: rest ∧ Below (rank level) rest 4
  | .closeIfClosing _ | .onClose _ | .sendDataList _ => Below (rank level) held 0
  | .destroyObjects _ | .freeToPool _ _ | .freeObject _ | .destroy true _ => Below (rank level) held 3
  | .unCreate true _ => True
  | .handler c => Below (rank level) held (-level c)
  | .create _ | .proxyConnection _ _ | .attachObject _ _ => Below (rank level) held 0
  | .getFreeProxyClient _ _ => ∃ rest, held = .freeCons :: rest ∧ Below (rank level) rest 0
  | .getFreeSession _ _ | .loginSession _ => ∃ rest, held = .sessions :: rest ∧ Below (rank level) rest 0
  | .getFreeConnectionObj => held = [.freeCons]
  | .recvLoop c => held = [.con c]
  | .processMessages c | .processed c _ => held = [.send c]
  | _ => held = []

/-- With which locks it returns: some release the one that their caller has taken. -/
@[simp] def post (f : ServerFun) (held : List ServerLock) : List ServerLock :=
  match f with
  | .getConnectionNumber s => held.erase (.session s)
  | .releaseConnection _ => held.erase .usingCons
  | .getFreeConnectionObj | .getFreeProxyClient _ _ => held.erase .freeCons
  | .getFreeSession _ _ | .loginSession _ => held.erase .sessions
  | .recvLoop c => held.erase (.con c)
  | _ => held

abbrev FitsOrder (level : Nat → Nat) : List ServerLock → List ServerOp → Prop :=
  Fits (rank level) (pre level) post

/-- `UnCreate` finds no attached connection when a session destroys the object; a handler forwards to a
connection of a lower level only; `GetFreeProxyClient` finds no connection that it has to close. -/
def KeepsOrder (level : Nat → Nat) (d : Server) : ServerFun → ServerChoice → Bool
  | .unCreate true o, _ =>
    match d.object o with
    | .storageClient (some _) _ => false
    | _ => true
  | .handler c, .work (.forward e) => level e < level c
  | .getFreeProxyClient _ _, _ =>
    match d.detachedProxyConnections with
    | c :: _ => (d.con c).nState = .established || (d.con c).nState = .closed
    | [] => true
  | _, _ => true

variable {level : Nat → Nat} {d d' : Server} {c e s o p : Nat} {x : ServerChoice} {held : List ServerLock}
variable {rest body : List ServerOp}

/-! ### `CloseConnection` -/

theorem fits_closeBySelf (hb : Below (rank level) held 0) (hr : FitsOrder level held rest) :
    FitsOrder level held (closeBySelf c ++ rest) := by
  simp [closeBySelf, hb, hb.le, hr]

theorem fits_close {bList : Bool} (hb : Below (rank level) held 7) (hr : FitsOrder level held rest) :
    FitsOrder level held (close c bList ++ rest) := by
  cases bList with
  | false => simp [close, hb, hr]
  | true => simp [close, hb, hr]

theorem closeConnection_fits (hb : Below (rank level) held 1) (hr : FitsOrder level held rest)
    (he : d.closeConnection c x = some body) : FitsOrder level held (body ++ rest) := by
  unfold closeConnection at he
  split at he
  · split at he
    · cases he
      exact hr
    · cases he
      rw [List.append_assoc]
      exact fits_close (hb.le _ (by norm_num)) ⟨hb, hr⟩
  · cases he

theorem closeCounters_fits {pSession : Option Nat} (hb : Below (rank level) held 1)
    (hr : FitsOrder level held rest) (he : d.closeCounters c pSession x = some (d', body)) :
    FitsOrder level held (body ++ rest) := by
  unfold closeCounters at he
  split at he
  · cases he
    exact hr
  · cases he
    have hrelease : FitsOrder level held (.lock .usingCons :: .call (.releaseConnection c) :: rest) := by
      simp [hb.le, hr]
    cases pSession with
    | none => exact hrelease
    | some s => simp [removeConnection, hb, hb.le, hrelease]
  · cases he

theorem getConnectionNumber_fits (hb : Below (rank level) held 1) (hr : FitsOrder level held rest) :
    FitsOrder level (.session s :: held) (d.getConnectionNumber s ++ rest) := by
  unfold getConnectionNumber
  split
  · simp [hb, hb.le, hr]
  · simpa using hr

theorem closeSession_fits (hb : Below (rank level) held 2) (hr : FitsOrder level held rest) :
    FitsOrder level held ((d.closeSession s).2 ++ rest) := by
  unfold closeSession
  split
  · simp [destroySession, hb, hb.le, hr]
  · exact hr

theorem releaseConnection_fits (hb : Below (rank level) held 4) (hr : FitsOrder level held rest) :
    FitsOrder level (.usingCons :: held) ((d.releaseConnection c).2 ++ rest) := by
  unfold releaseConnection
  split
  · simp [hb.le, hr]
  · simpa using hr

theorem closeIfClosing_fits (hb : Below (rank level) held 0) (hr : FitsOrder level held rest) :
    FitsOrder level held (d.closeIfClosing c ++ rest) := by
  unfold closeIfClosing
  split
  · simp [hb, hb.le, hr]
  · exact hr

theorem closeClosing_fits (hb : Below (rank level) held 1) (hr : FitsOrder level held rest) :
    FitsOrder level held (d.closeClosing c ++ rest) := by
  unfold closeClosing
  split
  · exact ⟨hb, hr⟩
  · exact hr

theorem onClose_fits (hb : Below (rank level) held 0) (hr : FitsOrder level held rest) :
    FitsOrder level held (d.onClose c ++ rest) := by
  unfold onClose
  split
  · exact hr
  · exact fits_closeBySelf hb hr

/-! ### `Destroy` -/

theorem destroyObjects_fits (hb : Below (rank level) held 3) (hr : FitsOrder level held rest) :
    FitsOrder level held (d.destroyObjects s ++ rest) := by
  unfold destroyObjects
  split
  · exact hr
  · simp [hb, hr]

theorem freeToPool_fits (hb : Below (rank level) held 3) (hr : FitsOrder level held rest) :
    FitsOrder level held (d.freeToPool s o ++ rest) := by
  unfold freeToPool
  split
  · exact ⟨hb, hr⟩
  · exact hr

theorem freeObject_fits (hb : Below (rank level) held 3) (hr : FitsOrder level held rest) :
    FitsOrder level held (d.freeObject o ++ rest) := by
  unfold freeObject
  split
  · exact hr
  · simp [hb, hr]

theorem destroy_fits {bySession : Bool} (hd : pre level (.destroy bySession o) held)
    (hr : FitsOrder level held rest) : FitsOrder level held (d.destroy bySession o ++ rest) := by
  unfold destroy
  cases bySession with
  | true =>
    have hb : Below (rank level) held 3 := hd
    split
    · simp [hb, hr]
    · simp [hr]
    · simp [hr]
  | false =>
    obtain rfl : held = [] := hd
    split
    · simp [hr]
    · simp [hr]
    · simp [hr]

theorem unCreate_fits {bySession : Bool} (hk : KeepsOrder level d (.unCreate bySession o) x)
    (hd : pre level (.unCreate bySession o) held) (hr : FitsOrder level held rest) :
    FitsOrder level held (d.unCreate o ++ rest) := by
  unfold unCreate
  split
  · rename_i hobj
    cases bySession with
    | true => simp [KeepsOrder, hobj] at hk
    | false =>
      obtain rfl : held = [] := hd
      split
      · simp [removeObject, freeSendingList, hr]
      · simp [freeSendingList, hr]
  · exact hr

theorem detach_fits (hr : FitsOrder level [] rest) (he : detach c x = some body) :
    FitsOrder level [] (body ++ rest) := by
  unfold detach at he
  split at he
  · cases he
    simp [detachProxyConnection, hr]
  · cases he
    exact fits_closeBySelf below_nil hr
  · cases he

/-! ### `BuildConnection` -/

theorem fits_addFreeConnectionObj (hb : Below (rank level) held 6) (hr : FitsOrder level held rest) :
    FitsOrder level held (addFreeConnectionObj c ++ rest) := by
  simp [addFreeConnectionObj, hb, hr]

theorem fits_build {bSock : Bool} (hb : Below (rank level) held 0) (hr : FitsOrder level held rest) :
    FitsOrder level held (build c bSock ++ rest) := by
  simp [build, hb, hb.le, hr]

theorem fits_getCurrentConnectionIndex (hb : Below (rank level) held 4) (hr : FitsOrder level held rest) :
    FitsOrder level held (getCurrentConnectionIndex ++ rest) := by
  simp [getCurrentConnectionIndex, hb, hr]

theorem getFreeConnectionObj_fits (hr : FitsOrder level [] rest) :
    FitsOrder level [.freeCons] (d.getFreeConnectionObj.2 ++ rest) := by
  have hattach : FitsOrder level [] (.call (.attachToModel d.popFreeConnection.1) :: rest) := ⟨rfl, hr⟩
  have hbuild : FitsOrder level [] (getCurrentConnectionIndex ++ (build d.popFreeConnection.1 true ++
      .call (.attachToModel d.popFreeConnection.1) :: rest)) :=
    fits_getCurrentConnectionIndex below_nil (fits_build below_nil hattach)
  simpa [getFreeConnectionObj] using hbuild

theorem attachToModel_fits (hr : FitsOrder level [] rest) (he : attachToModel c x = some body) :
    FitsOrder level [] (body ++ rest) := by
  unfold attachToModel at he
  split at he
  · cases he
    simp [hr]
  · cases he
    simp [close, addFreeConnectionObj, hr]
  · cases he

/-! ### Events -/

theorem readEvent_fits (hr : FitsOrder level [] rest) (he : readEvent c x = some body) :
    FitsOrder level [] (body ++ rest) := by
  unfold readEvent at he
  split at he
  · cases he
    split
    · exact ⟨below_nil, hr⟩
    · exact hr
  · rename_i bData bError bAgain
    cases he
    cases bData <;> cases bError <;> cases bAgain <;> simp [hr]
  · cases he

theorem recvPacket_fits (hr : FitsOrder level [] rest) (he : recvPacket c x = some body) :
    FitsOrder level [] (body ++ rest) := by
  unfold recvPacket at he
  split at he
  · cases he
    simp [hr]
  · cases he
    simp [hr]
  · cases he

theorem fits_freeBuffers {n : Nat} (hr : FitsOrder level [] rest) :
    FitsOrder level [.con c] (freeBuffers c n ++ rest) := by
  induction n with
  | zero => simpa [freeBuffers] using hr
  | succ n ih => simpa [freeBuffers] using ih

theorem recvLoop_fits (hr : FitsOrder level [] rest) (he : recvLoop c x = some body) :
    FitsOrder level [.con c] (body ++ rest) := by
  have hagain : FitsOrder level [] (.lock (.con c) :: .call (.recvLoop c) :: rest) := by
    simp [hr]
  unfold recvLoop at he
  split at he
  · cases he
    simpa using hr
  · cases he
    rw [List.append_assoc, List.append_assoc]
    exact fits_freeBuffers (by simp [hagain])
  · cases he
    rw [List.append_assoc]
    exact fits_freeBuffers hagain
  -- the second release finds nothing to release
  · cases he
    rw [List.append_assoc]
    exact fits_freeBuffers hr
  · cases he
    exact fits_freeBuffers hr
  · cases he

theorem closeAfterRecv_fits (hr : FitsOrder level [] rest) (he : d.closeAfterRecv c x = some body) :
    FitsOrder level [] (body ++ rest) := by
  unfold closeAfterRecv at he
  split at he
  · split at he
    · cases he
      exact hr
    · split at he
      · cases he
        exact fits_closeBySelf below_nil hr
      · cases he
        exact hr
  · cases he

theorem rank_send_lt : rank level (.send c) < 0 := by
  show (-1 - level c : ℤ) < 0
  omega

theorem fits_writeEvent (hr : FitsOrder level [] rest) : FitsOrder level [] (writeEvent c ++ rest) := by
  have hsend : (-1 - level c : ℤ) < 0 := rank_send_lt
  simp [writeEvent, hr]
  omega

theorem sendDataList_fits (hb : Below (rank level) held 0) (hr : FitsOrder level held rest)
    (he : sendDataList c x = some body) : FitsOrder level held (body ++ rest) := by
  unfold sendDataList at he
  split at he
  · cases he
    exact hr
  · cases he
    exact ⟨hb, hb, hr⟩
  · cases he
    rw [List.append_assoc]
    exact fits_closeBySelf hb ⟨hb, hr⟩
  · cases he

/-! ### Messages -/

theorem processUnpackedMessage_fits (hr : FitsOrder level [] rest)
    (he : processUnpackedMessage c x = some body) : FitsOrder level [] (body ++ rest) := by
  unfold processUnpackedMessage at he
  split at he
  · cases he
    simp [hr]
  · cases he
    simpa using fits_closeBySelf (c := c) below_nil hr
  · cases he

theorem below_send {r : ℤ} (hr : 0 ≤ r) : Below (rank level) [.send c] r := by
  have hsend : rank level (.send c) < 0 := rank_send_lt
  simp only [below_cons, below_nil, and_true]
  omega

theorem fits_getFreeObject (hb : Below (rank level) held 3) (hr : FitsOrder level held rest) :
    FitsOrder level held (getFreeObject o ++ rest) := by
  simp [getFreeObject, hb, hr]

theorem fits_lookup {pSession : Option Nat} {m : ObjectLookup} (hb : Below (rank level) held 2)
    (hr : FitsOrder level held rest) : FitsOrder level held (lookup pSession m ++ rest) := by
  unfold lookup
  split
  · exact hr
  · split
    · simp [getFreeObject, addObject, hb, hb.le, hr]
    · simp [hb, hb.le, hr]
    · simp [hb, hr]
    · exact fits_getFreeObject (hb.le _ (by norm_num)) hr
    · simp [hb.le, hr]

theorem below_handler : Below (rank level) [.send c] (-level c) := by
  simp only [below_cons, below_nil, and_true, rank]
  omega

theorem processMessages_fits (hr : FitsOrder level [.send c] rest) (he : d.processMessages c x = some body) :
    FitsOrder level [.send c] (body ++ rest) := by
  unfold processMessages at he
  split at he
  · cases he
    exact hr
  · cases he
    rw [List.append_assoc, List.append_assoc]
    refine fits_lookup (below_send (by norm_num)) ?_
    split
    · exact ⟨rfl, hr⟩
    · exact ⟨below_handler, rfl, hr⟩
  · cases he

theorem processed_fits {m : Option Nat} (hr : FitsOrder level [.send c] rest)
    (he : processed c m x = some body) : FitsOrder level [.send c] (body ++ rest) := by
  unfold processed at he
  split at he
  · cases he
    exact hr
  · cases he
    have hread : Below (rank level) [.send c] 7 := below_send (by norm_num)
    cases m with
    | none => simp [-below_cons, hread, hr]
    | some o => simp [-below_cons, hread, hr]
  · cases he

theorem destroyIfNeeded_fits (hr : FitsOrder level [] rest) :
    FitsOrder level [] (d.destroyIfNeeded o ++ rest) := by
  unfold destroyIfNeeded
  split
  · exact ⟨rfl, below_nil, hr⟩
  · exact hr

theorem closeAfter_fits (hr : FitsOrder level [] rest) (he : closeAfter c x = some body) :
    FitsOrder level [] (body ++ rest) := by
  unfold closeAfter at he
  split at he
  · cases he
    exact fits_closeBySelf below_nil hr
  · cases he
    exact ⟨below_nil, hr⟩
  · cases he

/-- Whoever may handle messages of `c` may lock `m_lockSend` of a connection of a lower level, and handle messages
of that one. -/
theorem fits_forward (hlt : level e < level c) (hb : Below (rank level) held (-level c))
    (hr : FitsOrder level held rest) :
    FitsOrder level held (withLock (.send e) [.call (.handler e)] ++ rest) := by
  have hsend : Below (rank level) held (rank level (.send e)) := hb.le _ (by simp only [rank]; omega)
  have hhandler : Below (rank level) (.send e :: held) (-level e) := by
    refine below_cons.mpr ⟨?_, hb.le _ (by omega)⟩
    simp only [rank]
    omega
  refine fits_withLock.mpr ?_
  exact ⟨hsend, hhandler, fits_unlock.mpr hr⟩

theorem handlerWork_fits {w : HandlerWork} (hk : KeepsOrder level d (.handler c) (.work w))
    (hb : Below (rank level) held (-level c)) (hr : FitsOrder level held rest) :
    FitsOrder level held (d.handlerWork c w ++ rest) := by
  have hb₀ : Below (rank level) held 0 := hb.le _ (by omega)
  have hagain : FitsOrder level held (.call (.handler c) :: rest) := ⟨hb, hr⟩
  cases w with
  | finish => exact hr
  | send => exact ⟨hb₀, hagain⟩
  | forward e =>
    have hlt : level e < level c := by simpa [KeepsOrder] using hk
    rw [handlerWork, List.append_assoc]
    exact fits_forward hlt hb hagain
  | findObject => simp [handlerWork, hb₀.le, hagain]
  | openFile o p =>
    rw [handlerWork, List.append_assoc]
    split
    · simp [getFreeObject, hb₀.le, hb, hr]
    · exact hagain
  | create o => exact ⟨hb₀, hagain⟩
  | closeFileReply o =>
    rw [handlerWork, List.append_assoc]
    split
    · exact ⟨trivial, hagain⟩
    · exact hagain
  | login =>
    rw [handlerWork, List.append_assoc]
    split
    · exact hagain
    · simp [hb₀, hb₀.le, hb, hr]
  | join s bData =>
    rw [handlerWork, List.append_assoc]
    split
    · exact hagain
    · simp [hb₀.le, hb, hr]

theorem loginSession_fits (hb : Below (rank level) held 0) (hr : FitsOrder level held rest) :
    FitsOrder level (.sessions :: held) ((d.loginSession c).2 ++ rest) := by
  simp [loginSession, addMainConnection, addUsingSession, hb.le, hr]

theorem create_fits (hb : Below (rank level) held 0) (hr : FitsOrder level held rest) :
    FitsOrder level held (d.create o ++ rest) := by
  unfold create
  split
  · simp [hb, hb.le, hr]
  · exact hr

theorem getFreeProxyClient_fits {pCon : Option Nat} (hk : KeepsOrder level d (.getFreeProxyClient o pCon) x)
    (hb : Below (rank level) held 0) (hr : FitsOrder level held rest) :
    FitsOrder level (.freeCons :: held) ((d.getFreeProxyClient o pCon).2 ++ rest) := by
  unfold getFreeProxyClient
  split
  · rename_i c _ hdet
    split
    · simp [hb, hr]
    · rename_i hne
      have hclosed : (d.con c).nState = .closed := by simpa [KeepsOrder, hdet, hne] using hk
      rw [onClose, if_pos hclosed]
      simp [hb, hr]
  · split
    · simp [hb, hr]
    · simp [hb, hr]

theorem proxyConnection_fits (hb : Below (rank level) held 0) (hr : FitsOrder level held rest) :
    FitsOrder level held (d.proxyConnection o c ++ rest) := by
  unfold proxyConnection
  split
  · exact ⟨hb, hr⟩
  · simp [hb, hb.le, hr]

theorem getFreeSession_fits (hb : Below (rank level) held 0) (hr : FitsOrder level held rest) :
    FitsOrder level (.sessions :: held) ((d.getFreeSession o c).2 ++ rest) := by
  have hattach : FitsOrder level held (.call (.set fun d => d.setCon c fun _ =>
      ⟨.creating, some d.popFreeSession.1, true⟩) :: .call (.attachObject o c) :: rest) := ⟨trivial, hb, hr⟩
  simp [getFreeSession, getCurrentConnectionIndex, build, hb, hb.le, hr]

theorem attachObject_fits (hb : Below (rank level) held 0) (hr : FitsOrder level held rest) :
    FitsOrder level held ((d.attachObject o c).2 ++ rest) := by
  rw [attachObject]
  split
  · simp [addObject, hb.le, hr]
  · exact hr

theorem processAsyncMessageEnd_fits (hr : FitsOrder level [] rest)
    (he : processAsyncMessageEnd c x = some body) : FitsOrder level [] (body ++ rest) := by
  unfold processAsyncMessageEnd at he
  split at he
  · rename_i bKnown bNeedClose _
    cases he
    have hread : Below (rank level) [.send c] 7 := below_send (by norm_num)
    have hclose : FitsOrder level []
        ((if bNeedClose then closeBySelf c else withLock (.con c) [.call (.closeClosing c)]) ++ rest) := by
      split
      · exact fits_closeBySelf below_nil hr
      · simp [hr]
    cases bKnown with
    | true => simpa [-below_cons, hread] using hclose
    | false => simpa [-below_cons, hread] using hclose
  · cases he

/-! ### Tasks -/

theorem createConnection_fits (hr : FitsOrder level [] rest) (he : createConnection c x = some body) :
    FitsOrder level [] (body ++ rest) := by
  unfold createConnection at he
  split at he
  · cases he
    simp [hr]
  · cases he
    exact ⟨rfl, hr⟩
  · cases he

theorem fits_sendDataList_section (hr : FitsOrder level [] rest) :
    FitsOrder level [] (withLock (.send c) [.call (.sendDataList c)] ++ rest) :=
  fits_withLock.mpr ⟨below_nil, below_send le_rfl, fits_unlock.mpr hr⟩

theorem onProxyConnectionCreated_fits (hr : FitsOrder level [] rest)
    (he : d.onProxyConnectionCreated c x = some body) : FitsOrder level [] (body ++ rest) := by
  have hreply : FitsOrder level [] (.call .replyRequester :: rest) := ⟨rfl, hr⟩
  unfold onProxyConnectionCreated at he
  split at he
  · cases he
    have hsend := fits_sendDataList_section (c := c) hreply
    split
    · simpa [-below_cons, addMainConnection, addUsingSession] using hsend
    · simpa [-below_cons] using hsend
  · cases he
    simp [close, addFreeConnectionObj, hr]
  · cases he

theorem prepareMessage_fits (hr : FitsOrder level [] rest) (he : d.prepareMessage c x = some body) :
    FitsOrder level [] (body ++ rest) := by
  unfold prepareMessage at he
  split at he
  · rename_i bSent bPopRPCObj _
    cases he
    simp only [List.append_assoc]
    refine fits_sendDataList_section ?_
    cases bSent <;> cases bPopRPCObj <;> cases (d.con c).pSession <;> simp [hr]
  · cases he

theorem parseMessage_fits (hr : FitsOrder level [] rest) (he : parseMessage c x = some body) :
    FitsOrder level [] (body ++ rest) := by
  unfold parseMessage at he
  split at he
  · cases he
    simp [hr]
  · cases he
    exact ⟨below_nil, hr⟩
  · cases he

theorem replyRequester_fits (hr : FitsOrder level [] rest) (he : replyRequester x = some body) :
    FitsOrder level [] (body ++ rest) := by
  unfold replyRequester at he
  split at he
  · cases he
    exact hr
  · rename_i bFind e
    cases he
    have hreply : FitsOrder level [] (withLock (.send e) [.call (.handler e)] ++ rest) :=
      fits_withLock.mpr ⟨below_nil, below_handler, fits_unlock.mpr hr⟩
    rw [List.append_assoc]
    cases bFind with
    | true => exact fits_withLock.mpr ⟨below_nil, fits_unlock.mpr hreply⟩
    | false => exact hreply
  · cases he

/-! ### Timeouts -/

theorem detectTimeoutConnections_fits (hr : FitsOrder level [] rest)
    (he : detectTimeoutConnections x = some body) : FitsOrder level [] (body ++ rest) := by
  unfold detectTimeoutConnections at he
  split at he
  · rename_i l
    cases he
    have hclose : FitsOrder level [] ((l.map fun c => .call (.onClose c)) ++ rest) := by
      induction l with
      | nil => exact hr
      | cons c l ih => exact ⟨below_nil, ih⟩
    simpa using hclose
  · cases he

theorem travelReleaseList_fits (hr : FitsOrder level [] rest) (he : travelReleaseList x = some body) :
    FitsOrder level [] (body ++ rest) := by
  unfold travelReleaseList at he
  split at he
  · rename_i l
    cases he
    refine fits_withLock.mpr ⟨below_nil, ?_⟩
    induction l with
    | nil => exact fits_unlock.mpr hr
    | cons c l ih =>
      rw [List.flatMap_cons, List.append_assoc, List.append_assoc]
      exact fits_addFreeConnectionObj (by simp) ⟨trivial, ih⟩
  · cases he

/-! ### The order -/

theorem body_of_map {b : Option (List ServerOp)} (he : b.map (d, ·) = some (d', body)) : b = some body := by
  obtain ⟨_, hb, he⟩ := Option.map_eq_some_iff.mp he
  cases he
  exact hb

theorem body_of_some {b : Server × List ServerOp} (he : some b = some (d', body)) : body = b.2 := by
  cases he
  rfl

theorem exec_fits {f : ServerFun} (hk : KeepsOrder level d f x) (he : d.exec f x = some (d', body))
    (hp : pre level f held) (hr : FitsOrder level (post f held) rest) : FitsOrder level held (body ++ rest) := by
  cases f with
  | set f =>
    cases he
    exact hr
  | closeConnection c => exact closeConnection_fits hp hr (body_of_map he)
  | closeCounters c pSession => exact closeCounters_fits hp hr he
  | getConnectionNumber s =>
    obtain ⟨held, rfl, hb⟩ := hp
    cases he
    exact getConnectionNumber_fits hb (by simpa using hr)
  | closeSession s =>
    rw [body_of_some he]
    exact closeSession_fits hp hr
  | releaseConnection c =>
    obtain ⟨held, rfl, hb⟩ := hp
    rw [body_of_some he]
    exact releaseConnection_fits hb (by simpa using hr)
  | closeIfClosing c =>
    cases he
    exact closeIfClosing_fits hp hr
  | closeClosing c =>
    cases he
    exact closeClosing_fits hp hr
  | onClose c =>
    cases he
    exact onClose_fits hp hr
  | destroyObjects s =>
    cases he
    exact destroyObjects_fits hp hr
  | freeToPool s o =>
    cases he
    exact freeToPool_fits hp hr
  | destroy bySession o =>
    cases he
    exact destroy_fits hp hr
  | freeObject o =>
    cases he
    exact freeObject_fits hp hr
  | unCreate bySession o =>
    cases he
    exact unCreate_fits hk hp hr
  | detach c =>
    obtain rfl : held = [] := hp
    exact detach_fits hr (body_of_map he)
  | onAccept =>
    obtain rfl : held = [] := hp
    cases he
    simpa using hr
  | getFreeConnectionObj =>
    obtain rfl : held = [.freeCons] := hp
    rw [body_of_some he]
    exact getFreeConnectionObj_fits (by simpa using hr)
  | attachToModel c =>
    obtain rfl : held = [] := hp
    exact attachToModel_fits hr (body_of_map he)
  | readEvent c =>
    obtain rfl : held = [] := hp
    exact readEvent_fits hr (body_of_map he)
  | recvPacket c =>
    obtain rfl : held = [] := hp
    exact recvPacket_fits hr (body_of_map he)
  | recvLoop c =>
    obtain rfl : held = [.con c] := hp
    exact recvLoop_fits (by simpa using hr) (body_of_map he)
  | closeAfterRecv c =>
    obtain rfl : held = [] := hp
    exact closeAfterRecv_fits hr (body_of_map he)
  | writeEvent c =>
    obtain rfl : held = [] := hp
    cases he
    exact fits_writeEvent hr
  | sendDataList c => exact sendDataList_fits hp hr (body_of_map he)
  | processUnpackedMessage c =>
    obtain rfl : held = [] := hp
    exact processUnpackedMessage_fits hr (body_of_map he)
  | processMessages c =>
    obtain rfl : held = [.send c] := hp
    exact processMessages_fits hr (body_of_map he)
  | processed c o =>
    obtain rfl : held = [.send c] := hp
    exact processed_fits hr (body_of_map he)
  | destroyIfNeeded o =>
    obtain rfl : held = [] := hp
    cases he
    exact destroyIfNeeded_fits hr
  | closeAfter c =>
    obtain rfl : held = [] := hp
    exact closeAfter_fits hr (body_of_map he)
  | handler c =>
    have he := body_of_map he
    unfold handler at he
    split at he
    · cases he
      exact handlerWork_fits hk hp hr
    · cases he
  | create o =>
    cases he
    exact create_fits hp hr
  | getFreeProxyClient o pCon =>
    obtain ⟨held, rfl, hb⟩ := hp
    rw [body_of_some he]
    exact getFreeProxyClient_fits hk hb (by simpa using hr)
  | proxyConnection o c =>
    cases he
    exact proxyConnection_fits hp hr
  | getFreeSession o c =>
    obtain ⟨held, rfl, hb⟩ := hp
    rw [body_of_some he]
    exact getFreeSession_fits hb (by simpa using hr)
  | attachObject o c =>
    rw [body_of_some he]
    exact attachObject_fits hp hr
  | loginSession c =>
    obtain ⟨held, rfl, hb⟩ := hp
    rw [body_of_some he]
    exact loginSession_fits hb (by simpa using hr)
  | processAsyncMessageEnd c =>
    obtain rfl : held = [] := hp
    exact processAsyncMessageEnd_fits hr (body_of_map he)
  | createConnection c =>
    obtain rfl : held = [] := hp
    exact createConnection_fits hr (body_of_map he)
  | onProxyConnectionCreated c =>
    obtain rfl : held = [] := hp
    exact onProxyConnectionCreated_fits hr (body_of_map he)
  | prepareMessage c =>
    obtain rfl : held = [] := hp
    exact prepareMessage_fits hr (body_of_map he)
  | parseMessage c =>
    obtain rfl : held = [] := hp
    exact parseMessage_fits hr (body_of_map he)
  | replyRequester =>
    obtain rfl : held = [] := hp
    exact replyRequester_fits hr (body_of_map he)
  | detectTimeoutConnections =>
    obtain rfl : held = [] := hp
    exact detectTimeoutConnections_fits hr (body_of_map he)
  | travelReleaseList =>
    obtain rfl : held = [] := hp
    exact travelReleaseList_fits hr (body_of_map he)
  | travelTimeoutRequest =>
    obtain rfl : held = [] := hp
    cases he
    simpa using hr

/-- The functions take their locks in the order. -/
def lockOrder (level : Nat → Nat) : Discipline ℤ exec entry (KeepsOrder level) where
  rank := rank level
  pre := pre level
  post := post
  entry_fits {f} hf := by
    cases f <;> first | exact ⟨rfl, rfl⟩ | cases hf
  body_fits := exec_fits

end Server

namespace ServerThreads

open Server

variable {object : Nat → RPCObject} {level : Nat → Nat} {s : ServerThreads}

/-- In a run that keeps the order no thread asks for a lock it has, and the threads do not wait for each other in
a circle. -/
theorem no_waitCycle_of_keepsOrder
    (h : Reachable (guarded (fun s a => Threads.allows (Server.KeepsOrder level) s a) step)
      (Threads.idle (Server.start object)) s) :
    ¬s.SelfLock ∧ ¬s.WaitCycle := by
  have hcycle := (Server.lockOrder level).no_waitCycle_of_reachable h
  exact ⟨fun hself => hcycle hself.waitCycle, hcycle⟩

/-! ### Runs -/

/-- `n` steps of the thread `t` with nothing to choose. -/
def go (t n : Nat) : List (ThreadAct Nat ServerFun ServerChoice) :=
  List.replicate n (.run t .go)

/-- The thread `t` makes the choice `x`, and goes on for `n` steps. -/
def choose (t : Nat) (x : ServerChoice) (n : Nat) : List (ThreadAct Nat ServerFun ServerChoice) :=
  .run t x :: go t n

/-- The RPC object 0 is a `CXFileRPCProxyServer`, the others are storage clients. -/
def fileObjects (o : Nat) : RPCObject :=
  if o = 0 then .fileProxy none else .storageClient none none

/-- A client connects, logs in and opens a file: the storage client 1 gets the proxied connection 1000 with the
session 1, and sends its request. -/
def openRun : List (ThreadAct Nat ServerFun ServerChoice) :=
  (.start 0 .onAccept :: go 0 13 ++ choose 0 (.test true) 4) ++
  (.start 1 (.processUnpackedMessage 0) :: choose 1 (.test true) 1 ++
    choose 1 (.message (some (.found 9))) 4 ++ choose 1 (.work .login) 11 ++ choose 1 (.work .send) 0 ++
    choose 1 (.send .sent) 1 ++ choose 1 (.send .stop) 0 ++ choose 1 (.work .finish) 0 ++
    choose 1 (.test false) 4 ++ choose 1 (.test false) 2 ++
    choose 1 (.message (some (.created 0))) 6 ++ choose 1 (.work (.openFile 0 1)) 4 ++
    choose 1 (.work (.create 1)) 21 ++ choose 1 (.work (.forward 1000)) 1 ++ choose 1 (.work .send) 0 ++
    choose 1 (.send .stop) 0 ++ choose 1 (.work .finish) 1 ++ choose 1 (.work .finish) 0 ++
    choose 1 (.test true) 1)

/-- The task connects the proxied connection. -/
def connectRun : List (ThreadAct Nat ServerFun ServerChoice) :=
  .start 2 (.createConnection 1000) :: choose 2 (.test true) 3 ++ choose 2 (.test true) 11 ++
    choose 2 (.send .sent) 1 ++ choose 2 (.send .stop) 1 ++ choose 2 (.requester false none) 0

/-- The storage server closes the connection: nothing was received and nothing is posted. -/
def hangUpRun : List (ThreadAct Nat ServerFun ServerChoice) :=
  .start 3 (.readEvent 1000) :: choose 3 (.tests false true false) 4 ++ choose 3 (.test false) 3 ++
    choose 3 (.test true) 13

set_option maxRecDepth 4000 in
theorem no_waitCycle_of_keepsOrder_open :
    ∃ s : ServerThreads,
      runSteps (guarded (fun s a => Threads.allows (Server.KeepsOrder fun c => if c = 0 then 1 else 0) s a) step)
        (Threads.idle (Server.start fileObjects)) (openRun ++ connectRun) = some s ∧
      (s.data.con 1000).nState = .established ∧ ¬s.SelfLock ∧ ¬s.WaitCycle := by
  obtain ⟨s, hs⟩ : ∃ s : ServerThreads,
      runSteps (guarded (fun s a => Threads.allows (Server.KeepsOrder fun c => if c = 0 then 1 else 0) s a) step)
        (Threads.idle (Server.start fileObjects)) (openRun ++ connectRun) = some s := ⟨_, rfl⟩
  refine ⟨s, hs, ?_, no_waitCycle_of_keepsOrder (Reachable.of_runSteps hs)⟩
  cases hs
  rfl

set_option maxRecDepth 4000 in
/-- The thread that closes the proxied connection destroys its session, whose object locks the session again. -/
theorem selfLock_of_hangUp :
    ∃ s, Reachable step (Threads.idle (Server.start fileObjects)) s ∧ s.SelfLock := by
  obtain ⟨s, hs⟩ : ∃ s : ServerThreads,
      runSteps step (Threads.idle (Server.start fileObjects)) (openRun ++ connectRun ++ hangUpRun) = some s :=
    ⟨_, rfl⟩
  refine ⟨s, Reachable.of_runSteps hs, 3, .session 1, ?_⟩
  cases hs
  exact ⟨_, rfl, rfl⟩

/-- Whatever the run: with the lock of the session it is attached to taken, `UnCreate` is stuck at once. -/
theorem selfLock_of_unCreate {s s' : ServerThreads} {t o c ses : Nat} {x : ServerChoice} {rest : List ServerOp}
    (hs : s.stack t = .call (.unCreate true o) :: rest)
    (ho : s.data.object o = .storageClient (some c) (some ses)) (hl : s.owner (.session ses) = some t)
    (h : step s (.run t x) = some s') : s'.SelfLock := by
  have hbody : step s (.run t x) =
      some { s with stack := Function.update s.stack t (s.data.unCreate o ++ rest) } := by
    simp [step, Threads.step, hs, Server.exec]
  rw [hbody] at h
  cases h
  have hstack : s.data.unCreate o = .lock (.session ses) :: (.unlock (.session ses) :: freeSendingList c ++
      [.call (.detach c), .call (.set fun d => d.setObject o (.storageClient none (some ses)))]) := by
    rw [unCreate, ho]
    rfl
  exact ⟨t, .session ses, _, (Function.update_self ..).trans (congrArg (· ++ rest) hstack), hl⟩

end ServerThreads
end KonsanNet
