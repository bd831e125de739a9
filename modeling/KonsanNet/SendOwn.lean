import KonsanNet.Ledger
import KonsanNet.SendInv

/-!
# Who owns a send buffer

The send path again, with its buffers as objects that are got from the memory cache, used and freed (`trace`). A
buffer is named by the number of buffers that the cache has given out before. `SendPacket` and the functions that it
calls take the buffer over: when they have returned, they have freed it or have put it into the send list or into a
task.
-/

namespace KonsanNet

/-- The connection, the buffers of its send list in the order of the chain, and those of its tasks. -/
structure SendOwn where
  conn : SendState
  listIds : List Nat
  taskIds : List Nat
  next : Nat
  trace : List (Ledger.Event Nat Unit)

/-- A step of `SendState`, or the state is set elsewhere. -/
inductive OwnAct
  | conn (act : SendState.SendAct)
  | setState (nState : ConnectionState)

namespace SendState

/-- `SendAssembledPacket` up to `PostSend`. -/
def assembled (s : SendState) (pBufObj : CXBufferObj) (dwOrignDataLen : Nat) : CXBufferObj :=
  let dwPacketBodyLen := pBufObj.bodyLen
  let header : CXPacketHeader :=
    { wFlag := cxPacketHeaderFlag
      byCompressFlag := s.compressType
      byEncryptFlag := s.encryptType
      dwDataLen := dwPacketBodyLen
      dwCheckSum := byteSum ((pBufObj.buf.drop headerLen).take dwPacketBodyLen)
      dwOrignDataLen := dwOrignDataLen }
  { pBufObj with buf := memcpy pBufObj.buf 0 header.toBytes }

end SendState

namespace SendOwn

/-- A connection that has nothing to send. -/
def start (c : SendState) : SendOwn where
  conn := { c with listSendBuf := SeqList.empty, tasks := [] }
  listIds := []
  taskIds := []
  next := 0
  trace := []

def owned (s : SendOwn) : List Nat := s.listIds ++ s.taskIds

/-- The cache gives out the buffer `next`. -/
def get (s : SendOwn) : SendOwn := { s with next := s.next + 1, trace := s.trace ++ [.got s.next ()] }

def use (id : Nat) (s : SendOwn) : SendOwn := { s with trace := s.trace ++ [.used id] }

def free (id : Nat) (s : SendOwn) : SendOwn := { s with trace := s.trace ++ [.released id ()] }

def withConn (f : SendState → SendState) (s : SendOwn) : SendOwn := { s with conn := f s.conn }

/-! ### `SendDataList` -/

def useHead (s : SendOwn) : SendOwn :=
  match s.listIds with
  | [] => s
  | id :: _ => s.use id

/-- The head of the list is sent, or given up, and freed. -/
def popSent (s : SendOwn) (pCurBuf : CXBufferObj) (rest : List CXBufferObj) (nTotalWritenLen : Nat) : SendOwn :=
  let s := s.withConn fun c => c.popSent pCurBuf rest nTotalWritenLen
  match s.listIds with
  | [] => s
  | id :: ids => { s with listIds := ids }.free id

def sendLoop (env : SendEnv) :
    List CXBufferObj → List SendResult → Int → Bool → SendOwn → Option (SendOwn × Int)
  | [], _, nRet, _, s => some (s, nRet)
  | pCurBuf :: rest, answers, nRet, bNeedClose, s =>
    if pCurBuf.nSequenceNum = s.conn.uiLastSentPacketSequenceNum + 1 then
      match SendState.sendBytes 0 pCurBuf.len answers with
      | none => none
      | some (.again nLeft, nTotal, _) =>
        some (s.useHead.withConn fun c => c.keepHead pCurBuf rest nTotal nLeft,
          if env.setWaitWritingEvent then 0 else -4)
      | some (.failed nRet', nTotal, answers') =>
        sendLoop env rest answers' nRet' true ((s.useHead.popSent pCurBuf rest nTotal).withConn (·.closeConnection env))
      | some (.sent, nTotal, answers') =>
        sendLoop env rest answers' nRet bNeedClose
          (if bNeedClose ∨ s.conn.nState = .closing then
            (s.useHead.popSent pCurBuf rest nTotal).withConn (·.closeConnection env)
          else s.useHead.popSent pCurBuf rest nTotal)
    else some (s.useHead, nRet)

def sendDataList (env : SendEnv) (s : SendOwn) : Option (SendOwn × Int) :=
  sendLoop env s.conn.listSendBuf.head env.send 0 false s

/-! ### `SendPacket` -/

/-- The send list with the names of its buffers. -/
def pairs (s : SendOwn) : SeqList (CXBufferObj × Nat) :=
  ⟨s.conn.listSendBuf.head.zip s.listIds, s.conn.listSendBuf.endSeq⟩

def pushSendBuffer (s : SendOwn) (pBufObj : CXBufferObj) (id : Nat) : Option (SendOwn × Bool) :=
  (SeqList.push (fun p => p.1.nSequenceNum) s.pairs (pBufObj, id)).map fun r =>
    ({ s with conn := { s.conn with listSendBuf := r.1.map Prod.fst }, listIds := r.1.head.map Prod.snd }, r.2)

/-- `PostSend(pBufObj, false)` -/
def postSend (env : SendEnv) (s : SendOwn) (pBufObj : CXBufferObj) (id : Nat) : Option (SendOwn × Int) :=
  if s.conn.pSocketKernel = false ∨ pBufObj.len = 0 ∨ 1024 * 1024 < pBufObj.len then some (s, -1)
  else if s.conn.nState = .closing ∨ s.conn.nState = .closed then some (s, -4)
  else
    match s.pushSendBuffer pBufObj id with
    | none => none
    | some (s', false) => some (s'.free id, -2)
    | some (s', true) => if s'.conn.nState ≠ .established then some (s', 0) else sendDataList env s'

def sendAssembledPacket (env : SendEnv) (s : SendOwn) (pBufObj : CXBufferObj) (id dwOrignDataLen : Nat) :
    Option (SendOwn × Bool) :=
  (postSend env (s.use id) (s.conn.assembled pBufObj dwOrignDataLen) id).map fun r => (r.1, r.2 == 0)

/-- `GetFirstThreadCache`, or else `GetBuffer`; the name is that of a buffer that has to be freed. -/
def getCacheBuf (env : PrepareEnv) (dwCacheBufLen : Nat) (s : SendOwn) : Option (SendOwn × Option Nat) :=
  if env.getFirstThreadCache dwCacheBufLen then some (s, none)
  else if env.getBuffer dwCacheBufLen then some (s.get, some s.next)
  else none

def useCacheBuf : Option Nat → SendOwn → SendOwn
  | none, s => s
  | some id, s => s.use id

def freeCacheBuf : Option Nat → SendOwn → SendOwn
  | none, s => s
  | some id, s => s.free id

/-- `PreparedAndSendPacket` from `PrepareData` on. -/
def sendPrepared (env : SendEnv) (s : SendOwn) (pInputBuf : CXBufferObj)
    (pInputId pBufId : Nat) (pCacheBuf : Option Nat) : Option (SendOwn × Bool) :=
  let s := (((s.use pInputId).useCacheBuf pCacheBuf).use pBufId)
  match env.prepareData ((pInputBuf.buf.drop headerLen).take pInputBuf.bodyLen) with
  | none => some (((s.free pInputId).freeCacheBuf pCacheBuf).free pBufId, false)
  | some prepared =>
    -- `pInputBuf->nSequenceNum` is read after `FreeCXBufferObj(pInputBuf)`
    sendAssembledPacket env (((s.free pInputId).freeCacheBuf pCacheBuf).use pInputId)
      { nSequenceNum := env.freedNumber pInputBuf.nSequenceNum
        buf := List.replicate headerLen 0 ++ prepared
        len := (prepared.length + headerLen) % 2 ^ 32
        nCurDataPointer := 0 }
      pBufId pInputBuf.bodyLen

def preparedAndSendPacket (env : SendEnv) (s : SendOwn) (pInputBuf : CXBufferObj)
    (pInputId : Nat) : Option (SendOwn × Bool) :=
  match (s.use pInputId).getCacheBuf env.toPrepareEnv (SendState.cacheBufLen pInputBuf.bodyLen) with
  | none => some ((s.use pInputId).free pInputId, false)
  | some (s', pCacheBuf) =>
    if !env.getCXBufferObj (SendState.preparedBufLen pInputBuf.bodyLen) then
      some ((s'.free pInputId).freeCacheBuf pCacheBuf, false)
    else sendPrepared env s'.get pInputBuf pInputId s'.next pCacheBuf

/-- `SendPacket` from the number on. -/
def sendNumbered (env : SendEnv) (s : SendOwn) (pBufObj : CXBufferObj) (id : Nat)
    (bMes : Bool) : Option (SendOwn × Bool) :=
  if s.conn.mustPrepare then
    if s.conn.pDataParserHandle = false then some (s.free id, false)
    else if s.conn.pTaskPool && s.conn.bAsyncPrepareData then
      if env.getFreeTaskObject then
        some ({ s with conn := { s.conn with tasks := s.conn.tasks ++ [⟨pBufObj, bMes⟩] }
                       taskIds := s.taskIds ++ [id] }, true)
      else some (s.free id, false)
    else preparedAndSendPacket env s pBufObj id
  else sendAssembledPacket env s pBufObj id pBufObj.bodyLen

/-- `SendPacket(pBufObj, dwLen, dwMesCode, pMes)` with a buffer that the caller has got from the cache. -/
def sendPacket (env : SendEnv) (s : SendOwn) (pBufObj : CXBufferObj) (dwLen : Nat)
    (bMes : Bool) : Option (SendOwn × Bool) :=
  if dwLen = 0 ∨ s.conn.lpServer = false then some (s.get.free s.next, false)
  else sendNumbered env ((s.get.use s.next).withConn fun c => (c.takeNumber pBufObj dwLen).1)
    (s.conn.takeNumber pBufObj dwLen).2 s.next bMes

/-! ### The system -/

/-- `CXTaskPrepareMessage::ProcessTask` of the task at `i`. -/
def processTask (env : SendEnv) (s : SendOwn) (i : Nat) : Option SendOwn :=
  match s.conn.tasks[i]?, s.taskIds[i]? with
  | some task, some id =>
    let s := { s with conn := { s.conn with tasks := s.conn.tasks.eraseIdx i }, taskIds := s.taskIds.eraseIdx i }
    (preparedAndSendPacket env (s.use id) task.pSendBuf id).map fun r =>
      if task.bMes then r.1.withConn fun c => { c with ends := c.ends ++ [if r.2 then 0 else -5] } else r.1
  | _, _ => none

def step (s : SendOwn) : OwnAct → Option SendOwn
  | .conn (.send pBufObj dwLen bMes env) =>
    (s.sendPacket env pBufObj dwLen bMes).map Prod.fst
  | .conn (.task i env) => s.processTask env i
  | .conn (.writable bSet env) => if bSet then (s.sendDataList env).map Prod.fst else some s
  | .conn (.asyncEnd i env) => (s.conn.processAsyncMessageEnd env i).map fun c => s.withConn fun _ => c
  | .conn (.close env) => some (s.withConn (·.closeConnection env))
  | .conn (.configure encryptType compressType bAsyncPrepareData) =>
    some (s.withConn fun c => { c with
      encryptType := encryptType
      compressType := compressType
      bAsyncPrepareData := bAsyncPrepareData })
  | .setState nState => some (s.withConn fun c => { c with nState := nState })

/-! ### The send path without the names -/

variable {s s' : SendOwn} {id bufId : Nat} {env : SendEnv} {b : CXBufferObj} {r : Int}
  {pCacheBuf : Option Nat} {ok : Bool}

def forget {ρ : Type} (r : SendOwn × ρ) : SendState × ρ := (r.1.conn, r.2)

@[simp] theorem useHead_conn (s : SendOwn) : s.useHead.conn = s.conn := by
  unfold useHead
  split <;> rfl

@[simp] theorem popSent_conn (s : SendOwn) (b : CXBufferObj) (rest : List CXBufferObj) (n : Nat) :
    (s.popSent b rest n).conn = s.conn.popSent b rest n := by
  unfold popSent
  dsimp only
  split <;> rfl

theorem sendLoop_forget : ∀ (l : List CXBufferObj) (answers : List SendResult) (nRet : Int) (bNeedClose : Bool)
    (s : SendOwn), (sendLoop env l answers nRet bNeedClose s).map forget =
      SendState.sendLoop env l answers nRet bNeedClose s.conn
  | [], _, _, _, _ => rfl
  | b :: rest, answers, nRet, bNeedClose, s => by
    have hpop : ∀ n, (s.useHead.popSent b rest n).conn = s.conn.popSent b rest n := fun n => by
      rw [popSent_conn, useHead_conn]
    have hclosed : ∀ n, ((s.useHead.popSent b rest n).withConn (·.closeConnection env)).conn =
        (s.conn.popSent b rest n).closeConnection env :=
      fun n => congrArg (·.closeConnection env) (hpop n)
    unfold sendLoop SendState.sendLoop
    by_cases hnext : b.nSequenceNum = s.conn.uiLastSentPacketSequenceNum + 1
    swap
    · rw [if_neg hnext, if_neg hnext, Option.map_some, forget, useHead_conn]
    rw [if_pos hnext, if_pos hnext]
    cases SendState.sendBytes 0 b.len answers with
    | none => rfl
    | some q =>
      obtain ⟨e, nTotal, answers'⟩ := q
      cases e with
      | again nLeft =>
        simp only [Option.map_some, forget, withConn, useHead_conn]
      | failed nRet' => exact (sendLoop_forget rest answers' nRet' true _).trans (by rw [hclosed])
      | sent =>
        refine (sendLoop_forget rest answers' nRet bNeedClose _).trans ?_
        dsimp only
        by_cases hclose : bNeedClose = true ∨ s.conn.nState = .closing
        · rw [if_pos hclose, if_pos hclose, hclosed]
        · rw [if_neg hclose, if_neg hclose, hpop]

section Forget

variable (hlist : s.listIds.length = s.conn.listSendBuf.head.length)

include hlist

theorem map_fst_pairs :
    s.pairs.map Prod.fst = s.conn.listSendBuf := by
  unfold pairs SeqList.map
  rw [List.map_fst_zip hlist.ge]

theorem pushSendBuffer_forget (id : Nat) :
    (s.pushSendBuffer b id).map forget = s.conn.pushSendBuffer b := by
  have hpush := SeqList.push_map CXBufferObj.nSequenceNum Prod.fst s.pairs (b, id)
  rw [map_fst_pairs hlist] at hpush
  rw [pushSendBuffer, SendState.pushSendBuffer, ← hpush, Option.map_map, Option.map_map]
  rfl

theorem postSend_forget (id : Nat) :
    (s.postSend env b id).map forget = s.conn.postSend env b := by
  have hpush := pushSendBuffer_forget (b := b) hlist id
  unfold postSend SendState.postSend
  by_cases hparam : s.conn.pSocketKernel = false ∨ b.len = 0 ∨ 1024 * 1024 < b.len
  · rw [if_pos hparam, if_pos hparam]
    rfl
  rw [if_neg hparam, if_neg hparam]
  by_cases hclosing : s.conn.nState = .closing ∨ s.conn.nState = .closed
  · rw [if_pos hclosing, if_pos hclosing]
    rfl
  rw [if_neg hclosing, if_neg hclosing, ← hpush]
  cases s.pushSendBuffer b id with
  | none => rfl
  | some q =>
    obtain ⟨s₁, ok⟩ := q
    cases ok with
    | false => rfl
    | true =>
      simp only [Option.map_some, forget]
      split_ifs
      · rfl
      · exact sendLoop_forget ..

theorem sendAssembledPacket_forget {m : Nat} :
    (s.sendAssembledPacket env b id m).map forget = s.conn.sendAssembledPacket env b m := by
  have hpost : (postSend env (s.use id) (s.conn.assembled b m) id).map forget = _ :=
    postSend_forget (s := s.use id) hlist id
  unfold sendAssembledPacket
  rw [Option.map_map, show s.conn.sendAssembledPacket env b m =
    (SendState.postSend env s.conn (s.conn.assembled b m)).map fun r => (r.1, r.2 == 0) from rfl]
  rw [show SendState.postSend env s.conn (s.conn.assembled b m) = _ from hpost.symm, Option.map_map]
  rfl

omit hlist in
theorem useCacheBuf_eq (s : SendOwn) (pCacheBuf : Option Nat) :
    (s.useCacheBuf pCacheBuf).conn = s.conn ∧ (s.useCacheBuf pCacheBuf).listIds = s.listIds := by
  cases pCacheBuf <;> exact ⟨rfl, rfl⟩

omit hlist in
theorem freeCacheBuf_eq (s : SendOwn) (pCacheBuf : Option Nat) :
    (s.freeCacheBuf pCacheBuf).conn = s.conn ∧ (s.freeCacheBuf pCacheBuf).listIds = s.listIds := by
  cases pCacheBuf <;> exact ⟨rfl, rfl⟩

theorem sendPrepared_forget :
    (s.sendPrepared env b id bufId pCacheBuf).map forget =
      match env.prepareData ((b.buf.drop headerLen).take b.bodyLen) with
      | none => some (s.conn, false)
      | some prepared => s.conn.sendAssembledPacket env
          ⟨env.freedNumber b.nSequenceNum, List.replicate headerLen 0 ++ prepared,
            (prepared.length + headerLen) % 2 ^ 32, 0⟩ b.bodyLen := by
  obtain ⟨huse, huseIds⟩ := useCacheBuf_eq (s.use id) pCacheBuf
  have hconn : (((s.use id).useCacheBuf pCacheBuf).use bufId).conn = s.conn := huse
  have hids : (((s.use id).useCacheBuf pCacheBuf).use bufId).listIds = s.listIds := huseIds
  unfold sendPrepared
  dsimp only
  generalize ((s.use id).useCacheBuf pCacheBuf).use bufId = s₁ at hconn hids
  obtain ⟨hfree, hfreeIds⟩ := freeCacheBuf_eq (s₁.free id) pCacheBuf
  have hconn₂ : ((s₁.free id).freeCacheBuf pCacheBuf).conn = s.conn := hfree.trans hconn
  cases env.prepareData ((b.buf.drop headerLen).take b.bodyLen) with
  | none => exact congrArg (fun c => some (c, false)) hconn₂
  | some prepared =>
    refine (sendAssembledPacket_forget ?_).trans (congrArg (SendState.sendAssembledPacket env · _ _) hconn₂)
    show ((s₁.free id).freeCacheBuf pCacheBuf).listIds.length =
      ((s₁.free id).freeCacheBuf pCacheBuf).conn.listSendBuf.head.length
    rw [hconn₂, hfreeIds]
    exact (congrArg List.length hids).trans hlist

/-- The new buffer is asked for; `t` has the buffer for the prepared data. -/
theorem getCXBufferObj_forget {t : SendOwn} (hconn : t.conn = s.conn) (hids : t.listIds = s.listIds) :
    (if (!env.getCXBufferObj (SendState.preparedBufLen b.bodyLen)) = true then
      some ((t.free id).freeCacheBuf pCacheBuf, false)
    else t.get.sendPrepared env b id t.next pCacheBuf).map forget =
      match (if (!env.getCXBufferObj (SendState.preparedBufLen b.bodyLen)) = true then none
        else (env.prepareData ((b.buf.drop headerLen).take b.bodyLen)).map fun prepared =>
          (⟨env.freedNumber b.nSequenceNum, List.replicate headerLen 0 ++ prepared,
            (prepared.length + headerLen) % 2 ^ 32, 0⟩ : CXBufferObj)) with
      | none => some (s.conn, false)
      | some pBufObj => s.conn.sendAssembledPacket env pBufObj b.bodyLen := by
  split_ifs
  · exact congrArg (fun c => some (c, false)) ((freeCacheBuf_eq (t.free id) pCacheBuf).1.trans hconn)
  · refine (sendPrepared_forget ?_).trans ?_
    · show t.listIds.length = t.conn.listSendBuf.head.length
      rw [hconn, hids, hlist]
    · rw [show t.get.conn = s.conn from hconn]
      cases env.prepareData ((b.buf.drop headerLen).take b.bodyLen) <;> rfl

theorem preparedAndSendPacket_forget :
    (s.preparedAndSendPacket env b id).map forget = s.conn.preparedAndSendPacket env b := by
  unfold preparedAndSendPacket SendState.preparedAndSendPacket getCacheBuf SendState.prepare
  dsimp only
  cases env.getFirstThreadCache (SendState.cacheBufLen b.bodyLen) with
  | true => exact getCXBufferObj_forget hlist (t := s.use id) rfl rfl
  | false =>
    cases env.getBuffer (SendState.cacheBufLen b.bodyLen) with
    | true => exact getCXBufferObj_forget hlist (t := (s.use id).get) rfl rfl
    | false => rfl

theorem sendNumbered_forget {bMes : Bool} :
    (s.sendNumbered env b id bMes).map forget = s.conn.sendNumbered env b bMes := by
  unfold sendNumbered SendState.sendNumbered
  split_ifs
  · rfl
  · rfl
  · rfl
  · exact preparedAndSendPacket_forget hlist
  · exact sendAssembledPacket_forget hlist

theorem sendPacket_forget {dwLen : Nat} {bMes : Bool} :
    (s.sendPacket env b dwLen bMes).map forget = s.conn.sendPacket env b dwLen bMes := by
  unfold sendPacket SendState.sendPacket
  split_ifs
  · rfl
  · exact sendNumbered_forget (s := (s.get.use s.next).withConn fun c => (c.takeNumber b dwLen).1) hlist

theorem processTask_forget {i : Nat} (htasks : s.taskIds.length = s.conn.tasks.length) :
    (s.processTask env i).map SendOwn.conn = s.conn.processTask env i := by
  unfold processTask SendState.processTask
  rcases Nat.lt_or_ge i s.conn.tasks.length with hi | hi
  swap
  · rw [List.getElem?_eq_none hi]
    rfl
  rw [List.getElem?_eq_getElem hi, List.getElem?_eq_getElem (htasks.symm ▸ hi)]
  dsimp only
  have hprep : (preparedAndSendPacket env (SendOwn.use s.taskIds[i]
      { s with conn := { s.conn with tasks := s.conn.tasks.eraseIdx i }, taskIds := s.taskIds.eraseIdx i })
      s.conn.tasks[i].pSendBuf s.taskIds[i]).map forget =
        SendState.preparedAndSendPacket env { s.conn with tasks := s.conn.tasks.eraseIdx i } s.conn.tasks[i].pSendBuf :=
    preparedAndSendPacket_forget hlist
  rw [← hprep, Option.map_map, Option.map_map]
  refine congrArg (fun f => Option.map f _) (funext fun r => ?_)
  simp only [Function.comp_apply, forget]
  split <;> rfl

theorem step_forget {act : SendState.SendAct} (htasks : s.taskIds.length = s.conn.tasks.length) :
    (s.step (.conn act)).map SendOwn.conn = s.conn.step act := by
  cases act with
  | send pBufObj dwLen bMes env =>
    show ((s.sendPacket env pBufObj dwLen bMes).map _).map _ = (s.conn.sendPacket env pBufObj dwLen bMes).map _
    rw [← sendPacket_forget hlist, Option.map_map, Option.map_map]
    rfl
  | task i env => exact processTask_forget hlist htasks
  | writable bSet env =>
    show (if bSet then (s.sendDataList env).map Prod.fst else some s).map _ =
      if bSet then (s.conn.sendDataList env).map Prod.fst else some s.conn
    split_ifs
    · rw [show s.conn.sendDataList env = _ from (sendLoop_forget ..).symm, Option.map_map, Option.map_map]
      rfl
    · rfl
  | asyncEnd i env =>
    show ((s.conn.processAsyncMessageEnd env i).map _).map _ = s.conn.processAsyncMessageEnd env i
    cases s.conn.processAsyncMessageEnd env i <;> rfl
  | close env => rfl
  | configure encryptType compressType bAsyncPrepareData => rfl

end Forget

/-! ### The run of events only grows -/

theorem prefix_popSent (s : SendOwn) (b : CXBufferObj) (rest : List CXBufferObj) (n : Nat) :
    s.trace <+: (s.popSent b rest n).trace := by
  unfold SendOwn.popSent
  dsimp only
  split
  · exact List.prefix_rfl
  · exact List.prefix_append ..

theorem prefix_useHead (s : SendOwn) : s.trace <+: s.useHead.trace := by
  unfold SendOwn.useHead
  split
  · exact List.prefix_rfl
  · exact List.prefix_append ..

theorem prefix_sendLoop : ∀ {l : List CXBufferObj} {answers : List SendResult} {nRet : Int} {bNeedClose : Bool}
    {s : SendOwn}, sendLoop env l answers nRet bNeedClose s = some (s', r) → s.trace <+: s'.trace
  | [], _, _, _, s, hs => by
    cases hs
    exact List.prefix_rfl
  | b :: rest, answers, nRet, bNeedClose, s, hs => by
    have hpop : ∀ n, s.trace <+: (s.useHead.popSent b rest n).trace :=
      fun n => (prefix_useHead s).trans (prefix_popSent ..)
    have hclosed : ∀ n, s.trace <+: ((s.useHead.popSent b rest n).withConn (·.closeConnection env)).trace := hpop
    unfold sendLoop at hs
    split at hs
    case isFalse =>
      cases hs
      exact prefix_useHead s
    case isTrue =>
      split at hs
      case h_1 => cases hs
      case h_2 =>
        cases hs
        exact prefix_useHead s
      case h_3 => exact (hclosed _).trans (prefix_sendLoop hs)
      case h_4 =>
        split at hs
        case isTrue => exact (hclosed _).trans (prefix_sendLoop hs)
        case isFalse => exact (hpop _).trans (prefix_sendLoop hs)

theorem prefix_sendDataList (hs : s.sendDataList env = some (s', r)) : s.trace <+: s'.trace := prefix_sendLoop hs

theorem prefix_postSend (hs : s.postSend env b id = some (s', r)) : s.trace <+: s'.trace := by
  unfold postSend at hs
  split_ifs at hs
  · cases hs
    exact List.prefix_rfl
  · cases hs
    exact List.prefix_rfl
  cases hpush : s.pushSendBuffer b id with
  | none => simp [hpush] at hs
  | some q =>
    obtain ⟨r, -, rfl⟩ := Option.map_eq_some_iff.mp hpush
    rw [hpush] at hs
    obtain ⟨l', ok⟩ := r
    cases ok with
    | false =>
      cases hs
      exact List.prefix_append ..
    | true =>
      dsimp only at hs
      split_ifs at hs
      · cases hs
        exact List.prefix_rfl
      · have hloop := prefix_sendDataList hs
        exact hloop

theorem prefix_sendAssembledPacket {m : Nat} (hs : s.sendAssembledPacket env b id m = some (s', ok)) :
    s.trace <+: s'.trace := by
  obtain ⟨⟨s₁, r⟩, hpost, heq⟩ := Option.map_eq_some_iff.mp hs
  cases heq
  exact (List.prefix_append ..).trans (prefix_postSend hpost)

theorem prefix_useCacheBuf (s : SendOwn) (pCacheBuf : Option Nat) : s.trace <+:
    (s.useCacheBuf pCacheBuf).trace := by
  cases pCacheBuf with
  | none => exact List.prefix_rfl
  | some => exact List.prefix_append ..

theorem prefix_freeCacheBuf (s : SendOwn) (pCacheBuf : Option Nat) : s.trace <+:
    (s.freeCacheBuf pCacheBuf).trace := by
  cases pCacheBuf with
  | none => exact List.prefix_rfl
  | some => exact List.prefix_append ..

theorem prefix_sendPrepared (hs : s.sendPrepared env b id bufId pCacheBuf = some (s', ok)) :
    s.trace <+: s'.trace := by
  have hused : s.trace <+: (((s.use id).useCacheBuf pCacheBuf).use bufId).trace :=
    (List.prefix_append ..).trans ((prefix_useCacheBuf (s.use id) pCacheBuf).trans (List.prefix_append ..))
  unfold sendPrepared at hs
  dsimp only at hs
  generalize ((s.use id).useCacheBuf pCacheBuf).use bufId = s₁ at hused hs
  have hfreed : s₁.trace <+: ((s₁.free id).freeCacheBuf pCacheBuf).trace :=
    (List.prefix_append ..).trans (prefix_freeCacheBuf (s₁.free id) pCacheBuf)
  split at hs
  · cases hs
    exact hused.trans (hfreed.trans (List.prefix_append ..))
  · exact hused.trans (hfreed.trans ((List.prefix_append ..).trans (prefix_sendAssembledPacket hs)))

theorem prefix_preparedAndSendPacket (hs : s.preparedAndSendPacket env b id = some (s', ok)) :
    s.trace <+: s'.trace := by
  have huse : s.trace <+: (s.use id).trace := List.prefix_append ..
  unfold preparedAndSendPacket at hs
  generalize s.use id = s₁ at huse hs
  unfold getCacheBuf at hs
  split at hs
  case h_1 =>
    cases hs
    exact huse.trans (List.prefix_append ..)
  case h_2 s₂ pCacheBuf hcache =>
    have hget : s₁.trace <+: s₂.trace := by
      split_ifs at hcache
      · cases hcache
        exact List.prefix_rfl
      · cases hcache
        exact List.prefix_append ..
    split_ifs at hs
    · cases hs
      exact huse.trans (hget.trans ((List.prefix_append ..).trans (prefix_freeCacheBuf (s₂.free id) pCacheBuf)))
    · have hget' : s₂.trace <+: s₂.get.trace := List.prefix_append ..
      exact huse.trans (hget.trans (hget'.trans (prefix_sendPrepared hs)))

theorem prefix_sendNumbered {bMes : Bool} (hs : s.sendNumbered env b id bMes = some (s', ok)) :
    s.trace <+: s'.trace := by
  unfold sendNumbered at hs
  split_ifs at hs
  · cases hs
    exact List.prefix_append ..
  · cases hs
    exact List.prefix_rfl
  · cases hs
    exact List.prefix_append ..
  · exact prefix_preparedAndSendPacket hs
  · exact prefix_sendAssembledPacket hs

theorem prefix_sendPacket {dwLen : Nat} {bMes : Bool}
    (hs : s.sendPacket env b dwLen bMes = some (s', ok)) : s.trace <+: s'.trace := by
  have hget : s.trace <+: s.get.trace := List.prefix_append ..
  unfold sendPacket at hs
  split_ifs at hs
  · cases hs
    exact hget.trans (List.prefix_append ..)
  · have hnumbered := prefix_sendNumbered hs
    exact hget.trans (.trans (List.prefix_append s.get.trace [.used s.next]) hnumbered)

theorem prefix_processTask {i : Nat} (hs : s.processTask env i = some s') :
    s.trace <+: s'.trace := by
  unfold processTask at hs
  split at hs
  case h_2 => cases hs
  case h_1 id _ _ =>
    obtain ⟨⟨s₁, ok⟩, hprep, heq⟩ := Option.map_eq_some_iff.mp hs
    have hsend := prefix_preparedAndSendPacket hprep
    have huse : s.trace <+: s₁.trace := .trans (List.prefix_append s.trace [.used id]) hsend
    subst heq
    dsimp only
    split
    · exact huse
    · exact huse

theorem prefix_step {a : OwnAct} (hs : s.step a = some s') : s.trace <+: s'.trace := by
  unfold step at hs
  split at hs
  · obtain ⟨⟨s₁, ok⟩, hsend, rfl⟩ := Option.map_eq_some_iff.mp hs
    exact prefix_sendPacket hsend
  · exact prefix_processTask hs
  · split_ifs at hs
    · obtain ⟨⟨s₁, r⟩, hdata, rfl⟩ := Option.map_eq_some_iff.mp hs
      exact prefix_sendDataList hdata
    · cases hs
      exact List.prefix_rfl
  · obtain ⟨c, -, rfl⟩ := Option.map_eq_some_iff.mp hs
    exact List.prefix_rfl
  · cases hs
    exact List.prefix_rfl
  · cases hs
    exact List.prefix_rfl
  · cases hs
    exact List.prefix_rfl

theorem prefix_runSteps {acts : List OwnAct} (hs : runSteps step s acts = some s') : s.trace <+: s'.trace := by
  induction acts generalizing s with
  | nil =>
    cases hs
    exact List.prefix_rfl
  | cons a acts ih =>
    obtain ⟨s₁, hstep, hrun⟩ := Option.bind_eq_some_iff.mp hs
    exact (prefix_step hstep).trans (ih hrun)

/-! ### The property -/

/-- Each buffer that the cache has given out has been freed once, or it is in the send list or in a task that
has not run; and none is used or freed after it has been freed. -/
structure Accounted (s : SendOwn) : Prop where
  once : ∀ id, Ledger.gots id s.trace ≠ [] → (Ledger.releases id s.trace).length + s.owned.count id = 1
  clean : Ledger.Clean s.trace

end SendOwn

end KonsanNet
