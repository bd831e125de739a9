import KonsanNet.Send

/-!
# What a failed reply does to the connection

A handler sends at most one reply with `SendPacket` and returns a code. `ProcessUnpackedMessage` decides
by that code whether to close the connection, unless the reply went to the task pool: then it leaves the
message alone, the task (which waits for `m_lockSend`, so it comes later) replaces `iProcessedRet`, and
`ProcessAsyncMessageEnd` decides by that. Between these steps the connection may do anything else.
-/

namespace KonsanNet

/-- `ConnectionClosedType` -/
inductive ConnectionClosedType
  | normal
  | serverExit
  | timeOut
  | illegalConnection
  | socketClosed
  | errorInProcess
  | socketOtherError
  | socketPeerClosed
deriving DecidableEq

/-- `CXRET_ASYNC_CALLBACK` -/
def cxretAsyncCallback : Int := -11

/-- `CXRET_SEND_DATA_FAILED` -/
def cxretSendDataFailed : Int := -5

/-- What a handler does with a message: the reply it sends and its length, if it sends one, and the code it
returns, which may depend on what `SendPacket` says. -/
structure Handler where
  reply : Option (CXBufferObj × Nat)
  code : Option Bool → Int

namespace SendState

/-- `SendPacket` gives the packet to the task pool. -/
def TakesTask (env : SendEnv) (s : SendState) (dwLen : Nat) : Prop :=
  dwLen ≠ 0 ∧ s.lpServer = true ∧ s.mustPrepare = true ∧ s.pDataParserHandle = true ∧ s.pTaskPool = true ∧
    s.bAsyncPrepareData = true ∧ env.getFreeTaskObject = true

instance (env : SendEnv) (s : SendState) (dwLen : Nat) : Decidable (s.TakesTask env dwLen) := by
  unfold TakesTask
  infer_instance

/-- After `ProcessUnpackedMessage` is through with the message: the code, whether `SendPacket` succeeded,
`m_bAsynchronouslyMes`, and how `CloseConnection` was called, if it was. -/
structure Processed where
  conn : SendState
  iRet : Int
  bSent : Bool
  bAsynchronouslyMes : Bool
  closed : Option ConnectionClosedType

/-- The end of the loop's body. -/
def closedAfter (s : SendState) (bNeedClose : Bool) : Option ConnectionClosedType :=
  if bNeedClose then some .errorInProcess
  else if s.nState = .closing then some .socketClosed
  else none

/-- The loop's body after the handler has returned `iRet`. -/
def endMessage (s : SendState) (iRet : Int) (bSent bAsynchronouslyMes : Bool) : Processed :=
  let bAsyncCall := iRet = cxretAsyncCallback ∨ bAsynchronouslyMes = true
  { conn := s, iRet := iRet, bSent := bSent, bAsynchronouslyMes := bAsynchronouslyMes
    closed := if bAsyncCall then none else s.closedAfter (iRet ≠ 0) }

/-- The loop's body for a message. -/
def processMessage (env : SendEnv) (h : Handler) (s : SendState) : Option Processed :=
  let s := { s with bAsyncPrepareData := s.mustPrepare }
  match h.reply with
  | none => some (s.endMessage (h.code none) true false)
  | some (pBufObj, dwLen) =>
    (s.sendPacket env pBufObj dwLen true).map fun r =>
      r.1.endMessage (h.code (some r.2)) r.2 (s.TakesTask env dwLen)

/-- `iProcessedRet` as `CXTaskPrepareMessage::ProcessTask` leaves it. -/
def taskRet (bSent : Bool) : Int := if bSent then 0 else cxretSendDataFailed

/-- How `ProcessAsyncMessageEnd` calls `CloseConnection`. -/
def asyncEndCloses (s : SendState) (iProcessedRet : Int) : Option ConnectionClosedType :=
  if iProcessedRet = -2 then some .errorInProcess
  else if s.nState = .closing ∨ s.nState = .closed then some .socketClosed
  else none

theorem processTask_taskRet {env : SendEnv} {s s' : SendState} {i : Nat} {b : CXBufferObj} {ok : Bool}
    (ht : s.tasks[i]? = some ⟨b, true⟩)
    (hp : preparedAndSendPacket env { s with tasks := s.tasks.eraseIdx i } b = some (s', ok)) :
    s.processTask env i = some { s' with ends := s'.ends ++ [taskRet ok] } := by
  unfold processTask
  rw [ht]
  dsimp only
  rw [hp]
  rfl

theorem processAsyncMessageEnd_closes {env : SendEnv} {s : SendState} {i : Nat} {iProcessedRet : Int}
    (he : s.ends[i]? = some iProcessedRet) :
    s.processAsyncMessageEnd env i =
      some (if (s.asyncEndCloses iProcessedRet).isSome then
        { s with ends := s.ends.eraseIdx i }.closeConnection env else { s with ends := s.ends.eraseIdx i }) := by
  unfold processAsyncMessageEnd asyncEndCloses
  rw [he]
  dsimp only
  by_cases h2 : iProcessedRet = -2
  · simp [h2]
  · by_cases hc : s.nState = .closing ∨ s.nState = .closed
    · simp [h2, hc]
    · simp [h2, hc]

end SendState

/-- How a message ended: the handler's code, whether its reply (if any) was prepared and queued, the
connection's state before the decision, and the decision. -/
structure Outcome where
  iRet : Int
  bReplied : Bool
  nState : ConnectionState
  closed : Option ConnectionClosedType

namespace Outcome

/-- A code that is neither `RETURN_SUCCEED` nor `CXRET_ASYNC_CALLBACK`. -/
def BadCode (iRet : Int) : Prop := iRet ≠ 0 ∧ iRet ≠ cxretAsyncCallback

def Fails (o : Outcome) : Prop := BadCode o.iRet ∨ o.bReplied = false

/-- The connection is closed with `ERROR_IN_PROCESS` for a failure and left alone otherwise. -/
def Decided (o : Outcome) : Prop :=
  (o.closed = some .errorInProcess ↔ o.Fails) ∧ (¬ o.Fails → o.nState = .established → o.closed = none)

end Outcome

open SendState Outcome

/-- A message run to its end. What the connection does before the task and between the task and the end is
left open: they find it in states `s₂` and `s₃`. -/
inductive MessageRun (h : Handler) (env : SendEnv) (s : SendState) : Outcome → Prop
  | direct {p : Processed} (hp : processMessage env h s = some p) (ha : p.bAsynchronouslyMes = false) :
    MessageRun h env s ⟨p.iRet, p.bSent, p.conn.nState, p.closed⟩
  | viaTask {p : Processed} {task : PrepareTask} {s₂ s₂' s₃ : SendState} {env₂ : SendEnv} {ok : Bool}
    (hp : processMessage env h s = some p) (ha : p.bAsynchronouslyMes = true)
    (ht : p.conn.tasks.getLast? = some task)
    (hsend : preparedAndSendPacket env₂ s₂ task.pSendBuf = some (s₂', ok)) :
    MessageRun h env s ⟨p.iRet, ok, s₃.nState, s₃.asyncEndCloses (taskRet ok)⟩

variable {h : Handler} {env env' : SendEnv} {s : SendState} {o o' : Outcome}

theorem asyncEndCloses_taskRet (s : SendState) (ok : Bool) :
    s.asyncEndCloses (taskRet ok) ≠ some .errorInProcess := by
  have hne : taskRet ok ≠ -2 := by
    cases ok
    · decide
    · decide
  unfold asyncEndCloses
  rw [if_neg hne]
  split
  · decide
  · decide

/-- Without a task the code decides, so what is missing is a code that tells of a reply that failed. -/
theorem endMessage_decided (s : SendState) (iRet : Int) (bSent : Bool) :
    Outcome.Decided ⟨iRet, bSent, s.nState, (s.endMessage iRet bSent false).closed⟩ ↔
      (bSent = false → BadCode iRet) := by
  have hclosed : (s.endMessage iRet bSent false).closed = some .errorInProcess ↔ BadCode iRet := by
    unfold endMessage closedAfter BadCode
    by_cases ha : iRet = cxretAsyncCallback
    · simp [ha]
    · by_cases h0 : iRet = 0
      · subst h0
        simp [cxretAsyncCallback]
      · simp [ha, h0]
  have hopen : ¬ BadCode iRet → s.nState = .established → (s.endMessage iRet bSent false).closed = none := by
    intro hgood hest
    unfold endMessage closedAfter
    by_cases ha : iRet = cxretAsyncCallback
    · simp [ha]
    · have h0 : iRet = 0 := by
        by_contra hne
        exact hgood ⟨hne, ha⟩
      simp [h0, hest, cxretAsyncCallback]
  constructor
  · rintro ⟨hiff, -⟩ hs
    exact hclosed.mp (hiff.mpr (Or.inr hs))
  · intro hcode
    refine ⟨hclosed.trans ⟨Or.inl, ?_⟩, fun hf => hopen fun hb => hf (Or.inl hb)⟩
    rintro (hb | hs)
    · exact hb
    · exact hcode hs

/-- A packet that goes to the task pool is a success to the handler. -/
theorem sendPacket_takesTask {b : CXBufferObj} {n : Nat} {s' : SendState} {ok : Bool}
    (ht : s.TakesTask env n) (hs : s.sendPacket env b n true = some (s', ok)) : ok = true := by
  obtain ⟨hn, hserver, hmust, hparser, hpool, hasync, hfree⟩ := ht
  unfold sendPacket sendNumbered takeNumber at hs
  unfold mustPrepare at hs hmust
  simp [hn, hserver, hmust, hparser, hpool, hasync, hfree] at hs
  exact hs.2

/-- `ProcessUnpackedMessage` sets `m_bAsyncPrepareData` before the handler runs. -/
def configured (s : SendState) : SendState := { s with bAsyncPrepareData := s.mustPrepare }

theorem MessageRun.of_none (hr : h.reply = none) (hrun : MessageRun h env s o) :
    o = ⟨h.code none, true, s.nState, ((configured s).endMessage (h.code none) true false).closed⟩ := by
  have hp₀ : processMessage env h s = some ((configured s).endMessage (h.code none) true false) := by
    unfold processMessage
    rw [hr]
    rfl
  cases hrun with
  | direct hp ha =>
    obtain rfl := Option.some.inj (hp₀.symm.trans hp)
    rfl
  | viaTask hp ha =>
    obtain rfl := Option.some.inj (hp₀.symm.trans hp)
    cases ha

/-- A message with a reply ends in `ProcessUnpackedMessage` or, if a task was taken, at the task's end. -/
theorem MessageRun.of_some {b : CXBufferObj} {n : Nat} (hr : h.reply = some (b, n))
    (hrun : MessageRun h env s o) :
    (¬ (configured s).TakesTask env n ∧ ∃ (s' : SendState) (ok : Bool),
      o = ⟨h.code (some ok), ok, s'.nState, (s'.endMessage (h.code (some ok)) ok false).closed⟩) ∨
    ((configured s).TakesTask env n ∧ ∃ (s₃ : SendState) (ok : Bool),
      o = ⟨h.code (some true), ok, s₃.nState, s₃.asyncEndCloses (taskRet ok)⟩) := by
  have hcases : ∀ p, processMessage env h s = some p → ∃ s' ok,
      (configured s).sendPacket env b n true = some (s', ok) ∧
        p = s'.endMessage (h.code (some ok)) ok ((configured s).TakesTask env n) := by
    intro p hp
    unfold processMessage at hp
    rw [hr] at hp
    obtain ⟨⟨s', ok⟩, hs, rfl⟩ := Option.map_eq_some_iff.mp hp
    exact ⟨s', ok, hs, rfl⟩
  cases hrun with
  | direct hp ha =>
    obtain ⟨s', ok, -, rfl⟩ := hcases _ hp
    have hno : ¬ (configured s).TakesTask env n := of_decide_eq_false ha
    refine Or.inl ⟨hno, s', ok, ?_⟩
    rw [decide_eq_false hno]
    rfl
  | @viaTask p task s₂ s₂' s₃ env₂ ok hp ha ht hsend =>
    obtain ⟨s', ok', hs, rfl⟩ := hcases _ hp
    have hyes : (configured s).TakesTask env n := of_decide_eq_true ha
    obtain rfl := sendPacket_takesTask hyes hs
    exact Or.inr ⟨hyes, s₃, ok, rfl⟩

/-- After a task the connection is never closed for a failure. -/
theorem taskEnd_decided (s : SendState) (iRet : Int) (ok : Bool) :
    Outcome.Decided ⟨iRet, ok, s.nState, s.asyncEndCloses (taskRet ok)⟩ ↔ ok = true ∧ ¬ BadCode iRet := by
  have hne := asyncEndCloses_taskRet s ok
  constructor
  · rintro ⟨hiff, -⟩
    have hgood : ¬ (BadCode iRet ∨ ok = false) := fun hf => hne (hiff.mpr hf)
    obtain ⟨hcode, hok⟩ := not_or.mp hgood
    exact ⟨by simpa using hok, hcode⟩
  · rintro ⟨rfl, hcode⟩
    refine ⟨⟨fun hc => absurd hc hne, fun hf => ?_⟩, fun _ hest => ?_⟩
    · rcases hf with hb | hf
      · exact absurd hb hcode
      · cases hf
    · change s.nState = .established at hest
      show s.asyncEndCloses (taskRet true) = none
      unfold asyncEndCloses taskRet
      rw [hest]
      rfl

/-- The same message without a task pool (`o`) and with one (`o'`), its reply faring alike: both decide as
they should, and so alike, exactly when there is no reply, or it goes to the pool, is sent, and the
handler is content, or it does not go to the pool and the handler's code tells of a failure. -/
theorem decided_iff {s₀ : SendState} (hrun : MessageRun h env { s₀ with pTaskPool := false } o)
    (hrun' : MessageRun h env' { s₀ with pTaskPool := true } o') (hreplied : o.bReplied = o'.bReplied) :
    (o.Decided ∧ o'.Decided ∧ (o.closed = some .errorInProcess ↔ o'.closed = some .errorInProcess)) ↔
      ∀ b n, h.reply = some (b, n) →
        if (configured { s₀ with pTaskPool := true }).TakesTask env' n then
          o'.bReplied = true ∧ ¬ BadCode (h.code (some true))
        else o'.bReplied = false → BadCode (h.code (some false)) := by
  cases hr : h.reply with
  | none =>
    obtain rfl := hrun.of_none hr
    obtain rfl := hrun'.of_none hr
    refine ⟨fun _ => nofun, fun _ => ?_⟩
    have hd := (endMessage_decided (configured { s₀ with pTaskPool := false }) (h.code none) true).mpr nofun
    exact ⟨hd, hd, Iff.rfl⟩
  | some r =>
    obtain ⟨b, n⟩ := r
    have hsync : ¬ (configured { s₀ with pTaskPool := false }).TakesTask env n := fun ht => by
      cases ht.2.2.2.2.1
    rcases hrun.of_some hr with ⟨-, s', ok, rfl⟩ | ⟨ht, -⟩
    swap
    · exact absurd ht hsync
    have hd := endMessage_decided s' (h.code (some ok)) ok
    rcases hrun'.of_some hr with ⟨ht, s'', ok', rfl⟩ | ⟨ht, s₃, ok', rfl⟩
    · -- both decide in `ProcessUnpackedMessage`
      obtain rfl : ok = ok' := hreplied
      have hd' := endMessage_decided s'' (h.code (some ok)) ok
      constructor
      · rintro ⟨-, h₂, -⟩ b' n' heq
        obtain ⟨rfl, rfl⟩ := Prod.mk.inj (Option.some.inj heq)
        rw [if_neg ht]
        rintro rfl
        exact hd'.mp h₂ rfl
      · intro hcond
        have hcond := hcond b n rfl
        rw [if_neg ht] at hcond
        have hcode : ok = false → BadCode (h.code (some ok)) := by
          rintro rfl
          exact hcond rfl
        exact ⟨hd.mpr hcode, hd'.mpr hcode, (hd.mpr hcode).1.trans (hd'.mpr hcode).1.symm⟩
    · -- with the pool the decision is that of `ProcessAsyncMessageEnd`
      obtain rfl : ok = ok' := hreplied
      have hd' := taskEnd_decided s₃ (h.code (some true)) ok
      constructor
      · rintro ⟨-, h₂, -⟩ b' n' heq
        obtain ⟨rfl, rfl⟩ := Prod.mk.inj (Option.some.inj heq)
        rw [if_pos ht]
        exact hd'.mp h₂
      · intro hcond
        have hcond := hcond b n rfl
        rw [if_pos ht] at hcond
        obtain rfl : ok = true := hcond.1
        have h₁ := hd.mpr nofun
        exact ⟨h₁, hd'.mpr hcond, h₁.1.trans (hd'.mpr hcond).1.symm⟩

/-- A handler that replies with four bytes and tells of a `SendPacket` that fails. -/
def replying : Handler :=
  ⟨some (⟨0, List.replicate 60 0, 0, 0⟩, 4), fun r => if r = some false then cxretSendDataFailed else 0⟩

/-- A connection that encrypts, with or without a task pool, on which `PrepareData` fails. -/
def encrypting (pTaskPool : Bool) : SendState :=
  { SendState.fresh true true with encryptType := 0x81, pTaskPool := pTaskPool }

def prepareFails : SendEnv where
  getFirstThreadCache _ := true
  getBuffer _ := true
  getCXBufferObj _ := true
  prepareData _ := none
  freedNumber n := n
  getFreeTaskObject := true
  send := []
  setWaitWritingEvent := true
  released _ := true

theorem replying_sync : MessageRun replying prepareFails (encrypting false)
    ⟨-5, false, .established, some .errorInProcess⟩ := by
  obtain ⟨p, hp, ha, hret, hsent, hstate, hclosed⟩ : ∃ p,
      processMessage prepareFails replying (encrypting false) = some p ∧ p.bAsynchronouslyMes = false ∧
        p.iRet = -5 ∧ p.bSent = false ∧ p.conn.nState = .established ∧ p.closed = some .errorInProcess :=
    ⟨_, rfl, rfl, rfl, rfl, rfl, rfl⟩
  have hrun := MessageRun.direct hp ha
  rw [hret, hsent, hstate, hclosed] at hrun
  exact hrun

theorem replying_async : MessageRun replying prepareFails (encrypting true) ⟨0, false, .established, none⟩ := by
  obtain ⟨p, task, hp, ha, hret, ht, hsend⟩ : ∃ p task,
      processMessage prepareFails replying (encrypting true) = some p ∧ p.bAsynchronouslyMes = true ∧
        p.iRet = 0 ∧ p.conn.tasks.getLast? = some task ∧
        preparedAndSendPacket prepareFails (encrypting true) task.pSendBuf = some (encrypting true, false) :=
    ⟨_, _, rfl, rfl, rfl, rfl, rfl⟩
  have hrun := @MessageRun.viaTask _ _ _ _ _ _ _ (encrypting true) _ _ hp ha ht hsend
  rw [hret] at hrun
  exact hrun

theorem decided_iff_replying :
    (Outcome.Decided ⟨-5, false, .established, some .errorInProcess⟩ ∧
      Outcome.Decided ⟨0, false, .established, none⟩ ∧
      (some ConnectionClosedType.errorInProcess = some .errorInProcess ↔
        (none : Option ConnectionClosedType) = some .errorInProcess)) ↔
      ∀ b n, replying.reply = some (b, n) →
        if (configured (encrypting true)).TakesTask prepareFails n then
          false = true ∧ ¬ BadCode (replying.code (some true))
        else false = false → BadCode (replying.code (some false)) :=
  decided_iff (show MessageRun replying prepareFails { encrypting true with pTaskPool := false } _ from replying_sync)
    replying_async rfl

/-- The reply cannot be prepared: without the pool the connection is closed, with it nothing happens. -/
theorem not_decided_replying :
    MessageRun replying prepareFails (encrypting false) ⟨-5, false, .established, some .errorInProcess⟩ ∧
      MessageRun replying prepareFails (encrypting true) ⟨0, false, .established, none⟩ ∧
      ¬ Outcome.Decided ⟨0, false, .established, none⟩ := by
  refine ⟨replying_sync, replying_async, ?_⟩
  rintro ⟨hiff, -⟩
  cases hiff.mpr (Or.inr rfl)

end KonsanNet
