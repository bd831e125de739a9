import KonsanNet.Send

/-!
# When the send sequence has no gap

As long as a connection is established and no packet is lost after it has taken its number, the numbers
after the last sent one are all there: in the send list, in a task, or in the hands of the call that is
running (`Numbers`). A packet that is lost there, because the parser is missing, a buffer or task object is
refused, `PrepareData` fails or the prepared packet is too long, leaves its number missing for the rest of
the connection's life (`Missing`): nobody gives the number back or closes the connection. So does a prepared packet
whose number is read out of the freed input as another one.
-/

namespace KonsanNet

namespace SendState

def listNums (s : SendState) : List Nat := s.listSendBuf.head.map CXBufferObj.nSequenceNum

def taskNums (s : SendState) : List Nat := s.tasks.map fun t => t.pSendBuf.nSequenceNum

/-- The numbers that are not sent yet are in the list, in the tasks and in `held`, each once. -/
structure Numbers (s : SendState) (held : List Nat) : Prop where
  ordered : SeqList.Ordered CXBufferObj.nSequenceNum s.listSendBuf
  perm : (s.listNums ++ (s.taskNums ++ held)).Perm
    (List.range' (s.uiLastSentPacketSequenceNum + 1)
      (s.uiCurSendingPacketSequenceNum - (s.uiLastSentPacketSequenceNum + 1)))
  le : s.uiLastSentPacketSequenceNum + 1 ≤ s.uiCurSendingPacketSequenceNum

/-- While the connection is established. -/
def SendInv (s : SendState) : Prop := s.nState = .established → Numbers s []

/-- The send list is empty with nothing left to number, or its head is the next packet. -/
def NoGap (s : SendState) : Prop :=
  match s.listSendBuf.head with
  | [] => s.uiCurSendingPacketSequenceNum = s.uiLastSentPacketSequenceNum + 1
  | b :: _ => b.nSequenceNum = s.uiLastSentPacketSequenceNum + 1

instance (s : SendState) : Decidable s.NoGap := by
  unfold NoGap
  split <;> infer_instance

variable {s s' : SendState} {env : SendEnv} {b : CXBufferObj} {rest : List CXBufferObj} {held : List Nat}
  {k n dwLen : Nat} {bMes : Bool} {r : Int} {ok : Bool}

theorem Numbers.noGap (h : Numbers s []) (htasks : s.tasks = []) : s.NoGap := by
  have hsorted : s.listNums.Pairwise (· < ·) := List.pairwise_map.mpr h.ordered.sorted
  have hperm := h.perm
  simp only [taskNums, htasks, List.map_nil, List.append_nil] at hperm
  have heq : s.listNums = List.range' _ _ :=
    hperm.eq_of_pairwise (fun _ _ _ _ h₁ h₂ => absurd h₁ (Nat.lt_asymm h₂)) hsorted List.pairwise_lt_range'
  unfold NoGap
  have hle := h.le
  unfold listNums at heq
  cases hl : s.listSendBuf.head with
  | nil =>
    rw [hl] at heq
    have := congrArg List.length heq
    simp at this
    show s.uiCurSendingPacketSequenceNum = _
    omega
  | cons b rest =>
    rw [hl] at heq
    cases hn : s.uiCurSendingPacketSequenceNum - (s.uiLastSentPacketSequenceNum + 1) with
    | zero => simp [hn] at heq
    | succ n =>
      rw [hn, List.range'_succ, List.map_cons, List.cons.injEq] at heq
      exact heq.1

/-! ### `SendDataList` -/

theorem Numbers.popSent (h : Numbers s held) (hl : s.listSendBuf.head = b :: rest)
    (hb : b.nSequenceNum = s.uiLastSentPacketSequenceNum + 1) : Numbers (s.popSent b rest n) held := by
  have hord := h.ordered
  have hperm := h.perm
  have hle := h.le
  obtain ⟨hrest, hnum⟩ : s.listNums = b.nSequenceNum :: rest.map CXBufferObj.nSequenceNum ∧
      (s.popSent b rest n).taskNums = s.taskNums := ⟨by simp [listNums, hl], rfl⟩
  cases hn : s.uiCurSendingPacketSequenceNum - (s.uiLastSentPacketSequenceNum + 1) with
  | zero =>
    rw [hn, hrest] at hperm
    cases hperm.eq_nil
  | succ m =>
    rw [hn, hrest, hb, List.range'_succ, List.cons_append] at hperm
    refine ⟨?_, ?_, ?_⟩
    · have hlist : s.listSendBuf = ⟨[b] ++ rest, s.listSendBuf.endSeq⟩ := by rw [List.singleton_append, ← hl]
      rw [hlist] at hord
      exact hord.suffix
    · have hm : s.uiCurSendingPacketSequenceNum - (s.uiLastSentPacketSequenceNum + 1 + 1) = m := by omega
      show (rest.map CXBufferObj.nSequenceNum ++ (s.taskNums ++ held)).Perm
        (List.range' (s.uiLastSentPacketSequenceNum + 1 + 1)
          (s.uiCurSendingPacketSequenceNum - (s.uiLastSentPacketSequenceNum + 1 + 1)))
      rw [hm]
      exact hperm.cons_inv
    · show s.uiLastSentPacketSequenceNum + 1 + 1 ≤ s.uiCurSendingPacketSequenceNum
      omega

theorem Numbers.keepHead {m : Nat} (h : Numbers s held) (hl : s.listSendBuf.head = b :: rest) :
    Numbers (s.keepHead b rest n m) held := by
  have hnums : (s.keepHead b rest n m).listNums = s.listNums := by simp [listNums, SendState.keepHead, hl]
  refine ⟨h.ordered.of_map_eq hnums rfl, ?_, h.le⟩
  show ((s.keepHead b rest n m).listNums ++ (s.taskNums ++ held)).Perm _
  rw [hnums]
  exact h.perm

theorem closeConnection_ne : (s.closeConnection env).nState ≠ .established := by
  unfold closeConnection
  split
  case isTrue h => simp [h]
  case isFalse => split <;> simp

theorem closeConnection_head : (s.closeConnection env).listSendBuf = s.listSendBuf := by
  unfold closeConnection
  split <;> rfl

/-- The loop takes the heads off in order, whatever `send` answers: what its three moves keep, it keeps. -/
theorem sendLoop_keeps {P : SendState → Prop}
    (hkeep : ∀ {s b rest n m}, P s → s.listSendBuf.head = b :: rest → P (s.keepHead b rest n m))
    (hpop : ∀ {s b rest n}, P s → s.listSendBuf.head = b :: rest →
      b.nSequenceNum = s.uiLastSentPacketSequenceNum + 1 → P (s.popSent b rest n))
    (hclose : ∀ {s}, P s → P (s.closeConnection env)) :
    ∀ {l : List CXBufferObj} {answers : List SendResult} {nRet : Int} {bNeedClose : Bool} {s : SendState},
      P s → s.listSendBuf.head = l → sendLoop env l answers nRet bNeedClose s = some (s', r) → P s'
  | [], _, _, _, s, h, _, hs => by
    cases hs
    exact h
  | b :: rest, answers, nRet, bNeedClose, s, h, hl, hs => by
    unfold sendLoop at hs
    split at hs
    case isFalse =>
      cases hs
      exact h
    case isTrue hb =>
      have hhead : ∀ n, ((s.popSent b rest n).closeConnection env).listSendBuf.head = rest := by
        intro n
        rw [closeConnection_head]
        rfl
      split at hs
      case h_1 => cases hs
      case h_2 =>
        cases hs
        exact hkeep h hl
      case h_3 => exact sendLoop_keeps hkeep hpop hclose (hclose (hpop h hl hb)) (hhead _) hs
      case h_4 =>
        split at hs
        case isTrue => exact sendLoop_keeps hkeep hpop hclose (hclose (hpop h hl hb)) (hhead _) hs
        case isFalse => exact sendLoop_keeps hkeep hpop hclose (hpop h hl hb) rfl hs

theorem SendInv.sendDataList (h : SendInv s) (hs : s.sendDataList env = some (s', r)) : SendInv s' := by
  refine sendLoop_keeps ?_ ?_ ?_ h rfl hs
  · exact fun h hl hest => (h hest).keepHead hl
  · exact fun h hl hb hest => (h hest).popSent hl hb
  · exact fun _ hest => absurd hest closeConnection_ne

/-! ### A packet on its way into the list -/

theorem Numbers.mem_lt (h : Numbers s held) (hk : k ∈ s.listNums ∨ k ∈ s.taskNums ∨ k ∈ held) :
    s.uiLastSentPacketSequenceNum < k ∧ k < s.uiCurSendingPacketSequenceNum := by
  have hmem : k ∈ s.listNums ++ (s.taskNums ++ held) := by simpa using hk
  have := List.mem_range'_1.mp (h.perm.mem_iff.mp hmem)
  omega

theorem Numbers.push (h : Numbers s [b.nSequenceNum]) :
    ∃ s', s.pushSendBuffer b = some (s', true) ∧ s'.nState = s.nState ∧ Numbers s' [] := by
  have hnew : ∀ a ∈ s.listSendBuf.head, a.nSequenceNum ≠ b.nSequenceNum := by
    intro a ha heq
    have hnd : (s.listNums ++ (s.taskNums ++ [b.nSequenceNum])).Nodup :=
      h.perm.nodup_iff.mpr (List.nodup_range' 1)
    have ha' : b.nSequenceNum ∈ s.listNums := List.mem_map.mpr ⟨a, ha, heq⟩
    exact List.disjoint_of_nodup_append hnd ha' (by simp)
  obtain ⟨l', hpush, hord, hperm⟩ := h.ordered.push hnew
  refine ⟨{ s with listSendBuf := l' }, by rw [pushSendBuffer, hpush]; rfl, rfl, hord, ?_, h.le⟩
  have hnums : (l'.head.map CXBufferObj.nSequenceNum).Perm (b.nSequenceNum :: s.listNums) := hperm.map _
  show (l'.head.map CXBufferObj.nSequenceNum ++ (s.taskNums ++ [])).Perm _
  rw [List.append_nil]
  refine (hnums.append_right _).trans (List.Perm.trans ?_ h.perm)
  rw [← List.append_assoc]
  exact (List.perm_append_singleton _ _).symm

/-- The connection's kernel is there and the length is one that `PostSend` accepts. -/
def postOk (s : SendState) (len : Nat) : Bool := s.pSocketKernel && 0 < len && len ≤ 1024 * 1024

theorem SendInv.postSend (h : s.nState = .established → Numbers s [b.nSequenceNum])
    (hok : s.nState = .established → postOk s b.len) (hs : s.postSend env b = some (s', r)) : SendInv s' := by
  intro hest'
  unfold SendState.postSend at hs
  by_cases hest : s.nState = .established
  · have hpost := hok hest
    simp only [postOk, Bool.and_eq_true, decide_eq_true_eq] at hpost
    obtain ⟨⟨hk, h0⟩, h1⟩ := hpost
    obtain ⟨s₁, hpush, hst, hn⟩ := (h hest).push
    rw [if_neg (by simp [hk]; omega), if_neg (by simp [hest]), hpush] at hs
    simp only [hst, hest, ne_eq, not_true_eq_false, if_false] at hs
    exact SendInv.sendDataList (fun _ => hn) hs hest'
  · -- a connection that is not established stays so
    exfalso
    split at hs
    · cases hs
      exact hest hest'
    split at hs
    · cases hs
      exact hest hest'
    unfold pushSendBuffer at hs
    cases hp : SeqList.push CXBufferObj.nSequenceNum s.listSendBuf b with
    | none => simp [hp] at hs
    | some q =>
      obtain ⟨l', ret⟩ := q
      cases ret with
      | false =>
        simp only [hp, Option.map_some] at hs
        cases hs
        exact hest hest'
      | true =>
        simp only [hp, Option.map_some, if_pos hest] at hs
        cases hs
        exact hest hest'

theorem SendInv.sendAssembledPacket {m : Nat} (h : s.nState = .established → Numbers s [b.nSequenceNum])
    (hok : s.nState = .established → postOk s b.len)
    (hs : s.sendAssembledPacket env b m = some (s', ok)) : SendInv s' := by
  obtain ⟨⟨s₁, r⟩, hpost, heq⟩ := Option.map_eq_some_iff.mp hs
  cases heq
  exact SendInv.postSend (b := ⟨b.nSequenceNum, memcpy b.buf 0 _, b.len, b.nCurDataPointer⟩) h hok hpost

/-- Nothing that preparing the packet needs is missing, what comes out can be sent, and the freed input still reads the
packet's number. -/
def prepareOk (s : SendState) (env : PrepareEnv) (b : CXBufferObj) : Bool :=
  env.freedNumber b.nSequenceNum == b.nSequenceNum &&
    ((env.getFirstThreadCache (cacheBufLen b.bodyLen) || env.getBuffer (cacheBufLen b.bodyLen)) &&
    env.getCXBufferObj (preparedBufLen b.bodyLen) &&
    (env.prepareData ((b.buf.drop headerLen).take b.bodyLen)).any fun prepared =>
      postOk s ((prepared.length + headerLen) % 2 ^ 32))

theorem prepare_of_ok (hok : prepareOk s env.toPrepareEnv b) :
    ∃ b', prepare env.toPrepareEnv b = some b' ∧ b'.nSequenceNum = b.nSequenceNum ∧ postOk s b'.len := by
  simp only [prepareOk, Bool.and_eq_true, Bool.or_eq_true] at hok
  obtain ⟨hnum, ⟨hcache, hbuf⟩, hprep⟩ := hok
  obtain ⟨prepared, hp, hpost⟩ := Option.any_eq_true _ _ |>.mp hprep
  refine ⟨⟨env.freedNumber b.nSequenceNum, List.replicate headerLen 0 ++ prepared,
    (prepared.length + headerLen) % 2 ^ 32, 0⟩, ?_, eq_of_beq hnum, hpost⟩
  simp only [prepare, hbuf, hp]
  rcases hcache with hc | hc <;> simp [hc]

theorem SendInv.preparedAndSendPacket (h : s.nState = .established → Numbers s [b.nSequenceNum])
    (hok : s.nState = .established → prepareOk s env.toPrepareEnv b)
    (hs : s.preparedAndSendPacket env b = some (s', ok)) : SendInv s' := by
  unfold SendState.preparedAndSendPacket at hs
  by_cases hest : s.nState = .established
  · obtain ⟨b', hprep, hseq, hpost⟩ := prepare_of_ok (hok hest)
    rw [hprep] at hs
    exact SendInv.sendAssembledPacket (fun he => hseq ▸ h he) (fun _ => hpost) hs
  · split at hs
    · cases hs
      exact fun hest' => absurd hest' hest
    · exact SendInv.sendAssembledPacket (fun he => absurd he hest) (fun he => absurd he hest) hs

theorem Numbers.takeNumber (h : Numbers s []) :
    Numbers (s.takeNumber b dwLen).1 [(s.takeNumber b dwLen).2.nSequenceNum] := by
  have hle := h.le
  refine ⟨h.ordered, ?_, Nat.le_succ_of_le hle⟩
  show (s.listNums ++ (s.taskNums ++ [s.uiCurSendingPacketSequenceNum])).Perm (List.range'
    (s.uiLastSentPacketSequenceNum + 1) (s.uiCurSendingPacketSequenceNum + 1 - (s.uiLastSentPacketSequenceNum + 1)))
  have hn : s.uiCurSendingPacketSequenceNum + 1 - (s.uiLastSentPacketSequenceNum + 1) =
      s.uiCurSendingPacketSequenceNum - (s.uiLastSentPacketSequenceNum + 1) + 1 := by omega
  have hk : s.uiLastSentPacketSequenceNum + 1 +
      (s.uiCurSendingPacketSequenceNum - (s.uiLastSentPacketSequenceNum + 1)) =
        s.uiCurSendingPacketSequenceNum := by omega
  rw [hn, List.range'_1_concat, hk, ← List.append_assoc]
  have := h.perm
  rw [List.append_nil] at this
  exact this.append_right _

/-- The condition under which a numbered packet is not lost. -/
def sendOk (env : SendEnv) (s : SendState) (b : CXBufferObj) : Bool :=
  if s.mustPrepare then
    s.pDataParserHandle &&
      if s.pTaskPool && s.bAsyncPrepareData then env.getFreeTaskObject else prepareOk s env.toPrepareEnv b
  else postOk s b.len

theorem SendInv.sendNumbered (h : s.nState = .established → Numbers s [b.nSequenceNum])
    (hok : s.nState = .established → sendOk env s b)
    (hs : s.sendNumbered env b bMes = some (s', ok)) : SendInv s' := by
  unfold SendState.sendNumbered at hs
  unfold sendOk at hok
  by_cases hm : s.mustPrepare = true
  · rw [if_pos hm] at hs hok
    by_cases hparser : s.pDataParserHandle = false
    · rw [if_pos hparser] at hs
      cases hs
      exact fun he => by simp [hparser] at hok; exact absurd he hok
    rw [if_neg hparser] at hs
    by_cases hpool : (s.pTaskPool && s.bAsyncPrepareData) = true
    · rw [if_pos hpool] at hs hok
      split at hs
      case isTrue =>
        cases hs
        intro he
        have hn := h he
        refine ⟨hn.ordered, ?_, hn.le⟩
        have := hn.perm
        simpa [listNums, taskNums] using this
      case isFalse hfree =>
        cases hs
        exact fun he => absurd (((Bool.and_eq_true _ _).mp (hok he)).2) hfree
    · rw [if_neg hpool] at hs hok
      exact SendInv.preparedAndSendPacket h (fun he => ((Bool.and_eq_true _ _).mp (hok he)).2) hs
  · rw [if_neg hm] at hs hok
    exact SendInv.sendAssembledPacket h hok hs

theorem SendInv.sendPacket (h : SendInv s)
    (hok : s.nState = .established → dwLen ≠ 0 → s.lpServer →
      sendOk env (s.takeNumber b dwLen).1 (s.takeNumber b dwLen).2)
    (hs : s.sendPacket env b dwLen bMes = some (s', ok)) : SendInv s' := by
  unfold SendState.sendPacket at hs
  split at hs
  case isTrue =>
    cases hs
    exact h
  case isFalse hin =>
    have hin' : dwLen ≠ 0 ∧ s.lpServer = true := by simpa using hin
    refine SendInv.sendNumbered ?_ ?_ hs
    · exact fun he => (h he).takeNumber
    · exact fun he => hok he hin'.1 hin'.2

/-! ### Runs -/

theorem Numbers.takeTask {i : Nat} {t : PrepareTask} (h : Numbers s []) (ht : s.tasks[i]? = some t) :
    Numbers { s with tasks := s.tasks.eraseIdx i } [t.pSendBuf.nSequenceNum] := by
  obtain ⟨hi, hget⟩ := List.getElem?_eq_some_iff.mp ht
  refine ⟨h.ordered, ?_, h.le⟩
  have hperm := h.perm
  rw [List.append_nil] at hperm
  refine List.Perm.trans (List.Perm.append_left _ ?_) hperm
  show (((s.tasks.eraseIdx i).map fun t => t.pSendBuf.nSequenceNum) ++ [t.pSendBuf.nSequenceNum]).Perm s.taskNums
  have herase : (t :: s.tasks.eraseIdx i).Perm s.tasks := by
    rw [← hget]
    exact List.getElem_cons_eraseIdx_perm hi
  exact (List.perm_append_singleton _ _).trans (herase.map fun t : PrepareTask => t.pSendBuf.nSequenceNum)

/-- No step of an established connection loses a packet that has its number. -/
def stepOk (s : SendState) : SendAct → Bool
  | .send b dwLen _ env =>
    decide (s.nState ≠ .established) || dwLen == 0 || !s.lpServer ||
      sendOk env (s.takeNumber b dwLen).1 (s.takeNumber b dwLen).2
  | .task i env =>
    decide (s.nState ≠ .established) || s.tasks[i]?.all fun t => prepareOk s env.toPrepareEnv t.pSendBuf
  | .writable _ _ | .asyncEnd _ _ | .close _ | .configure _ _ _ => true

theorem SendInv.step (h : SendInv s) {a : SendAct} (hok : stepOk s a) (hs : s.step a = some s') :
    SendInv s' := by
  cases a with
  | send b dwLen bMes env =>
    obtain ⟨⟨s₁, ret⟩, hsend, heq⟩ := Option.map_eq_some_iff.mp hs
    cases heq
    refine h.sendPacket (fun he h0 hsrv => ?_) hsend
    simpa [stepOk, he, h0, hsrv] using hok
  | task i env =>
    simp only [SendState.step, processTask] at hs
    split at hs
    case h_1 => cases hs
    case h_2 t ht =>
      obtain ⟨⟨s₁, ret⟩, hsend, heq⟩ := Option.map_eq_some_iff.mp hs
      have h₁ : SendInv s₁ := by
        refine SendInv.preparedAndSendPacket ?_ ?_ hsend
        · exact fun he => (h he).takeTask ht
        · intro he
          have he' : s.nState = .established := he
          have hprep : prepareOk s env.toPrepareEnv t.pSendBuf := by simpa [stepOk, he', ht] using hok
          exact hprep
      subst heq
      dsimp only
      split
      · exact fun he => ⟨(h₁ he).ordered, (h₁ he).perm, (h₁ he).le⟩
      · exact h₁
  | writable bSet env =>
    simp only [SendState.step] at hs
    split at hs
    · obtain ⟨⟨s₁, ret⟩, hsend, heq⟩ := Option.map_eq_some_iff.mp hs
      cases heq
      exact h.sendDataList hsend
    · cases hs
      exact h
  | asyncEnd i env =>
    simp only [SendState.step, processAsyncMessageEnd] at hs
    split at hs
    case h_1 => cases hs
    case h_2 =>
      cases hs
      split
      · exact fun he => absurd he closeConnection_ne
      · exact fun he => ⟨(h he).ordered, (h he).perm, (h he).le⟩
  | close env =>
    cases hs
    exact fun he => absurd he closeConnection_ne
  | configure e c b =>
    cases hs
    exact fun he => ⟨(h he).ordered, (h he).perm, (h he).le⟩

theorem sendInv_fresh (pDataParserHandle pTaskPool : Bool) : SendInv (fresh pDataParserHandle pTaskPool) :=
  fun _ => ⟨SeqList.ordered_empty, List.Perm.refl _, le_rfl⟩

/-- In every run whose steps lose no numbered packet, the send list has no gap whenever the connection is
established and no preparation task is outstanding. -/
theorem noGap_of_reachable {pDataParserHandle pTaskPool : Bool}
    (h : Reachable (guarded (fun s a => stepOk s a = true) step) (fresh pDataParserHandle pTaskPool) s)
    (hest : s.nState = .established) (htasks : s.tasks = []) : s.NoGap := by
  have hinv : SendInv s := h.invariant (sendInv_fresh _ _) fun s₁ a s₂ hi hs => by
    obtain ⟨hok, hs⟩ := guarded_eq_some.mp hs
    exact hi.step hok hs
  exact (hinv hest).noGap htasks

/-- Everything is at hand, and the socket takes `n` bytes. -/
def roomyEnv (prepared : Option (List UInt8)) (n : Nat) : SendEnv where
  getFirstThreadCache _ := true
  getBuffer _ := true
  getCXBufferObj _ := true
  prepareData _ := prepared
  freedNumber n := n
  getFreeTaskObject := true
  send := [.written n, .eagain]
  setWaitWritingEvent := true
  released _ := false

/-- Two encrypted packets; the second one is ready first, and is sent in part. -/
def twoPackets : List SendAct :=
  [.configure 0x81 0 true, .send ⟨0, List.replicate 80 0, 0, 0⟩ 24 true (roomyEnv none 0),
    .send ⟨0, List.replicate 80 0, 0, 0⟩ 24 true (roomyEnv none 0), .task 1 (roomyEnv (some [1, 2, 3]) 19),
    .task 0 (roomyEnv (some [4]) 17)]

theorem noGap_of_reachable_two :
    ∃ s, runSteps (guarded (fun s a => stepOk s a = true) step) (fresh true true) twoPackets = some s ∧
      s.uiLastSentPacketSequenceNum = 1 ∧ s.NoGap := by
  obtain ⟨s, hs⟩ : ∃ s, runSteps (guarded (fun s a => stepOk s a = true) step) (fresh true true)
    twoPackets = some s := ⟨_, rfl⟩
  have hrun := Reachable.of_runSteps hs
  have hstate : s.nState = .established ∧ s.tasks = [] ∧ s.uiLastSentPacketSequenceNum = 1 := by
    cases hs
    exact ⟨rfl, rfl, rfl⟩
  exact ⟨s, hs, hstate.2.2, noGap_of_reachable hrun hstate.1 hstate.2.1⟩

/-- `PrepareData` fails for the first packet in its task. Its message completes with -5, the connection stays
established, and the second packet waits for a number that nobody has. -/
theorem lost_number_gap :
    ∃ s, runSteps step (fresh true true)
        [.configure 0x81 0 true, .send ⟨0, List.replicate 80 0, 0, 0⟩ 24 true (roomyEnv none 0),
          .task 0 (roomyEnv none 0), .asyncEnd 0 (roomyEnv none 0),
          .send ⟨0, List.replicate 80 0, 0, 0⟩ 24 true (roomyEnv none 0),
          .task 0 (roomyEnv (some [1, 2, 3]) 19)] = some s ∧
      s.nState = .established ∧ s.tasks = [] ∧ ¬ s.NoGap :=
  ⟨_, rfl, rfl, rfl, by decide⟩

/-- The freed input of the first packet reads 2: its packet is queued as the second one. -/
theorem other_number_gap :
    ∃ s, runSteps step (fresh true false)
        [.configure 0x81 0 false, .send ⟨0, List.replicate 80 0, 0, 0⟩ 24 true
          { roomyEnv (some [1, 2, 3]) 19 with freedNumber := fun _ => 2 }] = some s ∧
      s.nState = .established ∧ s.tasks = [] ∧ s.listNums = [2] ∧ ¬ s.NoGap :=
  ⟨_, rfl, rfl, rfl, rfl, by decide⟩

/-! ### A lost number stays lost -/

/-- The number `k` was taken, is not sent, and nobody has it. -/
structure Missing (s : SendState) (k : Nat) : Prop where
  lt : s.uiLastSentPacketSequenceNum < k
  taken : k < s.uiCurSendingPacketSequenceNum
  list : k ∉ s.listNums
  tasks : k ∉ s.taskNums

theorem Missing.congr (h : Missing s k) (hlist : s'.listSendBuf = s.listSendBuf) (htasks : s'.tasks = s.tasks)
    (hlast : s'.uiLastSentPacketSequenceNum = s.uiLastSentPacketSequenceNum)
    (hcur : s'.uiCurSendingPacketSequenceNum = s.uiCurSendingPacketSequenceNum) : Missing s' k := by
  refine ⟨hlast ▸ h.lt, hcur ▸ h.taken, ?_, ?_⟩
  · rw [listNums, hlist]
    exact h.list
  · rw [taskNums, htasks]
    exact h.tasks

theorem Missing.closeConnection (h : Missing s k) : Missing (s.closeConnection env) k := by
  unfold SendState.closeConnection
  split
  · exact h
  · exact h.congr rfl rfl rfl rfl

theorem Missing.popSent (h : Missing s k) (hl : s.listSendBuf.head = b :: rest)
    (hb : b.nSequenceNum = s.uiLastSentPacketSequenceNum + 1) : Missing (s.popSent b rest n) k := by
  have hlist := h.list
  rw [listNums, hl, List.map_cons, List.mem_cons, not_or] at hlist
  refine ⟨?_, h.taken, hlist.2, h.tasks⟩
  have hlt := h.lt
  show s.uiLastSentPacketSequenceNum + 1 < k
  omega

theorem Missing.keepHead {m : Nat} (h : Missing s k) (hl : s.listSendBuf.head = b :: rest) :
    Missing (s.keepHead b rest n m) k := by
  have hlist := h.list
  rw [listNums, hl] at hlist
  exact ⟨h.lt, h.taken, hlist, h.tasks⟩

theorem Missing.sendDataList (h : Missing s k) (hs : s.sendDataList env = some (s', r)) : Missing s' k :=
  sendLoop_keeps Missing.keepHead Missing.popSent Missing.closeConnection h rfl hs

theorem Missing.postSend (h : Missing s k) (hb : b.nSequenceNum ≠ k) (hs : s.postSend env b = some (s', r)) :
    Missing s' k := by
  unfold SendState.postSend at hs
  split at hs
  · cases hs
    exact h
  split at hs
  · cases hs
    exact h
  cases hp : SeqList.push CXBufferObj.nSequenceNum s.listSendBuf b with
  | none => simp [pushSendBuffer, hp] at hs
  | some q =>
    obtain ⟨l', ret⟩ := q
    have hpush : Missing { s with listSendBuf := l' } k := by
      refine ⟨h.lt, h.taken, fun hk => ?_, h.tasks⟩
      obtain ⟨a, ha, hak⟩ := List.mem_map.mp hk
      rcases SeqList.mem_push _ hp ha with rfl | ha
      · exact hb hak
      · exact h.list (List.mem_map.mpr ⟨a, ha, hak⟩)
    simp only [pushSendBuffer, hp, Option.map_some] at hs
    cases ret with
    | false =>
      cases hs
      exact hpush
    | true =>
      dsimp only at hs
      split at hs
      · cases hs
        exact hpush
      · exact hpush.sendDataList hs

theorem Missing.sendAssembledPacket {m : Nat} (h : Missing s k) (hb : b.nSequenceNum ≠ k)
    (hs : s.sendAssembledPacket env b m = some (s', ok)) : Missing s' k := by
  obtain ⟨⟨s₁, r⟩, hpost, heq⟩ := Option.map_eq_some_iff.mp hs
  cases heq
  exact Missing.postSend (b := ⟨b.nSequenceNum, memcpy b.buf 0 _, b.len, b.nCurDataPointer⟩) h hb hpost

theorem prepare_seq {env : PrepareEnv} {b' : CXBufferObj} (h : prepare env b = some b') :
    b'.nSequenceNum = env.freedNumber b.nSequenceNum := by
  simp only [prepare] at h
  split at h
  · cases h
  split at h
  · cases h
  obtain ⟨prepared, -, heq⟩ := Option.map_eq_some_iff.mp h
  rw [← heq]

theorem Missing.preparedAndSendPacket (h : Missing s k) (hb : env.freedNumber b.nSequenceNum ≠ k)
    (hs : s.preparedAndSendPacket env b = some (s', ok)) : Missing s' k := by
  unfold SendState.preparedAndSendPacket at hs
  split at hs
  case h_1 =>
    cases hs
    exact h
  case h_2 hprep => exact h.sendAssembledPacket (by rwa [prepare_seq hprep]) hs

theorem Missing.sendNumbered (h : Missing s k) (hb : b.nSequenceNum ≠ k)
    (hfreed : env.freedNumber b.nSequenceNum = b.nSequenceNum)
    (hs : s.sendNumbered env b bMes = some (s', ok)) : Missing s' k := by
  unfold SendState.sendNumbered at hs
  split at hs
  · split at hs
    · cases hs
      exact h
    split at hs
    · split at hs
      · cases hs
        refine ⟨h.lt, h.taken, h.list, fun hk => ?_⟩
        have hmem : k ∈ s.taskNums ∨ k = b.nSequenceNum := by simpa [taskNums] using hk
        rcases hmem with hk | hk
        · exact h.tasks hk
        · exact hb hk.symm
      · cases hs
        exact h
    · exact h.preparedAndSendPacket (by rwa [hfreed]) hs
  · exact h.sendAssembledPacket hb hs

/-- The freed input of the packet reads the number that it had. -/
def readsNumber (s : SendState) : SendAct → Bool
  | .send _ _ _ env => env.freedNumber s.uiCurSendingPacketSequenceNum == s.uiCurSendingPacketSequenceNum
  | .task i env =>
    s.tasks[i]?.all fun t => env.freedNumber t.pSendBuf.nSequenceNum == t.pSendBuf.nSequenceNum
  | _ => true

/-- Nothing that a connection does brings the number back, unless it is what a freed buffer reads. -/
theorem Missing.step (h : Missing s k) {a : SendAct} (hreads : readsNumber s a) (hs : s.step a = some s') :
    Missing s' k := by
  cases a with
  | send b dwLen bMes env =>
    obtain ⟨⟨s₁, ret⟩, hsend, heq⟩ := Option.map_eq_some_iff.mp hs
    cases heq
    unfold SendState.sendPacket at hsend
    split at hsend
    · cases hsend
      exact h
    · have htake : Missing (s.takeNumber b dwLen).1 k := ⟨h.lt, Nat.lt_succ_of_lt h.taken, h.list, h.tasks⟩
      have hfreed : env.freedNumber s.uiCurSendingPacketSequenceNum = s.uiCurSendingPacketSequenceNum :=
        eq_of_beq hreads
      exact htake.sendNumbered (Nat.ne_of_gt h.taken) hfreed hsend
  | task i env =>
    simp only [SendState.step, processTask] at hs
    split at hs
    case h_1 => cases hs
    case h_2 t ht =>
      obtain ⟨⟨s₁, ret⟩, hsend, heq⟩ := Option.map_eq_some_iff.mp hs
      have htask : t.pSendBuf.nSequenceNum ≠ k := fun hk =>
        h.tasks (List.mem_map.mpr ⟨t, List.mem_of_getElem? ht, hk⟩)
      have herase : Missing { s with tasks := s.tasks.eraseIdx i } k := by
        refine ⟨h.lt, h.taken, h.list, fun hk => h.tasks ?_⟩
        obtain ⟨t', ht', hk⟩ := List.mem_map.mp hk
        exact List.mem_map.mpr ⟨t', List.mem_of_mem_eraseIdx ht', hk⟩
      have hreads : env.freedNumber t.pSendBuf.nSequenceNum = t.pSendBuf.nSequenceNum := by
        simpa [readsNumber, ht] using hreads
      have h₁ := herase.preparedAndSendPacket (by rwa [hreads]) hsend
      subst heq
      dsimp only
      split
      · exact h₁.congr rfl rfl rfl rfl
      · exact h₁
  | writable bSet env =>
    simp only [SendState.step] at hs
    split at hs
    · obtain ⟨⟨s₁, ret⟩, hsend, heq⟩ := Option.map_eq_some_iff.mp hs
      cases heq
      exact h.sendDataList hsend
    · cases hs
      exact h
  | asyncEnd i env =>
    simp only [SendState.step, processAsyncMessageEnd] at hs
    split at hs
    case h_1 => cases hs
    case h_2 =>
      cases hs
      have h₁ : Missing { s with ends := s.ends.eraseIdx i } k := h.congr rfl rfl rfl rfl
      split
      · exact h₁.closeConnection
      · exact h₁
  | close env =>
    cases hs
    exact h.closeConnection
  | configure e c b =>
    cases hs
    exact h.congr rfl rfl rfl rfl

theorem Numbers.missing (h : Numbers s [k]) : Missing s k := by
  obtain ⟨hlt, htaken⟩ := h.mem_lt (Or.inr (Or.inr (List.mem_singleton_self k)))
  have hnd : (s.listNums ++ (s.taskNums ++ [k])).Nodup := h.perm.nodup_iff.mpr (List.nodup_range' 1)
  refine ⟨hlt, htaken, fun hk => ?_, fun hk => ?_⟩
  · exact List.disjoint_of_nodup_append hnd hk (by simp)
  · exact List.disjoint_of_nodup_append (List.Nodup.of_append_right hnd) hk (by simp)

theorem sendAssembledPacket_lost {m : Nat} (hok : postOk s b.len = false)
    (hs : s.sendAssembledPacket env b m = some (s', ok)) : s' = s := by
  obtain ⟨⟨s₁, r⟩, hpost, heq⟩ := Option.map_eq_some_iff.mp hs
  cases heq
  have hbad : s.pSocketKernel = false ∨ b.len = 0 ∨ 1024 * 1024 < b.len := by
    by_cases hk : s.pSocketKernel = false
    · exact Or.inl hk
    · simp only [postOk, Bool.and_eq_false_iff, decide_eq_false_iff_not] at hok
      rcases hok with (hk' | h0) | h1
      · exact absurd hk' hk
      · exact Or.inr (Or.inl (by omega))
      · exact Or.inr (Or.inr (by omega))
  unfold SendState.postSend at hpost
  rw [if_pos hbad] at hpost
  cases hpost
  rfl

theorem preparedAndSendPacket_lost (hfreed : env.freedNumber b.nSequenceNum = b.nSequenceNum)
    (hok : prepareOk s env.toPrepareEnv b = false)
    (hs : s.preparedAndSendPacket env b = some (s', ok)) : s' = s := by
  unfold SendState.preparedAndSendPacket at hs
  split at hs
  case h_1 =>
    cases hs
    rfl
  case h_2 b' hprep =>
    refine sendAssembledPacket_lost ?_ hs
    -- the packet was prepared, so it is its length that is refused
    simp only [prepare] at hprep
    split at hprep
    · cases hprep
    case isFalse hcache =>
    split at hprep
    · cases hprep
    case isFalse hbuf =>
    obtain ⟨prepared, hp, heq⟩ := Option.map_eq_some_iff.mp hprep
    subst heq
    have hcache' : (env.getFirstThreadCache (cacheBufLen b.bodyLen) || env.getBuffer (cacheBufLen b.bodyLen)) =
        true := by
      cases h1 : env.getFirstThreadCache (cacheBufLen b.bodyLen) <;>
        cases h2 : env.getBuffer (cacheBufLen b.bodyLen) <;> simp_all
    have hbuf' : env.getCXBufferObj (preparedBufLen b.bodyLen) = true := by simpa using hbuf
    simpa only [prepareOk, hfreed, beq_self_eq_true, hcache', hbuf', Bool.true_and, hp, Option.any_some] using hok

theorem Missing.of_preparedAndSendPacket (h : Numbers s [b.nSequenceNum])
    (hok : prepareOk s env.toPrepareEnv b = false) (hs : s.preparedAndSendPacket env b = some (s', ok)) :
    Missing s' b.nSequenceNum := by
  by_cases hfreed : env.freedNumber b.nSequenceNum = b.nSequenceNum
  · rw [preparedAndSendPacket_lost hfreed hok hs]
    exact h.missing
  · exact h.missing.preparedAndSendPacket hfreed hs

theorem Missing.of_sendNumbered (h : Numbers s [b.nSequenceNum]) (hok : sendOk env s b = false)
    (hs : s.sendNumbered env b bMes = some (s', ok)) : Missing s' b.nSequenceNum := by
  unfold SendState.sendNumbered at hs
  unfold sendOk at hok
  split at hs
  case isTrue hm =>
    rw [if_pos hm] at hok
    split at hs
    · cases hs
      exact h.missing
    case isFalse hparser =>
    rw [Bool.and_eq_false_iff, or_iff_right hparser] at hok
    split at hs
    case isTrue hpool =>
      rw [if_pos hpool] at hok
      rw [if_neg (by simp [hok])] at hs
      cases hs
      exact h.missing
    case isFalse hpool =>
      rw [if_neg hpool] at hok
      exact .of_preparedAndSendPacket h hok hs
  case isFalse hm =>
    rw [if_neg hm] at hok
    rw [sendAssembledPacket_lost hok hs]
    exact h.missing

/-- The condition is sharp: the steps that it excludes lose a number for good. -/
theorem missing_of_not_stepOk {a : SendAct} (h : SendInv s) (hok : stepOk s a = false)
    (hs : s.step a = some s') :
    ∃ k, ∀ s'', Reachable (guarded (fun s a => readsNumber s a = true) step) s' s'' → Missing s'' k := by
  obtain ⟨k, hk⟩ : ∃ k, Missing s' k := by
    cases a with
    | send b dwLen bMes env =>
      simp only [stepOk, Bool.or_eq_false_iff, decide_eq_false_iff_not, not_not, beq_eq_false_iff_ne,
        Bool.not_eq_false'] at hok
      obtain ⟨⟨⟨hest, h0⟩, hsrv⟩, hok⟩ := hok
      obtain ⟨⟨s₁, ret⟩, hsend, heq⟩ := Option.map_eq_some_iff.mp hs
      cases heq
      unfold SendState.sendPacket at hsend
      rw [if_neg (by simp [h0, hsrv])] at hsend
      exact ⟨_, Missing.of_sendNumbered (h hest).takeNumber hok hsend⟩
    | task i env =>
      simp only [stepOk, Bool.or_eq_false_iff, decide_eq_false_iff_not, not_not] at hok
      obtain ⟨hest, hok⟩ := hok
      simp only [SendState.step, processTask] at hs
      split at hs
      case h_1 => cases hs
      case h_2 t ht =>
        rw [ht, Option.all_some] at hok
        obtain ⟨⟨s₁, ret⟩, hsend, heq⟩ := Option.map_eq_some_iff.mp hs
        have hm := Missing.of_preparedAndSendPacket ((h hest).takeTask ht) hok hsend
        refine ⟨t.pSendBuf.nSequenceNum, ?_⟩
        subst heq
        dsimp only
        split
        · exact hm.congr rfl rfl rfl rfl
        · exact hm
    | _ => simp [stepOk] at hok
  refine ⟨k, fun s'' hr => hr.invariant hk fun s₁ a s₂ (hi : Missing s₁ k) hs => ?_⟩
  obtain ⟨hreads, hs⟩ := guarded_eq_some.mp hs
  exact hi.step hreads hs

end SendState

end KonsanNet
