import KonsanNet.Run
import KonsanNet.Send

/-!
# What the socket has accepted (`PushSendBuffer`, `SendDataList`)

A run of a connection whose send list is filled by `PushSendBuffer` and emptied by `SendDataList`, in any
order. Besides the connection a run keeps two histories: the buffers as they were pushed, and the buffers
that `SendDataList` gave to `FreeCXBufferObj`. A call of `send` writes some bytes or says `EAGAIN` or
`EINTR`; the write event may fail to be armed, and other threads may change the connection's state.

The invariant is `Sent`: the position in the stream of packets is `m_uiLastSentPacketSequenceNum` whole
packets and `k` bytes of the next one, and the bytes on the wire, the send list and the freed buffers are
what this position says.
-/

namespace KonsanNet

/-- Not an error and not the end of the connection. -/
def SendResult.goesOn : SendResult → Bool
  | .written nWritenLen => 0 < nWritenLen
  | .eagain => true
  | .eintr => true
  | .econnreset => false
  | .error => false

namespace SendState

/-- `sendLoop` with the buffers it gives to `FreeCXBufferObj`. -/
def drainLoop (env : SendEnv) :
    List CXBufferObj → List SendResult → Int → Bool → SendState → Option (SendState × Int × List CXBufferObj)
  | [], _, nRet, _, s => some (s, nRet, [])
  | pCurBuf :: rest, answers, nRet, bNeedClose, s =>
    if pCurBuf.nSequenceNum = s.uiLastSentPacketSequenceNum + 1 then
      match sendBytes 0 pCurBuf.len answers with
      | none => none
      | some (.again nLeft, nTotal, _) =>
        some (s.keepHead pCurBuf rest nTotal nLeft, if env.setWaitWritingEvent then 0 else -4, [])
      | some (.failed nRet', nTotal, answers') =>
        (drainLoop env rest answers' nRet' true ((s.popSent pCurBuf rest nTotal).closeConnection env)).map
          fun r => (r.1, r.2.1, pCurBuf :: r.2.2)
      | some (.sent, nTotal, answers') =>
        (drainLoop env rest answers' nRet bNeedClose
          (if bNeedClose ∨ s.nState = .closing then (s.popSent pCurBuf rest nTotal).closeConnection env
            else s.popSent pCurBuf rest nTotal)).map fun r => (r.1, r.2.1, pCurBuf :: r.2.2)
    else some (s, nRet, [])

theorem drainLoop_sendLoop {env : SendEnv} : ∀ {l : List CXBufferObj} {answers : List SendResult} {nRet : Int}
    {bNeedClose : Bool} {s : SendState},
    (drainLoop env l answers nRet bNeedClose s).map (fun r => (r.1, r.2.1)) =
      sendLoop env l answers nRet bNeedClose s
  | [], _, _, _, _ => rfl
  | b :: rest, answers, nRet, bNeedClose, s => by
    unfold drainLoop sendLoop
    split
    case isFalse => rfl
    case isTrue =>
      cases sendBytes 0 b.len answers with
      | none => rfl
      | some q =>
        obtain ⟨e, nTotal, answers'⟩ := q
        cases e with
        | again nLeft => rfl
        | failed nRet' =>
          dsimp only
          rw [Option.map_map]
          exact drainLoop_sendLoop
        | sent =>
          dsimp only
          rw [Option.map_map]
          exact drainLoop_sendLoop

end SendState

structure WireRun where
  conn : SendState
  pushed : List CXBufferObj
  freed : List CXBufferObj

namespace WireRun

inductive Act
  | push (pBufObj : CXBufferObj)
  | drain (env : SendEnv)
  | setState (nState : ConnectionState)

def step (r : WireRun) : Act → Option WireRun
  | .push pBufObj =>
    (r.conn.pushSendBuffer pBufObj).map fun q => ⟨q.1, r.pushed ++ [pBufObj], r.freed⟩
  | .drain env =>
    (SendState.drainLoop env r.conn.listSendBuf.head env.send 0 false r.conn).map fun q =>
      ⟨q.1, r.pushed, r.freed ++ q.2.2⟩
  | .setState nState => some { r with conn := { r.conn with nState := nState } }

/-- The answers of a kernel that can arm the write event. -/
def answering (send : List SendResult) : SendEnv where
  getFirstThreadCache _ := true
  getBuffer _ := true
  getCXBufferObj _ := true
  prepareData body := some body
  freedNumber n := n
  getFreeTaskObject := true
  send := send
  setWaitWritingEvent := true
  released _ := false

/-- The first bytes of the buffers are there, their lengths are what `PostSend` lets through (and fit an
`int`), every number is used once, and `send` does not fail. -/
def Accepts (r : WireRun) : Act → Prop
  | .push b =>
    1 ≤ b.nSequenceNum ∧ (∀ a ∈ r.pushed, a.nSequenceNum ≠ b.nSequenceNum) ∧
      0 < b.len ∧ b.len < 2 ^ 31 ∧ b.nCurDataPointer + b.len ≤ b.buf.length
  | .drain env => ∀ a ∈ env.send, a.goesOn
  | .setState _ => True

instance (r : WireRun) : ∀ a, Decidable (r.Accepts a)
  | .push b => by
    unfold Accepts
    infer_instance
  | .drain env => by
    unfold Accepts
    infer_instance
  | .setState _ => by
    unfold Accepts
    infer_instance

/-- Any connection that has no packet yet. -/
def start (s : SendState) : WireRun :=
  ⟨{ s with listSendBuf := SeqList.empty, uiLastSentPacketSequenceNum := 0, wire := [] }, [], []⟩

end WireRun

/-! ### The position in the stream -/

/-- The bytes of the packet numbered `i`. -/
def packet (ps : List CXBufferObj) (i : Nat) : List UInt8 :=
  match ps.find? fun b => b.nSequenceNum = i with
  | none => []
  | some b => b.rest

/-- The packets 1 to `n` one after the other. -/
def stream (ps : List CXBufferObj) (n : Nat) : List UInt8 := (List.range' 1 n).flatMap (packet ps)

/-- What the send list holds of a packet when the first `k` bytes of packet `i` are sent. -/
def unsent (i k : Nat) (b : CXBufferObj) : CXBufferObj :=
  if b.nSequenceNum = i then { b with len := b.len - k, nCurDataPointer := b.nCurDataPointer + k } else b

/-- All packets up to the last sent one and `k` bytes of the next are on the wire, and nothing else; the
send list holds the rest, and the sent packets' buffers are freed, each once. -/
structure Sent (ps : List CXBufferObj) (s : SendState) (freed : List CXBufferObj) (k : Nat) : Prop where
  wire : s.wire = stream ps s.uiLastSentPacketSequenceNum ++
    (packet ps (s.uiLastSentPacketSequenceNum + 1)).take k
  partly : k = 0 ∨ k < (packet ps (s.uiLastSentPacketSequenceNum + 1)).length
  ordered : SeqList.Ordered CXBufferObj.nSequenceNum s.listSendBuf
  holds : s.listSendBuf.head.Perm
    ((ps.filter fun b => s.uiLastSentPacketSequenceNum < b.nSequenceNum).map
      (unsent (s.uiLastSentPacketSequenceNum + 1) k))
  freed_nums : freed.map CXBufferObj.nSequenceNum = List.range' 1 s.uiLastSentPacketSequenceNum
  freed_pushed : ∀ f ∈ freed, ∃ b ∈ ps, b.nSequenceNum = f.nSequenceNum ∧ b.buf = f.buf

/-- What `Accepts` says of the pushed buffers. -/
structure Packets (ps : List CXBufferObj) : Prop where
  nodup : (ps.map CXBufferObj.nSequenceNum).Nodup
  pos : ∀ b ∈ ps, 1 ≤ b.nSequenceNum
  len_pos : ∀ b ∈ ps, 0 < b.len
  inside : ∀ b ∈ ps, b.nCurDataPointer + b.len ≤ b.buf.length

theorem map_unsent_of_ne {ps : List CXBufferObj} {i k : Nat} (h : ∀ b ∈ ps, b.nSequenceNum ≠ i) :
    ps.map (unsent i k) = ps := by
  refine (List.map_congr_left fun b hb => ?_).trans (List.map_id ps)
  rw [unsent, if_neg (h b hb)]
  rfl

theorem map_unsent_zero {ps : List CXBufferObj} {i : Nat} : ps.map (unsent i 0) = ps := by
  refine (List.map_congr_left fun b _ => ?_).trans (List.map_id ps)
  unfold unsent
  split <;> rfl

variable {ps : List CXBufferObj} {s s' : SendState} {freed : List CXBufferObj} {b b₀ : CXBufferObj}
  {rest : List CXBufferObj} {i k m n t : Nat} {env : SendEnv}

theorem Packets.eq_of_num (h : Packets ps) {a : CXBufferObj} (ha : a ∈ ps) (hb : b ∈ ps)
    (hab : a.nSequenceNum = b.nSequenceNum) : a = b :=
  List.inj_on_of_nodup_map h.nodup ha hb hab

theorem Packets.packet_eq (h : Packets ps) (hb : b ∈ ps) : packet ps b.nSequenceNum = b.rest := by
  unfold packet
  cases hf : ps.find? fun a => a.nSequenceNum = b.nSequenceNum with
  | none => exact absurd (decide_eq_true rfl) (List.find?_eq_none.mp hf b hb)
  | some a =>
    have hnum : a.nSequenceNum = b.nSequenceNum := by simpa using List.find?_some hf
    rw [h.eq_of_num (List.mem_of_find?_eq_some hf) hb hnum]

theorem packet_eq_nil (h : ∀ b ∈ ps, b.nSequenceNum ≠ i) : packet ps i = [] := by
  unfold packet
  rw [List.find?_eq_none.mpr fun b hb => by simpa using h b hb]

theorem Packets.rest_length (h : Packets ps) (hb : b ∈ ps) : b.rest.length = b.len := by
  have := h.inside b hb
  simp only [CXBufferObj.rest, List.length_take, List.length_drop]
  omega

theorem stream_succ : stream ps (n + 1) = stream ps n ++ packet ps (n + 1) := by
  unfold stream
  rw [List.range'_1_concat, List.flatMap_append, List.flatMap_singleton, Nat.add_comm 1 n]

theorem stream_mono (h : m ≤ n) : stream ps m <+: stream ps n := by
  induction n, h using Nat.le_induction with
  | base => exact List.prefix_rfl
  | succ n _ ih =>
    rw [stream_succ]
    exact ih.trans (List.prefix_append _ _)

/-- A buffer that is pushed later does not change the packets that are there. -/
theorem packet_append (h : b.nSequenceNum ≠ i) : packet (ps ++ [b]) i = packet ps i := by
  unfold packet
  rw [List.find?_append, List.find?_singleton, if_neg (by simpa using h), Option.or_none]

theorem stream_append (h : n < b.nSequenceNum) : stream (ps ++ [b]) n = stream ps n := by
  induction n with
  | zero => rfl
  | succ n ih => rw [stream_succ, stream_succ, ih (by omega), packet_append (by omega)]

/-! ### `send` -/

/-- The loop sends the whole packet, or stops with some of it left. -/
theorem sendBytes_goesOn : ∀ {rs : List SendResult} {t left : Nat} {e : SendState.SendEnd} {n : Nat}
    {rs' : List SendResult}, (∀ a ∈ rs, a.goesOn) → SendState.sendBytes t left rs = some (e, n, rs') →
    (∀ a ∈ rs', a.goesOn) ∧
      ((e = .sent ∧ n = t + left) ∨ ∃ nLeft, e = .again nLeft ∧ 0 < nLeft ∧ n + nLeft = t + left)
  | rs, t, 0, e, n, rs', hrs, h => by
    unfold SendState.sendBytes at h
    cases h
    exact ⟨hrs, Or.inl ⟨rfl, rfl⟩⟩
  | [], t, left + 1, e, n, rs', _, h => by cases h
  | a :: rs, t, left + 1, e, n, rs', hrs, h => by
    obtain ⟨ha, htail⟩ := List.forall_mem_cons.mp hrs
    cases a with
    | eagain =>
      cases h
      exact ⟨htail, Or.inr ⟨left + 1, rfl, Nat.succ_pos _, rfl⟩⟩
    | eintr => exact sendBytes_goesOn htail h
    | econnreset => cases ha
    | error => cases ha
    | written w =>
      have hw : 0 < w := of_decide_eq_true ha
      unfold SendState.sendBytes at h
      rw [if_neg (by omega)] at h
      split at h
      case isTrue hall =>
        cases h
        exact ⟨htail, Or.inl ⟨rfl, by omega⟩⟩
      case isFalse =>
        split at h
        case isTrue hlt =>
          obtain ⟨hrs', hend⟩ := sendBytes_goesOn htail h
          refine ⟨hrs', hend.imp (fun h => ⟨h.1, by omega⟩) ?_⟩
          rintro ⟨nLeft, he, hpos, hn⟩
          exact ⟨nLeft, he, hpos, by omega⟩
        case isFalse => cases h

/-! ### The head of the list -/

/-- The head numbered as the next packet is what is left of a pushed buffer. -/
theorem Sent.head (h : Sent ps s freed k) (hl : s.listSendBuf.head = b :: rest)
    (hb : b.nSequenceNum = s.uiLastSentPacketSequenceNum + 1) :
    ∃ b₀ ∈ ps, b₀.nSequenceNum = s.uiLastSentPacketSequenceNum + 1 ∧
      b = { b₀ with len := b₀.len - k, nCurDataPointer := b₀.nCurDataPointer + k } := by
  have hmem : b ∈ s.listSendBuf.head := by rw [hl]; exact List.mem_cons_self ..
  obtain ⟨b₀, hb₀, heq⟩ := List.mem_map.mp (h.holds.mem_iff.mp hmem)
  have hnum : b₀.nSequenceNum = b.nSequenceNum := by
    rw [← heq]
    unfold unsent
    split <;> rfl
  refine ⟨b₀, List.mem_of_mem_filter hb₀, hnum.trans hb, ?_⟩
  rw [← heq, unsent, if_pos (hnum.trans hb)]

theorem Packets.unsent_split (hp : Packets ps) (hb₀ : b₀ ∈ ps) (hnum : b₀.nSequenceNum = n + 1) :
    ((ps.filter fun a => n < a.nSequenceNum).map (unsent (n + 1) k)).Perm
      ({ b₀ with len := b₀.len - k, nCurDataPointer := b₀.nCurDataPointer + k } ::
        ps.filter fun a => n + 1 < a.nSequenceNum) := by
  have hsplit : (ps.filter fun a => n < a.nSequenceNum).Perm
      (b₀ :: ps.filter fun a => n + 1 < a.nSequenceNum) := by
    have hnd : ps.Nodup := hp.nodup.of_map
    refine (List.perm_ext_iff_of_nodup (hnd.filter _) ?_).mpr fun a => ?_
    · refine List.nodup_cons.mpr ⟨fun hm => ?_, hnd.filter _⟩
      have := of_decide_eq_true (List.mem_filter.mp hm).2
      omega
    · rw [List.mem_cons, List.mem_filter, List.mem_filter, decide_eq_true_eq, decide_eq_true_eq]
      constructor
      · rintro ⟨ha, hlt⟩
        by_cases heq : a.nSequenceNum = b₀.nSequenceNum
        · exact Or.inl (hp.eq_of_num ha hb₀ heq)
        · exact Or.inr ⟨ha, by omega⟩
      · rintro (rfl | ⟨ha, hlt⟩)
        · exact ⟨hb₀, by omega⟩
        · exact ⟨ha, by omega⟩
  refine (hsplit.map _).trans ?_
  rw [List.map_cons, unsent, if_pos hnum, map_unsent_of_ne fun a ha => ?_]
  have := of_decide_eq_true (List.mem_filter.mp ha).2
  omega

/-- What is behind the head: the pushed buffers with larger numbers. -/
theorem Sent.behind (h : Sent ps s freed k) (hp : Packets ps) (hl : s.listSendBuf.head = b :: rest)
    (hb : b.nSequenceNum = s.uiLastSentPacketSequenceNum + 1) :
    rest.Perm (ps.filter fun a => s.uiLastSentPacketSequenceNum + 1 < a.nSequenceNum) := by
  obtain ⟨b₀, hb₀, hnum, hcut⟩ := h.head hl hb
  have hperm := h.holds.trans (hp.unsent_split hb₀ hnum)
  rw [hl, ← hcut] at hperm
  exact hperm.cons_inv

theorem Sent.wire_more (h : Sent ps s freed k) (hp : Packets ps) (hb₀ : b₀ ∈ ps)
    (hnum : b₀.nSequenceNum = s.uiLastSentPacketSequenceNum + 1)
    (hcut : b = { b₀ with len := b₀.len - k, nCurDataPointer := b₀.nCurDataPointer + k }) (ht : t ≤ b.len) :
    s.wire ++ (b.buf.drop b.nCurDataPointer).take t = stream ps s.uiLastSentPacketSequenceNum ++
      (packet ps (s.uiLastSentPacketSequenceNum + 1)).take (k + t) := by
  have hpacket : packet ps (s.uiLastSentPacketSequenceNum + 1) = b₀.rest := by
    rw [← hnum]
    exact hp.packet_eq hb₀
  have ht' : t ≤ b₀.len - k := by rw [hcut] at ht; exact ht
  rw [h.wire, List.append_assoc, List.append_cancel_left_eq, hpacket, List.take_add,
    List.append_cancel_left_eq, hcut]
  show (b₀.buf.drop (b₀.nCurDataPointer + k)).take t = (b₀.rest.drop k).take t
  rw [CXBufferObj.rest, List.drop_take, List.drop_drop, List.take_take, Nat.min_eq_left ht']

theorem Sent.popSent (h : Sent ps s freed k) (hp : Packets ps) (hl : s.listSendBuf.head = b :: rest)
    (hb : b.nSequenceNum = s.uiLastSentPacketSequenceNum + 1) :
    Sent ps (s.popSent b rest b.len) (freed ++ [b]) 0 := by
  obtain ⟨b₀, hb₀, hnum, hcut⟩ := h.head hl hb
  have hpacket : packet ps (s.uiLastSentPacketSequenceNum + 1) = b₀.rest := by
    rw [← hnum]
    exact hp.packet_eq hb₀
  have hlen := hp.rest_length hb₀
  have hk : k + b.len = b₀.rest.length := by
    have hpos := hp.len_pos b₀ hb₀
    have := h.partly
    rw [hpacket] at this
    rw [hcut]
    show k + (b₀.len - k) = _
    omega
  refine ⟨?_, Or.inl rfl, ?_, ?_, ?_, ?_⟩
  · show s.wire ++ (b.buf.drop b.nCurDataPointer).take b.len =
      stream ps (s.uiLastSentPacketSequenceNum + 1) ++ _
    rw [h.wire_more hp hb₀ hnum hcut le_rfl, stream_succ, hk, hpacket, List.take_length, List.take_zero,
      List.append_nil]
  · have hord := h.ordered
    have hlist : s.listSendBuf = ⟨[b] ++ rest, s.listSendBuf.endSeq⟩ := by rw [List.singleton_append, ← hl]
    rw [hlist] at hord
    exact hord.suffix
  · show rest.Perm ((ps.filter fun a => s.uiLastSentPacketSequenceNum + 1 < a.nSequenceNum).map (unsent _ 0))
    rw [map_unsent_zero]
    exact h.behind hp hl hb
  · show (freed ++ [b]).map _ = List.range' 1 (s.uiLastSentPacketSequenceNum + 1)
    rw [List.map_append, h.freed_nums, List.range'_1_concat, List.map_singleton, hb, Nat.add_comm 1]
  · intro f hf
    rcases List.mem_append.mp hf with hf | hf
    · exact h.freed_pushed f hf
    · rw [List.mem_singleton.mp hf]
      exact ⟨b₀, hb₀, by rw [hcut], by rw [hcut]⟩

theorem Sent.keepHead {nLeft : Nat} (h : Sent ps s freed k) (hp : Packets ps)
    (hl : s.listSendBuf.head = b :: rest) (hb : b.nSequenceNum = s.uiLastSentPacketSequenceNum + 1)
    (hpos : 0 < nLeft) (ht : t + nLeft = b.len) : Sent ps (s.keepHead b rest t nLeft) freed (k + t) := by
  obtain ⟨b₀, hb₀, hnum, hcut⟩ := h.head hl hb
  have hpacket : packet ps (s.uiLastSentPacketSequenceNum + 1) = b₀.rest := by
    rw [← hnum]
    exact hp.packet_eq hb₀
  have hlen := hp.rest_length hb₀
  have hblen : b.len = b₀.len - k := by rw [hcut]
  refine ⟨?_, ?_, ?_, ?_, h.freed_nums, h.freed_pushed⟩
  · exact h.wire_more hp hb₀ hnum hcut (by omega)
  · right
    show k + t < (packet ps (s.uiLastSentPacketSequenceNum + 1)).length
    rw [hpacket]
    omega
  · refine h.ordered.of_map_eq ?_ rfl
    rw [hl]
    rfl
  · show ({ b with len := nLeft, nCurDataPointer := b.nCurDataPointer + t } :: rest).Perm
      ((ps.filter fun a => s.uiLastSentPacketSequenceNum < a.nSequenceNum).map
        (unsent (s.uiLastSentPacketSequenceNum + 1) (k + t)))
    have hnew : { b with len := nLeft, nCurDataPointer := b.nCurDataPointer + t } =
        { b₀ with len := b₀.len - (k + t), nCurDataPointer := b₀.nCurDataPointer + (k + t) } := by
      rw [hcut, CXBufferObj.mk.injEq]
      exact ⟨rfl, rfl, by omega, Nat.add_assoc ..⟩
    rw [hnew]
    exact ((h.behind hp hl hb).cons _).trans (hp.unsent_split hb₀ hnum).symm

theorem Sent.of_conn (h : Sent ps s freed k)
    (hlist : s'.listSendBuf = s.listSendBuf) (hlast : s'.uiLastSentPacketSequenceNum = s.uiLastSentPacketSequenceNum)
    (hwire : s'.wire = s.wire) : Sent ps s' freed k := by
  obtain ⟨h1, h2, h3, h4, h5, h6⟩ := h
  rw [← hlast] at h1 h2 h4 h5
  exact ⟨hwire.trans h1, h2, hlist ▸ h3, hlist ▸ h4, h5, h6⟩

theorem Sent.closeConnection (h : Sent ps s freed k) : Sent ps (s.closeConnection env) freed k := by
  unfold SendState.closeConnection
  split
  · exact h
  · exact h.of_conn rfl rfl rfl

/-- The loop keeps the position exact, whatever it closes on the way. -/
theorem Sent.drainLoop (hp : Packets ps) : ∀ {l : List CXBufferObj} {answers : List SendResult} {nRet r : Int}
    {bNeedClose : Bool} {s s' : SendState} {freed fs : List CXBufferObj} {k : Nat}, Sent ps s freed k →
    s.listSendBuf.head = l → (∀ a ∈ answers, a.goesOn) →
    SendState.drainLoop env l answers nRet bNeedClose s = some (s', r, fs) → ∃ k', Sent ps s' (freed ++ fs) k'
  | [], _, _, _, _, s, _, _, _, k, h, _, _, hs => by
    cases hs
    rw [List.append_nil]
    exact ⟨k, h⟩
  | b :: rest, answers, nRet, r, bNeedClose, s, s', freed, fs, k, h, hl, hans, hs => by
    unfold SendState.drainLoop at hs
    split at hs
    case isFalse =>
      cases hs
      rw [List.append_nil]
      exact ⟨k, h⟩
    case isTrue hb =>
      split at hs
      case h_1 => cases hs
      case h_2 hsend =>
        cases hs
        obtain ⟨-, hend⟩ := sendBytes_goesOn hans hsend
        rcases hend with ⟨hend, -⟩ | ⟨nLeft, hend, hpos, hn⟩
        · cases hend
        · cases hend
          rw [List.append_nil]
          exact ⟨_, h.keepHead hp hl hb hpos (by omega)⟩
      case h_3 hsend =>
        obtain ⟨-, hend⟩ := sendBytes_goesOn hans hsend
        rcases hend with ⟨hend, -⟩ | ⟨nLeft, hend, -⟩
        · cases hend
        · cases hend
      case h_4 nTotal answers' hsend =>
        obtain ⟨hans', hend⟩ := sendBytes_goesOn hans hsend
        obtain ⟨⟨s₁, r₁, fs₁⟩, hloop, heq⟩ := Option.map_eq_some_iff.mp hs
        cases heq
        have hn : nTotal = b.len := by
          rcases hend with ⟨-, hn⟩ | ⟨nLeft, hend, -⟩
          · omega
          · cases hend
        rw [hn] at hloop
        rw [List.append_cons]
        split at hloop
        case isTrue =>
          have hpop : Sent ps ((s.popSent b rest b.len).closeConnection env) (freed ++ [b]) 0 :=
            (h.popSent hp hl hb).closeConnection
          refine Sent.drainLoop hp hpop ?_ hans' hloop
          unfold SendState.closeConnection
          split <;> rfl
        case isFalse => exact Sent.drainLoop hp (h.popSent hp hl hb) rfl hans' hloop

/-! ### Pushing -/

theorem Sent.num_mem (h : Sent ps s freed k) (hpos : 1 ≤ i) (hi : i ≤ s.uiLastSentPacketSequenceNum) :
    ∃ b ∈ ps, b.nSequenceNum = i := by
  have hmem : i ∈ freed.map CXBufferObj.nSequenceNum := by
    rw [h.freed_nums]
    exact List.mem_range'_1.mpr ⟨hpos, by omega⟩
  obtain ⟨f, hf, rfl⟩ := List.mem_map.mp hmem
  obtain ⟨b, hb, hnum, -⟩ := h.freed_pushed f hf
  exact ⟨b, hb, hnum⟩

theorem Sent.push (h : Sent ps s freed k) (hpos : 1 ≤ b.nSequenceNum)
    (hnew : ∀ a ∈ ps, a.nSequenceNum ≠ b.nSequenceNum) :
    ∃ s', s.pushSendBuffer b = some (s', true) ∧ Sent (ps ++ [b]) s' freed k := by
  have hlast : s.uiLastSentPacketSequenceNum < b.nSequenceNum := by
    by_contra hle
    obtain ⟨a, ha, hnum⟩ := h.num_mem hpos (not_lt.mp hle)
    exact hnew a ha hnum
  have hne : ∀ a ∈ s.listSendBuf.head, a.nSequenceNum ≠ b.nSequenceNum := by
    intro a ha
    obtain ⟨c, hc, rfl⟩ := List.mem_map.mp (h.holds.mem_iff.mp ha)
    have := hnew c (List.mem_of_mem_filter hc)
    unfold unsent
    split <;> exact this
  obtain ⟨l', hpush, hord, hperm⟩ := h.ordered.push hne
  -- nothing of the next packet is sent before it is pushed
  have hk : b.nSequenceNum = s.uiLastSentPacketSequenceNum + 1 → k = 0 := by
    intro hb
    have hnil : packet ps (s.uiLastSentPacketSequenceNum + 1) = [] := hb ▸ packet_eq_nil hnew
    rcases h.partly with hk | hk
    · exact hk
    · rw [hnil] at hk
      cases hk
  have hpacket : b.nSequenceNum ≠ s.uiLastSentPacketSequenceNum + 1 → packet (ps ++ [b])
      (s.uiLastSentPacketSequenceNum + 1) = packet ps (s.uiLastSentPacketSequenceNum + 1) := packet_append
  have hunsent : unsent (s.uiLastSentPacketSequenceNum + 1) k b = b := by
    unfold unsent
    split
    case isTrue hb =>
      rw [hk hb]
      rfl
    case isFalse => rfl
  refine ⟨{ s with listSendBuf := l' }, by rw [SendState.pushSendBuffer, hpush]; rfl, ?_, ?_, hord, ?_,
    h.freed_nums, fun f hf => ?_⟩
  · show s.wire = stream (ps ++ [b]) s.uiLastSentPacketSequenceNum ++
      (packet (ps ++ [b]) (s.uiLastSentPacketSequenceNum + 1)).take k
    rw [stream_append hlast, h.wire]
    by_cases hb : b.nSequenceNum = s.uiLastSentPacketSequenceNum + 1
    · rw [hk hb, List.take_zero, List.take_zero]
    · rw [hpacket hb]
  · show k = 0 ∨ k < (packet (ps ++ [b]) (s.uiLastSentPacketSequenceNum + 1)).length
    by_cases hb : b.nSequenceNum = s.uiLastSentPacketSequenceNum + 1
    · exact Or.inl (hk hb)
    · rw [hpacket hb]
      exact h.partly
  · show l'.head.Perm (((ps ++ [b]).filter fun a => s.uiLastSentPacketSequenceNum < a.nSequenceNum).map
      (unsent (s.uiLastSentPacketSequenceNum + 1) k))
    rw [List.filter_append, List.map_append, List.filter_singleton, decide_eq_true hlast, cond_true,
      List.map_singleton, hunsent]
    exact hperm.trans ((h.holds.cons b).trans (List.perm_append_singleton b _).symm)
  · obtain ⟨a, ha, hnum⟩ := h.freed_pushed f hf
    exact ⟨a, List.mem_append_left _ ha, hnum⟩

theorem Packets.push (hp : Packets ps) (hpos : 1 ≤ b.nSequenceNum)
    (hnew : ∀ a ∈ ps, a.nSequenceNum ≠ b.nSequenceNum) (hlen : 0 < b.len)
    (hin : b.nCurDataPointer + b.len ≤ b.buf.length) : Packets (ps ++ [b]) := by
  have hmem : ∀ {P : CXBufferObj → Prop}, (∀ a ∈ ps, P a) → P b → ∀ a ∈ ps ++ [b], P a := by
    intro P hps hb a ha
    rcases List.mem_append.mp ha with ha | ha
    · exact hps a ha
    · rw [List.mem_singleton.mp ha]
      exact hb
  refine ⟨?_, hmem hp.pos hpos, hmem hp.len_pos hlen, hmem hp.inside hin⟩
  rw [List.map_append, List.map_singleton, ← List.concat_eq_append]
  refine hp.nodup.concat fun hm => ?_
  obtain ⟨a, ha, heq⟩ := List.mem_map.mp hm
  exact hnew a ha heq

/-! ### Runs -/

namespace WireRun

variable {r r' : WireRun} {c : SendState}

theorem sendDataList_of_step (hs : step r (.drain env) = some r') :
    ∃ nRet, r.conn.sendDataList env = some (r'.conn, nRet) := by
  obtain ⟨⟨s', nRet, fs⟩, hloop, heq⟩ := Option.map_eq_some_iff.mp hs
  cases heq
  refine ⟨nRet, ?_⟩
  rw [SendState.sendDataList, ← SendState.drainLoop_sendLoop, hloop]
  rfl

/-- The position is exact. -/
structure Exact (r : WireRun) : Prop where
  packets : Packets r.pushed
  sent : ∃ k, Sent r.pushed r.conn r.freed k

theorem exact_start : (start c).Exact := by
  refine ⟨⟨List.nodup_nil, ?_, ?_, ?_⟩, 0, rfl, Or.inl rfl, SeqList.ordered_empty, List.Perm.refl _, rfl, ?_⟩
  all_goals
    intro b hb
    cases hb

theorem Exact.step {a : Act} (h : r.Exact) (hs : guarded Accepts step r a = some r') : r'.Exact := by
  obtain ⟨hok, hs⟩ := guarded_eq_some.mp hs
  obtain ⟨hp, k, hsent⟩ := h
  cases a with
  | push b =>
    obtain ⟨hpos, hnew, hlen, -, hin⟩ := hok
    obtain ⟨s', hpush, hsent'⟩ := hsent.push hpos hnew
    simp only [WireRun.step, hpush, Option.map_some] at hs
    cases hs
    exact ⟨hp.push hpos hnew hlen hin, k, hsent'⟩
  | drain env =>
    obtain ⟨q, hloop, heq⟩ := Option.map_eq_some_iff.mp hs
    cases heq
    obtain ⟨k', hsent'⟩ := Sent.drainLoop hp hsent rfl hok hloop
    exact ⟨hp, k', hsent'⟩
  | setState nState =>
    cases hs
    exact ⟨hp, k, hsent.of_conn rfl rfl rfl⟩

theorem exact_of_reachable (h : Reachable (guarded Accepts step) (start c) r) : r.Exact :=
  h.invariant exact_start fun _ _ _ hr hs => hr.step hs

theorem pushed_mono (h : Reachable (guarded Accepts step) r r') : r.pushed <+: r'.pushed := by
  induction h with
  | init => exact List.prefix_rfl
  | step a _ hs ih =>
    obtain ⟨-, hs⟩ := guarded_eq_some.mp hs
    cases a with
    | push b =>
      obtain ⟨q, -, heq⟩ := Option.map_eq_some_iff.mp hs
      cases heq
      exact ih.trans (List.prefix_append _ _)
    | drain env =>
      obtain ⟨q, -, heq⟩ := Option.map_eq_some_iff.mp hs
      cases heq
      exact ih
    | setState nState =>
      cases hs
      exact ih

/-- In a run whose packets are numbered 1 to `n`, at every moment a prefix of the packets is on the wire, and
the position in it is exact. -/
theorem wire_isPrefix (h : Reachable (guarded Accepts step) (start c) r)
    (h' : Reachable (guarded Accepts step) r r')
    (hn : (r'.pushed.map CXBufferObj.nSequenceNum).Perm (List.range' 1 n)) :
    r.conn.wire <+: stream r'.pushed n ∧ ∃ k, Sent r.pushed r.conn r.freed k := by
  obtain ⟨hp, k, hsent⟩ := exact_of_reachable h
  have hp' := (exact_of_reachable (h.trans h')).packets
  have hmem : ∀ b ∈ r.pushed, b ∈ r'.pushed := fun b hb => (pushed_mono h').subset hb
  have hle : ∀ b ∈ r.pushed, b.nSequenceNum ≤ n := by
    intro b hb
    have := List.mem_range'_1.mp (hn.mem_iff.mp (List.mem_map_of_mem (hmem b hb)))
    omega
  have hpacket : ∀ b ∈ r.pushed, packet r'.pushed b.nSequenceNum = packet r.pushed b.nSequenceNum :=
    fun b hb => (hp'.packet_eq (hmem b hb)).trans (hp.packet_eq hb).symm
  have hstream : stream r'.pushed r.conn.uiLastSentPacketSequenceNum =
      stream r.pushed r.conn.uiLastSentPacketSequenceNum := by
    refine List.flatMap_congr fun i hi => ?_
    have hi := List.mem_range'_1.mp hi
    obtain ⟨b, hb, rfl⟩ := hsent.num_mem hi.1 (by omega)
    exact hpacket b hb
  refine ⟨?_, k, hsent⟩
  rw [hsent.wire, ← hstream]
  rcases hsent.partly with hk | hk
  · have hlast : r.conn.uiLastSentPacketSequenceNum ≤ n := by
      by_contra hlt
      obtain ⟨b, hb, hnum⟩ := hsent.num_mem (i := r.conn.uiLastSentPacketSequenceNum) (by omega) le_rfl
      have := hle b hb
      omega
    rw [hk, List.take_zero, List.append_nil]
    exact stream_mono hlast
  · obtain ⟨b, hb, hnum⟩ : ∃ b ∈ r.pushed, b.nSequenceNum = r.conn.uiLastSentPacketSequenceNum + 1 := by
      by_contra hno
      rw [packet_eq_nil fun b hb hnum => hno ⟨b, hb, hnum⟩] at hk
      cases hk
    have hnext := hle b hb
    rw [← hnum, ← hpacket b hb, hnum]
    refine List.IsPrefix.trans ?_ (stream_mono (m := r.conn.uiLastSentPacketSequenceNum + 1) (by omega))
    rw [stream_succ]
    exact (List.prefix_append_right_inj _).mpr (List.take_prefix _ _)

/-- A `send` that writes some bytes and is told to wait, between two pushes. -/
def resumedRun : List Act :=
  [.push ⟨2, [4, 5], 2, 0⟩, .push ⟨1, [1, 2, 3], 3, 0⟩, .drain (answering [.eintr, .written 2, .eagain])]

set_option maxRecDepth 4000 in
theorem wire_isPrefix_resumed : ∃ r r',
    runSteps (guarded Accepts step) (start (.fresh true true)) resumedRun = some r ∧
    runSteps (guarded Accepts step) r [.drain (answering [.written 1, .written 2])] = some r' ∧
    r.conn.wire = [1, 2] ∧ r.conn.wire <+: stream r'.pushed 2 ∧ ∃ k, Sent r.pushed r.conn r.freed k := by
  obtain ⟨r, hr⟩ : ∃ r, runSteps (guarded Accepts step) (start (.fresh true true)) resumedRun = some r :=
    ⟨_, rfl⟩
  obtain ⟨r', hr'⟩ : ∃ r',
      runSteps (guarded Accepts step) r [.drain (answering [.written 1, .written 2])] = some r' := by
    cases hr
    exact ⟨_, rfl⟩
  have hpushed : (r'.pushed.map CXBufferObj.nSequenceNum).Perm (List.range' 1 2) := by
    cases hr
    cases hr'
    exact List.Perm.swap 1 2 []
  refine ⟨r, r', hr, hr', ?_, wire_isPrefix (Reachable.of_runSteps hr) (Reachable.of_runSteps hr') hpushed⟩
  cases hr
  rfl

end WireRun

end KonsanNet
