import Mathlib.Tactic
import KonsanNet.RequestsQueue
import KonsanNet.ReplyStream

/-!
# From the client's requests to its replies

A run of one connection from the bytes of the requests to the bytes of the replies: the steps of `RequestRun` on
the one side, those of `WireRun` on the other, and between them `SendPacket`, which a handler, or who ends its
message later, calls once for each message. `SendPacket` takes the reply's number; the reply may get to
`PushSendBuffer` much later, through the task pool, and behind later ones.

`serve` is what the threads, the pools and the lists are for: one object that handles one request after the other.
`reads_serve` says that the client's calls give the replies of `serve` to its own requests.
-/

namespace KonsanNet

variable {σ : Type}

/-- The requests one after the other, each in the state that the last one left. -/
def serve (handle : σ → Nat × Nat × List UInt8 → σ × PlainPacket) :
    σ → List (Nat × Nat × List UInt8) → σ × List PlainPacket
  | o, [] => (o, [])
  | o, c :: cs => ((serve handle (handle o c).1 cs).1, (handle o c).2 :: (serve handle (handle o c).1 cs).2)

/-- `object` is the state that the handlers work on, `replies` what they have built, in the order of the messages;
`answered` are the messages that `SendPacket` was called for, in the order of the numbers that it took. -/
structure EndToEnd (σ : Type) where
  requests : RequestRun
  object : σ
  replies : List PlainPacket
  answered : List Nat
  wire : WireRun

namespace EndToEnd

inductive Act
  | request (a : ConnectionAct)
  | sendPacket (iSequenceNum : Nat)
  | wire (a : WireRun.Act)

def start (pDataParserHandle pTaskPool bAsyncParseData : Bool) (o : σ) (s : SendState) : EndToEnd σ :=
  ⟨.start pDataParserHandle pTaskPool bAsyncParseData, o, [], [], .start s⟩

section

variable (env : RecvEnv) (bAsync : Nat → Bool) (handle : σ → Nat × Nat × List UInt8 → σ × PlainPacket)
  (packets : List PlainPacket)

/-- A handler runs with `m_lockSend`: it has the object for itself. -/
def step (r : EndToEnd σ) : Act → Option (EndToEnd σ)
  | .request a =>
    (r.requests.step env bAsync a).map fun q =>
      let served := serve handle r.object (q.handled.drop r.requests.handled.length)
      { r with requests := q, object := served.1, replies := r.replies ++ served.2 }
  | .sendPacket iSequenceNum => some { r with answered := r.answered ++ [iSequenceNum] }
  | .wire a => (r.wire.step a).map fun q => { r with wire := q }

/-- A handler answers before it returns, an asynchronous message is answered before its end is posted. -/
def answers (r : EndToEnd σ) : ConnectionAct → Bool
  | .run w =>
    match r.requests.conn.dispatch.worker w with
    | .handler pCurMes => bAsync pCurMes.iSequenceNum || decide (pCurMes.iSequenceNum ∈ r.answered)
    | _ => true
  | .post pMes => decide (pMes.iSequenceNum ∈ r.answered)
  | .recvData _ | .thread _ | .task _ | .close => true

/-- The buffer is the reply that `SendPacket` gave this number. -/
def holdsReply (r : EndToEnd σ) : WireRun.Act → Bool
  | .push b =>
    (r.answered[b.nSequenceNum - 1]?.bind fun n => r.replies[n - 1]?).any fun q => decide (b.rest = q.encode)
  | .drain _ | .setState _ => true

def allows (r : EndToEnd σ) : Act → Bool
  | .request a => r.requests.allows packets a && r.answers bAsync a
  | .sendPacket n => decide (.entered n ∈ r.requests.conn.dispatch.log) && decide (n ∉ r.answered)
  | .wire a => decide (r.wire.Accepts a) && r.holdsReply a

end

end EndToEnd

/-! ### The sequential server -/

section

variable {handle : σ → Nat × Nat × List UInt8 → σ × PlainPacket} {o : σ}

theorem serve_append (cs ds : List (Nat × Nat × List UInt8)) : serve handle o (cs ++ ds) =
    ((serve handle (serve handle o cs).1 ds).1,
      (serve handle o cs).2 ++ (serve handle (serve handle o cs).1 ds).2) := by
  induction cs generalizing o with
  | nil => rfl
  | cons c cs ih => simp only [List.cons_append, serve, ih]

theorem length_serve (cs : List (Nat × Nat × List UInt8)) : (serve handle o cs).2.length = cs.length := by
  induction cs generalizing o with
  | nil => rfl
  | cons c cs ih => simp only [serve, List.length_cons, ih]

theorem take_serve (n : Nat) (cs : List (Nat × Nat × List UInt8)) :
    (serve handle o cs).2.take n = (serve handle o (cs.take n)).2 := by
  induction cs generalizing o n with
  | nil => simp [serve]
  | cons c cs ih =>
    cases n with
    | zero => rfl
    | succ n => simp only [serve, List.take_succ_cons, ih]

theorem mem_serve {P : PlainPacket → Prop} (hP : ∀ o c, P (handle o c).2) (cs : List (Nat × Nat × List UInt8)) :
    ∀ q ∈ (serve handle o cs).2, P q := by
  induction cs generalizing o with
  | nil => nofun
  | cons c cs ih => exact List.forall_mem_cons.mpr ⟨hP o c, ih⟩

end

theorem length_messagesOf (ps : List PlainPacket) : (messagesOf ps).length = ps.length := by
  rw [messagesOf, List.length_mapIdx]

theorem messagesOf_take (ps : List PlainPacket) (n : Nat) : messagesOf (ps.take n) = (messagesOf ps).take n := by
  refine List.ext_getElem? fun i => ?_
  rw [RequestRun.getElem?_messagesOf, List.getElem?_take, List.getElem?_take, RequestRun.getElem?_messagesOf]
  split_ifs <;> rfl

theorem map_range'_getD {α : Type} (d : α) : ∀ {n : Nat} {l : List α}, n ≤ l.length →
    (List.range' 1 n).map (fun i => (l[i - 1]?).getD d) = l.take n
  | 0, _, _ => rfl
  | n + 1, l, h => by
    rw [List.range'_1_concat, List.map_append, map_range'_getD d (by omega), List.take_succ_eq_append_getElem h,
      List.map_singleton, Nat.add_sub_cancel_left, List.getElem?_eq_getElem h]
    rfl

/-! ### The messages that have been answered -/

namespace Dispatch

variable {bAsync : Nat → Bool} {s s' : Dispatch} {w : Nat} {m : CXMessageData}

/-- A thread ends the message whose handler returns, or whose report it has in its hands. -/
theorem completed_run (hs : s.step bAsync (.run w) = some s') : s'.posted = s.posted ∧
    ∀ k, .completed k ∈ s'.log → .completed k ∈ s.log ∨ ∃ m, m.iSequenceNum = k ∧
      (s.worker w = .asyncEnd m ∨ s.worker w = .handler m ∧ bAsync k = false) := by
  cases hw : s.worker w with
  | idle =>
    simp only [step, hw, getMessage] at hs
    split at hs <;> cases hs
    exact ⟨rfl, fun _ => Or.inl⟩
  | input m =>
    simp only [step, hw, inputMessage] at hs
    split at hs
    case isFalse => cases hs
    obtain ⟨⟨s₁, ok⟩, hpush, rfl⟩ := Option.map_eq_some_iff.mp hs
    obtain ⟨r, -, heq⟩ := Option.map_eq_some_iff.mp hpush
    cases heq
    split <;> exact ⟨rfl, fun _ => Or.inl⟩
  | asyncEnd m =>
    simp only [step, hw, processAsyncMessageEnd] at hs
    split at hs <;> cases hs
    refine ⟨rfl, fun k hk => ?_⟩
    rcases List.mem_append.mp hk with hk | hk
    · exact Or.inl hk
    · cases List.mem_singleton.mp hk
      exact Or.inr ⟨m, rfl, Or.inl rfl⟩
  | resume =>
    simp only [step, hw, resumeLoop] at hs
    split at hs
    case isFalse => cases hs
    split at hs <;> cases hs <;> exact ⟨rfl, fun _ => Or.inl⟩
  | loop =>
    simp only [step, hw, testLoop] at hs
    split at hs
    case h_1 => cases hs
    case h_2 =>
      split at hs <;> cases hs
      · exact ⟨rfl, fun k hk => Or.inl (by simpa [setWorker] using hk)⟩
      · exact ⟨rfl, fun _ => Or.inl⟩
  | handler m =>
    simp only [step, hw] at hs
    cases hs
    unfold endHandler
    split
    · exact ⟨rfl, fun _ => Or.inl⟩
    case isFalse hsync =>
    refine ⟨rfl, fun k hk => ?_⟩
    rcases List.mem_append.mp hk with hk | hk
    · exact Or.inl hk
    · cases List.mem_singleton.mp hk
      exact Or.inr ⟨m, rfl, Or.inr ⟨rfl, Bool.eq_false_of_not_eq_true hsync⟩⟩

theorem Inv.posted_of_asyncEnd (h : Inv bAsync s) (hw : s.worker w = .asyncEnd m) : m.iSequenceNum ∈ s.posted := by
  obtain ⟨place, tok, h⟩ := h
  have hok := h.workers.ok w
  rw [hw] at hok
  rw [hok.1]
  exact (h.numbers.token (by simp [hok.2])).2.2

/-- The messages are handled one after the other, and one is ended before the next. -/
theorem Inv.log_mem (h : Inv bAsync s) : (∀ k, .completed k ∈ s.log ↔ 1 ≤ k ∧ k ≤ s.uiLastProcessedMessageSequenceNum) ∧
    ∀ k, .entered k ∈ s.log → 1 ≤ k ∧ k ≤ s.uiLastProcessedMessageSequenceNum + 1 := by
  obtain ⟨place, tok, h⟩ := h
  rw [h.numbers.log]
  split
  · refine ⟨fun k => by simp [completed_mem_runLog], fun k hk => ?_⟩
    rcases List.mem_append.mp hk with hk | hk
    · have := entered_mem_runLog.mp hk
      omega
    · cases List.mem_singleton.mp hk
      omega
  · refine ⟨fun k => by simp [completed_mem_runLog], fun k hk => ?_⟩
    rw [List.append_nil] at hk
    have := entered_mem_runLog.mp hk
    omega

end Dispatch

theorem Connection.dispatch_closeConnection (s : Connection) : s.closeConnection.dispatch = s.dispatch := by
  unfold Connection.closeConnection Connection.closeObj
  split_ifs <;> rfl

/-- The receive path and `CloseConnection` end no message and post no end. -/
theorem Connection.history_eq {env : RecvEnv} {bAsync : Nat → Bool} {s s' : Connection} {a : ConnectionAct}
    (hs : s.step env bAsync a = some s') (hpost : ∀ m, a ≠ .post m) (hrun : ∀ w, a ≠ .run w) :
    s'.dispatch.log = s.dispatch.log ∧ s'.dispatch.posted = s.dispatch.posted := by
  cases a with
  | recvData bytes =>
    simp only [Connection.step, Connection.recvData] at hs
    split at hs <;> cases hs
    exact ⟨rfl, rfl⟩
  | thread i =>
    simp only [Connection.step, Connection.thread] at hs
    split at hs
    case h_1 => cases hs
    case h_2 =>
      unfold Connection.recvPacket at hs
      split at hs
      · cases hs
        exact ⟨rfl, rfl⟩
      · split at hs <;> cases hs <;> exact ⟨rfl, rfl⟩
    case h_3 =>
      unfold Connection.deliver at hs
      split at hs
      · cases hs
      · split at hs <;> cases hs <;> exact ⟨rfl, rfl⟩
    case h_4 =>
      split at hs <;> cases hs
      exact ⟨rfl, rfl⟩
    case h_5 iRet _ =>
      cases hs
      have hd : (s.returned i iRet).dispatch = s.dispatch := by
        unfold Connection.returned
        dsimp only
        split
        · exact Connection.dispatch_closeConnection s
        · rfl
      rw [hd]
      exact ⟨rfl, rfl⟩
  | task i =>
    simp only [Connection.step, Connection.task] at hs
    split at hs
    · cases hs
    · split at hs <;> cases hs <;> exact ⟨rfl, rfl⟩
  | close =>
    cases hs
    rw [Connection.dispatch_closeConnection]
    exact ⟨rfl, rfl⟩
  | post m => exact absurd rfl (hpost m)
  | run w => exact absurd rfl (hrun w)

namespace EndToEnd

variable {env : RecvEnv} {bAsync : Nat → Bool} {handle : σ → Nat × Nat × List UInt8 → σ × PlainPacket}
  {packets : List PlainPacket} {f g a : Bool} {o : σ} {st : SendState} {r r' : EndToEnd σ}

/-- Whose end has been posted or counted has been answered. -/
structure Answered (d : Dispatch) (answered : List Nat) : Prop where
  posted : ∀ k ∈ d.posted, k ∈ answered
  completed : ∀ k, .completed k ∈ d.log → k ∈ answered

/-- Every message is answered once, in the order in which they were handled, and the replies are those of `serve`. -/
structure Inv (env : RecvEnv) (bAsync : Nat → Bool) (handle : σ → Nat × Nat × List UInt8 → σ × PlainPacket)
    (packets : List PlainPacket) (f g a : Bool) (o : σ) (st : SendState) (r : EndToEnd σ) : Prop where
  requests : Reachable (guarded (fun r a => r.allows packets a) (RequestRun.step env bAsync)) (.start f g a) r.requests
  wire : Reachable (guarded WireRun.Accepts WireRun.step) (.start st) r.wire
  served : serve handle o r.requests.handled = (r.object, r.replies)
  ended : Answered r.requests.conn.dispatch r.answered
  answered : r.answered = List.range' 1 r.answered.length
  handled : r.answered.length ≤ r.requests.handled.length
  pushed : ∀ b ∈ r.wire.pushed, b.nSequenceNum ≤ r.answered.length ∧
    ∃ q, r.replies[b.nSequenceNum - 1]? = some q ∧ b.rest = q.encode

theorem inv_start : Inv env bAsync handle packets f g a o st (start f g a o st) where
  requests := .init
  wire := .init
  served := rfl
  ended := ⟨nofun, nofun⟩
  answered := rfl
  handled := le_rfl
  pushed := nofun

theorem Answered.request {act : ConnectionAct} {q : RequestRun}
    (h : Answered r.requests.conn.dispatch r.answered) (hinv : Dispatch.Inv bAsync r.requests.conn.dispatch)
    (hans : r.answers bAsync act = true) (hs : r.requests.conn.step env bAsync act = some q.conn) :
    Answered q.conn.dispatch r.answered := by
  by_cases hpost : ∃ m, act = .post m
  · obtain ⟨m, rfl⟩ := hpost
    obtain ⟨d, hd, heq⟩ := Option.map_eq_some_iff.mp hs
    rw [← heq]
    unfold Dispatch.post at hd
    split at hd <;> cases hd
    refine ⟨fun k hk => ?_, h.completed⟩
    rcases List.mem_cons.mp hk with rfl | hk
    · exact of_decide_eq_true hans
    · exact h.posted k hk
  by_cases hrun : ∃ w, act = .run w
  · obtain ⟨w, rfl⟩ := hrun
    obtain ⟨d, hd, heq⟩ := Option.map_eq_some_iff.mp hs
    rw [← heq]
    obtain ⟨hposted, hlog⟩ := Dispatch.completed_run hd
    refine ⟨fun k hk => h.posted k (hposted ▸ hk), fun k hk => ?_⟩
    rcases hlog k hk with hk | ⟨m, rfl, hw | ⟨hw, hsync⟩⟩
    · exact h.completed k hk
    · exact h.posted _ (hinv.posted_of_asyncEnd hw)
    · simpa [answers, hw, hsync] using hans
  · obtain ⟨hlog, hposted⟩ := Connection.history_eq hs (fun m hm => hpost ⟨m, hm⟩) (fun w hw => hrun ⟨w, hw⟩)
    exact ⟨fun k hk => h.posted k (hposted ▸ hk), fun k hk => h.completed k (hlog ▸ hk)⟩

theorem handled_nums {ms : List CXMessageData} {R : List Nat} {q : RequestRun}
    (h : RequestRun.Inv packets bAsync q ms R) : q.handled.map Prod.fst = List.range' 1 q.handled.length := by
  obtain ⟨j, -, hms, -⟩ := h.call.content
  obtain ⟨n, -, hn, -⟩ := h.handled_eq hms
  have hlen : q.handled.length = n := by simpa using congrArg List.length hn
  rw [hn, hlen]

theorem Inv.request {act : ConnectionAct} (h : Inv env bAsync handle packets f g a o st r)
    (hserve : ∀ p ∈ packets, env.Serves p) (hallow : r.requests.allows packets act = true)
    (hans : r.answers bAsync act = true) (hs : r.step env bAsync handle (.request act) = some r') :
    Inv env bAsync handle packets f g a o st r' := by
  obtain ⟨q, hq, rfl⟩ := Option.map_eq_some_iff.mp hs
  obtain ⟨ms, R, hi⟩ := RequestRun.inv_of_reachable hserve h.requests
  obtain ⟨s, hconn, rfl⟩ := Option.map_eq_some_iff.mp hq
  have hserved := h.served
  refine ⟨h.requests.step act (guarded_eq_some.mpr ⟨hallow, hq⟩), h.wire, ?_,
    h.ended.request hi.conn.mes.dispatch hans hconn, h.answered, ?_, fun b hb => ?_⟩
  · dsimp only
    rw [List.drop_left, serve_append, hserved]
  · exact le_trans h.handled (by simp)
  · obtain ⟨hle, p, hp, hrest⟩ := h.pushed b hb
    refine ⟨hle, p, ?_, hrest⟩
    rw [List.getElem?_append_left (List.getElem?_eq_some_iff.mp hp).1]
    exact hp

theorem Inv.mem_answered {k : Nat} (h : Inv env bAsync handle packets f g a o st r) :
    k ∈ r.answered ↔ 1 ≤ k ∧ k ≤ r.answered.length := by
  conv_lhs => rw [h.answered]
  rw [List.mem_range'_1]
  omega

/-- The next message to be answered is the one whose handler was entered last. -/
theorem Inv.sendPacket {n : Nat} (h : Inv env bAsync handle packets f g a o st r)
    (hserve : ∀ p ∈ packets, env.Serves p) (hent : .entered n ∈ r.requests.conn.dispatch.log) (hnew : n ∉ r.answered) :
    Inv env bAsync handle packets f g a o st { r with answered := r.answered ++ [n] } := by
  obtain ⟨ms, R, hi⟩ := RequestRun.inv_of_reachable hserve h.requests
  have hd := Dispatch.Inv.log_mem hi.conn.mes.dispatch
  obtain ⟨hpos, hlast⟩ := hd.2 n hent
  have hnum : n ∈ r.requests.handled.map Prod.fst := by
    rw [hi.dispatch.nums]
    exact List.mem_filterMap.mpr ⟨_, hent, rfl⟩
  rw [handled_nums hi, List.mem_range'_1] at hnum
  have hgt : r.answered.length < n := by
    rw [h.mem_answered] at hnew
    omega
  have hle : r.requests.conn.dispatch.uiLastProcessedMessageSequenceNum ≤ r.answered.length := by
    by_contra hlt
    have hmem := h.mem_answered.mp (h.ended.completed _ ((hd.1 (r.answered.length + 1)).mpr ⟨by omega, by omega⟩))
    omega
  have hn : n = r.answered.length + 1 := by omega
  have hlen : (r.answered ++ [n]).length = r.answered.length + 1 := by simp
  refine ⟨h.requests, h.wire, h.served, ⟨fun k hk => ?_, fun k hk => ?_⟩, ?_, ?_, fun b hb => ?_⟩
  · exact List.mem_append_left _ (h.ended.posted k hk)
  · exact List.mem_append_left _ (h.ended.completed k hk)
  · show r.answered ++ [n] = _
    rw [hlen, List.range'_1_concat, ← h.answered, hn, Nat.add_comm 1]
  · show (r.answered ++ [n]).length ≤ r.requests.handled.length
    omega
  · obtain ⟨hle, hp⟩ := h.pushed b hb
    exact ⟨by show _ ≤ (r.answered ++ [n]).length; omega, hp⟩

theorem Inv.wire_step {act : WireRun.Act} (h : Inv env bAsync handle packets f g a o st r)
    (haccept : r.wire.Accepts act) (hholds : r.holdsReply act = true)
    (hs : r.step env bAsync handle (.wire act) = some r') : Inv env bAsync handle packets f g a o st r' := by
  obtain ⟨q, hq, rfl⟩ := Option.map_eq_some_iff.mp hs
  refine ⟨h.requests, h.wire.step act (guarded_eq_some.mpr ⟨haccept, hq⟩), h.served, h.ended, h.answered, h.handled, ?_⟩
  cases act with
  | push b =>
    obtain ⟨u, -, rfl⟩ := Option.map_eq_some_iff.mp hq
    intro c hc
    rcases List.mem_append.mp hc with hc | hc
    · exact h.pushed c hc
    · obtain rfl := List.mem_singleton.mp hc
      have hpos := haccept.1
      obtain ⟨p, hp, hrest⟩ := (Option.any_eq_true _ _).mp hholds
      obtain ⟨n, hn, hp⟩ := Option.bind_eq_some_iff.mp hp
      obtain ⟨hlt, hn'⟩ := List.getElem?_eq_some_iff.mp hn
      -- the number is that of the message
      have hnum : n = c.nSequenceNum := by
        rw [h.answered, List.getElem?_range' (by omega)] at hn
        have := Option.some.inj hn
        omega
      exact ⟨by show _ ≤ r.answered.length; omega, p, hnum ▸ hp, of_decide_eq_true hrest⟩
  | drain e =>
    obtain ⟨u, -, rfl⟩ := Option.map_eq_some_iff.mp hq
    exact h.pushed
  | setState n =>
    cases hq
    exact h.pushed

theorem Inv.step {act : Act} (h : Inv env bAsync handle packets f g a o st r) (hserve : ∀ p ∈ packets, env.Serves p)
    (hallow : r.allows bAsync packets act = true) (hs : r.step env bAsync handle act = some r') :
    Inv env bAsync handle packets f g a o st r' := by
  cases act with
  | request act =>
    obtain ⟨hallow, hans⟩ := Bool.and_eq_true_iff.mp hallow
    exact h.request hserve hallow hans hs
  | sendPacket n =>
    obtain ⟨hent, hnew⟩ := Bool.and_eq_true_iff.mp hallow
    cases hs
    exact h.sendPacket hserve (of_decide_eq_true hent) (of_decide_eq_true hnew)
  | wire act =>
    obtain ⟨haccept, hholds⟩ := Bool.and_eq_true_iff.mp hallow
    exact h.wire_step (of_decide_eq_true haccept) hholds hs

theorem inv_of_reachable (hserve : ∀ p ∈ packets, env.Serves p)
    (h : Reachable (guarded (fun r a => r.allows bAsync packets a) (EndToEnd.step env bAsync handle))
      (start f g a o st) r) :
    Inv env bAsync handle packets f g a o st r :=
  h.invariant inv_start fun _ _ _ hi hs => hi.step hserve (guarded_eq_some.mp hs).1 (guarded_eq_some.mp hs).2

/-! ### The results -/

/-- Nothing is left to do: every request has been handled and every reply sent. -/
structure AtRest (r : EndToEnd σ) : Prop where
  requests : r.requests.conn.AtRest
  sent : r.wire.conn.uiLastSentPacketSequenceNum = r.answered.length

theorem Inv.sent_eq (h : Inv env bAsync handle packets f g a o st r) (hserve : ∀ p ∈ packets, env.Serves p) {n : Nat}
    (hn : n ≤ r.answered.length) :
    r.replies.take n =
      (serve handle o (messagesOf ((completeIn packets r.requests.bufs.flatten.length).take n))).2 := by
  obtain ⟨ms, R, hi⟩ := RequestRun.inv_of_reachable hserve h.requests
  have hhandled : r.requests.handled.take n =
      messagesOf ((completeIn packets r.requests.bufs.flatten.length).take n) := by
    have hle := h.handled
    obtain ⟨rest, hrest⟩ := hi.handled_prefix
    rw [messagesOf_take, ← hrest, List.take_append_of_le_length (by omega)]
  rw [← hhandled, ← take_serve, h.served]

theorem Inv.answered_of_rest (h : Inv env bAsync handle packets f g a o st r) (hserve : ∀ p ∈ packets, env.Serves p)
    (hrest : r.requests.conn.AtRest) :
    r.answered.length = (completeIn packets r.requests.bufs.flatten.length).length := by
  obtain ⟨ms, R, hi⟩ := RequestRun.inv_of_reachable hserve h.requests
  have hle := h.handled
  have hlen := congrArg List.length (hi.handled_of_rest hrest)
  rw [length_messagesOf] at hlen
  -- the last message that was handled
  by_contra hne
  have hlast : r.requests.handled.length ∈ r.requests.handled.map Prod.fst := by
    rw [handled_nums hi, List.mem_range'_1]
    omega
  rw [hi.dispatch.nums] at hlast
  obtain ⟨e, he, heq⟩ := List.mem_filterMap.mp hlast
  cases e with
  | completed k => cases heq
  | entered k =>
    obtain rfl : k = _ := Option.some.inj heq
    have := h.mem_answered.mp (h.ended.completed _ (hrest.settled _ he))
    omega

/-- In every state of the run the client's calls give the replies that one object gives to the first requests, one
after the other: as many as were sent completely, of no request that has not been received completely; and at rest
the replies to all requests that were received. -/
theorem outs_eq_serve {Pub Priv Rand : Type} {p : Primitives Pub Priv Rand} (hserve : ∀ p ∈ packets, env.Serves p)
    (hreply : ∀ o c, (handle o c).2.IsReply)
    (h : Reachable (guarded (fun r a => r.allows bAsync packets a) (step env bAsync handle)) (start f g a o st) r)
    {client : ClientRecv} (hready : client.Ready) (hleft : client.dwLeftRecvDataLen = 0) {ops : List StreamOp}
    (hrun : client.StreamRun p r.wire.conn.wire ops) :
    client.outs p ops = ReplyReader.outs ⟨(serve handle o (messagesOf
        ((completeIn packets r.requests.bufs.flatten.length).take r.wire.conn.uiLastSentPacketSequenceNum))).2, []⟩
      (ops.map StreamOp.room) ∧
    (r.AtRest → client.outs p ops =
      ReplyReader.outs ⟨(serve handle o (messagesOf (completeIn packets r.requests.bufs.flatten.length))).2, []⟩
        (ops.map StreamOp.room)) := by
  have hi := inv_of_reachable hserve h
  have hexact := WireRun.exact_of_reachable hi.wire
  obtain ⟨k, hsent⟩ := hexact.sent
  have hle : r.wire.conn.uiLastSentPacketSequenceNum ≤ r.answered.length := by
    by_contra hlt
    obtain ⟨b, hb, hnum⟩ := hsent.num_mem (i := r.wire.conn.uiLastSentPacketSequenceNum) (by omega) le_rfl
    have := (hi.pushed b hb).1
    omega
  have hallReplies : ∀ q ∈ r.replies, q.IsReply := by
    have := mem_serve (o := o) (P := PlainPacket.IsReply) hreply r.requests.handled
    rwa [hi.served] at this
  have hout := hexact.outs_eq (fun i => (r.replies[i - 1]?).getD ⟨[], 0⟩) ?_ hready hleft hrun
  · have htake : (List.range' 1 r.wire.conn.uiLastSentPacketSequenceNum).map
        (fun i => (r.replies[i - 1]?).getD ⟨[], 0⟩) = r.replies.take r.wire.conn.uiLastSentPacketSequenceNum := by
      refine map_range'_getD _ ?_
      have hlen : (serve handle o r.requests.handled).2.length = r.requests.handled.length := length_serve _
      rw [hi.served] at hlen
      have := hi.handled
      dsimp only at hlen
      omega
    rw [htake, hi.sent_eq hserve hle] at hout
    refine ⟨hout, fun hrest => ?_⟩
    rw [hout, List.take_of_length_le]
    rw [hrest.sent, hi.answered_of_rest hserve hrest.requests]
  · intro b hb
    obtain ⟨-, q, hq, hrest⟩ := hi.pushed b hb
    rw [hq]
    exact ⟨hrest, hallReplies q (List.mem_of_getElem? hq)⟩

/-! ### Over the message queue -/

/-- Other messages in the queue. -/
def putQueue (r : EndToEnd σ) (l : List CXMessageData) : EndToEnd σ := { r with requests := r.requests.putQueue l }

/-- The step calls `GetMessage`. -/
def takes (r : EndToEnd σ) : Act → Bool
  | .request a => r.requests.conn.takes a
  | .sendPacket _ | .wire _ => false

theorem step_putQueue_of {l : List CXMessageData} {a : ConnectionAct}
    (l' : List CXMessageData → List CXMessageData)
    (h : (r.requests.putQueue l).step env bAsync a =
      (r.requests.step env bAsync a).map fun q => q.putQueue (l' q.conn.dispatch.queue)) :
    (r.putQueue l).step env bAsync handle (.request a) =
      (r.step env bAsync handle (.request a)).map fun s => s.putQueue (l' s.requests.conn.dispatch.queue) := by
  show ((r.requests.putQueue l).step env bAsync a).map _ = ((r.requests.step env bAsync a).map _).map _
  rw [h, Option.map_map, Option.map_map]
  rfl

/-- The system, with the message queue to be replaced. -/
def overQueue (env : RecvEnv) (bAsync : Nat → Bool) (handle : σ → Nat × Nat × List UInt8 → σ × PlainPacket) :
    QueueSystem (EndToEnd σ) Act CXMessageData where
  step := step env bAsync handle
  get r := r.requests.conn.dispatch.queue
  put := putQueue
  takes := takes
  get_put _ _ := rfl
  put_put _ _ _ := rfl
  put_get _ := rfl
  takes_put r l a := by cases a <;> first | exact (RequestRun.overQueue env bAsync).takes_put r.requests l _ | rfl
  step_adds r l a ha := by
    cases a with
    | request a =>
      exact step_putQueue_of (fun q => l ++ q) ((RequestRun.overQueue env bAsync).step_adds r.requests l a ha)
    | sendPacket n => rfl
    | wire a =>
      show (r.wire.step a).map _ = ((r.wire.step a).map _).map _
      rw [Option.map_map]
      rfl
  step_takes r m l a ha := by
    cases a with
    | request a =>
      exact step_putQueue_of (r := r.putQueue [m]) (fun _ => l)
        ((RequestRun.overQueue env bAsync).step_takes r.requests m l a ha)
    | sendPacket _ | wire _ => cases ha
  step_nil r a ha := by
    cases a with
    | request a =>
      show ((r.requests.putQueue []).step env bAsync a).map _ = none
      rw [show (r.requests.putQueue []).step env bAsync a = none from
        (RequestRun.overQueue env bAsync).step_nil r.requests a ha]
      rfl
    | sendPacket _ | wire _ => cases ha

theorem allows_putQueue {l : List CXMessageData} (b : Act) :
    (r.putQueue l).allows bAsync packets b = r.allows bAsync packets b := by
  cases b with
  | request b => cases b <;> rfl
  | sendPacket n => rfl
  | wire b => cases b <;> rfl

/-- No thread has anything left to do, and the replies to all messages have been sent. -/
structure NodeAtRest (s : EndToEnd σ × NodeQueue CXMessageData) : Prop where
  requests : (RequestRun.nodeConn (s.1.requests, s.2)).AtRest
  sent : s.1.wire.conn.uiLastSentPacketSequenceNum = s.1.answered.length

theorem nodeAtRest_iff {s : EndToEnd σ × NodeQueue CXMessageData} (hrest : s.1 = r.putQueue [])
    (hsize : s.2.size = r.requests.conn.dispatch.queue.length) : NodeAtRest s ↔ r.AtRest := by
  have hconn : (RequestRun.nodeConn (s.1.requests, s.2)).AtRest ↔ r.requests.conn.AtRest :=
    RequestRun.atRest_iff (congrArg EndToEnd.requests hrest) hsize
  have hsent : s.1.wire.conn.uiLastSentPacketSequenceNum = s.1.answered.length ↔
      r.wire.conn.uiLastSentPacketSequenceNum = r.answered.length := by
    rw [hrest]
    exact Iff.rfl
  exact ⟨fun h => ⟨hconn.mp h.requests, hsent.mp h.sent⟩, fun h => ⟨hconn.mpr h.requests, hsent.mpr h.sent⟩⟩

/-- As long as each operation on the message queue meets its condition, the client's calls give the replies that one
object gives to the first requests, one after the other: as many as were sent completely, of no request that has not
been received completely; and at rest the replies to all requests that were received. -/
theorem reads_serve {Pub Priv Rand : Type} {p : Primitives Pub Priv Rand} (hserve : ∀ p ∈ packets, env.Serves p)
    (hreply : ∀ o c, (handle o c).2.IsReply) {s : EndToEnd σ × NodeQueue CXMessageData}
    (h : Reachable (guarded ((overQueue env bAsync handle).StepOk fun r a => r.allows bAsync packets a = true)
      (overQueue env bAsync handle).nodeStep) (start f g a o st, .construct) s)
    {client : ClientRecv} (hready : client.Ready) (hleft : client.dwLeftRecvDataLen = 0) {ops : List StreamOp}
    (hrun : client.StreamRun p s.1.wire.conn.wire ops) :
    client.outs p ops = ReplyReader.outs ⟨(serve handle o (messagesOf
        ((completeIn packets s.1.requests.bufs.flatten.length).take s.1.wire.conn.uiLastSentPacketSequenceNum))).2, []⟩
      (ops.map StreamOp.room) ∧
    (NodeAtRest s → client.outs p ops =
      ReplyReader.outs ⟨(serve handle o (messagesOf (completeIn packets s.1.requests.bufs.flatten.length))).2, []⟩
        (ops.map StreamOp.room)) := by
  obtain ⟨r, href, hr⟩ := QueueSystem.exists_of_queueOk _
    (fun r l b => by rw [← allows_putQueue (r := r) b]; rfl) rfl h
  have hrest : s.1 = r.putQueue [] := href.rest
  rw [nodeAtRest_iff hrest href.size]
  rw [hrest] at hrun ⊢
  exact outs_eq_serve hserve hreply hr hready hleft hrun

/-- The object counts the requests; the reply has one or two bytes. -/
def counting (n : Nat) (_ : Nat × Nat × List UInt8) : Nat × PlainPacket := (n + 1, WireRun.sevens ((n + 1) % 3))

theorem isReply_counting (n : Nat) (c : Nat × Nat × List UInt8) : (counting n c).2.IsReply := by
  have hlen : (counting n c).2.body.length = 40 + (n + 1) % 3 := by
    rw [counting, WireRun.sevens, List.length_append, List.length_replicate, List.length_replicate]
  have hlt := Nat.mod_lt (n + 1) (by decide : 0 < 3)
  exact ⟨by rw [hlen, bodyDataLen]; omega, by omega⟩

/-- Both requests are answered before the first reply is pushed, which is the second one. -/
def countingRun : List Act :=
  (RequestRun.twoBufsRun.take 16).map .request ++ [.sendPacket 1] ++ (RequestRun.twoBufsRun.drop 16).map .request ++
    [.sendPacket 2, .request (.post ⟨0, 1, 0, 2, []⟩), .request (.run 1), .request (.run 1), .request (.run 1)] ++
    WireRun.sevensRun.map .wire

theorem reads_serve_counting : ∃ s,
    Reachable (guarded ((overQueue RecvState.undecryptableEnv (fun k => k == 2) counting).StepOk
      fun r a => r.allows (fun k => k == 2) RequestRun.twoPackets a = true)
      (overQueue RecvState.undecryptableEnv (fun k => k == 2) counting).nodeStep)
      (start false false false 0 (.fresh true true), .construct) s ∧ NodeAtRest s ∧
    ClientRecv.connected.outs Primitives.library96 WireRun.sevensOps =
      [.reply (-8) 0 0 [], .left 1 [7], .reply 0 2 0 [7, 7], .noReply] := by
  obtain ⟨r, hr⟩ : ∃ r, runSteps (guarded
      (fun r a => r.allows (fun k => k == 2) RequestRun.twoPackets a = true ∧
        (overQueue RecvState.undecryptableEnv (fun k => k == 2) counting).Short r a)
      (overQueue RecvState.undecryptableEnv (fun k => k == 2) counting).step)
      (start false false false 0 (.fresh true true)) countingRun = some r := ⟨_, rfl⟩
  obtain ⟨s, hroomy, hreach⟩ := QueueSystem.exists_of_short
    (fun (r : EndToEnd Nat) a => r.allows (fun k => k == 2) RequestRun.twoPackets a = true)
    (fun r l b => by rw [← allows_putQueue (r := r) b]; rfl) rfl (Reachable.of_runSteps hr)
  have hs : s.1 = r.putQueue [] := hroomy.rest
  have hwire : s.1.wire.conn.wire = (WireRun.sevens 1).encode ++ ((WireRun.sevens 2).encode ++ []) := by
    rw [hs]
    cases hr
    rfl
  have hlog : r.requests.conn.dispatch.log = [.entered 1, .completed 1, .entered 2, .completed 2] := by
    cases hr
    rfl
  have hrest : NodeAtRest s := by
    refine (nodeAtRest_iff hs hroomy.size).mpr ⟨⟨?_, ?_, ?_, fun w => ?_, fun k hk => by simpa [hlog] using hk⟩, ?_⟩
    · cases hr
      rfl
    · cases hr
      rfl
    · cases hr
      rfl
    · cases hr
      match w with
      | 0 => rfl
      | 1 => rfl
      | _ + 2 => rfl
    · cases hr
      rfl
  have hbufs : s.1.requests.bufs = RequestRun.twoBufs := by
    rw [hs]
    cases hr
    rfl
  have hcomplete : completeIn RequestRun.twoPackets s.1.requests.bufs.flatten.length = RequestRun.twoPackets := by
    rw [hbufs]
    rfl
  refine ⟨s, hreach, hrest, ((reads_serve RequestRun.serves_twoPackets isReply_counting hreach
    ⟨rfl, rfl, rfl⟩ rfl (hwire ▸ WireRun.streamRun_sevens)).2 hrest).trans ?_⟩
  rw [hcomplete]
  decide

end EndToEnd

end KonsanNet
