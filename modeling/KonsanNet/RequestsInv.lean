import Mathlib.Tactic
import KonsanNet.Requests

/-!
# Every request is handled once, in order, with its own bytes

`Dispatch.Holds` follows the messages through the queue, the message list and the threads; `CallInv` is where the
one call of `RecvPacket` stands that is under way. `Inv.handled_prefix` and `Inv.handled_of_rest` are the results about
every state of a run, `atRest_or_exists_step` says that a run stops only where nothing is left to do.
-/

namespace KonsanNet

/-! ### What a thread of `ProcessMessage` hands on -/

namespace Dispatch

variable {bAsync : Nat → Bool} {s s' : Dispatch} {w : Nat} {m : CXMessageData} {P : CXMessageData → Prop}

/-- The messages on their way to their handlers. The report of an end is not one of them. -/
structure Holds (P : CXMessageData → Prop) (s : Dispatch) : Prop where
  queue : ∀ m ∈ s.queue, m.dwType ≠ 2 → P m
  list : ∀ m ∈ s.lstMessage.head, P m
  input : ∀ w m, s.worker w = .input m → P m
  handler : ∀ w m, s.worker w = .handler m → P m

theorem holds_fresh : Holds P fresh := by
  constructor <;> simp [fresh, SeqList.empty]

theorem Holds.mono {Q : CXMessageData → Prop} (h : Holds P s) (hPQ : ∀ m, P m → Q m) : Holds Q s :=
  ⟨fun m hm ht => hPQ m (h.queue m hm ht), fun m hm => hPQ m (h.list m hm), fun w m hw => hPQ m (h.input w m hw),
    fun w m hw => hPQ m (h.handler w m hw)⟩

theorem Holds.setWorker (h : Holds P s) {p : Worker} (hi : ∀ m, p = .input m → P m)
    (hh : ∀ m, p = .handler m → P m) :
    Holds P (s.setWorker w p) := by
  refine ⟨h.queue, h.list, fun v m hv => ?_, fun v m hv => ?_⟩
  · by_cases hvw : v = w
    · subst hvw
      exact hi m (by simpa [Dispatch.setWorker] using hv)
    · exact h.input v m (by simpa [Dispatch.setWorker, hvw] using hv)
  · by_cases hvw : v = w
    · subst hvw
      exact hh m (by simpa [Dispatch.setWorker] using hv)
    · exact h.handler v m (by simpa [Dispatch.setWorker, hvw] using hv)

theorem Holds.popHead (h : Holds P s) : Holds P s.popHead :=
  ⟨h.queue, fun m hm => h.list m (List.mem_of_mem_tail hm), h.input, h.handler⟩

theorem Holds.post (h : Holds P s) (hs : s.post bAsync m = some s') : Holds P s' := by
  unfold Dispatch.post at hs
  split at hs <;> cases hs
  refine ⟨fun a ha ht => ?_, h.list, h.input, h.handler⟩
  rcases List.mem_append.mp ha with ha | ha
  · exact h.queue a ha ht
  · rw [List.mem_singleton.mp ha] at ht
    exact absurd rfl ht

theorem Holds.pushMessage (h : Holds P s) (hm : P m) {ok : Bool} (hs : s.pushMessage m = some (s', ok)) :
    Holds P s' := by
  obtain ⟨⟨l, ok'⟩, hpush, heq⟩ := Option.map_eq_some_iff.mp hs
  cases heq
  refine ⟨h.queue, fun a ha => ?_, h.input, h.handler⟩
  rcases SeqList.mem_push _ hpush ha with rfl | ha
  · exact hm
  · exact h.list a ha

theorem Holds.run (h : Holds P s) (hs : s.step bAsync (.run w) = some s') : Holds P s' := by
  cases hw : s.worker w with
  | idle =>
    simp only [step, hw, getMessage] at hs
    cases hq : s.queue with
    | nil => simp [hq] at hs
    | cons a rest =>
      rw [hq] at hs
      cases hs
      have hrest : Holds P { s with queue := rest } :=
        ⟨fun m hm => h.queue m (hq ▸ List.mem_cons_of_mem a hm), h.list, h.input, h.handler⟩
      refine hrest.setWorker (fun m hm => ?_) fun m hm => ?_
      · split at hm <;> cases hm
        exact h.queue a (hq ▸ List.mem_cons_self ..) ‹_›
      · split at hm <;> cases hm
  | input m =>
    simp only [step, hw, inputMessage] at hs
    split at hs
    case isFalse => cases hs
    obtain ⟨⟨s₁, ok⟩, hpush, rfl⟩ := Option.map_eq_some_iff.mp hs
    have h₁ := h.pushMessage (h.input w m hw) hpush
    split
    · have h₂ : Holds P { s₁ with lockSend := some w } := ⟨h₁.queue, h₁.list, h₁.input, h₁.handler⟩
      exact h₂.setWorker (by simp) (by simp)
    · exact h₁.setWorker (by simp) (by simp)
  | asyncEnd m =>
    simp only [step, hw, processAsyncMessageEnd] at hs
    split at hs <;> cases hs
    have h₁ : Holds P (s.complete m) := ⟨h.queue, h.list, h.input, h.handler⟩
    exact h₁.setWorker (by simp) (by simp)
  | resume =>
    simp only [step, hw, resumeLoop] at hs
    split at hs
    case isFalse => cases hs
    split at hs <;> cases hs
    · exact h.setWorker (by simp) (by simp)
    · have h₁ : Holds P { s with lockSend := some w } := ⟨h.queue, h.list, h.input, h.handler⟩
      exact h₁.setWorker (by simp) (by simp)
  | loop =>
    simp only [step, hw, testLoop] at hs
    split at hs
    case h_1 => cases hs
    case h_2 a rest hl =>
      split at hs <;> cases hs
      · have h₁ : Holds P { s with log := s.log ++ [DispatchEvent.entered a.iSequenceNum] } :=
          ⟨h.queue, h.list, h.input, h.handler⟩
        refine h₁.setWorker (by simp) fun m hm => ?_
        cases hm
        exact h.list a (hl ▸ List.mem_cons_self ..)
      · have h₁ : Holds P { s with lockSend := none } := ⟨h.queue, h.list, h.input, h.handler⟩
        exact h₁.setWorker (by simp) (by simp)
  | handler m =>
    simp only [step, hw] at hs
    cases hs
    unfold endHandler
    split
    · have h₁ : Holds P { s.popHead with lockSend := none } :=
        ⟨h.popHead.queue, h.popHead.list, h.popHead.input, h.popHead.handler⟩
      exact h₁.setWorker (by simp) (by simp)
    · have h₁ : Holds P { s.popHead.complete m with lockSend := none } :=
        ⟨h.popHead.queue, h.popHead.list, h.popHead.input, h.popHead.handler⟩
      exact h₁.setWorker (by simp) (by simp)

/-- The numbers of the handlers that were entered. -/
def entered : DispatchEvent → Option Nat
  | .entered k => some k
  | .completed _ => none

theorem filterMap_entered_runLog (n : Nat) : (runLog n).filterMap entered = List.range' 1 n := by
  induction n with
  | zero => rfl
  | succ n ih =>
    rw [runLog, List.filterMap_append, ih, List.range'_1_concat, Nat.add_comm 1 n]
    rfl

theorem entered_run (hs : s.step bAsync (.run w) = some s') : s'.log.filterMap entered =
    s.log.filterMap entered ++ (s'.worker w).handling.map CXMessageData.iSequenceNum := by
  cases hw : s.worker w with
  | idle =>
    simp only [step, hw, getMessage] at hs
    split at hs <;> cases hs
    simp only [setWorker, Function.update_self]
    split <;> simp [Worker.handling]
  | input m =>
    simp only [step, hw, inputMessage] at hs
    split at hs
    case isFalse => cases hs
    obtain ⟨⟨s₁, ok⟩, hpush, rfl⟩ := Option.map_eq_some_iff.mp hs
    obtain ⟨r, -, heq⟩ := Option.map_eq_some_iff.mp hpush
    cases heq
    split <;> simp [setWorker, Worker.handling]
  | asyncEnd m =>
    simp only [step, hw, processAsyncMessageEnd] at hs
    split at hs <;> cases hs
    simp [setWorker, complete, Worker.handling, entered]
  | resume =>
    simp only [step, hw, resumeLoop] at hs
    split at hs
    case isFalse => cases hs
    split at hs <;> cases hs <;> simp [setWorker, Worker.handling]
  | loop =>
    simp only [step, hw, testLoop] at hs
    split at hs
    case h_1 => cases hs
    case h_2 => split at hs <;> cases hs <;> simp [setWorker, Worker.handling, entered]
  | handler m =>
    simp only [step, hw] at hs
    cases hs
    unfold endHandler
    split <;> simp [setWorker, popHead, complete, Worker.handling, entered]

/-- The report of an end that was posted is in the queue, with a thread, or has been counted. -/
def Posted (s : Dispatch) : Prop :=
  ∀ k ∈ s.posted, .completed k ∈ s.log ∨ (∃ m ∈ s.queue, m.dwType = 2 ∧ m.iSequenceNum = k) ∨
    ∃ w m, s.worker w = .asyncEnd m ∧ m.iSequenceNum = k

theorem Posted.post (h : Posted s) (hs : s.post bAsync m = some s') : Posted s' := by
  unfold Dispatch.post at hs
  split at hs <;> cases hs
  intro k hk
  rcases List.mem_cons.mp hk with rfl | hk
  · exact Or.inr (Or.inl ⟨_, List.mem_append_right _ (List.mem_singleton_self _), rfl, rfl⟩)
  · rcases h k hk with hlog | ⟨a, ha, hty⟩ | hw
    · exact Or.inl hlog
    · exact Or.inr (Or.inl ⟨a, List.mem_append_left _ ha, hty⟩)
    · exact Or.inr (Or.inr hw)

/-- A thread that has no report in its hands goes on; the reports and the counted ends stay. -/
theorem Posted.keep (h : Posted s) {p : Worker} (hw : ∀ m, s.worker w ≠ .asyncEnd m) (hposted : s'.posted = s.posted)
    (hlog : ∀ k, .completed k ∈ s.log → .completed k ∈ s'.log) (hqueue : s'.queue = s.queue)
    (hworker : s'.worker = Function.update s.worker w p) : Posted s' := by
  intro k hk
  rcases h k (hposted ▸ hk) with hl | ⟨a, ha, hty⟩ | ⟨v, a, hv, ha⟩
  · exact Or.inl (hlog k hl)
  · exact Or.inr (Or.inl ⟨a, hqueue ▸ ha, hty⟩)
  · refine Or.inr (Or.inr ⟨v, a, ?_, ha⟩)
    have hvw : v ≠ w := fun heq => hw a (heq ▸ hv)
    rw [hworker, Function.update_of_ne hvw, hv]

theorem Posted.run (h : Posted s) (hs : s.step bAsync (.run w) = some s') : Posted s' := by
  cases hw : s.worker w with
  | idle =>
    simp only [step, hw, getMessage] at hs
    cases hq : s.queue with
    | nil => simp [hq] at hs
    | cons a rest =>
      rw [hq] at hs
      cases hs
      intro k hk
      rcases h k hk with hl | ⟨b, hb, hty, hbk⟩ | ⟨v, b, hv, hbk⟩
      · exact Or.inl hl
      · -- the thread may have taken this report
        rw [hq] at hb
        rcases List.mem_cons.mp hb with rfl | hb
        · exact Or.inr (Or.inr ⟨w, b, by simp [setWorker, hty], hbk⟩)
        · exact Or.inr (Or.inl ⟨b, hb, hty, hbk⟩)
      · have hvw : v ≠ w := by
          rintro rfl
          rw [hw] at hv
          cases hv
        exact Or.inr (Or.inr ⟨v, b, by simp [setWorker, hvw, hv], hbk⟩)
  | input m =>
    simp only [step, hw, inputMessage] at hs
    split at hs
    case isFalse => cases hs
    obtain ⟨⟨s₁, ok⟩, hpush, rfl⟩ := Option.map_eq_some_iff.mp hs
    obtain ⟨r, -, heq⟩ := Option.map_eq_some_iff.mp hpush
    cases heq
    split <;> exact h.keep (by simp [hw]) rfl (fun _ => id) rfl rfl
  | asyncEnd m =>
    simp only [step, hw, processAsyncMessageEnd] at hs
    split at hs <;> cases hs
    intro k hk
    rcases h k hk with hl | hb | ⟨v, b, hv, hbk⟩
    · exact Or.inl (List.mem_append_left _ hl)
    · exact Or.inr (Or.inl hb)
    · by_cases hvw : v = w
      · subst hvw
        rw [hw] at hv
        cases hv
        exact Or.inl (by simp [setWorker, complete, hbk])
      · exact Or.inr (Or.inr ⟨v, b, by simp [setWorker, complete, hvw, hv], hbk⟩)
  | resume =>
    simp only [step, hw, resumeLoop] at hs
    split at hs
    case isFalse => cases hs
    split at hs <;> cases hs <;> exact h.keep (by simp [hw]) rfl (fun _ => id) rfl rfl
  | loop =>
    simp only [step, hw, testLoop] at hs
    split at hs
    case h_1 => cases hs
    case h_2 =>
      split at hs <;> cases hs
      · exact h.keep (by simp [hw]) rfl (fun _ => List.mem_append_left _) rfl rfl
      · exact h.keep (by simp [hw]) rfl (fun _ => id) rfl rfl
  | handler m =>
    simp only [step, hw] at hs
    cases hs
    unfold endHandler
    split
    · exact h.keep (by simp [hw]) rfl (fun _ => id) rfl rfl
    · exact h.keep (by simp [hw]) rfl (fun _ => List.mem_append_left _) rfl rfl

end Dispatch

/-! ### The receive path between two steps -/

namespace RecvState

variable {env : RecvEnv} {packets : List PlainPacket} {bufs : List (List UInt8)} {R R' : List Nat} {j : Nat}
  {s s' : RecvState} {ms : List CXMessageData}

/-- The receive path as if it had kept the messages that it has pushed. -/
def having (s : RecvState) (ms : List CXMessageData) : RecvState := { s with mesQueue := ms }

/-- The buffer in which the next call begins. -/
def next (s : RecvState) : Option Nat := s.listRead.head.head?.map CXBufferObj.nSequenceNum

/-- The bytes in sequence are less than the next packet. -/
def Drained (packets : List PlainPacket) (j : Nat) (s : RecvState) : Prop :=
  ∀ p ∈ (packets.drop j).head?, (contig s.uiLastProcessBufferIndex s.listRead.head).length < p.size

/-- Nothing that `RecvInv` speaks about differs but the messages. -/
structure SameList (s s' : RecvState) : Prop where
  listRead : s'.listRead = s.listRead
  index : s'.uiLastProcessBufferIndex = s.uiLastProcessBufferIndex
  last : s'.iLastUnpackedMessageSequenceNum = s.iLastUnpackedMessageSequenceNum
  lpServer : s'.lpServer = s.lpServer
  overrun : s'.overrun = s.overrun

theorem RecvInv.congr (h : RecvInv packets bufs R j (s.having ms)) (hs : SameList s s')
    (hR : ∀ i, i ∈ R ↔ i ∈ R') : RecvInv packets bufs R' j (s'.having ms) := by
  have hread := h.read.congr hR
  have hl : (s'.having ms).listRead = (s.having ms).listRead := hs.listRead
  have hi : (s'.having ms).uiLastProcessBufferIndex = (s.having ms).uiLastProcessBufferIndex := hs.index
  rw [← hl, ← hi] at hread
  exact .of_read hread (hs.lpServer.trans h.lpServer) h.le (hs.last.trans h.seqNum) h.content
    (hs.overrun.trans h.overrun)

theorem Drained.congr (h : Drained packets j s) (hs : SameList s s') : Drained packets j s' := by
  unfold Drained at h ⊢
  rw [hs.listRead, hs.index]
  exact h

theorem Same.sameList (h : Same s s') : SameList s s' := by
  unfold Same at h
  rw [h]
  exact ⟨rfl, rfl, rfl, rfl, rfl⟩

theorem RecvInv.append (h : RecvInv packets bufs R j s) (hR : ∀ i ∈ R, i ≤ bufs.length) (bytes : List UInt8) :
    RecvInv packets (bufs ++ [bytes]) R j s := by
  have hk : s.uiLastProcessBufferIndex ≤ bufs.length := by
    by_cases h0 : s.uiLastProcessBufferIndex = 0
    · omega
    · exact hR _ (h.freed _ (by omega) le_rfl)
  obtain ⟨part, hpart, hdel⟩ := h.delivered
  refine { h with source := fun b hb i hi => ?_, delivered := ⟨part, hpart, ?_⟩ }
  · have hsrc := h.source b hb i hi
    obtain ⟨hlt, -⟩ := List.getElem?_eq_some_iff.mp hsrc
    rw [List.getElem?_append_left hlt, hsrc]
  · rw [List.take_append_of_le_length hk, hdel]

theorem pushReceivedBuffer_having (b : CXBufferObj) (s : RecvState) : (s.having ms).pushReceivedBuffer b =
    (s.pushReceivedBuffer b).map fun r => (r.1.having ms, r.2) := by
  unfold pushReceivedBuffer
  cases hp : SeqList.push CXBufferObj.nSequenceNum s.listRead b with
  | none => simp [having, hp]
  | some r =>
    obtain ⟨l, ok⟩ := r
    cases ok <;> simp [having, hp]

/-- Scanning the read list from its head: it holds less than the next packet, or this packet is taken. -/
theorem RecvInv.scan (h : RecvInv packets bufs R j (s.having ms)) (hserve : ∀ p ∈ packets, env.Serves p)
    (hcut : bufs.flatten <+: packets.flatMap PlainPacket.encode) :
    ∃ s₁, Same s s₁ ∧
      ((∃ m, RecvState.scan env s.listRead.head 0 (.start s.uiLastProcessBufferIndex) s = (s₁, .drained m) ∧
          Drained packets j s) ∨
        ∃ q m freed left,
          RecvState.scan env s.listRead.head 0 (.start s.uiLastProcessBufferIndex) s =
            (s₁, .packet (headerOf q) m freed left) ∧ MesDone q { m with iSequenceNum := j + 1 } ∧
          RecvInv packets bufs R (j + 1) (((s₁.takePacket (headerOf q) freed left).having ms).pushReceivedMessage
            { m with iSequenceNum := j + 1 })) := by
  have hpre := h.contig_prefix hcut
  cases hp : packets[j]? with
  | none =>
    have hdrop : packets.drop j = [] := List.drop_of_length_le (List.getElem?_eq_none_iff.mp hp)
    rw [hdrop, List.flatMap_nil] at hpre
    have hscan := scan_of_contig_nil env s.listRead.head 0 (.start s.uiLastProcessBufferIndex) s h.ok
      (List.prefix_nil.mp hpre)
    exact ⟨s, Same.refl s, Or.inl ⟨_, hscan, by simp [Drained, hdrop]⟩⟩
  | some p =>
    obtain ⟨hjlt, hpj⟩ := List.getElem?_eq_some_iff.mp hp
    have hdrop : packets.drop j = p :: packets.drop (j + 1) := by rw [List.drop_eq_getElem_cons hjlt, hpj]
    have hmemp : p ∈ packets := hpj ▸ List.getElem_mem hjlt
    rw [hdrop, List.flatMap_cons] at hpre
    obtain ⟨s₁, hsame, hres⟩ := scan_spec (hserve p hmemp) s.listRead.head 0 (.start s.uiLastProcessBufferIndex) s []
      (Cursor.holds_start p _) h.ok hpre
    refine ⟨s₁, hsame, ?_⟩
    have h₁ : RecvInv packets bufs R j (s₁.having ms) := h.congr hsame.sameList fun _ => Iff.rfl
    rcases hres with ⟨hshort, m, hscan⟩ | ⟨pre, b, rest, n, m, hl, hseq, hn, hfull, hm, hscan⟩
    · refine Or.inl ⟨m, hscan, fun q hq => ?_⟩
      rw [hdrop, List.head?_cons, Option.mem_some_iff] at hq
      rw [← hq]
      rwa [List.length_nil, Nat.zero_add] at hshort
    · refine Or.inr ⟨p, m, ?_⟩
      have hl₁ : (s₁.having ms).listRead.head = pre ++ b :: rest := by
        rw [← hl]
        exact congrArg SeqList.head hsame.sameList.listRead
      have hseq₁ : InSeq (s₁.having ms).uiLastProcessBufferIndex (pre ++ [b]) := by
        rw [show (s₁.having ms).uiLastProcessBufferIndex = s.uiLastProcessBufferIndex from hsame.sameList.index]
        exact hseq
      have htake : ∀ {freed left}, Taken n pre b rest freed left → RecvInv packets bufs R (j + 1)
          (((s₁.takePacket (headerOf p) freed left).having ms).pushReceivedMessage { m with iSequenceNum := j + 1 }) :=
        fun ht => h₁.takePacket hp hl₁ hseq₁ hn (by simpa using hfull) hm ht
      rw [Nat.zero_add] at hscan
      split_ifs at hscan with hz
      · exact ⟨_, _, hscan, ⟨hm.dwDataLen, hm.body⟩, htake (.whole hz)⟩
      · exact ⟨_, _, hscan, ⟨hm.dwDataLen, hm.body⟩, htake (.part hz)⟩

/-- The one call of `RecvPacket` that is under way, by the stages of the threads that are inside it: the messages
`ms` are pushed, and a packet that is being delivered is the next one. -/
inductive CallInv (packets : List PlainPacket) (bufs : List (List UInt8)) (R : List Nat) (ms : List CXMessageData)
    (s : RecvState) : List RecvStage → Prop
  | outside {j : Nat} (h : RecvInv packets bufs R j (s.having ms)) (hd : Drained packets j s) :
      CallInv packets bufs R ms s []
  | scan {j : Nat} (h : RecvInv packets bufs R j (s.having ms)) : CallInv packets bufs R ms s [.scan s.next]
  | deliver {j : Nat} {q : PlainPacket} {m : CXMessageData}
      (h : RecvInv packets bufs R (j + 1) ((s.having ms).pushReceivedMessage m)) (hm : MesDone q m) :
      CallInv packets bufs R ms s [.deliver (headerOf q) m s.next]

namespace CallInv

variable {l : List RecvStage}

theorem congr (h : CallInv packets bufs R ms s l) (hs : SameList s s') (hR : ∀ i, i ∈ R ↔ i ∈ R') :
    CallInv packets bufs R' ms s' l := by
  have hnext : s'.next = s.next := congrArg (fun q : SeqList CXBufferObj => q.head.head?.map _) hs.listRead
  cases h with
  | outside h hd => exact .outside (h.congr hs hR) (hd.congr hs)
  | scan h => exact hnext ▸ .scan (h.congr hs hR)
  | @deliver j q m h hm =>
    have hpushed : RecvInv packets bufs R (j + 1) ((s.pushReceivedMessage m).having (ms ++ [m])) := h
    have hs' : SameList (s.pushReceivedMessage m) (s'.pushReceivedMessage m) :=
      ⟨hs.listRead, hs.index, hs.last, hs.lpServer, hs.overrun⟩
    exact hnext ▸ .deliver (hpushed.congr hs' hR) hm

theorem append (h : CallInv packets bufs R ms s l) (hR : ∀ i ∈ R, i ≤ bufs.length) (bytes : List UInt8) :
    CallInv packets (bufs ++ [bytes]) R ms s l := by
  cases h with
  | outside h hd => exact .outside (h.append hR bytes) hd
  | scan h => exact .scan (h.append hR bytes)
  | deliver h hm => exact .deliver (h.append hR bytes) hm

theorem lpServer (h : CallInv packets bufs R ms s l) : s.lpServer = true := by
  cases h with
  | outside h hd => exact h.lpServer
  | scan h => exact h.lpServer
  | deliver h hm => exact h.lpServer

theorem ordered (h : CallInv packets bufs R ms s l) : s.listRead.Ordered CXBufferObj.nSequenceNum := by
  cases h with
  | outside h hd => exact h.ordered
  | scan h => exact h.ordered
  | deliver h hm => exact h.ordered

/-- The thread that delivers is the only one inside, and its packet is the next one. -/
theorem of_deliver {hd : CXPacketHeader} {m : CXMessageData} {f : Option Nat} (h : CallInv packets bufs R ms s l)
    (hmem : RecvStage.deliver hd m f ∈ l) : l = [.deliver hd m f] ∧ f = s.next ∧ ∃ j q, hd = headerOf q ∧
      MesDone q m ∧ RecvInv packets bufs R (j + 1) ((s.having ms).pushReceivedMessage m) := by
  cases h with
  | outside h hd => cases hmem
  | scan h => cases List.mem_singleton.mp hmem
  | deliver h hm =>
    cases List.mem_singleton.mp hmem
    exact ⟨rfl, rfl, _, _, rfl, hm, h⟩

theorem of_scan {f : Option Nat} (h : CallInv packets bufs R ms s l) (hmem : RecvStage.scan f ∈ l) :
    l = [.scan f] ∧ f = s.next ∧ ∃ j, RecvInv packets bufs R j (s.having ms) := by
  cases h with
  | outside h hd => cases hmem
  | scan h =>
    cases List.mem_singleton.mp hmem
    exact ⟨rfl, rfl, _, h⟩
  | deliver h hm => cases List.mem_singleton.mp hmem

/-- What was pushed are the messages of the first packets, which the buffers hold. -/
theorem content (h : CallInv packets bufs R ms s l) : ∃ j ≤ packets.length,
    ms.map CXMessageData.content <+: messagesOf (packets.take j) ∧
      ((packets.take j).map PlainPacket.size).sum ≤ bufs.flatten.length := by
  obtain ⟨j, s₁, hj, hms⟩ : ∃ j s₁, RecvInv packets bufs R j s₁ ∧ ms <+: s₁.mesQueue := by
    cases h with
    | outside h hd => exact ⟨_, _, h, List.prefix_rfl⟩
    | scan h => exact ⟨_, _, h, List.prefix_rfl⟩
    | deliver h hm => exact ⟨_, _, h, List.prefix_append _ _⟩
  refine ⟨j, hj.le, hj.content ▸ hms.map _, ?_⟩
  obtain ⟨n, hn, -⟩ := hj.delivered_append_contig
  have hlen := congrArg List.length hn
  rw [List.length_append] at hlen
  have hsizes : ((packets.take j).flatMap PlainPacket.encode).length = ((packets.take j).map PlainPacket.size).sum := by
    rw [List.length_flatMap]
    simp only [PlainPacket.length_encode]
  have hle : (bufs.take n).flatten.length ≤ bufs.flatten.length := by
    conv_rhs => rw [← List.take_append_drop n bufs, List.flatten_append, List.length_append]
    exact Nat.le_add_right _ _
  omega

end CallInv

theorem RecvInv.scanRound (h : RecvInv packets bufs R j (s.having ms)) (hserve : ∀ p ∈ packets, env.Serves p)
    (hcut : bufs.flatten <+: packets.flatMap PlainPacket.encode) :
    ∃ r : RecvState × RecvStage, Connection.scanRound env s s.next = r ∧ r.1.mesQueue = s.mesQueue ∧
      r.1.tasks = s.tasks ∧ r.1.uiNumberOfReceivedPacketInQueue = s.uiNumberOfReceivedPacketInQueue ∧
      ((r.2 = .ret 0 ∧ CallInv packets bufs R ms r.1 []) ∨
        r.2.inside = true ∧ CallInv packets bufs R ms r.1 [r.2]) := by
  cases hl : s.listRead.head with
  | nil =>
    have hnext : s.next = none := by simp [next, hl]
    refine ⟨(s, .ret 0), by rw [hnext]; rfl, rfl, rfl, rfl, Or.inl ⟨rfl, .outside h fun p _ => ?_⟩⟩
    rw [hl]
    simp [contig, PlainPacket.size, headerLen]
  | cons b rest =>
    have hnext : s.next = some b.nSequenceNum := by simp [next, hl]
    have hdrop : s.listRead.head.dropWhile (fun a => decide (a.nSequenceNum ≠ b.nSequenceNum)) = s.listRead.head := by
      rw [hl, List.dropWhile_cons_of_neg (by simp)]
    have htakeWhile : s.listRead.head.takeWhile (fun a => decide (a.nSequenceNum ≠ b.nSequenceNum)) = [] := by
      rw [hl, List.takeWhile_cons_of_neg (by simp)]
    obtain ⟨s₁, hsame, hres⟩ := h.scan hserve hcut
    have hs₁ := hsame.sameList
    have hfields : s₁.mesQueue = s.mesQueue ∧ s₁.tasks = s.tasks ∧
        s₁.uiNumberOfReceivedPacketInQueue = s.uiNumberOfReceivedPacketInQueue := by
      unfold Same at hsame
      rw [hsame]
      exact ⟨rfl, rfl, rfl⟩
    rw [hnext]
    unfold Connection.scanRound
    dsimp only
    rw [hdrop, htakeWhile]
    rcases hres with ⟨m, hscan, hd⟩ | ⟨q, m, freed, left, hscan, hm, hinv⟩
    · rw [hscan]
      have hfree : SameList s (s₁.freeMessage m) := (hsame.trans (same_freeMessage m s₁)).sameList
      refine ⟨_, rfl, ?_, ?_, ?_, Or.inl ⟨rfl, .outside (h.congr hfree fun _ => Iff.rfl) (hd.congr hfree)⟩⟩
      all_goals
        have hq := (quiet_freeMessage m s₁).fields
        first
          | exact hq.1.trans hfields.1
          | exact hq.2.2.2.trans hfields.2.1
          | exact hq.2.1.trans hfields.2.2
    · rw [hscan]
      dsimp only
      rw [List.length_nil, Nat.zero_add, show s₁.iLastUnpackedMessageSequenceNum = j from hs₁.last.trans h.seqNum]
      exact ⟨_, rfl, hfields.1, hfields.2.1, hfields.2.2, Or.inr ⟨rfl, .deliver hinv hm⟩⟩

end RecvState

/-! ### The steps -/

namespace RequestRun

open Connection (exists_split)

variable {env : RecvEnv} {bAsync : Nat → Bool} {packets : List PlainPacket} {r r' : RequestRun}
  {ms : List CXMessageData} {R : List Nat}

/-- What the threads of `ProcessMessage` have done with the messages `ms`. -/
structure DispatchPart (d : Dispatch) (ms : List CXMessageData) (handled : List (Nat × Nat × List UInt8)) : Prop where
  arrived : ∀ k, k ∈ d.arrived ↔ ∃ m ∈ ms, m.iSequenceNum = k
  holds : d.Holds (· ∈ ms)
  posted : d.Posted
  nums : handled.map Prod.fst = d.log.filterMap Dispatch.entered
  mem : ∀ c ∈ handled, c ∈ ms.map CXMessageData.content

/-- `ms` are the messages that were pushed, `R` the numbers of the buffers that a thread has given to `RecvPacket`. -/
structure Inv (packets : List PlainPacket) (bAsync : Nat → Bool) (r : RequestRun) (ms : List CXMessageData)
    (R : List Nat) : Prop where
  conn : Connection.Inv bAsync r.conn
  established : r.conn.nState = .established
  lost : r.conn.lost = []
  tasks : r.conn.recv.tasks = []
  index : r.conn.uiRecvBufferIndex = r.bufs.length
  cut : r.bufs.flatten <+: packets.flatMap PlainPacket.encode
  reads : ∀ b, RecvStage.read b ∈ r.conn.threads →
    ∃ i bytes, b = .received (i + 1) bytes ∧ r.bufs[i]? = some bytes
  received : ∀ i, i ∈ R ↔ 1 ≤ i ∧ i ≤ r.bufs.length ∧
    ∀ b, RecvStage.read b ∈ r.conn.threads → b.nSequenceNum ≠ i
  rets : ∀ iRet, RecvStage.ret iRet ∈ r.conn.threads → iRet = 0
  call : RecvState.CallInv packets r.bufs R ms r.conn.recv (r.conn.threads.filter RecvStage.inside)
  dispatch : DispatchPart r.conn.dispatch ms r.handled

theorem inv_start (packets : List PlainPacket) (bAsync : Nat → Bool) (f g a : Bool) :
    Inv packets bAsync (start f g a) [] [] where
  conn := Connection.Inv.start f g a
  established := rfl
  lost := rfl
  tasks := rfl
  index := rfl
  cut := List.nil_prefix
  reads := nofun
  received i := by simp [start]; omega
  rets := nofun
  call := .outside (RecvState.RecvInv.built packets [] f g a) fun p _ => by
    simp [start, Connection.start, RecvState.built, SeqList.empty, RecvState.contig, PlainPacket.size, headerLen]
  dispatch := ⟨by simp [start, Connection.start, Dispatch.fresh], Dispatch.holds_fresh, nofun, rfl, nofun⟩

theorem DispatchPart.arrive {d : Dispatch} {handled : List (Nat × Nat × List UInt8)} (h : DispatchPart d ms handled)
    (m : CXMessageData) (c : UInt64) :
    DispatchPart { d with
      uiNumberOfReceivedPacketInQueue := c
      queue := d.queue ++ [m]
      arrived := m.iSequenceNum :: d.arrived } (ms ++ [m]) handled where
  arrived k := by
    rw [List.mem_cons, h.arrived]
    constructor
    · rintro (rfl | ⟨a, ha, rfl⟩)
      · exact ⟨m, List.mem_append_right _ (List.mem_singleton_self m), rfl⟩
      · exact ⟨a, List.mem_append_left _ ha, rfl⟩
    · rintro ⟨a, ha, rfl⟩
      rcases List.mem_append.mp ha with ha | ha
      · exact Or.inr ⟨a, ha, rfl⟩
      · exact Or.inl (congrArg _ (List.mem_singleton.mp ha))
  holds := by
    have hmono := h.holds.mono (Q := (· ∈ ms ++ [m])) fun a ha => List.mem_append_left _ ha
    refine ⟨fun a ha hty => ?_, hmono.list, hmono.input, hmono.handler⟩
    rcases List.mem_append.mp ha with ha | ha
    · exact hmono.queue a ha hty
    · exact List.mem_append_right _ ha
  posted k hk := by
    rcases h.posted k hk with hl | ⟨a, ha, hty⟩ | hw
    · exact Or.inl hl
    · exact Or.inr (Or.inl ⟨a, List.mem_append_left _ ha, hty⟩)
    · exact Or.inr (Or.inr hw)
  nums := h.nums
  mem c hc := by
    rw [List.map_append]
    exact List.mem_append_left _ (h.mem c hc)

/-- The environment keeps to its part, so no step meets a defect. -/
theorem Inv.stepOk (h : Inv packets bAsync r ms R) (a : ConnectionAct) : r.conn.stepOk env a = true := by
  cases a with
  | thread i =>
    unfold Connection.stepOk
    dsimp only
    split
    · have hends := h.call.ordered.endSeq
      cases hhead : r.conn.recv.listRead.head with
      | nil => rw [hhead] at hends; simp [hends]
      | cons b l => simp
    · rename_i hd m f ht
      obtain ⟨-, -, j, q, rfl, hm, -⟩ := h.call.of_deliver (List.mem_filter.mpr ⟨List.mem_of_getElem? ht, rfl⟩)
      rw [RecvState.deliver_plain hm]
      simp [Connection.pushOk, h.lost]
    · rfl
  | task i => simp [Connection.stepOk, h.tasks]
  | _ => rfl

/-- Two threads with a buffer in their hands have different buffers. -/
theorem Inv.read_ne {l₁ l₂ : List RecvStage} {b b' : CXBufferObj} (h : Inv packets bAsync r ms R)
    (hsplit : r.conn.threads = l₁ ++ .read b :: l₂) (hb' : RecvStage.read b' ∈ l₁ ++ l₂) :
    b'.nSequenceNum ≠ b.nSequenceNum := by
  have hnd := h.conn.read.list.nodup
  rw [hsplit, List.map_append] at hnd
  have hperm : ((l₁ ++ RecvStage.read b :: l₂).flatMap RecvStage.reads).Perm
      (b :: (l₁ ++ l₂).flatMap RecvStage.reads) := by
    rw [List.flatMap_append, List.flatMap_cons, List.flatMap_append]
    exact List.perm_middle
  have hnd := (hperm.map CXBufferObj.nSequenceNum).nodup_iff.mp (List.nodup_append.mp hnd).2.1
  intro heq
  refine (List.nodup_cons.mp hnd).1 ?_
  rw [← heq]
  exact List.mem_map_of_mem (List.mem_flatMap.mpr ⟨_, hb', List.mem_singleton_self b'⟩)

/-- The numbers that were given to `RecvPacket`, when the thread with the stage `t` is behind `PushReceivedBuffer`. -/
theorem Inv.received_goOn {l₁ l₂ : List RecvStage} {t t' : RecvStage} {R' : List Nat}
    (h : Inv packets bAsync r ms R)
    (hsplit : r.conn.threads = l₁ ++ t :: l₂) (ht' : t'.reads = [])
    (hR' : ∀ k, k ∈ R' ↔ k ∈ R ∨ ∃ b, t = .read b ∧ b.nSequenceNum = k) (k : Nat) :
    k ∈ R' ↔ 1 ≤ k ∧ k ≤ r.bufs.length ∧ ∀ b, RecvStage.read b ∈ l₁ ++ t' :: l₂ → b.nSequenceNum ≠ k := by
  have hmem : ∀ b, RecvStage.read b ∈ l₁ ++ t' :: l₂ ↔ RecvStage.read b ∈ l₁ ++ l₂ := by
    intro b
    rw [List.mem_append, List.mem_append, List.mem_cons]
    refine or_congr_right ⟨fun hb => hb.resolve_left fun heq => ?_, Or.inr⟩
    rw [← heq] at ht'
    cases ht'
  have hold : ∀ b, RecvStage.read b ∈ r.conn.threads ↔ t = .read b ∨ RecvStage.read b ∈ l₁ ++ l₂ := by
    intro b
    rw [hsplit, List.mem_append, List.mem_append, List.mem_cons, eq_comm]
    tauto
  rw [hR' k, h.received k]
  constructor
  · rintro (⟨h1, hle, hne⟩ | ⟨b, rfl, rfl⟩)
    · exact ⟨h1, hle, fun b hb => hne b ((hold b).mpr (Or.inr ((hmem b).mp hb)))⟩
    · obtain ⟨i, bytes, rfl, hi⟩ := h.reads b ((hold b).mpr (Or.inl rfl))
      obtain ⟨hlt, -⟩ := List.getElem?_eq_some_iff.mp hi
      exact ⟨Nat.succ_pos i, hlt, fun b' hb' => h.read_ne hsplit ((hmem b').mp hb')⟩
  · rintro ⟨h1, hle, hne⟩
    by_cases hb : ∃ b, t = .read b ∧ b.nSequenceNum = k
    · exact Or.inr hb
    · refine Or.inl ⟨h1, hle, fun b hmb hbk => ?_⟩
      rcases (hold b).mp hmb with ht | hb'
      · exact hb ⟨b, ht, hbk⟩
      · exact hne b ((hmem b).mpr hb') hbk

theorem Inv.goOn {i : Nat} {t : RecvStage} {q : RecvState × RecvStage} {ms' : List CXMessageData} {R' : List Nat}
    (h : Inv packets bAsync r ms R) (ht : r.conn.threads[i]? = some t)
    (hconn : Connection.Inv bAsync (r.conn.goOn i q))
    (halone : r.conn.threads.filter RecvStage.inside = [t].filter RecvStage.inside)
    (htasks : q.1.tasks = [])
    (hstage : (q.2 = .ret 0 ∧ RecvState.CallInv packets r.bufs R' ms' q.1 []) ∨
      q.2.inside = true ∧ RecvState.CallInv packets r.bufs R' ms' q.1 [q.2])
    (hR' : ∀ k, k ∈ R' ↔ k ∈ R ∨ ∃ b, t = .read b ∧ b.nSequenceNum = k)
    (hdispatch : DispatchPart (r.conn.goOn i q).dispatch ms' r.handled) :
    Inv packets bAsync ⟨r.conn.goOn i q, r.bufs, r.handled⟩ ms' R' := by
  obtain ⟨l₁, l₂, hsplit, hset, -⟩ := exists_split ht
  have hthreads : (r.conn.goOn i q).threads = l₁ ++ q.2 :: l₂ := hset q.2
  have hothers : l₁.filter RecvStage.inside = [] ∧ l₂.filter RecvStage.inside = [] := by
    have hlen := congrArg List.length halone
    rw [hsplit, List.filter_append, ← List.singleton_append, List.filter_append, List.length_append,
      List.length_append] at hlen
    exact ⟨List.eq_nil_of_length_eq_zero (by omega), List.eq_nil_of_length_eq_zero (by omega)⟩
  have hreads : q.2.reads = [] := by
    rcases hstage with ⟨hq, -⟩ | ⟨hq, -⟩
    · rw [hq]
      rfl
    · cases hst : q.2 with
      | read b => rw [hst] at hq; cases hq
      | _ => rfl
  have hfilter : (r.conn.goOn i q).threads.filter RecvStage.inside = [q.2].filter RecvStage.inside := by
    rw [hthreads, List.filter_append, ← List.singleton_append, List.filter_append, hothers.1, hothers.2,
      List.nil_append, List.append_nil]
  have hsame : RecvState.SameList q.1 (r.conn.goOn i q).recv := ⟨rfl, rfl, rfl, rfl, rfl⟩
  have hmem : ∀ t', t' ∈ (r.conn.goOn i q).threads → t' = q.2 ∨ t' ∈ r.conn.threads := by
    intro t' ht'
    rw [hthreads] at ht'
    rw [hsplit]
    rcases List.mem_append.mp ht' with ht' | ht'
    · exact Or.inr (List.mem_append_left _ ht')
    · rcases List.mem_cons.mp ht' with rfl | ht'
      · exact Or.inl rfl
      · exact Or.inr (List.mem_append_right _ (List.mem_cons_of_mem _ ht'))
  exact {
    conn := hconn
    established := h.established
    lost := h.lost
    tasks := htasks
    index := h.index
    cut := h.cut
    reads := fun b hb => by
      rcases hmem _ hb with heq | hb
      · rw [← heq] at hreads
        cases hreads
      · exact h.reads b hb
    received := fun k => by
      show _ ↔ _ ∧ _ ∧ ∀ b, RecvStage.read b ∈ (r.conn.goOn i q).threads → _
      rw [hthreads]
      exact h.received_goOn hsplit hreads hR' k
    rets := fun iRet hm => by
      rcases hmem _ hm with heq | hm
      · rcases hstage with ⟨hq, -⟩ | ⟨hq, -⟩
        · rw [hq] at heq
          cases heq
          rfl
        · rw [← heq] at hq
          cases hq
      · exact h.rets iRet hm
    call := by
      show RecvState.CallInv packets r.bufs R' ms' (r.conn.goOn i q).recv
        ((r.conn.goOn i q).threads.filter RecvStage.inside)
      rw [hfilter]
      refine RecvState.CallInv.congr ?_ hsame fun _ => Iff.rfl
      rcases hstage with ⟨hq, hc⟩ | ⟨hq, hc⟩
      · rw [hq]
        exact hc
      · rw [List.filter_singleton, hq]
        exact hc
    dispatch := hdispatch }

theorem Inv.goOn_scanRound {i : Nat} {t : RecvStage} {s : RecvState} {R' : List Nat} {j : Nat}
    (h : Inv packets bAsync r ms R)
    (hserve : ∀ p ∈ packets, env.Serves p) (ht : r.conn.threads[i]? = some t)
    (hconn : Connection.Inv bAsync (r.conn.goOn i (Connection.scanRound env s s.next)))
    (halone : r.conn.threads.filter RecvStage.inside = [t].filter RecvStage.inside)
    (hs : RecvState.RecvInv packets r.bufs R' j (s.having ms)) (hmes : s.mesQueue = [])
    (hcount : s.uiNumberOfReceivedPacketInQueue = r.conn.recv.uiNumberOfReceivedPacketInQueue) (htasks : s.tasks = [])
    (hR' : ∀ k, k ∈ R' ↔ k ∈ R ∨ ∃ b, t = .read b ∧ b.nSequenceNum = k) :
    Inv packets bAsync ⟨r.conn.goOn i (Connection.scanRound env s s.next), r.bufs, r.handled⟩ ms R' := by
  obtain ⟨q, hq, hm, hk, hc, hstage⟩ := hs.scanRound hserve h.cut
  rw [hq] at hconn ⊢
  refine h.goOn ht hconn halone (hk.trans htasks) hstage hR' ?_
  rw [Connection.goOn_eq (hm.trans hmes) ((hc.trans hcount).trans h.conn.mes.shared)]
  exact h.dispatch

theorem Inv.recvData {bytes : List UInt8} (h : Inv packets bAsync r ms R) {s : Connection}
    (hs : r.conn.recvData bytes = some s) (hconn : Connection.Inv bAsync s)
    (hcut : (r.bufs ++ [bytes]).flatten <+: packets.flatMap PlainPacket.encode) :
    Inv packets bAsync ⟨s, r.bufs ++ [bytes], r.handled⟩ ms R := by
  unfold Connection.recvData at hs
  split at hs <;> cases hs
  have hread : ∀ b,
      RecvStage.read b ∈ r.conn.threads ++ [RecvStage.read (.received (r.conn.uiRecvBufferIndex + 1) bytes)] ↔
      RecvStage.read b ∈ r.conn.threads ∨ b = .received (r.bufs.length + 1) bytes := by
    intro b
    rw [List.mem_append, List.mem_singleton, h.index, RecvStage.read.injEq]
  exact {
    conn := hconn
    established := h.established
    lost := h.lost
    tasks := h.tasks
    index := by
      show r.conn.uiRecvBufferIndex + 1 = (r.bufs ++ [bytes]).length
      rw [List.length_append, h.index]
      rfl
    cut := hcut
    reads := fun b hb => by
      rcases (hread b).mp hb with hb | rfl
      · obtain ⟨i, bytes', hbi, hi⟩ := h.reads b hb
        refine ⟨i, bytes', hbi, ?_⟩
        show (r.bufs ++ [bytes])[i]? = _
        rw [List.getElem?_append_left (List.getElem?_eq_some_iff.mp hi).1, hi]
      · exact ⟨r.bufs.length, bytes, rfl, by simp⟩
    received := fun k => by
      rw [h.received k]
      constructor
      · rintro ⟨h1, hle, hne⟩
        refine ⟨h1, by simp only [List.length_append, List.length_singleton]; omega, fun b hb => ?_⟩
        rcases (hread b).mp hb with hb | rfl
        · exact hne b hb
        · show r.bufs.length + 1 ≠ k
          omega
      · rintro ⟨h1, hle, hne⟩
        have hnew : r.bufs.length + 1 ≠ k := hne _ ((hread _).mpr (Or.inr rfl))
        simp only [List.length_append, List.length_singleton] at hle
        exact ⟨h1, by omega, fun b hb => hne b ((hread b).mpr (Or.inl hb))⟩
    rets := fun iRet hm => by
      rcases List.mem_append.mp hm with hm | hm
      · exact h.rets iRet hm
      · cases List.mem_singleton.mp hm
    call := by
      show RecvState.CallInv packets (r.bufs ++ [bytes]) R ms _
        ((r.conn.threads ++ [RecvStage.read (.received (r.conn.uiRecvBufferIndex + 1) bytes)]).filter RecvStage.inside)
      rw [List.filter_append, show [RecvStage.read (.received (r.conn.uiRecvBufferIndex + 1) bytes)].filter
        RecvStage.inside = [] from rfl, List.append_nil]
      have hcall := h.call.append (fun i hi => ((h.received i).mp hi).2.1) bytes
      exact hcall.congr ⟨rfl, rfl, rfl, rfl, rfl⟩ fun _ => Iff.rfl
    dispatch := h.dispatch }

/-- With no thread inside `RecvPacket`, a thread can push its buffer. -/
theorem Inv.push {i : Nat} {b : CXBufferObj} (h : Inv packets bAsync r ms R)
    (hnone : r.conn.threads.filter RecvStage.inside = []) (ht : r.conn.threads[i]? = some (.read b)) :
    ∃ s j, r.conn.recv.pushReceivedBuffer b = some (s, true) ∧
      RecvState.RecvInv packets r.bufs (b.nSequenceNum :: R) j (s.having ms) ∧ s.mesQueue = r.conn.recv.mesQueue ∧
      s.tasks = r.conn.recv.tasks ∧
      s.uiNumberOfReceivedPacketInQueue = r.conn.recv.uiNumberOfReceivedPacketInQueue := by
  obtain ⟨k, bytes, rfl, hk⟩ := h.reads b (List.mem_of_getElem? ht)
  have hnot : k + 1 ∉ R := fun hin => ((h.received _).mp hin).2.2 _ (List.mem_of_getElem? ht) rfl
  have hcall := h.call
  rw [hnone] at hcall
  cases hcall with
  | @outside j hj hd =>
  obtain ⟨s₁, hpush, h₁⟩ := hj.pushReceivedBuffer hnot hk
  rw [RecvState.pushReceivedBuffer_having] at hpush
  obtain ⟨⟨s, ok⟩, hpush', heq⟩ := Option.map_eq_some_iff.mp hpush
  cases heq
  refine ⟨s, j, hpush', h₁, ?_⟩
  unfold RecvState.pushReceivedBuffer at hpush'
  cases hp : SeqList.push CXBufferObj.nSequenceNum r.conn.recv.listRead (.received (k + 1) bytes) with
  | none => simp [hp] at hpush'
  | some q =>
    obtain ⟨l, ok⟩ := q
    cases ok <;> simp [hp] at hpush'
    rw [← hpush']
    exact ⟨rfl, rfl, rfl⟩

theorem Inv.thread {i : Nat} (h : Inv packets bAsync r ms R) (hserve : ∀ p ∈ packets, env.Serves p) {s : Connection}
    (hs : r.conn.thread env i = some s) (hconn : Connection.Inv bAsync s) (hallow : r.allows packets (.thread i)) :
    ∃ ms' R', Inv packets bAsync ⟨s, r.bufs, r.handled⟩ ms' R' := by
  unfold Connection.thread at hs
  split at hs
  case h_1 => cases hs
  case h_2 b ht =>
    -- the buffer is pushed, and the first round follows
    have hnone : r.conn.threads.filter RecvStage.inside = [] := by
      simp only [allows, ht] at hallow
      refine List.filter_eq_nil_iff.mpr fun t htm => ?_
      simpa using List.all_eq_true.mp hallow t htm
    obtain ⟨s₂, j, hpush, h₂, hmes, htasks, hcount⟩ := h.push hnone ht
    unfold Connection.recvPacket at hs
    rw [if_neg (by simp [h.call.lpServer]), hpush] at hs
    cases hs
    refine ⟨ms, b.nSequenceNum :: R,
      h.goOn_scanRound hserve ht hconn (by rw [hnone]; rfl) h₂ (hmes.trans h.conn.mes.mesQueue)
      hcount (htasks.trans h.tasks) fun a => ?_⟩
    rw [List.mem_cons]
    constructor
    · rintro (rfl | ha)
      · exact Or.inr ⟨_, rfl, rfl⟩
      · exact Or.inl ha
    · rintro (ha | ⟨b, hb, rfl⟩)
      · exact Or.inr ha
      · cases hb
        exact Or.inl rfl
  case h_3 hd m f ht =>
    -- the packet is verified and its message pushed
    obtain ⟨hl, rfl, j, q, rfl, hm, hj⟩ := h.call.of_deliver (List.mem_filter.mpr ⟨List.mem_of_getElem? ht, rfl⟩)
    have hv : RecvState.verifyPacketBodyData (RecvState.headerOf q) m = true := by
      simp only [RecvState.verifyPacketBodyData, RecvState.headerOf, hm.body, decide_true]
    unfold Connection.deliver at hs
    rw [if_neg (by simp [hv]), RecvState.deliver_plain hm] at hs
    cases hs
    have hpushed : RecvState.RecvInv packets r.bufs R (j + 1)
        ((r.conn.recv.pushReceivedMessage m).having (ms ++ [m])) := hj
    refine ⟨ms ++ [m], R, h.goOn ht hconn (by rw [hl]; rfl) h.tasks (Or.inr ⟨rfl, .scan hpushed⟩) (by simp) ?_⟩
    · have hpart := h.dispatch.arrive m (r.conn.recv.uiNumberOfReceivedPacketInQueue + 1)
      unfold Connection.goOn Connection.setRecv
      simp only [RecvState.pushReceivedMessage, h.conn.mes.mesQueue, List.nil_append, List.map_cons, List.map_nil,
        List.cons_append]
      exact hpart
  case h_4 p ht =>
    obtain ⟨hl, rfl, j, hj⟩ := h.call.of_scan (List.mem_filter.mpr ⟨List.mem_of_getElem? ht, rfl⟩)
    obtain ⟨-, hs⟩ := Option.ite_none_left_eq_some.mp hs
    cases hs
    exact ⟨ms, R, h.goOn_scanRound hserve ht hconn (by rw [hl]; rfl) hj h.conn.mes.mesQueue rfl h.tasks (by simp)⟩
  case h_5 iRet ht =>
    obtain rfl := h.rets iRet (List.mem_of_getElem? ht)
    cases hs
    have hret : r.conn.returned i 0 = { r.conn with threads := r.conn.threads.eraseIdx i } := by
      unfold Connection.returned
      rw [if_neg (by simp [h.established])]
    rw [hret] at hconn ⊢
    obtain ⟨l₁, l₂, hsplit, -, herase⟩ := exists_split ht
    have hmem : ∀ t, t ∈ r.conn.threads.eraseIdx i → t ∈ r.conn.threads := fun t hm => List.mem_of_mem_eraseIdx hm
    exact ⟨ms, R, {
      conn := hconn
      established := h.established
      lost := h.lost
      tasks := h.tasks
      index := h.index
      cut := h.cut
      reads := fun b hb => h.reads b (hmem _ hb)
      received := fun k => by
        rw [h.received k]
        refine and_congr_right fun _ => and_congr_right fun _ => forall_congr' fun b => ?_
        refine imp_congr_left ?_
        rw [herase, hsplit]
        simp
      rets := fun iRet hm => h.rets iRet (hmem _ hm)
      call := by
        have hcall := h.call
        rw [hsplit, List.filter_append, List.filter_cons_of_neg (by simp [RecvStage.inside])] at hcall
        show RecvState.CallInv _ _ _ _ _ ((r.conn.threads.eraseIdx i).filter RecvStage.inside)
        rw [herase, List.filter_append]
        exact hcall
      dispatch := h.dispatch }⟩

theorem Inv.setDispatch {d : Dispatch} {handled : List (Nat × Nat × List UInt8)} (h : Inv packets bAsync r ms R)
    (hconn : Connection.Inv bAsync (r.conn.setDispatch d)) (hd : DispatchPart d ms handled) :
    Inv packets bAsync ⟨r.conn.setDispatch d, r.bufs, handled⟩ ms R :=
  { h with
    conn := hconn
    call := h.call.congr ⟨rfl, rfl, rfl, rfl, rfl⟩ fun _ => Iff.rfl
    dispatch := hd }

theorem DispatchPart.post {d d' : Dispatch} {handled : List (Nat × Nat × List UInt8)} {m : CXMessageData}
    (h : DispatchPart d ms handled) (hs : d.post bAsync m = some d') : DispatchPart d' ms handled where
  arrived k := by
    rw [← h.arrived]
    unfold Dispatch.post at hs
    split at hs <;> cases hs
    exact Iff.rfl
  holds := h.holds.post hs
  posted := h.posted.post hs
  nums := by
    rw [h.nums]
    unfold Dispatch.post at hs
    split at hs <;> cases hs
    rfl
  mem := h.mem

theorem DispatchPart.run {d d' : Dispatch} {handled : List (Nat × Nat × List UInt8)} {w : Nat}
    (h : DispatchPart d ms handled) (hc : d.Counted) (hs : d.step bAsync (.run w) = some d') :
    DispatchPart d' ms (handled ++ (d'.worker w).handling.map CXMessageData.content) where
  arrived k := by rw [(hc.run hs).2, h.arrived]
  holds := h.holds.run hs
  posted := h.posted.run hs
  nums := by
    rw [Dispatch.entered_run hs, List.map_append, h.nums, List.map_map]
    rfl
  mem c hcm := by
    rcases List.mem_append.mp hcm with hcm | hcm
    · exact h.mem c hcm
    · obtain ⟨m, hm, rfl⟩ := List.mem_map.mp hcm
      refine List.mem_map_of_mem ((h.holds.run hs).handler w m ?_)
      cases hw : d'.worker w with
      | handler m' =>
        rw [hw] at hm
        rw [List.mem_singleton.mp hm]
      | _ =>
        rw [hw] at hm
        cases hm

theorem Inv.step {a : ConnectionAct} (h : Inv packets bAsync r ms R) (hserve : ∀ p ∈ packets, env.Serves p)
    (hallow : r.allows packets a) (hs : r.step env bAsync a = some r') : ∃ ms' R', Inv packets bAsync r' ms' R' := by
  obtain ⟨s, hstep, rfl⟩ := Option.map_eq_some_iff.mp hs
  clear hs
  have hconn := h.conn.step hstep (h.stepOk a)
  cases a with
  | recvData bytes =>
    have hcut : (r.bufs ++ [bytes]).flatten <+: packets.flatMap PlainPacket.encode :=
      List.isPrefixOf_iff_prefix.mp hallow
    have hinv := h.recvData hstep hconn hcut
    refine ⟨ms, R, ?_⟩
    simpa [receivedBy, handledBy] using hinv
  | thread i =>
    obtain ⟨ms', R', hinv⟩ := h.thread hserve hstep hconn hallow
    refine ⟨ms', R', ?_⟩
    simpa [receivedBy, handledBy] using hinv
  | task i => simp [Connection.step, Connection.task, h.tasks] at hstep
  | close => cases hallow
  | post m =>
    obtain ⟨d, hd, rfl⟩ := Option.map_eq_some_iff.mp hstep
    have hinv := h.setDispatch hconn (h.dispatch.post hd)
    refine ⟨ms, R, ?_⟩
    simpa [receivedBy, handledBy] using hinv
  | run w =>
    obtain ⟨d, hd, rfl⟩ := Option.map_eq_some_iff.mp hstep
    have hinv := h.setDispatch hconn (h.dispatch.run h.conn.mes.counted hd)
    refine ⟨ms, R, ?_⟩
    simpa [receivedBy, handledBy, Connection.setDispatch] using hinv

theorem inv_of_reachable {f g a : Bool} (hserve : ∀ p ∈ packets, env.Serves p)
    (h : Reachable (guarded (fun r a => r.allows packets a) (step env bAsync)) (start f g a) r) :
    ∃ ms R, Inv packets bAsync r ms R := by
  induction h with
  | init => exact ⟨[], [], inv_start packets bAsync f g a⟩
  | step act _ hs ih =>
    obtain ⟨ms, R, hi⟩ := ih
    obtain ⟨hallow, hs⟩ := guarded_eq_some.mp hs
    exact hi.step hserve hallow hs

/-! ### The messages of a stream -/

theorem messagesOf_prefix {ps qs : List PlainPacket} (h : ps <+: qs) : messagesOf ps <+: messagesOf qs := by
  obtain ⟨rest, rfl⟩ := h
  rw [messagesOf, messagesOf, List.mapIdx_append]
  exact List.prefix_append _ _

theorem getElem?_messagesOf (ps : List PlainPacket) (i : Nat) :
    (messagesOf ps)[i]? = ps[i]?.map fun p => (i + 1, p.body.length, p.body) := by
  rw [messagesOf, List.getElem?_mapIdx]

/-- Messages of the stream with the numbers 1 to `n` are its first `n` messages. -/
theorem eq_messagesOf_take {l : List (Nat × Nat × List UInt8)} {ps : List PlainPacket} {n : Nat}
    (hn : l.map Prod.fst = List.range' 1 n) (hm : ∀ c ∈ l, c ∈ messagesOf ps) : l = messagesOf (ps.take n) := by
  have hlen : l.length = n := by simpa using congrArg List.length hn
  refine List.ext_getElem? fun i => ?_
  rw [getElem?_messagesOf]
  by_cases hi : i < n
  · have hil : i < l.length := by omega
    have hnum : l[i].1 = i + 1 := by
      have := List.getElem_map (l := l) Prod.fst (i := i) (h := by simpa using hil)
      rw [← this]
      simp only [hn, List.getElem_range']
      omega
    obtain ⟨k, hk⟩ := List.mem_iff_getElem?.mp (hm _ (List.getElem_mem hil))
    rw [getElem?_messagesOf] at hk
    obtain ⟨p, hp, heq⟩ := Option.map_eq_some_iff.mp hk
    have hki : k = i := by
      rw [← heq] at hnum
      simpa using hnum
    subst hki
    rw [List.getElem?_eq_getElem hil, List.getElem?_take_of_lt hi, hp, ← heq]
    rfl
  · rw [List.getElem?_eq_none (by omega), List.getElem?_eq_none (by rw [List.length_take]; omega)]
    rfl

theorem take_prefix_completeIn : ∀ {ps : List PlainPacket} {j n : Nat}, ((ps.take j).map PlainPacket.size).sum ≤ n →
    ps.take j <+: completeIn ps n
  | [], j, n, _ => by simp
  | p :: ps, 0, n, _ => by simp
  | p :: ps, j + 1, n, h => by
    rw [List.take_succ_cons, List.map_cons, List.sum_cons] at h
    rw [List.take_succ_cons, completeIn, if_pos (by omega)]
    exact (List.prefix_cons_inj p).mpr (take_prefix_completeIn (by omega))

/-! ### The results -/

theorem Inv.handled_eq (h : Inv packets bAsync r ms R) {ps : List PlainPacket}
    (hms : ms.map CXMessageData.content <+: messagesOf ps) : ∃ n, r.handled = messagesOf (ps.take n) ∧
      r.handled.map Prod.fst = List.range' 1 n ∧
      (r.conn.dispatch.Settled → n = r.conn.dispatch.uiLastProcessedMessageSequenceNum) := by
  obtain ⟨place, tok, hd⟩ := h.conn.mes.dispatch
  have hmem : ∀ c ∈ r.handled, c ∈ messagesOf ps := fun c hc => hms.subset (h.dispatch.mem c hc)
  have hlog := hd.numbers.log
  have hnums := h.dispatch.nums
  rw [hlog, List.filterMap_append, Dispatch.filterMap_entered_runLog] at hnums
  by_cases hopen : (place (r.conn.dispatch.uiLastProcessedMessageSequenceNum + 1)).isOpen = true
  · rw [if_pos hopen] at hnums
    have hnums' : r.handled.map Prod.fst = List.range' 1 (r.conn.dispatch.uiLastProcessedMessageSequenceNum + 1) := by
      rw [hnums, List.range'_1_concat, Nat.add_comm 1]
      rfl
    refine ⟨_, eq_messagesOf_take hnums' hmem, hnums', fun hset => ?_⟩
    rw [(hd.log_of_settled hset).2] at hopen
    cases hopen
  · rw [if_neg hopen, List.filterMap_nil, List.append_nil] at hnums
    exact ⟨_, eq_messagesOf_take hnums hmem, hnums, fun _ => rfl⟩

/-- With no thread in a receive call the messages of all complete packets were pushed. -/
theorem Inv.content_of_rest (h : Inv packets bAsync r ms R) (ht : r.conn.threads = []) :
    ms.map CXMessageData.content = messagesOf (completeIn packets r.bufs.flatten.length) := by
  have hcall := h.call
  rw [ht, List.filter_nil] at hcall
  cases hcall with
  | @outside j hj hd =>
  obtain ⟨n, hn, hnR⟩ := hj.delivered_append_contig
  -- every buffer was received, so the bytes in sequence reach to the end
  have hall : r.bufs.length ≤ n := by
    by_contra hlt
    exact hnR ((h.received _).mpr ⟨Nat.succ_pos n, by omega, by simp [ht]⟩)
  rw [List.take_of_length_le hall] at hn
  refine hj.content.trans (congrArg messagesOf (completeIn_append (List.take_append_drop j packets).symm ?_ hd).symm)
  rw [← hn, List.length_append, List.length_flatMap]
  simp only [PlainPacket.length_encode]
  rfl

/-- No handler was called with a packet whose last byte has not been received. -/
theorem Inv.handled_prefix (h : Inv packets bAsync r ms R) :
    r.handled <+: messagesOf (completeIn packets r.bufs.flatten.length) := by
  obtain ⟨j, -, hms, hsize⟩ := h.call.content
  obtain ⟨n, hn, -⟩ := h.handled_eq hms
  rw [hn]
  exact messagesOf_prefix ((List.take_prefix n _).trans (take_prefix_completeIn hsize))

theorem Inv.handled_of_rest (h : Inv packets bAsync r ms R) (hr : r.conn.AtRest) :
    r.handled = messagesOf (completeIn packets r.bufs.flatten.length) := by
  have hcontent := h.content_of_rest hr.threads
  have hpre : ms.map CXMessageData.content <+: messagesOf (completeIn packets r.bufs.flatten.length) :=
    hcontent ▸ List.prefix_rfl
  obtain ⟨n, hn, -, hlast⟩ := h.handled_eq hpre
  rw [hn, List.take_of_length_le]
  -- the message after the last one that was handled has not been pushed
  by_contra hlt
  obtain ⟨place, tok, hd⟩ := h.conn.mes.dispatch
  refine hd.next_not_arrived hr.settled hr.workers hr.queue ((h.dispatch.arrived _).mpr ?_)
  rw [← hlast hr.settled]
  have hget := getElem?_messagesOf (completeIn packets r.bufs.flatten.length) n
  have hsome : (completeIn packets r.bufs.flatten.length)[n]? = some _ := List.getElem?_eq_getElem (by omega)
  rw [← hcontent, List.getElem?_map, hsome] at hget
  obtain ⟨m, hm, hmc⟩ := Option.map_eq_some_iff.mp hget
  exact ⟨m, List.mem_of_getElem? hm, congrArg Prod.fst hmc⟩

/-- Two packets; the second buffer begins inside the first packet. -/
def twoPackets : List PlainPacket := [⟨[], 0⟩, ⟨[7], 1⟩]

def twoBufs : List (List UInt8) :=
  [(twoPackets.flatMap PlainPacket.encode).take 14, (twoPackets.flatMap PlainPacket.encode).drop 14]

theorem serves_twoPackets : ∀ p ∈ twoPackets, RecvState.undecryptableEnv.Serves p := by
  intro p hp n
  have hlen : messageDataLen + p.body.length ≤ 128 := by
    simp only [twoPackets, List.mem_cons, List.not_mem_nil, or_false] at hp
    rcases hp with rfl | rfl <;> simp [messageDataLen]
  refine ⟨List.replicate 128 0, if_pos ?_, by rwa [List.length_replicate]⟩
  have : 128 ≤ cxMaxCacheSize := by decide
  omega

/-- Both buffers are received before the first thread runs, which is the one of the second buffer. Two threads
process the messages, the second message first; its end is posted at the end. -/
def twoBufsRun : List ConnectionAct :=
  twoBufs.map .recvData ++ [.thread 1, .thread 1] ++ List.replicate 6 (.thread 0) ++
    [.run 0, .run 1, .run 1, .run 1] ++ List.replicate 6 (.run 0)

theorem isFreed_next (s : RecvState) : Connection.isFreed s s.next = false := by
  unfold Connection.isFreed RecvState.next
  cases s.listRead.head <;> simp

/-- With all threads idle at an empty queue, a handler without an end is asynchronous and its end can be posted. -/
theorem Inv.exists_post (h : Inv packets bAsync r ms R) (hidle : ∀ w, r.conn.dispatch.worker w = .idle)
    (hq : r.conn.dispatch.queue = []) (hset : ¬ r.conn.dispatch.Settled) :
    ∃ k, bAsync k ∧ DispatchEvent.entered k ∈ r.conn.dispatch.log ∧ k ∉ r.conn.dispatch.posted := by
  unfold Dispatch.Settled at hset
  push Not at hset
  obtain ⟨k, hent, hcomp⟩ := hset
  obtain ⟨place, tok, hd⟩ := h.conn.mes.dispatch
  have hlog := hd.numbers.log
  have hopen : (place (r.conn.dispatch.uiLastProcessedMessageSequenceNum + 1)).isOpen = true := by
    by_contra hclosed
    rw [if_neg hclosed, List.append_nil] at hlog
    rw [hlog, Dispatch.entered_mem_runLog] at hent
    rw [hlog, Dispatch.completed_mem_runLog] at hcomp
    exact hcomp hent
  have hk : k = r.conn.dispatch.uiLastProcessedMessageSequenceNum + 1 := by
    rw [if_pos hopen] at hlog
    rw [hlog] at hent hcomp
    rcases List.mem_append.mp hent with hent | hent
    · have hdone := Dispatch.completed_mem_runLog.mpr (Dispatch.entered_mem_runLog.mp hent)
      exact absurd (List.mem_append_left _ hdone) hcomp
    · simpa using hent
  refine ⟨k, ?_, hent, fun hpost => ?_⟩
  · -- no handler runs
    cases hp : place k with
    | async => exact hd.numbers.async k hp
    | handler w =>
      obtain ⟨m, hw, -⟩ := hd.workers.handlerOf k w hp
      rw [hidle w] at hw
      cases hw
    | _ => rw [← hk, hp] at hopen; cases hopen
  · rcases h.dispatch.posted k hpost with hl | ⟨m, hm, -⟩ | ⟨w, m, hw, -⟩
    · exact hcomp hl
    · rw [hq] at hm
      cases hm
    · rw [hidle w] at hw
      cases hw

/-- Before a run is at rest, some thread can go on or the end of an asynchronous message be posted. -/
theorem atRest_or_exists_step {f g a : Bool} (hserve : ∀ p ∈ packets, env.Serves p)
    (h : Reachable (guarded (fun r a => r.allows packets a) (step env bAsync)) (start f g a) r) :
    r.conn.AtRest ∨ ∃ act r', (∀ bytes, act ≠ .recvData bytes) ∧
      guarded (fun r a => r.allows packets a) (step env bAsync) r act = some r' := by
  obtain ⟨ms, R, hi⟩ := inv_of_reachable hserve h
  have hgo : ∀ act : ConnectionAct, (∀ bytes, act ≠ .recvData bytes) → r.allows packets act = true →
      (∃ s, r.conn.step env bAsync act = some s) → ∃ act r', (∀ bytes, act ≠ .recvData bytes) ∧
        guarded (fun r a => r.allows packets a) (step env bAsync) r act = some r' := by
    intro act hne hallow hstep
    obtain ⟨s, hs⟩ := hstep
    exact ⟨act, _, hne, guarded_eq_some.mpr ⟨hallow, by rw [step, hs]; rfl⟩⟩
  by_cases hinside : r.conn.threads.filter RecvStage.inside = []
  · cases hthreads : r.conn.threads with
    | cons t l =>
      -- the first thread is not inside `RecvPacket`
      have ht : r.conn.threads[0]? = some t := by rw [hthreads]; rfl
      cases t with
      | read b =>
        obtain ⟨s, j, hpush, -⟩ := hi.push hinside ht
        refine Or.inr (hgo (.thread 0) (by simp) ?_ ?_)
        · simp only [allows, ht]
          rw [List.filter_eq_nil_iff] at hinside
          exact List.all_eq_true.mpr fun t' ht' => by simpa using hinside t' ht'
        · simp only [Connection.step, Connection.thread, ht, Connection.recvPacket, hi.call.lpServer, hpush]
          exact ⟨_, rfl⟩
      | ret iRet =>
        refine Or.inr (hgo (.thread 0) (by simp) (by simp [allows, ht]) ?_)
        simp only [Connection.step, Connection.thread, ht]
        exact ⟨_, rfl⟩
      | _ => rw [hthreads, List.filter_cons_of_pos rfl] at hinside; cases hinside
    | nil =>
      by_cases hbusy : (∃ w, r.conn.dispatch.worker w ≠ .idle) ∨ r.conn.dispatch.queue ≠ []
      · obtain ⟨w, d, hd⟩ := Dispatch.Inv.exists_run hi.conn.mes.dispatch hbusy
        exact Or.inr (hgo (.run w) (by simp) rfl (by simp only [Connection.step, hd]; exact ⟨_, rfl⟩))
      · obtain ⟨hidle, hq⟩ := not_or.mp hbusy
        rw [not_exists] at hidle
        have hidle : ∀ w, r.conn.dispatch.worker w = .idle := fun w => not_not.mp (hidle w)
        have hq : r.conn.dispatch.queue = [] := not_not.mp hq
        by_cases hset : r.conn.dispatch.Settled
        · exact Or.inl ⟨hthreads, hi.tasks, hq, hidle, hset⟩
        · obtain ⟨k, hk⟩ := hi.exists_post hidle hq hset
          refine Or.inr (hgo (.post ⟨0, 1, 0, k, []⟩) (by simp) rfl ?_)
          simp only [Connection.step, Dispatch.post, if_pos hk]
          exact ⟨_, rfl⟩
  · obtain ⟨t, hmem⟩ := List.exists_mem_of_ne_nil _ hinside
    obtain ⟨htm, hin⟩ := List.mem_filter.mp hmem
    obtain ⟨i, ht⟩ := List.mem_iff_getElem?.mp htm
    cases t with
    | read b => cases hin
    | ret iRet => cases hin
    | deliver hd m f =>
      obtain ⟨-, -, j, q, rfl, hm, -⟩ := hi.call.of_deliver hmem
      have hv : RecvState.verifyPacketBodyData (RecvState.headerOf q) m = true := by
        simp only [RecvState.verifyPacketBodyData, RecvState.headerOf, hm.body, decide_true]
      refine Or.inr (hgo (.thread i) (by simp) (by simp [allows, ht]) ?_)
      simp only [Connection.step, Connection.thread, ht, Connection.deliver, hv, RecvState.deliver_plain hm]
      exact ⟨_, rfl⟩
    | scan f =>
      obtain ⟨-, rfl, -⟩ := hi.call.of_scan hmem
      refine Or.inr (hgo (.thread i) (by simp) (by simp [allows, ht]) ?_)
      simp only [Connection.step, Connection.thread, ht, isFreed_next]
      exact ⟨_, rfl⟩

end RequestRun

end KonsanNet
