import Mathlib.Tactic
import KonsanNet.Close
import KonsanNet.RecvBytes

/-!
# A closing connection that is at rest has no work left

The invariant has two halves. `ReadInv` speaks about the read list and the buffers on their way to it, `MesInv`
about the numbered packets: each number is with a thread, with a task, lost, or has arrived in the message queue.
A step is the change of one thread and what `recv` does: `Quiet` steps change only its records, `Pushed` ones
push one message.
-/

namespace KonsanNet

namespace Dispatch

variable {bAsync : Nat → Bool} {s s' : Dispatch}

/-- What has arrived and is not complete is counted. -/
def Counted (s : Dispatch) : Prop :=
  s.uiNumberOfReceivedPacketInQueue + UInt64.ofNat s.uiLastProcessedMessageSequenceNum =
    UInt64.ofNat s.arrived.length

theorem Counted.complete (h : Counted s) (m : CXMessageData) : Counted (s.complete m) := by
  unfold Counted at h ⊢
  show s.uiNumberOfReceivedPacketInQueue - 1 + UInt64.ofNat (s.uiLastProcessedMessageSequenceNum + 1) =
    UInt64.ofNat s.arrived.length
  rw [UInt64.ofNat_add, ← h]
  grind

theorem Counted.arrive {m : CXMessageData} (h : Counted s) (hs : s.arrive m = some s') : Counted s' := by
  unfold Dispatch.arrive at hs
  split at hs <;> cases hs
  unfold Counted at h ⊢
  dsimp only
  rw [List.length_cons, UInt64.ofNat_add, ← h]
  grind

theorem Counted.run {w : Nat} (h : Counted s) (hs : s.step bAsync (.run w) = some s') :
    Counted s' ∧ s'.arrived = s.arrived := by
  simp only [step] at hs
  split at hs
  · unfold getMessage at hs
    split at hs <;> cases hs
    exact ⟨h, rfl⟩
  · unfold inputMessage at hs
    split at hs
    case isFalse => cases hs
    obtain ⟨⟨s₁, ok⟩, hpush, rfl⟩ := Option.map_eq_some_iff.mp hs
    obtain ⟨r, -, heq⟩ := Option.map_eq_some_iff.mp hpush
    cases heq
    split <;> exact ⟨h, rfl⟩
  · unfold processAsyncMessageEnd at hs
    split at hs <;> cases hs
    exact ⟨Counted.complete h ‹CXMessageData›, rfl⟩
  · unfold resumeLoop at hs
    split at hs
    · split at hs <;> cases hs <;> exact ⟨h, rfl⟩
    · cases hs
  · unfold testLoop at hs
    split at hs
    · cases hs
    · split at hs <;> cases hs <;> exact ⟨h, rfl⟩
  · cases hs
    unfold endHandler
    split
    · exact ⟨h, rfl⟩
    · exact ⟨Counted.complete (s := s.popHead) h ‹CXMessageData›, rfl⟩

theorem Counted.post {m : CXMessageData} (h : Counted s) (hs : s.post bAsync m = some s') :
    Counted s' ∧ s'.arrived = s.arrived := by
  unfold Dispatch.post at hs
  split at hs <;> cases hs
  exact ⟨h, rfl⟩

/-- At rest every message is complete, if those that have arrived have no predecessor that has not. -/
theorem Inv.counter_of_rest (h : Inv bAsync s) (hc : Counted s) (hset : Settled s)
    (hidle : ∀ w, s.worker w = .idle) (hq : s.queue = []) (hnd : s.arrived.Nodup)
    (hdown : ∀ k ∈ s.arrived, 1 ≤ k ∧ ∀ j, 1 ≤ j → j ≤ k → j ∈ s.arrived) :
    s.uiNumberOfReceivedPacketInQueue = 0 := by
  obtain ⟨place, tok, h⟩ := h
  have hnext := h.next_not_arrived hset hidle hq
  have hmem : ∀ k, k ∈ s.arrived ↔ 1 ≤ k ∧ k ≤ s.uiLastProcessedMessageSequenceNum := by
    intro k
    constructor
    · intro hk
      refine ⟨(hdown k hk).1, ?_⟩
      by_contra hlt
      exact hnext ((hdown k hk).2 _ (by omega) (by omega))
    · intro hk
      have hdone := (h.numbers.done k).mpr hk
      by_contra hnot
      have := (h.numbers.out k).mpr (.inr hnot)
      rw [this] at hdone
      cases hdone
  have hperm : s.arrived.Perm (List.range' 1 s.uiLastProcessedMessageSequenceNum) := by
    refine (List.perm_ext_iff_of_nodup hnd (List.nodup_range' 1)).mpr fun k => ?_
    rw [hmem, List.mem_range'_1]
    omega
  have hlen : s.arrived.length = s.uiLastProcessedMessageSequenceNum := by
    rw [hperm.length_eq, List.length_range']
  unfold Counted at hc
  rw [hlen] at hc
  grind

end Dispatch

/-! ### The invariant -/

/-- The buffers that `RecvData` has returned and that have not been pushed. -/
def RecvStage.reads : RecvStage → List CXBufferObj
  | .read b => [b]
  | .deliver .. | .scan _ | .ret _ => []

/-- The number of the packet that the thread delivers. -/
def RecvStage.pending : RecvStage → List Nat
  | .deliver _ m _ => [m.iSequenceNum]
  | .read _ | .scan _ | .ret _ => []

def RecvStage.TypeOk : RecvStage → Prop
  | .deliver _ m _ => m.dwType = 1
  | .read _ | .scan _ | .ret _ => True

namespace Connection

/-- The numbered packets on their way to the message queue. -/
def pending (s : Connection) : List Nat :=
  s.threads.flatMap RecvStage.pending ++ s.recv.tasks.map fun t => t.1.iSequenceNum

/-- The read list and its counters, for the buffers `reads` on their way to it. -/
structure ReadOk (r : RecvState) (reads : List CXBufferObj) (idx : Nat) : Prop where
  ordered : r.listRead.Ordered CXBufferObj.nSequenceNum ∨ r.listRead.head = []
  nodup : ((r.listRead.head ++ reads).map CXBufferObj.nSequenceNum).Nodup
  le : ∀ k ∈ (r.listRead.head ++ reads).map CXBufferObj.nSequenceNum, k ≤ idx
  inList : r.uiNumberOfReceivedBufferInList = UInt64.ofNat r.listRead.head.length
  posted : r.uiPostedRecvBuffers = UInt64.ofNat reads.length
  server : r.lpServer = true

structure ReadInv (s : Connection) : Prop where
  list : ReadOk s.recv (s.threads.flatMap RecvStage.reads) s.uiRecvBufferIndex
  sent : s.uiPostedSentBuffers = 0
  /-- Whoever has pushed a buffer onto the list of a closing connection will close it. -/
  willClose : s.nState = .closing → s.recv.listRead.head ≠ [] → ∃ t ∈ s.threads, RecvStage.reads t = []
  released : s.released = if s.nState = .closed then 1 else 0

structure MesInv (bAsync : Nat → Bool) (s : Connection) : Prop where
  dispatch : Dispatch.Inv bAsync s.dispatch
  counted : s.dispatch.Counted
  shared : s.recv.uiNumberOfReceivedPacketInQueue = s.dispatch.uiNumberOfReceivedPacketInQueue
  mesQueue : s.recv.mesQueue = []
  numbers : (s.dispatch.arrived ++ (s.pending ++ s.lost)).Perm (List.range' 1 s.recv.iLastUnpackedMessageSequenceNum)
  before : ∀ k ∈ s.lost, ∀ j ∈ s.dispatch.arrived, j < k
  threadType : ∀ t ∈ s.threads, RecvStage.TypeOk t
  taskType : ∀ t ∈ s.recv.tasks, t.1.dwType = 1

structure Inv (bAsync : Nat → Bool) (s : Connection) : Prop where
  read : ReadInv s
  mes : MesInv bAsync s

variable {env : RecvEnv} {bAsync : Nat → Bool} {s s' : Connection}

theorem Inv.start (f g a : Bool) : Inv bAsync (start f g a) := by
  refine ⟨⟨?_, rfl, ?_, rfl⟩, ?_⟩
  · constructor <;> simp [Connection.start, RecvState.built, SeqList.empty]
  · simp [Connection.start]
  · refine ⟨Dispatch.inv_fresh, rfl, rfl, rfl, ?_, ?_, ?_, ?_⟩ <;>
      simp [Connection.start, RecvState.built, Dispatch.fresh, pending]

/-- At rest, a closing connection has nothing to wait for. -/
theorem Inv.noWorkLeft (h : Inv bAsync s) (hst : s.nState = .closing) (hr : s.AtRest) : s.noWorkLeft = true := by
  have hlist : s.recv.listRead.head = [] := by
    by_contra hne
    obtain ⟨t, ht, -⟩ := h.read.willClose hst hne
    rw [hr.threads] at ht
    cases ht
  have hpend : s.pending = [] := by simp [pending, hr.threads, hr.tasks]
  have hperm := h.mes.numbers
  rw [hpend, List.nil_append] at hperm
  have hnd := hperm.nodup_iff.mpr (List.nodup_range' 1)
  have hqueue : s.dispatch.uiNumberOfReceivedPacketInQueue = 0 := by
    refine h.mes.dispatch.counter_of_rest h.mes.counted hr.settled hr.workers hr.queue
      (List.nodup_append.mp hnd).1 fun k hk => ?_
    have hk' := List.mem_range'_1.mp (hperm.mem_iff.mp (List.mem_append_left _ hk))
    refine ⟨hk'.1, fun j hj hjk => ?_⟩
    -- a lost number would be larger than `k`
    have hj' := hperm.mem_iff.mpr (List.mem_range'_1.mpr ⟨hj, by omega⟩)
    rcases List.mem_append.mp hj' with hj' | hj'
    · exact hj'
    · have := h.mes.before j hj' k hk
      omega
  simp [Connection.noWorkLeft, h.read.list.inList, hlist, h.read.sent, h.read.list.posted, hr.threads, hqueue]

/-! ### The read list -/

section ReadOk

variable {r r' : RecvState} {reads reads' : List CXBufferObj} {idx : Nat} {b : CXBufferObj}

/-- Nothing but the messages, the tasks and the records differ. -/
def SameRead (r r' : RecvState) : Prop :=
  r' = { r with
    mesQueue := r'.mesQueue
    uiNumberOfReceivedPacketInQueue := r'.uiNumberOfReceivedPacketInQueue
    tasks := r'.tasks
    events := r'.events
    calls := r'.calls
    overrun := r'.overrun }

theorem sameRead_of_tasks {tasks : List (CXMessageData × CXPacketHeader)}
    (hq : ({ r with tasks := tasks } : RecvState).Quiet r') : SameRead r r' := by
  unfold RecvState.Quiet at hq
  rw [hq]
  rfl

theorem sameRead_of_quiet (hq : r.Quiet r') : SameRead r r' :=
  sameRead_of_tasks hq

theorem sameRead_of_pushed {n : Nat} (hp : r.Pushed r' n) : SameRead r r' := by
  obtain ⟨r₁, m, hq, -, -, rfl⟩ := hp
  unfold RecvState.Quiet at hq
  rw [hq]
  rfl

theorem SameRead.last (h : SameRead r r') :
    r'.iLastUnpackedMessageSequenceNum = r.iLastUnpackedMessageSequenceNum := by
  unfold SameRead at h
  rw [h]

theorem ReadOk.same (h : ReadOk r reads idx) (hq : SameRead r r') : ReadOk r' reads idx := by
  unfold SameRead at hq
  rw [hq]
  exact ⟨h.ordered, h.nodup, h.le, h.inList, h.posted, h.server⟩

theorem ReadOk.perm (h : ReadOk r reads idx) (hp : reads.Perm reads') : ReadOk r reads' idx where
  ordered := h.ordered
  nodup := (((hp.append_left _).map _).nodup_iff).mp h.nodup
  le k hk := h.le k (((hp.append_left _).map _).mem_iff.mpr hk)
  inList := h.inList
  posted := by rw [h.posted, hp.length_eq]
  server := h.server

theorem ReadOk.recvData {bytes : List UInt8} (h : ReadOk r reads idx) :
    ReadOk { r with uiPostedRecvBuffers := r.uiPostedRecvBuffers + 1 } (.received (idx + 1) bytes :: reads) (idx + 1) where
  ordered := h.ordered
  nodup := by
    have hperm : (r.listRead.head ++ CXBufferObj.received (idx + 1) bytes :: reads).Perm
        (CXBufferObj.received (idx + 1) bytes :: (r.listRead.head ++ reads)) := List.perm_middle
    rw [(hperm.map _).nodup_iff, List.map_cons, List.nodup_cons]
    refine ⟨fun hmem => ?_, h.nodup⟩
    have := h.le _ hmem
    simp only [CXBufferObj.received] at this
    omega
  le k hk := by
    have hperm : (r.listRead.head ++ CXBufferObj.received (idx + 1) bytes :: reads).Perm
        (CXBufferObj.received (idx + 1) bytes :: (r.listRead.head ++ reads)) := List.perm_middle
    rcases List.mem_cons.mp ((hperm.map CXBufferObj.nSequenceNum).mem_iff.mp hk) with rfl | hk
    · exact le_rfl
    · exact Nat.le_succ_of_le (h.le k hk)
  inList := h.inList
  posted := by
    rw [List.length_cons, UInt64.ofNat_add, ← h.posted]
    rfl
  server := h.server

theorem ReadOk.push (h : ReadOk r (b :: reads) idx) (hends : r.listRead.head ≠ [] ∨ r.listRead.endSeq = none) :
    ∃ r', r.pushReceivedBuffer b = some (r', true) ∧ ReadOk r' reads idx ∧
      r' = { r with
        listRead := r'.listRead
        uiNumberOfReceivedBufferInList := r.uiNumberOfReceivedBufferInList + 1
        uiPostedRecvBuffers := r.uiPostedRecvBuffers - 1 } := by
  have hord : r.listRead.Ordered CXBufferObj.nSequenceNum := by
    rcases h.ordered with ho | hnil
    · exact ho
    · have hend := hends.resolve_left (by simp [hnil])
      exact ⟨by simp [hnil], by simp [hnil, hend]⟩
  have hmid : (r.listRead.head ++ b :: reads).Perm (b :: r.listRead.head ++ reads) := List.perm_middle
  have hnd := (hmid.map CXBufferObj.nSequenceNum).nodup_iff.mp h.nodup
  have hne : ∀ a ∈ r.listRead.head, a.nSequenceNum ≠ b.nSequenceNum := by
    intro a ha heq
    refine (List.nodup_cons.mp hnd).1 ?_
    rw [← heq]
    exact List.mem_map_of_mem (List.mem_append_left _ ha)
  obtain ⟨l, hpush, hl, hperm⟩ := hord.push hne
  refine ⟨{ r with
    listRead := l
    uiNumberOfReceivedBufferInList := r.uiNumberOfReceivedBufferInList + 1
    uiPostedRecvBuffers := r.uiPostedRecvBuffers - 1 }, ?_, ⟨Or.inl hl, ?_, ?_, ?_, ?_, h.server⟩, rfl⟩
  · simp [RecvState.pushReceivedBuffer, hpush]
  · exact ((hmid.trans (hperm.symm.append_right reads)).map _).nodup_iff.mp h.nodup
  · exact fun k hk => h.le k (((hmid.trans (hperm.symm.append_right reads)).map _).mem_iff.mpr hk)
  · rw [hperm.length_eq, List.length_cons, UInt64.ofNat_add, ← h.inList]
    rfl
  · show r.uiPostedRecvBuffers - 1 = _
    rw [h.posted, List.length_cons, UInt64.ofNat_add]
    grind

theorem ReadOk.takePacket {hd : CXPacketHeader} {freed : Nat} {left : List CXBufferObj} {pre : List Nat}
    (h : ReadOk r reads idx)
    (hl : r.listRead.head.map CXBufferObj.nSequenceNum = pre ++ left.map CXBufferObj.nSequenceNum)
    (hf : freed = pre.length) : ReadOk (r.takePacket hd freed left) reads idx := by
  have hlen : r.listRead.head.length = pre.length + left.length := by
    have := congrArg List.length hl
    simpa using this
  have hsub : ((left ++ reads).map CXBufferObj.nSequenceNum).Sublist
      ((r.listRead.head ++ reads).map CXBufferObj.nSequenceNum) := by
    rw [List.map_append, List.map_append, hl, List.append_assoc]
    exact List.sublist_append_right _ _
  refine ⟨?_, h.nodup.sublist hsub, fun k hk => h.le k (hsub.subset hk), ?_, h.posted, h.server⟩
  · rcases h.ordered with ho | hnil
    · have hsplit : r.listRead.head = r.listRead.head.take pre.length ++ r.listRead.head.drop pre.length :=
        (List.take_append_drop _ _).symm
      have hdrop : (r.listRead.head.drop pre.length).map CXBufferObj.nSequenceNum =
          left.map CXBufferObj.nSequenceNum := by
        rw [List.map_drop, hl, List.drop_left]
      have hsuf : SeqList.Ordered CXBufferObj.nSequenceNum ⟨r.listRead.head.drop pre.length,
          if (r.listRead.head.drop pre.length).isEmpty then none else r.listRead.endSeq⟩ := by
        refine SeqList.Ordered.suffix (p := r.listRead.head.take pre.length) ?_
        rw [← hsplit]
        exact ho
      refine Or.inl (hsuf.of_map_eq hdrop.symm ?_)
      have hemp : left.isEmpty = (r.listRead.head.drop pre.length).isEmpty := by
        rw [← List.isEmpty_map (f := CXBufferObj.nSequenceNum), ← hdrop, List.isEmpty_map]
      simp only [RecvState.takePacket, hemp]
    · rw [hnil] at hlen
      exact Or.inr (List.eq_nil_of_length_eq_zero (by simp only [RecvState.takePacket]; simp at hlen; omega))
  · show r.uiNumberOfReceivedBufferInList - UInt64.ofNat freed = UInt64.ofNat left.length
    rw [h.inList, hlen, hf, UInt64.ofNat_add]
    grind

theorem ReadOk.close (h : ReadOk r reads idx) : ReadOk { r with
    listRead := ⟨[], r.listRead.endSeq⟩
    uiNumberOfReceivedBufferInList := 0 } reads idx where
  ordered := Or.inr rfl
  nodup := by
    have := h.nodup
    rw [List.map_append] at this
    exact (List.nodup_append.mp this).2.1
  le k hk := h.le k (by rw [List.map_append]; exact List.mem_append_right _ hk)
  inList := rfl
  posted := h.posted
  server := h.server

end ReadOk

/-! ### The rounds of `RecvPacket` -/

theorem scanRound_cases (env : RecvEnv) (r : RecvState) (pCurBuf : Option Nat) :
    (∃ r' iRet, scanRound env r pCurBuf = (r', .ret iRet) ∧ r.Quiet r') ∨
      ∃ r₁ hd m f freed left pre, scanRound env r pCurBuf = (r₁.takePacket hd freed left, .deliver hd m f) ∧
        r.Quiet r₁ ∧ m.iSequenceNum = r.iLastUnpackedMessageSequenceNum + 1 ∧ m.dwType = 1 ∧
        r.listRead.head.map CXBufferObj.nSequenceNum = pre ++ left.map CXBufferObj.nSequenceNum ∧
        freed = pre.length := by
  cases pCurBuf with
  | none => exact Or.inl ⟨_, _, rfl, RecvState.Quiet.refl r⟩
  | some p =>
    obtain ⟨r₁, e, hs, hq, hl⟩ := RecvState.scan_leaves env (r.listRead.head.dropWhile fun b => b.nSequenceNum ≠ p) 0
      (.start r.uiLastProcessBufferIndex) r (by simp [RecvState.Cursor.start])
    unfold scanRound
    dsimp only
    rw [hs]
    cases e with
    | drained m => exact Or.inl ⟨_, _, rfl, hq.trans (RecvState.quiet_freeMessage _ _)⟩
    | errorPacket m => exact Or.inl ⟨_, _, rfl, hq.trans (RecvState.quiet_freeMessage _ _)⟩
    | noBuffer => exact Or.inl ⟨_, _, rfl, hq⟩
    | packet hd m freed left =>
      obtain ⟨hm, pre, hleft, hf⟩ := hl
      have hlast := congrArg RecvState.iLastUnpackedMessageSequenceNum hq
      obtain ⟨front, hfront⟩ : ∃ front, front = r.listRead.head.takeWhile fun b => b.nSequenceNum ≠ p := ⟨_, rfl⟩
      refine Or.inr ⟨r₁, hd, _, _, _, left, front.map CXBufferObj.nSequenceNum ++ pre, rfl, hq, ?_, hm, ?_, ?_⟩
      · exact congrArg (· + 1) hlast
      · rw [List.append_assoc, ← hleft, ← List.map_append, hfront, List.takeWhile_append_dropWhile]
      · rw [List.length_append, List.length_map, ← hfront]
        omega

theorem ReadOk.scanRound {r : RecvState} {reads : List CXBufferObj} {idx : Nat} (h : ReadOk r reads idx)
    (p : Option Nat) : ReadOk (scanRound env r p).1 reads idx ∧ (scanRound env r p).2.reads = [] := by
  rcases scanRound_cases env r p with ⟨r', iRet, heq, hq⟩ | ⟨r₁, hd, m, f, freed, left, pre, heq, hq, -, -, hl, hf⟩
  · rw [heq]
    exact ⟨h.same (sameRead_of_quiet hq), rfl⟩
  · rw [heq]
    have hlist := congrArg (fun r => r.listRead.head) hq
    refine ⟨(h.same (sameRead_of_quiet hq)).takePacket ?_ hf, rfl⟩
    rw [← hl]
    exact congrArg _ hlist

theorem exists_split {α : Type} {l : List α} {i : Nat} {x : α} (h : l[i]? = some x) :
    ∃ l₁ l₂, l = l₁ ++ x :: l₂ ∧ (∀ y, l.set i y = l₁ ++ y :: l₂) ∧ l.eraseIdx i = l₁ ++ l₂ := by
  obtain ⟨hi, rfl⟩ := List.getElem?_eq_some_iff.mp h
  refine ⟨l.take i, l.drop (i + 1), ?_, fun y => ?_, ?_⟩
  · rw [List.getElem_cons_drop, List.take_append_drop]
  · rw [List.set_eq_take_append_cons_drop, if_pos hi]
  · rw [List.eraseIdx_eq_take_drop_succ]

theorem setRecv_eq {r : RecvState} (hm : r.mesQueue = [])
    (hc : r.uiNumberOfReceivedPacketInQueue = s.dispatch.uiNumberOfReceivedPacketInQueue) :
    s.setRecv r = { s with recv := r } := by
  have hr : { r with mesQueue := [] } = r := by rw [← hm]
  unfold setRecv
  rw [hr, hm, hc, List.map_nil, List.nil_append, List.append_nil]

theorem arrive_setRecv {r₀ r : RecvState} {n : Nat} (h : MesInv bAsync s) (hp : r₀.Pushed r n)
    (hm₀ : r₀.mesQueue = s.recv.mesQueue)
    (hc₀ : r₀.uiNumberOfReceivedPacketInQueue = s.recv.uiNumberOfReceivedPacketInQueue) (hn : 1 ≤ n)
    (hnew : n ∉ s.dispatch.arrived) :
    (∃ m, s.dispatch.arrive m = some (s.setRecv r).dispatch) ∧ (s.setRecv r).dispatch.arrived = n :: s.dispatch.arrived ∧
      (s.setRecv r).recv.uiNumberOfReceivedPacketInQueue = (s.setRecv r).dispatch.uiNumberOfReceivedPacketInQueue := by
  obtain ⟨r₁, m, hq, rfl, hm, rfl⟩ := hp
  have hmes : r₁.mesQueue = [] := (hq.fields.1.trans hm₀).trans h.mesQueue
  have hcount : r₁.uiNumberOfReceivedPacketInQueue = s.dispatch.uiNumberOfReceivedPacketInQueue :=
    (hq.fields.2.1.trans hc₀).trans h.shared
  refine ⟨⟨m, ?_⟩, ?_, rfl⟩
  · rw [Dispatch.arrive, if_pos ⟨by omega, hn, hnew⟩]
    simp only [setRecv, RecvState.pushReceivedMessage, hmes, hcount, List.nil_append, List.map_cons, List.map_nil,
      List.cons_append]
  · simp only [setRecv, RecvState.pushReceivedMessage, hmes, List.nil_append, List.map_cons, List.map_nil,
      List.cons_append]

theorem MesInv.keep (h : MesInv bAsync s) (hd : s'.dispatch = s.dispatch) (hm : s'.recv.mesQueue = [])
    (hc : s'.recv.uiNumberOfReceivedPacketInQueue = s.recv.uiNumberOfReceivedPacketInQueue)
    (hn : (s.dispatch.arrived ++ (s'.pending ++ s'.lost)).Perm (List.range' 1 s'.recv.iLastUnpackedMessageSequenceNum))
    (hb : ∀ k ∈ s'.lost, ∀ j ∈ s.dispatch.arrived, j < k) (ht : ∀ t ∈ s'.threads, RecvStage.TypeOk t)
    (hk : ∀ t ∈ s'.recv.tasks, t.1.dwType = 1) : MesInv bAsync s' where
  dispatch := hd ▸ h.dispatch
  counted := hd ▸ h.counted
  shared := by rw [hc, hd, h.shared]
  mesQueue := hm
  numbers := hd ▸ hn
  before := hd ▸ hb
  threadType := ht
  taskType := hk

/-- The message of number `n`, so far with a thread or a task, reaches the queue. -/
theorem MesInv.arrive {r₀ r : RecvState} {n : Nat} (h : MesInv bAsync s) (hp : r₀.Pushed r n)
    (hm₀ : r₀.mesQueue = s.recv.mesQueue)
    (hc₀ : r₀.uiNumberOfReceivedPacketInQueue = s.recv.uiNumberOfReceivedPacketInQueue)
    (hl₀ : r₀.iLastUnpackedMessageSequenceNum = s.recv.iLastUnpackedMessageSequenceNum)
    (hr : s'.recv = (s.setRecv r).recv) (hd : s'.dispatch = (s.setRecv r).dispatch) (hlost : s'.lost = s.lost)
    (hpend : s.pending.Perm (n :: s'.pending)) (hok : ∀ k ∈ s.lost, n < k)
    (ht : ∀ t ∈ s'.threads, RecvStage.TypeOk t) (hk : ∀ t ∈ s'.recv.tasks, t.1.dwType = 1) : MesInv bAsync s' := by
  have hlast : s'.recv.iLastUnpackedMessageSequenceNum = s.recv.iLastUnpackedMessageSequenceNum := by
    rw [hr]
    exact (sameRead_of_pushed hp).last.trans hl₀
  have hnum : (s.dispatch.arrived ++ (n :: s'.pending ++ s.lost)).Perm
      (List.range' 1 s.recv.iLastUnpackedMessageSequenceNum) :=
    ((hpend.append_right _).append_left _).symm.trans h.numbers
  have hmem := List.mem_range'_1.mp (hnum.mem_iff.mp (List.mem_append_right _ (List.mem_append_left _ (List.mem_cons_self ..))))
  have hnew : n ∉ s.dispatch.arrived := fun hin =>
    (List.nodup_append.mp (hnum.nodup_iff.mpr (List.nodup_range' 1))).2.2 n hin n (by simp) rfl
  obtain ⟨⟨m, harr⟩, harrived, hshared⟩ := arrive_setRecv h hp hm₀ hc₀ hmem.1 hnew
  refine ⟨?_, ?_, ?_, by rw [hr]; rfl, ?_, ?_, ht, hk⟩
  · rw [hd]
    exact h.dispatch.step (a := .arrive m) harr
  · rw [hd]
    exact h.counted.arrive harr
  · rw [hr, hd]
    exact hshared
  · rw [hd, harrived, hlost, hlast]
    refine List.Perm.trans ?_ hnum
    rw [List.cons_append, List.cons_append]
    exact List.perm_middle.symm
  · rw [hd, harrived, hlost]
    intro k hk' j hj
    rcases List.mem_cons.mp hj with rfl | hj
    · exact hok k hk'
    · exact h.before k hk' j hj

/-! ### The steps -/

theorem Inv.recvData {bytes : List UInt8} (h : Inv bAsync s) (hs : s.recvData bytes = some s') :
    Inv bAsync s' := by
  unfold Connection.recvData at hs
  split at hs <;> cases hs
  have hreads : (s.threads ++ [RecvStage.read (.received (s.uiRecvBufferIndex + 1) bytes)]).flatMap RecvStage.reads =
      s.threads.flatMap RecvStage.reads ++ [.received (s.uiRecvBufferIndex + 1) bytes] := by simp [RecvStage.reads]
  refine ⟨⟨?_, h.read.sent, ?_, h.read.released⟩, ?_⟩
  · dsimp only
    rw [hreads]
    exact h.read.list.recvData.perm (List.perm_append_singleton _ _).symm
  · intro hst hne
    obtain ⟨t, ht, hr⟩ := h.read.willClose hst hne
    exact ⟨t, List.mem_append_left _ ht, hr⟩
  · refine h.mes.keep rfl h.mes.mesQueue rfl ?_ h.mes.before ?_ h.mes.taskType
    · simpa [pending, RecvStage.pending] using h.mes.numbers
    · intro t ht
      rcases List.mem_append.mp ht with ht | ht
      · exact h.mes.threadType t ht
      · rw [List.mem_singleton.mp ht]
        trivial

/-- A thread that has a buffer pushed, or none, goes on: what is left to show is what becomes of its packet. -/
theorem ReadInv.goOn {i : Nat} {t : RecvStage} {r : RecvState × RecvStage} (h : ReadInv s)
    (ht : s.threads[i]? = some t)
    (hr : r.2.reads = []) (hl : ∀ reads idx, ReadOk s.recv (t.reads ++ reads) idx → ReadOk r.1 reads idx) :
    ReadInv (s.goOn i r) := by
  obtain ⟨l₁, l₂, hsplit, hset, -⟩ := exists_split ht
  have hlist := h.list
  rw [hsplit] at hlist
  refine ⟨?_, h.sent, fun _ _ => ⟨r.2, ?_, hr⟩, h.released⟩
  · show ReadOk { r.1 with mesQueue := [] } _ _
    refine ReadOk.same (r := r.1) ?_ rfl
    show ReadOk r.1 ((s.threads.set i r.2).flatMap RecvStage.reads) _
    rw [hset, List.flatMap_append, List.flatMap_cons, hr, List.nil_append]
    refine hl _ _ (hlist.perm ?_)
    rw [List.flatMap_append, List.flatMap_cons]
    exact List.perm_append_comm_assoc _ _ _
  · show r.2 ∈ s.threads.set i r.2
    rw [hset]
    simp

theorem pending_goOn {i : Nat} {t : RecvStage} {r : RecvState × RecvStage} (ht : s.threads[i]? = some t) :
    (t.pending ++ (s.goOn i r).pending).Perm
      (r.2.pending ++ (s.threads.flatMap RecvStage.pending ++ r.1.tasks.map fun t => t.1.iSequenceNum)) := by
  obtain ⟨l₁, l₂, hsplit, hset, -⟩ := exists_split ht
  have hp : (s.goOn i r).pending =
      (s.threads.set i r.2).flatMap RecvStage.pending ++ r.1.tasks.map fun t => t.1.iSequenceNum := rfl
  rw [hp, hset, hsplit]
  refine List.perm_iff_count.mpr fun a => ?_
  simp only [List.flatMap_append, List.flatMap_cons, List.count_append]
  omega

theorem typeOk_goOn {i : Nat} {r : RecvState × RecvStage} (h : MesInv bAsync s) (hr : r.2.TypeOk) :
    ∀ t ∈ (s.goOn i r).threads, RecvStage.TypeOk t := by
  intro t' ht'
  rcases List.mem_or_eq_of_mem_set ht' with hm | rfl
  · exact h.threadType t' hm
  · exact hr

theorem goOn_eq {i : Nat} {r : RecvState × RecvStage} (hm : r.1.mesQueue = [])
    (hc : r.1.uiNumberOfReceivedPacketInQueue = s.dispatch.uiNumberOfReceivedPacketInQueue) :
    s.goOn i r = { s with recv := r.1, threads := s.threads.set i r.2 } := by
  unfold Connection.goOn
  rw [setRecv_eq hm hc]

theorem MesInv.scanRound {i : Nat} {t : RecvStage} {r : RecvState} (h : MesInv bAsync s)
    (ht : s.threads[i]? = some t)
    (hp : t.pending = []) (hm : r.mesQueue = s.recv.mesQueue)
    (hc : r.uiNumberOfReceivedPacketInQueue = s.recv.uiNumberOfReceivedPacketInQueue)
    (hl : r.iLastUnpackedMessageSequenceNum = s.recv.iLastUnpackedMessageSequenceNum)
    (hk : r.tasks = s.recv.tasks) (p : Option Nat) : MesInv bAsync (s.goOn i (Connection.scanRound env r p)) := by
  have hnum := h.numbers
  have hpend := fun stage r' => pending_goOn (s := s) (r := (r', stage)) ht
  simp only [hp, List.nil_append] at hpend
  rcases scanRound_cases env r p with
    ⟨r', iRet, heq, hq⟩ | ⟨r₁, hd, m, f, freed, left, pre, heq, hq, hseq, htype, -, -⟩
  · obtain ⟨hm', hc', hl', hk'⟩ := hq.fields
    rw [hm, h.mesQueue] at hm'
    rw [hc] at hc'
    rw [hl] at hl'
    rw [hk] at hk'
    rw [heq]
    have hty := typeOk_goOn (i := i) (r := (r', .ret iRet)) h trivial
    have hpe := hpend (.ret iRet) r'
    rw [goOn_eq hm' (hc'.trans h.shared)] at hty hpe ⊢
    refine h.keep rfl hm' hc' ?_ h.before hty (by dsimp only; rw [hk']; exact h.taskType)
    dsimp only
    rw [hl']
    refine List.Perm.trans ((List.Perm.append_right _ (hpe.trans ?_)).append_left _) hnum
    rw [hk']
    exact List.Perm.refl _
  · obtain ⟨hm', hc', hl', hk'⟩ := hq.fields
    have hm' : (r₁.takePacket hd freed left).mesQueue = [] := (hm'.trans hm).trans h.mesQueue
    have hc' : (r₁.takePacket hd freed left).uiNumberOfReceivedPacketInQueue = s.recv.uiNumberOfReceivedPacketInQueue :=
      hc'.trans hc
    rw [hl] at hl'
    rw [hk] at hk'
    rw [heq]
    have hty := typeOk_goOn (i := i) (r := (r₁.takePacket hd freed left, .deliver hd m f)) h htype
    have hpe := hpend (.deliver hd m f) (r₁.takePacket hd freed left)
    rw [goOn_eq hm' (hc'.trans h.shared)] at hty hpe ⊢
    refine h.keep rfl hm' hc' ?_ h.before hty (by show ∀ t ∈ r₁.tasks, _; rw [hk']; exact h.taskType)
    show (s.dispatch.arrived ++ _).Perm (List.range' 1 (r₁.iLastUnpackedMessageSequenceNum + 1))
    rw [hl', List.range'_1_concat]
    refine List.perm_iff_count.mpr fun a => ?_
    have h₁ := hnum.count_eq a
    have h₂ := hpe.count_eq a
    have hseq' : m.iSequenceNum = 1 + s.recv.iLastUnpackedMessageSequenceNum := by rw [hseq, hl, Nat.add_comm]
    simp only [RecvStage.pending, hseq', pending, List.count_append] at h₁ h₂ ⊢
    have hk'' : (r₁.takePacket hd freed left).tasks = s.recv.tasks := hk'
    rw [hk''] at h₂ ⊢
    omega

theorem Inv.scan {i : Nat} {p : Option Nat} (h : Inv bAsync s) (ht : s.threads[i]? = some (.scan p)) :
    Inv bAsync (s.goOn i (scanRound env s.recv p)) := by
  refine ⟨h.read.goOn ht ?_ fun reads idx hr => ?_, h.mes.scanRound ht rfl rfl rfl rfl rfl p⟩
  · exact (h.read.list.scanRound p).2
  · exact (hr.scanRound p).1

theorem Inv.recvPacket {i : Nat} {b : CXBufferObj} (h : Inv bAsync s) (ht : s.threads[i]? = some (.read b))
    (hs : s.recvPacket env i b = some s')
    (hok : s.recv.listRead.head ≠ [] ∨ s.recv.listRead.endSeq = none) : Inv bAsync s' := by
  obtain ⟨l₁, l₂, hsplit, -, -⟩ := exists_split ht
  have hperm : (s.threads.flatMap RecvStage.reads).Perm
      (b :: (l₁.flatMap RecvStage.reads ++ l₂.flatMap RecvStage.reads)) := by
    rw [hsplit, List.flatMap_append, List.flatMap_cons]
    exact List.perm_middle
  obtain ⟨r, hpush, hr, hfields⟩ := (h.read.list.perm hperm).push hok
  unfold Connection.recvPacket at hs
  rw [if_neg (by simp [h.read.list.server]), hpush] at hs
  cases hs
  refine ⟨h.read.goOn ht (hr.scanRound _).2 fun reads idx hl => ?_, h.mes.scanRound ht rfl ?_ ?_ ?_ ?_ _⟩
  · obtain ⟨r', hpush', hr', -⟩ := ReadOk.push hl hok
    cases hpush.symm.trans hpush'
    exact (hr'.scanRound _).1
  · rw [hfields]
  · rw [hfields]
  · rw [hfields]
  · rw [hfields]

theorem Inv.deliver {i : Nat} {hd : CXPacketHeader} {m : CXMessageData} {f : Option Nat} (h : Inv bAsync s)
    (ht : s.threads[i]? = some (.deliver hd m f)) (hs : s.deliver env i hd m f = some s')
    (hok : s.stepOk env (.thread i)) : Inv bAsync s' := by
  have htype : m.dwType = 1 := h.mes.threadType _ (List.mem_of_getElem? ht)
  simp only [stepOk, ht] at hok
  unfold Connection.deliver at hs
  obtain ⟨-, hs⟩ := Option.ite_none_left_eq_some.mp hs
  have hread : ∀ {r : RecvState} {stage : RecvStage}, SameRead s.recv r → stage.reads = [] →
      ReadInv (s.goOn i (r, stage)) :=
    fun hsame hst => h.read.goOn ht hst fun _ _ hl => hl.same hsame
  cases hdel : s.recv.deliver env hd m f.isSome with
  | none =>
    rw [hdel] at hs
    cases hs
  | some res =>
  obtain ⟨r, o⟩ := res
  rw [hdel] at hs hok
  have hpe := fun stage => pending_goOn (s := s) (r := (r, stage)) ht
  rcases RecvState.deliver_cases env hdel htype with ⟨rfl, hp | hq⟩ | ⟨⟨iRet, rfl⟩, hq⟩
  · -- the message is pushed
    cases hs
    have htasks : r.tasks = s.recv.tasks := hp.tasks
    refine ⟨hread (sameRead_of_pushed hp) rfl, h.mes.arrive hp rfl rfl rfl rfl rfl rfl ?_ ?_ (typeOk_goOn h.mes trivial) ?_⟩
    · refine List.Perm.symm ((hpe (.scan f)).trans ?_)
      rw [htasks]
      exact List.Perm.refl _
    · have hok : (r.mesQueue.isEmpty || s.pushOk m) = true := hok
      rw [hp.mesQueue_ne, Bool.false_or] at hok
      exact fun k hk => of_decide_eq_true (List.all_eq_true.mp hok k hk)
    · show ∀ t ∈ r.tasks, t.1.dwType = 1
      rw [htasks]
      exact h.mes.taskType
  · -- a task is made
    cases hs
    obtain ⟨hm', hc', hl', hk'⟩ := hq.fields
    have hm' : r.mesQueue = [] := hm'.trans h.mes.mesQueue
    have hsame : SameRead s.recv r := sameRead_of_tasks hq
    have hty := typeOk_goOn (i := i) (r := (r, .scan f)) h.mes trivial
    have hpe := hpe (.scan f)
    refine ⟨hread hsame rfl, ?_⟩
    rw [goOn_eq hm' (hc'.trans h.mes.shared)] at hty hpe ⊢
    refine h.mes.keep rfl hm' hc' ?_ h.mes.before hty ?_
    · dsimp only
      rw [hl']
      refine List.perm_iff_count.mpr fun a => ?_
      have h₁ := h.mes.numbers.count_eq a
      have h₂ := hpe.count_eq a
      simp only [RecvStage.pending, hk', pending, List.count_append, List.map_append, List.map_cons, List.map_nil,
        List.count_nil] at h₁ h₂ ⊢
      omega
    · intro t ht'
      rcases List.mem_append.mp (hk' ▸ ht') with ht' | ht'
      · exact h.mes.taskType t ht'
      · rw [List.mem_singleton.mp ht']
        exact htype
  · -- the packet is dropped
    cases hs
    obtain ⟨hm', hc', hl', hk'⟩ := hq.fields
    have hm' : r.mesQueue = [] := hm'.trans h.mes.mesQueue
    have hrd : ReadInv (s.goOn i (r, .ret iRet)) := hread (sameRead_of_quiet hq) rfl
    have hty := typeOk_goOn (i := i) (r := (r, .ret iRet)) h.mes trivial
    have hpe := hpe (.ret iRet)
    refine ⟨⟨hrd.list, hrd.sent, hrd.willClose, hrd.released⟩, ?_⟩
    rw [goOn_eq hm' (hc'.trans h.mes.shared)] at hty hpe ⊢
    refine h.mes.keep rfl hm' hc' ?_ ?_ hty (by dsimp only; rw [hk']; exact h.mes.taskType)
    · dsimp only
      rw [hl']
      refine List.perm_iff_count.mpr fun a => ?_
      have h₁ := h.mes.numbers.count_eq a
      have h₂ := hpe.count_eq a
      simp only [RecvStage.pending, hk', pending, List.count_append, List.count_cons, List.count_nil] at h₁ h₂ ⊢
      omega
    · intro k hk j hj
      rcases List.mem_cons.mp hk with rfl | hk
      · exact of_decide_eq_true (List.all_eq_true.mp hok j hj)
      · exact h.mes.before k hk j hj

theorem ReadInv.congr (extra : List RecvStage) (h : ReadInv s) (hsame : SameRead s.recv s'.recv)
    (hidx : s'.uiRecvBufferIndex = s.uiRecvBufferIndex) (hsent : s'.uiPostedSentBuffers = s.uiPostedSentBuffers)
    (hst : s'.nState = s.nState) (hrel : s'.released = s.released) (ht : s'.threads = s.threads ++ extra)
    (hr : extra.flatMap RecvStage.reads = []) : ReadInv s' where
  list := by
    rw [hidx, ht, List.flatMap_append, hr, List.append_nil]
    exact h.list.same hsame
  sent := hsent.trans h.sent
  willClose hcl hne := by
    have hl : s'.recv.listRead = s.recv.listRead := by
      unfold SameRead at hsame
      rw [hsame]
    obtain ⟨t, hmem, hreads⟩ := h.willClose (hst ▸ hcl) (hl ▸ hne)
    exact ⟨t, by rw [ht]; exact List.mem_append_left _ hmem, hreads⟩
  released := by rw [hrel, hst]; exact h.released

theorem Inv.task {i : Nat} (h : Inv bAsync s) (hs : s.task env i = some s') (hok : s.stepOk env (.task i)) :
    Inv bAsync s' := by
  unfold Connection.task at hs
  cases ht : s.recv.tasks[i]? with
  | none =>
    rw [ht] at hs
    cases hs
  | some t =>
  obtain ⟨m, hd⟩ := t
  simp only [ht] at hs
  simp only [stepOk, ht] at hok
  obtain ⟨l₁, l₂, hsplit, -, herase⟩ := exists_split ht
  have hcount : ∀ a, (s.recv.tasks.map fun t => t.1.iSequenceNum).count a =
      [m.iSequenceNum].count a + ((s.recv.tasks.eraseIdx i).map fun t => t.1.iSequenceNum).count a := by
    intro a
    rw [herase]
    simp only [hsplit, List.map_append, List.map_cons, List.count_append, List.count_cons, List.count_nil]
    omega
  have htask : ∀ t ∈ s.recv.tasks.eraseIdx i, t.1.dwType = 1 :=
    fun t ht => h.mes.taskType t (List.mem_of_mem_eraseIdx ht)
  -- the state in which the task runs
  have hmid : SameRead s.recv { s.recv with tasks := s.recv.tasks.eraseIdx i } := rfl
  rcases RecvState.parseMessage_cases env m hd { s.recv with tasks := s.recv.tasks.eraseIdx i } with
    ⟨r, heq, hp⟩ | ⟨r, heq, hq⟩
  · have hproc : s.processTask env i m hd = (r, 0) := by rw [Connection.processTask, RecvState.processTask, heq]
    rw [hproc] at hs hok
    cases hs
    rw [if_pos rfl] at hok
    have hsame : SameRead s.recv (s.setRecv r).recv := by
      have := sameRead_of_pushed hp
      unfold SameRead at this
      rw [this]
      rfl
    refine ⟨ReadInv.congr [] h.read hsame rfl rfl rfl rfl (List.append_nil _).symm rfl, ?_⟩
    refine h.mes.arrive hp rfl rfl rfl rfl rfl rfl ?_ ?_ h.mes.threadType ?_
    · refine List.perm_iff_count.mpr fun a => ?_
      have h₂ := hcount a
      have hpend : (s.setRecv r).pending = s.threads.flatMap RecvStage.pending ++
        r.tasks.map fun t => t.1.iSequenceNum := rfl
      rw [hpend, hp.tasks]
      simp only [pending, List.count_append, List.count_cons, List.count_nil] at h₂ ⊢
      omega
    · exact fun k hk => of_decide_eq_true (List.all_eq_true.mp hok k hk)
    · show ∀ t ∈ r.tasks, t.1.dwType = 1
      rw [hp.tasks]
      exact htask
  · have hproc : s.processTask env i m hd = (r, -2) := by rw [Connection.processTask, RecvState.processTask, heq]
    rw [hproc] at hs hok
    cases hs
    rw [if_neg (by simp)] at hok
    obtain ⟨hm', hc', hl', hk'⟩ := hq.fields
    have hm' : r.mesQueue = [] := hm'.trans h.mes.mesQueue
    have hsame : SameRead s.recv r := sameRead_of_tasks hq
    rw [setRecv_eq hm' (hc'.trans h.mes.shared)]
    refine ⟨ReadInv.congr [.ret (-2)] h.read hsame rfl rfl rfl rfl rfl rfl, ?_⟩
    refine h.mes.keep rfl hm' hc' ?_ ?_ ?_ (by dsimp only; rw [hk']; exact htask)
    · dsimp only
      rw [hl']
      refine List.perm_iff_count.mpr fun a => ?_
      have h₁ := h.mes.numbers.count_eq a
      have h₂ := hcount a
      simp only [pending, hk', List.flatMap_append, List.flatMap_cons, List.flatMap_nil, RecvStage.pending,
        List.count_append, List.count_cons, List.count_nil] at h₁ h₂ ⊢
      omega
    · intro k hk j hj
      rcases List.mem_cons.mp hk with rfl | hk
      · exact of_decide_eq_true (List.all_eq_true.mp hok j hj)
      · exact h.mes.before k hk j hj
    · intro t ht
      rcases List.mem_append.mp ht with ht | ht
      · exact h.mes.threadType t ht
      · rw [List.mem_singleton.mp ht]
        trivial

theorem Inv.setDispatch {d : Dispatch} (h : Inv bAsync s) (hd : Dispatch.Inv bAsync d)
    (hc : d.Counted ∧ d.arrived = s.dispatch.arrived) : Inv bAsync (s.setDispatch d) := by
  refine ⟨h.read.congr [] rfl rfl rfl rfl rfl (List.append_nil _).symm rfl, hd, hc.1, rfl, h.mes.mesQueue, ?_, ?_,
    h.mes.threadType, h.mes.taskType⟩
  · show (d.arrived ++ _).Perm _
    rw [hc.2]
    exact h.mes.numbers
  · show ∀ k ∈ s.lost, ∀ j ∈ d.arrived, j < k
    rw [hc.2]
    exact h.mes.before

theorem Inv.closeObj (h : Inv bAsync s) (hst : s.nState ≠ .closed) : Inv bAsync s.closeObj ∧
    s.closeObj.nState = .closing ∧ s.closeObj.recv.listRead.head = [] ∧ s.closeObj.released = s.released := by
  have hrel : s.released = 0 := by simpa [hst] using h.read.released
  unfold Connection.closeObj
  split
  case isTrue =>
    refine ⟨⟨⟨h.read.list.close, h.read.sent, fun _ hne => absurd rfl hne, hrel⟩, ?_⟩, rfl, rfl, rfl⟩
    exact h.mes.keep rfl h.mes.mesQueue rfl h.mes.numbers h.mes.before h.mes.threadType h.mes.taskType
  case isFalse hl =>
    have hnil : s.recv.listRead.head = [] := by
      by_contra hne
      exact hl ⟨h.read.sent, hne⟩
    refine ⟨⟨⟨h.read.list, h.read.sent, fun _ hne => absurd hnil hne, hrel⟩, ?_⟩, rfl, hnil, rfl⟩
    exact h.mes.keep rfl h.mes.mesQueue rfl h.mes.numbers h.mes.before h.mes.threadType h.mes.taskType

theorem Inv.closeConnection (h : Inv bAsync s) : Inv bAsync s.closeConnection ∧
    (s.closeConnection.nState = .closing → s.closeConnection.recv.listRead.head = []) := by
  unfold Connection.closeConnection
  split
  case isTrue hst => exact ⟨h, fun hcl => absurd (hst.symm.trans hcl) (by simp)⟩
  case isFalse hst =>
    obtain ⟨hi, hcl, hnil, hrel⟩ := h.closeObj hst
    split
    case isFalse => exact ⟨hi, fun _ => hnil⟩
    case isTrue =>
      refine ⟨⟨⟨hi.read.list, hi.read.sent, fun hcl => (by cases hcl), ?_⟩, ?_⟩, fun hcl => (by cases hcl)⟩
      · have := h.read.released
        rw [if_neg hst] at this
        show s.released + 1 = 1
        rw [this]
      · exact hi.mes.keep rfl hi.mes.mesQueue rfl hi.mes.numbers hi.mes.before hi.mes.threadType hi.mes.taskType

theorem threads_closeConnection (s : Connection) : s.closeConnection.threads = s.threads := by
  unfold Connection.closeConnection Connection.closeObj
  split
  · rfl
  · split <;> split <;> rfl

theorem Inv.eraseThread {i : Nat} {iRet : Int} (h : Inv bAsync s) (ht : s.threads[i]? = some (.ret iRet))
    (hnil : s.nState = .closing → s.recv.listRead.head = []) :
    Inv bAsync { s with threads := s.threads.eraseIdx i } := by
  obtain ⟨l₁, l₂, hsplit, -, herase⟩ := exists_split ht
  refine ⟨⟨?_, h.read.sent, fun hcl hne => absurd (hnil hcl) hne, h.read.released⟩, ?_⟩
  · have := h.read.list
    dsimp only
    rw [hsplit, List.flatMap_append, List.flatMap_cons] at this
    rw [herase, List.flatMap_append]
    exact this
  · refine h.mes.keep rfl h.mes.mesQueue rfl ?_ h.mes.before ?_ h.mes.taskType
    · have := h.mes.numbers
      unfold pending at this ⊢
      dsimp only
      rw [hsplit, List.flatMap_append, List.flatMap_cons] at this
      rw [herase, List.flatMap_append]
      exact this
    · exact fun t ht => h.mes.threadType t (List.mem_of_mem_eraseIdx ht)

theorem Inv.returned {i : Nat} {iRet : Int} (h : Inv bAsync s) (ht : s.threads[i]? = some (.ret iRet)) :
    Inv bAsync (s.returned i iRet) := by
  unfold Connection.returned
  split
  case isTrue =>
    obtain ⟨hi, hnil⟩ := h.closeConnection
    have heq := threads_closeConnection s
    have ht' : s.closeConnection.threads[i]? = some (.ret iRet) := by rw [heq]; exact ht
    have := hi.eraseThread ht' hnil
    rwa [heq] at this
  case isFalse hno =>
    exact h.eraseThread ht fun hcl => absurd (Or.inr hcl) hno

theorem Inv.step {a : ConnectionAct} (h : Inv bAsync s) (hs : s.step env bAsync a = some s')
    (hok : s.stepOk env a) : Inv bAsync s' := by
  cases a with
  | recvData bytes => exact h.recvData hs
  | thread i =>
    simp only [Connection.step, Connection.thread] at hs
    split at hs
    case h_1 => cases hs
    case h_2 b ht =>
      refine h.recvPacket ht hs ?_
      simpa [stepOk, ht] using hok
    case h_3 hd m f ht => exact h.deliver ht hs hok
    case h_4 p ht =>
      obtain ⟨-, hs⟩ := Option.ite_none_left_eq_some.mp hs
      cases hs
      exact h.scan ht
    case h_5 iRet ht =>
      cases hs
      exact h.returned ht
  | task i => exact h.task hs hok
  | close =>
    cases hs
    exact h.closeConnection.1
  | post m =>
    obtain ⟨d, hd, rfl⟩ := Option.map_eq_some_iff.mp hs
    exact h.setDispatch (h.mes.dispatch.step (a := .post m) hd) (h.mes.counted.post hd)
  | run w =>
    obtain ⟨d, hd, rfl⟩ := Option.map_eq_some_iff.mp hs
    exact h.setDispatch (h.mes.dispatch.step hd) (h.mes.counted.run hd)

theorem inv_of_reachable {f g a : Bool}
    (h : Reachable (guarded (fun s a => s.stepOk env a) (step env bAsync)) (Connection.start f g a) s) :
    Inv bAsync s :=
  h.invariant (Inv.start f g a) fun _ _ _ hi hs => hi.step (guarded_eq_some.mp hs).2 (guarded_eq_some.mp hs).1

/-! ### A released connection stays released -/

theorem closed_step {a : ConnectionAct} (hst : s.nState = .closed) (hs : s.step env bAsync a = some s') :
    s'.nState = .closed ∧ s'.released = s.released := by
  have hclose : s.closeConnection = s := if_pos hst
  cases a with
  | recvData bytes =>
    simp only [Connection.step, Connection.recvData] at hs
    split at hs <;> cases hs
    exact ⟨hst, rfl⟩
  | thread i =>
    simp only [Connection.step, Connection.thread] at hs
    split at hs
    · cases hs
    · unfold Connection.recvPacket at hs
      split at hs
      · cases hs
        exact ⟨hst, rfl⟩
      · split at hs <;> cases hs <;> exact ⟨hst, rfl⟩
    · unfold Connection.deliver at hs
      obtain ⟨-, hs⟩ := Option.ite_none_left_eq_some.mp hs
      split at hs <;> cases hs <;> exact ⟨hst, rfl⟩
    · obtain ⟨-, hs⟩ := Option.ite_none_left_eq_some.mp hs
      cases hs
      exact ⟨hst, rfl⟩
    · cases hs
      unfold Connection.returned
      rw [hclose, ite_self]
      exact ⟨hst, rfl⟩
  | task i =>
    simp only [Connection.step, Connection.task] at hs
    split at hs
    · cases hs
    · split at hs <;> cases hs <;> exact ⟨hst, rfl⟩
  | close =>
    cases hs
    rw [hclose]
    exact ⟨hst, rfl⟩
  | post m =>
    obtain ⟨d, -, rfl⟩ := Option.map_eq_some_iff.mp hs
    exact ⟨hst, rfl⟩
  | run w =>
    obtain ⟨d, -, rfl⟩ := Option.map_eq_some_iff.mp hs
    exact ⟨hst, rfl⟩

theorem Inv.closeConnection_of_rest (h : Inv bAsync s) (hst : s.nState = .closing) (hr : s.AtRest) :
    s.closeConnection.nState = .closed ∧ s.released = 0 ∧ s.closeConnection.released = 1 := by
  have hrel : s.released = 0 := by simpa [hst] using h.read.released
  have hlist : s.recv.listRead.head = [] := by
    by_contra hne
    obtain ⟨t, ht, -⟩ := h.read.willClose hst hne
    rw [hr.threads] at ht
    cases ht
  have hobj : s.closeObj.noWorkLeft = true := by
    unfold Connection.closeObj
    rw [if_neg (by simp [hlist])]
    exact h.noWorkLeft hst hr
  unfold Connection.closeConnection
  rw [if_neg (by simp [hst]), if_pos hobj]
  exact ⟨rfl, hrel, by show s.released + 1 = 1; rw [hrel]⟩

end Connection

end KonsanNet
