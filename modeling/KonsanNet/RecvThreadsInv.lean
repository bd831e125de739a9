import Mathlib.Tactic
import Mathlib.Data.List.TakeWhile
import KonsanNet.RecvThreads

/-!
# Receiving by several threads in the runs of `Keeps`

`RecvThreads.Inv` is kept by every section: what a call points to is in the read list, so that its next round
starts at the head of the list or finds a buffer out of sequence. A packet is taken only from the head, and
therefore in the order of the stream.
-/

namespace KonsanNet

namespace RecvState

variable {env : RecvEnv} {r r' : RecvState} {k i : Nat} {l pre rest left : List CXBufferObj} {b : CXBufferObj}

/-! ### What a section uses up -/

theorem InSeq.map_seq : ∀ {k : Nat} {l : List CXBufferObj}, InSeq k l →
    l.map CXBufferObj.nSequenceNum = List.range' (k + 1) l.length
  | _, [], _ => rfl
  | k, b :: l, h => by
    rw [List.map_cons, h.1, h.2.map_seq, List.length_cons, List.range'_succ]

/-- The bytes in sequence begin with those of the buffers in sequence. -/
theorem contig_append : ∀ {k : Nat} {pre l : List CXBufferObj}, InSeq k pre →
    contig k (pre ++ l) = pre.flatMap CXBufferObj.rest ++ contig (k + pre.length) l
  | _, [], _, _ => rfl
  | k, b :: pre, l, h => by
    rw [List.cons_append, contig, if_pos h.1, contig_append h.2, List.flatMap_cons, List.append_assoc,
      List.length_cons, Nat.add_assoc, Nat.add_comm 1]

theorem prefix_contig (rest : List CXBufferObj) (n : Nat) (hseq : InSeq k (pre ++ [b])) :
    pre.flatMap CXBufferObj.rest ++ b.rest.take n <+: contig k (pre ++ b :: rest) := by
  rw [show pre ++ b :: rest = (pre ++ [b]) ++ rest by simp, contig_append hseq, List.flatMap_append,
    List.flatMap_singleton]
  exact ((List.prefix_append_right_inj _).mpr (List.take_prefix n b.rest)).trans (List.prefix_append _ _)

/-! ### What delivering a packet leaves alone -/

structure Kept (s s' : RecvState) : Prop where
  listRead : s'.listRead = s.listRead
  uiLastProcessBufferIndex : s'.uiLastProcessBufferIndex = s.uiLastProcessBufferIndex
  iLastUnpackedMessageSequenceNum : s'.iLastUnpackedMessageSequenceNum = s.iLastUnpackedMessageSequenceNum
  lpServer : s'.lpServer = s.lpServer

theorem Quiet.kept (h : Quiet r r') : Kept r r' := by
  unfold Quiet at h
  rw [h]
  exact ⟨rfl, rfl, rfl, rfl⟩

theorem Pushed.kept {n : Nat} (h : Pushed r r' n) : Kept r r' := by
  obtain ⟨r₁, m, hq, -, -, rfl⟩ := h
  exact ⟨hq.kept.listRead, hq.kept.uiLastProcessBufferIndex, hq.kept.iLastUnpackedMessageSequenceNum,
    hq.kept.lpServer⟩

/-- What becomes of the message `m` of a packet: a message with its number is pushed, or a task gets it, or the call
fails. -/
inductive Delivers (r r' : RecvState) (h : CXPacketHeader) (m : CXMessageData) : Option Int → Prop
  | pushed (m' : CXMessageData) (hq : r'.mesQueue = r.mesQueue ++ [m']) (ht : r'.tasks = r.tasks)
      (hseq : m'.iSequenceNum = m.iSequenceNum) (hm : h.byEncryptFlag = 0 → h.byCompressFlag = 0 → m' = m) :
      Delivers r r' h m none
  | task (hq : r'.mesQueue = r.mesQueue) (ht : r'.tasks = r.tasks ++ [(m, h)]) : Delivers r r' h m none
  | failed (iRet : Int) (hret : iRet ≠ 0) (hq : r'.mesQueue = r.mesQueue) (ht : r'.tasks = r.tasks) :
      Delivers r r' h m (some iRet)

theorem deliver_delivers {h : CXPacketHeader} {m : CXMessageData} {f : Bool} {res : Option Int}
    (hd : r.deliver env h m f = some (r', res)) : Kept r r' ∧ Delivers r r' h m res := by
  have hfree : Kept r (r.freeBuffer m.id) := ⟨rfl, rfl, rfl, rfl⟩
  unfold deliver at hd
  by_cases hv : verifyPacketBodyData h m = true
  swap
  · rw [if_neg hv] at hd
    cases f with
    | true =>
      cases hd
      exact ⟨hfree, .failed _ (by decide) rfl rfl⟩
    | false => cases hd
  rw [if_pos hv] at hd
  by_cases hplain : h.byEncryptFlag ≠ 0 ∨ h.byCompressFlag ≠ 0
  swap
  · rw [if_neg hplain] at hd
    cases hd
    exact ⟨⟨rfl, rfl, rfl, rfl⟩, .pushed m rfl rfl rfl fun _ _ => rfl⟩
  have hparsed : ∀ m' : CXMessageData, h.byEncryptFlag = 0 → h.byCompressFlag = 0 → m' = m :=
    fun m' he hc => absurd hplain (by rw [he, hc]; simp)
  rw [if_pos hplain] at hd
  by_cases hparser : (!r.pDataParserHandle) = true
  · rw [if_pos hparser] at hd
    cases hd
    exact ⟨hfree, .failed _ (by decide) rfl rfl⟩
  rw [if_neg hparser] at hd
  by_cases hpool : (r.pTaskPool && r.bAsyncParseData) = true
  · rw [if_pos hpool] at hd
    by_cases htask : env.getFreeTaskObject r.calls = true
    · simp only [htask, if_true] at hd
      cases hd
      exact ⟨⟨rfl, rfl, rfl, rfl⟩, .task rfl rfl⟩
    · simp only [htask] at hd
      cases hd
      exact ⟨⟨rfl, rfl, rfl, rfl⟩, .failed _ (by decide) rfl rfl⟩
  rw [if_neg hpool] at hd
  rcases parseMessage_cases env m h r with ⟨r₁, heq, hp⟩ | ⟨r₁, heq, hq⟩
  · rw [heq] at hd
    cases hd
    have hkept := hp.kept
    obtain ⟨r₂, m', hq, hseq, -, rfl⟩ := hp
    refine ⟨hkept, .pushed m' ?_ hq.fields.2.2.2 hseq (hparsed m')⟩
    rw [← hq.fields.1]
    rfl
  · rw [heq] at hd
    cases hd
    have hq' := hq.trans (quiet_freeBuffer m.id r₁)
    exact ⟨hq'.kept, .failed _ (by decide) hq'.fields.1 hq'.fields.2.2.2⟩

end RecvState

namespace RecvThreads

open RecvState

variable {env : RecvEnv} {bufs : List (List UInt8)} {s s' : RecvThreads} {r : RecvState} {n : Nat}
  {pre rest left : List CXBufferObj} {b : CXBufferObj}

theorem usedUp_append : ∀ {size : Nat} {pre : List CXBufferObj}, totalLen pre < size → ∀ l,
    usedUp size (pre ++ l) = pre.length + usedUp (size - totalLen pre) l
  | size, [], _, l => by simp [totalLen]
  | size, b :: pre, h, l => by
    have htot : totalLen (b :: pre) = b.len + totalLen pre := by simp [totalLen]
    have hif : ¬ (size = 0 ∨ size < b.len) := by omega
    rw [List.cons_append, usedUp, if_neg hif, usedUp_append (by omega), htot, List.length_cons, Nat.sub_sub]
    omega

theorem usedUp_of_taken {size n f : Nat} (ht : Taken n pre b rest f left) (hlt : totalLen pre < size)
    (hsize : size = totalLen pre + n) : f ≤ usedUp size (pre ++ b :: rest) := by
  rw [usedUp_append hlt]
  cases ht with
  | whole hz =>
    have hif : ¬ (size - totalLen pre = 0 ∨ size - totalLen pre < b.len) := by omega
    rw [usedUp, if_neg hif]
    omega
  | part hz => omega

/-- A section that takes a packet frees no buffer behind `packetEnd`. -/
theorem le_packetEnd (env : RecvEnv) {n f : Nat} {v : List UInt8} {m : CXMessageData}
    (hok : ∀ b ∈ r.listRead.head, b.Ok)
    (hl : r.listRead.head = pre ++ b :: rest) (hseq : InSeq r.uiLastProcessBufferIndex (pre ++ [b])) (hn : n ≤ b.len)
    (ht : Taken n pre b rest f left) (hv : v = pre.flatMap CXBufferObj.rest ++ b.rest.take n)
    (hlt : (pre.flatMap CXBufferObj.rest).length < frontLen v) (hp : PacketOf env r.calls v m) :
    r.uiLastProcessBufferIndex + f ≤ packetEnd env r := by
  have hpre : ∀ a ∈ pre, a.Ok := fun a ha => hok a (by rw [hl]; exact List.mem_append_left _ ha)
  have hb : b.Ok := hok b (by rw [hl]; simp)
  have hlen : v.length = totalLen pre + n := by
    rw [hv, List.length_append, length_flatMap_rest hpre, List.length_take, hb.length_rest]
    omega
  have hvle : headerLen ≤ v.length := by
    rw [hp.length]
    exact Nat.le_add_right _ _
  obtain ⟨u, hu⟩ := prefix_contig rest n hseq
  rw [← hv, ← hl] at hu
  have hcomplete : Complete (contig r.uiLastProcessBufferIndex r.listRead.head) := by
    unfold Complete
    rw [← hu, frontLen_append u hvle, List.length_append, ← hp.length]
    omega
  have hacc : Accepted env r.calls (frontHeader (contig r.uiLastProcessBufferIndex r.listRead.head)) := by
    rw [← hu, frontHeader_append u hvle]
    exact hp.accepted
  unfold packetEnd
  rw [if_pos ⟨hcomplete, hacc⟩, ← hu, frontLen_append u hvle, ← hp.length, hl]
  rw [length_flatMap_rest hpre, ← hp.length] at hlt
  exact Nat.add_le_add_left (usedUp_of_taken ht hlt hlen) _

theorem packetBytes_eq {k : Nat} {v : List UInt8} {m : CXMessageData} (hp : PacketOf env k v m) (i : Nat) :
    packetBytes (frontHeader v, { m with iSequenceNum := i }) = v := by
  have hlen : v.length = headerLen + (frontHeader v).dwDataLen := hp.length
  have hhead : (frontHeader v).toBytes = v.take headerLen :=
    CXPacketHeader.toBytes_ofBytes (by rw [List.length_take]; omega)
  have hbody : m.bodyData.take (frontHeader v).dwDataLen = v.drop headerLen := by
    rw [← hp.mes.body, hlen, Nat.add_sub_cancel_left]
  show (frontHeader v).toBytes ++ m.bodyData.take (frontHeader v).dwDataLen = v
  rw [hhead, hbody, List.take_append_drop]

/-! ### The calls -/

@[simp] theorem setCall_call_self (s : RecvThreads) (n : Nat) (c : RecvCall) : (s.setCall n c).call n = c :=
  Function.update_self ..

theorem setCall_call_ne {n' : Nat} (h : n' ≠ n) (s : RecvThreads) (c : RecvCall) :
    (s.setCall n c).call n' = s.call n' := Function.update_of_ne h ..

/-- Where the call stood before makes no difference. -/
theorem scan_setCall (s : RecvThreads) (n : Nat) (c : RecvCall) (p : Option Nat) :
    (s.setCall n c).scan env n p = s.scan env n p := by
  cases p <;> simp only [scan, unlock, setCall, Function.update_idem]

/-! ### The invariant -/

/-- The numbers of the messages that were pushed and of those that a task has got. -/
def handedOn (r : RecvState) : List Nat :=
  r.mesQueue.map CXMessageData.iSequenceNum ++ r.tasks.map fun t => t.1.iSequenceNum

/-- A message that was handed on carries the number of its packet, and no call delivers that packet any more. -/
structure MesInv (s : RecvThreads) : Prop where
  messages : ∀ m ∈ s.recv.mesQueue, ∃ e ∈ s.taken, e.2.iSequenceNum = m.iSequenceNum ∧
    (e.1.byEncryptFlag = 0 → e.1.byCompressFlag = 0 → m = e.2)
  tasks : ∀ t ∈ s.recv.tasks, (t.2, t.1) ∈ s.taken
  delivered : (handedOn s.recv).Nodup
  delivering : ∀ n h m p, s.call n = .deliver h m p → (h, m) ∈ s.taken ∧ m.iSequenceNum ∉ handedOn s.recv
  distinct : ∀ n n' h h' m m' p p', s.call n = .deliver h m p → s.call n' = .deliver h' m' p' →
    m.iSequenceNum = m'.iSequenceNum → n = n'

/-- The buffers that were handed over. -/
def Handed (s : RecvThreads) (i : Nat) : Prop := ∃ n, i = n + 1 ∧ ¬ (s.call n).Before

/-- No whole packet is in sequence, or a call is going to find it, or one has failed. -/
def Progress (s : RecvThreads) : Prop :=
  ¬ Complete (contig s.recv.uiLastProcessBufferIndex s.recv.listRead.head) ∨
    (∃ n, (s.call n).cursor = some (s.recv.uiLastProcessBufferIndex + 1)) ∨ ∃ n, (s.call n).Fails

structure Inv (bufs : List (List UInt8)) (s : RecvThreads) : Prop where
  lpServer : s.recv.lpServer = true
  calls : ∀ n, bufs.length ≤ n → s.call n = .lock
  locked : ∀ n, (s.call n).Holds → s.bLocked = true
  exclusive : ∀ n n', (s.call n).Holds → (s.call n').Holds → n = n'
  faults : s.faults = []
  read : ReadInv bufs s.Handed (s.taken.flatMap packetBytes) s.recv.uiLastProcessBufferIndex s.recv.listRead
  freed : s.freed = List.range' 1 s.recv.uiLastProcessBufferIndex
  cursor : ∀ n p, (s.call n).cursor = some p → ∃ b ∈ s.recv.listRead.head, b.nSequenceNum = p
  seqNum : s.recv.iLastUnpackedMessageSequenceNum = s.taken.length
  numbered : s.taken.map (fun e => e.2.iSequenceNum) = List.range' 1 s.taken.length
  mes : s.MesInv
  progress : s.Progress

theorem inv_start (bufs : List (List UInt8)) (f g h : Bool) : Inv bufs (start f g h) where
  lpServer := rfl
  calls _ _ := rfl
  locked n hn := hn.elim
  exclusive n n' hn := hn.elim
  faults := rfl
  read := (ReadInv.built bufs).congr fun i => by
    refine ⟨False.elim, ?_⟩
    rintro ⟨n, -, hn⟩
    exact hn trivial
  freed := rfl
  cursor n p hn := by cases hn
  seqNum := rfl
  numbered := rfl
  mes := ⟨by rintro m ⟨⟩, by rintro t ⟨⟩, List.nodup_nil, by rintro n h m p ⟨⟩, by rintro n n' h h' m m' p p' ⟨⟩⟩
  progress := .inl (by rintro ⟨hlen, -⟩; cases hlen)

theorem MesInv.mono (h : MesInv s) (hq : s'.recv.mesQueue = s.recv.mesQueue) (ht : s'.recv.tasks = s.recv.tasks)
    (htaken : s'.taken = s.taken) (hcall : ∀ n h m p, s'.call n = .deliver h m p → s.call n = .deliver h m p) :
    MesInv s' := by
  have hon : handedOn s'.recv = handedOn s.recv := by
    unfold handedOn
    rw [hq, ht]
  refine ⟨?_, ?_, ?_, ?_, ?_⟩
  · rw [hq, htaken]
    exact h.messages
  · rw [ht, htaken]
    exact h.tasks
  · rw [hon]
    exact h.delivered
  · intro n hd m p hn
    rw [hon, htaken]
    exact h.delivering n hd m p (hcall n hd m p hn)
  · intro n n' hd hd' m m' p p' hn hn'
    exact h.distinct n n' hd hd' m m' p p' (hcall n hd m p hn) (hcall n' hd' m' p' hn')

namespace Inv

/-- The call `n` goes on with the read list as it is: it may take or release `m_lock`. -/
theorem goOn (h : Inv bufs s) (c : RecvCall) (bLocked : Bool) (hlt : n < bufs.length)
    (hbefore : c.Before ↔ (s.call n).Before) (hown : c.Holds → bLocked = true)
    (hothers : ∀ n', n' ≠ n → (s.call n').Holds → bLocked = true ∧ ¬ c.Holds)
    (hcursor : ∀ p, c.cursor = some p → (s.call n).cursor = some p) (hkept : Kept s.recv r)
    (hmes : MesInv ({ s with recv := r, bLocked := bLocked }.setCall n c))
    (hprogress : (s.call n).cursor = some (s.recv.uiLastProcessBufferIndex + 1) ∨ (s.call n).Fails →
      ¬ Complete (contig s.recv.uiLastProcessBufferIndex s.recv.listRead.head) ∨
        c.cursor = some (s.recv.uiLastProcessBufferIndex + 1) ∨ c.Fails) :
    Inv bufs ({ s with recv := r, bLocked := bLocked }.setCall n c) := by
  obtain ⟨t, ht⟩ : ∃ t : RecvThreads, t = { s with recv := r, bLocked := bLocked }.setCall n c := ⟨_, rfl⟩
  have hself : t.call n = c := by rw [ht]; exact setCall_call_self ..
  have hne : ∀ n', n' ≠ n → t.call n' = s.call n' := fun n' hn => by rw [ht]; exact setCall_call_ne hn ..
  have hrecv : t.recv = r := by rw [ht]; rfl
  have htaken : t.taken = s.taken := by rw [ht]; rfl
  have hlock : t.bLocked = bLocked := by rw [ht]; rfl
  rw [← ht] at hmes ⊢
  have hhanded : ∀ i, s.Handed i ↔ t.Handed i := by
    intro i
    refine exists_congr fun n' => and_congr_right fun _ => not_congr ?_
    by_cases hn : n' = n
    · rw [hn, hself, hbefore]
    · rw [hne n' hn]
  refine ⟨by rw [hrecv, hkept.lpServer]; exact h.lpServer, ?_, ?_, ?_, by rw [ht]; exact h.faults, ?_, ?_, ?_, ?_, ?_,
    hmes, ?_⟩
  · intro n' hn'
    rw [hne n' (by omega)]
    exact h.calls n' hn'
  · intro n' hn'
    rw [hlock]
    by_cases hn : n' = n
    · rw [hn, hself] at hn'
      exact hown hn'
    · rw [hne n' hn] at hn'
      exact (hothers n' hn hn').1
  · intro n₁ n₂ h₁ h₂
    by_cases hn₁ : n₁ = n
    · by_cases hn₂ : n₂ = n
      · rw [hn₁, hn₂]
      · rw [hn₁, hself] at h₁
        rw [hne n₂ hn₂] at h₂
        exact absurd h₁ (hothers n₂ hn₂ h₂).2
    · rw [hne n₁ hn₁] at h₁
      by_cases hn₂ : n₂ = n
      · rw [hn₂, hself] at h₂
        exact absurd h₂ (hothers n₁ hn₁ h₁).2
      · rw [hne n₂ hn₂] at h₂
        exact h.exclusive n₁ n₂ h₁ h₂
  · rw [hrecv, htaken, hkept.listRead, hkept.uiLastProcessBufferIndex]
    exact h.read.congr hhanded
  · rw [hrecv, hkept.uiLastProcessBufferIndex, ht]
    exact h.freed
  · intro n' p hp
    rw [hrecv, hkept.listRead]
    by_cases hn : n' = n
    · rw [hn, hself] at hp
      exact h.cursor n p (hcursor p hp)
    · rw [hne n' hn] at hp
      exact h.cursor n' p hp
  · rw [hrecv, hkept.iLastUnpackedMessageSequenceNum, htaken]
    exact h.seqNum
  · rw [htaken]
    exact h.numbered
  · unfold Progress
    rw [hrecv, hkept.listRead, hkept.uiLastProcessBufferIndex]
    -- the call that was to make progress is another one, or `n`
    have hn : (s.call n).cursor = some (s.recv.uiLastProcessBufferIndex + 1) ∨ (s.call n).Fails →
        ¬ Complete (contig s.recv.uiLastProcessBufferIndex s.recv.listRead.head) ∨
          (∃ n', (t.call n').cursor = some (s.recv.uiLastProcessBufferIndex + 1)) ∨ ∃ n', (t.call n').Fails := by
      intro hc
      rcases hprogress hc with hc | hc | hc
      · exact .inl hc
      · exact .inr (.inl ⟨n, by rw [hself]; exact hc⟩)
      · exact .inr (.inr ⟨n, by rw [hself]; exact hc⟩)
    rcases h.progress with hc | ⟨n', hc⟩ | ⟨n', hc⟩
    · exact .inl hc
    · by_cases hn' : n' = n
      · rw [hn'] at hc
        exact hn (.inl hc)
      · exact .inr (.inl ⟨n', by rw [hne n' hn']; exact hc⟩)
    · by_cases hn' : n' = n
      · rw [hn'] at hc
        exact hn (.inr hc)
      · exact .inr (.inr ⟨n', by rw [hne n' hn']; exact hc⟩)

theorem lockStep (h : Inv bufs s) {c : RecvCall} (hlt : n < bufs.length) (hbefore : c.Before ↔ (s.call n).Before)
    (hcursor : c.cursor = (s.call n).cursor) (hfails : ¬ (s.call n).Fails) (hdel : ∀ hd m p, c ≠ .deliver hd m p)
    (hs : s.lock n c = some s') : Inv bufs s' := by
  unfold RecvThreads.lock at hs
  by_cases hl : s.bLocked = true
  · rw [if_pos hl] at hs
    cases hs
  rw [if_neg hl] at hs
  cases hs
  refine h.goOn (r := s.recv) c true hlt hbefore (fun _ => rfl) (fun n' _ hn' => absurd (h.locked n' hn') hl)
    (fun p hp => by rw [← hcursor]; exact hp) ⟨rfl, rfl, rfl, rfl⟩ ?_ fun hc => ?_
  · refine h.mes.mono rfl rfl rfl fun n' hd m p hn' => ?_
    by_cases hn : n' = n
    · rw [hn, setCall_call_self] at hn'
      exact absurd hn' (hdel hd m p)
    · rw [setCall_call_ne hn] at hn'
      exact hn'
  · rcases hc with hc | hc
    · exact .inr (.inl (by rw [hcursor]; exact hc))
    · exact absurd hc hfails

/-- The call returns, with `m_lock` released. -/
theorem release (h : Inv bufs s) {p : Option Nat} {iRet : Int} (hlt : n < bufs.length) (hn : s.call n = .scan p)
    (hq : Quiet s.recv r) (hprogress : ¬ Complete (contig s.recv.uiLastProcessBufferIndex s.recv.listRead.head) ∨
      iRet ≠ 0 ∨ p ≠ some (s.recv.uiLastProcessBufferIndex + 1)) :
    Inv bufs ({ s with recv := r }.unlock n (.ret iRet)) := by
  have hholds : (s.call n).Holds := by rw [hn]; trivial
  refine h.goOn (.ret iRet) false hlt ?_ False.elim
    (fun n' hne hn' => absurd (h.exclusive n' n hn' hholds) hne) (by rintro p ⟨⟩) hq.kept ?_ fun hc => ?_
  · rw [hn]
    exact Iff.rfl
  · refine h.mes.mono hq.fields.1 hq.fields.2.2.2 rfl fun n' hd m p hn' => ?_
    by_cases hne : n' = n
    · rw [hne, setCall_call_self] at hn'
      cases hn'
    · rw [setCall_call_ne hne] at hn'
      exact hn'
  · rcases hprogress with hp | hp | hp
    · exact .inl hp
    · exact .inr (.inr hp)
    · rw [hn] at hc
      rcases hc with hc | hc
      · exact absurd hc hp
      · exact hc.elim

/-- The number of the next packet has not been given to a message yet. -/
theorem le_taken (h : Inv bufs s) {e : CXPacketHeader × CXMessageData} (he : e ∈ s.taken) :
    e.2.iSequenceNum ≤ s.taken.length := by
  have hmem : e.2.iSequenceNum ∈ List.range' 1 s.taken.length := by
    rw [← h.numbered]
    exact List.mem_map_of_mem he
  have := (List.mem_range'_1.mp hmem).2
  omega

theorem le_of_handedOn (h : Inv bufs s) {i : Nat} (hi : i ∈ handedOn s.recv) : i ≤ s.taken.length := by
  rcases List.mem_append.mp hi with hi | hi
  · obtain ⟨m, hm, rfl⟩ := List.mem_map.mp hi
    obtain ⟨e, he, hseq, -⟩ := h.mes.messages m hm
    rw [← hseq]
    exact h.le_taken he
  · obtain ⟨t, ht, rfl⟩ := List.mem_map.mp hi
    exact h.le_taken (h.mes.tasks t ht)

theorem takePacket (h : Inv bufs s) {hd : CXPacketHeader} {m : CXMessageData} {v : List UInt8} {i f : Nat}
    (hlt : n < bufs.length) (hn : s.call n = .scan (some (s.recv.uiLastProcessBufferIndex + 1)))
    (hq : Quiet s.recv r) (hl : s.recv.listRead.head = pre ++ b :: rest)
    (hseq : InSeq s.recv.uiLastProcessBufferIndex (pre ++ [b])) (hi : i ≤ b.len) (ht : Taken i pre b rest f left)
    (hv : v = pre.flatMap CXBufferObj.rest ++ b.rest.take i)
    (hbytes : packetBytes (hd, { m with iSequenceNum := s.taken.length + 1 }) = v)
    (hfree : ∀ n', n' ≠ n → ∀ q, (s.call n').cursor = some q → s.recv.uiLastProcessBufferIndex + f < q) :
    Inv bufs ({ s with
      recv := r.takePacket hd f left
      freed := s.freed ++ (s.recv.listRead.head.take f).map CXBufferObj.nSequenceNum
      taken := s.taken ++ [(hd, { m with iSequenceNum := s.taken.length + 1 })] }.unlock n
        (.deliver hd { m with iSequenceNum := s.taken.length + 1 } (left.head?.map CXBufferObj.nSequenceNum))) := by
  have hholds : (s.call n).Holds := by rw [hn]; trivial
  have hk := hq.kept
  obtain ⟨m', hm'⟩ : ∃ m', m' = { m with iSequenceNum := s.taken.length + 1 } := ⟨_, rfl⟩
  obtain ⟨t, hteq⟩ : ∃ t : RecvThreads, t = { s with
      recv := r.takePacket hd f left
      freed := s.freed ++ (s.recv.listRead.head.take f).map CXBufferObj.nSequenceNum
      taken := s.taken ++ [(hd, m')] }.unlock n (.deliver hd m' (left.head?.map CXBufferObj.nSequenceNum)) :=
    ⟨_, rfl⟩
  have hnum : m'.iSequenceNum = s.taken.length + 1 := by rw [hm']
  rw [← hm'] at hbytes ⊢
  rw [← hteq]
  have hself : t.call n = .deliver hd m' (left.head?.map CXBufferObj.nSequenceNum) := by
    rw [hteq]
    exact setCall_call_self ..
  have hne : ∀ n', n' ≠ n → t.call n' = s.call n' := fun n' hn' => by rw [hteq]; exact setCall_call_ne hn' ..
  have hnot : ∀ n', ¬ (t.call n').Holds := by
    intro n' hn'
    by_cases heq : n' = n
    · rw [heq, hself] at hn'
      exact hn'
    · rw [hne n' heq] at hn'
      exact heq (h.exclusive n' n hn' hholds)
  have hhanded : ∀ i, s.Handed i ↔ t.Handed i := by
    intro i
    refine exists_congr fun n' => and_congr_right fun _ => not_congr ?_
    by_cases heq : n' = n
    · rw [heq, hself, hn]
      exact Iff.rfl
    · rw [hne n' heq]
  have hlist : t.recv.listRead = ⟨left, if left.isEmpty then none else s.recv.listRead.endSeq⟩ := by
    rw [hteq, ← hk.listRead]
    rfl
  have hlast : t.recv.uiLastProcessBufferIndex = s.recv.uiLastProcessBufferIndex + f := by
    rw [hteq, ← hk.uiLastProcessBufferIndex]
    rfl
  have htaken : t.taken = s.taken ++ [(hd, m')] := by rw [hteq]; rfl
  have hread : ReadInv bufs t.Handed (t.taken.flatMap packetBytes) t.recv.uiLastProcessBufferIndex
      t.recv.listRead := by
    have hused : t.taken.flatMap packetBytes = s.taken.flatMap packetBytes ++
        (pre.flatMap CXBufferObj.rest ++ b.rest.take i) := by
      rw [htaken, List.flatMap_append, List.flatMap_singleton, hbytes, hv]
    rw [hlist, hlast, hused]
    exact (h.read.take hl hseq hi ht).congr hhanded
  have hf : f ≤ (pre ++ [b]).length := by
    rw [List.length_append, List.length_singleton]
    cases ht with
    | whole hz => exact le_rfl
    | part hz => exact Nat.le_succ _
  have hcon : handedOn t.recv = handedOn s.recv := by
    unfold handedOn
    rw [hteq, ← hq.fields.1, ← hq.fields.2.2.2]
    rfl
  have hmem : ∀ e ∈ s.taken, e ∈ t.taken := fun e he => by rw [htaken]; exact List.mem_append_left _ he
  refine ⟨?_, ?_, fun n' hn' => absurd hn' (hnot n'), fun n' _ hn' => absurd hn' (hnot n'), ?_, hread, ?_, ?_, ?_, ?_,
    ⟨?_, ?_, ?_, ?_, ?_⟩, ?_⟩
  · rw [hteq]
    exact hk.lpServer.trans h.lpServer
  · intro n' hn'
    rw [hne n' (by omega)]
    exact h.calls n' hn'
  · rw [hteq]
    exact h.faults
  · have hnums : (s.recv.listRead.head.take f).map CXBufferObj.nSequenceNum =
        List.range' (s.recv.uiLastProcessBufferIndex + 1) f := by
      rw [hl, show pre ++ b :: rest = (pre ++ [b]) ++ rest by simp, List.take_append_of_le_length hf,
        List.map_take, hseq.map_seq, List.take_range'_of_length_ge hf]
    rw [hlast]
    show t.freed = _
    rw [hteq]
    show s.freed ++ (s.recv.listRead.head.take f).map CXBufferObj.nSequenceNum = _
    rw [hnums, h.freed, Nat.add_comm s.recv.uiLastProcessBufferIndex 1, List.range'_append_1]
  · intro n' p hp
    by_cases heq : n' = n
    · rw [heq, hself] at hp
      obtain ⟨a, ha, rfl⟩ := Option.map_eq_some_iff.mp hp
      rw [hlist]
      exact ⟨a, List.mem_of_head? ha, rfl⟩
    · rw [hne n' heq] at hp
      obtain ⟨a, ha, hap⟩ := h.cursor n' p hp
      have hR := ((h.read.mem_iff p).mp ⟨a, ha, hap⟩).1
      refine (hread.mem_iff p).mpr ⟨(hhanded p).mp hR, ?_⟩
      rw [hlast]
      exact hfree n' heq p hp
  · rw [htaken, List.length_append, List.length_singleton, ← h.seqNum, ← hk.iLastUnpackedMessageSequenceNum, hteq]
    rfl
  · rw [htaken, List.map_append, h.numbered, List.length_append, List.length_singleton, List.range'_concat,
      List.map_singleton, hnum, Nat.one_mul, Nat.add_comm 1]
  · intro m₁ hm₁
    have hm₁ : m₁ ∈ s.recv.mesQueue := by
      rw [← hq.fields.1]
      rw [hteq] at hm₁
      exact hm₁
    obtain ⟨e, he, hes⟩ := h.mes.messages m₁ hm₁
    exact ⟨e, hmem e he, hes⟩
  · intro t₁ ht₁
    have ht₁ : t₁ ∈ s.recv.tasks := by
      rw [← hq.fields.2.2.2]
      rw [hteq] at ht₁
      exact ht₁
    exact hmem _ (h.mes.tasks t₁ ht₁)
  · rw [hcon]
    exact h.mes.delivered
  · intro n' hd₁ m₁ p₁ hn'
    rw [hcon]
    by_cases heq : n' = n
    · rw [heq, hself] at hn'
      cases hn'
      refine ⟨by rw [htaken]; simp, fun hon => ?_⟩
      have := h.le_of_handedOn hon
      omega
    · rw [hne n' heq] at hn'
      obtain ⟨he, hon⟩ := h.mes.delivering n' hd₁ m₁ p₁ hn'
      exact ⟨hmem _ he, hon⟩
  · -- the new packet has a new number
    have hnew : ∀ n', n' ≠ n → ∀ hd₁ m₁ p₁, t.call n' = .deliver hd₁ m₁ p₁ → m₁.iSequenceNum ≠ s.taken.length + 1 := by
      intro n' heq hd₁ m₁ p₁ hn' hseq'
      rw [hne n' heq] at hn'
      have hle : m₁.iSequenceNum ≤ s.taken.length := h.le_taken (h.mes.delivering n' hd₁ m₁ p₁ hn').1
      omega
    intro n₁ n₂ hd₁ hd₂ m₁ m₂ p₁ p₂ h₁ h₂ hnums
    by_cases heq₁ : n₁ = n
    · by_cases heq₂ : n₂ = n
      · rw [heq₁, heq₂]
      · rw [heq₁, hself] at h₁
        cases h₁
        exact absurd (hnums.symm.trans hnum) (hnew n₂ heq₂ hd₂ m₂ p₂ h₂)
    · by_cases heq₂ : n₂ = n
      · rw [heq₂, hself] at h₂
        cases h₂
        exact absurd (hnums.trans hnum) (hnew n₁ heq₁ hd₁ m₁ p₁ h₁)
      · rw [hne n₁ heq₁] at h₁
        rw [hne n₂ heq₂] at h₂
        exact h.mes.distinct n₁ n₂ hd₁ hd₂ m₁ m₂ p₁ p₂ h₁ h₂ hnums
  · unfold Progress
    rw [hlist]
    cases hleft : left with
    | nil =>
      refine .inl ?_
      rintro ⟨hlen, -⟩
      cases hlen
    | cons a l =>
      by_cases ha : a.nSequenceNum = t.recv.uiLastProcessBufferIndex + 1
      · refine .inr (.inl ⟨n, ?_⟩)
        rw [hself, hleft, ← ha]
        rfl
      · refine .inl ?_
        rintro ⟨hlen, -⟩
        rw [contig, if_neg ha] at hlen
        cases hlen

theorem cursor_not_freed {p : Nat} (h : Inv bufs s) (hp : (s.call n).cursor = some p) : p ∉ s.freed := by
  obtain ⟨b, hb, hbp⟩ := h.cursor n p hp
  have hlast := h.read.lt hb
  intro hp
  rw [h.freed, List.mem_range'_1] at hp
  omega

/-- A round of the loop, from the buffer on that the call points to. -/
theorem scanStep (h : Inv bufs s) {p : Option Nat} (hlt : n < bufs.length) (hn : s.call n = .scan p)
    (hfree : p = some (s.recv.uiLastProcessBufferIndex + 1) →
      ∀ n', n' ≠ n → ∀ q, (s.call n').cursor = some q → packetEnd env s.recv < q) :
    Inv bufs (s.scan env n p) := by
  cases p with
  | none => exact h.release (r := s.recv) hlt hn (Quiet.refl _) (.inr (.inr (by simp)))
  | some p =>
    obtain ⟨b, hb, hbp⟩ := h.cursor n p (by rw [hn]; rfl)
    have hlast := h.read.lt hb
    have hnot : p ∉ s.freed := h.cursor_not_freed (by rw [hn]; rfl)
    unfold RecvThreads.scan
    dsimp only
    rw [if_neg hnot]
    by_cases hp : p = s.recv.uiLastProcessBufferIndex + 1
    swap
    · -- a buffer has come in front of it
      obtain ⟨a, l, hchain⟩ : ∃ a l, s.recv.listRead.head.dropWhile (fun b => b.nSequenceNum ≠ p) = a :: l := by
        refine List.exists_cons_of_ne_nil fun hnil => ?_
        have := List.dropWhile_eq_nil_iff.mp hnil b hb
        simp only [decide_eq_true_eq] at this
        exact this hbp
      have ha : a.nSequenceNum = p := by
        have hnil : s.recv.listRead.head.dropWhile (fun b => b.nSequenceNum ≠ p) ≠ [] := by
          rw [hchain]
          exact List.cons_ne_nil a l
        have := List.head_dropWhile_not (fun b : CXBufferObj => decide (b.nSequenceNum ≠ p)) hnil
        simp only [hchain, List.head_cons, decide_eq_false_iff_not, not_not] at this
        exact this
      have hscan : RecvState.scan env (s.recv.listRead.head.dropWhile fun b => b.nSequenceNum ≠ p) 0
          (.start s.recv.uiLastProcessBufferIndex) s.recv = (s.recv, .drained none) := by
        rw [hchain, RecvState.scan, if_pos]
        · rfl
        · rw [ha]
          exact hp
      rw [hscan]
      exact h.release (r := s.recv.freeMessage none) hlt hn (Quiet.refl _) (.inr (.inr (by simpa using hp)))
    · -- it is the head of the list
      obtain ⟨a, l, hal⟩ := List.exists_cons_of_ne_nil (List.ne_nil_of_mem hb)
      have hap : a.nSequenceNum = p := by
        have ha := h.read.lt (b := a) (by rw [hal]; exact List.mem_cons_self ..)
        have hsorted := h.read.ordered.sorted
        rw [hal] at hsorted hb
        rcases List.mem_cons.mp hb with rfl | hb
        · exact hbp
        · have := List.rel_of_pairwise_cons hsorted hb
          omega
      have hdrop : s.recv.listRead.head.dropWhile (fun b => b.nSequenceNum ≠ p) = s.recv.listRead.head := by
        rw [hal, List.dropWhile_cons_of_neg]
        simpa using hap
      have htake : s.recv.listRead.head.takeWhile (fun b => b.nSequenceNum ≠ p) = [] := by
        rw [hal, List.takeWhile_cons_of_neg]
        simpa using hap
      rw [hdrop, htake]
      obtain ⟨r, e, hscan, hq, he⟩ := scan_reads s.recv.listRead.head 0 (.start s.recv.uiLastProcessBufferIndex) s.recv
        [] (Cursor.reads_start env s.recv _) h.read.ok
      rw [hscan]
      cases he with
      | drained m hm => exact h.release hlt hn (hq.trans (quiet_freeMessage m r)) (.inl hm)
      | errorPacket m => exact h.release hlt hn (hq.trans (quiet_freeMessage m r)) (.inr (.inl (by decide)))
      | noBuffer => exact h.release hlt hn hq (.inr (.inl (by decide)))
      | @packet pre rest left b' i f v m hl hseq hi ht hv hltv hpk =>
        rw [List.nil_append] at hv hltv
        have hnum : r.iLastUnpackedMessageSequenceNum + 1 = s.taken.length + 1 := by
          rw [hq.kept.iLastUnpackedMessageSequenceNum, h.seqNum]
        dsimp only
        rw [hnum, List.length_nil, List.nil_append, Nat.zero_add, Nat.zero_add]
        refine h.takePacket hlt (by rw [hn, hp]) hq hl hseq hi ht hv (packetBytes_eq hpk _) fun n' hne q hc => ?_
        have hend := le_packetEnd env h.read.ok hl hseq hi ht hv hltv hpk
        exact lt_of_le_of_lt hend (hfree (by rw [hp]) n' hne q hc)

theorem pushStep (h : Inv bufs s) {bytes : List UInt8} (hb : bufs[n]? = some bytes) (hn : s.call n = .push)
    (hfree : ∀ r, s.recv.pushReceivedBuffer (.received (n + 1) bytes) = some (r, true) →
      ∀ n', n' ≠ n → ∀ q, (s.call n').cursor = some q → packetEnd env r < q)
    (hs : s.push env n bytes = some s') : Inv bufs s' := by
  have hlt : n < bufs.length := (List.getElem?_eq_some_iff.mp hb).1
  have hholds : (s.call n).Holds := by rw [hn]; trivial
  have hnew : ¬ s.Handed (n + 1) := by
    rintro ⟨n', heq, hbefore⟩
    obtain rfl : n = n' := by omega
    rw [hn] at hbefore
    exact hbefore trivial
  obtain ⟨L, hpush, hread⟩ := h.read.push hnew hb
  obtain ⟨r, hr⟩ : ∃ r, s.recv.pushReceivedBuffer (.received (n + 1) bytes) = some (r, true) ∧
      r = { s.recv with
        listRead := L
        uiNumberOfReceivedBufferInList := s.recv.uiNumberOfReceivedBufferInList + 1
        uiPostedRecvBuffers := s.recv.uiPostedRecvBuffers - 1 } := by
    refine ⟨_, ?_, rfl⟩
    simp [RecvState.pushReceivedBuffer, hpush]
  obtain ⟨hr, hreq⟩ := hr
  have hlist : r.listRead = L := by rw [hreq]
  have hlast : r.uiLastProcessBufferIndex = s.recv.uiLastProcessBufferIndex := by rw [hreq]
  obtain ⟨t, hteq⟩ : ∃ t : RecvThreads, t = { s with recv := r }.setCall n
      (.scan (L.head.head?.map CXBufferObj.nSequenceNum)) := ⟨_, rfl⟩
  have hself : t.call n = .scan (L.head.head?.map CXBufferObj.nSequenceNum) := by rw [hteq]; exact setCall_call_self ..
  have hne : ∀ n', n' ≠ n → t.call n' = s.call n' := fun n' hn' => by rw [hteq]; exact setCall_call_ne hn' ..
  have hrecv : t.recv = r := by rw [hteq]; rfl
  have htaken : t.taken = s.taken := by rw [hteq]; rfl
  have hhanded : ∀ i, i = n + 1 ∨ s.Handed i ↔ t.Handed i := by
    intro i
    constructor
    · rintro (rfl | ⟨n', rfl, hbefore⟩)
      · exact ⟨n, rfl, by rw [hself]; exact id⟩
      · refine ⟨n', rfl, ?_⟩
        by_cases heq : n' = n
        · rw [heq, hself]
          exact id
        · rw [hne n' heq]
          exact hbefore
    · rintro ⟨n', rfl, hbefore⟩
      by_cases heq : n' = n
      · exact .inl (by rw [heq])
      · rw [hne n' heq] at hbefore
        exact .inr ⟨n', rfl, hbefore⟩
  have hinv : Inv bufs t := by
    refine ⟨?_, ?_, ?_, ?_, ?_, ?_, ?_, ?_, ?_, ?_, ?_, ?_⟩
    · rw [hrecv, hreq]
      exact h.lpServer
    · intro n' hn'
      rw [hne n' (by omega)]
      exact h.calls n' hn'
    · intro n' hn'
      have hl : t.bLocked = s.bLocked := by rw [hteq]; rfl
      rw [hl]
      exact h.locked n hholds
    · have hown : ∀ n', (t.call n').Holds → n' = n := by
        intro n' hn'
        by_cases heq : n' = n
        · exact heq
        · rw [hne n' heq] at hn'
          exact h.exclusive n' n hn' hholds
      intro n₁ n₂ h₁ h₂
      rw [hown n₁ h₁, hown n₂ h₂]
    · rw [hteq]
      exact h.faults
    · rw [hrecv, htaken, hlist, hlast]
      exact hread.congr hhanded
    · rw [hrecv, hlast, hteq]
      exact h.freed
    · intro n' p hp
      rw [hrecv, hlist]
      by_cases heq : n' = n
      · rw [heq, hself] at hp
        obtain ⟨a, ha, rfl⟩ := Option.map_eq_some_iff.mp hp
        exact ⟨a, List.mem_of_head? ha, rfl⟩
      · rw [hne n' heq] at hp
        obtain ⟨hR, hk⟩ := (h.read.mem_iff p).mp (h.cursor n' p hp)
        exact (hread.mem_iff p).mpr ⟨.inr hR, hk⟩
    · rw [hrecv, htaken, hreq]
      exact h.seqNum
    · rw [htaken]
      exact h.numbered
    · refine h.mes.mono (by rw [hrecv, hreq]) (by rw [hrecv, hreq]) htaken fun n' hd m p hn' => ?_
      by_cases heq : n' = n
      · rw [heq, hself] at hn'
        cases hn'
      · rw [hne n' heq] at hn'
        exact hn'
    · unfold Progress
      rw [hrecv, hlist, hlast]
      cases hL : L.head with
      | nil =>
        refine .inl ?_
        rintro ⟨hlen, -⟩
        cases hlen
      | cons a l =>
        by_cases ha : a.nSequenceNum = s.recv.uiLastProcessBufferIndex + 1
        · refine .inr (.inl ⟨n, ?_⟩)
          rw [hself, hL, ← ha]
          rfl
        · refine .inl ?_
          rintro ⟨hlen, -⟩
          rw [contig, if_neg ha] at hlen
          cases hlen
  unfold RecvThreads.push at hs
  rw [hr] at hs
  cases hs
  rw [hlist, ← scan_setCall _ n (.scan (L.head.head?.map CXBufferObj.nSequenceNum)), ← hteq]
  refine hinv.scanStep hlt hself fun _ n' heq q hq => ?_
  rw [hne n' heq] at hq
  rw [hrecv]
  exact hfree r hr n' heq q hq

theorem mes_deliver (h : Inv bufs s) {hd : CXPacketHeader} {m : CXMessageData} {p : Option Nat} {c : RecvCall}
    {res : Option Int} (hn : s.call n = .deliver hd m p) (hdel : Delivers s.recv r hd m res)
    (hc : ∀ hd m p, c ≠ .deliver hd m p) : MesInv ({ s with recv := r }.setCall n c) := by
  have hcall : ∀ n' hd₁ m₁ p₁, ({ s with recv := r }.setCall n c).call n' = .deliver hd₁ m₁ p₁ →
      n' ≠ n ∧ s.call n' = .deliver hd₁ m₁ p₁ := by
    intro n' hd₁ m₁ p₁ hn'
    by_cases heq : n' = n
    · rw [heq, setCall_call_self] at hn'
      exact absurd hn' (hc hd₁ m₁ p₁)
    · rw [setCall_call_ne heq] at hn'
      exact ⟨heq, hn'⟩
  obtain ⟨htaken, hnew⟩ := h.mes.delivering n hd m p hn
  -- the number is handed on now
  have hon : handedOn r = handedOn s.recv ∨ (handedOn r).Perm (m.iSequenceNum :: handedOn s.recv) := by
    unfold handedOn
    cases hdel with
    | pushed m' hq ht hseq hm =>
      refine .inr ?_
      rw [hq, ht, List.map_append, List.map_singleton, hseq, List.append_assoc, List.singleton_append]
      exact List.perm_middle
    | task hq ht =>
      refine .inr ?_
      rw [hq, ht, List.map_append, List.map_singleton, ← List.append_assoc]
      exact List.perm_append_singleton _ _
    | failed iRet hret hq ht =>
      refine .inl ?_
      rw [hq, ht]
  refine ⟨?_, ?_, ?_, ?_, ?_⟩
  · intro m₁ hm₁
    have hm₁ : m₁ ∈ r.mesQueue := hm₁
    cases hdel with
    | pushed m' hq ht hseq hm =>
      rw [hq] at hm₁
      rcases List.mem_append.mp hm₁ with hm₁ | hm₁
      · exact h.mes.messages m₁ hm₁
      · rw [List.mem_singleton.mp hm₁]
        exact ⟨(hd, m), htaken, hseq.symm, hm⟩
    | task hq ht =>
      rw [hq] at hm₁
      exact h.mes.messages m₁ hm₁
    | failed iRet hret hq ht =>
      rw [hq] at hm₁
      exact h.mes.messages m₁ hm₁
  · intro t ht₁
    have ht₁ : t ∈ r.tasks := ht₁
    cases hdel with
    | pushed m' hq ht hseq hm =>
      rw [ht] at ht₁
      exact h.mes.tasks t ht₁
    | task hq ht =>
      rw [ht] at ht₁
      rcases List.mem_append.mp ht₁ with ht₁ | ht₁
      · exact h.mes.tasks t ht₁
      · rw [List.mem_singleton.mp ht₁]
        exact htaken
    | failed iRet hret hq ht =>
      rw [ht] at ht₁
      exact h.mes.tasks t ht₁
  · show (handedOn r).Nodup
    rcases hon with hon | hon
    · rw [hon]
      exact h.mes.delivered
    · exact hon.nodup_iff.mpr (List.nodup_cons.mpr ⟨hnew, h.mes.delivered⟩)
  · intro n' hd₁ m₁ p₁ hn'
    obtain ⟨heq, hn'⟩ := hcall n' hd₁ m₁ p₁ hn'
    obtain ⟨ht₁, hnew₁⟩ := h.mes.delivering n' hd₁ m₁ p₁ hn'
    refine ⟨ht₁, ?_⟩
    show m₁.iSequenceNum ∉ handedOn r
    rcases hon with hon | hon
    · rw [hon]
      exact hnew₁
    · rw [hon.mem_iff, List.mem_cons]
      rintro (hnum | hmem)
      · exact heq (h.mes.distinct n' n hd₁ hd m₁ m p₁ p hn' hn hnum)
      · exact hnew₁ hmem
  · intro n₁ n₂ hd₁ hd₂ m₁ m₂ p₁ p₂ h₁ h₂
    exact h.mes.distinct n₁ n₂ hd₁ hd₂ m₁ m₂ p₁ p₂ (hcall n₁ hd₁ m₁ p₁ h₁).2 (hcall n₂ hd₂ m₂ p₂ h₂).2

theorem deliverStep (h : Inv bufs s) {hd : CXPacketHeader} {m : CXMessageData} {p : Option Nat}
    (hlt : n < bufs.length) (hn : s.call n = .deliver hd m p) (hs : s.deliver env n hd m p = some s') :
    Inv bufs s' := by
  have hfilter : (p.filter fun p => !verifyPacketBodyData hd m && decide (p ∈ s.freed)) = none := by
    cases p with
    | none => rfl
    | some p =>
      have hnot : p ∉ s.freed := h.cursor_not_freed (by rw [hn]; rfl)
      simp [Option.filter, hnot]
  unfold RecvThreads.deliver at hs
  rw [hfilter] at hs
  dsimp only at hs
  have hothers : ∀ n', n' ≠ n → (s.call n').Holds → s.bLocked = true := fun n' _ hn' => h.locked n' hn'
  cases hdel : s.recv.deliver env hd m p.isSome with
  | none =>
    rw [hdel] at hs
    cases hs
  | some res =>
    obtain ⟨r, res⟩ := res
    rw [hdel] at hs
    obtain ⟨hkept, hd'⟩ := deliver_delivers hdel
    cases res with
    | none =>
      cases hs
      have hm := h.mes_deliver (c := .relock p) hn hd' (by rintro hd m p ⟨⟩)
      refine h.goOn (.relock p) s.bLocked hlt ?_ False.elim (fun n' hne hn' => ⟨hothers n' hne hn', id⟩) ?_ hkept hm ?_
      · rw [hn]
        exact Iff.rfl
      · intro q hq
        rw [hn]
        exact hq
      · rw [hn]
        rintro (hc | hc)
        · exact .inr (.inl hc)
        · exact hc.elim
    | some iRet =>
      cases hs
      have hret : iRet ≠ 0 := by
        cases hd' with
        | failed _ hret => exact hret
      obtain ⟨c, hceq⟩ : ∃ c : RecvCall, c = if iRet = -3 then .unlock else .ret iRet := ⟨_, rfl⟩
      have hc : (∀ hd m p, c ≠ .deliver hd m p) ∧ ¬ c.Before ∧ ¬ c.Holds ∧ c.cursor = none ∧ c.Fails := by
        rw [hceq]
        by_cases h3 : iRet = -3
        · rw [if_pos h3]
          exact ⟨by rintro hd m p ⟨⟩, id, id, rfl, trivial⟩
        · rw [if_neg h3]
          exact ⟨by rintro hd m p ⟨⟩, id, id, rfl, hret⟩
      obtain ⟨hcd, hcb, hch, hcc, hcf⟩ := hc
      rw [← hceq]
      have hm := h.mes_deliver (c := c) hn hd' hcd
      refine h.goOn c s.bLocked hlt ?_ (fun hc => absurd hc hch)
        (fun n' hne hn' => ⟨hothers n' hne hn', hch⟩) ?_ hkept hm fun _ => .inr (.inr hcf)
      · rw [hn]
        exact ⟨fun hc => absurd hc hcb, False.elim⟩
      · intro q hq
        rw [hcc] at hq
        cases hq

/-- The `Unlock` behind the loop, of a lock that nobody holds. -/
theorem unlockStep (h : Inv bufs s) (hlt : n < bufs.length) (hn : s.call n = .unlock) (hl : s.bLocked = false) :
    Inv bufs (s.unlock n (.ret (-3))) := by
  have hnone : ∀ n', ¬ (s.call n').Holds := by
    intro n' hn'
    have := h.locked n' hn'
    rw [hl] at this
    cases this
  refine h.goOn (r := s.recv) (.ret (-3)) false hlt ?_ False.elim (fun n' _ hn' => absurd hn' (hnone n'))
    (by rintro p ⟨⟩) ⟨rfl, rfl, rfl, rfl⟩ ?_ fun _ => .inr (.inr (by decide : (-3 : Int) ≠ 0))
  · rw [hn]
    exact Iff.rfl
  · refine h.mes.mono rfl rfl rfl fun n' hd m p hn' => ?_
    by_cases heq : n' = n
    · rw [heq, setCall_call_self] at hn'
      cases hn'
    · rw [setCall_call_ne heq] at hn'
      exact hn'

theorem step (h : Inv bufs s) (hk : s.Keeps env bufs n) (hs : s.step env bufs n = some s') : Inv bufs s' := by
  obtain ⟨hfree, hunlock⟩ := hk
  have hfree' : ∀ n', n' ≠ n → ∀ q, (s.call n').cursor = some q → s.sectionEnd env bufs n < q := by
    intro n' hne q hq
    by_cases hlt : n' < bufs.length
    · have := hfree n' hlt hne
      rw [hq, Option.all_some, decide_eq_true_eq] at this
      exact this
    · rw [h.calls n' (by omega)] at hq
      cases hq
  unfold RecvThreads.step at hs
  cases hb : bufs[n]? with
  | none =>
    rw [hb] at hs
    cases hs
  | some bytes =>
    have hlt : n < bufs.length := (List.getElem?_eq_some_iff.mp hb).1
    have hbytes : bufs.getD n [] = bytes := by
      rw [List.getD_eq_getElem?_getD, hb]
      rfl
    rw [hb] at hs
    dsimp only at hs
    unfold sectionEnd at hfree'
    cases hn : s.call n with
    | lock =>
      rw [hn] at hs
      dsimp only at hs
      rw [if_pos h.lpServer] at hs
      exact h.lockStep hlt (by rw [hn]; exact Iff.rfl) (by rw [hn]; rfl) (by rw [hn]; exact id)
        (by rintro hd m p ⟨⟩) hs
    | push =>
      rw [hn] at hs hfree'
      refine h.pushStep hb hn (fun r hr n' hne q hq => ?_) hs
      have := hfree' n' hne q hq
      dsimp only at this
      rw [hbytes, hr] at this
      exact this
    | deliver hd m p =>
      rw [hn] at hs
      exact h.deliverStep hlt hn hs
    | relock p =>
      rw [hn] at hs
      exact h.lockStep hlt (by rw [hn]; exact Iff.rfl) (by rw [hn]; rfl) (by rw [hn]; exact id)
        (by rintro hd m p ⟨⟩) hs
    | scan p =>
      rw [hn] at hs hfree'
      cases hs
      refine h.scanStep hlt hn fun hp n' hne q hq => ?_
      have := hfree' n' hne q hq
      rw [hp] at this
      dsimp only at this
      rw [if_pos rfl] at this
      exact this
    | unlock =>
      rw [hn] at hs
      cases hs
      exact h.unlockStep hlt hn (hunlock hn)
    | fault | ret =>
      rw [hn] at hs
      cases hs

end Inv

/-! ### What follows from the invariant -/

/-- The part that is used of the buffers in the list is that of the next buffer. -/
theorem flatMap_part {R : Nat → Prop} {used part : List UInt8} {k : Nat} {L : SeqList CXBufferObj}
    (h : ReadInv bufs R used k L) (hpart : Part k L.head part) :
    (L.head.flatMap fun b => b.buf.take b.nCurDataPointer) = part := by
  have hrest : ∀ l : List CXBufferObj, (∀ b ∈ l, b ∈ L.head ∧ b.nSequenceNum ≠ k + 1) →
      (l.flatMap fun b => b.buf.take b.nCurDataPointer) = [] := by
    intro l hl
    refine List.flatMap_eq_nil_iff.mpr fun b hb => ?_
    rw [h.untouched b (hl b hb).1 (hl b hb).2, List.take_zero]
  by_cases hex : ∃ b ∈ L.head, b.nSequenceNum = k + 1
  · obtain ⟨b, hb, hbk⟩ := hex
    obtain ⟨pre, rest, hl⟩ := List.append_of_mem hb
    have hsorted := h.ordered.sorted
    rw [hl] at hsorted
    obtain ⟨-, hcons, hpre⟩ := List.pairwise_append.mp hsorted
    have h₁ := hrest pre fun a ha => by
      have := hpre a ha b (List.mem_cons_self ..)
      exact ⟨by rw [hl]; exact List.mem_append_left _ ha, by omega⟩
    have h₂ := hrest rest fun a ha => by
      have := List.rel_of_pairwise_cons hcons ha
      exact ⟨by rw [hl]; simp [ha], by omega⟩
    rw [hl, List.flatMap_append, List.flatMap_cons, h₁, h₂, List.nil_append, List.append_nil]
    exact (hpart.used b hb hbk).symm
  · push Not at hex
    rw [hrest L.head fun b hb => ⟨hb, hex b hb⟩, hpart.none hex]

theorem flatMap_range' (bufs : List (List UInt8)) (k : Nat) :
    ((List.range' 1 k).flatMap fun i => bufs.getD (i - 1) []) = (bufs.take k).flatten := by
  induction k with
  | zero => simp
  | succ k ih =>
    rw [List.range'_concat, List.flatMap_append, ih, List.flatMap_singleton, List.take_add_one, List.flatten_append]
    congr 1
    rw [Nat.one_mul, Nat.add_sub_cancel_left, List.getD_eq_getElem?_getD]
    cases bufs[k]? <;> simp

theorem Inv.consistent (h : Inv bufs s) : s.Consistent bufs := by
  have hfreed : ∀ i, i ∈ s.freed ↔ 1 ≤ i ∧ i ≤ s.recv.uiLastProcessBufferIndex := by
    intro i
    rw [h.freed, List.mem_range'_1]
    omega
  have hlist : ∀ i, i ∈ s.recv.listRead.head.map CXBufferObj.nSequenceNum ↔
      s.Handed i ∧ s.recv.uiLastProcessBufferIndex < i := by
    intro i
    rw [List.mem_map]
    exact h.read.mem_iff i
  refine ⟨h.exclusive, h.faults, ?_, ?_, ?_, ?_, ?_, h.numbered, h.mes.messages, h.mes.tasks, h.mes.delivered, ?_⟩
  · rw [h.freed, List.length_range']
  · intro n
    have hhanded : s.Handed (n + 1) ↔ ¬ (s.call n).Before := by
      constructor
      · rintro ⟨n', heq, hn'⟩
        obtain rfl : n = n' := by omega
        exact hn'
      · intro hn
        exact ⟨n, rfl, hn⟩
    rw [← hhanded, List.mem_append, hfreed, hlist]
    constructor
    · intro hn
      by_cases hle : n + 1 ≤ s.recv.uiLastProcessBufferIndex
      · exact .inl ⟨by omega, hle⟩
      · exact .inr ⟨hn, by omega⟩
    · rintro (⟨h1, hle⟩ | ⟨hn, -⟩)
      · exact h.read.freed (n + 1) h1 hle
      · exact hn
  · refine List.nodup_append.mpr ⟨by rw [h.freed]; exact List.nodup_range' 1, ?_, fun i hi j hj => ?_⟩
    · exact List.pairwise_map.mpr (h.read.ordered.sorted.imp Nat.ne_of_lt)
    · have := (hfreed i).mp hi
      have := (hlist j).mp hj
      omega
  · intro b hb
    have hlt := h.read.lt hb
    exact h.read.source b hb (b.nSequenceNum - 1) (by omega)
  · obtain ⟨part, hpart, hdel⟩ := h.read.delivered
    unfold usedBytes
    rw [h.freed, flatMap_range', flatMap_part h.read hpart, hdel]
  · intro hrest
    rcases h.progress with hp | ⟨n, hn⟩ | ⟨n, hn⟩
    · exact hp
    · rcases hrest n with hc | hc
      · rw [hc] at hn
        cases hn
      · rw [hc] at hn
        cases hn
    · rcases hrest n with hc | hc
      · rw [hc] at hn
        exact hn.elim
      · rw [hc] at hn
        exact absurd rfl hn

/-- What holds in every run in which no section uses up a buffer that another call points to, and no call releases
`m_lock` for another one. -/
theorem consistent_of_unused {f g h : Bool}
    (hs : Reachable (guarded (Keeps env bufs) (step env bufs)) (start f g h) s) : s.Consistent bufs := by
  have hinv : Inv bufs s := hs.invariant (inv_start bufs f g h) fun s n s' hi hstep => by
    obtain ⟨hk, hstep⟩ := guarded_eq_some.mp hstep
    exact hi.step hk hstep
  exact hinv.consistent

/-! ### Concrete runs -/

/-- An environment that serves every request. -/
def servingEnv : RecvEnv where
  getBuffer _ size := if size ≤ cxMaxCacheSize then some (List.replicate size 0) else none
  getBuffer_le {n size mem} h := by
    by_contra hle
    rw [if_neg hle] at h
    cases h
  getFreeTaskObject _ := true
  getFirstThreadCache _ _ := true
  parseData _ := ⟨true, 0, []⟩

/-- An empty packet. -/
def emptyPacket : List UInt8 := [0xF7, 0x25, 0, 0, 0, 0, 0, 0, 0, 0, 0, 0, 0, 0, 0, 0]

/-- A packet and the half of another one, and the rest of it in two parts. -/
def threeBuffers : List (List UInt8) :=
  [emptyPacket ++ emptyPacket.take 8, (emptyPacket.drop 8).take 4, emptyPacket.drop 12]

/-- The second call comes and goes while the first one delivers its packet; the third one completes the other
packet. -/
theorem consistent_threeCalls : ∃ s : RecvThreads, s.recv.mesQueue.map CXMessageData.iSequenceNum = [1, 2] ∧
    s.freed = [1, 2, 3] ∧ s.Consistent threeBuffers := by
  have hrun : (runSteps (guarded (Keeps servingEnv threeBuffers) (step servingEnv threeBuffers))
      (start false false false) [0, 0, 1, 1, 0, 0, 0, 2, 2, 2, 2, 2]).any
      (fun s => s.recv.mesQueue.map CXMessageData.iSequenceNum = [1, 2] ∧ s.freed = [1, 2, 3]) = true := by
    decide +kernel
  obtain ⟨s, hs, h⟩ := (Option.any_eq_true _ _).mp hrun
  obtain ⟨hmes, hfreed⟩ := of_decide_eq_true h
  exact ⟨s, hmes, hfreed, consistent_of_unused (Reachable.of_runSteps hs)⟩

/-- The second call completes the packet whose first half the first call points to. -/
theorem not_consistent_freedCursor : ∃ s : RecvThreads,
    Reachable (step servingEnv [emptyPacket ++ emptyPacket.take 8, emptyPacket.drop 8]) (start false false false) s ∧
      ¬ s.Consistent [emptyPacket ++ emptyPacket.take 8, emptyPacket.drop 8] := by
  have hrun : (runSteps (step servingEnv [emptyPacket ++ emptyPacket.take 8, emptyPacket.drop 8])
      (start false false false) [0, 0, 1, 1, 0, 0, 0]).any (fun s => s.faults = [(0, 1)]) = true := by decide +kernel
  obtain ⟨s, hs, h⟩ := (Option.any_eq_true _ _).mp hrun
  refine ⟨s, Reachable.of_runSteps hs, fun hc => ?_⟩
  rw [hc.faults] at h
  cases of_decide_eq_true h

end RecvThreads

end KonsanNet
