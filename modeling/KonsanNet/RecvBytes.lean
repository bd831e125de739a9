import KonsanNet.RecvInv
import KonsanNet.RecvOwn

/-!
# The receive path over any bytes

`Quiet` steps of the receive path change only its records, `Pushed` ones push one message. What `scan` does with
the bytes in sequence, whatever they are, is `ScanOf`: it takes the packet they begin with as soon as they hold
all of it, and is drained only if they do not.
-/

namespace KonsanNet

theorem CXPacketHeader.toBytes_ofBytes {bs : List UInt8} (h : bs.length = headerLen) :
    (CXPacketHeader.ofBytes bs).toBytes = bs := by
  match bs, h with
  | [a₀, a₁, a₂, a₃, a₄, a₅, a₆, a₇, a₈, a₉, b₀, b₁, b₂, b₃, b₄, b₅], _ =>
    have h₁ := leBytes_leValue [a₀, a₁]
    have h₂ := leBytes_leValue [a₄, a₅, a₆, a₇]
    have h₃ := leBytes_leValue [a₈, a₉, b₀, b₁]
    have h₄ := leBytes_leValue [b₂, b₃, b₄, b₅]
    simp only [List.length_cons, List.length_nil, Nat.zero_add, Nat.reduceAdd] at h₁ h₂ h₃ h₄
    simp [CXPacketHeader.toBytes, CXPacketHeader.ofBytes, h₁, h₂, h₃, h₄]

namespace RecvState

section

variable {env : RecvEnv} {s s' : RecvState} {m : CXMessageData} {n : Nat}

/-! ### What the receive path does -/

/-- Quiet steps, and then one message is pushed. -/
def Pushed (s s' : RecvState) (n : Nat) : Prop :=
  ∃ s₁ m, Quiet s s₁ ∧ m.iSequenceNum = n ∧ m.dwType = 1 ∧ s' = s₁.pushReceivedMessage m

theorem Quiet.refl (s : RecvState) : Quiet s s := rfl

theorem Quiet.fields (h : Quiet s s') : s'.mesQueue = s.mesQueue ∧
    s'.uiNumberOfReceivedPacketInQueue = s.uiNumberOfReceivedPacketInQueue ∧
    s'.iLastUnpackedMessageSequenceNum = s.iLastUnpackedMessageSequenceNum ∧ s'.tasks = s.tasks := by
  unfold Quiet at h
  rw [h]
  exact ⟨rfl, rfl, rfl, rfl⟩

theorem Pushed.tasks (h : Pushed s s' n) : s'.tasks = s.tasks := by
  obtain ⟨s₁, m, hq, -, -, rfl⟩ := h
  exact hq.fields.2.2.2

theorem Pushed.mesQueue_ne (h : Pushed s s' n) : s'.mesQueue.isEmpty = false := by
  obtain ⟨s₁, m, -, -, -, rfl⟩ := h
  simp [pushReceivedMessage]

theorem quiet_freeBuffer (id : Nat) (s : RecvState) : Quiet s (s.freeBuffer id) := rfl

theorem quiet_freeMessage (m : Option CXMessageData) (s : RecvState) : Quiet s (s.freeMessage m) := by
  cases m <;> rfl

theorem quiet_getBuffer (env : RecvEnv) (size : Nat) (s : RecvState) : Quiet s (s.getBuffer env size).1 := by
  unfold getBuffer
  split <;> rfl

theorem quiet_freeScratch (scratch : Option Nat) (s : RecvState) : Quiet s (s.freeScratch scratch) := by
  cases scratch <;> rfl

theorem quiet_getScratch (env : RecvEnv) (size : Nat) (s : RecvState) : Quiet s (s.getScratch env size).1 := by
  unfold getScratch
  dsimp only
  split
  · rfl
  · have := quiet_getBuffer env size { s with calls := s.calls + 1 }
    split
    case h_1 s₁ heq => rw [heq] at this; exact this
    case h_2 s₁ id mem heq => rw [heq] at this; exact this

theorem quiet_getMessage (env : RecvEnv) (h : CXPacketHeader) (pm : Option CXMessageData) (s : RecvState)
    (hpm : ∀ m ∈ pm, m.dwType = 1) :
    Quiet s (getMessage env h pm s).1 ∧ ∀ m ∈ (getMessage env h pm s).2, m.dwType = 1 := by
  cases pm with
  | some m => exact ⟨rfl, hpm⟩
  | none =>
    have := quiet_getBuffer env (messageDataLen + h.dwDataLen) s
    unfold getMessage
    dsimp only
    split
    case h_1 s₁ heq =>
      rw [heq] at this
      exact ⟨this, by simp⟩
    case h_2 s₁ id mem heq =>
      rw [heq] at this
      exact ⟨this.trans (quiet_check _ _), by simp⟩

theorem readBody_dwType (b : CXBufferObj) (h : CXPacketHeader) (m : CXMessageData) (u l i : Nat) :
    (readBody b h m u l i).1.dwType = m.dwType := by
  unfold readBody
  dsimp only
  split <;> rfl

/-- A complete packet leaves the end of the list, from the buffer on in which it ends. -/
def ScanEnd.Leaves (l : List CXBufferObj) (passed : Nat) : ScanEnd → Prop
  | .packet _ m freed left => m.dwType = 1 ∧ ∃ pre, l.map CXBufferObj.nSequenceNum =
      pre ++ left.map CXBufferObj.nSequenceNum ∧ freed = passed + pre.length
  | _ => True

theorem ScanEnd.Leaves.cons {b : CXBufferObj} {l : List CXBufferObj} {passed : Nat} {e : ScanEnd}
    (h : e.Leaves l (passed + 1)) : e.Leaves (b :: l) passed := by
  cases e with
  | packet hd m freed left =>
    obtain ⟨hm, pre, hl, hf⟩ := h
    exact ⟨hm, b.nSequenceNum :: pre, by rw [List.map_cons, hl]; rfl, by rw [hf, List.length_cons]; omega⟩
  | _ => exact trivial

theorem scan_leaves (env : RecvEnv) : ∀ (l : List CXBufferObj) (passed : Nat) (c : Cursor) (s : RecvState),
    (∀ m ∈ c.pMessageData, m.dwType = 1) →
    ∃ s' e, scan env l passed c s = (s', e) ∧ Quiet s s' ∧ e.Leaves l passed
  | [], _, _, s, _ => ⟨s, _, rfl, rfl, trivial⟩
  | b :: l, passed, c, s, h => by
    unfold scan
    split
    · exact ⟨s, _, rfl, rfl, trivial⟩
    split
    · obtain ⟨s', e, hs, hq, hl⟩ :=
        scan_leaves env l (passed + 1) { c with uiPacketIndex := c.uiPacketIndex + 1 } s h
      exact ⟨s', e, hs, hq, hl.cons⟩
    obtain ⟨⟨c₁, iLeft, iBegin, ok⟩, hread⟩ : ∃ r, readHeader b c = r := ⟨_, rfl⟩
    have hpm : c₁.pMessageData = c.pMessageData := by
      have := readHeader_pMessageData b c
      rwa [hread] at this
    rw [← hpm] at h
    have hq₁ := quiet_check s ok
    simp only [hread]
    split
    · obtain ⟨s', e, hs, hq, hl⟩ := scan_leaves env l (passed + 1)
        { c₁ with uiPacketIndex := c₁.uiPacketIndex + 1 } (s.check ok) h
      exact ⟨s', e, hs, hq₁.trans hq, hl.cons⟩
    split
    · exact ⟨_, _, rfl, hq₁, trivial⟩
    split
    · exact ⟨_, _, rfl, hq₁, trivial⟩
    have hget := quiet_getMessage env (CXPacketHeader.ofBytes c₁.packetHeader) c₁.pMessageData (s.check ok) h
    split
    · rename_i s₂ heq
      rw [heq] at hget
      exact ⟨_, _, rfl, hq₁.trans hget.1, trivial⟩
    rename_i s₂ m heq
    rw [heq] at hget
    obtain ⟨⟨m', iUsed, iBegin', ok'⟩, hbody⟩ :
      ∃ r, readBody b (CXPacketHeader.ofBytes c₁.packetHeader) m c₁.iUsedLen iLeft iBegin = r := ⟨_, rfl⟩
    have hm' : m'.dwType = 1 := by
      have := readBody_dwType b (CXPacketHeader.ofBytes c₁.packetHeader) m c₁.iUsedLen iLeft iBegin
      rw [hbody] at this
      exact this.trans (hget.2 m rfl)
    have hq₃ := (hq₁.trans hget.1).trans (quiet_check s₂ ok')
    simp only [hbody]
    split
    · obtain ⟨s', e, hs, hq, hl⟩ := scan_leaves env l (passed + 1) { c₁ with
        iUsedLen := iUsed, uiPacketIndex := c₁.uiPacketIndex + 1, pMessageData := some m' } (s₂.check ok')
        (by simpa using hm')
      exact ⟨s', e, hs, hq₃.trans hq, hl.cons⟩
    split
    · exact ⟨_, _, rfl, hq₃, hm', [b.nSequenceNum], rfl, rfl⟩
    · exact ⟨_, _, rfl, hq₃, hm', [], rfl, rfl⟩

theorem parseMessage_cases (env : RecvEnv) (m : CXMessageData) (h : CXPacketHeader) (s : RecvState) :
    (∃ s', parseMessage env m h s = (s', true) ∧ Pushed s s' m.iSequenceNum) ∨
      ∃ s', parseMessage env m h s = (s', false) ∧ Quiet s s' := by
  unfold parseMessage
  split
  · exact Or.inr ⟨_, rfl, rfl⟩
  have hq₁ := quiet_getScratch env (newBufferLen h) s
  split
  · rename_i s₁ heq
    rw [heq] at hq₁
    exact Or.inr ⟨_, rfl, hq₁.trans (quiet_freeBuffer _ _)⟩
  rename_i s₁ scratch heq
  rw [heq] at hq₁
  have hq₂ := hq₁.trans (quiet_getBuffer env (outputBufLen h) s₁)
  split
  · rename_i s₂ heq₂
    rw [heq₂] at hq₂
    exact Or.inr ⟨_, rfl, (hq₂.trans (quiet_freeBuffer _ _)).trans (quiet_freeScratch _ _)⟩
  rename_i s₂ id mem heq₂
  rw [heq₂] at hq₂
  have hq₃ : Quiet s { s₂ with calls := s₂.calls + 1 } := hq₂.trans rfl
  dsimp only
  split
  · refine Or.inr ⟨_, rfl, ?_⟩
    exact ((hq₃.trans (quiet_freeScratch _ _)).trans (quiet_freeBuffer _ _)).trans (quiet_freeBuffer _ _)
  · refine Or.inl ⟨_, rfl, _, _, ?_, ?_, ?_, rfl⟩
    · exact (hq₃.trans (quiet_freeScratch _ _)).trans (quiet_freeBuffer _ _)
    · rfl
    · rfl

/-- A delivered packet is pushed or becomes a task, or it is dropped. -/
theorem deliver_cases (env : RecvEnv) {h : CXPacketHeader} {f : Bool} {r : Option Int}
    (hd : s.deliver env h m f = some (s', r)) (hm : m.dwType = 1) :
    (r = none ∧ (Pushed s s' m.iSequenceNum ∨ Quiet { s with tasks := s.tasks ++ [(m, h)] } s')) ∨
      (∃ iRet, r = some iRet) ∧ Quiet s s' := by
  unfold deliver at hd
  split at hd
  · split at hd
    · split at hd
      · cases hd
        exact Or.inr ⟨⟨_, rfl⟩, rfl⟩
      split at hd
      · dsimp only at hd
        split at hd <;> cases hd
        · exact Or.inl ⟨rfl, Or.inr rfl⟩
        · exact Or.inr ⟨⟨_, rfl⟩, rfl⟩
      · rcases parseMessage_cases env m h s with ⟨s₁, heq, hp⟩ | ⟨s₁, heq, hq⟩
        · rw [heq] at hd
          cases hd
          exact Or.inl ⟨rfl, Or.inl hp⟩
        · rw [heq] at hd
          cases hd
          exact Or.inr ⟨⟨_, rfl⟩, hq.trans (quiet_freeBuffer _ _)⟩
    · cases hd
      exact Or.inl ⟨rfl, Or.inl ⟨s, m, rfl, rfl, hm, rfl⟩⟩
  · split at hd <;> cases hd
    exact Or.inr ⟨⟨_, rfl⟩, rfl⟩

end

/-! ### The scan -/

/-- The header that the bytes begin with. -/
def frontHeader (v : List UInt8) : CXPacketHeader := .ofBytes (v.take headerLen)

/-- The length of the packet that the bytes begin with. -/
def frontLen (v : List UInt8) : Nat := headerLen + (frontHeader v).dwDataLen

/-- The bytes begin with a whole packet. -/
def Complete (v : List UInt8) : Prop := headerLen ≤ v.length ∧ frontLen v ≤ v.length

instance (v : List UInt8) : Decidable (Complete v) := inferInstanceAs (Decidable (_ ∧ _))

/-- The scan goes on behind the header, with the message object of the call `k`. -/
structure Accepted (env : RecvEnv) (k : Nat) (h : CXPacketHeader) : Prop where
  flag : h.wFlag = cxPacketHeaderFlag
  le : h.dwDataLen ≤ cxMaxCacheSize
  served : (env.getBuffer k (messageDataLen + h.dwDataLen)).isSome

variable {env : RecvEnv} {k : Nat} {c : Cursor} {s : RecvState} {w v : List UInt8} {b : CXBufferObj}
  {m : CXMessageData}

theorem frontHeader_append (u : List UInt8) (h : headerLen ≤ v.length) :
    frontHeader (v ++ u) = frontHeader v := by
  unfold frontHeader
  rw [List.take_append_of_le_length h]

theorem frontLen_append (u : List UInt8) (h : headerLen ≤ v.length) : frontLen (v ++ u) = frontLen v := by
  unfold frontLen
  rw [frontHeader_append u h]

/-- The message object holds what the bytes have of the body. -/
structure MesReads (w : List UInt8) (m : CXMessageData) : Prop where
  dwDataLen : m.dwDataLen = (frontHeader w).dwDataLen
  body : m.bodyData.take (w.length - headerLen) = w.drop headerLen

/-- The cursor has passed the bytes `w`, which are not a whole packet. -/
structure Cursor.Reads (env : RecvEnv) (k : Nat) (c : Cursor) (s : RecvState) (w : List UInt8) : Prop where
  used : c.iUsedLen = w.length
  hdrLen : c.packetHeader.length = headerLen
  hdr : c.packetHeader.take w.length = w.take headerLen
  noMes : w.length < headerLen → c.pMessageData = none ∧ s.calls = k
  mes : headerLen ≤ w.length → w.length < frontLen w ∧ Accepted env k (frontHeader w) ∧
    ∃ m, c.pMessageData = some m ∧ MesReads w m

theorem Cursor.reads_start (env : RecvEnv) (s : RecvState) (i : Nat) :
    (Cursor.start i).Reads env s.calls s [] where
  used := rfl
  hdrLen := by simp [Cursor.start]
  hdr := by simp
  noMes _ := ⟨rfl, rfl⟩
  mes h := by simp [headerLen] at h

theorem Cursor.Reads.not_complete (h : c.Reads env k s w) : ¬ Complete w := by
  rintro ⟨hlen, hle⟩
  have := (h.mes hlen).1
  omega

/-- The packet with the bytes `v` and its message. -/
structure PacketOf (env : RecvEnv) (k : Nat) (v : List UInt8) (m : CXMessageData) : Prop where
  length : v.length = frontLen v
  accepted : Accepted env k (frontHeader v)
  mes : MesReads v m

/-- How a scan can end that has passed the bytes `w` and has `l` before it, in the buffer behind number `i`. -/
inductive ScanOf (env : RecvEnv) (k : Nat) (w : List UInt8) (i passed : Nat) (l : List CXBufferObj) : ScanEnd → Prop
  | drained (m : Option CXMessageData) (h : ¬ Complete (w ++ contig i l)) : ScanOf env k w i passed l (.drained m)
  | errorPacket (m : Option CXMessageData) : ScanOf env k w i passed l (.errorPacket m)
  | noBuffer : ScanOf env k w i passed l .noBuffer
  | packet {pre rest left : List CXBufferObj} {b : CXBufferObj} {n f : Nat} {v : List UInt8} {m : CXMessageData}
      (hl : l = pre ++ b :: rest) (hseq : InSeq i (pre ++ [b])) (hn : n ≤ b.len) (ht : Taken n pre b rest f left)
      (hv : v = w ++ pre.flatMap CXBufferObj.rest ++ b.rest.take n)
      (hlt : (w ++ pre.flatMap CXBufferObj.rest).length < frontLen v) (hp : PacketOf env k v m) :
      ScanOf env k w i passed l (.packet (frontHeader v) m (passed + f) left)

/-- `getMessage` at a whole header, which the bytes `v` end with unless there is a message already. -/
theorem getMessage_reads (h : c.Reads env k s w) (hv : v = w ∨ w.length < headerLen ∧ v.length = headerLen)
    (hlen : headerLen ≤ v.length) :
    ∃ s', Quiet s s' ∧ (getMessage env (frontHeader v) c.pMessageData s = (s', none) ∨
      ∃ m, getMessage env (frontHeader v) c.pMessageData s = (s', some m) ∧ MesReads v m ∧
        (env.getBuffer k (messageDataLen + (frontHeader v).dwDataLen)).isSome) := by
  by_cases hw : w.length < headerLen
  · obtain ⟨hno, rfl⟩ := h.noMes hw
    have hv' : v.length = headerLen := by
      rcases hv with rfl | ⟨-, hv⟩
      · omega
      · exact hv
    rw [hno]
    unfold getMessage RecvState.getBuffer
    cases hget : env.getBuffer s.calls (messageDataLen + (frontHeader v).dwDataLen) with
    | none => exact ⟨{ s with calls := s.calls + 1 }, rfl, .inl rfl⟩
    | some mem =>
      refine ⟨({ s with calls := s.calls + 1, events := s.events ++ [.alloc s.calls] } : RecvState).check
        (bodyOffset ≤ mem.length), rfl, .inr ⟨_, rfl, ⟨rfl, ?_⟩, rfl⟩⟩
      rw [hv', Nat.sub_self, List.take_zero, List.drop_of_length_le (by omega)]
  · obtain ⟨-, hacc, m, hm, hmes⟩ := h.mes (not_lt.mp hw)
    obtain rfl : v = w := hv.resolve_right fun h => hw h.1
    rw [hm]
    exact ⟨s, rfl, .inr ⟨m, rfl, hmes, hacc.served⟩⟩

/-- A nonempty buffer in sequence: an error, or it is passed, or the packet ends in it. -/
theorem scan_step_reads (rest : List CXBufferObj) (passed : Nat) (h : c.Reads env k s w) (hb : b.Ok)
    (hseq : b.nSequenceNum = c.uiPacketIndex + 1) (h0 : b.len ≠ 0) :
    ∃ s', Quiet s s' ∧
      (scan env (b :: rest) passed c s = (s', .noBuffer) ∨
      (∃ m, scan env (b :: rest) passed c s = (s', .errorPacket m)) ∨
      (∃ c', scan env (b :: rest) passed c s = scan env rest (passed + 1) c' s' ∧
        c'.uiPacketIndex = c.uiPacketIndex + 1 ∧ c'.Reads env k s' (w ++ b.rest)) ∨
      ∃ n m f left, scan env (b :: rest) passed c s = (s', .packet (frontHeader (w ++ b.rest.take n)) m (passed + f) left) ∧
        n ≤ b.len ∧ Taken n [] b rest f left ∧ w.length < frontLen (w ++ b.rest.take n) ∧
        PacketOf env k (w ++ b.rest.take n) m) := by
  have hrl := hb.length_rest
  obtain ⟨n₁, hdr, hread, hdrl, hdrw, hn₁⟩ := readHeader_spec h.used h.hdrLen h.hdr hb
  have htake : ∀ n, n ≤ b.len → (w ++ b.rest.take n).length = w.length + n := fun n hn => by
    rw [List.length_append, List.length_take]
    omega
  have hall : b.rest.take b.len = b.rest := List.take_of_length_le (by omega)
  by_cases hshort : w.length + n₁ < headerLen
  · -- the buffer ends within the header
    have hnb : n₁ = b.len := by omega
    subst hnb
    refine ⟨s, rfl, .inr (.inr (.inl ⟨{ c with
      packetHeader := hdr, iUsedLen := w.length + b.len, uiPacketIndex := c.uiPacketIndex + 1 }, ?_, rfl, ?_⟩))⟩
    · rw [scan, if_neg (not_not.mpr hseq), if_neg h0, hread]
      simp only [check_true, if_pos hshort]
    · have hlen := htake b.len le_rfl
      rw [hall] at hlen hdrw
      exact {
        used := hlen.symm
        hdrLen := hdrl
        hdr := by rw [hlen]; exact hdrw
        noMes := fun _ => h.noMes (by omega)
        mes := fun hw => by omega }
  -- the header is complete
  obtain ⟨v, hv⟩ : ∃ v, v = w ++ b.rest.take n₁ := ⟨_, rfl⟩
  have hvlen : v.length = w.length + n₁ := by rw [hv]; exact htake n₁ (by omega)
  have hvle : headerLen ≤ v.length := by omega
  have hof : CXPacketHeader.ofBytes hdr = frontHeader v := by
    rw [List.take_of_length_le (by omega)] at hdrw
    rw [hdrw, ← hv]
    rfl
  have hor : v = w ∨ w.length < headerLen ∧ v.length = headerLen := by
    by_cases hw : w.length < headerLen
    · exact .inr ⟨hw, by omega⟩
    · have : n₁ = 0 := by omega
      rw [hv, this, List.take_zero, List.append_nil]
      exact .inl rfl
  by_cases hflag : (frontHeader v).wFlag = cxPacketHeaderFlag
  swap
  · refine ⟨s, rfl, .inr (.inl ⟨c.pMessageData, ?_⟩)⟩
    rw [scan, if_neg (not_not.mpr hseq), if_neg h0, hread]
    simp only [check_true, if_neg hshort, hof, if_pos hflag]
  by_cases hmax : (frontHeader v).dwDataLen > cxMaxCacheSize
  · refine ⟨s, rfl, .inr (.inl ⟨c.pMessageData, ?_⟩)⟩
    rw [scan, if_neg (not_not.mpr hseq), if_neg h0, hread]
    simp only [check_true, if_neg hshort, hof, if_neg (not_not.mpr hflag), if_pos hmax]
  obtain ⟨s₁, hq₁, hget | ⟨m, hget, hmes, hserved⟩⟩ := getMessage_reads h hor hvle
  · refine ⟨s₁, hq₁, .inl ?_⟩
    rw [scan, if_neg (not_not.mpr hseq), if_neg h0, hread]
    simp only [check_true, if_neg hshort, hof, if_neg (not_not.mpr hflag), if_neg hmax, hget]
  -- the message object gets what the buffer has of the body
  have hacc : Accepted env k (frontHeader v) := ⟨hflag, not_lt.mp hmax, hserved⟩
  have hfront : frontLen v = headerLen + (frontHeader v).dwDataLen := rfl
  have hvfront : v.length ≤ frontLen v := by
    rcases hor with rfl | ⟨-, hvh⟩
    · exact le_of_lt (h.mes hvle).1
    · omega
  have hbok := hb
  unfold CXBufferObj.Ok at hbok
  obtain ⟨n₂, hn₂⟩ : ∃ n₂, n₂ = min (b.len - n₁) (frontLen v - v.length) := ⟨_, rfl⟩
  obtain ⟨m', ok, hbody, -, hdl, hbytes, -⟩ := readBody_bytes (b := b) (n := n₂) (frontHeader v) (b.len - n₁)
    (b.nCurDataPointer + n₁) hmes.body hvle hvfront (by omega) hn₂
  rw [hvlen] at hbody
  obtain ⟨n, hn⟩ : ∃ n, n = n₁ + n₂ := ⟨_, rfl⟩
  have hcat : v ++ (b.buf.drop (b.nCurDataPointer + n₁)).take n₂ = w ++ b.rest.take n := by
    rw [hv, List.append_assoc, hb.rest_eq, ← List.drop_drop, ← List.take_add, hn]
  have hlen : (w ++ b.rest.take n).length = w.length + n := htake n (by omega)
  have hhead : frontHeader (w ++ b.rest.take n) = frontHeader v := by
    rw [← hcat]
    exact frontHeader_append _ hvle
  have hflen : frontLen (w ++ b.rest.take n) = frontLen v := by
    unfold frontLen
    rw [hhead]
  have hmes' : MesReads (w ++ b.rest.take n) m' := by
    refine ⟨by rw [hhead, hdl]; exact hmes.dwDataLen, ?_⟩
    rw [hlen, ← hcat, show w.length + n - headerLen = v.length + n₂ - headerLen by omega]
    exact hbytes
  have hscan : ∀ r, scan env (b :: rest) passed c s = r ↔
      (if w.length + n < frontLen v then scan env rest (passed + 1) { c with
          packetHeader := hdr, iUsedLen := w.length + n, uiPacketIndex := c.uiPacketIndex + 1,
          pMessageData := some m' } (s₁.check ok)
        else if b.len - n = 0 then (s₁.check ok, .packet (frontHeader v) m' (passed + 1) rest)
        else (s₁.check ok, .packet (frontHeader v) m' passed
          ({ b with len := b.len - n, nCurDataPointer := b.nCurDataPointer + n } :: rest))) = r := by
    intro r
    rw [scan, if_neg (not_not.mpr hseq), if_neg h0, hread]
    simp only [check_true, if_neg hshort, hof, if_neg (not_not.mpr hflag), if_neg hmax, hget, hbody, Nat.add_assoc,
      ← hn, Nat.add_sub_cancel_left, hfront, Nat.add_comm headerLen]
  refine ⟨s₁.check ok, hq₁.trans (quiet_check s₁ ok), ?_⟩
  by_cases hmore : w.length + n < frontLen v
  · -- the buffer ends within the packet
    obtain rfl : n = b.len := by omega
    rw [hall] at hlen hhead hflen hmes'
    refine .inr (.inr (.inl ⟨{ c with
      packetHeader := hdr, iUsedLen := w.length + b.len, uiPacketIndex := c.uiPacketIndex + 1,
      pMessageData := some m' }, ?_, rfl, ?_⟩))
    · rw [hscan, if_pos hmore]
    · exact {
        used := hlen.symm
        hdrLen := hdrl
        hdr := by
          show hdr.take (w ++ b.rest).length = _
          rw [List.take_of_length_le (by omega)] at hdrw ⊢
          rw [hdrw, ← hv, ← hall, ← hcat, List.take_append_of_le_length hvle]
        noMes := fun hw => by omega
        mes := fun _ => ⟨by omega, by rw [hhead]; exact hacc, m', rfl, hmes'⟩ }
  · have hwlt : w.length < frontLen v := by
      rcases hor with rfl | ⟨hw, -⟩
      · exact (h.mes hvle).1
      · omega
    have hp : PacketOf env k (w ++ b.rest.take n) m' :=
      ⟨by rw [hlen, hflen]; omega, by rw [hhead]; exact hacc, hmes'⟩
    rw [← hflen] at hwlt
    by_cases hz : b.len - n = 0
    · refine .inr (.inr (.inr ⟨n, m', 1, rest, ?_, by omega, .whole hz, hwlt, hp⟩))
      rw [hscan, if_neg hmore, if_pos hz, hhead]
    · refine .inr (.inr (.inr ⟨n, m', 0, _, ?_, by omega, .part hz, hwlt, hp⟩))
      rw [hscan, if_neg hmore, if_neg hz, hhead]
      rfl

theorem scan_reads : ∀ (l : List CXBufferObj) (passed : Nat) (c : Cursor) (s : RecvState) (w : List UInt8),
    c.Reads env k s w → (∀ b ∈ l, b.Ok) →
    ∃ s' e, scan env l passed c s = (s', e) ∧ Quiet s s' ∧ ScanOf env k w c.uiPacketIndex passed l e
  | [], passed, c, s, w, h, _ => by
    refine ⟨s, _, rfl, rfl, .drained _ ?_⟩
    rw [contig, List.append_nil]
    exact h.not_complete
  | b :: l, passed, c, s, w, h, hok => by
    have hb := hok b (List.mem_cons_self ..)
    have hokl : ∀ a ∈ l, a.Ok := fun a ha => hok a (List.mem_cons_of_mem _ ha)
    by_cases hseq : b.nSequenceNum = c.uiPacketIndex + 1
    swap
    · refine ⟨s, _, by rw [scan, if_pos hseq], rfl, .drained _ ?_⟩
      rw [contig, if_neg hseq, List.append_nil]
      exact h.not_complete
    -- what the scan of the rest of the list says about the whole list
    have hcons : ∀ {e}, ScanOf env k (w ++ b.rest) (c.uiPacketIndex + 1) (passed + 1) l e →
        ScanOf env k w c.uiPacketIndex passed (b :: l) e := by
      intro e he
      cases he with
      | drained m hm =>
        refine .drained m ?_
        rw [contig, if_pos hseq, ← List.append_assoc]
        exact hm
      | errorPacket m => exact .errorPacket m
      | noBuffer => exact .noBuffer
      | @packet pre rest left b' n f v m hl hseq' hn ht hv hlt hp =>
        have hcat : w ++ (b :: pre).flatMap CXBufferObj.rest = w ++ b.rest ++ pre.flatMap CXBufferObj.rest := by
          rw [List.flatMap_cons, List.append_assoc]
        have ht' : Taken n (b :: pre) b' rest (1 + f) left := by
          cases ht with
          | whole hz =>
            rw [Nat.add_comm 1, Nat.add_right_comm]
            exact .whole hz
          | part hz =>
            rw [Nat.add_comm 1]
            exact .part hz
        rw [Nat.add_assoc]
        have hs : InSeq c.uiPacketIndex (b :: pre ++ [b']) := ⟨hseq, hseq'⟩
        exact .packet (by rw [hl]; rfl) hs hn ht' (by rw [hcat]; exact hv) (by rw [hcat]; exact hlt) hp
    by_cases h0 : b.len = 0
    · have hrest : b.rest = [] := List.eq_nil_of_length_eq_zero (by rw [hb.length_rest, h0])
      rw [hrest, List.append_nil] at hcons
      obtain ⟨s', e, hscan, hq, he⟩ := scan_reads l (passed + 1) { c with uiPacketIndex := c.uiPacketIndex + 1 } s w
        ⟨h.used, h.hdrLen, h.hdr, h.noMes, h.mes⟩ hokl
      refine ⟨s', e, ?_, hq, hcons he⟩
      rw [scan, if_neg (not_not.mpr hseq), if_pos h0]
      exact hscan
    obtain ⟨s₁, hq₁, hscan | ⟨m, hscan⟩ | ⟨c', hscan, hidx, hc'⟩ | ⟨n, m, f, left, hscan, hn, ht, hlt, hp⟩⟩ :=
      scan_step_reads l passed h hb hseq h0
    · exact ⟨s₁, _, hscan, hq₁, .noBuffer⟩
    · exact ⟨s₁, _, hscan, hq₁, .errorPacket m⟩
    · obtain ⟨s', e, hscan', hq, he⟩ := scan_reads l (passed + 1) c' s₁ (w ++ b.rest) hc' hokl
      rw [hidx] at he
      exact ⟨s', e, hscan.trans hscan', hq₁.trans hq, hcons he⟩
    · have hs : InSeq c.uiPacketIndex ([] ++ [b]) := ⟨hseq, trivial⟩
      refine ⟨s₁, _, hscan, hq₁, .packet rfl hs hn ht ?_ ?_ hp⟩
      · rw [List.flatMap_nil, List.append_nil]
      · rw [List.flatMap_nil, List.append_nil]
        exact hlt

end RecvState

end KonsanNet
