import KonsanNet.RecvPacket

/-!
# The scan over a stream of plain packets

`scan` restarts at the head of the read list for every packet. Its invariant (`Cursor.Holds`) says that
the bytes `w` of the next packet `p` it has passed are the ones in the header structure and in the
message object, and that there are `iUsedLen` of them. `scan_spec` is the result: the scan is drained,
when the buffers in sequence (`contig`) hold less than `p`, or it stops in the buffer in which `p` ends.
-/

namespace KonsanNet

namespace CXBufferObj

/-- The bytes left are the ones from `nCurDataPointer` to the end of the received data. -/
def Ok (b : CXBufferObj) : Prop := b.nCurDataPointer + b.len = b.buf.length

variable {b : CXBufferObj}

theorem Ok.rest_eq (h : b.Ok) : b.rest = b.buf.drop b.nCurDataPointer :=
  List.take_of_length_le (by rw [List.length_drop]; unfold Ok at h; omega)

theorem Ok.length_rest (h : b.Ok) : b.rest.length = b.len := by
  rw [h.rest_eq, List.length_drop]
  unfold Ok at h
  omega

theorem ok_received (i : Nat) (bytes : List UInt8) : (received i bytes).Ok := Nat.zero_add _

end CXBufferObj

/-- `GetBuffer` serves the message of a packet whenever it is asked, with an object that holds it. -/
def RecvEnv.Serves (env : RecvEnv) (p : PlainPacket) : Prop :=
  ∀ n, ∃ mem, env.getBuffer n (messageDataLen + p.body.length) = some mem ∧
    messageDataLen + p.body.length ≤ mem.length

theorem RecvEnv.Serves.body_le {env : RecvEnv} {p : PlainPacket} (h : env.Serves p) :
    p.body.length ≤ cxMaxCacheSize := by
  obtain ⟨mem, hm, -⟩ := h 0
  have := env.getBuffer_le hm
  omega

namespace RecvState

/-- Only the call counter and the record of buffer events differ. -/
def Same (s s' : RecvState) : Prop := s' = { s with calls := s'.calls, events := s'.events }

theorem Same.refl (s : RecvState) : Same s s := rfl

theorem Same.trans {s s' s'' : RecvState} (h : Same s s') (h' : Same s' s'') : Same s s'' := by
  unfold Same at h h' ⊢
  rw [h', h]

@[simp] theorem check_true (s : RecvState) : s.check true = s := by simp [check]

/-- The message object holds the body bytes of the part `w` of the packet. -/
structure MesHolds (p : PlainPacket) (m : CXMessageData) (w : List UInt8) : Prop where
  dwDataLen : m.dwDataLen = p.body.length
  room : p.body.length ≤ m.bodyData.length
  body : m.bodyData.take (w.length - headerLen) = w.drop headerLen

/-- The cursor has passed the proper part `w` of the packet. -/
structure Cursor.Holds (p : PlainPacket) (c : Cursor) (w : List UInt8) : Prop where
  used : c.iUsedLen = w.length
  lt : w.length < p.size
  hdrLen : c.packetHeader.length = headerLen
  hdr : c.packetHeader.take w.length = w.take headerLen
  noMes : w.length < headerLen → c.pMessageData = none
  mes : headerLen ≤ w.length → ∃ m, c.pMessageData = some m ∧ MesHolds p m w

variable {env : RecvEnv} {p : PlainPacket} {c : Cursor} {w : List UInt8} {b : CXBufferObj}

theorem Cursor.holds_start (p : PlainPacket) (k : Nat) : (Cursor.start k).Holds p [] where
  used := rfl
  lt := by simp [PlainPacket.size, headerLen]
  hdrLen := by simp [Cursor.start]
  hdr := by simp
  noMes _ := rfl
  mes h := by simp [headerLen] at h

/-- `readHeader` moves `n` bytes: all of the buffer while the header is incomplete. -/
theorem readHeader_spec (hused : c.iUsedLen = w.length) (hlen : c.packetHeader.length = headerLen)
    (hhdr : c.packetHeader.take w.length = w.take headerLen) (hb : b.Ok) :
    ∃ n hdr, readHeader b c = ({ c with packetHeader := hdr, iUsedLen := w.length + n }, b.len - n,
        b.nCurDataPointer + n, true) ∧
      hdr.length = headerLen ∧ hdr.take (w.length + n) = (w ++ b.rest.take n).take headerLen ∧
      n = min (headerLen - w.length) b.len := by
  unfold readHeader
  rw [hused]
  by_cases hw : w.length < headerLen
  · obtain ⟨n, hn⟩ : ∃ n, n = min (headerLen - w.length) b.len := ⟨_, rfl⟩
    have hif : (if b.len < headerLen - w.length then b.len else headerLen - w.length) = n := by
      rw [hn]; split <;> omega
    have hb' : b.nCurDataPointer + n ≤ b.buf.length := by unfold CXBufferObj.Ok at hb; omega
    have hsrc : ((b.buf.drop b.nCurDataPointer).take n).length = n := by
      rw [List.length_take, List.length_drop]; omega
    have hpre : c.packetHeader.take w.length = w := by
      rw [hhdr, List.take_of_length_le (by omega)]
    refine ⟨n, memcpy c.packetHeader w.length ((b.buf.drop b.nCurDataPointer).take n), ?_, ?_, ?_, hn⟩
    · rw [if_pos hw]
      simp only [hif, hlen]
      have : w.length + n ≤ headerLen := by omega
      simp [this, hb']
    · rw [length_memcpy (by rw [hsrc]; omega), hlen]
    · have := take_memcpy ((b.buf.drop b.nCurDataPointer).take n) rfl hpre
      rw [hsrc] at this
      rw [this, hb.rest_eq]
      exact (List.take_of_length_le (by rw [List.length_append, hsrc]; omega)).symm
  · refine ⟨0, c.packetHeader, ?_, hlen, ?_, by omega⟩
    · rw [if_neg hw]
      cases c
      simp_all
    · simpa using hhdr

/-- `readBody` moves what the packet still needs, as far as the buffer has it. -/
theorem readBody_bytes {m : CXMessageData} (hd : CXPacketHeader) (iLeft iBegin : Nat) {n : Nat}
    (hm : m.bodyData.take (w.length - headerLen) = w.drop headerLen) (hw : headerLen ≤ w.length)
    (hle : w.length ≤ headerLen + hd.dwDataLen) (hb : iBegin + iLeft = b.buf.length)
    (hn : n = min iLeft (headerLen + hd.dwDataLen - w.length)) :
    ∃ m' ok, readBody b hd m w.length iLeft iBegin = (m', w.length + n, iBegin + n, ok) ∧
      m'.id = m.id ∧ m'.dwDataLen = m.dwDataLen ∧
      m'.bodyData.take (w.length + n - headerLen) = (w ++ (b.buf.drop iBegin).take n).drop headerLen ∧
      (hd.dwDataLen ≤ m.bodyData.length → ok = true ∧ m'.bodyData.length = m.bodyData.length) := by
  have hsrc : ((b.buf.drop iBegin).take n).length = n := by
    rw [List.length_take, List.length_drop]; omega
  unfold readBody
  by_cases hc : iLeft > 0 ∧ hd.dwDataLen + headerLen - w.length > 0
  · have hif : (if iLeft < hd.dwDataLen + headerLen - w.length then iLeft
        else hd.dwDataLen + headerLen - w.length) = n := by
      split <;> omega
    have hcopy := take_memcpy ((b.buf.drop iBegin).take n) (by rw [List.length_drop]) hm
    rw [hsrc] at hcopy
    simp only [if_pos hc, hif]
    refine ⟨{ m with bodyData := memcpy m.bodyData (w.length - headerLen) ((b.buf.drop iBegin).take n) },
      _, rfl, rfl, rfl, ?_, fun hroom => ⟨?_, ?_⟩⟩
    · rw [List.drop_append_of_le_length hw, show w.length + n - headerLen = w.length - headerLen + n by omega]
      exact hcopy
    · have h1 : w.length - headerLen + n ≤ m.bodyData.length := by omega
      have h2 : iBegin + n ≤ b.buf.length := by omega
      simp [h1, h2]
    · exact length_memcpy (by rw [hsrc]; omega)
  · have hn0 : n = 0 := by omega
    subst hn0
    rw [if_neg hc]
    exact ⟨m, true, rfl, rfl, rfl, by simpa using hm, fun _ => ⟨rfl, rfl⟩⟩

/-- The same for the body of `p`, for which the message object has room. -/
theorem readBody_spec {m : CXMessageData} (hd : CXPacketHeader) (iLeft iBegin : Nat) {n : Nat}
    (hm : MesHolds p m w) (hh : hd.dwDataLen = p.body.length) (hw : headerLen ≤ w.length)
    (hle : w.length ≤ p.size) (hb : iBegin + iLeft = b.buf.length) (hn : n = min iLeft (p.size - w.length)) :
    ∃ m', readBody b hd m w.length iLeft iBegin = (m', w.length + n, iBegin + n, true) ∧
      m'.id = m.id ∧ MesHolds p m' (w ++ (b.buf.drop iBegin).take n) := by
  have hsize : headerLen + hd.dwDataLen = p.size := by rw [hh]; rfl
  have hroom := hm.room
  obtain ⟨m', ok, hread, hid, hlen, hbody, hok⟩ := readBody_bytes (b := b) (n := n) hd iLeft iBegin
    hm.body hw (by omega) hb (by rw [hsize]; exact hn)
  obtain ⟨rfl, hlen'⟩ := hok (by omega)
  refine ⟨m', hread, hid, hlen.trans hm.dwDataLen, by omega, ?_⟩
  have hsrc : ((b.buf.drop iBegin).take n).length = n := by
    rw [List.length_take, List.length_drop]; omega
  rw [List.length_append, hsrc]
  exact hbody

/-- The header of the packet, as `ofBytes` reads it. -/
def headerOf (p : PlainPacket) : CXPacketHeader :=
  ⟨cxPacketHeaderFlag, 0, 0, p.body.length, byteSum p.body, p.dwOrignDataLen.toNat⟩

/-- The message of a packet that was just taken: the body and its length. -/
structure MesDone (p : PlainPacket) (m : CXMessageData) : Prop where
  dwDataLen : m.dwDataLen = p.body.length
  body : m.bodyData.take p.body.length = p.body

theorem getMessage_spec (hs : env.Serves p) (s : RecvState) (pm : Option CXMessageData)
    (hno : w.length < headerLen → pm = none)
    (hmes : headerLen ≤ w.length → ∃ m, pm = some m ∧ MesHolds p m w) {v : List UInt8}
    (hv : v = w ∨ w.length < headerLen ∧ v.length = headerLen) (hvl : headerLen ≤ v.length) :
    ∃ s' m, getMessage env (headerOf p) pm s = (s', some m) ∧ Same s s' ∧ MesHolds p m v := by
  by_cases hw : w.length < headerLen
  · rw [hno hw]
    obtain ⟨mem, hget, hmem⟩ := hs s.calls
    have hv' : v.length = headerLen := by
      rcases hv with rfl | ⟨-, hv⟩
      · omega
      · exact hv
    have hroom : bodyOffset ≤ mem.length := by simp only [messageDataLen, bodyOffset] at *; omega
    refine ⟨{ s with calls := s.calls + 1, events := s.events ++ [.alloc s.calls] },
      ⟨s.calls, 1, p.body.length, 0, mem.drop bodyOffset⟩, ?_, rfl, rfl, ?_, ?_⟩
    · simp only [getMessage, RecvState.getBuffer, headerOf, hget]
      simp [hroom]
    · simp only [List.length_drop, bodyOffset, messageDataLen] at *
      omega
    · rw [hv', Nat.sub_self, List.take_zero, List.drop_of_length_le (by omega)]
  · obtain ⟨m, rfl, hm⟩ := hmes (not_lt.mp hw)
    have hv' : v = w := hv.resolve_right fun h => hw h.1
    exact ⟨s, m, rfl, Same.refl s, hv' ▸ hm⟩

theorem headerOf_eq {v T : List UInt8} (h : v <+: p.encode ++ T) (hv : headerLen ≤ v.length) :
    v.take headerLen = p.header := by
  rw [List.prefix_iff_eq_take.mp h, List.take_take, Nat.min_eq_left hv, PlainPacket.encode,
    List.append_assoc, ← p.length_header, List.take_left]

/-- A nonempty buffer in sequence, of which the packet takes `n` bytes: either it is passed, or the
packet ends in it. -/
theorem scan_step (hs : env.Serves p) (s : RecvState) {T : List UInt8} (rest : List CXBufferObj)
    (passed : Nat) {n : Nat} (h : c.Holds p w) (hb : b.Ok) (hseq : b.nSequenceNum = c.uiPacketIndex + 1)
    (hpre : w ++ b.rest <+: p.encode ++ T) (h0 : b.len ≠ 0) (hn : n = min b.len (p.size - w.length)) :
    ∃ s', Same s s' ∧
      (w.length + n < p.size → ∃ c', scan env (b :: rest) passed c s = scan env rest (passed + 1) c' s' ∧
        c'.uiPacketIndex = c.uiPacketIndex + 1 ∧ c'.Holds p (w ++ b.rest.take n)) ∧
      (w.length + n = p.size → ∃ m, MesDone p m ∧ scan env (b :: rest) passed c s = (s',
        if b.len - n = 0 then .packet (headerOf p) m (passed + 1) rest
        else .packet (headerOf p) m passed
          ({ b with len := b.len - n, nCurDataPointer := b.nCurDataPointer + n } :: rest))) := by
  have hsize : p.size = headerLen + p.body.length := rfl
  have hlt := h.lt
  have hrl := hb.length_rest
  obtain ⟨n₁, hdr, hread, hdrl, hdrw, hn₁⟩ := readHeader_spec h.used h.hdrLen h.hdr hb
  have htake : ∀ k, k ≤ b.len → (w ++ b.rest.take k).length = w.length + k := fun k hk => by
    rw [List.length_append, List.length_take]; omega
  by_cases hshort : w.length + n₁ < headerLen
  · -- the buffer ends within the header
    have hnn : n = n₁ := by omega
    have hnb : n = b.len := by omega
    refine ⟨s, Same.refl s, fun _ => ⟨{ c with
      packetHeader := hdr, iUsedLen := w.length + n₁, uiPacketIndex := c.uiPacketIndex + 1 },
      ?_, rfl, ?_⟩, fun hend => by omega⟩
    · rw [scan, if_neg (not_not.mpr hseq), if_neg h0, hread]
      simp only [check_true, if_pos hshort]
    · rw [hnn]
      exact {
        used := (htake n₁ (by omega)).symm
        lt := by rw [htake n₁ (by omega)]; omega
        hdrLen := hdrl
        hdr := by rw [htake n₁ (by omega)]; exact hdrw
        noMes := fun _ => h.noMes (by omega)
        mes := fun hw => by rw [htake n₁ (by omega)] at hw; omega }
  · -- the header is complete: the message object gets what the buffer has of the body
    have hw₁ := htake n₁ (by omega)
    have hhdr : hdr = p.header := by
      rw [List.take_of_length_le (by omega)] at hdrw
      rw [hdrw]
      refine headerOf_eq (T := T) (List.IsPrefix.trans ?_ hpre) (by omega)
      exact List.prefix_append_right_inj _ |>.mpr (List.take_prefix _ _)
    have hof : CXPacketHeader.ofBytes hdr = headerOf p := by
      rw [hhdr]; exact p.ofBytes_header hs.body_le
    have hflag : ¬ ((headerOf p).wFlag ≠ cxPacketHeaderFlag) := not_not.mpr rfl
    have hmax : ¬ ((headerOf p).dwDataLen > cxMaxCacheSize) := not_lt.mpr hs.body_le
    obtain ⟨s', m, hget, hsame, hm⟩ := getMessage_spec hs s c.pMessageData h.noMes h.mes
      (v := w ++ b.rest.take n₁)
      (by
        by_cases hw : w.length < headerLen
        · exact Or.inr ⟨hw, by omega⟩
        · left
          have : n₁ = 0 := by omega
          simp [this])
      (by omega)
    obtain ⟨m', hbody, -, hm'⟩ := readBody_spec (b := b) (headerOf p) (b.len - n₁)
      (b.nCurDataPointer + n₁) (n := n - n₁) hm rfl (by omega) (by omega)
      (by unfold CXBufferObj.Ok at hb; omega) (by omega)
    rw [hw₁] at hbody
    have hcat : w ++ b.rest.take n₁ ++ (b.buf.drop (b.nCurDataPointer + n₁)).take (n - n₁) =
        w ++ b.rest.take n := by
      rw [List.append_assoc, hb.rest_eq, ← List.drop_drop, ← List.take_add, Nat.add_sub_cancel' (by omega)]
    rw [hcat] at hm'
    have hused : w.length + n₁ + (n - n₁) = w.length + n := by omega
    have hbegin : b.nCurDataPointer + n₁ + (n - n₁) = b.nCurDataPointer + n := by omega
    have hdl : (headerOf p).dwDataLen + headerLen = p.size := by rw [hsize, Nat.add_comm]; rfl
    have hscan : ∀ r, scan env (b :: rest) passed c s = r ↔
        (if w.length + n < p.size then scan env rest (passed + 1) { c with
            packetHeader := hdr, iUsedLen := w.length + n, uiPacketIndex := c.uiPacketIndex + 1,
            pMessageData := some m' } s'
          else if b.len - n = 0 then (s', .packet (headerOf p) m' (passed + 1) rest)
          else (s', .packet (headerOf p) m' passed
            ({ b with len := b.len - n, nCurDataPointer := b.nCurDataPointer + n } :: rest))) = r := by
      intro r
      rw [scan, if_neg (not_not.mpr hseq), if_neg h0, hread]
      simp only [check_true, if_neg hshort, hof, if_neg hflag, if_neg hmax, hget, hbody, hused, hbegin,
        hdl, Nat.add_sub_cancel_left]
    refine ⟨s', hsame, fun hmore => ⟨{ c with
      packetHeader := hdr, iUsedLen := w.length + n, uiPacketIndex := c.uiPacketIndex + 1,
      pMessageData := some m' }, ?_, rfl, ?_⟩, fun hend => ⟨m', ⟨hm'.dwDataLen, ?_⟩, ?_⟩⟩
    · rw [hscan, if_pos hmore]
    · have hwn := htake n (by omega)
      exact {
        used := hwn.symm
        lt := by omega
        hdrLen := hdrl
        hdr := by
          show hdr.take (w ++ b.rest.take n).length = _
          rw [List.take_of_length_le (by omega), hhdr]
          refine (headerOf_eq (T := T) (List.IsPrefix.trans ?_ hpre) (by omega)).symm
          exact List.prefix_append_right_inj _ |>.mpr (List.take_prefix _ _)
        noMes := fun hw => by omega
        mes := fun _ => ⟨m', rfl, hm'⟩ }
    · have hfull : w ++ b.rest.take n = p.encode := by
        have hpre' : w ++ b.rest.take n <+: p.encode ++ T :=
          List.IsPrefix.trans (List.prefix_append_right_inj _ |>.mpr (List.take_prefix _ _)) hpre
        rw [List.prefix_iff_eq_take.mp hpre', htake n (by omega), hend, ← p.length_encode, List.take_left]
      have := hm'.body
      rw [hfull, p.length_encode, hsize, Nat.add_sub_cancel_left] at this
      rw [this, PlainPacket.encode, ← p.length_header, List.drop_left]
    · rw [hscan, if_neg (by omega)]
      split <;> rfl

theorem scan_pass (hs : env.Serves p) (s : RecvState) {T : List UInt8} (rest : List CXBufferObj)
    (passed : Nat) (h : c.Holds p w) (hb : b.Ok) (hseq : b.nSequenceNum = c.uiPacketIndex + 1)
    (hpre : w ++ b.rest <+: p.encode ++ T) (hlt : w.length + b.len < p.size) :
    ∃ s' c', Same s s' ∧ scan env (b :: rest) passed c s = scan env rest (passed + 1) c' s' ∧
      c'.uiPacketIndex = c.uiPacketIndex + 1 ∧ c'.Holds p (w ++ b.rest) := by
  by_cases h0 : b.len = 0
  · refine ⟨s, { c with uiPacketIndex := c.uiPacketIndex + 1 }, Same.refl s, ?_, rfl, ?_⟩
    · rw [scan, if_neg (not_not.mpr hseq), if_pos h0]
    · have : b.rest = [] := List.eq_nil_of_length_eq_zero (by rw [hb.length_rest, h0])
      rw [this, List.append_nil]
      exact ⟨h.used, h.lt, h.hdrLen, h.hdr, h.noMes, h.mes⟩
  · obtain ⟨s', hsame, hmore, -⟩ := scan_step hs s rest passed h hb hseq hpre h0
      (n := b.len) (by omega)
    obtain ⟨c', hscan, hidx, hc'⟩ := hmore hlt
    rw [List.take_of_length_le (le_of_eq hb.length_rest)] at hc'
    exact ⟨s', c', hsame, hscan, hidx, hc'⟩

/-- The bytes left in the buffers that follow number `k` without a gap. -/
def contig : Nat → List CXBufferObj → List UInt8
  | _, [] => []
  | k, b :: l => if b.nSequenceNum = k + 1 then b.rest ++ contig (k + 1) l else []

/-- The buffers have the numbers `k + 1`, `k + 2`, … -/
def InSeq : Nat → List CXBufferObj → Prop
  | _, [] => True
  | k, b :: l => b.nSequenceNum = k + 1 ∧ InSeq (k + 1) l

/-- A whole scan, from a cursor that has passed the part `w` of the packet `p`. -/
theorem scan_spec (hs : env.Serves p) {T : List UInt8} :
    ∀ (l : List CXBufferObj) (passed : Nat) (c : Cursor) (s : RecvState) (w : List UInt8),
      c.Holds p w → (∀ b ∈ l, b.Ok) → w ++ contig c.uiPacketIndex l <+: p.encode ++ T →
      ∃ s', Same s s' ∧
        ((w.length + (contig c.uiPacketIndex l).length < p.size ∧
            ∃ m, scan env l passed c s = (s', .drained m)) ∨
          ∃ pre b rest n m, l = pre ++ b :: rest ∧ InSeq c.uiPacketIndex (pre ++ [b]) ∧ n ≤ b.len ∧
            w ++ pre.flatMap CXBufferObj.rest ++ b.rest.take n = p.encode ∧ MesDone p m ∧
            scan env l passed c s = (s',
              if b.len - n = 0 then .packet (headerOf p) m (passed + pre.length + 1) rest
              else .packet (headerOf p) m (passed + pre.length)
                ({ b with len := b.len - n, nCurDataPointer := b.nCurDataPointer + n } :: rest)))
  | [], passed, c, s, w, h, _, _ => ⟨s, Same.refl s, Or.inl ⟨h.lt, _, rfl⟩⟩
  | b :: l, passed, c, s, w, h, hok, hpre => by
    have hb := hok b (List.mem_cons_self ..)
    by_cases hseq : b.nSequenceNum = c.uiPacketIndex + 1
    · rw [contig, if_pos hseq] at hpre ⊢
      rw [← List.append_assoc] at hpre
      have hpre' : w ++ b.rest <+: p.encode ++ T := (List.prefix_append _ _).trans hpre
      by_cases hlt : w.length + b.len < p.size
      · obtain ⟨s₁, c₁, hs₁, hscan, hidx, hc₁⟩ := scan_pass hs s l passed
          h hb hseq hpre' hlt
        obtain ⟨s', hs', hres⟩ := scan_spec hs l (passed + 1) c₁ s₁ (w ++ b.rest) hc₁
          (fun a ha => hok a (List.mem_cons_of_mem _ ha)) (by rw [hidx]; exact hpre)
        rw [hidx] at hres
        refine ⟨s', hs₁.trans hs', ?_⟩
        rw [hscan]
        rcases hres with ⟨hshort, m, hm⟩ | ⟨pre, b', rest, n, m, rfl, hseq', hn, hfull, hm, hres⟩
        · left
          refine ⟨?_, m, hm⟩
          rw [List.length_append] at hshort ⊢
          omega
        · right
          refine ⟨b :: pre, b', rest, n, m, rfl, ⟨hseq, hseq'⟩, hn, ?_, hm, ?_⟩
          · rw [← hfull, List.flatMap_cons]
            simp only [List.append_assoc]
          · rw [hres, List.length_cons, Nat.add_right_comm passed 1, Nat.add_assoc passed]
      · have hlt' := h.lt
        have hwn : w.length + (p.size - w.length) = p.size := by omega
        obtain ⟨s', hsame, -, hend⟩ := scan_step hs s l passed h hb hseq hpre'
          (by omega) (n := p.size - w.length) (by omega)
        obtain ⟨m, hm, hscan⟩ := hend hwn
        refine ⟨s', hsame, Or.inr ⟨[], b, l, p.size - w.length, m, rfl, ⟨hseq, trivial⟩, by omega, ?_, hm,
          hscan⟩⟩
        have hle : b.rest.take (p.size - w.length) <+: b.rest := List.take_prefix _ _
        have hp := ((List.prefix_append_right_inj w).mpr hle).trans hpre'
        have hlen : (w ++ b.rest.take (p.size - w.length)).length = p.size := by
          rw [List.length_append, List.length_take, hb.length_rest]
          omega
        rw [List.flatMap_nil, List.append_nil, List.prefix_iff_eq_take.mp hp, hlen, ← p.length_encode,
          List.take_left]
    · rw [contig, if_neg hseq]
      refine ⟨s, Same.refl s, Or.inl ⟨h.lt, c.pMessageData, ?_⟩⟩
      rw [scan, if_pos hseq]

theorem scan_of_contig_nil (env : RecvEnv) : ∀ (l : List CXBufferObj) (passed : Nat) (c : Cursor) (s : RecvState),
    (∀ b ∈ l, b.Ok) → contig c.uiPacketIndex l = [] → scan env l passed c s = (s, .drained c.pMessageData)
  | [], _, _, _, _, _ => rfl
  | b :: l, passed, c, s, hok, h => by
    by_cases hseq : b.nSequenceNum = c.uiPacketIndex + 1
    · rw [contig, if_pos hseq, List.append_eq_nil_iff] at h
      have hlen : b.len = 0 := by
        rw [← (hok b (List.mem_cons_self ..)).length_rest, h.1]
        rfl
      rw [scan, if_neg (not_not.mpr hseq), if_pos hlen]
      exact scan_of_contig_nil env l (passed + 1) { c with uiPacketIndex := c.uiPacketIndex + 1 } s
        (fun a ha => hok a (List.mem_cons_of_mem _ ha)) h.2
    · rw [scan, if_pos hseq]

end RecvState

end KonsanNet
