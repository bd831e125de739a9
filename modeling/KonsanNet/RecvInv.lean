import KonsanNet.RecvScan

/-!
# Reassembly of a stream of plain packets

The stream of `packets` is cut into the buffers `bufs`, numbered from 1, and the buffers are received
in some order. `RecvInv` is the invariant between two calls: buffers `1, …, uiLastProcessBufferIndex`
are used up, only the next one may be used in part, and the bytes used so far are those of the first
`j` packets, whose bodies are the messages pushed. `recvPacket_reassembles` is the result over all
calls.
-/

namespace KonsanNet

/-- What a message hands on: its sequence number, its length and its body. -/
def CXMessageData.content (m : CXMessageData) : Nat × Nat × List UInt8 :=
  (m.iSequenceNum, m.dwDataLen, m.bodyData.take m.dwDataLen)

/-- The messages of a stream of packets, numbered from 1. -/
def messagesOf (ps : List PlainPacket) : List (Nat × Nat × List UInt8) :=
  ps.mapIdx fun i p => (i + 1, p.body.length, p.body)

theorem messagesOf_concat (ps : List PlainPacket) (p : PlainPacket) :
    messagesOf (ps ++ [p]) = messagesOf ps ++ [(ps.length + 1, p.body.length, p.body)] := by
  simp [messagesOf, List.mapIdx_append]

namespace RecvState

/-! ### Buffers in sequence -/

variable {bufs : List (List UInt8)} {k : Nat} {l pre post : List CXBufferObj} {b : CXBufferObj}

theorem InSeq.mem_iff : ∀ {k : Nat} {l : List CXBufferObj}, InSeq k l → ∀ {i : Nat},
    (∃ b ∈ l, b.nSequenceNum = i) ↔ k < i ∧ i ≤ k + l.length
  | k, [], _, i => by
    simp
  | k, b :: l, h, i => by
    obtain ⟨hb, hl⟩ := h
    have ih := hl.mem_iff (i := i)
    rw [List.exists_mem_cons_iff, ih, hb, List.length_cons]
    omega

/-- The buffer comes from the stream: its data is the buffer of its number. -/
def Source (bufs : List (List UInt8)) (b : CXBufferObj) : Prop :=
  ∀ i, b.nSequenceNum = i + 1 → bufs[i]? = some b.buf

theorem InSeq.map_buf : ∀ {k : Nat} {l : List CXBufferObj}, InSeq k l → (∀ b ∈ l, Source bufs b) →
    l.map CXBufferObj.buf = (bufs.drop k).take l.length
  | _, [], _, _ => rfl
  | k, b :: l, h, hs => by
    have hk := hs b (List.mem_cons_self ..) k h.1
    obtain ⟨hlt, hbk⟩ := List.getElem?_eq_some_iff.mp hk
    rw [List.drop_eq_getElem_cons hlt, hbk, List.length_cons, List.take_succ_cons, List.map_cons,
      h.2.map_buf fun a ha => hs a (List.mem_cons_of_mem _ ha)]

/-- The buffers in sequence are a prefix of the list, which the next number does not follow. -/
theorem contig_spec : ∀ (k : Nat) (l : List CXBufferObj), ∃ pre post, l = pre ++ post ∧ InSeq k pre ∧
    contig k l = pre.flatMap CXBufferObj.rest ∧ ∀ b ∈ post.head?, b.nSequenceNum ≠ k + pre.length + 1
  | k, [] => ⟨[], [], rfl, trivial, rfl, by simp⟩
  | k, b :: l => by
    by_cases hb : b.nSequenceNum = k + 1
    · obtain ⟨pre, post, rfl, h1, h2, h3⟩ := contig_spec (k + 1) l
      refine ⟨b :: pre, post, rfl, ⟨hb, h1⟩, ?_, fun a ha => ?_⟩
      · rw [contig, if_pos hb, h2, List.flatMap_cons]
      · have := h3 a ha
        rw [List.length_cons]
        omega
    · refine ⟨[], b :: l, rfl, trivial, ?_, fun a ha => ?_⟩
      · rw [contig, if_neg hb, List.flatMap_nil]
      · rw [List.head?_cons, Option.mem_some_iff] at ha
        rw [← ha]
        exact hb

/-- `part` is what is used of buffer `k + 1`. -/
structure Part (k : Nat) (l : List CXBufferObj) (part : List UInt8) : Prop where
  used : ∀ b ∈ l, b.nSequenceNum = k + 1 → part = b.buf.take b.nCurDataPointer
  none : (∀ b ∈ l, b.nSequenceNum ≠ k + 1) → part = []

/-- The used part of the first buffer and the rests of the buffers in sequence are their data. -/
theorem part_append_rests {part : List UInt8} (h : InSeq k (b :: l)) (hok : ∀ a ∈ b :: l, a.Ok)
    (hs : ∀ a ∈ b :: l, Source bufs a) (hun : ∀ a ∈ l, a.nCurDataPointer = 0)
    (hpart : part = b.buf.take b.nCurDataPointer) :
    part ++ (b :: l).flatMap CXBufferObj.rest = ((bufs.drop k).take (b :: l).length).flatten := by
  rw [← h.map_buf hs, List.flatMap_cons, (hok b (List.mem_cons_self ..)).rest_eq, hpart,
    ← List.append_assoc, List.take_append_drop, List.map_cons, List.flatten_cons, List.flatMap_def]
  congr 2
  refine List.map_congr_left fun a ha => ?_
  rw [(hok a (List.mem_cons_of_mem _ ha)).rest_eq, hun a ha, List.drop_zero]

theorem inSeq_append : ∀ {k : Nat} {l l' : List CXBufferObj},
    InSeq k (l ++ l') ↔ InSeq k l ∧ InSeq (k + l.length) l'
  | k, [], l' => by simp [InSeq]
  | k, b :: l, l' => by
    simp only [List.cons_append, InSeq, inSeq_append (k := k + 1), List.length_cons, and_assoc,
      Nat.add_right_comm k, Nat.add_assoc]

theorem part_append_take {part : List UInt8} (h : InSeq k (pre ++ [b])) (hok : ∀ a ∈ pre ++ [b], a.Ok)
    (hs : ∀ a ∈ pre ++ [b], Source bufs a)
    (hun : ∀ a ∈ pre ++ [b], a.nSequenceNum ≠ k + 1 → a.nCurDataPointer = 0)
    (hpart : ∀ a ∈ pre ++ [b], a.nSequenceNum = k + 1 → part = a.buf.take a.nCurDataPointer) (n : Nat) :
    part ++ pre.flatMap CXBufferObj.rest ++ b.rest.take n =
      ((bufs.drop k).take pre.length).flatten ++ b.buf.take (b.nCurDataPointer + n) := by
  have hb : b ∈ pre ++ [b] := by simp
  obtain ⟨hpre, hbk, -⟩ := inSeq_append.mp h
  cases pre with
  | nil =>
    rw [hpart b hb hbk, (hok b hb).rest_eq, List.take_add]
    simp
  | cons a pre =>
    have hmem : ∀ c ∈ a :: pre, c ∈ a :: pre ++ [b] := fun c hc => List.mem_append_left _ hc
    rw [part_append_rests hpre (fun c hc => hok c (hmem c hc)) (fun c hc => hs c (hmem c hc)) (fun c hc => ?_)
      (hpart a (hmem a (List.mem_cons_self ..)) hpre.1)]
    · have h0 : b.nCurDataPointer = 0 := hun b hb (by rw [hbk, List.length_cons]; omega)
      rw [(hok b hb).rest_eq, h0, List.drop_zero, Nat.zero_add]
    · refine hun c (hmem c (List.mem_cons_of_mem _ hc)) fun hck => ?_
      have := (hpre.2.mem_iff).mp ⟨c, hc, hck⟩
      omega

theorem flatten_take_add (k n : Nat) :
    (bufs.take k).flatten ++ ((bufs.drop k).take n).flatten = (bufs.take (k + n)).flatten := by
  rw [List.take_add, List.flatten_append]

/-! ### The read list -/

/-- The read list `l` behind the `k` buffers that were freed, when the buffers with the numbers `R` were
received and their bytes `used` were used. -/
structure ReadInv (bufs : List (List UInt8)) (R : Nat → Prop) (used : List UInt8) (k : Nat)
    (l : SeqList CXBufferObj) : Prop where
  ordered : l.Ordered CXBufferObj.nSequenceNum
  mem_iff : ∀ i, (∃ b ∈ l.head, b.nSequenceNum = i) ↔ R i ∧ k < i
  ok : ∀ b ∈ l.head, b.Ok
  source : ∀ b ∈ l.head, Source bufs b
  untouched : ∀ b ∈ l.head, b.nSequenceNum ≠ k + 1 → b.nCurDataPointer = 0
  freed : ∀ i, 1 ≤ i → i ≤ k → R i
  delivered : ∃ part, Part k l.head part ∧ (bufs.take k).flatten ++ part = used

/-- The buffers before a packet's end are freed, the one it ends in is used in part or freed as well. -/
inductive Taken (n : Nat) (pre : List CXBufferObj) (b : CXBufferObj) (rest : List CXBufferObj) :
    Nat → List CXBufferObj → Prop
  | whole (h : b.len - n = 0) : Taken n pre b rest (pre.length + 1) rest
  | part (h : b.len - n ≠ 0) : Taken n pre b rest pre.length
      ({ b with len := b.len - n, nCurDataPointer := b.nCurDataPointer + n } :: rest)

namespace ReadInv

variable {R R' : Nat → Prop} {used : List UInt8} {L : SeqList CXBufferObj}

theorem built (bufs : List (List UInt8)) : ReadInv bufs (fun _ => False) [] 0 .empty where
  ordered := SeqList.ordered_empty
  mem_iff i := by simp [SeqList.empty]
  ok b hb := by cases hb
  source b hb := by cases hb
  untouched b hb := by cases hb
  freed i h1 h2 := by omega
  delivered := ⟨[], ⟨fun b hb => by simp [SeqList.empty] at hb, fun _ => rfl⟩, by simp⟩

theorem congr (h : ReadInv bufs R used k L) (hR : ∀ i, R i ↔ R' i) : ReadInv bufs R' used k L :=
  { h with
    mem_iff := fun i => by rw [h.mem_iff i, hR i]
    freed := fun i h1 h2 => (hR i).mp (h.freed i h1 h2) }

theorem lt (h : ReadInv bufs R used k L) (hb : b ∈ L.head) : k < b.nSequenceNum :=
  ((h.mem_iff _).mp ⟨b, hb, rfl⟩).2

theorem push {i : Nat} {bytes : List UInt8} (h : ReadInv bufs R used k L) (hi : ¬ R (i + 1))
    (hb : bufs[i]? = some bytes) :
    ∃ L', SeqList.push CXBufferObj.nSequenceNum L (.received (i + 1) bytes) = some (L', true) ∧
      ReadInv bufs (fun a => a = i + 1 ∨ R a) used k L' := by
  have hk : k < i + 1 := by
    by_contra hle
    exact hi (h.freed (i + 1) (by omega) (by omega))
  have hnew : ∀ a ∈ L.head, a.nSequenceNum ≠ i + 1 := fun a ha hai =>
    hi ((h.mem_iff (i + 1)).mp ⟨a, ha, hai⟩).1
  obtain ⟨L', hpush, hord, hperm⟩ := h.ordered.push (x := CXBufferObj.received (i + 1) bytes) hnew
  have hmem : ∀ {P : CXBufferObj → Prop}, (∀ a ∈ L'.head, P a) ↔
      P (.received (i + 1) bytes) ∧ ∀ a ∈ L.head, P a := by
    intro P
    simp only [hperm.mem_iff, List.forall_mem_cons]
  obtain ⟨part, hpart, hdel⟩ := h.delivered
  refine ⟨L', hpush, ?_⟩
  exact {
    ordered := hord
    mem_iff := fun a => by
      have hex : (∃ b ∈ L'.head, b.nSequenceNum = a) ↔
          ∃ b ∈ CXBufferObj.received (i + 1) bytes :: L.head, b.nSequenceNum = a := by
        simp only [hperm.mem_iff]
      rw [hex, List.exists_mem_cons_iff, h.mem_iff a]
      constructor
      · rintro (rfl | ⟨ha, hka⟩)
        · exact ⟨Or.inl rfl, hk⟩
        · exact ⟨Or.inr ha, hka⟩
      · rintro ⟨rfl | ha, hka⟩
        · exact Or.inl rfl
        · exact Or.inr ⟨ha, hka⟩
    ok := hmem.mpr ⟨CXBufferObj.ok_received _ _, h.ok⟩
    source := hmem.mpr ⟨fun a ha => by
      have : a = i := by simpa [CXBufferObj.received, eq_comm] using ha
      rw [this]; exact hb, h.source⟩
    untouched := hmem.mpr ⟨fun _ => rfl, h.untouched⟩
    freed := fun a h1 h2 => Or.inr (h.freed a h1 h2)
    delivered := by
      refine ⟨part, ⟨hmem.mpr ⟨fun ha => ?_, hpart.used⟩, fun hno => hpart.none fun a ha => ?_⟩, hdel⟩
      · -- the new buffer is the next one: nothing of it is used yet
        have : part = [] := hpart.none fun a ham => by
          have := hnew a ham
          simp only [CXBufferObj.received] at ha
          omega
        rw [this]; rfl
      · exact (hmem.mp hno).2 a ha }

/-- The bytes of a packet are used: the part `n` of `b`, and the buffers before it. -/
theorem take {rest left : List CXBufferObj} {n freed : Nat} (h : ReadInv bufs R used k L)
    (hl : L.head = pre ++ b :: rest) (hseq : InSeq k (pre ++ [b])) (hn : n ≤ b.len)
    (ht : Taken n pre b rest freed left) :
    ReadInv bufs R (used ++ (pre.flatMap CXBufferObj.rest ++ b.rest.take n)) (k + freed)
      ⟨left, if left.isEmpty then none else L.endSeq⟩ := by
  obtain ⟨part, hpart, hdel⟩ := h.delivered
  have hmem : ∀ a ∈ pre ++ [b], a ∈ L.head := fun a ha => by
    rw [hl]
    simp only [List.mem_append, List.mem_cons, List.not_mem_nil, or_false] at ha ⊢
    tauto
  have hrest : ∀ a ∈ rest, a ∈ L.head := fun a ha => by rw [hl]; simp [ha]
  have hb : b ∈ L.head := hmem b (by simp)
  have hok := h.ok b hb
  unfold CXBufferObj.Ok at hok
  obtain ⟨hpre, hbk, -⟩ := inSeq_append.mp hseq
  have hord := h.ordered
  have hsorted := hord.sorted
  rw [hl] at hsorted
  have hgt : ∀ a ∈ rest, b.nSequenceNum < a.nSequenceNum := fun a ha =>
    List.rel_of_pairwise_cons (List.pairwise_append.mp hsorted).2.1 ha
  -- the bytes used up to the end of the packet
  have hbytes : used ++ (pre.flatMap CXBufferObj.rest ++ b.rest.take n) =
      (bufs.take (k + pre.length)).flatten ++ b.buf.take (b.nCurDataPointer + n) := by
    rw [← hdel, ← flatten_take_add, List.append_assoc, List.append_assoc]
    congr 1
    rw [← List.append_assoc]
    exact part_append_take hseq (fun a ha => h.ok a (hmem a ha)) (fun a ha => h.source a (hmem a ha))
      (fun a ha => h.untouched a (hmem a ha)) (fun a ha => hpart.used a (hmem a ha)) n
  have hfreed : ∀ i, 1 ≤ i → i ≤ k + pre.length + 1 → R i := fun i h1 h2 => by
    by_cases hi : i ≤ k
    · exact h.freed i h1 hi
    · obtain ⟨a, ha, hai⟩ := (hseq.mem_iff (i := i)).mpr ⟨by omega, by simp; omega⟩
      exact ((h.mem_iff i).mp ⟨a, hmem a ha, hai⟩).1
  have hpre_lt : ∀ a ∈ pre, a.nSequenceNum ≤ k + pre.length := fun a ha =>
    ((hpre.mem_iff).mp ⟨a, ha, rfl⟩).2
  cases ht with
  | whole hz =>
    have hnb : n = b.len := by omega
    have hbuf : b.buf.take (b.nCurDataPointer + n) = b.buf := List.take_of_length_le (by omega)
    have hsrc := h.source b hb _ hbk
    exact {
      ordered := by
        have : SeqList.Ordered CXBufferObj.nSequenceNum ⟨(pre ++ [b]) ++ rest, L.endSeq⟩ := by
          rw [List.append_assoc, List.singleton_append, ← hl]
          exact hord
        exact this.suffix
      mem_iff := fun i => by
        show (∃ a ∈ rest, a.nSequenceNum = i) ↔ R i ∧ k + (pre.length + 1) < i
        constructor
        · rintro ⟨a, ha, rfl⟩
          have := hgt a ha
          exact ⟨((h.mem_iff _).mp ⟨a, hrest a ha, rfl⟩).1, by omega⟩
        · rintro ⟨hi, hki⟩
          obtain ⟨a, ha, hai⟩ := (h.mem_iff i).mpr ⟨hi, by omega⟩
          rw [hl] at ha
          rcases List.mem_append.mp ha with ha | ha
          · have := hpre_lt a ha
            omega
          · rcases List.mem_cons.mp ha with rfl | ha
            · omega
            · exact ⟨a, ha, hai⟩
      ok := fun a ha => h.ok a (hrest a ha)
      source := fun a ha => h.source a (hrest a ha)
      untouched := fun a ha _ => h.untouched a (hrest a ha) (by have := hgt a ha; omega)
      freed := fun i h1 h2 => hfreed i h1 h2
      delivered := by
        refine ⟨[], ⟨fun a ha hak => ?_, fun _ => rfl⟩, ?_⟩
        · rw [h.untouched a (hrest a ha) (by have := hgt a ha; omega)]
          rfl
        · rw [hbytes, hbuf, ← Nat.add_assoc, List.take_add_one, hsrc]
          simp }
  | part hz =>
    exact {
      ordered := by
        have : SeqList.Ordered CXBufferObj.nSequenceNum ⟨pre ++ b :: rest, L.endSeq⟩ := by
          rw [← hl]
          exact hord
        exact this.suffix.of_map_eq rfl rfl
      mem_iff := fun i => by
        show (∃ a ∈ { b with len := b.len - n, nCurDataPointer := b.nCurDataPointer + n } :: rest,
          a.nSequenceNum = i) ↔ R i ∧ k + pre.length < i
        rw [List.exists_mem_cons_iff]
        constructor
        · rintro (hbi | ⟨a, ha, rfl⟩)
          · have hbi : b.nSequenceNum = i := hbi
            exact ⟨((h.mem_iff i).mp ⟨b, hb, hbi⟩).1, by omega⟩
          · have := hgt a ha
            exact ⟨((h.mem_iff _).mp ⟨a, hrest a ha, rfl⟩).1, by omega⟩
        · rintro ⟨hi, hki⟩
          obtain ⟨a, ha, hai⟩ := (h.mem_iff i).mpr ⟨hi, by omega⟩
          rw [hl] at ha
          rcases List.mem_append.mp ha with ha | ha
          · have := hpre_lt a ha
            omega
          · rcases List.mem_cons.mp ha with rfl | ha
            · exact Or.inl hai
            · exact Or.inr ⟨a, ha, hai⟩
      ok := List.forall_mem_cons.mpr ⟨by unfold CXBufferObj.Ok; simp only; omega,
        fun a ha => h.ok a (hrest a ha)⟩
      source := List.forall_mem_cons.mpr ⟨h.source b hb, fun a ha => h.source a (hrest a ha)⟩
      untouched := List.forall_mem_cons.mpr ⟨fun hne => absurd hbk hne,
        fun a ha _ => h.untouched a (hrest a ha) (by have := hgt a ha; omega)⟩
      freed := fun i h1 h2 => hfreed i h1 (by omega)
      delivered := by
        refine ⟨b.buf.take (b.nCurDataPointer + n), ⟨List.forall_mem_cons.mpr ⟨fun _ => rfl,
          fun a ha hak => ?_⟩, fun hno => ?_⟩, hbytes.symm⟩
        · have := hgt a ha
          omega
        · exact absurd hbk (hno { b with len := b.len - n, nCurDataPointer := b.nCurDataPointer + n }
            (List.mem_cons_self ..)) }

end ReadInv

/-! ### The invariant -/

/-- The state between two calls, when the buffers with numbers in `R` were received and the first `j`
packets were delivered. -/
structure RecvInv (packets : List PlainPacket) (bufs : List (List UInt8)) (R : List Nat) (j : Nat)
    (s : RecvState) : Prop where
  lpServer : s.lpServer = true
  ordered : s.listRead.Ordered CXBufferObj.nSequenceNum
  mem_iff : ∀ i, (∃ b ∈ s.listRead.head, b.nSequenceNum = i) ↔ i ∈ R ∧ s.uiLastProcessBufferIndex < i
  ok : ∀ b ∈ s.listRead.head, b.Ok
  source : ∀ b ∈ s.listRead.head, Source bufs b
  untouched : ∀ b ∈ s.listRead.head, b.nSequenceNum ≠ s.uiLastProcessBufferIndex + 1 →
    b.nCurDataPointer = 0
  freed : ∀ i, 1 ≤ i → i ≤ s.uiLastProcessBufferIndex → i ∈ R
  delivered : ∃ part, Part s.uiLastProcessBufferIndex s.listRead.head part ∧
    (bufs.take s.uiLastProcessBufferIndex).flatten ++ part =
      (packets.take j).flatMap PlainPacket.encode
  le : j ≤ packets.length
  seqNum : s.iLastUnpackedMessageSequenceNum = j
  content : s.mesQueue.map CXMessageData.content = messagesOf (packets.take j)
  overrun : s.overrun = false

variable {packets : List PlainPacket} {R : List Nat} {j : Nat} {s s' : RecvState} {env : RecvEnv}

theorem RecvInv.read (h : RecvInv packets bufs R j s) :
    ReadInv bufs (· ∈ R) ((packets.take j).flatMap PlainPacket.encode) s.uiLastProcessBufferIndex s.listRead :=
  ⟨h.ordered, h.mem_iff, h.ok, h.source, h.untouched, h.freed, h.delivered⟩

theorem RecvInv.of_read
    (h : ReadInv bufs (· ∈ R) ((packets.take j).flatMap PlainPacket.encode) s.uiLastProcessBufferIndex s.listRead)
    (hserver : s.lpServer = true) (hle : j ≤ packets.length) (hseq : s.iLastUnpackedMessageSequenceNum = j)
    (hcontent : s.mesQueue.map CXMessageData.content = messagesOf (packets.take j))
    (hoverrun : s.overrun = false) : RecvInv packets bufs R j s :=
  ⟨hserver, h.ordered, h.mem_iff, h.ok, h.source, h.untouched, h.freed, h.delivered, hle, hseq, hcontent,
    hoverrun⟩

theorem RecvInv.built (packets : List PlainPacket) (bufs : List (List UInt8)) (f g h : Bool) :
    RecvInv packets bufs [] 0 (built f g h) :=
  .of_read ((ReadInv.built bufs).congr fun i => by simp) rfl (Nat.zero_le _) rfl rfl rfl

theorem RecvInv.same (h : RecvInv packets bufs R j s) (hs : Same s s') : RecvInv packets bufs R j s' := by
  unfold Same at hs
  rw [hs]
  exact .of_read h.read h.lpServer h.le h.seqNum h.content h.overrun

theorem RecvInv.pushReceivedBuffer {i : Nat} {bytes : List UInt8} (h : RecvInv packets bufs R j s)
    (hi : i + 1 ∉ R) (hb : bufs[i]? = some bytes) :
    ∃ s', s.pushReceivedBuffer (.received (i + 1) bytes) = some (s', true) ∧
      RecvInv packets bufs ((i + 1) :: R) j s' := by
  obtain ⟨l, hpush, hl⟩ := h.read.push hi hb
  refine ⟨_, by simp [RecvState.pushReceivedBuffer, hpush]; rfl, ?_⟩
  exact .of_read (hl.congr fun a => List.mem_cons.symm) h.lpServer h.le h.seqNum h.content h.overrun

theorem RecvInv.lt (h : RecvInv packets bufs R j s) {b : CXBufferObj} (hb : b ∈ s.listRead.head) :
    s.uiLastProcessBufferIndex < b.nSequenceNum :=
  h.read.lt hb

/-- The bytes delivered and the bytes in sequence are the data of the buffers in sequence, which do not
stop before the first number that was not received. -/
theorem RecvInv.delivered_append_contig (h : RecvInv packets bufs R j s) :
    ∃ n, (packets.take j).flatMap PlainPacket.encode ++
        contig s.uiLastProcessBufferIndex s.listRead.head = (bufs.take n).flatten ∧ n + 1 ∉ R := by
  obtain ⟨part, hpart, hdel⟩ := h.delivered
  obtain ⟨pre, post, hl, hseq, hcon, hnext⟩ := contig_spec s.uiLastProcessBufferIndex s.listRead.head
  have hmem : ∀ a ∈ pre, a ∈ s.listRead.head := fun a ha => hl ▸ List.mem_append_left _ ha
  refine ⟨s.uiLastProcessBufferIndex + pre.length, ?_, fun hR => ?_⟩
  · rw [hcon, ← hdel, List.append_assoc, ← flatten_take_add]
    congr 1
    cases pre with
    | nil =>
      -- no buffer has the next number: the list is ordered and its head has a larger one
      have : part = [] := hpart.none fun a ha hak => by
        rw [List.nil_append] at hl
        obtain ⟨c, post', rfl⟩ := List.exists_cons_of_ne_nil (List.ne_nil_of_mem (hl ▸ ha))
        have hc := hnext c rfl
        have hck := h.lt (b := c) (by rw [hl]; simp)
        have hord := h.ordered.sorted
        rw [hl] at hord ha
        simp only [List.length_nil] at hc
        rcases List.mem_cons.mp ha with rfl | ha
        · omega
        · have := List.rel_of_pairwise_cons hord ha
          omega
      simp [this]
    | cons b pre =>
      refine part_append_rests hseq (fun a ha => h.ok a (hmem a ha)) (fun a ha => h.source a (hmem a ha))
        (fun a ha => h.untouched a (hmem a (List.mem_cons_of_mem _ ha)) fun hak => ?_)
        (hpart.used b (hmem b (List.mem_cons_self ..)) hseq.1)
      have := (hseq.2.mem_iff).mp ⟨a, ha, hak⟩
      omega
  · obtain ⟨a, ha, hak⟩ := (h.mem_iff _).mpr ⟨hR, by omega⟩
    rw [hl] at ha
    rcases List.mem_append.mp ha with ha | ha
    · have := (hseq.mem_iff).mp ⟨a, ha, hak⟩
      omega
    · obtain ⟨c, post', rfl⟩ := List.exists_cons_of_ne_nil (List.ne_nil_of_mem ha)
      have hc := hnext c rfl
      have hcmem : c ∈ s.listRead.head := by rw [hl]; simp
      have hord := h.ordered.sorted
      rw [hl] at hord
      have hpost := (List.pairwise_append.mp hord).2.1
      -- the head of the rest is behind all buffers in sequence, so it cannot have a smaller number
      have hcgt : s.uiLastProcessBufferIndex + pre.length < c.nSequenceNum := by
        by_contra hle
        obtain ⟨d, hd, hdc⟩ := (hseq.mem_iff (i := c.nSequenceNum)).mpr ⟨h.lt hcmem, by omega⟩
        have := (List.pairwise_append.mp hord).2.2 d hd c (List.mem_cons_self ..)
        omega
      rcases List.mem_cons.mp ha with rfl | ha
      · exact hc hak
      · have := List.rel_of_pairwise_cons hpost ha
        omega

theorem RecvInv.contig_prefix (h : RecvInv packets bufs R j s)
    (hcut : bufs.flatten <+: packets.flatMap PlainPacket.encode) :
    contig s.uiLastProcessBufferIndex s.listRead.head <+: (packets.drop j).flatMap PlainPacket.encode := by
  obtain ⟨n, hn, -⟩ := h.delivered_append_contig
  have hpre : (bufs.take n).flatten <+: bufs.flatten := by
    refine ⟨(bufs.drop n).flatten, ?_⟩
    rw [← List.flatten_append, List.take_append_drop]
  have := hpre.trans hcut
  rw [← hn] at this
  have hsplit : packets.flatMap PlainPacket.encode =
      (packets.take j).flatMap PlainPacket.encode ++ (packets.drop j).flatMap PlainPacket.encode := by
    rw [← List.flatMap_append, List.take_append_drop]
  rw [hsplit] at this
  exact (List.prefix_append_right_inj _).mp this

/-- The next packet is taken out of the read list and its message pushed. -/
theorem RecvInv.takePacket {p : PlainPacket} {rest left : List CXBufferObj} {n freed : Nat}
    {m : CXMessageData} {hd : CXPacketHeader} (h : RecvInv packets bufs R j s)
    (hp : packets[j]? = some p) (hl : s.listRead.head = pre ++ b :: rest)
    (hseq : InSeq s.uiLastProcessBufferIndex (pre ++ [b])) (hn : n ≤ b.len)
    (hfull : pre.flatMap CXBufferObj.rest ++ b.rest.take n = p.encode) (hm : MesDone p m)
    (ht : Taken n pre b rest freed left) :
    RecvInv packets bufs R (j + 1)
      ((s.takePacket hd freed left).pushReceivedMessage { m with iSequenceNum := j + 1 }) := by
  obtain ⟨hjlt, hpj⟩ := List.getElem?_eq_some_iff.mp hp
  have htake : packets.take (j + 1) = packets.take j ++ [p] := by rw [List.take_add_one, hp]; rfl
  have hcontent : (s.mesQueue ++ [{ m with iSequenceNum := j + 1 }]).map CXMessageData.content =
      messagesOf (packets.take (j + 1)) := by
    rw [htake, messagesOf_concat, List.map_append, h.content, List.length_take_of_le h.le]
    simp [CXMessageData.content, hm.dwDataLen, hm.body]
  have hread := h.read.take hl hseq hn ht
  have hused : (packets.take j).flatMap PlainPacket.encode ++ (pre.flatMap CXBufferObj.rest ++ b.rest.take n) =
      (packets.take (j + 1)).flatMap PlainPacket.encode := by
    rw [htake, List.flatMap_append, hfull, List.flatMap_cons, List.flatMap_nil, List.append_nil]
  rw [hused] at hread
  exact .of_read hread h.lpServer hjlt (by rw [← h.seqNum]; rfl) hcontent h.overrun

/-! ### One call -/

theorem deliver_plain {p : PlainPacket} {m : CXMessageData} (hm : MesDone p m) (f : Bool) :
    s.deliver env (headerOf p) m f = some (s.pushReceivedMessage m, none) := by
  have hv : verifyPacketBodyData (headerOf p) m = true := by
    simp only [verifyPacketBodyData, headerOf, hm.body, decide_true]
  unfold deliver
  rw [if_pos hv]
  simp [headerOf]

theorem same_freeMessage (m : Option CXMessageData) (s : RecvState) : Same s (s.freeMessage m) := by
  cases m <;> rfl

theorem totalLen_append (l l' : List CXBufferObj) : totalLen (l ++ l') = totalLen l + totalLen l' := by
  simp [totalLen]

theorem length_flatMap_rest : ∀ {l : List CXBufferObj}, (∀ b ∈ l, b.Ok) →
    (l.flatMap CXBufferObj.rest).length = totalLen l
  | [], _ => rfl
  | b :: l, h => by
    rw [List.flatMap_cons, List.length_append, (h b (List.mem_cons_self ..)).length_rest,
      length_flatMap_rest fun a ha => h a (List.mem_cons_of_mem _ ha)]
    simp [totalLen]

/-- The packets are taken one after another, until the bytes in sequence are less than the next one. -/
theorem unpack_spec (hserve : ∀ p ∈ packets, env.Serves p)
    (hcut : bufs.flatten <+: packets.flatMap PlainPacket.encode) :
    ∀ (fuel : Nat) (s : RecvState) (j : Nat), RecvInv packets bufs R j s →
      totalLen s.listRead.head < fuel →
      ∃ s' j', unpack env fuel s = some (s', 0) ∧ RecvInv packets bufs R j' s' ∧
        ∀ p ∈ (packets.drop j').head?,
          (contig s'.uiLastProcessBufferIndex s'.listRead.head).length < p.size
  | 0, _, _, _, hf => absurd hf (Nat.not_lt_zero _)
  | fuel + 1, s, j, h, hf => by
    have hpre := h.contig_prefix hcut
    cases hp : packets[j]? with
    | none =>
      have hdrop : packets.drop j = [] := List.drop_of_length_le (List.getElem?_eq_none_iff.mp hp)
      rw [hdrop, List.flatMap_nil] at hpre
      have hscan := scan_of_contig_nil env s.listRead.head 0 (.start s.uiLastProcessBufferIndex) s
        h.ok (List.prefix_nil.mp hpre)
      refine ⟨s, j, ?_, h, by rw [hdrop]; simp⟩
      rw [unpack, hscan]
      rfl
    | some p =>
      obtain ⟨hjlt, hpj⟩ := List.getElem?_eq_some_iff.mp hp
      have hdrop : packets.drop j = p :: packets.drop (j + 1) := by
        rw [List.drop_eq_getElem_cons hjlt, hpj]
      have hmemp : p ∈ packets := hpj ▸ List.getElem_mem hjlt
      rw [hdrop, List.flatMap_cons] at hpre
      obtain ⟨s₁, hsame, hres⟩ := scan_spec (hserve p hmemp) s.listRead.head 0
        (.start s.uiLastProcessBufferIndex) s [] (Cursor.holds_start p _) h.ok hpre
      have h₁ := h.same hsame
      have hlist : s₁.listRead = s.listRead := by unfold Same at hsame; rw [hsame]
      have hk : s₁.uiLastProcessBufferIndex = s.uiLastProcessBufferIndex := by
        unfold Same at hsame; rw [hsame]
      rcases hres with ⟨hshort, m, hscan⟩ | ⟨pre, b, rest, n, m, hl, hseq, hn, hfull, hm, hscan⟩
      · have hsame' := same_freeMessage m s₁
        refine ⟨s₁.freeMessage m, j, by rw [unpack, hscan], h₁.same hsame', fun q hq => ?_⟩
        have hlist' : (s₁.freeMessage m).listRead = s.listRead := by
          unfold Same at hsame'; rw [hsame', ← hlist]
        have hk' : (s₁.freeMessage m).uiLastProcessBufferIndex = s.uiLastProcessBufferIndex := by
          unfold Same at hsame'; rw [hsame', ← hk]
        rw [hdrop, List.head?_cons, Option.mem_some_iff] at hq
        rw [hlist', hk', ← hq]
        rw [List.length_nil, Nat.zero_add] at hshort
        exact hshort
      · have hokl : ∀ a ∈ pre ++ b :: rest, a.Ok := fun a ha => h.ok a (hl ▸ ha)
        have hlen := congrArg List.length hfull
        rw [List.nil_append, List.length_append, List.length_take, length_flatMap_rest
          (fun a ha => hokl a (List.mem_append_left _ ha)), (hokl b (by simp)).length_rest,
          p.length_encode] at hlen
        have hsize : 0 < p.size := by simp [PlainPacket.size, headerLen]
        have htotal : totalLen s.listRead.head = totalLen pre + (b.len + totalLen rest) := by
          rw [hl, totalLen_append]
          simp [totalLen]
        rw [← hlist] at hl
        -- the state after this packet, and the recursion from there
        have hnext : ∀ {freed left}, Taken n pre b rest freed left →
            ∃ s' j', unpack env fuel ((s₁.takePacket (headerOf p) freed left).pushReceivedMessage
                { m with iSequenceNum := j + 1 }) = some (s', 0) ∧ RecvInv packets bufs R j' s' ∧
              ∀ p ∈ (packets.drop j').head?,
                (contig s'.uiLastProcessBufferIndex s'.listRead.head).length < p.size := by
          intro freed left ht
          refine unpack_spec hserve hcut fuel _ (j + 1) (h₁.takePacket hp hl (by rw [hk]; exact hseq) hn
            (by simpa using hfull) hm ht) ?_
          cases ht with
          | whole hz =>
            show totalLen rest < fuel
            omega
          | part hz =>
            show totalLen ({ b with len := b.len - n, nCurDataPointer := b.nCurDataPointer + n } :: rest) < fuel
            have : totalLen ({ b with len := b.len - n, nCurDataPointer := b.nCurDataPointer + n } :: rest) =
                b.len - n + totalLen rest := by simp [totalLen]
            omega
        have hm' : MesDone p { m with iSequenceNum := j + 1 } := ⟨hm.dwDataLen, hm.body⟩
        by_cases hz : b.len - n = 0
        · obtain ⟨s', j', hrun, hinv⟩ := hnext (.whole hz)
          refine ⟨s', j', ?_, hinv⟩
          rw [if_pos hz, Nat.zero_add] at hscan
          rw [unpack, hscan]
          simp only [RecvState.takePacket, h₁.seqNum, deliver_plain hm'] at hrun ⊢
          exact hrun
        · obtain ⟨s', j', hrun, hinv⟩ := hnext (.part hz)
          refine ⟨s', j', ?_, hinv⟩
          rw [if_neg hz, Nat.zero_add] at hscan
          rw [unpack, hscan]
          simp only [RecvState.takePacket, h₁.seqNum, deliver_plain hm'] at hrun ⊢
          exact hrun

theorem RecvInv.recvPacket {i : Nat} {bytes : List UInt8} (h : RecvInv packets bufs R j s)
    (hserve : ∀ p ∈ packets, env.Serves p)
    (hcut : bufs.flatten <+: packets.flatMap PlainPacket.encode) (hi : i + 1 ∉ R)
    (hb : bufs[i]? = some bytes) :
    ∃ s' j', RecvState.recvPacket env (.received (i + 1) bytes) s = some (s', 0) ∧
      RecvInv packets bufs ((i + 1) :: R) j' s' ∧
      ∀ p ∈ (packets.drop j').head?,
        (contig s'.uiLastProcessBufferIndex s'.listRead.head).length < p.size := by
  obtain ⟨s₁, hpush, h₁⟩ := h.pushReceivedBuffer hi hb
  obtain ⟨s', j', hrun, hinv⟩ := unpack_spec hserve hcut _ s₁ j h₁ (Nat.lt_succ_self _)
  refine ⟨s', j', ?_, hinv⟩
  simp only [RecvState.recvPacket, h.lpServer, Bool.not_true, Bool.false_eq_true, if_false, hpush]
  exact hrun

/-! ### All calls -/

/-- Handing over the buffers with the given numbers, one call after another. -/
def recvAll (env : RecvEnv) (bufs : List (List UInt8)) : List Nat → RecvState → Option RecvState
  | [], s => some s
  | i :: is, s => do
    let (s, _) ← recvPacket env (.received i (bufs.getD (i - 1) [])) s
    recvAll env bufs is s

/-- The bytes of the packets whose messages were pushed. -/
def deliveredLen (s : RecvState) : Nat := (s.mesQueue.map fun m => headerLen + m.dwDataLen).sum

/-- What the read list holds of buffer `i`. -/
def restOf (s : RecvState) (i : Nat) : List UInt8 :=
  ((s.listRead.head.find? fun b => b.nSequenceNum = i).map CXBufferObj.rest).getD []

/-- The place of buffer `i` in the stream. -/
def offsetOf (bufs : List (List UInt8)) (i : Nat) : Nat := (bufs.take (i - 1)).flatten.length

theorem RecvInv.recvAll (hserve : ∀ p ∈ packets, env.Serves p)
    (hcut : bufs.flatten <+: packets.flatMap PlainPacket.encode) :
    ∀ (is : List Nat) {R : List Nat} {j : Nat} {s : RecvState}, RecvInv packets bufs R j s →
      (∀ p ∈ (packets.drop j).head?,
        (contig s.uiLastProcessBufferIndex s.listRead.head).length < p.size) →
      is.Nodup → (∀ i ∈ is, 1 ≤ i ∧ i ≤ bufs.length ∧ i ∉ R) →
      ∃ s' j', RecvState.recvAll env bufs is s = some s' ∧ RecvInv packets bufs (is.reverse ++ R) j' s' ∧
        ∀ p ∈ (packets.drop j').head?,
          (contig s'.uiLastProcessBufferIndex s'.listRead.head).length < p.size
  | [], R, j, s, h, hmax, _, _ => ⟨s, j, rfl, h, hmax⟩
  | i :: is, R, j, s, h, hmax, hnd, hi => by
    obtain ⟨h1, hle, hR⟩ := hi i (List.mem_cons_self ..)
    obtain ⟨k, rfl⟩ : ∃ k, i = k + 1 := ⟨i - 1, by omega⟩
    obtain ⟨hni, hnd'⟩ := List.nodup_cons.mp hnd
    have hb : bufs[k]? = some (bufs.getD k []) := by
      rw [List.getD_eq_getElem?_getD, List.getElem?_eq_getElem (by omega)]
      rfl
    obtain ⟨s₁, j₁, hrun, h₁, hmax₁⟩ := h.recvPacket hserve hcut hR hb
    obtain ⟨s', j', hrun', h', hmax'⟩ := RecvInv.recvAll hserve hcut is h₁ hmax₁ hnd' fun a ha => by
      obtain ⟨ha1, hale, haR⟩ := hi a (List.mem_cons_of_mem _ ha)
      refine ⟨ha1, hale, fun hm => ?_⟩
      rcases List.mem_cons.mp hm with rfl | hm
      · exact hni ha
      · exact haR hm
    refine ⟨s', j', ?_, ?_, hmax'⟩
    · rw [RecvState.recvAll, Nat.add_sub_cancel, hrun]
      exact hrun'
    · rw [List.reverse_cons, List.append_assoc]
      exact h'

theorem RecvInv.deliveredLen_eq (h : RecvInv packets bufs R j s) :
    deliveredLen s = ((packets.take j).flatMap PlainPacket.encode).length := by
  have hmap : s.mesQueue.map (fun m => headerLen + m.dwDataLen) =
      (s.mesQueue.map CXMessageData.content).map fun c => headerLen + c.2.1 := by
    rw [List.map_map]
    rfl
  have hsizes : ∀ ps : List PlainPacket,
      (messagesOf ps).map (fun c => headerLen + c.2.1) = ps.map PlainPacket.size := by
    intro ps
    refine List.ext_getElem (by simp [messagesOf]) fun i h1 h2 => ?_
    simp [messagesOf, PlainPacket.size]
  rw [deliveredLen, hmap, h.content, hsizes, List.length_flatMap]
  simp only [PlainPacket.length_encode]

theorem restOf_of_mem (h : s.listRead.Ordered CXBufferObj.nSequenceNum) (hb : b ∈ s.listRead.head) :
    restOf s b.nSequenceNum = b.rest := by
  have hfind : s.listRead.head.find? (fun a => decide (a.nSequenceNum = b.nSequenceNum)) = some b := by
    obtain ⟨a, ha⟩ := Option.isSome_iff_exists.mp
      (List.find?_isSome (p := fun a => decide (a.nSequenceNum = b.nSequenceNum)).mpr ⟨b, hb, by simp⟩)
    have hab := List.find?_some ha
    rw [ha, h.eq_of_seq_eq (List.mem_of_find?_eq_some ha) hb (by simpa using hab)]
  rw [restOf, hfind]
  rfl

theorem restOf_of_not {i : Nat} (h : ∀ b ∈ s.listRead.head, b.nSequenceNum ≠ i) : restOf s i = [] := by
  have hfind : s.listRead.head.find? (fun a => decide (a.nSequenceNum = i)) = none :=
    List.find?_eq_none.mpr fun b hb => by simpa using h b hb
  rw [restOf, hfind]
  rfl

theorem offsetOf_succ (bufs : List (List UInt8)) (i : Nat) :
    offsetOf bufs (i + 2) = offsetOf bufs (i + 1) + (bufs.getD i []).length := by
  simp only [offsetOf, Nat.add_sub_cancel, show i + 2 - 1 = i + 1 by omega, List.take_add_one,
    List.flatten_append, List.length_append, List.getD_eq_getElem?_getD]
  cases bufs[i]? <;> simp

theorem offsetOf_mono (bufs : List (List UInt8)) {i i' : Nat} (h : i ≤ i') :
    offsetOf bufs i ≤ offsetOf bufs i' := by
  have hpre : bufs.take (i - 1) <+: bufs.take (i' - 1) := List.take_prefix_take_left (by omega)
  obtain ⟨t, ht⟩ := hpre
  rw [offsetOf, offsetOf, ← ht, List.flatten_append, List.length_append]
  omega

/-- Every received buffer is held from the first byte on that was not delivered. -/
theorem RecvInv.restOf_eq (h : RecvInv packets bufs R j s) {i : Nat} (hi : i + 1 ∈ R) :
    restOf s (i + 1) = (bufs.getD i []).drop (deliveredLen s - offsetOf bufs (i + 1)) := by
  obtain ⟨part, hpart, hdel⟩ := h.delivered
  have hlen := congrArg List.length hdel
  rw [← h.deliveredLen_eq, List.length_append] at hlen
  have hoff : (bufs.take s.uiLastProcessBufferIndex).flatten.length =
      offsetOf bufs (s.uiLastProcessBufferIndex + 1) := rfl
  by_cases hk : i + 1 ≤ s.uiLastProcessBufferIndex
  · -- freed
    rw [restOf_of_not fun b hb hbi => by have := h.lt hb; omega, List.drop_of_length_le]
    have h1 := offsetOf_succ bufs i
    have h2 := offsetOf_mono bufs (show i + 2 ≤ s.uiLastProcessBufferIndex + 1 by omega)
    omega
  obtain ⟨b, hb, hbi⟩ := (h.mem_iff (i + 1)).mpr ⟨hi, by omega⟩
  have hsrc : bufs.getD i [] = b.buf := by
    rw [List.getD_eq_getElem?_getD, h.source b hb i hbi]
    rfl
  rw [← hbi, restOf_of_mem h.ordered hb, (h.ok b hb).rest_eq, hbi, hsrc]
  have hok := h.ok b hb
  unfold CXBufferObj.Ok at hok
  by_cases hnext : i = s.uiLastProcessBufferIndex
  · -- used in part
    have := hpart.used b hb (by omega)
    rw [this, List.length_take] at hlen
    congr 1
    rw [hnext]
    omega
  · -- not reached
    have h0 : b.nCurDataPointer = 0 := h.untouched b hb (by omega)
    have hle : deliveredLen s ≤ offsetOf bufs (s.uiLastProcessBufferIndex + 2) := by
      rw [offsetOf_succ, ← hlen, hoff]
      by_cases hex : ∀ a ∈ s.listRead.head, a.nSequenceNum ≠ s.uiLastProcessBufferIndex + 1
      · rw [hpart.none hex]
        simp
      · push Not at hex
        obtain ⟨a, ha, hak⟩ := hex
        have hsa : bufs.getD s.uiLastProcessBufferIndex [] = a.buf := by
          rw [List.getD_eq_getElem?_getD, h.source a ha _ hak]
          rfl
        rw [hpart.used a ha hak, hsa, List.length_take]
        omega
    have h2 := offsetOf_mono bufs (show s.uiLastProcessBufferIndex + 2 ≤ i + 1 by omega)
    rw [h0, Nat.sub_eq_zero_of_le (by omega)]

section Order

variable {order : List Nat} {f g a : Bool}

/-- The invariant after a part of the calls that hand over every buffer once. -/
theorem recvAll_prefix (hserve : ∀ p ∈ packets, env.Serves p)
    (hcut : bufs.flatten <+: packets.flatMap PlainPacket.encode)
    (horder : order.Perm (List.range' 1 bufs.length)) {is : List Nat} (his : is <+: order) :
    ∃ s j, RecvState.recvAll env bufs is (built f g a) = some s ∧
      RecvInv packets bufs (is.reverse ++ []) j s ∧ ∀ p ∈ (packets.drop j).head?,
        (contig s.uiLastProcessBufferIndex s.listRead.head).length < p.size := by
  have hstart : ∀ p ∈ (packets.drop 0).head?,
      (contig (built f g a).uiLastProcessBufferIndex (built f g a).listRead.head).length < p.size := by
    intro p _
    simp [RecvState.built, SeqList.empty, contig, PlainPacket.size, headerLen]
  have hnd : order.Nodup := horder.nodup_iff.mpr List.nodup_range'
  refine RecvInv.recvAll hserve hcut is (RecvInv.built packets bufs f g a) hstart
    (hnd.sublist his.sublist) fun i hi => ?_
  have hmem := List.mem_range'_1.mp (horder.mem_iff.mp (his.subset hi))
  exact ⟨hmem.1, by omega, List.not_mem_nil⟩

/-- When every buffer was handed over, the messages are those of the complete packets. -/
theorem recvAll_content (hserve : ∀ p ∈ packets, env.Serves p)
    (hcut : bufs.flatten <+: packets.flatMap PlainPacket.encode)
    (horder : order.Perm (List.range' 1 bufs.length)) :
    ∃ s, RecvState.recvAll env bufs order (built f g a) = some s ∧ s.overrun = false ∧
      s.mesQueue.map CXMessageData.content = messagesOf (completeIn packets bufs.flatten.length) := by
  obtain ⟨s, j, hs, h, hmax⟩ := recvAll_prefix (f := f) (g := g) (a := a) hserve hcut horder
    (List.prefix_refl order)
  refine ⟨s, hs, h.overrun, ?_⟩
  obtain ⟨n, hn, hnR⟩ := h.delivered_append_contig
  -- every buffer was received, so the bytes in sequence reach to the end of the stream
  have hall : bufs.length ≤ n := by
    by_contra hlt
    have hmem : n + 1 ∈ order := horder.mem_iff.mpr (List.mem_range'_1.mpr ⟨by omega, by omega⟩)
    exact hnR (by simpa using hmem)
  rw [List.take_of_length_le hall] at hn
  rw [h.content, completeIn_append (List.take_append_drop j packets).symm _ hmax]
  rw [← hn, List.length_append, List.length_flatMap]
  simp only [PlainPacket.length_encode]

end Order

/-- A stream of plain packets, cut into buffers in any way (it may end within a packet) and received in
any order. After every call the read list holds the received bytes that were not delivered, and after
the last one the messages are the bodies of the complete packets. -/
theorem recvPacket_reassembles (env : RecvEnv) (packets : List PlainPacket) (bufs : List (List UInt8))
    (order : List Nat) (f g a : Bool) (hserve : ∀ p ∈ packets, env.Serves p)
    (hcut : bufs.flatten <+: packets.flatMap PlainPacket.encode)
    (horder : order.Perm (List.range' 1 bufs.length)) :
    (∀ n, ∃ s, RecvState.recvAll env bufs (order.take n) (built f g a) = some s ∧ s.overrun = false ∧
      (∀ b ∈ s.listRead.head, b.nSequenceNum ∈ order.take n) ∧
      ∀ i ∈ order.take n,
        restOf s i = (bufs.getD (i - 1) []).drop (deliveredLen s - offsetOf bufs i)) ∧
    ∃ s, RecvState.recvAll env bufs order (built f g a) = some s ∧
      s.mesQueue.map CXMessageData.content = messagesOf (completeIn packets bufs.flatten.length) := by
  refine ⟨fun n => ?_, ?_⟩
  · obtain ⟨s, j, hs, h, -⟩ := recvAll_prefix hserve hcut horder (List.take_prefix n order)
    refine ⟨s, hs, h.overrun, fun b hb => ?_, fun i hi => ?_⟩
    · simpa using ((h.mem_iff _).mp ⟨b, hb, rfl⟩).1
    · have h1 := (List.mem_range'_1.mp (horder.mem_iff.mp (List.mem_of_mem_take hi))).1
      obtain ⟨k, rfl⟩ : ∃ k, i = k + 1 := ⟨i - 1, by omega⟩
      exact h.restOf_eq (by simpa using hi)
  · obtain ⟨s, hs, -, hcontent⟩ := recvAll_content hserve hcut horder
    exact ⟨s, hs, hcontent⟩

/-- The server's memory caches, always with an object at hand; nothing is parsed. -/
def serverEnv : RecvEnv :=
  .ofManager (CXMemoryCacheManager.init .allOk .constructDefault CXMemoryCacheManager.serverConfig).1
    (by decide +kernel) (fun _ => ⟨0, true, fun _ => false, fun _ => false⟩) (fun _ => false)
    (fun _ _ => false) fun _ => ⟨false, 0, []⟩

/-- Two packets and a part of a third in four buffers, one of them empty, received out of order. -/
theorem recvPacket_reassembles_server :
    let packets : List PlainPacket := [⟨[1, 2, 3], 3⟩, ⟨[], 0⟩, ⟨[7], 1⟩]
    let stream := packets.flatMap PlainPacket.encode
    let bufs := [stream.take 10, [], (stream.drop 10).take 20, (stream.drop 30).take 12]
    (∀ n, ∃ s, RecvState.recvAll serverEnv bufs ([3, 1, 4, 2].take n) (built false false false) = some s ∧
      s.overrun = false ∧ (∀ b ∈ s.listRead.head, b.nSequenceNum ∈ [3, 1, 4, 2].take n) ∧
      ∀ i ∈ [3, 1, 4, 2].take n,
        restOf s i = (bufs.getD (i - 1) []).drop (deliveredLen s - offsetOf bufs i)) ∧
    ∃ s, RecvState.recvAll serverEnv bufs [3, 1, 4, 2] (built false false false) = some s ∧
      s.mesQueue.map CXMessageData.content = messagesOf (completeIn packets bufs.flatten.length) := by
  intro packets stream bufs
  have hserve : ∀ p ∈ packets, serverEnv.Serves p := by
    intro p hp n
    have hlen : p.body.length ∈ [3, 0, 1] := List.mem_map_of_mem (f := fun p => p.body.length) hp
    have hget : ∀ d ∈ [3, 0, 1], serverEnv.getBuffer 0 (messageDataLen + d) = some (List.replicate 256 0) :=
      by decide +kernel
    have hle : ∀ p ∈ packets, messageDataLen + p.body.length ≤ 256 := by decide
    exact ⟨List.replicate 256 0, hget _ hlen, by rw [List.length_replicate]; exact hle p hp⟩
  exact recvPacket_reassembles serverEnv packets bufs [3, 1, 4, 2] false false false hserve (by decide)
    (by decide)

end RecvState

end KonsanNet
