import Mathlib.Data.List.Perm.Basic
import KonsanNet.RecvPacket

/-!
# Who frees a message buffer

`Owned s held` accounts for every buffer that was ever obtained: the ones in `held` are in somebody's
hands, every other one was freed or pushed to the message queue, once. Each function of the receive path
passes ownership on, with one exception: `ParseMessage` frees the message on all its failures, and
`RecvPacket` frees it again when a packet that it parses itself fails (`deliver_owned_iff`). With a wrong
checksum there is a second way out: the log line reads `pCurBuf`, which is `NULL` if the packet ended with
the read list, and the call does not return.
-/

namespace KonsanNet

namespace RecvState

/-- How often the buffer was freed or pushed. -/
def settled (events : List BufEvent) (id : Nat) : Nat :=
  events.count (.free id) + events.count (.pushed id)

/-- All buffers but the ones in `held` are settled. -/
structure Owned (s : RecvState) (held : List Nat) : Prop where
  lt : ∀ id, .alloc id ∈ s.events → id < s.calls
  alloc : ∀ id ∈ held, .alloc id ∈ s.events
  nodup : held.Nodup
  settled : ∀ id, settled s.events id = if .alloc id ∈ s.events ∧ id ∉ held then 1 else 0

variable {s s' : RecvState} {held held' : List Nat} {env : RecvEnv} {id : Nat}

theorem Owned.perm (h : Owned s held) (hp : held.Perm held') : Owned s held' where
  lt := h.lt
  alloc id hid := h.alloc id (hp.mem_iff.mpr hid)
  nodup := hp.nodup_iff.mp h.nodup
  settled id := by
    rw [h.settled id]
    simp only [hp.mem_iff]

theorem Owned.congr (h : Owned s held) (he : s'.events = s.events) (hc : s.calls ≤ s'.calls) :
    Owned s' held where
  lt id hid := lt_of_lt_of_le (h.lt id (he ▸ hid)) hc
  alloc id hid := he ▸ h.alloc id hid
  nodup := h.nodup
  settled id := by rw [he, h.settled id]

theorem Owned.settle {e : BufEvent} (h : Owned s (id :: held)) (hev : s'.events = s.events ++ [e])
    (hc : s'.calls = s.calls) (he : e = .free id ∨ e = .pushed id) : Owned s' held := by
  obtain ⟨hid, hnd⟩ := List.nodup_cons.mp h.nodup
  have hmem : ∀ i, BufEvent.alloc i ∈ s'.events ↔ BufEvent.alloc i ∈ s.events := fun i => by
    rw [hev]
    rcases he with rfl | rfl <;> simp
  have hcount : ∀ i, RecvState.settled s'.events i =
      RecvState.settled s.events i + if i = id then 1 else 0 := fun i => by
    simp only [RecvState.settled, hev, List.count_append, List.count_singleton]
    rcases he with rfl | rfl
    · by_cases hi : i = id
      · subst hi; simp; omega
      · simp [hi, Ne.symm hi]
    · by_cases hi : i = id
      · subst hi; simp; omega
      · simp [hi, Ne.symm hi]
  refine ⟨fun i hi => by rw [hc]; exact h.lt i ((hmem i).mp hi),
    fun i hi => (hmem i).mpr (h.alloc i (List.mem_cons_of_mem _ hi)), hnd, fun i => ?_⟩
  rw [hcount, h.settled i]
  simp only [hmem, List.mem_cons]
  by_cases hi : i = id
  · subst hi
    simp [hid, h.alloc i (List.mem_cons_self ..)]
  · simp [hi]

theorem Owned.freeBuffer (h : Owned s (id :: held)) : Owned (s.freeBuffer id) held :=
  h.settle rfl rfl (Or.inl rfl)

theorem Owned.pushReceivedMessage {m : CXMessageData} (h : Owned s (m.id :: held)) :
    Owned (s.pushReceivedMessage m) held :=
  h.settle rfl rfl (Or.inr rfl)

theorem Owned.settled_freeBuffer (h : Owned s held) (ha : .alloc id ∈ s.events) (hid : id ∉ held) :
    RecvState.settled (s.freeBuffer id).events id = 2 := by
  have h1 := h.settled id
  rw [if_pos ⟨ha, hid⟩] at h1
  simp only [RecvState.settled, RecvState.freeBuffer, List.count_append, List.count_singleton] at h1 ⊢
  simp
  omega

/-- The messages of the tasks that have not run yet. -/
def pending (s : RecvState) : List Nat := s.tasks.map fun t => t.1.id

/-- Every buffer that was obtained is settled once, or is the message of a task that has not run yet and
is not settled. -/
def Settled (s : RecvState) : Prop :=
  ∀ id, .alloc id ∈ s.events → settled s.events id = if id ∈ s.pending then 0 else 1

theorem Owned.to_settled (h : Owned s s.pending) : s.Settled := by
  intro id hid
  rw [h.settled id]
  by_cases hp : id ∈ s.pending <;> simp [hid, hp]

theorem Owned.getBuffer (env : RecvEnv) (h : Owned s held) (size : Nat) :
    (∃ s', s.getBuffer env size = (s', none) ∧ Owned s' held ∧
        s' = { s with calls := s.calls + 1 } ∧ env.getBuffer s.calls size = none) ∨
      ∃ s' mem, s.getBuffer env size = (s', some (s.calls, mem)) ∧ Owned s' (s.calls :: held) ∧
        s' = { s with calls := s.calls + 1, events := s.events ++ [.alloc s.calls] } ∧
        env.getBuffer s.calls size = some mem := by
  unfold RecvState.getBuffer
  cases hget : env.getBuffer s.calls size with
  | none => exact Or.inl ⟨_, rfl, h.congr rfl (Nat.le_succ _), rfl, rfl⟩
  | some mem =>
    refine Or.inr ⟨_, mem, rfl, ?_, rfl, rfl⟩
    have hnew : BufEvent.alloc s.calls ∉ s.events := fun hm => lt_irrefl _ (h.lt _ hm)
    have hmem : ∀ i, BufEvent.alloc i ∈ s.events ++ [.alloc s.calls] ↔
        BufEvent.alloc i ∈ s.events ∨ i = s.calls := fun i => by simp
    have hheld : s.calls ∉ held := fun hm => hnew (h.alloc _ hm)
    refine ⟨fun i hi => ?_, fun i hi => ?_, List.nodup_cons.mpr ⟨hheld, h.nodup⟩, fun i => ?_⟩
    · show i < s.calls + 1
      rcases (hmem i).mp hi with hi | rfl
      · have := h.lt i hi
        omega
      · omega
    · rcases List.mem_cons.mp hi with rfl | hi
      · exact (hmem _).mpr (Or.inr rfl)
      · exact (hmem _).mpr (Or.inl (h.alloc i hi))
    · have : RecvState.settled (s.events ++ [.alloc s.calls]) i = RecvState.settled s.events i := by
        simp [RecvState.settled]
      show RecvState.settled (s.events ++ [.alloc s.calls]) i = _
      rw [this, h.settled i]
      simp only [hmem, List.mem_cons]
      by_cases hi : i = s.calls
      · subst hi
        simp [hnew]
      · simp [hi]

/-! ### The scan -/

/-- The message object in the loop's hands. -/
def idsOf (m : Option CXMessageData) : List Nat := (m.map CXMessageData.id).toList

/-- Only the records of the calls differ. -/
def Quiet (s s' : RecvState) : Prop :=
  s' = { s with calls := s'.calls, events := s'.events, overrun := s'.overrun }

theorem Quiet.trans {s s' s'' : RecvState} (h : Quiet s s') (h' : Quiet s' s'') : Quiet s s'' := by
  unfold Quiet at h h' ⊢
  rw [h', h]

theorem Owned.check (h : Owned s held) (ok : Bool) : Owned (s.check ok) held := h.congr rfl le_rfl

theorem quiet_check (s : RecvState) (ok : Bool) : Quiet s (s.check ok) := rfl

theorem readHeader_pMessageData (b : CXBufferObj) (c : Cursor) :
    (readHeader b c).1.pMessageData = c.pMessageData := by
  unfold readHeader
  split <;> rfl

theorem readBody_id (b : CXBufferObj) (h : CXPacketHeader) (m : CXMessageData) (u l i : Nat) :
    (readBody b h m u l i).1.id = m.id := by
  unfold readBody
  dsimp only
  split <;> rfl

theorem getMessage_owned (env : RecvEnv) (hd : CXPacketHeader) {pm : Option CXMessageData}
    (h : Owned s (idsOf pm ++ held)) :
    (∃ s', getMessage env hd pm s = (s', none) ∧ Owned s' held ∧ Quiet s s') ∨
      ∃ s' m, getMessage env hd pm s = (s', some m) ∧ Owned s' (m.id :: held) ∧ Quiet s s' := by
  cases pm with
  | some m => exact Or.inr ⟨s, m, rfl, h, rfl⟩
  | none =>
    rcases Owned.getBuffer env h (messageDataLen + hd.dwDataLen) with
      ⟨s', hget, ho, hs, -⟩ | ⟨s', mem, hget, ho, hs, -⟩
    · refine Or.inl ⟨s', by rw [getMessage, hget], ho, ?_⟩
      rw [hs]; rfl
    · refine Or.inr ⟨s'.check (bodyOffset ≤ mem.length), ⟨s.calls, 1, hd.dwDataLen, 0, mem.drop bodyOffset⟩,
        by rw [getMessage, hget], ho.check _, ?_⟩
      rw [hs]; rfl

/-- The scan ends with the message object in its hands, or without one. -/
def ScanEnd.ids : ScanEnd → List Nat
  | .drained m => idsOf m
  | .errorPacket m => idsOf m
  | .noBuffer => []
  | .packet _ m _ _ => [m.id]

theorem scan_owned (env : RecvEnv) (held : List Nat) : ∀ (l : List CXBufferObj) (passed : Nat) (c : Cursor)
    (s : RecvState),
    Owned s (idsOf c.pMessageData ++ held) →
    ∃ s' e, scan env l passed c s = (s', e) ∧ Owned s' (e.ids ++ held) ∧ Quiet s s'
  | [], _, _, s, h => ⟨s, _, rfl, h, rfl⟩
  | b :: l, passed, c, s, h => by
    unfold scan
    split
    · exact ⟨s, _, rfl, h, rfl⟩
    split
    · exact scan_owned env held l (passed + 1) { c with uiPacketIndex := c.uiPacketIndex + 1 } s h
    obtain ⟨⟨c₁, iLeft, iBegin, ok⟩, hread⟩ : ∃ r, readHeader b c = r := ⟨_, rfl⟩
    have hpm : c₁.pMessageData = c.pMessageData := by
      have := readHeader_pMessageData b c
      rwa [hread] at this
    rw [← hpm] at h
    have h₁ := h.check ok
    have hq₁ := quiet_check s ok
    simp only [hread]
    split
    · obtain ⟨s', e, hs, ho, hq⟩ := scan_owned env held l (passed + 1)
        { c₁ with uiPacketIndex := c₁.uiPacketIndex + 1 } _ h₁
      exact ⟨s', e, hs, ho, hq₁.trans hq⟩
    split
    · exact ⟨_, _, rfl, h₁, hq₁⟩
    split
    · exact ⟨_, _, rfl, h₁, hq₁⟩
    rcases getMessage_owned env (CXPacketHeader.ofBytes c₁.packetHeader) h₁ with
      ⟨s₂, hget, ho, hq⟩ | ⟨s₂, m, hget, ho, hq⟩
    · simp only [hget]
      exact ⟨s₂, _, rfl, ho, hq₁.trans hq⟩
    simp only [hget]
    obtain ⟨⟨m', iUsed, iBegin', ok'⟩, hbody⟩ :
      ∃ r, readBody b (CXPacketHeader.ofBytes c₁.packetHeader) m c₁.iUsedLen iLeft iBegin = r := ⟨_, rfl⟩
    have hid : m'.id = m.id := by
      have := readBody_id b (CXPacketHeader.ofBytes c₁.packetHeader) m c₁.iUsedLen iLeft iBegin
      rwa [hbody] at this
    rw [← hid] at ho
    have h₃ := ho.check ok'
    have hq₃ := (hq₁.trans hq).trans (quiet_check s₂ ok')
    simp only [hbody]
    split
    · obtain ⟨s', e, hs, ho, hq⟩ := scan_owned env held l (passed + 1) { c₁ with
        iUsedLen := iUsed, uiPacketIndex := c₁.uiPacketIndex + 1, pMessageData := some m' } _ h₃
      exact ⟨s', e, hs, ho, hq₃.trans hq⟩
    split
    · exact ⟨_, _, rfl, h₃, hq₃⟩
    · exact ⟨_, _, rfl, h₃, hq₃⟩

/-- A packet takes at least the bytes of its header out of the list. -/
theorem scan_packet_totalLen : ∀ {l : List CXBufferObj} {passed : Nat} {c : Cursor} {s s' : RecvState}
    {h : CXPacketHeader} {m : CXMessageData} {freed : Nat} {left : List CXBufferObj},
    scan env l passed c s = (s', .packet h m freed left) →
    totalLen left + headerLen ≤ c.iUsedLen + totalLen l
  | [], _, _, _, _, _, _, _, _, h => by cases h
  | b :: l, passed, c, s, s', hd, m, freed, left, h => by
    have htot : totalLen (b :: l) = b.len + totalLen l := by simp [totalLen]
    unfold scan at h
    split at h
    · cases h
    split at h
    · have := scan_packet_totalLen h
      simp only at this
      omega
    obtain ⟨⟨c₁, iLeft, iBegin, ok⟩, hread⟩ : ∃ r, readHeader b c = r := ⟨_, rfl⟩
    have hc₁ : c₁.iUsedLen + iLeft = c.iUsedLen + b.len ∧ iBegin + iLeft = b.nCurDataPointer + b.len := by
      unfold readHeader at hread
      split at hread
      · simp only [Prod.mk.injEq] at hread
        obtain ⟨rfl, rfl, rfl, -⟩ := hread
        simp only
        split <;> omega
      · simp only [Prod.mk.injEq] at hread
        obtain ⟨rfl, rfl, rfl, -⟩ := hread
        exact ⟨rfl, rfl⟩
    simp only [hread] at h
    split at h
    · have := scan_packet_totalLen h
      simp only at this
      omega
    split at h
    · cases h
    split at h
    · cases h
    split at h
    · cases h
    rename_i s₂ m₂ hget
    obtain ⟨⟨m', iUsed, iBegin', ok'⟩, hbody⟩ :
      ∃ r, readBody b (CXPacketHeader.ofBytes c₁.packetHeader) m₂ c₁.iUsedLen iLeft iBegin = r := ⟨_, rfl⟩
    have hu : ∃ n, n ≤ iLeft ∧ iUsed = c₁.iUsedLen + n ∧ iBegin' = iBegin + n := by
      unfold readBody at hbody
      dsimp only at hbody
      split at hbody
      · simp only [Prod.mk.injEq] at hbody
        obtain ⟨-, rfl, rfl, -⟩ := hbody
        refine ⟨_, ?_, rfl, rfl⟩
        split <;> omega
      · simp only [Prod.mk.injEq] at hbody
        obtain ⟨-, rfl, rfl, -⟩ := hbody
        exact ⟨0, Nat.zero_le _, rfl, rfl⟩
    obtain ⟨n, hn, rfl, rfl⟩ := hu
    simp only [hbody] at h
    split at h
    · have := scan_packet_totalLen h
      simp only at this
      omega
    split at h
    · simp only [Prod.mk.injEq, ScanEnd.packet.injEq] at h
      obtain ⟨-, -, -, -, rfl⟩ := h
      omega
    · simp only [Prod.mk.injEq, ScanEnd.packet.injEq] at h
      obtain ⟨-, -, -, -, rfl⟩ := h
      simp only [totalLen, List.map_cons, List.sum_cons] at htot ⊢
      omega

/-! ### Delivering -/

/-- Every request of a `ParseMessage` that starts with call `n` is answered, and `ParseData` returns the
length the header announces. -/
def parseOk (env : RecvEnv) (h : CXPacketHeader) (n : Nat) : Bool :=
  let cached := env.getFirstThreadCache n (newBufferLen h)
  let n' := if cached then n + 1 else n + 2
  (cached || (env.getBuffer (n + 1) (newBufferLen h)).isSome) &&
    (env.getBuffer n' (outputBufLen h)).isSome &&
    ((env.parseData (n' + 1)).ret && (env.parseData (n' + 1)).dwRetLen = h.dwOrignDataLen)

theorem Owned.freeScratch {scratch : Option Nat} (h : Owned s (scratch.toList ++ held)) :
    Owned (s.freeScratch scratch) held := by
  cases scratch with
  | none => exact h
  | some id => exact Owned.freeBuffer h

theorem Owned.getScratch (env : RecvEnv) (h : Owned s held) (size : Nat) :
    (∃ s', s.getScratch env size = (s', none) ∧ Owned s' held ∧ Quiet s s' ∧
        env.getFirstThreadCache s.calls size = false ∧ env.getBuffer (s.calls + 1) size = none) ∨
      ∃ s' scratch, s.getScratch env size = (s', some scratch) ∧ Owned s' (scratch.toList ++ held) ∧
        Quiet s s' ∧ s'.calls = (if env.getFirstThreadCache s.calls size then s.calls + 1 else s.calls + 2) ∧
        (env.getFirstThreadCache s.calls size || (env.getBuffer (s.calls + 1) size).isSome) = true := by
  have h₁ : Owned { s with calls := s.calls + 1 } held := h.congr rfl (Nat.le_succ _)
  unfold RecvState.getScratch
  cases hc : env.getFirstThreadCache s.calls size with
  | true => exact Or.inr ⟨_, none, by simp [hc], h₁, rfl, rfl, rfl⟩
  | false =>
    rcases Owned.getBuffer env h₁ size with ⟨s', hget, ho, hs, hnone⟩ | ⟨s', mem, hget, ho, hs, hsome⟩
    · refine Or.inl ⟨s', by simp [hc, hget], ho, ?_, rfl, hnone⟩
      rw [hs]; rfl
    · refine Or.inr ⟨s', some (s.calls + 1), by simp [hc, hget], ho, ?_, ?_, ?_⟩
      · rw [hs]; rfl
      · rw [hs]; rfl
      · simp only at hsome
        simp [hsome]

/-- `parseMessage` leaves the message to nobody, whether it succeeds or not. -/
theorem Owned.parseMessage {m : CXMessageData} (env : RecvEnv) (hd : CXPacketHeader)
    (h : Owned s (m.id :: held)) :
    ∃ s', RecvState.parseMessage env m hd s = (s', s.lpServer && parseOk env hd s.calls) ∧ Owned s' held ∧
      s'.tasks = s.tasks ∧ s'.listRead = s.listRead ∧ .alloc m.id ∈ s'.events := by
  have halloc : ∀ {s' : RecvState} {held' : List Nat} (e : List BufEvent), Owned s' held' → m.id ∈ held' →
      .alloc m.id ∈ s'.events ++ e := fun e ho hm => List.mem_append_left _ (ho.alloc _ hm)
  unfold RecvState.parseMessage
  cases hsrv : s.lpServer with
  | false => exact ⟨_, rfl, h.freeBuffer, rfl, rfl, halloc _ h (List.mem_cons_self ..)⟩
  | true =>
    simp only [Bool.not_true, Bool.false_eq_true, if_false, Bool.true_and]
    unfold parseOk
    rcases Owned.getScratch env h (newBufferLen hd) with
      ⟨s₁, hscr, ho, hq, hc, hb⟩ | ⟨s₁, scratch, hscr, ho, hq, hcalls, hok⟩
    · refine ⟨s₁.freeBuffer m.id, ?_, ho.freeBuffer, ?_, ?_, halloc _ ho (List.mem_cons_self ..)⟩
      · simp [hscr, hc, hb]
      · rw [hq]; rfl
      · rw [hq]; rfl
    have htasks : s₁.tasks = s.tasks := by rw [hq]
    have hlist : s₁.listRead = s.listRead := by rw [hq]
    simp only [hscr, hok, ← hcalls, Bool.true_and]
    rcases Owned.getBuffer env ho (outputBufLen hd) with
      ⟨s₂, hget, ho₂, hs₂, hnone⟩ | ⟨s₂, mem, hget, ho₂, hs₂, hsome⟩
    · have hperm : (scratch.toList ++ m.id :: held).Perm (m.id :: (scratch.toList ++ held)) :=
        List.perm_middle
      have ho₃ := ho₂.perm hperm
      refine ⟨(s₂.freeBuffer m.id).freeScratch scratch, by simp [hget, hnone],
        ho₃.freeBuffer.freeScratch, ?_, ?_, ?_⟩
      · cases scratch <;> (rw [hs₂]; exact htasks)
      · cases scratch <;> (rw [hs₂]; exact hlist)
      · have := halloc [.free m.id] ho₃ (List.mem_cons_self ..)
        cases scratch with
        | none => exact this
        | some id => exact List.mem_append_left _ this
    simp only [hget, hsome, Option.isSome_some, Bool.true_and]
    have hs₂c : s₂.calls = s₁.calls + 1 := by rw [hs₂]
    rw [hs₂c]
    -- all three buffers are in the hands of `ParseMessage` now
    have hperm : (s₁.calls :: (scratch.toList ++ m.id :: held)).Perm
        (scratch.toList ++ (m.id :: s₁.calls :: held)) := by
      have h1 : (scratch.toList ++ m.id :: held).Perm (m.id :: (scratch.toList ++ held)) := List.perm_middle
      have h2 : (scratch.toList ++ (m.id :: s₁.calls :: held)).Perm
          (m.id :: s₁.calls :: (scratch.toList ++ held)) :=
        List.perm_middle.trans (List.Perm.cons _ List.perm_middle)
      exact ((h1.cons _).trans (List.Perm.swap _ _ _)).trans h2.symm
    have ho₃ : Owned { s₂ with calls := s₁.calls + 1 + 1 } (scratch.toList ++ (m.id :: s₁.calls :: held)) :=
      (ho₂.perm hperm).congr rfl (by rw [hs₂c]; exact Nat.le_succ _)
    have ho₄ := ho₃.freeScratch
    have ho₅ := ho₄.freeBuffer
    have hframe : ((RecvState.freeScratch scratch { s₂ with calls := s₁.calls + 1 + 1 }).freeBuffer m.id).tasks =
        s.tasks ∧ ((RecvState.freeScratch scratch { s₂ with calls := s₁.calls + 1 + 1 }).freeBuffer
          m.id).listRead = s.listRead := by
      cases scratch <;> (rw [hs₂]; exact ⟨htasks, hlist⟩)
    have ham := halloc [.free m.id] ho₄ (List.mem_cons_self ..)
    by_cases hp : (env.parseData (s₁.calls + 1)).ret = true ∧
        (env.parseData (s₁.calls + 1)).dwRetLen = hd.dwOrignDataLen
    · refine ⟨_, ?_, ho₅.pushReceivedMessage (m := ⟨s₁.calls, 1, hd.dwOrignDataLen, m.iSequenceNum,
        memcpy (mem.drop bodyOffset) 0 (env.parseData (s₁.calls + 1)).output⟩), hframe.1, hframe.2,
        List.mem_append_left _ ham⟩
      simp [hp.1, hp.2]
    · refine ⟨_, ?_, ho₅.freeBuffer, hframe.1, hframe.2, List.mem_append_left _ ham⟩
      have hp' : (env.parseData (s₁.calls + 1)).ret = false ∨
          (env.parseData (s₁.calls + 1)).dwRetLen ≠ hd.dwOrignDataLen := by
        by_contra hno
        push Not at hno
        exact hp ⟨by simpa using hno.1, hno.2⟩
      rcases hp' with hp' | hp'
      · simp [hp']
      · simp [hp']

/-- The way out of `deliver` that goes wrong is not taken: the packet is not one that `RecvPacket` parses
itself and that fails, nor one with a wrong checksum that ends with the read list. -/
def deliverOk (env : RecvEnv) (h : CXPacketHeader) (m : CXMessageData) (pCurBuf : Bool) (s : RecvState) :
    Bool :=
  if verifyPacketBodyData h m then
    if h.byEncryptFlag ≠ 0 ∨ h.byCompressFlag ≠ 0 then
      !s.pDataParserHandle || (s.pTaskPool && s.bAsyncParseData) || (s.lpServer && parseOk env h s.calls)
    else true
  else pCurBuf

theorem deliver_owned {m : CXMessageData} {hd : CXPacketHeader} {f : Bool}
    (h : Owned s (m.id :: s.pending)) (hok : deliverOk env hd m f s = true) :
    ∃ s' r, s.deliver env hd m f = some (s', r) ∧ Owned s' s'.pending ∧ s'.listRead = s.listRead := by
  unfold deliverOk at hok
  unfold deliver
  split at hok
  · rename_i hv
    rw [if_pos hv]
    split at hok
    · rename_i hflag
      rw [if_pos hflag]
      by_cases hp : (!s.pDataParserHandle) = true
      · rw [if_pos hp]
        exact ⟨_, _, rfl, h.freeBuffer, rfl⟩
      rw [if_neg hp]
      by_cases ha : (s.pTaskPool && s.bAsyncParseData) = true
      · rw [if_pos ha]
        have h₁ : Owned { s with calls := s.calls + 1 } (m.id :: s.pending) := h.congr rfl (Nat.le_succ _)
        by_cases ht : env.getFreeTaskObject s.calls = true
        · refine ⟨{ s with calls := s.calls + 1, tasks := s.tasks ++ [(m, hd)] }, none, if_pos ht, ?_, rfl⟩
          have hperm : (m.id :: s.pending).Perm
              (pending { s with calls := s.calls + 1, tasks := s.tasks ++ [(m, hd)] }) := by
            simp only [pending, List.map_append, List.map_cons, List.map_nil]
            exact (List.perm_append_singleton m.id _).symm
          exact (h₁.perm hperm).congr rfl le_rfl
        · exact ⟨_, _, if_neg ht, h₁.freeBuffer, rfl⟩
      · rw [if_neg ha]
        obtain ⟨s', hparse, ho, htasks, hlist, -⟩ := Owned.parseMessage env hd h
        have hpo : (s.lpServer && parseOk env hd s.calls) = true := by
          simp only [Bool.or_eq_true, hp, ha] at hok
          simpa using hok
        rw [hpo] at hparse
        refine ⟨s', none, by rw [hparse], ?_, hlist⟩
        rw [pending, htasks]
        exact ho
    · rename_i hflag
      rw [if_neg hflag]
      exact ⟨_, _, rfl, h.pushReceivedMessage, rfl⟩
  · rename_i hv
    rw [if_neg hv, if_pos hok]
    exact ⟨_, _, rfl, h.freeBuffer, rfl⟩

/-- Otherwise the call ends with a buffer freed twice, or does not return. -/
theorem deliver_not_settled {m : CXMessageData} {hd : CXPacketHeader} {f : Bool}
    (h : Owned s (m.id :: s.pending)) (hok : deliverOk env hd m f s ≠ true) :
    s.deliver env hd m f = none ∨
      ∃ s', s.deliver env hd m f = some (s', some (-5)) ∧ ¬ s'.Settled := by
  unfold deliverOk at hok
  unfold deliver
  split at hok
  · rename_i hv
    rw [if_pos hv]
    split at hok
    · rename_i hflag
      rw [if_pos hflag]
      have hok := Bool.eq_false_iff.mpr hok
      rw [Bool.or_eq_false_iff, Bool.or_eq_false_iff] at hok
      obtain ⟨⟨hp, ha⟩, hpo⟩ := hok
      obtain ⟨s', hparse, ho, -, -, ham⟩ := Owned.parseMessage env hd h
      rw [hpo] at hparse
      refine Or.inr ⟨s'.freeBuffer m.id, by simp [hp, ha, hparse], fun hset => ?_⟩
      have htwo := ho.settled_freeBuffer ham (List.nodup_cons.mp h.nodup).1
      have hone := hset m.id (List.mem_append_left _ ham)
      rw [htwo] at hone
      split at hone <;> omega
    · exact absurd rfl hok
  · rename_i hv
    rw [if_neg hv, if_neg hok]
    exact Or.inl rfl

/-! ### Calls and runs -/

/-- `deliverOk` for every packet that `unpack` takes. -/
def unpackOk (env : RecvEnv) : Nat → RecvState → Bool
  | 0, _ => true
  | fuel + 1, s =>
    match scan env s.listRead.head 0 (.start s.uiLastProcessBufferIndex) s with
    | (s, .packet h m freed left) =>
      let s := s.takePacket h freed left
      let m := { m with iSequenceNum := s.iLastUnpackedMessageSequenceNum }
      deliverOk env h m (!left.isEmpty) s &&
        match s.deliver env h m (!left.isEmpty) with
        | some (s, none) => unpackOk env fuel s
        | _ => true
    | _ => true

theorem Owned.freeMessage {m : Option CXMessageData} (h : Owned s (idsOf m ++ held)) :
    Owned (s.freeMessage m) held := by
  cases m with
  | none => exact h
  | some m => exact Owned.freeBuffer h

theorem pending_freeMessage (m : Option CXMessageData) (s : RecvState) :
    (s.freeMessage m).pending = s.pending := by cases m <;> rfl

/-- The read list is empty for both of its pointers or for none. -/
def EndsAgree (s : RecvState) : Prop := s.listRead.head = [] ↔ s.listRead.endSeq = none

theorem endsAgree_takePacket {hd : CXPacketHeader} {freed : Nat} {left : List CXBufferObj}
    (h : s.EndsAgree) (hne : s.listRead.head ≠ []) : (s.takePacket hd freed left).EndsAgree := by
  unfold EndsAgree at h ⊢
  cases left with
  | nil => exact ⟨fun _ => rfl, fun _ => rfl⟩
  | cons b left =>
    refine ⟨fun hb => (by cases hb), fun he => absurd (h.mpr ?_) hne⟩
    exact he

/-- `unpack` returns and settles every buffer exactly if `unpackOk` holds; the fuel it is given is more
than it needs. -/
theorem unpack_owned : ∀ (fuel : Nat) (s : RecvState), Owned s s.pending → s.EndsAgree →
    totalLen s.listRead.head < fuel →
    (unpackOk env fuel s = true →
      ∃ s' r, unpack env fuel s = some (s', r) ∧ Owned s' s'.pending ∧ s'.EndsAgree) ∧
    (unpackOk env fuel s ≠ true → ∀ s' r, unpack env fuel s = some (s', r) → ¬ s'.Settled)
  | 0, _, _, _, hf => absurd hf (Nat.not_lt_zero _)
  | fuel + 1, s, h, hends, hf => by
    obtain ⟨s₁, e, hscan, ho, hq⟩ := scan_owned env s.pending s.listRead.head 0
      (.start s.uiLastProcessBufferIndex) s h
    have hpend : s₁.pending = s.pending := by rw [hq]; rfl
    have hlist : s₁.listRead = s.listRead := by rw [hq]
    have hends₁ : s₁.EndsAgree := by unfold EndsAgree; rw [hlist]; exact hends
    rw [← hpend] at ho
    rw [unpack, unpackOk, hscan]
    -- the calls that end here
    have hfree : ∀ m, Owned s₁ (idsOf m ++ s₁.pending) →
        Owned (s₁.freeMessage m) (s₁.freeMessage m).pending ∧ (s₁.freeMessage m).EndsAgree := fun m hm => by
      rw [pending_freeMessage]
      exact ⟨Owned.freeMessage hm, by cases m <;> exact hends₁⟩
    cases e with
    | drained m => exact ⟨fun _ => ⟨_, _, rfl, hfree m ho⟩, fun hno => absurd rfl hno⟩
    | errorPacket m => exact ⟨fun _ => ⟨_, _, rfl, hfree m ho⟩, fun hno => absurd rfl hno⟩
    | noBuffer => exact ⟨fun _ => ⟨_, _, rfl, ho, hends₁⟩, fun hno => absurd rfl hno⟩
    | packet hd m freed left =>
      have hlen := scan_packet_totalLen hscan
      have hne : s₁.listRead.head ≠ [] := by
        rw [hlist]
        intro h0
        rw [h0] at hscan
        cases hscan
      obtain ⟨s₂, hs₂⟩ : ∃ s₂, s₁.takePacket hd freed left = s₂ := ⟨_, rfl⟩
      have hends₂ : s₂.EndsAgree := hs₂ ▸ endsAgree_takePacket hends₁ hne
      have ho₂ : Owned s₂ (m.id :: s₂.pending) := by
        rw [← hs₂]
        exact Owned.congr ho rfl le_rfl
      have hlist₂ : s₂.listRead.head = left := by rw [← hs₂]; rfl
      simp only [hs₂]
      obtain ⟨m', hm'⟩ : ∃ m', { m with iSequenceNum := s₂.iLastUnpackedMessageSequenceNum } = m' := ⟨_, rfl⟩
      have hid : m.id = m'.id := by rw [← hm']
      rw [hid] at ho₂
      simp only [hm']
      by_cases hok : deliverOk env hd m' (!left.isEmpty) s₂ = true
      · obtain ⟨s₃, r, hdel, ho₃, hlist₃⟩ := deliver_owned ho₂ hok
        have hends₃ : s₃.EndsAgree := by unfold EndsAgree; rw [hlist₃]; exact hends₂
        simp only [hok, hdel, Bool.true_and]
        cases r with
        | some r => exact ⟨fun _ => ⟨s₃, r, rfl, ho₃, hends₃⟩, fun hno => absurd rfl hno⟩
        | none =>
          refine unpack_owned fuel s₃ ho₃ hends₃ ?_
          rw [hlist₃, hlist₂]
          have h0 : (Cursor.start s.uiLastProcessBufferIndex).iUsedLen = 0 := rfl
          simp only [h0, headerLen] at hlen
          omega
      · have hfalse : ∀ b, ¬ ((deliverOk env hd m' (!left.isEmpty) s₂ && b) = true) := fun b hb =>
          hok (Bool.and_eq_true_iff.mp hb).1
        rcases deliver_not_settled ho₂ hok with hdel | ⟨s₃, hdel, hno⟩
        · simp only [hdel]
          exact ⟨fun hr => absurd hr (hfalse _), fun _ s' r hr => (by cases hr)⟩
        · simp only [hdel]
          exact ⟨fun hr => absurd hr (hfalse _), fun _ s' r hr => (by cases hr; exact hno)⟩

/-- `deliverOk` for every packet that the call takes. -/
def recvOk (env : RecvEnv) (b : CXBufferObj) (s : RecvState) : Bool :=
  if !s.lpServer then true
  else
    match s.pushReceivedBuffer b with
    | some (s, true) => unpackOk env (totalLen s.listRead.head + 1) s
    | _ => true

theorem linkAfter_ne_nil (e : Nat) (b : CXBufferObj) {l : List CXBufferObj} (h : l ≠ []) :
    SeqList.linkAfter CXBufferObj.nSequenceNum e b l ≠ [] := by
  cases l with
  | nil => exact absurd rfl h
  | cons a l =>
    unfold SeqList.linkAfter
    split <;> simp

/-- With both pointers of the read list set, or none, pushing a buffer succeeds. -/
theorem pushReceivedBuffer_spec (b : CXBufferObj) (hends : s.EndsAgree) :
    ∃ s', s.pushReceivedBuffer b = some (s', true) ∧ s'.EndsAgree ∧ s'.events = s.events ∧
      s'.calls = s.calls ∧ s'.tasks = s.tasks := by
  have hpush : ∃ l, SeqList.push CXBufferObj.nSequenceNum s.listRead b = some (l, true) ∧ l.head ≠ [] ∧
      l.endSeq ≠ none := by
    unfold EndsAgree at hends
    unfold SeqList.push
    obtain ⟨⟨head, e⟩, hl⟩ : ∃ l, s.listRead = l := ⟨_, rfl⟩
    rw [hl] at hends ⊢
    cases head with
    | nil =>
      have he : e = none := hends.mp rfl
      subst he
      exact ⟨_, rfl, by simp, by simp⟩
    | cons a as =>
      cases e with
      | none => exact absurd (hends.mpr rfl) (by simp)
      | some e =>
        simp only [List.isEmpty_cons, Bool.false_and, Bool.false_eq_true, if_false]
        split
        · exact ⟨_, rfl, linkAfter_ne_nil _ _ (by simp), by simp⟩
        split
        · exact ⟨_, rfl, by simp, by simp⟩
        · exact ⟨_, rfl, by simp, by simp⟩
  obtain ⟨l, hpush, h1, h2⟩ := hpush
  refine ⟨{ s with
    listRead := l
    uiNumberOfReceivedBufferInList := s.uiNumberOfReceivedBufferInList + 1
    uiPostedRecvBuffers := s.uiPostedRecvBuffers - 1 }, ?_, ?_, rfl, rfl, rfl⟩
  · simp [RecvState.pushReceivedBuffer, hpush]
  · exact ⟨fun h => absurd h h1, fun h => absurd h h2⟩

/-- What can happen to a connection: a receive buffer is handed over, or a parse task that waits in the
pool (the `i`-th) runs. -/
inductive RecvAct
  | recv (b : CXBufferObj)
  | task (i : Nat)

def act (env : RecvEnv) (s : RecvState) : RecvAct → Option RecvState
  | .recv b => (recvPacket env b s).map Prod.fst
  | .task i =>
    match s.tasks[i]? with
    | none => some s
    | some (m, h) => some (processTask env m h { s with tasks := s.tasks.eraseIdx i }).1

def actOk (env : RecvEnv) (s : RecvState) : RecvAct → Bool
  | .recv b => recvOk env b s
  | .task _ => true

def runActs (env : RecvEnv) : List RecvAct → RecvState → Option RecvState
  | [], s => some s
  | a :: acts, s => do
    let s ← act env s a
    runActs env acts s

def runActsOk (env : RecvEnv) : List RecvAct → RecvState → Bool
  | [], _ => true
  | a :: acts, s => actOk env s a && (act env s a).all (runActsOk env acts)

theorem recvPacket_owned (env : RecvEnv) (b : CXBufferObj) (h : Owned s s.pending) (hends : s.EndsAgree) :
    (recvOk env b s = true → ∃ s' r, recvPacket env b s = some (s', r) ∧ Owned s' s'.pending ∧ s'.EndsAgree) ∧
      (recvOk env b s ≠ true → ∀ s' r, recvPacket env b s = some (s', r) → ¬ s'.Settled) := by
  unfold recvOk recvPacket
  by_cases hsrv : (!s.lpServer) = true
  · rw [if_pos hsrv, if_pos hsrv]
    exact ⟨fun _ => ⟨s, -1, rfl, h, hends⟩, fun hno => absurd rfl hno⟩
  rw [if_neg hsrv, if_neg hsrv]
  obtain ⟨s', hpush, hends', hev, hcalls, htasks⟩ := pushReceivedBuffer_spec b hends
  have hp : s'.pending = s.pending := by rw [pending, htasks, pending]
  have ho : Owned s' s'.pending := hp ▸ h.congr hev (le_of_eq hcalls.symm)
  simp only [hpush]
  exact unpack_owned _ s' ho hends' (Nat.lt_succ_self _)

theorem processTask_owned {i : Nat} {m : CXMessageData} {hd : CXPacketHeader} (env : RecvEnv)
    (h : Owned s s.pending) (ht : s.tasks[i]? = some (m, hd)) :
    ∃ s' iRet, processTask env m hd { s with tasks := s.tasks.eraseIdx i } = (s', iRet) ∧ Owned s' s'.pending ∧
      s'.listRead = s.listRead := by
  obtain ⟨hi, hti⟩ := List.getElem?_eq_some_iff.mp ht
  have hperm : s.pending.Perm (m.id :: pending { s with tasks := s.tasks.eraseIdx i }) := by
    have herase := (List.getElem_cons_eraseIdx_perm hi).symm.map fun t => t.1.id
    rw [hti] at herase
    exact herase
  have h₁ : Owned { s with tasks := s.tasks.eraseIdx i }
      (m.id :: pending { s with tasks := s.tasks.eraseIdx i }) := (h.perm hperm).congr rfl le_rfl
  obtain ⟨s', hparse, ho, htasks, hlist, -⟩ := Owned.parseMessage env hd h₁
  have ho' : Owned s' s'.pending := by
    rw [pending, htasks]
    exact ho
  unfold processTask
  obtain ⟨ok, hok⟩ : ∃ ok, RecvState.parseMessage env m hd { s with tasks := s.tasks.eraseIdx i } = (s', ok) :=
    ⟨_, hparse⟩
  rw [hok]
  cases ok with
  | true => exact ⟨s', 0, rfl, ho', hlist⟩
  | false => exact ⟨s', -2, rfl, ho', hlist⟩

theorem act_owned (env : RecvEnv) (a : RecvAct) (h : Owned s s.pending) (hends : s.EndsAgree) :
    (actOk env s a = true → ∃ s', act env s a = some s' ∧ Owned s' s'.pending ∧ s'.EndsAgree) ∧
      (actOk env s a ≠ true → ∀ s', act env s a = some s' → ¬ s'.Settled) := by
  cases a with
  | recv b =>
    obtain ⟨hok, hno⟩ := recvPacket_owned env b h hends
    refine ⟨fun ho => ?_, fun ho s' hs' => ?_⟩
    · obtain ⟨s', r, hrun, hs'⟩ := hok ho
      exact ⟨s', by simp [act, hrun], hs'⟩
    · obtain ⟨⟨s₁, r⟩, hrun, rfl⟩ := Option.map_eq_some_iff.mp hs'
      exact hno ho s₁ r hrun
  | task i =>
    refine ⟨fun _ => ?_, fun hno => absurd rfl hno⟩
    cases ht : s.tasks[i]? with
    | none => exact ⟨s, by simp [act, ht], h, hends⟩
    | some t =>
      obtain ⟨m, hd⟩ := t
      obtain ⟨s', iRet, hrun, ho, hlist⟩ := processTask_owned env h ht
      refine ⟨s', by simp [act, ht, hrun], ho, ?_⟩
      unfold EndsAgree
      rw [hlist]
      exact hends

theorem owned_built (f g a : Bool) : Owned (built f g a) (built f g a).pending where
  lt id h := by cases h
  alloc id h := by cases h
  nodup := List.nodup_nil
  settled id := by simp [RecvState.settled, built]

theorem runActs_settled_iff_of_owned : ∀ (acts : List RecvAct) {s : RecvState}, Owned s s.pending →
    s.EndsAgree → ((∀ n, ∃ s', runActs env (acts.take n) s = some s' ∧ s'.Settled) ↔
      runActsOk env acts s = true)
  | [], s, h, _ => ⟨fun _ => rfl, fun _ n => ⟨s, by simp [runActs], h.to_settled⟩⟩
  | a :: acts, s, h, hends => by
    obtain ⟨hok, hno⟩ := act_owned env a h hends
    constructor
    · intro hall
      have ha : actOk env s a = true := by
        by_contra hbad
        obtain ⟨s₁, hrun, hset⟩ := hall 1
        obtain ⟨s₂, hact, hrest⟩ := Option.bind_eq_some_iff.mp hrun
        cases hrest
        exact hno hbad _ hact hset
      obtain ⟨s₁, hact, ho, hends₁⟩ := hok ha
      have ih := (runActs_settled_iff_of_owned acts ho hends₁).mp fun n => by
        obtain ⟨s', hrun, hset⟩ := hall (n + 1)
        refine ⟨s', ?_, hset⟩
        simpa [runActs, hact] using hrun
      simp [runActsOk, ha, hact, ih]
    · intro hrun n
      obtain ⟨ha, hacts⟩ := Bool.and_eq_true_iff.mp hrun
      obtain ⟨s₁, hact, ho, hends₁⟩ := hok ha
      cases n with
      | zero => exact ⟨s, rfl, h.to_settled⟩
      | succ n =>
        rw [hact] at hacts
        obtain ⟨s', hrun', hset⟩ := (runActs_settled_iff_of_owned acts ho hends₁).mpr hacts n
        exact ⟨s', by simpa [runActs, hact] using hrun', hset⟩

/-- In every run from a built connection the calls return and settle what they obtained, exactly if no
packet that `RecvPacket` parses itself fails and none with a wrong checksum ends with the read list. -/
theorem runActs_settled_iff (env : RecvEnv) (acts : List RecvAct) (f g a : Bool) :
    (∀ n, ∃ s, runActs env (acts.take n) (built f g a) = some s ∧ s.Settled) ↔
      runActsOk env acts (built f g a) = true :=
  runActs_settled_iff_of_owned acts (owned_built f g a) ⟨fun _ => rfl, fun _ => rfl⟩

/-- An environment in which everything is obtained and nothing can be decrypted. -/
def undecryptableEnv : RecvEnv where
  getBuffer n size := if size ≤ cxMaxCacheSize then some (List.replicate 128 0) else none
  getBuffer_le {n size mem} h := by
    split at h
    · assumption
    · cases h
  getFreeTaskObject _ := true
  getFirstThreadCache _ _ := true
  parseData _ := ⟨false, 0, []⟩

/-- One encrypted packet with an empty body: its message, the first buffer obtained, is freed twice. -/
theorem undecryptable_freed_twice :
    ∃ s, runActs undecryptableEnv
        [.recv (.received 1 (leBytes 2 cxPacketHeaderFlag ++ [0, 0x81] ++ List.replicate 12 0))]
        (built true false false) = some s ∧
      s.events = [.alloc 0, .alloc 2, .free 0, .free 2, .free 0] ∧ ¬ s.Settled := by
  refine ⟨_, rfl, by decide +kernel, fun h => ?_⟩
  exact absurd (h 0 (by decide +kernel)) (by decide +kernel)

end RecvState

end KonsanNet
