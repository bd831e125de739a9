import KonsanNet.ReadListInv

/-!
# The calls of `RecvPacket` (`bLockBySelf`)

A call is safe if it returns, with a value that its comment documents, after it has released `m_lock` as often as
it has taken it, and no message buffer is used behind its end: freed, or handed to the message queue, a second
time. (A call that follows `NULL` or a pointer to a freed receive buffer does not return in `ReadList`.)

Four ways out of the loop over packets are not safe: a packet with a wrong checksum that ends with the read list,
whose log line reads the buffer behind it; a packet to parse without a parser (`-6`); one that fails to parse,
which `ParseMessage` has freed already (`-5`); and the `break` without a task object, behind which `m_lock` is
released again. `packetOk` says that a packet takes none of them.
-/

namespace KonsanNet

namespace RecvState

/-- A complete packet takes no unsafe way out; `pCurBuf` tells whether a buffer is left behind it. -/
def packetOk (env : RecvEnv) (hd : CXPacketHeader) (m : CXMessageData) (pCurBuf : Bool) (s : RecvState) : Bool :=
  if verifyPacketBodyData hd m then
    if hd.byEncryptFlag ≠ 0 ∨ hd.byCompressFlag ≠ 0 then
      s.pDataParserHandle &&
        if s.pTaskPool && s.bAsyncParseData then env.getFreeTaskObject s.calls
        else s.lpServer && parseOk env hd s.calls
    else true
  else pCurBuf

variable {env : RecvEnv} {s s' : RecvState} {hd : CXPacketHeader} {m : CXMessageData} {f : Bool}

theorem deliverOk_of_packetOk (h : packetOk env hd m f s = true) : deliverOk env hd m f s = true := by
  unfold packetOk at h
  unfold deliverOk
  split at h
  · rename_i hv
    rw [if_pos hv]
    split at h
    · rename_i hflag
      rw [if_pos hflag]
      obtain ⟨hp, h⟩ := Bool.and_eq_true_iff.mp h
      split at h
      · rename_i ha
        rw [ha, Bool.or_true, Bool.true_or]
      · rw [h, Bool.or_true]
    · rename_i hflag
      rw [if_neg hflag]
  · rename_i hv
    rw [if_neg hv, h]

/-- A packet that takes a safe way out is passed on, or the call returns `-4`. -/
theorem deliver_of_packetOk (h : Owned s (m.id :: s.pending)) (hok : packetOk env hd m f s = true) :
    ∃ s' r, s.deliver env hd m f = some (s', r) ∧ Owned s' s'.pending ∧ (r = none ∨ r = some (-4)) := by
  obtain ⟨s', r, hdel, ho, -⟩ := deliver_owned h (deliverOk_of_packetOk hok)
  refine ⟨s', r, hdel, ho, ?_⟩
  unfold packetOk at hok
  unfold deliver at hdel
  split at hdel
  · rename_i hv
    rw [if_pos hv] at hok
    split at hdel
    · rename_i hflag
      rw [if_pos hflag] at hok
      obtain ⟨hp, hok⟩ := Bool.and_eq_true_iff.mp hok
      rw [if_neg (by simp [hp])] at hdel
      split at hdel
      · rename_i ha
        rw [if_pos ha] at hok
        simp only [hok, if_true] at hdel
        cases hdel
        exact .inl rfl
      · rename_i ha
        rw [if_neg ha] at hok
        obtain ⟨s₁, hparse, -⟩ := Owned.parseMessage env hd h
        rw [hparse, hok] at hdel
        cases hdel
        exact .inl rfl
    · cases hdel
      exact .inl rfl
  · split at hdel <;> cases hdel
    exact .inr rfl

/-- Otherwise the call follows `NULL` or returns: `-3` only without a task object. -/
theorem deliver_of_not_packetOk (h : Owned s (m.id :: s.pending)) (hok : packetOk env hd m f s ≠ true) :
    s.deliver env hd m f = none ∨
      ∃ s' iRet, s.deliver env hd m f = some (s', some iRet) ∧ (iRet = -3 ∨ iRet = -5 ∨ iRet = -6) := by
  unfold packetOk at hok
  unfold deliver
  split at hok
  · rename_i hv
    rw [if_pos hv]
    split at hok
    · rename_i hflag
      rw [if_pos hflag]
      by_cases hp : s.pDataParserHandle = true
      · rw [hp, Bool.true_and] at hok
        rw [if_neg (by simp [hp])]
        by_cases ha : (s.pTaskPool && s.bAsyncParseData) = true
        · rw [if_pos ha] at hok ⊢
          exact .inr ⟨_, _, if_neg hok, .inl rfl⟩
        · rw [if_neg ha] at hok ⊢
          obtain ⟨s', hparse, -⟩ := Owned.parseMessage env hd h
          rw [Bool.eq_false_iff.mpr hok] at hparse
          rw [hparse]
          exact .inr ⟨_, _, rfl, .inr (.inl rfl)⟩
      · rw [if_pos (by simp [hp])]
        exact .inr ⟨_, _, rfl, .inr (.inr rfl)⟩
    · exact absurd rfl hok
  · rename_i hv
    rw [if_neg hv, if_neg hok]
    exact .inl rfl

end RecvState

namespace ReadConn

open ReadHeap

/-- The result of a safe call. -/
structure Safe (s' : ReadConn) (iRet : Int) : Prop where
  documented : iRet = 0 ∨ iRet = -2 ∨ iRet = -3 ∨ iRet = -4
  unlocked : s'.nLock = s'.nUnlock
  once : ∀ id, RecvState.settled s'.con.events id ≤ 1

/-- `packetOk` for every packet that `unpack` takes. -/
def unpackOk (env : RecvEnv) : Nat → Option Nat → ReadConn → Bool
  | 0, _, _ => true
  | fuel + 1, pCurBuf, s =>
    match s.heap.scan env (s.heap.created + 1) pCurBuf (.start s.con.uiLastProcessBufferIndex) s.con with
    | some (con, .packet hd m p iBegin) =>
      match { s with con := con }.takePacket hd p iBegin with
      | none => true
      | some (s, pCurBuf) =>
        RecvState.packetOk env hd m pCurBuf.isSome s.con &&
          match s.deliver env hd m pCurBuf with
          | some (s, none) => unpackOk env fuel pCurBuf s
          | _ => true
    | _ => true

/-- `packetOk` for every packet that the call takes; the connection has its server. -/
def recvOk (env : RecvEnv) (s : ReadConn) (p : Nat) : Bool :=
  s.con.lpServer &&
    match s.lock.pushReceivedBuffer p with
    | some (s, true) =>
      s.unpackOk env (s.heap.totalLen (s.heap.created + 1) s.heap.pListReadBuf + 1) s.heap.pListReadBuf
    | _ => true

variable {env : RecvEnv} {s s' : ReadConn} {ps : List Nat} {l : List CXBufferObj} {p : Nat}
  {hd : CXPacketHeader} {m : CXMessageData} {r : Option Int}

/-- In a read list that is represented, the pointer behind a packet is `NULL` or its buffer is allocated. -/
theorem Inv.isSome_pListReadBuf (h : Inv s ps l) :
    (s.heap.pListReadBuf.bind s.heap.node).isSome = s.heap.pListReadBuf.isSome := by
  cases ps with
  | nil =>
    have hnone : s.heap.pListReadBuf = none := h.rep.linked
    rw [hnone]
    rfl
  | cons q qs =>
    cases l with
    | nil => cases h.rep.length_eq
    | cons b l =>
      obtain ⟨hhead, hb⟩ := h.rep.head_node
      rw [hhead, Option.bind_some, hb]
      rfl

theorem deliver_of_packetOk (h : Inv s ps l) (ho : RecvState.Owned s.con (m.id :: s.con.pending))
    (hl : s.nLock = s.nUnlock + 1)
    (hok : RecvState.packetOk env hd m s.heap.pListReadBuf.isSome s.con = true) :
    ∃ s' r, s.deliver env hd m s.heap.pListReadBuf = some (s', r) ∧ RecvState.Owned s'.con s'.con.pending ∧
      (r = none ∧ s'.nLock = s'.nUnlock + 1 ∨ r = some (-4) ∧ s'.nLock = s'.nUnlock) := by
  rw [← h.isSome_pListReadBuf] at hok
  obtain ⟨con, r, hdel, ho', hr⟩ := RecvState.deliver_of_packetOk
    (m := { m with iSequenceNum := s.con.iLastUnpackedMessageSequenceNum }) ho hok
  unfold ReadConn.deliver
  rw [hdel]
  rcases hr with rfl | rfl
  · refine ⟨_, none, rfl, ho', .inl ⟨rfl, ?_⟩⟩
    simp only [lock, unlock]
    omega
  · exact ⟨_, _, rfl, ho', .inr ⟨rfl, hl⟩⟩

theorem deliver_of_not_packetOk (h : Inv s ps l) (ho : RecvState.Owned s.con (m.id :: s.con.pending))
    (hl : s.nLock = s.nUnlock + 1)
    (hok : RecvState.packetOk env hd m s.heap.pListReadBuf.isSome s.con ≠ true) :
    s.deliver env hd m s.heap.pListReadBuf = none ∨
      ∃ s' iRet, s.deliver env hd m s.heap.pListReadBuf = some (s', some iRet) ∧ ¬ Safe s' iRet := by
  rw [← h.isSome_pListReadBuf] at hok
  unfold ReadConn.deliver
  rcases RecvState.deliver_of_not_packetOk
    (m := { m with iSequenceNum := s.con.iLastUnpackedMessageSequenceNum }) ho hok with
    hdel | ⟨con, iRet, hdel, hr⟩
  · rw [hdel]
    exact .inl rfl
  · rw [hdel]
    rcases hr with rfl | rfl | rfl
    · refine .inr ⟨_, _, rfl, fun hs => ?_⟩
      have := hs.unlocked
      simp only [unlock] at this
      omega
    · exact .inr ⟨_, _, rfl, fun hs => by rcases hs.documented with h | h | h | h <;> cases h⟩
    · exact .inr ⟨_, _, rfl, fun hs => by rcases hs.documented with h | h | h | h <;> cases h⟩

theorem totalLen_eq {h : ReadHeap} : ∀ (l : List CXBufferObj) (fuel : Nat) (p : Option Nat) (qs : List Nat),
    Linked h.pNext p qs → qs.map h.node = l.map some → qs.length < fuel → h.totalLen fuel p = RecvState.totalLen l
  | _, 0, _, _, _, _, hf => absurd hf (Nat.not_lt_zero _)
  | [], fuel + 1, p, qs, hl, hn, _ => by
    obtain rfl : qs = [] := by simpa using hn
    obtain rfl : p = none := hl
    rfl
  | b :: l, fuel + 1, p, [], hl, hn, _ => by cases hn
  | b :: l, fuel + 1, p, q :: qs, hl, hn, hf => by
    obtain ⟨rfl, hl⟩ := hl
    obtain ⟨hb, hn⟩ := List.cons.inj hn
    have ih := totalLen_eq l fuel (h.pNext q) qs hl hn (Nat.lt_of_succ_lt_succ hf)
    simp only [ReadHeap.totalLen, hb, Option.map_some, Option.getD_some, ih, RecvState.totalLen, List.map_cons,
      List.sum_cons]

/-- What a safe call leaves. -/
structure Ready (s : ReadConn) : Prop where
  inv : ∃ ps l, Inv s ps l
  owned : RecvState.Owned s.con s.con.pending
  unlocked : s.nLock = s.nUnlock

theorem Ready.safe {iRet : Int} (h : s.Ready) (hr : iRet = 0 ∨ iRet = -2 ∨ iRet = -3 ∨ iRet = -4) :
    Safe s iRet := by
  refine ⟨hr, h.unlocked, fun id => ?_⟩
  rw [h.owned.settled]
  split <;> omega

/-- Where the loop ends without a complete packet, the message that is begun is freed. -/
theorem ready_freeMessage {con : RecvState} (h : Inv s ps l) (hl : s.nLock = s.nUnlock + 1)
    (hc : SameCounts s.con con) {m : Option CXMessageData}
    (ho : RecvState.Owned con (RecvState.idsOf m ++ con.pending)) :
    ({ s with con := con.freeMessage m }.unlock).Ready := by
  have hc' : SameCounts s.con (con.freeMessage m) := by cases m <;> exact hc
  refine ⟨⟨ps, l, h.congr hc'⟩, ?_, hl⟩
  show RecvState.Owned (con.freeMessage m) (con.freeMessage m).pending
  rw [RecvState.pending_freeMessage]
  exact ho.freeMessage

/-- `unpack` is safe exactly if `unpackOk` holds; the fuel it is given is more than it needs. -/
theorem unpack_safe : ∀ (fuel : Nat) (s : ReadConn) (ps : List Nat) (l : List CXBufferObj), Inv s ps l →
    RecvState.Owned s.con s.con.pending → s.nLock = s.nUnlock + 1 → RecvState.totalLen l < fuel →
    (s.unpackOk env fuel s.heap.pListReadBuf = true →
      ∃ s' iRet, s.unpack env fuel s.heap.pListReadBuf = some (s', iRet) ∧ s'.Ready ∧
        (iRet = 0 ∨ iRet = -3 ∨ iRet = -4)) ∧
    (s.unpackOk env fuel s.heap.pListReadBuf ≠ true →
      ∀ s' iRet, s.unpack env fuel s.heap.pListReadBuf = some (s', iRet) → ¬ Safe s' iRet)
  | 0, _, _, _, _, _, _, hf => absurd hf (Nat.not_lt_zero _)
  | fuel + 1, s, ps, l, h, ho, hl, hf => by
    obtain ⟨con', e, hscan', ho', hq⟩ := RecvState.scan_owned env s.con.pending l 0
      (.start s.con.uiLastProcessBufferIndex) s.con ho
    have hpend : con'.pending = s.con.pending := by rw [hq]; rfl
    rw [← hpend] at ho'
    unfold unpack unpackOk
    cases h.round env with
    | drained con m hcon hscan heq =>
      obtain ⟨rfl, rfl⟩ := Prod.mk.inj (hscan.symm.trans hscan')
      rw [heq]
      exact ⟨fun _ => ⟨_, 0, rfl, ready_freeMessage h hl hcon ho', .inl rfl⟩, fun hno => absurd rfl hno⟩
    | errorPacket con m hcon hscan heq =>
      obtain ⟨rfl, rfl⟩ := Prod.mk.inj (hscan.symm.trans hscan')
      rw [heq]
      exact ⟨fun _ => ⟨_, -4, rfl, ready_freeMessage h hl hcon ho', .inr (.inr rfl)⟩, fun hno => absurd rfl hno⟩
    | noBuffer con hcon hscan heq =>
      obtain ⟨rfl, rfl⟩ := Prod.mk.inj (hscan.symm.trans hscan')
      rw [heq]
      exact ⟨fun _ => ⟨_, -3, rfl, ⟨⟨ps, l, h.congr hcon⟩, ho', hl⟩, .inr (.inl rfl)⟩, fun hno => absurd rfl hno⟩
    | packet con hd m freed lft q iBegin s₁ ps' hscan heq htake h₁ hcon₁ hl₁ hl₂ =>
      obtain ⟨rfl, rfl⟩ := Prod.mk.inj (hscan.symm.trans hscan')
      have hlen := RecvState.scan_packet_totalLen hscan
      have ho₁ : RecvState.Owned s₁.con (m.id :: s₁.con.pending) := by
        rw [hcon₁]
        exact RecvState.Owned.congr ho' rfl le_rfl
      have hlock : s₁.nLock = s₁.nUnlock + 1 := by rw [hl₁, hl₂, hl]
      simp only [heq, htake]
      by_cases hok : RecvState.packetOk env hd m s₁.heap.pListReadBuf.isSome s₁.con = true
      · obtain ⟨s₂, r, hdel, ho₂, hr⟩ := deliver_of_packetOk h₁ ho₁ hlock hok
        have h₂ : Inv s₂ ps' lft := h₁.deliver hdel
        rw [hok, hdel, Bool.true_and]
        rcases hr with ⟨rfl, hl₂⟩ | ⟨rfl, hl₂⟩
        · rw [← deliver_heap hdel]
          refine unpack_safe fuel s₂ ps' lft h₂ ho₂ hl₂ ?_
          have h0 : (RecvState.Cursor.start s.con.uiLastProcessBufferIndex).iUsedLen = 0 := rfl
          simp only [h0, headerLen] at hlen
          omega
        · exact ⟨fun _ => ⟨s₂, -4, rfl, ⟨⟨ps', lft, h₂⟩, ho₂, hl₂⟩, .inr (.inr rfl)⟩, fun hno => absurd rfl hno⟩
      · rw [Bool.eq_false_iff.mpr hok, Bool.false_and]
        rcases deliver_of_not_packetOk h₁ ho₁ hlock hok with hdel | ⟨s₂, iRet, hdel, hno⟩
        · rw [hdel]
          exact ⟨fun hf => absurd hf Bool.false_ne_true, fun _ s' iRet hs => by cases hs⟩
        · rw [hdel]
          refine ⟨fun hf => absurd hf Bool.false_ne_true, fun _ s' iRet hs => ?_⟩
          cases hs
          exact hno

theorem recvPacket_safe (env : RecvEnv) (h : s.Ready) (hp : p ∈ s.inFlight) :
    (recvOk env { s with inFlight := s.inFlight.erase p } p = true →
      ∃ s' iRet, { s with inFlight := s.inFlight.erase p }.recvPacket env p = some (s', iRet) ∧ s'.Ready ∧
        Safe s' iRet) ∧
    (recvOk env { s with inFlight := s.inFlight.erase p } p ≠ true →
      ∀ s' iRet, { s with inFlight := s.inFlight.erase p }.recvPacket env p = some (s', iRet) → ¬ Safe s' iRet) := by
  obtain ⟨⟨ps, l, hi⟩, ho, hl⟩ := h
  have hlock : Inv s.lock ps l := hi.congr ⟨rfl, rfl⟩
  obtain ⟨s₁, ps₁, l₁, hpush, h₁, hl₁, hl₂, hcon⟩ := hlock.pushReceivedBuffer hp
  have hpush' : { s with inFlight := s.inFlight.erase p }.lock.pushReceivedBuffer p = some (s₁, true) := hpush
  have ho₁ : RecvState.Owned s₁.con s₁.con.pending := by
    rw [hcon]
    exact ho.congr rfl le_rfl
  have hlock₁ : s₁.nLock = s₁.nUnlock + 1 := by
    rw [hl₁, hl₂]
    exact congrArg (· + 1) hl
  unfold recvOk recvPacket
  by_cases hsrv : s.con.lpServer = true
  · simp only [hsrv, hpush', Bool.not_true, Bool.false_eq_true, if_false, Bool.true_and]
    have hlen : ps₁.length < s₁.heap.created + 1 := Nat.lt_succ_of_le h₁.rep.length_le
    rw [totalLen_eq l₁ _ _ ps₁ h₁.rep.linked h₁.rep.nodes hlen]
    obtain ⟨hok, hno⟩ := unpack_safe (RecvState.totalLen l₁ + 1) s₁ ps₁ l₁ h₁ ho₁ hlock₁ (Nat.lt_succ_self _)
    refine ⟨fun hu => ?_, hno⟩
    obtain ⟨s', iRet, hrun, hready, hr⟩ := hok hu
    exact ⟨s', iRet, hrun, hready, hready.safe (by omega)⟩
  · simp only [hsrv, Bool.not_false, if_true, Bool.false_and]
    refine ⟨fun hf => absurd hf Bool.false_ne_true, fun _ s' iRet hs hsafe => ?_⟩
    cases hs
    rcases hsafe.documented with h | h | h | h <;> cases h

/-! ### Runs -/

/-- Every packet that a call takes goes a safe way, and no `Close` frees a read list that is not empty. -/
def CallOk (env : RecvEnv) (s : ReadConn) (a : ReadAct) : Prop :=
  s.KeepsList a ∧
    match a with
    | .recvPacket p => recvOk env { s with inFlight := s.inFlight.erase p } p = true
    | _ => True

instance (env : RecvEnv) (s : ReadConn) : ∀ a, Decidable (CallOk env s a)
  | .recvPacket _ => inferInstanceAs (Decidable (_ ∧ _ = true))
  | .recvData _ | .pushReceivedBuffer _ | .task _ | .close _ => inferInstanceAs (Decidable (_ ∧ True))

theorem ready_built (f g a : Bool) : (ReadConn.built f g a).Ready :=
  ⟨⟨[], [], Inv.built f g a⟩, RecvState.owned_built f g a, rfl⟩

theorem Ready.step {a : ReadAct} (h : s.Ready) (hok : CallOk env s a) (hs : s.step env a = some s') :
    s'.Ready := by
  obtain ⟨ps, l, hi⟩ := h.inv
  have hinv := hi.step hok.1 hs
  cases a with
  | recvData bytes =>
    cases hs
    exact ⟨hinv, h.owned.congr rfl le_rfl, h.unlocked⟩
  | pushReceivedBuffer p =>
    obtain ⟨hp, hs⟩ := Option.ite_none_right_eq_some.mp hs
    obtain ⟨s₁, ps', l', hpush, h', hl₁, hl₂, hcon⟩ := hi.pushReceivedBuffer hp
    rw [hpush] at hs
    cases hs
    refine ⟨hinv, ?_, by rw [hl₁, hl₂, h.unlocked]⟩
    rw [hcon]
    exact h.owned.congr rfl le_rfl
  | recvPacket p =>
    obtain ⟨hp, hs⟩ := Option.ite_none_right_eq_some.mp hs
    obtain ⟨⟨s₁, iRet⟩, hrecv, rfl⟩ := Option.map_eq_some_iff.mp hs
    obtain ⟨s₂, iRet', hrecv', hready, -⟩ := (recvPacket_safe env h hp).1 hok.2
    rw [hrecv] at hrecv'
    cases hrecv'
    exact hready
  | task i =>
    obtain ⟨⟨m, hd⟩, ht, rfl⟩ := Option.map_eq_some_iff.mp hs
    obtain ⟨con, iRet, hrun, ho, -⟩ := RecvState.processTask_owned env h.owned ht
    refine ⟨hinv, ?_, h.unlocked⟩
    rw [hrun]
    exact ho
  | close bNonePosted =>
    have hs' : s.close bNonePosted = some s' := hs
    unfold ReadConn.close at hs'
    split at hs'
    · obtain ⟨r, -, rfl⟩ := Option.map_eq_some_iff.mp hs'
      exact ⟨hinv, h.owned.congr rfl le_rfl, h.unlocked⟩
    · cases hs'
      exact h

/-- In every run whose calls so far take only safe ways out, the next call of `RecvPacket` is safe exactly if it
does. -/
theorem recvPacket_safe_iff {f g a : Bool}
    (hs : Reachable (guarded (CallOk env) (step env)) (ReadConn.built f g a) s)
    (hp : p ∈ s.inFlight) :
    (∃ s' iRet, { s with inFlight := s.inFlight.erase p }.recvPacket env p = some (s', iRet) ∧ Safe s' iRet) ↔
      recvOk env { s with inFlight := s.inFlight.erase p } p = true := by
  have hready : s.Ready := by
    refine hs.invariant (ready_built f g a) fun s a s' h hstep => ?_
    obtain ⟨hok, hstep⟩ := guarded_eq_some.mp hstep
    exact h.step hok hstep
  obtain ⟨hok, hno⟩ := recvPacket_safe env hready hp
  constructor
  · rintro ⟨s', iRet, hrecv, hsafe⟩
    by_contra hbad
    exact hno hbad s' iRet hrecv hsafe
  · intro hu
    obtain ⟨s', iRet, hrecv, -, hsafe⟩ := hok hu
    exact ⟨s', iRet, hrecv, hsafe⟩

/-- A packet in two buffers, of which the second comes first. -/
theorem recvPacket_safe_twoBuffers : ∃ s : ReadConn, s.heap.pListReadBuf = some 1 ∧ ∃ s' iRet,
    { s with inFlight := s.inFlight.erase 0 }.recvPacket RecvState.undecryptableEnv 0 = some (s', iRet) ∧
      Safe s' iRet := by
  have hrun : (runSteps (guarded (CallOk RecvState.undecryptableEnv) (step RecvState.undecryptableEnv))
      (ReadConn.built true false false)
      [.recvData (leBytes 2 cxPacketHeaderFlag ++ [0, 0]), .recvData (List.replicate 13 0), .recvPacket 1]).any
      (fun s => s.heap.pListReadBuf = some 1 ∧ 0 ∈ s.inFlight ∧
        recvOk RecvState.undecryptableEnv { s with inFlight := s.inFlight.erase 0 } 0 = true) = true := by
    decide +kernel
  obtain ⟨s, hs, h⟩ := (Option.any_eq_true _ _).mp hrun
  obtain ⟨hhead, hp, hok⟩ := of_decide_eq_true h
  exact ⟨s, hhead, (recvPacket_safe_iff (Reachable.of_runSteps hs) hp).mpr hok⟩

/-- A packet without a body whose checksum is not zero: the log line reads the buffer behind it. -/
theorem not_safe_checkSum : ∃ s : ReadConn, Reachable (step RecvState.undecryptableEnv)
    (ReadConn.built true false false) s ∧ 0 ∈ s.inFlight ∧ ¬ ∃ s' iRet,
      { s with inFlight := s.inFlight.erase 0 }.recvPacket RecvState.undecryptableEnv 0 = some (s', iRet) ∧
        Safe s' iRet := by
  have hrun : (runSteps (step RecvState.undecryptableEnv) (ReadConn.built true false false)
      [.recvData (CXPacketHeader.toBytes ⟨cxPacketHeaderFlag, 0, 0, 0, 1, 0⟩)]).any
      (fun s => 0 ∈ s.inFlight ∧ ({ s with inFlight := s.inFlight.erase 0 }.recvPacket
        RecvState.undecryptableEnv 0).isNone) = true := by decide +kernel
  obtain ⟨s, hs, h⟩ := (Option.any_eq_true _ _).mp hrun
  obtain ⟨hp, hnone⟩ := of_decide_eq_true h
  refine ⟨s, Reachable.of_runSteps hs, hp, ?_⟩
  rintro ⟨s', iRet, hrecv, -⟩
  rw [hrecv] at hnone
  cases hnone

end ReadConn

end KonsanNet
