import KonsanNet.SendOwn

/-!
# Every send buffer is freed once

`Books` counts for each buffer where it is: given out by the cache is freed, owned, in the hands of the running call
(`held`) or `lost`. `PostSend` loses the buffer that it does not accept, and `PreparedAndSendPacket` uses its input
after it has freed it whenever it has prepared the packet. Neither can be made good by a later step, so a run has
accounted for every buffer exactly if none of its steps did that (`accounted_iff`).
-/

namespace KonsanNet

namespace SendState

/-- The numbers of the packets in the list and in the tasks. -/
structure Numbered (c : SendState) : Prop where
  ordered : SeqList.Ordered CXBufferObj.nSequenceNum c.listSendBuf
  nodup : (c.listNums ++ c.taskNums).Nodup
  lt : ∀ n ∈ c.listNums ++ c.taskNums, n < c.uiCurSendingPacketSequenceNum

/-- `n` has been taken and is with no packet of the list or of a task. -/
structure Unused (c : SendState) (n : Nat) : Prop where
  notMem : n ∉ c.listNums ++ c.taskNums
  lt : n < c.uiCurSendingPacketSequenceNum

/-- `PostSend` puts a packet of this length into the list. -/
structure Accepts (c : SendState) (len : Nat) : Prop where
  pSocketKernel : c.pSocketKernel = true
  pos : 0 < len
  le : len ≤ 1024 * 1024
  ne_closing : c.nState ≠ .closing
  ne_closed : c.nState ≠ .closed

variable {c c' : SendState} {env : SendEnv} {b : CXBufferObj} {rest : List CXBufferObj} {n m dwLen i : Nat}
  {t : PrepareTask}

theorem Numbered.popSent (h : Numbered c) (hl : c.listSendBuf.head = b :: rest) :
    Numbered (c.popSent b rest n) := by
  have hlist : c.listSendBuf = ⟨[b] ++ rest, c.listSendBuf.endSeq⟩ := by rw [List.singleton_append, ← hl]
  have hsub : ((c.popSent b rest n).listNums ++ (c.popSent b rest n).taskNums).Sublist (c.listNums ++ c.taskNums) := by
    show (rest.map CXBufferObj.nSequenceNum ++ c.taskNums).Sublist _
    unfold listNums
    rw [hl]
    exact (List.sublist_cons_self ..).append_right _
  have hord := h.ordered
  rw [hlist] at hord
  exact ⟨hord.suffix, h.nodup.sublist hsub, fun k hk => h.lt k (hsub.subset hk)⟩

theorem Numbered.keepHead (h : Numbered c) (hl : c.listSendBuf.head = b :: rest) :
    Numbered (c.keepHead b rest n m) := by
  have hnums : (c.keepHead b rest n m).listNums = c.listNums := by simp [listNums, SendState.keepHead, hl]
  refine ⟨h.ordered.of_map_eq hnums rfl, ?_, ?_⟩
  · show ((c.keepHead b rest n m).listNums ++ c.taskNums).Nodup
    rw [hnums]
    exact h.nodup
  · show ∀ k ∈ (c.keepHead b rest n m).listNums ++ c.taskNums, _
    rw [hnums]
    exact h.lt

/-- Steps that leave the list, the tasks and the next number alone. -/
theorem Numbered.of_eq (h : Numbered c) (hlist : c'.listSendBuf = c.listSendBuf) (htasks : c'.tasks = c.tasks)
    (hnum : c'.uiCurSendingPacketSequenceNum = c.uiCurSendingPacketSequenceNum) : Numbered c' := by
  have hl : c'.listNums = c.listNums := by rw [listNums, hlist, listNums]
  have ht : c'.taskNums = c.taskNums := by rw [taskNums, htasks, taskNums]
  exact ⟨hlist ▸ h.ordered, by rw [hl, ht]; exact h.nodup, by rw [hl, ht, hnum]; exact h.lt⟩

theorem closeConnection_eq (c : SendState) (env : SendEnv) :
    (c.closeConnection env).listSendBuf = c.listSendBuf ∧ (c.closeConnection env).tasks = c.tasks ∧
      (c.closeConnection env).uiCurSendingPacketSequenceNum = c.uiCurSendingPacketSequenceNum := by
  unfold closeConnection
  split <;> exact ⟨rfl, rfl, rfl⟩

theorem Numbered.takeNumber (h : Numbered c) : Numbered (c.takeNumber b dwLen).1 :=
  ⟨h.ordered, h.nodup, fun k hk => Nat.lt_succ_of_lt (h.lt k hk)⟩

theorem Numbered.unused (h : Numbered c) :
    Unused (c.takeNumber b dwLen).1 (c.takeNumber b dwLen).2.nSequenceNum :=
  ⟨fun hk => absurd (h.lt _ hk) (Nat.lt_irrefl _), Nat.lt_succ_self _⟩

theorem Numbered.addTask (h : Numbered c) (hu : Unused c t.pSendBuf.nSequenceNum) :
    Numbered { c with tasks := c.tasks ++ [t] } := by
  have hnums : c.listNums ++ (c.tasks ++ [t]).map (fun t => t.pSendBuf.nSequenceNum) =
      (c.listNums ++ c.taskNums) ++ [t.pSendBuf.nSequenceNum] := by
    rw [List.map_append, ← List.append_assoc]
    rfl
  refine ⟨h.ordered, ?_, ?_⟩
  · show (c.listNums ++ (c.tasks ++ [t]).map fun t => t.pSendBuf.nSequenceNum).Nodup
    rw [hnums, ← List.concat_eq_append]
    exact h.nodup.concat hu.notMem
  · show ∀ k ∈ c.listNums ++ (c.tasks ++ [t]).map (fun t => t.pSendBuf.nSequenceNum), _
    rw [hnums]
    intro k hk
    rcases List.mem_append.mp hk with hk | hk
    · exact h.lt k hk
    · exact List.mem_singleton.mp hk ▸ hu.lt

theorem taskNums_eraseIdx_perm (ht : c.tasks[i]? = some t) :
    (t.pSendBuf.nSequenceNum :: (c.tasks.eraseIdx i).map fun t => t.pSendBuf.nSequenceNum).Perm c.taskNums := by
  obtain ⟨hi, hget⟩ := List.getElem?_eq_some_iff.mp ht
  have := (List.getElem_cons_eraseIdx_perm hi).map fun t : PrepareTask => t.pSendBuf.nSequenceNum
  rwa [hget, List.map_cons] at this

theorem Numbered.takeTask (h : Numbered c) (ht : c.tasks[i]? = some t) :
    Numbered { c with tasks := c.tasks.eraseIdx i } ∧
      Unused { c with tasks := c.tasks.eraseIdx i } t.pSendBuf.nSequenceNum := by
  have hperm : (t.pSendBuf.nSequenceNum :: (c.listNums ++ (c.tasks.eraseIdx i).map fun t => t.pSendBuf.nSequenceNum)).Perm
      (c.listNums ++ c.taskNums) :=
    List.perm_middle.symm.trans ((taskNums_eraseIdx_perm ht).append_left _)
  have hnd := List.nodup_cons.mp (hperm.nodup_iff.mpr h.nodup)
  exact ⟨⟨h.ordered, hnd.2, fun k hk => h.lt k (hperm.mem_iff.mp (List.mem_cons_of_mem _ hk))⟩,
    hnd.1, h.lt _ (hperm.mem_iff.mp List.mem_cons_self)⟩

/-- `PrepareData` is not reached, or it returns `false`. -/
def PrepareFails (env : PrepareEnv) (pInputBuf : CXBufferObj) : Prop :=
  env.getFirstThreadCache (cacheBufLen pInputBuf.bodyLen) = false ∧ env.getBuffer (cacheBufLen pInputBuf.bodyLen) = false ∨
    env.getCXBufferObj (preparedBufLen pInputBuf.bodyLen) = false ∨
    env.prepareData ((pInputBuf.buf.drop headerLen).take pInputBuf.bodyLen) = none

/-- The condition under which a packet with a number is put away. -/
def PutAway (env : SendEnv) (c : SendState) (pBufObj : CXBufferObj) : Prop :=
  if c.mustPrepare = true then
    c.pDataParserHandle = true → (c.pTaskPool && c.bAsyncPrepareData) = false → PrepareFails env.toPrepareEnv pBufObj
  else c.Accepts pBufObj.len

end SendState

namespace SendOwn

open Ledger

/-- The condition under which a step accounts for its buffers. -/
def StepOk (s : SendOwn) : OwnAct → Prop
  | .conn (.send pBufObj dwLen _ env) => dwLen ≠ 0 → s.conn.lpServer = true →
    SendState.PutAway env (s.conn.takeNumber pBufObj dwLen).1 (s.conn.takeNumber pBufObj dwLen).2
  | .conn (.task i env) =>
    ∀ task, s.conn.tasks[i]? = some task → SendState.PrepareFails env.toPrepareEnv task.pSendBuf
  | _ => True

structure Books (s : SendOwn) (held lost : List Nat) : Prop where
  listIds : s.listIds.length = s.conn.listSendBuf.head.length
  taskIds : s.taskIds.length = s.conn.tasks.length
  numbered : s.conn.Numbered
  gots : ∀ id, (gots id s.trace).length = if id < s.next then 1 else 0
  balance : ∀ id, (Ledger.gots id s.trace).length =
    (releases id s.trace).length + s.owned.count id + held.count id + lost.count id
  clean : Clean s.trace

variable {s s' : SendOwn} {held held' lost : List Nat} {id : Nat} {env : SendEnv} {b : CXBufferObj}
  {rest : List CXBufferObj} {n : Nat} {r : Int}

theorem books_start (c : SendState) : Books (start c) [] [] where
  listIds := rfl
  taskIds := rfl
  numbered := ⟨SeqList.ordered_empty, List.nodup_nil, fun _ h => absurd h List.not_mem_nil⟩
  gots := fun _ => rfl
  balance := fun _ => rfl
  clean := List.Pairwise.nil

/-- With nothing in hand the buffers are accounted for if none is lost. -/
theorem Books.accounted_iff_lost (h : Books s [] lost) : Accounted s ↔ lost = [] := by
  constructor
  · intro ha
    refine List.eq_nil_iff_forall_not_mem.mpr fun id hid => ?_
    have hbal := h.balance id
    have hgot := h.gots id
    have hpos := List.count_pos_iff.mpr hid
    have hne : Ledger.gots id s.trace ≠ [] := fun h0 => by
      rw [h0] at hbal
      simp only [List.length_nil] at hbal
      omega
    have honce := ha.once id hne
    split at hgot <;> omega
  · rintro rfl
    refine ⟨fun id hne => ?_, h.clean⟩
    have hbal := h.balance id
    have hgot := h.gots id
    have hpos := List.length_pos_iff.mpr hne
    simp only [List.count_nil] at hbal
    split at hgot <;> omega

theorem Books.perm (h : Books s held lost) (hp : held.Perm held') : Books s held' lost :=
  { h with balance := fun id => by rw [h.balance id, hp.count_eq id] }

/-- The running call forgets a buffer. -/
theorem Books.lose (h : Books s (id :: held) lost) : Books s held (id :: lost) := by
  refine { h with balance := fun i => ?_ }
  have := h.balance i
  simp only [List.count_cons] at this ⊢
  omega

theorem Books.releases_eq_nil (h : Books s held lost) (hid : id ∈ s.owned ∨ id ∈ held) :
    releases id s.trace = [] := by
  have hbal := h.balance id
  have hgot := h.gots id
  have hpos : 0 < s.owned.count id + held.count id := by
    rcases hid with hid | hid
    · exact Nat.add_pos_left (List.count_pos_iff.mpr hid) _
    · exact Nat.add_pos_right _ (List.count_pos_iff.mpr hid)
  refine List.length_eq_zero_iff.mp ?_
  split at hgot <;> omega

theorem Books.get (h : Books s held lost) : Books s.get (s.next :: held) lost where
  listIds := h.listIds
  taskIds := h.taskIds
  numbered := h.numbered
  gots := fun id => by
    have := h.gots id
    show (Ledger.gots id (s.trace ++ [.got s.next ()])).length = if id < s.next + 1 then 1 else 0
    rw [length_gots_concat, length_gots_got, this]
    split_ifs <;> omega
  balance := fun id => by
    have := h.balance id
    show (Ledger.gots id (s.trace ++ [.got s.next ()])).length =
      (releases id (s.trace ++ [.got s.next ()])).length + s.owned.count id + (s.next :: held).count id + lost.count id
    rw [length_gots_concat, length_gots_got, length_releases_concat, List.count_cons, this]
    simp only [releases, List.length_nil, beq_iff_eq]
    omega
  clean := h.clean.concat fun _ ht => absurd ht id

theorem Books.use (h : Books s held lost) (hid : id ∈ s.owned ∨ id ∈ held) : Books (s.use id) held lost where
  listIds := h.listIds
  taskIds := h.taskIds
  numbered := h.numbered
  gots := fun i => by
    show (Ledger.gots i (s.trace ++ [.used id])).length = _
    rw [length_gots_concat]
    exact h.gots i
  balance := fun i => by
    show (Ledger.gots i (s.trace ++ [.used id])).length = (releases i (s.trace ++ [.used id])).length + _ + _ + _
    rw [length_gots_concat, length_releases_concat]
    exact h.balance i
  clean := h.clean.concat fun i ht => by
    obtain rfl : id = i := ht
    exact h.releases_eq_nil hid

theorem Books.free (h : Books s (id :: held) lost) : Books (s.free id) held lost where
  listIds := h.listIds
  taskIds := h.taskIds
  numbered := h.numbered
  gots := fun i => by
    show (Ledger.gots i (s.trace ++ [.released id ()])).length = _
    rw [length_gots_concat]
    exact h.gots i
  balance := fun i => by
    have := h.balance i
    show (Ledger.gots i (s.trace ++ [.released id ()])).length =
      (releases i (s.trace ++ [.released id ()])).length + s.owned.count i + _ + _
    rw [length_gots_concat, length_releases_concat, length_releases_released, this, List.count_cons]
    simp only [Ledger.gots, List.length_nil, beq_iff_eq]
    omega
  clean := h.clean.concat fun i ht => by
    obtain rfl : id = i := ht
    exact h.releases_eq_nil (.inr List.mem_cons_self)

/-- A step of the connection that leaves the list and the tasks as long as they are. -/
theorem Books.withConn {f : SendState → SendState} (h : Books s held lost) (hnum : (f s.conn).Numbered)
    (hlist : (f s.conn).listSendBuf.head.length = s.conn.listSendBuf.head.length)
    (htasks : (f s.conn).tasks.length = s.conn.tasks.length) : Books (s.withConn f) held lost :=
  { h with
    listIds := h.listIds.trans hlist.symm
    taskIds := h.taskIds.trans htasks.symm
    numbered := hnum }

theorem Books.closeConnection (h : Books s held lost) : Books (s.withConn (·.closeConnection env)) held lost := by
  obtain ⟨hlist, htasks, hnum⟩ := SendState.closeConnection_eq s.conn env
  exact h.withConn (h.numbered.of_eq hlist htasks hnum) (by rw [hlist]) (by rw [htasks])

/-! ### `SendDataList` -/

theorem Books.useHead (h : Books s held lost) : Books s.useHead held lost := by
  unfold SendOwn.useHead
  split
  · exact h
  · rename_i id ids hids
    exact h.use (.inl (by rw [owned, hids]; exact List.mem_append_left _ List.mem_cons_self))

theorem Books.popSent (h : Books s held lost) (hl : s.conn.listSendBuf.head = b :: rest) :
    Books (s.popSent b rest n) held lost := by
  have hlen := h.listIds
  rw [hl] at hlen
  obtain ⟨id, ids, hids⟩ := List.exists_cons_of_length_eq_add_one hlen
  have hpop : s.popSent b rest n = SendOwn.free id
      { s with conn := s.conn.popSent b rest n, listIds := ids } := by
    unfold SendOwn.popSent SendOwn.withConn
    simp only [hids]
  rw [hpop]
  refine Books.free ⟨?_, h.taskIds, h.numbered.popSent hl, h.gots, fun i => ?_, h.clean⟩
  · rw [hids, List.length_cons, List.length_cons] at hlen
    exact Nat.succ.inj hlen
  · have := h.balance i
    simp only [owned, hids, List.count_append, List.count_cons] at this ⊢
    omega

theorem Books.sendLoop : ∀ {l : List CXBufferObj} {answers : List SendResult} {nRet : Int} {bNeedClose : Bool}
    {s : SendOwn}, Books s held lost → s.conn.listSendBuf.head = l →
      sendLoop env l answers nRet bNeedClose s = some (s', r) → Books s' held lost
  | [], _, _, _, s, h, _, hs => by
    cases hs
    exact h
  | b :: rest, answers, nRet, bNeedClose, s, h, hl, hs => by
    have hl' : s.useHead.conn.listSendBuf.head = b :: rest := by rw [useHead_conn, hl]
    have hpop : ∀ n, Books (s.useHead.popSent b rest n) held lost := fun n => h.useHead.popSent hl'
    have hrest : ∀ n, (s.useHead.popSent b rest n).conn.listSendBuf.head = rest := fun n => by
      rw [popSent_conn]
      rfl
    have hclosed : ∀ n, ((s.useHead.popSent b rest n).withConn (·.closeConnection env)).conn.listSendBuf.head = rest :=
      fun n => (congrArg SeqList.head (SendState.closeConnection_eq _ env).1).trans (hrest n)
    unfold SendOwn.sendLoop at hs
    split at hs
    case isFalse =>
      cases hs
      exact h.useHead
    case isTrue =>
      split at hs
      case h_1 => cases hs
      case h_2 =>
        cases hs
        exact h.useHead.withConn (h.useHead.numbered.keepHead hl') (by rw [hl']; rfl) rfl
      case h_3 => exact Books.sendLoop (hpop _).closeConnection (hclosed _) hs
      case h_4 =>
        split at hs
        case isTrue => exact Books.sendLoop (hpop _).closeConnection (hclosed _) hs
        case isFalse => exact Books.sendLoop (hpop _) (hrest _) hs

theorem Books.sendDataList (h : Books s held lost) (hs : s.sendDataList env = some (s', r)) :
    Books s' held lost :=
  Books.sendLoop h rfl hs

/-! ### A packet on its way into the list -/

theorem Books.pushSendBuffer (h : Books s (id :: held) lost) (hu : s.conn.Unused b.nSequenceNum) :
    ∃ s', s.pushSendBuffer b id = some (s', true) ∧ s'.conn.nState = s.conn.nState ∧ Books s' held lost := by
  have hord : SeqList.Ordered (fun p : CXBufferObj × Nat => p.1.nSequenceNum) s.pairs :=
    (SeqList.ordered_map CXBufferObj.nSequenceNum Prod.fst).mp ((map_fst_pairs h.listIds).symm ▸ h.numbered.ordered)
  have hmem : ∀ p ∈ s.pairs.head, p.1 ∈ s.conn.listSendBuf.head := fun p hp => (List.of_mem_zip hp).1
  obtain ⟨l', hpush, hord', hperm⟩ := hord.push (x := (b, id)) fun p hp heq =>
    hu.notMem (List.mem_append_left _ (List.mem_map.mpr ⟨p.1, hmem p hp, heq⟩))
  have hbufs : (l'.head.map Prod.fst).Perm (b :: s.conn.listSendBuf.head) := by
    have := hperm.map Prod.fst
    rwa [List.map_cons, show s.pairs.head.map Prod.fst = s.conn.listSendBuf.head from
      congrArg SeqList.head (map_fst_pairs h.listIds)] at this
  have hids : (l'.head.map Prod.snd).Perm (id :: s.listIds) := by
    have := hperm.map Prod.snd
    rwa [List.map_cons, show s.pairs.head.map Prod.snd = s.listIds from List.map_snd_zip h.listIds.le] at this
  have hnums : ((l'.head.map Prod.fst).map CXBufferObj.nSequenceNum ++ s.conn.taskNums).Perm
      (b.nSequenceNum :: (s.conn.listNums ++ s.conn.taskNums)) :=
    (hbufs.map CXBufferObj.nSequenceNum).append_right s.conn.taskNums
  refine ⟨{ s with conn := { s.conn with listSendBuf := l'.map Prod.fst }, listIds := l'.head.map Prod.snd },
    by rw [SendOwn.pushSendBuffer, hpush]; rfl, rfl, ?_, h.taskIds, ⟨?_, ?_, ?_⟩, h.gots, fun i => ?_, h.clean⟩
  · show (l'.head.map Prod.snd).length = (l'.head.map Prod.fst).length
    rw [List.length_map, List.length_map]
  · exact (SeqList.ordered_map CXBufferObj.nSequenceNum Prod.fst).mpr hord'
  · exact hnums.nodup_iff.mpr (List.nodup_cons.mpr ⟨hu.notMem, h.numbered.nodup⟩)
  · intro k hk
    rcases List.mem_cons.mp (hnums.mem_iff.mp hk) with rfl | hk
    · exact hu.lt
    · exact h.numbered.lt k hk
  · have := h.balance i
    have hcount := hids.count_eq i
    simp only [owned, List.count_append, List.count_cons] at this hcount ⊢
    omega

/-- What a call leaves that has taken the last buffer in hand over: it has put it away if `ok`, or else it has lost
it or has used a freed one. -/
structure Outcome (ok : Prop) (lost : List Nat) (s : SendOwn) : Prop where
  good : ok → Books s [] lost
  bad : ¬ ok → (∃ id, Books s [] (id :: lost)) ∨ ¬ Clean s.trace

theorem Outcome.of_true {ok : Prop} (hok : ok) (h : Books s [] lost) : Outcome ok lost s :=
  ⟨fun _ => h, fun hn => absurd hok hn⟩

theorem Outcome.iff {ok ok' : Prop} (hiff : ok ↔ ok') (h : Outcome ok lost s) : Outcome ok' lost s :=
  ⟨fun h' => h.good (hiff.mpr h'), fun hn => h.bad fun h' => hn (hiff.mp h')⟩

theorem Books.postSend (h : Books s [id] lost) (hu : s.conn.Unused b.nSequenceNum)
    (hs : s.postSend env b id = some (s', r)) : Outcome (s.conn.Accepts b.len) lost s' := by
  unfold SendOwn.postSend at hs
  by_cases hparam : s.conn.pSocketKernel = false ∨ b.len = 0 ∨ 1024 * 1024 < b.len
  · rw [if_pos hparam] at hs
    cases hs
    refine ⟨fun hok => ?_, fun _ => .inl ⟨id, h.lose⟩⟩
    have hpos := hok.pos
    have hle := hok.le
    rcases hparam with hk | h0 | hlong
    · exact absurd hok.pSocketKernel (by simp [hk])
    · omega
    · omega
  rw [if_neg hparam] at hs
  by_cases hclosing : s.conn.nState = .closing ∨ s.conn.nState = .closed
  · rw [if_pos hclosing] at hs
    cases hs
    exact ⟨fun hok => absurd hclosing (not_or.mpr ⟨hok.ne_closing, hok.ne_closed⟩), fun _ => .inl ⟨id, h.lose⟩⟩
  rw [if_neg hclosing] at hs
  have hok : s.conn.Accepts b.len := by
    simp only [not_or, Bool.not_eq_false] at hparam hclosing
    exact ⟨hparam.1, Nat.pos_of_ne_zero hparam.2.1, Nat.le_of_not_lt hparam.2.2, hclosing.1, hclosing.2⟩
  obtain ⟨s₁, hpush, -, h₁⟩ := h.pushSendBuffer hu
  rw [hpush] at hs
  dsimp only at hs
  split_ifs at hs
  · cases hs
    exact .of_true hok h₁
  · exact .of_true hok (h₁.sendDataList hs)

theorem Books.sendAssembledPacket {ok : Bool} {m : Nat} (h : Books s [id] lost)
    (hu : s.conn.Unused b.nSequenceNum)
    (hs : s.sendAssembledPacket env b id m = some (s', ok)) : Outcome (s.conn.Accepts b.len) lost s' := by
  obtain ⟨⟨s₁, r⟩, hpost, heq⟩ := Option.map_eq_some_iff.mp hs
  cases heq
  exact Books.postSend (s := s.use id) (b := s.conn.assembled b m) (h.use (.inr (List.mem_singleton_self id))) hu hpost

/-! ### `PreparedAndSendPacket` -/

variable {pCacheBuf : Option Nat} {bufId : Nat} {ok : Bool}

theorem Books.useCacheBuf (h : Books s held lost) (hmem : ∀ id ∈ pCacheBuf, id ∈ held) :
    Books (s.useCacheBuf pCacheBuf) held lost := by
  cases pCacheBuf with
  | none => exact h
  | some id => exact h.use (.inr (hmem id rfl))

theorem Books.freeCacheBuf (h : Books s (pCacheBuf.toList ++ held) lost) :
    Books (s.freeCacheBuf pCacheBuf) held lost := by
  cases pCacheBuf with
  | none => exact h
  | some id => exact h.free

theorem Books.getCacheBuf {len : Nat} (h : Books s held lost)
    (hs : s.getCacheBuf env.toPrepareEnv len = some (s', pCacheBuf)) : Books s' (pCacheBuf.toList ++ held) lost := by
  unfold SendOwn.getCacheBuf at hs
  split_ifs at hs
  · cases hs
    exact h
  · cases hs
    exact h.get

theorem getCacheBuf_eq_none {len : Nat} :
    s.getCacheBuf env.toPrepareEnv len = none ↔ env.getFirstThreadCache len = false ∧ env.getBuffer len = false := by
  unfold getCacheBuf
  cases env.getFirstThreadCache len <;> cases env.getBuffer len <;> simp

/-- The number is read from the freed input whenever the packet has been prepared. -/
theorem Books.sendPrepared (h : Books s (bufId :: id :: pCacheBuf.toList) lost)
    (hs : s.sendPrepared env b id bufId pCacheBuf = some (s', ok)) :
    Outcome (env.prepareData ((b.buf.drop headerLen).take b.bodyLen) = none) lost s' := by
  have h₁ : Books (((s.use id).useCacheBuf pCacheBuf).use bufId) (bufId :: id :: pCacheBuf.toList) lost := by
    refine ((h.use (.inr (by simp))).useCacheBuf fun i hi => ?_).use (.inr List.mem_cons_self)
    exact List.mem_cons_of_mem _ (List.mem_cons_of_mem _ (Option.mem_toList.mpr hi))
  unfold SendOwn.sendPrepared at hs
  dsimp only at hs
  generalize ((s.use id).useCacheBuf pCacheBuf).use bufId = s₁ at h₁ hs
  have h₂ : Books ((s₁.free id).freeCacheBuf pCacheBuf) [bufId] lost := by
    refine Books.freeCacheBuf (Books.free (h₁.perm ?_))
    exact (List.Perm.swap ..).trans ((List.perm_append_singleton bufId _).symm.cons id)
  cases hprep : env.prepareData ((b.buf.drop headerLen).take b.bodyLen) with
  | none =>
    rw [hprep] at hs
    cases hs
    exact .of_true rfl h₂.free
  | some prepared =>
    rw [hprep] at hs
    refine ⟨nofun, fun _ => .inr fun hclean => ?_⟩
    have hfreed : releases id ((s₁.free id).freeCacheBuf pCacheBuf).trace ≠ [] := by
      have hmem : .released id () ∈ ((s₁.free id).freeCacheBuf pCacheBuf).trace := by
        cases pCacheBuf <;> simp [SendOwn.freeCacheBuf, SendOwn.free]
      exact List.ne_nil_of_mem (mem_releases.mpr hmem)
    obtain ⟨es, hes⟩ := prefix_sendAssembledPacket hs
    rw [← hes] at hclean
    exact not_clean_used hfreed [] hclean.of_append

theorem Books.preparedAndSendPacket (h : Books s [id] lost)
    (hs : s.preparedAndSendPacket env b id = some (s', ok)) :
    Outcome (SendState.PrepareFails env.toPrepareEnv b) lost s' := by
  have h₁ : Books (s.use id) [id] lost := h.use (.inr (List.mem_singleton_self id))
  unfold SendOwn.preparedAndSendPacket at hs
  cases hcache : (s.use id).getCacheBuf env.toPrepareEnv (SendState.cacheBufLen b.bodyLen) with
  | none =>
    rw [hcache] at hs
    cases hs
    exact .of_true (.inl (getCacheBuf_eq_none.mp hcache)) h₁.free
  | some q =>
    obtain ⟨s₂, pCacheBuf⟩ := q
    have hsome : ¬ (env.getFirstThreadCache _ = false ∧ env.getBuffer _ = false) := fun hn => by
      rw [getCacheBuf_eq_none.mpr hn] at hcache
      cases hcache
    have h₂ : Books s₂ (id :: pCacheBuf.toList) lost :=
      (h₁.getCacheBuf hcache).perm (List.perm_append_singleton id _)
    rw [hcache] at hs
    dsimp only at hs
    cases hbuf : env.getCXBufferObj (SendState.preparedBufLen b.bodyLen) with
    | false =>
      rw [hbuf] at hs
      cases hs
      refine .of_true (.inr (.inl hbuf)) (Books.freeCacheBuf ?_)
      rw [List.append_nil]
      exact h₂.free
    | true =>
      rw [hbuf] at hs
      refine Outcome.iff ?_ (Books.sendPrepared h₂.get hs)
      unfold SendState.PrepareFails
      rw [or_iff_right hsome, or_iff_right (by simp [hbuf])]

/-! ### The steps -/

theorem Books.addTask {t : PrepareTask} (h : Books s [id] lost) (hu : s.conn.Unused t.pSendBuf.nSequenceNum) :
    Books { s with conn := { s.conn with tasks := s.conn.tasks ++ [t] }, taskIds := s.taskIds ++ [id] } [] lost where
  listIds := h.listIds
  taskIds := by
    show (s.taskIds ++ [id]).length = (s.conn.tasks ++ [t]).length
    rw [List.length_append, List.length_append, h.taskIds]
    rfl
  numbered := h.numbered.addTask hu
  gots := h.gots
  balance := fun i => by
    have := h.balance i
    simp only [owned, List.count_append, List.count_nil] at this ⊢
    omega
  clean := h.clean

theorem Books.takeTask {t : PrepareTask} {i : Nat} (h : Books s [] lost) (ht : s.conn.tasks[i]? = some t)
    (hid : s.taskIds[i]? = some id) :
    Books { s with conn := { s.conn with tasks := s.conn.tasks.eraseIdx i }, taskIds := s.taskIds.eraseIdx i } [id]
      lost where
  listIds := h.listIds
  taskIds := by
    show (s.taskIds.eraseIdx i).length = (s.conn.tasks.eraseIdx i).length
    rw [List.length_eraseIdx, List.length_eraseIdx, h.taskIds]
  numbered := (h.numbered.takeTask ht).1
  gots := h.gots
  balance := fun j => by
    have := h.balance j
    obtain ⟨hi, hget⟩ := List.getElem?_eq_some_iff.mp hid
    have hcount := (List.getElem_cons_eraseIdx_perm hi).count_eq j
    rw [hget] at hcount
    simp only [owned, List.count_append, List.count_cons] at this hcount ⊢
    omega
  clean := h.clean

theorem Books.sendNumbered {bMes : Bool} (h : Books s [id] lost) (hu : s.conn.Unused b.nSequenceNum)
    (hs : s.sendNumbered env b id bMes = some (s', ok)) :
    Outcome (SendState.PutAway env s.conn b) lost s' := by
  unfold SendOwn.sendNumbered at hs
  unfold SendState.PutAway
  by_cases hprep : s.conn.mustPrepare = true
  swap
  · rw [if_neg hprep] at hs ⊢
    exact h.sendAssembledPacket hu hs
  rw [if_pos hprep] at hs ⊢
  by_cases hparser : s.conn.pDataParserHandle = false
  · rw [if_pos hparser] at hs
    cases hs
    exact .of_true (fun hp => by simp [hparser] at hp) h.free
  rw [if_neg hparser] at hs
  have hparser' : s.conn.pDataParserHandle = true := by simpa using hparser
  by_cases hpool : (s.conn.pTaskPool && s.conn.bAsyncPrepareData) = true
  · have hok : s.conn.pDataParserHandle = true → (s.conn.pTaskPool && s.conn.bAsyncPrepareData) = false →
        SendState.PrepareFails env.toPrepareEnv b := fun _ hn => by simp [hpool] at hn
    rw [if_pos hpool] at hs
    split_ifs at hs
    · cases hs
      exact .of_true hok (h.addTask (t := ⟨b, bMes⟩) hu)
    · cases hs
      exact .of_true hok h.free
  · rw [if_neg hpool] at hs
    refine Outcome.iff ?_ (h.preparedAndSendPacket hs)
    exact ⟨fun hf _ _ => hf, fun hf => hf hparser' (by simpa using hpool)⟩

theorem Books.sendPacket {dwLen : Nat} {bMes : Bool} (h : Books s [] lost)
    (hs : s.sendPacket env b dwLen bMes = some (s', ok)) :
    Outcome (dwLen ≠ 0 → s.conn.lpServer = true →
      SendState.PutAway env (s.conn.takeNumber b dwLen).1 (s.conn.takeNumber b dwLen).2) lost s' := by
  unfold SendOwn.sendPacket at hs
  by_cases hin : dwLen = 0 ∨ s.conn.lpServer = false
  · rw [if_pos hin] at hs
    cases hs
    refine .of_true (fun h0 hp => ?_) h.get.free
    rcases hin with hin | hin
    · exact absurd hin h0
    · simp [hin] at hp
  · rw [if_neg hin] at hs
    simp only [not_or, Bool.not_eq_false] at hin
    have hnum : Books ((s.get.use s.next).withConn fun c => (c.takeNumber b dwLen).1) [s.next] lost :=
      (h.get.use (.inr List.mem_cons_self)).withConn h.numbered.takeNumber rfl rfl
    refine Outcome.iff ?_ (hnum.sendNumbered h.numbered.unused hs)
    exact ⟨fun hp _ _ => hp, fun hp => hp hin.1 hin.2⟩

theorem Outcome.withConn {P : Prop} {f : SendState → SendState} (h : Outcome P lost s)
    (hlist : (f s.conn).listSendBuf = s.conn.listSendBuf) (htasks : (f s.conn).tasks = s.conn.tasks)
    (hnum : (f s.conn).uiCurSendingPacketSequenceNum = s.conn.uiCurSendingPacketSequenceNum) :
    Outcome P lost (s.withConn f) := by
  have hkeep : ∀ {lost}, Books s [] lost → Books (s.withConn f) [] lost := fun hb =>
    hb.withConn (hb.numbered.of_eq hlist htasks hnum) (by rw [hlist]) (by rw [htasks])
  exact ⟨fun hp => hkeep (h.good hp), fun hn => (h.bad hn).imp_left fun ⟨id, hb⟩ => ⟨id, hkeep hb⟩⟩

theorem Books.processTask {i : Nat} (h : Books s [] lost) (hs : s.processTask env i = some s') :
    Outcome (∀ task, s.conn.tasks[i]? = some task → SendState.PrepareFails env.toPrepareEnv task.pSendBuf) lost
      s' := by
  unfold SendOwn.processTask at hs
  cases ht : s.conn.tasks[i]? with
  | none => simp [ht] at hs
  | some task =>
    cases hid : s.taskIds[i]? with
    | none => simp [ht, hid] at hs
    | some id =>
      simp only [ht, hid] at hs
      obtain ⟨⟨s₁, ok⟩, hprep, heq⟩ := Option.map_eq_some_iff.mp hs
      have hout := ((h.takeTask ht hid).use (.inr (List.mem_singleton_self id))).preparedAndSendPacket hprep
      have hout' : Outcome (∀ task', some task = some task' →
          SendState.PrepareFails env.toPrepareEnv task'.pSendBuf) lost s₁ :=
        hout.iff ⟨fun hf _ heq => Option.some.inj heq ▸ hf, fun hf => hf task rfl⟩
      subst heq
      dsimp only
      by_cases hmes : task.bMes = true
      · rw [if_pos hmes]
        exact hout'.withConn rfl rfl rfl
      · rw [if_neg hmes]
        exact hout'

theorem processAsyncMessageEnd_eq {c c' : SendState} {i : Nat} (hs : c.processAsyncMessageEnd env i = some c') :
    c'.listSendBuf = c.listSendBuf ∧ c'.tasks = c.tasks ∧
      c'.uiCurSendingPacketSequenceNum = c.uiCurSendingPacketSequenceNum := by
  unfold SendState.processAsyncMessageEnd at hs
  split at hs
  · cases hs
  · dsimp only at hs
    split_ifs at hs
    · cases hs
      exact SendState.closeConnection_eq ..
    · cases hs
      exact ⟨rfl, rfl, rfl⟩

theorem Books.step {a : OwnAct} (h : Books s [] lost) (hs : s.step a = some s') :
    Outcome (s.StepOk a) lost s' := by
  have hkeep : Outcome True lost s := .of_true trivial h
  cases a with
  | setState nState =>
    cases hs
    exact hkeep.withConn rfl rfl rfl
  | conn act =>
    cases act with
    | send pBufObj dwLen bMes env =>
      obtain ⟨⟨s₁, ok⟩, hsend, heq⟩ := Option.map_eq_some_iff.mp hs
      subst heq
      exact h.sendPacket hsend
    | task i env => exact h.processTask hs
    | writable bSet env =>
      have hs : (if bSet then (s.sendDataList env).map Prod.fst else some s) = some s' := hs
      split_ifs at hs
      · obtain ⟨⟨s₁, r⟩, hdata, heq⟩ := Option.map_eq_some_iff.mp hs
        subst heq
        exact .of_true trivial (h.sendDataList hdata)
      · cases hs
        exact hkeep
    | asyncEnd i env =>
      obtain ⟨c, hc, heq⟩ := Option.map_eq_some_iff.mp hs
      subst heq
      obtain ⟨hlist, htasks, hnum⟩ := processAsyncMessageEnd_eq hc
      exact hkeep.withConn hlist htasks hnum
    | close env =>
      cases hs
      obtain ⟨hlist, htasks, hnum⟩ := SendState.closeConnection_eq s.conn env
      exact hkeep.withConn hlist htasks hnum
    | configure encryptType compressType bAsyncPrepareData =>
      cases hs
      exact hkeep.withConn rfl rfl rfl

/-! ### Runs -/

theorem Books.accounted_run {acts : List OwnAct} (h : Books s [] lost)
    (hs : runSteps SendOwn.step s acts = some s') :
    Accounted s' ↔ lost = [] ∧ EachStep SendOwn.step StepOk s acts := by
  induction acts generalizing s lost with
  | nil =>
    cases hs
    rw [h.accounted_iff_lost]
    exact (and_iff_left trivial).symm
  | cons a acts ih =>
    obtain ⟨s₁, hstep, hrun⟩ := Option.bind_eq_some_iff.mp hs
    have hout := h.step hstep
    rw [eachStep_cons hstep]
    by_cases hok : s.StepOk a
    · rw [ih (hout.good hok) hrun, and_iff_right hok]
    · refine iff_of_false (fun hacc => ?_) fun hall => hok hall.2.1
      rcases hout.bad hok with ⟨id, hlost⟩ | hdirty
      · -- a lost buffer stays lost
        exact absurd ((ih hlost hrun).mp hacc).1 (List.cons_ne_nil id lost)
      · obtain ⟨es, hes⟩ := prefix_runSteps hrun
        have hclean := hacc.clean
        rw [← hes] at hclean
        exact hdirty hclean.of_append

/-- In a run from any connection with nothing to send, the buffers are accounted for exactly if each step meets its
condition. -/
theorem accounted_iff {c : SendState} {acts : List OwnAct} (hs : runSteps step (start c) acts = some s) :
    Accounted s ↔ EachStep step StepOk (start c) acts :=
  ((books_start c).accounted_run hs).trans (and_iff_right rfl)

/-- One packet with one byte of data on an established connection; everything is answered, `PrepareData` keeps
what it is given, and the socket takes the whole packet. -/
def sendByte : List OwnAct :=
  [.conn (.send ⟨0, List.replicate 57 0, 0, 0⟩ 1 true
    { getFirstThreadCache := fun _ => true
      getBuffer := fun _ => true
      getCXBufferObj := fun _ => true
      prepareData := some
      freedNumber := fun n => n
      getFreeTaskObject := true
      send := [.written 57]
      setWaitWritingEvent := true
      released := fun _ => false })]

/-- A plain packet. -/
theorem accounted_sendByte : ∃ s, runSteps step (start (SendState.fresh true false)) sendByte = some s ∧ Accounted s := by
  obtain ⟨s, hs⟩ := Option.isSome_iff_exists.mp
    (show (runSteps step (start (SendState.fresh true false)) sendByte).isSome by decide)
  exact ⟨s, hs, (accounted_iff hs).mpr ⟨fun _ _ => ⟨rfl, by decide, by decide, by decide, by decide⟩,
    fun _ _ => trivial⟩⟩

/-- An encrypted packet: its input is used after it has been freed. -/
theorem not_accounted_encrypted :
    ¬ ∀ (c : SendState) (acts : List OwnAct) (s : SendOwn), runSteps step (start c) acts = some s → Accounted s := by
  intro h
  obtain ⟨s, hs⟩ := Option.isSome_iff_exists.mp
    (show (runSteps step (start { SendState.fresh true false with encryptType := 3 }) sendByte).isSome by decide)
  have hok := (((books_start _).accounted_run hs).mp (h _ _ s hs)).2.1 (by decide) rfl rfl rfl
  simp [SendState.PrepareFails] at hok

end SendOwn

end KonsanNet
