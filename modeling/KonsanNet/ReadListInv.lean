import KonsanNet.Linked
import KonsanNet.ReadList
import KonsanNet.RecvBytes

/-!
# The read list in memory is the read list (`ReadList`)

`ReadHeap.Rep h ps l`: in memory `h` the read list is the list `l`, kept in the buffers `ps`. On such a memory
`PushReceivedBuffer`, the loop of `RecvPacket` and the whole call do what `RecvState` says they do.
-/

namespace KonsanNet

open CXBufferObj (nSequenceNum)

namespace ReadHeap

structure Rep (h : ReadHeap) (ps : List Nat) (l : List CXBufferObj) : Prop where
  linked : Linked h.pNext h.pListReadBuf ps
  nodes : ps.map h.node = l.map some
  last : h.pListReadBufEnd = ps.getLast?
  lt : ∀ p ∈ ps, p < h.created

variable {h h' : ReadHeap} {ps qs : List Nat} {l : List CXBufferObj} {p q : Nat} {b c : CXBufferObj}

theorem rep_empty : Rep .empty [] [] := ⟨rfl, rfl, rfl, nofun⟩

theorem Rep.length_le (hr : Rep h ps l) : ps.length ≤ h.created := by
  have hsub := hr.linked.nodup.subperm fun p hp => List.mem_range.mpr (hr.lt p hp)
  simpa using hsub.length_le

theorem Rep.length_eq (hr : Rep h ps l) : ps.length = l.length := by
  simpa using congrArg List.length hr.nodes

/-! ### `PushReceivedBuffer` -/

theorem seqOf_eq (hb : h.node p = some b) : h.seqOf p = some b.nSequenceNum := by
  unfold seqOf
  rw [hb, Option.map_some]

theorem test_eq (hb : h.node p = some b) (ok : Nat → Bool) : h.test ok (some p) = some (ok b.nSequenceNum) := by
  show Option.map ok (h.seqOf p) = _
  rw [seqOf_eq hb, Option.map_some]

/-- Clearing the link of a buffer outside the list changes nothing. -/
theorem Rep.clear (hr : Rep h ps l) (hp : p ∉ ps) : Rep (h.setNext p none) ps l :=
  ⟨hr.linked.update_of_notMem hp none, hr.nodes, hr.last, hr.lt⟩

theorem Rep.linkLast {as : List CXBufferObj} (hr : Rep h (qs ++ [q]) (as ++ [c])) (hp : p ∉ qs ++ [q])
    (hb : h.node p = some b) (hlt : p < h.created) (hn : h.pNext p = none) :
    Rep { h.setNext q (some p) with pListReadBufEnd := some p } (qs ++ [q, p]) (as ++ [c, b]) := by
  refine ⟨hr.linked.relink hp hn, ?_, by simp, fun p' hp' => ?_⟩
  · show (qs ++ [q, p]).map h.node = (as ++ [c, b]).map some
    have hnodes := hr.nodes
    simp only [List.map_append, List.map_cons, List.map_nil] at hnodes ⊢
    rw [List.append_cons, hnodes, hb, ← List.append_cons]
  · have : p' ∈ qs ++ [q] ∨ p' = p := by simpa [or_assoc] using hp'
    rcases this with hm | rfl
    · exact hr.lt p' hm
    · exact hlt

theorem Rep.linkFirst (hr : Rep h ps l) (hps : ps ≠ []) (hp : p ∉ ps) (hb : h.node p = some b)
    (hlt : p < h.created) :
    Rep { h.setNext p h.pListReadBuf with pListReadBuf := some p } (p :: ps) (b :: l) := by
  refine ⟨⟨rfl, ?_⟩, ?_, ?_, fun p' hp' => ?_⟩
  · have hl := hr.linked.update_of_notMem hp h.pListReadBuf
    simpa [setNext] using hl
  · rw [List.map_cons, List.map_cons, ← hr.nodes]
    exact congrArg (· :: _) hb
  · obtain ⟨z, hz⟩ := Option.ne_none_iff_exists'.mp fun hn => hps (List.getLast?_eq_none_iff.mp hn)
    show h.pListReadBufEnd = _
    rw [hr.last, List.getLast?_cons, hz, Option.getD_some]
  · rcases List.mem_cons.mp hp' with rfl | hm
    · exact hlt
    · exact hr.lt p' hm

/-- Where some buffer behind has a larger number, the loop links the new one in as `SeqList.insertMiddle` does. -/
theorem insertMiddle_spec (hb : h.node p = some b) : ∀ (fuel : Nat) (pre : List Nat) (q : Nat) (qs : List Nat)
    (l : List CXBufferObj), Linked h.pNext h.pListReadBuf (pre ++ q :: qs) → p ∉ pre ++ q :: qs →
    qs.map h.node = l.map some → qs.length < fuel → (∃ a ∈ l, b.nSequenceNum < a.nSequenceNum) →
    ∃ pNext qs', h.insertMiddle p b.nSequenceNum fuel qs.head? q = some { h with pNext := pNext } ∧
      Linked pNext h.pListReadBuf (pre ++ q :: qs') ∧ qs'.Perm (p :: qs) ∧
      qs'.map h.node = (SeqList.insertMiddle nSequenceNum b l).map some ∧ qs'.getLast? = qs.getLast?
  | 0, _, _, _, _, _, _, _, hf, _ => absurd hf (Nat.not_lt_zero _)
  | fuel + 1, pre, q, [], l, _, _, hn, _, hgt => by
    obtain rfl : l = [] := by simpa using hn.symm
    obtain ⟨a, ha, -⟩ := hgt
    cases ha
  | fuel + 1, pre, q, r :: qs, l, hl, hp, hn, hf, hgt => by
    cases l with
    | nil => simp at hn
    | cons a l =>
      obtain ⟨ha, hn⟩ := List.cons.inj hn
      simp only [List.head?_cons, insertMiddle, seqOf_eq ha, SeqList.insertMiddle]
      by_cases hab : a.nSequenceNum > b.nSequenceNum
      · rw [if_pos hab, if_pos hab]
        refine ⟨_, p :: r :: qs, rfl, hl.insert hp, List.Perm.refl _, ?_, List.getLast?_cons_cons⟩
        rw [List.map_cons, List.map_cons, hb, ha, hn]
        rfl
      · rw [if_neg hab, if_neg hab]
        have happ : pre ++ q :: r :: qs = (pre ++ [q]) ++ r :: qs := by simp
        rw [happ] at hl hp
        obtain ⟨a', ha', hgt⟩ := hgt
        have hrest : ∃ a ∈ l, b.nSequenceNum < a.nSequenceNum := by
          rcases List.mem_cons.mp ha' with rfl | hm
          · exact absurd hgt hab
          · exact ⟨a', hm, hgt⟩
        obtain ⟨pNext, qs', hins, hl', hperm, hn', hlast⟩ :=
          insertMiddle_spec hb fuel (pre ++ [q]) r qs l hl hp hn (Nat.lt_of_succ_lt_succ hf) hrest
        have hnext : h.pNext r = qs.head? := by
          obtain ⟨p₀, hq₀⟩ := Linked.of_append hl
          exact hq₀.2.head?_eq.symm
        rw [hnext]
        refine ⟨pNext, r :: qs', hins, by simpa using hl', (hperm.cons r).trans (List.Perm.swap p r qs), ?_, ?_⟩
        · rw [List.map_cons, List.map_cons, ha, hn']
        · rw [List.getLast?_cons, List.getLast?_cons, hlast]

theorem Rep.head_node (hr : Rep h (q :: qs) (c :: l)) : h.pListReadBuf = some q ∧ h.node q = some c :=
  ⟨hr.linked.1, (List.cons.inj hr.nodes).1⟩

theorem Rep.last_node (hr : Rep h ps l) (hl : l.getLast? = some c) :
    ∃ z, h.pListReadBufEnd = some z ∧ ps.getLast? = some z ∧ h.node z = some c := by
  have hmap : ps.getLast?.map h.node = l.getLast?.map some := by
    rw [← List.getLast?_map, ← List.getLast?_map, hr.nodes]
  rw [hl, Option.map_some] at hmap
  obtain ⟨z, hz, hnode⟩ := Option.map_eq_some_iff.mp hmap
  exact ⟨z, hr.last.trans hz, hz, hnode⟩

/-- The branches for a list that is not empty are those of `SeqList.push`. -/
theorem Rep.linkIn {a : CXBufferObj} (hr : Rep h (q :: qs) (a :: l)) (hl : (a :: l).getLast? = some c)
    (ho : (a :: l).Pairwise fun a b => a.nSequenceNum < b.nSequenceNum) (hb : h.node p = some b)
    (hp : p ∉ q :: qs) (hlt : p < h.created) (hn : h.pNext p = none)
    (hne : ∀ x ∈ a :: l, x.nSequenceNum ≠ b.nSequenceNum) :
    ∃ h' ps' l' e', h.linkIn p b.nSequenceNum = some (h', true) ∧
      SeqList.push nSequenceNum ⟨a :: l, some c.nSequenceNum⟩ b = some (⟨l', e'⟩, true) ∧
      Rep h' ps' l' ∧ ps'.Perm (p :: q :: qs) ∧ h'.node = h.node ∧ h'.created = h.created := by
  obtain ⟨hhead, ha⟩ := hr.head_node
  obtain ⟨z, hend, hz, hc⟩ := hr.last_node hl
  unfold ReadHeap.linkIn SeqList.push
  rw [hend, hhead, test_eq hc, test_eq ha]
  simp only [Option.bind_eq_bind, Option.bind_some, List.isEmpty_cons, Bool.false_and, Bool.false_eq_true,
    if_false, Option.any_some, decide_eq_true_eq, List.head?_cons, Option.getD_some, Option.isSome_some,
    Bool.not_false]
  by_cases h₁ : c.nSequenceNum < b.nSequenceNum
  · rw [if_pos h₁, if_pos h₁]
    obtain ⟨as, has⟩ := List.getLast?_eq_some_iff.mp hl
    obtain ⟨zs, hzs⟩ := List.getLast?_eq_some_iff.mp hz
    rw [has] at hr ho ⊢
    rw [hzs] at hr hp ⊢
    rw [SeqList.linkAfter_last ho]
    have hperm : (zs ++ [z, p]).Perm (p :: (zs ++ [z])) := by
      have := List.perm_append_singleton p (zs ++ [z])
      simpa using this
    exact ⟨_, _, _, _, rfl, rfl, hr.linkLast hp hb hlt hn, hperm, rfl, rfl⟩
  rw [if_neg h₁, if_neg h₁]
  by_cases h₂ : a.nSequenceNum > b.nSequenceNum
  · rw [if_pos h₂, if_pos h₂]
    have hfirst := hr.linkFirst (List.cons_ne_nil q qs) hp hb hlt
    rw [hhead] at hfirst
    exact ⟨_, _, _, _, rfl, rfl, hfirst, List.Perm.refl _, rfl, rfl⟩
  rw [if_neg h₂, if_neg h₂]
  have hab : a.nSequenceNum < b.nSequenceNum := lt_of_le_of_ne (not_lt.mp h₂) (hne a List.mem_cons_self)
  have hgt : ∃ x ∈ l, b.nSequenceNum < x.nSequenceNum := by
    rcases List.mem_cons.mp (List.mem_of_getLast? hl) with rfl | hm
    · exact absurd hab h₁
    · exact ⟨c, hm, lt_of_le_of_ne (not_lt.mp h₁) (Ne.symm (hne c (List.mem_cons_of_mem _ hm)))⟩
  have hlen : qs.length < h.created + 1 := by
    have := hr.length_le
    rw [List.length_cons] at this
    omega
  obtain ⟨pNext, qs', hins, hlink, hperm, hnodes, hlast⟩ :=
    insertMiddle_spec hb (h.created + 1) [] q qs l hr.linked hp (List.cons.inj hr.nodes).2 hlen hgt
  have hnext : h.pNext q = qs.head? := hr.linked.2.head?_eq.symm
  rw [ha, hnext, hins]
  refine ⟨_, q :: qs', a :: SeqList.insertMiddle nSequenceNum b l, _, rfl, rfl, ⟨hlink, ?_, ?_, ?_⟩,
    (hperm.cons q).trans (List.Perm.swap p q qs), rfl, rfl⟩
  · rw [List.map_cons, List.map_cons, hnodes, ← ha]
  · rw [List.getLast?_cons, hlast, ← List.getLast?_cons]
    exact hr.last
  · intro p' hp'
    rcases List.mem_cons.mp hp' with rfl | hm
    · exact hr.lt _ List.mem_cons_self
    rcases List.mem_cons.mp (hperm.mem_iff.mp hm) with rfl | hm
    · exact hlt
    · exact hr.lt _ (List.mem_cons_of_mem _ hm)

/-- `PushReceivedBuffer` puts a buffer with a new number where `SeqList.push` puts it. -/
theorem Rep.pushReceivedBuffer {L : SeqList CXBufferObj} (hr : Rep h ps L.head) (ho : L.Ordered nSequenceNum)
    (hb : h.node p = some b) (hp : p ∉ ps) (hlt : p < h.created)
    (hne : ∀ a ∈ L.head, a.nSequenceNum ≠ b.nSequenceNum) :
    ∃ h' ps' L', h.pushReceivedBuffer p = some (h', true) ∧ SeqList.push nSequenceNum L b = some (L', true) ∧
      Rep h' ps' L'.head ∧ L'.Ordered nSequenceNum ∧ L'.head.Perm (b :: L.head) ∧ ps'.Perm (p :: ps) ∧
      h'.node = h.node ∧ h'.created = h.created := by
  obtain ⟨L', hpush, ho', hperm⟩ := ho.push hne
  obtain ⟨l, e⟩ := L
  have he : e = l.getLast?.map nSequenceNum := ho.endSeq
  subst he
  have hc := hr.clear hp
  unfold ReadHeap.pushReceivedBuffer
  rw [seqOf_eq hb]
  simp only [Option.bind_eq_bind, Option.bind_some]
  cases l with
  | nil =>
    obtain rfl : ps = [] := by simpa using hr.nodes
    have hhead : (h.setNext p none).pListReadBuf = none := hc.linked
    have hend : (h.setNext p none).pListReadBufEnd = none := hc.last
    rw [if_pos ⟨hhead, hend⟩]
    cases hpush
    refine ⟨_, [p], _, rfl, rfl, ⟨⟨rfl, Function.update_self ..⟩, ?_, rfl, ?_⟩, ho', hperm, List.Perm.refl _, rfl,
      rfl⟩
    · simp [setNext, hb]
    · intro p' hp'
      rwa [List.mem_singleton.mp hp']
  | cons a l =>
    cases ps with
    | nil =>
      have := hr.length_eq
      cases this
    | cons q qs =>
      have hhead : (h.setNext p none).pListReadBuf ≠ none := by
        rw [hc.head_node.1]
        nofun
      rw [if_neg fun hn => hhead hn.1]
      obtain ⟨c, hl⟩ : ∃ c, (a :: l).getLast? = some c := ⟨_, List.getLast?_eq_some_getLast (List.cons_ne_nil a l)⟩
      obtain ⟨h', ps', l', e', hlink, hpush', hr', hperm', hnode, hcr⟩ :=
        hc.linkIn hl ho.sorted hb hp hlt (Function.update_self ..) hne
      have hL : L' = ⟨l', e'⟩ := by
        simp only [hl, Option.map_some] at hpush
        rw [hpush'] at hpush
        exact (Prod.mk.inj (Option.some.inj hpush)).1.symm
      subst hL
      exact ⟨h', ps', _, hlink, hpush, hr', ho', hperm, hperm', hnode, hcr⟩

/-! ### The loop of `RecvPacket` -/

/-- What a complete packet leaves of the buffers `b :: bs` if it ends at `iBegin` of `b`. -/
def left (b : CXBufferObj) (bs : List CXBufferObj) (iBegin : Nat) : List CXBufferObj :=
  let len := b.len - (iBegin - b.nCurDataPointer)
  if len = 0 then bs else { b with len := len, nCurDataPointer := iBegin } :: bs

/-- The two loops end alike: over the list, and over the memory it is kept in. The buffers before the end of a
packet follow number `i`. -/
inductive Meets (qs : List Nat) (l : List CXBufferObj) (i passed : Nat) : RecvState.ScanEnd → ScanEnd → Prop
  | drained (m : Option CXMessageData) : Meets qs l i passed (.drained m) (.drained m)
  | errorPacket (m : Option CXMessageData) : Meets qs l i passed (.errorPacket m) (.errorPacket m)
  | noBuffer : Meets qs l i passed .noBuffer .noBuffer
  | packet (hd : CXPacketHeader) (m : CXMessageData) (pre post : List Nat) (q : Nat) (as bs : List CXBufferObj)
      (b : CXBufferObj) (iBegin freed : Nat) : qs = pre ++ q :: post → l = as ++ b :: bs →
      pre.length = as.length → RecvState.InSeq i (as ++ [b]) →
      freed + (left b bs iBegin).length = passed + l.length →
      Meets qs l i passed (.packet hd m freed (left b bs iBegin)) (.packet hd m q iBegin)

theorem Meets.cons {i passed : Nat} {e : RecvState.ScanEnd} {e' : ScanEnd}
    (h : Meets qs l (i + 1) (passed + 1) e e') (hb : b.nSequenceNum = i + 1) :
    Meets (q :: qs) (b :: l) i passed e e' := by
  cases h with
  | drained m => exact .drained m
  | errorPacket m => exact .errorPacket m
  | noBuffer => exact .noBuffer
  | packet hd m pre post r as bs c iBegin freed hqs hl hlen hseq hfreed =>
    refine .packet hd m (q :: pre) post r (b :: as) bs c iBegin freed (by rw [hqs]; rfl) (by rw [hl]; rfl)
      (by rw [List.length_cons, List.length_cons, hlen]) ⟨hb, hseq⟩ ?_
    rw [hfreed, List.length_cons]
    omega

theorem readHeader_uiPacketIndex (b : CXBufferObj) (c : RecvState.Cursor) :
    (RecvState.readHeader b c).1.uiPacketIndex = c.uiPacketIndex := by
  unfold RecvState.readHeader
  split <;> rfl

theorem scan_spec (env : RecvEnv) (h : ReadHeap) : ∀ (l : List CXBufferObj) (fuel : Nat) (p : Option Nat)
    (qs : List Nat) (passed : Nat) (c : RecvState.Cursor) (s : RecvState), Linked h.pNext p qs →
    qs.map h.node = l.map some → qs.length < fuel →
    ∃ s' e e', RecvState.scan env l passed c s = (s', e) ∧ h.scan env fuel p c s = some (s', e') ∧
      Meets qs l c.uiPacketIndex passed e e'
  | _, 0, _, _, _, _, _, _, _, hf => absurd hf (Nat.not_lt_zero _)
  | [], fuel + 1, p, qs, passed, c, s, hl, hn, hf => by
    obtain rfl : qs = [] := by simpa using hn
    obtain rfl : p = none := hl
    exact ⟨s, _, _, rfl, rfl, .drained _⟩
  | b :: l, fuel + 1, p, [], passed, c, s, hl, hn, hf => by cases hn
  | b :: l, fuel + 1, p, q :: qs, passed, c, s, hl, hn, hf => by
    obtain ⟨rfl, hl⟩ := hl
    obtain ⟨hb, hn⟩ := List.cons.inj hn
    have hf := Nat.lt_of_succ_lt_succ hf
    unfold RecvState.scan ReadHeap.scan
    simp only [hb]
    split
    · exact ⟨s, _, _, rfl, rfl, .drained _⟩
    rename_i hseq
    have hseq := not_not.mp hseq
    split
    · obtain ⟨s', e, e', h₁, h₂, hm⟩ := scan_spec env h l fuel (h.pNext q) qs (passed + 1)
        { c with uiPacketIndex := c.uiPacketIndex + 1 } s hl hn hf
      exact ⟨s', e, e', h₁, h₂, hm.cons hseq⟩
    obtain ⟨⟨c₁, iLeft, iBegin, ok⟩, hread⟩ : ∃ r, RecvState.readHeader b c = r := ⟨_, rfl⟩
    have hidx : c₁.uiPacketIndex = c.uiPacketIndex := by
      have := readHeader_uiPacketIndex b c
      rwa [hread] at this
    rw [← hidx] at hseq ⊢
    simp only [hread]
    split
    · obtain ⟨s', e, e', h₁, h₂, hm⟩ := scan_spec env h l fuel (h.pNext q) qs (passed + 1)
        { c₁ with uiPacketIndex := c₁.uiPacketIndex + 1 } (s.check ok) hl hn hf
      exact ⟨s', e, e', h₁, h₂, hm.cons hseq⟩
    split
    · exact ⟨_, _, _, rfl, rfl, .errorPacket _⟩
    split
    · exact ⟨_, _, _, rfl, rfl, .errorPacket _⟩
    obtain ⟨⟨s₂, m⟩, hget⟩ : ∃ r, RecvState.getMessage env (CXPacketHeader.ofBytes c₁.packetHeader)
      c₁.pMessageData (s.check ok) = r := ⟨_, rfl⟩
    simp only [hget]
    cases m with
    | none => exact ⟨_, _, _, rfl, rfl, .noBuffer⟩
    | some m =>
      obtain ⟨⟨m', iUsed, iBegin', ok'⟩, hbody⟩ : ∃ r, RecvState.readBody b
        (CXPacketHeader.ofBytes c₁.packetHeader) m c₁.iUsedLen iLeft iBegin = r := ⟨_, rfl⟩
      simp only [hbody]
      split
      · obtain ⟨s', e, e', h₁, h₂, hm⟩ := scan_spec env h l fuel (h.pNext q) qs (passed + 1) { c₁ with
          iUsedLen := iUsed, uiPacketIndex := c₁.uiPacketIndex + 1, pMessageData := some m' } (s₂.check ok')
          hl hn hf
        exact ⟨s', e, e', h₁, h₂, hm.cons hseq⟩
      · have hmeets : ∀ freed, freed + (left b l iBegin').length = passed + (b :: l).length →
            Meets (q :: qs) (b :: l) c₁.uiPacketIndex passed (.packet (.ofBytes c₁.packetHeader) m' freed
              (left b l iBegin')) (.packet (.ofBytes c₁.packetHeader) m' q iBegin') := fun freed hfreed =>
          .packet _ _ [] qs q [] l b iBegin' freed rfl rfl rfl ⟨hseq, trivial⟩ hfreed
        unfold left at hmeets
        split
        · rename_i hlen
          simp only [hlen, if_true] at hmeets
          exact ⟨_, _, _, rfl, rfl, hmeets _ (by rw [List.length_cons]; omega)⟩
        · rename_i hlen
          simp only [hlen, if_false] at hmeets
          exact ⟨_, _, _, rfl, rfl, hmeets _ (by simp)⟩

/-! ### Freeing buffers from the head on -/

theorem freeUntil_spec : ∀ (pre : List Nat) (suf : List Nat) (fuel : Nat) (h : ReadHeap) (n : Nat),
    Linked h.pNext h.pListReadBuf (pre ++ suf) → (∀ p ∈ pre, (h.node p).isSome) → pre.length < fuel →
    ∃ node, freeUntil suf.head? fuel h n =
        some ({ h with node := node, pListReadBuf := suf.head? }, n + pre.length) ∧
      ∀ p, node p = if p ∈ pre then none else h.node p
  | _, _, 0, _, _, _, _, hf => absurd hf (Nat.not_lt_zero _)
  | [], suf, fuel + 1, h, n, hl, _, _ => by
    have hhead : h.pListReadBuf = suf.head? := (Linked.head?_eq hl).symm
    refine ⟨h.node, ?_, fun p => (if_neg List.not_mem_nil).symm⟩
    unfold freeUntil
    rw [← hhead]
    cases hp : h.pListReadBuf with
    | none => simp [← hp]
    | some p => simp [← hp]
  | p :: pre, suf, fuel + 1, h, n, hl, hn, hf => by
    obtain ⟨hhead, hl'⟩ : h.pListReadBuf = some p ∧ Linked h.pNext (h.pNext p) (pre ++ suf) := hl
    have hnd := List.nodup_cons.mp (Linked.nodup (p := some p) ⟨rfl, hl'⟩)
    have hne : suf.head? ≠ some p := fun he =>
      hnd.1 (List.mem_append_right _ (List.mem_of_mem_head? he))
    have hn' : ∀ r ∈ pre, (Function.update h.node p none r).isSome := fun r hr => by
      have hne' : r ≠ p := fun e => hnd.1 (List.mem_append_left _ (by rwa [e] at hr))
      rw [Function.update_of_ne hne']
      exact hn r (List.mem_cons_of_mem _ hr)
    obtain ⟨node, hfree, hnode⟩ := freeUntil_spec pre suf fuel
      { h.setNode p none with pListReadBuf := h.pNext p } (n + 1) hl' hn' (Nat.lt_of_succ_lt_succ hf)
    refine ⟨node, ?_, fun r => ?_⟩
    · unfold freeUntil
      simp only [hhead, if_neg hne, if_pos (hn p List.mem_cons_self), hfree, List.length_cons]
      rw [show n + 1 + pre.length = n + (pre.length + 1) by omega]
      rfl
    · rw [hnode]
      by_cases hr : r = p
      · subst hr
        simp [setNode]
      · simp [setNode, hr]

/-- With both pointers reset when no buffer is left, freeing the first buffers leaves the rest of the list. -/
theorem Rep.freeUntil {pre suf : List Nat} {as bs : List CXBufferObj} (hr : Rep h (pre ++ suf) (as ++ bs))
    (hlen : pre.length = as.length) :
    ∃ h', freeUntil suf.head? (h.created + 1) h 0 = some (h', pre.length) ∧
      Rep (if suf.head? = none then { h' with pListReadBuf := none, pListReadBufEnd := none } else h') suf bs ∧
      h'.pListReadBuf = suf.head? ∧ h'.pListReadBufEnd = h.pListReadBufEnd ∧ h'.created = h.created ∧
      ∀ p, p ∉ pre → h'.node p = h.node p := by
  have hnodes := hr.nodes
  rw [List.map_append, List.map_append] at hnodes
  obtain ⟨hpre, hsuf⟩ := List.append_inj hnodes (by simpa using hlen)
  have hsome : ∀ p ∈ pre, (h.node p).isSome := fun p hp => by
    have hm := List.mem_map_of_mem (f := h.node) hp
    rw [hpre] at hm
    obtain ⟨b, -, hb⟩ := List.mem_map.mp hm
    rw [← hb]
    rfl
  have hbound : pre.length < h.created + 1 := by
    have := hr.length_le
    rw [List.length_append] at this
    omega
  obtain ⟨node, hfree, hnode⟩ := freeUntil_spec pre suf (h.created + 1) h 0 hr.linked hsome hbound
  have hdisj := List.disjoint_of_nodup_append hr.linked.nodup
  have hnode' : ∀ p, p ∉ pre → node p = h.node p := fun p hp => by rw [hnode, if_neg hp]
  have hkeep : suf.map node = bs.map some := by
    rw [← hsuf]
    exact List.map_congr_left fun p hp => hnode' p fun hm => hdisj hm hp
  obtain ⟨q, hq⟩ := Linked.of_append hr.linked
  refine ⟨{ h with node := node, pListReadBuf := suf.head? }, by rw [hfree, Nat.zero_add], ?_, rfl, rfl, rfl, hnode'⟩
  cases suf with
  | nil => exact ⟨rfl, hkeep, rfl, nofun⟩
  | cons r suf =>
    rw [if_neg (by simp)]
    refine ⟨⟨rfl, hq.2⟩, hkeep, ?_, fun p hp => hr.lt p (List.mem_append_right _ hp)⟩
    show h.pListReadBufEnd = _
    rw [hr.last, List.getLast?_append_of_ne_nil _ (List.cons_ne_nil r suf)]

theorem Rep.setNode {pre post : List Nat} {as bs : List CXBufferObj}
    (hr : Rep h (pre ++ q :: post) (as ++ b :: bs))
    (hlen : pre.length = as.length) (c : CXBufferObj) :
    Rep (h.setNode q (some c)) (pre ++ q :: post) (as ++ c :: bs) := by
  refine ⟨hr.linked, ?_, hr.last, hr.lt⟩
  have hnodes := hr.nodes
  simp only [List.map_append, List.map_cons] at hnodes ⊢
  obtain ⟨hpre, hpost⟩ := List.append_inj hnodes (by simpa using hlen)
  obtain ⟨-, hpost⟩ := List.cons.inj hpost
  obtain ⟨hnd₁, hnd₂, hdisj⟩ := List.nodup_append.mp hr.linked.nodup
  have hne : ∀ p, p ≠ q → (h.setNode q (some c)).node p = h.node p := fun p hp => Function.update_of_ne hp _ _
  rw [← hpre, ← hpost]
  refine congrArg₂ _ (List.map_congr_left fun p hp => hne p (hdisj p hp q List.mem_cons_self)) ?_
  refine congrArg₂ _ (Function.update_self ..) (List.map_congr_left fun p hp => hne p ?_)
  rintro rfl
  exact (List.nodup_cons.mp hnd₂).1 hp

theorem left_cases (b : CXBufferObj) (bs : List CXBufferObj) (iBegin : Nat) :
    left b bs iBegin = bs ∧ b.len - (iBegin - b.nCurDataPointer) = 0 ∨
      left b bs iBegin = { b with len := b.len - (iBegin - b.nCurDataPointer), nCurDataPointer := iBegin } :: bs ∧
        b.len - (iBegin - b.nCurDataPointer) ≠ 0 := by
  unfold left
  by_cases hlen : b.len - (iBegin - b.nCurDataPointer) = 0
  · exact .inl ⟨if_pos hlen, hlen⟩
  · exact .inr ⟨if_neg hlen, hlen⟩

end ReadHeap

namespace ReadConn

open ReadHeap

variable {s s' : ReadConn} {ps : List Nat} {l lft : List CXBufferObj} {p q iBegin freed : Nat} {b : CXBufferObj}
  {hd : CXPacketHeader} {m : CXMessageData}

theorem takePacket_spec {i : Nat} (hr : Rep s.heap ps l)
    (hm : Meets ps l i 0 (.packet hd m freed lft) (.packet hd m q iBegin)) :
    ∃ heap ps', s.takePacket hd q iBegin =
        some ({ s with heap := heap, con := countPacket s.con hd freed }, ps'.head?) ∧
      Rep heap ps' lft ∧ ps' ⊆ ps ∧ heap.created = s.heap.created ∧ ∀ p ∉ ps, heap.node p = s.heap.node p := by
  obtain _ | _ | _ | ⟨_, _, pre, post, _, as, bs, b, _, _, rfl, rfl, hlen, _, hfreed⟩ := hm
  have hb : s.heap.node q = some b := by
    have hnodes := hr.nodes
    simp only [List.map_append, List.map_cons] at hnodes
    exact (List.cons.inj (List.append_inj hnodes (by simpa using hlen)).2).1
  obtain ⟨z, hl⟩ := Linked.of_append hr.linked
  have hset := hr.setNode hlen { b with
    len := b.len - (iBegin - b.nCurDataPointer)
    nCurDataPointer := iBegin }
  generalize hh : s.heap.setNode q (some { b with
    len := b.len - (iBegin - b.nCurDataPointer)
    nCurDataPointer := iBegin }) = heap at hset
  have hnext : heap.pNext q = post.head? := by
    rw [← hh]
    exact hl.2.head?_eq.symm
  have hcr : heap.created = s.heap.created := by rw [← hh]; rfl
  have hnode : ∀ p, p ≠ q → heap.node p = s.heap.node p := fun p hp => by
    rw [← hh]
    exact Function.update_of_ne hp _ _
  unfold takePacket
  simp only [hb, hh, hnext, Option.bind_eq_bind, Option.bind_some]
  rcases left_cases b bs iBegin with ⟨hleft, h0⟩ | ⟨hleft, h0⟩
  · rw [hleft] at hfreed ⊢
    rw [List.append_cons pre, List.append_cons as] at hset
    obtain ⟨heap', hfree, hrep, -, -, hcr', hkeep⟩ := hset.freeUntil (by simp [hlen])
    have hcount : freed = (pre ++ [q]).length := by
      simp only [List.length_append, List.length_cons, List.length_nil] at hfreed ⊢
      omega
    rw [if_pos h0, hfree, hcount]
    refine ⟨_, post, rfl, hrep, fun p hp => by simp [hp], ?_, fun p hp => ?_⟩
    · rw [← hcr, ← hcr']
      split <;> rfl
    · have hne : p ≠ q := fun e => hp (by simp [e])
      rw [← hnode p hne, ← hkeep p (fun hm => hp (by simp at hm ⊢; tauto))]
      split <;> rfl
  · rw [hleft] at hfreed ⊢
    obtain ⟨heap', hfree, hrep, hhead, hend, hcr', hkeep⟩ := hset.freeUntil hlen
    have hcount : freed = pre.length := by
      simp only [List.length_append, List.length_cons] at hfreed ⊢
      omega
    rw [List.head?_cons] at hfree hrep
    rw [if_neg h0, hfree, hcount]
    refine ⟨_, q :: post, rfl, hrep, fun p hp => by simp at hp ⊢; tauto, ?_, fun p hp => ?_⟩
    · rw [← hcr, ← hcr']
      rfl
    · have hne : p ≠ q := fun e => hp (by simp [e])
      rw [← hnode p hne, ← hkeep p (fun hm => hp (by simp [hm]))]
      rfl

/-! ### The invariant -/

/-- The read list is `l`, in the buffers `ps`; what `RecvData` has numbered and not yet handed over comes behind
the last buffer that is freed and is not in the list. -/
structure Inv (s : ReadConn) (ps : List Nat) (l : List CXBufferObj) : Prop where
  rep : Rep s.heap ps l
  sorted : l.Pairwise fun a b => a.nSequenceNum < b.nSequenceNum
  gt : ∀ b ∈ l, s.con.uiLastProcessBufferIndex < b.nSequenceNum
  le : ∀ b ∈ l, b.nSequenceNum ≤ s.uiRecvBufferIndex
  lastLe : s.con.uiLastProcessBufferIndex ≤ s.uiRecvBufferIndex
  count : s.con.uiNumberOfReceivedBufferInList = UInt64.ofNat l.length
  flight : ∀ p ∈ s.inFlight, p < s.heap.created ∧ p ∉ ps ∧ ∃ b, s.heap.node p = some b ∧
    s.con.uiLastProcessBufferIndex < b.nSequenceNum ∧ b.nSequenceNum ≤ s.uiRecvBufferIndex ∧
    ∀ a ∈ l, a.nSequenceNum ≠ b.nSequenceNum
  distinct : (s.inFlight.map s.heap.seqOf).Nodup

/-- The counters that the read list depends on. -/
def SameCounts (con con' : RecvState) : Prop :=
  con'.uiLastProcessBufferIndex = con.uiLastProcessBufferIndex ∧
    con'.uiNumberOfReceivedBufferInList = con.uiNumberOfReceivedBufferInList

theorem sameCounts_of_quiet {con con' : RecvState} (h : RecvState.Quiet con con') : SameCounts con con' := by
  unfold RecvState.Quiet at h
  rw [h]
  exact ⟨rfl, rfl⟩

theorem sameCounts_deliver {env : RecvEnv} {con con' : RecvState} {f : Bool} {r : Option Int}
    (h : con.deliver env hd m f = some (con', r)) : SameCounts con con' := by
  unfold RecvState.deliver at h
  split at h
  · split at h
    · split at h
      · cases h
        exact ⟨rfl, rfl⟩
      split at h
      · dsimp only at h
        split at h <;> cases h <;> exact ⟨rfl, rfl⟩
      · rcases RecvState.parseMessage_cases env m hd con with ⟨s₁, heq, s₂, m', hq, -, -, rfl⟩ | ⟨s₁, heq, hq⟩
        · rw [heq] at h
          cases h
          have hc := sameCounts_of_quiet hq
          exact hc
        · rw [heq] at h
          cases h
          have hc := sameCounts_of_quiet hq
          exact hc
    · cases h
      exact ⟨rfl, rfl⟩
  · split at h <;> cases h
    exact ⟨rfl, rfl⟩

namespace Inv

variable {con' : RecvState} {nLock nUnlock : Nat}

theorem built (f g a : Bool) : Inv (built f g a) [] [] := by
  refine ⟨rep_empty, List.Pairwise.nil, nofun, nofun, le_rfl, rfl, nofun, List.nodup_nil⟩

theorem congr (h : Inv s ps l) (hc : SameCounts s.con con') :
    Inv ⟨s.heap, con', s.uiRecvBufferIndex, s.inFlight, nLock, nUnlock⟩ ps l := by
  obtain ⟨h₁, h₂, h₃, h₄, h₅, h₆, h₇, h₈⟩ := h
  obtain ⟨hlast, hnum⟩ := hc
  rw [← hlast] at h₃ h₅ h₇
  exact ⟨h₁, h₂, h₃, h₄, h₅, hnum.trans h₆, h₇, h₈⟩

theorem recvData (h : Inv s ps l) (bytes : List UInt8) : Inv (s.recvData bytes) ps l := by
  have hne : ∀ p, p < s.heap.created → (s.recvData bytes).heap.node p = s.heap.node p := fun p hp =>
    Function.update_of_ne (Nat.ne_of_lt hp) _ _
  have hnew : (s.recvData bytes).heap.node s.heap.created = some (.received (s.uiRecvBufferIndex + 1) bytes) :=
    Function.update_self ..
  have hseq : s.inFlight.map (s.recvData bytes).heap.seqOf = s.inFlight.map s.heap.seqOf :=
    List.map_congr_left fun p hp => congrArg (Option.map nSequenceNum) (hne p (h.flight p hp).1)
  refine ⟨⟨h.rep.linked, ?_, h.rep.last, fun p hp => Nat.lt_succ_of_lt (h.rep.lt p hp)⟩, h.sorted, h.gt,
    fun b hb => Nat.le_succ_of_le (h.le b hb), Nat.le_succ_of_le h.lastLe, h.count, fun p hp => ?_, ?_⟩
  · rw [← h.rep.nodes]
    exact List.map_congr_left fun p hp => hne p (h.rep.lt p hp)
  · rcases List.mem_append.mp hp with hp | hp
    · obtain ⟨hlt, hps, b, hb, hgt, hle, hab⟩ := h.flight p hp
      exact ⟨Nat.lt_succ_of_lt hlt, hps, b, (hne p hlt).trans hb, hgt, Nat.le_succ_of_le hle, hab⟩
    · obtain rfl := List.mem_singleton.mp hp
      refine ⟨Nat.lt_succ_self _, fun hm => Nat.lt_irrefl _ (h.rep.lt _ hm), _, hnew, Nat.lt_succ_of_le h.lastLe,
        le_rfl, fun a ha => ?_⟩
      exact Nat.ne_of_lt (Nat.lt_succ_of_le (h.le a ha))
  · show ((s.inFlight ++ [s.heap.created]).map (s.recvData bytes).heap.seqOf).Nodup
    rw [List.map_append, hseq, List.map_singleton, seqOf_eq hnew]
    refine List.nodup_append.mpr ⟨h.distinct, List.nodup_singleton _, fun o ho o' ho' => ?_⟩
    rw [List.mem_singleton.mp ho']
    obtain ⟨p, hp, rfl⟩ := List.mem_map.mp ho
    obtain ⟨-, -, b, hb, -, hle, -⟩ := h.flight p hp
    rw [seqOf_eq hb]
    intro he
    have := Option.some.inj he
    simp only [CXBufferObj.received] at this
    omega

theorem pushReceivedBuffer (h : Inv s ps l) (hp : p ∈ s.inFlight) :
    ∃ s' ps' l', { s with inFlight := s.inFlight.erase p }.pushReceivedBuffer p = some (s', true) ∧ Inv s' ps' l' ∧
      s'.nLock = s.nLock ∧ s'.nUnlock = s.nUnlock ∧ s'.con = { s.con with
        uiNumberOfReceivedBufferInList := s.con.uiNumberOfReceivedBufferInList + 1
        uiPostedRecvBuffers := s.con.uiPostedRecvBuffers - 1 } := by
  obtain ⟨hlt, hps, b, hb, hgt, hle, hab⟩ := h.flight p hp
  obtain ⟨heap, ps', L', hpush, -, hrep, hord, hperm, hps', hnode, hcr⟩ :=
    h.rep.pushReceivedBuffer (L := ⟨l, l.getLast?.map nSequenceNum⟩) ⟨h.sorted, rfl⟩ hb hps hlt hab
  unfold ReadConn.pushReceivedBuffer
  simp only [hpush]
  refine ⟨_, ps', L'.head, rfl, ⟨hrep, hord.sorted, fun a ha => ?_, fun a ha => ?_, h.lastLe, ?_, fun r hr => ?_, ?_⟩,
    rfl, rfl, rfl⟩
  · rcases List.mem_cons.mp (hperm.mem_iff.mp ha) with rfl | ha
    · exact hgt
    · exact h.gt a ha
  · rcases List.mem_cons.mp (hperm.mem_iff.mp ha) with rfl | ha
    · exact hle
    · exact h.le a ha
  · rw [hperm.length_eq, List.length_cons, UInt64.ofNat_add, ← h.count]
    rfl
  · have hnd : s.inFlight.Nodup := List.Nodup.of_map _ h.distinct
    obtain ⟨hne, hr⟩ := hnd.mem_erase_iff.mp hr
    obtain ⟨hlt', hps'', a, ha, hgt', hle', hab'⟩ := h.flight r hr
    refine ⟨by rwa [hcr], fun hm => ?_, a, by rw [hnode]; exact ha, hgt', hle', fun x hx => ?_⟩
    · rcases List.mem_cons.mp (hps'.mem_iff.mp hm) with rfl | hm
      · exact hne rfl
      · exact hps'' hm
    · rcases List.mem_cons.mp (hperm.mem_iff.mp hx) with rfl | hx
      · intro he
        refine hne (List.inj_on_of_nodup_map h.distinct hr hp ?_)
        rw [seqOf_eq ha, seqOf_eq hb, he]
      · exact hab' x hx
  · have hseq : heap.seqOf = s.heap.seqOf := by
      funext r
      unfold seqOf
      rw [hnode]
    rw [hseq]
    exact h.distinct.sublist (List.erase_sublist.map _)

/-- A complete packet frees the buffers that come next in sequence, so no buffer in flight is passed over. -/
theorem takePacket (h : Inv s ps l) (hm : Meets ps l s.con.uiLastProcessBufferIndex 0 (.packet hd m freed lft)
    (.packet hd m q iBegin)) :
    ∃ s' ps', s.takePacket hd q iBegin = some (s', ps'.head?) ∧ Inv s' ps' lft ∧
      s'.con = countPacket s.con hd freed ∧ s'.nLock = s.nLock ∧ s'.nUnlock = s.nUnlock := by
  obtain ⟨heap, ps', htake, hrep, hsub, hcr, hnode⟩ := takePacket_spec h.rep hm
  obtain _ | _ | _ | ⟨_, _, pre, post, _, as, bs, b, _, _, hps, rfl, hlen, hseq, hfreed⟩ := hm
  -- the numbers that are freed, and those of the buffers that are left
  obtain ⟨done, hdone, hleft, hnums⟩ : ∃ done, RecvState.InSeq s.con.uiLastProcessBufferIndex done ∧
      freed = done.length ∧ (as ++ b :: bs).map nSequenceNum =
        done.map nSequenceNum ++ (left b bs iBegin).map nSequenceNum := by
    rcases left_cases b bs iBegin with ⟨hl, -⟩ | ⟨hl, -⟩
    · refine ⟨as ++ [b], hseq, ?_, by rw [hl]; simp⟩
      rw [hl] at hfreed
      simp only [List.length_append, List.length_cons, List.length_nil] at hfreed ⊢
      omega
    · refine ⟨as, (RecvState.inSeq_append.mp hseq).1, ?_, by rw [hl]; simp⟩
      rw [hl] at hfreed
      simp only [List.length_append, List.length_cons] at hfreed
      omega
  have hsorted := List.pairwise_map.mpr h.sorted
  rw [hnums] at hsorted
  obtain ⟨-, hsorted', hbefore⟩ := List.pairwise_append.mp hsorted
  have hmem : ∀ a ∈ left b bs iBegin, ∃ a' ∈ as ++ b :: bs, a'.nSequenceNum = a.nSequenceNum := fun a ha => by
    have : a.nSequenceNum ∈ (as ++ b :: bs).map nSequenceNum := by
      rw [hnums]
      exact List.mem_append_right _ (List.mem_map_of_mem ha)
    exact List.mem_map.mp this
  have hdoneMem : ∀ a ∈ done, ∃ a' ∈ as ++ b :: bs, a'.nSequenceNum = a.nSequenceNum := fun a ha => by
    have : a.nSequenceNum ∈ (as ++ b :: bs).map nSequenceNum := by
      rw [hnums]
      exact List.mem_append_left _ (List.mem_map_of_mem ha)
    exact List.mem_map.mp this
  -- a number behind the last freed one that is none of the freed ones comes behind these too
  have hpast : ∀ n, s.con.uiLastProcessBufferIndex < n → (∀ a ∈ done, a.nSequenceNum ≠ n) →
      s.con.uiLastProcessBufferIndex + freed < n := fun n hn hne => by
    by_contra hle
    obtain ⟨a, ha, he⟩ := hdone.mem_iff.mpr ⟨hn, by omega⟩
    exact hne a ha he
  refine ⟨_, ps', htake, ⟨hrep, List.pairwise_map.mp hsorted', fun a ha => ?_, fun a ha => ?_, ?_, ?_, fun p hp => ?_,
    ?_⟩, rfl, rfl, rfl⟩
  · obtain ⟨a', ha', he⟩ := hmem a ha
    refine hpast _ (he ▸ h.gt a' ha') fun d hd' => Nat.ne_of_lt ?_
    exact hbefore _ (List.mem_map_of_mem hd') _ (List.mem_map_of_mem ha)
  · obtain ⟨a', ha', he⟩ := hmem a ha
    exact he ▸ h.le a' ha'
  · show s.con.uiLastProcessBufferIndex + freed ≤ s.uiRecvBufferIndex
    rcases Nat.eq_zero_or_pos freed with h0 | hpos
    · rw [h0]
      exact h.lastLe
    · have hlast : s.con.uiLastProcessBufferIndex < s.con.uiLastProcessBufferIndex + freed ∧
          s.con.uiLastProcessBufferIndex + freed ≤ s.con.uiLastProcessBufferIndex + done.length := by omega
      obtain ⟨d, hd', hn⟩ := hdone.mem_iff.mpr hlast
      obtain ⟨a', ha', he⟩ := hdoneMem d hd'
      have := h.le a' ha'
      omega
  · have hlen' : (as ++ b :: bs).length = done.length + (left b bs iBegin).length := by
      simpa only [List.length_append, List.length_map] using congrArg List.length hnums
    show s.con.uiNumberOfReceivedBufferInList - UInt64.ofNat freed = _
    rw [h.count, hleft, hlen', UInt64.ofNat_add]
    grind
  · obtain ⟨hlt, hps', a, ha, hgt, hle, hab⟩ := h.flight p hp
    refine ⟨hcr ▸ hlt, fun hm => hps' (hsub hm), a, (hnode p hps').trans ha, hpast _ hgt fun d hd' => ?_, hle,
      fun x hx => ?_⟩
    · obtain ⟨a', ha', he⟩ := hdoneMem d hd'
      exact he ▸ hab a' ha'
    · obtain ⟨a', ha', he⟩ := hmem x hx
      exact he ▸ hab a' ha'
  · have hseq' : s.inFlight.map heap.seqOf = s.inFlight.map s.heap.seqOf :=
      List.map_congr_left fun p hp => congrArg (Option.map nSequenceNum) (hnode p (h.flight p hp).2.1)
    show (s.inFlight.map heap.seqOf).Nodup
    rw [hseq']
    exact h.distinct

theorem deliver {env : RecvEnv} {pCurBuf : Option Nat} {r : Option Int} (h : Inv s ps l)
    (hs : s.deliver env hd m pCurBuf = some (s', r)) : Inv s' ps l := by
  unfold ReadConn.deliver at hs
  split at hs
  · cases hs
  · rename_i con heq
    cases hs
    exact h.congr (sameCounts_deliver heq)
  · rename_i con iRet heq
    split at hs <;> cases hs <;> exact h.congr (sameCounts_deliver heq)

end Inv

/-- One round of `unpack` on the read list `l`: the loop over its buffers and the one in memory end alike, and a
complete packet is taken. -/
inductive Round (env : RecvEnv) (s : ReadConn) (l : List CXBufferObj) : Prop
  | drained (con : RecvState) (m : Option CXMessageData) : SameCounts s.con con →
      RecvState.scan env l 0 (.start s.con.uiLastProcessBufferIndex) s.con = (con, .drained m) →
      s.heap.scan env (s.heap.created + 1) s.heap.pListReadBuf (.start s.con.uiLastProcessBufferIndex) s.con =
        some (con, .drained m) → Round env s l
  | errorPacket (con : RecvState) (m : Option CXMessageData) : SameCounts s.con con →
      RecvState.scan env l 0 (.start s.con.uiLastProcessBufferIndex) s.con = (con, .errorPacket m) →
      s.heap.scan env (s.heap.created + 1) s.heap.pListReadBuf (.start s.con.uiLastProcessBufferIndex) s.con =
        some (con, .errorPacket m) → Round env s l
  | noBuffer (con : RecvState) : SameCounts s.con con →
      RecvState.scan env l 0 (.start s.con.uiLastProcessBufferIndex) s.con = (con, .noBuffer) →
      s.heap.scan env (s.heap.created + 1) s.heap.pListReadBuf (.start s.con.uiLastProcessBufferIndex) s.con =
        some (con, .noBuffer) → Round env s l
  | packet (con : RecvState) (hd : CXPacketHeader) (m : CXMessageData) (freed : Nat) (lft : List CXBufferObj)
      (q iBegin : Nat) (s₁ : ReadConn) (ps' : List Nat) :
      RecvState.scan env l 0 (.start s.con.uiLastProcessBufferIndex) s.con = (con, .packet hd m freed lft) →
      s.heap.scan env (s.heap.created + 1) s.heap.pListReadBuf (.start s.con.uiLastProcessBufferIndex) s.con =
        some (con, .packet hd m q iBegin) →
      { s with con := con }.takePacket hd q iBegin = some (s₁, s₁.heap.pListReadBuf) → Inv s₁ ps' lft →
      s₁.con = countPacket con hd freed → s₁.nLock = s.nLock → s₁.nUnlock = s.nUnlock → Round env s l

theorem Inv.round (env : RecvEnv) (h : Inv s ps l) : Round env s l := by
  have hlen : ps.length < s.heap.created + 1 := Nat.lt_succ_of_le h.rep.length_le
  obtain ⟨con, e, e', hscan, hscan', hm⟩ := scan_spec env s.heap l (s.heap.created + 1) s.heap.pListReadBuf ps 0
    (.start s.con.uiLastProcessBufferIndex) s.con h.rep.linked h.rep.nodes hlen
  have hquiet : SameCounts s.con con := by
    obtain ⟨con', e', hs, hq, -⟩ :=
      RecvState.scan_leaves env l 0 (.start s.con.uiLastProcessBufferIndex) s.con nofun
    rw [hscan] at hs
    cases hs
    exact sameCounts_of_quiet hq
  cases hm with
  | drained m => exact .drained con m hquiet hscan hscan'
  | errorPacket m => exact .errorPacket con m hquiet hscan hscan'
  | noBuffer => exact .noBuffer con hquiet hscan hscan'
  | packet hd m pre post q as bs b iBegin freed hps hl hlen' hseq hfreed =>
    have hm : Meets ps l s.con.uiLastProcessBufferIndex 0 (.packet hd m freed (left b bs iBegin))
        (.packet hd m q iBegin) :=
      .packet hd m pre post q as bs b iBegin freed hps hl hlen' hseq hfreed
    have hcon : Inv { s with con := con } ps l := h.congr hquiet
    rw [← hquiet.1] at hm
    obtain ⟨s₁, ps', htake, hi, hcon', hl₁, hl₂⟩ := hcon.takePacket hm
    rw [hi.rep.linked.head?_eq] at htake
    exact .packet con hd m freed _ q iBegin s₁ ps' hscan hscan' htake hi hcon' hl₁ hl₂

theorem deliver_heap {env : RecvEnv} {pCurBuf : Option Nat} {r : Option Int}
    (hs : s.deliver env hd m pCurBuf = some (s', r)) : s'.heap = s.heap := by
  unfold ReadConn.deliver at hs
  split at hs
  · cases hs
  · cases hs
    rfl
  · split at hs <;> cases hs <;> rfl

namespace Inv

variable {env : RecvEnv} {iRet : Int}

theorem unpack : ∀ {fuel : Nat} {s : ReadConn} {ps : List Nat} {l : List CXBufferObj}, Inv s ps l →
    s.unpack env fuel s.heap.pListReadBuf = some (s', iRet) → ∃ ps' l', Inv s' ps' l'
  | 0, _, _, _, _, hs => by cases hs
  | fuel + 1, s, ps, l, h, hs => by
    have hfree : ∀ {con}, SameCounts s.con con → ∀ m, SameCounts s.con (con.freeMessage m) := fun hcon m => by
      cases m <;> exact hcon
    unfold ReadConn.unpack at hs
    cases h.round env with
    | drained con m hcon _ hscan =>
      rw [hscan] at hs
      cases hs
      exact ⟨ps, l, h.congr (hfree hcon m)⟩
    | errorPacket con m hcon _ hscan =>
      rw [hscan] at hs
      cases hs
      exact ⟨ps, l, h.congr (hfree hcon m)⟩
    | noBuffer con hcon _ hscan =>
      rw [hscan] at hs
      cases hs
      exact ⟨ps, l, h.congr hcon⟩
    | packet con hd m freed lft q iBegin s₁ ps' _ hscan htake h₁ =>
      simp only [hscan, htake] at hs
      split at hs
      · cases hs
      · rename_i s₂ iRet' heq
        cases hs
        exact ⟨ps', lft, h₁.deliver heq⟩
      · rename_i s₂ heq
        rw [← deliver_heap heq] at hs
        exact (h₁.deliver heq).unpack hs

theorem recvPacket (h : Inv s ps l) (hp : p ∈ s.inFlight)
    (hs : { s with inFlight := s.inFlight.erase p }.recvPacket env p = some (s', iRet)) :
    ∃ ps' l', Inv s' ps' l' := by
  unfold ReadConn.recvPacket at hs
  split at hs
  · cases hs
    exact ⟨ps, l, h.rep, h.sorted, h.gt, h.le, h.lastLe, h.count, fun r hr => h.flight r (List.mem_of_mem_erase hr),
      h.distinct.sublist (List.erase_sublist.map _)⟩
  · have hlock : Inv s.lock ps l := h.congr ⟨rfl, rfl⟩
    obtain ⟨s₁, ps₁, l₁, hpush, h₁, -⟩ := hlock.pushReceivedBuffer hp
    have hpush' : { s with inFlight := s.inFlight.erase p }.lock.pushReceivedBuffer p = some (s₁, true) := hpush
    rw [hpush'] at hs
    exact h₁.unpack hs

end Inv

/-! ### Runs -/

/-- No `Close` frees a read list that is not empty. -/
def KeepsList (s : ReadConn) : ReadAct → Prop
  | .close bNonePosted => bNonePosted = true → s.heap.pListReadBuf = none
  | _ => True

instance (s : ReadConn) (a : ReadAct) : Decidable (s.KeepsList a) := by
  unfold KeepsList
  cases a <;> infer_instance

theorem Inv.step {env : RecvEnv} {a : ReadAct} (h : Inv s ps l) (hk : s.KeepsList a)
    (hs : s.step env a = some s') : ∃ ps' l', Inv s' ps' l' := by
  cases a with
  | recvData bytes =>
    cases hs
    exact ⟨ps, l, h.recvData bytes⟩
  | pushReceivedBuffer p =>
    obtain ⟨hp, hs⟩ := Option.ite_none_right_eq_some.mp hs
    obtain ⟨s₁, ps', l', hpush, h', -⟩ := h.pushReceivedBuffer hp
    rw [hpush] at hs
    cases hs
    exact ⟨ps', l', h'⟩
  | recvPacket p =>
    obtain ⟨hp, hs⟩ := Option.ite_none_right_eq_some.mp hs
    obtain ⟨⟨s₁, iRet⟩, hrecv, rfl⟩ := Option.map_eq_some_iff.mp hs
    exact h.recvPacket hp hrecv
  | task i =>
    obtain ⟨⟨m, hd⟩, -, rfl⟩ := Option.map_eq_some_iff.mp hs
    refine ⟨ps, l, h.congr ?_⟩
    unfold RecvState.processTask
    rcases RecvState.parseMessage_cases env m hd { s.con with tasks := s.con.tasks.eraseIdx i } with
      ⟨con, heq, con', m', hq, -, -, rfl⟩ | ⟨con, heq, hq⟩
    · rw [heq]
      have hc := sameCounts_of_quiet hq
      exact hc
    · rw [heq]
      have hc := sameCounts_of_quiet hq
      exact hc
  | close bNonePosted =>
    have hclose : s.close bNonePosted = some s := by
      unfold ReadConn.close
      cases bNonePosted with
      | false => rfl
      | true => rw [if_neg (by simp [hk rfl])]
    have hs' : s.close bNonePosted = some s' := hs
    rw [hclose] at hs'
    cases hs'
    exact ⟨ps, l, h⟩

theorem inv_of_reachable {env : RecvEnv} {f g a : Bool}
    (hs : Reachable (guarded KeepsList (step env)) (ReadConn.built f g a) s) : ∃ ps l, Inv s ps l := by
  induction hs with
  | init => exact ⟨[], [], Inv.built f g a⟩
  | step a _ hstep ih =>
    obtain ⟨ps, l, h⟩ := ih
    obtain ⟨hk, hstep⟩ := guarded_eq_some.mp hstep
    exact h.step hk hstep

/-- The read list is what its two pointers and its counters say. -/
structure Represented (s : ReadConn) : Prop where
  ends : s.heap.pListReadBuf = none ↔ s.heap.pListReadBufEnd = none
  chain : ∃ (ps : List Nat) (bs : List CXBufferObj), Linked s.heap.pNext s.heap.pListReadBuf ps ∧
    s.heap.pListReadBufEnd = ps.getLast? ∧ ps.map s.heap.node = bs.map some ∧
    bs.Pairwise (fun a b => a.nSequenceNum < b.nSequenceNum) ∧ (∀ b ∈ bs, s.con.uiLastProcessBufferIndex < b.nSequenceNum) ∧
    s.con.uiNumberOfReceivedBufferInList = UInt64.ofNat ps.length

theorem Inv.represented (h : Inv s ps l) : s.Represented := by
  refine ⟨?_, ps, l, h.rep.linked, h.rep.last, h.rep.nodes, h.sorted, h.gt, ?_⟩
  · rw [← h.rep.linked.head?_eq, h.rep.last, List.head?_eq_none_iff, List.getLast?_eq_none_iff]
  · rw [h.count, h.rep.length_eq]

/-- In every run in which no `Close` frees a read list that is not empty, the read list is a chain from the head to
the end pointer, of allocated buffers in order behind the last processed one. -/
theorem represented_of_keepsList {env : RecvEnv} {f g a : Bool}
    (hs : Reachable (guarded KeepsList (step env)) (ReadConn.built f g a) s) : s.Represented := by
  obtain ⟨ps, l, h⟩ := inv_of_reachable hs
  exact h.represented

/-- `Close` frees a read list that is not empty and leaves the end pointer at its last buffer. -/
theorem not_represented_close (h : Inv s ps l) (hne : s.heap.pListReadBuf ≠ none) :
    ∃ s', s.close true = some s' ∧ ¬ s'.Represented := by
  have hrep : Rep s.heap (ps ++ []) (l ++ []) := by simpa using h.rep
  obtain ⟨heap, hfree, -, hhead, hend, -, -⟩ := hrep.freeUntil h.rep.length_eq
  have hsome : s.heap.pListReadBuf.isSome = true := Option.isSome_iff_ne_none.mpr hne
  rw [List.head?_nil] at hfree
  refine ⟨_, by rw [close, if_pos ⟨rfl, hsome⟩, hfree]; rfl, fun hr => ?_⟩
  have hnone : heap.pListReadBufEnd = none := hr.ends.mp hhead
  rw [hend] at hnone
  exact hne (h.represented.ends.mpr hnone)

/-- Buffer 2 comes before buffer 1; then both are unpacked, and `Close` finds no list. -/
theorem represented_twoBuffers : ∃ s : ReadConn, s.heap.pListReadBuf = some 1 ∧
    s.con.uiLastProcessBufferIndex = 1 ∧ s.Represented := by
  have hrun : (runSteps (guarded KeepsList (step RecvState.undecryptableEnv)) (ReadConn.built true false false)
      [.close true, .recvData (leBytes 2 cxPacketHeaderFlag ++ [0, 0]), .recvData (List.replicate 13 0),
        .recvPacket 1, .recvPacket 0]).any
      (fun s => s.heap.pListReadBuf = some 1 ∧ s.con.uiLastProcessBufferIndex = 1) = true := by decide +kernel
  obtain ⟨s, hs, h⟩ := (Option.any_eq_true _ _).mp hrun
  obtain ⟨hhead, hlast⟩ := of_decide_eq_true h
  exact ⟨s, hhead, hlast, represented_of_keepsList (Reachable.of_runSteps hs)⟩

/-- A part of a packet has come when the connection is closed. -/
theorem not_represented_closed : ∃ s : ReadConn, Reachable (step RecvState.undecryptableEnv)
    (ReadConn.built true false false) s ∧ ¬ s.Represented := by
  have hrun : (runSteps (step RecvState.undecryptableEnv) (ReadConn.built true false false)
      [.recvData [1], .recvPacket 0, .close true]).any
      (fun s => s.heap.pListReadBuf = none ∧ s.heap.pListReadBufEnd = some 0) = true := by decide +kernel
  obtain ⟨s, hs, h⟩ := (Option.any_eq_true _ _).mp hrun
  obtain ⟨hhead, hend⟩ := of_decide_eq_true h
  refine ⟨s, Reachable.of_runSteps hs, fun hr => ?_⟩
  rw [hr.ends.mp hhead] at hend
  cases hend

end ReadConn

end KonsanNet
