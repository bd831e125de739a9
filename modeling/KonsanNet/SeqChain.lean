import KonsanNet.SeqList
import KonsanNet.Linked

/-!
# Insertion by sequence number (`PushMessage`, `PushSendBuffer`)

The message list and the send list of a connection as the objects that they are linked from: an object is named by
its address, its number does not change, and the two functions write its `pNext` and the two pointers of the list.
They are the same function but for the type of the numbers and the texts that they log. On a list that is linked, it
does what `SeqList.push` does (`pushSorted_eq`), so a sorted list stays sorted (`push_keepsSorted`).
-/

namespace KonsanNet

/-- The `pNext` of the objects, the head and the end pointer, and the errors that were logged. -/
structure SeqChain (π : Type) where
  pNext : π → Option π
  pHead : Option π
  pEnd : Option π
  log : List String

namespace SeqChain

variable {π σ : Type} [DecidableEq π] [LT σ] [DecidableLT σ] (num : π → σ)

def setNext (s : SeqChain π) (a : π) (pNext : Option π) : SeqChain π :=
  { s with pNext := Function.update s.pNext a pNext }

/-- The loop of the last branch, `none` where it is not through after `fuel` rounds. Where no object behind has a
larger number, nothing is inserted. -/
def insertLoop (x : π) : (fuel : Nat) → (pPrev : π) → (pCur : Option π) → SeqChain π → Option (SeqChain π)
  | _, _, none, s => some s
  | 0, _, some _, _ => none
  | fuel + 1, pPrev, some c, s =>
    if num c > num x then some ((s.setNext pPrev (some x)).setNext x (some c))
    else insertLoop x fuel c (s.pNext c) s

/-- `PushMessage` and `PushSendBuffer` with the texts of their errors; `none` where a `NULL` head is dereferenced, or
the loop is not through after `fuel` rounds. -/
def pushSorted (endOnly headOnly : String) (fuel : Nat) (s : SeqChain π) : Option π → Option (SeqChain π × Bool)
  | none => some (s, false)
  | some x =>
    let s := s.setNext x none
    if s.pHead = none ∧ s.pEnd = none then some ({ s with pHead := some x, pEnd := some x }, true)
    else
      match s.pEnd.filter fun e => num e < num x with
      | some e =>
        let s := { s.setNext e (some x) with pEnd := some x }
        if s.pHead = none then some ({ s with log := s.log ++ [endOnly] }, false) else some (s, true)
      | none =>
        match s.pHead.filter fun a => num a > num x with
        | some a =>
          let s := { s.setNext x (some a) with pHead := some x }
          if s.pEnd = none then some ({ s with log := s.log ++ [headOnly] }, false) else some (s, true)
        | none =>
          match s.pHead with
          | none => none
          | some a => (insertLoop num x fuel a (s.pNext a) s).map fun s => (s, true)

/-- `m_plstMessageHead`, `m_plstMessageEnd`; the numbers are `int64`. -/
def pushMessage (iSequenceNum : π → Int64) : Nat → SeqChain π → Option π → Option (SeqChain π × Bool) :=
  pushSorted iSequenceNum
    "The message list had an error, the end pointer is not empty, but the header pointer is empty\n"
    "The message list had an error, the header pointer is not empty, but the end pointer is empty\n"

/-- `m_pListSendBuf`, `m_pListSendBufEnd`; the numbers are `uint64`. -/
def pushSendBuffer (nSequenceNum : π → UInt64) : Nat → SeqChain π → Option π → Option (SeqChain π × Bool) :=
  pushSorted nSequenceNum
    "The sent list had an error, the end pointer is not empty, but the header pointer is empty\n"
    "The sent list had an error, the header pointer is not empty, but the end pointer is empty\n"

/-- The objects `l` are linked from the head pointer on to a `NULL`, the end pointer points to the last of them, and
their numbers increase strictly. -/
structure Sorted (s : SeqChain π) (l : List π) : Prop where
  linked : Linked s.pNext s.pHead l
  pEnd : s.pEnd = l.getLast?
  sorted : l.Pairwise fun a b => num a < num b

/-- Natural numbers in the order of the numbers. -/
structure Ranks (seq : π → Nat) : Prop where
  lt_iff : ∀ a b, num a < num b ↔ seq a < seq b
  inj : ∀ a b, seq a = seq b → num a = num b

variable {num} {seq : π → Nat} {s : SeqChain π} {l : List π} {x : π} {endOnly headOnly : String} {fuel : Nat}

/-- The loop inserts where `SeqList.insertMiddle` does; the induction is on the chain behind `pPrev`. -/
theorem insertLoop_eq (hr : Ranks num seq) {q : Option π} : ∀ {fuel : Nat} {as pre : List π} {p : π},
    Linked s.pNext q (pre ++ p :: as) → x ∉ pre ++ p :: as → as.length ≤ fuel →
    ∃ s', insertLoop num x fuel p as.head? s = some s' ∧
      Linked s'.pNext q (pre ++ p :: SeqList.insertMiddle seq x as) ∧ s'.pHead = s.pHead ∧ s'.pEnd = s.pEnd ∧
      s'.log = s.log
  | fuel, [], pre, p, h, _, _ => by
    refine ⟨s, ?_, h, rfl, rfl, rfl⟩
    cases fuel <;> rfl
  | 0, c :: as, pre, p, _, _, hfuel => absurd hfuel (Nat.not_succ_le_zero _)
  | fuel + 1, c :: as, pre, p, h, hx, hfuel => by
    show ∃ s', (if num c > num x then _ else _) = some s' ∧ _
    have hcx : num c > num x ↔ seq c > seq x := hr.lt_iff x c
    rw [SeqList.insertMiddle]
    by_cases hgt : seq c > seq x
    · rw [if_pos (hcx.mpr hgt), if_pos hgt]
      exact ⟨_, rfl, h.insert hx, rfl, rfl, rfl⟩
    · rw [if_neg (fun hc => hgt (hcx.mp hc)), if_neg hgt]
      have happ : pre ++ p :: c :: as = (pre ++ [p]) ++ c :: as := by simp
      rw [happ] at h hx
      obtain ⟨q', hq'⟩ := Linked.of_append h
      obtain ⟨s', hs', hlinked, hkept⟩ := insertLoop_eq hr h hx (Nat.le_of_succ_le_succ hfuel)
      refine ⟨s', ?_, ?_, hkept⟩
      · rw [← hq'.2.head?_eq]
        exact hs'
      · simpa using hlinked

theorem pushSorted_eq (hr : Ranks num seq) (h : Sorted num s l) (hx : x ∉ l) (hfuel : l.length ≤ fuel)
    {L : SeqList π} {ok : Bool} (hpush : SeqList.push seq ⟨l, l.getLast?.map seq⟩ x = some (L, ok)) :
    ∃ s', pushSorted num endOnly headOnly fuel s (some x) = some (s', ok) ∧ Linked s'.pNext s'.pHead L.head ∧
      s'.pEnd.map seq = L.endSeq ∧ (s'.pEnd = some x ∨ s'.pEnd = s.pEnd) ∧ s'.log = s.log := by
  obtain ⟨pNext, pHead, pEnd, log⟩ := s
  have hlinked : Linked (Function.update pNext x none) pHead l := h.linked.update_of_notMem hx none
  have hsorted : l.Pairwise fun a b => seq a < seq b := h.sorted.imp fun {a b} hab => (hr.lt_iff a b).mp hab
  cases l with
  | nil =>
    cases hpush
    have hhead : pHead = none := h.linked
    have hend : pEnd = none := h.pEnd
    exact ⟨⟨Function.update pNext x none, some x, some x, log⟩, if_pos ⟨hhead, hend⟩, ⟨rfl, Function.update_self ..⟩,
      rfl, .inl rfl, rfl⟩
  | cons a as =>
    obtain ⟨e, he⟩ : ∃ e, (a :: as).getLast? = some e := ⟨_, List.getLast?_eq_some_getLast (List.cons_ne_nil a as)⟩
    obtain ⟨pre, hpre⟩ : ∃ pre, a :: as = pre ++ [e] := ⟨_, (List.dropLast_append_getLast? e he).symm⟩
    obtain rfl : pEnd = some e := h.pEnd.trans he
    obtain rfl : pHead = some a := h.linked.1
    have hex : num e < num x ↔ seq e < seq x := hr.lt_iff e x
    have hax : num a > num x ↔ seq a > seq x := hr.lt_iff x a
    rw [SeqList.push, he] at hpush
    simp only [Option.map_some, List.isEmpty_cons, Bool.false_and, Bool.false_eq_true, if_false, Option.any_some,
      decide_eq_true_eq, Option.getD_some, List.head?_cons, Option.isSome_some, Bool.not_false] at hpush
    unfold pushSorted
    simp only [setNext, Option.filter_some, decide_eq_true_eq, reduceCtorEq, false_and, if_false]
    by_cases h₁ : seq e < seq x
    · -- behind the last
      rw [if_pos h₁] at hpush
      rw [if_pos (hex.mpr h₁)]
      cases hpush
      refine ⟨_, rfl, ?_, rfl, .inl rfl, rfl⟩
      rw [hpre] at hlinked hsorted hx ⊢
      rw [SeqList.linkAfter_last hsorted]
      exact hlinked.relink hx (Function.update_self ..)
    rw [if_neg h₁] at hpush
    rw [if_neg fun hc => h₁ (hex.mp hc)]
    by_cases h₂ : seq a > seq x
    · -- in front of the first
      rw [if_pos h₂] at hpush
      simp only [if_pos (hax.mpr h₂)]
      cases hpush
      refine ⟨_, rfl, ⟨rfl, ?_⟩, rfl, .inr rfl, rfl⟩
      show Linked (Function.update (Function.update pNext x none) x (some a))
        (Function.update (Function.update pNext x none) x (some a) x) (a :: as)
      rw [Function.update_self]
      exact hlinked.update_of_notMem hx _
    · -- behind one that is in the list
      rw [if_neg h₂] at hpush
      simp only [if_neg fun hc => h₂ (hax.mp hc)]
      cases hpush
      obtain ⟨s', hs', hlinked', hhead', hend', hlog⟩ := insertLoop_eq hr
        (show Linked (⟨Function.update pNext x none, some a, some e, log⟩ : SeqChain π).pNext (some a) ([] ++ a :: as)
          from hlinked) hx ((Nat.le_succ _).trans hfuel)
      rw [hlinked.2.head?_eq] at hs'
      refine ⟨s', ?_, ?_, ?_, .inr hend', hlog⟩
      · rw [hs']
        rfl
      · rw [hhead']
        exact hlinked'
      · rw [hend']
        rfl

/-- The insertion of a new number into a sorted list of any length. -/
theorem Sorted.push (hr : Ranks num seq) (h : Sorted num s l) (hx : ∀ a ∈ l, num a ≠ num x) (hfuel : l.length ≤ fuel) :
    ∃ s' l', pushSorted num endOnly headOnly fuel s (some x) = some (s', true) ∧ Sorted num s' l' ∧
      l'.Perm (x :: l) ∧ s'.log = s.log := by
  have hord : SeqList.Ordered seq ⟨l, l.getLast?.map seq⟩ :=
    ⟨h.sorted.imp fun {a b} hab => (hr.lt_iff a b).mp hab, rfl⟩
  have hmem : x ∉ l := fun hm => hx x hm rfl
  obtain ⟨L, hpush, hL, hperm⟩ := hord.push fun a ha heq => hx a ha (hr.inj a x heq)
  obtain ⟨s', hs', hlinked, hend, hor, hlog⟩ := pushSorted_eq hr h hmem hfuel hpush
  refine ⟨s', L.head, hs', ⟨hlinked, ?_, hL.sorted.imp fun {a b} hab => (hr.lt_iff a b).mpr hab⟩, hperm, hlog⟩
  -- the end pointer points to an object of the list, with the number of the last one
  rw [hL.endSeq] at hend
  cases he : s'.pEnd with
  | none =>
    rw [he] at hend
    exact (Option.map_eq_none_iff.mp hend.symm).symm
  | some e =>
    rw [he] at hend
    obtain ⟨z, hz, hseq⟩ := Option.map_eq_some_iff.mp hend.symm
    have hmem : e ∈ L.head := by
      rw [hperm.mem_iff]
      rcases hor with hor | hor
      · rw [Option.some.inj (he.symm.trans hor)]
        exact List.mem_cons_self
      · have hlast : l.getLast? = some e := by rw [← h.pEnd, ← hor, he]
        exact List.mem_cons_of_mem _ (List.mem_of_getLast? hlast)
    rw [hz, hL.eq_of_seq_eq (List.mem_of_getLast? hz) hmem hseq]

/-! ### The two functions -/

omit [DecidableEq π] in
theorem ranks_int64 (iSequenceNum : π → Int64) :
    Ranks iSequenceNum fun a => ((iSequenceNum a).toInt + 2 ^ 63).toNat where
  lt_iff a b := by
    have ha := (iSequenceNum a).le_toInt
    have hb := (iSequenceNum b).le_toInt
    rw [Int64.lt_iff_toInt_lt]
    omega
  inj a b h := by
    have ha := (iSequenceNum a).le_toInt
    have hb := (iSequenceNum b).le_toInt
    exact Int64.toInt_inj.mp (by omega)

omit [DecidableEq π] in
theorem ranks_uint64 (nSequenceNum : π → UInt64) : Ranks nSequenceNum fun a => (nSequenceNum a).toNat where
  lt_iff _ _ := UInt64.lt_iff_toNat_lt
  inj _ _ h := UInt64.toNat_inj.mp h

/-- For every sorted list of messages and of buffers, and a new one whose number is not in it: `PushMessage` and
`PushSendBuffer` come to an end, return true and leave a sorted list of the old ones and the new one. -/
theorem push_keepsSorted {ρ : Type} [DecidableEq ρ] {iSequenceNum : π → Int64} {nSequenceNum : ρ → UInt64}
    {messages : SeqChain π} {lstMessage : List π} {pMes : π} {buffers : SeqChain ρ} {lstSendBuf : List ρ}
    {pBufObj : ρ} (hmessages : Sorted iSequenceNum messages lstMessage)
    (hmes : ∀ a ∈ lstMessage, iSequenceNum a ≠ iSequenceNum pMes)
    (hbuffers : Sorted nSequenceNum buffers lstSendBuf) (hbuf : ∀ a ∈ lstSendBuf, nSequenceNum a ≠ nSequenceNum pBufObj) :
    (∀ fuel ≥ lstMessage.length, ∃ s' l', pushMessage iSequenceNum fuel messages (some pMes) = some (s', true) ∧
      Sorted iSequenceNum s' l' ∧ l'.Perm (pMes :: lstMessage) ∧ s'.log = messages.log) ∧
    ∀ fuel ≥ lstSendBuf.length, ∃ s' l', pushSendBuffer nSequenceNum fuel buffers (some pBufObj) = some (s', true) ∧
      Sorted nSequenceNum s' l' ∧ l'.Perm (pBufObj :: lstSendBuf) ∧ s'.log = buffers.log :=
  ⟨fun _ hfuel => hmessages.push (ranks_int64 iSequenceNum) hmes hfuel,
    fun _ hfuel => hbuffers.push (ranks_uint64 nSequenceNum) hbuf hfuel⟩

/-- The objects 1 and 3, numbered by their names. -/
def oneThree : SeqChain Nat := ⟨fun a => if a = 1 then some 3 else none, some 1, some 3, []⟩

omit [DecidableLT σ] in
theorem sorted_oneThree (num : Nat → σ) (h : num 1 < num 3) : Sorted num oneThree [1, 3] :=
  ⟨⟨rfl, rfl, rfl⟩, rfl, by simpa using h⟩

theorem push_keepsSorted_two :
    (∀ fuel ≥ 2, ∃ s' l', pushMessage Int64.ofNat fuel oneThree (some 2) = some (s', true) ∧
      Sorted Int64.ofNat s' l' ∧ l'.Perm [2, 1, 3] ∧ s'.log = []) ∧
    ∀ fuel ≥ 2, ∃ s' l', pushSendBuffer UInt64.ofNat fuel oneThree (some 2) = some (s', true) ∧
      Sorted UInt64.ofNat s' l' ∧ l'.Perm [2, 1, 3] ∧ s'.log = [] :=
  push_keepsSorted (sorted_oneThree _ (by decide)) (by decide) (sorted_oneThree _ (by decide)) (by decide)

end SeqChain

end KonsanNet
