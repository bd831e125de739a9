import Mathlib.Tactic
import Mathlib.Data.List.Sort

/-!
# Lists ordered by sequence number

The read list, the message list and the send list of a connection are kept the same way: a chain
`head` from the head pointer and an end pointer, of which only the sequence number in the object it
points to is ever read (`endSeq`, `none` for `NULL`). `push` is their common insertion
(`PushReceivedBuffer`, `PushMessage`, `PushSendBuffer`), with the tests in the source's order.
-/

namespace KonsanNet

structure SeqList (α : Type) where
  head : List α
  endSeq : Option Nat
deriving DecidableEq, Repr

namespace SeqList

variable {α : Type} (seq : α → Nat)

def empty : SeqList α := ⟨[], none⟩

/-- `end->pNext = x`, for the object `end` numbered `e`. -/
def linkAfter (e : Nat) (x : α) : List α → List α
  | [] => []
  | a :: l => if seq a = e then [a, x] else a :: linkAfter e x l

/-- The loop of the last branch, over the chain behind the head. -/
def insertMiddle (x : α) : List α → List α
  | [] => []
  | a :: l => if seq a > seq x then x :: a :: l else a :: insertMiddle x l

/-- `none` is the dereference of a `NULL` head in the last branch; the flag is what the source
returns. -/
def push (l : SeqList α) (x : α) : Option (SeqList α × Bool) :=
  if l.head.isEmpty && l.endSeq.isNone then some (⟨[x], some (seq x)⟩, true)
  else if l.endSeq.any fun e => e < seq x then
    some (⟨linkAfter seq (l.endSeq.getD 0) x l.head, some (seq x)⟩, !l.head.isEmpty)
  else if l.head.head?.any fun a => seq a > seq x then some (⟨x :: l.head, l.endSeq⟩, l.endSeq.isSome)
  else
    match l.head with
    | [] => none
    | a :: as => some (⟨a :: insertMiddle seq x as, l.endSeq⟩, true)

theorem mem_linkAfter {e : Nat} {x a : α} : ∀ {l : List α}, a ∈ linkAfter seq e x l → a = x ∨ a ∈ l
  | [], h => by cases h
  | b :: l, h => by
    unfold linkAfter at h
    split at h
    · rcases List.mem_cons.mp h with rfl | h
      · exact Or.inr (List.mem_cons_self ..)
      · exact Or.inl (List.mem_singleton.mp h)
    · rcases List.mem_cons.mp h with rfl | h
      · exact Or.inr (List.mem_cons_self ..)
      · exact (mem_linkAfter h).imp_right (List.mem_cons_of_mem _)

theorem mem_insertMiddle {x a : α} : ∀ {l : List α}, a ∈ insertMiddle seq x l → a = x ∨ a ∈ l
  | [], h => by cases h
  | b :: l, h => by
    unfold insertMiddle at h
    split at h
    · exact List.mem_cons.mp h
    · rcases List.mem_cons.mp h with rfl | h
      · exact Or.inr (List.mem_cons_self ..)
      · exact (mem_insertMiddle h).imp_right (List.mem_cons_of_mem _)

theorem mem_push {l l' : SeqList α} {x a : α} {ok : Bool} (h : push seq l x = some (l', ok))
    (ha : a ∈ l'.head) : a = x ∨ a ∈ l.head := by
  unfold push at h
  split at h
  · cases h
    exact Or.inl (List.mem_singleton.mp ha)
  split at h
  · cases h
    exact mem_linkAfter seq ha
  split at h
  · cases h
    exact List.mem_cons.mp ha
  split at h
  case h_1 => cases h
  case h_2 hl =>
    cases h
    rw [hl]
    rcases List.mem_cons.mp ha with rfl | ha
    · exact Or.inr (List.mem_cons_self ..)
    · exact (mem_insertMiddle seq ha).imp_right (List.mem_cons_of_mem _)

/-- The list is strictly ordered and the end pointer points to its last object. -/
structure Ordered (l : SeqList α) : Prop where
  sorted : l.head.Pairwise fun a b => seq a < seq b
  endSeq : l.endSeq = l.head.getLast?.map seq

variable {seq} {l : SeqList α} {x : α}

theorem ordered_empty : Ordered seq (empty : SeqList α) := ⟨List.Pairwise.nil, rfl⟩

theorem linkAfter_last : ∀ {l : List α} {a : α}, (l ++ [a]).Pairwise (fun a b => seq a < seq b) →
    linkAfter seq (seq a) x (l ++ [a]) = l ++ [a, x]
  | [], a, _ => by simp [linkAfter]
  | b :: l, a, h => by
    have hb : seq b < seq a := List.rel_of_pairwise_cons h (by simp)
    simp only [List.cons_append, linkAfter, if_neg (Nat.ne_of_lt hb)]
    rw [linkAfter_last (List.Pairwise.of_cons h)]

/-- Where some object behind has a larger number, the loop inserts in order. -/
theorem insertMiddle_spec : ∀ {l : List α}, l.Pairwise (fun a b => seq a < seq b) →
    (∀ a ∈ l, seq a ≠ seq x) → (∃ a ∈ l, seq x < seq a) →
    (insertMiddle seq x l).Pairwise (fun a b => seq a < seq b) ∧
      (insertMiddle seq x l).Perm (x :: l) ∧ (insertMiddle seq x l).getLast? = l.getLast?
  | [], _, _, ⟨_, hm, _⟩ => by cases hm
  | a :: l, hs, hne, hgt => by
    unfold insertMiddle
    by_cases ha : seq a > seq x
    · rw [if_pos ha]
      refine ⟨List.pairwise_cons.mpr ⟨fun b hb => ?_, hs⟩, List.Perm.refl _, rfl⟩
      rcases List.mem_cons.mp hb with rfl | hb
      · exact ha
      · exact lt_trans ha (List.rel_of_pairwise_cons hs hb)
    · rw [if_neg ha]
      have hax : seq a < seq x := lt_of_le_of_ne (not_lt.mp ha) (hne a (by simp))
      obtain ⟨c, hc, hxc⟩ := hgt
      have hcl : c ∈ l := by
        rcases List.mem_cons.mp hc with rfl | hc
        · exact absurd hxc ha
        · exact hc
      obtain ⟨h1, h2, h3⟩ := insertMiddle_spec (List.Pairwise.of_cons hs)
        (fun b hb => hne b (List.mem_cons_of_mem _ hb)) ⟨c, hcl, hxc⟩
      refine ⟨List.pairwise_cons.mpr ⟨fun b hb => ?_, h1⟩, ?_, ?_⟩
      · rcases List.mem_cons.mp (h2.mem_iff.mp hb) with rfl | hb
        · exact hax
        · exact List.rel_of_pairwise_cons hs hb
      · exact (h2.cons a).trans (List.Perm.swap x a l)
      · rw [List.getLast?_cons, List.getLast?_cons, h3]

/-- Pushing a new number onto an ordered list keeps it ordered and adds just that object. -/
theorem Ordered.push (h : Ordered seq l) (hne : ∀ a ∈ l.head, seq a ≠ seq x) :
    ∃ l', SeqList.push seq l x = some (l', true) ∧ Ordered seq l' ∧ l'.head.Perm (x :: l.head) := by
  obtain ⟨head, e⟩ := l
  obtain ⟨hs, he⟩ := h
  simp only at hs he hne
  subst he
  rcases List.eq_nil_or_concat head with rfl | ⟨as, z, rfl⟩
  · exact ⟨_, rfl, ⟨List.pairwise_singleton .., rfl⟩, List.Perm.refl _⟩
  simp only [List.concat_eq_append] at hs hne ⊢
  have hz := hne z (by simp)
  have hlast : (as ++ [z]).getLast? = some z := by simp
  have hnil : (as ++ [z]).isEmpty = false := by simp
  unfold SeqList.push
  simp only [hlast, Option.map_some, hnil, Bool.false_and, Bool.false_eq_true, if_false,
    Option.any_some, decide_eq_true_eq, Option.getD_some, Bool.not_false, Option.isSome_some]
  by_cases h1 : seq z < seq x
  · rw [if_pos h1, linkAfter_last hs]
    refine ⟨_, rfl, ⟨?_, by simp⟩, ?_⟩
    · show (as ++ [z, x]).Pairwise _
      rw [show as ++ [z, x] = as ++ [z] ++ [x] by simp]
      refine List.pairwise_append.mpr ⟨hs, List.pairwise_singleton .., fun a ha b hb => ?_⟩
      rw [List.mem_singleton.mp hb]
      rcases List.mem_append.mp ha with ha | ha
      · exact lt_trans ((List.pairwise_append.mp hs).2.2 a ha z (by simp)) h1
      · rwa [List.mem_singleton.mp ha]
    · show (as ++ [z, x]).Perm _
      rw [show as ++ [z, x] = as ++ [z] ++ [x] by simp]
      exact List.perm_append_singleton x (as ++ [z])
  rw [if_neg h1]
  cases hh : as ++ [z] with
  | nil => simp at hh
  | cons a bs =>
    rw [hh] at hs hne hlast
    simp only [List.head?_cons, Option.any_some, decide_eq_true_eq]
    by_cases h2 : seq a > seq x
    · rw [if_pos h2]
      refine ⟨_, rfl, ⟨List.pairwise_cons.mpr ⟨fun b hb => ?_, hs⟩, ?_⟩, List.Perm.refl _⟩
      · rcases List.mem_cons.mp hb with rfl | hb
        · exact h2
        · exact lt_trans h2 (List.rel_of_pairwise_cons hs hb)
      · show some (seq z) = (x :: a :: bs).getLast?.map seq
        rw [List.getLast?_cons_cons, hlast]
        rfl
    · rw [if_neg h2]
      have hax : seq a < seq x := lt_of_le_of_ne (not_lt.mp h2) (hne a (by simp))
      have hzbs : z ∈ bs := by
        rcases List.mem_cons.mp (List.mem_of_getLast? hlast) with rfl | hz
        · exact absurd hax h1
        · exact hz
      obtain ⟨h3, h4, h5⟩ := insertMiddle_spec (x := x) (List.Pairwise.of_cons hs)
        (fun b hb => hne b (List.mem_cons_of_mem _ hb))
        ⟨z, hzbs, lt_of_le_of_ne (not_lt.mp h1) (Ne.symm hz)⟩
      refine ⟨_, rfl, ⟨List.pairwise_cons.mpr ⟨fun b hb => ?_, h3⟩, ?_⟩, ?_⟩
      · rcases List.mem_cons.mp (h4.mem_iff.mp hb) with rfl | hb
        · exact hax
        · exact List.rel_of_pairwise_cons hs hb
      · show some (seq z) = (a :: insertMiddle seq x bs).getLast?.map seq
        rw [List.getLast?_cons, h5, ← List.getLast?_cons, hlast]
        rfl
      · exact (h4.cons a).trans (List.Perm.swap x a bs)

/-- Only the numbers matter. -/
theorem Ordered.of_map_eq {l' : SeqList α} (h : Ordered seq l) (hm : l'.head.map seq = l.head.map seq)
    (he : l'.endSeq = l.endSeq) : Ordered seq l' := by
  constructor
  · have := List.pairwise_map.mpr h.sorted
    rw [← hm] at this
    exact List.pairwise_map.mp this
  · rw [he, h.endSeq, ← List.getLast?_map, ← List.getLast?_map, hm]

/-- What is left behind the first objects, with the end pointer reset when nothing is. -/
theorem Ordered.suffix {p rest : List α} {e : Option Nat} (h : Ordered seq ⟨p ++ rest, e⟩) :
    Ordered seq ⟨rest, if rest.isEmpty then none else e⟩ := by
  refine ⟨(List.pairwise_append.mp h.sorted).2.1, ?_⟩
  cases rest with
  | nil => rfl
  | cons a rest =>
    have := h.endSeq
    rw [List.getLast?_append_of_ne_nil _ (by simp)] at this
    exact this

/-! ### Lists of objects that carry more -/

section Map

variable {β : Type} (f : β → α) (seq)

def map (l : SeqList β) : SeqList α := ⟨l.head.map f, l.endSeq⟩

theorem map_linkAfter (e : Nat) (x : β) : ∀ l : List β,
    (linkAfter (fun b => seq (f b)) e x l).map f = linkAfter seq e (f x) (l.map f)
  | [] => rfl
  | b :: l => by
    simp only [linkAfter, List.map_cons]
    split_ifs
    · rfl
    · rw [List.map_cons, map_linkAfter e x l]

theorem map_insertMiddle (x : β) : ∀ l : List β,
    (insertMiddle (fun b => seq (f b)) x l).map f = insertMiddle seq (f x) (l.map f)
  | [] => rfl
  | b :: l => by
    simp only [insertMiddle, List.map_cons]
    split_ifs
    · rfl
    · rw [List.map_cons, map_insertMiddle x l]

theorem push_map (l : SeqList β) (x : β) :
    (push (fun b => seq (f b)) l x).map (fun r => (r.1.map f, r.2)) = push seq (l.map f) (f x) := by
  obtain ⟨head, e⟩ := l
  unfold push map
  cases head with
  | nil => cases e <;> simp [linkAfter]
  | cons b l =>
    simp only [List.isEmpty_cons, Bool.false_and, Bool.false_eq_true, if_false, List.map_cons, List.head?_cons,
      Option.any_some, decide_eq_true_eq]
    split_ifs
    · have hlink := map_linkAfter seq f (e.getD 0) x (b :: l)
      rw [Option.map_some, hlink]
      rfl
    · rfl
    · rw [Option.map_some, List.map_cons, map_insertMiddle seq f]

theorem ordered_map {l : SeqList β} : Ordered seq (l.map f) ↔ Ordered (fun b => seq (f b)) l := by
  have hlast : ((l.map f).head.getLast?).map seq = l.head.getLast?.map fun b => seq (f b) := by
    rw [map, List.getLast?_map, Option.map_map]
    rfl
  have hsorted : ((l.map f).head.Pairwise fun a b => seq a < seq b) ↔ l.head.Pairwise fun a b => seq (f a) < seq (f b) :=
    List.pairwise_map
  exact ⟨fun h => ⟨hsorted.mp h.sorted, h.endSeq.trans hlast⟩, fun h => ⟨hsorted.mpr h.sorted, h.endSeq.trans hlast.symm⟩⟩

end Map

theorem Ordered.eq_of_seq_eq (h : Ordered seq l) {a b : α} (ha : a ∈ l.head) (hb : b ∈ l.head)
    (hab : seq a = seq b) : a = b := by
  have hp : (l.head.map seq).Nodup := List.pairwise_map.mpr (h.sorted.imp Nat.ne_of_lt)
  exact List.inj_on_of_nodup_map hp ha hb hab

end SeqList

end KonsanNet
