import Mathlib.Tactic
import KonsanNet.QueueList

/-!
# A block that is drained while all its nodes are in use

The nodes that are popped while the empty list is `NULL` are chained behind the last live one (`Rep`). When that one
is popped too, `m_pListHead` goes to the first node that was popped: the queue counts no element, and has the
chain of all of them (`Stale`). The next `Push` hangs its node behind the chain, and `PopFront` hands out
the first element once more.
-/

namespace KonsanNet

variable {δ : Type}

namespace CXQueueData

variable {s s' : CXQueueData δ} {q : List (Option δ)} {L P F : List NodePtr} {d : Option δ}

/-! ### The number of the nodes in use is only counted -/

def withUsing (s : CXQueueData δ) (c : UInt32) : CXQueueData δ := { s with dwNumberOfUsingNodes := c }

theorem allocateMemoryBlock_withUsing (newOk : Bool) (c : UInt32) : allocateMemoryBlock newOk (s.withUsing c) =
    (allocateMemoryBlock newOk s).map fun r => (r.1.withUsing c, r.2) := by
  unfold allocateMemoryBlock
  dsimp only [withUsing]
  split
  · rfl
  · simp only [Option.bind_eq_bind, Option.map_bind, Function.comp_def]
    refine Option.bind_congr fun m _ => Option.bind_congr fun r _ => Option.bind_congr fun m _ => ?_
    cases s.pEmptyListHead with
    | none => rfl
    | some h =>
      dsimp only
      simp only [Option.bind_some, Option.map_some, Option.map_bind, Function.comp_def]
      rfl

theorem takeEmpty_withUsing (c : UInt32) :
    takeEmpty (s.withUsing c) = (takeEmpty s).map fun r => (r.1.withUsing c, r.2) := by
  unfold takeEmpty
  dsimp only [withUsing]
  simp only [Option.bind_eq_bind, Option.map_bind, Function.comp_def]
  refine Option.bind_congr fun nd _ => ?_
  cases nd.pNext with
  | none => rfl
  | some p =>
    dsimp only
    simp only [Option.map_bind, Function.comp_def, Option.map_some]

theorem clearNode_withUsing (c : UInt32) (pObj : Option NodePtr) :
    clearNode (s.withUsing c) pObj = (clearNode s pObj).map fun r => (r.1.withUsing c, r.2) := by
  unfold clearNode
  dsimp only [withUsing]
  simp only [Option.bind_eq_bind, Option.map_bind, Function.comp_def, Option.map_some]

theorem getNode_withUsing (newOk : Bool) (c : UInt32) :
    getNode newOk (s.withUsing c) = (getNode newOk s).map fun r => (r.1.withUsing c, r.2) := by
  unfold getNode
  rw [allocateMemoryBlock_withUsing, takeEmpty_withUsing, show (s.withUsing c).bInited = s.bInited from rfl,
    show (s.withUsing c).pEmptyListHead = s.pEmptyListHead from rfl]
  split
  · rfl
  split
  · simp only [Option.bind_eq_bind, Option.map_bind, Option.bind_map, Function.comp_def, clearNode_withUsing]
  · simp only [Option.bind_eq_bind, Option.map_bind, Option.bind_map, Function.comp_def]
    refine Option.bind_congr fun r _ => ?_
    split
    · rw [takeEmpty_withUsing]
      simp only [Option.map_bind, Option.bind_map, Function.comp_def]
      refine Option.bind_congr fun r _ => ?_
      rw [show (r.1.withUsing c).pEmptyListHead = r.1.pEmptyListHead from rfl]
      split
      · rfl
      · exact clearNode_withUsing c r.2
    · rfl

/-- Where the nodes are not counted `Push` does what it does where they are. -/
theorem push_withUsing (hi : s.bInited = true) (c : UInt32) {p : NodePtr} (hget : getNode true s = some (s', some p))
    {s'' : CXQueueData δ} (hpush : push true d s = some (s'', true)) :
    push true d (s.withUsing c) = some (s''.withUsing (c + 1), true) := by
  have hlink : linkBack p d s' = some (s'', true) := by
    unfold push at hpush
    simpa [hi, hget] using hpush
  have hget' : getNode true (s.withUsing c) = some (s'.withUsing c, some p) := by
    rw [getNode_withUsing, hget]
    rfl
  have hlink' : linkBack p d (s'.withUsing c) = some (s''.withUsing (c + 1), true) := by
    unfold linkBack at hlink ⊢
    obtain ⟨m, hm, hlink⟩ := Option.bind_eq_some_iff.mp hlink
    rw [show (s'.withUsing c).mem = s'.mem from rfl, hm]
    simp only [Option.bind_eq_bind, Option.bind_some]
    rw [show (s'.withUsing c).pListEnd = s'.pListEnd from rfl]
    dsimp only at hlink ⊢
    cases he : s'.pListEnd with
    | none =>
      rw [he] at hlink
      cases hlink
      rfl
    | some e =>
      rw [he] at hlink
      obtain ⟨m₁, hm₁, hlink⟩ := Option.bind_eq_some_iff.mp hlink
      obtain ⟨m₂, hm₂, hlink⟩ := Option.bind_eq_some_iff.mp hlink
      dsimp only
      cases hlink
      rw [hm₁, Option.bind_some, hm₂]
      rfl
  unfold push
  simp only [show (s.withUsing c).bInited = true from hi, if_true, Option.bind_eq_bind, Option.bind_some, hget']
  exact hlink'

theorem freeNode_withUsing (c : UInt32) (pObj : NodePtr) :
    freeNode pObj (s.withUsing c) = (freeNode pObj s).map (·.withUsing c) := by
  unfold freeNode
  rw [show (s.withUsing c).bInited = s.bInited from rfl]
  split
  · rfl
  simp only [Option.bind_eq_bind, Option.map_bind, Function.comp_def]
  refine Option.bind_congr fun m _ => ?_
  rw [show (s.withUsing c).pEmptyListEnd = s.pEmptyListEnd from rfl]
  cases s.pEmptyListEnd with
  | none =>
    simp only [Option.map_bind, Function.comp_def, Option.map_some]
    rfl
  | some e =>
    simp only [Option.map_bind, Function.comp_def, Option.map_some]
    rfl

theorem popFront_withUsing (c : UInt32) (hh : s.pListHead ≠ none) :
    popFront (s.withUsing c) = (popFront s).map fun r => (r.1.withUsing (c - 1), r.2) := by
  obtain ⟨p, hp⟩ := Option.ne_none_iff_exists'.mp hh
  unfold popFront
  rw [show (s.withUsing c).pListHead = s.pListHead from rfl, hp]
  simp only [Option.bind_eq_bind, Option.map_bind, Function.comp_def]
  refine Option.bind_congr fun nd _ => ?_
  cases nd.pNext with
  | none =>
    simp only [Option.bind_some, Option.map_bind, Function.comp_def, Option.map_some]
    refine Option.bind_congr fun nd _ => ?_
    have hfree := freeNode_withUsing (s := { s with
      pListHead := none, pListEnd := none, dwNumberOfUsingNodes := s.dwNumberOfUsingNodes - 1 }) (c - 1) p
    rw [show ∀ u : CXQueueData δ, (freeNode p u).bind (fun a => some ((a.withUsing (c - 1), nd.pData))) =
      ((freeNode p u).map (·.withUsing (c - 1))).bind fun a => some (a, nd.pData) from fun u => by
        rw [Option.bind_map]
        rfl, ← hfree]
    rfl
  | some q =>
    simp only [Option.bind_some, Option.map_bind, Function.comp_def, Option.map_some]
    refine Option.bind_congr fun m _ => Option.bind_congr fun nd _ => ?_
    have hfree := freeNode_withUsing (s := { s with
      mem := m, pListHead := some q, dwNumberOfUsingNodes := s.dwNumberOfUsingNodes - 1 }) (c - 1) p
    rw [show ∀ u : CXQueueData δ, (freeNode p u).bind (fun a => some ((a.withUsing (c - 1), nd.pData))) =
      ((freeNode p u).map (·.withUsing (c - 1))).bind fun a => some (a, nd.pData) from fun u => by
        rw [Option.bind_map]
        rfl, ← hfree]
    rfl

/-! ### The drain -/

/-- `Init` of a new queue: one block of empty nodes. -/
theorem init_one {n : UInt32} (hn : 2 ≤ n.toNat) (hsize : SizeOk n) :
    ∃ (s : CXQueueData δ) (F : List NodePtr), init true n construct = some (s, 0) ∧ Clean s [] [] F ∧
      F.length = n.toNat ∧ s.dwNumberOfBlocks = 1 := by
  obtain ⟨s, r, hrun, ⟨-, hfail | hneg, -⟩ | ⟨rfl, F, hc, hblocks⟩⟩ :=
    (fresh_construct (δ := δ)).init true hn (Or.inr hsize)
  · cases hfail
  · rw [hsize] at hneg
    omega
  · refine ⟨s, F, hrun, hc, ?_, hblocks⟩
    have hone : s.mem.size.length = 1 := by
      rw [← hc.toNat_blocks, hblocks]
      rfl
    have hinit : s.dwInitSize = n := by
      unfold init at hrun
      rw [if_neg (by exact Bool.false_ne_true)] at hrun
      obtain ⟨⟨s₀, r₀⟩, hrun₀, hrun⟩ := Option.bind_eq_some_iff.mp hrun
      dsimp only at hrun
      cases hrun
      exact (counts_allocateMemoryBlock hrun₀).2.1
    have htotal := hc.total
    rw [List.nil_append, hone, hinit, Nat.one_mul] at htotal
    exact htotal

/-- All nodes are in use, and `j` of the elements `q` have been popped. -/
structure Draining (s : CXQueueData δ) (q : List (Option δ)) (L : List NodePtr) (j : Nat) : Prop where
  rep : Rep s (q.drop j) (L.drop j) (L.take j) []
  data : L.map s.mem.data = q

/-- No element is counted, and the chain of the live nodes is that of all nodes. -/
structure Stale (s : CXQueueData δ) (q : List (Option δ)) (L : List NodePtr) : Prop where
  noUsing : s.dwNumberOfUsingNodes = 0
  rep : Rep (s.withUsing (UInt32.ofNat q.length)) q L [] []

theorem Clean.draining (h : Clean s q L []) : Draining s q L 0 := ⟨h.toRep, h.data⟩

theorem Draining.length (h : Draining s q L j) : L.length = q.length := by
  rw [← h.data, List.length_map]

theorem Draining.popFront {j : Nat} (h : Draining s q L j) (hj : j + 1 < q.length) :
    ∃ s', CXQueueData.popFront s = some (s', (q.drop j).head?.join) ∧ Draining s' q L (j + 1) ∧
      s'.dwNumberOfBlocks = s.dwNumberOfBlocks := by
  have hlen := h.length
  have hq : q.drop j = q[j] :: q.drop (j + 1) := List.drop_eq_getElem_cons (by omega)
  have hL : L.drop j = L[j] :: L.drop (j + 1) := List.drop_eq_getElem_cons (by omega)
  have hrep := h.rep
  rw [hq, hL] at hrep
  obtain ⟨s', hrun, hr⟩ := hrep.popFront_cons fun hc => by
    have := congrArg List.length hc.1
    rw [List.length_drop, List.length_nil] at this
    omega
  obtain ⟨e, he⟩ : ∃ e, (L.drop (j + 1) ++ L.take j ++ []).getLast? = some e :=
    ⟨_, List.getLast?_eq_some_getLast (by simp; omega)⟩
  obtain ⟨m, hrun', -, hdata, -⟩ := popFront_spec hrep he
  obtain ⟨rfl, -⟩ := Prod.mk.inj (Option.some.inj (hrun.symm.trans hrun'))
  rw [if_pos rfl, if_pos rfl, List.take_append_getElem] at hr
  refine ⟨_, ?_, ⟨hr, ?_⟩, rfl⟩
  · rw [hrun, hq]
    rfl
  · show L.map m.data = q
    rw [hdata]
    exact h.data

/-- The last element goes, and `m_pListHead` finds the first node again. -/
theorem Draining.popLast {j : Nat} (h : Draining s q L j) (hj : j + 1 = q.length) :
    ∃ s', CXQueueData.popFront s = some (s', (q.drop j).head?.join) ∧ Stale s' q L ∧
      s'.dwNumberOfBlocks = s.dwNumberOfBlocks := by
  have hlen := h.length
  have hq : q.drop j = [q[j]] := by
    rw [List.drop_eq_getElem_cons (by omega), List.drop_eq_nil_of_le (by omega)]
  have hL : L.drop j = [L[j]] := by
    rw [List.drop_eq_getElem_cons (by omega), List.drop_eq_nil_of_le (by omega)]
  have htake : L.take j ++ [L[j]] = L := by rw [← hL, List.take_append_drop]
  have hrep := h.rep
  rw [hq, hL] at hrep
  set x := L[j]
  set P := L.take j
  have hP : P ≠ [] := fun hP => by
    have := hrep.two
    rw [hP] at this
    simp at this
  obtain ⟨e, he⟩ : ∃ e, ([] ++ P ++ []).getLast? = some e := ⟨_, List.getLast?_eq_some_getLast (by simpa using hP)⟩
  obtain ⟨m, hrun, hsize, hdata, hnext⟩ := popFront_spec hrep he
  obtain ⟨R, hR⟩ := List.getLast?_eq_some_iff.mp he
  rw [List.nil_append, List.append_nil] at hR
  have hx : x ∉ P := fun hm => (List.nodup_cons.mp (by simpa using hrep.nodup)).1 hm
  have hlive : Linked s.mem.next (s.mem.next x) P := hrep.live.2
  rw [← hlive.head?_eq] at hlive
  rw [hq]
  refine ⟨_, hrun, ⟨?_, ?_⟩, rfl⟩
  · exact count_pop hrep.count
  · have hmem : ∀ r, r ∈ L ++ [] ++ [] ↔ r ∈ [x] ++ P ++ [] := fun r => by
      rw [← htake]
      simp [or_comm]
    have hperm : (L ++ [] ++ []).Perm ([x] ++ P ++ []) := by
      rw [← htake]
      simp
    exact
      { inited := hrep.inited
        initSize := hrep.initSize
        sizeOk := hrep.sizeOk
        live := by
          show Linked m.next P.head? (L ++ [])
          rw [List.append_nil, ← htake, hnext, hR, List.append_assoc, List.singleton_append]
          rw [hR] at hlive hx
          exact Linked.relink (hlive.update_of_notMem hx none) hx (Function.update_self ..)
        listEnd := by
          show (if P = [] then none else s.pListEnd) = L.getLast?
          rw [if_neg hP, hrep.listEnd, ← htake]
          simp
        empty := hrep.empty
        emptyEnd := by
          show some x = (L ++ [] ++ []).getLast?
          rw [← htake]
          simp
        parked := fun hF => absurd rfl hF
        drained := fun hnil => by
          rw [hnil] at htake
          simp at htake
        nodup := hperm.nodup_iff.mpr hrep.nodup
        inBounds := fun r hr => (hrep.inBounds r ((hmem r).mp hr)).congr hsize
        two := by
          rw [hperm.length_eq]
          exact hrep.two
        data := by
          show L.map m.data = q
          rw [hdata]
          exact h.data
        count := rfl }

theorem withUsing_withUsing (c c' : UInt32) : (s.withUsing c).withUsing c' = s.withUsing c' := rfl

theorem withUsing_self {c : UInt32} (h : s.dwNumberOfUsingNodes = c) : s.withUsing c = s := by
  rw [← h]
  rfl

/-- A new block: one element is counted, and its node hangs behind the whole chain. -/
theorem Stale.push (h : Stale s q L) (d : Option δ) :
    ∃ s' p F, CXQueueData.push true d s = some (s', true) ∧ s'.dwNumberOfUsingNodes = 1 ∧
      Rep (s'.withUsing (UInt32.ofNat (q ++ [d]).length)) (q ++ [d]) (L ++ [p]) [] F ∧
      s'.dwNumberOfBlocks = s.dwNumberOfBlocks + 1 := by
  obtain ⟨s₀, p, F, hrun₀, hF, hready⟩ := h.rep.ready_of_allocate
  obtain ⟨s₁, s₂, hrun₁, hhead, hrun₂, ht⟩ := hready.take
  obtain ⟨s₃, hrun₃, hr⟩ := ht.linkBack d
  have he : (s.withUsing (UInt32.ofNat q.length)).pEmptyListHead = none := h.rep.empty
  have hne : s₁.pEmptyListHead ≠ none := by
    rw [hhead]
    simpa using hF
  have hget : getNode true (s.withUsing (UInt32.ofNat q.length)) = some (s₂, some p) := by
    unfold getNode
    simp [h.rep.inited, he, hrun₀, hrun₁, hrun₂, hne]
  have hpush : CXQueueData.push true d (s.withUsing (UInt32.ofNat q.length)) = some (s₃, true) := by
    unfold CXQueueData.push
    simp only [h.rep.inited, if_true, Option.bind_eq_bind, Option.bind_some, hget]
    exact hrun₃
  have hpush₀ := push_withUsing h.rep.inited 0 hget hpush
  rw [withUsing_withUsing, withUsing_self h.noUsing] at hpush₀
  refine ⟨_, p, F, hpush₀, rfl, ?_, ?_⟩
  · rw [withUsing_withUsing, withUsing_self hr.count]
    exact hr
  · obtain ⟨hsame₁, -⟩ := same_takeEmpty hrun₁
    obtain ⟨hsame₂, -⟩ := same_clearNode hrun₂
    obtain ⟨hsame₃, -⟩ := same_linkBack hrun₃
    have hsame := (hsame₁.trans hsame₂).trans hsame₃
    exact hsame.dwNumberOfBlocks.trans (counts_allocateMemoryBlock hrun₀).2.2.1

/-- `PopFront` takes the first of all elements again, and then there is none. -/
theorem popFront_again {c : UInt32} {L' F' : List NodePtr} {q' : List (Option δ)} (hu : s.dwNumberOfUsingNodes = 1)
    (h : Rep (s.withUsing c) (d :: q') L' [] F') (htwo : 2 ≤ L'.length) :
    ∃ s', CXQueueData.popFront s = some (s', d) ∧ s'.dwNumberOfUsingNodes = 0 := by
  obtain _ | ⟨x, L'⟩ := L'
  · exact absurd htwo (by simp)
  obtain ⟨e, he⟩ : ∃ e, (L' ++ [] ++ F').getLast? = some e :=
    ⟨_, List.getLast?_eq_some_getLast (by
      rintro hnil
      simp only [List.append_nil, List.append_eq_nil_iff] at hnil
      simp [hnil.1] at htwo)⟩
  obtain ⟨m, hrun, -⟩ := popFront_spec h he
  have hpop := popFront_withUsing (s := s.withUsing c) 1 (by rw [h.live.1]; nofun)
  rw [withUsing_withUsing, withUsing_self hu, hrun] at hpop
  exact ⟨_, hpop, rfl⟩

end CXQueueData

/-! ### A queue with few blocks does not swap -/

namespace NodeQueue

open CXQueueData (Clean Draining Stale Rep)

variable {d d' : CXQueueData δ} {n : UInt32} {x : Option δ}

/-- A queue after `Init`, as long as all is in its first inner queue. -/
def single (n : UInt32) (d : CXQueueData δ) : NodeQueue δ :=
  { construct with firstQueueData := d, bInited := true, dwInitSize := n }

theorem init_construct (h : CXQueueData.init true n CXQueueData.construct = some (d, 0)) :
    (construct : NodeQueue δ).init true n = some (single n d, 0) := by
  unfold init
  rw [if_neg (by exact Bool.false_ne_true),
    show (construct : NodeQueue δ).firstQueueData = CXQueueData.construct from rfl, h]
  rfl

theorem settle_single (h : d.dwNumberOfBlocks < 10) : (single n d).settle = some (single n d) := by
  have hblocks : ¬ (10 ≤ (single n d).data.dwNumberOfBlocks ∧ (single n d).bak.dwNumberOfUsingNodes = 0) := fun hb =>
    UInt32.not_lt.mpr hb.1 h
  have hcompact : (single n d).compactMemory = some (single n d) := by
    unfold compactMemory
    rw [if_neg (by exact Bool.false_ne_true), if_neg hblocks]
  unfold settle
  rw [if_pos (by rfl), hcompact, Option.map_some]
  unfold endSwap
  rw [if_neg fun hs => Bool.false_ne_true hs.1]

theorem push_single (h : d.dwNumberOfBlocks < 10) {newOk ok : Bool} (hpush : d.push newOk x = some (d', ok)) :
    (single n d).push newOk x = some (single n d', ok) := by
  unfold push
  rw [if_pos (by rfl)]
  unfold pushInited
  rw [settle_single h, Option.bind_some, show (single n d).data = d from rfl, hpush]
  rfl

/-- The first `Push` of a new queue does `Init()`. -/
theorem push_construct (h : CXQueueData.init true 10240 CXQueueData.construct = some (d, 0)) :
    (construct : NodeQueue δ).push true x = (single 10240 d).push true x := by
  unfold push
  rw [if_neg (by exact Bool.false_ne_true), init_construct h, if_pos (by rfl)]
  rfl

theorem popFront_single (h : d.dwNumberOfBlocks < 10) (hpop : d.popFront = some (d', x)) :
    (single n d).popFront = some (single n d', x) := by
  unfold popFront
  rw [settle_single h, Option.bind_some, show (single n d).member (single n d).source = d from rfl, hpop]
  rfl

theorem size_single : (single n d).size = d.size := by
  show d.size + (CXQueueData.construct : CXQueueData δ).size = d.size
  rw [size_eq_zero CXQueueData.fresh_construct.holds, Int.add_zero]

/-! With an empty node the operations do what they do to the list, and meet their conditions. -/

variable {q : List (Option δ)} {L F : List NodePtr} {p : NodePtr}

theorem push_single_free (h : Clean d q L (p :: F)) (hb : d.dwNumberOfBlocks < 10) (x : Option δ) :
    ∃ d', (single n d).push true x = some (single n d', true) ∧ Clean d' (q ++ [x]) (L ++ [p]) F ∧
      d'.dwNumberOfBlocks = d.dwNumberOfBlocks := by
  obtain ⟨d', hrun, hc, hsame⟩ := h.push_free true x
  exact ⟨d', push_single hb hrun, hc, hsame.dwNumberOfBlocks⟩

theorem popFront_single_free {y : NodePtr} (h : Clean d (x :: q) (y :: L) F) (hF : F ≠ [])
    (hb : d.dwNumberOfBlocks < 10) :
    ∃ d', (single n d).popFront = some (single n d', x) ∧ Clean d' q L (F ++ [y]) ∧
      d'.dwNumberOfBlocks = d.dwNumberOfBlocks := by
  obtain ⟨d', hrun, hc, hsame⟩ := h.popFront hF
  exact ⟨d', popFront_single hb hrun, hc, hsame.dwNumberOfBlocks⟩

theorem size_single_clean (h : Clean d q L F) (hlt : q.length < 2 ^ 31) : (single n d).size = q.length := by
  rw [size_single, size_of_holds (Or.inr ⟨L, F, h⟩) hlt]

theorem pushOk_single (h : Clean d q L (p :: F)) (hlt : q.length + 1 < 2 ^ 31) : (single n d).PushOk true := by
  refine ⟨rfl, ?_, fun _ he => ?_⟩
  · rw [size_single_clean h (by omega)]
    exact_mod_cast hlt
  · exact absurd (h.emptyHead.mp he) (List.cons_ne_nil _ _)

theorem popOk_single (h : Clean d q L F) (hF : F ≠ []) : (single n d).PopOk :=
  .inr (.inr fun he => hF (h.emptyHead.mp he))

theorem size_construct : (construct : NodeQueue δ).size = 0 := stands_construct.size

/-- The elements `q` are in the one block that the first `Push` makes. -/
def OneBlock (s : NodeQueue δ) (q : List (Option δ)) : Prop :=
  s = construct ∧ q = [] ∨
    ∃ d L F, s = single 10240 d ∧ Clean d q L F ∧ q.length + F.length = 10240 ∧ d.dwNumberOfBlocks = 1

namespace OneBlock

variable {s : NodeQueue δ}

theorem size (h : OneBlock s q) : s.size = q.length := by
  rcases h with ⟨rfl, rfl⟩ | ⟨d, L, F, rfl, hc, hF, -⟩
  · exact size_construct
  · exact size_single_clean hc (by omega)

theorem push (h : OneBlock s q) (hlt : q.length < 10240) (x : Option δ) :
    ∃ s', s.PushOk true ∧ s.push true x = some (s', true) ∧ OneBlock s' (q ++ [x]) := by
  rcases h with ⟨rfl, rfl⟩ | ⟨d, L, F, rfl, hc, hF, hblocks⟩
  · obtain ⟨d, F, hrun, hc, hF, hblocks⟩ := CXQueueData.init_one (δ := δ) (n := 10240) (by decide)
      (sizeOk_of_lt (by decide))
    obtain ⟨p, F, rfl⟩ := List.exists_cons_of_length_pos (l := F) (by rw [hF]; decide)
    obtain ⟨d', hpush, hc', hblocks'⟩ := push_single_free (n := 10240) hc (by rw [hblocks]; decide) x
    refine ⟨.single 10240 d', ⟨rfl, by rw [size_construct]; decide, fun hi => by cases hi⟩,
      (push_construct hrun).trans hpush, .inr ⟨d', [] ++ [p], F, rfl, hc', ?_, hblocks'.trans hblocks⟩⟩
    have hlen : (p :: F).length = 10240 := hF
    rw [List.length_cons] at hlen
    simp
    omega
  · obtain ⟨p, F, rfl⟩ := List.exists_cons_of_length_pos (l := F) (by omega)
    obtain ⟨d', hpush, hc', hblocks'⟩ := push_single_free (n := 10240) hc (by rw [hblocks]; decide) x
    refine ⟨.single 10240 d', pushOk_single hc (by omega), hpush,
      .inr ⟨d', L ++ [p], F, rfl, hc', ?_, hblocks'.trans hblocks⟩⟩
    rw [List.length_cons] at hF
    rw [List.length_append, List.length_singleton]
    omega

theorem popFront (h : OneBlock s (x :: q)) (hlt : (x :: q).length < 10240) :
    ∃ s', s.PopOk ∧ 0 < s.size ∧ s.popFront = some (s', x) ∧ OneBlock s' q := by
  rcases h with ⟨-, hnil⟩ | ⟨d, L, F, rfl, hc, hF, hblocks⟩
  · cases hnil
  have hne : F ≠ [] := by
    rintro rfl
    rw [List.length_nil] at hF
    omega
  obtain ⟨y, L, rfl⟩ := List.exists_cons_of_length_pos (l := L) (by rw [hc.length_live]; simp)
  obtain ⟨d', hpop, hc', hblocks'⟩ := popFront_single_free (n := 10240) hc hne (by rw [hblocks]; decide)
  refine ⟨.single 10240 d', popOk_single hc hne, ?_, hpop,
    .inr ⟨d', L, F ++ [y], rfl, hc', ?_, hblocks'.trans hblocks⟩⟩
  · rw [size_single_clean hc (by omega), List.length_cons]
    omega
  · rw [List.length_cons] at hF
    rw [List.length_append, List.length_singleton]
    omega

end OneBlock

end NodeQueue

end KonsanNet
