import KonsanNet.Queue

/-!
# The compacting queue is FIFO

While no swap is under way the drained queue is a fresh one, and a pushed-to queue of ten blocks or
more holds an element: it was `Packed` when its swap ended, and once a quarter of its nodes or less is
in use the next operation exchanges the pointers before it takes an element. So the division in
`CompactMemory` has a divisor. `Front` leaves a finished swap alone and still reads the drained queue.
-/

namespace KonsanNet

open FifoQueueData

variable {δ : Type}

namespace CXQueue

variable {s : CXQueue δ} {q : List (Option δ)}

theorem member_set_self (i : QueueMember) (d : FifoQueueData δ) : (s.set i d).member i = d := by
  cases i <;> rfl

theorem member_set_ne {i j : QueueMember} (h : j ≠ i) (d : FifoQueueData δ) :
    (s.set i d).member j = s.member j := by
  cases i <;> cases j <;> first | rfl | exact absurd rfl h

theorem data_set_data (d : FifoQueueData δ) : (s.set s.pQueueData d).data = d :=
  member_set_self ..

theorem bak_set_bak (d : FifoQueueData δ) : (s.set s.pQueueDataBak d).bak = d :=
  member_set_self ..

theorem bak_set_data (h : s.pQueueDataBak ≠ s.pQueueData) (d : FifoQueueData δ) :
    (s.set s.pQueueData d).bak = s.bak :=
  member_set_ne h d

theorem data_set_bak (h : s.pQueueDataBak ≠ s.pQueueData) (d : FifoQueueData δ) :
    (s.set s.pQueueDataBak d).data = s.data :=
  member_set_ne h.symm d

theorem wf_set {i : QueueMember} {d : FifoQueueData δ} (h : ∀ j, (s.member j).WF) (hd : d.WF)
    (j : QueueMember) : ((s.set i d).member j).WF := by
  by_cases hj : j = i
  · subst hj
    rw [member_set_self]
    exact hd
  · rw [member_set_ne hj]
    exact h j

/-- The queue `s` stands for the list `q`. -/
structure Inv (s : CXQueue δ) (q : List (Option δ)) : Prop where
  ptr : s.pQueueDataBak ≠ s.pQueueData
  auto : s.bAutoCompactMemory = true
  wf : ∀ i, (s.member i).WF
  items : s.bak.items ++ s.data.items = q
  idle : s.isSwappingQueue = false → s.bak.dwNumberOfBlocks = 0
  large : s.isSwappingQueue = false → 10 ≤ s.data.dwNumberOfBlocks → s.data.items ≠ []
  packed : s.isSwappingQueue = true → s.data.Packed
  new : s.bInited = false →
    s.pQueueData = .first ∧ s.isSwappingQueue = false ∧ s.data.dwNumberOfBlocks = 0
  destroyed : s.destroyed = []

/-- The state an operation acts on, a swap having been begun or ended. -/
structure Settled (s : CXQueue δ) (q : List (Option δ)) : Prop extends Inv s q where
  undrained : s.isSwappingQueue = true → s.bak.items ≠ []
  two : s.isSwappingQueue = false → 10 ≤ s.data.dwNumberOfBlocks → 2 ≤ s.data.items.length

theorem Inv.construct : Inv (construct : CXQueue δ) [] where
  ptr := by simp [CXQueue.construct]
  auto := rfl
  wf := fun i => by cases i <;> exact WF.construct
  items := rfl
  idle := fun _ => rfl
  large := fun _ h => absurd h (show ¬ 10 ≤ 0 by decide)
  packed := fun _ => Packed.of_no_block rfl
  new := fun _ => ⟨rfl, rfl, rfl⟩
  destroyed := rfl

namespace Inv

theorem data_wf (h : Inv s q) : s.data.WF := h.wf _

theorem bak_wf (h : Inv s q) : s.bak.WF := h.wf _

theorem bak_nil (h : Inv s q) (hs : s.isSwappingQueue = false) : s.bak.items = [] :=
  h.bak_wf.nil (h.idle hs)

theorem data_items (h : Inv s q) (hs : s.isSwappingQueue = false) : s.data.items = q := by
  have hi := h.items
  rw [h.bak_nil hs] at hi
  exact hi

theorem contents_eq (h : Inv s q) : s.contents = q := by
  unfold contents
  cases hs : s.isSwappingQueue with
  | true => exact h.items
  | false => exact h.data_items hs

theorem init (h : Inv s q) {n : Nat} (hn : 1 ≤ n) : Inv (s.init n) q ∧ (s.init n).bInited = true := by
  unfold CXQueue.init
  cases hb : s.bInited with
  | true => exact ⟨h, hb⟩
  | false =>
    obtain ⟨hp, hs, hd⟩ := h.new hb
    obtain ⟨hw, hi⟩ := h.data_wf.init hn
    have hlt : ¬ 10 ≤ (s.data.init n).dwNumberOfBlocks := by
      have := init_blocks n hd
      omega
    have hdata : (s.set s.pQueueData (s.data.init n)).data = s.data.init n := data_set_data _
    have hbak : (s.set s.pQueueData (s.data.init n)).bak = s.bak := bak_set_data h.ptr _
    have hfirst : s.set .first (s.firstQueueData.init n) = s.set s.pQueueData (s.data.init n) := by
      unfold data
      rw [hp]
      rfl
    simp only [Bool.false_eq_true, if_false, hfirst]
    refine ⟨⟨h.ptr, h.auto, wf_set h.wf hw, ?_, fun _ => ?_, fun _ hl => ?_, fun hc => ?_, nofun,
      h.destroyed⟩, trivial⟩
    · show (s.set _ _).bak.items ++ (s.set _ _).data.items = q
      rw [hbak, hdata, hi]
      exact h.items
    · exact (congrArg _ hbak).trans (h.idle hs)
    · change 10 ≤ (s.set _ _).data.dwNumberOfBlocks at hl
      rw [hdata] at hl
      exact absurd hl hlt
    · exact absurd (hs.symm.trans hc) (by decide)

end Inv

theorem Inv.compactMemory (h : Inv s q) : ∃ s', s.compactMemory = some s' ∧ Inv s' q ∧
    s'.bInited = s.bInited ∧
    (s'.isSwappingQueue = false → 10 ≤ s'.data.dwNumberOfBlocks → 2 ≤ s'.data.items.length) := by
  unfold CXQueue.compactMemory
  cases hs : s.isSwappingQueue with
  | true => exact ⟨s, rfl, h, rfl, fun hc => absurd (hs.symm.trans hc) (by decide)⟩
  | false =>
    by_cases hb : 10 ≤ s.data.dwNumberOfBlocks ∧ s.bak.numberOfUsingNodes = 0
    · have hpos : s.data.numberOfUsingNodes ≠ 0 :=
        fun hc => h.large hs hb.1 (List.length_eq_zero_iff.mp hc)
      simp only [Bool.false_eq_true, if_false, hb, and_self, if_true, hpos]
      by_cases hq : 2 < s.data.numberOfEmptyNodes / s.data.numberOfUsingNodes
      · rw [if_pos hq]
        refine ⟨_, rfl, ⟨h.ptr.symm, h.auto, h.wf, ?_, nofun, nofun, fun _ => ?_, fun hc => ?_,
          h.destroyed⟩, rfl, nofun⟩
        · show s.data.items ++ s.bak.items = q
          rw [h.bak_nil hs, List.append_nil, h.data_items hs]
        · exact Packed.of_no_block (h.idle hs)
        · obtain ⟨-, -, hd⟩ := h.new hc
          omega
      · rw [if_neg hq]
        refine ⟨s, rfl, h, rfl, fun _ _ => ?_⟩
        -- at most three quarters of ten nodes or more are empty
        have hlt : s.data.numberOfEmptyNodes < 3 * s.data.numberOfUsingNodes :=
          (Nat.div_lt_iff_lt_mul (Nat.pos_of_ne_zero hpos)).mp (by omega)
        have hten : 10 * 1 ≤ s.data.dwNumberOfBlocks * s.data.dwInitSize :=
          Nat.mul_le_mul hb.1 h.data_wf.init_pos
        unfold numberOfEmptyNodes numberOfUsingNodes at hlt
        omega
    · have hlt : ¬ 10 ≤ s.data.dwNumberOfBlocks := by
        intro hc
        refine hb ⟨hc, ?_⟩
        unfold numberOfUsingNodes
        rw [h.bak_nil hs]
        rfl
      simp only [Bool.false_eq_true, if_false, hb]
      exact ⟨s, rfl, h, rfl, fun _ hc => absurd hc hlt⟩

theorem Inv.endSwap (h : Inv s q)
    (h2 : s.isSwappingQueue = false → 10 ≤ s.data.dwNumberOfBlocks → 2 ≤ s.data.items.length) :
    Settled s.endSwap q ∧ s.endSwap.bInited = s.bInited := by
  unfold CXQueue.endSwap
  by_cases hs : s.isSwappingQueue ∧ s.bak.numberOfUsingNodes = 0
  · rw [if_pos hs]
    have hnil : s.bak.items = [] := List.length_eq_zero_iff.mp hs.2
    have hitems : s.data.items = q := by
      have hi := h.items
      rw [hnil] at hi
      exact hi
    obtain ⟨hw, h0⟩ := h.bak_wf.destroy
    have hdata : (s.set s.pQueueDataBak s.bak.destroy).data = s.data := data_set_bak h.ptr _
    have hbak : (s.set s.pQueueDataBak s.bak.destroy).bak = s.bak.destroy := bak_set_bak _
    have hten : 10 ≤ s.data.dwNumberOfBlocks → 10 ≤ s.data.items.length :=
      Packed.ten (h.packed hs.1) h.data_wf
    refine ⟨⟨⟨h.ptr, h.auto, wf_set h.wf hw, ?_, fun _ => ?_, fun _ hl => ?_, nofun, fun hc => ?_, ?_⟩,
      nofun, fun _ hl => ?_⟩, rfl⟩
    · show (s.set _ _).bak.items ++ (s.set _ _).data.items = q
      rw [hbak, hdata, hw.nil h0, hitems]
      rfl
    · exact (congrArg _ hbak).trans h0
    · change 10 ≤ (s.set _ _).data.dwNumberOfBlocks at hl
      show (s.set _ _).data.items ≠ []
      rw [hdata] at hl ⊢
      exact List.ne_nil_of_length_pos (lt_of_lt_of_le (by decide) (hten hl))
    · exact absurd ((h.new hc).2.1.symm.trans hs.1) (by decide)
    · show s.destroyed ++ s.bak.items = []
      rw [h.destroyed, hnil]
      rfl
    · change 10 ≤ (s.set _ _).data.dwNumberOfBlocks at hl
      show 2 ≤ (s.set _ _).data.items.length
      rw [hdata] at hl ⊢
      exact le_trans (by decide) (hten hl)
  · rw [if_neg hs]
    refine ⟨⟨h, fun hsw hc => hs ⟨hsw, ?_⟩, h2⟩, rfl⟩
    unfold numberOfUsingNodes
    rw [hc]
    rfl

theorem Inv.settle (h : Inv s q) :
    ∃ s', s.settle = some s' ∧ Settled s' q ∧ s'.bInited = s.bInited := by
  obtain ⟨s', hs', h', hin, h2⟩ := h.compactMemory
  obtain ⟨hset, hin'⟩ := h'.endSwap h2
  refine ⟨s'.endSwap, ?_, hset, hin'.trans hin⟩
  unfold CXQueue.settle
  rw [h.auto, if_pos rfl, hs']
  rfl

theorem Settled.push (h : Settled s q) (hin : s.bInited = true) (d : Option δ) :
    Inv (s.set s.pQueueData (s.data.push d)) (q ++ [d]) := by
  have hdata : (s.set s.pQueueData (s.data.push d)).data = s.data.push d := data_set_data _
  have hbak : (s.set s.pQueueData (s.data.push d)).bak = s.bak := bak_set_data h.ptr _
  have hpush := push_items h.data_wf d
  refine ⟨h.ptr, h.auto, wf_set h.wf (h.data_wf.push d), ?_, fun hs => ?_, fun _ _ => ?_, fun hs => ?_,
    fun hc => absurd (hin.symm.trans hc) (by decide), h.destroyed⟩
  · rw [hbak, hdata, hpush, ← List.append_assoc, h.items]
  · rw [hbak]
    exact h.idle hs
  · rw [hdata, hpush]
    simp
  · rw [hdata]
    exact (h.packed hs).push h.data_wf d

/-- The element taken is the first of the list, whichever queue it is taken from. -/
theorem Settled.popFront (h : Settled s q) :
    Inv (s.set s.source (s.member s.source).popFront.1) q.tail ∧
      (s.member s.source).popFront.2 = q.head?.join := by
  unfold source
  cases hs : s.isSwappingQueue with
  | true =>
    simp only [if_true]
    have hbak : (s.set s.pQueueDataBak s.bak.popFront.1).bak = s.bak.popFront.1 := bak_set_bak _
    have hdata : (s.set s.pQueueDataBak s.bak.popFront.1).data = s.data := data_set_bak h.ptr _
    obtain ⟨x, xs, hx⟩ := List.exists_cons_of_ne_nil (h.undrained hs)
    have hq : q = x :: (xs ++ s.data.items) := by
      rw [← h.items, hx]
      rfl
    refine ⟨⟨h.ptr, h.auto, wf_set h.wf (h.wf _).popFront, ?_, fun hc => ?_, fun hc => ?_, fun _ => ?_,
      fun hc => ?_, h.destroyed⟩, ?_⟩
    · show (s.set s.pQueueDataBak s.bak.popFront.1).bak.items ++
        (s.set s.pQueueDataBak s.bak.popFront.1).data.items = q.tail
      rw [hbak, hdata]
      unfold FifoQueueData.popFront
      rw [hx, hq]
      rfl
    · exact absurd (hs.symm.trans hc) (by decide)
    · exact absurd (hs.symm.trans hc) (by decide)
    · show (s.set s.pQueueDataBak s.bak.popFront.1).data.Packed
      rw [hdata]
      exact h.packed hs
    · exact absurd ((h.new hc).2.1.symm.trans hs) (by decide)
    · show s.bak.items.head?.join = q.head?.join
      rw [hx, hq]
      rfl
  | false =>
    simp only [Bool.false_eq_true, if_false]
    have hdata : (s.set s.pQueueData s.data.popFront.1).data = s.data.popFront.1 := data_set_data _
    have hbak : (s.set s.pQueueData s.data.popFront.1).bak = s.bak := bak_set_data h.ptr _
    have hitems : s.data.popFront.1.items = q.tail := congrArg List.tail (h.data_items hs)
    refine ⟨⟨h.ptr, h.auto, wf_set h.wf (h.wf _).popFront, ?_, fun _ => ?_, fun _ hl => ?_, fun hc => ?_,
      fun hc => ?_, h.destroyed⟩, ?_⟩
    · show (s.set s.pQueueData s.data.popFront.1).bak.items ++
        (s.set s.pQueueData s.data.popFront.1).data.items = q.tail
      rw [hbak, hdata, h.bak_nil hs, hitems]
      rfl
    · exact (congrArg _ hbak).trans (h.idle hs)
    · change 10 ≤ (s.set s.pQueueData s.data.popFront.1).data.dwNumberOfBlocks at hl
      show (s.set s.pQueueData s.data.popFront.1).data.items ≠ []
      rw [hdata] at hl ⊢
      have h2 := h.two hs hl
      refine List.ne_nil_of_length_pos ?_
      show 0 < s.data.items.tail.length
      rw [List.length_tail]
      omega
    · exact absurd (hs.symm.trans hc) (by decide)
    · obtain ⟨hp, hsw, hd⟩ := h.new hc
      refine ⟨hp, hsw, ?_⟩
      exact (congrArg _ hdata).trans hd
    · show s.data.items.head?.join = q.head?.join
      rw [h.data_items hs]

namespace Inv

theorem push (h : Inv s q) (d : Option δ) : ∃ s', s.push d = some s' ∧ Inv s' (q ++ [d]) := by
  have h10240 : Inv (if s.bInited then s else s.init 10240) q ∧
      (if s.bInited then s else s.init 10240).bInited = true := by
    cases hb : s.bInited with
    | true => exact ⟨h, hb⟩
    | false => exact h.init (by decide)
  obtain ⟨s', hs', hset, hin⟩ := h10240.1.settle
  refine ⟨_, ?_, hset.push (hin.trans h10240.2) d⟩
  unfold CXQueue.push
  simp [hs']

theorem popFront (h : Inv s q) :
    ∃ s', s.popFront = some (s', q.head?.join) ∧ Inv s' q.tail := by
  obtain ⟨s', hs', hset, -⟩ := h.settle
  obtain ⟨hinv, hres⟩ := hset.popFront
  refine ⟨_, ?_, hinv⟩
  unfold CXQueue.popFront
  simp [hs', hres]

theorem size (h : Inv s q) : s.size = q.length := by
  have hsum : s.size = s.bak.items.length + s.data.items.length := by
    have hptr := h.ptr
    unfold CXQueue.size bak data numberOfUsingNodes
    cases hd : s.pQueueData <;> cases hb : s.pQueueDataBak
    · exact absurd (hb.trans hd.symm) hptr
    · exact Nat.add_comm _ _
    · rfl
    · exact absurd (hb.trans hd.symm) hptr
  rw [hsum, ← List.length_append, h.items]

theorem step (h : Inv s q) {op : Op δ} (hop : op ≠ .front) :
    ∃ s', s.step op = some (s', (listStep q op).2) ∧ Inv s' (listStep q op).1 := by
  cases op with
  | push d =>
    obtain ⟨s', hs', h'⟩ := h.push d
    exact ⟨s', by simp [CXQueue.step, listStep, hs'], h'⟩
  | pop =>
    obtain ⟨s', hs', h'⟩ := h.popFront
    exact ⟨s', by simp [CXQueue.step, CXQueue.pop, listStep, hs'], h'⟩
  | popFront =>
    obtain ⟨s', hs', h'⟩ := h.popFront
    exact ⟨s', by simp [CXQueue.step, listStep, hs'], h'⟩
  | front => exact absurd rfl hop
  | size => exact ⟨s, by simp [CXQueue.step, listStep, h.size], h⟩

theorem run {ops : List (Op δ)} (hops : ∀ op ∈ ops, op ≠ .front) (h : Inv s q) :
    ∃ s', s.run ops = some (s', (listRun q ops).2) ∧ Inv s' (listRun q ops).1 := by
  induction ops generalizing s q with
  | nil => exact ⟨s, rfl, h⟩
  | cons op ops ih =>
    obtain ⟨s₁, hs₁, h₁⟩ := h.step (hops op (List.mem_cons_self ..))
    obtain ⟨s', hs', h'⟩ := ih (fun o ho => hops o (List.mem_cons_of_mem _ ho)) h₁
    exact ⟨s', by simp [CXQueue.run, listRun, hs₁, hs'], h'⟩

end Inv

theorem IsNew.inv (h : IsNew s) : Inv s [] := by
  rcases h with rfl | ⟨n, hn, rfl⟩
  · exact Inv.construct
  · exact (Inv.construct.init hn).1

/-- Every run has the results of the list: nothing is lost, duplicated or reordered by a swap, no
inner queue is destroyed with an element in it, and no division by zero stops the run. -/
theorem run_eq_listRun (hs : IsNew s) (ops : List (Op δ)) (hops : ∀ op ∈ ops, op ≠ .front) :
    ∃ s', s.run ops = some (s', (listRun [] ops).2) ∧ s'.destroyed = [] ∧
      s'.contents = (listRun [] ops).1 ∧
      ∃ s'' d, s'.popFront = some (s'', d) ∧
        (d = none → (listRun [] ops).1 = [] ∨ (listRun [] ops).1.head? = some none) := by
  obtain ⟨s', hrun, h⟩ := hs.inv.run hops
  obtain ⟨s'', hpop, -⟩ := h.popFront
  refine ⟨s', hrun, h.destroyed, h.contents_eq, s'', _, hpop, ?_⟩
  intro hnone
  cases hq : (listRun [] ops).1 with
  | nil => exact Or.inl rfl
  | cons x xs =>
    rw [hq] at hnone
    exact Or.inr (congrArg some hnone)

/-- Blocks of two nodes: nineteen elements fill ten blocks, fourteen are taken, the next one is pushed to the other
queue. -/
def swapOps : List (Op Nat) :=
  List.replicate 19 (.push (some 1)) ++ List.replicate 14 .popFront ++ [.push (some 2)]

/-- The last five elements of the old queue are taken. -/
def drainedOps : List (Op Nat) := swapOps ++ List.replicate 5 .popFront

/-- A run in which a swap begins, drains the old queue with its ten blocks and ends. -/
theorem run_eq_listRun_swap :
    ((construct.init 2).run swapOps).any (fun r => r.1.isSwappingQueue && 10 ≤ r.1.bak.dwNumberOfBlocks) = true ∧
    ∃ s', (construct.init 2).run (drainedOps ++ [.popFront, .size]) =
        some (s', (listRun [] (drainedOps ++ [.popFront, .size])).2) ∧ s'.destroyed = [] ∧
      s'.contents = (listRun [] (drainedOps ++ [.popFront, .size])).1 ∧
      ∃ s'' d, s'.popFront = some (s'', d) ∧
        (d = none → (listRun [] (drainedOps ++ [.popFront, .size])).1 = [] ∨
          (listRun [] (drainedOps ++ [.popFront, .size])).1.head? = some none) :=
  ⟨by decide +kernel, run_eq_listRun (Or.inr ⟨2, by decide, rfl⟩) _ (by simp [drainedOps, swapOps])⟩

/-- A `NULL` pushed is a `NULL` popped from a queue that is not empty. -/
theorem popFront_null :
    ∃ s : CXQueue Nat, (construct.init 1).run [.push none] = some (s, [.pushed]) ∧ s.size = 1 ∧
      (s.popFront.map Prod.snd) = some none :=
  ⟨_, rfl, rfl, rfl⟩

/-- One operation of a run, its result aside. -/
def next (s : CXQueue δ) (op : Op δ) : Option (CXQueue δ) := (s.step op).map Prod.fst

theorem Inv.reachable {s₀ : CXQueue δ} (h₀ : IsNew s₀) (h : Reachable next s₀ s) :
    Inv s s.contents := by
  refine @Reachable.invariant _ _ _ _ _ (fun s => Inv s s.contents) h ?_ ?_
  · exact h₀.inv.contents_eq ▸ h₀.inv
  · intro s op s' hs hstep
    obtain ⟨⟨s₁, r⟩, hs₁, rfl⟩ := Option.map_eq_some_iff.mp hstep
    by_cases hop : op = .front
    · subst hop
      obtain ⟨rfl, -⟩ := Prod.mk.inj (Option.some.inj hs₁)
      exact hs
    · obtain ⟨s₂, hs₂, h₂⟩ := hs.step hop
      obtain ⟨rfl, -⟩ := Prod.mk.inj (Option.some.inj (hs₂.symm.trans hs₁))
      exact h₂.contents_eq.symm ▸ h₂

/-- The window between the last element taken from the old queue and the operation that ends the swap. -/
def Drained (s : CXQueue δ) : Prop := s.isSwappingQueue = true ∧ s.bak.items = [] ∧ s.data.items ≠ []

theorem Inv.front_drained (h : Inv s q) (hd : s.Drained) : s.front = none ∧ q ≠ [] := by
  obtain ⟨hs, hb, hne⟩ := hd
  constructor
  · show (s.member s.source).items.head?.join = none
    unfold source
    rw [if_pos hs]
    show s.bak.items.head?.join = none
    rw [hb]
    rfl
  · rw [← h.items, hb]
    exact hne

theorem Inv.front (h : Inv s q) (hd : ¬ s.Drained) : s.front = q.head?.join := by
  unfold CXQueue.front source FifoQueueData.front
  cases hs : s.isSwappingQueue with
  | true =>
    show s.bak.items.head?.join = q.head?.join
    rw [← h.items]
    cases hb : s.bak.items with
    | nil =>
      have hn : s.data.items = [] := by
        by_contra hn
        exact hd ⟨hs, hb, hn⟩
      rw [hn]
      rfl
    | cons x xs => rfl
  | false =>
    show s.data.items.head?.join = q.head?.join
    rw [h.data_items hs]

/-- In every reachable state `Front` shows what `PopFront` takes, and `NULL` only for an empty queue,
exactly when the first element is not itself `NULL` and no drained queue waits for its swap to end. -/
theorem front_eq_popFront_iff {s₀ : CXQueue δ} (h₀ : IsNew s₀) (h : Reachable next s₀ s) :
    ((∃ s', s.popFront = some (s', s.front)) ∧ (s.front = none → s.contents = [])) ↔
      s.contents.head? ≠ some none ∧ ¬ s.Drained := by
  have hinv := Inv.reachable h₀ h
  obtain ⟨s', hpop, -⟩ := hinv.popFront
  constructor
  · rintro ⟨⟨s'', hpop'⟩, hnull⟩
    have hfront : s.front = s.contents.head?.join :=
      (Prod.mk.inj (Option.some.inj (hpop'.symm.trans hpop))).2
    constructor
    · intro hc
      rw [hc] at hfront
      rw [hnull hfront] at hc
      cases hc
    · intro hd
      obtain ⟨hnone, hne⟩ := hinv.front_drained hd
      exact hne (hnull hnone)
  · rintro ⟨hc, hd⟩
    have hfront := hinv.front hd
    refine ⟨⟨s', by rw [hfront, hpop]⟩, ?_⟩
    intro hnone
    rw [hnone] at hfront
    cases hq : s.contents with
    | nil => rfl
    | cons x xs =>
      rw [hq] at hfront hc
      exact absurd (congrArg some hfront.symm) hc

/-- In the middle of a swap: three elements are left in the old queue, one is in the new one. -/
theorem front_eq_popFront_iff_swapping : ∃ s : CXQueue Nat, s.isSwappingQueue = true ∧
    s.contents = [some 1, some 1, some 1, some 2] ∧
    (((∃ s', s.popFront = some (s', s.front)) ∧ (s.front = none → s.contents = [])) ↔
      s.contents.head? ≠ some none ∧ ¬ s.Drained) := by
  have hrun : (runSteps next (construct.init 2) (swapOps ++ [.popFront, .popFront])).any (fun s =>
      decide (s.isSwappingQueue = true ∧ s.contents = [some 1, some 1, some 1, some 2])) = true := by
    decide +kernel
  obtain ⟨s, hs, hp⟩ := (Option.any_eq_true _ _).mp hrun
  obtain ⟨hswap, hcontents⟩ := of_decide_eq_true hp
  exact ⟨s, hswap, hcontents,
    front_eq_popFront_iff (Or.inr ⟨2, by decide, rfl⟩) (Reachable.of_runSteps hs)⟩

/-- The element `2` is queued and `Front` returns `NULL`. -/
theorem front_ne_popFront_drained :
    ∃ s, Reachable next (construct.init 2) s ∧ s.front = none ∧ s.contents = [some 2] ∧
      s.popFront.map Prod.snd = some (some 2) := by
  have hrun : (runSteps next (construct.init 2) drainedOps).any (fun s =>
      decide (s.front = none ∧ s.contents = [some 2] ∧ s.popFront.map Prod.snd = some (some 2))) =
        true := by
    decide +kernel
  obtain ⟨s, hs, hp⟩ := (Option.any_eq_true _ _).mp hrun
  exact ⟨s, Reachable.of_runSteps hs, of_decide_eq_true hp⟩

end CXQueue

end KonsanNet
