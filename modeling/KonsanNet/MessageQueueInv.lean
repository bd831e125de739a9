import Mathlib.Tactic
import Mathlib.Data.List.ReduceOption
import KonsanNet.MessageQueue

/-!
# The message queue is one list (`CXMessageQueue`)

The lock is busy just while one thread is in its section (`Locked`); so what a thread has read of the queue is still
there when it writes (`Copied`), and the writes are operations on one list (`Atomic`). `atomically` has this for every
order of steps.
-/

namespace KonsanNet

namespace CXMessageQueue

variable {ι δ : Type}

/-! ### The list -/

theorem taken_append (log log' : List (QueueEntry ι δ)) : taken (log ++ log') = taken log ++ taken log' :=
  List.filterMap_append

theorem sent_append (log log' : List (QueueEntry ι δ)) : sent (log ++ log') = sent log ++ sent log' :=
  List.filterMap_append

theorem Atomic.order {log : List (QueueEntry ι δ)} {q : List (Option δ)} (h : Atomic log q) :
    taken log ++ q.reduceOption = sent log := by
  induction h with
  | nil => rfl
  | @push log q h t pMes ih =>
    rw [taken_append, sent_append, ← ih, List.reduceOption_append]
    cases pMes <;> simp [taken, sent, List.reduceOption]
  | @get log q h t ih =>
    rw [taken_append, sent_append, ← ih]
    cases q with
    | nil => simp [taken, sent, List.reduceOption]
    | cons x q => cases x <;> simp [taken, sent, List.reduceOption]

theorem operate_push {queue queue' : NodeQueue δ} {pMes : Option δ} {newOk ok : Bool}
    (h : queue.push newOk pMes = some (queue', ok)) :
    operate newOk (.pushMessage pMes) queue = some (queue', none) := by
  unfold operate
  dsimp only
  rw [h]
  rfl

theorem operate_get {queue queue' : NodeQueue δ} {ret : Option δ} {newOk : Bool} (hpos : 0 < queue.size)
    (h : queue.popFront = some (queue', ret)) : operate newOk .getMessage queue = some (queue', ret) := by
  unfold operate
  dsimp only
  rw [if_pos hpos, h]

theorem operate_empty {queue : NodeQueue δ} {newOk : Bool} (hsize : queue.size = 0) :
    operate newOk .getMessage queue = some (queue, none) := by
  unfold operate
  dsimp only
  rw [hsize, if_neg (lt_irrefl 0)]

theorem operate_spec {queue : NodeQueue δ} {q : List (Option δ)} {log : List (QueueEntry ι δ)} {newOk : Bool}
    {c : QueueCall δ} (h : queue.Stands q) (hok : CallOk newOk queue c) (hlog : Atomic log q) (t : ι) :
    ∃ queue' ret q', operate newOk c queue = some (queue', ret) ∧ queue'.Stands q' ∧
      Atomic (log ++ [⟨t, c, ret⟩]) q' := by
  cases c with
  | pushMessage pMes =>
    obtain ⟨queue', hpush, h'⟩ := h.push hok pMes
    exact ⟨queue', none, q ++ [pMes], operate_push hpush, h', hlog.push t pMes⟩
  | getMessage =>
    have hsize := h.size
    cases q with
    | nil => exact ⟨queue, none, [], operate_empty hsize, h, hlog.get t⟩
    | cons x q =>
      have hpos : 0 < queue.size := by
        rw [hsize]
        exact Int.natCast_pos.mpr (Nat.succ_pos _)
      obtain ⟨queue', hpop, h'⟩ := h.popFront (hok hpos)
      exact ⟨queue', _, q, operate_get hpos hpop, h', hlog.get t⟩

theorem ne_write {p : QueuePc δ} (h : p.isWrite = false) (c : QueueCall δ) (queue : NodeQueue δ) :
    p ≠ .write c queue := by
  rintro rfl
  exact Bool.false_ne_true h.symm

theorem afterWrite_spec {c : QueueCall δ} {queue queue' : NodeQueue δ} {ret : Option δ} {newOk : Bool}
    (h : operate newOk c queue = some (queue', ret)) (t : ι) :
    (afterWrite c ret).holds = true ∧ (afterWrite c ret).counted = true ∧
      (afterWrite c ret).pending t = [⟨t, c, ret⟩] ∧ (afterWrite c ret).isWrite = false := by
  cases c with
  | pushMessage pMes =>
    obtain ⟨_, -, hret⟩ := Option.map_eq_some_iff.mp h
    cases hret
    exact ⟨rfl, rfl, rfl, rfl⟩
  | getMessage => exact ⟨rfl, rfl, rfl, rfl⟩

/-! ### Changes of one thread -/

variable [DecidableEq ι] {s s' : CXMessageQueue ι δ} {t u : ι} {p : QueuePc δ}

theorem pc_ne (hpc : s'.pc = Function.update s.pc t p) (h : u ≠ t) : s'.pc u = s.pc u := by
  rw [hpc, Function.update_of_ne h]

theorem pc_self (hpc : s'.pc = Function.update s.pc t p) : s'.pc t = p := by
  rw [hpc, Function.update_self]

theorem pc_agree {α : Type} {f : QueuePc δ → α} (hpc : s'.pc = Function.update s.pc t p) (hp : f p = f (s.pc t))
    (u : ι) : f (s'.pc u) = f (s.pc u) := by
  by_cases h : u = t
  · rw [h, pc_self hpc, hp]
  · rw [pc_ne hpc h]

/-! ### The lock -/

structure Locked (s : CXMessageQueue ι δ) : Prop where
  busy : s.m_lock = true ↔ ∃ t, (s.pc t).holds = true
  one : ∀ t t', (s.pc t).holds = true → (s.pc t').holds = true → t = t'

theorem Locked.keep (h : Locked s) (hpc : s'.pc = Function.update s.pc t p) (hlock : s'.m_lock = s.m_lock)
    (hp : p.holds = (s.pc t).holds) : Locked s' := by
  have hagree := pc_agree (f := QueuePc.holds) hpc hp
  refine ⟨?_, fun u u' => ?_⟩
  · rw [hlock, h.busy]
    exact exists_congr fun u => by rw [hagree]
  · rw [hagree, hagree]
    exact h.one u u'

theorem Locked.take (h : Locked s) (hpc : s'.pc = Function.update s.pc t p) (hfree : s.m_lock = false)
    (hlock : s'.m_lock = true) (hp : p.holds = true) : Locked s' := by
  have hnone : ∀ u, (s.pc u).holds ≠ true := fun u hu => by
    rw [h.busy.mpr ⟨u, hu⟩] at hfree
    cases hfree
  have honly : ∀ u, (s'.pc u).holds = true → u = t := fun u hu => by
    by_contra hne
    rw [pc_ne hpc hne] at hu
    exact hnone u hu
  refine ⟨iff_of_true hlock ⟨t, ?_⟩, fun u u' hu hu' => (honly u hu).trans (honly u' hu').symm⟩
  rw [pc_self hpc]
  exact hp

theorem Locked.free (h : Locked s) (hpc : s'.pc = Function.update s.pc t p) (ht : (s.pc t).holds = true)
    (hlock : s'.m_lock = false) (hp : p.holds = false) : Locked s' := by
  have hnone : ∀ u, (s'.pc u).holds ≠ true := fun u hu => by
    by_cases hne : u = t
    · rw [hne, pc_self hpc, hp] at hu
      cases hu
    · rw [pc_ne hpc hne] at hu
      exact hne (h.one u t hu ht)
  refine ⟨iff_of_false (by simp [hlock]) fun ⟨u, hu⟩ => hnone u hu, fun u u' hu => absurd hu (hnone u)⟩

/-! ### What was read -/

def Copied (s : CXMessageQueue ι δ) : Prop := ∀ t c queue, s.pc t = .write c queue → queue = s.m_queue

theorem Copied.keep (h : Copied s) (hpc : s'.pc = Function.update s.pc t p) (hq : s'.m_queue = s.m_queue)
    (hp : p.isWrite = true → ∃ c, p = .write c s.m_queue) : Copied s' := by
  intro u c queue hu
  rw [hq]
  by_cases hne : u = t
  · rw [hne, pc_self hpc] at hu
    obtain ⟨c', hc⟩ := hp (by rw [hu]; rfl)
    exact (QueuePc.write.inj (hu.symm.trans hc)).2
  · rw [pc_ne hpc hne] at hu
    exact h u c queue hu

theorem Copied.write (hlocked : Locked s) (hpc : s'.pc = Function.update s.pc t p) (ht : (s.pc t).holds = true)
    (hp : p.isWrite = false) : Copied s' := by
  intro u c queue hu
  by_cases hne : u = t
  · rw [hne, pc_self hpc] at hu
    exact absurd hu (ne_write hp c queue)
  · rw [pc_ne hpc hne] at hu
    exact absurd (hlocked.one u t (by rw [hu]; rfl) ht) hne

/-! ### What is returned -/

def Own (s : CXMessageQueue ι δ) : Prop :=
  ∀ t, s.log.filter (·.thread = t) = s.returned.filter (·.thread = t) ++ (s.pc t).pending t

theorem Own.keep (h : Own s) (hpc : s'.pc = Function.update s.pc t p) (hlog : s'.log = s.log)
    (hret : s'.returned = s.returned) (hp : p.pending t = (s.pc t).pending t) : Own s' := by
  intro u
  rw [hlog, hret, h u]
  by_cases hne : u = t
  · rw [hne, pc_self hpc, hp]
  · rw [pc_ne hpc hne]

theorem Own.write {c : QueueCall δ} {ret : Option δ} (h : Own s) (hpc : s'.pc = Function.update s.pc t p)
    (hlog : s'.log = s.log ++ [⟨t, c, ret⟩]) (hret : s'.returned = s.returned) (ht : (s.pc t).pending t = [])
    (hp : p.pending t = [⟨t, c, ret⟩]) : Own s' := by
  intro u
  rw [hlog, hret, List.filter_append, h u]
  by_cases hne : u = t
  · rw [hne, pc_self hpc, hp, ht]
    simp
  · rw [pc_ne hpc hne]
    simp [Ne.symm hne]

theorem Own.ret {c : QueueCall δ} {ret : Option δ} (h : Own s) (hpc : s'.pc = Function.update s.pc t p)
    (hlog : s'.log = s.log) (hret : s'.returned = s.returned ++ [⟨t, c, ret⟩])
    (ht : (s.pc t).pending t = [⟨t, c, ret⟩]) (hp : p.pending t = []) : Own s' := by
  intro u
  rw [hlog, hret, List.filter_append, h u]
  by_cases hne : u = t
  · rw [hne, pc_self hpc, hp, ht]
    simp
  · rw [pc_ne hpc hne]
    simp [Ne.symm hne]

/-! ### The reference count -/

section

variable [Fintype ι]

def refs (s : CXMessageQueue ι δ) : Finset ι := Finset.univ.filter fun t => (s.pc t).counted = true

/-- `m_lLockRefNum` is their number. -/
def Counted (s : CXMessageQueue ι δ) : Prop := s.m_lLockRefNum = (refs s).card

theorem Counted.keep (h : Counted s) (hpc : s'.pc = Function.update s.pc t p)
    (hcount : s'.m_lLockRefNum = s.m_lLockRefNum) (hp : p.counted = (s.pc t).counted) : Counted s' := by
  have hrefs : refs s' = refs s :=
    Finset.filter_congr fun u _ => by rw [pc_agree (f := QueuePc.counted) hpc hp]
  rw [Counted, hcount, hrefs]
  exact h

theorem Counted.add (h : Counted s) (hpc : s'.pc = Function.update s.pc t p)
    (hcount : s'.m_lLockRefNum = s.m_lLockRefNum + 1) (ht : (s.pc t).counted = false) (hp : p.counted = true) :
    Counted s' := by
  have hmem : t ∉ refs s := by simp [refs, ht]
  have hrefs : refs s' = insert t (refs s) := by
    ext u
    by_cases hne : u = t
    · subst hne
      simp [refs, pc_self hpc, hp]
    · simp [refs, pc_ne hpc hne, hne]
  rw [Counted, hcount, hrefs, Finset.card_insert_of_notMem hmem, h, Nat.cast_add_one]

theorem Counted.sub (h : Counted s) (hpc : s'.pc = Function.update s.pc t p)
    (hcount : s'.m_lLockRefNum = s.m_lLockRefNum - 1) (ht : (s.pc t).counted = true) (hp : p.counted = false) :
    Counted s' := by
  have hmem : t ∉ refs s' := by simp [refs, pc_self hpc, hp]
  have hrefs : refs s = insert t (refs s') := by
    ext u
    by_cases hne : u = t
    · subst hne
      simp [refs, ht]
    · simp [refs, pc_ne hpc hne, hne]
  rw [Counted, hcount, h, hrefs, Finset.card_insert_of_notMem hmem, Nat.cast_add_one, add_sub_cancel_right]

end

/-! ### The steps -/

structure Inv [Fintype ι] (s : CXMessageQueue ι δ) : Prop where
  locked : Locked s
  copied : Copied s
  fifo : ∃ q, s.m_queue.Stands q ∧ Atomic s.log q
  own : Own s
  counted : Counted s

variable [Fintype ι]

theorem Inv.setPc {p₀ : QueuePc δ} (h : Inv s) (hpc : s.pc t = p₀) (hholds : p.holds = p₀.holds)
    (hcounted : p.counted = p₀.counted) (hpending : p.pending t = p₀.pending t)
    (hp : p.isWrite = true → ∃ c, p = .write c s.m_queue) : Inv (s.setPc t p) := by
  subst hpc
  exact ⟨h.locked.keep rfl rfl hholds, h.copied.keep rfl rfl hp, h.fifo, h.own.keep rfl rfl rfl hpending,
    h.counted.keep rfl rfl hcounted⟩

theorem Inv.call {c : QueueCall δ} (h : Inv s) (hs : s.call t c = some s') : Inv s' := by
  unfold CXMessageQueue.call at hs
  split at hs
  · rename_i hpc
    cases hs
    exact h.setPc hpc rfl rfl rfl Bool.noConfusion
  · rename_i hpc
    cases hs
    exact h.setPc hpc rfl rfl rfl Bool.noConfusion
  · cases hs

theorem Inv.wait (h : Inv s) (hs : s.wait t = some s') : Inv s' := by
  unfold CXMessageQueue.wait at hs
  split at hs
  · cases hs
    exact ⟨⟨h.locked.busy, h.locked.one⟩, h.copied, h.fifo, h.own, h.counted⟩
  · cases hs

theorem Inv.exchange_lock {c : QueueCall δ} (h : Inv s) (hpc : s.pc t = .exchange c) :
    Inv { s.setPc t (if s.m_lock then .spin c else .addRef c) with m_lock := true } := by
  cases hlock : s.m_lock with
  | true =>
    exact ⟨h.locked.keep (t := t) rfl hlock.symm (by rw [hpc]; rfl),
      h.copied.keep (t := t) rfl rfl Bool.noConfusion, h.fifo,
      h.own.keep (t := t) rfl rfl rfl (by rw [hpc]; rfl), h.counted.keep (t := t) rfl rfl (by rw [hpc]; rfl)⟩
  | false =>
    exact ⟨h.locked.take (t := t) rfl hlock rfl rfl, h.copied.keep (t := t) rfl rfl Bool.noConfusion, h.fifo,
      h.own.keep (t := t) rfl rfl rfl (by rw [hpc]; rfl), h.counted.keep (t := t) rfl rfl (by rw [hpc]; rfl)⟩

omit [Fintype ι] in
theorem go_write {c : QueueCall δ} {queue : NodeQueue δ} {newOk : Bool} {r : NodeQueue δ × Option δ}
    (hpc : s.pc t = .write c queue) (hop : operate newOk c queue = some r) :
    s.go t newOk = some (s.written t c r) := by
  unfold CXMessageQueue.go
  rw [hpc]
  dsimp only
  rw [hop]
  rfl

omit [Fintype ι] in
theorem go_secondSize {i : Int} (newOk : Bool) (hpc : s.pc t = .secondSize i)
    (hpos : 0 < i + s.m_queue.secondQueueData.size) :
    s.go t newOk = some (s.setPc t (.exchange .getMessage)) := by
  unfold CXMessageQueue.go
  rw [hpc]
  dsimp only
  rw [if_pos hpos]

theorem Inv.write {c : QueueCall δ} {queue : NodeQueue δ} {newOk : Bool} (h : Inv s) (hpc : s.pc t = .write c queue)
    (hok : CallOk newOk queue c) : ∃ r, operate newOk c queue = some r ∧ Inv (s.written t c r) := by
  obtain rfl := h.copied t c queue hpc
  obtain ⟨q, hq, hlog⟩ := h.fifo
  obtain ⟨queue', ret, q', hop, hq', hlog'⟩ := operate_spec hq hok hlog t
  obtain ⟨hholds, hcounted, hpending, hne⟩ := afterWrite_spec hop t
  exact ⟨(queue', ret), hop, h.locked.keep (t := t) rfl rfl (by rw [hpc]; exact hholds),
    Copied.write (t := t) h.locked rfl (by rw [hpc]; rfl) hne, ⟨q', hq', hlog'⟩,
    h.own.write (t := t) rfl rfl rfl (by rw [hpc]; rfl) hpending,
    h.counted.keep (t := t) rfl rfl (by rw [hpc]; exact hcounted)⟩

theorem Inv.go {newOk : Bool} (h : Inv s) (hok : WriteOk newOk (s.pc t)) (hs : s.go t newOk = some s') : Inv s' := by
  unfold CXMessageQueue.go at hs
  cases hpc : s.pc t with
  | idle =>
    rw [hpc] at hs
    cases hs
  | firstSize =>
    rw [hpc] at hs
    cases hs
    exact h.setPc hpc rfl rfl rfl Bool.noConfusion
  | secondSize iFirst =>
    rw [hpc] at hs
    dsimp only at hs
    split at hs
    · cases hs
      exact h.setPc hpc rfl rfl rfl Bool.noConfusion
    · cases hs
      exact h.setPc hpc rfl rfl rfl Bool.noConfusion
  | exchange c =>
    rw [hpc] at hs
    cases hs
    exact h.exchange_lock hpc
  | spin c =>
    rw [hpc] at hs
    cases hs
    cases s.m_lock with
    | true => exact h.setPc hpc rfl rfl rfl Bool.noConfusion
    | false => exact h.setPc hpc rfl rfl rfl Bool.noConfusion
  | addRef c =>
    rw [hpc] at hs
    cases hs
    exact ⟨h.locked.keep (t := t) rfl rfl (by rw [hpc]; rfl), h.copied.keep (t := t) rfl rfl Bool.noConfusion, h.fifo,
      h.own.keep (t := t) rfl rfl rfl (by rw [hpc]; rfl), h.counted.add (t := t) rfl rfl (by rw [hpc]; rfl) rfl⟩
  | read c =>
    rw [hpc] at hs
    cases hs
    exact h.setPc hpc rfl rfl rfl fun _ => ⟨c, rfl⟩
  | write c queue =>
    rw [hpc] at hok
    obtain ⟨r, hop, h'⟩ := h.write hpc hok
    rw [hpc] at hs
    dsimp only at hs
    rw [hop] at hs
    cases hs
    exact h'
  | setEvent pMes =>
    rw [hpc] at hs
    cases hs
    obtain ⟨hlocked, hcopied, hfifo, hown, hcounted⟩ :=
      h.setPc (p := .unlock (.pushMessage pMes) none) hpc rfl rfl rfl Bool.noConfusion
    exact ⟨⟨hlocked.busy, hlocked.one⟩, hcopied, hfifo, hown, hcounted⟩
  | unlock c ret =>
    rw [hpc] at hs
    cases hs
    exact ⟨h.locked.free (t := t) rfl (by rw [hpc]; rfl) rfl rfl,
      h.copied.keep (t := t) rfl rfl Bool.noConfusion, h.fifo,
      h.own.keep (t := t) rfl rfl rfl (by rw [hpc]; rfl), h.counted.keep (t := t) rfl rfl (by rw [hpc]; rfl)⟩
  | subRef c ret =>
    rw [hpc] at hs
    cases hs
    exact ⟨h.locked.keep (t := t) rfl rfl (by rw [hpc]; rfl), h.copied.keep (t := t) rfl rfl Bool.noConfusion, h.fifo,
      h.own.ret (t := t) rfl rfl rfl (by rw [hpc]; rfl) rfl, h.counted.sub (t := t) rfl rfl (by rw [hpc]; rfl) rfl⟩

theorem Inv.step {a : Act ι δ} (h : Inv s) (hok : StepOk s a) (hs : s.step a = some s') : Inv s' := by
  cases a with
  | call t c => exact h.call hs
  | wait t => exact h.wait hs
  | go t newOk => exact h.go hok hs

theorem inv_construct : Inv (construct : CXMessageQueue ι δ) where
  locked := ⟨iff_of_false Bool.false_ne_true fun ⟨_, h⟩ => Bool.false_ne_true h,
    fun _ _ h => absurd h Bool.false_ne_true⟩
  copied := fun _ c queue h => absurd h (ne_write rfl c queue)
  fifo := ⟨[], NodeQueue.stands_construct, .nil⟩
  own := fun _ => rfl
  counted := by simp [Counted, refs, construct, QueuePc.counted]

theorem inv_of_reachable (h : Reachable (guarded StepOk step) construct s) : Inv s :=
  h.invariant inv_construct fun _ _ _ hi hs => hi.step (guarded_eq_some.mp hs).1 (guarded_eq_some.mp hs).2

/-! ### The section ends -/

/-- The next step of the thread in the section: it is possible, and one nearer to the end. -/
theorem Inv.holder (h : Inv s) (ht : (s.pc t).holds = true) (hready : Ready s.m_queue (s.pc t)) :
    ∃ s', guarded StepOk CXMessageQueue.step s (.go t true) = some s' ∧ Inv s' ∧
      ((s.pc t).left = 1 ∧ s'.m_lock = false ∨
        (s'.pc t).holds = true ∧ (s'.pc t).left + 1 = (s.pc t).left ∧ Ready s'.m_queue (s'.pc t)) := by
  have hok : StepOk s (.go t true) := by
    show WriteOk true (s.pc t)
    cases hpc : s.pc t with
    | write c queue =>
      rw [hpc] at hready
      exact hready
    | _ => trivial
  have hgo : ∀ {s'}, s.go t true = some s' → guarded StepOk CXMessageQueue.step s (.go t true) = some s' ∧ Inv s' :=
    fun hs => ⟨guarded_eq_some.mpr ⟨hok, hs⟩, h.go hok hs⟩
  cases hpc : s.pc t with
  | addRef c =>
    have hs : s.go t true = some { s.setPc t (.read c) with m_lLockRefNum := s.m_lLockRefNum + 1 } := by
      unfold CXMessageQueue.go
      rw [hpc]
    rw [hpc] at hready
    refine ⟨_, (hgo hs).1, (hgo hs).2, .inr ?_⟩
    rw [pc_self (s := s) rfl]
    exact ⟨rfl, rfl, hready⟩
  | read c =>
    have hs : s.go t true = some (s.setPc t (.write c s.m_queue)) := by
      unfold CXMessageQueue.go
      rw [hpc]
    rw [hpc] at hready
    refine ⟨_, (hgo hs).1, (hgo hs).2, .inr ?_⟩
    rw [pc_self (s := s) rfl]
    exact ⟨rfl, rfl, hready⟩
  | write c queue =>
    rw [hpc] at hready
    obtain ⟨r, hop, -⟩ := h.write hpc hready
    have hs := go_write hpc hop
    refine ⟨_, (hgo hs).1, (hgo hs).2, .inr ?_⟩
    rw [pc_self (s := s) rfl]
    cases c with
    | pushMessage pMes => exact ⟨rfl, rfl, trivial⟩
    | getMessage => exact ⟨rfl, rfl, trivial⟩
  | setEvent pMes =>
    have hs : s.go t true = some { s.setPc t (.unlock (.pushMessage pMes) none) with m_event := s.m_event + 1 } := by
      unfold CXMessageQueue.go
      rw [hpc]
    refine ⟨_, (hgo hs).1, (hgo hs).2, .inr ?_⟩
    rw [pc_self (s := s) rfl]
    exact ⟨rfl, rfl, trivial⟩
  | unlock c ret =>
    have hs : s.go t true = some { s.setPc t (.subRef c ret) with m_lock := false } := by
      unfold CXMessageQueue.go
      rw [hpc]
    exact ⟨_, (hgo hs).1, (hgo hs).2, .inl ⟨rfl, rfl⟩⟩
  | _ =>
    rw [hpc] at ht
    cases ht

theorem Inv.frees {n : Nat} (h : Inv s) (ht : (s.pc t).holds = true) (hready : Ready s.m_queue (s.pc t))
    (hn : (s.pc t).left = n) :
    ∃ s', runSteps (guarded StepOk CXMessageQueue.step) s (List.replicate n (.go t true)) = some s' ∧
      s'.m_lock = false := by
  induction n generalizing s with
  | zero =>
    obtain ⟨s₁, -, -, hcase⟩ := h.holder ht hready
    omega
  | succ n ih =>
    obtain ⟨s₁, hs, hi, hcase⟩ := h.holder ht hready
    have hrun : runSteps (guarded StepOk CXMessageQueue.step) s (List.replicate (n + 1) (.go t true)) =
        runSteps (guarded StepOk CXMessageQueue.step) s₁ (List.replicate n (.go t true)) := by
      show (guarded StepOk CXMessageQueue.step s (.go t true)).bind _ = _
      rw [hs]
      rfl
    rw [hrun]
    rcases hcase with ⟨hone, hfree⟩ | ⟨hholds, hleft, hready'⟩
    · obtain rfl : n = 0 := by omega
      exact ⟨s₁, rfl, hfree⟩
    · exact ih hi hholds hready' (by omega)

/-- Any number of threads and any order of their steps. -/
theorem atomically (h : Reachable (guarded StepOk step) construct s) : Atomically s := by
  have hi := inv_of_reachable h
  obtain ⟨q, hq, hlog⟩ := hi.fifo
  refine ⟨hi.locked.one, ⟨q, hq, hlog, hlog.order⟩, hi.own, hi.counted, fun hbusy => ?_⟩
  obtain ⟨t, ht⟩ := hi.locked.busy.mp hbusy
  exact ⟨t, ht, fun hready => hi.frees ht hready rfl⟩

/-- A thread finds the lock busy while another one pushes, and takes the message. -/
theorem atomically_twoThreads : ∃ s : CXMessageQueue (Fin 2) Nat, Reachable (guarded StepOk step) construct s ∧
    s.returned = [⟨0, .pushMessage (some 7), none⟩, ⟨1, .getMessage, some 7⟩] ∧ Atomically s := by
  have hone : (NodeQueue.construct : NodeQueue Nat).OneBlock [] := .inl ⟨rfl, rfl⟩
  obtain ⟨q₁, hok₁, hpush, hq₁⟩ := hone.push (by decide) (some 7)
  obtain ⟨q₂, hok₂, hpos, hpop, -⟩ := NodeQueue.OneBlock.popFront hq₁ (by decide)
  have hop₁ := operate_push hpush
  have hop₂ : operate true .getMessage q₁ = some (q₂, some 7) := operate_get hpos hpop
  -- from one access to the queue to the next
  let o₁ := runSteps (guarded StepOk step) (construct : CXMessageQueue (Fin 2) Nat)
    [.call 0 (.pushMessage (some 7)), .go 0 true, .go 0 true, .go 0 true]
  let s₁ := o₁.get rfl
  have h₁ : o₁ = some s₁ := (Option.some_get _).symm
  let s₂ := s₁.written 0 (.pushMessage (some 7)) (q₁, none)
  have h₂ : guarded StepOk step s₁ (.go 0 true) = some s₂ :=
    guarded_eq_some.mpr ⟨hok₁, go_write (s := s₁) (t := 0) rfl hop₁⟩
  let o₃ := runSteps (guarded StepOk step) s₂ [.go 0 true, .call 1 .getMessage, .go 1 true]
  let s₃ := o₃.get rfl
  have h₃ : o₃ = some s₃ := (Option.some_get _).symm
  let s₄ := s₃.setPc 1 (.exchange .getMessage)
  have h₄ : guarded StepOk step s₃ (.go 1 true) = some s₄ :=
    guarded_eq_some.mpr ⟨trivial, go_secondSize (s := s₃) (t := 1) true rfl hpos⟩
  let o₅ := runSteps (guarded StepOk step) s₄
    [.go 1 true, .go 1 true, .go 0 true, .go 0 true, .go 1 true, .go 1 true, .go 1 true, .go 1 true]
  let s₅ := o₅.get rfl
  have h₅ : o₅ = some s₅ := (Option.some_get _).symm
  let s₆ := s₅.written 1 .getMessage (q₂, some 7)
  have hpc₅ : s₅.pc 1 = .write .getMessage q₁ := rfl
  have hok₅ : StepOk s₅ (.go 1 true) := by
    show WriteOk true (s₅.pc 1)
    rw [hpc₅]
    exact fun _ => hok₂
  have hgo₅ : s₅.go 1 true = some s₆ := go_write hpc₅ hop₂
  have h₆ : guarded StepOk step s₅ (.go 1 true) = some s₆ := guarded_eq_some.mpr ⟨hok₅, hgo₅⟩
  let o₇ := runSteps (guarded StepOk step) s₆ [.go 1 true, .go 1 true]
  let s₇ := o₇.get rfl
  have h₇ : o₇ = some s₇ := (Option.some_get _).symm
  have hreach : Reachable (guarded StepOk step) construct s₇ :=
    ((((((Reachable.of_runSteps h₁).step _ h₂).runSteps_of h₃).step _ h₄).runSteps_of h₅).step _ h₆).runSteps_of h₇
  exact ⟨s₇, hreach, rfl, atomically hreach⟩

end CXMessageQueue

end KonsanNet
