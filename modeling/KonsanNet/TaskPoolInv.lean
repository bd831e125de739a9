import KonsanNet.TaskPool

/-!
# When no task is stranded in the pool

A signal of `m_event` may send a worker away instead of to the queue. As long as there are as many signals as
workers that are still to leave, and one more while tasks are queued and nobody is at the queue (`Covered`), no
task is left behind. `ResizePool` takes one of the signals for itself after it has posted just as many as
workers shall leave, and a `ResizePool` that adds workers while `m_bReducingPoolSize` is set sends them away
again without any signal.
-/

namespace KonsanNet

namespace CXTaskPool

variable {τ : Type} {s s' : CXTaskPool τ} {i j : Nat} {w w' : PoolWorker τ} {pTask : τ}

/-! ### One worker moves -/

theorem getElem?_lt {l : List (PoolWorker τ)} (h : l[i]? = some w) : i < l.length :=
  (List.getElem?_eq_some_iff.mp h).1

theorem countP_setWorker (p : PoolWorker τ → Bool) (w' : PoolWorker τ) (h : s.workers[i]? = some w) :
    (s.setWorker i w').workers.countP p + (if p w then 1 else 0) =
      s.workers.countP p + (if p w' then 1 else 0) := by
  obtain ⟨hi, hw⟩ := List.getElem?_eq_some_iff.mp h
  have hle : (if p w then 1 else 0) ≤ s.workers.countP p := by
    split
    · rename_i hp
      exact List.countP_pos_iff.mpr ⟨w, hw ▸ List.getElem_mem hi, hp⟩
    · exact Nat.zero_le _
  unfold setWorker
  dsimp only
  rw [List.countP_set hi, hw]
  omega

theorem signals_setWorker (w' : PoolWorker τ) (h : s.workers[i]? = some w) :
    (s.setWorker i w').signals + (if w.isWoken then 1 else 0) = s.signals + (if w'.isWoken then 1 else 0) := by
  have hset := countP_setWorker PoolWorker.isWoken w' h
  show s.event + _ + _ = s.event + _ + _
  omega

/-- A worker that goes on without a signal in its hands takes none. -/
theorem signals_setWorker_of_eq (h : s.workers[i]? = some w) (hw : w'.isWoken = w.isWoken) :
    (s.setWorker i w').signals = s.signals := by
  have hset := signals_setWorker w' h
  rw [hw] at hset
  exact Nat.add_right_cancel hset

theorem draining_setWorker_self (h : s.workers[i]? = some w) (hw' : w'.drains = true) :
    (s.setWorker i w').Draining :=
  List.any_eq_true.mpr ⟨w', List.mem_set (getElem?_lt h) _, hw'⟩

theorem Draining.setWorker (hd : s.Draining) (h : s.workers[i]? = some w) (hw : w.drains = false) :
    (s.setWorker i w').Draining := by
  obtain ⟨v, hv, hdv⟩ := List.any_eq_true.mp hd
  obtain ⟨k, hk⟩ := List.mem_iff_getElem?.mp hv
  have hki : i ≠ k := by
    rintro rfl
    rw [h] at hk
    cases hk
    exact Bool.noConfusion (hw.symm.trans hdv)
  refine List.any_eq_true.mpr ⟨v, ?_, hdv⟩
  refine List.mem_iff_getElem?.mpr ⟨k, ?_⟩
  exact (List.getElem?_set_ne hki).trans hk

theorem held_setWorker_ne (h : i ≠ j) : (s.setWorker i w).held j = s.held j := by
  unfold held setWorker
  dsimp only
  rw [List.getElem?_set_ne h]

theorem held_setWorker_self (h : s.workers[i]? = some w) :
    (s.setWorker i w').held i = match w' with
      | .running pTask => [(i, pTask)]
      | .waiting | .woken | .taking | .exited => [] := by
  unfold held setWorker
  dsimp only
  rw [List.getElem?_set_self (getElem?_lt h)]
  cases w' <;> rfl

theorem held_append {n : Nat} (h : s'.workers = s.workers ++ List.replicate n .waiting) :
    s'.held i = s.held i := by
  unfold held
  rw [h]
  rcases Nat.lt_or_ge i s.workers.length with hlt | hge
  · rw [List.getElem?_append_left hlt]
  · rw [List.getElem?_append_right hge, List.getElem?_eq_none hge]
    by_cases hn : i - s.workers.length < n
    · rw [List.getElem?_replicate_of_lt hn]
    · rw [List.getElem?_eq_none (by rw [List.length_replicate]; exact not_lt.mp hn)]

/-! ### Signals -/

/-- There are enough signals for the workers that are to leave and for the queue. -/
structure Covered (s : CXTaskPool τ) : Prop where
  exits : s.exits ≤ s.signals
  queue : 0 < s.queueOutstandingTask.size → s.Draining ∨ s.exits < s.signals

/-- `ResizePool` takes a signal only while there is one to spare, and it does not add workers while others are
to leave. -/
def stepOk (s : CXTaskPool τ) : Act τ → Prop
  | .resizeWait .object0 => s.exits < s.signals ∧
      (0 < s.queueOutstandingTask.size → s.Draining ∨ s.exits + 1 < s.signals)
  | .resizePool iPoolSize _ _ _ => 2 ≤ iPoolSize → s.dwPoolSize ≤ iPoolSize.toNat → s.bReducingPoolSize = false
  | .resizeWait .timeout | .resizeWait .failed | .pushTask _ | .wake _ | .decideExit _ | .takeTask _ | .runTask _ =>
    True

instance {Q : Type} {s : CXTaskPool τ Q} : Decidable s.Draining := inferInstanceAs (Decidable (_ = true))

instance : ∀ (s : CXTaskPool τ) (a : Act τ), Decidable (stepOk s a)
  | s, .resizeWait .object0 => inferInstanceAs (Decidable (s.exits < s.signals ∧
      (0 < s.queueOutstandingTask.size → s.Draining ∨ s.exits + 1 < s.signals)))
  | s, .resizePool iPoolSize _ _ _ =>
    inferInstanceAs (Decidable (2 ≤ iPoolSize → s.dwPoolSize ≤ iPoolSize.toNat → s.bReducingPoolSize = false))
  | _, .resizeWait .timeout | _, .resizeWait .failed | _, .pushTask _ | _, .wake _ | _, .decideExit _
  | _, .takeTask _ | _, .runTask _ => isTrue trivial

theorem exits_of_not_reducing (h : s.bReducingPoolSize = false) : s.exits = 0 := by
  unfold exits
  rw [h]
  rfl

theorem exits_of_reducing (h : s.bReducingPoolSize = true) : s.exits = s.dwPoolSize - s.dwReducedPoolSize := by
  unfold exits
  rw [h]
  rfl

theorem Covered.pushTask (h : Covered s) (hs : s.pushTask pTask = some s') : Covered s' := by
  unfold CXTaskPool.pushTask at hs
  split at hs
  · cases hs
  obtain ⟨q, -, rfl⟩ := Option.map_eq_some_iff.mp hs
  have hsig : signals { s with
      queueOutstandingTask := q, event := s.event + 1, pushed := s.pushed ++ [pTask] } = s.signals + 1 :=
    Nat.add_right_comm s.event 1 _
  have hex : s.exits < s.signals + 1 := Nat.lt_succ_of_le h.exits
  exact ⟨hsig ▸ Nat.le_of_lt hex, fun _ => Or.inr (hsig ▸ hex)⟩

theorem Covered.resizePool {iPoolSize : Int} {free new : List StartAnswer} {bAddPoolSize : Bool} (h : Covered s)
    (hok : stepOk s (.resizePool iPoolSize free new bAddPoolSize))
    (hs : s.resizePool iPoolSize free new bAddPoolSize = some s') : Covered s' := by
  unfold CXTaskPool.resizePool at hs
  split at hs
  · cases hs
    exact ⟨h.exits, h.queue⟩
  rename_i h2
  split at hs
  · cases hs
  split at hs
  · cases hs
    -- as many signals as workers that shall leave, whatever was to be done before
    have hsig : signals { s with
        bReducingPoolSize := true, dwReducedPoolSize := iPoolSize.toNat,
        event := s.event + (s.dwPoolSize - iPoolSize.toNat), bResizing := true } =
        s.signals + (s.dwPoolSize - iPoolSize.toNat) := Nat.add_right_comm s.event _ _
    constructor
    · rw [hsig, exits_of_reducing rfl]
      exact Nat.le_add_left _ _
    · intro hq
      rcases h.queue hq with hd | hlt
      · exact Or.inl hd
      · refine Or.inr ?_
        rw [hsig, exits_of_reducing rfl]
        exact Nat.lt_add_of_pos_left (Nat.zero_lt_of_lt hlt)
  · rename_i hge
    have hred : s.bReducingPoolSize = false := hok (not_lt.mp h2) (not_lt.mp hge)
    obtain ⟨r, -, rfl⟩ := Option.map_eq_some_iff.mp hs
    have hsig : signals { s with
        dwPoolSize := s.dwPoolSize + r.1, workers := s.workers ++ List.replicate r.1 .waiting,
        resized := s.resized ++ [r.2] } = s.signals := by
      unfold signals
      rw [List.countP_append, List.countP_replicate]
      rfl
    refine ⟨le_of_eq_of_le (exits_of_not_reducing hred) (Nat.zero_le _), fun hq => ?_⟩
    rcases h.queue hq with hd | hlt
    · refine Or.inl (List.any_eq_true.mpr ?_)
      obtain ⟨v, hv, hdv⟩ := List.any_eq_true.mp hd
      exact ⟨v, List.mem_append_left _ hv, hdv⟩
    · refine Or.inr (lt_of_eq_of_lt (exits_of_not_reducing hred) ?_)
      rw [hsig]
      exact Nat.zero_lt_of_lt hlt

theorem Covered.resizeWait {r : WaitResult} (h : Covered s) (hok : stepOk s (.resizeWait r))
    (hs : s.resizeWait r = some s') : Covered s' := by
  unfold CXTaskPool.resizeWait at hs
  split at hs
  · cases r with
    | object0 =>
      dsimp only at hs
      split at hs
      · rename_i hpos
        cases hs
        obtain ⟨hlt, hq⟩ := hok
        have hsig : signals { s with
            event := s.event - 1, bResizing := false, resized := s.resized ++ [true] } + 1 = s.signals := by
          unfold signals
          dsimp only
          omega
        refine ⟨?_, fun hsize => ?_⟩
        · show s.exits ≤ _
          omega
        · rcases hq hsize with hd | hlt'
          · exact Or.inl hd
          · refine Or.inr ?_
            show s.exits < _
            omega
      · cases hs
    | timeout =>
      cases hs
      exact h
    | failed =>
      cases hs
      exact ⟨h.exits, h.queue⟩
  · cases hs

theorem Covered.wake (h : Covered s) (hs : s.wake i = some s') : Covered s' := by
  unfold CXTaskPool.wake at hs
  split at hs
  · rename_i hw
    split at hs
    · rename_i hpos
      cases hs
      have hset := signals_setWorker (s := { s with event := s.event - 1 }) .woken hw
      have hsig : ({ s with event := s.event - 1 }.setWorker i .woken).signals = s.signals := by
        have hev : signals { s with event := s.event - 1 } + 1 = s.signals := by
          unfold signals
          dsimp only
          omega
        simp only [PoolWorker.isWoken, if_true, Bool.false_eq_true, if_false] at hset
        omega
      refine ⟨hsig ▸ h.exits, fun hq => ?_⟩
      rcases h.queue hq with hd | hlt
      · exact Or.inl (Draining.setWorker (s := { s with event := s.event - 1 }) hd hw rfl)
      · exact Or.inr (hsig ▸ hlt)
    · cases hs
  · cases hs

theorem Covered.decideExit (h : Covered s) (hs : s.decideExit i = some s') : Covered s' := by
  unfold CXTaskPool.decideExit at hs
  split at hs
  · rename_i hw
    split at hs
    · cases hs
    split at hs
    · rename_i hred
      split at hs
      · -- the worker leaves, with one signal
        rename_i hlt
        cases hs
        have hset := signals_setWorker (s := { s with dwPoolSize := s.dwPoolSize - 1 }) .exited hw
        have hsig : signals { s with dwPoolSize := s.dwPoolSize - 1 } = s.signals := rfl
        simp only [PoolWorker.isWoken, if_true, Bool.false_eq_true, if_false, hsig] at hset
        have hex : ({ s with dwPoolSize := s.dwPoolSize - 1 }.setWorker i .exited).exits + 1 = s.exits := by
          have hex' := exits_of_reducing (s := { s with dwPoolSize := s.dwPoolSize - 1 }.setWorker i .exited) hred
          rw [exits_of_reducing hred, hex']
          show s.dwPoolSize - 1 - s.dwReducedPoolSize + 1 = _
          omega
        have hle := h.exits
        refine ⟨by omega, fun hq => ?_⟩
        rcases h.queue hq with hd | hlt'
        · exact Or.inl (Draining.setWorker (s := { s with dwPoolSize := s.dwPoolSize - 1 }) hd hw rfl)
        · exact Or.inr (by omega)
      · cases hs
        exact ⟨le_of_eq_of_le (exits_of_not_reducing rfl) (Nat.zero_le _),
          fun _ => Or.inl (draining_setWorker_self (s := { s with bReducingPoolSize := false }) hw rfl)⟩
    · rename_i hred
      cases hs
      exact ⟨le_of_eq_of_le (exits_of_not_reducing (Bool.not_eq_true _ ▸ hred)) (Nat.zero_le _),
        fun _ => Or.inl (draining_setWorker_self hw rfl)⟩
  · cases hs

theorem Covered.takeTask (h : Covered s) (hs : s.takeTask i = some s')
    (hq : ∀ q, s.queueOutstandingTask.popFront = some (q, none) → ¬ 0 < s.queueOutstandingTask.size) : Covered s' := by
  unfold CXTaskPool.takeTask at hs
  split at hs
  · rename_i hw
    split at hs
    · cases hs
    split at hs
    · rename_i hsize
      split at hs
      · cases hs
      · rename_i hpop
        exact absurd hsize (hq _ hpop)
      · rename_i q t _
        cases hs
        let s₁ : CXTaskPool τ := { s with queueOutstandingTask := q, popped := s.popped ++ [(i, t)] }
        have hsig : (s₁.setWorker i (.running t)).signals = s.signals := signals_setWorker_of_eq (s := s₁) hw rfl
        refine ⟨?_, fun _ => Or.inl (draining_setWorker_self (s := s₁) hw rfl)⟩
        rw [hsig]
        exact h.exits
    · rename_i hsize
      cases hs
      refine ⟨?_, fun hpos => absurd hpos hsize⟩
      have hsig : (s.setWorker i .waiting).signals = s.signals := signals_setWorker_of_eq hw rfl
      rw [hsig]
      exact h.exits
  · cases hs

theorem Covered.runTask (h : Covered s) (hs : s.runTask i = some s') : Covered s' := by
  unfold CXTaskPool.runTask at hs
  split at hs
  · rename_i t hw
    cases hs
    let s₁ : CXTaskPool τ := { s with ran := s.ran ++ [(i, t)] }
    have hsig : (s₁.setWorker i .taking).signals = s.signals := signals_setWorker_of_eq (s := s₁) hw rfl
    refine ⟨?_, fun _ => Or.inl (draining_setWorker_self (s := s₁) hw rfl)⟩
    rw [hsig]
    exact h.exits
  · cases hs

/-! ### Each task once -/

/-- The queue stands for `items`. -/
structure Filed (s : CXTaskPool τ) (items : List τ) : Prop where
  queue : s.queueOutstandingTask.Inv (items.map some)
  taken : s.pushed = s.popped.map Prod.snd ++ items
  runs : ∀ i, s.popped.filter (fun p => p.1 = i) = s.ran.filter (fun p => p.1 = i) ++ s.held i

variable {items : List τ}

theorem Filed.setWorker (h : Filed s items) (hw : s.workers[i]? = some w) (hnot : ∀ t, w ≠ .running t)
    (hnot' : ∀ t, w' ≠ .running t) : Filed (s.setWorker i w') items where
  queue := h.queue
  taken := h.taken
  runs := fun k => by
    have hk := h.runs k
    by_cases hik : i = k
    · subst hik
      have hself : s.held i = [] := by
        unfold held
        rw [hw]
        cases w with
        | running t => exact absurd rfl (hnot t)
        | waiting | woken | taking | exited => rfl
      have hself' : (s.setWorker i w').held i = [] := by
        rw [held_setWorker_self hw]
        cases w' with
        | running t => exact absurd rfl (hnot' t)
        | waiting | woken | taking | exited => rfl
      rw [hself] at hk
      rw [hself']
      exact hk
    · rw [held_setWorker_ne hik]
      exact hk

theorem Filed.pushTask (h : Filed s items) (hs : s.pushTask pTask = some s') : Filed s' (items ++ [pTask]) := by
  unfold CXTaskPool.pushTask at hs
  split at hs
  · cases hs
  obtain ⟨q, hq, rfl⟩ := Option.map_eq_some_iff.mp hs
  obtain ⟨q', hq', hinv⟩ := h.queue.push (some pTask)
  obtain rfl : q' = q := Option.some.inj (hq'.symm.trans hq)
  refine ⟨?_, ?_, h.runs⟩
  · rw [List.map_append]
    exact hinv
  · show s.pushed ++ [pTask] = s.popped.map Prod.snd ++ (items ++ [pTask])
    rw [h.taken, List.append_assoc]

theorem Filed.resizePool {iPoolSize : Int} {free new : List StartAnswer} {bAddPoolSize : Bool} (h : Filed s items)
    (hs : s.resizePool iPoolSize free new bAddPoolSize = some s') : Filed s' items := by
  unfold CXTaskPool.resizePool at hs
  split at hs
  · cases hs
    exact ⟨h.queue, h.taken, h.runs⟩
  split at hs
  · cases hs
  split at hs
  · cases hs
    exact ⟨h.queue, h.taken, h.runs⟩
  · obtain ⟨r, -, rfl⟩ := Option.map_eq_some_iff.mp hs
    refine ⟨h.queue, h.taken, fun k => ?_⟩
    rw [h.runs k]
    exact congrArg _ (held_append rfl).symm

theorem Filed.resizeWait {r : WaitResult} (h : Filed s items) (hs : s.resizeWait r = some s') :
    Filed s' items := by
  unfold CXTaskPool.resizeWait at hs
  split at hs
  · cases r with
    | object0 =>
      dsimp only at hs
      split at hs
      · cases hs
        exact ⟨h.queue, h.taken, h.runs⟩
      · cases hs
    | timeout =>
      cases hs
      exact h
    | failed =>
      cases hs
      exact ⟨h.queue, h.taken, h.runs⟩
  · cases hs

theorem Filed.wake (h : Filed s items) (hs : s.wake i = some s') : Filed s' items := by
  unfold CXTaskPool.wake at hs
  split at hs
  · rename_i hw
    split at hs
    · cases hs
      have h₁ : Filed { s with event := s.event - 1 } items := ⟨h.queue, h.taken, h.runs⟩
      exact h₁.setWorker hw (fun t => by rintro ⟨⟩) (fun t => by rintro ⟨⟩)
    · cases hs
  · cases hs

theorem Filed.decideExit (h : Filed s items) (hs : s.decideExit i = some s') : Filed s' items := by
  unfold CXTaskPool.decideExit at hs
  split at hs
  · rename_i hw
    split at hs
    · cases hs
    split at hs
    · split at hs
      · cases hs
        have h₁ : Filed { s with dwPoolSize := s.dwPoolSize - 1 } items := ⟨h.queue, h.taken, h.runs⟩
        exact h₁.setWorker hw (fun t => by rintro ⟨⟩) (fun t => by rintro ⟨⟩)
      · cases hs
        have h₁ : Filed { s with bReducingPoolSize := false } items := ⟨h.queue, h.taken, h.runs⟩
        exact h₁.setWorker hw (fun t => by rintro ⟨⟩) (fun t => by rintro ⟨⟩)
    · cases hs
      exact h.setWorker hw (fun t => by rintro ⟨⟩) (fun t => by rintro ⟨⟩)
  · cases hs

theorem Filed.popFront (h : Filed s items) (hsize : 0 < s.queueOutstandingTask.size) :
    ∃ t rest q, items = t :: rest ∧ s.queueOutstandingTask.popFront = some (q, some t) ∧ q.Inv (rest.map some) := by
  rw [h.queue.size] at hsize
  obtain ⟨q, hq, hinv⟩ := h.queue.popFront
  cases items with
  | nil => exact absurd hsize (Nat.lt_irrefl 0)
  | cons t rest => exact ⟨t, rest, q, rfl, hq, hinv⟩

theorem Filed.takeTask (h : Filed s items) (hs : s.takeTask i = some s') : ∃ items', Filed s' items' := by
  unfold CXTaskPool.takeTask at hs
  split at hs
  · rename_i hw
    split at hs
    · cases hs
    split at hs
    · rename_i hsize
      obtain ⟨t, rest, q, rfl, hpop, hinv⟩ := h.popFront hsize
      rw [hpop] at hs
      cases hs
      refine ⟨rest, hinv, ?_, fun k => ?_⟩
      · show s.pushed = (s.popped ++ [(i, t)]).map Prod.snd ++ rest
        rw [h.taken, List.map_append, List.append_assoc]
        rfl
      · have hk := h.runs k
        show (s.popped ++ [(i, t)]).filter _ = s.ran.filter _ ++ _
        rw [List.filter_append, hk]
        by_cases hik : i = k
        · subst hik
          have hself : s.held i = [] := by
            unfold held
            rw [hw]
          rw [held_setWorker_self (s := { s with
            queueOutstandingTask := q, popped := s.popped ++ [(i, t)] }) hw, hself, List.append_nil]
          simp
        · rw [held_setWorker_ne hik]
          simp only [List.filter_cons, hik, decide_false, Bool.false_eq_true, if_false, List.filter_nil,
            List.append_nil]
          rfl
    · cases hs
      exact ⟨items, h.setWorker hw (fun t => by rintro ⟨⟩) (fun t => by rintro ⟨⟩)⟩
  · cases hs

theorem Filed.runTask (h : Filed s items) (hs : s.runTask i = some s') : Filed s' items := by
  unfold CXTaskPool.runTask at hs
  split at hs
  · rename_i t hw
    cases hs
    refine ⟨h.queue, h.taken, fun k => ?_⟩
    have hk := h.runs k
    show s.popped.filter _ = (s.ran ++ [(i, t)]).filter _ ++ _
    rw [List.filter_append, hk]
    by_cases hik : i = k
    · subst hik
      have hself : s.held i = [(i, t)] := by
        unfold held
        rw [hw]
      rw [held_setWorker_self (s := { s with ran := s.ran ++ [(i, t)] }) hw, hself]
      simp
    · rw [held_setWorker_ne hik]
      simp only [List.filter_cons, hik, decide_false, Bool.false_eq_true, if_false, List.filter_nil, List.append_nil]
      rfl
  · cases hs

/-! ### Runs -/

structure Inv (s : CXTaskPool τ) : Prop where
  filed : ∃ items, Filed s items
  covered : Covered s

theorem Filed.step {a : Act τ} (h : Filed s items) (hs : s.step a = some s') : ∃ items', Filed s' items' := by
  cases a with
  | pushTask t => exact ⟨_, h.pushTask hs⟩
  | resizePool n free new b => exact ⟨items, h.resizePool hs⟩
  | resizeWait r => exact ⟨items, h.resizeWait hs⟩
  | wake i => exact ⟨items, h.wake hs⟩
  | decideExit i => exact ⟨items, h.decideExit hs⟩
  | takeTask i => exact h.takeTask hs
  | runTask i => exact ⟨items, h.runTask hs⟩

theorem filed_created (iPoolSize iTaskQueueSize : Nat) :
    Filed (created iPoolSize iTaskQueueSize : CXTaskPool τ) [] := by
  have hpos : 1 ≤ if iTaskQueueSize > 10000 then iTaskQueueSize else 10000 := by
    split <;> omega
  refine ⟨CXQueue.IsNew.inv (δ := τ) (Or.inr ⟨_, hpos, rfl⟩), rfl, fun i => ?_⟩
  show [] = [] ++ held _ i
  have hheld : held (created iPoolSize iTaskQueueSize) i =
      held { (created 0 iTaskQueueSize : CXTaskPool τ) with workers := [] } i := held_append rfl
  rw [hheld]
  rfl

theorem inv_created (iPoolSize iTaskQueueSize : Nat) : Inv (created iPoolSize iTaskQueueSize : CXTaskPool τ) := by
  refine ⟨⟨[], filed_created ..⟩, ⟨Nat.zero_le _, fun hq => ?_⟩⟩
  have hsize := (filed_created (τ := τ) iPoolSize iTaskQueueSize).queue.size
  rw [hsize] at hq
  exact absurd hq (Nat.lt_irrefl 0)

/-- While all workers sleep there is no task in the queue. -/
theorem Inv.queue_empty (h : Inv s) (hs : s.Asleep) : s.queueOutstandingTask.contents = [] := by
  obtain ⟨items, hf⟩ := h.filed
  obtain ⟨hworkers, hevent⟩ := hs
  have hsig : s.signals = 0 := by
    unfold signals
    rw [hevent, Nat.zero_add, List.countP_eq_zero]
    intro w hw
    rcases hworkers w hw with rfl | rfl <;> exact Bool.false_ne_true
  have hidle : ¬ s.Draining := by
    intro hd
    obtain ⟨w, hw, hdw⟩ := List.any_eq_true.mp hd
    rcases hworkers w hw with rfl | rfl <;> cases hdw
  have hsize : ¬ 0 < s.queueOutstandingTask.size := by
    intro hpos
    rcases h.covered.queue hpos with hd | hlt
    · exact hidle hd
    · rw [hsig] at hlt
      exact Nat.not_lt_zero _ hlt
  rw [hf.queue.size] at hsize
  rw [hf.queue.contents_eq]
  exact List.length_eq_zero_iff.mp (Nat.eq_zero_of_not_pos hsize)

end CXTaskPool

end KonsanNet
