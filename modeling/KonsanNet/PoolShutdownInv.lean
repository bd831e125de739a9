import Mathlib.Tactic
import KonsanNet.PoolShutdown

/-!
# Every worker leaves (`CXTaskPool::Destroy`)

`Moves` has the steps of the workers. There are never more workers than `m_dwPoolSize` counts (`Inv.live`), so the
loop of `Destroy` posts a signal for each of those that need one, although a worker may still take `m_dwPoolSize` down
(`Inv.signals`). Each step of a worker behind `m_bRunning = false` takes it nearer to its end.
-/

namespace KonsanNet

/-! ### Two lists of one length -/

section

variable {α β : Type} {l : List α} {m : List β} {i : Nat} {a : α} {b : β}

theorem zip_set (l : List α) (m : List β) (i : Nat) (a : α) (b : β) :
    (l.set i a).zip (m.set i b) = (l.zip m).set i (a, b) := by
  induction l generalizing m i with
  | nil => simp
  | cons x l ih =>
    cases m with
    | nil => simp
    | cons y m =>
      cases i with
      | zero => rfl
      | succ i => simp [ih]

theorem set_of_getElem? (h : m[i]? = some b) : m.set i b = m := by
  obtain ⟨hi, rfl⟩ := List.getElem?_eq_some_iff.mp h
  exact List.set_getElem_self hi

theorem zip_set_left (h : m[i]? = some b) : (l.set i a).zip m = (l.zip m).set i (a, b) := by
  rw [← zip_set, set_of_getElem? h]

theorem zip_set_right (h : l[i]? = some a) : l.zip (m.set i b) = (l.zip m).set i (a, b) := by
  rw [← zip_set, set_of_getElem? h]

theorem sum_map_set {f : α → Nat} (h : l[i]? = some a) (a' : α) :
    ((l.set i a').map f).sum + f a = (l.map f).sum + f a' := by
  induction l generalizing i with
  | nil => cases h
  | cons x l ih =>
    cases i with
    | zero =>
      cases h
      simp only [List.set_cons_zero, List.map_cons, List.sum_cons]
      omega
    | succ i =>
      have hrest := ih (i := i) h
      simp only [List.set_cons_succ, List.map_cons, List.sum_cons]
      omega

theorem countP_set_add {p : α → Bool} (h : l[i]? = some a) (a' : α) :
    (l.set i a').countP p + (if p a then 1 else 0) = l.countP p + (if p a' then 1 else 0) := by
  induction l generalizing i with
  | nil => cases h
  | cons x l ih =>
    cases i with
    | zero =>
      cases h
      simp only [List.set_cons_zero, List.countP_cons]
      omega
    | succ i =>
      have hrest := ih (i := i) h
      simp only [List.set_cons_succ, List.countP_cons]
      omega

end

/-! ### The sections of a worker -/

namespace CXTaskPool

variable {τ : Type} {s s' : CXTaskPool τ} {i : Nat}

theorem wake_cases (hs : s.wake i = some s') : s.workers[i]? = some .waiting ∧ 0 < s.event ∧
    s' = { s with event := s.event - 1 }.setWorker i .woken := by
  unfold wake at hs
  split at hs
  · rename_i hw
    split at hs
    · rename_i hevent
      cases hs
      exact ⟨hw, hevent, rfl⟩
    · cases hs
  · cases hs

theorem decideExit_cases (hs : s.decideExit i = some s') : s.workers[i]? = some .woken ∧
    (s.dwReducedPoolSize < s.dwPoolSize ∧ s' = { s with dwPoolSize := s.dwPoolSize - 1 }.setWorker i .exited ∨
      ∃ b, s' = { s with bReducingPoolSize := b }.setWorker i .taking) := by
  unfold decideExit at hs
  split at hs
  · rename_i hw
    split at hs
    · cases hs
    split at hs
    · split at hs
      · rename_i hlt
        cases hs
        exact ⟨hw, .inl ⟨hlt, rfl⟩⟩
      · cases hs
        exact ⟨hw, .inr ⟨false, rfl⟩⟩
    · cases hs
      exact ⟨hw, .inr ⟨s.bReducingPoolSize, rfl⟩⟩
  · cases hs

theorem takeTask_cases (hs : s.takeTask i = some s') : s.workers[i]? = some .taking ∧
    ((∃ q, s' = { s with queueOutstandingTask := q }.setWorker i .waiting) ∨
      ∃ q t, s' = { s with queueOutstandingTask := q, popped := s.popped ++ [(i, t)] }.setWorker i (.running t)) := by
  unfold takeTask at hs
  split at hs
  · rename_i hw
    split at hs
    · cases hs
    split at hs
    · split at hs
      · cases hs
      · rename_i q hq
        cases hs
        exact ⟨hw, .inl ⟨q, rfl⟩⟩
      · rename_i q t hq
        cases hs
        exact ⟨hw, .inr ⟨q, t, rfl⟩⟩
    · cases hs
      exact ⟨hw, .inl ⟨s.queueOutstandingTask, rfl⟩⟩
  · cases hs

theorem runTask_cases (hs : s.runTask i = some s') : ∃ t, s.workers[i]? = some (.running t) ∧
    s' = { s with ran := s.ran ++ [(i, t)] }.setWorker i .taking := by
  unfold runTask at hs
  split at hs
  · rename_i t hw
    cases hs
    exact ⟨t, hw, rfl⟩
  · cases hs

theorem resizePool_cases {iPoolSize : Int} {free new : List StartAnswer} {bAddPoolSize : Bool}
    (hs : s.resizePool iPoolSize free new bAddPoolSize = some s') :
    ∃ k, s'.workers = s.workers ++ List.replicate k .waiting ∧ s'.dwPoolSize = s.dwPoolSize + k := by
  unfold resizePool at hs
  split at hs
  · cases hs
    exact ⟨0, (List.append_nil _).symm, rfl⟩
  split at hs
  · cases hs
  split at hs
  · cases hs
    exact ⟨0, (List.append_nil _).symm, rfl⟩
  · obtain ⟨r, -, rfl⟩ := Option.map_eq_some_iff.mp hs
    exact ⟨r.1, rfl, rfl⟩

theorem resizeWait_cases {r : WaitResult} (hs : s.resizeWait r = some s') :
    s'.workers = s.workers ∧ s'.dwPoolSize = s.dwPoolSize := by
  unfold resizeWait at hs
  split at hs
  · cases r with
    | object0 =>
      dsimp only at hs
      split at hs
      · cases hs
        exact ⟨rfl, rfl⟩
      · cases hs
    | timeout =>
      cases hs
      exact ⟨rfl, rfl⟩
    | failed =>
      cases hs
      exact ⟨rfl, rfl⟩
  · cases hs

theorem pushTask_cases {pTask : τ} (hs : s.pushTask pTask = some s') :
    s.bResizing = false ∧ ∃ q, s' = { s with
      queueOutstandingTask := q, event := s.event + 1, pushed := s.pushed ++ [pTask] } := by
  unfold pushTask at hs
  split at hs
  · cases hs
  · rename_i hresizing
    obtain ⟨q, -, rfl⟩ := Option.map_eq_some_iff.mp hs
    exact ⟨by simpa using hresizing, q, rfl⟩

end CXTaskPool

namespace PoolLife

variable {τ : Type} {s s' s₀ : PoolLife τ} {i : Nat} {a : Act τ} {w w' : PoolWorker τ} {b : Bool}

/-! ### What a worker does -/

/-- One worker goes from one place to another; the rest of the pool is as it was, but for what the case says. -/
inductive Moves (s s' : PoolLife τ) : PoolWorker τ × Bool → PoolWorker τ × Bool → Prop
  | checks {w : PoolWorker τ} (hrunning : s.m_bRunning = true) (hevent : s'.pool.event = s.pool.event)
    (hsize : s'.pool.dwPoolSize = s.pool.dwPoolSize) (hpopped : s'.pool.popped = s.pool.popped)
    (hw : stays (w, true) = true) : Moves s s' (w, false) (w, true)
  | leaves {w : PoolWorker τ} (hrunning : s.m_bRunning = false) (hevent : s'.pool.event = s.pool.event)
    (hsize : s'.pool.dwPoolSize = s.pool.dwPoolSize) (hpopped : s'.pool.popped = s.pool.popped)
    (hw : w = .waiting ∨ w = .woken) : Moves s s' (w, false) (.exited, false)
  | outer (hevent : s'.pool.event = s.pool.event)
    (hsize : s'.pool.dwPoolSize = s.pool.dwPoolSize) (hpopped : s'.pool.popped = s.pool.popped) :
    Moves s s' (.taking, false) (.waiting, false)
  | wakes (hevent : s'.pool.event + 1 = s.pool.event) (hsize : s'.pool.dwPoolSize = s.pool.dwPoolSize)
    (hpopped : s'.pool.popped = s.pool.popped) : Moves s s' (.waiting, true) (.woken, false)
  | exits (hevent : s'.pool.event = s.pool.event) (hsize : s'.pool.dwPoolSize + 1 = s.pool.dwPoolSize)
    (hpopped : s'.pool.popped = s.pool.popped) : Moves s s' (.woken, true) (.exited, false)
  | decides (hevent : s'.pool.event = s.pool.event) (hsize : s'.pool.dwPoolSize = s.pool.dwPoolSize)
    (hpopped : s'.pool.popped = s.pool.popped) : Moves s s' (.woken, true) (.taking, false)
  | sleeps (hevent : s'.pool.event = s.pool.event) (hsize : s'.pool.dwPoolSize = s.pool.dwPoolSize)
    (hpopped : s'.pool.popped = s.pool.popped) : Moves s s' (.taking, true) (.waiting, false)
  | takes {t : τ} (hevent : s'.pool.event = s.pool.event) (hsize : s'.pool.dwPoolSize = s.pool.dwPoolSize)
    (hpopped : s'.pool.popped.length = s.pool.popped.length + 1) : Moves s s' (.taking, true) (.running t, false)
  | runs {t : τ} {b : Bool} (hevent : s'.pool.event = s.pool.event) (hsize : s'.pool.dwPoolSize = s.pool.dwPoolSize)
    (hpopped : s'.pool.popped = s.pool.popped) : Moves s s' (.running t, b) (.taking, false)

theorem inSection_cases {pool : Option (CXTaskPool τ)} (hs : s.inSection i pool = some s') :
    s.checked[i]? = some true ∧ ∃ p, pool = some p ∧ s' = { s with pool := p, checked := s.checked.set i false } := by
  unfold inSection at hs
  split at hs
  · rename_i hc
    obtain ⟨p, hp, rfl⟩ := Option.map_eq_some_iff.mp hs
    exact ⟨hc, p, hp, rfl⟩
  · cases hs

theorem stands_getElem? (hw : s.pool.workers[i]? = some w) (hc : s.checked[i]? = some b) :
    s.stands[i]? = some (w, b) := by
  unfold stands
  rw [List.getElem?_zip_eq_some]
  exact ⟨hw, hc⟩

/-- A worker in a section is moved, and reads `m_bRunning` next. -/
theorem stands_setWorker {p : CXTaskPool τ} (hp : p.workers = s.pool.workers) :
    stands { s with pool := p.setWorker i w', checked := s.checked.set i false } = s.stands.set i (w', false) := by
  show (p.workers.set i w').zip (s.checked.set i false) = _
  rw [hp, zip_set]
  rfl

/-- What the steps of the workers leave alone, and the move. -/
structure Moved (s s' : PoolLife τ) : Prop where
  running : s'.m_bRunning = s.m_bRunning
  owner : s'.owner = s.owner
  resizing : s'.pool.bResizing = s.pool.bResizing
  workers : s'.pool.workers.length = s.pool.workers.length
  checked : s'.checked.length = s.checked.length
  move : ∃ i p p', s.stands[i]? = some p ∧ s'.stands = s.stands.set i p' ∧ Moves s s' p p'

theorem moved_check (hs : s.check i = some s') : Moved s s' := by
  unfold check at hs
  have hgo : ∀ {w : PoolWorker τ}, s.pool.workers[i]? = some w → s.checked[i]? = some false →
      s.m_bRunning = true → stays (w, true) = true → Moved s { s with checked := s.checked.set i true } := by
    intro w hw hc hrunning hstays
    refine ⟨rfl, rfl, rfl, rfl, List.length_set, i, _, _, stands_getElem? hw hc, ?_,
      .checks hrunning rfl rfl rfl hstays⟩
    exact zip_set_right hw
  have hleave : ∀ {w w' : PoolWorker τ}, s.pool.workers[i]? = some w → s.checked[i]? = some false →
      Moves s { s with pool := s.pool.setWorker i w' } (w, false) (w', false) →
        Moved s { s with pool := s.pool.setWorker i w' } := by
    intro w w' hw hc hmove
    refine ⟨rfl, rfl, rfl, List.length_set, rfl, i, _, _, stands_getElem? hw hc, ?_, hmove⟩
    exact zip_set_left hc
  split at hs
  · rename_i hw hc
    split at hs
    · rename_i hrunning
      cases hs
      exact hgo hw hc hrunning rfl
    · rename_i hrunning
      cases hs
      exact hleave hw hc (.leaves (by simpa using hrunning) rfl rfl rfl (.inl rfl))
  · rename_i hw hc
    split at hs
    · rename_i hrunning
      cases hs
      exact hgo hw hc hrunning rfl
    · rename_i hrunning
      cases hs
      exact hleave hw hc (.leaves (by simpa using hrunning) rfl rfl rfl (.inr rfl))
  · rename_i hw hc
    split at hs
    · rename_i hrunning
      cases hs
      exact hgo hw hc hrunning rfl
    · cases hs
      exact hleave hw hc (.outer rfl rfl rfl)
  · cases hs

theorem moved_setWorker {p : CXTaskPool τ} (hw : s.pool.workers[i]? = some w) (hc : s.checked[i]? = some b)
    (hp : p.workers = s.pool.workers) (hr : p.bResizing = s.pool.bResizing)
    (hmove : Moves s { s with pool := p.setWorker i w', checked := s.checked.set i false } (w, b) (w', false)) :
    Moved s { s with pool := p.setWorker i w', checked := s.checked.set i false } := by
  refine ⟨rfl, rfl, hr, ?_, List.length_set, i, _, _, stands_getElem? hw hc, stands_setWorker hp, hmove⟩
  show (p.workers.set i w').length = _
  rw [List.length_set, hp]

theorem moved_worker (hlen : s.checked.length = s.pool.workers.length) (ha : a.ofWorker = true)
    (hs : s.step a = some s') : Moved s s' := by
  cases a with
  | check i => exact moved_check hs
  | wake i =>
    obtain ⟨hc, p, hp, rfl⟩ := inSection_cases hs
    obtain ⟨hw, hevent, rfl⟩ := CXTaskPool.wake_cases hp
    exact moved_setWorker hw hc rfl rfl (.wakes (Nat.sub_add_cancel hevent) rfl rfl)
  | decideExit i =>
    obtain ⟨hc, p, hp, rfl⟩ := inSection_cases hs
    obtain ⟨hw, ⟨hlt, rfl⟩ | ⟨b, rfl⟩⟩ := CXTaskPool.decideExit_cases hp
    · exact moved_setWorker hw hc rfl rfl (.exits rfl (Nat.sub_add_cancel (Nat.zero_lt_of_lt hlt)) rfl)
    · exact moved_setWorker hw hc rfl rfl (.decides rfl rfl rfl)
  | takeTask i =>
    obtain ⟨hc, p, hp, rfl⟩ := inSection_cases hs
    obtain ⟨hw, ⟨q, rfl⟩ | ⟨q, t, rfl⟩⟩ := CXTaskPool.takeTask_cases hp
    · exact moved_setWorker hw hc rfl rfl (.sleeps rfl rfl rfl)
    · exact moved_setWorker hw hc rfl rfl (.takes rfl rfl List.length_append)
  | runTask i =>
    obtain ⟨p, hp, rfl⟩ := Option.map_eq_some_iff.mp hs
    obtain ⟨t, hw, rfl⟩ := CXTaskPool.runTask_cases hp
    have hi : i < s.checked.length := by
      rw [hlen]
      exact CXTaskPool.getElem?_lt hw
    exact moved_setWorker hw (List.getElem?_eq_getElem hi) rfl rfl (.runs rfl rfl rfl)
  | _ => cases ha

/-! ### Signals for those who wait -/

structure Inv (s : PoolLife τ) : Prop where
  filed : ∃ items, s.pool.Filed items
  length : s.checked.length = s.pool.workers.length
  live : s.stands.countP stays ≤ s.pool.dwPoolSize
  resizing : s.owner ≠ .free → s.pool.bResizing = false
  running : s.m_bRunning = true ↔ s.owner = .free
  /-- with the signals that `Destroy` is still going to post -/
  signals : ∀ i, s.owner = .notifying i → s.stands.countP waits ≤ s.pool.event + (s.pool.dwPoolSize - i)
  notified : s.owner = .waitingAll → s.stands.countP waits ≤ s.pool.event

theorem waits_le_stays (l : List (PoolWorker τ × Bool)) : l.countP waits ≤ l.countP stays := by
  refine List.countP_mono_left fun p _ hp => ?_
  obtain ⟨w, b⟩ := p
  cases w with
  | exited => cases hp
  | _ => rfl

theorem stays_true (w : PoolWorker τ) (b : Bool) : stays (w, b) = stays (w, true) := by cases w <;> rfl

theorem Moves.live {p p' : PoolWorker τ × Bool} (h : Moves s s' p p') {n n' : Nat}
    (hn : n' + (if stays p then 1 else 0) = n + (if stays p' then 1 else 0)) (hle : n ≤ s.pool.dwPoolSize) :
    n' ≤ s'.pool.dwPoolSize := by
  cases h with
  | @checks w _ _ hsize _ hw =>
    rw [stays_true w false] at hn
    omega
  | @leaves w _ _ hsize _ hw =>
    simp only [stays, Bool.false_eq_true, if_false] at hn
    omega
  | _ =>
    simp only [stays, Bool.false_eq_true, if_true, if_false] at hn
    omega

/-- Who waits behind `m_bRunning = false` has its signal, or `Destroy` will post it. -/
theorem Moves.waits {p p' : PoolWorker τ × Bool} (h : Moves s s' p p') (hrunning : s.m_bRunning = false) {n n' i : Nat}
    (hn : n' + (if PoolLife.waits p then 1 else 0) = n + (if PoolLife.waits p' then 1 else 0)) :
    (n ≤ s.pool.event + (s.pool.dwPoolSize - i) → n' ≤ s'.pool.event + (s'.pool.dwPoolSize - i)) ∧
      (n ≤ s.pool.event → n' ≤ s'.pool.event) := by
  cases h with
  | checks htrue =>
    rw [hrunning] at htrue
    cases htrue
  | @leaves w _ _ hsize _ hw =>
    simp only [PoolLife.waits, Bool.false_eq_true, if_false] at hn
    omega
  | _ =>
    simp only [PoolLife.waits, Bool.false_eq_true, if_true, if_false] at hn
    omega

theorem Inv.move (h : Inv s) (hfiled : ∃ items, s'.pool.Filed items) (hm : Moved s s') : Inv s' := by
  obtain ⟨hrunning, howner, hresizing, hworkers, hchecked, i, p, p', hp, hp', hmove⟩ := hm
  have hstays := countP_set_add (p := stays) hp p'
  have hwaits := countP_set_add (p := PoolLife.waits) hp p'
  rw [← hp'] at hstays hwaits
  have hstopped : s.owner ≠ .free → s.m_bRunning = false := fun hne => by
    simpa using (not_congr h.running).mpr hne
  refine ⟨hfiled, by rw [hchecked, hworkers, h.length], hmove.live hstays h.live, ?_,
    by rw [hrunning, howner, h.running], fun k hk => ?_, fun hk => ?_⟩
  · rw [howner, hresizing]
    exact h.resizing
  · rw [howner] at hk
    exact (hmove.waits (hstopped (by rw [hk]; nofun)) hwaits).1 (h.signals k hk)
  · rw [howner] at hk
    exact (hmove.waits (i := 0) (hstopped (by rw [hk]; nofun)) hwaits).2 (h.notified hk)

theorem filed_worker (h : Inv s) (ha : a.ofWorker = true) (hs : s.step a = some s') :
    ∃ items, s'.pool.Filed items := by
  obtain ⟨items, hf⟩ := h.filed
  cases a with
  | check i =>
    unfold step check at hs
    dsimp only at hs
    split at hs
    · rename_i hw _
      split at hs
      · cases hs
        exact ⟨items, hf⟩
      · cases hs
        exact ⟨items, hf.setWorker hw nofun nofun⟩
    · rename_i hw _
      split at hs
      · cases hs
        exact ⟨items, hf⟩
      · cases hs
        exact ⟨items, hf.setWorker hw nofun nofun⟩
    · rename_i hw _
      split at hs
      · cases hs
        exact ⟨items, hf⟩
      · cases hs
        exact ⟨items, hf.setWorker hw nofun nofun⟩
    · cases hs
  | wake i =>
    obtain ⟨-, p, hp, rfl⟩ := inSection_cases hs
    exact ⟨items, hf.wake hp⟩
  | decideExit i =>
    obtain ⟨-, p, hp, rfl⟩ := inSection_cases hs
    exact ⟨items, hf.decideExit hp⟩
  | takeTask i =>
    obtain ⟨-, p, hp, rfl⟩ := inSection_cases hs
    exact hf.takeTask hp
  | runTask i =>
    obtain ⟨p, hp, rfl⟩ := Option.map_eq_some_iff.mp hs
    exact ⟨items, hf.runTask hp⟩
  | _ => cases ha

/-! ### The other steps -/

theorem Inv.pushTask {pTask : τ} (h : Inv s) (hs : s.step (.pushTask pTask) = some s') : Inv s' := by
  obtain ⟨p, hp, rfl⟩ := Option.map_eq_some_iff.mp hs
  obtain ⟨items, hf⟩ := h.filed
  have hf' := hf.pushTask hp
  obtain ⟨hresizing, q, rfl⟩ := CXTaskPool.pushTask_cases hp
  refine ⟨⟨_, hf'⟩, h.length, h.live, h.resizing, h.running, fun i hi => ?_, fun hi => ?_⟩
  · exact (h.signals i hi).trans (Nat.add_le_add_right (Nat.le_succ _) _)
  · exact (h.notified hi).trans (Nat.le_succ _)

theorem Inv.resizePool {iPoolSize : Int} {free new : List StartAnswer} {bAddPoolSize : Bool} (h : Inv s)
    (hs : s.step (.resizePool iPoolSize free new bAddPoolSize) = some s') : Inv s' := by
  unfold step at hs
  dsimp only at hs
  split at hs
  · rename_i hfree
    obtain ⟨p, hp, rfl⟩ := Option.map_eq_some_iff.mp hs
    obtain ⟨items, hf⟩ := h.filed
    obtain ⟨k, hworkers, hsize⟩ := CXTaskPool.resizePool_cases hp
    have hk : p.workers.length - s.pool.workers.length = k := by
      rw [hworkers, List.length_append, List.length_replicate, Nat.add_sub_cancel_left]
    have hstands : (s.resized p).stands = s.stands ++ List.replicate k (.waiting, false) := by
      show p.workers.zip (s.checked ++ List.replicate (p.workers.length - s.pool.workers.length) false) = _
      rw [hk, hworkers, List.zip_append h.length.symm, List.zip_replicate']
      rfl
    refine ⟨⟨items, hf.resizePool hp⟩, ?_, ?_, fun hne => absurd hfree hne, h.running, fun i hi => ?_, fun hi => ?_⟩
    · show (s.checked ++ List.replicate (p.workers.length - s.pool.workers.length) false).length = p.workers.length
      rw [hk, hworkers, List.length_append, List.length_append, List.length_replicate, List.length_replicate, h.length]
    · rw [hstands, List.countP_append]
      have hlive := h.live
      have hnew : (List.replicate k ((.waiting, false) : PoolWorker τ × Bool)).countP stays ≤ k := by
        exact (List.countP_le_length).trans (le_of_eq List.length_replicate)
      show _ ≤ p.dwPoolSize
      omega
    · exact absurd (hfree.symm.trans hi) nofun
    · exact absurd (hfree.symm.trans hi) nofun
  · cases hs

theorem Inv.resizeWait {r : WaitResult} (h : Inv s) (hs : s.step (.resizeWait r) = some s') : Inv s' := by
  unfold step at hs
  dsimp only at hs
  split at hs
  · rename_i hfree
    obtain ⟨p, hp, rfl⟩ := Option.map_eq_some_iff.mp hs
    obtain ⟨items, hf⟩ := h.filed
    obtain ⟨hworkers, hsize⟩ := CXTaskPool.resizeWait_cases hp
    refine ⟨⟨items, hf.resizeWait hp⟩, ?_, ?_, fun hne => absurd hfree hne, h.running, fun i hi => ?_, fun hi => ?_⟩
    · rw [hworkers]
      exact h.length
    · have hlive := h.live
      unfold stands at hlive ⊢
      dsimp only
      rw [hworkers, hsize]
      exact hlive
    · exact absurd (hfree.symm.trans hi) nofun
    · exact absurd (hfree.symm.trans hi) nofun
  · cases hs

theorem Inv.destroy (h : Inv s) (hs : s.destroy = some s') : Inv s' := by
  unfold PoolLife.destroy at hs
  split at hs
  · rename_i hcond
    cases hs
    refine ⟨h.filed, h.length, h.live, fun _ => hcond.2, iff_of_false Bool.false_ne_true nofun, fun i hi => ?_, nofun⟩
    cases hi
    have hlive := h.live
    have hle := waits_le_stays s.stands
    show s.stands.countP PoolLife.waits ≤ s.pool.event + (s.pool.dwPoolSize - 0)
    omega
  · cases hs

theorem Inv.notify (h : Inv s) (hs : s.notify = some s') : Inv s' := by
  unfold PoolLife.notify at hs
  split at hs
  · rename_i i howner
    have hsignals := h.signals i howner
    obtain ⟨items, hf⟩ := h.filed
    have hresizing := h.resizing (by rw [howner]; nofun)
    have hrunning : s.m_bRunning ≠ true := fun hr => by
      rw [h.running.mp hr] at howner
      cases howner
    split at hs
    · cases hs
      refine ⟨⟨items, hf.queue, hf.taken, hf.runs⟩, h.length, h.live, fun _ => hresizing, iff_of_false hrunning nofun,
        fun k hk => ?_, nofun⟩
      cases hk
      show s.stands.countP PoolLife.waits ≤ s.pool.event + 1 + (s.pool.dwPoolSize - (i + 1))
      omega
    · cases hs
      refine ⟨⟨items, hf⟩, h.length, h.live, fun _ => hresizing, iff_of_false hrunning nofun, nofun, fun _ => ?_⟩
      show s.stands.countP PoolLife.waits ≤ s.pool.event
      omega
  · cases hs

theorem Inv.step (h : Inv s) (hs : s.step a = some s') : Inv s' := by
  cases a with
  | pushTask pTask => exact h.pushTask hs
  | resizePool iPoolSize free new bAddPoolSize => exact h.resizePool hs
  | resizeWait r => exact h.resizeWait hs
  | destroy => exact h.destroy hs
  | notify => exact h.notify hs
  | _ => exact h.move (filed_worker h rfl hs) (moved_worker h.length rfl hs)

theorem inv_created (iPoolSize iTaskQueueSize : Nat) : Inv (created iPoolSize iTaskQueueSize : PoolLife τ) where
  filed := (CXTaskPool.inv_created iPoolSize iTaskQueueSize).filed
  length := by simp [created, CXTaskPool.created]
  live := by
    refine List.countP_le_length.trans ?_
    simp [created, CXTaskPool.created, stands]
  resizing := fun h => absurd rfl h
  running := iff_of_true rfl rfl
  signals := nofun
  notified := nofun

/-! ### Behind `Destroy` -/

theorem Moves.rank {p p' : PoolWorker τ × Bool} (h : Moves s s' p p') (hrunning : s.m_bRunning = false) :
    PoolLife.rank p' + 1 ≤ PoolLife.rank p := by
  cases h with
  | checks htrue =>
    rw [hrunning] at htrue
    cases htrue
  | leaves _ _ _ _ hw => rcases hw with rfl | rfl <;> exact le_rfl
  | _ => simp [PoolLife.rank]

theorem Moves.popped {p p' : PoolWorker τ × Bool} (h : Moves s s' p p') (hrunning : s.m_bRunning = false) :
    s'.pool.popped.length + (if PoolLife.takes p' then 1 else 0) ≤
      s.pool.popped.length + (if PoolLife.takes p then 1 else 0) := by
  cases h with
  | checks htrue =>
    rw [hrunning] at htrue
    cases htrue
  | leaves _ _ _ hpopped hw => rcases hw with rfl | rfl <;> simp [PoolLife.takes, hpopped]
  | takes _ _ hpopped => simp [PoolLife.takes, hpopped]
  | _ => simp [PoolLife.takes, *]

/-- What goes down behind `m_bRunning = false`, whoever takes a step. -/
structure Ending (s s' : PoolLife τ) (n : Nat) : Prop where
  steps : n + s'.stepsLeft ≤ s.stepsLeft
  popped : s'.pool.popped.length + s'.stands.countP takes ≤ s.pool.popped.length + s.stands.countP takes
  size : s'.pool.dwPoolSize ≤ s.pool.dwPoolSize
  ended : s'.owner ≠ .free
  posts : ∀ {k}, s.pool.dwPoolSize ≤ k → (∀ i, s.owner = .notifying i → i ≤ k) → ∀ i, s'.owner = .notifying i → i ≤ k

theorem Ending.refl (h : s.owner ≠ .free) : Ending s s 0 := ⟨(Nat.zero_add _).le, le_rfl, le_rfl, h, fun _ h => h⟩

theorem Ending.trans {s'' : PoolLife τ} {n n' : Nat} (h : Ending s s' n) (h' : Ending s' s'' n') :
    Ending s s'' (n + n') := by
  have h₁ := h.steps
  have h₂ := h'.steps
  exact ⟨by omega, h'.popped.trans h.popped, h'.size.trans h.size, h'.ended,
    fun hk hi => h'.posts (h.size.trans hk) (h.posts hk hi)⟩

theorem Moves.size {p p' : PoolWorker τ × Bool} (h : Moves s s' p p') : s'.pool.dwPoolSize ≤ s.pool.dwPoolSize := by
  cases h with
  | exits _ hsize => omega
  | checks _ _ hsize => exact hsize.le
  | leaves _ _ hsize => exact hsize.le
  | _ =>
    rename_i hsize _
    exact hsize.le

theorem ending_worker (h : Inv s) (hended : s.owner ≠ .free) (ha : a.ofWorker = true) (hs : s.step a = some s') :
    Ending s s' 1 := by
  obtain ⟨-, howner, -, -, -, i, p, p', hp, hp', hmove⟩ := moved_worker h.length ha hs
  have hstopped : s.m_bRunning = false := by simpa using (not_congr h.running).mpr hended
  have hsum := sum_map_set (f := PoolLife.rank) hp p'
  have htakes := countP_set_add (p := PoolLife.takes) hp p'
  rw [← hp'] at hsum htakes
  have hrank := hmove.rank hstopped
  have hpopped := hmove.popped hstopped
  refine ⟨?_, by omega, hmove.size, by rw [howner]; exact hended, fun _ hi => by rw [howner]; exact hi⟩
  show 1 + (s'.stands.map PoolLife.rank).sum ≤ (s.stands.map PoolLife.rank).sum
  omega

theorem ending_step (h : Inv s) (hended : s.owner ≠ .free) (hs : s.step a = some s') :
    Ending s s' (if a.ofWorker then 1 else 0) := by
  cases a with
  | pushTask pTask =>
    obtain ⟨p, hp, rfl⟩ := Option.map_eq_some_iff.mp hs
    obtain ⟨-, q, rfl⟩ := CXTaskPool.pushTask_cases hp
    exact ⟨(Nat.zero_add _).le, le_rfl, le_rfl, hended, fun _ hi => hi⟩
  | resizePool iPoolSize free new bAddPoolSize =>
    unfold step at hs
    dsimp only at hs
    rw [if_neg hended] at hs
    cases hs
  | resizeWait r =>
    unfold step at hs
    dsimp only at hs
    rw [if_neg hended] at hs
    cases hs
  | destroy =>
    unfold step destroy at hs
    dsimp only at hs
    rw [if_neg fun hc => hended hc.1] at hs
    cases hs
  | notify =>
    unfold step notify at hs
    dsimp only at hs
    split at hs
    · split at hs
      · rename_i i howner hlt
        cases hs
        refine ⟨(Nat.zero_add _).le, le_rfl, le_rfl, nofun, fun hk _ k hk' => ?_⟩
        cases hk'
        exact hlt.trans_le hk
      · cases hs
        exact ⟨(Nat.zero_add _).le, le_rfl, le_rfl, nofun, fun _ _ _ => nofun⟩
    · cases hs
  | _ => exact ending_worker h hended rfl hs

/-- A worker that has not left can go on: the signal that it needs is there, and a section does not get stuck. -/
theorem Inv.exists_step (h : Inv s) (hw : s.owner = .waitingAll) (hnot : ¬ s.AllExited) :
    ∃ a, Act.ofWorker a = true ∧ (s.step a).isSome := by
  have hstopped : s.m_bRunning = false := by
    simpa using (not_congr h.running).mpr (by rw [hw]; nofun)
  have hresizing := h.resizing (by rw [hw]; nofun)
  obtain ⟨items, hf⟩ := h.filed
  unfold AllExited at hnot
  push Not at hnot
  obtain ⟨w, hmem, hexited⟩ := hnot
  obtain ⟨i, hi⟩ := List.mem_iff_getElem?.mp hmem
  have hlt : i < s.checked.length := by
    rw [h.length]
    exact CXTaskPool.getElem?_lt hi
  obtain ⟨b, hc⟩ : ∃ b, s.checked[i]? = some b := ⟨_, List.getElem?_eq_getElem hlt⟩
  cases w with
  | exited => exact absurd rfl hexited
  | running t =>
    refine ⟨.runTask i, rfl, ?_⟩
    simp [PoolLife.step, CXTaskPool.runTask, hi]
  | waiting =>
    cases b with
    | false => exact ⟨.check i, rfl, by simp [PoolLife.step, PoolLife.check, hi, hc, hstopped]⟩
    | true =>
      have hpos : 0 < s.stands.countP waits :=
        List.countP_pos_iff.mpr ⟨_, List.mem_of_getElem? (stands_getElem? hi hc), rfl⟩
      have hevent := hpos.trans_le (h.notified hw)
      exact ⟨.wake i, rfl, by simp [PoolLife.step, inSection, CXTaskPool.wake, hi, hc, hevent]⟩
  | woken =>
    cases b with
    | false => exact ⟨.check i, rfl, by simp [PoolLife.step, PoolLife.check, hi, hc, hstopped]⟩
    | true =>
      refine ⟨.decideExit i, rfl, ?_⟩
      simp only [PoolLife.step, inSection, hc, if_true, CXTaskPool.decideExit, hi, hresizing, Bool.false_eq_true,
        if_false]
      split_ifs <;> rfl
  | taking =>
    cases b with
    | false => exact ⟨.check i, rfl, by simp [PoolLife.step, PoolLife.check, hi, hc, hstopped]⟩
    | true =>
      refine ⟨.takeTask i, rfl, ?_⟩
      simp only [PoolLife.step, inSection, hc, if_true, CXTaskPool.takeTask, hi, hresizing]
      by_cases hsize : 0 < s.pool.queueOutstandingTask.size
      · obtain ⟨t, rest, q, -, hpop, -⟩ := hf.popFront hsize
        simp [hsize, hpop]
      · simp [hsize]

theorem ending_run {as : List (Act τ)} (h : Inv s) (hended : s.owner ≠ .free) (hr : runSteps step s as = some s') :
    Inv s' ∧ Ending s s' (as.countP Act.ofWorker) := by
  induction as generalizing s with
  | nil =>
    cases hr
    exact ⟨h, .refl hended⟩
  | cons a as ih =>
    obtain ⟨s₁, hs, hr⟩ := Option.bind_eq_some_iff.mp hr
    have hstep := ending_step h hended hs
    obtain ⟨h', hrest⟩ := ih (h.step hs) hstep.ended hr
    refine ⟨h', ?_⟩
    rw [List.countP_cons, Nat.add_comm]
    exact hstep.trans hrest

theorem stepsLeft_le (h : s.checked.length = s.pool.workers.length) : s.stepsLeft ≤ 4 * s.pool.workers.length := by
  have hrank : ∀ n ∈ s.stands.map rank, n ≤ 4 := by
    intro n hn
    obtain ⟨⟨w, b⟩, -, rfl⟩ := List.mem_map.mp hn
    cases w <;> cases b <;> simp [rank]
  have hlen : s.stands.length = s.pool.workers.length := by
    unfold stands
    rw [List.length_zip, h, min_self]
  have hsum := List.sum_le_card_nsmul _ 4 hrank
  rw [List.length_map, hlen, smul_eq_mul, Nat.mul_comm] at hsum
  exact hsum

/-- However the steps of `Destroy`, of the workers and of those who push tasks follow one another. -/
theorem leaves_of_destroy {iPoolSize iTaskQueueSize : Nat} {s₁ : PoolLife τ} {as : List (Act τ)}
    (h : Reachable step (created iPoolSize iTaskQueueSize) s₁) (hd : s₁.step .destroy = some s₀)
    (hr : runSteps step s₀ as = some s) : Leaves s₀ as s := by
  have h₁ : Inv s₁ := h.invariant (inv_created _ _) fun _ _ _ hi hs => hi.step hs
  have h₀ := h₁.step hd
  have howner : s₀.owner = .notifying 0 := by
    unfold step destroy at hd
    dsimp only at hd
    split at hd
    · cases hd
      rfl
    · cases hd
  obtain ⟨hi, hend⟩ := ending_run h₀ (by rw [howner]; nofun) hr
  refine ⟨hend.steps, stepsLeft_le h₀.length, (Nat.le_add_right _ _).trans hend.popped, fun i hnot => ?_, fun hw => ?_⟩
  · refine ⟨hend.posts le_rfl (fun k hk => ?_) i hnot, ?_⟩
    · rw [howner] at hk
      cases hk
      exact Nat.zero_le _
    · simp only [step, notify, hnot]
      split_ifs <;> rfl
  · by_contra hnone
    push Not at hnone
    obtain ⟨a, ha, hsome⟩ := hi.exists_step hw hnone.1
    exact hnone.2 a ha hsome

/-- Three workers, of which one has a task in its hands and one is sent away while `Destroy` posts. -/
def lifeActs : List (Act Nat) :=
  [.check 0, .check 1, .check 2, .pushTask 7, .pushTask 8, .wake 0, .check 0, .decideExit 0, .check 0, .takeTask 0,
    .resizePool 2 [] [] true, .wake 1, .check 1, .resizeWait .failed]

def endActs : List (Act Nat) :=
  [.decideExit 1, .notify, .runTask 0, .pushTask 9, .notify, .notify, .check 0, .wake 2]

theorem leaves_of_destroy_three : ∃ s₁ s₀ s : PoolLife Nat, runSteps step (created 3 100) lifeActs = some s₁ ∧
    s₁.step .destroy = some s₀ ∧ runSteps step s₀ endActs = some s ∧
    s.pool.workers = [.waiting, .exited, .woken] ∧ Leaves s₀ endActs s := by
  obtain ⟨s₁, s₀, s, hs₁, hs₀, hs, hworkers⟩ : ∃ s₁ s₀ s : PoolLife Nat,
      runSteps step (created 3 100) lifeActs = some s₁ ∧ s₁.step .destroy = some s₀ ∧
        runSteps step s₀ endActs = some s ∧ s.pool.workers = [.waiting, .exited, .woken] :=
    ⟨_, _, _, rfl, rfl, rfl, rfl⟩
  exact ⟨s₁, s₀, s, hs₁, hs₀, hs, hworkers, leaves_of_destroy (Reachable.of_runSteps hs₁) hs₀ hs⟩

end PoolLife

end KonsanNet
