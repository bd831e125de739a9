import Mathlib.Tactic
import KonsanNet.QueueDrain
import KonsanNet.Run

/-!
# A system over the queue in memory

A system that keeps messages in a list, of which a step takes the first one or puts some at the end, is run here over
the compacting queue: a message that a step puts into the list is pushed, and one that a step takes comes from
`PopFront`. Where each operation on the queue meets its condition, the runs are those of the system (`Refines`); and
a run whose list has less than 10240 messages is one over the queue (`exists_of_short`).
-/

namespace KonsanNet

/-- What a step does with the list of messages does not depend on what else is in it. -/
structure QueueSystem (σ α μ : Type) where
  step : σ → α → Option σ
  get : σ → List μ
  put : σ → List μ → σ
  /-- The step takes the first message. -/
  takes : σ → α → Bool
  get_put : ∀ s l, get (put s l) = l
  put_put : ∀ s l l', put (put s l) l' = put s l'
  put_get : ∀ s, put s (get s) = s
  takes_put : ∀ s l a, takes (put s l) a = takes s a
  step_adds : ∀ s l a, takes s a = false →
    step (put s (l ++ get s)) a = (step s a).map fun s' => put s' (l ++ get s')
  step_takes : ∀ s m l a, takes s a = true → step (put s (m :: l)) a = (step (put s [m]) a).map fun s' => put s' l
  step_nil : ∀ s a, takes s a = true → step (put s []) a = none

namespace QueueSystem

variable {σ α μ : Type} (S : QueueSystem σ α μ)

/-- `Push` of one message after the other; nobody looks at what it returns. -/
def pushAll (newOk : Bool) : List μ → NodeQueue μ → Option (NodeQueue μ)
  | [], queue => some queue
  | m :: ms, queue => (queue.push newOk (some m)).bind fun r => pushAll newOk ms r.1

/-- Each `Push` meets its condition. -/
def pushAllOk (newOk : Bool) : List μ → NodeQueue μ → Bool
  | [], _ => true
  | m :: ms, queue =>
    decide (queue.PushOk newOk) && (queue.push newOk (some m)).all fun r => pushAllOk newOk ms r.1

/-- A step over the queue. The list is empty between the steps: it has the message that `PopFront` has given to the
step, and the messages to be pushed behind it. A step that finds `NULL` does nothing else. -/
def nodeStep (s : σ × NodeQueue μ) (a : α × Bool) : Option (σ × NodeQueue μ) :=
  if S.takes s.1 a.1 = true then
    if 0 < s.2.size then
      match s.2.popFront with
      | none => none
      | some (queue, none) => some (s.1, queue)
      | some (queue, some m) => (S.step (S.put s.1 [m]) a.1).map fun s' => (s', queue)
    else none
  else
    (S.step s.1 a.1).bind fun s' => (pushAll a.2 (S.get s') s.2).map fun queue => (S.put s' [], queue)

/-- The operations on the queue meet their conditions. -/
def QueueOk (s : σ × NodeQueue μ) (a : α × Bool) : Prop :=
  if S.takes s.1 a.1 = true then s.2.PopOk else ∀ s' ∈ S.step s.1 a.1, pushAllOk a.2 (S.get s') s.2 = true

instance (s : σ × NodeQueue μ) (a : α × Bool) : Decidable (S.QueueOk s a) :=
  inferInstanceAs (Decidable (if S.takes s.1 a.1 = true then s.2.PopOk else _))

/-- The step meets the condition, and its operations on the queue meet theirs. -/
def StepOk (ok : σ → α → Prop) (s : σ × NodeQueue μ) (a : α × Bool) : Prop := ok s.1 a.1 ∧ S.QueueOk s a

instance (ok : σ → α → Prop) [∀ s a, Decidable (ok s a)] (s : σ × NodeQueue μ) (a : α × Bool) :
    Decidable (S.StepOk ok s a) :=
  inferInstanceAs (Decidable (ok s.1 a.1 ∧ S.QueueOk s a))

/-- The queue stands for the list. -/
structure Refines (s : σ × NodeQueue μ) (t : σ) : Prop where
  rest : s.1 = S.put t []
  queue : s.2.Stands ((S.get t).map some)

/-- The messages of the list are in one block. -/
structure Roomy (s : σ × NodeQueue μ) (t : σ) : Prop where
  rest : s.1 = S.put t []
  queue : s.2.OneBlock ((S.get t).map some)

/-- The list has room for a message before the step, and does not outgrow a block in it. -/
def Short (t : σ) (a : α) : Prop :=
  (S.get t).length < 10240 ∧ ∀ t' ∈ S.step t a, (S.get t').length ≤ 10240

instance (t : σ) (a : α) : Decidable (S.Short t a) :=
  inferInstanceAs (Decidable ((S.get t).length < 10240 ∧ ∀ t' ∈ S.step t a, (S.get t').length ≤ 10240))

variable {S} {s s' : σ × NodeQueue μ} {t t' : σ} {a : α × Bool}

theorem get_of_takes {m : μ} {b : α} (hb : S.takes t b = true) (h : S.step (S.put t [m]) b = some t') :
    S.put t' [] = t' := by
  have hself := S.step_takes t m [] b hb
  rw [h] at hself
  exact (Option.some.inj hself).symm

theorem exists_pushAll {newOk : Bool} : ∀ {ms : List μ} {queue : NodeQueue μ} {l : List μ},
    queue.Stands (l.map some) → pushAllOk newOk ms queue = true →
      ∃ queue', pushAll newOk ms queue = some queue' ∧ queue'.Stands ((l ++ ms).map some)
  | [], queue, l, h, _ => ⟨queue, rfl, by rwa [List.append_nil]⟩
  | m :: ms, queue, l, h, hok => by
    simp only [pushAllOk, Bool.and_eq_true, decide_eq_true_eq] at hok
    obtain ⟨q₁, hrun, hq₁⟩ := h.push hok.1 (some m)
    rw [← List.map_singleton, ← List.map_append] at hq₁
    have hrest : pushAllOk newOk ms q₁ = true := by simpa [hrun] using hok.2
    obtain ⟨q₂, hrun₂, hq₂⟩ := exists_pushAll hq₁ hrest
    refine ⟨q₂, ?_, by rwa [List.append_assoc] at hq₂⟩
    simp only [pushAll, hrun]
    exact hrun₂

theorem pushAll_roomy : ∀ {ms : List μ} {queue : NodeQueue μ} {l : List μ},
    queue.OneBlock (l.map some) → (l ++ ms).length ≤ 10240 →
      ∃ queue', pushAllOk true ms queue = true ∧ pushAll true ms queue = some queue' ∧
        queue'.OneBlock ((l ++ ms).map some)
  | [], queue, l, h, _ => ⟨queue, rfl, rfl, by rwa [List.append_nil]⟩
  | m :: ms, queue, l, h, hle => by
    have hlt : (l.map some).length < 10240 := by
      rw [List.length_append, List.length_cons] at hle
      rw [List.length_map]
      omega
    obtain ⟨q₁, hok, hrun, hq₁⟩ := h.push hlt (some m)
    rw [← List.map_singleton, ← List.map_append] at hq₁
    have hle' : (l ++ [m] ++ ms).length ≤ 10240 := by rwa [List.append_assoc]
    obtain ⟨q₂, hok₂, hrun₂, hq₂⟩ := pushAll_roomy hq₁ hle'
    refine ⟨q₂, ?_, ?_, by rwa [List.append_assoc] at hq₂⟩
    · simp only [pushAllOk, Bool.and_eq_true, decide_eq_true_eq, hrun]
      exact ⟨hok, hok₂⟩
    · simp only [pushAll, hrun]
      exact hrun₂

/-- A step that adds messages does so behind those that the queue stands for. -/
theorem step_put_nil {b : α} (hb : S.takes t b = false) :
    S.step t b = (S.step (S.put t []) b).map fun t' => S.put t' (S.get t ++ S.get t') := by
  have h := S.step_adds (S.put t []) (S.get t) b ((S.takes_put t [] b).trans hb)
  rwa [S.get_put, List.append_nil, S.put_put, S.put_get] at h

namespace Refines

theorem size (h : S.Refines s t) : s.2.size = (S.get t).length := by
  rw [h.queue.size, List.length_map]

theorem takes (h : S.Refines s t) : S.takes s.1 a.1 = S.takes t a.1 := by
  rw [h.rest, S.takes_put]

/-- Where the operations on the queue meet their conditions, the steps over it are those of the system. -/
theorem step (h : S.Refines s t) (hok : S.QueueOk s a) (hs : S.nodeStep s a = some s') :
    ∃ t', S.step t a.1 = some t' ∧ S.Refines s' t' := by
  unfold nodeStep at hs
  unfold QueueOk at hok
  by_cases htakes : S.takes s.1 a.1 = true
  · rw [if_pos htakes] at hs hok
    have ht := h.takes.symm.trans htakes
    split at hs
    case isFalse => cases hs
    rename_i hsize
    rw [h.size] at hsize
    obtain ⟨m, rest, hget⟩ := List.exists_cons_of_length_pos (l := S.get t) (by exact_mod_cast hsize)
    obtain ⟨queue, hrun, hq⟩ := h.queue.popFront hok
    rw [hget] at hrun hq
    rw [hrun] at hs
    obtain ⟨t₁, ht₁, rfl⟩ := Option.map_eq_some_iff.mp hs
    rw [h.rest, S.put_put] at ht₁
    refine ⟨S.put t₁ rest, ?_, ?_, ?_⟩
    · have hstep := S.step_takes t m rest a.1 ht
      rwa [← hget, S.put_get, ht₁] at hstep
    · rw [S.put_put, get_of_takes ht ht₁]
    · rw [S.get_put]
      exact hq
  · rw [if_neg htakes] at hs hok
    have ht : S.takes t a.1 = false := h.takes.symm.trans (Bool.eq_false_of_not_eq_true htakes)
    obtain ⟨t₁, ht₁, hs⟩ := Option.bind_eq_some_iff.mp hs
    obtain ⟨queue, hqueue, rfl⟩ := Option.map_eq_some_iff.mp hs
    obtain ⟨queue', hrun, hq⟩ := exists_pushAll h.queue (hok t₁ ht₁)
    cases hqueue.symm.trans hrun
    rw [h.rest] at ht₁
    refine ⟨S.put t₁ (S.get t ++ S.get t₁), ?_, ?_, ?_⟩
    · rw [step_put_nil ht, ht₁]
      rfl
    · rw [S.put_put]
    · rw [S.get_put]
      exact hq

/-- A step of the system can be done over the queue, if its operations on the queue meet their conditions. -/
theorem exists_step (h : S.Refines s t) (hok : S.QueueOk s a) (ht : S.step t a.1 = some t') :
    ∃ s', S.nodeStep s a = some s' := by
  unfold nodeStep
  unfold QueueOk at hok
  by_cases htakes : S.takes s.1 a.1 = true
  · rw [if_pos htakes] at hok ⊢
    have htake := h.takes.symm.trans htakes
    cases hget : S.get t with
    | nil =>
      have hnone := S.step_nil t a.1 htake
      rw [← hget, S.put_get, ht] at hnone
      cases hnone
    | cons m rest =>
      obtain ⟨queue, hrun, -⟩ := h.queue.popFront hok
      rw [hget] at hrun
      have hsize : 0 < s.2.size := by
        rw [h.size, hget, List.length_cons]
        omega
      have hstep := S.step_takes t m rest a.1 htake
      rw [← hget, S.put_get, ht] at hstep
      obtain ⟨t₁, ht₁, -⟩ := Option.map_eq_some_iff.mp hstep.symm
      rw [if_pos hsize, hrun]
      refine ⟨(t₁, queue), ?_⟩
      show (S.step (S.put s.1 [m]) a.1).map _ = _
      rw [h.rest, S.put_put, ht₁]
      rfl
  · rw [if_neg htakes] at hok ⊢
    have htake : S.takes t a.1 = false := h.takes.symm.trans (Bool.eq_false_of_not_eq_true htakes)
    rw [step_put_nil htake] at ht
    obtain ⟨t₁, ht₁, -⟩ := Option.map_eq_some_iff.mp ht
    rw [← h.rest] at ht₁
    obtain ⟨queue, hrun, -⟩ := exists_pushAll h.queue (hok t₁ ht₁)
    refine ⟨(S.put t₁ [], queue), ?_⟩
    rw [ht₁]
    show (pushAll a.2 (S.get t₁) s.2).map _ = _
    rw [hrun]
    rfl

end Refines

theorem Roomy.size (h : S.Roomy s t) : s.2.size = (S.get t).length := by
  rw [h.queue.size, List.length_map]

theorem Roomy.step {b : α} (h : S.Roomy s t) (hshort : S.Short t b) (ht : S.step t b = some t') :
    ∃ s', S.QueueOk s (b, true) ∧ S.nodeStep s (b, true) = some s' ∧ S.Roomy s' t' := by
  obtain ⟨hlt, hle⟩ := hshort
  have hle := hle t' ht
  have htakes : S.takes s.1 b = S.takes t b := by rw [h.rest, S.takes_put]
  unfold nodeStep QueueOk
  by_cases htake : S.takes t b = true
  · have hs : S.takes s.1 b = true := htakes.trans htake
    rw [if_pos hs, if_pos hs]
    cases hget : S.get t with
    | nil =>
      have hnone := S.step_nil t b htake
      rw [← hget, S.put_get, ht] at hnone
      cases hnone
    | cons m rest =>
      have hq := h.queue
      rw [hget] at hq hlt
      obtain ⟨queue, hok, hsize, hpop, hq'⟩ := NodeQueue.OneBlock.popFront hq
        (by rwa [← List.map_cons, List.length_map])
      have hstep := S.step_takes t m rest b htake
      rw [← hget, S.put_get, ht] at hstep
      obtain ⟨t₁, ht₁, rfl⟩ := Option.map_eq_some_iff.mp hstep.symm
      rw [if_pos hsize, hpop]
      refine ⟨(t₁, queue), hok, ?_, ?_, ?_⟩
      · show (S.step (S.put s.1 [m]) b).map _ = _
        rw [h.rest, S.put_put, ht₁]
        rfl
      · rw [S.put_put, get_of_takes htake ht₁]
      · rw [S.get_put]
        exact hq'
  · have hno : S.takes t b = false := Bool.eq_false_of_not_eq_true htake
    have hs : ¬ S.takes s.1 b = true := by rw [htakes]; exact htake
    rw [if_neg hs, if_neg hs]
    rw [step_put_nil hno] at ht
    obtain ⟨t₁, ht₁, rfl⟩ := Option.map_eq_some_iff.mp ht
    rw [S.get_put] at hle
    rw [← h.rest] at ht₁
    obtain ⟨queue, hok, hrun, hq⟩ := pushAll_roomy h.queue hle
    refine ⟨(S.put t₁ [], queue), fun t₂ ht₂ => ?_, ?_, ?_, ?_⟩
    · cases ht₁.symm.trans ht₂
      exact hok
    · rw [ht₁]
      show (pushAll true (S.get t₁) s.2).map _ = _
      rw [hrun]
      rfl
    · rw [S.put_put]
    · rw [S.get_put]
      exact hq

section Runs

variable (ok : σ → α → Prop) [∀ s a, Decidable (ok s a)] {t₀ : σ}

/-- A run over the queue whose operations on it meet their conditions is one of the system. -/
theorem exists_of_queueOk (hok : ∀ t l b, ok (S.put t l) b ↔ ok t b) (h₀ : S.get t₀ = [])
    (h : Reachable (guarded (S.StepOk ok) S.nodeStep) (t₀, .construct) s) :
    ∃ t, S.Refines s t ∧ Reachable (guarded ok S.step) t₀ t := by
  have hstart : S.Refines (t₀, .construct) t₀ := by
    refine ⟨by rw [← h₀, S.put_get], ?_⟩
    rw [h₀]
    exact NodeQueue.stands_construct
  refine h.simulation hstart fun s t a s' hr hs => .inr ?_
  obtain ⟨⟨hcond, hqueue⟩, hs⟩ := guarded_eq_some.mp hs
  obtain ⟨t', ht, h'⟩ := hr.step hqueue hs
  refine ⟨a.1, t', guarded_eq_some.mpr ⟨?_, ht⟩, h'⟩
  rw [hr.rest] at hcond
  exact (hok t [] a.1).mp hcond

/-- A run of the system with few messages in its list is one over the queue, and each operation on the queue meets
its condition. -/
theorem exists_of_short (hok : ∀ t l b, ok (S.put t l) b ↔ ok t b) (h₀ : S.get t₀ = [])
    (h : Reachable (guarded (fun t b => ok t b ∧ S.Short t b) S.step) t₀ t) :
    ∃ s, S.Roomy s t ∧ Reachable (guarded (S.StepOk ok) S.nodeStep) (t₀, .construct) s := by
  have hstart : S.Roomy (t₀, .construct) t₀ := by
    refine ⟨by rw [← h₀, S.put_get], ?_⟩
    rw [h₀]
    exact .inl ⟨rfl, rfl⟩
  refine h.simulation (R := fun t s => S.Roomy s t) hstart fun t s b t' hr ht => .inr ?_
  obtain ⟨⟨hcond, hshort⟩, ht⟩ := guarded_eq_some.mp ht
  obtain ⟨s', hqueue, hs, h'⟩ := hr.step hshort ht
  refine ⟨(b, true), s', guarded_eq_some.mpr ⟨⟨?_, hqueue⟩, hs⟩, h'⟩
  rw [hr.rest]
  exact (hok t [] b).mpr hcond

end Runs

end QueueSystem

end KonsanNet
