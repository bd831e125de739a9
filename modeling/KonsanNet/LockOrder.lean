import Mathlib.Tactic
import Mathlib.Logic.Relation
import KonsanNet.Run

/-!
# Threads that lock, and locks that are taken in an order

A thread has a stack of what it still has to do: to take a lock, to release one, or to run a function. Running a
function reads and writes the shared data and puts the function's body onto the stack; what the function cannot
know is the choice of the step. A lock blocks whoever asks for it while anybody has it, its owner included.

`Discipline` is a proof that the functions take the locks in the order of their ranks, function by function: `pre`
says with which locks a function may be run, `post` with which it returns. If there is one, no thread asks for a
lock it has, and the threads do not wait for each other in a circle.
-/

namespace KonsanNet

variable {τ Λ φ δ χ : Type}

inductive Op (Λ φ : Type)
  | lock (l : Λ)
  | unlock (l : Λ)
  | call (f : φ)

/-- `body` between taking and releasing the lock. -/
def withLock (l : Λ) (body : List (Op Λ φ)) : List (Op Λ φ) :=
  .lock l :: body ++ [.unlock l]

structure Threads (τ Λ φ δ : Type) where
  data : δ
  owner : Λ → Option τ
  stack : τ → List (Op Λ φ)

inductive ThreadAct (τ φ χ : Type)
  /-- the idle thread begins with `f` -/
  | start (t : τ) (f : φ)
  | run (t : τ) (x : χ)

namespace Threads

/-- Nothing runs and no lock is taken. -/
def idle (d : δ) : Threads τ Λ φ δ := ⟨d, fun _ => none, fun _ => []⟩

section Step

variable [DecidableEq τ] [DecidableEq Λ]

def step (exec : δ → φ → χ → Option (δ × List (Op Λ φ))) (entry : φ → Bool) (s : Threads τ Λ φ δ) :
    ThreadAct τ φ χ → Option (Threads τ Λ φ δ)
  | .start t f =>
    match s.stack t with
    | [] => if entry f then some { s with stack := Function.update s.stack t [.call f] } else none
    | _ :: _ => none
  | .run t x =>
    match s.stack t with
    | [] => none
    | .lock l :: rest =>
      match s.owner l with
      | none => some { s with
          owner := Function.update s.owner l (some t), stack := Function.update s.stack t rest }
      | some _ => none
    | .unlock l :: rest => some { s with
        owner := Function.update s.owner l none, stack := Function.update s.stack t rest }
    | .call f :: rest =>
      (exec s.data f x).map fun (d, body) =>
        { s with data := d, stack := Function.update s.stack t (body ++ rest) }

end Step

/-- The condition `ok` on the functions that are run. -/
def allows (ok : δ → φ → χ → Bool) (s : Threads τ Λ φ δ) : ThreadAct τ φ χ → Bool
  | .start _ _ => true
  | .run t x =>
    match s.stack t with
    | .call f :: _ => ok s.data f x
    | _ => true

/-- The next thing that `t` does is to ask for a lock that `u` has. -/
def Waits (s : Threads τ Λ φ δ) (t u : τ) : Prop :=
  ∃ l rest, s.stack t = .lock l :: rest ∧ s.owner l = some u

/-- Some thread asks for a lock that it has itself. -/
def SelfLock (s : Threads τ Λ φ δ) : Prop :=
  ∃ t, s.Waits t t

/-- Some threads wait for each other in a circle. -/
def WaitCycle (s : Threads τ Λ φ δ) : Prop :=
  ∃ t, Relation.TransGen s.Waits t t

theorem SelfLock.waitCycle {s : Threads τ Λ φ δ} (h : s.SelfLock) : s.WaitCycle := by
  obtain ⟨t, h⟩ := h
  exact ⟨t, .single h⟩

end Threads

section Fits

variable {ι : Type} [Preorder ι]

/-- The locks `held` are below the rank `r`. -/
def Below (rank : Λ → ι) (held : List Λ) (r : ι) : Prop :=
  ∀ l ∈ held, rank l < r

/-- What is left to do, begun with the locks `held`, takes the locks in the order of their ranks and ends
without any. -/
def Fits [DecidableEq Λ] (rank : Λ → ι) (pre : φ → List Λ → Prop) (post : φ → List Λ → List Λ) :
    List Λ → List (Op Λ φ) → Prop
  | held, [] => held = []
  | held, .lock l :: rest => Below rank held (rank l) ∧ Fits rank pre post (l :: held) rest
  | held, .unlock l :: rest => Fits rank pre post (held.erase l) rest
  | held, .call f :: rest => pre f held ∧ Fits rank pre post (post f held) rest

variable {rank : Λ → ι} {pre : φ → List Λ → Prop} {post : φ → List Λ → List Λ} {held : List Λ} {l : Λ}
variable {r : ι} {rest body : List (Op Λ φ)}

@[simp] theorem below_nil : Below rank [] r := by
  simp [Below]

@[simp] theorem below_cons : Below rank (l :: held) r ↔ rank l < r ∧ Below rank held r := by
  simp [Below]

theorem Below.le (h : Below rank held r) (r' : ι) (hr : r ≤ r') : Below rank held r' :=
  fun l hl => (h l hl).trans_le hr

section

variable [DecidableEq Λ]

@[simp] theorem fits_lock :
    Fits rank pre post held (.lock l :: rest) ↔
      Below rank held (rank l) ∧ Fits rank pre post (l :: held) rest := Iff.rfl

@[simp] theorem fits_unlock :
    Fits rank pre post (l :: held) (.unlock l :: rest) ↔ Fits rank pre post held rest := by
  simp [Fits]

@[simp] theorem fits_call {f : φ} :
    Fits rank pre post held (.call f :: rest) ↔ pre f held ∧ Fits rank pre post (post f held) rest := Iff.rfl

@[simp] theorem fits_withLock :
    Fits rank pre post held (withLock l body ++ rest) ↔
      Below rank held (rank l) ∧ Fits rank pre post (l :: held) (body ++ .unlock l :: rest) := by
  simp [withLock]

end

end Fits

/-- The functions take the locks in the order of `rank`. -/
structure Discipline (ι : Type) [Preorder ι] [DecidableEq Λ] (exec : δ → φ → χ → Option (δ × List (Op Λ φ)))
    (entry : φ → Bool) (ok : δ → φ → χ → Bool) where
  rank : Λ → ι
  pre : φ → List Λ → Prop
  post : φ → List Λ → List Λ
  entry_fits {f : φ} : entry f → pre f [] ∧ post f [] = []
  body_fits {d d' : δ} {f : φ} {x : χ} {held : List Λ} {rest body : List (Op Λ φ)} :
    ok d f x → exec d f x = some (d', body) → pre f held → Fits rank pre post (post f held) rest →
      Fits rank pre post held (body ++ rest)

namespace Discipline

variable {ι : Type} [Preorder ι] [DecidableEq Λ]
variable {exec : δ → φ → χ → Option (δ × List (Op Λ φ))} {entry : φ → Bool} {ok : δ → φ → χ → Bool}
variable (D : Discipline ι exec entry ok) {s s' : Threads τ Λ φ δ} {a : ThreadAct τ φ χ} {t u v : τ} {d : δ}

/-- The locks of `t` are among `held`, with which its stack fits. A lock that somebody else has released in its
place is in `held` and no longer its own. -/
def FitsThread (s : Threads τ Λ φ δ) (t : τ) : Prop :=
  ∃ held, (∀ l, s.owner l = some t → l ∈ held) ∧ Fits D.rank D.pre D.post held (s.stack t)

def Inv (s : Threads τ Λ φ δ) : Prop :=
  ∀ t, D.FitsThread s t

theorem inv_idle : D.Inv (Threads.idle (τ := τ) d) := by
  intro t
  refine ⟨[], ?_, rfl⟩
  intro l hl
  cases hl

/-- Another thread's stack fits as before if it has gained no lock. -/
theorem FitsThread.of_same (h : D.FitsThread s t) (hs : s'.stack t = s.stack t)
    (ho : ∀ l, s'.owner l = some t → s.owner l = some t) : D.FitsThread s' t := by
  obtain ⟨held, hown, hf⟩ := h
  refine ⟨held, fun l hl => hown l (ho l hl), ?_⟩
  rw [hs]
  exact hf

/-- Whoever has the lock that `t` asks for asks himself for none but a higher one. -/
theorem Inv.rank_lt {l m : Λ} {rest : List (Op Λ φ)} (h : D.Inv s) (ho : s.owner l = some u)
    (hs : s.stack u = .lock m :: rest) : D.rank l < D.rank m := by
  obtain ⟨held, hown, hf⟩ := h u
  rw [hs] at hf
  exact hf.1 l (hown l ho)

/-- Along a chain of waiting threads the ranks of the locks they ask for go up. -/
theorem Inv.rank_lt_of_waits (h : D.Inv s) (hw : Relation.TransGen s.Waits t u) :
    ∃ l rest, s.stack t = .lock l :: rest ∧ ∀ m rest', s.stack u = .lock m :: rest' → D.rank l < D.rank m := by
  induction hw with
  | single hw =>
    obtain ⟨l, rest, hs, ho⟩ := hw
    exact ⟨l, rest, hs, fun m rest' hm => h.rank_lt D ho hm⟩
  | tail _ hw ih =>
    obtain ⟨l, rest, hs, hlt⟩ := ih
    obtain ⟨k, rest', hk, ho⟩ := hw
    exact ⟨l, rest, hs, fun m rest'' hm => (hlt k rest' hk).trans (h.rank_lt D ho hm)⟩

theorem Inv.no_waitCycle (h : D.Inv s) : ¬s.WaitCycle := by
  rintro ⟨t, hw⟩
  obtain ⟨l, rest, hs, hlt⟩ := h.rank_lt_of_waits D hw
  exact lt_irrefl _ (hlt l rest hs)

variable [DecidableEq τ]

/-- One step of the threads, by what it does. -/
theorem step_cases (h : s.step exec entry a = some s') :
    (∃ t f, a = .start t f ∧ s.stack t = [] ∧ entry f ∧
      s' = { s with stack := Function.update s.stack t [.call f] }) ∨
    (∃ t x l rest, a = .run t x ∧ s.stack t = .lock l :: rest ∧ s.owner l = none ∧
      s' = { s with owner := Function.update s.owner l (some t), stack := Function.update s.stack t rest }) ∨
    (∃ t x l rest, a = .run t x ∧ s.stack t = .unlock l :: rest ∧
      s' = { s with owner := Function.update s.owner l none, stack := Function.update s.stack t rest }) ∨
    (∃ t x f rest d body, a = .run t x ∧ s.stack t = .call f :: rest ∧ exec s.data f x = some (d, body) ∧
      s' = { s with data := d, stack := Function.update s.stack t (body ++ rest) }) := by
  cases a with
  | start t f =>
    rw [Threads.step] at h
    split at h
    · rename_i hs
      split at h
      · rename_i he
        cases h
        exact .inl ⟨t, f, rfl, hs, he, rfl⟩
      · cases h
    · cases h
  | run t x =>
    rw [Threads.step] at h
    split at h
    · cases h
    · rename_i l rest hs
      split at h
      · rename_i ho
        cases h
        exact .inr (.inl ⟨t, x, l, rest, rfl, hs, ho, rfl⟩)
      · cases h
    · rename_i l rest hs
      cases h
      exact .inr (.inr (.inl ⟨t, x, l, rest, rfl, hs, rfl⟩))
    · rename_i f rest hs
      obtain ⟨⟨d, body⟩, he, rfl⟩ := Option.map_eq_some_iff.mp h
      exact .inr (.inr (.inr ⟨t, x, f, rest, d, body, rfl, hs, he, rfl⟩))

theorem Inv.start {f : φ} (h : D.Inv s) (hs : s.stack t = []) (he : entry f) :
    D.Inv { s with stack := Function.update s.stack t [.call f] } := by
  intro u
  by_cases hu : u = t
  · subst hu
    obtain ⟨held, hown, hf⟩ := h u
    rw [hs] at hf
    obtain rfl : held = [] := hf
    refine ⟨[], hown, ?_⟩
    obtain ⟨hpre, hpost⟩ := D.entry_fits he
    show Fits _ _ _ _ (Function.update s.stack u [.call f] u)
    rw [Function.update_self, fits_call, hpost]
    exact ⟨hpre, rfl⟩
  · exact FitsThread.of_same D (h u) (Function.update_of_ne hu _ _) fun _ hl => hl

theorem Inv.lock {l : Λ} {rest : List (Op Λ φ)} (h : D.Inv s) (hs : s.stack t = .lock l :: rest)
    (ho : s.owner l = none) :
    D.Inv { s with owner := Function.update s.owner l (some t), stack := Function.update s.stack t rest } := by
  intro u
  by_cases hu : u = t
  · subst hu
    obtain ⟨held, hown, hf⟩ := h u
    rw [hs] at hf
    refine ⟨l :: held, ?_, ?_⟩
    · intro m hm
      by_cases hml : m = l
      · exact hml ▸ List.mem_cons_self
      · exact List.mem_cons_of_mem _ (hown m (by rwa [← Function.update_of_ne hml (some u) s.owner]))
    · show Fits _ _ _ _ (Function.update s.stack u rest u)
      rw [Function.update_self]
      exact hf.2
  · refine FitsThread.of_same D (h u) (Function.update_of_ne hu _ _) ?_
    intro m hm
    by_cases hml : m = l
    · subst hml
      simp only [Function.update_self, Option.some.injEq] at hm
      exact absurd hm.symm hu
    · rwa [← Function.update_of_ne hml (some t) s.owner]

theorem Inv.unlock {l : Λ} {rest : List (Op Λ φ)} (h : D.Inv s) (hs : s.stack t = .unlock l :: rest) :
    D.Inv { s with owner := Function.update s.owner l none, stack := Function.update s.stack t rest } := by
  have hother : ∀ m, ∀ v : τ, Function.update s.owner l none m = some v → m ≠ l ∧ s.owner m = some v := by
    intro m v hm
    by_cases hml : m = l
    · subst hml
      simp at hm
    · exact ⟨hml, by rwa [← Function.update_of_ne hml none s.owner]⟩
  intro u
  by_cases hu : u = t
  · subst hu
    obtain ⟨held, hown, hf⟩ := h u
    rw [hs] at hf
    refine ⟨held.erase l, ?_, ?_⟩
    · intro m hm
      obtain ⟨hml, hm⟩ := hother m u hm
      exact (List.mem_erase_of_ne hml).mpr (hown m hm)
    · show Fits _ _ _ _ (Function.update s.stack u rest u)
      rw [Function.update_self]
      exact hf
  · exact FitsThread.of_same D (h u) (Function.update_of_ne hu _ _) fun m hm => (hother m u hm).2

theorem Inv.call {f : φ} {x : χ} {rest body : List (Op Λ φ)} {d' : δ} (h : D.Inv s)
    (hs : s.stack t = .call f :: rest) (hok : ok s.data f x) (he : exec s.data f x = some (d', body)) :
    D.Inv { s with data := d', stack := Function.update s.stack t (body ++ rest) } := by
  intro u
  by_cases hu : u = t
  · subst hu
    obtain ⟨held, hown, hf⟩ := h u
    rw [hs] at hf
    refine ⟨held, hown, ?_⟩
    show Fits _ _ _ _ (Function.update s.stack u (body ++ rest) u)
    rw [Function.update_self]
    exact D.body_fits hok he hf.1 hf.2
  · exact FitsThread.of_same D (h u) (Function.update_of_ne hu _ _) fun _ hl => hl

theorem Inv.step (h : D.Inv s) (hok : s.allows ok a) (hs : s.step exec entry a = some s') : D.Inv s' := by
  rcases step_cases hs with ⟨t, f, rfl, hst, he, rfl⟩ | ⟨t, x, l, rest, rfl, hst, ho, rfl⟩ |
    ⟨t, x, l, rest, rfl, hst, rfl⟩ | ⟨t, x, f, rest, d, body, rfl, hst, he, rfl⟩
  · exact h.start D hst he
  · exact h.lock D hst ho
  · exact h.unlock D hst
  · refine h.call D hst ?_ he
    rw [Threads.allows, hst] at hok
    exact hok

theorem inv_of_reachable
    (h : Reachable (guarded (fun s a => Threads.allows ok s a) (Threads.step exec entry)) (Threads.idle d) s) : D.Inv s := by
  induction h with
  | init => exact D.inv_idle
  | step a _ hs ih =>
    obtain ⟨hok, hs⟩ := guarded_eq_some.mp hs
    exact ih.step D hok hs

theorem no_waitCycle_of_reachable (D : Discipline ι exec entry ok)
    (h : Reachable (guarded (fun s a => Threads.allows ok s a) (Threads.step exec entry)) (Threads.idle d) s) :
    ¬s.WaitCycle :=
  (D.inv_of_reachable h).no_waitCycle D

end Discipline

end KonsanNet
