import Mathlib.Logic.Basic

/-!
# Runs of a system

A system is a state with a partial step function: an action that cannot be taken in a state has no
step. `Reachable step s₀ s` says that some sequence of actions leads from `s₀` to `s`. A condition
on the actions is made part of the system (`guarded`).
-/

namespace KonsanNet

variable {σ α : Type}

inductive Reachable (step : σ → α → Option σ) (s₀ : σ) : σ → Prop
  | init : Reachable step s₀ s₀
  | step {s s' : σ} (a : α) : Reachable step s₀ s → step s a = some s' → Reachable step s₀ s'

/-- Only the actions that meet the condition `ok`. -/
def guarded (ok : σ → α → Prop) [∀ s a, Decidable (ok s a)] (step : σ → α → Option σ) (s : σ) (a : α) :
    Option σ :=
  if ok s a then step s a else none

/-- One action after the other. -/
def runSteps (step : σ → α → Option σ) : σ → List α → Option σ
  | s, [] => some s
  | s, a :: as => (step s a).bind fun s' => runSteps step s' as

/-- Each action of the run meets `ok` in the state before it. -/
def EachStep (step : σ → α → Option σ) (ok : σ → α → Prop) : σ → List α → Prop
  | _, [] => True
  | s, a :: as => ok s a ∧ ∀ s', step s a = some s' → EachStep step ok s' as

variable {step : σ → α → Option σ} {s₀ s s' : σ}

theorem runSteps_append (as bs : List α) :
    runSteps step s (as ++ bs) = (runSteps step s as).bind fun s' => runSteps step s' bs := by
  induction as generalizing s with
  | nil => rfl
  | cons a as ih =>
    show (step s a).bind _ = ((step s a).bind _).bind _
    rw [Option.bind_assoc]
    exact congrArg _ (funext fun s₁ => ih)

theorem eachStep_cons {ok : σ → α → Prop} {a : α} {as : List α} (hs : step s a = some s') :
    EachStep step ok s (a :: as) ↔ ok s a ∧ EachStep step ok s' as :=
  and_congr_right fun _ => ⟨fun h => h s' hs, fun h _ ht => Option.some.inj (hs.symm.trans ht) ▸ h⟩

/-- What holds at the start and is kept by every step that meets `ok` holds at the end. -/
theorem EachStep.invariant {ok : σ → α → Prop} {Inv : σ → Prop}
    (hinv : ∀ s a s', Inv s → ok s a → step s a = some s' → Inv s') {as : List α}
    (hok : EachStep step ok s as) (h : Inv s) (hr : runSteps step s as = some s') : Inv s' := by
  induction as generalizing s with
  | nil =>
    cases hr
    exact h
  | cons a as ih =>
    obtain ⟨s₁, hs, hr⟩ := Option.bind_eq_some_iff.mp hr
    exact ih (hok.2 s₁ hs) (hinv s a s₁ h hok.1 hs) hr

/-- What the steps that meet `ok` do, under an invariant that they keep, is done at each step of the run. -/
theorem EachStep.mono {ok P : σ → α → Prop} {Inv : σ → Prop} (hP : ∀ s a, Inv s → ok s a → P s a)
    (hinv : ∀ s a s', Inv s → ok s a → step s a = some s' → Inv s') {as : List α} (h : Inv s)
    (hok : EachStep step ok s as) : EachStep step P s as := by
  induction as generalizing s with
  | nil => trivial
  | cons a as ih => exact ⟨hP s a h hok.1, fun s₁ hs => ih (hinv s a s₁ h hok.1 hs) (hok.2 s₁ hs)⟩

/-- Two conditions that agree under an invariant, which each of them keeps, agree over a run. -/
theorem eachStep_iff {P Q : σ → α → Prop} {Inv : σ → Prop}
    (hiff : ∀ s a s', Inv s → step s a = some s' → (P s a ↔ Q s a))
    (hinv : ∀ s a s', Inv s → Q s a → step s a = some s' → Inv s') {as : List α} (h : Inv s)
    (hr : runSteps step s as = some s') : EachStep step P s as ↔ EachStep step Q s as := by
  induction as generalizing s with
  | nil => exact Iff.rfl
  | cons a as ih =>
    obtain ⟨s₁, hs, hr⟩ := Option.bind_eq_some_iff.mp hr
    rw [eachStep_cons hs, eachStep_cons hs, hiff s a s₁ h hs]
    exact and_congr_right fun hQ => ih (hinv s a s₁ h hQ hs) hr

theorem eachStep_const {ok : α → Prop} {as : List α} (hr : runSteps step s as = some s') :
    EachStep step (fun _ => ok) s as ↔ ∀ a ∈ as, ok a := by
  induction as generalizing s with
  | nil => exact ⟨fun _ => nofun, fun _ => trivial⟩
  | cons a as ih =>
    obtain ⟨s₁, hs, hr⟩ := Option.bind_eq_some_iff.mp hr
    rw [eachStep_cons hs, ih hr, List.forall_mem_cons]

namespace Reachable

/-- What holds at the start and is kept by every step holds in every reachable state. -/
theorem invariant {Inv : σ → Prop} (h : Reachable step s₀ s) (h₀ : Inv s₀)
    (hstep : ∀ s a s', Inv s → step s a = some s' → Inv s') : Inv s := by
  induction h with
  | init => exact h₀
  | step a _ hs ih => exact hstep _ a _ ih hs

theorem trans (h : Reachable step s₀ s) (h' : Reachable step s s') : Reachable step s₀ s' := by
  induction h' with
  | init => exact h
  | step a _ hs ih => exact ih.step a hs

theorem runSteps_of {as : List α} (h : Reachable step s₀ s) (hr : runSteps step s as = some s') :
    Reachable step s₀ s' := by
  induction as generalizing s with
  | nil =>
    cases hr
    exact h
  | cons a as ih =>
    obtain ⟨s₁, hs, hr⟩ := Option.bind_eq_some_iff.mp hr
    exact ih (h.step a hs) hr

theorem of_runSteps {as : List α} (hr : runSteps step s₀ as = some s) : Reachable step s₀ s :=
  Reachable.init.runSteps_of hr

/-- A system whose every step is one of another system, or none there, has its runs in that system. -/
theorem simulation {τ β : Type} {step' : τ → β → Option τ} {t₀ : τ} {R : σ → τ → Prop} (h : Reachable step s₀ s)
    (h₀ : R s₀ t₀) (hstep : ∀ s t a s', R s t → step s a = some s' →
      R s' t ∨ ∃ b t', step' t b = some t' ∧ R s' t') : ∃ t, R s t ∧ Reachable step' t₀ t := by
  induction h with
  | init => exact ⟨t₀, h₀, .init⟩
  | step a _ hs ih =>
    obtain ⟨t, hr, ht⟩ := ih
    rcases hstep _ t a _ hr hs with hr | ⟨b, t', hb, hr⟩
    · exact ⟨t, hr, ht⟩
    · exact ⟨t', hr, ht.step b hb⟩

end Reachable

theorem guarded_eq_some {ok : σ → α → Prop} [∀ s a, Decidable (ok s a)] {a : α} :
    guarded ok step s a = some s' ↔ ok s a ∧ step s a = some s' := by
  unfold guarded
  by_cases h : ok s a
  · simp [h]
  · simp [h]

theorem Reachable.of_guarded {ok : σ → α → Prop} [∀ s a, Decidable (ok s a)]
    (h : Reachable (guarded ok step) s₀ s) : Reachable step s₀ s := by
  induction h with
  | init => exact .init
  | step a _ hs ih => exact ih.step a (guarded_eq_some.mp hs).2

end KonsanNet
