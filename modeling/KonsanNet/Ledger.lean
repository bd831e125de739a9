import Mathlib.Tactic
import Mathlib.Data.List.Nodup

/-!
# Who gives a resource back

The events of a run: a resource `id` is got from `a`, used, or given back to `a`. `Settled` says that each is given
back once, to where it came from, and `Clean` that none is used or given back after it has been given back.
-/

namespace KonsanNet

namespace Ledger

variable {ι α : Type}

inductive Event (ι α : Type)
  | got (id : ι) (a : α)
  | used (id : ι)
  | released (id : ι) (a : α)
deriving DecidableEq, Repr

/-- The event needs the resource. -/
def Event.Touches (id : ι) : Event ι α → Prop
  | .got _ _ => False
  | .used i => i = id
  | .released i _ => i = id

/-- Nothing is used or given back after it has been given back. -/
def Clean (es : List (Event ι α)) : Prop :=
  es.Pairwise fun e e' => ∀ id a, e = .released id a → ¬ e'.Touches id

/-- All of `ids` are given back to `a`, in order. -/
def releaseAll (a : α) (ids : List ι) : List (Event ι α) := ids.map fun id => .released id a

/-- All of `ids` are got from `a`, in order. -/
def gotAll (a : α) (ids : List ι) : List (Event ι α) := ids.map fun id => .got id a

section

variable [DecidableEq ι]

/-- Where `id` came from, each time it was got. -/
def gots (id : ι) : List (Event ι α) → List α
  | [] => []
  | .got i a :: es => if i = id then a :: gots id es else gots id es
  | .used _ :: es => gots id es
  | .released _ _ :: es => gots id es

/-- Where `id` went, each time it was given back. -/
def releases (id : ι) : List (Event ι α) → List α
  | [] => []
  | .got _ _ :: es => releases id es
  | .used _ :: es => releases id es
  | .released i a :: es => if i = id then a :: releases id es else releases id es

/-- Each resource that was got was given back once, to where it came from. -/
def Settled (es : List (Event ι α)) : Prop := ∀ id, (gots id es).length ≤ 1 ∧ releases id es = gots id es

variable {id i : ι} {a : α} {es es' : List (Event ι α)}

@[simp] theorem gots_nil : gots id ([] : List (Event ι α)) = [] := rfl

@[simp] theorem releases_nil : releases id ([] : List (Event ι α)) = [] := rfl

@[simp] theorem gots_append : gots id (es ++ es') = gots id es ++ gots id es' := by
  induction es with
  | nil => rfl
  | cons e es ih =>
    cases e with
    | got i a =>
      simp only [List.cons_append, gots, ih]
      split
      · rfl
      · rfl
    | used => exact ih
    | released => exact ih

@[simp] theorem releases_append : releases id (es ++ es') = releases id es ++ releases id es' := by
  induction es with
  | nil => rfl
  | cons e es ih =>
    cases e with
    | got => exact ih
    | used => exact ih
    | released i a =>
      simp only [List.cons_append, releases, ih]
      split
      · rfl
      · rfl

theorem length_gots_concat (e : Event ι α) :
    (gots id (es ++ [e])).length = (gots id es).length + (gots id [e]).length := by
  rw [gots_append, List.length_append]

theorem length_releases_concat (e : Event ι α) :
    (releases id (es ++ [e])).length = (releases id es).length + (releases id [e]).length := by
  rw [releases_append, List.length_append]

theorem length_gots_got (i : ι) (a : α) : (gots id [.got i a]).length = if i = id then 1 else 0 := by
  simp only [gots]
  split <;> rfl

theorem length_releases_released (i : ι) (a : α) :
    (releases id [.released i a]).length = if i = id then 1 else 0 := by
  simp only [releases]
  split <;> rfl

theorem mem_releases {a : α} : a ∈ releases id es ↔ .released id a ∈ es := by
  induction es with
  | nil => simp
  | cons e es ih =>
    cases e with
    | got i b => simpa [releases] using ih
    | used i => simpa [releases] using ih
    | released i b =>
      simp only [releases, List.mem_cons, Event.released.injEq]
      by_cases h : i = id
      · subst h
        simp [ih]
      · rw [if_neg h, ih]
        exact ⟨Or.inr, fun hc => hc.resolve_left fun h' => h h'.1.symm⟩

theorem releases_eq_nil (h : ∀ a, .released id a ∉ es) : releases id es = [] :=
  List.eq_nil_iff_forall_not_mem.mpr fun a ha => h a (mem_releases.mp ha)

/-- A run stays clean with an event that needs what has not been given back. -/
theorem Clean.concat {e : Event ι α} (h : Clean es) (he : ∀ id, e.Touches id → releases id es = []) :
    Clean (es ++ [e]) := by
  refine List.pairwise_append.mpr ⟨h, List.pairwise_singleton .., fun e' he' f hf id a heq ht => ?_⟩
  rw [List.mem_singleton.mp hf] at ht
  have : a ∈ releases id es := mem_releases.mpr (heq ▸ he')
  rw [he id ht] at this
  cases this

omit [DecidableEq ι] in
theorem Clean.of_append (h : Clean (es ++ es')) : Clean es := (List.pairwise_append.mp h).1

theorem not_clean_used (h : releases id es ≠ []) (es' : List (Event ι α)) : ¬ Clean (es ++ .used id :: es') := by
  intro hc
  obtain ⟨a, ha⟩ := List.exists_mem_of_ne_nil _ h
  exact (List.pairwise_append.mp hc).2.2 _ (mem_releases.mp ha) _ List.mem_cons_self id a rfl rfl

@[simp] theorem gots_releaseAll (ids : List ι) : gots id (releaseAll a ids) = [] := by
  induction ids with
  | nil => rfl
  | cons i ids ih => exact ih

@[simp] theorem releases_gotAll (ids : List ι) : releases id (gotAll a ids) = [] := by
  induction ids with
  | nil => rfl
  | cons i ids ih => exact ih

theorem gots_gotAll_of_notMem {ids : List ι} (h : id ∉ ids) : gots id (gotAll a ids) = [] := by
  induction ids with
  | nil => rfl
  | cons i ids ih =>
    have hne : i ≠ id := fun heq => h (heq ▸ List.mem_cons_self)
    show (if i = id then _ else gots id (gotAll a ids)) = _
    rw [if_neg hne, ih fun hids => h (List.mem_cons_of_mem i hids)]

theorem gots_gotAll {ids : List ι} (hnd : ids.Nodup) (h : id ∈ ids) : gots id (gotAll a ids) = [a] := by
  induction ids with
  | nil => cases h
  | cons i ids ih =>
    obtain ⟨hi, hnd⟩ := List.nodup_cons.mp hnd
    show (if i = id then a :: gots id (gotAll a ids) else gots id (gotAll a ids)) = _
    by_cases heq : i = id
    · subst heq
      rw [if_pos rfl, gots_gotAll_of_notMem hi]
    · rw [if_neg heq]
      exact ih hnd ((List.mem_cons.mp h).resolve_left (Ne.symm heq))

theorem releases_releaseAll_of_notMem {ids : List ι} (h : id ∉ ids) :
    releases id (releaseAll a ids) = [] := by
  induction ids with
  | nil => rfl
  | cons i ids ih =>
    have hne : i ≠ id := fun heq => h (heq ▸ List.mem_cons_self)
    show (if i = id then _ else releases id (releaseAll a ids)) = _
    rw [if_neg hne, ih fun hids => h (List.mem_cons_of_mem i hids)]

theorem eq_of_mem_releaseAll {b : α} {ids : List ι} (h : b ∈ releases id (releaseAll a ids)) : b = a := by
  induction ids with
  | nil => cases h
  | cons i ids ih =>
    have h : b ∈ if i = id then a :: releases id (releaseAll a ids) else releases id (releaseAll a ids) := h
    split at h
    · rcases List.mem_cons.mp h with rfl | h
      · rfl
      · exact ih h
    · exact ih h

theorem releases_releaseAll {ids : List ι} (hnd : ids.Nodup) (h : id ∈ ids) :
    releases id (releaseAll a ids) = [a] := by
  induction ids with
  | nil => cases h
  | cons i ids ih =>
    obtain ⟨hi, hnd⟩ := List.nodup_cons.mp hnd
    show (if i = id then a :: releases id (releaseAll a ids) else releases id (releaseAll a ids)) = _
    by_cases heq : i = id
    · subst heq
      rw [if_pos rfl, releases_releaseAll_of_notMem hi]
    · rw [if_neg heq]
      exact ih hnd ((List.mem_cons.mp h).resolve_left (Ne.symm heq))

end

end Ledger

end KonsanNet
