import Mathlib.Tactic
import Mathlib.Data.List.Nodup
import Mathlib.Logic.Function.Basic

/-!
# Singly linked chains

`Linked next p l`: following `next` from the pointer `p` visits exactly the cells `l`, in order, and
then meets the null pointer. A chain determines its cells and visits none twice. A program changes a
chain by writing a link outside it (`Linked.congr`), by writing the link of one of its cells so that
it ends in a given cell (`Linked.relink`), by linking its last cell to another chain (`Linked.splice`), and by
linking a cell in behind another (`Linked.insert`).
-/

namespace KonsanNet

variable {π : Type}

/-- The cells met by following `next` from `p` are `l`. -/
def Linked (next : π → Option π) : Option π → List π → Prop
  | p, [] => p = none
  | p, a :: l => p = some a ∧ Linked next (next a) l

namespace Linked

variable {next next' : π → Option π} {p : Option π} {l r : List π} {a b : π}

@[simp] theorem nil_iff : Linked next p [] ↔ p = none := Iff.rfl

@[simp] theorem cons_iff : Linked next p (a :: l) ↔ p = some a ∧ Linked next (next a) l := Iff.rfl

theorem head?_eq (h : Linked next p l) : l.head? = p := by
  cases l with
  | nil => exact h.symm
  | cons a l => exact h.1.symm

theorem tail (h : Linked next (some a) (a :: l)) : Linked next (next a) l := h.2

theorem unique : ∀ {p : Option π} {l l' : List π}, Linked next p l → Linked next p l' → l = l'
  | _, [], [], _, _ => rfl
  | _, [], b :: l', h, h' => by rw [nil_iff.mp h] at h'; cases h'.1
  | _, a :: l, [], h, h' => by rw [nil_iff.mp h'] at h; cases h.1
  | _, a :: l, b :: l', h, h' => by
    obtain ⟨rfl, hl⟩ := h
    obtain ⟨hab, hl'⟩ := h'
    cases hab
    rw [unique hl hl']

theorem of_append : ∀ {p : Option π} {l r : List π}, Linked next p (l ++ r) → ∃ q, Linked next q r
  | p, [], _, h => ⟨p, h⟩
  | _, _ :: l, _, h => of_append (l := l) h.2

/-- A chain visits no cell twice: from there on it would never end. -/
theorem nodup : ∀ {p : Option π} {l : List π}, Linked next p l → l.Nodup
  | _, [], _ => List.nodup_nil
  | _, a :: l, h => by
    refine List.nodup_cons.mpr ⟨fun ha => ?_, nodup h.2⟩
    obtain ⟨s, t, rfl⟩ := List.append_of_mem ha
    obtain ⟨q, hq⟩ := of_append h.2
    have hcyc : a :: t = a :: (s ++ a :: t) := unique hq ⟨hq.1, h.2⟩
    have := congrArg List.length hcyc
    simp at this
    omega

theorem congr : ∀ {p : Option π} {l : List π}, (∀ a ∈ l, next' a = next a) →
    Linked next p l → Linked next' p l
  | _, [], _, h => h
  | _, a :: l, hc, h => by
    refine ⟨h.1, ?_⟩
    rw [hc a (List.mem_cons_self ..)]
    exact congr (fun b hb => hc b (List.mem_cons_of_mem _ hb)) h.2

variable [DecidableEq π]

theorem update_of_notMem (ha : a ∉ l) (v : Option π) (h : Linked next p l) :
    Linked (Function.update next a v) p l :=
  h.congr fun b hb => Function.update_of_ne (fun e => ha (by rwa [e] at hb)) _ _

/-- Linking the cell `a` of a chain to the one-cell chain `b` cuts off what followed `a`. -/
theorem relink : ∀ {p : Option π} {l : List π}, Linked next p (l ++ a :: r) → b ∉ l ++ [a] →
    next b = none → Linked (Function.update next a (some b)) p (l ++ [a, b])
  | _, [], h, hb, hn => by
    have hba : b ≠ a := fun e => hb (by simp [e])
    simp [h.1, Function.update_of_ne hba, hn]
  | _, c :: l, h, hb, hn => by
    have hca : c ≠ a := fun e => by
      have := h.nodup
      simp [e] at this
    refine ⟨h.1, ?_⟩
    rw [Function.update_of_ne hca]
    exact relink h.2 (fun hm => hb (List.mem_cons_of_mem _ hm)) hn

theorem splice {q : Option π} : ∀ {p : Option π} {l : List π}, Linked next p (l ++ [a]) → Linked next q r → a ∉ r →
    Linked (Function.update next a q) p (l ++ a :: r)
  | _, [], h, hr, ha => by
    refine ⟨h.1, ?_⟩
    rw [Function.update_self]
    exact hr.update_of_notMem ha q
  | _, c :: l, h, hr, ha => by
    have hca : c ≠ a := fun e => by
      have := h.nodup
      simp [e] at this
    refine ⟨h.1, ?_⟩
    rw [Function.update_of_ne hca]
    exact splice h.2 hr ha

theorem insert : ∀ {p : Option π} {l : List π}, Linked next p (l ++ a :: r) → b ∉ l ++ a :: r →
    Linked (Function.update (Function.update next a (some b)) b r.head?) p (l ++ a :: b :: r)
  | _, [], h, hb => by
    have hnd := List.nodup_cons.mp h.nodup
    have hba : a ≠ b := fun e => hb (by simp [e])
    have hbr : b ∉ r := fun hm => hb (by simp [hm])
    refine ⟨h.1, ?_, ?_⟩
    · rw [Function.update_of_ne hba, Function.update_self]
    · rw [Function.update_self, h.2.head?_eq]
      exact (h.2.update_of_notMem hnd.1 _).update_of_notMem hbr _
  | _, c :: l, h, hb => by
    have hca : c ≠ a := fun e => by
      have := h.nodup
      simp [e] at this
    have hcb : c ≠ b := fun e => hb (by simp [e])
    refine ⟨h.1, ?_⟩
    rw [Function.update_of_ne hcb, Function.update_of_ne hca]
    exact insert h.2 fun hm => hb (List.mem_cons_of_mem _ hm)

end Linked

end KonsanNet
