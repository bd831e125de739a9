import Mathlib.Tactic

/-!
# A flat memory with live regions

Bytes by address, the regions that are allocated, and a count of the accesses that were not within one
of them. What a released region holds is arbitrary (`junk`). A region has a `kind`, by which it was
allocated and must be released.
-/

namespace KonsanNet

structure Region (κ : Type) where
  base : Nat
  len : Nat
  kind : κ
deriving DecidableEq

def Region.Disjoint {κ : Type} (r r' : Region κ) : Prop :=
  r.base + r.len ≤ r'.base ∨ r'.base + r'.len ≤ r.base

instance {κ : Type} : Std.Symm (@Region.Disjoint κ) := ⟨fun _ _ h => Or.symm h⟩

instance {κ : Type} (r r' : Region κ) : Decidable (r.Disjoint r') := inferInstanceAs (Decidable (_ ∨ _))

structure Memory (κ : Type) where
  live : List (Region κ)
  byte : Nat → UInt8
  dead : Nat

variable {κ : Type}

namespace Memory

/-- The `n` bytes from `a` on lie within an allocated region. -/
def Live (m : Memory κ) (a n : Nat) : Prop := ∃ r ∈ m.live, r.base ≤ a ∧ a + n ≤ r.base + r.len

instance (m : Memory κ) (a n : Nat) : Decidable (m.Live a n) :=
  inferInstanceAs (Decidable (∃ r ∈ m.live, _))

def bytes (m : Memory κ) (a n : Nat) : List UInt8 := (List.range n).map fun i => m.byte (a + i)

/-- An access to `n` bytes from `a` on. -/
def touch (m : Memory κ) (a n : Nat) : Memory κ := if m.Live a n then m else { m with dead := m.dead + 1 }

def load (m : Memory κ) (a n : Nat) : Memory κ × List UInt8 := (m.touch a n, m.bytes a n)

def store (m : Memory κ) (a : Nat) (bs : List UInt8) : Memory κ :=
  { m.touch a bs.length with
    byte := fun x => if a ≤ x ∧ x < a + bs.length then bs.getD (x - a) 0 else m.byte x }

def alloc (m : Memory κ) (r : Region κ) : Memory κ := { m with live := m.live ++ [r] }

/-- Nothing that is allocated overlaps the region. -/
def Fresh (m : Memory κ) (r : Region κ) : Prop := ∀ r' ∈ m.live, r.Disjoint r'

instance (m : Memory κ) (r : Region κ) : Decidable (m.Fresh r) :=
  inferInstanceAs (Decidable (∀ r' ∈ m.live, _))

/-- Releasing what is allocated at `base`: `none` when there is no such region of that kind. -/
def release [DecidableEq κ] (m : Memory κ) (junk : Nat → UInt8) (base : Nat) (kind : κ) : Option (Memory κ) :=
  (m.live.find? fun r => r.base = base ∧ r.kind = kind).map fun r =>
    { m with
      live := m.live.erase r
      byte := fun x => if r.base ≤ x ∧ x < r.base + r.len then junk x else m.byte x }

/-- No two allocated regions overlap, and none is empty. -/
structure Separate (m : Memory κ) : Prop where
  disjoint : m.live.Pairwise Region.Disjoint
  pos : ∀ r ∈ m.live, 0 < r.len

variable {m : Memory κ} {a b n : Nat} {bs : List UInt8}

@[simp] theorem length_bytes (m : Memory κ) (a n : Nat) : (m.bytes a n).length = n := by simp [bytes]

theorem bytes_add (m : Memory κ) (a k n : Nat) : m.bytes a (k + n) = m.bytes a k ++ m.bytes (a + k) n := by
  unfold bytes
  rw [List.range_add, List.map_append, List.map_map]
  simp [Function.comp_def, Nat.add_assoc]

theorem bytes_congr {m' : Memory κ} (h : ∀ i < n, m'.byte (a + i) = m.byte (a + i)) :
    m'.bytes a n = m.bytes a n :=
  List.map_congr_left fun i hi => h i (List.mem_range.mp hi)

theorem touch_live (h : m.Live a n) : m.touch a n = m := if_pos h

theorem store_live (a : Nat) (bs : List UInt8) : (m.store a bs).live = m.live := by
  unfold store touch
  split <;> rfl

theorem store_dead (h : m.Live a bs.length) : (m.store a bs).dead = m.dead := by
  unfold store
  rw [touch_live h]

theorem live_store : (m.store b bs).Live a n ↔ m.Live a n := by
  unfold Live
  rw [store_live]

theorem bytes_store (m : Memory κ) (a : Nat) (bs : List UInt8) : (m.store a bs).bytes a bs.length = bs := by
  refine List.ext_getElem (by simp) fun i hi _ => ?_
  have hi' : i < bs.length := by simpa using hi
  simp [bytes, store, hi']

theorem bytes_store_of_disjoint (h : a + n ≤ b ∨ b + bs.length ≤ a) :
    (m.store b bs).bytes a n = m.bytes a n := by
  refine bytes_congr fun i hi => ?_
  have hne : ¬ (b ≤ a + i ∧ a + i < b + bs.length) := by omega
  simp [store, hne]

theorem Live.mono {a' n' : Nat} (h : m.Live a n) (ha : a ≤ a') (hn : a' + n' ≤ a + n) : m.Live a' n' := by
  obtain ⟨r, hr, hle, hlt⟩ := h
  exact ⟨r, hr, by omega, by omega⟩

theorem live_of_mem {r : Region κ} (h : r ∈ m.live) : m.Live r.base r.len :=
  ⟨r, h, le_refl _, le_refl _⟩

theorem Separate.alloc {r : Region κ} (h : m.Separate) (hr : m.Fresh r) (hpos : 0 < r.len) :
    (m.alloc r).Separate := by
  constructor
  · refine List.pairwise_append.mpr ⟨h.disjoint, List.pairwise_singleton _ _, fun r' hr' r'' hr'' => ?_⟩
    rw [List.mem_singleton.mp hr'']
    exact (hr r' hr').symm
  · intro r' hr'
    rcases List.mem_append.mp hr' with hr' | hr'
    · exact h.pos r' hr'
    · rw [List.mem_singleton.mp hr']
      exact hpos

theorem Fresh.alloc {r r' : Region κ} (h : m.Fresh r) (hd : r.Disjoint r') : (m.alloc r').Fresh r := by
  intro r'' hr''
  rcases List.mem_append.mp hr'' with hr'' | hr''
  · exact h r'' hr''
  · rw [List.mem_singleton.mp hr'']
    exact hd

theorem Separate.of_ne (h : m.Separate) {r r' : Region κ} (hr : r ∈ m.live) (hr' : r' ∈ m.live)
    (hne : r ≠ r') : r.Disjoint r' :=
  h.disjoint.forall hr hr' hne

theorem Separate.eq_of_mem (h : m.Separate) {r r' : Region κ} (hr : r ∈ m.live) (hr' : r' ∈ m.live)
    (ha : r.base ≤ a ∧ a < r.base + r.len) (ha' : r'.base ≤ a ∧ a < r'.base + r'.len) : r = r' := by
  by_contra hne
  rcases h.of_ne hr hr' hne with hd | hd
  · omega
  · omega

theorem release_spec [DecidableEq κ] {junk : Nat → UInt8} {base : Nat} {kind : κ} {m' : Memory κ}
    (h : m.release junk base kind = some m') : ∃ r ∈ m.live, r.base = base ∧ r.kind = kind ∧
      m'.live = m.live.erase r ∧ m'.dead = m.dead ∧
      ∀ x, ¬ (r.base ≤ x ∧ x < r.base + r.len) → m'.byte x = m.byte x := by
  obtain ⟨r, hr, rfl⟩ := Option.map_eq_some_iff.mp h
  have hp := List.find?_some hr
  simp only [decide_eq_true_eq] at hp
  exact ⟨r, List.mem_of_find?_eq_some hr, hp.1, hp.2, rfl, rfl, fun x hx => if_neg hx⟩

theorem Separate.release [DecidableEq κ] {junk : Nat → UInt8} {base : Nat} {kind : κ} {m' : Memory κ}
    (hs : m.Separate) (h : m.release junk base kind = some m') : m'.Separate := by
  obtain ⟨r, -, -, -, hlive, -⟩ := release_spec h
  constructor
  · rw [hlive]
    exact hs.disjoint.sublist List.erase_sublist
  · intro r' hr'
    rw [hlive] at hr'
    exact hs.pos r' (List.mem_of_mem_erase hr')

theorem not_live_of_erase [DecidableEq κ] {m' : Memory κ} {r : Region κ} (h : m.Separate) (hr : r ∈ m.live)
    (hlive : m'.live ⊆ m.live.erase r) (ha : r.base ≤ a) (hlt : a < r.base + r.len) (hn : 0 < n) :
    ¬ m'.Live a n := by
  rintro ⟨r', hr', hle, hle'⟩
  have hcons : (r :: m.live.erase r).Pairwise Region.Disjoint :=
    (List.perm_cons_erase hr).pairwise h.disjoint fun hd => Or.symm hd
  have hd : r.Disjoint r' := List.rel_of_pairwise_cons hcons (hlive hr')
  unfold Region.Disjoint at hd
  omega

end Memory

end KonsanNet
