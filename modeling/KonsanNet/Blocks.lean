import Mathlib.Tactic

/-!
# Objects of memory with bounds

A pointer is an object with an offset. An access that is not within its object is counted in `outside`; such a read
finds what `beyond` says, and such a write changes nothing here.
-/

namespace KonsanNet

/-- `src` written over the bytes from `off` on. -/
def patched {α : Type} (l : List α) (off : Nat) (src : List α) : List α :=
  l.take off ++ src ++ l.drop (off + src.length)

section Patched

variable {α : Type} {l a b : List α} {off : Nat}

theorem length_patched (h : off + a.length ≤ l.length) : (patched l off a).length = l.length := by
  unfold patched
  rw [List.length_append, List.length_append, List.length_take, List.length_drop]
  omega

theorem getElem?_patched (h : off + a.length ≤ l.length) (i : Nat) :
    (patched l off a)[i]? = if i < off then l[i]? else if i < off + a.length then a[i - off]? else l[i]? := by
  unfold patched
  have htake : (l.take off).length = off := List.length_take_of_le (by omega)
  rcases Nat.lt_or_ge i off with hi | hi
  · rw [if_pos hi, List.append_assoc, List.getElem?_append_left (by omega), List.getElem?_take_of_lt hi]
  rw [if_neg (by omega), List.append_assoc, List.getElem?_append_right (by omega), htake]
  rcases Nat.lt_or_ge i (off + a.length) with hj | hj
  · rw [if_pos hj, List.getElem?_append_left (by omega)]
  · rw [if_neg (by omega), List.getElem?_append_right (by omega), List.getElem?_drop]
    congr 1
    omega

theorem take_drop_patched (h : off + a.length ≤ l.length) : ((patched l off a).drop off).take a.length = a := by
  have htake : (l.take off).length = off := List.length_take_of_le (by omega)
  unfold patched
  rw [List.append_assoc, List.drop_left' htake, List.take_left]

theorem patched_patched_right {off' : Nat} (hoff : off' = off + a.length) (h : off' + b.length ≤ l.length) :
    patched (patched l off a) off' b = patched l off (a ++ b) := by
  have h₁ : off + a.length ≤ l.length := by omega
  have h₂ : off + (a ++ b).length ≤ l.length := by rw [List.length_append]; omega
  refine List.ext_getElem? fun i => ?_
  rw [getElem?_patched (by rw [length_patched h₁]; exact h), getElem?_patched h₁, getElem?_patched h₂,
    List.length_append, List.getElem?_append]
  split_ifs <;> first | rfl | omega | (congr 1; omega)

theorem patched_patched_left {off' : Nat} (hoff : off' = off + a.length) (h : off' + b.length ≤ l.length) :
    patched (patched l off' b) off a = patched l off (a ++ b) := by
  have h₁ : off + a.length ≤ l.length := by omega
  have h₂ : off + (a ++ b).length ≤ l.length := by rw [List.length_append]; omega
  refine List.ext_getElem? fun i => ?_
  rw [getElem?_patched (by rw [length_patched h]; exact h₁), getElem?_patched h, getElem?_patched h₂,
    List.length_append, List.getElem?_append]
  split_ifs <;> first | rfl | omega | (congr 1; omega)

end Patched

structure Blocks (ι : Type) where
  bytes : ι → List UInt8
  beyond : ι → Nat → UInt8
  outside : Nat

namespace Blocks

variable {ι : Type}

/-- The `n` bytes of the object from `off` on are bytes of it. -/
def Inside (m : Blocks ι) (o : ι) (off n : Nat) : Prop := off + n ≤ (m.bytes o).length

instance (m : Blocks ι) (o : ι) (off n : Nat) : Decidable (m.Inside o off n) := inferInstanceAs (Decidable (_ ≤ _))

def load (m : Blocks ι) (o : ι) (off n : Nat) : Blocks ι × List UInt8 :=
  (if m.Inside o off n then m else { m with outside := m.outside + 1 },
    (List.range n).map fun i => (m.bytes o)[off + i]?.getD (m.beyond o (off + i)))

/-- The string from `off` on, without the 0 that ends it; `behind` is what it goes on with if no byte of the object
ends it. -/
def loadString (m : Blocks ι) (o : ι) (off : Nat) (behind : List UInt8) : Blocks ι × List UInt8 :=
  let s := (m.bytes o).drop off
  if 0 ∈ s then (m, s.takeWhile (· ≠ 0)) else ({ m with outside := m.outside + 1 }, s ++ behind)

variable [DecidableEq ι]

def store (m : Blocks ι) (o : ι) (off : Nat) (src : List UInt8) : Blocks ι :=
  if m.Inside o off src.length then { m with bytes := Function.update m.bytes o (patched (m.bytes o) off src) }
  else { m with outside := m.outside + 1 }

/-- The object comes into being with these bytes. -/
def create (m : Blocks ι) (o : ι) (bs : List UInt8) : Blocks ι := { m with bytes := Function.update m.bytes o bs }

variable {m : Blocks ι} {o o' : ι} {off n : Nat} {src : List UInt8}

omit [DecidableEq ι] in
theorem load_inside (h : m.Inside o off n) : m.load o off n = (m, ((m.bytes o).drop off).take n) := by
  refine Prod.ext (if_pos h) (List.ext_getElem? fun i => ?_)
  have h' : off + n ≤ (m.bytes o).length := h
  show ((List.range n).map fun i => (m.bytes o)[off + i]?.getD (m.beyond o (off + i)))[i]? = _
  rcases Nat.lt_or_ge i n with hi | hi
  · rw [List.getElem?_take_of_lt hi, List.getElem?_drop, List.getElem?_map, List.getElem?_range hi, Option.map_some,
      List.getElem?_eq_getElem (by omega), Option.getD_some]
  · rw [List.getElem?_eq_none (by simpa using hi), List.getElem?_eq_none (by simp; omega)]

omit [DecidableEq ι] in
theorem bytes_load (m : Blocks ι) (o : ι) (off n : Nat) : (m.load o off n).1.bytes = m.bytes := by
  unfold load
  split <;> rfl

omit [DecidableEq ι] in
theorem outside_load_le (o : ι) (off n : Nat) : m.outside ≤ (m.load o off n).1.outside := by
  unfold load
  split
  · exact le_rfl
  · exact Nat.le_succ _

omit [DecidableEq ι] in
theorem outside_load (h : ¬ m.Inside o off n) : 0 < (m.load o off n).1.outside := by
  unfold load
  rw [if_neg h]
  exact Nat.succ_pos _

omit [DecidableEq ι] in
theorem loadString_inside (h : 0 ∈ (m.bytes o).drop off) (behind : List UInt8) :
    m.loadString o off behind = (m, ((m.bytes o).drop off).takeWhile (· ≠ 0)) :=
  if_pos h

omit [DecidableEq ι] in
theorem bytes_loadString (m : Blocks ι) (o : ι) (off : Nat) (behind : List UInt8) :
    (m.loadString o off behind).1.bytes = m.bytes := by
  unfold loadString
  dsimp only
  split <;> rfl

omit [DecidableEq ι] in
theorem outside_loadString_le (o : ι) (off : Nat) (behind : List UInt8) :
    m.outside ≤ (m.loadString o off behind).1.outside := by
  unfold loadString
  dsimp only
  split
  · exact le_rfl
  · exact Nat.le_succ _

theorem bytes_create_self (m : Blocks ι) (o : ι) (bs : List UInt8) : (m.create o bs).bytes o = bs :=
  Function.update_self ..

theorem bytes_create_ne (h : o' ≠ o) (bs : List UInt8) : (m.create o bs).bytes o' = m.bytes o' :=
  Function.update_of_ne h ..

theorem store_inside (h : m.Inside o off src.length) :
    m.store o off src = { m with bytes := Function.update m.bytes o (patched (m.bytes o) off src) } :=
  if_pos h

theorem outside_store (h : m.Inside o off src.length) : (m.store o off src).outside = m.outside := by
  rw [store_inside h]

theorem bytes_store_self (h : m.Inside o off src.length) :
    (m.store o off src).bytes o = patched (m.bytes o) off src := by
  rw [store_inside h]
  exact Function.update_self ..

theorem bytes_store_ne (h : o' ≠ o) : (m.store o off src).bytes o' = m.bytes o' := by
  unfold store
  split
  · exact Function.update_of_ne h ..
  · rfl

theorem length_bytes_store (h : m.Inside o off src.length) :
    ((m.store o off src).bytes o).length = (m.bytes o).length := by
  rw [bytes_store_self h, length_patched h]

theorem outside_store_outside (h : ¬ m.Inside o off src.length) : 0 < (m.store o off src).outside := by
  unfold store
  rw [if_neg h]
  exact Nat.succ_pos _

theorem outside_store_le (o : ι) (off : Nat) (src : List UInt8) : m.outside ≤ (m.store o off src).outside := by
  unfold store
  split
  · exact le_rfl
  · exact Nat.le_succ _

end Blocks

end KonsanNet
