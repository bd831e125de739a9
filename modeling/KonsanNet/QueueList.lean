import Mathlib.Tactic
import KonsanNet.QueueClear

/-!
# The compacting queue for its users

What `CXMessageQueue` and `CXTaskPool` do with a `CXQueue`: they push pointers, ask for the size, and take the first
one. As long as each operation meets `PushOk` or `PopOk`, the queue does what the list of its elements does. A queue
that is drained while all nodes of its only block are in use does not: it hands its elements out a second time.
-/

namespace KonsanNet

namespace NodeQueue

variable {δ : Type} {s s' : NodeQueue δ} {q : List (Option δ)}

/-- The queue stands for `q`, which `Size()` can count. -/
def Stands (s : NodeQueue δ) (q : List (Option δ)) : Prop := q.length < 2 ^ 31 ∧ ∃ qb qd, Inv s qb qd ∧ qb ++ qd = q

/-- The memory is there, and the counters can count one block and one element more. -/
def PushOk (s : NodeQueue δ) (newOk : Bool) : Prop :=
  newOk = true ∧ s.size + 1 < 2 ^ 31 ∧ (s.data.bInited = true → s.data.pEmptyListHead = none →
    (s.data.dwNumberOfBlocks.toNat + 1) * s.data.dwInitSize.toNat < 2 ^ 32)

/-- No node is freed while the empty list of `*m_pQueueData` is `NULL`. -/
def PopOk (s : NodeQueue δ) : Prop := StepOk s .popFront

instance (s : NodeQueue δ) (newOk : Bool) : Decidable (PushOk s newOk) :=
  inferInstanceAs (Decidable (_ ∧ _ ∧ (_ → _ → _)))

instance (s : NodeQueue δ) : Decidable (PopOk s) := inferInstanceAs (Decidable (StepOk s _))

theorem sizeOk_of_lt {n : UInt32} (h : 24 * n.toNat + 16 < 2 ^ 31) : CXQueueData.SizeOk n := by
  unfold CXQueueData.SizeOk CXQueueData.bufferSize
  rw [Nat.mod_eq_of_lt (by omega)]
  exact Int.bmod_eq_of_le (by omega) (by omega)

theorem size_of_holds {d : CXQueueData δ} (h : CXQueueData.Holds d q) (hlt : q.length < 2 ^ 31) :
    d.size = q.length := by
  unfold CXQueueData.size
  rw [h.toNat_using]
  exact Int.bmod_eq_of_le (by omega) (by omega)

theorem size_eq_add (h : s.pQueueDataBak ≠ s.pQueueData) : s.size = s.data.size + s.bak.size := by
  unfold size data bak
  cases hd : s.pQueueData <;> cases hb : s.pQueueDataBak
  · exact absurd (hb.trans hd.symm) h
  · rfl
  · exact Int.add_comm _ _
  · exact absurd (hb.trans hd.symm) h

theorem stands_construct : Stands (construct : NodeQueue δ) [] := ⟨Nat.two_pow_pos 31, [], [], Inv.construct, rfl⟩

namespace Stands

theorem size (h : Stands s q) : s.size = q.length := by
  obtain ⟨hlt, qb, qd, hinv, rfl⟩ := h
  rw [List.length_append] at hlt
  rw [size_eq_add hinv.ptr, size_of_holds hinv.data (by omega), size_of_holds hinv.bak (by omega), List.length_append]
  omega

theorem push (h : Stands s q) {newOk : Bool} (hok : s.PushOk newOk) (pData : Option δ) :
    ∃ s', s.push newOk pData = some (s', true) ∧ Stands s' (q ++ [pData]) := by
  have hsize := h.size
  obtain ⟨-, qb, qd, hinv, rfl⟩ := h
  obtain ⟨rfl, hlt, hroom⟩ := hok
  obtain ⟨s', ok, qb', qd', hrun, h', hq⟩ := hinv.push true pData hroom
  rcases hq with ⟨rfl, hq⟩ | ⟨-, hno, -⟩
  · refine ⟨s', hrun, ?_, qb', qd', h', hq⟩
    rw [List.length_append, List.length_singleton]
    omega
  · cases hno

theorem popFront (h : Stands s q) (hok : s.PopOk) :
    ∃ s', s.popFront = some (s', q.head?.join) ∧ Stands s' q.tail := by
  obtain ⟨hlt, qb, qd, hinv, rfl⟩ := h
  obtain ⟨s', qb', qd', hrun, h', hq⟩ := hinv.popFront hok
  refine ⟨s', hrun, ?_, qb', qd', h', hq⟩
  rw [List.length_tail]
  omega

end Stands

end NodeQueue

end KonsanNet
