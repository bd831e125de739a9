import KonsanNet.ClientBuffers

/-!
# When a client gives back what it got

A call is `Sounded` if it is sound and `Unsounded` if it is not: `Sounded` calls keep `Kept`, where a buffer is held
and came from `new[]`, or was given back to where it came from; an `Unsounded` call makes a buffer `Lost`, and no
later call gives it back.
-/

namespace KonsanNet

open Ledger

namespace ClientBuffers

variable {s s' : ClientBuffers} {a : SizeAnswers} {ok : Bool}

/-- The next `k` buffers. -/
def fetch (a : BufferSource) (k : Nat) (s : ClientBuffers) : ClientBuffers :=
  { s with next := s.next + k, events := s.events ++ gotAll a (List.range' s.next k) }

theorem fetch_fetch (a : BufferSource) (j k : Nat) (s : ClientBuffers) :
    (s.fetch a j).fetch a k = s.fetch a (j + k) := by
  simp only [fetch, gotAll, Nat.add_assoc, List.append_assoc, ← List.map_append, List.range'_append_1]

theorem fetch_zero (a : BufferSource) (s : ClientBuffers) : s.fetch a 0 = s := by
  simp [fetch, gotAll]

theorem get_eq (a : BufferSource) (s : ClientBuffers) : s.get a = (s.fetch a 1, s.next) := rfl

theorem poolBuffers_cases (s : ClientBuffers) (cache : Nat) (a : SizeAnswers) :
    (a.pData = .ok ∧ a.pDataReal = .ok ∧ a.pCacheData = .ok) ∧
        s.poolBuffers cache a = (s.fetch (.pool cache) 3, some (s.next, s.next + 1, s.next + 2)) ∨
      ¬ (a.pData = .ok ∧ a.pDataReal = .ok ∧ a.pCacheData = .ok) ∧ ∃ k, s.poolBuffers cache a =
        ((s.fetch (.pool cache) k).release (.pool cache) (List.range' s.next k), none) := by
  obtain ⟨pData, pDataReal, pCacheData⟩ := a
  have hget : ∀ answer t, getBuffer cache answer t =
      if answer = .ok then (t.fetch (.pool cache) 1, some t.next) else (t, none) := fun _ _ => rfl
  by_cases h₁ : pData = .ok <;> by_cases h₂ : pDataReal = .ok <;> by_cases h₃ : pCacheData = .ok <;>
    simp only [poolBuffers, hget, h₁, h₂, h₃, if_true, if_false, fetch_fetch, and_self, and_true, and_false, false_and,
      true_and, false_or, or_false, not_true_eq_false, not_false_eq_true]
  · rfl
  · exact ⟨2, rfl⟩
  · exact ⟨2, rfl⟩
  · exact ⟨1, rfl⟩
  · exact ⟨2, rfl⟩
  · exact ⟨1, rfl⟩
  · exact ⟨1, rfl⟩
  · exact ⟨0, by rw [fetch_zero]; rfl⟩

/-- Buffers from `new[]`: all three, or what came goes back, or an exception leaves it. -/
theorem newBuffers_cases (s : ClientBuffers) (a : SizeAnswers) :
    NoLeak a ∧ s.newBuffers a = (s.fetch .new 3, some (s.next, s.next + 1, s.next + 2)) ∨
      (NoLeak a ∧ ∃ k, s.newBuffers a = ((s.fetch .new k).release .new (List.range' s.next k), none)) ∨
      ¬ NoLeak a ∧ ∃ k, s.newBuffers a = (s.fetch .new (k + 1), none) := by
  have hnone : s = (s.fetch .new 0).release .new (List.range' s.next 0) := by
    rw [fetch_zero]
    simp [release, releaseAll]
  unfold NoLeak newBuffers
  simp only [get_eq]
  cases h₁ : a.pData with
  | null => exact .inr (.inl ⟨nofun, 0, by rw [← hnone]⟩)
  | thrown => exact .inr (.inl ⟨nofun, 0, by rw [← hnone]⟩)
  | ok =>
    cases h₂ : a.pDataReal with
    | null => exact .inr (.inl ⟨fun _ => ⟨nofun, nofun⟩, 1, rfl⟩)
    | thrown => exact .inr (.inr ⟨by simp, 0, rfl⟩)
    | ok =>
      simp only [fetch_fetch]
      cases h₃ : a.pCacheData with
      | null => exact .inr (.inl ⟨fun _ => ⟨nofun, nofun⟩, 2, rfl⟩)
      | thrown => exact .inr (.inr ⟨by simp, 1, rfl⟩)
      | ok => exact .inl ⟨fun _ => ⟨nofun, nofun⟩, rfl⟩

/-! ### What a call does -/

/-- The events of the next `k` buffers. -/
def Fetched (s s' : ClientBuffers) (k : Nat) (es : List (Event Nat BufferSource)) : Prop :=
  s'.next = s.next + k ∧ s'.events = s.events ++ es

/-- A set is replaced by the next three buffers: `old` go, `other` stay. -/
structure Replaced (s s' : ClientBuffers) (a : BufferSource) (old other : List Nat) : Prop where
  before : s.held.Perm (old ++ other)
  after : s'.held.Perm (List.range' s.next 3 ++ other)
  fetched : Fetched s s' 3 (gotAll a (List.range' s.next 3) ++ releaseAll .new old)

/-- The buffers and their lengths. -/
def Same (s s' : ClientBuffers) : Prop := s'.send = s.send ∧ s'.recv = s.recv

/-- A sound call, by its result. -/
inductive Sounded (s s' : ClientBuffers) : Bool → Prop
  | quiet (hsame : Same s s') (hf : Fetched s s' 0 []) : Sounded s s' true
  | failed {a : BufferSource} {k : Nat} (hsame : Same s s')
    (hf : Fetched s s' k (gotAll a (List.range' s.next k) ++ releaseAll a (List.range' s.next k))) : Sounded s s' false
  | replaced {old other : List Nat} (h : Replaced s s' .new old other) : Sounded s s' true

inductive Unsounded (s s' : ClientBuffers) : Prop
  | leaked {k : Nat} (hsame : Same s s') (hf : Fetched s s' (k + 1) (gotAll .new (List.range' s.next (k + 1))))
  | pooled {cache : Nat} {old other : List Nat} (h : Replaced s s' (.pool cache) old other)

/-- `put` writes the set `b` of `s` and leaves `other`. -/
structure SetOf (s : ClientBuffers) (b : BufferSet) (put : BufferSet → ClientBuffers → ClientBuffers)
    (other : List Nat) : Prop where
  before : s.held.Perm (b.held ++ other)
  after : ∀ b' t, Same s t → (put b' t).held.Perm (b'.held ++ other)
  fetched : ∀ b' t, (put b' t).next = t.next ∧ (put b' t).events = t.events

theorem setOf_send (s : ClientBuffers) : SetOf s s.send putSend s.recv.held where
  before := .refl _
  after b' t ht := by
    show (b'.held ++ t.recv.held).Perm _
    rw [ht.2]
  fetched _ _ := ⟨rfl, rfl⟩

theorem setOf_recv (s : ClientBuffers) : SetOf s s.recv putRecv s.send.held where
  before := List.perm_append_comm
  after b' t ht := by
    show (t.send.held ++ b'.held).Perm _
    rw [ht.1]
    exact List.perm_append_comm
  fetched _ _ := ⟨rfl, rfl⟩

namespace SetOf

variable {b : BufferSet} {put : BufferSet → ClientBuffers → ClientBuffers} {other : List Nat}

theorem replaced (h : SetOf s b put other) (a : BufferSource) (n : Nat) :
    Replaced s (put (ClientBuffers.replaced s.next (s.next + 1) (s.next + 2) n) ((s.fetch a 3).release .new b.held))
      a b.held other where
  before := h.before
  after := h.after _ _ ⟨rfl, rfl⟩
  fetched := by
    obtain ⟨hnext, hevents⟩ := h.fetched (ClientBuffers.replaced s.next (s.next + 1) (s.next + 2) n)
      ((s.fetch a 3).release .new b.held)
    refine ⟨hnext, ?_⟩
    rw [hevents, ← List.append_assoc]
    rfl

theorem sounded_or (h : SetOf s b put other) (n : Nat) (a : SizeAnswers) :
    s.SoundSize n b.dwDataLen a ∧ Sounded s (s.setBufferSize b put n a).1 (s.setBufferSize b put n a).2 ∨
      ¬ s.SoundSize n b.dwDataLen a ∧ Unsounded s (s.setBufferSize b put n a).1 := by
  unfold setBufferSize SoundSize
  by_cases hlarge : 0 < n ∧ n ≤ b.dwDataLen
  · rw [if_pos hlarge]
    exact .inl ⟨.inl hlarge, .quiet ⟨rfl, rfl⟩ ⟨rfl, (List.append_nil _).symm⟩⟩
  simp only [hlarge, if_false, false_or, getBuffers]
  have hback : ∀ (src : BufferSource) (k : Nat), Fetched s ((s.fetch src k).release src (List.range' s.next k)) k
      (gotAll src (List.range' s.next k) ++ releaseAll src (List.range' s.next k)) := fun src k =>
    ⟨rfl, List.append_assoc ..⟩
  cases s.pool with
  | some cache =>
    simp only [Option.isSome_some, if_true]
    rcases poolBuffers_cases s cache a with ⟨hok, heq⟩ | ⟨hok, k, heq⟩
    · rw [heq]
      exact .inr ⟨not_not_intro hok, .pooled (h.replaced _ n)⟩
    · rw [heq]
      exact .inl ⟨hok, .failed ⟨rfl, rfl⟩ (hback _ k)⟩
  | none =>
    simp only [Option.isSome_none, Bool.false_eq_true, if_false]
    rcases newBuffers_cases s a with ⟨hleak, heq⟩ | ⟨hleak, k, heq⟩ | ⟨hleak, k, heq⟩
    · rw [heq]
      exact .inl ⟨hleak, .replaced (h.replaced _ n)⟩
    · rw [heq]
      exact .inl ⟨hleak, .failed ⟨rfl, rfl⟩ (hback _ k)⟩
    · rw [heq]
      exact .inr ⟨hleak, .leaked ⟨rfl, rfl⟩ ⟨rfl, rfl⟩⟩

end SetOf

theorem sounded_or (s : ClientBuffers) (c : ClientCall) :
    s.Sound c ∧ Sounded s (c.run s).1 (c.run s).2 ∨ ¬ s.Sound c ∧ Unsounded s (c.run s).1 := by
  cases c with
  | setUsedMemoryCachePool => exact .inl ⟨trivial, .quiet ⟨rfl, rfl⟩ ⟨rfl, (List.append_nil _).symm⟩⟩
  | setSendBufferSize n a => exact (setOf_send s).sounded_or _ a
  | setRecvBufferSize n a => exact (setOf_recv s).sounded_or _ a

/-! ### Sound runs -/

/-- What is held came from `new[]`, and what is not held went back to where it came from. -/
structure Kept (s : ClientBuffers) : Prop where
  lt : ∀ id ∈ s.held, id < s.next
  fresh : ∀ id, s.next ≤ id → gots id s.events = []
  nodup : s.held.Nodup
  held : ∀ id ∈ s.held, gots id s.events = [.new] ∧ releases id s.events = []
  settled : ∀ id ∉ s.held, (gots id s.events).length ≤ 1 ∧ releases id s.events = gots id s.events

theorem kept_construct : Kept construct where
  lt _ h := nomatch h
  fresh _ _ := rfl
  nodup := List.nodup_nil
  held _ h := nomatch h
  settled _ _ := ⟨Nat.zero_le 1, rfl⟩

theorem held_of_same (h : Same s s') : s'.held = s.held := by
  unfold held
  rw [h.1, h.2]

theorem mem_range'_next {id k : Nat} : id ∈ List.range' s.next k ↔ s.next ≤ id ∧ id < s.next + k := by
  rw [List.mem_range'_1]

/-- What is not among the next buffers is not in the events of getting them. -/
theorem Kept.fresh_range' (hk : Kept s) {id k : Nat} (h : id ∈ List.range' s.next k) :
    gots id s.events = [] ∧ releases id s.events = [] := by
  have hid := (mem_range'_next.mp h).1
  have hg := hk.fresh id hid
  refine ⟨hg, ?_⟩
  rw [(hk.settled id fun hm => absurd (hk.lt id hm) (Nat.not_lt.mpr hid)).2, hg]

theorem Kept.failed (hk : Kept s) {a : BufferSource} {k : Nat} (hsame : Same s s')
    (hf : Fetched s s' k (gotAll a (List.range' s.next k) ++ releaseAll a (List.range' s.next k))) : Kept s' := by
  obtain ⟨hnext, hevents⟩ := hf
  have hnd : (List.range' s.next k).Nodup := List.nodup_range'
  have hheld := held_of_same hsame
  -- the events of a buffer that is not one of the next
  have hold : ∀ id ∉ List.range' s.next k,
      gots id s'.events = gots id s.events ∧ releases id s'.events = releases id s.events := by
    intro id hid
    simp [hevents, gots_gotAll_of_notMem hid, releases_releaseAll_of_notMem hid]
  have hlt : ∀ id ∈ s.held, id ∉ List.range' s.next k := fun id hid hm =>
    absurd (hk.lt id hid) (Nat.not_lt.mpr (mem_range'_next.mp hm).1)
  constructor
  · intro id hid
    rw [hheld] at hid
    have := hk.lt id hid
    omega
  · intro id hid
    rw [(hold id fun hm => by have := mem_range'_next.mp hm; omega).1]
    exact hk.fresh id (by omega)
  · rw [hheld]
    exact hk.nodup
  · intro id hid
    rw [hheld] at hid
    rw [(hold id (hlt id hid)).1, (hold id (hlt id hid)).2]
    exact hk.held id hid
  · intro id hid
    rw [hheld] at hid
    by_cases hm : id ∈ List.range' s.next k
    · obtain ⟨hg, hr⟩ := hk.fresh_range' hm
      simp [hevents, hg, hr, gots_gotAll hnd hm, releases_releaseAll hnd hm]
    · rw [(hold id hm).1, (hold id hm).2]
      exact hk.settled id hid

theorem Kept.replaced (hk : Kept s) {old other : List Nat} (h : Replaced s s' .new old other) : Kept s' := by
  obtain ⟨hnext, hevents⟩ := h.fetched
  have hnew : (List.range' s.next 3).Nodup := List.nodup_range'
  have hnd : (old ++ other).Nodup := h.before.nodup_iff.mp hk.nodup
  obtain ⟨hold, hother, hdisj⟩ := List.nodup_append'.mp hnd
  have hlt : ∀ id ∈ old ++ other, id ∉ List.range' s.next 3 := fun id hid hm =>
    absurd (hk.lt id (h.before.mem_iff.mpr hid)) (Nat.not_lt.mpr (mem_range'_next.mp hm).1)
  have hmem : ∀ id, id ∈ s'.held ↔ id ∈ List.range' s.next 3 ∨ id ∈ other := fun id =>
    h.after.mem_iff.trans List.mem_append
  have hgots : ∀ id, gots id s'.events = gots id s.events ++ gots id (gotAll .new (List.range' s.next 3)) := by
    intro id
    simp [hevents]
  have hreleases : ∀ id, releases id s'.events = releases id s.events ++ releases id (releaseAll .new old) := by
    intro id
    simp [hevents]
  constructor
  · intro id hid
    rcases (hmem id).mp hid with hm | hm
    · rw [hnext]
      exact (mem_range'_next.mp hm).2
    · have := hk.lt id (h.before.mem_iff.mpr (List.mem_append_right old hm))
      omega
  · intro id hid
    rw [hgots, gots_gotAll_of_notMem fun hm => by have := mem_range'_next.mp hm; omega, List.append_nil]
    exact hk.fresh id (by omega)
  · refine h.after.nodup_iff.mpr (List.nodup_append'.mpr ⟨hnew, hother, fun id hm hid => ?_⟩)
    exact hlt id (List.mem_append_right old hid) hm
  · intro id hid
    rcases (hmem id).mp hid with hm | hm
    · obtain ⟨hg, hr⟩ := hk.fresh_range' hm
      have hid : id ∉ old := fun hid => hlt id (List.mem_append_left other hid) hm
      rw [hgots, hreleases, hg, hr, gots_gotAll hnew hm, releases_releaseAll_of_notMem hid]
      exact ⟨rfl, rfl⟩
    · have hid : id ∉ old := fun hid => hdisj hid hm
      rw [hgots, hreleases, gots_gotAll_of_notMem (hlt id (List.mem_append_right old hm)),
        releases_releaseAll_of_notMem hid, List.append_nil, List.append_nil]
      exact hk.held id (h.before.mem_iff.mpr (List.mem_append_right old hm))
  · intro id hid
    have hne : id ∉ List.range' s.next 3 := fun hm => hid ((hmem id).mpr (.inl hm))
    rw [hgots, hreleases, gots_gotAll_of_notMem hne, List.append_nil]
    by_cases hm : id ∈ old
    · obtain ⟨hg, hr⟩ := hk.held id (h.before.mem_iff.mpr (List.mem_append_left other hm))
      rw [hg, hr, releases_releaseAll hold hm]
      exact ⟨le_rfl, rfl⟩
    · rw [releases_releaseAll_of_notMem hm, List.append_nil]
      refine hk.settled id fun hheld => ?_
      rcases List.mem_append.mp (h.before.mem_iff.mp hheld) with h' | h'
      · exact hm h'
      · exact hid ((hmem id).mpr (.inr h'))

theorem Kept.sounded (hk : Kept s) (h : Sounded s s' ok) : Kept s' := by
  cases h with
  | quiet hsame hf => exact hk.failed (a := .new) (k := 0) hsame hf
  | failed hsame hf => exact hk.failed hsame hf
  | replaced h => exact hk.replaced h

/-- A sound call that fails leaves everything, and what it got is given back. -/
theorem Kept.failKeeps (hk : Kept s) {c : ClientCall} (h : Sounded s (c.run s).1 (c.run s).2) :
    FailKeeps s c := by
  intro hfail
  have hk' := hk.sounded h
  rw [hfail] at h
  obtain ⟨hsame, -⟩ | ⟨hsame, hf⟩ := h
  refine ⟨hsame.1, hsame.2, fun id hid => (hk'.settled id fun hm => ?_).2⟩
  rw [held_of_same hsame] at hm
  exact absurd (hk.lt id hm) (Nat.not_lt.mpr hid)

/-- The destructor releases what is held, unless the flag is set. -/
theorem Kept.settled_destroy (hk : Kept s) :
    Settled s.destroy.events ↔ s.bUsedMemoryCachePool = false ∨ s.held = [] := by
  cases hflag : s.bUsedMemoryCachePool with
  | true =>
    have hevents : s.destroy.events = s.events := by simp [destroy, hflag]
    rw [hevents]
    constructor
    · -- a buffer that is held is got and not given back
      refine fun hs => .inr (List.eq_nil_iff_forall_not_mem.mpr fun id hid => ?_)
      obtain ⟨hg, hr⟩ := hk.held id hid
      have heq := (hs id).2
      rw [hg, hr] at heq
      cases heq
    · rintro (hfalse | hnil)
      · cases hfalse
      · exact fun id => hk.settled id (by rw [hnil]; exact List.not_mem_nil)
  | false =>
    have hevents : s.destroy.events = s.events ++ releaseAll .new s.held := by simp [destroy, hflag, release]
    refine ⟨fun _ => .inl rfl, fun _ id => ?_⟩
    rw [hevents, gots_append, releases_append, gots_releaseAll, List.append_nil]
    by_cases hid : id ∈ s.held
    · obtain ⟨hg, hr⟩ := hk.held id hid
      rw [hg, hr, releases_releaseAll hk.nodup hid]
      exact ⟨le_rfl, rfl⟩
    · rw [releases_releaseAll_of_notMem hid, List.append_nil]
      exact hk.settled id hid

/-! ### A buffer that is lost -/

/-- The buffer is not given back to where it came from, and no slot leads to that. -/
def Lost (s : ClientBuffers) (id : Nat) : Prop :=
  id < s.next ∧ ∃ a, a ∈ gots id s.events ∧ a ∉ releases id s.events ∧ (id ∈ s.held → a ≠ .new)

theorem Lost.not_settled {id : Nat} (h : Lost s id) : ¬ Settled s.events := by
  obtain ⟨-, a, hgot, hrel, -⟩ := h
  intro hs
  rw [(hs id).2] at hrel
  exact hrel hgot

/-- Of the buffers that are there already, only held ones are released, with `delete[]`. -/
structure Step (s s' : ClientBuffers) : Prop where
  le : s.next ≤ s'.next
  held : ∀ id < s.next, id ∈ s'.held → id ∈ s.held
  events : ∃ es, s'.events = s.events ++ es ∧ ∀ id < s.next, ∀ a ∈ releases id es, a = .new ∧ id ∈ s.held

theorem Lost.step {id : Nat} (h : Lost s id) (hs : Step s s') : Lost s' id := by
  obtain ⟨hlt, a, hgot, hrel, hheld⟩ := h
  obtain ⟨es, hevents, hes⟩ := hs.events
  refine ⟨lt_of_lt_of_le hlt hs.le, a, ?_, ?_, fun hm => hheld (hs.held id hlt hm)⟩
  · rw [hevents, gots_append]
    exact List.mem_append_left _ hgot
  · rw [hevents, releases_append]
    rintro hm
    rcases List.mem_append.mp hm with hm | hm
    · exact hrel hm
    · obtain ⟨rfl, hid⟩ := hes id hlt a hm
      exact hheld hid rfl

theorem step_of_same {k : Nat} {es : List (Event Nat BufferSource)} (hsame : Same s s') (hf : Fetched s s' k es)
    (hes : ∀ id < s.next, releases id es = []) : Step s s' where
  le := hf.1 ▸ Nat.le_add_right _ _
  held id _ hid := by rwa [held_of_same hsame] at hid
  events := ⟨es, hf.2, fun id hid a ha => by
    rw [hes id hid] at ha
    cases ha⟩

theorem Replaced.step {a : BufferSource} {old other : List Nat} (h : Replaced s s' a old other) : Step s s' where
  le := h.fetched.1 ▸ Nat.le_add_right _ _
  held id hid hm := by
    rcases List.mem_append.mp (h.after.mem_iff.mp hm) with hm | hm
    · exact absurd (mem_range'_next.mp hm).1 (Nat.not_le.mpr hid)
    · exact h.before.mem_iff.mpr (List.mem_append_right old hm)
  events := by
    refine ⟨_, h.fetched.2, fun id _ b hb => ?_⟩
    rw [releases_append, releases_gotAll, List.nil_append] at hb
    have hid : id ∈ old := by
      by_contra hid
      rw [releases_releaseAll_of_notMem hid] at hb
      cases hb
    exact ⟨eq_of_mem_releaseAll hb, h.before.mem_iff.mpr (List.mem_append_left other hid)⟩

theorem Sounded.step (h : Sounded s s' ok) : Step s s' := by
  cases h with
  | quiet hsame hf => exact step_of_same hsame hf fun _ _ => rfl
  | @failed a k hsame hf =>
    refine step_of_same hsame hf fun id hid => ?_
    have hm : id ∉ List.range' s.next k := fun hm => absurd (mem_range'_next.mp hm).1 (Nat.not_le.mpr hid)
    rw [releases_append, releases_gotAll, releases_releaseAll_of_notMem hm, List.nil_append]
  | replaced h => exact h.step

theorem Unsounded.step (h : Unsounded s s') : Step s s' := by
  cases h with
  | leaked hsame hf => exact step_of_same hsame hf fun id _ => releases_gotAll _
  | pooled h => exact h.step

theorem Unsounded.lost (h : Unsounded s s') (hk : Kept s) : Lost s' s.next := by
  have hr : ∀ k, s.next ∈ List.range' s.next (k + 1) := fun k => mem_range'_next.mpr ⟨le_rfl, by omega⟩
  have hnd : ∀ k, (List.range' s.next k).Nodup := fun k => List.nodup_range'
  cases h with
  | @leaked k hsame hf =>
    refine ⟨by have := hf.1; omega, .new, ?_, ?_, fun hm => ?_⟩
    · rw [hf.2, gots_append, gots_gotAll (hnd _) (hr k)]
      exact List.mem_append_right _ (List.mem_singleton_self _)
    · rw [hf.2, releases_append, releases_gotAll, List.append_nil, (hk.fresh_range' (hr k)).2]
      exact List.not_mem_nil
    · rw [held_of_same hsame] at hm
      exact absurd (hk.lt _ hm) (Nat.lt_irrefl _)
  | @pooled cache old other h =>
    refine ⟨by have := h.fetched.1; omega, .pool cache, ?_, ?_, fun _ => BufferSource.noConfusion⟩
    · rw [h.fetched.2, gots_append, gots_append, gots_gotAll (hnd _) (hr 2)]
      exact List.mem_append_right _ (List.mem_append_left _ (List.mem_singleton_self _))
    · rw [h.fetched.2, releases_append, releases_append, releases_gotAll, (hk.fresh_range' (hr 2)).2]
      exact fun hm => BufferSource.noConfusion (eq_of_mem_releaseAll hm)

theorem step_destroy (s : ClientBuffers) : Step s s.destroy where
  le := by
    unfold destroy
    dsimp only
    split
    · exact le_rfl
    · exact le_rfl
  held id _ hid := by
    have hnil : s.destroy.held = [] := rfl
    rw [hnil] at hid
    cases hid
  events := by
    cases hflag : s.bUsedMemoryCachePool with
    | true => exact ⟨[], by simp [destroy, hflag], fun _ _ _ ha => nomatch ha⟩
    | false =>
      refine ⟨releaseAll .new s.held, by simp [destroy, hflag, release], fun id _ a ha => ⟨eq_of_mem_releaseAll ha, ?_⟩⟩
      by_contra hid
      rw [releases_releaseAll_of_notMem hid] at ha
      cases ha

theorem Lost.run {id : Nat} (cs : List ClientCall) : ∀ {s : ClientBuffers}, Lost s id → Lost (s.run cs) id := by
  induction cs with
  | nil => exact fun h => h
  | cons c cs ih =>
    intro s h
    refine ih (h.step ?_)
    rcases s.sounded_or c with ⟨-, hs⟩ | ⟨-, hs⟩
    · exact hs.step
    · exact hs.step

/-- The induction is on the calls: up to the first that is not sound `Kept` holds, and after it a buffer is lost. -/
theorem Kept.run_iff (cs : List ClientCall) : ∀ {s : ClientBuffers}, Kept s →
    (Along FailKeeps s cs ∧ Settled (s.run cs).destroy.events ↔
      Along Sound s cs ∧ ((s.run cs).bUsedMemoryCachePool = false ∨ (s.run cs).held = [])) := by
  induction cs with
  | nil => exact fun hk => and_congr Iff.rfl hk.settled_destroy
  | cons c cs ih =>
    intro s hk
    rcases s.sounded_or c with ⟨hsound, hs⟩ | ⟨hsound, hs⟩
    · have hrest := ih (hk.sounded hs)
      constructor
      · rintro ⟨⟨-, hfail⟩, hset⟩
        obtain ⟨hal, hend⟩ := hrest.mp ⟨hfail, hset⟩
        exact ⟨⟨hsound, hal⟩, hend⟩
      · rintro ⟨⟨-, hal⟩, hend⟩
        obtain ⟨hfail, hset⟩ := hrest.mpr ⟨hal, hend⟩
        exact ⟨⟨hk.failKeeps hs, hfail⟩, hset⟩
    · constructor
      · rintro ⟨-, hset⟩
        exact absurd hset (((hs.lost hk).run cs).step (step_destroy _)).not_settled
      · rintro ⟨⟨hs', -⟩, -⟩
        exact absurd hs' hsound

/-- Over the life of a client every buffer goes back to where it came from, once, and a size that fails changes
nothing, exactly if no call gets its buffers from a cache or is left by an exception in the middle, and the flag is
not set at the end. -/
theorem released_iff (ops : List ClientOp) : Released ops ↔
    Along Sound construct (calls construct ops) ∧
      ((construct.run (calls construct ops)).bUsedMemoryCachePool = false ∨
        (construct.run (calls construct ops)).held = []) :=
  kept_construct.run_iff _

/-- `CXTaskCreateConnection`: a client that uses the cache of the server, is created and goes out of scope. -/
theorem not_released_createConnection :
    ¬ Released [.call (.setUsedMemoryCachePool true (some 0)), .create false ⟨.ok, .ok, .ok⟩ ⟨.ok, .ok, .ok⟩] := by
  rintro ⟨-, hset⟩
  have h : releases 0 _ = gots 0 _ := (hset 0).2
  revert h
  decide

end ClientBuffers

end KonsanNet
