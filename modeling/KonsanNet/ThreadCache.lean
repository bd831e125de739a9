import KonsanNet.ThreadPool

/-!
# The caches of the threads (`CXCommunicationServer::GetFirstThreadCache`)

A thread finds its `CXThread` object by its id, in the pool of the socket kernel or else in the one of the dispatch
threads; the object holds the cache. The id is the low half of the `pthread_t`, in the maps and in the lookup. The
threads of which two have the same low half share an object: the first one of the first pool. So the caches
are private for all runs if and only if no live thread has the low half of another one that is in a pool
(`private_iff`).

A buffer is named by the number of its allocation. What the buffers hold is not modelled.
-/

namespace KonsanNet

namespace CXThreadPool

def findThread (dwThreadID : Nat) (s : CXThreadPool) : Option Nat :=
  (s.mapThreadPool.find? fun e => e.1 = dwThreadID).map Prod.snd

end CXThreadPool

namespace ThreadCache

/-- `(DWORD)m_hThread`, and what `GetCurrentThreadID` gives for the calling thread. -/
def dwThreadID (hThread : UInt64) : Nat := hThread.toUInt32.toNat

/-- A `CXThread` of a pool, by its place. -/
inductive ThreadObj
  | kernel (i : Nat)
  | dispatch (i : Nat)
deriving DecidableEq

/-- The pool after the threads `hThreads` were created, one after the other. -/
def createAll (hThreads : List UInt64) : CXThreadPool :=
  (CXThreadPool.createThreads CXThreadPool.addThread (fun i => hThreads[i]?.map dwThreadID) 0 hThreads.length
    .construct).1

/-- The threads of `m_socketServerKernel`, those of `m_threadPoolDispatch`, and all that are live. -/
structure Server where
  kernel : List UInt64
  dispatch : List UInt64
  live : List UInt64
  nodup : (kernel ++ dispatch).Nodup
  live_of_mem : ∀ t ∈ kernel ++ dispatch, t ∈ live

/-- The one that received the buffer, and the size that it asked for. -/
structure Receipt where
  thread : UInt64
  buffer : Nat
  dwSize : UInt32
deriving DecidableEq

/-- The members of the thread objects; `buffers` has the object and the size of each allocation. -/
structure State where
  pbyFirstCache : ThreadObj → Option Nat
  dwFirstCacheSize : ThreadObj → UInt32
  buffers : List (ThreadObj × UInt32)
  received : List Receipt

def start : State := ⟨fun _ => none, fun _ => 0, [], []⟩

namespace State

/-- `AllocateFirstCache` of the object `o`; `new` says whether there is memory. -/
def allocateFirstCache (o : ThreadObj) (dwSize : UInt32) (new : Bool) (s : State) : State × Bool :=
  if dwSize ≤ s.dwFirstCacheSize o then (s, true)
  else if new then
    ({ s with
      pbyFirstCache := Function.update s.pbyFirstCache o (some s.buffers.length)
      dwFirstCacheSize := Function.update s.dwFirstCacheSize o dwSize
      buffers := s.buffers ++ [(o, dwSize)] }, true)
  else (s, false)

end State

inductive Action
  | allocateFirstCache (o : ThreadObj) (dwSize : UInt32) (new : Bool)
  | getFirstThreadCache (self : UInt64) (dwSize : UInt32) (new : Bool)

namespace Server

variable (srv : Server)

def getCurrrentThread (self : UInt64) : Option ThreadObj :=
  match (createAll srv.kernel).findThread (dwThreadID self) with
  | some i => some (.kernel i)
  | none => ((createAll srv.dispatch).findThread (dwThreadID self)).map .dispatch

/-- `GetFirstThreadCache`, called on the thread `self`; `none` is `NULL`. -/
def getFirstThreadCache (self : UInt64) (dwSize : UInt32) (new : Bool) (s : State) : State × Option Nat :=
  match srv.getCurrrentThread self with
  | none => (s, none)
  | some o =>
    if s.dwFirstCacheSize o < dwSize then
      match s.allocateFirstCache o dwSize new with
      | (s, true) => (s, s.pbyFirstCache o)
      | (s, false) => (s, none)
    else (s, s.pbyFirstCache o)

/-- The object is the one of the thread. -/
def Owns (t : UInt64) : ThreadObj → Prop
  | .kernel i => srv.kernel[i]? = some t
  | .dispatch i => srv.dispatch[i]? = some t

/-- The caches that the server makes when it starts, and the calls of the live threads. -/
def step (s : State) : Action → Option State
  | .allocateFirstCache o dwSize new => some (s.allocateFirstCache o dwSize new).1
  | .getFirstThreadCache self dwSize new =>
    if self ∈ srv.live then
      match srv.getFirstThreadCache self dwSize new s with
      | (s, some b) => some { s with received := s.received ++ [⟨self, b, dwSize⟩] }
      | (s, none) => some s
    else none

/-- Each buffer that was received is one of the thread's own object and has the size asked for, and no two threads
received one. -/
structure Private (s : State) : Prop where
  own : ∀ r ∈ s.received, ∃ o n, s.buffers[r.buffer]? = some (o, n) ∧ srv.Owns r.thread o ∧ r.dwSize ≤ n
  apart : ∀ r ∈ s.received, ∀ r' ∈ s.received, r.buffer = r'.buffer → r.thread = r'.thread

end Server

/-! ### The map of a pool -/

section Pool

variable {m : List (Nat × Nat)} {id t : Nat}

theorem mem_mapInsert {e : Nat × Nat} : ∀ {m : List (Nat × Nat)}, e ∈ CXThreadPool.mapInsert id t m →
    e = (id, t) ∨ e ∈ m
  | [], h => .inl (List.mem_singleton.mp h)
  | e' :: m, h => by
    unfold CXThreadPool.mapInsert at h
    split_ifs at h
    · exact List.mem_cons.mp h
    · exact .inr h
    · rcases List.mem_cons.mp h with rfl | h
      · exact .inr List.mem_cons_self
      · exact (mem_mapInsert h).imp_right (List.mem_cons_of_mem _)

theorem pairwise_mapInsert : ∀ {m : List (Nat × Nat)}, m.Pairwise (·.1 < ·.1) →
    (CXThreadPool.mapInsert id t m).Pairwise (·.1 < ·.1)
  | [], _ => List.pairwise_singleton ..
  | e :: m, h => by
    have hcons := List.pairwise_cons.mp h
    unfold CXThreadPool.mapInsert
    split_ifs with hlt heq
    · refine List.pairwise_cons.mpr ⟨fun e' he => ?_, h⟩
      rcases List.mem_cons.mp he with rfl | he
      · exact hlt
      · exact hlt.trans (hcons.1 e' he)
    · exact h
    · refine List.pairwise_cons.mpr ⟨fun e' he => ?_, pairwise_mapInsert hcons.2⟩
      rcases mem_mapInsert he with rfl | he
      · show e.1 < id
        omega
      · exact hcons.1 e' he

theorem find?_mapInsert (d : Nat) : ∀ {m : List (Nat × Nat)}, m.Pairwise (·.1 < ·.1) →
    (CXThreadPool.mapInsert id t m).find? (fun e => e.1 = d) =
      (m.find? fun e => e.1 = d).or (if id = d then some (id, t) else none)
  | [], _ => by
    by_cases hd : id = d <;> simp [CXThreadPool.mapInsert, hd]
  | e :: m, h => by
    have hcons := List.pairwise_cons.mp h
    have ih := find?_mapInsert d hcons.2
    unfold CXThreadPool.mapInsert
    by_cases hd : id = d
    · rw [if_pos hd] at ih ⊢
      rcases lt_trichotomy id e.1 with hlt | heq | hgt
      · have hnone : (e :: m).find? (fun e => e.1 = d) = none := by
          refine List.find?_eq_none.mpr fun e' he => ?_
          rcases List.mem_cons.mp he with rfl | he
          · simp only [decide_eq_true_eq]
            omega
          · have := hcons.1 e' he
            simp only [decide_eq_true_eq]
            omega
        rw [if_pos hlt, hnone, List.find?_cons_of_pos (by simpa using hd)]
        rfl
      · rw [if_neg heq.not_lt, if_pos heq, List.find?_cons_of_pos (by simpa using heq.symm.trans hd)]
        rfl
      · have hed : ¬ e.1 = d := by omega
        rw [if_neg hgt.not_gt, if_neg hgt.ne', List.find?_cons_of_neg (by simpa using hed),
          List.find?_cons_of_neg (by simpa using hed), ih]
    · rw [if_neg hd, Option.or_none] at ih ⊢
      split_ifs
      · exact List.find?_cons_of_neg (by simpa using hd)
      · rfl
      · by_cases hed : e.1 = d
        · rw [List.find?_cons_of_pos (by simpa using hed), List.find?_cons_of_pos (by simpa using hed)]
        · rw [List.find?_cons_of_neg (by simpa using hed), List.find?_cons_of_neg (by simpa using hed), ih]

/-- Of the threads that the loop adds, an id finds the one that had it in the map, or else the first one. -/
theorem find?_createThreads (d : Nat) (hThreads : List UInt64) : ∀ (pre ts : List UInt64) (s : CXThreadPool),
    hThreads = pre ++ ts → s.mapThreadPool.Pairwise (·.1 < ·.1) →
    (CXThreadPool.createThreads CXThreadPool.addThread (fun i => hThreads[i]?.map dwThreadID) pre.length ts.length
      s).1.findThread d =
      (s.findThread d).or ((ts.findIdx? fun t => dwThreadID t = d).map (s.ids.length + ·))
  | pre, [], s, _, _ => by simp [CXThreadPool.createThreads]
  | pre, t :: ts, s, heq, hs => by
    have hcreate : hThreads[pre.length]? = some t := by rw [heq]; simp
    have hrec := find?_createThreads d hThreads (pre ++ [t]) ts (s.addThread (dwThreadID t)) (by simp [heq])
      (pairwise_mapInsert hs)
    have hfind : (s.addThread (dwThreadID t)).findThread d =
        (s.findThread d).or (if dwThreadID t = d then some s.ids.length else none) := by
      unfold CXThreadPool.findThread
      show (List.find? _ (CXThreadPool.mapInsert _ _ _)).map _ = _
      rw [find?_mapInsert d hs, Option.map_or]
      split_ifs <;> rfl
    have hlen : (s.addThread (dwThreadID t)).ids.length = s.ids.length + 1 := by simp [CXThreadPool.addThread]
    rw [List.length_cons, CXThreadPool.createThreads]
    simp only [hcreate, Option.map_some]
    rw [List.length_append, List.length_singleton] at hrec
    rw [hrec, hfind, hlen, List.findIdx?_cons, Option.or_assoc]
    congr 1
    by_cases hd : dwThreadID t = d
    · simp [hd]
    · simp [hd, Function.comp_def, Nat.add_assoc, Nat.add_comm 1]

theorem findThread_createAll (d : Nat) (hThreads : List UInt64) :
    (createAll hThreads).findThread d = hThreads.findIdx? fun t => dwThreadID t = d := by
  have h := find?_createThreads d hThreads [] hThreads .construct rfl List.Pairwise.nil
  have hnone : (CXThreadPool.construct).findThread d = none := rfl
  have hlen : (CXThreadPool.construct).ids.length = 0 := rfl
  rw [List.length_nil, hnone, hlen, Option.none_or] at h
  rw [createAll, h]
  simp

end Pool

namespace Server

variable {srv : Server} {t r : UInt64} {o : ThreadObj}

/-! ### The lookup -/

theorem Owns.inj (ht : srv.Owns t o) (hr : srv.Owns r o) : t = r := by
  cases o with
  | kernel i => exact Option.some.inj (ht.symm.trans hr)
  | dispatch i => exact Option.some.inj (ht.symm.trans hr)

/-- The object that is found is the one of a thread with the same id. -/
theorem exists_owner (h : srv.getCurrrentThread t = some o) :
    ∃ r ∈ srv.kernel ++ srv.dispatch, srv.Owns r o ∧ dwThreadID t = dwThreadID r := by
  unfold getCurrrentThread at h
  rw [findThread_createAll, findThread_createAll] at h
  split at h
  · rename_i i hi
    obtain rfl := Option.some.inj h
    obtain ⟨hlt, hid, -⟩ := List.findIdx?_eq_some_iff_getElem.mp hi
    exact ⟨srv.kernel[i], List.mem_append_left _ (List.getElem_mem hlt), List.getElem?_eq_getElem hlt,
      (of_decide_eq_true hid).symm⟩
  · obtain ⟨i, hi, rfl⟩ := Option.map_eq_some_iff.mp h
    obtain ⟨hlt, hid, -⟩ := List.findIdx?_eq_some_iff_getElem.mp hi
    exact ⟨srv.dispatch[i], List.mem_append_right _ (List.getElem_mem hlt), List.getElem?_eq_getElem hlt,
      (of_decide_eq_true hid).symm⟩

theorem exists_getCurrrentThread (hr : r ∈ srv.kernel ++ srv.dispatch) :
    ∃ o, srv.getCurrrentThread r = some o := by
  unfold getCurrrentThread
  rw [findThread_createAll, findThread_createAll]
  split
  · exact ⟨_, rfl⟩
  · rename_i hnone
    rcases List.mem_append.mp hr with hr | hr
    · have := List.findIdx?_eq_none_iff.mp hnone r hr
      simp at this
    · cases hfind : srv.dispatch.findIdx? fun t => dwThreadID t = dwThreadID r with
      | none =>
        have := List.findIdx?_eq_none_iff.mp hfind r hr
        simp at this
      | some i => exact ⟨_, rfl⟩

theorem getCurrrentThread_congr (h : dwThreadID t = dwThreadID r) :
    srv.getCurrrentThread t = srv.getCurrrentThread r := by
  unfold getCurrrentThread
  rw [h]

/-! ### The caches -/

variable {s s' : State} {dwSize : UInt32} {new : Bool}

/-- The cache of an object was allocated for it with the size that it has. -/
def Kept (s : State) : Prop := ∀ o b, s.pbyFirstCache o = some b → s.buffers[b]? = some (o, s.dwFirstCacheSize o)

/-- What an allocation and a call leave: the buffers of before, and the caches as they should be. -/
structure Grown (s s' : State) : Prop where
  kept : Kept s'
  buffers : s.buffers <+: s'.buffers
  received : s'.received = s.received

theorem getElem?_of_prefix {l l' : List (ThreadObj × UInt32)} (h : l <+: l') {i : Nat} {e : ThreadObj × UInt32}
    (hi : l[i]? = some e) : l'[i]? = some e := by
  obtain ⟨tail, rfl⟩ := h
  rw [List.getElem?_append_left (List.getElem?_eq_some_iff.mp hi).1, hi]

theorem grown_allocateFirstCache (h : Kept s) : Grown s (s.allocateFirstCache o dwSize new).1 := by
  unfold State.allocateFirstCache
  split_ifs
  · exact ⟨h, List.prefix_rfl, rfl⟩
  · refine ⟨fun o' b hb => ?_, List.prefix_append .., rfl⟩
    by_cases ho : o' = o
    · subst ho
      simp only [Function.update_self, Option.some.injEq] at hb ⊢
      subst hb
      exact List.getElem?_concat_length
    · simp only [Function.update_of_ne ho] at hb ⊢
      exact getElem?_of_prefix (List.prefix_append ..) (h o' b hb)
  · exact ⟨h, List.prefix_rfl, rfl⟩

theorem le_of_allocateFirstCache (h : s.allocateFirstCache o dwSize new = (s', true)) :
    dwSize ≤ s'.dwFirstCacheSize o := by
  unfold State.allocateFirstCache at h
  split_ifs at h with hle
  · obtain ⟨rfl, -⟩ := Prod.mk.inj h
    exact hle
  · obtain ⟨rfl, -⟩ := Prod.mk.inj h
    simp only [Function.update_self]
    exact UInt32.le_refl _
  · cases (Prod.mk.inj h).2

theorem grown_getFirstThreadCache (h : Kept s) : Grown s (srv.getFirstThreadCache t dwSize new s).1 := by
  unfold getFirstThreadCache
  split
  · exact ⟨h, List.prefix_rfl, rfl⟩
  · rename_i o _
    have hgrown : Grown s (s.allocateFirstCache o dwSize new).1 := grown_allocateFirstCache h
    split_ifs
    · split
      · rename_i heq
        rw [heq] at hgrown
        exact hgrown
      · rename_i heq
        rw [heq] at hgrown
        exact hgrown
    · exact ⟨h, List.prefix_rfl, rfl⟩

/-- A buffer that is returned is the one of the object that was found, and large enough. -/
theorem buffer_of_getFirstThreadCache (h : Kept s) {b : Nat}
    (hb : (srv.getFirstThreadCache t dwSize new s).2 = some b) :
    ∃ o n, (srv.getFirstThreadCache t dwSize new s).1.buffers[b]? = some (o, n) ∧
      srv.getCurrrentThread t = some o ∧ dwSize ≤ n := by
  cases ho : srv.getCurrrentThread t with
  | none => simp [getFirstThreadCache, ho] at hb
  | some o =>
    by_cases hlt : s.dwFirstCacheSize o < dwSize
    · cases ha : s.allocateFirstCache o dwSize new with
      | mk s' done =>
        cases done with
        | false => simp [getFirstThreadCache, ho, hlt, ha] at hb
        | true =>
          simp only [getFirstThreadCache, ho, hlt, ha, if_true] at hb ⊢
          have hkept : Kept s' := (ha ▸ grown_allocateFirstCache h : Grown s (s', true).1).kept
          exact ⟨o, _, hkept o b hb, rfl, le_of_allocateFirstCache ha⟩
    · simp only [getFirstThreadCache, ho, hlt, if_false] at hb ⊢
      exact ⟨o, _, h o b hb, rfl, UInt32.not_lt.mp hlt⟩

/-- Each buffer that was received is one of the object that its thread finds. -/
structure Inv (srv : Server) (s : State) : Prop where
  kept : Kept s
  found : ∀ r ∈ s.received, r.thread ∈ srv.live ∧
    ∃ o n, s.buffers[r.buffer]? = some (o, n) ∧ srv.getCurrrentThread r.thread = some o ∧ r.dwSize ≤ n

theorem inv_start : srv.Inv start := ⟨nofun, nofun⟩

theorem Inv.grown (h : srv.Inv s) (hg : Grown s s') : srv.Inv s' := by
  refine ⟨hg.kept, fun r hr => ?_⟩
  obtain ⟨hlive, o, n, hbuf, hfound, hle⟩ := h.found r (hg.received ▸ hr)
  exact ⟨hlive, o, n, getElem?_of_prefix hg.buffers hbuf, hfound, hle⟩

theorem Inv.step (h : srv.Inv s) {a : Action} (hs : srv.step s a = some s') : srv.Inv s' := by
  cases a with
  | allocateFirstCache o dwSize new =>
    cases hs
    exact h.grown (grown_allocateFirstCache h.kept)
  | getFirstThreadCache self dwSize new =>
    simp only [Server.step, Option.ite_none_right_eq_some] at hs
    obtain ⟨hlive, hs⟩ := hs
    have hinv : srv.Inv (srv.getFirstThreadCache self dwSize new s).1 := h.grown (grown_getFirstThreadCache h.kept)
    have hbuf := fun b (hb : (srv.getFirstThreadCache self dwSize new s).2 = some b) =>
      buffer_of_getFirstThreadCache h.kept hb
    split at hs
    · rename_i s₁ b heq
      obtain rfl := Option.some.inj hs
      rw [heq] at hinv hbuf
      refine ⟨hinv.kept, fun r hr => ?_⟩
      rcases List.mem_append.mp hr with hr | hr
      · exact hinv.found r hr
      · rw [List.mem_singleton.mp hr]
        exact ⟨hlive, hbuf b rfl⟩
    · rename_i s₁ heq
      obtain rfl := Option.some.inj hs
      rw [heq] at hinv
      exact hinv

/-- Alone, a thread receives the first buffer of the object that it finds. -/
theorem owns_of_private (hlive : t ∈ srv.live) (ho : srv.getCurrrentThread t = some o)
    (h : ∀ as s, runSteps srv.step start as = some s → srv.Private s) : srv.Owns t o := by
  have hcall : srv.getFirstThreadCache t 1 true start =
      (⟨Function.update start.pbyFirstCache o (some 0), Function.update start.dwFirstCacheSize o 1, [(o, 1)], []⟩,
        some 0) := by
    simp [getFirstThreadCache, ho, State.allocateFirstCache, start]
  have hr : runSteps srv.step start [.getFirstThreadCache t 1 true] =
      some ⟨Function.update start.pbyFirstCache o (some 0), Function.update start.dwFirstCacheSize o 1, [(o, 1)],
        [⟨t, 0, 1⟩]⟩ := by
    simp only [runSteps, Server.step, if_pos hlive, hcall, Option.bind_some, List.nil_append]
  obtain ⟨o', n, hbuf, hown, -⟩ := (h _ _ hr).own _ (List.mem_singleton_self _)
  obtain ⟨rfl, -⟩ := Prod.mk.inj (Option.some.inj hbuf)
  exact hown

/-- **Private caches**. In every run, each thread receives no buffer or one of its own object that is as large as
requested, and no two threads receive the same one, if and only if no live thread has the low 32 bits of another one
that is in a pool. -/
theorem private_iff (srv : Server) : (∀ as s, runSteps srv.step start as = some s → srv.Private s) ↔
    ∀ t ∈ srv.live, ∀ r ∈ srv.kernel ++ srv.dispatch, dwThreadID t = dwThreadID r → t = r := by
  constructor
  · intro h t ht r hr heq
    obtain ⟨o, ho⟩ := exists_getCurrrentThread hr
    exact (owns_of_private ht ((getCurrrentThread_congr heq).trans ho) h).inj
      (owns_of_private (srv.live_of_mem r hr) ho h)
  · intro hids as s hr
    have hinv : srv.Inv s := (Reachable.of_runSteps hr).invariant inv_start fun _ _ _ h hs => h.step hs
    have howns : ∀ r ∈ s.received,
        ∃ o n, s.buffers[r.buffer]? = some (o, n) ∧ srv.Owns r.thread o ∧ r.dwSize ≤ n := by
      intro r hr
      obtain ⟨hlive, o, n, hbuf, hfound, hle⟩ := hinv.found r hr
      obtain ⟨u, hu, hown, heq⟩ := exists_owner hfound
      exact ⟨o, n, hbuf, hids r.thread hlive u hu heq ▸ hown, hle⟩
    refine ⟨howns, fun r hr r' hr' hbuf => ?_⟩
    obtain ⟨o, n, hb, hown, -⟩ := howns r hr
    obtain ⟨o', n', hb', hown', -⟩ := howns r' hr'
    rw [hbuf, hb'] at hb
    obtain ⟨rfl, -⟩ := Prod.mk.inj (Option.some.inj hb)
    exact hown.inj hown'

/-- Two threads of the socket kernel, 4 GB apart. -/
def twoThreads : Server where
  kernel := [0x7f0000001700, 0x7f0100001700]
  dispatch := []
  live := [0x7f0000001700, 0x7f0100001700]
  nodup := by simp
  live_of_mem := by simp

/-- The second one receives the buffer that the first one received. -/
theorem not_private_twoThreads :
    ∃ s, runSteps twoThreads.step start
        [.getFirstThreadCache 0x7f0000001700 100 true, .getFirstThreadCache 0x7f0100001700 100 true] = some s ∧
      ¬ twoThreads.Private s := by
  refine ⟨_, rfl, fun h => ?_⟩
  exact absurd (h.apart ⟨0x7f0000001700, 0, 100⟩ (by decide) ⟨0x7f0100001700, 0, 100⟩ (by decide) rfl) (by decide)

end Server

end ThreadCache

end KonsanNet
