import KonsanNet.Run
import Mathlib.Tactic

/-!
# The thread pool (`CXThreadPool`)

A thread is named by its place in `ids`, which holds the ids of the threads in the order of their creation; the map
goes from ids to threads, in the order of the ids. `deleted` records the threads given to `delete`, and `derefEnd`
whether the end iterator of the map was dereferenced. The counters are integers: a `DWORD` that goes below zero
wraps, and is wrong either way.

`Destroy` forgets the threads without deleting them, and a thread that is released afterwards is on the free
list without being in the map. `RemoveThread` deletes what follows the removed entry, and leaves the counters as
they are. All other steps keep the books (`books_iff`).
-/

namespace KonsanNet

/-- `CXTHREAD_STATE` -/
inductive ThreadState
  | free
  | running
  | destroyed
  | dead
deriving DecidableEq

structure CXThreadPool where
  mapThreadPool : List (Nat × Nat)
  lstFreePool : List Nat
  dwMaximumNum : Nat
  dwThreadsNum : Int
  dwFreeThreadsNum : Int
  dwUsingThreadsNum : Int
  bCreated : Bool
  ids : List Nat
  deleted : List Nat
  derefEnd : Bool

namespace CXThreadPool

/-- `CXThreadPool()` -/
def construct : CXThreadPool where
  mapThreadPool := []
  lstFreePool := []
  dwMaximumNum := 1024
  dwThreadsNum := 0
  dwFreeThreadsNum := 0
  dwUsingThreadsNum := 0
  bCreated := false
  ids := []
  deleted := []
  derefEnd := false

/-- `m_mapThreadPool.insert(make_pair(id, t))` -/
def mapInsert (id t : Nat) : List (Nat × Nat) → List (Nat × Nat)
  | [] => [(id, t)]
  | e :: m =>
    if id < e.1 then (id, t) :: e :: m
    else if id = e.1 then e :: m
    else e :: mapInsert id t m

/-- `pThread->GetThreadID()` -/
def threadId (s : CXThreadPool) (t : Nat) : Nat := s.ids.getD t 0

/-- A new thread, with the id that `Create` gave it, joins both containers. -/
def addThread (id : Nat) (s : CXThreadPool) : CXThreadPool :=
  { s with
    ids := s.ids ++ [id]
    lstFreePool := s.lstFreePool ++ [s.ids.length]
    mapThreadPool := mapInsert id s.ids.length s.mapThreadPool
    dwFreeThreadsNum := s.dwFreeThreadsNum + 1 }

/-- The loop of `CreatePool` and `AddPoolSize` from `i` on, for `k` more threads; `create i` is the id of the
`i`-th one, or `none` where its `new` or its `Create` fails. -/
def createThreads (add : Nat → CXThreadPool → CXThreadPool) (create : Nat → Option Nat) :
    Nat → Nat → CXThreadPool → CXThreadPool × Bool
  | _, 0, s => (s, true)
  | i, k + 1, s =>
    match create i with
    | some id => createThreads add create (i + 1) k (add id s)
    | none => (s, false)

def destroy (s : CXThreadPool) : CXThreadPool :=
  { s with mapThreadPool := [], lstFreePool := [], dwFreeThreadsNum := 0, dwUsingThreadsNum := 0 }

def createPool (dwThreadNum : Nat) (create : Nat → Option Nat) (s : CXThreadPool) : CXThreadPool × Bool :=
  if dwThreadNum > s.dwMaximumNum then (s, false)
  else if s.bCreated then (s, true)
  else
    match createThreads addThread create 0 dwThreadNum s with
    | (s, false) => (s.destroy, false)
    | (s, true) => ({ s with bCreated := true, dwThreadsNum := dwThreadNum }, true)

def addPoolSize (dwAddNumber : Nat) (create : Nat → Option Nat) (s : CXThreadPool) : CXThreadPool × Bool :=
  if dwAddNumber = 0 then (s, true)
  else
    createThreads (fun id s => { s.addThread id with dwThreadsNum := s.dwThreadsNum + 1 }) create 0 dwAddNumber s

def getFreeThread (s : CXThreadPool) : CXThreadPool × Option Nat :=
  match s.lstFreePool with
  | [] => (s, none)
  | t :: rest =>
    ({ s with
      lstFreePool := rest
      dwFreeThreadsNum := s.dwFreeThreadsNum - 1
      dwUsingThreadsNum := s.dwUsingThreadsNum + 1 }, some t)

/-- `ReleaseThread`; `state` is `pThread->GetThreadState()`. -/
def releaseThread (t : Nat) (state : ThreadState) (s : CXThreadPool) : CXThreadPool :=
  if state ≠ .free then s
  else if t ∈ s.lstFreePool then s
  else
    { s with
      lstFreePool := s.lstFreePool ++ [t]
      dwFreeThreadsNum := s.dwFreeThreadsNum + 1
      dwUsingThreadsNum := s.dwUsingThreadsNum - 1 }

/-- `itPool = m_mapThreadPool.erase(itPool); delete[] itPool->second;` for the entry of `id`: the iterator is at the
entry behind it by then. -/
def eraseEntry (id : Nat) (s : CXThreadPool) : CXThreadPool :=
  match s.mapThreadPool.find? fun e => id < e.1 with
  | some e => { s with
      mapThreadPool := s.mapThreadPool.filter fun e => e.1 ≠ id
      deleted := s.deleted ++ [e.2] }
  | none => { s with mapThreadPool := s.mapThreadPool.filter fun e => e.1 ≠ id, derefEnd := true }

def removeThread (t : Nat) (s : CXThreadPool) : CXThreadPool :=
  let s := { s with lstFreePool := s.lstFreePool.erase t }
  match s.mapThreadPool.find? fun e => e.1 = s.threadId t with
  | some _ => s.eraseEntry (s.threadId t)
  | none => s

inductive Act
  | createPool (dwThreadNum : Nat) (create : Nat → Option Nat)
  | addPoolSize (dwAddNumber : Nat) (create : Nat → Option Nat)
  | destroy
  | getFreeThread
  | releaseThread (t : Nat) (state : ThreadState)
  | removeThread (t : Nat)

/-- The new threads have ids that no thread has had. -/
def withDistinctIds (s : CXThreadPool) : Option CXThreadPool := if s.ids.Nodup then some s else none

/-- The threads that are released and removed are some that the pool created. -/
def step (s : CXThreadPool) : Act → Option CXThreadPool
  | .createPool dwThreadNum create => (s.createPool dwThreadNum create).1.withDistinctIds
  | .addPoolSize dwAddNumber create => (s.addPoolSize dwAddNumber create).1.withDistinctIds
  | .destroy => some s.destroy
  | .getFreeThread => some s.getFreeThread.1
  | .releaseThread t state => if t < s.ids.length then some (s.releaseThread t state) else none
  | .removeThread t => if t < s.ids.length then some (s.removeThread t) else none

/-- The thread is in the map. -/
def InPool (s : CXThreadPool) (t : Nat) : Prop := (s.threadId t, t) ∈ s.mapThreadPool

instance (s : CXThreadPool) (t : Nat) : Decidable (s.InPool t) := inferInstanceAs (Decidable (_ ∈ _))

/-- The free list and the counters agree with the map. -/
structure Books (s : CXThreadPool) : Prop where
  nodup : s.lstFreePool.Nodup
  inPool : ∀ t ∈ s.lstFreePool, s.InPool t
  free : s.dwFreeThreadsNum = s.lstFreePool.length
  total : s.dwFreeThreadsNum + s.dwUsingThreadsNum = s.mapThreadPool.length

/-- `RemoveThread(t)` takes `t` out of both containers and deletes it, and nothing else; where `t` is not in the
pool it does nothing. -/
structure Removed (s : CXThreadPool) (t : Nat) (s' : CXThreadPool) : Prop where
  free : s'.lstFreePool = s.lstFreePool.filter fun u => u ≠ t
  map : s'.mapThreadPool = s.mapThreadPool.filter fun e => e.2 ≠ t
  deleted : s'.deleted = s.deleted ++ if s.InPool t then [t] else []
  derefEnd : s'.derefEnd = s.derefEnd

/-- The books are right after the step, and `RemoveThread` has removed its thread. -/
def Good (s : CXThreadPool) (a : Act) : Prop :=
  ∀ s', s.step a = some s' → Books s' ∧ ∀ t, a = .removeThread t → Removed s t s'

/-- No thread is released that `Destroy` took out of the pool, and no thread of the pool is removed. -/
def StepOk (s : CXThreadPool) : Act → Prop
  | .releaseThread t state => state = .free → s.InPool t
  | .removeThread t => ¬ s.InPool t
  | .createPool .. | .addPoolSize .. | .destroy | .getFreeThread => True

/-- The map is about threads that were created, and the ids are distinct. -/
structure Inv (s : CXThreadPool) : Prop extends Books s where
  entry : ∀ e ∈ s.mapThreadPool, s.ids[e.2]? = some e.1
  ids_nodup : s.ids.Nodup

theorem inv_construct : Inv construct :=
  ⟨⟨List.nodup_nil, nofun, rfl, rfl⟩, nofun, List.nodup_nil⟩

variable {s s' : CXThreadPool} {t id : Nat}

/-! ### The map -/

theorem mapInsert_perm : ∀ {m : List (Nat × Nat)}, (∀ e ∈ m, e.1 ≠ id) → (mapInsert id t m).Perm ((id, t) :: m)
  | [], _ => .refl _
  | e :: m, h => by
    unfold mapInsert
    have hne : id ≠ e.1 := (h e (List.mem_cons_self ..)).symm
    rw [if_neg hne]
    split
    · exact .refl _
    · exact ((mapInsert_perm fun e' he => h e' (List.mem_cons_of_mem _ he)).cons e).trans (.swap ..)

namespace Inv

theorem id_eq (h : Inv s) {e : Nat × Nat} (he : e ∈ s.mapThreadPool) : e.1 = s.threadId e.2 := by
  rw [threadId, List.getD_eq_getElem?_getD, h.entry e he]
  rfl

theorem lt (h : Inv s) {e : Nat × Nat} (he : e ∈ s.mapThreadPool) : e.2 < s.ids.length :=
  (List.getElem?_eq_some_iff.mp (h.entry e he)).1

theorem thread_eq (h : Inv s) (ht : t < s.ids.length) {e : Nat × Nat} (he : e ∈ s.mapThreadPool)
    (hid : e.1 = s.threadId t) : e = (s.threadId t, t) := by
  have htid : s.ids[t]? = some (s.threadId t) := by
    rw [threadId, List.getD_eq_getElem?_getD, List.getElem?_eq_getElem ht]
    rfl
  have heq : s.ids[e.2]? = s.ids[t]? := by rw [htid, h.entry e he, hid]
  have : e.2 = t := (List.getElem?_inj (h.lt he) h.ids_nodup).mp heq
  exact Prod.ext hid this

theorem addThread (h : Inv s) (hid : id ∉ s.ids) : Inv (s.addThread id) := by
  have hfresh : ∀ e ∈ s.mapThreadPool, e.1 ≠ id := fun e he hc =>
    hid (hc ▸ List.mem_of_getElem? (h.entry e he))
  have hperm := mapInsert_perm (t := s.ids.length) hfresh
  have hold {u : Nat} (hu : u < s.ids.length) : (s.addThread id).threadId u = s.threadId u := by
    simp only [threadId, CXThreadPool.addThread, List.getD_eq_getElem?_getD, List.getElem?_append_left hu]
  have hnew : (s.addThread id).threadId s.ids.length = id := by
    simp [threadId, CXThreadPool.addThread, List.getD_eq_getElem?_getD]
  have hlt : ∀ u ∈ s.lstFreePool, u < s.ids.length := fun u hu => h.lt (h.inPool u hu)
  refine ⟨⟨?_, fun u hu => ?_, ?_, ?_⟩, fun e he => ?_, ?_⟩
  · exact h.nodup.append (List.nodup_singleton _) (List.disjoint_singleton.mpr fun hm => absurd (hlt _ hm) (by omega))
  · refine hperm.mem_iff.mpr ?_
    rcases List.mem_append.mp hu with hu | hu
    · rw [hold (hlt u hu)]
      exact List.mem_cons_of_mem _ (h.inPool u hu)
    · rw [List.mem_singleton.mp hu, hnew]
      exact List.mem_cons_self ..
  · simp [CXThreadPool.addThread, h.free]
  · show s.dwFreeThreadsNum + 1 + s.dwUsingThreadsNum = ((mapInsert id s.ids.length s.mapThreadPool).length : Int)
    have htotal := h.total
    rw [hperm.length_eq, List.length_cons]
    omega
  · rcases List.mem_cons.mp (hperm.mem_iff.mp he) with rfl | he
    · exact List.getElem?_concat_length
    · show (s.ids ++ [id])[e.2]? = some e.1
      rw [List.getElem?_append_left (h.lt he)]
      exact h.entry e he
  · exact h.ids_nodup.append (List.nodup_singleton _) (List.disjoint_singleton.mpr hid)

end Inv

/-! ### The operations -/

section Create

variable {add : Nat → CXThreadPool → CXThreadPool} {create : Nat → Option Nat}
  (hids : ∀ id s, (add id s).ids = s.ids ++ [id])

include hids in
theorem ids_createThreads : ∀ (i k : Nat) (s : CXThreadPool), s.ids <+: (createThreads add create i k s).1.ids
  | _, 0, _ => List.prefix_rfl
  | i, k + 1, s => by
    unfold createThreads
    cases create i with
    | none => exact List.prefix_rfl
    | some id =>
      refine List.IsPrefix.trans ?_ (ids_createThreads (i + 1) k (add id s))
      rw [hids]
      exact List.prefix_append ..

include hids in
theorem Inv.createThreads (create : Nat → Option Nat) (hadd : ∀ id s, Inv s → id ∉ s.ids → Inv (add id s)) :
    ∀ (i k : Nat) (s : CXThreadPool), Inv s → (createThreads add create i k s).1.ids.Nodup →
      Inv (createThreads add create i k s).1
  | _, 0, _, h, _ => h
  | i, k + 1, s, h, hnd => by
    unfold CXThreadPool.createThreads at hnd ⊢
    cases hc : create i with
    | none => exact h
    | some id =>
      simp only [hc] at hnd
      refine Inv.createThreads create hadd (i + 1) k (add id s) (hadd id s h fun hm => ?_) hnd
      have hpre : (add id s).ids.Nodup := (ids_createThreads hids (i + 1) k (add id s)).sublist.nodup hnd
      rw [hids] at hpre
      exact (List.nodup_append.mp hpre).2.2 id hm id (List.mem_singleton_self id) rfl

end Create

namespace Inv

theorem destroy (h : Inv s) : Inv s.destroy := ⟨⟨List.nodup_nil, nofun, rfl, rfl⟩, nofun, h.ids_nodup⟩

theorem createPool (h : Inv s) {dwThreadNum : Nat} {create : Nat → Option Nat}
    (hnd : (s.createPool dwThreadNum create).1.ids.Nodup) : Inv (s.createPool dwThreadNum create).1 := by
  unfold CXThreadPool.createPool at hnd ⊢
  split
  · exact h
  split
  · exact h
  rename_i hmax hcreated
  rw [if_neg hmax, if_neg hcreated] at hnd
  have hloop := Inv.createThreads (fun _ _ => rfl) create (fun _ _ h hid => h.addThread hid) 0 dwThreadNum s h
  rcases hr : CXThreadPool.createThreads CXThreadPool.addThread create 0 dwThreadNum s with ⟨s₁, _ | _⟩
  · rw [hr] at hloop hnd
    exact (hloop hnd).destroy
  · rw [hr] at hloop hnd
    exact ⟨⟨(hloop hnd).nodup, (hloop hnd).inPool, (hloop hnd).free, (hloop hnd).total⟩, (hloop hnd).entry, hnd⟩

theorem addPoolSize (h : Inv s) {dwAddNumber : Nat} {create : Nat → Option Nat}
    (hnd : (s.addPoolSize dwAddNumber create).1.ids.Nodup) : Inv (s.addPoolSize dwAddNumber create).1 := by
  unfold CXThreadPool.addPoolSize at hnd ⊢
  split
  · exact h
  rename_i h0
  rw [if_neg h0] at hnd
  refine Inv.createThreads (fun _ _ => rfl) create (fun id s h hid => ?_) 0 dwAddNumber s h hnd
  have ha := h.addThread hid
  exact ⟨⟨ha.nodup, ha.inPool, ha.free, ha.total⟩, ha.entry, ha.ids_nodup⟩

theorem getFreeThread (h : Inv s) : Inv s.getFreeThread.1 := by
  unfold CXThreadPool.getFreeThread
  cases hl : s.lstFreePool with
  | nil => exact h
  | cons t rest =>
    have hnd := h.nodup
    have hin := h.inPool
    have hfree := h.free
    have htotal := h.total
    rw [hl] at hnd hin hfree
    rw [List.length_cons] at hfree
    refine ⟨⟨(List.nodup_cons.mp hnd).2, fun u hu => hin u (List.mem_cons_of_mem _ hu), ?_, ?_⟩, h.entry, h.ids_nodup⟩
    · show s.dwFreeThreadsNum - 1 = rest.length
      omega
    · show s.dwFreeThreadsNum - 1 + (s.dwUsingThreadsNum + 1) = s.mapThreadPool.length
      omega

theorem releaseThread (h : Inv s) {state : ThreadState} (hin : state = .free → s.InPool t) :
    Inv (s.releaseThread t state) := by
  unfold CXThreadPool.releaseThread
  split
  · exact h
  split
  · exact h
  rename_i hstate hnot
  have hfree := h.free
  have htotal := h.total
  refine ⟨⟨?_, fun u hu => ?_, ?_, ?_⟩, h.entry, h.ids_nodup⟩
  · exact h.nodup.append (List.nodup_singleton _) (List.disjoint_singleton.mpr hnot)
  · rcases List.mem_append.mp hu with hu | hu
    · exact h.inPool u hu
    · rw [List.mem_singleton.mp hu]
      exact hin (not_not.mp hstate)
  · show s.dwFreeThreadsNum + 1 = ((s.lstFreePool ++ [t]).length : Int)
    rw [List.length_append, List.length_singleton]
    omega
  · show s.dwFreeThreadsNum + 1 + (s.dwUsingThreadsNum - 1) = s.mapThreadPool.length
    omega

/-- A thread that is not in the pool, and is released as a free one, is on the free list without being in the
map. -/
theorem not_books_releaseThread (h : Inv s) (hin : ¬ s.InPool t) : ¬ Books (s.releaseThread t .free) := by
  have hnot : t ∉ s.lstFreePool := fun hm => hin (h.inPool t hm)
  intro hb
  unfold CXThreadPool.releaseThread at hb
  rw [if_neg (not_not.mpr rfl), if_neg hnot] at hb
  exact hin (hb.inPool t (List.mem_append_right _ (List.mem_singleton_self t)))

theorem find?_none (h : Inv s) (ht : t < s.ids.length) (hin : ¬ s.InPool t) :
    s.mapThreadPool.find? (fun e => e.1 = s.threadId t) = none := by
  refine List.find?_eq_none.mpr fun e he hc => hin ?_
  have heq := h.thread_eq ht he (of_decide_eq_true hc)
  rwa [heq] at he

theorem removeThread (h : Inv s) (ht : t < s.ids.length) (hin : ¬ s.InPool t) :
    s.removeThread t = s ∧ Removed s t s := by
  have hnot : t ∉ s.lstFreePool := fun hm => hin (h.inPool t hm)
  constructor
  · unfold CXThreadPool.removeThread
    rw [List.erase_of_not_mem hnot]
    have hfind : s.mapThreadPool.find? (fun e => e.1 = s.threadId t) = none := h.find?_none ht hin
    simp only [hfind]
  · refine ⟨?_, ?_, by simp [hin], rfl⟩
    · refine (List.filter_eq_self.mpr fun u hu => ?_).symm
      exact decide_eq_true fun hc => hnot (hc ▸ hu)
    · refine (List.filter_eq_self.mpr fun e he => ?_).symm
      refine decide_eq_true fun hc => hin ?_
      have heq := h.id_eq he
      rw [hc] at heq
      have hpair : e = (s.threadId t, t) := Prod.ext heq hc
      rwa [hpair] at he

/-- Removing a thread of the pool deletes another thread, or dereferences the end of the map. -/
theorem not_removed (h : Inv s) (hin : s.InPool t) : ¬ Removed s t (s.removeThread t) := by
  have hfind : ∃ e, s.mapThreadPool.find? (fun e => e.1 = s.threadId t) = some e :=
    Option.isSome_iff_exists.mp (List.find?_isSome.mpr ⟨_, hin, decide_eq_true rfl⟩)
  obtain ⟨e, he⟩ := hfind
  intro hr
  have hdel := hr.deleted
  have hend := hr.derefEnd
  rw [if_pos hin] at hdel
  have hrun : s.removeThread t = eraseEntry (s.threadId t) { s with lstFreePool := s.lstFreePool.erase t } := by
    unfold CXThreadPool.removeThread
    have : ({ s with lstFreePool := s.lstFreePool.erase t } : CXThreadPool).threadId t = s.threadId t := rfl
    simp only [this, he]
  rw [hrun] at hdel
  unfold eraseEntry at hdel
  dsimp only at hdel
  split at hdel
  · rename_i e' he'
    have hlast : e'.2 = t := List.singleton_inj.mp (List.append_cancel_left hdel)
    have hid := h.id_eq (List.mem_of_find?_eq_some he')
    have hgt : s.threadId t < e'.1 := by simpa using List.find?_some he'
    rw [hid, hlast] at hgt
    exact lt_irrefl _ hgt
  · have := congrArg List.length hdel
    simp at this

/-- One step: the books stay right exactly if it meets the condition. -/
theorem good_iff {a : Act} (h : Inv s) (hs : s.step a = some s') : Good s a ↔ StepOk s a := by
  have hgood : Good s a ↔ Books s' ∧ ∀ t, a = .removeThread t → Removed s t s' :=
    ⟨fun hg => hg s' hs, fun hg u hu => Option.some.inj (hs.symm.trans hu) ▸ hg⟩
  have hkept (hb : Books s') (ha : ∀ t, a ≠ .removeThread t) : Good s a :=
    hgood.mpr ⟨hb, fun t hc => absurd hc (ha t)⟩
  cases a with
  | createPool dwThreadNum create =>
    obtain ⟨hnd, rfl⟩ : _ ∧ _ = s' := by simpa [step, withDistinctIds] using hs
    exact ⟨fun _ => trivial, fun _ => hkept (h.createPool hnd).toBooks nofun⟩
  | addPoolSize dwAddNumber create =>
    obtain ⟨hnd, rfl⟩ : _ ∧ _ = s' := by simpa [step, withDistinctIds] using hs
    exact ⟨fun _ => trivial, fun _ => hkept (h.addPoolSize hnd).toBooks nofun⟩
  | destroy =>
    cases hs
    exact ⟨fun _ => trivial, fun _ => hkept h.destroy.toBooks nofun⟩
  | getFreeThread =>
    cases hs
    exact ⟨fun _ => trivial, fun _ => hkept h.getFreeThread.toBooks nofun⟩
  | releaseThread t state =>
    obtain ⟨-, rfl⟩ : t < s.ids.length ∧ _ = s' := by simpa [step] using hs
    refine ⟨fun hg hfree => ?_, fun hok => hkept (h.releaseThread hok).toBooks nofun⟩
    subst hfree
    exact not_not.mp fun hin => h.not_books_releaseThread hin (hgood.mp hg).1
  | removeThread t =>
    obtain ⟨ht, rfl⟩ : t < s.ids.length ∧ _ = s' := by simpa [step] using hs
    constructor
    · intro hg hin
      exact h.not_removed hin ((hgood.mp hg).2 t rfl)
    · intro hok
      obtain ⟨heq, hr⟩ := h.removeThread ht hok
      rw [hgood, heq]
      refine ⟨h.toBooks, fun u hu => ?_⟩
      cases hu
      exact hr

theorem step {a : Act} (h : Inv s) (hok : StepOk s a) (hs : s.step a = some s') : Inv s' := by
  cases a with
  | createPool dwThreadNum create =>
    obtain ⟨hnd, rfl⟩ : _ ∧ _ = s' := by simpa [CXThreadPool.step, withDistinctIds] using hs
    exact h.createPool hnd
  | addPoolSize dwAddNumber create =>
    obtain ⟨hnd, rfl⟩ : _ ∧ _ = s' := by simpa [CXThreadPool.step, withDistinctIds] using hs
    exact h.addPoolSize hnd
  | destroy =>
    cases hs
    exact h.destroy
  | getFreeThread =>
    cases hs
    exact h.getFreeThread
  | releaseThread t state =>
    obtain ⟨-, rfl⟩ : t < s.ids.length ∧ _ = s' := by simpa [CXThreadPool.step] using hs
    exact h.releaseThread hok
  | removeThread t =>
    obtain ⟨ht, rfl⟩ : t < s.ids.length ∧ _ = s' := by simpa [CXThreadPool.step] using hs
    rw [(h.removeThread ht hok).1]
    exact h

end Inv

/-- For every run: the books are right after each step, and each `RemoveThread` has removed its thread, exactly if
each step meets the condition. -/
theorem books_iff {acts : List Act} (hs : runSteps step construct acts = some s) :
    EachStep step Good construct acts ↔ EachStep step StepOk construct acts :=
  eachStep_iff (fun _ _ _ h hs => h.good_iff hs) (fun _ _ _ h hok hs => h.step hok hs) inv_construct hs

/-- Two threads and a third, one of them used and released, until the pool is destroyed. -/
theorem books_three : EachStep step Good construct
    [.createPool 2 (fun i => some (70 - i)), .getFreeThread, .addPoolSize 1 (fun _ => some 90),
      .releaseThread 0 .free, .getFreeThread, .destroy] := by
  obtain ⟨s, hs⟩ := Option.isSome_iff_exists.mp (show (runSteps step construct
    [.createPool 2 (fun i => some (70 - i)), .getFreeThread, .addPoolSize 1 (fun _ => some 90),
      .releaseThread 0 .free, .getFreeThread, .destroy]).isSome by decide)
  refine (books_iff hs).mpr ⟨trivial, fun _ h => ?_⟩
  cases h
  refine ⟨trivial, fun _ h => ?_⟩
  cases h
  refine ⟨trivial, fun _ h => ?_⟩
  cases h
  refine ⟨fun _ => by decide, fun _ h => ?_⟩
  cases h
  exact ⟨trivial, fun _ h => ⟨trivial, fun _ _ => trivial⟩⟩

/-- Removing the first of two threads deletes the second, and the pool still counts two free threads. -/
theorem not_books_remove : ∃ s s', runSteps step construct [.createPool 2 (fun i => some (70 + i))] = some s ∧
    s.step (.removeThread 0) = some s' ∧ s'.deleted = [1] ∧ ¬ Removed s 0 s' ∧ ¬ Books s' := by
  refine ⟨_, _, rfl, rfl, rfl, fun hr => ?_, fun hb => ?_⟩
  · exact absurd hr.deleted (by decide)
  · exact absurd hb.free (by decide)

end CXThreadPool

end KonsanNet
