import KonsanNet.Run
import Mathlib.Tactic

/-!
# The free task objects of the pool (`CXTaskPool::GetFreeTaskObject`, `FreeTaskObject`)

The pool keeps a list of free objects for each task type that had one. `GetFreeTaskObject` takes the first object
of the list, or lets the registered object of the type create one. `FreeTaskObject` has the branch of
`GetFreeTaskObject` where it should append: only a type without a list gets its object back, as the list of it
alone. Where there is a list, the object is lost, and so is the first of the list (`conserved_iff`).

An object is named by its place in `created`, which holds the types of the objects in the order of their creation;
`inUse` records the objects that were obtained and not freed since.
-/

namespace KonsanNet

structure TaskObjects where
  mapRegisteredTaskClass : Int → Bool
  mapFreeTaskObj : Int → Option (List Nat)
  created : List Int
  inUse : List Nat

namespace TaskObjects

/-- A pool without a registered class. -/
def empty : TaskObjects := ⟨fun _ => false, fun _ => none, [], []⟩

def registerTaskClass (type : Int) (s : TaskObjects) : TaskObjects :=
  { s with mapRegisteredTaskClass := Function.update s.mapRegisteredTaskClass type true }

/-- `CreateObject` of the registered object of the type; `none` is `NULL`. -/
def createObject (type : Int) (newOk : Bool) (s : TaskObjects) : TaskObjects × Option Nat :=
  if s.mapRegisteredTaskClass type && newOk then
    ({ s with created := s.created ++ [type] }, some s.created.length)
  else (s, none)

def getFreeTaskObject (type : Int) (newOk : Bool) (s : TaskObjects) : TaskObjects × Option Nat :=
  match s.mapFreeTaskObj type with
  | some (pTask :: rest) =>
    ({ s with mapFreeTaskObj := Function.update s.mapFreeTaskObj type (some rest) }, some pTask)
  | some [] => s.createObject type newOk
  | none => s.createObject type newOk

/-- `pTask->GetTaskType()` -/
def taskType (s : TaskObjects) (pTask : Nat) : Int := s.created.getD pTask 0

def freeTaskObject (pTask : Nat) (s : TaskObjects) : TaskObjects :=
  match s.mapFreeTaskObj (s.taskType pTask) with
  | some (_ :: rest) =>
    -- `pTask = it->second.front(); it->second.pop_front();`
    { s with mapFreeTaskObj := Function.update s.mapFreeTaskObj (s.taskType pTask) (some rest) }
  | some [] => s
  | none => { s with mapFreeTaskObj := Function.update s.mapFreeTaskObj (s.taskType pTask) (some [pTask]) }

inductive Act
  | register (type : Int)
  | get (type : Int) (newOk : Bool)
  | free (pTask : Nat)

/-- Only a task that was obtained is freed, and once for each time. -/
def step (s : TaskObjects) : Act → Option TaskObjects
  | .register type => some (s.registerTaskClass type)
  | .get type newOk =>
    let r := s.getFreeTaskObject type newOk
    some { r.1 with inUse := s.inUse ++ r.2.toList }
  | .free pTask =>
    if pTask ∈ s.inUse then some { s.freeTaskObject pTask with inUse := s.inUse.erase pTask } else none

/-- The free list of a type, empty where there is none. -/
def freeList (s : TaskObjects) (type : Int) : List Nat := (s.mapFreeTaskObj type).getD []

/-- Every object that was created is in use or on the free list of its type, once. -/
def Conserved (s : TaskObjects) : Prop :=
  ∀ pTask type, s.created[pTask]? = some type → s.inUse.count pTask + (s.freeList type).count pTask = 1

/-- What the operations should do to the free lists: `FreeTaskObject` adds its task to the list of its type, and
`GetFreeTaskObject` creates an object only if the list is empty. -/
def ListsOk (s : TaskObjects) : Act → TaskObjects → Prop
  | .register _, s' => s'.freeList = s.freeList
  | .get type _, s' => s'.created ≠ s.created → s.freeList type = []
  | .free pTask, s' => (s'.freeList (s.taskType pTask)).Perm (pTask :: s.freeList (s.taskType pTask)) ∧
      ∀ type, type ≠ s.taskType pTask → s'.freeList type = s.freeList type

/-- A step keeps the objects and does to the lists what it should. -/
def Good (s : TaskObjects) (a : Act) : Prop := ∀ s', s.step a = some s' → Conserved s' ∧ ListsOk s a s'

/-- A task is freed only while its type has no list: no object of the type was freed before. -/
def StepOk (s : TaskObjects) : Act → Prop
  | .free pTask => s.mapFreeTaskObj (s.taskType pTask) = none
  | .register _ | .get _ _ => True

/-- The records are about objects that were created, and the lists about objects of their type. -/
structure Inv (s : TaskObjects) : Prop where
  conserved : Conserved s
  inUse_lt : ∀ pTask ∈ s.inUse, pTask < s.created.length
  typed : ∀ type, ∀ pTask ∈ s.freeList type, s.created[pTask]? = some type

theorem inv_empty : Inv empty where
  conserved _ _ h := by cases h
  inUse_lt _ h := by cases h
  typed _ _ h := by cases h

variable {s s' : TaskObjects} {pTask : Nat} {type : Int}

theorem freeList_update (type : Int) (l : List Nat) :
    freeList { s with mapFreeTaskObj := Function.update s.mapFreeTaskObj type (some l) } =
      Function.update s.freeList type l := by
  funext y
  unfold freeList
  by_cases h : y = type
  · subst h
    simp
  · simp [h]

/-- Appending the first object of a list to the objects in use, its list keeping the rest. -/
theorem Inv.take {rest : List Nat} (h : Inv s) (hl : s.mapFreeTaskObj type = some (pTask :: rest)) :
    Inv { s with
      mapFreeTaskObj := Function.update s.mapFreeTaskObj type (some rest), inUse := s.inUse ++ [pTask] } := by
  have hlist : s.freeList type = pTask :: rest := by rw [freeList, hl]; rfl
  have htyped := h.typed type
  rw [hlist] at htyped
  have hpTask := htyped pTask (List.mem_cons_self ..)
  constructor
  · intro p y hp
    have hone := h.conserved p y hp
    change (s.inUse ++ [pTask]).count p + List.count p (freeList { s with
      mapFreeTaskObj := Function.update s.mapFreeTaskObj type (some rest) } y) = 1
    rw [freeList_update, List.count_append]
    by_cases hy : y = type
    · subst hy
      rw [hlist, List.count_cons] at hone
      rw [Function.update_self, List.count_singleton]
      omega
    · have hne : p ≠ pTask := fun hc => hy (Option.some.inj ((hc ▸ hp).symm.trans hpTask))
      rw [Function.update_of_ne hy, List.count_singleton]
      simpa [Ne.symm hne] using hone
  · intro p hp
    rcases List.mem_append.mp hp with hp | hp
    · exact h.inUse_lt p hp
    · rw [List.mem_singleton.mp hp]
      exact (List.getElem?_eq_some_iff.mp hpTask).1
  · intro y p hp
    change p ∈ freeList { s with mapFreeTaskObj := Function.update s.mapFreeTaskObj type (some rest) } y at hp
    rw [freeList_update] at hp
    by_cases hy : y = type
    · subst hy
      rw [Function.update_self] at hp
      exact htyped p (List.mem_cons_of_mem _ hp)
    · rw [Function.update_of_ne hy] at hp
      exact h.typed y p hp

theorem Inv.create (h : Inv s) (type : Int) :
    Inv { s with created := s.created ++ [type], inUse := s.inUse ++ [s.created.length] } := by
  have hold {p : Nat} {y : Int} (hp : s.created[p]? = some y) : (s.created ++ [type])[p]? = some y := by
    rw [List.getElem?_append_left (List.getElem?_eq_some_iff.mp hp).1, hp]
  constructor
  · intro p y hp
    change (s.inUse ++ [s.created.length]).count p + (s.freeList y).count p = 1
    rw [List.count_append, List.count_singleton]
    rcases Nat.lt_or_ge p s.created.length with hlt | hge
    · rw [List.getElem?_append_left hlt] at hp
      have hone := h.conserved p y hp
      simpa [Nat.ne_of_gt hlt] using hone
    · obtain ⟨hlt, -⟩ := List.getElem?_eq_some_iff.mp hp
      rw [List.length_append, List.length_singleton] at hlt
      have hnew : p = s.created.length := by omega
      have huse : s.inUse.count p = 0 :=
        List.count_eq_zero.mpr fun hm => absurd (h.inUse_lt p hm) (by omega)
      have hfree : (s.freeList y).count p = 0 := List.count_eq_zero.mpr fun hm =>
        absurd (List.getElem?_eq_some_iff.mp (h.typed y p hm)).1 (by omega)
      rw [huse, hfree]
      simp [hnew]
  · intro p hp
    change p < (s.created ++ [type]).length
    rw [List.length_append]
    rcases List.mem_append.mp hp with hp | hp
    · exact Nat.lt_add_right _ (h.inUse_lt p hp)
    · rw [List.mem_singleton.mp hp]
      exact Nat.lt_succ_self _
  · intro y p hp
    exact hold (h.typed y p hp)

/-- `GetFreeTaskObject` meets the law in every state. -/
theorem Inv.get (h : Inv s) {newOk : Bool} (hs : s.step (.get type newOk) = some s') :
    Inv s' ∧ ListsOk s (.get type newOk) s' := by
  cases hs
  have hcreate (hnil : s.freeList type = []) :
      Inv { (s.createObject type newOk).1 with inUse := s.inUse ++ (s.createObject type newOk).2.toList } ∧
        ((s.createObject type newOk).1.created ≠ s.created → s.freeList type = []) := by
    refine ⟨?_, fun _ => hnil⟩
    unfold createObject
    split
    · exact h.create type
    · rw [Option.toList_none, List.append_nil]
      exact h
  unfold ListsOk getFreeTaskObject
  rcases hl : s.mapFreeTaskObj type with _ | _ | ⟨t, rest⟩
  · exact hcreate (by rw [freeList, hl]; rfl)
  · exact hcreate (by rw [freeList, hl]; rfl)
  · exact ⟨h.take hl, fun hc => absurd rfl hc⟩

theorem Inv.register (h : Inv s) (type : Int) : Inv (s.registerTaskClass type) :=
  ⟨h.conserved, h.inUse_lt, h.typed⟩

theorem Inv.of_mem (h : Inv s) (hm : pTask ∈ s.inUse) :
    s.created[pTask]? = some (s.taskType pTask) ∧ s.inUse.count pTask = 1 ∧
      (s.freeList (s.taskType pTask)).count pTask = 0 := by
  have htype : s.created[pTask]? = some (s.taskType pTask) := by
    have hlt := h.inUse_lt pTask hm
    rw [taskType, List.getD_eq_getElem?_getD, List.getElem?_eq_getElem hlt]
    rfl
  have hone := h.conserved pTask _ htype
  have hpos := List.count_pos_iff.mpr hm
  exact ⟨htype, by omega, by omega⟩

theorem Inv.free (h : Inv s) (hm : pTask ∈ s.inUse) (hl : s.mapFreeTaskObj (s.taskType pTask) = none) :
    Inv { s with
        mapFreeTaskObj := Function.update s.mapFreeTaskObj (s.taskType pTask) (some [pTask])
        inUse := s.inUse.erase pTask } ∧
      ListsOk s (.free pTask) { s with
        mapFreeTaskObj := Function.update s.mapFreeTaskObj (s.taskType pTask) (some [pTask])
        inUse := s.inUse.erase pTask } := by
  obtain ⟨htype, hone, -⟩ := h.of_mem hm
  have hnil : s.freeList (s.taskType pTask) = [] := by rw [freeList, hl]; rfl
  have hlists := freeList_update (s := s) (s.taskType pTask) [pTask]
  refine ⟨⟨fun p y hp => ?_, fun p hp => h.inUse_lt p (List.mem_of_mem_erase hp), fun y p hp => ?_⟩, ?_, ?_⟩
  · change (s.inUse.erase pTask).count p + List.count p (freeList { s with
      mapFreeTaskObj := Function.update s.mapFreeTaskObj (s.taskType pTask) (some [pTask]) } y) = 1
    rw [hlists]
    by_cases hp' : p = pTask
    · subst hp'
      cases Option.some.inj (hp.symm.trans htype)
      rw [Function.update_self, List.count_erase_self, hone]
      simp
    · rw [List.count_erase_of_ne hp']
      have hold := h.conserved p y hp
      by_cases hy : y = s.taskType pTask
      · subst hy
        rw [hnil] at hold
        rw [Function.update_self, List.count_singleton]
        simpa [Ne.symm hp'] using hold
      · rwa [Function.update_of_ne hy]
  · change p ∈ freeList { s with
      mapFreeTaskObj := Function.update s.mapFreeTaskObj (s.taskType pTask) (some [pTask]) } y at hp
    rw [hlists] at hp
    by_cases hy : y = s.taskType pTask
    · subst hy
      rw [Function.update_self] at hp
      rw [List.mem_singleton.mp hp]
      exact htype
    · rw [Function.update_of_ne hy] at hp
      exact h.typed y p hp
  · show (freeList { s with
      mapFreeTaskObj := Function.update s.mapFreeTaskObj (s.taskType pTask) (some [pTask]) } _).Perm _
    rw [hlists, Function.update_self, hnil]
  · intro y hy
    show freeList { s with
      mapFreeTaskObj := Function.update s.mapFreeTaskObj (s.taskType pTask) (some [pTask]) } y = _
    rw [hlists, Function.update_of_ne hy]

/-- Freeing a task of a type that has a list loses the task. -/
theorem Inv.free_lost (h : Inv s) (hm : pTask ∈ s.inUse) (hl : s.mapFreeTaskObj (s.taskType pTask) ≠ none) :
    ¬ Conserved { s.freeTaskObject pTask with inUse := s.inUse.erase pTask } := by
  obtain ⟨htype, hone, hfree⟩ := h.of_mem hm
  obtain ⟨l, hl⟩ := Option.ne_none_iff_exists'.mp hl
  have hlist : s.freeList (s.taskType pTask) = l := by rw [freeList, hl]; rfl
  have hcount : ((s.freeTaskObject pTask).freeList (s.taskType pTask)).count pTask = 0 := by
    rw [hlist] at hfree
    cases l with
    | nil => simp [freeTaskObject, hl, hlist]
    | cons t rest =>
      simp only [freeTaskObject, hl, freeList_update, Function.update_self]
      exact Nat.le_zero.mp (hfree ▸ List.count_le_count_cons ..)
  have hcreated : (s.freeTaskObject pTask).created = s.created := by
    unfold freeTaskObject
    split <;> rfl
  intro hc
  have hsum : (s.inUse.erase pTask).count pTask +
      ((s.freeTaskObject pTask).freeList (s.taskType pTask)).count pTask = 1 :=
    hc pTask (s.taskType pTask) (hcreated ▸ htype)
  rw [hcount, List.count_erase_self, hone] at hsum
  omega

/-- One step: the law holds of it exactly if it frees no task of a type that has a list. -/
theorem Inv.good_iff {a : Act} (h : Inv s) (hs : s.step a = some s') : Good s a ↔ StepOk s a := by
  have hgood : Good s a ↔ Conserved s' ∧ ListsOk s a s' :=
    ⟨fun hg => hg s' hs, fun hg t ht => Option.some.inj (hs.symm.trans ht) ▸ hg⟩
  rw [hgood]
  cases a with
  | register type =>
    cases hs
    exact ⟨fun _ => trivial, fun _ => ⟨(h.register type).conserved, rfl⟩⟩
  | get type newOk =>
    obtain ⟨hinv, hlists⟩ := h.get hs
    exact ⟨fun _ => trivial, fun _ => ⟨hinv.conserved, hlists⟩⟩
  | free pTask =>
    obtain ⟨hm, hs⟩ : pTask ∈ s.inUse ∧ _ = s' := by simpa [step] using hs
    subst hs
    by_cases hl : s.mapFreeTaskObj (s.taskType pTask) = none
    · obtain ⟨hinv, hlists⟩ := h.free hm hl
      have hfree : s.freeTaskObject pTask = { s with
          mapFreeTaskObj := Function.update s.mapFreeTaskObj (s.taskType pTask) (some [pTask]) } := by
        simp only [freeTaskObject, hl]
      rw [hfree]
      exact ⟨fun _ => hl, fun _ => ⟨hinv.conserved, hlists⟩⟩
    · exact ⟨fun hc => absurd hc.1 (h.free_lost hm hl), fun hc => absurd hc hl⟩

theorem Inv.step {a : Act} (h : Inv s) (hok : StepOk s a) (hs : s.step a = some s') : Inv s' := by
  cases a with
  | register type =>
    cases hs
    exact h.register type
  | get type newOk => exact (h.get hs).1
  | free pTask =>
    obtain ⟨hm, hs⟩ : pTask ∈ s.inUse ∧ _ = s' := by simpa [TaskObjects.step] using hs
    subst hs
    have hl : s.mapFreeTaskObj (s.taskType pTask) = none := hok
    simpa only [freeTaskObject, hl] using (h.free hm hl).1

/-- For every run: the objects are conserved, and the lists are as they should be after each step, exactly if no
task is freed whose type has a list. -/
theorem conserved_iff {acts : List Act} (hs : runSteps step empty acts = some s) :
    EachStep step Good empty acts ↔ EachStep step StepOk empty acts :=
  eachStep_iff (fun _ _ _ h hs => h.good_iff hs) (fun _ _ _ h hok hs => h.step hok hs) inv_empty hs

/-- Each of two types gets one object back, and one of them is used again. -/
theorem conserved_two : EachStep step Good empty
    [.register 1, .register 4, .get 1 true, .get 4 true, .free 0, .get 1 true, .free 1] := by
  obtain ⟨s, hs⟩ := Option.isSome_iff_exists.mp (show (runSteps step empty
    [.register 1, .register 4, .get 1 true, .get 4 true, .free 0, .get 1 true, .free 1]).isSome by decide)
  refine (conserved_iff hs).mpr ⟨trivial, fun _ h => ?_⟩
  cases h
  refine ⟨trivial, fun _ h => ?_⟩
  cases h
  refine ⟨trivial, fun _ h => ?_⟩
  cases h
  refine ⟨trivial, fun _ h => ?_⟩
  cases h
  refine ⟨rfl, fun _ h => ?_⟩
  cases h
  refine ⟨trivial, fun _ h => ?_⟩
  cases h
  exact ⟨rfl, fun _ _ => trivial⟩

/-- A parse task that is used twice is on no list afterwards. -/
theorem not_conserved_again : ∃ s, runSteps step empty
    [.register 1, .get 1 true, .free 0, .get 1 true, .free 0] = some s ∧ ¬ Conserved s := by
  refine ⟨_, rfl, fun h => ?_⟩
  have hone := h 0 1 rfl
  exact absurd hone (by decide)

end TaskObjects

end KonsanNet
