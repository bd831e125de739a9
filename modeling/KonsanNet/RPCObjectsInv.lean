import Mathlib.Tactic
import KonsanNet.RPCObjects

/-!
# When the pool of RPC objects is consistent

While no object is freed and none loses its id, the objects in use are the ones that have been created, under
their ids (`RPCPool.Inv`), and the pool is consistent. `Destroy` ends with `Reset`, which clears the id by which
`FreeObject` looks for the object; and where it is found, the counters keep their values. So the first step that
destroys an object of a class that is not a unique instance leaves a pool that is not consistent
(`consistent_of_noneDestroyed`).
-/

namespace KonsanNet

namespace RPCPool

variable {cls : RPCClasses} {s s' : RPCPool} {o p : RPCObj} {guid : String}

/-! ### The pool while nothing is freed -/

structure Inv (cls : RPCClasses) (s : RPCPool) : Prop where
  mapFreeObjs : s.mapFreeObjs = ∅
  given : ∀ o, s.given o = false
  uiFreeObjects : s.uiFreeObjects = 0
  uiUsingObjects : s.uiUsingObjects = s.mapUsingObjs.entries.length
  length : s.mapUsingObjs.entries.length = s.created
  created_lt : s.created < 2 ^ 64
  keys : ∀ guid o, s.mapUsingObjs.lookup guid = some o →
    (s.objs o).strObjectGuid = guid ∧ guid ≠ "" ∧ guid ∈ s.guids ∧ ∃ n, o = .created n ∧ n < s.created
  inUse : ∀ n < s.created, s.mapUsingObjs.lookup (s.objs (.created n)).strObjectGuid = some (.created n)
  mapObjects : ∀ ses key o, (s.mapObjects ses).lookup key = some o → s.HandedOut cls o
  mapRPCObj : ∀ con key o, (s.mapRPCObj con).lookup key = some o → s.HandedOut cls o
  pObjectServer : ∀ con o, s.pObjectServer con = some o → s.HandedOut cls o
  pStorageObj : ∀ o p, (s.objs o).pStorageObj = some p → s.HandedOut cls p

theorem HandedOut.of_created_le (h : s.HandedOut cls o) (hle : s.created ≤ s'.created) : s'.HandedOut cls o := by
  cases o with
  | unique c => exact h
  | created n => exact lt_of_lt_of_le h hle

theorem inv_start : start.Inv cls where
  mapFreeObjs := rfl
  given _ := rfl
  uiFreeObjects := rfl
  uiUsingObjects := rfl
  length := rfl
  created_lt := Nat.two_pow_pos 64
  keys _ _ h := by cases h
  inUse _ h := absurd h (Nat.not_lt_zero _)
  mapObjects _ _ _ h := by cases h
  mapRPCObj _ _ _ h := by cases h
  pObjectServer _ _ h := by cases h
  pStorageObj o _ h := by cases o <;> cases h

namespace Inv

theorem consistent (h : s.Inv cls) : s.Consistent where
  freed o ho := absurd ho (by rw [h.given]; exact Bool.false_ne_true)
  free c l hl := by
    rw [h.mapFreeObjs] at hl
    cases hl
  keys guid o ho := (h.keys guid o ho).1
  uiUsingObjects := h.uiUsingObjects
  uiFreeObjects := by
    rw [h.mapFreeObjs, h.uiFreeObjects]
    rfl

/-- Of the object only the id counts, if it is in use, and its storage object. -/
theorem setObj (h : s.Inv cls) {v : CXRPCObjectServer}
    (hguid : ∀ n, o = .created n → v.strObjectGuid = (s.objs o).strObjectGuid)
    (hstorage : ∀ p, v.pStorageObj = some p → s.HandedOut cls p) : (s.setObj o v).Inv cls :=
  { h with
    keys := by
      intro guid o' ho'
      obtain ⟨hkey, hne, hmem, n, rfl, hn⟩ := h.keys guid o' ho'
      refine ⟨?_, hne, hmem, n, rfl, hn⟩
      show (Function.update s.objs o v (.created n)).strObjectGuid = guid
      by_cases heq : .created n = o
      · rw [heq, Function.update_self, hguid n heq.symm, ← heq, hkey]
      · rw [Function.update_of_ne heq, hkey]
    inUse := by
      intro n hn
      show s.mapUsingObjs.lookup (Function.update s.objs o v (.created n)).strObjectGuid = _
      by_cases heq : .created n = o
      · rw [heq, Function.update_self, hguid n heq.symm, ← heq, h.inUse n hn]
      · rw [Function.update_of_ne heq, h.inUse n hn]
    pStorageObj := by
      intro o' p hp
      change (Function.update s.objs o v o').pStorageObj = some p at hp
      by_cases heq : o' = o
      · rw [heq, Function.update_self] at hp
        exact hstorage p hp
      · rw [Function.update_of_ne heq] at hp
        exact h.pStorageObj o' p hp }

theorem addObject (h : s.Inv cls) (ho : s.HandedOut cls o) (ses : Nat) (key : String) :
    (addObject ses key o s).Inv cls :=
  { h with
    mapObjects := by
      intro ses' key' o' ho'
      change (Function.update s.mapObjects ses _ ses').lookup key' = some o' at ho'
      by_cases hses : ses' = ses
      · rw [hses, Function.update_self] at ho'
        by_cases hkey : key' = key
        · rw [hkey, AList.lookup_insert] at ho'
          cases ho'
          exact ho
        · rw [AList.lookup_insert_ne hkey] at ho'
          exact h.mapObjects ses key' o' ho'
      · rw [Function.update_of_ne hses] at ho'
        exact h.mapObjects ses' key' o' ho' }

end Inv

theorem lookup_of_lookup_erase {α : Type} {m : StrMap α} {key key' : String} {a : α}
    (h : (m.erase key).lookup key' = some a) : m.lookup key' = some a := by
  by_cases hkey : key' = key
  · rw [hkey, AList.lookup_erase] at h
    cases h
  · rwa [AList.lookup_erase_ne hkey] at h

namespace Inv

theorem removeObject (h : s.Inv cls) (ses : Nat) (key : String) : (removeObject ses key s).Inv cls :=
  { h with
    mapObjects := by
      intro ses' key' o' ho'
      change (Function.update s.mapObjects ses _ ses').lookup key' = some o' at ho'
      by_cases hses : ses' = ses
      · rw [hses, Function.update_self] at ho'
        exact h.mapObjects ses key' o' (lookup_of_lookup_erase ho')
      · rw [Function.update_of_ne hses] at ho'
        exact h.mapObjects ses' key' o' ho' }

theorem popRPCObj (h : s.Inv cls) (con : Nat) (key : String) : (popRPCObj con key s).1.Inv cls :=
  { h with
    mapRPCObj := by
      intro con' key' o' ho'
      change (Function.update s.mapRPCObj con _ con').lookup key' = some o' at ho'
      by_cases hcon : con' = con
      · rw [hcon, Function.update_self] at ho'
        exact h.mapRPCObj con key' o' (lookup_of_lookup_erase ho')
      · rw [Function.update_of_ne hcon] at ho'
        exact h.mapRPCObj con' key' o' ho' }

theorem unCreate (h : s.Inv cls) (o : RPCObj) : (unCreate o s).Inv cls := by
  unfold RPCPool.unCreate
  cases (s.objs o).pAttachedSession with
  | none => exact h
  | some ses => exact (h.removeObject ses _).setObj (fun _ _ => rfl) (h.pStorageObj o)

theorem reset (h : s.Inv cls) (ho : isUniqueInstance o = true ∨ cls.resets (s.objs o).strClassGuid = false) :
    (reset cls o s).Inv cls := by
  unfold RPCPool.reset
  rcases ho with ho | ho
  · by_cases hres : cls.resets (s.objs o).strClassGuid = true
    · rw [if_pos hres]
      refine h.setObj ?_ (h.pStorageObj o)
      rintro n rfl
      cases ho
    · rw [if_neg hres]
      exact h
  · rw [if_neg (by rw [ho]; exact Bool.false_ne_true)]
    exact h

end Inv

/-! ### What `Destroy` and `FreeObject` do to the pool -/

/-- From `s` to `s'` objects have been destroyed and freed; `o` may have lost its storage object. -/
structure Shrinks (o : RPCObj) (s s' : RPCPool) : Prop where
  mapUsingObjs : s'.mapUsingObjs.entries.Sublist s.mapUsingObjs.entries
  uiUsingObjects : s'.uiUsingObjects = s.uiUsingObjects
  given : ∀ x, s.given x = true → s'.given x = true
  strObjectGuid : ∀ x, (s'.objs x).strObjectGuid = (s.objs x).strObjectGuid ∨ (s'.objs x).strObjectGuid = ""
  strClassGuid : ∀ x, (s'.objs x).strClassGuid = (s.objs x).strClassGuid
  pStorageObj : ∀ x, (s'.objs x).pStorageObj = (s.objs x).pStorageObj ∨ x = o ∧ (s'.objs x).pStorageObj = none
  bObjectsPool : s'.bObjectsPool = s.bObjectsPool
  created : s'.created = s.created

namespace Shrinks

theorem refl : Shrinks o s s where
  mapUsingObjs := List.Sublist.refl _
  uiUsingObjects := rfl
  given _ h := h
  strObjectGuid _ := Or.inl rfl
  strClassGuid _ := rfl
  pStorageObj _ := Or.inl rfl
  bObjectsPool := rfl
  created := rfl

theorem trans {s₁ : RPCPool} (h : Shrinks o s s₁) (h' : Shrinks o s₁ s') : Shrinks o s s' where
  mapUsingObjs := h'.mapUsingObjs.trans h.mapUsingObjs
  uiUsingObjects := h'.uiUsingObjects.trans h.uiUsingObjects
  given x hx := h'.given x (h.given x hx)
  strObjectGuid x := by
    rcases h'.strObjectGuid x with h₁ | h₁
    · rcases h.strObjectGuid x with h₂ | h₂
      · exact Or.inl (h₁.trans h₂)
      · exact Or.inr (h₁.trans h₂)
    · exact Or.inr h₁
  strClassGuid x := (h'.strClassGuid x).trans (h.strClassGuid x)
  pStorageObj x := by
    rcases h'.pStorageObj x with h₁ | h₁
    · rcases h.pStorageObj x with h₂ | ⟨hx, h₂⟩
      · exact Or.inl (h₁.trans h₂)
      · exact Or.inr ⟨hx, h₁.trans h₂⟩
    · exact Or.inr h₁
  bObjectsPool := h'.bObjectsPool.trans h.bObjectsPool
  created := h'.created.trans h.created

theorem setObj {v : CXRPCObjectServer}
    (hguid : v.strObjectGuid = (s.objs p).strObjectGuid ∨ v.strObjectGuid = "")
    (hclass : v.strClassGuid = (s.objs p).strClassGuid)
    (hstorage : v.pStorageObj = (s.objs p).pStorageObj ∨ p = o ∧ v.pStorageObj = none) : Shrinks o s (s.setObj p v) :=
  { (refl : Shrinks o s s) with
    strObjectGuid := by
      intro x
      show (Function.update s.objs p v x).strObjectGuid = _ ∨ (Function.update s.objs p v x).strObjectGuid = _
      by_cases hx : x = p
      · rw [hx, Function.update_self]
        exact hguid
      · rw [Function.update_of_ne hx]
        exact Or.inl rfl
    strClassGuid := by
      intro x
      show (Function.update s.objs p v x).strClassGuid = _
      by_cases hx : x = p
      · rw [hx, Function.update_self, hclass]
      · rw [Function.update_of_ne hx]
    pStorageObj := by
      intro x
      show (Function.update s.objs p v x).pStorageObj = _ ∨ x = o ∧ (Function.update s.objs p v x).pStorageObj = _
      by_cases hx : x = p
      · rw [hx, Function.update_self]
        exact hstorage
      · rw [Function.update_of_ne hx]
        exact Or.inl rfl }

theorem removeObject (ses : Nat) (key : String) : Shrinks o s (removeObject ses key s) :=
  { (refl : Shrinks o s s) with }

theorem unCreate : Shrinks o s (unCreate p s) := by
  unfold RPCPool.unCreate
  cases (s.objs p).pAttachedSession with
  | none => exact refl
  | some ses => exact (removeObject ses _).trans (setObj (Or.inl rfl) rfl (Or.inl rfl))

theorem reset : Shrinks o s (reset cls p s) := by
  unfold RPCPool.reset
  by_cases hres : cls.resets (s.objs p).strClassGuid = true
  · rw [if_pos hres]
    exact setObj (Or.inr rfl) rfl (Or.inl rfl)
  · rw [if_neg hres]
    exact refl

theorem freeObject : Shrinks o s (freeObject p s) := by
  unfold RPCPool.freeObject
  by_cases hu : isUniqueInstance p = true
  · rw [if_pos hu]
    exact refl
  · rw [if_neg hu]
    have hgiven : ∀ x, s.given x = true → Function.update s.given p true x = true := by
      intro x hx
      by_cases hxp : x = p
      · rw [hxp, Function.update_self]
      · rw [Function.update_of_ne hxp, hx]
    cases hl : s.mapUsingObjs.lookup (s.objs p).strObjectGuid with
    | none =>
      simp only [hl]
      exact { (refl : Shrinks o s s) with given := hgiven }
    | some q =>
      simp only [hl]
      exact { (refl : Shrinks o s s) with given := hgiven, mapUsingObjs := List.kerase_sublist _ _ }

theorem destroyStorage : Shrinks o s (destroyStorage cls p s) :=
  unCreate.trans reset

theorem releaseStorage : Shrinks o s (releaseStorage cls o s) := by
  unfold RPCPool.releaseStorage
  cases (s.objs o).pStorageObj with
  | none => exact refl
  | some p => exact (destroyStorage.trans freeObject).trans (setObj (Or.inl rfl) rfl (Or.inr ⟨rfl, rfl⟩))

theorem destroy : Shrinks o s (destroy cls o s) :=
  (releaseStorage.trans unCreate).trans reset

theorem destroyEntry {ses : Nat} {e : Σ _ : String, RPCObj} : Shrinks e.2 s (destroyEntry cls ses s e) := by
  unfold RPCPool.destroyEntry
  refine trans ?_ (removeObject ses e.1)
  show Shrinks e.2 s (if (RPCPool.destroy cls e.2 s).bObjectsPool ses then _ else _)
  cases (RPCPool.destroy cls e.2 s).bObjectsPool ses with
  | true => exact destroy.trans freeObject
  | false => exact destroy

end Shrinks

/-! ### A step that destroys no object keeps the invariant -/

theorem freeObject_of_unique (hp : isUniqueInstance p = true) : freeObject p s = s := by
  rw [freeObject, if_pos hp]

theorem not_spoils {bFree : Bool} (h : ¬ s.Spoils cls bFree o) :
    (∀ p, (s.objs o).pStorageObj = some p → isUniqueInstance p = true) ∧
      (isUniqueInstance o = true ∨ bFree = false ∧ cls.resets (s.objs o).strClassGuid = false) := by
  unfold Spoils at h
  push Not at h
  obtain ⟨hstorage, ho⟩ := h
  refine ⟨fun p hp => by simpa using hstorage p hp, ?_⟩
  cases hu : isUniqueInstance o with
  | true => exact Or.inl rfl
  | false =>
    obtain ⟨hfree, hres⟩ := ho hu
    exact Or.inr ⟨by simpa using hfree, by simpa using hres⟩

namespace Inv

theorem destroyStorage (h : s.Inv cls) (hp : isUniqueInstance p = true) : (destroyStorage cls p s).Inv cls :=
  (h.unCreate p).reset (Or.inl hp)

theorem releaseStorage (h : s.Inv cls) (hp : ∀ p, (s.objs o).pStorageObj = some p → isUniqueInstance p = true) :
    (releaseStorage cls o s).Inv cls := by
  unfold RPCPool.releaseStorage
  cases hs : (s.objs o).pStorageObj with
  | none => exact h
  | some p =>
    show (RPCPool.setObj (freeObject p (RPCPool.destroyStorage cls p s)) o _).Inv cls
    rw [freeObject_of_unique (hp p hs)]
    exact (h.destroyStorage (hp p hs)).setObj (fun _ _ => rfl) fun _ hq => by cases hq

theorem destroy (h : s.Inv cls) {bFree : Bool} (ho : ¬ s.Spoils cls bFree o) : (destroy cls o s).Inv cls := by
  obtain ⟨hstorage, hreset⟩ := not_spoils ho
  refine ((h.releaseStorage hstorage).unCreate o).reset ?_
  rcases hreset with hu | ⟨_, hres⟩
  · exact Or.inl hu
  · refine Or.inr ?_
    rw [(Shrinks.releaseStorage.trans Shrinks.unCreate).strClassGuid o]
    exact hres

theorem destroyEntry (h : s.Inv cls) {ses : Nat} {e : Σ _ : String, RPCObj}
    (he : ¬ s.Spoils cls (s.bObjectsPool ses) e.2) : (destroyEntry cls ses s e).Inv cls := by
  have hd := h.destroy he
  have hpool : (RPCPool.destroy cls e.2 s).bObjectsPool = s.bObjectsPool := Shrinks.destroy.bObjectsPool
  unfold RPCPool.destroyEntry
  refine removeObject ?_ ses e.1
  show Inv cls (if (RPCPool.destroy cls e.2 s).bObjectsPool ses then _ else _)
  rw [hpool]
  rcases (not_spoils he).2 with hu | ⟨hfree, _⟩
  · rw [freeObject_of_unique hu, ite_self]
    exact hd
  · rw [hfree]
    exact hd

end Inv

theorem Spoils.of_shrinks {bFree : Bool} (h : Shrinks p s s') (hsp : s'.Spoils cls bFree o) :
    s.Spoils cls bFree o := by
  rcases hsp with ⟨q, hq, hu⟩ | ⟨hu, hor⟩
  · rcases h.pStorageObj o with h₁ | ⟨_, h₁⟩
    · exact Or.inl ⟨q, h₁.symm.trans hq, hu⟩
    · rw [h₁] at hq
      cases hq
  · rw [h.strClassGuid o] at hor
    exact Or.inr ⟨hu, hor⟩

theorem Spoils.of_shrinks_ne {bFree : Bool} (h : Shrinks p s s') (ho : o ≠ p) (hsp : s.Spoils cls bFree o) :
    s'.Spoils cls bFree o := by
  rcases hsp with ⟨q, hq, hu⟩ | ⟨hu, hor⟩
  · rcases h.pStorageObj o with h₁ | ⟨h₁, _⟩
    · exact Or.inl ⟨q, h₁.trans hq, hu⟩
    · exact absurd h₁ ho
  · rw [← h.strClassGuid o] at hor
    exact Or.inr ⟨hu, hor⟩

/-- The loop of `CXConnectionSession::Destroy` over entries none of which is spoilt. -/
theorem Inv.foldl_destroyEntry {ses : Nat} : ∀ {l : List (Σ _ : String, RPCObj)} {s : RPCPool}, s.Inv cls →
    (∀ e ∈ l, ¬ s.Spoils cls (s.bObjectsPool ses) e.2) → (l.foldl (RPCPool.destroyEntry cls ses) s).Inv cls
  | [], _, h, _ => h
  | e :: l, s, h, hl => by
    have hsh : Shrinks e.2 s (RPCPool.destroyEntry cls ses s e) := Shrinks.destroyEntry
    refine (h.destroyEntry (hl e List.mem_cons_self)).foldl_destroyEntry ?_
    intro e' he' hsp
    rw [hsh.bObjectsPool] at hsp
    exact hl e' (List.mem_cons_of_mem _ he') (hsp.of_shrinks hsh)

/-- A new object of the class `c`, in use under `guid`. -/
def newObject (c guid : String) (s : RPCPool) : RPCPool :=
  putInUse guid { s with
    created := s.created + 1
    objs := Function.update s.objs (.created s.created) (construct c) } (.created s.created)

theorem getFreeObject_cases (hfree : s.mapFreeObjs = ∅) (cls : RPCClasses) (c guid : String) (bNew : Bool) :
    getFreeObject cls c guid bNew s = (s, none) ∨
      cls.isUniqueInstance c = some true ∧ getFreeObject cls c guid bNew s = (s, some (.unique c)) ∨
      s.created + 1 < 2 ^ 64 ∧ getFreeObject cls c guid bNew s = (newObject c guid s, some (.created s.created)) := by
  unfold getFreeObject
  rw [hfree, AList.lookup_empty]
  rcases cls.isUniqueInstance c with _ | _ | _
  · exact Or.inl rfl
  · unfold createObject
    by_cases hnew : bNew = true ∧ s.created + 1 < 2 ^ 64
    · rw [if_pos hnew]
      exact Or.inr (Or.inr ⟨hnew.2, rfl⟩)
    · rw [if_neg hnew]
      exact Or.inl rfl
  · exact Or.inr (Or.inl ⟨rfl, rfl⟩)

theorem newObject_objs_self {c : String} :
    (newObject c guid s).objs (.created s.created) =
      { construct c with strObjectGuid := guid, bIsUsing := true } := by
  show Function.update (Function.update s.objs (.created s.created) (construct c)) _
    { (Function.update s.objs (.created s.created) (construct c)) (.created s.created) with
      strObjectGuid := guid, bIsUsing := true } (.created s.created) = _
  rw [Function.update_self, Function.update_self]

theorem newObject_objs_of_ne {c : String} (ho : o ≠ .created s.created) :
    (newObject c guid s).objs o = s.objs o := by
  show Function.update (Function.update s.objs (.created s.created) (construct c)) _ _ o = _
  rw [Function.update_of_ne ho, Function.update_of_ne ho]

namespace Inv

theorem newObject (h : s.Inv cls) {c : String} (hlt : s.created + 1 < 2 ^ 64) (hne : guid ≠ "")
    (hfresh : guid ∉ s.mapUsingObjs) (hmem : guid ∈ s.guids) : (newObject c guid s).Inv cls := by
  have hold : ∀ n < s.created, RPCObj.created n ≠ .created s.created := by
    rintro n hn ⟨⟩
    exact Nat.lt_irrefl _ hn
  have hle : ∀ o, s.HandedOut cls o → (RPCPool.newObject c guid s).HandedOut cls o :=
    fun o ho => ho.of_created_le (Nat.le_succ _)
  have hlen : (RPCPool.newObject c guid s).mapUsingObjs.entries.length = s.mapUsingObjs.entries.length + 1 := by
    show (s.mapUsingObjs.insert guid _).entries.length = _
    rw [AList.entries_insert_of_notMem hfresh]
    rfl
  refine ⟨h.mapFreeObjs, ?_, h.uiFreeObjects, ?_, ?_, hlt, ?_, ?_, fun ses key o ho => hle o (h.mapObjects ses key o ho),
    fun con key o ho => hle o (h.mapRPCObj con key o ho), fun con o ho => hle o (h.pObjectServer con o ho), ?_⟩
  · intro o
    show Function.update s.given _ false o = false
    by_cases ho : o = .created s.created
    · rw [ho, Function.update_self]
    · rw [Function.update_of_ne ho, h.given o]
  · rw [hlen]
    show (s.uiUsingObjects + 1) % 2 ^ 64 = _
    rw [h.uiUsingObjects, h.length, Nat.mod_eq_of_lt hlt]
  · rw [hlen, h.length]
    rfl
  · intro guid' o ho
    change (s.mapUsingObjs.insert guid _).lookup guid' = some o at ho
    by_cases hg : guid' = guid
    · rw [hg, AList.lookup_insert] at ho
      cases ho
      rw [hg]
      exact ⟨by rw [newObject_objs_self], hne, hmem, s.created, rfl, Nat.lt_succ_self _⟩
    · rw [AList.lookup_insert_ne hg] at ho
      obtain ⟨hkey, hne', hmem', n, rfl, hn⟩ := h.keys guid' o ho
      exact ⟨by rw [newObject_objs_of_ne (hold n hn), hkey], hne', hmem', n, rfl, Nat.lt_succ_of_lt hn⟩
  · intro n hn
    show (s.mapUsingObjs.insert guid _).lookup _ = _
    rcases Nat.lt_succ_iff_lt_or_eq.mp hn with hn | rfl
    · have hlook := h.inUse n hn
      rw [newObject_objs_of_ne (hold n hn), AList.lookup_insert_ne, hlook]
      intro hg
      rw [hg] at hlook
      exact hfresh (AList.lookup_isSome.mp (Option.isSome_of_mem hlook))
    · rw [newObject_objs_self, AList.lookup_insert]
  · intro o p hp
    by_cases ho : o = .created s.created
    · rw [ho, newObject_objs_self] at hp
      cases hp
    · rw [newObject_objs_of_ne ho] at hp
      exact hle p (h.pStorageObj o p hp)

/-- What `GetFreeObject` returns has been handed out; where it returns no object it has done nothing. -/
theorem getFreeObject (h : s.Inv cls) {c : String} {b : Bool} (hne : guid ≠ "")
    (hfresh : guid ∉ s.mapUsingObjs) (hmem : guid ∈ s.guids) {r : RPCPool × Option RPCObj}
    (hr : RPCPool.getFreeObject cls c guid b s = r) :
    r.1.Inv cls ∧ s.created ≤ r.1.created ∧ (∀ o, r.2 = some o → r.1.HandedOut cls o) ∧
      (r.2 = none → r.1 = s) := by
  subst hr
  rcases getFreeObject_cases h.mapFreeObjs cls c guid b with hr | ⟨hu, hr⟩ | ⟨hlt, hr⟩
  · rw [hr]
    exact ⟨h, le_rfl, fun o ho => (by cases ho), fun _ => rfl⟩
  · rw [hr]
    refine ⟨h, le_rfl, fun o ho => ?_, fun ho => by cases ho⟩
    cases ho
    exact hu
  · rw [hr]
    refine ⟨h.newObject hlt hne hfresh hmem, Nat.le_succ _, fun o ho => ?_, fun ho => by cases ho⟩
    cases ho
    exact Nat.lt_succ_self s.created

theorem createInSession (h : s.Inv cls) {pSession : Option Nat} {c : String} {bNew : Bool} (hne : guid ≠ "")
    (hfresh : guid ∉ s.mapUsingObjs) (hmem : guid ∈ s.guids) {r : RPCPool × Option RPCObj}
    (hr : RPCPool.createInSession cls pSession c guid bNew s = r) :
    r.1.Inv cls ∧ ∀ o, r.2 = some o → r.1.HandedOut cls o := by
  subst hr
  unfold RPCPool.createInSession
  rcases hg : RPCPool.getFreeObject cls c guid bNew s with ⟨s₁, _ | o⟩
  · obtain ⟨h₁, _, _, hs⟩ := h.getFreeObject hne hfresh hmem hg
    have hs : s₁ = s := hs rfl
    subst hs
    obtain ⟨h₂, _, ho, _⟩ := h.getFreeObject (c := unknownClass) (b := bNew) hne hfresh hmem rfl
    exact ⟨h₂, ho⟩
  · obtain ⟨h₁, _, ho, _⟩ := h.getFreeObject hne hfresh hmem hg
    cases pSession with
    | none => exact ⟨h₁, ho⟩
    | some ses =>
      by_cases hu : isUniqueInstance o = true
      · simp only [if_pos hu]
        exact ⟨h₁, ho⟩
      · simp only [if_neg hu]
        exact ⟨h₁.addObject (ho o rfl) ses _, fun o' ho' => ho o' ho'⟩

theorem findProxyObject (h : s.Inv cls) (con ses : Nat) (key req : String) {r : RPCPool × Option RPCObj}
    (hr : RPCPool.findProxyObject con ses key req s = r) :
    r.1.Inv cls ∧ r.1.mapUsingObjs = s.mapUsingObjs ∧ r.1.guids = s.guids ∧
      ∀ o, r.2 = some o → r.1.HandedOut cls o := by
  subst hr
  unfold RPCPool.findProxyObject
  have hpop := h.popRPCObj con req
  cases ho : (s.mapRPCObj con).lookup req with
  | none =>
    simp only [RPCPool.popRPCObj, ho]
    exact ⟨hpop, trivial, trivial, fun o ho => by cases ho⟩
  | some o =>
    simp only [RPCPool.popRPCObj, ho]
    have hout := h.mapRPCObj con req o ho
    refine ⟨?_, rfl, rfl, ?_⟩
    · exact ((hpop.removeObject ses _).addObject hout ses key).setObj (fun _ _ => rfl) (hpop.pStorageObj o)
    · rintro o' ⟨⟩
      exact hout

theorem lookupObject (h : s.Inv cls) {con : Nat} {pSession : Option Nat} {bProxy : Bool} {key req : String}
    {bNew : Bool} (hne : guid ≠ "") (hfresh : guid ∉ s.mapUsingObjs) (hmem : guid ∈ s.guids)
    {r : RPCPool × Option RPCObj} (hr : RPCPool.lookupObject cls con pSession bProxy key req guid bNew s = r) :
    r.1.Inv cls ∧ ∀ o, r.2 = some o → r.1.HandedOut cls o := by
  unfold RPCPool.lookupObject at hr
  by_cases hkey : key = ""
  · rw [if_pos hkey] at hr
    subst hr
    exact ⟨h, fun o ho => by cases ho⟩
  · rw [if_neg hkey] at hr
    cases hfind : (pSession.bind fun ses => (s.mapObjects ses).lookup key) with
    | some o =>
      rw [hfind] at hr
      subst hr
      obtain ⟨ses, _, hses⟩ := Option.bind_eq_some_iff.mp hfind
      refine ⟨h, ?_⟩
      rintro o' ⟨⟩
      exact h.mapObjects ses key o hses
    | none =>
      rw [hfind] at hr
      cases pSession with
      | none => exact h.createInSession hne hfresh hmem hr
      | some ses =>
        cases bProxy with
        | false => exact h.createInSession hne hfresh hmem hr
        | true =>
          simp only at hr
          rcases hp : RPCPool.findProxyObject con ses key req s with ⟨s₁, _ | o⟩
          · obtain ⟨h₁, hm, hg, _⟩ := h.findProxyObject con ses key req hp
            rw [hp] at hr
            exact h₁.createInSession hne (by rw [hm]; exact hfresh) (by rw [hg]; exact hmem) hr
          · obtain ⟨h₁, _, _, ho⟩ := h.findProxyObject con ses key req hp
            rw [hp] at hr
            subst hr
            exact ⟨h₁, ho⟩

theorem withGuid (h : s.Inv cls) (hs : s.withGuid guid = some s') :
    s'.Inv cls ∧ guid ≠ "" ∧ guid ∉ s'.mapUsingObjs ∧ guid ∈ s'.guids := by
  unfold RPCPool.withGuid at hs
  by_cases hg : guid ≠ "" ∧ guid ∉ s.guids
  · rw [if_pos hg] at hs
    cases hs
    refine ⟨{ h with keys := ?_ }, hg.1, ?_, List.mem_cons_self⟩
    · intro guid' o ho
      obtain ⟨hkey, hne, hmem, hn⟩ := h.keys guid' o ho
      exact ⟨hkey, hne, List.mem_cons_of_mem _ hmem, hn⟩
    · intro hmem
      obtain ⟨o, ho⟩ := Option.isSome_iff_exists.mp (AList.lookup_isSome.mpr hmem)
      exact hg.2 (h.keys guid o ho).2.2.1
  · rw [if_neg hg] at hs
    cases hs

theorem setObjectServer (h : s.Inv cls) (con : Nat) {o? : Option RPCObj}
    (ho : ∀ o, o? = some o → s.HandedOut cls o) :
    ({ s with pObjectServer := Function.update s.pObjectServer con o? } : RPCPool).Inv cls :=
  { h with
    pObjectServer := by
      intro con' o ho'
      change Function.update s.pObjectServer con o? con' = some o at ho'
      by_cases hcon : con' = con
      · rw [hcon, Function.update_self] at ho'
        exact ho o ho'
      · rw [Function.update_of_ne hcon] at ho'
        exact h.pObjectServer con' o ho' }

theorem clearObjectServer (h : s.Inv cls) (con : Nat) :
    ({ s with pObjectServer := Function.update s.pObjectServer con none } : RPCPool).Inv cls := by
  apply h.setObjectServer con
  rintro o ⟨⟩

theorem step {a : Action} (h : s.Inv cls) (ha : ¬ s.DestroysObject cls a) (hs : step cls s a = some s') :
    s'.Inv cls := by
  cases a with
  | getFreeObject c guid bNew =>
    obtain ⟨s₁, hs₁, rfl⟩ := Option.map_eq_some_iff.mp hs
    obtain ⟨h₁, hne, hfresh, hmem⟩ := h.withGuid hs₁
    exact (h₁.getFreeObject hne hfresh hmem rfl).1
  | setObjectPool ses =>
    cases hs
    exact { h with }
  | lookupObject con pSession bProxy key req guid bNew =>
    obtain ⟨s₁, hs₁, rfl⟩ := Option.map_eq_some_iff.mp hs
    obtain ⟨h₁, hne, hfresh, hmem⟩ := h.withGuid hs₁
    obtain ⟨h₂, ho⟩ := h₁.lookupObject hne hfresh hmem rfl
    exact h₂.setObjectServer con ho
  | releaseObject con =>
    cases hs
    unfold RPCPool.releaseObject
    have h₁ := h.clearObjectServer con
    cases ho : s.pObjectServer con with
    | none => exact h₁
    | some o =>
      by_cases hneed : (s.objs o).bNeedToDestroy = true
      · have hsp : ¬ s.Spoils cls true o := fun hsp => ha ⟨o, ho, hneed, hsp⟩
        have hu : isUniqueInstance o = true := by
          rcases (not_spoils hsp).2 with hu | ⟨hfree, _⟩
          · exact hu
          · cases hfree
        simp only [if_pos hneed]
        rw [freeObject_of_unique hu]
        exact h₁.destroy hsp
      · simp only [if_neg hneed]
        exact h₁
  | closeSession ses =>
    change RPCPool.closeSession cls ses s = some s' at hs
    unfold RPCPool.closeSession at hs
    by_cases hany : ((s.mapObjects ses).entries.any fun e => s.attachedTo ses e.2) = true
    · rw [if_pos hany] at hs
      cases hs
    · rw [if_neg hany] at hs
      cases hs
      exact h.foldl_destroyEntry fun e he hsp => ha ⟨e, he, hsp⟩
  | setNeedToDestroy o bSet =>
    obtain ⟨_, hs⟩ := Option.ite_none_right_eq_some.mp hs
    cases hs
    exact h.setObj (fun _ _ => rfl) (h.pStorageObj o)
  | openStorage o c guid bNew =>
    obtain ⟨_, hs⟩ := Option.ite_none_right_eq_some.mp hs
    obtain ⟨s₁, hs₁, rfl⟩ := Option.map_eq_some_iff.mp hs
    obtain ⟨h₁, hne, hfresh, hmem⟩ := h.withGuid hs₁
    obtain ⟨h₂, _, ho, _⟩ := h₁.getFreeObject (c := c) (b := bNew) hne hfresh hmem rfl
    exact h₂.setObj (fun _ _ => rfl) ho
  | create o ses =>
    obtain ⟨hc, hs⟩ := Option.ite_none_right_eq_some.mp hs
    cases hs
    exact (h.setObj (v := { s.objs o with pAttachedSession := some ses }) (fun _ _ => rfl)
      (h.pStorageObj o)).addObject hc.1 ses _
  | pushRPCObj o con req =>
    obtain ⟨hc, hs⟩ := Option.ite_none_right_eq_some.mp hs
    cases hs
    exact { h with
      mapRPCObj := by
        intro con' key o' ho'
        change (Function.update s.mapRPCObj con _ con').lookup key = some o' at ho'
        by_cases hcon : con' = con
        · rw [hcon, Function.update_self] at ho'
          by_cases hkey : key = req
          · rw [hkey, AList.lookup_insert] at ho'
            cases ho'
            exact hc
          · rw [AList.lookup_insert_ne hkey] at ho'
            exact h.mapRPCObj con key o' ho'
        · rw [Function.update_of_ne hcon] at ho'
          exact h.mapRPCObj con' key o' ho' }
  | popRPCObj con req =>
    cases hs
    exact h.popRPCObj con req

end Inv

/-! ### A step that destroys an object -/

/-- An object that is not a unique instance has been freed, or has lost its id. -/
def Lost (s : RPCPool) (o : RPCObj) : Prop :=
  isUniqueInstance o = false ∧ (s.given o = true ∨ (s.objs o).strObjectGuid = "")

theorem Lost.of_shrinks (h : Shrinks p s s') (ho : s.Lost o) : s'.Lost o := by
  obtain ⟨hu, hg | hid⟩ := ho
  · exact ⟨hu, Or.inl (h.given o hg)⟩
  · refine ⟨hu, Or.inr ?_⟩
    rcases h.strObjectGuid o with h₁ | h₁
    · exact h₁.trans hid
    · exact h₁

/-- The counter still counts the objects that were in use; so all of them would have to be in use, and `o` is
not. -/
theorem Inv.not_consistent (h : s.Inv cls) (hsub : s'.mapUsingObjs.entries.Sublist s.mapUsingObjs.entries)
    (hcount : s'.uiUsingObjects = s.uiUsingObjects) (ho : s.HandedOut cls o) (hlost : s'.Lost o) :
    ¬ s'.Consistent := by
  intro hc
  have hlen : s'.mapUsingObjs.entries.length = s.mapUsingObjs.entries.length := by
    rw [← hc.uiUsingObjects, hcount, h.uiUsingObjects]
  have heq : s'.mapUsingObjs = s.mapUsingObjs := AList.ext (hsub.eq_of_length hlen)
  obtain ⟨hu, hlost⟩ := hlost
  cases o with
  | unique c => cases hu
  | created n =>
    have hlook := h.inUse n ho
    rw [← heq] at hlook
    rcases hlost with hg | hid
    · exact (hc.freed _ hg).1 _ hlook
    · have hkey := hc.keys _ _ hlook
      rw [heq] at hlook
      exact (h.keys _ _ hlook).2.1 (hkey.symm.trans hid)

theorem given_freeObject (hu : isUniqueInstance o = false) : (freeObject o s).given o = true := by
  unfold freeObject
  rw [if_neg (by rw [hu]; exact Bool.false_ne_true)]
  cases hl : s.mapUsingObjs.lookup (s.objs o).strObjectGuid <;>
  · simp only [hl]
    exact Function.update_self ..

theorem strObjectGuid_reset (hres : cls.resets (s.objs o).strClassGuid = true) :
    ((reset cls o s).objs o).strObjectGuid = "" := by
  unfold reset
  rw [if_pos hres]
  show (Function.update s.objs o _ o).strObjectGuid = ""
  rw [Function.update_self]

theorem lost_destroy (h : s.Inv cls) {bFree : Bool} (ho : s.HandedOut cls o) (hsp : s.Spoils cls bFree o) :
    ∃ x, s.HandedOut cls x ∧ (if bFree then freeObject o (destroy cls o s) else destroy cls o s).Lost x := by
  have hsh : Shrinks o (destroy cls o s) (if bFree then freeObject o (destroy cls o s) else destroy cls o s) := by
    cases bFree with
    | true => exact Shrinks.freeObject
    | false => exact Shrinks.refl
  rcases hsp with ⟨q, hq, hu⟩ | ⟨hu, hfree | hres⟩
  · have hq : (s.objs o).pStorageObj = some q := hq
    refine ⟨q, h.pStorageObj o q hq, Lost.of_shrinks hsh ?_⟩
    unfold destroy releaseStorage
    simp only [hq]
    refine Lost.of_shrinks (p := o) (Shrinks.unCreate.trans Shrinks.reset) ?_
    exact ⟨hu, Or.inl (given_freeObject hu)⟩
  · refine ⟨o, ho, hu, Or.inl ?_⟩
    rw [if_pos hfree]
    exact given_freeObject hu
  · refine ⟨o, ho, Lost.of_shrinks hsh ⟨hu, Or.inr ?_⟩⟩
    have hsh' : Shrinks o s (unCreate o (releaseStorage cls o s)) := Shrinks.releaseStorage.trans Shrinks.unCreate
    have hclass := hsh'.strClassGuid o
    exact strObjectGuid_reset (by rw [hclass]; exact hres)

theorem Lost.foldl_destroyEntry {ses : Nat} : ∀ {l : List (Σ _ : String, RPCObj)} {s : RPCPool}, s.Lost o →
    (l.foldl (destroyEntry cls ses) s).Lost o
  | [], _, ho => ho
  | e :: l, s, ho => by
    have hsh : Shrinks e.2 s (destroyEntry cls ses s e) := Shrinks.destroyEntry
    exact (Lost.of_shrinks hsh ho).foldl_destroyEntry

/-- The loop of `CXConnectionSession::Destroy`, with an entry that is spoilt: the first one loses an object, and
the entries after it do not bring it back. -/
theorem lost_foldl_destroyEntry {ses : Nat} : ∀ {l : List (Σ _ : String, RPCObj)} {s : RPCPool}, s.Inv cls →
    (∀ e ∈ l, s.HandedOut cls e.2) → (∃ e ∈ l, s.Spoils cls (s.bObjectsPool ses) e.2) →
    ∃ x, s.HandedOut cls x ∧ (l.foldl (destroyEntry cls ses) s).Lost x
  | [], _, _, _, ⟨_, he, _⟩ => absurd he List.not_mem_nil
  | e :: l, s, h, hl, ⟨e', he', hsp⟩ => by
    have hsh : Shrinks e.2 s (destroyEntry cls ses s e) := Shrinks.destroyEntry
    by_cases hfirst : s.Spoils cls (s.bObjectsPool ses) e.2
    · obtain ⟨x, hx, hlost⟩ := lost_destroy h (hl e List.mem_cons_self) hfirst
      have hpool : (destroy cls e.2 s).bObjectsPool = s.bObjectsPool := Shrinks.destroy.bObjectsPool
      refine ⟨x, hx, Lost.foldl_destroyEntry (s := destroyEntry cls ses s e) ?_⟩
      rw [← hpool] at hlost
      exact Lost.of_shrinks (p := e.2) (Shrinks.removeObject ses e.1) hlost
    · have hne : e'.2 ≠ e.2 := by
        intro heq
        rw [heq] at hsp
        exact hfirst hsp
      have hmem : e' ∈ l := by
        rcases List.mem_cons.mp he' with rfl | hmem
        · exact absurd rfl hne
        · exact hmem
      rw [← hsh.bObjectsPool] at hsp
      obtain ⟨x, hx, hlost⟩ := lost_foldl_destroyEntry (h.destroyEntry hfirst)
        (fun e'' he'' => (hl e'' (List.mem_cons_of_mem _ he'')).of_created_le hsh.created.ge)
        ⟨e', hmem, hsp.of_shrinks_ne hsh hne⟩
      exact ⟨x, hx.of_created_le hsh.created.le, hlost⟩

theorem shrinks_foldl_destroyEntry {ses : Nat} : ∀ {l : List (Σ _ : String, RPCObj)} {s : RPCPool},
    (l.foldl (destroyEntry cls ses) s).mapUsingObjs.entries.Sublist s.mapUsingObjs.entries ∧
      (l.foldl (destroyEntry cls ses) s).uiUsingObjects = s.uiUsingObjects
  | [], _ => ⟨List.Sublist.refl _, rfl⟩
  | e :: l, s => by
    have hsh : Shrinks e.2 s (destroyEntry cls ses s e) := Shrinks.destroyEntry
    obtain ⟨hsub, hcount⟩ := shrinks_foldl_destroyEntry (l := l) (s := destroyEntry cls ses s e)
    exact ⟨hsub.trans hsh.mapUsingObjs, hcount.trans hsh.uiUsingObjects⟩

theorem Inv.step_not_consistent {a : Action} (h : s.Inv cls) (ha : s.DestroysObject cls a)
    (hs : RPCPool.step cls s a = some s') : ¬ s'.Consistent := by
  cases a with
  | releaseObject con =>
    obtain ⟨o, ho, hneed, hsp⟩ := ha
    have ho : s.pObjectServer con = some o := ho
    cases hs
    have h₁ := h.clearObjectServer con
    obtain ⟨x, hx, hlost⟩ := lost_destroy h₁ (h.pObjectServer con o ho) hsp
    unfold RPCPool.releaseObject
    simp only [ho, if_pos hneed]
    have hsh : Shrinks o { s with pObjectServer := Function.update s.pObjectServer con none }
        (freeObject o (RPCPool.destroy cls o { s with pObjectServer := Function.update s.pObjectServer con none })) :=
      Shrinks.destroy.trans Shrinks.freeObject
    exact h₁.not_consistent hsh.mapUsingObjs hsh.uiUsingObjects hx hlost
  | closeSession ses =>
    change RPCPool.closeSession cls ses s = some s' at hs
    unfold RPCPool.closeSession at hs
    by_cases hany : ((s.mapObjects ses).entries.any fun e => s.attachedTo ses e.2) = true
    · rw [if_pos hany] at hs
      cases hs
    · rw [if_neg hany] at hs
      cases hs
      have hout : ∀ e ∈ (s.mapObjects ses).entries, s.HandedOut cls e.2 := by
        intro e he
        exact h.mapObjects ses e.1 e.2 (AList.mem_lookup_iff.mpr he)
      obtain ⟨x, hx, hlost⟩ := lost_foldl_destroyEntry h hout ha
      exact h.not_consistent shrinks_foldl_destroyEntry.1 shrinks_foldl_destroyEntry.2 hx hlost
  | _ => exact ha.elim

/-! ### Runs -/

/-- In a run none of whose steps destroys an object of a class that is not a unique instance, the pool is consistent
in every state; and the first such step ends in a state that is not consistent. -/
theorem consistent_of_noneDestroyed
    (hs : Reachable (guarded (fun s a => ¬ s.DestroysObject cls a) (step cls)) start s) :
    s.Consistent ∧ ∀ a s', step cls s a = some s' → (s'.Consistent ↔ ¬ s.DestroysObject cls a) := by
  have h : s.Inv cls := hs.invariant inv_start fun s a s' h hstep => by
    obtain ⟨ha, hstep⟩ := guarded_eq_some.mp hstep
    exact h.step ha hstep
  refine ⟨h.consistent, fun a s' hstep => ⟨fun hc ha => ?_, fun ha => ?_⟩⟩
  · exact h.step_not_consistent ha hstep hc
  · exact (h.step ha hstep).consistent

/-! ### Concrete runs -/

/-- `CXFileTcpV1` -/
def fileClass : String := "{A888441E-F757-4775-B69A-CCEBD63156FB}"

def fileClasses : RPCClasses := ⟨fun c => if c = fileClass then some false else none, fun _ => true⟩

/-- A message of a session with its pool makes an object. -/
def oneObjectRun : List Action :=
  [.setObjectPool 0, .lookupObject 0 (some 0) false fileClass "{R}" "{1}" true, .releaseObject 0]

theorem consistent_oneObject : ∃ s : RPCPool, s.mapUsingObjs.lookup "{1}" = some (.created 0) ∧
    (s.mapObjects 0).lookup "{1}" = some (.created 0) ∧ s.Consistent ∧
    ∀ a s', step fileClasses s a = some s' → (s'.Consistent ↔ ¬ s.DestroysObject fileClasses a) := by
  have hrun : (runSteps (guarded (fun s a => ¬ s.DestroysObject fileClasses a) (step fileClasses)) start
      oneObjectRun).any (fun s => s.mapUsingObjs.lookup "{1}" = some (.created 0) ∧
        (s.mapObjects 0).lookup "{1}" = some (.created 0)) = true := by decide +kernel
  obtain ⟨s, hs, h⟩ := (Option.any_eq_true _ _).mp hrun
  obtain ⟨hlook, hses⟩ := of_decide_eq_true h
  exact ⟨s, hlook, hses, consistent_of_noneDestroyed (Reachable.of_runSteps hs)⟩

/-- The session closes: the object has been given to `FreeObject` and is still in use. -/
theorem not_consistent_closeSession : ∃ s : RPCPool, Reachable (step fileClasses) start s ∧ ¬ s.Consistent := by
  have hrun : (runSteps (step fileClasses) start (oneObjectRun ++ [.closeSession 0])).any
      (fun s => s.given (.created 0) = true ∧ s.mapUsingObjs.lookup "{1}" = some (.created 0)) = true := by
    decide +kernel
  obtain ⟨s, hs, h⟩ := (Option.any_eq_true _ _).mp hrun
  obtain ⟨hgiven, hlook⟩ := of_decide_eq_true h
  exact ⟨s, Reachable.of_runSteps hs, fun hc => (hc.freed _ hgiven).1 _ hlook⟩

end RPCPool

end KonsanNet
