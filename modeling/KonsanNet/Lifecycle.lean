import Mathlib.Tactic
import KonsanNet.Run
import KonsanNet.Send

/-!
# The life of a connection object (`BuildConnection`, `CloseConnection`, `CXConnectionsManager`)

Connection objects are numbered. Threads that build a connection, threads that close one and the thread
that recycles the released ones interleave: a step is one locked section (`m_lockFreeConnections`,
`m_lockUsingConnections`, `m_lockReleasedConnections`, or the object's own `m_lock`), one unlocked
`SetState`, or one `epoll_ctl`. `closing o` is the thread inside `CloseConnection` of `o`, which holds the
object's `m_lock`; `building o` the one inside `BuildConnection`. All connections are accepted ones
(`m_bProxyConnection == false`).

Two fields record history: `known o`, that `o` has been registered with epoll, so that event threads can
have its pointer, and `wasClosed o`, that `o` has been `CLOSING` or `CLOSED` since it was handed out.
-/

namespace KonsanNet

/-- How far `BuildConnection` has got with an object. -/
inductive BuildStage
  | popped
  | initialized
  | built
  | attached
  /-- `AttachConnetionToModel` has failed, the object is `CLOSED` -/
  | refused
  | added
deriving DecidableEq, Repr

/-- What `CloseConnection` still has to do in `ReleaseConnection`. -/
inductive CloseStage
  | idle
  | erase
  | push
deriving DecidableEq, Repr

structure Connections where
  created : Nat
  queueFreeConnections : List Nat
  mapUsingConnections : List (Nat × Nat)
  listReleasedConnections : List Nat
  uiCurrentConnectionIndex : Nat
  nState : Nat → ConnectionState
  uiConnectionIndex : Nat → Nat
  building : Nat → Option BuildStage
  closing : Nat → CloseStage
  /-- `TravelReleaseList` has put this object into the free queue and not yet erased it from its list. -/
  recycling : Option Nat
  known : Nat → Bool
  wasClosed : Nat → Bool

inductive ConnectionsAct
  /-- `GetFreeConnectionObj`, up to the unlock -/
  | getFree
  /-- `BuildConnection` goes on with `o` -/
  | build (o : Nat) (sock : Nat) (bAttached : Bool)
  /-- `CloseConnection`, up to `ReleaseConnection`; `bZero` tells whether the four counters are zero -/
  | close (o : Nat) (bZero : Bool)
  /-- `ReleaseConnection` goes on -/
  | release (o : Nat)
  /-- `TravelReleaseList` reaches an object that was released long enough ago -/
  | addFree (o : Nat)
  | eraseReleased

namespace Connections

/-- The server has started. -/
def start : Connections where
  created := 0
  queueFreeConnections := []
  mapUsingConnections := []
  listReleasedConnections := []
  uiCurrentConnectionIndex := 0
  nState _ := .initialized
  uiConnectionIndex _ := 0
  building _ := none
  closing _ := .idle
  recycling := none
  known _ := false
  wasClosed _ := false

def setState (s : Connections) (o : Nat) (st : ConnectionState) : Connections :=
  { s with nState := Function.update s.nState o st }

def setBuilding (s : Connections) (o : Nat) (st : Option BuildStage) : Connections :=
  { s with building := Function.update s.building o st }

def setClosing (s : Connections) (o : Nat) (st : CloseStage) : Connections :=
  { s with closing := Function.update s.closing o st }

def setWasClosed (s : Connections) (o : Nat) (b : Bool) : Connections :=
  { s with wasClosed := Function.update s.wasClosed o b }

/-- An empty free queue is filled with 1000 new objects first. -/
def fillFree (s : Connections) : Connections :=
  if s.queueFreeConnections.isEmpty then
    { s with
      queueFreeConnections := List.range' s.created 1000
      created := s.created + 1000 }
  else s

def getFreeConnectionObj (s : Connections) : Option Connections :=
  match s.fillFree.queueFreeConnections with
  | [] => none
  | o :: rest =>
    some (({ s.fillFree with queueFreeConnections := rest }.setBuilding o (some .popped)).setWasClosed o false)

def addFreeConnectionObj (s : Connections) (o : Nat) : Connections :=
  { s with queueFreeConnections := s.queueFreeConnections ++ [o] }

/-- `GetCurrentConnectionIndex` and `Build`, which needs the object's lock. -/
def buildObj (s : Connections) (o : Nat) (sock : Nat) : Connections :=
  { s with
    uiCurrentConnectionIndex := s.uiCurrentConnectionIndex + 1
    uiConnectionIndex := Function.update s.uiConnectionIndex o (s.uiCurrentConnectionIndex + 1) }.setState o
      (if sock = 0 then .initialized else .pending)

def addUsingConnection (s : Connections) (o : Nat) : Connections :=
  if s.mapUsingConnections.any fun e => e.1 == s.uiConnectionIndex o then s
  else { s with mapUsingConnections := s.mapUsingConnections ++ [(s.uiConnectionIndex o, o)] }

/-- The next step of `BuildConnection`. -/
def buildConnection (s : Connections) (o : Nat) (sock : Nat) (bAttached : Bool) : Option Connections :=
  match s.building o with
  | none => none
  | some .popped => some ((s.setState o .initialized).setBuilding o (some .initialized))
  | some .initialized =>
    if s.closing o = .idle then some ((s.buildObj o sock).setBuilding o (some .built)) else none
  | some .built =>
    if bAttached then
      some ({ s with known := Function.update s.known o true }.setBuilding o (some .attached))
    -- `Close()` and `SetState(CLOSED)`
    else if s.closing o = .idle then
      some (((s.setState o .closed).setWasClosed o true).setBuilding o (some .refused))
    else none
  | some .refused => some ((s.addFreeConnectionObj o).setBuilding o none)
  | some .attached => some ((s.addUsingConnection o).setBuilding o (some .added))
  | some .added => some ((s.setState o .established).setBuilding o none)

/-- Whoever closes a connection has its pointer from epoll or from the using map. -/
def closeConnection (s : Connections) (o : Nat) (bZero : Bool) : Option Connections :=
  if s.known o ∧ s.closing o = .idle then
    if s.nState o = .closed then some s
    else if bZero then some (((s.setState o .closed).setWasClosed o true).setClosing o .erase)
    else some ((s.setState o .closing).setWasClosed o true)
  else none

/-- The two sections of `ReleaseConnection`. -/
def releaseConnection (s : Connections) (o : Nat) : Option Connections :=
  match s.closing o with
  | .idle => none
  | .erase =>
    if s.mapUsingConnections.any fun e => e.1 == s.uiConnectionIndex o then
      some ({ s with
        mapUsingConnections := s.mapUsingConnections.filter fun e => e.1 != s.uiConnectionIndex o }.setClosing
          o .push)
    else some (s.setClosing o .idle)
  | .push =>
    if s.recycling = none then
      some ({ s with listReleasedConnections := s.listReleasedConnections ++ [o] }.setClosing o .idle)
    else none

def addFree (s : Connections) (o : Nat) : Option Connections :=
  if o ∈ s.listReleasedConnections ∧ s.recycling = none then
    some { s.addFreeConnectionObj o with recycling := some o }
  else none

def eraseReleased (s : Connections) : Option Connections :=
  s.recycling.map fun o =>
    { s with
      listReleasedConnections := s.listReleasedConnections.erase o
      recycling := none }

def step (s : Connections) : ConnectionsAct → Option Connections
  | .getFree => s.getFreeConnectionObj
  | .build o sock bAttached => s.buildConnection o sock bAttached
  | .close o bZero => s.closeConnection o bZero
  | .release o => s.releaseConnection o
  | .addFree o => s.addFree o
  | .eraseReleased => s.eraseReleased

/-- A building thread has the object, which is not yet in the using map. -/
def inHands : Option BuildStage → Bool
  | none | some .added => false
  | some .popped | some .initialized | some .built | some .attached | some .refused => true

/-- In how many of the free queue, the using map, the released list and the hands of a building thread the
object is. -/
def places (s : Connections) (o : Nat) : Nat :=
  s.queueFreeConnections.count o + (s.mapUsingConnections.map Prod.snd).count o +
    s.listReleasedConnections.count o + if inHands (s.building o) then 1 else 0

/-! ### The invariant -/

inductive Place
  | none
  | free
  | hands
  | inUse
  | transit
  | released
deriving DecidableEq

/-- What holds of one object: `b`, `c`, `st`, `k` and `w` are its fields `building`, `closing`, `nState`, `known`
and `wasClosed`. -/
structure ObjOk (p : Place) (b : Option BuildStage) (c : CloseStage) (st : ConnectionState) (k w : Bool) :
    Prop where
  hands : p = .hands ↔ inHands b
  added : b = some .added → p = .inUse
  transit : p = .transit ↔ c = .push
  erase : c = .erase → p = .inUse ∧ st = .closed
  idle : b ≠ none → c = .idle
  known : k → p ≠ .none
  notUsed : k → p = .free ∨ p = .transit ∨ p = .released → st = .closed
  inUse : p = .inUse → b = none → c = .idle → st = .established ∨ st = .closing
  wasClosed : w → st = .closing ∨ st = .closed
  building : b ≠ none → b ≠ some .refused → w = false
  refused : b = some .refused → st = .closed

/-- The index of `o` is its own: it is in the using map or `Build` has given it one. -/
def Indexed (s : Connections) (place : Nat → Place) (o : Nat) : Prop :=
  place o = .inUse ∨ s.building o = some .built ∨ s.building o = some .attached

/-- What holds of the containers and the indices. -/
structure ContInv (s : Connections) (place : Nat → Place) : Prop where
  created : ∀ o, place o = .none ↔ s.created ≤ o
  free : ∀ o, o ∈ s.queueFreeConnections ↔ place o = .free
  freeNodup : s.queueFreeConnections.Nodup
  released : ∀ o, o ∈ s.listReleasedConnections ↔ place o = .released ∨ s.recycling = some o
  releasedNodup : s.listReleasedConnections.Nodup
  recycling : ∀ o, s.recycling = some o → place o ≠ .released ∧ place o ≠ .none
  inUse : ∀ i o, (i, o) ∈ s.mapUsingConnections ↔ place o = .inUse ∧ s.uiConnectionIndex o = i
  inUseNodup : (s.mapUsingConnections.map Prod.snd).Nodup
  indexLe : ∀ o, Indexed s place o → s.uiConnectionIndex o ≤ s.uiCurrentConnectionIndex
  indexInj : ∀ o o', Indexed s place o → Indexed s place o' →
    s.uiConnectionIndex o = s.uiConnectionIndex o' → o = o'

structure InvAt (s : Connections) (place : Nat → Place) : Prop where
  cont : ContInv s place
  obj : ∀ o, ObjOk (place o) (s.building o) (s.closing o) (s.nState o) (s.known o) (s.wasClosed o)

variable {s s' : Connections} {place : Nat → Place} {o : Nat}

theorem InvAt.start : InvAt start fun _ => .none := by
  refine ⟨?_, fun o => ?_⟩
  · constructor <;> simp [Connections.start, Indexed]
  · constructor <;> simp [Connections.start, inHands]

theorem ObjOk.building_none {b : Option BuildStage} {c : CloseStage} {st : ConnectionState} {k w : Bool}
    {p : Place} (h : ObjOk p b c st k w) (hh : p ≠ .hands) (hu : p ≠ .inUse) : b = none := by
  have h1 := h.hands
  have h2 := h.added
  cases b with
  | none => rfl
  | some st => cases st <;> simp_all [inHands]

theorem ObjOk.closing_idle {b : Option BuildStage} {c : CloseStage} {st : ConnectionState} {k w : Bool}
    {p : Place} (h : ObjOk p b c st k w) (ht : p ≠ .transit) (hu : p ≠ .inUse) : c = .idle := by
  cases c with
  | idle => rfl
  | erase => exact absurd (h.erase rfl).1 hu
  | push => exact absurd (h.transit.mpr rfl) ht

theorem ContInv.fillFree (hc : ContInv s place) (hnil : s.queueFreeConnections = [])
    (hbuild : ∀ o, s.created ≤ o → s.building o = none) :
    ContInv { s with
      queueFreeConnections := List.range' s.created 1000
      created := s.created + 1000 }
      (fun o => if s.created ≤ o ∧ o < s.created + 1000 then .free else place o) := by
  have hfree : ∀ o, place o ≠ .free := fun o ho => by
    have := (hc.free o).mpr ho
    simp [hnil] at this
  have hnone := hc.created
  have hidx : ∀ o, Indexed { s with
      queueFreeConnections := List.range' s.created 1000
      created := s.created + 1000 }
      (fun o => if s.created ≤ o ∧ o < s.created + 1000 then .free else place o) o → Indexed s place o := by
    intro o ho
    unfold Indexed at ho ⊢
    have := hbuild o
    grind
  constructor
  case created => grind
  case free =>
    intro o
    rw [List.mem_range'_1]
    grind
  case freeNodup => exact List.nodup_range' 1
  case released => grind [hc.released, hc.recycling]
  case releasedNodup => exact hc.releasedNodup
  case recycling => grind [hc.recycling]
  case inUse => grind [hc.inUse]
  case inUseNodup => exact hc.inUseNodup
  case indexLe => exact fun o ho => hc.indexLe o (hidx o ho)
  case indexInj => exact fun o o' ho ho' => hc.indexInj o o' (hidx o ho) (hidx o' ho')

theorem InvAt.fillFree (h : InvAt s place) : ∃ place, InvAt s.fillFree place := by
  unfold Connections.fillFree
  split
  case isFalse => exact ⟨place, h⟩
  case isTrue hnil =>
    have hnone := h.cont.created
    have hbuild : ∀ o, s.created ≤ o → s.building o = none := fun o ho =>
      (h.obj o).building_none (by simp [(hnone o).mpr ho]) (by simp [(hnone o).mpr ho])
    refine ⟨_, h.cont.fillFree (by simpa using hnil) hbuild, fun o => ?_⟩
    by_cases ho : s.created ≤ o ∧ o < s.created + 1000
    · rw [if_pos ho]
      have hk := h.obj o
      rw [(hnone o).mpr ho.1] at hk
      constructor <;> grind [hk.hands, hk.added, hk.transit, hk.erase, hk.known, hk.wasClosed, hbuild o ho.1]
    · rw [if_neg ho]
      exact h.obj o

/-- The front of the free queue comes into the hands of a building thread. -/
theorem ContInv.popFree {rest : List Nat} (hc : ContInv s place) (hq : s.queueFreeConnections = o :: rest) :
    place o = .free ∧
      ContInv (({ s with queueFreeConnections := rest }.setBuilding o (some .popped)).setWasClosed o false)
        (Function.update place o .hands) := by
  have hp : place o = .free := (hc.free o).mp (by simp [hq])
  have hnd := hc.freeNodup
  rw [hq] at hnd
  have hidx : ∀ o', Indexed (({ s with queueFreeConnections := rest }.setBuilding o (some .popped)).setWasClosed
      o false) (Function.update place o .hands) o' → Indexed s place o' := by
    intro o' ho'
    unfold Indexed setBuilding setWasClosed at *
    grind
  refine ⟨hp, ?_⟩
  constructor <;> simp only [setBuilding, setWasClosed]
  case created => grind [hc.created]
  case free => grind [hc.free]
  case freeNodup => exact hnd.of_cons
  case released => grind [hc.released, hc.recycling]
  case releasedNodup => exact hc.releasedNodup
  case recycling => grind [hc.recycling]
  case inUse => grind [hc.inUse]
  case inUseNodup => exact hc.inUseNodup
  case indexLe => exact fun o ho => hc.indexLe o (hidx o ho)
  case indexInj => exact fun o o' ho ho' => hc.indexInj o o' (hidx o ho) (hidx o' ho')

theorem InvAt.getFree (h : InvAt s place) (hs : s.getFreeConnectionObj = some s') : ∃ place, InvAt s' place := by
  obtain ⟨place, h⟩ := h.fillFree
  revert hs h
  unfold getFreeConnectionObj
  generalize s.fillFree = s
  intro hs h
  split at hs
  case h_1 => cases hs
  case h_2 o rest hq =>
    cases hs
    obtain ⟨hp, hcont⟩ := h.cont.popFree hq
    have hko := h.obj o
    refine ⟨Function.update place o .hands, hcont, fun o' => ?_⟩
    by_cases ho : o' = o
    · subst o'
      simp only [setBuilding, setWasClosed, Function.update_self]
      rw [hp] at hko
      constructor <;> grind [inHands, hko.closing_idle]
    · simpa [setBuilding, setWasClosed, ho] using h.obj o'

theorem ContInv.stay (hc : ContInv s place) (hcr : s'.created = s.created)
    (hf : s'.queueFreeConnections = s.queueFreeConnections) (hm : s'.mapUsingConnections = s.mapUsingConnections)
    (hl : s'.listReleasedConnections = s.listReleasedConnections) (hr : s'.recycling = s.recycling)
    (hu : s'.uiCurrentConnectionIndex = s.uiCurrentConnectionIndex)
    (hi : s'.uiConnectionIndex = s.uiConnectionIndex)
    (hidx : ∀ o, Indexed s' place o → Indexed s place o) : ContInv s' place where
  created := hcr ▸ hc.created
  free := hf ▸ hc.free
  freeNodup := hf ▸ hc.freeNodup
  released := by rw [hl, hr]; exact hc.released
  releasedNodup := hl ▸ hc.releasedNodup
  recycling := hr ▸ hc.recycling
  inUse := by rw [hm, hi]; exact hc.inUse
  inUseNodup := hm ▸ hc.inUseNodup
  indexLe o ho := by rw [hi, hu]; exact hc.indexLe o (hidx o ho)
  indexInj o o' ho ho' := by rw [hi]; exact hc.indexInj o o' (hidx o ho) (hidx o' ho')

theorem InvAt.refused (h : InvAt s place) (hb : s.building o = some .refused) :
    InvAt ((s.addFreeConnectionObj o).setBuilding o none) (Function.update place o .free) := by
  have hc := h.cont
  have hko := h.obj o
  have hp : place o = .hands := hko.hands.mpr (by rw [hb]; rfl)
  have hidx : ∀ o', Indexed ((s.addFreeConnectionObj o).setBuilding o none) (Function.update place o .free) o' →
      Indexed s place o' := by
    intro o' ho'
    unfold Indexed setBuilding addFreeConnectionObj at *
    grind
  refine ⟨?_, fun o' => ?_⟩
  · constructor <;> simp only [setBuilding, addFreeConnectionObj]
    case created => grind [hc.created]
    case free => grind [hc.free]
    case freeNodup =>
      rw [List.nodup_append]
      exact ⟨hc.freeNodup, by simp, by grind [hc.free]⟩
    case released => grind [hc.released, hc.recycling]
    case releasedNodup => exact hc.releasedNodup
    case recycling => grind [hc.recycling]
    case inUse => grind [hc.inUse]
    case inUseNodup => exact hc.inUseNodup
    case indexLe => exact fun o ho => hc.indexLe o (hidx o ho)
    case indexInj => exact fun o o' ho ho' => hc.indexInj o o' (hidx o ho) (hidx o' ho')
  · by_cases ho : o' = o
    · subst o'
      simp only [setBuilding, addFreeConnectionObj, Function.update_self]
      constructor <;> grind [inHands, ObjOk]
    · simpa [setBuilding, addFreeConnectionObj, ho] using h.obj o'

/-- `Build` gives the object the next index, which no other object has. -/
theorem ContInv.buildObj {sock : Nat} (hc : ContInv s place) (hp : place o = .hands) :
    ContInv ((s.buildObj o sock).setBuilding o (some .built)) place := by
  have hidx : ∀ o', o' ≠ o → Indexed ((s.buildObj o sock).setBuilding o (some .built)) place o' →
      Indexed s place o' := by
    intro o' hne ho'
    simp only [Indexed, setBuilding, Connections.buildObj, setState, Function.update_of_ne hne] at ho' ⊢
    exact ho'
  constructor <;> simp only [setBuilding, Connections.buildObj, setState]
  case created => exact hc.created
  case free => exact hc.free
  case freeNodup => exact hc.freeNodup
  case released => exact hc.released
  case releasedNodup => exact hc.releasedNodup
  case recycling => exact hc.recycling
  case inUse => grind [hc.inUse]
  case inUseNodup => exact hc.inUseNodup
  case indexLe =>
    intro o' ho'
    by_cases hne : o' = o
    · rw [hne, Function.update_self]
    · rw [Function.update_of_ne hne]
      exact Nat.le_succ_of_le (hc.indexLe o' (hidx o' hne ho'))
  case indexInj =>
    intro o' o'' ho' ho'' heq
    by_cases hne : o' = o <;> by_cases hne' : o'' = o
    · rw [hne, hne']
    · subst o'
      rw [Function.update_self, Function.update_of_ne hne'] at heq
      have := hc.indexLe o'' (hidx o'' hne' ho'')
      omega
    · subst o''
      rw [Function.update_self, Function.update_of_ne hne] at heq
      have := hc.indexLe o' (hidx o' hne ho')
      omega
    · rw [Function.update_of_ne hne, Function.update_of_ne hne'] at heq
      exact hc.indexInj o' o'' (hidx o' hne ho') (hidx o'' hne' ho'') heq

theorem InvAt.buildObj (h : InvAt s place) {sock : Nat} (hb : s.building o = some .initialized) :
    InvAt ((s.buildObj o sock).setBuilding o (some .built)) place := by
  have hko := h.obj o
  have hp : place o = .hands := hko.hands.mpr (by rw [hb]; rfl)
  refine ⟨h.cont.buildObj hp, fun o' => ?_⟩
  by_cases ho : o' = o
  · subst o'
    simp only [setBuilding, Connections.buildObj, setState, Function.update_self]
    constructor <;> grind [inHands, ObjOk]
  · simpa [setBuilding, Connections.buildObj, setState, ho] using h.obj o'

/-- `AddUsingConnection` finds no connection of this index; the thread goes on to `st`. -/
theorem ContInv.addUsingConnection (hc : ContInv s place) (hp : place o = .hands) (st : Option BuildStage)
    (hb : s.building o = some .attached) (hst : st ≠ some .built ∧ st ≠ some .attached) :
    s.addUsingConnection o =
        { s with mapUsingConnections := s.mapUsingConnections ++ [(s.uiConnectionIndex o, o)] } ∧
      ContInv ((s.addUsingConnection o).setBuilding o st) (Function.update place o .inUse) := by
  have hnot : (s.mapUsingConnections.any fun e => e.1 == s.uiConnectionIndex o) = false := by
    rw [List.any_eq_false]
    rintro ⟨i, o'⟩ he hi
    obtain ⟨hu, rfl⟩ := (hc.inUse i o').mp he
    have := hc.indexInj o' o (.inl hu) (.inr (.inr hb)) (by simpa using hi)
    rw [this, hp] at hu
    cases hu
  have hmap : s.addUsingConnection o =
      { s with mapUsingConnections := s.mapUsingConnections ++ [(s.uiConnectionIndex o, o)] } := by
    rw [Connections.addUsingConnection, hnot]
    rfl
  rw [hmap]
  have hidx : ∀ o', Indexed ({ s with
      mapUsingConnections := s.mapUsingConnections ++ [(s.uiConnectionIndex o, o)] }.setBuilding o st)
      (Function.update place o .inUse) o' → Indexed s place o' := by
    intro o' ho'
    unfold Indexed setBuilding at *
    grind
  refine ⟨rfl, ?_⟩
  constructor <;> simp only [setBuilding]
  case created => grind [hc.created]
  case free => grind [hc.free]
  case freeNodup => exact hc.freeNodup
  case released => grind [hc.released, hc.recycling]
  case releasedNodup => exact hc.releasedNodup
  case recycling => grind [hc.recycling]
  case inUse => grind [hc.inUse]
  case inUseNodup =>
    rw [List.map_append, List.nodup_append]
    exact ⟨hc.inUseNodup, by simp, by grind [hc.inUse]⟩
  case indexLe => exact fun o ho => hc.indexLe o (hidx o ho)
  case indexInj => exact fun o o' ho ho' => hc.indexInj o o' (hidx o ho) (hidx o' ho')

theorem InvAt.attached (h : InvAt s place) (hb : s.building o = some .attached) :
    InvAt ((s.addUsingConnection o).setBuilding o (some .added)) (Function.update place o .inUse) := by
  have hko := h.obj o
  have hp : place o = .hands := hko.hands.mpr (by rw [hb]; rfl)
  obtain ⟨hmap, hcont⟩ := h.cont.addUsingConnection hp (some .added) hb ⟨nofun, nofun⟩
  refine ⟨hcont, fun o' => ?_⟩
  rw [hmap]
  by_cases ho : o' = o
  · subst o'
    simp only [setBuilding, Function.update_self]
    constructor <;> grind [inHands, ObjOk]
  · simpa [setBuilding, ho] using h.obj o'

theorem InvAt.build (h : InvAt s place) {sock : Nat} {bAttached : Bool}
    (hs : s.buildConnection o sock bAttached = some s') : ∃ place, InvAt s' place := by
  have hc := h.cont
  have hko := h.obj o
  unfold buildConnection at hs
  split at hs
  case h_1 => cases hs
  case h_2 hb =>
    cases hs
    refine ⟨place, hc.stay rfl rfl rfl rfl rfl rfl rfl fun o' ho' => ?_, fun o' => ?_⟩
    · unfold Indexed setBuilding setState at *
      grind
    · by_cases ho : o' = o
      · subst o'
        simp only [setBuilding, setState, Function.update_self]
        constructor <;> grind [inHands, ObjOk]
      · simpa [setBuilding, setState, ho] using h.obj o'
  case h_3 hb =>
    split at hs
    case isFalse => cases hs
    case isTrue hcl =>
      cases hs
      exact ⟨_, h.buildObj hb⟩
  case h_4 hb =>
    split at hs
    case isTrue =>
      cases hs
      refine ⟨place, hc.stay rfl rfl rfl rfl rfl rfl rfl fun o' ho' => ?_, fun o' => ?_⟩
      · unfold Indexed setBuilding at *
        grind
      · by_cases ho : o' = o
        · subst o'
          simp only [setBuilding, Function.update_self]
          constructor <;> grind [inHands, ObjOk]
        · simpa [setBuilding, ho] using h.obj o'
    case isFalse =>
      split at hs
      case isFalse => cases hs
      case isTrue hcl =>
        cases hs
        refine ⟨place, hc.stay rfl rfl rfl rfl rfl rfl rfl fun o' ho' => ?_, fun o' => ?_⟩
        · unfold Indexed setBuilding setWasClosed setState at *
          grind
        · by_cases ho : o' = o
          · subst o'
            simp only [setBuilding, setWasClosed, setState, Function.update_self]
            constructor <;> grind [inHands, ObjOk]
          · simpa [setBuilding, setWasClosed, setState, ho] using h.obj o'
  case h_5 hb =>
    cases hs
    exact ⟨_, h.refused hb⟩
  case h_6 hb =>
    cases hs
    exact ⟨_, h.attached hb⟩
  case h_7 hb =>
    cases hs
    refine ⟨place, hc.stay rfl rfl rfl rfl rfl rfl rfl fun o' ho' => ?_, fun o' => ?_⟩
    · unfold Indexed setBuilding setState at *
      grind
    · by_cases ho : o' = o
      · subst o'
        simp only [setBuilding, setState, Function.update_self]
        constructor <;> grind [inHands, ObjOk]
      · simpa [setBuilding, setState, ho] using h.obj o'

/-- No thread closes the object while another one is building it. -/
def stepOk (s : Connections) : ConnectionsAct → Bool
  | .close o _ => s.building o = none ∨ s.nState o = .closed
  | _ => true

theorem InvAt.close (h : InvAt s place) {bZero : Bool} (hs : s.closeConnection o bZero = some s')
    (hok : s.building o = none ∨ s.nState o = .closed) : InvAt s' place := by
  have hc := h.cont
  have hko := h.obj o
  unfold closeConnection at hs
  split at hs
  case isFalse => cases hs
  case isTrue hk =>
    obtain ⟨hk, hcl⟩ := hk
    split at hs
    case isTrue => cases hs; exact h
    case isFalse hst =>
      have hok : s.building o = none := hok.resolve_right hst
      -- an object that is neither in use nor being built is closed
      have hp : place o = .inUse := by
        cases hp : place o with
        | none => exact absurd hp (hko.known hk)
        | free => exact absurd (hko.notUsed hk (.inl hp)) hst
        | hands => simpa [hok, inHands] using hko.hands.mp hp
        | inUse => rfl
        | transit => exact absurd (hko.notUsed hk (.inr (.inl hp))) hst
        | released => exact absurd (hko.notUsed hk (.inr (.inr hp))) hst
      split at hs <;> cases hs
      all_goals
        refine ⟨hc.stay rfl rfl rfl rfl rfl rfl rfl fun o' ho' => ho', fun o' => ?_⟩
        by_cases ho : o' = o
        · subst o'
          simp only [setClosing, setWasClosed, setState, Function.update_self]
          constructor <;> grind [inHands, ObjOk]
        · simpa [setClosing, setWasClosed, setState, ho] using h.obj o'

theorem ContInv.erase (hc : ContInv s place) (hp : place o = .inUse) :
    ContInv ({ s with
      mapUsingConnections := s.mapUsingConnections.filter fun e => e.1 != s.uiConnectionIndex o }.setClosing
        o .push) (Function.update place o .transit) := by
  have hinj : ∀ o', place o' = .inUse → s.uiConnectionIndex o' = s.uiConnectionIndex o → o' = o :=
    fun o' ho' heq => hc.indexInj o' o (.inl ho') (.inl hp) heq
  have hidx : ∀ o', Indexed ({ s with
      mapUsingConnections := s.mapUsingConnections.filter fun e => e.1 != s.uiConnectionIndex o }.setClosing
        o .push) (Function.update place o .transit) o' → Indexed s place o' := by
    intro o' ho'
    unfold Indexed setClosing at *
    grind
  constructor <;> simp only [setClosing]
  case created => grind [hc.created]
  case free => grind [hc.free]
  case freeNodup => exact hc.freeNodup
  case released => grind [hc.released, hc.recycling]
  case releasedNodup => exact hc.releasedNodup
  case recycling => grind [hc.recycling]
  case inUse => grind [hc.inUse]
  case inUseNodup => exact hc.inUseNodup.sublist (List.filter_sublist.map _)
  case indexLe => exact fun o ho => hc.indexLe o (hidx o ho)
  case indexInj => exact fun o o' ho ho' => hc.indexInj o o' (hidx o ho) (hidx o' ho')

theorem InvAt.erase (h : InvAt s place) (hcl : s.closing o = .erase) :
    InvAt ({ s with
      mapUsingConnections := s.mapUsingConnections.filter fun e => e.1 != s.uiConnectionIndex o }.setClosing
        o .push) (Function.update place o .transit) := by
  have hko := h.obj o
  have hp : place o = .inUse := (hko.erase hcl).1
  have hb := hko.idle
  refine ⟨h.cont.erase hp, fun o' => ?_⟩
  by_cases ho : o' = o
  · subst o'
    simp only [setClosing, Function.update_self]
    constructor <;> grind [inHands, ObjOk]
  · simpa [setClosing, ho] using h.obj o'

theorem ContInv.push (hc : ContInv s place) (hp : place o = .transit) (hr : s.recycling = none) :
    ContInv ({ s with listReleasedConnections := s.listReleasedConnections ++ [o] }.setClosing o .idle)
      (Function.update place o .released) := by
  have hidx : ∀ o', Indexed ({ s with
      listReleasedConnections := s.listReleasedConnections ++ [o] }.setClosing o .idle)
      (Function.update place o .released) o' → Indexed s place o' := by
    intro o' ho'
    unfold Indexed setClosing at *
    grind
  constructor <;> simp only [setClosing]
  case created => grind [hc.created]
  case free => grind [hc.free]
  case freeNodup => exact hc.freeNodup
  case released => grind [hc.released, hc.recycling]
  case releasedNodup =>
    rw [List.nodup_append]
    exact ⟨hc.releasedNodup, by simp, by grind [hc.released]⟩
  case recycling => grind [hc.recycling]
  case inUse => grind [hc.inUse]
  case inUseNodup => exact hc.inUseNodup
  case indexLe => exact fun o ho => hc.indexLe o (hidx o ho)
  case indexInj => exact fun o o' ho ho' => hc.indexInj o o' (hidx o ho) (hidx o' ho')

theorem InvAt.push (h : InvAt s place) (hcl : s.closing o = .push) (hr : s.recycling = none) :
    InvAt ({ s with listReleasedConnections := s.listReleasedConnections ++ [o] }.setClosing o .idle)
      (Function.update place o .released) := by
  have hko := h.obj o
  have hp : place o = .transit := hko.transit.mpr hcl
  refine ⟨h.cont.push hp hr, fun o' => ?_⟩
  by_cases ho : o' = o
  · subst o'
    simp only [setClosing, Function.update_self]
    constructor <;> grind [inHands, ObjOk]
  · simpa [setClosing, ho] using h.obj o'

theorem InvAt.release (h : InvAt s place) (hs : s.releaseConnection o = some s') : ∃ place, InvAt s' place := by
  unfold releaseConnection at hs
  split at hs
  case h_1 => cases hs
  case h_2 hcl =>
    split at hs
    case isTrue => cases hs; exact ⟨_, h.erase hcl⟩
    case isFalse hnot =>
      -- the object is in the using map under its index
      refine absurd ?_ hnot
      have hmem := (h.cont.inUse _ o).mpr ⟨((h.obj o).erase hcl).1, rfl⟩
      exact List.any_eq_true.mpr ⟨_, hmem, by simp⟩
  case h_3 hcl =>
    split at hs
    case isTrue hr => cases hs; exact ⟨_, h.push hcl hr⟩
    case isFalse => cases hs

theorem ContInv.addFree (hc : ContInv s place) (hs : s.addFree o = some s') :
    place o = .released ∧ s' = { s.addFreeConnectionObj o with recycling := some o } ∧
      ContInv s' (Function.update place o .free) := by
  unfold Connections.addFree at hs
  split at hs
  case isFalse => cases hs
  case isTrue hm =>
    obtain ⟨hm, hr⟩ := hm
    cases hs
    have hp : place o = .released := by simpa [hr] using (hc.released o).mp hm
    have hidx : ∀ o', Indexed { s.addFreeConnectionObj o with recycling := some o }
        (Function.update place o .free) o' → Indexed s place o' := by
      intro o' ho'
      unfold Indexed addFreeConnectionObj at *
      grind
    refine ⟨hp, rfl, ?_⟩
    constructor <;> simp only [addFreeConnectionObj]
    case created => grind [hc.created]
    case free => grind [hc.free]
    case freeNodup =>
      rw [List.nodup_append]
      exact ⟨hc.freeNodup, by simp, by grind [hc.free]⟩
    case released => grind [hc.released, hc.recycling]
    case releasedNodup => exact hc.releasedNodup
    case recycling => grind [hc.recycling]
    case inUse => grind [hc.inUse]
    case inUseNodup => exact hc.inUseNodup
    case indexLe => exact fun o ho => hc.indexLe o (hidx o ho)
    case indexInj => exact fun o o' ho ho' => hc.indexInj o o' (hidx o ho) (hidx o' ho')

theorem InvAt.addFree (h : InvAt s place) (hs : s.addFree o = some s') : ∃ place, InvAt s' place := by
  obtain ⟨hp, rfl, hcont⟩ := h.cont.addFree hs
  have hko := h.obj o
  refine ⟨_, hcont, fun o' => ?_⟩
  by_cases ho : o' = o
  · subst o'
    simp only [addFreeConnectionObj, Function.update_self]
    constructor <;> grind [inHands, ObjOk]
  · simpa [addFreeConnectionObj, ho] using h.obj o'

theorem ContInv.eraseReleased (hc : ContInv s place) (hs : s.eraseReleased = some s') : ContInv s' place := by
  obtain ⟨o, hr, rfl⟩ := Option.map_eq_some_iff.mp hs
  have hidx : ∀ o', Indexed { s with
      listReleasedConnections := s.listReleasedConnections.erase o
      recycling := none } place o' → Indexed s place o' := fun o' ho' => ho'
  constructor
  case created => exact hc.created
  case free => exact hc.free
  case freeNodup => exact hc.freeNodup
  case released => grind [hc.released, hc.recycling, hc.releasedNodup, List.Nodup.mem_erase_iff]
  case releasedNodup => exact hc.releasedNodup.erase o
  case recycling => intro o' ho'; cases ho'
  case inUse => exact hc.inUse
  case inUseNodup => exact hc.inUseNodup
  case indexLe => exact fun o ho => hc.indexLe o (hidx o ho)
  case indexInj => exact fun o o' ho ho' => hc.indexInj o o' (hidx o ho) (hidx o' ho')

theorem InvAt.eraseReleased (h : InvAt s place) (hs : s.eraseReleased = some s') : InvAt s' place := by
  have hcont := h.cont.eraseReleased hs
  obtain ⟨o, hr, rfl⟩ := Option.map_eq_some_iff.mp hs
  exact ⟨hcont, h.obj⟩

theorem InvAt.step {a : ConnectionsAct} (h : InvAt s place) (hs : s.step a = some s') (hok : s.stepOk a) :
    ∃ place, InvAt s' place := by
  cases a with
  | getFree => exact h.getFree hs
  | build o sock bAttached => exact h.build hs
  | close o bZero => exact ⟨place, h.close hs (of_decide_eq_true hok)⟩
  | release o => exact h.release hs
  | addFree o => exact h.addFree hs
  | eraseReleased => exact ⟨place, h.eraseReleased hs⟩

theorem inv_of_reachable (h : Reachable (guarded (fun s a => s.stepOk a) step) start s) :
    ∃ place, InvAt s place := by
  induction h with
  | init => exact ⟨_, InvAt.start⟩
  | step a _ hs ih =>
    obtain ⟨place, hi⟩ := ih
    obtain ⟨hok, hs⟩ := guarded_eq_some.mp hs
    exact hi.step hs hok

theorem InvAt.places (h : InvAt s place) (ho : o < s.created) :
    s.places o + (if s.closing o = .push then 1 else 0) = 1 + if s.recycling = some o then 1 else 0 := by
  have hc := h.cont
  have hko := h.obj o
  have hne : place o ≠ .none := fun hp => absurd ho (Nat.not_lt.mpr ((hc.created o).mp hp))
  have hf : s.queueFreeConnections.count o = if place o = .free then 1 else 0 := by
    rw [hc.freeNodup.count]
    simp only [hc.free]
  have hu : (s.mapUsingConnections.map Prod.snd).count o = if place o = .inUse then 1 else 0 := by
    rw [hc.inUseNodup.count]
    refine if_congr ?_ rfl rfl
    rw [List.mem_map]
    constructor
    · rintro ⟨⟨i, o'⟩, he, rfl⟩
      exact ((hc.inUse i o').mp he).1
    · intro hp
      exact ⟨_, (hc.inUse _ o).mpr ⟨hp, rfl⟩, rfl⟩
  have hl : s.listReleasedConnections.count o =
      (if place o = .released then 1 else 0) + if s.recycling = some o then 1 else 0 := by
    rw [hc.releasedNodup.count]
    simp only [hc.released]
    have := hc.recycling o
    grind
  have hh : (if inHands (s.building o) then 1 else 0) = if place o = .hands then 1 else 0 :=
    if_congr hko.hands.symm rfl rfl
  have ht : (if s.closing o = .push then 1 else 0) = if place o = .transit then 1 else 0 :=
    if_congr hko.transit.symm rfl rfl
  rw [Connections.places, hf, hu, hl, hh, ht]
  cases hp : place o with
  | none => exact absurd hp hne
  | free | hands | inUse | transit | released => simp [Nat.add_comm]

/-- A connection that has been closed is not established before it is handed out anew, and every object is in
one place. Between the two sections of `ReleaseConnection` the object is in the hands of the closing thread,
and `TravelReleaseList` puts it into the free queue before it takes it off the released list. -/
theorem closed_and_onePlace (h : Reachable (guarded (fun s a => s.stepOk a) step) start s) :
    (∀ o, s.wasClosed o → s.nState o = .closing ∨ s.nState o = .closed) ∧
      (∀ o < s.created, s.closing o ≠ .push → s.recycling ≠ some o → s.places o = 1) ∧
      ∀ o < s.created,
        s.places o + (if s.closing o = .push then 1 else 0) = 1 + if s.recycling = some o then 1 else 0 := by
  obtain ⟨place, hi⟩ := inv_of_reachable h
  refine ⟨fun o => (hi.obj o).wasClosed, fun o ho hp hr => ?_, fun o => hi.places⟩
  simpa [hp, hr] using hi.places ho

/-- A connection is built, closed, released and recycled; another one stays open. -/
theorem closed_and_onePlace_two : ∃ s, Reachable (guarded (fun s a => s.stepOk a) step) start s ∧
    (s.wasClosed 0 = true ∧ (s.nState 0 = .closing ∨ s.nState 0 = .closed)) ∧ s.places 1 = 1 := by
  obtain ⟨s, hs⟩ : ∃ s, runSteps (guarded (fun s a => s.stepOk a) step) start
      [.getFree, .build 0 7 true, .build 0 7 true, .build 0 7 true, .build 0 7 true, .build 0 7 true,
        .getFree, .close 0 false, .build 1 8 true, .build 1 8 true, .build 1 8 true, .close 0 true, .release 0,
        .build 1 8 true, .release 0, .build 1 8 true, .addFree 0, .eraseReleased] = some s := ⟨_, rfl⟩
  have hr := Reachable.of_runSteps hs
  have hp := closed_and_onePlace hr
  have hk : s.wasClosed 0 = true ∧ 1 < s.created ∧ s.closing 1 ≠ .push ∧ s.recycling ≠ some 1 := by
    cases hs
    exact ⟨rfl, by decide, by decide, by decide⟩
  exact ⟨s, hr, ⟨hk.1, hp.1 0 hk.1⟩, hp.2.1 1 hk.2.1 hk.2.2.1 hk.2.2.2⟩

/-- The first event closes the connection as soon as it is registered with epoll: `ReleaseConnection` does not
find it in the using map, and `BuildConnection` then makes it an established one. -/
theorem established_after_closed : ∃ s, Reachable step start s ∧ s.wasClosed 0 = true ∧
    s.nState 0 = .established ∧ s.listReleasedConnections = [] := by
  obtain ⟨s, hs⟩ : ∃ s, runSteps step start
      [.getFree, .build 0 7 true, .build 0 7 true, .build 0 7 true, .close 0 true, .release 0,
        .build 0 7 true, .build 0 7 true] = some s := ⟨_, rfl⟩
  refine ⟨s, Reachable.of_runSteps hs, ?_⟩
  cases hs
  exact ⟨rfl, rfl, rfl⟩

/-- The condition is sharp: whatever else happens, a connection that is closed before `SetState(ESTABLISHED)`
can be established by the two last steps of `BuildConnection`. -/
theorem established_of_close {bZero : Bool} {sock : Nat} (hb : s.building o = some .added)
    (hst : s.nState o ≠ .closed) (hs : s.closeConnection o bZero = some s') :
    ∃ s'', s'.buildConnection o sock true = some s'' ∧ s''.wasClosed o = true ∧ s''.nState o = .established := by
  unfold closeConnection at hs
  split at hs
  case isFalse => cases hs
  case isTrue =>
    split at hs <;> cases hs
    all_goals
      refine ⟨_, by simp only [buildConnection, setClosing, setWasClosed, setState, hb]; rfl, ?_, ?_⟩
      · simp [setBuilding]
      · simp [setBuilding]

end Connections

end KonsanNet
