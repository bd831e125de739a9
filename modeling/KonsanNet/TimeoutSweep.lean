import KonsanNet.Lifecycle

/-!
# The timeout sweep (`DetectConnections`, `DetectTimeoutConnections`, `TravelReleaseList`)

The detection thread collects the connections that have timed out while it holds `m_lockUsingConnections`, and
calls the close callback for each of them after it has released the lock. Then it recycles what was released
long enough ago, and starts anew. The steps of the other threads are those of `Connections`: they accept
connections whose `AttachConnetionToModel` succeeds, and close connections at any time.

A thread that has put its connection into the using map and not yet made it `ESTABLISHED` is in `late`; the
connection may meanwhile be closed, recycled and built again by another thread. `handed o` counts how often
`GetFreeConnectionObj` has returned `o`, and a `TimeOut` records the index and this number as they were when the
connection was collected.
-/

namespace KonsanNet

structure TimeOut where
  pCon : Nat
  uiConnectionIndex : Nat
  handed : Nat
deriving DecidableEq, Repr

/-- Where the detection thread is. -/
inductive DetectStage
  | waiting
  /-- in `DetectTimeoutConnections`, at the next round of its second loop -/
  | sweeping (queueTimeOutConnections : List TimeOut)
  /-- `OnClose` has seen that the connection is not `CLOSED`; before the lock of `CloseConnection` -/
  | closing (pCon : Nat) (queueTimeOutConnections : List TimeOut)
  /-- in `ReleaseConnection` -/
  | releasing (pCon : Nat) (queueTimeOutConnections : List TimeOut)
  | travelling
deriving DecidableEq, Repr

def DetectStage.queue : DetectStage → List TimeOut
  | .sweeping queue | .closing _ queue | .releasing _ queue => queue
  | .waiting | .travelling => []

structure ConnectionSweep where
  con : Connections
  late : List Nat
  detect : DetectStage
  handed : Nat → Nat

inductive SweepAct
  | getFree
  | build (o : Nat) (sock : Nat)
  /-- the `SetState(ESTABLISHED)` of the thread at this place of `late` -/
  | established (i : Nat)
  | close (o : Nat) (bZero : Bool)
  | release (o : Nat)
  /-- the first loop of `DetectTimeoutConnections` -/
  | detect (bTimeout : Nat → Bool)
  /-- the close callback, up to the test in `OnClose` -/
  | onClose
  | closeTimeout (bZero : Bool)
  | travel
  | addFree (o : Nat)
  | eraseReleased
  | wait

namespace ConnectionSweep

open Connections

def start : ConnectionSweep where
  con := .start
  late := []
  detect := .waiting
  handed _ := 0

def getFreeConnectionObj (s : ConnectionSweep) : Option ConnectionSweep :=
  match s.con.fillFree.queueFreeConnections with
  | [] => none
  | o :: _ => s.con.getFreeConnectionObj.map fun con =>
    { s with con := con, handed := Function.update s.handed o (s.handed o + 1) }

def buildConnection (s : ConnectionSweep) (o sock : Nat) : Option ConnectionSweep :=
  if s.con.building o = some .attached then
    some { s with con := (s.con.addUsingConnection o).setBuilding o none, late := o :: s.late }
  else (s.con.buildConnection o sock true).map fun con => { s with con := con }

def established (s : ConnectionSweep) (i : Nat) : Option ConnectionSweep :=
  s.late[i]?.map fun o => { s with con := s.con.setState o .established, late := s.late.eraseIdx i }

/-- The detection thread goes on when it has released the connection. -/
def resumed (detect : DetectStage) (o : Nat) (c : CloseStage) : DetectStage :=
  match detect with
  | .releasing pCon queue => if pCon = o ∧ c = .idle then .sweeping queue else detect
  | _ => detect

def release (s : ConnectionSweep) (o : Nat) : Option ConnectionSweep :=
  (s.con.releaseConnection o).map fun con => { s with con := con, detect := resumed s.detect o (con.closing o) }

def detectTimeoutConnections (s : ConnectionSweep) (bTimeout : Nat → Bool) : ConnectionSweep :=
  { s with
    detect := .sweeping ((s.con.mapUsingConnections.filter fun e => bTimeout e.2).map fun e =>
      ⟨e.2, s.con.uiConnectionIndex e.2, s.handed e.2⟩) }

def onClose (s : ConnectionSweep) (t : TimeOut) (queue : List TimeOut) : ConnectionSweep :=
  { s with detect := if s.con.nState t.pCon = .closed then .sweeping queue else .closing t.pCon queue }

def closeTimeout (s : ConnectionSweep) (o : Nat) (queue : List TimeOut) (bZero : Bool) :
    Option ConnectionSweep :=
  (s.con.closeConnection o bZero).map fun con =>
    { s with con := con, detect := if con.closing o = .idle then .sweeping queue else .releasing o queue }

def step (s : ConnectionSweep) : SweepAct → Option ConnectionSweep
  | .getFree => s.getFreeConnectionObj
  | .build o sock => s.buildConnection o sock
  | .established i => s.established i
  | .close o bZero => (s.con.closeConnection o bZero).map fun con => { s with con := con }
  | .release o => s.release o
  | .detect bTimeout => if s.detect = .waiting then some (s.detectTimeoutConnections bTimeout) else none
  | .onClose =>
    match s.detect with
    | .sweeping (t :: queue) => some (s.onClose t queue)
    | _ => none
  | .closeTimeout bZero =>
    match s.detect with
    | .closing o queue => s.closeTimeout o queue bZero
    | _ => none
  | .travel => if s.detect = .sweeping [] then some { s with detect := .travelling } else none
  | .addFree o =>
    if s.detect = .travelling then (s.con.addFree o).map fun con => { s with con := con } else none
  | .eraseReleased =>
    if s.detect = .travelling then s.con.eraseReleased.map fun con => { s with con := con } else none
  | .wait =>
    if s.detect = .travelling ∧ s.con.recycling = none then some { s with detect := .waiting } else none

/-! ### The invariant -/

/-- A connection that was in the using map and is not yet recycled. -/
def Held (p : Place) : Prop := p = .inUse ∨ p = .transit ∨ p = .released

/-- What holds of the containers. No index is given twice, and an object keeps its index until it is built anew. -/
structure PlaceInv (s : Connections) (place : Nat → Place) : Prop where
  cont : ContInv s place
  hands : ∀ o, place o = .hands ↔ inHands (s.building o)
  stage : ∀ o, s.building o ≠ some .added ∧ s.building o ≠ some .refused
  transit : ∀ o, place o = .transit ↔ s.closing o = .push
  indexLe : ∀ o, s.uiConnectionIndex o ≤ s.uiCurrentConnectionIndex
  indexPos : ∀ o, Indexed s place o → 0 < s.uiConnectionIndex o
  indexInj : ∀ o o', 0 < s.uiConnectionIndex o → s.uiConnectionIndex o = s.uiConnectionIndex o' → o = o'

structure InvAt (s : ConnectionSweep) (place : Nat → Place) : Prop where
  places : PlaceInv s.con place
  still : s.detect ≠ .travelling → s.con.recycling = none
  queue : ∀ t ∈ s.detect.queue, Held (place t.pCon) ∧ s.con.uiConnectionIndex t.pCon = t.uiConnectionIndex ∧
    s.handed t.pCon = t.handed

variable {s s' : ConnectionSweep} {c c' : Connections} {place place' : Nat → Place} {o sock : Nat} {bZero : Bool}

theorem InvAt.start : InvAt start fun _ => .none := by
  refine ⟨⟨Connections.InvAt.start.cont, ?_, ?_, ?_, ?_, ?_, ?_⟩, fun _ => rfl, nofun⟩ <;>
    simp [ConnectionSweep.start, Connections.start, inHands, Indexed]

/-- Where the queue is the same and no object of it is recycled or built anew. -/
theorem InvAt.of_place (h : InvAt s place) (hp : PlaceInv s'.con place')
    (hstill : s'.detect ≠ .travelling → s'.con.recycling = none) (hq : s'.detect.queue ⊆ s.detect.queue)
    (hheld : ∀ o, Held (place o) → Held (place' o) ∧ s'.con.uiConnectionIndex o = s.con.uiConnectionIndex o ∧
      s'.handed o = s.handed o) : InvAt s' place' := by
  refine ⟨hp, hstill, fun t ht => ?_⟩
  obtain ⟨h₁, h₂, h₃⟩ := h.queue t (hq ht)
  obtain ⟨h₁', h₂', h₃'⟩ := hheld t.pCon h₁
  exact ⟨h₁', h₂'.trans h₂, h₃'.trans h₃⟩

/-- No connection that is in use or released is recycled or gets another index. -/
def Keeps (c : Connections) (place : Nat → Place) (c' : Connections) (place' : Nat → Place) : Prop :=
  ∀ o, Held (place o) → Held (place' o) ∧ c'.uiConnectionIndex o = c.uiConnectionIndex o

theorem Keeps.refl : Keeps c place c place := fun _ ho => ⟨ho, rfl⟩

theorem keeps_update {p : Place} (hi : c'.uiConnectionIndex = c.uiConnectionIndex)
    (hp : Held (place o) → Held p) : Keeps c place c' (Function.update place o p) := by
  intro o' ho'
  refine ⟨?_, congrFun hi o'⟩
  by_cases heq : o' = o
  · rw [heq, Function.update_self]
    exact hp (heq ▸ ho')
  · rwa [Function.update_of_ne heq]

namespace PlaceInv

theorem fillFree (h : PlaceInv c place) : ∃ place', PlaceInv c.fillFree place' ∧
    ∀ o, Held (place o) → Held (place' o) := by
  unfold Connections.fillFree
  split
  case isFalse => exact ⟨place, h, fun _ ho => ho⟩
  case isTrue hnil =>
    have hnone := h.cont.created
    have hbuild : ∀ o, c.created ≤ o → c.building o = none := by
      intro o ho
      have := h.hands o
      have := h.stage o
      have := (hnone o).mpr ho
      cases hb : c.building o with
      | none => rfl
      | some st => cases st <;> grind [inHands]
    refine ⟨_, ⟨h.cont.fillFree (by simpa using hnil) hbuild, ?_, h.stage, ?_, h.indexLe, ?_, h.indexInj⟩, ?_⟩
    · grind [h.hands, inHands]
    · grind [h.transit]
    · intro o ho
      refine h.indexPos o ?_
      unfold Indexed at ho ⊢
      grind
    · unfold Held
      grind

theorem getFree (h : PlaceInv c place) (hs : c.getFreeConnectionObj = some c') :
    ∃ o rest place', c.fillFree.queueFreeConnections = o :: rest ∧ PlaceInv c' place' ∧
      ¬ Held (place o) ∧ c'.recycling = c.recycling ∧ Keeps c place c' place' := by
  obtain ⟨place₁, h₁, hheld⟩ := h.fillFree
  have hsame : c.fillFree.uiConnectionIndex = c.uiConnectionIndex ∧ c.fillFree.recycling = c.recycling := by
    unfold Connections.fillFree
    split <;> exact ⟨rfl, rfl⟩
  revert hs h₁ hheld hsame
  unfold Connections.getFreeConnectionObj
  generalize c.fillFree = d
  intro hs h₁ hheld hsame
  split at hs
  case h_1 => cases hs
  case h_2 o rest hq =>
    cases hs
    obtain ⟨hp, hcont⟩ := h₁.cont.popFree hq
    have hfree : ¬ Held (place o) := by
      intro hh
      have := hheld o hh
      rw [hp] at this
      rcases this with h | h | h <;> cases h
    refine ⟨o, rest, _, hq, ⟨hcont, ?_, ?_, ?_, h₁.indexLe, ?_, h₁.indexInj⟩, hfree, hsame.2, ?_⟩
    · intro o'
      have := h₁.hands o'
      simp only [setBuilding, setWasClosed]
      grind [inHands]
    · intro o'
      have := h₁.stage o'
      simp only [setBuilding, setWasClosed]
      grind
    · intro o'
      have := h₁.transit o'
      simp only [setBuilding, setWasClosed]
      grind
    · intro o' ho'
      refine h₁.indexPos o' ?_
      unfold Indexed setBuilding setWasClosed at *
      grind
    · intro o' hh
      have hne : o' ≠ o := fun heq => hfree (heq ▸ hh)
      exact ⟨by rw [Function.update_of_ne hne]; exact hheld o' hh, congrFun hsame.1 o'⟩

theorem stay (h : PlaceInv c place) (hcr : c'.created = c.created)
    (hf : c'.queueFreeConnections = c.queueFreeConnections) (hm : c'.mapUsingConnections = c.mapUsingConnections)
    (hl : c'.listReleasedConnections = c.listReleasedConnections) (hr : c'.recycling = c.recycling)
    (hu : c'.uiCurrentConnectionIndex = c.uiCurrentConnectionIndex)
    (hi : c'.uiConnectionIndex = c.uiConnectionIndex)
    (hb : ∀ o, inHands (c'.building o) = inHands (c.building o) ∧
      (c'.building o ≠ some .added ∧ c'.building o ≠ some .refused) ∧
      (c'.building o = some .built ∨ c'.building o = some .attached →
        c.building o = some .built ∨ c.building o = some .attached))
    (hc : ∀ o, c'.closing o = .push ↔ c.closing o = .push) : PlaceInv c' place := by
  have hidx : ∀ o, Indexed c' place o → Indexed c place o := by
    rintro o (ho | ho)
    · exact .inl ho
    · exact .inr ((hb o).2.2 ho)
  refine ⟨h.cont.stay hcr hf hm hl hr hu hi hidx, fun o => ?_, fun o => (hb o).2.1, fun o => ?_, ?_, ?_, ?_⟩
  · rw [(hb o).1]
    exact h.hands o
  · rw [hc]
    exact h.transit o
  · rw [hi, hu]
    exact h.indexLe
  · rw [hi]
    exact fun o ho => h.indexPos o (hidx o ho)
  · rw [hi]
    exact h.indexInj

theorem build (h : PlaceInv c place) (hb : c.building o ≠ some .attached)
    (hs : c.buildConnection o sock true = some c') :
    PlaceInv c' place ∧ c'.recycling = c.recycling ∧ Keeps c place c' place := by
  have hst := h.stage o
  unfold Connections.buildConnection at hs
  split at hs
  case h_1 => cases hs
  case h_2 hb' =>
    cases hs
    refine ⟨h.stay rfl rfl rfl rfl rfl rfl rfl (fun o' => ?_) fun _ => Iff.rfl, rfl, Keeps.refl⟩
    have := h.stage o'
    simp only [setBuilding, setState]
    grind [inHands]
  case h_3 hb' =>
    split at hs
    case isFalse => cases hs
    case isTrue =>
      cases hs
      have hp : place o = .hands := (h.hands o).mpr (by rw [hb']; rfl)
      refine ⟨⟨h.cont.buildObj hp, fun o' => ?_, fun o' => ?_, h.transit, fun o' => ?_, fun o' ho' => ?_,
        fun o' o'' hpos heq => ?_⟩, rfl, fun o' ho' => ⟨ho', ?_⟩⟩
      · have := h.hands o'
        simp only [setBuilding, Connections.buildObj, setState]
        grind [inHands]
      · have := h.stage o'
        simp only [setBuilding, Connections.buildObj, setState]
        grind
      · have := h.indexLe o'
        simp only [setBuilding, Connections.buildObj, setState]
        grind
      · have := h.indexPos o'
        simp only [Indexed, setBuilding, Connections.buildObj, setState] at this ho' ⊢
        grind
      · have h₁ := h.indexLe o'
        have h₂ := h.indexLe o''
        have := h.indexInj o' o''
        simp only [setBuilding, Connections.buildObj, setState] at hpos heq
        grind
      · have hne : o' ≠ o := by
          rintro rfl
          rw [hp] at ho'
          rcases ho' with h | h | h <;> cases h
        exact Function.update_of_ne hne _ _
  case h_4 hb' =>
    split at hs
    case isFalse hn => exact absurd rfl hn
    case isTrue =>
      cases hs
      refine ⟨h.stay rfl rfl rfl rfl rfl rfl rfl (fun o' => ?_) fun _ => Iff.rfl, rfl, Keeps.refl⟩
      have := h.stage o'
      simp only [setBuilding]
      grind [inHands]
  case h_5 hb' => exact absurd hb' hst.2
  case h_6 hb' => exact absurd hb' hb
  case h_7 hb' => exact absurd hb' hst.1

theorem addUsing (h : PlaceInv c place) (hb : c.building o = some .attached) :
    PlaceInv ((c.addUsingConnection o).setBuilding o none) (Function.update place o .inUse) ∧
      ((c.addUsingConnection o).setBuilding o none).recycling = c.recycling ∧
      Keeps c place ((c.addUsingConnection o).setBuilding o none) (Function.update place o .inUse) := by
  have hp : place o = .hands := (h.hands o).mpr (by rw [hb]; rfl)
  obtain ⟨hmap, hcont⟩ := h.cont.addUsingConnection hp none hb ⟨nofun, nofun⟩
  rw [hmap] at hcont ⊢
  refine ⟨⟨hcont, fun o' => ?_, fun o' => ?_, fun o' => ?_, h.indexLe, fun o' ho' => h.indexPos o' ?_, h.indexInj⟩,
    rfl, keeps_update rfl fun _ => .inl rfl⟩
  · have := h.hands o'
    simp only [setBuilding]
    grind [inHands]
  · have := h.stage o'
    simp only [setBuilding]
    grind
  · have := h.transit o'
    simp only [setBuilding]
    grind
  · unfold Indexed setBuilding at *
    grind

theorem close (h : PlaceInv c place) (hs : c.closeConnection o bZero = some c') :
    PlaceInv c' place ∧ c'.recycling = c.recycling ∧ Keeps c place c' place := by
  unfold Connections.closeConnection at hs
  split at hs
  case isFalse => cases hs
  case isTrue hk =>
    have hst := h.stage
    split at hs
    · cases hs
      exact ⟨h, rfl, Keeps.refl⟩
    · split at hs <;> cases hs
      · refine ⟨h.stay rfl rfl rfl rfl rfl rfl rfl (fun o' => ⟨rfl, hst o', id⟩) fun o' => ?_, rfl, Keeps.refl⟩
        simp only [setClosing, setWasClosed, setState]
        grind
      · exact ⟨h.stay rfl rfl rfl rfl rfl rfl rfl (fun o' => ⟨rfl, hst o', id⟩) fun o' => Iff.rfl, rfl, Keeps.refl⟩

/-- Whoever has closed the object erases and releases it only if it is in the using map itself. -/
theorem release (h : PlaceInv c place) (hs : c.releaseConnection o = some c') :
    ∃ place', PlaceInv c' place' ∧ c'.recycling = c.recycling ∧ Keeps c place c' place' := by
  unfold Connections.releaseConnection at hs
  split at hs
  case h_1 => cases hs
  case h_2 hcl =>
    split at hs
    case isTrue hany =>
      cases hs
      obtain ⟨⟨i, o'⟩, he, hi⟩ := List.any_eq_true.mp hany
      obtain ⟨hu, rfl⟩ := (h.cont.inUse i o').mp he
      obtain rfl : o' = o := h.indexInj o' o (h.indexPos o' (.inl hu)) (by simpa using hi)
      refine ⟨_, ⟨h.cont.erase hu, fun o'' => ?_, h.stage, fun o'' => ?_, h.indexLe, fun o'' ho'' =>
        h.indexPos o'' ?_, h.indexInj⟩, rfl, keeps_update rfl fun _ => .inr (.inl rfl)⟩
      · have := h.hands o''
        simp only [setClosing]
        grind
      · have := h.transit o''
        simp only [setClosing]
        grind
      · unfold Indexed setClosing at *
        grind
    case isFalse =>
      cases hs
      refine ⟨place, h.stay rfl rfl rfl rfl rfl rfl rfl (fun o' => ⟨rfl, h.stage o', id⟩) fun o' => ?_, rfl,
        Keeps.refl⟩
      simp only [setClosing]
      grind
  case h_3 hcl =>
    split at hs
    case isFalse => cases hs
    case isTrue hr =>
      cases hs
      have hp := (h.transit o).mpr hcl
      refine ⟨_, ⟨h.cont.push hp hr, fun o' => ?_, h.stage, fun o' => ?_, h.indexLe, fun o' ho' =>
        h.indexPos o' ?_, h.indexInj⟩, rfl, keeps_update rfl fun _ => .inr (.inr rfl)⟩
      · have := h.hands o'
        simp only [setClosing]
        grind
      · have := h.transit o'
        simp only [setClosing]
        grind
      · unfold Indexed setClosing at *
        grind

theorem addFree (h : PlaceInv c place) (hs : c.addFree o = some c') : ∃ place', PlaceInv c' place' := by
  obtain ⟨hp, rfl, hcont⟩ := h.cont.addFree hs
  refine ⟨_, hcont, fun o' => ?_, h.stage, fun o' => ?_, h.indexLe, fun o' ho' => h.indexPos o' ?_, h.indexInj⟩
  · have := h.hands o'
    simp only [addFreeConnectionObj]
    grind
  · have := h.transit o'
    simp only [addFreeConnectionObj]
    grind
  · unfold Indexed addFreeConnectionObj at *
    grind

theorem eraseReleased (h : PlaceInv c place) (hs : c.eraseReleased = some c') : PlaceInv c' place := by
  have hcont := h.cont.eraseReleased hs
  obtain ⟨o, hr, rfl⟩ := Option.map_eq_some_iff.mp hs
  exact ⟨hcont, h.hands, h.stage, h.transit, h.indexLe, h.indexPos, h.indexInj⟩

end PlaceInv

namespace InvAt

/-- A step of another thread that recycles nothing and does not move the detection thread. -/
theorem keeps (h : InvAt s place) (hp : PlaceInv c' place') (hr : c'.recycling = s.con.recycling)
    (hk : Keeps s.con place c' place') : InvAt { s with con := c' } place' :=
  h.of_place hp (fun hd => hr.trans (h.still hd)) (List.Subset.refl _) fun o ho =>
    ⟨(hk o ho).1, (hk o ho).2, rfl⟩

/-- `GetFreeConnectionObj` hands out an object that no timeout is about. -/
theorem getFree (h : InvAt s place) (hs : s.getFreeConnectionObj = some s') : ∃ place', InvAt s' place' := by
  unfold ConnectionSweep.getFreeConnectionObj at hs
  split at hs
  case h_1 => cases hs
  case h_2 o rest hq =>
    obtain ⟨con, hcon, rfl⟩ := Option.map_eq_some_iff.mp hs
    obtain ⟨o', rest', place', hq', hp, hfree, hr, hk⟩ := h.places.getFree hcon
    obtain ⟨rfl, -⟩ := List.cons.inj (hq.symm.trans hq')
    refine ⟨place', h.of_place hp (fun hd => hr.trans (h.still hd)) (List.Subset.refl _) fun o' ho' => ?_⟩
    have hne : o' ≠ o := fun heq => hfree (heq ▸ ho')
    exact ⟨(hk o' ho').1, (hk o' ho').2, Function.update_of_ne hne _ _⟩

theorem build (h : InvAt s place) (hs : s.buildConnection o sock = some s') : ∃ place', InvAt s' place' := by
  unfold ConnectionSweep.buildConnection at hs
  split at hs
  case isTrue hb =>
    cases hs
    obtain ⟨hp, hr, hk⟩ := h.places.addUsing hb
    have h' := h.keeps hp hr hk
    exact ⟨_, h'.places, h'.still, h'.queue⟩
  case isFalse hb =>
    obtain ⟨con, hcon, rfl⟩ := Option.map_eq_some_iff.mp hs
    obtain ⟨hp, hr, hk⟩ := h.places.build hb hcon
    exact ⟨place, h.keeps hp hr hk⟩

theorem established {i : Nat} (h : InvAt s place) (hs : s.established i = some s') : InvAt s' place := by
  obtain ⟨o, -, rfl⟩ := Option.map_eq_some_iff.mp hs
  have hp : PlaceInv (s.con.setState o .established) place := h.places.stay rfl rfl rfl rfl rfl rfl rfl
    (fun o' => ⟨rfl, h.places.stage o', id⟩) fun _ => Iff.rfl
  have h' := h.keeps hp rfl Keeps.refl
  exact ⟨h'.places, h'.still, h'.queue⟩

theorem resumed (h : InvAt s place) (o : Nat) (st : CloseStage) :
    InvAt { s with detect := ConnectionSweep.resumed s.detect o st } place := by
  unfold ConnectionSweep.resumed
  split
  case h_1 pCon queue hd =>
    have hq := h.queue
    have hs := h.still
    rw [hd] at hq hs
    split
    · exact ⟨h.places, fun _ => hs nofun, hq⟩
    · rw [hd]
      exact ⟨h.places, hs, hq⟩
  case h_2 => exact h

theorem release (h : InvAt s place) (hs : s.release o = some s') : ∃ place', InvAt s' place' := by
  obtain ⟨con, hcon, rfl⟩ := Option.map_eq_some_iff.mp hs
  obtain ⟨place', hp, hr, hk⟩ := h.places.release hcon
  exact ⟨place', (h.keeps hp hr hk).resumed o (con.closing o)⟩

theorem detect (h : InvAt s place) (hd : s.detect = .waiting) (bTimeout : Nat → Bool) :
    InvAt (s.detectTimeoutConnections bTimeout) place := by
  refine ⟨h.places, fun _ => h.still (by rw [hd]; nofun), fun t ht => ?_⟩
  obtain ⟨⟨i, o⟩, he, rfl⟩ := List.mem_map.mp ht
  have hu := (h.places.cont.inUse i o).mp (List.mem_of_mem_filter he)
  exact ⟨.inl hu.1, rfl, rfl⟩

theorem onClose {t : TimeOut} {queue : List TimeOut} (h : InvAt s place)
    (hd : s.detect = .sweeping (t :: queue)) :
    InvAt (s.onClose t queue) place := by
  have hr := h.still (by rw [hd]; nofun)
  refine h.of_place h.places (fun _ => hr) ?_ fun o ho => ⟨ho, rfl, rfl⟩
  rw [hd]
  unfold ConnectionSweep.onClose
  split <;> exact List.subset_cons_self t queue

theorem closeTimeout {queue : List TimeOut} (h : InvAt s place) (hd : s.detect = .closing o queue)
    (hs : s.closeTimeout o queue bZero = some s') : InvAt s' place := by
  obtain ⟨con, hcon, rfl⟩ := Option.map_eq_some_iff.mp hs
  obtain ⟨hp, hr, hk⟩ := h.places.close hcon
  have hr' := h.still (by rw [hd]; nofun)
  refine h.of_place hp (fun _ => hr.trans hr') ?_ fun o ho => ⟨(hk o ho).1, (hk o ho).2, rfl⟩
  rw [hd]
  dsimp only
  split <;> exact List.Subset.refl _

/-- While released connections are recycled, there is no timeout left that could be about one. -/
theorem of_travelling (hd : s.detect = .travelling) (hp : PlaceInv c' place') :
    InvAt { s with con := c' } place' := by
  refine ⟨hp, fun hn => absurd hd hn, fun t ht => ?_⟩
  rw [hd] at ht
  cases ht

theorem step {a : SweepAct} (h : InvAt s place) (hs : s.step a = some s') : ∃ place', InvAt s' place' := by
  cases a with
  | getFree => exact h.getFree hs
  | build o sock => exact h.build hs
  | established i => exact ⟨place, h.established hs⟩
  | close o bZero =>
    obtain ⟨con, hcon, rfl⟩ := Option.map_eq_some_iff.mp hs
    obtain ⟨hp, hr, hk⟩ := h.places.close hcon
    exact ⟨place, h.keeps hp hr hk⟩
  | release o => exact h.release hs
  | detect bTimeout =>
    obtain ⟨hd, ⟨⟩⟩ := Option.ite_none_right_eq_some.mp hs
    exact ⟨place, h.detect hd bTimeout⟩
  | onClose =>
    simp only [ConnectionSweep.step] at hs
    split at hs <;> cases hs
    case h_1 hd => exact ⟨place, h.onClose hd⟩
  | closeTimeout bZero =>
    simp only [ConnectionSweep.step] at hs
    split at hs
    case h_1 hd => exact ⟨place, h.closeTimeout hd hs⟩
    case h_2 => cases hs
  | travel =>
    obtain ⟨hd, ⟨⟩⟩ := Option.ite_none_right_eq_some.mp hs
    exact ⟨place, h.places, fun hn => absurd rfl hn, nofun⟩
  | addFree o =>
    obtain ⟨hd, hs⟩ := Option.ite_none_right_eq_some.mp hs
    obtain ⟨con, hcon, rfl⟩ := Option.map_eq_some_iff.mp hs
    obtain ⟨place', hp⟩ := h.places.addFree hcon
    exact ⟨place', of_travelling hd hp⟩
  | eraseReleased =>
    obtain ⟨hd, hs⟩ := Option.ite_none_right_eq_some.mp hs
    obtain ⟨con, hcon, rfl⟩ := Option.map_eq_some_iff.mp hs
    exact ⟨place, of_travelling hd (h.places.eraseReleased hcon)⟩
  | wait =>
    obtain ⟨⟨hd, hr⟩, ⟨⟩⟩ := Option.ite_none_right_eq_some.mp hs
    exact ⟨place, h.places, fun _ => hr, nofun⟩

end InvAt

/-- The invariant holds in every interleaving of the detection thread and the others. -/
theorem inv_of_reachable (h : Reachable step start s) : ∃ place, InvAt s place := by
  induction h with
  | init => exact ⟨_, InvAt.start⟩
  | step a _ hs ih =>
    obtain ⟨place, hi⟩ := ih
    exact hi.step hs

/-- A connection that is passed to the close callback still has the index it was collected with, and
`GetFreeConnectionObj` has not handed it out since. -/
theorem closes_collected {t : TimeOut} {queue : List TimeOut} (h : Reachable step start s)
    (hd : s.detect = .sweeping (t :: queue)) :
    s.con.uiConnectionIndex t.pCon = t.uiConnectionIndex ∧ s.handed t.pCon = t.handed := by
  obtain ⟨place, hi⟩ := inv_of_reachable h
  have ht : t ∈ s.detect.queue := by
    rw [hd]
    exact List.mem_cons_self
  exact (hi.queue t ht).2

/-- Two connections have timed out. One is closed and released by another thread before the sweep reaches it, and
a third connection gets another object. -/
theorem closes_collected_released : ∃ s :
    ConnectionSweep, s.con.nState 0 = .closed ∧ s.con.listReleasedConnections = [0] ∧
    s.con.uiConnectionIndex 0 = 1 ∧ s.handed 0 = 1 := by
  obtain ⟨s, hs⟩ : ∃ s, runSteps step start
      [.getFree, .build 0 7, .build 0 7, .build 0 7, .build 0 7, .established 0,
        .getFree, .build 1 8, .build 1 8, .build 1 8, .build 1 8, .established 0,
        .detect fun _ => true, .close 0 true, .release 0, .getFree, .build 2 9, .release 0] = some s := ⟨_, rfl⟩
  have hd : s.detect = .sweeping [⟨0, 1, 1⟩, ⟨1, 2, 1⟩] := by
    cases hs
    rfl
  have hc := closes_collected (Reachable.of_runSteps hs) hd
  refine ⟨s, ?_, ?_, hc⟩ <;> cases hs <;> rfl

end ConnectionSweep

end KonsanNet
