import KonsanNet.Run
import Mathlib.Tactic
import Mathlib.Data.List.AList

/-!
# The I/O statistics (`CXIOStat`)

The statistics hold a node for each mark and id: the begin time of an operation, or its duration once it has
ended. `IOHistory` is what they stand for: the operations begun and not ended, and the durations of those that
ended or were pushed since the last round. One node cannot stand for two operations, so an operation that ended
is lost when its id is used again before the next round, a duration is taken for a begin time by a second
`EndIOStat`, and the first push of a mark stores `true`. `Output` starts its minimum and its maximum at 0. The
runs without all this are exact (`rounds_exact`).

The model is of statistics that run (`m_bRunning`). A round reports mark by mark; the order of the marks is left
open.
-/

namespace KonsanNet

structure IOStatTimeNode where
  iUsedTime : Int
  bEnd : Bool
deriving DecidableEq

/-- The nodes of one mark, by id. -/
abbrev IOStatMap := AList fun _ : String => IOStatTimeNode

/-- A value stored in an `int64`. -/
def int64 (n : Int) : Int := Int.bmod n (2 ^ 64)

def InInt64 (n : Int) : Prop := -2 ^ 63 ≤ n ∧ n < 2 ^ 63

theorem int64_of_inInt64 {n : Int} (h : InInt64 n) : int64 n = n := by
  unfold InInt64 at h
  exact Int.bmod_eq_of_le (by omega) (by omega)

/-- The numbers of a line that `Output` logs. -/
structure IOStatReport where
  iNumber : Int
  iAvgTime : Int
  iMinTime : Int
  iMaxTime : Int
deriving DecidableEq

/-- The locals of `Output` for one mark. -/
structure IOStatRound where
  iNumber : Int
  iTotalTime : Int
  iMinTime : Int
  iMaxTime : Int
  oldMap : IOStatMap

namespace IOStatRound

def start : IOStatRound := ⟨0, 0, 0, 0, ∅⟩

/-- One round of the inner loop. -/
def visit (r : IOStatRound) (itMark : Sigma fun _ : String => IOStatTimeNode) : IOStatRound :=
  if itMark.2.bEnd then
    { r with
      iMinTime := if r.iMinTime > itMark.2.iUsedTime then itMark.2.iUsedTime else r.iMinTime
      iMaxTime := if r.iMaxTime < itMark.2.iUsedTime then itMark.2.iUsedTime else r.iMaxTime
      iNumber := r.iNumber + 1
      iTotalTime := int64 (r.iTotalTime + itMark.2.iUsedTime) }
  else { r with oldMap := r.oldMap.insert itMark.1 itMark.2 }

def ofMap (map : IOStatMap) : IOStatRound := map.entries.foldl visit start

def report (r : IOStatRound) : IOStatReport where
  iNumber := r.iNumber
  iAvgTime := if r.iNumber > 0 then r.iTotalTime.tdiv r.iNumber else 0
  iMinTime := r.iMinTime
  iMaxTime := r.iMaxTime

end IOStatRound

/-- `CXIOStat`, with the reports of its last round. -/
structure CXIOStat where
  mapStat : String → Option IOStatMap
  reports : String → Option IOStatReport

namespace CXIOStat

def construct : CXIOStat := ⟨fun _ => none, fun _ => none⟩

/-- `m_mapStat[strFlag][strIOGuid] = node` -/
def setNode (s : CXIOStat) (strFlag strIOGuid : String) (map : IOStatMap) (node : IOStatTimeNode) : CXIOStat :=
  { s with mapStat := Function.update s.mapStat strFlag (some (map.insert strIOGuid node)) }

def beginIOStat (strFlag strIOGuid : String) (iTimeMS : Int) (s : CXIOStat) : CXIOStat :=
  match s.mapStat strFlag with
  | some map => s.setNode strFlag strIOGuid map ⟨iTimeMS, false⟩
  | none => s.setNode strFlag strIOGuid ∅ ⟨iTimeMS, false⟩

def endIOStat (strFlag strIOGuid : String) (iTimeMS : Int) (s : CXIOStat) : CXIOStat :=
  match s.mapStat strFlag with
  | some map =>
    match map.lookup strIOGuid with
    | some node => s.setNode strFlag strIOGuid map ⟨int64 (iTimeMS - node.iUsedTime), true⟩
    | none => s
  | none => s

/-- The node of a new mark gets `true`, that is 1, for its time. -/
def pushIOStat (strFlag strIOGuid : String) (iUsedTimeMS : Int) (s : CXIOStat) : CXIOStat :=
  match s.mapStat strFlag with
  | some map => s.setNode strFlag strIOGuid map ⟨iUsedTimeMS, true⟩
  | none => s.setNode strFlag strIOGuid ∅ ⟨1, true⟩

/-- A round of `Output`. -/
def output (s : CXIOStat) : CXIOStat where
  mapStat strFlag := (s.mapStat strFlag).map fun map => (IOStatRound.ofMap map).oldMap
  reports strFlag := (s.mapStat strFlag).map fun map => (IOStatRound.ofMap map).report

inductive Act
  | begin (strFlag strIOGuid : String) (iTimeMS : Int)
  | end (strFlag strIOGuid : String) (iTimeMS : Int)
  | push (strFlag strIOGuid : String) (iUsedTimeMS : Int)
  | output

def next (s : CXIOStat) : Act → CXIOStat
  | .begin strFlag strIOGuid iTimeMS => s.beginIOStat strFlag strIOGuid iTimeMS
  | .end strFlag strIOGuid iTimeMS => s.endIOStat strFlag strIOGuid iTimeMS
  | .push strFlag strIOGuid iUsedTimeMS => s.pushIOStat strFlag strIOGuid iUsedTimeMS
  | .output => s.output

end CXIOStat

/-! ### What the statistics are of -/

/-- The operations, by mark: the latest begin time of those begun and not ended, by id, and the durations of those
that ended or were pushed since the last round. -/
structure IOHistory where
  marked : String → Bool
  begun : String → String → Option Int
  done : String → List Int

namespace IOHistory

def empty : IOHistory := ⟨fun _ => false, fun _ _ => none, fun _ => []⟩

def setBegun (h : IOHistory) (strFlag strIOGuid : String) (b : Option Int) : IOHistory :=
  { h with begun := Function.update h.begun strFlag (Function.update (h.begun strFlag) strIOGuid b) }

def addDone (h : IOHistory) (strFlag : String) (d : Int) : IOHistory :=
  { h with done := Function.update h.done strFlag (d :: h.done strFlag) }

def mark (h : IOHistory) (strFlag : String) : IOHistory :=
  { h with marked := Function.update h.marked strFlag true }

def next (h : IOHistory) : CXIOStat.Act → IOHistory
  | .begin strFlag strIOGuid iTimeMS => (h.mark strFlag).setBegun strFlag strIOGuid (some iTimeMS)
  | .end strFlag strIOGuid iTimeMS =>
    match h.begun strFlag strIOGuid with
    | some b => (h.addDone strFlag (iTimeMS - b)).setBegun strFlag strIOGuid none
    | none => h
  | .push strFlag _ iUsedTimeMS => (h.mark strFlag).addDone strFlag iUsedTimeMS
  | .output => { h with done := fun _ => [] }

end IOHistory

namespace CXIOStat

/-- The statistics next to their history. -/
def step (s : CXIOStat × IOHistory) (a : Act) : Option (CXIOStat × IOHistory) := some (s.1.next a, s.2.next a)

def start : CXIOStat × IOHistory := (construct, .empty)

/-- A report on the durations `ds`: their number, and where there are any their average, minimum and maximum. -/
structure Exact (r : IOStatReport) (ds : List Int) : Prop where
  number : r.iNumber = ds.length
  avg : ds ≠ [] → r.iAvgTime = ds.sum.tdiv ds.length
  min : ∀ d, ds.min? = some d → r.iMinTime = d
  max : ∀ d, ds.max? = some d → r.iMaxTime = d

/-- The round that `Output` makes in the state: it reports each mark, exactly, and keeps the operations begun
and not ended. -/
structure RoundOk (s : CXIOStat) (h : IOHistory) : Prop where
  marks : ∀ m, (s.output.reports m).isSome = h.marked m
  exact : ∀ m r, s.output.reports m = some r → Exact r (h.done m)
  kept : ∀ m map, s.output.mapStat m = some map → ∀ id node,
    map.lookup id = some node ↔ ∃ b, h.begun m id = some b ∧ node = ⟨b, false⟩

/-- The durations among some nodes. -/
def ends (l : List (Sigma fun _ : String => IOStatTimeNode)) : List Int :=
  (l.filter fun e => e.2.bEnd).map fun e => e.2.iUsedTime

def ended (map : IOStatMap) : List Int := ends map.entries

/-- An operation of the mark and id has ended since the last round. -/
def HasEnded (s : CXIOStat) (strFlag strIOGuid : String) : Prop :=
  ∃ map d, s.mapStat strFlag = some map ∧ map.lookup strIOGuid = some ⟨d, true⟩

/-- No id is begun, ended or pushed that has ended since the last round; a push is not of an id that is begun,
and the first of its mark pushes 1. In each round, of the durations of a mark one is not positive and one is not
negative. Durations and totals are `int64`s. -/
def StepOk (s : CXIOStat × IOHistory) : Act → Prop
  | .begin strFlag strIOGuid _ => ¬ s.1.HasEnded strFlag strIOGuid
  | .end strFlag strIOGuid iTimeMS => ¬ s.1.HasEnded strFlag strIOGuid ∧
      ∀ map node, s.1.mapStat strFlag = some map → map.lookup strIOGuid = some node →
        InInt64 (iTimeMS - node.iUsedTime)
  | .push strFlag strIOGuid iUsedTimeMS =>
    match s.1.mapStat strFlag with
    | some map => map.lookup strIOGuid = none
    | none => iUsedTimeMS = 1
  | .output => ∀ m map, s.1.mapStat m = some map → ended map ≠ [] →
      (∃ d ∈ ended map, d ≤ 0) ∧ (∃ d ∈ ended map, 0 ≤ d) ∧ InInt64 (ended map).sum

/-! ### The loop of a round -/

theorem ends_cons_ended {e : Sigma fun _ : String => IOStatTimeNode} (he : e.2.bEnd = true)
    (l : List (Sigma fun _ : String => IOStatTimeNode)) : ends (e :: l) = e.2.iUsedTime :: ends l := by
  simp [ends, he]

theorem ends_cons_begun {e : Sigma fun _ : String => IOStatTimeNode} (he : ¬ e.2.bEnd = true)
    (l : List (Sigma fun _ : String => IOStatTimeNode)) : ends (e :: l) = ends l := by
  simp [ends, he]

theorem inInt64_int64 (n : Int) : InInt64 (int64 n) := by
  have h1 := Int.le_bmod (x := n) (m := 2 ^ 64) (by norm_num)
  have h2 := Int.bmod_lt (x := n) (m := 2 ^ 64) (by norm_num)
  unfold InInt64 int64
  omega

open IOStatRound in
/-- What the loop has computed behind the nodes `l`. -/
theorem foldl_visit (l : List (Sigma fun _ : String => IOStatTimeNode)) (r : IOStatRound)
    (hr : InInt64 r.iTotalTime) :
    (l.foldl visit r).iNumber = r.iNumber + (ends l).length ∧
      (l.foldl visit r).iTotalTime = int64 (r.iTotalTime + (ends l).sum) ∧
      (l.foldl visit r).iMinTime = (ends l).foldl min r.iMinTime ∧
      (l.foldl visit r).iMaxTime = (ends l).foldl max r.iMaxTime := by
  induction l generalizing r with
  | nil => exact ⟨(Int.add_zero _).symm, by simp [ends, int64_of_inInt64 hr], rfl, rfl⟩
  | cons e l ih =>
    rw [List.foldl_cons]
    by_cases he : e.2.bEnd = true
    · have hv : visit r e = { r with
          iMinTime := min r.iMinTime e.2.iUsedTime
          iMaxTime := max r.iMaxTime e.2.iUsedTime
          iNumber := r.iNumber + 1
          iTotalTime := int64 (r.iTotalTime + e.2.iUsedTime) } := by
        unfold visit
        rw [if_pos he]
        congr 1
        · grind
        · grind
      obtain ⟨h1, h2, h3, h4⟩ := ih (visit r e) (by rw [hv]; exact inInt64_int64 _)
      rw [h1, h2, h3, h4, ends_cons_ended he, hv]
      refine ⟨?_, ?_, rfl, rfl⟩
      · rw [List.length_cons]
        push_cast
        omega
      · rw [List.sum_cons, ← Int.add_assoc]
        exact Int.bmod_add_bmod
    · have hv : visit r e = { r with oldMap := r.oldMap.insert e.1 e.2 } := by
        unfold visit
        rw [if_neg he]
      obtain ⟨h1, h2, h3, h4⟩ := ih (visit r e) (by rw [hv]; exact hr)
      rw [h1, h2, h3, h4, ends_cons_begun he, hv]
      exact ⟨rfl, rfl, rfl, rfl⟩

open IOStatRound in
theorem lookup_foldl_visit {l : List (Sigma fun _ : String => IOStatTimeNode)} (hnd : l.NodupKeys)
    (r : IOStatRound) (id : String) :
    (l.foldl visit r).oldMap.lookup id =
      ((l.dlookup id).filter fun node => !node.bEnd).or (r.oldMap.lookup id) := by
  induction l generalizing r with
  | nil => simp
  | cons e l ih =>
    obtain ⟨hnot, hnd⟩ := List.nodupKeys_cons.mp hnd
    rw [List.foldl_cons, ih hnd]
    by_cases hid : id = e.1
    · subst hid
      have hnone : l.dlookup e.1 = none := List.dlookup_eq_none.mpr hnot
      rw [hnone, List.dlookup_cons_eq]
      unfold visit
      by_cases he : e.2.bEnd = true
      · simp [Option.filter, he]
      · simp [Option.filter, he, AList.lookup_insert]
    · rw [List.dlookup_cons_ne _ _ hid]
      congr 1
      unfold visit
      split
      · rfl
      · exact AList.lookup_insert_ne hid

theorem lookup_oldMap (map : IOStatMap) (id : String) (node : IOStatTimeNode) :
    (IOStatRound.ofMap map).oldMap.lookup id = some node ↔ map.lookup id = some node ∧ node.bEnd = false := by
  have h := lookup_foldl_visit map.nodupKeys .start id
  have hor : (IOStatRound.ofMap map).oldMap.lookup id = (map.lookup id).filter fun node => !node.bEnd := by
    refine h.trans ?_
    exact Option.or_none
  rw [hor]
  simp

theorem ended_oldMap (map : IOStatMap) : ended (IOStatRound.ofMap map).oldMap = [] := by
  unfold ended ends
  rw [List.map_eq_nil_iff, List.filter_eq_nil_iff]
  intro e he hend
  have hlookup := AList.mem_lookup_iff.mpr he
  rw [((lookup_oldMap map e.1 e.2).mp hlookup).2] at hend
  cases hend

/-- A report on nodes whose durations are an `int64` in total, and lie around 0. -/
theorem exact_report {map : IOStatMap} {ds : List Int} (hperm : ds.Perm (ended map))
    (hok : ended map ≠ [] → (∃ d ∈ ended map, d ≤ 0) ∧ (∃ d ∈ ended map, 0 ≤ d) ∧ InInt64 (ended map).sum) :
    Exact (IOStatRound.ofMap map).report ds := by
  obtain ⟨hnum, htot, hmin, hmax⟩ := foldl_visit map.entries .start ⟨by norm_num [IOStatRound.start], by
    norm_num [IOStatRound.start]⟩
  change (IOStatRound.ofMap map).iNumber = 0 + ((ended map).length : Int) at hnum
  change (IOStatRound.ofMap map).iTotalTime = int64 (0 + (ended map).sum) at htot
  change (IOStatRound.ofMap map).iMinTime = (ended map).foldl min 0 at hmin
  change (IOStatRound.ofMap map).iMaxTime = (ended map).foldl max 0 at hmax
  rw [Int.zero_add] at hnum htot
  have hne {d : Int} (hd : d ∈ ds) : ended map ≠ [] := List.ne_nil_of_mem (hperm.mem_iff.mp hd)
  constructor
  · show (IOStatRound.ofMap map).iNumber = _
    rw [hnum, hperm.length_eq]
  · intro hds
    have hended : ended map ≠ [] := fun hc => hds (List.Perm.eq_nil (hc ▸ hperm))
    have hpos : 0 < ((ended map).length : Int) := by
      have := List.length_pos_iff.mpr hended
      omega
    show (if (IOStatRound.ofMap map).iNumber > 0 then _ else _) = _
    rw [hnum, if_pos hpos, htot, int64_of_inInt64 (hok hended).2.2, hperm.length_eq, hperm.sum_eq]
  · intro d hd
    obtain ⟨hmem, hle⟩ := List.min?_eq_some_iff.mp hd
    obtain ⟨⟨x, hx, hx0⟩, -, -⟩ := hok (hne hmem)
    have hmin? : (ended map).min? = some d :=
      List.min?_eq_some_iff.mpr ⟨hperm.mem_iff.mp hmem, fun y hy => hle y (hperm.mem_iff.mpr hy)⟩
    have hd0 : d ≤ 0 := (hle x (hperm.mem_iff.mpr hx)).trans hx0
    show (IOStatRound.ofMap map).iMinTime = d
    rw [hmin, List.foldl_min, hmin?]
    exact min_eq_right hd0
  · intro d hd
    obtain ⟨hmem, hle⟩ := List.max?_eq_some_iff.mp hd
    obtain ⟨-, ⟨x, hx, hx0⟩, -⟩ := hok (hne hmem)
    have hmax? : (ended map).max? = some d :=
      List.max?_eq_some_iff.mpr ⟨hperm.mem_iff.mp hmem, fun y hy => hle y (hperm.mem_iff.mpr hy)⟩
    have hd0 : 0 ≤ d := hx0.trans (hle x (hperm.mem_iff.mpr hx))
    show (IOStatRound.ofMap map).iMaxTime = d
    rw [hmax, List.foldl_max, hmax?]
    exact max_eq_right hd0

/-! ### The statistics agree with the history -/

/-- The nodes of a mark, none for a new mark. -/
def nodes (s : CXIOStat) (strFlag : String) : IOStatMap := (s.mapStat strFlag).getD ∅

structure Agrees (s : CXIOStat) (h : IOHistory) : Prop where
  marks : ∀ m, (s.mapStat m).isSome = h.marked m
  begun : ∀ m id b, h.begun m id = some b ↔ (s.nodes m).lookup id = some ⟨b, false⟩
  done : ∀ m, (h.done m).Perm (ended (s.nodes m))

variable {s : CXIOStat} {h : IOHistory} {m id : String} {node : IOStatTimeNode}

theorem agrees_start : Agrees construct .empty where
  marks _ := rfl
  begun _ _ _ := by simp [IOHistory.empty, nodes, construct]
  done _ := .refl _

theorem nodes_setNode (map : IOStatMap) (m' : String) :
    (s.setNode m id map node).nodes m' = if m' = m then map.insert id node else s.nodes m' := by
  unfold nodes setNode
  by_cases hm : m' = m
  · subst hm
    simp
  · simp [hm]

theorem hasEnded_iff : s.HasEnded m id ↔ ∃ d, (s.nodes m).lookup id = some ⟨d, true⟩ := by
  unfold HasEnded nodes
  cases hm : s.mapStat m with
  | none => simp
  | some map => simp

/-- Where no operation of the id has ended, its new node is the only one. -/
theorem ended_insert {map : IOStatMap} (hnot : ∀ d, map.lookup id ≠ some ⟨d, true⟩) :
    ended (map.insert id node) = if node.bEnd then node.iUsedTime :: ended map else ended map := by
  have herase : ends (map.entries.kerase id) = ended map := by
    have hfilter : ∀ l : List (Sigma fun _ : String => IOStatTimeNode), (∀ e ∈ l, e.1 = id → e.2.bEnd = false) →
        ends (l.kerase id) = ends l := by
      intro l hl
      induction l with
      | nil => rfl
      | cons e l ih =>
        have ih := ih fun e' he => hl e' (List.mem_cons_of_mem _ he)
        by_cases he : id = e.1
        · have hbegun : ¬ e.2.bEnd = true := by simp [hl e (List.mem_cons_self ..) he.symm]
          rw [List.kerase_cons_eq he, ends_cons_begun hbegun]
        · rw [List.kerase_cons_ne he]
          by_cases hend : e.2.bEnd = true
          · rw [ends_cons_ended hend, ends_cons_ended hend, ih]
          · rw [ends_cons_begun hend, ends_cons_begun hend, ih]
    refine hfilter _ fun e he hid => ?_
    by_contra hend
    have hlookup := AList.mem_lookup_iff.mpr he
    rw [hid] at hlookup
    refine hnot e.2.iUsedTime (hlookup.trans ?_)
    rw [← Bool.eq_true_of_not_eq_false hend]
  unfold ended at herase ⊢
  rw [AList.entries_insert]
  split
  · rename_i hend
    rw [ends_cons_ended hend, herase]
  · rename_i hend
    rw [ends_cons_begun hend, herase]

/-- What storing a node means for the history. -/
def record (h : IOHistory) (m id : String) (node : IOStatTimeNode) : IOHistory :=
  if node.bEnd then ((h.mark m).addDone m node.iUsedTime).setBegun m id none
  else (h.mark m).setBegun m id (some node.iUsedTime)

theorem begun_setBegun {b : Option Int} (m' id' : String) :
    (h.setBegun m id b).begun m' id' = if m' = m ∧ id' = id then b else h.begun m' id' := by
  unfold IOHistory.setBegun
  by_cases hm : m' = m
  · subst hm
    by_cases hid : id' = id
    · subst hid
      simp
    · simp [hid]
  · simp [hm]

theorem Agrees.setNode (hA : Agrees s h) (hnot : ¬ s.HasEnded m id) :
    Agrees (s.setNode m id (s.nodes m) node) (record h m id node) := by
  have hnot' : ∀ d, (s.nodes m).lookup id ≠ some ⟨d, true⟩ := fun d hd => hnot (hasEnded_iff.mpr ⟨d, hd⟩)
  constructor
  · intro m'
    have hrec : (record h m id node).marked = Function.update h.marked m true := by
      unfold record
      split <;> rfl
    unfold CXIOStat.setNode
    rw [hrec]
    by_cases hm : m' = m
    · subst hm
      simp
    · simp [hm, hA.marks m']
  · intro m' id' b
    have hrec : (record h m id node).begun m' id' =
        if m' = m ∧ id' = id then (if node.bEnd then none else some node.iUsedTime) else h.begun m' id' := by
      unfold record
      split <;> exact begun_setBegun m' id'
    rw [hrec, nodes_setNode]
    by_cases hm : m' = m
    · subst hm
      by_cases hid : id' = id
      · subst hid
        rw [if_pos ⟨rfl, rfl⟩, if_pos rfl, AList.lookup_insert]
        obtain ⟨used, fin⟩ := node
        cases fin with
        | true => simp
        | false => simp
      · rw [if_neg fun hc => hid hc.2, if_pos rfl, AList.lookup_insert_ne hid]
        exact hA.begun m' id' b
    · rw [if_neg fun hc => hm hc.1, if_neg hm]
      exact hA.begun m' id' b
  · intro m'
    rw [nodes_setNode]
    by_cases hm : m' = m
    · subst hm
      rw [if_pos rfl, ended_insert hnot']
      unfold record
      split
      · simpa [IOHistory.setBegun, IOHistory.addDone, IOHistory.mark] using hA.done m'
      · exact hA.done m'
    · rw [if_neg hm]
      have hrec : (record h m id node).done m' = h.done m' := by
        unfold record
        split
        · simp [IOHistory.setBegun, IOHistory.addDone, IOHistory.mark, hm]
        · rfl
      rw [hrec]
      exact hA.done m'

theorem Agrees.output (hA : Agrees s h) : Agrees s.output (h.next .output) := by
  have hnodes (m : String) : s.output.nodes m = (IOStatRound.ofMap (s.nodes m)).oldMap := by
    have hout : s.output.mapStat m = (s.mapStat m).map fun map => (IOStatRound.ofMap map).oldMap := rfl
    unfold nodes
    rw [hout]
    cases s.mapStat m with
    | none => rfl
    | some map => rfl
  constructor
  · intro m
    rw [show (h.next .output).marked = h.marked from rfl, ← hA.marks m]
    exact Option.isSome_map
  · intro m id b
    rw [hnodes, lookup_oldMap]
    exact (hA.begun m id b).trans (by simp)
  · intro m
    rw [hnodes, ended_oldMap]
    exact .refl _

theorem Agrees.roundOk (hA : Agrees s h) (hok : StepOk (s, h) .output) : RoundOk s h := by
  have hnodes {m : String} {map : IOStatMap} (hm : s.mapStat m = some map) : s.nodes m = map := by
    rw [nodes, hm]
    rfl
  constructor
  · intro m
    rw [← hA.marks m]
    exact Option.isSome_map
  · intro m r hr
    obtain ⟨map, hm, rfl⟩ := Option.map_eq_some_iff.mp hr
    exact exact_report (hnodes hm ▸ hA.done m) (hok m map hm)
  · intro m map hmap id node
    obtain ⟨map, hm, rfl⟩ := Option.map_eq_some_iff.mp hmap
    rw [lookup_oldMap]
    constructor
    · rintro ⟨hlookup, hend⟩
      obtain ⟨used, fin⟩ := node
      cases hend
      exact ⟨used, (hA.begun m id used).mpr (hnodes hm ▸ hlookup), rfl⟩
    · rintro ⟨b, hb, rfl⟩
      exact ⟨hnodes hm ▸ (hA.begun m id b).mp hb, rfl⟩

theorem Agrees.begin (hA : Agrees s h) {t : Int} (hok : StepOk (s, h) (.begin m id t)) :
    Agrees (s.beginIOStat m id t) (h.next (.begin m id t)) := by
  have hrun : s.beginIOStat m id t = s.setNode m id (s.nodes m) ⟨t, false⟩ := by
    unfold beginIOStat nodes
    cases s.mapStat m with
    | none => rfl
    | some map => rfl
  rw [hrun]
  exact hA.setNode hok

theorem Agrees.end (hA : Agrees s h) {t : Int} (hok : StepOk (s, h) (.end m id t)) :
    Agrees (s.endIOStat m id t) (h.next (.end m id t)) := by
  cases hl : (s.nodes m).lookup id with
  | none =>
    have hbegun : h.begun m id = none := by
      refine Option.eq_none_iff_forall_ne_some.mpr fun b hb => ?_
      rw [(hA.begun m id b).mp hb] at hl
      cases hl
    have hnext : h.next (.end m id t) = h := by simp only [IOHistory.next, hbegun]
    have hrun : s.endIOStat m id t = s := by
      unfold endIOStat
      unfold nodes at hl
      cases hm : s.mapStat m with
      | none => rfl
      | some map =>
        rw [hm] at hl
        have hl : map.lookup id = none := hl
        simp only [hl]
    rw [hrun, hnext]
    exact hA
  | some node =>
    obtain ⟨b, fin⟩ := node
    cases fin with
    | true => exact absurd (hasEnded_iff.mpr ⟨b, hl⟩) hok.1
    | false =>
      have hbegun := (hA.begun m id b).mpr hl
      obtain ⟨map, hm⟩ : ∃ map, s.mapStat m = some map := by
        refine Option.ne_none_iff_exists'.mp fun hm => ?_
        rw [nodes, hm] at hl
        cases hl
      have hmap : s.nodes m = map := by
        rw [nodes, hm]
        rfl
      rw [hmap] at hl
      have hrun : s.endIOStat m id t = s.setNode m id (s.nodes m) ⟨t - b, true⟩ := by
        unfold endIOStat
        simp only [hm, hl, hmap]
        rw [int64_of_inInt64 (hok.2 map _ hm hl)]
      have hmarked : h.mark m = h := by
        have := hA.marks m
        rw [hm] at this
        unfold IOHistory.mark
        rw [← show h.marked m = true from this.symm, Function.update_eq_self]
      have hnext : h.next (.end m id t) = record h m id ⟨t - b, true⟩ := by
        simp only [IOHistory.next, record, hbegun, hmarked, if_true]
      rw [hrun, hnext]
      exact hA.setNode hok.1

theorem Agrees.push (hA : Agrees s h) {used : Int} (hok : StepOk (s, h) (.push m id used)) :
    Agrees (s.pushIOStat m id used) (h.next (.push m id used)) := by
  have hnone : (s.nodes m).lookup id = none := by
    unfold StepOk at hok
    unfold nodes
    cases hm : s.mapStat m with
    | none => rfl
    | some map =>
      simp only [hm] at hok
      exact hok
  have hrun : s.pushIOStat m id used = s.setNode m id (s.nodes m) ⟨used, true⟩ := by
    unfold StepOk at hok
    unfold pushIOStat nodes
    cases hm : s.mapStat m with
    | none =>
      simp only [hm] at hok
      subst hok
      rfl
    | some map => rfl
  have hbegun : h.begun m id = none := by
    refine Option.eq_none_iff_forall_ne_some.mpr fun b hb => ?_
    rw [(hA.begun m id b).mp hb] at hnone
    cases hnone
  have hnext : h.next (.push m id used) = record h m id ⟨used, true⟩ := by
    have hset : Function.update h.begun m (Function.update (h.begun m) id none) = h.begun := by
      rw [← hbegun, Function.update_eq_self, Function.update_eq_self]
    unfold IOHistory.next record IOHistory.setBegun IOHistory.addDone IOHistory.mark
    simp only [if_true, hset]
  rw [hrun, hnext]
  refine hA.setNode fun hend => ?_
  obtain ⟨d, hd⟩ := hasEnded_iff.mp hend
  rw [hnone] at hd
  cases hd

theorem Agrees.next (hA : Agrees s h) {a : Act} (hok : StepOk (s, h) a) : Agrees (s.next a) (h.next a) := by
  cases a with
  | begin m id t => exact hA.begin hok
  | «end» m id t => exact hA.end hok
  | push m id used => exact hA.push hok
  | output => exact hA.output

/-- In every run whose steps meet the condition, each round reports exactly the operations that ended or were pushed
since the round before it, and keeps exactly those begun and not ended. -/
theorem rounds_exact {acts : List Act} (hok : EachStep step StepOk start acts) :
    EachStep step (fun s a => a = .output → RoundOk s.1 s.2) start acts := by
  have hround : ∀ (s : CXIOStat × IOHistory) a, Agrees s.1 s.2 → StepOk s a → a = .output → RoundOk s.1 s.2 := by
    intro s a hA hok ha
    subst ha
    exact hA.roundOk hok
  have hagrees : ∀ (s : CXIOStat × IOHistory) a s', Agrees s.1 s.2 → StepOk s a → step s a = some s' →
      Agrees s'.1 s'.2 := by
    intro s a s' hA hok hs
    cases hs
    exact hA.next hok
  exact EachStep.mono hround hagrees agrees_start hok

/-- An operation that takes no time, and one that is still going on in the round. -/
theorem rounds_exact_two : EachStep step (fun s a => a = .output → RoundOk s.1 s.2) start
    [.begin "total" "a" 5, .end "total" "a" 5, .begin "total" "b" 6, .output] := by
  refine rounds_exact ⟨fun hend => ?_, fun _ h => ?_⟩
  · obtain ⟨d, hd⟩ := hasEnded_iff.mp hend
    cases hd
  cases h
  refine ⟨⟨fun hend => ?_, fun map node hmap hnode => ?_⟩, fun _ h => ?_⟩
  · obtain ⟨d, hd⟩ := hasEnded_iff.mp hend
    cases hd
  · cases hmap
    cases hnode
    exact ⟨by norm_num, by norm_num⟩
  cases h
  refine ⟨fun hend => ?_, fun _ h => ?_⟩
  · obtain ⟨d, hd⟩ := hasEnded_iff.mp hend
    cases hd
  cases h
  refine ⟨fun m map hmap _ => ?_, fun _ _ => trivial⟩
  by_cases hm : m = "total"
  · subst hm
    cases hmap
    exact ⟨⟨0, by decide, le_rfl⟩, ⟨0, by decide, le_rfl⟩, by decide, by decide⟩
  · change Function.update (Function.update (Function.update (fun _ => none) "total" _) "total" _) "total" _ m =
      some map at hmap
    simp [hm] at hmap

/-- One operation of 50 milliseconds is reported with a minimum of 0. -/
theorem not_rounds_exact_min : ∃ s, runSteps step start [.begin "total" "a" 100, .end "total" "a" 150] = some s ∧
    s.2.done "total" = [50] ∧ s.1.output.reports "total" = some ⟨1, 50, 0, 50⟩ ∧ ¬ RoundOk s.1 s.2 := by
  refine ⟨_, rfl, by decide, by decide, fun h => ?_⟩
  have hexact := h.exact "total" ⟨1, 50, 0, 50⟩ (by decide)
  exact absurd (hexact.min 50 (by decide)) (by decide)

end CXIOStat

end KonsanNet
