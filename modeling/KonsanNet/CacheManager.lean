import Mathlib.Tactic
import Mathlib.Data.Nat.Log

/-!
# The table of memory caches (`CXMemoryCacheManager`)

`init` fills a table of 13 rows, row `i` holding caches whose objects have `256 * 2^i` bytes;
`getBuffer` picks the row by `calculateIndex`. `calculateIndex` halves `size / 256` down to one and
corrects by one only when `size % 256 ≠ 0`, so a multiple of 256 that is not a power of two times
256 is sent to the row below the one that would hold it (`capacityOk_iff`).
-/

namespace KonsanNet

/-- What the manager knows of a `CXElasticMemoryCache`: the arguments its two inner caches were
initialised with. -/
structure ElasticCache where
  dwObjectSize : Nat
  dwObjectNumber : Nat
  bInitAtOnce : Bool
deriving DecidableEq, Repr

/-- One entry of `m_ppCaches`: `none` is the `NULL` array, an inner `none` a `NULL` cache. -/
abbrev CacheRow := Option (List (Option ElasticCache))

structure CXMemoryCacheManager where
  ppCaches : List CacheRow
  dwInitCacheNumber : Nat
  uiMaxUsableMemorySize : Nat
  dwMaxObjectSize : Nat
  bRunning : Bool
deriving Repr

/-- Which of the allocations of one `init` run succeed: the cache array of a row, the `i`-th cache
of a row (its `new` and its `Initialize`), and the checking thread. -/
structure InitOutcome where
  newArray : Nat → Bool
  newCache : Nat → Nat → Bool
  startThread : Bool

/-- Every allocation succeeds. -/
def InitOutcome.allOk : InitOutcome := ⟨fun _ => true, fun _ _ => true, true⟩

/-- Which of the `GetObject` calls of one `getBuffer` run return an object. -/
structure GetOutcome where
  rand : Nat
  first : Bool
  haveObject : Nat → Bool
  object : Nat → Bool

namespace CXMemoryCacheManager

def maxCacheNumberInOneKind : Nat := 10
def cacheArraySize : Nat := 13

/-- `CXMemoryCacheManager(dwInitCacheNumber, uiMaxMemorySize, dwMaxObjectSize)`. -/
def construct (dwInitCacheNumber uiMaxMemorySize dwMaxObjectSize : Nat) : CXMemoryCacheManager where
  ppCaches := List.replicate cacheArraySize none
  dwInitCacheNumber := if dwInitCacheNumber > maxCacheNumberInOneKind then maxCacheNumberInOneKind
    else dwInitCacheNumber
  uiMaxUsableMemorySize := uiMaxMemorySize
  dwMaxObjectSize := if dwMaxObjectSize > 1024 * 1024 then 1024 * 1024 else dwMaxObjectSize
  bRunning := false

/-- `CXMemoryCacheManager()`. -/
def constructDefault : CXMemoryCacheManager where
  ppCaches := List.replicate cacheArraySize none
  dwInitCacheNumber := 4
  uiMaxUsableMemorySize := 1024 * 1024 * 1024
  dwMaxObjectSize := 1024 * 1024
  bRunning := false

/-- The loop `while (iValue > 1) { iValue >>= 1; iIndex++; }`. -/
def halvings (iValue iIndex : Nat) : Nat :=
  if iValue > 1 then halvings (iValue >>> 1) (iIndex + 1) else iIndex
termination_by iValue
decreasing_by simp only [Nat.shiftRight_one]; omega

def calculateIndex (dwObjectSize : Nat) : Nat :=
  let iValue := dwObjectSize / 256
  if iValue > 0 then
    let iIndex := halvings iValue 0
    if dwObjectSize % 256 ≠ 0 then iIndex + 1 else iIndex
  else 0

/-- `AllocCacheAndInit`: `none` when the `new` or the `Initialize` fails. -/
def allocCacheAndInit (ok : Bool) (dwObjectSize dwObjectNumber : Nat) (bInitAtOnce : Bool) :
    Option ElasticCache :=
  if ok then some ⟨dwObjectSize, dwObjectNumber, bInitAtOnce⟩ else none

/-- The first `NULL` entry below `dwInitCacheNumber` gets a new cache; `none` when that fails. -/
def fillFirstNull (n i : Nat) (new : Option ElasticCache) :
    List (Option ElasticCache) → Option (List (Option ElasticCache))
  | [] => some []
  | c :: cs =>
    if i < n then
      match c with
      | none => new.map fun x => some x :: cs
      | some x => (fillFirstNull n (i + 1) new cs).map (some x :: ·)
    else some (c :: cs)

/-- `AddCache`, with `iIndex = -1` standing for "compute the index from the size". -/
def addCache (o : InitOutcome) (m : CXMemoryCacheManager) (dwObjectSize dwObjectNumber : Nat)
    (iIndex : Int) (bInitAtOnce : Bool) : CXMemoryCacheManager × Int :=
  if iIndex > cacheArraySize ∨ dwObjectSize > m.uiMaxUsableMemorySize then (m, -1)
  else
    let iIndex := if iIndex = -1 then calculateIndex dwObjectSize else iIndex.toNat
    match m.ppCaches[iIndex]?.join with
    | none =>
      if !o.newArray iIndex then (m, -2)
      else if (List.range m.dwInitCacheNumber).all (o.newCache iIndex) then
        let ppArray := (List.range maxCacheNumberInOneKind).map fun i =>
          if i < m.dwInitCacheNumber then
            allocCacheAndInit (o.newCache iIndex i) dwObjectSize dwObjectNumber bInitAtOnce
          else none
        ({ m with ppCaches := m.ppCaches.set iIndex (some ppArray) }, 0)
      else (m, -2)
    | some ppArray =>
      match fillFirstNull m.dwInitCacheNumber 0
          (allocCacheAndInit (o.newCache iIndex 0) dwObjectSize dwObjectNumber bInitAtOnce) ppArray with
      | none => (m, -2)
      | some ppArray => ({ m with ppCaches := m.ppCaches.set iIndex (some ppArray) }, 0)

/-- The body of the row loop of `Init` for row `iIndex`; the configuration map is the list of its
entries in key order. -/
def initRow (o : InitOutcome) (iIndex : Nat) (m : CXMemoryCacheManager) (config : List (Nat × Nat)) :
    CXMemoryCacheManager × List (Nat × Nat) × Int :=
  if m.ppCaches[iIndex]?.join = none then
    let dwObjectSize := (1 <<< iIndex) * 256
    match config.find? fun kv => calculateIndex kv.1 = iIndex with
    | some kv =>
      let (m', iRet) := addCache o m dwObjectSize kv.2 iIndex true
      (m', config.erase kv, iRet)
    | none =>
      let (m', iRet) := addCache o m dwObjectSize (128 * (cacheArraySize - iIndex)) iIndex false
      (m', config, iRet)
  else (m, config, 0)

def initRows (o : InitOutcome) :
    List Nat → CXMemoryCacheManager → List (Nat × Nat) → CXMemoryCacheManager × Int
  | [], m, _ => (m, 0)
  | iIndex :: rows, m, config =>
    let (m', config', iRet) := initRow o iIndex m config
    if iRet ≠ 0 then (m', -2) else initRows o rows m' config'

/-- `Init(mapCacheConfig)`; 0 is `RETURN_SUCCEED`. -/
def init (o : InitOutcome) (m : CXMemoryCacheManager) (mapCacheConfig : List (Nat × Nat)) :
    CXMemoryCacheManager × Int :=
  let (m', iRet) := initRows o (List.range cacheArraySize) m mapCacheConfig
  if iRet ≠ 0 then (m', -2)
  else
    let m' := { m' with bRunning := true }
    if !o.startThread then (m', -3) else (m', 0)

/-- The configuration `CXCommunicationServer::Start` passes to `Init`. -/
def serverConfig : List (Nat × Nat) := [(256, 1024), (4096, 1024), (524288, 64), (1048576, 32)]

/-- `GetBuffer`, returning the cache the object comes from; `none` is `NULL`. -/
def getBuffer (o : GetOutcome) (m : CXMemoryCacheManager) (dwObjectSize : Nat) : Option ElasticCache :=
  if dwObjectSize > m.dwMaxObjectSize then none
  else
    match m.ppCaches[calculateIndex dwObjectSize]?.join with
    | none => none
    | some ppArray =>
      match ppArray[o.rand % m.dwInitCacheNumber]?.join with
      | none => none
      | some c =>
        if o.first then some c
        else (List.range m.dwInitCacheNumber).findSome? fun i =>
          match ppArray[i]?.join with
          | some c => if o.haveObject i && o.object i then some c else none
          | none => none

/-! ### `calculateIndex` -/

theorem halvings_eq (iValue iIndex : Nat) : halvings iValue iIndex = iIndex + Nat.log 2 iValue := by
  fun_induction halvings iValue iIndex with
  | case1 v i hv ih =>
    rw [ih, Nat.shiftRight_one, Nat.log_div_base]
    have : 0 < Nat.log 2 v := Nat.log_pos (by omega) (by omega)
    omega
  | case2 v i hv => rw [Nat.log_of_lt (by omega)]; omega

theorem calculateIndex_eq (s : Nat) :
    calculateIndex s = Nat.log 2 (s / 256) + if 256 ≤ s ∧ s % 256 ≠ 0 then 1 else 0 := by
  simp only [calculateIndex, halvings_eq]
  by_cases h : 256 ≤ s
  · have : s / 256 > 0 := by omega
    simp only [this, h, if_true, true_and]
    split <;> omega
  · have : s / 256 = 0 := by omega
    simp [this, h]

theorem calculateIndex_lt {s : Nat} (hs : s ≤ 1024 * 1024) : calculateIndex s < cacheArraySize := by
  rw [calculateIndex_eq]
  by_cases h : s = 1024 * 1024
  · subst h
    have : Nat.log 2 4096 = 12 := Nat.log_eq_of_pow_le_of_lt_pow (by norm_num) (by norm_num)
    norm_num [cacheArraySize, this]
  · have : Nat.log 2 (s / 256) < 12 := Nat.log_lt_of_lt_pow' (by norm_num) (by omega)
    simp only [cacheArraySize]
    split <;> omega

/-- The row of `s` has objects of at least `s` bytes exactly when `s` is no multiple of 256, or
256 times a power of two. -/
theorem le_rowSize_iff {s : Nat} (hs : 1 ≤ s) :
    s ≤ 256 * 2 ^ calculateIndex s ↔ ¬ 256 ∣ s ∨ ∃ k, s = 256 * 2 ^ k := by
  have hdm := Nat.div_add_mod s 256
  have hlt : s / 256 < 2 ^ (Nat.log 2 (s / 256) + 1) := Nat.lt_pow_succ_log_self (by norm_num) _
  rw [calculateIndex_eq]
  by_cases hd : 256 ∣ s
  · have hm : s % 256 = 0 := Nat.mod_eq_zero_of_dvd hd
    have hq : s / 256 ≠ 0 := by omega
    have hle := Nat.pow_log_le_self 2 hq
    simp only [hm, hd, not_true_eq_false, false_or, ne_eq, and_false, if_false, add_zero]
    constructor
    · intro h
      exact ⟨Nat.log 2 (s / 256), by omega⟩
    · rintro ⟨k, hk⟩
      have : s / 256 = 2 ^ k := by omega
      rw [this, Nat.log_pow (by norm_num)]; omega
  · have hm : s % 256 ≠ 0 := fun h => hd (Nat.dvd_of_mod_eq_zero h)
    simp only [hd, not_false_eq_true, true_or, iff_true]
    by_cases h : 256 ≤ s
    · simp only [h, hm, ne_eq, not_false_eq_true, and_self, if_true]; omega
    · have : s / 256 = 0 := by omega
      simp [h, this]; omega

/-! ### The table that `init` builds -/

/-- Row `i` as `init` builds it: its first `dwInitCacheNumber` entries are caches, the others are
`NULL`, and the objects of its caches have `256 * 2^i` bytes. -/
structure RowOk (m : CXMemoryCacheManager) (i : Nat) (row : List (Option ElasticCache)) : Prop where
  size : ∀ c, some c ∈ row → c.dwObjectSize = 256 * 2 ^ i
  full : ∀ j, j < m.dwInitCacheNumber → ∃ c, row[j]? = some (some c)
  null : m.dwInitCacheNumber = 0 → ∀ c, some c ∉ row

/-- Every row of the table in use is as `init` builds it. -/
def TableOk (m : CXMemoryCacheManager) : Prop :=
  ∀ i row, m.ppCaches[i]? = some (some row) → RowOk m i row

theorem rowOk_new {o : InitOutcome} {m : CXMemoryCacheManager} {num i : Nat} {b : Bool}
    (hn : m.dwInitCacheNumber ≤ maxCacheNumberInOneKind)
    (hall : (List.range m.dwInitCacheNumber).all (o.newCache i) = true) :
    RowOk m i ((List.range maxCacheNumberInOneKind).map fun j =>
      if j < m.dwInitCacheNumber then allocCacheAndInit (o.newCache i j) (256 * 2 ^ i) num b
      else none) := by
  have hmem : ∀ c, some c ∈ ((List.range maxCacheNumberInOneKind).map fun j =>
      if j < m.dwInitCacheNumber then allocCacheAndInit (o.newCache i j) (256 * 2 ^ i) num b
      else none) → 0 < m.dwInitCacheNumber ∧ c.dwObjectSize = 256 * 2 ^ i := by
    intro c hc
    obtain ⟨k, -, hk⟩ := List.mem_map.mp hc
    split at hk
    · unfold allocCacheAndInit at hk
      split at hk <;> cases hk
      exact ⟨by omega, rfl⟩
    · cases hk
  refine ⟨fun c hc => (hmem c hc).2, fun j hj => ?_, fun h0 c hc => ?_⟩
  · have hok : o.newCache i j = true := List.all_eq_true.mp hall j (List.mem_range.mpr hj)
    refine ⟨⟨256 * 2 ^ i, num, b⟩, ?_⟩
    simp [List.getElem?_range (Nat.lt_of_lt_of_le hj hn), hj, allocCacheAndInit, hok]
  · have := (hmem c hc).1; omega

theorem addCache_spec {o : InitOutcome} {m m' : CXMemoryCacheManager} {num i : Nat} {b : Bool}
    (hn : m.dwInitCacheNumber ≤ maxCacheNumberInOneKind)
    (hnone : m.ppCaches[i]?.join = none) (h : addCache o m (256 * 2 ^ i) num i b = (m', 0)) :
    ∃ row, m' = { m with ppCaches := m.ppCaches.set i (some row) } ∧ RowOk m i row := by
  unfold addCache at h
  split at h
  · cases h
  have hne : ¬ ((i : Int) = -1) := by omega
  simp only [hne, if_false, Int.toNat_natCast, hnone] at h
  split at h
  · cases h
  split at h
  · rename_i hall
    cases h
    exact ⟨_, rfl, rowOk_new hn hall⟩
  · cases h

/-- One row of `Init`: the row is built, the other rows and the limits stay. -/
theorem initRow_spec {o : InitOutcome} {m m' : CXMemoryCacheManager} {i : Nat}
    {config config' : List (Nat × Nat)}
    (hn : m.dwInitCacheNumber ≤ maxCacheNumberInOneKind) (hnone : m.ppCaches[i]?.join = none)
    (h : initRow o i m config = (m', config', 0)) :
    ∃ row, m' = { m with ppCaches := m.ppCaches.set i (some row) } ∧ RowOk m i row := by
  have hsize : (1 <<< i) * 256 = 256 * 2 ^ i := by rw [Nat.one_shiftLeft, Nat.mul_comm]
  unfold initRow at h
  simp only [hnone, if_true, hsize] at h
  split at h
  · obtain ⟨h1, h2⟩ := Prod.mk.inj h
    exact addCache_spec hn hnone (Prod.ext h1 (Prod.mk.inj h2).2)
  · obtain ⟨h1, h2⟩ := Prod.mk.inj h
    exact addCache_spec hn hnone (Prod.ext h1 (Prod.mk.inj h2).2)

theorem TableOk.set {m : CXMemoryCacheManager} {i : Nat} {row : List (Option ElasticCache)}
    (h : TableOk m) (hrow : RowOk m i row) :
    TableOk { m with ppCaches := m.ppCaches.set i (some row) } := by
  intro j row' hj
  by_cases hji : j = i
  · subst hji
    have hlt : j < m.ppCaches.length := by
      have := (List.getElem?_eq_some_iff.mp hj).1
      simpa using this
    rw [List.getElem?_set_self hlt] at hj
    cases hj
    exact ⟨hrow.size, hrow.full, hrow.null⟩
  · rw [List.getElem?_set_ne (Ne.symm hji)] at hj
    have := h j row' hj
    exact ⟨this.size, this.full, this.null⟩

/-- The row loop of `Init`: every row it visits, and every row in use before, is in use. -/
theorem initRows_spec {o : InitOutcome} {m' : CXMemoryCacheManager} :
    ∀ (rows : List Nat) (m : CXMemoryCacheManager) (config : List (Nat × Nat)),
      rows.Nodup → (∀ i ∈ rows, i < m.ppCaches.length ∧ m.ppCaches[i]?.join = none) →
      m.dwInitCacheNumber ≤ maxCacheNumberInOneKind → TableOk m →
      initRows o rows m config = (m', 0) →
      TableOk m' ∧ m'.dwMaxObjectSize = m.dwMaxObjectSize ∧
        ∀ i, i ∈ rows ∨ (m.ppCaches[i]?.join).isSome → (m'.ppCaches[i]?.join).isSome
  | [], m, config, _, _, _, hok, h => by
    cases h; exact ⟨hok, rfl, fun i hi => hi.resolve_left (by simp)⟩
  | i :: rows, m, config, hnd, hrows, hn, hok, h => by
    obtain ⟨hni, hnd⟩ := List.nodup_cons.mp hnd
    obtain ⟨hi, hnone⟩ := hrows i (List.mem_cons_self ..)
    obtain ⟨⟨m₁, config₁, iRet⟩, hr⟩ : ∃ r, initRow o i m config = r := ⟨_, rfl⟩
    simp only [initRows, hr] at h
    split at h
    · cases h
    rename_i hret
    rw [not_not.mp hret] at hr
    obtain ⟨row, rfl, hrow⟩ := initRow_spec hn hnone hr
    have hset : ∀ j, j ≠ i → (m.ppCaches.set i (some row))[j]? = m.ppCaches[j]? :=
      fun j hj => List.getElem?_set_ne (Ne.symm hj)
    have hself : (m.ppCaches.set i (some row))[i]? = some (some row) := List.getElem?_set_self hi
    obtain ⟨h1, h2, h3⟩ := initRows_spec rows
      { m with ppCaches := m.ppCaches.set i (some row) } config₁ hnd
      (fun j hj => by
        have hji : j ≠ i := fun e => hni (e ▸ hj)
        have := hrows j (List.mem_cons_of_mem _ hj)
        simp only [List.length_set, hset j hji]; exact this)
      hn (hok.set hrow) h
    refine ⟨h1, h2, fun j hj => h3 j ?_⟩
    by_cases hji : j = i
    · subst hji; exact Or.inr (by simp [hself])
    · rcases hj with hj | hj
      · exact Or.inl ((List.mem_cons.mp hj).resolve_left hji)
      · exact Or.inr (by rw [hset j hji]; exact hj)

/-- The managers the two constructors build: an empty table and a bounded object size. -/
def Constructed (m : CXMemoryCacheManager) : Prop :=
  m = constructDefault ∨ ∃ n u s, m = construct n u s

theorem Constructed.spec {m : CXMemoryCacheManager} (h : Constructed m) :
    m.ppCaches = List.replicate cacheArraySize none ∧
      m.dwInitCacheNumber ≤ maxCacheNumberInOneKind ∧ m.dwMaxObjectSize ≤ 1024 * 1024 := by
  rcases h with rfl | ⟨n, u, s, rfl⟩
  · exact ⟨rfl, by decide, by decide⟩
  · refine ⟨rfl, ?_, ?_⟩
    · simp only [construct]; split <;> omega
    · simp only [construct]; split <;> omega

/-- A successful `Init` of a constructed manager: all rows are in use and as they should be. -/
theorem init_spec {o : InitOutcome} {m m' : CXMemoryCacheManager} {config : List (Nat × Nat)}
    (hm : Constructed m) (h : init o m config = (m', 0)) :
    m'.dwMaxObjectSize ≤ 1024 * 1024 ∧
      ∀ i, i < cacheArraySize → ∃ row, m'.ppCaches[i]? = some (some row) ∧ RowOk m' i row := by
  obtain ⟨hc, hn, hmax⟩ := hm.spec
  obtain ⟨⟨m₁, iRet⟩, hr⟩ : ∃ r, initRows o (List.range cacheArraySize) m config = r := ⟨_, rfl⟩
  simp only [init, hr] at h
  split at h
  · cases h
  rename_i hret
  rw [not_not.mp hret] at hr
  obtain ⟨h1, h2, h3⟩ := initRows_spec (o := o) _ m config List.nodup_range
    (fun i hi => by
      have hi := List.mem_range.mp hi
      rw [hc]; simp [hi])
    hn (fun i row hi => by rw [hc] at hi; simp [List.getElem?_replicate] at hi) hr
  split at h <;> cases h
  refine ⟨by show m₁.dwMaxObjectSize ≤ _; omega, fun i hi => ?_⟩
  obtain ⟨row, hrow⟩ := Option.isSome_iff_exists.mp (h3 i (Or.inl (List.mem_range.mpr hi)))
  have hrow := Option.join_eq_some_iff.mp hrow
  have hok := h1 i row hrow
  exact ⟨row, hrow, hok.size, hok.full, hok.null⟩

/-! ### `getBuffer` -/

/-- The cache `getBuffer` takes the object from is one of the row of the index. -/
theorem getBuffer_mem {o : GetOutcome} {m : CXMemoryCacheManager} {s : Nat} {c : ElasticCache}
    (h : getBuffer o m s = some c) :
    ∃ row, m.ppCaches[calculateIndex s]? = some (some row) ∧ some c ∈ row := by
  have hmem : ∀ (row : List (Option ElasticCache)) (j : Nat) (c : ElasticCache),
      row[j]?.join = some c → some c ∈ row := fun row j c hj =>
    List.mem_of_getElem? (Option.join_eq_some_iff.mp hj)
  unfold getBuffer at h
  split at h
  · cases h
  split at h
  · cases h
  rename_i row hrow
  refine ⟨row, Option.join_eq_some_iff.mp hrow, ?_⟩
  split at h
  · cases h
  rename_i c' hc'
  split at h
  · cases h; exact hmem row _ _ hc'
  · obtain ⟨i, -, hi⟩ := List.exists_of_findSome?_eq_some h
    split at hi
    · rename_i c₁ hc₁
      split at hi
      · cases hi; exact hmem row _ _ hc₁
      · cases hi
    · cases hi

/-- `CalculateIndex(s)` is a row of the table, and every object `GetBuffer(s)` can return holds at
least `s` bytes. -/
def CapacityOk (m : CXMemoryCacheManager) (s : Nat) : Prop :=
  calculateIndex s < cacheArraySize ∧ ∀ o c, getBuffer o m s = some c → s ≤ c.dwObjectSize

/-- After a successful `Init`, exactly which sizes are served by an object that holds them (a
manager constructed with no cache per row serves none). -/
theorem capacityOk_iff (o : InitOutcome) (m m' : CXMemoryCacheManager) (config : List (Nat × Nat))
    (hm : Constructed m) (h : init o m config = (m', 0)) (s : Nat) (h1 : 1 ≤ s)
    (hs : s ≤ m'.dwMaxObjectSize) :
    CapacityOk m' s ↔ m'.dwInitCacheNumber = 0 ∨ ¬ 256 ∣ s ∨ ∃ k, s = 256 * 2 ^ k := by
  obtain ⟨hmax, hrows⟩ := init_spec hm h
  have hidx : calculateIndex s < cacheArraySize := calculateIndex_lt (by omega)
  obtain ⟨row, hrow, hok⟩ := hrows _ hidx
  have hmem : ∀ o c, getBuffer o m' s = some c → some c ∈ row := by
    intro o c hc
    obtain ⟨row', hr', hmem⟩ := getBuffer_mem hc
    rw [hrow] at hr'; cases hr'; exact hmem
  rw [← le_rowSize_iff h1]
  constructor
  · rintro ⟨-, hcap⟩
    by_cases h0 : m'.dwInitCacheNumber = 0
    · exact Or.inl h0
    · -- the first cache of the row can hand out an object, so the row must be large enough
      obtain ⟨c, hc⟩ := hok.full 0 (by omega)
      have hget : getBuffer ⟨0, true, fun _ => false, fun _ => false⟩ m' s = some c := by
        have hle : ¬ s > m'.dwMaxObjectSize := by omega
        simp [getBuffer, hle, hrow, hc]
      exact Or.inr (hok.size c (hmem _ c hget) ▸ hcap _ c hget)
  · rintro (h0 | hle)
    · exact ⟨hidx, fun o c hc => absurd (hmem o c hc) (hok.null h0 c)⟩
    · exact ⟨hidx, fun o c hc => by rw [hok.size c (hmem o c hc)]; exact hle⟩

theorem server_init :
    init .allOk constructDefault serverConfig = ((init .allOk constructDefault serverConfig).1, 0) :=
  Prod.ext rfl (by decide +kernel)

theorem capacityOk_iff_server :
    CapacityOk (init .allOk constructDefault serverConfig).1 4096 ↔
      (init .allOk constructDefault serverConfig).1.dwInitCacheNumber = 0 ∨ ¬ 256 ∣ 4096 ∨
        ∃ k, 4096 = 256 * 2 ^ k :=
  capacityOk_iff .allOk constructDefault _ serverConfig (Or.inl rfl) server_init 4096 (by decide)
    (by decide +kernel)

/-- On the server's own table a request for 768 bytes is answered with an object of 512. -/
theorem server_getBuffer_768 :
    (init .allOk constructDefault serverConfig).2 = 0 ∧
    768 ≤ (init .allOk constructDefault serverConfig).1.dwMaxObjectSize ∧
    ¬ CapacityOk (init .allOk constructDefault serverConfig).1 768 := by
  refine ⟨by decide +kernel, by decide +kernel, fun h => ?_⟩
  have hget : getBuffer ⟨0, true, fun _ => false, fun _ => false⟩
      (init .allOk constructDefault serverConfig).1 768 = some ⟨512, 1536, false⟩ := by
    decide +kernel
  exact absurd (h.2 _ _ hget) (by decide)

end CXMemoryCacheManager

end KonsanNet
