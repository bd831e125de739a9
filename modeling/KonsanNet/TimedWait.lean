import Mathlib.Tactic

/-!
# Timed waits (`CXEvent::WaitForSingleObject`)

On Linux a wait with a timeout gives `sem_timedwait` an absolute time: the current one with the timeout added to its
seconds and to its nanoseconds. The nanoseconds are not carried into the seconds, and a time with 10⁹ of them or
more is refused with `EINVAL` (`waitSound_iff`). The loops that wait in each round ignore the result, so a wait
that was refused is a round without a wait (`neverSpins_iff`).

What the calls of one wait come back with, and when, is given by the system (`SemTimedWait`); times are in
nanoseconds.
-/

namespace KonsanNet

/-- `struct timespec` -/
structure Timespec where
  tvSec : Int64
  tvNsec : Int64
deriving DecidableEq

namespace Timespec

/-- `0 <= tv_nsec < 10^9` -/
def Valid (t : Timespec) : Prop := 0 ≤ t.tvNsec.toInt ∧ t.tvNsec.toInt < 1000000000

instance (t : Timespec) : Decidable t.Valid := inferInstanceAs (Decidable (_ ∧ _))

def nanos (t : Timespec) : Int := t.tvSec.toInt * 1000000000 + t.tvNsec.toInt

end Timespec

/-- What `WaitForSingleObject` returns. -/
inductive EventResult
  | waitObject0
  | waitTimeout
  | waitFailed
deriving DecidableEq

/-- What a call of `sem_timedwait` comes back with: 0, or -1 with an `errno`. -/
inductive SemResult
  | taken
  | eintr
  | einval
  | etimedout
  | other
deriving DecidableEq

/-- A call of `sem_timedwait` that came back at the time `time`. -/
structure SemCall where
  time : Int
  result : SemResult
deriving DecidableEq

/-- What the system does with a call of `sem_timedwait` until `t`, or of `sem_wait`. It may look at `t` only where
it has to wait. -/
def Answers : Option Timespec → SemCall → Prop
  | some t, c =>
    match c.result with
    | .taken => True
    | .eintr => t.Valid
    | .etimedout => t.Valid ∧ t.nanos ≤ c.time
    | .einval => ¬ t.Valid
    | .other => False
  | none, c => c.result = .taken ∨ c.result = .eintr

/-- The calls made for each time that they can be given, one after the other. -/
abbrev Sem := Option Timespec → List SemCall

def Sem.Lawful (sem : Sem) : Prop := ∀ t, ∀ c ∈ sem t, Answers t c

/-- `(DWORD)0xFFFFFFFF` -/
def infinite : UInt32 := 0xFFFFFFFF

namespace CXEvent

/-- `timerWait`, where `clock_gettime` gave `now`. -/
def timerWait (dwMilliseconds : UInt32) (now : Timespec) : Timespec where
  tvSec := now.tvSec + Int64.ofNat (dwMilliseconds / 1000).toNat
  tvNsec := now.tvNsec + Int64.ofNat (dwMilliseconds % 1000 * 1000000).toNat

/-- The loop, where the calls come back as `calls`; with the result, the time at which the last one came back.
`none`: it is still waiting. -/
def waitLoop : List SemCall → Option (EventResult × Int)
  | [] => none
  | c :: calls =>
    match c.result with
    | .taken => some (.waitObject0, c.time)
    | .eintr => waitLoop calls
    | .einval => some (.waitFailed, c.time)
    | .etimedout => some (.waitTimeout, c.time)
    | .other => some (.waitFailed, c.time)

def waitForSingleObject (dwMilliseconds : UInt32) (now : Timespec) (sem : Sem) : Option (EventResult × Int) :=
  waitLoop (sem (if dwMilliseconds = infinite then none else some (timerWait dwMilliseconds now)))

/-- The end of the timeout. -/
def timeoutEnd (dwMilliseconds : UInt32) (now : Timespec) : Int := now.nanos + dwMilliseconds.toNat * 1000000

/-- The time given to `sem_timedwait` is the end of the timeout and valid. Whatever the calls come back with, the
wait ends with the first that was not interrupted, it has not failed, and it times out at the end of the timeout
at the earliest. -/
structure WaitSound (dwMilliseconds : UInt32) (now : Timespec) : Prop where
  exact : (timerWait dwMilliseconds now).nanos = timeoutEnd dwMilliseconds now
  valid : (timerWait dwMilliseconds now).Valid
  ends : ∀ sem : Sem, (∃ c ∈ sem (some (timerWait dwMilliseconds now)), c.result ≠ .eintr) →
    ∃ r, waitForSingleObject dwMilliseconds now sem = some r
  result : ∀ (sem : Sem) (r : EventResult × Int), sem.Lawful → waitForSingleObject dwMilliseconds now sem = some r →
    r.1 = .waitObject0 ∨ r.1 = .waitTimeout ∧ timeoutEnd dwMilliseconds now ≤ r.2

/-- The nanoseconds need no carry, and the seconds fit their type. -/
def InTime (dwMilliseconds : UInt32) (now : Timespec) : Prop :=
  now.tvNsec.toInt + dwMilliseconds.toNat % 1000 * 1000000 < 1000000000 ∧
    now.tvSec.toInt + dwMilliseconds.toNat / 1000 < 2 ^ 63

instance (dwMilliseconds : UInt32) (now : Timespec) : Decidable (InTime dwMilliseconds now) :=
  inferInstanceAs (Decidable (_ ∧ _))

variable {dwMilliseconds : UInt32} {now : Timespec}

theorem tvNsec_timerWait (hnow : now.Valid) : (timerWait dwMilliseconds now).tvNsec.toInt =
    now.tvNsec.toInt + dwMilliseconds.toNat % 1000 * 1000000 := by
  obtain ⟨h0, h1⟩ := hnow
  have hms : (dwMilliseconds % 1000 * 1000000).toNat = dwMilliseconds.toNat % 1000 * 1000000 := by
    rw [UInt32.toNat_mul, UInt32.toNat_mod]
    show dwMilliseconds.toNat % 1000 * 1000000 % 2 ^ 32 = _
    omega
  show (now.tvNsec + Int64.ofNat (dwMilliseconds % 1000 * 1000000).toNat).toInt = _
  rw [Int64.toInt_add, Int64.toInt_ofNat', hms]
  have hlt : dwMilliseconds.toNat % 1000 * 1000000 < 1000000000 := by omega
  simp only [Int64.size, Int.bmod_def]
  push_cast
  omega

/-- The seconds are those of the end of the timeout, less 2⁶⁴ where these do not fit. -/
theorem tvSec_timerWait : (timerWait dwMilliseconds now).tvSec.toInt =
    now.tvSec.toInt + dwMilliseconds.toNat / 1000 -
      if now.tvSec.toInt + dwMilliseconds.toNat / 1000 < 2 ^ 63 then 0 else 2 ^ 64 := by
  have hms : (dwMilliseconds / 1000).toNat = dwMilliseconds.toNat / 1000 := UInt32.toNat_div ..
  have hlt := dwMilliseconds.toNat_lt
  have hle := now.tvSec.le_toInt
  have hlt' := now.tvSec.toInt_lt
  show (now.tvSec + Int64.ofNat (dwMilliseconds / 1000).toNat).toInt = _
  rw [Int64.toInt_add, Int64.toInt_ofNat', hms]
  simp only [Int64.size, Int.bmod_def]
  push_cast
  split <;> omega

theorem valid_timerWait (hnow : now.Valid) : (timerWait dwMilliseconds now).Valid ↔
    now.tvNsec.toInt + dwMilliseconds.toNat % 1000 * 1000000 < 1000000000 := by
  have h0 := hnow.1
  rw [Timespec.Valid, tvNsec_timerWait hnow]
  omega

theorem nanos_timerWait (hnow : now.Valid) : (timerWait dwMilliseconds now).nanos = timeoutEnd dwMilliseconds now -
    if now.tvSec.toInt + dwMilliseconds.toNat / 1000 < 2 ^ 63 then 0 else 2 ^ 64 * 1000000000 := by
  rw [Timespec.nanos, tvSec_timerWait, tvNsec_timerWait hnow, timeoutEnd, Timespec.nanos]
  have hdiv := Nat.div_add_mod dwMilliseconds.toNat 1000
  split <;> omega

theorem nanos_eq_iff (hnow : now.Valid) : (timerWait dwMilliseconds now).nanos = timeoutEnd dwMilliseconds now ↔
    now.tvSec.toInt + dwMilliseconds.toNat / 1000 < 2 ^ 63 := by
  rw [nanos_timerWait hnow]
  split
  · rename_i h
    exact iff_of_true (sub_zero _) h
  · rename_i h
    exact iff_of_false (by omega) h

theorem waitLoop_isSome : ∀ {calls : List SemCall}, (∃ c ∈ calls, c.result ≠ .eintr) → ∃ r, waitLoop calls = some r
  | [], ⟨_, hc, _⟩ => by cases hc
  | c :: calls, ⟨d, hd, hne⟩ => by
    unfold waitLoop
    cases hc : c.result with
    | eintr =>
      rcases List.mem_cons.mp hd with rfl | hd
      · exact absurd hc hne
      · exact waitLoop_isSome ⟨d, hd, hne⟩
    | taken => exact ⟨_, rfl⟩
    | einval => exact ⟨_, rfl⟩
    | etimedout => exact ⟨_, rfl⟩
    | other => exact ⟨_, rfl⟩

theorem waitLoop_eq_some : ∀ {calls : List SemCall} {r : EventResult × Int}, waitLoop calls = some r →
    ∃ c ∈ calls, r.2 = c.time ∧ (r.1 = .waitObject0 ∧ c.result = .taken ∨ r.1 = .waitTimeout ∧ c.result = .etimedout ∨
      r.1 = .waitFailed ∧ (c.result = .einval ∨ c.result = .other))
  | [], _, h => by cases h
  | c :: calls, r, h => by
    unfold waitLoop at h
    cases hc : c.result with
    | eintr =>
      rw [hc] at h
      obtain ⟨d, hd, hr⟩ := waitLoop_eq_some h
      exact ⟨d, List.mem_cons_of_mem _ hd, hr⟩
    | taken =>
      rw [hc] at h
      cases h
      exact ⟨c, List.mem_cons_self, rfl, .inl ⟨rfl, hc⟩⟩
    | einval =>
      rw [hc] at h
      cases h
      exact ⟨c, List.mem_cons_self, rfl, .inr (.inr ⟨rfl, .inl hc⟩)⟩
    | etimedout =>
      rw [hc] at h
      cases h
      exact ⟨c, List.mem_cons_self, rfl, .inr (.inl ⟨rfl, hc⟩)⟩
    | other =>
      rw [hc] at h
      cases h
      exact ⟨c, List.mem_cons_self, rfl, .inr (.inr ⟨rfl, .inr hc⟩)⟩

theorem waitForSingleObject_eq (hne : dwMilliseconds ≠ infinite) (sem : Sem) :
    waitForSingleObject dwMilliseconds now sem = waitLoop (sem (some (timerWait dwMilliseconds now))) := by
  rw [waitForSingleObject, if_neg hne]

theorem result_of_inTime (hne : dwMilliseconds ≠ infinite) (hnow : now.Valid) (h : InTime dwMilliseconds now)
    {sem : Sem} {r : EventResult × Int} (hsem : sem.Lawful) (hr : waitForSingleObject dwMilliseconds now sem = some r) :
    r.1 = .waitObject0 ∨ r.1 = .waitTimeout ∧ timeoutEnd dwMilliseconds now ≤ r.2 := by
  rw [waitForSingleObject_eq hne] at hr
  obtain ⟨c, hc, htime, hcase⟩ := waitLoop_eq_some hr
  have hvalid := (valid_timerWait hnow).mpr h.1
  have hans := hsem _ c hc
  rw [Answers] at hans
  rcases hcase with ⟨hres, -⟩ | ⟨hres, hcr⟩ | ⟨-, hcr | hcr⟩
  · exact .inl hres
  · rw [hcr] at hans
    refine .inr ⟨hres, ?_⟩
    rw [htime, ← (nanos_eq_iff hnow).mpr h.2]
    exact hans.2
  · rw [hcr] at hans
    exact absurd hvalid hans
  · rw [hcr] at hans
    exact hans.elim

theorem waitSound_iff (hne : dwMilliseconds ≠ infinite) (hnow : now.Valid) :
    WaitSound dwMilliseconds now ↔ InTime dwMilliseconds now := by
  constructor
  · intro h
    exact ⟨(valid_timerWait hnow).mp h.valid, (nanos_eq_iff hnow).mp h.exact⟩
  · intro h
    refine ⟨(nanos_eq_iff hnow).mpr h.2, (valid_timerWait hnow).mpr h.1, fun sem hend => ?_, fun sem r hsem hr => ?_⟩
    · rw [waitForSingleObject_eq hne]
      exact waitLoop_isSome hend
    · exact result_of_inTime hne hnow h hsem hr

/-! ### The loops that wait in each round -/

/-- A round of a loop: the flag as the `while` finds it, the interval that `SetOutputIntervalMS` has set last, the
current time and the system as its wait finds them, and the flag behind the wait. -/
structure Round where
  bRunning : Bool
  iOutputIntervalMs : Int32
  now : Timespec
  sem : Sem
  bStillRunning : Bool

/-- A wait of a loop: its interval, when it starts and how it ends. -/
abbrev Wait := UInt32 × Timespec × Option (EventResult × Int)

/-- What a round does up to its wait, whose interval may be read from the member. -/
def Round.wait (dwInterval : Int32 → UInt32) (r : Round) : Wait :=
  (dwInterval r.iOutputIntervalMs, r.now, waitForSingleObject (dwInterval r.iOutputIntervalMs) r.now r.sem)

/-- The waits of the loop, of which each round ignores the result. -/
def periodicLoop (dwInterval : Int32 → UInt32) : List Round → List Wait
  | [] => []
  | r :: rounds =>
    if r.bRunning then
      r.wait dwInterval :: if r.bStillRunning then periodicLoop dwInterval rounds else []
    else []

/-- `CXMemoryCacheManager::CheckCachePool`, a minute -/
def checkCachePool : List Round → List Wait := periodicLoop fun _ => 1000 * 60

/-- `CXConnectionsManager::DetectConnections` -/
def detectConnections : List Round → List Wait := periodicLoop fun _ => 50

/-- `CXIOStat::Output`; the interval is an `int` that each round reads again, as a `DWORD`. -/
def output : List Round → List Wait := periodicLoop Int32.toUInt32

/-- Whatever the system does, each wait of the loop that has ended was signalled or has lasted its interval, where
the rounds find these intervals set and start at these times. -/
def NeverSpins (loop : List Round → List Wait) (starts : List (Int32 × Timespec)) : Prop :=
  ∀ rounds : List Round, rounds.map (fun r => (r.iOutputIntervalMs, r.now)) = starts → (∀ r ∈ rounds, r.sem.Lawful) →
    ∀ w ∈ loop rounds, ∀ r, w.2.2 = some r → r.1 = .waitObject0 ∨ timeoutEnd w.1 w.2.1 ≤ r.2

section Loops

variable {dwInterval : Int32 → UInt32} {starts : List (Int32 × Timespec)}

theorem mem_periodicLoop {w : Wait} :
    ∀ {rounds : List Round}, w ∈ periodicLoop dwInterval rounds → ∃ r ∈ rounds, w = r.wait dwInterval
  | [], h => by cases h
  | r :: rounds, h => by
    unfold periodicLoop at h
    split at h
    · rcases List.mem_cons.mp h with rfl | h
      · exact ⟨r, List.mem_cons_self, rfl⟩
      · split at h
        · obtain ⟨r', hr', rfl⟩ := mem_periodicLoop h
          exact ⟨r', List.mem_cons_of_mem _ hr', rfl⟩
        · cases h
    · cases h

theorem mem_periodicLoop_of_running : ∀ {rounds : List Round},
    (∀ r ∈ rounds, r.bRunning ∧ r.bStillRunning) → ∀ r ∈ rounds, r.wait dwInterval ∈ periodicLoop dwInterval rounds
  | [], _, _, h => by cases h
  | r :: rounds, hrun, r', hr' => by
    obtain ⟨hr, hstill⟩ := hrun r List.mem_cons_self
    rw [periodicLoop, if_pos hr, if_pos hstill]
    rcases List.mem_cons.mp hr' with rfl | hr'
    · exact List.mem_cons_self
    · exact List.mem_cons_of_mem _
        (mem_periodicLoop_of_running (fun r hr => hrun r (List.mem_cons_of_mem _ hr)) r' hr')

/-- A system that does not let anybody wait: it refuses the times that are not valid, and the others have passed
already. -/
def hasty (start : Int) : Sem
  | some t => [⟨start, if t.Valid then if t.nanos ≤ start then .etimedout else .taken else .einval⟩]
  | none => [⟨start, .taken⟩]

theorem lawful_hasty (start : Int) : (hasty start).Lawful := by
  intro t c hc
  cases t with
  | none =>
    cases List.mem_singleton.mp hc
    exact .inl rfl
  | some t =>
    cases List.mem_singleton.mp hc
    unfold Answers
    by_cases hv : t.Valid
    · by_cases hn : t.nanos ≤ start
      · simp [hv, hn]
      · simp [hv, hn]
    · simp [hv]

/-- A wait whose time needs a carry, or whose seconds do not fit, may come back at once. -/
theorem hasty_of_not_inTime (hne : dwMilliseconds ≠ infinite) (hnow : now.Valid) (h : ¬ InTime dwMilliseconds now) :
    ∃ res, waitForSingleObject dwMilliseconds now (hasty now.nanos) = some (res, now.nanos) ∧ res ≠ .waitObject0 ∧
      now.nanos < timeoutEnd dwMilliseconds now := by
  have h0 := hnow.1
  have h1 := hnow.2
  have hlt := now.tvSec.toInt_lt
  have hmod := Nat.div_add_mod dwMilliseconds.toNat 1000
  have hend : now.nanos < timeoutEnd dwMilliseconds now := by
    rw [InTime] at h
    rw [timeoutEnd]
    omega
  rw [waitForSingleObject_eq hne, hasty]
  by_cases hv : (timerWait dwMilliseconds now).Valid
  · have hsec : ¬ now.tvSec.toInt + dwMilliseconds.toNat / 1000 < 2 ^ 63 :=
      fun hsec => h ⟨(valid_timerWait hnow).mp hv, hsec⟩
    have hnanos : (timerWait dwMilliseconds now).nanos ≤ now.nanos := by
      have hms := dwMilliseconds.toNat_lt
      rw [nanos_timerWait hnow, if_neg hsec, timeoutEnd]
      omega
    rw [if_pos hv, if_pos hnanos]
    exact ⟨_, rfl, nofun, hend⟩
  · rw [if_neg hv]
    exact ⟨_, rfl, nofun, hend⟩

/-- A round of a loop that nobody stops, in a system that does not let anybody wait. -/
def hastyRound (start : Int32 × Timespec) : Round := ⟨true, start.1, start.2, hasty start.2.nanos, true⟩

theorem neverSpins_iff (hne : ∀ t ∈ starts, dwInterval t.1 ≠ infinite) (hstarts : ∀ t ∈ starts, t.2.Valid) :
    NeverSpins (periodicLoop dwInterval) starts ↔ ∀ t ∈ starts, InTime (dwInterval t.1) t.2 := by
  constructor
  · intro hspin t ht
    by_contra hlate
    have hrounds : (starts.map hastyRound).map (fun r => (r.iOutputIntervalMs, r.now)) = starts := by
      rw [List.map_map]
      exact List.map_id _
    have hrunning : ∀ r ∈ starts.map hastyRound, r.bRunning ∧ r.bStillRunning := by
      intro r hr
      obtain ⟨t, -, rfl⟩ := List.mem_map.mp hr
      exact ⟨rfl, rfl⟩
    have hlawful : ∀ r ∈ starts.map hastyRound, r.sem.Lawful := by
      intro r hr
      obtain ⟨t, -, rfl⟩ := List.mem_map.mp hr
      exact lawful_hasty _
    obtain ⟨res, hres, hno, hlt⟩ := hasty_of_not_inTime (hne t ht) (hstarts t ht) hlate
    have hw : (hastyRound t).wait dwInterval ∈ periodicLoop dwInterval (starts.map hastyRound) :=
      mem_periodicLoop_of_running hrunning _ (List.mem_map_of_mem ht)
    rcases hspin _ hrounds hlawful _ hw _ hres with hobj | hle
    · exact hno hobj
    · exact absurd hle (not_le.mpr hlt)
  · intro hin rounds hrounds hlawful w hw r hr
    obtain ⟨rd, hrd, rfl⟩ := mem_periodicLoop hw
    have hmem : (rd.iOutputIntervalMs, rd.now) ∈ starts :=
      hrounds ▸ List.mem_map_of_mem (f := fun r : Round => (r.iOutputIntervalMs, r.now)) hrd
    exact (result_of_inTime (hne _ hmem) (hstarts _ hmem) (hin _ hmem) (hlawful rd hrd) hr).imp_right And.right

/-- A minute has no milliseconds, so the loop of the cache checker waits in each round while the clock is in range. -/
theorem neverSpins_checkCachePool (hstarts : ∀ t ∈ starts, t.2.Valid)
    (hsec : ∀ t ∈ starts, t.2.tvSec.toInt + 60 < 2 ^ 63) : NeverSpins checkCachePool starts := by
  refine (neverSpins_iff (fun _ _ => by decide) hstarts).mpr fun t ht => ?_
  have hnsec := (hstarts t ht).2
  have hlt := hsec t ht
  have hms : (1000 * 60 : UInt32).toNat = 60000 := rfl
  rw [InTime, hms]
  omega

/-- For every finite timeout and every current time, a wait is sound exactly if its time needs no carry into the
seconds; and the three loops never go through a round without a wait exactly if no round starts so late in its
second. -/
theorem waits_iff (hne : dwMilliseconds ≠ infinite) (hnow : now.Valid)
    (hneg : ∀ t ∈ starts, t.1.toUInt32 ≠ infinite) (hstarts : ∀ t ∈ starts, t.2.Valid) :
    (WaitSound dwMilliseconds now ↔ InTime dwMilliseconds now) ∧
      (NeverSpins checkCachePool starts ↔ ∀ t ∈ starts, InTime (1000 * 60) t.2) ∧
      (NeverSpins detectConnections starts ↔ ∀ t ∈ starts, InTime 50 t.2) ∧
      (NeverSpins output starts ↔ ∀ t ∈ starts, InTime t.1.toUInt32 t.2) :=
  ⟨waitSound_iff hne hnow, neverSpins_iff (fun _ _ => by decide) hstarts,
    neverSpins_iff (fun _ _ => by decide) hstarts, neverSpins_iff hneg hstarts⟩

/-- Fifty milliseconds from 0.94 s on, and two rounds of the three loops, of which the second finds another interval
of the statistics. -/
theorem waits_940 : (WaitSound 50 ⟨7, 940000000⟩ ↔ InTime 50 ⟨7, 940000000⟩) ∧
    (NeverSpins checkCachePool [(60000, ⟨7, 940000000⟩), (1500, ⟨67, 940000000⟩)] ↔
      ∀ t ∈ [((60000 : Int32), (⟨7, 940000000⟩ : Timespec)), (1500, ⟨67, 940000000⟩)], InTime (1000 * 60) t.2) ∧
    (NeverSpins detectConnections [(60000, ⟨7, 940000000⟩), (1500, ⟨67, 940000000⟩)] ↔
      ∀ t ∈ [((60000 : Int32), (⟨7, 940000000⟩ : Timespec)), (1500, ⟨67, 940000000⟩)], InTime 50 t.2) ∧
    (NeverSpins output [(60000, ⟨7, 940000000⟩), (1500, ⟨67, 940000000⟩)] ↔
      ∀ t ∈ [((60000 : Int32), (⟨7, 940000000⟩ : Timespec)), (1500, ⟨67, 940000000⟩)], InTime t.1.toUInt32 t.2) :=
  waits_iff (by decide) (by decide) (by decide) (by decide)

end Loops

/-- The same 50 ms from 0.95 s on are refused. -/
theorem not_waitSound_950 : ¬ WaitSound 50 ⟨7, 950000000⟩ := fun h => absurd h.valid (by decide)

end CXEvent

end KonsanNet
