import KonsanNet.Packet
import KonsanNet.Run
import Mathlib.Data.List.TakeWhile
import Mathlib.Data.Nat.Digits.Defs
import Mathlib.Tactic

/-!
# The log file (`CXLog`)

In the queued mode, `Log` puts its line at the end of a list, and a thread (`Run`) takes the lines out one after the
other and gives each to `fprintf`, as the format. The thread tests `m_bRunning` only when it found the list empty, but
lines may come between the two, and the thread that is stopped does not look again. So the file has the lines of all
calls if and only if no content has a `%` and no test that ends the loop comes upon lines (`logFile_iff`).

Any calls of `Log`, the stop and the steps of the thread are interleaved; a call is one step, since only the line
that it pushes under the lock is shared. The writes of the stream succeed.
-/

namespace KonsanNet

namespace CXLog

/-! ### Lines -/

/-- The local time, with the milliseconds. -/
structure LogTime where
  year : Nat
  month : Nat
  day : Nat
  hour : Nat
  minute : Nat
  second : Nat
  millisecond : Nat

/-- `%0{width}d` -/
def decimal (width n : Nat) : List UInt8 :=
  let digits := (Nat.digits 10 n).reverse
  (List.replicate (width - digits.length) 0 ++ digits).map fun d => UInt8.ofNat (48 + d)

/-- `%Y-%m-%d_%H:%M:%S` and `.%03d` -/
def getCurrentTimeMS (t : LogTime) : List UInt8 :=
  decimal 1 t.year ++ ascii "-" ++ decimal 2 t.month ++ ascii "-" ++ decimal 2 t.day ++ ascii "_" ++
    decimal 2 t.hour ++ ascii ":" ++ decimal 2 t.minute ++ ascii ":" ++ decimal 2 t.second ++
    ascii "." ++ decimal 3 t.millisecond

inductive LogLevel
  | debug
  | info
  | warnning
  | error
  deriving DecidableEq

def LogLevel.toNat : LogLevel → Nat
  | debug => 0
  | info => 1
  | warnning => 2
  | error => 3

def strType : LogLevel → String
  | .debug => "Debug   "
  | .info => "Info    "
  | .warnning => "Warnning"
  | .error => "Error   "

/-- What `Log` pushes. -/
def strLog (levelType : LogLevel) (t : LogTime) (pszLogContent : List UInt8) : List UInt8 :=
  ascii "Time:" ++ getCurrentTimeMS t ++ ascii " " ++
    (ascii "Level:" ++ ascii (strType levelType) ++ ascii " ") ++ ascii "Message:" ++ cText pszLogContent

/-- `rfind`; `none` is `npos`. -/
def rfind (s : List UInt8) (c : UInt8) : Option Nat := (s.reverse.idxOf? c).map fun i => s.length - 1 - i

/-- `size() - 1`, which is `npos` for the empty text. -/
def lastIndex (s : List UInt8) : Option Nat := if s.length = 0 then none else some (s.length - 1)

def addNewline (strLog : List UInt8) : List UInt8 :=
  if rfind strLog 10 ≠ lastIndex strLog then strLog ++ [10] else strLog

/-- What `fprintf(fileLog, format)` writes without arguments: `%%` is a `%`; any other conversion is undefined. -/
def fprintf : List UInt8 → Option (List UInt8)
  | [] => some []
  | c :: format =>
    if c = 37 then
      match format with
      | [] => none
      | d :: format => if d = 37 then (fprintf format).map (37 :: ·) else none
    else (fprintf format).map (c :: ·)

/-! ### The thread -/

/-- Where `Run` is. -/
inductive Pc
  | opening
  | testing
  | waiting
  | draining
  | popping
  | writing (strLog : List UInt8)
  | flushing
  | done

/-- `fileLog` is what the file received, `none` when that is undefined. -/
structure State where
  lstLogContent : List (List UInt8)
  bRunning : Bool
  pc : Pc
  fileLog : Option (List UInt8)

/-- After `Initialize` -/
def start : State := ⟨[], true, .opening, some []⟩

inductive Action
  | log (levelType : LogLevel) (t : LogTime) (pszLogContent : List UInt8)
  | stop
  | writer

def write (fileLog : Option (List UInt8)) (strLog : List UInt8) : Option (List UInt8) :=
  fileLog.bind fun bs => (fprintf (cText (addNewline strLog))).map (bs ++ ·)

section Step

-- the level of `Initialize`, and whether `fopen` gives a file
variable (bOutputLevel : LogLevel) (fopen : Bool)

/-- The calls come before the stop. -/
def step (s : State) : Action → Option State
  | .log levelType t pszLogContent =>
    if s.bRunning then
      some (if levelType.toNat < bOutputLevel.toNat then s
        else { s with lstLogContent := s.lstLogContent ++ [strLog levelType t pszLogContent] })
    else none
  | .stop => if s.bRunning then some { s with bRunning := false } else none
  | .writer =>
    match s.pc with
    | .opening => some { s with pc := if fopen then .testing else .done }
    | .testing => some { s with pc := if s.bRunning then .waiting else .done }
    | .waiting => some { s with pc := .draining }
    | .draining => some { s with pc := if 0 < s.lstLogContent.length then .popping else .flushing }
    | .popping =>
      match s.lstLogContent with
      | [] => some { s with pc := .done, fileLog := none } -- `front` of an empty list
      | strLog :: lst => some { s with pc := .writing strLog, lstLogContent := lst }
    | .writing strLog => some { s with pc := .draining, fileLog := write s.fileLog strLog }
    | .flushing => some { s with pc := .testing }
    | .done => none

/-- The lines of the calls, in the order of the list. -/
def queuedLines (as : List Action) : List (List UInt8) :=
  as.flatMap fun a =>
    match a with
    | .log levelType t pszLogContent =>
      if levelType.toNat < bOutputLevel.toNat then [] else [strLog levelType t pszLogContent]
    | _ => []

/-- A newline where it is missing. -/
def terminated (line : List UInt8) : List UInt8 := if line.getLast? = some 10 then line else line ++ [10]

/-- What the file should receive. -/
def expected (as : List Action) : List UInt8 := (queuedLines bOutputLevel as).flatMap terminated

/-- A content without `%`, and a last test that finds no line. -/
def Meets (s : State) : Action → Prop
  | .log levelType _ pszLogContent => bOutputLevel.toNat ≤ levelType.toNat → 37 ∉ cText pszLogContent
  | .stop => True
  | .writer =>
    match s.pc with
    | .testing => s.bRunning = false → s.lstLogContent = []
    | _ => True

end Step

/-! ### The bytes of a line -/

section Line

variable {levelType : LogLevel} {t : LogTime} {pszLogContent : List UInt8}

theorem digit_of_mem_decimal {b : UInt8} {width n : Nat} (h : b ∈ decimal width n) : b ≠ 0 ∧ b ≠ 37 := by
  have hdigit : ∀ d < 10, UInt8.ofNat (48 + d) ≠ 0 ∧ UInt8.ofNat (48 + d) ≠ 37 := by decide
  obtain ⟨d, hd, rfl⟩ := List.mem_map.mp h
  refine hdigit d ?_
  rcases List.mem_append.mp hd with hd | hd
  · rw [List.eq_of_mem_replicate hd]
    decide
  · exact Nat.digits_lt_base (by decide) (List.mem_reverse.mp hd)

theorem strLog_eq : ∃ front, strLog levelType t pszLogContent = front ++ cText pszLogContent ∧ front ≠ [] ∧
    ∀ b ∈ front, b ≠ 0 ∧ b ≠ 37 := by
  refine ⟨_, rfl, by simp [ascii], ?_⟩
  have hascii : ∀ str ∈ ["Time:", "-", "_", ":", ".", " ", "Level:", "Message:"], ∀ b ∈ ascii str, b ≠ 0 ∧ b ≠ 37 := by
    decide +kernel
  have htype : ∀ b ∈ ascii (strType levelType), b ≠ 0 ∧ b ≠ 37 := by cases levelType <;> decide +kernel
  have htime : ∀ b ∈ getCurrentTimeMS t, b ≠ 0 ∧ b ≠ 37 := by
    unfold getCurrentTimeMS
    simp only [List.forall_mem_append]
    refine ⟨⟨⟨⟨⟨⟨⟨⟨⟨⟨⟨⟨?_, ?_⟩, ?_⟩, ?_⟩, ?_⟩, ?_⟩, ?_⟩, ?_⟩, ?_⟩, ?_⟩, ?_⟩, ?_⟩, ?_⟩ <;>
      first | exact fun b => digit_of_mem_decimal | exact hascii _ (by decide)
  simp only [List.forall_mem_append]
  exact ⟨⟨⟨⟨hascii _ (by decide), htime⟩, hascii _ (by decide)⟩, ⟨hascii _ (by decide), htype⟩, hascii _ (by decide)⟩,
    hascii _ (by decide)⟩

theorem zero_notMem_strLog : 0 ∉ strLog levelType t pszLogContent := by
  obtain ⟨front, heq, -, hfront⟩ := @strLog_eq levelType t pszLogContent
  rw [heq, List.mem_append]
  rintro (h | h)
  · exact (hfront 0 h).1 rfl
  · simpa using List.mem_takeWhile_imp h

theorem percent_mem_strLog : 37 ∈ strLog levelType t pszLogContent ↔ 37 ∈ cText pszLogContent := by
  obtain ⟨front, heq, -, hfront⟩ := @strLog_eq levelType t pszLogContent
  rw [heq, List.mem_append]
  exact or_iff_right fun h => (hfront 37 h).2 rfl

theorem strLog_ne_nil : strLog levelType t pszLogContent ≠ [] := by
  obtain ⟨front, heq, hne, -⟩ := @strLog_eq levelType t pszLogContent
  rw [heq]
  exact List.append_ne_nil_of_left_ne_nil hne _

end Line

variable {line : List UInt8}

theorem rfind_eq_lastIndex (h : line ≠ []) : rfind line 10 = lastIndex line ↔ line.getLast? = some 10 := by
  obtain ⟨l, c, rfl⟩ := (List.eq_nil_or_concat line).resolve_left h
  have hlast : lastIndex (l ++ [c]) = some l.length := by simp [lastIndex]
  rw [List.concat_eq_append, hlast, List.getLast?_concat, Option.some_inj, rfind, List.reverse_concat,
    List.idxOf?_cons]
  by_cases hc : c = 10
  · simp [hc]
  · rw [if_neg (by simpa using hc), iff_false_right hc]
    intro hfind
    simp only [Option.map_map, Option.map_eq_some_iff] at hfind
    obtain ⟨k, hk, hlen⟩ := hfind
    obtain ⟨hlt, -⟩ := List.idxOf?_eq_some_iff.mp hk
    simp at hlt hlen
    omega

theorem addNewline_eq (h : line ≠ []) : addNewline line = terminated line := by
  unfold addNewline terminated
  simp only [ne_eq, rfind_eq_lastIndex h, ite_not]

theorem length_terminated_pos (line : List UInt8) : 0 < (terminated line).length := by
  unfold terminated
  split_ifs with h
  · exact List.length_pos_of_ne_nil fun hnil => by simp [hnil] at h
  · simp

theorem percent_mem_terminated : 37 ∈ terminated line ↔ 37 ∈ line := by
  unfold terminated
  split_ifs <;> simp

theorem zero_mem_terminated : 0 ∈ terminated line ↔ 0 ∈ line := by
  unfold terminated
  split_ifs <;> simp

theorem cText_of_notMem (h : 0 ∉ line) : cText line = line :=
  List.takeWhile_eq_self_iff.mpr fun b hb => by simpa using ne_of_mem_of_not_mem hb h

/-! ### `fprintf` -/

theorem fprintf_cons_of_ne {c : UInt8} (hc : c ≠ 37) (format : List UInt8) :
    fprintf (c :: format) = (fprintf format).map (c :: ·) := by
  rw [fprintf.eq_def]
  exact if_neg hc

theorem fprintf_of_notMem : ∀ {format : List UInt8}, 37 ∉ format → fprintf format = some format
  | [], _ => rfl
  | c :: format, h => by
    rw [fprintf_cons_of_ne (List.ne_of_not_mem_cons h).symm, fprintf_of_notMem (List.not_mem_of_not_mem_cons h),
      Option.map_some]

/-- No more is written than the format has, and less when it has a `%`. -/
theorem length_fprintf : ∀ {format out : List UInt8}, fprintf format = some out →
    out.length ≤ format.length ∧ (37 ∈ format → out.length < format.length)
  | [], _, h => by
    cases h
    exact ⟨le_rfl, nofun⟩
  | [c], _, h => by
    by_cases hc : c = 37
    · simp [fprintf, hc] at h
    · rw [fprintf_cons_of_ne hc] at h
      cases h
      exact ⟨le_rfl, fun hm => absurd (List.mem_singleton.mp hm).symm hc⟩
  | c :: d :: format, out, h => by
    by_cases hc : c = 37
    · by_cases hd : d = 37
      · rw [fprintf, if_pos hc] at h
        simp only [if_pos hd, Option.map_eq_some_iff] at h
        obtain ⟨rest, hrest, rfl⟩ := h
        obtain ⟨hle, -⟩ := length_fprintf hrest
        simp only [List.length_cons]
        exact ⟨by omega, fun _ => by omega⟩
      · simp [fprintf, hc, hd] at h
    · rw [fprintf_cons_of_ne hc, Option.map_eq_some_iff] at h
      obtain ⟨rest, hrest, rfl⟩ := h
      obtain ⟨hle, hlt⟩ := length_fprintf hrest
      refine ⟨Nat.succ_le_succ hle, fun hm => Nat.succ_lt_succ (hlt ?_)⟩
      exact (List.mem_cons.mp hm).resolve_left (Ne.symm hc)

/-- The lines that `Log` queues. -/
def IsLine (line : List UInt8) : Prop := line ≠ [] ∧ 0 ∉ line

theorem isLine_strLog (levelType : LogLevel) (t : LogTime) (pszLogContent : List UInt8) :
    IsLine (strLog levelType t pszLogContent) := ⟨strLog_ne_nil, zero_notMem_strLog⟩

theorem IsLine.write_eq (h : IsLine line) (fileLog : Option (List UInt8)) :
    write fileLog line = fileLog.bind fun bs => (fprintf (terminated line)).map (bs ++ ·) := by
  rw [write, addNewline_eq h.1, cText_of_notMem (zero_mem_terminated.not.mpr h.2)]

variable {lines : List (List UInt8)} {bs out : List UInt8}

theorem foldl_write_of_notMem (hlines : ∀ l ∈ lines, IsLine l) (h : ∀ l ∈ lines, 37 ∉ l) :
    lines.foldl write (some bs) = some (bs ++ lines.flatMap terminated) := by
  induction lines generalizing bs with
  | nil => simp
  | cons line lines ih =>
    rw [List.forall_mem_cons] at hlines h
    rw [List.foldl_cons, hlines.1.write_eq, Option.bind_some,
      fprintf_of_notMem (percent_mem_terminated.not.mpr h.1), Option.map_some, ih hlines.2 h.2, List.flatMap_cons,
      List.append_assoc]

theorem foldl_write_none (lines : List (List UInt8)) : lines.foldl write none = none := by
  induction lines with
  | nil => rfl
  | cons line lines ih => exact ih

/-- The file is no longer than the lines, and shorter when one has a `%`. -/
theorem length_foldl_write (hlines : ∀ l ∈ lines, IsLine l) (h : lines.foldl write (some bs) = some out) :
    out.length ≤ bs.length + (lines.flatMap terminated).length ∧
      ((∃ l ∈ lines, 37 ∈ l) → out.length < bs.length + (lines.flatMap terminated).length) := by
  induction lines generalizing bs with
  | nil =>
    cases h
    exact ⟨le_rfl, nofun⟩
  | cons line lines ih =>
    rw [List.forall_mem_cons] at hlines
    rw [List.foldl_cons, hlines.1.write_eq, Option.bind_some] at h
    cases hp : fprintf (terminated line) with
    | none =>
      rw [hp, Option.map_none, foldl_write_none] at h
      cases h
    | some written =>
      rw [hp, Option.map_some] at h
      obtain ⟨hle, hlt⟩ := length_fprintf hp
      obtain ⟨hle', hlt'⟩ := ih hlines.2 h
      rw [percent_mem_terminated] at hlt
      simp only [List.length_append] at hle' hlt'
      rw [List.flatMap_cons, List.length_append, List.exists_mem_cons_iff]
      refine ⟨by omega, ?_⟩
      rintro (hm | hm)
      · have := hlt hm
        omega
      · have := hlt' hm
        omega

/-! ### Runs -/

section Runs

variable {bOutputLevel : LogLevel} {fopen : Bool} {s s' : State} {a : Action} {as : List Action}

theorem queuedLines_cons (a : Action) (as : List Action) :
    queuedLines bOutputLevel (a :: as) = queuedLines bOutputLevel [a] ++ queuedLines bOutputLevel as := by
  simp [queuedLines]

theorem isLine_of_mem_queuedLines {line : List UInt8} (h : line ∈ queuedLines bOutputLevel as) : IsLine line := by
  obtain ⟨a, -, hline⟩ := List.mem_flatMap.mp h
  cases a with
  | stop => cases hline
  | writer => cases hline
  | log levelType t pszLogContent =>
    simp only at hline
    split_ifs at hline
    · cases hline
    · rw [List.mem_singleton.mp hline]
      exact isLine_strLog ..

/-- The lines that are not in the file yet. -/
def State.pending (s : State) : List (List UInt8) :=
  match s.pc with
  | .writing strLog => strLog :: s.lstLogContent
  | _ => s.lstLogContent

/-- The thread goes to `pop_front` only when it saw a line. -/
def State.Popping (s : State) : Prop :=
  match s.pc with
  | .popping => s.lstLogContent ≠ []
  | _ => True

/-- From `s` to `s'`, the lines `queued` were pushed and the lines `written` given to `fprintf`. -/
structure Advances (s s' : State) (queued written : List (List UInt8)) : Prop where
  lines : written ++ s'.pending = s.pending ++ queued
  file : s'.fileLog = written.foldl write s.fileLog

theorem step_advances (hp : s.Popping) (h : step bOutputLevel fopen s a = some s') :
    s'.Popping ∧ ∃ written, Advances s s' (queuedLines bOutputLevel [a]) written := by
  obtain ⟨lst, bRunning, pc, fileLog⟩ := s
  cases a with
  | stop =>
    simp only [step, Option.ite_none_right_eq_some, Option.some.injEq] at h
    obtain ⟨-, rfl⟩ := h
    exact ⟨hp, [], (List.append_nil _).symm, rfl⟩
  | log levelType t pszLogContent =>
    simp only [step, Option.ite_none_right_eq_some, Option.some.injEq] at h
    obtain ⟨-, rfl⟩ := h
    split_ifs with hlevel
    · exact ⟨hp, [], by simp [queuedLines, hlevel], rfl⟩
    · refine ⟨?_, [], ?_, rfl⟩
      · cases pc <;> simp_all [State.Popping]
      · cases pc <;> simp [State.pending, queuedLines, hlevel]
  | writer =>
    cases pc with
    | opening =>
      cases h
      refine ⟨?_, [], ?_, rfl⟩ <;> cases fopen <;> simp [State.Popping, State.pending, queuedLines]
    | testing =>
      cases h
      refine ⟨?_, [], ?_, rfl⟩ <;> cases bRunning <;> simp [State.Popping, State.pending, queuedLines]
    | waiting =>
      cases h
      exact ⟨trivial, [], by simp [State.pending, queuedLines], rfl⟩
    | draining =>
      cases h
      refine ⟨?_, [], ?_, rfl⟩ <;> cases lst <;> simp [State.Popping, State.pending, queuedLines]
    | popping =>
      cases lst with
      | nil => exact absurd rfl hp
      | cons strLog lst =>
        cases h
        exact ⟨trivial, [], by simp [State.pending, queuedLines], rfl⟩
    | writing strLog =>
      cases h
      exact ⟨trivial, [strLog], by simp [State.pending, queuedLines], rfl⟩
    | flushing =>
      cases h
      exact ⟨trivial, [], by simp [State.pending, queuedLines], rfl⟩
    | done => cases h

theorem runSteps_advances (hp : s.Popping) (hr : runSteps (step bOutputLevel fopen) s as = some s') :
    ∃ written, Advances s s' (queuedLines bOutputLevel as) written := by
  induction as generalizing s with
  | nil =>
    cases hr
    exact ⟨[], (List.append_nil _).symm, rfl⟩
  | cons a as ih =>
    obtain ⟨s₁, hs, hr⟩ := Option.bind_eq_some_iff.mp hr
    obtain ⟨hp₁, written₁, hlines₁, hfile₁⟩ := step_advances hp hs
    obtain ⟨written₂, hlines₂, hfile₂⟩ := ih hp₁ hr
    refine ⟨written₁ ++ written₂, ?_, ?_⟩
    · rw [List.append_assoc, hlines₂, ← List.append_assoc, hlines₁, queuedLines_cons a as, List.append_assoc]
    · rw [hfile₂, hfile₁, List.foldl_append]

/-! ### The end of the thread -/

/-- The steps that are left when no line comes, for the place where the thread is. -/
def Pc.rank : Pc → Nat
  | .done => 0
  | .testing => 1
  | .flushing => 2
  | .popping => 2
  | .draining => 3
  | .waiting => 4
  | .writing _ => 4
  | .opening => 5

def State.left (s : State) : Nat := 4 * s.lstLogContent.length + s.pc.rank

theorem exists_writer_step (hstop : s.bRunning = false) (hpc : s.pc ≠ .done) :
    ∃ s', step bOutputLevel fopen s .writer = some s' ∧ s'.bRunning = false ∧ s'.left < s.left := by
  obtain ⟨lst, bRunning, pc, fileLog⟩ := s
  cases hstop
  cases pc with
  | opening => exact ⟨_, rfl, rfl, by cases fopen <;> simp [State.left, Pc.rank]⟩
  | testing => exact ⟨_, rfl, rfl, by simp [State.left, Pc.rank]⟩
  | waiting => exact ⟨_, rfl, rfl, by simp [State.left, Pc.rank]⟩
  | draining => exact ⟨_, rfl, rfl, by cases lst <;> simp [State.left, Pc.rank]⟩
  | popping =>
    cases lst with
    | nil => exact ⟨_, rfl, rfl, by simp [State.left, Pc.rank]⟩
    | cons strLog lst =>
      refine ⟨_, rfl, rfl, ?_⟩
      simp only [State.left, Pc.rank, List.length_cons]
      omega
  | writing strLog => exact ⟨_, rfl, rfl, by simp [State.left, Pc.rank]⟩
  | flushing => exact ⟨_, rfl, rfl, by simp [State.left, Pc.rank]⟩
  | done => exact absurd rfl hpc

theorem writer_ends (bOutputLevel : LogLevel) (fopen : Bool) (s : State) (hstop : s.bRunning = false) :
    ∃ k s', runSteps (step bOutputLevel fopen) s (List.replicate k .writer) = some s' ∧ s'.pc = .done := by
  by_cases hpc : s.pc = .done
  · exact ⟨0, s, rfl, hpc⟩
  · obtain ⟨s₁, hs, hstop₁, hlt⟩ := @exists_writer_step bOutputLevel fopen s hstop hpc
    obtain ⟨k, s', hr, hdone⟩ := writer_ends bOutputLevel fopen s₁ hstop₁
    refine ⟨k + 1, s', ?_, hdone⟩
    rw [List.replicate_succ]
    show (step bOutputLevel fopen s .writer).bind _ = some s'
    rw [hs]
    exact hr
termination_by s.left

theorem eq_of_ended (hstop : s.bRunning = false) (hdone : s.pc = .done)
    (hr : runSteps (step bOutputLevel fopen) s as = some s') : s' = s := by
  cases as with
  | nil => exact (Option.some.inj hr).symm
  | cons a as =>
    have hnone : step bOutputLevel fopen s a = none := by cases a <;> simp [step, hstop, hdone]
    rw [runSteps, hnone] at hr
    cases hr

/-! ### The condition -/

/-- The test that ends the thread found what is in the list at the end. -/
theorem meets_writer (hs : step bOutputLevel fopen s .writer = some s')
    {s₁ : State} (hr : runSteps (step bOutputLevel fopen) s' as = some s₁) (hnil : s₁.lstLogContent = []) :
    Meets bOutputLevel s .writer := by
  obtain ⟨lst, bRunning, pc, fileLog⟩ := s
  cases pc with
  | testing =>
    rintro rfl
    cases hs
    obtain rfl := eq_of_ended rfl rfl hr
    exact hnil
  | _ => trivial

/-- When nothing is left in the list and no line has a `%`, each step was as `Meets` says. -/
theorem eachStep_meets (hr : runSteps (step bOutputLevel fopen) s as = some s') (hnil : s'.lstLogContent = [])
    (hno : ∀ l ∈ queuedLines bOutputLevel as, 37 ∉ l) : EachStep (step bOutputLevel fopen) (Meets bOutputLevel) s as := by
  induction as generalizing s with
  | nil => trivial
  | cons a as ih =>
    obtain ⟨s₁, hs, hrest⟩ := Option.bind_eq_some_iff.mp hr
    rw [queuedLines_cons, List.forall_mem_append] at hno
    refine (eachStep_cons hs).mpr ⟨?_, ih hrest hno.2⟩
    cases a with
    | stop => trivial
    | log levelType t pszLogContent =>
      intro hlevel
      refine percent_mem_strLog.not.mp (hno.1 (strLog levelType t pszLogContent) ?_)
      simp [queuedLines, Nat.not_lt.mpr hlevel]
    | writer => exact meets_writer hs hrest hnil

/-- What the condition keeps: the thread that opened the file ends with an empty list. -/
def Ended (fopen : Bool) (s : State) : Prop :=
  s.Popping ∧ (fopen = true → s.pc = .done → s.bRunning = false ∧ s.lstLogContent = [])

theorem ended_step (hinv : Ended fopen s) (hok : Meets bOutputLevel s a) (hs : step bOutputLevel fopen s a = some s') :
    Ended fopen s' := by
  refine ⟨(step_advances hinv.1 hs).1, fun hopen hdone => ?_⟩
  obtain ⟨hp, hend⟩ := hinv
  obtain ⟨lst, bRunning, pc, fileLog⟩ := s
  cases a with
  | stop =>
    simp only [step, Option.ite_none_right_eq_some, Option.some.injEq] at hs
    obtain ⟨-, rfl⟩ := hs
    exact ⟨rfl, (hend hopen hdone).2⟩
  | log levelType t pszLogContent =>
    simp only [step, Option.ite_none_right_eq_some, Option.some.injEq] at hs
    obtain ⟨hrunning, rfl⟩ := hs
    have hpc : pc = .done := by split_ifs at hdone <;> exact hdone
    exact absurd (hend hopen hpc).1 (by simp [hrunning])
  | writer =>
    cases pc with
    | opening =>
      cases hs
      simp [hopen] at hdone
    | testing =>
      cases hs
      cases bRunning with
      | true => simp at hdone
      | false => exact ⟨rfl, hok rfl⟩
    | waiting =>
      cases hs
      cases hdone
    | draining =>
      cases hs
      cases lst <;> simp at hdone
    | popping =>
      cases lst with
      | nil => exact absurd rfl hp
      | cons strLog lst =>
        cases hs
        cases hdone
    | writing strLog =>
      cases hs
      cases hdone
    | flushing =>
      cases hs
      cases hdone
    | done => cases hs

theorem percent_notMem_of_eachStep (hr : runSteps (step bOutputLevel fopen) s as = some s')
    (hok : EachStep (step bOutputLevel fopen) (Meets bOutputLevel) s as) :
    ∀ l ∈ queuedLines bOutputLevel as, 37 ∉ l := by
  induction as generalizing s with
  | nil => exact nofun
  | cons a as ih =>
    obtain ⟨s₁, hs, hr⟩ := Option.bind_eq_some_iff.mp hr
    rw [eachStep_cons hs] at hok
    rw [queuedLines_cons, List.forall_mem_append]
    refine ⟨fun l hl => ?_, ih hr hok.2⟩
    cases a with
    | stop => cases hl
    | writer => cases hl
    | log levelType t pszLogContent =>
      by_cases hlevel : levelType.toNat < bOutputLevel.toNat
      · simp [queuedLines, hlevel] at hl
      · obtain rfl : l = strLog levelType t pszLogContent := by simpa [queuedLines, hlevel] using hl
        exact percent_mem_strLog.not.mpr (hok.1 (Nat.not_lt.mp hlevel))

theorem fileLog_of_not_opened (hpc : s.pc = .opening ∨ s.pc = .done)
    (hr : runSteps (step bOutputLevel false) s as = some s') : s'.fileLog = s.fileLog := by
  induction as generalizing s with
  | nil =>
    cases hr
    rfl
  | cons a as ih =>
    obtain ⟨s₁, hs, hr⟩ := Option.bind_eq_some_iff.mp hr
    suffices hstep : (s₁.pc = .opening ∨ s₁.pc = .done) ∧ s₁.fileLog = s.fileLog from
      (ih hstep.1 hr).trans hstep.2
    obtain ⟨lst, bRunning, pc, fileLog⟩ := s
    cases a with
    | stop =>
      simp only [step, Option.ite_none_right_eq_some, Option.some.injEq] at hs
      obtain ⟨-, rfl⟩ := hs
      exact ⟨hpc, rfl⟩
    | log levelType t pszLogContent =>
      simp only [step, Option.ite_none_right_eq_some, Option.some.injEq] at hs
      obtain ⟨-, rfl⟩ := hs
      split_ifs <;> exact ⟨hpc, rfl⟩
    | writer =>
      rcases hpc with hpc | hpc
      · cases hpc
        cases hs
        exact ⟨.inr rfl, rfl⟩
      · cases hpc
        cases hs

theorem length_flatMap_terminated_pos {lines : List (List UInt8)} (h : lines ≠ []) :
    0 < (lines.flatMap terminated).length := by
  obtain ⟨line, lines, rfl⟩ := List.exists_cons_of_ne_nil h
  rw [List.flatMap_cons, List.length_append]
  exact Nat.add_pos_left (length_terminated_pos line) _

/-- What was written is what was queued, byte for byte: nothing is left, and no line has a `%`. -/
theorem foldl_write_eq_iff {written left : List (List UInt8)} (hlines : ∀ l ∈ written ++ left, IsLine l) :
    written.foldl write (some []) = some ((written ++ left).flatMap terminated) ↔
      left = [] ∧ ∀ l ∈ written, 37 ∉ l := by
  rw [List.forall_mem_append] at hlines
  constructor
  · intro h
    obtain ⟨hle, hlt⟩ := length_foldl_write hlines.1 h
    rw [List.flatMap_append, List.length_append, List.length_nil, Nat.zero_add] at hle hlt
    refine ⟨?_, fun l hl hm => ?_⟩
    · by_contra hleft
      have hpos := length_flatMap_terminated_pos hleft
      omega
    · have := hlt ⟨l, hl, hm⟩
      omega
  · rintro ⟨rfl, hno⟩
    rw [foldl_write_of_notMem hlines.1 hno, List.nil_append, List.append_nil]

/-- **The log file**. After any calls and the stop, the thread comes to its end; and then the file has the lines of
all calls, in their order and byte for byte, if and only if it was opened (or there were no lines), no content has a
`%`, and the test that ended the thread found no line. -/
theorem logFile_iff (hr : runSteps (step bOutputLevel fopen) start as = some s) (hstop : s.bRunning = false) :
    (∃ k s', runSteps (step bOutputLevel fopen) s (List.replicate k .writer) = some s' ∧ s'.pc = .done) ∧
      (s.pc = .done → (s.fileLog = some (expected bOutputLevel as) ↔
        EachStep (step bOutputLevel fopen) (Meets bOutputLevel) start as ∧
          (fopen = true ∨ queuedLines bOutputLevel as = []))) := by
  refine ⟨writer_ends _ _ s hstop, fun hdone => ?_⟩
  obtain ⟨written, hlines, hfile⟩ := runSteps_advances (show start.Popping from trivial) hr
  have hpending : s.pending = s.lstLogContent := by rw [State.pending, hdone]
  have hqueued : written ++ s.lstLogContent = queuedLines bOutputLevel as := hpending ▸ hlines
  have hiff : s.fileLog = some (expected bOutputLevel as) ↔ s.lstLogContent = [] ∧ ∀ l ∈ written, 37 ∉ l := by
    rw [hfile, expected, ← hqueued]
    exact foldl_write_eq_iff fun l hl => isLine_of_mem_queuedLines (hqueued ▸ hl)
  constructor
  · intro hfaithful
    obtain ⟨hnil, hno⟩ := hiff.mp hfaithful
    rw [hnil, List.append_nil] at hqueued
    refine ⟨eachStep_meets hr hnil (hqueued ▸ hno), ?_⟩
    cases fopen with
    | true => exact .inl rfl
    | false =>
      refine .inr ?_
      have hempty : s.fileLog = some [] := fileLog_of_not_opened (.inl rfl) hr
      rw [hempty, Option.some_inj] at hfaithful
      by_contra hne
      exact absurd (length_flatMap_terminated_pos hne) (by rw [← expected, ← hfaithful]; simp)
  · rintro ⟨hmeets, hopen⟩
    refine hiff.mpr ⟨?_, fun l hl => ?_⟩
    · rcases hopen with hopen | hempty
      · have hstart : Ended fopen start := ⟨trivial, fun _ => nofun⟩
        have hended := hmeets.invariant (fun _ _ _ h hok hs => ended_step h hok hs) hstart hr
        exact (hended.2 hopen hdone).2
      · exact (List.append_eq_nil_iff.mp (hqueued.trans hempty)).2
    · exact percent_notMem_of_eachStep hr hmeets l (hqueued ▸ List.mem_append_left _ hl)

end Runs

/-- Eight steps of the thread write a line that is queued; the ninth ends it. -/
def writerRun : List Action := List.replicate 8 .writer ++ [.stop, .writer]

theorem runSteps_writerRun (line : List UInt8) :
    runSteps (step .debug true) ⟨[line], true, .opening, some []⟩ writerRun =
      some ⟨[], false, .done, write (some []) line⟩ := rfl

def logReady : Action := .log .info ⟨2019, 7, 31, 15, 39, 29, 7⟩ (ascii "ready")

def afterReady : State :=
  ⟨[], false, .done, write (some []) (strLog .info ⟨2019, 7, 31, 15, 39, 29, 7⟩ (ascii "ready"))⟩

theorem logFile_ready :
    (∃ k s', runSteps (step .debug true) afterReady (List.replicate k .writer) = some s' ∧ s'.pc = .done) ∧
      (afterReady.pc = .done → (afterReady.fileLog = some (expected .debug (logReady :: writerRun)) ↔
        EachStep (step .debug true) (Meets .debug) start (logReady :: writerRun) ∧
          (true = true ∨ queuedLines .debug (logReady :: writerRun) = []))) :=
  logFile_iff (runSteps_writerRun _) rfl

/-- A line that is queued before the stop, when the thread has not tested `m_bRunning` yet, is lost. -/
theorem not_logFile_late : ∃ as s, runSteps (step .debug true) start as = some s ∧ s.bRunning = false ∧ s.pc = .done ∧
    s.fileLog ≠ some (expected .debug as) := by
  refine ⟨[logReady, .stop, .writer, .writer], _, rfl, rfl, rfl, ?_⟩
  intro h
  have hlen := congrArg List.length (Option.some.inj h)
  rw [expected] at hlen
  exact absurd hlen (length_flatMap_terminated_pos (List.cons_ne_nil _ _)).ne

end CXLog

end KonsanNet
