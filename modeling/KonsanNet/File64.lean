import KonsanNet.PosixFile

/-!
# The file of the storage server (`CXFile64`)

An open `CXFile64` on Linux, over the system calls of `PosixFile`. `lseek` is called with its last two arguments
exchanged, the results of `read` and `write` are compared as unsigned numbers, and `TruncateFile` takes a
negative result for success. `Allowed` is what the operations are for; `refines_iff` says in which runs they are
that.
-/

namespace KonsanNet

/-- A conversion to `DWORD`. -/
def toDWORD (i : Int) : Nat := (i % 2 ^ 32).toNat

/-- A conversion to `uint64`. -/
def toUInt64 (i : Int) : Nat := (i % 2 ^ 64).toNat

/-- A conversion to `int`. -/
def toInt32 (i : Int) : Int := if i % 2 ^ 32 < 2 ^ 31 then i % 2 ^ 32 else i % 2 ^ 32 - 2 ^ 32

/-- A conversion to `off64_t`. -/
def toInt64 (i : Int) : Int := if i % 2 ^ 64 < 2 ^ 63 then i % 2 ^ 64 else i % 2 ^ 64 - 2 ^ 64

inductive SeekType
  | begin
  | current
  | end
deriving DecidableEq, Repr

/-- `iWhence`: `SEEK_SET`, `SEEK_CUR`, `SEEK_END` -/
def SeekType.whence : SeekType → Int
  | .begin => 0
  | .current => 1
  | .end => 2

structure CXFile64 where
  m_file : Int
  file : PosixFile

namespace CXFile64

/-- `dwReadLen` with the return value and the bytes that were put into `pBuf`. -/
def read (s : CXFile64) (dwWantReadLen : Nat) (a : Option Nat) : CXFile64 × Bool × Nat × List UInt8 :=
  if s.m_file ≤ 0 then (s, false, 0, [])
  else
    let r := s.file.read dwWantReadLen a
    ({ s with file := r.1 }, decide (0 < toDWORD r.2.1), toDWORD r.2.1, r.2.2)

/-- `GetFileLength`; `stat` is the `st_size` of the path, `none` for an error. -/
def getFileLength (s : CXFile64) (stat : Option Nat) : Option Nat := if s.m_file ≤ 0 then none else stat

/-- `lseek(m_file, SEEK_CUR, 0)` and `lseek(m_file, iWhence, pos)` -/
def seek (s : CXFile64) (pos : Int) (type : SeekType) (stat : Option Nat) (a₁ a₂ : SeekAnswer) :
    CXFile64 × Bool :=
  match s.getFileLength stat with
  | none => (s, false)
  | some uiFileLength =>
    if uiFileLength < toUInt64 pos then (s, false)
    else
      let old := s.file.lseek 1 0 a₁
      let new := old.1.lseek type.whence (toInt32 pos) a₂
      ({ s with file := new.1 }, decide (toUInt64 new.2 ≠ toUInt64 (-1)))

def getCurrentPosition (s : CXFile64) (a : SeekAnswer) : CXFile64 × Bool × Nat :=
  if s.m_file ≤ 0 then (s, false, 0)
  else
    let r := s.file.lseek 1 0 a
    ({ s with file := r.1 }, true, toUInt64 r.2)

def write (s : CXFile64) (pBuf : List UInt8) (a : Option Nat) : CXFile64 × Bool × Nat :=
  if s.m_file ≤ 0 then (s, false, 0)
  else
    let r := s.file.write pBuf a
    ({ s with file := r.1 }, decide (0 < toDWORD r.2), toDWORD r.2)

def truncateFile (s : CXFile64) (uiFileLen : Nat) (fails : Bool) : CXFile64 × Bool :=
  if s.m_file ≤ 0 then (s, false)
  else
    let r := s.file.ftruncate (toInt64 uiFileLen) fails
    ({ s with file := r.1 }, decide (r.2 < 0))

/-- A call with what the system calls in it answer. -/
inductive Call
  | seek (pos : Int) (type : SeekType) (stat : Option Nat) (a₁ a₂ : SeekAnswer)
  | read (dwWantReadLen : UInt32) (a : Option Nat)
  | write (pBuf : List UInt8) (dwBufLen : pBuf.length < 2 ^ 32) (a : Option Nat)
  | getCurrentPosition (a : SeekAnswer)
  | truncateFile (uiFileLen : UInt64) (fails : Bool)

inductive Result
  | seek (bRet : Bool)
  | read (bRet : Bool) (dwReadLen : Nat) (bytes : List UInt8)
  | write (bRet : Bool) (dwWrittenLen : Nat)
  | position (bRet : Bool) (uiPos : Nat)
  | truncated (bRet : Bool)

def step (s : CXFile64) : Call → CXFile64 × Result
  | .seek pos type stat a₁ a₂ => ((s.seek pos type stat a₁ a₂).1, .seek (s.seek pos type stat a₁ a₂).2)
  | .read n a => ((s.read n.toNat a).1, .read (s.read n.toNat a).2.1 (s.read n.toNat a).2.2.1 (s.read n.toNat a).2.2.2)
  | .write pBuf _ a => ((s.write pBuf a).1, .write (s.write pBuf a).2.1 (s.write pBuf a).2.2)
  | .getCurrentPosition a =>
    ((s.getCurrentPosition a).1, .position (s.getCurrentPosition a).2.1 (s.getCurrentPosition a).2.2)
  | .truncateFile n fails => ((s.truncateFile n.toNat fails).1, .truncated (s.truncateFile n.toNat fails).2)

/-! ### A file with a position -/

/-- The offset that a `Seek` asks for. -/
def requested (f : PosixFile) (pos : Int) : SeekType → Int
  | .begin => pos
  | .current => f.offset + pos
  | .end => f.contents.length + pos

/-- `Seek` moves the position to the requested offset, or returns false and leaves it. -/
def Sought (f f' : PosixFile) (pos : Int) (type : SeekType) (bRet : Bool) : Prop :=
  f'.contents = f.contents ∧
    ((bRet = true ∧ (f'.offset : Int) = requested f pos type) ∨ (bRet = false ∧ f'.offset = f.offset))

/-- `Read` hands out the next bytes and moves the position behind them; where it returns true it tells how many. -/
def GotBytes (f f' : PosixFile) (n : Nat) (bRet : Bool) (dwReadLen : Nat) (bytes : List UInt8) : Prop :=
  f'.contents = f.contents ∧ f'.offset = f.offset + bytes.length ∧
    bytes = (f.contents.drop f.offset).take bytes.length ∧ bytes.length ≤ n ∧ (bRet = true → dwReadLen = bytes.length)

/-- `Write` puts some of the bytes at the position and moves it behind them; where it returns true it tells how
many. -/
def PutBytes (f f' : PosixFile) (pBuf : List UInt8) (bRet : Bool) (dwWrittenLen : Nat) : Prop :=
  ∃ k ≤ pBuf.length, f'.contents = PosixFile.overwrite f.contents f.offset (pBuf.take k) ∧
    f'.offset = f.offset + k ∧ (bRet = true → dwWrittenLen = k)

/-- `TruncateFile` returns true just when the length was changed. -/
def Truncated (f f' : PosixFile) (bRet : Bool) : Prop :=
  f'.offset = f.offset ∧ (bRet = true ↔ f'.contents.length ≠ f.contents.length)

/-- What an operation may do to a file with a position, and what it may then return. -/
def Allowed (f f' : PosixFile) : Call → Result → Prop
  | .seek pos type _ _ _, .seek bRet => Sought f f' pos type bRet
  | .read n _, .read bRet dwReadLen bytes => GotBytes f f' n.toNat bRet dwReadLen bytes
  | .write pBuf _ _, .write bRet dwWrittenLen => PutBytes f f' pBuf bRet dwWrittenLen
  | .getCurrentPosition _, .position bRet uiPos => bRet = true ∧ uiPos = f.offset ∧ f' = f
  | .truncateFile _ _, .truncated bRet => Truncated f f' bRet
  | _, _ => False

/-- Every call of the run does what it may do. -/
def Refines : CXFile64 → List Call → Prop
  | _, [] => True
  | s, c :: cs => Allowed s.file (s.step c).1.file c (s.step c).2 ∧ Refines (s.step c).1 cs

/-- The position that the first `lseek` of `Seek` leaves. -/
def skipped (f : PosixFile) (a₁ : SeekAnswer) : PosixFile := if a₁.fails then f else { f with offset := 1 }

/-- `Seek` is right where the file is not looked at, and where the exchanged arguments happen to lead to the
requested offset, or the first call has not moved the position and the second fails. -/
def seekOk (f : PosixFile) (pos : Int) (type : SeekType) (stat : Option Nat) (a₁ a₂ : SeekAnswer) : Prop :=
  match stat with
  | none => True
  | some uiFileLength =>
    uiFileLength < toUInt64 pos ∨
      match (skipped f a₁).lands type.whence (toInt32 pos) a₂ with
      | some t => (t : Int) = requested f pos type
      | none => (skipped f a₁).offset = f.offset

/-- `GetCurrentPosition` goes to 1 and reports that, or -1 as `uint64`, which is no position of a file. -/
def positionOk (f : PosixFile) (a : SeekAnswer) : Prop := f.offset = if a.fails then 2 ^ 64 - 1 else 1

/-- `TruncateFile` has nothing to change. -/
def truncateOk (f : PosixFile) (uiFileLen : Nat) (fails : Bool) : Prop :=
  fails = false ∧ uiFileLen = f.contents.length ∧ uiFileLen < 2 ^ 63

/-- Where a call is right; `read` and `write` must not fail. -/
def callOk (f : PosixFile) : Call → Prop
  | .seek pos type stat a₁ a₂ => seekOk f pos type stat a₁ a₂
  | .read _ a | .write _ _ a => a.isSome
  | .getCurrentPosition a => positionOk f a
  | .truncateFile n fails => truncateOk f n.toNat fails

def RunOk : CXFile64 → List Call → Prop
  | _, [] => True
  | s, c :: cs => callOk s.file c ∧ RunOk (s.step c).1 cs

/-! ### One call -/

variable {s : CXFile64} {f : PosixFile}

theorem toUInt64_of_lt {t : Nat} (h : t < 2 ^ 63) : toUInt64 t = t := by
  unfold toUInt64
  omega

theorem toDWORD_of_lt {n : Nat} (h : n < 2 ^ 32) : toDWORD n = n := by
  unfold toDWORD
  omega

theorem lseek_skipped (a : SeekAnswer) : (f.lseek 1 0 a).1 = skipped f a := by
  have hl := PosixFile.lands_set (f := f) (t := 1) (a := a) (show 1 < 2 ^ 63 by decide)
  unfold PosixFile.lseek skipped
  rw [show ((1 : Nat) : Int) = 1 from rfl] at hl
  rw [hl]
  cases a.fails <;> rfl

theorem skipped_contents (a : SeekAnswer) : (skipped f a).contents = f.contents := by
  unfold skipped
  split <;> rfl

theorem lseek_contents (offset whence : Int) (a : SeekAnswer) :
    (f.lseek offset whence a).1.contents = f.contents := by
  unfold PosixFile.lseek
  split <;> rfl

theorem seek_iff (hopen : 0 < s.m_file) (pos : Int) (type : SeekType) (stat : Option Nat) (a₁ a₂ : SeekAnswer) :
    Sought s.file (s.seek pos type stat a₁ a₂).1.file pos type (s.seek pos type stat a₁ a₂).2 ↔
      seekOk s.file pos type stat a₁ a₂ := by
  unfold seek getFileLength seekOk
  rw [if_neg (not_le.mpr hopen)]
  cases stat with
  | none => exact iff_of_true ⟨rfl, Or.inr ⟨rfl, rfl⟩⟩ trivial
  | some uiFileLength =>
    dsimp only
    by_cases hlen : uiFileLength < toUInt64 pos
    · rw [if_pos hlen]
      exact iff_of_true ⟨rfl, Or.inr ⟨rfl, rfl⟩⟩ (Or.inl hlen)
    rw [if_neg hlen, lseek_skipped]
    have hcontents : ((skipped s.file a₁).lseek type.whence (toInt32 pos) a₂).1.contents = s.file.contents :=
      (lseek_contents ..).trans (skipped_contents a₁)
    unfold Sought
    dsimp only
    rw [hcontents]
    unfold PosixFile.lseek
    cases hl : (skipped s.file a₁).lands type.whence (toInt32 pos) a₂ with
    | none =>
      -- -1, with the position where the first call has put it
      simp [hlen]
    | some t =>
      have hne : toUInt64 t ≠ toUInt64 (-1) := by
        have ht := PosixFile.lands_lt hl
        rw [toUInt64_of_lt ht]
        unfold toUInt64
        omega
      simp [hlen, hne]

theorem read_none (hopen : 0 < s.m_file) (n : Nat) : s.read n none = (s, true, 2 ^ 32 - 1, []) := by
  unfold read
  rw [if_neg (not_le.mpr hopen)]
  rfl

theorem read_some (hopen : 0 < s.m_file) {n : Nat} (hn : n < 2 ^ 32) (k : Nat) {bytes : List UInt8}
    (hbytes : bytes = (s.file.contents.drop s.file.offset).take (min (k + 1) n)) :
    s.read n (some k) = ({ s with file := { s.file with offset := s.file.offset + bytes.length } },
      decide (0 < bytes.length), bytes.length, bytes) := by
  have hlt : bytes.length < 2 ^ 32 := by
    rw [hbytes, List.length_take]
    omega
  subst hbytes
  unfold read
  rw [if_neg (not_le.mpr hopen)]
  unfold PosixFile.read
  dsimp only
  rw [toDWORD_of_lt hlt]

theorem read_iff (hopen : 0 < s.m_file) {n : Nat} (hn : n < 2 ^ 32) (a : Option Nat) :
    GotBytes s.file (s.read n a).1.file n (s.read n a).2.1 (s.read n a).2.2.1 (s.read n a).2.2.2 ↔ a.isSome := by
  unfold read
  rw [if_neg (not_le.mpr hopen)]
  cases a with
  | none =>
    refine iff_of_false (fun h => ?_) Bool.false_ne_true
    obtain ⟨-, -, -, -, hcount⟩ := h
    have hbad : toDWORD (-1) = 0 := hcount rfl
    exact absurd hbad (by decide)
  | some k =>
    have hle := PosixFile.read_length_le (f := s.file) (n := n) (k := k)
    refine iff_of_true ⟨rfl, rfl, ?_, hle, fun _ => toDWORD_of_lt (lt_of_le_of_lt hle hn)⟩ rfl
    show (s.file.contents.drop s.file.offset).take (min (k + 1) n) = _
    rw [List.take_eq_take_min]
    exact congrArg (List.take · _) (List.length_take ..).symm

theorem write_iff (hopen : 0 < s.m_file) {pBuf : List UInt8} (hlen : pBuf.length < 2 ^ 32) (a : Option Nat) :
    PutBytes s.file (s.write pBuf a).1.file pBuf (s.write pBuf a).2.1 (s.write pBuf a).2.2 ↔ a.isSome := by
  unfold write
  rw [if_neg (not_le.mpr hopen)]
  cases a with
  | none =>
    refine iff_of_false ?_ Bool.false_ne_true
    rintro ⟨k, -, -, hoff, hcount⟩
    have hoff' : s.file.offset = s.file.offset + k := hoff
    obtain rfl : k = 0 := by omega
    have hbad : toDWORD (-1) = 0 := hcount rfl
    exact absurd hbad (by decide)
  | some k =>
    have hle : (pBuf.take (k + 1)).length ≤ pBuf.length := List.length_take_le' ..
    refine iff_of_true ⟨(pBuf.take (k + 1)).length, hle, ?_, rfl, fun _ => ?_⟩ rfl
    · rw [List.length_take, ← List.take_eq_take_min]
      rfl
    · exact toDWORD_of_lt (lt_of_le_of_lt hle hlen)

theorem getCurrentPosition_iff (hopen : 0 < s.m_file) (a : SeekAnswer) :
    ((s.getCurrentPosition a).2.1 = true ∧ (s.getCurrentPosition a).2.2 = s.file.offset ∧
      (s.getCurrentPosition a).1.file = s.file) ↔ positionOk s.file a := by
  have hl := PosixFile.lands_set (f := s.file) (t := 1) (a := a) (show 1 < 2 ^ 63 by decide)
  rw [show ((1 : Nat) : Int) = 1 from rfl] at hl
  unfold getCurrentPosition PosixFile.lseek positionOk
  rw [if_neg (not_le.mpr hopen), hl]
  cases a.fails with
  | true =>
    constructor
    · rintro ⟨-, hpos, -⟩
      exact hpos.symm
    · intro h
      exact ⟨rfl, h.symm, rfl⟩
  | false =>
    constructor
    · rintro ⟨-, hpos, -⟩
      exact hpos.symm
    · intro h
      refine ⟨rfl, h.symm, ?_⟩
      show { s.file with offset := 1 } = s.file
      rw [show (1 : Nat) = s.file.offset from h.symm]

theorem toInt64_of_lt {n : Nat} (h : n < 2 ^ 63) : toInt64 n = n := by
  unfold toInt64
  omega

theorem toInt64_neg {n : Nat} (h : 2 ^ 63 ≤ n) (hn : n < 2 ^ 64) : toInt64 n < 0 := by
  unfold toInt64
  omega

theorem truncateFile_iff (hopen : 0 < s.m_file) {n : Nat} (hn : n < 2 ^ 64) (fails : Bool) :
    Truncated s.file (s.truncateFile n fails).1.file (s.truncateFile n fails).2 ↔ truncateOk s.file n fails := by
  unfold truncateFile truncateOk
  rw [if_neg (not_le.mpr hopen)]
  by_cases hfail : fails = true ∨ toInt64 n < 0
  · -- the file is as it was, and true is returned
    have hres : s.file.ftruncate (toInt64 n) fails = (s.file, -1) := if_pos hfail
    rw [hres]
    refine iff_of_false (fun h => (h.2.mp rfl) rfl) ?_
    rintro ⟨hf, -, hlt⟩
    rcases hfail with ht | hneg
    · exact Bool.noConfusion (hf.symm.trans ht)
    · rw [toInt64_of_lt hlt] at hneg
      exact absurd hneg (not_lt.mpr (Int.natCast_nonneg n))
  · obtain ⟨hf, hnonneg⟩ := not_or.mp hfail
    obtain rfl : fails = false := Bool.eq_false_iff.mpr hf
    have hlt : n < 2 ^ 63 := by
      by_contra hge
      exact hnonneg (toInt64_neg (not_lt.mp hge) hn)
    have hlen := PosixFile.length_ftruncate (f := s.file) (not_lt.mp hnonneg)
    rw [toInt64_of_lt hlt] at hlen ⊢
    have hres : (s.file.ftruncate n false).2 = 0 := by
      unfold PosixFile.ftruncate
      rw [if_neg (by simp)]
    have hoff : (s.file.ftruncate n false).1.offset = s.file.offset := by
      unfold PosixFile.ftruncate
      split <;> rfl
    unfold Truncated
    dsimp only
    rw [hres, hoff, hlen, Int.toNat_natCast]
    constructor
    · rintro ⟨-, h⟩
      refine ⟨rfl, ?_, hlt⟩
      by_contra hne
      exact absurd (h.mpr hne) (by decide)
    · rintro ⟨-, h, -⟩
      exact ⟨rfl, fun hc => absurd hc (by decide), fun hc => absurd h hc⟩

/-! ### Runs -/

theorem step_open (c : Call) : (s.step c).1.m_file = s.m_file := by
  cases c with
  | seek pos type stat a₁ a₂ =>
    show (s.seek pos type stat a₁ a₂).1.m_file = _
    unfold seek
    split
    · rfl
    · split <;> rfl
  | read n a =>
    show (s.read n.toNat a).1.m_file = _
    unfold read
    split <;> rfl
  | write pBuf hlen a =>
    show (s.write pBuf a).1.m_file = _
    unfold write
    split <;> rfl
  | getCurrentPosition a =>
    show (s.getCurrentPosition a).1.m_file = _
    unfold getCurrentPosition
    split <;> rfl
  | truncateFile n fails =>
    show (s.truncateFile n.toNat fails).1.m_file = _
    unfold truncateFile
    split <;> rfl

theorem allowed_iff (hopen : 0 < s.m_file) (c : Call) :
    Allowed s.file (s.step c).1.file c (s.step c).2 ↔ callOk s.file c := by
  cases c with
  | seek pos type stat a₁ a₂ => exact seek_iff hopen pos type stat a₁ a₂
  | read n a => exact read_iff hopen n.toNat_lt a
  | write pBuf hlen a => exact write_iff hopen hlen a
  | getCurrentPosition a => exact getCurrentPosition_iff hopen a
  | truncateFile n fails => exact truncateFile_iff hopen n.toNat_lt fails

/-- A run does what a file with a position does just where each of its calls meets the condition. -/
theorem refines_iff {calls : List Call} (hopen : 0 < s.m_file) : Refines s calls ↔ RunOk s calls := by
  induction calls generalizing s with
  | nil => exact Iff.rfl
  | cons c calls ih => exact and_congr (allowed_iff hopen c) (ih ((step_open c).symm ▸ hopen))

/-- Reading three bytes of five and going on from the end: the one `Seek` that works for every file. -/
theorem refines_iff_seek_end : Refines ⟨3, ⟨[1, 2, 3, 4, 5], 0⟩⟩
    [.read 3 (some 9), .seek 2 .end (some 5) ⟨false, none⟩ ⟨false, none⟩, .read 3 (some 9)] := by
  refine (refines_iff (show (0 : Int) < 3 by decide)).mpr ⟨rfl, Or.inr ?_, rfl, trivial⟩
  simp [skipped, SeekType.whence, toInt32, PosixFile.lands, requested, step, read, PosixFile.read]

/-- `Seek(2, begin)` in a file of five bytes asks for `SEEK_END`. -/
theorem not_refines_seek_begin : ¬ ∀ (s : CXFile64) (calls : List Call), 0 < s.m_file → Refines s calls := by
  intro h
  obtain ⟨hseek, -⟩ := h ⟨3, ⟨[1, 2, 3, 4, 5], 0⟩⟩
    [.seek 2 .begin (some 5) ⟨false, none⟩ ⟨false, none⟩] (by decide)
  obtain ⟨-, ⟨-, hpos⟩ | ⟨hret, -⟩⟩ := hseek
  · exact absurd hpos (by decide)
  · exact absurd hret (by decide)

end CXFile64

end KonsanNet
