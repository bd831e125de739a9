import KonsanNet.Blocks
import KonsanNet.Packet
import Mathlib.Algebra.BigOperators.Group.Finset.Basic

/-!
# Reading a key file (`CXFastDataParserHandle::ReadKeyFile`)

The file is read in chunks of `CX_BUF_SIZE` bytes at most, and each chunk is appended as a C string.
`iTotalReadLen` is never increased, so the loop ends only with the end of the file, and it asks for whole chunks to
the last. A chunk that fills the array has no 0 behind it; whether one does depends on the length of the file and on
what the calls of `fread` return (`readKeyFile_iff`).
-/

namespace KonsanNet

namespace KeyFile

/-- `get_file_size`, whose `unsigned long` is cut to an `int`. -/
def privFileLen (file : List UInt8) : Int := Int.bmod file.length (2 ^ 32)

/-- `strOutputContent += szFileData`; `none` where no byte of the array ends the string. -/
def appendString (strOutputContent szFileData : List UInt8) : Option (List UInt8) :=
  if 0 ∈ szFileData then some (strOutputContent ++ szFileData.takeWhile (· ≠ 0)) else none

def readLenInOnce (iPrivFileLen iTotalReadLen : Int) : Nat :=
  if cxBufSize > iPrivFileLen - iTotalReadLen then (iPrivFileLen - iTotalReadLen).toNat else cxBufSize

/-- What `fread` returns, where it returns `count` bytes at most. -/
def fread (count iReadLenInOnce : Nat) (rest : List UInt8) : Nat := min count (min iReadLenInOnce rest.length)

/-- The loop on the rest of the file, with what it returns and `strOutputContent`; the calls of `fread` return
`counts 0`, `counts 1`, .. bytes at most. Without a byte left, `feof` is set. `none` is a read behind `szFileData`. -/
def readLoop (iPrivFileLen iTotalReadLen : Int) (counts : Nat → Nat) (szFileData strOutputContent : List UInt8)
    (rest : List UInt8) : Option (Bool × List UInt8) :=
  if iTotalReadLen < iPrivFileLen then
    if fread (counts 0) (readLenInOnce iPrivFileLen iTotalReadLen) rest = 0 then
      some (decide (rest = []), strOutputContent)
    else
      let iRead := fread (counts 0) (readLenInOnce iPrivFileLen iTotalReadLen) rest
      match appendString strOutputContent (patched szFileData 0 (rest.take iRead)) with
      | none => none
      | some strOutputContent =>
        -- `iTotalReadLen` is what it was
        readLoop iPrivFileLen iTotalReadLen (fun i => counts (i + 1)) (List.replicate cxBufSize 0) strOutputContent
          (rest.drop iRead)
  else some (true, strOutputContent)
termination_by rest.length
decreasing_by
  rename_i hread
  unfold fread at hread ⊢
  rw [List.length_drop]
  omega

/-- `file` is the content of the file, or `none` where it cannot be opened. -/
def readKeyFile (file : Option (List UInt8)) (counts : Nat → Nat) : Option (Bool × List UInt8) :=
  match file with
  | none => some (false, [])
  | some bs => readLoop (privFileLen bs) 0 counts (List.replicate cxBufSize 0) [] bs

/-- No `fread` that asks for a whole array fills it. -/
def NeverFull (counts : Nat → Nat) (len : Nat) : Prop :=
  ∀ i, cxBufSize ≤ counts i → len < ∑ j ∈ Finset.range i, counts j + cxBufSize

variable {counts : Nat → Nat} {iPrivFileLen : Int} {rest out : List UInt8} {len n : Nat}

theorem patched_replicate (n : Nat) (a : List UInt8) :
    patched (List.replicate n 0) 0 a = a ++ List.replicate (n - a.length) 0 := by
  unfold patched
  rw [List.take_zero, List.nil_append, List.drop_replicate, Nat.zero_add]

/-- The string of a chunk that leaves room in the array is the chunk. -/
theorem appendString_lt {chunk : List UInt8} (h0 : 0 ∉ chunk) (hlen : chunk.length < cxBufSize) :
    appendString out (patched (List.replicate cxBufSize 0) 0 chunk) = some (out ++ chunk) := by
  rw [patched_replicate, appendString]
  obtain ⟨k, hk⟩ : ∃ k, cxBufSize - chunk.length = k + 1 := ⟨cxBufSize - chunk.length - 1, by omega⟩
  rw [hk, List.replicate_succ, if_pos (List.mem_append_right _ List.mem_cons_self)]
  have hchunk : ∀ b ∈ chunk, decide (b ≠ 0) = true := fun b hb => decide_eq_true (ne_of_mem_of_not_mem hb h0)
  rw [List.takeWhile_append_of_pos hchunk, List.takeWhile_cons_of_neg (by simp), List.append_nil]

theorem appendString_full {chunk : List UInt8} (h0 : 0 ∉ chunk) (hlen : chunk.length = cxBufSize) :
    appendString out (patched (List.replicate cxBufSize 0) 0 chunk) = none := by
  rw [patched_replicate, hlen, Nat.sub_self, List.replicate_zero, List.append_nil, appendString, if_neg h0]

theorem neverFull_of_le (h : len ≤ counts 0) (hlt : len < cxBufSize) : NeverFull counts len := by
  intro i hi
  cases i with
  | zero =>
    rw [Finset.sum_range_zero, Nat.zero_add]
    exact hlt
  | succ i =>
    rw [Finset.sum_range_succ']
    have hpos : 0 < cxBufSize := by decide
    have hle : len ≤ ∑ j ∈ Finset.range i, counts (j + 1) + counts 0 := h.trans (Nat.le_add_left _ _)
    omega

/-- A first call that returns fewer bytes than an array and than are left. -/
theorem neverFull_succ (h : counts 0 < len) (hlt : counts 0 < cxBufSize) :
    NeverFull counts len ↔ NeverFull (fun i => counts (i + 1)) (len - counts 0) := by
  constructor
  · intro hn i hi
    have hlen := hn (i + 1) hi
    rw [Finset.sum_range_succ'] at hlen
    show len - counts 0 < ∑ j ∈ Finset.range i, counts (j + 1) + cxBufSize
    omega
  · intro hn i hi
    cases i with
    | zero => omega
    | succ i =>
      have hlen : len - counts 0 < ∑ j ∈ Finset.range i, counts (j + 1) + cxBufSize := hn i hi
      rw [Finset.sum_range_succ']
      omega

theorem readLoop_step (hpos : 0 < iPrivFileLen) (h0 : 0 ∉ rest) (hcount : 0 < counts 0) (hrest : rest ≠ [])
    (hlt : fread (counts 0) (readLenInOnce iPrivFileLen 0) rest < cxBufSize) :
    readLoop iPrivFileLen 0 counts (List.replicate cxBufSize 0) out rest =
      readLoop iPrivFileLen 0 (fun i => counts (i + 1)) (List.replicate cxBufSize 0)
        (out ++ rest.take (fread (counts 0) (readLenInOnce iPrivFileLen 0) rest))
        (rest.drop (fread (counts 0) (readLenInOnce iPrivFileLen 0) rest)) := by
  have hlen := List.length_pos_iff.mpr hrest
  have hread : fread (counts 0) (readLenInOnce iPrivFileLen 0) rest ≠ 0 := by
    have honce : 0 < readLenInOnce iPrivFileLen 0 := by
      have hbuf : 0 < cxBufSize := by decide
      unfold readLenInOnce
      split <;> omega
    unfold fread
    omega
  have htake : (rest.take (fread (counts 0) (readLenInOnce iPrivFileLen 0) rest)).length < cxBufSize :=
    lt_of_le_of_lt (List.length_take_le ..) hlt
  have happ := @appendString_lt out _ (fun hm => h0 (List.mem_of_mem_take hm)) htake
  rw [readLoop, if_pos hpos, if_neg hread]
  simp only [happ]

theorem readLoop_nil (szFileData : List UInt8) :
    readLoop iPrivFileLen 0 counts szFileData out [] = some (true, out) := by
  rw [readLoop]
  split
  · rw [if_pos (by simp [fread])]
    rfl
  · rfl

/-- The induction is on the rest of the file, which each round shortens. -/
theorem readLoop_eq (hpos : 0 < iPrivFileLen) (hcounts : ∀ i, 0 < counts i) (h0 : 0 ∉ rest)
    (hshort : iPrivFileLen < cxBufSize ∨ NeverFull counts rest.length) :
    readLoop iPrivFileLen 0 counts (List.replicate cxBufSize 0) out rest = some (true, out ++ rest) := by
  induction hn : rest.length using Nat.strong_induction_on generalizing counts out rest with
  | _ n ih =>
    by_cases hrest : rest = []
    · subst hrest
      rw [readLoop_nil, List.append_nil]
    have hlen := List.length_pos_iff.mpr hrest
    have hcount := hcounts 0
    have honce : 0 < readLenInOnce iPrivFileLen 0 ∧ readLenInOnce iPrivFileLen 0 ≤ cxBufSize ∧
        (iPrivFileLen < cxBufSize → readLenInOnce iPrivFileLen 0 < cxBufSize) := by
      have hbuf : 0 < cxBufSize := by decide
      unfold readLenInOnce
      split <;> omega
    have hlt : fread (counts 0) (readLenInOnce iPrivFileLen 0) rest < cxBufSize := by
      unfold fread
      rcases hshort with hlt | hnever
      · have := honce.2.2 hlt
        omega
      · -- the first call fills the array only if there are bytes enough
        by_contra hfull
        have hfirst := hnever 0 (by omega)
        rw [Finset.sum_range_zero] at hfirst
        omega
    rw [readLoop_step hpos h0 hcount hrest hlt]
    have hread : 0 < fread (counts 0) (readLenInOnce iPrivFileLen 0) rest := by
      unfold fread
      omega
    have hshort' : iPrivFileLen < cxBufSize ∨ NeverFull (fun i => counts (i + 1))
        (rest.drop (fread (counts 0) (readLenInOnce iPrivFileLen 0) rest)).length := by
      rcases hshort with hlt' | hnever
      · exact .inl hlt'
      by_cases hsmall : iPrivFileLen < cxBufSize
      · exact .inl hsmall
      right
      have hwhole : readLenInOnce iPrivFileLen 0 = cxBufSize := by
        unfold readLenInOnce
        rw [if_neg (by omega)]
      rw [List.length_drop]
      unfold fread at hlt ⊢
      rw [hwhole] at hlt ⊢
      by_cases hall : rest.length ≤ counts 0
      · rw [show rest.length - min (counts 0) (min cxBufSize rest.length) = 0 by omega]
        exact fun i _ => Nat.lt_of_lt_of_le (by decide) (Nat.le_add_left _ _)
      · rw [show min (counts 0) (min cxBufSize rest.length) = counts 0 by omega]
        exact (neverFull_succ (by omega) (by omega)).mp hnever
    have hdrop : (rest.drop (fread (counts 0) (readLenInOnce iPrivFileLen 0) rest)).length < n := by
      rw [List.length_drop]
      omega
    rw [ih _ hdrop (fun i => hcounts (i + 1)) (fun hm => h0 (List.mem_of_mem_drop hm)) hshort' rfl, List.append_assoc,
      List.take_append_drop]

/-- A call that fills the array: the string goes on behind it. -/
theorem readLoop_eq_none (hlarge : (cxBufSize : Int) ≤ iPrivFileLen) (hcounts : ∀ i, 0 < counts i) (h0 : 0 ∉ rest)
    (hfull : ¬ NeverFull counts rest.length) :
    readLoop iPrivFileLen 0 counts (List.replicate cxBufSize 0) out rest = none := by
  induction hn : rest.length using Nat.strong_induction_on generalizing counts out rest with
  | _ n ih =>
    have hbuf : 0 < cxBufSize := by decide
    have hpos : 0 < iPrivFileLen := by omega
    have hcount := hcounts 0
    have hwhole : readLenInOnce iPrivFileLen 0 = cxBufSize := by
      unfold readLenInOnce
      rw [if_neg (by omega)]
    have hrest : rest ≠ [] := by
      rintro rfl
      exact hfull fun i _ => Nat.lt_of_lt_of_le hbuf (Nat.le_add_left _ _)
    have hlen := List.length_pos_iff.mpr hrest
    by_cases hfirst : cxBufSize ≤ counts 0 ∧ cxBufSize ≤ rest.length
    · have hread : fread (counts 0) (readLenInOnce iPrivFileLen 0) rest = cxBufSize := by
        rw [hwhole, fread]
        omega
      have htake : (rest.take cxBufSize).length = cxBufSize := List.length_take_of_le hfirst.2
      rw [readLoop, if_pos hpos, hread, if_neg (by omega)]
      simp only [@appendString_full out _ (fun hm => h0 (List.mem_of_mem_take hm)) htake]
    · have hlt : counts 0 < cxBufSize ∧ counts 0 < rest.length := by
        by_contra hno
        exact hfull (neverFull_of_le (by omega) (by omega))
      have hread : fread (counts 0) (readLenInOnce iPrivFileLen 0) rest = counts 0 := by
        rw [hwhole, fread]
        omega
      rw [readLoop_step hpos h0 hcount hrest (by omega), hread]
      have hfull' : ¬ NeverFull (fun i => counts (i + 1)) (rest.drop (counts 0)).length := by
        rw [List.length_drop]
        exact fun hno => hfull ((neverFull_succ hlt.2 hlt.1).mpr hno)
      refine ih _ ?_ (fun i => hcounts (i + 1)) (fun hm => h0 (List.mem_of_mem_drop hm)) hfull' rfl
      rw [List.length_drop]
      omega

/-- For every key file without a 0 and all counts that `fread` may return: the file is read exactly if it is empty, or
its length is positive as an `int` and no call fills the array. -/
theorem readKeyFile_iff {file : List UInt8} (h0 : 0 ∉ file) (hcounts : ∀ i, 0 < counts i) :
    readKeyFile (some file) counts = some (true, file) ↔
      file = [] ∨ 0 < privFileLen file ∧ (privFileLen file < cxBufSize ∨ NeverFull counts file.length) := by
  show readLoop (privFileLen file) 0 counts (List.replicate cxBufSize 0) [] file = some (true, file) ↔ _
  constructor
  · intro hread
    by_contra hno
    obtain ⟨hne, hno⟩ := not_or.mp hno
    by_cases hpos : 0 < privFileLen file
    · obtain ⟨hlarge, hfull⟩ := not_or.mp fun hor => hno ⟨hpos, hor⟩
      rw [readLoop_eq_none (not_lt.mp hlarge) hcounts h0 hfull] at hread
      cases hread
    · -- the loop is not entered
      rw [readLoop, if_neg hpos] at hread
      exact hne (Prod.ext_iff.mp (Option.some.inj hread)).2.symm
  · rintro (rfl | ⟨hpos, hshort⟩)
    · exact readLoop_nil _
    · rw [readLoop_eq hpos hcounts h0 hshort, List.nil_append]

/-- Two bytes, of which the first call returns one. -/
theorem readKeyFile_two : readKeyFile (some [48, 49]) (fun _ => 1) = some (true, [48, 49]) ↔
    [48, 49] = ([] : List UInt8) ∨ 0 < privFileLen [48, 49] ∧
      (privFileLen [48, 49] < cxBufSize ∨ NeverFull (fun _ => 1) [(48 : UInt8), 49].length) :=
  readKeyFile_iff (by decide) fun _ => by decide

theorem privFileLen_of_lt {file : List UInt8} (h : file.length < 2 ^ 31) : privFileLen file = file.length :=
  Int.bmod_eq_of_le (by norm_num) (by norm_num; omega)

theorem readKeyFile_eq_none {file : List UInt8} (h0 : 0 ∉ file) (hlen : file.length = cxBufSize) :
    readKeyFile (some file) (fun _ => cxBufSize) = none := by
  have hbuf : cxBufSize = 4096 := rfl
  have hfile : privFileLen file = cxBufSize := hlen ▸ privFileLen_of_lt (by omega)
  show readLoop (privFileLen file) 0 _ _ _ _ = none
  rw [hfile]
  refine readLoop_eq_none (le_refl _) (fun _ => by omega) h0 fun hnever => ?_
  have hfirst := hnever 0 (le_refl _)
  rw [hlen, Finset.sum_range_zero, Nat.zero_add] at hfirst
  exact absurd hfirst (lt_irrefl _)

/-- Of a file of 4096 bytes that is read in one call, the string goes on behind the array. -/
theorem not_readKeyFile_full : readKeyFile (some (List.replicate 4096 48)) (fun _ => 4096) ≠
    some (true, List.replicate 4096 48) := by
  have hnone := @readKeyFile_eq_none (List.replicate cxBufSize 48)
    (fun hm => absurd (List.eq_of_mem_replicate hm) (by decide)) List.length_replicate
  intro hread
  exact absurd (hnone.symm.trans hread) nofun

end KeyFile

end KonsanNet
