import Mathlib.Tactic

/-!
# A regular file with a position

The system calls on one descriptor, with -1 possible for each and short counts for `read` and `write`. An
`offset` or a result is an `Int` here; the caller's types are the caller's matter.
-/

namespace KonsanNet

structure PosixFile where
  contents : List UInt8
  offset : Nat
deriving DecidableEq, Repr

/-- One `lseek`: whether it fails of itself, and where a `whence` of the system's own (3 and 4) leads. -/
structure SeekAnswer where
  fails : Bool
  other : Option Nat

namespace PosixFile

/-- Where `lseek` leads, `none` for -1. -/
def lands (f : PosixFile) (offset whence : Int) (a : SeekAnswer) : Option Nat :=
  if a.fails then none
  else
    let target : Option Int :=
      if whence = 0 then some offset
      else if whence = 1 then some (f.offset + offset)
      else if whence = 2 then some (f.contents.length + offset)
      else if whence = 3 ∨ whence = 4 then a.other.map Int.ofNat
      else none
    match target with
    | none => none
    | some t => if 0 ≤ t ∧ t < 2 ^ 63 then some t.toNat else none

def lseek (f : PosixFile) (offset whence : Int) (a : SeekAnswer) : PosixFile × Int :=
  match f.lands offset whence a with
  | none => (f, -1)
  | some t => ({ f with offset := t }, t)

/-- `read` of `n` bytes: the answer is an error, or a count that is cut to what there is; 0 only at the end. -/
def read (f : PosixFile) (n : Nat) (a : Option Nat) : PosixFile × Int × List UInt8 :=
  match a with
  | none => (f, -1, [])
  | some k =>
    let bytes := (f.contents.drop f.offset).take (min (k + 1) n)
    ({ f with offset := f.offset + bytes.length }, bytes.length, bytes)

/-- The file with `bytes` at `offset`; a gap is filled with zeros. -/
def overwrite (contents : List UInt8) (offset : Nat) (bytes : List UInt8) : List UInt8 :=
  if bytes = [] then contents
  else contents.take offset ++ List.replicate (offset - contents.length) 0 ++ bytes ++
    contents.drop (offset + bytes.length)

/-- `write`: the answer is an error, or a count that is cut to the length of the buffer. -/
def write (f : PosixFile) (buf : List UInt8) (a : Option Nat) : PosixFile × Int :=
  match a with
  | none => (f, -1)
  | some k =>
    let bytes := buf.take (k + 1)
    ({ contents := overwrite f.contents f.offset bytes, offset := f.offset + bytes.length }, bytes.length)

def ftruncate (f : PosixFile) (length : Int) (fails : Bool) : PosixFile × Int :=
  if fails ∨ length < 0 then (f, -1)
  else ({ f with
    contents := f.contents.take length.toNat ++ List.replicate (length.toNat - f.contents.length) 0 }, 0)

variable {f : PosixFile}

theorem lands_lt {offset whence : Int} {a : SeekAnswer} {t : Nat} (h : f.lands offset whence a = some t) :
    t < 2 ^ 63 := by
  unfold lands at h
  split at h
  · cases h
  dsimp only at h
  split at h
  · cases h
  split at h
  · rename_i ht
    cases h
    omega
  · cases h

theorem lands_set {t : Nat} {a : SeekAnswer} (ht : t < 2 ^ 63) :
    f.lands t 0 a = if a.fails then none else some t := by
  unfold lands
  split
  · rfl
  · simp only [if_true]
    rw [if_pos ⟨Int.natCast_nonneg t, by exact_mod_cast ht⟩, Int.toNat_natCast]

theorem read_length_le {n k : Nat} : (f.read n (some k)).2.2.length ≤ n := by
  show ((f.contents.drop f.offset).take (min (k + 1) n)).length ≤ n
  rw [List.length_take]
  omega

theorem length_ftruncate {length : Int} (h : 0 ≤ length) :
    (f.ftruncate length false).1.contents.length = length.toNat := by
  unfold ftruncate
  rw [if_neg (by simp [h])]
  simp only [List.length_append, List.length_take, List.length_replicate]
  omega

end PosixFile

end KonsanNet
