import Mathlib.Tactic
import KonsanNet.RemoteFileInv

/-!
# Runs of a client of a file, and an upload

`RunConforms` has a step of `Conforms` for each operation of a run: what succeeds was done once, what fails at most
once, and in the order of the calls. `uploads` are the calls of `Write` with its default arguments that send a file in
parts. Their run puts the buffers whose `Write` has succeeded one behind the other; of the one that fails and closes
the client a part may follow (`upload_contents`).
-/

namespace KonsanNet

namespace PosixFile

theorem overwrite_nil_left {bytes : List UInt8} : overwrite [] 0 bytes = bytes := by
  unfold overwrite
  split
  · rename_i h
    exact h.symm
  · simp

theorem overwrite_overwrite {contents a b : List UInt8} {offset : Nat} :
    overwrite (overwrite contents offset a) (offset + a.length) b = overwrite contents offset (a ++ b) := by
  rcases eq_or_ne a [] with rfl | ha
  · rfl
  rcases eq_or_ne b [] with rfl | hb
  · rw [List.append_nil]
    exact if_pos rfl
  have hab : a ++ b ≠ [] := by simp [ha]
  unfold overwrite
  rw [if_neg hb, if_neg ha, if_neg hab]
  obtain ⟨front, hfront⟩ : ∃ front, contents.take offset ++ List.replicate (offset - contents.length) 0 = front :=
    ⟨_, rfl⟩
  have hlen : front.length = offset := by
    rw [← hfront, List.length_append, List.length_take, List.length_replicate]
    omega
  have hlen' : (front ++ a).length = offset + a.length := by rw [List.length_append, hlen]
  have hgap : offset + a.length - (front ++ a ++ contents.drop (offset + a.length)).length = 0 := by
    rw [List.length_append, hlen']
    omega
  have hfar : (front ++ a ++ contents.drop (offset + a.length)).drop (offset + a.length + b.length) =
      contents.drop (offset + (a ++ b).length) := by
    rw [← hlen', ← List.drop_drop, List.drop_left, List.drop_drop, hlen', List.length_append, Nat.add_assoc]
  have hnear : (front ++ a ++ contents.drop (offset + a.length)).take (offset + a.length) = front ++ a := by
    rw [← hlen', List.take_left]
  rw [hfront, hgap, hfar, hnear, List.replicate_zero, List.append_nil, List.append_assoc front a b]

end PosixFile

namespace RemoteFile

variable {c : OpEnv} {r r' : RemoteFile} {e : FileEnv} {s s' : CXFileRPCServer}

inductive RunConforms : RemoteFile → List (OpEnv × FileOp) → RemoteFile → List FileResult → Prop
  | nil {r : RemoteFile} : RunConforms r [] r []
  | cons {c : OpEnv} {op : FileOp} {ops : List (OpEnv × FileOp)} {res : FileResult} {results : List FileResult}
    {r r' r'' : RemoteFile} (h : Conforms c r r' op res) (hrest : RunConforms r' ops r'' results) :
    RunConforms r ((c, op) :: ops) r'' (res :: results)
  /-- the run is followed up to a reply that nobody has received -/
  | unread {c : OpEnv} {op : FileOp} {ops : List (OpEnv × FileOp)} {res : FileResult} {r r' : RemoteFile}
    (h : Conforms c r r' op res) (hunread : RemoteFile.unread r' res = true) : RunConforms r ((c, op) :: ops) r' [res]

theorem closing_file (h : Closing s s') : s'.m_file.file = s.m_file.file := by
  rcases h with rfl | rfl
  · rfl
  · unfold CXFileRPCServer.closeHandle
    split
    · rfl
    · split <;> rfl

theorem write_part (f : CXFile64) (pBuf : List UInt8) (a : Option Nat) : ∃ part, part <+: pBuf ∧
    (f.write pBuf a).1.file =
      ⟨PosixFile.overwrite f.file.contents f.file.offset part, f.file.offset + part.length⟩ := by
  unfold CXFile64.write
  split
  · exact ⟨[], List.nil_prefix, rfl⟩
  · cases a with
    | none => exact ⟨[], List.nil_prefix, rfl⟩
    | some k => exact ⟨pBuf.take (k + 1), List.take_prefix .., rfl⟩

/-- The count is that of the buffer only where all of it was written. -/
theorem write_whole {f file : CXFile64} {pBuf : List UInt8} {a : Option Nat} (hlen : pBuf.length < 2 ^ 31)
    (h : f.write pBuf a = (file, true, pBuf.length)) :
    file.file = ⟨PosixFile.overwrite f.file.contents f.file.offset pBuf, f.file.offset + pBuf.length⟩ := by
  unfold CXFile64.write at h
  split at h
  · cases h
  obtain ⟨rfl, hrest⟩ := Prod.mk.inj h
  obtain ⟨-, hcount⟩ := Prod.mk.inj hrest
  cases a with
  | none =>
    have hcount : 2 ^ 32 - 1 = pBuf.length := hcount
    omega
  | some k =>
    have hcount : toDWORD (pBuf.take (k + 1)).length = pBuf.length := hcount
    have hle : (pBuf.take (k + 1)).length ≤ pBuf.length := List.length_take_le' ..
    rw [CXFile64.toDWORD_of_lt (by omega)] at hcount
    have hall : pBuf.take (k + 1) = pBuf := (List.take_prefix ..).eq_of_length hcount
    show PosixFile.mk (PosixFile.overwrite _ _ (pBuf.take (k + 1))) (_ + (pBuf.take (k + 1)).length) = _
    rw [hall]

theorem seekFile_current :
    s.seekFile e SeekType.current.value (toInt64 (0 : UInt64).toNat) = (s, true) :=
  if_pos ⟨rfl, by simp [toInt64]⟩

/-- `Write` at the current position puts a part of the buffer into the file. -/
theorem apply_write_current {pBuf : List UInt8} : ∃ part, part <+: pBuf ∧
    (s.apply e (.write pBuf 0 .current)).m_file.file.contents =
      PosixFile.overwrite s.m_file.file.contents s.m_file.file.offset part := by
  unfold CXFileRPCServer.apply CXFileRPCServer.write
  dsimp only
  split
  · exact ⟨[], List.nil_prefix, rfl⟩
  rw [seekFile_current]
  dsimp only
  rw [List.take_length]
  obtain ⟨part, hpart, hfile⟩ := write_part s.m_file pBuf e.write
  refine ⟨part, hpart, ?_⟩
  split
  · show ((s.m_file.write pBuf e.write).1.getCurrentPosition e.position).1.file.contents = _
    unfold CXFile64.getCurrentPosition
    split
    · rw [hfile]
    · dsimp only
      rw [CXFile64.lseek_contents, hfile]
  · show (s.m_file.write pBuf e.write).1.file.contents = _
    rw [hfile]

/-- What one `Write` of an upload does. -/
inductive PartWritten (pBuf : List UInt8) (r r' : RemoteFile) (res : FileResult) : Prop
  | kept (hret : res.iRet = -1 ∨ res.iRet = -7) (hr : r' = r)
  | acknowledged (hret : res.iRet = 0) (hopened : r'.m_bIsOpened = true)
    (hfile : r'.server.m_file.file =
      ⟨PosixFile.overwrite r.server.m_file.file.contents r.server.m_file.file.offset pBuf,
        r.server.m_file.file.offset + pBuf.length⟩)
  | failed (hret : res.iRet < 0) (hclosed : r'.m_bIsOpened = false)
    (hfile : ∃ part, part <+: pBuf ∧ r'.server.m_file.file.contents =
      PosixFile.overwrite r.server.m_file.file.contents r.server.m_file.file.offset part)

theorem write_current {pBuf : List UInt8} (hopen : r.m_bIsOpened = true) (hlen : pBuf.length < 2 ^ 31) :
    PartWritten pBuf r (r.write c pBuf 0 .current).1 (r.write c pBuf 0 .current).2 := by
  generalize hstep : r.write c pBuf 0 .current = q
  have h : Conforms c r (r.write c pBuf 0 .current).1 (.write pBuf 0 .current) (r.write c pBuf 0 .current).2 :=
    conforms_write hlen
  rw [hstep] at h
  obtain ⟨r', res⟩ := q
  cases h with
  | refused hclosed =>
    rw [hclosed] at hopen
    cases hopen
  | kept hret hr => exact .kept hret hr
  | done hs hdirect hopened =>
    obtain ⟨-, rfl⟩ := hs
    cases hdirect with
    | write _ hseek hwrite hs' =>
      rw [seekFile_current] at hseek
      cases hseek
      refine .acknowledged rfl hopened ?_
      show r'.server.m_file.file = _
      rw [hs']
      exact write_whole hlen hwrite
  | failed hs htried hret hclosed =>
    obtain rfl := hs
    obtain ⟨s₁, hs₁, hclosing⟩ := htried
    refine .failed hret hclosed ?_
    rw [closing_file hclosing]
    rcases hs₁ with rfl | rfl
    · exact ⟨[], List.nil_prefix, rfl⟩
    · exact apply_write_current

theorem PartWritten.unread_eq {pBuf : List UInt8} {res : FileResult} (h : PartWritten pBuf r r' res) :
    unread r' res = false := by
  cases h with
  | kept hret hr =>
    have hne : res.iRet ≠ -6 := by omega
    simp [unread, hne]
  | acknowledged hret hopened hfile => simp [unread, hret]
  | failed hret hclosed hfile => simp [unread, hclosed]

theorem run_cons {op : FileOp} {ops : List (OpEnv × FileOp)} (h : unread (r.step c op).1 (r.step c op).2 = false) :
    r.run ((c, op) :: ops) = (((r.step c op).1.run ops).1, (r.step c op).2 :: ((r.step c op).1.run ops).2) := by
  show (if _ then _ else _) = _
  rw [if_neg (by rw [h]; exact Bool.false_ne_true)]

/-! ### An upload -/

/-- `Write(pBuf, iBufLen, &iWrittenLen)` for each of the buffers. -/
def uploads (bufs : List (OpEnv × List UInt8)) : List (OpEnv × FileOp) :=
  bufs.map fun p => (p.1, .write p.2 0 .current)

/-- The bytes whose `Write` has succeeded. -/
def acked : List (OpEnv × List UInt8) → List FileResult → List UInt8
  | p :: bufs, res :: results => (if res.iRet = 0 then p.2 else []) ++ acked bufs results
  | _, _ => []

theorem run_uploads_closed (hclosed : r.m_bIsOpened = false) (bufs : List (OpEnv × List UInt8)) :
    (r.run (uploads bufs)).1 = r ∧ acked bufs (r.run (uploads bufs)).2 = [] := by
  induction bufs with
  | nil => exact ⟨rfl, rfl⟩
  | cons p bufs ih =>
    have hstep : r.step p.1 (.write p.2 0 .current) = (r, ⟨-2, none, []⟩) := by
      show r.write p.1 p.2 0 .current = _
      unfold write
      rw [hclosed]
      rfl
    have hrun : r.run (uploads (p :: bufs)) =
        ((r.run (uploads bufs)).1, ⟨-2, none, []⟩ :: (r.run (uploads bufs)).2) := by
      show r.run ((p.1, .write p.2 0 .current) :: uploads bufs) = _
      rw [run_cons (by rw [hstep]; rfl), hstep]
    rw [hrun]
    exact ⟨ih.1, ih.2⟩

/-- The file after a run of uploads, over what was there before. -/
structure Uploaded (bufs : List (OpEnv × List UInt8)) (f : PosixFile) (q : RemoteFile × List FileResult)
    (part : List UInt8) : Prop where
  contents : q.1.server.m_file.file.contents = PosixFile.overwrite f.contents f.offset (acked bufs q.2 ++ part)
  position : q.1.m_bIsOpened = true → part = [] ∧ q.1.server.m_file.file.offset = f.offset + (acked bufs q.2).length
  /-- of a buffer whose `Write` has failed -/
  part : part ≠ [] → ∃ p ∈ bufs.zip q.2, p.2.iRet < 0 ∧ part <+: p.1.2

theorem run_uploads {bufs : List (OpEnv × List UInt8)} (hopen : r.m_bIsOpened = true)
    (hlen : ∀ p ∈ bufs, p.2.length < 2 ^ 31) :
    ∃ part, Uploaded bufs r.server.m_file.file (r.run (uploads bufs)) part := by
  induction bufs generalizing r with
  | nil => exact ⟨[], rfl, fun _ => ⟨rfl, rfl⟩, fun h => absurd rfl h⟩
  | cons p bufs ih =>
    have hstep := write_current (c := p.1) hopen (hlen p (List.mem_cons_self ..))
    have hrun : r.run (uploads (p :: bufs)) = (((r.write p.1 p.2 0 .current).1.run (uploads bufs)).1,
      (r.write p.1 p.2 0 .current).2 :: ((r.write p.1 p.2 0 .current).1.run (uploads bufs)).2) :=
      run_cons hstep.unread_eq
    have hrest : ∀ p ∈ bufs, p.2.length < 2 ^ 31 := fun p hp => hlen p (List.mem_cons_of_mem _ hp)
    rw [hrun]
    generalize r.write p.1 p.2 0 .current = q at hstep
    obtain ⟨r', res⟩ := q
    dsimp only at hstep ⊢
    cases hstep with
    | kept hret hr =>
      subst hr
      obtain ⟨part, hcontents, hposition, hpart⟩ := ih hopen hrest
      have hacked : acked (p :: bufs) (res :: (r'.run (uploads bufs)).2) = acked bufs (r'.run (uploads bufs)).2 := by
        show (if _ then _ else _) ++ _ = _
        rw [if_neg (by omega), List.nil_append]
      refine ⟨part, ?_, ?_, fun h => ?_⟩
      · rw [hacked]
        exact hcontents
      · rw [hacked]
        exact hposition
      · obtain ⟨b, hb, hbad⟩ := hpart h
        exact ⟨b, List.mem_cons_of_mem _ hb, hbad⟩
    | acknowledged hret hopened hfile =>
      obtain ⟨part, hcontents, hposition, hpart⟩ := ih hopened hrest
      have hacked : acked (p :: bufs) (res :: (r'.run (uploads bufs)).2) =
          p.2 ++ acked bufs (r'.run (uploads bufs)).2 := by
        show (if _ then _ else _) ++ _ = _
        rw [if_pos hret]
      rw [hfile] at hcontents hposition
      refine ⟨part, ?_, ?_, fun h => ?_⟩
      · rw [hacked, List.append_assoc, ← PosixFile.overwrite_overwrite]
        exact hcontents
      · rw [hacked, List.length_append, ← Nat.add_assoc]
        exact hposition
      · obtain ⟨b, hb, hbad⟩ := hpart h
        exact ⟨b, List.mem_cons_of_mem _ hb, hbad⟩
    | failed hret hclosed hfile =>
      obtain ⟨part, hprefix, hcontents⟩ := hfile
      obtain ⟨hkept, hnone⟩ := run_uploads_closed hclosed bufs
      have hacked : acked (p :: bufs) (res :: (r'.run (uploads bufs)).2) = [] := by
        show (if _ then _ else _) ++ _ = _
        rw [if_neg (by omega), hnone]
        rfl
      refine ⟨part, ?_, fun h => ?_, fun _ => ⟨(p, res), List.mem_cons_self .., hret, hprefix⟩⟩
      · rw [hacked]
        show (r'.run (uploads bufs)).1.server.m_file.file.contents = _
        rw [hkept]
        exact hcontents
      · have h : (r'.run (uploads bufs)).1.m_bIsOpened = true := h
        rw [hkept, hclosed] at h
        cases h

/-- The file that `Open` gives is empty or what was there, at its begin. -/
theorem openFile_file {path : List UInt8} {type : OpenType} {b : Bool} (hpath : path.length + 9 ≤ 4096)
    (hret : (r.openFile c path type b).2.iRet = 0) :
    (r.openFile c path type b).1.m_bIsOpened = true ∧ (r.openFile c path type b).1.server.m_file.file =
      ⟨if CXFileRPCServer.truncates type.value then [] else c.file.contents, 0⟩ := by
  have h : Conforms c r (r.openFile c path type b).1 (.open path type b) (r.openFile c path type b).2 :=
    conforms_open hpath
  generalize r.openFile c path type b = q at h hret
  obtain ⟨r', res⟩ := q
  dsimp only at h hret
  cases h with
  | refused _ hop => cases hop
  | kept hbad =>
    rw [hret] at hbad
    simp at hbad
  | failed _ _ hbad => omega
  | done hs hdirect hopened =>
    refine ⟨hopened, ?_⟩
    cases hdirect with
    | «open» h =>
      unfold CXFileRPCServer.openHandle at h
      split at h
      · exact absurd (Prod.mk.inj h).2 Bool.false_ne_true
      · obtain ⟨hs', -⟩ := Prod.mk.inj h
        show r'.server.m_file.file = _
        rw [← hs']

/-- After `Open` the file on the server is what was acknowledged, with at most a part of one more buffer. -/
theorem upload_contents {path : List UInt8} {type : OpenType} {b : Bool} {bufs : List (OpEnv × List UInt8)}
    (hpath : path.length + 9 ≤ 4096) (hret : (r.openFile c path type b).2.iRet = 0)
    (hlen : ∀ p ∈ bufs, p.2.length < 2 ^ 31) :
    ∃ part, Uploaded bufs ⟨if CXFileRPCServer.truncates type.value then [] else c.file.contents, 0⟩
        ((r.openFile c path type b).1.run (uploads bufs)) part ∧
      (CXFileRPCServer.truncates type.value = true →
        ((r.openFile c path type b).1.run (uploads bufs)).1.server.m_file.file.contents =
          acked bufs ((r.openFile c path type b).1.run (uploads bufs)).2 ++ part) := by
  obtain ⟨hopen, hfile⟩ := openFile_file hpath hret
  obtain ⟨part, hup⟩ := run_uploads hopen hlen
  rw [hfile] at hup
  refine ⟨part, hup, fun htrunc => ?_⟩
  have hcontents := hup.contents
  rw [if_pos htrunc] at hcontents
  rw [hcontents, PosixFile.overwrite_nil_left]

/-! ### A run with a reply that is lost -/

def plainFileEnv : FileEnv where
  fd := 3
  contents := [9]
  stat := some 1
  seek₁ := ⟨false, none⟩
  seek₂ := ⟨false, none⟩
  write := some 100
  position := ⟨false, none⟩
  read := [some 100]
  getSendBuffer := true
  dwError := 0
  strerror := []

def plainOp (transfer : Transfer) : OpEnv := ⟨.connected, transfer, plainFileEnv, true, true, .answered, plainFileEnv⟩

def closedClient : RemoteFile := ⟨false, ⟨⟨-1, ⟨[], 0⟩⟩, false, []⟩⟩

/-- The second `Write` is carried out without its reply. -/
def lostBufs : List (OpEnv × List UInt8) :=
  [(plainOp .answered, [1, 2]), (plainOp .replyLost, [3]), (plainOp .answered, [4])]

theorem upload_contents_lost : ∃ part,
    Uploaded lostBufs
        ⟨if CXFileRPCServer.truncates OpenType.modeWrite.value then [] else (plainOp .answered).file.contents, 0⟩
        ((closedClient.openFile (plainOp .answered) [102] .modeWrite false).1.run (uploads lostBufs)) part ∧
      (CXFileRPCServer.truncates OpenType.modeWrite.value = true →
        ((closedClient.openFile (plainOp .answered) [102] .modeWrite false).1.run
          (uploads lostBufs)).1.server.m_file.file.contents =
          acked lostBufs ((closedClient.openFile (plainOp .answered) [102] .modeWrite false).1.run
            (uploads lostBufs)).2 ++ part) := by
  have hret : (closedClient.openFile (plainOp .answered) [102] .modeWrite false).2.iRet = 0 := by decide
  have hlen : ∀ p ∈ lostBufs, p.2.length < 2 ^ 31 := by simp [lostBufs]
  exact upload_contents (by simp) hret hlen

end RemoteFile

end KonsanNet
