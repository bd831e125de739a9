import Mathlib.Tactic
import KonsanNet.RemoteFile
import KonsanNet.FileDownloadInv

/-!
# What the client is told, and what the server has done

`Direct` is an operation on the server's file without messages. An operation that returns `RETURN_SUCCEED` to an open
client is the direct one, once; one that fails is it at most once and leaves the client closed, with few exceptions;
and a closed client does nothing (`Conforms`). The runs are in `RemoteFileRun`.
-/

namespace KonsanNet

/-! ### Messages come back as they were -/

theorem toInt64_toUInt64 {i : Int} (h : -2 ^ 63 ≤ i) (h' : i < 2 ^ 63) : toInt64 (toUInt64 i : Nat) = i := by
  unfold toInt64 toUInt64
  omega

theorem int64Value_int64Bytes {i : Int} (h : -2 ^ 63 ≤ i) (h' : i < 2 ^ 63) : int64Value (int64Bytes i) = i := by
  have hlt : toUInt64 i < 256 ^ 8 := by
    unfold toUInt64
    omega
  rw [int64Value, int64Bytes, leValue_leBytes hlt, toInt64_toUInt64 h h']

@[simp] theorem length_int64Bytes (i : Int) : (int64Bytes i).length = 8 := length_leBytes _ _

theorem toInt64_range (i : Int) : -2 ^ 63 ≤ toInt64 i ∧ toInt64 i < 2 ^ 63 := by
  unfold toInt64
  omega

@[simp] theorem seekTypeOf_value (type : SeekType) : seekTypeOf type.value = type := by cases type <;> rfl

theorem SeekType.value_lt (type : SeekType) : type.value < 256 ^ 4 := by cases type <;> decide

namespace CXFileSeek

theorem ofBytes_toBytes {type : Nat} {pos : Int} (htype : type < 256 ^ 4) (hpos : -2 ^ 63 ≤ pos)
    (hpos' : pos < 2 ^ 63) : ofBytes (toBytes ⟨type, pos⟩) = ⟨type, pos⟩ := by
  have hint := int64Value_int64Bytes hpos hpos'
  have htype := leValue_leBytes htype
  simp [ofBytes, toBytes, List.take_of_length_le, hint, htype]

end CXFileSeek

namespace CXFileRead

theorem ofBytes_toBytes {type n : Nat} {pos : Int} (htype : type < 256 ^ 4) (hpos : -2 ^ 63 ≤ pos)
    (hpos' : pos < 2 ^ 63) (hlen : n < 256 ^ 4) : ofBytes (toBytes ⟨type, pos, n⟩) = ⟨type, pos, n⟩ := by
  have hint := int64Value_int64Bytes hpos hpos'
  have htype := leValue_leBytes htype
  have hlen := leValue_leBytes hlen
  simp [ofBytes, toBytes, List.take_of_length_le, List.drop_append, List.drop_of_length_le, hint, htype, hlen]

end CXFileRead

namespace CXFileWrite

theorem ofBytes_toBytes {type n : Nat} {pos : Int} {data : List UInt8} (htype : type < 256 ^ 4)
    (hpos : -2 ^ 63 ≤ pos) (hpos' : pos < 2 ^ 63) (hlen : n < 256 ^ 4) :
    ofBytes (toBytes ⟨type, pos, n, data⟩) = ⟨type, pos, n, data⟩ := by
  have hint := int64Value_int64Bytes hpos hpos'
  have htype := leValue_leBytes htype
  have hlen := leValue_leBytes hlen
  simp [ofBytes, toBytes, List.drop_append, List.drop_of_length_le, hint, htype, hlen]

end CXFileWrite

namespace CXFileOpenFile

theorem ofBytes_toBytes {m : CXFileOpenFile} (hres : m.byReserve.length = 3) (hlen : m.dwFilePathLen < 256 ^ 4) :
    ofBytes m.toBytes = m := by
  have hlen := leValue_leBytes hlen
  simp [ofBytes, toBytes, List.drop_append, List.drop_of_length_le, hres, hlen]

end CXFileOpenFile

namespace CXCommonMessageReply

variable {r : CXCommonMessageReply} {n : Nat}

theorem message_fixed (hn : 16 ≤ n) : ∃ tail, r.message n =
    leBytes 4 r.dwReplyCode ++ leBytes 4 r.dwValue1 ++ leBytes 4 r.dwValue2 ++ leBytes 4 r.dwDataLen ++ tail := by
  refine ⟨(r.szData ++ List.replicate (1024 - 16 - r.szData.length) 0).take (n - 16), ?_⟩
  unfold message
  rw [List.append_assoc _ r.szData, List.take_append, List.take_of_length_le (by simp; omega)]
  simp

theorem replyCode_message (hn : 16 ≤ n) (hcode : r.dwReplyCode < 256 ^ 4) :
    leValue ((r.message n).take 4) = r.dwReplyCode := by
  obtain ⟨tail, htail⟩ := message_fixed (r := r) hn
  rw [htail]
  simp [leValue_leBytes hcode]

theorem twoWords_message (hn : 16 ≤ n) (h₁ : r.dwValue1 < 256 ^ 4) (h₂ : r.dwValue2 < 256 ^ 4) :
    RemoteFile.twoWords (r.message n) = r.dwValue1 * 2 ^ 32 + r.dwValue2 := by
  obtain ⟨tail, htail⟩ := message_fixed (r := r) hn
  rw [htail]
  simp [RemoteFile.twoWords, List.drop_append, List.drop_of_length_le, leValue_leBytes h₁, leValue_leBytes h₂]

end CXCommonMessageReply

/-! ### Operations without messages -/

namespace CXFile64

variable {s : CXFile64}

@[simp] theorem seek_m_file (pos : Int) (type : SeekType) (stat : Option Nat) (a₁ a₂ : SeekAnswer) :
    (s.seek pos type stat a₁ a₂).1.m_file = s.m_file := by
  unfold seek
  split
  · rfl
  · split <;> rfl

@[simp] theorem write_m_file (pBuf : List UInt8) (a : Option Nat) : (s.write pBuf a).1.m_file = s.m_file := by
  unfold write
  split <;> rfl

@[simp] theorem getCurrentPosition_m_file (a : SeekAnswer) : (s.getCurrentPosition a).1.m_file = s.m_file := by
  unfold getCurrentPosition
  split <;> rfl

@[simp] theorem read_m_file (n : Nat) (a : Option Nat) : (s.read n a).1.m_file = s.m_file := by
  unfold read
  split <;> rfl

end CXFile64

namespace CXFileRPCServer

/-- What the object does with the request of an operation. -/
def apply (e : FileEnv) (s : CXFileRPCServer) : FileOp → CXFileRPCServer
  | .open path type bOpenExisted =>
    (s.openFile e (RemoteFile.openMessage path type bOpenExisted) (path.length + 9)).1
  | .read iWantReadLen =>
    match read (s.readEnv e) iWantReadLen s.m_file with
    | none => s
    | some (file, _) => { s with m_file := file }
  | .write pBuf uiOffset type => (s.write e ⟨type.value, toInt64 uiOffset.toNat, pBuf.length, pBuf⟩).1
  | .seek pos type => (s.seek e ⟨type.value, pos⟩).1
  | .close => s.closeHandle
  | .getFileLength | .getCurrentPosition | .setPeerRecvBufSize _ => s

/-- The operation on the file of the object, with its results. -/
inductive Direct (e : FileEnv) (s s' : CXFileRPCServer) : FileOp → FileResult → Prop
  | open {path : List UInt8} {type : OpenType} {bOpenExisted : Bool}
    (h : s.closeHandle.openHandle e (path.takeWhile (· ≠ 0)) type.value = (s', true)) :
    Direct e s s' (.open path type bOpenExisted) ⟨0, none, []⟩
  | read {n : Nat} {bytes : List UInt8} (hopen : s.m_bIsOpened = true) (hlen : bytes.length = n)
    (hbytes : bytes = (s.m_file.file.contents.drop s.m_file.file.offset).take n)
    (hs : s' = { s with m_file.file.offset := s.m_file.file.offset + n }) :
    Direct e s s' (.read n) ⟨0, none, bytes⟩
  | write {pBuf : List UInt8} {uiOffset : UInt64} {type : SeekType} {s₁ : CXFileRPCServer} {file : CXFile64}
    (hopen : s.m_bIsOpened = true) (hseek : s.seekFile e type.value (toInt64 uiOffset.toNat) = (s₁, true))
    (hwrite : s₁.m_file.write pBuf e.write = (file, true, pBuf.length)) (hs : s' = { s₁ with m_file := file }) :
    Direct e s s' (.write pBuf uiOffset type) ⟨0, some pBuf.length, []⟩
  | seek {pos : Int} {type : SeekType} (hopen : s.m_bIsOpened = true) (h : s.seekFile e type.value pos = (s', true)) :
    Direct e s s' (.seek pos type) ⟨0, none, []⟩
  | getFileLength {n : Nat} (hopen : s.m_bIsOpened = true)
      (h : s.m_file.getFileLength (e.stat.map UInt64.toNat) = some n) (hs : s' = s) :
    Direct e s s' .getFileLength ⟨0, some n, []⟩
  | close (hs : s' = s.closeHandle) : Direct e s s' .close ⟨0, none, []⟩

variable {e : FileEnv} {s s' : CXFileRPCServer}

theorem dispatchMes_open (buf : List UInt8) : s.dispatchMes e 2001 buf = ((s.openFile e (.ofBytes buf) buf.length).1,
    some (2002, (s.openFile e (.ofBytes buf) buf.length).2.message
      (CXCommonMessageReply.size - 1 + (s.openFile e (.ofBytes buf) buf.length).2.dwDataLen))) := rfl

theorem dispatchMes_seek (buf : List UInt8) : s.dispatchMes e 2003 buf = ((s.seek e (.ofBytes buf)).1,
    some (2004, (s.seek e (.ofBytes buf)).2.message
      ((s.seek e (.ofBytes buf)).2.dwDataLen + CXCommonMessageReply.size - 1))) := rfl

theorem dispatchMes_write (buf : List UInt8) : s.dispatchMes e 2007 buf = ((s.write e (.ofBytes buf)).1,
    some (2008, (s.write e (.ofBytes buf)).2.message
      (CXCommonMessageReply.size + (s.write e (.ofBytes buf)).2.dwDataLen))) := rfl

theorem dispatchMes_getFileLength (buf : List UInt8) : s.dispatchMes e 2011 buf = (s,
    some (2012, (s.getFileLength e).message
      ((s.getFileLength e).dwDataLen + CXCommonMessageReply.size - 1))) := rfl

theorem openFile_code (m : CXFileOpenFile) (n : Nat) : (s.openFile e m n).2.dwReplyCode < 256 ^ 4 := by
  unfold openFile
  split
  · simp [CXCommonMessageReply.ofCode]
  · split
    · simp [CXCommonMessageReply.ofText]
    · simp [CXCommonMessageReply.ofCode]

theorem seek_code (m : CXFileSeek) : (s.seek e m).2.dwReplyCode < 256 ^ 4 := by
  unfold seek
  split
  · simp [CXCommonMessageReply.ofText]
  · split
    · simp [CXCommonMessageReply.ofText]
    · simp [CXCommonMessageReply.ofCode]

theorem write_code (m : CXFileWrite) : (s.write e m).2.dwReplyCode < 256 ^ 4 := by
  unfold write
  split
  · simp [CXCommonMessageReply.ofText]
  · split
    · simp [CXCommonMessageReply.ofText]
    · dsimp only
      split
      · simp [CXCommonMessageReply.ofText]
      · simp [CXCommonMessageReply.ofCode]

theorem getFileLength_code : (s.getFileLength e).dwReplyCode < 256 ^ 4 := by
  unfold getFileLength
  split
  · simp [CXCommonMessageReply.ofText]
  · split
    · simp [CXCommonMessageReply.ofCode]
    · simp [CXCommonMessageReply.ofCode]

theorem getFileLength_words (h : (s.getFileLength e).dwReplyCode = 200) :
    s.m_bIsOpened = true ∧ ∃ n, s.m_file.getFileLength (e.stat.map UInt64.toNat) = some n ∧
      (s.getFileLength e).dwValue1 < 256 ^ 4 ∧ (s.getFileLength e).dwValue2 < 256 ^ 4 ∧
      (s.getFileLength e).dwValue1 * 2 ^ 32 + (s.getFileLength e).dwValue2 = n := by
  unfold getFileLength at h ⊢
  split at h
  · cases h
  rename_i hopen
  rw [if_neg hopen]
  cases hn : s.m_file.getFileLength (e.stat.map UInt64.toNat) with
  | none =>
    rw [hn] at h
    cases h
  | some n =>
    have hlt : n < 2 ^ 64 := by
      unfold CXFile64.getFileLength at hn
      split at hn
      · cases hn
      · obtain ⟨m, -, rfl⟩ := Option.map_eq_some_iff.mp hn
        exact m.toNat_lt
    refine ⟨by simpa using hopen, n, rfl, ?_, ?_, ?_⟩
    · dsimp only
      omega
    · dsimp only
      omega
    · dsimp only
      omega

theorem closeHandle_of_closed (h : s.m_bIsOpened = false) : s.closeHandle = s := by
  unfold closeHandle
  rw [h]
  rfl

theorem if_closeHandle : (if s.m_bIsOpened then s.closeHandle else s) = s.closeHandle := by
  cases h : s.m_bIsOpened with
  | true => rfl
  | false => exact (closeHandle_of_closed h).symm

theorem write_direct {pBuf : List UInt8} {uiOffset : UInt64} {type : SeekType}
    (h : (s.write e ⟨type.value, toInt64 uiOffset.toNat, pBuf.length, pBuf⟩).2.dwReplyCode = 200) :
    Direct e s (s.write e ⟨type.value, toInt64 uiOffset.toNat, pBuf.length, pBuf⟩).1 (.write pBuf uiOffset type)
      ⟨0, some pBuf.length, []⟩ := by
  unfold write at h ⊢
  split at h
  · cases h
  rename_i hopen
  rw [if_neg hopen]
  dsimp only at h ⊢
  cases hseek : s.seekFile e type.value (toInt64 uiOffset.toNat) with
  | mk s₁ ok =>
    rw [hseek] at h
    cases ok with
    | false => cases h
    | true =>
      dsimp only at h ⊢
      rw [List.take_length] at h ⊢
      generalize hwrite : s₁.m_file.write pBuf e.write = q at h
      obtain ⟨file, bRet, n⟩ := q
      dsimp only at h ⊢
      split at h
      · cases h
      · rename_i hfull
        rw [if_neg hfull]
        obtain ⟨hret, hn⟩ := not_or.mp hfull
        obtain rfl : bRet = true := by simpa using hret
        obtain rfl : n = pBuf.length := not_not.mp hn
        exact .write (by simpa using hopen) hseek hwrite rfl

theorem seek_direct {pos : Int} {type : SeekType} (h : (s.seek e ⟨type.value, pos⟩).2.dwReplyCode = 200) :
    Direct e s (s.seek e ⟨type.value, pos⟩).1 (.seek pos type) ⟨0, none, []⟩ := by
  unfold seek at h ⊢
  split at h
  · cases h
  rename_i hopen
  rw [if_neg hopen]
  dsimp only at h ⊢
  cases hseek : s.seekFile e type.value pos with
  | mk s₁ ok =>
    rw [hseek] at h
    cases ok with
    | false => cases h
    | true => exact .seek (by simpa using hopen) hseek

theorem openFile_direct {path : List UInt8} {type : OpenType} {b : Bool}
    (h : (s.openFile e (RemoteFile.openMessage path type b) (path.length + 9)).2.dwReplyCode = 200) :
    Direct e s (s.openFile e (RemoteFile.openMessage path type b) (path.length + 9)).1 (.open path type b)
      ⟨0, none, []⟩ := by
  have hpath : (cString path).takeWhile (· ≠ 0) = path.takeWhile (· ≠ 0) := by
    unfold cString
    rw [List.takeWhile_append]
    split
    · rename_i hall
      have hzero : [(0 : UInt8)].takeWhile (· ≠ 0) = [] := rfl
      rw [hzero, List.append_nil, (List.takeWhile_prefix _).eq_of_length hall]
    · rfl
  unfold openFile at h ⊢
  split at h
  · cases h
  rename_i hlen
  rw [if_neg hlen]
  rw [if_closeHandle] at h ⊢
  dsimp only [RemoteFile.openMessage] at h ⊢
  rw [hpath] at h ⊢
  cases hopen : s.closeHandle.openHandle e (path.takeWhile (· ≠ 0)) type.value with
  | mk s₁ ok =>
    rw [hopen] at h
    cases ok with
    | false => cases h
    | true => exact .open hopen

end CXFileRPCServer

/-! ### `Read` -/

namespace CXFileTcpClient

variable {env : ReadEnv} {file file' : CXFile64} {r : ReadResult} {n start : Nat}

theorem readReply_opened (n : Nat) (stream : List UInt8) (start : Nat) :
    ((readReply n stream start).bOpened = true → (readReply n stream start).iRet = 0 ∨
      (readReply n stream start).iRet = -9 ∨ (readReply n stream start).iRet = -10 ∨
      (readReply n stream start).iRet = -11) ∧
    ((readReply n stream start).bOpened = false → (readReply n stream start).iRet < 0) := by
  unfold readReply
  dsimp only
  split_ifs
  iterate 4 exact ⟨nofun, fun _ => by simp⟩
  all_goals
    unfold finishRead
    dsimp only
    split_ifs <;> simp

theorem read_bytes (hopen : 0 < file.m_file) (hn : 0 < n) (hmax : n ≤ 1024 * 10240)
    (h : read env n file = some (file', r)) (hret : r.iRet = 0) :
    r.bytes = (file.file.contents.drop file.file.offset).take n := by
  unfold read at h
  obtain ⟨⟨file₁, m⟩, hserver, hr⟩ := Option.map_eq_some_iff.mp h
  cases hr
  unfold CXFileRPCServer.read at hserver
  dsimp only at hserver
  rw [if_neg (by omega)] at hserver
  split at hserver
  · cases hserver
    exact absurd hret (readReply_text (Or.inl rfl) _ rfl).1.1
  split at hserver
  · cases hserver
    exact absurd hret (readReply_text (Or.inr rfl) _ rfl).1.1
  obtain ⟨⟨file₂, rep⟩, hloop, hsend⟩ := Option.map_eq_some_iff.mp hserver
  cases hsend
  by_cases hs : CXFileRPCServer.sends rep.message = true
  · rw [if_pos hs, Option.map_some, Option.getD_some] at hret ⊢
    cases CXFileRPCServer.readLoop_spec hopen hn hmax hloop with
    | block data hdata hlen hrep hfile =>
      subst hrep
      have hmes : CXFileRPCServer.ReadReply.message ⟨200, n, data⟩ = leBytes 4 200 ++ leBytes 4 n ++ data := by
        rw [CXFileRPCServer.message_eq (show n + 8 < 2 ^ 32 by omega), List.take_of_length_le (le_of_eq hlen)]
      have hreply : readReply n (packetOf anyGuid anyGuid _) file.file.offset = _ :=
        readReply_block length_anyGuid length_anyGuid hmes hs hlen hn le_rfl (Or.inl rfl)
      rw [if_pos rfl, if_neg (by decide)] at hreply
      rw [hreply]
      exact hdata
    | short data hdata hpos hlt hcode hlen hsz hle =>
      have hmes : rep.message = leBytes 4 204 ++ leBytes 4 data.length ++ data := by
        rw [CXFileRPCServer.message_eq (by omega), hcode, hlen, hsz]
      have hreply : readReply n (packetOf anyGuid anyGuid _) file.file.offset = _ :=
        readReply_block length_anyGuid length_anyGuid hmes hs rfl hpos (Nat.le_of_lt hlt) (Or.inr rfl)
      rw [if_neg (Nat.ne_of_lt hlt)] at hreply
      rw [hreply] at hret
      cases hret
    | failed hcode hlen => exact absurd hret (readReply_failed hmax hcode hlen).1.1
    | ended hend hcode =>
      have hword := CXFileRPCServer.replyWord_message (by omega) hs
      exact absurd hret (readReply_205 length_anyGuid length_anyGuid hs (hword.trans hcode)).1
  · rw [if_neg hs] at hret
    cases hret

/-- A length that the server does not take closes the client. -/
theorem readReply_invalid (hn : n = 0 ∨ 1024 * 10240 < n) {m : List UInt8}
    (h : CXFileRPCServer.read env n file = some (file', some m)) (start : Nat) :
    (readReply n (packetOf anyGuid anyGuid m) start).bOpened = false := by
  unfold CXFileRPCServer.read at h
  dsimp only at h
  rw [if_pos (by omega)] at h
  obtain ⟨-, hm⟩ := Prod.mk.inj (Option.some.inj h)
  split at hm
  · rename_i hs
    cases hm
    have hword := CXFileRPCServer.replyWord_message (by show 201 < 256; omega) hs
    have hword : replyWord _ = 201 := hword
    have hreply : readReply n (packetOf anyGuid anyGuid _) start = ⟨-6, [], false, start⟩ :=
      readReply_unknown length_anyGuid length_anyGuid hs (by omega) (by omega) (by omega)
    rw [hreply]
  · cases hm

end CXFileTcpClient

/-! ### One request -/

namespace RemoteFile

variable {c : OpEnv} {r r' : RemoteFile} {t : Transfer} {e : FileEnv} {dwMesCode : Nat} {message payload : List UInt8}
  {s s' : CXFileRPCServer} {iRet : Int} {op : FileOp} {res : FileResult}

theorem exchange_fst (t : Transfer) : (exchange t e dwMesCode message s).1 = s ∨
    (exchange t e dwMesCode message s).1 = (s.dispatchMes e dwMesCode message).1 := by
  cases t with
  | notSent => exact .inl rfl
  | lost => exact .inl rfl
  | replyLost => exact .inr rfl
  | answered => exact .inr rfl

theorem exchange_ok {reply : Nat × List UInt8} (h : (exchange t e dwMesCode message s).2 = .ok reply) :
    s.dispatchMes e dwMesCode message = ((exchange t e dwMesCode message s).1, some reply) := by
  cases t with
  | notSent => cases h
  | lost => cases h
  | replyLost => cases h
  | answered =>
    unfold exchange at h ⊢
    dsimp only at h ⊢
    split at h
    · rename_i reply' hreply
      cases h
      exact Prod.ext rfl hreply
    · cases h

theorem exchange_error (h : (exchange t e dwMesCode message s).2 = .error iRet) : iRet < 0 := by
  cases t with
  | answered =>
    unfold exchange at h
    dsimp only at h
    split at h
    · cases h
    · cases h
      decide
  | _ =>
    cases h
    decide

theorem replyOf_ok {dwReplyMesCode : Nat} {q : Except Int (Nat × List UInt8)}
    (h : replyOf dwReplyMesCode q = .ok payload) :
    q = .ok (dwReplyMesCode, payload) ∧ leValue (payload.take 4) = 200 := by
  unfold replyOf at h
  split at h
  · cases h
  split at h
  · cases h
  split at h
  · cases h
  split at h
  · cases h
  rename_i hcode h200
  cases h
  exact ⟨by rw [not_not.mp hcode], not_not.mp h200⟩

theorem replyOf_error {dwReplyMesCode : Nat} {q : Except Int (Nat × List UInt8)}
    (h : replyOf dwReplyMesCode q = .error iRet) (hq : ∀ i, q = .error i → i < 0) : iRet < 0 := by
  unfold replyOf at h
  split at h
  · rename_i i
    cases h
    exact hq _ rfl
  split at h
  · cases h
    decide
  split at h
  · cases h
    decide
  split at h
  · cases h
    decide
  · cases h

theorem ask_ok (h : ask t e dwMesCode message s = (s', .ok payload)) :
    s.dispatchMes e dwMesCode message = (s', some (dwMesCode + 1, payload)) ∧ leValue (payload.take 4) = 200 := by
  obtain ⟨rfl, hreply⟩ := Prod.mk.inj h
  obtain ⟨hex, h200⟩ := replyOf_ok hreply
  exact ⟨exchange_ok hex, h200⟩

theorem ask_error (h : ask t e dwMesCode message s = (s', .error iRet)) :
    (s' = s ∨ s' = (s.dispatchMes e dwMesCode message).1) ∧ iRet < 0 := by
  obtain ⟨rfl, hreply⟩ := Prod.mk.inj h
  exact ⟨exchange_fst t, replyOf_error hreply fun _ => exchange_error⟩

/-! ### What a step may do -/

/-- The object with its file closed or not. -/
def Closing (s s' : CXFileRPCServer) : Prop := s' = s ∨ s' = s.closeHandle

/-- The request of the operation was processed or not, and then perhaps a `Close`. -/
def Tried (e : FileEnv) (op : FileOp) (s s' : CXFileRPCServer) : Prop :=
  ∃ s₁, (s₁ = s ∨ s₁ = s.apply e op) ∧ Closing s₁ s'

def isOpening : FileOp → Bool
  | .open .. => true
  | _ => false

def isClosing : FileOp → Bool
  | .close => true
  | _ => false

inductive Conforms (c : OpEnv) (r r' : RemoteFile) : FileOp → FileResult → Prop
  /-- a closed client does not ask -/
  | refused {op : FileOp} {res : FileResult} (hclosed : r.m_bIsOpened = false) (hop : isOpening op = false)
      (hr : r' = r)
    (hret : res.iRet = -2 ∨ res.iRet = 0 ∧ (op = .close ∨ op = .getFileLength)) : Conforms c r r' op res
  /-- a parameter that is not accepted, no memory for the client's buffer -/
  | kept {op : FileOp} {res : FileResult} (hret : res.iRet = -1 ∨ res.iRet = -7) (hr : r' = r) : Conforms c r r' op res
  /-- an open client is closed by `Open` first -/
  | done {op : FileOp} {res : FileResult} {s : CXFileRPCServer}
    (hs : if isOpening op then Closing r.server s else r.m_bIsOpened = true ∧ s = r.server)
    (hdirect : s.Direct c.file r'.server op res) (hopened : r'.m_bIsOpened = !isClosing op) : Conforms c r r' op res
  | failed {op : FileOp} {res : FileResult} {s : CXFileRPCServer}
    (hs : if isOpening op then Closing r.server s else s = r.server) (htried : Tried c.file op s r'.server)
    (hret : res.iRet < 0) (hclosed : r'.m_bIsOpened = false) : Conforms c r r' op res
  /-- the rest of a file is not an error for the client -/
  | partly {n : Nat} {res : FileResult} (hopen : r.m_bIsOpened = true)
      (hs : r'.server = r.server.apply c.file (.read n))
    (hret : res.iRet = -9 ∨ res.iRet = -10 ∨ res.iRet = -11) (hopened : r'.m_bIsOpened = true) :
    Conforms c r r' (.read n) res
  /-- no memory for the reply to a request that was sent -/
  | unread {n : Nat} {res : FileResult} (hopen : r.m_bIsOpened = true)
      (hs : r'.server = r.server ∨ r'.server = r.server.apply c.file (.read n))
    (hret : res.iRet = -6) (hopened : r'.m_bIsOpened = true) : Conforms c r r' (.read n) res

theorem close_cases (t : Transfer) (e : FileEnv) (r : RemoteFile) :
    (close t e r).1.m_bIsOpened = false ∧ Closing r.server (close t e r).1.server ∧
      (r.m_bIsOpened = false → (close t e r).1 = r) := by
  unfold close
  cases hopen : r.m_bIsOpened with
  | false => exact ⟨hopen, .inl rfl, fun _ => rfl⟩
  | true =>
    have hdispatch : ∀ buf, (r.server.dispatchMes e 2009 buf).1 = r.server.closeHandle :=
      fun _ => CXFileRPCServer.if_closeHandle
    rw [if_neg (by simp)]
    generalize hask : ask t e 2009 (List.replicate 9 0) r.server = q
    obtain ⟨s, res⟩ := q
    cases res with
    | error iRet =>
      refine ⟨rfl, ?_, nofun⟩
      rcases (ask_error hask).1 with h | h
      · exact .inl h
      · exact .inr (h.trans (hdispatch _))
    | ok payload =>
      refine ⟨rfl, .inr ?_, nofun⟩
      show s = _
      rw [← hdispatch (List.replicate 9 0), (ask_ok hask).1]

theorem request_cases {value : List UInt8 → Option Nat} (hopen : r.m_bIsOpened = true) (hop : isOpening op = false)
    (hop' : isClosing op = false)
    (happly : (r.server.dispatchMes c.file dwMesCode message).1 = r.server.apply c.file op)
    (hdirect : ∀ s' payload, r.server.dispatchMes c.file dwMesCode message = (s', some (dwMesCode + 1, payload)) →
      leValue (payload.take 4) = 200 → r.server.Direct c.file s' op ⟨0, value payload, []⟩) :
    Conforms c r (r.request c dwMesCode message value).1 op (r.request c dwMesCode message value).2 := by
  unfold request
  generalize hask : ask c.transfer c.file dwMesCode message r.server = q
  obtain ⟨s, res⟩ := q
  cases res with
  | error iRet =>
    obtain ⟨hs, hneg⟩ := ask_error hask
    obtain ⟨hclosed, hclosing, -⟩ := close_cases c.closeTransfer c.closeFile ⟨true, s⟩
    refine .failed (s := r.server) (by rw [hop]; rfl) ⟨s, hs.imp_right fun h => h.trans happly, hclosing⟩ hneg hclosed
  | ok payload =>
    obtain ⟨hdispatch, h200⟩ := ask_ok hask
    exact .done (s := r.server) (by rw [hop]; exact ⟨hopen, rfl⟩) (hdirect s payload hdispatch h200) (by rw [hop']; rfl)

/-- What a caller may pass. -/
def Valid : FileOp → Prop
  | .open strRemoteFilePath _ _ => strRemoteFilePath.length + 9 ≤ 4096
  | .read iWantReadLen => iWantReadLen < 2 ^ 31
  | .write pBuf _ _ => pBuf.length < 2 ^ 31
  | .seek pos _ => -2 ^ 63 ≤ pos ∧ pos < 2 ^ 63
  | .getFileLength | .getCurrentPosition | .setPeerRecvBufSize _ | .close => True

theorem conforms_write {pBuf : List UInt8} {uiOffset : UInt64} {type : SeekType} (hlen : pBuf.length < 2 ^ 31) :
    Conforms c r (r.write c pBuf uiOffset type).1 (.write pBuf uiOffset type) (r.write c pBuf uiOffset type).2 := by
  unfold write
  cases hopen : r.m_bIsOpened with
  | false => exact .refused hopen rfl rfl (.inl rfl)
  | true =>
  rw [if_neg (by simp)]
  cases c.setSendBufferSize with
  | false => exact .kept (.inr rfl) rfl
  | true =>
  rw [if_neg (by simp)]
  have hrange := toInt64_range uiOffset.toNat
  have hmes : CXFileWrite.ofBytes (CXFileWrite.toBytes ⟨type.value, toInt64 uiOffset.toNat, pBuf.length, pBuf⟩) =
      ⟨type.value, toInt64 uiOffset.toNat, pBuf.length, pBuf⟩ :=
    CXFileWrite.ofBytes_toBytes type.value_lt hrange.1 hrange.2 (by omega)
  refine request_cases hopen rfl rfl ?_ fun s' payload hdispatch h200 => ?_
  · rw [CXFileRPCServer.dispatchMes_write, hmes]
    rfl
  · rw [CXFileRPCServer.dispatchMes_write, hmes] at hdispatch
    obtain ⟨rfl, hreply⟩ := Prod.mk.inj hdispatch
    obtain ⟨-, rfl⟩ := Prod.mk.inj (Option.some.inj hreply)
    have hsize : 16 ≤ CXCommonMessageReply.size + (r.server.write c.file
        ⟨type.value, toInt64 uiOffset.toNat, pBuf.length, pBuf⟩).2.dwDataLen := by
      simp only [CXCommonMessageReply.size]
      omega
    rw [CXCommonMessageReply.replyCode_message hsize (CXFileRPCServer.write_code _)] at h200
    exact CXFileRPCServer.write_direct h200

theorem conforms_seek {pos : Int} {type : SeekType} (hpos : -2 ^ 63 ≤ pos) (hpos' : pos < 2 ^ 63) :
    Conforms c r (r.seek c pos type).1 (.seek pos type) (r.seek c pos type).2 := by
  unfold seek
  cases hopen : r.m_bIsOpened with
  | false => exact .refused hopen rfl rfl (.inl rfl)
  | true =>
  rw [if_neg (by simp)]
  have hmes : CXFileSeek.ofBytes (CXFileSeek.toBytes ⟨type.value, pos⟩) = ⟨type.value, pos⟩ :=
    CXFileSeek.ofBytes_toBytes type.value_lt hpos hpos'
  refine request_cases hopen rfl rfl ?_ fun s' payload hdispatch h200 => ?_
  · rw [CXFileRPCServer.dispatchMes_seek, hmes]
    rfl
  · rw [CXFileRPCServer.dispatchMes_seek, hmes] at hdispatch
    obtain ⟨rfl, hreply⟩ := Prod.mk.inj hdispatch
    obtain ⟨-, rfl⟩ := Prod.mk.inj (Option.some.inj hreply)
    have hsize : 16 ≤ (r.server.seek c.file ⟨type.value, pos⟩).2.dwDataLen + CXCommonMessageReply.size - 1 := by
      simp only [CXCommonMessageReply.size]
      omega
    rw [CXCommonMessageReply.replyCode_message hsize (CXFileRPCServer.seek_code _)] at h200
    exact CXFileRPCServer.seek_direct h200

theorem conforms_getFileLength :
    Conforms c r (r.getFileLength c).1 .getFileLength (r.getFileLength c).2 := by
  unfold getFileLength
  cases hopen : r.m_bIsOpened with
  | false => exact .refused hopen rfl rfl (.inr ⟨rfl, .inr rfl⟩)
  | true =>
  rw [if_neg (by simp)]
  refine request_cases hopen rfl rfl rfl fun s' payload hdispatch h200 => ?_
  rw [CXFileRPCServer.dispatchMes_getFileLength] at hdispatch
  obtain ⟨rfl, hreply⟩ := Prod.mk.inj hdispatch
  obtain ⟨-, rfl⟩ := Prod.mk.inj (Option.some.inj hreply)
  have hsize : 16 ≤ (r.server.getFileLength c.file).dwDataLen + CXCommonMessageReply.size - 1 := by
    simp only [CXCommonMessageReply.size]
    omega
  rw [CXCommonMessageReply.replyCode_message hsize CXFileRPCServer.getFileLength_code] at h200
  obtain ⟨hopened, n, hn, h₁, h₂, hwords⟩ := CXFileRPCServer.getFileLength_words h200
  rw [CXCommonMessageReply.twoWords_message hsize h₁ h₂, hwords]
  exact .getFileLength hopened hn rfl

/-- The server has no answer for the current position. -/
theorem conforms_getCurrentPosition :
    Conforms c r (r.getCurrentPosition c).1 .getCurrentPosition (r.getCurrentPosition c).2 := by
  unfold getCurrentPosition
  cases hopen : r.m_bIsOpened with
  | false => exact .refused hopen rfl rfl (.inl rfl)
  | true =>
  rw [if_neg (by simp)]
  refine request_cases hopen rfl rfl rfl fun s' payload hdispatch _ => ?_
  cases hdispatch

theorem conforms_setPeerRecvBufSize {dwSize : UInt32} :
    Conforms c r (r.setPeerRecvBufSize c dwSize).1 (.setPeerRecvBufSize dwSize) (r.setPeerRecvBufSize c dwSize).2 := by
  unfold setPeerRecvBufSize
  generalize hask : ask c.transfer c.file 9 _ r.server = q
  obtain ⟨s, res⟩ := q
  cases res with
  | ok payload => cases (ask_ok hask).1
  | error iRet =>
    obtain ⟨hs, hneg⟩ := ask_error hask
    have hs : s = r.server := hs.elim id id
    obtain ⟨hclosed, hclosing, -⟩ := close_cases c.closeTransfer c.closeFile ⟨r.m_bIsOpened, s⟩
    exact .failed (s := r.server) rfl ⟨s, .inl hs, hclosing⟩ hneg hclosed

theorem conforms_close : Conforms c r (r.close c.transfer c.file).1 .close (r.close c.transfer c.file).2 := by
  unfold close
  cases hopen : r.m_bIsOpened with
  | false => exact .refused hopen rfl rfl (.inr ⟨rfl, .inl rfl⟩)
  | true =>
  have hdispatch : ∀ buf, (r.server.dispatchMes c.file 2009 buf).1 = r.server.closeHandle :=
    fun _ => CXFileRPCServer.if_closeHandle
  rw [if_neg (by simp)]
  generalize hask : ask c.transfer c.file 2009 (List.replicate 9 0) r.server = q
  obtain ⟨s, res⟩ := q
  cases res with
  | error iRet =>
    obtain ⟨hs, hneg⟩ := ask_error hask
    exact .failed (s := r.server) rfl ⟨s, hs.imp_right fun h => h.trans (hdispatch _), .inl rfl⟩ hneg rfl
  | ok payload =>
    have hs : s = r.server.closeHandle := by rw [← hdispatch (List.replicate 9 0), (ask_ok hask).1]
    exact .done (s := r.server) ⟨hopen, rfl⟩ (.close hs) rfl

theorem conforms_open {path : List UInt8} {type : OpenType} {b : Bool} (hlen : path.length + 9 ≤ 4096) :
    Conforms c r (r.openFile c path type b).1 (.open path type b) (r.openFile c path type b).2 := by
  unfold openFile
  by_cases hnil : path = []
  · rw [if_pos hnil]
    exact .kept (.inl rfl) rfl
  rw [if_neg hnil]
  obtain ⟨hclosed, hclosing, -⟩ := close_cases c.closeTransfer c.closeFile r
  obtain ⟨r₁, hr₁⟩ : ∃ r₁, (r.close c.closeTransfer c.closeFile).1 = r₁ := ⟨_, rfl⟩
  rw [hr₁] at hclosed hclosing ⊢
  dsimp only
  cases c.channels with
  | noMajor =>
    exact .failed (s := r₁.server) hclosing ⟨r₁.server, .inl rfl, .inl rfl⟩ (show (-3 : Int) < 0 by decide) hclosed
  | noData =>
    exact .failed (s := r₁.server) hclosing ⟨r₁.server, .inl rfl, .inl rfl⟩ (show (-4 : Int) < 0 by decide) hclosed
  | connected =>
  dsimp only
  have hmes : CXFileOpenFile.ofBytes (openMessage path type b).toBytes = openMessage path type b :=
    CXFileOpenFile.ofBytes_toBytes rfl (by simp only [openMessage]; omega)
  have hbuf : (openMessage path type b).toBytes.length = path.length + 9 := by
    simp [openMessage, CXFileOpenFile.toBytes, cString]
    omega
  have hdispatch := CXFileRPCServer.dispatchMes_open (e := c.file) (s := r₁.server) (openMessage path type b).toBytes
  rw [hmes, hbuf] at hdispatch
  generalize hask : ask c.transfer c.file 2001 (openMessage path type b).toBytes r₁.server = q
  obtain ⟨s, res⟩ := q
  cases res with
  | error iRet =>
    obtain ⟨hs, hneg⟩ := ask_error hask
    refine .failed (s := r₁.server) hclosing ⟨s, hs.imp_right fun h => ?_, .inl rfl⟩ ?_ rfl
    · rw [h, hdispatch]
      rfl
    · show iRet - 2 < 0
      omega
  | ok payload =>
    obtain ⟨hreply, h200⟩ := ask_ok hask
    rw [hdispatch] at hreply
    obtain ⟨rfl, hmessage⟩ := Prod.mk.inj hreply
    obtain ⟨-, rfl⟩ := Prod.mk.inj (Option.some.inj hmessage)
    have hsize : 16 ≤ CXCommonMessageReply.size - 1 +
        (r₁.server.openFile c.file (openMessage path type b) (path.length + 9)).2.dwDataLen := by
      simp only [CXCommonMessageReply.size]
      omega
    rw [CXCommonMessageReply.replyCode_message hsize (CXFileRPCServer.openFile_code _ _)] at h200
    exact .done (s := r₁.server) hclosing (CXFileRPCServer.openFile_direct h200) rfl

/-- The client is open only while the object has an open file. -/
structure Inv (r : RemoteFile) : Prop where
  opened : r.m_bIsOpened = true → r.server.m_bIsOpened = true ∧ 0 < r.server.m_file.m_file

theorem dispatchMes_read {n : Nat} (hn : n < 2 ^ 31) :
    (s.dispatchMes e 2005 (CXFileRead.toBytes ⟨1, 0, n⟩)).1 = s.apply e (.read n) ∧
    ∀ reply, (s.dispatchMes e 2005 (CXFileRead.toBytes ⟨1, 0, n⟩)).2 = some reply →
      CXFileRPCServer.read (s.readEnv e) n s.m_file = some ((s.apply e (.read n)).m_file, some reply.2) ∧
        s.apply e (.read n) = { s with m_file := (s.apply e (.read n)).m_file } := by
  have hmes : CXFileRead.ofBytes (CXFileRead.toBytes ⟨1, 0, n⟩) = ⟨1, 0, n⟩ :=
    CXFileRead.ofBytes_toBytes (by decide) (by decide) (by decide) (by omega)
  unfold CXFileRPCServer.dispatchMes CXFileRPCServer.apply
  rw [hmes]
  dsimp only
  cases CXFileRPCServer.read (s.readEnv e) n s.m_file with
  | none => exact ⟨rfl, nofun⟩
  | some q =>
    obtain ⟨file, m⟩ := q
    refine ⟨rfl, fun reply hreply => ?_⟩
    obtain ⟨m', rfl, rfl⟩ := Option.map_eq_some_iff.mp hreply
    exact ⟨rfl, rfl⟩

theorem conforms_read {n : Nat} (hi : Inv r) (hn : n < 2 ^ 31) :
    Conforms c r (r.read c n).1 (.read n) (r.read c n).2 := by
  unfold read
  cases hopen : r.m_bIsOpened with
  | false => exact .refused hopen rfl rfl (.inl rfl)
  | true =>
  rw [if_neg (by simp)]
  obtain ⟨happly, hreply⟩ := dispatchMes_read (e := c.file) (s := r.server) hn
  have hfst : (exchange c.transfer c.file 2005 (CXFileRead.toBytes ⟨1, 0, n⟩) r.server).1 = r.server ∨ _ :=
    exchange_fst c.transfer
  rw [happly] at hfst
  by_cases hmem : c.transfer ≠ .notSent ∧ c.setRecvBufferSize = false
  · rw [if_pos hmem]
    exact .unread hopen hfst rfl rfl
  rw [if_neg hmem]
  generalize hex : exchange c.transfer c.file 2005 (CXFileRead.toBytes ⟨1, 0, n⟩) r.server = q at hfst
  obtain ⟨s, res⟩ := q
  cases res with
  | error iRet =>
    obtain ⟨hclosed, hclosing, -⟩ := close_cases c.closeTransfer c.closeFile ⟨true, s⟩
    exact .failed (s := r.server) rfl ⟨s, hfst, hclosing⟩ (exchange_error (congrArg Prod.snd hex)) hclosed
  | ok reply =>
    obtain ⟨code, message⟩ := reply
    have hdispatch := exchange_ok (congrArg Prod.snd hex)
    rw [hex] at hdispatch
    obtain ⟨hserver, happlied⟩ := hreply (code, message) (congrArg Prod.snd hdispatch)
    have hs : s = r.server.apply c.file (.read n) := by rw [← happly, hdispatch]
    have hread : CXFileTcpClient.read (r.server.readEnv c.file) n r.server.m_file =
        some ((r.server.apply c.file (.read n)).m_file, CXFileTcpClient.readReply n
          (CXFileTcpClient.packetOf CXFileTcpClient.anyGuid CXFileTcpClient.anyGuid message)
          r.server.m_file.file.offset) := by
      unfold CXFileTcpClient.read
      rw [hserver]
      rfl
    dsimp only at hread ⊢
    have hinvalid := fun hn => CXFileTcpClient.readReply_invalid hn hserver r.server.m_file.file.offset
    obtain ⟨hopened, hfailed⟩ := CXFileTcpClient.readReply_opened n
      (CXFileTcpClient.packetOf CXFileTcpClient.anyGuid CXFileTcpClient.anyGuid message) r.server.m_file.file.offset
    dsimp only at hinvalid
    generalize CXFileTcpClient.readReply n
      (CXFileTcpClient.packetOf CXFileTcpClient.anyGuid CXFileTcpClient.anyGuid message)
      r.server.m_file.file.offset = res at hread hinvalid hopened hfailed
    cases hb : res.bOpened with
    | false =>
      obtain ⟨hclosed, hclosing, -⟩ := close_cases c.closeTransfer c.closeFile ⟨true, s⟩
      rw [if_neg (by simp)]
      exact .failed (s := r.server) rfl ⟨s, .inr hs, hclosing⟩ (hfailed hb) hclosed
    | true =>
      rw [if_pos rfl]
      rcases hopened hb with h0 | hrest
      · have hlen : 0 < n ∧ n ≤ 1024 * 10240 := by
          by_contra hn
          exact absurd (hinvalid (by omega)) (by simp [hb])
        obtain ⟨hserverOpen, hfd⟩ := hi.opened hopen
        cases (CXFileTcpClient.read_spec hfd hlen.1 hlen.2 hread).2 with
        | fails hfails _ => exact absurd h0 hfails.1
        | block hret hblock hin hfile =>
          refine .done (s := r.server) ⟨hopen, rfl⟩ ?_ rfl
          rw [hret]
          refine .read hserverOpen hblock (CXFileTcpClient.read_bytes hfd hlen.1 hlen.2 hread h0) ?_
          show s = _
          rw [hs, happlied, hfile]
      · exact .partly hopen hs hrest rfl

theorem conforms (hi : Inv r) (hop : Valid op) : Conforms c r (r.step c op).1 op (r.step c op).2 := by
  cases op with
  | «open» path type b => exact conforms_open hop
  | read n => exact conforms_read hi hop
  | write pBuf uiOffset type => exact conforms_write hop
  | seek pos type => exact conforms_seek hop.1 hop.2
  | getFileLength => exact conforms_getFileLength
  | getCurrentPosition => exact conforms_getCurrentPosition
  | setPeerRecvBufSize dwSize => exact conforms_setPeerRecvBufSize
  | close => exact conforms_close

end RemoteFile

/-! ### The client is open only while the object is -/

namespace CXFileRPCServer

variable {e : FileEnv} {s s' : CXFileRPCServer} {op : FileOp} {res : FileResult}

theorem seekFile_opened (dwSeekType : Nat) (iSeekPos : Int) :
    (s.seekFile e dwSeekType iSeekPos).1.m_bIsOpened = s.m_bIsOpened ∧
      (s.seekFile e dwSeekType iSeekPos).1.m_file.m_file = s.m_file.m_file := by
  unfold seekFile
  split
  · exact ⟨rfl, rfl⟩
  · exact ⟨rfl, CXFile64.seek_m_file ..⟩

theorem openHandle_opened {path : List UInt8} {byOpenType : UInt8} (h : s.openHandle e path byOpenType = (s', true)) :
    s'.m_bIsOpened = true ∧ 0 < s'.m_file.m_file := by
  unfold openHandle at h
  split at h
  · cases h
  · rename_i hfd
    cases h
    exact ⟨rfl, not_le.mp hfd⟩

theorem readLoop_m_file {env : ReadEnv} {b : Nat} {answers : List (Option Nat)} {file file' : CXFile64} {n : Nat}
    {r r' : ReadReply} (h : readLoop env b answers file n r = some (file', r')) : file'.m_file = file.m_file := by
  induction answers generalizing file n r with
  | nil =>
    unfold readLoop at h
    split at h
    · cases h
    · cases h
      rfl
  | cons a answers ih =>
    unfold readLoop at h
    split at h
    · dsimp only at h
      generalize hneed : (if b > b - n then b - n else b) = need at h
      have hfd := CXFile64.read_m_file (s := file) need a
      generalize file.read need a = q at h hfd
      obtain ⟨file₁, ok, k, bytes⟩ := q
      cases ok with
      | true =>
        dsimp only at h hfd
        split at h
        · cases h
          exact (CXFile64.getCurrentPosition_m_file ..).trans hfd
        · exact (ih h).trans hfd
      | false =>
        cases h
        exact (CXFile64.getCurrentPosition_m_file ..).trans hfd
    · cases h
      rfl

theorem read_m_file {env : ReadEnv} {n : Nat} {file file' : CXFile64} {m : Option (List UInt8)}
    (h : read env n file = some (file', m)) : file'.m_file = file.m_file := by
  unfold read at h
  dsimp only at h
  split at h
  · cases h
    rfl
  split at h
  · cases h
    rfl
  split at h
  · cases h
    rfl
  · obtain ⟨⟨file₁, rep⟩, hloop, hsend⟩ := Option.map_eq_some_iff.mp h
    cases hsend
    exact readLoop_m_file hloop

theorem apply_read_opened (n : Nat) : (s.apply e (.read n)).m_bIsOpened = s.m_bIsOpened ∧
    (s.apply e (.read n)).m_file.m_file = s.m_file.m_file := by
  unfold apply
  dsimp only
  cases h : read (s.readEnv e) n s.m_file with
  | none => exact ⟨rfl, rfl⟩
  | some q => exact ⟨rfl, read_m_file h⟩

theorem Direct.opened (h : Direct e s s' op res)
    (hs : RemoteFile.isOpening op = false → s.m_bIsOpened = true → 0 < s.m_file.m_file)
    (hop : RemoteFile.isClosing op = false) : s'.m_bIsOpened = true ∧ 0 < s'.m_file.m_file := by
  cases h with
  | «open» h => exact openHandle_opened h
  | read hopen _ _ hs' =>
    subst hs'
    exact ⟨hopen, hs rfl hopen⟩
  | write hopen hseek hwrite hs' =>
    rename_i pBuf uiOffset type s₁ file
    subst hs'
    obtain ⟨h₁, h₂⟩ := seekFile_opened (e := e) (s := s) type.value (toInt64 uiOffset.toNat)
    rw [hseek] at h₁ h₂
    have hfd : file.m_file = s₁.m_file.m_file := by
      have hkept := CXFile64.write_m_file (s := s₁.m_file) pBuf e.write
      rw [hwrite] at hkept
      exact hkept
    refine ⟨h₁.trans hopen, ?_⟩
    show 0 < file.m_file
    rw [hfd, h₂]
    exact hs rfl hopen
  | seek hopen h =>
    rename_i pos type
    obtain ⟨h₁, h₂⟩ := seekFile_opened (e := e) (s := s) type.value pos
    rw [h] at h₁ h₂
    refine ⟨h₁.trans hopen, ?_⟩
    rw [h₂]
    exact hs rfl hopen
  | getFileLength hopen _ hs' =>
    subst hs'
    exact ⟨hopen, hs rfl hopen⟩
  | close => cases hop

end CXFileRPCServer

namespace RemoteFile

variable {c : OpEnv} {r r' : RemoteFile} {op : FileOp} {res : FileResult}

theorem Conforms.inv (h : Conforms c r r' op res) (hi : Inv r) : Inv r' := by
  cases h with
  | refused _ _ hr =>
    rw [hr]
    exact hi
  | kept _ hr =>
    rw [hr]
    exact hi
  | failed _ _ _ hclosed => exact ⟨fun hopen => absurd hopen (by simp [hclosed])⟩
  | done hs hdirect hopened =>
    refine ⟨fun hopen => ?_⟩
    have hop : isClosing op = false := by simpa [hopen] using hopened.symm
    refine hdirect.opened (fun hno _ => ?_) hop
    rw [hno] at hs
    obtain ⟨hclient, rfl⟩ := hs
    exact (hi.opened hclient).2
  | partly hopen hs =>
    refine ⟨fun _ => ?_⟩
    obtain ⟨hserver, hfd⟩ := hi.opened hopen
    obtain ⟨h₁, h₂⟩ := CXFileRPCServer.apply_read_opened (e := c.file) (s := r.server) _
    rw [hs, h₁, h₂]
    exact ⟨hserver, hfd⟩
  | unread hopen hs =>
    refine ⟨fun _ => ?_⟩
    obtain ⟨hserver, hfd⟩ := hi.opened hopen
    rcases hs with hs | hs
    · rw [hs]
      exact ⟨hserver, hfd⟩
    · obtain ⟨h₁, h₂⟩ := CXFileRPCServer.apply_read_opened (e := c.file) (s := r.server) _
      rw [hs, h₁, h₂]
      exact ⟨hserver, hfd⟩

end RemoteFile

end KonsanNet
