import KonsanNet.FileDownload

/-!
# The end of a download

A `Read` ends in one of two ways (`ReadSpec`): with `RETURN_SUCCEED` and a whole block, or with an error that is
not the end-of-file code. The client compares the number of bytes with the number it has asked for, and closes
with -12 where they differ, so the last block of a file never gets through; and at the very end the server's
`m_file.Read` returns false, so that it answers 205 with the text of `strerror`. No download ends as it should.
-/

namespace KonsanNet

/-! ### The two words of a reply -/

theorem leBytes_four {n : Nat} (h : n < 256) : leBytes 4 n = [UInt8.ofNat n, 0, 0, 0] := by
  have hdiv : n / 256 = 0 := Nat.div_eq_of_lt h
  rw [leBytes_succ, hdiv]
  rfl

namespace CXPacketHeader

theorem ofBytes_append {bs rest : List UInt8} (h : bs.length = headerLen) :
    ofBytes (bs ++ rest) = ofBytes bs := by
  have h16 : bs.length = 16 := h
  unfold ofBytes
  congr 1
  · rw [List.take_append_of_le_length (by omega)]
  · rw [List.getD_eq_getElem?_getD, List.getD_eq_getElem?_getD, List.getElem?_append_left (by omega)]
  · rw [List.getD_eq_getElem?_getD, List.getD_eq_getElem?_getD, List.getElem?_append_left (by omega)]
  · rw [List.drop_append_of_le_length (by omega), List.take_append_of_le_length (by rw [List.length_drop]; omega)]
  · rw [List.drop_append_of_le_length (by omega), List.take_append_of_le_length (by rw [List.length_drop]; omega)]
  · rw [List.drop_append_of_le_length (by omega), List.take_append_of_le_length (by rw [List.length_drop]; omega)]

end CXPacketHeader

namespace CXPacketBodyData

variable {byObjectGuid byRequestID rest : List UInt8} {dwMesCode : Nat}

theorem ofBytes_fixedBytes (ho : byObjectGuid.length = 16) (hr : byRequestID.length = 16)
    (hm : dwMesCode < 2 ^ 32) :
    ofBytes (fixedBytes ⟨byObjectGuid, byRequestID, dwMesCode, 0, []⟩ ++ rest) =
      ⟨byObjectGuid, byRequestID, dwMesCode, 0, rest⟩ := by
  have hcode : leValue (leBytes 4 dwMesCode) = dwMesCode := leValue_leBytes hm
  have hzero : leValue (leBytes 4 0) = 0 := leValue_leBytes (by decide)
  simp [ofBytes, fixedBytes, bodyDataLen, List.drop_append, List.drop_of_length_le, ho, hr, hcode, hzero]

theorem length_fixedBytes (ho : byObjectGuid.length = 16) (hr : byRequestID.length = 16) :
    (fixedBytes ⟨byObjectGuid, byRequestID, dwMesCode, 0, []⟩).length = bodyDataLen := by
  simp [fixedBytes, ho, hr, bodyDataLen]

end CXPacketBodyData

/-! ### The client's side -/

namespace RecvPart

variable {byObjectGuid byRequestID m : List UInt8}

theorem sends_length (h : CXFileRPCServer.sends m = true) : 0 < m.length ∧ m.length + 56 ≤ 1024 * 1024 := by
  unfold CXFileRPCServer.sends at h
  rw [Bool.and_eq_true, decide_eq_true_eq, decide_eq_true_eq] at h
  exact h

theorem recvBody_packetOf (ho : byObjectGuid.length = 16) (hr : byRequestID.length = 16)
    (h : CXFileRPCServer.sends m = true) :
    ∃ body, recvBody (CXFileTcpClient.packetOf byObjectGuid byRequestID m) = (0, m.length, cxFileReadReplyCode, body) ∧
      (CXPacketBodyData.ofBytes body).buf = m := by
  obtain ⟨hpos, hle⟩ := sends_length h
  unfold CXFileTcpClient.packetOf recvBody
  dsimp only
  generalize hb : CXPacketBodyData.fixedBytes ⟨byObjectGuid, byRequestID, cxFileReadReplyCode, 0, []⟩ ++ m = body
  have hlen : body.length = m.length + 40 := by
    rw [← hb, List.length_append, CXPacketBodyData.length_fixedBytes ho hr, Nat.add_comm]
    rfl
  have hof : CXPacketBodyData.ofBytes body = ⟨byObjectGuid, byRequestID, cxFileReadReplyCode, 0, m⟩ := by
    rw [← hb]
    exact CXPacketBodyData.ofBytes_fixedBytes ho hr (by decide)
  let p : PlainPacket := ⟨body, UInt32.ofNat body.length⟩
  have hheader : CXPacketHeader.ofBytes (p.encode) =
      ⟨cxPacketHeaderFlag, 0, 0, body.length, byteSum body, p.dwOrignDataLen.toNat⟩ := by
    rw [PlainPacket.encode, CXPacketHeader.ofBytes_append p.length_header]
    refine p.ofBytes_header ?_
    show body.length ≤ 1048576
    omega
  have hsize : p.encode.length = 16 + body.length := p.length_encode
  have hdrop : (p.encode.drop headerLen).take body.length = body := by
    rw [PlainPacket.encode, List.drop_left' p.length_header]
    exact List.take_length ..
  rw [hheader]
  dsimp only
  rw [hdrop, if_neg (by rw [hsize]; show ¬ 16 + body.length < 16; omega), if_neg (by omega), if_neg (by simp),
    if_neg (by rintro (hc | hc); exacts [hc rfl, by omega]), if_neg (by simp), hof]
  refine ⟨body, ?_, by rw [hof]⟩
  refine Prod.ext rfl (Prod.ext ?_ rfl)
  show (body.length + 2 ^ 32 - 40) % 2 ^ 32 = m.length
  omega

theorem recvPacket_long (ho : byObjectGuid.length = 16) (hr : byRequestID.length = 16)
    (h : CXFileRPCServer.sends m = true) (hlt : 8 < m.length) :
    ∃ body, recvPacket readReplyLen (CXFileTcpClient.packetOf byObjectGuid byRequestID m) =
        (⟨body, 8, m.length - 8⟩, -8, m.take 8, cxFileReadReplyCode) ∧ (CXPacketBodyData.ofBytes body).buf = m := by
  obtain ⟨body, hrecv, hbuf⟩ := recvBody_packetOf ho hr h
  refine ⟨body, ?_, hbuf⟩
  have h8 : (m.take 8).length = 8 := by
    rw [List.length_take]
    omega
  have hcopy : memcpy (List.replicate 8 0) 0 (m.take 8) = m.take 8 := by
    unfold memcpy
    rw [h8]
    simp
  unfold recvPacket readReplyLen
  rw [hrecv]
  dsimp only
  rw [if_pos ⟨rfl, by omega⟩, if_pos hlt, hbuf, hcopy]

theorem recvPacket_short (ho : byObjectGuid.length = 16) (hr : byRequestID.length = 16)
    (h : CXFileRPCServer.sends m = true) (hle : m.length ≤ 8) :
    ∃ body, recvPacket readReplyLen (CXFileTcpClient.packetOf byObjectGuid byRequestID m) =
        (⟨body, 0, 0⟩, 0, m ++ List.replicate (8 - m.length) 0, cxFileReadReplyCode) := by
  obtain ⟨hpos, -⟩ := sends_length h
  obtain ⟨body, hrecv, hbuf⟩ := recvBody_packetOf ho hr h
  refine ⟨body, ?_⟩
  have hcopy : memcpy (List.replicate 8 0) 0 m = m ++ List.replicate (8 - m.length) 0 := by
    show [] ++ m ++ (List.replicate 8 0).drop (0 + m.length) = _
    rw [List.drop_replicate, Nat.zero_add]
    rfl
  unfold recvPacket readReplyLen
  rw [hrecv]
  dsimp only
  rw [if_pos ⟨rfl, hpos⟩, if_neg (by omega), hbuf, List.take_length, hcopy]

end RecvPart

namespace CXFileTcpClient

variable {byObjectGuid byRequestID m data : List UInt8} {iWantReadLen start n dwReplyCode : Nat}

/-- The reply code as the client reads it. -/
def replyWord (m : List UInt8) : Nat := leValue ((m.take 8 ++ List.replicate (8 - m.length) 0).take 4)

theorem readReply_nil : readReply iWantReadLen [] start = ⟨-4, [], false, start⟩ := rfl

/-- With another code than the three it knows, the client closes. -/
theorem readReply_unknown (ho : byObjectGuid.length = 16) (hr : byRequestID.length = 16)
    (h : CXFileRPCServer.sends m = true) (h200 : replyWord m ≠ 200) (h204 : replyWord m ≠ 204)
    (h205 : replyWord m ≠ 205) :
    readReply iWantReadLen (packetOf byObjectGuid byRequestID m) start = ⟨-6, [], false, start⟩ := by
  unfold replyWord at h200 h204 h205
  unfold readReply
  rcases Nat.lt_or_ge 8 m.length with hlt | hge
  · obtain ⟨body, hrecv, -⟩ := RecvPart.recvPacket_long ho hr h hlt
    rw [show 8 - m.length = 0 by omega, List.replicate_zero, List.append_nil] at h200 h204 h205
    rw [hrecv]
    dsimp only
    rw [if_neg (by simp), if_neg (by simp), if_pos ⟨h200, h205, h204⟩]
  · obtain ⟨body, hrecv⟩ := RecvPart.recvPacket_short ho hr h hge
    rw [List.take_of_length_le hge] at h200 h204 h205
    rw [hrecv]
    dsimp only
    rw [if_neg (by simp), if_neg (by simp), if_pos ⟨h200, h205, h204⟩]

/-- Neither success nor the end of the file. -/
def Fails (r : ReadResult) : Prop := r.iRet ≠ 0 ∧ r.iRet ≠ -10

theorem finishRead_205 (iWantReadLen dwDataLen start : Nat) (left : Bool × Option (List UInt8)) :
    Fails (finishRead iWantReadLen 205 dwDataLen start left) := by
  unfold finishRead
  dsimp only
  rw [if_neg (show ¬ 205 = 203 by decide), if_neg (show ¬ 205 = 204 by decide), if_pos rfl]
  split
  · exact ⟨by simp, by simp⟩
  split
  · exact ⟨by simp, by simp⟩
  · exact ⟨by simp, by simp⟩

theorem readReply_205 (ho : byObjectGuid.length = 16) (hr : byRequestID.length = 16)
    (h : CXFileRPCServer.sends m = true) (h205 : replyWord m = 205) :
    Fails (readReply iWantReadLen (packetOf byObjectGuid byRequestID m) start) := by
  unfold replyWord at h205
  unfold readReply
  rcases Nat.lt_or_ge 8 m.length with hlt | hge
  · obtain ⟨body, hrecv, -⟩ := RecvPart.recvPacket_long ho hr h hlt
    rw [show 8 - m.length = 0 by omega, List.replicate_zero, List.append_nil] at h205
    rw [hrecv]
    dsimp only
    rw [h205, if_neg (by simp), if_neg (by simp), if_neg (by simp)]
    split
    · exact ⟨by simp, by simp⟩
    · exact finishRead_205 ..
  · obtain ⟨body, hrecv⟩ := RecvPart.recvPacket_short ho hr h hge
    rw [List.take_of_length_le hge] at h205
    rw [hrecv]
    dsimp only
    rw [h205, if_neg (by simp), if_neg (by simp), if_neg (by simp)]
    split
    · exact ⟨by simp, by simp⟩
    · exact finishRead_205 ..

/-- A reply with bytes is taken where they are as many as were asked for. -/
theorem readReply_block (ho : byObjectGuid.length = 16) (hr : byRequestID.length = 16)
    (hm : m = leBytes 4 dwReplyCode ++ leBytes 4 n ++ data) (h : CXFileRPCServer.sends m = true)
    (hn : data.length = n) (hpos : 0 < n) (hle : n ≤ iWantReadLen) (hcode : dwReplyCode = 200 ∨ dwReplyCode = 204) :
    readReply iWantReadLen (packetOf byObjectGuid byRequestID m) start =
      if n = iWantReadLen then
        if dwReplyCode = 204 then ⟨-10, data, true, start⟩ else ⟨0, data, true, start⟩
      else ⟨-12, data, false, start⟩ := by
  have hlen : m.length = 8 + n := by
    rw [hm, List.length_append, List.length_append, length_leBytes, length_leBytes, hn]
  have h8 : m.take 8 = leBytes 4 dwReplyCode ++ leBytes 4 n := by
    rw [hm]
    exact List.take_left' (by simp)
  have hdrop : m.drop 8 = data := by
    rw [hm]
    exact List.drop_left' (by simp)
  have hn32 : n < 2 ^ 32 := by
    obtain ⟨-, hbound⟩ := RecvPart.sends_length h
    omega
  have hw₁ : leValue ((m.take 8).take 4) = dwReplyCode := by
    rw [h8, List.take_left' (length_leBytes ..)]
    exact leValue_leBytes (by rcases hcode with rfl | rfl <;> decide)
  have hw₂ : leValue (((m.take 8).drop 4).take 4) = n := by
    rw [h8, List.drop_left' (length_leBytes ..), List.take_of_length_le (le_of_eq (length_leBytes ..))]
    exact leValue_leBytes hn32
  obtain ⟨body, hrecv, hbuf⟩ := RecvPart.recvPacket_long ho hr h (by omega)
  have hleft : RecvPart.readLeftData ⟨body, 8, m.length - 8⟩ iWantReadLen = (true, some data) := by
    unfold RecvPart.readLeftData
    dsimp only
    rw [if_neg (by omega), if_neg (by omega), hbuf, hdrop, List.take_of_length_le (by omega)]
  unfold readReply
  rw [hrecv]
  dsimp only
  rw [hw₁, hw₂, if_neg (by simp), if_neg (by simp), if_neg (by omega), if_neg (by omega), if_pos hpos, hleft]
  unfold finishRead
  dsimp only
  rw [if_neg (by simp), Option.getD_some, hn]
  by_cases hw : n = iWantReadLen
  · rw [if_neg (by omega), if_pos hw, if_neg (by omega)]
    rcases hcode with rfl | rfl
    · rfl
    · rfl
  · rw [if_pos ⟨hpos, fun hc => hw hc.symm⟩, if_neg hw]

end CXFileTcpClient

/-! ### The server's side -/

namespace CXFileRPCServer

variable {r : ReadReply} {env : ReadEnv} {file file' : CXFile64} {b : Nat}

theorem message_eq (h : r.dwDataLen + 8 < 2 ^ 32) :
    r.message = leBytes 4 r.dwReplyCode ++ leBytes 4 r.dwDataLen ++ r.szData.take r.dwDataLen := by
  have h8 : (leBytes 4 r.dwReplyCode ++ leBytes 4 r.dwDataLen).length = 8 := by simp
  unfold ReadReply.message readReplyLen
  rw [Nat.mod_eq_of_lt h, List.take_append, List.take_of_length_le (by rw [h8]; omega), h8, Nat.add_sub_cancel]

/-- However short the message is, its first byte tells the code. -/
theorem replyWord_message (hcode : r.dwReplyCode < 256) (h : sends r.message = true) :
    CXFileTcpClient.replyWord r.message = r.dwReplyCode := by
  obtain ⟨hpos, -⟩ := RecvPart.sends_length h
  have hfour : leValue [UInt8.ofNat r.dwReplyCode, 0, 0, 0] = r.dwReplyCode := by
    rw [← leBytes_four hcode]
    exact leValue_leBytes (lt_trans hcode (by decide))
  unfold CXFileTcpClient.replyWord ReadReply.message at *
  rw [leBytes_four hcode] at hpos ⊢
  generalize (r.dwDataLen + readReplyLen) % 2 ^ 32 = k at hpos ⊢
  generalize leBytes 4 r.dwDataLen = len at hpos ⊢
  refine Eq.trans (congrArg leValue ?_) hfour
  match k with
  | 0 => exact absurd hpos (by simp)
  | 1 => rfl
  | 2 => rfl
  | 3 => rfl
  | k + 4 => simp [List.take_append]

/-- One answer of `read` ends the loop: a short count leaves it, and a full one is all that was asked for. -/
theorem readLoop_finishes (hread : env.read ≠ []) : ∃ p, readLoop env b env.read file 0 r = some p := by
  cases ha : env.read with
  | nil => exact absurd ha hread
  | cons a answers =>
    unfold readLoop
    by_cases hb : 0 < b
    · rw [if_pos hb]
      dsimp only
      rw [if_neg (by omega)]
      obtain ⟨file', ok, n, bytes⟩ := file.read b a
      cases ok with
      | false => exact ⟨_, rfl⟩
      | true =>
        dsimp only
        by_cases hn : n = b
        · rw [if_neg (not_not.mpr hn), hn, Nat.zero_add]
          cases answers <;> exact ⟨_, if_neg (lt_irrefl b)⟩
        · exact ⟨_, if_pos hn⟩
    · exact ⟨_, if_neg hb⟩

/-- What the loop of `Read` may answer for `b` bytes. -/
inductive LoopReply (env : ReadEnv) (b : Nat) (file file' : CXFile64) (r : ReadReply) : Prop
  | block (data : List UInt8) (hdata : data = (file.file.contents.drop file.file.offset).take b) (hlen : data.length = b)
    (hr : r = ⟨200, b, data⟩) (hfile : file' = { file with file := { file.file with offset := file.file.offset + b } })
  | short (data : List UInt8) (hdata : data = (file.file.contents.drop file.file.offset).take data.length)
    (hpos : 0 < data.length) (hlt : data.length < b) (hcode : r.dwReplyCode = 204) (hlen : r.dwDataLen = data.length)
    (hsz : r.szData.take data.length = data) (hle : data.length ≤ r.szData.length)
  | failed (hcode : r.dwReplyCode = 204) (hlen : r.dwDataLen = 2 ^ 32 - 1)
  | ended (hend : file.file.contents.length ≤ file.file.offset) (hcode : r.dwReplyCode = 205)

theorem memcpy_zero (dst src : List UInt8) : memcpy dst 0 src = src ++ dst.drop src.length := by
  show [] ++ src ++ dst.drop (0 + src.length) = _
  rw [List.nil_append, Nat.zero_add]

theorem readLoop_spec (hopen : 0 < file.m_file) (hb : 0 < b) (hmax : b ≤ 1024 * 10240)
    (h : readLoop env b env.read file 0 ⟨200, 0, List.replicate b 0⟩ = some (file', r)) :
    LoopReply env b file file' r := by
  cases ha : env.read with
  | nil =>
    rw [ha] at h
    unfold readLoop at h
    rw [if_pos hb] at h
    cases h
  | cons a answers =>
    rw [ha] at h
    unfold readLoop at h
    have hneed : (if b > b - 0 then b - 0 else b) = b := by
      split <;> omega
    rw [if_pos hb] at h
    dsimp only at h
    rw [hneed] at h
    cases a with
    | none =>
      rw [CXFile64.read_none hopen] at h
      dsimp only at h
      rw [if_pos (show (2 : Nat) ^ 32 - 1 ≠ b by omega)] at h
      cases h
      exact .failed rfl (by norm_num)
    | some k =>
      generalize hbytes : (file.file.contents.drop file.file.offset).take (min (k + 1) b) = bytes at h
      have hread := CXFile64.read_some hopen (show b < 2 ^ 32 by omega) k hbytes.symm
      have hle : bytes.length ≤ b := by
        rw [← hbytes, List.length_take]
        omega
      have htake : bytes = (file.file.contents.drop file.file.offset).take bytes.length := by
        rw [← hbytes, List.length_take, ← List.take_eq_take_min]
      rw [hread] at h
      by_cases hpos : 0 < bytes.length
      · rw [decide_eq_true hpos] at h
        dsimp only at h
        have hcount : (0 + bytes.length) % 2 ^ 32 = bytes.length := by
          rw [Nat.zero_add]
          exact Nat.mod_eq_of_lt (by omega)
        rw [hcount, memcpy_zero] at h
        by_cases hlen : bytes.length = b
        · -- the whole block: the loop ends at its condition
          rw [if_neg (not_not.mpr hlen), Nat.zero_add] at h
          have hdone : some (file', r) = some (({ file with
              file := { file.file with offset := file.file.offset + bytes.length } } : CXFile64),
              (⟨200, bytes.length, bytes ++ (List.replicate b 0).drop bytes.length⟩ : ReadReply)) := by
            rw [← h]
            cases answers <;> unfold readLoop <;> rw [if_neg (by omega)]
          cases hdone
          refine .block bytes (hlen ▸ htake) hlen ?_ (by rw [hlen])
          rw [hlen, List.drop_of_length_le (by simp), List.append_nil]
        · rw [if_pos hlen] at h
          cases h
          refine .short bytes htake hpos (by omega) rfl rfl ?_ ?_
          · exact List.take_left' rfl
          · rw [List.length_append]
            omega
      · rw [decide_eq_false hpos] at h
        cases h
        refine .ended ?_ rfl
        have hnil : ((file.file.contents.drop file.file.offset).take (min (k + 1) b)).length = 0 := by
          rw [hbytes]
          omega
        rw [List.length_take, List.length_drop] at hnil
        omega

end CXFileRPCServer

/-! ### One `Read` -/

namespace CXFileTcpClient

variable {contents : List UInt8} {b : Nat} {env : ReadEnv} {file file' : CXFile64} {r : ReadResult}

/-- A `Read` succeeds with a whole block, or it fails: at the end of the file, or with bytes that are right. -/
inductive ReadSpec (b : Nat) (file file' : CXFile64) (r : ReadResult) : Prop
  | block (hret : r.iRet = 0) (hlen : r.bytes.length = b)
    (hin : file.file.offset + b ≤ file.file.contents.length)
    (hfile : file' = { file with file := { file.file with offset := file.file.offset + b } })
  | fails (hret : Fails r) (hend : file.file.contents.length < r.start + b ∨
      r.bytes = (file.file.contents.drop r.start).take r.bytes.length)

theorem start_readReply (stream : List UInt8) (start : Nat) : (readReply b stream start).start = start := by
  unfold readReply
  dsimp only
  split_ifs
  iterate 4 rfl
  all_goals
    unfold finishRead
    dsimp only
    split_ifs <;> rfl

theorem readReply_text (hcode : dwReplyCode = 202 ∨ dwReplyCode = 203) (text : List UInt8)
    {m : Option (List UInt8)}
    (hm : m = if CXFileRPCServer.sends (CXFileRPCServer.textReply dwReplyCode text).message then
      some (CXFileRPCServer.textReply dwReplyCode text).message else none) :
    Fails (readReply b ((m.map (packetOf anyGuid anyGuid)).getD []) start) ∧
      (readReply b ((m.map (packetOf anyGuid anyGuid)).getD []) start).bytes = [] := by
  by_cases hs : CXFileRPCServer.sends (CXFileRPCServer.textReply dwReplyCode text).message = true
  · rw [if_pos hs] at hm
    subst hm
    have hword := CXFileRPCServer.replyWord_message (r := CXFileRPCServer.textReply dwReplyCode text)
      (by show dwReplyCode < 256; omega) hs
    have hword : replyWord (CXFileRPCServer.textReply dwReplyCode text).message = dwReplyCode := hword
    have hreply : readReply b (packetOf anyGuid anyGuid _) start = ⟨-6, [], false, start⟩ :=
      readReply_unknown length_anyGuid length_anyGuid hs (by omega) (by omega) (by omega)
    rw [Option.map_some, Option.getD_some, hreply]
    exact ⟨⟨by simp, by simp⟩, rfl⟩
  · rw [if_neg hs] at hm
    subst hm
    exact ⟨⟨by simp [readReply_nil], by simp [readReply_nil]⟩, rfl⟩

/-- `read` of the file has failed: the message is seven bytes long. -/
theorem readReply_failed {rep : CXFileRPCServer.ReadReply} (hmax : b ≤ 1024 * 10240)
    (hcode : rep.dwReplyCode = 204)
    (hlen : rep.dwDataLen = 2 ^ 32 - 1) :
    Fails (readReply b (packetOf anyGuid anyGuid rep.message) start) ∧
      (readReply b (packetOf anyGuid anyGuid rep.message) start).bytes = [] := by
  have hm : rep.message = [204, 0, 0, 0, 255, 255, 255] := by
    unfold CXFileRPCServer.ReadReply.message readReplyLen
    rw [hcode, hlen, leBytes_four (by decide), show (2 ^ 32 - 1 + 8) % 2 ^ 32 = 7 from rfl]
    have hff : leBytes 4 (2 ^ 32 - 1) = [255, 255, 255, 255] := by decide
    rw [hff]
    rfl
  obtain ⟨body, hrecv⟩ := RecvPart.recvPacket_short length_anyGuid length_anyGuid
    (show CXFileRPCServer.sends [204, 0, 0, 0, 255, 255, 255] = true by decide) (by decide)
  have hres : readReply b (packetOf anyGuid anyGuid rep.message) start =
      ⟨-7, [], false, start⟩ := by
    rw [hm]
    unfold readReply
    rw [hrecv]
    dsimp only
    have hw₁ : leValue (([204, 0, 0, 0, 255, 255, 255] ++ List.replicate (8 - 7) (0 : UInt8)).take 4) = 204 := by
      decide
    have hw₂ : leValue ((([204, 0, 0, 0, 255, 255, 255] ++ List.replicate (8 - 7) (0 : UInt8)).drop 4).take 4) =
        16777215 := by
      decide
    have hlen7 : [204, 0, 0, 0, 255, 255, (255 : UInt8)].length = 7 := rfl
    rw [hlen7, hw₁, hw₂, if_neg (by simp), if_neg (by simp), if_neg (by simp), if_pos (by omega)]
  rw [hres]
  exact ⟨⟨by simp, by simp⟩, rfl⟩

theorem read_spec (hopen : 0 < file.m_file) (hb : 0 < b) (hmax : b ≤ 1024 * 10240)
    (h : read env b file = some (file', r)) : r.start = file.file.offset ∧ ReadSpec b file file' r := by
  unfold read at h
  obtain ⟨⟨file₁, m⟩, hserver, hr⟩ := Option.map_eq_some_iff.mp h
  cases hr
  refine ⟨start_readReply .., ?_⟩
  unfold CXFileRPCServer.read at hserver
  dsimp only at hserver
  rw [if_neg (by omega)] at hserver
  have hcorrect : ∀ {r : ReadResult}, r.bytes = [] →
      r.bytes = (file.file.contents.drop r.start).take r.bytes.length := by
    intro r hr
    rw [hr]
    rfl
  split at hserver
  · cases hserver
    obtain ⟨hfails, hbytes⟩ := readReply_text (Or.inl rfl) _ rfl
    exact .fails hfails (Or.inr (hcorrect hbytes))
  split at hserver
  · cases hserver
    obtain ⟨hfails, hbytes⟩ := readReply_text (Or.inr rfl) _ rfl
    exact .fails hfails (Or.inr (hcorrect hbytes))
  obtain ⟨⟨file₂, rep⟩, hloop, hsend⟩ := Option.map_eq_some_iff.mp hserver
  cases hsend
  have hnone : readReply b ((Option.map (packetOf anyGuid anyGuid) none).getD []) file.file.offset
      = ⟨-4, [], false, file.file.offset⟩ := readReply_nil
  by_cases hs : CXFileRPCServer.sends rep.message = true
  · rw [if_pos hs, Option.map_some, Option.getD_some]
    cases CXFileRPCServer.readLoop_spec hopen hb hmax hloop with
    | block data hdata hlen hrep hfile =>
      subst hrep
      have hmes : CXFileRPCServer.ReadReply.message ⟨200, b, data⟩ = leBytes 4 200 ++ leBytes 4 b ++ data := by
        rw [CXFileRPCServer.message_eq (show b + 8 < 2 ^ 32 by omega), List.take_of_length_le (le_of_eq hlen)]
      have hreply : readReply b (packetOf anyGuid anyGuid _) file.file.offset = _ :=
        readReply_block length_anyGuid length_anyGuid hmes hs hlen hb le_rfl (Or.inl rfl)
      rw [if_pos rfl, if_neg (by decide)] at hreply
      rw [hreply]
      refine .block rfl hlen ?_ hfile
      rw [hdata, List.length_take, List.length_drop] at hlen
      omega
    | short data hdata hpos hlt hcode hlen hsz hle =>
      have hmes : rep.message = leBytes 4 204 ++ leBytes 4 data.length ++ data := by
        rw [CXFileRPCServer.message_eq (by omega), hcode, hlen, hsz]
      have hreply : readReply b (packetOf anyGuid anyGuid _) file.file.offset = _ :=
        readReply_block length_anyGuid length_anyGuid hmes hs rfl hpos (Nat.le_of_lt hlt) (Or.inr rfl)
      rw [if_neg (Nat.ne_of_lt hlt)] at hreply
      rw [hreply]
      exact .fails ⟨by simp, by simp⟩ (Or.inr hdata)
    | failed hcode hlen =>
      obtain ⟨hfails, hbytes⟩ := readReply_failed hmax hcode hlen
      exact .fails hfails (Or.inr (hcorrect hbytes))
    | ended hend hcode =>
      have hword := CXFileRPCServer.replyWord_message (by omega) hs
      refine .fails (readReply_205 length_anyGuid length_anyGuid hs (hword.trans hcode)) ?_
      rw [start_readReply]
      exact Or.inl (by omega)
  · rw [if_neg hs, hnone]
    exact .fails ⟨by simp, by simp⟩ (Or.inr (hcorrect rfl))

/-! ### The loop -/

theorem read_finishes (hread : env.read ≠ []) : ∃ p, read env b file = some p := by
  have hserver : ∃ p, CXFileRPCServer.read env b file = some p := by
    unfold CXFileRPCServer.read
    obtain ⟨p, hp⟩ : ∃ p, CXFileRPCServer.readLoop env b env.read file 0 ⟨200, 0, List.replicate b 0⟩ = some p :=
      CXFileRPCServer.readLoop_finishes hread
    rw [hp]
    by_cases h₁ : b ≤ 0 ∨ 1024 * 10240 < b
    · exact ⟨_, if_pos h₁⟩
    rw [if_neg h₁]
    by_cases h₂ : (!env.isOpen) = true
    · exact ⟨_, if_pos h₂⟩
    rw [if_neg h₂]
    by_cases h₃ : (!env.getSendBuffer) = true
    · exact ⟨_, if_pos h₃⟩
    exact ⟨_, if_neg h₃⟩
  obtain ⟨p, hp⟩ := hserver
  unfold read
  rw [hp]
  exact ⟨_, rfl⟩

/-- The loop ends: every round but the last moves the server's position by a block of the file. -/
theorem download_finishes {envs : List ReadEnv} (hopen : 0 < file.m_file) (hb : 0 < b) (hmax : b ≤ 1024 * 10240)
    (hread : ∀ env ∈ envs, env.read ≠ []) (hlong : file.file.contents.length < file.file.offset + envs.length * b) :
    file.file.offset ≤ file.file.contents.length → ∃ results, download b envs file = some results := by
  induction envs generalizing file with
  | nil =>
    intro hle
    rw [List.length_nil, Nat.zero_mul] at hlong
    omega
  | cons env envs ih =>
    intro _
    obtain ⟨⟨file', r⟩, hp⟩ : ∃ p, read env b file = some p := read_finishes (hread env (List.mem_cons_self ..))
    unfold download
    rw [hp, Option.bind_some]
    dsimp only
    by_cases hret : r.iRet = 0
    · rw [if_pos hret]
      cases (read_spec hopen hb hmax hp).2 with
      | block _ _ hin hfile =>
        subst hfile
        rw [List.length_cons, Nat.succ_mul] at hlong
        have hlong' : file.file.contents.length < file.file.offset + b + envs.length * b := by omega
        have hopen' : 0 < ({ file with
          file := { file.file with offset := file.file.offset + b } } : CXFile64).m_file := hopen
        obtain ⟨results, hres⟩ := ih hopen' (fun e he => hread e (List.mem_cons_of_mem _ he)) hlong' hin
        exact ⟨_, by rw [hres]; rfl⟩
      | fails hfails _ => exact absurd hret hfails.1
    · exact ⟨_, if_neg hret⟩

/-- The last result of a loop has failed, and what came before it is as long as the way to its position. -/
theorem download_spec {results : List ReadResult} {envs : List ReadEnv} (hopen : 0 < file.m_file) (hb : 0 < b)
    (hmax : b ≤ 1024 * 10240) (h : download b envs file = some results) :
    ∃ last ∈ results, Fails last ∧ (file.file.contents.length < last.start + b ∨
      last.bytes = (file.file.contents.drop last.start).take last.bytes.length) ∧
      file.file.offset + (results.flatMap ReadResult.bytes).length = last.start + last.bytes.length := by
  induction envs generalizing file results with
  | nil => cases h
  | cons env envs ih =>
    obtain ⟨⟨file', r⟩, hread, hrest⟩ := Option.bind_eq_some_iff.mp h
    obtain ⟨hstart, hspec⟩ := read_spec hopen hb hmax hread
    cases hspec with
    | block hret hlen _ hfile =>
      rw [if_pos hret] at hrest
      obtain ⟨results', hres, rfl⟩ := Option.map_eq_some_iff.mp hrest
      subst hfile
      have hopen' : 0 < ({ file with
        file := { file.file with offset := file.file.offset + b } } : CXFile64).m_file := hopen
      obtain ⟨last, hmem, hfails, hend, hpos⟩ := ih hopen' hres
      refine ⟨last, List.mem_cons_of_mem _ hmem, hfails, hend, ?_⟩
      have hpos' : file.file.offset + b + (results'.flatMap ReadResult.bytes).length =
          last.start + last.bytes.length := hpos
      have hlen' : r.bytes.length = b := hlen
      show file.file.offset + ((r :: results').flatMap ReadResult.bytes).length = _
      rw [List.flatMap_cons, List.length_append, hlen', ← hpos', Nat.add_assoc]
    | fails hret hend =>
      rw [if_neg hret.1] at hrest
      cases hrest
      refine ⟨r, List.mem_cons_self .., hret, hend, ?_⟩
      rw [List.flatMap_cons, List.flatMap_nil, List.append_nil, hstart]

/-- No download is what it should be, whatever the file, the block size and the answers of the system calls are. -/
theorem not_downloads {envs : List ReadEnv} {results : List ReadResult} (hopen : 0 < file.m_file)
    (hstart : file.file.offset = 0) (hb : 0 < b) (hmax : b ≤ 1024 * 10240)
    (h : download b envs file = some results) : ¬ Downloads file.file.contents b results := by
  intro hd
  obtain ⟨last, hmem, hfails, hend, hpos⟩ := download_spec hopen hb hmax h
  rcases Nat.lt_or_ge file.file.contents.length (last.start + b) with hlt | hge
  · exact hfails.2 (hd.eof last hmem hlt).1
  have hbytes := hend.resolve_left (not_lt.mpr hge)
  by_cases hnil : last.bytes = []
  · -- nothing came with it, and there was more of the file
    rw [hd.whole, hstart, hnil, List.length_nil] at hpos
    omega
  · rcases hd.transferred last hmem hnil hbytes with h0 | h10
    · exact hfails.1 h0
    · exact hfails.2 h10

/-- The last block of a file is short: the client takes the code 204 for a failure, and closes. -/
def shortFile : CXFile64 := ⟨3, ⟨[1, 2, 3], 0⟩⟩

def plainEnv : ReadEnv := ⟨true, true, [some 9], ⟨false, none⟩, [69]⟩

def shortResults : List ReadResult := [⟨0, [1, 2], true, 0⟩, ⟨-12, [3], false, 2⟩]

theorem download_shortFile : download 2 [plainEnv, plainEnv] shortFile = some shortResults := by rfl

theorem not_downloads_shortFile : ¬ Downloads [1, 2, 3] 2 shortResults :=
  not_downloads (show 0 < shortFile.m_file by decide) rfl (by decide) (by decide) download_shortFile

/-- Not every file is downloaded: `shortFile` is not. -/
theorem not_downloads_always : ¬ ∀ (b : Nat) (envs : List ReadEnv) (file : CXFile64) (results : List ReadResult),
    0 < file.m_file → file.file.offset = 0 → 0 < b → b ≤ 1024 * 10240 → download b envs file = some results →
      Downloads file.file.contents b results := by
  intro h
  have hd := h 2 [plainEnv, plainEnv] shortFile shortResults (by decide) rfl (by decide) (by decide) download_shortFile
  have heof := hd.eof ⟨-12, [3], false, 2⟩ (by decide) (by decide)
  exact absurd heof.1 (by decide)

end CXFileTcpClient

end KonsanNet
