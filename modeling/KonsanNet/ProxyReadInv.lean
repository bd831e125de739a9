import KonsanNet.ProxyRead

/-!
# Which replies are passed on

A reply with as many bytes of data as it says comes through if it is `PassedOn`: the zero that `OnRead` puts
behind an error text is also put over the last byte of the data that come with the end of the file (204), and
the code 503 of the storage server is taken for the proxy's own. `ReadReply` copies what a reply says without a
look at the message, so that another reply makes it read behind the message unless it is `Contained`.
-/

namespace KonsanNet

namespace CXFileReadReply

theorem ofBytes_eq {dwReplyCode dwDataLen : Nat} {szData : List UInt8} (hcode : dwReplyCode < 2 ^ 32)
    (hlen : dwDataLen < 2 ^ 32) (hdata : szData.length = dwDataLen) :
    ofBytes (leBytes 4 dwReplyCode ++ leBytes 4 dwDataLen ++ szData) = ⟨dwReplyCode, dwDataLen, szData⟩ := by
  have h4 : (leBytes 4 dwReplyCode).length = 4 := length_leBytes ..
  have h8 : (leBytes 4 dwReplyCode ++ leBytes 4 dwDataLen).length = 8 := by simp
  have hword : leValue (((leBytes 4 dwReplyCode ++ leBytes 4 dwDataLen ++ szData).drop 4).take 4) = dwDataLen := by
    rw [List.append_assoc, List.drop_left' h4, List.take_left' (length_leBytes ..), leValue_leBytes hlen]
  unfold ofBytes readReplyLen
  rw [hword, List.drop_left' h8, List.take_of_length_le (le_of_eq hdata), List.append_assoc, List.take_left' h4,
    leValue_leBytes hcode]

end CXFileReadReply

theorem length_cText_le (sz : List UInt8) : (cText sz).length ≤ sz.length := (List.takeWhile_prefix _).length_le

theorem cText_sprintfText (text : List UInt8) : cText (sprintfText text) ++ [0] <+: sprintfText text := by
  unfold sprintfText cText
  generalize text.take (leftDataLen - 1) = sz
  induction sz with
  | nil => exact List.prefix_rfl
  | cons b sz ih =>
    rw [List.cons_append, List.takeWhile_cons]
    by_cases hb : b = 0
    · subst hb
      rw [if_neg (by decide)]
      exact ⟨sz ++ [0], rfl⟩
    · rw [if_pos (by simpa using hb), List.cons_append]
      exact (List.cons_prefix_cons).mpr ⟨rfl, ih⟩

theorem length_sprintfText_le (text : List UInt8) : (sprintfText text).length ≤ 4086 := by
  unfold sprintfText leftDataLen cxBufSize readReplyLen
  rw [List.length_append, List.length_take]
  show min _ _ + 1 ≤ 4086
  omega

namespace CXFileRPCProxyServer

variable {mem : Blocks ReplyObject} {dwReplyCode dwReplyDataLen : Nat} {text : List UInt8} {rpcReply : RPCReply}

/-- What `sendText` sends. -/
def textMes (dwReplyCode : Nat) (text : List UInt8) : List UInt8 :=
  leBytes 4 dwReplyCode ++ leBytes 4 ((cText (sprintfText text)).length + 1) ++ (cText (sprintfText text) ++ [0])

theorem sendText_eq (h : mem.bytes .bySendBuf = List.replicate cxBufSize 0) :
    (sendText mem dwReplyCode text).1.outside = mem.outside ∧
      (sendText mem dwReplyCode text).2 = textMes dwReplyCode text := by
  have hsz := length_sprintfText_le text
  obtain ⟨tail, htail⟩ := cText_sprintfText text
  unfold sendText textMes
  dsimp only
  generalize sprintfText text = sz at hsz htail
  have hct : (cText sz).length + 1 ≤ sz.length := by
    have hlen := congrArg List.length htail
    rw [List.length_append, List.length_append] at hlen
    exact le_of_le_of_eq (Nat.le_add_right ..) hlen
  generalize cText sz = ct at htail hct
  subst htail
  have h4 (n : Nat) : (leBytes 4 n).length = 4 := length_leBytes ..
  have hsize : (mem.bytes .bySendBuf).length = 4096 := by rw [h, List.length_replicate]; rfl
  generalize hm₁ : mem.store .bySendBuf 0 (leBytes 4 dwReplyCode) = m₁
  have hin₁ : mem.Inside .bySendBuf 0 (leBytes 4 dwReplyCode).length := by
    show 0 + _ ≤ _
    rw [h4, hsize]
    decide
  have hsize₁ : (m₁.bytes .bySendBuf).length = 4096 := by rw [← hm₁, Blocks.length_bytes_store hin₁, hsize]
  generalize hm₂ : m₁.store .bySendBuf readReplyLen (ct ++ [0] ++ tail) = m₂
  have hin₂ : m₁.Inside .bySendBuf readReplyLen (ct ++ [0] ++ tail).length := by
    show 8 + _ ≤ _
    omega
  have hsize₂ : (m₂.bytes .bySendBuf).length = 4096 := by rw [← hm₂, Blocks.length_bytes_store hin₂, hsize₁]
  generalize hm₃ : m₂.store .bySendBuf 4 (leBytes 4 (ct.length + 1)) = m₃
  have hin₃ : m₂.Inside .bySendBuf 4 (leBytes 4 (ct.length + 1)).length := by
    show 4 + _ ≤ _
    rw [h4, hsize₂]
    decide
  have hsize₃ : (m₃.bytes .bySendBuf).length = 4096 := by rw [← hm₃, Blocks.length_bytes_store hin₃, hsize₂]
  have hin : m₃.Inside .bySendBuf 0 (readReplyLen + (ct.length + 1)) := by
    show 0 + (8 + _) ≤ _
    omega
  -- the three writes make one piece
  have hbytes : m₃.bytes .bySendBuf = patched (mem.bytes .bySendBuf) 0
      (leBytes 4 dwReplyCode ++ (leBytes 4 (ct.length + 1) ++ (ct ++ [0] ++ tail))) := by
    rw [← hm₃, Blocks.bytes_store_self hin₃, ← hm₂, Blocks.bytes_store_self hin₂,
      patched_patched_left (by rw [h4]; rfl) hin₂, ← hm₁, Blocks.bytes_store_self hin₁,
      patched_patched_right (by rw [h4]) (by rw [List.length_append, h4, hsize]; omega)]
  rw [Blocks.load_inside hin]
  refine ⟨?_, ?_⟩
  · rw [← hm₃, Blocks.outside_store hin₃, ← hm₂, Blocks.outside_store hin₂, ← hm₁, Blocks.outside_store hin₁]
  · have hpiece : m₃.bytes .bySendBuf =
        leBytes 4 dwReplyCode ++ leBytes 4 (ct.length + 1) ++ (ct ++ [0]) ++
          (tail ++ (mem.bytes .bySendBuf).drop (8 + (ct ++ [0] ++ tail).length)) := by
      rw [hbytes]
      simp only [patched, List.take_zero, List.nil_append, List.append_assoc, List.length_append, h4, Nat.zero_add,
        ← Nat.add_assoc]
    show ((m₃.bytes .bySendBuf).drop 0).take _ = _
    rw [List.drop_zero, hpiece]
    refine List.take_left' ?_
    rw [List.length_append, List.length_append, List.length_append, h4, h4]
    rfl

theorem sendData_eq (mem : Blocks ReplyObject) (rpcReply : RPCReply)
    (hbuf : (mem.bytes .pCXBuf).length = 120 + rpcReply.dwReplyDataLen)
    (hlen : rpcReply.dwReplyDataLen + 8 < 2 ^ 32)
    (hdata : rpcReply.pbyReplyData + rpcReply.dwReplyDataLen ≤ (mem.bytes .bodyData).length) :
    (sendData mem rpcReply).1.outside = mem.outside ∧
      (sendData mem rpcReply).2 = leBytes 4 rpcReply.dwReplyCode ++ leBytes 4 rpcReply.dwReplyDataLen ++
        ((mem.bytes .bodyData).drop rpcReply.pbyReplyData).take rpcReply.dwReplyDataLen := by
  have h4 (n : Nat) : (leBytes 4 n).length = 4 := length_leBytes ..
  unfold sendData bufferObjLen packetDataLen
  dsimp only
  generalize hd : ((mem.bytes .bodyData).drop rpcReply.pbyReplyData).take rpcReply.dwReplyDataLen = data
  have hdlen : data.length = rpcReply.dwReplyDataLen := by
    rw [← hd, List.length_take, List.length_drop]
    omega
  generalize hm₁ : mem.store .pCXBuf (56 + 56) (leBytes 4 rpcReply.dwReplyCode) = m₁
  have hin₁ : mem.Inside .pCXBuf (56 + 56) (leBytes 4 rpcReply.dwReplyCode).length := by
    show 112 + _ ≤ _
    rw [h4, hbuf]
    omega
  have hsize₁ : (m₁.bytes .pCXBuf).length = 120 + rpcReply.dwReplyDataLen := by
    rw [← hm₁, Blocks.length_bytes_store hin₁, hbuf]
  generalize hm₂ : m₁.store .pCXBuf (56 + 56 + 4) (leBytes 4 rpcReply.dwReplyDataLen) = m₂
  have hin₂ : m₁.Inside .pCXBuf (56 + 56 + 4) (leBytes 4 rpcReply.dwReplyDataLen).length := by
    show 116 + _ ≤ _
    rw [h4, hsize₁]
    omega
  have hsize₂ : (m₂.bytes .pCXBuf).length = 120 + rpcReply.dwReplyDataLen := by
    rw [← hm₂, Blocks.length_bytes_store hin₂, hsize₁]
  have hbody₂ : m₂.bytes .bodyData = mem.bytes .bodyData := by
    rw [← hm₂, Blocks.bytes_store_ne (by decide), ← hm₁, Blocks.bytes_store_ne (by decide)]
  have hload : m₂.load .bodyData rpcReply.pbyReplyData rpcReply.dwReplyDataLen = (m₂, data) := by
    rw [Blocks.load_inside (by show _ ≤ _; rwa [hbody₂]), hbody₂, hd]
  -- an empty piece may as well be written
  generalize hm₃ : m₂.store .pCXBuf (56 + 56 + readReplyLen) data = m₃
  have hin₃ : m₂.Inside .pCXBuf (56 + 56 + readReplyLen) data.length := by
    show 120 + _ ≤ _
    omega
  have hthird : (if 0 < rpcReply.dwReplyDataLen then
      (m₂.load .bodyData rpcReply.pbyReplyData rpcReply.dwReplyDataLen).1.store .pCXBuf (56 + 56 + readReplyLen)
        (m₂.load .bodyData rpcReply.pbyReplyData rpcReply.dwReplyDataLen).2 else m₂) = m₃ := by
    rw [hload, hm₃]
    by_cases h0 : 0 < rpcReply.dwReplyDataLen
    · rw [if_pos h0]
    · have hnil : data = [] := List.length_eq_zero_iff.mp (by omega)
      have hsame : patched (m₂.bytes .pCXBuf) (56 + 56 + readReplyLen) [] = m₂.bytes .pCXBuf := by
        unfold patched
        rw [List.append_nil]
        exact List.take_append_drop ..
      rw [if_neg h0, ← hm₃, Blocks.store_inside hin₃, hnil, hsame, Function.update_eq_self]
  rw [hthird]
  have hbytes₂ : m₂.bytes .pCXBuf = patched (mem.bytes .pCXBuf) (56 + 56)
      (leBytes 4 rpcReply.dwReplyCode ++ leBytes 4 rpcReply.dwReplyDataLen) := by
    rw [← hm₂, Blocks.bytes_store_self hin₂, ← hm₁, Blocks.bytes_store_self hin₁,
      patched_patched_right (by rw [h4]) (by rw [h4, hbuf]; omega)]
  have hbytes : m₃.bytes .pCXBuf = patched (mem.bytes .pCXBuf) (56 + 56)
      (leBytes 4 rpcReply.dwReplyCode ++ leBytes 4 rpcReply.dwReplyDataLen ++ data) := by
    rw [← hm₃, Blocks.bytes_store_self hin₃, hbytes₂,
      patched_patched_right (by rw [List.length_append, h4, h4]; rfl) (by rw [hbuf, hdlen]; exact le_rfl)]
  have hmes : (leBytes 4 rpcReply.dwReplyCode ++ leBytes 4 rpcReply.dwReplyDataLen ++ data).length =
      rpcReply.dwReplyDataLen + 8 := by
    rw [List.length_append, List.length_append, h4, h4, hdlen]
    omega
  have hin : m₃.Inside .pCXBuf (56 + 56) ((rpcReply.dwReplyDataLen + readReplyLen) % 2 ^ 32) := by
    have hmod : (rpcReply.dwReplyDataLen + readReplyLen) % 2 ^ 32 = rpcReply.dwReplyDataLen + 8 := Nat.mod_eq_of_lt hlen
    show 112 + _ ≤ _
    rw [← hm₃, Blocks.length_bytes_store hin₃, hsize₂, hmod]
    omega
  rw [Blocks.load_inside hin]
  refine ⟨?_, ?_⟩
  · rw [← hm₃, Blocks.outside_store hin₃, ← hm₂, Blocks.outside_store hin₂, ← hm₁, Blocks.outside_store hin₁]
  · show ((m₃.bytes .pCXBuf).drop _).take ((rpcReply.dwReplyDataLen + 8) % 2 ^ 32) = _
    rw [Nat.mod_eq_of_lt hlen, hbytes, ← hmes]
    exact take_drop_patched (by rw [hmes, hbuf]; omega)

/-- Data that are not within the message are read all the same. -/
theorem sendData_outside (hpos : 0 < rpcReply.dwReplyDataLen)
    (hdata : (mem.bytes .bodyData).length < rpcReply.pbyReplyData + rpcReply.dwReplyDataLen) :
    0 < (sendData mem rpcReply).1.outside := by
  unfold sendData
  dsimp only
  rw [if_pos hpos]
  refine lt_of_lt_of_le ?_ (Blocks.outside_load_le ..)
  refine lt_of_lt_of_le ?_ (Blocks.outside_store_le ..)
  refine Blocks.outside_load ?_
  show ¬ _ ≤ _
  rw [Blocks.bytes_store_ne (by decide), Blocks.bytes_store_ne (by decide)]
  omega

theorem outside_sendData_le (mem : Blocks ReplyObject) (rpcReply : RPCReply) :
    mem.outside ≤ (sendData mem rpcReply).1.outside := by
  unfold sendData
  dsimp only
  refine le_trans ?_ (Blocks.outside_load_le ..)
  have hwords : mem.outside ≤ ((mem.store .pCXBuf (bufferObjLen + packetDataLen)
      (leBytes 4 rpcReply.dwReplyCode)).store .pCXBuf (bufferObjLen + packetDataLen + 4)
        (leBytes 4 rpcReply.dwReplyDataLen)).outside :=
    le_trans (Blocks.outside_store_le ..) (Blocks.outside_store_le ..)
  split
  · refine le_trans hwords ?_
    exact le_trans (Blocks.outside_load_le ..) (Blocks.outside_store_le ..)
  · exact hwords

theorem ofBytes_textMes (hcode : dwReplyCode < 2 ^ 32) (text : List UInt8) :
    CXFileReadReply.ofBytes (textMes dwReplyCode text) = ⟨dwReplyCode, (cText (sprintfText text)).length + 1,
      cText (sprintfText text) ++ [0]⟩ := by
  refine CXFileReadReply.ofBytes_eq hcode ?_ (List.length_append ..)
  have h := length_cText_le (sprintfText text)
  have h' := length_sprintfText_le text
  omega

/-! ### `ReadReply` -/

variable {env : ProxyReadEnv}

theorem readReply_text {dwReplyCode : Nat} {text : List UInt8}
    (h : readReply env mem rpcReply = sendText (mem.create .bySendBuf (List.replicate cxBufSize 0)) dwReplyCode text) :
    (readReply env mem rpcReply).1.outside = mem.outside ∧
      (readReply env mem rpcReply).2 = textMes dwReplyCode text := by
  rw [h]
  exact sendText_eq (Blocks.bytes_create_self ..)

/-- The code 503 is answered with 404, whatever the text is. -/
theorem readReply_503 (h : rpcReply.dwReplyCode = 503) :
    (readReply env mem rpcReply).1.outside = mem.outside ∧
      ∃ text, (readReply env mem rpcReply).2 = textMes 404 text := by
  have heq : readReply env mem rpcReply = _ := if_pos h
  obtain ⟨hout, hmes⟩ := readReply_text heq
  exact ⟨hout, _, hmes⟩

theorem readReply_none (h : rpcReply.dwReplyCode ≠ 503)
    (hget : env.getBuffer (bufSize rpcReply.dwReplyDataLen) = none) :
    (readReply env mem rpcReply).1.outside = mem.outside ∧
      (readReply env mem rpcReply).2 = textMes 203 (allocateText rpcReply.dwReplyDataLen) := by
  refine readReply_text ?_
  unfold readReply
  dsimp only
  rw [if_neg h, hget]

theorem readReply_some {fill : Nat → UInt8} (h : rpcReply.dwReplyCode ≠ 503)
    (hget : env.getBuffer (bufSize rpcReply.dwReplyDataLen) = some fill) :
    readReply env mem rpcReply = sendData ((mem.create .bySendBuf (List.replicate cxBufSize 0)).create .pCXBuf
      ((List.range (bufSize rpcReply.dwReplyDataLen)).map fill)) rpcReply := by
  unfold readReply
  dsimp only
  rw [if_neg h, hget]

theorem bytes_bodyData_create (mem : Blocks ReplyObject) (bs bs' : List UInt8) :
    ((mem.create .bySendBuf bs).create .pCXBuf bs').bytes .bodyData = mem.bytes .bodyData := by
  rw [Blocks.bytes_create_ne (by decide), Blocks.bytes_create_ne (by decide)]

theorem readReply_data {fill : Nat → UInt8} (h : rpcReply.dwReplyCode ≠ 503)
    (hget : env.getBuffer (bufSize rpcReply.dwReplyDataLen) = some fill)
    (hlen : rpcReply.dwReplyDataLen + 120 < 2 ^ 32)
    (hdata : rpcReply.pbyReplyData + rpcReply.dwReplyDataLen ≤ (mem.bytes .bodyData).length) :
    (readReply env mem rpcReply).1.outside = mem.outside ∧
      (readReply env mem rpcReply).2 = leBytes 4 rpcReply.dwReplyCode ++ leBytes 4 rpcReply.dwReplyDataLen ++
        ((mem.bytes .bodyData).drop rpcReply.pbyReplyData).take rpcReply.dwReplyDataLen := by
  have hsize : bufSize rpcReply.dwReplyDataLen = 120 + rpcReply.dwReplyDataLen := by
    unfold bufSize sendBufLen readReplyLen bufferObjLen packetDataLen
    omega
  rw [readReply_some h hget]
  have hbody := bytes_bodyData_create mem (List.replicate cxBufSize 0)
    ((List.range (bufSize rpcReply.dwReplyDataLen)).map fill)
  obtain ⟨hout, hmes⟩ := sendData_eq ((mem.create .bySendBuf (List.replicate cxBufSize 0)).create .pCXBuf
      ((List.range (bufSize rpcReply.dwReplyDataLen)).map fill)) rpcReply
    (by rw [Blocks.bytes_create_self, List.length_map, List.length_range, hsize])
    (by omega) (by rwa [hbody])
  rw [hbody] at hmes
  exact ⟨hout, hmes⟩

theorem readReply_outside {fill : Nat → UInt8} (h : rpcReply.dwReplyCode ≠ 503)
    (hget : env.getBuffer (bufSize rpcReply.dwReplyDataLen) = some fill) (hpos : 0 < rpcReply.dwReplyDataLen)
    (hdata : (mem.bytes .bodyData).length < rpcReply.pbyReplyData + rpcReply.dwReplyDataLen) :
    0 < (readReply env mem rpcReply).1.outside := by
  rw [readReply_some h hget]
  exact sendData_outside hpos (by rwa [bytes_bodyData_create])

theorem outside_readReply_le : mem.outside ≤ (readReply env mem rpcReply).1.outside := by
  by_cases h : rpcReply.dwReplyCode = 503
  · obtain ⟨hout, -⟩ : (readReply env mem rpcReply).1.outside = mem.outside ∧ _ := readReply_503 h
    exact hout.ge
  cases hget : env.getBuffer (bufSize rpcReply.dwReplyDataLen) with
  | none =>
    obtain ⟨hout, -⟩ : (readReply env mem rpcReply).1.outside = mem.outside ∧ _ := readReply_none h hget
    exact hout.ge
  | some fill =>
    rw [readReply_some h hget]
    exact outside_sendData_le ((mem.create ..).create ..) rpcReply

end CXFileRPCProxyServer

/-! ### `OnRead` -/

namespace CXStorageRPCClient

variable {env : ProxyReadEnv} {mes : List UInt8}

/-- The id of the request, as `OnRead` reads it. -/
def requestID (env : ProxyReadEnv) (mes : List UInt8) : List UInt8 :=
  ((receivedMes env mes).load .bodyData 16 16).2

/-- `OnRead` ends the data with a zero. -/
def EndsData (mes : List UInt8) : Prop :=
  (storageReply mes).dwReplyCode ≠ 200 ∧ 0 < (storageReply mes).dwDataLen ∧ Consistent mes

theorem onRead_short (hlt : mes.length < 48) (hpending : env.popRequest (requestID env mes) = true) :
    ∃ mem reply, onRead env (receivedMes env mes) mes.length = (mem, some reply) ∧ 0 < mem.outside := by
  unfold onRead
  dsimp only
  unfold requestID at hpending
  rw [if_pos hpending]
  generalize hm : ((((receivedMes env mes).load .bodyData 16 16).1.load .bodyData bodyDataLen 4).1.load .bodyData
    (bodyDataLen + 4) 4).1 = mem
  have hout : 0 < mem.outside := by
    rw [← hm]
    refine Blocks.outside_load ?_
    show ¬ 44 + 4 ≤ _
    rw [Blocks.bytes_load, Blocks.bytes_load]
    exact not_le.mpr hlt
  split
  · refine ⟨_, _, rfl, ?_⟩
    refine lt_of_lt_of_le hout ?_
    exact le_trans (Blocks.outside_store_le ..) (Blocks.outside_load_le ..)
  · exact ⟨_, _, rfl, hout⟩

instance (mes : List UInt8) : Decidable (EndsData mes) := inferInstanceAs (Decidable (_ ∧ _ ∧ _))

theorem onRead_eq (hle : 48 ≤ mes.length) (hlt : mes.length < 2 ^ 32)
    (hpending : env.popRequest (requestID env mes) = true) :
    onRead env (receivedMes env mes) mes.length =
      if EndsData mes then
        let mem := (receivedMes env mes).store .bodyData (48 + ((storageReply mes).dwDataLen - 1)) [0]
        let r := mem.load .bodyData 48 (storageReply mes).dwDataLen
        (r.1, some ⟨cText r.2, (storageReply mes).dwReplyCode, 48, (storageReply mes).dwDataLen⟩)
      else (receivedMes env mes, some ⟨[], (storageReply mes).dwReplyCode, 48, (storageReply mes).dwDataLen⟩) := by
  have hid : (receivedMes env mes).load .bodyData 16 16 = (receivedMes env mes, (mes.drop 16).take 16) :=
    Blocks.load_inside (show 16 + 16 ≤ mes.length by omega)
  have hcode : (receivedMes env mes).load .bodyData bodyDataLen 4 = (receivedMes env mes, (mes.drop 40).take 4) :=
    Blocks.load_inside (show 40 + 4 ≤ mes.length by omega)
  have hlen : (receivedMes env mes).load .bodyData (bodyDataLen + 4) 4 =
      (receivedMes env mes, ((mes.drop 40).drop 4).take 4) := by
    rw [List.drop_drop]
    exact Blocks.load_inside (show 44 + 4 ≤ mes.length by omega)
  unfold requestID at hpending
  unfold onRead
  dsimp only
  rw [if_pos hpending, hid, hcode, hlen]
  have hcond : (storageReply mes).dwDataLen =
      ((mes.length + 2 ^ 32 - bodyDataLen) % 2 ^ 32 + 2 ^ 64 - readReplyLen) % 2 ^ 64 ↔ Consistent mes := by
    have hd : (storageReply mes).dwDataLen < 2 ^ 32 := leValue_take_four_lt _
    show _ = ((mes.length + 2 ^ 32 - 40) % 2 ^ 32 + 2 ^ 64 - 8) % 2 ^ 64 ↔ mes.length = 40 + 8 + _
    omega
  by_cases h : EndsData mes
  · rw [if_pos h]
    exact if_pos ⟨h.1, h.2.1, hcond.mpr h.2.2⟩
  · rw [if_neg h]
    exact if_neg fun hc => h ⟨hc.1, hc.2.1, hcond.mp hc.2.2⟩

/-- The message in memory after `OnRead`. -/
def endedMes (mes : List UInt8) : List UInt8 :=
  if EndsData mes then patched mes (48 + ((storageReply mes).dwDataLen - 1)) [0] else mes

theorem onRead_spec (hle : 48 ≤ mes.length) (hlt : mes.length < 2 ^ 32)
    (hpending : env.popRequest (requestID env mes) = true) :
    ∃ mem text, onRead env (receivedMes env mes) mes.length =
        (mem, some ⟨text, (storageReply mes).dwReplyCode, 48, (storageReply mes).dwDataLen⟩) ∧
      mem.outside = 0 ∧ mem.bytes .bodyData = endedMes mes := by
  rw [onRead_eq hle hlt hpending]
  unfold endedMes
  by_cases h : EndsData mes
  · have hcons : mes.length = 40 + 8 + (storageReply mes).dwDataLen := h.2.2
    have hpos := h.2.1
    have hin : (receivedMes env mes).Inside .bodyData (48 + ((storageReply mes).dwDataLen - 1)) [(0 : UInt8)].length := by
      show 48 + (_ - 1) + 1 ≤ mes.length
      omega
    rw [if_pos h, if_pos h]
    dsimp only
    have hload : ((receivedMes env mes).store .bodyData (48 + ((storageReply mes).dwDataLen - 1)) [0]).load .bodyData 48
        (storageReply mes).dwDataLen = _ := Blocks.load_inside (by
      show 48 + _ ≤ _
      rw [Blocks.length_bytes_store hin]
      exact le_of_eq hcons.symm)
    refine ⟨_, _, rfl, ?_, ?_⟩
    · rw [hload, Blocks.outside_store hin]
      rfl
    · rw [hload, Blocks.bytes_store_self hin]
      rfl
  · rw [if_neg h, if_neg h]
    exact ⟨_, _, rfl, rfl, rfl⟩

theorem length_endedMes (mes : List UInt8) : (endedMes mes).length = mes.length := by
  unfold endedMes
  split
  · rename_i h
    have hcons : mes.length = 40 + 8 + (storageReply mes).dwDataLen := h.2.2
    have hpos := h.2.1
    exact length_patched (by show 48 + (_ - 1) + 1 ≤ _; omega)
  · rfl

end CXStorageRPCClient

/-! ### The whole way -/

variable {env : ProxyReadEnv} {mes : List UInt8}

open CXStorageRPCClient CXFileRPCProxyServer

theorem Consistent.drop (h : Consistent mes) : mes.drop 48 = (storageReply mes).szData := by
  have hlen : mes.length = 48 + (storageReply mes).dwDataLen := h
  show _ = ((mes.drop 40).drop 8).take (storageReply mes).dwDataLen
  rw [List.drop_drop]
  exact (List.take_of_length_le (by rw [List.length_drop]; omega)).symm

theorem Consistent.length_szData (h : Consistent mes) :
    (storageReply mes).szData.length = (storageReply mes).dwDataLen := by
  have hlen : mes.length = 48 + (storageReply mes).dwDataLen := h
  rw [← h.drop, List.length_drop]
  omega

theorem Consistent.drop_endedMes (h : Consistent mes) :
    ((endedMes mes).drop 48).take (storageReply mes).dwDataLen =
      if EndsData mes then (storageReply mes).szData.dropLast ++ [0] else (storageReply mes).szData := by
  have hlen : mes.length = 48 + (storageReply mes).dwDataLen := h
  unfold endedMes
  by_cases he : EndsData mes
  · have hpos := he.2.1
    rw [if_pos he, if_pos he]
    have htake : (mes.take (48 + ((storageReply mes).dwDataLen - 1))).drop 48 = (storageReply mes).szData.dropLast := by
      rw [List.drop_take, h.drop, List.dropLast_eq_take, h.length_szData, Nat.add_sub_cancel_left]
    have hdrop : (patched mes (48 + ((storageReply mes).dwDataLen - 1)) [0]).drop 48 =
        (storageReply mes).szData.dropLast ++ [0] := by
      have hnil : mes.drop (48 + ((storageReply mes).dwDataLen - 1) + 1) = [] := List.drop_eq_nil_of_le (by omega)
      show (_ ++ [0] ++ mes.drop (48 + ((storageReply mes).dwDataLen - 1) + 1)).drop 48 = _
      rw [hnil, List.append_nil, List.drop_append_of_le_length (by rw [List.length_take]; omega), htake]
    rw [hdrop, List.take_of_length_le]
    rw [List.length_append, List.length_dropLast, h.length_szData]
    show _ - 1 + 1 ≤ _
    omega
  · rw [if_neg he, if_neg he, h.drop, ← h.length_szData, List.take_length]

theorem dropLast_append_zero_iff {l : List UInt8} (h : l ≠ []) : l.dropLast ++ [0] = l ↔ l.getLast? = some 0 := by
  constructor
  · intro hl
    rw [← hl, List.getLast?_concat]
  · intro hl
    obtain ⟨l', rfl⟩ := List.getLast?_eq_some_iff.mp hl
    rw [List.dropLast_concat]

theorem storageReply_dwReplyCode_lt (mes : List UInt8) : (storageReply mes).dwReplyCode < 2 ^ 32 :=
  leValue_take_four_lt _

theorem storageReply_dwDataLen_lt (mes : List UInt8) : (storageReply mes).dwDataLen < 2 ^ 32 :=
  leValue_take_four_lt _

theorem ofBytes_readReply_iff {mem : Blocks ReplyObject} {text : List UInt8} (hcons : Consistent mes)
    (hfits : messageDataLen + mes.length < 2 ^ 32) (hbytes : mem.bytes .bodyData = endedMes mes) :
    CXFileReadReply.ofBytes (readReply env mem
        ⟨text, (storageReply mes).dwReplyCode, 48, (storageReply mes).dwDataLen⟩).2 = storageReply mes ↔
      PassedOn env mes := by
  have hlen : mes.length = 48 + (storageReply mes).dwDataLen := hcons
  have hfits' : 92 + mes.length < 2 ^ 32 := hfits
  generalize hr : (⟨text, (storageReply mes).dwReplyCode, 48, (storageReply mes).dwDataLen⟩ : RPCReply) = rpcReply
  have hcode : rpcReply.dwReplyCode = (storageReply mes).dwReplyCode := by rw [← hr]
  have hdata : rpcReply.dwReplyDataLen = (storageReply mes).dwDataLen := by rw [← hr]
  have hptr : rpcReply.pbyReplyData = 48 := by rw [← hr]
  unfold PassedOn
  dsimp only
  by_cases h503 : rpcReply.dwReplyCode = 503
  · obtain ⟨-, text', hmes⟩ : _ ∧ ∃ text', (readReply env mem rpcReply).2 = textMes 404 text' := readReply_503 h503
    rw [hmes, ofBytes_textMes (by decide)]
    rw [hcode] at h503
    constructor
    · intro heq
      rw [← heq] at h503
      exact absurd h503 (show ¬ 404 = 503 by decide)
    · intro hp
      split at hp
      · exact absurd h503 hp.1
      · rw [hp] at h503
        exact absurd h503 (show ¬ 203 = 503 by decide)
  cases hget : env.getBuffer (bufSize rpcReply.dwReplyDataLen) with
  | none =>
    obtain ⟨-, hmes⟩ : _ ∧ (readReply env mem rpcReply).2 = textMes 203 _ := readReply_none h503 hget
    rw [hmes, ofBytes_textMes (by decide), ← hdata, hget, if_neg (by decide)]
    exact eq_comm
  | some fill =>
    obtain ⟨-, hmes⟩ : _ ∧ (readReply env mem rpcReply).2 = _ := readReply_data h503 hget
      (by rw [hdata]; omega) (by rw [hbytes, length_endedMes, hptr, hdata]; exact le_of_eq hlen.symm)
    rw [hmes, hbytes, hptr, hdata, hcons.drop_endedMes, ← hdata, hget,
      if_pos Option.isSome_some, hdata, hcode]
    rw [hcode] at h503
    by_cases he : EndsData mes
    · have hne : (storageReply mes).szData ≠ [] := by
        intro hnil
        have h0 := hcons.length_szData
        rw [hnil] at h0
        exact absurd h0.symm (Nat.pos_iff_ne_zero.mp he.2.1)
      have hlast : ((storageReply mes).szData.dropLast ++ [0]).length = (storageReply mes).dwDataLen := by
        rw [List.length_append, List.length_dropLast, hcons.length_szData]
        exact Nat.succ_pred_eq_of_pos he.2.1
      rw [if_pos he, CXFileReadReply.ofBytes_eq (storageReply_dwReplyCode_lt mes) (storageReply_dwDataLen_lt mes) hlast]
      have hszData : (⟨(storageReply mes).dwReplyCode, (storageReply mes).dwDataLen,
          (storageReply mes).szData.dropLast ++ [0]⟩ : CXFileReadReply) = storageReply mes ↔
            (storageReply mes).szData.dropLast ++ [0] = (storageReply mes).szData :=
        ⟨fun h => congrArg CXFileReadReply.szData h, fun h => by rw [h]⟩
      rw [hszData, dropLast_append_zero_iff hne]
      constructor
      · exact fun h => ⟨h503, Or.inr (Or.inr h)⟩
      · rintro ⟨-, h | h | h⟩
        · exact absurd h he.1
        · exact absurd h (Nat.pos_iff_ne_zero.mp he.2.1)
        · exact h
    · rw [if_neg he, CXFileReadReply.ofBytes_eq (storageReply_dwReplyCode_lt mes) (storageReply_dwDataLen_lt mes)
        hcons.length_szData]
      refine iff_of_true rfl ⟨h503, ?_⟩
      by_cases h200 : (storageReply mes).dwReplyCode = 200
      · exact Or.inl h200
      · refine Or.inr (Or.inl (Nat.eq_zero_of_not_pos fun hpos => he ⟨h200, hpos, hcons⟩))

theorem outside_readReply_iff {mem : Blocks ReplyObject} {text : List UInt8} (hle : 48 ≤ mes.length)
    (hfits : messageDataLen + mes.length < 2 ^ 32) (hout : mem.outside = 0) (hbytes : mem.bytes .bodyData = endedMes mes) :
    (readReply env mem ⟨text, (storageReply mes).dwReplyCode, 48, (storageReply mes).dwDataLen⟩).1.outside = 0 ↔
      Contained env mes := by
  have hfits' : 92 + mes.length < 2 ^ 32 := hfits
  generalize hr : (⟨text, (storageReply mes).dwReplyCode, 48, (storageReply mes).dwDataLen⟩ : RPCReply) = rpcReply
  have hcode : rpcReply.dwReplyCode = (storageReply mes).dwReplyCode := by rw [← hr]
  have hdata : rpcReply.dwReplyDataLen = (storageReply mes).dwDataLen := by rw [← hr]
  have hptr : rpcReply.pbyReplyData = 48 := by rw [← hr]
  unfold Contained
  dsimp only
  rw [← hcode, ← hdata]
  by_cases h503 : rpcReply.dwReplyCode = 503
  · obtain ⟨hout', -⟩ : (readReply env mem rpcReply).1.outside = mem.outside ∧ _ := readReply_503 h503
    exact iff_of_true (hout'.trans hout) ⟨hle, Or.inl h503⟩
  cases hget : env.getBuffer (bufSize rpcReply.dwReplyDataLen) with
  | none =>
    obtain ⟨hout', -⟩ : (readReply env mem rpcReply).1.outside = mem.outside ∧ _ := readReply_none h503 hget
    exact iff_of_true (hout'.trans hout) ⟨hle, Or.inr (Or.inl rfl)⟩
  | some fill =>
    rcases Nat.lt_or_ge mes.length (48 + rpcReply.dwReplyDataLen) with hlt | hge
    · have hpos : 0 < (readReply env mem rpcReply).1.outside := readReply_outside h503 hget (by omega)
        (by rw [hbytes, length_endedMes, hptr]; exact hlt)
      refine iff_of_false hpos.ne' ?_
      rintro ⟨-, h | h | h⟩
      · exact h503 h
      · exact absurd h Bool.false_ne_true
      · exact absurd hlt (not_lt.mpr h)
    · obtain ⟨hout', -⟩ : (readReply env mem rpcReply).1.outside = mem.outside ∧ _ := readReply_data h503 hget
        (by omega) (by rw [hbytes, length_endedMes, hptr]; exact hge)
      exact iff_of_true (hout'.trans hout) ⟨hle, Or.inr (Or.inr hge)⟩

/-- There is a request for every message, and a buffer for every reply. -/
def answeringEnv : ProxyReadEnv := ⟨fun _ => true, fun _ => some fun _ => 0, id, fun _ _ => 0⟩

def storageMes (dwReplyCode dwDataLen : UInt8) (szData : List UInt8) : List UInt8 :=
  List.replicate 40 0 ++ [dwReplyCode, 0, 0, 0, dwDataLen, 0, 0, 0] ++ szData

/-- The last byte of the data that come with the end of the file is lost. -/
theorem proxyRead_eof : (proxyRead answeringEnv (storageMes 204 1 [7])).2.map CXFileReadReply.ofBytes =
    some ⟨204, 1, [0]⟩ := by decide +kernel

/-- A reply that says more than it has is copied from behind the message. -/
example : (proxyRead answeringEnv (storageMes 200 9 [7])).1.outside = 1 := by decide +kernel

end KonsanNet
