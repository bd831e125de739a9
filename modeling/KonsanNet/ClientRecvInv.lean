import KonsanNet.ClientRecv

/-!
# Which replies the client survives

The bytes of a packet always fit: the receive buffer is 40 bytes longer. What is decoded may be longer than the
receive buffer, and shorter than the 40 bytes that are subtracted from it.
-/

namespace KonsanNet

namespace Primitives

variable {Pub Priv Rand : Type} {p : Primitives Pub Priv Rand} {h : CXFastDataParserHandle} {enc : EncryptType}
  {comp : CompressType} {b b' : Buffers} {n : Nat}

/-- The length of what the uncompression makes, as a `DWORD`. -/
def uncompressedLength (p : Primitives Pub Priv Rand) (comp : CompressType) (input : Bytes) : Nat :=
  match comp with
  | .gzip => ((p.gzipUncompress input).getD []).length
  | .zlib => ((p.zlibUncompress input).getD []).length
  | .snappy => (p.getUncompressedLength input).getD 0
  | _ => 0

/-- What is returned of a text of `len` bytes where there is room for `room`: an `ArraySink` counts what it has copied,
the length of Snappy is a `DWORD`. -/
structure Returned (n len room : Nat) : Prop where
  le : n ≤ len
  ge : len < 2 ^ 32 → min len room ≤ n

theorem Returned.arraySink (room : Nat) (data : Bytes) : Returned (arraySink room data).2 data.length room := by
  have hlen : (KonsanNet.arraySink room data).2 = min room data.length := List.length_take
  constructor <;> omega

theorem Returned.self (n room : Nat) : Returned n n room := ⟨le_rfl, fun _ => min_le_left n room⟩

theorem uncompressStage_snd {input : Bytes} {room : Nat} {out : Bytes × Nat}
    (ho : p.uncompressStage comp input room = some out) : Returned out.2 (p.uncompressedLength comp input) room := by
  have hsink : ∀ {uncompress : Bytes → Option Bytes}, uncompressData uncompress input room = some out →
      Returned out.2 ((uncompress input).getD []).length room := by
    intro uncompress ho
    obtain ⟨data, hdata, ho⟩ := Option.bind_eq_some_iff.mp ho
    rw [hdata]
    split at ho
    · cases ho
    · cases ho
      exact .arraySink room data
  cases comp with
  | gzip => exact hsink ho
  | zlib => exact hsink ho
  | snappy =>
    obtain ⟨ulength, hlen, ho⟩ := Option.bind_eq_some_iff.mp ho
    show Returned _ ((p.getUncompressedLength input).getD 0) room
    rw [hlen]
    split at ho
    · cases ho
    · obtain ⟨data, -, rfl⟩ := Option.map_eq_some_iff.mp ho
      exact ⟨Nat.mod_le _ _, fun hlt => (min_le_left _ _).trans (Nat.mod_eq_of_lt hlt).ge⟩
  | none =>
    cases ho
    exact .self 0 room
  | other f =>
    cases ho
    exact .self 0 room

theorem textLength_eq (hcomp : comp ≠ .none) :
    p.textLength h enc comp b = p.uncompressedLength comp (p.compressedText h enc b) := by
  cases comp with
  | none => exact absurd rfl hcomp
  | gzip => rfl
  | zlib => rfl
  | snappy => rfl
  | other f => rfl

/-- `ParseData` returns the length of its text, as far as the last stage counts it. -/
theorem parseData_snd (hne : enc ≠ .none ∨ comp ≠ .none) (hp : p.parseData h enc comp b = some (b', n)) :
    Returned n (p.textLength h enc comp b) b.dest.length := by
  by_cases hcomp : comp = .none
  · subst hcomp
    have henc : enc ≠ .none := hne.resolve_right (not_not_intro rfl)
    rw [parseData_plain henc] at hp
    obtain ⟨out, hout, heq⟩ := Option.map_eq_some_iff.mp hp
    obtain ⟨-, rfl⟩ := Prod.mk.inj heq
    have hstage : ((p.decryptStage h enc b.src b.dest.length).getD ([], 0)).2 = out.2 := by
      rw [hout]
      rfl
    have hself : Returned out.2 ((p.decryptStage h enc b.src b.dest.length).getD ([], 0)).2 b.dest.length := by
      rw [hstage]
      exact .self _ _
    cases enc with
    | none => exact absurd rfl henc
    | blowfish =>
      obtain ⟨-, text, htext, rfl⟩ := blowfishData_eq_ok (toOption_eq_some.mp hout)
      show Returned _ ((p.eaxDecrypt h.m_byKey h.m_byIv b.src).getD []).length _
      rw [htext]
      exact .arraySink _ text
    | rsaPKCS1v15 => exact hself
    | rsaOAEP => exact hself
    | other f => exact hself
  · rw [textLength_eq hcomp]
    obtain ⟨r₂, hr₂, hret⟩ := Option.map_eq_some_iff.mp hp
    obtain ⟨-, rfl⟩ := Prod.mk.inj hret
    obtain ⟨r₁, hr₁, hr₂⟩ := Option.bind_eq_some_iff.mp hr₂
    rw [if_pos hcomp] at hr₂
    obtain ⟨out, hout, rfl⟩ := runStage_eq_some hr₂
    have hsnd := uncompressStage_snd hout
    by_cases henc : enc = .none
    · subst henc
      cases hr₁
      rw [fromCache, if_neg (not_not_intro rfl), input_initLocals] at hsnd
      exact hsnd
    · rw [if_pos henc, intoCache, if_pos hcomp] at hr₁
      obtain ⟨z, hz, rfl⟩ := runStage_eq_some hr₁
      rw [fromCache, if_pos henc] at hsnd
      have hinput : p.compressedText h enc b = (z.1 ++ b.cache.drop z.1.length).take z.2 := by
        have hz : p.decryptStage h enc b.src b.cache.length = some z := by rwa [← input_initLocals b]
        unfold compressedText
        rw [if_neg henc, hz]
      rw [hinput]
      exact hsnd

end Primitives

namespace ClientRecv

variable {s s' : ClientRecv} {c : PacketCall} {header : CXPacketHeader} {body : Bytes}

/-! ### Accesses and lengths -/

@[simp] theorem length_overlay (data buf : Bytes) : (overlay data buf).length = buf.length := by
  unfold overlay
  rw [List.length_append, List.length_take, List.length_drop]
  omega

@[simp] theorem length_fill (junk : Nat → UInt8) (n : Nat) : (fill junk n).length = n := by simp [fill]

section

variable (inside : Prop) [Decidable inside] (s : ClientRecv)

@[simp] theorem check_pbyRecvBuffer : (s.check inside).pbyRecvBuffer = s.pbyRecvBuffer := by
  unfold check
  split <;> rfl

@[simp] theorem check_pbyParserBuffer : (s.check inside).pbyParserBuffer = s.pbyParserBuffer := by
  unfold check
  split <;> rfl

@[simp] theorem check_pbyCacheRecvBuffer : (s.check inside).pbyCacheRecvBuffer = s.pbyCacheRecvBuffer := by
  unfold check
  split <;> rfl

@[simp] theorem check_dwLeftRecvDataLen : (s.check inside).dwLeftRecvDataLen = s.dwLeftRecvDataLen := by
  unfold check
  split <;> rfl

theorem le_check : s.outside ≤ (s.check inside).outside := by
  unfold check
  split
  · exact le_rfl
  · exact Nat.le_succ _

theorem check_outside : (s.check inside).outside = s.outside ↔ inside := by
  unfold check
  split
  · exact ⟨fun _ => ‹_›, fun _ => rfl⟩
  · exact ⟨fun h => absurd h (Nat.succ_ne_self _), fun h => absurd h ‹_›⟩

end

/-! ### `Recv` -/

theorem recvLoop_spec {iWantRecvLen : Nat} : ∀ {answers rest : List RecvBytesAnswer} {got out : Bytes}
    {ret : Int},
    got.length < iWantRecvLen → recvLoop iWantRecvLen answers got = some (out, ret, rest) →
      out.length ≤ iWantRecvLen ∧ (0 < ret → ret = out.length ∧ out.length = iWantRecvLen)
  | [], _, _, _, _, _, h => by cases h
  | .socketError :: _, _, got, _, _, hlt, h => by
    cases h
    exact ⟨hlt.le, fun hpos => absurd hpos (by decide)⟩
  | .received [] :: _, _, got, _, _, hlt, h => by
    cases h
    exact ⟨hlt.le, fun hpos => absurd hpos (by decide)⟩
  | .received (b :: bytes) :: answers, rest, got, out, ret, hlt, h => by
    have hlen : (got ++ (b :: bytes).take (iWantRecvLen - got.length)).length ≤ iWantRecvLen := by
      rw [List.length_append, List.length_take]
      omega
    rw [recvLoop] at h
    split at h
    · rename_i hmore
      exact recvLoop_spec hmore h
    · rename_i hfull
      cases h
      exact ⟨hlen, fun _ => ⟨rfl, by omega⟩⟩

/-- The state after `Recv`: nothing but that the connection may be closed. -/
structure Received (s s' : ClientRecv) : Prop where
  outside : s'.outside = s.outside
  recvBuffer : s'.pbyRecvBuffer = s.pbyRecvBuffer
  left : s.dwLeftRecvDataLen = 0 → s'.dwLeftRecvDataLen = 0

theorem Received.refl (s : ClientRecv) : Received s s := ⟨rfl, rfl, id⟩

theorem recv_spec {iWantRecvLen : Nat} {answers rest : List RecvBytesAnswer} {out : Bytes} {ret : Int}
    (h : s.recv iWantRecvLen answers = some (s', out, ret, rest)) :
    Received s s' ∧ out.length ≤ iWantRecvLen ∧ (0 < ret → ret = out.length ∧ out.length = iWantRecvLen) := by
  unfold recv at h
  split at h
  · cases h
    exact ⟨.refl s, Nat.zero_le _, fun hpos => absurd hpos (by decide)⟩
  split at h
  · cases h
    exact ⟨.refl s, Nat.zero_le _, fun hpos => absurd hpos (by decide)⟩
  rename_i hzero _
  obtain ⟨r, hr, heq⟩ := Option.map_eq_some_iff.mp h
  obtain ⟨rfl, rfl⟩ := Prod.mk.inj heq
  have hgot : ([] : Bytes).length < iWantRecvLen := Nat.pos_of_ne_zero hzero
  refine ⟨?_, recvLoop_spec hgot hr⟩
  split
  · exact ⟨rfl, rfl, fun _ => rfl⟩
  · exact .refl s

/-! ### `SetRecvBufferSize` -/

/-- The part of the client that every operation keeps. -/
structure Inv (s : ClientRecv) : Prop where
  lt : s.pbyRecvBuffer.length < 2 ^ 32
  left : s.dwLeftRecvDataLen ≠ 0 →
    bodyDataLen + s.dwLeftDataBeginPos + s.dwLeftRecvDataLen ≤ s.pbyRecvBuffer.length

theorem Inv.of_left_zero (hlt : s.pbyRecvBuffer.length < 2 ^ 32) (h : s.dwLeftRecvDataLen = 0) : Inv s :=
  ⟨hlt, fun hne => absurd h hne⟩

theorem inv_construct : Inv construct := .of_left_zero (by decide) rfl

theorem setRecvBufferSize_outside (n : Nat) (buffers : Option (Nat → UInt8)) (s : ClientRecv) :
    (s.setRecvBufferSize n buffers).1.outside = s.outside ∧
      (s.setRecvBufferSize n buffers).1.dwLeftDataBeginPos = s.dwLeftDataBeginPos ∧
      (s.setRecvBufferSize n buffers).1.dwLeftRecvDataLen = s.dwLeftRecvDataLen := by
  unfold setRecvBufferSize
  dsimp only
  split
  · exact ⟨rfl, rfl, rfl⟩
  · cases buffers with
    | none => exact ⟨rfl, rfl, rfl⟩
    | some => exact ⟨rfl, rfl, rfl⟩

theorem setRecvBufferSize_length (n : Nat) (buffers : Option (Nat → UInt8)) (s : ClientRecv) :
    (s.setRecvBufferSize n buffers).1.pbyRecvBuffer = s.pbyRecvBuffer ∧
        ((s.setRecvBufferSize n buffers).2 = true → (n + bodyDataLen) % 2 ^ 32 ≤ s.pbyRecvBuffer.length) ∨
      buffers.isSome ∧ ((n + bodyDataLen) % 2 ^ 32 = 0 ∨ s.pbyRecvBuffer.length < (n + bodyDataLen) % 2 ^ 32) ∧
        (s.setRecvBufferSize n buffers).1.pbyRecvBuffer.length = (n + bodyDataLen) % 2 ^ 32 := by
  unfold setRecvBufferSize
  dsimp only
  split
  · rename_i hle
    exact .inl ⟨rfl, fun _ => hle.2⟩
  · rename_i hlarge
    cases buffers with
    | none => exact .inl ⟨rfl, nofun⟩
    | some junk => exact .inr ⟨rfl, by omega, length_fill _ _⟩

theorem setRecvBufferSize_lt (n : Nat) (buffers : Option (Nat → UInt8)) (h : s.pbyRecvBuffer.length < 2 ^ 32) :
    (s.setRecvBufferSize n buffers).1.pbyRecvBuffer.length < 2 ^ 32 := by
  rcases setRecvBufferSize_length n buffers s with ⟨heq, -⟩ | ⟨-, -, heq⟩
  · rwa [heq]
  · rw [heq]
    exact Nat.mod_lt _ (by decide)

theorem Inv.setRecvBufferSize (hi : Inv s) {n : Nat} {buffers : Option (Nat → UInt8)}
    (h : s.dwLeftRecvDataLen ≠ 0 → buffers.isSome → (n + bodyDataLen) % 2 ^ 32 ≠ 0) :
    Inv (s.setRecvBufferSize n buffers).1 := by
  obtain ⟨-, hpos, hleft⟩ := setRecvBufferSize_outside n buffers s
  refine ⟨setRecvBufferSize_lt n buffers hi.lt, fun hne => ?_⟩
  rw [hleft] at hne
  rw [hpos, hleft]
  have hle := hi.left hne
  rcases setRecvBufferSize_length n buffers s with ⟨heq, -⟩ | ⟨hsome, hsize, heq⟩
  · rwa [heq]
  · have hzero := h hne hsome
    omega

/-! ### The packet -/

/-- `RecvPacket` has the packet `(header, body)` in the receive buffer. -/
structure Packet (header : CXPacketHeader) (body : Bytes) (s : ClientRecv) : Prop where
  le : body.length ≤ 1024 * 1024 * 1024
  room : body.length + bodyDataLen ≤ s.pbyRecvBuffer.length
  lt : s.pbyRecvBuffer.length < 2 ^ 32
  left : s.dwLeftRecvDataLen = 0

theorem receive_error {iRet : Int} (h : s.receive c = some (s', .error iRet)) : iRet < 0 := by
  unfold receive at h
  split at h
  · cases h
  dsimp only at h
  split at h
  · cases h
    decide
  split at h
  · cases h
    decide
  split at h
  · cases h
    decide
  split at h
  · cases h
    decide
  · obtain ⟨r, -, heq⟩ := Option.map_eq_some_iff.mp h
    obtain ⟨-, heq⟩ := Prod.mk.inj heq
    split at heq
    · cases heq
      decide
    · cases heq

theorem receive_spec {r : Except Int (CXPacketHeader × Bytes)} (hlt : s.pbyRecvBuffer.length < 2 ^ 32)
    (h : s.receive c = some (s', r)) : s'.outside = s.outside ∧ s'.pbyRecvBuffer.length < 2 ^ 32 ∧
      s'.dwLeftRecvDataLen = 0 ∧ ∀ header body, r = .ok (header, body) → Packet header body s' := by
  unfold receive at h
  split at h
  · cases h
  rename_i s₁ bytes iTransRet answers hhead
  obtain ⟨hr, -, -⟩ := recv_spec hhead
  have hlt₁ : s₁.pbyRecvBuffer.length < 2 ^ 32 := by
    rw [hr.recvBuffer]
    exact hlt
  have hleft₁ := hr.left rfl
  dsimp only at h
  split at h
  · cases h
    exact ⟨hr.outside, hlt₁, hleft₁, nofun⟩
  split at h
  · cases h
    exact ⟨hr.outside, hlt₁, rfl, nofun⟩
  rename_i hmax
  split at h
  · cases h
    exact ⟨hr.outside, hlt₁, rfl, nofun⟩
  have hset := setRecvBufferSize_outside (CXPacketHeader.ofBytes bytes).dwDataLen c.buffers s₁
  have hsize := setRecvBufferSize_length (CXPacketHeader.ofBytes bytes).dwDataLen c.buffers s₁
  have hlt₂ := setRecvBufferSize_lt (CXPacketHeader.ofBytes bytes).dwDataLen c.buffers hlt₁
  cases hs₂ : s₁.setRecvBufferSize (CXPacketHeader.ofBytes bytes).dwDataLen c.buffers with
  | mk s₂ ok =>
    rw [hs₂] at h hset hsize hlt₂
    cases ok with
    | false =>
      cases h
      exact ⟨hset.1.trans hr.outside, hlt₂, hset.2.2.trans hleft₁, nofun⟩
    | true =>
      obtain ⟨⟨s₃, out, ret, rest⟩, hbody, heq⟩ := Option.map_eq_some_iff.mp h
      obtain ⟨hr', hle, hfull⟩ := recv_spec hbody
      have hroom : (CXPacketHeader.ofBytes bytes).dwDataLen + bodyDataLen ≤ s₃.pbyRecvBuffer.length := by
        rw [hr'.recvBuffer]
        have hmod : ((CXPacketHeader.ofBytes bytes).dwDataLen + bodyDataLen) % 2 ^ 32 =
            (CXPacketHeader.ofBytes bytes).dwDataLen + bodyDataLen :=
          Nat.mod_eq_of_lt (by simp only [bodyDataLen]; omega)
        rw [hmod] at hsize
        rcases hsize with ⟨heq, hle⟩ | ⟨-, -, heq⟩
        · exact (hle rfl).trans (congrArg List.length heq).ge
        · exact heq.ge
      have hin : out.length ≤ s₃.pbyRecvBuffer.length := by omega
      obtain ⟨rfl, rfl⟩ := Prod.mk.inj heq
      have hlen : ((s₃.check (out.length ≤ s₃.pbyRecvBuffer.length)).putRecv out).pbyRecvBuffer.length =
          s₃.pbyRecvBuffer.length := by simp [putRecv]
      have hlt₃ : s₃.pbyRecvBuffer.length < 2 ^ 32 := by rwa [hr'.recvBuffer]
      have hleft₃ := hr'.left (hset.2.2.trans hleft₁)
      refine ⟨?_, by rwa [hlen], ?_, fun header body hok => ?_⟩
      · exact ((check_outside _ s₃).mpr hin).trans (hr'.outside.trans (hset.1.trans hr.outside))
      · exact (check_dwLeftRecvDataLen _ s₃).trans hleft₃
      · dsimp only at hok
        split at hok
        · cases hok
        · cases hok
          exact ⟨by omega, by rw [hlen]; omega, by rwa [hlen], (check_dwLeftRecvDataLen _ s₃).trans hleft₃⟩

/-! ### Decoding -/

theorem ofFlag_eq_none {flag : UInt8} : EncryptType.ofFlag flag = .none ↔ flag = 0 := by
  unfold EncryptType.ofFlag
  repeat' split
  all_goals simp_all

theorem compress_ofFlag_eq_none {flag : UInt8} : CompressType.ofFlag flag = .none ↔ flag = 0 := by
  unfold CompressType.ofFlag
  repeat' split
  all_goals simp_all

theorem payload_eq {n d : Nat} (hn : n ≤ d) (hlt : n < 2 ^ 32) :
    Int.bmod ((n + 2 ^ 32 - bodyDataLen) % 2 ^ 32 : Nat) (2 ^ 32) = (d - bodyDataLen : Nat) ↔
      n = d ∧ bodyDataLen ≤ d ∧ d < 2 ^ 31 + bodyDataLen := by
  simp only [bodyDataLen, Int.bmod_def]
  split <;> omega

@[simp] theorem takeObjectGuid_pbyRecvBuffer (body : CXPacketBodyData) (s : ClientRecv) :
    (s.takeObjectGuid body).pbyRecvBuffer = s.pbyRecvBuffer := by
  unfold takeObjectGuid
  split <;> rfl

@[simp] theorem takeObjectGuid_outside (body : CXPacketBodyData) (s : ClientRecv) :
    (s.takeObjectGuid body).outside = s.outside := by
  unfold takeObjectGuid
  split <;> rfl

@[simp] theorem takeObjectGuid_left (body : CXPacketBodyData) (s : ClientRecv) :
    (s.takeObjectGuid body).dwLeftRecvDataLen = s.dwLeftRecvDataLen := by
  unfold takeObjectGuid
  split <;> rfl

/-- The end of `RecvPacket`, with the fields of the body in the receive buffer. -/
theorem finish_spec (n : Nat) (hroom : bodyDataLen ≤ s.pbyRecvBuffer.length) :
    (s.finish n).1.outside = s.outside ∧ (s.finish n).1.pbyRecvBuffer = s.pbyRecvBuffer ∧
      (s.finish n).1.dwLeftRecvDataLen = s.dwLeftRecvDataLen ∧ (s.finish n).2.iRet = 0 ∧
      (s.finish n).2.iReadBytes = Int.bmod ((n + 2 ^ 32 - bodyDataLen) % 2 ^ 32 : Nat) (2 ^ 32) := by
  refine ⟨?_, ?_, ?_, rfl, by simp only [finish]⟩
  · show (takeObjectGuid _ _).outside = _
    rw [takeObjectGuid_outside]
    exact (check_outside _ s).mpr hroom
  · show (takeObjectGuid _ _).pbyRecvBuffer = _
    rw [takeObjectGuid_pbyRecvBuffer, check_pbyRecvBuffer]
  · show (takeObjectGuid _ _).dwLeftRecvDataLen = _
    rw [takeObjectGuid_left, check_dwLeftRecvDataLen]

section

variable {Pub Priv Rand : Type} {p : Primitives Pub Priv Rand} {h : CXFastDataParserHandle} {enc : EncryptType}
  {comp : CompressType} {b : Buffers}

/-- Of the accesses of `ParseData` only the reads of the cache may be outside. -/
theorem checkParse_outside (enc : EncryptType) (comp : CompressType) (b : Buffers) :
    (s.checkParse p h enc comp b).outside = s.outside ↔ CacheFits p h enc comp b := by
  have hstores : ∀ st ∈ p.parseStores h enc comp b, st.fin ≤ (b.get st.buf).length := by
    intro st hst
    rcases Primitives.parseStores_inside hst with ⟨hbuf, hfin⟩ | ⟨hbuf, hfin⟩
    · rwa [hbuf]
    · rwa [hbuf]
  unfold checkParse
  rw [show s.check _ = s from if_pos hstores, check_outside]
  unfold CacheFits Primitives.parseReads
  constructor
  · intro hreads henc hcomp out hout
    refine hreads (.cache, out.2) (List.mem_cons_of_mem _ ?_)
    rw [if_pos ⟨henc, hcomp⟩, hout]
    exact List.mem_singleton_self _
  · intro hfits rd hrd
    rcases List.mem_cons.mp hrd with rfl | hrd
    · exact le_rfl
    · split at hrd
      · rename_i hboth
        split at hrd
        · cases hrd
        · rename_i out hout
          obtain rfl := List.mem_singleton.mp hrd
          exact hfits hboth.1 hboth.2 out hout
      · cases hrd

theorem checkParse_eq (enc : EncryptType) (comp : CompressType) (b : Buffers) (s : ClientRecv) :
    (s.checkParse p h enc comp b).pbyRecvBuffer = s.pbyRecvBuffer ∧
    (s.checkParse p h enc comp b).pbyParserBuffer = s.pbyParserBuffer ∧
    (s.checkParse p h enc comp b).dwLeftRecvDataLen = s.dwLeftRecvDataLen ∧
    s.outside ≤ (s.checkParse p h enc comp b).outside := by
  unfold checkParse
  exact ⟨by simp, by simp, by simp, (le_check _ s).trans (le_check _ _)⟩

theorem decode_plain (dwMesCode : Nat) (henc : ¬ Encoded header) :
    s.decode p header body dwMesCode = s.finish body.length := if_neg henc

theorem decode_none (dwMesCode : Nat) (henc : Encoded header) (hh : s.pDataParserHandle = none) :
    s.decode p header body dwMesCode = (s, ⟨-3, 0, dwMesCode⟩) := by
  unfold decode
  rw [if_pos henc, hh]

theorem decode_failed (dwMesCode : Nat) (henc : Encoded header) (hh : s.pDataParserHandle = some h)
    (hp : p.parseData h (.ofFlag header.byEncryptFlag) (.ofFlag header.byCompressFlag) (s.parserBuffers body) = none) :
    s.decode p header body dwMesCode = (s.checkParse p h (.ofFlag header.byEncryptFlag)
      (.ofFlag header.byCompressFlag) (s.parserBuffers body), ⟨-3, 0, dwMesCode⟩) := by
  unfold decode
  rw [if_pos henc, hh]
  simp only [hp]

theorem decode_parsed (dwMesCode : Nat) {n : Nat} (henc : Encoded header) (hh : s.pDataParserHandle = some h)
    (hp : p.parseData h (.ofFlag header.byEncryptFlag) (.ofFlag header.byCompressFlag) (s.parserBuffers body) =
      some (b, n)) :
    s.decode p header body dwMesCode = (((s.checkParse p h (.ofFlag header.byEncryptFlag)
      (.ofFlag header.byCompressFlag) (s.parserBuffers body)).putParsed b).copyBack n).finish n := by
  unfold decode
  rw [if_pos henc, hh]
  simp only [hp]

/-- What `decode` leaves as it is. -/
structure Decoded (s s' : ClientRecv) : Prop where
  length : s'.pbyRecvBuffer.length = s.pbyRecvBuffer.length
  left : s'.dwLeftRecvDataLen = s.dwLeftRecvDataLen

theorem decode_fails (dwMesCode : Nat) (hd : ¬ s.Decodes p header body) :
    Decoded s (s.decode p header body dwMesCode).1 ∧ (s.decode p header body dwMesCode).2.iRet = -3 ∧
      ((s.decode p header body dwMesCode).1.outside = s.outside ↔ s.BodyFits p header body) := by
  obtain ⟨henc, hd⟩ := Classical.not_imp.mp hd
  have hfits : s.BodyFits p header body ↔ ∀ h, s.pDataParserHandle = some h →
      CacheFits p h (.ofFlag header.byEncryptFlag) (.ofFlag header.byCompressFlag) (s.parserBuffers body) := by
    constructor
    · exact fun hf h hh => (hf henc h hh).1
    · exact fun hf _ h hh => ⟨hf h hh, fun hdec => absurd (hdec henc) hd⟩
  rw [hfits]
  cases hh : s.pDataParserHandle with
  | none =>
    rw [decode_none dwMesCode henc hh]
    exact ⟨⟨rfl, rfl⟩, rfl, fun _ => nofun, fun _ => rfl⟩
  | some h =>
    cases hp : p.parseData h (.ofFlag header.byEncryptFlag) (.ofFlag header.byCompressFlag) (s.parserBuffers body) with
    | some r => exact absurd ⟨h, hh, hp ▸ rfl⟩ hd
    | none =>
      obtain ⟨hrecv, -, hleft, -⟩ := checkParse_eq (p := p) (h := h) (.ofFlag header.byEncryptFlag)
        (.ofFlag header.byCompressFlag) (s.parserBuffers body) s
      rw [decode_failed dwMesCode henc hh hp]
      refine ⟨⟨congrArg List.length hrecv, hleft⟩, rfl, (checkParse_outside ..).trans ?_⟩
      constructor
      · rintro hc _ ⟨⟩
        exact hc
      · exact fun hc => hc h rfl

/-- The copy of `n` bytes from the parser buffer to the receive buffer. -/
theorem copyBack_spec (n : Nat) (b : Buffers) (s : ClientRecv) :
    (((s.putParsed b).copyBack n).outside = s.outside ↔ n ≤ s.pbyParserBuffer.length ∧ n ≤ s.pbyRecvBuffer.length) ∧
      s.outside ≤ ((s.putParsed b).copyBack n).outside ∧
      ((s.putParsed b).copyBack n).pbyRecvBuffer.length = s.pbyRecvBuffer.length ∧
      ((s.putParsed b).copyBack n).dwLeftRecvDataLen = s.dwLeftRecvDataLen := by
  have hlen : (s.putParsed b).pbyParserBuffer.length = s.pbyParserBuffer.length := length_overlay _ _
  refine ⟨?_, le_check _ (s.putParsed b), ?_, ?_⟩
  · rw [← hlen]
    exact check_outside _ (s.putParsed b)
  · exact (length_overlay _ _).trans (congrArg List.length (check_pbyRecvBuffer _ (s.putParsed b)))
  · exact check_dwLeftRecvDataLen _ (s.putParsed b)

/-- A packet that is decoded to `n` bytes: the copy back may be outside too. -/
structure DecodedTo (p : Primitives Pub Priv Rand) (header : CXPacketHeader) (body : Bytes) (s : ClientRecv)
    (r : ClientRecv × RecvResult) (n : Nat) : Prop extends Decoded s r.1 where
  text : Primitives.Returned n (s.bodyLength p header body) s.pbyParserBuffer.length
  plain : ¬ Encoded header → n = body.length
  le : s.outside ≤ r.1.outside
  iRet : r.2.iRet = 0
  iReadBytes : r.2.iReadBytes = Int.bmod ((n + 2 ^ 32 - bodyDataLen) % 2 ^ 32 : Nat) (2 ^ 32)
  outside : r.1.outside = s.outside ↔ (Encoded header → ∀ h, s.pDataParserHandle = some h →
    CacheFits p h (.ofFlag header.byEncryptFlag) (.ofFlag header.byCompressFlag) (s.parserBuffers body) ∧
      n ≤ s.pbyParserBuffer.length ∧ n ≤ s.pbyRecvBuffer.length)

theorem decode_spec (dwMesCode : Nat) (hpk : Packet header body s) (hd : s.Decodes p header body) :
    ∃ n, DecodedTo p header body s (s.decode p header body dwMesCode) n := by
  have hroom : bodyDataLen ≤ s.pbyRecvBuffer.length := le_trans (Nat.le_add_left _ _) hpk.room
  by_cases henc : Encoded header
  · obtain ⟨h, hh, hsome⟩ := hd henc
    obtain ⟨⟨b, n⟩, hp⟩ := Option.isSome_iff_exists.mp hsome
    have hne : EncryptType.ofFlag header.byEncryptFlag ≠ .none ∨ CompressType.ofFlag header.byCompressFlag ≠ .none :=
      henc.imp (fun hf => mt ofFlag_eq_none.mp hf) (fun hf => mt compress_ofFlag_eq_none.mp hf)
    have hlen : s.bodyLength p header body =
        p.textLength h (.ofFlag header.byEncryptFlag) (.ofFlag header.byCompressFlag) (s.parserBuffers body) := by
      unfold bodyLength
      rw [if_pos henc, hh]
    have hcache := checkParse_outside (s := s) (p := p) (h := h) (.ofFlag header.byEncryptFlag)
      (.ofFlag header.byCompressFlag) (s.parserBuffers body)
    obtain ⟨hrecv, hparser, hleft, hle⟩ := checkParse_eq (p := p) (h := h) (.ofFlag header.byEncryptFlag)
      (.ofFlag header.byCompressFlag) (s.parserBuffers body) s
    rw [decode_parsed dwMesCode henc hh hp]
    generalize s.checkParse p h (.ofFlag header.byEncryptFlag) (.ofFlag header.byCompressFlag)
      (s.parserBuffers body) = t at hcache hrecv hparser hleft hle
    obtain ⟨hcopy, hle', hlength, hleft'⟩ := copyBack_spec n b t
    rw [hrecv] at hcopy hlength
    rw [hparser] at hcopy
    obtain ⟨hfin, hbuf, hfleft, hret, hbytes⟩ := finish_spec (s := (t.putParsed b).copyBack n) n (hlength ▸ hroom)
    refine ⟨n, ⟨(congrArg List.length hbuf).trans hlength, hfleft.trans (hleft'.trans hleft)⟩, ?_, fun hf => absurd henc hf,
      (hle.trans hle').trans hfin.ge, hret, hbytes, ?_⟩
    · rw [hlen]
      exact Primitives.parseData_snd hne hp
    · rw [hfin]
      constructor
      · intro hout _ h' hh'
        obtain rfl : h = h' := Option.some.inj (hh.symm.trans hh')
        have ht : t.outside = s.outside := by omega
        exact ⟨hcache.mp ht, hcopy.mp (by omega)⟩
      · intro hin
        obtain ⟨hc, hn⟩ := hin henc h hh
        rw [hcopy.mpr hn, hcache.mpr hc]
  · obtain ⟨hfin, hbuf, hleft, hret, hbytes⟩ := finish_spec body.length hroom
    rw [decode_plain dwMesCode henc]
    refine ⟨body.length, ⟨congrArg List.length hbuf, hleft⟩, ?_, fun _ => rfl, hfin.ge, hret, hbytes, ?_⟩
    · unfold bodyLength
      rw [if_neg henc]
      exact .self _ _
    · exact ⟨fun _ hf => absurd hf henc, fun _ => hfin⟩

namespace DecodedTo

variable {r : ClientRecv × RecvResult} {n : Nat}

theorem lt (hn : DecodedTo p header body s r n) (hpk : Packet header body s) (hd : s.Decodes p header body)
    (hout : r.1.outside = s.outside) : n < 2 ^ 32 := by
  by_cases henc : Encoded header
  · obtain ⟨h, hh, -⟩ := hd henc
    exact lt_of_le_of_lt (hn.outside.mp hout henc h hh).2.2 hpk.lt
  · have hle := hpk.le
    rw [hn.plain henc]
    omega

theorem bodyLength_plain (henc : ¬ Encoded header) : s.bodyLength p header body = body.length := by
  unfold bodyLength
  rw [if_neg henc]

theorem eq_bodyLength (hn : DecodedTo p header body s r n)
    (hparser : Encoded header → s.bodyLength p header body ≤ s.pbyParserBuffer.length)
    (hlt : s.bodyLength p header body < 2 ^ 31 + bodyDataLen) : n = s.bodyLength p header body := by
  by_cases henc : Encoded header
  · have hle := hn.text.le
    have hge := hn.text.ge
    have hparser := hparser henc
    simp only [bodyDataLen] at hlt
    omega
  · rw [bodyLength_plain henc]
    exact hn.plain henc

/-- An encoded packet stays inside, is counted, and its payload is an `int`, exactly if it fits. -/
theorem bodyFits_iff (hn : DecodedTo p header body s r n) (hpk : Packet header body s)
    (hd : s.Decodes p header body) :
    s.BodyFits p header body ↔
      r.1.outside = s.outside ∧ n = s.bodyLength p header body ∧ s.bodyLength p header body < 2 ^ 31 + bodyDataLen := by
  rw [hn.outside]
  by_cases henc : Encoded header
  · obtain ⟨h, hh, -⟩ := hd henc
    constructor
    · intro hf
      obtain ⟨-, hholds⟩ := hf henc h hh
      obtain ⟨hrecv, hparser, hlt⟩ := hholds hd
      have heq := hn.eq_bodyLength (fun _ => hparser) hlt
      rw [← heq] at hrecv hparser
      exact ⟨fun _ h' hh' => ⟨(hf henc h' hh').1, hparser, hrecv⟩, heq, hlt⟩
    · rintro ⟨hin, heq, hlt⟩ _ h' hh'
      obtain ⟨hc, hparser, hrecv⟩ := hin henc h' hh'
      rw [heq] at hparser hrecv
      exact ⟨hc, fun _ => ⟨hrecv, hparser, hlt⟩⟩
  · have hle := hpk.le
    rw [bodyLength_plain henc]
    exact ⟨fun _ => ⟨fun hf => absurd hf henc, hn.plain henc, by simp only [bodyDataLen]; omega⟩,
      fun _ hf => absurd hf henc⟩

theorem survives_iff (hn : DecodedTo p header body s r n) (hpk : Packet header body s)
    (hd : s.Decodes p header body) :
    r.1.outside = s.outside ∧ r.2.iReadBytes = (s.bodyLength p header body - bodyDataLen : Nat) ↔
      s.BodyFits p header body ∧ bodyDataLen ≤ s.bodyLength p header body := by
  rw [hn.bodyFits_iff hpk hd, hn.iReadBytes]
  constructor
  · rintro ⟨hout, hbytes⟩
    obtain ⟨heq, hle, hlt⟩ := (payload_eq hn.text.le (hn.lt hpk hd hout)).mp hbytes
    exact ⟨⟨hout, heq, hlt⟩, hle⟩
  · rintro ⟨⟨hout, heq, hlt⟩, hle⟩
    exact ⟨hout, (payload_eq hn.text.le (hn.lt hpk hd hout)).mpr ⟨heq, hle, hlt⟩⟩

end DecodedTo

theorem connected_of_receive {r : CXPacketHeader × Bytes} (h : s.receive c = some (s', .ok r)) :
    ¬ (!s.bConnected ∨ !s.bCreated ∨ s.bClosing) := by
  intro hconn
  have hrecv : s.noLeft.recv headerLen c.answers = some (s.noLeft, [], -2, c.answers) := by
    unfold recv
    rw [if_neg (by decide)]
    exact if_pos hconn
  unfold receive at h
  rw [hrecv] at h
  cases h

theorem recvPacket_of_receive {r : CXPacketHeader × Bytes} (h : s.receive c = some (s', .ok r)) :
    s.recvPacket p c = some (s'.decode p r.1 r.2 c.dwMesCode) := by
  unfold recvPacket
  rw [if_neg (connected_of_receive h), h]

theorem recvPacket_outside (hlt : s.pbyRecvBuffer.length < 2 ^ 32)
    (hno : ∀ s₁ r, s.receive c ≠ some (s₁, .ok r)) {r : RecvResult} (h : s.recvPacket p c = some (s', r)) :
    s'.outside = s.outside ∧ s'.pbyRecvBuffer.length < 2 ^ 32 ∧ r.iRet < 0 ∧
      (s'.dwLeftRecvDataLen = 0 ∨ s' = s) := by
  have hneg : (-2 : Int) < 0 := by decide
  unfold recvPacket at h
  split at h
  · cases h
    exact ⟨rfl, hlt, hneg, .inr rfl⟩
  · split at h
    · cases h
    · rename_i s₁ iRet hr
      cases h
      obtain ⟨hout, hlt', hleft, -⟩ := receive_spec hlt hr
      exact ⟨hout, hlt', receive_error hr, .inl hleft⟩
    · rename_i s₁ header body hr
      exact absurd hr (hno s₁ (header, body))

/-- `RecvPacket` survives exactly the packets that fit, and have their 40 bytes, where they are decoded. -/
theorem survives_recvPacket_iff (hlt : s.pbyRecvBuffer.length < 2 ^ 32) :
    s.Survives p (.recvPacket c) ↔ s.Meets p (.recvPacket c) := by
  have hcase : ∀ s₁ header body, s.receive c = some (s₁, .ok (header, body)) →
      ((∀ s' r, s.recvPacket p c = some (s', r) → s'.outside = s.outside ∧
        (r.iRet = 0 → r.iReadBytes = (s₁.bodyLength p header body - bodyDataLen : Nat))) ↔
      s₁.BodyFits p header body ∧ (s₁.Decodes p header body → bodyDataLen ≤ s₁.bodyLength p header body)) := by
    intro s₁ header body hr
    obtain ⟨hout, -, -, hpacket⟩ := receive_spec hlt hr
    have hpk := hpacket header body rfl
    rw [recvPacket_of_receive hr, ← hout]
    by_cases hd : s₁.Decodes p header body
    · obtain ⟨n, hn⟩ := decode_spec c.dwMesCode hpk hd
      rw [imp_iff_right hd, ← hn.survives_iff hpk hd]
      generalize s₁.decode p header body c.dwMesCode = out at hn ⊢
      constructor
      · intro h
        obtain ⟨hs, hbytes⟩ := h _ _ rfl
        exact ⟨hs, hbytes hn.iRet⟩
      · rintro ⟨hs, hbytes⟩ s' r ⟨⟩
        exact ⟨hs, fun _ => hbytes⟩
    · obtain ⟨-, hret, hiff⟩ := decode_fails (p := p) c.dwMesCode hd
      rw [← hiff]
      generalize s₁.decode p header body c.dwMesCode = out at hret ⊢
      constructor
      · exact fun h => ⟨(h _ _ rfl).1, fun hd' => absurd hd' hd⟩
      · rintro ⟨hs, -⟩ s' r ⟨⟩
        exact ⟨hs, fun hzero => absurd (hret.symm.trans hzero) (by decide)⟩
  constructor
  · intro hs s₁ header body hr
    exact (hcase s₁ header body hr).mp fun s' r hret => ⟨(hs s' r hret).1, (hs s' r hret).2 s₁ header body hr⟩
  · intro hm s' r hret
    by_cases hex : ∃ s₁ r, s.receive c = some (s₁, .ok r)
    · obtain ⟨s₁, ⟨header, body⟩, hr⟩ := hex
      obtain ⟨hout, hbytes⟩ := (hcase s₁ header body hr).mpr (hm s₁ header body hr) s' r hret
      refine ⟨hout, fun s₂ header' body' hr' => ?_⟩
      cases hr.symm.trans hr'
      exact hbytes
    · have hno : ∀ s₁ r, s.receive c ≠ some (s₁, .ok r) := fun s₁ r hr => hex ⟨s₁, r, hr⟩
      exact ⟨(recvPacket_outside hlt hno hret).1, fun s₂ header' body' hr' => absurd hr' (hno s₂ _)⟩

namespace DecodedTo

variable {r : ClientRecv × RecvResult} {n : Nat}

theorem iReadBytes_eq (hn : DecodedTo p header body s r n) (heq : n = s.bodyLength p header body)
    (hlt : s.bodyLength p header body < 2 ^ 31 + bodyDataLen) :
    r.2.iReadBytes = (s.bodyLength p header body : Int) - bodyDataLen := by
  rw [hn.iReadBytes, heq]
  simp only [bodyDataLen, Int.bmod_def] at hlt ⊢
  split <;> omega

theorem le_of_bodyFits (hpk : Packet header body s) (hd : s.Decodes p header body)
    (hf : s.BodyFits p header body) :
    s.bodyLength p header body ≤ s.pbyRecvBuffer.length := by
  by_cases henc : Encoded header
  · obtain ⟨h, hh, -⟩ := hd henc
    exact ((hf henc h hh).2 hd).1
  · rw [bodyLength_plain henc]
    exact le_trans (Nat.le_add_right _ _) hpk.room

/-- Where the parser buffer is the longer one, a body that is cut does not stay inside. -/
theorem eq_of_outside (hn : DecodedTo p header body s r n) (hd : s.Decodes p header body)
    (hlonger : s.pbyRecvBuffer.length < s.pbyParserBuffer.length) (hout : r.1.outside = s.outside)
    (hlt : s.bodyLength p header body < 2 ^ 31 + bodyDataLen) : n = s.bodyLength p header body := by
  by_cases henc : Encoded header
  · obtain ⟨h, hh, -⟩ := hd henc
    have hrecv := (hn.outside.mp hout henc h hh).2.2
    have hle := hn.text.le
    have hge := hn.text.ge
    simp only [bodyDataLen] at hlt
    omega
  · rw [bodyLength_plain henc]
    exact hn.plain henc

/-- `-8` is returned where the payload is longer than the caller's buffer. -/
theorem giveData_iff (hn : DecodedTo p header body s r n) (hpk : Packet header body s)
    (hd : s.Decodes p header body)
    (hlonger : s.BodyFits p header body ∨ s.pbyRecvBuffer.length < s.pbyParserBuffer.length)
    (data : Bytes) {iReadBytes : Int} (hint : iReadBytes < 2 ^ 31) :
    ((giveData data iReadBytes r).1.outside = s.outside ∧
      ((giveData data iReadBytes r).2.1.iRet = 0 →
        (giveData data iReadBytes r).2.1.iReadBytes = (s.bodyLength p header body - bodyDataLen : Nat)) ∧
      ((giveData data iReadBytes r).2.1.iRet = -8 →
        (giveData data iReadBytes r).2.1.iReadBytes + (giveData data iReadBytes r).1.dwLeftRecvDataLen =
          (s.bodyLength p header body - bodyDataLen : Nat))) ↔
      s.BodyFits p header body ∧ (bodyDataLen < s.bodyLength p header body ∨ iReadBytes = 0) := by
  have hsurvives := hn.survives_iff hpk hd
  have hfits := hn.bodyFits_iff hpk hd
  by_cases hpos : 0 < r.2.iReadBytes
  · -- the caller gets the payload, or its front
    have hof : s.BodyFits p header body → r.1.outside = s.outside ∧
        r.2.iReadBytes = (s.bodyLength p header body - bodyDataLen : Nat) ∧
        s.bodyLength p header body ≤ r.1.pbyRecvBuffer.length := by
      intro hf
      obtain ⟨hout, heq, hlt⟩ := hfits.mp hf
      have hbytes := hn.iReadBytes_eq heq hlt
      exact ⟨hout, by omega, hn.length ▸ le_of_bodyFits hpk hd hf⟩
    have hto : ∀ inside [Decidable inside], (r.1.check inside).outside = s.outside →
        r.2.iReadBytes = (s.bodyLength p header body - bodyDataLen : Nat) →
        s.BodyFits p header body ∧ (bodyDataLen < s.bodyLength p header body ∨ iReadBytes = 0) := by
      intro inside _ hout hbytes
      have hle := le_check inside r.1
      have hge := hn.le
      refine ⟨(hsurvives.mp ⟨by omega, hbytes⟩).1, .inl ?_⟩
      omega
    unfold giveData
    rw [if_pos ⟨hn.iRet, hpos⟩]
    by_cases hless : data.length < r.2.iReadBytes.toNat
    · rw [if_pos hless]
      constructor
      · rintro ⟨hout, -, hbytes⟩
        refine hto (bodyDataLen + data.length ≤ r.1.pbyRecvBuffer.length) hout ?_
        have hbytes := hbytes rfl
        dsimp only at hbytes
        omega
      · rintro ⟨hf, -⟩
        obtain ⟨hout, hbytes, hle⟩ := hof hf
        refine ⟨?_, fun hzero => absurd hzero (by decide : (-8 : Int) ≠ 0), fun _ => ?_⟩
        · exact ((check_outside _ r.1).mpr (by omega)).trans hout
        · dsimp only
          omega
    · rw [if_neg hless]
      constructor
      · rintro ⟨hout, hbytes, -⟩
        exact hto (bodyDataLen + r.2.iReadBytes.toNat ≤ r.1.pbyRecvBuffer.length) hout (hbytes hn.iRet)
      · rintro ⟨hf, -⟩
        obtain ⟨hout, hbytes, hle⟩ := hof hf
        refine ⟨?_, fun _ => hbytes, fun hret => absurd (hn.iRet.symm.trans hret) (by decide)⟩
        exact ((check_outside _ r.1).mpr (by omega)).trans hout
  · -- nothing is copied
    have hcond : ¬ (r.2.iRet = 0 ∧ 0 < r.2.iReadBytes) := fun h => hpos h.2
    unfold giveData
    rw [if_neg hcond]
    dsimp only
    constructor
    · rintro ⟨hout, hbytes, -⟩
      have hbytes := hbytes hn.iRet
      have hlt : s.bodyLength p header body < 2 ^ 31 + bodyDataLen := by
        simp only [bodyDataLen] at hbytes ⊢
        omega
      refine ⟨hlonger.elim id fun hlonger => hfits.mpr ⟨hout, hn.eq_of_outside hd hlonger hout hlt, hlt⟩, ?_⟩
      omega
    · rintro ⟨hf, hzero⟩
      obtain ⟨hout, heq, hlt⟩ := hfits.mp hf
      have hbytes := hn.iReadBytes_eq heq hlt
      refine ⟨hout, fun _ => ?_, fun hret => absurd (hn.iRet.symm.trans hret) (by decide)⟩
      omega

end DecodedTo

/-- `RecvPacket` into a buffer of the caller, on a packet that it has received. -/
theorem recvPacketInto_of_receive {data : Bytes} {r : CXPacketHeader × Bytes}
    (h : s.noLeft.receive c = some (s', .ok r)) : s.recvPacketInto p c (some data) =
      some (giveData (List.replicate data.length 0) c.iReadBytes (s'.decode p r.1 r.2 c.dwMesCode)) := by
  have hrecv := recvPacket_of_receive (p := p) (c := { c with iReadBytes := 0, isInt := by decide }) (s := s.noLeft) h
  unfold recvPacketInto
  simp only [hrecv]
  rfl

theorem recvPacketInto_outside (hlt : s.pbyRecvBuffer.length < 2 ^ 32)
    (hno : ∀ s₁ r, s.noLeft.receive c ≠ some (s₁, .ok r)) {data data' : Bytes} {r : RecvResult}
    (h : s.recvPacketInto p c (some data) = some (s', r, data')) :
    s'.outside = s.outside ∧ s'.pbyRecvBuffer.length < 2 ^ 32 ∧ s'.dwLeftRecvDataLen = 0 := by
  obtain ⟨⟨t, q⟩, ht, hgive⟩ := Option.map_eq_some_iff.mp h
  obtain ⟨hout, hlt', hret, hleft⟩ := recvPacket_outside (p := p) (s := s.noLeft)
    (c := { c with iReadBytes := 0, isInt := by decide }) hlt hno ht
  have hcond : ¬ (q.iRet = 0 ∧ 0 < q.iReadBytes) := fun hzero => by omega
  unfold giveData at hgive
  rw [if_neg hcond] at hgive
  obtain ⟨rfl, -⟩ := Prod.mk.inj hgive
  refine ⟨hout, hlt', ?_⟩
  rcases hleft with hleft | heq
  · exact hleft
  · rw [show t = s.noLeft from heq]
    rfl

/-- The same where the caller's buffer takes the payload: there the 40 bytes may be missing if `iReadBytes` is 0
already. -/
theorem survives_recvPacketInto_iff (hlt : s.pbyRecvBuffer.length < 2 ^ 32) (pData : Option Bytes)
    (hlonger : s.Meets p (.recvPacketInto c pData) ∨ ∀ s₁ header body,
      s.noLeft.receive c = some (s₁, .ok (header, body)) → s₁.pbyRecvBuffer.length < s₁.pbyParserBuffer.length) :
    s.Survives p (.recvPacketInto c pData) ↔ s.Meets p (.recvPacketInto c pData) := by
  cases pData with
  | none =>
    refine ⟨fun _ => nofun, fun _ s' r data h => ?_⟩
    cases h
    exact ⟨rfl, fun _ _ _ _ => ⟨nofun, nofun⟩⟩
  | some data =>
    have hcase : ∀ s₁ header body, s.noLeft.receive c = some (s₁, .ok (header, body)) →
        ((∀ s' r data', s.recvPacketInto p c (some data) = some (s', r, data') → s'.outside = s.outside ∧
          (r.iRet = 0 → r.iReadBytes = (s₁.bodyLength p header body - bodyDataLen : Nat)) ∧
          (r.iRet = -8 → r.iReadBytes + s'.dwLeftRecvDataLen = (s₁.bodyLength p header body - bodyDataLen : Nat))) ↔
        s₁.BodyFits p header body ∧
          (s₁.Decodes p header body → bodyDataLen < s₁.bodyLength p header body ∨ c.iReadBytes = 0)) := by
      intro s₁ header body hr
      obtain ⟨hout, -, -, hpacket⟩ := receive_spec (s := s.noLeft) hlt hr
      have hpk := hpacket header body rfl
      rw [recvPacketInto_of_receive hr, ← show s₁.outside = s.outside from hout]
      by_cases hd : s₁.Decodes p header body
      · obtain ⟨n, hn⟩ := decode_spec c.dwMesCode hpk hd
        have hlonger := hlonger.imp (fun hm => (hm rfl s₁ header body hr).1) fun hl => hl s₁ header body hr
        rw [imp_iff_right hd, ← hn.giveData_iff hpk hd hlonger (List.replicate data.length 0) c.isInt]
        generalize giveData _ _ _ = out
        constructor
        · exact fun h => h _ _ _ rfl
        · rintro h s' r data' ⟨⟩
          exact h
      · obtain ⟨-, hret, hiff⟩ := decode_fails (p := p) c.dwMesCode hd
        rw [← hiff]
        generalize s₁.decode p header body c.dwMesCode = out at hret ⊢
        have hcond : ¬ (out.2.iRet = 0 ∧ 0 < out.2.iReadBytes) := fun hzero => by omega
        unfold giveData
        rw [if_neg hcond]
        constructor
        · exact fun h => ⟨(h _ _ _ rfl).1, fun hd' => absurd hd' hd⟩
        · rintro ⟨hs, -⟩ s' r data' ⟨⟩
          refine ⟨hs, fun hzero => ?_, fun height => ?_⟩
          · exact absurd (hret.symm.trans hzero) (by decide)
          · exact absurd (hret.symm.trans height) (by decide)
    constructor
    · intro hs _ s₁ header body hr
      refine (hcase s₁ header body hr).mp fun s' r data' hret => ?_
      obtain ⟨hout, hbytes⟩ := hs s' r data' hret
      exact ⟨hout, hbytes s₁ header body hr⟩
    · intro hm s' r data' hret
      by_cases hex : ∃ s₁ r, s.noLeft.receive c = some (s₁, .ok r)
      · obtain ⟨s₁, ⟨header, body⟩, hr⟩ := hex
        obtain ⟨hout, hbytes⟩ := (hcase s₁ header body hr).mpr (hm rfl s₁ header body hr) s' r data' hret
        refine ⟨hout, fun s₂ header' body' hr' => ?_⟩
        cases hr.symm.trans hr'
        exact hbytes
      · have hno : ∀ s₁ r, s.noLeft.receive c ≠ some (s₁, .ok r) := fun s₁ r hr => hex ⟨s₁, r, hr⟩
        exact ⟨(recvPacketInto_outside hlt hno hret).1, fun s₂ header' body' hr' => absurd hr' (hno s₂ _)⟩

/-! ### Runs -/

theorem Inv.recvPacket (hi : Inv s) {r : RecvResult} (h : s.recvPacket p c = some (s', r)) : Inv s' := by
  by_cases hex : ∃ s₁ r, s.receive c = some (s₁, .ok r)
  · obtain ⟨s₁, ⟨header, body⟩, hr⟩ := hex
    have hpk := (receive_spec hi.lt hr).2.2.2 header body rfl
    rw [recvPacket_of_receive hr] at h
    have hdec : Decoded s₁ s' := by
      by_cases hd : s₁.Decodes p header body
      · obtain ⟨n, hn⟩ := decode_spec c.dwMesCode hpk hd
        rw [Option.some.inj h] at hn
        exact hn.toDecoded
      · have hf := (decode_fails (p := p) c.dwMesCode hd).1
        rwa [Option.some.inj h] at hf
    exact .of_left_zero (hdec.length ▸ hpk.lt) (hdec.left.trans hpk.left)
  · have hno : ∀ s₁ r, s.receive c ≠ some (s₁, .ok r) := fun s₁ r hr => hex ⟨s₁, r, hr⟩
    obtain ⟨-, hlt, -, hleft⟩ := recvPacket_outside hi.lt hno h
    rcases hleft with hleft | rfl
    · exact .of_left_zero hlt hleft
    · exact hi

theorem DecodedTo.inv_giveData {r : ClientRecv × RecvResult} {n : Nat} (hn : DecodedTo p header body s r n)
    (hpk : Packet header body s) (hd : s.Decodes p header body) (hf : s.BodyFits p header body) (data : Bytes)
    (iReadBytes : Int) : Inv (giveData data iReadBytes r).1 := by
  have hle := le_of_bodyFits hpk hd hf
  obtain ⟨-, heq, hlt⟩ := (hn.bodyFits_iff hpk hd).mp hf
  have hbytes := hn.iReadBytes_eq heq hlt
  have hlt := hpk.lt
  rw [← hn.length] at hle hlt
  have hleft := hn.left.trans hpk.left
  unfold giveData
  dsimp only
  split
  · split
    · refine ⟨?_, fun _ => ?_⟩
      · simpa using hlt
      · simp only [check_pbyRecvBuffer]
        omega
    · refine .of_left_zero ?_ ?_
      · simpa using hlt
      · simpa using hleft
  · exact .of_left_zero hlt hleft

theorem Inv.recvPacketInto (hi : Inv s) {pData : Option Bytes} (hm : s.Meets p (.recvPacketInto c pData))
    {r : RecvResult} {data' : Bytes} (h : s.recvPacketInto p c pData = some (s', r, data')) : Inv s' := by
  cases pData with
  | none =>
    cases h
    exact hi
  | some data =>
    by_cases hex : ∃ s₁ r, s.noLeft.receive c = some (s₁, .ok r)
    · obtain ⟨s₁, ⟨header, body⟩, hr⟩ := hex
      have hpk := (receive_spec (s := s.noLeft) hi.lt hr).2.2.2 header body rfl
      rw [recvPacketInto_of_receive hr] at h
      obtain rfl : (giveData _ _ _).1 = s' := congrArg Prod.fst (Option.some.inj h)
      by_cases hd : s₁.Decodes p header body
      · obtain ⟨n, hn⟩ := decode_spec c.dwMesCode hpk hd
        exact hn.inv_giveData hpk hd (hm rfl s₁ header body hr).1 _ _
      · obtain ⟨hdec, hret, -⟩ := decode_fails (p := p) c.dwMesCode hd
        have hcond : ¬ ((s₁.decode p header body c.dwMesCode).2.iRet = 0 ∧
            0 < (s₁.decode p header body c.dwMesCode).2.iReadBytes) := fun hzero => by omega
        unfold giveData
        rw [if_neg hcond]
        exact .of_left_zero (hdec.length ▸ hpk.lt) (hdec.left.trans hpk.left)
    · have hno : ∀ s₁ r, s.noLeft.receive c ≠ some (s₁, .ok r) := fun s₁ r hr => hex ⟨s₁, r, hr⟩
      obtain ⟨-, hlt, hleft⟩ := recvPacketInto_outside hi.lt hno h
      exact .of_left_zero hlt hleft

theorem Inv.readLeftData (hi : Inv s) (pData : Bytes) (iReadBytes : Int) :
    Inv (s.readLeftData pData iReadBytes).1 := by
  unfold ClientRecv.readLeftData
  split
  · exact hi
  split
  · exact hi
  · refine .of_left_zero ?_ rfl
    show (s.check _).pbyRecvBuffer.length < 2 ^ 32
    rw [check_pbyRecvBuffer]
    exact hi.lt

theorem Inv.runOp (hi : Inv s) {op : RecvOp} (hm : s.Meets p op) (h : s.runOp p op = some s') : Inv s' := by
  cases op with
  | recvPacket c =>
    obtain ⟨⟨t, r⟩, ht, rfl⟩ := Option.map_eq_some_iff.mp h
    exact hi.recvPacket ht
  | recvPacketInto c pData =>
    obtain ⟨⟨t, r, data'⟩, ht, rfl⟩ := Option.map_eq_some_iff.mp h
    exact hi.recvPacketInto hm ht
  | readLeftData pData iReadBytes =>
    cases h
    exact hi.readLeftData pData iReadBytes
  | setRecvBufferSize dwBufSize buffers =>
    cases h
    exact hi.setRecvBufferSize hm
  | setDataParserHandle h' =>
    cases h
    exact ⟨hi.lt, hi.left⟩
  | connect =>
    cases h
    exact ⟨hi.lt, hi.left⟩
  | close =>
    cases h
    exact .of_left_zero hi.lt rfl
  | request byRequestID =>
    cases h
    exact ⟨hi.lt, hi.left⟩

theorem Inv.survives_readLeftData (hi : Inv s) {pData : Bytes} {iReadBytes : Int}
    (hm : s.Meets p (.readLeftData pData iReadBytes)) : s.Survives p (.readLeftData pData iReadBytes) := by
  show (s.readLeftData pData iReadBytes).1.outside = s.outside ∧ _
  unfold ClientRecv.readLeftData
  split
  · rename_i hzero
    refine ⟨rfl, fun _ => ?_⟩
    rw [hzero]
    exact hm hzero
  · rename_i hne
    split
    · exact ⟨rfl, nofun⟩
    · exact ⟨(check_outside _ s).mpr (hi.left hne), fun _ => rfl⟩

theorem Inv.survives (hi : Inv s) {op : RecvOp} (hm : s.Meets p op) : s.Survives p op := by
  cases op with
  | recvPacket c => exact (survives_recvPacket_iff hi.lt).mpr hm
  | recvPacketInto c pData => exact (survives_recvPacketInto_iff hi.lt pData (.inl hm)).mpr hm
  | readLeftData pData iReadBytes => exact hi.survives_readLeftData hm
  | _ => trivial

/-- The induction is on the calls. -/
theorem Inv.along (ops : List RecvOp) : ∀ {s : ClientRecv}, Inv s → Along p (Meets p) s ops →
    Along p (Survives p) s ops := by
  induction ops with
  | nil => exact fun _ h => h
  | cons op ops ih => exact fun hi h => ⟨hi.survives h.1, fun s' hs => ih (hi.runOp h.1 hs) (h.2 s' hs)⟩

end

/-! ### Two plain replies -/

/-- The header of a body that is neither encrypted nor compressed. -/
def plainHeader (body : Bytes) : CXPacketHeader :=
  ⟨cxPacketHeaderFlag, 0, 0, body.length, byteSum body, body.length⟩

theorem zero_isInt : (0 : Int) < 2 ^ 31 := by decide

def plainReply (body : Bytes) : PacketCall where
  iReadBytes := 0
  isInt := zero_isInt
  dwMesCode := 0
  answers := [.received (plainHeader body).toBytes, .received body]
  buffers := some fun _ => 0

/-- A client that is connected. -/
def connected : ClientRecv := { construct with bCreated := true, bConnected := true }

end ClientRecv

end KonsanNet
