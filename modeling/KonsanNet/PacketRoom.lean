import KonsanNet.ParserStores
import KonsanNet.Send

/-!
# The buffers of `ParseMessage` and `PreparedAndSendPacket`

Both take two buffers whose sizes they compute from a length, as `DWORD`s and `int`s that wrap, and give
`ParseData` or `PrepareData` their room. `Caches` are the sizes of what the caches answer with.

`ParseMessage` computes from `dwOrignDataLen`, a field of the header that nothing checks: for the 92 values from
`2^32 - 348` on, the room that it gives to the output wraps (`parseInside_iff`). `PreparedAndSendPacket` computes
from the length of a packet that lies in a buffer itself, and its room is always enough (`prepareStores_room`).
-/

namespace KonsanNet

/-- How many bytes `GetBuffer` and `GetFirstThreadCache` give for a size; `none` is `NULL`. -/
structure Caches where
  getBuffer : Nat → Option Nat
  getFirstThreadCache : Nat → Option Nat
  getBuffer_ge : ∀ {s m : Nat}, getBuffer s = some m → max s 256 ≤ m
  getBuffer_none : ∀ {s : Nat}, cxMaxCacheSize < s → getBuffer s = none
  getFirstThreadCache_ge : ∀ {s m : Nat}, getFirstThreadCache s = some m → s ≤ m

/-- The scratch buffer: the thread cache, or a buffer of its own. -/
def Caches.scratch (c : Caches) (size : Nat) : Option Nat :=
  match c.getFirstThreadCache size with
  | some m => some m
  | none => c.getBuffer size

theorem Caches.scratch_ge {c : Caches} {size m : Nat} (h : c.scratch size = some m) : size ≤ m := by
  unfold scratch at h
  split at h
  · rename_i m' hm
    cases h
    exact c.getFirstThreadCache_ge hm
  · exact le_trans (le_max_left _ _) (c.getBuffer_ge h)

/-- Every size is answered, by exactly as much as is asked for or the least there is. -/
def leastCaches : Caches where
  getBuffer s := if s ≤ cxMaxCacheSize then some (max s 256) else none
  getFirstThreadCache s := some s
  getBuffer_ge {s m} h := by
    split at h
    · cases h
      exact le_rfl
    · cases h
  getBuffer_none h := if_neg (Nat.not_le_of_lt h)
  getFirstThreadCache_ge h := by
    cases h
    exact le_rfl

/-! ### `ParseMessage` -/

namespace RecvState

/-- `dwOutputBufLen` as `ParseData` gets it. -/
def outputRoom (hd : CXPacketHeader) : Nat := (outputBufLen hd + 2 ^ 32 - messageDataLen) % 2 ^ 32

/-- With every answer of the caches and for every body, what `ParseMessage` and `ParseData` store lies in the new
message and in the scratch buffer, and so does the room they are told of. -/
def ParseInside (hd : CXPacketHeader) : Prop :=
  ∀ (c : Caches) (scratch newMes : Nat), c.scratch (newBufferLen hd) = some scratch →
    c.getBuffer (outputBufLen hd) = some newMes →
    bodyOffset + outputRoom hd ≤ newMes ∧ newBufferLen hd ≤ scratch ∧
      ∀ (Pub Priv Rand : Type) (p : Primitives Pub Priv Rand) (h : CXFastDataParserHandle) (enc : EncryptType)
        (comp : CompressType) (b : Buffers), b.dest.length = outputRoom hd → b.cache.length = newBufferLen hd →
        ∀ st ∈ p.parseStores h enc comp b,
          st.buf = .dest ∧ bodyOffset + st.fin ≤ newMes ∨ st.buf = .cache ∧ st.fin ≤ scratch

/-- The size of the message by the range of `dwOrignDataLen`: it wraps in the last two, where the first addition
does in one of them. -/
theorem outputBufLen_cases {hd : CXPacketHeader} (hlt : hd.dwOrignDataLen < 2 ^ 32) :
    (hd.dwOrignDataLen < 420 ∨ 2 ^ 32 - 92 ≤ hd.dwOrignDataLen) ∧ outputBufLen hd = 512 ∨
      420 ≤ hd.dwOrignDataLen ∧ hd.dwOrignDataLen < 2 ^ 32 - 348 ∧ outputBufLen hd = hd.dwOrignDataLen + 348 ∨
      2 ^ 32 - 348 ≤ hd.dwOrignDataLen ∧ hd.dwOrignDataLen < 2 ^ 32 - 92 ∧
        outputBufLen hd + 2 ^ 32 = hd.dwOrignDataLen + 348 := by
  by_cases hs : (hd.dwOrignDataLen + messageDataLen) % 2 ^ 32 < 512
  · have hlen : outputBufLen hd = 512 := if_pos hs
    rw [hlen]
    simp only [messageDataLen] at hs
    omega
  · have hlen : outputBufLen hd = ((hd.dwOrignDataLen + messageDataLen) % 2 ^ 32 + 256) % 2 ^ 32 := if_neg hs
    rw [hlen]
    simp only [messageDataLen] at hs ⊢
    omega

/-- The room for the output, where nothing wraps and at the wrap. -/
theorem outputRoom_le {hd : CXPacketHeader} (hlt : hd.dwOrignDataLen < 2 ^ 32) :
    bodyOffset + outputRoom hd ≤ max (outputBufLen hd) 256 ↔
      ¬ (2 ^ 32 - 348 ≤ hd.dwOrignDataLen ∧ hd.dwOrignDataLen < 2 ^ 32 - 256) := by
  have hlen := outputBufLen_cases hlt
  unfold outputRoom
  simp only [messageDataLen, bodyOffset]
  omega

/-- The room, where nothing wraps. -/
theorem outputRoom_eq {hd : CXPacketHeader} (hlt : hd.dwOrignDataLen < cxMaxCacheSize) :
    outputRoom hd = if hd.dwOrignDataLen < 420 then 420 else hd.dwOrignDataLen + 256 := by
  simp only [cxMaxCacheSize] at hlt
  have hlen := outputBufLen_cases (lt_trans hlt (by decide))
  unfold outputRoom
  simp only [messageDataLen]
  split <;> omega

/-- The new message is always large enough for the fields in front of the body. -/
theorem parseInside_of_room {hd : CXPacketHeader}
    (hroom : bodyOffset + outputRoom hd ≤ max (outputBufLen hd) 256) : ParseInside hd := by
  intro c scratch newMes hscratch hmes
  have hout := le_trans hroom (c.getBuffer_ge hmes)
  have hcache := Caches.scratch_ge hscratch
  refine ⟨hout, hcache, fun Pub Priv Rand p h enc comp b hdest hcached st hst => ?_⟩
  rcases Primitives.parseStores_inside hst with ⟨hbuf, hfin⟩ | ⟨hbuf, hfin⟩
  · rw [hdest] at hfin
    exact .inl ⟨hbuf, le_trans (Nat.add_le_add_left hfin _) hout⟩
  · rw [hcached] at hfin
    exact .inr ⟨hbuf, le_trans hfin hcache⟩

/-- Where the room wraps, the least buffer is too small for it. -/
theorem not_parseInside {hd : CXPacketHeader} (hlt : hd.dwOrignDataLen < 2 ^ 32)
    (hroom : ¬ bodyOffset + outputRoom hd ≤ max (outputBufLen hd) 256) : ¬ ParseInside hd := by
  intro hin
  have hsize : outputBufLen hd ≤ cxMaxCacheSize := by
    have hw := mt (outputRoom_le hlt).mpr hroom
    have hlen := outputBufLen_cases hlt
    simp only [cxMaxCacheSize]
    omega
  exact hroom (hin leastCaches _ _ rfl (if_pos hsize)).1

theorem dwOrignDataLen_lt (bs : List UInt8) : (CXPacketHeader.ofBytes bs).dwOrignDataLen < 2 ^ 32 :=
  leValue_take_four_lt _

/-- For every header: nothing is stored outside exactly if `dwOrignDataLen` is not one of the values for which the
size of the message wraps to less than its fields. -/
theorem parseInside_iff (bs : List UInt8) : ParseInside (.ofBytes bs) ↔
    ¬ (2 ^ 32 - 348 ≤ (CXPacketHeader.ofBytes bs).dwOrignDataLen ∧
      (CXPacketHeader.ofBytes bs).dwOrignDataLen < 2 ^ 32 - 256) := by
  have hlt := dwOrignDataLen_lt bs
  rw [← outputRoom_le hlt]
  exact ⟨fun h => by_contra fun hroom => not_parseInside hlt hroom h, parseInside_of_room⟩

/-- A message of 91 bytes is asked for, and `2^32 - 1` bytes of room are promised. -/
theorem not_parseInside_wrapped : ¬ ParseInside (.ofBytes (leBytes 2 cxPacketHeaderFlag ++ [0x82, 0] ++
    List.replicate 8 0 ++ leBytes 4 (2 ^ 32 - 257))) := by
  refine not_parseInside (dwOrignDataLen_lt _) ?_
  decide +kernel

end RecvState

/-! ### `PreparedAndSendPacket` -/

namespace SendState

/-- The offset of `buf` in `CXBufferObj`. -/
def bufOffset : Nat := 52

/-- What the code relies on: `RawCompress` is not told the room. -/
def SnappyBound {Pub Priv Rand : Type} (p : Primitives Pub Priv Rand) : Prop :=
  ∀ m, (p.rawCompress m).length ≤ 32 + m.length + m.length / 6

/-- The body of a packet lies in a buffer of the cache, behind the fields and the header. -/
structure InputBuffer (c : Caches) (dwPacketBodyLen : Nat) : Prop where
  room : ∃ size m, c.getBuffer size = some m ∧ bufOffset + headerLen + dwPacketBodyLen ≤ size

theorem InputBuffer.lt {c : Caches} {n : Nat} (hin : InputBuffer c n) : n < cxMaxCacheSize := by
  obtain ⟨size, m, hget, hle⟩ := hin.room
  have hsize : size ≤ cxMaxCacheSize := by
    by_contra hlt
    cases (c.getBuffer_none (Nat.lt_of_not_le hlt)).symm.trans hget
  simp only [bufOffset, headerLen] at hle
  omega

theorem cacheBufLen_eq {n : Nat} (hn : n < cxMaxCacheSize) : cacheBufLen n = max (2 * n) 256 := by
  have hmod : n * 2 % 2 ^ 32 = 2 * n := by
    rw [Nat.mul_comm]
    refine Nat.mod_eq_of_lt ?_
    simp only [cxMaxCacheSize] at hn
    omega
  unfold cacheBufLen
  rw [hmod]
  split <;> omega

theorem preparedBufLen_eq {n : Nat} (hn : n < cxMaxCacheSize) :
    preparedBufLen n = if n < 220 then 512 else 2 * n + 328 := by
  have hmod : (n * 2 + headerLen + bufferObjLen) % 2 ^ 32 = 2 * n + 72 := by
    simp only [cxMaxCacheSize, headerLen, bufferObjLen] at hn ⊢
    omega
  unfold preparedBufLen
  rw [hmod]
  by_cases hs : n < 220
  · rw [if_pos hs]
    exact if_pos (by omega)
  · rw [if_neg hs, if_neg (by omega)]
    simp only [cxMaxCacheSize, headerLen, bufferObjLen] at hn ⊢
    omega

theorem cacheBufLen_le {n : Nat} (hn : n < cxMaxCacheSize) :
    bufOffset + headerLen + cacheBufLen n ≤ preparedBufLen n := by
  rw [cacheBufLen_eq hn, preparedBufLen_eq hn]
  simp only [bufOffset, headerLen]
  split <;> omega

theorem SnappyBound.le_cacheBufLen {Pub Priv Rand : Type} {p : Primitives Pub Priv Rand} (hp : SnappyBound p)
    {m : Bytes} (hm : m.length < cxMaxCacheSize) : (p.rawCompress m).length ≤ cacheBufLen m.length := by
  have hlen := hp m
  rw [cacheBufLen_eq hm]
  omega

/-- With every answer of the caches that gives the two buffers: each store of `PrepareData` goes into the packet
behind its header, or into the scratch buffer. -/
theorem prepareStores_room {Pub Priv Rand : Type} {p : Primitives Pub Priv Rand} (hp : SnappyBound p) {c : Caches}
    {b : Buffers} (hin : InputBuffer c b.src.length) {scratch out : Nat}
    (hscratch : c.scratch (cacheBufLen b.src.length) = some scratch)
    (hout : c.getBuffer (preparedBufLen b.src.length) = some out)
    (hdest : b.dest.length = cacheBufLen b.src.length) (hcache : b.cache.length = cacheBufLen b.src.length)
    (h : CXFastDataParserHandle) (enc : EncryptType) (comp : CompressType) :
    ∀ st ∈ p.prepareStores h enc comp b,
      st.buf = .dest ∧ bufOffset + headerLen + st.fin ≤ out ∨
        st.buf = .cache ∧ st.fin ≤ max (2 * b.src.length) 256 ∧ st.fin ≤ scratch := by
  intro st hst
  have hraw := hp.le_cacheBufLen hin.lt
  have hroom : (p.rawCompress b.src).length ≤ if enc = .none then b.dest.length else b.cache.length := by
    rwa [hdest, hcache, ite_self]
  rcases Primitives.prepareStores_inside (fun _ => hroom) hst with ⟨hbuf, hfin⟩ | ⟨hbuf, hfin⟩
  · rw [hdest] at hfin
    refine .inl ⟨hbuf, ?_⟩
    calc bufOffset + headerLen + st.fin ≤ bufOffset + headerLen + cacheBufLen b.src.length :=
          Nat.add_le_add_left hfin _
      _ ≤ preparedBufLen b.src.length := cacheBufLen_le hin.lt
      _ ≤ out := le_trans (le_max_left _ _) (c.getBuffer_ge hout)
  · rw [hcache] at hfin
    exact .inr ⟨hbuf, hfin.trans (cacheBufLen_eq hin.lt).le, hfin.trans (Caches.scratch_ge hscratch)⟩

theorem snappyBound_library1024 : SnappyBound Primitives.library1024 := fun m => by
  show (Primitives.literalCompress m).length ≤ _
  unfold Primitives.literalCompress
  split
  · simp only [List.length_cons]
    omega
  · simp only [List.length_cons]
    omega

/-- 48 different bytes, which Snappy makes one literal of. -/
def body48 : Bytes := (List.range 48).map UInt8.ofNat

@[simp] theorem length_body48 : body48.length = 48 := by simp [body48]

/-- 48 bytes of body, compressed and encrypted. -/
theorem prepareStores_room_snappy : InputBuffer leastCaches 48 ∧
    ∀ st ∈ Primitives.library1024.prepareStores Primitives.handle1024 .rsaPKCS1v15
    .snappy ⟨body48, List.replicate 256 0, List.replicate 256 0⟩,
    st.buf = .dest ∧ bufOffset + headerLen + st.fin ≤ 512 ∨
      st.buf = .cache ∧ st.fin ≤ max (2 * body48.length) 256 ∧ st.fin ≤ 256 := by
  have hin : InputBuffer leastCaches 48 := ⟨116, 256, rfl, le_rfl⟩
  refine ⟨hin, prepareStores_room snappyBound_library1024 (c := leastCaches) ?_ ?_ ?_ ?_ ?_ _ _ _⟩
  · rw [length_body48]
    exact hin
  · rw [length_body48]
    rfl
  · rw [length_body48]
    rfl
  · rw [length_body48]
    exact List.length_replicate
  · rw [length_body48]
    exact List.length_replicate

end SendState

end KonsanNet
