import Mathlib.Tactic
import Mathlib.Data.Nat.Digits.Defs

/-!
# Packets and messages (`CXCommonPacketStructure.h`)

A packet is a 16-byte header followed by `dwDataLen` bytes of body; all structures are packed and
little-endian. `CXPacketHeader.ofBytes` reads the header structure out of the bytes copied into it.
`completeIn ps n` are the packets of the stream `ps` that lie within its first `n` bytes.
-/

namespace KonsanNet

def cxPacketHeaderFlag : Nat := 0x25F7

/-- `CX_MAX_CHACHE_SIZE` -/
def cxMaxCacheSize : Nat := 1048576

/-- `CX_BUF_SIZE` -/
def cxBufSize : Nat := 4096

/-- `sizeof(CXPacketHeader)` -/
def headerLen : Nat := 16

/-- `sizeof(CXMessageData) - 1` -/
def messageDataLen : Nat := 92

/-- The offset of `bodyData` in `CXMessageData`. -/
def bodyOffset : Nat := 52

/-! ### Bytes -/

/-- The characters of a text. -/
def ascii (s : String) : List UInt8 := s.toList.map fun c => UInt8.ofNat c.toNat

/-- The text of a `char` array. -/
def cText (sz : List UInt8) : List UInt8 := sz.takeWhile (· ≠ 0)

def leValue (bs : List UInt8) : Nat := Nat.ofDigits 256 (bs.map UInt8.toNat)

/-- The lowest `k` bytes of `n`. -/
def leBytes (k n : Nat) : List UInt8 := (List.range k).map fun i => UInt8.ofNat (n / 256 ^ i)

@[simp] theorem length_leBytes (k n : Nat) : (leBytes k n).length = k := by simp [leBytes]

theorem leBytes_succ (k n : Nat) : leBytes (k + 1) n = UInt8.ofNat n :: leBytes k (n / 256) := by
  simp only [leBytes, List.range_succ_eq_map, List.map_cons, List.map_map, pow_zero, Nat.div_one]
  congr 1
  refine List.map_congr_left fun i _ => ?_
  simp only [Function.comp_apply, Nat.succ_eq_add_one, Nat.pow_succ', Nat.div_div_eq_div_mul]

theorem leValue_leBytes {k n : Nat} (h : n < 256 ^ k) : leValue (leBytes k n) = n := by
  induction k generalizing n with
  | zero =>
    have : n = 0 := by simpa using h
    subst this
    rfl
  | succ k ih =>
    have hk : n / 256 < 256 ^ k := Nat.div_lt_of_lt_mul (by rwa [Nat.pow_succ'] at h)
    have := ih hk
    rw [leBytes_succ, leValue, List.map_cons, Nat.ofDigits_cons, ← leValue, this, UInt8.toNat_ofNat']
    exact Nat.mod_add_div n 256

theorem leValue_cons (b : UInt8) (l : List UInt8) : leValue (b :: l) = b.toNat + 256 * leValue l := by
  rw [leValue, List.map_cons, Nat.ofDigits_cons]
  rfl

theorem leBytes_leValue : ∀ l : List UInt8, leBytes l.length (leValue l) = l
  | [] => rfl
  | b :: l => by
    have hb := b.toNat_lt
    have hdiv : (b.toNat + 256 * leValue l) / 256 = leValue l := by omega
    have hmod : UInt8.ofNat (b.toNat + 256 * leValue l) = b := by
      refine UInt8.toNat_inj.mp ?_
      rw [UInt8.toNat_ofNat']
      omega
    rw [leValue_cons, List.length_cons, leBytes_succ, hdiv, hmod, leBytes_leValue l]

theorem leValue_lt (bs : List UInt8) : leValue bs < 256 ^ bs.length := by
  unfold leValue
  have h := Nat.ofDigits_lt_base_pow_length (b := 256) (l := bs.map UInt8.toNat) (by decide) (by
    intro x hx
    obtain ⟨b, -, rfl⟩ := List.mem_map.mp hx
    exact b.toNat_lt)
  rwa [List.length_map] at h

theorem leValue_take_four_lt (bs : List UInt8) : leValue (bs.take 4) < 2 ^ 32 := by
  refine lt_of_lt_of_le (leValue_lt _) ?_
  calc 256 ^ (bs.take 4).length ≤ 256 ^ 4 := Nat.pow_le_pow_right (by decide) (List.length_take_le ..)
    _ = 2 ^ 32 := by decide

/-- `memcpy(dst + off, src, src.length)`, as far as it stays inside `dst`. -/
def memcpy (dst : List UInt8) (off : Nat) (src : List UInt8) : List UInt8 :=
  dst.take off ++ src ++ dst.drop (off + src.length)

theorem length_memcpy {dst src : List UInt8} {off : Nat} (h : off + src.length ≤ dst.length) :
    (memcpy dst off src).length = dst.length := by
  simp [memcpy]
  omega

/-- Copying `src` behind a prefix `w` that is in place extends the prefix. -/
theorem take_memcpy {dst w : List UInt8} {off : Nat} (src : List UInt8) (hw : w.length = off)
    (h : dst.take off = w) :
    (memcpy dst off src).take (off + src.length) = w ++ src := by
  rw [memcpy, h]
  exact List.take_left' (by rw [List.length_append, hw])

/-- `dwCheckSum += (unsigned int)pData[i]` over the body. -/
def byteSum (body : List UInt8) : Nat := (body.map UInt8.toNat).sum % 2 ^ 32

/-! ### The header -/

structure CXPacketHeader where
  wFlag : Nat
  byCompressFlag : UInt8
  byEncryptFlag : UInt8
  dwDataLen : Nat
  dwCheckSum : Nat
  dwOrignDataLen : Nat
deriving DecidableEq, Repr

def CXPacketHeader.ofBytes (bs : List UInt8) : CXPacketHeader where
  wFlag := leValue (bs.take 2)
  byCompressFlag := bs.getD 2 0
  byEncryptFlag := bs.getD 3 0
  dwDataLen := leValue ((bs.drop 4).take 4)
  dwCheckSum := leValue ((bs.drop 8).take 4)
  dwOrignDataLen := leValue ((bs.drop 12).take 4)

def CXPacketHeader.toBytes (h : CXPacketHeader) : List UInt8 :=
  leBytes 2 h.wFlag ++ [h.byCompressFlag, h.byEncryptFlag] ++ leBytes 4 h.dwDataLen ++
    leBytes 4 h.dwCheckSum ++ leBytes 4 h.dwOrignDataLen

/-- The message object of the server, without its times; `bodyData` is the memory from that member to
the end of the object. `id` tells which `GetBuffer` call returned the object. -/
structure CXMessageData where
  id : Nat
  dwType : Nat
  dwDataLen : Nat
  iSequenceNum : Nat
  bodyData : List UInt8
deriving DecidableEq, Repr

/-! ### Plain packets -/

/-- A packet that is neither compressed nor encrypted and carries the right checksum. -/
structure PlainPacket where
  body : List UInt8
  dwOrignDataLen : UInt32
deriving DecidableEq

namespace PlainPacket

def header (p : PlainPacket) : List UInt8 :=
  leBytes 2 cxPacketHeaderFlag ++ [0, 0] ++ leBytes 4 p.body.length ++ leBytes 4 (byteSum p.body) ++
    leBytes 4 p.dwOrignDataLen.toNat

def encode (p : PlainPacket) : List UInt8 := p.header ++ p.body

def size (p : PlainPacket) : Nat := headerLen + p.body.length

@[simp] theorem length_header (p : PlainPacket) : p.header.length = headerLen := by
  simp [header, headerLen]

@[simp] theorem length_encode (p : PlainPacket) : p.encode.length = p.size := by
  simp [encode, size]

theorem ofBytes_header_of_lt (p : PlainPacket) (h : p.body.length < 2 ^ 32) :
    CXPacketHeader.ofBytes p.header =
      ⟨cxPacketHeaderFlag, 0, 0, p.body.length, byteSum p.body, p.dwOrignDataLen.toNat⟩ := by
  have hflag : leValue (leBytes 2 cxPacketHeaderFlag) = cxPacketHeaderFlag :=
    leValue_leBytes (by decide)
  have hlen : leValue (leBytes 4 p.body.length) = p.body.length := leValue_leBytes h
  have hsum : leValue (leBytes 4 (byteSum p.body)) = byteSum p.body :=
    leValue_leBytes (Nat.mod_lt _ (by norm_num))
  have horg : leValue (leBytes 4 p.dwOrignDataLen.toNat) = p.dwOrignDataLen.toNat :=
    leValue_leBytes p.dwOrignDataLen.toNat_lt
  simp [CXPacketHeader.ofBytes, header, List.drop_append, List.take_of_length_le,
    List.drop_of_length_le, hflag, hlen, hsum, horg]

theorem ofBytes_header (p : PlainPacket) (h : p.body.length ≤ cxMaxCacheSize) :
    CXPacketHeader.ofBytes p.header =
      ⟨cxPacketHeaderFlag, 0, 0, p.body.length, byteSum p.body, p.dwOrignDataLen.toNat⟩ :=
  p.ofBytes_header_of_lt (lt_of_le_of_lt h (by decide))

end PlainPacket

/-- The packets that lie within the first `n` bytes of the stream. -/
def completeIn : List PlainPacket → Nat → List PlainPacket
  | [], _ => []
  | p :: ps, n => if p.size ≤ n then p :: completeIn ps (n - p.size) else []

/-- `ps'` are the packets within `n` bytes as soon as they fit and the next one does not. -/
theorem completeIn_append {ps ps' rest : List PlainPacket} {n r : Nat} (hps : ps = ps' ++ rest)
    (hn : n = (ps'.map PlainPacket.size).sum + r) (hr : ∀ p ∈ rest.head?, r < p.size) :
    completeIn ps n = ps' := by
  induction ps' generalizing ps n with
  | nil =>
    cases rest with
    | nil => simp [hps, completeIn]
    | cons p rest =>
      have := hr p rfl
      simp [hps, completeIn, hn]
      omega
  | cons p ps' ih =>
    subst hps
    have hle : p.size ≤ n := by simp at hn; omega
    simp only [List.cons_append, completeIn, hle, if_true]
    rw [ih rfl (by simp at hn; omega)]

end KonsanNet
