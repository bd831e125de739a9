import Mathlib.Tactic
import Mathlib.Data.List.Basic
import KonsanNet.Rsa

/-!
# Encryption and compression of packets (`CXFastDataParserHandle`)

`PrepareData` compresses the plaintext and encrypts the result, `ParseData` goes back. Each stage reads one
of three buffers and writes another; when both stages run, the cache buffer lies between them.

The ciphers and the compressors are not part of the repository: they are the fields of `Primitives`, and
`Primitives.Lawful` and `Primitives.KeyPair` say what the code relies on. `ParseData` hands the public key
to the decryptor for the type `RSA_OAEP`, so the types that come back are the others
(`parseData_prepareData_iff`).
-/

namespace KonsanNet

abbrev Bytes := List UInt8

/-- `CXENCRYPT_TYPE`; `other` is a flag that no `case` names. -/
inductive EncryptType
  | none
  | rsaPKCS1v15
  | rsaOAEP
  | blowfish
  | other (byEncryptFlag : UInt8)
deriving DecidableEq, Repr

/-- `CXCOMPRESS_TYPE` -/
inductive CompressType
  | none
  | gzip
  | snappy
  | zlib
  | other (byCompressFlag : UInt8)
deriving DecidableEq, Repr

def EncryptType.Supported : EncryptType → Prop
  | .other _ => False
  | _ => True

def CompressType.Supported : CompressType → Prop
  | .other _ => False
  | _ => True

/-- What the code calls of Crypto++ and Snappy. `none` is an exception, an invalid coding or the result
`false`; `Rand` is what a block takes from the random pool. -/
structure Primitives (Pub Priv Rand : Type) where
  publicKey : String → Option Pub
  privateKey : String → Option Priv
  fixedMaxPlaintextLength : Pub → Nat
  ciphertextLength : Pub → Nat → Nat
  encrypt : Pub → Rand → Bytes → Bytes
  fixedCiphertextLength : Priv → Nat
  maxPlaintextLength : Priv → Nat → Nat
  decrypt : Priv → Bytes → Option Bytes
  eaxEncrypt : (key iv input : Bytes) → Option Bytes
  eaxDecrypt : (key iv input : Bytes) → Option Bytes
  zlibCompress : Bytes → Bytes
  zlibUncompress : Bytes → Option Bytes
  gzipCompress : Bytes → Bytes
  gzipUncompress : Bytes → Option Bytes
  rawCompress : Bytes → Bytes
  getUncompressedLength : Bytes → Option Nat
  rawUncompress : Bytes → Option Bytes

/-- `pbSrcBuf`, `pbDestBuf` and `pCacheBuf`, each as long as the `DWORD` that comes with it. -/
structure Buffers where
  src : Bytes
  dest : Bytes
  cache : Bytes
deriving DecidableEq, Repr

inductive BufName
  | src
  | dest
  | cache
deriving DecidableEq, Repr

namespace Buffers

def get (b : Buffers) : BufName → Bytes
  | .src => b.src
  | .dest => b.dest
  | .cache => b.cache

/-- `data` is stored from the start of the buffer on. -/
def put (b : Buffers) (data : Bytes) : BufName → Buffers
  | .src => { b with src := data ++ b.src.drop data.length }
  | .dest => { b with dest := data ++ b.dest.drop data.length }
  | .cache => { b with cache := data ++ b.cache.drop data.length }

end Buffers

/-- The local variables of `PrepareData` and `ParseData`. -/
structure ParserLocals where
  pszInputBuf : BufName
  dwInputDataLen : Nat
  pszOutputBuf : BufName
  dwOutputBufLen : Nat
deriving DecidableEq, Repr

def Buffers.input (b : Buffers) (w : ParserLocals) : Bytes :=
  (b.get w.pszInputBuf).take w.dwInputDataLen

/-- An `ArraySink` of `dwOutputBufLen` bytes: what does not fit is dropped, and `TotalPutLength` counts what is
copied. -/
def arraySink (dwOutputBufLen : Nat) (data : Bytes) : Bytes × Nat :=
  (data.take dwOutputBufLen, (data.take dwOutputBufLen).length)

structure CXFastDataParserHandle where
  m_strPubKey : String
  m_strPrivKey : String
  m_byKey : Bytes
  m_byIv : Bytes

namespace Primitives

variable {Pub Priv Rand : Type} (p : Primitives Pub Priv Rand)

/-! ### The helpers

A helper returns what it has stored at the start of the output buffer, with the new `dwOutputBufLen`. -/

/-- The rounds of `RSAEncryptData` on what is left of the input and of the room. A round that goes on stores
a byte at least, so there is no room any more when as many rounds as bytes are over. -/
def encryptRounds (k : Pub) : (rounds : Nat) → (Nat → Rand) → (input : Bytes) → (room : Nat) → Except Int Bytes
  | _, _, [], _ => .ok []
  | 0, _, _ :: _, _ => .error (-2)
  | rounds + 1, rand, a :: input, room =>
    let chunk := (a :: input).take (p.fixedMaxPlaintextLength k)
    let iOutputLen := p.ciphertextLength k chunk.length
    if room < iOutputLen then .error (-2)
    else (encryptRounds k rounds (fun i => rand (i + 1)) ((a :: input).drop (p.fixedMaxPlaintextLength k))
      (room - iOutputLen)).map fun rest => p.encrypt k (rand 0) chunk ++ rest

/-- `bOAEP` is not read. -/
def rsaEncryptData (strPubKey : String) (rand : Nat → Rand) (input : Bytes) (dwOutputBufLen : Nat) :
    Except Int (Bytes × Nat) :=
  match p.publicKey strPubKey with
  | none => .error (-3)
  | some k => (p.encryptRounds k dwOutputBufLen rand input dwOutputBufLen).map fun out => (out, out.length)

/-- The rounds of `RSADecryptData`; each takes a byte of the input at least. -/
def decryptRounds (k : Priv) : (rounds : Nat) → (input : Bytes) → (room : Nat) → Except Int Bytes
  | _, [], _ => .ok []
  | 0, _ :: _, _ => .error (-2)
  | rounds + 1, a :: input, room =>
    let block := (a :: input).take (p.fixedCiphertextLength k)
    let iOutputLen := p.maxPlaintextLength k block.length
    if room < iOutputLen then .error (-2)
    else match p.decrypt k block with
      | none => .error (-4)
      | some message =>
        if iOutputLen < message.length then .error (-5)
        else (decryptRounds k rounds ((a :: input).drop (p.fixedCiphertextLength k))
          (room - message.length)).map fun rest => message ++ rest

def rsaDecryptData (strPrivKey : String) (input : Bytes) (dwOutputBufLen : Nat) : Except Int (Bytes × Nat) :=
  match p.privateKey strPrivKey with
  | none => .error (-3)
  | some k => (p.decryptRounds k input.length input dwOutputBufLen).map fun out => (out, out.length)

/-- `BlowfishEncryptData` and `BlowfishDecryptData` differ in the filter. -/
def blowfishData (filter : Bytes → Bytes → Bytes → Option Bytes) (key iv input : Bytes) (dwOutputBufLen : Nat) :
    Except Int (Bytes × Nat) :=
  if key = [] ∨ iv = [] ∨ input = [] ∨ dwOutputBufLen = 0 then .error (-1)
  else match filter key iv input with
    | none => .error (-2)
    | some data => .ok (arraySink dwOutputBufLen data)

def blowfishEncryptData := blowfishData p.eaxEncrypt
def blowfishDecryptData := blowfishData p.eaxDecrypt

/-- `Put`, `MessageEnd`, and a `Get` of `avail` bytes. -/
def compressData (compress : Bytes → Bytes) (input : Bytes) (dwOutputBufLen : Nat) : Option (Bytes × Nat) :=
  let avail := (compress input).length
  if 0 < avail ∧ avail < dwOutputBufLen then
    let got := (compress input).take dwOutputBufLen
    if got.length < avail then none else some (got, got.length)
  else none

def zlibCompressData := compressData p.zlibCompress
def gzipCompressData := compressData p.gzipCompress

def uncompressData (uncompress : Bytes → Option Bytes) (input : Bytes) (dwOutputBufLen : Nat) :
    Option (Bytes × Nat) :=
  (uncompress input).bind fun data =>
    if (arraySink dwOutputBufLen data).2 = 0 then none else some (arraySink dwOutputBufLen data)

def zlibUncompressData := uncompressData p.zlibUncompress
def gzipUncompressData := uncompressData p.gzipUncompress

/-! ### The stages -/

/-- The `switch` on `byCompressedFlag` in `PrepareData`. -/
def compressStage (comp : CompressType) (input : Bytes) (dwOutputBufLen : Nat) : Option (Bytes × Nat) :=
  match comp with
  | .gzip => p.gzipCompressData input dwOutputBufLen
  | .snappy => some (p.rawCompress input, (p.rawCompress input).length % 2 ^ 32)
  | .zlib => p.zlibCompressData input dwOutputBufLen
  | _ => some ([], 0)

def uncompressStage (comp : CompressType) (input : Bytes) (dwOutputBufLen : Nat) : Option (Bytes × Nat) :=
  match comp with
  | .gzip => p.gzipUncompressData input dwOutputBufLen
  | .snappy =>
    (p.getUncompressedLength input).bind fun ulength =>
      if dwOutputBufLen < ulength then none
      else (p.rawUncompress input).map fun data => (data, ulength % 2 ^ 32)
  | .zlib => p.zlibUncompressData input dwOutputBufLen
  | _ => some ([], 0)

variable (h : CXFastDataParserHandle)

/-- The `switch` on `byEncryptedFlag` in `PrepareData`: a result other than 0 is `none`. -/
def encryptStage (rand : Nat → Rand) (enc : EncryptType) (input : Bytes) (dwOutputBufLen : Nat) :
    Option (Bytes × Nat) :=
  match enc with
  | .rsaPKCS1v15 => (p.rsaEncryptData h.m_strPubKey rand input dwOutputBufLen).toOption
  | .rsaOAEP => (p.rsaEncryptData h.m_strPubKey rand input dwOutputBufLen).toOption
  | .blowfish => (p.blowfishEncryptData h.m_byKey h.m_byIv input dwOutputBufLen).toOption
  | _ => some ([], 0)

def decryptStage (enc : EncryptType) (input : Bytes) (dwOutputBufLen : Nat) : Option (Bytes × Nat) :=
  match enc with
  | .rsaPKCS1v15 => (p.rsaDecryptData h.m_strPrivKey input dwOutputBufLen).toOption
  -- the public key, where `rsaPKCS1v15` has the private one
  | .rsaOAEP => (p.rsaDecryptData h.m_strPubKey input dwOutputBufLen).toOption
  | .blowfish => (p.blowfishDecryptData h.m_byKey h.m_byIv input dwOutputBufLen).toOption
  | _ => some ([], 0)

/-! ### `ParseData`, `PrepareData` -/

/-- A stage reads `pszInputBuf` and stores to `pszOutputBuf`. -/
def runStage (stage : Bytes → Nat → Option (Bytes × Nat)) (r : Buffers × ParserLocals) :
    Option (Buffers × ParserLocals) :=
  (stage (r.1.input r.2) r.2.dwOutputBufLen).map fun out =>
    (r.1.put out.1 r.2.pszOutputBuf, { r.2 with dwOutputBufLen := out.2 })

def initLocals (b : Buffers) : ParserLocals := ⟨.src, b.src.length, .dest, b.dest.length⟩

/-- The first stage of two stores to the cache buffer. -/
def intoCache (both : Prop) [Decidable both] (r : Buffers × ParserLocals) : Buffers × ParserLocals :=
  if both then (r.1, { r.2 with pszOutputBuf := .cache, dwOutputBufLen := r.1.cache.length }) else r

/-- The second stage of two reads the cache buffer. -/
def fromCache (both : Prop) [Decidable both] (r : Buffers × ParserLocals) : Buffers × ParserLocals :=
  if both then (r.1, ⟨.cache, r.2.dwOutputBufLen, .dest, r.1.dest.length⟩) else r

/-- The result with `dwReturnDataLen`; `none` is `false`. -/
def parseData (enc : EncryptType) (comp : CompressType) (b : Buffers) : Option (Buffers × Nat) :=
  let decrypted :=
    if enc ≠ .none then runStage (p.decryptStage h enc) (intoCache (comp ≠ .none) (b, initLocals b))
    else some (b, initLocals b)
  let parsed := decrypted.bind fun r =>
    if comp ≠ .none then runStage (p.uncompressStage comp) (fromCache (enc ≠ .none) r) else some r
  parsed.map fun r => (r.1, r.2.dwOutputBufLen)

def prepareData (rand : Nat → Rand) (enc : EncryptType) (comp : CompressType) (b : Buffers) :
    Option (Buffers × Nat) :=
  let compressed :=
    if comp ≠ .none then
      if b.cache.length < b.src.length then none
      else runStage (p.compressStage comp) (intoCache (enc ≠ .none) (b, initLocals b))
    else some (b, initLocals b)
  let prepared := compressed.bind fun r =>
    if enc ≠ .none then
      let r := fromCache (comp ≠ .none) r
      if r.2.dwOutputBufLen < r.2.dwInputDataLen then none
      else runStage (p.encryptStage h rand enc) r
    else some r
  prepared.map fun r => (r.1, r.2.dwOutputBufLen)

end Primitives

/-! ### What the code relies on -/

namespace Primitives

variable {Pub Priv Rand : Type}

/-- `publicKey_privateKey`: the encoding of a public key is not one of a private key. The tag of EAX has
the length of a block of Blowfish. -/
structure Lawful (p : Primitives Pub Priv Rand) : Prop where
  publicKey_privateKey : ∀ s k, p.publicKey s = some k → p.privateKey s = none
  eaxEncrypt_length : ∀ key iv m c, p.eaxEncrypt key iv m = some c → c.length = m.length + 8
  eaxDecrypt_eaxEncrypt : ∀ key iv m c, p.eaxEncrypt key iv m = some c → p.eaxDecrypt key iv c = some m
  zlibUncompress_zlibCompress : ∀ m, p.zlibUncompress (p.zlibCompress m) = some m
  gzipUncompress_gzipCompress : ∀ m, p.gzipUncompress (p.gzipCompress m) = some m
  rawUncompress_rawCompress : ∀ m, p.rawUncompress (p.rawCompress m) = some m
  getUncompressedLength_rawCompress : ∀ m, p.getUncompressedLength (p.rawCompress m) = some m.length

/-- A public key and the private key that belongs to it. -/
structure KeyPair (p : Primitives Pub Priv Rand) (k : Pub) (d : Priv) : Prop where
  fixedCiphertextLength_pos : 0 < p.fixedCiphertextLength d
  ciphertextLength : ∀ n ≤ p.fixedMaxPlaintextLength k, p.ciphertextLength k n = p.fixedCiphertextLength d
  maxPlaintextLength : p.maxPlaintextLength d (p.fixedCiphertextLength d) = p.fixedMaxPlaintextLength k
  encrypt_length : ∀ r m, m.length ≤ p.fixedMaxPlaintextLength k →
    (p.encrypt k r m).length = p.ciphertextLength k m.length
  decrypt_encrypt : ∀ r m, m.length ≤ p.fixedMaxPlaintextLength k → p.decrypt d (p.encrypt k r m) = some m

/-- The keys of the handle are loaded. -/
structure Loaded (p : Primitives Pub Priv Rand) (h : CXFastDataParserHandle) (k : Pub) (d : Priv) : Prop where
  publicKey : p.publicKey h.m_strPubKey = some k
  privateKey : p.privateKey h.m_strPrivKey = some d
  pair : p.KeyPair k d
  key : h.m_byKey ≠ []
  iv : h.m_byIv ≠ []

variable (p : Primitives Pub Priv Rand)

/-- What the compression stage makes of the plaintext. -/
def compressed : CompressType → Bytes → Bytes
  | .gzip, m => p.gzipCompress m
  | .snappy, m => p.rawCompress m
  | .zlib, m => p.zlibCompress m
  | _, m => m

/-- The room that decrypting `n` bytes takes: a block is given the room of the longest one. -/
def decryptRoom (k : Pub) : EncryptType → Nat → Nat
  | .blowfish, n => n
  | _, n => (n + p.fixedMaxPlaintextLength k - 1) / p.fixedMaxPlaintextLength k * p.fixedMaxPlaintextLength k

/-- The buffers of `PrepareData` hold what its stages store. -/
structure PrepareRoom (h : CXFastDataParserHandle) (enc : EncryptType) (comp : CompressType) (b : Buffers) :
    Prop where
  dest_lt : b.dest.length < 2 ^ 32
  cache_lt : b.cache.length < 2 ^ 32
  compressed : comp ≠ .none →
    (p.compressed comp b.src).length ≤ if enc = .none then b.dest.length else b.cache.length
  encrypted : enc = .blowfish → ∀ c, p.eaxEncrypt h.m_byKey h.m_byIv (p.compressed comp b.src) = some c →
    c.length ≤ b.dest.length

/-- The buffers of `ParseData` hold what its stages store when they give back the plaintext `x`. -/
structure ParseRoom (k : Pub) (enc : EncryptType) (comp : CompressType) (x dest cache : Bytes) : Prop where
  dest_lt : dest.length < 2 ^ 32
  cache_lt : cache.length < 2 ^ 32
  plain : x.length ≤ dest.length
  decrypted : enc ≠ .none → p.decryptRoom k enc (p.compressed comp x).length ≤
    if comp = .none then dest.length else cache.length

/-! ### RSA, block by block -/

variable {p} {k : Pub} {d : Priv}

theorem blockRoom_le {f n room : Nat} (hn : n ≠ 0) (h : (n + f - 1) / f * f ≤ room) :
    f ≤ room ∧ (n - f + f - 1) / f * f ≤ room - min f n := by
  rcases Nat.eq_zero_or_pos f with rfl | hf
  · simp
  · have hle : f ≤ (n + f - 1) / f * f :=
      Nat.le_mul_of_pos_left f (Nat.div_pos (by omega) hf)
    refine ⟨le_trans hle h, ?_⟩
    rcases Nat.lt_or_ge f n with hlt | hge
    · have hsub : n + f - 1 = (n - f + f - 1) + f := by omega
      rw [hsub, Nat.add_div_right _ hf, Nat.succ_mul] at h
      rw [Nat.min_eq_left hlt.le]
      omega
    · have hzero : (n - f + f - 1) / f = 0 := Nat.div_eq_of_lt (by omega)
      rw [hzero]
      omega

namespace KeyPair

/-- A round of `RSADecryptData` on a block that `RSAEncryptData` made of `m`. -/
theorem decryptRounds_append (hp : p.KeyPair k d) {r : Rand} {m rest : Bytes} {rounds room : Nat}
    (hm : m.length ≤ p.fixedMaxPlaintextLength k) :
    p.decryptRounds d (rounds + 1) (p.encrypt k r m ++ rest) room =
      if room < p.fixedMaxPlaintextLength k then .error (-2)
      else (p.decryptRounds d rounds rest (room - m.length)).map fun out => m ++ out := by
  have hlen : (p.encrypt k r m).length = p.fixedCiphertextLength d := by
    rw [hp.encrypt_length r m hm, hp.ciphertextLength _ hm]
  have htake : (p.encrypt k r m ++ rest).take (p.fixedCiphertextLength d) = p.encrypt k r m := by
    rw [← hlen, List.take_left]
  have hdrop : (p.encrypt k r m ++ rest).drop (p.fixedCiphertextLength d) = rest := by
    rw [← hlen, List.drop_left]
  obtain ⟨a, l, hl⟩ : ∃ a l, p.encrypt k r m ++ rest = a :: l := by
    cases hc : p.encrypt k r m with
    | nil =>
      rw [hc] at hlen
      exact absurd hp.fixedCiphertextLength_pos (by rw [← hlen]; exact Nat.lt_irrefl 0)
    | cons a l => exact ⟨a, l ++ rest, rfl⟩
  rw [hl] at htake hdrop ⊢
  rw [decryptRounds, htake, hdrop, hlen, hp.maxPlaintextLength, hp.decrypt_encrypt r m hm]
  simp only [if_neg (Nat.not_lt.mpr hm)]

/-- The induction is on the rounds of the encryption; each makes a round of the decryption. -/
theorem decryptRounds_encryptRounds (hp : p.KeyPair k d) :
    ∀ {rounds : Nat} {rand : Nat → Rand} {m c : Bytes} {room rounds' room' : Nat},
      p.encryptRounds k rounds rand m room = .ok c → c.length ≤ rounds' →
      (m.length + p.fixedMaxPlaintextLength k - 1) / p.fixedMaxPlaintextLength k *
        p.fixedMaxPlaintextLength k ≤ room' →
      p.decryptRounds d rounds' c room' = .ok m := by
  intro rounds
  induction rounds with
  | zero =>
    intro rand m c room rounds' room' henc _ _
    cases m with
    | nil =>
      cases henc
      cases rounds' <;> rfl
    | cons a m => cases henc
  | succ rounds ih =>
    intro rand m c room rounds' room' henc hrounds hroom
    cases m with
    | nil =>
      cases henc
      cases rounds' <;> rfl
    | cons a m =>
      obtain ⟨hfixed, hroom⟩ := blockRoom_le (Nat.succ_ne_zero m.length : (a :: m).length ≠ 0) hroom
      rw [encryptRounds] at henc
      generalize hchunk : (a :: m).take (p.fixedMaxPlaintextLength k) = chunk at henc
      have hlen : chunk.length = min (p.fixedMaxPlaintextLength k) (a :: m).length := by
        rw [← hchunk, List.length_take]
      have hle : chunk.length ≤ p.fixedMaxPlaintextLength k := by omega
      cases hrest : p.encryptRounds k rounds (fun i => rand (i + 1))
          ((a :: m).drop (p.fixedMaxPlaintextLength k)) (room - p.ciphertextLength k chunk.length) with
      | error e =>
        rw [hrest] at henc
        split at henc <;> cases henc
      | ok rest =>
        rw [hrest] at henc
        split at henc
        · cases henc
        · cases henc
          have hblock := hp.fixedCiphertextLength_pos
          rw [List.length_append, hp.encrypt_length _ _ hle, hp.ciphertextLength _ hle] at hrounds
          obtain ⟨n, rfl⟩ : ∃ n, rounds' = n + 1 := ⟨rounds' - 1, by omega⟩
          rw [hp.decryptRounds_append hle, if_neg (Nat.not_lt.mpr hfixed),
            ih hrest (by omega) (by rw [List.length_drop, hlen]; exact hroom)]
          show Except.ok (chunk ++ _) = _
          rw [← hchunk, List.take_append_drop]

end KeyPair

/-! ### The stages -/

theorem toOption_eq_some {ε α : Type} {e : Except ε α} {a : α} : e.toOption = some a ↔ e = .ok a := by
  cases e <;> simp [Except.toOption]

theorem arraySink_eq {n : Nat} {data : Bytes} (h : data.length ≤ n) : arraySink n data = (data, data.length) := by
  unfold arraySink
  rw [List.take_of_length_le h]

theorem compressData_eq_some {compress : Bytes → Bytes} {m : Bytes} {n : Nat} {out : Bytes × Nat}
    (h : compressData compress m n = some out) :
    out = (compress m, (compress m).length) ∧ (compress m).length ≤ n := by
  simp only [compressData] at h
  by_cases hlt : 0 < (compress m).length ∧ (compress m).length < n
  · rw [if_pos hlt, List.take_of_length_le hlt.2.le, if_neg (Nat.lt_irrefl _)] at h
    cases h
    exact ⟨rfl, hlt.2.le⟩
  · rw [if_neg hlt] at h
    cases h

theorem uncompressData_eq {uncompress : Bytes → Option Bytes} {c m : Bytes} {n : Nat}
    (h : uncompress c = some m) (hm : m ≠ []) (hle : m.length ≤ n) :
    uncompressData uncompress c n = some (m, m.length) := by
  unfold uncompressData
  rw [h]
  show (if (arraySink n m).2 = 0 then none else some (arraySink n m)) = _
  rw [arraySink_eq hle]
  exact if_neg (by simpa using hm)

theorem compressStage_eq_some {comp : CompressType} {m : Bytes} {n : Nat} {out : Bytes × Nat}
    (hcomp : comp.Supported) (hne : comp ≠ .none) (h : p.compressStage comp m n = some out)
    (hle : (p.compressed comp m).length ≤ n) (hn : n < 2 ^ 32) :
    out = (p.compressed comp m, (p.compressed comp m).length) := by
  cases comp with
  | none => exact absurd rfl hne
  | gzip => exact (compressData_eq_some h).1
  | snappy =>
    cases h
    show (p.compressed .snappy m, (p.compressed .snappy m).length % 2 ^ 32) = _
    rw [Nat.mod_eq_of_lt (lt_of_le_of_lt hle hn)]
  | zlib => exact (compressData_eq_some h).1
  | other f => exact hcomp.elim

theorem Lawful.uncompressStage_compressed (hl : p.Lawful) {comp : CompressType} {m : Bytes} {n : Nat}
    (hcomp : comp.Supported) (hne : comp ≠ .none) (hm : m ≠ []) (hle : m.length ≤ n) (hn : n < 2 ^ 32) :
    p.uncompressStage comp (p.compressed comp m) n = some (m, m.length) := by
  cases comp with
  | none => exact absurd rfl hne
  | gzip => exact uncompressData_eq (hl.gzipUncompress_gzipCompress m) hm hle
  | snappy =>
    show ((p.getUncompressedLength (p.rawCompress m)).bind _) = _
    rw [hl.getUncompressedLength_rawCompress]
    show (if n < m.length then none else (p.rawUncompress (p.rawCompress m)).map _) = _
    rw [hl.rawUncompress_rawCompress, if_neg (Nat.not_lt.mpr hle)]
    show some (m, m.length % _) = _
    rw [Nat.mod_eq_of_lt (lt_of_le_of_lt hle hn)]
  | zlib => exact uncompressData_eq (hl.zlibUncompress_zlibCompress m) hm hle
  | other f => exact hcomp.elim

variable {h : CXFastDataParserHandle}

theorem rsaEncryptData_eq_ok {key : String} {rand : Nat → Rand} {m : Bytes} {n : Nat} {out : Bytes × Nat}
    (h : p.rsaEncryptData key rand m n = .ok out) :
    ∃ k c, p.publicKey key = some k ∧ p.encryptRounds k n rand m n = .ok c ∧ out = (c, c.length) := by
  unfold rsaEncryptData at h
  cases hk : p.publicKey key with
  | none =>
    rw [hk] at h
    cases h
  | some k =>
    rw [hk] at h
    cases hc : p.encryptRounds k n rand m n with
    | error e =>
      simp only [hc] at h
      cases h
    | ok c =>
      simp only [hc] at h
      cases h
      exact ⟨k, c, rfl, hc, rfl⟩

theorem blowfishData_eq_ok {filter : Bytes → Bytes → Bytes → Option Bytes} {key iv m : Bytes} {n : Nat}
    {out : Bytes × Nat} (h : blowfishData filter key iv m n = .ok out) :
    m ≠ [] ∧ ∃ c, filter key iv m = some c ∧ out = arraySink n c := by
  unfold blowfishData at h
  split at h
  · cases h
  next hne =>
    cases hc : filter key iv m with
    | none =>
      rw [hc] at h
      cases h
    | some c =>
      rw [hc] at h
      cases h
      exact ⟨fun hm => hne (Or.inr (Or.inr (Or.inl hm))), c, rfl, rfl⟩

theorem encryptStage_length {rand : Nat → Rand} {enc : EncryptType} {m : Bytes} {n : Nat} {out : Bytes × Nat}
    (henc : p.encryptStage h rand enc m n = some out)
    (hfit : enc = .blowfish → ∀ c, p.eaxEncrypt h.m_byKey h.m_byIv m = some c → c.length ≤ n) :
    out.2 = out.1.length := by
  cases enc with
  | none =>
    cases henc
    rfl
  | rsaPKCS1v15 =>
    obtain ⟨_, _, _, _, rfl⟩ := rsaEncryptData_eq_ok (toOption_eq_some.mp henc)
    rfl
  | rsaOAEP =>
    obtain ⟨_, _, _, _, rfl⟩ := rsaEncryptData_eq_ok (toOption_eq_some.mp henc)
    rfl
  | blowfish =>
    obtain ⟨_, c, hc, rfl⟩ := blowfishData_eq_ok (toOption_eq_some.mp henc)
    rw [arraySink_eq (hfit rfl c hc)]
  | other f =>
    cases henc
    rfl

theorem Loaded.decryptStage_encryptStage (hk : p.Loaded h k d) (hl : p.Lawful) {rand : Nat → Rand}
    {enc : EncryptType} {m : Bytes} {n n' : Nat} {out : Bytes × Nat} (hsup : enc.Supported) (hne : enc ≠ .none)
    (hoaep : enc ≠ .rsaOAEP) (henc : p.encryptStage h rand enc m n = some out)
    (hfit : enc = .blowfish → ∀ c, p.eaxEncrypt h.m_byKey h.m_byIv m = some c → c.length ≤ n)
    (hroom : p.decryptRoom k enc m.length ≤ n') :
    p.decryptStage h enc out.1 n' = some (m, m.length) := by
  cases enc with
  | none => exact absurd rfl hne
  | rsaPKCS1v15 =>
    obtain ⟨k', c, hk', hc, rfl⟩ := rsaEncryptData_eq_ok (toOption_eq_some.mp henc)
    obtain rfl : k = k' := Option.some.inj (hk.publicKey.symm.trans hk')
    show (p.rsaDecryptData h.m_strPrivKey c n').toOption = _
    unfold rsaDecryptData
    rw [hk.privateKey]
    show (Except.map _ (p.decryptRounds d c.length c n')).toOption = _
    rw [hk.pair.decryptRounds_encryptRounds hc le_rfl hroom]
    rfl
  | rsaOAEP => exact absurd rfl hoaep
  | blowfish =>
    obtain ⟨hm, c, hc, rfl⟩ := blowfishData_eq_ok (toOption_eq_some.mp henc)
    rw [arraySink_eq (hfit rfl c hc)]
    show (blowfishData p.eaxDecrypt h.m_byKey h.m_byIv c n').toOption = _
    have hc0 : c ≠ [] := by
      intro hnil
      have hlen := hl.eaxEncrypt_length _ _ _ _ hc
      rw [hnil, List.length_nil] at hlen
      omega
    have hm0 : 0 < m.length := List.length_pos_iff.mpr hm
    have hn0 : n' ≠ 0 := (lt_of_lt_of_le hm0 hroom).ne'
    unfold blowfishData
    rw [if_neg (by simp only [hk.key, hk.iv, hc0, hn0, or_self, not_false_eq_true]),
      hl.eaxDecrypt_eaxEncrypt _ _ _ _ hc]
    show (Except.ok (arraySink n' m)).toOption = _
    rw [arraySink_eq hroom]
    rfl
  | other f => exact hsup.elim

/-- The type `RSA_OAEP` encrypts, and does not decrypt, since the public key is not a private one. -/
theorem Lawful.decryptStage_rsaOAEP (hl : p.Lawful) {rand : Nat → Rand} {m c : Bytes} {n n' : Nat}
    {out : Bytes × Nat} (henc : p.encryptStage h rand .rsaOAEP m n = some out) :
    p.decryptStage h .rsaOAEP c n' = none := by
  obtain ⟨k', _, hk', _⟩ := rsaEncryptData_eq_ok (toOption_eq_some.mp henc)
  show (p.rsaDecryptData h.m_strPubKey c n').toOption = none
  unfold rsaDecryptData
  rw [hl.publicKey_privateKey _ _ hk']
  rfl

/-! ### The two functions -/

theorem input_initLocals (b : Buffers) : b.input (initLocals b) = b.src :=
  List.take_length

theorem take_put_dest (b : Buffers) (data : Bytes) : (b.put data .dest).dest.take data.length = data :=
  List.take_left

theorem runStage_eq_some {stage : Bytes → Nat → Option (Bytes × Nat)} {r r' : Buffers × ParserLocals}
    (h : runStage stage r = some r') :
    ∃ out, stage (r.1.input r.2) r.2.dwOutputBufLen = some out ∧
      r' = (r.1.put out.1 r.2.pszOutputBuf, { r.2 with dwOutputBufLen := out.2 }) := by
  obtain ⟨out, hout, rfl⟩ := Option.map_eq_some_iff.mp h
  exact ⟨out, hout, rfl⟩

section Prepare

variable {rand : Nat → Rand} {enc : EncryptType} {comp : CompressType} {b b' : Buffers} {n : Nat}

theorem prepareData_plain (henc : enc ≠ .none) : p.prepareData h rand enc .none b =
    if b.dest.length < b.src.length then none
    else (p.encryptStage h rand enc b.src b.dest.length).map fun out => (b.put out.1 .dest, out.2) := by
  unfold prepareData
  simp only [ne_eq, not_true_eq_false, if_false, Option.bind_some, henc, not_false_eq_true, if_true, fromCache]
  show Option.map _ (if b.dest.length < b.src.length then none else runStage _ _) = _
  split
  · rfl
  · show Option.map _ (Option.map _ (p.encryptStage h rand enc (b.input (initLocals b)) b.dest.length)) = _
    rw [input_initLocals, Option.map_map]
    rfl

/-- Without encryption the output is what the compression stage stored. -/
theorem prepareData_none (hsup : comp.Supported) (hcomp : comp ≠ .none)
    (hroom : p.PrepareRoom h .none comp b) (hprep : p.prepareData h rand .none comp b = some (b', n)) :
    b'.dest.take n = p.compressed comp b.src := by
  obtain ⟨r, hr, hres⟩ := Option.map_eq_some_iff.mp hprep
  obtain ⟨r₁, hr₁, hr⟩ := Option.bind_eq_some_iff.mp hr
  cases hr
  cases hres
  rw [if_pos hcomp] at hr₁
  by_cases hlen : b.cache.length < b.src.length
  · rw [if_pos hlen] at hr₁
    cases hr₁
  · rw [if_neg hlen] at hr₁
    obtain ⟨out, hout, rfl⟩ := runStage_eq_some hr₁
    rw [intoCache, if_neg (not_not_intro rfl)] at hout ⊢
    change p.compressStage comp (b.input (initLocals b)) b.dest.length = some out at hout
    rw [input_initLocals] at hout
    rw [compressStage_eq_some hsup hcomp hout (hroom.compressed hcomp) hroom.dest_lt]
    exact take_put_dest b _

/-- The encryption stage gets what the compression stage makes of the plaintext. -/
theorem prepareData_encrypted (hsup : comp.Supported) (henc : enc ≠ .none)
    (hroom : p.PrepareRoom h enc comp b) (hprep : p.prepareData h rand enc comp b = some (b', n)) :
    ∃ out, p.encryptStage h rand enc (p.compressed comp b.src) b.dest.length = some out ∧
      b'.dest.take n = out.1 := by
  obtain ⟨r, hr, hres⟩ := Option.map_eq_some_iff.mp hprep
  cases hres
  obtain ⟨r₁, hr₁, hr⟩ := Option.bind_eq_some_iff.mp hr
  rw [if_pos henc] at hr
  -- what the encryption stage reads and where it stores
  obtain ⟨b₁, hb₁, hin, hout, hdest⟩ : ∃ b₁, (fromCache (comp ≠ .none) r₁).1 = b₁ ∧
      b₁.input (fromCache (comp ≠ .none) r₁).2 = p.compressed comp b.src ∧
      (fromCache (comp ≠ .none) r₁).2.pszOutputBuf = .dest ∧
      (fromCache (comp ≠ .none) r₁).2.dwOutputBufLen = b.dest.length := by
    by_cases hcomp : comp = .none
    · rw [if_neg (not_not_intro hcomp)] at hr₁
      cases hr₁
      rw [fromCache, if_neg (not_not_intro hcomp)]
      refine ⟨b, rfl, ?_, rfl, rfl⟩
      rw [input_initLocals, hcomp]
      rfl
    · rw [if_pos hcomp] at hr₁
      by_cases hlen : b.cache.length < b.src.length
      · rw [if_pos hlen] at hr₁
        cases hr₁
      · rw [if_neg hlen] at hr₁
        obtain ⟨z, hz, rfl⟩ := runStage_eq_some hr₁
        rw [intoCache, if_pos henc] at hz ⊢
        change p.compressStage comp (b.input (initLocals b)) b.cache.length = some z at hz
        have hfit := hroom.compressed hcomp
        rw [if_neg henc] at hfit
        rw [input_initLocals] at hz
        rw [compressStage_eq_some hsup hcomp hz hfit hroom.cache_lt, fromCache, if_pos hcomp]
        exact ⟨_, rfl, List.take_left, rfl, rfl⟩
  by_cases hlt : (fromCache (comp ≠ .none) r₁).2.dwOutputBufLen < (fromCache (comp ≠ .none) r₁).2.dwInputDataLen
  · rw [if_pos hlt] at hr
    cases hr
  · rw [if_neg hlt] at hr
    obtain ⟨out, hstage, rfl⟩ := runStage_eq_some hr
    rw [hb₁, hin, hdest] at hstage
    refine ⟨out, hstage, ?_⟩
    rw [hb₁, hout]
    show (b₁.put out.1 .dest).dest.take out.2 = out.1
    rw [encryptStage_length hstage hroom.encrypted]
    exact take_put_dest b₁ _

end Prepare

section Parse

variable {enc : EncryptType} {comp : CompressType} {b : Buffers} {x z : Bytes}

theorem parseData_none (hcomp : comp ≠ .none)
    (h₁ : p.uncompressStage comp b.src b.dest.length = some (x, x.length)) :
    p.parseData h .none comp b = some (b.put x .dest, x.length) := by
  unfold parseData
  rw [if_neg (not_not_intro rfl)]
  show ((if comp ≠ .none then _ else _ : Option (Buffers × ParserLocals)).map _) = _
  rw [if_pos hcomp, fromCache, if_neg (not_not_intro rfl)]
  show ((Option.map _ (p.uncompressStage comp (b.input (initLocals b)) b.dest.length)).map _) = _
  rw [input_initLocals, h₁]
  rfl

theorem parseData_plain (henc : enc ≠ .none) : p.parseData h enc .none b =
    (p.decryptStage h enc b.src b.dest.length).map fun out => (b.put out.1 .dest, out.2) := by
  unfold parseData
  rw [if_pos henc, intoCache, if_neg (not_not_intro rfl)]
  show (((Option.map _ (p.decryptStage h enc (b.input (initLocals b)) b.dest.length)).bind _).map _) = _
  rw [input_initLocals]
  cases p.decryptStage h enc b.src b.dest.length <;> rfl

theorem parseData_both (henc : enc ≠ .none) (hcomp : comp ≠ .none)
    (h₁ : p.decryptStage h enc b.src b.cache.length = some (z, z.length))
    (h₂ : p.uncompressStage comp z b.dest.length = some (x, x.length)) :
    p.parseData h enc comp b = some ((b.put z .cache).put x .dest, x.length) := by
  unfold parseData
  rw [if_pos henc, intoCache, if_pos hcomp]
  show (((Option.map _ (p.decryptStage h enc (b.input (initLocals b)) b.cache.length)).bind _).map _) = _
  rw [input_initLocals, h₁]
  show ((if comp ≠ .none then _ else _ : Option (Buffers × ParserLocals)).map _) = _
  rw [if_pos hcomp, fromCache, if_pos henc]
  show ((Option.map _ (p.uncompressStage comp ((z ++ b.cache.drop z.length).take z.length) b.dest.length)).map _) = _
  rw [List.take_left, h₂]
  rfl

theorem parseData_eq_none (henc : enc ≠ .none) (h₁ : ∀ c n, p.decryptStage h enc c n = none) :
    p.parseData h enc comp b = none := by
  unfold parseData
  rw [if_pos henc]
  unfold runStage
  rw [h₁]
  rfl

end Parse

/-- `ParseData` gives back the plaintext of what `PrepareData` has returned for every type of encryption
but `RSA_OAEP`. -/
theorem parseData_prepareData_iff {rand : Nat → Rand} {enc : EncryptType} {comp : CompressType} {x : Bytes}
    {dest cache dest' cache' : Bytes} {b : Buffers} {n : Nat} (hl : p.Lawful) (hk : p.Loaded h k d)
    (henc : enc.Supported) (hcomp : comp.Supported) (hne : ¬ (enc = .none ∧ comp = .none)) (hx : x ≠ [])
    (hroom : p.PrepareRoom h enc comp ⟨x, dest, cache⟩)
    (hprep : p.prepareData h rand enc comp ⟨x, dest, cache⟩ = some (b, n))
    (hroom' : p.ParseRoom k enc comp x dest' cache') :
    (∃ b', p.parseData h enc comp ⟨b.dest.take n, dest', cache'⟩ = some (b', x.length) ∧
      b'.dest.take x.length = x) ↔ enc ≠ .rsaOAEP := by
  constructor
  · rintro ⟨b', hparse, _⟩ rfl
    obtain ⟨out, hout, _⟩ := prepareData_encrypted hcomp (by simp) hroom hprep
    rw [parseData_eq_none (by simp) fun _ _ => hl.decryptStage_rsaOAEP hout] at hparse
    cases hparse
  · intro hoaep
    by_cases he : enc = .none
    · subst he
      have hc : comp ≠ .none := fun hc => hne ⟨rfl, hc⟩
      rw [prepareData_none hcomp hc hroom hprep]
      exact ⟨_, parseData_none hc (hl.uncompressStage_compressed hcomp hc hx hroom'.plain hroom'.dest_lt),
        take_put_dest _ _⟩
    · obtain ⟨out, hout, hy⟩ := prepareData_encrypted hcomp he hroom hprep
      have hdec := hroom'.decrypted he
      rw [hy]
      by_cases hc : comp = .none
      · subst hc
        rw [if_pos rfl] at hdec
        refine ⟨Buffers.put ⟨out.1, dest', cache'⟩ x .dest, ?_, take_put_dest _ _⟩
        rw [parseData_plain he, hk.decryptStage_encryptStage hl henc he hoaep hout hroom.encrypted hdec]
        rfl
      · rw [if_neg hc] at hdec
        exact ⟨_, parseData_both he hc (hk.decryptStage_encryptStage hl henc he hoaep hout hroom.encrypted hdec)
          (hl.uncompressStage_compressed hcomp hc hx hroom'.plain hroom'.dest_lt), take_put_dest _ _⟩

/-! ### A concrete library

RSA with the exponent 17, a modulus of 96 bits and one of 1024. -/

def key96 : Rsa.Key where
  p := 1048123 * 2 ^ 28 + 1
  q := 1048027 * 2 ^ 28 + 1
  e := 17
  d := (13 * (1048123 * 1048027 * 2 ^ 28) + 1) / 17
  len := 12
  prime_p := Rsa.prime_of_root 48 (by norm_num) rfl (by norm_num) (by decide +kernel : Rsa.powMod _ 48 3 _ = 1)
    (by decide +kernel) (by decide +kernel)
  prime_q := Rsa.prime_of_root 48 (by norm_num) rfl (by norm_num) (by decide +kernel : Rsa.powMod _ 48 3 _ = 1)
    (by decide +kernel) (by decide +kernel)
  ne := by norm_num
  pos := by norm_num
  inverse_p := by norm_num
  inverse_q := by norm_num
  e_lt := by norm_num
  d_lt := by norm_num
  le_modulus := by norm_num
  modulus_lt := by norm_num

def pubKeyFile : String :=
  "3026300D06092A864886F70D01010105000315003012020D00FFC163CB7901FFC160000001020111"

def privKeyFile : String :=
  "3061020100300D06092A864886F70D0101010500044D304B020100020D00FFC163CB7901FFC16000000102011102090C393E" ++
    "2E6E40F0F0F1020700FFE3B0000001020700FFDDB00000010206695DC0F0F0F1020700D2B690F0F0F10206629FC12AD551"

def key1024 : Rsa.Key where
  p := 1041307 * 2 ^ 492 + 1
  q := 1040071 * 2 ^ 492 + 1
  e := 17
  d := (8 * (1041307 * 1040071 * 2 ^ 492) + 1) / 17
  len := 128
  prime_p := Rsa.prime_of_root (k := 1041307) (m := 491) (a := 3) 512 (by norm_num) (by decide +kernel)
    (by decide +kernel) (by decide +kernel) (by decide +kernel) (by decide +kernel)
  prime_q := Rsa.prime_of_root (k := 1040071) (m := 491) (a := 3) 512 (by norm_num) (by decide +kernel)
    (by decide +kernel) (by decide +kernel) (by decide +kernel) (by decide +kernel)
  ne := by decide +kernel
  pos := by decide +kernel
  inverse_p := by decide +kernel
  inverse_q := by decide +kernel
  e_lt := by decide +kernel
  d_lt := by decide +kernel
  le_modulus := by decide +kernel
  modulus_lt := by decide +kernel

def pubKeyFile1024 : String :=
  "30819D300D06092A864886F70D010101050003818B0030818702818100FC29CF577D00000000000000000000000000000000" ++
    "00000000000000000000000000000000000000000000000000000000000000000000000000000000000001FC262000000000" ++
    "0000000000000000000000000000000000000000000000000000000000000000000000000000000000000000000000000000" ++
    "00000000000001020111"

def privKeyFile1024 : String :=
  "30820237020100300D06092A864886F70D0101010500048202213082021D02010002818100FC29CF577D0000000000000000" ++
    "0000000000000000000000000000000000000000000000000000000000000000000000000000000000000000000000000000" ++
    "01FC262000000000000000000000000000000000000000000000000000000000000000000000000000000000000000000000" ++
    "0000000000000000000000000000010201110243076AA4374770F0F0F0F0F0F0F0F0F0F0F0F0F0F0F0F0F0F0F0F0F0F0F0F0" ++
    "F0F0F0F0F0F0F0F0F0F0F0F0F0F0F0F0F0F0F0F0F0F0F0F0F0F0F0F0F0F0F0F0F0F0F0F0F1024100FE39B000000000000000" ++
    "0000000000000000000000000000000000000000000000000000000000000000000000000000000000000000000000000000" ++
    "00000001024100FDEC7000000000000000000000000000000000000000000000000000000000000000000000000000000000" ++
    "00000000000000000000000000000000000000000102402CDD00F0F0F0F0F0F0F0F0F0F0F0F0F0F0F0F0F0F0F0F0F0F0F0F0" ++
    "F0F0F0F0F0F0F0F0F0F0F0F0F0F0F0F0F0F0F0F0F0F0F0F0F0F0F0F0F0F0F0F0F0F0F0F0F1024100D11D10F0F0F0F0F0F0F0" ++
    "F0F0F0F0F0F0F0F0F0F0F0F0F0F0F0F0F0F0F0F0F0F0F0F0F0F0F0F0F0F0F0F0F0F0F0F0F0F0F0F0F0F0F0F0F0F0F0F0F0F0" ++
    "F0F0F0F1024100C331AD73289870AC52D90FBDB8C03505CCA261C2B14B643EF6E300D4173289870AC52D90FBDB8C03505CCA" ++
    "261C2B14B643EF6E300D4173289870AC52D90FC104"

/-- The only file that holds a key. -/
@[irreducible] def readKey (file s : String) : Option Unit := if s = file then some () else none

theorem readKey_self (file : String) : readKey file file = some () := by
  rw [readKey, if_pos rfl]

theorem readKey_eq_none {file s : String} (h : s ≠ file) : readKey file s = none := by
  rw [readKey, if_neg h]

theorem eq_of_readKey {file s : String} {k : Unit} (h : readKey file s = some k) : s = file := by
  by_contra hne
  cases (readKey_eq_none hne).symm.trans h

theorem pubKeyFile_ne_privKeyFile : pubKeyFile ≠ privKeyFile := by decide +kernel

/-- A message of at most 60 bytes in which no four bytes come again is a single literal, as Snappy makes it; the others
have a format of their own. -/
def literalCompress (m : Bytes) : Bytes :=
  if m ≠ [] ∧ m.length ≤ 60 then UInt8.ofNat m.length :: UInt8.ofNat (4 * (m.length - 1)) :: m else 255 :: m

def literalUncompress : Bytes → Option Bytes
  | [] => none
  | n :: m => some (if n = 255 then m else m.drop 1)

theorem literalUncompress_literalCompress (m : Bytes) : literalUncompress (literalCompress m) = some m := by
  unfold literalCompress
  by_cases hm : m ≠ [] ∧ m.length ≤ 60
  · rw [if_pos hm]
    have hn : UInt8.ofNat m.length ≠ 255 := by
      intro h
      have h := congrArg UInt8.toNat h
      rw [UInt8.toNat_ofNat', Nat.mod_eq_of_lt (by omega)] at h
      have : m.length = 255 := h
      omega
    exact congrArg some (if_neg hn)
  · rw [if_neg hm]
    rfl

/-- A library that knows one key pair. -/
def ofKey (key : Rsa.Key) (pubKey privKey : String) : Primitives Unit Unit Unit where
  publicKey := readKey pubKey
  privateKey := readKey privKey
  fixedMaxPlaintextLength _ := key.len - 11
  ciphertextLength _ n := if n ≤ key.len - 11 then key.len else 0
  encrypt _ _ m := key.encrypt m
  fixedCiphertextLength _ := key.len
  maxPlaintextLength _ n := if n = key.len then key.len - 11 else 0
  decrypt _ c := key.decrypt c
  eaxEncrypt _ _ m := some (m ++ List.replicate 8 0)
  eaxDecrypt _ _ c := some (c.take (c.length - 8))
  zlibCompress m := 120 :: m
  zlibUncompress c := some c.tail
  gzipCompress m := 31 :: m
  gzipUncompress c := some c.tail
  rawCompress := literalCompress
  getUncompressedLength c := (literalUncompress c).map List.length
  rawUncompress := literalUncompress

theorem lawful_ofKey (key : Rsa.Key) {pubKey privKey : String} (h : pubKey ≠ privKey) :
    (ofKey key pubKey privKey).Lawful where
  publicKey_privateKey s k hs := by
    rw [eq_of_readKey hs]
    exact readKey_eq_none h
  eaxEncrypt_length key iv m c hc := by
    cases hc
    rw [List.length_append, List.length_replicate]
  eaxDecrypt_eaxEncrypt key iv m c hc := by
    cases hc
    show some ((m ++ List.replicate 8 0).take ((m ++ List.replicate 8 0).length - 8)) = some m
    rw [List.length_append, List.length_replicate, Nat.add_sub_cancel, List.take_left]
  zlibUncompress_zlibCompress m := rfl
  gzipUncompress_gzipCompress m := rfl
  rawUncompress_rawCompress := literalUncompress_literalCompress
  getUncompressedLength_rawCompress m := by
    show (literalUncompress (literalCompress m)).map List.length = _
    rw [literalUncompress_literalCompress]
    rfl

theorem keyPair_ofKey {key : Rsa.Key} (hlen : 11 ≤ key.len) (pubKey privKey : String) :
    (ofKey key pubKey privKey).KeyPair () () where
  fixedCiphertextLength_pos := lt_of_lt_of_le (by decide) hlen
  ciphertextLength _ hn := if_pos hn
  maxPlaintextLength := if_pos rfl
  encrypt_length r m hm := (key.length_encrypt m).trans (if_pos hm).symm
  decrypt_encrypt r m hm := by
    have hm : m.length ≤ key.len - 11 := hm
    exact key.decrypt_encrypt (by omega)

def library96 : Primitives Unit Unit Unit := ofKey key96 pubKeyFile privKeyFile

theorem lawful_library96 : library96.Lawful := lawful_ofKey key96 pubKeyFile_ne_privKeyFile

def library1024 : Primitives Unit Unit Unit := ofKey key1024 pubKeyFile1024 privKeyFile1024

def handle1024 : CXFastDataParserHandle := ⟨pubKeyFile1024, privKeyFile1024, [], []⟩

def loadedHandle : CXFastDataParserHandle := ⟨pubKeyFile, privKeyFile, [1, 2, 3, 4], [5, 6, 7, 8]⟩

theorem loaded_library96 : library96.Loaded loadedHandle () () where
  publicKey := readKey_self pubKeyFile
  privateKey := readKey_self privKeyFile
  pair := keyPair_ofKey (by decide) _ _
  key := List.cons_ne_nil _ _
  iv := List.cons_ne_nil _ _

/-- 64 bytes -/
def room64 : Bytes := List.replicate 64 0

/-- Three blocks of RSA over one byte of plaintext. -/
theorem parseData_prepareData_snappy : ∃ b n,
    library96.prepareData loadedHandle (fun _ => ()) .rsaPKCS1v15 .snappy ⟨[0x61], room64, room64⟩ = some (b, n) ∧
    n = 36 ∧ ∃ b', library96.parseData loadedHandle .rsaPKCS1v15 .snappy ⟨b.dest.take n, room64, room64⟩ =
      some (b', 1) ∧ b'.dest.take 1 = [0x61] := by
  have hrun : (library96.prepareData loadedHandle (fun _ => ()) .rsaPKCS1v15 .snappy
      ⟨[0x61], room64, room64⟩).any (fun r => r.2 = 36) = true := by decide +kernel
  obtain ⟨⟨b, n⟩, hprep, hn⟩ := (Option.any_eq_true _ _).mp hrun
  refine ⟨b, n, hprep, of_decide_eq_true hn, ?_⟩
  have hsup : EncryptType.rsaPKCS1v15.Supported ∧ CompressType.snappy.Supported := ⟨trivial, trivial⟩
  refine (parseData_prepareData_iff lawful_library96 loaded_library96 hsup.1 hsup.2 (by decide) (by decide)
    ?_ hprep ?_).mpr (by decide)
  · exact ⟨by decide, by decide, fun _ => by decide, fun h => by cases h⟩
  · exact ⟨by decide, by decide, by decide, fun _ => by decide⟩

theorem parseData_rsaOAEP_eq_none : library96.Lawful ∧ library96.Loaded loadedHandle () () ∧
    library96.PrepareRoom loadedHandle .rsaOAEP .none ⟨[0x61], room64, room64⟩ ∧
    library96.ParseRoom () .rsaOAEP .none [0x61] room64 room64 ∧
    ∃ b, library96.prepareData loadedHandle (fun _ => ()) .rsaOAEP .none ⟨[0x61], room64, room64⟩ = some (b, 12) ∧
      library96.parseData loadedHandle .rsaOAEP .none ⟨b.dest.take 12, room64, room64⟩ = none := by
  refine ⟨lawful_library96, loaded_library96, ⟨by decide, by decide, fun h => absurd rfl h, fun h => by cases h⟩,
    ⟨by decide, by decide, by decide, fun _ => by decide⟩, ?_⟩
  have hrun : (library96.prepareData loadedHandle (fun _ => ()) .rsaOAEP .none
      ⟨[0x61], room64, room64⟩).any (fun r => r.2 = 12 ∧ library96.parseData loadedHandle .rsaOAEP .none
        ⟨r.1.dest.take 12, room64, room64⟩ = none) = true := by decide +kernel
  obtain ⟨⟨b, n⟩, hprep, hn⟩ := (Option.any_eq_true _ _).mp hrun
  obtain ⟨rfl, hparse⟩ := of_decide_eq_true hn
  exact ⟨b, hprep, hparse⟩

end Primitives

end KonsanNet
