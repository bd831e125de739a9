import KonsanNet.DataParser

/-!
# What `ParseData` and `PrepareData` store, and where

`Primitives.parseStores` and `prepareStores` are the stores of a run, also of one that fails in the middle. A
store names its buffer, its offset and the most bytes that it can have: the block length that RSA is asked for,
the room of an `ArraySink`, the length that Snappy announces. `parseData_stores` and `prepareData_stores` say that
nothing else changes. Of all the primitives only `RawCompress` is not told how much room there is.
-/

namespace KonsanNet

structure Store where
  buf : BufName
  off : Nat
  len : Nat
deriving DecidableEq, Repr

/-- One behind the last byte. -/
def Store.fin (st : Store) : Nat := st.off + st.len

namespace Primitives

variable {Pub Priv Rand : Type} (p : Primitives Pub Priv Rand)

/-! ### The helpers

The stores of a helper to its output buffer: offsets and lengths. -/

/-- The rounds of `encryptRounds`, with `iTotalOutputDataLen` in `off`. -/
def encryptRoundStores (k : Pub) :
    (rounds : Nat) → (off : Nat) → (input : Bytes) → (room : Nat) → List (Nat × Nat)
  | _, _, [], _ => []
  | 0, _, _ :: _, _ => []
  | rounds + 1, off, a :: input, room =>
    let chunk := (a :: input).take (p.fixedMaxPlaintextLength k)
    let iOutputLen := p.ciphertextLength k chunk.length
    if room < iOutputLen then []
    else (off, iOutputLen) :: encryptRoundStores k rounds (off + iOutputLen)
      ((a :: input).drop (p.fixedMaxPlaintextLength k)) (room - iOutputLen)

def decryptRoundStores (k : Priv) :
    (rounds : Nat) → (off : Nat) → (input : Bytes) → (room : Nat) → List (Nat × Nat)
  | _, _, [], _ => []
  | 0, _, _ :: _, _ => []
  | rounds + 1, off, a :: input, room =>
    let block := (a :: input).take (p.fixedCiphertextLength k)
    let iOutputLen := p.maxPlaintextLength k block.length
    if room < iOutputLen then []
    else (off, iOutputLen) :: match p.decrypt k block with
      | none => []
      | some message =>
        if iOutputLen < message.length then []
        else decryptRoundStores k rounds (off + message.length) ((a :: input).drop (p.fixedCiphertextLength k))
          (room - message.length)

def rsaEncryptStores (strPubKey : String) (input : Bytes) (dwOutputBufLen : Nat) : List (Nat × Nat) :=
  match p.publicKey strPubKey with
  | none => []
  | some k => p.encryptRoundStores k dwOutputBufLen 0 input dwOutputBufLen

def rsaDecryptStores (strPrivKey : String) (input : Bytes) (dwOutputBufLen : Nat) : List (Nat × Nat) :=
  match p.privateKey strPrivKey with
  | none => []
  | some k => p.decryptRoundStores k input.length 0 input dwOutputBufLen

/-- An `ArraySink` takes up to `dwOutputBufLen` bytes, also before the tag turns out to be wrong. -/
def blowfishStores (key iv input : Bytes) (dwOutputBufLen : Nat) : List (Nat × Nat) :=
  if key = [] ∨ iv = [] ∨ input = [] ∨ dwOutputBufLen = 0 then [] else [(0, dwOutputBufLen)]

def compressStores (compress : Bytes → Bytes) (input : Bytes) (dwOutputBufLen : Nat) : List (Nat × Nat) :=
  let avail := (compress input).length
  if 0 < avail ∧ avail < dwOutputBufLen then [(0, avail)] else []

/-! ### The stages -/

def compressStageStores (comp : CompressType) (input : Bytes) (dwOutputBufLen : Nat) : List (Nat × Nat) :=
  match comp with
  | .gzip => compressStores p.gzipCompress input dwOutputBufLen
  | .snappy => [(0, (p.rawCompress input).length)]
  | .zlib => compressStores p.zlibCompress input dwOutputBufLen
  | _ => []

def uncompressStageStores (comp : CompressType) (input : Bytes) (dwOutputBufLen : Nat) : List (Nat × Nat) :=
  match comp with
  | .gzip | .zlib => [(0, dwOutputBufLen)]
  | .snappy =>
    match p.getUncompressedLength input with
    | none => []
    | some ulength => if dwOutputBufLen < ulength then [] else [(0, ulength)]
  | _ => []

variable (h : CXFastDataParserHandle)

def encryptStageStores (enc : EncryptType) (input : Bytes) (dwOutputBufLen : Nat) : List (Nat × Nat) :=
  match enc with
  | .rsaPKCS1v15 | .rsaOAEP => p.rsaEncryptStores h.m_strPubKey input dwOutputBufLen
  | .blowfish => blowfishStores h.m_byKey h.m_byIv input dwOutputBufLen
  | _ => []

def decryptStageStores (enc : EncryptType) (input : Bytes) (dwOutputBufLen : Nat) : List (Nat × Nat) :=
  match enc with
  | .rsaPKCS1v15 => p.rsaDecryptStores h.m_strPrivKey input dwOutputBufLen
  | .rsaOAEP => p.rsaDecryptStores h.m_strPubKey input dwOutputBufLen
  | .blowfish => blowfishStores h.m_byKey h.m_byIv input dwOutputBufLen
  | _ => []

/-! ### `ParseData`, `PrepareData` -/

def runStores (stores : Bytes → Nat → List (Nat × Nat)) (r : Buffers × ParserLocals) : List Store :=
  (stores (r.1.input r.2) r.2.dwOutputBufLen).map fun st => ⟨r.2.pszOutputBuf, st.1, st.2⟩

def parseStores (enc : EncryptType) (comp : CompressType) (b : Buffers) : List Store :=
  if enc ≠ .none then
    let r := intoCache (comp ≠ .none) (b, initLocals b)
    runStores (p.decryptStageStores h enc) r ++
      match runStage (p.decryptStage h enc) r with
      | none => []
      | some r => if comp ≠ .none then runStores (p.uncompressStageStores comp) (fromCache True r) else []
  else if comp ≠ .none then runStores (p.uncompressStageStores comp) (b, initLocals b)
  else []

def prepareStores (enc : EncryptType) (comp : CompressType) (b : Buffers) : List Store :=
  if comp ≠ .none then
    if b.cache.length < b.src.length then []
    else
      let r := intoCache (enc ≠ .none) (b, initLocals b)
      runStores (p.compressStageStores comp) r ++
        match runStage (p.compressStage comp) r with
        | none => []
        | some r =>
          let r := fromCache (enc ≠ .none) r
          if enc ≠ .none ∧ r.2.dwInputDataLen ≤ r.2.dwOutputBufLen then runStores (p.encryptStageStores h enc) r
          else []
  else if enc ≠ .none ∧ b.src.length ≤ b.dest.length then runStores (p.encryptStageStores h enc) (b, initLocals b)
  else []

/-! ### Every store but that of `RawCompress` is told its room -/

/-- The stores lie before `n`. -/
def Within (n : Nat) (stores : List (Nat × Nat)) : Prop := ∀ st ∈ stores, st.1 + st.2 ≤ n

variable {p h}

theorem within_nil (n : Nat) : Within n [] := nofun

theorem within_single {n off len : Nat} (hle : off + len ≤ n) : Within n [(off, len)] := fun _ hst => by
  obtain rfl := List.mem_singleton.mp hst
  exact hle

theorem within_cons {n off len : Nat} {stores : List (Nat × Nat)} (hle : off + len ≤ n) (h : Within n stores) :
    Within n ((off, len) :: stores) := fun st hst => by
  rcases List.mem_cons.mp hst with rfl | hst
  · exact hle
  · exact h st hst

theorem within_encryptRoundStores (k : Pub) : ∀ (rounds off : Nat) (input : Bytes) (room : Nat),
    Within (off + room) (p.encryptRoundStores k rounds off input room)
  | 0, _, [], _ => within_nil _
  | 0, _, _ :: _, _ => within_nil _
  | _ + 1, _, [], _ => within_nil _
  | rounds + 1, off, a :: input, room => by
    unfold encryptRoundStores
    dsimp only
    split
    · exact within_nil _
    · rename_i hroom
      have hroom := Nat.le_of_not_lt hroom
      have ih := within_encryptRoundStores k rounds
        (off + p.ciphertextLength k ((a :: input).take (p.fixedMaxPlaintextLength k)).length)
        ((a :: input).drop (p.fixedMaxPlaintextLength k))
        (room - p.ciphertextLength k ((a :: input).take (p.fixedMaxPlaintextLength k)).length)
      rw [Nat.add_assoc, Nat.add_sub_cancel' hroom] at ih
      exact within_cons (Nat.add_le_add_left hroom off) ih

theorem within_decryptRoundStores (k : Priv) : ∀ (rounds off : Nat) (input : Bytes) (room : Nat),
    Within (off + room) (p.decryptRoundStores k rounds off input room)
  | 0, _, [], _ => within_nil _
  | 0, _, _ :: _, _ => within_nil _
  | _ + 1, _, [], _ => within_nil _
  | rounds + 1, off, a :: input, room => by
    unfold decryptRoundStores
    dsimp only
    split
    · exact within_nil _
    · rename_i hroom
      have hroom := Nat.le_of_not_lt hroom
      refine within_cons (Nat.add_le_add_left hroom off) ?_
      split
      · exact within_nil _
      · rename_i message hdec
        split
        · exact within_nil _
        · rename_i hlen
          have hle : message.length ≤ room := le_trans (Nat.le_of_not_lt hlen) hroom
          have ih := within_decryptRoundStores k rounds (off + message.length)
            ((a :: input).drop (p.fixedCiphertextLength k)) (room - message.length)
          rwa [Nat.add_assoc, Nat.add_sub_cancel' hle] at ih

theorem within_blowfishStores (key iv input : Bytes) (n : Nat) : Within n (blowfishStores key iv input n) := by
  unfold blowfishStores
  split
  · exact within_nil n
  · exact within_single (Nat.zero_add n).le

theorem within_encryptStageStores (enc : EncryptType) (input : Bytes) (n : Nat) :
    Within n (p.encryptStageStores h enc input n) := by
  have hrsa : ∀ key, Within n (p.rsaEncryptStores key input n) := fun key => by
    unfold rsaEncryptStores
    split
    · exact within_nil n
    · rename_i k _
      have hk : Within (0 + n) (p.encryptRoundStores k n 0 input n) := within_encryptRoundStores k n 0 input n
      rwa [Nat.zero_add] at hk
  cases enc with
  | rsaPKCS1v15 => exact hrsa _
  | rsaOAEP => exact hrsa _
  | blowfish => exact within_blowfishStores _ _ input n
  | none => exact within_nil n
  | other => exact within_nil n

theorem within_decryptStageStores (enc : EncryptType) (input : Bytes) (n : Nat) :
    Within n (p.decryptStageStores h enc input n) := by
  have hrsa : ∀ key, Within n (p.rsaDecryptStores key input n) := fun key => by
    unfold rsaDecryptStores
    split
    · exact within_nil n
    · rename_i k _
      have hk : Within (0 + n) (p.decryptRoundStores k input.length 0 input n) :=
        within_decryptRoundStores k input.length 0 input n
      rwa [Nat.zero_add] at hk
  cases enc with
  | rsaPKCS1v15 => exact hrsa _
  | rsaOAEP => exact hrsa _
  | blowfish => exact within_blowfishStores _ _ input n
  | none => exact within_nil n
  | other => exact within_nil n

theorem within_uncompressStageStores (comp : CompressType) (input : Bytes) (n : Nat) :
    Within n (p.uncompressStageStores comp input n) := by
  cases comp with
  | snappy =>
    unfold uncompressStageStores
    dsimp only
    split
    · exact within_nil n
    · split
      · exact within_nil n
      · rename_i hle
        exact within_single (by omega)
  | gzip => exact within_single (Nat.zero_add n).le
  | zlib => exact within_single (Nat.zero_add n).le
  | none => exact within_nil n
  | other => exact within_nil n

theorem within_compressStageStores (comp : CompressType) (input : Bytes) (n : Nat) :
    Within (if comp = .snappy then (p.rawCompress input).length else n) (p.compressStageStores comp input n) := by
  have hsink : ∀ compress, Within n (compressStores compress input n) := fun compress => by
    unfold compressStores
    dsimp only
    split
    · rename_i havail
      exact within_single (by omega)
    · exact within_nil n
  cases comp with
  | snappy => exact within_single (Nat.zero_add _).le
  | gzip => exact hsink _
  | zlib => exact hsink _
  | none => exact within_nil _
  | other => exact within_nil _

theorem mem_runStores {stores : Bytes → Nat → List (Nat × Nat)} {r : Buffers × ParserLocals} {n : Nat}
    {st : Store}
    (hin : Within n (stores (r.1.input r.2) r.2.dwOutputBufLen)) (hst : st ∈ runStores stores r) :
    st.buf = r.2.pszOutputBuf ∧ st.fin ≤ n := by
  obtain ⟨s, hs, rfl⟩ := List.mem_map.mp hst
  exact ⟨rfl, hin s hs⟩

/-- The store goes to the destination or the cache, and ends in it. -/
def Inside (b : Buffers) (st : Store) : Prop :=
  st.buf = .dest ∧ st.fin ≤ b.dest.length ∨ st.buf = .cache ∧ st.fin ≤ b.cache.length

variable {b b' : Buffers} {enc : EncryptType} {comp : CompressType} {st : Store}

/-- A first stage that stores to the cache leaves the room in the destination as it is. -/
theorem length_dest_of_runStage {stage : Bytes → Nat → Option (Bytes × Nat)} {r r' : Buffers × ParserLocals}
    (hr : r.2.pszOutputBuf = .cache) (hs : runStage stage r = some r') : r'.1.dest = r.1.dest := by
  obtain ⟨out, -, rfl⟩ := Option.map_eq_some_iff.mp hs
  simp only [hr, Buffers.put]

theorem parseStores_inside (hst : st ∈ p.parseStores h enc comp b) : Inside b st := by
  unfold parseStores at hst
  split at hst
  · rename_i henc
    by_cases hcomp : comp = .none
    · -- decrypting alone stores to the destination
      subst hcomp
      rcases List.mem_append.mp hst with hst | hst
      · exact .inl (mem_runStores (within_decryptStageStores enc _ _) hst)
      · split at hst <;> cases hst
    · simp only [intoCache, if_pos hcomp] at hst
      rcases List.mem_append.mp hst with hst | hst
      · exact .inr (mem_runStores (within_decryptStageStores enc _ _) hst)
      · split at hst
        · cases hst
        · rename_i r hr
          have hdest := length_dest_of_runStage rfl hr
          obtain ⟨hbuf, hfin⟩ := mem_runStores (within_uncompressStageStores comp _ _) hst
          exact .inl ⟨hbuf, hfin.trans (congrArg List.length hdest).le⟩
  · split at hst
    · exact .inl (mem_runStores (within_uncompressStageStores comp _ _) hst)
    · cases hst

theorem prepareStores_inside (hraw : comp = .snappy → (p.rawCompress b.src).length ≤
      if enc = .none then b.dest.length else b.cache.length) (hst : st ∈ p.prepareStores h enc comp b) :
    Inside b st := by
  unfold prepareStores at hst
  split at hst
  · rename_i hcomp
    split at hst
    · cases hst
    rcases List.mem_append.mp hst with hst | hst
    · by_cases henc : enc = .none
      · subst henc
        obtain ⟨hbuf, hfin⟩ := mem_runStores (within_compressStageStores comp _ _) hst
        refine .inl ⟨hbuf, hfin.trans ?_⟩
        split
        · rename_i hs
          have hle := hraw hs
          rw [if_pos rfl, ← input_initLocals b] at hle
          exact hle
        · exact le_rfl
      · simp only [intoCache, ne_eq, henc, not_false_eq_true, if_true] at hst
        obtain ⟨hbuf, hfin⟩ := mem_runStores (within_compressStageStores comp _ _) hst
        refine .inr ⟨hbuf, hfin.trans ?_⟩
        split
        · rename_i hs
          have hle := hraw hs
          rw [if_neg henc] at hle
          have hin : b.input { initLocals b with pszOutputBuf := .cache, dwOutputBufLen := b.cache.length } = b.src :=
            input_initLocals b
          rwa [hin]
        · exact le_rfl
    · split at hst
      · cases hst
      · rename_i r hr
        dsimp only at hst
        split at hst
        · rename_i henc
          simp only [intoCache, if_pos henc.1] at hr
          simp only [fromCache, if_pos henc.1] at hst
          have hdest := length_dest_of_runStage rfl hr
          obtain ⟨hbuf, hfin⟩ := mem_runStores (within_encryptStageStores enc _ _) hst
          exact .inl ⟨hbuf, hfin.trans (congrArg List.length hdest).le⟩
        · cases hst
  · split at hst
    · exact .inl (mem_runStores (within_encryptStageStores enc _ _) hst)
    · cases hst

/-! ### Nothing else changes -/

/-- What the code relies on to know where a block or a decompressed text ends. -/
structure Bounded (p : Primitives Pub Priv Rand) : Prop where
  encrypt_length : ∀ k r m, (p.encrypt k r m).length = p.ciphertextLength k m.length
  rawUncompress_length : ∀ m n out, p.getUncompressedLength m = some n → p.rawUncompress m = some out → out.length ≤ n

/-- Every byte from `off` to `n` lies in a store. -/
def Cover (off n : Nat) (stores : List (Nat × Nat)) : Prop :=
  ∀ i, off ≤ i → i < n → ∃ st ∈ stores, st.1 ≤ i ∧ i < st.1 + st.2

theorem cover_empty (off : Nat) (stores : List (Nat × Nat)) : Cover off off stores := fun i h₁ h₂ => by omega

theorem cover_single {n len : Nat} (hle : n ≤ len) : Cover 0 n [(0, len)] := fun i _ hi =>
  ⟨(0, len), List.mem_singleton_self _, Nat.zero_le i, by omega⟩

theorem cover_cons {off m n len : Nat} {stores : List (Nat × Nat)} (hm : m ≤ len)
    (hc : Cover (off + m) n stores) :
    Cover off n ((off, len) :: stores) := fun i h₁ h₂ => by
  by_cases hi : i < off + m
  · exact ⟨(off, len), List.mem_cons_self, h₁, by omega⟩
  · obtain ⟨st, hst, hin⟩ := hc i (by omega) h₂
    exact ⟨st, List.mem_cons_of_mem _ hst, hin⟩

theorem Bounded.encryptRounds (hb : p.Bounded) (k : Pub) : ∀ (rounds off : Nat) (rand : Nat → Rand)
    (input : Bytes)
    (room : Nat) (out : Bytes), p.encryptRounds k rounds rand input room = .ok out →
    Cover off (off + out.length) (p.encryptRoundStores k rounds off input room)
  | 0, off, _, [], _, _, hr => by
    cases hr
    exact cover_empty off _
  | 0, _, _, _ :: _, _, _, hr => by cases hr
  | _ + 1, off, _, [], _, _, hr => by
    cases hr
    exact cover_empty off _
  | rounds + 1, off, rand, a :: input, room, out, hr => by
    rw [Primitives.encryptRounds] at hr
    rw [encryptRoundStores]
    split at hr
    · cases hr
    rename_i hroom
    rw [if_neg hroom]
    have hlen := hb.encrypt_length k (rand 0) ((a :: input).take (p.fixedMaxPlaintextLength k))
    cases hrest : p.encryptRounds k rounds (fun i => rand (i + 1)) ((a :: input).drop (p.fixedMaxPlaintextLength k))
        (room - p.ciphertextLength k ((a :: input).take (p.fixedMaxPlaintextLength k)).length) with
    | error e =>
      rw [hrest] at hr
      cases hr
    | ok rest =>
      rw [hrest] at hr
      cases hr
      have ih := hb.encryptRounds k rounds (off + p.ciphertextLength k
        ((a :: input).take (p.fixedMaxPlaintextLength k)).length) _ _ _ rest hrest
      rw [List.length_append, hlen, ← Nat.add_assoc]
      exact cover_cons le_rfl ih

theorem cover_decryptRounds (k : Priv) : ∀ (rounds off : Nat) (input : Bytes) (room : Nat) (out : Bytes),
    p.decryptRounds k rounds input room = .ok out →
    Cover off (off + out.length) (p.decryptRoundStores k rounds off input room)
  | 0, off, [], _, _, hr => by
    cases hr
    exact cover_empty off _
  | 0, _, _ :: _, _, _, hr => by cases hr
  | _ + 1, off, [], _, _, hr => by
    cases hr
    exact cover_empty off _
  | rounds + 1, off, a :: input, room, out, hr => by
    rw [Primitives.decryptRounds] at hr
    rw [decryptRoundStores]
    split at hr
    · cases hr
    rename_i hroom
    rw [if_neg hroom]
    cases hdec : p.decrypt k ((a :: input).take (p.fixedCiphertextLength k)) with
    | none =>
      rw [hdec] at hr
      cases hr
    | some message =>
      simp only [hdec] at hr ⊢
      split at hr
      · cases hr
      rename_i hlen
      rw [if_neg hlen]
      cases hrest : p.decryptRounds k rounds ((a :: input).drop (p.fixedCiphertextLength k))
          (room - message.length) with
      | error e =>
        rw [hrest] at hr
        cases hr
      | ok rest =>
        rw [hrest] at hr
        cases hr
        have ih := cover_decryptRounds k rounds (off + message.length) _ _ rest hrest
        rw [List.length_append, ← Nat.add_assoc]
        exact cover_cons (Nat.le_of_not_lt hlen) ih

theorem cover_rsaDecryptData {key : String} {input : Bytes} {n : Nat} {out : Bytes × Nat}
    (ho : (p.rsaDecryptData key input n).toOption = some out) :
    Cover 0 out.1.length (p.rsaDecryptStores key input n) := by
  unfold rsaDecryptData at ho
  unfold rsaDecryptStores
  cases hk : p.privateKey key with
  | none =>
    rw [hk] at ho
    cases ho
  | some k =>
    rw [hk] at ho
    dsimp only at ho ⊢
    cases hr : p.decryptRounds k input.length input n with
    | error e =>
      rw [hr] at ho
      cases ho
    | ok data =>
      rw [hr] at ho
      cases ho
      have hc := cover_decryptRounds k input.length 0 input n data hr
      rwa [Nat.zero_add] at hc

theorem Bounded.rsaEncryptData (hb : p.Bounded) {key : String} {rand : Nat → Rand} {input : Bytes} {n : Nat}
    {out : Bytes × Nat} (ho : (p.rsaEncryptData key rand input n).toOption = some out) :
    Cover 0 out.1.length (p.rsaEncryptStores key input n) := by
  unfold Primitives.rsaEncryptData at ho
  unfold rsaEncryptStores
  cases hk : p.publicKey key with
  | none =>
    rw [hk] at ho
    cases ho
  | some k =>
    rw [hk] at ho
    dsimp only at ho ⊢
    cases hr : p.encryptRounds k n rand input n with
    | error e =>
      rw [hr] at ho
      cases ho
    | ok data =>
      rw [hr] at ho
      cases ho
      have hc := hb.encryptRounds k n 0 rand input n data hr
      rwa [Nat.zero_add] at hc

theorem cover_blowfishData {filter : Bytes → Bytes → Bytes → Option Bytes} {key iv input : Bytes} {n : Nat}
    {out : Bytes × Nat} (ho : (blowfishData filter key iv input n).toOption = some out) :
    Cover 0 out.1.length (blowfishStores key iv input n) := by
  unfold blowfishData at ho
  unfold blowfishStores
  split at ho
  · cases ho
  · rename_i hne
    rw [if_neg hne]
    split at ho
    · cases ho
    · cases ho
      exact cover_single (List.length_take_le _ _)

theorem cover_compressData {compress : Bytes → Bytes} {input : Bytes} {n : Nat} {out : Bytes × Nat}
    (ho : compressData compress input n = some out) : Cover 0 out.1.length (compressStores compress input n) := by
  unfold compressData at ho
  unfold compressStores
  dsimp only at ho ⊢
  split at ho
  · rename_i havail
    rw [if_pos havail]
    split at ho
    · cases ho
    · cases ho
      exact cover_single (List.length_take_le' _ _)
  · cases ho

theorem cover_compressStage {input : Bytes} {n : Nat} {out : Bytes × Nat}
    (ho : p.compressStage comp input n = some out) :
    Cover 0 out.1.length (p.compressStageStores comp input n) := by
  cases comp with
  | gzip => exact cover_compressData ho
  | zlib => exact cover_compressData ho
  | snappy =>
    cases ho
    exact cover_single le_rfl
  | none =>
    cases ho
    exact cover_empty 0 _
  | other =>
    cases ho
    exact cover_empty 0 _

theorem Bounded.uncompressStage (hb : p.Bounded) {input : Bytes} {n : Nat} {out : Bytes × Nat}
    (ho : p.uncompressStage comp input n = some out) :
    Cover 0 out.1.length (p.uncompressStageStores comp input n) := by
  have hsink : ∀ {uncompress}, uncompressData uncompress input n = some out → Cover 0 out.1.length [(0, n)] := by
    intro uncompress ho
    obtain ⟨data, -, ho⟩ := Option.bind_eq_some_iff.mp ho
    split at ho
    · cases ho
    · cases ho
      exact cover_single (List.length_take_le _ _)
  cases comp with
  | gzip => exact hsink ho
  | zlib => exact hsink ho
  | snappy =>
    obtain ⟨ulength, hlen, ho⟩ := Option.bind_eq_some_iff.mp ho
    unfold uncompressStageStores
    rw [hlen]
    dsimp only at ho ⊢
    split at ho
    · cases ho
    · rename_i hle
      rw [if_neg hle]
      obtain ⟨data, hdata, rfl⟩ := Option.map_eq_some_iff.mp ho
      exact cover_single (hb.rawUncompress_length _ _ _ hlen hdata)
  | none =>
    cases ho
    exact cover_empty 0 _
  | other =>
    cases ho
    exact cover_empty 0 _

theorem cover_decryptStage {input : Bytes} {n : Nat} {out : Bytes × Nat}
    (ho : p.decryptStage h enc input n = some out) : Cover 0 out.1.length (p.decryptStageStores h enc input n) := by
  cases enc with
  | rsaPKCS1v15 => exact cover_rsaDecryptData ho
  | rsaOAEP => exact cover_rsaDecryptData ho
  | blowfish => exact cover_blowfishData ho
  | none =>
    cases ho
    exact cover_empty 0 _
  | other =>
    cases ho
    exact cover_empty 0 _

theorem Bounded.encryptStage (hb : p.Bounded) {rand : Nat → Rand} {input : Bytes} {n : Nat} {out : Bytes × Nat}
    (ho : p.encryptStage h rand enc input n = some out) :
    Cover 0 out.1.length (p.encryptStageStores h enc input n) := by
  cases enc with
  | rsaPKCS1v15 => exact hb.rsaEncryptData ho
  | rsaOAEP => exact hb.rsaEncryptData ho
  | blowfish => exact cover_blowfishData ho
  | none =>
    cases ho
    exact cover_empty 0 _
  | other =>
    cases ho
    exact cover_empty 0 _

/-- The byte is in none of the stores. -/
def Untouched (stores : List Store) (buf : BufName) (i : Nat) : Prop :=
  ∀ st ∈ stores, st.buf = buf → ¬ (st.off ≤ i ∧ i < st.fin)

theorem getElem?_put (b : Buffers) (data : Bytes) (name buf : BufName) {i : Nat}
    (hi : name = buf → data.length ≤ i) : ((b.put data name).get buf)[i]? = (b.get buf)[i]? := by
  have happ : ∀ l : Bytes, data.length ≤ i → (data ++ l.drop data.length)[i]? = l[i]? := fun l hle => by
    rw [List.getElem?_append_right hle, List.getElem?_drop, Nat.add_sub_cancel' hle]
  cases name <;> cases buf <;> first | rfl | exact happ _ (hi rfl)

theorem getElem?_runStage {stage : Bytes → Nat → Option (Bytes × Nat)} {stores : Bytes → Nat → List (Nat × Nat)}
    {r r' : Buffers × ParserLocals} (hs : runStage stage r = some r')
    (hc : ∀ out, stage (r.1.input r.2) r.2.dwOutputBufLen = some out →
      Cover 0 out.1.length (stores (r.1.input r.2) r.2.dwOutputBufLen))
    {buf : BufName} {i : Nat} (hu : Untouched (runStores stores r) buf i) :
    (r'.1.get buf)[i]? = (r.1.get buf)[i]? := by
  obtain ⟨out, hout, rfl⟩ := runStage_eq_some hs
  refine getElem?_put _ _ _ _ fun hbuf => ?_
  by_contra hlt
  obtain ⟨st, hst, hin⟩ := hc out hout i (Nat.zero_le i) (Nat.lt_of_not_le hlt)
  exact hu _ (List.mem_map_of_mem hst) hbuf hin

theorem Untouched.append {stores stores' : List Store} {buf : BufName} {i : Nat}
    (hu : Untouched (stores ++ stores') buf i) : Untouched stores buf i ∧ Untouched stores' buf i :=
  ⟨fun st hst => hu st (List.mem_append_left _ hst), fun st hst => hu st (List.mem_append_right _ hst)⟩

theorem Bounded.parseData_stores (hb : p.Bounded) {n i : Nat} {buf : BufName}
    (hs : p.parseData h enc comp b = some (b', n)) (hu : Untouched (p.parseStores h enc comp b) buf i) :
    (b'.get buf)[i]? = (b.get buf)[i]? := by
  obtain ⟨r₂, hr₂, hret⟩ := Option.map_eq_some_iff.mp hs
  obtain ⟨rfl, -⟩ := Prod.mk.inj hret
  obtain ⟨r₁, hr₁, hr₂⟩ := Option.bind_eq_some_iff.mp hr₂
  unfold parseStores at hu
  by_cases henc : enc = .none
  · subst henc
    cases hr₁
    by_cases hcomp : comp = .none
    · subst hcomp
      cases hr₂
      rfl
    · simp only [ne_eq, not_true_eq_false, if_false, hcomp, not_false_eq_true, if_true] at hr₂ hu
      exact getElem?_runStage hr₂ (fun _ => hb.uncompressStage) hu
  · simp only [ne_eq, henc, not_false_eq_true, if_true] at hr₁ hr₂ hu
    obtain ⟨hu₁, hu₂⟩ := hu.append
    have h₁ := getElem?_runStage hr₁ (fun _ => cover_decryptStage) hu₁
    have hcache : ∀ q : Prop, [Decidable q] → (intoCache q (b, initLocals b)).1 = b := fun q _ => by
      unfold intoCache
      split <;> rfl
    rw [hcache] at h₁
    rw [hr₁] at hu₂
    by_cases hcomp : comp = .none
    · subst hcomp
      cases hr₂
      exact h₁
    · simp only [hcomp, not_false_eq_true, if_true] at hr₂ hu₂
      exact (getElem?_runStage hr₂ (fun _ => hb.uncompressStage) hu₂).trans h₁

theorem Bounded.prepareData_stores (hb : p.Bounded) {rand : Nat → Rand} {n i : Nat} {buf : BufName}
    (hs : p.prepareData h rand enc comp b = some (b', n)) (hu : Untouched (p.prepareStores h enc comp b) buf i) :
    (b'.get buf)[i]? = (b.get buf)[i]? := by
  obtain ⟨r₂, hr₂, hret⟩ := Option.map_eq_some_iff.mp hs
  obtain ⟨rfl, -⟩ := Prod.mk.inj hret
  obtain ⟨r₁, hr₁, hr₂⟩ := Option.bind_eq_some_iff.mp hr₂
  unfold prepareStores at hu
  by_cases hcomp : comp = .none
  · subst hcomp
    cases hr₁
    by_cases henc : enc = .none
    · subst henc
      cases hr₂
      rfl
    · simp only [ne_eq, not_true_eq_false, if_false, henc, not_false_eq_true, if_true, fromCache, true_and]
        at hr₂ hu
      split at hr₂
      · cases hr₂
      · rename_i hle
        have hle : b.src.length ≤ b.dest.length := Nat.le_of_not_lt hle
        rw [if_pos hle] at hu
        exact getElem?_runStage hr₂ (fun _ => hb.encryptStage) hu
  · simp only [ne_eq, hcomp, not_false_eq_true, if_true] at hr₁ hr₂ hu
    split at hr₁
    · cases hr₁
    rename_i hlen
    rw [if_neg hlen] at hu
    obtain ⟨hu₁, hu₂⟩ := hu.append
    have h₁ := getElem?_runStage hr₁ (fun _ => cover_compressStage) hu₁
    have hcache : ∀ q : Prop, [Decidable q] → (intoCache q (b, initLocals b)).1 = b := fun q _ => by
      unfold intoCache
      split <;> rfl
    rw [hcache] at h₁
    rw [hr₁] at hu₂
    by_cases henc : enc = .none
    · subst henc
      cases hr₂
      exact h₁
    · simp only [henc, not_false_eq_true, if_true, true_and] at hr₂ hu₂
      split at hr₂
      · cases hr₂
      · rename_i hle
        rw [if_pos (Nat.le_of_not_lt hle)] at hu₂
        exact (getElem?_runStage hr₂ (fun _ => hb.encryptStage) hu₂).trans h₁

end Primitives

end KonsanNet
