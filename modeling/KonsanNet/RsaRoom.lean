import KonsanNet.PacketRoom

/-!
# The room for RSA blocks

RSA makes of `K - 11` bytes of plaintext a block of `K` bytes, and the last block of a packet is as long as the
others. `PreparedAndSendPacket` gives the ciphertext `max (2 * n) 256` bytes for `n` bytes of plaintext, and
`ParseMessage` gives the plaintext 420 bytes, or 256 more than `n`; the check of `RSADecryptData` wants the room of
a full block for the last one too. `encryptedFits_iff` says for which `n` and `K` both are enough.
-/

namespace KonsanNet

/-! ### Blocks of `f` bytes -/

/-- `n / f`, rounded up -/
def blockCount (f n : Nat) : Nat := (n + f - 1) / f

@[simp] theorem blockCount_zero (f : Nat) : blockCount f 0 = 0 := by
  rcases Nat.eq_zero_or_pos f with rfl | hf
  · rfl
  · exact Nat.div_eq_of_lt (by omega)

theorem blockCount_eq_succ {f n : Nat} (hf : 0 < f) (hn : 0 < n) : blockCount f n = blockCount f (n - f) + 1 := by
  unfold blockCount
  rcases Nat.lt_or_ge f n with hlt | hge
  · have hsub : n + f - 1 = (n - f + f - 1) + f := by omega
    rw [hsub, Nat.add_div_right _ hf]
  · have hrest : (n - f + f - 1) / f = 0 := Nat.div_eq_of_lt (by omega)
    have hone : n + f - 1 = (n - 1) + f := by omega
    rw [hrest, hone, Nat.add_div_right _ hf, Nat.div_eq_of_lt (by omega)]

theorem blockCount_cons {f : Nat} (hf : 0 < f) (a : UInt8) (m : Bytes) :
    blockCount f (a :: m).length = blockCount f ((a :: m).drop f).length + 1 := by
  rw [List.length_drop]
  exact blockCount_eq_succ hf (Nat.succ_pos m.length)

namespace Primitives

theorem map_eq_ok {ε α β : Type} {e : Except ε α} {g : α → β} {b : β} (h : e.map g = .ok b) :
    ∃ a, e = .ok a ∧ g a = b := by
  cases e with
  | error => cases h
  | ok a =>
    cases h
    exact ⟨a, rfl, rfl⟩

variable {Pub Priv Rand : Type} {p : Primitives Pub Priv Rand} {k : Pub} {d : Priv}

namespace KeyPair

theorem encryptRounds_cons (hp : p.KeyPair k d) (rounds : Nat) (rand : Nat → Rand) (a : UInt8) (m : Bytes)
    (room : Nat) : p.encryptRounds k (rounds + 1) rand (a :: m) room =
      if room < p.fixedCiphertextLength d then .error (-2)
      else (p.encryptRounds k rounds (fun i => rand (i + 1)) ((a :: m).drop (p.fixedMaxPlaintextLength k))
        (room - p.fixedCiphertextLength d)).map fun rest =>
          p.encrypt k (rand 0) ((a :: m).take (p.fixedMaxPlaintextLength k)) ++ rest := by
  have hle : ((a :: m).take (p.fixedMaxPlaintextLength k)).length ≤ p.fixedMaxPlaintextLength k :=
    List.length_take_le _ _
  rw [encryptRounds]
  simp only [hp.ciphertextLength _ hle]

/-- The induction is on the rounds; a round takes one block of the room. -/
theorem encryptRounds_ok (hp : p.KeyPair k d) (hf : 0 < p.fixedMaxPlaintextLength k) {rounds : Nat}
    (rand : Nat → Rand) {m : Bytes} {room : Nat}
    (hrounds : blockCount (p.fixedMaxPlaintextLength k) m.length ≤ rounds)
    (hroom : blockCount (p.fixedMaxPlaintextLength k) m.length * p.fixedCiphertextLength d ≤ room) :
    ∃ c, p.encryptRounds k rounds rand m room = .ok c := by
  induction rounds generalizing rand m room with
  | zero =>
    cases m with
    | nil => exact ⟨[], rfl⟩
    | cons a m =>
      rw [blockCount_cons hf] at hrounds
      omega
  | succ rounds ih =>
    cases m with
    | nil => exact ⟨[], rfl⟩
    | cons a m =>
      rw [blockCount_cons hf] at hrounds hroom
      rw [Nat.succ_mul] at hroom
      have hroom' : blockCount (p.fixedMaxPlaintextLength k) (((a :: m).drop (p.fixedMaxPlaintextLength k))).length *
          p.fixedCiphertextLength d ≤ room - p.fixedCiphertextLength d := by omega
      obtain ⟨c, hc⟩ := ih (fun i => rand (i + 1)) (Nat.le_of_succ_le_succ hrounds) hroom'
      rw [hp.encryptRounds_cons, if_neg (by omega), hc]
      exact ⟨_, rfl⟩

theorem length_encryptRounds (hp : p.KeyPair k d) (hf : 0 < p.fixedMaxPlaintextLength k) {rounds : Nat}
    {rand : Nat → Rand} {m c : Bytes} {room : Nat} (hc : p.encryptRounds k rounds rand m room = .ok c) :
    c.length = blockCount (p.fixedMaxPlaintextLength k) m.length * p.fixedCiphertextLength d ∧ c.length ≤ room := by
  induction rounds generalizing rand m c room with
  | zero =>
    cases m with
    | nil =>
      cases hc
      simp
    | cons a m => cases hc
  | succ rounds ih =>
    cases m with
    | nil =>
      cases hc
      simp
    | cons a m =>
      rw [hp.encryptRounds_cons] at hc
      split at hc
      · cases hc
      rename_i hroom
      obtain ⟨rest, hrest, rfl⟩ := map_eq_ok hc
      obtain ⟨hlen, hle⟩ := ih hrest
      have htake : ((a :: m).take (p.fixedMaxPlaintextLength k)).length ≤ p.fixedMaxPlaintextLength k :=
        List.length_take_le _ _
      rw [List.length_append, hp.encrypt_length _ _ htake, hp.ciphertextLength _ htake,
        blockCount_cons hf, Nat.succ_mul]
      omega

/-- Each round of the decryption asks for the room of a full block. -/
theorem le_room_of_decryptRounds (hp : p.KeyPair k d) (hf : 0 < p.fixedMaxPlaintextLength k) {rounds : Nat}
    {rand : Nat → Rand} {m c out : Bytes} {room rounds' room' : Nat}
    (hc : p.encryptRounds k rounds rand m room = .ok c) (hout : p.decryptRounds d rounds' c room' = .ok out) :
    blockCount (p.fixedMaxPlaintextLength k) m.length * p.fixedMaxPlaintextLength k ≤ room' := by
  induction rounds generalizing rand m c out room rounds' room' with
  | zero =>
    cases m with
    | nil => simp
    | cons a m => cases hc
  | succ rounds ih =>
    cases m with
    | nil => simp
    | cons a m =>
      rw [hp.encryptRounds_cons] at hc
      split at hc
      · cases hc
      obtain ⟨rest, hrest, rfl⟩ := map_eq_ok hc
      have htake : ((a :: m).take (p.fixedMaxPlaintextLength k)).length ≤ p.fixedMaxPlaintextLength k :=
        List.length_take_le _ _
      have hlen := hp.encrypt_length (rand 0) _ htake
      rw [hp.ciphertextLength _ htake] at hlen
      cases rounds' with
      | zero =>
        -- a block is not empty
        have hnil : p.encrypt k (rand 0) ((a :: m).take (p.fixedMaxPlaintextLength k)) ++ rest = [] := by
          generalize p.encrypt k (rand 0) ((a :: m).take (p.fixedMaxPlaintextLength k)) ++ rest = c at hout
          cases c with
          | nil => rfl
          | cons => cases hout
        have hblock := hp.fixedCiphertextLength_pos
        rw [(List.append_eq_nil_iff.mp hnil).1, List.length_nil] at hlen
        omega
      | succ rounds' =>
        rw [hp.decryptRounds_append htake] at hout
        split at hout
        · cases hout
        rename_i hfull
        obtain ⟨out', hout', rfl⟩ := map_eq_ok hout
        have hrest' := ih hrest hout'
        rw [blockCount_cons hf, Nat.succ_mul]
        rw [List.length_take] at hrest'
        rcases Nat.lt_or_ge (a :: m).length (p.fixedMaxPlaintextLength k) with hlt | hge
        · rw [List.drop_of_length_le hlt.le, List.length_nil, blockCount_zero]
          omega
        · rw [Nat.min_eq_left hge] at hrest'
          omega

end KeyPair

/-- The keys of sender and receiver belong together, and the modulus has 1024 to 4096 bits. -/
structure RsaKeys (p : Primitives Pub Priv Rand) (sender receiver : CXFastDataParserHandle) (k : Pub) (d : Priv)
    (K : Nat) : Prop where
  publicKey : p.publicKey sender.m_strPubKey = some k
  privateKey : p.privateKey receiver.m_strPrivKey = some d
  pair : p.KeyPair k d
  plaintext : p.fixedMaxPlaintextLength k = K - 11
  ciphertext : p.fixedCiphertextLength d = K
  bits : 128 ≤ K ∧ K ≤ 512

variable (p) in
/-- `PrepareData` makes the ciphertext of every plaintext of `n` bytes with the buffers of
`PreparedAndSendPacket`. -/
def SendFits (sender : CXFastDataParserHandle) (rand : Nat → Rand) (K n : Nat) : Prop :=
  ∀ x dest cache : Bytes, x.length = n → dest.length = SendState.cacheBufLen n →
    cache.length = SendState.cacheBufLen n →
    ∃ b, p.prepareData sender rand .rsaPKCS1v15 .none ⟨x, dest, cache⟩ = some (b, blockCount (K - 11) n * K)

variable (p) in
/-- `ParseData` takes every ciphertext of `n` bytes with the buffers of `ParseMessage`. -/
def RecvFits (sender receiver : CXFastDataParserHandle) (rand : Nat → Rand) (n : Nat) : Prop :=
  ∀ (x : Bytes) (room : Nat) (c : Bytes × Nat) (hd : CXPacketHeader) (dest cache : Bytes), x.length = n →
    p.rsaEncryptData sender.m_strPubKey rand x room = .ok c → hd.dwOrignDataLen = n →
    dest.length = RecvState.outputRoom hd → cache.length = RecvState.newBufferLen hd →
    ∃ b, p.parseData receiver .rsaPKCS1v15 .none ⟨c.1, dest, cache⟩ = some (b, n)

variable (p) in
def EncryptedFits (sender receiver : CXFastDataParserHandle) (rand : Nat → Rand) (K n : Nat) : Prop :=
  p.SendFits sender rand K n ∧ p.RecvFits sender receiver rand n

namespace RsaKeys

variable {sender receiver : CXFastDataParserHandle} {K : Nat}

theorem plaintext_pos (hk : p.RsaKeys sender receiver k d K) : 0 < p.fixedMaxPlaintextLength k := by
  have hbits := hk.bits
  rw [hk.plaintext]
  omega

/-- `RSAEncryptData` makes its blocks exactly if they have room. -/
theorem rsaEncryptData_iff (hk : p.RsaKeys sender receiver k d K) (rand : Nat → Rand) {x : Bytes} {room : Nat} :
    (∃ c, p.rsaEncryptData sender.m_strPubKey rand x room = .ok c) ↔ blockCount (K - 11) x.length * K ≤ room := by
  constructor
  · rintro ⟨c, hc⟩
    obtain ⟨k', out, hk', hout, -⟩ := rsaEncryptData_eq_ok hc
    obtain rfl : k = k' := Option.some.inj (hk.publicKey.symm.trans hk')
    obtain ⟨hlen, hle⟩ := hk.pair.length_encryptRounds hk.plaintext_pos hout
    rwa [hlen, hk.plaintext, hk.ciphertext] at hle
  · intro hroom
    have hK : 0 < K := lt_of_lt_of_le (by decide) hk.bits.1
    rw [← hk.plaintext, ← hk.ciphertext] at hroom
    obtain ⟨c, hc⟩ := hk.pair.encryptRounds_ok hk.plaintext_pos rand
      (le_trans (Nat.le_mul_of_pos_right _ hk.pair.fixedCiphertextLength_pos) hroom) hroom
    refine ⟨(c, c.length), ?_⟩
    unfold rsaEncryptData
    rw [hk.publicKey]
    simp only [hc]
    rfl

theorem length_rsaEncryptData (hk : p.RsaKeys sender receiver k d K) {rand : Nat → Rand} {x : Bytes} {room : Nat}
    {c : Bytes × Nat} (hc : p.rsaEncryptData sender.m_strPubKey rand x room = .ok c) :
    c.2 = blockCount (K - 11) x.length * K := by
  obtain ⟨k', out, hk', hout, rfl⟩ := rsaEncryptData_eq_ok hc
  obtain rfl : k = k' := Option.some.inj (hk.publicKey.symm.trans hk')
  have hlen := (hk.pair.length_encryptRounds hk.plaintext_pos hout).1
  rwa [hk.plaintext, hk.ciphertext] at hlen

/-- `RSADecryptData` takes a ciphertext back if its room holds as many full blocks. -/
theorem rsaDecryptData_ok (hk : p.RsaKeys sender receiver k d K) {rand : Nat → Rand} {x : Bytes}
    {room room' : Nat}
    {c : Bytes × Nat} (hc : p.rsaEncryptData sender.m_strPubKey rand x room = .ok c)
    (hroom : blockCount (K - 11) x.length * (K - 11) ≤ room') :
    p.rsaDecryptData receiver.m_strPrivKey c.1 room' = .ok (x, x.length) := by
  obtain ⟨k', out, hk', hout, rfl⟩ := rsaEncryptData_eq_ok hc
  obtain rfl : k = k' := Option.some.inj (hk.publicKey.symm.trans hk')
  rw [← hk.plaintext] at hroom
  unfold rsaDecryptData
  rw [hk.privateKey]
  show Except.map _ (p.decryptRounds d out.length out room') = _
  rw [hk.pair.decryptRounds_encryptRounds hout le_rfl hroom]
  rfl

theorem le_room_of_rsaDecryptData (hk : p.RsaKeys sender receiver k d K) {rand : Nat → Rand} {x : Bytes}
    {room room' : Nat} {c m : Bytes × Nat} (hc : p.rsaEncryptData sender.m_strPubKey rand x room = .ok c)
    (hm : p.rsaDecryptData receiver.m_strPrivKey c.1 room' = .ok m) :
    blockCount (K - 11) x.length * (K - 11) ≤ room' := by
  obtain ⟨k', out, hk', hout, rfl⟩ := rsaEncryptData_eq_ok hc
  obtain rfl : k = k' := Option.some.inj (hk.publicKey.symm.trans hk')
  unfold rsaDecryptData at hm
  rw [hk.privateKey] at hm
  obtain ⟨out', hout', -⟩ := map_eq_ok hm
  rw [← hk.plaintext]
  exact hk.pair.le_room_of_decryptRounds hk.plaintext_pos hout hout'

/-- The sender's side. -/
theorem sendFits_iff (hk : p.RsaKeys sender receiver k d K) (rand : Nat → Rand) {n : Nat}
    (hn : n < cxMaxCacheSize) :
    p.SendFits sender rand K n ↔ blockCount (K - 11) n * K ≤ max (2 * n) 256 := by
  rw [← SendState.cacheBufLen_eq hn]
  have hle : n ≤ SendState.cacheBufLen n := by
    rw [SendState.cacheBufLen_eq hn]
    omega
  -- `PrepareData` fails where `RSAEncryptData` does
  have hprep : ∀ x dest cache : Bytes, x.length = n → dest.length = SendState.cacheBufLen n →
      p.prepareData sender rand .rsaPKCS1v15 .none ⟨x, dest, cache⟩ =
        (p.rsaEncryptData sender.m_strPubKey rand x (SendState.cacheBufLen n)).toOption.map fun out =>
          (Buffers.put ⟨x, dest, cache⟩ out.1 .dest, out.2) := by
    intro x dest cache hx hdest
    rw [prepareData_plain (by decide), if_neg (by rw [hx, hdest]; exact Nat.not_lt.mpr hle), hdest]
    rfl
  constructor
  · intro hfits
    obtain ⟨b, hb⟩ := hfits (List.replicate n 0) (List.replicate (SendState.cacheBufLen n) 0)
      (List.replicate (SendState.cacheBufLen n) 0) List.length_replicate List.length_replicate List.length_replicate
    rw [hprep _ _ _ List.length_replicate List.length_replicate] at hb
    obtain ⟨c, hc, -⟩ := Option.map_eq_some_iff.mp hb
    have hroom := (hk.rsaEncryptData_iff rand).mp ⟨c, toOption_eq_some.mp hc⟩
    rwa [List.length_replicate] at hroom
  · intro hroom x dest cache hx hdest _
    rw [← hx] at hroom
    obtain ⟨c, hc⟩ := (hk.rsaEncryptData_iff rand).mpr hroom
    rw [hprep x dest cache hx hdest, ← hx, hc, ← hk.length_rsaEncryptData hc]
    exact ⟨_, rfl⟩

/-- The receiver's side. -/
theorem recvFits_iff (hk : p.RsaKeys sender receiver k d K) (rand : Nat → Rand) {n : Nat}
    (hn : n < cxMaxCacheSize) :
    p.RecvFits sender receiver rand n ↔
      blockCount (K - 11) n * (K - 11) ≤ if n < 420 then 420 else n + 256 := by
  have hroom : ∀ hd : CXPacketHeader, hd.dwOrignDataLen = n →
      RecvState.outputRoom hd = if n < 420 then 420 else n + 256 := by
    intro hd hlen
    subst hlen
    exact RecvState.outputRoom_eq hn
  -- `ParseData` fails where `RSADecryptData` does
  have hparse : ∀ c dest cache : Bytes, p.parseData receiver .rsaPKCS1v15 .none ⟨c, dest, cache⟩ =
      (p.rsaDecryptData receiver.m_strPrivKey c dest.length).toOption.map fun out =>
        (Buffers.put ⟨c, dest, cache⟩ out.1 .dest, out.2) := fun c dest cache => parseData_plain (by decide)
  constructor
  · intro hfits
    obtain ⟨c, hc⟩ := (hk.rsaEncryptData_iff rand (x := List.replicate n 0)).mpr le_rfl
    obtain ⟨b, hb⟩ := hfits (List.replicate n 0) _ c ⟨0, 0, 0, 0, 0, n⟩
      (List.replicate (RecvState.outputRoom ⟨0, 0, 0, 0, 0, n⟩) 0)
      (List.replicate (RecvState.newBufferLen ⟨0, 0, 0, 0, 0, n⟩) 0) List.length_replicate hc rfl
      List.length_replicate List.length_replicate
    rw [hparse, List.length_replicate, hroom _ rfl] at hb
    obtain ⟨m, hm, -⟩ := Option.map_eq_some_iff.mp hb
    have hle := hk.le_room_of_rsaDecryptData hc (toOption_eq_some.mp hm)
    rwa [List.length_replicate] at hle
  · intro hle x room c hd dest cache hx hc hlen hdest _
    rw [← hroom hd hlen, ← hx] at hle
    rw [hparse, hdest, hk.rsaDecryptData_ok hc hle, ← hx]
    exact ⟨_, rfl⟩

/-- A packet of `n` bytes comes through exactly if its blocks have room on both sides. -/
theorem encryptedFits_iff (hk : p.RsaKeys sender receiver k d K) (rand : Nat → Rand) {n : Nat}
    (hn : n < cxMaxCacheSize) : p.EncryptedFits sender receiver rand K n ↔
      blockCount (K - 11) n * K ≤ max (2 * n) 256 ∧
        blockCount (K - 11) n * (K - 11) ≤ if n < 420 then 420 else n + 256 :=
  and_congr (hk.sendFits_iff rand hn) (hk.recvFits_iff rand hn)

end RsaKeys

/-! ### A key of 1024 bits -/

theorem rsaKeys_1024 : library1024.RsaKeys handle1024 handle1024 () () 128 where
  publicKey := readKey_self _
  privateKey := readKey_self _
  pair := keyPair_ofKey (by decide) _ _
  plaintext := rfl
  ciphertext := rfl
  bits := by decide

/-- Three full blocks. -/
theorem encryptedFits_1024 : library1024.EncryptedFits handle1024 handle1024 (fun _ => ()) 128 351 :=
  (rsaKeys_1024.encryptedFits_iff (fun _ => ()) (by decide)).mpr (by decide)

/-- The byte of the fourth block wants 468 bytes of room on the receiver's side, and there are 420. -/
theorem not_encryptedFits_1024 : library1024.RsaKeys handle1024 handle1024 () () 128 ∧
    ¬ library1024.EncryptedFits handle1024 handle1024 (fun _ => ()) 128 352 := by
  refine ⟨rsaKeys_1024, fun hfits => ?_⟩
  exact absurd ((rsaKeys_1024.recvFits_iff (fun _ => ()) (by decide)).mp hfits.2) (by decide)

end Primitives

end KonsanNet
