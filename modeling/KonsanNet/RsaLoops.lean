import KonsanNet.Blocks
import KonsanNet.RsaRoom

/-!
# The loops of `RSAEncryptData` and `RSADecryptData`

`encryptRounds` and `decryptRounds` run over what is left of the input and of the room. Here, the loops are as the
machine runs them: `size_t` offsets into both buffers, a limit that is a `DWORD`, and a space test that subtracts
one from the other. The rounds are what the loops do (`encryptLoop_outcome`, `decryptLoop_outcome`); that nothing
wraps is what makes them so. `rsaLoops` puts both together for a key that gives its blocks back.
-/

namespace KonsanNet

theorem patched_nil {α : Type} (l : List α) (off : Nat) : patched l off [] = l := by
  simp [patched]

theorem drop_patched {α : Type} {l a : List α} {off n : Nat} (h : off + a.length ≤ l.length)
    (hn : off + a.length ≤ n) : (patched l off a).drop n = l.drop n := by
  refine List.ext_getElem? fun i => ?_
  rw [List.getElem?_drop, List.getElem?_drop, getElem?_patched h, if_neg (by omega), if_neg (by omega)]

/-- `a - b` of two `size_t` -/
def subSize (a b : Nat) : Nat := (a + 2 ^ 64 - b) % 2 ^ 64

theorem subSize_of_le {a b : Nat} (hb : b ≤ a) (ha : a < 2 ^ 64) : subSize a b = a - b := by
  unfold subSize
  omega

/-- The locals of a loop, with the output buffer. `wrapped` records a space test that was made with more output than
the limit. -/
structure RsaLocals where
  i : Nat
  iTotalOutputDataLen : Nat
  pbyOutputBuf : Bytes
  wrapped : Bool

namespace RsaLocals

def start (pbyOutputBuf : Bytes) : RsaLocals := ⟨0, 0, pbyOutputBuf, false⟩

/-- The space test is made. -/
def tested (s : RsaLocals) (dwOutputBufLen : UInt32) : RsaLocals :=
  { s with wrapped := s.wrapped || decide (dwOutputBufLen.toNat < s.iTotalOutputDataLen) }

/-- `data` is written behind the output. -/
def stored (s : RsaLocals) (data : Bytes) : RsaLocals :=
  { s with pbyOutputBuf := patched s.pbyOutputBuf s.iTotalOutputDataLen data }

/-- `i += iFixedLen`, and `n` more bytes of output. -/
def advanced (s : RsaLocals) (iFixedLen n : Nat) : RsaLocals :=
  { s with
    i := (s.i + iFixedLen) % 2 ^ 64
    iTotalOutputDataLen := (s.iTotalOutputDataLen + n) % 2 ^ 64 }

end RsaLocals

/-- What a function returns, with `dwOutputBufLen` and the output buffer. -/
structure RsaResult where
  ret : Int
  dwOutputBufLen : UInt32
  pbyOutputBuf : Bytes

namespace Primitives

variable {Pub Priv Rand : Type} (p : Primitives Pub Priv Rand)

/-- The length of the block at `i`. -/
def dataLen (iFixedLen iInputBufLen i : Nat) : Nat :=
  if iFixedLen < subSize iInputBufLen i then iFixedLen else subSize iInputBufLen i

/-- `fuel` rounds of the loop of `RSAEncryptData`; `none` when it is still running. -/
def encryptLoop (k : Pub) (input : Bytes) (dwOutputBufLen : UInt32) :
    (fuel : Nat) → (Nat → Rand) → RsaLocals → Option Int × RsaLocals
  | 0, _, s => (none, s)
  | fuel + 1, rand, s =>
    if s.i < input.length then
      let iEncryptDataLen := dataLen (p.fixedMaxPlaintextLength k) input.length s.i
      let iOutputLen := p.ciphertextLength k iEncryptDataLen
      if subSize dwOutputBufLen.toNat s.iTotalOutputDataLen < iOutputLen then (some (-2), s.tested dwOutputBufLen)
      else
        encryptLoop k input dwOutputBufLen fuel (fun i => rand (i + 1))
          (((s.tested dwOutputBufLen).stored (p.encrypt k (rand 0) ((input.drop s.i).take iEncryptDataLen))).advanced
            (p.fixedMaxPlaintextLength k) iOutputLen)
    else (some 0, s)

/-- `fuel` rounds of the loop of `RSADecryptData`. -/
def decryptLoop (d : Priv) (input : Bytes) (dwOutputBufLen : UInt32) :
    (fuel : Nat) → RsaLocals → Option Int × RsaLocals
  | 0, s => (none, s)
  | fuel + 1, s =>
    if s.i < input.length then
      let iDecryptDataLen := dataLen (p.fixedCiphertextLength d) input.length s.i
      let iOutputLen := p.maxPlaintextLength d iDecryptDataLen
      if subSize dwOutputBufLen.toNat s.iTotalOutputDataLen < iOutputLen then (some (-2), s.tested dwOutputBufLen)
      else
        match p.decrypt d ((input.drop s.i).take iDecryptDataLen) with
        | none => (some (-4), s.tested dwOutputBufLen)
        | some message =>
          if iOutputLen < message.length then (some (-5), (s.tested dwOutputBufLen).stored message)
          else
            decryptLoop d input dwOutputBufLen fuel
              (((s.tested dwOutputBufLen).stored message).advanced (p.fixedCiphertextLength d) message.length)
    else (some 0, s)

/-- `dwOutputBufLen = iTotalOutputDataLen` and `return 0`, or the code of an error. -/
def finish (dwOutputBufLen : UInt32) (r : Option Int × RsaLocals) : Option RsaResult :=
  r.1.map fun ret =>
    ⟨ret, if ret = 0 then UInt32.ofNat r.2.iTotalOutputDataLen else dwOutputBufLen, r.2.pbyOutputBuf⟩

/-- `RSAEncryptData`; `none` when the loop is still running after `fuel` rounds. -/
def rsaEncryptLoops (strPubKey : String) (rand : Nat → Rand) (input : Bytes) (dwOutputBufLen : UInt32)
    (pbyOutputBuf : Bytes) (fuel : Nat) : Option RsaResult :=
  match p.publicKey strPubKey with
  | none => some ⟨-3, dwOutputBufLen, pbyOutputBuf⟩
  | some k => finish dwOutputBufLen (p.encryptLoop k input dwOutputBufLen fuel rand (.start pbyOutputBuf))

/-- `RSADecryptData` -/
def rsaDecryptLoops (strPrivKey : String) (input : Bytes) (dwOutputBufLen : UInt32) (pbyOutputBuf : Bytes)
    (fuel : Nat) : Option RsaResult :=
  match p.privateKey strPrivKey with
  | none => some ⟨-3, dwOutputBufLen, pbyOutputBuf⟩
  | some d => finish dwOutputBufLen (p.decryptLoop d input dwOutputBufLen fuel (.start pbyOutputBuf))

/-! ### One round -/

section Round

variable {p} {k : Pub} {d : Priv} {input : Bytes} {dwOutputBufLen : UInt32} {fuel : Nat} {rand : Nat → Rand}
  {s : RsaLocals}

theorem encryptLoop_end (hi : ¬ s.i < input.length) :
    p.encryptLoop k input dwOutputBufLen (fuel + 1) rand s = (some 0, s) := by
  rw [encryptLoop, if_neg hi]

theorem encryptLoop_round (hi : s.i < input.length) :
    p.encryptLoop k input dwOutputBufLen (fuel + 1) rand s =
      if subSize dwOutputBufLen.toNat s.iTotalOutputDataLen <
          p.ciphertextLength k (dataLen (p.fixedMaxPlaintextLength k) input.length s.i) then
        (some (-2), s.tested dwOutputBufLen)
      else
        p.encryptLoop k input dwOutputBufLen fuel (fun i => rand (i + 1))
          (((s.tested dwOutputBufLen).stored (p.encrypt k (rand 0) ((input.drop s.i).take
            (dataLen (p.fixedMaxPlaintextLength k) input.length s.i)))).advanced
            (p.fixedMaxPlaintextLength k) (p.ciphertextLength k
              (dataLen (p.fixedMaxPlaintextLength k) input.length s.i))) := by
  rw [encryptLoop, if_pos hi]

theorem encryptLoop_add (n : Nat) (h : (p.encryptLoop k input dwOutputBufLen fuel rand s).1 ≠ none) :
    p.encryptLoop k input dwOutputBufLen (fuel + n) rand s = p.encryptLoop k input dwOutputBufLen fuel rand s := by
  induction fuel generalizing rand s with
  | zero => exact absurd rfl h
  | succ fuel ih =>
    rw [Nat.succ_add]
    by_cases hi : s.i < input.length
    · rw [encryptLoop_round hi] at h
      rw [encryptLoop_round hi, encryptLoop_round hi]
      by_cases hroom : subSize dwOutputBufLen.toNat s.iTotalOutputDataLen <
          p.ciphertextLength k (dataLen (p.fixedMaxPlaintextLength k) input.length s.i)
      · rw [if_pos hroom, if_pos hroom]
      · rw [if_neg hroom] at h ⊢
        rw [if_neg hroom]
        exact ih h
    · rw [encryptLoop_end hi, encryptLoop_end hi]

theorem decryptLoop_end (hi : ¬ s.i < input.length) :
    p.decryptLoop d input dwOutputBufLen (fuel + 1) s = (some 0, s) := by
  rw [decryptLoop, if_neg hi]

theorem decryptLoop_round (hi : s.i < input.length) :
    p.decryptLoop d input dwOutputBufLen (fuel + 1) s =
      if subSize dwOutputBufLen.toNat s.iTotalOutputDataLen <
          p.maxPlaintextLength d (dataLen (p.fixedCiphertextLength d) input.length s.i) then
        (some (-2), s.tested dwOutputBufLen)
      else
        match p.decrypt d ((input.drop s.i).take (dataLen (p.fixedCiphertextLength d) input.length s.i)) with
        | none => (some (-4), s.tested dwOutputBufLen)
        | some message =>
          if p.maxPlaintextLength d (dataLen (p.fixedCiphertextLength d) input.length s.i) < message.length then
            (some (-5), (s.tested dwOutputBufLen).stored message)
          else
            p.decryptLoop d input dwOutputBufLen fuel
              (((s.tested dwOutputBufLen).stored message).advanced (p.fixedCiphertextLength d) message.length) := by
  rw [decryptLoop, if_pos hi]

end Round

/-! ### The space test -/

/-- The output is within the limit, and was at each test. -/
def NoWrap (dwOutputBufLen : UInt32) (s : RsaLocals) : Prop :=
  s.iTotalOutputDataLen ≤ dwOutputBufLen.toNat ∧ s.wrapped = false

section NoWrap

variable {p} {dwOutputBufLen : UInt32} {s : RsaLocals}

theorem noWrap_start (pbyOutputBuf : Bytes) : NoWrap dwOutputBufLen (.start pbyOutputBuf) := ⟨Nat.zero_le _, rfl⟩

theorem NoWrap.tested (h : NoWrap dwOutputBufLen s) : NoWrap dwOutputBufLen (s.tested dwOutputBufLen) :=
  ⟨h.1, by simp [RsaLocals.tested, h.2, h.1]⟩

theorem NoWrap.subSize_eq (h : NoWrap dwOutputBufLen s) :
    subSize dwOutputBufLen.toNat s.iTotalOutputDataLen = dwOutputBufLen.toNat - s.iTotalOutputDataLen :=
  subSize_of_le h.1 (dwOutputBufLen.toNat_lt.trans (by norm_num))

theorem NoWrap.advanced (h : NoWrap dwOutputBufLen s) (data : Bytes) (iFixedLen : Nat) {n : Nat}
    (hn : n ≤ dwOutputBufLen.toNat - s.iTotalOutputDataLen) :
    NoWrap dwOutputBufLen (((s.tested dwOutputBufLen).stored data).advanced iFixedLen n) := by
  have hle := h.1
  refine ⟨?_, h.tested.2⟩
  show (s.iTotalOutputDataLen + n) % 2 ^ 64 ≤ _
  exact le_trans (Nat.mod_le _ _) (by omega)

/-- No space test of `RSAEncryptData` wraps, whatever the library answers. -/
theorem noWrap_encryptLoop (k : Pub) (input : Bytes) {fuel : Nat} {rand : Nat → Rand} {s : RsaLocals}
    (h : NoWrap dwOutputBufLen s) : NoWrap dwOutputBufLen (p.encryptLoop k input dwOutputBufLen fuel rand s).2 := by
  induction fuel generalizing rand s with
  | zero => exact h
  | succ fuel ih =>
    by_cases hi : s.i < input.length
    · rw [encryptLoop_round hi]
      by_cases hroom : subSize dwOutputBufLen.toNat s.iTotalOutputDataLen <
          p.ciphertextLength k (dataLen (p.fixedMaxPlaintextLength k) input.length s.i)
      · rw [if_pos hroom]
        exact h.tested
      · rw [if_neg hroom]
        rw [h.subSize_eq] at hroom
        exact ih (h.advanced _ _ (Nat.not_lt.mp hroom))
    · rw [encryptLoop_end hi]
      exact h

theorem noWrap_decryptLoop (d : Priv) (input : Bytes) {fuel : Nat} {s : RsaLocals}
    (h : NoWrap dwOutputBufLen s) : NoWrap dwOutputBufLen (p.decryptLoop d input dwOutputBufLen fuel s).2 := by
  induction fuel generalizing s with
  | zero => exact h
  | succ fuel ih =>
    by_cases hi : s.i < input.length
    · rw [decryptLoop_round hi]
      by_cases hroom : subSize dwOutputBufLen.toNat s.iTotalOutputDataLen <
          p.maxPlaintextLength d (dataLen (p.fixedCiphertextLength d) input.length s.i)
      · rw [if_pos hroom]
        exact h.tested
      · rw [if_neg hroom]
        rw [h.subSize_eq] at hroom
        cases p.decrypt d ((input.drop s.i).take (dataLen (p.fixedCiphertextLength d) input.length s.i)) with
        | none => exact h.tested
        | some message =>
          by_cases hlong : p.maxPlaintextLength d (dataLen (p.fixedCiphertextLength d) input.length s.i) <
              message.length
          · simp only [if_pos hlong]
            exact h.tested
          · simp only [if_neg hlong]
            exact ih (h.advanced _ _ (le_trans (Nat.not_lt.mp hlong) (Nat.not_lt.mp hroom)))
    · rw [decryptLoop_end hi]
      exact h

end NoWrap

/-! ### The loops are the rounds -/

section Rounds

variable {p} {k : Pub} {d : Priv} {dwOutputBufLen : UInt32} {input : Bytes} {s : RsaLocals}

theorem dataLen_eq {f n i : Nat} (hi : i < n) (hn : n < 2 ^ 64) : dataLen f n i = min f (n - i) := by
  unfold dataLen
  rw [subSize_of_le hi.le hn]
  split_ifs <;> omega

theorem take_dataLen {f i : Nat} (hi : i < input.length) (hin : input.length < 2 ^ 64) :
    (input.drop i).take (dataLen f input.length i) = (input.drop i).take f := by
  rw [dataLen_eq hi hin, List.take_eq_take_iff, List.length_drop]
  omega

theorem length_block {f i : Nat} (hi : i < input.length) (hin : input.length < 2 ^ 64) :
    ((input.drop i).take f).length = dataLen f input.length i := by
  rw [dataLen_eq hi hin, List.length_take, List.length_drop]

/-- What a run that begins with `s` comes to, by what the rounds come to. -/
def Outcome (dwOutputBufLen : UInt32) (s : RsaLocals) (r : Option Int × RsaLocals) : Except Int Bytes → Prop
  | .ok out => r.1 = some 0 ∧ r.2.iTotalOutputDataLen = s.iTotalOutputDataLen + out.length ∧
      r.2.pbyOutputBuf = patched s.pbyOutputBuf s.iTotalOutputDataLen out
  | .error e => r.1 = some e ∧ r.2.pbyOutputBuf.length = s.pbyOutputBuf.length ∧
      r.2.pbyOutputBuf.drop dwOutputBufLen.toNat = s.pbyOutputBuf.drop dwOutputBufLen.toNat

theorem outcome_nil (dwOutputBufLen : UInt32) (s : RsaLocals) : Outcome dwOutputBufLen s (some 0, s) (.ok []) :=
  ⟨rfl, rfl, (patched_nil ..).symm⟩

theorem Outcome.cons {s' : RsaLocals} {r : Option Int × RsaLocals} {res : Except Int Bytes} {data : Bytes}
    (h : Outcome dwOutputBufLen s' r res) (htotal : s'.iTotalOutputDataLen = s.iTotalOutputDataLen + data.length)
    (hbuf : s'.pbyOutputBuf = patched s.pbyOutputBuf s.iTotalOutputDataLen data)
    (hroom : s'.iTotalOutputDataLen ≤ dwOutputBufLen.toNat) (hlen : dwOutputBufLen.toNat ≤ s.pbyOutputBuf.length)
    (hres : ∀ out, res = .ok out → out.length ≤ dwOutputBufLen.toNat - s'.iTotalOutputDataLen) :
    Outcome dwOutputBufLen s r (res.map fun out => data ++ out) := by
  have hin : s.iTotalOutputDataLen + data.length ≤ s.pbyOutputBuf.length := by omega
  cases res with
  | error e =>
    obtain ⟨hret, hsize, hdrop⟩ := h
    refine ⟨hret, ?_, ?_⟩
    · rw [hsize, hbuf, length_patched hin]
    · rw [hdrop, hbuf, drop_patched hin (by omega)]
  | ok out =>
    obtain ⟨hret, htotal', hbuf'⟩ := h
    have hout := hres out rfl
    refine ⟨hret, ?_, ?_⟩
    · rw [htotal', htotal, List.length_append, Nat.add_assoc]
    · rw [hbuf', hbuf, patched_patched_right htotal (by omega)]

theorem advanced_i {n : Nat} (hi : s.i + n < 2 ^ 64) (m : Nat) : (s.advanced n m).i = s.i + n := Nat.mod_eq_of_lt hi

theorem advanced_total {m : Nat} (hm : s.iTotalOutputDataLen + m < 2 ^ 64) (n : Nat) :
    (s.advanced n m).iTotalOutputDataLen = s.iTotalOutputDataLen + m := Nat.mod_eq_of_lt hm

/-- The output is as far as the input at least, since a block becomes longer: so neither offset wraps. -/
theorem KeyPair.encryptLoop_outcome (hp : p.KeyPair k d)
    (hf : 0 < p.fixedMaxPlaintextLength k) (hlt : p.fixedMaxPlaintextLength k < p.fixedCiphertextLength d)
    (hin : input.length < 2 ^ 64) {rounds fuel : Nat} {rand : Nat → Rand}
    (hs : NoWrap dwOutputBufLen s) (hi : s.i ≤ s.iTotalOutputDataLen)
    (hlen : dwOutputBufLen.toNat ≤ s.pbyOutputBuf.length)
    (hrounds : dwOutputBufLen.toNat - s.iTotalOutputDataLen ≤ rounds) (hfuel : rounds < fuel) :
    Outcome dwOutputBufLen s (p.encryptLoop k input dwOutputBufLen fuel rand s)
      (p.encryptRounds k rounds rand (input.drop s.i) (dwOutputBufLen.toNat - s.iTotalOutputDataLen)) := by
  induction fuel generalizing rounds rand s with
  | zero => exact absurd hfuel (Nat.not_lt_zero _)
  | succ fuel ih =>
    by_cases hmore : s.i < input.length
    · have hblock := length_block (f := p.fixedMaxPlaintextLength k) hmore hin
      have hle : dataLen (p.fixedMaxPlaintextLength k) input.length s.i ≤ p.fixedMaxPlaintextLength k := by
        rw [dataLen_eq hmore hin]
        exact Nat.min_le_left ..
      obtain ⟨a, rest, hdrop⟩ : ∃ a rest, input.drop s.i = a :: rest :=
        List.exists_cons_of_ne_nil (mt List.drop_eq_nil_iff.mp (Nat.not_le.mpr hmore))
      rw [encryptLoop_round hmore, take_dataLen hmore hin, hp.ciphertextLength _ hle, hs.subSize_eq]
      by_cases hroom : dwOutputBufLen.toNat - s.iTotalOutputDataLen < p.fixedCiphertextLength d
      · have herror : p.encryptRounds k rounds rand (input.drop s.i)
            (dwOutputBufLen.toNat - s.iTotalOutputDataLen) = .error (-2) := by
          rw [hdrop]
          cases rounds with
          | zero => rfl
          | succ rounds => rw [hp.encryptRounds_cons, if_pos hroom]
        rw [if_pos hroom, herror]
        exact ⟨rfl, rfl, rfl⟩
      · rw [if_neg hroom]
        have hlimit : dwOutputBufLen.toNat < 2 ^ 64 := dwOutputBufLen.toNat_lt.trans (by norm_num)
        have hroom := Nat.not_lt.mp hroom
        have htotal := hs.1
        cases rounds with
        | zero => omega
        | succ rounds =>
          have hsize : (p.encrypt k (rand 0) ((input.drop s.i).take (p.fixedMaxPlaintextLength k))).length =
              p.fixedCiphertextLength d := by
            rw [hp.encrypt_length _ _ (hblock ▸ hle), hp.ciphertextLength _ (hblock ▸ hle)]
          generalize hdata : p.encrypt k (rand 0) ((input.drop s.i).take (p.fixedMaxPlaintextLength k)) = data
            at hsize ⊢
          have hnext := hs.advanced data (p.fixedMaxPlaintextLength k) hroom
          have hi' := @advanced_i ((s.tested dwOutputBufLen).stored data) (p.fixedMaxPlaintextLength k)
            (lt_of_le_of_lt (show s.i + _ ≤ dwOutputBufLen.toNat by omega) hlimit) (p.fixedCiphertextLength d)
          have htotal' := @advanced_total ((s.tested dwOutputBufLen).stored data) (p.fixedCiphertextLength d)
            (lt_of_le_of_lt (show s.iTotalOutputDataLen + _ ≤ dwOutputBufLen.toNat by omega) hlimit)
            (p.fixedMaxPlaintextLength k)
          have hbuf' : (((s.tested dwOutputBufLen).stored data).advanced (p.fixedMaxPlaintextLength k)
            (p.fixedCiphertextLength d)).pbyOutputBuf = patched s.pbyOutputBuf s.iTotalOutputDataLen data := rfl
          generalize ((s.tested dwOutputBufLen).stored data).advanced (p.fixedMaxPlaintextLength k)
            (p.fixedCiphertextLength d) = s' at hnext hi' htotal' hbuf' ⊢
          change s'.i = s.i + _ at hi'
          change s'.iTotalOutputDataLen = s.iTotalOutputDataLen + _ at htotal'
          have hin' : s.iTotalOutputDataLen + data.length ≤ s.pbyOutputBuf.length := by omega
          have hrest := @ih s' rounds (fun i => rand (i + 1)) hnext (by omega)
            (by rw [hbuf', length_patched hin']; exact hlen) (by omega) (Nat.lt_of_succ_lt_succ hfuel)
          rw [hdrop, hp.encryptRounds_cons, if_neg (Nat.not_lt.mpr hroom), ← hdrop, hdata, List.drop_drop, ← hi',
            show dwOutputBufLen.toNat - s.iTotalOutputDataLen - p.fixedCiphertextLength d =
              dwOutputBufLen.toNat - s'.iTotalOutputDataLen by omega]
          exact hrest.cons (hsize ▸ htotal') hbuf' hnext.1 hlen fun out hout => (hp.length_encryptRounds hf hout).2
    · have hnil : input.drop s.i = [] := List.drop_eq_nil_iff.mpr (Nat.not_lt.mp hmore)
      rw [encryptLoop_end hmore, hnil]
      cases rounds <;> exact outcome_nil ..

/-- The rounds that give an output are those of the loop, on an input that is not too long for its offsets. -/
theorem decryptLoop_outcome (hin : input ≠ [] → input.length + p.fixedCiphertextLength d ≤ 2 ^ 64)
    (hpos : 0 < p.fixedCiphertextLength d) {rounds fuel : Nat} (hs : NoWrap dwOutputBufLen s)
    (hlen : dwOutputBufLen.toNat ≤ s.pbyOutputBuf.length) (hfuel : rounds < fuel) {out : Bytes}
    (h : p.decryptRounds d rounds (input.drop s.i) (dwOutputBufLen.toNat - s.iTotalOutputDataLen) = .ok out) :
    out.length ≤ dwOutputBufLen.toNat - s.iTotalOutputDataLen ∧
      Outcome dwOutputBufLen s (p.decryptLoop d input dwOutputBufLen fuel s) (.ok out) := by
  induction fuel generalizing rounds s out with
  | zero => exact absurd hfuel (Nat.not_lt_zero _)
  | succ fuel ih =>
    by_cases hmore : s.i < input.length
    · have hin := hin (List.ne_nil_of_length_pos (Nat.zero_lt_of_lt hmore))
      have hin' : input.length < 2 ^ 64 := lt_of_lt_of_le (Nat.lt_add_of_pos_right hpos) hin
      have hblock := length_block (f := p.fixedCiphertextLength d) hmore hin'
      obtain ⟨a, rest, hdrop⟩ : ∃ a rest, input.drop s.i = a :: rest :=
        List.exists_cons_of_ne_nil (mt List.drop_eq_nil_iff.mp (Nat.not_le.mpr hmore))
      rw [decryptLoop_round hmore, take_dataLen hmore hin', hs.subSize_eq]
      cases rounds with
      | zero =>
        rw [hdrop] at h
        cases h
      | succ rounds =>
        rw [hdrop, decryptRounds, ← hdrop, hblock] at h
        by_cases hroom : dwOutputBufLen.toNat - s.iTotalOutputDataLen <
            p.maxPlaintextLength d (dataLen (p.fixedCiphertextLength d) input.length s.i)
        · simp only [if_pos hroom] at h
          cases h
        simp only [if_neg hroom] at h ⊢
        cases hm : p.decrypt d ((input.drop s.i).take (p.fixedCiphertextLength d)) with
        | none =>
          rw [hm] at h
          cases h
        | some message =>
          rw [hm] at h
          by_cases hlong : p.maxPlaintextLength d (dataLen (p.fixedCiphertextLength d) input.length s.i) <
              message.length
          · simp only [if_pos hlong] at h
            cases h
          simp only [if_neg hlong] at h ⊢
          obtain ⟨out', hout', rfl⟩ := map_eq_ok h
          have hlimit : dwOutputBufLen.toNat < 2 ^ 64 := dwOutputBufLen.toNat_lt.trans (by norm_num)
          have hfit := le_trans (Nat.not_lt.mp hlong) (Nat.not_lt.mp hroom)
          have htotal := hs.1
          have hnext := hs.advanced message (p.fixedCiphertextLength d) hfit
          have hi' := @advanced_i ((s.tested dwOutputBufLen).stored message) (p.fixedCiphertextLength d)
            (lt_of_lt_of_le (show s.i + _ < input.length + p.fixedCiphertextLength d by omega) hin) message.length
          have htotal' := @advanced_total ((s.tested dwOutputBufLen).stored message) message.length
            (lt_of_le_of_lt (show s.iTotalOutputDataLen + _ ≤ dwOutputBufLen.toNat by omega) hlimit)
            (p.fixedCiphertextLength d)
          have hbuf' : (((s.tested dwOutputBufLen).stored message).advanced (p.fixedCiphertextLength d)
            message.length).pbyOutputBuf = patched s.pbyOutputBuf s.iTotalOutputDataLen message := rfl
          generalize ((s.tested dwOutputBufLen).stored message).advanced (p.fixedCiphertextLength d)
            message.length = s' at hnext hi' htotal' hbuf' ⊢
          change s'.i = s.i + _ at hi'
          change s'.iTotalOutputDataLen = s.iTotalOutputDataLen + _ at htotal'
          have hin'' : s.iTotalOutputDataLen + message.length ≤ s.pbyOutputBuf.length := by omega
          rw [List.drop_drop, ← hi', show dwOutputBufLen.toNat - s.iTotalOutputDataLen - message.length =
            dwOutputBufLen.toNat - s'.iTotalOutputDataLen by omega] at hout'
          obtain ⟨hle, hrest⟩ := ih hnext (by rw [hbuf', length_patched hin'']; exact hlen)
            (Nat.lt_of_succ_lt_succ hfuel) hout'
          refine ⟨by rw [List.length_append]; omega, ?_⟩
          refine hrest.cons htotal' hbuf' hnext.1 hlen fun out hout => ?_
          cases hout
          exact hle
    · have hnil : input.drop s.i = [] := List.drop_eq_nil_iff.mpr (Nat.not_lt.mp hmore)
      rw [hnil] at h
      rw [decryptLoop_end hmore]
      cases rounds <;>
      · cases h
        exact ⟨Nat.zero_le _, outcome_nil ..⟩

theorem encryptRounds_error {rounds room : Nat} {rand : Nat → Rand} {m : Bytes} {e : Int}
    (h : p.encryptRounds k rounds rand m room = .error e) : e = -2 := by
  induction rounds generalizing rand m room with
  | zero =>
    cases m with
    | nil => cases h
    | cons a m =>
      cases h
      rfl
  | succ rounds ih =>
    cases m with
    | nil => cases h
    | cons a m =>
      rw [encryptRounds] at h
      by_cases hroom : room < p.ciphertextLength k ((a :: m).take (p.fixedMaxPlaintextLength k)).length
      · simp only [if_pos hroom] at h
        cases h
        rfl
      · simp only [if_neg hroom] at h
        cases hrest : p.encryptRounds k rounds (fun i => rand (i + 1)) ((a :: m).drop (p.fixedMaxPlaintextLength k))
            (room - p.ciphertextLength k ((a :: m).take (p.fixedMaxPlaintextLength k)).length) with
        | ok c =>
          rw [hrest] at h
          cases h
        | error e' =>
          rw [hrest] at h
          cases h
          exact ih hrest

theorem toNat_ofNat_of_le {n : Nat} {limit : UInt32} (h : n ≤ limit.toNat) : (UInt32.ofNat n).toNat = n :=
  UInt32.toNat_ofNat_of_lt' (lt_of_le_of_lt h limit.toNat_lt)

variable {strPubKey strPrivKey : String} {m : Bytes} {pbyOutputBuf : Bytes}

/-- `RSADecryptData` on the blocks that `encryptRounds` made of `m`. -/
theorem KeyPair.rsaDecryptLoops_eq (hp : p.KeyPair k d) (hd : p.privateKey strPrivKey = some d)
    (hf : 0 < p.fixedMaxPlaintextLength k) {rounds : Nat} {rand : Nat → Rand} {room : UInt32} {c : Bytes}
    (hc : p.encryptRounds k rounds rand m room.toNat = .ok c)
    (hroom : blockCount (p.fixedMaxPlaintextLength k) m.length * p.fixedMaxPlaintextLength k ≤ dwOutputBufLen.toNat)
    (hlen : dwOutputBufLen.toNat ≤ pbyOutputBuf.length) :
    ∃ r, (∀ fuel, c.length < fuel → p.rsaDecryptLoops strPrivKey c dwOutputBufLen pbyOutputBuf fuel = some r) ∧
      r.ret = 0 ∧ r.dwOutputBufLen.toNat = m.length ∧ m.length ≤ dwOutputBufLen.toNat ∧
        r.pbyOutputBuf = patched pbyOutputBuf 0 m := by
  obtain ⟨hsize, hle⟩ := hp.length_encryptRounds hf hc
  have hin : c ≠ [] → c.length + p.fixedCiphertextLength d ≤ 2 ^ 64 := by
    intro hne
    have hlimit := room.toNat_lt
    have hpos := List.length_pos_of_ne_nil hne
    have hone : p.fixedCiphertextLength d ≤ c.length := by
      rw [hsize] at hpos ⊢
      exact Nat.le_mul_of_pos_left _ (Nat.pos_of_mul_pos_right hpos)
    have hsum : c.length + p.fixedCiphertextLength d < 2 ^ 32 + 2 ^ 32 :=
      Nat.add_lt_add (lt_of_le_of_lt hle hlimit) (lt_of_le_of_lt (hone.trans hle) hlimit)
    exact hsum.le.trans (by norm_num)
  have hrounds := hp.decryptRounds_encryptRounds hc (le_refl c.length) hroom
  have hout : ∀ fuel, c.length < fuel → m.length ≤ dwOutputBufLen.toNat ∧
      Outcome dwOutputBufLen (.start pbyOutputBuf) (p.decryptLoop d c dwOutputBufLen fuel (.start pbyOutputBuf))
        (.ok m) := fun fuel hfuel =>
    decryptLoop_outcome hin hp.fixedCiphertextLength_pos (noWrap_start pbyOutputBuf) hlen hfuel hrounds
  obtain ⟨hm, -⟩ := hout _ (Nat.lt_succ_self _)
  refine ⟨⟨0, UInt32.ofNat m.length, patched pbyOutputBuf 0 m⟩, fun fuel hfuel => ?_, rfl, toNat_ofNat_of_le hm, hm,
    rfl⟩
  obtain ⟨-, hret, htotal, hbuf⟩ := hout fuel hfuel
  unfold rsaDecryptLoops
  rw [hd]
  show finish dwOutputBufLen _ = _
  rw [finish, hret, Option.map_some, if_pos rfl, htotal, hbuf]
  show some (RsaResult.mk 0 (UInt32.ofNat (0 + m.length)) _) = _
  rw [Nat.zero_add]
  rfl

variable (p) in
/-- In any room of `room` bytes, `RSADecryptData` ends with 0 and makes of `c` the bytes `m`, and nothing else. -/
def DecryptsTo (strPrivKey : String) (c m : Bytes) (room : Nat) : Prop :=
  ∀ (dwOutputBufLen : UInt32) (pbyOutputBuf : Bytes), dwOutputBufLen.toNat ≤ pbyOutputBuf.length →
    room ≤ dwOutputBufLen.toNat →
    ∃ r, (∀ fuel, c.length < fuel → p.rsaDecryptLoops strPrivKey c dwOutputBufLen pbyOutputBuf fuel = some r) ∧
      r.ret = 0 ∧ r.dwOutputBufLen.toNat = m.length ∧ r.pbyOutputBuf.take m.length = m ∧
      r.pbyOutputBuf.drop m.length = pbyOutputBuf.drop m.length

variable (p) in
/-- `RSAEncryptData` ends. Where `blocks` blocks have room, it writes these and nothing else, and they are decrypted
to `m` in the room of as many full blocks; otherwise it returns a negative code, without a write behind the limit. -/
def EncryptsTo (strPubKey strPrivKey : String) (rand : Nat → Rand) (m : Bytes) (dwOutputBufLen : UInt32)
    (pbyOutputBuf : Bytes) (blocks blockLen cipherLen : Nat) : Prop :=
  ∃ r, (∀ fuel, dwOutputBufLen.toNat < fuel →
      p.rsaEncryptLoops strPubKey rand m dwOutputBufLen pbyOutputBuf fuel = some r) ∧
    r.pbyOutputBuf.length = pbyOutputBuf.length ∧
    if blocks * cipherLen ≤ dwOutputBufLen.toNat then
      r.ret = 0 ∧ r.dwOutputBufLen.toNat = blocks * cipherLen ∧
      r.pbyOutputBuf.drop r.dwOutputBufLen.toNat = pbyOutputBuf.drop r.dwOutputBufLen.toNat ∧
      p.DecryptsTo strPrivKey (r.pbyOutputBuf.take r.dwOutputBufLen.toNat) m (blocks * blockLen)
    else r.ret < 0 ∧ r.pbyOutputBuf.drop dwOutputBufLen.toNat = pbyOutputBuf.drop dwOutputBufLen.toNat

/-- **The loops**. With a key whose blocks become longer and come back, `RSAEncryptData` makes the blocks of any input
that have room, and `RSADecryptData` makes the input of them; and no space test of the two wraps. -/
theorem KeyPair.rsaLoops (hp : p.KeyPair k d) (hk : p.publicKey strPubKey = some k)
    (hd : p.privateKey strPrivKey = some d) (hf : 0 < p.fixedMaxPlaintextLength k)
    (hlt : p.fixedMaxPlaintextLength k < p.fixedCiphertextLength d) (rand : Nat → Rand)
    (hm : m.length < 2 ^ 64) (hlen : dwOutputBufLen.toNat ≤ pbyOutputBuf.length) :
    p.EncryptsTo strPubKey strPrivKey rand m dwOutputBufLen pbyOutputBuf
        (blockCount (p.fixedMaxPlaintextLength k) m.length) (p.fixedMaxPlaintextLength k)
        (p.fixedCiphertextLength d) ∧
      (∀ fuel, NoWrap dwOutputBufLen (p.encryptLoop k m dwOutputBufLen fuel rand (.start pbyOutputBuf)).2) ∧
      ∀ (input : Bytes) (dwLen : UInt32) (pbyBuf : Bytes) (fuel : Nat),
        NoWrap dwLen (p.decryptLoop d input dwLen fuel (.start pbyBuf)).2 := by
  refine ⟨?_, fun fuel => noWrap_encryptLoop k m (noWrap_start _), fun input dwLen pbyBuf fuel =>
    noWrap_decryptLoop d input (noWrap_start _)⟩
  have hout : Outcome dwOutputBufLen (.start pbyOutputBuf)
      (p.encryptLoop k m dwOutputBufLen (dwOutputBufLen.toNat + 1) rand (.start pbyOutputBuf))
      (p.encryptRounds k dwOutputBufLen.toNat rand m dwOutputBufLen.toNat) :=
    hp.encryptLoop_outcome hf hlt hm (noWrap_start pbyOutputBuf) (le_refl 0) hlen (le_refl dwOutputBufLen.toNat)
      (Nat.lt_succ_self _)
  -- any number of rounds that is large enough
  have hmore : ∀ ret s, p.encryptLoop k m dwOutputBufLen (dwOutputBufLen.toNat + 1) rand (.start pbyOutputBuf) =
      (some ret, s) → ∀ fuel, dwOutputBufLen.toNat < fuel →
      p.rsaEncryptLoops strPubKey rand m dwOutputBufLen pbyOutputBuf fuel = finish dwOutputBufLen (some ret, s) := by
    intro ret s heq fuel hfuel
    obtain ⟨n, rfl⟩ := Nat.exists_eq_add_of_le (Nat.succ_le_of_lt hfuel)
    unfold rsaEncryptLoops
    rw [hk]
    show finish dwOutputBufLen _ = _
    rw [encryptLoop_add n (by rw [heq]; exact Option.some_ne_none ret), heq]
  cases hres : p.encryptRounds k dwOutputBufLen.toNat rand m dwOutputBufLen.toNat with
  | ok c =>
    rw [hres] at hout
    obtain ⟨hret, htotal, hbuf⟩ := hout
    obtain ⟨hsize, hle⟩ := hp.length_encryptRounds hf hres
    have hin : 0 + c.length ≤ pbyOutputBuf.length := by omega
    refine ⟨⟨0, UInt32.ofNat c.length, patched pbyOutputBuf 0 c⟩, fun fuel hfuel => ?_, length_patched hin,
      Eq.mpr (if_pos (hsize ▸ hle)) ⟨rfl, ?_⟩⟩
    · rw [hmore 0 _ (Prod.ext hret rfl) fuel hfuel, finish, Option.map_some, if_pos rfl, htotal, hbuf]
      show some (RsaResult.mk 0 (UInt32.ofNat (0 + c.length)) _) = _
      rw [Nat.zero_add]
      rfl
    · rw [toNat_ofNat_of_le hle]
      refine ⟨hsize, drop_patched hin (Nat.zero_add _).le, fun dwLen pbyBuf hbuf hroom => ?_⟩
      have htake : (patched pbyOutputBuf 0 c).take c.length = c := take_drop_patched hin
      rw [htake]
      obtain ⟨r', hr', hzero, hlen', hm', hbuf'⟩ := hp.rsaDecryptLoops_eq hd hf hres hroom hbuf
      have hin' : 0 + m.length ≤ pbyBuf.length := by omega
      refine ⟨r', hr', hzero, hlen', ?_, ?_⟩
      · rw [hbuf']
        exact take_drop_patched hin'
      · rw [hbuf']
        exact drop_patched hin' (Nat.zero_add _).le
  | error e =>
    rw [hres] at hout
    obtain ⟨hret, hsize, hdrop⟩ := hout
    have hnofit : ¬ blockCount (p.fixedMaxPlaintextLength k) m.length * p.fixedCiphertextLength d ≤
        dwOutputBufLen.toNat := by
      intro hfit
      obtain ⟨c, hc⟩ := hp.encryptRounds_ok hf rand
        (le_trans (Nat.le_mul_of_pos_right _ hp.fixedCiphertextLength_pos) hfit) hfit
      rw [hres] at hc
      cases hc
    obtain rfl := encryptRounds_error hres
    exact ⟨_, hmore (-2) _ (Prod.ext hret rfl), hsize, Eq.mpr (if_neg hnofit) ⟨(by decide : (-2 : Int) < 0), hdrop⟩⟩

end Rounds

/-- 120 bytes with a key of 1024 bits: a block of 117 and one of 3. -/
theorem rsaLoops_1024 : library1024.EncryptsTo pubKeyFile1024 privKeyFile1024 (fun _ => ()) (List.replicate 120 7) 256
      (List.replicate 256 0) 2 117 128 ∧
    (∀ fuel, NoWrap 256 (library1024.encryptLoop () (List.replicate 120 7) 256 fuel (fun _ => ())
      (.start (List.replicate 256 0))).2) ∧
    ∀ (input : Bytes) (dwLen : UInt32) (pbyBuf : Bytes) (fuel : Nat),
      NoWrap dwLen (library1024.decryptLoop () input dwLen fuel (.start pbyBuf)).2 :=
  (keyPair_ofKey (by decide) _ _).rsaLoops (readKey_self _) (readKey_self _) (by decide) (by decide)
    (fun _ => ()) (by simp) (by rw [List.length_replicate]; exact le_rfl)

end Primitives

end KonsanNet
