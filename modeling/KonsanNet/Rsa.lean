import Mathlib.Tactic
import Mathlib.NumberTheory.LucasPrimality

/-!
# RSA over octet strings

Powers modulo a number as a computation, keys whose exponents undo each other, big-endian octet strings, and the
padding of a message to a block (block type 2 of PKCS #1).

The random octets of a padding are all `1` here.
-/

namespace KonsanNet

namespace Rsa

/-! ### Powers -/

/-- `b ^ e % n` for an exponent of at most `bits` bits. -/
def powMod (n : Nat) : Nat → Nat → Nat → Nat
  | 0, _, _ => 1 % n
  | bits + 1, b, e =>
    if e % 2 = 0 then powMod n bits (b * b % n) (e / 2) else b * powMod n bits (b * b % n) (e / 2) % n

theorem powMod_eq {n bits : Nat} : ∀ {b e : Nat}, e < 2 ^ bits → powMod n bits b e = b ^ e % n := by
  induction bits with
  | zero =>
    intro b e he
    obtain rfl : e = 0 := by omega
    rfl
  | succ bits ih =>
    intro b e he
    have hhalf : powMod n bits (b * b % n) (e / 2) = b ^ (2 * (e / 2)) % n := by
      rw [ih (by omega), ← Nat.pow_mod, pow_mul, pow_two]
    unfold powMod
    rw [hhalf]
    by_cases heven : e % 2 = 0
    · rw [if_pos heven, show 2 * (e / 2) = e by omega]
    · rw [if_neg heven, Nat.mul_mod_mod, ← pow_succ', show 2 * (e / 2) + 1 = e by omega]

theorem cast_pow_eq_one_iff {p a k : Nat} (hp : 1 < p) : (a : ZMod p) ^ k = 1 ↔ a ^ k % p = 1 := by
  rw [← Nat.cast_pow, ← Nat.cast_one, ZMod.natCast_eq_natCast_iff', Nat.mod_eq_of_lt hp]

/-- A number `k * 2 ^ (m + 1) + 1` with a primitive root `a`. -/
theorem prime_of_root {p k m a : Nat} (bits : Nat) (hk : k.Prime) (hp : p = k * 2 ^ (m + 1) + 1) (hlt : p < 2 ^ bits)
    (hone : powMod p bits a (p - 1) = 1) (htwo : powMod p bits a ((p - 1) / 2) ≠ 1)
    (hodd : powMod p bits a ((p - 1) / k) ≠ 1) : p.Prime := by
  have hpos : 1 < p := by
    have := Nat.mul_pos hk.pos (Nat.two_pow_pos (m + 1))
    omega
  rw [powMod_eq (by omega)] at hone
  rw [powMod_eq (lt_of_le_of_lt (Nat.div_le_self _ _) (by omega))] at htwo hodd
  refine lucas_primality p a ((cast_pow_eq_one_iff hpos).mpr hone) fun q hq hdvd => ?_
  rw [hp, Nat.add_sub_cancel] at hdvd
  have hcases : q = k ∨ q = 2 := (hq.dvd_mul.mp hdvd).imp (Nat.prime_dvd_prime_iff_eq hq hk).mp
    fun h => (Nat.prime_dvd_prime_iff_eq hq Nat.prime_two).mp (hq.dvd_of_dvd_pow h)
  rw [ne_eq, cast_pow_eq_one_iff hpos]
  rcases hcases with rfl | rfl
  · exact hodd
  · exact htwo

theorem pow_modEq {p k x : Nat} (hp : p.Prime) (hk : k % (p - 1) = 1 % (p - 1)) (hpos : 0 < k) :
    x ^ k ≡ x [MOD p] := by
  have : Fact p.Prime := ⟨hp⟩
  rw [← ZMod.natCast_eq_natCast_iff, Nat.cast_pow]
  by_cases hx : (x : ZMod p) = 0
  · rw [hx, zero_pow hpos.ne']
  · obtain ⟨c, hc⟩ : ∃ c, k = (p - 1) * c + 1 := by
      obtain ⟨c, hc⟩ := (Nat.modEq_iff_dvd' hpos).mp (show 1 ≡ k [MOD p - 1] from hk.symm)
      exact ⟨c, by omega⟩
    rw [hc, pow_succ, pow_mul, ZMod.pow_card_sub_one_eq_one hx, one_pow, one_mul]

/-! ### Octet strings -/

def toNat (bs : List UInt8) : Nat := bs.foldl (fun x b => 256 * x + b.toNat) 0

def octets : Nat → Nat → List UInt8
  | 0, _ => []
  | len + 1, x => octets len (x / 256) ++ [UInt8.ofNat x]

@[simp] theorem toNat_append_singleton (bs : List UInt8) (b : UInt8) :
    toNat (bs ++ [b]) = 256 * toNat bs + b.toNat := by
  simp [toNat]

@[simp] theorem length_octets (len x : Nat) : (octets len x).length = len := by
  induction len generalizing x with
  | zero => rfl
  | succ len ih => simp [octets, ih]

theorem toNat_octets {len x : Nat} : toNat (octets len x) = x % 256 ^ len := by
  induction len generalizing x with
  | zero => simp [octets, toNat, Nat.mod_one]
  | succ len ih =>
    rw [octets, toNat_append_singleton, ih, pow_succ', Nat.mod_mul, UInt8.toNat_ofNat', Nat.add_comm]

theorem octets_toNat (bs : List UInt8) : octets bs.length (toNat bs) = bs := by
  induction bs using List.reverseRecOn with
  | nil => rfl
  | append_singleton bs b ih =>
    have hb : b.toNat < 256 := b.toNat_lt
    have hdiv : (256 * toNat bs + b.toNat) / 256 = toNat bs := by omega
    rw [List.length_append, List.length_singleton, octets, toNat_append_singleton, hdiv, ih]
    congr 2
    rw [← UInt8.toNat_inj, UInt8.toNat_ofNat']
    omega

theorem toNat_lt (bs : List UInt8) : toNat bs < 256 ^ bs.length := by
  induction bs using List.reverseRecOn with
  | nil => exact Nat.one_pos
  | append_singleton bs b ih =>
    have hb : b.toNat < 256 := b.toNat_lt
    rw [toNat_append_singleton, List.length_append, List.length_singleton, pow_succ]
    omega

/-! ### Blocks -/

def pad (len : Nat) (m : List UInt8) : List UInt8 := 0 :: 2 :: (List.replicate (len - 3 - m.length) 1 ++ 0 :: m)

def unpad : List UInt8 → Option (List UInt8)
  | 0 :: 2 :: rest => some ((rest.dropWhile (· ≠ 0)).drop 1)
  | _ => none

theorem length_pad {len : Nat} {m : List UInt8} (h : m.length + 3 ≤ len) : (pad len m).length = len := by
  simp only [pad, List.length_append, List.length_cons, List.length_replicate]
  omega

theorem unpad_pad (len : Nat) (m : List UInt8) : unpad (pad len m) = some m := by
  show some (((List.replicate (len - 3 - m.length) 1 ++ 0 :: m).dropWhile (· ≠ 0)).drop 1) = some m
  rw [List.dropWhile_append_of_pos]
  · rfl
  · intro a ha
    rw [List.eq_of_mem_replicate ha]
    rfl

/-! ### Keys -/

/-- A key whose modulus has `len` octets. -/
structure Key where
  p : Nat
  q : Nat
  e : Nat
  d : Nat
  len : Nat
  prime_p : p.Prime
  prime_q : q.Prime
  ne : p ≠ q
  pos : 0 < e * d
  inverse_p : e * d % (p - 1) = 1 % (p - 1)
  inverse_q : e * d % (q - 1) = 1 % (q - 1)
  e_lt : e < 2 ^ (8 * len)
  d_lt : d < 2 ^ (8 * len)
  le_modulus : 256 ^ (len - 1) ≤ p * q
  modulus_lt : p * q < 256 ^ len

namespace Key

variable (key : Key)

def modulus : Nat := key.p * key.q

theorem pow_pow {x : Nat} (hx : x < key.modulus) : (x ^ key.e % key.modulus) ^ key.d % key.modulus = x := by
  have hcop : Nat.Coprime key.p key.q := (Nat.coprime_primes key.prime_p key.prime_q).mpr key.ne
  have hmod : x ^ (key.e * key.d) ≡ x [MOD key.modulus] :=
    (Nat.modEq_and_modEq_iff_modEq_mul hcop).mp
      ⟨pow_modEq key.prime_p key.inverse_p key.pos, pow_modEq key.prime_q key.inverse_q key.pos⟩
  rw [← Nat.pow_mod, ← pow_mul, hmod, Nat.mod_eq_of_lt hx]

def encrypt (m : List UInt8) : List UInt8 :=
  octets key.len (powMod key.modulus (8 * key.len) (toNat (pad key.len m)) key.e)

def decrypt (c : List UInt8) : Option (List UInt8) :=
  unpad (octets key.len (powMod key.modulus (8 * key.len) (toNat c) key.d))

@[simp] theorem length_encrypt (m : List UInt8) : (key.encrypt m).length = key.len := length_octets _ _

theorem decrypt_encrypt {m : List UInt8} (h : m.length + 3 ≤ key.len) : key.decrypt (key.encrypt m) = some m := by
  have hlen : (pad key.len m).length = key.len := length_pad h
  have hblock : toNat (pad key.len m) < key.modulus := by
    refine lt_of_lt_of_le ?_ key.le_modulus
    have hlt := toNat_lt (pad key.len m).tail
    rwa [List.length_tail, hlen] at hlt
  have hcipher : toNat (pad key.len m) ^ key.e % key.modulus < 256 ^ key.len :=
    (Nat.mod_lt _ (Nat.zero_lt_of_lt hblock)).trans key.modulus_lt
  rw [decrypt, encrypt, powMod_eq key.e_lt, toNat_octets, Nat.mod_eq_of_lt hcipher, powMod_eq key.d_lt,
    key.pow_pow hblock]
  have hoctets := octets_toNat (pad key.len m)
  rw [hlen] at hoctets
  rw [hoctets]
  exact unpad_pad key.len m

end Key

end Rsa

end KonsanNet
