import KonsanNet.Packet
import KonsanNet.Recycle

/-!
# Guids as bytes and as text (`CXGuidObject`)

The first three fields of a guid are numbers that the bytes hold in the order of the host, and libuuid prints the
bytes one after the other; so `ConvertGuid` reverses the bytes of these fields before it prints them, and
`GenerateNewGuid` after it. The other `ConvertGuid` scans the text into numbers and copies these. On Linux, the two
orders agree for all bytes (`guid_text_bytes`). `uuid_unparse_upper` is given by what it prints.
-/

namespace KonsanNet

/-- `byte[CX_GUID_LEN]` -/
abbrev ByteGuid := { bs : List UInt8 // bs.length = 16 }

/-! ### Hexadecimal text -/

def hexChar (n : Nat) : Char := if n < 10 then Char.ofNat ('0'.toNat + n) else Char.ofNat ('A'.toNat + (n - 10))

/-- `%02X` -/
def hexPair (b : UInt8) : List Char := [hexChar (b.toNat / 16), hexChar (b.toNat % 16)]

def upperHex (bs : List UInt8) : List Char := bs.flatMap hexPair

/-- The value of a digit, of either case. -/
def hexValue (c : Char) : Option Nat :=
  if '0' ≤ c ∧ c ≤ '9' then some (c.toNat - '0'.toNat)
  else if 'A' ≤ c ∧ c ≤ 'F' then some (c.toNat - 'A'.toNat + 10)
  else if 'a' ≤ c ∧ c ≤ 'f' then some (c.toNat - 'a'.toNat + 10)
  else none

/-- The value of a digit, and 0 for another character. -/
def digitValue (c : Char) : Nat := (hexValue c).getD 0

/-! ### `sscanf` -/

/-- A character of the format, or `%0wX`. -/
inductive Directive
  | lit (c : Char)
  | hex (width : Nat)

/-- The digits at the front, `width` at most. -/
def scanDigits : (width : Nat) → List Char → List Char × List Char
  | 0, s => ([], s)
  | _ + 1, [] => ([], [])
  | width + 1, c :: s =>
    if (hexValue c).isSome then (c :: (scanDigits width s).1, (scanDigits width s).2) else ([], c :: s)

/-- The sign, with the width that it leaves. -/
def scanSign (width : Nat) : List Char → Bool × Nat × List Char
  | '-' :: s => (true, width - 1, s)
  | '+' :: s => (false, width - 1, s)
  | s => (false, width, s)

/-- The prefix `0x`, with the width that it leaves. -/
def scanPrefix (width : Nat) : List Char → Nat × List Char
  | '0' :: 'x' :: s => if 2 ≤ width then (width - 2, s) else (width, '0' :: 'x' :: s)
  | '0' :: 'X' :: s => if 2 ≤ width then (width - 2, s) else (width, '0' :: 'X' :: s)
  | s => (width, s)

/-- `isspace` -/
def isSpace (c : Char) : Bool := c = ' ' || (9 ≤ c.toNat && c.toNat ≤ 13)

/-- `%0wX` into an `unsigned int`: blanks, a sign, a prefix and digits; `none` without a digit. -/
def scanHex (width : Nat) (s : List Char) : Option (Nat × List Char) :=
  let sign := scanSign width (s.dropWhile isSpace)
  let pre := scanPrefix sign.2.1 sign.2.2
  let digits := scanDigits pre.1 pre.2
  if digits.1 = [] then none
  else
    some ((if sign.1 then 2 ^ 32 - hexNumber digitValue digits.1 % 2 ^ 32 else hexNumber digitValue digits.1) % 2 ^ 32,
      digits.2)

/-- The numbers that are assigned, up to the first directive that does not match. -/
def sscanf : List Directive → List Char → List Nat
  | [], _ => []
  | .lit _ :: _, [] => []
  | .lit c :: format, a :: s => if a = c then sscanf format s else []
  | .hex width :: format, s =>
    match scanHex width s with
    | some (n, s) => n :: sscanf format s
    | none => []

namespace CXGuidObject

/-- `"{%08X-%04X-%04X-%02X%02X-%02X%02X%02X%02X%02X%02X}"` -/
def format : List Directive :=
  [.lit '{', .hex 8, .lit '-', .hex 4, .lit '-', .hex 4, .lit '-', .hex 2, .hex 2, .lit '-', .hex 2, .hex 2, .hex 2,
    .hex 2, .hex 2, .hex 2, .lit '}']

def swapBytes (i j : Nat) (bs : List UInt8) : List UInt8 := (bs.set i (bs.getD j 0)).set j (bs.getD i 0)

/-- `ConvertBytes` on the `iLen` bytes from `off` on. -/
def convertBytes (off iLen : Nat) (bs : List UInt8) : List UInt8 :=
  (List.range (iLen / 2)).foldl (fun bs i => swapBytes (off + i) (off + (iLen - i - 1)) bs) bs

/-- The three calls of `ConvertBytes`. -/
def convertFields (bs : List UInt8) : List UInt8 := convertBytes 6 2 (convertBytes 4 2 (convertBytes 0 4 bs))

@[simp] theorem length_convertBytes (off iLen : Nat) (bs : List UInt8) :
    (convertBytes off iLen bs).length = bs.length := by
  unfold convertBytes
  induction List.range (iLen / 2) generalizing bs with
  | nil => rfl
  | cons i is ih => rw [List.foldl_cons, ih, swapBytes, List.length_set, List.length_set]

@[simp] theorem length_convertFields (bs : List UInt8) : (convertFields bs).length = bs.length := by
  simp [convertFields]

section Uuid

-- what libuuid writes for 16 bytes
variable (uuidUnparseUpper : ByteGuid → List Char)

def braced (text : List Char) : String := String.ofList ('{' :: text ++ ['}'])

/-- `ConvertGuid(const byte *pbyGuid)` -/
def convertGuidBytes (pbyGuid : ByteGuid) : String :=
  braced (uuidUnparseUpper ⟨convertFields pbyGuid, (length_convertFields _).trans pbyGuid.2⟩)

/-- `GenerateNewGuid(pbyGuid)`, where `uuid_generate` made `guid`: the text, and what is copied to `pbyGuid`. -/
def generateNewGuid (guid : ByteGuid) : String × ByteGuid :=
  (braced (uuidUnparseUpper guid), ⟨convertFields guid, (length_convertFields _).trans guid.2⟩)

end Uuid

/-- `ConvertGuid(const string &strGuid, byte *pbyGuid)`: the numbers that are not assigned are 0; the fields of
`cxguid` are cut to their types, and copied as the host holds them. -/
def convertGuidText (strGuid : String) : ByteGuid :=
  let p (i : Nat) : Nat := (sscanf format strGuid.toList).getD i 0
  ⟨leBytes 4 (p 0) ++ leBytes 2 (p 1) ++ leBytes 2 (p 2) ++ (List.range 8).map fun i => UInt8.ofNat (p (i + 3)),
    by simp⟩

/-! ### The two orders -/

/-- Bytes in order, in groups of 4, 2, 2, 2 and 6. -/
def dashed (bs : List UInt8) : List Char :=
  upperHex (bs.take 4) ++ '-' :: upperHex ((bs.drop 4).take 2) ++ '-' :: upperHex ((bs.drop 6).take 2) ++
    '-' :: upperHex ((bs.drop 8).take 2) ++ '-' :: upperHex (bs.drop 10)

def IsUpperHex (c : Char) : Prop := '0' ≤ c ∧ c ≤ '9' ∨ 'A' ≤ c ∧ c ≤ 'F'

/-- `k` upper-case digits -/
def UpperDigits (k : Nat) (ds : List Char) : Prop := ds.length = k ∧ ∀ c ∈ ds, IsUpperHex c

/-- `{XXXXXXXX-XXXX-XXXX-XXXX-XXXXXXXXXXXX}` with upper-case digits -/
def Canonical (s : String) : Prop :=
  ∃ d₁ d₂ d₃ d₄ d₅, UpperDigits 8 d₁ ∧ UpperDigits 4 d₂ ∧ UpperDigits 4 d₃ ∧ UpperDigits 4 d₄ ∧ UpperDigits 12 d₅ ∧
    s = braced (d₁ ++ '-' :: d₂ ++ '-' :: d₃ ++ '-' :: d₄ ++ '-' :: d₅)

end CXGuidObject

/-! ### Digits -/

theorem hexValue_hexChar : ∀ n < 16, hexValue (hexChar n) = some n := by decide

theorem isUpperHex_hexChar : ∀ n < 16, CXGuidObject.IsUpperHex (hexChar n) := by
  unfold CXGuidObject.IsUpperHex
  decide

theorem CXGuidObject.IsUpperHex.exists_hexChar {c : Char} (h : IsUpperHex c) : ∃ n < 16, c = hexChar n := by
  have hc : c = Char.ofNat c.toNat := (Char.ofNat_toNat c).symm
  rcases h with ⟨h₁, h₂⟩ | ⟨h₁, h₂⟩
  · have hlo : 48 ≤ c.toNat := h₁
    have hhi : c.toNat ≤ 57 := h₂
    refine ⟨c.toNat - 48, by omega, ?_⟩
    rw [hexChar, if_pos (by omega), show '0'.toNat + (c.toNat - 48) = c.toNat by show 48 + _ = _; omega]
    exact hc
  · have hlo : 65 ≤ c.toNat := h₁
    have hhi : c.toNat ≤ 70 := h₂
    refine ⟨c.toNat - 55, by omega, ?_⟩
    rw [hexChar, if_neg (by omega), show 'A'.toNat + (c.toNat - 55 - 10) = c.toNat by show 65 + _ = _; omega]
    exact hc

theorem length_upperHex (bs : List UInt8) : (upperHex bs).length = 2 * bs.length := by
  induction bs with
  | nil => rfl
  | cons b bs ih =>
    rw [upperHex, List.flatMap_cons, List.length_append, ← upperHex, ih, List.length_cons]
    show 2 + _ = _
    omega

theorem upperDigits_upperHex (bs : List UInt8) : CXGuidObject.UpperDigits (2 * bs.length) (upperHex bs) := by
  refine ⟨length_upperHex bs, fun c hc => ?_⟩
  obtain ⟨b, -, hb⟩ := List.mem_flatMap.mp hc
  have hlt := b.toNat_lt
  rcases List.mem_cons.mp hb with rfl | hb
  · exact isUpperHex_hexChar _ (by omega)
  · rw [List.mem_singleton.mp hb]
    exact isUpperHex_hexChar _ (Nat.mod_lt _ (by decide))

/-- Every text of digits, two for each byte, is printed from some bytes. -/
theorem CXGuidObject.UpperDigits.exists_bytes : ∀ {k : Nat} {ds : List Char}, UpperDigits (2 * k) ds →
    ∃ bs : List UInt8, bs.length = k ∧ ds = upperHex bs
  | 0, ds, h => ⟨[], rfl, List.eq_nil_of_length_eq_zero h.1⟩
  | k + 1, ds, ⟨hlen, hall⟩ => by
    match ds, hlen with
    | c :: d :: ds, hlen =>
      obtain ⟨n, hn, rfl⟩ := (hall c (by simp)).exists_hexChar
      obtain ⟨m, hm, rfl⟩ := (hall d (by simp)).exists_hexChar
      have hrest : UpperDigits (2 * k) ds := ⟨by simpa [Nat.mul_succ] using hlen, fun c hc => hall c (by simp [hc])⟩
      obtain ⟨bs, hbs, rfl⟩ := hrest.exists_bytes
      refine ⟨UInt8.ofNat (16 * n + m) :: bs, by simp [hbs], ?_⟩
      have htoNat : (UInt8.ofNat (16 * n + m)).toNat = 16 * n + m := by
        rw [UInt8.toNat_ofNat']
        omega
      rw [upperHex, upperHex, List.flatMap_cons, hexPair, htoNat, show (16 * n + m) / 16 = n by omega,
        show (16 * n + m) % 16 = m by omega]
      rfl

theorem hexNumber_append_pair (ds : List Char) (b : UInt8) :
    hexNumber digitValue (ds ++ hexPair b) = 256 * hexNumber digitValue ds + b.toNat := by
  have hb := b.toNat_lt
  unfold hexNumber digitValue
  rw [List.foldl_append, hexPair, List.foldl_cons, List.foldl_cons, List.foldl_nil, hexValue_hexChar _ (by omega),
    hexValue_hexChar _ (Nat.mod_lt _ (by decide)), Option.getD_some, Option.getD_some]
  omega

/-- The text of bytes is their value with the first byte the highest. -/
theorem hexNumber_upperHex (bs : List UInt8) : hexNumber digitValue (upperHex bs) = leValue bs.reverse := by
  induction bs using List.reverseRecOn with
  | nil => rfl
  | append_singleton bs b ih =>
    rw [upperHex, List.flatMap_append, List.flatMap_singleton, ← upperHex, hexNumber_append_pair, ih,
      List.reverse_concat, leValue_cons]
    omega

/-! ### Scanning -/

theorem scanDigits_append : ∀ {ds : List Char} (s : List Char), (∀ c ∈ ds, (hexValue c).isSome) →
    scanDigits ds.length (ds ++ s) = (ds, s)
  | [], [], _ => rfl
  | [], _ :: _, _ => rfl
  | c :: ds, s, h => by
    have hrest := scanDigits_append s fun d hd => h d (List.mem_cons_of_mem _ hd)
    rw [List.length_cons, List.cons_append, scanDigits, if_pos (h c List.mem_cons_self), hrest]

namespace CXGuidObject

namespace IsUpperHex

variable {c : Char}

theorem isSome (h : IsUpperHex c) : (hexValue c).isSome := by
  obtain ⟨n, hn, rfl⟩ := h.exists_hexChar
  rw [hexValue_hexChar n hn]
  rfl

theorem ne (h : IsUpperHex c) : isSpace c = false ∧ c ≠ '-' ∧ c ≠ '+' ∧ c ≠ 'x' ∧ c ≠ 'X' := by
  have hdigit : ∀ n < 16, isSpace (hexChar n) = false ∧ hexChar n ≠ '-' ∧ hexChar n ≠ '+' ∧ hexChar n ≠ 'x' ∧
      hexChar n ≠ 'X' := by decide
  obtain ⟨n, hn, rfl⟩ := h.exists_hexChar
  exact hdigit n hn

end IsUpperHex

/-- As many digits as the width: all of them are read, and no more. -/
theorem scanHex_append {w : Nat} {ds : List Char} (h : UpperDigits w ds) (hw : 2 ≤ w) (s : List Char) :
    scanHex w (ds ++ s) = some (hexNumber digitValue ds % 2 ^ 32, s) := by
  obtain ⟨rfl, hall⟩ := h
  match ds, hw with
  | c :: d :: ds, _ =>
    obtain ⟨hblank, hminus, hplus, -, -⟩ := (hall c (by simp)).ne
    obtain ⟨-, -, -, hx, hX⟩ := (hall d (by simp)).ne
    have hdrop : ((c :: d :: ds) ++ s).dropWhile isSpace = (c :: d :: ds) ++ s :=
      List.dropWhile_cons_of_neg (by simp [hblank])
    have hsign : scanSign (c :: d :: ds).length ((c :: d :: ds) ++ s) =
        (false, (c :: d :: ds).length, (c :: d :: ds) ++ s) := by
      unfold scanSign
      split
      · rename_i heq
        exact absurd (List.cons.inj heq).1 hminus
      · rename_i heq
        exact absurd (List.cons.inj heq).1 hplus
      · rfl
    have hpre : scanPrefix (c :: d :: ds).length ((c :: d :: ds) ++ s) =
        ((c :: d :: ds).length, (c :: d :: ds) ++ s) := by
      unfold scanPrefix
      split
      · rename_i heq
        exact absurd (List.cons.inj (List.cons.inj heq).2).1 hx
      · rename_i heq
        exact absurd (List.cons.inj (List.cons.inj heq).2).1 hX
      · rfl
    have hdigits := scanDigits_append s fun c hc => (hall c hc).isSome
    unfold scanHex
    simp only [hdrop, hsign, hpre, hdigits, reduceCtorEq, if_false, Bool.false_eq_true]

theorem scanHex_upperHex {k : Nat} {bs : List UInt8} (hlen : bs.length = k) (h₁ : 1 ≤ k) (h₄ : k ≤ 4) (s : List Char) :
    scanHex (2 * k) (upperHex bs ++ s) = some (leValue bs.reverse, s) := by
  subst hlen
  rw [scanHex_append (upperDigits_upperHex bs) (by omega), hexNumber_upperHex, Nat.mod_eq_of_lt]
  refine lt_of_lt_of_le (leValue_lt _) ?_
  rw [List.length_reverse]
  calc 256 ^ bs.length ≤ 256 ^ 4 := Nat.pow_le_pow_right (by decide) h₄
    _ = 2 ^ 32 := by decide

/-! ### There and back -/

theorem sscanf_lit (c : Char) (format : List Directive) (s : List Char) :
    sscanf (.lit c :: format) (c :: s) = sscanf format s := by simp [sscanf]

theorem sscanf_hex {w : Nat} {bs : List UInt8} (hw : w = 2 * bs.length) (h₁ : 1 ≤ bs.length) (h₄ : bs.length ≤ 4)
    (format : List Directive) (s : List Char) :
    sscanf (.hex w :: format) (upperHex bs ++ s) = leValue bs.reverse :: sscanf format s := by
  subst hw
  simp only [sscanf, scanHex_upperHex rfl h₁ h₄]

theorem leValue_singleton (b : UInt8) : leValue [b].reverse = b.toNat := by
  rw [List.reverse_singleton, leValue_cons]
  rfl

variable {bs : List UInt8}

theorem exists_bytes_sixteen (h : bs.length = 16) : ∃ b₀ b₁ b₂ b₃ b₄ b₅ b₆ b₇ b₈ b₉ b₁₀ b₁₁ b₁₂ b₁₃ b₁₄ b₁₅,
    bs = [b₀, b₁, b₂, b₃, b₄, b₅, b₆, b₇, b₈, b₉, b₁₀, b₁₁, b₁₂, b₁₃, b₁₄, b₁₅] := by
  match bs, h with
  | [b₀, b₁, b₂, b₃, b₄, b₅, b₆, b₇, b₈, b₉, b₁₀, b₁₁, b₁₂, b₁₃, b₁₄, b₁₅], _ =>
    exact ⟨b₀, b₁, b₂, b₃, b₄, b₅, b₆, b₇, b₈, b₉, b₁₀, b₁₁, b₁₂, b₁₃, b₁₄, b₁₅, rfl⟩

theorem convertFields_eq (h : bs.length = 16) : convertFields bs =
    (bs.take 4).reverse ++ ((bs.drop 4).take 2).reverse ++ ((bs.drop 6).take 2).reverse ++ bs.drop 8 := by
  obtain ⟨b₀, b₁, b₂, b₃, b₄, b₅, b₆, b₇, b₈, b₉, b₁₀, b₁₁, b₁₂, b₁₃, b₁₄, b₁₅, rfl⟩ := exists_bytes_sixteen h
  rfl

theorem convertFields_convertFields (h : bs.length = 16) : convertFields (convertFields bs) = bs := by
  obtain ⟨b₀, b₁, b₂, b₃, b₄, b₅, b₆, b₇, b₈, b₉, b₁₀, b₁₁, b₁₂, b₁₃, b₁₄, b₁₅, rfl⟩ := exists_bytes_sixteen h
  rfl

theorem sscanf_dashed (h : bs.length = 16) : sscanf format ('{' :: dashed bs ++ ['}']) =
    leValue (bs.take 4).reverse :: leValue ((bs.drop 4).take 2).reverse :: leValue ((bs.drop 6).take 2).reverse ::
      (bs.drop 8).map UInt8.toNat := by
  obtain ⟨b₀, b₁, b₂, b₃, b₄, b₅, b₆, b₇, b₈, b₉, b₁₀, b₁₁, b₁₂, b₁₃, b₁₄, b₁₅, rfl⟩ := exists_bytes_sixteen h
  have htext : '{' :: dashed [b₀, b₁, b₂, b₃, b₄, b₅, b₆, b₇, b₈, b₉, b₁₀, b₁₁, b₁₂, b₁₃, b₁₄, b₁₅] ++ ['}'] =
      '{' :: (upperHex [b₀, b₁, b₂, b₃] ++ '-' :: (upperHex [b₄, b₅] ++ '-' :: (upperHex [b₆, b₇] ++
        '-' :: (upperHex [b₈] ++ (upperHex [b₉] ++ '-' :: (upperHex [b₁₀] ++ (upperHex [b₁₁] ++ (upperHex [b₁₂] ++
          (upperHex [b₁₃] ++ (upperHex [b₁₄] ++ (upperHex [b₁₅] ++ ['}']))))))))))) := rfl
  rw [htext, format]
  iterate 4 rw [sscanf_lit, sscanf_hex (by rfl) (by simp) (by simp)]
  rw [sscanf_hex (by rfl) (by simp) (by simp), sscanf_lit]
  iterate 6 rw [sscanf_hex (by rfl) (by simp) (by simp)]
  rw [sscanf_lit, sscanf]
  simp only [leValue_singleton]
  rfl

theorem leBytes_reverse {k : Nat} {l : List UInt8} (h : l.length = k) : leBytes k (leValue l.reverse) = l.reverse := by
  rw [← h, ← List.length_reverse, leBytes_leValue]

theorem map_ofNat_toNat {bs : List UInt8} (h : bs.length = 8) (n₀ n₁ n₂ : Nat) :
    ((List.range 8).map fun i => UInt8.ofNat ((n₀ :: n₁ :: n₂ :: bs.map UInt8.toNat).getD (i + 3) 0)) = bs := by
  refine List.ext_getElem (by simp [h]) fun i hi hb => ?_
  rw [List.getElem_map, List.getElem_range, List.getD_cons_succ, List.getD_cons_succ, List.getD_cons_succ,
    List.getD_eq_getElem?_getD, List.getElem?_map, List.getElem?_eq_getElem hb, Option.map_some, Option.getD_some,
    UInt8.ofNat_toNat]

/-- What the text is read to: the bytes, with the fields as the host holds them. -/
theorem convertGuidText_braced (g : ByteGuid) : (convertGuidText (braced (dashed g.1))).1 = convertFields g.1 := by
  have hlen := g.2
  unfold convertGuidText braced
  simp only [String.toList_ofList]
  rw [sscanf_dashed hlen, convertFields_eq hlen, map_ofNat_toNat (by simp [hlen])]
  show leBytes 4 (leValue (g.1.take 4).reverse) ++ leBytes 2 (leValue ((g.1.drop 4).take 2).reverse) ++
    leBytes 2 (leValue ((g.1.drop 6).take 2).reverse) ++ _ = _
  rw [leBytes_reverse (by simp [hlen]), leBytes_reverse (by simp [hlen]), leBytes_reverse (by simp [hlen])]

theorem Canonical.exists_guid {s : String} (h : Canonical s) : ∃ g : ByteGuid, s = braced (dashed g.1) := by
  obtain ⟨d₁, d₂, d₃, d₄, d₅, h₁, h₂, h₃, h₄, h₅, rfl⟩ := h
  obtain ⟨bs₁, hb₁, rfl⟩ := h₁.exists_bytes (k := 4)
  obtain ⟨bs₂, hb₂, rfl⟩ := h₂.exists_bytes (k := 2)
  obtain ⟨bs₃, hb₃, rfl⟩ := h₃.exists_bytes (k := 2)
  obtain ⟨bs₄, hb₄, rfl⟩ := h₄.exists_bytes (k := 2)
  obtain ⟨bs₅, hb₅, rfl⟩ := h₅.exists_bytes (k := 6)
  refine ⟨⟨bs₁ ++ (bs₂ ++ (bs₃ ++ (bs₄ ++ bs₅))), by simp [hb₁, hb₂, hb₃, hb₄, hb₅]⟩, ?_⟩
  have hdrop₄ : (bs₁ ++ (bs₂ ++ (bs₃ ++ (bs₄ ++ bs₅)))).drop 4 = bs₂ ++ (bs₃ ++ (bs₄ ++ bs₅)) :=
    List.drop_left' hb₁
  have hdrop₆ : (bs₁ ++ (bs₂ ++ (bs₃ ++ (bs₄ ++ bs₅)))).drop 6 = bs₃ ++ (bs₄ ++ bs₅) := by
    rw [show 6 = 4 + 2 from rfl, ← List.drop_drop, hdrop₄, List.drop_left' hb₂]
  have hdrop₈ : (bs₁ ++ (bs₂ ++ (bs₃ ++ (bs₄ ++ bs₅)))).drop 8 = bs₄ ++ bs₅ := by
    rw [show 8 = 6 + 2 from rfl, ← List.drop_drop, hdrop₆, List.drop_left' hb₃]
  have hdrop₁₀ : (bs₁ ++ (bs₂ ++ (bs₃ ++ (bs₄ ++ bs₅)))).drop 10 = bs₅ := by
    rw [show 10 = 8 + 2 from rfl, ← List.drop_drop, hdrop₈, List.drop_left' hb₄]
  rw [dashed, hdrop₄, hdrop₆, hdrop₈, hdrop₁₀, List.take_left' hb₁, List.take_left' hb₂, List.take_left' hb₃,
    List.take_left' hb₄]

/-! ### The guids of the classes -/

theorem hexNumber_hexDigit {ds : List Char} (h : ∀ c ∈ ds, IsUpperHex c) :
    hexNumber Recycle.hexDigit ds = hexNumber digitValue ds := by
  have hdigit : ∀ n < 16, Recycle.hexDigit (hexChar n) = n := by decide
  refine List.foldl_ext _ _ _ fun n c hc => ?_
  obtain ⟨m, hm, rfl⟩ := (h c hc).exists_hexChar
  rw [hdigit m hm, digitValue, hexValue_hexChar m hm, Option.getD_some]

theorem hexNumber_hexDigit_upperHex (bs : List UInt8) :
    hexNumber Recycle.hexDigit (upperHex bs) = leValue bs.reverse :=
  (hexNumber_hexDigit (upperDigits_upperHex bs).2).trans (hexNumber_upperHex bs)

theorem littleEndian_eq (k n : Nat) : Recycle.littleEndian k n = (leBytes k n).map UInt8.toNat := by
  rw [Recycle.littleEndian, leBytes, List.map_map]
  exact List.map_congr_left fun i _ => (UInt8.toNat_ofNat').symm

/-- The bytes that an object server keeps for a canonical text are the ones of `ConvertGuid`. -/
theorem convertGuid_eq {s : String} (h : Canonical s) :
    Recycle.convertGuid s = (convertGuidText s).1.map UInt8.toNat := by
  obtain ⟨⟨bs, hbs⟩, rfl⟩ := h.exists_guid
  rw [convertGuidText_braced, convertFields_eq hbs]
  obtain ⟨b₀, b₁, b₂, b₃, b₄, b₅, b₆, b₇, b₈, b₉, b₁₀, b₁₁, b₁₂, b₁₃, b₁₄, b₁₅, rfl⟩ := exists_bytes_sixteen hbs
  unfold Recycle.convertGuid braced
  simp only [String.toList_ofList]
  show Recycle.littleEndian 4 (hexNumber Recycle.hexDigit (upperHex [b₀, b₁, b₂, b₃])) ++
    Recycle.littleEndian 2 (hexNumber Recycle.hexDigit (upperHex [b₄, b₅])) ++
    Recycle.littleEndian 2 (hexNumber Recycle.hexDigit (upperHex [b₆, b₇])) ++
    [b₈, b₉, b₁₀, b₁₁, b₁₂, b₁₃, b₁₄, b₁₅].map (fun b => hexNumber Recycle.hexDigit (upperHex [b])) = _
  simp only [hexNumber_hexDigit_upperHex, leValue_singleton, littleEndian_eq]
  rw [leBytes_reverse (by rfl), leBytes_reverse (by rfl), leBytes_reverse (by rfl)]
  rfl

section Uuid

variable {uuidUnparseUpper : ByteGuid → List Char} (huuid : ∀ g, uuidUnparseUpper g = dashed g.1)

include huuid

theorem convertGuidText_convertGuidBytes (b : ByteGuid) :
    convertGuidText (convertGuidBytes uuidUnparseUpper b) = b := by
  rw [convertGuidBytes, huuid]
  exact Subtype.ext ((convertGuidText_braced _).trans (convertFields_convertFields b.2))

theorem convertGuidBytes_braced (g : ByteGuid) :
    convertGuidBytes uuidUnparseUpper (convertGuidText (braced (dashed g.1))) = braced (dashed g.1) := by
  rw [convertGuidBytes, huuid]
  simp only [convertGuidText_braced, convertFields_convertFields g.2]

/-- **Guids**. The text of any bytes is read to these bytes, the bytes that any canonical text is read to are printed
as this text, and what `GenerateNewGuid` returns and writes are text and bytes of each other. -/
theorem guid_text_bytes : (∀ b, convertGuidText (convertGuidBytes uuidUnparseUpper b) = b) ∧
    (∀ s, Canonical s → convertGuidBytes uuidUnparseUpper (convertGuidText s) = s) ∧
    ∀ guid s b, generateNewGuid uuidUnparseUpper guid = (s, b) →
      convertGuidText s = b ∧ convertGuidBytes uuidUnparseUpper b = s := by
  refine ⟨convertGuidText_convertGuidBytes huuid, fun s hs => ?_, fun guid s b h => ?_⟩
  · obtain ⟨g, rfl⟩ := hs.exists_guid
    exact convertGuidBytes_braced huuid g
  · rw [generateNewGuid, huuid] at h
    obtain ⟨rfl, rfl⟩ := Prod.mk.inj h
    have htext : convertGuidText (braced (dashed guid.1)) =
        ⟨convertFields guid.1, (length_convertFields _).trans guid.2⟩ := Subtype.ext (convertGuidText_braced guid)
    exact ⟨htext, htext ▸ convertGuidBytes_braced huuid guid⟩

end Uuid

theorem guid_text_bytes_dashed : (∀ b, convertGuidText (convertGuidBytes (fun g => dashed g.1) b) = b) ∧
    (∀ s, Canonical s → convertGuidBytes (fun g => dashed g.1) (convertGuidText s) = s) ∧
    ∀ guid s b, generateNewGuid (fun g => dashed g.1) guid = (s, b) →
      convertGuidText s = b ∧ convertGuidBytes (fun g => dashed g.1) b = s :=
  guid_text_bytes fun _ => rfl

end CXGuidObject

end KonsanNet
