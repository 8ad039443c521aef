import Mathlib

/-!
# Base64 for texts that go into an address

Bytes as letters, digits, `-` and `_`, without padding: three bytes for four characters, and at the
end one byte for two or two bytes for three.
-/

namespace WaffleFinance.Lib.Base64

def alphabet : List Char :=
  "ABCDEFGHIJKLMNOPQRSTUVWXYZabcdefghijklmnopqrstuvwxyz0123456789-_".toList

/-- The character for six bits. -/
def digit (n : ℕ) : Char := alphabet.getD (n % 64) 'A'

def value (c : Char) : Option ℕ := alphabet.idxOf? c

def encode : List UInt8 → List Char
  | a :: b :: c :: rest =>
    let n := a.toNat * 65536 + b.toNat * 256 + c.toNat
    digit (n / 262144) :: digit (n / 4096) :: digit (n / 64) :: digit n :: encode rest
  | [a, b] =>
    let n := (a.toNat * 256 + b.toNat) * 4
    [digit (n / 4096), digit (n / 64), digit n]
  | [a] =>
    let n := a.toNat * 16
    [digit (n / 64), digit n]
  | [] => []

/-- The bytes that are made of groups of six bits.  What is left over of a group is dropped. -/
def ofValues : List ℕ → List UInt8
  | a :: b :: c :: d :: rest =>
    let n := a * 262144 + b * 4096 + c * 64 + d
    UInt8.ofNat (n / 65536) :: UInt8.ofNat (n / 256) :: UInt8.ofNat n :: ofValues rest
  | [a, b, c] =>
    let n := (a * 4096 + b * 64 + c) / 4
    [UInt8.ofNat (n / 256), UInt8.ofNat n]
  | [a, b] => [UInt8.ofNat ((a * 64 + b) / 16)]
  | _ => []

/-- Characters outside of the alphabet are skipped. -/
def decode (t : List Char) : List UInt8 := ofValues (t.filterMap value)

lemma length_le_length_encode (bytes : List UInt8) : bytes.length ≤ (encode bytes).length := by
  induction bytes using encode.induct with
  | case1 a b c rest ih =>
    simp only [encode, List.length_cons]
    omega
  | case2 a b => simp [encode]
  | case3 a => simp [encode]
  | case4 => simp

/-- A text has more characters than bytes. -/
lemma length_lt_length_encode {bytes : List UInt8} (h : bytes ≠ []) :
    bytes.length < (encode bytes).length := by
  cases bytes using encode.induct with
  | case1 a b c rest =>
    have hrest := length_le_length_encode rest
    simp only [encode, List.length_cons]
    omega
  | case2 a b => simp [encode]
  | case3 a => simp [encode]
  | case4 => exact absurd rfl h

lemma length_ofValues_le (values : List ℕ) : (ofValues values).length ≤ values.length := by
  induction values using ofValues.induct with
  | case1 a b c d rest ih =>
    simp only [ofValues, List.length_cons]
    omega
  | case2 a b c => simp [ofValues]
  | case3 a b => simp [ofValues]
  | case4 values h h' h'' => simp [ofValues]

lemma length_decode_le (t : List Char) : (decode t).length ≤ t.length :=
  (length_ofValues_le _).trans (List.length_filterMap_le _ _)

lemma digit_mem_alphabet (n : ℕ) : digit n ∈ alphabet := by
  have hlt : n % 64 < alphabet.length := Nat.mod_lt _ (by decide)
  unfold digit
  rw [List.getD_eq_getElem _ _ hlt]
  exact List.getElem_mem hlt

lemma mem_alphabet_of_mem_encode {bytes : List UInt8} {c : Char} (h : c ∈ encode bytes) :
    c ∈ alphabet := by
  induction bytes using encode.induct with
  | case1 a b d rest ih =>
    simp only [encode, List.mem_cons] at h
    rcases h with rfl | rfl | rfl | rfl | hrest
    · exact digit_mem_alphabet _
    · exact digit_mem_alphabet _
    · exact digit_mem_alphabet _
    · exact digit_mem_alphabet _
    · exact ih hrest
  | case2 a b =>
    simp only [encode, List.mem_cons, List.not_mem_nil, or_false] at h
    rcases h with rfl | rfl | rfl <;> exact digit_mem_alphabet _
  | case3 a =>
    simp only [encode, List.mem_cons, List.not_mem_nil, or_false] at h
    rcases h with rfl | rfl <;> exact digit_mem_alphabet _
  | case4 => cases h

/-! ### Decoding gives back the bytes -/

lemma value_alphabet : ∀ n < 64, value (alphabet.getD n 'A') = some n := by decide +kernel

lemma value_digit (n : ℕ) : value (digit n) = some (n % 64) :=
  value_alphabet _ (Nat.mod_lt _ (by decide))

lemma filterMap_value_digit (n : ℕ) (t : List Char) :
    (digit n :: t).filterMap value = n % 64 :: t.filterMap value :=
  List.filterMap_cons_some (value_digit n)

lemma ofNat_eq_of_mod {n : ℕ} {a : UInt8} (h : n % 256 = a.toNat) : UInt8.ofNat n = a :=
  UInt8.toNat_inj.1 ((UInt8.toNat_ofNat').trans h)

/-- A number of 24 bits is made of its groups of six bits. -/
lemma join_groups {n : ℕ} (h : n < 16777216) :
    n / 262144 % 64 * 262144 + n / 4096 % 64 * 4096 + n / 64 % 64 * 64 + n % 64 = n := by
  omega

/-- What was encoded is decoded, group by group. -/
theorem decode_encode (bytes : List UInt8) : decode (encode bytes) = bytes := by
  unfold decode
  induction bytes using encode.induct with
  | case1 a b c rest ih =>
    have ha := a.toNat_lt
    have hb := b.toNat_lt
    have hc := c.toNat_lt
    have hgroups := join_groups (n := a.toNat * 65536 + b.toNat * 256 + c.toNat) (by omega)
    simp only [encode, filterMap_value_digit, ofValues, ih, hgroups, List.cons.injEq,
      and_true]
    exact ⟨ofNat_eq_of_mod (by omega), ofNat_eq_of_mod (by omega), ofNat_eq_of_mod (by omega)⟩
  | case2 a b =>
    have ha := a.toNat_lt
    have hb := b.toNat_lt
    simp only [encode, filterMap_value_digit, List.filterMap_nil, ofValues,
      List.cons.injEq, and_true]
    exact ⟨ofNat_eq_of_mod (by omega), ofNat_eq_of_mod (by omega)⟩
  | case3 a =>
    have ha := a.toNat_lt
    simp only [encode, filterMap_value_digit, List.filterMap_nil, ofValues,
      List.cons.injEq, and_true]
    exact ofNat_eq_of_mod (by omega)
  | case4 => rfl

example : decode (encode [1, 200, 3, 77, 0]) = [1, 200, 3, 77, 0] := by decide

end WaffleFinance.Lib.Base64
