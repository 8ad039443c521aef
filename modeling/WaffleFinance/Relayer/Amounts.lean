import WaffleFinance.Lib.Json
import WaffleFinance.Relayer.Routes

/-!
# Amounts of XLM and ETH

Horizon writes amounts as decimal texts.  Two functions of the refund code read them, and each of
the two routes that release ETH reads them in line.  A conversion to ETH and one from ETH divide
by powers of ten.  An order that comes from an escrow is paid with `10 ^ 7` times too little:
`processEscrowToStellar` divides by the wei of an ETH and takes the XLM that it gets for stroops.
-/

namespace WaffleFinance.Relayer

/-! ### Texts -/

/-- What `trim` removes. -/
def isSpace (c : Char) : Bool :=
  c.toNat ∈ [9, 10, 11, 12, 13, 32, 160, 5760, 8232, 8233, 8239, 8287, 12288, 65279] ||
    (8192 ≤ c.toNat && c.toNat ≤ 8202)

def trim (t : Text) : Text := ((t.dropWhile isSpace).reverse.dropWhile isSpace).reverse

@[simp] abbrev Digits (t : Text) : Prop := ∀ c ∈ t, c.isDigit = true

def decimalOf (t : Text) : Option ℤ :=
  if Digits t then some (Nat.ofDigitChars 10 t 0) else none

def radix : Char → Option ℕ
  | 'x' | 'X' => some 16
  | 'o' | 'O' => some 8
  | 'b' | 'B' => some 2
  | _ => none

def digitsIn (base : ℕ) (t : Text) : Option ℤ := do
  let digits ← t.mapM Lib.Json.hexValue
  if t ≠ [] ∧ ∀ d ∈ digits, d < base then some (Nat.ofDigits base digits.reverse) else none

/-- `BigInt` of a text, `none` where it throws.  Nothing is zero. -/
def bigInt (t : Text) : Option ℤ :=
  match trim t with
  | '+' :: digits => if digits = [] then none else decimalOf digits
  | '-' :: digits => if digits = [] then none else (decimalOf digits).map (- ·)
  | '0' :: c :: digits => ((radix c).map (digitsIn · digits)).getD (decimalOf ('0' :: c :: digits))
  | digits => decimalOf digits

/-- Seven digits: `padEnd` and `substring`. -/
def sevenDigits (t : Text) : Text := (t ++ List.replicate (7 - t.length) '0').take 7

/-- Whole XLM and the digits after the point. -/
def stroopsOf (intPart fracPart : Text) : Option ℤ := do
  let whole ← bigInt intPart
  let fraction ← bigInt (sevenDigits fracPart)
  some (whole * 10 ^ 7 + fraction)

def beforeDot (t : Text) : Text := t.takeWhile (· ≠ '.')

def afterDot (t : Text) : Text := (t.dropWhile (· ≠ '.')).tail

def xlmStringToStroops (xlm : Text) : Option ℤ :=
  if xlm = [] then some 0
  else if '.' ∈ trim xlm then
    stroopsOf (if beforeDot (trim xlm) = [] then ['0'] else beforeDot (trim xlm))
      (afterDot (trim xlm))
  else (bigInt (trim xlm)).map (· * 10 ^ 7)

def stroopsToXlmString (stroops : ℕ) : Text :=
  let fracPart := decimal (stroops % 10 ^ 7)
  decimal (stroops / 10 ^ 7) ++ '.' :: (List.replicate (7 - fracPart.length) '0' ++ fracPart)

/-- `parseFallbackStroops` of a text. -/
def parseFallbackStroops (value : Text) : Option ℤ :=
  let str := trim value
  if str = [] ∨ str = ['0'] then some 0
  else if '.' ∈ str then xlmStringToStroops str
  else some (max 0 ((bigInt str).getD 0))

/-- The parser of `/process` and `/xlm-to-eth`: the first two parts of `split`. -/
def inlineStroops (amount : Text) : Option ℤ :=
  stroopsOf (beforeDot amount) (beforeDot (afterDot amount))

/-! ### What a text denotes -/

/-- Digits with an optional fraction. -/
structure Decimal where
  whole : Text
  fraction : Option Text
  whole_digits : Digits whole
  fraction_digits : ∀ f ∈ fraction, Digits f

namespace Decimal

def text (d : Decimal) : Text := d.whole ++ (d.fraction.map ('.' :: ·)).getD []

/-- The number that the digits after the point stand for. -/
def part (f : Text) : ℚ := (Nat.ofDigitChars 10 f 0 : ℚ) / 10 ^ f.length

def value (d : Decimal) : ℚ := Nat.ofDigitChars 10 d.whole 0 + part (d.fraction.getD [])

def stroops (d : Decimal) : ℤ := ⌊10 ^ 7 * d.value⌋

end Decimal

/-! ### Reading a decimal -/

lemma isSpace_of_isDigit {c : Char} (h : c.isDigit = true) : isSpace c = false := by
  obtain ⟨h₁, h₂⟩ := by simpa [Char.isDigit] using h
  have h₁ : 48 ≤ c.toNat := h₁
  have h₂ : c.toNat ≤ 57 := h₂
  simp [isSpace]
  omega

lemma dropWhile_isSpace {l t r : Text} (hl : ∀ c ∈ l, isSpace c = true)
    (hr : ∀ c ∈ r, isSpace c = true) (ht : ∀ c ∈ t, isSpace c = false) :
    (l ++ (t ++ r)).dropWhile isSpace = if t = [] then [] else t ++ r := by
  rw [List.dropWhile_append_of_pos hl]
  cases t with
  | nil => simpa using hr
  | cons c t => simp [ht c List.mem_cons_self]

/-- Spaces around a text without spaces are what `trim` removes. -/
lemma trim_padded {l t r : Text} (hl : ∀ c ∈ l, isSpace c = true)
    (hr : ∀ c ∈ r, isSpace c = true) (ht : ∀ c ∈ t, isSpace c = false) :
    trim (l ++ t ++ r) = t := by
  unfold trim
  rw [List.append_assoc, dropWhile_isSpace hl hr ht]
  split
  · rename_i h
    simp [h]
  rename_i h
  have hback := dropWhile_isSpace (l := r.reverse) (t := t.reverse) (r := [])
    (by simpa using hr) (by simp) (by simpa using ht)
  rw [List.append_nil, ← List.reverse_append] at hback
  rw [hback, if_neg (by simpa using h), List.reverse_reverse]

lemma ofDigitChars_lt {t : Text} (h : Digits t) :
    Nat.ofDigitChars 10 t 0 < 10 ^ t.length := by
  induction t with
  | nil => simp
  | cons c t ih =>
    have hc : c.toNat - '0'.toNat ≤ 9 := by
      obtain ⟨-, h₂⟩ := by simpa [Char.isDigit] using h c List.mem_cons_self
      have h₂ : c.toNat ≤ 57 := h₂
      show c.toNat - 48 ≤ 9
      omega
    have hrest := ih fun d hd => h d (List.mem_cons_of_mem c hd)
    rw [Nat.ofDigitChars_cons, Nat.ofDigitChars_eq_ofDigitChars_zero, List.length_cons, pow_succ]
    have hpos : 0 < 10 ^ t.length := by positivity
    nlinarith

lemma bigInt_digits {t : Text} (h : Digits t) : bigInt t = some (Nat.ofDigitChars 10 t 0 : ℕ) := by
  have htrim : trim t = t := by
    simpa using trim_padded (l := []) (r := []) (by simp) (by simp)
      fun c hc => isSpace_of_isDigit (h c hc)
  have hdecimal : decimalOf t = some (Nat.ofDigitChars 10 t 0 : ℕ) := if_pos h
  rw [bigInt, htrim, ← hdecimal]
  split
  · exact absurd (h _ List.mem_cons_self) (by decide)
  · exact absurd (h _ List.mem_cons_self) (by decide)
  · rename_i c digits
    have hc : c.isDigit = true := h c (by simp)
    have hradix : radix c = none := by
      unfold radix
      split <;> first | rfl | exact absurd hc (by decide)
    rw [hradix, Option.map_none, Option.getD_none]
  · rfl

/-- Seven digits are the fraction in stroops, rounded down. -/
lemma ofDigitChars_sevenDigits {f : Text} (h : Digits f) :
    Nat.ofDigitChars 10 (sevenDigits f) 0 = Nat.ofDigitChars 10 f 0 * 10 ^ 7 / 10 ^ f.length := by
  unfold sevenDigits
  rcases le_total f.length 7 with hlen | hlen
  · rw [List.take_of_length_le (by simp; omega), Nat.ofDigitChars_append,
      Nat.ofDigitChars_replicate_zero]
    have hpow : (10 : ℕ) ^ 7 = 10 ^ (7 - f.length) * 10 ^ f.length := by
      rw [← pow_add, Nat.sub_add_cancel hlen]
    rw [hpow, ← mul_assoc, Nat.mul_div_cancel _ (by positivity), mul_comm]
  rw [Nat.sub_eq_zero_of_le hlen, List.replicate_zero, List.append_nil]
  have hsplit : Nat.ofDigitChars 10 f 0 = 10 ^ (f.length - 7) *
      Nat.ofDigitChars 10 (f.take 7) 0 + Nat.ofDigitChars 10 (f.drop 7) 0 := by
    conv_lhs => rw [← List.take_append_drop 7 f, Nat.ofDigitChars_append,
      Nat.ofDigitChars_eq_ofDigitChars_zero, List.length_drop]
  have hrest : Nat.ofDigitChars 10 (f.drop 7) 0 < 10 ^ (f.length - 7) := by
    simpa using ofDigitChars_lt fun c hc => h c (List.mem_of_mem_drop hc)
  have hpow : (10 : ℕ) ^ f.length = 10 ^ (f.length - 7) * 10 ^ 7 := by
    rw [← pow_add, Nat.sub_add_cancel hlen]
  rw [hpow, Nat.mul_div_mul_right _ _ (by positivity), hsplit,
    Nat.mul_add_div (by positivity), Nat.div_eq_of_lt hrest, add_zero]

namespace Decimal

variable (d : Decimal)

lemma isDigit_sevenDigits {f : Text} (h : Digits f) : Digits (sevenDigits f) := by
  intro c hc
  rcases List.mem_append.1 (List.mem_of_mem_take hc) with hc | hc
  · exact h c hc
  · rw [List.eq_of_mem_replicate hc]
    decide

lemma isDigit_fraction : Digits (d.fraction.getD []) := by
  cases hf : d.fraction with
  | none => simp
  | some f => exact d.fraction_digits f hf

lemma stroopsOf_eq : stroopsOf d.whole (d.fraction.getD []) = some d.stroops := by
  have hf := d.isDigit_fraction
  rw [stroopsOf, bigInt_digits d.whole_digits,
    bigInt_digits (isDigit_sevenDigits hf), ofDigitChars_sevenDigits hf]
  simp only [Option.bind_eq_bind, Option.bind_some]
  set n := Nat.ofDigitChars 10 (d.fraction.getD []) 0 with hn
  have hvalue : 10 ^ 7 * d.value = ((Nat.ofDigitChars 10 d.whole 0 * 10 ^ 7 : ℕ) : ℚ) +
      ((n * 10 ^ 7 : ℕ) : ℚ) / ((10 ^ (d.fraction.getD []).length : ℕ) : ℚ) := by
    rw [value, part, ← hn]
    push_cast
    ring
  rw [stroops, hvalue, Int.floor_natCast_add, Rat.floor_natCast_div_natCast]
  push_cast
  rfl

lemma ne_dot {t : Text} (h : Digits t) : ∀ c ∈ t, decide (c ≠ '.') = true := by
  rintro c hc
  refine decide_eq_true ?_
  rintro rfl
  exact absurd (h _ hc) (by decide)

lemma beforeDot_digits {t : Text} (h : Digits t) :
    beforeDot t = t ∧ afterDot t = [] := by
  refine ⟨List.takeWhile_eq_self_iff.2 (ne_dot h), ?_⟩
  rw [afterDot, List.dropWhile_eq_nil_iff.2 (ne_dot h), List.tail_nil]

lemma beforeDot_append {t : Text} (h : Digits t) (f : Text) :
    beforeDot (t ++ '.' :: f) = t ∧ afterDot (t ++ '.' :: f) = f := by
  rw [beforeDot, afterDot, List.takeWhile_append_of_pos (ne_dot h),
    List.dropWhile_append_of_pos (ne_dot h)]
  simp

lemma parts_text : beforeDot d.text = d.whole ∧ afterDot d.text = d.fraction.getD [] := by
  unfold text
  cases d.fraction with
  | none => simpa using beforeDot_digits d.whole_digits
  | some f => exact beforeDot_append d.whole_digits f

lemma inlineStroops_text : inlineStroops d.text = some d.stroops := by
  rw [inlineStroops, d.parts_text.1, d.parts_text.2, (beforeDot_digits d.isDigit_fraction).1,
    d.stroopsOf_eq]

lemma isSpace_text : ∀ c ∈ d.text, isSpace c = false := by
  intro c hc
  rcases List.mem_append.1 hc with hc | hc
  · exact isSpace_of_isDigit (d.whole_digits c hc)
  cases hf : d.fraction with
  | none => simp [hf] at hc
  | some f =>
    rw [hf] at hc
    rcases List.mem_cons.1 hc with rfl | hc
    · decide
    · exact isSpace_of_isDigit (d.fraction_digits f hf c hc)

lemma dot_mem_text : '.' ∈ d.text ↔ d.fraction.isSome = true := by
  have hwhole : '.' ∉ d.whole := fun h => absurd (d.whole_digits _ h) (by decide)
  unfold text
  cases d.fraction <;> simp [hwhole]

lemma whole_stroops (h : d.fraction = none) :
    (bigInt d.text).map (· * 10 ^ 7) = some d.stroops := by
  have htext : d.text = d.whole := by simp [text, h]
  have hparts := d.stroopsOf_eq
  rw [stroopsOf, h, bigInt_digits d.whole_digits,
    bigInt_digits (isDigit_sevenDigits (by simp))] at hparts
  rw [htext, bigInt_digits d.whole_digits, ← hparts]
  simp [sevenDigits, Nat.ofDigitChars]

lemma zero_stroops (t : Text) :
    stroopsOf (if t = [] then ['0'] else t) = stroopsOf t := by
  split
  · rename_i h
    funext f
    rw [h, stroopsOf, stroopsOf, bigInt_digits (t := []) (by simp),
      bigInt_digits (t := ['0']) (by simp)]
    rfl
  · rfl

lemma xlmStringToStroops_padded {l r : Text} (hl : ∀ c ∈ l, isSpace c = true)
    (hr : ∀ c ∈ r, isSpace c = true) :
    xlmStringToStroops (l ++ d.text ++ r) = some d.stroops := by
  have hdot : '.' ∉ d.text → (bigInt d.text).map (· * 10 ^ 7) = some d.stroops := by
    rw [dot_mem_text, Option.not_isSome_iff_eq_none]
    exact d.whole_stroops
  unfold xlmStringToStroops
  rw [trim_padded hl hr d.isSpace_text, d.parts_text.1, d.parts_text.2, zero_stroops,
    d.stroopsOf_eq]
  split_ifs with hempty hmem
  · have htext : d.text = [] := by simp_all
    rw [← hdot (by simp [htext]), htext, bigInt_digits (t := []) (by simp)]
    rfl
  · rfl
  · exact hdot hmem

lemma parseFallbackStroops_padded {l r : Text} (hl : ∀ c ∈ l, isSpace c = true)
    (hr : ∀ c ∈ r, isSpace c = true) (hdot : '.' ∈ d.text) :
    parseFallbackStroops (l ++ d.text ++ r) = some d.stroops := by
  have hread := d.xlmStringToStroops_padded (l := []) (r := []) (by simp) (by simp)
  rw [List.nil_append, List.append_nil] at hread
  have hother : ¬ (d.text = [] ∨ d.text = ['0']) := by
    rintro (h | h) <;> simp [h] at hdot
  simp only [parseFallbackStroops, trim_padded hl hr d.isSpace_text]
  rw [if_neg hother, if_pos hdot, hread]

end Decimal

/-! ### Writing an amount -/

lemma isDigit_decimal {n : ℕ} {c : Char} (h : c ∈ decimal n) : c.isDigit = true :=
  Nat.isDigit_of_mem_toDigits (by decide) le_rfl h

/-- The digits after the point. -/
def writtenFraction (n : ℕ) : Text :=
  List.replicate (7 - (decimal (n % 10 ^ 7)).length) '0' ++ decimal (n % 10 ^ 7)

lemma isDigit_writtenFraction (n : ℕ) : ∀ f ∈ some (writtenFraction n), Digits f := by
  rintro f ⟨⟩ c hc
  rcases List.mem_append.1 hc with hc | hc
  · rw [List.eq_of_mem_replicate hc]
    decide
  · exact isDigit_decimal hc

lemma sevenDigits_writtenFraction (n : ℕ) :
    sevenDigits (writtenFraction n) = writtenFraction n := by
  have hshort : (decimal (n % 10 ^ 7)).length ≤ 7 :=
    Nat.toDigits_length 10 _ 7 (by decide) (Nat.mod_lt _ (by decide))
  have hlen : (writtenFraction n).length = 7 := by
    rw [writtenFraction, List.length_append, List.length_replicate, Nat.sub_add_cancel hshort]
  simp [sevenDigits, hlen, List.take_of_length_le hlen.le]

def written (n : ℕ) : Decimal :=
  ⟨decimal (n / 10 ^ 7), some (writtenFraction n), fun _ => isDigit_decimal,
    isDigit_writtenFraction n⟩

lemma written_stroops (n : ℕ) : (written n).stroops = n := by
  have hparts := (written n).stroopsOf_eq
  have hwhole : Nat.ofDigitChars 10 (decimal (n / 10 ^ 7)) 0 = n / 10 ^ 7 :=
    Nat.ofDigitChars_toDigits (by decide) le_rfl
  have hfraction : Nat.ofDigitChars 10 (writtenFraction n) 0 = n % 10 ^ 7 := by
    rw [writtenFraction, Nat.ofDigitChars_append, Nat.ofDigitChars_replicate_zero, mul_zero]
    exact Nat.ofDigitChars_toDigits (by decide) le_rfl
  rw [stroopsOf, bigInt_digits (written n).whole_digits] at hparts
  simp only [written, Option.getD_some, sevenDigits_writtenFraction, hwhole,
    bigInt_digits (isDigit_writtenFraction n _ rfl), hfraction, Option.bind_eq_bind,
    Option.pure_def, Option.bind_some, Option.some.injEq] at hparts
  rw [written, ← hparts]
  omega

/-- What is written is read back; a decimal text is read as the stroops that it denotes, rounded
down, by all parsers. -/
theorem stroop_parsing_exact :
    (∀ n : ℕ, xlmStringToStroops (stroopsToXlmString n) = some (n : ℤ)) ∧
    (∀ (d : Decimal) (l r : Text), (∀ c ∈ l, isSpace c = true) → (∀ c ∈ r, isSpace c = true) →
      xlmStringToStroops (l ++ d.text ++ r) = some ⌊10 ^ 7 * d.value⌋ ∧
      ('.' ∈ d.text →
        parseFallbackStroops (l ++ d.text ++ r) = some ⌊10 ^ 7 * d.value⌋)) ∧
    ∀ d : Decimal, inlineStroops d.text = some ⌊10 ^ 7 * d.value⌋ := by
  refine ⟨fun n => ?_, fun d l r hl hr => ⟨d.xlmStringToStroops_padded hl hr,
    d.parseFallbackStroops_padded hl hr⟩, fun d => d.inlineStroops_text⟩
  have hread := (written n).xlmStringToStroops_padded (l := []) (r := []) (by simp) (by simp)
  rw [written_stroops, List.nil_append, List.append_nil] at hread
  exact hread

/-! ### Conversions -/

/-- The stroops that `processEscrowToStellar` pays; none if the rate is refused. -/
def escrowStroops (exchangeRate : Option ℚ) (wei : ℕ) : Option ℕ :=
  let rounded := ⌊exchangeRate.getD 10000 + 1 / 2⌋
  if rounded > maxSafeInteger then none else some (wei * rounded.toNat / 10 ^ 18)

lemma processEscrowToStellar_eq (c : Config) (orderId : Text) (order : Order) :
    processEscrowToStellar c orderId order = (do
      let failed := updateOrder orderId fun o => { o with status := .stellarTransferFailed }
      if (c.stellarAccount .mainnet).isNone then failed
      else
        match ← await (.xlmBalance orderId),
          order.amount.bind (escrowStroops order.exchangeRate) with
        | none, _ => failed
        | _, none => failed
        | some balance, some stroops =>
          if balance < (stroops : ℚ) / 10 ^ 7 then failed
          else
            match ← await (.xlmSend orderId) with
            | none => failed
            | some hash => updateOrder orderId fun o =>
              { o with status := .completed, stellarTxHash := hash }) := by
  unfold processEscrowToStellar
  split_ifs with hsecret
  · rfl
  refine congrArg _ (funext fun balance => ?_)
  rcases balance with _ | balance <;> rcases order.amount with _ | wei
  · rfl
  · rfl
  · rfl
  · simp only [Option.bind_some, escrowStroops]
    split_ifs <;> rfl

/-- An exchange rate that is an integer. -/
structure IntegerRate where
  rate : ℕ
  pos : 1 ≤ rate
  safe : (rate : ℤ) ≤ maxSafeInteger

variable (r : IntegerRate)

/-- The ETH that a payment of stroops releases; none if the amount is refused. -/
def releasedWei (stroops : ℕ) : ℕ :=
  match ethAmountWei (some r.rate) stroops with
  | .ok wei => wei
  | .error _ => 0

/-- The amounts that are paid are the exact ones, rounded down, and converting there and back loses
less than a stroop and the value of a wei. -/
def ConvertsConsistently (wei stroops : ℕ) : Prop :=
  escrowStroops (some r.rate) wei = some (wei * r.rate * 10 ^ 7 / 10 ^ 18) ∧
  releasedWei r stroops = stroops * 10 ^ 18 / (r.rate * 10 ^ 7) ∧
  ∃ back, escrowStroops (some r.rate) (releasedWei r stroops) = some back ∧ back ≤ stroops ∧
    (stroops - back : ℚ) < 1 + (r.rate * 10 ^ 7 : ℚ) / 10 ^ 18

lemma IntegerRate.rounded : ⌊(r.rate : ℚ) + 1 / 2⌋ = r.rate := by
  rw [Int.floor_natCast_add]
  norm_num

lemma escrowStroops_eq (wei : ℕ) :
    escrowStroops (some r.rate) wei = some (wei * r.rate / 10 ^ 18) := by
  simp only [escrowStroops, Option.getD_some, r.rounded, gt_iff_lt, not_lt.2 r.safe, if_false,
    Int.toNat_natCast]

lemma releasedWei_eq (stroops : ℕ) :
    releasedWei r stroops = stroops * 10 ^ 18 / (r.rate * 10 ^ 7) := by
  have hpos : (0 : ℚ) < r.rate := by exact_mod_cast r.pos
  have hne : (r.rate : ℤ) ≠ 0 := by exact_mod_cast (Nat.one_le_iff_ne_zero.1 r.pos)
  simp only [releasedWei, ethAmountWei, not_le.2 hpos, if_false, r.rounded, not_lt.2 r.safe, hne,
    Int.toNat_natCast]
  split_ifs with hzero
  · exact hzero.symm
  · rfl

lemma releasedWei_back_le (stroops : ℕ) :
    releasedWei r stroops * r.rate / 10 ^ 18 ≤ stroops / 10 ^ 7 := by
  have hle := Nat.div_mul_le_self (stroops * 10 ^ 18) (r.rate * 10 ^ 7)
  rw [← mul_assoc, ← releasedWei_eq] at hle
  omega

lemma lost_lt_iff (stroops : ℕ) :
    (stroops - (releasedWei r stroops * r.rate / 10 ^ 18 : ℕ) : ℚ) <
      1 + (r.rate * 10 ^ 7 : ℚ) / 10 ^ 18 ↔ stroops * 10 ^ 11 < r.rate + 10 ^ 11 := by
  have hback := releasedWei_back_le r stroops
  have hsafe := r.safe
  unfold maxSafeInteger at hsafe
  generalize releasedWei r stroops * r.rate / 10 ^ 18 = back at hback ⊢
  have hscaled : (stroops - back : ℚ) < 1 + (r.rate * 10 ^ 7 : ℚ) / 10 ^ 18 ↔
      (stroops * 10 ^ 11 : ℚ) < r.rate + 10 ^ 11 + back * 10 ^ 11 := by
    constructor <;> intro h <;> linarith
  rw [hscaled]
  norm_cast
  omega

theorem conversion_consistent_iff (wei stroops : ℕ) :
    ConvertsConsistently r wei stroops ↔
      wei * r.rate < 10 ^ 11 ∧ stroops * 10 ^ 11 < r.rate + 10 ^ 11 := by
  have hback := (releasedWei_back_le r stroops).trans (Nat.div_le_self _ _)
  have hpays : wei * r.rate / 10 ^ 18 = wei * r.rate * 10 ^ 7 / 10 ^ 18 ↔
      wei * r.rate < 10 ^ 11 := by omega
  simp only [ConvertsConsistently, escrowStroops_eq, Option.some.injEq, exists_eq_left', hback,
    true_and, lost_lt_iff, hpays, ← releasedWei_eq r stroops]

/-- For an ETH at 10000 XLM, a thousandth of an XLM is paid. -/
theorem escrow_pays_too_little :
    ∃ r : IntegerRate, r.rate = 10000 ∧ escrowStroops (some r.rate) (10 ^ 18) = some 10000 ∧
      ¬ ConvertsConsistently r (10 ^ 18) 0 := by
  refine ⟨⟨10000, by decide, by decide⟩, rfl, ?_, fun h => ?_⟩
  · rw [escrowStroops_eq]
    rfl
  · have hpays := h.1
    rw [escrowStroops_eq, Option.some.injEq] at hpays
    exact absurd hpays (by decide)

end WaffleFinance.Relayer
