import FactoryGen.Number.Numeral
import FactoryGen.Proofs.Shortest
import Mathlib.Data.List.TakeWhile
import Mathlib.Tactic.Positivity

/-! The text of a number is the text of no other.

However the digits of a decimal are laid out, what they spell around the point, times the power
of ten behind an `e`, is the value of the decimal (`spelled_spread`, `exists_mantissa`), so one
text has one value. Different binary numbers have decimals of different values, and a binary
number always has a point or an exponent, which an integer never has; so numbers with one text
are equal (`Numeral.text_inj`). Their characters are digits, signs, points and `e`s. -/
namespace FactoryGen
namespace Number.Layout

/-- What digits around at most one point spell. -/
def spelled (chars : List Char) : ℚ :=
  let fraction := (chars.dropWhile (· != '.')).drop 1
  Nat.ofDigitChars 10 (chars.takeWhile (· != '.') ++ fraction) 0 / 10 ^ fraction.length

theorem ne_point_of_mem {chars : List Char} (h : '.' ∉ chars) : ∀ c ∈ chars, (c != '.') = true := by
  intro c hc
  exact bne_iff_ne.2 fun heq => h (heq ▸ hc)

theorem spelled_point {whole : List Char} (h : '.' ∉ whole) (fraction : List Char) :
    spelled (whole ++ '.' :: fraction) =
      Nat.ofDigitChars 10 (whole ++ fraction) 0 / 10 ^ fraction.length := by
  have hwhole := ne_point_of_mem h
  rw [spelled, List.takeWhile_append_of_pos hwhole, List.dropWhile_append_of_pos hwhole,
    List.takeWhile_cons_of_neg (by decide), List.dropWhile_cons_of_neg (by decide),
    List.append_nil, List.drop_one, List.tail_cons]

theorem spelled_digits {digits : List Char} (h : '.' ∉ digits) :
    spelled digits = Nat.ofDigitChars 10 digits 0 := by
  have hdigits := ne_point_of_mem h
  rw [spelled, List.takeWhile_eq_self_iff.2 hdigits, List.dropWhile_eq_nil_iff.2 hdigits]
  simp

/-- Zeros in front of the digits do not count, and those behind them are powers of ten. -/
theorem spelled_eq_value {coefficient : Nat} {exponent : Int} (whole fraction : List Char)
    (zeros : Nat) (h : '.' ∉ whole)
    (hdigits : Nat.ofDigitChars 10 (whole ++ fraction) 0 = coefficient * 10 ^ zeros)
    (hexponent : exponent + fraction.length = zeros) :
    spelled (whole ++ '.' :: fraction) = Decimal.value ⟨coefficient, exponent⟩ := by
  have hten : (10 : ℚ) ^ fraction.length ≠ 0 := by positivity
  rw [spelled_point h, hdigits, Decimal.value_mk, div_eq_iff hten, mul_assoc, ← zpow_natCast,
    ← zpow_add₀ (by norm_num), hexponent, zpow_natCast, Nat.cast_mul, Nat.cast_pow, Nat.cast_ofNat]

/-! ### Digits -/

theorem isDigit_of_mem_toDigits {c : Char} {n : Nat} (h : c ∈ Nat.toDigits 10 n) :
    c.isDigit = true :=
  Nat.isDigit_of_mem_toDigits (by decide) (by decide) h

theorem not_mem_toDigits {c : Char} (h : c.isDigit = false) (n : Nat) :
    c ∉ Nat.toDigits 10 n := by
  intro hc
  rw [isDigit_of_mem_toDigits hc] at h
  cases h

theorem not_mem_zeros {c : Char} (h : c.isDigit = false) (n : Nat) : c ∉ List.replicate n '0' := by
  intro hc
  rw [List.eq_of_mem_replicate hc] at h
  cases h

/-- A character that texts of numbers have. -/
def isNumberChar (c : Char) : Bool := c.isDigit || c == '-' || c == '.' || c == 'e'

theorem isNumberChar_of_mem_toDigits {c : Char} {n : Nat} (h : c ∈ Nat.toDigits 10 n) :
    isNumberChar c = true := by
  rw [isNumberChar, isDigit_of_mem_toDigits h, Bool.true_or, Bool.true_or, Bool.true_or]

/-- An integer is digits behind a sign or none. -/
theorem toString_cases (value : Int) :
    ∃ n : Nat, value = n ∧ (toString value).toList = Nat.toDigits 10 n ∨
      value = -n ∧ (toString value).toList = '-' :: Nat.toDigits 10 n := by
  rw [Int.toString_eq_repr, Int.repr_eq_if]
  split
  · next hpos =>
    refine ⟨value.toNat, .inl ⟨(Int.toNat_of_nonneg hpos).symm, ?_⟩⟩
    rw [Nat.repr_eq_ofList_toDigits, String.toList_ofList]
  · next hneg =>
    refine ⟨(-value).toNat, .inr ⟨by omega, ?_⟩⟩
    simp [Nat.repr_eq_ofList_toDigits]

theorem toDigits_inj {n n' : Nat} (h : Nat.toDigits 10 n = Nat.toDigits 10 n') : n = n' := by
  rw [← Nat.ofDigitChars_ten_toDigits (n := n), h, Nat.ofDigitChars_ten_toDigits]

theorem toString_inj {value value' : Int} (h : toString value = toString value') :
    value = value' := by
  have hsign {n n' : Nat} : Nat.toDigits 10 n ≠ '-' :: Nat.toDigits 10 n' := by
    intro heq
    exact not_mem_toDigits (by decide) n (heq ▸ List.mem_cons_self)
  rw [← String.toList_inj] at h
  obtain ⟨n, ⟨hn, htext⟩ | ⟨hn, htext⟩⟩ := toString_cases value <;>
    obtain ⟨n', ⟨hn', htext'⟩ | ⟨hn', htext'⟩⟩ := toString_cases value' <;>
    rw [htext, htext'] at h
  · rw [hn, hn', toDigits_inj h]
  · exact absurd h hsign
  · exact absurd h.symm hsign
  · rw [hn, hn', toDigits_inj (List.cons.inj h).2]

theorem isNumberChar_of_mem_toString {value : Int} {c : Char} (h : c ∈ (toString value).toList) :
    isNumberChar c = true ∧ c ≠ '.' ∧ c ≠ 'e' := by
  have hdigit {n : Nat} (hc : c ∈ Nat.toDigits 10 n) :
      isNumberChar c = true ∧ c ≠ '.' ∧ c ≠ 'e' := by
    refine ⟨isNumberChar_of_mem_toDigits hc, ?_, ?_⟩
    · rintro rfl
      exact not_mem_toDigits (by decide) n hc
    · rintro rfl
      exact not_mem_toDigits (by decide) n hc
  obtain ⟨n, ⟨-, hn⟩ | ⟨-, hn⟩⟩ := toString_cases value
  · exact hdigit (hn ▸ h)
  · rw [hn, List.mem_cons] at h
    rcases h with rfl | h
    · decide
    · exact hdigit h

/-- Wherever the point is put, zeros fill the places between it and the digits. -/
theorem spelled_spread (coefficient : Nat) (exponent : Int) :
    spelled (spread (Nat.toDigits 10 coefficient)
        ((Nat.toDigits 10 coefficient).length + exponent)) =
      Decimal.value ⟨coefficient, exponent⟩ := by
  have hpoint : '.' ∉ Nat.toDigits 10 coefficient := not_mem_toDigits (by decide) coefficient
  have hdigits : Nat.ofDigitChars 10 (Nat.toDigits 10 coefficient) 0 = coefficient :=
    Nat.ofDigitChars_ten_toDigits
  generalize Nat.toDigits 10 coefficient = digits at hpoint hdigits
  have hzeros (n : Nat) : '.' ∉ List.replicate n '0' := not_mem_zeros (by decide) n
  have hnought (n : Nat) : Nat.ofDigitChars 10 ['0'] n = 10 * n := by
    rw [Nat.ofDigitChars_cons, Nat.ofDigitChars_nil, Nat.sub_self, Nat.add_zero]
  unfold spread
  split
  · next hfront =>
    refine spelled_eq_value ['0'] (List.replicate _ '0' ++ digits) 0 (by decide) ?_ ?_
    · rw [Nat.ofDigitChars_append, Nat.ofDigitChars_append, Nat.ofDigitChars_replicate_zero,
        hnought, Nat.mul_zero, hdigits, Nat.pow_zero, Nat.mul_one]
    · rw [List.length_append, List.length_replicate]
      omega
  · next hbehind =>
    dsimp only
    split
    · next hend =>
      refine spelled_eq_value _ ['0'] ((digits.length + exponent).toNat - digits.length + 1)
        ?_ ?_ ?_
      · exact List.not_mem_append hpoint (hzeros _)
      · rw [Nat.ofDigitChars_append, Nat.ofDigitChars_append, Nat.ofDigitChars_replicate_zero,
          hnought, hdigits, Nat.pow_succ]
        ring
      · rw [List.length_singleton]
        omega
    · next hinside =>
      refine spelled_eq_value _ _ 0 (fun h => hpoint (List.mem_of_mem_take h)) ?_ ?_
      · rw [List.take_append_drop, hdigits, pow_zero, mul_one]
      · rw [List.length_drop]
        omega

/-- Before the `e` there are the digits with a point behind the first one, and after it the
power of ten that is missing. -/
theorem exists_mantissa (coefficient : Nat) (exponent : Int) :
    ∃ mantissa, 'e' ∉ mantissa ∧
      scientific (Nat.toDigits 10 coefficient) ((Nat.toDigits 10 coefficient).length + exponent) =
        mantissa ++
          'e' :: (toString ((Nat.toDigits 10 coefficient).length + exponent - 1)).toList ∧
      Decimal.value ⟨coefficient, exponent⟩ =
        spelled mantissa * 10 ^ ((Nat.toDigits 10 coefficient).length + exponent - 1) := by
  have hpoint : '.' ∉ Nat.toDigits 10 coefficient := not_mem_toDigits (by decide) coefficient
  have hletter : 'e' ∉ Nat.toDigits 10 coefficient := not_mem_toDigits (by decide) coefficient
  have hdigits : Nat.ofDigitChars 10 (Nat.toDigits 10 coefficient) 0 = coefficient :=
    Nat.ofDigitChars_ten_toDigits
  have hnonempty : Nat.toDigits 10 coefficient ≠ [] := Nat.toDigits_ne_nil
  generalize Nat.toDigits 10 coefficient = digits at hpoint hletter hdigits hnonempty
  match digits with
  | [] => exact absurd rfl hnonempty
  | [first] =>
    refine ⟨[first], hletter, rfl, ?_⟩
    rw [spelled_digits hpoint, hdigits, List.length_singleton, Nat.cast_one, add_sub_cancel_left,
      Decimal.value_mk]
  | first :: next :: others =>
    refine ⟨first :: '.' :: next :: others, ?_, rfl, ?_⟩
    · simp only [List.mem_cons, not_or] at hletter ⊢
      exact ⟨hletter.1, by decide, hletter.2⟩
    · have hspelled : spelled ([first] ++ '.' :: next :: others) =
          Decimal.value ⟨coefficient, -(others.length + 1 : Nat)⟩ := by
        refine spelled_eq_value [first] _ 0 ?_ ?_ ?_
        · exact fun h => hpoint (List.mem_append_left (next :: others) h)
        · rw [Nat.pow_zero, Nat.mul_one]
          exact hdigits
        · rw [List.length_cons]
          omega
      rw [List.singleton_append] at hspelled
      rw [hspelled, Decimal.value_mk, Decimal.value_mk, mul_assoc, ← zpow_add₀ (by norm_num)]
      congr 2
      rw [List.length_cons, List.length_cons]
      omega

/-! ### Layouts -/

/-- How a decimal is laid out. -/
def body (layout : Layout) (d : Decimal) : List Char :=
  let digits := Nat.toDigits 10 d.coefficient
  let point := (digits.length : Int) + d.exponent
  if layout.positional point then spread digits point else scientific digits point

theorem mem_spread {digits : List Char} {point : Int} {c : Char} (h : c ∈ spread digits point) :
    c ∈ digits ∨ c = '0' ∨ c = '.' := by
  unfold spread at h
  split at h
  · simp only [List.cons_append, List.mem_cons, List.mem_append, List.mem_replicate] at h
    tauto
  · dsimp only at h
    split at h
    · simp only [List.mem_cons, List.mem_append, List.mem_replicate, List.not_mem_nil] at h
      tauto
    · simp only [List.mem_cons, List.mem_append] at h
      rcases h with h | h | h
      · exact .inl (List.mem_of_mem_take h)
      · exact .inr (.inr h)
      · exact .inl (List.mem_of_mem_drop h)

theorem point_mem_spread (digits : List Char) (point : Int) : '.' ∈ spread digits point := by
  unfold spread
  split
  · simp
  · dsimp only
    split <;> simp

variable {layout : Layout} {d d' : Decimal}

theorem e_not_mem_spread (n : Nat) (point : Int) : 'e' ∉ spread (Nat.toDigits 10 n) point := by
  intro h
  rcases mem_spread h with h | h | h
  · exact not_mem_toDigits (by decide) n h
  · cases h
  · cases h

theorem e_mem_scientific (digits : List Char) (point : Int) : 'e' ∈ scientific digits point :=
  List.mem_append_right _ List.mem_cons_self

/-- One layout, one value. -/
theorem value_eq_of_body_eq (h : body layout d = body layout d') : d.value = d'.value := by
  obtain ⟨mantissa, hmantissa, hscientific, hvalue⟩ := exists_mantissa d.coefficient d.exponent
  obtain ⟨mantissa', hmantissa', hscientific', hvalue'⟩ :=
    exists_mantissa d'.coefficient d'.exponent
  have hletter (value : Int) : 'e' ∉ (toString value).toList :=
    fun h => (isNumberChar_of_mem_toString h).2.2 rfl
  unfold body at h
  dsimp only at h
  split at h <;> split at h
  · have hspelled := congrArg spelled h
    rwa [spelled_spread, spelled_spread] at hspelled
  · exact absurd (h ▸ e_mem_scientific _ _) (e_not_mem_spread d.coefficient _)
  · exact absurd (h ▸ e_mem_scientific _ _) (e_not_mem_spread d'.coefficient _)
  · rw [hscientific, hscientific',
      List.append_cons_inj_of_notMem hmantissa (hletter _)] at h
    obtain ⟨hspelled, -, hpower⟩ := h
    rw [hspelled, toString_inj (String.toList_inj.1 hpower), ← hvalue'] at hvalue
    exact hvalue

/-- A layout begins with a digit. -/
theorem exists_digit (layout : Layout) (d : Decimal) :
    ∃ c rest, body layout d = c :: rest ∧ c.isDigit = true := by
  obtain ⟨first, others, hdigits⟩ := List.exists_cons_of_ne_nil
    (Nat.toDigits_ne_nil : Nat.toDigits 10 d.coefficient ≠ [])
  have hfirst : first.isDigit = true := isDigit_of_mem_toDigits (hdigits ▸ List.mem_cons_self)
  unfold body
  dsimp only
  rw [hdigits]
  split
  · unfold spread
    split
    · exact ⟨'0', _, rfl, by decide⟩
    · next hpos =>
      dsimp only
      split
      · exact ⟨first, _, rfl, hfirst⟩
      · obtain ⟨n, hn⟩ : ∃ n, ((first :: others).length + d.exponent : Int).toNat = n + 1 :=
          ⟨_, (Nat.succ_pred (by omega)).symm⟩
        rw [hn]
        exact ⟨first, _, rfl, hfirst⟩
  · cases others <;> exact ⟨first, _, rfl, hfirst⟩

theorem isNumberChar_of_mem_body {c : Char} (h : c ∈ body layout d) : isNumberChar c = true := by
  have hdigit (hc : c ∈ Nat.toDigits 10 d.coefficient) := isNumberChar_of_mem_toDigits hc
  unfold body at h
  dsimp only at h
  split at h
  · rcases mem_spread h with h | rfl | rfl
    · exact hdigit h
    · decide
    · decide
  · unfold scientific at h
    dsimp only at h
    rw [List.mem_append, List.mem_cons] at h
    rcases h with h | rfl | h
    · generalize Nat.toDigits 10 d.coefficient = digits at h hdigit
      split at h
      · rw [List.mem_cons, List.mem_cons] at h
        rcases h with rfl | rfl | h
        · exact hdigit List.mem_cons_self
        · decide
        · exact hdigit (List.mem_cons_of_mem _ h)
      · exact hdigit h
    · decide
    · exact (isNumberChar_of_mem_toString h).1

theorem mem_body (layout : Layout) (d : Decimal) : '.' ∈ body layout d ∨ 'e' ∈ body layout d := by
  unfold body
  dsimp only
  split
  · exact .inl (point_mem_spread _ _)
  · exact .inr (e_mem_scientific _ _)

/-! ### Numbers -/

/-- The decimal that a number is written as. -/
def decimal (significand : Nat) (exponent : Int) : Decimal :=
  if significand = 0 then ⟨0, 0⟩ else .shortest significand exponent

section
variable {significand significand' : Nat} {exponent exponent' : Int}

theorem decimal_value_pos (h : Binary.Fits significand exponent) (hpos : 0 < significand) :
    0 < (decimal significand exponent).value := by
  have hmargin := Binary.margin_le significand exponent
  have hlow : 0 < Binary.low significand exponent :=
    mul_pos (Nat.cast_pos.2 (by omega)) (Binary.two_zpow_pos _)
  rw [decimal, if_neg hpos.ne']
  exact hlow.trans_le (Decimal.shortest_covers h hpos).low_le

theorem decimal_inj (h : Binary.Fits significand exponent) (h' : Binary.Fits significand' exponent')
    (hvalue : (decimal significand exponent).value = (decimal significand' exponent').value) :
    significand = significand' ∧ exponent = exponent' := by
  have hzero {exponent : Int} : (decimal 0 exponent).value = 0 := by
    rw [decimal, if_pos rfl, Decimal.value_mk, Nat.cast_zero, zero_mul]
  have hleast {exponent : Int} (h : Binary.Fits 0 exponent) : exponent = Binary.leastExponent := by
    have hfull := h.full
    have hle := h.least
    omega
  rcases Nat.eq_zero_or_pos significand with rfl | hpos <;>
    rcases Nat.eq_zero_or_pos significand' with rfl | hpos'
  · exact ⟨rfl, (hleast h).trans (hleast h').symm⟩
  · rw [hzero] at hvalue
    exact absurd hvalue (decimal_value_pos h' hpos').ne
  · rw [hzero] at hvalue
    exact absurd hvalue (decimal_value_pos h hpos).ne'
  · rw [decimal, decimal, if_neg hpos.ne', if_neg hpos'.ne'] at hvalue
    exact Decimal.shortest_inj h hpos h' hpos' hvalue

/-- Zero is laid out like any other decimal. -/
theorem text_finite (negative : Bool) (significand : Nat) (exponent : Int) :
    (inOutput.text (.finite negative significand exponent)).toList =
      (if negative then ['-'] else []) ++ body inOutput (decimal significand exponent) := by
  unfold text
  dsimp only
  split
  · next hzero =>
    have hbody : body inOutput ⟨0, 0⟩ = ['0', '.', '0'] := by decide
    rw [String.toList_ofList, decimal, if_pos hzero, hbody]
  · next hsome => rw [String.toList_ofList, decimal, if_neg hsome, body]

end

/-- The text of a finite number tells which it is. -/
theorem text_inj {value value' : Binary} (h : value.IsFinite) (h' : value'.IsFinite)
    (htext : inOutput.text value = inOutput.text value') : value = value' := by
  -- the sign shows, for a layout begins with a digit
  have hsign (d d' : Decimal) : body inOutput d ≠ '-' :: body inOutput d' := by
    intro heq
    obtain ⟨c, rest, hbody, hc⟩ := exists_digit inOutput d
    rw [hbody] at heq
    rw [(List.cons.inj heq).1] at hc
    cases hc
  match value, value' with
  | .finite negative significand exponent, .finite negative' significand' exponent' =>
    have hchars := congrArg String.toList htext
    rw [text_finite, text_finite] at hchars
    obtain ⟨hnegative, hbody⟩ : negative = negative' ∧
        body inOutput (decimal significand exponent) =
          body inOutput (decimal significand' exponent') := by
      cases negative <;> cases negative'
      · exact ⟨rfl, hchars⟩
      · exact absurd hchars (hsign _ _)
      · exact absurd hchars.symm (hsign _ _)
      · exact ⟨rfl, (List.cons.inj hchars).2⟩
    obtain ⟨hsignificand, hexponent⟩ := decimal_inj h h' (value_eq_of_body_eq hbody)
    rw [hnegative, hsignificand, hexponent]

/-- The text of a finite number is not empty, has nothing but what numbers have in it, and has
a point or an exponent. -/
theorem text_chars {value : Binary} (h : value.IsFinite) :
    (inOutput.text value).toList ≠ [] ∧
      (∀ c ∈ (inOutput.text value).toList, isNumberChar c = true) ∧
      ('.' ∈ (inOutput.text value).toList ∨ 'e' ∈ (inOutput.text value).toList) := by
  match value with
  | .finite negative significand exponent =>
    obtain ⟨first, rest, hbody, -⟩ := exists_digit inOutput (decimal significand exponent)
    rw [text_finite]
    refine ⟨?_, ?_, ?_⟩
    · rw [hbody]
      exact List.append_ne_nil_of_right_ne_nil _ (List.cons_ne_nil first rest)
    · intro c hc
      rcases List.mem_append.1 hc with hc | hc
      · cases negative
        · cases hc
        · rw [List.eq_of_mem_singleton hc]
          decide
      · exact isNumberChar_of_mem_body hc
    · exact (mem_body inOutput (decimal significand exponent)).imp (List.mem_append_right _)
        (List.mem_append_right _)

end Number.Layout

namespace Numeral
open Number.Layout

/-- A number that JSON has. -/
def IsFinite : Numeral → Prop
  | .integer _ => True
  | .binary value => value.IsFinite

instance : (value : Numeral) → Decidable value.IsFinite
  | .integer _ => isTrue trivial
  | .binary value => inferInstanceAs (Decidable value.IsFinite)

theorem text_ne_nil {value : Numeral} (h : value.IsFinite) : value.text.toList ≠ [] := by
  match value with
  | .integer value =>
    obtain ⟨n, ⟨-, htext⟩ | ⟨-, htext⟩⟩ := toString_cases value
    · exact fun heq => Nat.toDigits_ne_nil (htext.symm.trans heq)
    · exact fun heq => List.cons_ne_nil _ _ (htext.symm.trans heq)
  | .binary value => exact (text_chars h).1

theorem isNumberChar_of_mem_text {value : Numeral} (h : value.IsFinite) {c : Char}
    (hc : c ∈ value.text.toList) : isNumberChar c = true := by
  match value with
  | .integer value => exact (isNumberChar_of_mem_toString hc).1
  | .binary value => exact (text_chars h).2.1 c hc

/-- Numbers with one text are equal. -/
theorem text_inj {value value' : Numeral} (h : value.IsFinite) (h' : value'.IsFinite)
    (htext : value.text = value'.text) : value = value' := by
  have hmark {value : Int} {value' : Number.Binary} (h' : value'.IsFinite) :
      toString value ≠ inOutput.text value' := by
    intro heq
    have hchars := (text_chars h').2.2
    rw [← heq] at hchars
    rcases hchars with hc | hc
    · exact (isNumberChar_of_mem_toString hc).2.1 rfl
    · exact (isNumberChar_of_mem_toString hc).2.2 rfl
  match value, value' with
  | .integer value, .integer value' => rw [toString_inj htext]
  | .integer value, .binary value' => exact absurd htext (hmark h')
  | .binary value, .integer value' => exact absurd htext.symm (hmark h)
  | .binary value, .binary value' => rw [Number.Layout.text_inj h h' htext]

end Numeral
end FactoryGen
