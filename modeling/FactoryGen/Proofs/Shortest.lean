import FactoryGen.Number.Decimal
import FactoryGen.Proofs.Rounding

/-! The shortest decimal stands for one number only.

Comparisons of decimals with binary numbers are made by cross-multiplying; they are comparisons
of rationals (`atMost_iff`, `atLeast_iff`), and a decimal rounds to a number just if what it
stands for does (`roundsTo_iff`). With seventeen digits one of the two decimals next to a number
is near enough to round to it (`exists_candidate`), so `shortest` always finds one
(`shortest_covers`). A rational rounds to one number only, so different numbers get different
decimals (`shortest_inj`). -/
namespace FactoryGen.Number.Decimal
variable {d : Decimal} {significand significand' : Nat} {exponent exponent' : Int}

/-- What a decimal stands for. -/
def value (d : Decimal) : ℚ := d.coefficient * 10 ^ d.exponent

/-! ### Comparisons -/

theorem ten_zpow_of_nonneg {e : Int} (h : 0 ≤ e) : (10 : ℚ) ^ e = (Nat.pow 10 e.toNat : Nat) := by
  obtain ⟨n, rfl⟩ := Int.eq_ofNat_of_zero_le h
  simp

theorem ten_zpow_of_neg {e : Int} (h : ¬ 0 ≤ e) :
    (10 : ℚ) ^ e * (Nat.pow 10 (-e).toNat : Nat) = 1 := by
  obtain ⟨n, hn⟩ := Int.eq_ofNat_of_zero_le (show 0 ≤ -e by omega)
  have he : e = -n := by omega
  subst he
  simp

/-- Cross-multiplying, whichever of the two is compared with the other. -/
theorem compare_iff (d : Decimal) (quarters : Nat) (binary : Int) {r : ℚ → ℚ → Prop}
    (hr : ∀ {a b c : ℚ}, 0 < c → (r (a * c) (b * c) ↔ r a b)) :
    (if 0 ≤ d.exponent then
        r ((d.coefficient * Nat.pow 10 d.exponent.toNat * (Binary.scale binary).2 : Nat) : ℚ)
          ((quarters * (Binary.scale binary).1 : Nat) : ℚ)
      else
        r ((d.coefficient * (Binary.scale binary).2 : Nat) : ℚ)
          ((quarters * (Binary.scale binary).1 * Nat.pow 10 (-d.exponent).toNat : Nat) : ℚ)) ↔
      r d.value (quarters * 2 ^ binary) := by
  have hdown : (0 : ℚ) < (Binary.scale binary).2 := Nat.cast_pos.2 (Binary.scale_snd_pos binary)
  have hup := Binary.scale_fst binary
  generalize Binary.scale binary = scale at hdown hup ⊢
  split
  · next h =>
    rw [Nat.cast_mul, Nat.cast_mul, Nat.cast_mul, hup, ← ten_zpow_of_nonneg h, ← mul_assoc,
      hr hdown, value]
  · next h =>
    have hten : (0 : ℚ) < (Nat.pow 10 (-d.exponent).toNat : Nat) :=
      Nat.cast_pos.2 (Nat.pow_pos (by decide))
    have hvalue : d.value * (Nat.pow 10 (-d.exponent).toNat : Nat) = d.coefficient := by
      rw [value, mul_assoc, ten_zpow_of_neg h, mul_one]
    rw [Nat.cast_mul, Nat.cast_mul, Nat.cast_mul, hup, ← hvalue, mul_right_comm, ← mul_assoc,
      hr hten, hr hdown]

theorem atMost_iff (d : Decimal) (quarters : Nat) (binary : Int) :
    d.atMost quarters binary = true ↔ d.value ≤ quarters * 2 ^ binary := by
  rw [← compare_iff (r := (· ≤ ·)) d quarters binary fun hc => mul_le_mul_iff_left₀ hc, atMost]
  dsimp only
  split <;> rw [decide_eq_true_iff, Nat.cast_le]

theorem atLeast_iff (d : Decimal) (quarters : Nat) (binary : Int) :
    d.atLeast quarters binary = true ↔ quarters * 2 ^ binary ≤ d.value := by
  rw [← compare_iff (r := fun a b => b ≤ a) d quarters binary fun hc => mul_le_mul_iff_left₀ hc,
    atLeast]
  dsimp only
  split <;> rw [decide_eq_true_iff, Nat.cast_le]

theorem roundsTo_iff :
    d.roundsTo significand exponent = true ↔ Binary.Covers significand exponent d.value := by
  have hlow := atLeast_iff d (4 * significand - Binary.margin significand exponent) (exponent - 2)
  have hlow' := atMost_iff d (4 * significand - Binary.margin significand exponent) (exponent - 2)
  have hhigh := atMost_iff d (4 * significand + 2) (exponent - 2)
  have hhigh' := atLeast_iff d (4 * significand + 2) (exponent - 2)
  unfold roundsTo
  change (if significand % 2 = 0 then
      d.atLeast (4 * significand - Binary.margin significand exponent) (exponent - 2) &&
        d.atMost (4 * significand + 2) (exponent - 2)
    else !d.atMost (4 * significand - Binary.margin significand exponent) (exponent - 2) &&
        !d.atLeast (4 * significand + 2) (exponent - 2)) = true ↔ _
  split
  · next heven =>
    rw [Bool.and_eq_true_iff, hlow, hhigh]
    constructor
    · rintro ⟨hle, hle'⟩
      exact ⟨hle, hle', fun _ => heven⟩
    · intro h
      exact ⟨h.low_le, h.le_high⟩
  · next hodd =>
    rw [Bool.and_eq_true_iff, Bool.not_eq_true', Bool.not_eq_true', ← Bool.not_eq_true,
      ← Bool.not_eq_true, hlow', hhigh', not_le, not_le]
    constructor
    · rintro ⟨hlt, hlt'⟩
      refine ⟨hlt.le, hlt'.le, ?_⟩
      rintro (heq | heq)
      · exact absurd heq hlt.ne'
      · exact absurd heq hlt'.ne
    · intro h
      exact ⟨lt_of_le_of_ne h.low_le fun heq => hodd (h.even (.inl heq.symm)),
        lt_of_le_of_ne h.le_high fun heq => hodd (h.even (.inr heq))⟩

/-! ### Seventeen digits -/

theorem value_mk (coefficient : Nat) (place : Int) :
    value ⟨coefficient, place⟩ = coefficient * 10 ^ place := rfl

theorem ten_zpow_pos (e : Int) : (0 : ℚ) < 10 ^ e := zpow_pos (by norm_num) e

section
variable {num den : Nat} {place : Int}

/-- Digits are cut off by dividing integers. -/
theorem floorAt_fst (hden : 0 < den) (num : Nat) (place : Int) :
    ∃ n d : Nat, 0 < d ∧ (floorAt num den place).1 = n / d ∧
      (num : ℚ) / den = n / d * 10 ^ place := by
  by_cases hplace : 0 ≤ place
  · refine ⟨num, den * Nat.pow 10 place.toNat, Nat.mul_pos hden (Nat.pow_pos (by decide)), ?_, ?_⟩
    · rw [floorAt, if_pos hplace]
    · rw [Nat.cast_mul, ← ten_zpow_of_nonneg hplace, ← div_div,
        div_mul_cancel₀ _ (ten_zpow_pos place).ne']
  · refine ⟨num * Nat.pow 10 (-place).toNat, den, hden, ?_, ?_⟩
    · rw [floorAt, if_neg hplace]
    · rw [Nat.cast_mul, mul_div_right_comm, mul_assoc, mul_comm _ (10 ^ place),
        ten_zpow_of_neg hplace, mul_one]

/-- What is left after cutting off digits is less than a unit. -/
theorem floorAt_bounds (hden : 0 < den) (num : Nat) (place : Int) :
    value ⟨(floorAt num den place).1, place⟩ ≤ (num : ℚ) / den ∧
      (num : ℚ) / den < value ⟨(floorAt num den place).1 + 1, place⟩ := by
  obtain ⟨n, d, hd, hfloor, hnum⟩ := floorAt_fst hden num place
  have hten := ten_zpow_pos place
  have hcast : (0 : ℚ) < d := Nat.cast_pos.2 hd
  rw [hfloor, hnum, value_mk, value_mk]
  constructor
  · refine mul_le_mul_of_nonneg_right ((le_div_iff₀ hcast).2 ?_) hten.le
    exact_mod_cast Nat.div_mul_le_self n d
  · refine mul_lt_mul_of_pos_right ((div_lt_iff₀ hcast).2 ?_) hten
    rw [mul_comm]
    exact_mod_cast Nat.lt_mul_div_succ n hd

/-- A number has no digits above a place just if it is less than one unit there. -/
theorem floorAt_eq_zero_iff (hden : 0 < den) :
    (floorAt num den place).1 = 0 ↔ (num : ℚ) / den < 10 ^ place := by
  obtain ⟨hle, hlt⟩ := floorAt_bounds hden num place
  constructor
  · intro hzero
    rwa [hzero, value_mk, zero_add, Nat.cast_one, one_mul] at hlt
  · intro hless
    have hone := hle.trans_lt hless
    rw [value_mk, mul_lt_iff_lt_one_left (ten_zpow_pos place)] at hone
    exact Nat.lt_one_iff.1 (by exact_mod_cast hone)

/-- The search for the first digit never goes beyond the number. -/
theorem firstDigit_le (hden : 0 < den) (fuel : Nat) (h : 10 ^ place ≤ (num : ℚ) / den) :
    10 ^ firstDigit num den fuel place ≤ (num : ℚ) / den := by
  induction fuel generalizing place with
  | zero => exact h
  | succ fuel ih =>
    rw [firstDigit]
    split
    · exact h
    · next hsome => exact ih (not_lt.1 fun hless => hsome ((floorAt_eq_zero_iff hden).2 hless))

end

theorem roundsTo_of_candidate {first : Int} {digits : Nat}
    (h : candidate significand exponent first digits = some d) :
    d.roundsTo significand exponent = true := by
  unfold candidate at h
  dsimp only at h
  split at h
  · next hbelow habove =>
    split at h
    · cases h
      exact hbelow
    · split at h
      · cases h
        exact habove
      · cases h
        split
        · exact hbelow
        · exact habove
  · next hbelow _ =>
    cases h
    exact hbelow
  · next _ habove =>
    cases h
    exact habove
  · cases h

theorem ratio_eq (significand : Nat) (exponent : Int) :
    ((Binary.ratio significand exponent).1 : ℚ) / (Binary.ratio significand exponent).2 =
        Binary.magnitude significand exponent ∧
      0 < (Binary.ratio significand exponent).2 := by
  have hdown := Binary.scale_snd_pos exponent
  have hne : ((Binary.scale exponent).2 : ℚ) ≠ 0 := Nat.cast_ne_zero.2 hdown.ne'
  refine ⟨?_, hdown⟩
  rw [Binary.ratio, Nat.cast_mul, Binary.scale_fst, ← mul_assoc, mul_div_cancel_right₀ _ hne,
    Binary.magnitude]

theorem exists_candidate_of_roundsTo {first place : Int} {digits low : Nat}
    (hplace : first - digits + 1 = place)
    (hlow : (floorAt (Binary.ratio significand exponent).1 (Binary.ratio significand exponent).2
      place).1 = low)
    (h : roundsTo ⟨low, place⟩ significand exponent = true ∨
      roundsTo ⟨low + 1, place⟩ significand exponent = true) :
    ∃ d, candidate significand exponent first digits = some d := by
  rw [← Option.ne_none_iff_exists']
  intro hnone
  unfold candidate at hnone
  dsimp only at hnone
  rw [hplace, hlow] at hnone
  split at hnone
  · split at hnone
    · cases hnone
    · split at hnone <;> cases hnone
  · cases hnone
  · cases hnone
  · next hbelow habove =>
    rw [hbelow, habove] at h
    exact h.elim Bool.false_ne_true Bool.false_ne_true

/-- If the digits go sixteen places beyond the first one, a decimal next to the number rounds
to it. -/
theorem exists_candidate (h : Binary.Fits significand exponent) (hpos : 0 < significand)
    {first : Int} (hfirst : 10 ^ first ≤ Binary.magnitude significand exponent) :
    ∃ d, candidate significand exponent first 17 = some d := by
  obtain ⟨hratio, hden⟩ := ratio_eq significand exponent
  obtain ⟨place, hplace⟩ : ∃ place : Int, place = first - (17 : Nat) + 1 := ⟨_, rfl⟩
  have hunit : (10 : ℚ) ^ place ≤ Binary.magnitude significand exponent / 10 ^ 16 := by
    have hsum : place + (16 : Nat) = first := by omega
    rw [le_div_iff₀ (by norm_num), ← zpow_natCast, ← zpow_add₀ (by norm_num), hsum]
    exact hfirst
  obtain ⟨low, hlow⟩ : ∃ low, (floorAt (Binary.ratio significand exponent).1
      (Binary.ratio significand exponent).2 place).1 = low := ⟨_, rfl⟩
  obtain ⟨hle, hlt⟩ := floorAt_bounds hden (Binary.ratio significand exponent).1 place
  rw [hratio, hlow] at hle hlt
  have hstep : value ⟨low + 1, place⟩ = value ⟨low, place⟩ + 10 ^ place := by
    rw [value_mk, value_mk, Nat.cast_succ, add_one_mul]
  refine exists_candidate_of_roundsTo hplace.symm hlow ?_
  rw [roundsTo_iff, roundsTo_iff]
  -- the nearer of the two is at most half a unit away
  rcases le_total (Binary.magnitude significand exponent - value ⟨low, place⟩) (10 ^ place / 2)
    with hnear | hfar
  · exact .inl (h.covers hpos (by linarith) (by linarith))
  · exact .inr (h.covers hpos (by linarith) (by linarith))

theorem trim_value (fuel : Nat) (d : Decimal) : (trim fuel d).value = d.value := by
  induction fuel generalizing d with
  | zero => rfl
  | succ fuel ih =>
    rw [trim]
    split
    · next h =>
      have hten : d.coefficient / 10 * 10 = d.coefficient :=
        Nat.div_mul_cancel (Nat.dvd_of_mod_eq_zero h.2)
      rw [ih, value, value, zpow_add_one₀ (by norm_num), mul_comm (10 ^ d.exponent), ← mul_assoc]
      congr 1
      exact_mod_cast hten
    · rfl

theorem ten_le_magnitude (h : Binary.Fits significand exponent) (hpos : 0 < significand) :
    10 ^ (-330 : Int) ≤ Binary.magnitude significand exponent := by
  have hpow (k : Nat) : (10 : ℚ) ^ (-(10 * k : Nat) : Int) ≤ 2 ^ (-(33 * k : Nat) : Int) := by
    rw [zpow_neg, zpow_neg, zpow_natCast, zpow_natCast, pow_mul, pow_mul]
    exact inv_anti₀ (by positivity) (pow_le_pow_left₀ (by norm_num) (by norm_num) k)
  have hleast : -(33 * 33 : Nat) ≤ exponent := le_trans (by decide) h.least
  have hone : (1 : ℚ) ≤ significand := by exact_mod_cast hpos
  calc (10 : ℚ) ^ (-330 : Int) ≤ 2 ^ (-(33 * 33 : Nat) : Int) := hpow 33
    _ ≤ 2 ^ exponent := zpow_le_zpow_right₀ (by norm_num) hleast
    _ ≤ Binary.magnitude significand exponent :=
      le_mul_of_one_le_left (Binary.two_zpow_pos exponent).le hone

/-- The definition with a name for the length of the search. With the number itself, which is
hundreds, a comparison of terms would run the search. -/
theorem shortest_eq : ∃ fuel, @shortest = fun significand exponent =>
    let (num, den) := Binary.ratio significand exponent
    let first := firstDigit num den fuel (-330)
    match (List.range 17).findSome? fun n => candidate significand exponent first (n + 1) with
    | some d => trim 20 d
    | none => ⟨0, 0⟩ := by
  refine ⟨700, ?_⟩
  delta shortest
  rfl

/-- The shortest decimal of a number rounds to it. -/
theorem shortest_covers (h : Binary.Fits significand exponent) (hpos : 0 < significand) :
    Binary.Covers significand exponent (shortest significand exponent).value := by
  obtain ⟨hratio, hden⟩ := ratio_eq significand exponent
  obtain ⟨fuel, hshortest⟩ := shortest_eq
  have hfirst := firstDigit_le hden fuel ((ten_le_magnitude h hpos).trans_eq hratio.symm)
  rw [hratio] at hfirst
  rw [hshortest]
  dsimp only
  generalize firstDigit _ _ fuel (-330) = first at hfirst ⊢
  split
  · next d hfound =>
    obtain ⟨n, -, hcandidate⟩ := List.exists_of_findSome?_eq_some hfound
    rw [trim_value]
    exact roundsTo_iff.1 (roundsTo_of_candidate hcandidate)
  · next hnone =>
    obtain ⟨d, hd⟩ := exists_candidate h hpos hfirst
    have hlast := List.findSome?_eq_none_iff.1 hnone 16 (List.mem_range.2 (by decide))
    rw [hd] at hlast
    cases hlast

/-- Different numbers have different decimals. -/
theorem shortest_inj (h : Binary.Fits significand exponent) (hpos : 0 < significand)
    (h' : Binary.Fits significand' exponent') (hpos' : 0 < significand')
    (hvalue : (shortest significand exponent).value = (shortest significand' exponent').value) :
    significand = significand' ∧ exponent = exponent' := by
  have hcovers := shortest_covers h hpos
  rw [hvalue] at hcovers
  exact hcovers.unique h h' (shortest_covers h' hpos')

end FactoryGen.Number.Decimal
