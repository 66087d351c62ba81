import FactoryGen.Number.Binary
import Mathlib.Algebra.Order.Field.Basic
import Mathlib.Algebra.Order.Field.Power
import Mathlib.Algebra.Order.Field.Rat
import Mathlib.Tactic.FieldSimp
import Mathlib.Tactic.Linarith
import Mathlib.Tactic.NormNum
import Mathlib.Tactic.Ring

/-! Binary numbers among the rationals.

A significand and an exponent fit if they are those of a number (`Fits`). The rationals that
round to a number form an interval (`Covers`). The intervals of two numbers overlap in nothing
but an end that at most one of them has, the one with the even significand (`ends_apart`), so a
rational rounds to one number (`Covers.unique`). -/
namespace FactoryGen.Number.Binary

/-- A significand with an exponent the way numbers have them: 53 bits, or less if the exponent
is the least one. -/
structure Fits (significand : Nat) (exponent : Int) : Prop where
  lt : significand < 2 ^ 53
  least : leastExponent ≤ exponent
  greatest : exponent ≤ greatestExponent
  full : leastExponent < exponent → 2 ^ 52 ≤ significand

instance (significand : Nat) (exponent : Int) : Decidable (Fits significand exponent) :=
  decidable_of_iff (significand < 2 ^ 53 ∧ leastExponent ≤ exponent ∧
      exponent ≤ greatestExponent ∧ (leastExponent < exponent → 2 ^ 52 ≤ significand))
    ⟨fun ⟨hlt, hleast, hgreatest, hfull⟩ => ⟨hlt, hleast, hgreatest, hfull⟩,
      fun ⟨hlt, hleast, hgreatest, hfull⟩ => ⟨hlt, hleast, hgreatest, hfull⟩⟩

/-- What a significand and an exponent stand for. -/
def magnitude (significand : Nat) (exponent : Int) : ℚ := significand * 2 ^ exponent

/-- A number with a significand and an exponent. -/
def IsFinite : Binary → Prop
  | .finite _ significand exponent => Fits significand exponent
  | _ => False

instance : (value : Binary) → Decidable value.IsFinite
  | .finite _ significand exponent => inferInstanceAs (Decidable (Fits significand exponent))
  | .infinite _ => isFalse id
  | .undefined => isFalse id

/-! ### Powers of two -/

theorem two_zpow_pos (e : Int) : (0 : ℚ) < 2 ^ e := zpow_pos (by norm_num) e

theorem scale_fst (exponent : Int) :
    ((scale exponent).1 : ℚ) = 2 ^ exponent * (scale exponent).2 := by
  unfold scale
  split
  · next h =>
    obtain ⟨n, rfl⟩ := Int.eq_ofNat_of_zero_le h
    simp
  · next h =>
    obtain ⟨n, hn⟩ := Int.eq_ofNat_of_zero_le (show 0 ≤ -exponent by omega)
    have hexponent : exponent = -n := by omega
    subst hexponent
    simp

theorem scale_snd_pos (exponent : Int) : 0 < (scale exponent).2 := by
  unfold scale
  split
  · exact Nat.one_pos
  · exact Nat.pow_pos (by decide)

/-! ### What rounds to a number -/

variable {significand significand' : Nat} {exponent exponent' : Int} {x : ℚ}

/-- How far below a number the reals that round to it begin, in quarters of its unit. -/
def margin (significand : Nat) (exponent : Int) : Nat :=
  if significand = Nat.pow 2 52 ∧ leastExponent < exponent then 1 else 2

/-- Where the reals that round to a number begin. -/
def low (significand : Nat) (exponent : Int) : ℚ :=
  (4 * significand - margin significand exponent : Nat) * 2 ^ (exponent - 2)

/-- Where they end. -/
def high (significand : Nat) (exponent : Int) : ℚ :=
  (4 * significand + 2 : Nat) * 2 ^ (exponent - 2)

/-- A real rounds to a number. The ends of the interval do if the significand is even. -/
structure Covers (significand : Nat) (exponent : Int) (x : ℚ) : Prop where
  low_le : low significand exponent ≤ x
  le_high : x ≤ high significand exponent
  even : x = low significand exponent ∨ x = high significand exponent → significand % 2 = 0

theorem margin_le (significand : Nat) (exponent : Int) : margin significand exponent ≤ 2 := by
  unfold margin
  split <;> omega

theorem magnitude_eq (significand : Nat) (exponent : Int) :
    magnitude significand exponent = 4 * significand * 2 ^ (exponent - 2) := by
  have hfour : (4 : ℚ) * 2 ^ (exponent - 2) = 2 ^ exponent := by
    rw [show (4 : ℚ) = 2 ^ (2 : Int) by norm_num, ← zpow_add₀ (by norm_num)]
    congr 1
    omega
  rw [magnitude, ← hfour]
  ring

/-- Less than seventeen digits away is near enough. -/
theorem Fits.covers (h : Fits significand exponent) (hpos : 0 < significand)
    (hbelow : magnitude significand exponent - x ≤ magnitude significand exponent / (2 * 10 ^ 16))
    (habove : x - magnitude significand exponent ≤ magnitude significand exponent / (2 * 10 ^ 16)) :
    Covers significand exponent x := by
  have hunit := two_zpow_pos (exponent - 2)
  have hlt : (significand : ℚ) * 2 ^ (exponent - 2) < 2 ^ 53 * 2 ^ (exponent - 2) :=
    mul_lt_mul_of_pos_right (by exact_mod_cast h.lt) hunit
  have hhigh : x < high significand exponent := by
    rw [magnitude_eq] at habove
    rw [high]
    push_cast
    linarith
  have hlow : low significand exponent < x := by
    have hle := margin_le significand exponent
    rw [magnitude_eq] at hbelow
    rw [low, Nat.cast_sub (by omega)]
    unfold margin
    push_cast
    split
    · next hpower =>
      rw [hpower.1] at hbelow ⊢
      norm_num at hbelow ⊢
      linarith
    · linarith
  refine ⟨hlow.le, hhigh.le, ?_⟩
  rintro (heq | heq)
  · exact absurd heq hlow.ne'
  · exact absurd heq hhigh.ne

/-- The reals that round to a number end before those that round to a greater one begin, and
at most one of them has the end they may share. -/
theorem ends_apart (h : Fits significand exponent) (h' : Fits significand' exponent')
    (hbefore : exponent < exponent' ∨ exponent = exponent' ∧ significand < significand') :
    high significand exponent ≤ low significand' exponent' ∧
      (significand % 2 = 0 → significand' % 2 = 0 →
        high significand exponent ≠ low significand' exponent') := by
  have hunit := two_zpow_pos (exponent - 2)
  -- on the grid of the smaller number, the greater one begins at a whole number of quarters
  obtain ⟨quarters, hgrid, hle, hlt⟩ : ∃ quarters : Nat,
      quarters * 2 ^ (exponent - 2) ≤ low significand' exponent' ∧
      4 * significand + 2 ≤ quarters ∧
      (significand % 2 = 0 → significand' % 2 = 0 → 4 * significand + 2 < quarters) := by
    have hmargin := margin_le significand' exponent'
    rcases hbefore with hbefore | ⟨rfl, hbefore⟩
    · have hmargin' : significand' = 2 ^ 52 → margin significand' exponent' = 1 := by
        intro hpower
        have hleast := h.least
        exact if_pos ⟨hpower, by omega⟩
      have hfull := h'.full (by have := h.least; omega)
      have hupper := h.lt
      refine ⟨2 * (4 * significand' - margin significand' exponent'), ?_, ?_, ?_⟩
      · have htwice : 2 * (2 : ℚ) ^ (exponent - 2) ≤ 2 ^ (exponent' - 2) := by
          rw [← zpow_one_add₀ (by norm_num)]
          exact zpow_le_zpow_right₀ (by norm_num) (by omega)
        calc ((2 * (4 * significand' - margin significand' exponent') : Nat) : ℚ) *
              2 ^ (exponent - 2) =
              (4 * significand' - margin significand' exponent' : Nat) *
                (2 * 2 ^ (exponent - 2)) := by push_cast; ring
          _ ≤ low significand' exponent' :=
              mul_le_mul_of_nonneg_left htwice (Nat.cast_nonneg _)
      · omega
      · omega
    · exact ⟨_, le_rfl, by omega, by omega⟩
  constructor
  · exact (mul_le_mul_of_nonneg_right (Nat.cast_le.2 hle) hunit.le).trans hgrid
  · intro heven heven'
    exact ((mul_lt_mul_of_pos_right (Nat.cast_lt.2 (hlt heven heven')) hunit).trans_le hgrid).ne

theorem Covers.not_before (h : Fits significand exponent) (h' : Fits significand' exponent')
    (hx : Covers significand exponent x) (hx' : Covers significand' exponent' x) :
    ¬(exponent < exponent' ∨ exponent = exponent' ∧ significand < significand') := by
  intro hbefore
  obtain ⟨hle, hne⟩ := ends_apart h h' hbefore
  have hhigh : x = high significand exponent := le_antisymm hx.le_high (hle.trans hx'.low_le)
  have hlow : x = low significand' exponent' := le_antisymm (hx.le_high.trans hle) hx'.low_le
  exact hne (hx.even (.inr hhigh)) (hx'.even (.inl hlow)) (hhigh.symm.trans hlow)

/-- A real rounds to one number. -/
theorem Covers.unique (h : Fits significand exponent) (h' : Fits significand' exponent')
    (hx : Covers significand exponent x) (hx' : Covers significand' exponent' x) :
    significand = significand' ∧ exponent = exponent' := by
  have hnot := hx.not_before h h' hx'
  have hnot' := hx'.not_before h' h hx
  omega

end FactoryGen.Number.Binary
