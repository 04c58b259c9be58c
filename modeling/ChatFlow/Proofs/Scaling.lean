import ChatFlow.Proofs.Shortest
import ChatFlow.Proofs.WholeDoubles

namespace ChatFlow.Binary64

variable {num den m e n u v : Nat} {negative : Bool}

/-- A significand that may have grown by one too much, carried over into the exponent. -/
theorem canonical_carried {m e : Nat} (hm : m ≤ 2 * topBit) (he : e = 0 ∨ topBit ≤ m)
    (negative : Bool) :
    (let (m, e) := if m = 2 * topBit then (topBit, e + 1) else (m, e)
      if e ≤ 2045 then finite negative m e else infinity negative).Canonical := by
  have hpos : 0 < topBit := by decide
  by_cases hfull : m = 2 * topBit
  · rw [if_pos hfull]
    dsimp only
    split
    · next hexponent => exact ⟨by omega, .inr (Nat.le_refl _), hexponent⟩
    · trivial
  · rw [if_neg hfull]
    dsimp only
    split
    · next hexponent => exact ⟨by omega, he, hexponent⟩
    · trivial

theorem canonical_roundQuotient (negative : Bool) (num den : Nat) :
    (roundQuotient negative num den).Canonical := by
  unfold roundQuotient
  refine canonical_carried ?_ ?_ negative
  · refine Nat.le_trans (divideEven_le _ _) ?_
    split
    · next hq =>
      rw [Nat.pow_eq, Nat.pow_zero, Nat.mul_one]
      exact hq
    · next hq =>
      rw [Nat.pow_eq, ← Nat.div_div_eq_div_mul]
      exact (topBit_le_div (Nat.le_of_not_lt hq)).2
  · split
    · exact .inl rfl
    · next hq =>
      refine .inr (Nat.le_trans ?_ (le_divideEven _ _))
      rw [Nat.pow_eq, ← Nat.div_div_eq_div_mul]
      exact (topBit_le_div (Nat.le_of_not_lt hq)).1

theorem canonical_zero (negative : Bool) : (zero negative).Canonical := by
  refine ⟨?_, .inl rfl, Nat.zero_le _⟩
  decide

theorem canonical_mul (x y : Binary64) : (x.mul y).Canonical := by
  cases x <;> cases y
  case finite.finite =>
    unfold mul
    generalize unitsPerOne = units
    exact canonical_roundQuotient _ _ _
  case infinity.finite | finite.infinity =>
    unfold mul
    dsimp only
    split <;> exact True.intro
  all_goals exact True.intro

theorem canonical_div (x y : Binary64) : (x.div y).Canonical := by
  cases x <;> cases y
  case finite.finite =>
    unfold div
    dsimp only
    split
    · split <;> exact True.intro
    · exact canonical_roundQuotient _ _ _
  case finite.infinity => exact canonical_zero _
  all_goals exact True.intro

theorem canonical_scale (d : Decimal) : (scale d).Canonical := by
  unfold scale
  dsimp only
  split
  · split
    · exact canonical_mul _ _
    · split
      · exact canonical_roundQuotient _ _ _
      · trivial
  · exact canonical_div _ _

theorem Holds.div {x y : Binary64} {s t : Bool} (hx : x.Holds s u) (hy : y.Holds t v) (hv : 0 < v) :
    x.div y = roundQuotient (s != t) (u * unitsPerOne) v := by
  obtain ⟨m, e, rfl, rfl⟩ := hx
  obtain ⟨n, f, rfl, rfl⟩ := hy
  have hn : n ≠ 0 := by
    rintro rfl
    simp at hv
  rw [Binary64.div, if_neg hn]
  simp only [Nat.pow_eq]

def largest : Nat := (2 * topBit - 1) * Nat.pow 2 2045

theorem exists_largest_eq : ∃ m < 2 * topBit, ∃ e ≤ 2045, largest = m * 2 ^ e :=
  ⟨2 * topBit - 1, by decide, 2045, Nat.le_refl _, by decide +kernel⟩

theorem exists_holds_of_le_largest (hden : 0 < den) (h : num ≤ largest * den) (negative : Bool) :
    ∃ u ≤ largest, (roundQuotient negative num den).Holds negative u := by
  obtain ⟨m, hm, e, he, hlargest⟩ := exists_largest_eq
  rw [hlargest] at h ⊢
  exact exists_holds_of_le hm he hden h negative

theorem two_mul_divideEven_le (num den : Nat) : 2 * (divideEven num den * den) ≤ 2 * num + den := by
  have hnum : num / den * den + num % den = num := Nat.div_add_mod' num den
  unfold divideEven
  dsimp only
  generalize num / den = q at *
  generalize num % den = r at *
  have hparity : q % 2 * den ≤ 1 * den :=
    Nat.mul_le_mul_right _ (Nat.le_of_lt_succ (Nat.mod_lt _ Nat.two_pos))
  have hsum (d : Nat) : (q + d) * den = q * den + d * den := Nat.add_mul q d den
  split
  · omega
  · split
    · rw [hsum]
      omega
    · rw [hsum]
      omega

/-- A whole number of units is rounded up by no more than one in `2 ^ 53`. -/
theorem Holds.mul_two_pow_le (h : (roundQuotient negative num 1).Holds negative u) :
    u * 2 ^ 53 ≤ num * (2 ^ 53 + 1) := by
  obtain ⟨f, hlow, hhigh⟩ := exists_exponent num Nat.one_pos
  have hround := two_mul_divideEven_le num (1 * 2 ^ f)
  rcases roundQuotient_cases Nat.one_pos hlow hhigh negative with hholds | ⟨hinfinity, -⟩
  · rw [h.inj hholds]
    rw [Nat.one_mul] at hround ⊢
    generalize divideEven num (2 ^ f) * 2 ^ f = rounded at *
    rcases hlow with rfl | hlow
    · omega
    · have hlow' : 4503599627370496 * 2 ^ f ≤ num := by rwa [Nat.mul_one] at hlow
      omega
  · obtain ⟨m, e, heq, -⟩ := h
    rw [hinfinity] at heq
    cases heq

theorem exists_holds_powerOfTen {k : Nat} (hk : k ≤ 308) :
    ∃ p, unitsPerOne ≤ p ∧ p * 2 ^ 53 ≤ 10 ^ k * unitsPerOne * (2 ^ 53 + 1) ∧
      (powerOfTen k).Holds false p := by
  have hlargest : 10 ^ k * unitsPerOne ≤ largest * 1 := by
    obtain ⟨top, htop, hle⟩ : ∃ top, 308 ≤ top ∧ 10 ^ top * unitsPerOne ≤ largest * 1 :=
      ⟨308, Nat.le_refl _, by decide +kernel⟩
    exact (Nat.mul_le_mul_right _ (Nat.pow_le_pow_right (by decide) (hk.trans htop))).trans hle
  obtain ⟨p, -, hp⟩ := exists_holds_of_le_largest Nat.one_pos hlargest false
  have hone : unitsPerOne ≤ p := by
    obtain ⟨j, -, hunits⟩ := exists_unitsPerOne_eq
    have hle : 1 * 2 ^ j * 1 ≤ 10 ^ k * unitsPerOne := by
      rw [Nat.one_mul, Nat.mul_one, ← hunits]
      exact Nat.le_mul_of_pos_left _ (Nat.pow_pos (by decide))
    rw [hunits, ← Nat.one_mul (2 ^ j)]
    exact hp.le (by decide) Nat.one_pos hle
  refine ⟨p, hone, hp.mul_two_pow_le, ?_⟩
  rw [powerOfTen, ofInt_natCast]
  exact hp

theorem holds_powerOfTen {k : Nat} (hk : k ≤ 22) :
    (powerOfTen k).Holds false (10 ^ k * unitsPerOne) := by
  obtain ⟨j, hj, hunits⟩ := exists_unitsPerOne_eq
  have hvalue : 10 ^ k * unitsPerOne = 5 ^ k * 2 ^ (k + j) := by
    rw [hunits, Nat.pow_add, ← Nat.mul_assoc, ← Nat.mul_pow]
  have hfive : 5 ^ k < 2 * topBit := (Nat.pow_le_pow_right (by decide) hk).trans_lt (by decide)
  rw [powerOfTen, ofInt_natCast, Nat.pow_eq, hvalue]
  exact holds_roundQuotient hfive (by omega) Nat.one_pos (Nat.mul_one _).symm false

theorem Holds.exists_holds_div {x : Binary64} (hx : x.Holds negative u) (hu : u ≤ largest) {k : Nat}
    (hk : k ≤ 308) :
    ∃ u ≤ largest, (x.div (powerOfTen k)).Holds negative u := by
  obtain ⟨p, hp, -, hpower⟩ := exists_holds_powerOfTen hk
  have hpos : 0 < p := unitsPerOne_pos.trans_le hp
  rw [hx.div hpower hpos, Bool.bne_false]
  exact exists_holds_of_le_largest hpos (Nat.mul_le_mul hu hp) negative

theorem Holds.exists_holds_shrink {x : Binary64} (hx : x.Holds negative u) (hu : u ≤ largest)
    (steps : Nat) :
    ∃ u ≤ largest, (shrink steps x).Holds negative u := by
  induction steps generalizing x u with
  | zero => exact ⟨u, hu, hx⟩
  | succ steps ih =>
    rw [shrink]
    split
    · exact ⟨u, hu, hx⟩
    · obtain ⟨v, hv, hdiv⟩ := hx.exists_holds_div hu (Nat.le_refl 308)
      exact ih hdiv hv

theorem exists_holds_digits (hn : n ≤ maxWord) (negative : Bool) :
    ∃ u ≤ largest, (roundQuotient negative (n * unitsPerOne) 1).Holds negative u := by
  apply exists_holds_of_le_largest Nat.one_pos
  exact (Nat.mul_le_mul_right _ hn).trans (by decide +kernel)

theorem isFinite_scale_of_neg {d : Decimal} (hdigits : d.digits ≤ maxWord) (hneg : d.exponent < 0) :
    (scale d).isFinite = true := by
  obtain ⟨negative, digits, exponent⟩ := d
  cases exponent with
  | ofNat k => exact absurd hneg (by simp)
  | negSucc k =>
    obtain ⟨u, hu, hx⟩ := exists_holds_digits hdigits negative
    obtain ⟨v, hv, hshrink⟩ := hx.exists_holds_shrink hu (k / 308)
    obtain ⟨w, -, hdiv⟩ := hshrink.exists_holds_div hv (k := k % 308 + 1) (by omega)
    exact hdiv.isFinite

/-- Two factors that were rounded up by no more than one in `2 ^ 53`, and a product below the last
three doubles. -/
theorem mul_le_of_rounded {p a b t : Nat} (hu : u * 2 ^ 53 ≤ a * (2 ^ 53 + 1))
    (hp : p * 2 ^ 53 ≤ b * (2 ^ 53 + 1)) (hab : 4 * (a * b) ≤ (2 ^ 55 - 14) * t) :
    u * p ≤ (2 * topBit - 1) * t := by
  refine Nat.le_of_mul_le_mul_left ?_ (show 0 < 4 * (2 ^ 53 * 2 ^ 53) by decide)
  calc
    4 * (2 ^ 53 * 2 ^ 53) * (u * p) = 4 * (u * 2 ^ 53 * (p * 2 ^ 53)) := by ring
    _ ≤ 4 * (a * (2 ^ 53 + 1) * (b * (2 ^ 53 + 1))) := by gcongr
    _ = 4 * (a * b) * ((2 ^ 53 + 1) * (2 ^ 53 + 1)) := by ring
    _ ≤ (2 ^ 55 - 14) * t * ((2 ^ 53 + 1) * (2 ^ 53 + 1)) := Nat.mul_le_mul_right _ hab
    _ = (2 ^ 55 - 14) * ((2 ^ 53 + 1) * (2 ^ 53 + 1)) * t := by ring
    _ ≤ 4 * (2 ^ 53 * 2 ^ 53) * (2 * topBit - 1) * t := Nat.mul_le_mul_right _ (by decide)
    _ = 4 * (2 ^ 53 * 2 ^ 53) * ((2 * topBit - 1) * t) := Nat.mul_assoc _ _ _

/-- So is one that is multiplied, if it is near to a double below the last three. -/
theorem isFinite_scale_of_near {s : Bool} {k : Nat} (hm : m < 2 * topBit) (he : e ≤ 2045)
    (hplace : m + 4 ≤ 2 * topBit ∨ e < 2045) (hn : n ≤ maxWord) (hk : k ≤ 308)
    (h : NearPower m e n k) :
    (scale ⟨s, n, k⟩).isFinite = true := by
  obtain ⟨u, -, hx⟩ := exists_holds_digits hn s
  obtain ⟨p, -, hp, hpower⟩ := exists_holds_powerOfTen hk
  obtain ⟨top, htop, hlargest⟩ : ∃ top, top = 2045 ∧ largest = (2 * topBit - 1) * 2 ^ top :=
    ⟨2045, rfl, by decide +kernel⟩
  have hvalue : (4 * m + 2) * 2 ^ e ≤ (2 ^ 55 - 14) * 2 ^ top := by
    have htopBit : topBit = 4503599627370496 := rfl
    rcases hplace with hplace | hplace
    · exact Nat.mul_le_mul (by omega) (Nat.pow_le_pow_right Nat.two_pos (by omega))
    · obtain ⟨d, rfl⟩ : ∃ d, top = e + 1 + d := ⟨top - e - 1, by omega⟩
      calc
        (4 * m + 2) * 2 ^ e ≤ (2 ^ 55 - 14) * 2 * 2 ^ e := Nat.mul_le_mul_right _ (by omega)
        _ = (2 ^ 55 - 14) * 2 ^ (e + 1) := by rw [Nat.pow_succ 2 e, Nat.mul_assoc, Nat.mul_comm 2]
        _ ≤ (2 ^ 55 - 14) * 2 ^ (e + 1 + d) :=
          Nat.mul_le_mul_left _ (Nat.pow_le_pow_right Nat.two_pos (Nat.le_add_right _ _))
  have hnear : 4 * (n * (10 ^ k * unitsPerOne)) ≤ (4 * m + 2) * 2 ^ e := by
    have hhigh :
        4 * (n * (10 ^ k * unitsPerOne)) ≤ 4 * (m * (2 ^ e * 1)) + 2 * (2 ^ e * 1) := h.high
    rw [Nat.mul_one, ← Nat.mul_assoc 4 m, ← Nat.add_mul] at hhigh
    exact hhigh
  have hbelow : u * p ≤ largest * unitsPerOne := by
    rw [hlargest, Nat.mul_assoc]
    refine mul_le_of_rounded hx.mul_two_pow_le hp ?_
    calc
      4 * (n * unitsPerOne * (10 ^ k * unitsPerOne)) =
        4 * (n * (10 ^ k * unitsPerOne)) * unitsPerOne := by ring
      _ ≤ (2 ^ 55 - 14) * 2 ^ top * unitsPerOne := Nat.mul_le_mul_right _ (hnear.trans hvalue)
      _ = (2 ^ 55 - 14) * (2 ^ top * unitsPerOne) := Nat.mul_assoc _ _ _
  obtain ⟨v, -, hproduct⟩ := exists_holds_of_le_largest unitsPerOne_pos hbelow s
  have hscale : scale ⟨s, n, k⟩ = (roundQuotient s (n * unitsPerOne) 1).mul (powerOfTen k) :=
    if_pos hk
  rw [hscale, hx.mul hpower, Bool.bne_false]
  exact hproduct.isFinite

/-- Where no rounding comes before the last one, a decimal that is near to a double is
scaled to it. -/
theorem scale_of_near {s : Bool} {k : Int} (hcanonical : (finite s m e).Canonical) (hn : n < 2 ^ 53)
    (hk : k.natAbs ≤ 22) (h : NearPower m e n k) : scale ⟨s, n, k⟩ = finite s m e := by
  have hx : (roundQuotient s (n * unitsPerOne) 1).Holds s (n * unitsPerOne) := by
    have hwhole := holds_of_whole hn Nat.one_pos s
    rwa [Nat.mul_one] at hwhole
  have hone := unitsPerOne_pos
  cases k with
  | ofNat j =>
    have hj : j ≤ 22 := hk
    have hscale :
        scale ⟨s, n, .ofNat j⟩ = (roundQuotient s (n * unitsPerOne) 1).mul (powerOfTen j) :=
      if_pos (by omega)
    rw [hscale, hx.mul (holds_powerOfTen hj), Bool.bne_false]
    refine roundQuotient_of_near hone hcanonical (h.congr Nat.one_pos hone ?_)
    simp only [powerInUnits]
    ring
  | negSucc j =>
    have hj : j + 1 ≤ 22 := hk
    have hscale : scale ⟨s, n, .negSucc j⟩ =
        (roundQuotient s (n * unitsPerOne) 1).div (powerOfTen (j + 1)) := by
      have hdiv : j / 308 = 0 := Nat.div_eq_of_lt (by omega)
      have hmod : j % 308 = j := Nat.mod_eq_of_lt (by omega)
      simp only [scale, hdiv, hmod, shrink]
    have hpos : 0 < 10 ^ (j + 1) * unitsPerOne := Nat.mul_pos (Nat.pow_pos (by decide)) hone
    rw [hscale, hx.div (holds_powerOfTen hj) hpos, Bool.bne_false]
    refine roundQuotient_of_near hpos hcanonical (h.congr (Nat.pow_pos (by decide)) hpos ?_)
    simp only [powerInUnits]
    ring

end ChatFlow.Binary64
