import ChatFlow.Json.Basic
import ChatFlow.Proofs.Rounding

namespace ChatFlow

theorem Number.Valid.natAbs_le {n : Int} (h : (Number.whole n).Valid) : n.natAbs ≤ 2 ^ 64 := by
  unfold Number.Valid maxSignedWord maxWord at h
  omega

namespace Binary64

variable {num den m e n u : Nat} {negative : Bool}

/-- Every quotient has its top bit in a significand of some exponent. -/
theorem exists_exponent (num : Nat) (hden : 0 < den) :
    ∃ f, (f = 0 ∨ topBit * 2 ^ f * den ≤ num) ∧ num < 2 * topBit * 2 ^ f * den := by
  simp only [← Nat.le_div_iff_mul_le hden, ← Nat.div_lt_iff_lt_mul hden]
  generalize num / den = q
  by_cases hq : 2 * topBit ≤ q
  · obtain ⟨hlow, hhigh⟩ := topBit_le_div hq
    have hpos : 0 < 2 ^ (q.log2 - 52) := Nat.two_pow_pos _
    exact ⟨q.log2 - 52, .inr ((Nat.le_div_iff_mul_le hpos).mp hlow),
      (Nat.div_lt_iff_lt_mul hpos).mp hhigh⟩
  · exact ⟨0, .inl rfl, by omega⟩

/-- The largest significand of an exponent is below the least one of the next. -/
theorem two_topBit_mul_le {e f : Nat} (h : e < f) : 2 * topBit * 2 ^ e ≤ topBit * 2 ^ f := by
  calc
    2 * topBit * 2 ^ e = topBit * 2 ^ (e + 1) := by rw [Nat.pow_succ]; ring
    _ ≤ topBit * 2 ^ f := Nat.mul_le_mul_left _ (Nat.pow_le_pow_right Nat.two_pos h)

theorem le_divideEven_of_mul_le (hden : 0 < den) (h : n * den ≤ num) : n ≤ divideEven num den :=
  ((Nat.le_div_iff_mul_le hden).mpr h).trans (le_divideEven num den)

theorem divideEven_le_of_le_mul (hden : 0 < den) (h : num ≤ n * den) : divideEven num den ≤ n := by
  have hnum : num / den * den + num % den = num := Nat.div_add_mod' num den
  by_cases hlt : num / den < n
  · exact (divideEven_le num den).trans hlt
  · -- the quotient is the bound itself, and nothing remains to be rounded up
    have hle : n * den ≤ num / den * den := Nat.mul_le_mul_right _ (Nat.le_of_not_lt hlt)
    have hq : num / den = n :=
      Nat.le_antisymm (Nat.div_le_of_le_mul (by rwa [Nat.mul_comm])) (by omega)
    have hr : num % den = 0 := by omega
    unfold divideEven
    simp only [hq, hr, Nat.mul_zero, if_pos hden, Nat.le_refl]

def Holds (x : Binary64) (negative : Bool) (units : Nat) : Prop :=
  ∃ m e, x = finite negative m e ∧ m * 2 ^ e = units

/-- What a quotient is rounded to: the nearest multiple of a power of two, unless that is above
every double. -/
theorem roundQuotient_cases {f : Nat} (hden : 0 < den) (hlow : f = 0 ∨ topBit * 2 ^ f * den ≤ num)
    (hhigh : num < 2 * topBit * 2 ^ f * den) (negative : Bool) :
    (roundQuotient negative num den).Holds negative (divideEven num (den * 2 ^ f) * 2 ^ f) ∨
      roundQuotient negative num den = infinity negative ∧
        ∀ e ≤ 2045, 2 * topBit * 2 ^ e ≤ divideEven num (den * 2 ^ f) * 2 ^ f := by
  have htop : f = 0 ∨ topBit ≤ divideEven num (den * 2 ^ f) := by
    refine hlow.imp_right fun hlow => ?_
    apply le_divideEven_of_mul_le (Nat.mul_pos hden (Nat.two_pow_pos f))
    exact hlow.trans_eq' (by ring)
  rw [roundQuotient_eq hden hlow hhigh rfl]
  generalize divideEven num (den * 2 ^ f) = n at htop
  split
  · next hn =>
    split
    · refine .inl ⟨_, _, rfl, ?_⟩
      rw [hn, Nat.pow_succ]
      ring
    · next hf =>
      refine .inr ⟨rfl, fun e he => ?_⟩
      rw [hn]
      exact Nat.mul_le_mul_left _ (Nat.pow_le_pow_right Nat.two_pos (by omega))
  · split
    · exact .inl ⟨_, _, rfl, rfl⟩
    · next hf =>
      refine .inr ⟨rfl, fun e he => ?_⟩
      exact (two_topBit_mul_le (by omega)).trans
        (Nat.mul_le_mul_right _ (htop.resolve_left (by omega)))

/-- What lies below a double is rounded to no more than it. -/
theorem exists_holds_of_le (hm : m < 2 * topBit) (he : e ≤ 2045) (hden : 0 < den)
    (h : num ≤ m * 2 ^ e * den) (negative : Bool) :
    ∃ u ≤ m * 2 ^ e, (roundQuotient negative num den).Holds negative u := by
  obtain ⟨f, hlow, hhigh⟩ := exists_exponent num hden
  have hlargest : m * 2 ^ e < 2 * topBit * 2 ^ e :=
    Nat.mul_lt_mul_of_pos_right hm (Nat.two_pow_pos e)
  have hfe : f ≤ e := by
    by_contra hlt
    have hbelow : m * 2 ^ e < topBit * 2 ^ f :=
      hlargest.trans_le (two_topBit_mul_le (Nat.lt_of_not_le hlt))
    have htop : topBit * 2 ^ f * den ≤ m * 2 ^ e * den := (hlow.resolve_left (by omega)).trans h
    exact absurd htop (Nat.not_le.mpr (Nat.mul_lt_mul_of_pos_right hbelow hden))
  obtain ⟨d, rfl⟩ := Nat.exists_eq_add_of_le hfe
  have hvalue : m * 2 ^ (f + d) = m * 2 ^ d * 2 ^ f := by
    rw [Nat.pow_add]
    ring
  have hround : divideEven num (den * 2 ^ f) * 2 ^ f ≤ m * 2 ^ (f + d) := by
    rw [hvalue] at h ⊢
    apply Nat.mul_le_mul_right
    exact divideEven_le_of_le_mul (Nat.mul_pos hden (Nat.two_pow_pos f)) (h.trans_eq (by ring))
  rcases roundQuotient_cases hden hlow hhigh negative with hholds | ⟨-, hlarge⟩
  · exact ⟨_, hround, hholds⟩
  · exact absurd hlargest (Nat.not_lt.mpr ((hlarge _ he).trans hround))

theorem Holds.inj {x : Binary64} {s t : Bool} {v : Nat} (hu : x.Holds s u) (hv : x.Holds t v) :
    u = v := by
  obtain ⟨m, e, rfl, rfl⟩ := hu
  obtain ⟨n, f, heq, rfl⟩ := hv
  cases heq
  rfl

/-- What lies above a double is rounded to no less than it. -/
theorem Holds.le (hholds : (roundQuotient negative num den).Holds negative u) (hm : m < 2 * topBit)
    (hden : 0 < den) (h : m * 2 ^ e * den ≤ num) : m * 2 ^ e ≤ u := by
  obtain ⟨f, hlow, hhigh⟩ := exists_exponent num hden
  have hpos : 0 < den * 2 ^ f := Nat.mul_pos hden (Nat.two_pow_pos f)
  rcases roundQuotient_cases hden hlow hhigh negative with hvalue | ⟨hinfinity, -⟩
  · rw [hholds.inj hvalue]
    by_cases hfe : f ≤ e
    · obtain ⟨d, rfl⟩ := Nat.exists_eq_add_of_le hfe
      rw [Nat.pow_add, Nat.mul_left_comm, Nat.mul_comm]
      apply Nat.mul_le_mul_right
      apply le_divideEven_of_mul_le hpos
      exact h.trans_eq' (by rw [Nat.pow_add]; ring)
    · calc
        m * 2 ^ e ≤ 2 * topBit * 2 ^ e := Nat.mul_le_mul_right _ hm.le
        _ ≤ topBit * 2 ^ f := two_topBit_mul_le (Nat.lt_of_not_le hfe)
        _ ≤ _ := by
          apply Nat.mul_le_mul_right
          apply le_divideEven_of_mul_le hpos
          exact (hlow.resolve_left (by omega)).trans_eq' (by ring)
  · obtain ⟨m, e, heq, -⟩ := hholds
    rw [hinfinity] at heq
    cases heq

theorem holds_roundQuotient (hm : m < 2 * topBit) (he : e ≤ 2045) (hden : 0 < den)
    (h : num = m * 2 ^ e * den) (negative : Bool) : (roundQuotient negative num den).Holds negative
    (m * 2 ^ e) := by
  obtain ⟨u, hu, hholds⟩ := exists_holds_of_le hm he hden h.le negative
  rwa [Nat.le_antisymm hu (hholds.le hm hden h.ge)] at hholds

/-- One is a power of two in units, with room above it for more than 64 bits. -/
theorem exists_unitsPerOne_eq : ∃ k ≤ 1900, unitsPerOne = 2 ^ k := ⟨1074, by decide +kernel⟩

theorem Holds.mul {x y : Binary64} {s t : Bool} {v : Nat} (hx : x.Holds s u) (hy : y.Holds t v) :
    x.mul y = roundQuotient (s != t) (u * v) unitsPerOne := by
  obtain ⟨m, e, rfl, rfl⟩ := hx
  obtain ⟨n, f, rfl, rfl⟩ := hy
  rw [Binary64.mul, Nat.pow_eq, Nat.pow_add]
  congr 1
  ring

theorem Holds.isFinite {x : Binary64} (h : x.Holds negative u) : x.isFinite = true := by
  obtain ⟨m, e, rfl, -⟩ := h
  rfl

theorem Holds.truncate_nonpos {x : Binary64} (h : x.Holds true u) : x.truncate ≤ 0 := by
  obtain ⟨m, e, rfl, rfl⟩ := h
  rw [Binary64.truncate, units, Int.neg_tdiv]
  exact Int.neg_nonpos_of_nonneg (Int.tdiv_nonneg (Int.natCast_nonneg _) (Int.natCast_nonneg _))

theorem Holds.truncate {x : Binary64} (h : x.Holds false u) :
    x.truncate = (u / unitsPerOne : Nat) := by
  obtain ⟨m, e, rfl, rfl⟩ := h
  rfl

theorem ofInt_natCast (n : Nat) : ofInt n = roundQuotient false (n * unitsPerOne) 1 := by
  have hn : ¬ (n : Int) < 0 := by omega
  rw [ofInt, decide_eq_false hn, Int.natAbs_natCast]

/-- A quotient that is a whole number below `2 ^ 53` is rounded to it. -/
theorem holds_of_whole (hn : n < 2 ^ 53) (hden : 0 < den) (negative : Bool) :
    (roundQuotient negative (n * unitsPerOne * den) den).Holds negative (n * unitsPerOne) := by
  obtain ⟨k, hk, hunits⟩ := exists_unitsPerOne_eq
  rw [hunits]
  exact holds_roundQuotient hn (by omega) hden rfl negative

/-- A quotient between a whole number below `2 ^ 53` and one of so many bits is rounded to between
them. -/
theorem exists_holds_of_between {l bits : Nat} (hl : l < 2 ^ 53) (hden : 0 < den)
    (hbits : bits ≤ 145) (hlow : l * unitsPerOne * den ≤ num)
    (hhigh : num ≤ 2 ^ bits * unitsPerOne * den) (negative : Bool) :
    ∃ u, l * unitsPerOne ≤ u ∧ u ≤ 2 ^ bits * unitsPerOne ∧
      (roundQuotient negative num den).Holds negative u := by
  obtain ⟨k, hk, hunits⟩ := exists_unitsPerOne_eq
  have hpow : 2 ^ bits * 2 ^ k = 1 * 2 ^ (bits + k) := by rw [Nat.one_mul, Nat.pow_add]
  rw [hunits] at hlow hhigh ⊢
  rw [hpow] at hhigh ⊢
  obtain ⟨u, hu, hholds⟩ := exists_holds_of_le (by decide) (by omega) hden hhigh negative
  exact ⟨u, hholds.le hl hden hlow, hu, hholds⟩

theorem holds_ofInt (hn : n < 2 ^ 53) : (ofInt n).Holds false (n * unitsPerOne) := by
  have h := holds_of_whole hn Nat.one_pos false
  rwa [Nat.mul_one, ← ofInt_natCast] at h

theorem holds_mul_ofInt (hn : n < 2 ^ 53) (hu : u < 2 ^ 53) (h : n * u < 2 ^ 53) :
    ((ofInt n).mul (ofInt u)).Holds false (n * u * unitsPerOne) := by
  have hproduct : n * unitsPerOne * (u * unitsPerOne) = n * u * unitsPerOne * unitsPerOne := by ring
  rw [(holds_ofInt hn).mul (holds_ofInt hu), hproduct]
  exact holds_of_whole h unitsPerOne_pos false

/-- A whole number of 64 bits keeps its sign, and is rounded to no less than a whole number below `2
^ 53` that it is not below. -/
theorem exists_holds_ofInt {n : Int} {l : Nat} (hl : l < 2 ^ 53) (hln : l ≤ n.natAbs)
    (hn : n.natAbs ≤ 2 ^ 64) :
    ∃ x, l * unitsPerOne ≤ x ∧ x ≤ 2 ^ 64 * unitsPerOne ∧ (ofInt n).Holds (decide (n < 0)) x := by
  apply exists_holds_of_between hl Nat.one_pos (by decide)
  · rw [Nat.mul_one]
    exact Nat.mul_le_mul_right _ hln
  · rw [Nat.mul_one]
    exact Nat.mul_le_mul_right _ hn

/-- A product from `2 ^ 53` on may be inexact, but it does not pass by what is exact. -/
theorem exists_holds_mul_ofInt {n : Int} {l : Nat} (hn : n.natAbs ≤ 2 ^ 64) (hpos : 0 < u)
    (hu : u < 2 ^ 53) (hl : l < 2 ^ 53) (hlow : l ≤ n.natAbs * u) :
    ∃ v, l * unitsPerOne ≤ v ∧ ((ofInt n).mul (ofInt u)).Holds (decide (n < 0)) v := by
  obtain ⟨k, hk, hkn, hlk⟩ : ∃ k < 2 ^ 53, k ≤ n.natAbs ∧ l ≤ k * u := by
    by_cases hsmall : n.natAbs < 2 ^ 53
    · exact ⟨n.natAbs, hsmall, Nat.le_refl _, hlow⟩
    · exact ⟨2 ^ 53
        - 1, by decide, by omega, (Nat.le_sub_one_of_lt hl).trans (Nat.le_mul_of_pos_right _ hpos)⟩
  obtain ⟨x, hx, hx', hholds⟩ := exists_holds_ofInt hk hkn hn
  have hbelow : l * unitsPerOne * unitsPerOne ≤ x * (u * unitsPerOne) := by
    calc
      l * unitsPerOne * unitsPerOne ≤ k * u * unitsPerOne * unitsPerOne := by gcongr
      _ = k * unitsPerOne * (u * unitsPerOne) := by ring
      _ ≤ x * (u * unitsPerOne) := Nat.mul_le_mul_right _ hx
  have habove : x * (u * unitsPerOne) ≤ 2 ^ 117 * unitsPerOne * unitsPerOne := by
    calc
      x * (u * unitsPerOne) ≤ 2 ^ 64 * unitsPerOne * (2 ^ 53 * unitsPerOne) := by gcongr
      _ = 2 ^ 117 * unitsPerOne * unitsPerOne := by ring
  obtain ⟨v, hv, -, hproduct⟩ :=
    exists_holds_of_between hl unitsPerOne_pos (by decide) hbelow habove (decide (n < 0))
  refine ⟨v, hv, ?_⟩
  rw [hholds.mul (holds_ofInt hu), Bool.bne_false]
  exact hproduct

end Binary64

end ChatFlow
