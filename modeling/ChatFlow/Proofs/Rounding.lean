import ChatFlow.Proofs.Digits
import Mathlib.Tactic.LinearCombination

namespace ChatFlow.Binary64

/-- A quotient lies no further from `significand * 2 ^ exponent` units than half of the way to the
neighbours, all of it in quarters of a unit. Below the least significand of an exponent the
neighbour is only half as far. The ends count for even significands. -/
structure Near (significand exponent num den : Nat) : Prop where
  low : 4 * (significand * (2 ^ exponent * den)) ≤
    4 * num + (if significand = topBit ∧ 0 < exponent then 1 else 2) * (2 ^ exponent * den)
  high : 4 * num ≤ 4 * (significand * (2 ^ exponent * den)) + 2 * (2 ^ exponent * den)
  ends : significand % 2 = 1 →
    4 * (significand * (2 ^ exponent * den)) < 4 * num + 2 * (2 ^ exponent * den) ∧
      4 * num < 4 * (significand * (2 ^ exponent * den)) + 2 * (2 ^ exponent * den)

theorem divideEven_eq {num den n : Nat} (hden : 0 < den) (hlow : 2 * (n * den) ≤ 2 * num + den)
    (hhigh : 2 * num ≤ 2 * (n * den) + den)
    (hends : n % 2 = 1 → 2 * (n * den) < 2 * num + den ∧ 2 * num < 2 * (n * den) + den) :
    divideEven num den = n := by
  have hnum : num / den * den + num % den = num := Nat.div_add_mod' num den
  have hr := Nat.mod_lt num hden
  unfold divideEven
  dsimp only
  generalize num / den = q at *
  generalize num % den = r at *
  rcases Nat.lt_trichotomy q n with hlt | rfl | hgt
  · -- the quotient is one below, and it is rounded up
    obtain ⟨t, rfl⟩ : ∃ t, n = q + 1 + t := Nat.exists_eq_add_of_le hlt
    have hprod : (q + 1 + t) * den = q * den + den + t * den := by ring
    rw [hprod] at hlow hhigh hends
    have ht : t = 0 := by
      by_contra hne
      have hle : den ≤ t * den := Nat.le_mul_of_pos_left den (Nat.pos_of_ne_zero hne)
      omega
    subst ht
    simp only [Nat.zero_mul, Nat.add_zero] at hlow hhigh hends ⊢
    split
    · omega
    · split
      · rfl
      · have hodd : ¬ (q + 1) % 2 = 1 := fun hodd => by
          have := (hends hodd).1
          omega
        omega
  · split
    · rfl
    · split
      · omega
      · have hodd : ¬ q % 2 = 1 := fun hodd => by
          have := (hends hodd).2
          omega
        omega
  · obtain ⟨t, rfl⟩ : ∃ t, q = n + 1 + t := Nat.exists_eq_add_of_le hgt
    have hprod : (n + 1 + t) * den = n * den + den + t * den := by ring
    rw [hprod] at hnum
    omega

theorem topBit_eq : topBit = 2 ^ 52 := rfl

/-- What is divided by a power of two that is close enough below keeps the top bit of a
significand. -/
theorem topBit_le_div {q : Nat} (hq : 2 * topBit ≤ q) :
    topBit ≤ q / 2 ^ (q.log2 - 52) ∧ q / 2 ^ (q.log2 - 52) < 2 * topBit := by
  have hne : q ≠ 0 := by
    have : 0 < topBit := by decide
    omega
  have hlog : 52 ≤ q.log2 := by
    refine (Nat.le_log2 hne).mpr ?_
    rw [← topBit_eq]
    omega
  have hlow : 2 ^ 52 * 2 ^ (q.log2 - 52) ≤ q := by
    rw [← Nat.pow_add, Nat.add_sub_cancel' hlog]
    exact Nat.log2_self_le hne
  have hhigh : q < 2 ^ 53 * 2 ^ (q.log2 - 52) := by
    have hsum : 53 + (q.log2 - 52) = q.log2 + 1 := by omega
    rw [← Nat.pow_add, hsum]
    exact Nat.lt_log2_self
  have hpos : 0 < 2 ^ (q.log2 - 52) := Nat.two_pow_pos _
  rw [topBit_eq]
  exact ⟨(Nat.le_div_iff_mul_le hpos).mpr hlow, (Nat.div_lt_iff_lt_mul hpos).mpr hhigh⟩

/-- The exponent of the double to which a quotient is rounded, from the place of its top bit. -/
theorem exponent_eq {q f : Nat} (hlow : f = 0 ∨ topBit * 2 ^ f ≤ q)
    (hhigh : q < 2 * topBit * 2 ^ f) :
    (if q < 2 * topBit then 0 else q.log2 - 52) = f := by
  cases f with
  | zero => exact if_pos (by simpa using hhigh)
  | succ f =>
    have hlow : topBit * 2 ^ (f + 1) ≤ q := hlow.resolve_left (Nat.succ_ne_zero f)
    have hpos : 0 < 2 ^ f := Nat.two_pow_pos f
    have hq : ¬ q < 2 * topBit := by
      rw [Nat.pow_succ] at hlow
      have : topBit * 1 ≤ topBit * 2 ^ f := Nat.mul_le_mul_left _ hpos
      rw [← Nat.mul_assoc] at hlow
      omega
    have hne : q ≠ 0 := by
      rintro rfl
      exact hq (by decide)
    have hlog : q.log2 = 52 + (f + 1) := by
      refine (Nat.log2_eq_iff hne).mpr ⟨?_, ?_⟩
      · rwa [Nat.pow_add, ← topBit_eq]
      · rw [show 52 + (f + 1) + 1 =
          1 + 52 + (f + 1) by omega, Nat.pow_add, Nat.pow_add, ← topBit_eq]
        exact hhigh
    rw [if_neg hq, hlog, Nat.add_sub_cancel_left]

/-- A quotient whose top bit has that place is rounded to a multiple of that power of two. -/
theorem roundQuotient_eq {num den f n : Nat} (hden : 0 < den)
    (hlow : f = 0 ∨ topBit * 2 ^ f * den ≤ num) (hhigh : num < 2 * topBit * 2 ^ f * den)
    (hn : divideEven num (den * 2 ^ f) = n) (negative : Bool) :
    roundQuotient negative num den =
      if n = 2 * topBit then
        (if f + 1 ≤ 2045 then finite negative topBit (f + 1) else infinity negative)
      else if f ≤ 2045 then finite negative n f else infinity negative := by
  have hexponent : (if num / den < 2 * topBit then 0 else (num / den).log2 - 52) = f := by
    refine exponent_eq (hlow.imp_right fun hlow => ?_) ?_
    · exact (Nat.le_div_iff_mul_le hden).mpr hlow
    · exact (Nat.div_lt_iff_lt_mul hden).mpr hhigh
  unfold roundQuotient
  simp only [Nat.pow_eq, hexponent, hn]
  split <;> rfl

theorem roundQuotient_of_near {num den m e : Nat} {negative : Bool} (hden : 0 < den)
    (hcanonical : (finite negative m e).Canonical) (h : Near m e num den) :
    roundQuotient negative num den = finite negative m e := by
  obtain ⟨hm, htop, he⟩ := hcanonical
  obtain ⟨hlow, hhigh, hends⟩ := h
  have hm1 : m * (2 ^ e * den) + 2 ^ e * den ≤ 2 * topBit * (2 ^ e * den) := by
    rw [← Nat.succ_mul]
    exact Nat.mul_le_mul_right _ hm
  have hpos : 0 < 2 ^ e * den := Nat.mul_pos (Nat.two_pow_pos e) hden
  by_cases hbinade : e = 0 ∨ topBit * (2 ^ e * den) ≤ num
  · have hlow' : 4 * (m * (2 ^ e * den)) ≤ 4 * num + 2 * (2 ^ e * den) := by
      split at hlow <;> omega
    have hround : divideEven num (den * 2 ^ e) = m := by
      rw [Nat.mul_comm den]
      exact divideEven_eq hpos (by omega) (by omega) fun hodd => by
        obtain ⟨h₁, h₂⟩ := hends hodd
        constructor <;> omega
    rw [roundQuotient_eq hden (hbinade.imp_right (Nat.mul_assoc _ _ _ ▸ ·))
      (by rw [Nat.mul_assoc]; omega) hround, if_neg (Nat.ne_of_lt hm), if_pos he]
  · -- the quotient is below the power of two that the significand begins with, in the next smaller
    -- exponent
    obtain ⟨he0, hnum⟩ := not_or.mp hbinade
    obtain ⟨f, rfl⟩ : ∃ f, e = f + 1 := Nat.exists_eq_succ_of_ne_zero he0
    have hpow : 2 ^ (f + 1) * den = 2 * (2 ^ f * den) := by
      rw [Nat.pow_succ]
      ring
    have htopBit : m = topBit := by
      by_contra hne
      have hle : topBit + 1 ≤ m := Nat.lt_of_le_of_ne (htop.resolve_left he0) (Ne.symm hne)
      have hmul : (topBit + 1) * (2 ^ (f + 1) * den) ≤ m * (2 ^ (f + 1) * den) :=
        Nat.mul_le_mul_right _ hle
      rw [if_neg (fun h => hne h.1)] at hlow
      rw [Nat.succ_mul] at hmul
      omega
    subst htopBit
    rw [if_pos ⟨rfl, Nat.succ_pos f⟩, hpow] at hlow
    rw [hpow] at hnum
    have hprod : topBit * (2 * (2 ^ f * den)) = 2 * topBit * (2 ^ f * den) := by ring
    rw [hprod] at hlow hnum
    have hpos' : 0 < 2 ^ f * den := Nat.mul_pos (Nat.two_pow_pos f) hden
    have hround : divideEven num (den * 2 ^ f) = 2 * topBit := by
      rw [Nat.mul_comm den]
      exact divideEven_eq hpos' (by omega) (by omega) fun hodd => absurd hodd (by decide)
    have htwice :
        2 * topBit * (2 ^ f * den) = topBit * (2 ^ f * den) + topBit * (2 ^ f * den) := by ring
    have hunit : 2 ^ f * den ≤ topBit * (2 ^ f * den) := Nat.le_mul_of_pos_left _ (by decide)
    rw [roundQuotient_eq hden (.inr (by rw [Nat.mul_assoc]; omega))
      (by rw [Nat.mul_assoc]; omega) hround,
      if_pos rfl, if_pos he]

def powerInUnits : Int → Nat × Nat
  | .ofNat j => (10 ^ j * unitsPerOne, 1)
  | .negSucc j => (unitsPerOne, 10 ^ (j + 1))

theorem unitsPerOne_pos : 0 < unitsPerOne := by decide +kernel

theorem powerInUnits_pos (k : Int) : 0 < (powerInUnits k).1 ∧ 0 < (powerInUnits k).2 := by
  cases k with
  | ofNat j =>
    simp only [powerInUnits]
    exact ⟨Nat.mul_pos (Nat.pow_pos (by decide)) unitsPerOne_pos, Nat.one_pos⟩
  | negSucc j =>
    simp only [powerInUnits]
    exact ⟨unitsPerOne_pos, Nat.pow_pos (by decide)⟩

theorem le_iff_of_mul_eq {a b a' b' d d' : Nat} (hd : 0 < d) (hd' : 0 < d') (ha : a' * d = a * d')
    (hb : b' * d = b * d') : a' ≤ b' ↔ a ≤ b := by
  rw [← Nat.mul_le_mul_right_iff hd, ha, hb, Nat.mul_le_mul_right_iff hd']

theorem Near.congr {m e num den num' den' : Nat} (h : Near m e num den) (hden : 0 < den)
    (hden' : 0 < den') (heq : num' * den = num * den') : Near m e num' den' := by
  obtain ⟨hlow, hhigh, hends⟩ := h
  have hhere : 4 * (m * (2 ^ e * den')) * den = 4 * (m * (2 ^ e * den)) * den' := by ring
  have hnum : 4 * num' * den = 4 * num * den' := by linear_combination 4 * heq
  have hbelow (k : Nat) :
      (4 * num' + k * (2 ^ e * den')) * den = (4 * num + k * (2 ^ e * den)) * den' := by
    linear_combination 4 * heq
  have habove (k : Nat) : (4 * (m * (2 ^ e * den')) + k * (2 ^ e * den')) * den =
      (4 * (m * (2 ^ e * den)) + k * (2 ^ e * den)) * den' := by ring
  refine ⟨(le_iff_of_mul_eq hden hden' hhere (hbelow _)).mpr hlow,
    (le_iff_of_mul_eq hden hden' hnum (habove 2)).mpr hhigh, fun hodd => ?_⟩
  obtain ⟨hlt, hlt'⟩ := hends hodd
  exact ⟨not_le.mp (mt (le_iff_of_mul_eq hden hden' (hbelow 2) hhere).mp (not_le.mpr hlt)),
    not_le.mp (mt (le_iff_of_mul_eq hden hden' (habove 2) hnum).mp (not_le.mpr hlt'))⟩

def NearPower (m e c : Nat) (k : Int) : Prop := Near m e (c * (powerInUnits k).1) (powerInUnits k).2

theorem NearPower.exists_lt {m e c : Nat} {k : Int} {negative : Bool}
    (hcanonical : (finite negative m e).Canonical) (h : NearPower m e c k) :
    ∃ n ≤ 309, c * (powerInUnits k).1 < 10 ^ n * unitsPerOne * (powerInUnits k).2 := by
  obtain ⟨hsig, -, he⟩ := hcanonical
  have hhigh := h.high
  obtain ⟨n, l, hn, hl, hlargest⟩ :
      ∃ n l, e ≤ n ∧ l ≤ 309 ∧ 2 * topBit * 2 ^ n < 10 ^ l * unitsPerOne :=
    ⟨2045, 309, he, Nat.le_refl _, by decide +kernel⟩
  refine ⟨l, hl, ?_⟩
  calc
    c * (powerInUnits k).1 ≤ (m + 1) * 2 ^ e * (powerInUnits k).2 := by
      rw [Nat.mul_assoc, Nat.succ_mul]
      omega
    _ ≤ 2 * topBit * 2 ^ n * (powerInUnits k).2 :=
      Nat.mul_le_mul_right _ (Nat.mul_le_mul hsig (Nat.pow_le_pow_right Nat.two_pos hn))
    _ < _ := Nat.mul_lt_mul_of_pos_right hlargest (powerInUnits_pos k).2

theorem NearPower.exponent_le {m e c : Nat} {k : Int} {negative : Bool}
    (hcanonical : (finite negative m e).Canonical) (hc : 0 < c) (h : NearPower m e c k) :
    k ≤ 308 := by
  cases k with
  | negSucc j => omega
  | ofNat j =>
    obtain ⟨n, hn, hlt⟩ := h.exists_lt hcanonical
    simp only [powerInUnits, Nat.mul_one] at hlt
    have hpower : 10 ^ j < 10 ^ n :=
      Nat.lt_of_mul_lt_mul_right (Nat.lt_of_le_of_lt (Nat.le_mul_of_pos_left _ hc) hlt)
    have hlt' := (Nat.pow_lt_pow_iff_right (a := 10) (by decide)).mp hpower
    simp only [Int.ofNat_eq_natCast]
    omega

theorem NearPower.le {m e c : Nat} {k : Int} (hm : 0 < m) (h : NearPower m e c k) :
    (powerInUnits k).2 ≤ 2 * (c * (powerInUnits k).1) := by
  have hlow := h.low
  have hone : 1 * (2 ^ e * (powerInUnits k).2) ≤ m * (2 ^ e * (powerInUnits k).2) :=
    Nat.mul_le_mul_right _ hm
  have hunit : 1 * (powerInUnits k).2 ≤ 2 ^ e * (powerInUnits k).2 :=
    Nat.mul_le_mul_right _ (Nat.two_pow_pos e)
  split at hlow <;> omega

/-- A whole number is written with a zero behind the point. -/
theorem NearPower.pointed {m e c j : Nat} (h : NearPower m e c j) :
    NearPower m e (c * 10 ^ (j + 1)) (-1) := by
  have hwhole : powerInUnits j = (10 ^ j * unitsPerOne, 1) := rfl
  have htenth : powerInUnits (-1) = (unitsPerOne, 10) := rfl
  rw [NearPower, hwhole] at h
  rw [NearPower, htenth]
  exact h.congr Nat.one_pos (by decide) (by rw [Nat.pow_succ]; ring)

/-- A decimal near to a double with a value reads as that double; it is neither too large nor too
small for the place of its first digit to settle it. -/
theorem ofDecimal_of_near {m e c : Nat} {k : Int} {negative : Bool}
    (hcanonical : (finite negative m e).Canonical) (hm : 0 < m) (hc : 0 < c)
    (h : NearPower m e c k) :
    ofDecimal ⟨negative, c, k⟩ = finite negative m e := by
  have hround := roundQuotient_of_near (powerInUnits_pos k).2 hcanonical h
  obtain ⟨l, hl, hlt⟩ := h.exists_lt hcanonical
  have hle := h.le hm
  have hfirst := Decimal.pow_length_digitsOf_le hc
  have hlast := Decimal.lt_pow_length_digitsOf c
  have hpos := Decimal.length_digitsOf_pos c
  unfold ofDecimal
  simp only [Nat.ne_of_gt hc, if_false]
  generalize hlength : (Decimal.digitsOf c).length = length at *
  cases k with
  | ofNat j =>
    simp only [powerInUnits, Nat.mul_one] at hlt hround
    rw [← Nat.mul_assoc] at hlt
    have hplace : length - 1 + j < l := by
      refine (Nat.pow_lt_pow_iff_right (a := 10) (by decide)).mp ?_
      rw [Nat.pow_add]
      exact Nat.lt_of_le_of_lt (Nat.mul_le_mul_right _ hfirst) (Nat.lt_of_mul_lt_mul_right hlt)
    rw [if_neg (by simp only [Int.ofNat_eq_natCast]; omega),
      if_neg (by simp only [Int.ofNat_eq_natCast]; omega)]
    simp only [Nat.pow_eq, Nat.mul_assoc]
    exact hround
  | negSucc j =>
    simp only [powerInUnits] at hlt hle hround
    have hplace : length - 1 < l + (j + 1) := by
      refine (Nat.pow_lt_pow_iff_right (a := 10) (by decide)).mp (Nat.lt_of_le_of_lt hfirst ?_)
      rw [Nat.mul_right_comm, ← Nat.pow_add] at hlt
      exact Nat.lt_of_mul_lt_mul_right hlt
    obtain ⟨places, hplaces, hleast⟩ : ∃ n ≤ 324, 2 * unitsPerOne ≤ 10 ^ n :=
      ⟨324, Nat.le_refl _, by decide +kernel⟩
    have hplace' : j + 1 < length + places := by
      refine (Nat.pow_lt_pow_iff_right (a := 10) (by decide)).mp ?_
      calc
        10 ^ (j + 1) ≤ 2 * (c * unitsPerOne) := hle
        _ = c * (2 * unitsPerOne) := by ring
        _ < 10 ^ length * (2 * unitsPerOne) :=
          Nat.mul_lt_mul_of_pos_right hlast (Nat.mul_pos (by decide) unitsPerOne_pos)
        _ ≤ 10 ^ length * 10 ^ places := Nat.mul_le_mul_left _ hleast
        _ = 10 ^ (length + places) := (Nat.pow_add _ _ _).symm
    rw [if_neg (by omega), if_neg (by omega)]
    exact hround

end ChatFlow.Binary64
