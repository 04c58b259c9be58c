import ChatFlow.Proofs.Rounding

namespace ChatFlow.Binary64

theorem comparePower_eq (c : Nat) (k : Int) (num : Nat) :
    comparePower c k num (4 * unitsPerOne) =
      compare (4 * (c * (powerInUnits k).1)) (num * (powerInUnits k).2) := by
  cases k with
  | ofNat j =>
    simp only [comparePower, powerInUnits, Nat.pow_eq, Nat.mul_one]
    rw [show c * 10 ^ j * (4 * unitsPerOne) = 4 * (c * (10 ^ j * unitsPerOne)) by ring]
  | negSucc j =>
    simp only [comparePower, powerInUnits, Nat.pow_eq]
    rw [Nat.mul_left_comm]

theorem floorPower_eq (k : Int) (num : Nat) :
    floorPower k num (4 * unitsPerOne) = num * (powerInUnits k).2 / (4 * (powerInUnits k).1) := by
  cases k with
  | ofNat j =>
    simp only [floorPower, powerInUnits, Nat.pow_eq, Nat.mul_one]
    rw [show 4 * unitsPerOne * 10 ^ j = 4 * (10 ^ j * unitsPerOne) by ring]
  | negSucc j => simp only [floorPower, powerInUnits, Nat.pow_eq]

/-- Whether a multiple of a power of ten is among the numbers that round to a double. -/
def rounds (significand exponent : Nat) (k : Int) (c : Nat) : Bool :=
  let (low, _, high, closed) := interval significand exponent
  match comparePower c k low (4 * unitsPerOne), comparePower c k high (4 * unitsPerOne) with
  | .gt, .lt => true
  | .eq, _ | _, .eq => closed
  | _, _ => false

theorem searchGrid_succ (tie : Tie) (m e steps : Nat) (k : Int) :
    searchGrid tie m e (steps + 1) k =
      let here := 4 * m * Nat.pow 2 e
      let floor := floorPower k here (4 * unitsPerOne)
      match rounds m e k floor, rounds m e k (floor + 1) with
      | true, true =>
        match comparePower (2 * floor + 1) k (2 * here) (4 * unitsPerOne) with
        | .gt => (floor, k)
        | .lt => (floor + 1, k)
        | .eq => if tie = .up ∨ floor % 2 = 1 then (floor + 1, k) else (floor, k)
      | true, false => (floor, k)
      | false, true => (floor + 1, k)
      | false, false => searchGrid tie m e steps (k - 1) := rfl

theorem between_iff {a low high : Nat} {closed : Bool} (h : low < high) :
    (match compare a low, compare a high with
      | .gt, .lt => true
      | .eq, _ | _, .eq => closed
      | _, _ => false) = true ↔
      low ≤ a ∧ a ≤ high ∧ (closed = false → low < a ∧ a < high) := by
  cases hlow : compare a low <;> cases hhigh : compare a high <;>
    simp only [compare_lt_iff_lt, compare_eq_iff_eq, compare_gt_iff_gt] at hlow hhigh <;>
      cases closed <;> simp <;> omega

theorem rounds_iff {m e c : Nat} {k : Int} (hm : 0 < m) : rounds m e k c = true ↔
    NearPower m e c k := by
  have hpos := (powerInUnits_pos k).2
  unfold rounds interval NearPower
  simp only [Nat.pow_eq, comparePower_eq]
  generalize (powerInUnits k).1 = num at *
  generalize (powerInUnits k).2 = den at *
  have hgap : 0 < 2 ^ e * den := Nat.mul_pos (Nat.two_pow_pos e) hpos
  have hle : 2 ^ e * den ≤ m * (2 ^ e * den) := Nat.le_mul_of_pos_left _ hm
  have hhere : 4 * m * 2 ^ e * den = 4 * (m * (2 ^ e * den)) := by ring
  have hlow : (4 * m * 2 ^ e - if m = topBit ∧ 0 < e then 2 ^ e else 2 * 2 ^ e) * den =
      4 * (m * (2 ^ e * den)) - (if m = topBit ∧ 0 < e then 1 else 2) * (2 ^ e * den) := by
    rw [Nat.sub_mul, hhere]
    split <;> ring_nf
  have hhigh :
      (4 * m * 2 ^ e + 2 * 2 ^ e) * den = 4 * (m * (2 ^ e * den)) + 2 * (2 ^ e * den) := by ring
  rw [hlow, hhigh, between_iff (by split <;> omega)]
  constructor
  · intro ⟨hlow, hhigh, hends⟩
    refine ⟨by omega, by omega, fun hodd => ?_⟩
    have hstrict := hends (by simp [hodd])
    split at hstrict <;> omega
  · intro ⟨hlow, hhigh, hends⟩
    refine ⟨by omega, by omega, fun hopen => ?_⟩
    have hodd : m % 2 = 1 := by
      rw [beq_eq_false_iff_ne] at hopen
      omega
    -- an odd significand is not the least of its exponent
    have hbit : ¬ (m = topBit ∧ 0 < e) := fun h => absurd (h.1 ▸ hodd) (by decide)
    have hstrict := hends hodd
    rw [if_neg hbit]
    omega

/-- The multiple just above a double rounds to it on a grid finer than the gap to the next
double. -/
theorem nearPower_of_fine {m e : Nat} {k : Int}
    (hfine : 2 * (powerInUnits k).1 < 2 ^ e * (powerInUnits k).2) :
    NearPower m e (floorPower k (4 * m * 2 ^ e) (4 * unitsPerOne) + 1) k := by
  have hpos := (powerInUnits_pos k).1
  rw [floorPower_eq]
  unfold NearPower
  generalize (powerInUnits k).1 = num at *
  generalize (powerInUnits k).2 = den at *
  have hhere : 4 * m * 2 ^ e * den = 4 * (m * (2 ^ e * den)) := by ring
  rw [hhere]
  have hmod := Nat.div_add_mod' (4 * (m * (2 ^ e * den))) (4 * num)
  have hlt := Nat.mod_lt (4 * (m * (2 ^ e * den))) (Nat.mul_pos (by decide : 0 < 4) hpos)
  generalize 4 * (m * (2 ^ e * den)) / (4 * num) = q at *
  have hq : 4 * ((q + 1) * num) = q * (4 * num) + 4 * num := by ring
  refine ⟨?_, ?_, fun _ => ⟨?_, ?_⟩⟩ <;> omega

/-- The search ends at a multiple next to the double, which rounds to it, on a grid no finer than a
fine one. -/
theorem searchGrid_found (tie : Tie) {m e : Nat} (hm : 0 < m) {steps j : Nat} {k : Int}
    (hj : j < steps) (hfine : 2 * (powerInUnits (k - j)).1 < 2 ^ e * (powerInUnits (k - j)).2) :
    let found := searchGrid tie m e steps k
    NearPower m e found.1 found.2 ∧ k - j ≤ found.2 ∧
      found.1 ≤ floorPower found.2 (4 * m * 2 ^ e) (4 * unitsPerOne) + 1 := by
  induction steps generalizing j k with
  | zero => exact absurd hj (Nat.not_lt_zero j)
  | succ steps ih =>
    have hk : k - j ≤ k := by omega
    rw [searchGrid_succ]
    dsimp only
    split
    · next hfloor hnext =>
      rw [rounds_iff hm] at hfloor hnext
      split
      · exact ⟨hfloor, hk, Nat.le_succ _⟩
      · exact ⟨hnext, hk, Nat.le_refl _⟩
      · split
        · exact ⟨hnext, hk, Nat.le_refl _⟩
        · exact ⟨hfloor, hk, Nat.le_succ _⟩
    · next hfloor _ => exact ⟨(rounds_iff hm).mp hfloor, hk, Nat.le_succ _⟩
    · next _ hnext => exact ⟨(rounds_iff hm).mp hnext, hk, Nat.le_refl _⟩
    · next _ hnext =>
      -- a grid on which nothing rounds to the double is not the fine one
      cases j with
      | zero =>
        rw [Int.natCast_zero, Int.sub_zero] at hfine
        exact absurd ((rounds_iff hm).mpr (nearPower_of_fine hfine)) (by simp [← Nat.pow_eq, hnext])
      | succ j =>
        have hshift : k - (j + 1 : Nat) = k - 1 - j := by omega
        rw [hshift] at hfine ⊢
        exact ih (Nat.lt_of_succ_lt_succ hj) hfine

theorem powerInUnits_sub (a b : Nat) :
    (powerInUnits (a - b)).1 * 10 ^ b = 10 ^ a * unitsPerOne * (powerInUnits (a - b)).2 := by
  cases h : ((a : Int) - b) with
  | ofNat j =>
    rw [Int.ofNat_eq_natCast] at h
    obtain rfl : a = j + b := by omega
    simp only [powerInUnits, Nat.pow_add]
    ring
  | negSucc j =>
    obtain rfl : b = a + (j + 1) := by omega
    simp only [powerInUnits, Nat.pow_add]
    ring

/-- A grid is fine once its step is seventeen digits below a double. -/
theorem fine_of_le {m e a b : Nat} (hm : m < 2 * topBit)
    (hle : 10 ^ a * unitsPerOne ≤ m * 2 ^ e * 10 ^ b) :
    2 * (powerInUnits (a - (b + 17 : Nat))).1 < 2 ^ e * (powerInUnits (a - (b + 17 : Nat))).2 := by
  have hsub := powerInUnits_sub a (b + 17)
  have hpos := (powerInUnits_pos (a - (b + 17 : Nat))).2
  generalize (powerInUnits (a - (b + 17 : Nat))).1 = num at *
  generalize (powerInUnits (a - (b + 17 : Nat))).2 = den at *
  have hten : 0 < 10 ^ b := Nat.pow_pos (by decide)
  have hchain : num * 10 ^ 17 * 10 ^ b ≤ m * (2 ^ e * den) * 10 ^ b := by
    calc
      num * 10 ^ 17 * 10 ^ b = num * 10 ^ (b + 17) := by rw [Nat.pow_add]; ring
      _ = 10 ^ a * unitsPerOne * den := hsub
      _ ≤ m * 2 ^ e * 10 ^ b * den := Nat.mul_le_mul_right _ hle
      _ = m * (2 ^ e * den) * 10 ^ b := by ring
  have hshort : num * 10 ^ 17 ≤ m * (2 ^ e * den) := Nat.le_of_mul_le_mul_right hchain hten
  have hsig : m * (2 ^ e * den) < 2 * topBit * (2 ^ e * den) :=
    Nat.mul_lt_mul_of_pos_right hm (Nat.mul_pos (Nat.two_pow_pos e) hpos)
  have htopBit : topBit = 4503599627370496 := rfl
  rw [htopBit] at hsig
  omega

/-- The place of the first digit of a double, and how far above a fine grid the search for its
digits starts. -/
theorem exists_place {m e : Nat} (tie : Tie) (hm : 0 < m) :
    ∃ a b j : Nat, ∃ k : Int, j < 20 ∧ k - j = a - (b + 17 : Nat) ∧
      shortest tie m e = searchGrid tie m e 20 k ∧
      10 ^ a * unitsPerOne ≤ m * 2 ^ e * 10 ^ b ∧
        m * 2 ^ e * 10 ^ b ≤ 10 ^ (a + 1) * unitsPerOne := by
  have hhere : 0 < m * 2 ^ e := Nat.mul_pos hm (Nat.two_pow_pos e)
  unfold shortest
  simp only [Nat.pow_eq]
  by_cases hle : unitsPerOne ≤ m * 2 ^ e
  · -- the first digit stands before the point
    have hpos : 0 < m * 2 ^ e / unitsPerOne := Nat.div_pos hle unitsPerOne_pos
    have hfirst := Decimal.pow_length_digitsOf_le hpos
    have hlast := Decimal.lt_pow_length_digitsOf (m * 2 ^ e / unitsPerOne)
    have hlength := Decimal.length_digitsOf_pos (m * 2 ^ e / unitsPerOne)
    rw [if_pos hle]
    generalize (Decimal.digitsOf (m * 2 ^ e / unitsPerOne)).length = length at *
    obtain ⟨a, rfl⟩ : ∃ a, length = a + 1 := Nat.exists_eq_succ_of_ne_zero (Nat.ne_of_gt hlength)
    refine ⟨a, 0, 18, _, by decide, by omega, rfl, ?_, ?_⟩ <;> rw [Nat.pow_zero, Nat.mul_one]
    · exact (Nat.le_div_iff_mul_le unitsPerOne_pos).mp hfirst
    · exact Nat.le_of_lt ((Nat.div_lt_iff_lt_mul unitsPerOne_pos).mp hlast)
  · -- the first digit stands behind the point
    have hpos : 0 < unitsPerOne / (m * 2 ^ e) := Nat.div_pos (Nat.le_of_not_le hle) hhere
    have hfirst := Decimal.pow_length_digitsOf_le hpos
    have hlast := Decimal.lt_pow_length_digitsOf (unitsPerOne / (m * 2 ^ e))
    have hlength := Decimal.length_digitsOf_pos (unitsPerOne / (m * 2 ^ e))
    rw [if_neg hle]
    generalize (Decimal.digitsOf (unitsPerOne / (m * 2 ^ e))).length = length at *
    obtain ⟨b, rfl⟩ : ∃ b, length = b + 1 := Nat.exists_eq_succ_of_ne_zero (Nat.ne_of_gt hlength)
    refine ⟨0, b + 1, 19, _, by decide, by omega, rfl, ?_, ?_⟩
    · rw [Nat.pow_zero, Nat.one_mul, Nat.mul_comm]
      exact Nat.le_of_lt ((Nat.div_lt_iff_lt_mul hhere).mp hlast)
    · have hbelow : 10 ^ b * (m * 2 ^ e) ≤ unitsPerOne := (Nat.le_div_iff_mul_le hhere).mp hfirst
      calc
        m * 2 ^ e * 10 ^ (b + 1) = 10 ^ (0 + 1) * (10 ^ b * (m * 2 ^ e)) := by ring
        _ ≤ 10 ^ (0 + 1) * unitsPerOne := Nat.mul_le_mul_left _ hbelow

theorem nearPower_shortest {m e : Nat} {negative : Bool} (tie : Tie)
    (hcanonical : (finite negative m e).Canonical) (hm : 0 < m) :
    NearPower m e (shortest tie m e).1 (shortest tie m e).2 := by
  obtain ⟨hsig, -, -⟩ := hcanonical
  obtain ⟨a, b, j, k, hj, hk, hsearch, hlow, -⟩ := exists_place tie (e := e) hm
  rw [hsearch]
  exact (searchGrid_found tie hm hj (hk ▸ fine_of_le hsig hlow)).1

/-- There are eighteen of them at the most, or else they are a one, zeros and perhaps another
one. -/
theorem shortest_le {m e : Nat} {negative : Bool} (tie : Tie)
    (hcanonical : (finite negative m e).Canonical) (hm : 0 < m) :
    (shortest tie m e).1 ≤ 10 ^ 18 + 1 := by
  obtain ⟨hsig, -, -⟩ := hcanonical
  obtain ⟨a, b, j, k, hj, hk, hsearch, hlow, hhigh⟩ := exists_place tie (e := e) hm
  rw [hsearch]
  obtain ⟨-, hgrid, hfloor⟩ := searchGrid_found tie hm hj (hk ▸ fine_of_le hsig hlow)
  refine hfloor.trans (Nat.succ_le_succ ?_)
  generalize (searchGrid tie m e 20 k).2 = found at *
  obtain ⟨t, rfl⟩ : ∃ t : Nat, found = (a + t : Nat) - (b + 17 : Nat) :=
    ⟨(found - (k - j)).toNat, by omega⟩
  have hsub := powerInUnits_sub (a + t) (b + 17)
  have hpos := powerInUnits_pos ((a + t : Nat) - (b + 17 : Nat))
  rw [floorPower_eq]
  generalize (powerInUnits ((a + t : Nat) - (b + 17 : Nat))).1 = num at *
  generalize (powerInUnits ((a + t : Nat) - (b + 17 : Nat))).2 = den at *
  apply Nat.div_le_of_le_mul
  refine Nat.le_of_mul_le_mul_right ?_ (Nat.pow_pos (a := 10) (n := b) (by decide))
  calc
    4 * m * 2 ^ e * den * 10 ^ b = 4 * (m * 2 ^ e * 10 ^ b) * den := by ring
    _ ≤ 4 * (10 ^ (a + t + 1) * unitsPerOne) * den := by
      apply Nat.mul_le_mul_right
      apply Nat.mul_le_mul_left
      exact hhigh.trans (Nat.mul_le_mul_right _ (Nat.pow_le_pow_right (by decide) (by omega)))
    _ = 40 * (10 ^ (a + t) * unitsPerOne * den) := by rw [Nat.pow_succ]; ring
    _ = 40 * (num * 10 ^ (b + 17)) := by rw [hsub]
    _ = 4 * num * 10 ^ 18 * 10 ^ b := by rw [Nat.pow_add]; ring

theorem shortest_pos {m e : Nat} {negative : Bool} (tie : Tie)
    (hcanonical : (finite negative m e).Canonical) (hm : 0 < m) : 0 < (shortest tie m e).1 := by
  have hle := (nearPower_shortest tie hcanonical hm).le hm
  have hpos := (powerInUnits_pos (shortest tie m e).2).2
  apply Nat.pos_of_ne_zero
  intro hzero
  rw [hzero, Nat.zero_mul] at hle
  omega

/-- Rounded to the nearest double, the fewest digits of a double give the double back. -/
theorem ofDecimal_shortest {m e : Nat} {negative : Bool} (tie : Tie)
    (hcanonical : (finite negative m e).Canonical) (hm : 0 < m) :
    ofDecimal ⟨negative, (shortest tie m e).1, (shortest tie m e).2⟩ = finite negative m e :=
  ofDecimal_of_near hcanonical hm (shortest_pos tie hcanonical hm)
    (nearPower_shortest tie hcanonical hm)

end ChatFlow.Binary64
