import ChatFlow.Proofs.Calendar
import ChatFlow.Proofs.Digits
import ChatFlow.Proofs.Lines
import ChatFlow.Time.Stamp

namespace ChatFlow

open Decimal (isDigit valueOf)

namespace Text

theorem isBlank_of_isDigit {c : Char} (h : isDigit c = true) : isBlank c = false := by
  have hc : 48 ≤ c.toNat ∧ c.toNat ≤ 57 := by
    simpa [isDigit, Char.le_def, UInt32.le_iff_toNat_le] using h
  simp [isBlank]
  omega

end Text

namespace Instant

section Padded

variable {width n : Nat}

theorem isDigit_of_mem_padded {c : Char} (hc : c ∈ padded width n) : isDigit c = true := by
  rcases List.mem_append.mp hc with hc | hc
  · exact Decimal.isDigit_of_mem_replicate hc
  · exact Decimal.isDigit_of_mem_digitsOf hc

theorem valueOf_padded : valueOf (padded width n) = n := by
  unfold padded
  rw [Decimal.valueOf_append, Decimal.valueOf_replicate_zero, Decimal.valueOf_digitsOf]
  omega

theorem exists_cons_padded (width n : Nat) : ∃ c cs, padded width n = c :: cs ∧
    isDigit c = true := by
  cases hdigits : padded width n with
  | nil => exact absurd (List.append_eq_nil_iff.mp hdigits).2 (Decimal.digitsOf_ne_nil n)
  | cons c cs => exact ⟨c, cs, rfl, isDigit_of_mem_padded (hdigits ▸ List.mem_cons_self)⟩

theorem isEmpty_padded : (padded width n).isEmpty = false := by
  obtain ⟨c, cs, hcons, -⟩ := exists_cons_padded width n
  rw [hcons]
  rfl

theorem length_padded (hwidth : 0 < width) (hn : n < 10 ^ width) :
    (padded width n).length = width := by
  have hdigits := (Decimal.length_digitsOf_le_iff hwidth).mpr hn
  simp only [padded, List.length_append, List.length_replicate]
  omega

theorem trimFront_padded (rest : List Char) :
    Text.trimFront (padded width n ++ rest) = padded width n ++ rest := by
  obtain ⟨c, cs, hcons, hc⟩ := exists_cons_padded width n
  rw [hcons]
  exact Text.trimFront_cons (Text.isBlank_of_isDigit hc) _

/-- A number is read to its last digit, whatever follows it. -/
theorem readNumber_padded (hwidth : 0 < width) (hn : n < 10 ^ width) (rest : List Char) :
    readNumber width (padded width n ++ rest) = some (n, rest) := by
  have hlength := length_padded hwidth hn
  have htake : ((padded width n ++ rest).takeWhile isDigit).take width = padded width n := by
    rw [List.takeWhile_append_of_pos fun c => isDigit_of_mem_padded]
    exact List.take_left' hlength
  have hdrop : (padded width n ++ rest).drop (padded width n).length = rest := List.drop_left
  unfold readNumber
  dsimp only
  rw [trimFront_padded, htake, hdrop, valueOf_padded, isEmpty_padded]
  rfl

theorem spanDigits_padded {rest : List Char} (hrest : Decimal.Stops rest) :
    Decimal.spanDigits (padded width n ++ rest) = (padded width n, rest) :=
  Decimal.spanDigits_append (fun _ => isDigit_of_mem_padded) hrest

end Padded

theorem expect_cons {mark : Char} (h : Text.isBlank mark = false) (rest : List Char) :
    expect mark (mark :: rest) = some rest := by
  unfold expect
  rw [Text.trimFront_cons h]
  exact if_pos rfl

theorem signed_padded {width n : Nat} (sign : Int) {rest : List Char} (hrest : Decimal.Stops rest) :
    readYear.signed (padded width n ++ rest) sign = some (sign * n, rest) := by
  unfold readYear.signed
  rw [spanDigits_padded hrest]
  dsimp only
  rw [valueOf_padded, isEmpty_padded]
  rfl

/-- Years of up to four digits have no sign, and all others have one. -/
theorem readYear_yearText (year : Int) {rest : List Char} (hrest : Decimal.Stops rest) :
    readYear (yearText year ++ rest) = some (year, rest) := by
  unfold yearText
  split
  · next hyear =>
    have hnumber : readNumber 4 (padded 4 year.natAbs ++ rest) = some (year.natAbs, rest) :=
      readNumber_padded (by decide) (by omega) rest
    obtain ⟨c, cs, hcons, hc⟩ := exists_cons_padded 4 year.natAbs
    have htrim : Text.trimFront (padded 4 year.natAbs ++ rest) = padded 4 year.natAbs ++ rest :=
      trimFront_padded rest
    rw [hcons] at hnumber htrim ⊢
    unfold readYear
    rw [htrim]
    -- a digit is no sign
    split
    · next heq =>
      cases heq
      exact absurd hc (by decide)
    · next heq =>
      cases heq
      exact absurd hc (by decide)
    · rw [hnumber]
      show some ((year.natAbs : Int), rest) = _
      rw [show (year.natAbs : Int) = year by omega]
  · next hyear =>
    split
    · show readYear.signed (padded 4 year.natAbs ++ rest) (-1) = _
      rw [signed_padded _ hrest, show (-1 : Int) * year.natAbs = year by omega]
    · show readYear.signed (padded 4 year.natAbs ++ rest) 1 = _
      rw [signed_padded _ hrest, show (1 : Int) * year.natAbs = year by omega]

theorem stops_Z : Decimal.Stops ['Z'] := Decimal.stops_cons (by decide) []

theorem readFraction_padded {width n : Nat} (hwidth : 0 < width) (hle : width ≤ 9)
    (hn : n < 10 ^ width) :
    readFraction ('.' :: padded width n ++ ['Z']) = some (n * 10 ^ (9 - width), ['Z']) := by
  have hlength := length_padded hwidth hn
  show readFraction ('.' :: (padded width n ++ ['Z'])) = _
  rw [readFraction, spanDigits_padded stops_Z]
  dsimp only
  rw [List.take_of_length_le (by omega), valueOf_padded, hlength, isEmpty_padded]
  rfl

theorem readFraction_fractionText {nanos : Nat} (h : nanos < nanosPerSecond) :
    readFraction (fractionText nanos ++ ['Z']) = some (nanos, ['Z']) := by
  unfold nanosPerSecond at h
  unfold fractionText
  split
  · next hzero =>
    rw [hzero]
    rfl
  · split
    · next hmillis =>
      rw [readFraction_padded (by decide) (by decide) (by omega),
        show nanos / 1000000 * 10 ^ (9 - 3) = nanos by omega]
    · split
      · next hmicros =>
        rw [readFraction_padded (by decide) (by decide) (by omega),
          show nanos / 1000 * 10 ^ (9 - 6) = nanos by omega]
      · rw [readFraction_padded (by decide) (by decide) (by omega), show nanos * 10 ^ (9 - 9) =
          nanos by omega]

/-- The instant is one that instants reach, and a leap second is the last one of a minute. -/
structure Proper (t : Instant) : Prop where
  range : inRange t.seconds = true
  nanos : t.nanos < 2 * nanosPerSecond
  leap : nanosPerSecond ≤ t.nanos → t.seconds % 60 = 59

theorem readNumber_two {n : Nat} (hn : n < 100) (rest : List Char) :
    readNumber 2 (padded 2 n ++ rest) = some (n, rest) :=
  readNumber_padded (by decide) hn rest

theorem ofStamp?_stamp {t : Instant} (h : t.Proper) : ofStamp? t.stamp = some t := by
  obtain ⟨date, hdate⟩ : ∃ date : Date, date = Date.ofDays (t.seconds / 86400) := ⟨_, rfl⟩
  obtain ⟨clock, hclock⟩ : ∃ clock : Nat, clock = (t.seconds % 86400).toNat := ⟨_, rfl⟩
  obtain ⟨leap, hleap⟩ : ∃ leap : Nat, leap = t.nanos / nanosPerSecond := ⟨_, rfl⟩
  have hvalid : date.isValid = true := hdate ▸ Date.isValid_ofDays _
  have hdays : date.toDays = t.seconds / 86400 := hdate ▸ Date.toDays_ofDays _
  obtain ⟨hmonth, hday⟩ := Date.bounds_of_isValid hvalid
  have hsecond : (clock % 60 + leap) / 60 = leap ∧ clock % 60 + leap ≤ 60 := by
    have hnanos := h.nanos
    have hlast := h.leap
    unfold nanosPerSecond at hnanos hlast hleap
    omega
  have hseconds : date.toDays * 86400 + (clock / 3600 * 3600 + clock / 60 % 60 * 60 +
      (clock % 60 + leap - (clock % 60 + leap) / 60) : Nat) = t.seconds := by
    omega
  have hnanos : t.nanos % nanosPerSecond + (clock % 60 + leap) / 60 * nanosPerSecond = t.nanos := by
    rw [hsecond.1, hleap, Nat.mul_comm]
    exact Nat.mod_add_div _ _
  have hfraction : t.nanos % nanosPerSecond < nanosPerSecond := Nat.mod_lt _ (by decide)
  have read : ∀ {α β : Type} {x : Option α} {f : α → Option β} {a : α} {b : β},
      x = some a → f a = some b → (x >>= f) = some b :=
    fun hx hf => Option.bind_eq_some_iff.mpr ⟨_, hx, hf⟩
  unfold ofStamp? stamp
  rw [String.toList_ofList, ← hdate, ← hclock, ← hleap]
  simp only [List.append_assoc, List.cons_append]
  -- the parts are read one after the other
  refine read (readYear_yearText _ (Decimal.stops_cons rfl _)) ?_
  refine read (expect_cons rfl _) (read (readNumber_two (by omega) _) ?_)
  refine read (expect_cons rfl _) (read (readNumber_two (by omega) _) (read rfl ?_))
  refine read (readNumber_two (by omega) _) ?_
  refine read (expect_cons rfl _) (read (readNumber_two (by omega) _) ?_)
  refine read (expect_cons rfl _) (read (readNumber_two (by omega) _) ?_)
  refine read (readFraction_fractionText hfraction) (read rfl ?_)
  dsimp only
  rw [hseconds, hnanos, Int.sub_zero]
  apply if_pos
  simp [hvalid, h.range, hsecond.2]
  omega

/-- The last instant, which a delay that is too long ends at, is read back as well as those
before it. -/
theorem proper_latest : latest.Proper := ⟨by decide, by decide, by decide⟩

end Instant

end ChatFlow
