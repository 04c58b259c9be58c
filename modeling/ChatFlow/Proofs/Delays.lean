import ChatFlow.Proofs.Handler
import ChatFlow.Proofs.Stamp
import ChatFlow.Proofs.StepLimit
import ChatFlow.Proofs.SuspensionAgreement
import ChatFlow.Proofs.WholeDoubles

namespace ChatFlow

namespace Instant

def earlier (a b : Instant) : Instant := if a.le b then a else b

/-- The nanoseconds from an instant to a later one. A leap second that has gone by in between is not
among the seconds. -/
def nanosUntil (a b : Instant) : Int :=
  (b.seconds - a.seconds) * nanosPerSecond + (b.nanos - a.nanos) +
    if nanosPerSecond ≤ a.nanos ∧ a.seconds < b.seconds then nanosPerSecond else 0

variable {t : Instant}

/-- Where so many milliseconds lead: further into a leap second, or to another second; behind a leap
second that was left, the seconds show one less than have gone by. -/
theorem shift_cases (h : t.nanos < 2 * nanosPerSecond) (ms : Nat) :
    let later := t.shift ms
    (later.seconds = t.seconds ∧ later.nanos = t.nanos + ms * 1000000 ∧ nanosPerSecond ≤ t.nanos ∧
        later.nanos < 2 * nanosPerSecond) ∨
      (later.seconds * nanosPerSecond + later.nanos =
        t.seconds * nanosPerSecond + t.nanos + ms * 1000000 ∧
        t.nanos < nanosPerSecond ∧ later.nanos < nanosPerSecond) ∨
      (later.seconds * nanosPerSecond + later.nanos + nanosPerSecond =
          t.seconds * nanosPerSecond + t.nanos + ms * 1000000 ∧
        nanosPerSecond ≤ t.nanos ∧ t.seconds < later.seconds ∧ later.nanos < nanosPerSecond) := by
  unfold shift carry nanosPerSecond at *
  dsimp only
  split
  · refine .inr (.inl ?_)
    dsimp only
    omega
  · split
    · refine .inl ?_
      dsimp only
      omega
    · refine .inr (.inr ?_)
      dsimp only
      omega

theorem nanosUntil_shift (h : t.nanos < 2 * nanosPerSecond) (ms : Nat) :
    t.nanosUntil (t.shift ms) = ms * 1000000 := by
  have hcases := shift_cases h ms
  unfold nanosUntil nanosPerSecond at *
  split <;> omega

theorem le_shift (h : t.nanos < 2 * nanosPerSecond) (ms : Nat) : t.le (t.shift ms) = true := by
  have hcases := shift_cases h ms
  unfold nanosPerSecond at *
  rw [le_iff]
  omega

theorem shift_zero (h : t.nanos < 2 * nanosPerSecond) : t.shift (0 : Nat) = t := by
  have hcases := shift_cases h 0
  unfold nanosPerSecond at *
  apply le_antisymm
  · rw [le_iff]
    omega
  · exact le_shift h 0

theorem after_eq_earlier (h : t.Proper) (hlatest : t.le latest = true) (ms : Nat) :
    t.after ms = (t.shift ms).earlier latest := by
  have hcases := shift_cases h.nanos ms
  have hrange := h.range
  have hreach : inRange (t.shift ms).seconds = true ↔ (t.shift ms).le latest = true := by
    rw [le_iff] at hlatest ⊢
    simp only [inRange, Bool.and_eq_true, decide_eq_true_eq] at hrange ⊢
    unfold latest nanosPerSecond at *
    dsimp only at *
    omega
  unfold after earlier
  simp only [hreach]

theorem le_earlier {a b c : Instant} (hb : a.le b = true) (hc : a.le c = true) :
    a.le (b.earlier c) = true := by
  unfold earlier
  split
  · exact hb
  · exact hc

theorem earlier_le {a b : Instant} : (a.earlier b).le b = true := by
  unfold earlier
  split
  · next h => exact h
  · exact (le_total b b).elim id id

/-- No instant after 1970 is as far away as the doubles that are not exact. -/
theorem earlier_shift_eq_latest (h : t.nanos < 2 * nanosPerSecond) (hepoch : 0 ≤ t.seconds)
    {ms : Nat} (hms : 2 ^ 53 - 1 ≤ ms) : (t.shift ms).earlier latest = latest := by
  have hcases := shift_cases h ms
  have hlast : lastSecond + 2 < (2 ^ 53 - 1) / 1000 := by decide
  have hlate : ¬ (t.shift ms).le latest = true := by
    rw [le_iff]
    unfold latest nanosPerSecond at *
    dsimp only
    omega
  rw [earlier, if_neg hlate]

end Instant

namespace Node

open Binary64

variable {node : Node}

def delayUnit (node : Node) : Nat := unitMillis ((node.textField? "unit").getD "seconds")

theorem delayUnit_bounds (node : Node) : 0 < node.delayUnit ∧ node.delayUnit < 2 ^ 53 := by
  unfold delayUnit unitMillis
  split <;> decide

theorem delayMillis_eq {v : Json} (h : node.field? "ms" = some v) :
    node.delayMillis =
      let product := (Coercion.number v).mul (.ofInt node.delayUnit)
      if product.isFinite then min product.truncate.toNat maxSignedWord else 0 := by
  unfold delayMillis
  rw [h]
  rfl

theorem delayMillis_le (node : Node) : node.delayMillis ≤ maxSignedWord := by
  unfold delayMillis
  dsimp only
  split
  · exact Nat.min_le_right _ _
  · exact Nat.zero_le _

theorem delayMillis_of_holds {v : Json} {u : Nat} (h : node.field? "ms" = some v)
    (hholds : ((Coercion.number v).mul (.ofInt node.delayUnit)).Holds false u) :
    node.delayMillis = min (u / unitsPerOne) maxSignedWord := by
  rw [delayMillis_eq h]
  dsimp only
  rw [if_pos hholds.isFinite, hholds.truncate, Int.toNat_natCast]

theorem delayMillis_of_lt {n : Nat} (h : node.field? "ms" = some (.number (.whole n)))
    (hn : n * node.delayUnit < 2 ^ 53) : node.delayMillis = n * node.delayUnit := by
  obtain ⟨hpos, hunit⟩ := node.delayUnit_bounds
  have hholds := holds_mul_ofInt ((Nat.le_mul_of_pos_right n hpos).trans_lt hn) hunit hn
  rw [delayMillis_of_holds h hholds, Nat.mul_div_cancel _ unitsPerOne_pos]
  exact Nat.min_eq_left (hn.le.trans (by decide))

theorem le_delayMillis {n : Nat} (h : node.field? "ms" = some (.number (.whole n)))
    (hn : n ≤ 2 ^ 64) (hlarge : 2 ^ 53 ≤ n * node.delayUnit) : 2 ^ 53 - 1 ≤ node.delayMillis := by
  obtain ⟨hpos, hunit⟩ := node.delayUnit_bounds
  obtain ⟨v, hv, hholds⟩ :=
    exists_holds_mul_ofInt (n := n) (l := 2 ^ 53 - 1) hn hpos hunit (by decide)
      ((Nat.sub_le _ _).trans hlarge)
  rw [decide_eq_false (Int.not_lt.mpr (Int.natCast_nonneg n))] at hholds
  rw [delayMillis_of_holds h hholds]
  exact Nat.le_min.mpr ⟨(Nat.le_div_iff_mul_le unitsPerOne_pos).mpr hv, by decide⟩

theorem delayMillis_of_neg {n : Int} (h : node.field? "ms" = some (.number (.whole n)))
    (hn : n.natAbs ≤ 2 ^ 64) (hneg : n < 0) : node.delayMillis = 0 := by
  obtain ⟨hpos, hunit⟩ := node.delayUnit_bounds
  obtain ⟨v, -, hholds⟩ := exists_holds_mul_ofInt (l := 0) hn hpos hunit (by decide) (Nat.zero_le _)
  rw [decide_eq_true hneg] at hholds
  rw [delayMillis_eq h]
  dsimp only [Coercion.number, Number.toBinary64]
  rw [if_pos hholds.isFinite, Int.toNat_of_nonpos hholds.truncate_nonpos, Nat.zero_min]

variable {now : Instant}

theorem after_delayMillis_of_nonpos {n : Int} (h : node.field? "ms" = some (.number (.whole n)))
    (hn : n.natAbs ≤ 2 ^ 64) (hnonpos : n ≤ 0) (hnow : now.Proper)
    (hlatest : now.le .latest = true) :
    now.after node.delayMillis = now := by
  have hzero : node.delayMillis = 0 := by
    rcases Int.lt_or_eq_of_le hnonpos with hneg | rfl
    · exact delayMillis_of_neg h hn hneg
    · rw [delayMillis_of_lt (n := 0) h (by simp), Nat.zero_mul]
  rw [hzero, Instant.after_eq_earlier hnow hlatest, Instant.shift_zero hnow.nanos, Instant.earlier,
    if_pos hlatest]

/-- Any other whole number counts as it is, since where the product is not exact both ways lead to
the last instant. -/
theorem after_delayMillis_of_whole {n : Nat} (h : node.field? "ms" = some (.number (.whole n)))
    (hn : n ≤ 2 ^ 64) (hnow : now.Proper) (hepoch : 0 ≤ now.seconds)
    (hlatest : now.le .latest = true) :
    now.after node.delayMillis = (now.shift (n * node.delayUnit : Nat)).earlier .latest := by
  rw [Instant.after_eq_earlier hnow hlatest]
  by_cases hexact : n * node.delayUnit < 2 ^ 53
  · rw [delayMillis_of_lt h hexact]
  · have hlarge : 2 ^ 53 ≤ n * node.delayUnit := Nat.le_of_not_lt hexact
    rw [Instant.earlier_shift_eq_latest hnow.nanos hepoch (le_delayMillis h hn hlarge),
      Instant.earlier_shift_eq_latest hnow.nanos hepoch ((Nat.sub_le _ _).trans hlarge)]

variable {σ : Type} {env : Environment σ} {settings : Settings} {sink : Sink} {context : Context}

theorem suspends_of_not_blank (hkind : node.kind = .delay)
    (hms : Coercion.isBlank (node.field? "ms") = false) :
    node.Suspends := by
  refine ⟨hkind, ?_⟩
  simp [refusal?, missingField?, hkind, NodeKind.fields, hms]

theorem runs_delay {s s₁ s₂ : σ} {now : Instant} (hclock : env s .now = (some now, s₁))
    (hsink : env.Runs s₁ (sink ⟨node.id, now.after node.delayMillis, context⟩) (.ok ()) s₂) :
    env.Runs s (node.delay sink context)
      (.ok (.suspend (now.after node.delayMillis), context)) s₂ :=
  .call hclock (hsink.bind (.done _ _))

/-- A delay that is accepted suspends the run until a time that is neither past nor beyond the last
instant. For a whole number of the unit it is that number of milliseconds away, to the nanosecond,
or the last instant. -/
theorem delays_are_exact (env : Environment σ) (settings : Settings) (sink : Sink)
    (context : Context) (hkind : node.kind = .delay)
    (hms : Coercion.isBlank (node.field? "ms") = false) (hnow : now.Proper)
    (hepoch : 0 ≤ now.seconds) (hlatest : now.le .latest = true) :
    ∃ resumeAt : Instant,
      (∀ s s₁ s₂, env s .now = (some now, s₁) →
        env.Runs s₁ (sink ⟨node.id, resumeAt, context⟩) (.ok ()) s₂ →
        env.Runs s (node.run settings sink context) (.ok (.suspend resumeAt, context)) s₂) ∧
      now.le resumeAt = true ∧ resumeAt.le .latest = true ∧ node.delayMillis ≤ maxSignedWord ∧
      ∀ n : Int, node.field? "ms" = some (.number (.whole n)) → (Number.whole n).Valid →
        (n ≤ 0 → resumeAt = now) ∧
        (0 < n → resumeAt = (now.shift (n * node.delayUnit)).earlier .latest ∧
          now.nanosUntil (now.shift (n * node.delayUnit)) = n * node.delayUnit * 1000000) := by
  refine ⟨now.after node.delayMillis, fun s s₁ s₂ hclock hsink => ?_, ?_, ?_, node.delayMillis_le,
    fun n hn hvalid => ?_⟩
  · rw [run_of_suspends (suspends_of_not_blank hkind hms)]
    exact runs_delay hclock hsink
  · rw [Instant.after_eq_earlier hnow hlatest]
    exact Instant.le_earlier (Instant.le_shift hnow.nanos _) hlatest
  · rw [Instant.after_eq_earlier hnow hlatest]
    exact Instant.earlier_le
  · have hbits : n.natAbs ≤ 2 ^ 64 := hvalid.natAbs_le
    refine ⟨fun hnonpos => after_delayMillis_of_nonpos hn hbits hnonpos hnow hlatest,
      fun hpos => ?_⟩
    obtain ⟨k, rfl⟩ := Int.eq_ofNat_of_zero_le hpos.le
    have hunit : (k : Int) * node.delayUnit = (k * node.delayUnit : Nat) :=
      (Int.natCast_mul _ _).symm
    rw [hunit]
    exact ⟨after_delayMillis_of_whole hn hbits hnow hepoch hlatest,
      Instant.nanosUntil_shift hnow.nanos _⟩

def longWait : Node := ⟨"wait", .delay, [("ms", .ofNat 90000001), ("unit", .text " days ")]⟩

def unhurried : World := World.start ⟨1893488400, 5⟩ (.memory []) (.memory []) ⟨1⟩

theorem delays_are_exact_long_wait :
    Coercion.isBlank (longWait.field? "ms") = false ∧ unhurried.clock.Proper ∧
      unhurried.clock.le .latest = true ∧
      Environment.Runs World.answer unhurried (longWait.run ⟨.strict, 10, 15000⟩ .collector .empty)
        (.ok (.suspend ⟨7777893574800, 5⟩, .empty))
        { unhurried with collected := [⟨"wait", ⟨7777893574800, 5⟩, .empty⟩] } := by
  have hkind : longWait.kind = .delay := rfl
  have hms : Coercion.isBlank (longWait.field? "ms") = false := rfl
  have hnow : unhurried.clock.Proper := ⟨by decide, by decide, by decide⟩
  have hlatest : unhurried.clock.le .latest = true := by decide
  obtain ⟨resumeAt, hrun, -, -, -, hwhole⟩ :=
    delays_are_exact World.answer ⟨.strict, 10, 15000⟩ .collector .empty hkind hms hnow
      (by decide) hlatest
  have hat : resumeAt = ⟨7777893574800, 5⟩ := by
    rw [((hwhole 90000001 rfl ⟨by decide, by decide⟩).2 (by decide)).1]
    decide +kernel
  rw [hat] at hrun
  exact ⟨hms, hnow, hlatest, hrun unhurried _ _ rfl (World.runs_iff.mp rfl)⟩

-- no unit and no number makes a delay that does not fit its word
example : (⟨"wait", .delay, [("ms", .ofNat maxWord), ("unit", .text "days")]⟩ : Node).delayMillis =
    maxSignedWord := by
  decide +kernel

end Node

end ChatFlow
