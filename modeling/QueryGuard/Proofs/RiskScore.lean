import Mathlib
import QueryGuard.Policy

/-!
The score of a risk, counted in hundredths.

The weights are added up in floating point, and the rounding at the end takes the errors of the
sums away again: a score is the number of points of the signs that are there, at most a hundred,
divided by a hundred. What is asked of a score is from here on asked of whole numbers.
-/

namespace QueryGuard.Proofs.RiskScore

open Risk

/-- What tells of a risk in a statement and in its estimate, in the order of the signals. -/
structure Signs where
  unbounded : Bool
  joined : Bool
  leadingWildcard : Bool
  unboundedOrder : Bool
  allColumns : Bool
  costly : Bool
  planRisks : Bool

namespace Signs

variable (g : Signs)

def signals : List Signal :=
  [(g.unbounded, Risk.unbounded),
    (g.joined, Risk.joined),
    (g.leadingWildcard, Risk.leadingWildcard),
    (g.unboundedOrder, Risk.unboundedOrder),
    (g.allColumns, Risk.allColumns),
    (g.costly, Risk.costly)].filterMap fun (fires, signal) => if fires then some signal else none

def weights : List Float :=
  g.signals.map (·.weight) ++ if g.planRisks then [planRiskWeight] else []

/-- The weights in hundredths. -/
def points : Nat :=
  30 * g.unbounded.toNat + 10 * g.joined.toNat + 20 * g.leadingWildcard.toNat +
    10 * g.unboundedOrder.toNat + 5 * g.allColumns.toNat + 20 * g.costly.toNat +
    20 * g.planRisks.toNat

end Signs

/-- The signs of a statement whose plan was estimated. -/
def signsOf (s : Statement) (e : Estimate) : Signs where
  unbounded := s.isUnbounded
  joined := s.hasWord "join"
  leadingWildcard := hasLeadingWildcard s
  unboundedOrder := s.hasWord "order by" && !s.hasLimit
  allColumns := selectsAll s
  costly := (e.totalCost.map fun c => decide (c > highCost)).getD false
  planRisks := !e.planRisks.isEmpty

lemma signals_signsOf (s : Statement) (e : Estimate) :
    (signsOf s e).signals = Risk.signals s e := by
  simp only [Signs.signals, signsOf, Risk.signals]

lemma score_eq_total (sql : String) (e : Estimate) :
    (assess sql e).score = total (signsOf (.ofSql sql) e).weights := by
  have hrisks : (signsOf (.ofSql sql) e).planRisks = !e.planRisks.isEmpty := rfl
  unfold assess Signs.weights
  rw [signals_signsOf, hrisks]
  cases e.planRisks.isEmpty <;> simp

/-! ### The sums -/

/-- `p n`, with `n` worked out before `p` looks at it. Many signs come to one sum, and the kernel
then rounds it once. -/
def atValue (p : Nat → Bool) : Nat → Bool
  | 0 => p 0
  | n + 1 => p (n + 1)

lemma atValue_eq (p : Nat → Bool) (n : Nat) : atValue p n = p n := by
  cases n <;> rfl

def hundredths (n : Nat) : Float := Float.ofNat (min n 100) / 100.0

/-- What is done with a sum of weights: `total` without the summing. -/
def settle (sum : Float) : Float := Decimal.round2 (if sum ≤ 1.0 then sum else 1.0)

lemma settle_words (g : Signs) :
    atValue (fun n => atValue (fun word =>
      decide (settle (Float.ofBits (UInt64.ofNat word)) = hundredths n))
        (g.weights.foldl (· + ·) 0.0).toBits.toNat) g.points = true := by
  obtain ⟨b1, b2, b3, b4, b5, b6, b7⟩ := g
  revert b1 b2 b3 b4 b5 b6 b7
  decide +kernel

/-- **Scores are whole hundredths.** A score is the sum of the points, held at a hundred. -/
theorem score_assess (sql : String) (e : Estimate) :
    (assess sql e).score = hundredths (signsOf (.ofSql sql) e).points := by
  have h := settle_words (signsOf (.ofSql sql) e)
  rw [atValue_eq, atValue_eq, UInt64.ofNat_toNat, Float.ofBits_toBits, decide_eq_true_eq] at h
  rw [score_eq_total]
  exact h

/-! ### The threshold -/

lemma threshold_hundredths (n : Nat) :
    (Policy.riskLimit ≤ hundredths n ↔ 70 ≤ n) ∧ (hundredths n < Policy.riskLimit ↔ n < 70) := by
  have htable : ∀ k ≤ 100, (Policy.riskLimit ≤ Float.ofNat k / 100.0 ↔ 70 ≤ k) ∧
      (Float.ofNat k / 100.0 < Policy.riskLimit ↔ k < 70) := by
    decide +kernel
  obtain ⟨hle, hlt⟩ := htable _ (Nat.min_le_right n 100)
  rw [hundredths, hle, hlt]
  omega

lemma ofScore_eq_high_iff (x : Float) : RiskLevel.ofScore x = .high ↔ Policy.riskLimit ≤ x := by
  unfold RiskLevel.ofScore
  split_ifs with h1 h2
  · exact iff_of_true rfl h1
  · exact iff_of_false (by decide) h1
  · exact iff_of_false (by decide) h1

end QueryGuard.Proofs.RiskScore
