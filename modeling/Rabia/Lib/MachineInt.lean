import Mathlib.Algebra.Order.BigOperators.Group.List
import Mathlib.Algebra.Ring.Int.Defs
import Mathlib.Tactic.Common

/-!
# Arithmetic on `i64`

`plus` and `minus` are the operators `+` and `-` of a program that was compiled with or
without overflow checks: where the exact result does not fit, the program stops (`none`) or
the result wraps. `checkedAdd` is the method of that name. As long as every result fits,
the build makes no difference and the numbers can be taken for integers.
-/

namespace Rabia.Lib

/-- The integer is one of those that an `i64` can hold. -/
def FitsI64 (n : Int) : Prop := Int64.minValue.toInt ≤ n ∧ n ≤ Int64.maxValue.toInt

instance (n : Int) : Decidable (FitsI64 n) := inferInstanceAs (Decidable (_ ∧ _))

theorem fitsI64_toInt (a : Int64) : FitsI64 a.toInt := ⟨a.minValue_le_toInt, a.toInt_le⟩

theorem fitsI64_of_nonneg {n : Int} (nonneg : 0 ≤ n) :
    FitsI64 n ↔ n ≤ Int64.maxValue.toInt :=
  and_iff_right ((by decide : Int64.minValue.toInt ≤ 0).trans nonneg)

theorem toInt_ofInt_of_fits {n : Int} (fits : FitsI64 n) : (Int64.ofInt n).toInt = n := by
  have upper : n ≤ 2 ^ 63 - 1 := fits.2
  exact Int64.toInt_ofInt_of_le fits.1 (by omega)

/-- What an operation with this exact value gives: `Int64.ofInt` wraps. -/
def resultI64 (overflowChecks : Bool) (exact : Int) : Option Int64 :=
  if overflowChecks ∧ ¬ FitsI64 exact then none else some (.ofInt exact)

def plus (overflowChecks : Bool) (a b : Int64) : Option Int64 :=
  resultI64 overflowChecks (a.toInt + b.toInt)

def minus (overflowChecks : Bool) (a b : Int64) : Option Int64 :=
  resultI64 overflowChecks (a.toInt - b.toInt)

/-- `checked_add`, which answers where `+` with overflow checks stops. -/
def checkedAdd (a b : Int64) : Option Int64 := resultI64 true (a.toInt + b.toInt)

/-- `checked_sub`. -/
def checkedSub (a b : Int64) : Option Int64 := resultI64 true (a.toInt - b.toInt)

theorem resultI64_of_fits (overflowChecks : Bool) {exact : Int} (fits : FitsI64 exact) :
    resultI64 overflowChecks exact = some (.ofInt exact) :=
  if_neg fun overflows => overflows.2 fits

theorem toInt_of_resultI64 {overflowChecks : Bool} {exact : Int} {result : Int64}
    (fits : FitsI64 exact) (given : resultI64 overflowChecks exact = some result) :
    result.toInt = exact := by
  rw [resultI64_of_fits overflowChecks fits] at given
  cases given
  exact toInt_ofInt_of_fits fits

theorem resultI64_of_not_fits {exact : Int} (overflows : ¬ FitsI64 exact) :
    resultI64 true exact = none := if_pos ⟨rfl, overflows⟩

theorem toInt_of_checkedAdd {a b result : Int64} (given : checkedAdd a b = some result) :
    result.toInt = a.toInt + b.toInt := by
  by_cases fits : FitsI64 (a.toInt + b.toInt)
  · exact toInt_of_resultI64 fits given
  · rw [checkedAdd, resultI64, if_pos ⟨rfl, fits⟩] at given
    cases given

/-! ## Sums -/

/-- The sum of an iterator over `i64`. -/
def sumI64 (overflowChecks : Bool) (terms : List Int64) : Option Int64 :=
  terms.foldlM (plus overflowChecks) 0

theorem foldlM_plus (overflowChecks : Bool) {terms : List Int64}
    (nonneg : ∀ term ∈ terms, 0 ≤ term.toInt) (start : Int64) (startNonneg : 0 ≤ start.toInt)
    (small : start.toInt + (terms.map Int64.toInt).sum ≤ Int64.maxValue.toInt) :
    ∃ total, terms.foldlM (plus overflowChecks) start = some total ∧
      total.toInt = start.toInt + (terms.map Int64.toInt).sum := by
  induction terms generalizing start with
  | nil => exact ⟨start, rfl, (Int.add_zero _).symm⟩
  | cons term terms ih =>
      have termNonneg := nonneg term List.mem_cons_self
      have restNonneg : 0 ≤ (terms.map Int64.toInt).sum := by
        refine List.sum_nonneg fun n member => ?_
        obtain ⟨rest, within, rfl⟩ := List.mem_map.mp member
        exact nonneg rest (List.mem_cons_of_mem term within)
      rw [List.map_cons, List.sum_cons] at small ⊢
      have fits : FitsI64 (start.toInt + term.toInt) :=
        (fitsI64_of_nonneg (by omega)).mpr (by omega)
      have first : plus overflowChecks start term = some (.ofInt (start.toInt + term.toInt)) :=
        resultI64_of_fits overflowChecks fits
      have exact := toInt_ofInt_of_fits fits
      obtain ⟨total, summed, equal⟩ := ih
        (fun rest within => nonneg rest (List.mem_cons_of_mem term within))
        (.ofInt (start.toInt + term.toInt)) (by omega) (by omega)
      refine ⟨total, ?_, by omega⟩
      rw [List.foldlM_cons, first]
      exact summed

/-- The sum of terms none of which is negative is exact as soon as it fits. -/
theorem sumI64_exact_iff (overflowChecks : Bool) {terms : List Int64}
    (nonneg : ∀ term ∈ terms, 0 ≤ term.toInt) :
    (∃ total, sumI64 overflowChecks terms = some total ∧
        total.toInt = (terms.map Int64.toInt).sum) ↔
      (terms.map Int64.toInt).sum ≤ Int64.maxValue.toInt := by
  constructor
  · rintro ⟨total, -, exact⟩
    rw [← exact]
    exact total.toInt_le
  · intro small
    have zero : (0 : Int64).toInt = 0 := by decide
    obtain ⟨total, summed, exact⟩ := foldlM_plus overflowChecks nonneg 0
      (by rw [zero]) (by rw [zero, Int.zero_add]; exact small)
    refine ⟨total, summed, ?_⟩
    rw [exact, zero, Int.zero_add]

end Rabia.Lib
