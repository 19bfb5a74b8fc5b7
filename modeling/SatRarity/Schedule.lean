import SatRarity.Text.Quoted

set_option autoImplicit false

/-! # Emission schedules

A schedule has three positive parameters: the number of blocks in a halving era, the number of
blocks in a difficulty period, and the subsidy of a block of the first era. The subsidy is halved,
and rounded down, at the start of every later era; an era is known by its number, the epoch.

Parameters come from outside as integers. `Schedule.ofParameters` admits the positive ones and
names the first that is not, in the order of declaration; whoever holds a schedule holds positive
parameters.
-/

namespace SatRarity

open Text

namespace Schedule

/-! ## Parameters -/

/-- The name of a parameter. -/
inductive Parameter
  | halvingInterval
  | diffchangeInterval
  | initialSubsidy
  deriving DecidableEq

/-- The parameters in the order of declaration. -/
def Parameter.all : List Parameter := [halvingInterval, diffchangeInterval, initialSubsidy]

/-- The name of a parameter in messages and records. -/
def Parameter.name : Parameter → String
  | halvingInterval => "halving_interval"
  | diffchangeInterval => "diffchange_interval"
  | initialSubsidy => "initial_subsidy"

/-- The environment variable that sets a parameter. -/
def Parameter.variable : Parameter → String
  | halvingInterval => "RARITY_HALVING_INTERVAL"
  | diffchangeInterval => "RARITY_DIFFCHANGE_INTERVAL"
  | initialSubsidy => "RARITY_INITIAL_SUBSIDY"

/-- Three integers that are meant as the parameters of a schedule. -/
structure Parameters where
  halvingInterval : Int
  diffchangeInterval : Int
  initialSubsidy : Int
  deriving DecidableEq

namespace Parameters

def get (p : Parameters) : Parameter → Int
  | .halvingInterval => p.halvingInterval
  | .diffchangeInterval => p.diffchangeInterval
  | .initialSubsidy => p.initialSubsidy

def ofFun (f : Parameter → Int) : Parameters :=
  ⟨f .halvingInterval, f .diffchangeInterval, f .initialSubsidy⟩

/-- The parameters by name, in the order of declaration. -/
def fields (p : Parameters) : List (String × Int) := Parameter.all.map fun k => (k.name, p.get k)

def described (p : Parameters) : String :=
  "EmissionSchedule(" ++ ", ".intercalate (p.fields.map fun (name, n) => name ++ "=" ++ toString n)
    ++ ")"

@[simp] theorem get_ofFun (f : Parameter → Int) (k : Parameter) : (ofFun f).get k = f k := by
  cases k <;> rfl

/-- The first parameter that is not positive. -/
def firstNotPositive? (p : Parameters) : Option Parameter :=
  Parameter.all.find? fun k => p.get k ≤ 0

theorem firstNotPositive?_eq_none_iff {p : Parameters} :
    p.firstNotPositive? = none ↔ ∀ k, 0 < p.get k := by
  have hall : ∀ k, k ∈ Parameter.all := by
    intro k
    cases k <;> decide
  simp only [firstNotPositive?, List.find?_eq_none, decide_eq_true_eq, Int.not_le, hall,
    true_imp_iff]

end Parameters

/-! ## Errors -/

/-- Why there is no schedule, or no subsidy. -/
inductive Error
  | notPositive (k : Parameter)
  /-- The variable of the parameter holds a text that is no integer. -/
  | notInteger (k : Parameter) (raw : String)
  | negativeEpoch
  deriving DecidableEq

def Error.message : Error → String
  | notPositive k => k.name ++ " must be positive."
  | notInteger k raw => k.variable ++ " must be an integer, got " ++ quote raw ++ "."
  | negativeEpoch => "epoch cannot be negative."

end Schedule

/-! ## Schedules -/

/-- A schedule: three positive parameters. -/
structure Schedule where
  halvingInterval : Nat
  diffchangeInterval : Nat
  initialSubsidy : Nat
  halvingInterval_pos : 0 < halvingInterval
  diffchangeInterval_pos : 0 < diffchangeInterval
  initialSubsidy_pos : 0 < initialSubsidy
  deriving DecidableEq

namespace Schedule

def parameters (s : Schedule) : Parameters :=
  ⟨s.halvingInterval, s.diffchangeInterval, s.initialSubsidy⟩

/-- The schedule with the given parameters, if they are positive. -/
def ofParameters (p : Parameters) : Except Error Schedule :=
  if hH : 0 < p.halvingInterval then
    if hD : 0 < p.diffchangeInterval then
      if hI : 0 < p.initialSubsidy then
        .ok {
          halvingInterval := p.halvingInterval.toNat
          diffchangeInterval := p.diffchangeInterval.toNat
          initialSubsidy := p.initialSubsidy.toNat
          halvingInterval_pos := by omega
          diffchangeInterval_pos := by omega
          initialSubsidy_pos := by omega }
      else .error (.notPositive .initialSubsidy)
    else .error (.notPositive .diffchangeInterval)
  else .error (.notPositive .halvingInterval)

/-- The number of the smallest units in one coin. -/
def coinValue : Nat := 100000000

/-- The schedule that holds where no other is given: eras of 210000 blocks, periods of 2016 and a
first subsidy of 50 coins. -/
def standard : Schedule where
  halvingInterval := 210000
  diffchangeInterval := 2016
  initialSubsidy := 50 * coinValue
  halvingInterval_pos := by decide
  diffchangeInterval_pos := by decide
  initialSubsidy_pos := by decide

/-- The subsidy of a block of an era: the first subsidy, halved once for each era before. -/
def subsidyOf (s : Schedule) (epoch : Nat) : Nat := s.initialSubsidy >>> epoch

/-- The subsidy of a block of the era with the given number. -/
def subsidy (s : Schedule) (epoch : Int) : Except Error Nat :=
  if 0 ≤ epoch then .ok (s.subsidyOf epoch.toNat) else .error .negativeEpoch

theorem ofParameters_parameters (s : Schedule) : ofParameters s.parameters = .ok s := by
  have hH := s.halvingInterval_pos
  have hD := s.diffchangeInterval_pos
  have hI := s.initialSubsidy_pos
  simp [ofParameters, parameters, hH, hD, hI]

/-- There is a schedule with the given parameters only if all of them are positive. -/
theorem ofParameters_eq_ok_iff {p : Parameters} {s : Schedule} :
    ofParameters p = .ok s ↔ s.parameters = p := by
  constructor
  · intro h
    unfold ofParameters at h
    split at h
    case isTrue hH =>
      split at h
      case isTrue hD =>
        split at h
        case isTrue hI =>
          obtain rfl := Except.ok.inj h
          simp only [parameters, Int.toNat_of_nonneg (Int.le_of_lt hH),
            Int.toNat_of_nonneg (Int.le_of_lt hD), Int.toNat_of_nonneg (Int.le_of_lt hI)]
        case isFalse => cases h
      case isFalse => cases h
    case isFalse => cases h
  · rintro rfl
    exact ofParameters_parameters s

/-- The first parameter that is not positive is the error. -/
theorem ofParameters_of_not_pos {p : Parameters} {k : Parameter}
    (h : p.firstNotPositive? = some k) : ofParameters p = .error (.notPositive k) := by
  simp only [Parameters.firstNotPositive?, Parameter.all, List.find?_cons] at h
  by_cases hH : p.get .halvingInterval ≤ 0
  · have hnot : ¬ 0 < p.halvingInterval := Int.not_lt.mpr hH
    rw [decide_eq_true hH] at h
    cases h
    rw [ofParameters, dif_neg hnot]
  have hH' : 0 < p.halvingInterval := Int.not_le.mp hH
  by_cases hD : p.get .diffchangeInterval ≤ 0
  · have hnot : ¬ 0 < p.diffchangeInterval := Int.not_lt.mpr hD
    rw [decide_eq_false hH, decide_eq_true hD] at h
    cases h
    rw [ofParameters, dif_pos hH', dif_neg hnot]
  have hD' : 0 < p.diffchangeInterval := Int.not_le.mp hD
  by_cases hI : p.get .initialSubsidy ≤ 0
  · have hnot : ¬ 0 < p.initialSubsidy := Int.not_lt.mpr hI
    rw [decide_eq_false hH, decide_eq_false hD, decide_eq_true hI] at h
    cases h
    rw [ofParameters, dif_pos hH', dif_pos hD', dif_neg hnot]
  · rw [decide_eq_false hH, decide_eq_false hD, decide_eq_false hI] at h
    cases h

/-- Positive parameters are those of a schedule. -/
theorem exists_ofParameters {p : Parameters} (h : ∀ k, 0 < p.get k) :
    ∃ s, ofParameters p = .ok s := by
  have hH : 0 < p.halvingInterval := h .halvingInterval
  have hD : 0 < p.diffchangeInterval := h .diffchangeInterval
  have hI : 0 < p.initialSubsidy := h .initialSubsidy
  exact ⟨_, by rw [ofParameters, dif_pos hH, dif_pos hD, dif_pos hI]⟩

/-- The parameters of a schedule are positive. -/
theorem get_parameters_pos (s : Schedule) (k : Parameter) : 0 < s.parameters.get k := by
  cases k
  · exact Int.natCast_pos.mpr s.halvingInterval_pos
  · exact Int.natCast_pos.mpr s.diffchangeInterval_pos
  · exact Int.natCast_pos.mpr s.initialSubsidy_pos

@[simp] theorem subsidyOf_zero (s : Schedule) : s.subsidyOf 0 = s.initialSubsidy := rfl

/-- Each era has half the subsidy of the one before, rounded down. -/
theorem subsidyOf_succ (s : Schedule) (epoch : Nat) :
    s.subsidyOf (epoch + 1) = s.subsidyOf epoch / 2 := Nat.shiftRight_succ _ _

end Schedule

end SatRarity
