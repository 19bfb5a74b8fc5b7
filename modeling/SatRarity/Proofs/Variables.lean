import SatRarity.Proofs.Fallible
import SatRarity.Proofs.Numeral
import SatRarity.Schedule.Environment

set_option autoImplicit false

/-! # Which environments give a schedule

A variable leaves its parameter open, gives an integer, or is malformed, and never two of these. All
three variables are read before a parameter is checked, so a malformed variable is refused even if
an earlier one gives an integer that is not positive. `setByVariables` says of every environment
whether there is a schedule, which one it is, and what is wrong if there is none.
-/

namespace SatRarity.Schedule

open Text

/-! ## The order of declaration -/

/-- The one parameter is declared before the other. -/
def Parameter.Before (j k : Parameter) : Prop := [j, k].Sublist Parameter.all

instance (j k : Parameter) : Decidable (j.Before k) :=
  inferInstanceAs (Decidable (List.Sublist _ _))

@[simp] theorem Parameter.not_before_halvingInterval (j : Parameter) :
    ¬ j.Before .halvingInterval := by
  cases j <;> decide

@[simp] theorem Parameter.before_diffchangeInterval_iff {j : Parameter} :
    j.Before .diffchangeInterval ↔ j = .halvingInterval := by
  cases j <;> decide

@[simp] theorem Parameter.before_initialSubsidy_iff {j : Parameter} :
    j.Before .initialSubsidy ↔ j = .halvingInterval ∨ j = .diffchangeInterval := by
  cases j <;> decide

/-- A search among the parameters finds the first that fits. -/
theorem Parameter.find?_all_eq_some_iff {p : Parameter → Bool} {k : Parameter} :
    Parameter.all.find? p = some k ↔ p k = true ∧ ∀ j, j.Before k → p j = false := by
  rw [Parameter.all, List.find?_cons, List.find?_cons, List.find?_cons]
  cases hH : p .halvingInterval <;> cases hD : p .diffchangeInterval <;>
    cases hI : p .initialSubsidy <;> cases k <;> simp [hH, hD, hI]

/-! ## Variables -/

section Variable

variable {env : Environment} {k : Parameter}

/-- The variable is not set, or it holds nothing but spacing. -/
def LeavesOpen (env : Environment) (k : Parameter) : Prop :=
  ∀ raw, env k.variable = some raw → ∀ c ∈ raw.toList, isSpacing c = true

/-- The variable holds a numeral, with spacing around it or none. -/
def Gives (env : Environment) (k : Parameter) (n : Int) : Prop :=
  ∃ raw, env k.variable = some raw ∧ Numeral.Denotes (trim isSpacing raw.toList) n

/-- The variable holds a text that is more than spacing, and no numeral. -/
def IsMalformed (env : Environment) (k : Parameter) (raw : String) : Prop :=
  env k.variable = some raw ∧ (∃ c ∈ raw.toList, isSpacing c = false)
    ∧ ∀ n, ¬ Numeral.Denotes (trim isSpacing raw.toList) n

theorem readVariable_of_leavesOpen (h : LeavesOpen env k) :
    readVariable env k = .ok (standard.parameters.get k) := by
  rw [readVariable]
  cases hraw : env k.variable with
  | none => rfl
  | some raw => simp only [trim_eq_nil_iff.mpr (h raw hraw)]

/-- A variable that holds more than spacing is read as a numeral. -/
theorem readVariable_of_not_blank {raw : String} (hraw : env k.variable = some raw)
    (hne : ∃ c ∈ raw.toList, isSpacing c = false) :
    readVariable env k = (Numeral.readChars (trim isSpacing raw.toList)).mapError
      fun _ => .notInteger k raw := by
  obtain ⟨c, hc, hspacing⟩ := hne
  have htrim : trim isSpacing raw.toList ≠ [] := by
    intro hnil
    rw [trim_eq_nil_iff.mp hnil c hc] at hspacing
    cases hspacing
  obtain ⟨c', t, hcons⟩ := List.exists_cons_of_ne_nil htrim
  simp only [readVariable, hraw, hcons]
  cases Numeral.readChars (c' :: t) <;> rfl

theorem readVariable_of_gives {n : Int} (h : Gives env k n) : readVariable env k = .ok n := by
  obtain ⟨raw, hraw, hn⟩ := h
  have hne : ∃ c ∈ raw.toList, isSpacing c = false := by
    obtain ⟨c, hc, hspacing⟩ := hn.exists_not_isSpacing
    exact ⟨c, mem_of_mem_trim hc, hspacing⟩
  rw [readVariable_of_not_blank hraw hne, hn.readChars_eq]
  rfl

theorem readVariable_of_isMalformed {raw : String} (h : IsMalformed env k raw) :
    readVariable env k = .error (.notInteger k raw) := by
  obtain ⟨hraw, hne, hnone⟩ := h
  obtain ⟨e, he⟩ := Numeral.exists_readChars_eq_error_iff.mpr hnone
  rw [readVariable_of_not_blank hraw hne, he]
  rfl

theorem variable_cases (env : Environment) (k : Parameter) :
    LeavesOpen env k ∨ (∃ n, Gives env k n) ∨ ∃ raw, IsMalformed env k raw := by
  by_cases hopen : LeavesOpen env k
  · exact Or.inl hopen
  · simp only [LeavesOpen, not_forall, Bool.not_eq_true] at hopen
    obtain ⟨raw, hraw, c, hc, hspacing⟩ := hopen
    by_cases hn : ∃ n, Numeral.Denotes (trim isSpacing raw.toList) n
    · obtain ⟨n, hn⟩ := hn
      exact Or.inr (Or.inl ⟨n, raw, hraw, hn⟩)
    · exact Or.inr (Or.inr ⟨raw, hraw, ⟨c, hc, hspacing⟩, not_exists.mp hn⟩)

theorem readVariable_eq_ok_iff {n : Int} :
    readVariable env k = .ok n
      ↔ (LeavesOpen env k ∧ standard.parameters.get k = n) ∨ Gives env k n := by
  constructor
  · intro h
    rcases variable_cases env k with hopen | ⟨m, hm⟩ | ⟨raw, hraw⟩
    · exact Or.inl ⟨hopen, Except.ok.inj ((readVariable_of_leavesOpen hopen).symm.trans h)⟩
    · obtain rfl := Except.ok.inj ((readVariable_of_gives hm).symm.trans h)
      exact Or.inr hm
    · cases (readVariable_of_isMalformed hraw).symm.trans h
  · rintro (⟨hopen, rfl⟩ | hn)
    · exact readVariable_of_leavesOpen hopen
    · exact readVariable_of_gives hn

theorem readVariable_eq_error_iff {e : Error} :
    readVariable env k = .error e ↔ ∃ raw, IsMalformed env k raw ∧ e = .notInteger k raw := by
  constructor
  · intro h
    rcases variable_cases env k with hopen | ⟨m, hm⟩ | ⟨raw, hraw⟩
    · cases (readVariable_of_leavesOpen hopen).symm.trans h
    · cases (readVariable_of_gives hm).symm.trans h
    · exact ⟨raw, hraw, Except.error.inj (h.symm.trans (readVariable_of_isMalformed hraw))⟩
  · rintro ⟨raw, hraw, rfl⟩
    exact readVariable_of_isMalformed hraw

/-- A variable that can be read is not malformed, and the other way round. -/
theorem exists_readVariable_iff :
    (∃ n, readVariable env k = .ok n) ↔ ∀ raw, ¬ IsMalformed env k raw := by
  constructor
  · rintro ⟨n, hn⟩ raw hraw
    cases hn.symm.trans (readVariable_of_isMalformed hraw)
  · intro h
    rcases variable_cases env k with hopen | ⟨n, hn⟩ | ⟨raw, hraw⟩
    · exact ⟨_, readVariable_of_leavesOpen hopen⟩
    · exact ⟨n, readVariable_of_gives hn⟩
    · exact absurd hraw (h raw)

end Variable

/-! ## All variables -/

section Environment

variable {env : Environment}

theorem readVariables_eq_ok_iff {p : Parameters} :
    readVariables env = .ok p ↔ ∀ k, readVariable env k = .ok (p.get k) := by
  obtain ⟨halvingInterval, diffchangeInterval, initialSubsidy⟩ := p
  simp only [readVariables, bind_eq_ok_iff, pure, Except.pure, Except.ok.injEq,
    Parameters.mk.injEq]
  constructor
  · rintro ⟨_, hH, _, hD, _, hI, rfl, rfl, rfl⟩ k
    cases k with
    | halvingInterval => exact hH
    | diffchangeInterval => exact hD
    | initialSubsidy => exact hI
  · intro h
    exact ⟨_, h .halvingInterval, _, h .diffchangeInterval, _, h .initialSubsidy, rfl, rfl, rfl⟩

/-- The variables are read in order, and the first that cannot be read is the error. -/
theorem readVariables_eq_error_iff {e : Error} :
    readVariables env = .error e
      ↔ ∃ k, readVariable env k = .error e
          ∧ ∀ j : Parameter, j.Before k → ∃ n, readVariable env j = .ok n := by
  simp only [readVariables, bind_eq_error_iff, pure, Except.pure, reduceCtorEq, and_false,
    exists_false, or_false]
  constructor
  · rintro (hH | ⟨h, hH, hD | ⟨d, hD, hI⟩⟩)
    · exact ⟨.halvingInterval, hH, fun j hj => absurd hj (by simp)⟩
    · refine ⟨.diffchangeInterval, hD, fun j hj => ?_⟩
      rw [Parameter.before_diffchangeInterval_iff.mp hj]
      exact ⟨h, hH⟩
    · refine ⟨.initialSubsidy, hI, fun j hj => ?_⟩
      rcases Parameter.before_initialSubsidy_iff.mp hj with rfl | rfl
      · exact ⟨h, hH⟩
      · exact ⟨d, hD⟩
  · rintro ⟨k, hk, hbefore⟩
    cases k with
    | halvingInterval => exact Or.inl hk
    | diffchangeInterval =>
        obtain ⟨h, hH⟩ := hbefore .halvingInterval (by simp)
        exact Or.inr ⟨h, hH, Or.inl hk⟩
    | initialSubsidy =>
        obtain ⟨h, hH⟩ := hbefore .halvingInterval (by simp)
        obtain ⟨d, hD⟩ := hbefore .diffchangeInterval (by simp)
        exact Or.inr ⟨h, hH, Or.inr ⟨d, hD, hk⟩⟩

theorem exists_readVariables (h : ∀ k raw, ¬ IsMalformed env k raw) :
    ∃ p, readVariables env = .ok p := by
  have hread : ∀ k, ∃ n, readVariable env k = .ok n := fun k => exists_readVariable_iff.mpr (h k)
  choose n hn using hread
  refine ⟨.ofFun n, readVariables_eq_ok_iff.mpr fun k => ?_⟩
  rw [Parameters.get_ofFun, hn]

theorem ofEnvironment_eq_ok_iff {s : Schedule} :
    ofEnvironment env = .ok s ↔ readVariables env = .ok s.parameters := by
  rw [ofEnvironment, bind_eq_ok_iff]
  simp only [ofParameters_eq_ok_iff]
  constructor
  · rintro ⟨p, hp, rfl⟩
    exact hp
  · intro h
    exact ⟨_, h, rfl⟩

/-- An integer that is read keeps to the limit of numerals, and so do the standard ones. -/
theorem withinLimit_of_readVariable {k : Parameter} {n : Int} (h : readVariable env k = .ok n) :
    WithinLimit n := by
  rcases readVariable_eq_ok_iff.mp h with ⟨-, rfl⟩ | ⟨raw, -, hn⟩
  · cases k <;> decide
  · exact Numeral.withinLimit_of_readChars hn.readChars_eq

theorem withinLimit_of_ofEnvironment {s : Schedule} (h : ofEnvironment env = .ok s)
    (k : Parameter) : WithinLimit (s.parameters.get k) :=
  withinLimit_of_readVariable (readVariables_eq_ok_iff.mp (ofEnvironment_eq_ok_iff.mp h) k)

/-- What is wrong is a variable, or else the first parameter that is not positive. -/
theorem ofEnvironment_eq_error_iff {e : Error} :
    ofEnvironment env = .error e
      ↔ readVariables env = .error e
          ∨ ∃ p k, readVariables env = .ok p ∧ p.firstNotPositive? = some k
              ∧ e = .notPositive k := by
  have hparameters : ∀ p : Parameters,
      ofParameters p = .error e ↔ ∃ k, p.firstNotPositive? = some k ∧ e = .notPositive k := by
    intro p
    cases hp : p.firstNotPositive? with
    | none =>
        obtain ⟨s, hs⟩ := exists_ofParameters (Parameters.firstNotPositive?_eq_none_iff.mp hp)
        simp [hs]
    | some k => simp [ofParameters_of_not_pos hp, eq_comm]
  simp only [ofEnvironment, bind_eq_error_iff, hparameters, exists_and_left]

/-! ## Schedules -/

/-- The message that an environment is refused with. -/
inductive Refusal (env : Environment) : String → Prop
  /-- The first malformed variable is named and its text quoted, whatever the others give. -/
  | notInteger {k : Parameter} {raw : String} (h : IsMalformed env k raw)
      (hfirst : ∀ j : Parameter, j.Before k → ∀ raw', ¬ IsMalformed env j raw') :
    Refusal env (k.variable ++ " must be an integer, got " ++ quote raw ++ ".")
  /-- If none is malformed, the first parameter that is not positive is named. -/
  | notPositive {k : Parameter} {n : Int} (hall : ∀ j raw, ¬ IsMalformed env j raw)
      (h : Gives env k n) (hn : n ≤ 0)
      (hfirst : ∀ j : Parameter, j.Before k → ∀ m, Gives env j m → 0 < m) :
    Refusal env (k.name ++ " must be positive.")

/-- A parameter that is read as an integer below one is given it: the standard is positive. -/
theorem gives_of_readVariable {k : Parameter} {n : Int} (h : readVariable env k = .ok n)
    (hn : n ≤ 0) : Gives env k n := by
  rcases readVariable_eq_ok_iff.mp h with ⟨-, hstandard⟩ | hgives
  · have hpos := get_parameters_pos standard k
    omega
  · exact hgives

theorem refusal_iff {message : String} :
    (∃ e, ofEnvironment env = .error e ∧ e.message = message) ↔ Refusal env message := by
  constructor
  · rintro ⟨e, he, rfl⟩
    rcases ofEnvironment_eq_error_iff.mp he with hvariables | ⟨p, k, hp, hfirst, rfl⟩
    · obtain ⟨k, hk, hbefore⟩ := readVariables_eq_error_iff.mp hvariables
      obtain ⟨raw, hraw, rfl⟩ := readVariable_eq_error_iff.mp hk
      exact .notInteger hraw fun j hj => exists_readVariable_iff.mp (hbefore j hj)
    · have hread := readVariables_eq_ok_iff.mp hp
      obtain ⟨hn, hbefore⟩ := Parameter.find?_all_eq_some_iff.mp hfirst
      have hn : p.get k ≤ 0 := of_decide_eq_true hn
      refine .notPositive (fun j => exists_readVariable_iff.mp ⟨_, hread j⟩)
        (gives_of_readVariable (hread k) hn) hn fun j hj m hm => ?_
      have hm' := Except.ok.inj ((readVariable_of_gives hm).symm.trans (hread j))
      have hpos := of_decide_eq_false (hbefore j hj)
      omega
  · rintro (@⟨k, raw, hraw, hfirst⟩ | @⟨k, n, hall, hgives, hn, hfirst⟩)
    · refine ⟨.notInteger k raw, ofEnvironment_eq_error_iff.mpr (Or.inl ?_), rfl⟩
      exact readVariables_eq_error_iff.mpr ⟨k, readVariable_of_isMalformed hraw,
        fun j hj => exists_readVariable_iff.mpr (hfirst j hj)⟩
    · obtain ⟨p, hp⟩ := exists_readVariables hall
      have hread := readVariables_eq_ok_iff.mp hp
      have hk := Except.ok.inj ((hread k).symm.trans (readVariable_of_gives hgives))
      refine ⟨.notPositive k, ofEnvironment_eq_error_iff.mpr (Or.inr ⟨p, k, hp, ?_, rfl⟩), rfl⟩
      refine Parameter.find?_all_eq_some_iff.mpr ⟨decide_eq_true (by omega), fun j hj => ?_⟩
      refine decide_eq_false fun hle => ?_
      have hpos := hfirst j hj _ (gives_of_readVariable (hread j) hle)
      omega

/-- A malformed variable leaves no schedule, whichever of them it is. -/
theorem exists_ofEnvironment_eq_error {k : Parameter} {raw : String}
    (h : IsMalformed env k raw) :
    ∃ j raw', IsMalformed env j raw' ∧ ofEnvironment env = .error (.notInteger j raw') := by
  cases hvariables : readVariables env with
  | ok p =>
      have hk := readVariables_eq_ok_iff.mp hvariables k
      cases hk.symm.trans (readVariable_of_isMalformed h)
  | error e =>
      obtain ⟨j, hj, -⟩ := readVariables_eq_error_iff.mp hvariables
      obtain ⟨raw', hraw', rfl⟩ := readVariable_eq_error_iff.mp hj
      exact ⟨j, raw', hraw', ofEnvironment_eq_error_iff.mpr (Or.inl hvariables)⟩

theorem exists_ofEnvironment_iff :
    (∃ s, ofEnvironment env = .ok s) ↔ ∀ k, LeavesOpen env k ∨ ∃ n, Gives env k n ∧ 0 < n := by
  constructor
  · rintro ⟨s, hs⟩ k
    have hread := readVariables_eq_ok_iff.mp (ofEnvironment_eq_ok_iff.mp hs) k
    rcases readVariable_eq_ok_iff.mp hread with ⟨hopen, -⟩ | hgives
    · exact Or.inl hopen
    · exact Or.inr ⟨_, hgives, get_parameters_pos s k⟩
  · intro h
    have hread : ∀ k, ∃ n, readVariable env k = .ok n ∧ 0 < n := by
      intro k
      rcases h k with hopen | ⟨n, hn, hpos⟩
      · exact ⟨_, readVariable_of_leavesOpen hopen, get_parameters_pos standard k⟩
      · exact ⟨n, readVariable_of_gives hn, hpos⟩
    have hwell : ∀ k raw, ¬ IsMalformed env k raw := by
      intro k
      obtain ⟨n, hn, -⟩ := hread k
      exact exists_readVariable_iff.mp ⟨n, hn⟩
    obtain ⟨p, hp⟩ := exists_readVariables hwell
    have hpos : ∀ k, 0 < p.get k := by
      intro k
      obtain ⟨n, hn, hpos⟩ := hread k
      rwa [Except.ok.inj (hn.symm.trans (readVariables_eq_ok_iff.mp hp k))] at hpos
    obtain ⟨s, hs⟩ := exists_ofParameters hpos
    refine ⟨s, ofEnvironment_eq_ok_iff.mpr ?_⟩
    rw [hp, ofParameters_eq_ok_iff.mp hs]

/-- The variable holds the decimal of an integer, with spacing around it or none. -/
def HoldsDecimal (env : Environment) (k : Parameter) (n : Int) : Prop :=
  ∃ left right : String, env k.variable = some (left ++ toString n ++ right)
    ∧ (∀ c ∈ left.toList, isSpacing c = true) ∧ ∀ c ∈ right.toList, isSpacing c = true

theorem gives_of_holdsDecimal {k : Parameter} {n : Int} (hn : WithinLimit n)
    (h : HoldsDecimal env k n) : Gives env k n := by
  obtain ⟨left, right, hraw, hleft, hright⟩ := h
  have hdenotes := Numeral.denotes_toString hn
  refine ⟨_, hraw, ?_⟩
  rw [String.toList_append, String.toList_append,
    trim_append hleft (Numeral.isSpacing_of_mem_toString n) hright]
  exact hdenotes

end Environment

/-- What the variables of an environment make of a schedule. -/
structure SetByVariables (env : Environment) : Prop where
  /-- There is a schedule just if each variable leaves its parameter open or gives a positive
  integer. -/
  accepts : (∃ s, ofEnvironment env = .ok s)
    ↔ ∀ k, LeavesOpen env k ∨ ∃ n, Gives env k n ∧ 0 < n
  /-- The parameters are those that are given, and the standard ones where none is. -/
  parameters : ∀ s, ofEnvironment env = .ok s → ∀ k,
    (LeavesOpen env k → s.parameters.get k = standard.parameters.get k)
      ∧ ∀ n, Gives env k n → s.parameters.get k = n
  refuses : ∀ message,
    (∃ e, ofEnvironment env = .error e ∧ e.message = message) ↔ Refusal env message
  /-- No other variable counts. -/
  others : ∀ env' : Environment, (∀ k : Parameter, env' k.variable = env k.variable) →
    ofEnvironment env' = ofEnvironment env
  /-- A schedule within the limit is restored from the decimals of its parameters. -/
  restores : ∀ s : Schedule, (∀ k, WithinLimit (s.parameters.get k)) →
    (∀ k, HoldsDecimal env k (s.parameters.get k)) → ofEnvironment env = .ok s

/-- Every environment is accepted or refused by what its three variables hold. -/
theorem setByVariables (env : Environment) : SetByVariables env where
  accepts := exists_ofEnvironment_iff
  parameters := by
    intro s hs k
    have hread := readVariables_eq_ok_iff.mp (ofEnvironment_eq_ok_iff.mp hs) k
    constructor
    · intro hopen
      exact Except.ok.inj (hread.symm.trans (readVariable_of_leavesOpen hopen))
    · intro n hn
      exact Except.ok.inj (hread.symm.trans (readVariable_of_gives hn))
  refuses := fun _ => refusal_iff
  others := by
    intro env' henv
    have hread : ∀ k, readVariable env' k = readVariable env k := by
      intro k
      rw [readVariable, readVariable, henv]
    simp only [ofEnvironment, readVariables, hread]
  restores := by
    intro s hlimit hholds
    refine ofEnvironment_eq_ok_iff.mpr (readVariables_eq_ok_iff.mpr fun k => ?_)
    exact readVariable_of_gives (gives_of_holdsDecimal (hlimit k) (hholds k))

/-- A zero, a numeral between a separator and a tab, and a text that is no numeral: the text is what
is refused. -/
theorem setByVariables_zero_before_malformed :
    ∃ e, ofEnvironment (fun
        | "RARITY_HALVING_INTERVAL" => some "0"
        | "RARITY_DIFFCHANGE_INTERVAL" => some "\x1c2_016\t"
        | "RARITY_INITIAL_SUBSIDY" => some "many"
        | _ => none) = .error e
      ∧ e.message = "RARITY_INITIAL_SUBSIDY must be an integer, got 'many'." := by
  have hmessage : "RARITY_INITIAL_SUBSIDY must be an integer, got 'many'."
      = Parameter.initialSubsidy.variable ++ " must be an integer, got " ++ quote "many"
        ++ "." := by
    decide +kernel
  have hmany : ∀ n, ¬ Numeral.Denotes (trim isSpacing "many".toList) n :=
    Numeral.exists_readChars_eq_error_iff.mp ⟨.malformed, by decide⟩
  rw [hmessage]
  refine ((setByVariables _).refuses _).mpr ?_
  refine .notInteger ⟨rfl, ⟨'m', by decide, by decide⟩, hmany⟩ fun j hj => ?_
  rcases Parameter.before_initialSubsidy_iff.mp hj with rfl | rfl
  · exact exists_readVariable_iff.mp ⟨0, by decide⟩
  · exact exists_readVariable_iff.mp ⟨2016, by decide⟩

end SatRarity.Schedule
