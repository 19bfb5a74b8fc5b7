import SatRarity.Proofs.Occurrence

set_option autoImplicit false

/-! # Order, repetition and spelling of options

Of the options that are written out, a call sees only whether the flag is among them and which value
of each option is the last. So a call whose options are in any order, given any number of times and
in either spelling, is the call that gives each of them once, in the order of declaration, with its
last value; `readsLast_of_isOf` says so, and also what such a call reports if a field is not given
at all.
-/

namespace SatRarity.CommandLine

namespace Occurrence

/-! ## One occurrence for each option -/

/-- Some value is given for the option. -/
def occurs (k : Key) (os : List Occurrence) : Bool := os.any fun o => (o.valueOf? k).isSome

/-- What is left of an option if it is given once: the flag, or the last value, attached or not. -/
def latest? (attached : Key → Bool) (os : List Occurrence) : Key → Option Occurrence
  | .verbose => if os.contains .verbose then some .verbose else none
  | k => (last? k os).map fun n => .value k n (attached k)

/-- Each option of the level that occurs, once and in the order of declaration. -/
def once (level : Level) (attached : Key → Bool) (os : List Occurrence) : List Occurrence :=
  level.keys.filterMap (latest? attached os)

/-- A call sees the same of both: the flag, and the last value of each option. -/
structure Agree (os os' : List Occurrence) : Prop where
  last? : ∀ k, Occurrence.last? k os = Occurrence.last? k os'
  verbose : os.contains .verbose = os'.contains .verbose

variable {level : Level} {os : List Occurrence}

theorem isSome_last? (k : Key) (os : List Occurrence) : (last? k os).isSome = occurs k os := by
  rw [last?, List.isSome_findSome?, occurs, List.any_reverse]

/-- Only options of the level that take a value are given one. -/
theorem last?_eq_none (h : ∀ o ∈ os, o.IsOf level) {k : Key}
    (hk : k ∉ level.keys ∨ k.takesValue = false) : last? k os = none := by
  cases hlast : last? k os with
  | none => rfl
  | some n =>
      obtain ⟨attached, hmem⟩ := exists_of_last? hlast
      obtain ⟨hkey, hvalue, -⟩ := h _ hmem
      rcases hk with hk | hk
      · exact absurd hkey hk
      · rw [hk] at hvalue
        cases hvalue

theorem isOf_of_latest? (h : ∀ o ∈ os, o.IsOf level) {attached : Key → Bool} {k : Key}
    {o : Occurrence} (hlatest : latest? attached os k = some o) : o.IsOf level := by
  have hvalue : ∀ n, last? k os = some n → (value k n (attached k)).IsOf level := by
    intro n hn
    obtain ⟨attached', hmem⟩ := exists_of_last? hn
    exact h (value k n attached') hmem
  cases k with
  | verbose =>
      rw [latest?] at hlatest
      split at hlatest
      case isTrue hverbose =>
        obtain rfl := Option.some.inj hlatest
        exact h _ (List.contains_iff_mem.mp hverbose)
      case isFalse => cases hlatest
  | _ =>
      obtain ⟨n, hn, rfl⟩ := Option.map_eq_some_iff.mp hlatest
      exact hvalue n hn

theorem isOf_once (h : ∀ o ∈ os, o.IsOf level) (attached : Key → Bool) :
    ∀ o ∈ once level attached os, o.IsOf level := by
  intro o ho
  obtain ⟨k, -, hlatest⟩ := List.mem_filterMap.mp ho
  exact isOf_of_latest? h hlatest

/-- What is left of one option says nothing of another. -/
theorem latest?_bind_valueOf? (h : ∀ o ∈ os, o.IsOf level) (attached : Key → Bool) (k k' : Key) :
    (latest? attached os k').bind (valueOf? k) = if k' = k then last? k os else none := by
  have hvalue : ((last? k' os).map fun n => value k' n (attached k')).bind (valueOf? k)
      = if k' = k then last? k os else none := by
    by_cases hk : k' = k
    · subst hk
      cases last? k' os <;> simp [valueOf?]
    · cases last? k' os <;> simp [valueOf?, hk]
  cases k' with
  | verbose =>
      have hnone : last? .verbose os = none := last?_eq_none h (Or.inr rfl)
      rw [hnone] at hvalue
      rw [← hvalue, latest?]
      split <;> rfl
  | _ => exact hvalue

/-- A search for one key finds what belongs to it, wherever it stands. -/
theorem findSome?_ite (keys : List Key) (k : Key) (v : Option Int) :
    keys.findSome? (fun k' => if k' = k then v else none) = if k ∈ keys then v else none := by
  induction keys with
  | nil => rfl
  | cons k' keys ih =>
      rw [List.findSome?_cons, ih]
      by_cases hk : k' = k
      · subst hk
        cases v <;> simp
      · have hmem : k ∈ k' :: keys ↔ k ∈ keys := by simp [Ne.symm hk]
        simp only [if_neg hk, hmem]

theorem agree_once (h : ∀ o ∈ os, o.IsOf level) (attached : Key → Bool) :
    Agree os (once level attached os) where
  last? := by
    intro k
    have hlast : last? k (once level attached os)
        = level.keys.reverse.findSome? fun k' => (latest? attached os k').bind (valueOf? k) := by
      rw [last?, once, ← List.filterMap_reverse, ← List.head?_filterMap, List.filterMap_filterMap,
        List.head?_filterMap]
    simp only [hlast, latest?_bind_valueOf? h, findSome?_ite, List.mem_reverse]
    by_cases hk : k ∈ level.keys
    · rw [if_pos hk]
    · rw [if_neg hk]
      exact last?_eq_none h (Or.inl hk)
  verbose := by
    rw [Bool.eq_iff_iff, List.contains_iff_mem, List.contains_iff_mem]
    constructor
    · intro hmem
      refine List.mem_filterMap.mpr ⟨.verbose, h _ hmem, ?_⟩
      rw [latest?, if_pos (List.contains_iff_mem.mpr hmem)]
    · intro hmem
      obtain ⟨k, -, hlatest⟩ := List.mem_filterMap.mp hmem
      cases k with
      | verbose =>
          rw [latest?] at hlatest
          split at hlatest
          case isTrue hverbose => exact List.contains_iff_mem.mp hverbose
          case isFalse => cases hlatest
      | _ =>
          obtain ⟨n, -, hvalue⟩ := Option.map_eq_some_iff.mp hlatest
          cases hvalue

end Occurrence

/-! ## What a call sees of its options -/

section Options

variable {program options : List Occurrence} (hprogram : ∀ o ∈ program, o.IsOf .program)
  (hoptions : ∀ o ∈ options, o.IsOf (.command .derive))

include hoptions in
/-- Without a value for some field the command reports the fields without one. -/
theorem readCommand_of_missing {f : Coordinate.Field}
    (hf : Occurrence.last? (.field f) options = none) :
    readCommand .derive (options.flatMap Occurrence.args)
      = .error (.misuse (.command .derive) (.missing
          ((Coordinate.Field.all.filter fun f => !Occurrence.occurs (.field f) options).map
            fun f => (Key.field f).longName))) := by
  have hfields : missingFields (options.map Occurrence.setting)
      = (Coordinate.Field.all.filter fun f => !Occurrence.occurs (.field f) options).map
          fun f => (Key.field f).longName := by
    have hnone : ∀ f : Coordinate.Field,
        (lastValue? (.field f) (options.map Occurrence.setting)).isNone
          = !Occurrence.occurs (.field f) options := by
      intro f
      rw [lastValue?_map_setting, ← Occurrence.isSome_last?, Option.isNone_map, Option.not_isSome]
    simp only [missingFields, hnone]
    rfl
  have hrequest : Command.derive.request (options.map Occurrence.setting)
      = .error (.missing (missingFields (options.map Occurrence.setting))) := by
    rw [Command.request]
    split
    case h_1 hepoch hepochPosition hperiodPosition hsubsidyPosition =>
      have hnone : lastValue? (.field f) (options.map Occurrence.setting) = none := by
        rw [lastValue?_map_setting, hf, Option.map_none]
      cases f with
      | epoch => cases hepoch.symm.trans hnone
      | epochPosition => cases hepochPosition.symm.trans hnone
      | periodPosition => cases hperiodPosition.symm.trans hnone
      | subsidyPosition => cases hsubsidyPosition.symm.trans hnone
    case h_2 => rfl
  simp only [readCommand, settingsOf_derive hoptions, bind, Except.bind, hrequest, hfields]

include hprogram hoptions in
theorem run_of_missing (env : Environment) {f : Coordinate.Field}
    (hf : Occurrence.last? (.field f) options = none) :
    run env (deriveArgs program options)
      = .misused (.command .derive) (.missing
          ((Coordinate.Field.all.filter fun f => !Occurrence.occurs (.field f) options).map
            fun f => (Key.field f).longName)) := by
  have hsettings := settingsOf_program hprogram (isKnown_flatMap_args hoptions)
  rw [readCommand_of_missing hoptions hf] at hsettings
  simp only [run, deriveArgs, Invocation.read, hsettings]
  rfl

/-- Where all fields occur, their last values are a coordinate. -/
theorem exists_coordinate
    (h : ∀ f : Coordinate.Field, Occurrence.occurs (.field f) options = true) :
    ∃ c : Coordinate, ∀ f, Occurrence.last? (.field f) options = some (c.get f) := by
  refine ⟨.ofFun fun f => (Occurrence.last? (.field f) options).getD 0, fun f => ?_⟩
  have hf := h f
  rw [← Occurrence.isSome_last?] at hf
  obtain ⟨n, hn⟩ := Option.isSome_iff_exists.mp hf
  rw [Coordinate.get_ofFun, hn]
  rfl

include hprogram hoptions in
/-- Calls that see the same run the same. -/
theorem run_eq_of_agree (env : Environment) {program' options' : List Occurrence}
    (hprogram' : ∀ o ∈ program', o.IsOf .program)
    (hoptions' : ∀ o ∈ options', o.IsOf (.command .derive))
    (hagree : Occurrence.Agree program program') (hagree' : Occurrence.Agree options options') :
    run env (deriveArgs program options) = run env (deriveArgs program' options') := by
  by_cases hfields : ∀ f : Coordinate.Field, Occurrence.occurs (.field f) options = true
  · obtain ⟨c, hc⟩ := exists_coordinate hfields
    have hc' : ∀ f, Occurrence.last? (.field f) options' = some (c.get f) :=
      fun f => (hagree'.last? _).symm.trans (hc f)
    have hoverrides : Occurrence.overrides program = Occurrence.overrides program' :=
      funext fun k => congrArg (Option.map Given.integer) (hagree.last? (.parameter k))
    simp only [run, read_derive hprogram hoptions hc, read_derive hprogram' hoptions' hc',
      hagree.verbose, hoverrides, hagree'.last? .subsidy]
  · obtain ⟨f, hf⟩ := Classical.not_forall.mp hfields
    rw [← Occurrence.isSome_last?, Bool.not_eq_true, Option.isSome_eq_false_iff,
      Option.isNone_iff_eq_none] at hf
    have hf' := (hagree'.last? _).symm.trans hf
    have hoccurs : ∀ k, Occurrence.occurs k options = Occurrence.occurs k options' := by
      intro k
      rw [← Occurrence.isSome_last?, ← Occurrence.isSome_last?, hagree'.last?]
    rw [run_of_missing hprogram hoptions env hf, run_of_missing hprogram' hoptions' env hf']
    simp only [hoccurs]

/-! ## Calls with options that are written out -/

/-- What a call makes of options that are written out. -/
structure ReadsLast (env : Environment) (entry : Entry) (program options : List Occurrence) :
    Prop where
  /-- It is the call that gives each option once, in the order of declaration and in any spelling,
  with its last value. -/
  once : ∀ attached : Key → Bool,
    (run env (deriveArgs program options)).transcript entry
      = (run env (deriveArgs (Occurrence.once .program attached program)
          (Occurrence.once (.command .derive) attached options))).transcript entry
  /-- If all fields occur, each field and the subsidy hold the last value of the option of just that
  name, and so does each parameter. -/
  bound : (∀ f, Occurrence.occurs (.field f) options = true) →
    ∃ inv d, Invocation.read (deriveArgs program options) = .ok inv ∧ inv.request = .derive d
      ∧ (∀ f, some (d.get f) = (Occurrence.last? (.field f) options).map .integer)
      ∧ d.subsidy = (Occurrence.last? .subsidy options).map .integer
      ∧ (∀ k, inv.overrides k = (Occurrence.last? (.parameter k) program).map .integer)
      ∧ inv.verbose = program.contains .verbose
  /-- If some field does not occur, it names those that do not, in the order of declaration. -/
  missing : ∀ f, Occurrence.occurs (.field f) options = false →
    (run env (deriveArgs program options)).transcript entry = {
      status := .exited 2
      stdout := ""
      stderr := (Level.command .derive).usage ++ "sat-rarity derive: error: "
        ++ "the following arguments are required: "
        ++ ", ".intercalate
          ((Coordinate.Field.all.filter fun f => !Occurrence.occurs (.field f) options).map
            fun f => (Key.field f).longName)
        ++ "\n" }

/-- In whatever order, number and spelling options are written out, the last value of each option is
what counts. -/
theorem readsLast_of_isOf (env : Environment) (entry : Entry) {program options : List Occurrence}
    (hprogram : ∀ o ∈ program, o.IsOf .program)
    (hoptions : ∀ o ∈ options, o.IsOf (.command .derive)) :
    ReadsLast env entry program options where
  once := by
    intro attached
    rw [run_eq_of_agree hprogram hoptions env (Occurrence.isOf_once hprogram attached)
      (Occurrence.isOf_once hoptions attached) (Occurrence.agree_once hprogram attached)
      (Occurrence.agree_once hoptions attached)]
  bound := by
    intro hfields
    obtain ⟨c, hc⟩ := exists_coordinate hfields
    refine ⟨_, _, read_derive hprogram hoptions hc, rfl, fun f => ?_, rfl, fun k => rfl, rfl⟩
    rw [hc]
    cases f <;> rfl
  missing := by
    intro f hf
    rw [← Occurrence.isSome_last?, Option.isSome_eq_false_iff, Option.isNone_iff_eq_none] at hf
    have htitle : (Level.command .derive).title ++ ": error: " = "sat-rarity derive: error: " := by
      decide
    have hmessage : ∀ usage names : String,
        usage ++ (Level.command .derive).title ++ ": error: "
            ++ ("the following arguments are required: " ++ names) ++ "\n"
          = usage ++ "sat-rarity derive: error: " ++ "the following arguments are required: "
            ++ names ++ "\n" := by
      intro usage names
      simp only [← htitle, String.append_assoc]
    rw [run_of_missing hprogram hoptions env hf]
    exact congrArg (Transcript.mk (.exited 2) "") (hmessage _ _)

/-- Repeated options in both spellings, one of them negative, with the subsidy position last. -/
theorem readsLast_repeated :
    ReadsLast (fun _ => none) .called
      [.value (.parameter .halvingInterval) 7 true, .verbose,
        .value (.parameter .halvingInterval) 10 false]
      [.value .subsidy (-3) true, .value (.field .periodPosition) 4 false,
        .value (.field .epoch) 1 false, .value (.field .epochPosition) (-2) false,
        .value .subsidy 5 false, .value (.field .epochPosition) 2 true,
        .value (.field .subsidyPosition) 0 true] :=
  readsLast_of_isOf (fun _ => none) .called (by decide) (by decide)

end Options

end SatRarity.CommandLine
