import SatRarity.CommandLine.Run
import SatRarity.Proofs.Decimal

set_option autoImplicit false

/-! # Options that are written out

An occurrence is one option as it is written: the flag of the program, or the long name of an option
with the canonical decimal of an integer, in an argument of its own or attached by an equals sign.
Options of a level may be written in any order and as often as one likes; the settings that are made
of them are the occurrences again, `settingsOf_derive`, and `read_derive` says what is asked for.

Each of the three steps of a level (what the arguments are, what they do, what they set) treats an
occurrence on its own, whatever follows it. So there is one lemma for an occurrence and one for a
list of them for each step.
-/

namespace SatRarity.CommandLine

open Text

/-! ## Occurrences -/

/-- One option as it is written. -/
inductive Occurrence
  | verbose
  /-- The option and the decimal of its value, which may be attached. -/
  | value (k : Key) (n : Int) (attached : Bool)
  deriving DecidableEq

namespace Occurrence

/-- The arguments. -/
def args : Occurrence → List String
  | verbose => [Key.verbose.longName]
  | value k n true => [k.longName ++ "=" ++ toString n]
  | value k n false => [k.longName, toString n]

/-- What each of the arguments is. -/
def tokens : Occurrence → List (String × Token)
  | verbose => [(Key.verbose.longName, .option .verbose none)]
  | value k n true => [(k.longName ++ "=" ++ toString n, .option k (some (toString n)))]
  | value k n false => [(k.longName, .option k none), (toString n, .operand)]

/-- What the arguments do. -/
def event : Occurrence → Event
  | verbose => .flag .verbose
  | value k n _ => .value k (toString n)

/-- What they set. -/
def setting : Occurrence → Setting
  | verbose => .flag .verbose
  | value k n _ => .value k (.integer n)

/-- The integer that is given for an option. -/
def valueOf? (k : Key) : Occurrence → Option Int
  | value k' n _ => if k' = k then some n else none
  | verbose => none

/-- The option is one of the level, takes a value if it is given one, and the value keeps to the
limit. -/
def IsOf (level : Level) : Occurrence → Prop
  | verbose => Key.verbose ∈ level.keys
  | value k n _ => k ∈ level.keys ∧ k.takesValue = true ∧ WithinLimit n

instance (level : Level) : (o : Occurrence) → Decidable (o.IsOf level)
  | verbose => inferInstanceAs (Decidable (_ ∈ _))
  | value _ _ _ => inferInstanceAs (Decidable (_ ∧ _))

/-- The value that is given last for an option. -/
def last? (k : Key) (os : List Occurrence) : Option Int := os.reverse.findSome? (valueOf? k)

/-- The value that is given last is one of those that are given. -/
theorem exists_of_last? {k : Key} {os : List Occurrence} {n : Int} (h : last? k os = some n) :
    ∃ attached, value k n attached ∈ os := by
  obtain ⟨o, ho, hn⟩ := List.exists_of_findSome?_eq_some h
  cases o with
  | verbose => cases hn
  | value k' n' attached =>
      simp only [valueOf?, Option.ite_none_right_eq_some, Option.some.injEq] at hn
      obtain ⟨rfl, rfl⟩ := hn
      exact ⟨attached, List.mem_reverse.mp ho⟩

end Occurrence

/-! ## What the arguments are -/

theorem find?_longName {level : Level} {k : Key} (h : k ∈ level.keys) :
    level.keys.find? (fun k' => k'.longName.toList == k.longName.toList) = some k := by
  revert k
  cases level with
  | program => decide
  | command c => cases c <;> decide

/-- A name begins with two dashes, goes on, and holds no equals sign. -/
theorem toList_longName (k : Key) :
    ∃ c rest, k.longName.toList = '-' :: '-' :: c :: rest
      ∧ (k.longName.toList.all fun c => c != '=') = true := by
  cases k with
  | parameter k => cases k <;> exact ⟨_, _, rfl, by decide⟩
  | field f => cases f <;> exact ⟨_, _, rfl, by decide⟩
  | _ => exact ⟨_, _, rfl, by decide⟩

theorem ne_terminator_of_dashes {arg : String} {c : Char} {rest : List Char}
    (h : arg.toList = '-' :: '-' :: c :: rest) : arg ≠ "--" := by
  rintro rfl
  cases h

theorem classify_of_dashes {arg : String} {c : Char} {rest : List Char}
    (h : arg.toList = '-' :: '-' :: c :: rest) (level : Level) :
    classify level arg = classifyLong level arg := by
  rw [classify, h]
  simp

theorem splitEquals_longName (k : Key) :
    splitEquals k.longName.toList = (k.longName.toList, none) := by
  obtain ⟨-, -, -, hequals⟩ := toList_longName k
  have htake := List.takeWhile_eq_self_iff.mpr (List.all_eq_true.mp hequals)
  have hdrop := List.dropWhile_eq_nil_iff.mpr (List.all_eq_true.mp hequals)
  simp only [splitEquals, htake, hdrop]

theorem splitEquals_attached (k : Key) (t : List Char) :
    splitEquals (k.longName.toList ++ '=' :: t) = (k.longName.toList, some t) := by
  obtain ⟨-, -, -, hequals⟩ := toList_longName k
  have hsign : ('=' != '=') = false := by decide
  simp only [splitEquals, List.takeWhile_append_of_pos (List.all_eq_true.mp hequals),
    List.dropWhile_append_of_pos (List.all_eq_true.mp hequals), List.takeWhile_cons,
    List.dropWhile_cons, hsign]
  simp

theorem classify_longName {level : Level} {k : Key} (h : k ∈ level.keys) :
    classify level k.longName = .ok (.option k none) := by
  obtain ⟨c, rest, hdashes, -⟩ := toList_longName k
  rw [classify_of_dashes hdashes, classifyLong, splitEquals_longName]
  simp only [find?_longName h]
  rfl

theorem toList_attached (k : Key) (text : String) :
    (k.longName ++ "=" ++ text).toList = k.longName.toList ++ '=' :: text.toList := by
  simp

theorem exists_dashes_attached (k : Key) (text : String) :
    ∃ c rest, (k.longName ++ "=" ++ text).toList = '-' :: '-' :: c :: rest := by
  obtain ⟨c, rest, hdashes, -⟩ := toList_longName k
  exact ⟨c, _, by rw [toList_attached, hdashes]; rfl⟩

/-- Any text can be attached to an option. -/
theorem classify_attached {level : Level} {k : Key} (h : k ∈ level.keys) (text : String) :
    classify level (k.longName ++ "=" ++ text) = .ok (.option k (some text)) := by
  obtain ⟨c, rest, hdashes⟩ := exists_dashes_attached k text
  rw [classify_of_dashes hdashes, classifyLong, toList_attached, splitEquals_attached]
  simp only [find?_longName h, Option.map_some, String.ofList_toList]

/-- A decimal is an operand: no option looks like a number. -/
theorem classify_toString (level : Level) (n : Int) :
    classify level (toString n) = .ok .operand := by
  obtain ⟨c, rest, hcons, hc⟩ := exists_toDigits_eq_cons n.natAbs
  have hdigits : ∀ x ∈ c :: rest, x.isDigit = true := by
    intro x hx
    rw [← hcons] at hx
    exact isDigit_of_mem_toDigits hx
  have hminus : c ≠ '-' := ne_of_isDigit hc (by decide)
  by_cases hn : n < 0
  · have hlist : (toString n).toList = '-' :: c :: rest := by
      rw [toList_toString, if_pos hn, hcons]
      rfl
    have hletter : c ≠ 'h' := ne_of_isDigit hc (by decide)
    -- the digits after the dash make it a negative number
    have hnumber : isNegativeNumber (c :: rest) = true := by
      have hdrop : (c :: rest).dropWhile isDecimalDigit = [] :=
        List.dropWhile_eq_nil_iff.mpr fun x hx => isDecimalDigit_of_isDigit (hdigits x hx)
      simp only [isNegativeNumber, isPlainNumber, hdrop]
      rfl
    rw [classify, hlist]
    simp [hletter, classifyStray, hnumber]
  · have hlist : (toString n).toList = c :: rest := by
      rw [toList_toString, if_neg hn, hcons]
      rfl
    rw [classify, hlist]
    simp [hminus]

theorem toString_ne_terminator (n : Int) : toString n ≠ "--" := by
  intro h
  have hlist : (toString n).toList = ['-', '-'] := by
    rw [h]
    rfl
  have hsplit := splitSign_toString n
  rw [hlist] at hsplit
  -- after the sign of the terminator stands a dash, after that of a decimal a digit
  have hmem : '-' ∈ Nat.toDigits 10 n.natAbs := by
    rw [← (Prod.mk.inj hsplit).2]
    exact List.mem_cons_self
  exact absurd (isDigit_of_mem_toDigits hmem) (by decide)

/-- An argument that is something comes before what the other arguments are. -/
theorem classifyAll_cons {level : Level} {arg : String} {token : Token} (hne : arg ≠ "--")
    (h : classify level arg = .ok token) (args : List String) :
    classifyAll level (arg :: args) = (classifyAll level args).map ((arg, token) :: ·) := by
  rw [classifyAll, if_neg hne, h]
  cases classifyAll level args <;> rfl

theorem attached_ne_terminator (k : Key) (text : String) : k.longName ++ "=" ++ text ≠ "--" := by
  obtain ⟨c, rest, hdashes⟩ := exists_dashes_attached k text
  exact ne_terminator_of_dashes hdashes

theorem classifyAll_attached {level : Level} {k : Key} (h : k ∈ level.keys) (text : String)
    (args : List String) :
    classifyAll level ((k.longName ++ "=" ++ text) :: args)
      = (classifyAll level args).map
          ((k.longName ++ "=" ++ text, .option k (some text)) :: ·) :=
  classifyAll_cons (attached_ne_terminator k text) (classify_attached h text) args

/-- The arguments of an occurrence are classified on their own. -/
theorem classifyAll_args {level : Level} {o : Occurrence} (h : o.IsOf level) (rest : List String) :
    classifyAll level (o.args ++ rest) = (classifyAll level rest).map (o.tokens ++ ·) := by
  have hname : ∀ k : Key, k.longName ≠ "--" := by
    intro k
    obtain ⟨c, tail, hdashes, -⟩ := toList_longName k
    exact ne_terminator_of_dashes hdashes
  cases o with
  | verbose => exact classifyAll_cons (hname .verbose) (classify_longName h) rest
  | value k n attached =>
      obtain ⟨hk, -, -⟩ := h
      cases attached with
      | true => exact classifyAll_attached hk (toString n) rest
      | false =>
          have hvalue :=
            classifyAll_cons (toString_ne_terminator n) (classify_toString level n) rest
          have hoption := classifyAll_cons (hname k) (classify_longName hk) (toString n :: rest)
          rw [Occurrence.args, List.cons_append, List.cons_append, List.nil_append, hoption, hvalue]
          cases classifyAll level rest <;> rfl

theorem classifyAll_flatMap_args {level : Level} {os : List Occurrence}
    (h : ∀ o ∈ os, o.IsOf level) (rest : List String) :
    classifyAll level (os.flatMap Occurrence.args ++ rest)
      = (classifyAll level rest).map (os.flatMap Occurrence.tokens ++ ·) := by
  induction os with
  | nil => cases hrest : classifyAll level rest <;> simp [hrest, Except.map]
  | cons o os ih =>
      have hos := ih fun o ho => h o (List.mem_cons_of_mem _ ho)
      rw [List.flatMap_cons, List.append_assoc, classifyAll_args (h o List.mem_cons_self), hos]
      cases classifyAll level rest <;> simp [Except.map]

/-- At the level of the program the options of a derivation are looked at too: it knows none of
them, and none of their names begins a name that it knows. -/
theorem exists_classifyLong_program {k : Key} (hk : k ∈ (Level.command .derive).keys)
    (hvalue : k.takesValue = true) {arg : String} {attached : Option (List Char)}
    (h : splitEquals arg.toList = (k.longName.toList, attached)) :
    ∃ token, classifyLong .program arg = .ok token := by
  -- help is left out: it is an option of both levels
  have hkeys : ∀ k ∈ (Level.command .derive).keys, k.takesValue = true →
      Level.program.keys.find? (fun k' => k'.longName.toList == k.longName.toList) = none
        ∧ Level.program.keys.filter (fun k' => k.longName.toList.isPrefixOf k'.longName.toList)
          = [] := by
    decide
  obtain ⟨hfind, hfilter⟩ := hkeys k hk hvalue
  simp [classifyLong, h, hfind, hfilter]

/-- The argument is something to the program, and not the terminator. -/
def IsKnown (arg : String) : Prop := arg ≠ "--" ∧ ∃ token, classify .program arg = .ok token

theorem isKnown_attached {k : Key} (hk : k ∈ (Level.command .derive).keys)
    (hvalue : k.takesValue = true) (text : String) : IsKnown (k.longName ++ "=" ++ text) := by
  refine ⟨attached_ne_terminator k text, ?_⟩
  obtain ⟨c, rest, hdashes⟩ := exists_dashes_attached k text
  have hsplit := splitEquals_attached k text.toList
  rw [← toList_attached] at hsplit
  rw [classify_of_dashes hdashes]
  exact exists_classifyLong_program hk hvalue hsplit

theorem isKnown_args {o : Occurrence} (h : o.IsOf (.command .derive)) :
    ∀ arg ∈ o.args, IsKnown arg := by
  cases o with
  | verbose => exact absurd h (by decide)
  | value k n attached =>
      obtain ⟨hk, hvalue, -⟩ := h
      obtain ⟨c, rest, hdashes, -⟩ := toList_longName k
      have hname : IsKnown k.longName := by
        refine ⟨ne_terminator_of_dashes hdashes, ?_⟩
        rw [classify_of_dashes hdashes]
        exact exists_classifyLong_program hk hvalue (splitEquals_longName k)
      intro arg harg
      cases attached with
      | true =>
          rw [List.mem_singleton.mp harg]
          exact isKnown_attached hk hvalue (toString n)
      | false =>
          rcases List.mem_pair.mp harg with rfl | rfl
          · exact hname
          · exact ⟨toString_ne_terminator n, _, classify_toString .program n⟩

theorem isKnown_flatMap_args {os : List Occurrence} (h : ∀ o ∈ os, o.IsOf (.command .derive)) :
    ∀ arg ∈ os.flatMap Occurrence.args, IsKnown arg := by
  intro arg harg
  obtain ⟨o, ho, harg⟩ := List.mem_flatMap.mp harg
  exact isKnown_args (h o ho) arg harg

/-- Where each argument is something, all of them are, and none is lost. -/
theorem exists_classifyAll {args : List String} (h : ∀ arg ∈ args, IsKnown arg) :
    ∃ tokens, classifyAll .program args = .ok tokens ∧ tokens.map Prod.fst = args := by
  induction args with
  | nil => exact ⟨[], rfl, rfl⟩
  | cons arg args ih =>
      obtain ⟨hne, token, htoken⟩ := h arg List.mem_cons_self
      obtain ⟨tokens, htokens, hargs⟩ := ih fun arg harg => h arg (List.mem_cons_of_mem _ harg)
      refine ⟨(arg, token) :: tokens, ?_, by rw [List.map_cons, hargs]⟩
      rw [classifyAll_cons hne htoken, htokens]
      rfl

/-! ## What the arguments do -/

theorem events_tokens {level : Level} {o : Occurrence} (h : o.IsOf level) (a : Awaited)
    (rest : List (String × Token)) : events a (o.tokens ++ rest) = o.event :: events a rest := by
  cases o with
  | verbose =>
      -- the equations of `events` differ by what follows the flag, so it is opened as a whole
      show events a ((_, .option .verbose none) :: rest) = _
      rw [events.eq_def]
      cases a <;> simp [Occurrence.event, Key.takesValue]
  | value k n attached =>
      obtain ⟨-, hvalue, -⟩ := h
      cases attached <;> cases a <;> simp [Occurrence.tokens, Occurrence.event, events, hvalue]

theorem events_flatMap_tokens {level : Level} {os : List Occurrence} (h : ∀ o ∈ os, o.IsOf level)
    (a : Awaited) (rest : List (String × Token)) :
    events a (os.flatMap Occurrence.tokens ++ rest)
      = os.map Occurrence.event ++ events a rest := by
  induction os with
  | nil => rfl
  | cons o os ih =>
      have hos := ih fun o ho => h o (List.mem_cons_of_mem _ ho)
      rw [List.flatMap_cons, List.append_assoc, events_tokens (h o List.mem_cons_self), hos]
      rfl

/-! ## What the arguments set -/

/-- The value of an option, within the limit, is read as the integer that was written. -/
theorem resolveOption_event {level level' : Level} {o : Occurrence} (h : o.IsOf level) :
    resolveOption level' o.event = .ok o.setting := by
  cases o with
  | verbose => rfl
  | value k n attached =>
      obtain ⟨-, -, hn⟩ := h
      have hread : Given.read (toString n) = .ok (.integer n) := by
        rw [Given.read, if_neg (toString_ne_terminator n), Numeral.read_toString hn]
        rfl
      simp only [Occurrence.event, Occurrence.setting, resolveOption, readAs, hread]
      rfl

/-- What resolves each occurrence on its own resolves all of them, before whatever follows. -/
theorem mapM_event {level : Level} {resolve : Event → Except Stop Setting} {os : List Occurrence}
    (h : ∀ o ∈ os, o.IsOf level)
    (hresolve : ∀ o : Occurrence, o.IsOf level → resolve o.event = .ok o.setting)
    (rest : List Event) :
    (os.map Occurrence.event ++ rest).mapM resolve
      = (rest.mapM resolve).map (os.map Occurrence.setting ++ ·) := by
  induction os with
  | nil => cases hrest : rest.mapM resolve <;> simp [hrest, Except.map]
  | cons o os ih =>
      have hos := ih fun o ho => h o (List.mem_cons_of_mem _ ho)
      rw [List.map_cons, List.cons_append, List.mapM_cons, hresolve o (h o List.mem_cons_self), hos]
      cases rest.mapM resolve <;> rfl

/-- The last setting of an option is its last occurrence. -/
theorem lastValue?_map_setting (k : Key) (os : List Occurrence) :
    lastValue? k (os.map Occurrence.setting) = (Occurrence.last? k os).map .integer := by
  have hvalue : ∀ o : Occurrence, o.setting.valueOf? k = (o.valueOf? k).map .integer := by
    intro o
    cases o with
    | verbose => rfl
    | value k' n attached =>
        simp only [Occurrence.setting, Setting.valueOf?, Occurrence.valueOf?]
        split <;> rfl
  -- both search from the end, so the induction is on the reversed list
  rw [lastValue?, Occurrence.last?, ← List.map_reverse, List.findSome?_map]
  induction os.reverse with
  | nil => rfl
  | cons o os ih =>
      simp only [List.findSome?_cons, Function.comp_apply, hvalue]
      cases o.valueOf? k with
      | none => exact ih
      | some n => rfl

theorem findSome?_request?_map_setting (os : List Occurrence) :
    (os.map Occurrence.setting).findSome? Setting.request? = none := by
  rw [List.findSome?_eq_none_iff]
  intro setting hsetting
  obtain ⟨o, -, rfl⟩ := List.mem_map.mp hsetting
  cases o <;> rfl

theorem flatMap_extras_map_setting (os : List Occurrence) :
    (os.map Occurrence.setting).flatMap Setting.extras = [] := by
  rw [List.flatMap_eq_nil_iff]
  intro setting hsetting
  obtain ⟨o, -, rfl⟩ := List.mem_map.mp hsetting
  cases o <;> rfl

theorem any_raises_map_setting (os : List Occurrence) :
    (os.map Occurrence.setting).any (Setting.raises .verbose) = os.contains .verbose := by
  induction os with
  | nil => rfl
  | cons o os ih =>
      rw [List.map_cons, List.any_cons, ih]
      cases o <;> simp [Occurrence.setting, Setting.raises]

/-- What is given later counts, if there is any. -/
theorem lastValue?_append (k : Key) (settings settings' : List Setting) :
    lastValue? k (settings ++ settings') = (lastValue? k settings').or (lastValue? k settings) := by
  simp only [lastValue?, List.reverse_append, List.findSome?_append]

theorem lastValue?_append_request (k : Key) (settings : List Setting) (r : Request)
    (extras : List String) :
    lastValue? k (settings ++ [.request r extras]) = lastValue? k settings := by
  rw [lastValue?_append]
  rfl

/-! ## Derivations that are asked for -/

/-- What the options of the program replace. -/
def Occurrence.overrides (program : List Occurrence) : Overrides :=
  fun k => (last? (.parameter k) program).map .integer

/-- The arguments that ask for a derivation, after options of the program. -/
def deriveArgs (program options : List Occurrence) : List String :=
  program.flatMap Occurrence.args ++ Command.derive.name :: options.flatMap Occurrence.args

/-- Options of a level set what they set on their own, before whatever follows them. -/
theorem settingsOf_flatMap_args {level : Level} {resolve : Event → Except Stop Setting}
    {os : List Occurrence} (h : ∀ o ∈ os, o.IsOf level)
    (hresolve : ∀ o : Occurrence, o.IsOf level → resolve o.event = .ok o.setting)
    {rest : List String} {tokens : List (String × Token)}
    (hrest : classifyAll level rest = .ok tokens) :
    settingsOf level resolve (os.flatMap Occurrence.args ++ rest)
      = ((events level.awaited tokens).mapM resolve).map (os.map Occurrence.setting ++ ·) := by
  have htokens := classifyAll_flatMap_args h rest
  rw [hrest, Except.map] at htokens
  simp only [settingsOf, htokens, events_flatMap_tokens h, mapM_event h hresolve]

theorem resolve_event {o : Occurrence} (h : o.IsOf (.command .derive)) :
    resolve .derive o.event = .ok o.setting := by
  cases o with
  | verbose => rfl
  | value k n attached => exact resolveOption_event h

theorem resolveProgram_event {o : Occurrence} (h : o.IsOf .program) :
    resolveProgram o.event = .ok o.setting := by
  cases o with
  | verbose => rfl
  | value k n attached => exact resolveOption_event h

theorem settingsOf_derive {options : List Occurrence}
    (h : ∀ o ∈ options, o.IsOf (.command .derive)) :
    settingsOf (.command .derive) (resolve .derive) (options.flatMap Occurrence.args)
      = .ok (options.map Occurrence.setting) := by
  have hnone : classifyAll (.command .derive) [] = .ok [] := rfl
  have hsettings := settingsOf_flatMap_args h (fun _ => resolve_event) hnone
  simpa [events, pure, Except.pure, Except.map] using hsettings

/-- Options that give all fields of a coordinate ask for its derivation. -/
theorem readCommand_derive {options : List Occurrence}
    (h : ∀ o ∈ options, o.IsOf (.command .derive)) {c : Coordinate}
    (hfields : ∀ f, Occurrence.last? (.field f) options = some (c.get f)) :
    readCommand .derive (options.flatMap Occurrence.args)
      = .ok (.request (.derive (.ofCoordinate c (Occurrence.last? .subsidy options))) []) := by
  simp only [readCommand, settingsOf_derive h, bind, Except.bind, Command.request,
    lastValue?_map_setting, hfields, Option.map_some, flatMap_extras_map_setting]
  rfl

/-- The command takes along the arguments after it, whatever they are at the level of the
program. -/
theorem exists_classifyAll_command {args : List String} (h : ∀ arg ∈ args, IsKnown arg) :
    ∃ tokens, classifyAll .program (Command.derive.name :: args) = .ok tokens
      ∧ events .command tokens = [.operand Command.derive.name args] := by
  obtain ⟨tokens, hclassify, hargs⟩ := exists_classifyAll h
  refine ⟨(Command.derive.name, .operand) :: tokens, ?_, by simp [events, hargs]⟩
  rw [classifyAll, if_neg (by decide), hclassify]
  rfl

/-- The settings of the program: its options, and what the command asks for. -/
theorem settingsOf_program {program : List Occurrence} (hprogram : ∀ o ∈ program, o.IsOf .program)
    {args : List String} (hargs : ∀ arg ∈ args, IsKnown arg) :
    settingsOf .program resolveProgram
        (program.flatMap Occurrence.args ++ Command.derive.name :: args)
      = (readCommand .derive args).map
          fun request => program.map Occurrence.setting ++ [request] := by
  obtain ⟨tokens, htokens, hevents⟩ := exists_classifyAll_command hargs
  have hrequest : resolveProgram (.operand Command.derive.name args)
      = readCommand .derive args := rfl
  rw [settingsOf_flatMap_args hprogram (fun _ => resolveProgram_event) htokens, Level.awaited,
    hevents, List.mapM_cons, List.mapM_nil, hrequest]
  cases readCommand .derive args <;> rfl

/-- What is asked for by settings of options and one request that leaves no argument over. -/
theorem read_of_settings {args : List String} {settings : List Setting} {r : Request}
    (h : settingsOf .program resolveProgram args = .ok (settings ++ [.request r []]))
    (hrequest : settings.findSome? Setting.request? = none)
    (hextras : settings.flatMap Setting.extras = []) :
    Invocation.read args
      = .ok {
          verbose := settings.any (Setting.raises .verbose)
          overrides := fun k => lastValue? (.parameter k) settings
          request := r } := by
  simp only [Invocation.read, h, bind, Except.bind, lastValue?_append_request,
    List.findSome?_append, List.flatMap_append, List.any_append, hrequest, hextras]
  simp [Setting.request?, Setting.extras, Setting.raises]

/-- What is asked for by options of the program, the command and its options: the last value of each
option counts, wherever it stands and however it is written. -/
theorem read_derive {program options : List Occurrence} (hprogram : ∀ o ∈ program, o.IsOf .program)
    (hoptions : ∀ o ∈ options, o.IsOf (.command .derive)) {c : Coordinate}
    (hfields : ∀ f, Occurrence.last? (.field f) options = some (c.get f)) :
    Invocation.read (deriveArgs program options)
      = .ok {
          verbose := program.contains .verbose
          overrides := Occurrence.overrides program
          request := .derive (.ofCoordinate c (Occurrence.last? .subsidy options)) } := by
  have hsettings := settingsOf_program hprogram (isKnown_flatMap_args hoptions)
  rw [readCommand_derive hoptions hfields] at hsettings
  rw [deriveArgs, read_of_settings hsettings (findSome?_request?_map_setting program)
    (flatMap_extras_map_setting program), any_raises_map_setting]
  simp only [lastValue?_map_setting]
  rfl

end SatRarity.CommandLine
