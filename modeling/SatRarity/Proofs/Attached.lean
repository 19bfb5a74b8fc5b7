import SatRarity.Proofs.Provenance
import SatRarity.Proofs.Spelling

set_option autoImplicit false

/-! # Options with a text attached

Any text can be attached to an option that takes an integer, among other options that are written
out. What the option sets follows from the settings of its level, `settingsOf_attachedArgs`. For an
option of the program and for one of a derivation alike, the option is given what can be read of the
text, `Attachment.read_args`, and a text that cannot be read makes the call a misuse of that option,
`Attachment.read_args_error`.
-/

namespace SatRarity.CommandLine

open Text

/-! ## Settings -/

/-- The arguments of options, with the text attached to one of them. -/
def attachedArgs (k : Key) (text : String) (before after : List Occurrence) : List String :=
  before.flatMap Occurrence.args ++ (k.longName ++ "=" ++ text) :: after.flatMap Occurrence.args

/-- The settings of options, one of which is given the value. -/
def attachedSettings (k : Key) (given : Given) (before after : List Occurrence) : List Setting :=
  before.map Occurrence.setting ++ .value k given :: after.map Occurrence.setting

section Attached

variable {level : Level} {k : Key} {before after : List Occurrence}

/-- An option with a text attached sets what is read of the text, or is at fault. -/
theorem settingsOf_attachedArgs {resolve : Event → Except Stop Setting} (hk : k ∈ level.keys)
    (hvalue : k.takesValue = true) (hbefore : ∀ o ∈ before, o.IsOf level)
    (hafter : ∀ o ∈ after, o.IsOf level)
    (hresolve : ∀ o : Occurrence, o.IsOf level → resolve o.event = .ok o.setting) {text : String}
    (hoption : resolve (.value k text) = resolveOption level (.value k text)) {rest : List String}
    {tokens : List (String × Token)} (hrest : classifyAll level rest = .ok tokens)
    {settings : List Setting}
    (hsettings : (events level.awaited tokens).mapM resolve = .ok settings) :
    settingsOf level resolve (attachedArgs k text before after ++ rest)
      = match Given.read text with
        | .ok given => .ok (attachedSettings k given before after ++ settings)
        | .error _ => .error (.misuse level (.invalidInteger k.longName text)) := by
  have hlabel : k.label = k.longName := by
    cases k with
    | help => cases hvalue
    | _ => rfl
  have htokens : classifyAll level ((k.longName ++ "=" ++ text)
        :: (after.flatMap Occurrence.args ++ rest))
      = .ok ((k.longName ++ "=" ++ text, .option k (some text))
          :: (after.flatMap Occurrence.tokens ++ tokens)) := by
    rw [classifyAll_attached hk, classifyAll_flatMap_args hafter, hrest]
    rfl
  have hlater := mapM_event hafter hresolve (events level.awaited tokens)
  rw [attachedArgs, List.append_assoc, List.cons_append,
    settingsOf_flatMap_args hbefore hresolve htokens, events, if_pos hvalue, List.mapM_cons,
    hoption, resolveOption_value, hlabel, events_flatMap_tokens hafter, hlater, hsettings]
  cases Given.read text with
  | error e => rfl
  | ok given => simp [attachedSettings, bind, Except.bind, Except.map, pure, Except.pure]

theorem lastValue?_attachedSettings (given : Given) (hafter : Occurrence.last? k after = none) :
    lastValue? k (attachedSettings k given before after) = some given := by
  have hlater : lastValue? k (after.map Occurrence.setting) = none := by
    rw [lastValue?_map_setting, hafter, Option.map_none]
  have hvalue : lastValue? k [.value k given] = some given := by
    simp [lastValue?, Setting.valueOf?]
  rw [attachedSettings, List.append_cons, lastValue?_append, hlater, lastValue?_append, hvalue]
  rfl

/-- The value of one option says nothing of another. -/
theorem lastValue?_attachedSettings_of_ne {k' : Key} (hk' : k' ≠ k) (given : Given) :
    lastValue? k' (attachedSettings k given before after)
      = (Occurrence.last? k' (before ++ after)).map .integer := by
  have hvalue : lastValue? k' [.value k given] = none := by
    simp [lastValue?, Setting.valueOf?, Ne.symm hk']
  rw [attachedSettings, List.append_cons, lastValue?_append, lastValue?_append, hvalue,
    ← lastValue?_map_setting, List.map_append, lastValue?_append]
  rfl

theorem flatMap_extras_attachedSettings (given : Given) :
    (attachedSettings k given before after).flatMap Setting.extras = [] := by
  simp [attachedSettings, flatMap_extras_map_setting, Setting.extras]

theorem findSome?_request?_attachedSettings (given : Given) :
    (attachedSettings k given before after).findSome? Setting.request? = none := by
  rw [attachedSettings, List.findSome?_append, findSome?_request?_map_setting,
    List.findSome?_cons, findSome?_request?_map_setting]
  rfl

end Attached

/-! ## Calls -/

/-- What is given for a field or for the subsidy. -/
def Draft.given? (d : Draft) : Key → Option Given
  | .field f => some (d.get f)
  | .subsidy => d.subsidy
  | _ => none

/-- What is given for an option. -/
def Invocation.given? (inv : Invocation) : Key → Option Given
  | .parameter k => inv.overrides k
  | k => match inv.request with
    | .derive d => d.given? k
    | _ => none

/-- The arguments of a derivation, with a text attached to one of its options. -/
def deriveAttachedArgs (k : Key) (text : String) (program before after : List Occurrence) :
    List String :=
  program.flatMap Occurrence.args ++ Command.derive.name :: attachedArgs k text before after

section Derivation

variable {k : Key} {program before after : List Occurrence}
  (hk : k ∈ (Level.command .derive).keys) (hvalue : k.takesValue = true)
  (hprogram : ∀ o ∈ program, o.IsOf .program)
  (hbefore : ∀ o ∈ before, o.IsOf (.command .derive))
  (hafter : ∀ o ∈ after, o.IsOf (.command .derive))

include hk hvalue hbefore hafter in
theorem isKnown_attachedArgs (text : String) :
    ∀ arg ∈ attachedArgs k text before after, IsKnown arg := by
  intro arg harg
  rcases List.mem_append.mp harg with harg | harg
  · exact isKnown_flatMap_args hbefore arg harg
  · rcases List.mem_cons.mp harg with rfl | harg
    · exact isKnown_attached hk hvalue text
    · exact isKnown_flatMap_args hafter arg harg

include hk hvalue hbefore hafter in
theorem settingsOf_derive_attachedArgs (text : String) :
    settingsOf (.command .derive) (resolve .derive) (attachedArgs k text before after)
      = match Given.read text with
        | .ok given => .ok (attachedSettings k given before after)
        | .error _ => .error (.misuse (.command .derive) (.invalidInteger k.longName text)) := by
  have hnone : classifyAll (.command .derive) [] = .ok [] := rfl
  have hempty : (events (Level.command .derive).awaited []).mapM (resolve .derive) = .ok [] := rfl
  have hoption : resolve .derive (.value k text)
      = resolveOption (.command .derive) (.value k text) := rfl
  have hsettings := settingsOf_attachedArgs hk hvalue hbefore hafter (fun _ => resolve_event)
    hoption hnone hempty
  simpa only [List.append_nil] using hsettings

include hk hvalue hprogram hbefore hafter in
/-- An option of a derivation is given what is read of the text that is attached to it. -/
theorem read_deriveAttachedArgs (hlast : Occurrence.last? k after = none)
    (hfields : ∀ f : Coordinate.Field, .field f ≠ k →
      Occurrence.occurs (.field f) (before ++ after))
    {text : String} {given : Given} (hread : Given.read text = .ok given) :
    ∃ inv, Invocation.read (deriveAttachedArgs k text program before after) = .ok inv
      ∧ inv.given? k = some given := by
  have hgiven : lastValue? k (attachedSettings k given before after) = some given :=
    lastValue?_attachedSettings given hlast
  have hall : ∀ f : Coordinate.Field,
      (lastValue? (.field f) (attachedSettings k given before after)).isSome = true := by
    intro f
    by_cases hf : .field f = k
    · rw [hf, hgiven]
      rfl
    · rw [lastValue?_attachedSettings_of_ne hf, Option.isSome_map, Occurrence.isSome_last?]
      exact hfields f hf
  obtain ⟨d, hd⟩ := exists_request_derive hall
  obtain ⟨hget, hsubsidy⟩ := lastValue?_of_request hd
  have hcommand : readCommand .derive (attachedArgs k text before after)
      = .ok (.request (.derive d) []) := by
    simp only [readCommand, settingsOf_derive_attachedArgs hk hvalue hbefore hafter, hread, bind,
      Except.bind, hd, flatMap_extras_attachedSettings]
  have hsettings := settingsOf_program hprogram
    (isKnown_attachedArgs hk hvalue hbefore hafter text)
  rw [hcommand] at hsettings
  refine ⟨_, read_of_settings hsettings (findSome?_request?_map_setting program)
    (flatMap_extras_map_setting program), ?_⟩
  cases k with
  | field f => exact (hget f).symm.trans hgiven
  | subsidy => exact hsubsidy.symm.trans hgiven
  | parameter k => exact absurd hk (by cases k <;> decide)
  | _ => cases hvalue

include hk hvalue hprogram hbefore hafter in
/-- A text that is no value is a misuse of the option that it is attached to. -/
theorem read_deriveAttachedArgs_error {text : String} {e : Numeral.Error}
    (hread : Given.read text = .error e) :
    Invocation.read (deriveAttachedArgs k text program before after)
      = .error (.misuse (.command .derive) (.invalidInteger k.longName text)) := by
  have hcommand : readCommand .derive (attachedArgs k text before after)
      = .error (.misuse (.command .derive) (.invalidInteger k.longName text)) := by
    simp only [readCommand, settingsOf_derive_attachedArgs hk hvalue hbefore hafter, hread, bind,
      Except.bind]
  have hsettings := settingsOf_program hprogram
    (isKnown_attachedArgs hk hvalue hbefore hafter text)
  rw [hcommand] at hsettings
  rw [Invocation.read, deriveAttachedArgs, hsettings]
  rfl

end Derivation

section Program

variable {k : Schedule.Parameter} {before after : List Occurrence}
  (hbefore : ∀ o ∈ before, o.IsOf .program) (hafter : ∀ o ∈ after, o.IsOf .program)
  {command : List String} {r : Request}
  (hcommand : settingsOf .program resolveProgram command = .ok [.request r []])

include hbefore hafter hcommand in
theorem settingsOf_program_attachedArgs (text : String) :
    settingsOf .program resolveProgram
        (attachedArgs (.parameter k) text before after ++ command)
      = match Given.read text with
        | .ok given => .ok (attachedSettings (.parameter k) given before after ++ [.request r []])
        | .error _ =>
          .error (.misuse .program (.invalidInteger (Key.parameter k).longName text)) := by
  have hkey : Key.parameter k ∈ Level.program.keys := by cases k <;> decide
  rw [settingsOf] at hcommand
  split at hcommand
  case h_1 tokens htokens =>
    exact settingsOf_attachedArgs hkey rfl hbefore hafter (fun _ => resolveProgram_event) rfl
      htokens hcommand
  case h_2 => cases hcommand

include hbefore hafter hcommand in
/-- An option of the program is given what is read of the text that is attached to it. -/
theorem read_attachedArgs (hlast : Occurrence.last? (.parameter k) after = none) {text : String}
    {given : Given} (hread : Given.read text = .ok given) :
    ∃ inv, Invocation.read (attachedArgs (.parameter k) text before after ++ command) = .ok inv
      ∧ inv.given? (.parameter k) = some given := by
  have hsettings := settingsOf_program_attachedArgs (k := k) hbefore hafter hcommand text
  rw [hread] at hsettings
  exact ⟨_, read_of_settings hsettings (findSome?_request?_attachedSettings given)
    (flatMap_extras_attachedSettings given), lastValue?_attachedSettings given hlast⟩

include hbefore hafter hcommand in
theorem read_attachedArgs_error {text : String} {e : Numeral.Error}
    (hread : Given.read text = .error e) :
    Invocation.read (attachedArgs (.parameter k) text before after ++ command)
      = .error (.misuse .program (.invalidInteger (Key.parameter k).longName text)) := by
  have hsettings := settingsOf_program_attachedArgs (k := k) hbefore hafter hcommand text
  rw [hread] at hsettings
  rw [Invocation.read, hsettings]
  rfl

end Program

/-! ## Attachments -/

/-- A call that attaches a text to one option, and what stands around it. -/
inductive Attachment
  /-- An option of the program, among other options and before a command with its arguments. -/
  | program (k : Schedule.Parameter) (before after : List Occurrence) (command : List String)
  /-- An option of a derivation, among other options and after leading options of the program. -/
  | derivation (k : Key) (leading before after : List Occurrence)

namespace Attachment

def key : Attachment → Key
  | program k _ _ _ => .parameter k
  | derivation k _ _ _ => k

def level : Attachment → Level
  | program _ _ _ _ => .program
  | derivation _ _ _ _ => .command .derive

/-- The arguments of the call with the text. -/
def args (text : String) : Attachment → List String
  | program k before after command => attachedArgs (.parameter k) text before after ++ command
  | derivation k leading before after => deriveAttachedArgs k text leading before after

/-- Nothing but the text can be wrong with the call: the other options are written out, none after
the text is for the same option, and what else the call needs is there. -/
def IsCall : Attachment → Prop
  | program k before after command =>
      (∀ o ∈ before, o.IsOf .program) ∧ (∀ o ∈ after, o.IsOf .program)
        ∧ Occurrence.last? (.parameter k) after = none
        ∧ ∃ r, settingsOf .program resolveProgram command = .ok [.request r []]
  | derivation k leading before after =>
      k ∈ (Level.command .derive).keys ∧ k.takesValue = true ∧ (∀ o ∈ leading, o.IsOf .program)
        ∧ (∀ o ∈ before, o.IsOf (.command .derive)) ∧ (∀ o ∈ after, o.IsOf (.command .derive))
        ∧ Occurrence.last? k after = none
        ∧ ∀ f : Coordinate.Field, .field f ≠ k → Occurrence.occurs (.field f) (before ++ after)

variable {a : Attachment} {text : String}

/-- The option is given what is read of the text. -/
theorem read_args (h : a.IsCall) {given : Given} (hread : Given.read text = .ok given) :
    ∃ inv, Invocation.read (a.args text) = .ok inv ∧ inv.given? a.key = some given := by
  cases a with
  | program k before after command =>
      obtain ⟨hbefore, hafter, hlast, r, hcommand⟩ := h
      exact read_attachedArgs hbefore hafter hcommand hlast hread
  | derivation k leading before after =>
      obtain ⟨hk, hvalue, hleading, hbefore, hafter, hlast, hfields⟩ := h
      exact read_deriveAttachedArgs hk hvalue hleading hbefore hafter hlast hfields hread

/-- If nothing can be read of the text, that is what is wrong with the call. -/
theorem read_args_error (h : a.IsCall) {e : Numeral.Error} (hread : Given.read text = .error e) :
    Invocation.read (a.args text)
      = .error (.misuse a.level (.invalidInteger a.key.longName text)) := by
  cases a with
  | program k before after command =>
      obtain ⟨hbefore, hafter, -, r, hcommand⟩ := h
      exact read_attachedArgs_error hbefore hafter hcommand hread
  | derivation k leading before after =>
      obtain ⟨hk, hvalue, hleading, hbefore, hafter, -⟩ := h
      exact read_deriveAttachedArgs_error hk hvalue hleading hbefore hafter hread

end Attachment

end SatRarity.CommandLine
