import SatRarity.Proofs.Ending

set_option autoImplicit false

/-! # What the environment and the overrides can influence

Only a derivation looks at the schedule. So a call that selects another command comes to the same in
every environment, and whatever integers replace the parameters, even if the call is a misuse: that
two lists of arguments differ in such integers only, `Revalued`, is kept by each of the three steps
of the program's level (what the arguments are, what they do, what they set):
`Revalued.alike_read`.

A derivation looks first at the schedule of the environment and then at the parameters that the
overrides make of it, and never again at either. Hence it is a function of the merged parameters,
and fails where the environment fails, or at the first merged parameter that is not positive.
`call_influences` says all of it.
-/

namespace SatRarity.CommandLine

/-! ## Arguments with other integers in them -/

/-- The text is read as an integer. -/
def IsInteger (text : String) : Prop := ∃ n, Text.Numeral.read text = .ok n

/-- The second arguments are the first with other integers for parameters: the integer that is
attached to the option of a parameter, or follows it, may be replaced by any other. From the first
operand on, which is the command, nothing is replaced. -/
inductive Revalued : List String → List String → Prop
  | refl (args : List String) : Revalued args args
  /-- An option stays as it is, and so does an argument that is unknown. -/
  | kept {arg : String} {token : Token} {args args' : List String}
    (h : classify .program arg = .ok token) (hoperand : token ≠ .operand)
    (hargs : Revalued args args') : Revalued (arg :: args) (arg :: args')
  | attached {k : Schedule.Parameter} {arg arg' text text' : String} {args args' : List String}
    (h : classify .program arg = .ok (.option (.parameter k) (some text)))
    (h' : classify .program arg' = .ok (.option (.parameter k) (some text')))
    (hinteger : IsInteger text) (hinteger' : IsInteger text') (hargs : Revalued args args') :
    Revalued (arg :: args) (arg' :: args')
  /-- A value that is no integer stays as it is. -/
  | following {k : Schedule.Parameter} {arg text text' : String} {args args' : List String}
    (h : classify .program arg = .ok (.option (.parameter k) none))
    (hoperand : classify .program text = .ok .operand)
    (hoperand' : classify .program text' = .ok .operand)
    (hinteger : text = text' ∨ (IsInteger text ∧ IsInteger text')) (hargs : Revalued args args') :
    Revalued (arg :: text :: args) (arg :: text' :: args')

/-- The events are the same, or they give a parameter two integers. -/
inductive Event.Revalued : Event → Event → Prop
  | refl (e : Event) : Revalued e e
  | value {k : Schedule.Parameter} {text text' : String} (h : IsInteger text)
    (h' : IsInteger text') : Revalued (.value (.parameter k) text) (.value (.parameter k) text')

instance : Std.Refl Event.Revalued := ⟨.refl⟩

/-- The settings are the same, or they give a parameter two integers. -/
inductive Setting.Revalued : Setting → Setting → Prop
  | refl (s : Setting) : Revalued s s
  | value (k : Schedule.Parameter) (n n' : Int) :
    Revalued (.value (.parameter k) (.integer n)) (.value (.parameter k) (.integer n'))

/-! ### What the arguments are, and what they do -/

/-- The first of the arguments is an operand. -/
def BeginsWithOperand (tokens : List (String × Token)) : Prop :=
  ∃ text rest, tokens = (text, .operand) :: rest

theorem ne_terminator_of_classify {arg : String} {token : Token}
    (h : classify .program arg = .ok token) : arg ≠ "--" := by
  rintro rfl
  have hambiguous : ∃ f, classify .program "--" = .error f := ⟨_, rfl⟩
  obtain ⟨f, hf⟩ := hambiguous
  cases h.symm.trans hf

theorem classifyAll_of_classify {arg : String} {token : Token}
    (h : classify .program arg = .ok token) (args : List String) :
    classifyAll .program (arg :: args)
      = (classifyAll .program args).map ((arg, token) :: ·) :=
  classifyAll_cons (ne_terminator_of_classify h) h args

/-- The classified arguments do alike: they are the same, or neither begin with an operand, and
their events differ in integers for parameters only. What they begin with is of importance to an
option that awaits its value before them. -/
structure DoAlike (tokens tokens' : List (String × Token)) : Prop where
  begins : tokens = tokens' ∨ (¬ BeginsWithOperand tokens ∧ ¬ BeginsWithOperand tokens')
  events : List.Forall₂ Event.Revalued (events .command tokens) (events .command tokens')

namespace DoAlike

variable {tokens tokens' : List (String × Token)}

theorem refl (tokens : List (String × Token)) : DoAlike tokens tokens :=
  ⟨Or.inl rfl, List.forall₂_refl _⟩

theorem events_of_missing {arg : String} {k : Key} (hvalue : k.takesValue = true)
    (hbegins : ¬ BeginsWithOperand tokens) :
    CommandLine.events .command ((arg, .option k none) :: tokens)
      = [.fault (.expectedArgument k)] := by
  rw [CommandLine.events, if_pos hvalue]
  rintro text rest rfl
  exact hbegins ⟨text, rest, rfl⟩

theorem events_of_flag (arg : String) {k : Key} (hvalue : k.takesValue = false)
    (tokens : List (String × Token)) :
    CommandLine.events .command ((arg, .option k none) :: tokens)
      = .flag k :: CommandLine.events .command tokens := by
  rw [CommandLine.events.eq_def]
  simp [hvalue]

/-- What is no operand does the same before arguments that do alike. -/
theorem kept (h : DoAlike tokens tokens') (arg : String) {token : Token}
    (hoperand : token ≠ .operand) (hterminator : token ≠ .terminator) :
    DoAlike ((arg, token) :: tokens) ((arg, token) :: tokens') where
  begins := by
    have hnot : ∀ tokens, ¬ BeginsWithOperand ((arg, token) :: tokens) := by
      rintro tokens ⟨text, rest, heq⟩
      exact hoperand (Prod.mk.inj (List.cons.inj heq).1).2
    exact Or.inr ⟨hnot tokens, hnot tokens'⟩
  events := by
    cases token with
    | operand => exact absurd rfl hoperand
    | terminator => exact absurd rfl hterminator
    | unknown =>
        rw [CommandLine.events, CommandLine.events]
        exact .cons (.refl _) h.events
    | letters attached =>
        rw [CommandLine.events, CommandLine.events]
        split
        · exact .cons (.refl _) h.events
        · exact List.forall₂_refl _
    | option k attached =>
        cases attached with
        | some text =>
            rw [CommandLine.events, CommandLine.events]
            split
            · exact .cons (.refl _) h.events
            · exact List.forall₂_refl _
        | none =>
            rcases h.begins with rfl | ⟨hbegins, hbegins'⟩
            · exact List.forall₂_refl _
            · cases hvalue : k.takesValue with
              | true =>
                  rw [events_of_missing hvalue hbegins, events_of_missing hvalue hbegins']
                  exact List.forall₂_refl _
              | false =>
                  rw [events_of_flag arg hvalue, events_of_flag arg hvalue]
                  exact .cons (.refl _) h.events

theorem attached (h : DoAlike tokens tokens') (k : Schedule.Parameter) (arg arg' : String)
    {text text' : String} (hinteger : IsInteger text) (hinteger' : IsInteger text') :
    DoAlike ((arg, .option (.parameter k) (some text)) :: tokens)
      ((arg', .option (.parameter k) (some text')) :: tokens') where
  begins := Or.inr ⟨by rintro ⟨_, _, ⟨⟩⟩, by rintro ⟨_, _, ⟨⟩⟩⟩
  events := by
    have hvalue : (Key.parameter k).takesValue = true := rfl
    rw [CommandLine.events, CommandLine.events, if_pos hvalue, if_pos hvalue]
    exact .cons (.value hinteger hinteger') h.events

theorem following (h : DoAlike tokens tokens') (k : Schedule.Parameter) (arg : String)
    {text text' : String} (hinteger : text = text' ∨ (IsInteger text ∧ IsInteger text')) :
    DoAlike ((arg, .option (.parameter k) none) :: (text, .operand) :: tokens)
      ((arg, .option (.parameter k) none) :: (text', .operand) :: tokens') where
  begins := Or.inr ⟨by rintro ⟨_, _, ⟨⟩⟩, by rintro ⟨_, _, ⟨⟩⟩⟩
  events := by
    have hvalue : (Key.parameter k).takesValue = true := rfl
    rw [CommandLine.events, CommandLine.events, if_pos hvalue, if_pos hvalue]
    rcases hinteger with rfl | ⟨hinteger, hinteger'⟩
    · exact .cons (.refl _) h.events
    · exact .cons (.value hinteger hinteger') h.events

end DoAlike

theorem ne_terminator_token {level : Level} {arg : String} {token : Token}
    (h : classify level arg = .ok token) : token ≠ .terminator := by
  rintro rfl
  cases fits_of_classify h

/-- Arguments that differ in integers for parameters do alike, unless some argument is at fault. -/
theorem Revalued.alike_classifyAll {args args' : List String} (h : Revalued args args') :
    Alike DoAlike (classifyAll .program args) (classifyAll .program args') := by
  induction h with
  | refl args => exact .refl DoAlike.refl _
  | kept h hoperand hargs ih =>
      rw [classifyAll_of_classify h, classifyAll_of_classify h]
      exact ih.map fun _ _ htokens => htokens.kept _ hoperand (ne_terminator_token h)
  | attached h h' hinteger hinteger' hargs ih =>
      rw [classifyAll_of_classify h, classifyAll_of_classify h']
      exact ih.map fun _ _ htokens => htokens.attached _ _ _ hinteger hinteger'
  | following h hoperand hoperand' hinteger hargs ih =>
      rw [classifyAll_of_classify h, classifyAll_of_classify h, classifyAll_of_classify hoperand,
        classifyAll_of_classify hoperand']
      rcases ih.cases with ⟨f, hx, hy⟩ | ⟨tokens, tokens', hx, hy, htokens⟩
      · rw [hx, hy]
        exact .error f
      · rw [hx, hy]
        exact .ok (htokens.following _ _ hinteger)

/-! ### What they set -/

theorem IsInteger.exists_read {text : String} (h : IsInteger text) :
    ∃ n, Given.read text = .ok (.integer n) := by
  obtain ⟨n, hn⟩ := h
  have hne : text ≠ "--" := by
    rintro rfl
    have herror : Text.Numeral.read "--" = .error .malformed := by decide
    cases hn.symm.trans herror
  exact ⟨n, by rw [Given.read, if_neg hne, hn]; rfl⟩

theorem alike_resolveProgram {e e' : Event} (h : e.Revalued e') :
    Alike Setting.Revalued (resolveProgram e) (resolveProgram e') := by
  cases h with
  | refl => exact .refl Setting.Revalued.refl _
  | @value k text text' h h' =>
      obtain ⟨n, hn⟩ := h.exists_read
      obtain ⟨n', hn'⟩ := h'.exists_read
      have hsetting : ∀ {text n}, Given.read text = .ok (.integer n) →
          resolveProgram (.value (.parameter k) text)
            = .ok (.value (.parameter k) (.integer n)) := by
        intro text n hread
        rw [resolveProgram, resolveOption_value, hread]
        simp
      rw [hsetting hn, hsetting hn']
      exact .ok (.value k n n')

theorem Revalued.alike_settingsOf {args args' : List String} (h : Revalued args args') :
    Alike (List.Forall₂ Setting.Revalued) (settingsOf .program resolveProgram args)
      (settingsOf .program resolveProgram args') := by
  rcases h.alike_classifyAll.cases with ⟨f, hx, hy⟩ | ⟨tokens, tokens', hx, hy, htokens⟩
  · rw [settingsOf, settingsOf, hx, hy]
    exact .error _
  · rw [settingsOf, settingsOf, hx, hy]
    exact Alike.mapM (R := Event.Revalued) (fun _ _ => alike_resolveProgram) htokens.events

/-- What does not look at the integers of parameters sees the same settings. -/
theorem map_eq_of_revalued {α : Type} {f : Setting → α}
    (hf : ∀ k n n',
      f (.value (.parameter k) (.integer n)) = f (.value (.parameter k) (.integer n')))
    {settings settings' : List Setting} (h : List.Forall₂ Setting.Revalued settings settings') :
    settings.map f = settings'.map f := by
  induction h with
  | nil => rfl
  | @cons s s' _ _ hs _ ih =>
      have hfs : f s = f s' := by
        cases hs with
        | refl => rfl
        | value k n n' => exact hf k n n'
      rw [List.map_cons, List.map_cons, hfs, ih]

/-- The invocations differ in what replaces parameters only. -/
def Invocation.SameRequest (inv inv' : Invocation) : Prop :=
  inv.verbose = inv'.verbose ∧ inv.request = inv'.request

theorem Revalued.alike_read {args args' : List String} (h : Revalued args args') :
    Alike Invocation.SameRequest (Invocation.read args) (Invocation.read args') := by
  unfold Invocation.read
  refine h.alike_settingsOf.bind fun settings settings' hsettings => ?_
  have hrequest : settings.findSome? Setting.request? = settings'.findSome? Setting.request? := by
    have hmap := map_eq_of_revalued (f := Setting.request?) (fun _ _ _ => rfl) hsettings
    have hfind := congrArg (List.findSome? id) hmap
    rwa [List.findSome?_map, List.findSome?_map] at hfind
  have hextras : settings.flatMap Setting.extras = settings'.flatMap Setting.extras := by
    have hmap := map_eq_of_revalued (f := Setting.extras) (fun _ _ _ => rfl) hsettings
    rw [List.flatMap_def, List.flatMap_def, hmap]
  have hverbose : settings.any (Setting.raises .verbose)
      = settings'.any (Setting.raises .verbose) := by
    have hmap := map_eq_of_revalued (f := Setting.raises .verbose) (fun _ _ _ => rfl) hsettings
    have hany := congrArg (List.any · id) hmap
    rwa [List.any_map, List.any_map] at hany
  rw [hrequest, hextras, hverbose]
  split
  · exact .error _
  · split
    · exact .ok ⟨rfl, rfl⟩
    · exact .error _

/-! ### Written-out integers -/

/-- The occurrences are the same, or they give a parameter two integers in the same way. -/
inductive Occurrence.Revalued : Occurrence → Occurrence → Prop
  | refl (o : Occurrence) : Revalued o o
  | value (k : Schedule.Parameter) (n n' : Int) (attached : Bool) :
    Revalued (.value (.parameter k) n attached) (.value (.parameter k) n' attached)

theorem isInteger_toString {n : Int} (hn : Text.WithinLimit n) : IsInteger (toString n) :=
  ⟨n, Text.Numeral.read_toString hn⟩

/-- An option that takes a value is an option of the program if it is that of a parameter. -/
theorem exists_parameter {k : Key} (hk : k ∈ Level.program.keys) (hvalue : k.takesValue = true) :
    ∃ parameter, k = .parameter parameter := by
  cases k with
  | parameter k => exact ⟨k, rfl⟩
  | help => cases hvalue
  | verbose => cases hvalue
  | field f => cases f <;> exact absurd hk (by decide)
  | subsidy => exact absurd hk (by decide)

theorem Occurrence.Revalued.args {o o' : Occurrence} (h : o.Revalued o') (ho : o.IsOf .program)
    (ho' : o'.IsOf .program) {rest rest' : List String} (hrest : CommandLine.Revalued rest rest') :
    CommandLine.Revalued (o.args ++ rest) (o'.args ++ rest') := by
  have hvalue : ∀ (k : Schedule.Parameter) (n n' : Int) (attached : Bool),
      Text.WithinLimit n → Text.WithinLimit n' →
      CommandLine.Revalued ((Occurrence.value (.parameter k) n attached).args ++ rest)
        ((Occurrence.value (.parameter k) n' attached).args ++ rest') := by
    intro k n n' attached hn hn'
    have hk : Key.parameter k ∈ Level.program.keys := by
      cases k <;> decide
    cases attached with
    | true =>
        exact .attached (classify_attached hk (toString n)) (classify_attached hk (toString n'))
          (isInteger_toString hn) (isInteger_toString hn') hrest
    | false =>
        exact .following (classify_longName hk) (classify_toString .program n)
          (classify_toString .program n')
          (Or.inr ⟨isInteger_toString hn, isInteger_toString hn'⟩) hrest
  cases h with
  | value k n n' attached => exact hvalue k n n' attached ho.2.2 ho'.2.2
  | refl =>
      cases o with
      | verbose => exact .kept (classify_longName (by decide)) (by simp) hrest
      | value k n attached =>
          obtain ⟨k, rfl⟩ := exists_parameter ho.1 ho.2.1
          exact hvalue k n n attached ho.2.2 ho.2.2

/-- Options of the program that are written out may be given any other integers. -/
theorem revalued_flatMap_args {os os' : List Occurrence}
    (h : List.Forall₂ Occurrence.Revalued os os') (hos : ∀ o ∈ os, o.IsOf .program)
    (hos' : ∀ o ∈ os', o.IsOf .program) (rest : List String) :
    Revalued (os.flatMap Occurrence.args ++ rest) (os'.flatMap Occurrence.args ++ rest) := by
  induction h with
  | nil => exact .refl rest
  | @cons o o' os os' ho _ ih =>
      rw [List.flatMap_cons, List.flatMap_cons, List.append_assoc, List.append_assoc]
      have hrest := ih (fun x hx => hos x (List.mem_cons_of_mem _ hx))
        fun x hx => hos' x (List.mem_cons_of_mem _ hx)
      exact ho.args (hos o List.mem_cons_self) (hos' o' List.mem_cons_self) hrest

/-! ## Calls that select another command -/

/-- The command that an event selects. -/
def Event.command? : Event → Option Command
  | operand text _ => Command.ofName? text
  | _ => none

/-- The command that the arguments select. -/
def selected? (args : List String) : Option Command :=
  match classifyAll .program args with
  | .ok tokens => (events .command tokens).findSome? Event.command?
  | .error _ => none

/-- What a command asks for is a request to that command. -/
theorem command_of_request {c : Command} {settings : List Setting} {r : Request}
    (h : c.request settings = .ok r) : r.command = c := by
  cases c with
  | tiers =>
      obtain rfl := Except.ok.inj h
      rfl
  | parse =>
      rw [Command.request] at h
      split at h <;> cases h
      rfl
  | code =>
      rw [Command.request] at h
      split at h <;> cases h
      rfl
  | derive =>
      rw [Command.request] at h
      split at h <;> cases h
      rfl

/-- An event sets a request only if it selects its command. -/
theorem request?_of_resolveProgram {e : Event} {s : Setting} (h : resolveProgram e = .ok s) :
    s.request?.map Request.command = e.command? := by
  have hoption : resolveProgram e = resolveOption .program e → s.request? = none := by
    intro he
    cases s with
    | request r extras =>
        exact absurd (he.symm.trans h) (resolveOption_ne_request .program e r extras)
    | _ => rfl
  cases e with
  | operand text following =>
      rw [resolveProgram] at h
      rw [Event.command?]
      cases hname : Command.ofName? text with
      | none =>
          rw [hname] at h
          cases h
      | some c =>
          rw [hname] at h
          obtain ⟨settings, r, -, hrequest, rfl⟩ := readCommand_eq_ok h
          exact congrArg some (command_of_request hrequest)
  | _ => exact congrArg (Option.map Request.command) (hoption rfl)

theorem findSome?_request? {es : List Event} {settings : List Setting}
    (h : es.mapM resolveProgram = .ok settings) :
    (settings.findSome? Setting.request?).map Request.command
      = es.findSome? Event.command? := by
  induction es generalizing settings with
  | nil =>
      obtain rfl := Except.ok.inj h
      rfl
  | cons e es ih =>
      obtain ⟨s, rest, hfirst, hrest, rfl⟩ := mapM_cons_eq_ok_iff.mp h
      rw [List.findSome?_cons, List.findSome?_cons, ← request?_of_resolveProgram hfirst, ← ih hrest]
      cases s.request? <;> rfl

/-- What the arguments ask for is a request to the command that they select. -/
theorem selected?_of_read {args : List String} {inv : Invocation}
    (h : Invocation.read args = .ok inv) : selected? args = some inv.request.command := by
  obtain ⟨settings, hsettings, h⟩ := bind_eq_ok_iff.mp h
  rw [settingsOf] at hsettings
  split at hsettings
  case h_2 => cases hsettings
  case h_1 tokens htokens =>
    have hcommand : (settings.findSome? Setting.request?).map Request.command = selected? args := by
      rw [selected?, htokens]
      exact findSome?_request? hsettings
    split at h
    case h_1 => cases h
    case h_2 request hrequest =>
      split at h
      case h_1 =>
        obtain rfl := Except.ok.inj h
        rw [← hcommand, hrequest]
        rfl
      case h_2 => cases h

/-- Only a derivation looks at the environment and at what replaces parameters. -/
theorem answer_eq_of_ne_derive {inv inv' : Invocation} (hrequest : inv.request = inv'.request)
    (hcommand : inv.request.command ≠ .derive) (env env' : Environment) :
    inv.answer env = inv'.answer env' := by
  rw [Invocation.answer, Invocation.answer, ← hrequest]
  cases hcase : inv.request with
  | derive d => exact absurd (by rw [hcase]; rfl) hcommand
  | _ => rfl

/-- Two environments, and two choices of integers for parameters, make no difference to a call that
does not select the derivation. -/
theorem call_eq_of_ne_derive (env env' : Environment) {args args' : List String}
    (hselected : selected? args ≠ some .derive) (h : Revalued args args') :
    call env args = call env' args' := by
  rcases h.alike_read.cases with
    ⟨stop, hargs, hargs'⟩ | ⟨inv, inv', hargs, hargs', hverbose, hrequest⟩
  · rw [call, call, run, run, hargs, hargs']
    cases stop <;> rfl
  · have hcommand : inv.request.command ≠ .derive := by
      intro hderive
      rw [selected?_of_read hargs, hderive] at hselected
      exact hselected rfl
    rw [call, call, run, run, hargs, hargs']
    simp only [answer_eq_of_ne_derive hrequest hcommand env env', hverbose, hrequest]

/-! ## Derivations -/

/-- What is given to replace parameters, where that is integers. -/
def Overrides.ofIntegers (o : Schedule.Parameter → Option Int) : Overrides :=
  fun k => (o k).map .integer

/-- The parameters of a schedule, each replaced by the integer that is given for it, if one is. -/
def merged (base : Schedule) (o : Schedule.Parameter → Option Int) : Schedule.Parameters :=
  .ofFun fun k => (o k).getD (base.parameters.get k)

theorem apply_ofIntegers (base : Schedule) (o : Schedule.Parameter → Option Int) :
    (Overrides.ofIntegers o).apply base.parameters = merged base o := by
  rw [Overrides.apply, merged]
  congr 1
  funext k
  rw [Overrides.ofIntegers]
  cases o k <;> rfl

/-- A check of integers is never broken off. -/
theorem ofCheck_ofIntegers (o : Schedule.Parameter → Option Int) (k : Schedule.Parameter)
    (c : Comparison) (reason : Rejection) :
    Failure.ofCheck (Overrides.ofIntegers o k) c reason = .rejected reason := by
  rw [Overrides.ofIntegers]
  cases o k <;> rfl

/-- The schedule that counts is that of the merged parameters. -/
theorem mergedSchedule_ofIntegers {env : Environment} {base : Schedule}
    (henv : Schedule.ofEnvironment env = .ok base) (o : Schedule.Parameter → Option Int) :
    mergedSchedule env (.ofIntegers o)
      = (Schedule.ofParameters (merged base o)).mapError fun e => .rejected (.schedule e) := by
  rw [mergedSchedule, henv]
  simp only [apply_ofIntegers, ofCheck_ofIntegers]
  cases Schedule.ofParameters (merged base o) with
  | ok s => rfl
  | error e => cases e <;> rfl

/-- The arguments ask for the derivation of a draft and replace parameters by integers. -/
def AsksToDerive (args : List String) (verbose : Bool) (o : Schedule.Parameter → Option Int)
    (d : Draft) : Prop :=
  Invocation.read args = .ok { verbose, overrides := .ofIntegers o, request := .derive d }

/-- Options that are written out ask for the derivation of the integers in them. -/
theorem asksToDerive_deriveArgs {program options : List Occurrence}
    (hprogram : ∀ o ∈ program, o.IsOf .program)
    (hoptions : ∀ o ∈ options, o.IsOf (.command .derive)) {c : Coordinate}
    (hfields : ∀ f, Occurrence.last? (.field f) options = some (c.get f)) :
    AsksToDerive (deriveArgs program options) (program.contains .verbose)
      (fun k => Occurrence.last? (.parameter k) program)
      (.ofCoordinate c (Occurrence.last? .subsidy options)) :=
  read_derive hprogram hoptions hfields

namespace AsksToDerive

variable {env env' : Environment} {args args' : List String} {verbose : Bool}
  {o o' : Schedule.Parameter → Option Int} {d : Draft} {base base' : Schedule}

theorem rejects (h : AsksToDerive args verbose o d) (reason : Rejection)
    (hmerged : mergedSchedule env (.ofIntegers o) = .error (.rejected reason)) :
    (call env args).Rejects reason.message := by
  have hanswer : Invocation.answer env ⟨verbose, .ofIntegers o, .derive d⟩
      = .error (.rejected reason) := by
    simp only [Invocation.answer, deriveUnder, hmerged]
    rfl
  rw [call_of_rejected h hanswer]
  exact rejects_transcript reason

/-- Once the schedule is made, nothing but that schedule is looked at. -/
theorem call_eq (h : AsksToDerive args verbose o d) (h' : AsksToDerive args' verbose o' d)
    (hmerged : mergedSchedule env (.ofIntegers o) = mergedSchedule env' (.ofIntegers o')) :
    call env args = call env' args' := by
  have hanswer : Invocation.answer env ⟨verbose, .ofIntegers o, .derive d⟩
      = Invocation.answer env' ⟨verbose, .ofIntegers o', .derive d⟩ := by
    simp only [Invocation.answer, deriveUnder, hmerged]
  rw [AsksToDerive] at h h'
  rw [call, call, run, run, h, h']
  simp only [hanswer, Request.command]

theorem rejects_of_environment (h : AsksToDerive args verbose o d) {e : Schedule.Error}
    (henv : Schedule.ofEnvironment env = .error e) : (call env args).Rejects e.message :=
  h.rejects (.schedule e) (by rw [mergedSchedule, henv])

theorem rejects_of_merged (h : AsksToDerive args verbose o d)
    (henv : Schedule.ofEnvironment env = .ok base) {k : Schedule.Parameter}
    (hk : (merged base o).firstNotPositive? = some k) :
    (call env args).Rejects (k.name ++ " must be positive.") := by
  have hmerged := mergedSchedule_ofIntegers henv o
  rw [Schedule.ofParameters_of_not_pos hk] at hmerged
  exact h.rejects (.schedule (.notPositive k)) hmerged

theorem exists_schedule (henv : Schedule.ofEnvironment env = .ok base)
    (hpos : (merged base o).firstNotPositive? = none) :
    ∃ s : Schedule, s.parameters = merged base o ∧ mergedSchedule env (.ofIntegers o) = .ok s := by
  obtain ⟨s, hs⟩ :=
    Schedule.exists_ofParameters (Schedule.Parameters.firstNotPositive?_eq_none_iff.mp hpos)
  refine ⟨s, Schedule.ofParameters_eq_ok_iff.mp hs, ?_⟩
  rw [mergedSchedule_ofIntegers henv, hs]
  rfl

theorem call_eq_of_merged (h : AsksToDerive args verbose o d)
    (h' : AsksToDerive args' verbose o' d) (henv : Schedule.ofEnvironment env = .ok base)
    (henv' : Schedule.ofEnvironment env' = .ok base') (hmerged : merged base o = merged base' o') :
    call env args = call env' args' :=
  h.call_eq h' (by rw [mergedSchedule_ofIntegers henv, mergedSchedule_ofIntegers henv', hmerged])

end AsksToDerive

/-- What decides about a call for the derivation of a draft. -/
structure DecidedByMerged (env : Environment) (args : List String) (verbose : Bool)
    (o : Schedule.Parameter → Option Int) (d : Draft) : Prop where
  /-- Without a schedule of the environment, its error is what the call fails with. -/
  environment : ∀ e, Schedule.ofEnvironment env = .error e → (call env args).Rejects e.message
  /-- The first merged parameter that is not positive is what the call fails with. -/
  notPositive : ∀ base k, Schedule.ofEnvironment env = .ok base →
    (merged base o).firstNotPositive? = some k →
    (call env args).Rejects (k.name ++ " must be positive.")
  /-- Positive merged parameters are those of the schedule that counts. -/
  positive : ∀ base, Schedule.ofEnvironment env = .ok base →
    (merged base o).firstNotPositive? = none →
    ∃ s : Schedule, s.parameters = merged base o ∧ mergedSchedule env (.ofIntegers o) = .ok s
  /-- Nothing but the merged parameters makes a difference. -/
  same : ∀ base env' base' args' o', Schedule.ofEnvironment env = .ok base →
    Schedule.ofEnvironment env' = .ok base' → AsksToDerive args' verbose o' d →
    merged base o = merged base' o' → call env args = call env' args'

/-- The environment, and integers that replace parameters, make no difference to a call that does
not select the derivation. A derivation fails where the environment makes no schedule; otherwise it
is decided by the merged parameters. -/
theorem call_influences :
    (∀ (env env' : Environment) (args args' : List String), selected? args ≠ some .derive →
        Revalued args args' → call env args = call env' args')
      ∧ ∀ (env : Environment) (args : List String) (verbose : Bool)
          (o : Schedule.Parameter → Option Int) (d : Draft), AsksToDerive args verbose o d →
          DecidedByMerged env args verbose o d := by
  constructor
  · intro env env' args args' hselected hrevalued
    exact call_eq_of_ne_derive env env' hselected hrevalued
  · intro env args verbose o d h
    exact {
      environment := fun e henv => h.rejects_of_environment henv
      notPositive := fun base k henv hk => h.rejects_of_merged henv hk
      positive := fun base henv hpos => AsksToDerive.exists_schedule henv hpos
      same := fun base env' base' args' o' henv henv' h' hmerged =>
        h.call_eq_of_merged h' henv henv' hmerged }

/-- The options that give zero for every field. -/
def zeroOptions : List Occurrence := Coordinate.Field.all.map fun f => .value (.field f) 0 false

/-- A variable that is no integer matters to a derivation only, and there more than an override; an
override of zero is one, and an override of a length is as good as a variable. -/
theorem call_influences_halving_interval :
    call (fun _ => some "many") ["--verbose", "--halving-interval", "0", "parse", "rare"]
        = call (fun _ => none) ["--verbose", "--halving-interval", "-7", "parse", "rare"]
      ∧ (call (fun _ => some "many")
          (deriveArgs [.value (.parameter .halvingInterval) 0 false] zeroOptions)).Rejects
            "RARITY_HALVING_INTERVAL must be an integer, got 'many'."
      ∧ (call (fun _ => none)
          (deriveArgs [.value (.parameter .halvingInterval) 0 false] zeroOptions)).Rejects
            "halving_interval must be positive."
      ∧ (∃ s : Schedule, s.parameters = ⟨150, 2016, 5000000000⟩
          ∧ mergedSchedule (fun _ => none)
              (Occurrence.overrides [.value (.parameter .halvingInterval) 150 true]) = .ok s)
      ∧ call (fun name => if name = "RARITY_HALVING_INTERVAL" then some "150" else none)
            (deriveArgs [] zeroOptions)
          = call (fun _ => none)
            (deriveArgs [.value (.parameter .halvingInterval) 150 true] zeroOptions) := by
  obtain ⟨hother, hderive⟩ := call_influences
  have hoptions : ∀ o ∈ zeroOptions, o.IsOf (.command .derive) := by decide
  have hfields : ∀ f, Occurrence.last? (.field f) zeroOptions
      = some (Coordinate.get ⟨0, 0, 0, 0⟩ f) := by
    intro f
    cases f <;> rfl
  have hasks : ∀ program : List Occurrence, (∀ o ∈ program, o.IsOf .program) →
      AsksToDerive (deriveArgs program zeroOptions) (program.contains .verbose)
        (fun k => Occurrence.last? (.parameter k) program) (.ofCoordinate ⟨0, 0, 0, 0⟩ none) :=
    fun program h => asksToDerive_deriveArgs h hoptions hfields
  have hzero := hasks [.value (.parameter .halvingInterval) 0 false] (by decide)
  have hlength := hasks [.value (.parameter .halvingInterval) 150 true] (by decide)
  refine ⟨?_, ?_, ?_, ?_, ?_⟩
  · have hrevalued := revalued_flatMap_args
      (.cons (.refl .verbose) (.cons (.value .halvingInterval 0 (-7) false) .nil))
      (by decide) (by decide) ["parse", "rare"]
    have hargs : ["--verbose", "--halving-interval", "0", "parse", "rare"]
        = [.verbose, .value (.parameter .halvingInterval) 0 false].flatMap Occurrence.args
          ++ ["parse", "rare"] := by decide
    have hargs' : ["--verbose", "--halving-interval", "-7", "parse", "rare"]
        = [.verbose, .value (.parameter .halvingInterval) (-7) false].flatMap Occurrence.args
          ++ ["parse", "rare"] := by decide
    rw [hargs, hargs']
    exact hother _ _ _ _ (by decide) hrevalued
  · have hmessage : (Schedule.Error.notInteger .halvingInterval "many").message
        = "RARITY_HALVING_INTERVAL must be an integer, got 'many'." := by decide +kernel
    rw [← hmessage]
    have hvariable : Schedule.ofEnvironment (fun _ => some "many")
        = .error (.notInteger .halvingInterval "many") := by decide +kernel
    exact (hderive _ _ _ _ _ hzero).environment _ hvariable
  · have hmessage : Schedule.Parameter.halvingInterval.name ++ " must be positive."
        = "halving_interval must be positive." := by decide
    rw [← hmessage]
    exact (hderive _ _ _ _ _ hzero).notPositive .standard .halvingInterval rfl (by decide)
  · exact (hderive _ _ _ _ _ hlength).positive .standard rfl (by decide)
  · have hvariable : Schedule.ofEnvironment
        (fun name => if name = "RARITY_HALVING_INTERVAL" then some "150" else none)
          = .ok ⟨150, 2016, 5000000000, by decide, by decide, by decide⟩ := by decide
    exact ((hderive _ _ _ _ _ hlength).same .standard _ _ _ _ rfl hvariable (hasks [] (by decide))
      (by decide)).symm

end SatRarity.CommandLine
