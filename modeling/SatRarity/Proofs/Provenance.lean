import SatRarity.CommandLine.Invocation
import SatRarity.Proofs.Decimal
import SatRarity.Proofs.Fallible

set_option autoImplicit false

/-! # Where settings come from

What the arguments of a level do and set is traced back to single arguments. Each of the three
steps of a level (what the arguments are, what they do, what they set) has an inversion lemma:
`classifyAll_cons_eq_ok`, `comesFrom_of_mem_events` and `exists_event_of_mem_settings`. Two things
are traced to the end with them. What an option holds was read from a text, `comesFrom_of_read`: an
integer keeps to the limit of numerals, and only an argument that attaches the terminator gives an
option an empty list, `exists_attachesTerminator`. And only an argument that asks for help ends the
reading with help, `exists_asksForHelp`.
-/

namespace SatRarity.CommandLine

open Text

/-! ## What an argument is -/

/-- What an argument before the terminator can be, by its text. -/
inductive Token.Fits (arg : String) : Token → Prop
  | operand : Fits arg .operand
  | unknown : Fits arg .unknown
  | letter {attached : Option String} (hletter : ['-', 'h'] <+: arg.toList)
    (hattached : attached ≠ some "--") : Fits arg (.option .help attached)
  | letters {attached : List Char} (hletter : ['-', 'h'] <+: arg.toList) :
    Fits arg (.letters attached)
  /-- The text before the equals sign is the name of the option, or a beginning of it. -/
  | long {k : Key} {attached : Option String} (hdashes : ['-', '-'] <+: arg.toList)
    (hname : (splitEquals arg.toList).1 <+: k.longName.toList)
    (hattached : (splitEquals arg.toList).2.map String.ofList = attached) :
    Fits arg (.option k attached)

theorem fits_classifyStray (arg : String) (body : List Char) : (classifyStray body).Fits arg := by
  unfold classifyStray
  split
  · exact .operand
  · exact .unknown

theorem fits_of_classifyLong {level : Level} {arg : String} {token : Token}
    (hdashes : ['-', '-'] <+: arg.toList) (h : classifyLong level arg = .ok token) :
    token.Fits arg := by
  rcases hsplit : splitEquals arg.toList with ⟨stem, text⟩
  rw [classifyLong, hsplit] at h
  dsimp only at h
  split at h
  case h_1 k hfind =>
    obtain rfl := Except.ok.inj h
    have hname := List.find?_some hfind
    rw [beq_iff_eq] at hname
    exact .long hdashes (by simp [hsplit, hname]) (by rw [hsplit])
  case h_2 =>
    split at h
    case h_1 =>
      obtain rfl := Except.ok.inj h
      exact fits_classifyStray arg _
    case h_2 k hfilter =>
      obtain rfl := Except.ok.inj h
      have hmem : k ∈ level.keys.filter fun k => stem.isPrefixOf k.longName.toList := by
        rw [hfilter]
        exact List.mem_singleton_self k
      have hname := List.isPrefixOf_iff_prefix.mp (List.mem_filter.mp hmem).2
      exact .long hdashes (by rw [hsplit]; exact hname) (by rw [hsplit])
    case h_3 => cases h

theorem fits_of_classify {level : Level} {arg : String} {token : Token}
    (h : classify level arg = .ok token) : token.Fits arg := by
  unfold classify at h
  split at h
  case h_1 harg =>
    obtain rfl := Except.ok.inj h
    exact .letter (by simp [harg]) (by simp)
  case h_2 harg =>
    obtain rfl := Except.ok.inj h
    exact .letter (by simp [harg]) (by simp)
  case h_3 harg =>
    obtain rfl := Except.ok.inj h
    exact .letters (by simp [harg])
  case h_4 harg =>
    obtain rfl := Except.ok.inj h
    exact .letters (by simp [harg])
  case h_5 harg => exact fits_of_classifyLong (by simp [harg]) h
  case h_6 =>
    obtain rfl := Except.ok.inj h
    exact fits_classifyStray arg _
  case h_7 =>
    obtain rfl := Except.ok.inj h
    exact .operand

/-- What stands behind the first equals sign of the argument is the terminator. -/
def AttachesTerminator (arg : String) : Prop := (splitEquals arg.toList).2 = some ['-', '-']

theorem Token.Fits.attachesTerminator {arg : String} {k : Key}
    (h : (Token.option k (some "--")).Fits arg) : AttachesTerminator arg := by
  cases h with
  | letter _ hattached => exact absurd rfl hattached
  | long _ _ hattached =>
      obtain ⟨text, htext, hterminator⟩ := Option.map_eq_some_iff.mp hattached
      rw [AttachesTerminator, htext, ← String.toList_ofList (l := text), hterminator]
      rfl

/-- The argument begins with the letter of help, or it is the name of help or a beginning of it that
has more than the two dashes. -/
def AsksForHelp (arg : String) : Prop :=
  ['-', 'h'] <+: arg.toList ∨ (['-', '-', 'h'] <+: arg.toList ∧ arg.toList <+: "--help".toList)

/-- Without an equals sign all of the text stands before it. -/
theorem splitEquals_fst_of_snd_eq_none {t : List Char} (h : (splitEquals t).2 = none) :
    (splitEquals t).1 = t := by
  have hdrop : t.dropWhile (· != '=') = [] := by
    unfold splitEquals at h
    split at h
    · assumption
    · cases h
  have happend := List.takeWhile_append_dropWhile (p := (· != '=')) (l := t)
  rw [hdrop, List.append_nil] at happend
  exact happend

theorem Token.Fits.asksForHelp {arg : String} (h : (Token.option .help none).Fits arg)
    (hne : arg ≠ "--") : AsksForHelp arg := by
  cases h with
  | letter hletter => exact Or.inl hletter
  | long hdashes hname hattached =>
      rw [splitEquals_fst_of_snd_eq_none (Option.map_eq_none_iff.mp hattached)] at hname
      obtain ⟨rest, hrest⟩ := hdashes
      cases rest with
      | nil => exact absurd (String.toList_inj.mp hrest.symm) hne
      | cons c rest =>
          -- the character after the dashes is that of the name
          have hc : c = 'h' := by
            rw [← hrest] at hname
            exact (List.cons_prefix_cons.mp (List.cons_prefix_cons.mp (List.cons_prefix_cons.mp
              hname).2).2).1
          subst hc
          exact Or.inr ⟨⟨rest, hrest⟩, hname⟩

/-! ## What the arguments are -/

/-- The first argument is the terminator, or it is classified on its own, before the rest. -/
theorem classifyAll_cons_eq_ok {level : Level} {arg : String} {rest : List String}
    {tokens : List (String × Token)} (h : classifyAll level (arg :: rest) = .ok tokens) :
    (arg = "--" ∧ tokens = (arg, .terminator) :: rest.map fun arg => (arg, .operand))
      ∨ (arg ≠ "--" ∧ ∃ token tokens', classify level arg = .ok token
        ∧ classifyAll level rest = .ok tokens' ∧ tokens = (arg, token) :: tokens') := by
  rw [classifyAll] at h
  by_cases harg : arg = "--"
  · rw [if_pos harg] at h
    exact Or.inl ⟨harg, (Except.ok.inj h).symm⟩
  · rw [if_neg harg] at h
    obtain ⟨token, htoken, h⟩ := bind_eq_ok_iff.mp h
    obtain ⟨tokens', htokens, h⟩ := bind_eq_ok_iff.mp h
    exact Or.inr ⟨harg, token, tokens', htoken, htokens, (Except.ok.inj h).symm⟩

theorem map_fst_of_classifyAll {level : Level} {args : List String}
    {tokens : List (String × Token)} (h : classifyAll level args = .ok tokens) :
    tokens.map Prod.fst = args := by
  induction args generalizing tokens with
  | nil =>
      obtain rfl := Except.ok.inj h
      rfl
  | cons arg rest ih =>
      rcases classifyAll_cons_eq_ok h with ⟨-, rfl⟩ | ⟨-, token, tokens', -, hrest, rfl⟩
      · simp [Function.comp_def]
      · rw [List.map_cons, ih hrest]

/-- An argument that is an option or letters of one was classified as that. -/
theorem classify_of_mem {level : Level} {args : List String} {tokens : List (String × Token)}
    (h : classifyAll level args = .ok tokens) {arg : String} {token : Token}
    (hmem : (arg, token) ∈ tokens) (hoperand : token ≠ .operand)
    (hterminator : token ≠ .terminator) : arg ≠ "--" ∧ classify level arg = .ok token := by
  induction args generalizing tokens with
  | nil =>
      obtain rfl := Except.ok.inj h
      cases hmem
  | cons first rest ih =>
      rcases classifyAll_cons_eq_ok h with ⟨-, rfl⟩ | ⟨hne, token', tokens', hfirst, hrest, rfl⟩
      · rcases List.mem_cons.mp hmem with heq | hmem
        · exact absurd (Prod.mk.inj heq).2 hterminator
        · obtain ⟨arg', -, heq⟩ := List.mem_map.mp hmem
          exact absurd (Prod.mk.inj heq).2.symm hoperand
      · rcases List.mem_cons.mp hmem with heq | hmem
        · obtain ⟨rfl, rfl⟩ := Prod.mk.inj heq
          exact ⟨hne, hfirst⟩
        · exact ih hrest hmem

/-- The operand next to an option is not the terminator. -/
theorem ne_terminator_of_next {level : Level} {args : List String}
    {tokens earlier later : List (String × Token)} (h : classifyAll level args = .ok tokens)
    {arg text : String} {k : Key}
    (hnext : tokens = earlier ++ (arg, .option k none) :: (text, .operand) :: later) :
    text ≠ "--" := by
  induction args generalizing tokens earlier with
  | nil =>
      obtain rfl := Except.ok.inj h
      simp at hnext
  | cons first rest ih =>
      rcases classifyAll_cons_eq_ok h with ⟨-, rfl⟩ | ⟨-, token, tokens', -, hrest, rfl⟩
      · -- behind the terminator there are operands only
        have hmem : (arg, Token.option k none)
            ∈ (first, Token.terminator) :: rest.map fun arg => (arg, Token.operand) := by
          rw [hnext]
          simp
        simp at hmem
      · cases earlier with
        | nil =>
            -- the operand comes first in the rest, where the terminator would be none
            obtain ⟨-, htokens⟩ := List.cons.inj hnext
            cases rest with
            | nil =>
                obtain rfl := Except.ok.inj hrest
                cases htokens
            | cons second rest =>
                rcases classifyAll_cons_eq_ok hrest with ⟨-, rfl⟩ | ⟨hne, token', _, -, -, rfl⟩
                · cases htokens
                · obtain ⟨heq, -⟩ := List.cons.inj htokens
                  obtain ⟨rfl, -⟩ := Prod.mk.inj heq
                  exact hne
        | cons first' earlier =>
            obtain ⟨-, htokens⟩ := List.cons.inj hnext
            exact ih hrest htokens

/-! ## What the arguments do -/

/-- The classified arguments that an event comes from. -/
inductive Event.ComesFrom (tokens : List (String × Token)) : Event → Prop
  | flag {arg : String} {k : Key} (h : (arg, .option k none) ∈ tokens) : ComesFrom tokens (.flag k)
  /-- The letter of help, which may be repeated. -/
  | letters {arg : String} {attached : List Char} (h : (arg, .letters attached) ∈ tokens) :
    ComesFrom tokens (.flag .help)
  | attached {arg text : String} {k : Key} (h : (arg, .option k (some text)) ∈ tokens) :
    ComesFrom tokens (.value k text)
  | next {arg text : String} {k : Key} (earlier later : List (String × Token))
    (h : tokens = earlier ++ (arg, .option k none) :: (text, .operand) :: later) :
    ComesFrom tokens (.value k text)
  | operand {text : String} {following : List String}
    (h : ∀ arg ∈ following, arg ∈ tokens.map Prod.fst) : ComesFrom tokens (.operand text following)
  | extra (text : String) : ComesFrom tokens (.extra text)
  | fault (f : Fault) : ComesFrom tokens (.fault f)

theorem Event.ComesFrom.cons {tokens : List (String × Token)} {e : Event}
    (h : e.ComesFrom tokens) (token : String × Token) : e.ComesFrom (token :: tokens) := by
  cases h with
  | flag h => exact .flag (List.mem_cons_of_mem _ h)
  | letters h => exact .letters (List.mem_cons_of_mem _ h)
  | attached h => exact .attached (List.mem_cons_of_mem _ h)
  | next earlier later h => exact .next (token :: earlier) later (by rw [h, List.cons_append])
  | operand h => exact .operand fun arg harg => List.mem_cons_of_mem _ (h arg harg)
  | extra text => exact .extra text
  | fault f => exact .fault f

/-- An event is what the first argument does, or comes from the others. -/
theorem comesFrom_of_mem_cons {token : String × Token} {rest : List (String × Token)}
    {e first : Event} {others : List Event} (h : e ∈ first :: others)
    (hfirst : first.ComesFrom (token :: rest)) (hothers : e ∈ others → e.ComesFrom rest) :
    e.ComesFrom (token :: rest) := by
  rcases List.mem_cons.mp h with rfl | h
  · exact hfirst
  · exact (hothers h).cons token

theorem comesFrom_of_mem_events {a : Awaited} {tokens : List (String × Token)} {e : Event}
    (h : e ∈ events a tokens) : e.ComesFrom tokens := by
  fun_induction events a tokens with
  | case1 => cases h
  -- arguments that fit no option, and the letters of help
  | case2 a arg rest ih => exact comesFrom_of_mem_cons h (.extra arg) ih
  | case3 a arg attached rest hletters ih =>
      exact comesFrom_of_mem_cons h (.letters List.mem_cons_self) ih
  | case4 =>
      obtain rfl := List.mem_singleton.mp h
      exact .fault _
  -- options with a value attached, and options without
  | case5 a arg k text rest hvalue ih =>
      exact comesFrom_of_mem_cons h (.attached List.mem_cons_self) ih
  | case6 =>
      obtain rfl := List.mem_singleton.mp h
      exact .fault _
  | case7 a arg k hvalue text rest ih =>
      exact comesFrom_of_mem_cons h (.next [] rest rfl) fun h => (ih h).cons _
  | case8 =>
      obtain rfl := List.mem_singleton.mp h
      exact .fault _
  | case9 a arg k rest hvalue ih =>
      exact comesFrom_of_mem_cons h (.flag List.mem_cons_self) ih
  -- the command, with all that follows
  | case10 arg rest =>
      obtain rfl := List.mem_singleton.mp h
      exact .operand fun arg harg => List.mem_cons_of_mem _ harg
  | case11 arg next rest =>
      obtain rfl := List.mem_singleton.mp h
      exact .operand fun arg harg => List.mem_cons_of_mem _ harg
  -- the operand of a command, and what is left over
  | case12 arg arg' rest ih =>
      exact comesFrom_of_mem_cons h (.operand (by simp)) fun h => (ih h).cons _
  | case13 arg rest hrest ih => exact comesFrom_of_mem_cons h (.operand (by simp)) ih
  | case14 arg next rest ih =>
      exact comesFrom_of_mem_cons h (.operand (by simp)) fun h => (ih h).cons _
  | case15 a arg rest _ _ _ ih => exact comesFrom_of_mem_cons h (.extra arg) ih
  | case16 a arg rest _ _ ih => exact comesFrom_of_mem_cons h (.extra arg) ih

/-- An option is given the terminator only where an argument attaches it. -/
theorem exists_attachesTerminator_of_event {level : Level} {args : List String}
    {tokens : List (String × Token)} (h : classifyAll level args = .ok tokens) {a : Awaited}
    {k : Key} (hevent : .value k "--" ∈ events a tokens) :
    ∃ arg ∈ args, AttachesTerminator arg := by
  cases comesFrom_of_mem_events hevent with
  | @attached arg _ _ hmem =>
      obtain ⟨-, hclassify⟩ := classify_of_mem h hmem (by simp) (by simp)
      rw [← map_fst_of_classifyAll h]
      exact ⟨arg, List.mem_map_of_mem hmem, (fits_of_classify hclassify).attachesTerminator⟩
  | next _ _ hnext => exact absurd rfl (ne_terminator_of_next h hnext)

theorem exists_asksForHelp_of_event {level : Level} {args : List String}
    {tokens : List (String × Token)} (h : classifyAll level args = .ok tokens) {a : Awaited}
    (hevent : .flag .help ∈ events a tokens) : ∃ arg ∈ args, AsksForHelp arg := by
  rw [← map_fst_of_classifyAll h]
  cases comesFrom_of_mem_events hevent with
  | @flag arg _ hmem =>
      obtain ⟨hne, hclassify⟩ := classify_of_mem h hmem (by simp) (by simp)
      exact ⟨arg, List.mem_map_of_mem hmem, (fits_of_classify hclassify).asksForHelp hne⟩
  | @letters arg _ hmem =>
      obtain ⟨-, hclassify⟩ := classify_of_mem h hmem (by simp) (by simp)
      cases fits_of_classify hclassify with
      | letters hletter => exact ⟨arg, List.mem_map_of_mem hmem, Or.inl hletter⟩

/-- What an operand takes along is arguments of the level. -/
theorem mem_of_mem_following {level : Level} {args : List String} {tokens : List (String × Token)}
    (h : classifyAll level args = .ok tokens) {a : Awaited} {text : String}
    {following : List String} (hevent : .operand text following ∈ events a tokens) {arg : String}
    (harg : arg ∈ following) : arg ∈ args := by
  rw [← map_fst_of_classifyAll h]
  cases comesFrom_of_mem_events hevent with
  | operand hfollowing => exact hfollowing arg harg

/-! ## What the arguments set -/

section Settings

variable {level : Level} {resolve : Event → Except Stop Setting} {args : List String}

theorem exists_event_of_mem_settings {settings : List Setting}
    (h : settingsOf level resolve args = .ok settings) {setting : Setting}
    (hmem : setting ∈ settings) :
    ∃ tokens e, classifyAll level args = .ok tokens ∧ e ∈ events level.awaited tokens
      ∧ resolve e = .ok setting := by
  unfold settingsOf at h
  split at h
  case h_1 tokens htokens =>
    obtain ⟨e, he, hresolve⟩ := exists_mem_of_mapM_eq_ok h hmem
    exact ⟨tokens, e, htokens, he, hresolve⟩
  case h_2 => cases h

theorem exists_event_of_help {level' : Level}
    (h : settingsOf level resolve args = .error (.help level')) :
    ∃ tokens e, classifyAll level args = .ok tokens ∧ e ∈ events level.awaited tokens
      ∧ resolve e = .error (.help level') := by
  unfold settingsOf at h
  split at h
  case h_1 tokens htokens =>
    obtain ⟨e, he, hresolve⟩ := exists_mem_of_mapM_eq_error h
    exact ⟨tokens, e, htokens, he, hresolve⟩
  case h_2 => cases h

end Settings

theorem eq_terminator_of_read {text : String} (h : Given.read text = .ok .empty) : text = "--" := by
  unfold Given.read at h
  split at h
  · assumption
  · cases hread : Numeral.read text <;> rw [hread] at h <;> cases h

/-- An integer that is read keeps to the limit of numerals. -/
theorem withinLimit_of_read {text : String} {n : Int} (h : Given.read text = .ok (.integer n)) :
    WithinLimit n := by
  unfold Given.read at h
  split at h
  · cases h
  · obtain ⟨m, hread, hm⟩ := map_eq_ok_iff.mp h
    obtain rfl := Given.integer.inj hm
    exact Numeral.withinLimit_of_read hread

/-- The value was read from a text, and if that is the terminator, one of the arguments attaches
it. -/
def Given.ComesFrom (args : List String) (given : Given) : Prop :=
  ∃ text, Given.read text = .ok given ∧ (text = "--" → ∃ arg ∈ args, AttachesTerminator arg)

theorem Given.ComesFrom.mono {args args' : List String} {given : Given}
    (h : given.ComesFrom args) (hargs : args ⊆ args') : given.ComesFrom args' := by
  obtain ⟨text, hread, hterminator⟩ := h
  refine ⟨text, hread, fun htext => ?_⟩
  obtain ⟨arg, harg, hattaches⟩ := hterminator htext
  exact ⟨arg, hargs harg, hattaches⟩

theorem mem_of_lastValue? {k : Key} {settings : List Setting} {given : Given}
    (h : lastValue? k settings = some given) : .value k given ∈ settings := by
  obtain ⟨setting, hmem, hvalue⟩ := List.exists_of_findSome?_eq_some h
  cases setting with
  | value k' given' =>
      simp only [Setting.valueOf?, Option.ite_none_right_eq_some, Option.some.injEq] at hvalue
      obtain ⟨rfl, rfl⟩ := hvalue
      exact List.mem_reverse.mp hmem
  | _ => cases hvalue

/-- A value is resolved to what is read of it, or is a misuse. -/
theorem resolveOption_value (level : Level) (k : Key) (text : String) :
    resolveOption level (.value k text) = match Given.read text with
      | .ok given => .ok (.value k given)
      | .error _ => .error (.misuse level (.invalidInteger k.label text)) := by
  rw [resolveOption, readAs]
  cases Given.read text <;> rfl

/-- A value that an option is set to was read from the text that is given for it. -/
theorem exists_read_of_resolveOption (level : Level) {e : Event} {k : Key} {given : Given}
    (h : resolveOption level e = .ok (.value k given)) :
    ∃ text, e = .value k text ∧ Given.read text = .ok given := by
  cases e with
  | value k' text =>
      rw [resolveOption_value] at h
      split at h
      case h_1 given' hread =>
        cases h
        exact ⟨text, rfl, hread⟩
      case h_2 => cases h
  | flag k' => cases k' <;> cases h
  | _ => cases h

/-- Only the flag of help is resolved to help. -/
theorem resolveOption_eq_help (level : Level) {level' : Level} {e : Event}
    (h : resolveOption level e = .error (.help level')) : e = .flag .help := by
  cases e with
  | value k text =>
      rw [resolveOption_value] at h
      split at h <;> cases h
  | flag k =>
      cases k with
      | help => rfl
      | _ => cases h
  | _ => cases h

/-- An option is no request. -/
theorem resolveOption_ne_request (level : Level) (e : Event) (r : Request) (extras : List String) :
    resolveOption level e ≠ .ok (.request r extras) := by
  intro h
  cases e with
  | value k text =>
      rw [resolveOption_value] at h
      split at h <;> cases h
  | flag k => cases k <;> cases h
  | _ => cases h

/-- An event of a command is its operand, which is a name or a code or a misuse, or an option. -/
theorem resolve_cases (c : Command) (e : Event) :
    (∃ name, resolve c e = .ok (.name name)) ∨ (∃ n, resolve c e = .ok (.code n))
      ∨ (∃ f, resolve c e = .error (.misuse (.command c) f))
      ∨ resolve c e = resolveOption (.command c) e := by
  cases e with
  | operand text following =>
      cases c with
      | code =>
          rw [resolve, readAs]
          cases Numeral.read text with
          | ok n => exact Or.inr (Or.inl ⟨n, rfl⟩)
          | error e => exact Or.inr (Or.inr (Or.inl ⟨_, rfl⟩))
      | _ => exact Or.inl ⟨text, rfl⟩
  | _ => exact Or.inr (Or.inr (Or.inr rfl))

theorem exists_read_of_resolve {c : Command} {e : Event} {k : Key} {given : Given}
    (h : resolve c e = .ok (.value k given)) :
    ∃ text, e = .value k text ∧ Given.read text = .ok given := by
  rcases resolve_cases c e with ⟨name, hname⟩ | ⟨n, hcode⟩ | ⟨f, hmisuse⟩ | hoption
  · cases h.symm.trans hname
  · cases h.symm.trans hcode
  · cases h.symm.trans hmisuse
  · exact exists_read_of_resolveOption (.command c) (hoption.symm.trans h)

theorem resolve_eq_help {c : Command} {e : Event} {level : Level}
    (h : resolve c e = .error (.help level)) : e = .flag .help := by
  rcases resolve_cases c e with ⟨name, hname⟩ | ⟨n, hcode⟩ | ⟨f, hmisuse⟩ | hoption
  · cases h.symm.trans hname
  · cases h.symm.trans hcode
  · cases h.symm.trans hmisuse
  · exact resolveOption_eq_help (.command c) (hoption.symm.trans h)

/-! ## What the arguments ask for -/

/-- The value is one of the draft. -/
def Draft.Gives (d : Draft) (given : Given) : Prop :=
  (∃ f, d.get f = given) ∨ d.subsidy = some given

/-- The value is given for a parameter, or for the derivation that is asked for. -/
def Invocation.Gives (inv : Invocation) (given : Given) : Prop :=
  (∃ k, inv.overrides k = some given) ∨ ∃ d, inv.request = .derive d ∧ d.Gives given

/-- A request for a derivation holds the values that are given last. -/
theorem lastValue?_of_request {c : Command} {settings : List Setting} {d : Draft}
    (h : c.request settings = .ok (.derive d)) :
    (∀ f, lastValue? (.field f) settings = some (d.get f))
      ∧ lastValue? .subsidy settings = d.subsidy := by
  cases c with
  | derive =>
      rw [Command.request] at h
      split at h
      case h_1 hepoch hepochPosition hperiodPosition hsubsidyPosition =>
        cases h
        exact ⟨Coordinate.Field.forall_iff.mpr
          ⟨hepoch, hepochPosition, hperiodPosition, hsubsidyPosition⟩, rfl⟩
      case h_2 => cases h
  | tiers => cases h
  | parse =>
      rw [Command.request] at h
      split at h <;> cases h
  | code =>
      rw [Command.request] at h
      split at h <;> cases h

/-- The last values of all fields are a draft. -/
theorem exists_request_derive {settings : List Setting}
    (h : ∀ f : Coordinate.Field, (lastValue? (.field f) settings).isSome = true) :
    ∃ d, Command.derive.request settings = .ok (.derive d) := by
  obtain ⟨epoch, hepoch⟩ := Option.isSome_iff_exists.mp (h .epoch)
  obtain ⟨epochPosition, hepochPosition⟩ := Option.isSome_iff_exists.mp (h .epochPosition)
  obtain ⟨periodPosition, hperiodPosition⟩ := Option.isSome_iff_exists.mp (h .periodPosition)
  obtain ⟨subsidyPosition, hsubsidyPosition⟩ := Option.isSome_iff_exists.mp (h .subsidyPosition)
  simp only [Command.request, hepoch, hepochPosition, hperiodPosition, hsubsidyPosition]
  exact ⟨_, rfl⟩

theorem readCommand_eq_ok {c : Command} {args : List String} {setting : Setting}
    (h : readCommand c args = .ok setting) :
    ∃ settings r, settingsOf (.command c) (resolve c) args = .ok settings
      ∧ c.request settings = .ok r
      ∧ setting = .request r (settings.flatMap Setting.extras) := by
  obtain ⟨settings, hsettings, h⟩ := bind_eq_ok_iff.mp h
  split at h
  case h_1 r hrequest => exact ⟨settings, r, hsettings, hrequest, (Except.ok.inj h).symm⟩
  case h_2 => cases h

/-- Help is what the settings end with: an incomplete request is a misuse. -/
theorem settingsOf_of_readCommand_eq_help {c : Command} {args : List String} {level : Level}
    (h : readCommand c args = .error (.help level)) :
    settingsOf (.command c) (resolve c) args = .error (.help level) := by
  rcases bind_eq_error_iff.mp h with hsettings | ⟨settings, -, h⟩
  · exact hsettings
  · split at h <;> cases h

theorem comesFrom_of_lastValue? {level : Level} {resolve : Event → Except Stop Setting}
    (hresolve : ∀ {e k given}, resolve e = .ok (.value k given) →
      ∃ text, e = .value k text ∧ Given.read text = .ok given)
    {args : List String} {settings : List Setting}
    (h : settingsOf level resolve args = .ok settings) {k : Key} {given : Given}
    (hlast : lastValue? k settings = some given) : given.ComesFrom args := by
  obtain ⟨tokens, e, htokens, he, hvalue⟩ :=
    exists_event_of_mem_settings h (mem_of_lastValue? hlast)
  obtain ⟨text, rfl, hread⟩ := hresolve hvalue
  refine ⟨text, hread, fun htext => ?_⟩
  rw [htext] at he
  exact exists_attachesTerminator_of_event htokens he

theorem comesFrom_of_readCommand {c : Command} {args extras : List String} {d : Draft}
    (h : readCommand c args = .ok (.request (.derive d) extras)) {given : Given}
    (hgives : d.Gives given) : given.ComesFrom args := by
  obtain ⟨settings, r, hsettings, hrequest, heq⟩ := readCommand_eq_ok h
  obtain ⟨rfl, -⟩ := Setting.request.inj heq
  obtain ⟨hfields, hsubsidy⟩ := lastValue?_of_request hrequest
  rcases hgives with ⟨f, hf⟩ | hd
  · exact comesFrom_of_lastValue? exists_read_of_resolve hsettings
      ((hfields f).trans (congrArg some hf))
  · exact comesFrom_of_lastValue? exists_read_of_resolve hsettings (hsubsidy.trans hd)

theorem exists_asksForHelp_of_readCommand {c : Command} {args : List String} {level : Level}
    (h : readCommand c args = .error (.help level)) : ∃ arg ∈ args, AsksForHelp arg := by
  obtain ⟨tokens, e, htokens, he, hresolve⟩ :=
    exists_event_of_help (settingsOf_of_readCommand_eq_help h)
  rw [resolve_eq_help hresolve] at he
  exact exists_asksForHelp_of_event htokens he

/-- An event of the program is its command, which takes along what follows, or no command at all, or
it is an option. -/
theorem resolveProgram_cases (e : Event) :
    (∃ text following c, e = .operand text following ∧ resolveProgram e = readCommand c following)
      ∨ (∃ f, resolveProgram e = .error (.misuse .program f))
      ∨ resolveProgram e = resolveOption .program e := by
  cases e with
  | operand text following =>
      rw [resolveProgram]
      cases Command.ofName? text with
      | some c => exact Or.inl ⟨text, following, c, rfl, rfl⟩
      | none => exact Or.inr (Or.inl ⟨_, rfl⟩)
  | _ => exact Or.inr (Or.inr rfl)

theorem exists_read_of_resolveProgram {e : Event} {k : Key} {given : Given}
    (h : resolveProgram e = .ok (.value k given)) :
    ∃ text, e = .value k text ∧ Given.read text = .ok given := by
  rcases resolveProgram_cases e with ⟨text, following, c, -, hcommand⟩ | ⟨f, hmisuse⟩ | hoption
  · obtain ⟨settings, r, -, -, heq⟩ := readCommand_eq_ok (hcommand.symm.trans h)
    cases heq
  · cases h.symm.trans hmisuse
  · exact exists_read_of_resolveOption .program (hoption.symm.trans h)

/-- What an invocation is made of: its request, and the last values that are given for
parameters. -/
theorem read_eq_ok {args : List String} {inv : Invocation} (h : Invocation.read args = .ok inv) :
    ∃ settings extras, settingsOf .program resolveProgram args = .ok settings
      ∧ .request inv.request extras ∈ settings
      ∧ ∀ k, lastValue? (.parameter k) settings = inv.overrides k := by
  obtain ⟨settings, hsettings, h⟩ := bind_eq_ok_iff.mp h
  split at h
  case h_1 => cases h
  case h_2 request hrequest =>
    split at h
    case h_1 =>
      obtain rfl := Except.ok.inj h
      obtain ⟨setting, hmem, hsetting⟩ := List.exists_of_findSome?_eq_some hrequest
      cases setting with
      | request r extras =>
          obtain rfl := Option.some.inj hsetting
          exact ⟨settings, extras, hsettings, hmem, fun k => rfl⟩
      | _ => cases hsetting
    case h_2 => cases h

theorem settingsOf_of_read_eq_help {args : List String} {level : Level}
    (h : Invocation.read args = .error (.help level)) :
    settingsOf .program resolveProgram args = .error (.help level) := by
  rcases bind_eq_error_iff.mp h with hsettings | ⟨settings, -, h⟩
  · exact hsettings
  · split at h
    case h_1 => cases h
    case h_2 => split at h <;> cases h

/-- What an invocation holds comes from its arguments. -/
theorem comesFrom_of_read {args : List String} {inv : Invocation}
    (h : Invocation.read args = .ok inv) {given : Given} (hgives : inv.Gives given) :
    given.ComesFrom args := by
  obtain ⟨settings, extras, hsettings, hrequest, hoverrides⟩ := read_eq_ok h
  rcases hgives with ⟨k, hk⟩ | ⟨d, hd, hgives⟩
  · exact comesFrom_of_lastValue? exists_read_of_resolveProgram hsettings
      ((hoverrides k).trans hk)
  · rw [hd] at hrequest
    obtain ⟨tokens, e, htokens, he, hresolve⟩ := exists_event_of_mem_settings hsettings hrequest
    rcases resolveProgram_cases e with ⟨text, following, c, rfl, hcommand⟩ | ⟨f, hmisuse⟩ | hoption
    · -- the command has read the draft from arguments that follow it
      exact (comesFrom_of_readCommand (hcommand.symm.trans hresolve) hgives).mono
        fun arg harg => mem_of_mem_following htokens he harg
    · cases hresolve.symm.trans hmisuse
    · exact absurd (hoption.symm.trans hresolve) (resolveOption_ne_request .program _ _ _)

/-- Where an invocation holds an empty list, an argument attaches the terminator. -/
theorem exists_attachesTerminator {args : List String} {inv : Invocation}
    (h : Invocation.read args = .ok inv) (hempty : inv.Gives .empty) :
    ∃ arg ∈ args, AttachesTerminator arg := by
  obtain ⟨text, hread, hterminator⟩ := comesFrom_of_read h hempty
  exact hterminator (eq_terminator_of_read hread)

/-- The integers that an invocation holds keep to the limit of numerals. -/
theorem withinLimit_of_gives {args : List String} {inv : Invocation}
    (h : Invocation.read args = .ok inv) {n : Int} (hgives : inv.Gives (.integer n)) :
    WithinLimit n := by
  obtain ⟨text, hread, -⟩ := comesFrom_of_read h hgives
  exact withinLimit_of_read hread

/-- Where the reading ends with help, an argument asks for it. -/
theorem exists_asksForHelp {args : List String} {level : Level}
    (h : Invocation.read args = .error (.help level)) : ∃ arg ∈ args, AsksForHelp arg := by
  obtain ⟨tokens, e, htokens, he, hresolve⟩ := exists_event_of_help (settingsOf_of_read_eq_help h)
  rcases resolveProgram_cases e with ⟨text, following, c, rfl, hcommand⟩ | ⟨f, hmisuse⟩ | hoption
  · obtain ⟨arg, harg, hasks⟩ := exists_asksForHelp_of_readCommand (hcommand.symm.trans hresolve)
    exact ⟨arg, mem_of_mem_following htokens he harg, hasks⟩
  · cases hresolve.symm.trans hmisuse
  · rw [resolveOption_eq_help .program (hoption.symm.trans hresolve)] at he
    exact exists_asksForHelp_of_event htokens he

end SatRarity.CommandLine
