import SatRarity.Proofs.Ending
import SatRarity.Proofs.History

set_option autoImplicit false

/-! # Names and codes on every surface

A tier is recognised by its name and by its code and by nothing else, `IsExact`. The command line
and the service each have a front end before that: an operand of a command, and a segment of a path,
which for a code is read by a reader of its own. `SameTier` says that both then answer with the same
tier or fail with the same message; `tiers_recognised` says so for every text that is a segment and
no option, and for every integer within the limit of numerals.
-/

namespace SatRarity

open Text

/-! ## Recognition -/

namespace Tier

/-- An input is recognised as a tier just if it is the key of that tier, and an input that is the
key of no tier is what the error holds. -/
structure IsExact {α ε : Type} (recognise : α → Except ε Tier) (key? : Tier → Option α)
    (unknown : α → ε) : Prop where
  ok_iff : ∀ a t, recognise a = .ok t ↔ key? t = some a
  error : ∀ a, (∀ t, key? t ≠ some a) → recognise a = .error (unknown a)

/-- A search for a key is exact if no two tiers share one. -/
theorem isExact_of_find? {α ε : Type} [DecidableEq α] {recognise : α → Except ε Tier}
    {key? : Tier → Option α} {unknown : α → ε}
    (hfind : ∀ a, recognise a = match all.find? fun t => key? t == some a with
      | some t => .ok t
      | none => .error (unknown a))
    (hkeys : ∀ s t a, key? s = some a → key? t = some a → s = t) :
    IsExact recognise key? unknown where
  ok_iff := by
    intro a t
    rw [hfind]
    constructor
    · intro h
      split at h
      case h_1 s hs =>
        obtain rfl := Except.ok.inj h
        simpa using List.find?_some hs
      case h_2 => cases h
    · intro h
      have hsome : (all.find? fun t => key? t == some a).isSome = true := by
        rw [List.find?_isSome]
        exact ⟨t, mem_all t, by simp [h]⟩
      obtain ⟨s, hs⟩ := Option.isSome_iff_exists.mp hsome
      have hkey : key? s = some a := by simpa using List.find?_some hs
      rw [hs, hkeys s t a hkey h]
  error := by
    intro a h
    have hnone : (all.find? fun t => key? t == some a) = none := by
      rw [List.find?_eq_none]
      intro t _
      simp [h t]
    rw [hfind, hnone]

/-- Where an exact recognition fails, what it fails with is the input. -/
theorem IsExact.eq_of_mapError {α ε : Type} {recognise : α → Except ε Tier}
    {key? : Tier → Option α} {unknown : α → ε} (h : IsExact recognise key? unknown)
    {f : ε → Rejection} {a : α} {reason : Rejection}
    (he : (recognise a).mapError f = .error reason) : reason = f (unknown a) := by
  have hnone : ∀ t, key? t ≠ some a := by
    intro t ht
    rw [(h.ok_iff a t).mpr ht] at he
    cases he
  rw [h.error a hnone] at he
  exact (Except.error.inj he).symm

theorem name_injective {s t : Tier} (h : s.name = t.name) : s = t := by
  have hs := ofName_name s
  rw [h, ofName_name] at hs
  exact (Except.ok.inj hs).symm

/-- The code of a tier leads back to it. -/
theorem eq_of_code {s t : Tier} {v : Int} (hs : s.info.code = some v) (ht : t.info.code = some v) :
    s = t := by
  have hcodes : ∀ s t : Tier, s.info.code = t.info.code → s.info.code ≠ none → s = t := by
    intro s t
    cases s <;> cases t <;> decide
  exact hcodes s t (hs.trans ht.symm) (by simp [hs])

theorem isExact_ofName : IsExact ofName (fun t => some t.name) .mk := by
  refine isExact_of_find? (fun text => ?_) ?_
  · have hpredicate : (fun t : Tier => some t.name == some text) = fun t => t.name == text := by
      funext t
      simp
    rw [hpredicate]
    rfl
  · intro s t text hs ht
    exact name_injective (Option.some.inj (hs.trans ht.symm))

theorem ofName_eq_ok_iff {text : String} {t : Tier} : ofName text = .ok t ↔ t.name = text := by
  rw [isExact_ofName.ok_iff, Option.some.injEq]

theorem ofName_eq_error_iff {text : String} {e : UnknownName} :
    ofName text = .error e ↔ (∀ t : Tier, t.name ≠ text) ∧ e = ⟨text⟩ := by
  constructor
  · intro h
    have hnone : ∀ t : Tier, t.name ≠ text := by
      intro t ht
      cases h.symm.trans (ofName_eq_ok_iff.mpr ht)
    have herror := isExact_ofName.error text fun t ht => hnone t (Option.some.inj ht)
    exact ⟨hnone, Except.error.inj (h.symm.trans herror)⟩
  · rintro ⟨hnone, rfl⟩
    exact isExact_ofName.error text fun t ht => hnone t (Option.some.inj ht)

theorem isExact_ofCode : IsExact ofCode (fun t => t.info.code) .mk := by
  refine isExact_of_find? (fun v => ?_) fun s t v => eq_of_code
  have hpredicate : (fun t : Tier => t.info.code == some v)
      = fun t => t.code?.any fun code => (code : Int) == v := by
    funext t
    rw [info]
    cases t.code? <;> simp
  rw [hpredicate]
  rfl

/-- A black tier has no code, so that none is recognised as it. -/
theorem ofCode_ne_of_isBlack {t : Tier} (h : t.isBlack = true) :
    t.code? = none ∧ ∀ v, ofCode v ≠ .ok t := by
  have hcode := (code?_eq_none_iff t).mpr h
  refine ⟨hcode, fun v hv => ?_⟩
  have hkey : t.info.code = some v := (isExact_ofCode.ok_iff v t).mp hv
  rw [info, hcode] at hkey
  cases hkey

end Tier

/-! ## Codes in a path -/

namespace Lenient

/-- The digits of a number have no superfluous zero. -/
theorem withoutZeros?_toDigits (n : Nat) :
    withoutZeros? (Nat.toDigits 10 n) = some (Nat.toDigits 10 n) := by
  rcases Nat.eq_zero_or_pos n with rfl | hn
  · rfl
  · obtain ⟨c, rest, hcons, hc, hzero⟩ := exists_toDigits_eq_cons_of_pos hn
    rw [hcons]
    simp [withoutZeros?, hzero, hc]

/-- Only the run of zero begins with a zero. -/
theorem head?_map_digitOf_ne {n : Nat} (hn : 0 < n) :
    ((Nat.toDigits 10 n).map digitOf).head? ≠ some 0 := by
  obtain ⟨c, rest, hcons, hc, hzero⟩ := exists_toDigits_eq_cons_of_pos hn
  intro hhead
  rw [hcons, List.map_cons, List.head?_cons, Option.some.injEq, digitOf] at hhead
  have hbounds := toNat_of_isDigit hc
  have hnat : c.toNat = '0'.toNat := by
    have hchar : '0'.toNat = 0x30 := rfl
    omega
  exact hzero (Char.toNat_inj.mp hnat)

theorem magnitude?_toDigits {n : Nat} (hn : (Nat.toDigits 10 n).length ≤ digitLimit) :
    magnitude? (Nat.toDigits 10 n) = some n := by
  have hrun : digitRun? asciiDigitValue? (Nat.toDigits 10 n)
      = some ((Nat.toDigits 10 n).map digitOf) :=
    digitRun?_of_isDigit (fun _ => asciiDigitValue?_of_isDigit) Nat.toDigits_ne_nil
      fun _ => isDigit_of_mem_toDigits
  have hzero : ¬ (((Nat.toDigits 10 n).map digitOf).head? = some 0
      ∧ (Nat.toDigits 10 n).map digitOf ≠ [0]) := by
    rcases Nat.eq_zero_or_pos n with rfl | hpos
    · decide
    · exact fun h => head?_map_digitOf_ne hpos h.1
  have hlimit : ¬ digitLimit < ((Nat.toDigits 10 n).map digitOf).length := by
    rw [List.length_map]
    exact Nat.not_lt.mpr hn
  simp only [magnitude?, hrun, Option.bind_eq_bind, Option.bind_some, hzero, hlimit, or_self,
    if_false, ofDigits_toDigits]
  rfl

theorem wholeNumber?_toString {v : Int} (hv : WithinLimit v) :
    wholeNumber? (toString v).toList = some v := by
  obtain ⟨c, rest, hcons, hc⟩ := exists_toDigits_eq_cons v.natAbs
  have hminus : c ≠ '-' := ne_of_isDigit hc (by decide)
  unfold wholeNumber?
  simp only [splitSign_toString, withoutZeros?_toDigits]
  split
  case h_1 h => cases h
  case h_2 rest' h =>
    -- the digits begin with a digit
    rw [hcons] at h
    exact absurd (List.cons.inj (Option.some.inj h)).1 hminus
  case h_3 digits _ h =>
    rw [← Option.some.inj h, magnitude?_toDigits hv, Option.map_some, signed_natAbs]

theorem isOversized_toString {v : Int} (hv : WithinLimit v) :
    isOversized (toString v).toList = false := by
  have hrun : (Nat.toDigits 10 v.natAbs).takeWhile Char.isDigit = Nat.toDigits 10 v.natAbs :=
    List.takeWhile_eq_self_iff.mpr fun c hc => isDigit_of_mem_toDigits hc
  have hlimit : decide (digitLimit < (Nat.toDigits 10 v.natAbs).length) = false :=
    decide_eq_false (Nat.not_lt.mpr hv)
  rw [toList_toString]
  by_cases hsign : v < 0
  · simp only [isOversized, hsign, if_true, List.cons_append, List.nil_append, hrun, hlimit,
      Bool.and_false]
  · obtain ⟨c, rest, hcons, hc⟩ := exists_toDigits_eq_cons v.natAbs
    simp only [isOversized, hsign, if_false, List.nil_append]
    split
    case h_1 hminus =>
      -- the digits begin with a digit
      have hdash : c = '-' := (List.cons.inj (hcons.symm.trans hminus)).1
      exact absurd hdash (ne_of_isDigit hc (by decide))
    case h_2 => rw [hrun, hlimit, Bool.and_false]

/-- The decimal of an integer, within the limit, is read as the integer. -/
theorem integerOfText_toString {v : Int} (hv : WithinLimit v) :
    integerOfText (toString v) = .ok v := by
  have hchar : ∀ c ∈ (toString v).toList, isBlank c = false ∧ (c != '.') = true := by
    intro c hc
    rcases eq_minus_or_isDigit hc with rfl | hdigit
    · decide
    · exact ⟨isBlank_of_isDigit hdigit, by simpa using ne_of_isDigit hdigit (by decide)⟩
  have htrim : trim isBlank (toString v).toList = (toString v).toList := by
    have hnone : ∀ c ∈ (toString v).toList.reverse, isBlank c = false :=
      fun c hc => (hchar c (List.mem_reverse.mp hc)).1
    have hright : (toString v).toList.reverse.dropWhile isBlank = (toString v).toList.reverse := by
      refine List.dropWhile_eq_self_iff.mpr fun hpos => ?_
      rw [hnone _ (List.getElem_mem hpos)]
      exact Bool.false_ne_true
    rw [trim, dropWhile_isBlank_toString, trimRight, hright, List.reverse_reverse]
  have htake := List.takeWhile_eq_self_iff.mpr fun c hc => (hchar c hc).2
  have hdrop := List.dropWhile_eq_nil_iff.mpr fun c hc => (hchar c hc).2
  rw [integerOfText, isOversized_toString hv]
  simp only [htrim, htake, hdrop, isZeroFraction, wholeNumber?_toString hv]
  rfl

end Lenient

/-! ## Paths of tiers -/

namespace Service

namespace Route

/-- A path that goes on otherwise after the name of the interface is none of the fixed ones. -/
theorem isPath_rarity {fixed : String}
    (hfixed : fixed ∈ ["/api/tiers", "/api/schedule", "/api/derive"]) (rest : String) :
    isPath fixed ("/api/rarity/" ++ rest) = false := by
  have hletter : ("/api/rarity/" ++ rest).toList[5]? = some 'r' := by
    rw [String.toList_append]
    rfl
  have hne : ∀ other : String, other.toList[5]? ≠ some 'r' → "/api/rarity/" ++ rest ≠ other := by
    rintro other hother rfl
    exact hother hletter
  have hletters : ∀ fixed ∈ ["/api/tiers", "/api/schedule", "/api/derive"],
      fixed.toList[5]? ≠ some 'r' ∧ (fixed ++ "\n").toList[5]? ≠ some 'r' := by
    decide
  obtain ⟨h, hline⟩ := hletters fixed hfixed
  simp [isPath, hne _ h, hne _ hline]

/-- What follows the beginning is the segment. -/
theorem segmentAfter?_append (beginning : String) {segment : String} (hne : segment ≠ "")
    (hslash : '/' ∉ segment.toList) :
    segmentAfter? beginning.toList (beginning ++ segment).toList = some segment := by
  have hprefix : beginning.toList.isPrefixOf (beginning.toList ++ segment.toList) = true :=
    List.isPrefixOf_iff_prefix.mpr (List.prefix_append _ _)
  have hempty : segment.toList ≠ [] := fun h => hne (String.toList_inj.mp h)
  rw [String.toList_append, segmentAfter?, if_pos hprefix, List.drop_left]
  simp [hempty, hslash]

theorem segmentAfter?_code {name : String} (hslash : '/' ∉ name.toList) :
    segmentAfter? "/api/rarity/code/".toList ("/api/rarity/" ++ name).toList = none := by
  have hprefix : "/api/rarity/code/".toList.isPrefixOf ("/api/rarity/" ++ name).toList = false := by
    refine Bool.eq_false_iff.mpr fun h => hslash ?_
    obtain ⟨rest, hrest⟩ := List.isPrefixOf_iff_prefix.mp h
    -- the name would begin with the rest of the longer beginning, which ends with a slash
    have hbeginning : "/api/rarity/code/".toList = "/api/rarity/".toList ++ "code/".toList := by
      decide
    rw [String.toList_append, hbeginning, List.append_assoc] at hrest
    have hname : "code/".toList ++ rest = name.toList := List.append_cancel_left hrest
    rw [← hname]
    exact List.mem_append_left _ (by decide)
  rw [segmentAfter?, if_neg (Bool.eq_false_iff.mp hprefix)]

theorem ofPath?_rarity (rest : String) :
    ofPath? ("/api/rarity/" ++ rest)
      = match segmentAfter? "/api/rarity/code/".toList ("/api/rarity/" ++ rest).toList with
        | some value => some (.code value)
        | none =>
          (segmentAfter? "/api/rarity/".toList ("/api/rarity/" ++ rest).toList).map .tier := by
  have hfixed : ∀ fixed ∈ ["/api/tiers", "/api/schedule", "/api/derive"],
      isPath fixed ("/api/rarity/" ++ rest) = false := fun _ h => isPath_rarity h rest
  simp only [List.forall_mem_cons] at hfixed
  obtain ⟨htiers, hschedule, hderive, -⟩ := hfixed
  rw [ofPath?, htiers, hschedule, hderive]
  rfl

/-- A segment of its own after the beginning leads to the tier with that name. -/
theorem ofPath?_tier {name : String} (hne : name ≠ "") (hslash : '/' ∉ name.toList) :
    ofPath? ("/api/rarity/" ++ name) = some (.tier name) := by
  rw [ofPath?_rarity, segmentAfter?_code hslash, segmentAfter?_append "/api/rarity/" hne hslash]
  rfl

theorem ofPath?_code {value : String} (hne : value ≠ "") (hslash : '/' ∉ value.toList) :
    ofPath? ("/api/rarity/code/" ++ value) = some (.code value) := by
  have hpath : "/api/rarity/code/" ++ value = "/api/rarity/" ++ ("code/" ++ value) := by
    rw [← String.append_assoc]
    rfl
  have hsegment := segmentAfter?_append "/api/rarity/code/" hne hslash
  rw [hpath] at hsegment ⊢
  rw [ofPath?_rarity, hsegment]

end Route

/-- A local client asks for what is at the path. -/
structure Request.Gets (r : Request) (path : String) : Prop where
  method : r.method = "GET"
  path : r.path = path
  isLocal : r.remoteHost? = none

theorem handle_of_gets_name {r : Request} {name : String} (h : r.Gets ("/api/rarity/" ++ name))
    (hne : name ≠ "") (hslash : '/' ∉ name.toList) (s : Schedule) :
    handle s r = replyTier r ((Tier.ofName name).mapError .name) := by
  have hcalls : r.Calls (.tier name) := ⟨by rw [h.path, Route.ofPath?_tier hne hslash], h.method⟩
  rw [handle_of_calls h.isLocal hcalls, serve]

theorem handle_of_gets_code {r : Request} {v : Int}
    (h : r.Gets ("/api/rarity/code/" ++ toString v)) (hv : WithinLimit v) (s : Schedule) :
    handle s r = replyTier r ((Tier.ofCode v).mapError .code) := by
  obtain ⟨c, rest, hcons, -⟩ := exists_toList_toString_eq_cons v
  have hne : toString v ≠ "" := by
    intro hempty
    rw [hempty] at hcons
    cases hcons
  have hslash : '/' ∉ (toString v).toList := notMem_toString (by decide) (by decide) v
  have hcalls : r.Calls (.code (toString v)) :=
    ⟨by rw [h.path, Route.ofPath?_code hne hslash], h.method⟩
  rw [handle_of_calls h.isLocal hcalls, serve, Lenient.integerOfText_toString hv]

end Service

/-! ## Operands of commands -/

namespace CommandLine

/-- The text is an operand wherever it stands. -/
def IsOperand (text : String) : Prop :=
  text ≠ "--" ∧ ∀ level, classify level text = .ok .operand

theorem isOperand_of_head? {text : String} (h : text.toList.head? ≠ some '-') : IsOperand text := by
  refine ⟨?_, fun level => ?_⟩
  · rintro rfl
    exact h rfl
  · unfold classify
    split
    case h_7 => rfl
    all_goals
      rename_i htext
      rw [htext] at h
      exact absurd rfl h

theorem isOperand_toString (n : Int) : IsOperand (toString n) :=
  ⟨toString_ne_terminator n, fun level => classify_toString level n⟩

theorem isOperand_name (c : Command) : IsOperand c.name := by
  cases c <;> exact isOperand_of_head? (by decide)

theorem ofName?_name (c : Command) : Command.ofName? c.name = some c := by
  cases c <;> rfl

theorem classifyAll_of_isOperand {text : String} (h : IsOperand text) (level : Level)
    (args : List String) :
    classifyAll level (text :: args) = (classifyAll level args).map ((text, .operand) :: ·) :=
  classifyAll_cons h.1 (h.2 level) args

/-- What is asked for by a command and the one operand that it takes. -/
theorem read_of_operand {c : Command} (hone : (Level.command c).awaited = .one) {text : String}
    (htext : IsOperand text) {setting : Setting} {request : Request}
    (hresolve : resolve c (.operand text []) = .ok setting) (hextras : setting.extras = [])
    (hrequest : c.request [setting] = .ok request) :
    Invocation.read [c.name, text]
      = .ok { verbose := false, overrides := fun _ => none, request } := by
  have hsettings : settingsOf (.command c) (resolve c) [text] = .ok [setting] := by
    rw [settingsOf, classifyAll_of_isOperand htext, hone]
    simp [classifyAll, Except.map, events, hresolve]
  have hcommand : readCommand c [text] = .ok (.request request []) := by
    simp [readCommand, hsettings, bind, Except.bind, hrequest, hextras]
  have hprogram :
      settingsOf .program resolveProgram [c.name, text] = .ok [.request request []] := by
    rw [settingsOf, classifyAll_of_isOperand (isOperand_name c), classifyAll_of_isOperand htext]
    simp [classifyAll, Except.map, Level.awaited, events, resolveProgram, ofName?_name, hcommand]
  rw [Invocation.read, hprogram]
  rfl

theorem read_parse {name : String} (h : IsOperand name) :
    Invocation.read [Command.parse.name, name]
      = .ok { verbose := false, overrides := fun _ => none, request := .parse name } :=
  read_of_operand rfl h rfl rfl rfl

theorem read_code {v : Int} (hv : WithinLimit v) :
    Invocation.read [Command.code.name, toString v]
      = .ok { verbose := false, overrides := fun _ => none, request := .code v } := by
  have hresolve : resolve .code (.operand (toString v) []) = .ok (.code v) := by
    rw [resolve, readAs, Numeral.read_toString hv]
    rfl
  exact read_of_operand rfl (isOperand_toString v) hresolve rfl rfl

/-! ## Calls for tiers -/

/-- What a call leaves behind that rejects its command. -/
def rejection (c : Command) (message : String) : Transcript where
  status := .returned 2
  stdout := ""
  stderr := "WARNING operator_cli.cli: rejected " ++ c.name ++ " command: " ++ message ++ "\n"
    ++ "ERROR: " ++ message ++ "\n"

/-- What a call for a tier leaves behind: the tier is printed in some way, or the command
rejected. -/
def tierTranscript (c : Command) (printed : Tier → String) : Except Rejection Tier → Transcript
  | .ok t => ⟨.returned 0, printed t ++ "\n", ""⟩
  | .error reason => rejection c reason.message

theorem transcript_rejected (c : Command) (reason : Rejection) :
    (Outcome.rejected c reason).transcript .called = rejection c reason.message := by
  have hprefix : "WARNING " ++ Entry.called.logger ++ ": rejected "
      = "WARNING operator_cli.cli: rejected " := by decide
  rw [Outcome.transcript, hprefix]
  rfl

/-- A call whose answer is a tier prints the tier, and one whose answer is that there is none
rejects its command. -/
theorem call_of_result {env : Environment} {args : List String} {inv : Invocation}
    (hread : Invocation.read args = .ok inv) {printed : Tier → String}
    {result : Except Rejection Tier}
    (hanswer : inv.answer env = (result.map fun t => ⟨printed t, none⟩).mapError .rejected) :
    call env args = tierTranscript inv.request.command printed result := by
  cases result with
  | ok t =>
      rw [call_of_answered hread hanswer, ite_self]
      rfl
  | error reason =>
      rw [call_of_rejected hread hanswer, transcript_rejected]
      rfl

theorem call_parse (env : Environment) {name : String} (h : IsOperand name) :
    call env [Command.parse.name, name]
      = tierTranscript .parse (fun t => t.info.toJson.indented)
          ((Tier.ofName name).mapError .name) := by
  refine call_of_result (read_parse h) ?_
  simp only [Invocation.answer]
  cases Tier.ofName name <;> rfl

theorem call_code (env : Environment) {v : Int} (hv : WithinLimit v) :
    call env [Command.code.name, toString v]
      = tierTranscript .code Tier.name ((Tier.ofCode v).mapError .code) := by
  refine call_of_result (read_code hv) ?_
  simp only [Invocation.answer]
  cases Tier.ofCode v <;> rfl

end CommandLine

open CommandLine Service

/-! ## Both surfaces -/

/-- A call and a reply recognise the same tier, which the call prints in a way of its own, or both
fail with the same message. -/
structure SameTier (c : Command) (printed : Tier → String) (message : String) (t : Transcript)
    (reply : Reply) : Prop where
  returned : t.status = .returned 0 ↔ ∃ v, reply.Answers 200 v
  recognised : t.status = .returned 0 →
    ∃ tier : Tier, t.stdout = printed tier ++ "\n" ∧ reply.Answers 200 tier.info.toJson
  refused : t.status ≠ .returned 0 →
    t = rejection c message ∧ reply.Answers 400 (.object [("error", .text message)])

/-- What both surfaces make of the same recognition is the same. -/
theorem sameTier_of_result (c : Command) (printed : Tier → String) (r : Service.Request)
    {message : String} {result : Except Rejection Tier}
    (hmessage : ∀ reason, result = .error reason → reason.message = message) :
    SameTier c printed message (tierTranscript c printed result) (replyTier r result) := by
  cases result with
  | ok tier =>
      have hanswers : (replyTier r (.ok tier)).Answers 200 tier.info.toJson := ⟨_, rfl, rfl⟩
      exact {
        returned := ⟨fun _ => ⟨_, hanswers⟩, fun _ => rfl⟩
        recognised := fun _ => ⟨tier, rfl, hanswers⟩
        refused := fun h => absurd rfl h }
  | error reason =>
      have hanswers : (replyTier r (.error reason)).Answers 400
          (.object [("error", .text message)]) :=
        ⟨.error reason.message, rfl, by rw [hmessage reason rfl]; rfl⟩
      have hstatus : (tierTranscript c printed (.error reason)).status ≠ .returned 0 :=
        fun h => absurd (Status.returned.inj h) (by decide)
      exact {
        returned := by
          refine ⟨fun h => absurd h hstatus, fun ⟨v, hv⟩ => ?_⟩
          exact absurd (hanswers.status_eq hv) (by decide)
        recognised := fun h => absurd h hstatus
        refused := fun _ => ⟨by rw [tierTranscript, hmessage reason rfl], hanswers⟩ }

theorem Service.Reply.Answers.value_eq {reply : Reply} {status status' : Nat} {v v' : Json}
    (h : reply.Answers status v) (h' : reply.Answers status' v') : v = v' := by
  obtain ⟨body, hresult, rfl⟩ := h
  obtain ⟨body', hresult', rfl⟩ := h'
  have hresponse : Response.plain status body = .plain status' body' :=
    Result.response.inj (hresult.symm.trans hresult')
  rw [Option.some.inj (congrArg Response.body hresponse)]

/-- Where the call prints names, the name that it prints is that of the answer. -/
theorem SameTier.prints_iff {c : Command} {message : String} {t : Transcript} {reply : Reply}
    (h : SameTier c Tier.name message t reply) (tier : Tier) :
    (t.status = .returned 0 ∧ t.stdout = tier.name ++ "\n")
      ↔ ∃ v, reply.Answers 200 v ∧ v.get? "rarity" = some (.text tier.name) := by
  have hrarity : ∀ tier : Tier, tier.info.toJson.get? "rarity" = some (.text tier.name) :=
    fun _ => rfl
  constructor
  · rintro ⟨hstatus, hstdout⟩
    obtain ⟨tier', hprinted, hanswers⟩ := h.recognised hstatus
    have hname : tier.name = tier'.name :=
      (String.append_left_inj "\n").mp (hstdout.symm.trans hprinted)
    rw [Tier.name_injective hname]
    exact ⟨_, hanswers, hrarity tier'⟩
  · rintro ⟨v, hv, hget⟩
    have hstatus := h.returned.mpr ⟨v, hv⟩
    obtain ⟨tier', hprinted, hanswers⟩ := h.recognised hstatus
    rw [hv.value_eq hanswers, hrarity] at hget
    have hname := LooseText.ofString_injective (Json.text.inj (Option.some.inj hget))
    exact ⟨hstatus, by rw [hprinted, hname]⟩

/-- Names and codes are recognised exactly, the black tiers have no code, and the command line and
the service agree on what a name or a code is. -/
theorem tiers_recognised :
    Tier.IsExact Tier.ofName (fun t => some t.name) .mk
      ∧ Tier.IsExact Tier.ofCode (fun t => t.info.code) .mk
      ∧ (∀ t : Tier, t.isBlack = true → t.code? = none ∧ ∀ v, Tier.ofCode v ≠ .ok t)
      ∧ (∀ (env : Environment) (s : Schedule) (name : String) (r : Service.Request), name ≠ "" →
          '/' ∉ name.toList → name.toList.head? ≠ some '-' → r.Gets ("/api/rarity/" ++ name) →
          SameTier .parse (fun t => t.info.toJson.indented) (Tier.UnknownName.message ⟨name⟩)
            (call env ["parse", name]) (handle s r))
      ∧ ∀ (env : Environment) (s : Schedule) (v : Int) (r : Service.Request), WithinLimit v →
          r.Gets ("/api/rarity/code/" ++ toString v) →
          SameTier .code Tier.name ("invalid rarity code " ++ toString v)
              (call env ["code", toString v]) (handle s r)
            ∧ ∀ t : Tier, ((call env ["code", toString v]).status = .returned 0
                  ∧ (call env ["code", toString v]).stdout = t.name ++ "\n")
                ↔ ∃ answer, (handle s r).Answers 200 answer
                    ∧ answer.get? "rarity" = some (.text t.name) := by
  refine ⟨Tier.isExact_ofName, Tier.isExact_ofCode, fun t => Tier.ofCode_ne_of_isBlack, ?_, ?_⟩
  · intro env s name r hne hslash hdash hgets
    have hcall := call_parse env (isOperand_of_head? hdash)
    rw [Command.name] at hcall
    rw [hcall, handle_of_gets_name hgets hne hslash]
    exact sameTier_of_result .parse _ r fun reason hreason =>
      congrArg Rejection.message (Tier.isExact_ofName.eq_of_mapError hreason)
  · intro env s v r hv hgets
    have hsame : SameTier .code Tier.name ("invalid rarity code " ++ toString v)
        (call env ["code", toString v]) (handle s r) := by
      have hcall := call_code env hv
      rw [Command.name] at hcall
      rw [hcall, handle_of_gets_code hgets hv]
      exact sameTier_of_result .code _ r fun reason hreason =>
        congrArg Rejection.message (Tier.isExact_ofCode.eq_of_mapError hreason)
    exact ⟨hsame, hsame.prints_iff⟩

/-- A black tier, its name on both surfaces, an integer that is no code, and one that is. -/
theorem tiers_recognised_black_epic :
    (Tier.blackEpic.code? = none ∧ ∀ v, Tier.ofCode v ≠ .ok .blackEpic)
      ∧ SameTier .parse (fun t => t.info.toJson.indented) "invalid rarity `black_epic`"
          (call (fun _ => none) ["parse", "black_epic"])
          (handle .standard {
            method := "GET"
            path := "/api/rarity/black_epic"
            query := ""
            body := ""
            contentType := none
            client := some "127.0.0.1" })
      ∧ SameTier .code Tier.name "invalid rarity code -1" (call (fun _ => none) ["code", "-1"])
          (handle .standard {
            method := "GET"
            path := "/api/rarity/code/-1"
            query := ""
            body := ""
            contentType := none
            client := some "127.0.0.1" })
      ∧ ∃ answer, (handle .standard {
            method := "GET"
            path := "/api/rarity/code/3"
            query := ""
            body := ""
            contentType := none
            client := some "127.0.0.1" }).Answers 200 answer
          ∧ answer.get? "rarity" = some (.text "epic") := by
  obtain ⟨-, -, hblack, hnames, hcodes⟩ := tiers_recognised
  refine ⟨hblack .blackEpic rfl, ?_, ?_, ?_⟩
  · exact hnames _ _ "black_epic" _ (by decide) (by decide) (by decide) ⟨rfl, rfl, rfl⟩
  · refine (hcodes _ _ (-1) _ (by decide) ?_).1
    exact ⟨rfl, rfl, rfl⟩
  · -- the call prints the name of the tier that has the code
    refine ((hcodes (fun _ => none) _ 3 _ (by decide) ⟨rfl, rfl, rfl⟩).2 .epic).mp ?_
    decide

end SatRarity
