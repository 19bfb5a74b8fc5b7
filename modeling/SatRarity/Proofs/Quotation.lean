import SatRarity.CommandLine.Run
import SatRarity.Proofs.Variables

set_option autoImplicit false

/-! # Quoted texts can be unquoted and stay on one line

A quoted text is unquoted by a decoder that reads it from left to right and keeps in mind what it
has seen of an escape. The decoder takes the written form of each character back to the character,
`unescape_escapeChar`, and so the quoted form of a text back to the text, `unquote_quoteChars`.

All characters of a quoted form are printable, `isPrintable_quote`, so that it holds no line
break and no control character. With both, `quotesRaw_of_isMalformed` says what becomes of the text
of a malformed variable.
-/

namespace SatRarity

namespace Text

/-! ## Unquoting -/

/-- What of an escape has been read. -/
inductive Pending
  | nothing
  | backslash
  /-- The digits so far denote `value`, and `more` are to come after the next. -/
  | digits (more value : Nat)

/-- The value of a hexadecimal digit. -/
def hexDigitValue (c : Char) : Nat :=
  if c.isDigit then c.toNat - '0'.toNat else c.toNat - 'a'.toNat + 10

/-- The text that is written with escapes, of which one may have been begun. -/
def unescape : Pending → List Char → Option (List Char)
  | .nothing, [] => some []
  | _, [] => none
  | .nothing, '\\' :: t => unescape .backslash t
  | .nothing, c :: t => (unescape .nothing t).map (c :: ·)
  | .backslash, 'n' :: t => (unescape .nothing t).map ('\n' :: ·)
  | .backslash, 'r' :: t => (unescape .nothing t).map ('\r' :: ·)
  | .backslash, 't' :: t => (unescape .nothing t).map ('\t' :: ·)
  | .backslash, 'x' :: t => unescape (.digits 1 0) t
  | .backslash, 'u' :: t => unescape (.digits 3 0) t
  | .backslash, 'U' :: t => unescape (.digits 7 0) t
  | .backslash, c :: t => (unescape .nothing t).map (c :: ·)
  | .digits 0 value, c :: t =>
    (unescape .nothing t).map (Char.ofNat (16 * value + hexDigitValue c) :: ·)
  | .digits (more + 1) value, c :: t => unescape (.digits more (16 * value + hexDigitValue c)) t

/-- The text between the marks of a quoted form. -/
def unquote : List Char → Option (List Char)
  | [] => none
  | _ :: t => unescape .nothing t.dropLast

theorem hexDigitValue_digitChar {d : Nat} (h : d < 16) : hexDigitValue (Nat.digitChar d) = d := by
  have hall : ∀ d < 16, hexDigitValue (Nat.digitChar d) = d := by decide
  exact hall d h

/-- The last digits of a number are read on top of what was read before. -/
theorem unescape_hexDigits_append (width more value n : Nat) (t : List Char) :
    unescape (.digits (width + more) value) (hexDigits width n ++ t)
      = unescape (.digits more (16 ^ width * value + n % 16 ^ width)) t := by
  induction width generalizing more n t with
  | zero => simp [hexDigits, Nat.mod_one]
  | succ width ih =>
      -- the digits but for the last are those of a sixteenth
      have hdigit := hexDigitValue_digitChar (Nat.mod_lt n (by decide : 0 < 16))
      have hvalue : 16 * (16 ^ width * value + n / 16 % 16 ^ width) + n % 16
          = 16 ^ (width + 1) * value + n % 16 ^ (width + 1) := by
        rw [Nat.pow_succ', Nat.mod_mul]
        ring
      rw [hexDigits, List.append_assoc, List.singleton_append, Nat.add_right_comm width 1 more,
        Nat.add_assoc width more 1, ih, unescape, hdigit, hvalue]

/-- A character is read back from its code point. -/
theorem unescape_hexDigits (width : Nat) {c : Char} (h : c.toNat < 16 ^ (width + 1))
    (t : List Char) :
    unescape (.digits width 0) (hexDigits (width + 1) c.toNat ++ t)
      = (unescape .nothing t).map (c :: ·) := by
  have hdigit := hexDigitValue_digitChar (Nat.mod_lt c.toNat (by decide : 0 < 16))
  have hless : c.toNat / 16 < 16 ^ width :=
    Nat.div_lt_of_lt_mul (by rwa [Nat.pow_succ'] at h)
  have hvalue : 16 * (c.toNat / 16) + c.toNat % 16 = c.toNat := Nat.div_add_mod c.toNat 16
  have hdigits := unescape_hexDigits_append width 0 0 (c.toNat / 16)
    (Nat.digitChar (c.toNat % 16) :: t)
  rw [Nat.add_zero, Nat.mul_zero, Nat.zero_add, Nat.mod_eq_of_lt hless] at hdigits
  rw [hexDigits, List.append_assoc, List.singleton_append, hdigits, unescape, hdigit, hvalue,
    Char.ofNat_toNat]

/-- The written form of a character between two marks is read back as the character. -/
theorem unescape_escapeChar {mark : Char} (hmark : mark = '\'' ∨ mark = '"') (c : Char)
    (t : List Char) :
    unescape .nothing (escapeChar mark c ++ t) = (unescape .nothing t).map (c :: ·) := by
  unfold escapeChar
  split_ifs with hescaped hn hr ht hprintable
  · rcases hescaped with rfl | rfl
    · rcases hmark with rfl | rfl <;> rfl
    · rfl
  · rw [hn]; rfl
  · rw [hr]; rfl
  · rw [ht]; rfl
  · have hbackslash : c ≠ '\\' := fun h => hescaped (Or.inr h)
    rw [List.singleton_append, unescape.eq_def]
    split <;> simp_all
  · unfold codePointEscape
    split_ifs with htwo hfour
    · exact unescape_hexDigits 1 htwo t
    · exact unescape_hexDigits 3 hfour t
    · exact unescape_hexDigits 7 c.val.toNat_lt t

theorem unescape_flatMap_escapeChar {mark : Char} (hmark : mark = '\'' ∨ mark = '"')
    (t : List Char) : unescape .nothing (t.flatMap (escapeChar mark)) = some t := by
  induction t with
  | nil => rfl
  | cons c t ih => rw [List.flatMap_cons, unescape_escapeChar hmark, ih]; rfl

theorem quoteMark_eq (t : List Char) : quoteMark t = '\'' ∨ quoteMark t = '"' := by
  rw [quoteMark]
  split
  · exact Or.inr rfl
  · exact Or.inl rfl

/-- The quoted form of a text is unquoted to the text. -/
theorem unquote_quoteChars (t : List Char) : unquote (quoteChars t) = some t := by
  show unescape .nothing (t.flatMap (escapeChar (quoteMark t)) ++ [quoteMark t]).dropLast = some t
  rw [List.dropLast_concat]
  exact unescape_flatMap_escapeChar (quoteMark_eq t) t

/-! ## Printable texts -/

/-- The characters of ASCII that are no controls. -/
def isVisible (c : Char) : Bool := 0x20 ≤ c.toNat && c.toNat < 0x7F

theorem isPrintable_of_isVisible {c : Char} (h : isVisible c = true) : isPrintable c = true := by
  have hranges : ∀ range ∈ unprintableRanges, range.2 < 0x20 ∨ 0x7F ≤ range.1 := by
    decide +kernel
  simp only [isVisible, Bool.and_eq_true, decide_eq_true_eq] at h
  rw [isPrintable, List.all_eq_true]
  intro range hrange
  simp only [Bool.or_eq_true, decide_eq_true_eq]
  rcases hranges range hrange with hrange | hrange
  · exact Or.inr (by omega)
  · exact Or.inl (by omega)

/-- All characters of the text are printable. -/
def IsPrintable (s : String) : Prop := ∀ c ∈ s.toList, isPrintable c = true

theorem isPrintable_of_all {s : String} (h : s.toList.all isVisible = true) : IsPrintable s :=
  fun c hc => isPrintable_of_isVisible (List.all_eq_true.mp h c hc)

theorem IsPrintable.append {s t : String} (hs : IsPrintable s) (ht : IsPrintable t) :
    IsPrintable (s ++ t) := by
  rw [IsPrintable, String.toList_append]
  exact List.forall_mem_append.mpr ⟨hs, ht⟩

theorem isPrintable_of_mem_hexDigits {width n : Nat} {c : Char} (h : c ∈ hexDigits width n) :
    isPrintable c = true := by
  have hdigit : ∀ d < 16, isVisible (Nat.digitChar d) = true := by decide
  induction width generalizing n with
  | zero => cases h
  | succ width ih =>
      rcases List.mem_append.mp h with h | h
      · exact ih h
      · rw [List.mem_singleton.mp h]
        exact isPrintable_of_isVisible (hdigit _ (Nat.mod_lt n (by decide)))

/-- Whatever is escaped, the written form is printable. -/
theorem isPrintable_of_mem_escapeChar {mark c x : Char} (hmark : isPrintable mark = true)
    (h : x ∈ escapeChar mark c) : isPrintable x = true := by
  have hbackslash : isPrintable '\\' = true := isPrintable_of_isVisible (by decide)
  have hpair : ∀ letter, isPrintable letter = true → x ∈ ['\\', letter] → isPrintable x = true := by
    intro letter hletter hx
    rcases List.mem_pair.mp hx with rfl | rfl
    · exact hbackslash
    · exact hletter
  have hdigits : ∀ letter width n, isVisible letter = true →
      x ∈ '\\' :: letter :: hexDigits width n → isPrintable x = true := by
    intro letter width n hletter hx
    rcases List.mem_cons.mp hx with rfl | hx
    · exact hbackslash
    · rcases List.mem_cons.mp hx with rfl | hx
      · exact isPrintable_of_isVisible hletter
      · exact isPrintable_of_mem_hexDigits hx
  unfold escapeChar at h
  split_ifs at h with hescaped hn hr ht hprintable
  · refine hpair c ?_ h
    rcases hescaped with rfl | rfl
    · exact hmark
    · exact hbackslash
  · exact hpair 'n' (isPrintable_of_isVisible (by decide)) h
  · exact hpair 'r' (isPrintable_of_isVisible (by decide)) h
  · exact hpair 't' (isPrintable_of_isVisible (by decide)) h
  · rw [List.mem_singleton.mp h]
    exact hprintable
  · unfold codePointEscape at h
    split_ifs at h
    · exact hdigits 'x' 2 _ (by decide) h
    · exact hdigits 'u' 4 _ (by decide) h
    · exact hdigits 'U' 8 _ (by decide) h

/-- A quoted text is printable. -/
theorem isPrintable_quote (s : String) : IsPrintable (quote s) := by
  have hmark : isPrintable (quoteMark s.toList) = true := by
    rcases quoteMark_eq s.toList with h | h <;> rw [h] <;>
      exact isPrintable_of_isVisible (by decide)
  intro c hc
  rw [toList_quote, quoteChars] at hc
  rcases List.mem_cons.mp hc with rfl | hc
  · exact hmark
  · rcases List.mem_append.mp hc with hc | hc
    · obtain ⟨x, -, hx⟩ := List.mem_flatMap.mp hc
      exact isPrintable_of_mem_escapeChar hmark hx
    · rw [List.mem_singleton.mp hc]
      exact hmark

/-! ## Lines -/

def IsControl (c : Char) : Prop := c.toNat < 0x20 ∨ (0x7F ≤ c.toNat ∧ c.toNat < 0xA0)

/-- The code points of the characters that some reader takes for the end of a line. -/
def lineBreaks : List Nat := [0x0A, 0x0B, 0x0C, 0x0D, 0x1C, 0x1D, 0x1E, 0x85, 0x2028, 0x2029]

/-- The text holds no control character and no line break. -/
def IsOneLine (s : String) : Prop := ∀ c ∈ s.toList, ¬ IsControl c ∧ c.toNat ∉ lineBreaks

theorem IsPrintable.isOneLine {s : String} (h : IsPrintable s) : IsOneLine s := by
  -- two of the line breaks are no controls, but have an unprintable range of their own
  have hbreaks : ∀ n ∈ lineBreaks,
      n < 0x20 ∨ (0x7F ≤ n ∧ n < 0xA0) ∨ (0x2028 ≤ n ∧ n ≤ 0x202F) := by
    decide
  have hrange : (0x2028, 0x202F) ∈ unprintableRanges := by
    simp [unprintableRanges, middleGaps]
  intro c hc
  have hcontrol : ¬ IsControl c := by
    intro hcontrol
    cases (h c hc).symm.trans (not_isPrintable_of_control hcontrol)
  refine ⟨hcontrol, fun hmem => ?_⟩
  rcases hbreaks _ hmem with hlow | hhigh | ⟨hlo, hhi⟩
  · exact hcontrol (Or.inl hlow)
  · exact hcontrol (Or.inr hhigh)
  · cases (h c hc).symm.trans (not_isPrintable_of_mem _ _ hrange hlo hhi)

end Text

open Text

/-! ## Messages about variables -/

namespace Schedule

/-- The text that a message about a variable quotes, between the words before it and the period. -/
def quotedIn? (k : Parameter) (message : String) : Option String :=
  let quoted := message.toList.drop (k.variable ++ " must be an integer, got ").length
  (unquote quoted.dropLast).map String.ofList

theorem quotedIn?_message (k : Parameter) (raw : String) :
    quotedIn? k (Error.notInteger k raw).message = some raw := by
  have hlist : (Error.notInteger k raw).message.toList
      = (k.variable ++ " must be an integer, got ").toList ++ (quoteChars raw.toList ++ ['.']) := by
    simp [Error.message]
  rw [quotedIn?, hlist, ← String.length_toList, List.drop_left, List.dropLast_concat,
    unquote_quoteChars, Option.map_some, String.ofList_toList]

theorem isPrintable_message (k : Parameter) (raw : String) :
    IsPrintable (Error.notInteger k raw).message := by
  have hvariable : IsPrintable (k.variable ++ " must be an integer, got ") :=
    isPrintable_of_all (by cases k <;> decide)
  exact (hvariable.append (isPrintable_quote raw)).append (isPrintable_of_all (by decide))

end Schedule

/-! ## Runs -/

namespace CommandLine

open Schedule

/-- A derivation that can be read is rejected first of all for a fault of the environment. -/
theorem run_of_environment_error {env : Environment} {args : List String} {inv : Invocation}
    {d : Draft} (hread : Invocation.read args = .ok inv) (hrequest : inv.request = .derive d)
    {e : Schedule.Error} (henv : ofEnvironment env = .error e) :
    run env args = .rejected .derive (.schedule e) := by
  have hanswer : inv.answer env = .error (.rejected (.schedule e)) := by
    simp only [Invocation.answer, hrequest, deriveUnder, mergedSchedule, henv, bind, Except.bind]
  simp only [run, hread, hanswer, hrequest, Request.command]

/-- Nothing is written but the two lines. -/
structure WritesTwoLines (t : Transcript) (first second : String) : Prop where
  stdout : t.stdout = ""
  stderr : t.stderr = first ++ "\n" ++ second ++ "\n"
  first : IsOneLine first
  second : IsOneLine second

theorem writesTwoLines_of_isPrintable (entry : Entry) {reason : Rejection}
    (h : IsPrintable reason.message) :
    WritesTwoLines ((Outcome.rejected .derive reason).transcript entry)
      ("WARNING " ++ entry.logger ++ ": rejected derive command: " ++ reason.message)
      ("ERROR: " ++ reason.message) := by
  have hlogger : IsPrintable ("WARNING " ++ entry.logger ++ ": rejected derive command: ") :=
    isPrintable_of_all (by cases entry <;> decide)
  have herror : IsPrintable "ERROR: " := isPrintable_of_all (by decide)
  have hname : ": rejected " ++ Command.derive.name ++ " command: "
      = ": rejected derive command: " := by decide
  refine ⟨rfl, ?_, (hlogger.append h).isOneLine, (herror.append h).isOneLine⟩
  simp only [Outcome.transcript, ← hname, String.append_assoc]

end CommandLine

/-! ## Malformed variables -/

namespace Schedule

/-- What becomes of the text of a malformed variable. -/
structure QuotesRaw (env : Environment) (k : Parameter) (raw : String) : Prop where
  refused : ∃ e, readVariable env k = .error e
    ∧ e.message = k.variable ++ " must be an integer, got " ++ quote raw ++ "."
  oneLine : IsOneLine (Error.notInteger k raw).message
  /-- The text can be told from the message. -/
  decodes : quotedIn? k (Error.notInteger k raw).message = some raw
  /-- Another text gives another message. -/
  distinct : ∀ raw', raw' ≠ raw →
    (Error.notInteger k raw').message ≠ (Error.notInteger k raw).message
  /-- A derivation that is asked for writes two lines, about this variable or one before it. -/
  twoLines : ∀ (args : List String) (inv : CommandLine.Invocation) (d : CommandLine.Draft)
    (entry : CommandLine.Entry), CommandLine.Invocation.read args = .ok inv →
    inv.request = .derive d →
    ∃ j raw', IsMalformed env j raw'
      ∧ CommandLine.WritesTwoLines ((CommandLine.run env args).transcript entry)
          ("WARNING " ++ entry.logger ++ ": rejected derive command: "
            ++ (Error.notInteger j raw').message)
          ("ERROR: " ++ (Error.notInteger j raw').message)

/-- The text of a malformed variable is quoted on one line and without loss. -/
theorem quotesRaw_of_isMalformed {env : Environment} {k : Parameter} {raw : String}
    (h : IsMalformed env k raw) : QuotesRaw env k raw where
  refused := ⟨_, readVariable_of_isMalformed h, rfl⟩
  oneLine := (isPrintable_message k raw).isOneLine
  decodes := quotedIn?_message k raw
  distinct := by
    intro raw' hne hmessage
    have hquoted := quotedIn?_message k raw'
    rw [hmessage, quotedIn?_message] at hquoted
    exact hne (Option.some.inj hquoted).symm
  twoLines := by
    intro args inv d entry hread hrequest
    obtain ⟨j, raw', hraw', henv⟩ := exists_ofEnvironment_eq_error h
    refine ⟨j, raw', hraw', ?_⟩
    rw [CommandLine.run_of_environment_error hread hrequest henv]
    exact CommandLine.writesTwoLines_of_isPrintable entry (isPrintable_message j raw')

/-- Both marks, a line feed, a backslash before what looks like its escape, a separator of lines and
a control sequence. -/
theorem quotesRaw_of_isMalformed_escapes :
    QuotesRaw
      (fun
        | "RARITY_HALVING_INTERVAL" => some "it's\n\"10\\x31\"\u2028\x1b[31m"
        | _ => none)
      .halvingInterval "it's\n\"10\\x31\"\u2028\x1b[31m" :=
  quotesRaw_of_isMalformed ⟨rfl, ⟨'i', by decide, by decide⟩,
    Numeral.exists_readChars_eq_error_iff.mp ⟨.malformed, by decide⟩⟩

end Schedule

end SatRarity
