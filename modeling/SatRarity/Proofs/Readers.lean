import SatRarity.Coordinate.Dictionary
import SatRarity.Proofs.Attached
import SatRarity.Proofs.Variables

set_option autoImplicit false

/-! # The readers of integer text

An integer is read from a text in a field of a coordinate record, in a variable of the environment
and in an option of the command line that the text is attached to. The readers differ in what they
look at, in how they refuse a text and in what surrounds it; the relation between texts and integers
is one, `Numeral.Denotes`.

There are two differences in it. The environment trims its texts, and so takes separators at their
ends. And an option takes the terminator: it is neither read as an integer nor refused, but dropped,
and the option is left with an empty list. `readers_agree` says all of it.
-/

namespace SatRarity

open Text CommandLine

/-! ## Fields of records -/

namespace Coordinate

theorem readField_of_text {v : Json} {f : Field} {t : String}
    (h : v.get? f.name = some (.text t)) :
    readField v f = (Numeral.read t).mapError (.numeral t) := by
  rw [readField, h]
  simp only [integerOf, LooseText.toString_ofString]
  cases Numeral.read t <;> rfl

/-- A record with a field is an object, and its fields are read in order. -/
theorem ofJson_of_get? {v : Json} {key : String} {value : Json} (h : v.get? key = some value) :
    ofJson v = (do
      let epoch ← readField v .epoch
      let epochPosition ← readField v .epochPosition
      let periodPosition ← readField v .periodPosition
      let subsidyPosition ← readField v .subsidyPosition
      pure { epoch, epochPosition, periodPosition, subsidyPosition }) := by
  cases v with
  | object fields => rfl
  | _ => cases h

section Field

variable {v : Json} {f : Field} {t : String} (h : v.get? f.name = some (.text t))
  (hothers : ∀ f' : Field, f' ≠ f → ∃ n, readField v f' = .ok n)

include h hothers in
/-- Where the other fields can be read, the record is read with the text of the field. -/
theorem ofJson_of_read {n : Int} (hread : Numeral.read t = .ok n) :
    ∃ c, ofJson v = .ok c ∧ c.get f = n := by
  have hf : readField v f = .ok n := by
    rw [readField_of_text h, hread]
    rfl
  have hall : ∀ f' : Field, ∃ n, readField v f' = .ok n := by
    intro f'
    by_cases hf' : f' = f
    · exact ⟨n, hf' ▸ hf⟩
    · exact hothers f' hf'
  choose values hvalues using hall
  refine ⟨.ofFun values, ?_, ?_⟩
  · rw [ofJson_of_get? h]
    simp only [hvalues]
    rfl
  · rw [get_ofFun]
    exact Except.ok.inj ((hvalues f).symm.trans hf)

include h hothers in
/-- Where the other fields can be read, the text of the field is what is wrong with the record. -/
theorem ofJson_of_read_error {e : Numeral.Error} (hread : Numeral.read t = .error e) :
    ofJson v = .error (.numeral t e) := by
  have hf : readField v f = .error (.numeral t e) := by
    rw [readField_of_text h, hread]
    rfl
  rw [ofJson_of_get? h]
  cases f with
  | epoch => rw [hf]; rfl
  | epochPosition =>
      obtain ⟨_, hepoch⟩ := hothers .epoch (by decide)
      rw [hepoch, hf]; rfl
  | periodPosition =>
      obtain ⟨_, hepoch⟩ := hothers .epoch (by decide)
      obtain ⟨_, hepochPosition⟩ := hothers .epochPosition (by decide)
      rw [hepoch, hepochPosition, hf]; rfl
  | subsidyPosition =>
      obtain ⟨_, hepoch⟩ := hothers .epoch (by decide)
      obtain ⟨_, hepochPosition⟩ := hothers .epochPosition (by decide)
      obtain ⟨_, hperiodPosition⟩ := hothers .periodPosition (by decide)
      rw [hepoch, hepochPosition, hperiodPosition, hf]; rfl

end Field

end Coordinate

/-! ## Readers -/

/-- A place where an integer is read from a text, with what surrounds it. -/
inductive Reader
  /-- A field of a record. -/
  | record (f : Coordinate.Field) (v : Json)
  /-- The variable of a parameter. -/
  | environment (k : Schedule.Parameter) (env : Environment)
  /-- An option of the command line that has the text attached. -/
  | option (a : Attachment)

/-- What is left behind where a text is attached to an option and refused. -/
def misuseOf (level : Level) (k : Key) (t : String) : Transcript where
  status := .exited 2
  stdout := ""
  stderr := level.usage ++ level.title ++ ": error: argument " ++ k.longName
    ++ ": invalid int value: " ++ quote t ++ "\n"

theorem transcript_invalidInteger (level : Level) (k : Key) (t : String) (entry : Entry) :
    (Outcome.misused level (.invalidInteger k.longName t)).transcript entry
      = misuseOf level k t := by
  have herror : ": error: " ++ "argument " = ": error: argument " := by decide
  have hmessage : ∀ usage quoted : String,
      usage ++ level.title ++ ": error: "
          ++ ("argument " ++ k.longName ++ ": invalid int value: " ++ quoted) ++ "\n"
        = usage ++ level.title ++ ": error: argument " ++ k.longName ++ ": invalid int value: "
          ++ quoted ++ "\n" := by
    intro usage quoted
    simp only [← herror, String.append_assoc]
  exact congrArg (Transcript.mk (.exited 2) "") (hmessage level.usage (quote t))

/-- A run whose arguments can be read ends in no misuse. -/
theorem transcript_ne_misuseOf {env : Environment} {args : List String} {inv : Invocation}
    (h : Invocation.read args = .ok inv) (level : Level) (k : Key) (t : String) :
    (run env args).transcript .called ≠ misuseOf level k t := by
  intro heq
  have hstatus := congrArg Transcript.status heq
  rw [run, h] at hstatus
  dsimp only at hstatus
  split at hstatus <;> cases hstatus

namespace Reader

/-- The reader is given the text, and nothing else is wrong. -/
def IsGiven (t : String) : Reader → Prop
  | record f v => v.get? f.name = some (.text t)
      ∧ ∀ f' : Coordinate.Field, f' ≠ f → ∃ n, Coordinate.readField v f' = .ok n
  | environment k env => env k.variable = some t
  | option a => a.IsCall

/-- The reader succeeds, and what it is given with the text is the value. -/
def Reads (t : String) (given : Given) : Reader → Prop
  | record f v => ∃ c, Coordinate.ofJson v = .ok c ∧ .integer (c.get f) = given
  | environment k env => ∃ n, Schedule.readVariable env k = .ok n ∧ .integer n = given
  | option a => ∃ inv, Invocation.read (a.args t) = .ok inv ∧ inv.given? a.key = some given

/-- The reader fails and says that it is because of the text. -/
def Refuses (t : String) : Reader → Prop
  | record _ v => ∃ e, Coordinate.ofJson v = .error (.numeral t e)
  | environment k env => ∃ e, Schedule.readVariable env k = .error e
      ∧ e.message = k.variable ++ " must be an integer, got " ++ quote t ++ "."
  | option a => ∀ env entry, (run env (a.args t)).transcript entry = misuseOf a.level a.key t

def IsOption : Reader → Prop
  | option _ => True
  | record _ _ | environment _ _ => False

/-- What the reader looks at: the environment trims the text. -/
def part (t : String) : Reader → List Char
  | environment _ _ => trim isSpacing t.toList
  | record _ _ | option _ => t.toList

variable {r : Reader} {t : String}

/-- A reader reads one value at most. -/
theorem Reads.unique {given given' : Given} (h : r.Reads t given) (h' : r.Reads t given') :
    given = given' := by
  cases r with
  | record f v =>
      obtain ⟨c, hc, rfl⟩ := h
      obtain ⟨c', hc', rfl⟩ := h'
      rw [Except.ok.inj (hc.symm.trans hc')]
  | environment k env =>
      obtain ⟨n, hn, rfl⟩ := h
      obtain ⟨n', hn', rfl⟩ := h'
      rw [Except.ok.inj (hn.symm.trans hn')]
  | option a =>
      obtain ⟨inv, hinv, hgiven⟩ := h
      obtain ⟨inv', hinv', hgiven'⟩ := h'
      obtain rfl := Except.ok.inj (hinv.symm.trans hinv')
      exact Option.some.inj (hgiven.symm.trans hgiven')

/-- What is read is not refused. -/
theorem Reads.not_refuses {given : Given} (h : r.Reads t given) : ¬ r.Refuses t := by
  intro hrefuses
  cases r with
  | record f v =>
      obtain ⟨c, hc, -⟩ := h
      obtain ⟨e, he⟩ := hrefuses
      cases hc.symm.trans he
  | environment k env =>
      obtain ⟨n, hn, -⟩ := h
      obtain ⟨e, he, -⟩ := hrefuses
      cases hn.symm.trans he
  | option a =>
      obtain ⟨inv, hinv, -⟩ := h
      exact transcript_ne_misuseOf hinv _ _ t (hrefuses (fun _ => none) .called)

theorem not_denotes_terminator (n : Int) : ¬ Numeral.Denotes "--".toList n :=
  Numeral.exists_readChars_eq_error_iff.mp ⟨.malformed, by decide⟩ n

/-- A text that denotes an integer is read as it. -/
theorem reads_of_denotes (h : r.IsGiven t) {n : Int} (hn : Numeral.Denotes (r.part t) n) :
    r.Reads t (.integer n) := by
  cases r with
  | record f v =>
      obtain ⟨c, hc, hget⟩ := Coordinate.ofJson_of_read h.1 h.2 hn.readChars_eq
      exact ⟨c, hc, congrArg Given.integer hget⟩
  | environment k env => exact ⟨n, Schedule.readVariable_of_gives ⟨t, h, hn⟩, rfl⟩
  | option a =>
      have htext : Numeral.Denotes t.toList n := hn
      have hne : t ≠ "--" := by
        rintro rfl
        exact not_denotes_terminator n htext
      have hread : Given.read t = .ok (.integer n) := by
        rw [Given.read, if_neg hne, Numeral.read, htext.readChars_eq]
        rfl
      exact Attachment.read_args h hread

/-- A text that denotes no integer is refused, unless it is the terminator at an option. -/
theorem refuses_of_not_denotes (ht : ∃ c ∈ t.toList, isSpacing c = false) (h : r.IsGiven t)
    (hnone : ∀ n, ¬ Numeral.Denotes (r.part t) n) (hterminator : ¬ (r.IsOption ∧ t = "--")) :
    r.Refuses t := by
  obtain ⟨e, he⟩ := Numeral.exists_readChars_eq_error_iff.mpr hnone
  cases r with
  | record f v => exact ⟨e, Coordinate.ofJson_of_read_error h.1 h.2 he⟩
  | environment k env =>
      exact ⟨_, Schedule.readVariable_of_isMalformed ⟨h, ht, hnone⟩, rfl⟩
  | option a =>
      have hne : t ≠ "--" := fun heq => hterminator ⟨trivial, heq⟩
      have htext : Numeral.readChars t.toList = .error e := he
      have hread : Given.read t = .error e := by
        rw [Given.read, if_neg hne, Numeral.read, htext]
        rfl
      intro env entry
      rw [run, Attachment.read_args_error h hread]
      exact transcript_invalidInteger a.level a.key t entry

/-- The terminator leaves an option with an empty list. -/
theorem reads_terminator (hr : r.IsOption) (h : r.IsGiven "--") : r.Reads "--" .empty := by
  cases r with
  | option a => exact Attachment.read_args h rfl
  | _ => exact hr.elim

/-- A reader reads as integers what the part that it looks at denotes, and nothing else. -/
theorem reads_iff (ht : ∃ c ∈ t.toList, isSpacing c = false) (h : r.IsGiven t) {n : Int} :
    r.Reads t (.integer n) ↔ Numeral.Denotes (r.part t) n := by
  refine ⟨fun hreads => ?_, reads_of_denotes h⟩
  by_cases hm : ∃ m, Numeral.Denotes (r.part t) m
  · obtain ⟨m, hm⟩ := hm
    obtain rfl := Given.integer.inj (hreads.unique (reads_of_denotes h hm))
    exact hm
  · by_cases hterminator : r.IsOption ∧ t = "--"
    · obtain ⟨hr, rfl⟩ := hterminator
      cases hreads.unique (reads_terminator hr h)
    · exact absurd (refuses_of_not_denotes ht h (not_exists.mp hm) hterminator) hreads.not_refuses

/-- Without separators it makes no difference what a reader looks at. -/
theorem denotes_part_iff (hplain : ¬ HoldsSeparator t.toList) {n : Int} :
    Numeral.Denotes (r.part t) n ↔ Numeral.Denotes t.toList n := by
  cases r with
  | environment k env => exact Numeral.denotes_trim_iff hplain
  | _ => exact Iff.rfl

end Reader

/-- What all readers make of the text. -/
structure ReadersAgree (t : String) : Prop where
  /-- Without separators, every reader reads as an integer what the text denotes, and nothing
  else. -/
  reads : ¬ HoldsSeparator t.toList → ∀ r : Reader, r.IsGiven t → ∀ n,
    r.Reads t (.integer n) ↔ Numeral.Denotes t.toList n
  /-- If it denotes nothing, every reader refuses it, but for the terminator at an option. -/
  refuses : ¬ HoldsSeparator t.toList → (∀ n, ¬ Numeral.Denotes t.toList n) →
    ∀ r : Reader, r.IsGiven t → ¬ (r.IsOption ∧ t = "--") → r.Refuses t
  terminator : t = "--" → ∀ r : Reader, r.IsOption → r.IsGiven t → r.Reads t .empty
  /-- With separators, the environment reads what is denoted once they are cut from the ends. -/
  trimmed : HoldsSeparator t.toList → ∀ k env, (Reader.environment k env).IsGiven t →
    (∀ n, (Reader.environment k env).Reads t (.integer n)
        ↔ Numeral.Denotes (trim isSpacing t.toList) n)
      ∧ ((∀ n, ¬ Numeral.Denotes (trim isSpacing t.toList) n) →
          (Reader.environment k env).Refuses t)
  /-- The other readers refuse them. -/
  separated : HoldsSeparator t.toList → ∀ r : Reader, r.IsGiven t →
    (∀ k env, r ≠ .environment k env) → r.Refuses t
  /-- An integer within the limit is read from its decimal. -/
  decimal : ∀ n, WithinLimit n → t = toString n → ∀ r : Reader, r.IsGiven t →
    r.Reads t (.integer n)

/-- Fields of records, variables of the environment and options of the command line read the same
integers from the same texts. -/
theorem readers_agree {t : String} (ht : ∃ c ∈ t.toList, isSpacing c = false) :
    ReadersAgree t where
  reads := by
    intro hplain r h n
    rw [Reader.reads_iff ht h, Reader.denotes_part_iff hplain]
  refuses := by
    intro hplain hnone r h hterminator
    refine Reader.refuses_of_not_denotes ht h (fun n hn => ?_) hterminator
    exact hnone n ((Reader.denotes_part_iff hplain).mp hn)
  terminator := by
    rintro rfl r hr h
    exact Reader.reads_terminator hr h
  trimmed := by
    intro _ k env h
    refine ⟨fun n => Reader.reads_iff ht h, fun hnone => ?_⟩
    exact Reader.refuses_of_not_denotes ht h hnone fun hr => hr.1
  separated := by
    intro hseparator r h hr
    have hpart : r.part t = t.toList := by
      cases r with
      | environment k env => exact absurd rfl (hr k env)
      | _ => rfl
    refine Reader.refuses_of_not_denotes ht h (fun n hn => ?_) ?_
    · rw [hpart] at hn
      exact hn.not_holdsSeparator hseparator
    · rintro ⟨-, rfl⟩
      exact absurd hseparator (by decide)
  decimal := by
    rintro n hn rfl r h
    have hplain : ¬ HoldsSeparator (toString n).toList :=
      (Numeral.denotes_toString hn).not_holdsSeparator
    exact Reader.reads_of_denotes h
      ((Reader.denotes_part_iff hplain).mpr (Numeral.denotes_toString hn))

/-- An em space, a sign, digits of two scripts with an underscore between them, and a tab. -/
theorem readers_agree_mixed_scripts :
    (Reader.record .epoch (.object
        [("epoch", .text "\u2003+\u0663_4\t"), ("epoch_position", .int 0),
          ("period_position", .bool true), ("subsidy_position", .text "-0")])).Reads
        "\u2003+\u0663_4\t" (.integer 34)
      ∧ (Reader.environment .halvingInterval fun _ => some "\u2003+\u0663_4\t").Reads
        "\u2003+\u0663_4\t" (.integer 34)
      ∧ (Reader.option (.program .initialSubsidy [.value (.parameter .initialSubsidy) 7 true]
          [.verbose] ["tiers"])).Reads "\u2003+\u0663_4\t" (.integer 34)
      ∧ (Reader.option (.derivation .subsidy [.verbose]
          [.value (.field .epoch) 0 true, .value (.field .epochPosition) 0 false,
            .value .subsidy 5 true]
          [.value (.field .periodPosition) 0 false,
            .value (.field .subsidyPosition) 0 false])).Reads
        "\u2003+\u0663_4\t" (.integer 34) := by
  have hagree : ReadersAgree "\u2003+\u0663_4\t" := readers_agree ⟨'4', by decide, by decide⟩
  have hreads : ∀ r : Reader, r.IsGiven "\u2003+\u0663_4\t" →
      r.Reads "\u2003+\u0663_4\t" (.integer 34) := fun r h =>
    (hagree.reads (by decide) r h 34).mpr (Numeral.denotes_of_readChars (by decide))
  refine ⟨hreads _ ⟨rfl, fun f' hf' => ?_⟩, hreads _ rfl,
    hreads _ ⟨by decide, by decide, by decide, .tiers, rfl⟩,
    hreads _ ⟨by decide, by decide, by decide, by decide, by decide, by decide, fun f hf => ?_⟩⟩
  · cases f' with
    | epoch => exact absurd rfl hf'
    | epochPosition => exact ⟨0, rfl⟩
    | periodPosition => exact ⟨1, rfl⟩
    | subsidyPosition => exact ⟨0, rfl⟩
  · cases f <;> decide

/-- The terminator denotes no integer, and yet an option that it is attached to does not refuse
it. -/
theorem not_refuses_epoch_terminator :
    (∃ c ∈ "--".toList, isSpacing c = false) ∧ ¬ HoldsSeparator "--".toList
      ∧ (∀ n, ¬ Numeral.Denotes "--".toList n)
      ∧ (Reader.option (.derivation (.field .epoch) []
          [.value (.field .epochPosition) 0 false, .value (.field .periodPosition) 0 false,
            .value (.field .subsidyPosition) 0 false] [])).IsGiven "--"
      ∧ ¬ (Reader.option (.derivation (.field .epoch) []
          [.value (.field .epochPosition) 0 false, .value (.field .periodPosition) 0 false,
            .value (.field .subsidyPosition) 0 false] [])).Refuses "--" := by
  refine ⟨⟨'-', by decide, by decide⟩, by decide, Reader.not_denotes_terminator,
    ⟨by decide, by decide, by decide, by decide, by decide, by decide, fun f hf => ?_⟩, ?_⟩
  · cases f with
    | epoch => exact absurd rfl hf
    | _ => decide
  · intro hrefuses
    have hstatus := congrArg Transcript.status (hrefuses (fun _ => none) .called)
    have hfailed : ((run (fun _ => none) ["derive", "--epoch-position", "0", "--period-position",
        "0", "--subsidy-position", "0", "--epoch=--"]).transcript .called).status
          = .failed ⟨.lt, "list", "int"⟩ := by
      decide
    cases hfailed.symm.trans hstatus

end SatRarity
