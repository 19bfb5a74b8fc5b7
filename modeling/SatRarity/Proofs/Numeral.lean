import SatRarity.Proofs.Decimal

set_option autoImplicit false

/-! # What a numeral denotes

A numeral is a sign or none and a run of decimal digits, with blanks around them. `Denotes` is the
relation between the texts of this form and the integers, and the reader of numerals decides it:
`readChars_eq_ok_iff` says that a text is read as an integer just if it denotes it. Cutting blanks
from the ends of a text makes no difference to that, `denotes_trim_iff`, as no part of a numeral is
spacing.
-/

namespace SatRarity.Text

/-! ## Runs of digits -/

/-- The characters are decimal digits of the given values, but for single underscores between
them. -/
inductive IsRun : List Char → List Nat → Prop
  | last {c : Char} {d : Nat} (h : digitValue? c = some d) : IsRun [c] [d]
  | digit {c : Char} {d : Nat} {t : List Char} {ds : List Nat} (h : digitValue? c = some d)
    (ht : IsRun t ds) : IsRun (c :: t) (d :: ds)
  | underscore {c : Char} {d : Nat} {t : List Char} {ds : List Nat} (h : digitValue? c = some d)
    (ht : IsRun t ds) : IsRun (c :: '_' :: t) (d :: ds)

theorem isDecimalDigit_of_digitValue? {c : Char} {d : Nat} (h : digitValue? c = some d) :
    isDecimalDigit c = true := by
  rw [isDecimalDigit, h]
  rfl

theorem ne_of_isDecimalDigit {c d : Char} (h : isDecimalDigit c = true)
    (hd : isDecimalDigit d = false) : c ≠ d := by
  rintro rfl
  rw [h] at hd
  cases hd

namespace IsRun

variable {t : List Char} {ds : List Nat}

/-- A run begins with a digit. -/
theorem exists_cons (h : IsRun t ds) : ∃ c rest, t = c :: rest ∧ isDecimalDigit c = true := by
  cases h with
  | last h => exact ⟨_, _, rfl, isDecimalDigit_of_digitValue? h⟩
  | digit h _ => exact ⟨_, _, rfl, isDecimalDigit_of_digitValue? h⟩
  | underscore h _ => exact ⟨_, _, rfl, isDecimalDigit_of_digitValue? h⟩

theorem isRunChar (h : IsRun t ds) : ∀ c ∈ t, Numeral.isRunChar c = true := by
  have hdigit : ∀ {c : Char} {d : Nat}, digitValue? c = some d → Numeral.isRunChar c = true := by
    intro c d hc
    simp [Numeral.isRunChar, isDecimalDigit_of_digitValue? hc]
  induction h with
  | last h => simpa using hdigit h
  | digit h _ ih => exact List.forall_mem_cons.mpr ⟨hdigit h, ih⟩
  | underscore h _ ih =>
      exact List.forall_mem_cons.mpr ⟨hdigit h, List.forall_mem_cons.mpr ⟨by decide, ih⟩⟩

theorem digitRun?_eq (h : IsRun t ds) : digitRun? digitValue? t = some ds := by
  induction h with
  | last h => simp [digitRun?, h]
  | @digit c d t ds h ht ih =>
      -- the run goes on with a digit, so that the equation for underscores does not apply
      obtain ⟨c', rest, rfl, hc'⟩ := ht.exists_cons
      have hunderscore : c' ≠ '_' := ne_of_isDecimalDigit hc' (by decide)
      rw [digitRun?]
      · simp [h, ih]
      · simp
      · intro _ hcons
        exact hunderscore (List.cons.inj hcons).1
  | underscore h _ ih => simp [digitRun?, h, ih]

end IsRun

theorem isRun_of_digitRun? {t : List Char} {ds : List Nat}
    (h : digitRun? digitValue? t = some ds) : IsRun t ds := by
  fun_induction digitRun? digitValue? t generalizing ds with
  | case1 => cases h
  | case2 c =>
      obtain ⟨d, hd, rfl⟩ := Option.map_eq_some_iff.mp h
      exact .last hd
  | case3 c rest ih =>
      simp only [Option.bind_eq_bind, Option.bind_eq_some_iff, Option.pure_def,
        Option.some.injEq] at h
      obtain ⟨d, hd, ds', hds', rfl⟩ := h
      exact .underscore hd (ih hds')
  | case4 c rest _ _ ih =>
      simp only [Option.bind_eq_bind, Option.bind_eq_some_iff, Option.pure_def,
        Option.some.injEq] at h
      obtain ⟨d, hd, ds', hds', rfl⟩ := h
      exact .digit hd (ih hds')

theorem digitRun?_eq_some_iff {t : List Char} {ds : List Nat} :
    digitRun? digitValue? t = some ds ↔ IsRun t ds :=
  ⟨isRun_of_digitRun?, IsRun.digitRun?_eq⟩

/-! ## Spacing -/

/-- No decimal digit of any script is spacing. -/
theorem isSpacing_of_isDecimalDigit {c : Char} (h : isDecimalDigit c = true) :
    isSpacing c = false := by
  have htable : ∀ first ∈ digitZeros,
      0x20 ≤ first ∧ ∀ blank ∈ blanks, blank < first ∨ first + 10 ≤ blank := by
    decide +kernel
  obtain ⟨d, hd⟩ := Option.isSome_iff_exists.mp h
  obtain ⟨first, hfirst, -⟩ := Option.map_eq_some_iff.mp hd
  have hrange := List.find?_some hfirst
  obtain ⟨hlow, hblank⟩ := htable first (List.mem_of_find?_eq_some hfirst)
  simp only [Bool.and_eq_true, decide_eq_true_eq] at hrange
  have hnotBlank : c.toNat ∉ blanks := fun hmem => by
    have := hblank _ hmem
    omega
  simp only [isSpacing, isBlank, List.contains_eq_mem, hnotBlank, decide_false, Bool.false_or,
    Bool.and_eq_false_iff, decide_eq_false_iff_not]
  omega

theorem isSpacing_of_isRunChar {c : Char} (h : Numeral.isRunChar c = true) :
    isSpacing c = false := by
  simp only [Numeral.isRunChar, Bool.or_eq_true, beq_iff_eq] at h
  rcases h with hdigit | rfl
  · exact isSpacing_of_isDecimalDigit hdigit
  · decide

theorem isBlank_of_isSpacing_eq_false {c : Char} (h : isSpacing c = false) : isBlank c = false := by
  cases hblank : isBlank c with
  | false => rfl
  | true => rw [isSpacing_of_isBlank hblank] at h; cases h

/-! ## Numerals -/

namespace Numeral

/-- The signs of a numeral and the factors that they stand for. -/
def signs : List (List Char × Int) := [([], 1), (['+'], 1), (['-'], -1)]

/-- The text denotes the integer: between blanks it is a sign and a run of digits within the limit,
of which the most significant stands first. -/
inductive Denotes : List Char → Int → Prop
  | of_parts {before sign run after : List Char} {factor : Int} {ds : List Nat}
    (hbefore : ∀ c ∈ before, isBlank c = true) (hsign : (sign, factor) ∈ signs)
    (hrun : IsRun run ds) (hlimit : ds.length ≤ digitLimit)
    (hafter : ∀ c ∈ after, isBlank c = true) :
    Denotes (before ++ (sign ++ run) ++ after) (factor * (Nat.ofDigits 10 ds.reverse : Nat))

/-- Every text begins with one of the signs. -/
theorem exists_sign (t : List Char) :
    ∃ sign factor, (sign, factor) ∈ signs ∧ t = sign ++ (splitSign t).2
      ∧ ∀ m : Nat, signed (splitSign t).1 m = factor * m := by
  unfold splitSign
  split
  · exact ⟨['-'], -1, by decide, rfl, fun m => by simp [signed]⟩
  · exact ⟨['+'], 1, by decide, rfl, fun m => by simp [signed]⟩
  · exact ⟨[], 1, by decide, rfl, fun m => by simp [signed]⟩

/-- A sign before a digit is split off. -/
theorem exists_splitSign {sign : List Char} {factor : Int} (h : (sign, factor) ∈ signs) {c : Char}
    (hc : isDecimalDigit c = true) (rest : List Char) :
    ∃ negative, splitSign (sign ++ c :: rest) = (negative, c :: rest)
      ∧ ∀ m : Nat, signed negative m = factor * m := by
  simp only [signs, List.mem_cons, Prod.mk.injEq, List.not_mem_nil, or_false] at h
  rcases h with ⟨rfl, rfl⟩ | ⟨rfl, rfl⟩ | ⟨rfl, rfl⟩
  · have hminus : c ≠ '-' := ne_of_isDecimalDigit hc (by decide)
    have hplus : c ≠ '+' := ne_of_isDecimalDigit hc (by decide)
    refine ⟨false, ?_, fun m => by simp [signed]⟩
    rw [List.nil_append, splitSign]
    · intro rest' hcons
      exact hminus (List.cons.inj hcons).1
    · intro rest' hcons
      exact hplus (List.cons.inj hcons).1
  · exact ⟨false, rfl, fun m => by simp [signed]⟩
  · exact ⟨true, rfl, fun m => by simp [signed]⟩

/-- No character of a sign and a run is spacing. -/
theorem isSpacing_of_mem_core {sign run : List Char} {factor : Int} {ds : List Nat}
    (hsign : (sign, factor) ∈ signs) (hrun : IsRun run ds) :
    ∀ c ∈ sign ++ run, isSpacing c = false := by
  have hplus : isSpacing '+' = false := by decide
  have hminus : isSpacing '-' = false := by decide
  have hsigns : ∀ s ∈ signs, ∀ c ∈ s.1, isSpacing c = false := by
    simp [signs, hplus, hminus]
  intro c hc
  rcases List.mem_append.mp hc with hc | hc
  · exact hsigns _ hsign c hc
  · exact isSpacing_of_isRunChar (hrun.isRunChar c hc)

/-- What is read as an integer denotes it. -/
theorem denotes_of_readChars {t : List Char} {n : Int} (h : readChars t = .ok n) :
    Denotes t n := by
  obtain ⟨sign, factor, hsign, hbody, hsigned⟩ := exists_sign (t.dropWhile isBlank)
  rw [readChars] at h
  generalize splitSign (t.dropWhile isBlank) = split at h hbody hsigned
  obtain ⟨negative, body⟩ := split
  dsimp only at h hbody hsigned
  split at h
  case h_1 => cases h
  case h_2 ds hrun =>
    split at h
    case isTrue => cases h
    case isFalse hlimit =>
      split at h
      case isFalse => cases h
      case isTrue hafter =>
        have htext : t.takeWhile isBlank ++ (sign ++ body.takeWhile isRunChar)
            ++ body.dropWhile isRunChar = t := by
          rw [List.append_assoc, List.append_assoc, List.takeWhile_append_dropWhile, ← hbody,
            List.takeWhile_append_dropWhile]
        rw [← Except.ok.inj h, hsigned, ofDigits_eq_reverse, ← htext]
        exact .of_parts (fun c hc => List.mem_takeWhile_imp hc) hsign
          (digitRun?_eq_some_iff.mp hrun) (Nat.not_lt.mp hlimit) (List.all_eq_true.mp hafter)

/-- Blanks before a text that begins with no blank are dropped, and nothing else. -/
theorem dropWhile_isBlank_append {before core : List Char}
    (hbefore : ∀ c ∈ before, isBlank c = true) (hne : core ≠ [])
    (hcore : ∀ c ∈ core, isSpacing c = false) (after : List Char) :
    (before ++ core ++ after).dropWhile isBlank = core ++ after := by
  obtain ⟨c, rest, rfl⟩ := List.exists_cons_of_ne_nil hne
  have hc : isBlank c = false := isBlank_of_isSpacing_eq_false (hcore c List.mem_cons_self)
  rw [List.append_assoc, List.dropWhile_append_of_pos hbefore, List.cons_append,
    List.dropWhile_cons_of_neg (by simp [hc])]

/-- A run ends where blanks follow it, or nothing. -/
theorem span_isRunChar_append {run after : List Char} (hrun : ∀ c ∈ run, isRunChar c = true)
    (hafter : ∀ c ∈ after, isBlank c = true) :
    (run ++ after).takeWhile isRunChar = run ∧ (run ++ after).dropWhile isRunChar = after := by
  have hblank : ∀ c ∈ after, isRunChar c = false := by
    intro c hc
    cases hchar : isRunChar c with
    | false => rfl
    | true =>
        have hspacing := isSpacing_of_isRunChar hchar
        rw [isSpacing_of_isBlank (hafter c hc)] at hspacing
        cases hspacing
  rw [List.takeWhile_append_of_pos hrun, List.dropWhile_append_of_pos hrun]
  cases after with
  | nil => simp
  | cons c after => simp [hblank c List.mem_cons_self]

/-- What denotes an integer is read as it. -/
theorem Denotes.readChars_eq {t : List Char} {n : Int} (h : Denotes t n) :
    readChars t = .ok n := by
  obtain @⟨before, sign, run, after, factor, ds, hbefore, hsign, hrun, hlimit, hafter⟩ := h
  obtain ⟨c, rest, rfl, hc⟩ := hrun.exists_cons
  obtain ⟨negative, hsplit, hsigned⟩ := exists_splitSign hsign hc (rest ++ after)
  obtain ⟨htake, hdrop⟩ := span_isRunChar_append hrun.isRunChar hafter
  have hall : after.all isBlank = true := List.all_eq_true.mpr hafter
  rw [List.cons_append] at htake hdrop
  rw [readChars, dropWhile_isBlank_append hbefore (by simp) (isSpacing_of_mem_core hsign hrun),
    List.append_assoc, List.cons_append, hsplit]
  simp only [htake, hdrop, hrun.digitRun?_eq, if_neg (Nat.not_lt.mpr hlimit), hall, if_true,
    hsigned, ofDigits_eq_reverse]

/-- A text is read as an integer just if it denotes it. -/
theorem readChars_eq_ok_iff {t : List Char} {n : Int} : readChars t = .ok n ↔ Denotes t n :=
  ⟨denotes_of_readChars, Denotes.readChars_eq⟩

/-- A text that denotes no integer is refused. -/
theorem exists_readChars_eq_error_iff {t : List Char} :
    (∃ e, readChars t = .error e) ↔ ∀ n, ¬ Denotes t n := by
  simp only [← readChars_eq_ok_iff]
  cases readChars t <;> simp

/-- An integer within the limit is denoted by its decimal. -/
theorem denotes_toString {n : Int} (h : WithinLimit n) : Denotes (toString n).toList n :=
  denotes_of_readChars (readChars_toString h)

/-- No character of a decimal is spacing. -/
theorem isSpacing_of_mem_toString (n : Int) : ∀ c ∈ (toString n).toList, isSpacing c = false := by
  intro c hc
  rcases eq_minus_or_isDigit hc with rfl | hdigit
  · decide
  · exact isSpacing_of_isDecimalDigit (isDecimalDigit_of_isDigit hdigit)

end Numeral

/-! ## Trimming -/

/-- What is cut from the ends of a text is of the class. -/
theorem exists_trim (p : Char → Bool) (t : List Char) :
    ∃ left right, t = left ++ trim p t ++ right ∧ (∀ c ∈ left, p c = true)
      ∧ ∀ c ∈ right, p c = true := by
  refine ⟨t.takeWhile p, ((t.dropWhile p).reverse.takeWhile p).reverse, ?_,
    fun c hc => List.mem_takeWhile_imp hc, fun c hc => ?_⟩
  · have hright : (t.dropWhile p).reverse.takeWhile p ++ (t.dropWhile p).reverse.dropWhile p
        = (t.dropWhile p).reverse := List.takeWhile_append_dropWhile
    rw [trim, trimRight, List.append_assoc, ← List.reverse_append, hright, List.reverse_reverse,
      List.takeWhile_append_dropWhile]
  · exact List.mem_takeWhile_imp (List.mem_reverse.mp hc)

theorem mem_of_mem_trim {p : Char → Bool} {t : List Char} {c : Char} (h : c ∈ trim p t) :
    c ∈ t := by
  obtain ⟨left, right, htext, -, -⟩ := exists_trim p t
  rw [htext]
  exact List.mem_append_left _ (List.mem_append_right _ h)

theorem dropWhile_eq_self {p : Char → Bool} {t : List Char} (h : ∀ c ∈ t, p c = false) :
    t.dropWhile p = t := by
  refine List.dropWhile_eq_self_iff.mpr fun hpos => ?_
  rw [h _ (List.getElem_mem hpos)]
  exact Bool.false_ne_true

/-- Of a text between characters of the class, none of which it holds itself, all is left. -/
theorem trim_append {p : Char → Bool} {left core right : List Char}
    (hleft : ∀ c ∈ left, p c = true) (hcore : ∀ c ∈ core, p c = false)
    (hright : ∀ c ∈ right, p c = true) : trim p (left ++ core ++ right) = core := by
  have htrimRight : trimRight p (core ++ right) = core := by
    have hreverse : ∀ c ∈ right.reverse, p c = true :=
      fun c hc => hright c (List.mem_reverse.mp hc)
    rw [trimRight, List.reverse_append, List.dropWhile_append_of_pos hreverse,
      dropWhile_eq_self fun c hc => hcore c (List.mem_reverse.mp hc), List.reverse_reverse]
  rw [trim, List.append_assoc, List.dropWhile_append_of_pos hleft]
  cases core with
  | nil => rw [List.nil_append, List.dropWhile_eq_nil_iff.mpr hright]; rfl
  | cons c core =>
      rw [List.cons_append, List.dropWhile_cons_of_neg (by simp [hcore c List.mem_cons_self]),
        ← List.cons_append, htrimRight]

/-- Nothing is left of a text just if all of it is of the class. -/
theorem trim_eq_nil_iff {p : Char → Bool} {t : List Char} :
    trim p t = [] ↔ ∀ c ∈ t, p c = true := by
  constructor
  · intro h
    obtain ⟨left, right, htext, hleft, hright⟩ := exists_trim p t
    rw [h, List.append_nil] at htext
    rw [htext]
    exact List.forall_mem_append.mpr ⟨hleft, hright⟩
  · intro h
    rw [trim, List.dropWhile_eq_nil_iff.mpr h]
    rfl

/-- A separator control: it is cut from the ends of a text, but stands around no numeral. -/
def IsSeparator (c : Char) : Prop := 0x1C ≤ c.toNat ∧ c.toNat ≤ 0x1F

instance (c : Char) : Decidable (IsSeparator c) := inferInstanceAs (Decidable (_ ∧ _))

/-- A separator stands somewhere in the text. -/
def HoldsSeparator (t : List Char) : Prop := ∃ c ∈ t, IsSeparator c

instance (t : List Char) : Decidable (HoldsSeparator t) :=
  decidable_of_iff ((t.any fun c => decide (IsSeparator c)) = true)
    (by simp only [HoldsSeparator, List.any_eq_true, decide_eq_true_eq])

theorem isSpacing_iff {c : Char} : isSpacing c = true ↔ isBlank c = true ∨ IsSeparator c := by
  simp [isSpacing, IsSeparator]

theorem not_isSeparator_of_isBlank {c : Char} (h : isBlank c = true) : ¬ IsSeparator c := by
  have hblanks : ∀ n ∈ blanks, ¬ (0x1C ≤ n ∧ n ≤ 0x1F) := by decide
  exact hblanks _ (List.contains_iff_mem.mp h)

namespace Numeral

variable {t : List Char} {n : Int}

/-- A numeral holds no separator. -/
theorem Denotes.not_holdsSeparator (h : Denotes t n) : ¬ HoldsSeparator t := by
  obtain ⟨hbefore, hsign, hrun, -, hafter⟩ := h
  have hcore := isSpacing_of_mem_core hsign hrun
  rintro ⟨c, hc, hseparator⟩
  rcases List.mem_append.mp hc with hc | hc
  · rcases List.mem_append.mp hc with hc | hc
    · exact not_isSeparator_of_isBlank (hbefore c hc) hseparator
    · have hspacing := isSpacing_iff.mpr (Or.inr hseparator)
      rw [hcore c hc] at hspacing
      cases hspacing
  · exact not_isSeparator_of_isBlank (hafter c hc) hseparator

/-- A numeral denotes the same without the spacing at its ends. -/
theorem Denotes.trim (h : Denotes t n) : Denotes (trim isSpacing t) n := by
  obtain @⟨before, sign, run, after, factor, ds, hbefore, hsign, hrun, hlimit, hafter⟩ := h
  have hnone : ∀ c ∈ ([] : List Char), isBlank c = true := List.forall_mem_nil _
  have hparts := Denotes.of_parts hnone hsign hrun hlimit hnone
  rwa [List.nil_append, List.append_nil, ← trim_append
    (fun c hc => isSpacing_of_isBlank (hbefore c hc)) (isSpacing_of_mem_core hsign hrun)
    fun c hc => isSpacing_of_isBlank (hafter c hc)] at hparts

/-- A numeral denotes the same with more blanks around it. -/
theorem Denotes.pad (h : Denotes t n) {left right : List Char}
    (hleft : ∀ c ∈ left, isBlank c = true) (hright : ∀ c ∈ right, isBlank c = true) :
    Denotes (left ++ t ++ right) n := by
  obtain @⟨before, sign, run, after, factor, ds, hbefore, hsign, hrun, hlimit, hafter⟩ := h
  have hparts := Denotes.of_parts (List.forall_mem_append.mpr ⟨hleft, hbefore⟩) hsign hrun hlimit
    (List.forall_mem_append.mpr ⟨hafter, hright⟩)
  simpa only [List.append_assoc] using hparts

/-- A numeral is more than spacing. -/
theorem Denotes.exists_not_isSpacing (h : Denotes t n) : ∃ c ∈ t, isSpacing c = false := by
  obtain ⟨-, hsign, hrun, -, -⟩ := h
  have hcore := isSpacing_of_mem_core hsign hrun
  obtain ⟨c, rest, rfl, -⟩ := hrun.exists_cons
  exact ⟨c, by simp, hcore c (by simp)⟩

/-- Without separators, trimming makes no difference to what is denoted. -/
theorem denotes_trim_iff (ht : ¬ HoldsSeparator t) :
    Denotes (Text.trim isSpacing t) n ↔ Denotes t n := by
  refine ⟨fun h => ?_, Denotes.trim⟩
  obtain ⟨left, right, htext, hleft, hright⟩ := exists_trim isSpacing t
  have hblank : ∀ c ∈ t, isSpacing c = true → isBlank c = true := by
    intro c hc hspacing
    exact (isSpacing_iff.mp hspacing).resolve_right fun hseparator => ht ⟨c, hc, hseparator⟩
  rw [htext]
  refine h.pad (fun c hc => hblank c ?_ (hleft c hc)) fun c hc => hblank c ?_ (hright c hc)
  · rw [htext]
    simp [hc]
  · rw [htext]
    simp [hc]

end Numeral

end SatRarity.Text
