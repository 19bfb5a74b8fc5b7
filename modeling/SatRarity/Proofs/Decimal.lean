import Mathlib.Data.List.Basic
import Mathlib.Data.List.TakeWhile
import Mathlib.Data.Nat.Digits.Defs
import SatRarity.Text.Numeral

set_option autoImplicit false

/-! # Canonical decimals

The canonical decimal of an integer is what `toString` makes of it: a minus sign or none, and ASCII
digits of which the first is a zero only in `0`. Every reader of numerals takes such a text back to
its integer, as long as there are no more than `digitLimit` digits; this is `Numeral.read_toString`.
And no reader of numerals gives another integer than one that can be written so,
`Numeral.withinLimit_of_read`.

The facts about the digits themselves (their class, their values, their number) come first, since
the readers of option values and of JSON numbers look at the same digits in different ways.
-/

namespace SatRarity.Text

/-! ## ASCII digits -/

/-- The value of an ASCII digit. -/
def digitOf (c : Char) : Nat := c.toNat - 0x30

theorem toNat_of_isDigit {c : Char} (h : c.isDigit = true) : 0x30 ≤ c.toNat ∧ c.toNat ≤ 0x39 := by
  simp only [Char.isDigit, Bool.and_eq_true, decide_eq_true_eq] at h
  exact h

theorem asciiDigitValue?_of_isDigit {c : Char} (h : c.isDigit = true) :
    asciiDigitValue? c = some (digitOf c) := by
  simp [asciiDigitValue?, digitOf, h]

theorem digitValue?_of_isDigit {c : Char} (h : c.isDigit = true) :
    digitValue? c = some (digitOf c) :=
  digitValue?_of_ascii (asciiDigitValue?_of_isDigit h)

theorem isDecimalDigit_of_isDigit {c : Char} (h : c.isDigit = true) : isDecimalDigit c = true := by
  simp [isDecimalDigit, digitValue?_of_isDigit h]

theorem isBlank_of_isDigit {c : Char} (h : c.isDigit = true) : isBlank c = false := by
  have hc := toNat_of_isDigit h
  simp [isBlank, blanks]
  omega

theorem ne_of_isDigit {c d : Char} (h : c.isDigit = true) (hd : d.isDigit = false) : c ≠ d := by
  rintro rfl
  simp [h] at hd

/-! ## Runs of ASCII digits -/

/-- A run of ASCII digits alone is read digit by digit, by whatever reader of single digits. -/
theorem digitRun?_of_isDigit {value? : Char → Option Nat}
    (hvalue : ∀ c : Char, c.isDigit = true → value? c = some (digitOf c)) :
    ∀ {t : List Char}, t ≠ [] → (∀ c ∈ t, c.isDigit = true) →
      digitRun? value? t = some (t.map digitOf)
  | [], hne, _ => absurd rfl hne
  | [c], _, h => by simp [digitRun?, hvalue c (h c (by simp))]
  | c :: d :: rest, _, h => by
    have hc : value? c = some (digitOf c) := hvalue c (h c (by simp))
    -- the second character is no underscore, so the run goes on with it
    have hd : d ≠ '_' := ne_of_isDigit (h d (by simp)) (by decide)
    have hrest : digitRun? value? (d :: rest) = some ((d :: rest).map digitOf) :=
      digitRun?_of_isDigit hvalue (by simp) fun x hx => h x (List.mem_cons_of_mem c hx)
    rw [digitRun?]
    · simp [hc, hrest]
    · simp
    · intro _ hcons
      exact hd (List.cons.inj hcons).1

/-- The digits of a number stand with the most significant first. -/
theorem ofDigits_eq_reverse (ds : List Nat) : ofDigits ds = Nat.ofDigits 10 ds.reverse := by
  have hstep : (fun n d => 10 * n + d) = fun n d : Nat => d + 10 * n := by
    funext n d
    exact Nat.add_comm _ _
  rw [ofDigits, hstep, Nat.ofDigits_eq_foldr, List.foldr_reverse]
  rfl

theorem ofDigits_map_digitOf (t : List Char) :
    ofDigits (t.map digitOf) = Nat.ofDigitChars 10 t 0 := by
  simp only [ofDigits, List.foldl_map, Nat.ofDigitChars_eq_foldl, digitOf]
  rfl

/-! ## The digits of a number -/

theorem isDigit_of_mem_toDigits {n : Nat} {c : Char} (h : c ∈ Nat.toDigits 10 n) :
    c.isDigit = true :=
  Nat.isDigit_of_mem_toDigits (by decide) (by decide) h

theorem digitRun?_toDigits (n : Nat) :
    digitRun? digitValue? (Nat.toDigits 10 n) = some ((Nat.toDigits 10 n).map digitOf) :=
  digitRun?_of_isDigit (fun _ => digitValue?_of_isDigit) Nat.toDigits_ne_nil
    fun _ => isDigit_of_mem_toDigits

theorem ofDigits_toDigits (n : Nat) : ofDigits ((Nat.toDigits 10 n).map digitOf) = n := by
  rw [ofDigits_map_digitOf, Nat.ofDigitChars_ten_toDigits]

theorem exists_toDigits_eq_cons (n : Nat) :
    ∃ c rest, Nat.toDigits 10 n = c :: rest ∧ c.isDigit = true := by
  obtain ⟨c, rest, hcons⟩ := List.exists_cons_of_ne_nil (Nat.toDigits_ne_nil (n := n) (b := 10))
  refine ⟨c, rest, hcons, isDigit_of_mem_toDigits (n := n) ?_⟩
  rw [hcons]
  exact List.mem_cons_self

/-- Only the number zero begins with the digit zero. -/
theorem head?_toDigits_ne_zero {n : Nat} (hn : 0 < n) :
    (Nat.toDigits 10 n).head? ≠ some '0' := by
  induction n using Nat.strongRecOn with
  | ind n ih =>
      rcases Nat.lt_or_ge n 10 with hlt | hge
      · rw [Nat.toDigits_of_lt_base hlt]
        have hdigit : ∀ d < 10, 0 < d → [Nat.digitChar d].head? ≠ some '0' := by decide
        exact hdigit n hlt hn
      · -- the digits of `n / 10` come first, and they are fewer
        have hdiv : 0 < n / 10 := Nat.div_pos hge (by decide)
        have hhead : (Nat.toDigits 10 n).head? = (Nat.toDigits 10 (n / 10)).head? := by
          rw [Nat.toDigits_of_base_le (by decide) hge]
          exact List.head?_append_of_ne_nil _ Nat.toDigits_ne_nil
        rw [hhead]
        exact ih (n / 10) (Nat.div_lt_self hn (by decide)) hdiv

theorem exists_toDigits_eq_cons_of_pos {n : Nat} (hn : 0 < n) :
    ∃ c rest, Nat.toDigits 10 n = c :: rest ∧ c.isDigit = true ∧ c ≠ '0' := by
  obtain ⟨c, rest, hcons, hc⟩ := exists_toDigits_eq_cons n
  have hhead := head?_toDigits_ne_zero hn
  rw [hcons, List.head?_cons] at hhead
  exact ⟨c, rest, hcons, hc, fun hzero => hhead (congrArg some hzero)⟩

/-! ## Decimals -/

/-- A decimal is a minus sign, for a negative integer, and the digits of the magnitude. -/
theorem toList_toString (n : Int) :
    (toString n).toList = (if n < 0 then ['-'] else []) ++ Nat.toDigits 10 n.natAbs := by
  rw [Int.toString_eq_repr, Int.repr_eq_if]
  by_cases hn : n < 0
  · have hmagnitude : (-n).toNat = n.natAbs := by omega
    rw [if_neg (by omega), if_pos hn, hmagnitude, String.toList_append, Nat.toList_repr]
    rfl
  · have hmagnitude : n.toNat = n.natAbs := by omega
    rw [if_pos (by omega), if_neg hn, hmagnitude, Nat.toList_repr, List.nil_append]

/-- A decimal consists of digits, but for a minus sign. -/
theorem eq_minus_or_isDigit {n : Int} {c : Char} (h : c ∈ (toString n).toList) :
    c = '-' ∨ c.isDigit = true := by
  rw [toList_toString] at h
  rcases List.mem_append.mp h with hsign | hdigit
  · split at hsign
    · exact Or.inl (List.mem_singleton.mp hsign)
    · cases hsign
  · exact Or.inr (isDigit_of_mem_toDigits hdigit)

theorem notMem_toString {c : Char} (hsign : c ≠ '-') (hdigit : c.isDigit = false) (n : Int) :
    c ∉ (toString n).toList := by
  intro hc
  rcases eq_minus_or_isDigit hc with hminus | hc
  · exact hsign hminus
  · rw [hdigit] at hc
    cases hc

theorem exists_toList_toString_eq_cons (n : Int) :
    ∃ c rest, (toString n).toList = c :: rest ∧ (c = '-' ∨ c.isDigit = true) := by
  have hne : (toString n).toList ≠ [] := by
    rw [toList_toString]
    exact List.append_ne_nil_of_right_ne_nil _ Nat.toDigits_ne_nil
  obtain ⟨c, rest, hcons⟩ := List.exists_cons_of_ne_nil hne
  refine ⟨c, rest, hcons, eq_minus_or_isDigit (n := n) ?_⟩
  rw [hcons]
  exact List.mem_cons_self

theorem signed_natAbs (n : Int) : signed (decide (n < 0)) n.natAbs = n := by
  unfold signed
  by_cases hn : n < 0
  · rw [decide_eq_true hn, if_pos rfl]
    omega
  · rw [decide_eq_false hn, if_neg Bool.false_ne_true]
    omega

theorem splitSign_toString (n : Int) :
    splitSign (toString n).toList = (decide (n < 0), Nat.toDigits 10 n.natAbs) := by
  rw [toList_toString]
  by_cases hn : n < 0
  · simp [hn, splitSign]
  · -- the first character is a digit, so it is no sign
    obtain ⟨c, rest, hcons, hc⟩ := exists_toDigits_eq_cons n.natAbs
    simp only [hn, if_false, List.nil_append, decide_false, hcons]
    unfold splitSign
    split
    · exact absurd (ne_of_isDigit hc (d := '-') (by decide)) (by simp_all)
    · exact absurd (ne_of_isDigit hc (d := '+') (by decide)) (by simp_all)
    · rfl

/-- Different integers have different decimals. -/
theorem toString_injective {m n : Int} (h : toString m = toString n) : m = n := by
  have hsplit := splitSign_toString m
  rw [h, splitSign_toString n] at hsplit
  obtain ⟨hsign, hdigits⟩ := Prod.mk.inj hsplit
  have hmagnitude : n.natAbs = m.natAbs := by
    rw [← ofDigits_toDigits n.natAbs, hdigits, ofDigits_toDigits]
  calc m = signed (decide (m < 0)) m.natAbs := (signed_natAbs m).symm
    _ = signed (decide (n < 0)) n.natAbs := by rw [hsign, hmagnitude]
    _ = n := signed_natAbs n

theorem takeWhile_toString_append (n : Int) (rest : List Char) :
    ((toString n).toList ++ ' ' :: rest).takeWhile (· ≠ ' ') = (toString n).toList := by
  have hspace : ' ' ∉ (toString n).toList := notMem_toString (by decide) (by decide) n
  have hdecimal : ∀ c ∈ (toString n).toList, decide (c ≠ ' ') = true := by
    intro c hc
    exact decide_eq_true fun h => hspace (h ▸ hc)
  rw [List.takeWhile_append_of_pos hdecimal, List.takeWhile_cons_of_neg (by decide),
    List.append_nil]

/-- A decimal has no space, so it is told from what follows the first space. -/
theorem toString_append_space_inj {m n : Int} {rest rest' : List Char}
    (h : (toString m).toList ++ ' ' :: rest = (toString n).toList ++ ' ' :: rest') :
    m = n ∧ rest = rest' := by
  have hdecimals : (toString m).toList = (toString n).toList := by
    rw [← takeWhile_toString_append m rest, h, takeWhile_toString_append n rest']
  obtain rfl := toString_injective (String.toList_inj.mp hdecimals)
  exact ⟨rfl, (List.cons.inj (List.append_cancel_left h)).2⟩

/-! ## Reading decimals -/

theorem dropWhile_isBlank_toString (n : Int) :
    (toString n).toList.dropWhile isBlank = (toString n).toList := by
  have hblank : ∀ c ∈ (toString n).toList, isBlank c = false := by
    intro c hc
    rcases eq_minus_or_isDigit hc with rfl | hdigit
    · decide
    · exact isBlank_of_isDigit hdigit
  refine List.dropWhile_eq_self_iff.mpr fun hpos => ?_
  rw [hblank _ (List.getElem_mem hpos)]
  exact Bool.false_ne_true

/-- The reader of numerals takes the decimal of an integer back to it. -/
theorem Numeral.readChars_toString {n : Int} (h : WithinLimit n) :
    Numeral.readChars (toString n).toList = .ok n := by
  have hrun : ∀ c ∈ Nat.toDigits 10 n.natAbs, isRunChar c = true := by
    intro c hc
    simp [isRunChar, isDecimalDigit_of_isDigit (isDigit_of_mem_toDigits hc)]
  have htake := List.takeWhile_eq_self_iff.mpr hrun
  have hdrop := List.dropWhile_eq_nil_iff.mpr hrun
  have hlimit : ¬ digitLimit < ((Nat.toDigits 10 n.natAbs).map digitOf).length := by
    rw [List.length_map]
    exact Nat.not_lt.mpr h
  unfold readChars
  rw [dropWhile_isBlank_toString, splitSign_toString]
  simp only [htake, hdrop, digitRun?_toDigits, ofDigits_toDigits, signed_natAbs, List.all_nil,
    if_true]
  rw [if_neg hlimit]

theorem Numeral.read_toString {n : Int} (h : WithinLimit n) :
    Numeral.read (toString n) = .ok n :=
  Numeral.readChars_toString h

/-! ## The limit -/

/-- The integers within the limit are those whose magnitude is below a power of ten. -/
theorem withinLimit_iff {n : Int} : WithinLimit n ↔ n.natAbs < 10 ^ digitLimit :=
  Nat.length_toDigits_le_iff (by decide) (by decide)

theorem withinLimit_of_lt {n : Int} {e : Nat} (he : e ≤ digitLimit) (h : n.natAbs < 10 ^ e) :
    WithinLimit n := by
  rw [withinLimit_iff]
  calc n.natAbs < 10 ^ e := h
    _ ≤ 10 ^ digitLimit := Nat.pow_le_pow_right (by decide) he

/-- What is no farther from zero has no more digits. -/
theorem WithinLimit.of_natAbs_le {m n : Int} (h : WithinLimit n) (hle : m.natAbs ≤ n.natAbs) :
    WithinLimit m := by
  rw [withinLimit_iff] at h ⊢
  calc m.natAbs ≤ n.natAbs := hle
    _ < 10 ^ digitLimit := h

theorem natAbs_signed (negative : Bool) (n : Nat) : (signed negative n).natAbs = n := by
  cases negative <;> simp [signed]

/-- A run of digits within the limit denotes an integer within the limit. -/
theorem withinLimit_signed (negative : Bool) {ds : List Nat} (hds : ∀ d ∈ ds, d < 10)
    (hlength : ds.length ≤ digitLimit) : WithinLimit (signed negative (ofDigits ds)) := by
  refine withinLimit_of_lt hlength ?_
  rw [natAbs_signed, ofDigits_eq_reverse, ← List.length_reverse]
  exact Nat.ofDigits_lt_base_pow_length (by decide) fun d hd => hds d (List.mem_reverse.mp hd)

theorem asciiDigitValue?_lt {c : Char} {d : Nat} (h : asciiDigitValue? c = some d) : d < 10 :=
  digitValue?_lt (digitValue?_of_ascii h)

/-- The values of a run are digits. -/
theorem lt_of_digitRun? {value? : Char → Option Nat}
    (hvalue : ∀ c d, value? c = some d → d < 10) {t : List Char} {ds : List Nat}
    (h : digitRun? value? t = some ds) : ∀ d ∈ ds, d < 10 := by
  have hcons : ∀ {c : Char} {rest : Option (List Nat)} {ds : List Nat},
      (∀ ds, rest = some ds → ∀ d ∈ ds, d < 10) →
      (do let d ← value? c; let ds ← rest; pure (d :: ds)) = some ds → ∀ d ∈ ds, d < 10 := by
    intro c rest ds hrest hds
    simp only [Option.bind_eq_bind, Option.bind_eq_some_iff, Option.pure_def,
      Option.some.injEq] at hds
    obtain ⟨d, hd, ds', hds', rfl⟩ := hds
    exact List.forall_mem_cons.mpr ⟨hvalue c d hd, hrest ds' hds'⟩
  fun_induction digitRun? value? t generalizing ds with
  | case1 => cases h
  | case2 c =>
      obtain ⟨d, hd, rfl⟩ := Option.map_eq_some_iff.mp h
      simpa using hvalue c d hd
  | case3 c rest ih => exact hcons (fun ds => ih) h
  | case4 c rest _ _ ih => exact hcons (fun ds => ih) h

/-- An integer that was read as a numeral keeps to the limit. -/
theorem Numeral.withinLimit_of_readChars {t : List Char} {n : Int}
    (h : Numeral.readChars t = .ok n) : WithinLimit n := by
  unfold Numeral.readChars at h
  dsimp only at h
  split at h
  case h_1 => cases h
  case h_2 ds hrun =>
    split at h
    · cases h
    · split at h
      · obtain rfl := Except.ok.inj h
        exact withinLimit_signed _ (lt_of_digitRun? (fun _ _ => digitValue?_lt) hrun) (by omega)
      · cases h

theorem Numeral.withinLimit_of_read {text : String} {n : Int} (h : Numeral.read text = .ok n) :
    WithinLimit n :=
  Numeral.withinLimit_of_readChars h

end SatRarity.Text
