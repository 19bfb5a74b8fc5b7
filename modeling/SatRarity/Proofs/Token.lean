import SatRarity.Json.Reader
import SatRarity.Json.Writer
import SatRarity.Proofs.Decimal

set_option autoImplicit false

/-! # Written tokens

What the reader makes of each kind of token that the writer puts out, whatever follows it: the
white space of a layout is skipped, a written text is the text again, and a decimal is the integer
again as long as no character follows that could be a part of a number. In a written value every
token is followed by a comma, a closing bracket or brace, or a line break, if by anything;
`IsDelimited` says so.
-/

namespace SatRarity.Json

open Text

theorem plain_append (s t : List Char) : plain (s ++ t) = plain s ++ plain t := List.map_append

/-! ## White space -/

theorem skipSpace_of_isSpace_eq_false {p : CodePoint} (h : isSpace p = false) (t : Source) :
    skipSpace (p :: t) = p :: t := by
  simp [skipSpace, h]

theorem isSpace_of_isDigit {c : Char} (h : c.isDigit = true) : isSpace (.char c) = false := by
  have hspace : c ≠ ' ' := ne_of_isDigit h (by decide)
  have htab : c ≠ '\t' := ne_of_isDigit h (by decide)
  have hline : c ≠ '\n' := ne_of_isDigit h (by decide)
  have hreturn : c ≠ '\r' := ne_of_isDigit h (by decide)
  simp [isSpace, hspace, htab, hline, hreturn]

theorem skipSpace_lineBreak (layout : Layout) (depth : Nat) (t : Source) :
    skipSpace (layout.lineBreak depth ++ t) = skipSpace t := by
  unfold skipSpace
  apply List.dropWhile_append_of_pos
  intro p hp
  cases layout with
  | compact => cases hp
  | indented =>
      simp only [Layout.lineBreak, plain, List.map_cons, List.map_replicate, List.mem_cons,
        List.mem_replicate] at hp
      rcases hp with rfl | ⟨-, rfl⟩ <;> decide

/-- The colon of a layout is a colon, and white space after it or none. -/
theorem exists_colon (layout : Layout) :
    ∃ space, layout.colon = .char ':' :: space ∧ ∀ t, skipSpace (space ++ t) = skipSpace t := by
  cases layout with
  | compact => exact ⟨[], rfl, fun t => rfl⟩
  | indented =>
      refine ⟨[.char ' '], rfl, fun t => ?_⟩
      simp [skipSpace, isSpace]

/-! ## Texts -/

/-- Below the surrogates a code unit is a code point of its own, whatever stands next to it. -/
theorem joinPairs_unit {n : Nat} (h : n < 0xD800) (pieces : List Piece) :
    joinPairs (.unit n :: pieces) = .char (Char.ofNat n) :: joinPairs pieces := by
  have hhigh : isHighSurrogate n = false := by simp [isHighSurrogate]; omega
  have hlow : isLowSurrogate n = false := by simp [isLowSurrogate]; omega
  -- the equations of `joinPairs` differ by what stands next to the unit
  match pieces with
  | [] => simp [joinPairs, CodePoint.ofNat, hhigh, hlow]
  | .point p :: rest => simp [joinPairs, CodePoint.ofNat, hhigh, hlow]
  | .unit m :: rest => simp [joinPairs, CodePoint.ofNat, hhigh, hlow]

theorem readPieces_unit {n : Nat} (h : n < 0x20) (t : Source) :
    readPieces (plain ('\\' :: 'u' :: hexDigits 4 n) ++ t)
      = (readPieces t).map fun (pieces, after) => (.unit n :: pieces, after) := by
  -- there are few control characters, so their digits are looked at one by one
  have hunit : ∀ n < 0x20, ∃ a b c d, hexDigits 4 n = [a, b, c, d]
      ∧ codeUnit? (.char a) (.char b) (.char c) (.char d) = some n := by
    intro n hn
    refine ⟨'0', '0', Nat.digitChar (n / 16), Nat.digitChar (n % 16), ?_⟩
    revert n
    decide
  obtain ⟨a, b, c, d, hdigits, hvalue⟩ := hunit n h
  rw [hdigits]
  simp [plain, readPieces, hvalue]

/-- A written code point is read back, either as itself or as a code unit that is joined with no
other. -/
theorem exists_piece (p : CodePoint) :
    ∃ piece : Piece,
      (∀ t, readPieces (writePoint p ++ t)
        = (readPieces t).map fun (pieces, after) => (piece :: pieces, after))
      ∧ ∀ pieces, joinPairs (piece :: pieces) = p :: joinPairs pieces := by
  match p with
  | .surrogate n =>
      exact ⟨.point (.surrogate n), fun t => by simp [writePoint, readPieces, isBare], fun _ => rfl⟩
  | .char c =>
      by_cases hletter : c ∈ ['"', '\\', '\n', '\r', '\t', '\x08', '\x0c']
      · -- an escape by a letter, or by the character itself
        refine ⟨.point (.char c), fun t => ?_, fun _ => rfl⟩
        simp only [List.mem_cons, List.not_mem_nil, or_false] at hletter
        rcases hletter with rfl | rfl | rfl | rfl | rfl | rfl | rfl <;>
          simp [writePoint, writeChar, plain, readPieces, letterEscape?]
      · simp only [List.mem_cons, List.not_mem_nil, or_false, not_or] at hletter
        obtain ⟨hquote, hslash, hn, hr, ht, hb, hf⟩ := hletter
        by_cases hcontrol : c.toNat < 0x20
        · -- an escape by the code unit
          have hwrite : writeChar c = '\\' :: 'u' :: hexDigits 4 c.toNat := by
            simp [writeChar, hquote, hslash, hn, hr, ht, hb, hf, hcontrol]
          refine ⟨.unit c.toNat, fun t => ?_, fun pieces => ?_⟩
          · rw [writePoint, hwrite, readPieces_unit hcontrol]
          · rw [joinPairs_unit (by omega), Char.ofNat_toNat]
        · -- the character as it is
          have hwrite : writeChar c = [c] := by
            simp [writeChar, hquote, hslash, hn, hr, ht, hb, hf, hcontrol]
          refine ⟨.point (.char c), fun t => ?_, fun _ => rfl⟩
          have hbare : isBare (.char c) = true := by
            simp [isBare, hslash, Nat.le_of_not_lt hcontrol]
          rw [writePoint, hwrite]
          simp [plain, readPieces, hquote, hslash, hbare]

/-- The pieces of a written text are joined to its code points. -/
theorem exists_pieces (points : List CodePoint) (t : Source) :
    ∃ pieces, readPieces (points.flatMap writePoint ++ .char '"' :: t) = .ok (pieces, t)
      ∧ joinPairs pieces = points := by
  induction points with
  | nil => exact ⟨[], by simp [readPieces], rfl⟩
  | cons p points ih =>
      obtain ⟨piece, hread, hjoin⟩ := exists_piece p
      obtain ⟨pieces, hreads, hjoins⟩ := ih
      refine ⟨piece :: pieces, ?_, ?_⟩
      · rw [List.flatMap_cons, List.append_assoc, hread, hreads]
        rfl
      · rw [hjoin, hjoins]

/-- A written text is read back, once its opening quote has been passed. -/
theorem readText_writeText (s : LooseText) (t : Source) :
    readText (s.points.flatMap writePoint ++ .char '"' :: t) = .ok (s, t) := by
  obtain ⟨pieces, hread, hjoin⟩ := exists_pieces s.points t
  rw [readText, hread]
  simp [Except.map, hjoin]

/-! ## Numbers -/

/-- Nothing follows that could be a part of a number: nothing at all, or what may follow a value in
a written one. -/
def IsDelimited (t : Source) : Prop := ∀ p ∈ t.head?, p ∈ plain [',', ']', '\x7d', '\n']

theorem isDelimited_nil : IsDelimited [] := by simp [IsDelimited]

theorem isDelimited_cons {c : Char} (h : c ∈ [',', ']', '\x7d', '\n']) (t : Source) :
    IsDelimited (.char c :: t) := by
  simp only [IsDelimited, List.head?_cons, Option.mem_def, Option.some.injEq, forall_eq']
  exact List.mem_map_of_mem h

theorem IsDelimited.cases {t : Source} (h : IsDelimited t) :
    t = [] ∨ ∃ c rest, t = .char c :: rest ∧ c ∈ [',', ']', '\x7d', '\n'] := by
  match t with
  | [] => exact Or.inl rfl
  | p :: rest =>
      obtain ⟨c, hc, rfl⟩ := List.mem_map.mp (h p rfl)
      exact Or.inr ⟨c, rest, rfl, hc⟩

theorem splitDigits_of_isDelimited {t : Source} (h : IsDelimited t) : splitDigits t = ([], t) := by
  rcases h.cases with rfl | ⟨c, rest, rfl, hc⟩
  · rfl
  · simp only [List.mem_cons, List.not_mem_nil, or_false] at hc
    rcases hc with rfl | rfl | rfl | rfl <;> rfl

theorem splitFraction_of_isDelimited {t : Source} (h : IsDelimited t) : splitFraction t = none := by
  rcases h.cases with rfl | ⟨c, rest, rfl, hc⟩
  · rfl
  · simp only [List.mem_cons, List.not_mem_nil, or_false] at hc
    rcases hc with rfl | rfl | rfl | rfl <;> rfl

theorem splitExponent_of_isDelimited {t : Source} (h : IsDelimited t) : splitExponent t = none := by
  rcases h.cases with rfl | ⟨c, rest, rfl, hc⟩
  · rfl
  · simp only [List.mem_cons, List.not_mem_nil, or_false] at hc
    rcases hc with rfl | rfl | rfl | rfl <;> rfl

theorem splitDigits_plain {ds : List Char} (hds : ∀ c ∈ ds, c.isDigit = true) {t : Source}
    (ht : IsDelimited t) : splitDigits (plain ds ++ t) = (ds.map digitOf, t) := by
  induction ds with
  | nil => exact splitDigits_of_isDelimited ht
  | cons c ds ih =>
      have hc : asciiDigitValue? c = some (digitOf c) :=
        asciiDigitValue?_of_isDigit (hds c List.mem_cons_self)
      have hrest := ih fun x hx => hds x (List.mem_cons_of_mem c hx)
      simp only [plain, List.map_cons, List.cons_append, splitDigits, hc] at hrest ⊢
      rw [hrest]

/-- The digits of a number are all its digits before the point: only zero begins with a zero. -/
theorem splitWhole_toDigits (n : Nat) {t : Source} (ht : IsDelimited t) :
    splitWhole (plain (Nat.toDigits 10 n) ++ t) = ((Nat.toDigits 10 n).map digitOf, t) := by
  rcases Nat.eq_zero_or_pos n with rfl | hn
  · rfl
  · -- the number does not begin with a zero, so its digits are read as a run
    obtain ⟨c, rest, hcons, -, hzero⟩ := exists_toDigits_eq_cons_of_pos hn
    rw [← splitDigits_plain (fun _ => isDigit_of_mem_toDigits) ht, hcons]
    simp [plain, splitWhole, hzero]

theorem readMagnitude_toDigits (negative : Bool) {n : Nat}
    (hn : (Nat.toDigits 10 n).length ≤ digitLimit) {t : Source} (ht : IsDelimited t) :
    readMagnitude negative (plain (Nat.toDigits 10 n) ++ t) = .ok (int (signed negative n), t) := by
  have hne : ((Nat.toDigits 10 n).map digitOf).isEmpty = false := by
    simp [Nat.toDigits_ne_nil]
  have hlimit : ¬ digitLimit < ((Nat.toDigits 10 n).map digitOf).length := by
    rw [List.length_map]
    exact Nat.not_lt.mpr hn
  unfold readMagnitude
  simp only [splitWhole_toDigits n ht, splitFraction_of_isDelimited ht,
    splitExponent_of_isDelimited ht, hne, ofDigits_toDigits, if_neg hlimit]
  rfl

/-- The decimal of an integer, within the limit, is the integer again. -/
theorem readNumber_toString {n : Int} (hn : WithinLimit n) {t : Source} (ht : IsDelimited t) :
    readNumber (plain (toString n).toList ++ t) = .ok (int n, t) := by
  rw [toList_toString]
  by_cases hsign : n < 0
  · simp only [hsign, if_true, plain_append, List.append_assoc]
    show readMagnitude true (plain (Nat.toDigits 10 n.natAbs) ++ t) = _
    rw [readMagnitude_toDigits true hn ht]
    have hsigned := signed_natAbs n
    simp only [hsign, decide_true] at hsigned
    rw [hsigned]
  · obtain ⟨c, rest, hcons, hc⟩ := exists_toDigits_eq_cons n.natAbs
    have hminus : c ≠ '-' := ne_of_isDigit hc (by decide)
    have hread := readMagnitude_toDigits false hn ht
    rw [hcons] at hread
    simp only [hsign, if_false, List.nil_append, hcons]
    have hnumber : readNumber (plain (c :: rest) ++ t)
        = readMagnitude false (plain (c :: rest) ++ t) := by
      simp [plain, readNumber, hminus]
    have hsigned := signed_natAbs n
    simp only [hsign, decide_false] at hsigned
    rw [hnumber, hread, hsigned]

/-! ## Words -/

/-- The word of a value is the value, whatever follows. -/
theorem readWord?_of_mem {word : String} {v : Json} (h : (word, v) ∈ words) (t : Source) :
    readWord? (plain word.toList ++ t) = some (v, t) := by
  -- no word of the table begins another one, so those before it fail
  simp only [words, List.mem_cons, Prod.mk.injEq, List.not_mem_nil, or_false] at h
  rcases h with ⟨rfl, rfl⟩ | ⟨rfl, rfl⟩ | ⟨rfl, rfl⟩ | ⟨rfl, rfl⟩ | ⟨rfl, rfl⟩ | ⟨rfl, rfl⟩ <;>
    simp [readWord?, words, plain, after?]

/-- No word begins with a digit, and none with a minus sign and a digit. -/
theorem readWord?_toString (n : Int) (t : Source) :
    readWord? (plain (toString n).toList ++ t) = none := by
  obtain ⟨c, rest, hcons, hc⟩ := exists_toDigits_eq_cons n.natAbs
  have hn : 'n' ≠ c := (ne_of_isDigit hc (by decide)).symm
  have ht : 't' ≠ c := (ne_of_isDigit hc (by decide)).symm
  have hf : 'f' ≠ c := (ne_of_isDigit hc (by decide)).symm
  have hN : 'N' ≠ c := (ne_of_isDigit hc (by decide)).symm
  have hI : 'I' ≠ c := (ne_of_isDigit hc (by decide)).symm
  have hminus : '-' ≠ c := (ne_of_isDigit hc (by decide)).symm
  rw [toList_toString, hcons]
  by_cases hsign : n < 0
  · simp [hsign, readWord?, words, plain, after?, hI]
  · simp [hsign, readWord?, words, plain, after?, hn, ht, hf, hN, hI, hminus]

end SatRarity.Json
