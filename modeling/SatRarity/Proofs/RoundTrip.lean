import Mathlib.Data.List.Nodup
import SatRarity.Json.Encoding
import SatRarity.Proofs.Token

set_option autoImplicit false

/-! # Reading what was written

A value is exact if its written form says all of it: its integers keep to the limit, its texts can
be encoded, no object repeats a key, and no number is a decimal or special. In either layout the
written form of an exact value is read back as the value, `IsExact.readPoints_write`; and the string
that is made of it is decoded to the same code points, `IsExact.decode?_write`.

`ReadsBack` is the statement that the induction on the value carries: it leaves open how deep the
value stands, what follows it and how much fuel there is, as long as it is two units for each code
point of the written form.
-/

namespace SatRarity.Json

open Text

/-! ## Exact values -/

/-- The written form of the value says all of it, and lists and objects stand at most `depth` deep
in it. -/
inductive IsExact : Nat → Json → Prop
  | null {depth : Nat} : IsExact depth null
  | bool {depth : Nat} (b : Bool) : IsExact depth (bool b)
  | int {depth : Nat} {n : Int} (hn : WithinLimit n) : IsExact depth (int n)
  | text {depth : Nat} {s : LooseText} (hs : s.isWellFormed = true) : IsExact depth (text s)
  | list {depth : Nat} {items : List Json} (hitems : ∀ item ∈ items, IsExact depth item) :
    IsExact (depth + 1) (list items)
  | object {depth : Nat} {fields : List (LooseText × Json)} (hkeys : (fields.map Prod.fst).Nodup)
      (htexts : ∀ field ∈ fields, field.1.isWellFormed = true)
      (hvalues : ∀ field ∈ fields, IsExact depth field.2) : IsExact (depth + 1) (object fields)

/-- A record is exact if its keys are distinct strings and its values are exact. -/
theorem IsExact.record {depth : Nat} (fields : List (String × Json))
    (hkeys : (fields.map Prod.fst).Nodup) (hvalues : ∀ field ∈ fields, IsExact depth field.2) :
    IsExact (depth + 1)
      (Json.object (fields.map fun field => (LooseText.ofString field.1, field.2))) := by
  refine .object ?_ ?_ ?_
  · have hinjective : Function.Injective LooseText.ofString := fun _ _ =>
      LooseText.ofString_injective
    have hmap : (fields.map fun field => (LooseText.ofString field.1, field.2)).map Prod.fst
        = (fields.map Prod.fst).map LooseText.ofString := by
      simp
    rw [hmap]
    exact List.Nodup.map hinjective hkeys
  · intro field hfield
    obtain ⟨named, -, rfl⟩ := List.mem_map.mp hfield
    exact LooseText.isWellFormed_ofString named.1
  · intro field hfield
    obtain ⟨named, hnamed, rfl⟩ := List.mem_map.mp hfield
    exact hvalues named hnamed

theorem mergeFields_of_nodup {fields : List (LooseText × Json)}
    (h : (fields.map Prod.fst).Nodup) : mergeFields fields = fields := by
  induction fields with
  | nil => rfl
  | cons field rest ih =>
      obtain ⟨key, value⟩ := field
      rw [List.map_cons, List.nodup_cons] at h
      obtain ⟨hkey, hrest⟩ := h
      have hne : ∀ field ∈ rest, field.1 ≠ key := by
        intro field hfield heq
        exact hkey (List.mem_map.mpr ⟨field, hfield, heq⟩)
      have hlookup : rest.lookup key = none := by
        rw [List.lookup_eq_none_iff]
        intro field hfield
        simpa using (hne field hfield).symm
      have hfilter : rest.filter (fun field => field.1 != key) = rest := by
        rw [List.filter_eq_self]
        intro field hfield
        simpa using hne field hfield
      simp only [mergeFields, ih hrest, hlookup, Option.getD_none, hfilter]

/-! ## What begins and what follows a written value -/

/-- The character is no white space, closes no list and is no byte order mark. -/
def opensValue (c : Char) : Bool := !isSpace (.char c) && c != ']' && c != '\uFEFF'

theorem opensValue_of_isDigit {c : Char} (h : c.isDigit = true) : opensValue c = true := by
  have hbracket : c ≠ ']' := ne_of_isDigit h (by decide)
  have hmark : c ≠ '\uFEFF' := ne_of_isDigit h (by decide)
  simp [opensValue, isSpace_of_isDigit h, hbracket, hmark]

/-- A written value begins with a character that can open one. -/
theorem IsExact.exists_head {depth : Nat} {v : Json} (h : IsExact depth v) (layout : Layout)
    (d : Nat) : ∃ c rest, writeValue layout d v = .char c :: rest ∧ opensValue c = true := by
  cases h with
  | null => exact ⟨'n', plain ['u', 'l', 'l'], rfl, by decide⟩
  | bool b =>
      cases b with
      | false => exact ⟨'f', plain ['a', 'l', 's', 'e'], rfl, by decide⟩
      | true => exact ⟨'t', plain ['r', 'u', 'e'], rfl, by decide⟩
  | @int _ n _ =>
      obtain ⟨c, rest, hcons, hc⟩ := exists_toList_toString_eq_cons n
      refine ⟨c, plain rest, by rw [writeValue, hcons]; rfl, ?_⟩
      rcases hc with rfl | hc
      · decide
      · exact opensValue_of_isDigit hc
  | text _ => exact ⟨'"', _, by simp [writeValue, writeText, plain]; rfl, by decide⟩
  | @list _ items _ =>
      cases items with
      | nil => exact ⟨'[', _, rfl, by decide⟩
      | cons item items => exact ⟨'[', _, by simp [writeValue, plain]; rfl, by decide⟩
  | @object _ fields _ _ _ =>
      cases fields with
      | nil => exact ⟨'\x7b', _, rfl, by decide⟩
      | cons field fields => exact ⟨'\x7b', _, by simp [writeValue, plain]; rfl, by decide⟩

/-- The white space before a value is skipped, and no more. -/
theorem IsExact.skipSpace_write {depth : Nat} {v : Json} (h : IsExact depth v) (layout : Layout)
    (d : Nat) (t : Source) :
    skipSpace (writeValue layout d v ++ t) = writeValue layout d v ++ t := by
  obtain ⟨c, rest, hcons, hopens⟩ := h.exists_head layout d
  have hspace : isSpace (.char c) = false := by simp_all [opensValue]
  rw [hcons, List.cons_append, skipSpace_of_isSpace_eq_false hspace]

theorem IsExact.length_pos {depth : Nat} {v : Json} (h : IsExact depth v) (layout : Layout)
    (d : Nat) : 0 < (writeValue layout d v).length := by
  obtain ⟨c, rest, hcons, -⟩ := h.exists_head layout d
  simp [hcons]

theorem skipSpace_closing (layout : Layout) (d : Nat) {c : Char} (hc : isSpace (.char c) = false)
    (t : Source) : skipSpace (layout.lineBreak d ++ .char c :: t) = .char c :: t := by
  rw [skipSpace_lineBreak, skipSpace_of_isSpace_eq_false hc]

/-- What closes a list or an object delimits the value before it. -/
theorem isDelimited_closing (layout : Layout) (d : Nat) {c : Char} (hc : c ∈ [']', '\x7d'])
    (t : Source) : IsDelimited (layout.lineBreak d ++ .char c :: t) := by
  cases layout with
  | compact => exact isDelimited_cons (List.mem_cons_of_mem ',' (List.mem_append_left ['\n'] hc)) t
  | indented => exact isDelimited_cons (by decide) _

/-! ## Values -/

/-- In whatever place it is written, the value is read back, and what follows it is left over. -/
def ReadsBack (depth : Nat) (v : Json) : Prop :=
  ∀ (layout : Layout) (d fuel : Nat) (t : Source),
    2 * (writeValue layout d v).length ≤ fuel → IsDelimited t →
      readValue fuel depth (writeValue layout d v ++ t) = .ok (v, t)

/-- A source that begins with neither a quote nor a bracket or brace is a word or a number. -/
theorem readValue_of_head {c : Char} (hc : c ∉ ['"', '[', '\x7b']) (fuel depth : Nat) (t : Source) :
    readValue (fuel + 1) depth (.char c :: t)
      = match readWord? (.char c :: t) with
        | some result => .ok result
        | none => readNumber (.char c :: t) := by
  simp only [List.mem_cons, List.not_mem_nil, or_false, not_or] at hc
  obtain ⟨hquote, hbracket, hbrace⟩ := hc
  cases depth with
  | zero =>
      cases hword : readWord? (.char c :: t) <;>
        simp [readValue, hquote, hbracket, hbrace, hword]
  | succ depth =>
      cases hword : readWord? (.char c :: t) <;>
        simp [readValue, hquote, hbracket, hbrace, hword]

/-- The items of a written list are read back, if each of them is. -/
theorem readItems_write {depth : Nat} (layout : Layout) (d : Nat) (t : Source) :
    ∀ (items : List Json) (item : Json) (fuel : Nat),
      (∀ v ∈ item :: items, IsExact depth v ∧ ReadsBack depth v) →
      2 * (writeValue layout (d + 1) item ++ writeItems layout (d + 1) items).length + 1 ≤ fuel →
      readItems fuel depth (writeValue layout (d + 1) item ++ (writeItems layout (d + 1) items
        ++ (layout.lineBreak d ++ .char ']' :: t))) = .ok (item :: items, t) := by
  intro items
  induction items with
  | nil =>
      intro item fuel h hfuel
      obtain ⟨hexact, hback⟩ := h item List.mem_cons_self
      obtain ⟨fuel, rfl⟩ := Nat.exists_eq_add_of_le' (Nat.le_trans (Nat.le_add_left 1 _) hfuel)
      simp only [writeItems, List.append_nil, List.nil_append] at hfuel ⊢
      have hitem := hback layout (d + 1) fuel _ (by omega)
        (isDelimited_closing layout d (c := ']') (by decide) t)
      simp only [readItems, hitem, bind, Except.bind,
        skipSpace_closing layout d (c := ']') (by decide)]
      rfl
  | cons next items ih =>
      intro item fuel h hfuel
      obtain ⟨hexact, hback⟩ := h item List.mem_cons_self
      obtain ⟨fuel, rfl⟩ := Nat.exists_eq_add_of_le' (Nat.le_trans (Nat.le_add_left 1 _) hfuel)
      have hnext := (h next (by simp)).1
      have hpos := hexact.length_pos layout (d + 1)
      simp only [writeItems, List.append_assoc, List.length_append, plain, List.map_cons,
        List.map_nil, List.cons_append, List.nil_append, List.length_cons] at hfuel ⊢
      have hitem := hback layout (d + 1) fuel
        (.char ',' :: (layout.lineBreak (d + 1) ++ (writeValue layout (d + 1) next
          ++ (writeItems layout (d + 1) items ++ (layout.lineBreak d ++ .char ']' :: t)))))
        (by omega) (isDelimited_cons (by decide) _)
      have hrest := ih next fuel (fun v hv => h v (List.mem_cons_of_mem item hv))
        (by simp only [List.length_append]; omega)
      -- the comma is read, the line break after it skipped, and the other items follow
      simp only [readItems, hitem, bind, Except.bind]
      rw [skipSpace_of_isSpace_eq_false (by decide)]
      simp only [skipSpace_lineBreak, hnext.skipSpace_write, hrest]
      rfl

/-- A key and the colon after it are read back: the reader stands before the value. -/
theorem readFields_key (layout : Layout) (key : LooseText) (fuel depth : Nat) (t : Source) :
    readFields (fuel + 1) depth (writeText key ++ (layout.colon ++ t))
      = (readValue fuel depth (skipSpace t)).bind fun (value, rest) =>
        match skipSpace rest with
        | .char ',' :: rest => (readFields fuel depth (skipSpace rest)).bind fun (fields, after) =>
          .ok ((key, value) :: fields, after)
        | .char '\x7d' :: after => .ok ([(key, value)], after)
        | _ => .error .malformed := by
  obtain ⟨space, hcolon, hspace⟩ := exists_colon layout
  have htext := readText_writeText key (layout.colon ++ t)
  rw [hcolon] at htext
  simp only [writeText, plain, List.map_cons, List.map_nil, List.append_assoc, List.cons_append,
    List.nil_append, hcolon] at htext ⊢
  simp only [readFields, htext, bind, Except.bind]
  rw [skipSpace_of_isSpace_eq_false (by decide)]
  simp only [hspace]
  rfl

/-- The fields of a written object are read back, if the value of each of them is. -/
theorem readFields_write {depth : Nat} (layout : Layout) (d : Nat) (t : Source) :
    ∀ (fields : List (LooseText × Json)) (key : LooseText) (value : Json) (fuel : Nat),
      (∀ field ∈ (key, value) :: fields, IsExact depth field.2 ∧ ReadsBack depth field.2) →
      2 * (writeValue layout (d + 1) value ++ writeFields layout (d + 1) fields).length + 1 ≤ fuel →
      readFields fuel depth (writeText key ++ (layout.colon ++ (writeValue layout (d + 1) value
        ++ (writeFields layout (d + 1) fields ++ (layout.lineBreak d ++ .char '\x7d' :: t)))))
          = .ok ((key, value) :: fields, t) := by
  intro fields
  induction fields with
  | nil =>
      intro key value fuel h hfuel
      obtain ⟨hexact, hback⟩ : IsExact depth value ∧ ReadsBack depth value :=
        h (key, value) List.mem_cons_self
      obtain ⟨fuel, rfl⟩ := Nat.exists_eq_add_of_le' (Nat.le_trans (Nat.le_add_left 1 _) hfuel)
      simp only [writeFields, List.append_nil, List.nil_append] at hfuel ⊢
      have hvalue := hback layout (d + 1) fuel _ (by omega)
        (isDelimited_closing layout d (c := '\x7d') (by decide) t)
      rw [readFields_key, hexact.skipSpace_write, hvalue]
      simp only [Except.bind, skipSpace_closing layout d (c := '\x7d') (by decide)]
  | cons next fields ih =>
      intro key value fuel h hfuel
      obtain ⟨hexact, hback⟩ : IsExact depth value ∧ ReadsBack depth value :=
        h (key, value) List.mem_cons_self
      obtain ⟨fuel, rfl⟩ := Nat.exists_eq_add_of_le' (Nat.le_trans (Nat.le_add_left 1 _) hfuel)
      obtain ⟨nextKey, nextValue⟩ := next
      have hpos := hexact.length_pos layout (d + 1)
      simp only [writeFields, List.append_assoc, List.length_append, plain, List.map_cons,
        List.map_nil, List.cons_append, List.nil_append, List.length_cons] at hfuel ⊢
      have hvalue := hback layout (d + 1) fuel
        (.char ',' :: (layout.lineBreak (d + 1) ++ (writeText nextKey ++ (layout.colon
          ++ (writeValue layout (d + 1) nextValue ++ (writeFields layout (d + 1) fields
            ++ (layout.lineBreak d ++ .char '\x7d' :: t)))))))
        (by omega) (isDelimited_cons (by decide) _)
      have hrest := ih nextKey nextValue fuel
        (fun field hfield => h field (List.mem_cons_of_mem _ hfield))
        (by simp only [List.length_append]; omega)
      have hskip : ∀ s, skipSpace (writeText nextKey ++ s) = writeText nextKey ++ s := fun s =>
        skipSpace_of_isSpace_eq_false (by decide) _
      -- the comma is read, the line break after it skipped, and the other fields follow
      rw [readFields_key, hexact.skipSpace_write, hvalue]
      simp only [Except.bind]
      rw [skipSpace_of_isSpace_eq_false (by decide)]
      simp only [skipSpace_lineBreak, hskip, hrest]

theorem ReadsBack.of_word {word : String} {v : Json} (hmem : (word, v) ∈ words)
    (hhead : ∃ c rest, word.toList = c :: rest ∧ c ∉ ['"', '[', '\x7b'])
    (hwrite : ∀ layout d, writeValue layout d v = plain word.toList) (depth : Nat) :
    ReadsBack depth v := by
  intro layout d fuel t hfuel ht
  obtain ⟨c, rest, hcons, hc⟩ := hhead
  have hword := readWord?_of_mem hmem t
  rw [hwrite, hcons] at hfuel
  rw [hwrite]
  obtain ⟨fuel, rfl⟩ : ∃ k, fuel = k + 1 := by
    simp [plain] at hfuel
    exact Nat.exists_eq_add_of_le' (by omega)
  rw [hcons, plain, List.map_cons, List.cons_append] at hword ⊢
  rw [readValue_of_head hc, hword]

theorem ReadsBack.int {n : Int} (hn : WithinLimit n) (depth : Nat) :
    ReadsBack depth (int n) := by
  intro layout d fuel t hfuel ht
  -- a minus sign or a digit begins no text, list or object, and no word begins with the decimal
  obtain ⟨c, rest, hcons, hhead⟩ := exists_toList_toString_eq_cons n
  have hc : c ∉ ['"', '[', '\x7b'] := by
    intro hc
    simp only [List.mem_cons, List.not_mem_nil, or_false] at hc
    rcases hc with rfl | rfl | rfl <;> exact absurd hhead (by decide)
  have hword := readWord?_toString n t
  have hnumber := readNumber_toString hn ht
  rw [writeValue, hcons] at hfuel
  rw [writeValue]
  obtain ⟨fuel, rfl⟩ : ∃ k, fuel = k + 1 := by
    simp [plain] at hfuel
    exact Nat.exists_eq_add_of_le' (by omega)
  rw [hcons, plain, List.map_cons, List.cons_append] at hword hnumber ⊢
  rw [readValue_of_head hc, hword]
  exact hnumber

theorem ReadsBack.text (s : LooseText) (depth : Nat) : ReadsBack depth (text s) := by
  intro layout d fuel t hfuel ht
  rw [writeValue] at hfuel ⊢
  obtain ⟨fuel, rfl⟩ : ∃ k, fuel = k + 1 := by
    simp [writeText, plain] at hfuel
    exact Nat.exists_eq_add_of_le' (by omega)
  have htext := readText_writeText s t
  simp [writeText, plain, readValue, htext, Except.map]

/-- A list is read back, if its items are. -/
theorem ReadsBack.list {depth : Nat} {items : List Json}
    (h : ∀ item ∈ items, IsExact depth item ∧ ReadsBack depth item) :
    ReadsBack (depth + 1) (list items) := by
  intro layout d fuel t hfuel ht
  cases items with
  | nil =>
      obtain ⟨fuel, rfl⟩ : ∃ k, fuel = k + 1 := by
        simp [writeValue, plain] at hfuel
        exact Nat.exists_eq_add_of_le' (by omega)
      rfl
  | cons item items =>
      obtain ⟨hexact, hback⟩ := h item List.mem_cons_self
      simp only [writeValue, List.append_assoc, List.length_append, plain, List.map_cons,
        List.map_nil, List.cons_append, List.nil_append, List.length_cons, List.length_nil]
        at hfuel ⊢
      obtain ⟨fuel, rfl⟩ : ∃ k, fuel = k + 1 := Nat.exists_eq_add_of_le' (by omega)
      have hitems := readItems_write layout d t items item fuel h
        (by simp only [List.length_append]; omega)
      -- the source after the bracket does not begin with the closing one
      obtain ⟨c, rest, hcons, hopens⟩ := hexact.exists_head layout (d + 1)
      have hne : c ≠ ']' := by simp_all [opensValue]
      have hskip := hexact.skipSpace_write layout (d + 1)
        (writeItems layout (d + 1) items ++ (layout.lineBreak d ++ .char ']' :: t))
      rw [hcons, List.cons_append] at hskip hitems
      rw [readValue, skipSpace_lineBreak, hcons, List.cons_append, hskip]
      simp [hne, hitems, Except.map]

/-- An object that repeats no key is read back, if the values of its fields are. -/
theorem ReadsBack.object {depth : Nat} {fields : List (LooseText × Json)}
    (hkeys : (fields.map Prod.fst).Nodup)
    (h : ∀ field ∈ fields, IsExact depth field.2 ∧ ReadsBack depth field.2) :
    ReadsBack (depth + 1) (object fields) := by
  intro layout d fuel t hfuel ht
  cases fields with
  | nil =>
      obtain ⟨fuel, rfl⟩ : ∃ k, fuel = k + 1 := by
        simp [writeValue, plain] at hfuel
        exact Nat.exists_eq_add_of_le' (by omega)
      rfl
  | cons field fields =>
      obtain ⟨key, value⟩ := field
      simp only [writeValue, List.append_assoc, List.length_append, plain, List.map_cons,
        List.map_nil, List.cons_append, List.nil_append, List.length_cons, List.length_nil]
        at hfuel ⊢
      obtain ⟨fuel, rfl⟩ : ∃ k, fuel = k + 1 := Nat.exists_eq_add_of_le' (by omega)
      have hfields := readFields_write layout d t fields key value fuel h
        (by simp only [List.length_append]; omega)
      -- the source after the brace begins with the quote of the key, not with the closing brace
      obtain ⟨rest, hrest⟩ : ∃ rest, writeText key ++ (layout.colon
          ++ (writeValue layout (d + 1) value ++ (writeFields layout (d + 1) fields
            ++ (layout.lineBreak d ++ .char '\x7d' :: t)))) = .char '"' :: rest := ⟨_, rfl⟩
      rw [hrest] at hfields ⊢
      rw [readValue, skipSpace_lineBreak, skipSpace_of_isSpace_eq_false (by decide)]
      simp [hfields, Except.map, ofFields, mergeFields_of_nodup hkeys]

/-- Every exact value is read back. -/
theorem IsExact.readsBack {depth : Nat} {v : Json} (h : IsExact depth v) : ReadsBack depth v := by
  induction h with
  | null =>
      have hmem : ("null", Json.null) ∈ words := by simp [words]
      exact .of_word hmem ⟨'n', _, rfl, by decide⟩ (fun _ _ => rfl) _
  | bool b =>
      cases b with
      | false =>
          have hmem : ("false", Json.bool false) ∈ words := by simp [words]
          exact .of_word hmem ⟨'f', _, rfl, by decide⟩ (fun _ _ => rfl) _
      | true =>
          have hmem : ("true", Json.bool true) ∈ words := by simp [words]
          exact .of_word hmem ⟨'t', _, rfl, by decide⟩ (fun _ _ => rfl) _
  | int hn => exact .int hn _
  | text hs => exact .text _ _
  | list hitems ih => exact .list fun item hitem => ⟨hitems item hitem, ih item hitem⟩
  | object hkeys htexts hvalues ih =>
      exact .object hkeys fun field hfield => ⟨hvalues field hfield, ih field hfield⟩

/-! ## Whole texts -/

/-- The written form of an exact value is read as the value. -/
theorem IsExact.readPoints_write {depth : Nat} {v : Json} (h : IsExact depth v) (layout : Layout) :
    readPoints depth (write layout v).points = .ok v := by
  have hskip := h.skipSpace_write layout 0 []
  have hread := h.readsBack layout 0 (2 * (writeValue layout 0 v).length + 2) []
    (Nat.le_add_right _ 2) isDelimited_nil
  rw [List.append_nil] at hskip hread
  rw [readPoints, write, hskip, hread]
  rfl

/-- The code point is a character, and not U+0000. -/
def isProper : CodePoint → Bool
  | .char c => c != '\x00'
  | .surrogate _ => false

theorem all_isProper_lineBreak (layout : Layout) (d : Nat) :
    (layout.lineBreak d).all isProper = true := by
  cases layout with
  | compact => rfl
  | indented => simp [Layout.lineBreak, plain, isProper]

theorem all_isProper_colon (layout : Layout) : layout.colon.all isProper = true := by
  cases layout <;> decide

/-- No character is written as U+0000: a control character is escaped. -/
theorem all_isProper_writeChar (c : Char) : (plain (writeChar c)).all isProper = true := by
  by_cases hcontrol : c.toNat < 0x20
  · have hall : ∀ n < 0x20, (plain (writeChar (Char.ofNat n))).all isProper = true := by decide
    have := hall c.toNat hcontrol
    rwa [Char.ofNat_toNat] at this
  · have hzero : c ≠ '\x00' := by
      rintro rfl
      exact hcontrol (by decide)
    simp only [writeChar, hcontrol, if_false]
    repeat' split
    all_goals simp [plain, isProper, hzero]

theorem all_isProper_writeText {s : LooseText} (h : s.isWellFormed = true) :
    (writeText s).all isProper = true := by
  have hpoint : ∀ p ∈ s.points, (writePoint p).all isProper = true := by
    intro p hp
    have hchar := List.all_eq_true.mp h p hp
    cases p with
    | char c => exact all_isProper_writeChar c
    | surrogate n => cases hchar
  simp only [writeText, List.all_append, List.all_flatMap, Bool.and_eq_true]
  exact ⟨⟨by decide, List.all_eq_true.mpr hpoint⟩, by decide⟩

theorem all_isProper_writeItems (layout : Layout) (d : Nat) {items : List Json}
    (h : ∀ item ∈ items, (writeValue layout d item).all isProper = true) :
    (writeItems layout d items).all isProper = true := by
  have hcomma : (plain [',']).all isProper = true := by decide
  induction items with
  | nil => rfl
  | cons item items ih =>
      have hitem := h item List.mem_cons_self
      have hitems := ih fun item hitem => h item (List.mem_cons_of_mem _ hitem)
      simp only [writeItems, List.all_append, all_isProper_lineBreak, hcomma, hitem, hitems,
        Bool.and_self]

theorem all_isProper_writeFields (layout : Layout) (d : Nat) {fields : List (LooseText × Json)}
    (htexts : ∀ field ∈ fields, field.1.isWellFormed = true)
    (h : ∀ field ∈ fields, (writeValue layout d field.2).all isProper = true) :
    (writeFields layout d fields).all isProper = true := by
  have hcomma : (plain [',']).all isProper = true := by decide
  induction fields with
  | nil => rfl
  | cons field fields ih =>
      have hkey := all_isProper_writeText (htexts field List.mem_cons_self)
      have hvalue := h field List.mem_cons_self
      have hfields := ih (fun field hfield => htexts field (List.mem_cons_of_mem _ hfield))
        fun field hfield => h field (List.mem_cons_of_mem _ hfield)
      simp only [writeFields, List.all_append, all_isProper_lineBreak, all_isProper_colon, hcomma,
        hkey, hvalue, hfields, Bool.and_self]

/-- Neither a surrogate nor U+0000 is in the written form of an exact value. -/
theorem IsExact.all_isProper {depth : Nat} {v : Json} (h : IsExact depth v) (layout : Layout) :
    ∀ d, (writeValue layout d v).all isProper = true := by
  induction h with
  | null =>
      intro d
      rw [writeValue]
      decide
  | bool b =>
      intro d
      rw [writeValue]
      cases b <;> decide
  | @int _ n hn =>
      intro d
      rw [writeValue, plain, List.all_map, List.all_eq_true]
      intro c hc
      have hzero : c ≠ '\x00' := by
        rintro rfl
        exact notMem_toString (by decide) (by decide) n hc
      simpa [isProper] using hzero
  | text hs => exact fun d => all_isProper_writeText hs
  | @list depth items hitems ih =>
      intro d
      cases items with
      | nil =>
          rw [writeValue]
          decide
      | cons item items =>
          have hopen : (plain ['[']).all isProper = true := by decide
          have hclose : (plain [']']).all isProper = true := by decide
          have hitem := ih item List.mem_cons_self (d + 1)
          have hrest := all_isProper_writeItems layout (d + 1)
            fun item hitem => ih item (List.mem_cons_of_mem _ hitem) (d + 1)
          simp only [writeValue, List.all_append, all_isProper_lineBreak, hopen, hclose, hitem,
            hrest, Bool.and_self]
  | @object depth fields hkeys htexts hvalues ih =>
      intro d
      cases fields with
      | nil =>
          rw [writeValue]
          decide
      | cons field fields =>
          have hopen : (plain ['\x7b']).all isProper = true := by decide
          have hclose : (plain ['\x7d']).all isProper = true := by decide
          have hkey := all_isProper_writeText (htexts field List.mem_cons_self)
          have hvalue := ih field List.mem_cons_self (d + 1)
          have hrest := all_isProper_writeFields layout (d + 1)
            (fun field hfield => htexts field (List.mem_cons_of_mem _ hfield))
            fun field hfield => ih field (List.mem_cons_of_mem _ hfield) (d + 1)
          simp only [writeValue, List.all_append, all_isProper_lineBreak, all_isProper_colon, hopen,
            hclose, hkey, hvalue, hrest, Bool.and_self]

theorem IsExact.isWellFormed_write {depth : Nat} {v : Json} (h : IsExact depth v)
    (layout : Layout) : (write layout v).isWellFormed = true := by
  rw [LooseText.isWellFormed, write, List.all_eq_true]
  intro p hp
  have hproper := List.all_eq_true.mp (h.all_isProper layout 0) p hp
  cases p with
  | char c => rfl
  | surrogate n => cases hproper

theorem IsExact.isEmpty_write {depth : Nat} {v : Json} (h : IsExact depth v) (layout : Layout) :
    (write layout v).toString.isEmpty = false := by
  obtain ⟨c, rest, hcons, -⟩ := h.exists_head layout 0
  rw [Bool.eq_false_iff]
  intro hempty
  have hlist := congrArg String.toList (String.isEmpty_iff.mp hempty)
  simp [LooseText.toString, write, hcons] at hlist

/-- The string that is made of the written form is decoded to it. -/
theorem IsExact.decode?_write {depth : Nat} {v : Json} (h : IsExact depth v) (layout : Layout) :
    decode? (write layout v).toString = some (write layout v) := by
  have hstring : LooseText.ofString (write layout v).toString = write layout v :=
    LooseText.ofString_toString (h.isWellFormed_write layout)
  -- the characters of the string are the code points, so none of them is U+0000
  have hpoints : (write layout v).toString.toList.map .char = writeValue layout 0 v :=
    congrArg LooseText.points hstring
  have hzero : (write layout v).toString.toList.contains '\x00' = false := by
    rw [List.contains_eq_any_beq, List.any_eq_false]
    intro c hc
    have hproper : isProper (.char c) = true := by
      apply List.all_eq_true.mp (h.all_isProper layout 0)
      rw [← hpoints]
      exact List.mem_map_of_mem hc
    have hne : c ≠ '\x00' := by simpa [isProper] using hproper
    simpa using hne.symm
  -- the first character is no byte order mark
  obtain ⟨c, rest, hcons, hopens⟩ := h.exists_head layout 0
  have hmark : c ≠ '\uFEFF' := by simp_all [opensValue]
  have hlist : (write layout v).toString.toList = c :: rest.map CodePoint.toChar := by
    simp [LooseText.toString, write, hcons, CodePoint.toChar]
  rw [hlist] at hzero
  unfold decode?
  rw [hlist, hstring]
  split
  · simp_all
  · simp only [hzero]
    rfl

end SatRarity.Json
