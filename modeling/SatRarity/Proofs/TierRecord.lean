import SatRarity.Proofs.FieldIssues
import SatRarity.Proofs.Recognition
import SatRarity.Proofs.RoundTrip
import SatRarity.Validation.TierInfo

set_option autoImplicit false

/-! # Submitted tier records

A tier record is read back from its written form, `isReadBack`. A record that comes from outside is
accepted if each of its three fields can be read, whatever other fields it has, and what is made of
it is then a tier record like any other; otherwise it has one issue for each field that cannot be
read. The tier has one spelling only, its name: `tierInfos_from_records` says all of it.
-/

namespace SatRarity

open Text

/-! ## Written values -/

/-- A text without a replacement character is the string that it is written as. -/
theorem Text.LooseText.eq_ofString {s : LooseText} {t : String} (h : s.toString = t)
    (ht : '\uFFFD' ∉ t.toList) : s = ofString t := by
  have hpoints : s.points.map CodePoint.toChar = t.toList := by
    rw [← h, toString, String.toList_ofList]
  have hwell : s.isWellFormed = true := by
    rw [isWellFormed, List.all_eq_true]
    intro p hp
    cases p with
    | char c => rfl
    | surrogate n =>
        -- a surrogate is replaced, and the replacement would be in the string
        have hmem := List.mem_map_of_mem (f := CodePoint.toChar) hp
        rw [hpoints] at hmem
        exact absurd hmem ht
  rw [← h, ofString_toString hwell]

/-- A value that is exact at any depth is read back from the line that it is written on. -/
theorem Json.IsExact.read_compact {v : Json} (h : ∀ depth, Json.IsExact (depth + 1) v) :
    Json.read v.compact = .ok v := by
  obtain ⟨k, hk⟩ := Nat.exists_eq_add_of_le' ((h 0).length_pos .compact 0)
  have hwritten : LooseText.ofString v.compact = v.write .compact :=
    LooseText.ofString_toString ((h k).isWellFormed_write .compact)
  have hlength : v.compact.length = k + 1 := by
    have hpoints := congrArg (fun s => s.points.length) hwritten
    rw [← String.length_toList]
    simpa [LooseText.ofString, write, hk] using hpoints
  rw [Json.read, hwritten, hlength]
  exact (h k).readPoints_write .compact

namespace TierInfo

/-! ## The fields -/

/-- A field of a tier record. -/
inductive Part
  | rarity
  | code
  | black
  deriving DecidableEq

/-- The fields in the order of declaration. -/
def Part.all : List Part := [rarity, code, black]

def Part.name : Part → String
  | rarity => "rarity"
  | code => "code"
  | black => "black"

/-- The value will not do for the field, for this reason: it is no name of a tier, it is neither
null nor a lenient integer, or it is no lenient truth value. -/
def Part.Refuses (value : Json) (kind : Issue.Kind) : Part → Prop
  | rarity => kind = .notTier ∧ ∀ t : Tier, value ≠ .text t.name
  | code => value ≠ .null ∧ Lenient.integer value = .error kind
  | black => Lenient.boolean value = .error kind

/-- The field of the record is missing, or its value will not do. -/
def Part.Offends (v : Json) (p : Part) : Prop :=
  v.get? p.name = none ∨ ∃ value kind, v.get? p.name = some value ∧ p.Refuses value kind

/-- The issue of a field of the record. -/
inductive Part.Has (v : Json) (p : Part) : Issue → Prop
  | missing (h : v.get? p.name = none) : Has v p ⟨.missing, [p.name], v⟩
  | refused {value : Json} {kind : Issue.Kind} (h : v.get? p.name = some value)
    (hvalue : p.Refuses value kind) : Has v p ⟨kind, [p.name], value⟩

theorem Part.mem_all (p : Part) : p ∈ Part.all := by cases p <;> decide

/-! ## Reading the fields -/

/-- A tier is given by its name and by nothing else. -/
theorem readTier_eq_ok_iff {v : Json} {t : Tier} : readTier v = .ok t ↔ v = .text t.name := by
  have hplain : ∀ t : Tier, '\uFFFD' ∉ t.name.toList := by
    intro t
    cases t <;> decide
  constructor
  · intro h
    cases v with
    | text s =>
        rw [readTier] at h
        split at h
        case h_1 t' ht =>
          obtain rfl := Except.ok.inj h
          exact congrArg Json.text
            (LooseText.eq_ofString (Tier.ofName_eq_ok_iff.mp ht).symm (hplain t'))
        case h_2 => cases h
    | _ => cases h
  · rintro rfl
    rw [readTier, LooseText.toString_ofString, Tier.ofName_name]

theorem readTier_eq_error_iff {v : Json} {kind : Issue.Kind} :
    readTier v = .error kind ↔ kind = .notTier ∧ ∀ t : Tier, v ≠ .text t.name := by
  have hkind : ∀ kind, readTier v = .error kind → kind = .notTier := by
    intro kind h
    unfold readTier at h
    split at h
    · split at h
      · cases h
      · exact (Except.error.inj h).symm
    · exact (Except.error.inj h).symm
  have hexists := Lenient.exists_eq_error_iff (x := readTier v)
  simp only [ne_eq, readTier_eq_ok_iff] at hexists
  constructor
  · intro h
    exact ⟨hkind kind h, hexists.mp ⟨kind, h⟩⟩
  · rintro ⟨rfl, hnone⟩
    obtain ⟨kind, h⟩ := hexists.mpr hnone
    rwa [hkind kind h] at h

/-- If a field refuses just what cannot be read, then what is wrong with it is its issue. -/
theorem Part.isRaised_iff {α : Type} {v : Json} {p : Part} {i : Issue}
    {read : Json → Except Issue.Kind α}
    (hread : ∀ value kind, read value = .error kind ↔ p.Refuses value kind) :
    Issue.IsRaised [] v p.name read i ↔ p.Has v i := by
  constructor
  · intro h
    cases h with
    | missing h => exact .missing h
    | unread h hvalue => exact .refused h ((hread _ _).mp hvalue)
  · intro h
    cases h with
    | missing h => exact .missing h
    | refused h hvalue => exact .unread h ((hread _ _).mpr hvalue)

/-- What is wrong with a field, if something is. -/
def Part.issue? (v : Json) : Part → Option Issue
  | rarity => Issue.of? (Issue.readField [] v "rarity" readTier)
  | code => Issue.of? (Issue.readField [] v "code" Lenient.optionalInteger)
  | black => Issue.of? (Issue.readField [] v "black" Lenient.boolean)

theorem Part.issue?_eq_some_iff {v : Json} {p : Part} {i : Issue} :
    p.issue? v = some i ↔ p.Has v i := by
  cases p with
  | rarity =>
      rw [issue?, Issue.of?_eq_some_iff, Issue.readField_eq_error_iff]
      exact isRaised_iff (p := rarity) fun _ _ => readTier_eq_error_iff
  | code =>
      rw [issue?, Issue.of?_eq_some_iff, Issue.readField_eq_error_iff]
      exact isRaised_iff (p := code) fun _ _ => Lenient.optionalInteger_eq_error_iff
  | black =>
      rw [issue?, Issue.of?_eq_some_iff, Issue.readField_eq_error_iff]
      exact isRaised_iff (p := black) fun _ _ => Iff.rfl

/-- A field offends just if there is an issue of it. -/
theorem Part.offends_iff {v : Json} {p : Part} : p.Offends v ↔ ∃ i, p.Has v i := by
  constructor
  · rintro (h | ⟨value, kind, h, hvalue⟩)
    · exact ⟨_, .missing h⟩
    · exact ⟨_, .refused h hvalue⟩
  · rintro ⟨i, h⟩
    cases h with
    | missing h => exact Or.inl h
    | refused h hvalue => exact Or.inr ⟨_, _, h, hvalue⟩

/-- A tier that is not given by its name offends. -/
theorem Part.offends_rarity {v : Json} (h : ∀ t : Tier, v.get? "rarity" ≠ some (.text t.name)) :
    Part.rarity.Offends v := by
  cases hget : v.get? "rarity" with
  | none => exact Or.inl hget
  | some value => exact Or.inr ⟨value, _, hget, rfl, fun t ht => h t (hget.trans (ht ▸ rfl))⟩

/-! ## Records -/

variable {fields : List (LooseText × Json)} {info : TierInfo} {found : List Issue}

/-- A record is accepted as what its three fields say. -/
theorem ofJson_eq_ok_iff :
    ofJson (.object fields) = .ok info
      ↔ (Json.object fields).get? "rarity" = some (.text info.rarity.name)
        ∧ (∃ value, (Json.object fields).get? "code" = some value
          ∧ Lenient.optionalInteger value = .ok info.code)
        ∧ ∃ value, (Json.object fields).get? "black" = some value
          ∧ Lenient.boolean value = .ok info.black := by
  have hrarity : Issue.readField [] (.object fields) "rarity" readTier = .ok info.rarity
      ↔ (Json.object fields).get? "rarity" = some (.text info.rarity.name) := by
    simp only [Issue.readField_eq_ok_iff, readTier_eq_ok_iff]
    exact ⟨fun ⟨value, h, hvalue⟩ => hvalue ▸ h, fun h => ⟨_, h, rfl⟩⟩
  have hcode : Issue.readField [] (.object fields) "code" Lenient.optionalInteger = .ok info.code
      ↔ _ := Issue.readField_eq_ok_iff
  have hblack : Issue.readField [] (.object fields) "black" Lenient.boolean = .ok info.black
      ↔ _ := Issue.readField_eq_ok_iff
  rw [← hrarity, ← hcode, ← hblack]
  obtain ⟨rarity, code, black⟩ := info
  constructor
  · intro h
    rw [ofJson] at h
    split at h
    case h_1 hr hc hb =>
      obtain ⟨rfl, rfl, rfl⟩ := TierInfo.mk.inj (Except.ok.inj h)
      exact ⟨hr, hc, hb⟩
    case h_2 => cases h
  · rintro ⟨hr, hc, hb⟩
    rw [ofJson, hr, hc, hb]

/-- A record that is not accepted has the issues of its fields. -/
theorem ofJson_eq_error_iff :
    ofJson (.object fields) = .error found
      ↔ found = Part.all.filterMap (Part.issue? (.object fields))
        ∧ ∃ p : Part, p.Offends (.object fields) := by
  have hissue : ∀ p : Part, p.Offends (.object fields)
      ↔ ∃ i, p.issue? (.object fields) = some i := by
    intro p
    simp only [Part.offends_iff, Part.issue?_eq_some_iff]
  simp only [hissue]
  rw [ofJson]
  split
  case h_1 hr hc hb =>
    simp only [reduceCtorEq, false_iff, not_and, not_exists]
    rintro - p i hi
    cases p <;> simp [Part.issue?, hr, hc, hb, Issue.of?] at hi
  case h_2 hnone =>
    simp only [Except.error.injEq]
    constructor
    · rintro rfl
      refine ⟨rfl, ?_⟩
      by_contra hall
      have hok : ∀ p : Part, p.issue? (.object fields) = none := fun p =>
        Option.eq_none_iff_forall_ne_some.mpr fun i hi => hall ⟨p, i, hi⟩
      obtain ⟨r, hr⟩ := Issue.of?_eq_none_iff.mp (hok .rarity)
      obtain ⟨c, hc⟩ := Issue.of?_eq_none_iff.mp (hok .code)
      obtain ⟨b, hb⟩ := Issue.of?_eq_none_iff.mp (hok .black)
      exact hnone r c b hr hc hb
    · rintro ⟨rfl, -⟩
      rfl

/-- The code is null, or it keeps to the limit of numerals. -/
def KeepsToLimit (info : TierInfo) : Prop := ∀ n ∈ info.code, WithinLimit n

theorem isExact_toJson (h : info.KeepsToLimit) (depth : Nat) :
    Json.IsExact (depth + 1) info.toJson := by
  have hrecord : ∀ code : Json, Json.IsExact depth code → Json.IsExact (depth + 1)
      (.object [("rarity", .text info.rarity.name), ("code", code),
        ("black", .bool info.black)]) := by
    intro code hcode
    refine .record [("rarity", .text info.rarity.name), ("code", code),
      ("black", .bool info.black)] (by simp) ?_
    simp only [List.forall_mem_cons]
    exact ⟨.text (LooseText.isWellFormed_ofString _), hcode, .bool _, by simp⟩
  obtain ⟨rarity, code, black⟩ := info
  cases code with
  | none => exact hrecord .null .null
  | some n => exact hrecord (.int n) (.int (h n rfl))

/-- The written form of the record is read as the record. -/
def IsReadBack (info : TierInfo) : Prop :=
  ∃ v, Json.read info.toJson.compact = .ok v ∧ ofJson v = .ok info
    ∧ v.get? "rarity" = some (.text info.rarity.name)

theorem isReadBack (h : info.KeepsToLimit) : info.IsReadBack := by
  refine ⟨info.toJson, Json.IsExact.read_compact (isExact_toJson h), ?_, rfl⟩
  refine ofJson_eq_ok_iff.mpr ⟨rfl, ⟨_, rfl, ?_⟩, _, rfl, rfl⟩
  cases info.code <;> rfl

/-- Records of tiers are read back from what is written of them. Whatever record is accepted gives
the tier by its name, and what it is read as is read back; any other one has an issue for each field
that offends, in the order of declaration. -/
theorem tierInfos_from_records :
    (∀ info : TierInfo, info.KeepsToLimit → info.IsReadBack)
      ∧ ∀ fields : List (LooseText × Json),
        (∀ info, ofJson (.object fields) = .ok info →
          (Json.object fields).get? "rarity" = some (.text info.rarity.name)
            ∧ Tier.ofName info.rarity.name = .ok info.rarity
            ∧ (info.KeepsToLimit → info.IsReadBack))
        ∧ ((∃ found, ofJson (.object fields) = .error found)
          ↔ ∃ p : Part, p.Offends (.object fields))
        ∧ (∀ found, ofJson (.object fields) = .error found →
          Issue.Lists Part.all (Part.Offends (.object fields)) (Part.Has (.object fields)) found)
        ∧ ((∀ t : Tier, (Json.object fields).get? "rarity" ≠ some (.text t.name)) →
          ∃ found i, ofJson (.object fields) = .error found ∧ i ∈ found
            ∧ Part.rarity.Has (.object fields) i) := by
  refine ⟨fun info => isReadBack, fun fields => ?_⟩
  have hlists : Issue.Lists Part.all (Part.Offends (.object fields)) (Part.Has (.object fields))
      (Part.all.filterMap (Part.issue? (.object fields))) :=
    Issue.lists_filterMap (fun p i => Part.issue?_eq_some_iff) fun p => Part.offends_iff
  refine ⟨fun info h => ?_, ⟨?_, ?_⟩, fun found h => ?_, fun hrarity => ?_⟩
  · exact ⟨(ofJson_eq_ok_iff.mp h).1, Tier.ofName_name _, isReadBack⟩
  · rintro ⟨found, h⟩
    exact (ofJson_eq_error_iff.mp h).2
  · exact fun h => ⟨_, ofJson_eq_error_iff.mpr ⟨rfl, h⟩⟩
  · rw [(ofJson_eq_error_iff.mp h).1]
    exact hlists
  · have hoffends := Part.offends_rarity hrarity
    obtain ⟨i, hi, hhas⟩ := hlists.exists_mem (Part.mem_all .rarity) hoffends
    exact ⟨_, i, ofJson_eq_error_iff.mpr ⟨rfl, .rarity, hoffends⟩, hi, hhas⟩

end TierInfo

end SatRarity
