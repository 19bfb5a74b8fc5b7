import Mathlib.Data.List.Dedup
import SatRarity.Proofs.Fallible
import SatRarity.Proofs.Recognition
import SatRarity.Tier.Order

set_option autoImplicit false

/-! # Arrangements of tiers

A list of tiers has one ascending arrangement: whatever holds the same tiers equally often and
ascends in the order of declaration is it, `eq_ascending`. So the arrangement does not depend on how
the list was arranged before, and everything else that is said of a list can be read off it: the
descending arrangement backwards, the least and the greatest tier at its ends, and the number of
different tiers from the places where it strictly ascends. `arranged_by_rank` says all of it, and
that a list of names is refused because of the first one that names no tier.
-/

namespace SatRarity.Tier

/-! ## The order of declaration -/

theorem idxOf_all (t : Tier) : all.idxOf t = t.rank := by cases t <;> decide

theorem nodup_all : all.Nodup := by decide

protected theorem le_refl (t : Tier) : t ≤ t := Nat.le_refl t.rank

protected theorem le_of_lt {s t : Tier} (h : s < t) : s ≤ t := Nat.le_of_lt h

protected theorem le_total (s t : Tier) : s ≤ t ∨ t ≤ s := Nat.le_total s.rank t.rank

protected theorem le_trans {s t u : Tier} (h : s ≤ t) (h' : t ≤ u) : s ≤ u := Nat.le_trans h h'

protected theorem not_lt {s t : Tier} : ¬ s < t ↔ t ≤ s := Nat.not_lt

protected theorem le_antisymm {s t : Tier} (h : s ≤ t) (h' : t ≤ s) : s = t :=
  rank_injective (Nat.le_antisymm h h')

/-! ## The two arrangements -/

variable {l ts ts' : List Tier}

theorem perm_ascending (ts : List Tier) : (ascending ts).Perm ts := List.mergeSort_perm ts _

theorem perm_descending (ts : List Tier) : (descending ts).Perm ts := List.mergeSort_perm ts _

theorem pairwise_ascending (ts : List Tier) : (ascending ts).Pairwise (· ≤ ·) := by
  have hsorted : (ascending ts).Pairwise fun s t => decide (s ≤ t) = true :=
    List.pairwise_mergeSort (by simpa using fun s t u => Tier.le_trans)
      (by simpa using Tier.le_total) ts
  simpa only [decide_eq_true_eq] using hsorted

theorem pairwise_descending (ts : List Tier) : (descending ts).Pairwise fun s t => t ≤ s := by
  have hsorted : (descending ts).Pairwise fun s t => decide (t ≤ s) = true :=
    List.pairwise_mergeSort (by simpa using fun s t u hst htu => Tier.le_trans htu hst)
      (by simpa using fun s t => Tier.le_total t s) ts
  simpa only [decide_eq_true_eq] using hsorted

/-- What holds the same tiers and ascends is the ascending arrangement. -/
theorem eq_ascending (hperm : l.Perm ts) (hl : l.Pairwise (· ≤ ·)) : l = ascending ts :=
  List.Perm.eq_of_pairwise (fun _ _ _ _ => Tier.le_antisymm) hl (pairwise_ascending ts)
    (hperm.trans (perm_ascending ts).symm)

theorem ascending_congr (h : ts'.Perm ts) : ascending ts' = ascending ts :=
  eq_ascending ((perm_ascending ts').trans h) (pairwise_ascending ts')

theorem descending_eq_reverse (ts : List Tier) : descending ts = (ascending ts).reverse := by
  have hreverse : (descending ts).reverse = ascending ts := by
    refine eq_ascending ((List.reverse_perm _).trans (perm_descending ts)) ?_
    exact List.pairwise_reverse.mpr (pairwise_descending ts)
  rw [← hreverse, List.reverse_reverse]

/-! ## The least and the greatest -/

/-- The tier is in the list, and in the relation to all that is in it. -/
structure Bounds (R : Tier → Tier → Prop) (m : Tier) (ts : List Tier) : Prop where
  mem : m ∈ ts
  rel : ∀ t ∈ ts, R m t

theorem Bounds.perm {R : Tier → Tier → Prop} {m : Tier} (h : Bounds R m ts) (hperm : l.Perm ts) :
    Bounds R m l where
  mem := hperm.mem_iff.mpr h.mem
  rel := fun t ht => h.rel t (hperm.mem_iff.mp ht)

/-- A bound of an arranged list stands first. -/
theorem Bounds.head?_eq {R : Tier → Tier → Prop}
    (hantisymm : ∀ {s t : Tier}, R s t → R t s → s = t) {m : Tier} (h : Bounds R m l)
    (hl : l.Pairwise R) : l.head? = some m := by
  cases l with
  | nil => cases h.mem
  | cons s rest =>
      rw [List.head?_cons]
      rcases List.mem_cons.mp h.mem with rfl | hmem
      · rfl
      · have hfirst : R s m := List.rel_of_pairwise_cons hl hmem
        rw [hantisymm hfirst (h.rel s List.mem_cons_self)]

/-- What is left when of any two tiers the one is picked that is related to the other bounds the
list. -/
theorem bounds_foldl {R : Tier → Tier → Prop} (hrefl : ∀ t, R t t)
    (htrans : ∀ {s t u : Tier}, R s t → R t u → R s u) {pick : Tier → Tier → Tier}
    (hpick : ∀ s t, pick s t = s ∧ R s t ∨ pick s t = t ∧ R t s) (ts : List Tier) (t : Tier) :
    Bounds R (ts.foldl pick t) (t :: ts) := by
  induction ts generalizing t with
  | nil => exact ⟨List.mem_cons_self, by simpa using hrefl t⟩
  | cons u ts ih =>
      obtain ⟨hmem, hrel⟩ := ih (pick t u)
      have hfirst := hrel (pick t u) List.mem_cons_self
      have hrest : ∀ v ∈ ts, R (ts.foldl pick (pick t u)) v :=
        fun v hv => hrel v (List.mem_cons_of_mem _ hv)
      rw [List.foldl_cons]
      -- of the first two tiers one is picked, and the other one is related to it
      rcases hpick t u with ⟨hp, htu⟩ | ⟨hp, hut⟩
      · rw [hp] at hmem hfirst hrest ⊢
        refine ⟨?_, List.forall_mem_cons.mpr ⟨hfirst, List.forall_mem_cons.mpr
          ⟨htrans hfirst htu, hrest⟩⟩⟩
        exact List.mem_cons.mpr ((List.mem_cons.mp hmem).imp_right (List.mem_cons_of_mem u))
      · rw [hp] at hmem hfirst hrest ⊢
        exact ⟨List.mem_cons_of_mem t hmem, List.forall_mem_cons.mpr
          ⟨htrans hfirst hut, List.forall_mem_cons.mpr ⟨hfirst, hrest⟩⟩⟩

/-- A list that is not empty has a least tier, and that one stands first when it ascends. -/
theorem exists_least? (h : ts ≠ []) :
    ∃ m, least? ts = some m ∧ (ascending ts).head? = some m ∧ Bounds (· ≤ ·) m ts := by
  obtain ⟨t, ts, rfl⟩ := List.exists_cons_of_ne_nil h
  have hpick : ∀ s t : Tier, lesser s t = s ∧ s ≤ t ∨ lesser s t = t ∧ t ≤ s := by
    intro s t
    by_cases hlt : t < s
    · exact Or.inr ⟨if_pos hlt, Tier.le_of_lt hlt⟩
    · exact Or.inl ⟨if_neg hlt, Tier.not_lt.mp hlt⟩
  have hbounds := bounds_foldl Tier.le_refl Tier.le_trans hpick ts t
  exact ⟨_, rfl, (hbounds.perm (perm_ascending _)).head?_eq Tier.le_antisymm
    (pairwise_ascending _), hbounds⟩

/-- A list that is not empty has a greatest tier, and that one stands last when it ascends. -/
theorem exists_greatest? (h : ts ≠ []) :
    ∃ m, greatest? ts = some m ∧ (ascending ts).getLast? = some m
      ∧ Bounds (fun s t => t ≤ s) m ts := by
  obtain ⟨t, ts, rfl⟩ := List.exists_cons_of_ne_nil h
  have hpick : ∀ s t : Tier, greater s t = s ∧ t ≤ s ∨ greater s t = t ∧ s ≤ t := by
    intro s t
    by_cases hlt : s < t
    · exact Or.inr ⟨if_pos hlt, Tier.le_of_lt hlt⟩
    · exact Or.inl ⟨if_neg hlt, Tier.not_lt.mp hlt⟩
  have hbounds := bounds_foldl (R := fun s t => t ≤ s) Tier.le_refl
    (fun hst htu => Tier.le_trans htu hst) hpick ts t
  have hhead : (descending (t :: ts)).head? = some (ts.foldl greater t) :=
    (hbounds.perm (perm_descending _)).head?_eq (fun hst hts => Tier.le_antisymm hts hst)
      (pairwise_descending _)
  rw [descending_eq_reverse, List.head?_reverse] at hhead
  exact ⟨_, rfl, hhead, hbounds⟩

theorem least?_eq_head? (ts : List Tier) : least? ts = (ascending ts).head? := by
  cases ts with
  | nil => simp [least?, ascending]
  | cons t ts =>
      obtain ⟨m, hleast, hhead, -⟩ := exists_least? (List.cons_ne_nil t ts)
      rw [hleast, hhead]

theorem greatest?_eq_getLast? (ts : List Tier) : greatest? ts = (ascending ts).getLast? := by
  cases ts with
  | nil => simp [greatest?, ascending]
  | cons t ts =>
      obtain ⟨m, hgreatest, hlast, -⟩ := exists_greatest? (List.cons_ne_nil t ts)
      rw [hgreatest, hlast]

/-! ## The number of different tiers -/

theorem countDistinct_eq_length_dedup (ts : List Tier) : countDistinct ts = ts.dedup.length := by
  have hperm : (all.filter fun t => ts.contains t).Perm ts.dedup := by
    rw [List.perm_ext_iff_of_nodup (nodup_all.filter _) (List.nodup_dedup ts)]
    simp
  exact hperm.length_eq

theorem countDistinct_congr (h : ts'.Perm ts) : countDistinct ts' = countDistinct ts := by
  rw [countDistinct_eq_length_dedup, countDistinct_eq_length_dedup]
  exact h.dedup.length_eq

theorem countDistinct_le (ts : List Tier) : countDistinct ts ≤ 10 :=
  List.length_filter_le _ all

/-- How often a tier of the list is followed by a greater one. -/
def increases : List Tier → Nat
  | s :: t :: rest => (if s < t then 1 else 0) + increases (t :: rest)
  | [_] | [] => 0

/-- In an ascending list each different tier but the first begins where the list strictly
ascends. -/
theorem countDistinct_of_pairwise {t : Tier} (h : (t :: ts).Pairwise (· ≤ ·)) :
    countDistinct (t :: ts) = increases (t :: ts) + 1 := by
  induction ts generalizing t with
  | nil => cases t <;> rfl
  | cons u ts ih =>
      have hnext := ih (List.Pairwise.of_cons h)
      rw [countDistinct_eq_length_dedup] at hnext ⊢
      rw [increases]
      by_cases hlt : t < u
      · -- the first tier is below all others
        have hnew : t ∉ u :: ts := by
          intro hmem
          have hle : u ≤ t := by
            rcases List.mem_cons.mp hmem with rfl | hmem
            · exact Tier.le_refl t
            · exact List.rel_of_pairwise_cons (List.Pairwise.of_cons h) hmem
          exact Tier.not_lt.mpr hle hlt
        rw [List.dedup_cons_of_notMem hnew, List.length_cons, hnext, if_pos hlt]
        omega
      · have hle : t ≤ u := List.rel_of_pairwise_cons h List.mem_cons_self
        obtain rfl := Tier.le_antisymm hle (Tier.not_lt.mp hlt)
        rw [List.dedup_cons_of_mem List.mem_cons_self, hnext, if_neg hlt, Nat.zero_add]

theorem countDistinct_eq_increases (h : ts ≠ []) :
    countDistinct ts = increases (ascending ts) + 1 := by
  obtain ⟨m, -, hhead, -⟩ := exists_least? h
  obtain ⟨rest, hcons⟩ := List.head?_eq_some_iff.mp hhead
  have hsorted := pairwise_ascending ts
  rw [hcons] at hsorted
  rw [← countDistinct_congr (perm_ascending ts), hcons, countDistinct_of_pairwise hsorted]

/-! ## Lists of names -/

/-- The text is the first one in the list that names no tier. -/
def IsFirstUnknown (text : String) (names : List String) : Prop :=
  ∃ before after, names = before ++ text :: after
    ∧ (∀ name ∈ before, ∃ t : Tier, t.name = name) ∧ ∀ t : Tier, t.name ≠ text

/-- A list of names is read as the tiers that have these names. -/
theorem mapM_ofName_eq_ok_iff {names : List String} :
    names.mapM ofName = .ok ts ↔ names = ts.map name := by
  induction names generalizing ts with
  | nil => cases ts <;> simp [pure, Except.pure]
  | cons text names ih =>
      rw [mapM_cons_eq_ok_iff]
      constructor
      · rintro ⟨t, ts, ht, hts, rfl⟩
        rw [List.map_cons, ofName_eq_ok_iff.mp ht, ih.mp hts]
      · intro h
        obtain ⟨t, ts, rfl, rfl, rfl⟩ := List.map_eq_cons_iff.mp h.symm
        exact ⟨t, ts, ofName_name t, ih.mpr rfl, rfl⟩

/-- It is refused because of the first one that names no tier. -/
theorem mapM_ofName_eq_error_iff {names : List String} {text : String} :
    names.mapM ofName = .error ⟨text⟩ ↔ IsFirstUnknown text names := by
  rw [mapM_eq_error_iff]
  constructor
  · rintro ⟨before, name, after, rfl, hbefore, hfault⟩
    obtain ⟨hnone, heq⟩ := ofName_eq_error_iff.mp hfault
    obtain rfl := UnknownName.mk.inj heq
    exact ⟨before, after, rfl, fun name hname =>
      (hbefore name hname).imp fun t => ofName_eq_ok_iff.mp, hnone⟩
  · rintro ⟨before, after, rfl, hbefore, hnone⟩
    exact ⟨before, text, after, rfl, fun name hname =>
      (hbefore name hname).imp fun t => ofName_eq_ok_iff.mpr,
      ofName_eq_error_iff.mpr ⟨hnone, rfl⟩⟩

/-! ## Arrangements -/

/-- The list is summarised by its order of declaration. -/
structure IsArranged (ts : List Tier) : Prop where
  perm : (ascending ts).Perm ts
  ascends : (ascending ts).Pairwise fun s t => all.idxOf s ≤ all.idxOf t
  descends : descending ts = (ascending ts).reverse
  least : ts ≠ [] →
    ∃ m, least? ts = some m ∧ (ascending ts).head? = some m ∧ Bounds (· ≤ ·) m ts
  greatest : ts ≠ [] →
    ∃ m, greatest? ts = some m ∧ (ascending ts).getLast? = some m
      ∧ Bounds (fun s t => t ≤ s) m ts
  /-- There are as many different tiers as are left when repetitions are dropped. -/
  distinct : countDistinct ts = ts.dedup.length ∧ countDistinct ts ≤ 10
    ∧ (ts ≠ [] → countDistinct ts = increases (ascending ts) + 1)
  /-- It makes no difference how the list was arranged before. -/
  congr : ∀ ts', ts'.Perm ts → ascending ts' = ascending ts ∧ descending ts' = descending ts
    ∧ least? ts' = least? ts ∧ greatest? ts' = greatest? ts ∧ countDistinct ts' = countDistinct ts

/-- Every list of tiers is arranged by its order of declaration, whatever order it has; and a list
of names is read as the tiers with these names, or refused because of the first one that names
none. -/
theorem arranged_by_rank :
    (∀ ts : List Tier, IsArranged ts)
      ∧ ∀ names : List String, (∀ ts, names.mapM ofName = .ok ts ↔ names = ts.map name)
        ∧ ∀ text, IsFirstUnknown text names ↔ names.mapM ofName = .error ⟨text⟩ := by
  refine ⟨fun ts => ?_, fun names => ⟨fun ts => mapM_ofName_eq_ok_iff, fun text => ?_⟩⟩
  · exact {
      perm := perm_ascending ts
      ascends := by
        simp only [idxOf_all]
        exact pairwise_ascending ts
      descends := descending_eq_reverse ts
      least := exists_least?
      greatest := exists_greatest?
      distinct := ⟨countDistinct_eq_length_dedup ts, countDistinct_le ts,
        countDistinct_eq_increases⟩
      congr := by
        intro ts' hperm
        simp only [descending_eq_reverse, least?_eq_head?, greatest?_eq_getLast?,
          ascending_congr hperm, countDistinct_congr hperm, and_self] }
  · exact mapM_ofName_eq_error_iff.symm

end SatRarity.Tier
