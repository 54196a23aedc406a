import Mathlib.Data.Finset.Card
import Mathlib.Logic.Relation
import Vmodl.Proofs.Tables
import Vmodl.Registry

/-!
# Lineages of registered types

The look-ups of a registry follow parent links, with a bound that the size of the registry sets. The
bound never shows: a lineage that is longer than the registry visits a type twice, so whatever it
reaches is reached without the circle as well.
-/

namespace Vmodl.Registry

variable {r : Registry}

/-- The type that a number of parent links leads to. -/
def climb? (r : Registry) : Nat → String → Option String
  | 0, name => some name
  | n + 1, name => (r.parent? name).bind (climb? r n)

/-- A type is another one or reaches it by parent links, however many. -/
def Extends (r : Registry) : String → String → Prop :=
  Relation.ReflTransGen fun name parent => r.parent? name = some parent

/-- `t` is the type of a field on the first type of a lineage that has the field. -/
inductive Declares (r : Registry) (field : String) : String → FieldType → Prop
  | own {name : String} {t : FieldType} (hown : r.ownField? name field = some t) :
      Declares r field name t
  | inherited {name parent : String} {t : FieldType} (hown : r.ownField? name field = none)
      (hparent : r.parent? name = some parent) (hrest : Declares r field parent t) :
      Declares r field name t

/-- The type that a number of parent links leads to, if up to there the lineage does not end, leave the
registry or come back. -/
structure OnLineage (r : Registry) (name : String) (n : Nat) (a : String) : Prop where
  reached : r.climb? n name = some a
  registered : r.contains a = true
  fresh : ∀ i < n, r.climb? i name ≠ some a

@[simp] theorem climb?_zero (name : String) : r.climb? 0 name = some name := rfl

theorem climb?_succ (n : Nat) (name : String) :
    r.climb? (n + 1) name = (r.parent? name).bind (r.climb? n) := rfl

theorem climb?_add (m n : Nat) (name : String) :
    r.climb? (m + n) name = (r.climb? m name).bind (r.climb? n) := by
  induction m generalizing name with
  | zero => simp
  | succ m ih =>
      rw [Nat.succ_add, climb?_succ, climb?_succ, Option.bind_assoc]
      congr 1
      funext parent
      exact ih parent

theorem mem_names_of_parent? {name parent : String} (h : r.parent? name = some parent) :
    name ∈ r.types.names := by
  obtain ⟨e, he, _⟩ := Option.bind_eq_some_iff.mp h
  exact List.mem_map.mpr ⟨(name, e), Table.mem_of_lookup he, rfl⟩

theorem mem_names_of_ownField? {name field : String} {t : FieldType}
    (h : r.ownField? name field = some t) : name ∈ r.types.names := by
  obtain ⟨e, he, _⟩ := Option.bind_eq_some_iff.mp h
  exact List.mem_map.mpr ⟨(name, e), Table.mem_of_lookup he, rfl⟩

theorem contains_of_ownField? {name field : String} {t : FieldType}
    (h : r.ownField? name field = some t) : r.contains name = true := by
  obtain ⟨e, he, _⟩ := Option.bind_eq_some_iff.mp h
  rw [contains, he, Option.isSome_some]

/-- Whatever a type has a link from is registered. -/
theorem exists_mem_names_of_climb? {i n : Nat} {name a : String} (hin : i < n)
    (h : r.climb? n name = some a) : ∃ b ∈ r.types.names, r.climb? i name = some b := by
  obtain ⟨m, rfl⟩ : ∃ m, n = i + (m + 1) := ⟨n - i - 1, by omega⟩
  rw [climb?_add] at h
  obtain ⟨b, hb, hrest⟩ := Option.bind_eq_some_iff.mp h
  obtain ⟨parent, hparent, _⟩ := Option.bind_eq_some_iff.mp hrest
  exact ⟨b, mem_names_of_parent? hparent, hb⟩

/-- A lineage with more links than there are types comes to some type twice. -/
theorem exists_climb?_eq_of_size_lt {n : Nat} {name a : String} (hn : r.size < n)
    (h : r.climb? n name = some a) : ∃ i j, i < j ∧ j < n ∧ r.climb? i name = r.climb? j name := by
  have hmaps : ∀ i ∈ Finset.range n, r.climb? i name ∈ r.types.names.toFinset.image some := by
    intro i hi
    obtain ⟨b, hb, hclimb⟩ := exists_mem_names_of_climb? (Finset.mem_range.mp hi) h
    exact Finset.mem_image.mpr ⟨b, List.mem_toFinset.mpr hb, hclimb.symm⟩
  have hcard : (r.types.names.toFinset.image some).card < (Finset.range n).card := by
    calc
      _ ≤ r.types.names.toFinset.card := Finset.card_image_le
      _ ≤ r.types.names.length := List.toFinset_card_le _
      _ = r.size := List.length_map _
      _ < _ := by rwa [Finset.card_range]
  obtain ⟨i, hi, j, hj, hne, heq⟩ := Finset.exists_ne_map_eq_of_card_lt_of_maps_to hcard hmaps
  rw [Finset.mem_range] at hi hj
  rcases Nat.lt_or_gt_of_ne hne with hij | hji
  · exact ⟨i, j, hij, hj, heq⟩
  · exact ⟨j, i, hji, hi, heq.symm⟩

/-- What a lineage reaches, it reaches within as many links as there are types. -/
theorem exists_climb?_le_size {n : Nat} {name a : String} (h : r.climb? n name = some a) :
    ∃ k ≤ r.size, r.climb? k name = some a := by
  induction n using Nat.strong_induction_on with
  | _ n ih =>
      rcases Nat.lt_or_ge r.size n with hn | hn
      · obtain ⟨i, j, hij, hjn, heq⟩ := exists_climb?_eq_of_size_lt hn h
        -- Leaving out the circle from `i` to `j` gives a shorter way.
        have hshort : r.climb? (i + (n - j)) name = some a := by
          rw [climb?_add, heq, ← climb?_add, show j + (n - j) = n by omega]
          exact h
        exact ih (i + (n - j)) (by omega) hshort
      · exact ⟨n, hn, h⟩

theorem extends_iff_climb? {name a : String} : r.Extends name a ↔ ∃ n, r.climb? n name = some a := by
  constructor
  · intro h
    induction h using Relation.ReflTransGen.head_induction_on with
    | refl => exact ⟨0, rfl⟩
    | head hlink _ ih =>
        obtain ⟨n, hn⟩ := ih
        exact ⟨n + 1, by rw [climb?_succ, hlink]; exact hn⟩
  · rintro ⟨n, hn⟩
    induction n generalizing name with
    | zero =>
        cases hn
        exact .refl
    | succ n ih =>
        obtain ⟨parent, hparent, hrest⟩ := Option.bind_eq_some_iff.mp hn
        exact .head hparent (ih hrest)

theorem subtypeWithin_iff {n : Nat} {name a : String} :
    r.subtypeWithin n name a = true ↔ ∃ k ≤ n, r.climb? k name = some a := by
  induction n generalizing name with
  | zero => simp [subtypeWithin]
  | succ n ih =>
      simp only [subtypeWithin, Bool.or_eq_true, beq_iff_eq, Option.any_eq_true]
      constructor
      · rintro (rfl | ⟨parent, hparent, hsub⟩)
        · exact ⟨0, Nat.zero_le _, rfl⟩
        · obtain ⟨k, hk, hclimb⟩ := ih.mp hsub
          exact ⟨k + 1, by omega, by rw [climb?_succ, hparent]; exact hclimb⟩
      · rintro ⟨k, hk, hclimb⟩
        cases k with
        | zero => exact Or.inl (Option.some.inj hclimb)
        | succ k =>
            obtain ⟨parent, hparent, hrest⟩ := Option.bind_eq_some_iff.mp hclimb
            exact Or.inr ⟨parent, hparent, ih.mpr ⟨k, by omega, hrest⟩⟩

/-- A bounded search that takes as many steps as there are types finds all that a lineage reaches. -/
theorem subtypeWithin_iff_extends {n : Nat} {name a : String} (hn : r.size ≤ n) :
    r.subtypeWithin n name a = true ↔ r.Extends name a := by
  rw [subtypeWithin_iff, extends_iff_climb?]
  constructor
  · rintro ⟨k, _, hclimb⟩
    exact ⟨k, hclimb⟩
  · rintro ⟨m, hm⟩
    obtain ⟨k, hk, hclimb⟩ := exists_climb?_le_size hm
    exact ⟨k, by omega, hclimb⟩

theorem isSubtype_eq_true_iff {name a : String} : r.isSubtype name a = true ↔ r.Extends name a :=
  subtypeWithin_iff_extends (Nat.le_succ r.size)

/-- Nothing but the type itself extends a type that none names as its parent. -/
theorem eq_of_extends_of_no_child {name a : String}
    (hchild : r.types.all (fun e => e.2.parent != some a) = true) (h : r.Extends name a) : name = a := by
  rcases Relation.ReflTransGen.cases_tail h with heq | ⟨b, _, hlink⟩
  · exact heq.symm
  · obtain ⟨e, he, hparent⟩ := Option.bind_eq_some_iff.mp hlink
    have hall := List.all_eq_true.mp hchild (b, e) (Table.mem_of_lookup he)
    simp [hparent] at hall

@[simp] theorem fieldWithin_zero (name field : String) :
    r.fieldWithin 0 name field = r.ownField? name field := rfl

theorem fieldWithin_succ (n : Nat) (name field : String) :
    r.fieldWithin (n + 1) name field =
      (r.ownField? name field).or ((r.parent? name).bind (r.fieldWithin n · field)) := by
  cases hown : r.ownField? name field <;> simp [fieldWithin, hown]

/-- A bounded look-up answers from the first type within its bound that has the field. -/
theorem fieldWithin_eq_some_iff {n : Nat} {name field : String} {t : FieldType} :
    r.fieldWithin n name field = some t ↔
      ∃ k ≤ n, ∃ a, r.climb? k name = some a ∧ r.ownField? a field = some t ∧
        ∀ j < k, ∀ b, r.climb? j name = some b → r.ownField? b field = none := by
  induction n generalizing name with
  | zero =>
      rw [fieldWithin_zero]
      constructor
      · intro h
        exact ⟨0, le_refl 0, name, rfl, h, fun j hj => absurd hj (Nat.not_lt_zero j)⟩
      · rintro ⟨k, hk, a, hclimb, hown, _⟩
        obtain rfl : k = 0 := by omega
        cases hclimb
        exact hown
  | succ n ih =>
      rw [fieldWithin_succ, Option.or_eq_some_iff]
      constructor
      · rintro (hown | ⟨hnone, hrest⟩)
        · exact ⟨0, Nat.zero_le _, name, rfl, hown, fun j hj => absurd hj (Nat.not_lt_zero j)⟩
        · obtain ⟨parent, hparent, hwithin⟩ := Option.bind_eq_some_iff.mp hrest
          obtain ⟨k, hk, a, hclimb, hown, hbefore⟩ := ih.mp hwithin
          refine ⟨k + 1, by omega, a, by rw [climb?_succ, hparent]; exact hclimb, hown, ?_⟩
          intro j hj b hb
          cases j with
          | zero =>
              cases hb
              exact hnone
          | succ j =>
              rw [climb?_succ, hparent] at hb
              exact hbefore j (by omega) b hb
      · rintro ⟨k, hk, a, hclimb, hown, hbefore⟩
        cases k with
        | zero =>
            cases hclimb
            exact Or.inl hown
        | succ k =>
            obtain ⟨parent, hparent, hrest⟩ := Option.bind_eq_some_iff.mp hclimb
            have hnone := hbefore 0 (by omega) name rfl
            refine Or.inr ⟨hnone, ?_⟩
            rw [hparent]
            refine ih.mpr ⟨k, by omega, a, hrest, hown, ?_⟩
            intro j hj b hb
            exact hbefore (j + 1) (by omega) b (by rw [climb?_succ, hparent]; exact hb)

theorem declares_iff_exists_fieldWithin {name field : String} {t : FieldType} :
    r.Declares field name t ↔ ∃ n, r.fieldWithin n name field = some t := by
  constructor
  · intro h
    induction h with
    | own hown => exact ⟨0, by rw [fieldWithin_zero]; exact hown⟩
    | inherited hown hparent _ ih =>
        obtain ⟨n, hn⟩ := ih
        exact ⟨n + 1, by rw [fieldWithin_succ, hown, hparent]; exact hn⟩
  · rintro ⟨n, hn⟩
    induction n generalizing name with
    | zero => exact .own (by rwa [fieldWithin_zero] at hn)
    | succ n ih =>
        rw [fieldWithin_succ, Option.or_eq_some_iff] at hn
        rcases hn with hown | ⟨hnone, hrest⟩
        · exact .own hown
        · obtain ⟨parent, hparent, hwithin⟩ := Option.bind_eq_some_iff.mp hrest
          exact .inherited hnone hparent (ih hwithin)

theorem fieldWithin_size_of_fieldWithin {n : Nat} {name field : String} {t : FieldType}
    (h : r.fieldWithin n name field = some t) : r.fieldWithin r.size name field = some t := by
  obtain ⟨k, _, a, hclimb, hown, hbefore⟩ := fieldWithin_eq_some_iff.mp h
  obtain ⟨m, hm, hclimb'⟩ := exists_climb?_le_size hclimb
  -- The first type with the field is not met before step `k`, so `m` is not a smaller step.
  have hkm : k ≤ m := by
    by_contra hlt
    have hnone := hbefore m (by omega) a hclimb'
    simp [hown] at hnone
  exact fieldWithin_eq_some_iff.mpr ⟨k, by omega, a, hclimb, hown, hbefore⟩

theorem field?_eq_some_iff {name field : String} {t : FieldType} :
    r.field? name field = some t ↔ r.Declares field name t := by
  rw [declares_iff_exists_fieldWithin]
  exact ⟨fun h => ⟨r.size, h⟩, fun ⟨_, h⟩ => fieldWithin_size_of_fieldWithin h⟩

theorem field?_eq_none_iff {name field : String} :
    r.field? name field = none ↔ ∀ t, ¬r.Declares field name t := by
  rw [Option.eq_none_iff_forall_ne_some]
  exact forall_congr' fun t => not_congr field?_eq_some_iff

/-- A field of a type is a field of all that extends it, though a nearer type may give it another
type. -/
theorem exists_declares_of_extends {name ancestor field : String} {t : FieldType}
    (hextends : r.Extends name ancestor) (h : r.Declares field ancestor t) :
    ∃ t', r.Declares field name t' := by
  induction hextends using Relation.ReflTransGen.head_induction_on with
  | refl => exact ⟨t, h⟩
  | @head name parent hlink _ ih =>
      obtain ⟨t', hrest⟩ := ih
      cases hown : r.ownField? name field with
      | some own => exact ⟨own, .own hown⟩
      | none => exact ⟨t', .inherited hown hlink hrest⟩

/-! ### Any number of steps -/

theorem subtypeWithin_size_add (steps : Nat) (name a : String) :
    r.subtypeWithin (r.size + 1 + steps) name a = r.isSubtype name a := by
  rw [Bool.eq_iff_iff, isSubtype_eq_true_iff]
  exact subtypeWithin_iff_extends (by omega)

theorem fieldWithin_size_add (steps : Nat) (name field : String) :
    r.fieldWithin (r.size + steps) name field = r.field? name field := by
  apply Option.ext
  intro t
  constructor
  · exact fieldWithin_size_of_fieldWithin
  · intro h
    obtain ⟨k, hk, a, hfirst⟩ := fieldWithin_eq_some_iff.mp h
    exact fieldWithin_eq_some_iff.mpr ⟨k, by omega, a, hfirst⟩

theorem field?_eq_some_iff_climb? {name field : String} {t : FieldType} :
    r.field? name field = some t ↔
      ∃ n a, r.climb? n name = some a ∧ r.ownField? a field = some t ∧
        ∀ i < n, ∀ b, r.climb? i name = some b → r.ownField? b field = none := by
  constructor
  · intro h
    obtain ⟨n, _, a, hfirst⟩ := fieldWithin_eq_some_iff.mp h
    exact ⟨n, a, hfirst⟩
  · rintro ⟨n, a, hfirst⟩
    exact fieldWithin_size_of_fieldWithin (fieldWithin_eq_some_iff.mpr ⟨n, le_refl n, a, hfirst⟩)

theorem field?_eq_none_iff_onLineage {name field : String} :
    r.field? name field = none ↔ ∀ n a, r.OnLineage name n a → r.ownField? a field = none := by
  constructor
  · intro h n a ha
    rw [Option.eq_none_iff_forall_ne_some]
    intro t hown
    obtain ⟨t', hdeclares⟩ :=
      exists_declares_of_extends (extends_iff_climb?.mpr ⟨n, ha.reached⟩) (.own hown)
    exact field?_eq_none_iff.mp h t' hdeclares
  · intro h
    rw [Option.eq_none_iff_forall_ne_some]
    intro t ht
    obtain ⟨n, a, hclimb, hown, hbefore⟩ := field?_eq_some_iff_climb?.mp ht
    -- None of the types before the first one with the field is that one.
    have hfresh : ∀ i < n, r.climb? i name ≠ some a := by
      intro i hi hclimb'
      rw [hbefore i hi a hclimb'] at hown
      cases hown
    have hnone := h n a ⟨hclimb, contains_of_ownField? hown, hfresh⟩
    rw [hnone] at hown
    cases hown

/-- A type is a subtype of those that its lineage reaches. It has the fields of the first type of its
lineage that declares them, and no others, also where the lineage leaves the registry or runs in a
circle. No look-up with more steps gives another answer. -/
theorem lookups_follow_lineage (r : Registry) (name : String) :
    (∀ a, r.isSubtype name a = true ↔ r.Extends name a) ∧
    (∀ field t, r.field? name field = some t ↔
      ∃ n a, r.climb? n name = some a ∧ r.ownField? a field = some t ∧
        ∀ i < n, ∀ b, r.climb? i name = some b → r.ownField? b field = none) ∧
    (∀ field, r.field? name field = none ↔
      ∀ n a, r.OnLineage name n a → r.ownField? a field = none) ∧
    ∀ steps, (∀ a, r.subtypeWithin (r.size + 1 + steps) name a = r.isSubtype name a) ∧
      ∀ field, r.fieldWithin (r.size + steps) name field = r.field? name field := by
  refine ⟨fun a => isSubtype_eq_true_iff, fun field t => field?_eq_some_iff_climb?,
    fun field => field?_eq_none_iff_onLineage, fun steps => ⟨?_, ?_⟩⟩
  · intro a
    exact subtypeWithin_size_add steps name a
  · intro field
    exact fieldWithin_size_add steps name field

end Vmodl.Registry
