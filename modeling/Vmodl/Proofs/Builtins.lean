import Vmodl.Proofs.Closure
import Vmodl.Proofs.Lineage

/-!
# Built-in types in the registry of a module

A module registers its types on top of those that every client knows, and a registration goes by wire
name alone. A declaration with the wire name of a built-in type therefore takes the place of its entry,
whatever its qualified name is. Where the built-in entries stay, what they hand down stays as well.
-/

namespace Vmodl

namespace Registry

variable {r : Registry} {name ancestor field : String} {t : FieldType}

/-- The types that every client knows are described as they are for every client. -/
def KeepsBuiltins (r : Registry) : Prop :=
  ∀ name ∈ builtins.types.names, r.entry? name = builtins.entry? name

instance (r : Registry) : Decidable r.KeepsBuiltins :=
  inferInstanceAs (Decidable (∀ name ∈ builtins.types.names, _))

/-- What extends a type extends all that the type does for every client, and has its fields. -/
structure InheritsBuiltins (r : Registry) : Prop where
  subtypes : ∀ name parent ancestor, r.isSubtype name parent = true →
    builtins.isSubtype parent ancestor = true → r.isSubtype name ancestor = true
  fields : ∀ name parent field, r.isSubtype name parent = true →
    builtins.field? parent field ≠ none → r.field? name field ≠ none

theorem KeepsBuiltins.parent?_eq (h : r.KeepsBuiltins) (hname : name ∈ builtins.types.names) :
    r.parent? name = builtins.parent? name := by
  rw [parent?, h name hname, parent?]

theorem KeepsBuiltins.ownField?_eq (h : r.KeepsBuiltins) (hname : name ∈ builtins.types.names)
    (field : String) : r.ownField? name field = builtins.ownField? name field := by
  rw [ownField?, h name hname, ownField?]

theorem KeepsBuiltins.extends (h : r.KeepsBuiltins) (hextends : builtins.Extends name ancestor) :
    r.Extends name ancestor := by
  refine Relation.ReflTransGen.mono ?_ name ancestor hextends
  intro name parent hlink
  rw [h.parent?_eq (mem_names_of_parent? hlink)]
  exact hlink

theorem KeepsBuiltins.declares (h : r.KeepsBuiltins) (hdeclares : builtins.Declares field name t) :
    r.Declares field name t := by
  induction hdeclares with
  | @own name t hown =>
      apply Declares.own
      rw [h.ownField?_eq (mem_names_of_ownField? hown)]
      exact hown
  | @inherited name parent t hown hparent _ ih =>
      have hname := mem_names_of_parent? hparent
      refine .inherited ?_ ?_ ih
      · rw [h.ownField?_eq hname]
        exact hown
      · rw [h.parent?_eq hname]
        exact hparent

theorem KeepsBuiltins.inherits (h : r.KeepsBuiltins) : r.InheritsBuiltins where
  subtypes name parent ancestor hsub hbuiltin := by
    rw [isSubtype_eq_true_iff] at hsub hbuiltin ⊢
    exact hsub.trans (h.extends hbuiltin)
  fields name parent field hsub hbuiltin := by
    rw [isSubtype_eq_true_iff] at hsub
    obtain ⟨t, ht⟩ := Option.ne_none_iff_exists'.mp hbuiltin
    have hparent := h.declares (field?_eq_some_iff.mp ht)
    obtain ⟨t', ht'⟩ := exists_declares_of_extends hsub hparent
    rw [field?_eq_some_iff.mpr ht']
    exact Option.some_ne_none t'

theorem isManaged_builtins_iff : builtins.isManaged name = true ↔ name = "ManagedObject" := by
  constructor
  · intro h
    by_contra hne
    rw [isManaged_builtins_of_ne hne] at h
    cases h
  · rintro rfl
    decide +kernel

end Registry

/-! ### Declarations under the names of built-in types -/

/-- A declaration leaves the built-in type of its wire name as it is: it is a data type under the name of
the root of handles, which is refused, or it says what the built-in type says. -/
def Declaration.Spares (i : Index) (d : Declaration) : Prop :=
  d.kind = .data ∧ d.wireName = ManagedItem.rootName ∨
    Registry.builtins.entry? d.wireName = some (d.registration i).entry

namespace Schema

variable {s : Schema} {d : Declaration}

theorem refusedBy_builtins_iff (i : Index) : (d.registration i).RefusedBy .builtins ↔
    d.kind = .data ∧ d.wireName = ManagedItem.rootName := by
  rw [Registration.RefusedBy, Declaration.kind_entry_registration, Declaration.name_registration,
    Registry.isManaged_builtins_iff]
  rfl

theorem entry?_registry_eq_builtins_iff (rootType : String) (hd : d ∈ s.emitted) :
    (ClientModule.ofSchema s rootType).registry.entry? d.wireName =
      Registry.builtins.entry? d.wireName ↔ d.Spares (Index.ofSchema s) := by
  rw [entry?_registry_of_mem_emitted rootType hd, Declaration.Spares,
    ← refusedBy_builtins_iff (Index.ofSchema s)]
  split
  · rename_i hrefused
    exact iff_of_true rfl (Or.inl hrefused)
  · rename_i hrefused
    rw [or_iff_right hrefused, eq_comm]

/-- The built-in types stay as they are exactly if each declaration under one of their wire names spares
it. Then nothing that is inherited from them is lost. -/
theorem keepsBuiltins_iff_spares (s : Schema) (rootType : String) :
    let r := (ClientModule.ofSchema s rootType).registry
    (r.KeepsBuiltins ↔ ∀ d ∈ s.emitted, d.wireName ∈ Registry.builtins.types.names →
      d.Spares (Index.ofSchema s)) ∧
    (r.KeepsBuiltins → r.InheritsBuiltins) := by
  intro r
  refine ⟨⟨?_, ?_⟩, Registry.KeepsBuiltins.inherits⟩
  · intro h d hd hname
    exact (entry?_registry_eq_builtins_iff rootType hd).mp (h d.wireName hname)
  · intro h name hname
    by_cases hemitted : ∃ d ∈ s.emitted, d.wireName = name
    · obtain ⟨d, hd, rfl⟩ := hemitted
      exact (entry?_registry_eq_builtins_iff rootType hd).mpr (h d hd hname)
    · push Not at hemitted
      exact entry?_registry_of_not_emitted rootType hemitted

/-- A data type with the wire name of the root of faults, and without its fields. -/
def ownFault : Schema where
  dataTypes := [{ qualified := "vim.MethodFault", wireName := "MethodFault" }]

theorem not_keepsBuiltins_ownFault :
    ¬∀ (s : Schema) (rootType : String),
      (ClientModule.ofSchema s rootType).registry.KeepsBuiltins := by
  intro h
  have hkeeps := h ownFault ""
  revert hkeeps
  decide +kernel

example : (ClientModule.ofSchema ownFault "").registry.field? "RuntimeFault" "faultMessage" = none ∧
    (ClientModule.ofSchema ownFault "").registry.isSubtype "RuntimeFault" "DynamicData" = false := by
  decide +kernel

end Schema

end Vmodl
