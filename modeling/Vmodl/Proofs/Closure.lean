import Vmodl.Proofs.Declarations
import Vmodl.Proofs.Structures

/-!
# Closed modules

An identifier that belongs to one declaration cannot be taken from it, so whatever the index records is
emitted. If no declaration goes by the identifier of a built-in type either, all that a module refers to
is in the module or built in, and the registry knows it by its kind.
-/

namespace Vmodl

namespace Declaration

/-- The wire types of the parent, the fields, and the parameters and results of the methods. -/
def references : Declaration → List String
  | .data d => d.parent.toList ++ d.fields.map (·.wireType)
  | .enumeration _ => []
  | .managed d => d.parent.toList ++ d.fields.map (·.wireType) ++
      d.methods.flatMap fun m => m.result.wireType :: m.parameters.map (·.wireType)

def registration (i : Index) : Declaration → Registration
  | .data d => ClientModule.dataRegistration i d
  | .enumeration d => .enumeration d.wireName
  | .managed d => ClientModule.managedRegistration i d

@[simp] theorem name_registration (i : Index) (d : Declaration) :
    (d.registration i).name = d.wireName := by
  cases d <;> rfl

@[simp] theorem kind_entry_registration (i : Index) (d : Declaration) :
    (d.registration i).entry.kind = d.kind := by
  cases d <;> rfl

end Declaration

theorem filter_eq_singleton_of_nodup {α β : Type*} [BEq β] [LawfulBEq β] {l : List α} {f : α → β}
    {a : α} (hnodup : (l.map f).Nodup) (ha : a ∈ l) : l.filter (fun b => f b == f a) = [a] := by
  induction l with
  | nil => cases ha
  | cons x l ih =>
      rw [List.map_cons, List.nodup_cons] at hnodup
      rcases List.mem_cons.mp ha with rfl | ha
      · have hrest : ∀ b ∈ l, ¬(f b == f a) = true := by
          intro b hb heq
          exact hnodup.1 (eq_of_beq heq ▸ List.mem_map_of_mem hb)
        rw [List.filter_cons_of_pos (by simp), List.filter_eq_nil_iff.mpr hrest]
      · have hne : ¬(f x == f a) = true := by
          intro heq
          exact hnodup.1 (eq_of_beq heq ▸ List.mem_map_of_mem ha)
        rw [List.filter_cons_of_neg (by exact hne), ih hnodup.2 ha]

namespace Schema

variable {s : Schema} {d : Declaration} {qualified : String}

/-- No two declarations share an identifier. -/
def Distinct (s : Schema) : Prop := (s.declared.map (·.ident)).Nodup

instance (s : Schema) : Decidable s.Distinct := inferInstanceAs (Decidable (List.Nodup _))

theorem Distinct.eq_of_ident (h : s.Distinct) {e : Declaration} (hd : d ∈ s.declared)
    (he : e ∈ s.declared) (hident : d.ident = e.ident) : d = e :=
  List.inj_on_of_nodup_map h hd he hident

/-- What the index records is emitted. -/
theorem Distinct.mem_emitted (h : s.Distinct) (hbuiltin : Index.builtins.get? qualified = none)
    (hd : s.declaration? qualified = some d) : d ∈ s.emitted := by
  have hmem := mem_declared_of_declaration? hd
  have howns : s.ownsAs d.ident d = true := by
    rw [ownsAs_eq_true_iff, Index.owns_ofSchema_iff, qualified_of_declaration? hd]
    exact ⟨⟨hbuiltin, d, hd, rfl⟩, rfl⟩
  rw [mem_emitted_iff]
  cases hfind : s.inModuleOrder.find? (s.ownsAs d.ident) with
  | none =>
      have hnone := List.find?_eq_none.mp hfind d (mem_inModuleOrder_iff.mpr hmem)
      exact absurd howns hnone
  | some e =>
      have he := mem_inModuleOrder_iff.mp (List.mem_of_find?_eq_some hfind)
      have hident := (ownsAs_eq_true_iff.mp (List.find?_some hfind)).2
      rw [h.eq_of_ident he hmem hident]

theorem map_wireName_emitted (s : Schema) :
    s.emitted.map (·.wireName) = (EmissionPlan.ofSchema s (Index.ofSchema s)).wireNames := by
  simp [emitted, EmissionPlan.declared, EmissionPlan.wireNames, Function.comp_def,
    Declaration.wireName]

theorem nodup_wireNames_emitted (s : Schema) : (s.emitted.map (·.wireName)).Nodup := by
  rw [map_wireName_emitted]
  exact EmissionPlan.nodup_wireNames_ofSchema

theorem nodup_idents_emitted (s : Schema) : (s.emitted.map (·.ident)).Nodup := by
  have h := EmissionPlan.nodup_idents_ofSchema (s := s) (i := Index.ofSchema s)
  rw [← map_wireName_emitted, List.map_map] at h
  simpa only [Declaration.ident, Function.comp_def] using h

theorem eq_of_ident_of_mem_emitted {e : Declaration} (hd : d ∈ s.emitted) (he : e ∈ s.emitted)
    (hident : d.ident = e.ident) : d = e :=
  List.inj_on_of_nodup_map s.nodup_idents_emitted hd he hident

theorem registrations_eq (s : Schema) (rootType : String) :
    (ClientModule.ofSchema s rootType).registrations =
      s.emitted.map (·.registration (Index.ofSchema s)) := by
  simp [ClientModule.ofSchema, ClientModule.ofPlan, ClientModule.registrationsOf, emitted,
    EmissionPlan.declared, Function.comp_def, Declaration.registration]

/-- An emitted declaration makes the entry of its wire name, unless it is refused. -/
theorem entry?_registry_of_mem_emitted (rootType : String) (hd : d ∈ s.emitted) :
    (ClientModule.ofSchema s rootType).registry.entry? d.wireName =
      if (d.registration (Index.ofSchema s)).RefusedBy .builtins then
        Registry.builtins.entry? d.wireName
      else some (d.registration (Index.ofSchema s)).entry := by
  have hnodup : ((s.emitted.map (·.registration (Index.ofSchema s))).map (·.name)).Nodup := by
    simpa [Function.comp_def] using nodup_wireNames_emitted s
  have hentry := Registry.entry?_run_name (r := .builtins) hnodup (List.mem_map.mpr ⟨d, hd, rfl⟩)
  rw [Declaration.name_registration] at hentry
  rw [ClientModule.registry, registrations_eq]
  exact hentry

theorem kind?_registry_of_mem_emitted (rootType : String) (hd : d ∈ s.emitted)
    (hfree : Registry.builtins.isManaged d.wireName = false) :
    (ClientModule.ofSchema s rootType).registry.kind? d.wireName = some d.kind := by
  have hrefused : ¬(d.registration (Index.ofSchema s)).RefusedBy .builtins := by
    rintro ⟨-, hmanaged⟩
    rw [Declaration.name_registration, hfree] at hmanaged
    cases hmanaged
  rw [Registry.kind?, entry?_registry_of_mem_emitted rootType hd, if_neg hrefused, Option.map_some,
    Declaration.kind_entry_registration]

/-- Names under which nothing is emitted are registered as they are for every client. -/
theorem entry?_registry_of_not_emitted (rootType : String) {wireName : String}
    (h : ∀ d ∈ s.emitted, d.wireName ≠ wireName) :
    (ClientModule.ofSchema s rootType).registry.entry? wireName =
      Registry.builtins.entry? wireName := by
  apply ClientModule.entry?_registry_of_not_mem
  rw [ClientModule.wireNames_ofSchema, ← map_wireName_emitted]
  intro hmem
  obtain ⟨d, hd, hwire⟩ := List.mem_map.mp hmem
  exact h d hd hwire

theorem kind?_registry_of_not_emitted (rootType : String) {wireName : String}
    (h : ∀ d ∈ s.emitted, d.wireName ≠ wireName) :
    (ClientModule.ofSchema s rootType).registry.kind? wireName = Registry.builtins.kind? wireName := by
  rw [Registry.kind?, entry?_registry_of_not_emitted rootType h, Registry.kind?]

theorem filter_emitted_eq_singleton (hd : d ∈ s.emitted) :
    s.emitted.filter (fun e => e.wireName == d.wireName) = [d] :=
  filter_eq_singleton_of_nodup (nodup_wireNames_emitted s) hd

/-! ### References -/

/-- No declaration goes by the identifier of a built-in type. -/
def AvoidsBuiltins (s : Schema) : Prop :=
  ∀ d ∈ s.declared, ∀ b ∈ Index.builtinTypes, d.ident ≠ Naming.typeIdent b.2.1

instance (s : Schema) : Decidable s.AvoidsBuiltins :=
  inferInstanceAs (Decidable (∀ d ∈ s.declared, ∀ b ∈ Index.builtinTypes, _))

theorem AvoidsBuiltins.wireName_ne (h : s.AvoidsBuiltins) (hd : d ∈ s.declared)
    {b : String × String × TypeKind} (hb : b ∈ Index.builtinTypes) : d.wireName ≠ b.2.1 := by
  intro hwire
  exact h d hd b hb (congrArg Naming.typeIdent hwire)

theorem kind?_builtins_of_mem : ∀ b ∈ Index.builtinTypes,
    Registry.builtins.kind? b.2.1 = some b.2.2 := by
  decide +kernel

/-- Every type to which a declaration refers is built in, or one declaration of its kind is emitted
under its wire name. The registry knows it by its kind. -/
theorem references_closed (hdistinct : s.Distinct) (hbuiltins : s.AvoidsBuiltins) (rootType : String) :
    ∀ d ∈ s.emitted, ∀ wireType ∈ d.references, ∀ kind wireName builtin,
      ((Index.ofSchema s).resolve wireType).leaf = .declared kind wireName builtin →
        (ClientModule.ofSchema s rootType).registry.kind? wireName = some kind ∧
          (builtin = false → ∃ e, s.emitted.filter (fun e => e.wireName == wireName) = [e] ∧
            e.kind = kind) := by
  intro d _ wireType _ kind wireName builtin hleaf
  obtain ⟨name, hget⟩ := Index.exists_get?_of_leaf_resolve hleaf
  cases builtin with
  | true =>
      obtain ⟨hmem, -⟩ : (name, wireName, kind) ∈ Index.builtinTypes ∧ true = true := by
        rcases Index.get?_ofSchema hget with hbuiltin | ⟨_, _, _, heq⟩
        · exact Index.mem_builtinTypes_of_get? hbuiltin
        · cases heq
      have hfree : ∀ e ∈ s.emitted, e.wireName ≠ wireName := fun e he =>
        hbuiltins.wireName_ne (mem_declared_of_mem_emitted he) hmem
      refine ⟨?_, nofun⟩
      rw [kind?_registry_of_not_emitted rootType hfree]
      exact kind?_builtins_of_mem _ hmem
  | false =>
      obtain ⟨hname, e, he, rfl, rfl⟩ := Index.get?_ofSchema_eq_some_iff.mp hget
      have hemitted := hdistinct.mem_emitted hname he
      have hroot : ("vmodl.ManagedObject", "ManagedObject", TypeKind.managed) ∈ Index.builtinTypes := by
        simp [Index.builtinTypes]
      have hfree : Registry.builtins.isManaged e.wireName = false :=
        Registry.isManaged_builtins_of_ne
          (hbuiltins.wireName_ne (mem_declared_of_declaration? he) hroot)
      exact ⟨kind?_registry_of_mem_emitted rootType hemitted hfree,
        fun _ => ⟨e, filter_emitted_eq_singleton hemitted, rfl⟩⟩

def moveMethod : Method where
  name := "Move"
  wireName := "Move_Task"
  parameters := [{ name := "hosts", wireType := "vim.Host[]" }]
  result := { wireType := "vim.Task" }

def taskDecl : ManagedDecl where
  qualified := "vim.Task"
  wireName := "Task"
  parent := some "vmodl.ManagedObject"
  fields := [{ name := "state", wireType := "vim.State" }]
  methods := [moveMethod]

/-- The second data type repeats the qualified name of the first one. -/
def closedSchema : Schema where
  dataTypes := [{ qualified := "vim.Host", wireName := "Host" },
    { qualified := "vim.Host", wireName := "OldHost" }]
  enumTypes := [{ qualified := "vim.State", wireName := "State", values := ["on"] }]
  managedTypes := [taskDecl]

theorem references_closed_taskDecl :
    closedSchema.Distinct ∧ closedSchema.AvoidsBuiltins ∧
      Declaration.managed taskDecl ∈ closedSchema.emitted ∧
      "vim.Host[]" ∈ (Declaration.managed taskDecl).references ∧
      ((Index.ofSchema closedSchema).resolve "vim.Host[]").leaf = .declared .data "Host" false ∧
      (ClientModule.ofSchema closedSchema "Task").registry.kind? "Host" = some .data ∧
      (false = false → ∃ e, closedSchema.emitted.filter (fun e => e.wireName == "Host") = [e] ∧
        e.kind = .data) := by
  have hdistinct : closedSchema.Distinct := by decide +kernel
  have hbuiltins : closedSchema.AvoidsBuiltins := by decide +kernel
  have htask : closedSchema.declaration? "vim.Task" = some (.managed taskDecl) := rfl
  have hemitted : Declaration.managed taskDecl ∈ closedSchema.emitted :=
    hdistinct.mem_emitted (by decide +kernel) htask
  have hmem : "vim.Host[]" ∈ (Declaration.managed taskDecl).references := by
    simp [Declaration.references, taskDecl, moveMethod]
  have hleaf : ((Index.ofSchema closedSchema).resolve "vim.Host[]").leaf =
      .declared .data "Host" false := by
    decide +kernel
  exact ⟨hdistinct, hbuiltins, hemitted, hmem, hleaf,
    references_closed hdistinct hbuiltins "Task" _ hemitted _ hmem _ _ _ hleaf⟩

end Schema

end Vmodl
