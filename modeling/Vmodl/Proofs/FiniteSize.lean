import Mathlib.Logic.Relation
import Vmodl.Proofs.Description
import Vmodl.Proofs.Holding

/-!
# Finite sizes

Nothing refers to arguments, and of the types to which a structure refers it holds its parent only, so a
chain of structures that hold each other is a chain of parents. This fails where a type takes the
identifier of a scalar, for then fields hold it too.
-/

namespace Vmodl

open Client.Source (scalarNames)

variable {runtime : Source.Path} {b : String}

def Declaration.parent : Declaration → Option String
  | .data d => d.parent
  | .enumeration _ => none
  | .managed d => d.parent

/-- No structure holds itself, at any distance. -/
def Source.Module.FiniteSize (m : Source.Module) : Prop :=
  ∀ name, ¬Relation.TransGen m.Holds name name

namespace Schema

/-- The declaration of one name has the other name as its parent. -/
def Extends (s : Schema) (qualified parent : String) : Prop :=
  ∃ d, s.declaration? qualified = some d ∧ d.parent = some parent

/-- No name is an ancestor of itself. -/
def Hierarchical (s : Schema) : Prop := ∀ qualified, ¬Relation.TransGen s.Extends qualified qualified

/-- No declaration goes by the identifier of arguments. -/
def AvoidsArguments (s : Schema) (rootType : String) : Prop :=
  ∀ d ∈ s.declared, ∀ t ∈ (ClientModule.ofSchema s rootType).managedTypes, d.ident ∉ t.argumentIdents

/-- No structure takes the identifier of a scalar. -/
def AvoidsScalars (s : Schema) : Prop :=
  ∀ d ∈ s.emitted, d.ident ∈ scalarNames → d.kind = .enumeration

instance (s : Schema) (rootType : String) : Decidable (s.AvoidsArguments rootType) :=
  inferInstanceAs (Decidable (∀ d ∈ s.declared, ∀ t ∈ _, _))

instance (s : Schema) : Decidable s.AvoidsScalars :=
  inferInstanceAs (Decidable (∀ d ∈ s.emitted, _))

variable {s : Schema} {d : Declaration}

/-- Names are in a hierarchy if parents rank below their children. -/
theorem hierarchical_of_rank (rank : String → Nat)
    (h : ∀ d ∈ s.declared, ∀ parent ∈ d.parent, rank parent < rank d.qualified) : s.Hierarchical := by
  have hstep : ∀ {q p : String}, s.Extends q p → rank p < rank q := by
    rintro q p ⟨d, hd, hparent⟩
    rw [← qualified_of_declaration? hd]
    exact h d (mem_declared_of_declaration? hd) p hparent
  have hpath : ∀ {q p : String}, Relation.TransGen s.Extends q p → rank p < rank q := by
    intro q p hqp
    induction hqp with
    | single hedge => exact hstep hedge
    | tail _ hedge ih => exact (hstep hedge).trans ih
  intro qualified hcircle
  exact (hpath hcircle).false

theorem Distinct.declaration?_of_mem_emitted (h : s.Distinct) (hd : d ∈ s.emitted) :
    s.declaration? d.qualified = some d := by
  obtain ⟨_, e, he, hwire⟩ := Index.owns_ofSchema_iff.mp (owns_of_mem_emitted hd)
  have hident : e.ident = d.ident := congrArg Naming.typeIdent hwire
  obtain rfl : e = d :=
    h.eq_of_ident (mem_declared_of_declaration? he) (mem_declared_of_mem_emitted hd) hident
  exact he

theorem Distinct.exists_emitted_of_refers (h : s.Distinct) {wireType ident : String} {kind : TypeKind}
    (hrefers : ((Index.ofSchema s).resolve wireType).Refers kind ident) :
    ∃ e ∈ s.emitted, s.declaration? wireType = some e ∧ e.kind = kind ∧ e.ident = ident := by
  obtain ⟨wireName, hresolve, rfl⟩ := hrefers
  obtain ⟨hbuiltin, e, he, rfl, rfl⟩ :=
    Index.get?_ofSchema_eq_some_iff.mp (Index.get?_of_resolve hresolve)
  exact ⟨e, h.mem_emitted hbuiltin he, he, rfl, rfl⟩

end Schema

namespace Member

theorem exists_resolve_of_mem {i : Index} {properties : List Property} {m : Member}
    (hm : m ∈ ofProperties i properties) : ∃ wireType, m.type = i.resolve wireType := by
  have hmem : m.type ∈ (ofProperties i properties).map (·.type) := List.mem_map.mpr ⟨m, hm, rfl⟩
  rw [map_ofProperties fun _ _ => rfl] at hmem
  obtain ⟨p, _, heq⟩ := List.mem_map.mp hmem
  exact ⟨p.wireType, heq.symm⟩

end Member

theorem Operation.exists_resolve_of_mem {i : Index} {rootType : String} {d : ManagedDecl} {o : Operation}
    (ho : o ∈ ofDecl i rootType d) {m : Member} (hm : m ∈ o.parameters) :
    ∃ wireType, m.type = i.resolve wireType := by
  obtain ⟨_, _, _, _, rfl⟩ := exists_method_of_mem ho
  exact Member.exists_resolve_of_mem hm

/-- A structure that is written for a declaration. -/
structure StructItem.WrittenFor (s : Schema) (d : StructItem) (e : Declaration) : Prop where
  kind : e.kind = d.kind
  ident : e.ident = d.ident
  members : ∀ m ∈ d.members, ∃ wireType, m.type = (Index.ofSchema s).resolve wireType
  base : ∀ base kind ident, d.base = some base → base.Refers kind ident →
    ∃ wireType, e.parent = some wireType ∧ (Index.ofSchema s).resolve wireType = base

namespace ClientModule

variable {s : Schema} {rootType : String}

theorem exists_emitted_of_mem_structs {d : StructItem} (hd : d ∈ (ofSchema s rootType).structs) :
    ∃ e ∈ s.emitted, d.WrittenFor s e := by
  rcases List.mem_append.mp hd with h | h
  · obtain ⟨item, hitem, rfl⟩ := List.mem_map.mp h
    rw [dataTypes_ofSchema] at hitem
    obtain ⟨decl, hdecl, rfl⟩ := List.mem_map.mp hitem
    refine ⟨.data decl, ?_, rfl, ?_, fun m hm => Member.exists_resolve_of_mem hm, ?_⟩
    · simp [Schema.emitted, EmissionPlan.declared, hdecl]
    · simp only [Declaration.ident, Declaration.wireName, StructItem.ofData, DataItem.ofDecl]
    · intro base kind ident hbase hrefers
      obtain ⟨wireType, wireName, builtin, hparent, rfl, hresolve⟩ := DataItem.parent?_eq_some hbase
      obtain ⟨_, ⟨⟩, _⟩ := hrefers
      exact ⟨wireType, hparent, hresolve⟩
  · obtain ⟨item, hitem, rfl⟩ := List.mem_map.mp h
    rw [managedTypes_ofSchema] at hitem
    obtain ⟨decl, hdecl, rfl⟩ := List.mem_map.mp hitem
    refine ⟨.managed decl, ?_, rfl, ?_, fun m hm => Member.exists_resolve_of_mem hm, ?_⟩
    · simp [Schema.emitted, EmissionPlan.declared, hdecl]
    · simp only [Declaration.ident, Declaration.wireName, StructItem.ofManaged, ManagedItem.ofDecl]
    · intro base kind ident hbase hrefers
      obtain rfl : ManagedItem.parent (Index.ofSchema s) decl = base := Option.some.inj hbase
      rcases ManagedItem.parent_eq (Index.ofSchema s) decl with
        hroot | ⟨wireType, wireName, builtin, hparent, heq, hresolve⟩
      · -- The root of handles is built in.
        rw [hroot] at hrefers
        obtain ⟨_, ⟨⟩, _⟩ := hrefers
      · rw [heq] at hrefers
        obtain ⟨_, ⟨⟩, _⟩ := hrefers
        exact ⟨wireType, hparent, hresolve⟩

end ClientModule

/-! ### Chains of structures -/

theorem ManagedItem.mem_argumentIdents {d : ManagedItem} {o : Operation} (ho : o ∈ d.operations)
    (hparameters : o.parameters ≠ []) : o.argsIdent ∈ d.argumentIdents := by
  refine List.mem_map.mpr ⟨o, List.mem_filter.mpr ⟨ho, ?_⟩, rfl⟩
  simpa using hparameters

theorem Client.Source.not_argumentLike_of_mem_scalarNames :
    ∀ ident ∈ scalarNames, ¬Naming.ArgumentLike ident := by
  decide

section

variable {s : Schema} {rootType : String} {t : Source.Ty}

/-- Values of a structure hold enumerations and the parent, if nothing is taken for a scalar. -/
theorem Schema.Distinct.exists_emitted_of_struct (h : s.Distinct) (hruntime : runtime.segments ≠ [])
    {d : StructItem} (hd : d ∈ (ClientModule.ofSchema s rootType).structs)
    (ht : t ∈ d.memberTypes runtime) (hb : t.Holds b) :
    b ∈ scalarNames ∨ ∃ e ∈ s.emitted, e.ident = b ∧ (e.kind = .enumeration ∨
      ∀ x ∈ s.emitted, x.ident = d.ident → s.Extends x.qualified e.qualified) := by
  obtain ⟨x, hx, hfor⟩ := ClientModule.exists_emitted_of_mem_structs hd
  rcases d.refers_of_holds hruntime ht hb with hscalar | ⟨m, hm, hrefers⟩ | ⟨base, kind, hbase, hrefers⟩
  · exact Or.inl hscalar
  · obtain ⟨wireType, htype⟩ := hfor.members m hm
    rw [htype] at hrefers
    obtain ⟨e, he, _, hkind, hident⟩ := h.exists_emitted_of_refers hrefers
    exact Or.inr ⟨e, he, hident, Or.inl hkind⟩
  · obtain ⟨wireType, hparent, hresolve⟩ := hfor.base base kind b hbase hrefers
    rw [← hresolve] at hrefers
    obtain ⟨e, he, hdeclared, _, hident⟩ := h.exists_emitted_of_refers hrefers
    refine Or.inr ⟨e, he, hident, Or.inr fun y hy hyd => ?_⟩
    obtain rfl : y = x := Schema.eq_of_ident_of_mem_emitted hy hx (hyd.trans hfor.ident.symm)
    rw [Schema.qualified_of_declaration? hdeclared]
    exact ⟨y, h.declaration?_of_mem_emitted hy, hparent⟩

theorem Schema.Distinct.exists_emitted_of_arguments (h : s.Distinct) (hruntime : runtime.segments ≠ [])
    {d : ManagedItem} (hd : d ∈ (ClientModule.ofSchema s rootType).managedTypes) {o : Operation}
    (ho : o ∈ d.operations) (ht : t ∈ o.memberTypes runtime) (hb : t.Holds b) :
    b ∈ scalarNames ∨ ∃ e ∈ s.emitted, e.ident = b := by
  obtain ⟨decl, _, rfl⟩ := ClientModule.mem_managedTypes_ofSchema hd
  rcases o.refers_of_holds hruntime ht hb with hscalar | ⟨m, hm, kind, hrefers⟩
  · exact Or.inl hscalar
  · obtain ⟨wireType, htype⟩ := Operation.exists_resolve_of_mem ho hm
    rw [htype] at hrefers
    obtain ⟨e, he, _, _, hident⟩ := h.exists_emitted_of_refers hrefers
    exact Or.inr ⟨e, he, hident⟩

end

namespace Generation

variable {s : Schema} {o : Options} {m : Source.Module} {a : String}

theorem emitted_or_arguments_of_hasStruct {types : List Source.Ty} {rootType : String} {embedded : Bool}
    (h : Source.HasStruct (Client.Source.wholeModule runtime s (.ofSchema s rootType) embedded).items
      b types) :
    (∃ e ∈ s.emitted, e.kind ≠ .enumeration ∧ e.ident = b) ∨
      ∃ d ∈ (ClientModule.ofSchema s rootType).managedTypes, b ∈ d.argumentIdents := by
  rcases (Client.Source.hasStruct_wholeModule_iff s rootType embedded).mp h with
    ⟨d, hd, rfl, _⟩ | ⟨d, hd, o, ho, hparameters, rfl, _⟩
  · obtain ⟨e, he, hfor⟩ := ClientModule.exists_emitted_of_mem_structs hd
    refine Or.inl ⟨e, he, ?_, hfor.ident⟩
    rw [hfor.kind]
    exact ClientModule.kind_ne_enumeration_of_mem_structs hd
  · exact Or.inr ⟨d, hd, ManagedItem.mem_argumentIdents ho hparameters⟩

theorem scalar_or_emitted_of_holds (hdistinct : s.Distinct) {rootType : String} {embedded : Bool}
    (harguments : s.AvoidsArguments rootType) (hruntime : runtime.segments ≠ []) {types : List Source.Ty}
    (ha : Source.HasStruct (Client.Source.wholeModule runtime s (.ofSchema s rootType) embedded).items
      a types) {t : Source.Ty} (ht : t ∈ types) (hb : t.Holds b) :
    b ∈ scalarNames ∨ ∃ e ∈ s.emitted, e.ident = b ∧ (e.kind = .enumeration ∨
      ∀ d ∈ s.emitted, d.ident = a → s.Extends d.qualified e.qualified) := by
  rcases (Client.Source.hasStruct_wholeModule_iff s rootType embedded).mp ha with
    ⟨d, hd, rfl, rfl⟩ | ⟨d, hd, op, hop, hparameters, rfl, rfl⟩
  · exact hdistinct.exists_emitted_of_struct hruntime hd ht hb
  · rcases hdistinct.exists_emitted_of_arguments hruntime hd hop ht hb with hscalar | ⟨e, he, hident⟩
    · exact Or.inl hscalar
    · -- Arguments may hold any type, but none is declared under their name.
      have hmem := ManagedItem.mem_argumentIdents hop hparameters
      refine Or.inr ⟨e, he, hident, Or.inr fun x hx hxa => ?_⟩
      rw [← hxa] at hmem
      exact absurd hmem (harguments x (Schema.mem_declared_of_mem_emitted hx) d hd)

/-- What is held is declared, and it is the parent of what holds it, unless that is arguments. -/
theorem exists_emitted_of_holds (h : assemble s o = .ok m) (hdistinct : s.Distinct)
    (harguments : s.AvoidsArguments o.rootType) (hscalars : s.AvoidsScalars) (hab : m.Holds a b) :
    ∃ e ∈ s.emitted, e.ident = b ∧
      ∀ d ∈ s.emitted, d.ident = a → s.Extends d.qualified e.qualified := by
  obtain ⟨_, runtime, hruntime, rfl⟩ := assemble_eq_ok_iff.mp h
  obtain ⟨⟨_, hb⟩, types, ha, t, ht, htb⟩ := hab
  have hheld := scalar_or_emitted_of_holds hdistinct harguments
    (Options.segments_ne_nil_of_runtime hruntime) ha ht htb
  rcases emitted_or_arguments_of_hasStruct hb with ⟨x, hx, hkind, rfl⟩ | ⟨d, hd, hmem⟩
  · rcases hheld with hscalar | ⟨e, he, hident, hedge⟩
    · exact absurd (hscalars x hx hscalar) hkind
    · obtain rfl : e = x := Schema.eq_of_ident_of_mem_emitted he hx hident
      exact ⟨e, he, rfl, hedge.resolve_left hkind⟩
  · -- No declared type and no scalar has the name of arguments.
    rcases hheld with hscalar | ⟨e, he, rfl, _⟩
    · obtain ⟨decl, _, rfl⟩ := ClientModule.mem_managedTypes_ofSchema hd
      exact absurd (ManagedItem.argumentLike_of_mem_argumentIdents hmem)
        (Client.Source.not_argumentLike_of_mem_scalarNames b hscalar)
    · exact absurd hmem (harguments e (Schema.mem_declared_of_mem_emitted he) d hd)

/-- A chain of structures follows a chain of parents. -/
theorem exists_emitted_of_transGen_holds (h : assemble s o = .ok m) (hdistinct : s.Distinct)
    (harguments : s.AvoidsArguments o.rootType) (hscalars : s.AvoidsScalars)
    (hab : Relation.TransGen m.Holds a b) :
    ∃ e ∈ s.emitted, e.ident = b ∧
      ∀ d ∈ s.emitted, d.ident = a → Relation.TransGen s.Extends d.qualified e.qualified := by
  induction hab with
  | single hstep =>
      obtain ⟨e, he, hident, hedge⟩ :=
        exists_emitted_of_holds h hdistinct harguments hscalars hstep
      exact ⟨e, he, hident, fun d hd hda => .single (hedge d hd hda)⟩
  | tail _ hstep ih =>
      obtain ⟨e, he, hident, hpath⟩ := ih
      obtain ⟨e', he', hident', hedge⟩ :=
        exists_emitted_of_holds h hdistinct harguments hscalars hstep
      exact ⟨e', he', hident', fun d hd hda => (hpath d hd hda).tail (hedge e he hident)⟩

/-- Types are of finite size however their fields refer to each other, for fields box what they refer
to. -/
theorem finiteSize_of_assemble (h : assemble s o = .ok m) (hdistinct : s.Distinct)
    (harguments : s.AvoidsArguments o.rootType) (hparents : s.Hierarchical)
    (hscalars : s.AvoidsScalars) : m.FiniteSize := by
  intro name hcircle
  obtain ⟨e, he, hident, hpath⟩ :=
    exists_emitted_of_transGen_holds h hdistinct harguments hscalars hcircle
  exact hparents e.qualified (hpath e he hident)

def graftMethod : Method where
  name := "Graft"
  wireName := "Graft"
  parameters := [{ name := "leaf", wireType := "vim.Leaf" }]

/-- The data types refer to each other in all ways, and one of them extends the other. -/
def mutualReferences : Schema where
  dataTypes := [
    { qualified := "vim.Node", wireName := "Node",
      fields := [{ name := "next", wireType := "vim.Node", flags := ⟨4⟩ },
        { name := "leaf", wireType := "vim.Leaf" }, { name := "leaves", wireType := "vim.Leaf[]" }] },
    { qualified := "vim.Leaf", wireName := "Leaf", parent := some "vim.Node",
      fields := [{ name := "owner", wireType := "vim.Node" },
        { name := "text", wireType := "string" }] }]
  managedTypes := [
    { qualified := "vim.Tree", wireName := "Tree",
      fields := [{ name := "root", wireType := "vim.Node" }],
      methods := [graftMethod] }]

theorem finiteSize_of_mutualReferences :
    mutualReferences.Distinct ∧ mutualReferences.AvoidsArguments "ServiceInstance" ∧
      mutualReferences.Hierarchical ∧ mutualReferences.AvoidsScalars ∧
      ∃ m, assemble mutualReferences {} = .ok m ∧ m.FiniteSize := by
  have hdistinct : mutualReferences.Distinct := by decide +kernel
  have harguments : mutualReferences.AvoidsArguments "ServiceInstance" := by decide +kernel
  have hparents : mutualReferences.Hierarchical :=
    Schema.hierarchical_of_rank (fun name => if name = "vim.Leaf" then 1 else 0) (by decide +kernel)
  have hscalars : mutualReferences.AvoidsScalars := by decide +kernel
  obtain ⟨m, hm⟩ := exists_assemble_iff.mpr Options.validate_default
  exact ⟨hdistinct, harguments, hparents, hscalars, m, hm,
    finiteSize_of_assemble hm hdistinct harguments hparents hscalars⟩

/-- A data type that is named as the scalar of its own field. -/
def namedAsScalar : Schema where
  dataTypes := [
    { qualified := "vim.String", wireName := "String",
      fields := [{ name := "value", wireType := "string" }] }]

/-- The structure of the data type, with its field. -/
def stringStruct : StructItem :=
  ⟨.data, "String", "String", none, [⟨"value", "value", .primitive .string, false, false⟩]⟩

/-- A structure whose identifier is that of a scalar can hold itself. -/
theorem not_finiteSize_of_assemble : ¬∀ (s : Schema) (o : Options) (m : Source.Module),
    assemble s o = .ok m → s.Distinct → s.AvoidsArguments o.rootType → s.Hierarchical →
      m.FiniteSize := by
  intro hall
  obtain ⟨m, hm⟩ := exists_assemble_iff.mpr Options.validate_default
  have hdistinct : namedAsScalar.Distinct := by decide +kernel
  have harguments : namedAsScalar.AvoidsArguments "ServiceInstance" := by decide +kernel
  have hparents : namedAsScalar.Hierarchical :=
    Schema.hierarchical_of_rank (fun _ => 0) (by decide +kernel)
  have hfinite := hall namedAsScalar {} m hm hdistinct harguments hparents "String"
  obtain ⟨_, runtime, _, rfl⟩ := assemble_eq_ok_iff.mp hm
  have hmem : stringStruct ∈ (ClientModule.ofSchema namedAsScalar "ServiceInstance").structs := by
    decide +kernel
  have hstruct : Source.HasStruct (Client.Source.wholeModule runtime namedAsScalar
      (.ofSchema namedAsScalar "ServiceInstance") false).items "String" [.ofIdent "String"] :=
    (Client.Source.hasStruct_wholeModule_iff _ _ _).mpr (Or.inl ⟨stringStruct, hmem, rfl, rfl⟩)
  exact hfinite (.single ⟨⟨_, hstruct⟩, _, hstruct, _, List.mem_singleton_self _, .name "String"⟩)

end Generation

end Vmodl
