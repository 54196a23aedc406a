import Vmodl.Proofs.Structures

/-!
# The registry describes the structures

The layouts of a module's structures and the registrations of their types are made apart from each
other. They agree on the kind, on the fields and on their types. They agree on the parent as well, but
where the parent was left out of the module: its identifier then leads to another type.
-/

namespace Vmodl

/-- An entry describes a structure that is laid out as `t`: it has the kind of the structure and the
parent that it refers to, and it types the fields that a value of the structure takes, each as its
member, and the target of calls on a handle. -/
structure TypeEntry.Describes (e : TypeEntry) (d : StructItem) (t : StructType) : Prop where
  kind : e.kind = d.kind
  parent : e.parent = d.base.map (·.key)
  distinct : e.fields.names.Nodup
  names : ∀ f, f ∈ e.fields.names ↔ f ∈ t.own.map (·.wireName) ∨ d.kind = .managed ∧ f = thisField
  keys : ∀ m ∈ d.members, (e.fields.lookup m.wireName).map (·.key) = some m.type.key
  target : d.kind = .managed → e.fields.lookup thisField = some (.managed d.wireName)

/-- The structure that another one embeds, which its identifier leads to. -/
def Client.embedded? (c : Client) (kind : TypeKind) (t : StructType) : Option StructType :=
  t.base.bind (c.struct? kind)

/-- A type is built in, or the module declares it. -/
def ClientModule.Has (m : ClientModule) : ResolvedType → Prop
  | .declared kind wireName builtin =>
    builtin = true ∨ ∃ d ∈ m.structs, d.kind = kind ∧ d.wireName = wireName
  | _ => False

instance (m : ClientModule) (t : ResolvedType) : Decidable (m.Has t) :=
  match t with
  | .declared kind wireName builtin =>
    inferInstanceAs (Decidable (builtin = true ∨ ∃ d ∈ m.structs, d.kind = kind ∧ d.wireName = wireName))
  | .primitive _ | .array _ | .unknown _ => inferInstanceAs (Decidable False)

namespace StructItem

variable {d : StructItem}

theorem nodup_fieldTypes (hmembers : (d.members.map (·.wireName)).Nodup)
    (hthis : thisField ∉ d.members.map (·.wireName)) : (d.fieldTypes.map Prod.fst).Nodup := by
  rw [fieldTypes, List.map_append, List.map_map, List.nodup_append]
  refine ⟨hmembers, ?_, ?_⟩
  · split <;> simp
  · intro a ha b hb hab
    subst hab
    split at hb
    · obtain rfl : a = thisField := by simpa using hb
      exact hthis ha
    · cases hb

theorem mem_fieldTypes_of_mem_members {m : Member} (hm : m ∈ d.members) :
    (m.wireName, m.type.fieldType) ∈ d.fieldTypes :=
  List.mem_append_left _ (List.mem_map.mpr ⟨m, hm, rfl⟩)

theorem mem_names_fieldTypes (d : StructItem) (f : String) : f ∈ d.fieldTypes.map Prod.fst ↔
    f ∈ d.layout.own.map (·.wireName) ∨ d.kind = .managed ∧ f = thisField := by
  have hown : d.layout.own.map (·.wireName) = d.members.map (·.wireName) := by
    rw [layout, List.map_map]
    rfl
  rw [hown, fieldTypes, List.map_append, List.mem_append, List.map_map]
  refine or_congr Iff.rfl ?_
  split
  · rename_i hkind
    simp [hkind]
  · rename_i hkind
    simp [hkind]

/-- Where the names of the members differ, the entry of a structure describes it. -/
theorem describes_entry (hmembers : (d.members.map (·.wireName)).Nodup)
    (hthis : thisField ∉ d.members.map (·.wireName)) : d.entry.Describes d d.layout where
  kind := rfl
  parent := rfl
  distinct := (Table.ordered_ofEntries d.fieldTypes).nodup_names
  names f := Table.mem_names_ofEntries.trans (d.mem_names_fieldTypes f)
  keys m hm := by
    have hnodup := nodup_fieldTypes hmembers hthis
    rw [entry, Table.lookup_ofEntries_of_nodup hnodup,
      Table.lookup_of_mem hnodup (mem_fieldTypes_of_mem_members hm), Option.map_some,
      ResolvedType.key_fieldType]
  target hkind := by
    have hnodup := nodup_fieldTypes hmembers hthis
    have hmem : (thisField, FieldType.managed d.wireName) ∈ d.fieldTypes := by
      simp [fieldTypes, hkind]
    rw [entry, Table.lookup_ofEntries_of_nodup hnodup, Table.lookup_of_mem hnodup hmem]

end StructItem

/-! ### Parents -/

theorem DataItem.parent?_eq_some {i : Index} {d : DataDecl} {base : ResolvedType}
    (h : parent? i d = some base) :
    ∃ wireType wireName builtin, d.parent = some wireType ∧ base = .declared .data wireName builtin ∧
      i.resolve wireType = base := by
  obtain ⟨hmap, hdata⟩ := Option.filter_eq_some_iff.mp h
  obtain ⟨wireType, hparent, rfl⟩ := Option.map_eq_some_iff.mp hmap
  split at hdata
  · rename_i wireName builtin heq
    exact ⟨wireType, wireName, builtin, hparent, heq, rfl⟩
  · cases hdata

theorem ManagedItem.parent_eq (i : Index) (d : ManagedDecl) :
    parent i d = root ∨
      ∃ wireType wireName builtin, d.parent = some wireType ∧
        parent i d = .declared .managed wireName builtin ∧ i.resolve wireType = parent i d := by
  unfold parent
  split
  · rename_i wireName builtin heq
    obtain ⟨wireType, hparent, hresolve⟩ := Option.map_eq_some_iff.mp heq
    exact Or.inr ⟨wireType, wireName, builtin, hparent, rfl, hresolve⟩
  · exact Or.inl rfl

namespace ClientModule

variable {s : Schema} {rootType : String} {d : StructItem}

/-- A structure embeds one of its own kind, which is in the list of built-in types if it is one. -/
theorem base_of_mem_structs (hd : d ∈ (ofSchema s rootType).structs) {base : ResolvedType}
    (hbase : d.base = some base) :
    ∃ wireName builtin, base = .declared d.kind wireName builtin ∧
      (builtin = true → ∃ qualified, (qualified, wireName, d.kind) ∈ Index.builtinTypes) := by
  rcases List.mem_append.mp hd with h | h
  · obtain ⟨item, hitem, rfl⟩ := List.mem_map.mp h
    rw [dataTypes_ofSchema] at hitem
    obtain ⟨decl, _, rfl⟩ := List.mem_map.mp hitem
    obtain ⟨wireType, wireName, builtin, _, rfl, hresolve⟩ := DataItem.parent?_eq_some hbase
    refine ⟨wireName, builtin, rfl, ?_⟩
    rintro rfl
    exact Index.mem_builtinTypes_of_resolve hresolve
  · obtain ⟨item, hitem, rfl⟩ := List.mem_map.mp h
    rw [managedTypes_ofSchema] at hitem
    obtain ⟨decl, _, rfl⟩ := List.mem_map.mp hitem
    obtain rfl : ManagedItem.parent (Index.ofSchema s) decl = base := Option.some.inj hbase
    rcases ManagedItem.parent_eq (Index.ofSchema s) decl with heq | ⟨_, wireName, builtin, _, heq, hr⟩
    · refine ⟨ManagedItem.rootName, true, heq, fun _ => ⟨"vmodl.ManagedObject", ?_⟩⟩
      simp [Index.builtinTypes, ManagedItem.rootName, StructItem.ofManaged]
    · refine ⟨wireName, builtin, heq, ?_⟩
      rintro rfl
      exact Index.mem_builtinTypes_of_resolve (hr.trans heq)

theorem base_layout_eq_none_iff (hd : d ∈ (ofSchema s rootType).structs) :
    d.layout.base = none ↔ d.base = none := by
  cases hbase : d.base with
  | none => simp [StructItem.layout, hbase]
  | some base =>
      obtain ⟨wireName, builtin, rfl, _⟩ := base_of_mem_structs hd hbase
      simp [StructItem.layout, hbase, ResolvedType.typeName?]

/-- The identifier of a type leads to a type with its wire name if the module has the type. -/
theorem wireName_struct?_eq_iff {wireName : String} {kind : TypeKind} {builtin : Bool}
    (hbuiltin : builtin = true → ∃ qualified, (qualified, wireName, kind) ∈ Index.builtinTypes) :
    ((Client.ofModule (ofSchema s rootType)).struct? kind
        ⟨builtin, Naming.typeIdent wireName⟩).map (·.wireName) = some wireName ↔
      (ofSchema s rootType).Has (.declared kind wireName builtin) := by
  cases builtin with
  | true =>
      obtain ⟨qualified, hmem⟩ := hbuiltin rfl
      exact ⟨fun _ => Or.inl rfl, fun _ => Client.wireName_of_builtin _ hmem⟩
  | false =>
      constructor
      · intro h
        obtain ⟨t, ht, hwire⟩ := Option.map_eq_some_iff.mp h
        obtain ⟨d, hd, hkind, rfl, _⟩ := exists_mem_structs_of_struct? rfl ht
        exact Or.inr ⟨d, hd, hkind, hwire⟩
      · rintro (h | ⟨d, hd, rfl, rfl⟩)
        · cases h
        · rw [← ident_of_mem_structs hd]
          exact congrArg (Option.map (·.wireName)) (struct?_of_mem hd)

theorem wireName_embedded?_eq_iff (hd : d ∈ (ofSchema s rootType).structs) :
    ((Client.ofModule (ofSchema s rootType)).embedded? d.kind d.layout).map (·.wireName) =
        d.base.map (·.key) ↔
      ∀ base ∈ d.base, (ofSchema s rootType).Has base := by
  cases hbase : d.base with
  | none => simp [Client.embedded?, StructItem.layout, hbase]
  | some base =>
      obtain ⟨wireName, builtin, rfl, hbuiltin⟩ := base_of_mem_structs hd hbase
      simpa [Client.embedded?, StructItem.layout, hbase, ResolvedType.typeName?, ResolvedType.key]
        using wireName_struct?_eq_iff hbuiltin

/-- The registry of a schema has one entry for a structure that the module declares, and it describes
the structure. The parent that it names is the embedded structure exactly if the parent is built in or
declared by the module, and not left out for its identifier. -/
theorem registry_describes_structs (hd : d ∈ (ofSchema s rootType).structs)
    (hbuiltin : d.wireName ∉ Registry.builtins.types.names)
    (hmembers : (d.members.map (·.wireName)).Nodup)
    (hthis : thisField ∉ d.members.map (·.wireName)) :
    ∃ t e, (Client.ofModule (ofSchema s rootType)).struct? d.kind d.typeName = some t ∧
      (ofSchema s rootType).registry.types.filter (fun x => x.1 == d.wireName) = [(d.wireName, e)] ∧
      e.Describes d t ∧ (t.base = none ↔ e.parent = none) ∧
      (((Client.ofModule (ofSchema s rootType)).embedded? d.kind t).map (·.wireName) = e.parent ↔
        ∀ base ∈ d.base, (ofSchema s rootType).Has base) := by
  refine ⟨d.layout, d.entry, struct?_of_mem hd, ?_, StructItem.describes_entry hmembers hthis, ?_,
    wireName_embedded?_eq_iff hd⟩
  · exact (ordered_registry _).filter_eq_singleton
      (entry?_registry hd (Registry.isManaged_of_not_mem hbuiltin))
  · rw [base_layout_eq_none_iff hd, StructItem.entry, Option.map_eq_none_iff]

/-- The first type takes the identifier of the second, which the third one extends. -/
def displacing : Schema where
  dataTypes := [
    { qualified := "vim.A", wireName := "Foo_Bar" },
    { qualified := "vim.B", wireName := "Foo-Bar" },
    { qualified := "vim.C", wireName := "C", parent := some "vim.B",
      fields := [{ name := "count", wireType := "int" }] }]

def displacedChild : StructItem :=
  ⟨.data, "C", "C", some (.declared .data "Foo-Bar" false),
    [⟨"count", "count", .primitive .int, false, false⟩]⟩

theorem displacedChild_mem_structs : displacedChild ∈ (ofSchema displacing "").structs := by
  decide +kernel

theorem registry_describes_displacedChild :
    ∃ t e, (Client.ofModule (ofSchema displacing "")).struct? .data ⟨false, "C"⟩ = some t ∧
      (ofSchema displacing "").registry.types.filter (fun x => x.1 == "C") = [("C", e)] ∧
      e.Describes displacedChild t ∧ (t.base = none ↔ e.parent = none) ∧
      (((Client.ofModule (ofSchema displacing "")).embedded? .data t).map (·.wireName) = e.parent ↔
        ∀ base ∈ displacedChild.base, (ofSchema displacing "").Has base) :=
  registry_describes_structs displacedChild_mem_structs
    (by rw [Registry.names_builtins]; decide) (by decide) (by decide)

/-- The parent in the registry need not be the embedded structure. -/
theorem not_parent_eq_wireName_embedded :
    ¬∀ (s : Schema) (rootType : String) (d : StructItem), d ∈ (ofSchema s rootType).structs →
      d.wireName ∉ Registry.builtins.types.names → (d.members.map (·.wireName)).Nodup →
      thisField ∉ d.members.map (·.wireName) →
      ((ofSchema s rootType).registry.parent? d.wireName) =
        ((Client.ofModule (ofSchema s rootType)).embedded? d.kind d.layout).map (·.wireName) := by
  intro h
  have heq := h displacing "" displacedChild displacedChild_mem_structs
    (by rw [Registry.names_builtins]; decide) (by decide) (by decide)
  have hparent : (ofSchema displacing "").registry.parent? "C" = some "Foo-Bar" := by decide +kernel
  have hembedded : ((Client.ofModule (ofSchema displacing "")).embedded? .data
      displacedChild.layout).map (·.wireName) = some "Foo_Bar" := by
    decide +kernel
  have hnames : some "Foo-Bar" = some "Foo_Bar" := hparent.symm.trans (heq.trans hembedded)
  exact absurd hnames (by decide)

end ClientModule

end Vmodl
