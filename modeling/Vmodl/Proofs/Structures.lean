import Vmodl.Client.Layout
import Vmodl.Proofs.Emission
import Vmodl.Proofs.Registration

/-!
# Structures of a client

Records and handles are laid out and registered alike. For each structure that the module of a schema
declares there is one layout, which its name leads to, and one registration under its wire name.
-/

namespace Vmodl

theorem Naming.Scope.length_claimAll (scope : Naming.Scope) (idents : List String) :
    (scope.claimAll idents).length = idents.length := by
  induction idents generalizing scope with
  | nil => rfl
  | cons ident idents ih => simp [Naming.Scope.claimAll, ih]

theorem Member.forall₂_ofProperties {i : Index} {R : Property → Member → Prop}
    (h : ∀ p ident, R p ⟨ident, p.name, i.resolve p.wireType, p.isOptional, p.isSecret⟩)
    (properties : List Property) : List.Forall₂ R properties (ofProperties i properties) := by
  have hlength : properties.length = (ofProperties i properties).length := by
    simp [ofProperties, Naming.Scope.length_claimAll]
  rw [List.forall₂_iff_get]
  refine ⟨hlength, fun n _ _ => ?_⟩
  simp only [ofProperties, List.get_eq_getElem, List.getElem_zipWith]
  apply h

/-- What a member has but its identifier is that of its property. -/
theorem Member.map_ofProperties {β : Type*} {i : Index} {f : Member → β} {g : Property → β}
    (h : ∀ p ident, f ⟨ident, p.name, i.resolve p.wireType, p.isOptional, p.isSecret⟩ = g p)
    (properties : List Property) : (ofProperties i properties).map f = properties.map g := by
  have hmembers : List.Forall₂ (fun p m => f m = g p) properties (ofProperties i properties) :=
    forall₂_ofProperties h properties
  rw [← List.forall₂_eq_eq_eq, List.forall₂_map_left_iff, List.forall₂_map_right_iff]
  exact hmembers.flip

theorem ClientModule.fieldTypes_eq (i : Index) (properties : List Property) :
    fieldTypes i properties =
      (Member.ofProperties i properties).map fun m => (m.wireName, m.type.fieldType) :=
  (Member.map_ofProperties (fun _ _ => rfl) properties).symm

theorem ResolvedType.key_fieldType (t : ResolvedType) : t.fieldType.key = t.key := by
  induction t with
  | primitive p => rfl
  | declared kind wireName builtin => cases kind <;> rfl
  | array element ih => rw [fieldType, FieldType.key, ih, key]
  | unknown name => rfl

/-- The shapes of the values of a type, in a box or not. -/
inductive ResolvedType.Shaped : ResolvedType → Shape → Prop
  | primitive (p : Primitive) : Shaped (.primitive p) (.primitive p)
  | named (kind : TypeKind) (wireName : String) (builtin : Bool) :
      Shaped (.declared kind wireName builtin) (.named kind ⟨builtin, Naming.typeIdent wireName⟩)
  | boxed {t : ResolvedType} {shape : Shape} (h : Shaped t shape) : Shaped t (.boxed shape)
  | list {element : ResolvedType} {shape : Shape} (h : Shaped element shape) :
      Shaped (.array element) (.list shape)
  | untyped (name : String) : Shaped (.unknown name) (.primitive .any)

/-- The same where there may be no value, if it is optional. -/
inductive ResolvedType.Offered (t : ResolvedType) : Bool → Shape → Prop
  | value {shape : Shape} (h : t.Shaped shape) : Offered t false shape
  | perhaps {shape : Shape} (h : t.Shaped shape) : Offered t true (.option shape)

theorem ResolvedType.shaped_shape (t : ResolvedType) (boxed : Bool) : t.Shaped (t.shape boxed) := by
  induction t generalizing boxed with
  | primitive p => exact .primitive p
  | declared kind wireName builtin =>
      rw [shape]
      split
      · apply Shaped.boxed
        exact .named kind wireName builtin
      · exact .named kind wireName builtin
  | array element ih => exact .list (ih false)
  | unknown name => exact .untyped name

theorem ResolvedType.offered_shape (t : ResolvedType) (boxed optional : Bool) :
    t.Offered optional (if optional then .option (t.shape boxed) else t.shape boxed) := by
  cases optional with
  | true => exact .perhaps (t.shaped_shape boxed)
  | false => exact .value (t.shaped_shape boxed)

theorem Member.offered_shape (m : Member) (forceOption : Bool) :
    m.type.Offered (m.optional || forceOption) (m.shape forceOption) :=
  m.type.offered_shape true (m.optional || forceOption)

theorem Member.offered_argumentShape (m : Member) : m.type.Offered m.optional m.argumentShape :=
  m.type.offered_shape false m.optional

theorem Operation.exists_method_of_mem {i : Index} {rootType : String} {d : ManagedDecl} {o : Operation}
    (ho : o ∈ ofDecl i rootType d) :
    ∃ m ∈ d.methods, ∃ ident argsIdent, o = ofMethod i rootType d.wireName m ident argsIdent := by
  rw [ofDecl, ← List.map_uncurry_zip_eq_zipWith] at ho
  obtain ⟨⟨m, ident, argsIdent⟩, hzip, rfl⟩ := List.mem_map.mp ho
  exact ⟨m, (List.of_mem_zip hzip).1, ident, argsIdent, rfl⟩

/-! ### Structures -/

/-- What the records and the handles of a module have in common. -/
structure StructItem where
  kind : TypeKind
  wireName : String
  ident : String
  /-- The type whose value is embedded. -/
  base : Option ResolvedType
  members : List Member
deriving DecidableEq, Repr

namespace StructItem

def ofData (d : DataItem) : StructItem := ⟨.data, d.wireName, d.ident, d.base, d.members⟩

def ofManaged (d : ManagedItem) : StructItem := ⟨.managed, d.wireName, d.ident, some d.base, d.members⟩

def typeName (d : StructItem) : TypeName := ⟨false, d.ident⟩

def layout (d : StructItem) : StructType where
  name := d.typeName
  wireName := d.wireName
  base := d.base.bind (·.typeName?)
  own := d.members.map (Client.ofModule.slot · (d.kind == .managed))

/-- The fields of the members, and the target of calls. -/
def fieldTypes (d : StructItem) : List (String × FieldType) :=
  d.members.map (fun m => (m.wireName, m.type.fieldType)) ++
    if d.kind = .managed then [(thisField, .managed d.wireName)] else []

def entry (d : StructItem) : TypeEntry := ⟨d.kind, d.base.map (·.key), Table.ofEntries d.fieldTypes⟩

def registration (d : StructItem) : Registration :=
  if d.kind = .managed then .managed d.wireName (d.base.map (·.key)) d.fieldTypes
  else .data d.wireName (d.base.map (·.key)) d.fieldTypes

theorem name_registration (d : StructItem) : d.registration.name = d.wireName := by
  unfold registration
  split <;> rfl

end StructItem

namespace ClientModule

/-- The structures that a module declares: its records, then its handles. -/
def structs (m : ClientModule) : List StructItem :=
  m.dataTypes.map .ofData ++ m.managedTypes.map .ofManaged

/-- The wire names of all the types that a module declares. -/
def wireNames (m : ClientModule) : List String := m.enums.map (·.wireName) ++ m.structs.map (·.wireName)

theorem kind_ne_enumeration_of_mem_structs {m : ClientModule} {d : StructItem} (hd : d ∈ m.structs) :
    d.kind ≠ .enumeration := by
  rcases List.mem_append.mp hd with h | h <;> obtain ⟨_, _, rfl⟩ := List.mem_map.mp h
  · exact TypeKind.noConfusion
  · exact TypeKind.noConfusion

theorem entry_registration {m : ClientModule} {d : StructItem} (hd : d ∈ m.structs) :
    d.registration.entry = d.entry := by
  unfold StructItem.registration StructItem.entry
  cases hkind : d.kind with
  | enumeration => exact absurd hkind (kind_ne_enumeration_of_mem_structs hd)
  | data => rfl
  | managed => rfl

end ClientModule

/-- The layout of a structure of some kind, by its name. -/
def Client.struct? (c : Client) : TypeKind → TypeName → Option StructType
  | .enumeration, _ => none
  | .data, name => c.record? name
  | .managed, name => c.handle? name

namespace ClientModule

variable {s : Schema} {rootType : String}

theorem dataRegistration_eq (i : Index) (d : DataDecl) :
    dataRegistration i d = (StructItem.ofData (DataItem.ofDecl i d)).registration := by
  rw [dataRegistration, fieldTypes_eq, ← List.append_nil (List.map _ _)]
  rfl

theorem managedRegistration_eq (i : Index) (rootType : String) (d : ManagedDecl) :
    managedRegistration i d = (StructItem.ofManaged (ManagedItem.ofDecl i rootType d)).registration := by
  rw [managedRegistration, fieldTypes_eq]
  rfl

theorem dataTypes_ofSchema : (ofSchema s rootType).dataTypes =
    (EmissionPlan.ofSchema s (Index.ofSchema s)).dataTypes.map (DataItem.ofDecl (Index.ofSchema s)) :=
  rfl

theorem managedTypes_ofSchema : (ofSchema s rootType).managedTypes =
    (EmissionPlan.ofSchema s (Index.ofSchema s)).managedTypes.map
      (ManagedItem.ofDecl (Index.ofSchema s) rootType) :=
  rfl

theorem mem_managedTypes_ofSchema {d : ManagedItem} (hd : d ∈ (ofSchema s rootType).managedTypes) :
    ∃ decl ∈ s.managedTypes, d = ManagedItem.ofDecl (Index.ofSchema s) rootType decl := by
  rw [managedTypes_ofSchema] at hd
  obtain ⟨decl, hdecl, rfl⟩ := List.mem_map.mp hd
  exact ⟨decl, (EmissionPlan.keep_sublist _ _).subset hdecl, rfl⟩

theorem registrations_ofSchema : (ofSchema s rootType).registrations =
    (ofSchema s rootType).enums.map (fun e => .enumeration e.wireName) ++
      (ofSchema s rootType).structs.map (·.registration) := by
  have hdata : ∀ ds : List DataDecl, ds.map (dataRegistration (Index.ofSchema s)) =
      ((ds.map (DataItem.ofDecl (Index.ofSchema s))).map StructItem.ofData).map (·.registration) := by
    intro ds
    rw [List.map_map, List.map_map]
    exact List.map_congr_left fun d _ => dataRegistration_eq _ d
  have hmanaged : ∀ ds : List ManagedDecl, ds.map (managedRegistration (Index.ofSchema s)) =
      ((ds.map (ManagedItem.ofDecl (Index.ofSchema s) rootType)).map StructItem.ofManaged).map
        (·.registration) := by
    intro ds
    rw [List.map_map, List.map_map]
    exact List.map_congr_left fun d _ => managedRegistration_eq _ rootType d
  rw [structs, dataTypes_ofSchema, managedTypes_ofSchema, List.map_append, ← hdata, ← hmanaged,
    ← List.append_assoc]
  simp [ofSchema, ofPlan, registrationsOf, Function.comp_def, EnumItem.ofDecl]

theorem names_registrations : (ofSchema s rootType).registrations.map (·.name) =
    (ofSchema s rootType).wireNames := by
  rw [registrations_ofSchema, List.map_append, List.map_map, List.map_map, wireNames]
  congr 1
  exact List.map_congr_left fun d _ => d.name_registration

theorem wireNames_ofSchema : (ofSchema s rootType).wireNames =
    (EmissionPlan.ofSchema s (Index.ofSchema s)).wireNames := by
  simp [wireNames, structs, ofSchema, ofPlan, EmissionPlan.wireNames, Function.comp_def,
    EnumItem.ofDecl, DataItem.ofDecl, ManagedItem.ofDecl, StructItem.ofData, StructItem.ofManaged]

theorem nodup_wireNames : (ofSchema s rootType).wireNames.Nodup := by
  rw [wireNames_ofSchema]
  exact EmissionPlan.nodup_wireNames_ofSchema

theorem ordered_registry (m : ClientModule) : m.registry.types.Ordered :=
  Registry.ordered_run Registry.ordered_builtins m.registrations

/-- A declared structure is registered as it is, unless it has the wire name of the root of handles. -/
theorem entry?_registry {d : StructItem} (hd : d ∈ (ofSchema s rootType).structs)
    (hfree : Registry.builtins.isManaged d.wireName = false) :
    Registry.entry? (ofSchema s rootType).registry d.wireName = some d.entry := by
  have hmem : d.registration ∈ (ofSchema s rootType).registrations := by
    rw [registrations_ofSchema]
    exact List.mem_append_right _ (List.mem_map.mpr ⟨d, hd, rfl⟩)
  have hnodup : ((ofSchema s rootType).registrations.map (·.name)).Nodup := by
    rw [names_registrations]
    exact nodup_wireNames
  have hentry := Registry.entry?_run_of_mem hnodup hmem (by rw [d.name_registration]; exact hfree)
  rwa [d.name_registration, entry_registration hd] at hentry

/-- A name that no declaration has is registered as it is for every client. -/
theorem entry?_registry_of_not_mem {name : String} (h : name ∉ (ofSchema s rootType).wireNames) :
    Registry.entry? (ofSchema s rootType).registry name = Registry.builtins.entry? name :=
  Registry.entry?_run_of_not_mem (by rwa [names_registrations])

end ClientModule

namespace StructType

variable {types : List StructType} {name : TypeName} {t : StructType}

theorem mem_of_mem_chainWithin {steps : Nat} (h : t ∈ chainWithin types steps name) : t ∈ types := by
  induction steps using Nat.strongRecOn generalizing name with
  | ind steps ih =>
      cases hfind : types.find? fun t => t.name == name with
      | none =>
          rw [chainWithin_eq_nil hfind] at h
          cases h
      | some t' =>
          have ht' := List.mem_of_find?_eq_some hfind
          rcases chainWithin_of_find? hfind steps with heq | ⟨n, base, rfl, _, heq⟩
          · rw [heq, List.mem_singleton] at h
            exact h ▸ ht'
          · rw [heq, List.mem_append, List.mem_singleton] at h
            rcases h with hbefore | rfl
            · exact ih n (Nat.lt_succ_self n) hbefore
            · exact ht'

/-- A chain does not leave the types whose parents are built in. -/
theorem mem_of_mem_chainWithin_append {others : List StructType} {steps : Nat}
    (hothers : ∀ t ∈ others, t.name.builtin = false)
    (hbase : ∀ t ∈ types, ∀ base ∈ t.base, base.builtin = true) (hname : name.builtin = true)
    (h : t ∈ chainWithin (types ++ others) steps name) : t ∈ types := by
  induction steps using Nat.strongRecOn generalizing name with
  | ind steps ih =>
      cases hfind : (types ++ others).find? fun t => t.name == name with
      | none =>
          rw [chainWithin_eq_nil hfind] at h
          cases h
      | some t' =>
          have ht' : t' ∈ types := by
            rcases List.mem_append.mp (List.mem_of_find?_eq_some hfind) with hmem | hmem
            · exact hmem
            · have hfound : t'.name = name := by simpa using List.find?_some hfind
              have hother := hothers t' hmem
              rw [hfound, hname] at hother
              cases hother
          rcases chainWithin_of_find? hfind steps with heq | ⟨n, base, rfl, hparent, heq⟩
          · rw [heq, List.mem_singleton] at h
            exact h ▸ ht'
          · rw [heq, List.mem_append, List.mem_singleton] at h
            rcases h with hbefore | rfl
            · exact ih n (Nat.lt_succ_self n) (hbase t' ht' base hparent) hbefore
            · exact ht'

end StructType

/-! ### Layouts by name -/

theorem find?_eq_some_of_nodup {α β : Type*} [BEq β] [LawfulBEq β] {l : List α} {f : α → β} {a : α}
    (hnodup : (l.map f).Nodup) (ha : a ∈ l) : (l.find? fun b => f b == f a) = some a := by
  cases h : l.find? fun b => f b == f a with
  | none => simpa using List.find?_eq_none.mp h a ha
  | some b =>
      have hf : f b = f a := by simpa using List.find?_some h
      rw [List.inj_on_of_nodup_map hnodup (List.mem_of_find?_eq_some h) ha hf]

namespace ClientModule

variable {s : Schema} {rootType : String}

theorem ident_of_mem_structs {d : StructItem} (hd : d ∈ (ofSchema s rootType).structs) :
    d.ident = Naming.typeIdent d.wireName := by
  rcases List.mem_append.mp hd with h | h
  · obtain ⟨item, hitem, rfl⟩ := List.mem_map.mp h
    rw [dataTypes_ofSchema] at hitem
    obtain ⟨_, _, rfl⟩ := List.mem_map.mp hitem
    simp only [StructItem.ofData, DataItem.ofDecl]
  · obtain ⟨item, hitem, rfl⟩ := List.mem_map.mp h
    rw [managedTypes_ofSchema] at hitem
    obtain ⟨_, _, rfl⟩ := List.mem_map.mp hitem
    simp only [StructItem.ofManaged, ManagedItem.ofDecl]

theorem nodup_idents : ((ofSchema s rootType).structs.map (·.ident)).Nodup := by
  have hall : ((ofSchema s rootType).wireNames.map Naming.typeIdent).Nodup := by
    rw [wireNames_ofSchema]
    exact EmissionPlan.nodup_idents_ofSchema
  simp only [wireNames, List.map_append, List.map_map, Function.comp_def] at hall
  have hcongr : (ofSchema s rootType).structs.map (·.ident) =
      (ofSchema s rootType).structs.map fun d => Naming.typeIdent d.wireName :=
    List.map_congr_left fun d hd => ident_of_mem_structs hd
  rw [hcongr]
  exact (List.nodup_append.mp hall).2.1

/-- The layouts of a module's structures of one kind. -/
def layouts (m : ClientModule) (kind : TypeKind) : List StructType :=
  (m.structs.filter fun d => d.kind = kind).map (·.layout)

theorem records_ofModule (m : ClientModule) :
    (Client.ofModule m).records = Client.builtinRecords ++ m.layouts .data := by
  simp [Client.ofModule, layouts, structs, List.filter_append, List.filter_map, Function.comp_def,
    StructItem.ofData, StructItem.ofManaged, StructItem.layout, StructItem.typeName,
    show (TypeKind.data == TypeKind.managed) = false from rfl]

theorem handles_eq_map_layout (m : ClientModule) : (Client.ofModule m).handles =
    Client.rootHandle :: m.managedTypes.map fun d => (StructItem.ofManaged d).layout := rfl

theorem handles_ofModule (m : ClientModule) :
    (Client.ofModule m).handles = Client.rootHandle :: m.layouts .managed := by
  simp [Client.ofModule, layouts, structs, List.filter_append, List.filter_map, Function.comp_def,
    StructItem.ofData, StructItem.ofManaged, StructItem.layout, StructItem.typeName]

theorem nodup_names_layouts (kind : TypeKind) :
    (((ofSchema s rootType).layouts kind).map (·.name)).Nodup := by
  apply List.Nodup.of_map TypeName.ident
  rw [layouts, List.map_map, List.map_map]
  exact nodup_idents.sublist (List.filter_sublist.map _)

theorem find?_layouts {d : StructItem} (hd : d ∈ (ofSchema s rootType).structs) :
    ((ofSchema s rootType).layouts d.kind).find? (fun t => t.name == d.typeName) = some d.layout := by
  have hmem : d.layout ∈ (ofSchema s rootType).layouts d.kind :=
    List.mem_map.mpr ⟨d, List.mem_filter.mpr ⟨hd, by simp⟩, rfl⟩
  exact find?_eq_some_of_nodup (nodup_names_layouts d.kind) hmem

theorem builtin_of_mem_builtinRecords : ∀ t ∈ Client.builtinRecords, t.name.builtin = true := by
  decide

theorem find?_builtinRecords {name : TypeName} (h : name.builtin = false) :
    Client.builtinRecords.find? (fun t => t.name == name) = none := by
  rw [List.find?_eq_none]
  intro t ht heq
  have hname : t.name = name := by simpa using heq
  have hbuiltin := builtin_of_mem_builtinRecords t ht
  rw [hname, h] at hbuiltin
  cases hbuiltin

theorem builtin_of_mem_layouts {m : ClientModule} {kind : TypeKind} :
    ∀ t ∈ m.layouts kind, t.name.builtin = false := by
  intro t ht
  obtain ⟨d, _, rfl⟩ := List.mem_map.mp ht
  rfl

theorem name_ne_of_mem_layouts {m : ClientModule} {kind : TypeKind} {name : TypeName} {t : StructType}
    (hbuiltin : name.builtin = true) (ht : t ∈ m.layouts kind) : t.name ≠ name := by
  rintro rfl
  rw [builtin_of_mem_layouts t ht] at hbuiltin
  cases hbuiltin

theorem record?_of_mem_records {t : StructType}
    (ht : t ∈ (Client.ofModule (ofSchema s rootType)).records) :
    (Client.ofModule (ofSchema s rootType)).record? t.name = some t := by
  have hbuiltins : (Client.builtinRecords.map (·.name)).Nodup := by decide
  have hnodup : ((Client.ofModule (ofSchema s rootType)).records.map (·.name)).Nodup := by
    rw [records_ofModule, List.map_append, List.nodup_append]
    refine ⟨hbuiltins, nodup_names_layouts .data, ?_⟩
    intro name hname name' hname'
    obtain ⟨b, hb, rfl⟩ := List.mem_map.mp hname
    obtain ⟨l, hl, rfl⟩ := List.mem_map.mp hname'
    exact (name_ne_of_mem_layouts (builtin_of_mem_builtinRecords b hb) hl).symm
  exact find?_eq_some_of_nodup hnodup ht

theorem handle?_of_mem_handles {t : StructType}
    (ht : t ∈ (Client.ofModule (ofSchema s rootType)).handles) :
    (Client.ofModule (ofSchema s rootType)).handle? t.name = some t := by
  have hnodup : ((Client.ofModule (ofSchema s rootType)).handles.map (·.name)).Nodup := by
    rw [handles_ofModule, List.map_cons, List.nodup_cons]
    refine ⟨?_, nodup_names_layouts .managed⟩
    intro hroot
    obtain ⟨l, hl, hname⟩ := List.mem_map.mp hroot
    exact name_ne_of_mem_layouts rfl hl hname
  exact find?_eq_some_of_nodup hnodup ht

theorem mem_builtinRecords_of_record? {m : ClientModule} {name : TypeName} {t : StructType}
    (hbuiltin : name.builtin = true) (h : (Client.ofModule m).record? name = some t) :
    t ∈ Client.builtinRecords := by
  rw [Client.record?, records_ofModule] at h
  rcases List.mem_append.mp (List.mem_of_find?_eq_some h) with hmem | hmem
  · exact hmem
  · have hname : t.name = name := by simpa using List.find?_some h
    exact absurd hname (name_ne_of_mem_layouts hbuiltin hmem)

/-- The name of a declared structure leads to its layout. -/
theorem struct?_of_mem {d : StructItem} (hd : d ∈ (ofSchema s rootType).structs) :
    (Client.ofModule (ofSchema s rootType)).struct? d.kind d.typeName = some d.layout := by
  have hfind := find?_layouts hd
  cases hkind : d.kind with
  | enumeration => exact absurd hkind (kind_ne_enumeration_of_mem_structs hd)
  | data =>
      rw [hkind] at hfind
      rw [Client.struct?, Client.record?, records_ofModule, List.find?_append, hfind,
        find?_builtinRecords rfl, Option.none_or]
  | managed =>
      rw [hkind] at hfind
      rw [Client.struct?, Client.handle?, handles_ofModule, List.find?_cons, hfind]
      rfl

/-- What a name leads to is built in, or is the layout of a declared structure. -/
theorem exists_mem_structs_of_struct? {m : ClientModule} {kind : TypeKind} {name : TypeName}
    {t : StructType} (hbuiltin : name.builtin = false)
    (h : (Client.ofModule m).struct? kind name = some t) :
    ∃ d ∈ m.structs, d.kind = kind ∧ d.layout = t ∧ d.typeName = name := by
  have hlayouts : (m.layouts kind).find? (fun t => t.name == name) = some t := by
    cases kind with
    | enumeration => cases h
    | data =>
        rwa [Client.struct?, Client.record?, records_ofModule, List.find?_append,
          find?_builtinRecords hbuiltin, Option.none_or] at h
    | managed =>
        have hroot : (Client.rootHandle.name == name) = false := by
          refine beq_false_of_ne fun heq => ?_
          rw [← heq] at hbuiltin
          cases hbuiltin
        rwa [Client.struct?, Client.handle?, handles_ofModule, List.find?_cons, hroot] at h
  obtain ⟨d, hd, rfl⟩ := List.mem_map.mp (List.mem_of_find?_eq_some hlayouts)
  obtain ⟨hmem, hkind⟩ := List.mem_filter.mp hd
  have hname : d.layout.name = name := by simpa using List.find?_some hlayouts
  exact ⟨d, hmem, by simpa using hkind, rfl, hname⟩

end ClientModule

/-- The handle of a declared type: it goes by the names of the declaration, extends the parent that is
declared or else the root, and has a slot for each property, in order, that may be left empty. -/
structure ManagedDecl.LaidOut (i : Index) (d : ManagedDecl) (t : StructType) : Prop where
  wireName : t.wireName = d.wireName
  name : t.name = ⟨false, Naming.typeIdent d.wireName⟩
  inherits : ∀ parent ∈ d.parent, ∀ wireName builtin,
    i.resolve parent = .declared .managed wireName builtin →
      t.base = some ⟨builtin, Naming.typeIdent wireName⟩
  rooted : (∀ parent ∈ d.parent, ∀ wireName builtin,
    i.resolve parent ≠ .declared .managed wireName builtin) → t.base = some Client.rootHandle.name
  own : List.Forall₂ (fun p slot => slot.wireName = p.name ∧
    (i.resolve p.wireType).Offered true slot.shape) d.fields t.own

theorem ManagedItem.parent_of_resolve {i : Index} {d : ManagedDecl} {parent wireName : String}
    {builtin : Bool} (hparent : d.parent = some parent)
    (hresolve : i.resolve parent = .declared .managed wireName builtin) :
    ManagedItem.parent i d = .declared .managed wireName builtin := by
  rw [ManagedItem.parent, hparent, Option.map_some, hresolve]

theorem ManagedItem.parent_eq_root {i : Index} {d : ManagedDecl}
    (h : ∀ parent ∈ d.parent, ∀ wireName builtin,
      i.resolve parent ≠ .declared .managed wireName builtin) : ManagedItem.parent i d = root := by
  unfold ManagedItem.parent
  split
  · rename_i wireName builtin hsome
    obtain ⟨parent, hparent, hresolve⟩ := Option.map_eq_some_iff.mp hsome
    exact absurd hresolve (h parent hparent wireName builtin)
  · rfl

theorem ManagedItem.typeName?_root : root.typeName? = some Client.rootHandle.name := by
  have hident : Naming.typeIdent rootName = rootName := by decide +kernel
  rw [root, ResolvedType.typeName?, hident]
  rfl

theorem ManagedItem.offered_slots (i : Index) (properties : List Property) :
    List.Forall₂ (fun p slot => slot.wireName = p.name ∧
      (i.resolve p.wireType).Offered true slot.shape) properties
        ((Member.ofProperties i properties).map (Client.ofModule.slot · true)) := by
  rw [List.forall₂_map_right_iff]
  apply Member.forall₂_ofProperties
  intro p ident
  refine ⟨rfl, ?_⟩
  have hoffered := Member.offered_shape
    ⟨ident, p.name, i.resolve p.wireType, p.isOptional, p.isSecret⟩ true
  rw [Bool.or_true] at hoffered
  exact hoffered

theorem ManagedDecl.laidOut_ofDecl (i : Index) (rootType : String) (d : ManagedDecl) :
    d.LaidOut i (StructItem.ofManaged (ManagedItem.ofDecl i rootType d)).layout := by
  have hbase : (StructItem.ofManaged (ManagedItem.ofDecl i rootType d)).layout.base =
      (ManagedItem.parent i d).typeName? := rfl
  have hname : (StructItem.ofManaged (ManagedItem.ofDecl i rootType d)).layout.name =
      ⟨false, Naming.typeIdent d.wireName⟩ := by
    simp only [StructItem.layout, StructItem.typeName, StructItem.ofManaged, ManagedItem.ofDecl]
  refine ⟨rfl, hname, ?_, ?_, ManagedItem.offered_slots i d.fields⟩
  · intro parent hparent wireName builtin hresolve
    rw [hbase, ManagedItem.parent_of_resolve hparent hresolve]
    rfl
  · intro hnone
    rw [hbase, ManagedItem.parent_eq_root hnone, ManagedItem.typeName?_root]

/-- Every handle but the root is laid out as it is declared. -/
theorem ClientModule.laidOut_of_mem_handles {s : Schema} {rootType : String} {t : StructType}
    (ht : t ∈ (Client.ofModule (ofSchema s rootType)).handles) :
    t = Client.rootHandle ∨ ∃ d ∈ s.managedTypes, d.LaidOut (Index.ofSchema s) t := by
  rw [handles_eq_map_layout, List.mem_cons] at ht
  refine ht.imp_right fun hmem => ?_
  obtain ⟨item, hitem, rfl⟩ := List.mem_map.mp hmem
  obtain ⟨d, hd, rfl⟩ := mem_managedTypes_ofSchema hitem
  exact ⟨d, hd, d.laidOut_ofDecl _ rootType⟩

theorem Index.kind_ne_enumeration_of_mem_builtinTypes : ∀ x ∈ builtinTypes, x.2.2 ≠ .enumeration := by
  decide

/-- The built-in structures go by their wire names. -/
theorem Client.wireName_of_builtin (m : ClientModule) {qualified wireName : String} {kind : TypeKind}
    (h : (qualified, wireName, kind) ∈ Index.builtinTypes) :
    ((Client.ofModule m).struct? kind ⟨true, Naming.typeIdent wireName⟩).map (·.wireName) =
      some wireName := by
  have hident : ∀ x ∈ Index.builtinTypes, Naming.typeIdent x.2.1 = x.2.1 := by decide +kernel
  have hrecord : ∀ x ∈ Index.builtinTypes, x.2.2 = .data →
      (builtinRecords.find? fun t => t.name == ⟨true, x.2.1⟩).map (·.wireName) = some x.2.1 := by
    decide
  have hhandle : ∀ x ∈ Index.builtinTypes, x.2.2 = .managed → x.2.1 = ManagedItem.rootName := by
    decide
  rw [hident _ h]
  cases kind with
  | enumeration => exact absurd rfl (Index.kind_ne_enumeration_of_mem_builtinTypes _ h)
  | data =>
      obtain ⟨t, ht, hwire⟩ := Option.map_eq_some_iff.mp (hrecord _ h rfl)
      rw [struct?, record?, ClientModule.records_ofModule, List.find?_append, ht, Option.some_or,
        Option.map_some, hwire]
  | managed =>
      obtain rfl : wireName = ManagedItem.rootName := hhandle _ h rfl
      rw [struct?, handle?, ClientModule.handles_ofModule]
      rfl

end Vmodl
