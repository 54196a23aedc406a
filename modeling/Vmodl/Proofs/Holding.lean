import Vmodl.Proofs.Assembly

/-!
# Structures that hold each other

Values of a structure hold the values of the members that stand neither in a box nor in a list. Fields
box the types to which they refer, so apart from scalars they hold enumerations only. A structure holds
its parent, and arguments hold whatever they refer to.
-/

namespace Vmodl

namespace Source

/-- A value of the type holds a value of the type with a name. Boxes and lists keep their elements
elsewhere. A path of several names is taken to lead out of the module, whose types have no parameters. So
is one that begins with `self`: the runtime has to lie elsewhere, and is not the module itself. -/
inductive Ty.Holds : Ty → String → Prop
  | name (ident : String) : Holds (.path (.mk false [.plain ident])) ident
  | argument {head : String} {turbofish : Bool} {arguments : List Argument} {t : Ty} {ident : String} :
      head ≠ "Box" → head ≠ "Vec" → .type t ∈ arguments → Holds t ident →
        Holds (.path (.mk false [.generic head turbofish arguments])) ident

/-- One of the items is a structure whose members have these types. -/
def HasStruct (items : List Item) (name : String) (types : List Ty) : Prop :=
  ∃ attributes fields, .struct attributes name fields ∈ items ∧ fields.map (·.type) = types

/-- A value of one structure of the module holds a value of the other one. -/
def Module.Holds (m : Module) (a b : String) : Prop :=
  (∃ types, HasStruct m.items b types) ∧ ∃ types, HasStruct m.items a types ∧ ∃ t ∈ types, t.Holds b

namespace Ty

variable {t : Ty} {ident b : String}

@[simp] theorem holds_ofIdent_iff : (ofIdent ident).Holds b ↔ b = ident := by
  constructor
  · rintro ⟨⟩
    rfl
  · rintro rfl
    exact .name _

@[simp] theorem not_holds_unit : ¬unit.Holds b := nofun

@[simp] theorem not_holds_box : ¬(apply "Box" [t]).Holds b := by
  rintro ⟨⟩
  contradiction

@[simp] theorem not_holds_vec : ¬(apply "Vec" [t]).Holds b := by
  rintro ⟨⟩
  contradiction

@[simp] theorem holds_option_iff : (apply "Option" [t]).Holds b ↔ t.Holds b := by
  constructor
  · intro h
    cases h with
    | argument _ _ hmem h =>
        obtain rfl : _ = t := by simpa using hmem
        exact h
  · exact .argument (by decide) (by decide) (by simp)

theorem exists_segments_eq_of_holds {p : Path} (h : (path p).Holds b) :
    ∃ segment, p.segments = [segment] := by
  cases h <;> exact ⟨_, rfl⟩

theorem not_holds_child {runtime : Path} (hruntime : runtime.segments ≠ []) :
    ¬(path (runtime.child ident)).Holds b := by
  intro h
  obtain ⟨segment, hsegment⟩ := exists_segments_eq_of_holds h
  have hchild : (runtime.child ident).segments = runtime.segments ++ [.plain ident] := by
    cases runtime
    rfl
  have hlength := congrArg List.length (hchild.symm.trans hsegment)
  have hpositive := List.length_pos_iff.mpr hruntime
  simp only [List.length_append, List.length_singleton] at hlength
  omega

end Ty

end Source

/-- The scalars that source names without a path. -/
def Client.Source.scalarNames : List String := ["i8", "i16", "i32", "i64", "f32", "f64", "bool", "String"]

open Client.Source (scalarNames)

variable {runtime : Source.Path} {b : String}

theorem TypeName.eq_of_holds (hruntime : runtime.segments ≠ []) {name : TypeName}
    (h : (Source.Ty.path (name.path runtime)).Holds b) : name = ⟨false, b⟩ := by
  obtain ⟨builtin, ident⟩ := name
  cases builtin with
  | true => exact absurd h (Source.Ty.not_holds_child hruntime)
  | false => rw [Source.Ty.holds_ofIdent_iff.mp h]

theorem Primitive.mem_scalarNames_of_holds (hruntime : runtime.segments ≠ []) (p : Primitive)
    (h : (p.source runtime).Holds b) : b ∈ scalarNames := by
  cases p with
  | void => exact absurd h Source.Ty.not_holds_unit
  | any => cases h
  | dateTime => exact absurd h (Source.Ty.not_holds_child hruntime)
  | binary => exact absurd h (Source.Ty.not_holds_child hruntime)
  | _ =>
      rw [Source.Ty.holds_ofIdent_iff.mp h]
      decide

namespace ResolvedType

/-- The type is one of a kind that is declared in the module under an identifier. -/
def Refers (t : ResolvedType) (kind : TypeKind) (ident : String) : Prop :=
  ∃ wireName, t = .declared kind wireName false ∧ Naming.typeIdent wireName = ident

theorem exists_refers_of_typeName? {t : ResolvedType} (h : t.typeName? = some ⟨false, b⟩) :
    ∃ kind, t.Refers kind b := by
  cases t with
  | declared kind wireName builtin =>
      rw [typeName?, Option.some.injEq, TypeName.mk.injEq] at h
      exact ⟨kind, wireName, by rw [h.1], h.2⟩
  | _ => cases h

/-- Values that stand in a box if they can are scalars or enumerations where they do not. -/
theorem refers_of_holds_shape (hruntime : runtime.segments ≠ []) (t : ResolvedType) (boxed : Bool)
    (h : ((t.shape boxed).source runtime).Holds b) :
    b ∈ scalarNames ∨ ∃ kind, t.Refers kind b ∧ (boxed = true → kind = .enumeration) := by
  cases t with
  | primitive p => exact Or.inl (p.mem_scalarNames_of_holds hruntime h)
  | unknown name => exact Or.inl (Primitive.any.mem_scalarNames_of_holds hruntime h)
  | array element => exact absurd h Source.Ty.not_holds_vec
  | declared kind wireName builtin =>
      refine Or.inr ?_
      cases hboxed : boxed && kind != .enumeration with
      | true =>
          simp only [shape, hboxed, if_true, Shape.source] at h
          exact absurd h Source.Ty.not_holds_box
      | false =>
          simp only [shape, hboxed, Bool.false_eq_true, if_false, Shape.source] at h
          have hname := TypeName.eq_of_holds hruntime h
          rw [TypeName.mk.injEq] at hname
          obtain ⟨rfl, hident⟩ := hname
          refine ⟨kind, ⟨wireName, rfl, hident⟩, ?_⟩
          rintro rfl
          simpa using hboxed

end ResolvedType

theorem Member.refers_of_holds (hruntime : runtime.segments ≠ []) (m : Member) (forceOption : Bool)
    (h : ((m.shape forceOption).source runtime).Holds b) :
    b ∈ scalarNames ∨ m.type.Refers .enumeration b := by
  have hshape : ((m.type.shape true).source runtime).Holds b := by
    unfold shape at h
    split at h
    · exact Source.Ty.holds_option_iff.mp h
    · exact h
  rcases m.type.refers_of_holds_shape hruntime true hshape with hscalar | ⟨kind, hrefers, hkind⟩
  · exact Or.inl hscalar
  · obtain rfl := hkind rfl
    exact Or.inr hrefers

theorem Client.Source.refers_of_holds_resultType (hruntime : runtime.segments ≠ []) (t : ResolvedType)
    (optional : Bool) (h : (resultType runtime t optional).Holds b) :
    b ∈ scalarNames ∨ ∃ kind, t.Refers kind b := by
  have hshape : ((t.shape false).source runtime).Holds b := by
    cases optional with
    | true => exact Source.Ty.holds_option_iff.mp h
    | false => exact h
  rcases t.refers_of_holds_shape hruntime false hshape with hscalar | ⟨kind, hrefers, _⟩
  · exact Or.inl hscalar
  · exact Or.inr ⟨kind, hrefers⟩

theorem ManagedItem.exists_typeName?_parent (i : Index) (d : ManagedDecl) :
    ∃ base, (parent i d).typeName? = some base := by
  unfold parent
  split <;> exact ⟨_, rfl⟩

/-! ### Structures of a module -/

namespace Source

variable {xs ys : List Item} {name : String} {types : List Ty}

@[simp] theorem not_hasStruct_nil : ¬HasStruct [] name types := by
  simp [HasStruct]

@[simp] theorem hasStruct_cons_iff {x : Item} : HasStruct (x :: xs) name types ↔
    (∃ attributes fields, x = .struct attributes name fields ∧ fields.map (·.type) = types) ∨
      HasStruct xs name types := by
  simp only [HasStruct, List.mem_cons, or_and_right, exists_or, @eq_comm Item x]

@[simp] theorem hasStruct_ite_iff {c : Prop} [Decidable c] : HasStruct (if c then xs else ys) name types ↔
    c ∧ HasStruct xs name types ∨ ¬c ∧ HasStruct ys name types := by
  split <;> simp [*]

@[simp] theorem hasStruct_append_iff :
    HasStruct (xs ++ ys) name types ↔ HasStruct xs name types ∨ HasStruct ys name types := by
  simp only [HasStruct, List.mem_append, or_and_right, exists_or]

@[simp] theorem hasStruct_flatMap_iff {α : Type} {l : List α} {f : α → List Item} :
    HasStruct (l.flatMap f) name types ↔ ∃ a ∈ l, HasStruct (f a) name types := by
  simp only [HasStruct, List.mem_flatMap]
  constructor
  · rintro ⟨attributes, fields, ⟨a, ha, hmem⟩, htypes⟩
    exact ⟨a, ha, attributes, fields, hmem, htypes⟩
  · rintro ⟨a, ha, attributes, fields, hmem, htypes⟩
    exact ⟨attributes, fields, ⟨a, ha, hmem⟩, htypes⟩

end Source

/-- The types of the members of a structure in source. -/
def StructItem.memberTypes (runtime : Source.Path) (d : StructItem) : List Source.Ty :=
  ((d.base.bind (·.typeName?)).map fun name => .path (name.path runtime)).toList ++
    d.members.map fun m => (m.shape (d.kind == .managed)).source runtime

def Operation.memberTypes (runtime : Source.Path) (o : Operation) : List Source.Ty :=
  o.parameters.map fun m => Client.Source.resultType runtime m.type m.optional

namespace Client.Source

open Vmodl.Source

variable {name : String} {types : List Ty}

@[simp] theorem not_hasStruct_enumItem (e : EnumItem) : ¬HasStruct (enumItem runtime e) name types := by
  simp [enumItem, fromDecoded]

@[simp] theorem not_hasStruct_derefs (ident : String) (parent : Ty) :
    ¬HasStruct (derefs ident parent) name types := by
  simp [derefs]

@[simp] theorem hasStruct_dataItem_iff (d : DataItem) : HasStruct (dataItem runtime d) name types ↔
    d.ident = name ∧ (StructItem.ofData d).memberTypes runtime = types := by
  have hkind : (TypeKind.data == .managed) = false := rfl
  simp [dataItem, fromDecoded, StructItem.memberTypes, StructItem.ofData, Function.comp_def, hkind]

@[simp] theorem hasStruct_argumentsItem_iff (o : Operation) :
    HasStruct (argumentsItem runtime o) name types ↔
      o.argsIdent = name ∧ o.memberTypes runtime = types := by
  simp [argumentsItem, argumentsDebug, Operation.memberTypes, Function.comp_def]

theorem hasStruct_managedItem_iff {d : ManagedItem} {base : TypeName}
    (hbase : d.base.typeName? = some base) : HasStruct (managedItem runtime d) name types ↔
      (d.ident = name ∧ (StructItem.ofManaged d).memberTypes runtime = types) ∨
        ∃ o ∈ d.operations, o.parameters ≠ [] ∧ o.argsIdent = name ∧ o.memberTypes runtime = types := by
  simp [managedItem, fromDecoded, serialization, hbase, StructItem.memberTypes, StructItem.ofManaged,
    Function.comp_def]

@[simp] theorem not_hasStruct_functions (m : ClientModule) :
    ¬HasStruct (functions runtime m) name types := by
  simp [HasStruct, functions]

theorem hasStruct_wholeModule_iff (s : Schema) (rootType : String) (embedded : Bool) :
    HasStruct (wholeModule runtime s (.ofSchema s rootType) embedded).items name types ↔
      (∃ d ∈ (ClientModule.ofSchema s rootType).structs,
        d.ident = name ∧ d.memberTypes runtime = types) ∨
      ∃ d ∈ (ClientModule.ofSchema s rootType).managedTypes, ∃ o ∈ d.operations,
        o.parameters ≠ [] ∧ o.argsIdent = name ∧ o.memberTypes runtime = types := by
  have hhead : ¬HasStruct (prologue runtime s embedded).items name types := by
    simp [prologue]
  have hmanaged : ∀ d ∈ (ClientModule.ofSchema s rootType).managedTypes,
      (HasStruct (managedItem runtime d) name types ↔
        (d.ident = name ∧ (StructItem.ofManaged d).memberTypes runtime = types) ∨
          ∃ o ∈ d.operations, o.parameters ≠ [] ∧ o.argsIdent = name ∧
            o.memberTypes runtime = types) := by
    intro d hd
    obtain ⟨decl, _, rfl⟩ := ClientModule.mem_managedTypes_ofSchema hd
    obtain ⟨base, hbase⟩ := ManagedItem.exists_typeName?_parent (Index.ofSchema s) decl
    exact hasStruct_managedItem_iff hbase
  have hmanagedTypes := exists_congr fun d => and_congr_right (hmanaged d)
  simp only [and_or_left, exists_or] at hmanagedTypes
  simp only [wholeModule, hasStruct_append_iff, hasStruct_flatMap_iff, not_hasStruct_functions, hhead,
    not_hasStruct_enumItem, hasStruct_dataItem_iff, hmanagedTypes, ClientModule.structs, List.mem_append,
    List.mem_map, or_and_right, exists_or, or_assoc, and_false, exists_false, false_or, or_false]
  simp [StructItem.ofData, StructItem.ofManaged]

end Client.Source

theorem StructItem.refers_of_holds (hruntime : runtime.segments ≠ []) (d : StructItem) {t : Source.Ty}
    (ht : t ∈ d.memberTypes runtime) (h : t.Holds b) :
    b ∈ scalarNames ∨ (∃ m ∈ d.members, m.type.Refers .enumeration b) ∨
      ∃ base kind, d.base = some base ∧ base.Refers kind b := by
  rcases List.mem_append.mp ht with hbase | hmember
  · obtain ⟨name, hname, rfl⟩ := Option.map_eq_some_iff.mp (Option.mem_toList.mp hbase)
    obtain ⟨base, hbase, htype⟩ := Option.bind_eq_some_iff.mp hname
    rw [TypeName.eq_of_holds hruntime h] at htype
    obtain ⟨kind, hrefers⟩ := ResolvedType.exists_refers_of_typeName? htype
    exact Or.inr (Or.inr ⟨base, kind, hbase, hrefers⟩)
  · obtain ⟨m, hm, rfl⟩ := List.mem_map.mp hmember
    rcases m.refers_of_holds hruntime _ h with hscalar | hrefers
    · exact Or.inl hscalar
    · exact Or.inr (Or.inl ⟨m, hm, hrefers⟩)

theorem Operation.refers_of_holds (hruntime : runtime.segments ≠ []) (o : Operation) {t : Source.Ty}
    (ht : t ∈ o.memberTypes runtime) (h : t.Holds b) :
    b ∈ scalarNames ∨ ∃ m ∈ o.parameters, ∃ kind, m.type.Refers kind b := by
  obtain ⟨m, hm, rfl⟩ := List.mem_map.mp ht
  rcases Client.Source.refers_of_holds_resultType hruntime _ _ h with hscalar | ⟨kind, hrefers⟩
  · exact Or.inl hscalar
  · exact Or.inr ⟨m, hm, kind, hrefers⟩

end Vmodl
