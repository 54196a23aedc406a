import Vmodl.Generator.Generation
import Vmodl.Proofs.Closure
import Vmodl.Proofs.Identifiers
import Vmodl.Proofs.Outcomes

/-!
# Names of assembled modules

A module declares its types, the arguments of methods and its functions side by side. The identifiers of
types differ, and so do those of the arguments of one type. Nothing keeps types apart from the names that
are imported, from arguments, or arguments of different types from each other, and nothing keeps the
function that is named for the root type apart from the others.
-/

namespace Vmodl

namespace Source

/-- Names of types and names of functions do not meet. -/
inductive NameSpace where
  | types
  | functions
deriving DecidableEq, Repr

/-- The names that an item brings into its module. -/
def Item.names : Item → List (NameSpace × String)
  | .reexport _ names => names.map (.types, ·)
  | .struct _ name _ => [(.types, name)]
  | .enumeration _ name _ => [(.types, name)]
  | .implementation .. => []
  | .function f => [(.functions, f.name)]

def namesOf (items : List Item) : List (NameSpace × String) := items.flatMap (·.names)

@[simp] theorem namesOf_nil : namesOf [] = [] := rfl

@[simp] theorem namesOf_cons (item : Item) (items : List Item) :
    namesOf (item :: items) = item.names ++ namesOf items :=
  rfl

@[simp] theorem namesOf_append (xs ys : List Item) : namesOf (xs ++ ys) = namesOf xs ++ namesOf ys :=
  List.flatMap_append

@[simp] theorem namesOf_flatMap {α : Type} (l : List α) (f : α → List Item) :
    namesOf (l.flatMap f) = l.flatMap fun a => namesOf (f a) :=
  List.flatMap_assoc

/-- The names that a module declares or imports, in their order. -/
def Module.names (m : Module) : List (NameSpace × String) := namesOf m.items

end Source

/-- The identifiers of the arguments that are declared for the methods of a type. -/
def ManagedItem.argumentIdents (d : ManagedItem) : List String :=
  (d.operations.filter fun o => !o.parameters.isEmpty).map (·.argsIdent)

namespace ClientModule

/-- The identifiers of the types that a module declares. -/
def idents (m : ClientModule) : List String :=
  m.enums.map (·.ident) ++ m.dataTypes.map (·.ident) ++ m.managedTypes.map (·.ident)

def functionNames (m : ClientModule) : List String :=
  "descriptor_registry" :: "connect" ::
    m.entry.toList.flatMap fun e => e.ident :: e.content.toList.map fun _ => "content"

theorem idents_ofSchema (s : Schema) (rootType : String) :
    (ofSchema s rootType).idents = s.emitted.map (·.ident) := by
  simp [idents, ofSchema, ofPlan, Schema.emitted, EmissionPlan.declared, Function.comp_def,
    EnumItem.ofDecl, DataItem.ofDecl, ManagedItem.ofDecl, Declaration.ident, Declaration.wireName]

theorem nodup_idents_ofSchema (s : Schema) (rootType : String) : (ofSchema s rootType).idents.Nodup := by
  rw [idents_ofSchema]
  exact s.nodup_idents_emitted

end ClientModule

namespace Client.Source

open Vmodl.Source

variable (runtime : Path)

@[simp] theorem namesOf_enumItem (e : EnumItem) : namesOf (enumItem runtime e) = [(.types, e.ident)] := rfl

@[simp] theorem namesOf_derefs (ident : String) (parent : Ty) : namesOf (derefs ident parent) = [] := rfl

@[simp] theorem namesOf_dataItem (d : DataItem) : namesOf (dataItem runtime d) = [(.types, d.ident)] := by
  simp [dataItem, fromDecoded, Item.names]

@[simp] theorem namesOf_argumentsItem (o : Operation) :
    namesOf (argumentsItem runtime o) = [(.types, o.argsIdent)] := by
  unfold argumentsItem
  extract_lets redacts
  cases redacts <;> rfl

theorem namesOf_arguments (operations : List Operation) :
    namesOf (operations.flatMap fun o => if o.parameters.isEmpty then [] else argumentsItem runtime o) =
      ((operations.filter fun o => !o.parameters.isEmpty).map (·.argsIdent)).map (.types, ·) := by
  induction operations with
  | nil => rfl
  | cons o operations ih =>
      rw [List.flatMap_cons, namesOf_append, ih]
      cases hempty : o.parameters.isEmpty <;> simp [hempty]

@[simp] theorem namesOf_managedItem (d : ManagedItem) :
    namesOf (managedItem runtime d) = (d.ident :: d.argumentIdents).map (.types, ·) := by
  unfold managedItem
  extract_lets base trait fields newBase applyBase methods
  have hmethods : namesOf methods = [] := by
    unfold methods
    split <;> rfl
  rw [List.cons_append, List.cons_append, List.cons_append, namesOf_cons, namesOf_append,
    namesOf_append, namesOf_append, hmethods, namesOf_arguments]
  rfl

theorem namesOf_functions (m : ClientModule) :
    namesOf (functions runtime m) = m.functionNames.map (.functions, ·) := by
  have hfunctions : ∀ fs : List Function, namesOf (fs.map .function) =
      (fs.map (·.name)).map (.functions, ·) := by
    intro fs
    induction fs with
    | nil => rfl
    | cons f fs ih => rw [List.map_cons, namesOf_cons, ih]; rfl
  rw [functions, hfunctions, ClientModule.functionNames]
  cases m.entry with
  | none => rfl
  | some e =>
      obtain ⟨_, _, _, content⟩ := e
      cases content <;> rfl

/-- The types that every module imports. -/
def imported : List String := ["Connection", "VmomiError"]

theorem names_wholeModule (s : Schema) (m : ClientModule) (embedded : Bool) :
    (wholeModule runtime s m embedded).names =
      (imported ++ m.enums.map (·.ident) ++ m.dataTypes.map (·.ident) ++
        m.managedTypes.flatMap fun d => d.ident :: d.argumentIdents).map (.types, ·) ++
      m.functionNames.map (.functions, ·) := by
  have hhead : namesOf (prologue runtime s embedded).items = imported.map (.types, ·) := rfl
  rw [Module.names, wholeModule, namesOf_append, namesOf_functions]
  simp [hhead, List.map_flatMap, ← List.map_eq_flatMap, Function.comp_def]

/-- The names of a module, ordered by where they come from. -/
theorem names_wholeModule_perm (s : Schema) (m : ClientModule) (embedded : Bool) :
    (wholeModule runtime s m embedded).names.Perm
      ((imported ++ (m.idents ++ m.managedTypes.flatMap (·.argumentIdents))).map (.types, ·) ++
        m.functionNames.map (.functions, ·)) := by
  have hmanaged := List.map_append_flatMap_perm m.managedTypes (·.ident) (·.argumentIdents)
  rw [names_wholeModule, ClientModule.idents]
  refine (List.Perm.map _ ?_).append_right _
  simp only [List.append_assoc]
  exact ((hmanaged.symm.append_left _).append_left _).append_left _

end Client.Source

theorem Operation.map_argsIdent_ofDecl (i : Index) (rootType : String) (d : ManagedDecl) :
    (ofDecl i rootType d).map (·.argsIdent) =
      Naming.Scope.empty.claimAll ((d.methods.map (·.name)).map (Naming.argsIdent d.wireName)) := by
  rw [ofDecl, List.map_zipWith, List.map_map]
  apply List.ext_getElem
  · simp [Naming.Scope.length_claimAll]
  · intro n _ _
    simp [ofMethod, Function.comp_def]

namespace ManagedItem

variable {i : Index} {rootType : String} {d : ManagedDecl}

theorem sublist_argumentIdents : ((ofDecl i rootType d).argumentIdents).Sublist
    (Naming.Scope.empty.claimAll ((d.methods.map (·.name)).map (Naming.argsIdent d.wireName))) := by
  rw [← Operation.map_argsIdent_ofDecl i rootType d]
  exact List.filter_sublist.map _

theorem nodup_argumentIdents : ((ofDecl i rootType d).argumentIdents).Nodup :=
  (Naming.Scope.nodup_claimAll _ _).1.sublist sublist_argumentIdents

theorem argumentLike_of_mem_argumentIdents {a : String}
    (ha : a ∈ (ofDecl i rootType d).argumentIdents) : Naming.ArgumentLike a :=
  Naming.argumentLike_of_mem_claimAll (sublist_argumentIdents.subset ha)

end ManagedItem

/-! ### Assembled modules -/

namespace Source

def Segment.ident : Segment → String
  | .plain ident => ident
  | .generic ident _ _ => ident

theorem PathReader.exists_ident_of_segments {steps : Nat} {ls rest : List Lexeme} {names : List Segment}
    (h : segments steps ls = .ok (names, rest)) :
    ∃ name more segment others, ls = .ident name :: more ∧ names = segment :: others ∧
      segment.ident = name := by
  cases steps with
  | zero => cases h
  | succ steps =>
      unfold segments at h
      split at h
      · cases h
      · rename_i name more
        extract_lets continued at h
        -- However the first segment was read, it has the name and stays in front.
        have hcontinued : ∀ x, continued x = .ok (names, rest) → ∃ others, names = x.1 :: others := by
          rintro ⟨segment, following⟩ hx
          unfold continued at hx
          dsimp only at hx
          split at hx
          · cases hx
            exact ⟨_, rfl⟩
          · obtain ⟨_, -, hx⟩ := Outcome.bind_eq_ok_iff.mp hx
            cases hx
            exact ⟨_, rfl⟩
          · cases hx
            exact ⟨_, rfl⟩
        clear_value continued
        have hname : ∀ x, continued x = .ok (names, rest) → x.1.ident = name →
            ∃ name' more' segment others, .ident name :: more = .ident name' :: more' ∧
              names = segment :: others ∧ segment.ident = name' := by
          intro x hx hident
          obtain ⟨others, hothers⟩ := hcontinued x hx
          exact ⟨name, more, x.1, others, rfl, hothers, hident⟩
        simp only [pure_bind] at h
        split at h
        · exact hname _ h rfl
        · split at h
          · cases h
          · split at h
            · obtain ⟨_, -, h⟩ := Outcome.bind_eq_ok_iff.mp h
              exact hname _ h rfl
            · exact hname _ h rfl
      · cases h

theorem Path.exists_ident_of_ofText {text : String} {p : Path} (h : ofText text = .ok p) :
    ∃ ls name more segment others, Lexer.lexemesWithin text.toList.length text.toList = some ls ∧
      (PathReader.colons? ls).getD ls = .ident name :: more ∧
      p.segments = segment :: others ∧ segment.ident = name := by
  unfold ofText at h
  split at h
  · cases h
  · rename_i ls hls
    obtain ⟨⟨names, rest⟩, hnames, h⟩ := Outcome.bind_eq_ok_iff.mp h
    obtain ⟨name, more, segment, others, hbody, rfl, hident⟩ :=
      PathReader.exists_ident_of_segments hnames
    refine ⟨ls, name, more, segment, others, (Option.filter_eq_some_iff.mp hls).1, ?_, ?_, hident⟩
    · rw [← hbody]
      cases PathReader.colons? ls <;> rfl
    · dsimp only at h
      split at h
      · rw [Outcome.pure_eq_ok_iff] at h
        subst h
        rfl
      · cases h

theorem Path.segments_ne_nil_of_ofText {text : String} {p : Path} (h : ofText text = .ok p) :
    p.segments ≠ [] := by
  obtain ⟨_, _, _, _, _, -, -, hsegments, -⟩ := exists_ident_of_ofText h
  rw [hsegments]
  exact List.cons_ne_nil _ _

end Source

theorem Options.segments_ne_nil_of_runtime {o : Options} {runtime : Source.Path}
    (h : o.runtime = .ok runtime) : runtime.segments ≠ [] :=
  Source.Path.segments_ne_nil_of_ofText (Outcome.mapError_eq_ok_iff.mp h)

theorem Generation.assemble_eq_ok_iff {s : Schema} {o : Options} {m : Source.Module} :
    assemble s o = .ok m ↔ o.validate = .ok () ∧ ∃ runtime, o.runtime = .ok runtime ∧
      m = Client.Source.wholeModule runtime s (.ofSchema s o.rootType) o.embedded := by
  simp only [assemble, Outcome.bind_eq_ok_iff, Outcome.mapError_eq_ok_iff, Outcome.pure_eq_ok_iff,
    eq_comm (b := m)]
  constructor
  · rintro ⟨⟨⟩, hvalid, h⟩
    exact ⟨hvalid, h⟩
  · rintro ⟨hvalid, h⟩
    exact ⟨(), hvalid, h⟩

/-- Every schema has a module, if the options are valid. -/
theorem Generation.exists_assemble_iff {s : Schema} {o : Options} :
    (∃ m, assemble s o = .ok m) ↔ o.validate = .ok () := by
  constructor
  · rintro ⟨m, h⟩
    exact (assemble_eq_ok_iff.mp h).1
  · intro hvalid
    obtain ⟨runtime, hruntime, -⟩ := Outcome.bind_eq_ok_iff.mp hvalid
    exact ⟨_, assemble_eq_ok_iff.mpr ⟨hvalid, runtime, hruntime, rfl⟩⟩

theorem Options.validate_default : ({} : Options).validate = .ok () := by
  decide +kernel

/-- No type has a name that is imported, no arguments have the name of a type or of the arguments of
another type, and the function for the root type has a name of its own. -/
structure ClientModule.NamesApart (m : ClientModule) : Prop where
  imports : ∀ ident ∈ Client.Source.imported, ident ∉ m.idents
  arguments : ∀ d ∈ m.managedTypes, ∀ a ∈ d.argumentIdents, a ∉ m.idents
  owners : m.managedTypes.Pairwise fun d e => d.argumentIdents.Disjoint e.argumentIdents
  entry : ∀ e ∈ m.entry, e.ident ≠ "descriptor_registry" ∧ e.ident ≠ "connect" ∧
    (e.content ≠ none → e.ident ≠ "content")

namespace ClientModule

variable {s : Schema} {rootType : String}

theorem nodup_functionNames_iff (m : ClientModule) : m.functionNames.Nodup ↔
    ∀ e ∈ m.entry, e.ident ≠ "descriptor_registry" ∧ e.ident ≠ "connect" ∧
      (e.content ≠ none → e.ident ≠ "content") := by
  rw [functionNames]
  cases m.entry with
  | none => decide
  | some e =>
      obtain ⟨_, _, ident, content⟩ := e
      cases content <;> simp <;> grind

theorem nodup_arguments_iff : ((ofSchema s rootType).managedTypes.flatMap (·.argumentIdents)).Nodup ↔
    (ofSchema s rootType).managedTypes.Pairwise fun d e =>
      d.argumentIdents.Disjoint e.argumentIdents := by
  rw [List.nodup_flatMap]
  refine and_iff_right fun d hd => ?_
  obtain ⟨decl, _, rfl⟩ := mem_managedTypes_ofSchema hd
  exact ManagedItem.nodup_argumentIdents

theorem not_mem_imported_of_arguments {d : ManagedItem} (hd : d ∈ (ofSchema s rootType).managedTypes)
    {a : String} (ha : a ∈ d.argumentIdents) : a ∉ Client.Source.imported := by
  obtain ⟨decl, _, rfl⟩ := mem_managedTypes_ofSchema hd
  have himported : ∀ ident ∈ Client.Source.imported, ¬Naming.ArgumentLike ident := by decide
  exact fun hmem => himported a hmem (ManagedItem.argumentLike_of_mem_argumentIdents ha)

end ClientModule

theorem ClientModule.nodup_types_iff {s : Schema} {rootType : String} {c : ClientModule}
    (hc : c = ofSchema s rootType) :
    (Client.Source.imported ++ (c.idents ++ c.managedTypes.flatMap (·.argumentIdents))).Nodup ↔
      (∀ ident ∈ Client.Source.imported, ident ∉ c.idents) ∧
        (∀ d ∈ c.managedTypes, ∀ a ∈ d.argumentIdents, a ∉ c.idents) ∧
        c.managedTypes.Pairwise fun d e => d.argumentIdents.Disjoint e.argumentIdents := by
  subst hc
  have himported : Client.Source.imported.Nodup := by decide
  have harguments : Client.Source.imported.Disjoint
      ((ofSchema s rootType).managedTypes.flatMap (·.argumentIdents)) := by
    intro a ha hmem
    obtain ⟨d, hd, had⟩ := List.mem_flatMap.mp hmem
    exact not_mem_imported_of_arguments hd had ha
  rw [List.nodup_append', List.nodup_append', nodup_arguments_iff, List.disjoint_append_right]
  simp only [himported, nodup_idents_ofSchema, harguments, true_and, and_true]
  constructor
  · rintro ⟨⟨howners, htypes⟩, himports⟩
    refine ⟨fun ident h h' => himports h h', fun d hd a ha hident => ?_, howners⟩
    exact htypes hident (List.mem_flatMap.mpr ⟨d, hd, ha⟩)
  · rintro ⟨himports, htypes, howners⟩
    refine ⟨⟨howners, fun a hident ha => ?_⟩, fun a h h' => himports a h h'⟩
    obtain ⟨d, hd, had⟩ := List.mem_flatMap.mp ha
    exact htypes d hd a had hident

/-- The types of an assembled module have distinct names, and so have its functions, exactly if the
names that are given apart from each other are apart. -/
theorem Generation.nodup_names_iff {s : Schema} {o : Options} {m : Source.Module}
    (h : assemble s o = .ok m) :
    m.names.Nodup ↔ (ClientModule.ofSchema s o.rootType).NamesApart := by
  obtain ⟨_, runtime, _, rfl⟩ := assemble_eq_ok_iff.mp h
  have hspaces : ∀ types functions : List String,
      (types.map (Source.NameSpace.types, ·)).Disjoint (functions.map (Source.NameSpace.functions, ·)) := by
    simp [List.Disjoint]
  have hinjective : ∀ space : Source.NameSpace, Function.Injective fun name : String => (space, name) :=
    fun _ _ _ heq => congrArg Prod.snd heq
  rw [(Client.Source.names_wholeModule_perm runtime s _ o.embedded).nodup_iff, List.nodup_append',
    List.nodup_map_iff (hinjective _), List.nodup_map_iff (hinjective _),
    ClientModule.nodup_types_iff rfl, ClientModule.nodup_functionNames_iff]
  constructor
  · rintro ⟨⟨himports, harguments, howners⟩, hentry, -⟩
    exact ⟨himports, harguments, howners, hentry⟩
  · rintro ⟨himports, harguments, howners, hentry⟩
    exact ⟨⟨himports, harguments, howners⟩, hentry, hspaces _ _⟩

def sizedMethod (name : String) : Method where
  name := name
  wireName := name
  parameters := [{ name := "size", wireType := "int" }]

/-- The names of either type and of its method make up the same identifier. -/
def meetingArguments : Schema where
  managedTypes := [
    { qualified := "vim.Host", wireName := "Host", methods := [sizedMethod "DiskAdd"] },
    { qualified := "vim.HostDisk", wireName := "HostDisk", methods := [sizedMethod "Add"] }]

theorem Generation.nodup_names_iff_meetingArguments : ∃ m, assemble meetingArguments {} = .ok m ∧
    (m.names.Nodup ↔ (ClientModule.ofSchema meetingArguments "ServiceInstance").NamesApart) := by
  obtain ⟨m, hm⟩ := exists_assemble_iff.mpr Options.validate_default
  exact ⟨m, hm, nodup_names_iff hm⟩

/-- Two types of a module can have one name. -/
theorem Generation.not_nodup_names_assemble : ¬∀ (s : Schema) (o : Options) (m : Source.Module),
    assemble s o = .ok m → m.names.Nodup := by
  intro hall
  obtain ⟨m, hm⟩ := exists_assemble_iff.mpr Options.validate_default
  have hnodup := hall meetingArguments {} m hm
  obtain ⟨_, runtime, _, rfl⟩ := assemble_eq_ok_iff.mp hm
  have harguments : (ClientModule.ofSchema meetingArguments "ServiceInstance").managedTypes.flatMap
      (·.argumentIdents) = ["HostDiskAddArgs", "HostDiskAddArgs"] := by
    decide +kernel
  rw [(Client.Source.names_wholeModule_perm _ _ _ _).nodup_iff, harguments] at hnodup
  have htypes := List.Nodup.of_map _ (List.Nodup.of_append_left hnodup)
  simpa using List.Nodup.of_append_right (List.Nodup.of_append_right htypes)

end Vmodl
