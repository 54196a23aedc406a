import Vmodl.Proofs.Emission

/-!
# Recorded and emitted declarations

The index records the first declaration of a qualified name and takes data types before enumerations.
The plan takes enumerations first; it keeps the first declaration of an identifier among those that have
the wire name which the index recorded. A kept declaration is the recorded one, unless it is an
enumeration whose qualified name belongs to a data type too.
-/

namespace Vmodl

/-- A declaration of any kind. -/
inductive Declaration where
  | data (d : DataDecl)
  | enumeration (d : EnumDecl)
  | managed (d : ManagedDecl)
deriving Repr

namespace Declaration

def kind : Declaration → TypeKind
  | .data _ => .data
  | .enumeration _ => .enumeration
  | .managed _ => .managed

def qualified : Declaration → String
  | .data d => d.qualified
  | .enumeration d => d.qualified
  | .managed d => d.qualified

def wireName : Declaration → String
  | .data d => d.wireName
  | .enumeration d => d.wireName
  | .managed d => d.wireName

def ident (d : Declaration) : String := Naming.typeIdent d.wireName

/-- What the index holds for a declaration that it records. -/
def indexEntry (d : Declaration) : IndexEntry := ⟨d.wireName, some d.kind, false⟩

end Declaration

namespace Schema

/-- All declarations, in the order of the index. -/
def declared (s : Schema) : List Declaration :=
  s.dataTypes.map .data ++ s.enumTypes.map .enumeration ++ s.managedTypes.map .managed

/-- All declarations, in the order of a module. -/
def inModuleOrder (s : Schema) : List Declaration :=
  s.enumTypes.map .enumeration ++ s.dataTypes.map .data ++ s.managedTypes.map .managed

/-- The declaration to which a qualified name leads: the first one in the order of the index. -/
def declaration? (s : Schema) (qualified : String) : Option Declaration :=
  s.declared.find? fun d => d.qualified == qualified

theorem mem_inModuleOrder_iff {s : Schema} {d : Declaration} : d ∈ s.inModuleOrder ↔ d ∈ s.declared := by
  simp only [inModuleOrder, declared, List.mem_append]
  exact or_congr_left or_comm

end Schema

def EmissionPlan.declared (plan : EmissionPlan) : List Declaration :=
  plan.enums.map .enumeration ++ plan.dataTypes.map .data ++ plan.managedTypes.map .managed

/-- The declarations of a schema that its module emits. -/
def Schema.emitted (s : Schema) : List Declaration :=
  (EmissionPlan.ofSchema s (Index.ofSchema s)).declared

namespace Index

variable {s : Schema}

theorem get?_foldl_declarations (ds : List Declaration) (i : Index) (qualified : String) :
    ((ds.map fun d => (⟨d.qualified, d.wireName, d.kind⟩ : Entry)).foldl add i).get? qualified =
      (i.get? qualified).or ((ds.find? fun d => d.qualified == qualified).map (·.indexEntry)) := by
  induction ds generalizing i with
  | nil => simp
  | cons d ds ih =>
      rw [List.map_cons, List.foldl_cons, ih, get?_add, Option.or_assoc]
      congr 1
      by_cases hq : d.qualified = qualified
      · simp [hq, Declaration.indexEntry]
      · have hbeq : (d.qualified == qualified) = false := beq_false_of_ne hq
        simp [hbeq, Ne.symm hq]

theorem declarations_eq (s : Schema) :
    declarations s = s.declared.map fun d => ⟨d.qualified, d.wireName, d.kind⟩ := by
  simp [declarations, Schema.declared, Function.comp_def, Declaration.qualified, Declaration.wireName,
    Declaration.kind]

/-- The index answers with a built-in name, or with the first declaration of the name. -/
theorem get?_ofSchema_eq (s : Schema) (qualified : String) : (ofSchema s).get? qualified =
    (builtins.get? qualified).or ((s.declaration? qualified).map (·.indexEntry)) := by
  rw [ofSchema, declarations_eq, get?_foldl_declarations]
  rfl

theorem builtin_of_get?_builtins {qualified : String} {x : IndexEntry}
    (h : builtins.get? qualified = some x) : x.builtin = true := by
  have hall : ∀ e ∈ builtins.entries, e.2.builtin = true := by decide +kernel
  exact hall _ (Table.mem_of_lookup h)

/-- What the index holds and is not built in is the first declaration of its name. -/
theorem get?_ofSchema_eq_some_iff {qualified wireName : String} {kind : TypeKind} :
    (ofSchema s).get? qualified = some ⟨wireName, some kind, false⟩ ↔
      builtins.get? qualified = none ∧
        ∃ d, s.declaration? qualified = some d ∧ d.wireName = wireName ∧ d.kind = kind := by
  rw [get?_ofSchema_eq]
  cases hbuiltin : builtins.get? qualified with
  | some x =>
      have hx := builtin_of_get?_builtins hbuiltin
      refine ⟨fun h => ?_, fun h => ?_⟩
      · obtain rfl : x = ⟨wireName, some kind, false⟩ := by simpa using h
        cases hx
      · cases h.1
  | none => simp [Declaration.indexEntry]

theorem owns_ofSchema_iff {qualified wireName : String} :
    (ofSchema s).owns qualified wireName = true ↔
      builtins.get? qualified = none ∧
        ∃ d, s.declaration? qualified = some d ∧ d.wireName = wireName := by
  rw [owns, get?_ofSchema_eq]
  cases hbuiltin : builtins.get? qualified with
  | some x => simp [builtin_of_get?_builtins hbuiltin]
  | none => simp [Declaration.indexEntry, Option.any_map, Option.any_eq_true]

end Index

namespace Schema

variable {s : Schema} {qualified : String} {d : Declaration}

theorem mem_declared_of_declaration? (h : s.declaration? qualified = some d) : d ∈ s.declared :=
  List.mem_of_find?_eq_some h

theorem qualified_of_declaration? (h : s.declaration? qualified = some d) :
    d.qualified = qualified := by
  simpa using List.find?_some h

end Schema

namespace EmissionPlan

variable {α β : Type} {i : Index} {qualified wireName : α → String}

/-- A declaration is kept if the index owns it and its identifier is free. -/
def Takes (i : Index) (used : List String) (qualified wireName : String) : Prop :=
  i.owns qualified wireName = true ∧ Naming.typeIdent wireName ∉ used

theorem keep_cons_of_takes (qualified wireName : α → String) {used : List String} {d : α} (ds : List α)
    (h : Takes i used (qualified d) (wireName d)) :
    (keep i qualified wireName used (d :: ds)).1 =
        d :: (keep i qualified wireName (Naming.typeIdent (wireName d) :: used) ds).1 ∧
      (keep i qualified wireName used (d :: ds)).2.1 =
        (keep i qualified wireName (Naming.typeIdent (wireName d) :: used) ds).2.1 := by
  rw [keep, if_pos h.1]
  simp [h.2]

theorem keep_cons_of_not_takes (qualified wireName : α → String) {used : List String} {d : α}
    (ds : List α) (h : ¬Takes i used (qualified d) (wireName d)) :
    (keep i qualified wireName used (d :: ds)).1 = (keep i qualified wireName used ds).1 ∧
      (keep i qualified wireName used (d :: ds)).2.1 = (keep i qualified wireName used ds).2.1 := by
  rw [keep]
  by_cases howns : i.owns (qualified d) (wireName d) = true
  · have hused : Naming.typeIdent (wireName d) ∈ used := by
      by_contra hfree
      exact h ⟨howns, hfree⟩
    simp [howns, hused]
  · simp [howns]

theorem keep_append (used : List String) (xs ys : List α) :
    (keep i qualified wireName used (xs ++ ys)).1 =
        (keep i qualified wireName used xs).1 ++
          (keep i qualified wireName (keep i qualified wireName used xs).2.1 ys).1 ∧
      (keep i qualified wireName used (xs ++ ys)).2.1 =
        (keep i qualified wireName (keep i qualified wireName used xs).2.1 ys).2.1 := by
  induction xs generalizing used with
  | nil => exact ⟨rfl, rfl⟩
  | cons x xs ih =>
      rw [List.cons_append]
      by_cases htakes : Takes i used (qualified x) (wireName x)
      · rw [(keep_cons_of_takes _ _ _ htakes).1, (keep_cons_of_takes _ _ _ htakes).2,
          (keep_cons_of_takes _ _ _ htakes).1, (keep_cons_of_takes _ _ _ htakes).2, (ih _).1, (ih _).2]
        exact ⟨rfl, rfl⟩
      · rw [(keep_cons_of_not_takes _ _ _ htakes).1, (keep_cons_of_not_takes _ _ _ htakes).2,
          (keep_cons_of_not_takes _ _ _ htakes).1, (keep_cons_of_not_takes _ _ _ htakes).2]
        exact ih used

theorem keep_map (f : β → α) (used : List String) (xs : List β) :
    (keep i qualified wireName used (xs.map f)).1 =
        (keep i (fun x => qualified (f x)) (fun x => wireName (f x)) used xs).1.map f ∧
      (keep i qualified wireName used (xs.map f)).2.1 =
        (keep i (fun x => qualified (f x)) (fun x => wireName (f x)) used xs).2.1 := by
  induction xs generalizing used with
  | nil => exact ⟨rfl, rfl⟩
  | cons x xs ih =>
      rw [List.map_cons]
      by_cases htakes : Takes i used (qualified (f x)) (wireName (f x))
      · have hcons := keep_cons_of_takes (fun x => qualified (f x)) (fun x => wireName (f x)) xs htakes
        rw [hcons.1, hcons.2, (keep_cons_of_takes _ _ _ htakes).1, (keep_cons_of_takes _ _ _ htakes).2,
          (ih _).1, (ih _).2]
        exact ⟨rfl, rfl⟩
      · have hcons := keep_cons_of_not_takes (fun x => qualified (f x)) (fun x => wireName (f x)) xs htakes
        rw [hcons.1, hcons.2, (keep_cons_of_not_takes _ _ _ htakes).1,
          (keep_cons_of_not_takes _ _ _ htakes).2]
        exact ih used

/-- The three passes of a plan are one pass over the declarations in the order of the module. -/
theorem declared_ofSchema (s : Schema) (i : Index) : (ofSchema s i).declared =
    (keep i Declaration.qualified Declaration.wireName [] s.inModuleOrder).1 := by
  rw [Schema.inModuleOrder, (keep_append _ _ _).1, (keep_append _ _ _).1, (keep_append _ _ _).2,
    (keep_map _ _ _).1, (keep_map _ _ _).1, (keep_map _ _ _).1, (keep_map _ _ _).2,
    (keep_map _ _ _).2]
  rfl

/-- A plan keeps the first declaration of an identifier that is free, among those that the index owns. -/
theorem mem_keep_iff {used : List String} {ds : List α} {d : α} :
    d ∈ (keep i qualified wireName used ds).1 ↔
      Naming.typeIdent (wireName d) ∉ used ∧
        (ds.find? fun e => i.owns (qualified e) (wireName e) &&
          Naming.typeIdent (wireName e) == Naming.typeIdent (wireName d)) = some d := by
  induction ds generalizing used with
  | nil => simp [keep]
  | cons e ds ih =>
      by_cases htakes : Takes i used (qualified e) (wireName e)
      · rw [(keep_cons_of_takes _ _ _ htakes).1, List.mem_cons, ih, List.mem_cons, not_or]
        by_cases hident : Naming.typeIdent (wireName e) = Naming.typeIdent (wireName d)
        · rw [List.find?_cons_of_pos (by simp [htakes.1, hident])]
          simp [← hident, htakes.2, eq_comm]
        · have hne : d ≠ e := by
            rintro rfl
            exact hident rfl
          rw [List.find?_cons_of_neg (by simp [hident])]
          simp [hne, Ne.symm hident]
      · rw [(keep_cons_of_not_takes _ _ _ htakes).1, ih]
        refine and_congr_right fun hfree => ?_
        rw [List.find?_cons_of_neg]
        intro h
        obtain ⟨howns, hident⟩ := Bool.and_eq_true_iff.mp h
        exact htakes ⟨howns, by rwa [eq_of_beq hident]⟩

end EmissionPlan

/-! ### Emitted declarations -/

namespace Schema

variable {s : Schema} {d : Declaration}

/-- Whether the index owns a declaration under its names and it goes by an identifier. -/
def ownsAs (s : Schema) (ident : String) (d : Declaration) : Bool :=
  (Index.ofSchema s).owns d.qualified d.wireName && d.ident == ident

theorem ownsAs_eq_true_iff {ident : String} : s.ownsAs ident d = true ↔
    (Index.ofSchema s).owns d.qualified d.wireName = true ∧ d.ident = ident := by
  simp [ownsAs]

/-- A module emits the first declaration of each identifier that the index owns. -/
theorem mem_emitted_iff : d ∈ s.emitted ↔ s.inModuleOrder.find? (s.ownsAs d.ident) = some d := by
  rw [emitted, EmissionPlan.declared_ofSchema, EmissionPlan.mem_keep_iff]
  exact and_iff_right (List.not_mem_nil)

theorem owns_of_mem_emitted (hd : d ∈ s.emitted) :
    (Index.ofSchema s).owns d.qualified d.wireName = true :=
  (ownsAs_eq_true_iff.mp (List.find?_some (mem_emitted_iff.mp hd))).1

theorem mem_declared_of_mem_emitted (hd : d ∈ s.emitted) : d ∈ s.declared :=
  mem_inModuleOrder_iff.mp (List.mem_of_find?_eq_some (mem_emitted_iff.mp hd))

theorem eq_of_find? {α : Type} {l : List α} {p q : α → Bool} {a b : α} (ha : l.find? p = some a)
    (hb : l.find? q = some b) (hqa : q a = true) (hpb : p b = true) : a = b := by
  induction l with
  | nil => cases ha
  | cons x l ih =>
      cases hp : p x with
      | true =>
          obtain rfl : x = a := by simpa [hp] using ha
          simpa [hqa] using hb
      | false =>
          cases hq : q x with
          | true =>
              obtain rfl : x = b := by simpa [hq] using hb
              rw [hp] at hpb
              cases hpb
          | false =>
              rw [List.find?_cons_of_neg (by simp [hp])] at ha
              rw [List.find?_cons_of_neg (by simp [hq])] at hb
              exact ih ha hb

theorem mem_left_of_find?_append {α : Type} {l l' : List α} {p : α → Bool} {a b : α}
    (h : (l ++ l').find? p = some a) (hb : b ∈ l) (hp : p b = true) : a ∈ l := by
  rw [List.find?_append, Option.or_of_isSome (List.find?_isSome.mpr ⟨b, hb, hp⟩)] at h
  exact List.mem_of_find?_eq_some h

/-- The two orders differ only where data types and enumerations meet. -/
theorem find?_inModuleOrder {p : Declaration → Bool}
    (h : (∀ d ∈ s.dataTypes, p (.data d) = false) ∨ ∀ d ∈ s.enumTypes, p (.enumeration d) = false) :
    s.inModuleOrder.find? p = s.declared.find? p := by
  have hnone {α : Type} {f : α → Declaration} {ds : List α} (hds : ∀ d ∈ ds, p (f d) = false) :
      (ds.map f).find? p = none := by
    simpa [List.find?_eq_none] using hds
  simp only [inModuleOrder, declared, List.find?_append]
  rcases h with hdata | henums
  · rw [hnone hdata, Option.or_none, Option.none_or]
  · rw [hnone henums, Option.or_none, Option.none_or]

/-- A data type comes first among the declarations of its name. -/
theorem kind_of_declaration?_of_data {x : DataDecl} (hx : x ∈ s.dataTypes)
    (h : s.declaration? x.qualified = some d) : d.kind = .data := by
  rw [declaration?, declared, List.append_assoc] at h
  have hmem := mem_left_of_find?_append h (List.mem_map.mpr ⟨x, hx, rfl⟩) (by simp [Declaration.qualified])
  obtain ⟨_, _, rfl⟩ := List.mem_map.mp hmem
  rfl

/-- An enumeration that the index owns leaves its identifier to no type of another kind. -/
theorem kind_of_mem_emitted_of_enumeration (hd : d ∈ s.emitted) {x : EnumDecl} (hx : x ∈ s.enumTypes)
    (howns : s.ownsAs d.ident (.enumeration x) = true) : d.kind = .enumeration := by
  have h := mem_emitted_iff.mp hd
  rw [inModuleOrder, List.append_assoc] at h
  have hmem := mem_left_of_find?_append h (List.mem_map.mpr ⟨x, hx, rfl⟩) howns
  obtain ⟨_, _, rfl⟩ := List.mem_map.mp hmem
  rfl

/-- An enumeration goes by the qualified name of a data type. -/
def NamedAsData (s : Schema) (d : Declaration) : Prop :=
  d.kind = .enumeration ∧ ∃ x ∈ s.dataTypes, x.qualified = d.qualified

/-- For each declaration that is emitted, the index recorded one with its qualified name and its wire
name. That is the declaration itself, unless it is an enumeration named as a data type: then the index
recorded the data type. -/
theorem recorded_of_mem_emitted (hd : d ∈ s.emitted) :
    ∃ e, s.declaration? d.qualified = some e ∧
      (Index.ofSchema s).get? d.qualified = some ⟨d.wireName, some e.kind, false⟩ ∧
      (¬s.NamedAsData d ∧ e = d ∨ s.NamedAsData d ∧ e.kind = .data) := by
  have howns := owns_of_mem_emitted hd
  obtain ⟨hbuiltin, e, he, hwire⟩ := Index.owns_ofSchema_iff.mp howns
  refine ⟨e, he, Index.get?_ofSchema_eq_some_iff.mpr ⟨hbuiltin, e, he, hwire, rfl⟩, ?_⟩
  by_cases hnamed : s.NamedAsData d
  · obtain ⟨x, hx, hname⟩ := hnamed.2
    rw [← hname] at he
    exact Or.inr ⟨hnamed, kind_of_declaration?_of_data hx he⟩
  · -- In one order, `e` is the first of its name and `d` the first owned one of its identifier.
    refine Or.inl ⟨hnamed, ?_⟩
    have hmodule := mem_emitted_iff.mp hd
    have hself : s.ownsAs d.ident e = true := by
      rw [ownsAs_eq_true_iff, qualified_of_declaration? he, Declaration.ident, hwire]
      exact ⟨howns, rfl⟩
    by_cases hkind : d.kind = .enumeration
    · have hdata : ∀ x ∈ s.dataTypes, ((Declaration.data x).qualified == d.qualified) = false := by
        intro x hx
        exact beq_false_of_ne fun hname => hnamed ⟨hkind, x, hx, hname⟩
      have he' : s.inModuleOrder.find? (fun x => x.qualified == d.qualified) = some e := by
        rwa [find?_inModuleOrder (Or.inl hdata)]
      exact eq_of_find? he' hmodule hself (by simp)
    · have henums : ∀ x ∈ s.enumTypes, s.ownsAs d.ident (.enumeration x) = false := by
        intro x hx
        by_contra h
        exact hkind (kind_of_mem_emitted_of_enumeration hd hx (eq_true_of_ne_false h))
      rw [find?_inModuleOrder (Or.inr henums)] at hmodule
      exact eq_of_find? he hmodule hself (by simp)

def secondOfName : EnumDecl where
  qualified := "vim.A"
  wireName := "A"
  values := ["on"]

/-- A data type and an enumeration with one qualified name and one wire name. -/
def declaredTwice : Schema where
  dataTypes := [{ qualified := "vim.A", wireName := "A" }]
  enumTypes := [secondOfName]

theorem secondOfName_mem_emitted : .enumeration secondOfName ∈ declaredTwice.emitted := by
  have henums : (EmissionPlan.ofSchema declaredTwice (Index.ofSchema declaredTwice)).enums =
      [secondOfName] := by
    decide +kernel
  simp [emitted, EmissionPlan.declared, henums]

theorem recorded_of_mem_emitted_secondOfName :
    Declaration.enumeration secondOfName ∈ declaredTwice.emitted ∧
      ∃ e, declaredTwice.declaration? "vim.A" = some e ∧
        (Index.ofSchema declaredTwice).get? "vim.A" = some ⟨"A", some e.kind, false⟩ ∧
        (¬declaredTwice.NamedAsData (.enumeration secondOfName) ∧ e = .enumeration secondOfName ∨
          declaredTwice.NamedAsData (.enumeration secondOfName) ∧ e.kind = .data) :=
  ⟨secondOfName_mem_emitted, recorded_of_mem_emitted secondOfName_mem_emitted⟩

/-- The plan and the index need not agree on the kind of a name. -/
theorem not_recorded_of_mem_emitted :
    ¬∀ (s : Schema), ∀ d ∈ s.emitted, (Index.ofSchema s).kind? d.qualified = some d.kind ∧
      s.declaration? d.qualified = some d := by
  intro h
  have hkind := (h declaredTwice _ secondOfName_mem_emitted).1
  have hdata : (Index.ofSchema declaredTwice).kind? "vim.A" = some .data := by decide +kernel
  have hkinds : some TypeKind.data = some .enumeration := hdata.symm.trans hkind
  exact absurd hkinds (by decide)

end Schema

end Vmodl
