import Mathlib.Data.List.Nodup
import Vmodl.Proofs.Tables
import Vmodl.Schema.Emission
import Vmodl.Schema.Resolved

/-!
# What an index and an emission plan hold

The index answers with a built-in name or with a declaration of the schema. The plan keeps declarations
of the schema in their order, and no two that it keeps share an identifier, of whatever kind they are.
-/

namespace Vmodl

namespace Index

variable {s : Schema}

theorem get?_add (i : Index) (e : Entry) (qualified : String) :
    (i.add e).get? qualified = (i.get? qualified).or
      (if qualified = e.qualified then some ⟨e.wireName, some e.kind, false⟩ else none) := by
  cases h : i.get? e.qualified with
  | some existing =>
      have hadd : i.add e = i := by simp [add, h]
      rw [hadd]
      split
      · rename_i hq
        rw [hq, h, Option.some_or]
      · rw [Option.or_none]
  | none =>
      have hadd : i.add e = ⟨i.entries.insert e.qualified ⟨e.wireName, some e.kind, false⟩⟩ := by
        simp [add, h]
      rw [hadd, get?, Table.lookup_insert]
      split
      · rename_i hq
        rw [hq, h, Option.none_or]
      · rw [Option.or_none, get?]

/-- What the index answers is built in, or is declared under that name. -/
theorem get?_foldl_add {es : List Entry} {i : Index} {qualified : String} {x : IndexEntry}
    (h : (es.foldl add i).get? qualified = some x) :
    i.get? qualified = some x ∨
      ∃ e ∈ es, e.qualified = qualified ∧ x = ⟨e.wireName, some e.kind, false⟩ := by
  induction es generalizing i with
  | nil => exact Or.inl h
  | cons e es ih =>
      rcases ih h with hi | ⟨e', he', hq, hx⟩
      · rw [get?_add, Option.or_eq_some_iff] at hi
        rcases hi with hi | ⟨_, hnew⟩
        · exact Or.inl hi
        · split at hnew
          · rename_i hq
            exact Or.inr ⟨e, List.mem_cons_self, hq.symm, (Option.some.inj hnew).symm⟩
          · cases hnew
      · exact Or.inr ⟨e', List.mem_cons_of_mem _ he', hq, hx⟩

theorem get?_ofSchema {qualified : String} {x : IndexEntry}
    (h : (ofSchema s).get? qualified = some x) :
    builtins.get? qualified = some x ∨
      ∃ e ∈ declarations s, e.qualified = qualified ∧ x = ⟨e.wireName, some e.kind, false⟩ :=
  get?_foldl_add h

theorem mem_builtinTypes_of_get? {qualified wireName : String} {kind : TypeKind} {builtin : Bool}
    (h : builtins.get? qualified = some ⟨wireName, some kind, builtin⟩) :
    (qualified, wireName, kind) ∈ builtinTypes ∧ builtin = true := by
  rw [get?, builtins, Table.lookup_ofEntries] at h
  have hmem := List.mem_reverse.mp (Table.mem_of_lookup h)
  rcases List.mem_append.mp hmem with hscalar | htype
  · obtain ⟨_, _, heq⟩ := List.mem_map.mp hscalar
    cases heq
  · obtain ⟨_, hentry, heq⟩ := List.mem_map.mp htype
    cases heq
    exact ⟨hentry, rfl⟩

theorem get?_of_resolveName {i : Index} {name wireName : String} {kind : TypeKind} {builtin : Bool}
    (h : i.resolveName name = .declared kind wireName builtin) :
    i.get? name = some ⟨wireName, some kind, builtin⟩ := by
  unfold resolveName at h
  split at h
  · cases h
  · split at h
    · rename_i heq
      cases h
      exact heq
    · split at h <;> cases h
    · cases h

theorem get?_of_resolve {i : Index} {wireType wireName : String} {kind : TypeKind} {builtin : Bool}
    (h : i.resolve wireType = .declared kind wireName builtin) :
    i.get? wireType = some ⟨wireName, some kind, builtin⟩ := by
  unfold resolve resolveReversed at h
  split at h
  · cases h
  · simpa using get?_of_resolveName h

theorem leaf_resolveName (i : Index) (name : String) :
    (i.resolveName name).leaf = i.resolveName name := by
  unfold resolveName
  split
  · rfl
  · split
    · rfl
    · split <;> rfl
    · rfl

/-- Under the array markers stands the type of a name without any. -/
theorem exists_leaf_resolve (i : Index) (wireType : String) :
    ∃ name, stripArray? name = none ∧ (i.resolve wireType).leaf = i.resolveName name := by
  unfold resolve
  generalize wireType.toList.reverse = cs
  induction cs using resolveReversed.induct with
  | case1 rest ih => exact ih
  | case2 cs hcs =>
      refine ⟨String.ofList cs.reverse, ?_, ?_⟩
      · unfold stripArray?
        rw [String.toList_ofList, List.reverse_reverse]
        split
        · exact absurd rfl (hcs _)
        · rfl
      · rw [resolveReversed]
        · exact leaf_resolveName i _
        · exact hcs

theorem exists_get?_of_leaf_resolve {i : Index} {wireType wireName : String} {kind : TypeKind}
    {builtin : Bool} (h : (i.resolve wireType).leaf = .declared kind wireName builtin) :
    ∃ name, i.get? name = some ⟨wireName, some kind, builtin⟩ := by
  obtain ⟨name, _, hleaf⟩ := exists_leaf_resolve i wireType
  exact ⟨name, get?_of_resolveName (hleaf.symm.trans h)⟩

/-- A type that resolves to a built-in one is in the list of these. -/
theorem mem_builtinTypes_of_resolve {wireType wireName : String} {kind : TypeKind}
    (h : (ofSchema s).resolve wireType = .declared kind wireName true) :
    ∃ qualified, (qualified, wireName, kind) ∈ builtinTypes := by
  obtain ⟨name, hname⟩ := exists_get?_of_leaf_resolve (congrArg ResolvedType.leaf h)
  rcases get?_ofSchema hname with hbuiltin | ⟨e, _, _, heq⟩
  · exact ⟨name, (mem_builtinTypes_of_get? hbuiltin).1⟩
  · cases heq

end Index

/-! ### The plan -/

namespace EmissionPlan

variable {α : Type} {i : Index} {qualified wireName : α → String}

theorem keep_sublist (used : List String) (ds : List α) :
    (keep i qualified wireName used ds).1.Sublist ds := by
  induction ds generalizing used with
  | nil => exact List.Sublist.slnil
  | cons d ds ih =>
      unfold keep
      split
      · dsimp only
        split
        · exact (ih used).cons d
        · exact (ih _).cons_cons d
      · exact (ih used).cons d

theorem used_keep (used : List String) (ds : List α) :
    (keep i qualified wireName used ds).2.1 =
      ((keep i qualified wireName used ds).1.map fun d => Naming.typeIdent (wireName d)).reverse ++
        used := by
  induction ds generalizing used with
  | nil => rfl
  | cons d ds ih =>
      unfold keep
      split
      · dsimp only
        split
        · exact ih used
        · simp only [ih, List.map_cons, List.reverse_cons, List.append_assoc, List.singleton_append]
      · exact ih used

/-- Only identifiers that are free are taken. -/
theorem nodup_used_keep {used : List String} (hused : used.Nodup) (ds : List α) :
    (keep i qualified wireName used ds).2.1.Nodup := by
  induction ds generalizing used with
  | nil => exact hused
  | cons d ds ih =>
      unfold keep
      split
      · dsimp only
        split
        · exact ih hused
        · rename_i hfree
          refine ih (List.nodup_cons.mpr ⟨?_, hused⟩)
          simpa using hfree
      · exact ih hused

/-- The wire names of all the declarations of a plan. -/
def wireNames (plan : EmissionPlan) : List String :=
  plan.enums.map (·.wireName) ++ plan.dataTypes.map (·.wireName) ++ plan.managedTypes.map (·.wireName)

variable {s : Schema}

/-- No two declarations of a plan share an identifier. -/
theorem nodup_idents_ofSchema : ((ofSchema s i).wireNames.map Naming.typeIdent).Nodup := by
  -- The three passes hand on the identifiers in use, which stay distinct.
  have henums : (keep i EnumDecl.qualified EnumDecl.wireName [] s.enumTypes).2.1.Nodup :=
    nodup_used_keep List.nodup_nil _
  have hdata : (keep i DataDecl.qualified DataDecl.wireName _ s.dataTypes).2.1.Nodup :=
    nodup_used_keep henums _
  have hmanaged : (keep i ManagedDecl.qualified ManagedDecl.wireName _ s.managedTypes).2.1.Nodup :=
    nodup_used_keep hdata _
  rw [used_keep, used_keep, used_keep, List.append_nil, ← List.reverse_append, ← List.reverse_append,
    List.nodup_reverse] at hmanaged
  simp only [wireNames, ofSchema, withWarnings, used_keep, List.append_nil, List.map_append,
    List.map_map, Function.comp_def]
  simpa only [List.reverse_append, List.append_assoc] using hmanaged

theorem nodup_wireNames_ofSchema : (ofSchema s i).wireNames.Nodup :=
  List.Nodup.of_map _ nodup_idents_ofSchema

end EmissionPlan

end Vmodl
