import Mathlib.Data.List.Dedup
import Vmodl.Proofs.Declarations

/-!
# The entries of an index

An index holds the built-in names and the first declaration of every other name, each name once. Every
declaration that comes too late for its name is reported, and no other.
-/

namespace Vmodl

namespace Index

/-- The names that are built in, those of scalars first. -/
def builtinNames : List String := builtinScalars.map (·.1) ++ builtinTypes.map (·.1)

/-- The index after some declarations. -/
def afterAll (ds : List Declaration) : Index :=
  (ds.map fun d => (⟨d.qualified, d.wireName, d.kind⟩ : Entry)).foldl add builtins

end Index

namespace Schema

/-- The declarations after some others whose name is taken when their turn comes: it is built in, or an
earlier declaration has it. -/
def lateAfter (before ds : List Declaration) : List Declaration :=
  ((ds.zipIdx before.length).filter fun (d, n) =>
    d.qualified ∈ Index.builtinNames ∨ d.qualified ∈ ((before ++ ds).take n).map (·.qualified)).map
      Prod.fst

/-- The declarations of a schema that come too late for their names. -/
def latecomers (s : Schema) : List Declaration := lateAfter [] s.declared

theorem lateAfter_cons (before : List Declaration) (d : Declaration) (ds : List Declaration) :
    lateAfter before (d :: ds) =
      if d.qualified ∈ Index.builtinNames ∨ d.qualified ∈ before.map (·.qualified) then
        d :: lateAfter (before ++ [d]) ds
      else lateAfter (before ++ [d]) ds := by
  have htake : (before ++ d :: ds).take before.length = before := List.take_left
  unfold lateAfter
  rw [List.zipIdx_cons, List.filter_cons, List.length_append, List.length_singleton, ← List.append_cons]
  simp only [htake, decide_eq_true_eq]
  split <;> rfl

end Schema

namespace Index

/-- What an index holds for a schema, and what is reported while it is built. -/
structure Records (s : Schema) (i : Index) (reported : List Warning) : Prop where
  scalar : ∀ e ∈ builtinScalars, i.get? e.1 = some ⟨e.2, none, true⟩
  type : ∀ e ∈ builtinTypes, i.get? e.1 = some ⟨e.2.1, some e.2.2, true⟩
  declared : ∀ name ∉ builtinNames, i.get? name = (s.declaration? name).map (·.indexEntry)
  absent : ∀ name, i.get? name = none ↔ name ∉ builtinNames ∧ ∀ d ∈ s.declared, d.qualified ≠ name
  size : i.size = builtinNames.length +
    ((s.declared.map (·.qualified)).filter fun name => name ∉ builtinNames).dedup.length
  reports : List.Forall₂
    (fun w d => ∃ x, i.get? d.qualified = some x ∧ w = .alreadyIndexed d.qualified x.wireName)
    reported s.latecomers

variable {s : Schema} {i : Index} {name : String}

theorem get?_eq_none_iff : i.get? name = none ↔ name ∉ i.entries.names :=
  Table.lookup_eq_none_iff_not_mem

theorem get?_builtins_eq_none_iff : builtins.get? name = none ↔ name ∉ builtinNames := by
  rw [get?_eq_none_iff, builtins, Table.mem_names_ofEntries]
  simp [builtinNames, Function.comp_def]

theorem ofSchema_eq_afterAll (s : Schema) : ofSchema s = afterAll s.declared :=
  congrArg (List.foldl add builtins) (declarations_eq s)

theorem afterAll_concat (ds : List Declaration) (d : Declaration) :
    afterAll (ds ++ [d]) = (afterAll ds).add ⟨d.qualified, d.wireName, d.kind⟩ := by
  rw [afterAll, List.map_append, List.foldl_append]
  rfl

theorem get?_afterAll_eq_none_iff {ds : List Declaration} : (afterAll ds).get? name = none ↔
    ¬(name ∈ builtinNames ∨ name ∈ ds.map (·.qualified)) := by
  rw [afterAll, get?_foldl_declarations, Option.or_eq_none_iff, get?_builtins_eq_none_iff,
    Option.map_eq_none_iff, List.find?_eq_none]
  simp

theorem get?_ofSchema_eq_none_iff : (ofSchema s).get? name = none ↔
    name ∉ builtinNames ∧ ∀ d ∈ s.declared, d.qualified ≠ name := by
  rw [ofSchema_eq_afterAll, get?_afterAll_eq_none_iff]
  simp

theorem get?_ofSchema_of_get?_builtins {x : IndexEntry} (h : builtins.get? name = some x) :
    (ofSchema s).get? name = some x := by
  rw [get?_ofSchema_eq, h, Option.some_or]

theorem ordered_add (h : i.entries.Ordered) (e : Entry) : (i.add e).entries.Ordered := by
  unfold add
  split
  · exact h
  · exact Table.ordered_insert h e.qualified _

theorem ordered_foldl_add (h : i.entries.Ordered) (es : List Entry) :
    (es.foldl add i).entries.Ordered := by
  induction es generalizing i with
  | nil => exact h
  | cons e es ih => exact ih (ordered_add h e)

theorem ordered_ofSchema (s : Schema) : (ofSchema s).entries.Ordered :=
  ordered_foldl_add (Table.ordered_ofEntries _) (declarations s)

/-- Each name once: those that are built in, and those that are declared besides. -/
theorem names_ofSchema_perm (s : Schema) : (ofSchema s).entries.names.Perm
    (builtinNames ++
      ((s.declared.map (·.qualified)).filter fun name => name ∉ builtinNames).dedup) := by
  have hnodup : (builtinNames ++
      ((s.declared.map (·.qualified)).filter fun name => name ∉ builtinNames).dedup).Nodup := by
    refine List.nodup_append.mpr ⟨by decide, List.nodup_dedup _, ?_⟩
    rintro name hbuiltin _ hdeclared rfl
    have hfilter := (List.mem_filter.mp (List.mem_dedup.mp hdeclared)).2
    exact of_decide_eq_true hfilter hbuiltin
  apply (List.perm_ext_iff_of_nodup (ordered_ofSchema s).nodup_names hnodup).mpr
  intro name
  rw [← not_iff_not, ← get?_eq_none_iff, get?_ofSchema_eq_none_iff]
  by_cases hbuiltin : name ∈ builtinNames <;> simp [hbuiltin]

/-! ### Reports -/

theorem warningsFrom_cons (i : Index) (e : Entry) (es : List Entry) :
    i.warningsFrom (e :: es) =
      ((i.get? e.qualified).map fun x => .alreadyIndexed e.qualified x.wireName).toList ++
        (i.add e).warningsFrom es := by
  cases h : i.get? e.qualified with
  | some x => simp [warningsFrom, add, h]
  | none => simp [warningsFrom, h]

/-- What an index holds stays as it is while declarations are added. -/
theorem get?_afterAll_append {before : List Declaration} {x : IndexEntry}
    (h : (afterAll before).get? name = some x) (ds : List Declaration) :
    (afterAll (before ++ ds)).get? name = some x := by
  rw [afterAll, get?_foldl_declarations, List.find?_append, Option.map_or, ← Option.or_assoc,
    ← get?_foldl_declarations before builtins name]
  exact (congrArg (Option.or · _) h).trans (Option.some_or ..)

theorem warningsFrom_afterAll (before ds : List Declaration) :
    List.Forall₂
      (fun w d => ∃ x, (afterAll (before ++ ds)).get? d.qualified = some x ∧
        w = .alreadyIndexed d.qualified x.wireName)
      ((afterAll before).warningsFrom (ds.map fun d => ⟨d.qualified, d.wireName, d.kind⟩))
      (Schema.lateAfter before ds) := by
  induction ds generalizing before with
  | nil => exact .nil
  | cons d ds ih =>
      have hrest := ih (before ++ [d])
      rw [← List.append_cons, afterAll_concat] at hrest
      rw [List.map_cons, warningsFrom_cons, Schema.lateAfter_cons]
      have hnone : (afterAll before).get? d.qualified = none ↔
          ¬(d.qualified ∈ builtinNames ∨ d.qualified ∈ before.map (·.qualified)) :=
        get?_afterAll_eq_none_iff
      cases hx : (afterAll before).get? d.qualified with
      | some x =>
          have htaken : d.qualified ∈ builtinNames ∨ d.qualified ∈ before.map (·.qualified) := by
            by_contra hfree
            cases hx.symm.trans (hnone.mpr hfree)
          rw [if_pos htaken]
          exact .cons ⟨x, get?_afterAll_append hx (d :: ds), rfl⟩ hrest
      | none =>
          rw [if_neg (hnone.mp hx)]
          exact hrest

/-- The index of a schema holds the built-in names and the first declaration of every other one, and
the declarations that come too late are reported. -/
theorem records_ofSchema (s : Schema) : Records s (ofSchema s) (warnings s) where
  scalar := by
    intro e he
    have hbuiltin : ∀ e ∈ builtinScalars, builtins.get? e.1 = some ⟨e.2, none, true⟩ := by
      decide +kernel
    exact get?_ofSchema_of_get?_builtins (hbuiltin e he)
  type := by
    intro e he
    have hbuiltin : ∀ e ∈ builtinTypes, builtins.get? e.1 = some ⟨e.2.1, some e.2.2, true⟩ := by
      decide +kernel
    exact get?_ofSchema_of_get?_builtins (hbuiltin e he)
  declared := by
    intro name hname
    rw [get?_ofSchema_eq, get?_builtins_eq_none_iff.mpr hname, Option.none_or]
  absent := fun _ => get?_ofSchema_eq_none_iff
  size := by
    have hlength := (names_ofSchema_perm s).length_eq
    rw [List.length_append] at hlength
    rw [← hlength, Table.names, List.length_map]
    rfl
  reports := by
    have hreports := warningsFrom_afterAll [] s.declared
    rw [List.nil_append, ← ofSchema_eq_afterAll] at hreports
    rw [warnings, declarations_eq]
    exact hreports

end Index

end Vmodl
