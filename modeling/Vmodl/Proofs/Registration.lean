import Vmodl.Proofs.Tables
import Vmodl.Registry

/-!
# Runs of registrations

One registration changes at most the entry of its own name, and one of a data type not even that where
the name is managed. A run of registrations under different names therefore leaves each of them in
effect, in whatever order they come.
-/

namespace Vmodl

namespace Registration

/-- The name that a registration is about. -/
def name : Registration → String
  | .enumeration name | .data name _ _ | .managed name _ _ => name

/-- The entry that a registration makes. -/
def entry : Registration → TypeEntry
  | .enumeration _ => ⟨.enumeration, none, []⟩
  | .data _ parent fields => ⟨.data, parent, Table.ofEntries fields⟩
  | .managed _ parent fields => ⟨.managed, parent, Table.ofEntries fields⟩

/-- A data type is refused where its name is managed. -/
def RefusedBy (r : Registry) (x : Registration) : Prop :=
  x.entry.kind = .data ∧ r.isManaged x.name = true

instance (r : Registry) (x : Registration) : Decidable (x.RefusedBy r) :=
  inferInstanceAs (Decidable (_ ∧ _))

/-- A registration makes its entry unless it is refused. -/
theorem apply_eq (r : Registry) (x : Registration) :
    x.apply r = if x.RefusedBy r then r else r.put x.name x.entry := by
  cases x with
  | enumeration name => exact (if_neg fun h => TypeKind.noConfusion h.1).symm
  | managed name parent fields => exact (if_neg fun h => TypeKind.noConfusion h.1).symm
  | data name parent fields =>
      have hrefused : (Registration.data name parent fields).RefusedBy r ↔ r.isManaged name = true :=
        and_iff_right rfl
      exact if_congr hrefused.symm rfl rfl

end Registration

namespace Registry

variable {r : Registry}

theorem entry?_put (r : Registry) (name other : String) (e : TypeEntry) :
    entry? (r.put name e) other = if other = name then some e else r.entry? other :=
  Table.lookup_insert r.types name other e

theorem put_put_self (r : Registry) (name : String) (e e' : TypeEntry) :
    (r.put name e).put name e' = r.put name e' :=
  congrArg Registry.mk (Table.insert_insert_self r.types name e e')

theorem put_comm (r : Registry) {name other : String} (e e' : TypeEntry) (h : name ≠ other) :
    (r.put name e).put other e' = (r.put other e').put name e :=
  congrArg Registry.mk (Table.insert_comm r.types e e' h)

theorem isManaged_congr {r' : Registry} {name : String} (h : r'.entry? name = r.entry? name) :
    r'.isManaged name = r.isManaged name := by
  rw [isManaged, isManaged, kind?, kind?, h]

theorem ordered_apply (h : r.types.Ordered) (x : Registration) : (x.apply r).types.Ordered := by
  rw [Registration.apply_eq]
  split
  · exact h
  · exact Table.ordered_insert h x.name x.entry

theorem entry?_apply_name (r : Registry) (x : Registration) : entry? (x.apply r) x.name =
    if x.RefusedBy r then r.entry? x.name else some x.entry := by
  rw [Registration.apply_eq]
  split
  · rfl
  · rw [entry?_put, if_pos rfl]

theorem entry?_apply_of_ne {x : Registration} {other : String} (hne : other ≠ x.name) :
    entry? (x.apply r) other = r.entry? other := by
  rw [Registration.apply_eq]
  split
  · rfl
  · rw [entry?_put, if_neg hne]

/-- Whether a registration is refused depends on its own name alone. -/
theorem refusedBy_apply_of_ne {x y : Registration} (hne : x.name ≠ y.name) :
    x.RefusedBy (y.apply r) ↔ x.RefusedBy r := by
  rw [Registration.RefusedBy, Registration.RefusedBy, isManaged_congr (entry?_apply_of_ne hne)]

/-! ### A run of registrations -/

@[simp] theorem run_nil (r : Registry) : r.run [] = r := rfl

@[simp] theorem run_cons (r : Registry) (x : Registration) (xs : List Registration) :
    r.run (x :: xs) = (x.apply r).run xs := rfl

theorem ordered_run (h : r.types.Ordered) (xs : List Registration) : (r.run xs).types.Ordered := by
  induction xs generalizing r with
  | nil => exact h
  | cons x xs ih => exact ih (ordered_apply h x)

theorem entry?_run_of_not_mem {xs : List Registration} {name : String}
    (hname : name ∉ xs.map (·.name)) : entry? (r.run xs) name = r.entry? name := by
  induction xs generalizing r with
  | nil => rfl
  | cons x xs ih =>
      rw [List.map_cons, List.mem_cons, not_or] at hname
      rw [run_cons, ih hname.2, entry?_apply_of_ne hname.1]

/-- Registrations under different names are all in effect after the run, those that were refused at
its start aside. -/
theorem entry?_run_name {xs : List Registration} {x : Registration}
    (hnodup : (xs.map (·.name)).Nodup) (hx : x ∈ xs) :
    entry? (r.run xs) x.name = if x.RefusedBy r then r.entry? x.name else some x.entry := by
  induction xs generalizing r with
  | nil => cases hx
  | cons x' xs ih =>
      rw [List.map_cons, List.nodup_cons] at hnodup
      rw [run_cons]
      rcases List.mem_cons.mp hx with rfl | hrest
      · rw [entry?_run_of_not_mem hnodup.1, entry?_apply_name]
      · -- The one before has another name, so it changes nothing about this one.
        have hne : x.name ≠ x'.name := by
          intro heq
          exact hnodup.1 (heq ▸ List.mem_map.mpr ⟨x, hrest, rfl⟩)
        rw [ih hnodup.2 hrest, entry?_apply_of_ne hne]
        exact if_congr (refusedBy_apply_of_ne hne) rfl rfl

/-- Nothing is refused of a name that was not managed before. -/
theorem entry?_run_of_mem {xs : List Registration} {x : Registration}
    (hnodup : (xs.map (·.name)).Nodup) (hx : x ∈ xs) (hfree : r.isManaged x.name = false) :
    entry? (r.run xs) x.name = some x.entry := by
  have hrefused : ¬x.RefusedBy r := by
    intro h
    rw [h.2] at hfree
    cases hfree
  rw [entry?_run_name hnodup hx, if_neg hrefused]

theorem names_builtins : builtins.types.names =
    ["DataObject", "DynamicData", "ManagedObject", "MethodFault", "RuntimeFault"] := by
  decide +kernel

theorem ordered_builtins : builtins.types.Ordered :=
  ordered_run (r := empty) Table.ordered_nil
    [.data "DataObject" none [], .data "DynamicData" (some "DataObject") [],
      .data "MethodFault" (some "DynamicData")
        [("faultCause", .scalar "anyType"), ("faultMessage", .array (.scalar "anyType"))],
      .data "RuntimeFault" (some "MethodFault") [],
      .managed "ManagedObject" none [(thisField, .managed "ManagedObject")]]

theorem entry?_eq_none_of_not_mem {name : String} (h : name ∉ r.types.names) : r.entry? name = none :=
  Table.lookup_eq_none_iff_not_mem.mpr h

theorem isManaged_of_not_mem {name : String} (h : name ∉ r.types.names) : r.isManaged name = false := by
  rw [isManaged, kind?, entry?_eq_none_of_not_mem h]
  rfl

/-- Of the types that every client knows, one is managed. -/
theorem isManaged_builtins_of_ne {name : String} (h : name ≠ "ManagedObject") :
    builtins.isManaged name = false := by
  by_cases hmem : name ∈ builtins.types.names
  · have hall : ∀ n ∈ builtins.types.names, n ≠ "ManagedObject" → builtins.isManaged n = false := by
      decide +kernel
    exact hall name hmem h
  · exact isManaged_of_not_mem hmem

end Registry

end Vmodl
