import Mathlib.Data.List.Perm.Basic
import Vmodl.Proofs.Registration

/-!
# The order of registrations

Two registrations can change places if they are under different names, or if one is of a data type and
the other of a managed type: the managed entry stays, whichever comes first. A run that registers no
name twice as data and none twice as managed therefore has one outcome, in whatever order it goes.
-/

namespace Vmodl

namespace Registration

/-- Data types and managed types, and no name twice as either. -/
structure Once (xs : List Registration) : Prop where
  typed : ∀ x ∈ xs, x.entry.kind ≠ .enumeration
  nodup : (xs.map fun x => (x.entry.kind, x.name)).Nodup

variable {r : Registry} {x y : Registration}

theorem apply_of_managed (r : Registry) (h : x.entry.kind = .managed) :
    x.apply r = r.put x.name x.entry := by
  have hrefused : ¬x.RefusedBy r := by
    intro hdata
    cases h.symm.trans hdata.1
  rw [apply_eq, if_neg hrefused]

theorem apply_comm_of_ne (r : Registry) (h : x.name ≠ y.name) :
    y.apply (x.apply r) = x.apply (y.apply r) := by
  rw [apply_eq (x.apply r), apply_eq (y.apply r), if_congr (Registry.refusedBy_apply_of_ne h.symm) rfl rfl,
    if_congr (Registry.refusedBy_apply_of_ne h) rfl rfl, apply_eq r x, apply_eq r y]
  split
  · rfl
  · split
    · rfl
    · exact Registry.put_comm r x.entry y.entry h

/-- A managed type leaves nothing of what its name stood for before. -/
theorem apply_managed_of_apply (hy : y.entry.kind = .managed) (hname : x.name = y.name) :
    y.apply (x.apply r) = y.apply r := by
  rw [apply_of_managed _ hy, apply_of_managed _ hy, apply_eq]
  split
  · rfl
  · rw [hname, Registry.put_put_self]

/-- Where its name is managed a data type has no effect. -/
theorem apply_of_apply_managed (hx : x.entry.kind = .data) (hy : y.entry.kind = .managed)
    (hname : x.name = y.name) : x.apply (y.apply r) = y.apply r := by
  have hmanaged : (y.apply r).isManaged x.name = true := by
    rw [hname, apply_of_managed r hy, Registry.isManaged, Registry.kind?, Registry.entry?_put, if_pos rfl,
      Option.map_some, hy]
    rfl
  rw [apply_eq (y.apply r) x, if_pos ⟨hx, hmanaged⟩]

theorem apply_comm_of_kind_ne (r : Registry) (hx : x.entry.kind ≠ .enumeration)
    (hy : y.entry.kind ≠ .enumeration) (hname : x.name = y.name) (hkind : x.entry.kind ≠ y.entry.kind) :
    y.apply (x.apply r) = x.apply (y.apply r) := by
  cases hxk : x.entry.kind with
  | enumeration => exact absurd hxk hx
  | data =>
      cases hyk : y.entry.kind with
      | enumeration => exact absurd hyk hy
      | data => exact absurd (hxk.trans hyk.symm) hkind
      | managed => rw [apply_managed_of_apply hyk hname, apply_of_apply_managed hxk hyk hname]
  | managed =>
      cases hyk : y.entry.kind with
      | enumeration => exact absurd hyk hy
      | data => rw [apply_of_apply_managed hyk hxk hname.symm, apply_managed_of_apply hxk hname.symm]
      | managed => exact absurd (hxk.trans hyk.symm) hkind

/-! ### Runs -/

namespace Once

variable {xs ys : List Registration}

theorem eq_of_name (h : Once xs) (hx : x ∈ xs) (hy : y ∈ xs) (hkind : x.entry.kind = y.entry.kind)
    (hname : x.name = y.name) : x = y :=
  List.inj_on_of_nodup_map h.nodup hx hy (Prod.ext hkind hname)

theorem apply_comm (h : Once xs) (hx : x ∈ xs) (hy : y ∈ xs) (r : Registry) :
    y.apply (x.apply r) = x.apply (y.apply r) := by
  by_cases hname : x.name = y.name
  · by_cases hkind : x.entry.kind = y.entry.kind
    · rw [h.eq_of_name hx hy hkind hname]
    · exact apply_comm_of_kind_ne r (h.typed x hx) (h.typed y hy) hname hkind
  · exact apply_comm_of_ne r hname

theorem of_perm (h : Once xs) (hperm : xs.Perm ys) : Once ys where
  typed := fun y hy => h.typed y (hperm.mem_iff.mpr hy)
  nodup := (hperm.map _).nodup_iff.mp h.nodup

theorem run_eq_of_perm (h : Once xs) (hperm : xs.Perm ys) (r : Registry) : r.run xs = r.run ys :=
  hperm.foldl_eq' (fun _ hx _ hy r => h.apply_comm hx hy r) r

/-- Any of the registrations may as well be the last one. -/
theorem run_eq_apply (h : Once xs) (hx : x ∈ xs) (r : Registry) :
    ∃ rest : List Registration, Once (x :: rest) ∧ xs.Perm (x :: rest) ∧ r.run xs = x.apply (r.run rest) := by
  obtain ⟨before, after, rfl⟩ := List.append_of_mem hx
  have hfirst : (before ++ x :: after).Perm (x :: (before ++ after)) := List.perm_middle
  have hlast : (before ++ x :: after).Perm (before ++ after ++ [x]) :=
    hfirst.trans (List.perm_append_singleton x (before ++ after)).symm
  refine ⟨before ++ after, h.of_perm hfirst, hfirst, ?_⟩
  rw [h.run_eq_of_perm hlast, Registry.run, List.foldl_append]
  rfl

end Once

end Registration

namespace Registry

open Registration

variable {r : Registry} {xs : List Registration} {x : Registration} {name : String}

/-- A managed name keeps its entry as long as it is registered as data alone. -/
theorem entry?_run_of_isManaged (hmanaged : r.isManaged name = true)
    (hdata : ∀ x ∈ xs, x.name = name → x.entry.kind = .data) :
    entry? (r.run xs) name = r.entry? name := by
  induction xs generalizing r with
  | nil => rfl
  | cons x xs ih =>
      have hstep : entry? (x.apply r) name = r.entry? name := by
        by_cases hname : x.name = name
        · subst hname
          rw [entry?_apply_name, if_pos ⟨hdata x List.mem_cons_self rfl, hmanaged⟩]
        · exact entry?_apply_of_ne (Ne.symm hname)
      have hkept : (x.apply r).isManaged name = true := by
        rwa [isManaged_congr hstep]
      rw [run_cons, ih hkept fun y hy => hdata y (List.mem_cons_of_mem x hy), hstep]

theorem entry?_run_of_managed (h : Once xs) (hx : x ∈ xs) (hkind : x.entry.kind = .managed) :
    entry? (r.run xs) x.name = some x.entry := by
  obtain ⟨rest, _, _, hrun⟩ := h.run_eq_apply hx r
  rw [hrun, apply_of_managed _ hkind, entry?_put, if_pos rfl]

theorem entry?_run_of_data (h : Once xs) (hx : x ∈ xs) (hkind : x.entry.kind = .data)
    (hfree : r.isManaged x.name = false) (hother : ∀ y ∈ xs, y.name = x.name → y.entry.kind ≠ .managed) :
    entry? (r.run xs) x.name = some x.entry := by
  obtain ⟨rest, honce, hperm, hrun⟩ := h.run_eq_apply hx r
  -- Another registration of the name would be a second one as data.
  have hnot : x.name ∉ rest.map Registration.name := by
    intro hmem
    obtain ⟨y, hy, hname⟩ := List.mem_map.mp hmem
    have hymem : y ∈ xs := hperm.mem_iff.mpr (List.mem_cons_of_mem x hy)
    have hydata : y.entry.kind = .data := by
      cases hyk : y.entry.kind with
      | enumeration => exact absurd hyk (h.typed y hymem)
      | data => rfl
      | managed => exact absurd hyk (hother y hymem hname)
    have hnodup := honce.nodup
    rw [List.map_cons, List.nodup_cons] at hnodup
    exact hnodup.1 (List.mem_map.mpr ⟨y, hy, Prod.ext (hydata.trans hkind.symm) hname⟩)
  have hentry := entry?_run_of_not_mem (r := r) hnot
  have hrefused : ¬x.RefusedBy (r.run rest) := by
    rintro ⟨_, hmanaged⟩
    rw [isManaged_congr hentry, hfree] at hmanaged
    cases hmanaged
  rw [hrun, entry?_apply_name, if_neg hrefused]

/-- What a run leaves under each name: the entry of its managed registration, or else the managed entry
that was there before, or else the entry of its data registration, or else what was there before. -/
structure Settles (r : Registry) (xs : List Registration) (r' : Registry) : Prop where
  managed : ∀ name parent fields, .managed name parent fields ∈ xs →
    r'.entry? name = some ⟨.managed, parent, Table.ofEntries fields⟩
  kept : ∀ name, r.isManaged name = true → (∀ parent fields, .managed name parent fields ∉ xs) →
    r'.entry? name = r.entry? name
  data : ∀ name parent fields, .data name parent fields ∈ xs → r.isManaged name = false →
    (∀ parent fields, .managed name parent fields ∉ xs) →
    r'.entry? name = some ⟨.data, parent, Table.ofEntries fields⟩
  untouched : ∀ name, name ∉ xs.map Registration.name → r'.entry? name = r.entry? name

theorem kind_ne_managed_of_not_mem (h : ∀ parent fields, .managed name parent fields ∉ xs) :
    ∀ x ∈ xs, x.name = name → x.entry.kind ≠ .managed := by
  rintro x hx rfl hkind
  cases x with
  | enumeration name => cases hkind
  | data name parent fields => cases hkind
  | managed name parent fields => exact h parent fields hx

theorem settles_run (h : Once xs) (r : Registry) : r.Settles xs (r.run xs) where
  managed := fun _ _ _ hx => entry?_run_of_managed h hx rfl
  kept := by
    intro name hmanaged hother
    refine entry?_run_of_isManaged hmanaged fun x hx hname => ?_
    cases hkind : x.entry.kind with
    | enumeration => exact absurd hkind (h.typed x hx)
    | data => rfl
    | managed => exact absurd hkind (kind_ne_managed_of_not_mem hother x hx hname)
  data := fun _ _ _ hx hfree hother =>
    entry?_run_of_data h hx rfl hfree (kind_ne_managed_of_not_mem hother)
  untouched := fun _ hname => entry?_run_of_not_mem hname

/-- The order of the registrations makes no difference, and managed entries win. -/
theorem run_perm_settles {ys : List Registration} (honce : Once xs) (hperm : xs.Perm ys) (r : Registry) :
    r.run ys = r.run xs ∧ r.Settles xs (r.run ys) := by
  have hrun := (honce.run_eq_of_perm hperm r).symm
  refine ⟨hrun, ?_⟩
  rw [hrun]
  exact settles_run honce r

/-- A name that is registered both ways, and a managed name that is registered as data. -/
def collisions : List Registration :=
  [.managed "Folder" (some "ManagedObject") [(thisField, .managed "Folder")],
    .data "Folder" none [("name", .scalar "string")], .data "ManagedObject" (some "DynamicData") []]

theorem run_perm_settles_collisions :
    Once collisions ∧ collisions.Perm collisions.reverse ∧
      builtins.run collisions.reverse = builtins.run collisions ∧
      builtins.Settles collisions (builtins.run collisions.reverse) := by
  have honce : Once collisions := ⟨by decide, by decide⟩
  have hperm := (List.reverse_perm collisions).symm
  exact ⟨honce, hperm, run_perm_settles honce hperm builtins⟩

end Registry

end Vmodl
