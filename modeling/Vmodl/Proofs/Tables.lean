import Mathlib.Data.List.Nodup
import Vmodl.Table

/-!
# Laws of tables

A table is known by its look-ups. A table that is built from entries answers with the last entry of a
name, and it holds every name once, in ascending order.
-/

namespace Vmodl.Table

variable {α : Type u}

/-- The names ascend, so none repeats. -/
def Ordered (t : Table α) : Prop := List.Pairwise (fun e e' => e.1 < e'.1) t

@[simp] theorem ordered_nil : Ordered ([] : Table α) := List.Pairwise.nil

theorem mem_of_lookup {t : List (String × α)} {name : String} {a : α} (h : t.lookup name = some a) :
    (name, a) ∈ t := by
  obtain ⟨pre, post, rfl, _⟩ := List.lookup_eq_some_iff.mp h
  simp

theorem lookup_of_mem {t : List (String × α)} {name : String} {a : α} (hnodup : (t.map Prod.fst).Nodup)
    (h : (name, a) ∈ t) : t.lookup name = some a := by
  induction t with
  | nil => simp at h
  | cons e rest ih =>
      obtain ⟨n, b⟩ := e
      rw [List.map_cons, List.nodup_cons] at hnodup
      rcases List.mem_cons.mp h with heq | hrest
      · cases heq
        simp
      · have hne : name ≠ n := by
          rintro rfl
          exact hnodup.1 (List.mem_map.mpr ⟨(name, a), hrest, rfl⟩)
        have hbeq : (name == n) = false := beq_false_of_ne hne
        simp [List.lookup_cons, hbeq, ih hnodup.2 hrest]

theorem lookup_eq_none_iff_not_mem {t : List (String × α)} {name : String} :
    t.lookup name = none ↔ name ∉ t.map Prod.fst := by
  rw [List.lookup_eq_none_iff]
  constructor
  · intro h hmem
    obtain ⟨e, he, rfl⟩ := List.mem_map.mp hmem
    simpa using h e he
  · intro h e he
    have hne : name ≠ e.1 := fun heq => h (heq ▸ List.mem_map.mpr ⟨e, he, rfl⟩)
    simpa using hne

theorem lookup_insert (t : Table α) (name other : String) (a : α) :
    (insert t name a).lookup other = if other = name then some a else t.lookup other := by
  by_cases h : other = name
  · rw [if_pos h, h, lookup_insert_self]
  · rw [if_neg h, lookup_insert_of_ne t a h]

theorem mem_insert_subset {t : Table α} {name : String} {a : α} {e : String × α}
    (h : e ∈ insert t name a) : e = (name, a) ∨ e ∈ t := by
  induction t with
  | nil => simpa [insert] using h
  | cons e' rest ih =>
      obtain ⟨n, b⟩ := e'
      unfold insert at h
      split at h
      · exact List.mem_cons.mp h
      · split at h
        · rcases List.mem_cons.mp h with heq | hrest
          · exact Or.inl heq
          · exact Or.inr (List.mem_cons_of_mem _ hrest)
        · rcases List.mem_cons.mp h with heq | hrest
          · exact Or.inr (heq ▸ List.mem_cons_self)
          · exact (ih hrest).imp id (List.mem_cons_of_mem _)

theorem ordered_insert {t : Table α} (h : Ordered t) (name : String) (a : α) :
    Ordered (insert t name a) := by
  induction t with
  | nil => simp [insert, Ordered]
  | cons e rest ih =>
      obtain ⟨n, b⟩ := e
      obtain ⟨hhead, hrest⟩ := List.pairwise_cons.mp h
      unfold insert
      split
      · rename_i hlt
        refine List.pairwise_cons.mpr ⟨?_, h⟩
        intro e' he'
        rcases List.mem_cons.mp he' with rfl | he'
        · exact hlt
        · exact String.lt_trans hlt (hhead e' he')
      · split
        · rename_i heq
          exact List.pairwise_cons.mpr ⟨fun e' he' => heq ▸ hhead e' he', hrest⟩
        · rename_i hnlt hne
          have hlt : n < name := by
            by_contra hn
            exact hne (String.le_antisymm (String.not_lt.mp hn) (String.not_lt.mp hnlt))
          refine List.pairwise_cons.mpr ⟨?_, ih hrest⟩
          intro e' he'
          rcases mem_insert_subset he' with rfl | he'
          · exact hlt
          · exact hhead e' he'

theorem insert_cons_of_lt (t : Table α) {name n : String} (a b : α) (h : name < n) :
    insert ((n, b) :: t) name a = (name, a) :: (n, b) :: t := if_pos h

theorem insert_cons_self (t : Table α) (name : String) (a b : α) :
    insert ((name, b) :: t) name a = (name, a) :: t := by
  rw [insert, if_neg (String.lt_irrefl name), if_pos rfl]

theorem insert_cons_of_gt (t : Table α) {name n : String} (a b : α) (h : n < name) :
    insert ((n, b) :: t) name a = (n, b) :: insert t name a := by
  rw [insert, if_neg (String.lt_asymm h), if_neg (String.ne_of_lt h).symm]

theorem insert_insert_self (t : Table α) (name : String) (a b : α) :
    insert (insert t name a) name b = insert t name b := by
  induction t with
  | nil => exact insert_cons_self [] name b a
  | cons e t ih =>
      obtain ⟨n, c⟩ := e
      rcases Std.lt_trichotomy name n with h | rfl | h
      · rw [insert_cons_of_lt t a c h, insert_cons_self, insert_cons_of_lt t b c h]
      · rw [insert_cons_self, insert_cons_self, insert_cons_self]
      · rw [insert_cons_of_gt t a c h, insert_cons_of_gt _ b c h, insert_cons_of_gt t b c h, ih]

theorem insert_comm_of_lt (t : Table α) {name other : String} (a b : α) (h : name < other) :
    insert (insert t name a) other b = insert (insert t other b) name a := by
  induction t with
  | nil =>
      show insert [(name, a)] other b = insert [(other, b)] name a
      rw [insert_cons_of_gt [] b a h, insert_cons_of_lt [] a b h]
      rfl
  | cons e t ih =>
      -- The entry at hand comes before the first name, between the two, or after both, or is one of them.
      obtain ⟨n, c⟩ := e
      rcases Std.lt_trichotomy other n with hother | rfl | hother
      · have hname := String.lt_trans h hother
        rw [insert_cons_of_lt t a c hname, insert_cons_of_gt _ b a h, insert_cons_of_lt t b c hother,
          insert_cons_of_lt _ a b h]
      · rw [insert_cons_of_lt t a c h, insert_cons_of_gt _ b a h, insert_cons_self,
          insert_cons_of_lt t a b h]
      · rw [insert_cons_of_gt t b c hother]
        rcases Std.lt_trichotomy name n with hname | rfl | hname
        · rw [insert_cons_of_lt t a c hname, insert_cons_of_gt _ b a h, insert_cons_of_gt t b c hother,
            insert_cons_of_lt _ a c hname]
        · rw [insert_cons_self, insert_cons_of_gt t b a hother, insert_cons_self]
        · rw [insert_cons_of_gt t a c hname, insert_cons_of_gt _ b c hother, ih,
            insert_cons_of_gt _ a c hname]

/-- Entries under different names can be inserted in either order, whatever the table. -/
theorem insert_comm (t : Table α) {name other : String} (a b : α) (h : name ≠ other) :
    insert (insert t name a) other b = insert (insert t other b) name a := by
  rcases Std.lt_trichotomy name other with hlt | heq | hgt
  · exact insert_comm_of_lt t a b hlt
  · exact absurd heq h
  · exact (insert_comm_of_lt t b a hgt).symm

theorem lookup_foldl_insert (entries : List (String × α)) (t : Table α) (name : String) :
    (entries.foldl (fun t e => insert t e.1 e.2) t).lookup name =
      (entries.reverse.lookup name).or (t.lookup name) := by
  induction entries generalizing t with
  | nil => simp
  | cons e rest ih =>
      obtain ⟨n, b⟩ := e
      rw [List.foldl_cons, ih, List.reverse_cons, List.lookup_append, lookup_insert, Option.or_assoc]
      congr 1
      by_cases h : name = n
      · simp [h]
      · have hbeq : (name == n) = false := beq_false_of_ne h
        simp [List.lookup_cons, h, hbeq]

theorem lookup_ofEntries (entries : List (String × α)) (name : String) :
    (ofEntries entries).lookup name = entries.reverse.lookup name := by
  rw [ofEntries, lookup_foldl_insert, List.lookup_nil, Option.or_none]

/-- Where no name repeats, the order of the entries does not count. -/
theorem lookup_ofEntries_of_nodup {entries : List (String × α)}
    (hnodup : (entries.map Prod.fst).Nodup) (name : String) :
    (ofEntries entries).lookup name = entries.lookup name := by
  rw [lookup_ofEntries]
  have hreverse : (entries.reverse.map Prod.fst).Nodup := by
    rw [List.map_reverse]
    exact List.nodup_reverse.mpr hnodup
  cases h : entries.lookup name with
  | some a => exact lookup_of_mem hreverse (List.mem_reverse.mpr (mem_of_lookup h))
  | none =>
      rw [lookup_eq_none_iff_not_mem, List.map_reverse, List.mem_reverse]
      exact lookup_eq_none_iff_not_mem.mp h

theorem ordered_foldl_insert (entries : List (String × α)) {t : Table α} (h : Ordered t) :
    Ordered (entries.foldl (fun t e => insert t e.1 e.2) t) := by
  induction entries generalizing t with
  | nil => exact h
  | cons e rest ih => exact ih (ordered_insert h e.1 e.2)

theorem ordered_ofEntries (entries : List (String × α)) : Ordered (ofEntries entries) :=
  ordered_foldl_insert entries ordered_nil

theorem mem_names_ofEntries {entries : List (String × α)} {name : String} :
    name ∈ (ofEntries entries).names ↔ name ∈ entries.map Prod.fst := by
  rw [← not_iff_not]
  refine lookup_eq_none_iff_not_mem.symm.trans ?_
  rw [lookup_ofEntries, lookup_eq_none_iff_not_mem, List.map_reverse, List.mem_reverse]

/-! ### Ordered tables -/

theorem Ordered.nodup_names {t : Table α} (h : Ordered t) : t.names.Nodup :=
  (List.pairwise_map.mpr h).imp String.ne_of_lt

/-- A name that is in an ordered table has one entry there. -/
theorem Ordered.filter_eq_singleton {t : Table α} (h : Ordered t) {name : String} {a : α}
    (ha : t.lookup name = some a) : (t.filter fun e => e.1 == name) = [(name, a)] := by
  obtain ⟨pre, post, rfl, hpre⟩ := List.lookup_eq_some_iff.mp ha
  have hpost : ∀ e ∈ post, ¬(e.1 == name) = true := by
    intro e he
    have hlt : name < e.1 :=
      (List.pairwise_cons.mp (List.pairwise_append.mp h).2.1).1 e he
    simpa using (String.ne_of_lt hlt).symm
  have hpre' : ∀ e ∈ pre, ¬(e.1 == name) = true := by
    intro e he
    have hne : name ≠ e.1 := by simpa using hpre e he
    simpa using hne.symm
  rw [List.filter_append, List.filter_cons_of_pos (by simp), List.filter_eq_nil_iff.mpr hpre',
    List.filter_eq_nil_iff.mpr hpost, List.nil_append]

theorem lookup_filter (t : Table α) (p : String → Bool) (name : String) :
    List.lookup name (t.filter fun e => p e.1) = if p name then t.lookup name else none := by
  induction t with
  | nil => simp
  | cons e rest ih =>
      obtain ⟨n, b⟩ := e
      by_cases hn : name = n
      · subst hn
        cases hp : p name with
        | true => simp [hp]
        | false =>
            rw [List.filter_cons_of_neg (by simp [hp]), ih, hp]
            rfl
      · have hbeq : (name == n) = false := beq_false_of_ne hn
        cases hp : p n with
        | true =>
            rw [List.filter_cons_of_pos (by simp [hp])]
            simp only [List.lookup_cons, hbeq, ih]
        | false =>
            rw [List.filter_cons_of_neg (by simp [hp]), ih]
            simp only [List.lookup_cons, hbeq]

theorem lookup_erase (t : Table α) (name other : String) :
    (erase t name).lookup other = if other = name then none else t.lookup other := by
  rw [erase, lookup_filter t (· != name)]
  by_cases h : other = name <;> simp [h]

end Vmodl.Table
