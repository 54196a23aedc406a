/-!
# Tables

A table is a list of entries in the order of their names, each name once. `Table.insert` and
`Table.erase` keep that form.
-/

namespace Vmodl

abbrev Table (α : Type u) := List (String × α)

namespace Table

variable {α : Type u}

def insert (t : Table α) (name : String) (a : α) : Table α :=
  match t with
  | [] => [(name, a)]
  | (n, b) :: rest =>
    if name < n then (name, a) :: (n, b) :: rest
    else if name = n then (name, a) :: rest
    else (n, b) :: insert rest name a

def erase (t : Table α) (name : String) : Table α := t.filter fun e => e.1 != name

/-- The table of a list of entries, of which the last one for a name counts. -/
def ofEntries (entries : List (String × α)) : Table α :=
  entries.foldl (fun t e => insert t e.1 e.2) []

def names (t : Table α) : List String := t.map Prod.fst

def contains (t : Table α) (name : String) : Bool := (t.lookup name).isSome

@[simp] theorem lookup_insert_self (t : Table α) (name : String) (a : α) :
    (insert t name a).lookup name = some a := by
  induction t with
  | nil => simp [insert]
  | cons e rest ih =>
    obtain ⟨n, b⟩ := e
    unfold insert
    split
    · simp
    · split
      · simp
      · rename_i _ hne
        have hbeq : (name == n) = false := beq_false_of_ne hne
        simp [List.lookup_cons, hbeq, ih]

theorem lookup_insert_of_ne (t : Table α) {name other : String} (a : α) (h : other ≠ name) :
    (insert t name a).lookup other = t.lookup other := by
  have hbeq : (other == name) = false := beq_false_of_ne h
  induction t with
  | nil => simp [insert, List.lookup_cons, hbeq]
  | cons e rest ih =>
    obtain ⟨n, b⟩ := e
    unfold insert
    split
    · simp [List.lookup_cons, hbeq]
    · split
      · rename_i _ heq
        subst heq
        simp [List.lookup_cons, hbeq]
      · simp only [List.lookup_cons]
        split
        · rfl
        · exact ih

end Table

end Vmodl
