import Mathlib.Data.List.Find
import Mathlib.Logic.Relation
import Vmodl.Proofs.Outcomes
import Vmodl.Schema.Reader

/-!
# What a schema document may leave out

What a member or an item of a document may leave out it may also set to null, and a parent may be the
empty text. An omission takes one such thing away, anywhere in the document. Documents that omissions
lead to from each other, forwards and backwards, are read as the same schema.
-/

namespace Vmodl.Schema

open Json (Draft Flaw)

/-- `R d d'` says that `d'` leaves out one thing that `d` has. -/
abbrev Omission := Draft → Draft → Prop

namespace Omission

inductive InList (R : Omission) : Omission
  | intro (before after : List Draft) (flaw : Option Flaw) {d d' : Draft} (h : R d d') :
      InList R (.array (before ++ d :: after) flaw) (.array (before ++ d' :: after) flaw)

/-- An omission in something with named parts, which is an object or an array with the parts in their
order: a part that is spare there, or something inside of a part. No name stands twice in an object. -/
inductive InParts (names : List String) (spare : String → Draft → Prop) (inner : String → Omission) :
    Omission
  | member (before after : List (Except Flaw String × Draft)) (flaw : Option Flaw) {name : String}
      {d : Draft} (hspare : spare name d) (hname : .ok name ∉ (before ++ after).map Prod.fst) :
      InParts names spare inner (.object (before ++ (.ok name, d) :: after) flaw)
        (.object (before ++ after) flaw)
  | last (items : List Draft) (flaw : Option Flaw) {name : String} {d : Draft} (hspare : spare name d)
      (hname : names[items.length]? = some name) :
      InParts names spare inner (.array (items ++ [d]) flaw) (.array items flaw)
  | inMember (before after : List (Except Flaw String × Draft)) (flaw : Option Flaw) {name : String}
      {d d' : Draft} (h : inner name d d') :
      InParts names spare inner (.object (before ++ (.ok name, d) :: after) flaw)
        (.object (before ++ (.ok name, d') :: after) flaw)
  | inItem (before after : List Draft) (flaw : Option Flaw) {name : String} {d d' : Draft}
      (h : inner name d d') (hname : names[before.length]? = some name) :
      InParts names spare inner (.array (before ++ d :: after) flaw)
        (.array (before ++ d' :: after) flaw)

def nullAt (parts : List String) (part : String) (d : Draft) : Prop := part ∈ parts ∧ d = .null

/-- For a parent, the empty text stands for none. -/
def noParent (part : String) (d : Draft) : Prop := part = "parent" ∧ d = .string (.ok "")

def property : Omission :=
  InParts ["name", "type", "version", "flags", "extra"] (nullAt ["version", "flags", "extra"])
    fun _ _ _ => False

def result : Omission := InParts ["flags", "type", "alias"] (nullAt ["alias"]) fun _ _ _ => False

def method : Omission :=
  InParts ["name", "wire", "version", "params", "result", "extra", "faults"]
    (nullAt ["version", "params", "result", "extra", "faults"])
    fun part d d' => part = "params" ∧ InList property d d' ∨ part = "result" ∧ result d d'

def enumeration : Omission :=
  InParts ["vmodlName", "wsdlName", "version", "values"] (nullAt ["version", "values"])
    fun _ _ _ => False

def data : Omission :=
  InParts ["vmodlName", "wsdlName", "version", "parent", "props"]
    (fun part d => nullAt ["version", "parent", "props"] part d ∨ noParent part d)
    fun part d d' => part = "props" ∧ InList property d d'

def managed : Omission :=
  InParts ["vmodlName", "wsdlName", "version", "parent", "props", "methods"]
    (fun part d => nullAt ["version", "parent", "props", "methods"] part d ∨ noParent part d)
    fun part d d' => part = "props" ∧ InList property d d' ∨ part = "methods" ∧ InList method d d'

def document : Omission :=
  InParts ["breakingChanges", "dataTypes", "enumTypes", "managedTypes", "versions"]
    (fun _ _ => False)
    fun part d d' => part = "dataTypes" ∧ InList data d d' ∨
      part = "enumTypes" ∧ InList enumeration d d' ∨
      part = "managedTypes" ∧ InList managed d d'

end Omission

/-- Texts of whole documents that differ by omissions, any number of them in either direction. -/
structure SameDocument (s s' : String) : Prop where
  whole : (Draft.ofText s).2 = none
  whole' : (Draft.ofText s').2 = none
  omissions : Relation.EqvGen Omission.document (Draft.ofText s).1 (Draft.ofText s').1

/-! ### Parts of a layout -/

namespace Layout

variable {σ : Type} {l : Layout σ} {name : String} {d d' : Draft} {s : σ} {flaw : Option Flaw}

/-- A part that makes no difference, whether it is read before other parts or after them. -/
structure Spares (l : Layout σ) (name : String) (d : Draft) : Prop where
  optional : name ∈ l.names.drop l.required
  start : l.put l.start name d = .ok l.start
  keep : ∀ {other e s s'}, other ∈ l.names → other ≠ name → l.put s other e = .ok s' →
    l.put s name d = .ok s → l.put s' name d = .ok s'

/-- Values of a part between which the layout makes no difference. -/
structure Equates (l : Layout σ) (name : String) (d d' : Draft) : Prop where
  mem : name ∈ l.names
  put_eq : ∀ s, l.put s name d = l.put s name d'

/-- A part is spare if it sets a field of its own to what the field is at the start. -/
theorem Spares.of_field {α : Type} (get : σ → α) (set : σ → α → σ)
    (hoptional : name ∈ l.names.drop l.required)
    (hframe : ∀ {other e s s'}, other ∈ l.names → other ≠ name → l.put s other e = .ok s' →
      get s' = get s)
    (hput : ∀ s, l.put s name d = .ok (set s (get l.start)))
    (hget : ∀ s a, get (set s a) = a)
    (hset : ∀ s, set s (get s) = s) : l.Spares name d where
  optional := hoptional
  start := by rw [hput, hset]
  keep := by
    intro other e s s' hother hne hs' hs
    have hstart : get s = get l.start := by
      rw [hput, Except.ok.injEq] at hs
      rw [← hs, hget]
    rw [hput, ← hstart, ← hframe hother hne hs', hset]

theorem Equates.of_read {α : Type} {read : Reader α} (set : σ → α → σ) (hmem : name ∈ l.names)
    (hread : read d = read d')
    (hput : ∀ s d, l.put s name d = (do return set s (← read d))) :
    l.Equates name d d' where
  mem := hmem
  put_eq s := by rw [hput, hput, hread]

theorem readItems_append (hspares : l.Spares name d) {count : Nat} {names : List String}
    {items : List Draft} (hnames : names ⊆ l.names) (hnodup : names.Nodup)
    (hname : names[items.length]? = some name) (hcount : l.required ≤ count + items.length)
    (hs : l.put s name d = .ok s) :
    l.readItems s count flaw names (items ++ [d]) = l.readItems s count flaw names items := by
  induction items generalizing s count names with
  | nil =>
      obtain ⟨rest, rfl⟩ : ∃ rest, names = name :: rest := by
        cases names with
        | nil => cases hname
        | cons n rest => exact ⟨rest, by rw [Option.some.inj hname]⟩
      have henough : ¬count < l.required := by simpa using hcount
      have hmore : ¬count + 1 < l.required := by omega
      cases rest <;> cases flaw <;>
        simp [readItems, hs, flawed, Outcome.error_bind, henough, hmore]
  | cons item items ih =>
      cases names with
      | nil => cases hname
      | cons n names =>
          obtain ⟨hmem, hrest⟩ := List.cons_subset.mp hnames
          obtain ⟨hnot, hnodup⟩ := List.nodup_cons.mp hnodup
          have hne : n ≠ name := fun heq => hnot (heq ▸ List.mem_of_getElem? hname)
          rw [List.cons_append, readItems, readItems]
          rw [List.length_cons] at hcount
          cases hput : l.put s n item with
          | error e => rfl
          | ok s' =>
              apply ih hrest hnodup hname
              · omega
              · exact hspares.keep hmem hne hput hs

theorem readItems_congr (hequates : l.Equates name d d') {count : Nat} {names : List String}
    {before after : List Draft} (hname : names[before.length]? = some name) :
    l.readItems s count flaw names (before ++ d :: after) =
      l.readItems s count flaw names (before ++ d' :: after) := by
  induction before generalizing s count names with
  | nil =>
      cases names with
      | nil => cases hname
      | cons n names =>
          cases hname
          simp only [List.nil_append, readItems, hequates.put_eq]
  | cons item before ih =>
      cases names with
      | nil => cases hname
      | cons n names =>
          rw [List.cons_append, List.cons_append, readItems, readItems]
          cases l.put s n item with
          | error e => rfl
          | ok s' => exact ih hname

/-- Whether an optional part was met before makes no difference to members with other names. -/
theorem readMembers_congr_seen (hoptional : name ∉ l.names.take l.required)
    {seen seen' : List String} {members : List (Except Flaw String × Draft)}
    (hname : .ok name ∉ members.map Prod.fst)
    (hseen : ∀ n ≠ name, seen.contains n = seen'.contains n) :
    l.readMembers s seen flaw members = l.readMembers s seen' flaw members := by
  induction members generalizing s seen seen' with
  | nil =>
      have hfind : (l.names.take l.required).find? (fun n => !seen.contains n) =
          (l.names.take l.required).find? fun n => !seen'.contains n :=
        List.find?_congr fun n hn => by rw [hseen n (ne_of_mem_of_not_mem hn hoptional)]
      simp only [readMembers, hfind]
  | cons m members ih =>
      obtain ⟨n, e⟩ := m
      rw [List.map_cons, List.mem_cons, not_or] at hname
      cases n with
      | error flaw => rfl
      | ok n =>
          have hne : n ≠ name := fun heq => hname.1 (by rw [heq])
          have hskip := fun s => ih (s := s) hname.2 hseen
          have hput : ∀ s, l.readMembers s (n :: seen) flaw members =
              l.readMembers s (n :: seen') flaw members := by
            intro s
            apply ih hname.2
            intro n' hn'
            simp only [List.contains_cons, hseen n' hn']
          simp only [readMembers, hseen n hne, hput, hskip]

theorem readMembers_append (hspares : l.Spares name d) (hnodup : l.names.Nodup) {seen : List String}
    {before after : List (Except Flaw String × Draft)}
    (hname : .ok name ∉ (before ++ after).map Prod.fst) (hfresh : name ∉ seen)
    (hs : l.put s name d = .ok s) :
    l.readMembers s seen flaw (before ++ (.ok name, d) :: after) =
      l.readMembers s seen flaw (before ++ after) := by
  induction before generalizing s seen with
  | nil =>
      have hmem : name ∈ l.names := List.mem_of_mem_drop hspares.optional
      have hoptional : name ∉ l.names.take l.required := fun htake =>
        List.disjoint_take_drop hnodup (Nat.le_refl _) htake hspares.optional
      have hafter : l.readMembers s (name :: seen) flaw after = l.readMembers s seen flaw after := by
        apply readMembers_congr_seen hoptional hname
        intro n hn
        simp [hn]
      simp [readMembers, hmem, hfresh, hs, hafter]
  | cons m before ih =>
      obtain ⟨n, e⟩ := m
      rw [List.cons_append, List.map_cons, List.mem_cons, not_or] at hname
      cases n with
      | error flaw => rfl
      | ok n =>
          have hne : n ≠ name := fun heq => hname.1 (by rw [heq])
          rw [List.cons_append, List.cons_append, readMembers, readMembers]
          split
          · rename_i hmem
            split
            · rfl
            · cases hput : l.put s n e with
              | error e => rfl
              | ok s' =>
                  apply ih hname.2
                  · simp [hfresh, hne.symm]
                  · exact hspares.keep (List.contains_iff_mem.mp hmem) hne hput hs
          · split
            · rfl
            · exact ih hname.2 hfresh hs

theorem readMembers_congr (hequates : l.Equates name d d') {seen : List String}
    {before after : List (Except Flaw String × Draft)} :
    l.readMembers s seen flaw (before ++ (.ok name, d) :: after) =
      l.readMembers s seen flaw (before ++ (.ok name, d') :: after) := by
  induction before generalizing s seen with
  | nil => simp [readMembers, hequates.mem, hequates.put_eq]
  | cons m before ih =>
      obtain ⟨n, e⟩ := m
      rw [List.cons_append, List.cons_append]
      cases n with
      | error flaw => rfl
      | ok n => simp only [readMembers, ih]

/-- An omission in the parts of a layout makes no difference to it if the parts do not. -/
theorem read_eq_of_inParts {spare : String → Draft → Prop} {inner : String → Omission}
    (hnodup : l.names.Nodup) (hspare : ∀ {name d}, spare name d → l.Spares name d)
    (hinner : ∀ {name d d'}, inner name d d' → l.Equates name d d')
    (h : Omission.InParts l.names spare inner d d') :
    l.readRecord d = l.readRecord d' ∧ l.readRow d = l.readRow d' := by
  cases h with
  | member before after flaw hdrop hname =>
      have hspares := hspare hdrop
      exact ⟨readMembers_append hspares hnodup hname List.not_mem_nil hspares.start, rfl⟩
  | @last items flaw name d hdrop hname =>
      have hspares := hspare hdrop
      -- A part that may be left out comes after those that may not.
      have hcount : l.required ≤ items.length := by
        by_contra hlt
        have htake : (l.names.take l.required)[items.length]? = some name := by
          rw [List.getElem?_take_of_lt (by omega), hname]
        exact List.disjoint_take_drop hnodup (Nat.le_refl _) (List.mem_of_getElem? htake)
          hspares.optional
      have hitems : l.readItems l.start 0 flaw l.names (items ++ [d]) =
          l.readItems l.start 0 flaw l.names items := by
        apply readItems_append hspares (List.Subset.refl l.names) hnodup hname
        · omega
        · exact hspares.start
      exact ⟨hitems, hitems⟩
  | inMember before after flaw homission => exact ⟨readMembers_congr (hinner homission), rfl⟩
  | inItem before after flaw homission hname =>
      constructor
      · exact readItems_congr (hinner homission) hname
      · exact readItems_congr (hinner homission) hname

end Layout

theorem readList_eq_of_inList {α : Type} {read : Reader α} {R : Omission}
    (hread : ∀ d d', R d d' → read d = read d') {d d' : Draft} (h : Omission.InList R d d') :
    readList read d = readList read d' := by
  obtain ⟨before, after, flaw, hitem⟩ := h
  simp only [readList, List.mapM_append, List.mapM_cons, hread _ _ hitem]

theorem readListOrNull_eq_of_inList {α : Type} {read : Reader α} {R : Omission}
    (hread : ∀ d d', R d d' → read d = read d') {d d' : Draft} (h : Omission.InList R d d') :
    readListOrNull read d = readListOrNull read d' := by
  have hlist := readList_eq_of_inList hread h
  obtain ⟨before, after, flaw, hitem⟩ := h
  simp only [readListOrNull, readOptional, hlist]

theorem readOptional_eq_of_inParts {α : Type} {read : Reader α} {names : List String}
    {spare : String → Draft → Prop} {inner : String → Omission} {d d' : Draft}
    (hread : read d = read d') (h : Omission.InParts names spare inner d d') :
    readOptional read d = readOptional read d' := by
  cases h <;> simp only [readOptional, hread]

theorem frame_property {depth : Nat} {p p' : Property} {part : String} {d : Draft}
    (hpart : part ∈ (propertyLayout depth).names) (h : (propertyLayout depth).put p part d = .ok p') :
    (part ≠ "version" → p'.version = p.version) ∧ (part ≠ "flags" → p'.flags = p.flags) ∧
      (part ≠ "extra" → p'.extra = p.extra) := by
  simp only [propertyLayout, List.mem_cons, List.not_mem_nil, or_false] at hpart
  rcases hpart with rfl | rfl | rfl | rfl | rfl <;>
  · obtain ⟨a, -, hp⟩ := Outcome.bind_eq_ok_iff.mp h
    cases hp
    simp

theorem spares_property {depth : Nat} {name : String} {d : Draft}
    (h : Omission.nullAt ["version", "flags", "extra"] name d) :
    (propertyLayout depth).Spares name d := by
  obtain ⟨hname, rfl⟩ := h
  have hoptional : name ∈ (propertyLayout depth).names.drop (propertyLayout depth).required := hname
  simp only [List.mem_cons, List.not_mem_nil, or_false] at hname
  rcases hname with rfl | rfl | rfl
  · exact .of_field (·.version) (fun p a => { p with version := a }) hoptional
      (fun hother hne h => (frame_property hother h).1 hne) (fun _ => rfl) (fun _ _ => rfl) fun _ => rfl
  · exact .of_field (·.flags) (fun p a => { p with flags := a }) hoptional
      (fun hother hne h => (frame_property hother h).2.1 hne) (fun _ => rfl) (fun _ _ => rfl) fun _ => rfl
  · exact .of_field (·.extra) (fun p a => { p with extra := a }) hoptional
      (fun hother hne h => (frame_property hother h).2.2 hne) (fun _ => rfl) (fun _ _ => rfl) fun _ => rfl

theorem readProperty_eq_of_omission (depth : Nat) (d d' : Draft) (h : Omission.property d d') :
    readProperty depth d = readProperty depth d' :=
  (Layout.read_eq_of_inParts (l := propertyLayout depth) (by simp [propertyLayout]) spares_property
    False.elim h).2

theorem frame_result {r r' : PropertyFlags × String × Option String} {part : String} {d : Draft}
    (hpart : part ∈ resultLayout.names) (h : resultLayout.put r part d = .ok r') :
    part ≠ "alias" → r'.2.2 = r.2.2 := by
  simp only [resultLayout, List.mem_cons, List.not_mem_nil, or_false] at hpart
  rcases hpart with rfl | rfl | rfl <;>
  · obtain ⟨a, -, hr⟩ := Outcome.bind_eq_ok_iff.mp h
    cases hr
    simp

theorem spares_result {name : String} {d : Draft} (h : Omission.nullAt ["alias"] name d) :
    resultLayout.Spares name d := by
  obtain ⟨hname, rfl⟩ := h
  have hoptional : name ∈ resultLayout.names.drop resultLayout.required := hname
  cases List.mem_singleton.mp hname
  exact .of_field (·.2.2) (fun r a => (r.1, r.2.1, a)) hoptional
    (fun hother hne h => frame_result hother h hne) (fun _ => rfl) (fun _ _ => rfl) fun _ => rfl

theorem readResult_eq_of_omission (d d' : Draft) (h : Omission.result d d') :
    readResult d = readResult d' := by
  have hrow := (Layout.read_eq_of_inParts (l := resultLayout) (by decide) spares_result False.elim h).2
  simp only [readResult, hrow]

theorem frame_method {depth : Nat} {m m' : Method} {part : String} {d : Draft}
    (hpart : part ∈ (methodLayout depth).names) (h : (methodLayout depth).put m part d = .ok m') :
    (part ≠ "version" → m'.version = m.version) ∧
    (part ≠ "params" → m'.parameters = m.parameters) ∧
      (part ≠ "result" → m'.result = m.result) ∧ (part ≠ "extra" → m'.extra = m.extra) ∧
        (part ≠ "faults" → m'.faults = m.faults) := by
  simp only [methodLayout, List.mem_cons, List.not_mem_nil, or_false] at hpart
  rcases hpart with rfl | rfl | rfl | rfl | rfl | rfl | rfl <;>
  · obtain ⟨a, -, hm⟩ := Outcome.bind_eq_ok_iff.mp h
    cases hm
    simp

theorem spares_method {depth : Nat} {name : String} {d : Draft}
    (h : Omission.nullAt ["version", "params", "result", "extra", "faults"] name d) :
    (methodLayout depth).Spares name d := by
  obtain ⟨hname, rfl⟩ := h
  have hoptional : name ∈ (methodLayout depth).names.drop (methodLayout depth).required := hname
  simp only [List.mem_cons, List.not_mem_nil, or_false] at hname
  rcases hname with rfl | rfl | rfl | rfl | rfl
  · exact .of_field (·.version) (fun m a => { m with version := a }) hoptional
      (fun hother hne h => (frame_method hother h).1 hne) (fun _ => rfl) (fun _ _ => rfl) fun _ => rfl
  · exact .of_field (·.parameters) (fun m a => { m with parameters := a }) hoptional
      (fun hother hne h => (frame_method hother h).2.1 hne) (fun _ => rfl) (fun _ _ => rfl) fun _ => rfl
  · exact .of_field (·.result) (fun m a => { m with result := a }) hoptional
      (fun hother hne h => (frame_method hother h).2.2.1 hne) (fun _ => rfl) (fun _ _ => rfl) fun _ => rfl
  · exact .of_field (·.extra) (fun m a => { m with extra := a }) hoptional
      (fun hother hne h => (frame_method hother h).2.2.2.1 hne) (fun _ => rfl) (fun _ _ => rfl) fun _ => rfl
  · exact .of_field (·.faults) (fun m a => { m with faults := a }) hoptional
      (fun hother hne h => (frame_method hother h).2.2.2.2 hne) (fun _ => rfl) (fun _ _ => rfl) fun _ => rfl

theorem readMethod_eq_of_omission (depth : Nat) (d d' : Draft) (h : Omission.method d d') :
    readMethod depth d = readMethod depth d' := by
  refine (Layout.read_eq_of_inParts (l := methodLayout depth) ?_ spares_method ?_ h).2
  · simp [methodLayout]
  · rintro _ d d' (⟨rfl, hparameters⟩ | ⟨rfl, hresult⟩)
    · have hread := readListOrNull_eq_of_inList (readProperty_eq_of_omission (depth + 2)) hparameters
      exact .of_read (fun m a => { m with parameters := a }) (by simp [methodLayout]) hread fun _ _ => rfl
    · have hread := readOptional_eq_of_inParts (readResult_eq_of_omission d d' hresult) hresult
      exact .of_read (fun m a => { m with result := a.getD .void }) (by simp [methodLayout])
        hread fun _ _ => rfl

theorem frame_enumeration {t t' : EnumDecl} {part : String} {d : Draft} (hpart : part ∈ enumLayout.names)
    (h : enumLayout.put t part d = .ok t') :
    (part ≠ "version" → t'.version = t.version) ∧ (part ≠ "values" → t'.values = t.values) := by
  simp only [enumLayout, List.mem_cons, List.not_mem_nil, or_false] at hpart
  rcases hpart with rfl | rfl | rfl | rfl <;>
  · obtain ⟨a, -, ht⟩ := Outcome.bind_eq_ok_iff.mp h
    cases ht
    simp

theorem spares_enumeration {name : String} {d : Draft} (h : Omission.nullAt ["version", "values"] name d) :
    enumLayout.Spares name d := by
  obtain ⟨hname, rfl⟩ := h
  have hoptional : name ∈ enumLayout.names.drop enumLayout.required := hname
  simp only [List.mem_cons, List.not_mem_nil, or_false] at hname
  rcases hname with rfl | rfl
  · exact .of_field (·.version) (fun t a => { t with version := a }) hoptional
      (fun hother hne h => (frame_enumeration hother h).1 hne) (fun _ => rfl) (fun _ _ => rfl) fun _ => rfl
  · exact .of_field (·.values) (fun t a => { t with values := a }) hoptional
      (fun hother hne h => (frame_enumeration hother h).2 hne) (fun _ => rfl) (fun _ _ => rfl) fun _ => rfl

theorem readEnumeration_eq_of_omission (d d' : Draft) (h : Omission.enumeration d d') :
    enumLayout.readRecord d = enumLayout.readRecord d' :=
  (Layout.read_eq_of_inParts (l := enumLayout) (by decide) spares_enumeration False.elim h).1

theorem frame_data {t t' : DataDecl} {part : String} {d : Draft} (hpart : part ∈ dataLayout.names)
    (h : dataLayout.put t part d = .ok t') :
    (part ≠ "version" → t'.version = t.version) ∧ (part ≠ "parent" → t'.parent = t.parent) ∧
      (part ≠ "props" → t'.fields = t.fields) := by
  simp only [dataLayout, List.mem_cons, List.not_mem_nil, or_false] at hpart
  rcases hpart with rfl | rfl | rfl | rfl | rfl <;>
  · obtain ⟨a, -, ht⟩ := Outcome.bind_eq_ok_iff.mp h
    cases ht
    simp

theorem spares_data {name : String} {d : Draft}
    (h : Omission.nullAt ["version", "parent", "props"] name d ∨ Omission.noParent name d) :
    dataLayout.Spares name d := by
  rcases h with ⟨hname, rfl⟩ | ⟨rfl, rfl⟩
  · have hoptional : name ∈ dataLayout.names.drop dataLayout.required := hname
    simp only [List.mem_cons, List.not_mem_nil, or_false] at hname
    rcases hname with rfl | rfl | rfl
    · exact .of_field (·.version) (fun t a => { t with version := a }) hoptional
        (fun hother hne h => (frame_data hother h).1 hne) (fun _ => rfl) (fun _ _ => rfl) fun _ => rfl
    · exact .of_field (·.parent) (fun t a => { t with parent := a }) hoptional
        (fun hother hne h => (frame_data hother h).2.1 hne) (fun _ => rfl) (fun _ _ => rfl) fun _ => rfl
    · exact .of_field (·.fields) (fun t a => { t with fields := a }) hoptional
        (fun hother hne h => (frame_data hother h).2.2 hne) (fun _ => rfl) (fun _ _ => rfl) fun _ => rfl
  · exact .of_field (·.parent) (fun t a => { t with parent := a }) (by decide)
      (fun hother hne h => (frame_data hother h).2.1 hne) (fun _ => rfl) (fun _ _ => rfl) fun _ => rfl

theorem readData_eq_of_omission (d d' : Draft) (h : Omission.data d d') :
    dataLayout.readRecord d = dataLayout.readRecord d' := by
  refine (Layout.read_eq_of_inParts (l := dataLayout) (by decide) spares_data ?_ h).1
  rintro _ d d' ⟨rfl, hfields⟩
  have hread := readListOrNull_eq_of_inList (readProperty_eq_of_omission 4) hfields
  exact .of_read (fun t a => { t with fields := a }) (by decide) hread fun _ _ => rfl

theorem frame_managed {t t' : ManagedDecl} {part : String} {d : Draft}
    (hpart : part ∈ managedLayout.names) (h : managedLayout.put t part d = .ok t') :
    (part ≠ "version" → t'.version = t.version) ∧ (part ≠ "parent" → t'.parent = t.parent) ∧
      (part ≠ "props" → t'.fields = t.fields) ∧ (part ≠ "methods" → t'.methods = t.methods) := by
  simp only [managedLayout, List.mem_cons, List.not_mem_nil, or_false] at hpart
  rcases hpart with rfl | rfl | rfl | rfl | rfl | rfl <;>
  · obtain ⟨a, -, ht⟩ := Outcome.bind_eq_ok_iff.mp h
    cases ht
    simp

theorem spares_managed {name : String} {d : Draft}
    (h : Omission.nullAt ["version", "parent", "props", "methods"] name d ∨ Omission.noParent name d) :
    managedLayout.Spares name d := by
  rcases h with ⟨hname, rfl⟩ | ⟨rfl, rfl⟩
  · have hoptional : name ∈ managedLayout.names.drop managedLayout.required := hname
    simp only [List.mem_cons, List.not_mem_nil, or_false] at hname
    rcases hname with rfl | rfl | rfl | rfl
    · exact .of_field (·.version) (fun t a => { t with version := a }) hoptional
        (fun hother hne h => (frame_managed hother h).1 hne) (fun _ => rfl) (fun _ _ => rfl) fun _ => rfl
    · exact .of_field (·.parent) (fun t a => { t with parent := a }) hoptional
        (fun hother hne h => (frame_managed hother h).2.1 hne) (fun _ => rfl) (fun _ _ => rfl) fun _ => rfl
    · exact .of_field (·.fields) (fun t a => { t with fields := a }) hoptional
        (fun hother hne h => (frame_managed hother h).2.2.1 hne) (fun _ => rfl) (fun _ _ => rfl)
          fun _ => rfl
    · exact .of_field (·.methods) (fun t a => { t with methods := a }) hoptional
        (fun hother hne h => (frame_managed hother h).2.2.2 hne) (fun _ => rfl) (fun _ _ => rfl)
          fun _ => rfl
  · exact .of_field (·.parent) (fun t a => { t with parent := a }) (by decide)
      (fun hother hne h => (frame_managed hother h).2.1 hne) (fun _ => rfl) (fun _ _ => rfl) fun _ => rfl

theorem readManaged_eq_of_omission (d d' : Draft) (h : Omission.managed d d') :
    managedLayout.readRecord d = managedLayout.readRecord d' := by
  refine (Layout.read_eq_of_inParts (l := managedLayout) (by decide) spares_managed ?_ h).1
  rintro _ d d' (⟨rfl, hfields⟩ | ⟨rfl, hmethods⟩)
  · have hread := readListOrNull_eq_of_inList (readProperty_eq_of_omission 4) hfields
    exact .of_read (fun t a => { t with fields := a }) (by decide) hread fun _ _ => rfl
  · have hread := readListOrNull_eq_of_inList (readMethod_eq_of_omission 4) hmethods
    exact .of_read (fun t a => { t with methods := a }) (by decide) hread fun _ _ => rfl

/-! ### Documents -/

theorem readSchema_eq_of_omission (d d' : Draft) (h : Omission.document d d') :
    layout.readRecord d = layout.readRecord d' := by
  refine (Layout.read_eq_of_inParts (l := layout) (by decide) False.elim ?_ h).1
  rintro _ d d' (⟨rfl, hdecls⟩ | ⟨rfl, hdecls⟩ | ⟨rfl, hdecls⟩)
  · have hread := readList_eq_of_inList readData_eq_of_omission hdecls
    exact .of_read (fun s a => { s with dataTypes := a }) (by decide) hread fun _ _ => rfl
  · have hread := readList_eq_of_inList readEnumeration_eq_of_omission hdecls
    exact .of_read (fun s a => { s with enumTypes := a }) (by decide) hread fun _ _ => rfl
  · have hread := readList_eq_of_inList readManaged_eq_of_omission hdecls
    exact .of_read (fun s a => { s with managedTypes := a }) (by decide) hread fun _ _ => rfl

theorem readSchema_eq_of_omissions {d d' : Draft} (h : Relation.EqvGen Omission.document d d') :
    layout.readRecord d = layout.readRecord d' := by
  induction h with
  | rel d d' homission => exact readSchema_eq_of_omission d d' homission
  | refl d => rfl
  | symm d d' _ ih => exact ih.symm
  | trans d d' d'' _ _ ih ih' => exact ih.trans ih'

/-- Null and absent mean the same, wherever in a document and however often one is put for the other. -/
theorem ofText_eq_of_sameDocument {s s' : String} (h : SameDocument s s') (m : Schema) :
    ofText s = .ok m ↔ ofText s' = .ok m := by
  have hread := readSchema_eq_of_omissions h.omissions
  have hwhole := h.whole.trans h.whole'.symm
  simp only [ofText, readDocument, hread, hwhole]

/-- A document with one data type that has one property. -/
def oneType (members : List (Except Flaw String × Draft)) (property : List Draft) : Draft :=
  .object [(.ok "dataTypes", .array [.object
    ([(.ok "vmodlName", .string (.ok "vim.A")), (.ok "wsdlName", .string (.ok "A"))] ++ members ++
      [(.ok "props", .array [.array property none] none)]) none] none)] none

/-- The parent is the empty text and the property ends in null. -/
def filledText : String :=
  "\x7b\"dataTypes\":[\x7b\"vmodlName\":\"vim.A\",\"wsdlName\":\"A\",\"parent\":\"\"," ++
    "\"props\":[[\"n\",\"int\",null]]\x7d]\x7d"

/-- There is no parent, and the version is null. -/
def otherText : String :=
  "\x7b\"dataTypes\":[\x7b\"vmodlName\":\"vim.A\",\"wsdlName\":\"A\",\"version\":null," ++
    "\"props\":[[\"n\",\"int\"]]\x7d]\x7d"

theorem draft_filledText : Draft.ofText filledText =
    (oneType [(.ok "parent", .string (.ok ""))] [.string (.ok "n"), .string (.ok "int"), .null], none) := by
  cbv

theorem draft_otherText : Draft.ofText otherText =
    (oneType [(.ok "version", .null)] [.string (.ok "n"), .string (.ok "int")], none) := by
  cbv

theorem sameDocument_oneType : SameDocument filledText otherText := by
  let names : List (Except Flaw String × Draft) :=
    [(.ok "vmodlName", .string (.ok "vim.A")), (.ok "wsdlName", .string (.ok "A"))]
  refine ⟨by rw [draft_filledText], by rw [draft_otherText], ?_⟩
  rw [draft_filledText, draft_otherText]
  -- The parent goes, then the null of the property; the version comes.
  have hparent : Omission.document
      (oneType [(.ok "parent", .string (.ok ""))] [.string (.ok "n"), .string (.ok "int"), .null])
      (oneType [] [.string (.ok "n"), .string (.ok "int"), .null]) := by
    refine .inMember [] [] none (.inl ⟨rfl, .intro [] [] none ?_⟩)
    exact .member names _ none (.inr ⟨rfl, rfl⟩) (by simp [names])
  have hnull : Omission.document
      (oneType [] [.string (.ok "n"), .string (.ok "int"), .null])
      (oneType [] [.string (.ok "n"), .string (.ok "int")]) := by
    refine .inMember [] [] none (.inl ⟨rfl, .intro [] [] none ?_⟩)
    refine .inMember names [] none ⟨rfl, .intro [] [] none ?_⟩
    exact .last [_, _] none ⟨by decide, rfl⟩ rfl
  have hversion : Omission.document
      (oneType [(.ok "version", .null)] [.string (.ok "n"), .string (.ok "int")])
      (oneType [] [.string (.ok "n"), .string (.ok "int")]) := by
    refine .inMember [] [] none (.inl ⟨rfl, .intro [] [] none ?_⟩)
    exact .member names _ none (.inl ⟨by decide, rfl⟩) (by simp [names])
  exact .trans _ _ _ (.rel _ _ hparent) (.trans _ _ _ (.rel _ _ hnull) (.symm _ _ (.rel _ _ hversion)))

theorem ofText_eq_of_sameDocument_oneType :
    SameDocument filledText otherText ∧ ofText filledText = .ok
      { dataTypes := [{
          qualified := "vim.A", wireName := "A", fields := [{ name := "n", wireType := "int" }] }] } := by
  refine ⟨sameDocument_oneType, (ofText_eq_of_sameDocument sameDocument_oneType _).mpr ?_⟩
  rw [ofText, readDocument, draft_otherText]
  rfl

end Vmodl.Schema
