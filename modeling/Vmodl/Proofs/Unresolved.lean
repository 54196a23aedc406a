import Vmodl.Proofs.Structures
import Vmodl.Proofs.Transfer

/-!
# Names that do not resolve

A name that the index does not know stands for untyped values and is their key as it is. The decoder
looks a key up among the wire names. So untyped values come back unchanged where it finds nothing, and
only there.
-/

namespace Vmodl

open Wire

/-- The registry has a type of this name, or one that extends the name. The latter counts if a value can
name it as its type, which it cannot do with a colon. -/
def Registry.Knows (r : Registry) (name : String) : Prop :=
  r.kind? name ≠ none ∨ ∃ sub, sub ≠ name ∧ ':' ∉ sub.toList ∧ r.Extends sub name

/-- The names that the decoder looks up for values under the key of the type, from the outside in. -/
def ResolvedType.lookups : ResolvedType → List String
  | .array element => element.key :: element.lookups
  | t => [t.key]

theorem Registry.not_knows_of_no_child {r : Registry} {name : String} (hkind : r.kind? name = none)
    (hchild : r.types.all (fun e => e.2.parent != some name) = true) : ¬r.Knows name := by
  rintro (hregistered | ⟨sub, hne, _, hextends⟩)
  · exact hregistered hkind
  · exact hne (eq_of_extends_of_no_child hchild hextends)

namespace Wire

def Keeps (r : Registry) (key : String) (j : Json) : Prop := ∃ d, decode r key j = .ok d ∧ d.toJson = j

/-- The key stands for untyped values, whichever they are. -/
def KeepsAll (r : Registry) (key : String) : Prop := ∀ j, Keeps r key j

/-- A key that is not the tag of a scalar. -/
def PlainKey (key : String) : Prop := ∀ p : Primitive, p.tag ≠ key

variable {r : Registry} {key : String}

theorem not_mem_localName (name : String) : ':' ∉ (localName name).toList := by
  intro h
  rw [localName, String.toList_ofList, List.mem_reverse] at h
  simpa using List.mem_takeWhile_imp h

theorem not_mem_of_discriminator? {members : Json.Members} {actual : String}
    (h : discriminator? members = some actual) : ':' ∉ actual.toList := by
  unfold discriminator? at h
  split at h
  · simp only [Option.bind_eq_bind, Option.bind_some, Option.bind_eq_some_iff] at h
    obtain ⟨raw, _, hraw⟩ := h
    split at hraw
    · cases hraw
      exact not_mem_localName _
    · cases hraw
  · cases h

theorem effectiveType_of_not_knows (h : ¬r.Knows key) (members : Json.Members) :
    effectiveType r key members = key := by
  refine effectiveType_object_iff.mp (.declared fun _ actual _ hname hne hextends => ?_)
  exact h (.inr ⟨actual, hne, not_mem_of_discriminator? hname, hextends⟩)

theorem mem_literalKeys : ∀ key ∈ literalKeys, ∃ p ∈ Primitive.all, p.tag = key := by decide

theorem PlainKey.reading_eq (hplain : PlainKey key) (hkind : r.kind? key ≠ some .enumeration) :
    reading r key = .declared := by
  refine reading_eq_declared_iff.mpr ⟨(hplain .dateTime).symm, (hplain .binary).symm, ?_, hkind⟩
  intro hmem
  obtain ⟨p, _, hp⟩ := mem_literalKeys key hmem
  exact hplain p hp

theorem stripArray_append (name : String) : stripArray (name ++ arrayMarker) = name := by
  rw [stripArray, stripArray?_append, Option.getD_some]

theorem append_arrayMarker_ne_empty (name : String) : name ++ arrayMarker ≠ "" := by
  intro h
  have hlength := congrArg (fun s => s.toList.length) h
  simp [arrayMarker] at hlength

theorem plainKey_append (name : String) : PlainKey (name ++ arrayMarker) := by
  intro p hp
  have hnone : ∀ p ∈ Primitive.all, stripArray? p.tag = none := by decide +kernel
  have hsome := stripArray?_append name
  rw [← hp, hnone p (mem_all p)] at hsome
  cases hsome

theorem decode_single_of_not_knows (hkey : key ≠ "") (hplain : PlainKey (stripArray key))
    (h : ¬r.Knows (stripArray key)) {j : Json} (hj : Single j) : decode r key j = .ok (.scalar j) := by
  have hkind : r.kind? (stripArray key) = none := by
    by_contra hkind
    exact h (.inl hkind)
  have hreading : reading r (stripArray key) = .declared := hplain.reading_eq (by simp [hkind])
  exact decode_single_of_unregistered hkey hreading hkind (effectiveType_of_not_knows h) hj

theorem keeps_single (hkey : key ≠ "") (hplain : PlainKey (stripArray key))
    (h : ¬r.Knows (stripArray key)) {j : Json} (hj : Single j) : Keeps r key j :=
  ⟨.scalar j, decode_single_of_not_knows hkey hplain h hj, rfl⟩

theorem keepsAll_of_not_knows (hkey : key ≠ "") (harray : stripArray? key = none)
    (hplain : PlainKey key) (h : ¬r.Knows key) : KeepsAll r key := by
  have hstrip : stripArray key = key := stripArray_of_isNone (by rw [harray]; rfl)
  have hsingle : ∀ {j}, Single j → Keeps r key j :=
    keeps_single hkey (by rwa [hstrip]) (by rwa [hstrip])
  intro j
  induction j using Json.nestedInduction with
  | null => exact ⟨.null, rfl, rfl⟩
  | array items ih => exact exists_decode_array hkey (by rwa [hstrip])
  | bool b => exact hsingle (by simp [Single])
  | number n => exact hsingle (by simp [Single])
  | string s => exact hsingle (by simp [Single])
  | object members _ => exact hsingle (by simp [Single])

theorem keepsAll_append_of_not_knows (hplain : PlainKey key) (h : ¬r.Knows key)
    (hitems : KeepsAll r key) : KeepsAll r (key ++ arrayMarker) := by
  have hne := append_arrayMarker_ne_empty key
  have hstrip := stripArray_append key
  intro j
  by_cases hsingle : Single j
  · exact keeps_single hne (by rwa [hstrip]) (by rwa [hstrip]) hsingle
  · cases j with
    | null => exact ⟨.null, rfl, rfl⟩
    | array items => exact exists_decode_array hne (by rw [hstrip]; exact fun j _ => hitems j)
    | _ => exact absurd (by simp [Single]) hsingle

theorem exists_not_keeps_of_kind? {kind : TypeKind} (hkey : key ≠ "") (hplain : PlainKey (stripArray key))
    (hkind : r.kind? (stripArray key) = some kind) : ∃ j, ¬Keeps r key j := by
  by_cases henum : kind = .enumeration
  · subst henum
    have hreading : reading r (stripArray key) = .scalar :=
      reading_eq_scalar_iff.mpr ⟨(hplain .dateTime).symm, (hplain .binary).symm, .inr hkind⟩
    -- Under the key of an enumeration a box is opened.
    refine ⟨.object [(valueKey, .null)], ?_⟩
    rintro ⟨d, hd, hj⟩
    rw [decode_of_scalar hkey (by simp [Single]) hreading] at hd
    cases hd
    cases hj
  · have hreading : reading r (stripArray key) = .declared := hplain.reading_eq (by simp [hkind, henum])
    -- A type with fields is no truth value.
    refine ⟨.bool true, ?_⟩
    rintro ⟨d, hd, -⟩
    rw [decode_of_atom hkey (by simp [Atom, Single])] at hd
    simp only [decodeAtom, hreading, hkind] at hd
    cases kind with
    | enumeration => exact henum rfl
    | data => cases hd
    | managed => cases hd

theorem exists_kind?_of_extends {sub name : String} (hne : sub ≠ name) (h : r.Extends sub name) :
    ∃ kind, r.kind? sub = some kind := by
  rcases Relation.ReflTransGen.cases_head h with heq | ⟨parent, hlink, _⟩
  · exact absurd heq hne
  · obtain ⟨e, he, _⟩ := Option.bind_eq_some_iff.mp hlink
    exact ⟨e.kind, by rw [Registry.kind?, he, Option.map_some]⟩

/-- An object that says no more than its type, and what is boxed in it. -/
def named (type : String) (rest : Json.Members) : Json.Members :=
  (attributesKey, .object [("type", .string type)]) :: rest

theorem effectiveType_named {sub : String} (hcolon : ':' ∉ sub.toList) (h : r.Extends sub key)
    (rest : Json.Members) : effectiveType r key (named sub rest) = sub := by
  have hname : discriminator? (named sub rest) = some sub := by
    simp [named, discriminator?, List.lookup_cons, localName_of_not_mem hcolon]
  exact effectiveType_of_isSubtype hname (Registry.isSubtype_eq_true_iff.mpr h)

theorem exists_not_keeps_of_extends {sub : String} (hkey : key ≠ "")
    (hplain : PlainKey (stripArray key)) (hkind : r.kind? (stripArray key) = none)
    (hne : sub ≠ stripArray key) (hcolon : ':' ∉ sub.toList) (h : r.Extends sub (stripArray key)) :
    ∃ j, ¬Keeps r key j := by
  have hreading : reading r (stripArray key) = .declared := hplain.reading_eq (by simp [hkind])
  obtain ⟨kind, hsub⟩ := exists_kind?_of_extends hne h
  by_cases henum : kind = .enumeration
  · subst henum
    refine ⟨.object (named sub [(valueKey, .null)]), ?_⟩
    rintro ⟨d, hd, hj⟩
    rw [decode_object_of_enumeration hkey hreading (by rwa [effectiveType_named hcolon h])] at hd
    cases hd
    cases hj
  · -- The attributes are read for the type, and then they are gone.
    refine ⟨.object (named sub []), ?_⟩
    rintro ⟨d, hd, hj⟩
    have hfields : decodeFields r kind sub [] (named sub []) = .ok [] := by
      simp [named, decodeFields, isField]
    have hhandle : objectHandle kind (named sub []) = none := by
      cases kind <;> rfl
    rw [decode_object_of_fields hkey hreading (effectiveType_named hcolon h []) hsub henum, hfields,
      hhandle] at hd
    cases hd
    cases hj

theorem not_knows_of_keepsAll (hkey : key ≠ "") (hplain : PlainKey (stripArray key))
    (h : KeepsAll r key) : ¬r.Knows (stripArray key) := by
  intro hknows
  obtain ⟨j, hj⟩ : ∃ j, ¬Keeps r key j := by
    cases hkind : r.kind? (stripArray key) with
    | some kind => exact exists_not_keeps_of_kind? hkey hplain hkind
    | none =>
        rcases hknows with hregistered | ⟨sub, hne, hcolon, hextends⟩
        · exact absurd hkind hregistered
        · exact exists_not_keeps_of_extends hkey hplain hkind hne hcolon hextends
  exact hj (h j)

theorem ne_empty_of_keepsAll (h : KeepsAll r key) : key ≠ "" := by
  rintro rfl
  -- Under the empty key a box is opened.
  obtain ⟨d, hd, hj⟩ := h (.object [(valueKey, .null)])
  rw [decode_untyped (by simp)] at hd
  cases hd
  cases hj

theorem keepsAll_of_append (h : KeepsAll r (key ++ arrayMarker)) : KeepsAll r key := by
  intro j
  -- An array with one item shows what becomes of the item.
  obtain ⟨d, hd, hj⟩ := h (.array [j])
  rw [decode_array_eq_ok_iff (append_arrayMarker_ne_empty key), stripArray_append] at hd
  obtain ⟨ds, hds, rfl⟩ := hd
  obtain ⟨d, rest, hdecode, hrest, rfl⟩ := List.forall₂_cons_left_iff.mp hds
  rw [List.forall₂_nil_left_iff.mp hrest] at hj
  refine ⟨d, hdecode, ?_⟩
  simpa [Decoded.toJson, Decoded.toJsonItems] using hj

theorem keepsAll_iff (harray : stripArray? key = none) (hplain : PlainKey key) :
    KeepsAll r key ↔ key ≠ "" ∧ ¬r.Knows key := by
  have hstrip : stripArray key = key := stripArray_of_isNone (by rw [harray]; rfl)
  constructor
  · intro h
    have hkey := ne_empty_of_keepsAll h
    have hknows := not_knows_of_keepsAll hkey (by rwa [hstrip]) h
    rw [hstrip] at hknows
    exact ⟨hkey, hknows⟩
  · rintro ⟨hkey, hknows⟩
    exact keepsAll_of_not_knows hkey harray hplain hknows

theorem keepsAll_append_iff (hplain : PlainKey key) :
    KeepsAll r (key ++ arrayMarker) ↔ ¬r.Knows key ∧ KeepsAll r key := by
  have hstrip := stripArray_append key
  constructor
  · intro h
    have hknows := not_knows_of_keepsAll (append_arrayMarker_ne_empty key) (by rwa [hstrip]) h
    rw [hstrip] at hknows
    exact ⟨hknows, keepsAll_of_append h⟩
  · rintro ⟨hknows, h⟩
    exact keepsAll_append_of_not_knows hplain hknows h

end Wire

/-! ### Types that do not resolve -/

namespace ResolvedType

variable {t : ResolvedType} {name : String}

theorem plainKey_key (hleaf : t.leaf = .unknown name) (hplain : PlainKey name) : PlainKey t.key := by
  cases t with
  | array element => exact plainKey_append element.key
  | unknown name' =>
      cases hleaf
      exact hplain
  | primitive p => cases hleaf
  | declared kind wireName builtin => cases hleaf

theorem keepsAll_key_iff {r : Registry} (hleaf : t.leaf = .unknown name)
    (harray : stripArray? name = none) (hplain : PlainKey name) :
    KeepsAll r t.key ↔ name ≠ "" ∧ ∀ key ∈ t.lookups, ¬r.Knows key := by
  induction t with
  | unknown name' =>
      cases hleaf
      simp [key, lookups, keepsAll_iff harray hplain]
  | array element ih =>
      have helement := plainKey_key (t := element) hleaf hplain
      rw [key, keepsAll_append_iff helement, ih hleaf, lookups, List.forall_mem_cons, and_left_comm]
  | primitive p => cases hleaf
  | declared kind wireName builtin => cases hleaf

end ResolvedType

namespace Index

variable {i : Index} {name : String}

theorem plainKey_of_ofTag? (h : Primitive.ofTag? name = none) : PlainKey name := by
  intro p hp
  have hall := List.find?_eq_none.mp h p (mem_all p)
  simp [hp] at hall

theorem eq_of_resolveName {name' : String} (h : i.resolveName name' = .unknown name) :
    name' = name ∧ Primitive.ofTag? name = none := by
  unfold resolveName at h
  split at h
  · cases h
  · rename_i htag
    have heq : name' = name := by
      split at h
      · cases h
      · split at h
        · cases h
        · exact ResolvedType.unknown.inj h
      · exact ResolvedType.unknown.inj h
    exact ⟨heq, heq ▸ htag⟩

/-- A name that does not resolve has no array marker left and is no tag. -/
theorem unknown_of_leaf_resolve {wireType : String} (h : (i.resolve wireType).leaf = .unknown name) :
    stripArray? name = none ∧ PlainKey name := by
  obtain ⟨name', harray, hleaf⟩ := exists_leaf_resolve i wireType
  obtain ⟨rfl, htag⟩ := eq_of_resolveName (hleaf.symm.trans h)
  exact ⟨harray, plainKey_of_ofTag? htag⟩

end Index

namespace ClientModule

/-- Untyped values come back unchanged under the key of a type that does not resolve if no name that is
looked up for them is known to the registry of the schema. The empty name, which opens boxes, and all
other names lose or refuse a value. -/
theorem keepsAll_unresolved_iff (s : Schema) (rootType wireType name : String)
    (hleaf : ((Index.ofSchema s).resolve wireType).leaf = .unknown name) :
    KeepsAll (ofSchema s rootType).registry ((Index.ofSchema s).resolve wireType).key ↔
      name ≠ "" ∧ ∀ key ∈ ((Index.ofSchema s).resolve wireType).lookups,
        ¬(ofSchema s rootType).registry.Knows key :=
  have hname := Index.unknown_of_leaf_resolve hleaf
  ResolvedType.keepsAll_key_iff hleaf hname.1 hname.2

/-- The first field has a name that no type has. The second one names its own type by the wire name,
which the index does not know and the registry does. -/
def halfKnown : Schema where
  dataTypes := [
    { qualified := "vim.Alarm", wireName := "Alarm",
      fields := [{ name := "tags", wireType := "vim.Tag[]" }, { name := "raw", wireType := "Alarm" }] }]

theorem keepsAll_unresolved_tags :
    ((Index.ofSchema halfKnown).resolve "vim.Tag[]").leaf = .unknown "vim.Tag" ∧
      KeepsAll (ofSchema halfKnown "").registry ((Index.ofSchema halfKnown).resolve "vim.Tag[]").key := by
  have hleaf : ((Index.ofSchema halfKnown).resolve "vim.Tag[]").leaf = .unknown "vim.Tag" := by
    decide +kernel
  refine ⟨hleaf, (keepsAll_unresolved_iff halfKnown "" "vim.Tag[]" "vim.Tag" hleaf).mpr ⟨by decide, ?_⟩⟩
  have hlookups : ∀ key ∈ ((Index.ofSchema halfKnown).resolve "vim.Tag[]").lookups,
      (ofSchema halfKnown "").registry.kind? key = none ∧
        (ofSchema halfKnown "").registry.types.all (fun e => e.2.parent != some key) = true := by
    decide +kernel
  intro key hkey
  exact Registry.not_knows_of_no_child (hlookups key hkey).1 (hlookups key hkey).2

theorem not_keepsAll_unresolved_raw :
    ¬∀ (s : Schema) (rootType : String), ∀ d ∈ (ofSchema s rootType).structs, ∀ m ∈ d.members,
      ∀ name, m.type.leaf = .unknown name → KeepsAll (ofSchema s rootType).registry m.type.key := by
  intro h
  have hmem : (⟨.data, "Alarm", "Alarm", none,
      [⟨"tags", "tags", .array (.unknown "vim.Tag"), false, false⟩,
        ⟨"raw", "raw", .unknown "Alarm", false, false⟩]⟩ : StructItem) ∈
      (ofSchema halfKnown "").structs := by
    decide +kernel
  have hkeeps := h halfKnown "" _ hmem _ (List.mem_cons_of_mem _ List.mem_cons_self) "Alarm" rfl
  -- A number is no object of the registered type.
  obtain ⟨d, hd, -⟩ := hkeeps (.number (.integer 12))
  have hrefused : (decode (ofSchema halfKnown "").registry "Alarm" (.number (.integer 12))).isOk = false := by
    decide +kernel
  rw [ResolvedType.key] at hd
  rw [hd] at hrefused
  cases hrefused

end ClientModule

end Vmodl
