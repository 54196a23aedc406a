import Vmodl.Proofs.Description
import Vmodl.Proofs.Lineage
import Vmodl.Proofs.Taking

/-!
# Fields as they are decoded and as they are consumed

The registry types a field by the nearest type of a lineage that declares it. A record consumes the
field with its first slot for it, from the root down. On a lineage whose types are registered as they
are embedded, the registry answers with the last slot for the field, so the two agree exactly if the
first and the last slot have the same type.
-/

namespace Vmodl

theorem lookup_map_eq_find? {α β : Type*} (l : List α) (f : α → String) (g : α → β) (name : String) :
    (l.map fun a => (f a, g a)).lookup name = (l.find? fun a => f a == name).map g := by
  induction l with
  | nil => rfl
  | cons a l ih =>
      by_cases h : name = f a
      · simp [h]
      · have hname : (name == f a) = false := beq_false_of_ne h
        have hf : (f a == name) = false := beq_false_of_ne (Ne.symm h)
        simp [List.lookup_cons, hname, hf, ih]

namespace ClientModule

variable {s : Schema} {rootType : String}

/-- The types of the slots of the built-in records. -/
def builtinMemberTypes (ident : String) : List ResolvedType :=
  if ident = "MethodFault" then [.primitive .any, .array (.primitive .any)] else []

/-- The types from which the own slots of a record are shaped. -/
def memberTypes (m : ClientModule) (name : TypeName) : List ResolvedType :=
  if name.builtin then builtinMemberTypes name.ident
  else ((m.structs.find? fun d => (d.kind, d.typeName) == (.data, name)).map
    (·.members.map (·.type))).getD []

/-- The own slots of a record with their types. -/
def typedOwn (m : ClientModule) (t : StructType) : List (Slot × ResolvedType) :=
  t.own.zip (m.memberTypes t.name)

/-- All the slots of a record with their types, those of its parents first. -/
def typedSlots (m : ClientModule) (name : TypeName) : List (Slot × ResolvedType) :=
  ((Client.ofModule m).recordChain name).flatMap m.typedOwn

/-- The types of a lineage are registered as they are embedded: no declaration has the wire name of a
built-in type of the lineage, or that of the root of handles, which is never a record, and no parent
was left out of the module. -/
structure Regular (m : ClientModule) (ts : List StructType) : Prop where
  builtin : ∀ t ∈ ts, t.name.builtin = true → t.wireName ∉ m.wireNames
  root : ∀ t ∈ ts, t.name.builtin = false → t.wireName ≠ ManagedItem.rootName
  parents : ∀ d ∈ m.structs, d.layout ∈ ts → ∀ base ∈ d.base, m.Has base

instance (m : ClientModule) (ts : List StructType) : Decidable (m.Regular ts) :=
  decidable_of_iff
    ((∀ t ∈ ts, t.name.builtin = true → t.wireName ∉ m.wireNames) ∧
      (∀ t ∈ ts, t.name.builtin = false → t.wireName ≠ ManagedItem.rootName) ∧
      ∀ d ∈ m.structs, d.layout ∈ ts → ∀ base ∈ d.base, m.Has base)
    ⟨fun h => ⟨h.1, h.2.1, h.2.2⟩, fun h => ⟨h.builtin, h.root, h.parents⟩⟩

theorem Regular.mono {m : ClientModule} {ts ts' : List StructType} (h : m.Regular ts)
    (hsub : ts' ⊆ ts) : m.Regular ts' where
  builtin t ht := h.builtin t (hsub ht)
  root t ht := h.root t (hsub ht)
  parents d hd ht := h.parents d hd (hsub ht)

theorem memberTypes_of_mem_structs {d : StructItem} (hd : d ∈ (ofSchema s rootType).structs)
    (hkind : d.kind = .data) :
    (ofSchema s rootType).memberTypes d.typeName = d.members.map (·.type) := by
  have hnodup : ((ofSchema s rootType).structs.map fun d => (d.kind, d.typeName)).Nodup := by
    refine List.Nodup.of_map (fun x => x.2.ident) ?_
    rw [List.map_map]
    exact nodup_idents
  have hfind := find?_eq_some_of_nodup hnodup hd
  rw [hkind] at hfind
  rw [memberTypes, if_neg (by simp [StructItem.typeName]), hfind]
  rfl

theorem typedOwn_layout {d : StructItem} (hd : d ∈ (ofSchema s rootType).structs)
    (hkind : d.kind = .data) :
    (ofSchema s rootType).typedOwn d.layout =
      d.members.map fun m => (Client.ofModule.slot m (d.kind == .managed), m.type) := by
  have hname : d.layout.name = d.typeName := rfl
  rw [typedOwn, hname, memberTypes_of_mem_structs hd hkind, StructItem.layout, List.zip_map']

/-- The entry that a record has if it is registered as it is embedded. -/
def recordEntry (m : ClientModule) (t : StructType) : TypeEntry where
  kind := .data
  parent := ((Client.ofModule m).embedded? .data t).map (·.wireName)
  fields := Table.ofEntries ((m.typedOwn t).map fun x => (x.1.wireName, x.2.fieldType))

theorem recordEntry_of_builtin (m : ClientModule) {t : StructType} (ht : t ∈ Client.builtinRecords) :
    Registry.builtins.entry? t.wireName = some (m.recordEntry t) := by
  have hentries : ∀ t ∈ Client.builtinRecords, Registry.builtins.entry? t.wireName = some ⟨.data,
      (t.base.bind fun b => Client.builtinRecords.find? fun t' => t'.name == b).map (·.wireName),
      Table.ofEntries ((t.own.zip (builtinMemberTypes t.name.ident)).map
        fun x => (x.1.wireName, x.2.fieldType))⟩ := by
    decide +kernel
  have hbases : ∀ t ∈ Client.builtinRecords, ∀ b ∈ t.base,
      (Client.builtinRecords.find? fun t' => t'.name == b).isSome := by
    decide
  have hembedded : (Client.ofModule m).embedded? .data t =
      t.base.bind fun b => Client.builtinRecords.find? fun t' => t'.name == b := by
    refine Option.bind_congr fun b hb => ?_
    obtain ⟨t', ht'⟩ := Option.isSome_iff_exists.mp (hbases t ht b hb)
    rw [Client.struct?, Client.record?, records_ofModule, List.find?_append, ht', Option.some_or]
  rw [hentries t ht, recordEntry, hembedded, typedOwn, memberTypes, if_pos (builtin_of_mem_builtinRecords t ht)]

theorem recordEntry_layout {d : StructItem} (hd : d ∈ (ofSchema s rootType).structs)
    (hkind : d.kind = .data) (hparent : ∀ base ∈ d.base, (ofSchema s rootType).Has base) :
    (ofSchema s rootType).recordEntry d.layout = d.entry := by
  have hembedded := (wireName_embedded?_eq_iff hd).mpr hparent
  rw [hkind] at hembedded
  rw [recordEntry, hembedded, typedOwn_layout hd hkind, StructItem.entry, StructItem.fieldTypes,
    List.map_map, hkind]
  simp [Function.comp_def, Client.ofModule.slot]

/-- A record of a regular lineage is registered as it is embedded. -/
theorem entry?_of_record? {name : TypeName} {t : StructType} {ts : List StructType}
    (hregular : (ofSchema s rootType).Regular ts) (ht : t ∈ ts)
    (hname : (Client.ofModule (ofSchema s rootType)).record? name = some t) :
    Registry.entry? (ofSchema s rootType).registry t.wireName =
      some ((ofSchema s rootType).recordEntry t) := by
  cases hbuiltin : name.builtin with
  | false =>
      have hstruct : (Client.ofModule (ofSchema s rootType)).struct? .data name = some t := hname
      obtain ⟨d, hd, hkind, rfl, _⟩ := exists_mem_structs_of_struct? hbuiltin hstruct
      have hfree : Registry.builtins.isManaged d.wireName = false :=
        Registry.isManaged_builtins_of_ne (hregular.root d.layout ht rfl)
      rw [recordEntry_layout hd hkind (hregular.parents d hd ht)]
      exact entry?_registry hd hfree
  | true =>
      have hmem := mem_builtinRecords_of_record? hbuiltin hname
      have hname : t.name.builtin = true := builtin_of_mem_builtinRecords t hmem
      rw [entry?_registry_of_not_mem (hregular.builtin t ht hname)]
      exact recordEntry_of_builtin _ hmem

/-! ### Lineages -/

/-- The last slot for a field in a list of slots. -/
def lastFor (slots : List (Slot × ResolvedType)) (field : String) : Option (Slot × ResolvedType) :=
  slots.reverse.find? fun x => x.1.wireName == field

theorem lastFor_append (xs ys : List (Slot × ResolvedType)) (field : String) :
    lastFor (xs ++ ys) field = (lastFor ys field).or (lastFor xs field) := by
  rw [lastFor, List.reverse_append, List.find?_append, lastFor, lastFor]

theorem ownField?_of_record? {name : TypeName} {t : StructType} {ts : List StructType}
    (hregular : (ofSchema s rootType).Regular ts) (ht : t ∈ ts)
    (hname : (Client.ofModule (ofSchema s rootType)).record? name = some t) (field : String) :
    (ofSchema s rootType).registry.ownField? t.wireName field =
      (lastFor ((ofSchema s rootType).typedOwn t) field).map (·.2.fieldType) := by
  rw [Registry.ownField?, entry?_of_record? hregular ht hname, Option.bind_some, recordEntry,
    Table.lookup_ofEntries, ← List.map_reverse, lookup_map_eq_find?, lastFor]

theorem parent?_of_record? {name : TypeName} {t : StructType} {ts : List StructType}
    (hregular : (ofSchema s rootType).Regular ts) (ht : t ∈ ts)
    (hname : (Client.ofModule (ofSchema s rootType)).record? name = some t) :
    (ofSchema s rootType).registry.parent? t.wireName =
      ((Client.ofModule (ofSchema s rootType)).embedded? .data t).map (·.wireName) := by
  rw [Registry.parent?, entry?_of_record? hregular ht hname, Option.bind_some, recordEntry]

/-- The registry answers with the last slot for a field among those of a regular lineage. -/
theorem declares_of_lastFor {steps : Nat} {name : TypeName} {t : StructType} {ts : List StructType}
    {field : String} {x : Slot × ResolvedType}
    (hchain : StructType.chainWithin (Client.ofModule (ofSchema s rootType)).records steps name = ts)
    (hname : (Client.ofModule (ofSchema s rootType)).record? name = some t)
    (hregular : (ofSchema s rootType).Regular ts)
    (hlast : lastFor (ts.flatMap (ofSchema s rootType).typedOwn) field = some x) :
    (ofSchema s rootType).registry.Declares field t.wireName x.2.fieldType := by
  -- The chain ends with the type itself, so the last slot is its own or else the last of its parents.
  induction steps using Nat.strong_induction_on generalizing name t ts with
  | _ steps ih =>
      rcases StructType.chainWithin_of_find? hname steps with heq | ⟨n, base, rfl, hbase, heq⟩
      · obtain rfl := heq.symm.trans hchain
        refine .own ?_
        rw [List.flatMap_singleton] at hlast
        rw [ownField?_of_record? hregular List.mem_cons_self hname, hlast, Option.map_some]
      · obtain rfl := heq.symm.trans hchain
        have ht : t ∈ StructType.chainWithin (Client.ofModule (ofSchema s rootType)).records n base ++
            [t] := List.mem_append_right _ List.mem_cons_self
        have hown := ownField?_of_record? hregular ht hname field
        rw [List.flatMap_append, List.flatMap_singleton, lastFor_append] at hlast
        cases hlastOwn : lastFor ((ofSchema s rootType).typedOwn t) field with
        | some y =>
            rw [hlastOwn, Option.some_or] at hlast
            cases hlast
            rw [hlastOwn, Option.map_some] at hown
            exact .own hown
        | none =>
            rw [hlastOwn, Option.none_or] at hlast
            rw [hlastOwn, Option.map_none] at hown
            cases hparent : (Client.ofModule (ofSchema s rootType)).record? base with
            | none =>
                rw [StructType.chainWithin_eq_nil hparent] at hlast
                cases hlast
            | some t' =>
                have hlink : (ofSchema s rootType).registry.parent? t.wireName = some t'.wireName := by
                  rw [parent?_of_record? hregular ht hname, Client.embedded?, hbase, Option.bind_some,
                    Client.struct?, hparent, Option.map_some]
                exact .inherited hown hlink (ih n (Nat.lt_succ_self n) rfl hparent
                  (hregular.mono (List.subset_append_left _ _)) hlast)

theorem map_fst_typedOwn {t : StructType}
    (ht : t ∈ (Client.ofModule (ofSchema s rootType)).records) :
    ((ofSchema s rootType).typedOwn t).map Prod.fst = t.own := by
  have hlength : t.own.length ≤ ((ofSchema s rootType).memberTypes t.name).length := by
    rw [records_ofModule] at ht
    rcases List.mem_append.mp ht with hbuiltin | hlayout
    · have hall : ∀ t ∈ Client.builtinRecords,
          t.own.length ≤ (builtinMemberTypes t.name.ident).length := by
        decide
      rw [memberTypes, if_pos (builtin_of_mem_builtinRecords t hbuiltin)]
      exact hall t hbuiltin
    · obtain ⟨d, hd, rfl⟩ := List.mem_map.mp hlayout
      obtain ⟨hmem, hkind⟩ := List.mem_filter.mp hd
      have hname : d.layout.name = d.typeName := rfl
      rw [hname, memberTypes_of_mem_structs hmem (by simpa using hkind)]
      simp [StructItem.layout]
  rw [typedOwn, List.map_fst_zip hlength]

/-- The slots with types are all the slots of a record. -/
theorem map_fst_typedSlots (name : TypeName) : ((ofSchema s rootType).typedSlots name).map Prod.fst =
    (Client.ofModule (ofSchema s rootType)).recordSlots name := by
  rw [typedSlots, List.map_flatMap, Client.recordSlots]
  exact List.flatMap_congr fun t ht => map_fst_typedOwn (StructType.mem_of_mem_chainWithin ht)

theorem exists_lastFor {slots : List (Slot × ResolvedType)} {field : String}
    (h : field ∈ slots.map (·.1.wireName)) : ∃ x, lastFor slots field = some x := by
  obtain ⟨x, hx, hfield⟩ := List.mem_map.mp h
  refine Option.isSome_iff_exists.mp (List.find?_isSome.mpr ⟨x, List.mem_reverse.mpr hx, ?_⟩)
  simpa using hfield

theorem exists_split_at_first {slots : List (Slot × ResolvedType)} {field : String}
    (h : field ∈ slots.map (·.1.wireName)) : ∃ before x after, slots = before ++ x :: after ∧
      x.1.wireName = field ∧ field ∉ before.map (·.1.wireName) := by
  obtain ⟨y, hy, hfield⟩ := List.mem_map.mp h
  obtain ⟨x, hx⟩ : ∃ x, slots.find? (fun y => y.1.wireName == field) = some x :=
    Option.isSome_iff_exists.mp (List.find?_isSome.mpr ⟨y, hy, by simpa using hfield⟩)
  obtain ⟨hname, before, after, hslots, hbefore⟩ := List.find?_eq_some_iff_append.mp hx
  refine ⟨before, x, after, hslots, by simpa using hname, ?_⟩
  intro hmem
  obtain ⟨z, hz, hzname⟩ := List.mem_map.mp hmem
  simpa [hzname] using hbefore z hz

/-- For a field of a record with a regular lineage, the first slot for it consumes the field whenever an
object has it and the slots before this one can be filled, and no other slot does, while the registry
answers with the last slot for it. They agree exactly if these two have the same descriptor, so certainly
if there is one slot for the field. -/
theorem field?_eq_last_and_first_consumes {d : StructItem} {field : String}
    (hd : d ∈ (ofSchema s rootType).structs) (hkind : d.kind = .data)
    (hregular : (ofSchema s rootType).Regular
      ((Client.ofModule (ofSchema s rootType)).recordChain d.typeName))
    (hfield : field ∈ ((Client.ofModule (ofSchema s rootType)).recordSlots d.typeName).map
      (·.wireName)) :
    ∃ before first after last,
      (ofSchema s rootType).typedSlots d.typeName = before ++ first :: after ∧
      (Client.ofModule (ofSchema s rootType)).recordSlots d.typeName =
        (before ++ first :: after).map Prod.fst ∧
      (Client.ofModule (ofSchema s rootType)).TakesFirst
        ((Client.ofModule (ofSchema s rootType)).recordSlots d.typeName) (before.map Prod.fst) first.1
        field ∧
      lastFor ((ofSchema s rootType).typedSlots d.typeName) field = some last ∧
      (ofSchema s rootType).registry.field? d.wireName field = some last.2.fieldType ∧
      ((ofSchema s rootType).registry.field? d.wireName field = some first.2.fieldType ↔
        first.2.fieldType = last.2.fieldType) := by
  have htyped : field ∈ ((ofSchema s rootType).typedSlots d.typeName).map (·.1.wireName) := by
    rw [← map_fst_typedSlots, List.map_map] at hfield
    exact hfield
  obtain ⟨last, hlast⟩ := exists_lastFor htyped
  obtain ⟨before, first, after, hslots, hname, hnot⟩ := exists_split_at_first htyped
  have hrecord : (Client.ofModule (ofSchema s rootType)).record? d.typeName = some d.layout := by
    have hstruct := struct?_of_mem hd
    rwa [hkind] at hstruct
  have hregistry := Registry.field?_eq_some_iff.mpr (declares_of_lastFor rfl hrecord hregular hlast)
  have hall : (Client.ofModule (ofSchema s rootType)).recordSlots d.typeName =
      (before ++ first :: after).map Prod.fst := by
    rw [← map_fst_typedSlots, hslots]
  refine ⟨before, first, after, last, hslots, hall, ?_, hlast, hregistry, ?_⟩
  · rw [hall, List.map_append, List.map_cons]
    apply Client.takesFirst_of_not_mem hname
    rwa [List.map_map]
  · have hlayout : d.layout.wireName = d.wireName := rfl
    rw [hlayout] at hregistry
    rw [hregistry, Option.some_inj]
    exact eq_comm

/-- Whatever slot consumes a field, the registry answers with its type. -/
def Agrees (m : ClientModule) (d : StructItem) (field : String) : Prop :=
  ∀ o part before x after, m.typedSlots d.typeName = before ++ x :: after → x.1.wireName = field →
    (Client.ofModule m).Consumes o (before.map Prod.fst) x.1 part →
    m.registry.field? d.wireName field = some x.2.fieldType

/-- A type that extends another one; one that overrides a field; one with the wire name of a built-in
type, and a type that extends the built-in one; one whose parent is left out; and a record with the
wire name of the root of handles. -/
def mixed : Schema where
  dataTypes := [
    { qualified := "vim.Base", wireName := "Base", fields := [
      { name := "note", wireType := "string", flags := ⟨4⟩ }, { name := "f", wireType := "string" }] },
    { qualified := "vim.Sub", wireName := "Sub", parent := some "vim.Base",
      fields := [{ name := "g", wireType := "int" }] },
    { qualified := "vim.Over", wireName := "Over", parent := some "vim.Base",
      fields := [{ name := "f", wireType := "int" }] },
    { qualified := "vim.Fault", wireName := "MethodFault",
      fields := [{ name := "faultCause", wireType := "int" }] },
    { qualified := "vim.Other", wireName := "Other", parent := some "vmodl.MethodFault" },
    { qualified := "vim.A", wireName := "Foo_Bar", fields := [{ name := "f", wireType := "string" }] },
    { qualified := "vim.B", wireName := "Foo-Bar", fields := [{ name := "f", wireType := "int" }] },
    { qualified := "vim.C", wireName := "C", parent := some "vim.B" },
    { qualified := "vim.Root", wireName := "ManagedObject",
      fields := [{ name := "f", wireType := "int" }] }]

/-- A record is given by its wire name here. -/
def mixedStruct (wireName : String) : StructItem :=
  (((ofSchema mixed "").structs.find? fun d => d.wireName == wireName).getD
    ⟨.data, "", "", none, []⟩)

/-- An object that has one field, and no value in it. -/
def lone (field : String) : OpenObject := ⟨field, none, [(field, ⟨.null, fun _ => .ok .absent⟩)]⟩

/-- The slot at a place is the first for its field, and those before it can be null. -/
def FirstAt (m : ClientModule) (slots : List Slot) (place : Nat) (slot : Slot) : Prop :=
  slots[place]? = some slot ∧ ∀ s ∈ slots.take place,
    s.wireName ≠ slot.wireName ∧ ((Client.ofModule m).readNull s.shape).isOk = true

instance (m : ClientModule) (slots : List Slot) (place : Nat) (slot : Slot) :
    Decidable (m.FirstAt slots place slot) :=
  inferInstanceAs (Decidable (_ ∧ _))

theorem eq_take_append_cons {α : Type*} {l : List α} {n : ℕ} {a : α} (h : l[n]? = some a) :
    l = l.take n ++ a :: l.drop (n + 1) := by
  obtain ⟨hn, rfl⟩ := List.getElem?_eq_some_iff.mp h
  rw [← List.drop_eq_getElem_cons hn, List.take_append_drop]

theorem FirstAt.consumes_lone {m : ClientModule} {slots : List Slot} {place : Nat} {slot : Slot}
    (h : m.FirstAt slots place slot) :
    ∃ part, (Client.ofModule m).Consumes (lone slot.wireName) (slots.take place) slot part := by
  have hfree : ∀ s ∈ slots.take place, (lone slot.wireName).parts.lookup s.wireName = none := by
    intro s hs
    have hname : (s.wireName == slot.wireName) = false := beq_false_of_ne (h.2 s hs).1
    simp [lone, List.lookup_cons, hname]
  have hnull : ∀ s ∈ slots.take place, ∃ v, (Client.ofModule m).readNull s.shape = .ok v := by
    intro s hs
    have hok := (h.2 s hs).2
    cases hread : (Client.ofModule m).readNull s.shape with
    | ok v => exact ⟨v, rfl⟩
    | error e =>
        rw [hread] at hok
        cases hok
  refine ⟨⟨.null, fun _ => .ok .absent⟩, Client.consumes_iff.mpr ⟨?_, ?_, ?_⟩⟩
  · intro hmem
    obtain ⟨s, hs, hname⟩ := List.mem_map.mp hmem
    exact (h.2 s hs).1 hname
  · simp [lone]
  · exact Client.exists_fills_of_lookup_eq_none hfree hnull

theorem not_agrees_of_firstAt {m : ClientModule} {d : StructItem} {field : String} {place : Nat}
    (h : ((m.typedSlots d.typeName)[place]?).any fun x => x.1.wireName == field &&
      decide (m.FirstAt ((m.typedSlots d.typeName).map Prod.fst) place x.1) &&
      m.registry.field? d.wireName field != some x.2.fieldType) : ¬m.Agrees d field := by
  intro hagrees
  obtain ⟨x, hx, hcond⟩ := (Option.any_eq_true _ _).mp h
  simp only [Bool.and_eq_true, beq_iff_eq, decide_eq_true_eq, bne_iff_ne] at hcond
  obtain ⟨⟨rfl, hfirst⟩, hne⟩ := hcond
  obtain ⟨part, hconsumes⟩ := hfirst.consumes_lone
  rw [← List.map_take] at hconsumes
  exact hne (hagrees _ _ _ _ _ (eq_take_append_cons hx) rfl hconsumes)

/-- Fields that are overridden, that come from a type whose wire name is taken, or that come in place
of a parent that was left out are decoded otherwise than they are consumed. -/
theorem not_agrees_mixed :
    [("Over", "f"), ("Other", "faultCause"), ("C", "f"), ("ManagedObject", "f")].Forall fun p =>
      mixedStruct p.1 ∈ (ofSchema mixed "").structs ∧ (mixedStruct p.1).kind = .data ∧
      ¬(ofSchema mixed "").Agrees (mixedStruct p.1) p.2 := by
  have hall : ∀ p ∈ [("Over", "f"), ("Other", "faultCause"), ("C", "f"), ("ManagedObject", "f")],
      mixedStruct p.1 ∈ (ofSchema mixed "").structs ∧ (mixedStruct p.1).kind = .data ∧
      ∃ place ∈ [0, 1],
        (((ofSchema mixed "").typedSlots (mixedStruct p.1).typeName)[place]?).any fun x =>
          x.1.wireName == p.2 &&
          decide ((ofSchema mixed "").FirstAt
            (((ofSchema mixed "").typedSlots (mixedStruct p.1).typeName).map Prod.fst) place x.1) &&
          (ofSchema mixed "").registry.field? (mixedStruct p.1).wireName p.2 !=
            some x.2.fieldType := by
    decide +kernel
  rw [List.forall_iff_forall_mem]
  intro p hp
  obtain ⟨hmem, hkind, place, _, hfirst⟩ := hall p hp
  exact ⟨hmem, hkind, not_agrees_of_firstAt hfirst⟩

theorem field?_mixed_sub :
    ∃ before first after last,
      (ofSchema mixed "").typedSlots (mixedStruct "Sub").typeName = before ++ first :: after ∧
      (Client.ofModule (ofSchema mixed "")).recordSlots (mixedStruct "Sub").typeName =
        (before ++ first :: after).map Prod.fst ∧
      (Client.ofModule (ofSchema mixed "")).TakesFirst
        ((Client.ofModule (ofSchema mixed "")).recordSlots (mixedStruct "Sub").typeName)
        (before.map Prod.fst) first.1 "f" ∧
      lastFor ((ofSchema mixed "").typedSlots (mixedStruct "Sub").typeName) "f" = some last ∧
      (ofSchema mixed "").registry.field? (mixedStruct "Sub").wireName "f" = some last.2.fieldType ∧
      ((ofSchema mixed "").registry.field? (mixedStruct "Sub").wireName "f" =
        some first.2.fieldType ↔ first.2.fieldType = last.2.fieldType) ∧
      before.map (·.1.wireName) = ["note"] ∧
      ∃ part, (Client.ofModule (ofSchema mixed "")).Consumes (lone "f") (before.map Prod.fst) first.1
        part := by
  have hmem : mixedStruct "Sub" ∈ (ofSchema mixed "").structs := by decide +kernel
  have hkind : (mixedStruct "Sub").kind = .data := by decide +kernel
  have hregular : (ofSchema mixed "").Regular
      ((Client.ofModule (ofSchema mixed "")).recordChain (mixedStruct "Sub").typeName) := by
    decide +kernel
  have hdeclared : "f" ∈ ((Client.ofModule (ofSchema mixed "")).recordSlots
      (mixedStruct "Sub").typeName).map (·.wireName) := by
    decide +kernel
  obtain ⟨before, first, after, last, hslots, hall, htakes, hlast, hfield, hagree⟩ :=
    field?_eq_last_and_first_consumes hmem hkind hregular hdeclared
  obtain ⟨hfirst, hbefore⟩ : (ofSchema mixed "").FirstAt
        ((Client.ofModule (ofSchema mixed "")).recordSlots (mixedStruct "Sub").typeName) 1
        ⟨"f", "f", .primitive .string, false, false⟩ ∧
      (((Client.ofModule (ofSchema mixed "")).recordSlots (mixedStruct "Sub").typeName).take 1).map
        (·.wireName) = ["note"] := by
    decide +kernel
  obtain ⟨part, hconsumes⟩ := hfirst.consumes_lone
  obtain ⟨hsame, hslot⟩ := htakes.only _ _ _ _ _ (eq_take_append_cons hfirst.1) rfl hconsumes
  rw [hsame, hslot, htakes.name] at hconsumes
  rw [hsame, List.map_map] at hbefore
  exact ⟨before, first, after, last, hslots, hall, htakes, hlast, hfield, hagree, hbefore, part,
    hconsumes⟩

end ClientModule

end Vmodl
