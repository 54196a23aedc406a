import Mathlib.Data.List.TakeWhile
import Vmodl.Proofs.Mirror
import Vmodl.Proofs.Reading
import Vmodl.Proofs.Values

/-!
# Values that come back from the wire

Writing a value and reading it back are inverse, slot by slot, where the registry types each slot of a
client's records by a key that fits the shape of the slot. The induction is over the value and its shape;
the key may be any that fits.
-/

namespace Vmodl

open Wire

/-- Untyped values are kept under the key: it is that of a scalar, or of no type that is known. -/
def Wire.keepsJson (r : Registry) (key : String) : Bool :=
  key != "" && (stripArray? key).isNone &&
    (reading r key == .scalar ||
      reading r key == .declared && r.kind? key == none && r.types.all fun e => e.2.parent != some key)

/-- The key names a registered type of the kind, and values are read as being of that type. -/
def Wire.namesKind (r : Registry) (key : String) (kind : TypeKind) : Bool :=
  key != "" && (stripArray? key).isNone && r.kind? key == some kind &&
    reading r key == if kind = .enumeration then .scalar else .declared

/-- Scalars that are written so that they can be read back whatever they are. Reals are not, since
JSON has no infinities. -/
def Primitive.isExact : Primitive → Bool
  | .byte | .short | .int | .long | .boolean | .string | .dateTime => true
  | _ => false

/-- Values of the shape can be read under the key. -/
def Client.fits (c : Client) (r : Registry) : Shape → String → Bool
  | .primitive .any, key => keepsJson r key
  | .primitive p, key => p.isExact && key == p.tag
  | .named .enumeration _, key => namesKind r key .enumeration
  | .named .data name, key => key == c.recordKey name && namesKind r key .data
  | .named .managed name, key => key == c.handleKey name && namesKind r key .managed
  | .boxed inner, key => fits c r inner key
  | .option inner, key => !inner.isNullable && fits c r inner key
  | .list element, key =>
    match stripArray? key with
    | some key => fits c r element key
    | none => false

/-- The registry types the records and their slots so that their values can be read, no two slots of a
record are for one field, and what extends a managed type is managed. -/
structure Client.Coherent (c : Client) (r : Registry) : Prop where
  records : ∀ t ∈ c.records, c.fits r (.named .data t.name) t.wireName = true
  slots : ∀ t ∈ c.records, ∀ slot ∈ c.recordSlots t.name,
    (r.field? t.wireName slot.wireName).any (fun type => c.fits r slot.shape type.key) = true
  distinct : ∀ t ∈ c.records, ((c.recordSlots t.name).map (·.wireName)).Nodup
  attributes : ∀ t ∈ c.records, attributesKey ∉ (c.recordSlots t.name).map (·.wireName)
  managed : ∀ e ∈ r.types, ∀ parent ∈ e.2.parent, r.isManaged parent = true → e.2.kind = .managed
  names : ∀ e ∈ r.types, ':' ∉ e.1.toList

instance (c : Client) (r : Registry) : Decidable (c.Coherent r) :=
  decidable_of_iff
    ((∀ t ∈ c.records, c.fits r (.named .data t.name) t.wireName = true) ∧
      (∀ t ∈ c.records, ∀ slot ∈ c.recordSlots t.name,
        (r.field? t.wireName slot.wireName).any (fun type => c.fits r slot.shape type.key) = true) ∧
      (∀ t ∈ c.records, ((c.recordSlots t.name).map (·.wireName)).Nodup) ∧
      (∀ t ∈ c.records, attributesKey ∉ (c.recordSlots t.name).map (·.wireName)) ∧
      (∀ e ∈ r.types, ∀ parent ∈ e.2.parent, r.isManaged parent = true → e.2.kind = .managed) ∧
      ∀ e ∈ r.types, ':' ∉ e.1.toList)
    ⟨fun ⟨hrecords, hslots, hdistinct, hattributes, hmanaged, hnames⟩ =>
        ⟨hrecords, hslots, hdistinct, hattributes, hmanaged, hnames⟩,
      fun h => ⟨h.records, h.slots, h.distinct, h.attributes, h.managed, h.names⟩⟩

/-- A value that is written and read under a key comes back. -/
def Client.Transfers (c : Client) (r : Registry) (shape : Shape) (key : String) (v : Value) : Prop :=
  ∃ d, decode r key (v.toJson c) = .ok d ∧ c.read d shape = .ok v

variable {c : Client} {r : Registry} {key : String}

theorem stripArray_of_isNone (h : (stripArray? key).isNone = true) : stripArray key = key := by
  rw [stripArray, Option.isNone_iff_eq_none.mp h]
  rfl

theorem effectiveType_of_isSubtype {declared actual : String} {members : Json.Members}
    (hname : discriminator? members = some actual) (hsub : r.isSubtype actual declared = true) :
    effectiveType r declared members = actual := by
  refine effectiveType_object_iff.mp ?_
  by_cases hne : actual = declared
  · subst hne
    refine .declared fun members' other hmembers hother hother' => ?_
    cases hmembers
    exact absurd (Option.some.inj (hother.symm.trans hname)) hother'
  · exact .named hname hne (Registry.isSubtype_eq_true_iff.mp hsub)

theorem Wire.Decoded.toJsonItems_eq (ds : List Decoded) : toJsonItems ds = ds.map toJson := by
  induction ds with
  | nil => rfl
  | cons d ds ih => rw [toJsonItems, ih, List.map_cons]

theorem unwrap_of_not_contains {j : Json} (hj : ¬j.Contains valueKey) : unwrap j = j := by
  cases j with
  | object members =>
      have hnone : members.lookup valueKey = none :=
        Table.lookup_eq_none_iff_not_mem.mpr fun h => hj (.here h)
      simp [unwrap, Json.get?, hnone]
  | _ => simp [unwrap, Json.get?]

theorem effectiveType_of_no_child (hchild : r.types.all (fun e => e.2.parent != some key) = true)
    (members : Json.Members) : effectiveType r key members = key :=
  effectiveType_object_iff.mp (.declared fun _ _ _ _ hne hextends =>
    hne (Registry.eq_of_extends_of_no_child hchild hextends))

theorem keepsJson_eq_true_iff : keepsJson r key = true ↔ key ≠ "" ∧ (stripArray? key).isNone = true ∧
    (reading r key = .scalar ∨ reading r key = .declared ∧ r.kind? key = none ∧
      r.types.all (fun e => e.2.parent != some key) = true) := by
  simp [keepsJson, and_assoc]

theorem decode_single_of_unregistered (hkey : key ≠ "") (hreading : reading r (stripArray key) = .declared)
    (hkind : r.kind? (stripArray key) = none)
    (htype : ∀ members, effectiveType r (stripArray key) members = stripArray key) {j : Json}
    (hj : Single j) : decode r key j = .ok (.scalar j) := by
  by_cases hobject : ∃ members, j = .object members
  · obtain ⟨members, rfl⟩ := hobject
    exact decode_object_of_unregistered hkey hreading (by rwa [htype])
  · have hatom : Atom j := ⟨hj, fun members h => hobject ⟨members, h⟩⟩
    rw [decode_of_atom hkey hatom]
    simp only [decodeAtom, hreading, hkind]

/-- What is no array is kept as it is. -/
theorem decode_single_of_keepsJson (hkey : keepsJson r key = true) {j : Json} (hsingle : Single j)
    (hj : ¬j.Contains valueKey) : decode r key j = .ok (.scalar j) := by
  obtain ⟨hne, harray, hreading⟩ := keepsJson_eq_true_iff.mp hkey
  have hstrip := stripArray_of_isNone harray
  rcases hreading with hscalar | ⟨hdeclared, hkind, hchild⟩
  · rw [decode_of_scalar hne hsingle (by rwa [hstrip]), unwrap_of_not_contains hj]
  · rw [← hstrip] at hdeclared hkind hchild
    exact decode_single_of_unregistered hne hdeclared hkind (effectiveType_of_no_child hchild) hsingle

/-- An array is kept if its items are. -/
theorem exists_decode_array (hkey : key ≠ "") {items : List Json}
    (hitems : ∀ j ∈ items, ∃ d, decode r (stripArray key) j = .ok d ∧ d.toJson = j) :
    ∃ d, decode r key (.array items) = .ok d ∧ d.toJson = .array items := by
  choose! f hf using hitems
  refine ⟨.list (items.map f), (decode_array_eq_ok_iff hkey).mpr ⟨_, ?_, rfl⟩, ?_⟩
  · rw [List.forall₂_map_right_iff, List.forall₂_same]
    exact fun j hmem => (hf j hmem).1
  · rw [Decoded.toJson, Decoded.toJsonItems_eq, List.map_map]
    exact congrArg Json.array ((List.map_congr_left fun j hmem => (hf j hmem).2).trans
      (List.map_id items))

theorem decode_of_keepsJson (hkey : keepsJson r key = true) {j : Json} (hj : ¬j.Contains valueKey) :
    ∃ d, decode r key j = .ok d ∧ d.toJson = j := by
  induction j using Json.nestedInduction with
  | null => exact ⟨.null, rfl, rfl⟩
  | bool b => exact ⟨_, decode_single_of_keepsJson hkey (by simp [Single]) hj, rfl⟩
  | number n => exact ⟨_, decode_single_of_keepsJson hkey (by simp [Single]) hj, rfl⟩
  | string s => exact ⟨_, decode_single_of_keepsJson hkey (by simp [Single]) hj, rfl⟩
  | object members => exact ⟨_, decode_single_of_keepsJson hkey (by simp [Single]) hj, rfl⟩
  | array items ih =>
      obtain ⟨hne, harray, _⟩ := keepsJson_eq_true_iff.mp hkey
      refine exists_decode_array hne fun j hmem => ?_
      rw [stripArray_of_isNone harray]
      exact ih j hmem fun h => hj (.item hmem h)

/-- The keys of scalars are literal, or that of dates. -/
theorem tag_of_isExact : ∀ p ∈ Primitive.all, p.isExact = true →
    p.tag ≠ "" ∧ stripArray? p.tag = none ∧ (p.tag = dateTimeKey ∧ p = .dateTime ∨
      p.tag ≠ dateTimeKey ∧ p.tag ≠ binaryKey ∧ p.tag ∈ literalKeys) := by
  decide +kernel

theorem mem_all (p : Primitive) : p ∈ Primitive.all := by
  cases p <;> decide

theorem decode_tag_of_single {p : Primitive} (hexact : p.isExact = true) (hp : p ≠ .dateTime)
    {j : Json} (hj : Single j) : decode r p.tag j = .ok (.scalar (unwrap j)) := by
  obtain ⟨hne, harray, ⟨_, hdate⟩ | ⟨hdate, hbinary, hliteral⟩⟩ := tag_of_isExact p (mem_all p) hexact
  · exact absurd hdate hp
  · have hstrip : stripArray p.tag = p.tag := stripArray_of_isNone (by rw [harray]; rfl)
    have hreading : reading r (stripArray p.tag) = .scalar := by
      rw [hstrip]
      exact reading_eq_scalar_iff.mpr ⟨hdate, hbinary, Or.inl hliteral⟩
    exact decode_of_scalar hne hj hreading

theorem decode_tag {p : Primitive} (hexact : p.isExact = true) (hp : p ≠ .dateTime) {j : Json}
    (hj : Atom j) : decode r p.tag j = .ok (.scalar j) := by
  rw [decode_tag_of_single hexact hp hj.1, unwrap_of_not_object hj.2]

theorem Primitive.filter_width (width : Nat) (n : Int) :
    ((some n).filter fun n =>
        decide (-((1 <<< (width - 1) : Nat) : Int) ≤ n) && decide (n < (1 <<< (width - 1) : Nat))) =
      if -2 ^ (width - 1) ≤ n ∧ n < 2 ^ (width - 1) then some n else none := by
  have hbound : ((1 <<< (width - 1) : Nat) : Int) = 2 ^ (width - 1) := by
    rw [Nat.one_shiftLeft]
    exact Int.natCast_pow 2 (width - 1)
  simp only [hbound, Option.filter, Bool.and_eq_true, decide_eq_true_eq]

theorem Primitive.read_of_width? {p : Primitive} {width : Nat} (hwidth : p.width? = some width)
    (j : Json) : p.read (.scalar j) = (p.orUnexpected j (integerOf? width j)).map .integer := by
  cases p <;> cases hwidth <;> rfl

theorem fits_primitive_iff {p : Primitive} (hp : p ≠ .any) :
    c.fits r (.primitive p) key = true ↔ p.isExact = true ∧ key = p.tag := by
  cases p <;> simp [Client.fits, Primitive.isExact] at hp ⊢

theorem transfers_integer {p : Primitive} {width : Nat} {n : Int} (hwidth : p.width? = some width)
    (hn : -2 ^ (width - 1) ≤ n ∧ n < 2 ^ (width - 1)) (hfits : c.fits r (.primitive p) key = true) :
    c.Transfers r (.primitive p) key (.integer n) := by
  have hp : p ≠ .any ∧ p ≠ .dateTime := by cases p <;> simp [Primitive.width?] at hwidth ⊢
  obtain ⟨hexact, rfl⟩ := (fits_primitive_iff hp.1).mp hfits
  refine ⟨.scalar (.number (.integer n)), decode_tag hexact hp.2 (by simp [Atom, Single, Value.toJson]), ?_⟩
  have hinteger : Primitive.integerOf? width (.number (.integer n)) = some n :=
    (Primitive.filter_width width n).trans (if_pos hn)
  rw [Client.read_primitive, Primitive.read_of_width? hwidth, hinteger]
  rfl

theorem transfers_boolean (b : Bool) (hfits : c.fits r (.primitive .boolean) key = true) :
    c.Transfers r (.primitive .boolean) key (.boolean b) := by
  obtain ⟨hexact, rfl⟩ := (fits_primitive_iff (by simp)).mp hfits
  exact ⟨.scalar (.bool b), decode_tag hexact (by simp) (by simp [Atom, Single, Value.toJson]), rfl⟩

theorem transfers_text (s : String) (hfits : c.fits r (.primitive .string) key = true) :
    c.Transfers r (.primitive .string) key (.text s) := by
  obtain ⟨hexact, rfl⟩ := (fits_primitive_iff (by simp)).mp hfits
  exact ⟨.scalar (.string s), decode_tag hexact (by simp) (by simp [Atom, Single, Value.toJson]), rfl⟩

theorem transfers_dateTime {t : Instant} (ht : t.Proper) (hyear : 0 ≤ t.year ∧ t.year ≤ 9999)
    (hfits : c.fits r (.primitive .dateTime) key = true) :
    c.Transfers r (.primitive .dateTime) key (.dateTime t) := by
  obtain ⟨_, rfl⟩ := (fits_primitive_iff (by simp)).mp hfits
  refine ⟨.dateTime t, ?_, rfl⟩
  have htext : decode r Primitive.dateTime.tag (.string t.textZulu) =
    (readInstant t.textZulu).map .dateTime := decode_dateTime_string r t.textZulu
  rw [Value.toJson, htext, readInstant, Instant.ofText_textZulu ht hyear]
  rfl

theorem transfers_any {j : Json} (hj : ¬j.Contains valueKey)
    (hfits : c.fits r (.primitive .any) key = true) : c.Transfers r (.primitive .any) key (.any j) := by
  obtain ⟨d, hd, hjson⟩ := decode_of_keepsJson hfits hj
  refine ⟨d, hd, ?_⟩
  rw [Client.read_primitive, Primitive.read, hjson]

theorem namesKind_eq_true_iff {kind : TypeKind} : namesKind r key kind = true ↔
    key ≠ "" ∧ (stripArray? key).isNone = true ∧ r.kind? key = some kind ∧
      reading r key = if kind = .enumeration then .scalar else .declared := by
  simp [namesKind, and_assoc]

theorem transfers_enumeration {name : TypeName} {e : EnumType} {text : String}
    (he : c.enum? name = some e) (htext : text ∈ e.variants.map Prod.snd)
    (hfits : c.fits r (.named .enumeration name) key = true) :
    c.Transfers r (.named .enumeration name) key (.enumeration name text) := by
  obtain ⟨hne, harray, _, hreading⟩ := namesKind_eq_true_iff.mp hfits
  refine ⟨.scalar (.string text), ?_, Client.read_enumeration he htext⟩
  rw [Value.toJson, decode_of_scalar hne (by simp [Single])
    (by rw [stripArray_of_isNone harray]; exact hreading), unwrap_of_not_object (by simp)]

/-- A kind that each link of the hierarchy hands on is handed on to all that extends a type. -/
theorem Registry.kind?_of_extends {kind : TypeKind}
    (hlinks : ∀ e ∈ r.types, ∀ parent ∈ e.2.parent, r.kind? parent = some kind → e.2.kind = kind)
    {name ancestor : String} (h : r.Extends name ancestor) (hancestor : r.kind? ancestor = some kind) :
    r.kind? name = some kind := by
  induction h using Relation.ReflTransGen.head_induction_on with
  | refl => exact hancestor
  | @head name parent hlink _ ih =>
      obtain ⟨e, he, hparent⟩ := Option.bind_eq_some_iff.mp hlink
      have hkind := hlinks (name, e) (Table.mem_of_lookup he) parent hparent ih
      rw [Registry.kind?, he, Option.map_some]
      exact congrArg some hkind

theorem managed_of_extends (hc : c.Coherent r) {name ancestor : String}
    (h : r.Extends name ancestor) (hancestor : r.kind? ancestor = some .managed) :
    r.kind? name = some .managed := by
  apply Registry.kind?_of_extends _ h hancestor
  intro e he parent hparent hkind
  apply hc.managed e he parent hparent
  rw [Registry.isManaged, hkind, beq_self_eq_true]

theorem localName_of_not_mem {name : String} (h : ':' ∉ name.toList) : localName name = name := by
  have hall : name.toList.reverse.takeWhile (· != ':') = name.toList.reverse := by
    rw [List.takeWhile_eq_self_iff]
    intro ch hch
    rw [List.mem_reverse] at hch
    exact bne_iff_ne.mpr fun heq => h (heq ▸ hch)
  rw [localName, hall, List.reverse_reverse, String.ofList_toList]

theorem localName_of_kind? (hc : c.Coherent r) {name : String} {kind : TypeKind}
    (h : r.kind? name = some kind) : localName name = name := by
  obtain ⟨e, he, _⟩ := Option.map_eq_some_iff.mp h
  exact localName_of_not_mem (hc.names (name, e) (Table.mem_of_lookup he))

theorem transfers_handle (hc : c.Coherent r) {name : TypeName} {reference : Reference}
    {values : List Value} (hlength : values.length = (c.handleSlots name).length)
    (habsent : ∀ w ∈ values, w = .absent)
    (hsub : r.isSubtype reference.typeName (c.handleKey name) = true)
    (hfits : c.fits r (.named .managed name) key = true) :
    c.Transfers r (.named .managed name) key (.handle name reference values) := by
  rw [Client.fits, Bool.and_eq_true, beq_iff_eq] at hfits
  obtain ⟨rfl, hnames⟩ := hfits
  obtain ⟨hne, harray, hkey, hreading⟩ := namesKind_eq_true_iff.mp hnames
  have hkind := managed_of_extends hc (Registry.isSubtype_eq_true_iff.mp hsub) hkey
  have hstrip := stripArray_of_isNone harray
  have hname : discriminator? [(attributesKey, .object [("type", .string reference.typeName)]),
      (valueKey, .string reference.handle)] = some reference.typeName := by
    have hlocal := localName_of_kind? hc hkind
    simp [discriminator?, List.lookup_cons, hlocal]
  have htype := effectiveType_of_isSubtype hname hsub
  refine ⟨.object reference.typeName (some reference.handle) [], ?_, ?_⟩
  · rw [Value.toJson, Reference.toJson, decode_object_of_fields hne (by rw [hstrip]; exact hreading)
      (by rw [hstrip]; exact htype) hkind TypeKind.noConfusion]
    rfl
  · have hvalues : values = (c.handleSlots name).map fun _ => Value.absent := by
      rw [List.map_const', ← hlength]
      exact List.eq_replicate_iff.mpr ⟨rfl, habsent⟩
    rw [Client.read_handle, Client.newHandle, hvalues]

/-- Only null is decoded as null. -/
theorem eq_null_of_decode {j : Json} (h : decode r key j = .ok .null) : j = .null := by
  cases mirrors_of_decode h
  rfl

theorem discriminator?_of_not_mem {members : Json.Members}
    (h : attributesKey ∉ members.map Prod.fst) : discriminator? members = none := by
  simp [discriminator?, Table.lookup_eq_none_iff_not_mem.mpr h]

theorem nodup_wireNames_zip {slots : List Slot} {values : List Value}
    (hlength : values.length = slots.length) (hnodup : (slots.map (·.wireName)).Nodup) :
    ((slots.zip values).map (·.1.wireName)).Nodup := by
  have hfst : (slots.zip values).map Prod.fst = slots := List.map_fst_zip (le_of_eq hlength.symm)
  have hcomp : (slots.zip values).map (·.1.wireName) =
      ((slots.zip values).map Prod.fst).map (·.wireName) := by
    rw [List.map_map]
    rfl
  rw [hcomp, hfst]
  exact hnodup

/-- What is not written reads as null does. -/
theorem readNull_of_omitted {slot : Slot} {shape : Shape} {v : Value} (hv : c.Holds shape v)
    (homitted : Value.omitted slot v = true) : c.readNull shape = .ok v := by
  induction hv with
  | boxed _ ih => exact ih homitted
  | absent => rfl
  | @list element items _ _ =>
      rw [Value.omitted, Bool.and_eq_true, List.isEmpty_iff] at homitted
      rw [homitted.2]
      rfl
  | _ => cases homitted

/-- The table of the decoded slots answers for a slot that is written, and for no other. -/
theorem lookup_decoded {slots : List Slot} {values : List Value} {f : Slot × Value → Decoded}
    (hlength : values.length = slots.length) (hnodup : (slots.map (·.wireName)).Nodup)
    {p : Slot × Value} (hp : p ∈ slots.zip values) :
    (Table.ofEntries ((Value.written slots values).map fun p => (p.1.wireName, f p))).lookup
        p.1.wireName = if Value.omitted p.1 p.2 then none else some (f p) := by
  have hzip := nodup_wireNames_zip hlength hnodup
  have hsub : (Value.written slots values).Sublist (slots.zip values) := List.filter_sublist
  have hentries : (((Value.written slots values).map fun p => (p.1.wireName, f p)).map
      Prod.fst).Nodup := by
    rw [List.map_map]
    exact hzip.sublist (hsub.map _)
  rw [Table.lookup_ofEntries_of_nodup hentries]
  split
  · rename_i homitted
    rw [Table.lookup_eq_none_iff_not_mem, List.map_map]
    intro hmem
    obtain ⟨q, hq, heq⟩ := List.mem_map.mp hmem
    -- Slots with one name are one slot, and this one is not written.
    obtain rfl := List.inj_on_of_nodup_map hzip (hsub.subset hq) hp heq
    have hwritten := (List.mem_filter.mp hq).2
    rw [homitted] at hwritten
    cases hwritten
  · rename_i hwritten
    refine Table.lookup_of_mem hentries (List.mem_map.mpr ⟨p, ?_, rfl⟩)
    exact List.mem_filter.mpr ⟨hp, by simpa using hwritten⟩

theorem attributesKey_not_mem_toJsonFields {slots : List Slot}
    (h : attributesKey ∉ slots.map (·.wireName)) (values : List Value) :
    attributesKey ∉ (Value.toJsonFields c slots values).map Prod.fst := by
  rw [Value.toJsonFields_eq, List.map_map]
  intro hmem
  obtain ⟨p, hp, heq⟩ := List.mem_map.mp hmem
  exact h (List.mem_map.mpr ⟨p.1, (List.of_mem_zip (List.mem_filter.mp hp).1).1, heq⟩)

theorem decodeFields_toJsonFields {owner : String} {slots : List Slot} {values : List Value}
    {f : Slot × Value → Decoded} (hattributes : attributesKey ∉ slots.map (·.wireName))
    (hf : ∀ p ∈ slots.zip values,
      decodeMember r owner (p.1.wireName, p.2.toJson c) = .ok (f p)) :
    decodeFields r .data owner [] (Value.toJsonFields c slots values) =
      .ok (Table.ofEntries ((Value.written slots values).map fun p => (p.1.wireName, f p))) := by
  have hall : fieldMembers .data (Value.toJsonFields c slots values) =
      Value.toJsonFields c slots values := by
    rw [fieldMembers, List.filter_eq_self]
    intro m hm
    have hname : m.1 ≠ attributesKey := fun heq =>
      attributesKey_not_mem_toJsonFields hattributes values (List.mem_map.mpr ⟨m, hm, heq⟩)
    simp [isField, hname]
  refine decodeFields_eq_ok_iff.mpr ⟨_, ?_, rfl⟩
  rw [hall, Value.toJsonFields_eq, List.forall₂_map_left_iff, List.forall₂_map_right_iff,
    List.forall₂_same]
  exact fun p hp => ⟨rfl, hf p (List.mem_filter.mp hp).1⟩

/-- From the table of the decoded slots every slot takes its own value. -/
theorem takeAll_decoded {slots : List Slot} {values : List Value} {f : Slot × Value → Decoded}
    {owner : String} {handle : Option String} (hlength : values.length = slots.length)
    (hnodup : (slots.map (·.wireName)).Nodup)
    (hvalues : ∀ p ∈ slots.zip values, c.Holds p.1.shape p.2)
    (hread : ∀ p ∈ slots.zip values, c.read (f p) p.1.shape = .ok p.2) :
    (c.takeAll (c.openObject ⟨owner, handle, Table.ofEntries
      ((Value.written slots values).map fun p => (p.1.wireName, f p))⟩) slots).1 = .ok values := by
  refine Client.takeAll_eq_ok hlength hnodup fun p hp => ?_
  have hlookup := @lookup_decoded _ _ f hlength hnodup p hp
  cases homitted : Value.omitted p.1 p.2 with
  | true =>
      rw [homitted, if_pos rfl] at hlookup
      refine Client.take_fst_of_lookup_eq_none ?_ (readNull_of_omitted (hvalues p hp) homitted)
      rw [Client.lookup_openObject, hlookup]
      rfl
  | false =>
      rw [homitted, if_neg Bool.false_ne_true] at hlookup
      have hpart : (c.openObject ⟨owner, handle, Table.ofEntries ((Value.written slots values).map
          fun p => (p.1.wireName, f p))⟩).parts.lookup p.1.wireName =
          some ⟨f p, (c.node (f p)).read c⟩ := by
        rw [Client.lookup_openObject, hlookup]
        rfl
      exact Client.take_fst_of_lookup_eq_some hpart (hread p hp)

theorem transfers_record (hc : c.Coherent r) {name : TypeName} {t : StructType} {values : List Value}
    (ht : c.record? name = some t) (hlength : values.length = (c.recordSlots name).length)
    (hvalues : ∀ p ∈ (c.recordSlots name).zip values, c.Holds p.1.shape p.2)
    (htransfers : ∀ p ∈ (c.recordSlots name).zip values, ∀ key, c.fits r p.1.shape key = true →
      c.Transfers r p.1.shape key p.2)
    (hfits : c.fits r (.named .data name) key = true) :
    c.Transfers r (.named .data name) key (.record name values) := by
  rw [Client.fits, Bool.and_eq_true, beq_iff_eq] at hfits
  obtain ⟨rfl, hnames⟩ := hfits
  obtain ⟨hne, harray, hkind, hreading⟩ := namesKind_eq_true_iff.mp hnames
  have hstrip := stripArray_of_isNone harray
  have hmem : t ∈ c.records := List.mem_of_find?_eq_some ht
  obtain rfl : t.name = name := by simpa using List.find?_some ht
  have hkey : c.recordKey t.name = t.wireName := by rw [Client.recordKey, ht]; rfl
  rw [hkey] at hne hkind hreading hstrip ⊢
  have hdecoded : ∀ p ∈ (c.recordSlots t.name).zip values, ∃ d,
      decodeMember r t.wireName (p.1.wireName, p.2.toJson c) = .ok d ∧ c.read d p.1.shape = .ok p.2 := by
    intro p hp
    have hslot := hc.slots t hmem p.1 (List.of_mem_zip hp).1
    rw [Option.any_eq_true] at hslot
    obtain ⟨type, htype, hfitsSlot⟩ := hslot
    rw [decodeMember, htype]
    exact htransfers p hp type.key hfitsSlot
  choose! f hf using hdecoded
  -- Records are written without a type of their own, so the declared one is read.
  have hattributes := hc.attributes t hmem
  have hfields := decodeFields_toJsonFields hattributes fun p hp => (hf p hp).1
  have htype : effectiveType r (stripArray t.wireName)
      (Value.toJsonFields c (c.recordSlots t.name) values) = t.wireName := by
    rw [hstrip, effectiveType,
      discriminator?_of_not_mem (attributesKey_not_mem_toJsonFields hattributes values)]
  refine ⟨.object t.wireName none (Table.ofEntries ((Value.written (c.recordSlots t.name) values).map
    fun p => (p.1.wireName, f p))), ?_, ?_⟩
  · rw [Value.toJson, decode_object_of_fields hne (by rw [hstrip]; exact hreading) htype hkind
      TypeKind.noConfusion, hfields]
    rfl
  · rw [Client.read_record,
      takeAll_decoded hlength (hc.distinct t hmem) hvalues fun p hp => (hf p hp).2]
    rfl

theorem transfers_list {element : Shape} {items : List Value} {itemKey : String}
    (hkey : stripArray? key = some itemKey)
    (hitems : ∀ v ∈ items, c.Transfers r element itemKey v) :
    c.Transfers r (.list element) key (.list items) := by
  have hne : key ≠ "" := by
    rintro rfl
    cases hkey
  have hstrip : stripArray key = itemKey := by rw [stripArray, hkey]; rfl
  choose! f hf using hitems
  refine ⟨.list (items.map f), ?_, Client.read_list_eq_ok ?_⟩
  · rw [Value.toJson, Value.toJsonItems_eq, decode_array_eq_ok_iff hne, hstrip]
    refine ⟨_, ?_, rfl⟩
    rw [List.forall₂_map_left_iff, List.forall₂_map_right_iff, List.forall₂_same]
    exact fun v hv => (hf v hv).1
  · rw [List.forall₂_map_left_iff, List.forall₂_same]
    exact fun v hv => (hf v hv).2

/-! ### All values -/

/-- Values that are not null in JSON unless null may stand for them. -/
theorem toJson_ne_null {shape : Shape} {v : Value} (hv : c.Holds shape v)
    (hfits : c.fits r shape key = true) (hnullable : shape.isNullable = false)
    (hany : v ≠ .any .null) : v.toJson c ≠ .null := by
  induction hv with
  | boxed _ ih => exact ih hfits hnullable hany
  | unit => cases hfits
  | single => cases hfits
  | double => cases hfits
  | any j =>
      intro heq
      exact hany (congrArg Value.any heq)
  | absent => cases hnullable
  | present => cases hnullable
  | _ => exact Json.noConfusion

/-- A value that may be sent comes back under every key that fits its shape. -/
theorem transfers_of_holds (hc : c.Coherent r) {shape : Shape} {v : Value} (hv : c.Holds shape v) :
    ∀ {key}, c.fits r shape key = true → v.Sendable c r → c.Transfers r shape key v := by
  induction hv with
  | unit => exact fun hfits _ => by cases hfits
  | integer hwidth hn => exact fun hfits _ => transfers_integer hwidth hn hfits
  | single bits => exact fun hfits _ => by cases hfits
  | double bits => exact fun hfits _ => by cases hfits
  | boolean b => exact fun hfits _ => transfers_boolean b hfits
  | text s => exact fun hfits _ => transfers_text s hfits
  | any j => exact fun hfits hsend => transfers_any (hsend.untyped j .self) hfits
  | dateTime ht => exact fun hfits hsend => transfers_dateTime ht (hsend.dates _ .self) hfits
  | binary bytes => exact fun hfits _ => by cases hfits
  | enumeration he htext => exact fun hfits _ => transfers_enumeration he htext hfits
  | record ht hlength hvalues ih =>
      intro key hfits hsend
      refine transfers_record hc ht hlength hvalues (fun p hp key' hfits' => ?_) hfits
      exact ih p hp hfits' (hsend.of_mem_values (List.of_mem_zip hp).2)
  | @handle name t reference values ht hlength _ _ =>
      intro key hfits hsend
      obtain ⟨habsent, hsub⟩ := hsend.handles name reference values .self
      exact transfers_handle hc hlength habsent hsub hfits
  | boxed _ ih => exact fun hfits hsend => ih hfits hsend
  | @absent inner => exact fun _ _ => ⟨.null, rfl, Client.read_option_null inner⟩
  | @present inner v hv ih =>
      intro key hfits hsend
      rw [Client.fits, Bool.and_eq_true, Bool.not_eq_true'] at hfits
      obtain ⟨d, hd, hread⟩ := ih hfits.2 hsend.of_present
      -- What is present must not be decoded as null, which reads as absent.
      have hany : v ≠ .any .null := by
        rintro rfl
        exact hsend.options .self
      have hnull : d.isNull = false := by
        cases d with
        | null => exact absurd (eq_null_of_decode hd) (toJson_ne_null hv hfits.2 hfits.1 hany)
        | _ => rfl
      exact ⟨d, hd, Client.read_option_of_read hnull hread⟩
  | @list element items hitems ih =>
      intro key hfits hsend
      rw [Client.fits] at hfits
      cases hstrip : stripArray? key with
      | none => simp [hstrip] at hfits
      | some itemKey =>
          simp only [hstrip] at hfits
          exact transfers_list hstrip fun v hv => ih v hv hfits (hsend.of_mem_items hv)

theorem Client.Transfers.reconstruct_eq_ok {shape : Shape} {v : Value}
    (h : c.Transfers r shape key v) : c.reconstruct r key (v.toJson c) shape = .ok v := by
  obtain ⟨d, hd, hread⟩ := h
  rw [Client.reconstruct, hd]
  exact hread

end Vmodl
