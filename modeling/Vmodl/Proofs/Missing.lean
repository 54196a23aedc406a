import Mathlib.Logic.Relation
import Vmodl.Proofs.Handles

/-!
# Missing values

A record is read field by field, those of its parents first, and the first field that cannot be read
decides what is reported. A required field without a value is reported under the type of its object and
its own name. What is missing further inside keeps the name that it got there: the field around it does
not give it another one, and where names tell the fields apart it cannot be taken for that field.
-/

namespace Vmodl

open Wire

/-- Values of the shape are needed: null does not stand for one. -/
def Shape.isRequired : Shape → Bool
  | .option _ => false
  | .list _ => false
  | .boxed inner => isRequired inner
  | _ => true

/-- The name under which an outcome reports that a value is missing. -/
def Outcome.missing? {α : Type} : Except Failure α → Option String
  | .error (.missing key) => some key
  | _ => none

theorem Outcome.missing?_eq_some_iff {α : Type} {x : Except Failure α} {key : String} :
    missing? x = some key ↔ x = .error (.missing key) := by
  rcases x with e | a
  · cases e <;> simp [missing?]
  · simp [missing?]

/-- Induction over a decoded value, through its items and its fields. -/
theorem Wire.Decoded.nestedInduction {motive : Decoded → Prop} (null : motive .null)
    (scalar : ∀ j, motive (.scalar j)) (dateTime : ∀ t, motive (.dateTime t))
    (binary : ∀ bytes, motive (.binary bytes))
    (list : ∀ items, (∀ d ∈ items, motive d) → motive (.list items))
    (object : ∀ key handle fields, (∀ e ∈ fields, motive e.2) → motive (.object key handle fields)) :
    ∀ d, motive d
  | .null => null
  | .scalar j => scalar j
  | .dateTime t => dateTime t
  | .binary bytes => binary bytes
  | .list items =>
      list items fun d _ => nestedInduction null scalar dateTime binary list object d
  | .object key handle fields =>
      object key handle fields fun e _ => nestedInduction null scalar dateTime binary list object e.2
termination_by d => sizeOf d
decreasing_by
  · have hd : sizeOf d < sizeOf items := List.sizeOf_lt_of_mem ‹_›
    simp only [Decoded.list.sizeOf_spec]
    omega
  · have he : sizeOf e < sizeOf fields := List.sizeOf_lt_of_mem ‹_›
    have hsnd : sizeOf e.2 < sizeOf e := by
      cases e
      simp only [Prod.mk.sizeOf_spec]
      omega
    simp only [Decoded.object.sizeOf_spec]
    omega

namespace Client

variable {c : Client}

/-- The value that an object has for a slot can be read. -/
def Materializes (c : Client) (o : DecodedObject) (slot : Slot) : Prop :=
  ∃ v, c.read (o.remove slot.wireName).1 slot.shape = .ok v

/-- Reading an object stops at a slot with a failure: those before it can be read, and it cannot. If it
has no value, that is reported, and otherwise the failure of its value is passed on as it is. -/
structure StopsAt (c : Client) (o : DecodedObject) (slots : List Slot) (slot : Slot) (e : Failure) :
    Prop where
  first : ∃ before after, slots = before ++ slot :: after ∧ ∀ s ∈ before, c.Materializes o s
  refused : ¬c.Materializes o slot
  missing : (o.remove slot.wireName).1 = .null →
    slot.shape.isRequired = true ∧ e = .missing (o.typeKey ++ "." ++ slot.wireName)
  passed : (o.remove slot.wireName).1 ≠ .null →
    c.read (o.remove slot.wireName).1 slot.shape = .error e

/-- Reading a value in a shape comes down to filling slots from an object: the one that the value is, or
that the first item of it is that cannot be read. -/
inductive Opens (c : Client) : Decoded → Shape → DecodedObject → List Slot → Prop
  | record {d : Decoded} {o : DecodedObject} {name : TypeName}
      (hobject : d.toObject (c.recordKey name) = .ok o) :
      Opens c d (.named .data name) o (c.recordSlots name)
  | handle {d : Decoded} {o : DecodedObject} {name : TypeName} {id : String}
      (hobject : d.toObject (c.handleKey name) = .ok o) (hid : o.handle = some id)
      (hfields : o.fields ≠ []) : Opens c d (.named .managed name) o (c.handleSlots name)
  | boxed {d : Decoded} {inner : Shape} {o : DecodedObject} {slots : List Slot}
      (h : Opens c d inner o slots) : Opens c d (.boxed inner) o slots
  | option {d : Decoded} {inner : Shape} {o : DecodedObject} {slots : List Slot}
      (h : Opens c d inner o slots) : Opens c d (.option inner) o slots
  | single {d : Decoded} {element : Shape} {o : DecodedObject} {slots : List Slot}
      (hsingle : ∀ items, d ≠ .list items) (h : Opens c d element o slots) :
      Opens c d (.list element) o slots
  | item {before after : List Decoded} {item : Decoded} {element : Shape} {o : DecodedObject}
      {slots : List Slot} (hbefore : ∀ d ∈ before, ∃ v, c.read d element = .ok v)
      (hitem : ∀ v, c.read item element ≠ .ok v) (h : Opens c item element o slots) :
      Opens c (.list (before ++ item :: after)) (.list element) o slots

/-- The slots of the values that a shape names. -/
def slotsOf (c : Client) : Shape → List Slot
  | .named .data name => c.recordSlots name
  | .named .managed name => c.handleSlots name
  | _ => []

/-- The shapes of what values of a shape hold. -/
def components (c : Client) : Shape → List Shape
  | .boxed inner => [inner]
  | .option inner => [inner]
  | .list element => [element]
  | shape => (c.slotsOf shape).map (·.shape)

/-- Values of a shape may hold values of another one, at whatever depth. -/
def Nests (c : Client) : Shape → Shape → Prop :=
  Relation.ReflTransGen fun shape inner => inner ∈ c.components shape

theorem StopsAt.mem {o : DecodedObject} {slots : List Slot} {slot : Slot} {e : Failure}
    (h : c.StopsAt o slots slot e) : slot ∈ slots := by
  obtain ⟨before, after, rfl, _⟩ := h.first
  exact List.mem_append_right before List.mem_cons_self

theorem read_null_of_not_isRequired {shape : Shape} (h : shape.isRequired = false) :
    ∃ v, c.read .null shape = .ok v := by
  induction shape with
  | primitive p => cases h
  | named kind name => cases h
  | boxed inner ih =>
      rw [read_boxed]
      exact ih h
  | list element => exact ⟨.list [], rfl⟩
  | option inner => exact ⟨.absent, rfl⟩

theorem exists_missing_of_read_null {shape : Shape} {e : Failure} (h : c.read .null shape = .error e) :
    ∃ key, e = .missing key := by
  induction shape with
  | primitive p =>
      rw [read_primitive] at h
      cases p <;> cases h <;> exact ⟨_, rfl⟩
  | named kind name => cases kind <;> cases h <;> exact ⟨_, rfl⟩
  | boxed inner ih =>
      rw [read_boxed] at h
      exact ih h
  | list element => cases h
  | option inner => cases h

/-! ### The first failure -/

theorem take_eq_error_iff {o : DecodedObject} {slot : Slot} {e : Failure} :
    (c.take (c.openObject o) slot.wireName slot.shape).1 = .error e ↔
      ¬c.Materializes o slot ∧
        ((o.remove slot.wireName).1 = .null →
          slot.shape.isRequired = true ∧ e = .missing (o.typeKey ++ "." ++ slot.wireName)) ∧
        ((o.remove slot.wireName).1 ≠ .null →
          c.read (o.remove slot.wireName).1 slot.shape = .error e) := by
  rw [take_openObject, Outcome.mapError_eq_error_iff]
  unfold Materializes
  by_cases hnull : (o.remove slot.wireName).1 = .null
  · rw [hnull]
    constructor
    · rintro ⟨e', he', rfl⟩
      obtain ⟨key, rfl⟩ := exists_missing_of_read_null he'
      refine ⟨?_, fun _ => ⟨?_, ?_⟩, fun h => absurd rfl h⟩
      · rintro ⟨v, hv⟩
        cases hv.symm.trans he'
      · cases hrequired : slot.shape.isRequired with
        | true => rfl
        | false =>
            obtain ⟨v, hv⟩ := read_null_of_not_isRequired (c := c) hrequired
            cases hv.symm.trans he'
      · rw [fieldFailure, if_pos (Decoded.isNull_eq_true_iff.mpr hnull)]
    · rintro ⟨hrefused, hmissing, -⟩
      obtain ⟨_, rfl⟩ := hmissing rfl
      cases hread : c.read .null slot.shape with
      | ok v => exact absurd ⟨v, hread⟩ hrefused
      | error e' =>
          obtain ⟨key, rfl⟩ := exists_missing_of_read_null hread
          refine ⟨_, rfl, ?_⟩
          rw [fieldFailure, if_pos (Decoded.isNull_eq_true_iff.mpr hnull)]
  · have hkept : ∀ e', fieldFailure o slot.wireName e' = e' := by
      intro e'
      cases e' <;> simp only [fieldFailure, if_neg (mt Decoded.isNull_eq_true_iff.mp hnull)]
    simp only [hkept, exists_eq_right]
    constructor
    · intro h
      refine ⟨?_, fun hvalue => absurd hvalue hnull, fun _ => h⟩
      rintro ⟨v, hv⟩
      cases hv.symm.trans h
    · rintro ⟨-, -, h⟩
      exact h hnull

/-- Slots for different fields stop at the first that cannot be filled. -/
theorem takeAll_eq_error_iff {o : DecodedObject} {slots : List Slot} {e : Failure}
    (hnodup : (slots.map (·.wireName)).Nodup) :
    (c.takeAll (c.openObject o) slots).1 = .error e ↔ ∃ slot, c.StopsAt o slots slot e := by
  have hok : ∀ s : Slot, (∃ v, (c.take (c.openObject o) s.wireName s.shape).1 = .ok v) ↔
      c.Materializes o s := by
    intro s
    simp only [take_openObject, Outcome.mapError_eq_ok_iff]
    rfl
  rw [takeAll_fst _ hnodup, Outcome.mapM_eq_error_iff]
  simp only [hok, take_eq_error_iff]
  constructor
  · rintro ⟨before, slot, after, hslots, hbefore, hrefused, hmissing, hpassed⟩
    exact ⟨slot, ⟨before, after, hslots, hbefore⟩, hrefused, hmissing, hpassed⟩
  · rintro ⟨slot, ⟨before, after, hslots, hbefore⟩, hrefused, hmissing, hpassed⟩
    exact ⟨before, slot, after, hslots, hbefore, hrefused, hmissing, hpassed⟩

theorem exists_takeAll_eq_error_iff {o : DecodedObject} {slots : List Slot}
    (hnodup : (slots.map (·.wireName)).Nodup) :
    (∃ e, (c.takeAll (c.openObject o) slots).1 = .error e) ↔ ∃ slot ∈ slots, ¬c.Materializes o slot := by
  constructor
  · rintro ⟨e, he⟩
    obtain ⟨slot, hstops⟩ := (takeAll_eq_error_iff hnodup).mp he
    exact ⟨slot, hstops.mem, hstops.refused⟩
  · rintro ⟨slot, hslot, hrefused⟩
    cases htake : (c.takeAll (c.openObject o) slots).1 with
    | error e => exact ⟨e, rfl⟩
    | ok values =>
        rw [takeAll_fst _ hnodup] at htake
        obtain ⟨v, hv⟩ := Outcome.exists_mapM_eq_ok_iff.mp ⟨values, htake⟩ slot hslot
        rw [take_openObject, Outcome.mapError_eq_ok_iff] at hv
        exact absurd ⟨v, hv⟩ hrefused

theorem Opens.ne_null {d : Decoded} {shape : Shape} {o : DecodedObject} {slots : List Slot}
    (h : c.Opens d shape o slots) : d ≠ .null := by
  induction h with
  | record hobject =>
      rintro rfl
      cases hobject
  | handle hobject =>
      rintro rfl
      cases hobject
  | boxed _ ih => exact ih
  | option _ ih => exact ih
  | single _ _ ih => exact ih
  | item => exact Decoded.noConfusion

/-- A value whose reading comes down to an object is refused for what the object is refused for. -/
theorem Opens.read_eq_error_iff {d : Decoded} {shape : Shape} {o : DecodedObject} {slots : List Slot}
    (h : c.Opens d shape o slots) {e : Failure} :
    c.read d shape = .error e ↔ (c.takeAll (c.openObject o) slots).1 = .error e := by
  induction h with
  | record hobject =>
      rw [read_data, hobject, Outcome.ok_bind, Outcome.map_eq_error_iff]
  | @handle d o name id hobject hid hfields =>
      have hempty : ¬o.fields.isEmpty = true := mt List.isEmpty_iff.mp hfields
      rw [read_managed, hobject, Outcome.ok_bind, DecodedObject.reference, hid, Outcome.ok_bind,
        if_neg hempty]
      exact Outcome.map_eq_error_iff
  | boxed _ ih => rw [read_boxed, ih]
  | option h ih => rw [read_option_of_ne_null h.ne_null, Outcome.map_eq_error_iff, ih]
  | single hsingle h ih =>
      rw [read_list_of_single h.ne_null hsingle, Outcome.map_eq_error_iff, ih]
  | item hbefore hitem _ ih =>
      rw [read_list, Outcome.map_eq_error_iff, Outcome.mapM_append_cons_eq_error_iff hbefore hitem, ih]

/-- A value of the shape may lack what is reported under the key: a value in a list, or a required field
of an object. -/
inductive Lacks (c : Client) (shape : Shape) (key : String) : Prop
  | value {s : Shape} (hnests : c.Nests shape s) (hkey : c.read .null s = .error (.missing key))
  | field {s : Shape} {slot : Slot} (owner : String) (hnests : c.Nests shape s)
      (hslot : slot ∈ c.slotsOf s) (hrequired : slot.shape.isRequired = true)
      (hkey : key = owner ++ "." ++ slot.wireName)

theorem Lacks.of_component {shape inner : Shape} {key : String} (h : c.Lacks inner key)
    (hinner : inner ∈ c.components shape) : c.Lacks shape key := by
  cases h with
  | value hnests hkey => exact .value (.head hinner hnests) hkey
  | field owner hnests hslot hrequired hkey => exact .field owner (.head hinner hnests) hslot hrequired hkey

/-- Whatever is missing in a value that is not null is something that values of the shape may lack. -/
def ReportsLack (c : Client) (d : Decoded) : Prop :=
  d ≠ .null → ∀ shape key, c.read d shape = .error (.missing key) → c.Lacks shape key

theorem eq_null_of_scalarOf {α : Type} {p : Primitive} {d : Decoded} {key : String}
    {f : Json → Option α} {g : α → Value}
    (h : (p.scalarOf d >>= fun j => p.orUnexpected j (f j) >>= fun a => pure (g a)) =
      .error (.missing key)) : d = .null := by
  rcases Outcome.bind_eq_error_iff.mp h with hscalar | ⟨j, _, hvalue⟩
  · cases d with
    | null => rfl
    | _ => cases hscalar
  · cases hj : f j with
    | none =>
        rw [hj] at hvalue
        cases hvalue
    | some a =>
        rw [hj] at hvalue
        cases hvalue

theorem eq_null_of_read_primitive {d : Decoded} {p : Primitive} {key : String}
    (h : p.read d = .error (.missing key)) : d = .null := by
  cases p with
  | void => cases h
  | any => cases h
  | string => exact eq_null_of_scalarOf (f := fun j => some (Primitive.textOf j)) h
  | dateTime =>
      rcases d with _ | (_ | _ | _ | text | _ | _) | _ | _ | _ | _ <;> try cases h
      · rfl
      · rw [Primitive.read, Primitive.readDateTime, Outcome.map_eq_error_iff, readInstant,
          Outcome.mapError_eq_error_iff] at h
        obtain ⟨_, _, hflaw⟩ := h
        cases hflaw
  | binary =>
      rcases d with _ | (_ | _ | _ | text | _ | _) | _ | _ | _ | _ <;> try cases h
      · rfl
      · rw [Primitive.read, Primitive.readBinary, Outcome.map_eq_error_iff, readBytes,
          Outcome.mapError_eq_error_iff] at h
        obtain ⟨_, _, hflaw⟩ := h
        cases hflaw
  | _ => exact eq_null_of_scalarOf h

/-- The fields of the object that a value is are parts of the value. -/
theorem fields_of_toObject {d : Decoded} {wanted : String} {o : DecodedObject}
    (h : d.toObject wanted = .ok o) : d = o.decoded ∨ o.fields = [] := by
  cases d with
  | object key handle fields =>
      cases h
      exact .inl rfl
  | scalar j =>
      cases j with
      | string id =>
          cases h
          exact .inr rfl
      | _ => cases h
  | _ => cases h

theorem eq_null_of_toObject {d : Decoded} {wanted key : String}
    (h : d.toObject wanted = .error (.missing key)) : d = .null := by
  cases d with
  | null => rfl
  | scalar j => cases j <;> cases h
  | _ => cases h

/-- What is missing in an object is the field that reading stops at, or is missing in its value. -/
theorem lacks_of_takeAll {s : Shape} (hnodup : ((c.slotsOf s).map (·.wireName)).Nodup)
    (hcomponents : c.components s = (c.slotsOf s).map (·.shape)) {o : DecodedObject}
    (hfields : ∀ e ∈ o.fields, c.ReportsLack e.2) {key : String}
    (h : (c.takeAll (c.openObject o) (c.slotsOf s)).1 = .error (.missing key)) : c.Lacks s key := by
  obtain ⟨slot, hstops⟩ := (takeAll_eq_error_iff hnodup).mp h
  by_cases hnull : (o.remove slot.wireName).1 = .null
  · obtain ⟨hrequired, hkey⟩ := hstops.missing hnull
    cases hkey
    exact .field o.typeKey .refl hstops.mem hrequired rfl
  · have hmem : (slot.wireName, (o.remove slot.wireName).1) ∈ o.fields := by
      apply Table.mem_of_lookup
      rw [DecodedObject.remove] at hnull ⊢
      cases hfield : o.fields.lookup slot.wireName with
      | none =>
          rw [hfield] at hnull
          exact absurd rfl hnull
      | some d => rfl
    have hinner := hfields _ hmem hnull slot.shape key (hstops.passed hnull)
    apply hinner.of_component
    rw [hcomponents]
    exact List.mem_map_of_mem hstops.mem

/-- The step over one value: what is missing in it is missing in a part of it, or is a part of it. -/
theorem reportsLack_step (hnodup : ∀ s, ((c.slotsOf s).map (·.wireName)).Nodup) {d : Decoded}
    (hitems : ∀ items, d = .list items → ∀ item ∈ items, c.ReportsLack item)
    (hfields : ∀ o : DecodedObject, d = o.decoded → ∀ e ∈ o.fields, c.ReportsLack e.2) :
    c.ReportsLack d := by
  intro hnull shape
  induction shape with
  | primitive p =>
      intro key h
      rw [read_primitive] at h
      exact absurd (eq_null_of_read_primitive h) hnull
  | boxed inner ih =>
      intro key h
      rw [read_boxed] at h
      exact (ih key h).of_component List.mem_cons_self
  | option inner ih =>
      intro key h
      rw [read_option_of_ne_null hnull, Outcome.map_eq_error_iff] at h
      exact (ih key h).of_component List.mem_cons_self
  | list element ih =>
      intro key h
      by_cases hlist : ∃ items, d = .list items
      · obtain ⟨items, rfl⟩ := hlist
        rw [read_list, Outcome.map_eq_error_iff, Outcome.mapM_eq_error_iff] at h
        obtain ⟨before, item, after, rfl, _, hitem⟩ := h
        have hmem : item ∈ before ++ item :: after := List.mem_append_right before List.mem_cons_self
        have hlacks : c.Lacks element key := by
          by_cases hitemNull : item = .null
          · rw [hitemNull] at hitem
            exact .value .refl hitem
          · exact hitems _ rfl item hmem hitemNull element key hitem
        exact hlacks.of_component List.mem_cons_self
      · have hsingle : ∀ items, d ≠ .list items := fun items h => hlist ⟨items, h⟩
        rw [read_list_of_single hnull hsingle, Outcome.map_eq_error_iff] at h
        exact (ih key h).of_component List.mem_cons_self
  | named kind name =>
      intro key h
      -- The fields of the object that the value is are parts of the value.
      have hparts : ∀ {wanted o}, d.toObject wanted = .ok o → ∀ e ∈ o.fields, c.ReportsLack e.2 := by
        intro wanted o ho e he
        rcases fields_of_toObject ho with hd | hnil
        · exact hfields o hd e he
        · rw [hnil] at he
          cases he
      cases kind with
      | enumeration =>
          rcases d with _ | (_ | _ | _ | text | _ | _) | _ | _ | _ | _ <;> try cases h
          · exact absurd rfl hnull
          · rw [read_enumeration_text] at h
            split at h <;> cases h
      | data =>
          rw [read_data] at h
          rcases Outcome.bind_eq_error_iff.mp h with hobject | ⟨o, ho, htake⟩
          · exact absurd (eq_null_of_toObject hobject) hnull
          · rw [Outcome.map_eq_error_iff] at htake
            exact lacks_of_takeAll (hnodup (.named .data name)) rfl (hparts ho) htake
      | managed =>
          rw [read_managed] at h
          rcases Outcome.bind_eq_error_iff.mp h with hobject | ⟨o, ho, hrest⟩
          · exact absurd (eq_null_of_toObject hobject) hnull
          · rcases Outcome.bind_eq_error_iff.mp hrest with hreference | ⟨reference, _, hconstruct⟩
            · rw [DecodedObject.reference] at hreference
              split at hreference <;> cases hreference
            · split at hconstruct
              · cases hconstruct
              · have htake : (c.takeAll (c.openObject o) (c.handleSlots name)).1 =
                    .error (.missing key) := Outcome.map_eq_error_iff.mp hconstruct
                exact lacks_of_takeAll (hnodup (.named .managed name)) rfl (hparts ho) htake

theorem reportsLack (hnodup : ∀ s, ((c.slotsOf s).map (·.wireName)).Nodup) (d : Decoded) :
    c.ReportsLack d := by
  induction d using Decoded.nestedInduction with
  | list items ih =>
      apply reportsLack_step hnodup
      · intro items' heq
        cases heq
        exact ih
      · intro o heq
        cases heq
  | object key handle fields ih =>
      apply reportsLack_step hnodup
      · intro items heq
        cases heq
      · intro o heq
        cases heq
        exact ih
  | _ =>
      apply reportsLack_step hnodup
      · intro items heq
        cases heq
      · intro o heq
        cases heq

/-- What follows the last dot of a text is determined by it. -/
theorem eq_of_append_dot {a b x y : String} (hx : '.' ∉ x.toList) (hy : '.' ∉ y.toList)
    (h : a ++ "." ++ x = b ++ "." ++ y) : x = y := by
  have hlist : a.toList ++ '.' :: x.toList = b.toList ++ '.' :: y.toList := by
    simpa [String.toList_append] using congrArg String.toList h
  have hstep : ∀ {u v w : List Char}, '.' :: v = u ++ '.' :: w → '.' ∉ v → v = w := by
    intro u v w heq hv
    cases u with
    | nil => exact (List.cons.inj heq).2
    | cons ch u =>
        have htail := (List.cons.inj heq).2
        rw [htail] at hv
        exact absurd (List.mem_append_right u List.mem_cons_self) hv
  rcases List.append_eq_append_iff.mp hlist with ⟨u, _, heq⟩ | ⟨u, _, heq⟩
  · exact String.toList_injective (hstep heq hx)
  · exact String.toList_injective (hstep heq hy).symm

/-- All that values of a slot may hold is of one of the shapes, and what these may lack is reported under
other names than the slot itself. -/
structure Surveys (c : Client) (shapes : List Shape) (slot : Slot) : Prop where
  start : slot.shape ∈ shapes
  closed : ∀ s ∈ shapes, ∀ inner ∈ c.components s, inner ∈ shapes
  dotless : '.' ∉ slot.wireName.toList
  values : ∀ s ∈ shapes, ∀ key ∈ Outcome.missing? (c.readNull s), '.' ∉ key.toList
  fields : ∀ s ∈ shapes, ∀ slot' ∈ c.slotsOf s, slot'.shape.isRequired = true →
    '.' ∉ slot'.wireName.toList ∧ slot'.wireName ≠ slot.wireName

instance (c : Client) (shapes : List Shape) (slot : Slot) : Decidable (c.Surveys shapes slot) :=
  decidable_of_iff (slot.shape ∈ shapes ∧
      (∀ s ∈ shapes, ∀ inner ∈ c.components s, inner ∈ shapes) ∧ '.' ∉ slot.wireName.toList ∧
      (∀ s ∈ shapes, ∀ key ∈ Outcome.missing? (c.readNull s), '.' ∉ key.toList) ∧
      ∀ s ∈ shapes, ∀ slot' ∈ c.slotsOf s, slot'.shape.isRequired = true →
        '.' ∉ slot'.wireName.toList ∧ slot'.wireName ≠ slot.wireName)
    ⟨fun ⟨hstart, hclosed, hdotless, hvalues, hfields⟩ =>
        ⟨hstart, hclosed, hdotless, hvalues, hfields⟩,
      fun h => ⟨h.start, h.closed, h.dotless, h.values, h.fields⟩⟩

/-- Some shapes and those of what their values hold, down to a depth. -/
def shapesWithin (c : Client) : Nat → List Shape → List Shape
  | 0, shapes => shapes
  | depth + 1, shapes => shapesWithin c depth (shapes.flatMap c.components ∪ shapes)

theorem Surveys.mem_of_nests {shapes : List Shape} {slot : Slot} (h : c.Surveys shapes slot) {s : Shape}
    (hnests : c.Nests slot.shape s) : s ∈ shapes := by
  induction hnests with
  | refl => exact h.start
  | tail _ hinner ih => exact h.closed _ ih _ hinner

theorem Surveys.ne_of_lacks {shapes : List Shape} {slot : Slot} (h : c.Surveys shapes slot)
    {key : String} (hlacks : c.Lacks slot.shape key) (owner : String) :
    key ≠ owner ++ "." ++ slot.wireName := by
  rintro rfl
  cases hlacks with
  | @value s hnests hkey =>
      rw [← readNull_eq] at hkey
      have hdot := h.values s (h.mem_of_nests hnests) _ (Outcome.missing?_eq_some_iff.mpr hkey)
      simp [String.toList_append] at hdot
  | @field s slot' owner' hnests hslot hrequired hkey =>
      obtain ⟨hdot, hne⟩ := h.fields s (h.mem_of_nests hnests) slot' hslot hrequired
      exact hne (eq_of_append_dot hdot h.dotless hkey.symm)

/-! ### Reports on records -/

/-- How the outcome of filling slots from an object tells of the fields that cannot be read: of the first
one, as missing in the object only if the object has no value for it. Where reading that value comes down
to an object inside, the outcome tells of a field of that. -/
structure ReportsFields (c : Client) (o : DecodedObject) (slots : List Slot)
    (outcome : Except Failure Value) : Prop where
  fails : (∃ e, outcome = .error e) ↔ ∃ slot ∈ slots, ¬c.Materializes o slot
  first : ∀ e, outcome = .error e ↔ ∃ slot, c.StopsAt o slots slot e
  missing : ∀ slot e, c.StopsAt o slots slot e →
    (e = .missing (o.typeKey ++ "." ++ slot.wireName) ↔
      slot.shape.isRequired = true ∧ (o.remove slot.wireName).1 = .null)
  nested : ∀ slot e inner slots', c.StopsAt o slots slot e →
    c.Opens (o.remove slot.wireName).1 slot.shape inner slots' → ∃ slot', c.StopsAt inner slots' slot' e

theorem StopsAt.eq_missing_iff (hnodup : ∀ s, ((c.slotsOf s).map (·.wireName)).Nodup)
    {shapes : List Shape} {slot : Slot} (hsurveys : c.Surveys shapes slot) {o : DecodedObject}
    {slots : List Slot} {e : Failure} (h : c.StopsAt o slots slot e) :
    e = .missing (o.typeKey ++ "." ++ slot.wireName) ↔
      slot.shape.isRequired = true ∧ (o.remove slot.wireName).1 = .null := by
  constructor
  · rintro rfl
    by_cases hnull : (o.remove slot.wireName).1 = .null
    · exact ⟨(h.missing hnull).1, hnull⟩
    · have hlacks := reportsLack hnodup _ hnull slot.shape _ (h.passed hnull)
      exact absurd rfl (hsurveys.ne_of_lacks hlacks o.typeKey)
  · rintro ⟨_, hnull⟩
    exact (h.missing hnull).2

theorem nodup_slotsOf
    (hrecords : ∀ t ∈ c.records, ((c.recordSlots t.name).map (·.wireName)).Nodup)
    (hhandles : ∀ t ∈ c.handles, ((c.handleSlots t.name).map (·.wireName)).Nodup) (s : Shape) :
    ((c.slotsOf s).map (·.wireName)).Nodup := by
  -- A name that is none of the types has no slots at all.
  have hchain : ∀ {types : List StructType} {steps : Nat} {name : TypeName},
      (∀ t ∈ types, (((StructType.chainWithin types steps t.name).flatMap (·.own)).map
        (·.wireName)).Nodup) →
      (((StructType.chainWithin types steps name).flatMap (·.own)).map (·.wireName)).Nodup := by
    intro types steps name htypes
    cases hfind : types.find? fun t => t.name == name with
    | none =>
        rw [StructType.chainWithin_eq_nil hfind]
        exact List.nodup_nil
    | some t =>
        obtain rfl : t.name = name := by simpa using List.find?_some hfind
        exact htypes t (List.mem_of_find?_eq_some hfind)
  cases s with
  | named kind name =>
      cases kind with
      | enumeration => exact List.nodup_nil
      | data => exact hchain hrecords
      | managed => exact hchain hhandles
  | _ => exact List.nodup_nil

theorem nodup_of_opens (hnodup : ∀ s, ((c.slotsOf s).map (·.wireName)).Nodup) {d : Decoded}
    {shape : Shape} {o : DecodedObject} {slots : List Slot} (h : c.Opens d shape o slots) :
    (slots.map (·.wireName)).Nodup := by
  induction h with
  | @record d o name => exact hnodup (.named .data name)
  | @handle d o name => exact hnodup (.named .managed name)
  | boxed _ ih => exact ih
  | option _ ih => exact ih
  | single _ _ ih => exact ih
  | item _ _ _ ih => exact ih

theorem reportsFields (hnodup : ∀ s, ((c.slotsOf s).map (·.wireName)).Nodup) {name : TypeName}
    (hsurveys : ∀ slot ∈ c.recordSlots name, ∃ shapes, c.Surveys shapes slot) (o : DecodedObject) :
    c.ReportsFields o (c.recordSlots name) (c.read o.decoded (.named .data name)) := by
  have hopens : c.Opens o.decoded (.named .data name) o (c.recordSlots name) := .record rfl
  have hslots := hnodup (.named .data name)
  constructor
  · simp only [hopens.read_eq_error_iff]
    exact exists_takeAll_eq_error_iff hslots
  · intro e
    rw [hopens.read_eq_error_iff]
    exact takeAll_eq_error_iff hslots
  · intro slot e hstops
    obtain ⟨shapes, hshapes⟩ := hsurveys slot hstops.mem
    exact hstops.eq_missing_iff hnodup hshapes
  · intro slot e inner slots' hstops hinner
    have hread := hstops.passed hinner.ne_null
    rw [hinner.read_eq_error_iff] at hread
    exact (takeAll_eq_error_iff (nodup_of_opens hnodup hinner)).mp hread

end Client

/-- What extends a type is of its kind. -/
def Registry.KeepsKinds (r : Registry) : Prop :=
  ∀ e ∈ r.types, ∀ parent ∈ e.2.parent, r.kind? parent = some e.2.kind

instance (r : Registry) : Decidable r.KeepsKinds :=
  inferInstanceAs (Decidable (∀ e ∈ r.types, ∀ parent ∈ e.2.parent, r.kind? parent = some e.2.kind))

variable {r : Registry}

theorem Registry.KeepsKinds.kind?_of_extends (hr : r.KeepsKinds) {name ancestor : String}
    (h : r.Extends name ancestor) {kind : TypeKind} (hkind : r.kind? ancestor = some kind) :
    r.kind? name = some kind := by
  apply Registry.kind?_of_extends _ h hkind
  intro e he parent hparent hparentKind
  exact Option.some.inj ((hr e he parent hparent).symm.trans hparentKind)

theorem exists_object_of_decode (hr : r.KeepsKinds) {key : String}
    (hkey : namesKind r key .data = true) {members : Json.Members} {d : Decoded}
    (h : decode r key (.object members) = .ok d) :
    ∃ o : DecodedObject, d = o.decoded ∧ o.typeKey = effectiveType r key members := by
  obtain ⟨hne, harray, hkind, hreading⟩ := namesKind_eq_true_iff.mp hkey
  have hstrip := stripArray_of_isNone harray
  have htype : EffectiveType r key (.object members) (effectiveType r key members) :=
    effectiveType_object_iff.mpr rfl
  rw [decode_object_of_fields hne (by rw [hstrip]; exact hreading) (by rw [hstrip])
    (hr.kind?_of_extends htype.extends hkind) TypeKind.noConfusion] at h
  obtain ⟨fields, _, rfl⟩ := Outcome.map_eq_ok_iff.mp h
  exact ⟨⟨effectiveType r key members, none, fields⟩, rfl, rfl⟩

end Vmodl
