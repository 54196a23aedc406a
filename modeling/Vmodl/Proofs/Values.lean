import Mathlib.Algebra.Group.Int.Defs
import Vmodl.Client.Reading
import Vmodl.Proofs.InstantText

/-!
# Values of a shape

Which values a client can hold in a shape, what parts they have, and what they look like in JSON.
-/

namespace Vmodl

open Wire

/-- The width of the integers among the scalars, in bits. -/
def Primitive.width? : Primitive → Option Nat
  | .byte => some 8
  | .short => some 16
  | .int => some 32
  | .long => some 64
  | _ => none

/-- Null may stand for a value of the shape. -/
def Shape.isNullable : Shape → Bool
  | .option _ => true
  | .boxed inner => isNullable inner
  | _ => false

/-- A value of a shape, as the types of a client allow it. -/
inductive Client.Holds (c : Client) : Shape → Value → Prop
  | unit : Holds c (.primitive .void) .unit
  | integer {p : Primitive} {width : Nat} {n : Int} (hwidth : p.width? = some width)
      (hn : -2 ^ (width - 1) ≤ n ∧ n < 2 ^ (width - 1)) : Holds c (.primitive p) (.integer n)
  | single (bits : UInt32) : Holds c (.primitive .float) (.single bits)
  | double (bits : UInt64) : Holds c (.primitive .double) (.double bits)
  | boolean (b : Bool) : Holds c (.primitive .boolean) (.boolean b)
  | text (s : String) : Holds c (.primitive .string) (.text s)
  | any (j : Json) : Holds c (.primitive .any) (.any j)
  | dateTime {t : Instant} (ht : t.Proper) : Holds c (.primitive .dateTime) (.dateTime t)
  | binary (bytes : List UInt8) : Holds c (.primitive .binary) (.binary bytes)
  | enumeration {name : TypeName} {e : EnumType} {text : String} (he : c.enum? name = some e)
      (htext : text ∈ e.variants.map Prod.snd) :
      Holds c (.named .enumeration name) (.enumeration name text)
  | record {name : TypeName} {t : StructType} {values : List Value} (ht : c.record? name = some t)
      (hlength : values.length = (c.recordSlots name).length)
      (hvalues : ∀ p ∈ (c.recordSlots name).zip values, Holds c p.1.shape p.2) :
      Holds c (.named .data name) (.record name values)
  | handle {name : TypeName} {t : StructType} {reference : Reference} {values : List Value}
      (ht : c.handle? name = some t) (hlength : values.length = (c.handleSlots name).length)
      (hvalues : ∀ p ∈ (c.handleSlots name).zip values, Holds c p.1.shape p.2) :
      Holds c (.named .managed name) (.handle name reference values)
  | boxed {inner : Shape} {v : Value} (hv : Holds c inner v) : Holds c (.boxed inner) v
  | absent {inner : Shape} : Holds c (.option inner) .absent
  | present {inner : Shape} {v : Value} (hv : Holds c inner v) : Holds c (.option inner) (.present v)
  | list {element : Shape} {items : List Value} (hitems : ∀ v ∈ items, Holds c element v) :
      Holds c (.list element) (.list items)

/-- Values that a client can pass as the arguments of a method. -/
def Operation.Takes (c : Client) (o : Operation) (values : List Value) : Prop :=
  List.Forall₂ (fun m v => c.Holds m.argumentShape v) o.parameters values

theorem Client.holds_absent {c : Client} {shape : Shape} (h : shape.isNullable = true) :
    c.Holds shape .absent := by
  induction shape with
  | option inner => exact .absent
  | boxed inner ih => exact .boxed (ih h)
  | _ => cases h

theorem Client.holds_newHandle {c : Client} {name : TypeName} {t : StructType}
    (ht : c.handle? name = some t)
    (hnullable : ∀ slot ∈ c.handleSlots name, slot.shape.isNullable = true) (reference : Reference) :
    c.Holds (.named .managed name) (c.newHandle name reference) := by
  refine .handle ht (List.length_map _) fun p hp => ?_
  obtain ⟨_, _, habsent⟩ := List.mem_map.mp (List.of_mem_zip hp).2
  rw [← habsent]
  exact holds_absent (hnullable p.1 (List.of_mem_zip hp).1)

namespace Value

/-- A value is a part of another one, which may be itself. -/
inductive Part : Value → Value → Prop
  | self {v : Value} : Part v v
  | present {w v : Value} (h : Part w v) : Part w (.present v)
  | item {w v : Value} {items : List Value} (hv : v ∈ items) (h : Part w v) : Part w (.list items)
  | field {w v : Value} {name : TypeName} {values : List Value} (hv : v ∈ values) (h : Part w v) :
      Part w (.record name values)
  | property {w v : Value} {name : TypeName} {reference : Reference} {values : List Value}
      (hv : v ∈ values) (h : Part w v) : Part w (.handle name reference values)

end Value

/-- An object somewhere in a value has a member of this name. -/
inductive Json.Contains (name : String) : Json → Prop
  | here {members : Json.Members} (hname : name ∈ members.map Prod.fst) :
      Contains name (.object members)
  | item {items : List Json} {j : Json} (hj : j ∈ items) (h : Contains name j) :
      Contains name (.array items)
  | member {members : Json.Members} {m : String × Json} (hm : m ∈ members)
      (h : Contains name m.2) : Contains name (.object members)

/-- What a value may hold if it is to come back from the wire unchanged. Handles hold no properties and
are of their type or of one that extends it, dates have a year of four digits, and untyped values have
no box and are not null where null says that there is no value. -/
structure Value.Sendable (c : Client) (r : Registry) (v : Value) : Prop where
  handles : ∀ name reference values, Part (.handle name reference values) v →
    (∀ w ∈ values, w = .absent) ∧ r.isSubtype reference.typeName (c.handleKey name) = true
  dates : ∀ t, Part (.dateTime t) v → 0 ≤ t.year ∧ t.year ≤ 9999
  untyped : ∀ j, Part (.any j) v → ¬j.Contains valueKey
  options : ¬Part (.present (.any .null)) v

namespace Value

variable {c : Client} {r : Registry}

theorem Sendable.of_part {v w : Value} (h : Sendable c r v) (hpart : ∀ u, Part u w → Part u v) :
    Sendable c r w where
  handles name reference values hw := h.handles name reference values (hpart _ hw)
  dates t hw := h.dates t (hpart _ hw)
  untyped j hw := h.untyped j (hpart _ hw)
  options hw := h.options (hpart _ hw)

theorem Sendable.of_present {v : Value} (h : Sendable c r (.present v)) : Sendable c r v :=
  h.of_part fun _ => .present

theorem Sendable.of_mem_items {items : List Value} {v : Value} (h : Sendable c r (.list items))
    (hv : v ∈ items) : Sendable c r v :=
  h.of_part fun _ => .item hv

theorem Sendable.of_mem_values {name : TypeName} {values : List Value} {v : Value}
    (h : Sendable c r (.record name values)) (hv : v ∈ values) : Sendable c r v :=
  h.of_part fun _ => .field hv

theorem Sendable.absent : Sendable c r .absent where
  handles _ _ _ h := by cases h
  dates _ h := by cases h
  untyped _ h := by cases h
  options h := by cases h

theorem Sendable.enumeration {name : TypeName} {text : String} :
    Sendable c r (.enumeration name text) where
  handles _ _ _ h := by cases h
  dates _ h := by cases h
  untyped _ h := by cases h
  options h := by cases h

theorem Sendable.dateTime {t : Instant} (hyear : 0 ≤ t.year ∧ t.year ≤ 9999) :
    Sendable c r (.dateTime t) where
  handles _ _ _ h := by cases h
  dates _ h := by
    cases h
    exact hyear
  untyped _ h := by cases h
  options h := by cases h

theorem Sendable.present {v : Value} (h : Sendable c r v) (hv : v ≠ .any .null) :
    Sendable c r (.present v) where
  handles name reference values hpart := by
    cases hpart with
    | present hpart => exact h.handles name reference values hpart
  dates t hpart := by
    cases hpart with
    | present hpart => exact h.dates t hpart
  untyped j hpart := by
    cases hpart with
    | present hpart => exact h.untyped j hpart
  options hpart := by
    cases hpart with
    | self => exact hv rfl
    | present hpart => exact h.options hpart

theorem Sendable.record {name : TypeName} {values : List Value}
    (h : ∀ v ∈ values, Sendable c r v) : Sendable c r (.record name values) where
  handles owner reference properties hpart := by
    cases hpart with
    | field hv hpart => exact (h _ hv).handles owner reference properties hpart
  dates t hpart := by
    cases hpart with
    | field hv hpart => exact (h _ hv).dates t hpart
  untyped j hpart := by
    cases hpart with
    | field hv hpart => exact (h _ hv).untyped j hpart
  options hpart := by
    cases hpart with
    | field hv hpart => exact (h _ hv).options hpart

/-- A new handle has no parts but absent properties. -/
theorem eq_of_part_newHandle {name : TypeName} {reference : Reference} {w : Value}
    (h : Part w (c.newHandle name reference)) : w = c.newHandle name reference ∨ w = .absent := by
  unfold Client.newHandle at h
  cases h with
  | self => exact .inl rfl
  | property hv hpart =>
      obtain ⟨_, _, rfl⟩ := List.mem_map.mp hv
      cases hpart
      exact .inr rfl

theorem Sendable.newHandle {name : TypeName} {reference : Reference}
    (hsub : r.isSubtype reference.typeName (c.handleKey name) = true) :
    Sendable c r (c.newHandle name reference) where
  handles owner other values hpart := by
    rcases eq_of_part_newHandle hpart with heq | heq <;> cases heq
    refine ⟨fun w hw => ?_, hsub⟩
    obtain ⟨_, _, rfl⟩ := List.mem_map.mp hw
    rfl
  dates t hpart := by
    rcases eq_of_part_newHandle hpart with heq | heq <;> cases heq
  untyped j hpart := by
    rcases eq_of_part_newHandle hpart with heq | heq <;> cases heq
  options hpart := by
    rcases eq_of_part_newHandle hpart with heq | heq <;> cases heq

/-! ### JSON forms -/

theorem toJsonItems_eq (items : List Value) : toJsonItems c items = items.map (toJson c) := by
  induction items with
  | nil => rfl
  | cons v items ih => rw [toJsonItems, ih, List.map_cons]

/-- The slots that are written, with their values. -/
def written (slots : List Slot) (values : List Value) : List (Slot × Value) :=
  (slots.zip values).filter fun p => !omitted p.1 p.2

theorem written_cons (slot : Slot) (slots : List Slot) (v : Value) (values : List Value) :
    written (slot :: slots) (v :: values) =
      if omitted slot v then written slots values else (slot, v) :: written slots values := by
  cases h : omitted slot v <;> simp [written, h]

theorem toJsonFields_eq (slots : List Slot) (values : List Value) :
    toJsonFields c slots values = (written slots values).map fun p => (p.1.wireName, toJson c p.2) := by
  induction slots generalizing values with
  | nil => simp [toJsonFields, written]
  | cons slot slots ih =>
      cases values with
      | nil => simp [toJsonFields, written]
      | cons v values =>
          rw [toJsonFields, ih, written_cons]
          split
          · rfl
          · rw [List.map_cons]

end Value

end Vmodl
