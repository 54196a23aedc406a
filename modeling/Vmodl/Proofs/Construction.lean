import Vmodl.Proofs.Reading

/-!
# Construction of handles

A handle is constructed from its reference and an object with initial values. Every property of its type
and of its parents takes its value out of the object, and what no property is for is left there.
-/

namespace Vmodl

open Wire

/-- The shape that a property is declared with. A handle may have no value for it. -/
def Slot.declared (slot : Slot) : Shape :=
  match slot.shape with
  | .option inner => inner
  | shape => shape

def Shape.isOption : Shape → Bool
  | .option _ => true
  | _ => false

theorem Shape.exists_eq_option {shape : Shape} (h : shape.isOption = true) :
    ∃ inner, shape = .option inner := by
  cases shape with
  | option inner => exact ⟨inner, rfl⟩
  | _ => cases h

namespace Client

variable {c : Client} {name : TypeName}

/-- The value of a property of a handle that is constructed from an object. -/
inductive Initializes (c : Client) (init : DecodedObject) (slot : Slot) : Value → Prop
  | absent (hvalue : (init.remove slot.wireName).1 = .null) : Initializes c init slot .absent
  | present {v : Value} (hvalue : (init.remove slot.wireName).1 ≠ .null)
      (hread : c.read (init.remove slot.wireName).1 slot.declared = .ok v) :
      Initializes c init slot (.present v)

/-- How a handle is constructed from an object: it is as soon as all values that the object has for its
properties can be read, it holds these values and no others, and the object is left with the fields that
are no properties of it. From an object without fields it is constructed as from none. -/
structure Constructs (c : Client) (name : TypeName) (reference : Reference) (init : DecodedObject) :
    Prop where
  succeeds : (∃ m, (c.construct name reference (c.openObject init)).1 = .ok m) ↔
    ∀ slot ∈ c.handleSlots name, (init.remove slot.wireName).1 ≠ .null →
      ∃ v, c.read (init.remove slot.wireName).1 slot.declared = .ok v
  holds : ∀ m rest, c.construct name reference (c.openObject init) = (.ok m, rest) →
    ∃ values, m = .handle name reference values ∧
      List.Forall₂ (c.Initializes init) (c.handleSlots name) values
  leaves : ∀ m rest, c.construct name reference (c.openObject init) = (.ok m, rest) →
    rest.close = { init with
      fields := init.fields.filter fun e => e.1 ∉ (c.handleSlots name).map (·.wireName) }
  shortcut : ∀ key id,
    c.read (.object key (some id) []) (.named .managed name) = .ok (c.newHandle name ⟨key, id⟩) ∧
      (c.construct name ⟨key, id⟩ (c.openObject ⟨key, some id, []⟩)).1 =
        .ok (c.newHandle name ⟨key, id⟩)

/-- The properties of a handle are for different fields, and none of them needs a value. -/
structure HasProperties (c : Client) (name : TypeName) : Prop where
  distinct : ((c.handleSlots name).map (·.wireName)).Nodup
  optional : ∀ slot ∈ c.handleSlots name, slot.shape.isOption = true

instance (c : Client) (name : TypeName) : Decidable (c.HasProperties name) :=
  decidable_of_iff (((c.handleSlots name).map (·.wireName)).Nodup ∧
      ∀ slot ∈ c.handleSlots name, slot.shape.isOption = true)
    ⟨fun ⟨hdistinct, hoptional⟩ => ⟨hdistinct, hoptional⟩, fun h => ⟨h.distinct, h.optional⟩⟩

theorem take_property (init : DecodedObject) {slot : Slot} (hslot : slot.shape.isOption = true)
    {v : Value} : (c.take (c.openObject init) slot.wireName slot.shape).1 = .ok v ↔
      c.Initializes init slot v := by
  obtain ⟨inner, hinner⟩ := Shape.exists_eq_option hslot
  have hdeclared : slot.declared = inner := by rw [Slot.declared, hinner]
  rw [take_openObject, Outcome.mapError_eq_ok_iff, hinner]
  by_cases hnull : (init.remove slot.wireName).1 = .null
  · rw [hnull, read_option_null]
    constructor
    · intro h
      cases h
      exact .absent hnull
    · intro h
      cases h with
      | absent => rfl
      | present hvalue => exact absurd hnull hvalue
  · rw [read_option_of_ne_null hnull, Outcome.map_eq_ok_iff]
    constructor
    · rintro ⟨w, hw, rfl⟩
      apply Initializes.present hnull
      rw [hdeclared]
      exact hw
    · intro h
      cases h with
      | absent hvalue => exact absurd hvalue hnull
      | present _ hread =>
          rw [hdeclared] at hread
          exact ⟨_, hread, rfl⟩

theorem takeAll_properties (hname : c.HasProperties name) (init : DecodedObject) {values : List Value} :
    (c.takeAll (c.openObject init) (c.handleSlots name)).1 = .ok values ↔
      List.Forall₂ (c.Initializes init) (c.handleSlots name) values := by
  rw [takeAll_fst _ hname.distinct, Outcome.mapM_eq_ok_iff, List.forall₂_iff_zip, List.forall₂_iff_zip]
  refine and_congr_right fun _ => forall_congr' fun slot => forall_congr' fun v =>
    forall_congr' fun hmem => ?_
  exact take_property init (hname.optional slot (List.of_mem_zip hmem).1)

theorem exists_initializes_iff {init : DecodedObject} {slot : Slot} :
    (∃ v, c.Initializes init slot v) ↔
      ((init.remove slot.wireName).1 ≠ .null →
        ∃ v, c.read (init.remove slot.wireName).1 slot.declared = .ok v) := by
  constructor
  · rintro ⟨_, h⟩ hnull
    cases h with
    | absent hvalue => exact absurd hvalue hnull
    | present _ hread => exact ⟨_, hread⟩
  · intro h
    by_cases hnull : (init.remove slot.wireName).1 = .null
    · exact ⟨.absent, .absent hnull⟩
    · obtain ⟨v, hread⟩ := h hnull
      exact ⟨.present v, .present hnull hread⟩

theorem exists_construct_iff (hname : c.HasProperties name) (reference : Reference)
    (init : DecodedObject) : (∃ m, (c.construct name reference (c.openObject init)).1 = .ok m) ↔
      ∀ slot ∈ c.handleSlots name, ∃ v, c.Initializes init slot v := by
  have hconstruct : (c.construct name reference (c.openObject init)).1 =
      (c.takeAll (c.openObject init) (c.handleSlots name)).1.map (.handle name reference) := rfl
  rw [hconstruct, takeAll_fst _ hname.distinct]
  constructor
  · rintro ⟨m, hm⟩ slot hslot
    obtain ⟨values, hvalues, _⟩ := Outcome.map_eq_ok_iff.mp hm
    obtain ⟨v, hv⟩ := Outcome.exists_mapM_eq_ok_iff.mp ⟨values, hvalues⟩ slot hslot
    exact ⟨v, (take_property init (hname.optional slot hslot)).mp hv⟩
  · intro h
    have htake : ∀ slot ∈ c.handleSlots name,
        ∃ v, (c.take (c.openObject init) slot.wireName slot.shape).1 = .ok v := by
      intro slot hslot
      obtain ⟨v, hv⟩ := h slot hslot
      exact ⟨v, (take_property init (hname.optional slot hslot)).mpr hv⟩
    obtain ⟨values, hvalues⟩ := Outcome.exists_mapM_eq_ok_iff.mpr htake
    exact ⟨_, Outcome.map_eq_ok_iff.mpr ⟨values, hvalues, rfl⟩⟩

/-- A construction that succeeds has filled all properties, and leaves the other fields. -/
theorem takeAll_of_construct {reference : Reference} {init : OpenObject} {m : Value}
    {rest : OpenObject} (h : c.construct name reference init = (.ok m, rest)) :
    ∃ values, c.takeAll init (c.handleSlots name) = (.ok values, rest) ∧
      m = .handle name reference values := by
  unfold construct at h
  rcases htake : c.takeAll init (c.handleSlots name) with ⟨outcome, rest'⟩
  rw [htake] at h
  cases outcome with
  | error e => cases h
  | ok values =>
      cases h
      exact ⟨values, rfl, rfl⟩

theorem construct_nil (hname : c.HasProperties name) (reference : Reference) (key : String)
    (handle : Option String) : (c.construct name reference (c.openObject ⟨key, handle, []⟩)).1 =
      .ok (c.newHandle name reference) := by
  have hvalues : (c.takeAll (c.openObject ⟨key, handle, []⟩) (c.handleSlots name)).1 =
      .ok ((c.handleSlots name).map fun _ => .absent) := by
    rw [takeAll_properties hname, List.forall₂_map_right_iff, List.forall₂_same]
    exact fun slot _ => .absent rfl
  show (c.takeAll _ _).1.map _ = _
  rw [hvalues]
  rfl

theorem constructs (hname : c.HasProperties name) (reference : Reference) (init : DecodedObject) :
    c.Constructs name reference init := by
  constructor
  · rw [exists_construct_iff hname]
    exact forall₂_congr fun slot _ => exists_initializes_iff
  · intro m rest h
    obtain ⟨values, htake, rfl⟩ := takeAll_of_construct h
    refine ⟨values, rfl, (takeAll_properties hname init).mp ?_⟩
    rw [htake]
  · intro m rest h
    obtain ⟨values, htake, _⟩ := takeAll_of_construct h
    rw [takeAll_snd htake]
    exact close_openObject init _
  · intro key id
    exact ⟨read_handle key id name, construct_nil hname ⟨key, id⟩ key (some id)⟩

end Client

end Vmodl
