import Vmodl.Proofs.Transfer

/-!
# Scalars in boxes

Under the key of a scalar the decoder looks into a box, so that a boxed value is decoded as the bare one.
It tells null before it looks, however: null in a box is not taken for the absence of a value.
-/

namespace Vmodl

namespace Wire

/-- A value in a box, with the attributes of the box. -/
def box (attributes value : Json) : Json := .object [(attributesKey, attributes), (valueKey, value)]

/-- The keys under which a value is decoded as a scalar: the empty one, and those of literals, dates, bytes
and enumerations. A name that ends in an array marker is the key of a list, whatever is registered. -/
def NamesScalar (r : Registry) (key : String) : Prop :=
  key = "" ∨ key ∈ literalKeys ∨ key = dateTimeKey ∨ key = binaryKey ∨
    r.kind? key = some .enumeration ∧ stripArray? key = none

variable {r : Registry} {key : String}

@[simp] theorem unwrap_box (attributes value : Json) : unwrap (box attributes value) = value := by
  have hne : (valueKey == attributesKey) = false := by decide
  simp [unwrap, box, Json.get?, List.lookup_cons, hne]

theorem single_box (attributes value : Json) : Single (box attributes value) := by
  simp [Single, box]

theorem stripArray?_of_mem_literalKeys : ∀ key ∈ literalKeys, stripArray? key = none := by
  decide +kernel

theorem NamesScalar.reading_ne_declared (h : NamesScalar r key) (hne : key ≠ "") :
    reading r (stripArray key) ≠ .declared := by
  have hname : stripArray? key = none := by
    rcases h with rfl | hliteral | rfl | rfl | ⟨_, hname⟩
    · exact absurd rfl hne
    · exact stripArray?_of_mem_literalKeys key hliteral
    · decide +kernel
    · decide +kernel
    · exact hname
  rw [stripArray, hname, Option.getD_none]
  intro hdeclared
  obtain ⟨hdate, hbinary, hliteral, henum⟩ := reading_eq_declared_iff.mp hdeclared
  rcases h with h | h | h | h | ⟨h, _⟩
  · exact hne h
  · exact hliteral h
  · exact hdate h
  · exact hbinary h
  · exact henum h

/-- Of a value that is neither null nor an array only what is in the box counts. -/
theorem decode_eq_of_unwrap_eq (hkey : NamesScalar r key) {j j' : Json} (hj : Single j)
    (hj' : Single j') (h : unwrap j = unwrap j') : decode r key j = decode r key j' := by
  by_cases hne : key = ""
  · subst hne
    rw [decode_untyped hj.1, decode_untyped hj'.1, h]
  · cases hreading : reading r (stripArray key) with
    | dateTime =>
        rw [decode_of_dateTime hne hj hreading, decode_of_dateTime hne hj' hreading]
        unfold decodeDateTime
        rw [h]
    | binary =>
        rw [decode_of_binary hne hj hreading, decode_of_binary hne hj' hreading]
        unfold decodeBinary
        rw [h]
    | scalar => rw [decode_of_scalar hne hj hreading, decode_of_scalar hne hj' hreading, h]
    | declared => exact absurd hreading (hkey.reading_ne_declared hne)

theorem decode_box_of_ne_null (hkey : NamesScalar r key) (attributes : Json) {value : Json}
    (hnull : value ≠ .null) (harray : ∀ items, value ≠ .array items)
    (hbox : value.get? valueKey = none) : decode r key (box attributes value) = decode r key value := by
  apply decode_eq_of_unwrap_eq hkey (single_box attributes value) ⟨hnull, harray⟩
  rw [unwrap_box, unwrap, hbox, Option.getD_none]

theorem decode_box_ne_null (attributes value : Json) :
    decode r key (box attributes value) ≠ .ok .null := by
  intro h
  have hbox := eq_null_of_decode h
  cases hbox

end Wire

namespace Client

open Wire

variable {c : Client} {r : Registry} {key : String}

/-- Only null is read as no value, so nothing in a box is. -/
theorem reconstruct_box_option_ne_absent (attributes value : Json) (inner : Shape) :
    c.reconstruct r key (box attributes value) (.option inner) ≠ .ok .absent := by
  intro h
  obtain ⟨d, hd, hread⟩ := Outcome.bind_eq_ok_iff.mp h
  obtain rfl := eq_null_of_read_option hread
  exact decode_box_ne_null attributes value hd

end Client

namespace Wire

/-- A boxed scalar is decoded as the bare one, and read as the same option, exactly if it is not null. -/
theorem decode_box_eq_iff {r : Registry} {key : String} (hkey : NamesScalar r key) (attributes : Json)
    {value : Json} (harray : ∀ items, value ≠ .array items) (hbox : value.get? valueKey = none) :
    (decode r key (box attributes value) = decode r key value ↔ value ≠ .null) ∧
      ∀ (c : Client) (inner : Shape),
        c.reconstruct r key (box attributes value) (.option inner) =
          c.reconstruct r key value (.option inner) ↔ value ≠ .null := by
  have hequal : value ≠ .null → decode r key (box attributes value) = decode r key value := by
    intro hnull
    exact decode_box_of_ne_null hkey attributes hnull harray hbox
  constructor
  · refine ⟨?_, hequal⟩
    rintro h rfl
    exact decode_box_ne_null attributes .null h
  · intro c inner
    constructor
    · rintro h rfl
      exact Client.reconstruct_box_option_ne_absent attributes .null inner h
    · intro hnull
      rw [Client.reconstruct, Client.reconstruct, hequal hnull]

def powerStates : Registry := Registry.builtins.registerEnum "PowerState"

theorem decode_box_eq_iff_powerState :
    NamesScalar powerStates "PowerState" ∧
      (decode powerStates "PowerState" (box (.object []) (.string "poweredOn")) =
          decode powerStates "PowerState" (.string "poweredOn") ↔ Json.string "poweredOn" ≠ .null) ∧
        ∀ (c : Client) (inner : Shape),
          c.reconstruct powerStates "PowerState" (box (.object []) (.string "poweredOn"))
              (.option inner) =
            c.reconstruct powerStates "PowerState" (.string "poweredOn") (.option inner) ↔
            Json.string "poweredOn" ≠ .null := by
  have hkey : NamesScalar powerStates "PowerState" :=
    .inr (.inr (.inr (.inr ⟨by decide +kernel, by decide +kernel⟩)))
  exact ⟨hkey, decode_box_eq_iff hkey (.object []) (fun _ => Json.noConfusion) rfl⟩

/-- Null in a box is kept as a scalar, and read as the text `null`. -/
theorem not_decode_box_null :
    decode .builtins "string" (box (.object []) .null) = .ok (.scalar .null) ∧
      decode .builtins "string" .null = .ok .null ∧
      decode .builtins "string" (box (.object []) .null) ≠ decode .builtins "string" .null ∧
      Client.reconstruct ⟨[], [], []⟩ .builtins "string" (box (.object []) .null)
        (.option (.primitive .string)) = .ok (.present (.text "null")) ∧
      Client.reconstruct ⟨[], [], []⟩ .builtins "string" .null (.option (.primitive .string)) =
        .ok .absent :=
  ⟨rfl, rfl, decode_box_ne_null _ _, rfl, rfl⟩

end Wire

end Vmodl
