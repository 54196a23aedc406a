import Vmodl.Proofs.Outcomes
import Vmodl.Proofs.Taking

/-!
# Reading, case by case

What reading a decoded value in a shape does for each form of value and shape.
-/

namespace Vmodl

@[simp] theorem Wire.Decoded.isNull_eq_true_iff {d : Wire.Decoded} : d.isNull = true ↔ d = .null := by
  cases d <;> simp [isNull]

namespace Client

open Wire

variable {c : Client}

@[simp] theorem node_value (d : Decoded) : (c.node d).value = d := by
  cases d <;> rfl

theorem itemParts_eq (ds : List Decoded) :
    c.itemParts ds = ds.map fun d => ⟨d, (c.node d).read c⟩ := by
  induction ds with
  | nil => rfl
  | cons d ds ih => rw [itemParts, ih, List.map_cons]

theorem fieldParts_eq (fields : List (String × Decoded)) :
    c.fieldParts fields = fields.map fun e => (e.1, ⟨e.2, (c.node e.2).read c⟩) := by
  induction fields with
  | nil => rfl
  | cons e fields ih =>
      obtain ⟨name, d⟩ := e
      rw [fieldParts, ih, List.map_cons]

theorem lookup_openObject (o : DecodedObject) (name : String) :
    (c.openObject o).parts.lookup name =
      (o.fields.lookup name).map fun d => ⟨d, (c.node d).read c⟩ := by
  obtain ⟨typeKey, handle, fields⟩ := o
  show (c.fieldParts fields).lookup name = _
  induction fields with
  | nil => rfl
  | cons e fields ih =>
      obtain ⟨n, d⟩ := e
      by_cases h : name = n
      · simp [fieldParts, h]
      · have hbeq : (name == n) = false := beq_false_of_ne h
        simp only [fieldParts, List.lookup_cons, hbeq, ih]

theorem read_primitive (d : Decoded) (p : Primitive) : c.read d (.primitive p) = p.read d := by
  rw [read, Node.read, node_value]

theorem read_option_null (inner : Shape) : c.read .null (.option inner) = .ok .absent := rfl

theorem read_option_of_ne_null {d : Decoded} (hd : d ≠ .null) (inner : Shape) :
    c.read d (.option inner) = (c.read d inner).map .present := by
  rw [read, Node.read, node_value, if_neg (mt Decoded.isNull_eq_true_iff.mp hd), read]

theorem read_option_of_read {d : Decoded} {inner : Shape} {v : Value} (hd : d.isNull = false)
    (h : c.read d inner = .ok v) : c.read d (.option inner) = .ok (.present v) := by
  have hne : d ≠ .null := by
    rintro rfl
    cases hd
  rw [read_option_of_ne_null hne, h]
  rfl

theorem eq_null_of_read_option {d : Decoded} {inner : Shape}
    (h : c.read d (.option inner) = .ok .absent) : d = .null := by
  by_contra hne
  rw [read_option_of_ne_null hne, Outcome.map_eq_ok_iff] at h
  obtain ⟨v, _, hv⟩ := h
  cases hv

theorem read_boxed (d : Decoded) (inner : Shape) : c.read d (.boxed inner) = c.read d inner := by
  rw [read, Node.read, read]

theorem read_list (ds : List Decoded) (element : Shape) :
    c.read (.list ds) (.list element) = (ds.mapM fun d => c.read d element).map .list := by
  rw [read, node, Node.read, itemParts_eq, List.mapM_map]
  rfl

/-- A value that is neither null nor a list is a list of one. -/
theorem read_list_of_single {d : Decoded} {element : Shape} (hnull : d ≠ .null)
    (hlist : ∀ ds, d ≠ .list ds) :
    c.read d (.list element) = (c.read d element).map fun v => .list [v] := by
  cases d with
  | null => exact absurd rfl hnull
  | list ds => exact absurd rfl (hlist ds)
  | _ => rfl

/-- What is not there is read as null is. -/
theorem readNull_eq (shape : Shape) : c.readNull shape = c.read .null shape := by
  induction shape with
  | primitive p => rw [readNull, read_primitive]
  | named kind name => cases kind <;> rfl
  | boxed inner ih => rw [readNull, ih, read_boxed]
  | list element => rfl
  | option inner => rfl

theorem read_list_eq_ok_iff {ds : List Decoded} {element : Shape} {v : Value} :
    c.read (.list ds) (.list element) = .ok v ↔
      ∃ vs, List.Forall₂ (fun d v => c.read d element = .ok v) ds vs ∧ .list vs = v := by
  simp only [read_list, Outcome.map_eq_ok_iff, Outcome.mapM_eq_ok_iff]

theorem read_list_eq_ok {ds : List Decoded} {element : Shape} {vs : List Value}
    (h : List.Forall₂ (fun d v => c.read d element = .ok v) ds vs) :
    c.read (.list ds) (.list element) = .ok (.list vs) :=
  read_list_eq_ok_iff.mpr ⟨vs, h, rfl⟩

theorem read_enumeration_text (name : TypeName) (text : String) :
    c.read (.scalar (.string text)) (.named .enumeration name) =
      if (c.enum? name).any fun e => e.variants.any fun v => v.2 == text then
        .ok (.enumeration name text)
      else .error (.unknownEnumValue (c.enumKey name) text) := rfl

theorem read_enumeration {name : TypeName} {e : EnumType} {text : String}
    (he : c.enum? name = some e) (htext : text ∈ e.variants.map Prod.snd) :
    c.read (.scalar (.string text)) (.named .enumeration name) = .ok (.enumeration name text) := by
  obtain ⟨v, hv, rfl⟩ := List.mem_map.mp htext
  rw [read_enumeration_text, he, Option.any_some, if_pos]
  exact List.any_eq_true.mpr ⟨v, hv, beq_self_eq_true v.2⟩

theorem toObject_node (d : Decoded) (wanted : String) :
    (c.node d).toObject wanted = (d.toObject wanted).map c.openObject := by
  rw [Node.toObject, node_value]
  cases d with
  | scalar j => cases j <;> rfl
  | _ => rfl

/-- A record is filled from the object that a value is. -/
theorem read_data (d : Decoded) (name : TypeName) :
    c.read d (.named .data name) = d.toObject (c.recordKey name) >>= fun o =>
      (c.takeAll (c.openObject o) (c.recordSlots name)).1.map (.record name) := by
  rw [read, Node.read, Node.readRecord, toObject_node]
  cases d.toObject (c.recordKey name) <;> rfl

theorem read_record (key : String) (handle : Option String) (fields : List (String × Decoded))
    (name : TypeName) :
    c.read (.object key handle fields) (.named .data name) =
      (c.takeAll (c.openObject ⟨key, handle, fields⟩) (c.recordSlots name)).1.map (.record name) := rfl

/-- A handle is constructed from the object that a value is, if that has any fields. -/
theorem read_managed (d : Decoded) (name : TypeName) :
    c.read d (.named .managed name) = d.toObject (c.handleKey name) >>= fun o =>
      o.reference >>= fun reference =>
        if o.fields.isEmpty then .ok (c.newHandle name reference)
        else (c.construct name reference (c.openObject o)).1 := by
  have hempty : ∀ fields, (c.fieldParts fields).isEmpty = fields.isEmpty := by
    intro fields
    rw [fieldParts_eq, List.isEmpty_map]
  rw [read, Node.read, Node.readHandle, toObject_node]
  cases d.toObject (c.handleKey name) with
  | error e => rfl
  | ok o =>
      obtain ⟨key, handle, fields⟩ := o
      cases handle with
      | none => rfl
      | some id =>
          have hopen : (c.openObject ⟨key, some id, fields⟩).parts.isEmpty = fields.isEmpty :=
            hempty fields
          show (if (c.openObject ⟨key, some id, fields⟩).parts.isEmpty then _ else _) = _
          rw [hopen]
          rfl

/-- An object without fields is a handle without property values. -/
theorem read_handle (key handle : String) (name : TypeName) :
    c.read (.object key (some handle) []) (.named .managed name) =
      .ok (c.newHandle name ⟨key, handle⟩) := rfl

/-! ### Taking a decoded field -/

/-- The failure of a field of an object: a missing value that is the field itself is named after it. -/
def fieldFailure (o : DecodedObject) (name : String) : Failure → Failure
  | .missing key => .missing (if (o.remove name).1.isNull then o.typeKey ++ "." ++ name else key)
  | e => e

theorem take_openObject (o : DecodedObject) (name : String) (shape : Shape) :
    (c.take (c.openObject o) name shape).1 =
      (c.read (o.remove name).1 shape).mapError (fieldFailure o name) := by
  have hpart := c.lookup_openObject o name
  unfold take
  cases hfield : o.fields.lookup name with
  | none =>
      rw [hfield, Option.map_none] at hpart
      have hvalue : (o.remove name).1 = .null := by rw [DecodedObject.remove, hfield]; rfl
      simp only [hpart, readNull_eq, hvalue]
      cases c.read .null shape with
      | ok v => rfl
      | error e => cases e <;> simp [Except.mapError, fieldFailure, hvalue, openObject, Decoded.isNull]
  | some d =>
      rw [hfield, Option.map_some] at hpart
      have hvalue : (o.remove name).1 = d := by rw [DecodedObject.remove, hfield]; rfl
      have hread : (c.node d).read c shape = c.read d shape := rfl
      simp only [hpart, hvalue, hread]
      cases c.read d shape with
      | ok v => rfl
      | error e => cases e <;> simp only [Except.mapError, fieldFailure, hvalue, openObject]

/-- An object whose fields are taken holds the others as before. -/
theorem close_openObject (o : DecodedObject) (names : List String) :
    OpenObject.close { c.openObject o with
      parts := (c.openObject o).parts.filter fun e => e.1 ∉ names } =
      { o with fields := o.fields.filter fun e => e.1 ∉ names } := by
  obtain ⟨key, handle, fields⟩ := o
  simp only [openObject, OpenObject.close, fieldParts_eq, List.filter_map, List.map_map]
  congr 1
  exact List.map_id _

end Client

end Vmodl
