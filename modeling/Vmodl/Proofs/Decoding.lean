import Vmodl.Proofs.Outcomes
import Vmodl.Wire.Decoder

/-!
# The decoder, case by case

What a key says about the reading of a value, and what the decoder does in each case. A pass over items
or fields succeeds with the outcomes of its parts.
-/

namespace Vmodl

/-- Induction over a value, through its items and its members. -/
theorem Json.nestedInduction {motive : Json → Prop} (null : motive .null)
    (bool : ∀ b, motive (.bool b)) (number : ∀ n, motive (.number n))
    (string : ∀ s, motive (.string s))
    (array : ∀ items, (∀ j ∈ items, motive j) → motive (.array items))
    (object : ∀ members, (∀ m ∈ members, motive m.2) → motive (.object members)) :
    ∀ j, motive j
  | .null => null
  | .bool b => bool b
  | .number n => number n
  | .string s => string s
  | .array items =>
      array items fun j _ => nestedInduction null bool number string array object j
  | .object members =>
      object members fun m _ => nestedInduction null bool number string array object m.2
termination_by j => sizeOf j
decreasing_by
  · have hj : sizeOf j < sizeOf items := List.sizeOf_lt_of_mem ‹_›
    simp only [Json.array.sizeOf_spec]
    omega
  · have hm : sizeOf m < sizeOf members := List.sizeOf_lt_of_mem ‹_›
    have hsnd : sizeOf m.2 < sizeOf m := by
      cases m
      simp only [Prod.mk.sizeOf_spec]
      omega
    simp only [Json.object.sizeOf_spec]
    omega

namespace Wire

/-- A value that is read at once: neither null nor an array. -/
def Single (j : Json) : Prop := j ≠ .null ∧ ∀ items, j ≠ .array items

/-- A key whose values are kept as scalars. Dates and bytes are not, whatever is registered. -/
def ScalarKey (r : Registry) (key : String) : Prop :=
  key ≠ dateTimeKey ∧ key ≠ binaryKey ∧ (key ∈ literalKeys ∨ r.kind? key = some .enumeration)

/-- A key that can name a type with fields. -/
def TypeKey (r : Registry) (key : String) : Prop :=
  key ≠ dateTimeKey ∧ key ≠ binaryKey ∧ key ∉ literalKeys ∧ r.kind? key ≠ some .enumeration

/-- A value without parts. -/
def Atom (j : Json) : Prop := Single j ∧ ∀ members, j ≠ .object members

theorem binaryKey_ne_dateTimeKey : binaryKey ≠ dateTimeKey := by decide

theorem reading_eq_dateTime_iff {r : Registry} {key : String} :
    reading r key = .dateTime ↔ key = dateTimeKey := by
  unfold reading
  split
  · simp [*]
  · split
    · simp [binaryKey_ne_dateTimeKey, *]
    · split <;> simp [*]

theorem reading_eq_binary_iff {r : Registry} {key : String} :
    reading r key = .binary ↔ key = binaryKey := by
  unfold reading
  split
  · rename_i hkey
    simp [hkey, binaryKey_ne_dateTimeKey.symm]
  · split
    · simp [*]
    · split <;> simp [*]

theorem reading_eq_scalar_iff {r : Registry} {key : String} :
    reading r key = .scalar ↔ ScalarKey r key := by
  unfold reading ScalarKey
  split
  · simp [*]
  · split
    · simp [*]
    · simp [isLiteral, or_iff_not_imp_left, *]

theorem reading_eq_declared_iff {r : Registry} {key : String} :
    reading r key = .declared ↔ TypeKey r key := by
  unfold reading TypeKey
  split
  · simp [*]
  · split
    · simp [*]
    · simp [isLiteral, *]

theorem unwrap_of_not_object {j : Json} (hj : ∀ members, j ≠ .object members) : unwrap j = j := by
  cases j with
  | object members => exact absurd rfl (hj members)
  | _ => simp [unwrap, Json.get?]

theorem decodeDateTime_eq_ok_iff {key : String} {j : Json} {d : Decoded} :
    decodeDateTime key j = .ok d ↔
      ∃ text t, unwrap j = .string text ∧ readInstant text = .ok t ∧ .dateTime t = d := by
  unfold decodeDateTime
  split
  · rename_i text htext
    simp [htext]
  · rename_i hother
    simp only [reduceCtorEq, false_iff]
    rintro ⟨text, _, htext, _⟩
    exact hother text htext

theorem decodeBinary_eq_ok_iff {key : String} {j : Json} {d : Decoded} :
    decodeBinary key j = .ok d ↔
      ∃ text bytes, unwrap j = .string text ∧ readBytes text = .ok bytes ∧ .binary bytes = d := by
  unfold decodeBinary
  split
  · rename_i text htext
    simp [htext]
  · rename_i hother
    simp only [reduceCtorEq, false_iff]
    rintro ⟨text, _, htext, _⟩
    exact hother text htext

theorem decode_of_atom {r : Registry} {key : String} {j : Json} (hkey : key ≠ "") (hj : Atom j) :
    decode r key j = decodeAtom r (stripArray key) j := by
  cases j with
  | null => exact absurd rfl hj.1.1
  | array items => exact absurd rfl (hj.1.2 items)
  | object members => exact absurd rfl (hj.2 members)
  | _ => exact if_neg hkey

theorem decode_of_dateTime {r : Registry} {key : String} {j : Json} (hkey : key ≠ "") (hj : Single j)
    (h : reading r (stripArray key) = .dateTime) :
    decode r key j = decodeDateTime (stripArray key) j := by
  cases j with
  | null => exact absurd rfl hj.1
  | array items => exact absurd rfl (hj.2 items)
  | object members => exact (if_neg hkey).trans (by rw [h])
  | _ =>
      rw [decode_of_atom hkey ⟨hj, nofun⟩]
      unfold decodeAtom
      rw [h]

theorem decode_dateTime_string (r : Registry) (text : String) :
    decode r dateTimeKey (.string text) = (readInstant text).map .dateTime := by
  have hstrip : stripArray dateTimeKey = dateTimeKey := by decide +kernel
  have hreading : reading r (stripArray dateTimeKey) = .dateTime := reading_eq_dateTime_iff.mpr hstrip
  rw [decode_of_dateTime (by decide) (by simp [Single]) hreading, decodeDateTime,
    unwrap_of_not_object (by simp)]

theorem decode_of_binary {r : Registry} {key : String} {j : Json} (hkey : key ≠ "") (hj : Single j)
    (h : reading r (stripArray key) = .binary) :
    decode r key j = decodeBinary (stripArray key) j := by
  cases j with
  | null => exact absurd rfl hj.1
  | array items => exact absurd rfl (hj.2 items)
  | object members => exact (if_neg hkey).trans (by rw [h])
  | _ =>
      rw [decode_of_atom hkey ⟨hj, nofun⟩]
      unfold decodeAtom
      rw [h]

theorem decode_of_scalar {r : Registry} {key : String} {j : Json} (hkey : key ≠ "") (hj : Single j)
    (h : reading r (stripArray key) = .scalar) : decode r key j = .ok (.scalar (unwrap j)) := by
  cases j with
  | null => exact absurd rfl hj.1
  | array items => exact absurd rfl (hj.2 items)
  | object members => exact (if_neg hkey).trans (by rw [h])
  | _ =>
      rw [decode_of_atom hkey ⟨hj, nofun⟩]
      unfold decodeAtom
      rw [h]
      rfl

theorem decode_untyped {r : Registry} {j : Json} (hj : j ≠ .null) :
    decode r "" j = .ok (.scalar (unwrap j)) := by
  cases j with
  | null => exact absurd rfl hj
  | _ => rfl

/-! ### Objects -/

/-- The members that are fields of an object: all but its attributes and, where the object is managed,
its handle. -/
def fieldMembers (kind : TypeKind) (members : Json.Members) : Json.Members :=
  members.filter fun m => isField kind m.1

/-- Only managed objects have a handle. -/
def objectHandle (kind : TypeKind) (members : Json.Members) : Option String :=
  if kind = .managed then handleOf members else none

theorem decode_object_of_fields {r : Registry} {key type : String} {kind : TypeKind}
    {members : Json.Members} (hkey : key ≠ "") (h : reading r (stripArray key) = .declared)
    (htype : effectiveType r (stripArray key) members = type) (hkind : r.kind? type = some kind)
    (hfields : kind ≠ .enumeration) :
    decode r key (.object members) =
      (decodeFields r kind type [] members).map (.object type (objectHandle kind members)) := by
  refine (if_neg hkey).trans ?_
  simp only [h, htype, hkind]
  cases kind with
  | enumeration => exact absurd rfl hfields
  | data => rfl
  | managed => rfl

theorem decode_object_of_enumeration {r : Registry} {key : String} {members : Json.Members}
    (hkey : key ≠ "") (h : reading r (stripArray key) = .declared)
    (hkind : r.kind? (effectiveType r (stripArray key) members) = some .enumeration) :
    decode r key (.object members) = .ok (.scalar (unwrap (.object members))) := by
  refine (if_neg hkey).trans ?_
  simp only [h, hkind]

theorem decode_object_of_unregistered {r : Registry} {key : String} {members : Json.Members}
    (hkey : key ≠ "") (h : reading r (stripArray key) = .declared)
    (hkind : r.kind? (effectiveType r (stripArray key) members) = none) :
    decode r key (.object members) = .ok (.scalar (.object members)) := by
  refine (if_neg hkey).trans ?_
  simp only [h, hkind]

/-- A member of an object of type `owner`, decoded as the field that it is. -/
def decodeMember (r : Registry) (owner : String) (m : String × Json) : Except Failure Decoded :=
  match r.field? owner m.1 with
  | some t => decode r t.key m.2
  | none => .ok (.scalar m.2)

theorem decodeItems_cons (r : Registry) (key : String) (j : Json) (rest : List Json) :
    decodeItems r key (j :: rest) =
      decode r key j >>= fun d => decodeItems r key rest >>= fun ds => pure (d :: ds) :=
  rfl

theorem decodeItems_eq_ok_iff {r : Registry} {key : String} {items : List Json} {ds : List Decoded} :
    decodeItems r key items = .ok ds ↔ List.Forall₂ (fun j d => decode r key j = .ok d) items ds := by
  induction items generalizing ds with
  | nil =>
      have hnil : decodeItems r key [] = .ok [] := rfl
      simp [hnil, List.forall₂_nil_left_iff, eq_comm]
  | cons j rest ih =>
      simp only [decodeItems_cons, Outcome.bind_eq_ok_iff, Outcome.pure_eq_ok_iff,
        List.forall₂_cons_left_iff]
      constructor
      · rintro ⟨d, hd, ds, hds, rfl⟩
        exact ⟨d, ds, hd, ih.mp hds, rfl⟩
      · rintro ⟨d, ds, hd, hds, rfl⟩
        exact ⟨d, hd, ds, ih.mpr hds, rfl⟩

/-- An array is decoded as the list of its items. -/
theorem decode_array_eq_ok_iff {r : Registry} {key : String} {items : List Json} {d : Decoded}
    (hkey : key ≠ "") :
    decode r key (.array items) = .ok d ↔
      ∃ ds, List.Forall₂ (fun j d => decode r (stripArray key) j = .ok d) items ds ∧ .list ds = d := by
  have harray : decode r key (.array items) = (decodeItems r (stripArray key) items).map .list :=
    if_neg hkey
  simp only [harray, Outcome.map_eq_ok_iff, decodeItems_eq_ok_iff]

theorem decodeFields_cons {r : Registry} {kind : TypeKind} {owner : String} {fields : Table Decoded}
    {m : String × Json} {rest : Json.Members} (hm : isField kind m.1 = true) :
    decodeFields r kind owner fields (m :: rest) =
      decodeMember r owner m >>= fun d => decodeFields r kind owner (fields.insert m.1 d) rest := by
  obtain ⟨name, j⟩ := m
  refine (if_pos hm).trans ?_
  cases hfield : r.field? owner name <;> simp [decodeMember, hfield]

theorem decodeFields_cons_of_not_isField {r : Registry} {kind : TypeKind} {owner : String}
    {fields : Table Decoded} {m : String × Json} {rest : Json.Members} (hm : ¬isField kind m.1 = true) :
    decodeFields r kind owner fields (m :: rest) = decodeFields r kind owner fields rest :=
  if_neg hm

/-- The fields of an object are decoded one by one and put into the table in order. -/
theorem decodeFields_eq_ok_iff {r : Registry} {kind : TypeKind} {owner : String}
    {fields fields' : Table Decoded} {members : Json.Members} :
    decodeFields r kind owner fields members = .ok fields' ↔
      ∃ entries : List (String × Decoded),
        List.Forall₂ (fun m e => m.1 = e.1 ∧ decodeMember r owner m = .ok e.2)
          (fieldMembers kind members) entries ∧
        fields' = entries.foldl (fun t e => t.insert e.1 e.2) fields := by
  induction members generalizing fields with
  | nil =>
      have hnil : decodeFields r kind owner fields [] = .ok fields := rfl
      simp [hnil, fieldMembers, List.forall₂_nil_left_iff, eq_comm]
  | cons m rest ih =>
      by_cases hm : isField kind m.1 = true
      · have hkept : fieldMembers kind (m :: rest) = m :: fieldMembers kind rest :=
          List.filter_cons_of_pos hm
        rw [decodeFields_cons hm, hkept, Outcome.bind_eq_ok_iff]
        constructor
        · rintro ⟨d, hd, hrest⟩
          obtain ⟨entries, hentries, rfl⟩ := ih.mp hrest
          exact ⟨(m.1, d) :: entries, .cons ⟨rfl, hd⟩ hentries, rfl⟩
        · rintro ⟨entries, hentries, rfl⟩
          obtain ⟨⟨name, d⟩, rest', ⟨rfl, hd⟩, hrest, rfl⟩ := List.forall₂_cons_left_iff.mp hentries
          exact ⟨d, hd, ih.mpr ⟨rest', hrest, rfl⟩⟩
      · have hkept : fieldMembers kind (m :: rest) = fieldMembers kind rest :=
          List.filter_cons_of_neg hm
        rw [decodeFields_cons_of_not_isField hm, hkept]
        exact ih

end Wire

end Vmodl
