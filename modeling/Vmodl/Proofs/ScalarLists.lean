import Vmodl.Proofs.CanonicalBytes

/-!
# Lists of scalars

The key of a list of scalars has a marker for each level of lists. Written values have an array for each
of these levels, so reading takes one off the key with each array and ends with the tag of the scalar.
-/

namespace Vmodl

open Wire

/-- Scalars with a JSON form that no two of their values share. -/
def Primitive.isFaithful : Primitive → Bool
  | .byte | .short | .int | .long | .boolean | .string | .binary | .dateTime => true
  | _ => false

variable {c : Client} {r : Registry} {p : Primitive} {t : ResolvedType}

theorem transfers_binary (bytes : List UInt8) :
    c.Transfers r (.primitive .binary) Primitive.binary.tag (.binary bytes) :=
  ⟨.binary bytes, decode_toJson_binary r bytes, rfl⟩

theorem fits_tag (hp : p.isExact = true) : c.fits r (.primitive p) p.tag = true := by
  have hany : p ≠ .any := by
    rintro rfl
    cases hp
  exact (fits_primitive_iff hany).mpr ⟨hp, rfl⟩

theorem transfers_scalar (hp : p.isFaithful = true) {v : Value} (hv : c.Holds (.primitive p) v)
    (hyears : ∀ d, Value.Part (.dateTime d) v → 0 ≤ d.year ∧ d.year ≤ 9999) :
    c.Transfers r (.primitive p) p.tag v := by
  cases hv with
  | integer hwidth hn =>
      refine transfers_integer hwidth hn (fits_tag ?_)
      cases p <;> first | rfl | cases hwidth
  | boolean b => exact transfers_boolean b (fits_tag rfl)
  | text s => exact transfers_text s (fits_tag rfl)
  | dateTime hd => exact transfers_dateTime hd (hyears _ .self) (fits_tag rfl)
  | binary bytes => exact transfers_binary bytes
  | unit => cases hp
  | single bits => cases hp
  | double bits => cases hp
  | any j => cases hp

/-- The induction is over the levels of lists: each has one marker of the key and one array. -/
theorem transfers_of_leaf (hleaf : t.leaf = .primitive p) (hp : p.isFaithful = true) {boxed : Bool}
    {v : Value} (hv : c.Holds (t.shape boxed) v)
    (hyears : ∀ d, Value.Part (.dateTime d) v → 0 ≤ d.year ∧ d.year ≤ 9999) :
    c.Transfers r (t.shape boxed) t.key v := by
  induction t generalizing boxed v with
  | primitive q =>
      cases hleaf
      exact transfers_scalar hp hv hyears
  | array element ih =>
      cases hv with
      | list hitems =>
          apply transfers_list (stripArray?_append element.key)
          intro w hw
          exact ih hleaf (hitems w hw) fun d hd => hyears d (.item hw hd)
  | declared kind wireName builtin => cases hleaf
  | unknown name => cases hleaf

theorem toJson_ne_null_of_leaf (hleaf : t.leaf = .primitive p) (hp : p.isFaithful = true)
    {boxed : Bool} {v : Value} (hv : c.Holds (t.shape boxed) v) : v.toJson c ≠ .null := by
  cases t with
  | primitive q =>
      cases hleaf
      cases hv <;> first | exact Json.noConfusion | cases hp
  | array element =>
      cases hv with
      | list hitems => exact Json.noConfusion
  | declared kind wireName builtin => cases hleaf
  | unknown name => cases hleaf

/-- Nothing, and an instant in a leap second. -/
def leapSeconds : Value := .present (.list [.list [], .list [.dateTime ⟨1483228799, 1500000000⟩]])

theorem holds_leapSeconds :
    c.Holds (.option (.list (.list (.primitive .dateTime)))) leapSeconds := by
  refine .present (.list fun v hv => ?_)
  simp only [List.mem_cons, List.not_mem_nil, or_false] at hv
  rcases hv with rfl | rfl
  · exact .list nofun
  · refine .list fun w hw => ?_
    obtain rfl := List.mem_singleton.mp hw
    exact .dateTime (by decide)

theorem year_of_part_leapSeconds {d : Instant} (hd : Value.Part (.dateTime d) leapSeconds) :
    0 ≤ d.year ∧ d.year ≤ 9999 := by
  cases hd with
  | present hd =>
      cases hd with
      | item hv hd =>
          simp only [List.mem_cons, List.not_mem_nil, or_false] at hv
          rcases hv with rfl | rfl
          · cases hd with
            | item hw _ => cases hw
          · cases hd with
            | item hw hd =>
                obtain rfl := List.mem_singleton.mp hw
                cases hd
                decide +kernel

end Vmodl
