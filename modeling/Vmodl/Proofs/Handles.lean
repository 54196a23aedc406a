import Vmodl.Proofs.Structures
import Vmodl.Proofs.Transfer

/-!
# Handles that are sent back

What is read as a handle is of a registered type that extends the wanted one. It is written as its
reference alone, and whoever reads that through a type that it extends gets the same reference: the type
that the server gave it is not lost on the way, and neither is its name.
-/

namespace Vmodl

open Wire

/-- The registry describes the handles of a client, each as extending the handles of its chain and no
others. -/
structure Client.KnowsHandles (c : Client) (r : Registry) : Prop where
  types : ∀ t ∈ c.handles, c.fits r (.named .managed t.name) t.wireName = true
  chains : ∀ t ∈ c.handles, ∀ t' ∈ c.handles,
    t' ∈ c.handleChain t.name ↔ r.isSubtype t.wireName t'.wireName = true

instance (c : Client) (r : Registry) : Decidable (c.KnowsHandles r) :=
  decidable_of_iff
    ((∀ t ∈ c.handles, c.fits r (.named .managed t.name) t.wireName = true) ∧
      ∀ t ∈ c.handles, ∀ t' ∈ c.handles,
        t' ∈ c.handleChain t.name ↔ r.isSubtype t.wireName t'.wireName = true)
    ⟨fun ⟨htypes, hchains⟩ => ⟨htypes, hchains⟩, fun h => ⟨h.types, h.chains⟩⟩

variable {c : Client} {r : Registry} {key type : String}

/-! ### What is decoded for a handle -/

theorem Wire.EffectiveType.extends {j : Json} (h : EffectiveType r key j type) :
    r.Extends type key := by
  cases h with
  | named _ _ hextends => exact hextends
  | declared => exact .refl

/-- Under the key of a managed type a value that is neither null nor an array is decoded as an object of
a type that extends it. -/
theorem exists_object_of_mirrors (hc : c.Coherent r) (hkey : namesKind r key .managed = true)
    {j : Json} {d : Decoded} (h : Mirrors r key j d) (hsingle : Single j) :
    ∃ type handle fields, d = .object type handle fields ∧ r.Extends type key ∧
      r.kind? type = some .managed := by
  obtain ⟨hne, harray, hkind, hreading⟩ := namesKind_eq_true_iff.mp hkey
  have hstrip := stripArray_of_isNone harray
  obtain ⟨hdate, hbinary, hliteral, henum⟩ := reading_eq_declared_iff.mp hreading
  -- Every type that the value can be read as is managed, so those of the other kinds do not occur.
  have hmanaged : ∀ {type}, EffectiveType r (stripArray key) j type →
      r.Extends type key ∧ r.kind? type = some .managed := by
    intro type htype
    rw [hstrip] at htype
    have hextends := htype.extends
    exact ⟨hextends, managed_of_extends hc hextends hkind⟩
  cases h with
  | null => exact absurd rfl hsingle.1
  | untyped => exact absurd rfl hne
  | list => exact absurd rfl (hsingle.2 _)
  | dateTime _ _ hstrip' => exact absurd (hstrip.symm.trans hstrip') hdate
  | binary _ _ hstrip' => exact absurd (hstrip.symm.trans hstrip') hbinary
  | scalar _ _ hscalar =>
      rw [hstrip] at hscalar
      exact absurd hscalar.2.2 (not_or_intro hliteral henum)
  | unregistered _ _ _ htype hnone =>
      cases hnone.symm.trans (hmanaged htype).2
  | enumerated _ _ _ htype henumerated =>
      cases henumerated.symm.trans (hmanaged htype).2
  | handle _ _ htype _ => exact ⟨_, _, _, rfl, hmanaged htype⟩
  | object _ _ htype _ _ _ _ _ => exact ⟨_, _, _, rfl, hmanaged htype⟩

/-- A handle that is read is one of the wanted type, with the reference that the object carries. -/
theorem exists_handle_of_read {name : TypeName} {handle : Option String}
    {fields : List (String × Decoded)} {m : Value}
    (h : c.read (.object type handle fields) (.named .managed name) = .ok m) :
    ∃ id values, handle = some id ∧ m = .handle name ⟨type, id⟩ values := by
  cases handle with
  | none => cases h
  | some id =>
      have hread : c.read (.object type (some id) fields) (.named .managed name) =
          if (c.fieldParts fields).isEmpty then .ok (c.newHandle name ⟨type, id⟩)
          else (c.construct name ⟨type, id⟩ (c.openObject ⟨type, some id, fields⟩)).1 := rfl
      rw [hread] at h
      split at h
      · cases h
        exact ⟨id, _, rfl, rfl⟩
      · obtain ⟨values, _, rfl⟩ := Outcome.map_eq_ok_iff.mp h
        exact ⟨id, values, rfl, rfl⟩

namespace Client

/-- Neither null nor a list is a handle. -/
theorem exists_handle_of_reconstruct (hc : c.Coherent r) {name : TypeName} {raw : Json} {m : Value}
    (hkey : namesKind r key .managed = true)
    (h : c.reconstruct r key raw (.named .managed name) = .ok m) :
    ∃ reference values, m = .handle name reference values ∧
      r.Extends reference.typeName key ∧ r.kind? reference.typeName = some .managed := by
  obtain ⟨d, hd, hread⟩ := Outcome.bind_eq_ok_iff.mp h
  have hsingle : Single raw := by
    constructor
    · rintro rfl
      cases hd
      cases hread
    · rintro items rfl
      obtain ⟨ds, _, rfl⟩ := (decode_array_eq_ok_iff (namesKind_eq_true_iff.mp hkey).1).mp hd
      cases hread
  have hmirrors := mirrors_of_decode hd
  obtain ⟨type, handle, fields, rfl, hextends, hkind⟩ := exists_object_of_mirrors hc hkey hmirrors hsingle
  obtain ⟨id, values, _, rfl⟩ := exists_handle_of_read hread
  exact ⟨⟨type, id⟩, values, rfl, hextends, hkind⟩

/-- A handle that is written is read through every type that its own type extends. -/
theorem reconstruct_reference (hc : c.Coherent r) (hh : c.KnowsHandles r) {t : StructType}
    (ht : t ∈ c.handles) {reference : Reference} (hextends : r.Extends reference.typeName t.wireName) :
    c.reconstruct r t.wireName reference.toJson (.named .managed t.name) =
      .ok (c.newHandle t.name reference) := by
  have hfits := hh.types t ht
  have hkey : t.wireName = c.handleKey t.name := by
    rw [fits, Bool.and_eq_true, beq_iff_eq] at hfits
    exact hfits.1
  have hsub : r.isSubtype reference.typeName (c.handleKey t.name) = true := by
    rw [← hkey]
    exact Registry.isSubtype_eq_true_iff.mpr hextends
  have habsent : ∀ w ∈ (c.handleSlots t.name).map fun _ => Value.absent, w = .absent := by
    intro w hw
    obtain ⟨_, _, rfl⟩ := List.mem_map.mp hw
    rfl
  have htransfers := transfers_handle hc (List.length_map _) habsent hsub hfits
  exact htransfers.reconstruct_eq_ok

theorem reconstruct_of_mem_handleChain (hc : c.Coherent r) (hh : c.KnowsHandles r) {t t' : StructType}
    (ht : t ∈ c.handles) (ht' : t' ∈ c.handleChain t.name) {reference : Reference}
    (hextends : r.Extends reference.typeName t.wireName) :
    c.reconstruct r t'.wireName reference.toJson (.named .managed t'.name) =
      .ok (c.newHandle t'.name reference) := by
  have hmem : t' ∈ c.handles := StructType.mem_of_mem_chainWithin ht'
  have hsub := (hh.chains t ht t' hmem).mp ht'
  exact reconstruct_reference hc hh hmem (hextends.trans (Registry.isSubtype_eq_true_iff.mp hsub))

end Client

end Vmodl
