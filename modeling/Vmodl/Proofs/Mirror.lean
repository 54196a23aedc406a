import Vmodl.Proofs.Decoding
import Vmodl.Proofs.Lineage

/-!
# Decoded values mirror raw ones

`Mirrors` says which decoded value a raw value stands for under a type key, without reference to the
decoder and with lineages that may be of any length. The main statement is that decoding succeeds with
exactly the values that mirror the raw one, so no member of a tree is dropped, invented or mistyped.
-/

namespace Vmodl.Wire

/-- The type that a value of a declared type is read as: the one that it names for itself, if that is
another type that extends the declared one, or else the declared one. -/
inductive EffectiveType (r : Registry) (declared : String) : Json → String → Prop
  | named {members : Json.Members} {actual : String} (hname : discriminator? members = some actual)
      (hne : actual ≠ declared) (hextends : r.Extends actual declared) :
      EffectiveType r declared (.object members) actual
  | declared {j : Json} (hnone : ∀ members actual, j = .object members →
      discriminator? members = some actual → actual ≠ declared → ¬r.Extends actual declared) :
      EffectiveType r declared j declared

/-- A decoded value mirrors a raw one under a type key, node by node. -/
inductive Mirrors (r : Registry) : String → Json → Decoded → Prop
  | null {key : String} : Mirrors r key .null .null
  | untyped {j : Json} (hj : j ≠ .null) : Mirrors r "" j (.scalar (unwrap j))
  | list {key : String} {items : List Json} {ds : List Decoded} (hkey : key ≠ "")
      (hlength : items.length = ds.length)
      (hitems : ∀ j d, (j, d) ∈ items.zip ds → Mirrors r (stripArray key) j d) :
      Mirrors r key (.array items) (.list ds)
  | dateTime {key text : String} {j : Json} {t : Instant} (hkey : key ≠ "") (hj : Single j)
      (hstrip : stripArray key = dateTimeKey) (htext : unwrap j = .string text)
      (ht : readInstant text = .ok t) : Mirrors r key j (.dateTime t)
  | binary {key text : String} {j : Json} {bytes : List UInt8} (hkey : key ≠ "") (hj : Single j)
      (hstrip : stripArray key = binaryKey) (htext : unwrap j = .string text)
      (hbytes : readBytes text = .ok bytes) : Mirrors r key j (.binary bytes)
  | scalar {key : String} {j : Json} (hkey : key ≠ "") (hj : Single j)
      (hstrip : ScalarKey r (stripArray key)) : Mirrors r key j (.scalar (unwrap j))
  | unregistered {key type : String} {j : Json} (hkey : key ≠ "") (hj : Single j)
      (hstrip : TypeKey r (stripArray key)) (htype : EffectiveType r (stripArray key) j type)
      (hkind : r.kind? type = none) : Mirrors r key j (.scalar j)
  | enumerated {key type : String} {j : Json} (hkey : key ≠ "") (hj : Single j)
      (hstrip : TypeKey r (stripArray key)) (htype : EffectiveType r (stripArray key) j type)
      (hkind : r.kind? type = some .enumeration) : Mirrors r key j (.scalar (unwrap j))
  | handle {key type handle : String} (hkey : key ≠ "") (hstrip : TypeKey r (stripArray key))
      (htype : EffectiveType r (stripArray key) (.string handle) type)
      (hkind : r.kind? type = some .managed) :
      Mirrors r key (.string handle) (.object type (some handle) [])
  | object {key type : String} {kind : TypeKind} {members : Json.Members}
      {entries : List (String × Decoded)} (hkey : key ≠ "") (hstrip : TypeKey r (stripArray key))
      (htype : EffectiveType r (stripArray key) (.object members) type)
      (hkind : r.kind? type = some kind) (hfields : kind ≠ .enumeration)
      (hnames : (fieldMembers kind members).map Prod.fst = entries.map Prod.fst)
      (hdescribed : ∀ m e t, (m, e) ∈ (fieldMembers kind members).zip entries →
        r.Declares m.1 type t → Mirrors r t.key m.2 e.2)
      (hundescribed : ∀ m e, (m, e) ∈ (fieldMembers kind members).zip entries →
        (∀ t, ¬r.Declares m.1 type t) → e.2 = .scalar m.2) :
      Mirrors r key (.object members) (.object type (objectHandle kind members) (Table.ofEntries entries))

theorem effectiveType_object_iff {r : Registry} {declared type : String} {members : Json.Members} :
    EffectiveType r declared (.object members) type ↔ effectiveType r declared members = type := by
  have hiff : ∀ actual, (actual ≠ declared ∧ r.isSubtype actual declared = true) ↔
      (actual ≠ declared ∧ r.Extends actual declared) :=
    fun actual => and_congr_right fun _ => Registry.isSubtype_eq_true_iff
  constructor
  · intro h
    cases h with
    | named hname hne hextends =>
        simp [effectiveType, hname, hne, Registry.isSubtype_eq_true_iff.mpr hextends]
    | declared hnone =>
        cases hname : discriminator? members with
        | none => simp [effectiveType, hname]
        | some actual =>
            have hno := hnone members actual rfl hname
            simp only [effectiveType, hname]
            exact if_neg fun h => hno h.1 ((hiff actual).mp h).2
  · rintro rfl
    cases hname : discriminator? members with
    | none =>
        have heq : effectiveType r declared members = declared := by simp [effectiveType, hname]
        rw [heq]
        refine .declared fun members' actual hmembers hname' => ?_
        cases hmembers
        simp [hname] at hname'
    | some actual =>
        by_cases hsub : actual ≠ declared ∧ r.Extends actual declared
        · have heq : effectiveType r declared members = actual := by
            simp only [effectiveType, hname]
            exact if_pos ((hiff actual).mpr hsub)
          rw [heq]
          exact .named hname hsub.1 hsub.2
        · have heq : effectiveType r declared members = declared := by
            simp only [effectiveType, hname]
            exact if_neg fun h => hsub ((hiff actual).mp h)
          rw [heq]
          refine .declared fun members' actual' hmembers hname' hne hextends => ?_
          cases hmembers
          cases hname.symm.trans hname'
          exact hsub ⟨hne, hextends⟩

theorem effectiveType_of_not_object {r : Registry} {declared type : String} {j : Json}
    (hj : ∀ members, j ≠ .object members) : EffectiveType r declared j type ↔ type = declared := by
  constructor
  · intro h
    cases h with
    | named => exact absurd rfl (hj _)
    | declared => rfl
  · rintro rfl
    exact .declared fun members _ hmembers => absurd hmembers (hj members)

/-! ### What the decoder gives mirrors the raw value -/

/-- The keys that name no type with fields; those that do are left to the caller. -/
theorem mirrors_of_decode_single {r : Registry} {key : String} {j : Json} {d : Decoded}
    (hkey : key ≠ "") (hj : Single j) (h : decode r key j = .ok d)
    (hdeclared : reading r (stripArray key) = .declared → Mirrors r key j d) : Mirrors r key j d := by
  cases hreading : reading r (stripArray key) with
  | dateTime =>
      rw [decode_of_dateTime hkey hj hreading] at h
      obtain ⟨text, t, htext, ht, rfl⟩ := decodeDateTime_eq_ok_iff.mp h
      exact .dateTime hkey hj (reading_eq_dateTime_iff.mp hreading) htext ht
  | binary =>
      rw [decode_of_binary hkey hj hreading] at h
      obtain ⟨text, bytes, htext, hbytes, rfl⟩ := decodeBinary_eq_ok_iff.mp h
      exact .binary hkey hj (reading_eq_binary_iff.mp hreading) htext hbytes
  | scalar =>
      rw [decode_of_scalar hkey hj hreading] at h
      cases h
      exact .scalar hkey hj (reading_eq_scalar_iff.mp hreading)
  | declared => exact hdeclared hreading

theorem mirrors_of_decode_atom {r : Registry} {key : String} {j : Json} {d : Decoded} (hj : Atom j)
    (h : decode r key j = .ok d) : Mirrors r key j d := by
  by_cases hkey : key = ""
  · subst hkey
    rw [decode_untyped hj.1.1] at h
    cases h
    exact .untyped hj.1.1
  refine mirrors_of_decode_single hkey hj.1 h fun hreading => ?_
  have hstrip := reading_eq_declared_iff.mp hreading
  have htype : EffectiveType r (stripArray key) j (stripArray key) :=
    (effectiveType_of_not_object hj.2).mpr rfl
  rw [decode_of_atom hkey hj] at h
  simp only [decodeAtom, hreading] at h
  cases hkind : r.kind? (stripArray key) with
  | none =>
      simp only [hkind] at h
      cases h
      exact .unregistered hkey hj.1 hstrip htype hkind
  | some kind =>
      cases kind with
      | enumeration => exact absurd hkind hstrip.2.2.2
      | data => simp [hkind] at h
      | managed =>
          simp only [hkind] at h
          split at h
          · cases h
            exact .handle hkey hstrip htype hkind
          · cases h

theorem mirrors_of_decodeFields {r : Registry} {key type : String} {kind : TypeKind}
    {members : Json.Members} {fields : Table Decoded} (hkey : key ≠ "")
    (hstrip : TypeKey r (stripArray key))
    (htype : EffectiveType r (stripArray key) (.object members) type) (hkind : r.kind? type = some kind)
    (hfields : kind ≠ .enumeration)
    (ih : ∀ m ∈ members, ∀ {key d}, decode r key m.2 = .ok d → Mirrors r key m.2 d)
    (h : decodeFields r kind type [] members = .ok fields) :
    Mirrors r key (.object members) (.object type (objectHandle kind members) fields) := by
  obtain ⟨entries, hentries, rfl⟩ := decodeFields_eq_ok_iff.mp h
  have hnames : (fieldMembers kind members).map Prod.fst = entries.map Prod.fst := by
    rw [← List.forall₂_eq_eq_eq, List.forall₂_map_left_iff, List.forall₂_map_right_iff]
    exact hentries.imp fun _ _ h => h.1
  have hzip : ∀ m e, (m, e) ∈ (fieldMembers kind members).zip entries →
      decodeMember r type m = .ok e.2 := fun m e hme => ((List.forall₂_iff_zip.mp hentries).2 hme).2
  refine .object hkey hstrip htype hkind hfields hnames ?_ ?_
  · intro m e t hme ht
    have hm : m ∈ members := (List.mem_filter.mp (List.of_mem_zip hme).1).1
    have hdecode := hzip m e hme
    rw [decodeMember, Registry.field?_eq_some_iff.mpr ht] at hdecode
    exact ih m hm hdecode
  · intro m e hme hnone
    have hdecode := hzip m e hme
    rw [decodeMember, Registry.field?_eq_none_iff.mpr hnone] at hdecode
    exact (Except.ok.inj hdecode).symm

theorem mirrors_of_decode {r : Registry} {j : Json} :
    ∀ {key d}, decode r key j = .ok d → Mirrors r key j d := by
  induction j using Json.nestedInduction with
  | null =>
      intro key d h
      cases h
      exact .null
  | bool b => exact mirrors_of_decode_atom (by simp [Atom, Single])
  | number n => exact mirrors_of_decode_atom (by simp [Atom, Single])
  | string s => exact mirrors_of_decode_atom (by simp [Atom, Single])
  | array items ih =>
      intro key d h
      by_cases hkey : key = ""
      · subst hkey
        rw [decode_untyped (by simp)] at h
        cases h
        exact .untyped (by simp)
      obtain ⟨ds, hds, rfl⟩ := (decode_array_eq_ok_iff hkey).mp h
      obtain ⟨hlength, hzip⟩ := List.forall₂_iff_zip.mp hds
      exact .list hkey hlength fun j d hjd => ih j (List.of_mem_zip hjd).1 (hzip hjd)
  | object members ih =>
      intro key d h
      by_cases hkey : key = ""
      · subst hkey
        rw [decode_untyped (by simp)] at h
        cases h
        exact .untyped (by simp)
      have hj : Single (.object members) := by simp [Single]
      -- Only under the key of a declared type do the members matter.
      refine mirrors_of_decode_single hkey hj h fun hreading => ?_
      have hstrip := reading_eq_declared_iff.mp hreading
      have htype : EffectiveType r (stripArray key) (.object members)
          (effectiveType r (stripArray key) members) := effectiveType_object_iff.mpr rfl
      cases hkind : r.kind? (effectiveType r (stripArray key) members) with
      | none =>
          rw [decode_object_of_unregistered hkey hreading hkind] at h
          cases h
          exact .unregistered hkey hj hstrip htype hkind
      | some kind =>
          by_cases henum : kind = .enumeration
          · subst henum
            rw [decode_object_of_enumeration hkey hreading hkind] at h
            cases h
            exact .enumerated hkey hj hstrip htype hkind
          · rw [decode_object_of_fields hkey hreading rfl hkind henum] at h
            obtain ⟨fields, hfields, rfl⟩ := Outcome.map_eq_ok_iff.mp h
            exact mirrors_of_decodeFields hkey hstrip htype hkind henum ih hfields

/-! ### The decoder gives whatever mirrors the raw value -/

theorem decode_of_mirrors {r : Registry} {key : String} {j : Json} {d : Decoded}
    (h : Mirrors r key j d) : decode r key j = .ok d := by
  induction h with
  | null => rfl
  | untyped hj => exact decode_untyped hj
  | @list key items ds hkey hlength _ ih =>
      refine (decode_array_eq_ok_iff hkey).mpr ⟨ds, List.forall₂_iff_zip.mpr ⟨hlength, ?_⟩, rfl⟩
      exact fun hjd => ih _ _ hjd
  | dateTime hkey hj hstrip htext ht =>
      rw [decode_of_dateTime hkey hj (reading_eq_dateTime_iff.mpr hstrip)]
      exact decodeDateTime_eq_ok_iff.mpr ⟨_, _, htext, ht, rfl⟩
  | binary hkey hj hstrip htext hbytes =>
      rw [decode_of_binary hkey hj (reading_eq_binary_iff.mpr hstrip)]
      exact decodeBinary_eq_ok_iff.mpr ⟨_, _, htext, hbytes, rfl⟩
  | scalar hkey hj hstrip => exact decode_of_scalar hkey hj (reading_eq_scalar_iff.mpr hstrip)
  | @unregistered key type j hkey hj hstrip htype hkind =>
      have hreading := reading_eq_declared_iff.mpr hstrip
      by_cases hobject : ∃ members, j = .object members
      · obtain ⟨members, rfl⟩ := hobject
        cases effectiveType_object_iff.mp htype
        exact decode_object_of_unregistered hkey hreading hkind
      · have hatom : Atom j := ⟨hj, fun members h => hobject ⟨members, h⟩⟩
        cases (effectiveType_of_not_object hatom.2).mp htype
        simp [decode_of_atom hkey hatom, decodeAtom, hreading, hkind]
  | @enumerated key type j hkey hj hstrip htype hkind =>
      have hreading := reading_eq_declared_iff.mpr hstrip
      by_cases hobject : ∃ members, j = .object members
      · obtain ⟨members, rfl⟩ := hobject
        cases effectiveType_object_iff.mp htype
        exact decode_object_of_enumeration hkey hreading hkind
      · -- The declared type of a value without parts is its effective one, and is no enumeration.
        cases (effectiveType_of_not_object fun members h => hobject ⟨members, h⟩).mp htype
        exact absurd hkind hstrip.2.2.2
  | @handle key type handle hkey hstrip htype hkind =>
      have hatom : Atom (.string handle) := by simp [Atom, Single]
      cases (effectiveType_of_not_object hatom.2).mp htype
      simp [decode_of_atom hkey hatom, decodeAtom, reading_eq_declared_iff.mpr hstrip, hkind,
        DecodedObject.ofHandle, DecodedObject.decoded]
  | @object key type kind members entries hkey hstrip htype hkind hfields hnames _ hundescribed ih =>
      have hfst : List.Forall₂ (fun m e => m.1 = e.1) (fieldMembers kind members) entries := by
        rwa [← List.forall₂_eq_eq_eq, List.forall₂_map_left_iff, List.forall₂_map_right_iff] at hnames
      obtain ⟨hlength, hzip⟩ := List.forall₂_iff_zip.mp hfst
      have hdecode : ∀ m e, (m, e) ∈ (fieldMembers kind members).zip entries →
          decodeMember r type m = .ok e.2 := by
        intro m e hme
        rw [decodeMember]
        split
        · rename_i t ht
          exact ih m e t hme (Registry.field?_eq_some_iff.mp ht)
        · rename_i hnone
          rw [hundescribed m e hme (Registry.field?_eq_none_iff.mp hnone)]
      rw [decode_object_of_fields hkey (reading_eq_declared_iff.mpr hstrip)
        (effectiveType_object_iff.mp htype) hkind hfields, Outcome.map_eq_ok_iff]
      refine ⟨Table.ofEntries entries, decodeFields_eq_ok_iff.mpr ⟨entries, ?_, rfl⟩, rfl⟩
      exact List.forall₂_iff_zip.mpr ⟨hlength, fun hme => ⟨hzip hme, hdecode _ _ hme⟩⟩

/-- Decoding succeeds with the values that mirror the raw one, and with no others. -/
theorem decode_eq_ok_iff_mirrors (r : Registry) (key : String) (j : Json) (d : Decoded) :
    decode r key j = .ok d ↔ Mirrors r key j d :=
  ⟨mirrors_of_decode, decode_of_mirrors⟩

end Vmodl.Wire
