import Vmodl.Client.Call
import Vmodl.Proofs.Showing
import Vmodl.Proofs.Structures
import Vmodl.Proofs.Values

/-!
# Secrets in shown texts

What is flagged as secret should not be told from the text by which a value is shown. The arguments of a
method keep their own secrets to themselves; records and handles print theirs like any other field. So a
module hides its secrets if its structures have none that differ in what is shown of them, and, where the
handles embed the root, only then.
-/

namespace Vmodl

open Wire

namespace Client

/-- Two values that differ at most in what their structures hold in secret slots. -/
inductive Alike (c : Client) : Value → Value → Prop
  | refl (v : Value) : Alike c v v
  | present {v w : Value} (h : Alike c v w) : Alike c (.present v) (.present w)
  | list {items items' : List Value} (hlength : items.length = items'.length)
      (hitems : ∀ (i : Nat) (v w : Value), items[i]? = some v → items'[i]? = some w → Alike c v w) :
      Alike c (.list items) (.list items')
  | record {name : TypeName} {values values' : List Value}
      (hvalues : ∀ (i : Nat) (slot : Slot) (v w : Value), (c.recordSlots name)[i]? = some slot →
        slot.secret = false → values[i]? = some v → values'[i]? = some w → Alike c v w) :
      Alike c (.record name values) (.record name values')
  | handle {name : TypeName} {reference : Reference} {values values' : List Value}
      (hvalues : ∀ (i : Nat) (slot : Slot) (v w : Value), (c.handleSlots name)[i]? = some slot →
        slot.secret = false → values[i]? = some v → values'[i]? = some w → Alike c v w) :
      Alike c (.handle name reference values) (.handle name reference values')

/-- The slots of a structure, with those of its parents. -/
def slots (c : Client) : TypeKind → TypeName → List Slot
  | .enumeration, _ => []
  | .data, name => c.recordSlots name
  | .managed, name => c.handleSlots name

/-- If there are structures of the type at all, nothing that one can hold in a secret slot is shown in
another way than the rest. -/
def Quiet (c : Client) (kind : TypeKind) (name : TypeName) : Prop :=
  (∃ v, c.Holds (.named kind name) v) → ∀ slot ∈ c.slots kind name, slot.secret = true →
    ∀ a b, c.Holds slot.shape a → c.Holds slot.shape b → a.shown c = b.shown c

/-- The handles of the type embed the root of handles. -/
def FromRoot (c : Client) (kind : TypeKind) (name : TypeName) : Prop :=
  kind = .managed → (c.handleChain name).head? = some rootHandle

variable {c : Client}

theorem shownItems_eq (values : List Value) :
    Value.shownItems c values = values.map (Value.shown c) := by
  induction values with
  | nil => rfl
  | cons v values ih => rw [Value.shownItems, ih, List.map_cons]

theorem mem_zip_of_getElem? {α β : Type*} {l : List α} {l' : List β} {i : Nat} {a : α} {b : β}
    (ha : l[i]? = some a) (hb : l'[i]? = some b) : (a, b) ∈ l.zip l' :=
  List.mem_of_getElem? (List.getElem?_zip_eq_some.mpr ⟨ha, hb⟩)

theorem map_eq_map_of_getElem? {α β : Type*} {f : α → β} {l l' : List α}
    (hlength : l.length = l'.length)
    (h : ∀ (i : Nat) (a b : α), l[i]? = some a → l'[i]? = some b → f a = f b) : l.map f = l'.map f := by
  refine List.ext_getElem (by simpa using hlength) fun i hi hi' => ?_
  rw [List.length_map] at hi hi'
  rw [List.getElem_map, List.getElem_map]
  exact h i _ _ (List.getElem?_eq_getElem hi) (List.getElem?_eq_getElem hi')

theorem map_shown_eq {slots : List Slot} {values values' : List Value}
    (hlength : values.length = slots.length) (hlength' : values'.length = slots.length)
    (h : ∀ (i : Nat) (slot : Slot) (v w : Value), slots[i]? = some slot → values[i]? = some v →
      values'[i]? = some w → v.shown c = w.shown c) :
    Value.shownItems c values = Value.shownItems c values' := by
  rw [shownItems_eq, shownItems_eq]
  refine map_eq_map_of_getElem? (hlength.trans hlength'.symm) fun i v w hv hw => ?_
  have hi : i < slots.length := by
    rw [← hlength]
    exact (List.getElem?_eq_some_iff.mp hv).1
  exact h i _ v w (List.getElem?_eq_getElem hi) hv hw

/-- Structures that agree but for their secrets show the same texts if the secrets have nothing to
tell. -/
theorem shownItems_eq_of_quiet {kind : TypeKind} {name : TypeName} {values values' : List Value}
    (hquiet : ∀ slot ∈ c.slots kind name, slot.secret = true →
      ∀ a b, c.Holds slot.shape a → c.Holds slot.shape b → a.shown c = b.shown c)
    (hlength : values.length = (c.slots kind name).length)
    (hlength' : values'.length = (c.slots kind name).length)
    (hvalues : ∀ p ∈ (c.slots kind name).zip values, c.Holds p.1.shape p.2)
    (hvalues' : ∀ p ∈ (c.slots kind name).zip values', c.Holds p.1.shape p.2)
    (h : ∀ (i : Nat) (slot : Slot) (v w : Value), (c.slots kind name)[i]? = some slot →
      slot.secret = false → values[i]? = some v → values'[i]? = some w → v.shown c = w.shown c) :
    Value.shownItems c values = Value.shownItems c values' := by
  refine map_shown_eq hlength hlength' fun i slot v w hslot hv hw => ?_
  cases hsecret : slot.secret with
  | false => exact h i slot v w hslot hsecret hv hw
  | true =>
      have hholds := hvalues (slot, v) (mem_zip_of_getElem? hslot hv)
      have hholds' := hvalues' (slot, w) (mem_zip_of_getElem? hslot hw)
      exact hquiet slot (List.mem_of_getElem? hslot) hsecret v w hholds hholds'

theorem shown_eq_of_alike (hquiet : ∀ kind name, c.Quiet kind name) {shape : Shape} {v w : Value}
    (hv : c.Holds shape v) (hw : c.Holds shape w) (h : c.Alike v w) : v.shown c = w.shown c := by
  induction hv generalizing w with
  | @record name t values ht hlength hvalues ih =>
      cases h with
      | refl => rfl
      | record halike =>
          cases hw with
          | record _ hlength' hvalues' =>
              have htexts := shownItems_eq_of_quiet
                (hquiet .data name ⟨_, .record ht hlength hvalues⟩) hlength hlength' hvalues hvalues'
                fun i slot v w hslot hsecret hv hw =>
                  ih (slot, v) (mem_zip_of_getElem? hslot hv)
                    (hvalues' (slot, w) (mem_zip_of_getElem? hslot hw))
                    (halike i slot v w hslot hsecret hv hw)
              rw [Value.shown, Value.shown, htexts]
  | @handle name t reference values ht hlength hvalues ih =>
      cases h with
      | refl => rfl
      | handle halike =>
          cases hw with
          | handle _ hlength' hvalues' =>
              have htexts := shownItems_eq_of_quiet
                (hquiet .managed name ⟨.handle name reference values, .handle ht hlength hvalues⟩)
                hlength hlength' hvalues hvalues'
                fun i slot v w hslot hsecret hv hw =>
                  ih (slot, v) (mem_zip_of_getElem? hslot hv)
                    (hvalues' (slot, w) (mem_zip_of_getElem? hslot hw))
                    (halike i slot v w hslot hsecret hv hw)
              rw [Value.shown, Value.shown, htexts]
  | boxed _ ih =>
      cases hw with
      | boxed hw => exact ih hw h
  | present _ ih =>
      cases h with
      | refl => rfl
      | present h =>
          cases hw with
          | present hw => rw [Value.shown, Value.shown, ih hw h]
  | list _ ih =>
      cases h with
      | refl => rfl
      | list hlength halike =>
          cases hw with
          | list hitems' =>
              have htexts := map_eq_map_of_getElem? (f := Value.shown c) hlength fun i v w hv hw =>
                ih v (List.mem_of_getElem? hv) (hitems' w (List.mem_of_getElem? hw))
                  (halike i v w hv hw)
              rw [Value.shown, Value.shown, shownItems_eq, shownItems_eq, htexts]
  | _ => cases h; rfl

theorem holds_set {slots : List Slot} {values : List Value} {k : Nat} {slot : Slot} {a : Value}
    (hvalues : ∀ p ∈ slots.zip values, c.Holds p.1.shape p.2) (hslot : slots[k]? = some slot)
    (ha : c.Holds slot.shape a) : ∀ p ∈ slots.zip (values.set k a), c.Holds p.1.shape p.2 := by
  intro p hp
  obtain ⟨i, hi⟩ := List.mem_iff_getElem?.mp hp
  obtain ⟨hfst, hsnd⟩ := List.getElem?_zip_eq_some.mp hi
  by_cases hik : k = i
  · subst hik
    rw [List.getElem?_set_self'] at hsnd
    obtain ⟨_, _, rfl⟩ := Option.map_eq_some_iff.mp hsnd
    rw [Option.some.inj (hfst.symm.trans hslot)]
    exact ha
  · rw [List.getElem?_set_ne hik] at hsnd
    exact hvalues p (mem_zip_of_getElem? hfst hsnd)

/-- What differs in one secret slot only is alike. -/
theorem alike_set {slots : List Slot} {k : Nat} {slot : Slot} (hslot : slots[k]? = some slot)
    (hsecret : slot.secret = true) (values : List Value) (a b : Value) :
    ∀ (i : Nat) (slot : Slot) (v w : Value), slots[i]? = some slot → slot.secret = false →
      (values.set k a)[i]? = some v → (values.set k b)[i]? = some w → c.Alike v w := by
  intro i slot' v w hslot' hsecret' hv hw
  by_cases hik : k = i
  · subst hik
    rw [Option.some.inj (hslot'.symm.trans hslot), hsecret] at hsecret'
    cases hsecret'
  · rw [List.getElem?_set_ne hik] at hv hw
    rw [Option.some.inj (hv.symm.trans hw)]
    exact .refl w

/-- The values of a structure type are shown alike if they are alike. -/
def Hides (c : Client) (kind : TypeKind) (name : TypeName) : Prop :=
  ∀ v w, c.Holds (.named kind name) v → c.Holds (.named kind name) w → c.Alike v w →
    v.shown c = w.shown c

/-- If a chain of types shows the same text with either value in a field, the values are shown alike. -/
theorem shown_eq_of_chain {base : Option String} {types : List StructType} {values : List Value} {k : Nat}
    {a b : Value} {missing : String} (hk : k < (types.flatMap (·.own)).length)
    (hlength : values.length = (types.flatMap (·.own)).length)
    (h : (Shown.chain base types (Value.shownItems c (values.set k a))).getD missing =
      (Shown.chain base types (Value.shownItems c (values.set k b))).getD missing) :
    a.shown c = b.shown c := by
  rw [shownItems_eq, shownItems_eq, List.map_set, List.map_set] at h
  have htexts : k < (values.map (Value.shown c)).length := by
    rw [List.length_map, hlength]
    exact hk
  exact (Shown.Prints.self.chain base hk htexts missing).injective h

theorem quiet_record {name : TypeName} (h : c.Hides .data name) : c.Quiet .data name := by
  rintro ⟨v, hv⟩ slot hslot hsecret a b ha hb
  cases hv with
  | @record _ t values ht hlength hvalues =>
      obtain ⟨k, hk⟩ := List.mem_iff_getElem?.mp hslot
      have hshown := h (.record name (values.set k a)) (.record name (values.set k b))
        (.record ht (by rw [List.length_set, hlength]) (holds_set hvalues hk ha))
        (.record ht (by rw [List.length_set, hlength]) (holds_set hvalues hk hb))
        (.record (alike_set hk hsecret values a b))
      rw [Value.shown, Value.shown] at hshown
      exact shown_eq_of_chain (List.getElem?_eq_some_iff.mp hk).1 hlength hshown

theorem quiet_handle {name : TypeName} (hroot : c.FromRoot .managed name) (h : c.Hides .managed name) :
    c.Quiet .managed name := by
  rintro ⟨v, hv⟩ slot hslot hsecret a b ha hb
  cases hv with
  | @handle _ t reference values ht hlength hvalues =>
      obtain ⟨k, hk⟩ := List.mem_iff_getElem?.mp hslot
      have hshown := h (.handle name reference (values.set k a)) (.handle name reference (values.set k b))
        (.handle ht (by rw [List.length_set, hlength]) (holds_set hvalues hk ha))
        (.handle ht (by rw [List.length_set, hlength]) (holds_set hvalues hk hb))
        (.handle (alike_set hk hsecret values a b))
      rw [Value.shown, Value.shown] at hshown
      have hlt : k < (c.handleSlots name).length := (List.getElem?_eq_some_iff.mp hk).1
      -- The root has no slots, so those of its heirs are all there are.
      obtain ⟨rest, hchain⟩ := List.head?_eq_some_iff.mp (hroot rfl)
      have hslots : c.handleSlots name = (((c.handleChain name).drop 1).flatMap (·.own)) := by
        rw [handleSlots, hchain]
        rfl
      rw [hslots] at hlt hlength
      exact shown_eq_of_chain hlt hlength hshown

end Client

namespace Operation

variable {c : Client} {o : Operation} {values values' : List Value}

/-- Arguments that differ at most in secret parameters and in secrets that they hold. -/
def AlikeArguments (c : Client) (o : Operation) (values values' : List Value) : Prop :=
  ∀ (i : Nat) (p : Member) (v w : Value), o.parameters[i]? = some p → p.secret = false →
    values[i]? = some v → values'[i]? = some w → c.Alike v w

theorem shownArguments_eq (h : values.length = o.parameters.length)
    (h' : values'.length = o.parameters.length)
    (hshown : ∀ (i : Nat) (p : Member) (v w : Value), o.parameters[i]? = some p → p.secret = false →
      values[i]? = some v → values'[i]? = some w → v.shown c = w.shown c) :
    o.shownArguments c values = o.shownArguments c values' := by
  unfold shownArguments
  congr 1
  apply List.ext_getElem
  · rw [List.length_zipWith, List.length_zipWith, h, h']
  · intro i hi hi'
    rw [List.length_zipWith, Nat.lt_min] at hi hi'
    obtain ⟨hparameter, hv⟩ := hi
    have hget := List.getElem?_eq_getElem hparameter
    rw [List.getElem_zipWith, List.getElem_zipWith]
    generalize o.parameters[i] = p at hget ⊢
    cases hsecret : p.secret with
    | true => rfl
    | false =>
        have htext := hshown i p _ _ hget hsecret (List.getElem?_eq_getElem hv)
          (List.getElem?_eq_getElem hi'.2)
        rw [htext]

end Operation

namespace ClientModule

/-- Nothing that differs in secrets alone is shown differently. -/
structure HidesSecrets (m : ClientModule) : Prop where
  structs : ∀ d ∈ m.structs, (Client.ofModule m).Hides d.kind d.typeName
  arguments : ∀ d ∈ m.managedTypes, ∀ o ∈ d.operations, ∀ values values',
    o.Takes (Client.ofModule m) values → o.Takes (Client.ofModule m) values' →
      o.AlikeArguments (Client.ofModule m) values values' →
        o.shownArguments (Client.ofModule m) values = o.shownArguments (Client.ofModule m) values'

theorem not_secret_of_builtin (m : ClientModule) (kind : TypeKind) {name : TypeName}
    (hbuiltin : name.builtin = true) :
    ∀ slot ∈ (Client.ofModule m).slots kind name, slot.secret = false := by
  intro slot hslot
  cases kind with
  | enumeration => cases hslot
  | data =>
      obtain ⟨t, ht, hown⟩ := List.mem_flatMap.mp hslot
      have hbase : ∀ t ∈ Client.builtinRecords, ∀ base ∈ t.base, base.builtin = true := by decide
      have hsecret : ∀ t ∈ Client.builtinRecords, ∀ slot ∈ t.own, slot.secret = false := by decide
      rw [Client.recordChain, records_ofModule] at ht
      have hmem := StructType.mem_of_mem_chainWithin_append builtin_of_mem_layouts hbase hbuiltin ht
      exact hsecret t hmem slot hown
  | managed =>
      obtain ⟨t, ht, hown⟩ := List.mem_flatMap.mp hslot
      have hbase : ∀ t ∈ [Client.rootHandle], ∀ base ∈ t.base, base.builtin = true := by decide
      rw [Client.handleChain, handles_ofModule, ← List.singleton_append] at ht
      have hmem := StructType.mem_of_mem_chainWithin_append builtin_of_mem_layouts hbase hbuiltin ht
      rw [List.mem_singleton.mp hmem] at hown
      cases hown

theorem exists_struct?_of_holds {c : Client} {kind : TypeKind} {name : TypeName} {v : Value}
    (hkind : kind ≠ .enumeration) (hv : c.Holds (.named kind name) v) :
    ∃ t, c.struct? kind name = some t := by
  cases hv with
  | enumeration => exact absurd rfl hkind
  | record ht => exact ⟨_, ht⟩
  | handle ht => exact ⟨_, ht⟩

/-- Whatever has values is built in, and has no secrets, or is declared. -/
theorem quiet_of_structs {m : ClientModule}
    (h : ∀ d ∈ m.structs, (Client.ofModule m).Quiet d.kind d.typeName) (kind : TypeKind)
    (name : TypeName) : (Client.ofModule m).Quiet kind name := by
  rintro ⟨v, hv⟩ slot hslot hsecret
  have hkind : kind ≠ .enumeration := by
    rintro rfl
    cases hslot
  cases hbuiltin : name.builtin with
  | true =>
      rw [not_secret_of_builtin m kind hbuiltin slot hslot] at hsecret
      cases hsecret
  | false =>
      obtain ⟨t, ht⟩ := exists_struct?_of_holds hkind hv
      obtain ⟨d, hd, rfl, _, rfl⟩ := exists_mem_structs_of_struct? hbuiltin ht
      exact h d hd ⟨v, hv⟩ slot hslot hsecret

theorem hidesSecrets_of_quiet {m : ClientModule}
    (h : ∀ d ∈ m.structs, (Client.ofModule m).Quiet d.kind d.typeName) : m.HidesSecrets where
  structs d _ v w hv hw halike := Client.shown_eq_of_alike (quiet_of_structs h) hv hw halike
  arguments d _ o _ values values' hvalues hvalues' halike := by
    refine Operation.shownArguments_eq hvalues.length_eq.symm hvalues'.length_eq.symm ?_
    intro i p v w hp hsecret hv hw
    have hholds := (List.forall₂_iff_zip.mp hvalues).2 (Client.mem_zip_of_getElem? hp hv)
    have hholds' := (List.forall₂_iff_zip.mp hvalues').2 (Client.mem_zip_of_getElem? hp hw)
    exact Client.shown_eq_of_alike (quiet_of_structs h) hholds hholds' (halike i p v w hp hsecret hv hw)

theorem HidesSecrets.quiet {m : ClientModule} (h : m.HidesSecrets) {d : StructItem} (hd : d ∈ m.structs)
    (hroot : (Client.ofModule m).FromRoot d.kind d.typeName) :
    (Client.ofModule m).Quiet d.kind d.typeName := by
  have hhides := h.structs d hd
  cases hkind : d.kind with
  | enumeration => exact absurd hkind (kind_ne_enumeration_of_mem_structs hd)
  | data =>
      rw [hkind] at hhides
      exact Client.quiet_record hhides
  | managed =>
      rw [hkind] at hhides hroot
      exact Client.quiet_handle hroot hhides

/-- Arguments that differ in secret parameters alone are shown alike. A module hides all its secrets if
none that its structures hold has anything to tell, and then only, if handles embed the root. -/
theorem hidesSecrets_iff_quiet (s : Schema) (rootType : String) :
    let m := ofSchema s rootType
    let c := Client.ofModule m
    (∀ d ∈ m.managedTypes, ∀ o ∈ d.operations, ∀ values values',
      o.Takes c values → o.Takes c values' →
        (∀ (i : Nat) (p : Member), o.parameters[i]? = some p → p.secret = false →
          values[i]? = values'[i]?) →
            o.shownArguments c values = o.shownArguments c values') ∧
    ((∀ d ∈ m.structs, c.Quiet d.kind d.typeName) → m.HidesSecrets) ∧
    (m.HidesSecrets → ∀ d ∈ m.structs, c.FromRoot d.kind d.typeName → c.Quiet d.kind d.typeName) := by
  intro m c
  refine ⟨?_, hidesSecrets_of_quiet, fun h d hd hroot => h.quiet hd hroot⟩
  intro d _ o _ values values' hvalues hvalues' hsame
  refine Operation.shownArguments_eq hvalues.length_eq.symm hvalues'.length_eq.symm ?_
  intro i p v w hp hsecret hv hw
  have heq := hsame i p hp hsecret
  rw [hv, hw] at heq
  rw [Option.some.inj heq]

/-! ### A secret field -/

def passwordProperty : Property where
  name := "password"
  wireType := "string"
  flags := ⟨8⟩

/-- A data type that holds a password. -/
def credentials : Schema where
  dataTypes := [
    { qualified := "vim.Credentials"
      wireName := "Credentials"
      fields := [passwordProperty] }]

def credentialsName : TypeName := ⟨false, "Credentials"⟩

def passwordSlot : Slot where
  ident := "password"
  wireName := "password"
  shape := .primitive .string
  secret := true

theorem credentials_layout :
    (Client.ofModule (ofSchema credentials "")).record? credentialsName =
      some ⟨credentialsName, "Credentials", none, [passwordSlot]⟩ ∧
    (Client.ofModule (ofSchema credentials "")).recordSlots credentialsName = [passwordSlot] ∧
    (.data, credentialsName) ∈
      (ofSchema credentials "").structs.map (fun d => (d.kind, d.typeName)) ∧
    (Value.record credentialsName [.text "a"]).shown (Client.ofModule (ofSchema credentials "")) ≠
      (Value.record credentialsName [.text "b"]).shown (Client.ofModule (ofSchema credentials "")) := by
  decide +kernel

theorem holds_credentials (password : String) :
    (Client.ofModule (ofSchema credentials "")).Holds (.named .data credentialsName)
      (.record credentialsName [.text password]) := by
  obtain ⟨hrecord, hslots, _, _⟩ := credentials_layout
  refine .record hrecord (by rw [hslots]; rfl) fun p hp => ?_
  rw [hslots] at hp
  obtain rfl : p = (passwordSlot, .text password) := by simpa using hp
  exact .text password

theorem alike_credentials (password password' : String) :
    (Client.ofModule (ofSchema credentials "")).Alike
      (.record credentialsName [.text password]) (.record credentialsName [.text password']) := by
  obtain ⟨_, hslots, _, _⟩ := credentials_layout
  refine .record fun i slot v w hslot hsecret _ _ => ?_
  rw [hslots] at hslot
  obtain rfl : slot = passwordSlot := List.mem_singleton.mp (List.mem_of_getElem? hslot)
  cases hsecret

theorem hides_credentials (h : (ofSchema credentials "").HidesSecrets) :
    (Client.ofModule (ofSchema credentials "")).Hides .data credentialsName := by
  obtain ⟨_, _, hstructs, _⟩ := credentials_layout
  obtain ⟨d, hd, heq⟩ := List.mem_map.mp hstructs
  obtain ⟨hkind, hname⟩ := Prod.mk.inj heq
  have hhides := h.structs d hd
  rw [hkind, hname] at hhides
  exact hhides

theorem not_hidesSecrets_credentials :
    ¬∀ (s : Schema) (rootType : String), (ofSchema s rootType).HidesSecrets := by
  intro h
  obtain ⟨_, _, _, hdiffer⟩ := credentials_layout
  have hhides := hides_credentials (h credentials "")
  exact hdiffer (hhides _ _ (holds_credentials "a") (holds_credentials "b") (alike_credentials "a" "b"))

end ClientModule

end Vmodl
