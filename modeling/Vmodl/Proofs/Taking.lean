import Vmodl.Client.Reading
import Vmodl.Proofs.Outcomes
import Vmodl.Proofs.Tables

/-!
# Taking fields out of an object

Every slot takes its field out of the object, whether it finds it or not. Of several slots for one
field the first therefore consumes it, and the others find nothing.
-/

namespace Vmodl.Client

variable {c : Client}

theorem take_snd (o : OpenObject) (name : String) (shape : Shape) :
    (c.take o name shape).2 = { o with parts := o.parts.erase name } := by
  unfold take
  dsimp only
  split <;> rfl

theorem takeAll_cons (o : OpenObject) (slot : Slot) (slots : List Slot) :
    c.takeAll o (slot :: slots) =
      match (c.take o slot.wireName slot.shape).1,
        c.takeAll { o with parts := o.parts.erase slot.wireName } slots with
      | .error e, _ => (.error e, { o with parts := o.parts.erase slot.wireName })
      | .ok v, (rest, o') => (rest.map (v :: ·), o') := by
  have hsnd := take_snd (c := c) o slot.wireName slot.shape
  rcases htake : c.take o slot.wireName slot.shape with ⟨first, o₁⟩
  rw [htake] at hsnd
  obtain rfl : o₁ = _ := hsnd
  cases first with
  | error e => simp only [takeAll, htake]
  | ok v =>
      simp only [takeAll, htake]
      rcases c.takeAll { o with parts := o.parts.erase slot.wireName } slots with ⟨rest, o₂⟩
      cases rest <;> rfl

theorem takeAll_cons_eq_ok_iff {o o' : OpenObject} {slot : Slot} {slots : List Slot}
    {vs : List Value} :
    c.takeAll o (slot :: slots) = (.ok vs, o') ↔
      ∃ v rest, (c.take o slot.wireName slot.shape).1 = .ok v ∧ vs = v :: rest ∧
        c.takeAll { o with parts := o.parts.erase slot.wireName } slots = (.ok rest, o') := by
  rw [takeAll_cons]
  cases (c.take o slot.wireName slot.shape).1 with
  | error e => simp
  | ok v =>
      rcases c.takeAll { o with parts := o.parts.erase slot.wireName } slots with ⟨rest, o₂⟩
      simp only [Prod.mk.injEq, Outcome.map_eq_ok_iff]
      constructor
      · rintro ⟨⟨rest, rfl, rfl⟩, rfl⟩
        exact ⟨v, rest, rfl, rfl, rfl, rfl⟩
      · rintro ⟨_, rest, hv, rfl, rfl, rfl⟩
        cases hv
        exact ⟨⟨rest, rfl, rfl⟩, rfl⟩

/-- After a run of slots the object is left with the parts that none of them is for. -/
theorem takeAll_snd {o o' : OpenObject} {slots : List Slot} {vs : List Value}
    (h : c.takeAll o slots = (.ok vs, o')) :
    o' = { o with parts := o.parts.filter fun e => e.1 ∉ slots.map (·.wireName) } := by
  induction slots generalizing o vs with
  | nil =>
      cases h
      simp
  | cons slot slots ih =>
      obtain ⟨v, rest, _, _, hrest⟩ := takeAll_cons_eq_ok_iff.mp h
      rw [ih hrest, Table.erase, List.filter_filter]
      congr 1
      apply List.filter_congr
      intro e _
      by_cases he : e.1 = slot.wireName <;> simp [he]

/-- After a run of slots the object holds the fields that none of them is for. -/
theorem lookup_takeAll {o o' : OpenObject} {slots : List Slot} {vs : List Value}
    (h : c.takeAll o slots = (.ok vs, o')) (field : String) :
    o'.parts.lookup field =
      if field ∈ slots.map (·.wireName) then none else o.parts.lookup field := by
  rw [takeAll_snd h, Table.lookup_filter o.parts fun name => name ∉ slots.map (·.wireName)]
  by_cases hfield : field ∈ slots.map (·.wireName) <;> simp [hfield]

/-- What a slot takes does not depend on other fields. -/
theorem take_fst_erase_of_ne {o : OpenObject} {name other : String} {shape : Shape}
    (hne : name ≠ other) :
    (c.take { o with parts := o.parts.erase other } name shape).1 = (c.take o name shape).1 := by
  unfold take
  dsimp only
  rw [Table.lookup_erase, if_neg hne]
  split <;> rfl

theorem takeAll_cons_fst (o : OpenObject) (slot : Slot) (slots : List Slot) :
    (c.takeAll o (slot :: slots)).1 =
      (c.take o slot.wireName slot.shape).1 >>= fun v =>
        (c.takeAll { o with parts := o.parts.erase slot.wireName } slots).1 >>= fun vs =>
          pure (v :: vs) := by
  rw [takeAll_cons]
  cases (c.take o slot.wireName slot.shape).1 with
  | error e => rfl
  | ok v =>
      rcases c.takeAll { o with parts := o.parts.erase slot.wireName } slots with ⟨rest, o₂⟩
      cases rest <;> rfl

theorem takeAll_fst_of_agree {o o' : OpenObject} {slots : List Slot}
    (hnodup : (slots.map (·.wireName)).Nodup)
    (hagree : ∀ s ∈ slots, (c.take o' s.wireName s.shape).1 = (c.take o s.wireName s.shape).1) :
    (c.takeAll o' slots).1 = slots.mapM fun s => (c.take o s.wireName s.shape).1 := by
  induction slots generalizing o' with
  | nil => rfl
  | cons slot slots ih =>
      rw [List.map_cons, List.nodup_cons] at hnodup
      -- Taking one field leaves what the other names find.
      have hrest : ∀ s ∈ slots,
          (c.take { o' with parts := o'.parts.erase slot.wireName } s.wireName s.shape).1 =
            (c.take o s.wireName s.shape).1 := by
        intro s hs
        have hne : s.wireName ≠ slot.wireName := by
          intro heq
          exact hnodup.1 (List.mem_map.mpr ⟨s, hs, heq⟩)
        rw [take_fst_erase_of_ne hne]
        exact hagree s (List.mem_cons_of_mem _ hs)
      rw [takeAll_cons_fst, List.mapM_cons, hagree slot List.mem_cons_self, ih hnodup.2 hrest]

/-- Slots for different fields are filled one by one, each as if it were alone. -/
theorem takeAll_fst (o : OpenObject) {slots : List Slot} (hnodup : (slots.map (·.wireName)).Nodup) :
    (c.takeAll o slots).1 = slots.mapM fun s => (c.take o s.wireName s.shape).1 :=
  takeAll_fst_of_agree hnodup fun _ _ => rfl

theorem take_fst_of_lookup_eq_some {o : OpenObject} {name : String} {shape : Shape} {part : Part}
    {v : Value} (hpart : o.parts.lookup name = some part) (hread : part.read shape = .ok v) :
    (c.take o name shape).1 = .ok v := by
  simp [take, hpart, hread]

theorem take_fst_of_lookup_eq_none {o : OpenObject} {name : String} {shape : Shape} {v : Value}
    (hpart : o.parts.lookup name = none) (hnull : c.readNull shape = .ok v) :
    (c.take o name shape).1 = .ok v := by
  simp [take, hpart, hnull]

/-- Slots for different fields are filled together if each of them can be filled by itself. -/
theorem takeAll_eq_ok {o : OpenObject} {slots : List Slot} {values : List Value}
    (hlength : values.length = slots.length) (hnodup : (slots.map (·.wireName)).Nodup)
    (htake : ∀ p ∈ slots.zip values, (c.take o p.1.wireName p.1.shape).1 = .ok p.2) :
    (c.takeAll o slots).1 = .ok values := by
  rw [takeAll_fst o hnodup, Outcome.mapM_eq_ok_iff, List.forall₂_iff_zip]
  exact ⟨hlength.symm, fun hp => htake _ hp⟩

/-! ### Who consumes a field -/

/-- What a slot finds in an object: the part under its name, or null if there is none, read in its
shape. -/
inductive Finds (c : Client) (o : OpenObject) (slot : Slot) : Value → Prop
  | part {p : Part} {v : Value} (hpart : o.parts.lookup slot.wireName = some p)
      (hread : p.read slot.shape = .ok v) : Finds c o slot v
  | null {v : Value} (hpart : o.parts.lookup slot.wireName = none)
      (hread : c.readNull slot.shape = .ok v) : Finds c o slot v

/-- How slots are filled one after another, each with what it finds in what those before it left. -/
inductive Fills (c : Client) : OpenObject → List Slot → List Value → Prop
  | nil {o : OpenObject} : Fills c o [] []
  | cons {o : OpenObject} {slot : Slot} {slots : List Slot} {v : Value} {vs : List Value}
      (hv : c.Finds o slot v)
      (hrest : Fills c { o with parts := o.parts.erase slot.wireName } slots vs) :
      Fills c o (slot :: slots) (v :: vs)

theorem take_fst_eq_ok_iff {o : OpenObject} {slot : Slot} {v : Value} :
    (c.take o slot.wireName slot.shape).1 = .ok v ↔ c.Finds o slot v := by
  constructor
  · intro h
    rw [take] at h
    cases hpart : o.parts.lookup slot.wireName with
    | none =>
        cases hread : c.readNull slot.shape with
        | ok w =>
            simp only [hpart, hread] at h
            cases h
            exact .null hpart hread
        | error e => cases e <;> simp [hpart, hread] at h
    | some p =>
        cases hread : p.read slot.shape with
        | ok w =>
            simp only [hpart, hread] at h
            cases h
            exact .part hpart hread
        | error e => cases e <;> simp [hpart, hread] at h
  · intro h
    cases h with
    | part hpart hread => exact take_fst_of_lookup_eq_some hpart hread
    | null hpart hread => exact take_fst_of_lookup_eq_none hpart hread

/-- Slots are taken out of an object exactly as they can be filled. -/
theorem exists_takeAll_eq_ok_iff {o : OpenObject} {slots : List Slot} {vs : List Value} :
    (∃ o', c.takeAll o slots = (.ok vs, o')) ↔ c.Fills o slots vs := by
  induction slots generalizing o vs with
  | nil =>
      constructor
      · rintro ⟨_, h⟩
        cases h
        exact .nil
      · intro h
        cases h
        exact ⟨o, rfl⟩
  | cons slot slots ih =>
      constructor
      · rintro ⟨o', h⟩
        obtain ⟨v, rest, hv, rfl, hrest⟩ := takeAll_cons_eq_ok_iff.mp h
        exact .cons (take_fst_eq_ok_iff.mp hv) (ih.mp ⟨o', hrest⟩)
      · intro h
        cases h with
        | @cons _ _ _ v vs hv hfills =>
            obtain ⟨o', hrest⟩ := ih.mpr hfills
            exact ⟨o', takeAll_cons_eq_ok_iff.mpr ⟨v, vs, take_fst_eq_ok_iff.mpr hv, rfl, hrest⟩⟩

/-- Slots that can be null are filled by an object that has none of their fields. -/
theorem exists_fills_of_lookup_eq_none {o : OpenObject} {slots : List Slot}
    (hfree : ∀ slot ∈ slots, o.parts.lookup slot.wireName = none)
    (hnull : ∀ slot ∈ slots, ∃ v, c.readNull slot.shape = .ok v) : ∃ vs, c.Fills o slots vs := by
  induction slots generalizing o with
  | nil => exact ⟨[], .nil⟩
  | cons slot slots ih =>
      rw [List.forall_mem_cons] at hfree hnull
      obtain ⟨v, hv⟩ := hnull.1
      have hrest : ∀ s ∈ slots, (o.parts.erase slot.wireName).lookup s.wireName = none := by
        intro s hs
        rw [Table.lookup_erase, hfree.2 s hs, ite_self]
      obtain ⟨vs, hvs⟩ := ih (o := { o with parts := o.parts.erase slot.wireName }) hrest hnull.2
      exact ⟨v :: vs, .cons (.null hfree.1 hv) hvs⟩

/-- A slot consumes a part of an object: those before it are filled, the object still has the part when
the turn of the slot comes, and the slot is filled with what the part reads as and leaves no such part. -/
def Consumes (c : Client) (o : OpenObject) (before : List Slot) (slot : Slot) (part : Part) : Prop :=
  ∃ vs o', c.takeAll o before = (.ok vs, o') ∧ o'.parts.lookup slot.wireName = some part ∧
    (∀ v, (c.take o' slot.wireName slot.shape).1 = .ok v ↔ part.read slot.shape = .ok v) ∧
    (c.take o' slot.wireName slot.shape).2.parts.lookup slot.wireName = none

/-- The slot that consumes a part is the first one for its name, if those before it can be filled. -/
theorem consumes_iff {o : OpenObject} {before : List Slot} {slot : Slot} {part : Part} :
    c.Consumes o before slot part ↔
      slot.wireName ∉ before.map (·.wireName) ∧ o.parts.lookup slot.wireName = some part ∧
        ∃ vs, c.Fills o before vs := by
  constructor
  · rintro ⟨vs, o', htake, hpart, _, _⟩
    rw [lookup_takeAll htake] at hpart
    split at hpart
    · cases hpart
    · rename_i hnot
      exact ⟨hnot, hpart, vs, exists_takeAll_eq_ok_iff.mp ⟨o', htake⟩⟩
  · rintro ⟨hnot, hpart, vs, hfills⟩
    obtain ⟨o', htake⟩ := exists_takeAll_eq_ok_iff.mpr hfills
    have hleft : o'.parts.lookup slot.wireName = some part := by
      rwa [lookup_takeAll htake, if_neg hnot]
    refine ⟨vs, o', htake, hleft, fun v => ?_, ?_⟩
    · rw [take_fst_eq_ok_iff]
      constructor
      · intro h
        cases h with
        | part hfound hread =>
            rw [hleft] at hfound
            cases hfound
            exact hread
        | null hfound _ =>
            rw [hleft] at hfound
            cases hfound
      · exact .part hleft
    · rw [take_snd, Table.lookup_erase, if_pos rfl]

/-- One of the slots for a field takes it out of every object that has it, as soon as those before it can
be filled, and no other slot ever does. -/
structure TakesFirst (c : Client) (slots before : List Slot) (slot : Slot) (field : String) : Prop where
  name : slot.wireName = field
  consumes : ∀ o part vs, o.parts.lookup field = some part → c.Fills o before vs →
    c.Consumes o before slot part
  only : ∀ o part before' slot' after, slots = before' ++ slot' :: after → slot'.wireName = field →
    c.Consumes o before' slot' part → before' = before ∧ slot' = slot

theorem takesFirst_of_not_mem {before after : List Slot} {slot : Slot} {field : String}
    (hname : slot.wireName = field) (hnot : field ∉ before.map (·.wireName)) :
    c.TakesFirst (before ++ slot :: after) before slot field where
  name := hname
  consumes o part vs hpart hfills := by
    subst hname
    exact consumes_iff.mpr ⟨hnot, hpart, vs, hfills⟩
  only o part before' slot' after' hslots hname' hconsumes := by
    have hnot' := (consumes_iff.mp hconsumes).1
    rw [hname'] at hnot'
    -- Of two slots for one field that are the first one, neither stands before the other.
    rcases List.append_eq_append_iff.mp hslots with ⟨more, rfl, hrest⟩ | ⟨more, rfl, hrest⟩
    · cases more with
      | nil =>
          cases hrest
          exact ⟨List.append_nil before, rfl⟩
      | cons s more =>
          cases hrest
          exact absurd (List.mem_map.mpr ⟨slot, by simp, hname⟩) hnot'
    · cases more with
      | nil =>
          cases hrest
          exact ⟨(List.append_nil before').symm, rfl⟩
      | cons s more =>
          cases hrest
          exact absurd (List.mem_map.mpr ⟨slot', by simp, hname'⟩) hnot

end Vmodl.Client
