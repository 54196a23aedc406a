import Mathlib.Data.List.Forall2
import Vmodl.Client.Shown

/-!
# What shown texts tell

Every field of a structure is printed as it is, with the same text around it whatever its own text is.
From what is shown of two structures that agree in all fields but one, the texts of that one can be told
apart.
-/

namespace Vmodl

/-! ### Lists with one element changed -/

theorem zipWith_set {α β γ : Type*} (f : α → β → γ) {l : List α} {k : Nat} {a : α} (ha : l[k]? = some a)
    (l' : List β) (b : β) : List.zipWith f l (l'.set k b) = (List.zipWith f l l').set k (f a b) := by
  induction l generalizing k l' with
  | nil => cases ha
  | cons x l ih =>
      cases l' with
      | nil => rfl
      | cons y l' =>
          cases k with
          | zero =>
              cases ha
              rfl
          | succ k => exact congrArg (f x y :: ·) (ih ha l')

theorem zipWith_set_of_length_le {α β γ : Type*} (f : α → β → γ) {l : List α} {k : Nat}
    (hk : l.length ≤ k) (l' : List β) (b : β) :
    List.zipWith f l (l'.set k b) = List.zipWith f l l' := by
  induction l generalizing k l' with
  | nil => rfl
  | cons x l ih =>
      cases l' with
      | nil => rfl
      | cons y l' =>
          cases k with
          | zero => cases hk
          | succ k => exact congrArg (f x y :: ·) (ih (Nat.le_of_succ_le_succ hk) l')

namespace Shown

/-- The text is printed as it is, between two others. -/
def Prints (f : String → String) : Prop :=
  ∃ before after, ∀ text, f text = before ++ text ++ after

namespace Prints

variable {f : String → String}

theorem injective (h : Prints f) : Function.Injective f := by
  obtain ⟨before, after, hf⟩ := h
  intro a b hab
  rw [hf, hf, String.append_left_inj, String.append_right_inj] at hab
  exact hab

theorem self : Prints fun text => text :=
  ⟨"", "", fun text => by rw [String.empty_append, String.append_empty]⟩

theorem append_left (h : Prints f) (s : String) : Prints fun text => s ++ f text := by
  obtain ⟨before, after, hf⟩ := h
  refine ⟨s ++ before, after, fun text => ?_⟩
  simp only [hf, String.append_assoc]

theorem append_right (h : Prints f) (s : String) : Prints fun text => f text ++ s := by
  obtain ⟨before, after, hf⟩ := h
  refine ⟨before, after ++ s, fun text => ?_⟩
  simp only [hf, String.append_assoc]

theorem field (h : Prints f) (name : String) : Prints fun text => Shown.field name (f text) :=
  h.append_left (name ++ ": ")

theorem intercalate (h : Prints f) (separator : String) {parts : List String} {k : Nat}
    (hk : k < parts.length) : Prints fun text => separator.intercalate (parts.set k (f text)) := by
  induction parts generalizing k with
  | nil => cases hk
  | cons part parts ih =>
      cases k with
      | zero =>
          cases parts with
          | nil => simpa using h
          | cons next parts =>
              have hrest : ∀ text, separator.intercalate ((part :: next :: parts).set 0 (f text)) =
                  f text ++ separator ++ separator.intercalate (next :: parts) := fun text =>
                String.intercalate_cons_of_ne_nil (List.cons_ne_nil _ _)
              simp only [hrest]
              exact (h.append_right separator).append_right _
      | succ k =>
          have hparts : k < parts.length := Nat.lt_of_succ_lt_succ hk
          have hrest : ∀ text, separator.intercalate ((part :: parts).set (k + 1) (f text)) =
              part ++ separator ++ separator.intercalate (parts.set k (f text)) := by
            intro text
            have hne : parts.set k (f text) ≠ [] := by
              rw [← List.length_pos_iff, List.length_set]
              exact Nat.zero_lt_of_lt hparts
            exact String.intercalate_cons_of_ne_nil hne
          simp only [hrest]
          exact (ih hparts).append_left _

theorem fields (h : Prints f) (name : String) {parts : List String} {k : Nat} (hk : k < parts.length) :
    Prints fun text => Shown.fields name (parts.set k (f text)) := by
  have hblock : ∀ text, Shown.fields name (parts.set k (f text)) =
      name ++ " \x7b " ++ ", ".intercalate (parts.set k (f text)) ++ " \x7d" := by
    intro text
    have hne : parts.set k (f text) ≠ [] := by
      rw [← List.length_pos_iff, List.length_set]
      exact Nat.zero_lt_of_lt hk
    have hempty : (parts.set k (f text)).isEmpty = false := by
      rw [List.isEmpty_eq_false_iff]
      exact hne
    rw [Shown.fields, hempty]
    rfl
  simp only [hblock]
  exact ((h.intercalate ", " hk).append_left _).append_right _

theorem fields_base (h : Prints f) (name : String) (base : Option String) {own : List String} {k : Nat}
    (hk : k < own.length) :
    Prints fun text => Shown.fields name (match base with
      | some base => Shown.field Naming.baseField base :: own.set k (f text)
      | none => own.set k (f text)) := by
  cases base with
  | none => exact h.fields name hk
  | some base =>
      have hcons : k + 1 < (Shown.field Naming.baseField base :: own).length := Nat.succ_lt_succ hk
      exact h.fields name hcons

/-- Whatever is printed inside the parent is printed inside each type that embeds it. -/
theorem chain_base (h : Prints f) (types : List StructType) (texts : List String) (missing : String) :
    Prints fun text => (Shown.chain (some (f text)) types texts).getD missing := by
  induction types generalizing f texts with
  | nil => exact h
  | cons t types ih =>
      let own := t.own.zipWith (fun slot text => Shown.field (bare slot.ident) text) texts
      have hfirst : 0 < ("" :: own).length := Nat.zero_lt_succ _
      have hfields : Prints fun text => Shown.fields (bare t.name.ident)
          (Shown.field Naming.baseField (f text) :: own) :=
        (h.field Naming.baseField).fields _ hfirst
      exact ih hfields (texts.drop t.own.length)

theorem chain (h : Prints f) (base : Option String) {types : List StructType} {texts : List String}
    {k : Nat} (hk : k < (types.flatMap (·.own)).length) (hlength : k < texts.length)
    (missing : String) :
    Prints fun text => (Shown.chain base types (texts.set k (f text))).getD missing := by
  induction types generalizing base texts k with
  | nil => cases hk
  | cons t types ih =>
      rcases Nat.lt_or_ge k t.own.length with hown | hlater
      · have hslot : t.own[k]? = some t.own[k] := List.getElem?_eq_getElem hown
        have hdrop : ∀ text, (texts.set k (f text)).drop t.own.length = texts.drop t.own.length :=
          fun text => List.drop_set_of_lt hown
        simp only [Shown.chain, zipWith_set _ hslot, hdrop]
        refine ((h.field _).fields_base _ base ?_).chain_base types _ missing
        rw [List.length_zipWith]
        exact Nat.lt_min.mpr ⟨hown, hlength⟩
      · -- The field is one of a later type, so this type's own texts stay as they are.
        have hrest : k - t.own.length < (types.flatMap (·.own)).length := by
          rw [List.flatMap_cons, List.length_append] at hk
          omega
        have hdropped : k - t.own.length < (texts.drop t.own.length).length := by
          rw [List.length_drop]
          omega
        have hdrop : ∀ text, (texts.set k (f text)).drop t.own.length =
            (texts.drop t.own.length).set (k - t.own.length) (f text) := by
          intro text
          rw [List.drop_set, if_neg (Nat.not_lt.mpr hlater)]
        simp only [Shown.chain, zipWith_set_of_length_le _ hlater, hdrop]
        exact ih _ hrest hdropped

end Prints

end Shown

end Vmodl
