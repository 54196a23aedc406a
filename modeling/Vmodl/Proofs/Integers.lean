import Vmodl.Proofs.Boxing

/-!
# Integers as numbers and as text

An integer may be written as a number or as text. Numbers go through the integers and reals that a
document can hold, texts are trimmed and parsed, and both are checked against the width of the wanted
type. The two ways lead to the same integer or to the same failure.
-/

namespace Vmodl

open Wire

/-- The ways to write an integer: a number, which is a real where no 64 bits hold the integer, or its
digits with blanks around them. -/
inductive Json.Writes (n : Int) : Json → Prop
  | integer (hrange : Number.InRange n) : Writes n (.number (.integer n))
  | real (hrange : ¬Number.InRange n) (bits : UInt64) : Writes n (.number (.real bits))
  | text {before after : List Char} (hbefore : ∀ c ∈ before, Text.isBlank c = true)
      (hafter : ∀ c ∈ after, Text.isBlank c = true) :
      Writes n (.string (String.ofList (before ++ (toString n).toList ++ after)))

namespace Number

theorem ofDigits_toDigits (n : Nat) : ofDigits 0 (Nat.toDigits 10 n) = n := by
  have hofDigits : ofDigits 0 (Nat.toDigits 10 n) = Nat.ofDigitChars 10 (Nat.toDigits 10 n) 0 := by
    rw [Nat.ofDigitChars_eq_foldl]
    rfl
  rw [hofDigits, Nat.ofDigitChars_ten_toDigits]

theorem isDigit_of_mem_toDigits (n : Nat) : ∀ c ∈ Nat.toDigits 10 n, c.isDigit = true :=
  fun _ hc => Nat.isDigit_of_mem_toDigits (by omega) (by omega) hc

theorem splitSign_of_isDigit {s : List Char} (h : ∀ c ∈ s, c.isDigit = true) :
    splitSign s = (false, s) := by
  unfold splitSign
  split
  · cases h '-' List.mem_cons_self
  · cases h '+' List.mem_cons_self
  · rfl

theorem integer?_of_splitSign {s : List Char} {negative : Bool} {n : Nat}
    (h : splitSign s = (negative, Nat.toDigits 10 n)) :
    integer? s = some (if negative then -(n : Int) else n) := by
  have hdigits : (Nat.toDigits 10 n).all Char.isDigit = true :=
    List.all_eq_true.mpr (isDigit_of_mem_toDigits n)
  have hempty : (Nat.toDigits 10 n).isEmpty = false := by
    rw [List.isEmpty_eq_false_iff]
    exact Nat.toDigits_ne_nil
  cases negative <;> simp [integer?, h, hempty, hdigits, ofDigits_toDigits]

theorem toList_toString_natCast (n : Nat) : (toString (n : Int)).toList = Nat.toDigits 10 n := by
  show (Nat.repr n).toList = _
  simp

theorem toList_toString_negSucc (n : Nat) :
    (toString (Int.negSucc n)).toList = '-' :: Nat.toDigits 10 (n + 1) := by
  show ("-" ++ Nat.repr (n + 1)).toList = _
  simp

theorem integer?_toString (n : Int) : integer? (toString n).toList = some n := by
  cases n with
  | ofNat k =>
      have hsign := splitSign_of_isDigit (isDigit_of_mem_toDigits k)
      rw [Int.ofNat_eq_natCast, toList_toString_natCast, integer?_of_splitSign hsign, if_neg nofun]
  | negSucc k =>
      rw [toList_toString_negSucc, integer?_of_splitSign rfl]
      rfl

theorem not_isBlank_of_isDigit {c : Char} (h : c.isDigit = true) : Text.isBlank c = false := by
  simp only [Char.isDigit, Bool.and_eq_true, decide_eq_true_eq, ge_iff_le, UInt32.le_iff_toNat_le] at h
  have hlow : 48 ≤ c.toNat := h.1
  have hhigh : c.toNat ≤ 57 := h.2
  simp only [Text.isBlank, Bool.or_eq_false_iff, Bool.and_eq_false_iff, decide_eq_false_iff_not,
    beq_eq_false_iff_ne]
  omega

theorem not_isBlank_of_mem_toString (n : Int) : ∀ c ∈ (toString n).toList, Text.isBlank c = false := by
  have hdigits : ∀ k : Nat, ∀ c ∈ Nat.toDigits 10 k, Text.isBlank c = false :=
    fun k c hc => not_isBlank_of_isDigit (isDigit_of_mem_toDigits k c hc)
  cases n with
  | ofNat k =>
      rw [Int.ofNat_eq_natCast, toList_toString_natCast]
      exact hdigits k
  | negSucc k =>
      rw [toList_toString_negSucc, List.forall_mem_cons]
      exact ⟨rfl, hdigits (k + 1)⟩

end Number

/-! ### Scalars -/

namespace Primitive

variable {p : Primitive} {width : Nat} {n : Int}

theorem isExact_of_width? (hwidth : p.width? = some width) : p.isExact = true ∧ p ≠ .dateTime := by
  cases p <;> cases hwidth <;> exact ⟨rfl, nofun⟩

/-- Integers of at most 64 bits are integers in a document. -/
theorem inRange_of_width? (hwidth : p.width? = some width)
    (hn : -2 ^ (width - 1) ≤ n ∧ n < 2 ^ (width - 1)) : Json.Number.InRange n := by
  have hlong : -2 ^ 63 ≤ n ∧ n < 2 ^ 63 := by
    cases p <;> cases hwidth <;> omega
  have hsize : (UInt64.size : Int) = 2 ^ 64 := rfl
  rw [Json.Number.InRange, hsize]
  omega

theorem integerOf?_of_writes (hwidth : p.width? = some width) {j : Json} (hj : j.Writes n) :
    integerOf? width j = if -2 ^ (width - 1) ≤ n ∧ n < 2 ^ (width - 1) then some n else none := by
  cases hj with
  | integer _ => exact filter_width width n
  | real hrange bits => exact (if_neg fun hn => hrange (inRange_of_width? hwidth hn)).symm
  | text hbefore hafter =>
      have htrim := Text.trimChars_append hbefore (Number.not_isBlank_of_mem_toString n) hafter
      rw [integerOf?, String.toList_ofList, htrim, Number.integer?_toString]
      exact filter_width width n

end Primitive

theorem Json.Writes.atom {n : Int} {j : Json} (hj : j.Writes n) : Atom j := by
  cases hj <;> simp [Atom, Single]

/-- An integer is read as itself if it is in the range of the wanted type, and is malformed otherwise,
whichever way it is written and whether it is in a box or not. -/
theorem reconstruct_of_writes {c : Client} {r : Registry} {p : Primitive} {width : Nat}
    (hwidth : p.width? = some width) {n : Int} {j raw : Json} (hj : j.Writes n)
    (hraw : raw = j ∨ raw.get? valueKey = some j) :
    c.reconstruct r p.tag raw (.primitive p) =
      if -2 ^ (width - 1) ≤ n ∧ n < 2 ^ (width - 1) then .ok (.integer n)
      else .error (.malformed p.tag (.unexpectedValue j)) := by
  obtain ⟨hexact, hp⟩ := Primitive.isExact_of_width? hwidth
  have hunwrap : Single raw ∧ unwrap raw = j := by
    rcases hraw with rfl | hbox
    · exact ⟨hj.atom.1, unwrap_of_not_object hj.atom.2⟩
    · refine ⟨?_, by rw [unwrap, hbox, Option.getD_some]⟩
      constructor
      · rintro rfl
        cases hbox
      · rintro items rfl
        cases hbox
  rw [Client.reconstruct, decode_tag_of_single hexact hp hunwrap.1, hunwrap.2, Outcome.ok_bind,
    Client.read_primitive, Primitive.read_of_width? hwidth, Primitive.integerOf?_of_writes hwidth hj]
  split <;> rfl

/-- The least integer that is too large for 64 bits with a sign, as text with blanks around it. -/
def tooLong : Json :=
  .string (String.ofList (['\t', ' '] ++ (toString (2 ^ 63 : Int)).toList ++ ['\n']))

theorem reconstruct_of_writes_tooLong :
    Primitive.width? .long = some 64 ∧ tooLong.Writes (2 ^ 63) ∧
      (box (.object []) tooLong).get? valueKey = some tooLong ∧
      Client.reconstruct ⟨[], [], []⟩ .builtins "long" (box (.object []) tooLong) (.primitive .long) =
        .error (.malformed "long" (.unexpectedValue tooLong)) := by
  have hwrites : tooLong.Writes (2 ^ 63) := .text (List.all_eq_true.mp rfl) (List.all_eq_true.mp rfl)
  have hbox : (box (.object []) tooLong).get? valueKey = some tooLong := rfl
  have hreconstruct := reconstruct_of_writes (c := ⟨[], [], []⟩) (r := .builtins) (p := .long) rfl
    hwrites (.inr hbox)
  rw [if_neg (by decide)] at hreconstruct
  exact ⟨rfl, hwrites, hbox, hreconstruct⟩

end Vmodl
