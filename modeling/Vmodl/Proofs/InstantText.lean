import Mathlib.Algebra.Group.Nat.Defs
import Vmodl.Proofs.Calendar
import Vmodl.Proofs.Outcomes
import Vmodl.Time.Reader

/-!
# Texts of instants

The strict reader takes apart what the civil text puts together: numbers of a fixed width with the
separators between them, and a fraction with as many digits as it needs.
-/

namespace Vmodl

namespace Time

theorem numberOf_eq (digits : List Char) : numberOf digits = Nat.ofDigitChars 10 digits 0 := by
  rw [Nat.ofDigitChars_eq_foldl, numberOf]
  congr 1
  funext n c
  rw [digitValue, Nat.mul_comm]
  rfl

theorem takeDigits_append {digits : List Char} (h : ∀ c ∈ digits, c.isDigit = true) (rest : List Char) :
    takeDigits digits.length (digits ++ rest) = .ok (digits, rest) := by
  induction digits with
  | nil => rfl
  | cons c digits ih =>
      have hrest := ih fun c' hc' => h c' (List.mem_cons_of_mem _ hc')
      rw [List.length_cons, List.cons_append, takeDigits, if_pos (h c List.mem_cons_self), hrest]
      rfl

end Time

namespace Instant

theorem toList_padded (width n : Nat) : (padded width n).toList =
    List.replicate (width - (Nat.toDigits 10 n).length) '0' ++ Nat.toDigits 10 n := by
  rw [padded, String.toList_ofList]

theorem isDigit_of_mem_padded {width n : Nat} {c : Char} (h : c ∈ (padded width n).toList) :
    c.isDigit = true := by
  rw [toList_padded] at h
  rcases List.mem_append.mp h with hzero | hdigit
  · rw [(List.mem_replicate.mp hzero).2]
    rfl
  · exact Nat.isDigit_of_mem_toDigits (by omega) (by omega) hdigit

theorem length_padded {width n : Nat} (hwidth : 0 < width) (hn : n < 10 ^ width) :
    (padded width n).toList.length = width := by
  have hlength := (Nat.length_toDigits_le_iff (by omega) hwidth).mpr hn
  rw [toList_padded, List.length_append, List.length_replicate]
  omega

theorem numberOf_padded (width n : Nat) : Time.numberOf (padded width n).toList = n := by
  rw [Time.numberOf_eq, toList_padded, Nat.ofDigitChars_append, Nat.ofDigitChars_replicate_zero,
    Nat.mul_zero, Nat.ofDigitChars_ten_toDigits]

theorem takeNumber_padded {width n : Nat} (hwidth : 0 < width) (hn : n < 10 ^ width)
    (rest : List Char) :
    Time.takeNumber width ((padded width n).toList ++ rest) = .ok (n, rest) := by
  have hdigits : ∀ c ∈ (padded width n).toList, c.isDigit = true := fun _ => isDigit_of_mem_padded
  have htake := Time.takeDigits_append hdigits rest
  rw [length_padded hwidth hn] at htake
  rw [Time.takeNumber, htake]
  exact congrArg (fun n => Except.ok (n, rest)) (numberOf_padded width n)

theorem nanosOf_padded {width n : Nat} (hwidth : 0 < width) (hle : width ≤ 9) (hn : n < 10 ^ width) :
    Time.nanosOf (padded width n).toList = n * 10 ^ (9 - width) := by
  have hlength := length_padded hwidth hn
  have hnumber : Nat.ofDigitChars 10 (padded width n).toList 0 = n := by
    rw [← Time.numberOf_eq, numberOf_padded]
  rw [Time.nanosOf, List.take_of_length_le (by omega), hlength, Time.numberOf_eq,
    Nat.ofDigitChars_append, hnumber, Nat.ofDigitChars_replicate_zero, Nat.mul_comm]

theorem takeFraction_padded {width n : Nat} (hwidth : 0 < width) (hle : width ≤ 9)
    (hn : n < 10 ^ width) {c : Char} (hc : c.isDigit = false) (rest : List Char) :
    Time.takeFraction (("." ++ padded width n).toList ++ c :: rest) =
      .ok (n * 10 ^ (9 - width), c :: rest) := by
  have hdigits : ∀ c ∈ (padded width n).toList, c.isDigit = true := fun _ => isDigit_of_mem_padded
  have hne : (padded width n).toList.isEmpty = false := by
    rw [List.isEmpty_eq_false_iff, ← List.length_pos_iff, length_padded hwidth hn]
    exact hwidth
  have htake : ((padded width n).toList ++ c :: rest).takeWhile Char.isDigit =
      (padded width n).toList := by
    rw [List.takeWhile_append_of_pos hdigits, List.takeWhile_cons_of_neg (by simp [hc]),
      List.append_nil]
  have hdrop : ((padded width n).toList ++ c :: rest).dropWhile Char.isDigit = c :: rest := by
    rw [List.dropWhile_append_of_pos hdigits, List.dropWhile_cons_of_neg (by simp [hc])]
  have htext : ("." ++ padded width n).toList ++ c :: rest =
      '.' :: ((padded width n).toList ++ c :: rest) := by
    rw [String.toList_append]
    rfl
  rw [htext, Time.takeFraction, htake, hdrop, hne]
  simp [nanosOf_padded hwidth hle hn]

theorem takeFraction_fractionText {nanos : Nat} (hnanos : nanos < 10 ^ 9) {c : Char}
    (hc : c.isDigit = false) (hpoint : c ≠ '.') (rest : List Char) :
    Time.takeFraction ((fractionText nanos).toList ++ c :: rest) = .ok (nanos, c :: rest) := by
  unfold fractionText
  split
  · rename_i hzero
    rw [hzero]
    unfold Time.takeFraction
    split
    · rename_i heq
      cases heq
      exact absurd rfl hpoint
    · rfl
  · split
    · rw [takeFraction_padded (by omega) (by omega) (by omega) hc]
      congr 2
      omega
    · split
      · rw [takeFraction_padded (by omega) (by omega) (by omega) hc]
        congr 2
        omega
      · rw [takeFraction_padded (by omega) (by omega) hnanos hc]
        congr 2
        omega

/-! ### Instants -/

/-- The nanoseconds stay within the second, or run on in a leap second, which ends a minute. -/
def Proper (t : Instant) : Prop :=
  t.nanos < 10 ^ 9 ∨ t.seconds % 60 = 59 ∧ t.nanos < 2 * 10 ^ 9

instance (t : Instant) : Decidable t.Proper := inferInstanceAs (Decidable (_ ∨ _ ∧ _))

/-- The year in UTC. -/
def year (t : Instant) : Int := (Time.Date.ofDays (t.seconds / 86400 + Time.epochDay)).year

theorem length_le_utf8ByteSize (s : String) : s.toList.length ≤ s.utf8ByteSize := by
  have hchars : ∀ l : List Char, l.length ≤ (String.ofList l).utf8ByteSize := by
    intro l
    induction l with
    | nil => exact Nat.zero_le _
    | cons c l ih =>
        have hcons : String.ofList (c :: l) = String.singleton c ++ String.ofList l := by
          rw [← String.toList_inj, String.toList_append]
          simp
        rw [hcons, String.utf8ByteSize_append, String.utf8ByteSize_singleton, List.length_cons]
        have hpos := c.utf8Size_pos
        omega
  have h := hchars s.toList
  rwa [String.ofList_toList] at h

/-- The strict reader on a text that is put together from the parts it looks for. -/
theorem strict_of_toList {text : String} {year month day hour minute second nanos : Nat}
    {fraction rest : List Char} {clock : Time.Clock}
    (htext : text.toList = (padded 4 year).toList ++ '-' :: ((padded 2 month).toList ++
      '-' :: ((padded 2 day).toList ++ 'T' :: ((padded 2 hour).toList ++
      ':' :: ((padded 2 minute).toList ++ ':' :: ((padded 2 second).toList ++ fraction))))))
    (hyear : year < 10 ^ 4) (hmonth : month < 10 ^ 2) (hday : day < 10 ^ 2)
    (hvalid : (Time.Date.mk year month day).Valid) (hhour : hour < 10 ^ 2) (hminute : minute < 10 ^ 2)
    (hsecond : second < 10 ^ 2) (hfraction : Time.takeFraction fraction = .ok (nanos, rest))
    (hclock : Time.Clock.ofParts? hour minute second nanos = some clock)
    (hoffset : Time.takeOffset rest = .ok (0, [])) :
    Time.strict text = .ok
      ⟨((Time.Date.mk year month day).toDays - Time.epochDay) * 86400 + clock.seconds,
        clock.nanos⟩ := by
  have hsize : ¬text.utf8ByteSize < 19 := by
    have hle := length_le_utf8ByteSize text
    rw [htext] at hle
    simp only [List.length_append, List.length_cons, length_padded (Nat.succ_pos 3) hyear,
      length_padded (Nat.succ_pos 1) hmonth, length_padded (Nat.succ_pos 1) hday,
      length_padded (Nat.succ_pos 1) hhour, length_padded (Nat.succ_pos 1) hminute,
      length_padded (Nat.succ_pos 1) hsecond] at hle
    omega
  unfold Time.strict
  rw [if_neg hsize, htext]
  simp only [takeNumber_padded (Nat.succ_pos 3) hyear, takeNumber_padded (Nat.succ_pos 1) hmonth,
    takeNumber_padded (Nat.succ_pos 1) hday, takeNumber_padded (Nat.succ_pos 1) hhour,
    takeNumber_padded (Nat.succ_pos 1) hminute, takeNumber_padded (Nat.succ_pos 1) hsecond,
    Time.takeChar, hfraction, hclock, hoffset, hvalid, Outcome.ok_bind, beq_self_eq_true,
    Bool.true_or, if_true, not_true_eq_false, if_false, List.isEmpty_nil, Bool.not_true]
  rw [if_neg Bool.false_ne_true, if_neg (by decide), Int.sub_zero]
  rfl

/-- The clock of the written parts runs on in the leap second that they name. -/
theorem ofParts?_of_proper {t : Instant} (ht : t.Proper) :
    Time.Clock.ofParts? ((t.seconds % 86400).toNat / 3600) ((t.seconds % 86400).toNat / 60 % 60)
        ((t.seconds % 86400).toNat % 60 + if 1000000000 ≤ t.nanos then 1 else 0)
        (if 1000000000 ≤ t.nanos then t.nanos - 1000000000 else t.nanos) =
      some ⟨(t.seconds % 86400).toNat / 3600, (t.seconds % 86400).toNat / 60 % 60,
        (t.seconds % 86400).toNat % 60, t.nanos⟩ := by
  rw [Time.Clock.ofParts?]
  by_cases hleap : 1000000000 ≤ t.nanos
  · have hsecond : (t.seconds % 86400).toNat % 60 = 59 := by
      rcases ht with hnanos | ⟨hminute, _⟩ <;> omega
    rw [if_pos hleap, if_pos hleap, hsecond, if_pos (by omega)]
    congr 2
    simp only [if_true]
    omega
  · rw [if_neg hleap, if_neg hleap, if_pos (by omega), if_neg (by omega)]
    congr 2
    omega

/-- The strict reader gives an instant back from its text, however its offset of zero is written. -/
theorem strict_civilText {t : Instant} (ht : t.Proper) (hyear : 0 ≤ t.year ∧ t.year ≤ 9999)
    {offset : String} {c : Char} {rest : List Char} (hoffset : offset.toList = c :: rest)
    (hdigit : c.isDigit = false) (hpoint : c ≠ '.')
    (hzero : Time.takeOffset (c :: rest) = .ok (0, [])) :
    Time.strict (t.civilText ++ offset) = .ok t := by
  have hvalid := Time.Date.valid_ofDays (t.seconds / 86400 + Time.epochDay)
  have hdays := Time.Date.toDays_ofDays (t.seconds / 86400 + Time.epochDay)
  have hnanos : (if 1000000000 ≤ t.nanos then t.nanos - 1000000000 else t.nanos) < 10 ^ 9 := by
    rcases ht with hnanos | ⟨_, hnanos⟩ <;> split <;> omega
  have hclock := ofParts?_of_proper ht
  rw [year] at hyear
  rw [civilText]
  -- From here on the date, the second of the day and the nanoseconds are known by these facts alone.
  generalize Time.Date.ofDays (t.seconds / 86400 + Time.epochDay) = date at hvalid hdays hyear ⊢
  obtain ⟨hmonth, hday⟩ := hvalid.lt_hundred
  obtain ⟨y, month, day⟩ := date
  obtain ⟨year, rfl⟩ : ∃ n : Nat, y = n := ⟨y.toNat, (Int.toNat_of_nonneg hyear.1).symm⟩
  have hsecond : (t.seconds % 86400).toNat < 86400 := by omega
  have hseconds : ((t.seconds % 86400).toNat : Int) = t.seconds % 86400 := by omega
  generalize (t.seconds % 86400).toNat = second at hclock hsecond hseconds ⊢
  generalize (if 1000000000 ≤ t.nanos then t.nanos - 1000000000 else t.nanos) = nanos at hclock hnanos ⊢
  have hleap : second % 60 + (if 1000000000 ≤ t.nanos then 1 else 0) < 10 ^ 2 := by split <;> omega
  generalize (second % 60 + if 1000000000 ≤ t.nanos then 1 else 0) = written at hclock hleap ⊢
  dsimp only at hyear hmonth hday ⊢
  have htext : (yearText year ++ "-" ++ padded 2 month ++ "-" ++ padded 2 day ++ "T" ++
      padded 2 (second / 3600) ++ ":" ++ padded 2 (second / 60 % 60) ++ ":" ++ padded 2 written ++
      fractionText nanos ++ offset).toList = (padded 4 year).toList ++ '-' :: ((padded 2 month).toList ++
      '-' :: ((padded 2 day).toList ++ 'T' :: ((padded 2 (second / 3600)).toList ++
      ':' :: ((padded 2 (second / 60 % 60)).toList ++ ':' :: ((padded 2 written).toList ++
      ((fractionText nanos).toList ++ c :: rest)))))) := by
    simp [yearText, hyear, String.toList_append, hoffset]
  rw [strict_of_toList htext (by omega) hmonth hday hvalid (by omega) (by omega) hleap
    (takeFraction_fractionText hnanos hdigit hpoint rest) hclock hzero, hdays]
  have htotal : (t.seconds / 86400 + Time.epochDay - Time.epochDay) * 86400 +
      (Time.Clock.seconds ⟨second / 3600, second / 60 % 60, second % 60, t.nanos⟩ : Int) =
      t.seconds := by
    rw [Time.Clock.seconds]
    dsimp only
    omega
  rw [htotal]

/-- An instant with a year of four digits is read back from its text. -/
theorem ofText_textZulu {t : Instant} (ht : t.Proper) (hyear : 0 ≤ t.year ∧ t.year ≤ 9999) :
    ofText t.textZulu = .ok t := by
  have hoffset : "Z".toList = ['Z'] := rfl
  have hstrict : Time.strict t.textZulu = .ok t :=
    strict_civilText ht hyear hoffset (by decide) (by decide) rfl
  rw [ofText, hstrict]

end Instant

end Vmodl
