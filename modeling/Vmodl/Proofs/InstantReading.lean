import Mathlib.Data.List.TakeWhile
import Vmodl.Proofs.Decoding
import Vmodl.Proofs.InstantText

/-!
# Instants that were read

Both readers give proper instants, leap seconds among them, so that what is written for an instant is
read again as the same one wherever its year has four digits. Other years are written with a sign. The
strict reader takes no sign, and the loose one takes no offset, which it would know by the third colon:
neither reads such a text.
-/

namespace Vmodl

namespace Time

theorem digitValue_le {c : Char} (h : c.isDigit = true) : digitValue c ≤ 9 := by
  simp only [Char.isDigit, Bool.and_eq_true, decide_eq_true_eq, UInt32.le_iff_toNat_le] at h
  have hhigh : c.toNat ≤ 57 := h.2
  rw [digitValue]
  omega

theorem foldl_digitValue_lt {digits : List Char} (h : ∀ c ∈ digits, c.isDigit = true) (n : Nat) :
    digits.foldl (fun n c => n * 10 + digitValue c) n < (n + 1) * 10 ^ digits.length := by
  induction digits generalizing n with
  | nil => simp
  | cons c digits ih =>
      obtain ⟨hc, hdigits⟩ := List.forall_mem_cons.mp h
      have hvalue := digitValue_le hc
      calc digits.foldl (fun n c => n * 10 + digitValue c) (n * 10 + digitValue c)
          < (n * 10 + digitValue c + 1) * 10 ^ digits.length := ih hdigits _
        _ ≤ ((n + 1) * 10) * 10 ^ digits.length := Nat.mul_le_mul_right _ (by omega)
        _ = (n + 1) * 10 ^ (c :: digits).length := by
          rw [List.length_cons, Nat.pow_succ', Nat.mul_assoc]

theorem numberOf_lt {digits : List Char} (h : ∀ c ∈ digits, c.isDigit = true) :
    numberOf digits < 10 ^ digits.length := by
  have hlt := foldl_digitValue_lt h 0
  rwa [Nat.zero_add, Nat.one_mul] at hlt

theorem nanosOf_lt {digits : List Char} (h : ∀ c ∈ digits, c.isDigit = true) :
    nanosOf digits < 10 ^ 9 := by
  have hused : (digits.take 9).length ≤ 9 := List.length_take_le ..
  have hdigits : ∀ c ∈ digits.take 9 ++ List.replicate (9 - (digits.take 9).length) '0',
      c.isDigit = true := by
    intro c hc
    rcases List.mem_append.mp hc with hc | hc
    · exact h c (List.mem_of_mem_take hc)
    · rw [(List.mem_replicate.mp hc).2]
      rfl
  have hlt := numberOf_lt hdigits
  rw [List.length_append, List.length_replicate, Nat.add_sub_cancel' hused] at hlt
  exact hlt

theorem nanos_lt_of_takeFraction {s rest : List Char} {nanos : Nat}
    (h : takeFraction s = .ok (nanos, rest)) : nanos < 10 ^ 9 := by
  unfold takeFraction at h
  split at h
  · dsimp only at h
    split at h
    · cases h
    · cases h
      exact nanosOf_lt fun c hc => List.mem_takeWhile_imp hc
  · cases h
    decide

/-- Offsets are whole minutes. -/
theorem emod_of_takeOffset {s rest : List Char} {offset : Int}
    (h : takeOffset s = .ok (offset, rest)) : offset % 60 = 0 := by
  unfold takeOffset at h
  split at h
  · cases h
  · split at h
    · cases h
      rfl
    · split at h
      · simp only [Outcome.bind_eq_ok_iff, Outcome.error_bind, Outcome.ite_error_eq_ok_iff,
          Outcome.pure_eq_ok_iff, Prod.mk.injEq] at h
        obtain ⟨⟨hours, s₁⟩, _, s₂, _, ⟨minutes, s₃⟩, _, _, hoffset, _⟩ := h
        dsimp only at hoffset
        split at hoffset <;> omega
      · cases h

/-- An instant is put together from a day, a time of day and an offset of whole minutes. -/
def Composed (t : Instant) : Prop :=
  ∃ (days offset : Int) (hour minute second nanos : Nat) (clock : Clock),
    nanos < 10 ^ 9 ∧ Clock.ofParts? hour minute second nanos = some clock ∧ offset % 60 = 0 ∧
      t = ⟨days * 86400 + clock.seconds - offset, clock.nanos⟩

/-- Only second 60 runs on, and it comes after second 59 in every whole-minute offset. -/
theorem Composed.proper {t : Instant} (h : Composed t) : t.Proper := by
  obtain ⟨days, offset, hour, minute, second, nanos, clock, hnanos, hclock, hoffset, rfl⟩ := h
  unfold Clock.ofParts? at hclock
  split at hclock
  · cases hclock
    rw [Instant.Proper, Clock.seconds]
    dsimp only
    by_cases hleap : second = 60
    · right
      rw [if_pos hleap]
      omega
    · left
      rw [if_neg hleap]
      omega
  · cases hclock

theorem composed_of_strict {text : String} {t : Instant} (h : strict text = .ok t) : Composed t := by
  unfold strict at h
  simp only [Outcome.error_bind, Outcome.ite_error_eq_ok_iff, Outcome.bind_eq_ok_iff] at h
  obtain ⟨_, ⟨year, _⟩, _, _, _, ⟨month, _⟩, _, _, _, ⟨day, _⟩, _, _, _, _, ⟨hour, _⟩, _, _, _,
    ⟨minute, _⟩, _, _, _, ⟨second, _⟩, _, ⟨nanos, _⟩, hfraction, h⟩ := h
  split at h
  · cases h
  · rename_i clock hclock
    simp only [Outcome.ite_error_eq_ok_iff, Outcome.bind_eq_ok_iff, Outcome.pure_eq_ok_iff] at h
    obtain ⟨⟨offset, _⟩, hoffset, _, _, rfl⟩ := h
    exact ⟨_, offset, hour, minute, second, nanos, clock, nanos_lt_of_takeFraction hfraction, hclock,
      emod_of_takeOffset hoffset, rfl⟩

theorem count_eq_zero_of_forall {p : Char → Bool} (hp : p ':' = false) {s : List Char}
    (h : ∀ c ∈ s, p c = true) : s.count ':' = 0 := by
  rw [List.count_eq_zero]
  intro hmem
  cases hp.symm.trans (h ':' hmem)

theorem count_drop_digits {digits s : List Char} (hs : digits <+: s)
    (hdigits : ∀ c ∈ digits, c.isDigit = true) : (s.drop digits.length).count ':' = s.count ':' := by
  obtain ⟨rest, rfl⟩ := hs
  rw [List.drop_left, List.count_append, count_eq_zero_of_forall (by decide) hdigits, Nat.zero_add]

theorem count_dropWhile {p : Char → Bool} (hp : p ':' = false) (s : List Char) :
    (s.dropWhile p).count ':' = s.count ':' := by
  have hcount : (s.takeWhile p).count ':' = 0 :=
    count_eq_zero_of_forall hp fun c hc => List.mem_takeWhile_imp hc
  conv_rhs => rw [← List.takeWhile_append_dropWhile (p := p) (l := s)]
  rw [List.count_append, hcount, Nat.zero_add]

theorem count_of_takeLoose? {width n : Nat} {s rest : List Char}
    (h : takeLoose? width s = some (n, rest)) : rest.count ':' = s.count ':' := by
  unfold takeLoose? at h
  dsimp only at h
  split at h
  · cases h
  · cases h
    rw [count_drop_digits, count_dropWhile (by decide)]
    · exact (List.take_prefix _ _).trans (List.takeWhile_prefix _)
    · exact fun c hc => List.mem_takeWhile_imp (List.mem_of_mem_take hc)

theorem count_of_signed {sign year : Int} {s rest : List Char}
    (h : takeYear?.signed sign s = some (year, rest)) : rest.count ':' = s.count ':' := by
  unfold takeYear?.signed at h
  dsimp only at h
  split at h
  · cases h
  · cases h
    exact count_drop_digits (List.takeWhile_prefix _) fun c hc => List.mem_takeWhile_imp hc

theorem count_of_takeYear? {year : Int} {s rest : List Char} (h : takeYear? s = some (year, rest)) :
    rest.count ':' = s.count ':' := by
  rw [← count_dropWhile (p := Text.isBlank) (by decide) s]
  unfold takeYear? at h
  split at h
  · rename_i later hs
    rw [count_of_signed h, hs, List.count_cons_of_ne (by decide)]
  · rename_i later hs
    rw [count_of_signed h, hs, List.count_cons_of_ne (by decide)]
  · obtain ⟨⟨n, rest'⟩, hnumber, heq⟩ := Option.map_eq_some_iff.mp h
    cases heq
    exact count_of_takeLoose? hnumber

theorem eq_cons_of_takeExact? {c : Char} {s rest : List Char} (h : takeExact? c s = some rest) :
    s = c :: rest := by
  cases s with
  | nil => cases h
  | cons d s =>
      rw [takeExact?] at h
      split at h
      · rename_i hd
        cases h
        rw [hd]
      · cases h

theorem count_of_takeFraction {nanos : Nat} {s rest : List Char}
    (h : takeFraction s = .ok (nanos, rest)) : rest.count ':' = s.count ':' := by
  unfold takeFraction at h
  split at h
  · dsimp only at h
    split at h
    · cases h
    · cases h
      rw [count_dropWhile (by decide), List.count_cons_of_ne (by decide)]
  · cases h
    rfl

/-- A text without an offset has the two colons of its time of day. -/
theorem composed_and_count_of_loose {text : String} {t : Instant} (h : loose text = some t) :
    Composed t ∧ text.toList.count ':' = 2 := by
  unfold loose at h
  simp only [Option.bind_eq_bind, Option.bind_eq_some_iff] at h
  obtain ⟨⟨year, s₁⟩, hyear, s₂, hdash, ⟨month, s₃⟩, hmonth, s₄, hdash', ⟨day, s₅⟩, hday, s₆, hmark,
    ⟨hour, s₇⟩, hhour, s₈, hcolon, ⟨minute, s₉⟩, hminute, s₁₀, hcolon', ⟨second, s₁₁⟩, hsecond,
    ⟨nanos, s₁₂⟩, hfraction, clock, hclock, h⟩ := h
  dsimp only at hdash hdash' hmark hcolon hcolon' hfraction hclock h
  have hfraction' := Outcome.toOption_eq_some_iff.mp hfraction
  split at h
  · rename_i hall
    cases h
    obtain rfl := List.isEmpty_iff.mp hall.1
    constructor
    · exact ⟨_, 0, hour, minute, second, nanos, clock, nanos_lt_of_takeFraction hfraction', hclock, rfl,
        by rw [Int.sub_zero]⟩
    · rw [← count_of_takeYear? hyear, eq_cons_of_takeExact? hdash, List.count_cons_of_ne (by decide),
        ← count_of_takeLoose? hmonth, eq_cons_of_takeExact? hdash', List.count_cons_of_ne (by decide),
        ← count_of_takeLoose? hday, eq_cons_of_takeExact? hmark, List.count_cons_of_ne (by decide),
        ← count_of_takeLoose? hhour, eq_cons_of_takeExact? hcolon, List.count_cons_self,
        ← count_of_takeLoose? hminute, eq_cons_of_takeExact? hcolon', List.count_cons_self,
        ← count_of_takeLoose? hsecond, ← count_of_takeFraction hfraction']
      rfl
  · cases h

/-- The strict reader wants a digit first. -/
theorem strict_of_not_isDigit {text : String} {c : Char} {rest : List Char}
    (htext : text.toList = c :: rest) (hc : c.isDigit = false) (hlength : 19 ≤ text.toList.length) :
    strict text = .error .invalid := by
  have hsize : ¬text.utf8ByteSize < 19 := by
    have hle := Instant.length_le_utf8ByteSize text
    omega
  have hyear : takeNumber 4 (c :: rest) = .error .invalid := by
    rw [takeNumber, takeDigits, if_neg (by simp [hc])]
    rfl
  unfold strict
  rw [if_neg hsize]
  simp only [htext, hyear, Outcome.error_bind]

end Time

namespace Instant

/-! ### Written instants -/

theorem proper_of_ofText {text : String} {t : Instant} (h : ofText text = .ok t) : t.Proper := by
  unfold ofText at h
  split at h
  · rename_i hstrict
    cases h
    exact (Time.composed_of_strict hstrict).proper
  · rename_i hloose
    cases h
    exact (Time.composed_and_count_of_loose hloose).1.proper
  · cases h

theorem count_padded (width n : Nat) : (padded width n).toList.count ':' = 0 :=
  Time.count_eq_zero_of_forall (by decide) fun _ => isDigit_of_mem_padded

theorem width_le_length_padded (width n : Nat) : width ≤ (padded width n).toList.length := by
  rw [toList_padded, List.length_append, List.length_replicate]
  omega

theorem count_yearText (year : Int) : (yearText year).toList.count ':' = 0 := by
  unfold yearText
  split
  · exact count_padded ..
  · rw [String.toList_append, List.count_append, count_padded]
    split <;> rfl

theorem count_fractionText (nanos : Nat) : (fractionText nanos).toList.count ':' = 0 := by
  have hpoint : ∀ width n, ("." ++ padded width n).toList.count ':' = 0 := by
    intro width n
    rw [String.toList_append, List.count_append, count_padded]
    rfl
  unfold fractionText
  split
  · rfl
  · split
    · exact hpoint ..
    · split <;> exact hpoint ..

/-- Two colons in the time of day and one in the offset. -/
theorem count_text (t : Instant) : t.text.toList.count ':' = 3 := by
  simp [text, civilText, String.toList_append, List.count_append, count_padded, count_yearText,
    count_fractionText]

theorem loose_text (t : Instant) : Time.loose t.text = none := by
  rw [Option.eq_none_iff_forall_ne_some]
  intro u hu
  have hcount := (Time.composed_and_count_of_loose hu).2
  rw [count_text] at hcount
  omega

theorem ofText_text {t : Instant} (ht : t.Proper) (hyear : 0 ≤ t.year ∧ t.year ≤ 9999) :
    ofText t.text = .ok t := by
  have hoffset : "+00:00".toList = '+' :: ['0', '0', ':', '0', '0'] := rfl
  have hstrict : Time.strict t.text = .ok t :=
    strict_civilText ht hyear hoffset (by decide) (by decide) rfl
  rw [ofText, hstrict]

theorem toList_yearText_of_signed {year : Int} (hyear : ¬(0 ≤ year ∧ year ≤ 9999)) :
    ∃ sign : Char, sign.isDigit = false ∧
      (yearText year).toList = sign :: (padded 4 year.natAbs).toList := by
  rw [yearText, if_neg hyear]
  by_cases hneg : year < 0
  · exact ⟨'-', by decide, by rw [if_pos hneg, String.toList_append]; rfl⟩
  · exact ⟨'+', by decide, by rw [if_neg hneg, String.toList_append]; rfl⟩

theorem exists_toList_text (t : Instant) :
    ∃ later, t.text.toList = (yearText t.year).toList ++ later ∧ 15 ≤ later.length := by
  unfold text civilText year
  generalize Time.Date.ofDays (t.seconds / 86400 + Time.epochDay) = date
  have hmonth := width_le_length_padded 2 date.month
  have hday := width_le_length_padded 2 date.day
  simp only [String.toList_append, List.append_assoc]
  refine ⟨_, rfl, ?_⟩
  simp
  omega

theorem ofText_text_of_signed {t : Instant} (hyear : ¬(0 ≤ t.year ∧ t.year ≤ 9999)) :
    ofText t.text = .error .invalid := by
  obtain ⟨sign, hsign, hyearText⟩ := toList_yearText_of_signed hyear
  obtain ⟨later, htext, hlater⟩ := exists_toList_text t
  rw [hyearText, List.cons_append] at htext
  have hlength : 19 ≤ t.text.toList.length := by
    have hdigits := width_le_length_padded 4 t.year.natAbs
    rw [htext, List.length_cons, List.length_append]
    omega
  rw [ofText, Time.strict_of_not_isDigit htext hsign hlength, loose_text]

/-- The reader takes back what is written for an instant that it gave exactly if the year has four
digits. -/
theorem ofText_text_eq_ite {text : String} {t : Instant} (h : ofText text = .ok t) :
    ofText t.text = if 0 ≤ t.year ∧ t.year ≤ 9999 then .ok t else .error .invalid := by
  split
  · exact ofText_text (proper_of_ofText h) ‹_›
  · exact ofText_text_of_signed ‹_›

end Instant

namespace Wire

theorem decode_toJson_dateTime (r : Registry) (t : Instant) :
    decode r dateTimeKey (Decoded.dateTime t).toJson = (readInstant t.text).map .dateTime := by
  rw [Decoded.toJson, decode_dateTime_string]

/-- Whatever offset, fraction or leap second a text carries, what is written for its instant is read
back as the same instant if its year in UTC has four digits, and is refused if not. -/
theorem readInstant_text_of_readInstant {text : String} {t : Instant} (h : readInstant text = .ok t) :
    (readInstant t.text =
        if 0 ≤ t.year ∧ t.year ≤ 9999 then .ok t else .error (.invalidDateTime t.text .invalid)) ∧
      ∀ r, decode r dateTimeKey (Decoded.dateTime t).toJson =
        if 0 ≤ t.year ∧ t.year ≤ 9999 then .ok (.dateTime t)
        else .error (.invalidDateTime t.text .invalid) := by
  have hread := Instant.ofText_text_eq_ite (Outcome.mapError_eq_ok_iff.mp h)
  simp only [decode_toJson_dateTime, readInstant, hread]
  split
  · exact ⟨rfl, fun _ => rfl⟩
  · exact ⟨rfl, fun _ => rfl⟩

/-- A leap second at the end of a year, five hours west of UTC. -/
theorem readInstant_text_of_leapSecond :
    readInstant "2016-12-31T18:59:60.25-05:00" = .ok ⟨1483228799, 1250000000⟩ ∧
      readInstant "2016-12-31T23:59:60.250+00:00" = .ok ⟨1483228799, 1250000000⟩ := by
  have htext : Instant.text ⟨1483228799, 1250000000⟩ = "2016-12-31T23:59:60.250+00:00" := by
    decide +kernel
  have hread : readInstant "2016-12-31T18:59:60.25-05:00" = .ok ⟨1483228799, 1250000000⟩ := by
    have hinstant : Instant.ofText "2016-12-31T18:59:60.25-05:00" =
      .ok ⟨1483228799, 1250000000⟩ := by decide +kernel
    rw [readInstant, hinstant]
    rfl
  have hreread := (readInstant_text_of_readInstant hread).1
  rw [htext, if_pos (by decide +kernel)] at hreread
  exact ⟨hread, hreread⟩

/-- A year with a sign is read without an offset and written with one. -/
theorem not_readInstant_text_signedYear :
    readInstant "-0044-03-15T12:00:00" = .ok ⟨-63549316800, 0⟩ ∧
      Instant.text ⟨-63549316800, 0⟩ = "-0044-03-15T12:00:00+00:00" ∧
        readInstant "-0044-03-15T12:00:00+00:00" =
          .error (.invalidDateTime "-0044-03-15T12:00:00+00:00" .invalid) := by
  have hinstant : Instant.ofText "-0044-03-15T12:00:00" = .ok ⟨-63549316800, 0⟩ := by decide +kernel
  have hrefused : Instant.ofText "-0044-03-15T12:00:00+00:00" = .error .invalid := by decide +kernel
  refine ⟨?_, by decide +kernel, ?_⟩
  · rw [readInstant, hinstant]
    rfl
  · rw [readInstant, hrefused]
    rfl

end Wire

end Vmodl
