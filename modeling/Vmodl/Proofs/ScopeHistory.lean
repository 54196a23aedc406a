import Mathlib.Data.List.Range
import Vmodl.Proofs.LegalIdentifiers

/-!
# Histories of a scope

A scope is told to reserve names and asked for identifiers, in any order. An identifier that is in use is
numbered, and nothing in the search for a free number bounds it: it stops because the numbered identifiers
differ and only as many names are in use as there were calls. All that was reserved or handed out stays in
use, so that every answer is new to the whole history.
-/

namespace Vmodl.Naming

namespace Scope

theorem word?_stem {ident : String} (h : IsToken ident) :
    Source.Lexer.word? (stem ident).toList = some ((stem ident).toList, []) := by
  have hstem : (stem ident).toList = stemChars ident.toList := by
    rw [stem, String.toList_ofList]
  rw [hstem]
  unfold IsToken Source.Lexer.ident? at h
  split at h
  · rename_i rest hraw
    split at h
    · rename_i w rest' hw
      dsimp only at h
      split at h
      · cases h
      · obtain ⟨hident, rfl⟩ := Prod.mk.inj (Option.some.inj h)
        obtain rfl : w = rest := by
          simpa [← hident, String.toList_append] using hraw
        rwa [hraw, stemChars, stemChars_of_word? hw]
    · cases h
  · obtain ⟨⟨w, rest⟩, hw, heq⟩ := Option.map_eq_some_iff.mp h
    obtain ⟨hident, rfl⟩ := Prod.mk.inj heq
    obtain rfl : w = ident.toList := by rw [← hident, String.toList_ofList]
    rwa [stemChars_of_word? hw]

theorem isToken_numbered {ident : String} (h : IsToken ident) (n : Nat) :
    IsToken (numbered (stem ident) n) := by
  obtain ⟨c, cs, hstem, hstart, hcs⟩ := word?_eq_self_iff.mp (word?_stem h)
  apply isToken_of_word?
  rw [toList_numbered, hstem, List.cons_append]
  apply word?_eq_self_iff.mpr
  refine ⟨c, _, rfl, hstart, ?_⟩
  intro d hd
  rcases List.mem_append.mp hd with hd | hd
  · exact hcs d hd
  · apply isIdentContinue_of_isWordChar
    exact isWordChar_of_mem_number d hd

/-- The search for a free number that has come to `n` stops at `m`. -/
inductive Stops (s : Scope) (stem : String) : Nat → Nat → Prop
  | free {n : Nat} (hfree : numbered stem n ∉ s.used) : Stops s stem n n
  | taken {n m : Nat} (htaken : numbered stem n ∈ s.used) (hrest : Stops s stem (n + 1) m) :
      Stops s stem n m

/-- The answers to a claim: the identifier itself while it is free, and else the numbered one at which
the search that starts with the number two stops. -/
inductive Answers (s : Scope) (ident : String) : String → Prop
  | own (hfree : ident ∉ s.used) : Answers s ident ident
  | next {n : Nat} (htaken : ident ∈ s.used) (hstops : Stops s (stem ident) 2 n) :
      Answers s ident (numbered (stem ident) n)

variable {s : Scope}

theorem Stops.functional {stem : String} {n m m' : Nat} (h : Stops s stem n m)
    (h' : Stops s stem n m') : m = m' := by
  induction h with
  | free hfree =>
      cases h' with
      | free => rfl
      | taken htaken _ => exact absurd htaken hfree
  | taken htaken _ ih =>
      cases h' with
      | free hfree => exact absurd htaken hfree
      | taken _ hrest => exact ih hrest

theorem stops_of_least {stem : String} {n m : Nat} (hle : n ≤ m) (hfree : numbered stem m ∉ s.used)
    (htaken : ∀ k, n ≤ k → k < m → numbered stem k ∈ s.used) : Stops s stem n m := by
  induction hle using Nat.decreasingInduction with
  | self => exact .free hfree
  | of_succ k hk ih =>
      apply Stops.taken
      · exact htaken k (Nat.le_refl k) hk
      · exact ih fun k' hk' => htaken k' (Nat.le_of_succ_le hk')

/-- The number at which the search stops exceeds the number of names in use by two at most. -/
theorem stops_firstFree (s : Scope) (stem : String) :
    ∃ n ≤ s.used.length + 2, s.firstFree stem = numbered stem n ∧ Stops s stem 2 n := by
  obtain ⟨hfree, n, hn, hnumber⟩ := s.firstFree_spec stem
  rw [hnumber] at hfree
  refine ⟨n + 2, Nat.add_le_add_right hn 2, hnumber, ?_⟩
  rw [firstFree, List.find?_map] at hnumber
  cases hfind : (List.range (s.used.length + 1)).find?
      ((fun c => !s.used.contains c) ∘ fun k => numbered stem (k + 2)) with
  | none =>
      -- No number in the range would be free, and `n` is one of them.
      have htaken := List.find?_eq_none.mp hfind n (List.mem_range.mpr (Nat.lt_succ_of_le hn))
      exact absurd (by simpa using htaken) hfree
  | some i =>
      rw [hfind, Option.map_some, Option.getD_some] at hnumber
      obtain rfl : i = n := Nat.add_right_cancel (numbered_injective stem hnumber)
      obtain ⟨_, _, hleast⟩ := List.find?_range_eq_some.mp hfind
      apply stops_of_least (Nat.le_add_left 2 i) hfree
      intro k hk hki
      obtain ⟨j, rfl⟩ := Nat.exists_eq_add_of_le' hk
      simpa using hleast j (Nat.lt_of_add_lt_add_right hki)

theorem claim_of_free {ident : String} (h : ident ∉ s.used) : (s.claim ident).1 = ident := by
  simp [claim, h]

theorem claim_of_taken {ident : String} (h : ident ∈ s.used) :
    (s.claim ident).1 = s.firstFree (stem ident) := by
  simp [claim, h]

theorem answers_iff {ident answer : String} :
    s.Answers ident answer ↔ answer = (s.claim ident).1 := by
  obtain ⟨n, _, hnumber, hstops⟩ := stops_firstFree s (stem ident)
  constructor
  · intro h
    cases h with
    | own hfree => exact (claim_of_free hfree).symm
    | next htaken hstops' => rw [claim_of_taken htaken, hnumber, hstops'.functional hstops]
  · rintro rfl
    by_cases h : ident ∈ s.used
    · rw [claim_of_taken h, hnumber]
      exact .next h hstops
    · rw [claim_of_free h]
      exact .own h

theorem isToken_claim {ident : String} (h : IsToken ident) : IsToken (s.claim ident).1 := by
  rcases (s.claim_spec ident).2.1 with heq | ⟨n, _, heq⟩
  · rwa [heq]
  · rw [heq]
    exact isToken_numbered h (n + 2)

/-! ### Calls in any order -/

inductive Call
  | reserve (name : String)
  | claim (ident : String)
deriving DecidableEq, Repr

/-- A scope with the names that it was told to reserve and the identifiers that it has handed out. -/
structure History where
  reserved : List String
  given : List String
  scope : Scope
deriving DecidableEq, Repr

namespace History

def start : History := ⟨[], [], .empty⟩

def step (h : History) : Call → History
  | .reserve name => ⟨name :: h.reserved, h.given, h.scope.reserve name⟩
  | .claim ident => ⟨h.reserved, (h.scope.claim ident).1 :: h.given, (h.scope.claim ident).2⟩

def after (calls : List Call) : History := calls.foldl step start

/-- In use is what was reserved or handed out, and nothing else. -/
structure Tracked (h : History) : Prop where
  mem_used_iff : ∀ name, name ∈ h.scope.used ↔ name ∈ h.reserved ∨ name ∈ h.given
  length_used : h.scope.used.length = h.reserved.length + h.given.length

variable {h : History}

theorem tracked_start : start.Tracked := by
  constructor
  · intro name
    simp [start, Scope.empty]
  · rfl

theorem Tracked.step (hh : h.Tracked) (call : Call) : (h.step call).Tracked := by
  cases call with
  | reserve name =>
      constructor
      · intro other
        simp [History.step, Scope.reserve, hh.mem_used_iff, or_assoc]
      · simp [History.step, Scope.reserve, hh.length_used, Nat.add_right_comm]
  | claim ident =>
      have hscope := (h.scope.claim_spec ident).2.2
      constructor
      · intro other
        simp [History.step, hscope, Scope.reserve, hh.mem_used_iff, or_left_comm]
      · simp [History.step, hscope, Scope.reserve, hh.length_used, Nat.add_assoc]

theorem Tracked.foldl (hh : h.Tracked) (calls : List Call) : (calls.foldl History.step h).Tracked := by
  induction calls generalizing h with
  | nil => exact hh
  | cons call calls ih => exact ih (hh.step call)

theorem tracked_after (calls : List Call) : (after calls).Tracked :=
  tracked_start.foldl calls

/-- What a claim comes to after a history. -/
structure Grants (h : History) (ident answer : String) : Prop where
  /-- The claim ends with this answer and cannot end with another. -/
  answers_iff : ∀ other, h.scope.Answers ident other ↔ other = answer
  claim_eq : h.scope.claim ident = (answer, h.scope.reserve answer)
  not_mem_given : answer ∉ h.given
  not_mem_reserved : answer ∉ h.reserved
  eq_of_free : ident ∉ h.given → ident ∉ h.reserved → answer = ident
  /-- A number is at most two above the count of the calls before it, so that a counter of 32 bits holds it
  for the first two thousand million calls. -/
  number : answer = ident ∨
    ∃ n ≤ h.reserved.length + h.given.length + 2, answer = numbered (stem ident) n
  isToken : IsToken ident → IsToken answer

/-- After any calls, in any order, a claim ends, and its answer is new and the identifier itself while
that is free. -/
theorem exists_grants_after (calls : List Call) (ident : String) :
    ∃ answer, (after calls).Grants ident answer := by
  have htracked := tracked_after calls
  set h := after calls
  obtain ⟨hnew, hform, hscope⟩ := h.scope.claim_spec ident
  rw [htracked.mem_used_iff, not_or] at hnew
  refine ⟨(h.scope.claim ident).1, ?_⟩
  constructor
  · exact fun _ => Scope.answers_iff
  · exact Prod.ext rfl hscope
  · exact hnew.2
  · exact hnew.1
  · intro hgiven hreserved
    apply claim_of_free
    rw [htracked.mem_used_iff]
    exact not_or.mpr ⟨hreserved, hgiven⟩
  · rw [← htracked.length_used]
    refine hform.imp_right ?_
    rintro ⟨n, hn, heq⟩
    exact ⟨n + 2, Nat.add_le_add_right hn 2, heq⟩
  · exact isToken_claim

-- Numbers that were handed out as they are, reserved or found for another form of the word are passed over.
example : (after [.claim "a_2", .claim "a", .reserve "a_3", .claim "a", .claim "r#a", .claim "r#a",
    .claim "a_2"]).given = ["a_2_2", "a_5", "r#a", "a_4", "a", "a_2"] := by
  decide +kernel

end History

end Scope

end Vmodl.Naming
