import Mathlib.Data.List.Infix
import Mathlib.Data.List.Nodup
import Mathlib.Data.List.Perm.Subperm
import Vmodl.Naming

/-!
# Identifiers of a scope

A scope hands out identifiers that differ from each other and from those in use: an identifier that is
taken gets the first free number, and among one more numbers than there are identifiers one is free. The
identifiers of arguments end in a word of their own, or are numbered.
-/

namespace Vmodl.Naming

namespace Scope

theorem toList_numbered (stem : String) (n : Nat) :
    (numbered stem n).toList = stem.toList ++ '_' :: Nat.toDigits 10 n := by
  simp [numbered]

theorem numbered_injective (stem : String) : Function.Injective (numbered stem) := by
  intro n n' h
  have hdigits : Nat.toDigits 10 n = Nat.toDigits 10 n' := by
    simpa [toList_numbered] using congrArg String.toList h
  simpa using congrArg (Nat.ofDigitChars 10 · 0) hdigits

theorem firstFree_spec (s : Scope) (stem : String) :
    s.firstFree stem ∉ s.used ∧ ∃ n ≤ s.used.length, s.firstFree stem = numbered stem (n + 2) := by
  set candidates := (List.range (s.used.length + 1)).map fun n => numbered stem (n + 2) with hcandidates
  have hnodup : candidates.Nodup := by
    refine List.Nodup.map ?_ List.nodup_range
    intro n n' h
    have hsucc := numbered_injective stem h
    omega
  cases hfind : candidates.find? fun c => !s.used.contains c with
  | none =>
      -- All candidates would be in use, which are too many.
      have hsub : candidates ⊆ s.used := by
        intro c hc
        simpa using List.find?_eq_none.mp hfind c hc
      have hlength := (hnodup.subperm hsub).length_le
      simp only [hcandidates, List.length_map, List.length_range] at hlength
      omega
  | some c =>
      have hfirst : s.firstFree stem = c := by
        rw [firstFree, hfind, Option.getD_some]
      obtain ⟨n, hrange, hn⟩ := List.mem_map.mp (List.mem_of_find?_eq_some hfind)
      refine ⟨?_, n, Nat.lt_succ_iff.mp (List.mem_range.mp hrange), by rw [hfirst, hn]⟩
      rw [hfirst]
      simpa using List.find?_some hfind

theorem claim_spec (s : Scope) (ident : String) :
    (s.claim ident).1 ∉ s.used ∧
      ((s.claim ident).1 = ident ∨
        ∃ n ≤ s.used.length, (s.claim ident).1 = numbered (stem ident) (n + 2)) ∧
      (s.claim ident).2 = s.reserve (s.claim ident).1 := by
  refine ⟨?_, ?_, rfl⟩
  · unfold claim
    dsimp only
    split
    · exact (s.firstFree_spec _).1
    · simpa using ‹¬s.used.contains ident = true›
  · unfold claim
    dsimp only
    split
    · exact Or.inr (s.firstFree_spec _).2
    · exact Or.inl rfl

@[simp] theorem claimAll_cons (s : Scope) (ident : String) (idents : List String) :
    s.claimAll (ident :: idents) =
      (s.claim ident).1 :: (s.reserve (s.claim ident).1).claimAll idents :=
  rfl

/-- The identifiers that a scope hands out are new and differ. -/
theorem nodup_claimAll (s : Scope) (idents : List String) :
    (s.claimAll idents).Nodup ∧ ∀ ident ∈ s.claimAll idents, ident ∉ s.used := by
  induction idents generalizing s with
  | nil => exact ⟨List.nodup_nil, nofun⟩
  | cons ident idents ih =>
      obtain ⟨hnodup, hnew⟩ := ih (s.reserve (s.claim ident).1)
      rw [claimAll_cons, List.nodup_cons]
      refine ⟨⟨fun hmem => hnew _ hmem List.mem_cons_self, hnodup⟩, ?_⟩
      intro a ha
      rcases List.mem_cons.mp ha with rfl | ha
      · exact (s.claim_spec ident).1
      · exact fun hused => hnew a ha (List.mem_cons_of_mem _ hused)

/-- The numbers in use are bounded by the number of identifiers that have been asked for. -/
theorem mem_claimAll {s : Scope} {idents : List String} {a : String} (ha : a ∈ s.claimAll idents) :
    ∃ ident ∈ idents,
      a = ident ∨ ∃ n < s.used.length + idents.length, a = numbered (stem ident) (n + 2) := by
  induction idents generalizing s with
  | nil => cases ha
  | cons ident idents ih =>
      rw [claimAll_cons] at ha
      rcases List.mem_cons.mp ha with rfl | ha
      · refine ⟨ident, List.mem_cons_self, (s.claim_spec ident).2.1.imp_right ?_⟩
        rintro ⟨n, hn, h⟩
        exact ⟨n, by rw [List.length_cons]; omega, h⟩
      · obtain ⟨ident', hident', h⟩ := ih ha
        refine ⟨ident', List.mem_cons_of_mem _ hident', h.imp_right ?_⟩
        rintro ⟨n, hn, h⟩
        simp only [reserve, List.length_cons] at hn ⊢
        exact ⟨n, by omega, h⟩

end Scope

/-! ### Identifiers of arguments -/

/-- The form of the identifiers of arguments, numbered or not. -/
def ArgumentLike (ident : String) : Prop := "Args".toList <:+ ident.toList ∨ '_' ∈ ident.toList

instance (ident : String) : Decidable (ArgumentLike ident) :=
  inferInstanceAs (Decidable (_ ∨ _))

/-- No word that is written otherwise than it is ends like an identifier of arguments. -/
theorem suffix_identifier {name digitPrefix fallback : String}
    (hname : "Args".toList <:+ name.toList) (hfallback : "Args".toList <:+ fallback.toList) :
    "Args".toList <:+ (identifier name digitPrefix fallback).toList := by
  have hwords : ∀ word ∈ reserved ++ keywords, ¬"Args".toList <:+ word.toList := by decide
  have hother {word : String} (h : "Args".toList <:+ word.toList) :
      word ∉ reserved ∧ word ∉ keywords := by
    have hmem : word ∉ reserved ++ keywords := fun hword => hwords word hword h
    rwa [List.mem_append, not_or] at hmem
  unfold identifier
  extract_lets filled started
  have hfilled : "Args".toList <:+ filled.toList := by
    unfold filled
    split
    · exact hfallback
    · exact hname
  have hstarted : "Args".toList <:+ started.toList := by
    unfold started
    split
    · rw [String.toList_append]
      exact hfilled.trans (List.suffix_append _ _)
    · exact hfilled
  obtain ⟨hreserved, hkeywords⟩ := hother hstarted
  simpa [hreserved, hkeywords] using hstarted

theorem suffix_argsIdent (owner name : String) :
    "Args".toList <:+ (argsIdent owner name).toList := by
  unfold argsIdent Casing.argsIdent
  apply suffix_identifier
  · rw [String.toList_append]
    exact List.suffix_append _ _
  · exact List.suffix_refl _

theorem argumentLike_of_mem_claimAll {s : Scope} {owner : String} {names : List String} {a : String}
    (ha : a ∈ s.claimAll (names.map (argsIdent owner))) : ArgumentLike a := by
  obtain ⟨ident, hident, rfl | ⟨n, _, rfl⟩⟩ := Scope.mem_claimAll ha
  · obtain ⟨name, _, rfl⟩ := List.mem_map.mp hident
    exact Or.inl (suffix_argsIdent owner name)
  · refine Or.inr ?_
    simp [Scope.toList_numbered]

end Vmodl.Naming
