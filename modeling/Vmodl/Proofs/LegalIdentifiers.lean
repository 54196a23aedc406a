import Mathlib.Data.List.TakeWhile
import Vmodl.Proofs.Identifiers
import Vmodl.Proofs.Structures
import Vmodl.Source.PathReader

/-!
# Legal identifiers

Whatever a name is turned into by the change of case, the identifiers of members, methods and arguments
are legal in the language of the generated source, and those of one item differ even where a raw
identifier and its bare word count as the same.
-/

namespace Vmodl.Naming

/-- The words that the language keeps for itself. -/
def languageWords : List String := "gen" :: Source.PathReader.keywords

/-- The words that name places and cannot be identifiers even when written raw. -/
def placeWords : List String := ["self", "Self", "super", "crate"]

/-- Letters, digits and underscores of ASCII, with no digit in front, and not an underscore alone. -/
structure IsWord (name : String) : Prop where
  chars : ∀ c ∈ name.toList, isWordChar c = true
  start : name.toList.head?.any (fun c => !c.isDigit) = true
  ne_underscore : name ≠ "_"

instance (name : String) : Decidable (IsWord name) :=
  decidable_of_iff (name.toList.all isWordChar = true ∧
      name.toList.head?.any (fun c => !c.isDigit) = true ∧ name ≠ "_")
    ⟨fun ⟨hchars, hstart, hne⟩ => ⟨List.all_eq_true.mp hchars, hstart, hne⟩,
      fun h => ⟨List.all_eq_true.mpr h.chars, h.start, h.ne_underscore⟩⟩

/-- A word that is free, or one that the language keeps for itself in raw form. -/
inductive Legal : String → Prop
  | plain {name : String} (hname : IsWord name) (hfree : name ∉ languageWords) : Legal name
  | raw {name : String} (hname : IsWord name) (hkept : name ∈ languageWords)
      (hplace : name ∉ placeWords) : Legal ("r#" ++ name)

/-- A text from which an identifier can be made: the lexer takes all of it as one. -/
def IsToken (ident : String) : Prop := Source.Lexer.ident? ident.toList = some (ident, [])

theorem ranges_of_isWordChar {c : Char} (hc : isWordChar c = true) :
    (65 ≤ c.toNat ∧ c.toNat ≤ 90 ∨ 97 ≤ c.toNat ∧ c.toNat ≤ 122) ∨ c.isDigit = true ∨ c = '_' := by
  have hclasses : ((c.isUpper || c.isLower) || c.isDigit || c == '_') = true := hc
  simp only [Bool.or_eq_true, beq_iff_eq] at hclasses
  rcases hclasses with ((hupper | hlower) | hdigit) | hunderscore
  · exact .inl (.inl (of_decide_eq_true hupper))
  · obtain ⟨hlow, hhigh⟩ := Bool.and_eq_true_iff.mp hlower
    exact .inl (.inr ⟨of_decide_eq_true hlow, of_decide_eq_true hhigh⟩)
  · exact .inr (.inl hdigit)
  · exact .inr (.inr hunderscore)

theorem inRanges_of_mem {ranges : List (Nat × Nat)} {low high n : Nat} (hmem : (low, high) ∈ ranges)
    (hlow : low ≤ n) (hhigh : n ≤ high) : Text.inRanges ranges n = true := by
  refine List.any_eq_true.mpr ⟨(low, high), hmem, ?_⟩
  simp [hlow, hhigh]

theorem isIdentStart_of_isWordChar {c : Char} (hc : isWordChar c = true) (hdigit : c.isDigit = false) :
    Source.Lexer.isIdentStart c = true := by
  rcases ranges_of_isWordChar hc with (⟨hlow, hhigh⟩ | ⟨hlow, hhigh⟩) | hc | rfl
  · have hmem : (65, 90) ∈ Text.startRanges := List.mem_cons_self
    simp [Source.Lexer.isIdentStart, inRanges_of_mem hmem hlow hhigh]
  · have hmem : (97, 122) ∈ Text.startRanges := List.mem_cons_of_mem _ List.mem_cons_self
    simp [Source.Lexer.isIdentStart, inRanges_of_mem hmem hlow hhigh]
  · rw [hc] at hdigit
    cases hdigit
  · rfl

theorem isIdentContinue_of_isWordChar {c : Char} (hc : isWordChar c = true) :
    Source.Lexer.isIdentContinue c = true := by
  have hcontinue {low high : Nat} (hmem : (low, high) ∈ Text.continueRanges) (hlow : low ≤ c.toNat)
      (hhigh : c.toNat ≤ high) : Source.Lexer.isIdentContinue c = true := by
    simp [Source.Lexer.isIdentContinue, inRanges_of_mem hmem hlow hhigh]
  rcases hword : c.isDigit with _ | _
  · by_cases hunderscore : c = '_'
    · subst hunderscore
      exact hcontinue (List.mem_cons_of_mem _ List.mem_cons_self) (Nat.le_refl 0x5F) (Nat.le_refl 0x5F)
    · have hstart := isIdentStart_of_isWordChar hc hword
      simp only [Source.Lexer.isIdentStart, Bool.or_eq_true, beq_iff_eq, hunderscore, false_or] at hstart
      simp [Source.Lexer.isIdentContinue, hstart]
  · simp only [Char.isDigit, Bool.and_eq_true, decide_eq_true_eq, UInt32.le_iff_toNat_le,
      ge_iff_le] at hword
    exact hcontinue List.mem_cons_self hword.1 hword.2

theorem isWordChar_of_mem_clean {name : String} : ∀ c ∈ (clean name).toList, isWordChar c = true := by
  intro c hc
  rw [clean, String.toList_ofList] at hc
  obtain ⟨d, _, rfl⟩ := List.mem_map.mp hc
  split
  · assumption
  · rfl

theorem word?_eq_self_iff {s : List Char} : Source.Lexer.word? s = some (s, []) ↔
    ∃ c cs, s = c :: cs ∧ Source.Lexer.isIdentStart c = true ∧
      ∀ d ∈ cs, Source.Lexer.isIdentContinue d = true := by
  constructor
  · intro h
    cases s with
    | nil => cases h
    | cons c cs =>
        rw [Source.Lexer.word?] at h
        split at h
        · rename_i hstart
          have hwhole : cs.takeWhile Source.Lexer.isIdentContinue = cs := by
            simpa using congrArg Prod.fst (Option.some.inj h)
          exact ⟨c, cs, rfl, hstart, List.takeWhile_eq_self_iff.mp hwhole⟩
        · cases h
  · rintro ⟨c, cs, rfl, hstart, hcs⟩
    rw [Source.Lexer.word?, if_pos hstart, List.takeWhile_eq_self_iff.mpr hcs]
    simp

/-- The mark of raw identifiers is part of no word. -/
theorem ne_mark_of_word? {s rest : List Char} (h : Source.Lexer.word? s = some (s, [])) :
    s ≠ 'r' :: '#' :: rest := by
  rintro rfl
  obtain ⟨c, cs, heq, _, hcs⟩ := word?_eq_self_iff.mp h
  cases heq
  have hmark := hcs '#' List.mem_cons_self
  revert hmark
  decide +kernel

theorem IsWord.exists_cons {name : String} (h : IsWord name) :
    ∃ c cs, name.toList = c :: cs ∧ isWordChar c = true ∧ c.isDigit = false ∧
      ∀ d ∈ cs, isWordChar d = true := by
  cases hname : name.toList with
  | nil =>
      have hstart := h.start
      simp [hname] at hstart
  | cons c cs =>
      have hchars := h.chars
      have hstart := h.start
      rw [hname] at hchars hstart
      exact ⟨c, cs, rfl, hchars c List.mem_cons_self, by simpa using hstart,
        fun d hd => hchars d (List.mem_cons_of_mem c hd)⟩

theorem IsWord.word?_eq {name : String} (h : IsWord name) :
    Source.Lexer.word? name.toList = some (name.toList, []) := by
  obtain ⟨c, cs, hname, hc, hdigit, hcs⟩ := h.exists_cons
  apply word?_eq_self_iff.mpr
  exact ⟨c, cs, hname, isIdentStart_of_isWordChar hc hdigit,
    fun d hd => isIdentContinue_of_isWordChar (hcs d hd)⟩

theorem stemChars_of_word? {s : List Char} (h : Source.Lexer.word? s = some (s, [])) :
    Scope.stemChars s = s := by
  unfold Scope.stemChars
  split
  · rename_i rest
    exact absurd rfl (ne_mark_of_word? h)
  · rfl

theorem IsWord.stem_eq {name : String} (h : IsWord name) : Scope.stem name = name := by
  rw [Scope.stem, stemChars_of_word? h.word?_eq, String.ofList_toList]

theorem IsWord.stem_raw {name : String} (h : IsWord name) : Scope.stem ("r#" ++ name) = name := by
  have hraw : ("r#" ++ name).toList = 'r' :: '#' :: name.toList := by
    rw [String.toList_append]
    rfl
  rw [Scope.stem, hraw, Scope.stemChars, stemChars_of_word? h.word?_eq, String.ofList_toList]

theorem isToken_of_word? {name : String}
    (h : Source.Lexer.word? name.toList = some (name.toList, [])) : IsToken name := by
  unfold IsToken Source.Lexer.ident?
  split
  · rename_i heq
    exact absurd heq (ne_mark_of_word? h)
  · simp [h]

theorem Legal.isToken {ident : String} (h : Legal ident) : IsToken ident := by
  cases h with
  | plain hname hfree => exact isToken_of_word? hname.word?_eq
  | @raw name hname _ hplace =>
      have hraw : ("r#" ++ name).toList = 'r' :: '#' :: name.toList := by
        rw [String.toList_append]
        rfl
      have hunderscore := hname.ne_underscore
      simp only [placeWords, List.mem_cons, List.not_mem_nil, or_false, not_or] at hplace
      unfold IsToken
      rw [hraw, Source.Lexer.ident?, hname.word?_eq]
      simp [hunderscore, hplace]

/-- Legal identifiers of one stem are one identifier: a word is free or it is kept. -/
theorem Legal.eq_of_stem {a b : String} (ha : Legal a) (hb : Legal b)
    (h : Scope.stem a = Scope.stem b) : a = b := by
  cases ha with
  | plain hname hfree =>
      cases hb with
      | plain hname' _ => rwa [hname.stem_eq, hname'.stem_eq] at h
      | raw hname' hkept _ =>
          rw [hname.stem_eq, hname'.stem_raw] at h
          exact absurd (h ▸ hkept) hfree
  | raw hname hkept _ =>
      cases hb with
      | plain hname' hfree =>
          rw [hname.stem_raw, hname'.stem_eq] at h
          exact absurd (h ▸ hkept) hfree
      | raw hname' _ _ =>
          rw [hname.stem_raw, hname'.stem_raw] at h
          rw [h]

/-! ### Identifiers of names -/

theorem mem_languageWords_iff {name : String} :
    name ∈ languageWords ↔ name ∈ keywords ∨ name ∈ reserved := by
  have hto : ∀ word ∈ languageWords, word ∈ keywords ∨ word ∈ reserved := by decide +kernel
  have hfrom : ∀ word ∈ keywords ++ reserved, word ∈ languageWords := by decide +kernel
  refine ⟨hto name, fun h => hfrom name (List.mem_append.mpr h)⟩

theorem not_mem_placeWords_of_mem_keywords : ∀ word ∈ keywords, word ∉ placeWords := by
  decide +kernel

theorem legal_of_isWord {name : String} (h : IsWord name) :
    Legal (if reserved.contains name then name ++ "_"
      else if keywords.contains name then "r#" ++ name else name) := by
  have hsuffixed : ∀ word ∈ reserved, word ++ "_" ∉ languageWords ∧ word ++ "_" ≠ "_" := by
    decide +kernel
  split
  · rename_i hreserved
    obtain ⟨hfree, hne⟩ := hsuffixed name (by simpa using hreserved)
    refine .plain ⟨?_, ?_, hne⟩ hfree
    · intro c hc
      rw [String.toList_append] at hc
      rcases List.mem_append.mp hc with hc | hc
      · exact h.chars c hc
      · obtain rfl : c = '_' := by simpa using hc
        rfl
    · obtain ⟨c, cs, hname, _, hdigit, _⟩ := h.exists_cons
      simp [String.toList_append, hname, hdigit]
  · rename_i hreserved
    split
    · rename_i hkeyword
      have hmem : name ∈ keywords := by simpa using hkeyword
      exact .raw h (mem_languageWords_iff.mpr (.inl hmem)) (not_mem_placeWords_of_mem_keywords name hmem)
    · rename_i hkeyword
      refine .plain h fun hmem => ?_
      rcases mem_languageWords_iff.mp hmem with hmem | hmem
      · exact hkeyword (by simpa using hmem)
      · exact hreserved (by simpa using hmem)

/-- A name of word characters has a legal identifier, if the prefix and the fallback are words. -/
theorem legal_identifier {name digitPrefix fallback : String}
    (hname : ∀ c ∈ name.toList, isWordChar c = true) (hdigits : IsWord digitPrefix)
    (hfallback : IsWord fallback) : Legal (identifier name digitPrefix fallback) := by
  unfold identifier
  extract_lets filled started
  suffices hstarted : IsWord started from legal_of_isWord hstarted
  by_cases hall : name.toList.all (· == '_') = true
  · have hfilled : filled = fallback := if_pos hall
    have hdigit : ¬filled.toList.head?.any Char.isDigit = true := by
      obtain ⟨c, cs, hchars, _, hc, _⟩ := hfallback.exists_cons
      simp [hfilled, hchars, hc]
    rwa [show started = filled from if_neg hdigit, hfilled]
  · have hfilled : filled = name := if_neg hall
    obtain ⟨c, hc, hne⟩ : ∃ c ∈ name.toList, c ≠ '_' := by simpa using hall
    by_cases hdigit : filled.toList.head?.any Char.isDigit = true
    · rw [show started = digitPrefix ++ filled from if_pos hdigit, hfilled]
      obtain ⟨d, ds, hchars, _, hd, _⟩ := hdigits.exists_cons
      refine ⟨?_, by simp [String.toList_append, hchars, hd], ?_⟩
      · intro e he
        rw [String.toList_append] at he
        exact (List.mem_append.mp he).elim (hdigits.chars e) (hname e)
      · -- The prefix stands before a digit, so there are two characters at least.
        intro heq
        have hlength : (digitPrefix ++ name).toList.length = 1 := by rw [heq]; rfl
        have hpos := List.length_pos_of_mem hc
        rw [String.toList_append, List.length_append, hchars, List.length_cons] at hlength
        omega
    · rw [show started = filled from if_neg hdigit, hfilled]
      rw [hfilled] at hdigit
      refine ⟨hname, ?_, ?_⟩
      · cases hchars : name.toList with
        | nil => simp [hchars] at hc
        | cons d ds => simpa [hchars] using hdigit
      · rintro rfl
        exact hne (by simpa using hc)

/-! ### Scopes -/

namespace Scope

theorem isWordChar_of_mem_number {n : Nat} : ∀ c ∈ '_' :: Nat.toDigits 10 n, isWordChar c = true := by
  intro c hc
  rcases List.mem_cons.mp hc with rfl | hc
  · rfl
  · have hdigit := Nat.isDigit_of_mem_toDigits (by omega) (by omega) hc
    simp [isWordChar, Char.isAlphanum, hdigit]

theorem legal_numbered {ident : String} (h : Legal ident) (n : Nat) : Legal (numbered (stem ident) n) := by
  obtain ⟨word, hword, hstem⟩ : ∃ word, IsWord word ∧ stem ident = word := by
    cases h with
    | plain hname _ => exact ⟨_, hname, hname.stem_eq⟩
    | raw hname _ _ => exact ⟨_, hname, hname.stem_raw⟩
  have hdigits := toList_numbered word n
  have hdigit : ∀ c ∈ Nat.toDigits 10 n, c.isDigit = true := fun c hc =>
    Nat.isDigit_of_mem_toDigits (by omega) (by omega) hc
  obtain ⟨d, hd⟩ := List.exists_mem_of_ne_nil _ (Nat.toDigits_ne_nil (n := n) (b := 10))
  -- No word that the language keeps has a digit in it.
  have hfree : numbered word n ∉ languageWords := by
    have hwords : ∀ word ∈ languageWords, word.toList.any Char.isDigit = false := by decide +kernel
    intro hmem
    refine List.any_eq_false.mp (hwords _ hmem) d ?_ (hdigit d hd)
    simp [hdigits, hd]
  rw [hstem]
  refine .plain ⟨?_, ?_, ?_⟩ hfree
  · intro c hc
    rw [hdigits] at hc
    exact (List.mem_append.mp hc).elim (hword.chars c) (isWordChar_of_mem_number c)
  · obtain ⟨c, cs, hchars, _, hc, _⟩ := hword.exists_cons
    simp [hdigits, hchars, hc]
  · intro heq
    have hlength : (numbered word n).toList.length = 1 := by rw [heq]; rfl
    have hpos := List.length_pos_of_mem hd
    rw [hdigits, List.length_append, List.length_cons] at hlength
    omega

/-- What a scope that has been asked for identifiers hands out. -/
structure Settles (requested given : List String) : Prop where
  length_eq : given.length = requested.length
  /-- An identifier is made of every text that is asked for and of every one that is handed out. -/
  tokens : ∀ ident ∈ requested ++ given, IsToken ident
  legal : ∀ ident ∈ given, Legal ident
  distinct : (given.map stem).Nodup
  /-- The numbers stay below a bound that only the number of the identifiers sets. -/
  numbers : ∀ ident ∈ given, ident ∈ requested ∨
    ∃ name ∈ requested, ∃ n ≤ requested.length + 2, ident = numbered (stem name) n

theorem settles_claimAll {s : Scope} {requested : List String}
    (hlegal : ∀ ident ∈ requested, Legal ident) (hused : s.used.length ≤ 1) :
    Settles requested (s.claimAll requested) := by
  have hgiven : ∀ ident ∈ s.claimAll requested, Legal ident := by
    intro ident hident
    obtain ⟨name, hname, rfl | ⟨n, _, rfl⟩⟩ := mem_claimAll hident
    · exact hlegal _ hname
    · exact legal_numbered (hlegal name hname) (n + 2)
  constructor
  · exact length_claimAll s requested
  · intro ident hident
    apply Legal.isToken
    exact (List.mem_append.mp hident).elim (hlegal ident) (hgiven ident)
  · exact hgiven
  · refine (s.nodup_claimAll requested).1.map_on ?_
    intro a ha b hb h
    exact (hgiven a ha).eq_of_stem (hgiven b hb) h
  · intro ident hident
    obtain ⟨name, hname, rfl | ⟨n, hn, rfl⟩⟩ := mem_claimAll hident
    · exact .inl hname
    · exact .inr ⟨name, hname, n + 2, by omega, rfl⟩

theorem settles_claimAll_map {α : Type} (s : Scope) (hused : s.used.length ≤ 1) (f : α → String)
    (hlegal : ∀ a, Legal (f a)) (names : List α) :
    Settles (names.map f) (s.claimAll (names.map f)) := by
  apply settles_claimAll _ hused
  intro ident hident
  obtain ⟨a, _, rfl⟩ := List.mem_map.mp hident
  exact hlegal a

end Scope

namespace Casing

variable (casing : Casing)

def fieldIdents (properties : List Property) : List String :=
  (Scope.empty.reserve baseField).claimAll (properties.map fun p => casing.fieldIdent p.name)

def methodIdents (d : ManagedDecl) : List String :=
  Scope.empty.claimAll (d.methods.map fun m => casing.methodIdent m.name)

def argsIdents (d : ManagedDecl) : List String :=
  Scope.empty.claimAll (d.methods.map fun m => casing.argsIdent d.wireName m.name)

variable {casing}

theorem legal_fieldIdent (name : String) : Legal (casing.fieldIdent name) := by
  unfold fieldIdent
  extract_lets snake
  split
  · exact .plain (by decide) (by decide +kernel)
  · exact legal_identifier isWordChar_of_mem_clean (by decide) (by decide)

theorem legal_methodIdent (name : String) : Legal (casing.methodIdent name) :=
  legal_identifier isWordChar_of_mem_clean (by decide) (by decide)

theorem legal_argsIdent (owner name : String) : Legal (casing.argsIdent owner name) := by
  refine legal_identifier ?_ (by decide) (by decide)
  intro c hc
  simp only [String.toList_append, List.mem_append] at hc
  rcases hc with (hc | hc) | hc
  · exact isWordChar_of_mem_clean c hc
  · exact isWordChar_of_mem_clean c hc
  · have hword : "Args".toList.all isWordChar = true := by decide
    exact List.all_eq_true.mp hword c hc

theorem settles_fieldIdents (properties : List Property) :
    Scope.Settles (properties.map fun p => casing.fieldIdent p.name) (casing.fieldIdents properties) :=
  Scope.settles_claimAll_map (Scope.empty.reserve baseField) (Nat.le_refl 1) _
    (fun p : Property => legal_fieldIdent p.name) properties

theorem settles_methodIdents (d : ManagedDecl) :
    Scope.Settles (d.methods.map fun m => casing.methodIdent m.name) (casing.methodIdents d) :=
  Scope.settles_claimAll_map Scope.empty (Nat.zero_le 1) _
    (fun m : Method => legal_methodIdent m.name) d.methods

theorem settles_argsIdents (d : ManagedDecl) :
    Scope.Settles (d.methods.map fun m => casing.argsIdent d.wireName m.name) (casing.argsIdents d) :=
  Scope.settles_claimAll_map Scope.empty (Nat.zero_le 1) _
    (fun m : Method => legal_argsIdent d.wireName m.name) d.methods

/-- The name of the embedded parent is in use from the start, and it is no word that could be raw. -/
theorem baseField_not_mem_stems (properties : List Property) :
    baseField ∉ (casing.fieldIdents properties).map Scope.stem := by
  intro hmem
  obtain ⟨ident, hident, hstem⟩ := List.mem_map.mp hmem
  have hbase : Legal baseField := .plain (by decide) (by decide +kernel)
  have hlegal : Legal ident := (settles_fieldIdents properties).legal ident hident
  have hself : Scope.stem baseField = baseField := by decide
  obtain rfl := hlegal.eq_of_stem hbase (hstem.trans hself.symm)
  exact (Scope.nodup_claimAll _ _).2 _ hident List.mem_cons_self

end Casing

end Vmodl.Naming

namespace Vmodl

open Naming

theorem Member.map_ident_ofProperties (i : Index) (properties : List Property) :
    (ofProperties i properties).map (·.ident) = Casing.usual.fieldIdents properties := by
  rw [ofProperties, List.map_zipWith]
  apply List.ext_getElem
  · simp [Casing.fieldIdents, Scope.length_claimAll]
  · intro n _ _
    simp only [List.getElem_zipWith]
    rfl

theorem Operation.map_idents_ofDecl (i : Index) (rootType : String) (d : ManagedDecl) :
    (ofDecl i rootType d).map (fun o => (o.ident, o.argsIdent)) =
      (Casing.usual.methodIdents d).zip (Casing.usual.argsIdents d) := by
  rw [ofDecl, List.map_zipWith]
  apply List.ext_getElem
  · simp [Casing.methodIdents, Casing.argsIdents, Scope.length_claimAll]
  · intro n _ _
    simp only [List.getElem_zipWith, List.getElem_zip]
    rfl

/-- The identifiers of members, methods and arguments are legal and differ within their lists, whatever
strings their names are changed to. In the usual case they are those of the planned client. -/
theorem identifiers_settle (casing : Casing) (properties : List Property) (d : ManagedDecl) :
    (Scope.Settles (properties.map fun p => casing.fieldIdent p.name) (casing.fieldIdents properties) ∧
      baseField ∉ (casing.fieldIdents properties).map Scope.stem) ∧
    Scope.Settles (d.methods.map fun m => casing.methodIdent m.name) (casing.methodIdents d) ∧
    Scope.Settles (d.methods.map fun m => casing.argsIdent d.wireName m.name) (casing.argsIdents d) ∧
    (∀ i, (Member.ofProperties i properties).map (·.ident) = Casing.usual.fieldIdents properties) ∧
    ∀ i rootType, (Operation.ofDecl i rootType d).map (fun o => (o.ident, o.argsIdent)) =
      (Casing.usual.methodIdents d).zip (Casing.usual.argsIdents d) := by
  refine ⟨⟨Casing.settles_fieldIdents properties, Casing.baseField_not_mem_stems properties⟩,
    Casing.settles_methodIdents d, Casing.settles_argsIdents d, ?_, ?_⟩
  · exact fun i => Member.map_ident_ofProperties i properties
  · exact fun i rootType => Operation.map_idents_ofDecl i rootType d

end Vmodl
