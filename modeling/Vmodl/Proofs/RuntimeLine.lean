import Vmodl.Generator.Manifest
import Vmodl.Proofs.Assembly
import Vmodl.Proofs.LegalIdentifiers

/-!
# The line of the runtime in a manifest

Generated code reaches the runtime by a path that is read as source, while the manifest takes the name of
its dependency out of the text of the path. Both mean the same name if the text spells it plainly, and
only then.
-/

namespace Vmodl

/-- The first name of the path by which generated code reaches the runtime. -/
def Options.firstName? (o : Options) : Option String :=
  match o.runtime with
  | .ok p => p.segments.head?.map Source.Segment.ident
  | .error _ => none

/-- Nothing but colon pairs stands before the name, and a colon pair or nothing at all after it. -/
def StartsPlainly (text name : String) : Prop :=
  ∃ count rest, text.toList = (List.replicate count [':', ':']).flatten ++ name.toList ++ rest ∧
    (rest = [] ∨ ∃ more, rest = ':' :: ':' :: more)

namespace Manifest

/-- The words by which a path starts within the package itself. -/
def ownPlaces : List String := ["crate", "self", "super"]

/-- The entry that says where the runtime comes from. -/
def place (o : Options) : String :=
  match o.runtimePath with
  | some path => "path = \"" ++ slashes path ++ "\""
  | none => "version = \"" ++ runtimeVersion ++ "\""

/-- The dependency on the runtime under a name. Under another name than its own, its package is named. -/
def lineUnder (o : Options) (name : String) : Option String :=
  if name ∈ ownPlaces then none
  else some (name ++ (" = \x7b " ++
    ((if name = Options.runtimePackage then "" else "package = \"" ++ Options.runtimePackage ++ "\", ") ++
      (place o ++ " \x7d"))))

/-- What stands under the heading of the dependencies. -/
def dependencies (o : Options) : List String := ((lines o).dropWhile (· ≠ "[dependencies]")).tail

/-- What generated packages depend on besides the runtime. -/
def furtherDependencies : List String := [
  "serde = \x7b version = \"1.0\", features = [\"derive\"] \x7d",
  "serde_json = \"1.0\"",
  "strum = \x7b version = \"0.26\", features = [\"derive\"] \x7d"]

end Manifest

namespace Options

theorem exists_eq_append_dropColons (s : List Char) :
    ∃ count, s = (List.replicate count [':', ':']).flatten ++ dropColons s := by
  fun_induction dropColons s with
  | case1 rest ih =>
      obtain ⟨count, hcount⟩ := ih
      refine ⟨count + 1, ?_⟩
      rw [List.replicate_succ, List.flatten_cons, List.append_assoc, ← hcount]
      rfl
  | case2 s _ => exact ⟨0, rfl⟩

theorem dropColons_append (count : Nat) (s : List Char) :
    dropColons ((List.replicate count [':', ':']).flatten ++ s) = dropColons s := by
  induction count with
  | zero => rfl
  | succ count ih => simpa [List.replicate_succ, dropColons] using ih

theorem exists_eq_upToColons_append (s : List Char) :
    ∃ rest, s = upToColons s ++ rest ∧ (rest = [] ∨ ∃ more, rest = ':' :: ':' :: more) := by
  fun_induction upToColons s with
  | case1 more => exact ⟨_, rfl, .inr ⟨more, rfl⟩⟩
  | case2 c rest _ ih =>
      obtain ⟨rest', hrest, hend⟩ := ih
      exact ⟨rest', by rw [List.cons_append, ← hrest], hend⟩
  | case3 => exact ⟨[], rfl, .inl rfl⟩

theorem upToColons_append {name rest : List Char} (hname : ':' ∉ name)
    (hrest : rest = [] ∨ ∃ more, rest = ':' :: ':' :: more) : upToColons (name ++ rest) = name := by
  induction name with
  | nil => rcases hrest with rfl | ⟨more, rfl⟩ <;> rfl
  | cons c name ih =>
      obtain ⟨hc, hname⟩ := not_or.mp (List.mem_cons.not.mp hname)
      rw [List.cons_append, upToColons, ih hname]
      intro more hcolon
      exact absurd hcolon (Ne.symm hc)

theorem dropColons_of_head {c : Char} {s : List Char} (hc : c ≠ ':') : dropColons (c :: s) = c :: s := by
  rw [dropColons]
  intro rest hcolon
  exact hc (List.cons.inj hcolon).1

/-- The text up to colons is a name just if the text spells the name plainly. -/
theorem dependency_eq_iff {o : Options} {name : String} (hname : ':' ∉ name.toList) (hne : name ≠ "") :
    o.dependency = name ↔ StartsPlainly o.runtimeCrate name := by
  unfold dependency StartsPlainly
  constructor
  · intro h
    obtain ⟨count, hcount⟩ := exists_eq_append_dropColons o.runtimeCrate.toList
    obtain ⟨rest, hrest, hend⟩ := exists_eq_upToColons_append (dropColons o.runtimeCrate.toList)
    refine ⟨count, rest, ?_, hend⟩
    rw [← h, String.toList_ofList, List.append_assoc, ← hrest]
    exact hcount
  · rintro ⟨count, rest, htext, hend⟩
    obtain ⟨c, cs, hcs⟩ : ∃ c cs, name.toList = c :: cs := by
      apply List.exists_cons_of_ne_nil
      simpa using hne
    have hc : c ≠ ':' := fun hc => hname (by simp [hcs, hc])
    have hdrop : dropColons (name.toList ++ rest) = name.toList ++ rest := by
      rw [hcs, List.cons_append, dropColons_of_head hc]
    rw [htext, List.append_assoc, dropColons_append, hdrop, upToColons_append hname hend,
      String.ofList_toList]

end Options

/-! ### Names in the lexemes -/

namespace Source.Lexer

theorem isIdentContinue_of_isIdentStart {c : Char} (hc : isIdentStart c = true) :
    isIdentContinue c = true := by
  rw [isIdentStart, Bool.or_eq_true, beq_iff_eq] at hc
  rcases hc with rfl | hc
  · exact Naming.isIdentContinue_of_isWordChar rfl
  · rw [isIdentContinue, hc, Bool.true_or]

theorem chars_of_word? {s w rest : List Char} (h : word? s = some (w, rest)) :
    w ≠ [] ∧ ∀ c ∈ w, isIdentContinue c = true := by
  cases s with
  | nil => cases h
  | cons c s =>
      rw [word?] at h
      split at h
      · rename_i hstart
        cases h
        refine ⟨List.cons_ne_nil _ _, ?_⟩
        rintro d (_ | ⟨_, hd⟩)
        · exact isIdentContinue_of_isIdentStart hstart
        · exact List.mem_takeWhile_imp hd
      · cases h

theorem isIdentContinue_colon : isIdentContinue ':' = false := by
  decide +kernel

theorem not_mem_colon {w : List Char} (hw : ∀ c ∈ w, isIdentContinue c = true) : ':' ∉ w := by
  intro hcolon
  have hcontinue := hw ':' hcolon
  rw [isIdentContinue_colon] at hcontinue
  cases hcontinue

theorem name_of_ident? {s rest : List Char} {name : String} (h : ident? s = some (name, rest)) :
    name ≠ "" ∧ ':' ∉ name.toList := by
  unfold ident? at h
  split at h
  · split at h
    · rename_i w rest' hw
      dsimp only at h
      split at h
      · cases h
      · cases h
        have hcolon := not_mem_colon (chars_of_word? hw).2
        simp [String.toList_append, hcolon]
    · cases h
  · obtain ⟨⟨w, rest'⟩, hw, heq⟩ := Option.map_eq_some_iff.mp h
    cases heq
    obtain ⟨hne, hchars⟩ := chars_of_word? hw
    exact ⟨by simpa using hne, by simpa using not_mem_colon hchars⟩

theorem name_of_next? {s rest : List Char} {name : String} (h : next? s = some (.ident name, rest)) :
    name ≠ "" ∧ ':' ∉ name.toList := by
  unfold next? at h
  split at h
  · cases h
  · split at h
    · cases h
    · split at h
      · split at h <;> cases h
      · cases h
    · split at h
      · cases h
      · split at h
        · cases h
        · split at h
          · cases h
          · split at h
            · cases h
            · obtain ⟨⟨name', rest'⟩, hident, heq⟩ := Option.map_eq_some_iff.mp h
              cases heq
              exact name_of_ident? hident

theorem name_of_mem_lexemesWithin {steps : Nat} {s : List Char} {ls : List Lexeme}
    (h : lexemesWithin steps s = some ls) {name : String} (hname : .ident name ∈ ls) :
    name ≠ "" ∧ ':' ∉ name.toList := by
  fun_induction lexemesWithin steps s generalizing ls with
  | case1 => cases h; cases hname
  | case2 => cases h
  | case3 steps c s rest hskip ih => exact ih h hname
  | case4 steps c s hskip l rest hnext ih =>
      obtain ⟨more, hmore, rfl⟩ := Option.map_eq_some_iff.mp h
      rcases List.mem_cons.mp hname with rfl | hname
      · exact name_of_next? hnext
      · exact ih hmore hname
  | case5 => cases h

theorem skipOne?_colon (s : List Char) : skipOne? (':' :: s) = none := rfl

theorem literal?_colon (s : List Char) : literal? (':' :: s) = none := rfl

/-- A colon is a mark, and a joint one before another colon. -/
theorem next?_colon (s : List Char) :
    ∃ joint, next? (':' :: s) = some (.mark ':' joint, s) ∧ (s.head? = some ':' → joint = true) := by
  have hmark : isMark ':' = true := by decide
  unfold next?
  rw [literal?_colon]
  refine ⟨_, rfl, ?_⟩
  intro hs
  simp [hs, hmark]

theorem lexemesWithin_colon {steps : Nat} {s : List Char} {ls : List Lexeme}
    (h : lexemesWithin steps (':' :: s) = some ls) :
    ∃ joint steps' more, ls = .mark ':' joint :: more ∧ lexemesWithin steps' s = some more ∧
      (s.head? = some ':' → joint = true) := by
  cases steps with
  | zero => cases h
  | succ steps =>
      obtain ⟨joint, hnext, hjoint⟩ := next?_colon s
      rw [lexemesWithin, skipOne?_colon] at h
      · dsimp only at h
        rw [hnext] at h
        obtain ⟨more, hmore, rfl⟩ := Option.map_eq_some_iff.mp h
        exact ⟨joint, steps, more, rfl, hmore, hjoint⟩
      · exact List.cons_ne_nil _ _

theorem word?_append {name : String} (h : Naming.IsWord name) {rest : List Char}
    (hrest : ∀ d ∈ rest.head?, isIdentContinue d = false) :
    word? (name.toList ++ rest) = some (name.toList, rest) := by
  obtain ⟨c, cs, hname, hc, hdigit, hcs⟩ := h.exists_cons
  have hend : rest.takeWhile isIdentContinue = [] := by
    cases rest with
    | nil => rfl
    | cons d rest => simp [hrest d rfl]
  have htail : (cs ++ rest).takeWhile isIdentContinue = cs := by
    rw [List.takeWhile_append_of_pos fun d hd => Naming.isIdentContinue_of_isWordChar (hcs d hd), hend,
      List.append_nil]
  rw [hname, List.cons_append, word?, if_pos (Naming.isIdentStart_of_isWordChar hc hdigit)]
  dsimp only
  rw [htail, List.drop_left]

/-- A word is the next lexeme if nothing else starts with its first letter. -/
theorem next?_word (c : Char) (cs : List Char) {rest : List Char}
    (hliteral : literal? (c :: cs ++ rest) = none)
    (hc : ¬ (c = '\'' ∨ c = 'r' ∨ c ∈ ['(', '[', '\x7b'] ∨ c ∈ [')', ']', '\x7d'] ∨ c = '/' ∨
      isMark c))
    (hword : word? (c :: cs ++ rest) = some (c :: cs, rest)) :
    next? (c :: cs ++ rest) = some (.ident (String.ofList (c :: cs)), rest) := by
  simp only [not_or, Bool.not_eq_true] at hc
  obtain ⟨hquote, hraw, hopening, hclosing, hslash, hmark⟩ := hc
  have hident : ident? (c :: cs ++ rest) = some (String.ofList (c :: cs), rest) := by
    unfold ident?
    split
    · rename_i heq
      exact absurd (List.cons.inj heq).1 hraw
    · rw [hword, Option.map_some]
  rw [List.cons_append] at hliteral hident ⊢
  unfold next?
  rw [hliteral]
  simp only [List.contains_iff_mem, hopening, hclosing, hslash, hmark, false_and, if_false, hident,
    Bool.false_eq_true, Option.map_some]

/-- The words for places within the package, followed by colons or nothing, are lexemes of their own. -/
theorem next?_ownPlace {w : String} (hw : w ∈ Manifest.ownPlaces) {rest : List Char}
    (hrest : rest = [] ∨ ∃ more, rest = ':' :: ':' :: more) :
    skipOne? (w.toList ++ rest) = none ∧ next? (w.toList ++ rest) = some (.ident w, rest) := by
  have hend : ∀ d ∈ rest.head?, isIdentContinue d = false := by
    rcases hrest with rfl | ⟨more, rfl⟩
    · simp
    · rintro d ⟨⟩
      exact isIdentContinue_colon
  have hword : ∀ name ∈ Manifest.ownPlaces, Naming.IsWord name := by decide
  have hword? := word?_append (hword w hw) hend
  simp only [Manifest.ownPlaces, List.mem_cons, List.not_mem_nil, or_false] at hw
  rcases hw with rfl | rfl | rfl
  · exact ⟨rfl, next?_word 'c' "rate".toList rfl (by decide) hword?⟩
  · exact ⟨rfl, next?_word 's' "elf".toList rfl (by decide) hword?⟩
  · exact ⟨rfl, next?_word 's' "uper".toList rfl (by decide) hword?⟩

theorem lexemesWithin_ownPlace {w : String} (hw : w ∈ Manifest.ownPlaces) {steps : Nat}
    {rest : List Char} (hrest : rest = [] ∨ ∃ more, rest = ':' :: ':' :: more) {ls : List Lexeme}
    (h : lexemesWithin steps (w.toList ++ rest) = some ls) : ∃ more, ls = .ident w :: more := by
  obtain ⟨hskip, hnext⟩ := next?_ownPlace hw hrest
  have hne : w.toList ++ rest ≠ [] := by
    intro hnil
    rw [hnil] at hnext
    cases hnext
  cases steps with
  | zero =>
      rw [lexemesWithin] at h
      · cases h
      · exact hne
  | succ steps =>
      rw [lexemesWithin, hskip] at h
      · dsimp only at h
        rw [hnext] at h
        obtain ⟨more, -, rfl⟩ := Option.map_eq_some_iff.mp h
        exact ⟨more, rfl⟩
      · exact hne

end Source.Lexer

namespace Source

/-- Lexemes of a text that plainly starts within the package start there. More than one colon pair in
front is more than a path takes. -/
theorem PathReader.eq_ownPlace {w name : String} (hw : w ∈ Manifest.ownPlaces) {steps count : Nat}
    {rest : List Char} (hrest : rest = [] ∨ ∃ more, rest = ':' :: ':' :: more) {ls more : List Lexeme}
    (h : Lexer.lexemesWithin steps
      ((List.replicate count [':', ':']).flatten ++ (w.toList ++ rest)) = some ls)
    (hbody : (colons? ls).getD ls = .ident name :: more) : name = w := by
  match count with
  | 0 =>
      obtain ⟨_, rfl⟩ := Lexer.lexemesWithin_ownPlace hw hrest h
      cases hbody
      rfl
  | count + 1 =>
      rw [List.replicate_succ, List.flatten_cons, List.append_assoc] at h
      obtain ⟨joint, _, _, rfl, h, hjoint⟩ := Lexer.lexemesWithin_colon h
      obtain ⟨_, _, _, rfl, h, -⟩ := Lexer.lexemesWithin_colon h
      rw [hjoint rfl] at hbody
      match count with
      | 0 =>
          obtain ⟨_, rfl⟩ := Lexer.lexemesWithin_ownPlace hw hrest h
          cases hbody
          rfl
      | count + 1 =>
          rw [List.replicate_succ, List.flatten_cons, List.append_assoc] at h
          obtain ⟨_, _, _, rfl, -, -⟩ := Lexer.lexemesWithin_colon h
          cases hbody

theorem PathReader.mem_of_mem_colons? {ls : List Lexeme} {l : Lexeme}
    (h : l ∈ (colons? ls).getD ls) : l ∈ ls := by
  unfold colons? at h
  split at h
  · exact List.mem_cons_of_mem _ (List.mem_cons_of_mem _ h)
  · exact h

end Source

namespace Options

variable {o : Options}

theorem firstName?_eq_some_iff {name : String} :
    o.firstName? = some name ↔
      ∃ p segment rest, o.runtime = .ok p ∧ p.segments = segment :: rest ∧ segment.ident = name := by
  unfold firstName?
  constructor
  · intro h
    split at h
    · rename_i p hp
      obtain ⟨segment, hhead, rfl⟩ := Option.map_eq_some_iff.mp h
      obtain ⟨rest, hsegments⟩ := List.head?_eq_some_iff.mp hhead
      exact ⟨p, segment, rest, hp, hsegments, rfl⟩
    · cases h
  · rintro ⟨p, segment, rest, hp, hsegments, rfl⟩
    rw [hp]
    dsimp only
    rw [hsegments, List.head?_cons, Option.map_some]

theorem exists_lexemes_of_firstName {name : String} (h : o.firstName? = some name) :
    ∃ ls more, Source.Lexer.lexemesWithin o.runtimeCrate.toList.length o.runtimeCrate.toList = some ls ∧
      (Source.PathReader.colons? ls).getD ls = .ident name :: more := by
  obtain ⟨p, segment, rest, hp, hsegments, rfl⟩ := firstName?_eq_some_iff.mp h
  obtain ⟨ls, _, more, segment', others, hls, hbody, hsegments', rfl⟩ :=
    Source.Path.exists_ident_of_ofText (Outcome.mapError_eq_ok_iff.mp hp)
  rw [hsegments] at hsegments'
  cases hsegments'
  exact ⟨ls, more, hls, hbody⟩

theorem name_of_firstName {name : String} (h : o.firstName? = some name) :
    name ≠ "" ∧ ':' ∉ name.toList := by
  obtain ⟨ls, more, hls, hbody⟩ := exists_lexemes_of_firstName h
  apply Source.Lexer.name_of_mem_lexemesWithin hls
  apply Source.PathReader.mem_of_mem_colons?
  rw [hbody]
  exact List.mem_cons_self

theorem exists_firstName (h : o.validate = .ok ()) : ∃ name, o.firstName? = some name := by
  obtain ⟨p, hp, -⟩ := Outcome.bind_eq_ok_iff.mp h
  obtain ⟨segment, rest, hsegments⟩ := List.exists_cons_of_ne_nil (segments_ne_nil_of_runtime hp)
  exact ⟨segment.ident, firstName?_eq_some_iff.mpr ⟨p, segment, rest, hp, hsegments, rfl⟩⟩

/-- A text that plainly starts within the package is a path that does. -/
theorem eq_of_startsPlainly_ownPlace {name w : String} (h : o.firstName? = some name)
    (hw : w ∈ Manifest.ownPlaces) (hplain : StartsPlainly o.runtimeCrate w) : name = w := by
  obtain ⟨ls, more, hls, hbody⟩ := exists_lexemes_of_firstName h
  obtain ⟨count, rest, htext, hrest⟩ := hplain
  have hstart : ∃ steps, Source.Lexer.lexemesWithin steps
      ((List.replicate count [':', ':']).flatten ++ (w.toList ++ rest)) = some ls := by
    rw [← List.append_assoc, ← htext]
    exact ⟨_, hls⟩
  obtain ⟨_, hstart⟩ := hstart
  exact Source.PathReader.eq_ownPlace hw hrest hstart hbody

end Options

/-! ### The line under a name -/

namespace Manifest

theorem runtimeLine?_eq_lineUnder (o : Options) : runtimeLine? o = lineUnder o o.dependency := by
  unfold runtimeLine? lineUnder
  by_cases hown : o.dependency ∈ ownPlaces
  · rw [if_pos hown]
    exact if_pos (List.contains_iff_mem.mpr hown)
  · rw [if_neg hown]
    refine (if_neg (List.contains_iff_mem.not.mpr hown)).trans ?_
    unfold place
    by_cases hname : o.dependency = Options.runtimePackage
    · cases o.runtimePath <;> simp [hname, String.append_assoc]
    · cases o.runtimePath <;> simp [hname, String.append_assoc]

/-- Text that tells the package is longer than the package's own name, so that lines that begin with
names differ where only one of them tells it. -/
theorem name_eq_of_line_eq {place a b : String}
    (h : a ++ (" = \x7b " ++ ((if a = Options.runtimePackage then "" else
        "package = \"" ++ Options.runtimePackage ++ "\", ") ++ place)) =
      b ++ (" = \x7b " ++ ((if b = Options.runtimePackage then "" else
        "package = \"" ++ Options.runtimePackage ++ "\", ") ++ place))) : a = b := by
  have hlength := congrArg String.length h
  simp only [String.length_append] at hlength
  have hpackage : Options.runtimePackage.length = 5 := by decide
  have htext : "package = \"".length = 11 := by decide
  by_cases ha : a = Options.runtimePackage <;> by_cases hb : b = Options.runtimePackage
  · rw [ha, hb]
  · rw [if_pos ha, if_neg hb, ha] at hlength
    simp only [String.length_append, String.length_empty] at hlength
    omega
  · rw [if_neg ha, if_pos hb, hb] at hlength
    simp only [String.length_append, String.length_empty] at hlength
    omega
  · rw [if_neg ha, if_neg hb] at h
    exact (String.append_left_inj _).mp h

/-- Without a line the names are of places within the package. A line tells its name. -/
theorem lineUnder_inj {o : Options} {a b : String} (h : lineUnder o a = lineUnder o b) :
    (a ∈ ownPlaces ∧ b ∈ ownPlaces) ∨ a = b := by
  unfold lineUnder at h
  by_cases ha : a ∈ ownPlaces <;> by_cases hb : b ∈ ownPlaces
  · exact .inl ⟨ha, hb⟩
  · rw [if_pos ha, if_neg hb] at h
    cases h
  · rw [if_neg ha, if_pos hb] at h
    cases h
  · rw [if_neg ha, if_neg hb] at h
    exact .inr (name_eq_of_line_eq (Option.some.inj h))

theorem runtimeLine?_eq_iff {o : Options} {name : String} (h : o.firstName? = some name) :
    runtimeLine? o = lineUnder o name ↔ StartsPlainly o.runtimeCrate name := by
  obtain ⟨hne, hcolon⟩ := Options.name_of_firstName h
  rw [runtimeLine?_eq_lineUnder, ← Options.dependency_eq_iff hcolon hne]
  constructor
  · intro hline
    rcases lineUnder_inj hline with ⟨hdependency, -⟩ | heq
    · have hown : ∀ w ∈ ownPlaces, ':' ∉ w.toList ∧ w ≠ "" := by decide
      obtain ⟨hcolon', hne'⟩ := hown _ hdependency
      have hplain := (Options.dependency_eq_iff hcolon' hne').mp rfl
      exact (Options.eq_of_startsPlainly_ownPlace h hdependency hplain).symm
    · exact heq
  · intro hdependency
    rw [hdependency]

theorem dependencies_eq (o : Options) :
    dependencies o = (runtimeLine? o).toList ++ furtherDependencies := by
  have hname : "name = \"" ++ o.crateName ++ "\"" ≠ "[dependencies]" := by
    intro h
    have hhead := congrArg (fun text : String => text.toList.head?) h
    simp [String.toList_append] at hhead
  unfold dependencies lines
  simp [hname, furtherDependencies]

/-- The dependency has the name by which generated code reaches the runtime just if the text of the path
spells it plainly. -/
theorem dependencies_eq_iff_startsPlainly {o : Options} (hvalid : o.validate = .ok ()) :
    ∃ name, o.firstName? = some name ∧
      (dependencies o = (lineUnder o name).toList ++ furtherDependencies ↔
        StartsPlainly o.runtimeCrate name) := by
  obtain ⟨name, hname⟩ := Options.exists_firstName hvalid
  refine ⟨name, hname, ?_⟩
  rw [← runtimeLine?_eq_iff hname, dependencies_eq, List.append_left_inj]
  constructor
  · intro hlist
    simpa using congrArg List.head? hlist
  · intro hline
    rw [hline]

theorem dependencies_eq_rooted :
    let o : Options := { runtimeCrate := "::vsphere_runtime::v1" }
    o.validate = .ok () ∧ o.firstName? = some "vsphere_runtime" ∧
      dependencies o =
        "vsphere_runtime = \x7b package = \"vmomi\", version = \"0.1\" \x7d" :: furtherDependencies := by
  intro o
  have hvalid : o.validate = .ok () := by decide +kernel
  have hfirst : o.firstName? = some "vsphere_runtime" := by decide +kernel
  obtain ⟨name, hname, hline⟩ := dependencies_eq_iff_startsPlainly hvalid
  obtain rfl := Option.some.inj (hname.symm.trans hfirst)
  refine ⟨hvalid, hfirst, ?_⟩
  rw [hline.mpr ⟨1, "::v1".toList, by decide, .inr ⟨_, rfl⟩⟩]
  decide +kernel

/-- A blank before the path is no part of its first name, and it is a part of the dependency's. -/
theorem not_dependencies_eq_blank :
    ¬ ∀ o : Options, o.validate = .ok () → ∀ name, o.firstName? = some name →
      dependencies o = (lineUnder o name).toList ++ furtherDependencies := by
  intro h
  have hblank := h { runtimeCrate := " crate::runtime" } (by decide +kernel) "crate" (by decide +kernel)
  revert hblank
  decide +kernel

end Manifest

end Vmodl
