import Vmodl.Files.Store
import Vmodl.Proofs.Outcomes

/-!
# What replacing a file leaves alone

A file is replaced by way of a temporary one beside it. Whatever the disk looked like before, no other
file changes, and nothing stays under the temporary name where the file was replaced. Where it was not,
all files are as they were, unless the last step alone was refused.
-/

namespace Vmodl.Files

/-- Files are the same but for those at some locations, and no directory is lost. -/
structure Disk.KeepsBut (changed : Location → Prop) (d d' : Disk) : Prop where
  here : d'.here = d.here
  files : ∀ l, ¬changed l → ∀ content,
    d'.tree.get? l = some (.file content) ↔ d.tree.get? l = some (.file content)
  directories : ∀ l, d.tree.get? l = some .directory → d'.tree.get? l = some .directory

/-- The file holds the content, and the temporary name is free unless it is that of the file. -/
structure Disk.Replaced (d d' : Disk) (p : Path) (content : String) : Prop where
  read : d'.read p = .ok content
  keeps : KeepsBut (fun l => d'.locate p = .ok l ∨ d'.locate p.temporary = .ok l) d d'
  free : ∀ l, d'.locate p.temporary = .ok l → d'.locate p ≠ .ok l → d'.tree.get? l = none

/-- All files are as they were. Only where the path is that of a directory, or ends in separators, a file
may have changed, the one under the temporary name. -/
def Disk.Unreplaced (d d' : Disk) (p : Path) : Prop :=
  KeepsBut (fun _ => False) d d' ∨
    ((p.tail ≠ [] ∨ d'.isDirectory p = true) ∧ KeepsBut (fun l => d'.locate p.temporary = .ok l) d d')

/-- What writing a file may come to. -/
def Disk.Settles (d : Disk) (p : Path) (content : String) : Except WriteFailure Unit × Disk → Prop
  | (.ok _, d') => d.Replaced d' p content
  | (.error _, d') => d.Unreplaced d' p

namespace Tree

theorem get?_erase_self (t : Tree) {at_ : Location} (h : at_ ≠ []) : (t.erase at_).get? at_ = none := by
  rw [get?, if_neg h, lookup_erase_self]

theorem ne_nil_of_get? {t : Tree} {at_ : Location} (h : t.get? at_ ≠ some .directory) : at_ ≠ [] := by
  rintro rfl
  exact h (if_pos rfl)

theorem walk_cons_eq_ok_iff {t : Tree} {at_ l : Location} {name : List Char} {names : List (List Char)} :
    t.walk at_ (name :: names) = .ok l ↔
      t.get? at_ = some .directory ∧ t.walk (step at_ name) names = .ok l := by
  rw [walk]
  split
  · simp_all
  · simp_all
  · simp_all

/-- The last name is not looked up. -/
theorem walk_append_singleton_eq_ok_iff {t : Tree} {at_ l : Location} {names : List (List Char)}
    {name : List Char} :
    t.walk at_ (names ++ [name]) = .ok l ↔
      ∃ dir, t.walk at_ names = .ok dir ∧ t.get? dir = some .directory ∧ step dir name = l := by
  induction names generalizing at_ with
  | nil =>
      rw [List.nil_append, walk_cons_eq_ok_iff]
      simp only [walk, Except.ok.injEq]
      constructor
      · rintro ⟨hat, hstep⟩
        exact ⟨at_, rfl, hat, hstep⟩
      · rintro ⟨dir, rfl, hdir, hstep⟩
        exact ⟨hdir, hstep⟩
  | cons other names ih =>
      simp only [List.cons_append, walk_cons_eq_ok_iff, ih, and_assoc, exists_and_left]

end Tree

namespace Disk

variable {d d' d'' : Disk} {changed changed' : Location → Prop}

namespace KeepsBut

theorem refl (d : Disk) : KeepsBut changed d d := ⟨rfl, fun _ _ _ => Iff.rfl, fun _ h => h⟩

theorem mono (hsub : ∀ l, changed l → changed' l) (h : KeepsBut changed d d') :
    KeepsBut changed' d d' :=
  ⟨h.here, fun l hl => h.files l (mt (hsub l) hl), h.directories⟩

theorem trans (h : KeepsBut changed d d') (h' : KeepsBut changed d' d'') :
    KeepsBut changed d d'' where
  here := h'.here.trans h.here
  files l hl content := (h'.files l hl content).trans (h.files l hl content)
  directories l hl := h'.directories l (h.directories l hl)

/-- What is done at a location where there is no directory. -/
theorem of_location {at_ : Location} {t : Tree} (hat : d.tree.get? at_ ≠ some .directory)
    (hother : ∀ l, l ≠ at_ → t.get? l = d.tree.get? l) :
    KeepsBut (· = at_) d { d with tree := t } where
  here := rfl
  files l hl content := by
    rw [hother l hl]
  directories l hl := by
    rw [hother l, hl]
    rintro rfl
    exact hat hl

/-- Where names lead through directories, they still do. -/
theorem walk (h : KeepsBut changed d d') {at_ l : Location} {names : List (List Char)}
    (hwalk : d.tree.walk at_ names = .ok l) : d'.tree.walk at_ names = .ok l := by
  induction names generalizing at_ with
  | nil => exact hwalk
  | cons name names ih =>
      obtain ⟨hat, hwalk⟩ := Tree.walk_cons_eq_ok_iff.mp hwalk
      exact Tree.walk_cons_eq_ok_iff.mpr ⟨h.directories at_ hat, ih hwalk⟩

theorem locate (h : KeepsBut changed d d') {p : Path} {l : Location} (hlocate : d.locate p = .ok l) :
    d'.locate p = .ok l := by
  unfold Disk.locate at hlocate ⊢
  split at hlocate
  · cases hlocate
  · rename_i hp
    rw [if_neg hp, h.here]
    exact h.walk hlocate

end KeepsBut

theorem keepsBut_of_createDirectory {p : Path} (h : d.createDirectory p = .ok d') :
    KeepsBut (fun _ => False) d d' := by
  obtain ⟨at_, -, h⟩ := Outcome.bind_eq_ok_iff.mp h
  cases hname : endsInName p with
  | false =>
      rw [hname] at h
      cases h
  | true =>
      rw [hname] at h
      cases hat : d.tree.get? at_ with
      | some entry =>
          simp only [hat] at h
          cases h
      | none =>
          simp only [hat] at h
          cases h
          have hdirectory : d.tree.get? at_ ≠ some .directory := by simp [hat]
          have hput := KeepsBut.of_location hdirectory fun l hl => Tree.get?_put_of_ne d.tree .directory hl
          refine ⟨rfl, ?_, hput.directories⟩
          intro l _ content
          by_cases hl : l = at_
          · rw [hl, Tree.get?_put_self _ _ (Tree.ne_nil_of_get? hdirectory), hat]
            simp
          · exact hput.files l hl content

theorem write_eq_ok_iff {p : Path} {content : String} :
    d.write p content = .ok d' ↔ ∃ at_, d.locate p = .ok at_ ∧ p.tail = [] ∧ endsInName p = true ∧
      d.tree.get? at_ ≠ some .directory ∧
      d' = { d with tree := d.tree.put at_ (.file content) } := by
  unfold write
  rw [Outcome.bind_eq_ok_iff]
  apply exists_congr
  intro at_
  apply and_congr_right
  intro _
  cases htail : p.tail with
  | cons c rest => simp
  | nil =>
      cases hname : endsInName p with
      | false => simp
      | true =>
          simp only [List.isEmpty_nil, Bool.not_true, Bool.or_self, Bool.false_eq_true, if_false, true_and]
          split
          · rename_i hat
            simp [hat]
          · rename_i hat
            rw [Outcome.pure_eq_ok_iff, eq_comm]
            exact ⟨fun heq => ⟨hat, heq⟩, And.right⟩

/-- A file is moved unless separators follow the new name or a directory has it. -/
theorem rename_eq {source target : Path} {old new : Location} {content : String}
    (hold : d.locate source = .ok old) (hnew : d.locate target = .ok new)
    (hsource : endsInName source = true) (htarget : endsInName target = true) (htail : source.tail = [])
    (hfile : d.tree.get? old = some (.file content)) :
    d.rename source target =
      if target.tail ≠ [] then .error .notDirectory
      else if d.tree.get? new = some .directory then .error .isDirectory
      else .ok { d with tree := (d.tree.erase old).put new (.file content) } := by
  unfold rename
  rw [hold, hnew]
  simp only [Outcome.ok_bind, hsource, htarget, hfile, htail]
  cases target.tail with
  | cons c rest => rfl
  | nil =>
      by_cases hdirectory : d.tree.get? new = some .directory
      · simp only [if_pos hdirectory]
        rfl
      · simp only [if_neg hdirectory]
        rfl

theorem keepsBut_of_write {p : Path} {content : String} (h : d.write p content = .ok d') :
    KeepsBut (fun l => d.locate p = .ok l) d d' := by
  obtain ⟨at_, hat, -, -, hdirectory, rfl⟩ := write_eq_ok_iff.mp h
  have hput := KeepsBut.of_location hdirectory fun l hl => Tree.get?_put_of_ne d.tree (.file content) hl
  apply hput.mono
  rintro l rfl
  exact hat

theorem keepsBut_move {old new : Location} (hold : d.tree.get? old ≠ some .directory)
    (hnew : d.tree.get? new ≠ some .directory) (content : String) :
    KeepsBut (fun l => l = new ∨ l = old) d
      { d with tree := (d.tree.erase old).put new (.file content) } := by
  have herase := KeepsBut.of_location hold fun l hl => Tree.get?_erase_of_ne d.tree hl
  have hnew' : (d.tree.erase old).get? new ≠ some .directory := by
    by_cases hsame : new = old
    · rw [hsame, Tree.get?_erase_self _ (Tree.ne_nil_of_get? hold)]
      simp
    · rwa [Tree.get?_erase_of_ne _ hsame]
  have hput := KeepsBut.of_location (d := { d with tree := d.tree.erase old }) hnew'
    fun l hl => Tree.get?_put_of_ne (d.tree.erase old) (.file content) hl
  exact (herase.mono fun l hl => .inr hl).trans (hput.mono fun l hl => .inl hl)

/-- All files stay as they are, whatever comes of it. -/
def Spares {α : Type} (x : StateM Disk α) : Prop := ∀ d, KeepsBut (fun _ => False) d (x d).2

theorem Spares.pure {α : Type} (a : α) : Spares (Pure.pure a) := fun d => .refl d

theorem Spares.bind {α β : Type} {x : StateM Disk α} {f : α → StateM Disk β} (hx : Spares x)
    (hf : ∀ a, Spares (f a)) : Spares (x >>= f) :=
  fun d => (hx d).trans (hf (x d).1 (x d).2)

theorem spares_attempt {f : Disk → Except Flaw Disk}
    (hf : ∀ d d', f d = .ok d' → KeepsBut (fun _ => False) d d') : Spares (attempt f) := by
  intro d
  unfold attempt
  split
  · rename_i d' h
    exact hf d d' h
  · exact .refl d

theorem spares_keep (p : Path) (x : Except Flaw Unit) : Spares (Store.createFirst.keep store p x) := by
  unfold Store.createFirst.keep
  split
  · exact .pure _
  · apply Spares.bind
    · exact fun d => .refl d
    · intro isDirectory
      split
      · exact .pure _
      · exact .pure _

theorem spares_createFirst (ps : List Path) : Spares (store.createFirst ps) := by
  have hcreate : ∀ p, Spares (store.createDirectory p) := fun p =>
    spares_attempt fun d d' => keepsBut_of_createDirectory
  induction ps with
  | nil => exact .pure _
  | cons p above ih =>
      unfold Store.createFirst
      apply (hcreate p).bind
      intro first
      split
      · exact .pure _
      · apply ih.bind
        intro parents
        split
        · exact .pure _
        · exact (hcreate p).bind (spares_keep p)
      · exact spares_keep p _

/-! ### Replacing a file -/

theorem endsInName_iff {p : Path} {init : List (List Char × List Char)} {gap name : List Char}
    (h : p.steps = init ++ [(gap, name)]) :
    endsInName p = true ↔ ¬(name = ['.', '.'] ∨ name = ['.']) := by
  simp [endsInName, Path.names, h, and_comm]

/-- A path whose temporary name can be written ends in a name itself. -/
theorem exists_of_endsInName_temporary {p : Path} (h : endsInName p.temporary = true) :
    ∃ init gap name, p.steps = init ++ [(gap, name)] ∧ endsInName p = true ∧
      p.temporary = { p with steps := init ++ [(gap, Path.stem name ++ ".tmp".toList)], tail := [] } := by
  unfold Path.temporary at h ⊢
  cases hlast : p.steps.getLast? with
  | none =>
      rw [hlast] at h
      simp [endsInName, Path.names, hlast] at h
  | some step =>
      obtain ⟨gap, name⟩ := step
      obtain ⟨init, hsteps⟩ := List.getLast?_eq_some_iff.mp hlast
      rw [hlast] at h
      simp only [Bool.or_eq_true, decide_eq_true_eq] at h ⊢
      by_cases hdots : name = ['.', '.'] ∨ name = ['.']
      · rw [if_pos hdots] at h
        exact absurd hdots ((endsInName_iff hsteps).mp h)
      · rw [if_neg hdots]
        refine ⟨init, gap, name, hsteps, (endsInName_iff hsteps).mpr hdots, ?_⟩
        rw [hsteps, List.dropLast_concat]

theorem exists_locate_of_siblings {p q : Path} {init : List (List Char × List Char)}
    {last last' : List Char × List Char} (hp : p.steps = init ++ [last]) (hq : q.steps = init ++ [last'])
    (hrooted : q.rooted = p.rooted) {l : Location} (hlocate : d.locate q = .ok l) :
    ∃ l', d.locate p = .ok l' := by
  unfold locate at hlocate ⊢
  split at hlocate
  · cases hlocate
  · rw [if_neg (by simp [Path.isEmpty, hp])]
    rw [Path.names, hq, List.map_append, List.map_singleton, hrooted] at hlocate
    obtain ⟨dir, hdir, hdirectory, -⟩ := Tree.walk_append_singleton_eq_ok_iff.mp hlocate
    refine ⟨Tree.step dir last.2, ?_⟩
    rw [Path.names, hp, List.map_append, List.map_singleton]
    exact Tree.walk_append_singleton_eq_ok_iff.mpr ⟨dir, hdir, hdirectory, rfl⟩

/-- The temporary file was the only other one to change, and it is moved away. -/
theorem replaced_of_move {written : Disk} {p : Path} {old new : Location} {content : String}
    (hkeeps : d.KeepsBut (· = old) written) (hold : written.locate p.temporary = .ok old)
    (hnew : written.locate p = .ok new) (htail : p.tail = [])
    (hfile : written.tree.get? old ≠ some .directory)
    (hdirectory : written.tree.get? new ≠ some .directory) :
    d.Replaced { written with tree := (written.tree.erase old).put new (.file content) } p content := by
  have hmove := keepsBut_move hfile hdirectory content
  have hold' := hmove.locate hold
  have hnew' := hmove.locate hnew
  constructor
  case read =>
    simp [Disk.read, hnew', Tree.get?_put_self _ _ (Tree.ne_nil_of_get? hdirectory), htail]
  case keeps =>
    rw [hold', hnew']
    have hboth := (hkeeps.mono fun l hl => Or.inr hl).trans hmove
    apply hboth.mono
    rintro l (rfl | rfl)
    · exact .inl rfl
    · exact .inr rfl
  case free =>
    intro l hl hne
    rw [hold'] at hl
    rw [hnew'] at hne
    cases hl
    have hother : old ≠ new := fun heq => hne (heq ▸ rfl)
    dsimp only
    rw [Tree.get?_put_of_ne _ _ hother, Tree.get?_erase_self _ (Tree.ne_nil_of_get? hfile)]

theorem settles_rename {p : Path} {content : String} {written : Disk}
    (hwrite : d.write p.temporary content = .ok written) :
    Settles d p content
      ((store.rename p.temporary p written).1.mapError (WriteFailure.mk p),
        (store.rename p.temporary p written).2) := by
  obtain ⟨old, hold, htail, hends, hdirectory, hput⟩ := write_eq_ok_iff.mp hwrite
  obtain ⟨init, gap, name, hsteps, hends', htemporary⟩ := exists_of_endsInName_temporary hends
  have hkeeps := keepsBut_of_write hwrite
  obtain ⟨new, hnew⟩ : ∃ new, d.locate p = .ok new :=
    exists_locate_of_siblings hsteps (by rw [htemporary]) (by rw [htemporary]) hold
  have hfile : written.tree.get? old = some (.file content) := by
    rw [hput]
    exact Tree.get?_put_self _ _ (Tree.ne_nil_of_get? hdirectory)
  have hrename := rename_eq (hkeeps.locate hold) (hkeeps.locate hnew) hends hends' htail hfile
  have hsame : d.KeepsBut (fun l => written.locate p.temporary = .ok l) written :=
    hkeeps.mono fun l hl => hkeeps.locate hl
  by_cases htail' : p.tail ≠ []
  · rw [if_pos htail'] at hrename
    have hrun : store.rename p.temporary p written = (.error .notDirectory, written) := by
      simp [store, attempt, hrename]
    rw [hrun]
    exact .inr ⟨.inl htail', hsame⟩
  · rw [if_neg htail'] at hrename
    by_cases hdirectory' : written.tree.get? new = some .directory
    · rw [if_pos hdirectory'] at hrename
      have hrun : store.rename p.temporary p written = (.error .isDirectory, written) := by
        simp [store, attempt, hrename]
      rw [hrun]
      refine .inr ⟨.inr ?_, hsame⟩
      simp [isDirectory, hkeeps.locate hnew, hdirectory']
    · rw [if_neg hdirectory'] at hrename
      have hrun : store.rename p.temporary p written =
          (.ok (), { written with tree := (written.tree.erase old).put new (.file content) }) := by
        simp [store, attempt, hrename]
      rw [hrun]
      have hkeeps' : d.KeepsBut (· = old) written := hkeeps.mono fun l hl => by
        rw [hold] at hl
        exact (Except.ok.inj hl).symm
      exact replaced_of_move hkeeps' (hkeeps.locate hold) (hkeeps.locate hnew) (not_not.mp htail')
        (by simp [hfile]) hdirectory'

theorem Settles.of_keepsBut {p : Path} {content : String} {r : Except WriteFailure Unit × Disk}
    (hkeeps : KeepsBut (fun _ => False) d d') (h : Settles d' p content r) : Settles d p content r := by
  obtain ⟨outcome, d''⟩ := r
  cases outcome with
  | ok _ =>
      refine ⟨h.read, ?_, h.free⟩
      exact (hkeeps.mono fun _ => False.elim).trans h.keeps
  | error _ =>
      rcases h with h | ⟨hrefused, h⟩
      · exact .inl (hkeeps.trans h)
      · exact .inr ⟨hrefused, (hkeeps.mono fun _ => False.elim).trans h⟩

theorem run_bind {α β : Type} (x : ExceptT WriteFailure (StateM Disk) α)
    (f : α → ExceptT WriteFailure (StateM Disk) β) (d : Disk) :
    (x >>= f).run d =
      match x.run d with
      | (.ok a, d') => (f a).run d'
      | (.error e, d') => (.error e, d') := by
  change (x.run >>= ExceptT.bindCont f) d = _
  rcases h : x.run d with ⟨_ | _, d'⟩
  · simp only [bind, StateT.bind, h]
    rfl
  · simp only [bind, StateT.bind, h]
    rfl

theorem run_atPath (q : Path) (x : StateM Disk (Except Flaw Unit)) (d : Disk) :
    (Store.atPath q x).run d = ((x d).1.mapError (WriteFailure.mk q), (x d).2) := rfl

theorem settles_write_rename (d : Disk) (p : Path) (content : String) :
    Settles d p content ((do
      Store.atPath p.temporary (store.write p.temporary content)
      Store.atPath p (store.rename p.temporary p) : ExceptT WriteFailure (StateM Disk) Unit).run d) := by
  rw [run_bind, run_atPath]
  cases hwrite : d.write p.temporary content with
  | error flaw =>
      have hrun : store.write p.temporary content d = (.error flaw, d) := by
        simp [store, attempt, hwrite]
      rw [hrun]
      exact .inl (.refl d)
  | ok written =>
      have hrun : store.write p.temporary content d = (.ok (), written) := by
        simp [store, attempt, hwrite]
      rw [hrun]
      exact settles_rename hwrite

/-- Writing a file replaces it and no other one, or leaves the files as they were. -/
theorem settles_replaceFile (d : Disk) (p : Path) (content : String) :
    Settles d p content ((store.replaceFile p content).run d) := by
  unfold Store.replaceFile
  split
  · rename_i parent _
    have hparents := spares_createFirst parent.ancestors d
    rw [run_bind, run_atPath]
    unfold Store.createDirectories
    rcases hrun : store.createFirst parent.ancestors d with ⟨flaw | _, d'⟩
    · rw [hrun] at hparents
      exact .inl hparents
    · rw [hrun] at hparents
      exact (settles_write_rename d' p content).of_keepsBut hparents
  · exact settles_write_rename d p content

/-- A file that has the temporary name of another one does not outlive the other's replacement, and the
temporary file outlives the replacement of a directory, which is refused. -/
theorem not_files_unchanged_of_temporary :
    (¬ ∀ (d : Disk) (p : Path) (content : String),
      match (store.replaceFile p content).run d with
      | (.ok _, d') => d'.read p = .ok content ∧
          ∀ l, d'.locate p ≠ .ok l → ∀ text, d.tree.get? l = some (.file text) →
            d'.tree.get? l = some (.file text)
      | (.error _, d') => KeepsBut (fun _ => False) d d') ∧
    ¬ ∀ (d : Disk) (p : Path) (content : String),
      match (store.replaceFile p content).run d with
      | (.ok _, _) => True
      | (.error _, d') => ∀ l text, d'.tree.get? l = some (.file text) →
          ∃ text', d.tree.get? l = some (.file text') := by
  constructor
  · intro h
    let notes : Location := ["lib.tmp".toList]
    let library : Path := { steps := [([], "lib.rs".toList)] }
    have hlibrary := h { tree := [(notes, .file "notes")] } library "x"
    have hrun : (store.replaceFile library "x").run { tree := [(notes, .file "notes")] } =
        (.ok (), { tree := [(["lib.rs".toList], .file "x")] }) := by
      rfl
    rw [hrun] at hlibrary
    have hnotes := hlibrary.2 notes (by decide) "notes" (by decide)
    revert hnotes
    decide
  · intro h
    let crate : Location := ["lib.rs".toList]
    let library : Path := { steps := [([], "lib.rs".toList)] }
    have hlibrary := h { tree := [(crate, .directory)] } library "x"
    have hrun : (store.replaceFile library "x").run { tree := [(crate, .directory)] } =
        (.error ⟨library, .isDirectory⟩,
          { tree := [(crate, .directory), (["lib.tmp".toList], .file "x")] }) := by
      rfl
    rw [hrun] at hlibrary
    obtain ⟨text, htext⟩ := hlibrary ["lib.tmp".toList] "x" (by decide)
    have hfree : Tree.get? [(crate, .directory)] ["lib.tmp".toList] = none := by decide
    rw [hfree] at htext
    cases htext

end Disk

end Vmodl.Files
