import Vmodl.Proofs.Boxing
import Vmodl.Proofs.Unresolved

/-!
# Lists and lone values

A list is reconstructed element by element. A lone value counts as a list of one under the key of a list
of anything but lists. The key of a list of lists loses one marker only for a lone value, which is then
read as a value of the type that has the rest of the key for its name. Where there is no such type the
value stays undecoded.
-/

namespace Vmodl

open Wire

namespace Wire

variable {r : Registry} {key : String}

theorem eq_append_of_stripArray? {itemKey : String} (h : stripArray? key = some itemKey) :
    key = itemKey ++ arrayMarker := by
  unfold stripArray? at h
  split at h
  · rename_i rest hreverse
    cases h
    rw [List.reverse_eq_iff] at hreverse
    rw [← String.toList_inj, hreverse]
    simp [arrayMarker]
  · cases h

/-- Of a key only the name without its last marker counts for a value that is read at once. -/
theorem decode_congr_stripArray {key' : String} (hkey : key ≠ "") (hkey' : key' ≠ "")
    (h : stripArray key = stripArray key') {j : Json} (hj : Single j) :
    decode r key j = decode r key' j := by
  by_cases hobject : ∃ members, j = .object members
  · obtain ⟨members, rfl⟩ := hobject
    simp only [decode, if_neg hkey, if_neg hkey', h]
  · have hatom : Atom j := ⟨hj, fun members hmembers => hobject ⟨members, hmembers⟩⟩
    rw [decode_of_atom hkey hatom, decode_of_atom hkey' hatom, h]

theorem not_list_of_decode_single {j : Json} (hj : Single j) {ds : List Decoded} :
    decode r key j ≠ .ok (.list ds) := by
  intro h
  cases mirrors_of_decode h with
  | list => exact hj.2 _ rfl

end Wire

namespace Client

variable {c : Client} {r : Registry} {key : String} {element : Shape}

/-- The elements of an array are reconstructed one by one under the key of an element, and the list is
there if all of them are. -/
structure Elementwise (c : Client) (r : Registry) (key : String) (element : Shape)
    (items : List Json) : Prop where
  succeeds : (∃ v, c.reconstruct r (key ++ arrayMarker) (.array items) (.list element) = .ok v) ↔
    ∀ j ∈ items, ∃ v, c.reconstruct r key j element = .ok v
  values : ∀ v, c.reconstruct r (key ++ arrayMarker) (.array items) (.list element) = .ok v ↔
    ∃ vs, List.Forall₂ (fun j v => c.reconstruct r key j element = .ok v) items vs ∧ .list vs = v

/-- A value and the array that holds nothing else are reconstructed as the same list, or neither is. -/
def CountsAsOne (c : Client) (r : Registry) (key : String) (element : Shape) (j : Json) : Prop :=
  (c.reconstruct r (key ++ arrayMarker) j (.list element)).toOption =
    (c.reconstruct r (key ++ arrayMarker) (.array [j]) (.list element)).toOption

theorem reconstruct_eq_ok_iff {j : Json} {shape : Shape} {v : Value} :
    c.reconstruct r key j shape = .ok v ↔ ∃ d, decode r key j = .ok d ∧ c.read d shape = .ok v :=
  Outcome.bind_eq_ok_iff

theorem reconstruct_array_eq_ok_iff {items : List Json} {v : Value} :
    c.reconstruct r (key ++ arrayMarker) (.array items) (.list element) = .ok v ↔
      ∃ vs, List.Forall₂ (fun j v => c.reconstruct r key j element = .ok v) items vs ∧
        .list vs = v := by
  simp only [reconstruct_eq_ok_iff, decode_array_eq_ok_iff (append_arrayMarker_ne_empty key),
    stripArray_append, ← Outcome.forall₂_comp_iff]
  constructor
  · rintro ⟨_, ⟨ds, hds, rfl⟩, hread⟩
    obtain ⟨vs, hvs, rfl⟩ := read_list_eq_ok_iff.mp hread
    exact ⟨vs, ⟨ds, hds, hvs⟩, rfl⟩
  · rintro ⟨vs, ⟨ds, hds, hvs⟩, rfl⟩
    exact ⟨.list ds, ⟨ds, hds, rfl⟩, read_list_eq_ok hvs⟩

theorem elementwise (items : List Json) : c.Elementwise r key element items where
  succeeds := by
    simp only [← Outcome.exists_mapM_eq_ok_iff, Outcome.mapM_eq_ok_iff, reconstruct_array_eq_ok_iff]
    constructor
    · rintro ⟨_, vs, hvs, _⟩
      exact ⟨vs, hvs⟩
    · rintro ⟨vs, hvs⟩
      exact ⟨.list vs, vs, hvs, rfl⟩
  values _ := reconstruct_array_eq_ok_iff

/-! ### Lone values -/

theorem reconstruct_lone {j : Json} (hj : Single j) :
    c.reconstruct r key j (.list element) =
      (c.reconstruct r key j element).map fun v => .list [v] := by
  rw [reconstruct, reconstruct]
  cases hd : decode r key j with
  | error e => rfl
  | ok d =>
      apply read_list_of_single
      · rintro rfl
        exact hj.1 (eq_null_of_decode hd)
      · rintro ds rfl
        exact not_list_of_decode_single hj hd

theorem reconstruct_array_one (j : Json) :
    c.reconstruct r (key ++ arrayMarker) (.array [j]) (.list element) =
      (c.reconstruct r key j element).map fun v => .list [v] := by
  have hdecode : decode r (key ++ arrayMarker) (.array [j]) =
      (decode r key j).map fun d => .list [d] := by
    refine (if_neg (append_arrayMarker_ne_empty key)).trans ?_
    rw [stripArray_append, decodeItems_cons]
    cases decode r key j <;> rfl
  rw [reconstruct, reconstruct, hdecode]
  cases decode r key j with
  | error e => rfl
  | ok d =>
      show c.read (.list [d]) (.list element) = (c.read d element).map fun v => .list [v]
      rw [read_list, List.mapM_cons, List.mapM_nil]
      cases c.read d element <;> rfl

/-- A lone value counts as one if the marker of the key makes no difference to how it is read. -/
theorem countsAsOne_iff {j : Json} (hj : Single j) :
    c.CountsAsOne r key element j ↔
      (c.reconstruct r (key ++ arrayMarker) j element).toOption =
        (c.reconstruct r key j element).toOption := by
  rw [CountsAsOne, reconstruct_lone hj, reconstruct_array_one]
  cases c.reconstruct r (key ++ arrayMarker) j element <;>
    cases c.reconstruct r key j element <;> simp [Except.map, Except.toOption]

/-- Arrays are reconstructed element by element under every key. A lone value counts as a list of one
under the key of a list of anything but lists. Under that of a list of lists it is left undecoded, and
counts as one if it is read the same nevertheless. -/
theorem elementwise_and_countsAsOne (hkey : key ≠ "") :
    (∀ items, c.Elementwise r key element items) ∧
      ∀ j, Single j →
        (c.CountsAsOne r key element j ↔
          (c.reconstruct r (key ++ arrayMarker) j element).toOption =
            (c.reconstruct r key j element).toOption) ∧
        (stripArray? key = none → c.CountsAsOne r key element j) ∧
        (stripArray? key ≠ none → ¬r.Knows key →
          c.reconstruct r (key ++ arrayMarker) j element = c.read (.scalar j) element) := by
  refine ⟨elementwise, fun j hj => ⟨countsAsOne_iff hj, fun hnone => ?_, fun hsome hknows => ?_⟩⟩
  · have hstrip : stripArray (key ++ arrayMarker) = stripArray key := by
      rw [stripArray_append, stripArray_of_isNone (by rw [hnone]; rfl)]
    rw [countsAsOne_iff hj, reconstruct, reconstruct,
      decode_congr_stripArray (append_arrayMarker_ne_empty key) hkey hstrip hj]
  · obtain ⟨itemKey, hitem⟩ := Option.ne_none_iff_exists'.mp hsome
    obtain rfl := eq_append_of_stripArray? hitem
    rw [← stripArray_append (itemKey ++ arrayMarker)] at hknows
    have hplain : PlainKey (stripArray (itemKey ++ arrayMarker ++ arrayMarker)) := by
      rw [stripArray_append]
      exact plainKey_append itemKey
    rw [reconstruct, decode_single_of_not_knows (append_arrayMarker_ne_empty _) hplain hknows hj]
    rfl

theorem elementwise_and_countsAsOne_ints :
    (∀ items, Elementwise ⟨[], [], []⟩ .builtins "int" (.primitive .int) items) ∧
      CountsAsOne ⟨[], [], []⟩ .builtins "int" (.primitive .int) (.string "5") ∧
      (stripArray? "int[]" ≠ none ∧ ¬Registry.builtins.Knows "int[]" ∧
        reconstruct ⟨[], [], []⟩ .builtins ("int[]" ++ arrayMarker) (.string "5")
            (.list (.primitive .int)) =
          read ⟨[], [], []⟩ (.scalar (.string "5")) (.list (.primitive .int))) := by
  have hsingle : Single (.string "5") := by simp [Single]
  have harray : stripArray? "int[]" ≠ none := by decide +kernel
  have hknows : ¬Registry.builtins.Knows "int[]" :=
    Registry.not_knows_of_no_child (by decide +kernel) (by decide +kernel)
  obtain ⟨hitems, hlone⟩ := @elementwise_and_countsAsOne ⟨[], [], []⟩ .builtins "int"
    (.primitive .int) (by decide)
  obtain ⟨-, hnested⟩ := @elementwise_and_countsAsOne ⟨[], [], []⟩ .builtins "int[]"
    (.list (.primitive .int)) (by decide)
  exact ⟨hitems, (hlone _ hsingle).2.1 (by decide +kernel), harray, hknows,
    (hnested _ hsingle).2.2 harray hknows⟩

def boxedFive : Json := box (.object []) (.number (.integer 5))

/-- A box is not opened under the key of a list of lists, but is in an array. -/
theorem not_countsAsOne_box :
    Single boxedFive ∧
      reconstruct ⟨[], [], []⟩ .builtins ("int[]" ++ arrayMarker) (.array [boxedFive])
        (.list (.list (.primitive .int))) = .ok (.list [.list [.integer 5]]) ∧
      ¬CountsAsOne ⟨[], [], []⟩ .builtins "int[]" (.list (.primitive .int)) boxedFive := by
  have harray : reconstruct ⟨[], [], []⟩ .builtins ("int[]" ++ arrayMarker) (.array [boxedFive])
      (.list (.list (.primitive .int))) = .ok (.list [.list [.integer 5]]) := rfl
  have hlone : (reconstruct ⟨[], [], []⟩ .builtins ("int[]" ++ arrayMarker) boxedFive
      (.list (.list (.primitive .int)))).toOption = none := rfl
  refine ⟨single_box _ _, harray, fun h => ?_⟩
  rw [CountsAsOne, hlone, harray] at h
  cases h

end Client

end Vmodl
