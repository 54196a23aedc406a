import Vmodl.Proofs.Decoding
import Vmodl.Proofs.Tables
import Vmodl.Proofs.Values
import Vmodl.Session.Basic

/-!
# Arguments on the wire

A call with arguments hands one object to the transport: the target, then the arguments in their order.
Whatever the caller puts under the name of the target is dropped, and so are the members that belong to
the caller alone, at any depth. All else arrives where it stood.
-/

namespace Vmodl

namespace Json

/-- The step from a value to one of its parts. -/
inductive Step where
  | member (name : String)
  | item (index : Nat)
deriving DecidableEq, Repr

def child? : Json → Step → Option Json
  | .object members, .member name => members.lookup name
  | .array items, .item index => items[index]?
  | _, _ => none

/-- The part of a value that a path leads to. -/
def at? (j : Json) : List Step → Option Json
  | [] => some j
  | step :: path => (j.child? step).bind fun part => at? part path

@[simp] theorem at?_nil (j : Json) : j.at? [] = some j := rfl

@[simp] theorem at?_cons (j : Json) (step : Step) (path : List Step) :
    j.at? (step :: path) = (j.child? step).bind fun part => part.at? path := rfl

/-- The second value is the first one without the members of a name, at any depth. Its items, and the
members that are left, are as many as they were and in the same order. -/
inductive Without (name : String) : Json → Json → Prop
  | null : Without name .null .null
  | bool (b : Bool) : Without name (.bool b) (.bool b)
  | number (n : Number) : Without name (.number n) (.number n)
  | string (s : String) : Without name (.string s) (.string s)
  | array {items items' : List Json} (hlength : items.length = items'.length)
      (hitems : ∀ j j', (j, j') ∈ items.zip items' → Without name j j') :
      Without name (.array items) (.array items')
  | object {members members' : Members}
      (hnames : (Members.erase members name).map Prod.fst = members'.map Prod.fst)
      (hvalues : ∀ m m', (m, m') ∈ (Members.erase members name).zip members' →
        Without name m.2 m'.2) :
      Without name (.object members) (.object members')

end Json

open Wire

/-- What an element stands beside in a list and the list of its images is its image. -/
theorem mem_and_eq_of_mem_zip_map {α β : Type*} {l : List α} {f : α → β} {a : α} {b : β}
    (h : (a, b) ∈ l.zip (l.map f)) : a ∈ l ∧ b = f a := by
  have hzip : l.zip (l.map f) = l.map fun a => (a, f a) := by
    simpa using List.zip_map' (f := id) (g := f) (l := l)
  rw [hzip] at h
  obtain ⟨_, hmem, heq⟩ := List.mem_map.mp h
  cases heq
  exact ⟨hmem, rfl⟩

namespace Session

theorem sanitizeItems_eq (items : List Json) : sanitizeItems items = items.map sanitize := by
  induction items with
  | nil => rfl
  | cons j rest ih => rw [sanitizeItems, ih, List.map_cons]

theorem sanitizeMembers_eq (members : Json.Members) : sanitizeMembers members =
    (Json.Members.erase members connectionKey).map fun m => (m.1, sanitize m.2) := by
  induction members with
  | nil => rfl
  | cons m rest ih =>
      obtain ⟨name, j⟩ := m
      by_cases hname : name = connectionKey
      · simp [sanitizeMembers, Json.Members.erase, hname, ih]
      · simp [sanitizeMembers, Json.Members.erase, hname, ih]

theorem map_fst_sanitizeMembers (members : Json.Members) :
    (sanitizeMembers members).map Prod.fst = (Json.Members.erase members connectionKey).map Prod.fst := by
  rw [sanitizeMembers_eq, List.map_map]
  rfl

theorem without_sanitize (j : Json) : Json.Without connectionKey j (sanitize j) := by
  induction j using Json.nestedInduction with
  | null => exact .null
  | bool b => exact .bool b
  | number n => exact .number n
  | string s => exact .string s
  | array items ih =>
      rw [sanitize, sanitizeItems_eq]
      refine .array (List.length_map _).symm fun j j' hj => ?_
      obtain ⟨hmem, rfl⟩ := mem_and_eq_of_mem_zip_map hj
      exact ih j hmem
  | object members ih =>
      rw [sanitize]
      refine .object (map_fst_sanitizeMembers members).symm fun m m' hm => ?_
      rw [sanitizeMembers_eq] at hm
      obtain ⟨hmem, rfl⟩ := mem_and_eq_of_mem_zip_map hm
      exact ih m (List.mem_filter.mp hmem).1

theorem not_contains_sanitize (j : Json) : ¬(sanitize j).Contains connectionKey := by
  induction j using Json.nestedInduction with
  | null => intro h; cases h
  | bool b => intro h; cases h
  | number n => intro h; cases h
  | string s => intro h; cases h
  | array items ih =>
      rw [sanitize, sanitizeItems_eq]
      rintro (_ | ⟨hj, h⟩)
      obtain ⟨j, hmem, rfl⟩ := List.mem_map.mp hj
      exact ih j hmem h
  | object members ih =>
      rw [sanitize]
      rintro (hname | _ | ⟨hm, h⟩)
      · rw [map_fst_sanitizeMembers, Json.Members.erase] at hname
        obtain ⟨m, hm, hname⟩ := List.mem_map.mp hname
        simp [hname] at hm
      · rw [sanitizeMembers_eq] at hm
        obtain ⟨m, hmem, rfl⟩ := List.mem_map.mp hm
        exact ih m (List.mem_filter.mp hmem).1 h

theorem lookup_sanitizeMembers {name : String} (hname : name ≠ connectionKey) (members : Json.Members) :
    (sanitizeMembers members).lookup name = (members.lookup name).map sanitize := by
  induction members with
  | nil => rfl
  | cons m rest ih =>
      obtain ⟨n, j⟩ := m
      by_cases hn : n = connectionKey
      · have hbeq : (name == n) = false := beq_false_of_ne (hn ▸ hname)
        rw [sanitizeMembers, if_pos hn, ih, List.lookup_cons, hbeq]
      · rw [sanitizeMembers, if_neg hn, List.lookup_cons, List.lookup_cons, ih]
        split <;> rfl

theorem child?_sanitize {step : Json.Step} (hstep : step ≠ .member connectionKey) (j : Json) :
    (sanitize j).child? step = (j.child? step).map sanitize := by
  cases j with
  | object members =>
      cases step with
      | member name =>
          have hname : name ≠ connectionKey := fun h => hstep (h ▸ rfl)
          exact lookup_sanitizeMembers hname members
      | item index => rfl
  | array items =>
      cases step with
      | member name => rfl
      | item index => rw [sanitize, sanitizeItems_eq, Json.child?, List.getElem?_map, Json.child?]
  | null => cases step <;> rfl
  | bool b => cases step <;> rfl
  | number n => cases step <;> rfl
  | string s => cases step <;> rfl

theorem at?_sanitize {path : List Json.Step} (hpath : .member connectionKey ∉ path) (j : Json) :
    (sanitize j).at? path = (j.at? path).map sanitize := by
  induction path generalizing j with
  | nil => rfl
  | cons step path ih =>
      rw [List.mem_cons, not_or] at hpath
      rw [Json.at?_cons, Json.at?_cons, child?_sanitize (Ne.symm hpath.1), Option.bind_map,
        Option.map_bind]
      congr 1
      funext part
      exact ih hpath.2 part

/-! ### Calls with arguments -/

def afterCall (s : Session) (method : String) (parameters : Json) : Session :=
  { s with transport := { s.transport with
      pending := s.transport.pending.tail
      log := s.transport.log ++ [.call method parameters] } }

@[simp] theorem token_afterCall (s : Session) (method : String) (parameters : Json) :
    (s.afterCall method parameters).token = s.token := rfl

@[simp] theorem log_afterCall (s : Session) (method : String) (parameters : Json) :
    (s.afterCall method parameters).transport.log = s.transport.log ++ [.call method parameters] := rfl

theorem exec_snd (method : String) (parameters : Json) (s : Session) :
    (exec method parameters s).2 = s.afterCall method (sanitize parameters) := by
  unfold exec Transport.call afterCall
  cases s.transport.pending with
  | nil => rfl
  | cons answer rest => cases answer <;> rfl

/-- Calls a method of a target with arguments. Arguments that have no names are refused. -/
def request (t : Target) (method : String) (arguments : Json) : Action Reply := fun s =>
  match t.withArguments arguments with
  | .error e => (.error e, s)
  | .ok parameters => exec method parameters s

/-- The members that are sent for arguments. The target comes first and the names of the arguments
follow in their order, without those that the caller has no say in; no member belongs to the caller, and
along a path that crosses none of the caller's own the same parts are found, without such members. -/
structure Carries (t : Target) (arguments sent : Json.Members) : Prop where
  target : sent.head? = some (thisField, t.toJson)
  names : sent.tail.map Prod.fst =
    (arguments.map Prod.fst).filter fun name => name ≠ thisField ∧ name ≠ connectionKey
  clean : ¬(Json.object sent).Contains connectionKey
  kept : ∀ name path, name ≠ thisField → .member connectionKey ∉ Json.Step.member name :: path →
    Option.Rel (Json.Without connectionKey) ((Json.object arguments).at? (.member name :: path))
      ((Json.object sent).at? (.member name :: path))

theorem sanitize_target (t : Target) : sanitize t.toJson = t.toJson := by
  cases t with
  | root name => rfl
  | managed reference => rfl

theorem sanitize_withMembers (t : Target) (arguments : Json.Members) :
    sanitize (t.withMembers arguments) =
      .object ((thisField, t.toJson) :: sanitizeMembers (Json.Members.erase arguments thisField)) := by
  have hthis : ¬thisField = connectionKey := by decide
  rw [Target.withMembers, sanitize, sanitizeMembers, if_neg hthis, sanitize_target]

theorem names_sanitizeMembers_erase (arguments : Json.Members) :
    (sanitizeMembers (Json.Members.erase arguments thisField)).map Prod.fst =
      (arguments.map Prod.fst).filter fun name => name ≠ thisField ∧ name ≠ connectionKey := by
  rw [map_fst_sanitizeMembers, Json.Members.erase, Json.Members.erase, List.filter_filter,
    List.filter_map]
  congr 1
  refine List.filter_congr fun m _ => ?_
  simp [bne, Bool.beq_eq_decide_eq, Bool.and_comm]

/-- Under any other name than that of the target the parameters hold what the arguments do. -/
theorem at?_withMembers (t : Target) (arguments : Json.Members) {name : String}
    (hname : name ≠ thisField) (path : List Json.Step) :
    (t.withMembers arguments).at? (.member name :: path) =
      (Json.object arguments).at? (.member name :: path) := by
  have hbeq : (name == thisField) = false := beq_false_of_ne hname
  have herase : (Json.Members.erase arguments thisField).lookup name = arguments.lookup name :=
    (Table.lookup_erase arguments thisField name).trans (if_neg hname)
  simp only [Json.at?_cons, Target.withMembers, Json.child?, List.lookup_cons, hbeq, herase]

theorem carries_sanitizeMembers (t : Target) (arguments : Json.Members) :
    Carries t arguments
      ((thisField, t.toJson) :: sanitizeMembers (Json.Members.erase arguments thisField)) where
  target := rfl
  names := names_sanitizeMembers_erase arguments
  clean := by
    rw [← sanitize_withMembers]
    exact not_contains_sanitize _
  kept name path hname hpath := by
    rw [← sanitize_withMembers, at?_sanitize hpath, at?_withMembers t arguments hname]
    cases (Json.object arguments).at? (.member name :: path) with
    | none => exact .none
    | some part => exact .some (without_sanitize part)

/-- One call goes out, for arguments that are an object, or null for none. -/
theorem request_carries (t : Target) (method : String) (a : Json) (s : Session) :
    (∀ arguments, a = .object arguments ∨ a = .null ∧ arguments = [] →
      ∃ sent, Carries t arguments sent ∧ (request t method a s).2.transport.log =
        s.transport.log ++ [.call method (.object sent)]) ∧
    ((∀ members, a ≠ .object members) → a ≠ .null →
      request t method a s = (.error (.invalidParameters a), s)) := by
  constructor
  · intro arguments ha
    refine ⟨_, carries_sanitizeMembers t arguments, ?_⟩
    have hrequest : request t method a s = exec method (t.withMembers arguments) s := by
      rcases ha with rfl | ⟨rfl, rfl⟩
      · rfl
      · rfl
    rw [hrequest, exec_snd, log_afterCall, sanitize_withMembers]
  · intro hobject hnull
    cases a with
    | object members => exact absurd rfl (hobject members)
    | null => exact absurd rfl hnull
    | _ => rfl

example : (request (.root "ServiceInstance") "CreateAlarm"
      (.object [("connection", .bool true), ("_this", .string "vm-1"),
        ("spec", .object [("connection", .null), ("items", .array [.object [("connection", .null)]])])])
      { rootType := "ServiceInstance", debug := false, registry := .empty,
        transport := { pending := [] } }).2.transport.log =
    [.call "CreateAlarm" (.object [("_this", .string "ServiceInstance"),
      ("spec", .object [("items", .array [.object []])])])] := rfl

end Session

end Vmodl
