import Vmodl.Client.Module

/-!
# Layouts of a client's types

What a value of each named type holds: the texts of an enumeration, or the slots of a structure. A
structure has the slots of its parents first, from the root down.
-/

namespace Vmodl

/-- A place of a structure for one value. -/
structure Slot where
  ident : String
  wireName : String
  shape : Shape
  secret : Bool := false
  /-- Whether an empty list is left out of the written value. -/
  omitEmpty : Bool := false
deriving DecidableEq, Repr

/-- A record, or a handle. -/
structure StructType where
  name : TypeName
  wireName : String
  base : Option TypeName
  own : List Slot
deriving DecidableEq, Repr

structure EnumType where
  name : TypeName
  wireName : String
  variants : List (String × String)
deriving DecidableEq, Repr

structure Client where
  enums : List EnumType
  records : List StructType
  handles : List StructType
deriving DecidableEq, Repr

namespace Client

def builtinName (ident : String) : TypeName := ⟨true, ident⟩

def builtinRecords : List StructType := [
  ⟨builtinName "DataObject", "DataObject", none, []⟩,
  ⟨builtinName "DynamicData", "DynamicData", some (builtinName "DataObject"), []⟩,
  ⟨builtinName "MethodFault", "MethodFault", some (builtinName "DynamicData"),
    [{ ident := "fault_cause", wireName := "faultCause", shape := .option (.primitive .any) },
      { ident := "fault_message", wireName := "faultMessage", shape := .list (.primitive .any),
        omitEmpty := true }]⟩,
  ⟨builtinName "RuntimeFault", "RuntimeFault", some (builtinName "MethodFault"), []⟩]

def rootHandle : StructType :=
  ⟨builtinName ManagedItem.rootName, ManagedItem.rootName, none, []⟩

def ofModule (m : ClientModule) : Client where
  enums := m.enums.map fun e => ⟨⟨false, e.ident⟩, e.wireName, e.variants⟩
  records := builtinRecords ++ m.dataTypes.map fun d =>
    ⟨⟨false, d.ident⟩, d.wireName, d.base.bind (·.typeName?), d.members.map (slot · false)⟩
  handles := rootHandle :: m.managedTypes.map fun d =>
    ⟨⟨false, d.ident⟩, d.wireName, d.base.typeName?, d.members.map (slot · true)⟩
where
  slot (m : Member) (forceOption : Bool) : Slot :=
    { ident := m.ident, wireName := m.wireName, shape := m.shape forceOption, secret := m.secret }

def enum? (c : Client) (name : TypeName) : Option EnumType := c.enums.find? fun e => e.name == name

def record? (c : Client) (name : TypeName) : Option StructType :=
  c.records.find? fun t => t.name == name

def handle? (c : Client) (name : TypeName) : Option StructType :=
  c.handles.find? fun t => t.name == name

end Client

/-- A type and at most `steps` of its parents, the root first. -/
def StructType.chainWithin (types : List StructType) : Nat → TypeName → List StructType
  | steps, name =>
    match types.find? fun t => t.name == name with
    | none => []
    | some t =>
      match steps, t.base with
      | steps + 1, some base => chainWithin types steps base ++ [t]
      | _, _ => [t]

namespace StructType

variable {types : List StructType} {name : TypeName} {t : StructType}

theorem chainWithin_eq_nil (h : types.find? (fun t => t.name == name) = none) (steps : Nat) :
    chainWithin types steps name = [] := by
  rw [chainWithin, h]

theorem chainWithin_succ (h : types.find? (fun t => t.name == name) = some t) {base : TypeName}
    (hbase : t.base = some base) (n : Nat) :
    chainWithin types (n + 1) name = chainWithin types n base ++ [t] := by
  rw [chainWithin, h]
  simp only [hbase]

theorem chainWithin_of_find? (h : types.find? (fun t => t.name == name) = some t) (steps : Nat) :
    chainWithin types steps name = [t] ∨
      ∃ n base, steps = n + 1 ∧ t.base = some base ∧
        chainWithin types steps name = chainWithin types n base ++ [t] := by
  cases steps with
  | zero =>
      refine Or.inl ?_
      rw [chainWithin, h]
  | succ n =>
      cases hbase : t.base with
      | none =>
          refine Or.inl ?_
          rw [chainWithin, h]
          simp only [hbase]
      | some base => exact Or.inr ⟨n, base, rfl, rfl, chainWithin_succ h hbase n⟩

theorem chainWithin_suffix_succ (n : Nat) (name : TypeName) :
    chainWithin types n name <:+ chainWithin types (n + 1) name := by
  induction n using Nat.strongRecOn generalizing name with
  | ind n ih =>
      cases hfind : types.find? fun t => t.name == name with
      | none =>
          rw [chainWithin_eq_nil hfind]
          exact List.nil_suffix
      | some t =>
          rcases chainWithin_of_find? hfind n with heq | ⟨k, base, rfl, hbase, heq⟩
          · rw [heq]
            rcases chainWithin_of_find? hfind (n + 1) with heq' | ⟨_, _, _, _, heq'⟩
            · exact ⟨[], heq'.symm⟩
            · exact ⟨_, heq'.symm⟩
          · rw [heq, chainWithin_succ hfind hbase]
            obtain ⟨before, hbefore⟩ := ih k (Nat.lt_succ_self k) base
            refine ⟨before, ?_⟩
            rw [← hbefore, List.append_assoc]

/-- The chain of a parent is shorter, so no type is above itself. -/
def Rooted (types : List StructType) : Prop :=
  ∀ t ∈ types, ∀ base ∈ t.base, (chainWithin types types.length base).length <
    (chainWithin types types.length t.name).length

instance (types : List StructType) : Decidable (Rooted types) :=
  inferInstanceAs (Decidable (∀ t ∈ types, ∀ base ∈ t.base, _ < _))

-- A chain is never cut off: one more step would add to it, and it is longer than that of its parent by
-- one type at most.
theorem Rooted.chainWithin_eq (h : Rooted types)
    (hfind : types.find? (fun t => t.name == name) = some t) :
    chainWithin types types.length name = t.base.elim [] (chainWithin types types.length) ++ [t] := by
  have hmem : t ∈ types := List.mem_of_find?_eq_some hfind
  have hname : t.name = name := by simpa using List.find?_some hfind
  have hshorter := h t hmem
  rw [hname] at hshorter
  obtain ⟨n, hn⟩ : ∃ n, types.length = n + 1 :=
    Nat.exists_eq_succ_of_ne_zero (Nat.ne_of_gt (List.length_pos_of_mem hmem))
  cases hbase : t.base with
  | none =>
      rcases chainWithin_of_find? hfind types.length with heq | ⟨_, _, _, hsome, _⟩
      · exact heq
      · rw [hbase] at hsome
        cases hsome
  | some base =>
      have hlt := hshorter base hbase
      rw [hn, chainWithin_succ hfind hbase, List.length_append, List.length_singleton] at hlt
      have hchain := (chainWithin_suffix_succ n base).eq_of_length_le (Nat.le_of_lt_succ hlt)
      rw [hn, chainWithin_succ hfind hbase, hchain]
      rfl

end StructType

namespace Client

variable (c : Client)

/-- A record with its parents, the root first. -/
def recordChain (name : TypeName) : List StructType :=
  StructType.chainWithin c.records c.records.length name

/-- A handle with its parents, the root first. -/
def handleChain (name : TypeName) : List StructType :=
  StructType.chainWithin c.handles c.handles.length name

def recordSlots (name : TypeName) : List Slot := (c.recordChain name).flatMap (·.own)

def handleSlots (name : TypeName) : List Slot := (c.handleChain name).flatMap (·.own)

theorem recordSlots_eq (h : StructType.Rooted c.records) {name : TypeName} {t : StructType}
    (ht : c.record? name = some t) :
    c.recordSlots name = t.base.elim [] c.recordSlots ++ t.own := by
  rw [recordSlots, recordChain, h.chainWithin_eq ht, List.flatMap_append, List.flatMap_singleton]
  cases t.base <;> rfl

theorem handleSlots_eq (h : StructType.Rooted c.handles) {name : TypeName} {t : StructType}
    (ht : c.handle? name = some t) :
    c.handleSlots name = t.base.elim [] c.handleSlots ++ t.own := by
  rw [handleSlots, handleChain, h.chainWithin_eq ht, List.flatMap_append, List.flatMap_singleton]
  cases t.base <;> rfl

def recordKey (name : TypeName) : String := ((c.record? name).map (·.wireName)).getD name.ident

def handleKey (name : TypeName) : String := ((c.handle? name).map (·.wireName)).getD name.ident

end Client

end Vmodl
