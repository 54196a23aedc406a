import Vmodl.Client.Call
import Vmodl.Proofs.Arguments
import Vmodl.Proofs.Structures

/-!
# Calls of bound methods

A method of a handle makes one call, with its target and the arguments that are given, and its outcome is
what the answer is read as. The decoder has no part in it before there is a reply, and none at all where
the method has no result.
-/

namespace Vmodl

open Wire

theorem Failure.occurs_iff {part text : List Char} : occurs part text = true ↔ part <:+: text := by
  induction text with
  | nil => rw [occurs, List.isEmpty_iff, List.infix_nil]
  | cons c rest ih =>
      rw [occurs, Bool.or_eq_true, List.isPrefixOf_iff_prefix, ih, List.infix_cons_iff]

/-- What comes back from the next call. -/
def Session.nextAnswer (s : Session) : Answer := s.transport.pending.head?.getD .nothing

theorem Session.exec_fst (method : String) (parameters : Json) (s : Session) :
    (exec method parameters s).1 = match s.nextAnswer with
      | .reply reply => .ok reply
      | .nothing => .error (.noResult method)
      | .failed cause => .error (.ofTransport cause) := by
  unfold exec Transport.call nextAnswer
  cases s.transport.pending with
  | nil => rfl
  | cons answer rest => cases answer <;> rfl

/-- Values of the shape have no members in JSON but those of references. -/
def Shape.isPlain : Shape → Bool
  | .primitive p => p != .any
  | .named kind _ => kind != .data
  | .boxed inner | .list inner | .option inner => isPlain inner

theorem Reference.not_contains_toJson (reference : Reference) :
    ¬reference.toJson.Contains Session.connectionKey := by
  intro h
  have hkept : Session.sanitize reference.toJson = reference.toJson :=
    Session.sanitize_target (.managed reference)
  rw [← hkept] at h
  exact Session.not_contains_sanitize _ h

theorem Value.not_contains_toJson {c : Client} {shape : Shape} {v : Value} (hv : c.Holds shape v)
    (hplain : shape.isPlain = true) : ¬(v.toJson c).Contains Session.connectionKey := by
  induction hv with
  | single | double =>
      rw [toJson]
      unfold realJson
      split <;> exact nofun
  | any => cases hplain
  | record => cases hplain
  | handle => exact Reference.not_contains_toJson _
  | boxed _ ih => exact ih hplain
  | present _ ih => exact ih hplain
  | list _ ih =>
      rw [toJson, toJsonItems_eq]
      rintro (_ | ⟨hj, h⟩)
      obtain ⟨v, hv, rfl⟩ := List.mem_map.mp hj
      exact ih v hv hplain h
  | _ => exact nofun

theorem Json.Members.erase_of_not_mem {members : Json.Members} {name : String}
    (h : name ∉ members.map Prod.fst) : erase members name = members := by
  refine List.filter_eq_self.mpr fun m hm => bne_iff_ne.mpr ?_
  intro hname
  exact h (List.mem_map.mpr ⟨m, hm, hname⟩)

theorem Session.sanitize_of_not_contains {j : Json} (h : ¬j.Contains connectionKey) :
    sanitize j = j := by
  induction j using Json.nestedInduction with
  | null => rfl
  | bool b => rfl
  | number n => rfl
  | string s => rfl
  | array items ih =>
      rw [sanitize, sanitizeItems_eq]
      have hitems : ∀ j ∈ items, sanitize j = j := fun j hj => ih j hj fun hc => h (.item hj hc)
      exact congrArg Json.array ((List.map_congr_left hitems).trans (List.map_id items))
  | object members ih =>
      have hkept : Json.Members.erase members connectionKey = members :=
        Json.Members.erase_of_not_mem fun hname => h (.here hname)
      have hmembers : ∀ m ∈ members, (m.1, sanitize m.2) = m := fun m hm =>
        Prod.ext rfl (ih m hm fun hc => h (.member hm hc))
      rw [sanitize, sanitizeMembers_eq, hkept]
      exact congrArg Json.object ((List.map_congr_left hmembers).trans (List.map_id members))

def Value.isAbsent : Value → Bool
  | .absent => true
  | _ => false

theorem Client.isNullable_of_holds_absent {c : Client} {shape : Shape} (h : c.Holds shape .absent) :
    shape.isNullable = true := by
  generalize hv : Value.absent = v at h
  induction h with
  | absent => rfl
  | boxed _ ih => exact ih hv
  | _ => cases hv

theorem ResolvedType.isNullable_shape (t : ResolvedType) (boxed : Bool) :
    (t.shape boxed).isNullable = false := by
  cases t with
  | declared kind wireName builtin =>
      unfold shape
      split <;> rfl
  | _ => rfl

namespace Operation

variable {c : Client} {o : Operation} {values : List Value}

/-- The parameters that are given a value, with their values. -/
def given (parameters : List Member) (values : List Value) : List (Member × Value) :=
  (parameters.zip values).filter fun p => !p.2.isAbsent

/-- The values that are given, under the names of their parameters and in the order of these. -/
def givenMembers (c : Client) (o : Operation) (values : List Value) : Json.Members :=
  (given o.parameters values).map fun p => (p.1.wireName, p.2.toJson c)

/-- The parameters are named apart from the target and from what belongs to the caller, and their values
are sent as they are. -/
def Plain (o : Operation) : Prop :=
  ∀ m ∈ o.parameters, m.wireName ≠ thisField ∧ m.wireName ≠ Session.connectionKey ∧
    m.argumentShape.isPlain = true

instance (o : Operation) : Decidable o.Plain :=
  inferInstanceAs (Decidable (∀ m ∈ o.parameters, _))

/-- One call goes out, to the target and with the arguments that are given; its answer is the outcome. -/
structure Performs (c : Client) (o : Operation) (target : Json) (handle : String) (values : List Value)
    (s : Session) : Prop where
  sent : (o.call c handle values s).2 =
    s.afterCall o.wireName (.object ((thisField, target) :: o.givenMembers c values))
  nothing : s.nextAnswer = .nothing →
    (o.call c handle values s).1 = .error (.noResult o.wireName)
  rejected : ∀ cause, s.nextAnswer = .failed cause →
    Failure.loginRejected.toList <:+: cause.message.toList →
      (o.call c handle values s).1 = .error .authenticationRejected
  failed : ∀ cause, s.nextAnswer = .failed cause →
    ¬Failure.loginRejected.toList <:+: cause.message.toList →
      (o.call c handle values s).1 = .error (.transport cause)
  void : ∀ reply, s.nextAnswer = .reply reply → o.result.isVoid = true →
    (o.call c handle values s).1 = .ok .unit
  result : ∀ reply, s.nextAnswer = .reply reply → o.result.isVoid = false →
    (o.call c handle values s).1 = c.reconstruct s.registry o.result.key reply.result o.resultShape

theorem optional_of_holds_absent {m : Member} (h : c.Holds m.argumentShape .absent) :
    m.optional = true := by
  by_contra hoptional
  rw [Member.argumentShape, if_neg hoptional] at h
  have hnullable := Client.isNullable_of_holds_absent h
  rw [m.type.isNullable_shape] at hnullable
  cases hnullable

theorem arguments_eq {parameters : List Member}
    (h : List.Forall₂ (fun m v => c.Holds m.argumentShape v) parameters values) :
    arguments c parameters values =
      (given parameters values).map fun p => (p.1.wireName, p.2.toJson c) := by
  induction h with
  | nil => rfl
  | @cons m v parameters values hv _ ih =>
      rw [given, List.zip_cons_cons, List.filter_cons]
      cases v with
      | absent =>
          have hskip : arguments c (m :: parameters) (.absent :: values) =
              arguments c parameters values := by
            rw [arguments]
            exact optional_of_holds_absent hv
          rw [hskip, ih]
          rfl
      | _ =>
          rw [arguments, ih]
          · rfl
          · nofun

/-- Without parameters there are no arguments either. -/
theorem callParameters_eq (c : Client) (o : Operation) (handle : String) (values : List Value) :
    o.callParameters c handle values =
      (o.target handle).withMembers (arguments c o.parameters values) := by
  unfold callParameters
  split
  · rename_i hempty
    rw [List.isEmpty_iff.mp hempty]
    rfl
  · rfl

theorem call_eq (c : Client) (o : Operation) (handle : String) (values : List Value) (s : Session) :
    o.call c handle values s =
      ((Session.exec o.wireName (o.callParameters c handle values) s).1.bind fun reply =>
          o.readResult c s.registry reply.result,
        s.afterCall o.wireName (Session.sanitize (o.callParameters c handle values))) := by
  rw [← Session.exec_snd]
  have hregistry : (Session.exec o.wireName (o.callParameters c handle values) s).2.registry =
      s.registry := by
    rw [Session.exec_snd]
    rfl
  unfold call
  generalize Session.exec o.wireName (o.callParameters c handle values) s = outcome at hregistry ⊢
  obtain ⟨answer, s'⟩ := outcome
  cases answer with
  | error e => rfl
  | ok reply =>
      rw [← hregistry]
      rfl

theorem call_fst (c : Client) (o : Operation) (handle : String) (values : List Value) (s : Session) :
    (o.call c handle values s).1 = match s.nextAnswer with
      | .reply reply => o.readResult c s.registry reply.result
      | .nothing => .error (.noResult o.wireName)
      | .failed cause => .error (.ofTransport cause) := by
  rw [call_eq, Session.exec_fst]
  cases s.nextAnswer <;> rfl

theorem plain_of_mem_given (hplain : o.Plain) {p : Member × Value} (hp : p ∈ given o.parameters values) :
    p.1.wireName ≠ thisField ∧ p.1.wireName ≠ Session.connectionKey ∧
      p.1.argumentShape.isPlain = true :=
  hplain p.1 (List.of_mem_zip (List.mem_filter.mp hp).1).1

theorem not_mem_givenMembers (hplain : o.Plain) :
    thisField ∉ (o.givenMembers c values).map Prod.fst := by
  intro hname
  obtain ⟨m, hm, hname⟩ := List.mem_map.mp hname
  obtain ⟨p, hp, rfl⟩ := List.mem_map.mp hm
  exact (plain_of_mem_given hplain hp).1 hname

theorem not_contains_givenMembers (hplain : o.Plain) (h : o.Takes c values) :
    ¬(Json.object (o.givenMembers c values)).Contains Session.connectionKey := by
  intro hcontains
  cases hcontains with
  | here hname =>
      obtain ⟨m, hm, hname⟩ := List.mem_map.mp hname
      obtain ⟨p, hp, rfl⟩ := List.mem_map.mp hm
      exact (plain_of_mem_given hplain hp).2.1 hname
  | member hm hcontains =>
      obtain ⟨p, hp, rfl⟩ := List.mem_map.mp hm
      have hholds : c.Holds p.1.argumentShape p.2 :=
        (List.forall₂_iff_zip.mp h).2 (List.mem_filter.mp hp).1
      exact Value.not_contains_toJson hholds (plain_of_mem_given hplain hp).2.2 hcontains

/-- Nothing is taken out of the arguments of a plain method. -/
theorem sanitize_callParameters (hplain : o.Plain) (h : o.Takes c values) (handle : String) :
    Session.sanitize (o.callParameters c handle values) =
      .object ((thisField, (o.target handle).toJson) :: o.givenMembers c values) := by
  have harguments : arguments c o.parameters values = o.givenMembers c values := arguments_eq h
  have hkept : (o.givenMembers c values).erase thisField = o.givenMembers c values :=
    Json.Members.erase_of_not_mem (not_mem_givenMembers hplain)
  have hclean := Session.sanitize_of_not_contains (not_contains_givenMembers hplain h)
  rw [Session.sanitize, Json.object.injEq] at hclean
  rw [callParameters_eq, harguments, Session.sanitize_withMembers, hkept, hclean]

theorem performs (hplain : o.Plain) (h : o.Takes c values) (handle : String) (s : Session) :
    o.Performs c (o.target handle).toJson handle values s where
  sent := by rw [call_eq, sanitize_callParameters hplain h]
  nothing hanswer := by rw [call_fst, hanswer]
  rejected cause hanswer hrejected := by
    rw [call_fst, hanswer]
    exact congrArg Except.error (if_pos (Failure.occurs_iff.mpr hrejected))
  failed cause hanswer hother := by
    rw [call_fst, hanswer]
    exact congrArg Except.error (if_neg fun h => hother (Failure.occurs_iff.mp h))
  void reply hanswer hvoid := by
    rw [call_fst, hanswer]
    exact if_pos hvoid
  result reply hanswer hvoid := by
    rw [call_fst, hanswer]
    exact if_neg (Bool.eq_false_iff.mp hvoid)

end Operation

/-! ### Methods of a handle -/

namespace ClientModule

variable {m : ClientModule} {type : TypeName} {ident : String} {o : Operation}

theorem find?_handles {item : ManagedItem}
    (h : m.managedTypes.find? (fun t => !type.builtin && t.ident == type.ident) = some item) :
    (Client.ofModule m).handles.find? (fun t => t.name == type) =
      some (StructItem.ofManaged item).layout := by
  obtain ⟨builtin, name⟩ := type
  have hfound := List.find?_some h
  rw [Bool.and_eq_true, Bool.not_eq_true'] at hfound
  obtain rfl : builtin = false := hfound.1
  have hroot : (Client.rootHandle.name == (⟨false, name⟩ : TypeName)) = false :=
    beq_false_of_ne fun heq => Bool.noConfusion (congrArg TypeName.builtin heq)
  have hsame : (fun t : ManagedItem => !false && t.ident == name) =
      (fun t => t.name == (⟨false, name⟩ : TypeName)) ∘ fun d => (StructItem.ofManaged d).layout := by
    funext d
    rw [Bool.eq_iff_iff]
    simp [StructItem.layout, StructItem.typeName, StructItem.ofManaged]
  rw [hsame] at h
  rw [handles_eq_map_layout, List.find?_cons, hroot, List.find?_map, h]
  rfl

-- The recursion is under the look-up, where no equation is found for it.
theorem operationWithin_zero : m.operationWithin 0 type ident =
    (m.managedTypes.find? fun t => !type.builtin && t.ident == type.ident).bind fun item =>
      item.operations.find? (·.ident == ident) := by
  delta operationWithin
  refine congrArg (Option.bind _) (funext fun item => ?_)
  cases item.operations.find? (·.ident == ident) <;> rfl

theorem operationWithin_succ (n : Nat) : m.operationWithin (n + 1) type ident =
    (m.managedTypes.find? fun t => !type.builtin && t.ident == type.ident).bind fun item =>
      (item.operations.find? (·.ident == ident)).or
        (item.base.typeName?.bind fun base => m.operationWithin n base ident) := by
  delta operationWithin
  refine congrArg (Option.bind _) (funext fun item => ?_)
  cases item.operations.find? (·.ident == ident) with
  | some o => rfl
  | none => cases item.base.typeName? <;> rfl

theorem mem_chainWithin_of_find? {item : ManagedItem}
    (h : m.managedTypes.find? (fun t => !type.builtin && t.ident == type.ident) = some item) (n : Nat) :
    (StructItem.ofManaged item).layout ∈ StructType.chainWithin (Client.ofModule m).handles n type := by
  rcases StructType.chainWithin_of_find? (find?_handles h) n with heq | ⟨_, _, rfl, _, heq⟩
  · rw [heq]
    exact List.mem_singleton_self _
  · rw [heq]
    exact List.mem_append_right _ (List.mem_singleton_self _)

/-- A method that is found for a handle is one of its type or of a type of its chain. -/
theorem exists_mem_of_operationWithin {n k : Nat} (hk : n ≤ k)
    (h : m.operationWithin n type ident = some o) :
    ∃ item ∈ m.managedTypes, o ∈ item.operations ∧ (StructItem.ofManaged item).layout ∈
      StructType.chainWithin (Client.ofModule m).handles k type := by
  induction n generalizing k type with
  | zero =>
      rw [operationWithin_zero] at h
      obtain ⟨item, hitem, ho⟩ := Option.bind_eq_some_iff.mp h
      exact ⟨item, List.mem_of_find?_eq_some hitem, List.mem_of_find?_eq_some ho,
        mem_chainWithin_of_find? hitem k⟩
  | succ n ih =>
      rw [operationWithin_succ] at h
      obtain ⟨item, hitem, ho⟩ := Option.bind_eq_some_iff.mp h
      rcases Option.or_eq_some_iff.mp ho with hown | ⟨_, hinherited⟩
      · exact ⟨item, List.mem_of_find?_eq_some hitem, List.mem_of_find?_eq_some hown,
          mem_chainWithin_of_find? hitem k⟩
      · obtain ⟨base, hbase, hrest⟩ := Option.bind_eq_some_iff.mp hinherited
        obtain ⟨k, rfl⟩ : ∃ j, k = j + 1 := ⟨k - 1, by omega⟩
        obtain ⟨item', hitem', ho', hchain⟩ := ih (Nat.le_of_succ_le_succ hk) hrest
        refine ⟨item', hitem', ho', ?_⟩
        have hlayout : (StructItem.ofManaged item).layout.base = some base := hbase
        rw [StructType.chainWithin_succ (find?_handles hitem) hlayout]
        exact List.mem_append_left _ hchain

theorem exists_mem_of_operation? (h : m.operation? type ident = some o) :
    ∃ item ∈ m.managedTypes, o ∈ item.operations ∧
      item.wireName ∈ ((Client.ofModule m).handleChain type).map (·.wireName) := by
  have hlength : m.managedTypes.length ≤ (Client.ofModule m).handles.length := by
    simp [Client.ofModule]
  obtain ⟨item, hitem, ho, hchain⟩ := exists_mem_of_operationWithin hlength h
  exact ⟨item, hitem, ho, List.mem_map.mpr ⟨_, hchain, rfl⟩⟩

end ClientModule

/-- The shapes in which the result of a method is given. -/
inductive Method.Gives (i : Index) (m : Method) : Shape → Prop
  | nothing (hvoid : i.resolve m.result.wireType = .primitive .void) : Gives i m (.primitive .void)
  | result {shape : Shape} (hvalue : i.resolve m.result.wireType ≠ .primitive .void)
      (h : (i.resolve m.result.wireType).Offered m.result.isOptional shape) : Gives i m shape

/-- The operation calls the method, with its parameters and its result. -/
structure Operation.Binds (i : Index) (m : Method) (o : Operation) : Prop where
  wireName : o.wireName = m.wireName
  parameters : o.parameters.map (fun p => (p.wireName, p.optional)) =
    m.parameters.map fun p => (p.name, p.isOptional)
  arguments : List.Forall₂ (fun p a => (i.resolve p.wireType).Offered p.isOptional a.argumentShape)
    m.parameters o.parameters
  result : o.result = i.resolve m.result.wireType
  optional : o.resultOptional = m.result.isOptional
  gives : m.Gives i o.resultShape

theorem ResolvedType.isVoid_eq_true_iff {t : ResolvedType} : t.isVoid = true ↔ t = .primitive .void := by
  unfold isVoid
  split <;> simp_all

theorem Operation.gives_resultShape {i : Index} {m : Method} {o : Operation}
    (hresult : o.result = i.resolve m.result.wireType)
    (hoptional : o.resultOptional = m.result.isOptional) : m.Gives i o.resultShape := by
  unfold resultShape
  by_cases hvoid : o.result.isVoid = true
  · rw [if_pos hvoid]
    apply Method.Gives.nothing
    rw [← hresult]
    exact ResolvedType.isVoid_eq_true_iff.mp hvoid
  · rw [if_neg hvoid]
    apply Method.Gives.result
    · rw [← hresult]
      exact fun h => hvoid (ResolvedType.isVoid_eq_true_iff.mpr h)
    · rw [← hresult, ← hoptional]
      exact o.result.offered_shape false o.resultOptional

theorem Operation.binds_ofMethod (i : Index) (rootType owner : String) (m : Method)
    (ident argsIdent : String) : (ofMethod i rootType owner m ident argsIdent).Binds i m where
  wireName := rfl
  parameters := Member.map_ofProperties (fun _ _ => rfl) _
  arguments := by
    apply Member.forall₂_ofProperties
    intro p ident
    exact Member.offered_argumentShape
      ⟨ident, p.name, i.resolve p.wireType, p.isOptional, p.isSecret⟩
  result := rfl
  optional := rfl
  gives := gives_resultShape rfl rfl

/-- A plain method of a handle calls what its type, or a type of its chain, declares. -/
theorem ClientModule.exists_performs {s : Schema} {rootType : String} {type : TypeName}
    {ident : String} {o : Operation} (ho : (ofSchema s rootType).operation? type ident = some o)
    (hplain : o.Plain) {values : List Value}
    (hvalues : o.Takes (Client.ofModule (ofSchema s rootType)) values) (handle : String)
    (session : Session) :
    ∃ d ∈ s.managedTypes, ∃ m ∈ d.methods, o.Binds (Index.ofSchema s) m ∧
      d.wireName ∈ ((Client.ofModule (ofSchema s rootType)).handleChain type).map (·.wireName) ∧
      o.Performs (Client.ofModule (ofSchema s rootType))
        (if d.wireName = rootType then .string d.wireName else Reference.toJson ⟨d.wireName, handle⟩)
        handle values session := by
  have hperforms := Operation.performs hplain hvalues handle session
  obtain ⟨item, hitem, hmem, hchain⟩ := exists_mem_of_operation? ho
  obtain ⟨d, hd, rfl⟩ := mem_managedTypes_ofSchema hitem
  obtain ⟨m, hm, ident, argsIdent, rfl⟩ := Operation.exists_method_of_mem hmem
  refine ⟨d, hd, m, hm, Operation.binds_ofMethod _ _ _ m ident argsIdent, hchain, ?_⟩
  have htarget : ((Operation.ofMethod (Index.ofSchema s) rootType d.wireName m ident argsIdent).target
      handle).toJson =
        if d.wireName = rootType then .string d.wireName else Reference.toJson ⟨d.wireName, handle⟩ := by
    by_cases hroot : d.wireName = rootType
    · simp [Operation.target, Operation.ofMethod, hroot, Target.toJson]
    · simp [Operation.target, Operation.ofMethod, hroot, Target.toJson]
  rw [htarget] at hperforms
  exact hperforms

end Vmodl
