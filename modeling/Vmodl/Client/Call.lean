import Vmodl.Client.Reading
import Vmodl.Client.Shown
import Vmodl.Session.Basic

/-!
# Bound methods

A method of a handle calls the server under its wire name. Its target is the object of the handle, under
the type that declares the method; the methods of the root type name that type alone. The reply is read
as the declared result, and a method without result accepts any reply.
-/

namespace Vmodl

open Wire

namespace Operation

def target (o : Operation) (handle : String) : Target :=
  if o.rooted then .root o.owner else .managed ⟨o.owner, handle⟩

/-- The written arguments, without those that are absent. -/
def arguments (c : Client) : List Member → List Value → List (String × Json)
  | m :: parameters, v :: values =>
    match m.optional, v with
    | true, .absent => arguments c parameters values
    | _, v => (m.wireName, v.toJson c) :: arguments c parameters values
  | _, _ => []

def callParameters (c : Client) (o : Operation) (handle : String) (values : List Value) : Json :=
  if o.parameters.isEmpty then (o.target handle).parameters
  else (o.target handle).withMembers (arguments c o.parameters values)

def readResult (c : Client) (r : Registry) (o : Operation) (raw : Json) : Except Failure Value :=
  if o.result.isVoid then .ok .unit else c.reconstruct r o.result.key raw o.resultShape

def call (c : Client) (o : Operation) (handle : String) (values : List Value) :
    Session.Action Value := fun s =>
  match Session.exec o.wireName (o.callParameters c handle values) s with
  | (.error e, s) => (.error e, s)
  | (.ok reply, s) => (o.readResult c s.registry reply.result, s)

/-- The arguments as shown in logs. Secrets are not printed. -/
def shownArguments (c : Client) (o : Operation) (values : List Value) : String :=
  Shown.fields o.argsIdent <| o.parameters.zipWith (fun m v =>
    Shown.field (Shown.bare m.ident) (if m.secret then Shown.redacted else v.shown c)) values

end Operation

namespace ClientModule

/-- The method of a handle by its identifier: its own, or else that of the nearest parent. -/
def operationWithin (m : ClientModule) : Nat → TypeName → String → Option Operation
  | steps, type, ident => do
    let item ← m.managedTypes.find? fun t => !type.builtin && t.ident == type.ident
    match item.operations.find? (·.ident == ident) with
    | some o => some o
    | none =>
      match steps, item.base.typeName? with
      | steps + 1, some base => operationWithin m steps base ident
      | _, _ => none

def operation? (m : ClientModule) (type : TypeName) (ident : String) : Option Operation :=
  m.operationWithin m.managedTypes.length type ident

def rootHandle (m : ClientModule) : Option Value :=
  m.entry.map fun e =>
    (Client.ofModule m).newHandle ⟨false, e.rootIdent⟩ ⟨e.rootType, e.rootType⟩

/-- A session over a transport, with the registry and the root type of the module. -/
def connect (m : ClientModule) (transport : Transport) : Session :=
  { rootType := m.rootType, debug := false, registry := m.registry, transport }

end ClientModule

end Vmodl
