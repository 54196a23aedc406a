import Vmodl.Registry
import Vmodl.Session.Cookie
import Vmodl.Session.Transport
import Vmodl.Text.Quoted
import Vmodl.Wire.Reference

/-!
# Sessions

A session sends calls over a transport and holds the token of its last successful login. Parameters
named `connection` belong to the caller alone and are never sent. A login that fails changes nothing.
-/

namespace Vmodl

open Wire

structure Session where
  rootType : String
  debug : Bool
  registry : Registry
  token : Option String := none
  transport : Transport
deriving Repr

/-- A step of a session, which may fail. -/
abbrev Session.Action (α : Type) := Session → Except Failure α × Session

namespace Session

/-- The type by which a session enters the service unless told otherwise. -/
def defaultRootType : String := "ServiceInstance"

/-- The name of the parameters that are never sent. -/
def connectionKey : String := "connection"

mutual

/-- The value without members named `connection`, at any depth. -/
def sanitize : Json → Json
  | .object members => .object (sanitizeMembers members)
  | .array items => .array (sanitizeItems items)
  | j => j

def sanitizeItems : List Json → List Json
  | [] => []
  | j :: rest => sanitize j :: sanitizeItems rest

def sanitizeMembers : List (String × Json) → List (String × Json)
  | [] => []
  | (name, j) :: rest =>
    if name = connectionKey then sanitizeMembers rest
    else (name, sanitize j) :: sanitizeMembers rest

end

def exec (method : String) (parameters : Json) : Action Reply := fun s =>
  let (answer, transport) := s.transport.call method (sanitize parameters)
  let s := { s with transport }
  match answer with
  | .reply r => (.ok r, s)
  | .nothing => (.error (.noResult method), s)
  | .failed cause => (.error (.ofTransport cause), s)

/-! ### Logging in -/

def contentMethod : String := "RetrieveServiceContent"

def loginMethod : String := "Login"

def managerType : String := "SessionManager"

/-- The session manager that the content of a service names. -/
def sessionManager (content : Json) : Except Failure Target :=
  match content.get? "sessionManager" with
  | none => .error (.malformed "ServiceContent" .noSessionManager)
  | some manager =>
    let typeName := match manager with
      | .object members => (discriminator? members).getD managerType
      | _ => managerType
    match unwrap manager with
    | .string handle => .ok (.managed ⟨typeName, handle⟩)
    | _ =>
      .error (.malformed managerType
        (if (manager.get? valueKey).isSome then .sessionManagerNotText else .sessionManagerMissing))

def credentials (userName password : String) : Json.Members :=
  [("userName", .string userName), ("password", .string password)]

/-- The token that the reply to a login carries. -/
def tokenOf (r : Reply) : Option String := (r.headerValues "set-cookie").findSome? Cookie.ofHeader?

/-- Takes the token of a login over into the session, and hands it to the transport. -/
def accept (s : Session) (token : Option String) : Session :=
  match token with
  | some t => { s with token := token, transport := s.transport.setCookie t }
  | none => { s with token := token }

/-- Logs in through the session manager of the service. -/
def login (userName password : String) : Action (Option String) := fun s =>
  match exec contentMethod (Target.root s.rootType).parameters s with
  | (.error e, s) => (.error e, s)
  | (.ok content, s) =>
    match sessionManager content.result with
    | .error e => (.error e, s)
    | .ok manager =>
      match exec loginMethod (manager.withMembers (credentials userName password)) s with
      | (.error e, s) => (.error e, s)
      | (.ok reply, s) => (.ok (tokenOf reply), s.accept (tokenOf reply))

/-- The text by which a session is shown in logs, without its secrets. -/
def shown (s : Session) : String :=
  "Connection \x7b root_type: " ++ Text.quoted s.rootType ++ ", debug: " ++ toString s.debug ++
    ", types: " ++ toString s.registry.size ++ ", authenticated: " ++ toString s.token.isSome ++ " \x7d"

end Session

end Vmodl
