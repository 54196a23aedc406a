import Vmodl.Failure

/-!
# Transports

A transport carries calls to a server and gives back its answers. Here the answers are fixed in
advance, and all that is handed to the transport is kept in its log.
-/

namespace Vmodl

structure Reply where
  result : Json
  headers : List (String × String) := []
deriving Repr

namespace Reply

/-- The texts are equal but for the case of ASCII letters. -/
def sameName (a b : String) : Bool := a.toList.map Char.toLower == b.toList.map Char.toLower

def headerValues (r : Reply) (name : String) : List String :=
  (r.headers.filter fun h => sameName h.1 name).map Prod.snd

end Reply

/-- What becomes of a call. -/
inductive Answer where
  | reply (r : Reply)
  | nothing
  | failed (cause : TransportFailure)
deriving Repr

/-- What a session hands to its transport. -/
inductive Sent where
  | call (method : String) (parameters : Json)
  | cookie (token : String)
deriving Repr

structure Transport where
  /-- The answers that are still to come; after the last one nothing comes back. -/
  pending : List Answer
  /-- What was handed over, the oldest first. -/
  log : List Sent := []
  /-- Whether cookies are kept at all. -/
  keepsCookies : Bool := true
deriving Repr

namespace Transport

def call (t : Transport) (method : String) (parameters : Json) : Answer × Transport :=
  let t := { t with log := t.log ++ [Sent.call method parameters] }
  match t.pending with
  | [] => (.nothing, t)
  | answer :: rest => (answer, { t with pending := rest })

def setCookie (t : Transport) (token : String) : Transport :=
  { t with log := t.log ++ [Sent.cookie token] }

/-- The cookie that was handed over last. -/
def lastCookie : List Sent → Option String
  | [] => none
  | .cookie token :: rest => (lastCookie rest).or (some token)
  | .call .. :: rest => lastCookie rest

/-- The cookie that the transport sends along. -/
def cookie? (t : Transport) : Option String := if t.keepsCookies then lastCookie t.log else none

end Transport

end Vmodl
