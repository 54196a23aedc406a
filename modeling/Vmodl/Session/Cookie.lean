import Vmodl.Text.Blank

/-!
# Session cookies

A `Set-Cookie` header is a list of parts between semicolons, each a name and a value with an equals sign
between. The value may stand in quotes.
-/

namespace Vmodl.Cookie

/-- The name of the cookie that a successful login sets. -/
def sessionName : String := "vmware_soap_session"

/-- The pieces between the semicolons. -/
def parts : List Char → List (List Char)
  | [] => [[]]
  | c :: rest =>
    match parts rest with
    | [] => [[c]]
    | p :: ps => if c = ';' then [] :: p :: ps else (c :: p) :: ps

def dropQuotes (s : List Char) : List Char :=
  let s := s.dropWhile (· == '"')
  (s.reverse.dropWhile (· == '"')).reverse

def ofPart? (part : List Char) : Option String :=
  let part := Text.trimChars part
  let name := part.takeWhile (· != '=')
  match part.drop name.length with
  | [] => none
  | _ :: value => if String.ofList name = sessionName then some (String.ofList (dropQuotes value)) else none

def ofHeader? (header : String) : Option String := (parts header.toList).findSome? ofPart?

end Vmodl.Cookie
