import Vmodl.Base64
import Vmodl.Json.Printer
import Vmodl.Time.Reader

/-!
# Failures

What can go wrong when a method is called or a reply is read. Each cause is a constructor, and
`Failure.message` gives its text.
-/

namespace Vmodl

/-- The forms a decoded value can have. -/
inductive Form where
  | null
  | scalar
  | dateTime
  | binary
  | list
  | object
deriving DecidableEq, Repr

def Form.text : Form → String
  | .null => "null"
  | .scalar => "a scalar"
  | .dateTime => "a dateTime"
  | .binary => "binary data"
  | .list => "a list"
  | .object => "an object"

inductive Wanted where
  | object
  | string
  | reference
  | scalar
  | dateTime
  | binary
deriving DecidableEq, Repr

def Wanted.text : Wanted → String
  | .object => "an object"
  | .string => "a string"
  | .reference => "a reference"
  | .scalar => "a scalar"
  | .dateTime => "a dateTime"
  | .binary => "binary data"

/-- What is wrong with a value of a reply. -/
inductive Defect where
  | unwantedJson (wanted : Wanted) (found : Json)
  | unwantedForm (wanted : Wanted) (found : Form)
  | unexpectedValue (found : Json)
  | noReference
  | noSessionManager
  | sessionManagerNotText
  | sessionManagerMissing
deriving Repr

def Defect.text : Defect → String
  | .unwantedJson wanted found => s!"expected {wanted.text}, got {found.text}"
  | .unwantedForm wanted found => s!"expected {wanted.text}, got {found.text}"
  | .unexpectedValue found => s!"unexpected value {found.text}"
  | .noReference => "managed object without a reference"
  | .noSessionManager => "no sessionManager in service content"
  | .sessionManagerNotText => "non-string reference"
  | .sessionManagerMissing => "missing reference"

/-- What a transport reports instead of a reply. -/
inductive TransportFailure where
  | protocol (message : String)
  | fault (message : String) (faultType : Option String)
deriving DecidableEq, Repr

def TransportFailure.message : TransportFailure → String
  | .protocol message => message
  | .fault message _ => message

inductive Failure where
  | transport (cause : TransportFailure)
  | authenticationRejected
  | noResult (method : String)
  | malformed (typeKey : String) (defect : Defect)
  | missing (typeKey : String)
  | unknownEnumValue (enumType : String) (value : String)
  | invalidDateTime (value : String) (flaw : Time.Flaw)
  | invalidBinary (flaw : Base64.Flaw)
  | invalidParameters (found : Json)
deriving Repr

namespace Failure

def message : Failure → String
  | .transport cause => cause.message
  | .authenticationRejected => "Server rejected login credentials"
  | .noResult method => s!"No result returned for '{method}'"
  | .malformed typeKey defect => s!"Malformed response for '{typeKey}': {defect.text}"
  | .missing typeKey => s!"Missing value for '{typeKey}'"
  | .unknownEnumValue enumType value => s!"Unknown value '{value}' for enum '{enumType}'"
  | .invalidDateTime value flaw => s!"Invalid dateTime '{value}': {flaw.message}"
  | .invalidBinary flaw => s!"Invalid base64Binary payload: {flaw.message}"
  | .invalidParameters found => s!"Invalid method parameters: expected an object, got {found.text}"

/-- The text by which a server rejects the credentials of a login. -/
def loginRejected : String :=
  "Cannot complete login due to an incorrect user name or password."

def occurs (part : List Char) : List Char → Bool
  | [] => part.isEmpty
  | c :: rest => part.isPrefixOf (c :: rest) || occurs part rest

/-- Rejected credentials are told by the message, whatever else the transport says. -/
def ofTransport (cause : TransportFailure) : Failure :=
  if occurs loginRejected.toList cause.message.toList then .authenticationRejected
  else .transport cause

end Failure

end Vmodl
