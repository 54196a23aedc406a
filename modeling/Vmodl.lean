import Vmodl.Main
import Vmodl.Client.Call
import Vmodl.Client.Source
import Vmodl.Generator.Package
import Vmodl.Inventory.Client
import Vmodl.Proofs.Arguments
import Vmodl.Proofs.Assembly
import Vmodl.Proofs.Boxing
import Vmodl.Proofs.Builtins
import Vmodl.Proofs.Bytes
import Vmodl.Proofs.Calendar
import Vmodl.Proofs.Calls
import Vmodl.Proofs.Closure
import Vmodl.Proofs.Construction
import Vmodl.Proofs.Consumption
import Vmodl.Proofs.Declarations
import Vmodl.Proofs.Decoding
import Vmodl.Proofs.Description
import Vmodl.Proofs.Emission
import Vmodl.Proofs.FiniteSize
import Vmodl.Proofs.Handles
import Vmodl.Proofs.Holding
import Vmodl.Proofs.Identifiers
import Vmodl.Proofs.IndexEntries
import Vmodl.Proofs.InstantReading
import Vmodl.Proofs.InstantText
import Vmodl.Proofs.Integers
import Vmodl.Proofs.Inventory
import Vmodl.Proofs.LegalIdentifiers
import Vmodl.Proofs.Lineage
import Vmodl.Proofs.Logins
import Vmodl.Proofs.Mirror
import Vmodl.Proofs.Missing
import Vmodl.Proofs.Omissions
import Vmodl.Proofs.Outcomes
import Vmodl.Proofs.Reading
import Vmodl.Proofs.Registration
import Vmodl.Proofs.RegistrationOrder
import Vmodl.Proofs.Replacement
import Vmodl.Proofs.RuntimeLine
import Vmodl.Proofs.ScalarLists
import Vmodl.Proofs.ScopeHistory
import Vmodl.Proofs.Secrets
import Vmodl.Proofs.Sequences
import Vmodl.Proofs.Showing
import Vmodl.Proofs.Structures
import Vmodl.Proofs.Tables
import Vmodl.Proofs.Taking
import Vmodl.Proofs.Transfer
import Vmodl.Proofs.TypeKeys
import Vmodl.Proofs.Unresolved
import Vmodl.Proofs.Values
import Vmodl.Schema.Reader
import Vmodl.Source.Formatted
import Vmodl.Source.Tokens
