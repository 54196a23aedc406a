import Vmodl.Text.CaseMap
import Vmodl.Text.Quoted

/-!
# Words of a name

A name is split into words at underscores, hyphens and blanks, where the case rises, between letters
and digits, and before the last capital of an acronym. The words can then be joined in another case.
-/

namespace Vmodl.Text

/-- A character with the marks that attach to it. -/
abbrev Cluster := List Char

def isMark (c : Char) : Bool :=
  let n := c.toNat
  0x300 ≤ n && (n == 0x200D || isExtending c || inRanges spacingRanges n || (0x1F3FB ≤ n && n ≤ 0x1F3FF))

def isLeading (c : Char) : Bool := 0x600 ≤ c.toNat && inRanges leadingRanges c.toNat

/-- The clusters of a text. Letters of scripts without case may be split more finely than a reader
would, which no word boundary can tell. -/
def clusters : List Char → List Cluster
  | [] => []
  | c :: rest =>
    match clusters rest with
    | (m :: marks) :: more =>
      if isMark m || isLeading c then (c :: m :: marks) :: more else [c] :: (m :: marks) :: more
    | more => [c] :: more

def upper (s : List Char) : List Char := s.flatMap upperChar

def lower (s : List Char) : List Char := s.flatMap lowerChar

def isUpper (g : Cluster) : Bool := g != lower g && g == upper g

def isLower (g : Cluster) : Bool := g != upper g && g == lower g

def isDigit (g : Cluster) : Bool :=
  match g with
  | [c] => c.isDigit
  | _ => false

/-- How the text splits at a cluster: the cluster is dropped, or a word ends after it. -/
inductive Boundary where
  | drop
  | after
deriving DecidableEq, Repr

def boundary? (g : Cluster) (next : List Cluster) : Option Boundary :=
  if g = ['_'] ∨ g = ['-'] ∨ g = [' '] then some .drop
  else
    match next with
    | [] => none
    | h :: more =>
      if isLower g && isUpper h || isLower g && isDigit h || isUpper g && isDigit h ||
          isDigit g && isLower h || isDigit g && isUpper h || isUpper g && isUpper h && more.head?.any isLower
      then some .after
      else none

/-- The words of a text, with the word read so far in reverse. Words may be empty. -/
def splitWords (word : List Cluster) : List Cluster → List (List Char)
  | [] => [word.reverse.flatten]
  | g :: next =>
    match boundary? g next with
    | some .drop => word.reverse.flatten :: splitWords [] next
    | some .after => (g :: word).reverse.flatten :: splitWords [] next
    | none => splitWords (g :: word) next

def words (s : String) : List (List Char) := splitWords [] (clusters s.toList)

/-- Lower-case words joined by underscores. -/
def snakeCase (s : String) : String :=
  String.ofList (['_'].intercalate ((words s).map lower))

def capitalize : List Char → List Char
  | [] => []
  | c :: rest => upperChar c ++ lower rest

/-- Words that begin with a capital, joined by nothing. -/
def pascalCase (s : String) : String := String.ofList ((words s).flatMap capitalize)

end Vmodl.Text
