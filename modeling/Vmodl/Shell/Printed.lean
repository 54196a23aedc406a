/-!
# Printed text

What `echo` and `printf` write: escapes stand for characters, and directives for arguments.
-/

namespace Vmodl.Shell

def octalValue? (c : Char) : Option Nat :=
  if '0' ≤ c && c ≤ '7' then some (c.toNat - '0'.toNat) else none

/-- Reads up to a number of octal digits. -/
def octal (value : Nat) : Nat → List Char → Nat × List Char
  | 0, s => (value, s)
  | _ + 1, [] => (value, [])
  | n + 1, c :: rest =>
    match octalValue? c with
    | some d => octal (8 * value + d) n rest
    | none => (value, c :: rest)

theorem octal_length (value n : Nat) (s : List Char) : (octal value n s).2.length ≤ s.length := by
  induction n generalizing value s with
  | zero => simp [octal]
  | succ n ih =>
    cases s with
    | nil => simp [octal]
    | cons c rest =>
      unfold octal
      split
      · exact Nat.le_succ_of_le (ih _ rest)
      · exact Nat.le_refl _

/-- The character that a letter after a backslash stands for. -/
def escapeOf? : Char → Option Char
  | 'n' => some '\n'
  | 't' => some '\t'
  | 'r' => some '\r'
  | 'a' => some '\x07'
  | 'b' => some '\x08'
  | 'f' => some '\x0c'
  | 'v' => some '\x0b'
  | '\\' => some '\\'
  | _ => none

/-- Text with its escapes read; a code is octal after `\0`. -/
def unescaped : List Char → List Char
  | [] => []
  | '\\' :: '0' :: rest => Char.ofNat (octal 0 3 rest).1 :: unescaped (octal 0 3 rest).2
  | '\\' :: c :: rest =>
    match escapeOf? c with
    | some e => e :: unescaped rest
    | none => '\\' :: c :: unescaped rest
  | c :: rest => c :: unescaped rest
termination_by s => s.length
decreasing_by
  all_goals first
    | exact Nat.lt_succ_of_le (Nat.le_succ_of_le (octal_length _ _ _))
    | exact Nat.lt_succ_of_le (Nat.le_succ _)
    | exact Nat.lt_succ_self _

/-- A format written once. Gives the text and the arguments that are left. -/
def formatted : List Char → List String → List Char × List String
  | [], args => ([], args)
  | '%' :: '%' :: rest, args => put ['%'] (formatted rest args)
  | '%' :: c :: rest, args =>
    let arg := (args.headD "").toList
    let text :=
      if c = 'b' then unescaped arg
      else if c = 'c' then arg.take 1
      else if c = 'd' || c = 'i' then (toString ((args.headD "").toInt?.getD 0)).toList
      else arg
    put text (formatted rest args.tail)
  | '\\' :: '"' :: rest, args => put ['"'] (formatted rest args)
  | '\\' :: c :: rest, args =>
    match octalValue? c with
    | some _ => put [Char.ofNat (octal 0 3 (c :: rest)).1] (formatted (octal 0 3 (c :: rest)).2 args)
    | none =>
      match escapeOf? c with
      | some e => put [e] (formatted rest args)
      | none => put ['\\', c] (formatted rest args)
  | c :: rest, args => put [c] (formatted rest args)
termination_by s => s.length
decreasing_by
  all_goals first
    | exact Nat.lt_succ_of_le (octal_length _ _ (_ :: _))
    | exact Nat.lt_succ_of_le (Nat.le_succ _)
    | exact Nat.lt_succ_self _
where
  put (s : List Char) (r : List Char × List String) : List Char × List String := (s ++ r.1, r.2)

/-- A format is written again as long as it uses up arguments. -/
def formattedAll (format : List Char) : Nat → List String → List Char
  | 0, _ => []
  | n + 1, args =>
    let r := formatted format args
    if r.2.isEmpty || r.2.length = args.length then r.1 else r.1 ++ formattedAll format n r.2

def printf : List String → String
  | [] => ""
  | format :: args => String.ofList (formattedAll format.toList (args.length + 1) args)

def echo : List String → String
  | "-n" :: args => String.ofList (unescaped (" ".intercalate args).toList)
  | args => String.ofList (unescaped (" ".intercalate args).toList ++ ['\n'])

end Vmodl.Shell
