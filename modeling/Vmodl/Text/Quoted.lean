import Vmodl.Text.Marks
import Vmodl.Text.Unprintable

/-!
# Quoted text

Text between double quotes. The quote and the backslash take a backslash in front, some controls have
a letter, and other characters that do not print by themselves are written as `\u` with their code.
-/

namespace Vmodl.Text

def inRanges (ranges : List (Nat × Nat)) (n : Nat) : Bool :=
  ranges.any fun r => r.1 ≤ n && n ≤ r.2

def isPrintable (c : Char) : Bool :=
  if c.toNat < 127 then 32 ≤ c.toNat else !inRanges unprintableRanges c.toNat

/-- Marks that join the character before them. -/
def isExtending (c : Char) : Bool :=
  if c.toNat < 0x300 then false else inRanges extendingRanges c.toNat

def codeEscape (c : Char) : List Char :=
  "\\u\x7b".toList ++ Nat.toDigits 16 c.toNat ++ ['\x7d']

def escapeChar (c : Char) : List Char :=
  match c with
  | '"' => ['\\', '"']
  | '\\' => ['\\', '\\']
  | '\n' => ['\\', 'n']
  | '\r' => ['\\', 'r']
  | '\t' => ['\\', 't']
  | '\x00' => ['\\', '0']
  | c => if isPrintable c && !isExtending c then [c] else codeEscape c

def quoted (s : String) : String :=
  String.ofList ('"' :: s.toList.flatMap escapeChar ++ ['"'])

/-- The characters of a string literal. A NUL before an octal digit is written in hexadecimal, so that
the digit is not taken for a part of it. -/
def literalChars : List Char → List Char
  | [] => []
  | '\x00' :: c :: rest =>
    (if '0' ≤ c ∧ c ≤ '7' then "\\x00".toList else "\\0".toList) ++ literalChars (c :: rest)
  | c :: rest => escapeChar c ++ literalChars rest

/-- The literal that stands for a text in source code. -/
def literal (s : String) : String := String.ofList ('"' :: literalChars s.toList ++ ['"'])

end Vmodl.Text
