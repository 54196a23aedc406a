/-!
# Blank characters

The characters with the Unicode property `White_Space`, and the texts that begin or end with none.
-/

namespace Vmodl.Text

def isBlank (c : Char) : Bool :=
  let n := c.toNat
  (9 ≤ n && n ≤ 13) || n == 0x20 || n == 0x85 || n == 0xA0 || n == 0x1680 ||
    (0x2000 ≤ n && n ≤ 0x200A) || n == 0x2028 || n == 0x2029 || n == 0x202F || n == 0x205F || n == 0x3000

def dropBlankEnd (s : List Char) : List Char := (s.reverse.dropWhile isBlank).reverse

def trimChars (s : List Char) : List Char := dropBlankEnd (s.dropWhile isBlank)

def trim (s : String) : String := String.ofList (trimChars s.toList)

theorem dropWhile_isBlank_eq_self {s : List Char} (h : ∀ c ∈ s.head?, isBlank c = false) :
    s.dropWhile isBlank = s := by
  cases s with
  | nil => rfl
  | cons c s => exact List.dropWhile_cons_of_neg (by simp [h c rfl])

/-- Trimming takes the blanks around a text that holds none itself. -/
theorem trimChars_append {before s after : List Char} (hbefore : ∀ c ∈ before, isBlank c = true)
    (hs : ∀ c ∈ s, isBlank c = false) (hafter : ∀ c ∈ after, isBlank c = true) :
    trimChars (before ++ s ++ after) = s := by
  have hreverse : ∀ c ∈ after.reverse, isBlank c = true := by simpa using hafter
  have hhead : ∀ c ∈ s.reverse.head?, isBlank c = false := by
    intro c hc
    exact hs c (List.mem_reverse.mp (List.mem_of_mem_head? hc))
  have hend : dropBlankEnd (s ++ after) = s := by
    rw [dropBlankEnd, List.reverse_append, List.dropWhile_append_of_pos hreverse,
      dropWhile_isBlank_eq_self hhead, List.reverse_reverse]
  rw [trimChars, List.append_assoc, List.dropWhile_append_of_pos hbefore]
  cases s with
  | nil =>
      have hnil : after.dropWhile isBlank = [] := by
        rw [← List.append_nil after, List.dropWhile_append_of_pos hafter]
        rfl
      rw [List.nil_append, hnil]
      rfl
  | cons c s => rwa [List.cons_append, List.dropWhile_cons_of_neg (by simp [hs c])]

theorem trimChars_eq_self {s : List Char} (h : ∀ c ∈ s, isBlank c = false) : trimChars s = s := by
  have htrim : trimChars ([] ++ s ++ []) = s := trimChars_append nofun h nofun
  rwa [List.nil_append, List.append_nil] at htrim

/-- The words between the blanks, with the word read so far in reverse. -/
def wordsFrom (word : List Char) : List Char → List String
  | [] => if word.isEmpty then [] else [String.ofList word.reverse]
  | c :: rest =>
    if isBlank c then
      if word.isEmpty then wordsFrom [] rest else String.ofList word.reverse :: wordsFrom [] rest
    else wordsFrom (c :: word) rest

/-- The maximal runs of characters that are not blank. -/
def blankWords (s : String) : List String := wordsFrom [] s.toList

end Vmodl.Text
