import ComponentSpec.Text.Printable

/-!
# Quoted text

A text inside a displayed list or mapping stands between quotes.  Single quotes are used unless the
text has single quotes and no double ones.  The chosen quote and the backslash are escaped, line
feed, carriage return and tab have escapes of their own, and every other character that is not
printable is written by its number with two, four or eight hexadecimal digits.

Main statement: a text of plain characters stands between single quotes unchanged
(`quoted_of_plain`).
-/

namespace ComponentSpec
namespace Text

/-- The last `count` hexadecimal digits of a number. -/
def hexDigits (count n : Nat) : List Char :=
  (List.range count).reverse.map fun i => Nat.digitChar (n / Nat.pow 16 i % 16)

/-- A character by its number. -/
def escapedByNumber (c : Char) : List Char :=
  if c.toNat < 0x100 then '\\' :: 'x' :: hexDigits 2 c.toNat
  else if c.toNat < 0x10000 then '\\' :: 'u' :: hexDigits 4 c.toNat
  else '\\' :: 'U' :: hexDigits 8 c.toNat

/-- One character of a text between the given quotes. -/
def quotedChar (quote c : Char) : List Char :=
  if c == quote || c == '\\' then ['\\', c]
  else if c == '\n' then ['\\', 'n']
  else if c == '\r' then ['\\', 'r']
  else if c == '\t' then ['\\', 't']
  else if isPrintable c then [c]
  else escapedByNumber c

/-- The quote that a text is put between. -/
def quoteFor (s : List Char) : Char :=
  if s.contains '\'' && !s.contains '"' then '"' else '\''

/-- The text between quotes. -/
def quoted (s : List Char) : List Char :=
  let quote := quoteFor s
  quote :: s.flatMap (quotedChar quote) ++ [quote]

theorem quoted_of_plain {s : List Char}
    (h : ∀ c ∈ s, isPrintable c = true ∧ c ≠ '\'' ∧ c ≠ '\\' ∧ c ≠ '\n' ∧ c ≠ '\r' ∧ c ≠ '\t') :
    quoted s = '\'' :: s ++ ['\''] := by
  have hquote : quoteFor s = '\'' := by
    have : '\'' ∉ s := fun hmem => (h _ hmem).2.1 rfl
    simp [quoteFor, this]
  have hflat : s.flatMap (quotedChar '\'') = s := by
    induction s with
    | nil => rfl
    | cons c s ih =>
        have hc := h c (List.mem_cons_self ..)
        have := ih (fun d hd => h d (List.mem_cons_of_mem _ hd)) (by
          have : '\'' ∉ s := fun hmem => (h _ (List.mem_cons_of_mem _ hmem)).2.1 rfl
          simp [quoteFor, this])
        rw [List.flatMap_cons, this]
        simp [quotedChar, hc]
  simp [quoted, hquote, hflat]

end Text
end ComponentSpec
