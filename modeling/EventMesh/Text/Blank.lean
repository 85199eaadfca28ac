/-!
White space by the Unicode property `White_Space`, and trimming it from both ends of a text.
Main statements: a trimmed text neither starts nor ends in a blank (`head?_trim_not_blank`,
`getLast?_trimRight_not_blank`).
-/

namespace EventMesh.Text

/-- The Unicode property `White_Space`. -/
def isBlank (c : Char) : Bool :=
  let n := c.toNat
  (0x9 ≤ n && n ≤ 0xD) || n == 0x20 || n == 0x85 || n == 0xA0 || n == 0x1680 ||
    (0x2000 ≤ n && n ≤ 0x200A) || n == 0x2028 || n == 0x2029 || n == 0x202F || n == 0x205F ||
    n == 0x3000

/-- The text without its blank characters at the end. -/
def trimRight (cs : List Char) : List Char := (cs.reverse.dropWhile isBlank).reverse

/-- The text without its blank characters at either end. -/
def trim (cs : List Char) : List Char := trimRight (cs.dropWhile isBlank)

@[simp] theorem trim_nil : trim [] = [] := rfl

theorem head?_dropWhile_not_blank (cs : List Char) (c : Char)
    (h : (cs.dropWhile isBlank).head? = some c) : isBlank c = false := by
  induction cs with
  | nil => simp at h
  | cons d r ih =>
    rw [List.dropWhile_cons] at h
    split at h
    · exact ih h
    · simp only [List.head?_cons, Option.some.injEq] at h
      subst h
      simpa using ‹¬isBlank d = true›

/-- A trimmed text does not end in a blank. -/
theorem getLast?_trimRight_not_blank (cs : List Char) (c : Char)
    (h : (trimRight cs).getLast? = some c) : isBlank c = false := by
  rw [trimRight, List.getLast?_reverse] at h
  exact head?_dropWhile_not_blank _ _ h

/-- A trimmed text does not start in a blank. -/
theorem head?_trim_not_blank (cs : List Char) (c : Char) (h : (trim cs).head? = some c) :
    isBlank c = false := by
  have start : trim cs <+: cs.dropWhile isBlank := by
    rw [← List.reverse_suffix, trim, trimRight, List.reverse_reverse]
    exact List.dropWhile_suffix _
  obtain ⟨rest, eq⟩ := start
  refine head?_dropWhile_not_blank cs c ?_
  rw [← eq, List.head?_append, h]
  rfl

end EventMesh.Text
