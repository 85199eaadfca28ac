import EventMesh.Text.Hexadecimal
import EventMesh.Text.Quoted
import Mathlib.Data.List.Basic
import Mathlib.Data.Nat.Init
import Mathlib.Tactic.SplitIfs

/-!
# Reading quotations

What stands for a character in quoted text can be read again, whatever follows it
(`readQuoted?_escape`), and it never begins with a quote. Main statement: a quotation shows what was
quoted and where it ends (`quoted_append_inj`), so a message that quotes two texts holds them apart.
-/

namespace EventMesh.Text

/-! ### Hexadecimal digits -/

theorem hexValue?_digitChar : ∀ d < 16, hexValue? d.digitChar = some d := by
  decide

theorem readHex?_concat {cs : List Char} {c : Char} {n v : Nat} (before : readHex? cs = some n)
    (last : hexValue? c = some v) : readHex? (cs ++ [c]) = some (16 * n + v) := by
  unfold readHex? at *
  cases values : cs.mapM hexValue? with
  | none => simp [values] at before
  | some vs =>
    obtain rfl : vs.foldl (fun n v => 16 * n + v) 0 = n := by simpa [values] using before
    simp [List.mapM_append, values, last]

/-- The digits of a number are read as the number. -/
theorem readHex?_hexDigits (n : Nat) : readHex? (hexDigits n) = some n := by
  induction n using Nat.strongRec with
  | ind n ih =>
    unfold hexDigits at *
    have last := hexValue?_digitChar (n % 16) (Nat.mod_lt n (by decide))
    rw [Nat.toDigits_eq_if (by decide)]
    split
    case isTrue small =>
      have first : readHex? [] = some 0 := rfl
      have single := readHex?_concat first last
      rwa [Nat.mod_eq_of_lt small, Nat.mul_zero, Nat.zero_add] at single
    case isFalse large =>
      rw [readHex?_concat (ih (n / 16) (by omega)) last, Nat.div_add_mod]

/-- The brace that ends a number is not among its digits. -/
theorem ne_brace_of_mem_hexDigits (n : Nat) : ∀ c ∈ hexDigits n, c ≠ '\x7d' := by
  induction n using Nat.strongRec with
  | ind n ih =>
    unfold hexDigits at *
    rw [Nat.toDigits_eq_if (by decide)]
    split
    case isTrue small =>
      rw [List.forall_mem_singleton]
      exact Nat.digitChar_ne _ rfl
    case isFalse large =>
      rw [List.forall_mem_append, List.forall_mem_singleton]
      exact ⟨ih (n / 16) (by omega), Nat.digitChar_ne _ rfl⟩

/-! ### One character -/

/-- The character that a backslash and one more character stand for. -/
def named? : Char → Option Char
  | '0' => some '\x00'
  | 't' => some '\t'
  | 'r' => some '\r'
  | 'n' => some '\n'
  | '\\' => some '\\'
  | '"' => some '"'
  | _ => none

/-- Reads the first character of quoted text, and gives what is left. -/
def readQuoted? : List Char → Option (Char × List Char)
  | [] => none
  | '\\' :: 'u' :: '\x7b' :: cs => do
    let n ← readHex? (cs.takeWhile (· ≠ '\x7d'))
    return (Char.ofNat n, (cs.dropWhile (· ≠ '\x7d')).tail)
  | '\\' :: letter :: cs => (named? letter).map (·, cs)
  | c :: cs => some (c, cs)

/-- A character stands for itself, or is spelled by a name or by its number. -/
theorem escape_cases (c : Char) :
    c ≠ '\\' ∧ c ≠ '"' ∧ escape c = [c] ∨ (∃ d, named? d = some c ∧ escape c = ['\\', d]) ∨
      escape c = '\\' :: 'u' :: '\x7b' :: (hexDigits c.toNat ++ ['\x7d']) := by
  generalize spelled : escape c = cs
  unfold escape at spelled
  split_ifs at spelled with null tab carriage line backslash quote
  · exact .inr (.inl ⟨'0', congrArg some null.symm, spelled.symm⟩)
  · exact .inr (.inl ⟨'t', congrArg some tab.symm, spelled.symm⟩)
  · exact .inr (.inl ⟨'r', congrArg some carriage.symm, spelled.symm⟩)
  · exact .inr (.inl ⟨'n', congrArg some line.symm, spelled.symm⟩)
  · exact .inr (.inl ⟨'\\', congrArg some backslash.symm, spelled.symm⟩)
  · exact .inr (.inl ⟨'"', congrArg some quote.symm, spelled.symm⟩)
  · exact .inl ⟨backslash, quote, spelled.symm⟩
  · exact .inr (.inr spelled.symm)
  · exact .inl ⟨backslash, quote, spelled.symm⟩

theorem readQuoted?_plain {c : Char} (plain : c ≠ '\\') (cs : List Char) :
    readQuoted? (c :: cs) = some (c, cs) := by
  simp [readQuoted?, plain]

theorem readQuoted?_named {c d : Char} (named : named? d = some c) (cs : List Char) :
    readQuoted? ('\\' :: d :: cs) = some (c, cs) := by
  have other : d ≠ 'u' := by
    rintro rfl
    cases named
  simp [readQuoted?, other, named]

theorem readQuoted?_number (n : Nat) (cs : List Char) :
    readQuoted? ('\\' :: 'u' :: '\x7b' :: (hexDigits n ++ '\x7d' :: cs)) =
      some (Char.ofNat n, cs) := by
  have digits : ∀ d ∈ hexDigits n, decide (d ≠ '\x7d') = true := by
    simpa using ne_brace_of_mem_hexDigits n
  rw [readQuoted?, List.takeWhile_append_of_pos digits, List.dropWhile_append_of_pos digits]
  simp [readHex?_hexDigits]

/-- What stands for a character is read as the character, whatever follows. -/
theorem readQuoted?_escape (c : Char) (cs : List Char) :
    readQuoted? (escape c ++ cs) = some (c, cs) := by
  rcases escape_cases c with ⟨plain, -, spelled⟩ | ⟨d, named, spelled⟩ | spelled
  · rw [spelled]
    exact readQuoted?_plain plain cs
  · rw [spelled]
    exact readQuoted?_named named cs
  · have number := readQuoted?_number c.toNat cs
    rw [Char.ofNat_toNat] at number
    rw [spelled, List.cons_append, List.cons_append, List.cons_append, List.append_assoc]
    exact number

theorem escape_append_inj {c d : Char} {cs ds : List Char}
    (same : escape c ++ cs = escape d ++ ds) : c = d ∧ cs = ds := by
  have read := readQuoted?_escape c cs
  rw [same, readQuoted?_escape d ds] at read
  obtain ⟨rfl, rfl⟩ := Prod.mk.inj (Option.some.inj read)
  exact ⟨rfl, rfl⟩

/-- No character is spelled in a way that looks like the end of the quotation. -/
theorem escape_append_ne (c : Char) (cs ds : List Char) : escape c ++ cs ≠ '"' :: ds := by
  rcases escape_cases c with ⟨-, other, spelled⟩ | ⟨d, -, spelled⟩ | spelled
  · simp [spelled, other]
  · simp [spelled]
  · simp [spelled]

/-! ### Whole quotations -/

theorem flatMap_escape_inj {s t x y : List Char}
    (same : s.flatMap escape ++ '"' :: x = t.flatMap escape ++ '"' :: y) : s = t ∧ x = y := by
  induction s generalizing t with
  | nil =>
    cases t with
    | nil => exact ⟨rfl, List.tail_eq_of_cons_eq same⟩
    | cons d t =>
      rw [List.flatMap_cons, List.append_assoc] at same
      exact absurd same.symm (escape_append_ne d _ _)
  | cons c s ih =>
    cases t with
    | nil =>
      rw [List.flatMap_cons, List.append_assoc] at same
      exact absurd same (escape_append_ne c _ _)
    | cons d t =>
      rw [List.flatMap_cons, List.flatMap_cons, List.append_assoc, List.append_assoc] at same
      obtain ⟨rfl, rest⟩ := escape_append_inj same
      obtain ⟨rfl, after⟩ := ih rest
      exact ⟨rfl, after⟩

/-- **A quotation shows what was quoted and where it ends**, whatever follows it. -/
theorem quoted_append_inj {s t x y : String} (same : quoted s ++ x = quoted t ++ y) :
    s = t ∧ x = y := by
  have chars := congrArg String.toList same
  simp only [quoted, escaped, String.toList_append, String.toList_ofList, List.cons_append,
    List.append_assoc, List.nil_append, List.cons.injEq, true_and] at chars
  obtain ⟨texts, rests⟩ := flatMap_escape_inj chars
  exact ⟨String.toList_inj.mp texts, String.toList_inj.mp rests⟩

end EventMesh.Text
