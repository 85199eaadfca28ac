/-!
Cutting a text at every occurrence of a separator. Main statements: joining the pieces with the
separator gives the text back (`join_split`), and pieces without separators that are joined are the
pieces of what comes of it (`split_join`).
-/

namespace EventMesh.Text

/-- The pieces between the separators, empty ones included; never an empty list. -/
def split (sep : Char) : List Char → List (List Char)
  | [] => [[]]
  | c :: rest =>
    if c = sep then [] :: split sep rest
    else match split sep rest with
      | piece :: pieces => (c :: piece) :: pieces
      | [] => [[c]]

/-- The pieces with the separator between them. -/
def join (sep : Char) : List (List Char) → List Char
  | [] => []
  | [piece] => piece
  | piece :: pieces => piece ++ sep :: join sep pieces

theorem split_ne_nil (sep : Char) (cs : List Char) : split sep cs ≠ [] := by
  cases cs with
  | nil => simp [split]
  | cons c rest =>
    rw [split]
    split
    · simp
    · split <;> simp

theorem join_split (sep : Char) (cs : List Char) : join sep (split sep cs) = cs := by
  induction cs with
  | nil => rfl
  | cons c rest ih =>
    have hne := split_ne_nil sep rest
    rw [split]
    cases h : split sep rest with
    | nil => exact absurd h hne
    | cons piece pieces =>
      rw [h] at ih
      split
      · subst_vars; simp [join]
      · cases pieces <;> simp_all [join]

theorem join_cons (sep : Char) (piece : List Char) {pieces : List (List Char)}
    (nonempty : pieces ≠ []) : join sep (piece :: pieces) = piece ++ sep :: join sep pieces := by
  cases pieces with
  | nil => exact absurd rfl nonempty
  | cons next pieces => rfl

/-- A text without the separator is one piece. -/
theorem split_of_notMem {sep : Char} {piece : List Char} (whole : sep ∉ piece) :
    split sep piece = [piece] := by
  induction piece with
  | nil => rfl
  | cons c piece ih =>
    rw [List.mem_cons, not_or] at whole
    rw [split, if_neg (Ne.symm whole.1), ih whole.2]

/-- The first piece ends at the first separator. -/
theorem split_append_cons {sep : Char} {piece : List Char} (whole : sep ∉ piece) (rest : List Char) :
    split sep (piece ++ sep :: rest) = piece :: split sep rest := by
  induction piece with
  | nil => rw [List.nil_append, split, if_pos rfl]
  | cons c piece ih =>
    rw [List.mem_cons, not_or] at whole
    rw [List.cons_append, split, if_neg (Ne.symm whole.1), ih whole.2]

theorem split_join {sep : Char} {pieces : List (List Char)} (nonempty : pieces ≠ [])
    (whole : ∀ piece ∈ pieces, sep ∉ piece) : split sep (join sep pieces) = pieces := by
  induction pieces with
  | nil => exact absurd rfl nonempty
  | cons piece pieces ih =>
    obtain ⟨first, others⟩ := List.forall_mem_cons.mp whole
    by_cases more : pieces = []
    · subst more
      exact split_of_notMem first
    · rw [join_cons sep piece more, split_append_cons first, ih more others]

end EventMesh.Text
