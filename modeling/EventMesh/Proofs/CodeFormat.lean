import EventMesh.ErrorCode
import EventMesh.Proofs.Text.Quotation
import Mathlib.Computability.Language

/-!
# The format of codes

Codes are written in a language, `[A-Z0-9]+(_[A-Z0-9]+)*`, which stands here as such (`upperSnake`).
Cutting a text at its underscores decides it: words that do not hold the separator are the pieces of
what they are joined to (`mem_separated_iff`), so a separator at an end, or two of them in a row,
leave an empty piece, which is no word (`isUpperSnake_iff`).

Main statement: a list of errors is refused just if a code does not start with the layer, has nothing
after it or is not in the language, and the text of the refusal is the one about the first such
error, a fault of the layer before one of the format (`check_blames_first`).
-/

open scoped Computability

namespace EventMesh

/-! ### Words with a separator between them -/

namespace Text

section Separated

variable {sep : Char} {W : Language Char}

theorem join_mem_separated {pieces : List (List Char)} (nonempty : pieces ≠ [])
    (words : ∀ piece ∈ pieces, piece ∈ W) : join sep pieces ∈ W * ({[sep]} * W)∗ := by
  induction pieces with
  | nil => exact absurd rfl nonempty
  | cons piece pieces ih =>
    obtain ⟨first, others⟩ := List.forall_mem_cons.mp words
    by_cases more : pieces = []
    · subst more
      have alone := Language.append_mem_mul first (Language.nil_mem_kstar ({[sep]} * W))
      rwa [List.append_nil] at alone
    · have rest : sep :: join sep pieces ∈ {[sep]} * (W * ({[sep]} * W)∗) :=
        Language.append_mem_mul (Set.mem_singleton [sep]) (ih more others)
      rw [← mul_assoc] at rest
      rw [join_cons sep piece more]
      have further := Set.mem_of_mem_of_subset rest (mul_kstar_le_kstar (a := {[sep]} * W))
      exact Language.append_mem_mul first further

theorem exists_join_eq {first cs : List Char} (word : first ∈ W) (rest : cs ∈ ({[sep]} * W)∗) :
    ∃ pieces, (∀ piece ∈ first :: pieces, piece ∈ W) ∧ join sep (first :: pieces) = first ++ cs := by
  obtain ⟨parts, rfl, separated⟩ := rest
  induction parts generalizing first with
  | nil => exact ⟨[], by simpa using word, by simp [join]⟩
  | cons part parts ih =>
    obtain ⟨head, others⟩ := List.forall_mem_cons.mp separated
    obtain ⟨_, rfl, next, nextWord, rfl⟩ := Language.mem_mul.mp head
    obtain ⟨pieces, words, joined⟩ := ih nextWord others
    refine ⟨next :: pieces, List.forall_mem_cons.mpr ⟨word, words⟩, ?_⟩
    rw [join_cons sep first (by simp), joined]
    simp

/-- Words with single separators between them are the texts whose pieces are words. -/
theorem mem_separated_iff (apart : ∀ word ∈ W, sep ∉ word) {cs : List Char} :
    cs ∈ W * ({[sep]} * W)∗ ↔ ∀ piece ∈ split sep cs, piece ∈ W := by
  constructor
  · intro h
    obtain ⟨first, word, rest, parts, rfl⟩ := Language.mem_mul.mp h
    obtain ⟨pieces, words, joined⟩ := exists_join_eq word parts
    rw [← joined, split_join (by simp) fun piece hp => apart piece (words piece hp)]
    exact words
  · intro words
    rw [← join_split sep cs]
    exact join_mem_separated (split_ne_nil sep cs) words

end Separated

/-- The texts of one character of a kind. -/
def oneOf (kind : Char → Prop) : Language Char := {cs | ∃ c, cs = [c] ∧ kind c}

theorem mem_oneOf_kstar_iff {kind : Char → Prop} {cs : List Char} :
    cs ∈ (oneOf kind)∗ ↔ ∀ c ∈ cs, kind c := by
  constructor
  · rintro ⟨parts, rfl, single⟩ c hc
    obtain ⟨part, hp, hc⟩ := List.mem_flatten.mp hc
    obtain ⟨d, rfl, good⟩ := single part hp
    obtain rfl := List.mem_singleton.mp hc
    exact good
  · intro good
    refine ⟨cs.map fun c => [c], ?_, ?_⟩
    · rw [← List.flatMap_def, List.flatMap_singleton']
    · intro part hp
      obtain ⟨c, hc, rfl⟩ := List.mem_map.mp hp
      exact ⟨c, rfl, good c hc⟩

end Text

namespace ErrorCode

open Text

/-! ### The language of codes -/

/-- `[A-Z0-9]`. -/
def letter : Language Char := oneOf fun c => 'A' ≤ c ∧ c ≤ 'Z' ∨ '0' ≤ c ∧ c ≤ '9'

/-- `[A-Z0-9]+`. -/
def word : Language Char := letter * letter∗

/-- `[A-Z0-9]+(_[A-Z0-9]+)*`. -/
def upperSnake : Language Char := word * ({['_']} * word)∗

theorem isWordChar_iff (c : Char) :
    isWordChar c = true ↔ 'A' ≤ c ∧ c ≤ 'Z' ∨ '0' ≤ c ∧ c ≤ '9' := by
  simp [isWordChar]

theorem mem_word_iff {cs : List Char} : cs ∈ word ↔ cs ≠ [] ∧ ∀ c ∈ cs, isWordChar c = true := by
  simp only [isWordChar_iff]
  constructor
  · intro h
    obtain ⟨_, ⟨c, rfl, good⟩, rest, letters, rfl⟩ := Language.mem_mul.mp h
    exact ⟨by simp, List.forall_mem_cons.mpr ⟨good, mem_oneOf_kstar_iff.mp letters⟩⟩
  · rintro ⟨nonempty, good⟩
    obtain ⟨c, rest, rfl⟩ := List.exists_cons_of_ne_nil nonempty
    obtain ⟨first, others⟩ := List.forall_mem_cons.mp good
    have head : [c] ∈ letter := ⟨c, rfl, first⟩
    exact Language.append_mem_mul head (mem_oneOf_kstar_iff.mpr others)

theorem underscore_notMem_word : ∀ cs ∈ word, '_' ∉ cs := by
  intro cs h underscore
  exact absurd ((mem_word_iff.mp h).2 '_' underscore) (by decide)

/-- Cutting at the underscores decides the language. -/
theorem isUpperSnake_iff (code : String) : isUpperSnake code = true ↔ code.toList ∈ upperSnake := by
  rw [upperSnake, mem_separated_iff underscore_notMem_word, isUpperSnake, List.all_eq_true]
  refine forall₂_congr fun piece _ => ?_
  simp [mem_word_iff]

/-- Two underscores in a row leave an empty word, and a letter with dots is none of the capitals. -/
example : isUpperSnake "ERROR_42" = true ∧ isUpperSnake "CELL__ID" = false ∧
    isUpperSnake "ÄRGER" = false := by decide

/-! ### Faults -/

/-- A code that does not start with the layer, or has nothing after it. -/
def LacksLayer (layer code : String) : Prop := ¬ layer.toList <+: code.toList ∨ code = layer

/-- A code that lacks its layer or is not of the format. -/
def AtFault (layer code : String) : Prop := LacksLayer layer code ∨ code.toList ∉ upperSnake

/-- The complaint that a code at fault gives rise to. -/
inductive Deserves (layer code : String) : Complaint → Prop
  | layer (lacks : LacksLayer layer code) : Deserves layer code (.layer code layer)
  /-- The format is wrong only where the layer is not. -/
  | format (layered : ¬ LacksLayer layer code) (wrong : code.toList ∉ upperSnake) :
    Deserves layer code (.format code)

section OneCode

variable {layer code : String}

theorem extends?_iff : extends? code layer = true ↔ ¬ LacksLayer layer code := by
  rw [extends?, Bool.and_eq_true, List.isPrefixOf_iff_prefix, decide_eq_true_eq, LacksLayer, not_or,
    not_not]
  refine and_congr_right fun starts => ?_
  constructor
  · rintro longer rfl
    exact absurd longer (lt_irrefl _)
  · intro differs
    refine lt_of_le_of_ne starts.length_le fun same => differs ?_
    exact (String.toList_inj.mp (starts.eq_of_length same)).symm

theorem complaint?_of_lacks (lacks : LacksLayer layer code) :
    complaint? layer code = some (.layer code layer) := by
  have stops : ¬ extends? code layer = true := fun goesOn => extends?_iff.mp goesOn lacks
  simp [complaint?, stops]

theorem complaint?_of_wrong (layered : ¬ LacksLayer layer code) (wrong : code.toList ∉ upperSnake) :
    complaint? layer code = some (.format code) := by
  have refused : ¬ isUpperSnake code = true := fun formed => wrong ((isUpperSnake_iff code).mp formed)
  simp [complaint?, extends?_iff.mpr layered, refused]

theorem complaint?_of_formed (layered : ¬ LacksLayer layer code) (formed : code.toList ∈ upperSnake) :
    complaint? layer code = none := by
  simp [complaint?, extends?_iff.mpr layered, (isUpperSnake_iff code).mpr formed]

/-- A code gives rise to the complaint that it deserves. -/
theorem complaint?_eq_some_iff {complaint : Complaint} :
    complaint? layer code = some complaint ↔ Deserves layer code complaint := by
  constructor
  · intro h
    by_cases lacks : LacksLayer layer code
    · rw [complaint?_of_lacks lacks] at h
      obtain rfl := Option.some.inj h
      exact .layer lacks
    · by_cases formed : code.toList ∈ upperSnake
      · rw [complaint?_of_formed lacks formed] at h
        cases h
      · rw [complaint?_of_wrong lacks formed] at h
        obtain rfl := Option.some.inj h
        exact .format lacks formed
  · intro deserved
    cases deserved with
    | layer lacks => exact complaint?_of_lacks lacks
    | format layered wrong => exact complaint?_of_wrong layered wrong

theorem complaint?_eq_none_iff : complaint? layer code = none ↔ ¬ AtFault layer code := by
  rw [AtFault, not_or, not_not]
  constructor
  · intro h
    have layered : ¬ LacksLayer layer code := by
      intro lacks
      rw [complaint?_of_lacks lacks] at h
      cases h
    refine ⟨layered, ?_⟩
    by_contra wrong
    rw [complaint?_of_wrong layered wrong] at h
    cases h
  · rintro ⟨layered, formed⟩
    exact complaint?_of_formed layered formed

end OneCode

/-! ### Texts of complaints -/

theorem Complaint.message_layer_ne (code expected code' : String) :
    (layer code expected).message ≠ (format code').message := by
  intro same
  simp only [message, String.append_assoc] at same
  obtain ⟨-, rest⟩ := quoted_append_inj same
  simp [String.ext_iff] at rest

/-- The text of a complaint tells which code is at fault, of what layer, and why. -/
theorem Complaint.message_injective : Function.Injective Complaint.message := by
  intro complaint other same
  cases complaint with
  | layer code expected =>
    cases other with
    | layer code' expected' =>
      simp only [message, String.append_assoc] at same
      obtain ⟨rfl, rest⟩ := quoted_append_inj same
      obtain ⟨rfl, -⟩ := quoted_append_inj ((String.append_right_inj _).mp rest)
      rfl
    | format code' => exact absurd same (message_layer_ne code expected code')
  | format code =>
    cases other with
    | layer code' expected' => exact absurd same.symm (message_layer_ne code' expected' code)
    | format code' =>
      obtain ⟨rfl, -⟩ := quoted_append_inj same
      rfl

/-! ### Lists of errors -/

/-- What checking the codes of a list comes to. -/
structure BlamesFirst {ε : Type} [Coded ε] (errors : List ε) (layer : String) : Prop where
  refuses_iff : (check errors layer).isSome = true ↔ ∃ e ∈ errors, AtFault layer (Coded.code e)
  /-- The text of the refusal is the one about the first error at fault, and no other. -/
  says_iff : ∀ complaint, (check errors layer).map Complaint.message = some complaint.message ↔
    ∃ before e after, errors = before ++ e :: after ∧
      (∀ d ∈ before, ¬ AtFault layer (Coded.code d)) ∧ Deserves layer (Coded.code e) complaint

section Check

variable {ε : Type} [Coded ε] {errors : List ε} {layer : String}

theorem check_eq_none_iff :
    check errors layer = none ↔ ∀ e ∈ errors, ¬ AtFault layer (Coded.code e) := by
  simp only [check, List.findSome?_eq_none_iff, complaint?_eq_none_iff]

theorem check_eq_some_iff {complaint : Complaint} : check errors layer = some complaint ↔
    ∃ before e after, errors = before ++ e :: after ∧
      (∀ d ∈ before, ¬ AtFault layer (Coded.code d)) ∧ Deserves layer (Coded.code e) complaint := by
  simp only [check, List.findSome?_eq_some_iff, complaint?_eq_none_iff, complaint?_eq_some_iff,
    and_comm (a := Deserves layer _ complaint)]

end Check

/-- **A list of errors is refused just if a code is at fault, for the first such error.** -/
theorem check_blames_first {ε : Type} [Coded ε] (errors : List ε) (layer : String) :
    BlamesFirst errors layer := by
  constructor
  · rw [Option.isSome_iff_ne_none, ne_eq, check_eq_none_iff]
    simp only [not_forall, exists_prop, not_not]
  · intro complaint
    rw [Option.map_eq_some_iff, ← check_eq_some_iff]
    constructor
    · rintro ⟨told, refused, same⟩
      rwa [← Complaint.message_injective same]
    · intro refused
      exact ⟨complaint, refused, rfl⟩

end ErrorCode

end EventMesh
