import EventMesh.Proofs.Config.Layers

/-!
# What the variables may say

A variable is a text that somebody else wrote. `FlagText` and `NumberText` are the texts that are
understood, as a grammar: blanks around a word, and the word one of the spellings of a truth value in any
case, or a numeral below `2 ^ 64`. Reading accepts these texts and no others, with the value that the
grammar gives (`readFlag_eq_ok_iff`, `readMillis_eq_ok_iff`).

Main statement: loading with the variables accepts exactly the variables of the grammar, replaces exactly
the settings whose variables are set, and otherwise blames the first variable at fault
(`load_variables`).
-/

namespace EventMesh

/-! ### Trimming -/

namespace Text

/-- A word with nothing but blanks around it, and none at its ends. -/
structure Trimmed (cs word : List Char) : Prop where
  around : ∃ before after, cs = before ++ (word ++ after) ∧ (∀ c ∈ before, isBlank c = true) ∧
    ∀ c ∈ after, isBlank c = true
  first : ∀ c, word.head? = some c → isBlank c = false
  last : ∀ c, word.getLast? = some c → isBlank c = false

theorem dropWhile_of_head? {cs : List Char} (h : ∀ c, cs.head? = some c → isBlank c = false) :
    cs.dropWhile isBlank = cs := by
  cases cs with
  | nil => rfl
  | cons c cs => simp [h c rfl]

theorem trimRight_append {word after : List Char} (blank : ∀ c ∈ after, isBlank c = true)
    (last : ∀ c, word.getLast? = some c → isBlank c = false) : trimRight (word ++ after) = word := by
  have kept : word.reverse.dropWhile isBlank = word.reverse := by
    apply dropWhile_of_head?
    simpa using last
  rw [trimRight, List.reverse_append, List.dropWhile_append_of_pos (by simpa using blank), kept,
    List.reverse_reverse]

theorem trimRight_prefix (cs : List Char) :
    ∃ after, cs = trimRight cs ++ after ∧ ∀ c ∈ after, isBlank c = true := by
  refine ⟨(cs.reverse.takeWhile isBlank).reverse, ?_, ?_⟩
  · rw [trimRight, ← List.reverse_append, List.takeWhile_append_dropWhile, List.reverse_reverse]
  · intro c hc
    exact List.mem_takeWhile_imp (List.mem_reverse.mp hc)

/-- What trimming leaves is the word between the blanks. -/
theorem trim_eq_iff {cs word : List Char} : trim cs = word ↔ Trimmed cs word := by
  constructor
  · rintro rfl
    obtain ⟨after, rest, blank⟩ := trimRight_prefix (cs.dropWhile isBlank)
    refine ⟨⟨cs.takeWhile isBlank, after, ?_, ?_, blank⟩, ?_, ?_⟩
    · rw [trim, ← rest, List.takeWhile_append_dropWhile]
    · intro c hc
      exact List.mem_takeWhile_imp hc
    · exact head?_trim_not_blank cs
    · exact getLast?_trimRight_not_blank _
  · rintro ⟨⟨before, after, rfl, blank, blank'⟩, first, last⟩
    rw [trim, List.dropWhile_append_of_pos blank]
    cases word with
    | nil => rw [List.nil_append, List.dropWhile_eq_nil_iff.mpr blank']; rfl
    | cons c word =>
      rw [dropWhile_of_head? (by simpa using first)]
      exact trimRight_append blank' last

end Text

/-! ### Numerals -/

namespace Decimal

/-- The numbers that numerals stand for: there may be a plus, and then come one or more digits. -/
inductive Numeral : List Char → Nat → Prop
  | digits {ds : List Char} (nonempty : ds ≠ []) (digit : ∀ c ∈ ds, c.isDigit = true) :
      Numeral ds (Nat.ofDigits 10 (ds.map digitValue).reverse)
  | plus {ds : List Char} (nonempty : ds ≠ []) (digit : ∀ c ∈ ds, c.isDigit = true) :
      Numeral ('+' :: ds) (Nat.ofDigits 10 (ds.map digitValue).reverse)

theorem valueOf_eq (n : Nat) (cs : List Char) :
    valueOf n cs = n * 10 ^ cs.length + Nat.ofDigits 10 (cs.map digitValue).reverse := by
  induction cs generalizing n with
  | nil => simp [valueOf]
  | cons c cs ih =>
    have first : valueOf n (c :: cs) = valueOf (10 * n + digitValue c) cs := rfl
    rw [first, ih, List.map_cons, List.reverse_cons, Nat.ofDigits_append, Nat.ofDigits_singleton,
      List.length_reverse, List.length_map, List.length_cons, pow_succ]
    ring

/-- The digits read so far never make the number larger than it is in the end, so none of them is
refused that is part of a number of 64 bits. -/
theorem readDigits_eq_ok_iff {n m : Nat} {cs : List Char} (small : n < UInt64.size) :
    readDigits n cs = .ok m ↔
      (∀ c ∈ cs, c.isDigit = true) ∧ valueOf n cs = m ∧ m < UInt64.size := by
  induction cs generalizing n with
  | nil =>
    simp only [readDigits, valueOf, List.foldl_nil, Except.ok.injEq, List.not_mem_nil,
      false_implies, implies_true, true_and]
    constructor
    · rintro rfl
      exact ⟨rfl, small⟩
    · rintro ⟨rfl, -⟩
      rfl
  | cons c cs ih =>
    have first : valueOf n (c :: cs) = valueOf (10 * n + digitValue c) cs := rfl
    rw [readDigits, List.forall_mem_cons, first]
    by_cases digit : c.isDigit = true
    · by_cases fits : 10 * n + digitValue c < UInt64.size
      · simp [digit, fits, ih fits]
      · have larger : 10 * n + digitValue c ≤ valueOf (10 * n + digitValue c) cs := by
          rw [valueOf_eq]
          exact Nat.le_add_right_of_le (Nat.le_mul_of_pos_right _ (Nat.pow_pos (by decide)))
        simp only [digit, fits, Bool.not_true, Bool.false_eq_true, if_false, reduceCtorEq,
          true_and, false_iff, not_and]
        rintro - rfl
        omega
    · simp [digit]

/-- Digits are read as the number that they stand for. -/
theorem map_readDigits_eq_ok_iff {cs : List Char} {v : UInt64} :
    (readDigits 0 cs).map UInt64.ofNat = .ok v ↔
      (∀ c ∈ cs, c.isDigit = true) ∧ Nat.ofDigits 10 (cs.map digitValue).reverse = v.toNat := by
  have value : valueOf 0 cs = Nat.ofDigits 10 (cs.map digitValue).reverse := by simp [valueOf_eq]
  rw [← value]
  constructor
  · intro h
    cases read : readDigits 0 cs with
    | error fault => simp [read, Except.map] at h
    | ok m =>
      obtain ⟨digit, rfl, small⟩ := (readDigits_eq_ok_iff (by decide)).mp read
      obtain rfl : UInt64.ofNat (valueOf 0 cs) = v := by simpa [read, Except.map] using h
      exact ⟨digit, (UInt64.toNat_ofNat_of_lt small).symm⟩
  · rintro ⟨digit, same⟩
    rw [(readDigits_eq_ok_iff (by decide)).mpr ⟨digit, same, v.toNat_lt⟩]
    simp [Except.map]

/-- Reading accepts the numerals of numbers below `2 ^ 64`. -/
theorem readWord_eq_ok_iff {cs : List Char} {v : UInt64} :
    readWord cs = .ok v ↔ Numeral cs v.toNat := by
  constructor
  · intro h
    unfold readWord at h
    split at h
    · simp at h
    · simp at h
    · obtain ⟨digit, value⟩ := map_readDigits_eq_ok_iff.mp h
      rw [← value]
      exact .plus (by rintro rfl; simp_all) digit
    · obtain ⟨digit, value⟩ := map_readDigits_eq_ok_iff.mp h
      rw [← value]
      exact .digits (by rintro rfl; simp_all) digit
  · intro h
    generalize value : v.toNat = n at h
    have noPlus : ('+' : Char).isDigit = false := by decide
    cases h with
    | digits nonempty digit =>
      unfold readWord
      split
      · simp at nonempty
      · simp [noPlus] at digit
      · simp [noPlus] at digit
      · exact map_readDigits_eq_ok_iff.mpr ⟨digit, value.symm⟩
    | plus nonempty digit =>
      unfold readWord
      split
      · simp_all
      · simp_all
      · rename_i same
        obtain ⟨-, rfl⟩ := List.cons.inj same
        exact map_readDigits_eq_ok_iff.mpr ⟨digit, value.symm⟩
      · simp_all

end Decimal

namespace Config

open Text Decimal

/-! ### Texts that are understood -/

/-- The spellings of a truth value. -/
def spellings : Bool → List String
  | true => ["true", "1", "yes", "on"]
  | false => ["false", "0", "no", "off"]

/-- A text that means a truth value. -/
def FlagText (text : String) (b : Bool) : Prop :=
  ∃ word, Trimmed text.toList word ∧ String.ofList (word.map Char.toLower) ∈ spellings b

/-- A text that means a number; one of 64 bits, for there are no others in a configuration. -/
def NumberText (text : String) (n : UInt64) : Prop :=
  ∃ word, Trimmed text.toList word ∧ Numeral word n.toNat

theorem readFlag?_eq_some_iff {text : String} {b : Bool} :
    readFlag? text = some b ↔ FlagText text b := by
  have spelled : FlagText text b ↔
      String.ofList ((trim text.toList).map Char.toLower) ∈ spellings b := by
    simp only [FlagText, ← trim_eq_iff, exists_eq_left']
  rw [spelled]
  unfold readFlag?
  generalize String.ofList ((trim text.toList).map Char.toLower) = word
  have apart : word ∈ spellings true → word ∉ spellings false := by
    intro on
    simp only [spellings, List.mem_cons, List.not_mem_nil, or_false] at on
    rcases on with rfl | rfl | rfl | rfl <;> decide
  change (if word ∈ spellings true then some true
    else if word ∈ spellings false then some false else none) = some b ↔ word ∈ spellings b
  by_cases on : word ∈ spellings true
  · cases b <;> simp [on, apart on]
  · by_cases off : word ∈ spellings false <;> cases b <;> simp [on, off]

theorem readFlag_eq_ok_iff (text : String) (b : Bool) : readFlag text = .ok b ↔ FlagText text b := by
  rw [← readFlag?_eq_some_iff, readFlag]
  cases readFlag? text <;> simp

theorem readMillis_eq_ok_iff (text : String) (n : UInt64) :
    readMillis text = .ok n ↔ NumberText text n := by
  have numeral : NumberText text n ↔ readWord (trim text.toList) = .ok n := by
    simp only [NumberText, ← trim_eq_iff, exists_eq_left', readWord_eq_ok_iff]
  rw [numeral, readMillis]
  cases readWord (trim text.toList) <;> simp [Except.mapError]

/-! ### One variable -/

section Variable

variable {α : Type} {s : Surroundings} {name : String} {read : String → Except String α}
  {means : String → α → Prop}

/-- A variable that, if it is set, means something. -/
def Understood (s : Surroundings) (name : String) (means : String → α → Prop) : Prop :=
  ∀ text, s.text? name = some text → ∃ v, means text v

/-- What a setting comes to: what its variable means or, if that is not set, what is below. -/
def Above (text? : Option String) (means : String → α → Prop) (below v : α) : Prop :=
  match text? with
  | none => v = below
  | some text => means text v

theorem Above.understood {below v : α} (h : Above (s.text? name) means below v) :
    Understood s name means := by
  intro text set
  rw [set] at h
  exact ⟨v, h⟩

theorem Above.unique {text? : Option String} {below v w : α}
    (reads : ∀ text v, read text = .ok v ↔ means text v) (hv : Above text? means below v)
    (hw : Above text? means below w) : v = w := by
  cases text? with
  | none => exact hv.trans hw.symm
  | some text => exact Except.ok.inj (((reads text v).mpr hv).symm.trans ((reads text w).mpr hw))

/-- Every text is an identity. -/
theorem ok_eq_ok_iff (text id : String) : (Except.ok text : Except String String) = .ok id ↔
    id = text := by
  rw [Except.ok.injEq, eq_comm]

theorem fromVariable_of_understood (reads : ∀ text v, read text = .ok v ↔ means text v)
    (h : Understood s name means) (below : α) : ∃ v, fromVariable s name read below = .ok v ∧
      Above (s.text? name) means below v := by
  unfold fromVariable
  cases set : s.text? name with
  | none => exact ⟨below, rfl, rfl⟩
  | some text =>
    obtain ⟨v, said⟩ := h text set
    exact ⟨v, by simp [(reads text v).mpr said, Except.mapError], said⟩

theorem fromVariable_of_not_understood (reads : ∀ text v, read text = .ok v ↔ means text v)
    (h : ¬ Understood s name means) (below : α) : ∃ text reason, s.text? name = some text ∧
      read text = .error reason ∧
      fromVariable s name read below = .error (.invalidVariable name reason) := by
  simp only [Understood, not_forall, not_exists] at h
  obtain ⟨text, set, nothing⟩ := h
  cases result : read text with
  | ok v => exact absurd ((reads text v).mp result) (nothing v)
  | error reason =>
    refine ⟨text, reason, set, result, ?_⟩
    simp [fromVariable, set, result, Except.mapError]

end Variable

/-! ### All variables -/

/-- The loader without its variables. -/
def Loader.withoutVariables (l : Loader) : Loader := { l with useVariables := false }

/-- The loader with its variables. -/
def Loader.withVariables (l : Loader) : Loader := { l with useVariables := true }

/-- A configuration that differs from the one below in the settings whose variables are set. -/
structure Replaced (s : Surroundings) (base c : Config) : Prop where
  debug : Above (s.text? debugVariable) FlagText base.debug c.debug
  requestMs : Above (s.text? requestVariable) NumberText base.requestMs c.requestMs
  windowMs : Above (s.text? windowVariable) NumberText base.windowMs c.windowMs
  /-- Every text is an identity, and it is taken as it is. -/
  id : Above (s.text? idVariable) (fun text id => id = text) base.id c.id

/-- Loading failed for the text of a variable that should be a truth value. -/
def BlamesFlag (s : Surroundings) (name : String) (loaded : Except ConfigError Config) : Prop :=
  ∃ text, s.text? name = some text ∧
    loaded = .error (.invalidVariable name (quoted text ++ " is not a bool"))

/-- Loading failed for the text of a variable that should be a number. -/
def BlamesNumber (s : Surroundings) (name : String) (loaded : Except ConfigError Config) : Prop :=
  ∃ text, s.text? name = some text ∧ ∃ fault : WordFault,
    loaded = .error (.invalidVariable name (quoted text ++ ": " ++ fault.message))

/-- What comes of the variables over a configuration from the layers below. -/
structure VariablesDecide (s : Surroundings) (base : Config)
    (loaded : Except ConfigError Config) : Prop where
  accepts : (∃ c, loaded = .ok c) ↔ Understood s debugVariable FlagText ∧
    Understood s requestVariable NumberText ∧ Understood s windowVariable NumberText
  replaces : ∀ c, loaded = .ok c ↔ Replaced s base c
  blames_debug : ¬ Understood s debugVariable FlagText → BlamesFlag s debugVariable loaded
  blames_request : Understood s debugVariable FlagText →
    ¬ Understood s requestVariable NumberText → BlamesNumber s requestVariable loaded
  blames_window : Understood s debugVariable FlagText → Understood s requestVariable NumberText →
    ¬ Understood s windowVariable NumberText → BlamesNumber s windowVariable loaded

section Loading

variable {s : Surroundings} {base c c' : Config}

/-- No text is understood in two ways. -/
theorem Replaced.unique (h : Replaced s base c) (h' : Replaced s base c') : c = c' := by
  have debug := h.debug.unique readFlag_eq_ok_iff h'.debug
  have requestMs := h.requestMs.unique readMillis_eq_ok_iff h'.requestMs
  have windowMs := h.windowMs.unique readMillis_eq_ok_iff h'.windowMs
  have id := h.id.unique ok_eq_ok_iff h'.id
  cases c
  cases c'
  simp only at debug requestMs windowMs id
  rw [debug, id, requestMs, windowMs]

theorem Replaced.understood (h : Replaced s base c) : Understood s debugVariable FlagText ∧
    Understood s requestVariable NumberText ∧ Understood s windowVariable NumberText :=
  ⟨h.debug.understood, h.requestMs.understood, h.windowMs.understood⟩

theorem readFlag_error {text reason : String} (h : readFlag text = .error reason) :
    reason = quoted text ++ " is not a bool" := by
  unfold readFlag at h
  split at h
  · simp at h
  · exact (Except.error.inj h).symm

theorem readMillis_error {text reason : String} (h : readMillis text = .error reason) :
    ∃ fault : WordFault, reason = quoted text ++ ": " ++ fault.message := by
  unfold readMillis at h
  cases read : readWord (trim text.toList) with
  | ok n => simp [read, Except.mapError] at h
  | error fault => exact ⟨fault, by simpa [read, Except.mapError] using h.symm⟩

/-- Where every variable is understood, the settings are replaced. -/
theorem VariablesDecide.of_ok (replaced : Replaced s base c) : VariablesDecide s base (.ok c) := by
  obtain ⟨debug, request, window⟩ := replaced.understood
  constructor
  · exact iff_of_true ⟨c, rfl⟩ ⟨debug, request, window⟩
  · intro c'
    constructor
    · intro h
      obtain rfl := Except.ok.inj h
      exact replaced
    · intro h
      rw [replaced.unique h]
  · exact fun wrong => absurd debug wrong
  · exact fun _ wrong => absurd request wrong
  · exact fun _ _ wrong => absurd window wrong

/-- Where a variable is at fault, nothing is accepted and nothing replaced. -/
theorem VariablesDecide.of_error {e : ConfigError}
    (fault : ¬ (Understood s debugVariable FlagText ∧ Understood s requestVariable NumberText ∧
      Understood s windowVariable NumberText))
    (blames_debug : ¬ Understood s debugVariable FlagText → BlamesFlag s debugVariable (.error e))
    (blames_request : Understood s debugVariable FlagText →
      ¬ Understood s requestVariable NumberText → BlamesNumber s requestVariable (.error e))
    (blames_window : Understood s debugVariable FlagText → Understood s requestVariable NumberText →
      ¬ Understood s windowVariable NumberText → BlamesNumber s windowVariable (.error e)) :
    VariablesDecide s base (.error e) := by
  refine ⟨iff_of_false (by simp) fault, ?_, blames_debug, blames_request, blames_window⟩
  intro c
  exact iff_of_false (by simp) fun replaced => fault replaced.understood

/-- The variables are laid over a configuration one after the other, and the first at fault ends it. -/
theorem applyVariables_decide (s : Surroundings) (base : Config) :
    VariablesDecide s base (applyVariables s base) := by
  unfold applyVariables
  by_cases debug : Understood s debugVariable FlagText
  case neg =>
    obtain ⟨text, reason, set, wrong, result⟩ :=
      fromVariable_of_not_understood readFlag_eq_ok_iff debug base.debug
    obtain rfl := readFlag_error wrong
    rw [result]
    apply VariablesDecide.of_error
    · exact fun understood => debug understood.1
    · exact fun _ => ⟨text, set, rfl⟩
    · exact fun understood => absurd understood debug
    · exact fun understood => absurd understood debug
  obtain ⟨b, result, debug_above⟩ :=
    fromVariable_of_understood readFlag_eq_ok_iff debug base.debug
  rw [result]
  by_cases request : Understood s requestVariable NumberText
  case neg =>
    obtain ⟨text, reason, set, wrong, result⟩ :=
      fromVariable_of_not_understood readMillis_eq_ok_iff request base.requestMs
    obtain ⟨fault, rfl⟩ := readMillis_error wrong
    rw [result]
    apply VariablesDecide.of_error
    · exact fun understood => request understood.2.1
    · exact fun not_understood => absurd debug not_understood
    · exact fun _ _ => ⟨text, set, fault, rfl⟩
    · exact fun _ understood => absurd understood request
  obtain ⟨m, result, request_above⟩ :=
    fromVariable_of_understood readMillis_eq_ok_iff request base.requestMs
  rw [result]
  by_cases window : Understood s windowVariable NumberText
  case neg =>
    obtain ⟨text, reason, set, wrong, result⟩ :=
      fromVariable_of_not_understood readMillis_eq_ok_iff window base.windowMs
    obtain ⟨fault, rfl⟩ := readMillis_error wrong
    rw [result]
    apply VariablesDecide.of_error
    · exact fun understood => window understood.2.2
    · exact fun not_understood => absurd debug not_understood
    · exact fun _ not_understood => absurd request not_understood
    · exact fun _ _ _ => ⟨text, set, fault, rfl⟩
  obtain ⟨n, result, window_above⟩ :=
    fromVariable_of_understood readMillis_eq_ok_iff window base.windowMs
  -- Every text is understood as an identity.
  have any : Understood s idVariable fun text (id : String) => id = text := by
    intro text _
    exact ⟨text, rfl⟩
  obtain ⟨id, result', id_above⟩ := fromVariable_of_understood ok_eq_ok_iff any base.id
  rw [result, result']
  exact VariablesDecide.of_ok ⟨debug_above, request_above, window_above, id_above⟩

/-- Without the variables nothing depends on them. -/
theorem mergeFiles_texts (s : Surroundings) (texts : String → Option String) (paths : List String)
    (c : Config) : mergeFiles { s with text? := texts } paths c = mergeFiles s paths c := by
  induction paths generalizing c with
  | nil => rfl
  | cons path rest ih =>
    have same : layerAt { s with text? := texts } path = layerAt s path := rfl
    simp only [mergeFiles, same, ih]

theorem load_withVariables (l : Loader) (s : Surroundings) :
    l.withVariables.load s = l.withoutVariables.load s >>= applyVariables s := by
  have files : l.withVariables.files s.home = l.withoutVariables.files s.home := rfl
  unfold Loader.load
  rw [files]
  cases mergeFiles s (l.withoutVariables.files s.home) {} <;> rfl

end Loading

/-- What the variables are to a loader. -/
structure VariableLayer (l : Loader) (s : Surroundings) : Prop where
  /-- Without its variables the loader does not look at any. -/
  skipped : ∀ texts, l.withoutVariables.load { s with text? := texts } = l.withoutVariables.load s
  /-- What is wrong below the variables is wrong with them. -/
  below : ∀ e, l.withoutVariables.load s = .error e → l.withVariables.load s = .error e
  decides : ∀ base, l.withoutVariables.load s = .ok base →
    VariablesDecide s base (l.withVariables.load s)

/-- **The variables are accepted by their grammar and replace what they name**, whatever the layers
below gave, and they are no concern of a loader without them. -/
theorem load_variables (l : Loader) (s : Surroundings) : VariableLayer l s := by
  constructor
  · intro texts
    have files := mergeFiles_texts s texts (l.withoutVariables.files s.home) {}
    unfold Loader.load
    simp only [files]
    rfl
  · intro e wrong
    rw [load_withVariables, wrong]
    rfl
  · intro base lower
    rw [load_withVariables, lower]
    exact applyVariables_decide s base

/-- Variables with blanks around them, a plus, zeros in front and an empty identity, and whatever stands
in the variable for the window. -/
def shouted (window : Option String) : Surroundings where
  home := "/home"
  file _ := .missing
  text? name :=
    if name = debugVariable then some "\u3000YES\n"
    else if name = requestVariable then some " +0250"
    else if name = windowVariable then window
    else if name = idVariable then some ""
    else none

/-- Each of the variables replaces its setting until one that is too large is found. -/
theorem load_variables_shouted :
    ({} : Loader).load (shouted none) = .ok { debug := true, id := "", requestMs := 250 } ∧
      BlamesNumber (shouted (some "18446744073709551616")) windowVariable
        (({} : Loader).load (shouted (some "18446744073709551616"))) := by
  have lower (window : Option String) :
      ({} : Loader).withoutVariables.load (shouted window) = .ok {} := rfl
  have yes : FlagText "\u3000YES\n" true := (readFlag_eq_ok_iff _ _).mp (by cbv)
  have number : NumberText " +0250" 250 := (readMillis_eq_ok_iff _ _).mp (by cbv)
  constructor
  · have decides := (load_variables {} (shouted none)).decides {} (lower none)
    exact (decides.replaces _).mpr ⟨yes, number, rfl, rfl⟩
  · have decides := (load_variables {} (shouted (some "18446744073709551616"))).decides {} (lower _)
    apply decides.blames_window
    · rintro text ⟨⟩
      exact ⟨true, yes⟩
    · rintro text ⟨⟩
      exact ⟨250, number⟩
    · intro understood
      obtain ⟨n, h⟩ := understood "18446744073709551616" rfl
      have tooLarge : (readMillis "18446744073709551616").toOption = none := by cbv
      rw [(readMillis_eq_ok_iff _ _).mpr h] at tooLarge
      simp [Except.toOption] at tooLarge

end Config

end EventMesh
