import AccessorGen.Schema.Check

/-!
# Identifiers

The check of names reports on two counts, the form of the text and the list of reserved words. Here
the two are one predicate, `isIdentifier`, and the report is valid exactly when it holds
(`isValid_checkIdentifier`).

What everything else needs to know of an identifier is what is *not* in it: none of the characters
that take Java apart. That is one look-up per character in the tables of letters and numbers, done
once for all of them (`continuesIdentifier_punctuation`), so no later proof opens the tables.
-/

set_option autoImplicit false

namespace AccessorGen

/-- Whether the text is an identifier: of the right form, and none of the reserved words. -/
def isIdentifier (s : String) : Bool := hasIdentifierForm s.toList && !reservedWords.contains s

/-- **The check of a name accepts exactly the identifiers.** The empty text has a branch of its own
there, and none here: it has not the form. -/
theorem isValid_checkIdentifier (what location s : String) :
    (checkIdentifier what location s).isValid = isIdentifier s := by
  unfold checkIdentifier isIdentifier
  by_cases hs : s = ""
  · subst hs
    rfl
  · rw [if_neg hs, Report.isValid_append]
    cases hasIdentifierForm s.toList <;> cases reservedWords.contains s <;> rfl

/-- The characters that separate the words of a line of Java. -/
def punctuation : List Char :=
  [' ', '.', ',', '(', ')', '"', ';', '=', '\x7b', '\x7d', '/', '*', '\n', '@', '\\']

theorem continuesIdentifier_punctuation :
    ∀ c ∈ punctuation, continuesIdentifier c = false := by
  -- over the list: the characters could be gone through one by one as well, all of them
  have hall : (punctuation.all fun c => !continuesIdentifier c) = true := by decide +kernel
  simpa only [List.all_eq_true, Bool.not_eq_true'] using hall

/-- What may start an identifier may also go on with it. -/
theorem continuesIdentifier_of_starts {c : Char} (h : startsIdentifier c = true) :
    continuesIdentifier c = true := by
  simp only [startsIdentifier, continuesIdentifier, Text.isAlphanumeric, Bool.or_eq_true] at *
  rcases h with (h | h) | h
  · exact Or.inl (Or.inl (Or.inl h))
  · exact Or.inl (Or.inr h)
  · exact Or.inr h

theorem continuesIdentifier_of_mem {cs : List Char} (h : hasIdentifierForm cs = true) {c : Char}
    (hm : c ∈ cs) : continuesIdentifier c = true := by
  cases cs with
  | nil => exact absurd h (by simp [hasIdentifierForm])
  | cons a rest =>
    simp only [hasIdentifierForm, Bool.and_eq_true, List.all_eq_true] at h
    rcases List.mem_cons.mp hm with rfl | hm
    · exact continuesIdentifier_of_starts h.1
    · exact h.2 c hm

/-- No punctuation stands in an identifier. -/
theorem not_mem_of_hasIdentifierForm {cs : List Char} (h : hasIdentifierForm cs = true) {c : Char}
    (hp : c ∈ punctuation) : c ∉ cs := by
  intro hm
  have hc := continuesIdentifier_of_mem h hm
  rw [continuesIdentifier_punctuation c hp] at hc
  exact Bool.noConfusion hc

theorem hasIdentifierForm_of_isIdentifier {s : String} (h : isIdentifier s = true) :
    hasIdentifierForm s.toList = true := by
  simp only [isIdentifier, Bool.and_eq_true] at h
  exact h.1

theorem not_mem_of_isIdentifier {s : String} (h : isIdentifier s = true) {c : Char}
    (hp : c ∈ punctuation) : c ∉ s.toList :=
  not_mem_of_hasIdentifierForm (hasIdentifierForm_of_isIdentifier h) hp

theorem not_mem_reservedWords {s : String} (h : isIdentifier s = true) : s ∉ reservedWords := by
  simp only [isIdentifier, Bool.and_eq_true, Bool.not_eq_true', List.contains_eq_mem,
    decide_eq_false_iff_not] at h
  exact h.2

theorem ne_empty_of_isIdentifier {s : String} (h : isIdentifier s = true) : s ≠ "" := by
  rintro rfl
  exact absurd h (by decide)

end AccessorGen
