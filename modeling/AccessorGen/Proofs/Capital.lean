import AccessorGen.FieldDecl
import AccessorGen.Proofs.Identifier

/-!
# Capitalized names

An accessor's name is a fixed word with the field's name behind it, capitalized. It has the form of an
identifier because the upper case of a character is that character or a letter. The tables of cases
and of letters are held against each other once, run by run rather than character by character: with
one exception the images of a run lie in a single interval of letters.
-/

set_option autoImplicit false

namespace AccessorGen

namespace Text

theorem isAlphabetic_caseRuns :
    (caseRuns.all fun r =>
      (alphabeticRanges.any fun e =>
        e.1.ble r.target && (r.target + (r.last - r.first)).ble e.2) ||
        (List.range (r.last - r.first + 1)).all fun i =>
          i % r.step != 0 || isAlphabetic (Char.ofNat (r.target + i))) = true := by
  decide +kernel

/-- No interval of letters reaches into the code points that are no characters. -/
theorem isValidChar_alphabeticRanges :
    (alphabeticRanges.all fun e =>
      e.2 < 0xD800 || (0xDFFF < e.1 && e.2 < 0x110000)) = true := by
  decide +kernel

theorem isAlphabetic_ofNat {e : Nat × Nat} (he : e ∈ alphabeticRanges) {n : Nat} (h₁ : e.1 ≤ n)
    (h₂ : n ≤ e.2) : isAlphabetic (Char.ofNat n) = true := by
  have hvalid : n.isValidChar := by
    have h := List.all_eq_true.mp isValidChar_alphabeticRanges e he
    simp only [Bool.or_eq_true, Bool.and_eq_true, decide_eq_true_eq] at h
    simp only [Nat.isValidChar]
    omega
  rw [isAlphabetic, Ranges.has_iff]
  refine ⟨e, he, ?_⟩
  rw [Char.ofNat, dif_pos hvalid]
  exact ⟨h₁, h₂⟩

theorem isAlphabetic_image {r : CaseRun} (hr : r ∈ caseRuns) {n m : Nat}
    (h : r.image? n = some m) : isAlphabetic (Char.ofNat m) = true := by
  rw [CaseRun.image?] at h
  split at h
  · next hn =>
    simp only [Bool.and_eq_true, decide_eq_true_eq, beq_iff_eq] at hn
    obtain ⟨⟨hfirst, hlast⟩, hstep⟩ := hn
    cases h
    have hall := List.all_eq_true.mp isAlphabetic_caseRuns r hr
    rw [Bool.or_eq_true] at hall
    rcases hall with hall | hall
    · obtain ⟨e, he, hin⟩ := List.any_eq_true.mp hall
      simp only [Bool.and_eq_true, Nat.ble_eq] at hin
      exact isAlphabetic_ofNat he (by omega) (by omega)
    · have hi := List.all_eq_true.mp hall (n - r.first) (List.mem_range.mpr (by omega))
      simpa [hstep] using hi
  · exact absurd h (by simp)

/-- The upper case of a character is the character itself or a letter. -/
theorem upperChar_cases (c : Char) : upperChar c = c ∨ isAlphabetic (upperChar c) = true := by
  rw [upperChar]
  cases h : caseRuns.findSome? (·.image? c.toNat) with
  | none => exact Or.inl rfl
  | some n =>
    obtain ⟨r, hr, hn⟩ := List.exists_of_findSome?_eq_some h
    exact Or.inr (isAlphabetic_image hr hn)

theorem toList_capitalize (s : String) :
    (capitalize s).toList = s.toList.modifyHead upperChar := by
  rw [capitalize]
  cases s.toList with
  | nil => rfl
  | cons c rest => exact String.toList_ofList

theorem length_capitalize (s : String) : (capitalize s).length = s.length := by
  rw [← String.length_toList, toList_capitalize, List.length_modifyHead, String.length_toList]

/-- Capitalizing leaves all but the first character as it is. -/
theorem tail_toList_capitalize (s : String) : (capitalize s).toList.tail = s.toList.tail := by
  rw [toList_capitalize]
  cases s.toList <;> rfl

/-- The texts differ in their first character alone, and capitalized not even there. -/
def DifferInCase (s t : String) : Prop :=
  ∃ a b rest, s.toList = a :: rest ∧ t.toList = b :: rest ∧ a ≠ b ∧ upperChar a = upperChar b

/-- **What becomes the same when it is capitalized.** -/
theorem capitalize_eq_iff {s t : String} (hne : s ≠ t) :
    capitalize s = capitalize t ↔ DifferInCase s t := by
  have hlists : s.toList ≠ t.toList := fun h => hne (String.toList_inj.mp h)
  rw [← String.toList_inj, toList_capitalize, toList_capitalize]
  constructor
  · intro h
    cases hs : s.toList with
    | nil =>
      rw [hs, List.modifyHead_nil, eq_comm, List.modifyHead_eq_nil_iff] at h
      exact absurd (hs.trans h.symm) hlists
    | cons a rest =>
      cases ht : t.toList with
      | nil =>
        rw [hs, ht] at h
        cases h
      | cons b rest' =>
        rw [hs, ht, List.modifyHead_cons, List.modifyHead_cons] at h
        obtain ⟨hab, rfl⟩ := List.cons.inj h
        refine ⟨a, b, rest, hs, ht, ?_, hab⟩
        intro he
        exact hlists (by rw [hs, ht, he])
  · intro h
    obtain ⟨a, b, rest, hs, ht, -, hab⟩ := h
    rw [hs, ht, List.modifyHead_cons, List.modifyHead_cons, hab]

/-- Capitalizing brings in nothing but letters. -/
theorem not_mem_capitalize {a : Char} (ha : isAlphabetic a = false) {s : String}
    (h : a ∉ s.toList) : a ∉ (capitalize s).toList := by
  rw [toList_capitalize]
  cases hs : s.toList with
  | nil => exact List.not_mem_nil
  | cons c rest =>
    rw [hs, List.mem_cons, not_or] at h
    rw [List.modifyHead_cons, List.mem_cons, not_or]
    refine ⟨?_, h.2⟩
    rcases upperChar_cases c with hc | hc
    · rw [hc]
      exact h.1
    · intro he
      rw [he, hc] at ha
      exact absurd ha (by simp)

end Text

theorem continuesIdentifier_upperChar {c : Char} (h : continuesIdentifier c = true) :
    continuesIdentifier (Text.upperChar c) = true := by
  rcases Text.upperChar_cases c with hc | hc
  · rw [hc]
    exact h
  · simp [continuesIdentifier, Text.isAlphanumeric, hc]

theorem continuesIdentifier_capitalize {s : String} (h : hasIdentifierForm s.toList = true)
    {c : Char} (hc : c ∈ (Text.capitalize s).toList) : continuesIdentifier c = true := by
  rw [Text.toList_capitalize] at hc
  cases hs : s.toList with
  | nil =>
    rw [hs] at hc
    exact absurd hc List.not_mem_nil
  | cons a rest =>
    rw [hs] at hc h
    rcases List.mem_cons.mp hc with rfl | hc
    · exact continuesIdentifier_upperChar (continuesIdentifier_of_mem h List.mem_cons_self)
    · exact continuesIdentifier_of_mem h (List.mem_cons_of_mem _ hc)

/-- What continues an identifier can be put behind one. -/
theorem hasIdentifierForm_append {word rest : List Char} (h : hasIdentifierForm word = true)
    (hr : ∀ c ∈ rest, continuesIdentifier c = true) : hasIdentifierForm (word ++ rest) = true := by
  cases word with
  | nil => exact absurd h (by simp [hasIdentifierForm])
  | cons a word =>
    simp only [hasIdentifierForm, List.cons_append, Bool.and_eq_true, List.all_eq_true] at h ⊢
    refine ⟨h.1, fun c hc => ?_⟩
    rcases List.mem_append.mp hc with hc | hc
    · exact h.2 c hc
    · exact hr c hc

namespace FieldDecl

theorem hasIdentifierForm_readerName {f : FieldDecl} (h : isIdentifier f.name = true) :
    hasIdentifierForm f.readerName.toList = true := by
  rw [readerName, String.toList_append]
  refine hasIdentifierForm_append ?_ fun c hc =>
    continuesIdentifier_capitalize (hasIdentifierForm_of_isIdentifier h) hc
  cases f.isBoolean <;> decide +kernel

theorem hasIdentifierForm_writerName {f : FieldDecl} (h : isIdentifier f.name = true) :
    hasIdentifierForm f.writerName.toList = true := by
  rw [writerName, String.toList_append]
  refine hasIdentifierForm_append (by decide +kernel) fun c hc =>
    continuesIdentifier_capitalize (hasIdentifierForm_of_isIdentifier h) hc

end FieldDecl

end AccessorGen
