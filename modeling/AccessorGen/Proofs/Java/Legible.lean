import AccessorGen.Proofs.Java.Reading
import AccessorGen.Proofs.Lines

/-!
# Statements read back

The reader takes a line apart at its punctuation, so a statement is read back if no punctuation stands
in the names and texts it is made of (`Statement.Legible`). That is the whole condition: nothing is
asked of the statements around it.
-/

set_option autoImplicit false

namespace AccessorGen.Java

/-! ## Cutting -/

theorem cutAt_append {c : Char} {before : List Char} (h : c ∉ before) (after : List Char) :
    cutAt c (before ++ c :: after) = some (before, after) := by
  induction before with
  | nil => simp [cutAt]
  | cons a rest ih =>
    simp only [List.mem_cons, not_or] at h
    rw [List.cons_append, cutAt, if_neg (Ne.symm h.1), ih h.2]
    rfl

theorem cutAt_eq_none {c : Char} {cs : List Char} (h : c ∉ cs) : cutAt c cs = none := by
  induction cs with
  | nil => rfl
  | cons a rest ih =>
    simp only [List.mem_cons, not_or] at h
    rw [cutAt, if_neg (Ne.symm h.1), ih h.2]
    rfl

theorem cutAtLast_append {c : Char} (before : List Char) {after : List Char} (h : c ∉ after) :
    cutAtLast c (before ++ c :: after) = some (before, after) := by
  rw [cutAtLast, List.reverse_append, List.reverse_cons, List.append_assoc, List.singleton_append,
    cutAt_append (by simpa using h)]
  simp

theorem isPrefixOf?_append (front rest : List Char) :
    front.isPrefixOf? (front ++ rest) = some rest :=
  List.isPrefixOf?_eq_some_iff_append_eq.mpr rfl

theorem isSuffixOf?_append (front back : List Char) :
    back.isSuffixOf? (front ++ back) = some front :=
  List.isSuffixOf?_eq_some_iff_append_eq.mpr rfl

/-- A text that lacks a character of the prefix does not start with it. -/
theorem isPrefixOf?_eq_none {c : Char} {front cs : List Char} (hf : c ∈ front) (hc : c ∉ cs) :
    front.isPrefixOf? cs = none := by
  cases h : front.isPrefixOf? cs with
  | none => rfl
  | some rest =>
    rw [List.isPrefixOf?_eq_some_iff_append_eq] at h
    exact absurd (h ▸ List.mem_append_left rest hf) hc

/-- A text whose last character differs does not end with the suffix. -/
theorem isSuffixOf?_eq_none {a b : Char} (front cs : List Char) (h : a ≠ b) :
    (front ++ [a]).isSuffixOf? (cs ++ [b]) = none := by
  cases hs : (front ++ [a]).isSuffixOf? (cs ++ [b]) with
  | none => rfl
  | some rest =>
    rw [List.isSuffixOf?_eq_some_iff_append_eq, ← List.append_assoc] at hs
    have := List.append_inj_right' hs rfl
    exact absurd (List.cons.inj this).1 h

/-! ## Names -/

theorem name?_toList {s : String} (h : hasIdentifierForm s.toList = true) :
    name? s.toList = some s := by
  rw [name?, if_pos h, String.ofList_toList]

/-- Names with dots between them, which a reader does not take for the word `return`. -/
def IsClassName (s : String) : Prop :=
  (s.toList.splitOn '.').all hasIdentifierForm = true ∧ s ≠ "return"

theorem className?_toList {s : String} (h : IsClassName s) : className? s.toList = some s := by
  rw [className?, if_pos h.1, String.ofList_toList]

theorem not_mem_of_isClassName {s : String} (h : IsClassName s) {c : Char}
    (hp : c ∈ punctuation) (hd : c ≠ '.') : c ∉ s.toList := by
  intro hm
  rcases Text.mem_splitOn_of_mem '.' hm with hc | ⟨part, hpart, hc⟩
  · exact hd hc
  · exact not_mem_of_hasIdentifierForm (List.all_eq_true.mp h.1 part hpart) hp hc

/-- A text that can stand in a string literal as it is. -/
def IsPlain (s : String) : Prop := '"' ∉ s.toList ∧ '\\' ∉ s.toList ∧ '\n' ∉ s.toList

theorem literal?_append {s : String} (h : IsPlain s) (rest : List Char) :
    literal? (s.toList ++ '"' :: rest) = some (s, rest) := by
  simp [literal?, cutAt_append h.1, h.2.1]

theorem access?_append {object field : String} (ho : hasIdentifierForm object.toList = true)
    (hf : hasIdentifierForm field.toList = true) :
    access? (object.toList ++ '.' :: field.toList) = some (object, field) := by
  have hcut : '.' ∉ object.toList := not_mem_of_hasIdentifierForm ho (by decide)
  simp [access?, cutAt_append hcut, name?_toList ho, name?_toList hf]

/-! ## Statements -/

/-- What a statement must be made of for its text to be read back. -/
def Statement.Legible : Statement → Prop
  | .declareNew type name => IsClassName type ∧ hasIdentifierForm name.toList = true
  | .assign object field value =>
    hasIdentifierForm object.toList = true ∧ hasIdentifierForm field.toList = true ∧
      hasIdentifierForm value.toList = true
  | .returnVariable name => hasIdentifierForm name.toList = true
  | .returnField object field =>
    hasIdentifierForm object.toList = true ∧ hasIdentifierForm field.toList = true
  | .startString text | .appendText text => IsPlain text
  | .appendField label object field _ =>
    IsPlain label ∧ hasIdentifierForm object.toList = true ∧ hasIdentifierForm field.toList = true
  | .returnString => True

theorem statement?_semicolon (cs : List Char) : statement? (cs ++ [';']) = clause? cs := by
  rw [statement?, isSuffixOf?_append]
  rfl

theorem clause?_start (cs : List Char) :
    clause? ("StringBuilder sb = new StringBuilder(\"".toList ++ cs) = started? cs := rfl

theorem clause?_append (cs : List Char) :
    clause? ("sb.append(\"".toList ++ cs) = appended? cs := rfl

theorem clause?_return (cs : List Char) : clause? ("return ".toList ++ cs) = returned? cs := rfl

/-- Without quotation marks, and with another word than `return` before the first blank, a clause
declares or assigns. -/
theorem clause?_eq_stored? {word rest : List Char} (hq : '"' ∉ word ++ ' ' :: rest)
    (hb : ' ' ∉ word) (hr : word ≠ "return".toList) :
    clause? (word ++ ' ' :: rest) = stored? (word ++ ' ' :: rest) := by
  have hreturn : "return ".toList.isPrefixOf? (word ++ ' ' :: rest) = none := by
    cases h : "return ".toList.isPrefixOf? (word ++ ' ' :: rest) with
    | none => rfl
    | some after =>
      rw [List.isPrefixOf?_eq_some_iff_append_eq] at h
      have hcut := cutAt_append hb rest
      rw [← h, show "return ".toList ++ after = "return".toList ++ ' ' :: after from rfl,
        cutAt_append (by decide)] at hcut
      simp only [Option.some.injEq, Prod.mk.injEq] at hcut
      exact absurd hcut.1.symm hr
  rw [clause?, isPrefixOf?_eq_none (c := '"') (by decide) hq,
    isPrefixOf?_eq_none (c := '"') (by decide) hq, hreturn]

theorem not_mem_access {object field : String} (ho : hasIdentifierForm object.toList = true)
    (hf : hasIdentifierForm field.toList = true) {c : Char} (hp : c ∈ punctuation) (hd : c ≠ '.') :
    c ∉ object.toList ++ '.' :: field.toList := by
  simp only [List.mem_append, List.mem_cons, not_or]
  exact ⟨not_mem_of_hasIdentifierForm ho hp, hd, not_mem_of_hasIdentifierForm hf hp⟩

theorem returned?_access {object field : String} (ho : hasIdentifierForm object.toList = true)
    (hf : hasIdentifierForm field.toList = true) :
    returned? (object.toList ++ '.' :: field.toList) = some (.returnField object field) := by
  have hne : object.toList ++ '.' :: field.toList ≠ "sb.toString()".toList := fun he =>
    not_mem_access (c := '(') ho hf (by decide) (by decide) (he ▸ (by decide))
  rw [returned?, if_neg hne, access?_append ho hf]

theorem returned?_name {name : String} (h : hasIdentifierForm name.toList = true) :
    returned? name.toList = some (.returnVariable name) := by
  have hdot : '.' ∉ name.toList := not_mem_of_hasIdentifierForm h (by decide)
  have hne : name.toList ≠ "sb.toString()".toList := fun he => hdot (he ▸ (by decide))
  have hnone : access? name.toList = none := by simp [access?, cutAt_eq_none hdot]
  rw [returned?, if_neg hne, hnone, name?_toList h]
  rfl

theorem appended?_text {text : String} (h : IsPlain text) :
    appended? (text.toList ++ '"' :: [')']) = some (.appendText text) := by
  rw [appended?, literal?_append h]
  rfl

/-- The cast is told from a name by its parenthesis. -/
theorem appended?_field {label object field : String} (hl : IsPlain label)
    (ho : hasIdentifierForm object.toList = true) (hf : hasIdentifierForm field.toList = true)
    (asObject : Bool) :
    appended? (label.toList ++ '"' :: (").append(String.valueOf(".toList ++
        ((if asObject then "(Object) " else "").toList ++ (object.toList ++ '.' :: field.toList) ++
        "))".toList))) = some (.appendField label object field asObject) := by
  have haccess := access?_append ho hf
  have hparen : '(' ∉ object.toList ++ '.' :: field.toList :=
    not_mem_access ho hf (by decide) (by decide)
  have hplain : "(Object) ".toList.isPrefixOf? (object.toList ++ '.' :: field.toList) = none :=
    isPrefixOf?_eq_none (by decide) hparen
  generalize object.toList ++ '.' :: field.toList = access at haccess hplain ⊢
  have hne : ∀ rest, ").append(String.valueOf(".toList ++ rest ≠ [')'] := by
    intro rest he
    exact absurd (congrArg List.length he) (by simp)
  rw [appended?, literal?_append hl]
  simp only [Option.bind_eq_bind, Option.bind_some, if_neg (hne _), isPrefixOf?_append,
    isSuffixOf?_append]
  cases asObject with
  | true =>
    simp only [if_true, isPrefixOf?_append, haccess, Option.bind_some]
    rfl
  | false =>
    rw [if_neg (by simp), show "".toList ++ access = access from rfl, hplain]
    simp only [haccess, Option.bind_some]
    rfl

theorem started?_text {text : String} (h : IsPlain text) :
    started? (text.toList ++ '"' :: [')']) = some (.startString text) := by
  rw [started?, literal?_append h]
  rfl

/-- The sides of an equals sign, each a blank away from it. -/
theorem stored?_sides {left : List Char} (h : '=' ∉ left) (right : List Char) :
    stored? (left ++ ' ' :: '=' :: ' ' :: right) =
      match "new ".toList.isPrefixOf? right with
      | some made => do
        let made ← "()".toList.isSuffixOf? made
        let (type, name) ← cutAt ' ' left
        if type = made then return .declareNew (← className? type) (← name? name) else none
      | none => do
        let (object, field) ← access? left
        return .assign object field (← name? right) := by
  have hcut : cutAt '=' (left ++ ' ' :: '=' :: ' ' :: right) = some (left ++ [' '], ' ' :: right) := by
    rw [show left ++ ' ' :: '=' :: ' ' :: right = (left ++ [' ']) ++ '=' :: ' ' :: right by simp]
    exact cutAt_append (by simpa using h) _
  rw [stored?, hcut]
  simp only [Option.bind_eq_bind, Option.bind_some, isSuffixOf?_append]
  rfl

theorem stored?_declareNew {type name : String} (ht : IsClassName type)
    (hn : hasIdentifierForm name.toList = true) :
    stored? (type.toList ++ ' ' :: (name.toList ++ ' ' :: '=' :: ' ' ::
      ("new ".toList ++ (type.toList ++ "()".toList)))) = some (.declareNew type name) := by
  have hleft : '=' ∉ type.toList ++ ' ' :: name.toList := by
    simp only [List.mem_append, List.mem_cons, not_or]
    exact ⟨not_mem_of_isClassName ht (by decide) (by decide), by decide,
      not_mem_of_hasIdentifierForm hn (by decide)⟩
  have hblank : ' ' ∉ type.toList := not_mem_of_isClassName ht (by decide) (by decide)
  have hsides := stored?_sides hleft ("new ".toList ++ (type.toList ++ "()".toList))
  rw [List.append_assoc, List.cons_append] at hsides
  rw [hsides, isPrefixOf?_append]
  simp only [Option.bind_eq_bind, Option.bind_some, isSuffixOf?_append, cutAt_append hblank, if_true,
    className?_toList ht, name?_toList hn]
  rfl

theorem stored?_assign {object field value : String} (ho : hasIdentifierForm object.toList = true)
    (hf : hasIdentifierForm field.toList = true) (hv : hasIdentifierForm value.toList = true) :
    stored? (object.toList ++ '.' :: field.toList ++ ' ' :: '=' :: ' ' :: value.toList) =
      some (.assign object field value) := by
  have hblank : ' ' ∉ value.toList := not_mem_of_hasIdentifierForm hv (by decide)
  rw [stored?_sides (not_mem_access ho hf (by decide) (by decide)),
    isPrefixOf?_eq_none (c := ' ') (by decide) hblank]
  simp only [Option.bind_eq_bind, access?_append ho hf, Option.bind_some, name?_toList hv]
  rfl

/-! ### The characters of a statement, clause and semicolon

One equation per constructor, each by evaluation: the equations of `Statement.text` itself are slow
to derive. -/

namespace Statement

theorem toList_declareNew (type name : String) :
    (declareNew type name).text.toList = type.toList ++ ' ' :: (name.toList ++ ' ' :: '=' :: ' ' ::
      ("new ".toList ++ (type.toList ++ "()".toList))) ++ [';'] := by
  show (type ++ " " ++ name ++ " = new " ++ type ++ "();").toList = _
  simp

theorem toList_assign (object field value : String) :
    (assign object field value).text.toList =
      object.toList ++ '.' :: field.toList ++ ' ' :: '=' :: ' ' :: value.toList ++ [';'] := by
  show (object ++ "." ++ field ++ " = " ++ value ++ ";").toList = _
  simp

theorem toList_returnVariable (name : String) :
    (returnVariable name).text.toList = "return ".toList ++ name.toList ++ [';'] := by
  show ("return " ++ name ++ ";").toList = _
  simp

theorem toList_returnField (object field : String) :
    (returnField object field).text.toList =
      "return ".toList ++ (object.toList ++ '.' :: field.toList) ++ [';'] := by
  show ("return " ++ object ++ "." ++ field ++ ";").toList = _
  simp

theorem toList_startString (text : String) :
    (startString text).text.toList =
      "StringBuilder sb = new StringBuilder(\"".toList ++ (text.toList ++ '"' :: [')']) ++ [';'] := by
  show ("StringBuilder sb = new StringBuilder(\"" ++ text ++ "\");").toList = _
  simp

theorem toList_appendText (text : String) :
    (appendText text).text.toList =
      "sb.append(\"".toList ++ (text.toList ++ '"' :: [')']) ++ [';'] := by
  show ("sb.append(\"" ++ text ++ "\");").toList = _
  simp

theorem toList_appendField (label object field : String) (asObject : Bool) :
    (appendField label object field asObject).text.toList =
      "sb.append(\"".toList ++ (label.toList ++ '"' :: (").append(String.valueOf(".toList ++
        ((if asObject then "(Object) " else "").toList ++ (object.toList ++ '.' :: field.toList) ++
          "))".toList))) ++ [';'] := by
  show ("sb.append(\"" ++ label ++ "\").append(String.valueOf(" ++
    (if asObject then "(Object) " else "") ++ object ++ "." ++ field ++ "));").toList = _
  simp

end Statement

/-- **A statement is read back from its line.** -/
theorem statement?_text {s : Statement} (h : s.Legible) : statement? s.text.toList = some s := by
  cases s with
  | declareNew type name =>
    have ht : '"' ∉ type.toList := not_mem_of_isClassName h.1 (by decide) (by decide)
    have hn : '"' ∉ name.toList := not_mem_of_hasIdentifierForm h.2 (by decide)
    have hblank : ' ' ∉ type.toList := not_mem_of_isClassName h.1 (by decide) (by decide)
    have hreturn : type.toList ≠ "return".toList := fun he => h.1.2 (String.toList_inj.mp he)
    rw [Statement.toList_declareNew, statement?_semicolon,
      clause?_eq_stored? (by simp [ht, hn]) hblank hreturn, stored?_declareNew h.1 h.2]
  | assign object field value =>
    obtain ⟨ho, hf, hv⟩ := h
    have ha : '"' ∉ object.toList ++ '.' :: field.toList :=
      not_mem_access ho hf (by decide) (by decide)
    have hb : ' ' ∉ object.toList ++ '.' :: field.toList :=
      not_mem_access ho hf (by decide) (by decide)
    have hq : '"' ∉ value.toList := not_mem_of_hasIdentifierForm hv (by decide)
    -- an assignment is told from a return by the dot in front of its blank
    have hreturn : object.toList ++ '.' :: field.toList ≠ "return".toList := by
      intro he
      have hdot : '.' ∈ "return".toList := by
        rw [← he]
        exact List.mem_append_right _ List.mem_cons_self
      exact absurd hdot (by simp)
    have hquote : '"' ∉ object.toList ++ '.' :: field.toList ++ ' ' :: '=' :: ' ' ::
        value.toList := by
      rw [List.mem_append]
      simp [ha, hq]
    rw [Statement.toList_assign, statement?_semicolon, clause?_eq_stored? hquote hb hreturn,
      stored?_assign ho hf hv]
  | returnVariable name =>
    rw [Statement.toList_returnVariable, statement?_semicolon, clause?_return, returned?_name h]
  | returnField object field =>
    rw [Statement.toList_returnField, statement?_semicolon, clause?_return,
      returned?_access h.1 h.2]
  | startString text =>
    rw [Statement.toList_startString, statement?_semicolon, clause?_start, started?_text h]
  | appendText text =>
    rw [Statement.toList_appendText, statement?_semicolon, clause?_append, appended?_text h]
  | appendField label object field asObject =>
    rw [Statement.toList_appendField, statement?_semicolon, clause?_append,
      appended?_field h.1 h.2.1 h.2.2]
  | returnString => rfl

/-- Every statement ends in its semicolon. -/
theorem exists_toList_text (s : Statement) : ∃ cs, s.text.toList = cs ++ [';'] := by
  cases s with
  | declareNew => exact ⟨_, Statement.toList_declareNew ..⟩
  | assign => exact ⟨_, Statement.toList_assign ..⟩
  | returnVariable => exact ⟨_, Statement.toList_returnVariable ..⟩
  | returnField => exact ⟨_, Statement.toList_returnField ..⟩
  | startString => exact ⟨_, Statement.toList_startString ..⟩
  | appendText => exact ⟨_, Statement.toList_appendText ..⟩
  | appendField => exact ⟨_, Statement.toList_appendField ..⟩
  | returnString => exact ⟨"return sb.toString()".toList, rfl⟩

theorem Statement.Legible.noLineFeed {s : Statement} (h : s.Legible) : s.NoLineFeed := by
  have hname : ∀ {name : String}, hasIdentifierForm name.toList = true → Text.OneLine name :=
    fun hn => not_mem_of_hasIdentifierForm hn (by decide)
  cases s with
  | declareNew type name =>
    exact ⟨not_mem_of_isClassName h.1 (by decide) (by decide), hname h.2⟩
  | assign object field value => exact ⟨hname h.1, hname h.2.1, hname h.2.2⟩
  | returnVariable name => exact hname h
  | returnField object field => exact ⟨hname h.1, hname h.2⟩
  | startString text => exact h.2.2
  | appendText text => exact h.2.2
  | appendField label object field asObject => exact ⟨h.1.2.2, hname h.2.1, hname h.2.2⟩
  | returnString => trivial

/-- A statement is one line. -/
theorem newline_not_mem_text {s : Statement} (h : s.Legible) : '\n' ∉ s.text.toList :=
  (Statement.isLine_text h.noLineFeed).oneLine

end AccessorGen.Java
