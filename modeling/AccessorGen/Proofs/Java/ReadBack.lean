import AccessorGen.Proofs.Java.Legible

/-!
# Methods read back

A method is written line by line and read line by line, so what has to be shown is, for each part of
it, that the reader takes from the text what the writer put there and stops where it stopped. Every
statement below has that form: the part in front of an arbitrary rest.

The two layouts of a signature meet in `read?_inline` and `read?_stacked`. Their conditions are those
under which the rules of the reader find the end of a type: which parenthesis, which comma.
-/

set_option autoImplicit false

namespace AccessorGen.Java

/-! ## Lines as characters -/

/-- So many levels of indentation. -/
def levels (indent : List Char) (depth : Nat) : List Char := (List.replicate depth indent).flatten

/-- Lines, each with its line feed. -/
def unlines (indent : List Char) (ls : List Line) : List Char :=
  ls.flatMap fun l => levels indent l.depth ++ l.text.toList ++ ['\n']

theorem unlines_cons (indent : List Char) (l : Line) (ls : List Line) (rest : List Char) :
    unlines indent (l :: ls) ++ rest =
      levels indent l.depth ++ l.text.toList ++ '\n' :: (unlines indent ls ++ rest) := by
  simp [unlines]

theorem unlines_append (indent : List Char) (ls ms : List Line) :
    unlines indent (ls ++ ms) = unlines indent ls ++ unlines indent ms := by
  simp [unlines]

theorem Line.toList_render (indent : String) (l : Line) :
    (l.render indent).toList = levels indent.toList l.depth ++ l.text.toList := by
  rw [Line.render, String.toList_append, String.toList_join, levels, List.flatMap_def,
    List.map_replicate]

/-- The lines of a text have a line feed between each two, so all but the last are whole lines. -/
theorem toList_renderLines_concat (indent : String) (ls : List Line) (l : Line) :
    (renderLines indent (ls ++ [l])).toList =
      unlines indent.toList ls ++ (levels indent.toList l.depth ++ l.text.toList) := by
  induction ls with
  | nil => simp [renderLines, unlines, Line.toList_render]
  | cons a rest ih =>
    rw [unlines_cons, ← ih, renderLines, List.cons_append, List.map_cons,
      String.intercalate_cons_of_ne_nil (by simp)]
    simp [renderLines, Line.toList_render]

/-! ## Reading lines -/

theorem afterIndent?_levels (indent : List Char) (depth : Nat) (rest : List Char) :
    afterIndent? indent depth (levels indent depth ++ rest) = some rest := by
  induction depth with
  | zero => rfl
  | succ depth ih =>
    have hl : levels indent (depth + 1) ++ rest = indent ++ (levels indent depth ++ rest) := by
      simp [levels, List.replicate_succ]
    rw [hl, afterIndent?, isPrefixOf?_append]
    exact ih

theorem takeLine?_levels (indent : List Char) (depth : Nat) {line : List Char} (h : '\n' ∉ line)
    (rest : List Char) :
    takeLine? indent depth (levels indent depth ++ line ++ '\n' :: rest) = some (line, rest) := by
  rw [takeLine?, List.append_assoc, afterIndent?_levels]
  exact cutAt_append h rest

/-- The line feed and the blanks above the closing brace give the indentation. -/
theorem outerIndent_append (front : List Char) {c : Char} {indent : List Char}
    (hc : Text.isBlank c = false) (hi : ∀ a ∈ indent, Text.isBlank a = true) :
    outerIndent (front ++ c :: '\n' :: (indent ++ ['\x7d'])) = indent := by
  have hr : (front ++ c :: '\n' :: (indent ++ ['\x7d'])).reverse =
      '\x7d' :: ((indent.reverse ++ ['\n']) ++ (c :: front.reverse)) := by simp
  have hb : ∀ a ∈ indent.reverse ++ ['\n'], Text.isBlank a = true := by
    intro a ha
    rcases List.mem_append.mp ha with ha | ha
    · exact hi a (List.mem_reverse.mp ha)
    · rw [List.mem_singleton.mp ha]
      decide
  simp only [outerIndent, hr]
  rw [List.takeWhile_append_of_pos hb, List.takeWhile_cons_of_neg (by simp [hc])]
  simp

/-! ## The body -/

/-- The lines of a body. -/
def bodyLines (body : List Statement) : List Line := body.map fun s => ⟨2, s.text⟩

theorem body?_unlines (indent : List Char) {body : List Statement}
    (h : ∀ s ∈ body, s.Legible) :
    body? indent (unlines indent (bodyLines body) ++ (indent ++ ['\x7d'])) = some body := by
  induction body with
  | nil =>
    show body? indent (indent ++ ['\x7d']) = some []
    rw [body?, if_pos rfl]
  | cons s rest ih =>
    have hs := h s List.mem_cons_self
    have hline := takeLine?_levels indent 2 (newline_not_mem_text hs)
      (unlines indent (bodyLines rest) ++ (indent ++ ['\x7d']))
    have hne : levels indent 2 ++ s.text.toList ++
        '\n' :: (unlines indent (bodyLines rest) ++ (indent ++ ['\x7d'])) ≠ indent ++ ['\x7d'] := by
      -- a brace stands right behind one level of indentation, a statement behind two
      intro he
      have hlength := congrArg List.length he
      simp only [levels, List.length_append, List.length_cons, List.length_nil,
        List.length_flatten, List.map_replicate, List.sum_replicate_nat] at hlength
      omega
    rw [bodyLines, List.map_cons, unlines_cons, ← bodyLines, body?, if_neg hne]
    split
    · next line below heq =>
      rw [hline] at heq
      cases heq
      rw [statement?_text hs, ih fun t ht => h t (List.mem_cons_of_mem _ ht)]
      rfl
    · next heq =>
      rw [hline] at heq
      exact absurd heq (by simp)

/-! ## Parameters -/

/-- What a parameter must be for its declaration to be read back. -/
structure Parameter.Legible (p : Parameter) : Prop where
  name : hasIdentifierForm p.name.toList = true
  type : '\n' ∉ p.type.toList

theorem Parameter.toList_text (p : Parameter) :
    p.text.toList = p.type.toList ++ ' ' :: p.name.toList := by
  simp [Parameter.text]

theorem Parameter.Legible.newline_not_mem {p : Parameter} (h : p.Legible) :
    '\n' ∉ p.text.toList := by
  have hn : '\n' ∉ p.name.toList := not_mem_of_hasIdentifierForm h.name (by decide)
  simp [Parameter.toList_text, h.type, hn]

/-- Whatever the type is, the last blank ends it. -/
theorem parameter?_append (type : String) {name : String}
    (h : hasIdentifierForm name.toList = true) :
    parameter? (type.toList ++ ' ' :: name.toList) = some ⟨type, name⟩ := by
  rw [parameter?, cutAtLast_append _ (not_mem_of_hasIdentifierForm h (by decide))]
  simp [name?_toList h]

theorem parameter?_text {p : Parameter} (h : hasIdentifierForm p.name.toList = true) :
    parameter? p.text.toList = some p := by
  rw [Parameter.toList_text, parameter?_append _ h]

/-- Stacked parameters are read down to the brace, and nothing below it is touched. -/
theorem stackedParameters?_unlines (indent : List Char) {ps : List Parameter} (hne : ps ≠ [])
    (h : ∀ p ∈ ps, p.Legible) (below : List Char) :
    stackedParameters? indent (unlines indent (Method.stackedLines ps) ++ below) =
      some (ps, below) := by
  induction ps with
  | nil => exact absurd rfl hne
  | cons p rest ih =>
    have hp := h p List.mem_cons_self
    cases rest with
    | nil =>
      have hline : '\n' ∉ (p.text ++ ") \x7b").toList := by simp [hp.newline_not_mem]
      have htake := takeLine?_levels indent 3 hline below
      rw [Method.stackedLines, unlines_cons, show unlines indent [] ++ below = below from rfl,
        stackedParameters?]
      split
      · next line after heq =>
        rw [htake] at heq
        cases heq
        rw [String.toList_append, isSuffixOf?_append]
        simp [parameter?_text hp.name]
      · next heq =>
        rw [htake] at heq
        exact absurd heq (by simp)
    | cons q rest =>
      have hline : '\n' ∉ (p.text ++ ",").toList := by simp [hp.newline_not_mem]
      have htake := takeLine?_levels indent 3 hline
        (unlines indent (Method.stackedLines (q :: rest)) ++ below)
      -- a comma at the end of the line says that another parameter follows
      rw [Method.stackedLines, unlines_cons, stackedParameters?]
      · split
        · next line after heq =>
          rw [htake] at heq
          cases heq
          have hcomma : (p.text ++ ",").toList = p.text.toList ++ [','] := by simp
          have hbrace : ") \x7b".toList.isSuffixOf? (p.text.toList ++ [',']) = none :=
            isSuffixOf?_eq_none ") ".toList p.text.toList (by decide)
          rw [hcomma, hbrace, ih (by simp) fun r hr => h r (List.mem_cons_of_mem _ hr)]
          simp [isSuffixOf?_append, parameter?_text hp.name]
        · next heq =>
          rw [htake] at heq
          exact absurd heq (by simp)
      · simp

/-! ## Signatures -/

namespace Method

/-- The signature in front of its parenthesis. -/
def heading (m : Method) : List Char :=
  (if m.isStatic then "public static " else "public ").toList ++
    (m.returnType.toList ++ ' ' :: m.name.toList)

theorem toList_opening (m : Method) : m.opening.toList = m.heading ++ ['('] := by
  simp [opening, heading]

/-- What a method must be for its text to be read back, whatever its layout. -/
structure Legible (m : Method) : Prop where
  summary : '/' ∉ m.summary.toList
  name : hasIdentifierForm m.name.toList = true
  returnType : '\n' ∉ m.returnType.toList
  parameters : ∀ p ∈ m.parameters, p.Legible
  body : ∀ s ∈ m.body, s.Legible
  body_ne_nil : m.body ≠ []
  /-- A static method does not speak of `this`. -/
  static : m.isStatic = true → speaksOfThis m.body = false
  /-- Another method does, or at least its type does not start with the word `static`. -/
  instance_ : m.isStatic = false → speaksOfThis m.body = true ∨
    "static ".toList.isPrefixOf? (m.returnType.toList ++ ' ' :: m.name.toList) = none

/-- What the types must be for the parameters to be found on the line of the signature: the
parenthesis in front of them, and the comma between them. -/
structure InlineLegible (m : Method) : Prop where
  parenthesis :
    if returnsValue m.body then ∀ p ∈ m.parameters, '(' ∉ p.type.toList
    else '(' ∉ m.returnType.toList
  comma : m.parameters = [] ∨ (∃ p, m.parameters = [p] ∧ (m.isStatic = true → ',' ∉ p.type.toList)) ∨
    ∃ p q, m.parameters = [p, q] ∧ m.isStatic = true ∧ ',' ∉ p.type.toList

theorem Legible.newline_not_mem_heading {m : Method} (h : m.Legible) : '\n' ∉ m.heading := by
  have hn : '\n' ∉ m.name.toList := not_mem_of_hasIdentifierForm h.name (by decide)
  have hp : '\n' ∉ (if m.isStatic then "public static " else "public ").toList := by
    cases m.isStatic <;> decide
  rw [heading, List.mem_append, List.mem_append]
  simp [hp, hn, h.returnType]

/-- The word `static` is the modifier or it is part of the type, and the body tells which. -/
theorem opening?_heading {m : Method} (h : m.Legible) :
    opening? m.body m.heading = some (m.isStatic, m.returnType, m.name) := by
  have hp := parameter?_append m.returnType h.name
  cases hs : m.isStatic with
  | true =>
    have hheading : m.heading =
        "public ".toList ++ ("static ".toList ++ (m.returnType.toList ++ ' ' :: m.name.toList)) := by
      simp [heading, hs]
    rw [opening?, hheading, isPrefixOf?_append, h.static hs]
    simp only [Option.bind_eq_bind, Option.bind_some, if_neg Bool.false_ne_true,
      isPrefixOf?_append, hp]
    rfl
  | false =>
    have hheading : m.heading =
        "public ".toList ++ (m.returnType.toList ++ ' ' :: m.name.toList) := by
      simp [heading, hs]
    have hnone : (if speaksOfThis m.body then none
        else "static ".toList.isPrefixOf? (m.returnType.toList ++ ' ' :: m.name.toList)) = none := by
      rcases h.instance_ hs with ht | ht
      · rw [if_pos ht]
      · rw [ht, ite_self]
    rw [opening?, hheading, isPrefixOf?_append]
    simp only [Option.bind_eq_bind, Option.bind_some, hnone, hp]
    rfl

theorem toList_inlineParameters (p : Parameter) (ps : List Parameter) :
    (inlineParameters (p :: ps)).toList =
      p.text.toList ++ ps.flatMap fun q => ", ".toList ++ q.text.toList := by
  induction ps generalizing p with
  | nil => simp [inlineParameters]
  | cons q rest ih =>
    rw [inlineParameters, List.map_cons, String.intercalate_cons_of_ne_nil (by simp),
      ← inlineParameters, String.toList_append, String.toList_append, ih q]
    simp

theorem not_mem_inlineParameters {c : Char} {ps : List Parameter} (hc : c ∉ ", ".toList)
    (h : ∀ p ∈ ps, c ∉ p.text.toList) : c ∉ (inlineParameters ps).toList := by
  cases ps with
  | nil => exact List.not_mem_nil
  | cons p rest =>
    rw [toList_inlineParameters, List.mem_append, List.mem_flatMap]
    rintro (hmem | ⟨q, hq, hmem⟩)
    · exact h p List.mem_cons_self hmem
    · rcases List.mem_append.mp hmem with hmem | hmem
      · exact hc hmem
      · exact h q (List.mem_cons_of_mem _ hq) hmem

theorem InlineLegible.inlineParameters? {m : Method} (hm : m.Legible) (h : m.InlineLegible) :
    inlineParameters? m.isStatic (inlineParameters m.parameters).toList = some m.parameters := by
  have hread : ∀ p ∈ m.parameters, parameter? p.text.toList = some p :=
    fun p hp => parameter?_text (hm.parameters p hp).name
  have hne : ∀ (p : Parameter) (rest : List Char), p.text.toList ++ rest ≠ [] := by
    intro p rest
    simp [Parameter.toList_text]
  have hcomma : ∀ p ∈ m.parameters, ',' ∉ p.type.toList → ',' ∉ p.text.toList := by
    intro p hp ht
    have hn : ',' ∉ p.name.toList :=
      not_mem_of_hasIdentifierForm (hm.parameters p hp).name (by decide)
    simp [Parameter.toList_text, ht, hn]
  -- no parameter, the object or the value alone, or one behind the other
  rcases h.comma with hps | ⟨p, hps, hc⟩ | ⟨p, q, hps, hs, hc⟩
  · rw [hps]
    rfl
  · rw [hps] at hread hcomma ⊢
    have hp := hread p (by simp)
    rw [toList_inlineParameters, Java.inlineParameters?, if_neg (hne p _)]
    simp only [List.flatMap_nil, List.append_nil]
    cases hs : m.isStatic with
    | true => simp [cutAt_eq_none (hcomma p (by simp) (hc hs)), hp]
    | false => simp [hp]
  · rw [hps] at hread hcomma ⊢
    have hp := hread p (by simp)
    have hq := hread q (by simp)
    have hcut : cutAt ',' (p.text.toList ++ ", ".toList ++ q.text.toList) =
        some (p.text.toList, ' ' :: q.text.toList) := by
      rw [List.append_assoc]
      exact cutAt_append (hcomma p (by simp) hc) _
    rw [toList_inlineParameters, Java.inlineParameters?, if_neg (hne p _)]
    simp only [List.flatMap_cons, List.flatMap_nil, List.append_nil, ← List.append_assoc, hcut, hs]
    simp [List.isPrefixOf?, hp, hq]

/-- The part of a method below its signature. -/
def bottom (indent : List Char) (m : Method) : List Char :=
  unlines indent (bodyLines m.body) ++ (indent ++ ['\x7d'])

theorem stacked?_bottom (indent : List Char) {m : Method} (h : m.Legible)
    (hp : m.parameters ≠ []) :
    stacked? indent m.heading (unlines indent (stackedLines m.parameters) ++ m.bottom indent) =
      some m.routine := by
  rw [stacked?, stackedParameters?_unlines indent hp h.parameters]
  simp only [Option.bind_eq_bind, Option.bind_some, bottom, body?_unlines indent h.body,
    opening?_heading h]
  rfl

/-- Which parenthesis opens the list of parameters depends on which side of it the only type of a
field is. -/
theorem cutSignature?_heading {m : Method} (hm : m.Legible) (h : m.InlineLegible) :
    cutSignature? m.body (m.heading ++ '(' :: (inlineParameters m.parameters).toList) =
      some (m.heading, (inlineParameters m.parameters).toList) := by
  have hparenthesis := h.parenthesis
  rw [cutSignature?]
  split
  · next hr =>
    rw [if_pos hr] at hparenthesis
    refine cutAtLast_append _ (not_mem_inlineParameters (by decide) ?_)
    intro p hp
    have hn : '(' ∉ p.name.toList :=
      not_mem_of_hasIdentifierForm (hm.parameters p hp).name (by decide)
    simp [Parameter.toList_text, hparenthesis p hp, hn]
  · next hr =>
    rw [if_neg hr] at hparenthesis
    refine cutAt_append ?_ _
    have hn : '(' ∉ m.name.toList := not_mem_of_hasIdentifierForm hm.name (by decide)
    have hword : '(' ∉ (if m.isStatic then "public static " else "public ").toList := by
      cases m.isStatic <;> decide
    rw [heading, List.mem_append, List.mem_append]
    simp [hword, hparenthesis, hn]

theorem inline?_bottom (indent : List Char) {m : Method} (hm : m.Legible) (h : m.InlineLegible) :
    inline? indent (m.opening ++ inlineParameters m.parameters ++ ") \x7b").toList
      (m.bottom indent) = some m.routine := by
  have hline : (m.opening ++ inlineParameters m.parameters ++ ") \x7b").toList =
      (m.heading ++ '(' :: (inlineParameters m.parameters).toList) ++ ") \x7b".toList := by
    rw [String.toList_append, String.toList_append, toList_opening]
    simp
  rw [inline?, bottom, body?_unlines indent hm.body, hline, isSuffixOf?_append]
  simp only [Option.bind_eq_bind, cutSignature?_heading hm h, Option.bind_some, opening?_heading hm,
    h.inlineParameters? hm]
  rfl

theorem Legible.newline_not_mem_inline {m : Method} (h : m.Legible) :
    '\n' ∉ (m.opening ++ inlineParameters m.parameters ++ ") \x7b").toList := by
  have hps : '\n' ∉ (inlineParameters m.parameters).toList :=
    not_mem_inlineParameters (by decide) fun p hp => (h.parameters p hp).newline_not_mem
  rw [String.toList_append, String.toList_append, toList_opening]
  simp [hps, h.newline_not_mem_heading]

/-- The method below its comment and annotation is read back, in either layout. -/
theorem code?_signature (indent : List Char) {m : Method} (h : m.Legible)
    (hi : m.layout = .inline ∨ m.parameters = [] → m.InlineLegible) :
    code? indent (unlines indent m.signature ++ m.bottom indent) = some m.routine := by
  -- the line of a stacked signature ends in its parenthesis
  by_cases hl : m.layout = .inline ∨ m.parameters = []
  · have hsuffix : ['('].isSuffixOf?
        (m.opening ++ inlineParameters m.parameters ++ ") \x7b").toList = none := by
      rw [String.toList_append, show ") \x7b".toList = [')', ' '] ++ ['\x7b'] from rfl,
        ← List.append_assoc]
      exact isSuffixOf?_eq_none [] _ (by decide)
    rw [signature_inline hl, unlines_cons, show unlines indent [] ++ m.bottom indent =
      m.bottom indent from rfl, code?, takeLine?_levels indent 1 h.newline_not_mem_inline]
    simp only [Option.bind_eq_bind, Option.bind_some, hsuffix]
    exact inline?_bottom indent h (hi hl)
  · rw [not_or] at hl
    have hstacked : m.layout = .stacked := by
      cases hm : m.layout with
      | inline => exact absurd hm hl.1
      | stacked => rfl
    have hopening : '\n' ∉ m.opening.toList := by
      simp [toList_opening, h.newline_not_mem_heading]
    rw [signature_stacked hstacked hl.2, unlines_cons, code?, takeLine?_levels indent 1 hopening,
      toList_opening]
    simp only [Option.bind_eq_bind, Option.bind_some, isSuffixOf?_append]
    exact stacked?_bottom indent h hl.2

end Method

/-! ## What stands above the signature -/

theorem isPrefixOf?_append_eq_none (front : List Char) {a c : Char} (h : a ≠ c)
    (back rest : List Char) : (front ++ a :: back).isPrefixOf? (front ++ c :: rest) = none := by
  cases hp : (front ++ a :: back).isPrefixOf? (front ++ c :: rest) with
  | none => rfl
  | some _ =>
    rw [List.isPrefixOf?_eq_some_iff_append_eq, List.append_assoc] at hp
    exact absurd (List.cons.inj (List.append_cancel_left hp)).1 h

/-- A comment goes on as long as there is no slash. -/
theorem afterComment?_append {inside : List Char} (h : '/' ∉ inside) (rest : List Char) :
    afterComment? (inside ++ '*' :: '/' :: rest) = some rest := by
  induction inside with
  | nil => rfl
  | cons a inside ih =>
    simp only [List.mem_cons, not_or] at h
    rw [List.cons_append, afterComment?, ih h.2]
    intro after _ hafter
    cases inside with
    | nil => simp at hafter
    | cons b inside =>
      have hb : b = '/' := (List.cons.inj hafter).1
      exact h.2 (hb ▸ List.mem_cons_self)

theorem skipComment?_javadoc {indent : List Char} (hi : '/' ∉ indent) {m : Method}
    (h : '/' ∉ m.summary.toList) (rest : List Char) :
    skipComment? indent (unlines indent m.javadoc ++ rest) = some rest := by
  have hlevels : levels indent 1 = indent := by simp [levels]
  have hcomment : unlines indent m.javadoc ++ rest = indent ++ "/*".toList ++
      (('*' :: '\n' :: (indent ++ " * ".toList ++ m.summary.toList ++ '\n' :: (indent ++ [' ']))) ++
        '*' :: '/' :: '\n' :: rest) := by
    simp [Method.javadoc, unlines, hlevels]
  have hinside : '/' ∉ '*' :: '\n' :: (indent ++ " * ".toList ++ m.summary.toList ++
      '\n' :: (indent ++ [' '])) := by
    simp [hi, h]
  rw [skipComment?, hcomment, isPrefixOf?_append]
  simp only [Option.bind_eq_bind, afterComment?_append hinside, Option.bind_some]
  rfl

theorem skipComment?_of_ne (indent : List Char) {c : Char} (h : '/' ≠ c) (rest : List Char) :
    skipComment? indent (indent ++ c :: rest) = some (indent ++ c :: rest) := by
  rw [skipComment?, show "/*".toList = ['/', '*'] from rfl, isPrefixOf?_append_eq_none indent h]

namespace Method

/-- The annotation, where there is one. -/
def overrideMark (m : Method) : List Line := if m.isOverride then [⟨1, "@Override"⟩] else []

/-- The signature starts with the word `public`. -/
theorem exists_unlines_signature (indent : List Char) (m : Method) :
    ∃ rest, unlines indent m.signature = indent ++ 'p' :: rest := by
  have hlevels : levels indent 1 = indent := by simp [levels]
  have hheading : ∃ rest, m.heading = 'p' :: rest := by
    rw [heading]
    cases m.isStatic <;> exact ⟨_, rfl⟩
  obtain ⟨rest, hr⟩ := hheading
  rw [signature]
  split <;> simp [unlines, hlevels, toList_opening, hr]

theorem skipOverride_overrideMark (indent : List Char) (m : Method) (below : List Char) :
    skipOverride indent (unlines indent m.overrideMark ++ (unlines indent m.signature ++ below)) =
      unlines indent m.signature ++ below := by
  have hlevels : levels indent 1 = indent := by simp [levels]
  rw [skipOverride, overrideMark]
  cases m.isOverride with
  | true =>
    have hline : unlines indent [⟨1, "@Override"⟩] = indent ++ "@Override\n".toList := by
      simp [unlines, hlevels]
    rw [if_pos rfl, hline, isPrefixOf?_append]
    rfl
  | false =>
    obtain ⟨rest, hr⟩ := m.exists_unlines_signature indent
    rw [if_neg (by simp), hr, show unlines indent [] = [] from rfl, List.nil_append,
      List.append_assoc, List.cons_append,
      show "@Override\n".toList = '@' :: "Override\n".toList from rfl,
      isPrefixOf?_append_eq_none indent (by decide)]
    rfl

/-- Without a comment the text starts with the annotation or with the signature. -/
theorem skipComment?_code (indent : List Char) (m : Method) (below : List Char) :
    skipComment? indent (unlines indent m.overrideMark ++ (unlines indent m.signature ++ below)) =
      some (unlines indent m.overrideMark ++ (unlines indent m.signature ++ below)) := by
  have hlevels : levels indent 1 = indent := by simp [levels]
  have hstart : ∃ c rest, '/' ≠ c ∧
      unlines indent m.overrideMark ++ (unlines indent m.signature ++ below) = indent ++ c :: rest := by
    obtain ⟨rest, hr⟩ := m.exists_unlines_signature indent
    rw [overrideMark, hr]
    cases m.isOverride with
    | true => exact ⟨'@', _, by decide, by simp [unlines, hlevels]; rfl⟩
    | false => exact ⟨'p', _, by decide, by simp [unlines]; rfl⟩
  obtain ⟨c, rest, hc, hr⟩ := hstart
  rw [hr, skipComment?_of_ne indent hc]

/-! ## Whole methods -/

/-- The lines of a method from the top: its comment, its annotation, its signature, the rest. -/
theorem toList_render (indent : String) (documented : Bool) (m : Method) :
    (m.render indent documented).toList =
      unlines indent.toList (if documented then m.javadoc else []) ++
        (unlines indent.toList m.overrideMark ++
          (unlines indent.toList m.signature ++ m.bottom indent.toList)) := by
  have hlines : m.lines documented = ((if documented then m.javadoc else []) ++
      (m.overrideMark ++ (m.signature ++ bodyLines m.body))) ++ [⟨1, "\x7d"⟩] := by
    simp [lines, code, overrideMark, bodyLines]
  have hlevels : levels indent.toList 1 = indent.toList := by simp [levels]
  rw [render, hlines, toList_renderLines_concat, unlines_append, unlines_append, unlines_append,
    bottom, hlevels]
  simp

/-- The last line above the closing brace ends in a semicolon. -/
theorem outerIndent_bottom {indent : List Char} (hi : ∀ a ∈ indent, Text.isBlank a = true)
    {m : Method} (h : m.body ≠ []) (front : List Char) :
    outerIndent (front ++ m.bottom indent) = indent := by
  obtain ⟨body, s, hbody⟩ := (List.eq_nil_or_concat' m.body).resolve_left h
  obtain ⟨cs, hcs⟩ := exists_toList_text s
  have hbottom : front ++ m.bottom indent = (front ++ unlines indent (bodyLines body) ++
      levels indent 2 ++ cs) ++ ';' :: '\n' :: (indent ++ ['\x7d']) := by
    simp [bottom, hbody, bodyLines, unlines, hcs]
  rw [hbottom, outerIndent_append _ (by decide) hi]

/-- **A method is read back from its text,** indented in any blanks, with or without its comment. -/
theorem read?_render {indent : String} (hi : ∀ a ∈ indent.toList, Text.isBlank a = true)
    (documented : Bool) {m : Method} (h : m.Legible)
    (hl : m.layout = .inline ∨ m.parameters = [] → m.InlineLegible) :
    read? (m.render indent documented) = some m.routine := by
  have hslash : '/' ∉ indent.toList := fun hmem => absurd (hi _ hmem) (by decide)
  have hindent : outerIndent (m.render indent documented).toList = indent.toList := by
    rw [toList_render, ← List.append_assoc, ← List.append_assoc]
    exact outerIndent_bottom hi h.body_ne_nil _
  rw [read?, hindent, toList_render]
  cases documented with
  | true =>
    rw [if_pos rfl, skipComment?_javadoc hslash h.summary]
    simp only [Option.bind_eq_bind, Option.bind_some, skipOverride_overrideMark]
    exact code?_signature indent.toList h hl
  | false =>
    rw [if_neg (by simp), show unlines indent.toList [] = [] from rfl, List.nil_append,
      skipComment?_code]
    simp only [Option.bind_eq_bind, Option.bind_some, skipOverride_overrideMark]
    exact code?_signature indent.toList h hl

end Method

end AccessorGen.Java
