/-!
# Options of the command line

Words are first taken apart into what they mean one by one, then the meanings are gathered in
order. Gathering stops at the first misuse and at an inquiry about the program, so the earlier of the
two decides. No option may be given twice.
-/

set_option autoImplicit false

namespace AccessorGen.Command

/-- Options without a value. -/
inductive Flag
  | noJavadoc
  | generatedMark
  | check
  | verbose
  deriving DecidableEq, Repr

/-- Options with a value. -/
inductive Setting
  | out
  | strategy
  | suffix
  deriving DecidableEq, Repr

/-- The strategies that the command line knows. -/
inductive StrategyChoice
  | augment
  | companion
  deriving DecidableEq, Repr

/-- Options that ask about the program. They are answered in place of a run. -/
inductive Inquiry
  | help
  | version
  deriving DecidableEq, Repr

/-- What the name of an option refers to. -/
inductive Key
  | flag (f : Flag)
  | setting (s : Setting)
  | inquiry (q : Inquiry)
  deriving DecidableEq, Repr

namespace Key

/-- The option of a long name, which has to be complete. -/
def ofLong? : String → Option Key
  | "no-javadoc" => some (.flag .noJavadoc)
  | "generated-annotation" => some (.flag .generatedMark)
  | "check" => some (.flag .check)
  | "verbose" => some (.flag .verbose)
  | "out" => some (.setting .out)
  | "strategy" => some (.setting .strategy)
  | "suffix" => some (.setting .suffix)
  | "help" => some (.inquiry .help)
  | "version" => some (.inquiry .version)
  | _ => none

def ofShort? : Char → Option Key
  | 'v' => some (.flag .verbose)
  | 'o' => some (.setting .out)
  | 'h' => some (.inquiry .help)
  | 'V' => some (.inquiry .version)
  | _ => none

end Key

/-- The meaning of a word, or of a part of it. -/
inductive Token
  | flag (f : Flag)
  | setting (s : Setting) (value : String)
  | schema (path : String)
  | inquiry (q : Inquiry)
  /-- Nothing that can be meant. What follows it never counts. -/
  | misuse
  deriving DecidableEq, Repr

/-- The meanings of a word, and the option at its end whose value has to be the next word. -/
structure Reading where
  tokens : List Token
  pending : Option Setting := none

/-- The meaning of a word that starts with two hyphens: the name of an option, with its value
behind an equals sign. -/
def readLong (cs : List Char) : Reading :=
  let name := String.ofList (cs.takeWhile (· != '='))
  let value? := (cs.dropWhile (· != '=')).tail?.map String.ofList
  match Key.ofLong? name, value? with
  | some (.flag f), none => ⟨[.flag f], none⟩
  | some (.inquiry q), none => ⟨[.inquiry q], none⟩
  | some (.setting s), some value => ⟨[.setting s value], none⟩
  | some (.setting s), none => ⟨[], some s⟩
  | _, _ => ⟨[.misuse], none⟩

/-- The meanings of the letters behind one hyphen. The rest of the word behind an option with a
value is its value, less one equals sign. -/
def readShort : List Char → Reading
  | [] => ⟨[], none⟩
  | c :: rest =>
    match Key.ofShort? c with
    | some (.flag f) =>
      let r := readShort rest
      { r with tokens := .flag f :: r.tokens }
    | some (.inquiry q) => ⟨[.inquiry q], none⟩
    | some (.setting s) =>
      match rest with
      | [] => ⟨[], some s⟩
      | '=' :: value => ⟨[.setting s (String.ofList value)], none⟩
      | value => ⟨[.setting s (String.ofList value)], none⟩
    | none => ⟨[.misuse], none⟩

def readWord (word : String) : Reading :=
  match word.toList with
  | '-' :: '-' :: cs => readLong cs
  | ['-'] => ⟨[.schema word], none⟩
  | '-' :: cs => readShort cs
  | _ => ⟨[.schema word], none⟩

def canBeValue (word : String) : Bool :=
  match word.toList with
  | ['-'] => true
  | '-' :: _ => false
  | _ => true

/-- The meanings of all words. Behind two hyphens there are only paths. -/
def readWords : List String → List Token
  | [] => []
  | word :: rest =>
    if word == "--" then rest.map .schema
    else
      let r := readWord word
      match r.pending with
      | none => r.tokens ++ readWords rest
      | some s =>
        match rest with
        | [] => r.tokens ++ [.misuse]
        | value :: rest =>
          r.tokens ++ if canBeValue value then .setting s value :: readWords rest else [.misuse]

/-- The options of a run. -/
structure Options where
  schemas : List String := []
  out : Option String := none
  strategy : Option StrategyChoice := none
  suffix : Option String := none
  noJavadoc : Bool := false
  generatedMark : Bool := false
  check : Bool := false
  verbose : Bool := false
  deriving DecidableEq, Repr

namespace Options

def defaultOut : String := "generated"

def outPath (o : Options) : String := o.out.getD defaultOut

/-- The options with one more flag, which must be new. -/
def raise? (o : Options) : Flag → Option Options
  | .noJavadoc => if o.noJavadoc then none else some { o with noJavadoc := true }
  | .generatedMark =>
    if o.generatedMark then none else some { o with generatedMark := true }
  | .check => if o.check then none else some { o with check := true }
  | .verbose => if o.verbose then none else some { o with verbose := true }

/-- The options with one more setting, which must be new and have a value of its kind. -/
def set? (o : Options) (value : String) : Setting → Option Options
  | .out => if o.out.isSome || value == "" then none else some { o with out := some value }
  | .strategy =>
    if o.strategy.isSome then none
    else
      match value with
      | "augment" => some { o with strategy := some .augment }
      | "companion" => some { o with strategy := some .companion }
      | _ => none
  | .suffix => if o.suffix.isSome then none else some { o with suffix := some value }

/-- The options with one more schema, whose path may not be empty. -/
def addSchema? (o : Options) (path : String) : Option Options :=
  if path == "" then none else some { o with schemas := o.schemas ++ [path] }

end Options

/-- What a command line asks for. -/
inductive Invocation
  | run (options : Options)
  | inquiry (q : Inquiry)
  | misuse
  deriving DecidableEq, Repr

/-- Gathers the meanings in order. In the end there must be a schema. -/
def gather (o : Options) : List Token → Invocation
  | [] => if o.schemas.isEmpty then .misuse else .run o
  | .inquiry q :: _ => .inquiry q
  | .misuse :: _ => .misuse
  | .flag f :: rest =>
    match o.raise? f with
    | some o => gather o rest
    | none => .misuse
  | .setting s value :: rest =>
    match o.set? value s with
    | some o => gather o rest
    | none => .misuse
  | .schema path :: rest =>
    match o.addSchema? path with
    | some o => gather o rest
    | none => .misuse

def Invocation.ofWords (words : List String) : Invocation := gather {} (readWords words)

end AccessorGen.Command
