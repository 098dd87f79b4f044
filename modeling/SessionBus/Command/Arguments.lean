/-!
# Command lines

A command line is read from left to right.  Options have long names and take a value, either after
an equals sign or as the next word; a word that starts with a hyphen is no value, a lone hyphen
apart.  After two hyphens every word is an operand.  A request for help or for the version is met
where it stands, if nothing before it is wrong.
-/

namespace SessionBus.Command

/-- An option that takes a value. -/
structure OptionForm where
  name : String
  required : Bool := false
  repeats : Bool := false
  allowsEmpty : Bool := true
deriving DecidableEq, Repr

/-- A command with its operands, all of them required, and its options. -/
structure CommandForm where
  name : String
  summary : String
  operands : List String
  options : List OptionForm
deriving DecidableEq, Repr

/-- A program with its commands and the options that may stand anywhere. -/
structure ProgramForm where
  name : String
  summary : String
  commands : List CommandForm
  options : List OptionForm
  needsCommand : Bool
deriving DecidableEq, Repr

/-- Why a command line is not carried out. -/
inductive Refusal where
  | help (command : Option String)
  | version
  | wrong
deriving DecidableEq, Repr

/-- The options in the order in which they came, and the operands. -/
structure Given where
  options : List (String × String)
  operands : List String
deriving DecidableEq, Repr

namespace Given

def empty : Given :=
  ⟨[], []⟩

def values (given : Given) (name : String) : List String :=
  (given.options.filter fun entry => entry.1 == name).map (·.2)

def value? (given : Given) (name : String) : Option String :=
  (given.values name).getLast?

/-- The value of an option under its form, if the option may still be given. -/
def add? (given : Given) (form : OptionForm) (value : String) : Option Given :=
  if value.isEmpty ∧ form.allowsEmpty = false then none
  else if form.repeats = false ∧ (given.value? form.name).isSome then none
  else some { given with options := given.options ++ [(form.name, value)] }

end Given

/-- What a word is. -/
inductive Word where
  | separator
  | long (name : List Char)
  | short (letters : List Char)
  | plain
deriving DecidableEq, Repr

def Word.ofText (text : String) : Word :=
  match text.toList with
  | ['-', '-'] => .separator
  | '-' :: '-' :: name => .long name
  | '-' :: c :: letters => .short (c :: letters)
  | _ => .plain

/-- Whether a word can be the value of the option before it. -/
def isValue (text : String) : Bool :=
  Word.ofText text = .plain

/-- Splits the text of a long option at its first equals sign. -/
def splitValue (text : List Char) : String × Option String :=
  let name := text.takeWhile (· != '=')
  (String.ofList name,
    match text.drop name.length with
    | [] => none
    | _ :: value => some (String.ofList value))

/-- How the words of one level of a command line are read. -/
structure Level where
  command : Option String
  options : List OptionForm
  operands : Nat
  showsVersion : Bool

namespace Level

/-- The refusal that a word without a value asks for. -/
def refusal (level : Level) (isHelp isVersion : Bool) : Refusal :=
  if isHelp then .help level.command
  else if isVersion ∧ level.showsVersion then .version
  else .wrong

/--
Reads words until the first operand that has no place on this level, which is left with the words
after it.
-/
def read (level : Level) (given : Given) : List String → Except Refusal (Given × List String)
  | [] => .ok (given, [])
  | word :: rest =>
    match Word.ofText word with
    | .separator =>
      if given.operands.length + rest.length ≤ level.operands then
        .ok ({ given with operands := given.operands ++ rest }, [])
      else .error .wrong
    | .short letters =>
      .error (level.refusal (letters.head? == some 'h') (letters.head? == some 'V'))
    | .long text =>
      let (name, value) := splitValue text
      match level.options.find? (fun form => form.name == name), value, rest with
      | none, some _, _ => .error .wrong
      | none, none, _ => .error (level.refusal (name == "help") (name == "version"))
      | some form, some value, rest =>
        match given.add? form value with
        | some given => read level given rest
        | none => .error .wrong
      | some _, none, [] => .error .wrong
      | some form, none, value :: rest =>
        if isValue value then
          match given.add? form value with
          | some given => read level given rest
          | none => .error .wrong
        else .error .wrong
    | .plain =>
      if given.operands.length < level.operands then
        read level { given with operands := given.operands ++ [word] } rest
      else .ok (given, word :: rest)

end Level

namespace ProgramForm

def command? (program : ProgramForm) (name : String) : Option CommandForm :=
  program.commands.find? fun form => form.name == name

def helpRefusal (program : ProgramForm) : List String → Refusal
  | [] => .help none
  | "help" :: rest =>
    if rest.all fun name => (program.command? name).isSome then .help none else .wrong
  | [name] => if (program.command? name).isSome then .help (some name) else .wrong
  | _ => .wrong

/-- Whether everything that a command requires is given. -/
def isComplete (form : CommandForm) (given : Given) : Bool :=
  given.operands.length == form.operands.length &&
    form.options.all fun option => !option.required || (given.value? option.name).isSome

/-- Reads a command line: the command, if there is one, and what is given.  An option given both
before and after the command has its later value. -/
def parse (program : ProgramForm) (words : List String) :
    Except Refusal (Option CommandForm × Given) := do
  let (before, rest) ← Level.read ⟨none, program.options, 0, true⟩ .empty words
  match rest with
  | [] => if program.needsCommand then .error .wrong else return (none, before)
  | name :: rest =>
    if name = "help" then .error (program.helpRefusal rest)
    else
      match program.command? name with
      | none => .error .wrong
      | some form =>
        let level : Level :=
          ⟨some name, form.options ++ program.options, form.operands.length, false⟩
        let (given, rest) ← level.read .empty rest
        if rest.isEmpty && isComplete form given then
          return (some form, { given with options := before.options ++ given.options })
        else .error .wrong

end ProgramForm

/-- What a program leaves behind when it ends. -/
structure Finish where
  status : UInt32
  output : String
  errors : String
deriving DecidableEq, Repr

/-- How far a program has come: to its end, or to a state in which it stays. -/
inductive Outcome (α : Type) where
  | ended (finish : Finish)
  | stays (state : α)

namespace Finish

def success (output : String) : Finish :=
  ⟨0, output, ""⟩

def failure (message : String) : Finish :=
  ⟨1, "", "Error: " ++ message ++ "\n"⟩

/-- The text of an error with its cause, whose lines are indented. -/
def withCause (message cause : String) : String :=
  message ++ "\n\nCaused by:\n    " ++
    String.ofList (cause.toList.flatMap fun c =>
      if c = '\n' then ['\n', ' ', ' ', ' ', ' '] else [c])

end Finish

namespace ProgramForm

def optionLine (form : OptionForm) : String :=
  "      --" ++ form.name ++ " <" ++ form.name.toUpper ++ ">\n"

/-- The text that explains a program or one of its commands. -/
def helpText (program : ProgramForm) (command : Option String) : String :=
  match command.bind program.command? with
  | some form =>
    form.summary ++ "\n\nUsage: " ++ program.name ++ " " ++ form.name ++ " [OPTIONS]" ++
      String.join (form.operands.map fun name => " <" ++ name.toUpper ++ ">") ++
      "\n\nOptions:\n" ++
      String.join ((form.options ++ program.options).map optionLine) ++
      "  -h, --help\n"
  | none =>
    program.summary ++ "\n\nUsage: " ++ program.name ++ " [OPTIONS] " ++
      (if program.needsCommand then "<COMMAND>" else "[COMMAND]") ++ "\n\nCommands:\n" ++
      String.join (program.commands.map fun form =>
        "  " ++ form.name ++ "  " ++ form.summary ++ "\n") ++
      "  help  Print this message or the help of the given subcommand(s)\n\nOptions:\n" ++
      String.join (program.options.map optionLine) ++ "  -h, --help\n  -V, --version\n"

def versionText : String := "0.1.0"

/-- How a program ends when its command line is not carried out. -/
def refuse (program : ProgramForm) : Refusal → Finish
  | .help command => .success (program.helpText command)
  | .version => .success (program.name ++ " " ++ versionText ++ "\n")
  | .wrong => ⟨2, "", "error: wrong usage, see '" ++ program.name ++ " --help'\n"⟩

end ProgramForm

end SessionBus.Command
