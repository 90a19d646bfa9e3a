import EventSheet.CommandLine.Help
import EventSheet.Typing.SemanticType

/-!
# Arguments of the command line

What the arguments of the program ask for. Options may stand before and after the expression; their
values follow as the next argument or after an equals sign, and no value but a lone dash begins with
a dash. After a double dash everything is an expression. Only catalogs may be named more than once.
Arguments are read in order, so that a request for help counts unless a mistake stands before it.
-/

namespace EventSheet

/-- What checking an expression is asked to do. -/
structure CheckOptions where
  expected : SemanticType
  /-- Paths of catalogs, in order. -/
  catalogs : List String
  /-- The path of the manifest. -/
  project : Option String
  noBuiltins : Bool
  json : Bool
  noColor : Bool

/-- What the program can do with an expression. -/
inductive Command
  | check (expression : String) (options : CheckOptions)
  | tokens (expression : String)
  | tree (expression : String)

/-- What the program is asked for. -/
inductive Request
  | command (command : Command)
  | help (topic : HelpTopic)
  | version

/-- Why the arguments of a command are not read to their end. -/
inductive Interruption
  | mistake
  | helpWanted
  deriving DecidableEq

/-- An option of the check command that takes a value. -/
inductive ValueOption
  | expected
  | metadata
  | project
  deriving DecidableEq

/-- An option of the check command that stands alone. -/
inductive Flag
  | noBuiltins
  | json
  | noColor
  deriving DecidableEq

/-- What an argument is by its form. -/
inductive Word
  /-- The double dash. -/
  | escape
  /-- A long option and the value after its equals sign. -/
  | long (name : String) (value : Option String)
  /-- Anything else that begins with a dash, and the letter after it. -/
  | short (letter : Char)
  | plain (text : String)

/-- What is known while arguments are read. -/
structure ParsedArguments where
  expression : Option String
  expected : Option SemanticType
  catalogs : List String
  project : Option String
  flags : List Flag

namespace ParsedArguments

/-- Nothing read yet. -/
def none : ParsedArguments := ⟨.none, .none, [], .none, []⟩

/-- Takes the expression, which may be given once. -/
def takeExpression (p : ParsedArguments) (text : String) : Option ParsedArguments :=
  if p.expression.isSome then .none else some { p with expression := some text }

/-- Takes a flag, which may be given once. -/
def takeFlag (p : ParsedArguments) (flag : Flag) : Option ParsedArguments :=
  if p.flags.contains flag then .none else some { p with flags := flag :: p.flags }

/-- Takes the value of an option. A type has to be known by its name, a path has not to be empty,
and only catalogs may be given again. -/
def takeValue (p : ParsedArguments) (option : ValueOption) (text : String) :
    Option ParsedArguments :=
  match option with
  | .expected =>
    if p.expected.isSome then .none
    else (SemanticType.ofName? text).map fun t => { p with expected := some t }
  | .metadata =>
    if text.isEmpty then .none else some { p with catalogs := p.catalogs ++ [text] }
  | .project =>
    if text.isEmpty || p.project.isSome then .none else some { p with project := some text }

/-- The options of the check command. -/
def options (p : ParsedArguments) : CheckOptions where
  expected := p.expected.getD .number
  catalogs := p.catalogs
  project := p.project
  noBuiltins := p.flags.contains .noBuiltins
  json := p.flags.contains .json
  noColor := p.flags.contains .noColor

end ParsedArguments

/-- The option of a name that takes a value. -/
def ValueOption.ofName? : String → Option ValueOption
  | "expected" => some .expected
  | "metadata" => some .metadata
  | "project" => some .project
  | _ => none

/-- The flag of a name. -/
def Flag.ofName? : String → Option Flag
  | "no-builtins" => some .noBuiltins
  | "json" => some .json
  | "no-color" => some .noColor
  | _ => none

/-- The form of an argument. -/
def Word.ofArgument (argument : String) : Word :=
  match argument.toList with
  | ['-', '-'] => .escape
  | '-' :: '-' :: cs =>
    let name := String.ofList (cs.takeWhile (· != '='))
    match cs.dropWhile (· != '=') with
    | [] => .long name none
    | _ :: value => .long name (some (String.ofList value))
  | '-' :: letter :: _ => .short letter
  | _ => .plain argument

/-- Goes on with what was taken from an argument; nothing taken is a mistake. -/
def orMistake {α β : Type} (taken : Option α) (next : α → Except Interruption β) :
    Except Interruption β :=
  match taken with
  | some a => next a
  | none => .error .mistake

/-- Takes arguments that are all expressions. -/
def takeExpressions (p : ParsedArguments) : List String → Except Interruption ParsedArguments
  | [] => .ok p
  | text :: rest => orMistake (p.takeExpression text) (takeExpressions · rest)

/-- Reads the arguments of a command; `hasOptions` says whether it has options besides help. -/
def readArguments (hasOptions : Bool) (p : ParsedArguments) :
    List String → Except Interruption ParsedArguments
  | [] => .ok p
  | argument :: rest =>
    match Word.ofArgument argument with
    | .plain text => orMistake (p.takeExpression text) fun p => readArguments hasOptions p rest
    | .escape => takeExpressions p rest
    | .short letter => .error (if letter = 'h' then .helpWanted else .mistake)
    | .long "help" none => .error .helpWanted
    | .long name value =>
      if !hasOptions then .error .mistake
      else
        match Flag.ofName? name, ValueOption.ofName? name, value, rest with
        | some flag, _, none, rest =>
          orMistake (p.takeFlag flag) fun p => readArguments hasOptions p rest
        | none, some option, some text, rest =>
          orMistake (p.takeValue option text) fun p => readArguments hasOptions p rest
        | none, some option, none, next :: rest =>
          match Word.ofArgument next with
          | .plain text =>
            orMistake (p.takeValue option text) fun p => readArguments hasOptions p rest
          | _ => .error .mistake
        | _, _, _, _ => .error .mistake

/-- Reads the arguments of the command that help calls `topic` and makes a command of them. -/
def Request.ofCommand? (topic : HelpTopic) (hasOptions : Bool)
    (make : String → ParsedArguments → Command) (arguments : List String) : Option Request :=
  match readArguments hasOptions .none arguments with
  | .ok p => p.expression.map fun expression => .command (make expression p)
  | .error .helpWanted => some (.help topic)
  | .error .mistake => none

/-- What the arguments of the program ask for; none when they cannot be understood. -/
def Request.ofArguments? : List String → Option Request
  | "check" :: rest =>
    ofCommand? .check true (fun expression p => .check expression p.options) rest
  | "tokens" :: rest => ofCommand? .tokens false (fun expression _ => .tokens expression) rest
  | "ast" :: rest => ofCommand? .tree false (fun expression _ => .tree expression) rest
  | ["help"] => some (.help .program)
  | ["help", name] => (HelpTopic.ofName? name).map .help
  | first :: _ =>
    match Word.ofArgument first with
    | .short 'h' => some (.help .program)
    | .short 'V' => some .version
    | .long "help" none => some (.help .program)
    | .long "version" none => some .version
    | _ => none
  | [] => none

end EventSheet
