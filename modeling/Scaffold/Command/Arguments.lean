import Scaffold.Disk.Path
/-!
# Command.Arguments — what the arguments of the command ask for

The command generates, or with `check` only looks a schema over.  An option takes its value from behind an equals sign
or from the next argument, which then may not begin with a dash; a single dash is a value.  No option that takes a
value may be given twice.  `--verbose` may stand anywhere and any number of times.
-/
namespace Scaffold.Command

open Disk (Path)

/-- What is asked for. -/
inductive Invocation where
  | version
  | help
  | check (schema : Path)
  | generate (schema root : Path) (layout : Option Path)
  deriving Repr, DecidableEq

/-- Why the arguments make no sense. -/
inductive Misuse where
  | unexpected (argument : String)
  | noValue (option : String)
  | repeated (option : String)
  | missing (option : String)
  deriving Repr, DecidableEq

def Misuse.message : Misuse → String
  | .unexpected argument => "error: unexpected argument '" ++ argument ++ "' found"
  | .noValue option => "error: a value is required for '" ++ option ++ "' but none was supplied"
  | .repeated option => "error: the argument '" ++ option ++ "' cannot be used multiple times"
  | .missing option => "error: the required argument '" ++ option ++ "' was not provided"

/-- An argument, by the dashes at its front. -/
inductive Word where
  | separator
  | long (name : String) (value : Option String)
  | short (letters : List Char)
  | plain (text : String)
  deriving Repr, DecidableEq

def Word.of (argument : String) : Word :=
  match argument.toList with
  | ['-', '-'] => .separator
  | '-' :: '-' :: rest =>
    match rest.dropWhile (· != '=') with
    | [] => .long (String.ofList rest) none
    | _ :: value => .long (String.ofList (rest.takeWhile (· != '='))) (some (String.ofList value))
  | '-' :: letter :: letters => .short (letter :: letters)
  | _ => .plain argument

inductive PathOption where
  | schema
  | root
  | layout
  deriving Repr, DecidableEq

def PathOption.name : PathOption → String
  | .schema => "yaml"
  | .root => "laravel-root"
  | .layout => "config"

abbrev Given := List (PathOption × Path)

def give (given : Given) (option : PathOption) (value : String) : Except Misuse Given :=
  if value.isEmpty then .error (.noValue ("--" ++ option.name))
  else if (given.lookup option).isSome then .error (.repeated ("--" ++ option.name))
  else .ok ((option, ⟨value⟩) :: given)

def required (given : Given) (option : PathOption) : Except Misuse Path :=
  match given.lookup option with
  | some path => .ok path
  | none => .error (.missing ("--" ++ option.name))

/-- What is asked for by letters behind one dash; nothing yet if all of them only say how much to log. -/
def readLetters (hasVersion : Bool) : List Char → Except Misuse (Option Invocation)
  | [] => .ok none
  | 'v' :: letters => readLetters hasVersion letters
  | 'h' :: _ => .ok (some .help)
  | letter :: _ =>
    if letter = 'V' && hasVersion then .ok (some .version) else .error (.unexpected ("-" ++ letter.toString))

/-- Reads arguments.  `options` are those that are known here, `command` says what a plain word asks for, with the
arguments behind it, and `finish` what is asked for in the end. -/
def read (options : List PathOption) (hasVersion : Bool)
    (command : String → List String → Except Misuse Invocation) (finish : Given → Except Misuse Invocation) :
    Given → List String → Except Misuse Invocation
  | given, [] => finish given
  | given, argument :: rest =>
    match Word.of argument with
    | .separator =>
      match rest with
      | [] => finish given
      | argument :: _ => .error (.unexpected argument)
    | .plain text => command text rest
    | .short letters => do
      match ← readLetters hasVersion letters with
      | some invocation => .ok invocation
      | none => read options hasVersion command finish given rest
    | .long name value =>
      match options.find? (·.name == name), value with
      | some option, some value => do
        read options hasVersion command finish (← give given option value) rest
      | some option, none =>
        match rest with
        | [] => .error (.noValue argument)
        | next :: rest =>
          match Word.of next with
          | .plain value => do read options hasVersion command finish (← give given option value) rest
          | _ => .error (.noValue argument)
      | none, some _ => .error (.unexpected argument)
      | none, none =>
        if name == "verbose" then read options hasVersion command finish given rest
        else if name == "help" then .ok .help
        else if name == "version" && hasVersion then .ok .version
        else .error (.unexpected argument)

def readCheck : List String → Except Misuse Invocation :=
  read [.schema] false (fun text _ => .error (.unexpected text))
    (fun given => do return .check (← required given .schema)) []

def readCommand (text : String) (rest : List String) : Except Misuse Invocation :=
  if text == "check" then readCheck rest
  else if text == "help" then
    if rest = [] ∨ rest = ["check"] ∨ rest = ["help"] then .ok .help
    else .error (.unexpected (" ".intercalate rest))
  else .error (.unexpected text)

def Invocation.ofArguments (arguments : List String) : Except Misuse Invocation :=
  read [.schema, .root, .layout] true readCommand
    (fun given => do return .generate (← required given .schema) (← required given .root) (given.lookup .layout))
    [] arguments

end Scaffold.Command
