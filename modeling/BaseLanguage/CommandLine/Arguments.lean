import BaseLanguage.Path

namespace BaseLanguage
namespace CommandLine

/-!
# Arguments

A command line names a plugin and a definition, and may have options around them.  An option that
takes a value takes it from the same argument or from the next one, which must not look like an
option.  Each option may be given once.  Behind two minus signs there are no options.
-/

structure Invocation where
  plugin : Path
  definition : Path
  configuration : Option Path
  force : Bool
  json : Bool
  verbose : Bool
  deriving Repr, DecidableEq

/-- Why a command line asks for no run. -/
inductive Refusal where
  /-- It is wrong. -/
  | usage
  /-- It asks how the program is used. -/
  | help
  deriving Repr, DecidableEq

structure Progress where
  configuration : Option Path := none
  force : Bool := false
  json : Bool := false
  verbose : Bool := false
  places : List Path := []
  deriving Repr, DecidableEq

inductive Flag where
  | force
  | json
  | verbose
  | help
  deriving Repr, DecidableEq

namespace Flag

def ofName? (name : String) : Option Flag :=
  match name with
  | "force" => some force
  | "json" => some json
  | "verbose" => some verbose
  | "help" => some help
  | _ => none

def ofLetter? (letter : Char) : Option Flag :=
  match letter with
  | 'f' => some force
  | 'v' => some verbose
  | 'h' => some help
  | _ => none

end Flag

namespace Progress

/-- Takes a flag, which must not have been given before. -/
def flag (progress : Progress) : Flag -> Except Refusal Progress
  | .force => if progress.force then .error .usage else .ok { progress with force := true }
  | .json => if progress.json then .error .usage else .ok { progress with json := true }
  | .verbose => if progress.verbose then .error .usage else .ok { progress with verbose := true }
  | .help => .error .help

/-- Takes the name of a configuration file, which must not be empty or have been given before. -/
def configure (progress : Progress) (file : String) : Except Refusal Progress :=
  if file.isEmpty || progress.configuration.isSome then .error .usage
  else .ok { progress with configuration := some ⟨file⟩ }

/-- Takes an argument that is no option.  There are two of them, and none is empty. -/
def place (progress : Progress) (text : String) : Except Refusal Progress :=
  if text.isEmpty || 2 ≤ progress.places.length then .error .usage
  else .ok { progress with places := progress.places ++ [⟨text⟩] }

end Progress

inductive Argument where
  /-- The end of the options. -/
  | separator
  | long (name : String) (value : Option String)
  | short (letters : List Char)
  | place (text : String)
  deriving Repr, DecidableEq

/-- Tells options from other arguments.  A lone minus sign is no option. -/
def Argument.ofText (text : String) : Argument :=
  match text.toList with
  | ['-', '-'] => .separator
  | '-' :: '-' :: rest =>
    let name := String.ofList (rest.takeWhile (· != '='))
    match rest.dropWhile (· != '=') with
    | [] => .long name none
    | _ :: value => .long name (some (String.ofList value))
  | '-' :: c :: letters => .short (c :: letters)
  | _ => .place text

/-- The value of an option that is written behind its letter, with or without an equals sign. -/
def attached? (letters : List Char) : Option String :=
  match letters with
  | [] => none
  | '=' :: value => some (String.ofList value)
  | value => some (String.ofList value)

/-- Takes the options of a cluster of letters.  Whether a value must follow is part of the
result. -/
def Progress.cluster (progress : Progress) : List Char -> Except Refusal (Progress × Bool)
  | [] => .ok (progress, false)
  | letter :: letters =>
    if letter = 'c' then
      match attached? letters with
      | some value => do return (← progress.configure value, false)
      | none => .ok (progress, true)
    else
      match Flag.ofLetter? letter with
      | some flag => do (← progress.flag flag).cluster letters
      | none => .error .usage

/-- Takes one argument that may be an option.  Whether a value must follow is part of the
result. -/
def Progress.argument (progress : Progress) : Argument -> Except Refusal (Progress × Bool)
  | .separator => .ok (progress, false)
  | .place text => do return (← progress.place text, false)
  | .short letters => progress.cluster letters
  | .long "config" (some value) => do return (← progress.configure value, false)
  | .long "config" none => .ok (progress, true)
  | .long name value =>
    match Flag.ofName? name, value with
    | some flag, none => do return (← progress.flag flag, false)
    | _, _ => .error .usage

/-- Takes arguments up to the end.  The argument behind an option without its value is the
value. -/
def Progress.arguments (progress : Progress) (awaiting : Bool) :
    List String -> Except Refusal Progress
  | [] => if awaiting then .error .usage else .ok progress
  | text :: rest => do
    match awaiting, Argument.ofText text with
    | true, .place value => (← progress.configure value).arguments false rest
    | true, _ => .error .usage
    | false, .separator => rest.foldlM Progress.place progress
    | false, argument =>
      let (progress, awaiting) ← progress.argument argument
      progress.arguments awaiting rest

def parse (arguments : List String) : Except Refusal Invocation := do
  let found ← Progress.arguments {} false arguments
  match found.places with
  | [plugin, definition] =>
    return {
      plugin
      definition
      configuration := found.configuration
      force := found.force
      json := found.json
      verbose := found.verbose }
  | _ => throw .usage

def usageLine : String := "Usage: sxbld [OPTIONS] <PLUGIN_DIR> <DEFINITION>\n"

def helpText : String :=
  "Compile a base language definition into grammar, rules and pretty-print artifacts\n\n" ++
    usageLine ++ "\n" ++
    "Arguments:\n" ++
    "  <PLUGIN_DIR>  Plugin directory containing `src/` and `bin/`\n" ++
    "  <DEFINITION>  Definition file, relative to the plugin's `src/` directory\n\n" ++
    "Options:\n" ++
    "  -c, --config <FILE>  Configuration file (TOML)\n" ++
    "  -f, --force          Regenerate artifacts even when they are up to date\n" ++
    "      --json           Print the descriptor as JSON\n" ++
    "  -v, --verbose        Verbose logging\n" ++
    "  -h, --help           Print help\n"

end CommandLine
end BaseLanguage
