import BaseLanguage.Rewriting.Grammar
import BaseLanguage.Tool.Basic

namespace BaseLanguage

/-!
# A scripted toolchain

This toolchain runs no programs.  A script says what the bootstrap compiler generates and reports,
which calls fail, and how grammars are normalised; files hold terms as text.  Every call is noted
before it is answered.
-/

inductive ToolCall where
  | bootstrap (request : BootstrapRequest)
  | parse (table input : Path) (start : String)
  | prettyPrint (dialect : Dialect)
  | normalizeGrammar (grammar : Term)
  | generatePpTable (grammar : Term)
  deriving DecidableEq

namespace ToolCall

def name : ToolCall -> String
  | bootstrap _ => "bootstrap"
  | parse _ _ _ => "parse"
  | prettyPrint .grammar => "pretty_print_grammar"
  | prettyPrint .rules => "pretty_print_rules"
  | normalizeGrammar _ => "normalize"
  | generatePpTable _ => "pp_table"

end ToolCall

structure ToolScript where
  /-- The generated grammar, if one is written. -/
  grammar : Option String := none
  /-- The generated rule module, if one is written. -/
  rules : Option String := none
  /-- What is wrong with the definition. -/
  errors : List String := []
  /-- The calls that fail, by name, with their reasons. -/
  failures : List (String × String) := []
  /-- The constructor that normalised grammars are wrapped in. -/
  wrapper : Option String := none
  normalizes : Bool := true

/-- A script with the calls noted so far. -/
structure ScriptedTools where
  script : ToolScript := {}
  calls : List ToolCall := []

namespace ScriptedTools

/-- Notes a call, and fails if the script says so. -/
def enter (call : ToolCall) : ToolWork ScriptedTools ToolScript := do
  modify (fun workshop =>
    { workshop with tools := { workshop.tools with calls := workshop.tools.calls ++ [call] } })
  let script := (← get).tools.script
  match script.failures.lookup call.name with
  | some reason => throw (.other reason)
  | none => return script

def writeGenerated (path : Path) (text : Option String) : ToolWork ScriptedTools Unit :=
  match text with
  | some text => Workshop.withFiles (FileTree.write path (Text.toBytes text))
  | none => return ()

def toolchain : Toolchain ScriptedTools where
  bootstrap request := do
    let script ← enter (.bootstrap request)
    writeGenerated request.grammarOutput script.grammar
    writeGenerated request.rulesOutput script.rules
    return { errors := script.errors }
  parse table input start := do
    let _ ← enter (.parse table input start)
    match (← get).files.readText input with
    | .error fault => throw (.file fault)
    | .ok text =>
      match Term.parse text with
      | .ok term => return term
      | .error error => throw (.term "scripted" error)
  prettyPrint dialect term := do
    let _ ← enter (.prettyPrint dialect)
    return term.print ++ "\n"
  normalizeGrammar grammar := do
    if !(← get).tools.script.normalizes then return grammar
    let script ← enter (.normalizeGrammar grammar)
    match script.wrapper with
    | some name => return .appl name [grammar]
    | none => return grammar
  generatePpTable grammar := do
    let _ ← enter (.generatePpTable grammar)
    match grammar.child 0 with
    | .ok child => return Text.toBytes s!"pp-table({child.print})"
    | .error error => throw (.other error.message)

end ScriptedTools
end BaseLanguage
