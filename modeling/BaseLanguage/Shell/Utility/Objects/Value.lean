import BaseLanguage.Ledger

namespace BaseLanguage.Shell.Objects

/-!
# Values

A value is known by itself, like a number or a text, or it is an object, which may change and is
known by the address of what it is at present.
-/

inductive Value where
  | nothing
  | truth (holds : Bool)
  | whole (value : Int)
  | real (value : Float)
  | text (text : String)
  | octets (bytes : ByteArray)
  | tuple (items : List Value)
  | range (first last step : Int)
  | slice (first last step : Value)
  | ellipsis
  | notImplemented
  | object (address : Nat)
  | builtIn (name : String)
  | bound (self : Value) (type name : String)
  | unbound (type name : String)
  deriving Inhabited

inductive Key where
  | nothing
  | whole (value : Int)
  | real (bits : UInt64)
  | text (text : String)
  | octets (bytes : List UInt8)
  | row (keys : List Key)
  | collection (keys : List Key)
  | object (address : Nat)
  | numbered (number : Int)
  | named (name : String)
  deriving BEq, Hashable

abbrev Table := Ledger Key (Value × Value)

namespace Table

def named? (table : Table) (name : String) : Option Value := (table.get? (.text name)).map Prod.snd

def withNamed (table : Table) (name : String) (value : Value) : Table :=
  table.insert (.text name) (.text name, value)

def ofNames (entries : List (String × Value)) : Table :=
  entries.foldl (fun table entry => table.withNamed entry.1 entry.2) {}

def pairs (table : Table) : List (Value × Value) := table.values

end Table

/-! ## What a program is made of -/

structure Span where
  line : Nat
  column : Nat
  lastLine : Nat
  lastColumn : Nat
  deriving DecidableEq, Inhabited

inductive Operator where
  | plus
  | minus
  | times
  | matrixTimes
  | divided
  | wholly
  | rest
  | power
  | left
  | right
  | both
  | either
  | other
  deriving DecidableEq

namespace Operator

def sign : Operator -> String
  | .plus => "+"
  | .minus => "-"
  | .times => "*"
  | .matrixTimes => "@"
  | .divided => "/"
  | .wholly => "//"
  | .rest => "%"
  | .power => "** or pow()"
  | .left => "<<"
  | .right => ">>"
  | .both => "&"
  | .either => "|"
  | .other => "^"

def name : Operator -> String
  | .plus => "add"
  | .minus => "sub"
  | .times => "mul"
  | .matrixTimes => "matmul"
  | .divided => "truediv"
  | .wholly => "floordiv"
  | .rest => "mod"
  | .power => "pow"
  | .left => "lshift"
  | .right => "rshift"
  | .both => "and"
  | .either => "or"
  | .other => "xor"

end Operator

inductive Sign where
  | plus
  | minus
  | opposite
  | turned

inductive Relation where
  | less
  | lessOrSame
  | same
  | different
  | greater
  | greaterOrSame
  | isOne
  | isNotOne
  | within
  | outside

def Relation.sign : Relation -> String
  | .less => "<"
  | .lessOrSame => "<="
  | .same => "=="
  | .different => "!="
  | .greater => ">"
  | .greaterOrSame => ">="
  | .isOne => "is"
  | .isNotOne => "is not"
  | .within => "in"
  | .outside => "not in"

inductive ArgumentKind where
  | plain
  | named (name : String)
  | items
  | entries
  deriving DecidableEq

inductive ParameterKind where
  | placed
  | usual
  | items
  | named
  | entries
  deriving DecidableEq

inductive CollectionKind where
  | list
  | set
  | dict
  | generator
  deriving DecidableEq

inductive Expression where
  | at (span : Span) (inner : Expression)
  | constant (value : Value)
  | name (name : String)
  | joined (pieces : List Expression)
  | formed (value : Expression) (letter : Option Char) (form : Option Expression)
  | tuple (items : List Expression)
  | list (items : List Expression)
  | set (items : List Expression)
  | dict (entries : List (Option Expression × Expression))
  | items (inner : Expression)
  | signed (sign : Sign) (inner : Expression)
  | binary (operator : Operator) (left right : Expression)
  | both (left right : Expression)
  | either (left right : Expression)
  | compared (first : Expression) (rest : List (Relation × Expression))
  | choice (test yes no : Expression)
  | attribute (inner : Expression) (name : String)
  | item (inner index : Expression)
  | slice (first last step : Option Expression)
  | call (function : Expression) (arguments : List (ArgumentKind × Expression))
  | function (parameters : List (String × ParameterKind × Option Expression)) (body : Expression)
  | collected (kind : CollectionKind) (key : Option Expression) (element : Expression)
      (loops : List (Expression × Expression × List Expression))
  | assigned (name : String) (value : Expression)
  | give (value : Option Expression)
  | giveAll (value : Expression)

abbrev Parameters := List (String × ParameterKind × Option Expression)

inductive Shape where
  | any (name : Option String)
  | value (expression : Expression)
  | exactly (value : Value)
  | row (before : List Shape) (rest : Option (Option String)) (after : List Shape)
  | table (entries : List (Expression × Shape)) (rest : Option String)
  | type (type : Expression) (placed : List Shape) (named : List (String × Shape))
  | oneOf (shapes : List Shape)
  | called (shape : Shape) (name : String)

inductive Statement where
  | at (span : Span) (inner : Statement)
  | expression (inner : Expression)
  | assign (targets : List Expression) (value : Expression)
  | annotated (target annotation : Expression) (value : Option Expression)
  | changed (target : Expression) (operator : Operator) (value : Expression)
  | delete (targets : List Expression)
  | pass
  | leave
  | again
  | giveBack (value : Option Expression)
  | raise (value cause : Option Expression)
  | assert (test : Expression) (message : Option Expression)
  | shared (names : List String)
  | outer (names : List String)
  | use (package : String) (name : Option String)
  | useFrom (package : String) (level : Nat) (names : List (String × String))
  | useAll (package : String)
  | choice (test : Expression) (body otherwise : List Statement)
  | loop (test : Expression) (body atEnd : List Statement)
  | each (target source : Expression) (body atEnd : List Statement)
  | attempt (body : List Statement)
      (handlers : List (Span × Option Expression × Option String × List Statement))
      (otherwise atEnd : List Statement)
  | within (items : List (Expression × Option Expression)) (body : List Statement)
  | function (name : String) (parameters : List (String × ParameterKind × Option Expression))
      (annotations : List (String × Expression)) (body : List Statement)
      (decorators : List Expression)
  | type (name : String) (arguments : List (ArgumentKind × Expression)) (body : List Statement)
      (decorators : List Expression)
  | cases (subject : Expression) (cases : List (Shape × Option Expression × List Statement))

end BaseLanguage.Shell.Objects
