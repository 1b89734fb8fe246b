import BaseLanguage.Shell.Utility.Objects.Conduct
import BaseLanguage.Shell.Utility.Objects.Streams

namespace BaseLanguage.Shell.Objects

/-!
# What values tell

Values are gone through one after the other, and they tell what they are: as a text for people, or as
a text that stands for them in a program.
-/

section

variable (engine : Engine)

/-! ## The next value -/

def mostSteps : Nat := 1000000000000

def setIteration (address : Nat) (iteration : Iteration) : Machine Unit :=
  setThing address (.iterator iteration)

def nextThat (next : Machine (Option Value)) (holds : Value -> Machine Bool) :
    Nat -> Machine (Option Value)
  | 0 => return none
  | limit + 1 => do
    match <- next with
    | none => return none
    | some value => if <- holds value then return some value else nextThat next holds limit

def nextWithin : Nat -> Value -> Machine (Option Value)
  | 0, _ => fail "RecursionError" "maximum recursion depth exceeded"
  | depth + 1, value => do
    match value with
    | .object address => match <- thingAt address with
      | .generator _ _ => engine.resume address .nothing none
      | .stream _ => nextLine address
      | .member _ _ _ =>
        match <- orNothing "StopIteration" (callSpecial? engine value "__next__" []) with
        | some (some found) => return some found
        | some none => failType s!"'{← typeName value}' object is not an iterator"
        | none => return none
      | .iterator iteration => match iteration with
        | .ended _ => return none
        | .items values index kind => match values[index]? with
          | some found =>
            changeThing address fun
              | .iterator (.items values index kind) => .iterator (.items values (index + 1) kind)
              | thing => thing
            return some found
          | none =>
            setIteration address (.ended kind)
            return none
        | .list items index => match <- thingAt items with
          | .list values => match values[index]? with
            | some found =>
              setIteration address (.list items (index + 1))
              return some found
            | none =>
              setIteration address (.ended "list_iterator")
              return none
          | _ => return none
        | .range next last step =>
          if (0 < step && next < last) || (step < 0 && last < next) then
            setIteration address (.range (next + step) last step)
            return some (.whole next)
          else return none
        | .entries table size left kind =>
          if (<- tableAt table).size ≠ size then
            let what := if kind = "set_iterator" then "Set" else "dictionary"
            fail "RuntimeError" s!"{what} changed size during iteration"
          else match left with
            | found :: left =>
              setIteration address (.entries table size left kind)
              return some found
            | [] =>
              setIteration address (.ended kind)
              return none
        | .calls function ending =>
          match <- orNothing "StopIteration" (engine.call function [] []) with
          | none => return none
          | some found =>
            if <- isOneOrSame engine found ending then
              setIteration address (.ended "callable_iterator")
              return none
            else return some found
        | .indexed object index =>
          let asked := callSpecial? engine object "__getitem__" [.whole index]
          match <- orNothing "IndexError" (orNothing "StopIteration" asked) with
          | some (some (some found)) =>
            setIteration address (.indexed object (index + 1))
            return some found
          | _ =>
            setIteration address (.ended "iterator")
            return none
        | .map function sources =>
          let values <- sources.foldlM
            (fun (found : Option (List Value)) (source : Value) => do
              let some values := found | return none
              match <- nextWithin depth source with
              | none => return none
              | some value => return some (value :: values)) (some [])
          match values with
          | none => return none
          | some values => return some (<- engine.call function values.reverse [])
        | .filter function source =>
          nextThat (nextWithin depth source) (fun value => do
            match function with
            | .nothing => isTrue engine value
            | function => isTrue engine (<- engine.call function [value] [])) mostSteps
        | .zip sources isStrict =>
          let values <- sources.foldlM
            (fun (found : List Value × Bool) (source : Value) => do
              if found.2 then return found
              else match <- nextWithin depth source with
                | none => return (found.1, true)
                | some value => return (value :: found.1, false)) ([], false)
          match values with
          | (found, false) => return if sources.isEmpty then none else some (.tuple found.reverse)
          | (found, true) =>
            if isStrict then
              let count := found.length
              if 0 < count then
                let what := if count = 1 then "argument 1" else s!"arguments 1-{numberText count}"
                failValue s!"zip() argument {numberText (count + 1)} is shorter than {what}"
              else
                let longer <- (sources.drop 1).zipIdx.findM? fun (source, _) => do
                  return (<- nextWithin depth source).isSome
                match longer with
                | some (_, index) =>
                  let what := if index = 0 then "argument 1"
                    else s!"arguments 1-{numberText (index + 1)}"
                  failValue s!"zip() argument {numberText (index + 2)} is longer than {what}"
                | none => return none
            else return none
        | .enumerate source next => match <- nextWithin depth source with
          | none => return none
          | some found =>
            setIteration address (.enumerate source (next + 1))
            return some (.tuple [.whole next, found])
      | _ => failType s!"'{← typeName value}' object is not an iterator"
    | value => failType s!"'{← typeName value}' object is not an iterator"

def nextOf (value : Value) : Machine (Option Value) := nextWithin engine 200 value

def restOf (source : Value) : Nat -> Array Value -> Machine (Array Value)
  | 0, done => return done
  | limit + 1, done => do
    match <- nextOf engine source with
    | some value => restOf source limit (done.push value)
    | none => return done

def itemsOf (value : Value) : Machine (List Value) := do
  let slowly : Machine (List Value) := do
    return (<- restOf engine (<- iteratorOf engine value) mostSteps #[]).toList
  match value with
  | .tuple items => return items
  | .text text => return itemsOfText text
  | .octets bytes => return itemsOfBytes bytes
  | .range first last step =>
    return (List.range (rangeSize first last step)).map
      (fun (index : Nat) => .whole (first + index * step))
  | .object address => match <- thingAt address with
    | .list items => return items.toList
    | .dict table => return table.values.map Prod.fst
    | .set table _ => return setItems table
    | .view kind table => return viewItems kind (<- tableAt table)
    | _ => slowly
  | _ => slowly

/-! ## Texts -/

def placeText (address : Nat) : String := "0x" ++ hexDigits 12 (0x7f0000000000 + 48 * address)

def TypeFacts.wholeName (facts : TypeFacts) : String :=
  if facts.package = "builtins" then facts.qualified else s!"{facts.package}.{facts.qualified}"

def lastPart (name : String) : String := ((name.splitOn ".").getLast?).getD name

def bracketed (opening closing : String) (parts : List String) : String :=
  opening ++ ", ".intercalate parts ++ closing

def reprWithin : Nat -> List Nat -> Value -> Machine String
  | 0, _, _ => fail "RecursionError" "maximum recursion depth exceeded while getting the repr of an object"
  | depth + 1, seen, value => do
    let all (values : List Value) (seen : List Nat) : Machine (List String) :=
      values.mapM (reprWithin depth seen)
    match value with
    | .nothing => return "None"
    | .truth holds => return if holds then "True" else "False"
    | .whole value =>
      if isTooLong value then
        failValue ("Exceeds the limit (4300 digits) for integer string conversion; " ++
          "use sys.set_int_max_str_digits() to increase the limit")
      else return wholeText value
    | .real value => return realText value
    | .text text => return quotedText text false
    | .octets bytes => return quotedBytes bytes
    | .tuple [item] => return s!"({← reprWithin depth seen item},)"
    | .tuple items => return bracketed "(" ")" (<- all items seen)
    | .range first last step =>
      let front := s!"range({wholeText first}, {wholeText last}"
      return if step = 1 then front ++ ")" else s!"{front}, {wholeText step})"
    | .slice first last step => return bracketed "slice(" ")" (<- all [first, last, step] seen)
    | .ellipsis => return "Ellipsis"
    | .notImplemented => return "NotImplemented"
    | .builtIn name => return s!"<built-in function {lastPart name}>"
    | .bound self type name => match self with
      | .object address =>
        return s!"<built-in method {name} of {type} object at {placeText address}>"
      | _ => return s!"<built-in method {name} of {type} object at {placeText 0}>"
    | .unbound type name => return s!"<method '{name}' of '{type}' objects>"
    | .object address =>
      if seen.contains address then
        match <- thingAt address with
        | .list _ => return "[...]"
        | .dict _ => return .ofList ['\x7b', '.', '.', '.', '\x7d']
        | _ => return "..."
      else
        let seen := address :: seen
        let entries (table : Table) : Machine (List String) :=
          table.values.mapM fun (key, found) => do
            return (<- reprWithin depth seen key) ++ ": " ++ (<- reprWithin depth seen found)
        match <- thingAt address with
        | .list items => return bracketed "[" "]" (<- all items.toList seen)
        | .dict table => return bracketed "\x7b" "\x7d" (<- entries table)
        | .set table isFixed =>
          let inside := bracketed "\x7b" "\x7d" (<- all (setItems table) seen)
          return match isFixed, table.size with
            | true, 0 => "frozenset()"
            | false, 0 => "set()"
            | true, _ => s!"frozenset({inside})"
            | false, _ => inside
        | .octets bytes => return s!"bytearray({quotedBytes bytes})"
        | .function facts => return s!"<function {facts.qualified} at {placeText address}>"
        | .method function self =>
          let name <- match function with
            | .object inner => match <- thingAt inner with
              | .function facts => pure facts.qualified
              | _ => pure "method"
            | _ => pure "method"
          return s!"<bound method {name} of {← reprWithin depth seen self}>"
        | .type facts => return s!"<class '{facts.wholeName}'>"
        | .iterator iteration => return s!"<{iteration.typeName} object at {placeText address}>"
        | .generator activation _ =>
          return s!"<generator object {activation.code.qualified} at {placeText address}>"
        | .stream facts =>
          if facts.memory.isSome then
            let name := if facts.isBinary then "BytesIO" else "StringIO"
            return s!"<_io.{name} object at {placeText address}>"
          else
            let name <- reprWithin depth seen facts.name
            if facts.isBinary then
              let kind := if facts.writes then "BufferedWriter" else "BufferedReader"
              return s!"<_io.{kind} name={name}>"
            else return s!"<_io.TextIOWrapper name={name} mode='{facts.mode}' encoding='UTF-8'>"
        | .view kind table =>
          let items := viewItems kind (<- tableAt table)
          let list := bracketed "[" "]" (<- all items seen)
          return s!"{kind}({list})"
        | .property _ _ _ => return s!"<property object at {placeText address}>"
        | .loose inner => return s!"<staticmethod({← reprWithin depth seen inner})>"
        | .ofType inner => return s!"<classmethod({← reprWithin depth seen inner})>"
        | .super type self _ =>
          let first := (<- typeAt type).qualified
          let second := (<- typeAt (<- typeOf self)).qualified
          return s!"<super: <class '{first}'>, <{second} object>>"
        | .package name _ =>
          return if ["sys", "time", "math", "itertools", "builtins"].contains name then
              s!"<module '{name}' (built-in)>"
            else
              let path := "/".intercalate (name.splitOn ".")
              s!"<module '{name}' from '/usr/lib/python3.11/{path}.py'>"
        | .pattern text flags _ =>
          let shown <- reprWithin depth seen text
          let names := [(2, "re.IGNORECASE"), (8, "re.MULTILINE"), (16, "re.DOTALL"),
            (64, "re.VERBOSE"), (256, "re.ASCII")]
          let said := names.filterMap fun (bit, name) =>
            if flags / bit % 2 = 1 then some name else none
          let flagText := "|".intercalate said
          return if said.isEmpty then s!"re.compile({shown})"
            else s!"re.compile({shown}, {flagText})"
        | .found _ text found _ _ =>
          let matched <- match text with
            | .text text =>
              pure (.text (.ofList
                ((text.toList.drop found.start).take (found.ending - found.start))))
            | .octets bytes => pure (.octets (bytes.extract found.start found.ending))
            | other => pure other
          let span := s!"({numberText found.start}, {numberText found.ending})"
          return s!"<re.Match object; span={span}, match={← reprWithin depth seen matched}>"
        | .code number _ =>
          let code := (<- get).codes.getD number default
          return s!"<code object {code.name} at {placeText address}, file \"{code.file}\", line {numberText code.firstLine}>"
        | .digest kind _ => return s!"<{kind} _hashlib.HASH object @ {placeText address}>"
        | .member type _ held => match <- callSpecial? engine value "__repr__" [] with
          | some (.text text) => return text
          | some other => failType s!"__repr__ returned non-string (type {← typeName other})"
          | none =>
            let facts <- typeAt type
            if <- isSubtype type (nativeType "BaseException") then
              match held with
              | .tuple [item] => return s!"{facts.name}({← reprWithin depth seen item})"
              | .tuple items => return facts.name ++ bracketed "(" ")" (<- all items seen)
              | _ => return s!"{facts.name}()"
            else match held with
              | .nothing => return s!"<{facts.wholeName} object at {placeText address}>"
              | .object inner => match <- thingAt inner with
                | .set table false =>
                  if table.size = 0 then return s!"{facts.name}()"
                  else return s!"{facts.name}({← reprWithin depth seen held})"
                | _ => reprWithin depth seen held
              | held => reprWithin depth seen held

def reprOf (value : Value) : Machine String := reprWithin engine 200 [] value

def strOf (value : Value) : Machine String := do
  match value with
  | .text text => return text
  | .object address => match <- thingAt address with
    | .member type names held => match <- callSpecial? engine value "__str__" [] with
      | some (.text text) => return text
      | some other => failType s!"__str__ returned non-string (type {← typeName other})"
      | none =>
        if <- isSubtype type (nativeType "BaseException") then
          let arguments := match held with
            | .tuple arguments => arguments
            | _ => []
          let facts <- typeAt type
          let isSystem <- isSubtype type (nativeType "OSError")
          match arguments with
          | [] => return ""
          | [argument] =>
            if facts.line.contains (nativeType "KeyError") then reprOf engine argument
            else match argument with
              | .text text => return text
              | .object _ => asText argument
              | argument => asText argument
          | [number, text] =>
            if isSystem then
              let front := s!"[Errno {← asText number}] {← asText text}"
              match <- namedIn? names "filename", <- namedIn? names "filename2" with
              | some .nothing, _ => return front
              | some name, some other =>
                return s!"{front}: {← reprOf engine name} -> {← reprOf engine other}"
              | some name, none => return s!"{front}: {← reprOf engine name}"
              | none, _ => return front
            else reprOf engine held
          | _ => reprOf engine held
        else match held with
          | .text text => match <- special? value "__repr__" with
            | some _ => reprOf engine value
            | none => return text
          | _ => reprOf engine value
    | _ => reprOf engine value
  | value => reprOf engine value
where
  asText (value : Value) : Machine String := do
    match value with
    | .text text => return text
    | .object address => match <- thingAt address with
      | .member _ _ _ => match <- callSpecial? engine value "__str__" [] with
        | some (.text text) => return text
        | _ => match <- faultArguments value with
          | [.text text] => return text
          | _ => reprOf engine value
      | _ => reprOf engine value
    | value => reprOf engine value

def plainRepr (value : Value) : Machine String := do
  return .join ((<- reprOf engine value).toList.map fun c =>
    if c.toNat < 128 then .singleton c else quotedChar '\x00' true c)

def formOf (value : Value) (form : String) : Machine String := do
  let orFail (found : Except String String) : Machine String := do
    match found with
    | .ok text => return text
    | .error "int too large to convert to float" =>
      fail "OverflowError" "int too large to convert to float"
    | .error message => failValue message
  match <- callSpecial? engine value "__format__" [.text form] with
  | some (.text text) => return text
  | some _ => failType "__format__ must return a str"
  | none =>
    if form.isEmpty then strOf engine value
    else
      let read (type : String) : Machine ValueForm := do
        match ValueForm.read form.toList with
        | .ok found => return found
        | .error "Invalid format specifier" =>
          failValue s!"Invalid format specifier '{form}' for object of type '{type}'"
        | .error message => failValue message
      match <- heldBy value with
      | .text text => orFail ((<- read "str").text text)
      | .whole number => orFail ((<- read "int").whole number "int")
      | .truth holds => orFail ((<- read "bool").whole (if holds then 1 else 0) "int")
      | .real number => orFail ((<- read "float").real number)
      | _ => failType s!"unsupported format string passed to {← typeName value}.__format__"

end

end BaseLanguage.Shell.Objects
