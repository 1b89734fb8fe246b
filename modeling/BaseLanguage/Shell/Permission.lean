import BaseLanguage.Text.Numeral
import BaseLanguage.Text.Pieces

namespace BaseLanguage.Shell

/-!
# Permissions

Permissions are a number of twelve bits: three for each of the owner, the group and the others, who
may read, write and execute, and three of their own in front.  They are written with octal digits,
or as changes to those that are there: for whom, in which way, and which.
-/

def permissionLetters : List (Char × Nat) := [('r', 4), ('w', 2), ('x', 1)]

def permissionTriple (bits : Nat) (last : Option (Char × Char)) : Chars :=
  let letters := permissionLetters.map fun (letter, bit) => if bits &&& bit ≠ 0 then letter else '-'
  match last with
  | none => letters
  | some (both, alone) => letters.dropLast ++ [if bits &&& 1 ≠ 0 then both else alone]

def permissionText (permissions : Nat) : String :=
  let special (bit : Nat) (letters : Char × Char) : Option (Char × Char) :=
    if permissions &&& bit ≠ 0 then some letters else none
  .ofList
    (permissionTriple (permissions / 64 % 8) (special 0o4000 ('s', 'S')) ++
      permissionTriple (permissions / 8 % 8) (special 0o2000 ('s', 'S')) ++
      permissionTriple (permissions % 8) (special 0o1000 ('t', 'T')))

def audience? : Char -> Option Nat
  | 'u' => some 0o4700
  | 'g' => some 0o2070
  | 'o' => some 0o1007
  | 'a' => some 0o7777
  | _ => none

structure PermissionSubject where
  old : Nat
  isFolder : Bool
  mask : Nat

namespace PermissionSubject

variable (subject : PermissionSubject)

def bits? (letter : Char) : Option Nat :=
  let copied (bits : Nat) : Nat := bits * 0o111
  match letter with
  | 'r' => some 0o444
  | 'w' => some 0o222
  | 'x' => some 0o111
  | 'X' => some (if subject.isFolder || subject.old &&& 0o111 ≠ 0 then 0o111 else 0)
  | 's' => some 0o6000
  | 't' => some 0o1000
  | 'u' => some (copied (subject.old / 64 % 8))
  | 'g' => some (copied (subject.old / 8 % 8))
  | 'o' => some (copied (subject.old % 8))
  | _ => none

def apply (who : Chars) (operator : Char) (bits : Nat) : Nat :=
  let all := 0o7777
  let named := who.foldl (fun sum letter => sum ||| (audience? letter).getD 0) 0
  let affected := if who.isEmpty then all - subject.mask &&& all else named
  let cleared := if who.isEmpty then 0o777 else named
  match operator with
  | '+' => subject.old ||| (bits &&& affected)
  | '-' => subject.old &&& (all - (bits &&& affected))
  | _ => (subject.old &&& (all - (cleared &&& all))) ||| (bits &&& affected)

/-- The permissions behind the changes for somebody: operators, each with letters. -/
def changes? (who : Chars) : Nat -> PermissionSubject -> Chars -> Option Nat
  | 0, _, _ => none
  | _, subject, [] => some subject.old
  | limit + 1, subject, operator :: rest =>
    if ['+', '-', '='].contains operator then do
      let letters := rest.takeWhile (fun c => (subject.bits? c).isSome)
      let bits := letters.foldl (fun sum c => sum ||| (subject.bits? c).getD 0) 0
      changes? who limit { subject with old := subject.apply who operator bits }
        (rest.drop letters.length)
    else none

def clause? (text : Chars) : Option Nat :=
  let who := text.takeWhile (fun c => (audience? c).isSome)
  match text.drop who.length with
  | [] => none
  | changes => changes? who (changes.length + 1) subject changes

end PermissionSubject

def octalPermissions? (text : Chars) : Option Nat :=
  if !text.isEmpty && text.all (fun c => '0' <= c && c <= '7') then
    let value := text.foldl (fun sum c => sum * 8 + (c.toNat - '0'.toNat)) 0
    if value <= 0o7777 then some value else none
  else none

def permissions? (subject : PermissionSubject) (text : String) : Option Nat :=
  match octalPermissions? text.toList with
  | some permissions => some permissions
  | none =>
    (Text.pieces ',' text.toList).foldlM
      (fun old clause => { subject with old }.clause? clause) subject.old

def octalText (width permissions : Nat) : String :=
  let digits := Nat.toDigits 8 permissions
  .ofList (List.replicate (width - digits.length) '0' ++ digits)

end BaseLanguage.Shell
