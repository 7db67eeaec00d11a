import RollCall.Address.Logical

/-!
# Reading written addresses

An address is written as a role's name in any letter case, with blanks around it allowed, followed
by a colon and a decimal number exactly if the role is instanced.  The digits may be of any script.

* `LogicalAddress.ofText` — reads a written address.
* `LogicalAddress.Record`, `LogicalAddress.ofRecord` — an address given by its parts, a role's name
  and a number, as exported records hold it.
-/

namespace RollCall

namespace LogicalAddress

/-- A character of a role's name in lower case. -/
def isNameCharacter (c : Char) : Bool := (decide ('a' ≤ c) && decide (c ≤ 'z')) || c == '_'

/-- The text before the colon and the digit values after it, if there is a colon. -/
structure Parts where
  label : List Char
  digits : Option (List Nat)
deriving DecidableEq, Repr

/-- Splits a trimmed text in lower case into its parts. -/
def split? (cs : List Char) : Option Parts :=
  let label := cs.takeWhile isNameCharacter
  if label.isEmpty then none
  else
    match cs.dropWhile isNameCharacter with
    | [] => some ⟨label, none⟩
    | ':' :: rest => (Text.plainDigits? rest).map fun digits => ⟨label, some digits⟩
    | _ => none

/-- The address that the parts stand for. -/
def ofParts (parts : Parts) : Except AddressFault LogicalAddress :=
  match Role.ofLabel? (String.ofList parts.label) with
  | none => .error (.unknownName (String.ofList parts.label))
  | some role =>
    match parts.digits with
    | none => make? role none
    | some digits =>
      match Text.limitedNumber? digits with
      | none => .error .numeralTooLong
      | some n => make? role (some n)

/-- Reads a written address. -/
def ofText (text : String) : Except AddressFault LogicalAddress :=
  match split? ((Text.trim text.toList).map Text.lowerCase) with
  | none => .error (.unreadable text)
  | some parts => ofParts parts

/-- An address by its parts as an exported record holds them. -/
structure Record where
  role : Option String
  number : Option Int

/-- Why a record is not an address. -/
inductive RecordFault where
  /-- The record has no role. -/
  | roleMissing
  /-- No role has the name, whatever its letter case. -/
  | unknownRole (name : String)
  /-- The role and the number do not fit together. -/
  | address (fault : AddressFault)
deriving DecidableEq, Repr

/-- The address of a record. -/
def ofRecord (record : Record) : Except RecordFault LogicalAddress :=
  match record.role with
  | none => .error .roleMissing
  | some name =>
    match Role.ofName? (String.ofList (name.toList.flatMap Text.upperCase)) with
    | none => .error (.unknownRole name)
    | some role => (make? role record.number).mapError .address

end LogicalAddress

end RollCall
