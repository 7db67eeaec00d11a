import RollCall.Address.Role
import RollCall.Bytes
import RollCall.Text.LetterCase
import RollCall.Text.Quoted

/-!
# Logical addresses

A logical address names a node by its role and, where the role is instanced, by a number from 0 to
255.  It has a wire form of two bytes and a written form such as `camera:3`.

* `LogicalAddress.make?` — the address of a role and a number, if the two fit together.
* `LogicalAddress.encode`, `LogicalAddress.decode` — the wire form.
* `LogicalAddress.text` — the written form.
* `AddressFault` — why there is no such address, and `AddressFault.message?`, its wording.
-/

namespace RollCall

/-- Why something is not a logical address. -/
inductive AddressFault where
  /-- The role needs a number from 0 to 255. -/
  | needsInstance (role : Role) (got : Option Int)
  /-- The role takes no number. -/
  | takesNoInstance (role : Role)
  /-- No role has this wire code. -/
  | unknownCode (code : Int)
  /-- Fewer than two bytes. -/
  | tooShort (length : Nat)
  /-- The second byte is set although the role takes no number. -/
  | strayInstance (role : Role) (byte : UInt8)
  /-- The text is not a name with an optional number. -/
  | unreadable (text : String)
  /-- No role has this name. -/
  | unknownName (label : String)
  /-- The number has too many digits to be read. -/
  | numeralTooLong
deriving DecidableEq, Repr

/-- The wording of a fault.  A code without a role and an over-long numeral have none: the lookup
and the reading of numbers say nothing more. -/
def AddressFault.message? : AddressFault → Option String
  | .needsInstance role got =>
    let shown := match got with
      | some n => toString n
      | none => "None"
    some s!"{role.name} requires an instance id 0-255, got {shown}"
  | .takesNoInstance role => some s!"{role.name} does not take an instance id"
  | .unknownCode _ => none
  | .tooShort length => some s!"Logical address too short: {length} bytes"
  | .strayInstance role byte =>
    some s!"{role.name} carries unexpected instance byte {byte.toNat}"
  | .unreadable text => some s!"Cannot parse logical address: {Text.quote text}"
  | .unknownName label => some s!"Unknown role: {Text.quote label}"
  | .numeralTooLong => none

/-- The name of a node on the network: its role, and a number exactly if the role is instanced. -/
structure LogicalAddress where
  role : Role
  number : Option UInt8
  fits : number.isSome = role.isInstanced
deriving DecidableEq, Repr

namespace LogicalAddress

/-- The address of every node. -/
def broadcast : LogicalAddress := ⟨.broadcast, none, rfl⟩

def flightController : LogicalAddress := ⟨.flightController, none, rfl⟩

def missionControl : LogicalAddress := ⟨.missionControl, none, rfl⟩

def missionControlSimBridge : LogicalAddress := ⟨.missionControlSimBridge, none, rfl⟩

def ethbootProgrammer : LogicalAddress := ⟨.ethbootProgrammer, none, rfl⟩

/-- The address of the engine controller with a number. -/
def engineController (number : UInt8) : LogicalAddress := ⟨.engineController, some number, rfl⟩

/-- The address of the camera with a number. -/
def camera (number : UInt8) : LogicalAddress := ⟨.camera, some number, rfl⟩

/-- Whether this addresses every node. -/
def isBroadcast (a : LogicalAddress) : Bool := a.role == .broadcast

/-- The address of a role with a number, or without one. -/
def make? (role : Role) (number : Option Int) : Except AddressFault LogicalAddress :=
  if h : role.isInstanced = true then
    match number with
    | some n =>
      if 0 ≤ n ∧ n ≤ 255 then .ok ⟨role, some (UInt8.ofNat n.toNat), by simp [h]⟩
      else .error (.needsInstance role (some n))
    | none => .error (.needsInstance role none)
  else
    match number with
    | some _ => .error (.takesNoInstance role)
    | none => .ok ⟨role, none, by simp [h]⟩

/-- The address of the role with a wire code. -/
def ofCode (code : Int) (number : Option Int) : Except AddressFault LogicalAddress :=
  match Role.ofCode? code with
  | some role => make? role number
  | none => .error (.unknownCode code)

/-! ## The wire form -/

/-- The number of bytes of the wire form. -/
def wireLength : Nat := 2

/-- Two bytes: the role's code and the number, zero where there is none. -/
def encode (a : LogicalAddress) : Bytes := [a.role.code, a.number.getD 0]

/-- Reads the two bytes; further bytes are not looked at. -/
def decode : Bytes → Except AddressFault LogicalAddress
  | code :: number :: _ =>
    match Role.ofCode? code.toNat with
    | none => .error (.unknownCode code.toNat)
    | some role =>
      if h : role.isInstanced = true then .ok ⟨role, some number, by simp [h]⟩
      else if number = 0 then .ok ⟨role, none, by simp [h]⟩
      else .error (.strayInstance role number)
  | data => .error (.tooShort data.length)

/-! ## The written form -/

/-- The role's name and, after a colon, the number. -/
def text (a : LogicalAddress) : String :=
  match a.number with
  | none => a.role.label
  | some n => a.role.label ++ ":" ++ String.ofList (Text.decimal n.toNat)

/-! ## Order -/

/-- The place of an address in the order by role code and then by number. -/
def rank (a : LogicalAddress) : Nat := 256 * a.role.code.toNat + (a.number.getD 0).toNat

/-- Addresses are ordered by role code and then by number. -/
def precedes (a b : LogicalAddress) : Bool := decide (a.rank < b.rank)

end LogicalAddress

end RollCall
