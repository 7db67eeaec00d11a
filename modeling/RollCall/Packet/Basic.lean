import RollCall.Packet.FieldValue

/-!
# Packets

An application describes each kind of packet by a type: its name, its fields, and a rule that may
refuse some field values.  A packet is a type together with a value for each field.  A type is known
by its name.

What makes a packet of field values is the constructor of its type, and that is the application's own.
It may refuse the values, and it may also change them or fail in some other way.  Most types have no
constructor but one that keeps what their rule passes.

* `PacketType` — a kind of packet; `PacketType.construct` makes a packet of it.
* `Refusal` — why a type refuses field values.
* `Construction`, `Constructors` — what constructors of any kind do; `Constructors.ofRules` are those
  that only go by the rules.
* `heartbeat` — the type of the announcement that every node makes.
-/

namespace RollCall

/-- Why a packet type refuses field values. -/
inductive Refusal where
  /-- The type's own rule refuses them, for the given reason. -/
  | stated (reason : String)
  /-- The values are of a kind that the rule cannot judge, or their number is wrong. -/
  | unstated
deriving DecidableEq, Repr

/-- The reason, where there is one. -/
def Refusal.reason? : Refusal → Option String
  | stated reason => some reason
  | unstated => none

/-- A kind of packet. -/
structure PacketType where
  name : String
  fields : List String
  /-- Whether the type describes its fields; only such a type can be registered. -/
  describesFields : Bool := true
  /-- The rule that a packet's field values have to pass. -/
  refusal : List FieldValue → Option Refusal := fun _ => none

/-- A packet: a value for each field of a type. -/
structure Packet where
  type : PacketType
  values : List FieldValue

/-- The packet of a type with the given field values, if its rule passes them. -/
def PacketType.construct (type : PacketType) (values : List FieldValue) : Except Refusal Packet :=
  if values.length ≠ type.fields.length then .error .unstated
  else
    match type.refusal values with
    | some refusal => .error refusal
    | none => .ok ⟨type, values⟩

/-- What a call of a constructor comes to. -/
inductive Construction where
  /-- A packet of the type.  Its field values need not be those that the constructor was given. -/
  | made (values : List FieldValue)
  /-- The constructor refuses the values. -/
  | refused (refusal : Refusal)
  /-- The constructor fails in another way, which has a name. -/
  | failed (failure : String)
deriving DecidableEq, Repr

/-- The constructors of an application: what comes of calling that of a type with field values. -/
abbrev Constructors := PacketType → List FieldValue → Construction

/-- The constructors that keep the values which the rule of their type passes, and refuse all others. -/
def Constructors.ofRules : Constructors := fun type values =>
  match type.construct values with
  | .ok packet => .made packet.values
  | .error refusal => .refused refusal

/-- The type of the announcement: a node's session, which changes when the node restarts. -/
def heartbeat : PacketType where
  name := "Heartbeat"
  fields := ["session_id"]

namespace Packet

/-- The announcement of a session. -/
def announcement (session : Int) : Packet := ⟨heartbeat, [.int session]⟩

/-- Whether a packet is an announcement. -/
def isAnnouncement (packet : Packet) : Bool := packet.type.name == heartbeat.name

/-- The session that an announcement carries, if it is an integer. -/
def session? (packet : Packet) : Option Int :=
  if packet.isAnnouncement then packet.values.head?.bind FieldValue.integer? else none

end Packet

end RollCall
