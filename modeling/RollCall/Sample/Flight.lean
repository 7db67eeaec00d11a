import RollCall.Packet.Codec
import RollCall.Packet.Rule

/-!
# The packets of a sample application

An application on a flight vehicle: commands to actuators, telemetry, and some types that exercise
the rest of what a layout can hold.

* `Flight.registrations` — the tag, the layout and the type of each kind of packet.
* `Flight.codec` — the codec that knows them all.
* `Flight.typeNamed?` — the type of a name.
-/

namespace RollCall.Flight

/-- A command as raw bytes. -/
def rawCommand : PacketType where
  name := "RawCommand"
  fields := ["payload"]

/-- What a vehicle measures. -/
def telemetry : PacketType where
  name := "Telemetry"
  fields := ["sequence", "pressure", "temperature", "armed"]

/-- A sign of life without content. -/
def ping : PacketType where
  name := "Ping"
  fields := []

/-- A short text with its length. -/
def label : PacketType where
  name := "Label"
  fields := ["text"]

/-- Wide numbers, least significant byte first. -/
def wide : PacketType where
  name := "Wide"
  fields := ["a", "b", "c"]

/-- A packet that just does not fit a datagram of the usual size. -/
def blob250 : PacketType where
  name := "Blob250"
  fields := ["data"]

/-- A packet that just fits a datagram of the usual size. -/
def blob245 : PacketType where
  name := "Blob245"
  fields := ["data"]

/-- A level that must not exceed one hundred. -/
def checked : PacketType where
  name := "Checked"
  fields := ["level"]
  refusal := Rule.atMost "level" 0 100

/-- A type that the application's codec does not know. -/
def stranger : PacketType where
  name := "Stranger"
  fields := ["x"]

/-- A tag with a layout and a type. -/
structure Entry where
  tag : Int
  layout : String
  type : PacketType

/-- What the application registers, in order.  The announcement is among it. -/
def registrations : List Entry :=
  [⟨0x01, "12s", rawCommand⟩, ⟨0x02, "Ifh?", telemetry⟩, ⟨0x03, "", ping⟩, ⟨0x04, "8p", label⟩,
   ⟨0x05, "<qQd", wide⟩, ⟨0x06, "250s", blob250⟩, ⟨0x07, "245s", blob245⟩, ⟨0x08, "B", checked⟩,
   ⟨0x30, "!I", heartbeat⟩]

/-- The codec with some types registered; a type that cannot be registered is left out. -/
def codecOf (entries : List Entry) : Codec :=
  entries.foldl
    (fun codec entry =>
      match codec.register entry.tag entry.layout entry.type with
      | .ok codec => codec
      | .error _ => codec)
    Codec.empty

/-- The codec that knows all types of the application. -/
def codec : Codec := codecOf registrations

/-- The type of a name. -/
def typeNamed? (name : String) : Option PacketType :=
  (registrations.map Entry.type ++ [stranger]).find? fun type => type.name == name

end RollCall.Flight
