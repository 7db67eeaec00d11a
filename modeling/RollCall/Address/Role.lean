/-!
# Roles

A node is addressed by the role that it plays on the network, not by where it sits.  Some roles may
be played by several nodes at once; these are numbered, and are called instanced.

* `Role.code` — the byte that stands for a role on the wire.
* `Role.name`, `Role.label` — the role in upper and in lower case.
* `Role.isInstanced` — whether nodes of the role carry a number.
-/

namespace RollCall

/-- What a node does on the network. -/
inductive Role where
  /-- Every node at once. -/
  | broadcast
  | engineController
  | flightController
  | missionControl
  | missionControlSimBridge
  | ethbootProgrammer
  | camera
  /-- A node that has not been given a role. -/
  | unknown
deriving DecidableEq, Repr, Inhabited

namespace Role

/-- Every role, in the order of the wire codes. -/
def all : List Role :=
  [broadcast, engineController, flightController, missionControl, missionControlSimBridge,
   ethbootProgrammer, camera, unknown]

/-- The byte that stands for the role on the wire. -/
def code : Role → UInt8
  | broadcast => 0
  | engineController => 1
  | flightController => 2
  | missionControl => 3
  | missionControlSimBridge => 4
  | ethbootProgrammer => 5
  | camera => 6
  | unknown => 255

/-- The role's name in upper case. -/
def name : Role → String
  | broadcast => "BROADCAST"
  | engineController => "ENGINE_CONTROLLER"
  | flightController => "FLIGHT_CONTROLLER"
  | missionControl => "MISSION_CONTROL"
  | missionControlSimBridge => "MISSION_CONTROL_SIM_BRIDGE"
  | ethbootProgrammer => "ETHBOOT_PROGRAMMER"
  | camera => "CAMERA"
  | unknown => "UNKNOWN"

/-- The role's name in lower case, as addresses write it. -/
def label : Role → String
  | broadcast => "broadcast"
  | engineController => "engine_controller"
  | flightController => "flight_controller"
  | missionControl => "mission_control"
  | missionControlSimBridge => "mission_control_sim_bridge"
  | ethbootProgrammer => "ethboot_programmer"
  | camera => "camera"
  | unknown => "unknown"

/-- Whether several nodes may play the role at once, and so carry numbers. -/
def isInstanced : Role → Bool
  | engineController | camera => true
  | _ => false

/-- The role that a byte on the wire stands for. -/
def ofCode? (code : Int) : Option Role := all.find? fun role => role.code.toNat = code

/-- The role of a name in upper case. -/
def ofName? (name : String) : Option Role := all.find? fun role => role.name == name

/-- The role of a name in lower case. -/
def ofLabel? (label : String) : Option Role := all.find? fun role => role.label == label

end Role

end RollCall
