import RollCall.Lan
import RollCall.Report.Value

/-!
# What can be reported

* `Value.ofPacket`, `Value.ofReceivedPacket` — packets; `Value.ofField`, `Value.toField` — the values
  of their fields.
* `NetworkMap.report`, `Node.report` — the state of a map and of a node.
* `NodeConfig.report`, `Envelope.report`, `Transit.report` — records.
-/

namespace RollCall

open Report (Value)

namespace Report.Value

/-- The value of a packet's field. -/
def ofField : FieldValue → Value
  | .none => .null
  | .bool b => .bool b
  | .int n => .int n
  | .float x => .float x
  | .text s => .text s
  | .bytes bs => .bytes bs
  | .other _ => .formless

/-- The value of a packet's field that is given as a value of a report.  A role counts as its code; of
a container only matters whether it is empty. -/
def toField : Value → FieldValue
  | .null => .none
  | .bool b => .bool b
  | .int n => .int n
  | .float x => .float x
  | .text s => .text s
  | .bytes bs => .bytes bs
  | .role r => .int r.code.toNat
  | .list items | .tuple items => .other !items.isEmpty
  | .table entries => .other !entries.isEmpty
  | _ => .other true

/-- A packet as the record of its fields. -/
def ofPacket (packet : Packet) : Value :=
  .record (packet.type.fields.zip (packet.values.map ofField))

/-- A received packet. -/
def ofReceivedPacket (r : Received) : Value :=
  .received r.sender r.packet.type.name (ofPacket r.packet)

end Report.Value

/-- The window of a map and its peers. -/
def NetworkMap.report (map : NetworkMap) : Value :=
  .dict [("staleness_window", .int map.window), ("entries", .list (map.peers.map Value.ofPeer))]

/-- The state of a node, as far as it helps to find out what goes on. -/
def Node.report (node : Node) : Value :=
  .dict
    [("host_address", Value.ofLogical node.host), ("session_id", .int node.session),
     ("timestamp", .int node.time), ("stats", Value.ofTraffic node.traffic),
     ("network_map", node.map.report)]

/-- The settings of a node. -/
def NodeConfig.report (config : NodeConfig) : Value :=
  .record
    [("host_address", .logical config.host), ("staleness_window", .int config.stalenessWindow),
     ("announce_interval", .int config.announceInterval),
     ("max_datagrams_per_poll", .int config.drainLimit),
     ("network_map_capacity", .int config.mapCapacity), ("use_dedupe", .bool config.dedupe),
     ("session_id", Value.int? config.session), ("buffer_size", .int config.bufferSize)]

/-- An envelope. -/
def Envelope.report (e : Envelope) : Value :=
  .record
    [("from_addr", .logical e.sender), ("to_addr", .logical e.destination),
     ("counter", .int e.counter), ("kind", .int e.kind.code.toNat)]

/-- A datagram on its way. -/
def Transit.report (t : Transit) : Value :=
  .record
    [("source", .physical t.source), ("destination", .physical t.destination),
     ("data", .bytes t.data)]

end RollCall
