import RollCall.Node.Basic

/-!
# Values of reports

A report is a tree of plain values with things of the domain in it.  Every thing has a plain form:
an address, a peer and the like are tables of their parts, a record is a table of its fields, bytes
are their hexadecimal text, and a role is its code.

* `Value` — a plain value or a thing.
* `Value.form?` — the form of a thing, whose parts may again be things.
* `Value.plain` — the plain form of a value through and through.
-/

namespace RollCall.Report

open Floating (Double)

/-- A value in a report. -/
inductive Value where
  | null
  | bool (b : Bool)
  | int (n : Int)
  | float (x : Double)
  | text (s : String)
  | list (items : List Value)
  /-- A row of items that is made once and for all. -/
  | tuple (items : List Value)
  /-- A table from keys to values; a key that is not a text is given as `none`. -/
  | table (entries : List (Option String × Value))
  | bytes (bs : Bytes)
  | role (r : Role)
  | logical (a : LogicalAddress)
  | physical (a : PhysicalAddress)
  | peer (p : Peer)
  | traffic (t : Traffic)
  /-- A packet with its sender and the name of its type. -/
  | received (sender : LogicalAddress) (type : String) (packet : Value)
  /-- A thing that is the sum of its fields, such as a packet. -/
  | record (fields : List (String × Value))
  /-- A thing without a plain form. -/
  | formless

namespace Value

instance : Inhabited Value := ⟨null⟩

/-- A table whose keys are texts. -/
def dict (entries : List (String × Value)) : Value :=
  table (entries.map fun entry => (some entry.1, entry.2))

/-- An integer, if there is one. -/
def int? : Option Int → Value
  | some n => int n
  | none => null

/-- Adds an entry to a table; an entry with the same text as its key keeps its place and takes the
new value. -/
def insert (entries : List (Option String × Value)) (key : Option String) (value : Value) :
    List (Option String × Value) :=
  if key.isSome && entries.any fun entry => entry.1 == key then
    entries.map fun entry => if entry.1 = key then (key, value) else entry
  else entries ++ [(key, value)]

/-- The table of entries given one after the other. -/
def ofEntries (entries : List (Option String × Value)) : Value :=
  table (entries.foldl (fun table entry => insert table entry.1 entry.2) [])

/-! ## Plain forms -/

/-- The parts of a logical address; the number only if there is one. -/
def ofLogical (a : LogicalAddress) : Value :=
  match a.number with
  | none => dict [("role", text a.role.label)]
  | some n => dict [("role", text a.role.label), ("instance", int n.toNat)]

/-- The parts of a physical address. -/
def ofPhysical (a : PhysicalAddress) : Value :=
  dict [("host", text a.host), ("port", int a.port)]

/-- What is known of a peer, but for the counters. -/
def ofPeer (p : Peer) : Value :=
  dict
    [("logical", ofLogical p.logical), ("physical", ofPhysical p.physical),
     ("last_seen", int p.lastSeen), ("session_id", int? p.session)]

/-- The counters of inbound traffic. -/
def ofTraffic (t : Traffic) : Value :=
  dict
    [("received", int t.received), ("announcements", int t.announcements),
     ("malformed", int t.malformed), ("duplicates", int t.duplicates), ("missed", int t.missed),
     ("misaddressed", int t.misaddressed), ("unmapped", int t.unmapped),
     ("recv_errors", int t.receiveErrors)]

/-- A received packet as a table, around any form of the packet. -/
def ofReceived (sender : LogicalAddress) (type : String) (packet : Value) : Value :=
  dict [("sender", ofLogical sender), ("type", text type), ("packet", packet)]

/-- Whether a value is no thing and no container, and not a role either. -/
def isScalar : Value → Bool
  | null | bool _ | int _ | float _ | text _ => true
  | _ => false

/-- Whether a value is a thing, which has to be turned into another value.  A role is a number already. -/
def isThing : Value → Bool
  | bytes _ | logical _ | physical _ | peer _ | traffic _ | received _ _ _ | record _ | formless =>
    true
  | _ => false

/-- The form of a thing, if it has one: the table of its parts, or the text of bytes.  The parts are left
as they are. -/
def form? : Value → Option Value
  | bytes bs => some (text bs.hex)
  | logical a => some (ofLogical a)
  | physical a => some (ofPhysical a)
  | peer p => some (ofPeer p)
  | traffic t => some (ofTraffic t)
  | received sender type packet => some (ofReceived sender type packet)
  | record fields => some (dict fields)
  | _ => none

mutual

/-- The plain form through and through. -/
def plain : Value → Value
  | list items => list (plainItems items)
  | tuple items => tuple (plainItems items)
  | table entries => table (plainEntries entries)
  | bytes bs => text bs.hex
  | role r => int r.code.toNat
  | logical a => ofLogical a
  | physical a => ofPhysical a
  | peer p => ofPeer p
  | traffic t => ofTraffic t
  | received sender type packet => ofReceived sender type (plain packet)
  | record fields => dict (plainFields fields)
  | null => null
  | bool b => bool b
  | int n => int n
  | float x => float x
  | text s => text s
  | formless => formless

/-- The plain forms of items. -/
def plainItems : List Value → List Value
  | [] => []
  | v :: rest => plain v :: plainItems rest

/-- The entries of a table with their values in plain form. -/
def plainEntries : List (Option String × Value) → List (Option String × Value)
  | [] => []
  | (key, v) :: rest => (key, plain v) :: plainEntries rest

/-- The fields of a record with their values in plain form. -/
def plainFields : List (String × Value) → List (String × Value)
  | [] => []
  | (field, v) :: rest => (field, plain v) :: plainFields rest

end

end Value

end RollCall.Report
