import TrustDns.Rust.Core
import TrustDns.Rr.Record

/-! # `RecordSet` (`client/src/rr/rr_set.rs`)

The set of records of one name and type, with its signatures and the serial of
its last change. Each method is translated as written: mutation is explicit
state passing, the two `for` loops are structural recursions over the collected
indices (an early `return` leaves the loop with the state it has reached), and
every assertion, index and `panic!` of the source is an `Except Panic` error. -/

namespace TrustDns.Rr
open TrustDns.Rust

/-- Set of resource records associated to a name and type. -/
structure RecordSet where
  name : Name
  recordType : RecordType
  dnsClass : DNSClass
  ttl : UInt32
  records : List Record
  rrsigs : List Record
  /-- serial number at which this record was modified -/
  serial : UInt32
  deriving DecidableEq, Repr

namespace RecordSet

/-! ## Construction and accessors -/

def new (name : Name) (recordType : RecordType) (serial : UInt32) : RecordSet :=
  { name, recordType, dnsClass := .IN, ttl := 0, records := [], rrsigs := [], serial }

def withTtl (name : Name) (recordType : RecordType) (ttl : UInt32) : RecordSet :=
  { name, recordType, dnsClass := .IN, ttl, records := [], rrsigs := [], serial := 0 }

def «from» (record : Record) : RecordSet :=
  { name := record.name, recordType := record.rrType, dnsClass := record.dnsClass,
    ttl := record.ttl, records := [record], rrsigs := [], serial := 0 }

/-- Applies `f` to every stored record: the loops of `set_dns_class` and `set_ttl`. -/
def mapRecords (rs : RecordSet) (f : Record → Record) : RecordSet :=
  { rs with records := rs.records.map f }

/-- Sets the class of the set and of every stored record. -/
def setDnsClass (rs : RecordSet) (dnsClass : DNSClass) : RecordSet :=
  { rs.mapRecords fun r => { r with dnsClass } with dnsClass }

/-- Sets the ttl of the set and of every stored record. -/
def setTtl (rs : RecordSet) (ttl : UInt32) : RecordSet :=
  { rs.mapRecords fun r => { r with ttl } with ttl }

def iter (rs : RecordSet) : List Record := rs.records

def isEmpty (rs : RecordSet) : Bool := rs.records.isEmpty

def insertRrsig (rs : RecordSet) (rrsig : Record) : RecordSet :=
  { rs with rrsigs := rs.rrsigs ++ [rrsig] }

def clearRrsigs (rs : RecordSet) : RecordSet := { rs with rrsigs := [] }

/-- `into_iter`: the records, then the signatures. -/
def intoIter (rs : RecordSet) : List Record := rs.records ++ rs.rrsigs

/-- On updates the rrsigs are invalid. -/
def updated (rs : RecordSet) (serial : UInt32) : RecordSet := { rs with serial, rrsigs := [] }

section updated
variable (rs : RecordSet) (serial : UInt32)
@[simp] theorem updated_records : (rs.updated serial).records = rs.records := rfl
@[simp] theorem updated_rrsigs : (rs.updated serial).rrsigs = [] := rfl
@[simp] theorem updated_serial : (rs.updated serial).serial = serial := rfl
@[simp] theorem updated_ttl : (rs.updated serial).ttl = rs.ttl := rfl
@[simp] theorem updated_name : (rs.updated serial).name = rs.name := rfl
@[simp] theorem updated_recordType : (rs.updated serial).recordType = rs.recordType := rfl
end updated

/-! ## Signature selection -/

/-- The `filter` of `get_records`: SIG rdata of a supported algorithm. -/
def sigSupported (supportedAlgorithms : SupportedAlgorithms) (record : Record) : Bool :=
  match record.rdata with
  | .SIG rrsig => supportedAlgorithms.has rrsig.algorithm
  | _ => false

/-- The key of `max_by_key` in `get_records`. -/
def sigAlgorithm (record : Record) : Algorithm :=
  match record.rdata with
  | .SIG rrsig => rrsig.algorithm
  | _ => .RSASHA1

/-- All records, then with `and_rrsigs` the maximal supported RRSIG. -/
def getRecords (rs : RecordSet) (andRrsigs : Bool) (supportedAlgorithms : SupportedAlgorithms) :
    List Record :=
  if andRrsigs then
    let rrsigs := Iter.maxByKey sigAlgorithm (rs.rrsigs.filter (sigSupported supportedAlgorithms))
    rs.records ++ rrsigs.toList
  else rs.records

/-! ## Insert -/

/-- The indices of the records whose rdata is `rdata` (`to_replace`, `to_remove`). -/
def matchingIndices (records : List Record) (rdata : RData) : List Nat :=
  (records.enum.filter fun p => p.2.rdata == rdata).map Prod.fst

/-- The replacement policy of RFC 2136, 1.1.5: the records the rdata match runs on,
or `none` when `insert` returns `false` early. -/
def clearForType (rs : RecordSet) (record : Record) : Except Panic (Option (List Record)) :=
  match record.rrType with
  | .SOA => do
    assert (rs.records.length ≤ 1) "self.records.len() <= 1"
    match rs.records with
    | [] => pure (some [])
    | soaRecord :: _ =>
      match soaRecord.rdata with
      | .SOA existingSoa =>
        match record.rdata with
        | .SOA newSoa => pure (if newSoa.serial ≤ existingSoa.serial then none else some [])
        | _ => pure none
      | _ => throw (.explicit "wrong rdata")
  | .CNAME => do
    assert (rs.records.length ≤ 1) "self.records.len() <= 1"
    pure (some [])
  | _ => pure (some rs.records)

/-- The loop over `to_replace` and the code after it: an identical record returns
`false`, any other match is replaced in place by `push` and `swap_remove`. -/
def insertLoop (record : Record) (serial : UInt32) :
    List Nat → Bool → RecordSet → Except Panic (Bool × RecordSet)
  | [], replaced, rs =>
    if !replaced then
      pure (true, { rs with ttl := record.ttl, records := rs.records ++ [record] }.updated serial)
    else pure (replaced, rs)
  | i :: toReplace, _, rs => do
    if (← Vec.index rs.records i) == record then pure (false, rs)
    else
      let records ← Vec.swapRemove (rs.records ++ [record]) i
      insertLoop record serial toReplace true
        ({ rs with records, ttl := record.ttl }.updated serial)

/-- Inserts a new Resource Record into the Set; `true` if the record was inserted. -/
def insert (rs : RecordSet) (record : Record) (serial : UInt32) :
    Except Panic (Bool × RecordSet) := do
  assert (record.name == rs.name) "record.get_name() == &self.name"
  assert (record.rrType == rs.recordType) "record.get_rr_type() == self.record_type"
  match ← rs.clearForType record with
  | none => pure (false, rs)
  | some records =>
    insertLoop record serial (matchingIndices records record.rdata) false { rs with records }

/-! ## Remove -/

/-- The guard of `remove`: never the last NS record, never the SOA. It reads the
argument's type, not the set's. -/
def removeRefused (rs : RecordSet) (record : Record) : Bool :=
  match record.rrType with
  | .NS => rs.records.length ≤ 1
  | .SOA => true
  | _ => false

/-- The loop over `to_remove`: `Vec::remove` at each collected index in turn. -/
def removeLoop (serial : UInt32) :
    List Nat → Bool → RecordSet → Except Panic (Bool × RecordSet)
  | [], removed, rs => pure (removed, rs)
  | i :: toRemove, _, rs => do
    let records ← Vec.remove rs.records i
    removeLoop serial toRemove true ({ rs with records }.updated serial)

/-- Removes the Resource Record if it exists; `true` if a record was removed. -/
def remove (rs : RecordSet) (record : Record) (serial : UInt32) :
    Except Panic (Bool × RecordSet) := do
  assert (record.name == rs.name) "record.get_name() == &self.name"
  assert (record.rrType == rs.recordType || record.rrType == .ANY)
    "record.get_rr_type() == self.record_type || record.get_rr_type() == RecordType::ANY"
  if rs.removeRefused record then pure (false, rs)
  else removeLoop serial (matchingIndices rs.records record.rdata) false rs

/-! ## Record synthesis -/

/-- Creates a record of this set with `rdata`, inserts it at serial 0 and returns the
stored record with that rdata. -/
def newRecord (rs : RecordSet) (rdata : RData) : Except Panic (Record × RecordSet) := do
  assert (rs.recordType == rdata.toRecordType) "self.record_type == rdata.to_record_type()"
  let record := (Record.with rs.name rs.recordType rs.ttl).setRdata rdata
  let (_, rs) ← rs.insert record 0
  match rs.records.find? (·.rdata == rdata) with
  | some r => pure (r, rs)
  | none => throw (.expect "insert failed? 172")

end RecordSet

end TrustDns.Rr
