import Mathlib.Data.List.Basic

/-! # Resource records

`rr_set.rs` consumes `Record`, `RData` and the DNSSEC algorithm types from
modules that are not part of this model. They are modelled from the spec
(its sections 3 and 6): a record is a name, type, class, ttl and rdata, with
structural equality, and the rdata is a tagged union that can say which
record type it implies. Only the fields and variants that some modelled
function reads or compares are kept. -/

namespace TrustDns.Rr

/-- Modelled from the spec: a domain name, compared only for equality. -/
structure Name where
  labels : List String
  deriving DecidableEq, Repr

/-- Modelled from the spec: the record types `rr_set.rs` and its callers name. -/
inductive RecordType where
  | A | AAAA | ANY | AXFR | CNAME | IXFR | MX | NS | NULL | OPT | PTR | SOA | SRV | TXT
  | DNSKEY | DS | KEY | NSEC | NSEC3 | NSEC3PARAM | RRSIG | SIG
  deriving DecidableEq, Repr

/-- Modelled from the spec: the record class; sets default to `IN`. -/
inductive DNSClass where
  | IN | CH | HS | NONE | ANY
  deriving DecidableEq, Repr

/-- Modelled from the spec: the DNSSEC signing algorithms, totally ordered by
rank as the derived `Ord` of the enumeration orders them. -/
inductive Algorithm where
  | RSASHA1 | RSASHA1NSEC3SHA1 | RSASHA256 | RSASHA512 | ECDSAP256SHA256 | ECDSAP384SHA384 | ED25519
  deriving DecidableEq, Repr

instance : LE Algorithm := ⟨fun a b => a.toCtorIdx ≤ b.toCtorIdx⟩

instance : LT Algorithm := ⟨fun a b => a.toCtorIdx < b.toCtorIdx⟩

instance (a b : Algorithm) : Decidable (a ≤ b) :=
  inferInstanceAs (Decidable (a.toCtorIdx ≤ b.toCtorIdx))

theorem Algorithm.le_def {a b : Algorithm} : a ≤ b ↔ a.toCtorIdx ≤ b.toCtorIdx := Iff.rfl

theorem Algorithm.le_refl (a : Algorithm) : a ≤ a := Algorithm.le_def.2 (Nat.le_refl _)

theorem Algorithm.le_trans {a b c : Algorithm} (h₁ : a ≤ b) (h₂ : b ≤ c) : a ≤ c :=
  Algorithm.le_def.2 (Nat.le_trans (Algorithm.le_def.1 h₁) (Algorithm.le_def.1 h₂))

theorem Algorithm.lt_of_not_le {a b : Algorithm} (h : ¬a ≤ b) : b < a :=
  Nat.lt_of_not_le (mt Algorithm.le_def.2 h)

theorem Algorithm.not_le_of_lt {a b : Algorithm} (h : a < b) : ¬b ≤ a :=
  Nat.not_le_of_lt h

theorem Algorithm.le_of_not_le {a b : Algorithm} (h : ¬a ≤ b) : b ≤ a :=
  Nat.le_of_lt (Algorithm.lt_of_not_le h)

/-- Modelled from the spec: the caller's set of algorithms eligible for selection. -/
structure SupportedAlgorithms where
  has : Algorithm → Bool

/-- Modelled from the spec: SOA rdata. Only `serial` is read; the rest takes part in equality. -/
structure SOA where
  mname : Name
  rname : Name
  serial : UInt32
  refresh : UInt32
  retry : UInt32
  expire : UInt32
  minimum : UInt32
  deriving DecidableEq, Repr

/-- Modelled from the spec: SIG/RRSIG rdata. Only `algorithm` is read. -/
structure SIG where
  typeCovered : RecordType
  algorithm : Algorithm
  numLabels : UInt8
  originalTtl : UInt32
  sigExpiration : UInt32
  sigInception : UInt32
  keyTag : UInt16
  signerName : Name
  sig : List UInt8
  deriving DecidableEq, Repr

/-- Modelled from the spec: record data, a tagged union with a generic catch-all (`NULL`). -/
inductive RData where
  | A (address : UInt32)
  | CNAME (target : Name)
  | NS (nsdname : Name)
  | SOA (soa : SOA)
  | SIG (sig : SIG)
  | NULL (anything : List UInt8)
  deriving DecidableEq, Repr

/-- Modelled from the spec: the record type an rdata implies (`to_record_type`). -/
def RData.toRecordType : RData → RecordType
  | .A _ => .A
  | .CNAME _ => .CNAME
  | .NS _ => .NS
  | .SOA _ => .SOA
  | .SIG _ => .SIG
  | .NULL _ => .NULL

/-- Modelled from the spec: a resource record, with structural equality over all fields. -/
structure Record where
  name : Name
  rrType : RecordType
  dnsClass : DNSClass
  ttl : UInt32
  rdata : RData
  deriving DecidableEq, Repr

/-- Modelled from the spec: `Record::with(name, rr_type, ttl)`, class `IN` and empty rdata. -/
def Record.with (name : Name) (rrType : RecordType) (ttl : UInt32) : Record :=
  { name, rrType, dnsClass := .IN, ttl, rdata := .NULL [] }

/-- Modelled from the spec: the builder `record.rdata(rdata)`. -/
def Record.setRdata (record : Record) (rdata : RData) : Record := { record with rdata }

@[simp] theorem Record.with_name (name : Name) (rrType : RecordType) (ttl : UInt32) :
    (Record.with name rrType ttl).name = name := rfl
@[simp] theorem Record.with_rrType (name : Name) (rrType : RecordType) (ttl : UInt32) :
    (Record.with name rrType ttl).rrType = rrType := rfl
@[simp] theorem Record.setRdata_name (record : Record) (rdata : RData) :
    (record.setRdata rdata).name = record.name := rfl
@[simp] theorem Record.setRdata_rrType (record : Record) (rdata : RData) :
    (record.setRdata rdata).rrType = record.rrType := rfl
@[simp] theorem Record.setRdata_rdata (record : Record) (rdata : RData) :
    (record.setRdata rdata).rdata = rdata := rfl

end TrustDns.Rr
