import TrustDns.Rr.Invariant

/-! # The SOA slot

`insert` on an SOA set compares the new serial with the stored one by the
plain order of `u32`, and checks that the new rdata is SOA only when a record
is already stored. Into an empty slot any SOA-typed record goes, whatever its
rdata; once such a record sits there, every later SOA update reaches
`panic!("wrong rdata")`. `new_record` inherits the stale-serial rejection: the
record it then looks up was never stored, and its `expect` fails. -/

namespace TrustDns.Rr.Soa
open TrustDns.Rust RecordSet Invariant

variable {s s' : RecordSet} {r x : Record} {e n : SOA} {serial : UInt32} {b : Bool}

/-! ## Serial comparison -/

/-- RFC 1982 sequence-space order on 32-bit serials: `b` comes after `a` (the bound is 2^31). -/
def serialGt (a b : UInt32) : Bool := b != a && (b - a).toNat < 2147483648

/-- An SOA update against a stored SOA is accepted exactly when its serial is greater as a
plain `u32`, and then replaces the stored record. -/
theorem insert_soa_serial (hv : Valid s) (hst : s.recordType = .SOA) (hx : x ∈ s.records)
    (he : x.rdata = .SOA e) (hn : r.name = s.name) (ht : r.rrType = .SOA) (hr : r.rdata = .SOA n) :
    s.insert r serial = if e.serial < n.serial then
      .ok (true, { s with records := [r], ttl := r.ttl }.updated serial) else .ok (false, s) := by
  have hc := clearForType_soa_serial (s := s) ht (hv.records_eq_singleton (.inl hst) hx) he hr
  by_cases hlt : e.serial < n.serial
  · have hc' : s.clearForType r = .ok (some []) := by simpa [hc] using hlt
    rw [insert_of_clearForType hn (ht.trans hst.symm) hc' (by simp [RDataNodup])]
    simp [hlt]
  · have hc' : s.clearForType r = .ok none := by simpa [hc] using hlt
    rw [insert_of_clearForType_none hn (ht.trans hst.symm) hc']
    simp [hlt]

/-- **SOA updates compare serials as plain unsigned integers.** In every reachable SOA set that
holds a record with SOA rdata of serial `a`, an SOA record of serial `b` is accepted, and then
replaces it, exactly when `a < b` as `u32`; there is no sequence-space wrap-around. -/
theorem insert_soa_accepts_iff_serial_lt (hs : Reachable s) (hst : s.recordType = .SOA)
    (hx : x ∈ s.records) (he : x.rdata = .SOA e) (hn : r.name = s.name) (ht : r.rrType = .SOA)
    (hr : r.rdata = .SOA n) (serial : UInt32) :
    ∃ s', s.insert r serial = .ok (decide (e.serial < n.serial), s') ∧
      (e.serial < n.serial → s'.records = [r]) := by
  rw [insert_soa_serial hs.valid hst hx he hn ht hr]
  by_cases hlt : e.serial < n.serial <;> simp [hlt]

/-- The zone `example.com.` of the SOA tests. -/
def exampleCom : Name := ⟨["example", "com"]⟩

/-- The SOA record of `test_insert_soa`, at the given serial. -/
def exampleSoa (serial : UInt32) : Record :=
  { name := exampleCom, rrType := .SOA, dnsClass := .IN, ttl := 3600,
    rdata := .SOA
      { mname := ⟨["sns", "dns", "icann", "org"]⟩,
        rname := ⟨["noc", "dns", "icann", "org"]⟩,
        serial, refresh := 7200, retry := 3600, expire := 1209600, minimum := 3600 } }

theorem insert_soa_accepts_iff_serial_lt_example :
    ∃ s', (RecordSet.from (exampleSoa 2015082403)).insert (exampleSoa 2015082404) 0 =
      .ok (decide ((2015082403 : UInt32) < 2015082404), s') ∧
      ((2015082403 : UInt32) < 2015082404 → s'.records = [exampleSoa 2015082404]) :=
  insert_soa_accepts_iff_serial_lt (r := exampleSoa 2015082404)
    (.ofRecord (exampleSoa 2015082403)) rfl (List.mem_singleton_self _) rfl rfl rfl rfl 0

/-- At the wrap, serial 0 comes after 4294967295 in sequence space, and `insert` rejects it. -/
theorem insert_soa_wraparound_rejected :
    serialGt 4294967295 0 = true ∧
      (RecordSet.from (exampleSoa 4294967295)).insert (exampleSoa 0) 0 =
        .ok (false, RecordSet.from (exampleSoa 4294967295)) :=
  ⟨by decide, rfl⟩

/-! ## Malformed SOA records -/

/-- An empty SOA set stores any SOA-typed record, whatever its rdata. -/
theorem insert_soa_empty (hst : s.recordType = .SOA) (he : s.records = []) (hn : r.name = s.name)
    (ht : r.rrType = .SOA) :
    s.insert r serial = .ok (true, { s with records := [r], ttl := r.ttl }.updated serial) := by
  rw [insert_of_clearForType hn (ht.trans hst.symm) (clearForType_soa_nil ht he)
    (by simp [RDataNodup])]
  simp

/-- Once a record without SOA rdata fills the slot, every SOA update panics. -/
theorem insert_soa_wrong_rdata (hl : s.records = [x]) (hx : ∀ e, x.rdata ≠ .SOA e)
    (hn : r.name = s.name) (ht : r.rrType = s.recordType) (hst : s.recordType = .SOA) :
    s.insert r serial = .error (.explicit "wrong rdata") := by
  have hc := clearForType_soa_wrong (ht.trans hst) hl hx
  simp [RecordSet.insert, hn, ht, hc]

/-- From every empty SOA set, an SOA-typed record without SOA rdata is accepted, and then every
SOA update of the set panics. -/
theorem malformed_soa_then_panic (hst : s.recordType = .SOA) (he : s.records = [])
    {m : Record} (hmn : m.name = s.name) (hmt : m.rrType = .SOA) (hm : ∀ e, m.rdata ≠ .SOA e)
    (hn : r.name = s.name) (ht : r.rrType = .SOA) (serial₁ serial₂ : UInt32) :
    ∃ s₁, s.insert m serial₁ = .ok (true, s₁) ∧
      s₁.insert r serial₂ = .error (.explicit "wrong rdata") :=
  ⟨_, insert_soa_empty hst he hmn hmt, insert_soa_wrong_rdata rfl hm hn (ht.trans hst.symm) hst⟩

/-- An SOA-typed record whose rdata is an A record, as a client may send. -/
def malformedSoa : Record :=
  { name := exampleCom, rrType := .SOA, dnsClass := .IN, ttl := 3600, rdata := .A 0x5DB8D818 }

/-- The malformed update is stored in a fresh SOA set, and the next well-formed update panics. -/
theorem soa_update_panics_after_malformed :
    ∃ s₁, (RecordSet.new exampleCom .SOA 0).insert malformedSoa 0 = .ok (true, s₁) ∧
      s₁.insert (exampleSoa 2015082403) 0 = .error (.explicit "wrong rdata") :=
  malformed_soa_then_panic rfl rfl rfl rfl (fun _ h => RData.noConfusion h) rfl rfl 0 0

/-! ## `new_record` -/

/-- In an SOA set whose stored SOA has a serial no lower than `n`'s and other rdata,
`new_record (SOA n)` is rejected by `insert`, and its lookup panics. -/
theorem newRecord_stale_soa (hv : Valid s) (hst : s.recordType = .SOA) (hx : x ∈ s.records)
    (he : x.rdata = .SOA e) (hle : n.serial ≤ e.serial) (hne : e ≠ n) :
    s.newRecord (.SOA n) = .error (.expect "insert failed? 172") := by
  have hnlt : ¬e.serial < n.serial := by simpa using hle
  have hi :
      s.insert ((Record.with s.name s.recordType s.ttl).setRdata (.SOA n)) 0 = .ok (false, s) := by
    rw [insert_soa_serial hv hst hx he rfl hst rfl, if_neg hnlt]
  have hf : s.records.find? (·.rdata == RData.SOA n) = none := by
    simp [hv.records_eq_singleton (.inl hst) hx, he, hne]
  rw [newRecord_of_insert (by rw [hst]; rfl) hi, hf]

/-- `new_record` with the SOA of `test_insert_soa`'s first serial, after the second was stored. -/
theorem newRecord_stale_soa_panics :
    ∃ s₁, (RecordSet.new exampleCom .SOA 0).insert (exampleSoa 2015082404) 0 =
        .ok (true, s₁) ∧
      s₁.newRecord (exampleSoa 2015082403).rdata = .error (.expect "insert failed? 172") :=
  ⟨_, rfl, newRecord_stale_soa (Reachable.step (.insert (exampleSoa 2015082404) 0)
    (.new exampleCom .SOA 0) rfl).valid rfl (List.mem_singleton_self _) rfl (by decide)
    (by decide)⟩

end TrustDns.Rr.Soa
