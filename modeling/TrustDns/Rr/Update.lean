import TrustDns.Rr.Invariant

/-! # Update bookkeeping of `insert` and `remove`

A call that reports no change changed nothing; a call that reports a change
invalidated the signatures and recorded the caller's serial. Both follow from
the two inversion lemmas and the uniqueness invariant: without it the replace
loop could return `false` after an earlier iteration had swapped a record in.

A duplicate is a no-op for every type but CNAME: the CNAME policy clears the
records before the rdata match, so an identical CNAME is appended again and the
set is marked updated. -/

namespace TrustDns.Rr.Update
open TrustDns.Rust RecordSet Invariant

variable {s s' : RecordSet} {r : Record} {serial : UInt32} {b : Bool}

theorem insert_bookkeeping (hv : Valid s) (h : s.insert r serial = .ok (b, s')) :
    (b = false → s' = s) ∧
      (b = true → s'.rrsigs = [] ∧ s'.serial = serial ∧ s'.ttl = r.ttl) := by
  obtain ⟨-, -, ⟨rfl, rfl⟩ | ⟨rfl, -, -, -, rfl⟩⟩ := insert_ok hv.rdata_nodup h <;> simp

theorem remove_bookkeeping (hv : Valid s) (h : s.remove r serial = .ok (b, s')) :
    (b = false → s' = s) ∧ (b = true → s'.rrsigs = [] ∧ s'.serial = serial) := by
  obtain ⟨-, -, ⟨rfl, rfl⟩ | ⟨rfl, -, -, rfl⟩⟩ := remove_ok hv.rdata_nodup h <;> simp

/-- **Atomicity of updates.** From every reachable state, an `insert` or `remove` that returns
`false` leaves the whole set as it was, and one that returns `true` leaves no signatures and the
caller's serial (and, for `insert`, the record's ttl). -/
theorem update_atomicity (hs : Reachable s) :
    (∀ r serial b s', s.insert r serial = .ok (b, s') →
      (b = false → s' = s) ∧
        (b = true → s'.rrsigs = [] ∧ s'.serial = serial ∧ s'.ttl = r.ttl)) ∧
    (∀ r serial b s', s.remove r serial = .ok (b, s') →
      (b = false → s' = s) ∧ (b = true → s'.rrsigs = [] ∧ s'.serial = serial)) :=
  ⟨fun _ _ _ _ h => insert_bookkeeping hs.valid h,
    fun _ _ _ _ h => remove_bookkeeping hs.valid h⟩

theorem update_atomicity_wwwPair :
    (∀ r serial b s', wwwPair.insert r serial = .ok (b, s') →
      (b = false → s' = wwwPair) ∧
        (b = true → s'.rrsigs = [] ∧ s'.serial = serial ∧ s'.ttl = r.ttl)) ∧
    (∀ r serial b s', wwwPair.remove r serial = .ok (b, s') →
      (b = false → s' = wwwPair) ∧ (b = true → s'.rrsigs = [] ∧ s'.serial = serial)) :=
  update_atomicity reachable_wwwPair

/-! ## Duplicates -/

/-- Outside CNAME sets, re-inserting a stored record is a no-op, provided an SOA slot holds SOA
rdata (the stored serial then equals the new one). -/
theorem insert_duplicate (hv : Valid s) (hcn : s.recordType ≠ .CNAME)
    (hsoa : s.recordType = .SOA → ∀ x ∈ s.records, ∃ e, x.rdata = .SOA e)
    (hr : r ∈ s.records) : s.insert r serial = .ok (false, s) := by
  have hn := hv.name_eq r hr
  have ht := hv.type_eq r hr
  by_cases hs : s.recordType = .SOA
  · obtain ⟨e, he⟩ := hsoa hs r hr
    exact insert_of_clearForType_none hn ht
      (by simp [clearForType_soa_serial (ht.trans hs) (hv.records_eq_singleton (.inl hs) hr) he he])
  · rw [insert_of_clearForType hn ht (clearForType_of_ne (ht ▸ hs) (ht ▸ hcn)) hv.rdata_nodup]
    simp [hr]

theorem insert_duplicate_wwwA :
    (RecordSet.from wwwA).insert wwwA 5 = .ok (false, RecordSet.from wwwA) :=
  insert_duplicate (valid_from wwwA) (by decide) (fun h => absurd h (by decide))
    (List.mem_singleton_self _)

/-- In a CNAME set, inserting the stored record again reports a change and drops the signatures. -/
theorem insert_duplicate_cname (hv : Valid s) (hcn : s.recordType = .CNAME) (hr : r ∈ s.records) :
    s.insert r serial = .ok (true, { s with ttl := r.ttl }.updated serial) := by
  have hl := hv.records_eq_singleton (.inr hcn) hr
  have ht := hv.type_eq r hr
  rw [insert_of_clearForType (hv.name_eq r hr) ht (clearForType_cname (ht.trans hcn) (by simp [hl]))
    (by simp [RDataNodup])]
  simp [hl]

/-- `test_insert_cname`'s record: `web.example.com. 3600 IN CNAME www.example.com.`. -/
def webCname : Record :=
  { name := ⟨["web", "example", "com"]⟩, rrType := .CNAME, dnsClass := .IN, ttl := 3600,
    rdata := .CNAME ⟨["www", "example", "com"]⟩ }

/-- An RRSIG over it. -/
def webCnameRrsig : Record :=
  { name := ⟨["web", "example", "com"]⟩, rrType := .RRSIG, dnsClass := .IN, ttl := 3600,
    rdata := .SIG
      { typeCovered := .CNAME, algorithm := .RSASHA256, numLabels := 3, originalTtl := 3600,
        sigExpiration := 0, sigInception := 0, keyTag := 0, signerName := ⟨["example", "com"]⟩,
        sig := [] } }

/-- Re-submitting the stored CNAME at serial 7 returns `true`, drops the RRSIG and bumps the
serial. -/
theorem insert_identical_cname_not_noop :
    ((RecordSet.from webCname).insertRrsig webCnameRrsig).insert webCname 7 =
      .ok (true, { RecordSet.from webCname with serial := 7 }) :=
  insert_duplicate_cname ((valid_from webCname).transfer rfl rfl rfl) rfl
    (List.mem_singleton_self _)

end TrustDns.Rr.Update
