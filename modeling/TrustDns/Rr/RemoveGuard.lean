import TrustDns.Rr.Soa

/-! # The guard of `remove` over runs

`remove` refuses to delete the last NS record and any SOA record, but it reads
the type of its argument, not of the set, and its assertion also admits an
ANY-typed argument. Such an argument falls through the guard, so it deletes the
last NS record of an NS set and the SOA of an SOA set. For runs whose `remove`
arguments carry the set's own type both protections hold: an NS set never
empties, and an SOA set keeps exactly one SOA record, whose serial only grows
and whose rdata changes only through an accepted serial increase. -/

namespace TrustDns.Rr.RemoveGuard
open TrustDns.Rust RecordSet Invariant Soa

variable {s s' : RecordSet} {r x : Record} {e : SOA} {serial : UInt32} {b : Bool} {op : Op}

/-- An ANY-typed argument is never refused: it removes its rdata from a set of any type. -/
theorem remove_any (hv : Valid s) (hn : r.name = s.name) (ht : r.rrType = .ANY) :
    s.remove r serial = if ∃ x ∈ s.records, x.rdata = r.rdata then
      .ok (true, { s with records := s.records.filter (·.rdata != r.rdata) }.updated serial)
      else .ok (false, s) := by
  have hg : s.removeRefused r = false := by simp [removeRefused, ht]
  simp [remove_of_asserts hn (.inr ht) hv.rdata_nodup, hg]

/-- Filtering out the rdata of a stored record drops exactly that record. -/
theorem length_filter_rdata {l : List Record} (hnd : RDataNodup l) (hx : x ∈ l) :
    (l.filter (·.rdata != x.rdata)).length = l.length - 1 := by
  obtain ⟨i, hi, rfl⟩ := List.mem_iff_getElem.1 hx
  rw [← eraseIdx_eq_filter l i hi hnd rfl, List.length_eraseIdx, if_pos hi]

/-! ## NS sets -/

/-- One call on a non-empty NS set, other than an ANY-typed `remove`, leaves it non-empty. -/
theorem ns_nonempty_step (hv : Valid s) (hns : s.recordType = .NS) (hne : s.records ≠ [])
    (hop : op.removesAny = false) (h : step s op = .ok s') : s'.records ≠ [] := by
  rcases step_cases h with ⟨_, _, _, hi⟩ | ⟨r, _, _, rfl, hi⟩ | ⟨_, hr, -⟩
  · obtain ⟨-, -, ⟨-, rfl⟩ | ⟨-, l, -, -, rfl⟩⟩ := insert_ok hv.rdata_nodup hi
    exacts [hne, List.ne_nil_of_mem mem_upsert_self]
  · obtain ⟨-, ht, ⟨-, rfl⟩ | ⟨-, hg, ⟨y, hy, hyd⟩, rfl⟩⟩ :=
      remove_ok hv.rdata_nodup hi
    · exact hne
    have hrt : r.rrType = .NS := by simp_all [Op.removesAny]
    have hlen : 1 < s.records.length := by simpa [removeRefused, hrt] using hg
    have hlf := length_filter_rdata hv.rdata_nodup hy
    rw [hyd] at hlf
    simp only [updated_records, ne_eq, ← List.length_eq_zero, hlf]
    omega
  · simpa [hr] using hne

/-- **NS floor without ANY.** Along every run of calls none of which is an ANY-typed `remove`,
a reachable NS set that holds a record never loses its last one. -/
theorem ns_nonempty_run {ops : List Op} (hs : Reachable s) (hns : s.recordType = .NS)
    (hne : s.records ≠ []) (hops : ∀ op ∈ ops, op.removesAny = false)
    (h : Invariant.run s ops = .ok s') : s'.records ≠ [] :=
  (run_invariant (P := fun s => s.recordType = .NS ∧ s.records ≠ [])
    (fun hs hp hq h => ⟨(step_name_recordType hs.valid h).2.trans hp.1,
      ns_nonempty_step hs.valid hp.1 hp.2 hq h⟩) hs ⟨hns, hne⟩ hops h).2

/-- The NS record of `test_remove_ns`: `example.com. 86400 IN NS a.iana-servers.net.`. -/
def nsA : Record :=
  { name := exampleCom, rrType := .NS, dnsClass := .IN, ttl := 86400,
    rdata := .NS ⟨["a", "iana-servers", "net"]⟩ }

theorem ns_nonempty_run_from_nsA :
    Invariant.run (RecordSet.from nsA) [.remove nsA 1, .setTtl 300] =
        .ok ((RecordSet.from nsA).setTtl 300) ∧
      ((RecordSet.from nsA).setTtl 300).records ≠ [] :=
  have h : Invariant.run (RecordSet.from nsA) [.remove nsA 1, .setTtl 300] =
      .ok ((RecordSet.from nsA).setTtl 300) := rfl
  ⟨h, ns_nonempty_run (.ofRecord nsA) rfl (by decide) (by decide) h⟩

/-- An ANY-typed `remove` with its rdata deletes the only NS record of the set. -/
theorem remove_any_deletes_last_ns :
    (RecordSet.from nsA).remove { nsA with rrType := .ANY } 0 =
      .ok (true, { RecordSet.from nsA with records := [] }) :=
  (remove_any (r := { nsA with rrType := .ANY }) (valid_from nsA) rfl rfl).trans
    (if_pos ⟨nsA, List.mem_singleton_self _, rfl⟩)

/-! ## SOA sets -/

/-- `e'` is `e` or an SOA of greater serial: what accepted updates may leave in the slot. -/
def SoaSucc (e e' : SOA) : Prop := e' = e ∨ e.serial < e'.serial

theorem SoaSucc.refl (e : SOA) : SoaSucc e e := .inl rfl

theorem SoaSucc.trans {e f g : SOA} (h₁ : SoaSucc e f) (h₂ : SoaSucc f g) : SoaSucc e g := by
  rcases h₁ with rfl | h₁
  · exact h₂
  · rcases h₂ with rfl | h₂
    exacts [.inr h₁, .inr (UInt32.lt_trans h₁ h₂)]

/-- One call on an SOA set holding one SOA record, other than an ANY-typed `remove`, leaves one
SOA record, of the same SOA or a greater serial. -/
theorem soa_step (hv : Valid s) (hst : s.recordType = .SOA) (hl : s.records = [x])
    (he : x.rdata = .SOA e) (hop : op.removesAny = false) (h : step s op = .ok s') :
    ∃ x' e', s'.records = [x'] ∧ x'.rdata = .SOA e' ∧ SoaSucc e e' := by
  rcases step_cases h with ⟨r, _, _, hi⟩ | ⟨r, _, _, rfl, hi⟩ | ⟨f, hr, hf, -⟩
  · obtain ⟨hn, ht⟩ := insert_asserts hi
    cases hr : r.rdata with
    | SOA n =>
      rw [insert_soa_serial hv hst (hl ▸ List.mem_singleton_self x) he hn (ht.trans hst) hr] at hi
      split_ifs at hi with hlt <;> cases hi
      exacts [⟨r, n, rfl, hr, .inr hlt⟩, ⟨x, e, hl, he, .refl e⟩]
    | _ =>
      rw [insert_of_clearForType_none hn ht
        (clearForType_soa_malformed (ht.trans hst) hl he (by simp [hr]))] at hi
      cases hi; exact ⟨x, e, hl, he, .refl e⟩
  · obtain ⟨-, ht, ⟨-, rfl⟩ | ⟨-, hg, -⟩⟩ := remove_ok hv.rdata_nodup hi
    · exact ⟨x, e, hl, he, .refl e⟩
    have hrt : r.rrType = .SOA := by rcases ht with h | h <;> simp_all [Op.removesAny]
    simp [removeRefused, hrt] at hg
  · exact ⟨f x, e, by rw [hr, hl]; rfl, (hf x).2.2.trans he, .refl e⟩

/-- **SOA protection without ANY.** Along every run of calls none of which is an ANY-typed
`remove`, a reachable SOA set that holds a record with SOA rdata keeps exactly one such record,
whose SOA is the original one or carries a greater serial. -/
theorem soa_protected_run {ops : List Op} (hs : Reachable s) (hst : s.recordType = .SOA)
    (hx : x ∈ s.records) (he : x.rdata = .SOA e) (hops : ∀ op ∈ ops, op.removesAny = false)
    (h : Invariant.run s ops = .ok s') :
    ∃ x' e', s'.records = [x'] ∧ x'.rdata = .SOA e' ∧ SoaSucc e e' :=
  (run_invariant
    (P := fun s => s.recordType = .SOA ∧
      ∃ x' e', s.records = [x'] ∧ x'.rdata = .SOA e' ∧ SoaSucc e e')
    (fun hs ⟨hst, _, _, hl, hf, hef⟩ hq h =>
      have ⟨y, g, hy, hg, hfg⟩ := soa_step hs.valid hst hl hf hq h
      ⟨(step_name_recordType hs.valid h).2.trans hst, y, g, hy, hg, hef.trans hfg⟩)
    hs ⟨hst, x, e, hs.valid.records_eq_singleton (.inl hst) hx, he, .refl e⟩ hops h).2

theorem soa_protected_run_from_exampleSoa :
    ∃ e, (exampleSoa 2015082403).rdata = .SOA e ∧
      ∃ s', Invariant.run (RecordSet.from (exampleSoa 2015082403))
          [.insert (exampleSoa 2015082404) 1, .insert (exampleSoa 7) 2] = .ok s' ∧
        ∃ x' e', s'.records = [x'] ∧ x'.rdata = .SOA e' ∧ SoaSucc e e' := by
  obtain ⟨s', h⟩ : ∃ s', Invariant.run (RecordSet.from (exampleSoa 2015082403))
      [.insert (exampleSoa 2015082404) 1, .insert (exampleSoa 7) 2] = .ok s' := ⟨_, rfl⟩
  exact ⟨_, rfl, s', h, soa_protected_run (.ofRecord (exampleSoa 2015082403)) rfl
    (List.mem_singleton_self _) rfl (by decide) h⟩

/-- An ANY-typed `remove` with the rdata of `test_remove_soa`'s SOA deletes it, after which an
SOA of serial 1 is accepted. -/
theorem remove_any_deletes_soa :
    ∃ s₁, (RecordSet.from (exampleSoa 2015082403)).remove
          { exampleSoa 2015082403 with rrType := .ANY } 0 = .ok (true, s₁) ∧
        s₁.records = [] ∧
      ∃ s₂, s₁.insert (exampleSoa 1) 0 = .ok (true, s₂) ∧ s₂.records = [exampleSoa 1] :=
  ⟨_, (remove_any (r := { exampleSoa 2015082403 with rrType := .ANY }) (valid_from _) rfl
    rfl).trans (if_pos ⟨_, List.mem_singleton_self _, rfl⟩), rfl, _,
    insert_soa_empty rfl rfl rfl rfl, rfl⟩

end TrustDns.Rr.RemoveGuard
