import TrustDns.Rr.Invariant

/-! # The removal loop on any records vector

`remove` collects the indices of the records with the argument's rdata, in
increasing order, then calls `Vec::remove` at each. Every removal shifts the
records after it one place to the left, so from the second index on the loop
works with stale indices: the record at the second collected index has moved
below it, and no later removal, all at higher indices, reaches it. The loop
therefore deletes exactly the matching records if and only if at most one
record matches; with two or more it keeps a matching record or panics. The
uniqueness invariant makes every reachable set of the first kind. -/

namespace TrustDns.Rr.RemoveLoop
open TrustDns.Rust RecordSet Invariant

variable {d : RData} {serial : UInt32} {s : RecordSet} {r : Record}

/-- Removals at indices above `p` leave the record at `p` in place. -/
theorem removeLoop_getElem?_of_lt {p : Nat} :
    ∀ {is : List Nat} {b b' : Bool} {rs rs' : RecordSet},
      removeLoop serial is b rs = .ok (b', rs') → (∀ k ∈ is, p < k) →
        rs'.records[p]? = rs.records[p]?
  | [], _, _, _, _, h, _ => by cases h; rfl
  | k :: is, _, _, rs, _, h, hp => by
    obtain ⟨records, hk, h⟩ := bind_eq_ok h
    obtain ⟨-, rfl⟩ := Vec.remove_eq_ok hk
    rw [removeLoop_getElem?_of_lt h fun k' hk' => hp k' (List.mem_cons_of_mem _ hk')]
    exact List.getElem?_eraseIdx_of_lt _ _ _ (hp k (List.mem_cons_self _ _))

/-- Past its assertions and guard, `remove` is the loop over the collected indices. -/
theorem remove_of_guards (hn : r.name = s.name)
    (ht : r.rrType = s.recordType ∨ r.rrType = .ANY) (hg : s.removeRefused r = false) :
    s.remove r serial = removeLoop serial (matchingIndices s.records r.rdata) false s := by
  have hb : (r.rrType == s.recordType || r.rrType == .ANY) = true := by simpa using ht
  simp [remove, hn, hb, hg]

/-- A second matching index leaves a matching record behind, if the loop returns at all. -/
theorem removeLoop_keeps_match {i j : Nat} {is : List Nat} {b : Bool} {s' : RecordSet}
    (hm : matchingIndices s.records d = i :: j :: is)
    (h : removeLoop serial (i :: j :: is) false s = .ok (b, s')) :
    ∃ x ∈ s'.records, x.rdata = d := by
  have hsort := hm ▸ (matchingIndices_sorted (l := s.records) (d := d))
  have hij : i < j := List.rel_of_pairwise_cons hsort (List.mem_cons_self _ _)
  have hjs : ∀ k ∈ is, j < k := fun k hk =>
    List.rel_of_pairwise_cons (List.pairwise_cons.1 hsort).2 hk
  obtain ⟨hj, hjd⟩ :=
    mem_matchingIndices.1 (hm ▸ List.mem_cons_of_mem _ (List.mem_cons_self j is))
  obtain ⟨records, hk, h⟩ := bind_eq_ok h
  obtain ⟨-, rfl⟩ := Vec.remove_eq_ok hk
  have hkeep := removeLoop_getElem?_of_lt (p := j - 1) h fun k hk => by
    rcases List.mem_cons.1 hk with rfl | hk
    · omega
    · have := hjs k hk; omega
  rw [updated_records, List.getElem?_eraseIdx_of_ge _ _ _ (by omega),
    Nat.sub_add_cancel (by omega), List.getElem?_eq_getElem hj] at hkeep
  exact ⟨_, List.getElem?_mem hkeep, hjd⟩

/-- With at most one collected index, the loop returns with that rdata filtered out. -/
theorem removeLoop_filters (hlen : (matchingIndices s.records d).length ≤ 1) :
    ∃ b s', removeLoop serial (matchingIndices s.records d) false s = .ok (b, s') ∧
      s'.records = s.records.filter (·.rdata != d) := by
  have hmem : ∀ {k} (hk : k < s.records.length), s.records[k].rdata = d →
      k ∈ matchingIndices s.records d := fun hk h => mem_matchingIndices.2 ⟨hk, h⟩
  match hm : matchingIndices s.records d, hlen with
  | [], _ =>
    refine ⟨false, s, rfl, (List.filter_eq_self.2 fun x hx => ?_).symm⟩
    obtain ⟨k, hk, rfl⟩ := List.mem_iff_getElem.1 hx
    simpa using fun h => by simpa [hm] using hmem hk h
  | [i], _ =>
    obtain ⟨hi, hid⟩ := mem_matchingIndices.1 (hm ▸ List.mem_singleton_self i)
    refine ⟨true, { s with records := s.records.eraseIdx i }.updated serial,
      by simp [removeLoop, Vec.remove_of_lt hi], ?_⟩
    exact eraseIdx_eq_filter_of_unique _ i hi hid fun j hj h => by simpa [hm] using hmem hj h

/-- **The removal loop is right exactly when at most one record matches.** For every records
vector and every record past `remove`'s assertions and guard, `remove` returns with the records
of the argument's rdata deleted and the others kept in order if and only if at most one stored
record has that rdata. -/
theorem remove_filters_iff_at_most_one_match (hn : r.name = s.name)
    (ht : r.rrType = s.recordType ∨ r.rrType = .ANY) (hg : s.removeRefused r = false)
    (serial : UInt32) :
    (∃ b s', s.remove r serial = .ok (b, s') ∧
        s'.records = s.records.filter (·.rdata != r.rdata)) ↔
      s.records.countP (·.rdata == r.rdata) ≤ 1 := by
  rw [remove_of_guards hn ht hg, ← length_matchingIndices]
  constructor
  · rintro ⟨b, s', h, hrec⟩
    match hm : matchingIndices s.records r.rdata, h with
    | [], _ | [_], _ => simp
    | i :: j :: is, h =>
      obtain ⟨x, hx, hxd⟩ := removeLoop_keeps_match hm h
      simp [hrec, hxd] at hx
  · exact removeLoop_filters

/-- Two A records of `www.example.com.` with the same address, at two ttls. -/
def wwwATwice : RecordSet :=
  { RecordSet.from wwwA with records := [wwwA, { wwwA with ttl := 300 }] }

theorem remove_filters_iff_at_most_one_match_twice :
    (∃ b s', wwwATwice.remove wwwA 0 = .ok (b, s') ∧
        s'.records = wwwATwice.records.filter (·.rdata != wwwA.rdata)) ↔
      wwwATwice.records.countP (·.rdata == wwwA.rdata) ≤ 1 :=
  remove_filters_iff_at_most_one_match (s := wwwATwice) (r := wwwA) rfl (.inl rfl) rfl 0

/-- On those two records, removing by the address collects the indices `[0, 1]`; after the
first removal, index 1 is past the end. -/
theorem remove_stale_index_out_of_bounds :
    wwwATwice.remove wwwA 0 = .error (.indexOutOfBounds 1 1) := rfl

end TrustDns.Rr.RemoveLoop
