import TrustDns.Rr.Invariant

/-! # The ttl of a record set and of its records

`set_ttl` gives the set and every stored record one ttl. `insert` gives the
set the inserted record's ttl and leaves the other records as they are, so the
rule of RFC 2181, 5.2, that the records of an RRset share one ttl, holds only
while every inserted record carries the set's ttl. From every reachable set
that obeys it, runs of such calls keep it. -/

namespace TrustDns.Rr.Ttl
open TrustDns.Rust RecordSet Invariant

/-- The set and every stored record have the ttl `t`. -/
structure UniformTtl (t : UInt32) (s : RecordSet) : Prop where
  set : s.ttl = t
  records : ∀ x ∈ s.records, x.ttl = t

/-- Whether a call gives nothing another ttl than `t`: an inserted record and `set_ttl` carry
`t`. -/
def keepsTtl (t : UInt32) : Op → Bool
  | .insert r _ => r.ttl == t
  | .setTtl ttl => ttl == t
  | _ => true

variable {s s' : RecordSet} {r x : Record} {serial : UInt32} {b : Bool} {t : UInt32}

theorem UniformTtl.insert (hu : UniformTtl t s) (hv : Valid s) (hr : r.ttl = t)
    (h : s.insert r serial = .ok (b, s')) : UniformTtl t s' := by
  obtain ⟨-, -, ⟨-, rfl⟩ | ⟨-, l, hc, -, rfl⟩⟩ := insert_ok hv.rdata_nodup h
  · exact hu
  refine ⟨hr, fun x hx => ?_⟩
  rcases mem_upsert hx with rfl | hx
  · exact hr
  rcases clearForType_some hc with ⟨rfl, -⟩ | ⟨rfl, -⟩
  exacts [absurd hx (List.not_mem_nil x), hu.records x hx]

theorem UniformTtl.remove (hu : UniformTtl t s) (hv : Valid s)
    (h : s.remove r serial = .ok (b, s')) : UniformTtl t s' := by
  obtain ⟨-, -, ⟨-, rfl⟩ | ⟨-, -, -, rfl⟩⟩ := remove_ok hv.rdata_nodup h
  · exact hu
  exact ⟨hu.set, fun x hx => hu.records x (List.mem_filter.1 hx).1⟩

/-- Every call that gives nothing another ttl keeps the set at `t`. -/
theorem UniformTtl.step {op : Op} (hu : UniformTtl t s) (hv : Valid s)
    (hop : keepsTtl t op = true) (h : step s op = .ok s') : UniformTtl t s' := by
  cases op with
  | insert r serial =>
    obtain ⟨b, hi⟩ := map_snd_eq_ok h
    exact hu.insert hv (by simpa [keepsTtl] using hop) hi
  | remove r serial =>
    obtain ⟨b, hi⟩ := map_snd_eq_ok h
    exact hu.remove hv hi
  | newRecord d =>
    obtain ⟨x, hn⟩ := map_snd_eq_ok h
    obtain ⟨-, ⟨b, hi⟩, -⟩ := newRecord_ok hn
    exact hu.insert hv hu.set hi
  | setTtl ttl =>
    cases h
    obtain rfl : ttl = t := by simpa [keepsTtl] using hop
    refine ⟨rfl, fun x hx => ?_⟩
    obtain ⟨y, -, rfl⟩ := List.mem_map.1 hx
    rfl
  | setDnsClass dnsClass =>
    cases h
    refine ⟨hu.set, fun x hx => ?_⟩
    obtain ⟨y, hy, rfl⟩ := List.mem_map.1 hx
    exact hu.records y hy
  | insertRrsig _ | clearRrsigs =>
    cases h
    exact ⟨hu.set, hu.records⟩

/-- **Runs that insert at the set's ttl keep one ttl.** From every reachable set whose records
all carry its ttl `t`, every run in which each inserted record carries `t` and each `set_ttl`
sets `t` ends, if it returns, with the set and every record at `t`: `remove`, `new_record`,
`set_dns_class` and the signature calls never split the ttl. -/
theorem uniformTtl_run : ∀ {ops : List Op} {s : RecordSet}, Reachable s → UniformTtl t s →
    (∀ op ∈ ops, keepsTtl t op = true) → Invariant.run s ops = .ok s' → UniformTtl t s'
  | _, _ => run_invariant (Q := (keepsTtl t · = true)) fun hs hu hop h => hu.step hs.valid hop h

theorem uniformTtl_run_from_wwwA :
    ∃ s', Invariant.run (RecordSet.from wwwA) [.newRecord (.A 0x5DB8D819), .remove wwwA 1] =
      .ok s' ∧ UniformTtl wwwA.ttl s' := by
  obtain ⟨s', h⟩ : ∃ s', Invariant.run (RecordSet.from wwwA)
    [.newRecord (.A 0x5DB8D819), .remove wwwA 1] = .ok s' := ⟨_, rfl⟩
  exact ⟨s', h, uniformTtl_run (.ofRecord wwwA) ⟨rfl, by simp [RecordSet.from]⟩ (by decide)
    h⟩

end TrustDns.Rr.Ttl
