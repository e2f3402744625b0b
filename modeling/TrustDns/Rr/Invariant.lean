import TrustDns.Rr.RecordSetSpec

/-! # The representation invariant of `RecordSet`

A set is reachable when some constructor built it and some sequence of calls
that returned (none panicked, so every assertion held) took it where it is.
Every reachable set has its records of the set's name and type, with distinct
rdata, and at most one of them in an SOA or CNAME set; so the
`self.records.len() <= 1` assertions of `insert` never fire. -/

namespace TrustDns.Rr.Invariant
open TrustDns.Rust RecordSet

/-- The public mutators of `RecordSet`, with their arguments. -/
inductive Op where
  | insert (record : Record) (serial : UInt32)
  | remove (record : Record) (serial : UInt32)
  | newRecord (rdata : RData)
  | setTtl (ttl : UInt32)
  | setDnsClass (dnsClass : DNSClass)
  | insertRrsig (rrsig : Record)
  | clearRrsigs

/-- One call, its result dropped; a panic leaves no state. -/
def step (s : RecordSet) : Op → Except Panic RecordSet
  | .insert record serial => Prod.snd <$> s.insert record serial
  | .remove record serial => Prod.snd <$> s.remove record serial
  | .newRecord rdata => Prod.snd <$> s.newRecord rdata
  | .setTtl ttl => pure (s.setTtl ttl)
  | .setDnsClass dnsClass => pure (s.setDnsClass dnsClass)
  | .insertRrsig rrsig => pure (s.insertRrsig rrsig)
  | .clearRrsigs => pure s.clearRrsigs

/-- The states a caller can hold: built by a constructor, then changed by calls that returned. -/
inductive Reachable : RecordSet → Prop
  | new (name : Name) (recordType : RecordType) (serial : UInt32) :
      Reachable (RecordSet.new name recordType serial)
  | withTtl (name : Name) (recordType : RecordType) (ttl : UInt32) :
      Reachable (RecordSet.withTtl name recordType ttl)
  | ofRecord (record : Record) : Reachable (RecordSet.from record)
  | step {s s' : RecordSet} (op : Op) : Reachable s → step s op = .ok s' → Reachable s'

/-- A `remove` whose argument is ANY-typed, which the guard of `remove` does not see. -/
def Op.removesAny : Op → Bool
  | .remove record _ => record.rrType == .ANY
  | _ => false

/-- A run: the calls in order, stopping at the first panic. -/
def run (s : RecordSet) (ops : List Op) : Except Panic RecordSet := ops.foldlM step s

theorem run_cons {s : RecordSet} {op : Op} {ops : List Op} :
    run s (op :: ops) = (step s op >>= fun s' => run s' ops) := rfl

/-- What one call can do: an `insert` (also the one inside `new_record`), a `remove`, or a
rewrite of every record that keeps its name, type and rdata (`set_ttl`, `set_dns_class`, and
the signature accessors, which leave the records alone). -/
theorem step_cases {s s' : RecordSet} {op : Op} (h : step s op = .ok s') :
    (∃ r serial b, s.insert r serial = .ok (b, s')) ∨
    (∃ r serial b, op = .remove r serial ∧ s.remove r serial = .ok (b, s')) ∨
    (∃ f : Record → Record, s'.records = s.records.map f ∧
      (∀ x, (f x).name = x.name ∧ (f x).rrType = x.rrType ∧ (f x).rdata = x.rdata) ∧
      s'.name = s.name ∧ s'.recordType = s.recordType) := by
  cases op with
  | insert r serial =>
    obtain ⟨b, hi⟩ := map_snd_eq_ok h
    exact .inl ⟨r, serial, b, hi⟩
  | remove r serial =>
    obtain ⟨b, hi⟩ := map_snd_eq_ok h
    exact .inr (.inl ⟨r, serial, b, rfl, hi⟩)
  | newRecord rdata =>
    obtain ⟨x, hi⟩ := map_snd_eq_ok h
    obtain ⟨-, ⟨b, hi⟩, -⟩ := newRecord_ok hi
    exact .inl ⟨_, 0, b, hi⟩
  | setTtl _ | setDnsClass _ =>
    cases h; exact .inr (.inr ⟨_, rfl, fun _ => ⟨rfl, rfl, rfl⟩, rfl, rfl⟩)
  | insertRrsig _ | clearRrsigs =>
    cases h
    exact .inr (.inr ⟨id, (List.map_id _).symm, fun _ => ⟨rfl, rfl, rfl⟩, rfl, rfl⟩)

/-! ## The invariant -/

/-- The representation invariant of a record set. -/
structure Valid (s : RecordSet) : Prop where
  name_eq : ∀ r ∈ s.records, r.name = s.name
  type_eq : ∀ r ∈ s.records, r.rrType = s.recordType
  rdata_nodup : RDataNodup s.records
  singleton : s.recordType = .SOA ∨ s.recordType = .CNAME → s.records.length ≤ 1

variable {s s' : RecordSet} {r : Record} {serial : UInt32} {b : Bool}

/-- The invariant reads only the name, the type and the records. -/
theorem Valid.transfer (hv : Valid s) (hn : s'.name = s.name) (ht : s'.recordType = s.recordType)
    (hr : s'.records = s.records) : Valid s' :=
  ⟨hn ▸ hr ▸ hv.name_eq, ht ▸ hr ▸ hv.type_eq, hr ▸ hv.rdata_nodup,
    ht ▸ hr ▸ hv.singleton⟩

/-- In an SOA or CNAME set, a stored record is the only one. -/
theorem Valid.records_eq_singleton {x : Record} (hv : Valid s)
    (hst : s.recordType = .SOA ∨ s.recordType = .CNAME) (hx : x ∈ s.records) :
    s.records = [x] := by
  have := hv.singleton hst
  match hrs : s.records, hx with
  | [y], hx => simp_all
  | y :: z :: t, _ => simp [hrs] at this

theorem valid_empty {s : RecordSet} (h : s.records = []) : Valid s :=
  ⟨by simp [h], by simp [h], by simp [h, RDataNodup], by simp [h]⟩

theorem valid_from (record : Record) : Valid (RecordSet.from record) :=
  ⟨by simp [RecordSet.from], by simp [RecordSet.from], by simp [RecordSet.from, RDataNodup],
    by simp [RecordSet.from]⟩

/-- An accepted insert keeps the invariant: the record matches the set, and the policy left
nothing to upsert into for SOA and CNAME. -/
theorem Valid.insert (hv : Valid s) (h : s.insert r serial = .ok (b, s')) : Valid s' := by
  obtain ⟨hn, ht, ⟨-, rfl⟩ | ⟨-, l, hc, -, rfl⟩⟩ := insert_ok hv.rdata_nodup h
  · exact hv
  rcases clearForType_some hc with ⟨rfl, -⟩ | ⟨rfl, hso, hcn⟩
  · refine ⟨?_, ?_, ?_, fun _ => ?_⟩ <;> simp [upsert_nil, hn, ht, RDataNodup]
  · refine ⟨fun x hx => ?_, fun x hx => ?_, rdataNodup_upsert hv.rdata_nodup, fun hs => ?_⟩
    · rcases mem_upsert hx with rfl | hx
      exacts [hn, hv.name_eq x hx]
    · rcases mem_upsert hx with rfl | hx
      exacts [ht, hv.type_eq x hx]
    · simp [← ht, hso, hcn] at hs

/-- An accepted remove keeps the invariant: the records only lose some. -/
theorem Valid.remove (hv : Valid s) (h : s.remove r serial = .ok (b, s')) : Valid s' := by
  obtain ⟨-, -, ⟨-, rfl⟩ | ⟨-, -, -, rfl⟩⟩ := remove_ok hv.rdata_nodup h
  · exact hv
  refine ⟨fun x hx => hv.name_eq x (List.mem_of_mem_filter hx),
    fun x hx => hv.type_eq x (List.mem_of_mem_filter hx),
    rdataNodup_filter _ hv.rdata_nodup, fun hs => ?_⟩
  exact (List.length_filter_le _ _).trans (hv.singleton hs)

/-- Rewriting every record without touching its name, type or rdata keeps the invariant. -/
theorem Valid.mapRecords {f : Record → Record} (hv : Valid s)
    (hf : ∀ r, (f r).name = r.name ∧ (f r).rrType = r.rrType ∧ (f r).rdata = r.rdata) :
    Valid (s.mapRecords f) := by
  have hrd : (s.records.map f).map Record.rdata = s.records.map Record.rdata := by
    simp [List.map_map, Function.comp_def, hf]
  refine ⟨?_, ?_, by simpa [RecordSet.mapRecords, RDataNodup, hrd] using hv.rdata_nodup, ?_⟩
  · simpa [RecordSet.mapRecords, hf] using hv.name_eq
  · simpa [RecordSet.mapRecords, hf] using hv.type_eq
  · simpa [RecordSet.mapRecords] using hv.singleton

/-- Every call that returns keeps the invariant. -/
theorem Valid.step {op : Op} (hv : Valid s) (h : step s op = .ok s') : Valid s' := by
  rcases step_cases h with ⟨_, _, _, hi⟩ | ⟨_, _, _, -, hi⟩ | ⟨f, hr, hf, hn, ht⟩
  · exact hv.insert hi
  · exact hv.remove hi
  · exact (hv.mapRecords hf).transfer hn ht hr

/-- Every call keeps the set's name and type. -/
theorem step_name_recordType {op : Op} (hv : Valid s) (h : step s op = .ok s') :
    s'.name = s.name ∧ s'.recordType = s.recordType := by
  rcases step_cases h with ⟨_, _, _, hi⟩ | ⟨_, _, _, -, hi⟩ | ⟨_, -, -, hn, ht⟩
  · obtain ⟨-, -, ⟨-, rfl⟩ | ⟨-, -, -, -, rfl⟩⟩ := insert_ok hv.rdata_nodup hi <;> simp
  · obtain ⟨-, -, ⟨-, rfl⟩ | ⟨-, -, -, rfl⟩⟩ := remove_ok hv.rdata_nodup hi <;> simp
  · exact ⟨hn, ht⟩

theorem Reachable.valid (hs : Reachable s) : Valid s := by
  induction hs with
  | new => exact valid_empty rfl
  | withTtl => exact valid_empty rfl
  | ofRecord => exact valid_from _
  | step _ _ h ih => exact ih.step h

/-! ## Runs -/

section runs
variable {P : RecordSet → Prop} {Q : Op → Prop}

/-- **Invariants of runs.** A property that every call allowed by `Q` keeps on reachable states
holds at the end of every run of such calls from a reachable state where it holds. -/
theorem run_invariant
    (hstep : ∀ {s s' : RecordSet} {op : Op}, Reachable s → P s → Q op →
      step s op = .ok s' → P s') :
    ∀ {ops : List Op} {s : RecordSet}, Reachable s → P s → (∀ op ∈ ops, Q op) →
      Invariant.run s ops = .ok s' → P s'
  | [], _, _, hp, _, h => by cases h; exact hp
  | op :: _, _, hs, hp, hops, h => by
    obtain ⟨s₁, h₁, h⟩ := bind_eq_ok h
    exact run_invariant hstep (.step op hs h₁)
      (hstep hs hp (hops op (List.mem_cons_self _ _)) h₁)
      (fun op' hop' => hops op' (List.mem_cons_of_mem _ hop')) h

/-- **Runs that return, read through `f`.** If from every reachable state satisfying `P` each
call allowed by `Q` returns, keeps `P` and moves `f` of the state by `g`, then every run of such
calls returns, and `f` of its end is the fold of `g`. -/
theorem run_simulates {α : Type} (f : RecordSet → α) (g : α → Op → α)
    (hstep : ∀ {s : RecordSet} {op : Op}, Reachable s → P s → Q op →
      ∃ s', step s op = .ok s' ∧ P s' ∧ f s' = g (f s) op) :
    ∀ {ops : List Op} {s : RecordSet}, Reachable s → P s → (∀ op ∈ ops, Q op) →
      ∃ s', Invariant.run s ops = .ok s' ∧ f s' = ops.foldl g (f s)
  | [], s, _, _, _ => ⟨s, rfl, rfl⟩
  | op :: _, _, hs, hp, hops => by
    obtain ⟨s₁, h₁, hp₁, hf₁⟩ := hstep hs hp (hops op (List.mem_cons_self _ _))
    obtain ⟨s₂, h₂, hf₂⟩ := run_simulates f g hstep (.step op hs h₁) hp₁
      fun op' hop' => hops op' (List.mem_cons_of_mem _ hop')
    exact ⟨s₂, by rw [run_cons, h₁]; exact h₂, by rw [hf₂, hf₁]; rfl⟩

end runs

/-- On a valid set, the singleton assertions of `insert` hold. -/
theorem Valid.insert_ne_assertion (hv : Valid s) (r : Record) (serial : UInt32) :
    s.insert r serial ≠ .error (.assertion "self.records.len() <= 1") := by
  intro h
  by_cases hn : r.name = s.name
  · by_cases ht : r.rrType = s.recordType
    · have hl : r.rrType = .SOA ∨ r.rrType = .CNAME → s.records.length ≤ 1 :=
        ht ▸ hv.singleton
      match hc : s.clearForType r with
      | .error p =>
        have hp := clearForType_error hl hc
        simp [RecordSet.insert, hn, ht, hc, hp] at h
      | .ok none => simp [insert_of_clearForType_none hn ht hc] at h
      | .ok (some l) =>
        rw [insert_of_clearForType hn ht hc (rdataNodup_of_clearForType hv.rdata_nodup hc)] at h
        split at h <;> cases h
    · have hb : (r.rrType == s.recordType) = false := by simpa using ht
      simp [RecordSet.insert, hn, hb] at h
  · have hb : (r.name == s.name) = false := by simpa using hn
    simp [RecordSet.insert, hb] at h

/-- **The representation invariant.** Every reachable record set has its records of its name
and type, with pairwise distinct rdata, and at most one record when it is an SOA or CNAME set;
so the `records.len() <= 1` assertions of `insert` never fire. -/
theorem reachable_representation_invariant (hs : Reachable s) :
    (∀ r ∈ s.records, r.name = s.name ∧ r.rrType = s.recordType) ∧
      (s.records.map Record.rdata).Nodup ∧
      (s.recordType = .SOA ∨ s.recordType = .CNAME → s.records.length ≤ 1) ∧
      ∀ r serial, s.insert r serial ≠ .error (.assertion "self.records.len() <= 1") := by
  have hv := hs.valid
  exact ⟨fun r hr => ⟨hv.name_eq r hr, hv.type_eq r hr⟩, hv.rdata_nodup, hv.singleton,
    hv.insert_ne_assertion⟩

/-- The record of `test_insert`: `www.example.com. 86400 IN A 93.184.216.24`. -/
def wwwA : Record :=
  { name := ⟨["www", "example", "com"]⟩, rrType := .A, dnsClass := .IN, ttl := 86400,
    rdata := .A 0x5DB8D818 }

/-- A second address of `www.example.com.`, at another ttl. -/
def wwwA' : Record := { wwwA with ttl := 300, rdata := .A 0x5DB8D819 }

/-- The set of `wwwA` after `insert(wwwA', 1)`: two addresses, the second one's ttl. -/
def wwwPair : RecordSet :=
  { RecordSet.from wwwA with records := [wwwA, wwwA'], ttl := 300, serial := 1 }

theorem reachable_wwwPair : Reachable wwwPair := .step (.insert wwwA' 1) (.ofRecord wwwA) rfl

theorem representation_invariant_wwwPair :
    (∀ r ∈ wwwPair.records, r.name = wwwPair.name ∧ r.rrType = wwwPair.recordType) ∧
      (wwwPair.records.map Record.rdata).Nodup ∧
      (wwwPair.recordType = .SOA ∨ wwwPair.recordType = .CNAME →
        wwwPair.records.length ≤ 1) ∧
      ∀ r serial, wwwPair.insert r serial ≠ .error (.assertion "self.records.len() <= 1") :=
  reachable_representation_invariant reachable_wwwPair

end TrustDns.Rr.Invariant
