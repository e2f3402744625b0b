import TrustDns.Rr.RDataMap
import TrustDns.Rr.RemoveGuard

/-! # The record set as an abstract machine

What a record set is for, stated without its vectors and loops: a finite map
from rdata to record under the RFC 2136 replacement rules, with the set's class
and ttl, its signatures and the serial of its last change. Each public mutator
is one step of that machine. The machine also counts its records, which is
what the guard of `remove` reads for NS sets. Outside SOA sets, from every
reachable state, each call whose assertions hold returns and computes the
abstract step, so every run of such calls refines a run of the machine. SOA
sets are left to `Soa`: their insert reads the serial inside the stored
record, which the map does not expose. -/

namespace TrustDns.Rr.Refinement
open TrustDns.Rust RecordSet Invariant RDataMap RemoveGuard

/-- What a record set is for: the records of one name and type as a finite map keyed by rdata,
with how many there are, the class and ttl of the set, its signatures, and the serial of its last
change. -/
@[ext] structure RRset where
  name : Name
  recordType : RecordType
  dnsClass : DNSClass
  ttl : UInt32
  entries : RData → Option Record
  size : Nat
  rrsigs : List Record
  serial : UInt32

namespace RRset

/-- What an insert starts from: nothing in a CNAME set, every entry otherwise. -/
def kept (a : RRset) : RData → Option Record :=
  if a.recordType = .CNAME then fun _ => none else a.entries

/-- How many records an insert starts from. -/
def keptSize (a : RRset) : Nat := if a.recordType = .CNAME then 0 else a.size

/-- RFC 2136, 1.1.5, as the set applies it: a CNAME replaces whatever was stored, any other
record is stored under its rdata; storing a record already there is no change. A change takes
the record's ttl, drops the signatures and records the serial. -/
def put (a : RRset) (r : Record) (serial : UInt32) : RRset :=
  if a.kept r.rdata = some r then a
  else { a with entries := Function.update a.kept r.rdata (some r),
                size := if (a.kept r.rdata).isSome then a.keptSize else a.keptSize + 1,
                ttl := r.ttl, rrsigs := [], serial }

/-- The guard of `remove`, on the argument's type: an SOA record never goes, an NS record only
while another record stays. -/
def refused (a : RRset) (r : Record) : Bool :=
  match r.rrType with
  | .NS => a.size ≤ 1
  | .SOA => true
  | _ => false

/-- Unless refused, deleting the record stored under the argument's rdata, if any, is a
change. -/
def erase (a : RRset) (r : Record) (serial : UInt32) : RRset :=
  if a.refused r = false ∧ (a.entries r.rdata).isSome then
    { a with entries := Function.update a.entries r.rdata none, size := a.size - 1, rrsigs := [],
             serial }
  else a

/-- Every stored record rewritten by `f`. -/
def mapEntries (a : RRset) (f : Record → Record) : RRset :=
  { a with entries := fun d => (a.entries d).map f }

/-- The record `new_record` builds: the set's name, type and ttl, with the rdata. -/
def synth (a : RRset) (d : RData) : Record := (Record.with a.name a.recordType a.ttl).setRdata d

/-- The abstract effect of each public mutator. -/
def step (a : RRset) : Op → RRset
  | .insert r serial => a.put r serial
  | .remove r serial => a.erase r serial
  | .newRecord d => a.put (a.synth d) 0
  | .setTtl ttl => { a.mapEntries fun r => { r with ttl } with ttl }
  | .setDnsClass dnsClass => { a.mapEntries fun r => { r with dnsClass } with dnsClass }
  | .insertRrsig rrsig => { a with rrsigs := a.rrsigs ++ [rrsig] }
  | .clearRrsigs => { a with rrsigs := [] }

/-- A run of the abstract machine. -/
def run (a : RRset) (ops : List Op) : RRset := ops.foldl step a

/-- After a `put`, the record is stored under its rdata. -/
theorem put_entries_self (a : RRset) (r : Record) (serial : UInt32) :
    (a.put r serial).entries r.rdata = some r := by
  unfold put
  split
  · rename_i h
    unfold kept at h
    split_ifs at h
    exact h
  · simp

end RRset

/-- The abstraction of a record set: its records read as the map `view`, and counted. -/
def abs (s : RecordSet) : RRset :=
  ⟨s.name, s.recordType, s.dnsClass, s.ttl, view s.records, s.records.length, s.rrsigs, s.serial⟩

/-- Whether the assertions of a call hold on a set of `name` and `recordType`. -/
def assertsHold (name : Name) (recordType : RecordType) : Op → Bool
  | .insert r _ => r.name == name && r.rrType == recordType
  | .remove r _ => r.name == name && (r.rrType == recordType || r.rrType == .ANY)
  | .newRecord d => recordType == d.toRecordType
  | _ => true

variable {s : RecordSet} {r : Record}

/-- The records an insert starts from: none in a CNAME set, all of them otherwise. -/
def keptRecords (s : RecordSet) : List Record := if s.recordType = .CNAME then [] else s.records

theorem kept_abs : (abs s).kept = view (keptRecords s) := by
  by_cases h : s.recordType = .CNAME
  · simp only [RRset.kept, keptRecords, abs, h, if_true]; rfl
  · simp only [RRset.kept, keptRecords, abs, h, if_false]

theorem keptSize_abs : (abs s).keptSize = (keptRecords s).length := by
  by_cases h : s.recordType = .CNAME <;> simp [RRset.keptSize, keptRecords, abs, h]

theorem rdataNodup_keptRecords (hv : Valid s) : RDataNodup (keptRecords s) := by
  unfold keptRecords; split
  · simp [RDataNodup]
  · exact hv.rdata_nodup

/-- Outside SOA sets, the replacement policy goes on with the kept records. -/
theorem clearForType_kept (hv : Valid s) (hso : s.recordType ≠ .SOA)
    (ht : r.rrType = s.recordType) : s.clearForType r = .ok (some (keptRecords s)) := by
  unfold keptRecords
  split
  · exact clearForType_cname (ht.trans ‹_›) (hv.singleton (.inr ‹_›))
  · exact clearForType_of_ne (ht ▸ hso) (ht ▸ ‹_›)

theorem isSome_view {l : List Record} {d : RData} :
    (view l d).isSome = l.any (·.rdata == d) := by
  rw [Bool.eq_iff_iff]
  simp [view, List.find?_isSome, List.any_eq_true]

/-- An upsert adds one record exactly when none of its rdata was there. -/
theorem length_upsert {l : List Record} :
    (upsert l r).length = if (view l r.rdata).isSome then l.length else l.length + 1 := by
  unfold upsert
  rw [isSome_view]
  split <;> simp

theorem insert_abs (hv : Valid s) (hso : s.recordType ≠ .SOA) (hn : r.name = s.name)
    (ht : r.rrType = s.recordType) (serial : UInt32) :
    ∃ b s', s.insert r serial = .ok (b, s') ∧ abs s' = (abs s).put r serial := by
  have hnd := rdataNodup_keptRecords hv
  rw [insert_of_clearForType hn ht (clearForType_kept hv hso ht) hnd]
  by_cases hr : r ∈ keptRecords s
  · refine ⟨false, s, by simp [hr], ?_⟩
    simp only [RRset.put, kept_abs, (view_eq_some hnd).2 ⟨hr, rfl⟩, if_true]
  · refine ⟨true, { s with records := upsert (keptRecords s) r, ttl := r.ttl }.updated serial,
      by simp [hr], ?_⟩
    have hne : view (keptRecords s) r.rdata ≠ some r := fun h => hr ((view_eq_some hnd).1 h).1
    simp only [RRset.put, kept_abs, keptSize_abs, hne, if_false]
    simp [abs, view_upsert, length_upsert, RecordSet.updated]

/-- Every `remove` whose assertions hold is the abstract erase: the code's guard is the abstract
one on the count. -/
theorem remove_abs (hv : Valid s) (hn : r.name = s.name)
    (ht : r.rrType = s.recordType ∨ r.rrType = .ANY) (serial : UInt32) :
    ∃ b s', s.remove r serial = .ok (b, s') ∧ abs s' = (abs s).erase r serial := by
  have hc : ((abs s).refused r = false ∧ ((abs s).entries r.rdata).isSome) ↔
      (s.removeRefused r = false ∧ ∃ x ∈ s.records, x.rdata = r.rdata) := by
    refine and_congr Iff.rfl ?_
    rw [abs, isSome_view, List.any_eq_true]
    simp
  rw [remove_of_asserts hn ht hv.rdata_nodup]
  by_cases hm : s.removeRefused r = false ∧ ∃ x ∈ s.records, x.rdata = r.rdata
  · obtain ⟨x, hx, hxd⟩ := hm.2
    have hlen := length_filter_rdata hv.rdata_nodup hx
    rw [hxd] at hlen
    refine ⟨true, _, by rw [if_pos hm], ?_⟩
    simp only [RRset.erase, if_pos (hc.2 hm)]
    simp [abs, view_filter, hlen, RecordSet.updated]
  · exact ⟨false, s, by rw [if_neg hm], by simp only [RRset.erase, if_neg (mt hc.1 hm)]⟩

/-- Outside SOA sets, `new_record` is the abstract insert of the record it builds, and returns
that record. -/
theorem newRecord_abs (hv : Valid s) (hso : s.recordType ≠ .SOA) {d : RData}
    (hd : s.recordType = d.toRecordType) :
    ∃ s', s.newRecord d = .ok ((abs s).synth d, s') ∧ abs s' = (abs s).put ((abs s).synth d) 0 := by
  obtain ⟨b, s', hi, ha⟩ : ∃ b s', s.insert ((abs s).synth d) 0 = .ok (b, s') ∧
      abs s' = (abs s).put ((abs s).synth d) 0 := insert_abs hv hso rfl rfl 0
  have hfind : s'.records.find? (·.rdata == d) = some ((abs s).synth d) := by
    have := RRset.put_entries_self (abs s) ((abs s).synth d) 0
    rwa [← ha] at this
  exact ⟨s', by rw [newRecord_of_insert hd hi, hfind], ha⟩


/-- **One call refines one abstract step.** From every valid set of a type other than SOA,
every call whose assertions hold returns, and its result is the abstract step's. -/
theorem step_refines (hv : Valid s) (hso : s.recordType ≠ .SOA) {op : Op}
    (hop : assertsHold s.name s.recordType op = true) :
    ∃ s', step s op = .ok s' ∧ abs s' = (abs s).step op := by
  cases op with
  | insert r serial =>
    simp only [assertsHold, Bool.and_eq_true, beq_iff_eq] at hop
    obtain ⟨b, s', hi, ha⟩ := insert_abs hv hso hop.1 hop.2 serial
    exact ⟨s', by simp [step, hi], ha⟩
  | remove r serial =>
    simp only [assertsHold, Bool.and_eq_true, Bool.or_eq_true, beq_iff_eq] at hop
    obtain ⟨b, s', hi, ha⟩ := remove_abs hv hop.1 hop.2 serial
    exact ⟨s', by simp [step, hi], ha⟩
  | newRecord d =>
    obtain ⟨s', hi, ha⟩ := newRecord_abs hv hso (by simpa [assertsHold] using hop)
    exact ⟨s', by simp [step, hi], ha⟩
  | setTtl _ | setDnsClass _ =>
    exact ⟨_, rfl, RRset.ext rfl rfl rfl rfl (funext fun _ => view_map fun _ => rfl)
      (List.length_map _ _) rfl rfl⟩
  | insertRrsig rrsig => exact ⟨_, rfl, rfl⟩
  | clearRrsigs => exact ⟨_, rfl, rfl⟩


/-- **A record set refines the abstract machine over whole runs.** From every reachable set of a
type other than SOA, every sequence of calls whose assertions hold runs without a panic, and the
set it ends in is, read through `abs`, the abstract machine's run: an rdata-keyed map that
`insert` and `new_record` update and `remove` erases unless its guard refuses. -/
theorem run_refines : ∀ {ops : List Op} {s : RecordSet}, Reachable s → s.recordType ≠ .SOA →
    (∀ op ∈ ops, assertsHold s.name s.recordType op = true) →
      ∃ s', Invariant.run s ops = .ok s' ∧ abs s' = (abs s).run ops
  | _, s, hs, hso, hops =>
    run_simulates abs RRset.step (P := fun s' => s'.name = s.name ∧ s'.recordType = s.recordType)
      (fun hs' ⟨hn, ht⟩ hop =>
        have ⟨s'', h, ha⟩ := step_refines hs'.valid (ht ▸ hso) (hn ▸ ht ▸ hop)
        have ⟨hn', ht'⟩ := step_name_recordType hs'.valid h
        ⟨s'', h, ⟨hn'.trans hn, ht'.trans ht⟩, ha⟩)
      hs ⟨rfl, rfl⟩ hops

theorem run_refines_from_wwwA :
    ∃ s', Invariant.run (RecordSet.from wwwA) [.insert wwwA' 1, .setTtl 600, .remove wwwA 2] =
        .ok s' ∧
      abs s' = (abs (RecordSet.from wwwA)).run [.insert wwwA' 1, .setTtl 600, .remove wwwA 2] :=
  run_refines (.ofRecord wwwA) (by decide) (by decide)

/-- **`new_record` returns the record it built.** Outside SOA sets, from every reachable set,
`new_record` returns the record of the set's name, type and ttl with the rdata, and that record
is stored: a stored record of that rdata with another ttl or class has been replaced by it. -/
theorem newRecord_returns_built_record (hs : Reachable s) (hso : s.recordType ≠ .SOA) {d : RData}
    (hd : s.recordType = d.toRecordType) :
    ∃ s', s.newRecord d = .ok ((Record.with s.name s.recordType s.ttl).setRdata d, s') ∧
      (Record.with s.name s.recordType s.ttl).setRdata d ∈ s'.records := by
  obtain ⟨s', hn, ha⟩ := newRecord_abs hs.valid hso hd
  have hmem := RRset.put_entries_self (abs s) ((abs s).synth d) 0
  rw [← ha] at hmem
  exact ⟨s', hn, List.mem_of_find?_eq_some hmem⟩

theorem newRecord_returns_built_record_from_wwwA :
    ∃ s', (RecordSet.from wwwA).newRecord (.A 0x5DB8D819) =
        .ok ((Record.with wwwA.name .A wwwA.ttl).setRdata (.A 0x5DB8D819), s') ∧
      (Record.with wwwA.name .A wwwA.ttl).setRdata (.A 0x5DB8D819) ∈ s'.records :=
  newRecord_returns_built_record (.ofRecord wwwA) (by decide) rfl

/-- **Insert then remove of a new rdata restores the records, not the ttl.** From every reachable
set of a type other than SOA and CNAME (and, for NS, holding a record), inserting a record whose
rdata no stored record has and then removing it reports two changes and leaves exactly the
records there were, in order; the set keeps the inserted record's ttl, no signatures, and the
serial of the remove. -/
theorem insert_remove_restores_records (hs : Reachable s) (hso : s.recordType ≠ .SOA)
    (hcn : s.recordType ≠ .CNAME) (hns : s.recordType = .NS → s.records ≠ [])
    (hn : r.name = s.name) (ht : r.rrType = s.recordType)
    (hfresh : ∀ x ∈ s.records, x.rdata ≠ r.rdata) (serial serial' : UInt32) :
    ∃ s₁ s₂, s.insert r serial = .ok (true, s₁) ∧ s₁.remove r serial' = .ok (true, s₂) ∧
      s₂.records = s.records ∧ s₂.ttl = r.ttl ∧ s₂.rrsigs = [] ∧ s₂.serial = serial' := by
  have hv := hs.valid
  have hup : upsert s.records r = s.records ++ [r] := by
    unfold upsert
    rw [if_neg]
    simpa using hfresh
  let s₁ := { s with records := s.records ++ [r], ttl := r.ttl }.updated serial
  have hi : s.insert r serial = .ok (true, s₁) := by
    rw [insert_of_clearForType hn ht (clearForType_of_ne (ht ▸ hso) (ht ▸ hcn)) hv.rdata_nodup,
      if_neg fun h => hfresh r h rfl, hup]
  have hg : s₁.removeRefused r = false := by
    unfold removeRefused
    split
    · rename_i h
      have hne := hns (ht.symm.trans h)
      simpa [s₁, List.length_pos] using hne
    · simp_all
    · rfl
  have hnd₁ : RDataNodup s₁.records := by
    simpa [s₁, hup] using rdataNodup_upsert (r := r) hv.rdata_nodup
  have hr : s₁.remove r serial' = _ := remove_of_asserts hn (.inl ht) hnd₁
  rw [if_pos ⟨hg, r, by simp [s₁], rfl⟩] at hr
  refine ⟨s₁, _, hi, hr, ?_, rfl, rfl, rfl⟩
  simpa [s₁, List.filter_append] using fun x hx => hfresh x hx


theorem insert_remove_restores_records_from_wwwA :
    ∃ s₁ s₂, (RecordSet.from wwwA).insert wwwA' 1 = .ok (true, s₁) ∧
      s₁.remove wwwA' 2 = .ok (true, s₂) ∧ s₂.records = (RecordSet.from wwwA).records ∧
      s₂.ttl = wwwA'.ttl ∧ s₂.rrsigs = [] ∧ s₂.serial = 2 :=
  insert_remove_restores_records (r := wwwA') (.ofRecord wwwA) (by decide) (by decide)
    (by decide) rfl rfl (by decide) 1 2

end TrustDns.Rr.Refinement
