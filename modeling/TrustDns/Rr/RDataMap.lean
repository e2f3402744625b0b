import Mathlib.Data.List.Nodup
import Mathlib.Logic.Function.Basic
import TrustDns.Rr.Invariant

/-! # A record set is a finite map keyed by rdata

Outside the SOA and CNAME singleton slots, the records of a reachable set are
read as the map from rdata to the record that carries it (well defined, since
the rdata are distinct). `insert` is the map's update at the record's rdata,
`remove` its erasure, and the records they do not touch keep their order. -/

namespace TrustDns.Rr.RDataMap
open TrustDns.Rust RecordSet Invariant

/-- The records as a finite map from rdata to record. -/
def view (records : List Record) (d : RData) : Option Record := records.find? (·.rdata == d)

variable {l : List Record} {r x : Record} {d : RData}

theorem view_eq_none : view l d = none ↔ ∀ x ∈ l, x.rdata ≠ d := by
  simp [view, List.find?_eq_none]

theorem view_eq_some (hnd : RDataNodup l) : view l d = some x ↔ x ∈ l ∧ x.rdata = d := by
  refine ⟨fun h => ⟨List.mem_of_find?_eq_some h, by simpa using List.find?_some h⟩, ?_⟩
  rintro ⟨hx, rfl⟩
  cases hv : view l x.rdata with
  | none => exact absurd rfl (view_eq_none.1 hv x hx)
  | some y =>
    have hy : y ∈ l ∧ y.rdata = x.rdata :=
      ⟨List.mem_of_find?_eq_some hv, by simpa using List.find?_some hv⟩
    rw [List.inj_on_of_nodup_map hnd hy.1 hx hy.2]

theorem rdata_of_view_eq_some (h : view l d = some x) : x.rdata = d := by
  simpa using List.find?_some h

/-- A map of the records that keeps every rdata maps the view. -/
theorem view_map {f : Record → Record} (hf : ∀ x, (f x).rdata = x.rdata) :
    view (l.map f) d = (view l d).map f := by
  simp only [view, List.find?_map]
  congr 2; funext x; simp [hf]

/-- Upserting is the map's update; no uniqueness is needed for this. -/
theorem view_upsert : view (upsert l r) = Function.update (view l) r.rdata (some r) := by
  funext k
  rw [Function.update_apply]
  unfold upsert
  split
  · rename_i hany
    rw [view_map fun x => by split <;> simp_all]
    cases hv : view l k with
    | none =>
      obtain ⟨y, hy, hyd⟩ := List.any_eq_true.1 hany
      have hk : k ≠ r.rdata := fun hk => view_eq_none.1 hv y hy (by simpa [hk] using hyd)
      simp [hk]
    | some z =>
      have hz := rdata_of_view_eq_some hv
      by_cases hk : k = r.rdata <;> simp [hz, hk]
  · rename_i hany
    have hn : view l r.rdata = none := view_eq_none.2 fun y hy h =>
      hany (List.any_eq_true.2 ⟨y, hy, by simpa using h⟩)
    by_cases hk : k = r.rdata
    · subst hk
      have hn' : l.find? (·.rdata == r.rdata) = none := hn
      simp [view, List.find?_append, hn']
    · simp [view, List.find?_append, hk, Ne.symm hk]

/-- Filtering an rdata out is the map's erasure. -/
theorem view_filter : view (l.filter (·.rdata != d)) = Function.update (view l) d none := by
  funext k
  rw [Function.update_apply]
  simp only [view, List.find?_filter]
  split
  · subst k; simp [List.find?_eq_none]
  · rename_i hk
    congr 1; funext a; by_cases h : a.rdata = k <;> simp [h, hk]

/-- The upsert touches no record of another rdata. -/
theorem filter_upsert :
    (upsert l r).filter (·.rdata != r.rdata) = l.filter (·.rdata != r.rdata) := by
  unfold upsert
  split
  · rw [List.filter_map]
    have hp : ((·.rdata != r.rdata) ∘ fun x => if x.rdata = r.rdata then r else x) =
        (·.rdata != r.rdata) := by
      funext x; by_cases h : x.rdata = r.rdata <;> simp [h]
    rw [hp]
    exact (List.map_congr_left fun y hy => by simp_all).trans (List.map_id' _)
  · simp [List.filter_append]

/-! ## The refinement -/

variable {s : RecordSet} {serial : UInt32}

/-- A record set other than SOA or CNAME upserts: `insert` is the map update, returns whether
the map changed, and keeps the other records in order. -/
theorem insert_refines (hv : Valid s) (hso : s.recordType ≠ .SOA) (hcn : s.recordType ≠ .CNAME)
    (hn : r.name = s.name) (ht : r.rrType = s.recordType) :
    ∃ b s', s.insert r serial = .ok (b, s') ∧
      view s'.records = Function.update (view s.records) r.rdata (some r) ∧
      (b = true ↔ view s'.records ≠ view s.records) ∧ (b = true ↔ r ∉ s.records) ∧
      s'.records.filter (·.rdata != r.rdata) = s.records.filter (·.rdata != r.rdata) := by
  have hc := clearForType_of_ne (s := s) (ht ▸ hso) (ht ▸ hcn)
  have hchanged :
      view s.records ≠ Function.update (view s.records) r.rdata (some r) ↔ r ∉ s.records := by
    rw [ne_comm, Ne, Function.update_eq_self_iff, eq_comm, view_eq_some hv.rdata_nodup]
    simp
  rw [insert_of_clearForType hn ht hc hv.rdata_nodup]
  by_cases hr : r ∈ s.records
  · have hupd : Function.update (view s.records) r.rdata (some r) = view s.records :=
      Function.update_eq_self_iff.2 ((view_eq_some hv.rdata_nodup).2 ⟨hr, rfl⟩).symm
    exact ⟨false, s, by simp [hr], hupd.symm, by simp, by simp [hr], rfl⟩
  · refine ⟨true, { s with records := upsert s.records r, ttl := r.ttl }.updated serial,
      by simp [hr], view_upsert, ?_, by simp [hr], filter_upsert⟩
    simpa [view_upsert, ne_comm] using hchanged.2 hr

/-- Unless the NS guard refuses it, `remove` is the map's erasure, returns whether the rdata
was a key, and keeps the other records in order. -/
theorem remove_refines (hv : Valid s) (hso : s.recordType ≠ .SOA) (hn : r.name = s.name)
    (ht : r.rrType = s.recordType ∨ r.rrType = .ANY)
    (hns : ¬(r.rrType = .NS ∧ s.records.length ≤ 1)) :
    ∃ b s', s.remove r serial = .ok (b, s') ∧
      view s'.records = Function.update (view s.records) r.rdata none ∧
      (b = true ↔ (view s.records r.rdata).isSome) ∧
      s'.records.filter (·.rdata != r.rdata) = s.records.filter (·.rdata != r.rdata) := by
  have hg : s.removeRefused r = false := by
    have hsoa : r.rrType ≠ .SOA := by rcases ht with h | h <;> rw [h] <;> simp [hso]
    unfold removeRefused; split <;> simp_all
  have hkey : (view s.records r.rdata).isSome ↔ ∃ x ∈ s.records, x.rdata = r.rdata := by
    rw [Option.isSome_iff_ne_none, Ne, view_eq_none]; simp
  rw [remove_of_asserts hn ht hv.rdata_nodup, hg]
  by_cases hm : ∃ x ∈ s.records, x.rdata = r.rdata
  · exact ⟨true, { s with records := s.records.filter (·.rdata != r.rdata) }.updated serial,
      by simp [hm], view_filter, by simpa using hkey.2 hm, by simp [List.filter_filter]⟩
  · have hupd : Function.update (view s.records) r.rdata none = view s.records :=
      Function.update_eq_self_iff.2 (view_eq_none.2 fun x hx h => hm ⟨x, hx, h⟩).symm
    exact ⟨false, s, by simp [hm], hupd.symm, by simpa [hkey] using hm, rfl⟩

/-- **`RecordSet` refines a finite map keyed by rdata.** In every reachable set of a type other
than SOA and CNAME, `insert` is the map's update at the record's rdata and returns whether the map
changed (whether the record was not already stored), and `remove`, unless the NS guard refuses it,
is the map's erasure and returns whether the rdata was a key; both keep the untouched records in
order. -/
theorem recordSet_refines_rdata_map (hs : Reachable s) (hso : s.recordType ≠ .SOA)
    (hcn : s.recordType ≠ .CNAME) :
    (∀ r serial, r.name = s.name → r.rrType = s.recordType →
      ∃ b s', s.insert r serial = .ok (b, s') ∧
        view s'.records = Function.update (view s.records) r.rdata (some r) ∧
        (b = true ↔ view s'.records ≠ view s.records) ∧ (b = true ↔ r ∉ s.records) ∧
        s'.records.filter (·.rdata != r.rdata) = s.records.filter (·.rdata != r.rdata)) ∧
    (∀ r serial, r.name = s.name → (r.rrType = s.recordType ∨ r.rrType = .ANY) →
      ¬(r.rrType = .NS ∧ s.records.length ≤ 1) →
      ∃ b s', s.remove r serial = .ok (b, s') ∧
        view s'.records = Function.update (view s.records) r.rdata none ∧
        (b = true ↔ (view s.records r.rdata).isSome) ∧
        s'.records.filter (·.rdata != r.rdata) = s.records.filter (·.rdata != r.rdata)) :=
  ⟨fun _ _ hn ht => insert_refines hs.valid hso hcn hn ht,
    fun _ _ hn ht hns => remove_refines hs.valid hso hn ht hns⟩

theorem refines_rdata_map_wwwPair :
    wwwPair.recordType ≠ .SOA ∧ wwwPair.recordType ≠ .CNAME ∧
    (∀ r serial, r.name = wwwPair.name → r.rrType = wwwPair.recordType →
      ∃ b s', wwwPair.insert r serial = .ok (b, s') ∧
        view s'.records = Function.update (view wwwPair.records) r.rdata (some r) ∧
        (b = true ↔ view s'.records ≠ view wwwPair.records) ∧
        (b = true ↔ r ∉ wwwPair.records) ∧
        s'.records.filter (·.rdata != r.rdata) = wwwPair.records.filter (·.rdata != r.rdata)) ∧
    (∀ r serial, r.name = wwwPair.name → (r.rrType = wwwPair.recordType ∨ r.rrType = .ANY) →
      ¬(r.rrType = .NS ∧ wwwPair.records.length ≤ 1) →
      ∃ b s', wwwPair.remove r serial = .ok (b, s') ∧
        view s'.records = Function.update (view wwwPair.records) r.rdata none ∧
        (b = true ↔ (view wwwPair.records r.rdata).isSome) ∧
        s'.records.filter (·.rdata != r.rdata) = wwwPair.records.filter (·.rdata != r.rdata)) :=
  ⟨by decide, by decide, recordSet_refines_rdata_map reachable_wwwPair (by decide) (by decide)⟩

end TrustDns.Rr.RDataMap
