import Mathlib.Data.List.Nodup
import TrustDns.Rr.RecordSet

/-! # What `insert` and `remove` compute

Both loops run over the indices of the records that share the argument's
rdata. When the stored rdata are pairwise distinct there is at most one such
index, and the loops become an rdata-keyed upsert and a filter. This file
proves that once, and states for each method one lemma that says everything a
successful call can do. -/

namespace TrustDns.Rr.RecordSet
open TrustDns.Rust

variable {s s' : RecordSet} {l : List Record} {r : Record} {d : RData} {serial : UInt32} {b : Bool}

/-- Pairwise distinct rdata, the uniqueness invariant of the records. -/
def RDataNodup (l : List Record) : Prop := (l.map Record.rdata).Nodup

theorem rdataNodup_cons {x : Record} :
    RDataNodup (x :: l) ↔ (∀ y ∈ l, y.rdata ≠ x.rdata) ∧ RDataNodup l := by
  simp [RDataNodup, List.nodup_cons, List.mem_map]

/-! ## The collected indices -/

theorem mem_matchingIndices {i : Nat} :
    i ∈ matchingIndices l d ↔ ∃ hi : i < l.length, l[i].rdata = d := by
  simp [matchingIndices, List.mem_enum_iff_getElem?, List.getElem?_eq_some_iff]

/-- The indices are collected in increasing order. -/
theorem matchingIndices_sorted : (matchingIndices l d).Pairwise (· < ·) := by
  have hsub : List.Sublist (matchingIndices l d) (l.enum.map Prod.fst) :=
    (List.filter_sublist _).map _
  rw [List.enum_map_fst] at hsub
  exact (List.pairwise_lt_range _).sublist hsub

theorem length_matchingIndices :
    (matchingIndices l d).length = l.countP (·.rdata == d) := by
  rw [matchingIndices, List.length_map, List.countP_eq_length_filter]
  conv_rhs => rw [← List.enum_map_snd l, List.filter_map, List.length_map]
  rfl

theorem matchingIndices_eq_nil (h : ∀ x ∈ l, x.rdata ≠ d) : matchingIndices l d = [] :=
  List.eq_nil_iff_forall_not_mem.2 fun _ hi => by
    obtain ⟨hi, hd⟩ := mem_matchingIndices.1 hi
    exact h _ (List.getElem_mem _) hd

/-- Under uniqueness, a record's rdata determines its index. -/
theorem RDataNodup.index_unique (hnd : RDataNodup l) {i j : Nat} (hi : i < l.length)
    (hj : j < l.length) (h : l[j].rdata = l[i].rdata) : j = i := by
  have hi' : i < (l.map Record.rdata).length := by simpa using hi
  have hj' : j < (l.map Record.rdata).length := by simpa using hj
  have heq : (l.map Record.rdata)[j] = (l.map Record.rdata)[i] := by simpa using h
  exact (List.Nodup.getElem_inj_iff hnd).1 heq

/-- Under uniqueness, the record at `i` is the only match. -/
theorem matchingIndices_eq_single {i : Nat} (hi : i < l.length) (hnd : RDataNodup l)
    (hd : l[i].rdata = d) : matchingIndices l d = [i] := by
  have hall : ∀ j ∈ matchingIndices l d, j = i := fun j hj => by
    obtain ⟨hj, hjd⟩ := mem_matchingIndices.1 hj
    exact hnd.index_unique hi hj (hjd.trans hd.symm)
  have hsort := matchingIndices_sorted (l := l) (d := d)
  match hm : matchingIndices l d, hall, hsort with
  | [], _, _ => simpa [hm] using mem_matchingIndices.2 ⟨hi, hd⟩
  | [j], hall, _ => rw [hall j (List.mem_singleton_self j)]
  | j :: k :: _, hall, hsort =>
    have hjk := List.rel_of_pairwise_cons hsort (List.mem_cons_self k _)
    rw [hall j (List.mem_cons_self _ _), hall k (by simp)] at hjk
    exact absurd hjk (Nat.lt_irrefl i)

/-! ## Upsert and filter -/

/-- The rdata-keyed upsert: replace the record of `r`'s rdata by `r`, or append `r`. -/
def upsert (l : List Record) (r : Record) : List Record :=
  if l.any (·.rdata == r.rdata) then l.map fun x => if x.rdata = r.rdata then r else x
  else l ++ [r]

/-- Writing `r` at the only index of its rdata is the upsert's replacement. -/
theorem set_eq_map : ∀ (l : List Record) (i : Nat) (hi : i < l.length), RDataNodup l →
    l[i].rdata = r.rdata → l.set i r = l.map fun x => if x.rdata = r.rdata then r else x
  | x :: t, 0, _, hnd, hd => by
    have hx : x.rdata = r.rdata := hd
    have ht : t.map (fun x => if x.rdata = r.rdata then r else x) = t :=
      (List.map_congr_left fun y hy =>
        if_neg fun h => (rdataNodup_cons.1 hnd).1 y hy (h.trans hx.symm)).trans (List.map_id' t)
    simp [hx, ht]
  | x :: t, i + 1, hi, hnd, hd => by
    obtain ⟨hx, ht⟩ := rdataNodup_cons.1 hnd
    have hne : x.rdata ≠ r.rdata := fun h => hx _ (List.getElem_mem _) (hd.trans h.symm)
    simp [hne, set_eq_map t i (by simpa using hi) ht hd]

/-- With the record at `i` the only one of rdata `d`, removing it filters `d` out. -/
theorem eraseIdx_eq_filter_of_unique :
    ∀ (l : List Record) (i : Nat) (hi : i < l.length), l[i].rdata = d →
      (∀ (j : Nat) (hj : j < l.length), l[j].rdata = d → j = i) →
        l.eraseIdx i = l.filter (·.rdata != d)
  | x :: t, 0, _, hd, hu => by
    have ht : t.filter (·.rdata != d) = t := List.filter_eq_self.2 fun y hy => by
      obtain ⟨j, hj, rfl⟩ := List.mem_iff_getElem.1 hy
      simpa using fun h => Nat.succ_ne_zero j (hu (j + 1) (by simpa using hj) h)
    have hx : x.rdata = d := hd
    simp [hx, ht]
  | x :: t, i + 1, hi, hd, hu => by
    have hx : x.rdata ≠ d := fun h => Nat.succ_ne_zero i (hu 0 (by simp) h).symm
    have ih := eraseIdx_eq_filter_of_unique t i (by simpa using hi) hd
      fun j hj h => Nat.succ.inj (hu (j + 1) (by simpa using hj) h)
    simp [List.filter_cons, hx, ih]

/-- Removing the only index of rdata `d` filters `d` out. -/
theorem eraseIdx_eq_filter (l : List Record) (i : Nat) (hi : i < l.length) (hnd : RDataNodup l)
    (hd : l[i].rdata = d) : l.eraseIdx i = l.filter (·.rdata != d) :=
  eraseIdx_eq_filter_of_unique l i hi hd fun _ hj h => hnd.index_unique hi hj (h.trans hd.symm)

/-- Under uniqueness, a record with `r`'s rdata at `i` is `r` exactly when `r` is stored. -/
theorem getElem_eq_iff_mem {i : Nat} (hi : i < l.length) (hnd : RDataNodup l)
    (hd : l[i].rdata = r.rdata) : l[i] = r ↔ r ∈ l := by
  refine ⟨fun h => h ▸ List.getElem_mem _, fun h => ?_⟩
  obtain ⟨j, hj, rfl⟩ := List.mem_iff_getElem.1 h
  obtain rfl := hnd.index_unique hj hi hd
  rfl

/-! ## The loops -/

theorem insertLoop_single {i : Nat} (hi : i < s.records.length) :
    insertLoop r serial [i] false s =
      if s.records[i] = r then .ok (false, s)
      else .ok (true, { s with records := s.records.set i r, ttl := r.ttl }.updated serial) := by
  by_cases h : s.records[i] = r <;>
    simp [insertLoop, Vec.index_of_lt hi, Vec.swapRemove_push _ hi, h, bind, Except.bind,
      pure, Except.pure]

/-- **The insert loop is an upsert.** On distinct rdata, the loop over the matching
indices returns `false` on a stored duplicate and otherwise upserts. -/
theorem insertLoop_matching (hnd : RDataNodup l) :
    insertLoop r serial (matchingIndices l r.rdata) false { s with records := l } =
      if r ∈ l then .ok (false, { s with records := l })
      else .ok (true, { s with records := upsert l r, ttl := r.ttl }.updated serial) := by
  by_cases hm : ∃ x ∈ l, x.rdata = r.rdata
  · obtain ⟨x, hx, hxd⟩ := hm
    obtain ⟨i, hi, rfl⟩ := List.mem_iff_getElem.1 hx
    have hany : l.any (·.rdata == r.rdata) = true :=
      List.any_eq_true.2 ⟨_, hx, by simpa using hxd⟩
    rw [matchingIndices_eq_single hi hnd hxd, insertLoop_single hi, upsert, if_pos hany,
      ← set_eq_map l i hi hnd hxd]
    simp only [getElem_eq_iff_mem hi hnd hxd]
  · have hnil := matchingIndices_eq_nil (l := l) (d := r.rdata) fun x hx h => hm ⟨x, hx, h⟩
    have hr : r ∉ l := fun h => hm ⟨r, h, rfl⟩
    have hany : l.any (·.rdata == r.rdata) = false := by
      simpa using fun x hx h => hm ⟨x, hx, h⟩
    simp [hnil, hr, upsert, hany, insertLoop, pure, Except.pure]

theorem removeLoop_single {i : Nat} (hi : i < s.records.length) :
    removeLoop serial [i] false s =
      .ok (true, { s with records := s.records.eraseIdx i }.updated serial) := by
  simp [removeLoop, Vec.remove_of_lt hi, bind, Except.bind, pure, Except.pure]

/-! ## The replacement policy -/

theorem clearForType_of_ne (hs : r.rrType ≠ .SOA) (hc : r.rrType ≠ .CNAME) :
    s.clearForType r = .ok (some s.records) := by
  unfold clearForType; split <;> simp_all

theorem clearForType_cname (h : r.rrType = .CNAME) (hl : s.records.length ≤ 1) :
    s.clearForType r = .ok (some []) := by
  simp [clearForType, h, hl]

theorem clearForType_soa_nil (h : r.rrType = .SOA) (hl : s.records = []) :
    s.clearForType r = .ok (some []) := by
  simp [clearForType, h, hl]

/-- An SOA update against a stored SOA goes on only with a strictly greater serial. -/
theorem clearForType_soa_serial {x : Record} {e n : SOA} (h : r.rrType = .SOA)
    (hl : s.records = [x]) (hx : x.rdata = .SOA e) (hr : r.rdata = .SOA n) :
    s.clearForType r = .ok (if n.serial ≤ e.serial then none else some []) := by
  simp [clearForType, h, hl, hx, hr]

theorem clearForType_soa_malformed {x : Record} {e : SOA} (h : r.rrType = .SOA)
    (hl : s.records = [x]) (hx : x.rdata = .SOA e) (hr : ∀ n, r.rdata ≠ .SOA n) :
    s.clearForType r = .ok none := by
  simp [clearForType, h, hl, hx]

/-- A stored record without SOA rdata makes every SOA update panic. -/
theorem clearForType_soa_wrong {x : Record} (h : r.rrType = .SOA) (hl : s.records = [x])
    (hx : ∀ e, x.rdata ≠ .SOA e) : s.clearForType r = .error (.explicit "wrong rdata") := by
  simp [clearForType, h, hl]

/-- What the policy can leave: nothing for SOA and CNAME, all records otherwise. -/
theorem clearForType_some (h : s.clearForType r = .ok (some l)) :
    (l = [] ∧ (r.rrType = .SOA ∨ r.rrType = .CNAME)) ∨
      (l = s.records ∧ r.rrType ≠ .SOA ∧ r.rrType ≠ .CNAME) := by
  unfold clearForType at h
  split at h
  · rename_i hs
    obtain ⟨-, h⟩ := assert_bind_ok h
    split at h
    · cases h; simp [hs]
    · split at h
      · split at h <;> (try split at h) <;> simp_all
      · cases h
  · rename_i hc
    by_cases hl : s.records.length ≤ 1 <;> simp_all
  · cases h; simp_all

/-- What the policy leaves has distinct rdata when the records do. -/
theorem rdataNodup_of_clearForType (hnd : RDataNodup s.records)
    (hc : s.clearForType r = .ok (some l)) : RDataNodup l := by
  rcases clearForType_some hc with ⟨rfl, -⟩ | ⟨rfl, -⟩
  · simp [RDataNodup]
  · exact hnd

/-- With the singleton bound, the policy panics only on a stored SOA slot without SOA rdata. -/
theorem clearForType_error {p : Panic}
    (hl : r.rrType = .SOA ∨ r.rrType = .CNAME → s.records.length ≤ 1)
    (h : s.clearForType r = .error p) : p = .explicit "wrong rdata" := by
  unfold clearForType at h
  split at h
  · rename_i hs
    simp only [hl (.inl hs), decide_True, assert_true, ok_bind] at h
    split at h
    · cases h
    · split at h
      · split at h <;> cases h
      · cases h; rfl
  · rename_i hc
    simp [hl (.inr hc)] at h
  · cases h

/-! ## Insert -/

theorem insert_asserts {p : Bool × RecordSet} (h : s.insert r serial = .ok p) :
    r.name = s.name ∧ r.rrType = s.recordType := by
  obtain ⟨hn, h⟩ := assert_bind_ok h
  obtain ⟨ht, -⟩ := assert_bind_ok h
  exact ⟨by simpa using hn, by simpa using ht⟩

/-- A policy that goes on with distinct rdata makes `insert` an upsert, or a no-op on a
duplicate. -/
theorem insert_of_clearForType (hn : r.name = s.name) (ht : r.rrType = s.recordType)
    (hc : s.clearForType r = .ok (some l)) (hnd : RDataNodup l) :
    s.insert r serial = if r ∈ l then .ok (false, s)
      else .ok (true, { s with records := upsert l r, ttl := r.ttl }.updated serial) := by
  simp only [insert, hn, ht, beq_self_eq_true, assert_true, ok_bind, hc]
  rw [insertLoop_matching hnd]
  by_cases hr : r ∈ l
  · rcases clearForType_some hc with ⟨rfl, -⟩ | ⟨rfl, -⟩
    · simp at hr
    · simp [hr]
  · simp [hr]

theorem insert_of_clearForType_none (hn : r.name = s.name) (ht : r.rrType = s.recordType)
    (hc : s.clearForType r = .ok none) : s.insert r serial = .ok (false, s) := by
  simp only [insert, hn, ht, beq_self_eq_true, assert_true, ok_bind, hc, pure_eq_ok]

/-- **Everything a successful `insert` can do.** Under distinct rdata: the assertions held, and
either nothing changed and `false` was returned, or the records became the upsert of what the
policy left, the ttl that of the record, and the set was marked updated. -/
theorem insert_ok (hnd : RDataNodup s.records) (h : s.insert r serial = .ok (b, s')) :
    r.name = s.name ∧ r.rrType = s.recordType ∧
      ((b = false ∧ s' = s) ∨
        (b = true ∧ ∃ l, s.clearForType r = .ok (some l) ∧ r ∉ l ∧
          s' = { s with records := upsert l r, ttl := r.ttl }.updated serial)) := by
  obtain ⟨hn, ht⟩ := insert_asserts h
  refine ⟨hn, ht, ?_⟩
  match hc : s.clearForType r with
  | .error _ =>
    obtain ⟨_, hc', -⟩ := bind_eq_ok (assert_bind_ok (assert_bind_ok h).2).2
    rw [hc] at hc'; cases hc'
  | .ok none =>
    rw [insert_of_clearForType_none hn ht hc] at h
    cases h; exact .inl ⟨rfl, rfl⟩
  | .ok (some l) =>
    rw [insert_of_clearForType hn ht hc (rdataNodup_of_clearForType hnd hc)] at h
    by_cases hr : r ∈ l <;> simp only [hr, if_true, if_false, Except.ok.injEq, Prod.mk.injEq] at h
    · exact .inl ⟨h.1.symm, h.2.symm⟩
    · exact .inr ⟨h.1.symm, l, rfl, hr, h.2.symm⟩

theorem mem_upsert {x : Record} (h : x ∈ upsert l r) : x = r ∨ x ∈ l := by
  unfold upsert at h
  split at h
  · obtain ⟨y, hy, rfl⟩ := List.mem_map.1 h
    by_cases hd : y.rdata = r.rdata <;> simp [hd, hy]
  · simpa [or_comm] using h

theorem rdataNodup_upsert (hnd : RDataNodup l) : RDataNodup (upsert l r) := by
  unfold upsert
  split
  · rename_i hany
    have hmap : (l.map fun x => if x.rdata = r.rdata then r else x).map Record.rdata =
        l.map Record.rdata := by
      simp only [List.map_map]
      exact List.map_congr_left fun y _ => by by_cases hd : y.rdata = r.rdata <;> simp [hd]
    simpa [RDataNodup, hmap] using hnd
  · rename_i hany
    simpa [RDataNodup, List.nodup_append, List.mem_map] using
      ⟨hnd, fun y hy h => hany (List.any_eq_true.2 ⟨y, hy, by simpa using h⟩)⟩

@[simp] theorem upsert_nil : upsert [] r = [r] := rfl

theorem mem_upsert_self : r ∈ upsert l r := by
  unfold upsert
  split
  · rename_i hany
    obtain ⟨y, hy, hyd⟩ := List.any_eq_true.1 hany
    exact List.mem_map.2 ⟨y, hy, by simp_all⟩
  · simp

/-! ## Remove -/

theorem remove_asserts {p : Bool × RecordSet} (h : s.remove r serial = .ok p) :
    r.name = s.name ∧ (r.rrType = s.recordType ∨ r.rrType = .ANY) := by
  obtain ⟨hn, h⟩ := assert_bind_ok h
  obtain ⟨ht, -⟩ := assert_bind_ok h
  exact ⟨by simpa using hn, by simpa using ht⟩

/-- Under distinct rdata, an unrefused `remove` filters the argument's rdata out. -/
theorem remove_of_asserts (hn : r.name = s.name) (ht : r.rrType = s.recordType ∨ r.rrType = .ANY)
    (hnd : RDataNodup s.records) :
    s.remove r serial =
      if s.removeRefused r = false ∧ ∃ x ∈ s.records, x.rdata = r.rdata then
        .ok (true, { s with records := s.records.filter (·.rdata != r.rdata) }.updated serial)
      else .ok (false, s) := by
  have hb : (r.rrType == s.recordType || r.rrType == .ANY) = true := by simpa using ht
  by_cases hg : s.removeRefused r = true
  · simp [remove, hn, hb, hg]
  · by_cases hm : ∃ x ∈ s.records, x.rdata = r.rdata
    · obtain ⟨x, hx, hxd⟩ := hm
      obtain ⟨i, hi, rfl⟩ := List.mem_iff_getElem.1 hx
      simp [remove, hn, hb, hg, matchingIndices_eq_single hi hnd hxd, removeLoop_single hi,
        eraseIdx_eq_filter _ i hi hnd hxd,
        if_pos (⟨_, hx, hxd⟩ : ∃ x ∈ s.records, x.rdata = r.rdata)]
    · have hnil := matchingIndices_eq_nil (l := s.records) (d := r.rdata)
        fun x hx h => hm ⟨x, hx, h⟩
      simp [remove, hn, hb, hg, hnil, removeLoop, hm]

/-- **Everything a successful `remove` can do.** Under distinct rdata: the assertions held, and
either nothing changed and `false` was returned, or the guard let it through, a stored record
had the argument's rdata, and exactly the records of that rdata are gone. -/
theorem remove_ok (hnd : RDataNodup s.records) (h : s.remove r serial = .ok (b, s')) :
    r.name = s.name ∧ (r.rrType = s.recordType ∨ r.rrType = .ANY) ∧
      ((b = false ∧ s' = s) ∨
        (b = true ∧ s.removeRefused r = false ∧ (∃ x ∈ s.records, x.rdata = r.rdata) ∧
          s' = { s with records := s.records.filter (·.rdata != r.rdata) }.updated serial)) := by
  obtain ⟨hn, ht⟩ := remove_asserts h
  refine ⟨hn, ht, ?_⟩
  rw [remove_of_asserts hn ht hnd] at h
  split at h <;> simp only [Except.ok.injEq, Prod.mk.injEq] at h
  · exact .inr ⟨h.1.symm, by simp_all⟩
  · exact .inl ⟨h.1.symm, h.2.symm⟩

theorem rdataNodup_filter (p : Record → Bool) (hnd : RDataNodup l) : RDataNodup (l.filter p) :=
  hnd.sublist ((List.filter_sublist l).map _)

/-! ## Record synthesis -/

/-- A successful `new_record` passed its type check, ran `insert`, and found a stored record
with the rdata. -/
theorem newRecord_ok {x : Record} (h : s.newRecord d = .ok (x, s')) :
    s.recordType = d.toRecordType ∧
      (∃ b, s.insert ((Record.with s.name s.recordType s.ttl).setRdata d) 0 = .ok (b, s')) ∧
      x ∈ s'.records ∧ x.rdata = d := by
  obtain ⟨ht, h⟩ := assert_bind_ok h
  obtain ⟨⟨b, s''⟩, hi, h⟩ := bind_eq_ok h
  simp only at h
  split at h
  · rename_i y hy
    cases h
    exact ⟨by simpa using ht, ⟨b, hi⟩, List.mem_of_find?_eq_some hy,
      by simpa using List.find?_some hy⟩
  · cases h

/-- Past its type check, `new_record` is its `insert` followed by the lookup. -/
theorem newRecord_of_insert (hd : s.recordType = d.toRecordType)
    (hi : s.insert ((Record.with s.name s.recordType s.ttl).setRdata d) 0 = .ok (b, s')) :
    s.newRecord d = match s'.records.find? (·.rdata == d) with
      | some y => .ok (y, s')
      | none => .error (.expect "insert failed? 172") := by
  have ha : (s.recordType == d.toRecordType) = true := by simpa using hd
  simp only [RecordSet.newRecord, ha, assert_true, ok_bind, hi]
  rfl

end TrustDns.Rr.RecordSet
