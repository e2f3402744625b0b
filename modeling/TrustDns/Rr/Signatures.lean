import TrustDns.Rr.RecordSet

/-! # Signature selection in `get_records`

Without signatures, `get_records` is the records in order. With them, it
appends at most one RRSIG: among the stored signatures with SIG rdata of a
supported algorithm, one whose algorithm is maximal. `max_by_key` keeps the
last of equal keys: the element it returns is the one with no greater key
before it and only smaller keys after it, which pins the signature down. -/

namespace TrustDns.Rr.Signatures
open TrustDns.Rust RecordSet

variable {α : Type} (f : α → Algorithm)

/-- The fold of `max_by_key` returns its start or a later element, of a key no smaller than any. -/
theorem foldl_maxStep : ∀ (xs : List α) (m : α),
    (xs.foldl (Iter.maxStep f) m = m ∨ xs.foldl (Iter.maxStep f) m ∈ xs) ∧
      f m ≤ f (xs.foldl (Iter.maxStep f) m) ∧
      ∀ y ∈ xs, f y ≤ f (xs.foldl (Iter.maxStep f) m)
  | [], m => by simp [Algorithm.le_refl]
  | x :: xs, m => by
    rw [List.foldl_cons]
    by_cases h : f m ≤ f x
    · rw [Iter.maxStep, if_pos h]
      obtain ⟨hmem, hle, hall⟩ := foldl_maxStep xs x
      refine ⟨.inr ?_, Algorithm.le_trans h hle, List.forall_mem_cons.2 ⟨hle, hall⟩⟩
      rcases hmem with h' | h'
      · rw [h']; exact List.mem_cons_self _ _
      · exact List.mem_cons_of_mem _ h'
    · rw [Iter.maxStep, if_neg h]
      obtain ⟨hmem, hle, hall⟩ := foldl_maxStep xs m
      exact ⟨hmem.imp_right (List.mem_cons_of_mem _), hle,
        List.forall_mem_cons.2 ⟨Algorithm.le_trans (Algorithm.le_of_not_le h) hle, hall⟩⟩

/-- `max_by_key` returns an element of greatest key, and returns one exactly when the list is
not empty. -/
theorem maxByKey_spec (xs : List α) :
    ((Iter.maxByKey f xs).isSome ↔ xs ≠ []) ∧
      ∀ m, Iter.maxByKey f xs = some m → m ∈ xs ∧ ∀ y ∈ xs, f y ≤ f m := by
  cases xs with
  | nil => simp [Iter.maxByKey]
  | cons x xs =>
    refine ⟨by simp [Iter.maxByKey], fun m hm => ?_⟩
    simp only [Iter.maxByKey, Option.some.injEq] at hm
    obtain ⟨hmem, hle, hall⟩ := foldl_maxStep f xs x
    rw [hm] at hmem hle hall
    exact ⟨hmem.elim (fun h => h ▸ List.mem_cons_self _ _) (List.mem_cons_of_mem _),
      List.forall_mem_cons.2 ⟨hle, hall⟩⟩

/-- The predicate of the `filter`, read as a proposition. -/
theorem sigSupported_iff (S : SupportedAlgorithms) (x : Record) :
    sigSupported S x = true ↔
      ∃ rrsig, x.rdata = .SIG rrsig ∧ S.has rrsig.algorithm = true := by
  unfold sigSupported; split <;> simp_all

theorem sigAlgorithm_of_sig {x : Record} {rrsig : SIG} (h : x.rdata = .SIG rrsig) :
    sigAlgorithm x = rrsig.algorithm := by
  simp [sigAlgorithm, h]

/-- **Signature selection.** For every state and every set of supported algorithms, without
signatures `get_records` is the records in order; with them it is the records in order followed
by at most one element, present exactly when some stored signature has SIG rdata of a supported
algorithm, and then such a signature whose algorithm is at least that of every other. -/
theorem getRecords_spec (s : RecordSet) (S : SupportedAlgorithms) :
    s.getRecords false S = s.records ∧
    ∃ sig : Option Record, s.getRecords true S = s.records ++ sig.toList ∧
      (sig.isSome ↔
        ∃ x ∈ s.rrsigs, ∃ rrsig, x.rdata = .SIG rrsig ∧ S.has rrsig.algorithm) ∧
      ∀ x, sig = some x → x ∈ s.rrsigs ∧
        ∃ rrsig, x.rdata = .SIG rrsig ∧ S.has rrsig.algorithm ∧
          ∀ y ∈ s.rrsigs, ∀ sig', y.rdata = .SIG sig' → S.has sig'.algorithm →
            sig'.algorithm ≤ rrsig.algorithm := by
  refine ⟨rfl, Iter.maxByKey sigAlgorithm (s.rrsigs.filter (sigSupported S)), rfl, ?_,
    fun x hx => ?_⟩
  · rw [(maxByKey_spec sigAlgorithm _).1, Ne, List.filter_eq_nil_iff]
    simp [sigSupported_iff]
  · obtain ⟨hmem, hall⟩ := (maxByKey_spec sigAlgorithm _).2 x hx
    obtain ⟨hx, hsup⟩ := List.mem_filter.1 hmem
    obtain ⟨rrsig, hr, hs⟩ := (sigSupported_iff S x).1 hsup
    refine ⟨hx, rrsig, hr, hs, fun y hy sig' hy' hs' => ?_⟩
    have := hall y (List.mem_filter.2 ⟨hy, (sigSupported_iff S y).2 ⟨sig', hy', hs'⟩⟩)
    rwa [sigAlgorithm_of_sig hr, sigAlgorithm_of_sig hy'] at this

/-! ## Which signature: the last of the greatest -/

/-- Elements of smaller key after the running maximum leave it in place. -/
theorem foldl_maxStep_of_lt : ∀ {ys : List α} {m : α}, (∀ y ∈ ys, f y < f m) →
    ys.foldl (Iter.maxStep f) m = m
  | [], _, _ => rfl
  | y :: ys, m, h => by
    rw [List.foldl_cons, Iter.maxStep,
      if_neg (Algorithm.not_le_of_lt (h y (List.mem_cons_self _ _))),
      foldl_maxStep_of_lt fun y hy => h y (List.mem_cons_of_mem _ hy)]

/-- The fold of `max_by_key` returns an element with no greater key before it and only smaller
keys after it. -/
theorem foldl_maxStep_split : ∀ (xs : List α) (m : α), ∃ pre post,
    m :: xs = pre ++ xs.foldl (Iter.maxStep f) m :: post ∧
      (∀ y ∈ pre, f y ≤ f (xs.foldl (Iter.maxStep f) m)) ∧
      ∀ y ∈ post, f y < f (xs.foldl (Iter.maxStep f) m)
  | [], m => ⟨[], [], rfl, by simp, by simp⟩
  | x :: xs, m => by
    rw [List.foldl_cons]
    obtain ⟨pre, post, hsplit, hpre, hpost⟩ := foldl_maxStep_split xs (Iter.maxStep f m x)
    by_cases h : f m ≤ f x
    · rw [Iter.maxStep, if_pos h] at hsplit hpre hpost ⊢
      have hx := (foldl_maxStep f xs x).2.1
      exact ⟨m :: pre, post, by rw [hsplit]; rfl,
        List.forall_mem_cons.2 ⟨Algorithm.le_trans h hx, hpre⟩, hpost⟩
    · rw [Iter.maxStep, if_neg h] at hsplit hpre hpost ⊢
      have hlt := Algorithm.lt_of_not_le h
      generalize xs.foldl (Iter.maxStep f) m = r at hsplit hpre hpost ⊢
      cases pre with
      | nil =>
        obtain ⟨rfl, rfl⟩ := List.cons.inj hsplit
        exact ⟨[], x :: xs, rfl, by simp, List.forall_mem_cons.2 ⟨hlt, hpost⟩⟩
      | cons y pre =>
        obtain ⟨rfl, rfl⟩ := List.cons.inj hsplit
        have hm := hpre m (List.mem_cons_self _ _)
        refine ⟨m :: x :: pre, post, rfl, ?_, hpost⟩
        exact List.forall_mem_cons.2 ⟨hm, List.forall_mem_cons.2
          ⟨Algorithm.le_trans (Algorithm.le_of_not_le h) hm,
            fun z hz => hpre z (List.mem_cons_of_mem _ hz)⟩⟩

/-- `max_by_key` returns exactly the element with no greater key before it and only smaller keys
after it. -/
theorem maxByKey_eq_some_iff {xs : List α} {x : α} :
    Iter.maxByKey f xs = some x ↔ ∃ pre post, xs = pre ++ x :: post ∧
      (∀ y ∈ pre, f y ≤ f x) ∧ ∀ y ∈ post, f y < f x := by
  constructor
  · intro h
    cases xs with
    | nil => cases h
    | cons z zs =>
      simp only [Iter.maxByKey, Option.some.injEq] at h
      exact h ▸ foldl_maxStep_split f zs z
  · rintro ⟨pre, post, rfl, hpre, hpost⟩
    cases pre with
    | nil => simp [Iter.maxByKey, foldl_maxStep_of_lt f hpost]
    | cons z pre =>
      have hz : f (pre.foldl (Iter.maxStep f) z) ≤ f x := by
        rcases (foldl_maxStep f pre z).1 with h | h
        · rw [h]; exact hpre z (List.mem_cons_self _ _)
        · exact hpre _ (List.mem_cons_of_mem _ h)
      simp [Iter.maxByKey, List.foldl_append, Iter.maxStep, hz, foldl_maxStep_of_lt f hpost]

/-- **`get_records` returns the last signature of the greatest algorithm.** For every state and
every set of supported algorithms, `get_records(true, ..)` appends the signature `x` exactly when,
in the stored order of the supported signatures, no signature before `x` has a greater algorithm
and every one after it has a smaller one: of several signatures of the greatest algorithm, the
one stored last. -/
theorem getRecords_selects_last_maximal (s : RecordSet) (S : SupportedAlgorithms) (x : Record) :
    s.getRecords true S = s.records ++ [x] ↔
      ∃ pre post, s.rrsigs.filter (sigSupported S) = pre ++ x :: post ∧
        (∀ y ∈ pre, sigAlgorithm y ≤ sigAlgorithm x) ∧
        ∀ y ∈ post, sigAlgorithm y < sigAlgorithm x := by
  rw [← maxByKey_eq_some_iff]
  simp only [getRecords, if_true, List.append_cancel_left_eq]
  cases Iter.maxByKey sigAlgorithm (s.rrsigs.filter (sigSupported S)) <;> simp

end TrustDns.Rr.Signatures
