import Mathlib.Data.List.Basic

/-! # Panics, and the `Vec` and iterator methods the sources use

A call that panics does not return: every operation that can panic returns
`Except Panic`, and only an `.ok` result is a state the caller sees. The three
`Vec` methods are those of the standard library, with their bounds checks. -/

namespace TrustDns.Rust

/-- Why a call aborts. The strings are the source's own expressions and texts. -/
inductive Panic where
  /-- `assert!(cond)` or `assert_eq!(left, right)` with `cond` false. -/
  | assertion (cond : String)
  /-- An explicit `panic!(msg)`. -/
  | explicit (msg : String)
  /-- `Option::expect(msg)` on `None`. -/
  | expect (msg : String)
  /-- An index, `swap_remove` or `remove` at `index` on a vector of length `len`. -/
  | indexOutOfBounds (index len : Nat)
  deriving DecidableEq, Repr

/-- `assert!(cond)`, and `assert_eq!` with `cond` the equation. -/
def assert (cond : Bool) (text : String) : Except Panic Unit :=
  if cond then pure () else throw (.assertion text)

@[simp] theorem assert_true (text : String) : assert true text = .ok () := rfl

@[simp] theorem ok_bind {ε α β : Type} (a : α) (f : α → Except ε β) :
    (Except.ok a >>= f) = f a := rfl

@[simp] theorem error_bind {ε α β : Type} (e : ε) (f : α → Except ε β) :
    (Except.error e >>= f) = .error e := rfl

@[simp] theorem throw_eq_error {ε α : Type} (e : ε) : (throw e : Except ε α) = .error e := rfl

@[simp] theorem pure_eq_ok {ε α : Type} (a : α) : (pure a : Except ε α) = .ok a := rfl

@[simp] theorem assert_false (text : String) : assert false text = .error (.assertion text) := rfl

/-- `opt.expect(msg)`. -/
def expect {α : Type} (o : Option α) (msg : String) : Except Panic α :=
  match o with
  | some a => pure a
  | none => throw (.expect msg)

@[simp] theorem expect_some {α : Type} (a : α) (msg : String) : expect (some a) msg = .ok a := rfl

@[simp] theorem expect_none {α : Type} (msg : String) :
    expect (none : Option α) msg = .error (.expect msg) := rfl

/-- A successful `assert!(c); rest` passed its check, and `rest` succeeded. -/
theorem assert_bind_ok {α : Type} {c : Bool} {text : String} {f : Unit → Except Panic α}
    {a : α}    (h : (assert c text >>= f) = .ok a) : c = true ∧ f () = .ok a := by
  cases c
  · cases h
  · exact ⟨rfl, h⟩

/-- A successful `let a ← x; rest` ran `x` to some `a`, and `rest` succeeded on it. -/
theorem bind_eq_ok {ε α β : Type} {x : Except ε α} {f : α → Except ε β} {b : β}
    (h : (x >>= f) = .ok b) : ∃ a, x = .ok a ∧ f a = .ok b := by
  cases x with
  | error e => cases h
  | ok a => exact ⟨a, rfl, h⟩

/-- A successful `f(x)` whose result is then projected was itself successful. -/
theorem map_snd_eq_ok {ε α β : Type} {x : Except ε (α × β)} {b : β}
    (h : (Prod.snd <$> x) = .ok b) :
    ∃ a, x = .ok (a, b) := by
  cases x with
  | error e => cases h
  | ok p => cases h; exact ⟨p.1, rfl⟩

namespace Vec

variable {α : Type}

/-- `v[i]`. -/
def index (v : List α) (i : Nat) : Except Panic α :=
  match v[i]? with
  | some x => pure x
  | none => throw (.indexOutOfBounds i v.length)

/-- `v.swap_remove(i)`: the element at `i` is replaced by the last one, which is popped. -/
def swapRemove (v : List α) (i : Nat) : Except Panic (List α) :=
  match v.getLast? with
  | some last =>
    if i < v.length then pure (v.set i last).dropLast else throw (.indexOutOfBounds i v.length)
  | none => throw (.indexOutOfBounds i v.length)

/-- `v.remove(i)`: the elements after `i` shift left by one. -/
def remove (v : List α) (i : Nat) : Except Panic (List α) :=
  if i < v.length then pure (v.eraseIdx i) else throw (.indexOutOfBounds i v.length)

theorem index_of_lt {v : List α} {i : Nat} (h : i < v.length) : index v i = .ok v[i] := by
  simp [index, List.getElem?_eq_getElem h]

/-- `push` then `swap_remove(i)` writes the pushed element at `i`. -/
theorem swapRemove_push {v : List α} {i : Nat} (x : α) (h : i < v.length) :
    swapRemove (v ++ [x]) i = .ok (v.set i x) := by
  simp [swapRemove, h, Nat.lt_succ_of_lt h, List.set_append_left _ _ h]

theorem remove_of_lt {v : List α} {i : Nat} (h : i < v.length) :
    remove v i = .ok (v.eraseIdx i) := by
  simp [remove, h]

theorem remove_eq_ok {v w : List α} {i : Nat} (h : remove v i = .ok w) :
    i < v.length ∧ w = v.eraseIdx i := by
  unfold remove at h
  split at h
  · cases h; exact ⟨‹_›, rfl⟩
  · cases h

end Vec

namespace Iter

variable {α β : Type} [LE β] [DecidableRel (α := β) (· ≤ ·)]

/-- One step of `max_by`: the later element wins a tie. -/
def maxStep (f : α → β) (m y : α) : α := if f m ≤ f y then y else m

/-- `iter.max_by_key(f)`: an element of greatest key, the last of them on a tie. -/
def maxByKey (f : α → β) : List α → Option α
  | [] => none
  | x :: xs => some (xs.foldl (maxStep f) x)

end Iter

end TrustDns.Rust
