import TrustDns.Tcp.Exchange

/-! # The request does not reach the answer

The readable branch reads whatever frame the socket holds first; the source
leaves checking it against the request as a TODO ("perhaps parse the response
in here, so that the client could ignore messages with the wrong serial
number"). The request enters an exchange only through the bytes it writes, and
how far a write gets depends on the socket and the request's length alone. So
two exchanges of requests of one length that have read and recorded the same
stay so over every tick, and `send` returns the same to both requests. -/

namespace TrustDns.Tcp.Matching
open TrustDns.Rust Response EventLoop

/-! ## The socket without the bytes written -/

/-- The socket as later calls see it: everything but the bytes written. -/
def view (s : TcpStream) : Nat × List UInt8 × Bool × Option IoError :=
  (s.room, s.inbox, s.closed, s.fault)

variable {s₁ s₂ : TcpStream}

/-- Two sockets with one view differ in the bytes written only. -/
theorem eq_of_view (hs : view s₁ = view s₂) : s₂ = { s₁ with sent := s₂.sent } := by
  obtain ⟨_, _, _, _, _⟩ := s₁
  obtain ⟨_, _, _, _, _⟩ := s₂
  simp only [view, Prod.mk.injEq] at hs
  obtain ⟨rfl, rfl, rfl, rfl⟩ := hs
  rfl

/-- `write_all` gets as far on sockets with one view for buffers of one length. -/
theorem writeAll_view (hs : view s₁ = view s₂) {b₁ b₂ : List UInt8}
    (hb : b₁.length = b₂.length) :
    view (s₁.writeAll b₁).1 = view (s₂.writeAll b₂).1 ∧
      (s₁.writeAll b₁).2 = (s₂.writeAll b₂).2 := by
  rw [eq_of_view hs]
  generalize s₂.sent = l
  have hnil : b₁ = [] ↔ b₂ = [] := by rw [← List.length_eq_zero, hb, List.length_eq_zero]
  by_cases h₀ : b₁ = []
  · simp [TcpStream.writeAll, h₀, hnil.1 h₀, view]
  obtain ⟨_, room, _, _, _ | e⟩ := s₁
  · by_cases hle : b₁.length ≤ room <;>
      simp [TcpStream.writeAll, h₀, mt hnil.2 h₀, hle, ← hb, view]
  · simp [TcpStream.writeAll, h₀, mt hnil.2 h₀, view]

/-- A read does not look at the bytes written. -/
theorem read_view (hs : view s₁ = view s₂) (n : Nat) :
    view (s₁.read n).1 = view (s₂.read n).1 ∧ (s₁.read n).2 = (s₂.read n).2 := by
  rw [eq_of_view hs]
  obtain ⟨_, _, _ | _, _, _ | _⟩ := s₁ <;> simp [TcpStream.read, view]

/-- Nor does `read_to_end`. -/
theorem readToEnd_view (hs : view s₁ = view s₂) (n : Nat) :
    view (s₁.readToEnd n).1 = view (s₂.readToEnd n).1 ∧
      (s₁.readToEnd n).2 = (s₂.readToEnd n).2 := by
  rw [eq_of_view hs]
  obtain ⟨_, _, _, _, _ | _⟩ := s₁ <;> by_cases hn : n = 0 <;>
    simp [TcpStream.readToEnd, hn, view]; split_ifs <;> simp

/-! ## One exchange -/

/-- What an exchange has read and recorded, and what its writes depend on: the answer, the error,
the request's length and the socket's view; not the request's bytes, nor the bytes written. -/
def observe (h : Response) :
    Option (List UInt8) × Option ClientError × Nat × (Nat × List UInt8 × Bool × Option IoError) :=
  (h.buf, h.error, h.message.length, view h.stream)

variable {h₁ h₂ : Response}

/-- The readable branch, on two exchanges that observe the same. -/
theorem ready_readable_observe (ho : observe h₁ = observe h₂) (el : EventLoop) {ev : EventSet}
    (hw : ev.writable = false) (hr : ev.readable = true) :
    observe (h₁.ready el RESPONSE ev).1 = observe (h₂.ready el RESPONSE ev).1 ∧
      (h₁.ready el RESPONSE ev).2 = (h₂.ready el RESPONSE ev).2 := by
  simp only [observe, Prod.mk.injEq] at ho
  obtain ⟨hb, he, hm, hs⟩ := ho
  obtain ⟨hs₂, hr₂⟩ := read_view hs 2
  simp only [ready, if_pos rfl, hw, hr, Bool.false_eq_true, if_false, if_true]
  generalize h₁.stream.read 2 = p₁ at hs₂ hr₂ ⊢
  generalize h₂.stream.read 2 = p₂ at hs₂ hr₂ ⊢
  obtain ⟨t₁, r₁⟩ := p₁
  obtain ⟨t₂, r₂⟩ := p₂
  dsimp only at hs₂ hr₂
  subst hr₂
  rcases r₁ with e | lenRead
  · simp [observe, hb, hm, hs₂]
  dsimp only
  split_ifs
  · simp [observe, hb, hm, hs₂]
  obtain ⟨hs₃, hr₃⟩ := readToEnd_view hs₂ (decodeLen (lenRead.getD 0 0) (lenRead.getD 1 0)).toNat
  generalize t₁.readToEnd (decodeLen (lenRead.getD 0 0) (lenRead.getD 1 0)).toNat = p₁ at hs₃ hr₃ ⊢
  generalize t₂.readToEnd (decodeLen (lenRead.getD 0 0) (lenRead.getD 1 0)).toNat = p₂ at hs₃ hr₃ ⊢
  obtain ⟨u₁, q₁⟩ := p₁
  obtain ⟨u₂, q₂⟩ := p₂
  dsimp only at hs₃ hr₃
  subst hr₃
  rcases q₁ with e | buf
  · simp [observe, hb, hm, hs₃]
  dsimp only
  split_ifs <;> simp [observe, he, hm, hs₃, hb]

/-- `ready` reads and records the same, and leaves the loop the same, on two exchanges that
observe the same. -/
theorem ready_observe (ho : observe h₁ = observe h₂) (el : EventLoop) (token : Token)
    (ev : EventSet) :
    observe (h₁.ready el token ev).1 = observe (h₂.ready el token ev).1 ∧
      (h₁.ready el token ev).2 = (h₂.ready el token ev).2 := by
  by_cases ht : token = RESPONSE
  swap
  · simp only [observe, Prod.mk.injEq] at ho
    simp [ready, ht, observe, ho]
  subst ht
  cases hw : ev.writable
  · cases hr : ev.readable
    · simp only [observe, Prod.mk.injEq] at ho
      rw [ready_idle hw hr, ready_idle hw hr]
      split <;> simp [observe, ho]
    · exact ready_readable_observe ho el hw hr
  · simp only [observe, Prod.mk.injEq] at ho
    obtain ⟨hb, -, hm, hs⟩ := ho
    obtain ⟨hs', hr'⟩ := writeAll_view hs
      (show (frame h₁.message).length = (frame h₂.message).length by simp [hm])
    rw [ready_writable hw, ready_writable hw]
    simp [observe, hb, hm, hs', hr']

/-- One tick of the loop, read through `observe`. -/
def observeStep : Except IoError (Response × EventLoop) →
    Except IoError ((Option (List UInt8) × Option ClientError × Nat ×
      (Nat × List UInt8 × Bool × Option IoError)) × EventLoop) :=
  Except.map fun (h, el) => (observe h, el)

theorem step_observe (ho : observe h₁ = observe h₂) (el : EventLoop) (t : Tick) :
    observeStep (el.step h₁ t) = observeStep (el.step h₂ t) := by
  cases t with
  | poll events expired =>
    obtain ⟨ho', hel⟩ := ready_observe ho (el.fire (el.report events)) RESPONSE (el.report events)
    simp only [observe, Prod.mk.injEq] at ho'
    simp only [EventLoop.step, runOnce]
    revert ho' hel
    rcases h₁.ready (el.fire (el.report events)) RESPONSE (el.report events) with ⟨k₁, l₁⟩
    rcases h₂.ready (el.fire (el.report events)) RESPONSE (el.report events) with ⟨k₂, l₂⟩
    rintro rfl ⟨hb', he', hm', hs'⟩
    dsimp only at hb' he' hm' hs'
    split <;> simp [observeStep, Except.map, observe, Response.timeout, hb', he', hm', hs']
  | pollError e => rfl
  | recv bytes | drain n | finish | reset e =>
    simp only [observe, view, Prod.mk.injEq] at ho
    simp [observeStep, Except.map, EventLoop.step, observe, view, TcpStream.recv, TcpStream.drain,
      TcpStream.finish, TcpStream.reset, ho]

/-- A run of the loop read through `observe`. -/
def observeRun : Option (Except IoError Unit × Response × EventLoop) →
    Option (Except IoError Unit × (Option (List UInt8) × Option ClientError × Nat ×
      (Nat × List UInt8 × Bool × Option IoError)) × EventLoop) :=
  Option.map fun (r, h, el) => (r, observe h, el)

/-- Two exchanges that observe the same run the loop to results that agree on it, over every
sequence of ticks. -/
theorem loop_observe : ∀ (ticks : List Tick) (el : EventLoop) {h₁ h₂ : Response},
    observe h₁ = observe h₂ → observeRun (loop el h₁ ticks) = observeRun (loop el h₂ ticks)
  | [], _, _, _, _ => rfl
  | t :: ticks, el, h₁, h₂, ho => by
    have hs := step_observe ho el t
    simp only [loop]
    revert hs
    rcases el.step h₁ t with e₁ | ⟨k₁, l₁⟩ <;> rcases el.step h₂ t with e₂ | ⟨k₂, l₂⟩ <;>
      simp only [observeStep, Except.map, Except.error.injEq, Except.ok.injEq, Prod.mk.injEq,
        reduceCtorEq, false_implies]
    · rintro rfl; simp [observeRun, ho]
    · rintro ⟨ho', rfl⟩
      split
      · exact loop_observe ticks l₁ ho'
      · simp [observeRun, ho']

/-! ## `send` -/

/-- What `send` lets its caller see: the result, the event loop, and the view of the socket put
back; not the bytes written. -/
def seen (r : Except ClientError (List UInt8) × TcpClientConnection) :
    Except ClientError (List UInt8) × EventLoop ×
      Option (Nat × List UInt8 × Bool × Option IoError) :=
  (r.1, r.2.eventLoop, r.2.socket.map view)

/-- **An answer is not matched to its request.** For every connection, every exchange the OS
runs and every two requests of one length, `send` returns the same result, leaves the same event
loop, and puts back a socket the same but for the bytes written, or none in both cases. An answer
returned to one request is returned to any other of its length: the client cannot tell an answer
to its request from a stale one. -/
theorem send_independent_of_request (conn : TcpClientConnection) (os : Exchange)
    {buffer buffer' : List UInt8} (hlen : buffer.length = buffer'.length) :
    (conn.send buffer os).map (Except.map seen) = (conn.send buffer' os).map (Except.map seen) := by
  unfold TcpClientConnection.send
  rcases hs : conn.socket with _ | stream
  · rfl
  rcases hr : os.reregister with e | ⟨⟩
  · rfl
  simp only [expect_some, Option.map_map, EventLoop.run]
  have hl := loop_observe os.ticks { conn.eventLoop.reregister with running := true }
    (show observe (Response.new buffer stream) = observe (Response.new buffer' stream) by
      simp [observe, hlen])
  generalize loop _ (Response.new buffer stream) os.ticks = o₁ at hl ⊢
  generalize loop _ (Response.new buffer' stream) os.ticks = o₂ at hl ⊢
  rcases o₁ with _ | ⟨r₁, k₁, l₁⟩ <;> rcases o₂ with _ | ⟨r₂, k₂, l₂⟩ <;>
    simp only [observeRun, Option.map_none', Option.map_some', Option.some.injEq, Prod.mk.injEq,
      observe, reduceCtorEq] at hl ⊢
  obtain ⟨rfl, ⟨hb, he, -, hv⟩, rfl⟩ := hl
  rcases r₁ with e | ⟨⟨⟩⟩
  · rfl
  simp only [Function.comp, he, hb]
  rcases k₂.error with _ | e <;> rcases k₂.buf with _ | buf <;> simp [seen, Except.map, hv]

/-- Two requests of one length, `[7]` and `[8]`, on the exchange that answers `[9]`. -/
theorem send_independent_of_request_answered :
    ([7] : List UInt8).length = [8].length ∧
      (Exchange.idleConn.send [7] ⟨.ok (), Exchange.answeredTicks⟩).map (Except.map seen) =
        (Exchange.idleConn.send [8] ⟨.ok (), Exchange.answeredTicks⟩).map (Except.map seen) :=
  ⟨rfl, send_independent_of_request _ _ rfl⟩

end TrustDns.Tcp.Matching
