import TrustDns.Rust.Core

/-! # The TCP client connection

`tcp_client_connection.rs` sends one DNS message, framed by a two-byte length,
over a non-blocking socket driven by a mio 0.5 event loop, and waits for the
framed answer. The socket, the kernel and the event loop belong to other
crates: they are modelled by what the handler observes of them. The socket is
the bytes written, the room left in the send buffer, the bytes waiting, whether
the peer has closed, and the error of a failed connection. The event loop is
its run flag, the two filters of the socket's oneshot registration and the
timer `new` arms once. While it runs the OS delivers ticks: one `run_once` (the
socket's event, then the timer if it expired), a failed poll, or a change of
the socket. A statement over every tick list is one over every exchange. -/

namespace TrustDns.Tcp
open TrustDns.Rust

/-! ## The OS side -/

/-- `std::io::Error`, which the handler only passes on. `WouldBlock` is told apart: a
non-blocking socket returns it when a call would wait. -/
inductive IoError where
  | wouldBlock
  | os (code : Nat)
  deriving DecidableEq, Repr

/-- Modelled from the spec: `ClientError` of the crate's error module, with the variants
this file constructs. -/
inductive ClientError where
  /-- An `io::Error`, converted by `From` (`try!`, `.into()`). -/
  | io (e : IoError)
  | notAllBytesReceived (received expect : Nat)
  | noDataReceived
  | timedOut
  | timerError
  deriving DecidableEq, Repr

/-- `result.err().map(|o| o.into())`: the handler's error after a call. -/
def intoError : Except IoError Unit → Option ClientError
  | .ok () => none
  | .error e => some (.io e)

/-- `mio::Token`. -/
structure Token where
  val : Nat
  deriving DecidableEq, Repr

/-- The only token the connection registers. -/
def RESPONSE : Token := ⟨0⟩

/-- `mio::EventSet`: the readiness kinds a poll reports for a token. -/
structure EventSet where
  readable : Bool
  writable : Bool
  error : Bool
  hup : Bool
  deriving DecidableEq, Repr

/-- `mio::tcp::TcpStream` as the handler observes it: the bytes written to the peer, the room
left in the send buffer, the bytes from the peer not read yet, whether the peer has closed its
side, and the error every call returns once the connection failed. -/
structure TcpStream where
  sent : List UInt8
  room : Nat
  inbox : List UInt8
  closed : Bool
  fault : Option IoError
  deriving DecidableEq, Repr

namespace TcpStream

/-- `write_all(bytes)`: `write` calls until every byte is out, each taking what the send
buffer has room for. Once it is full a call fails with `WouldBlock`, and `write_all` returns
that error with a prefix written. An empty buffer needs no call. -/
def writeAll (s : TcpStream) (bytes : List UInt8) : TcpStream × Except IoError Unit :=
  if bytes = [] then (s, .ok ())
  else
    match s.fault with
    | some e => (s, .error e)
    | none =>
      if bytes.length ≤ s.room then
        ({ s with sent := s.sent ++ bytes, room := s.room - bytes.length }, .ok ())
      else ({ s with sent := s.sent ++ bytes.take s.room, room := 0 }, .error .wouldBlock)

/-- `flush()`: a TCP stream buffers nothing itself, and its `flush` returns `Ok(())`. -/
def flush (_s : TcpStream) : Except IoError Unit := .ok ()

/-- `take(n).read(buf)` into a buffer of `n > 0` bytes: one `read` call. It takes up to `n`
waiting bytes; with none waiting it returns no byte once the peer has closed, and fails with
`WouldBlock` before. -/
def read (s : TcpStream) (n : Nat) : TcpStream × Except IoError (List UInt8) :=
  match s.fault with
  | some e => (s, .error e)
  | none =>
    match s.inbox with
    | [] => (s, if s.closed then .ok [] else .error .wouldBlock)
    | inbox => ({ s with inbox := inbox.drop n }, .ok (inbox.take n))

/-- `take(n).read_to_end(buf)`: `read` calls until `n` bytes are in or the peer has closed. A
call that fails ends it with that error, `WouldBlock` when the bytes have not all arrived, and
the bytes taken are lost. With `n = 0` the limit ends it at once. -/
def readToEnd (s : TcpStream) (n : Nat) : TcpStream × Except IoError (List UInt8) :=
  if n = 0 then (s, .ok [])
  else
    match s.fault with
    | some e => (s, .error e)
    | none =>
      let s' := { s with inbox := s.inbox.drop n }
      if n ≤ s.inbox.length ∨ s.closed then (s', .ok (s.inbox.take n))
      else (s', .error .wouldBlock)

/-- Bytes from the peer reach the socket. -/
def recv (s : TcpStream) (bytes : List UInt8) : TcpStream := { s with inbox := s.inbox ++ bytes }

/-- The peer acknowledges `n` bytes, which leave the send buffer. -/
def drain (s : TcpStream) (n : Nat) : TcpStream := { s with room := s.room + n }

/-- The peer closes its side. -/
def finish (s : TcpStream) : TcpStream := { s with closed := true }

/-- The connection fails with `e`. -/
def reset (s : TcpStream) (e : IoError) : TcpStream := { s with fault := some e }

variable {s : TcpStream} {bytes : List UInt8} {n : Nat} {e : IoError}

@[simp] theorem writeAll_nil (s : TcpStream) : s.writeAll [] = (s, .ok ()) := by
  simp [writeAll]

theorem writeAll_of_fault (hb : bytes ≠ []) (h : s.fault = some e) :
    s.writeAll bytes = (s, .error e) := by
  simp [writeAll, hb, h]

theorem writeAll_of_le (hf : s.fault = none) (hb : bytes.length ≤ s.room) :
    s.writeAll bytes =
      ({ s with sent := s.sent ++ bytes, room := s.room - bytes.length }, .ok ()) := by
  by_cases he : bytes = []
  · subst he; simp
  · simp [writeAll, he, hf, hb]

theorem writeAll_of_lt (hf : s.fault = none) (hb : s.room < bytes.length) :
    s.writeAll bytes =
      ({ s with sent := s.sent ++ bytes.take s.room, room := 0 }, .error .wouldBlock) := by
  have he : bytes ≠ [] := by rintro rfl; simp at hb
  simp [writeAll, he, hf, Nat.not_le.2 hb]

/-- `write_all` writes a prefix of the buffer, all of it when it returns `Ok`, and changes
nothing else but the room. -/
theorem writeAll_prefix (s : TcpStream) (bytes : List UInt8) :
    ∃ k, (s.writeAll bytes).1 = { s with sent := s.sent ++ bytes.take k, room := s.room - k } ∧
      ((s.writeAll bytes).2 = .ok () → bytes.take k = bytes) := by
  by_cases hb : bytes = []
  · exact ⟨0, by simp [hb], by simp [hb]⟩
  rcases hf : s.fault with _ | e
  · by_cases hle : bytes.length ≤ s.room
    · exact ⟨bytes.length, by rw [writeAll_of_le hf hle]; simp [hf], by simp⟩
    · rw [writeAll_of_lt hf (Nat.lt_of_not_le hle)]
      exact ⟨s.room, by simp [hf], nofun⟩
  · rw [writeAll_of_fault hb hf]
    exact ⟨0, by cases s; cases hf; simp, nofun⟩

/-- Writing two buffers one after the other, up to the first error, is writing them as one. -/
theorem writeAll_append (s : TcpStream) (a b : List UInt8) :
    s.writeAll (a ++ b) = match s.writeAll a with
      | (s, .ok ()) => s.writeAll b
      | r => r := by
  by_cases ha : a = []
  · subst ha; simp
  rcases hf : s.fault with _ | e
  · by_cases hle : a.length ≤ s.room
    · rw [writeAll_of_le hf hle]
      dsimp only
      by_cases hb : b.length ≤ s.room - a.length
      · have hab : (a ++ b).length ≤ s.room := by simp; omega
        rw [writeAll_of_le hf hab,
          writeAll_of_le (s := { s with sent := s.sent ++ a, room := s.room - a.length }) hf hb]
        simp [Nat.sub_sub]
      · have hab : s.room < (a ++ b).length := by simp; omega
        rw [writeAll_of_lt hf hab,
          writeAll_of_lt (s := { s with sent := s.sent ++ a, room := s.room - a.length }) hf
            (show s.room - a.length < b.length by omega),
          List.take_append_eq_append_take, List.take_of_length_le hle]
        simp
    · have hab : s.room < (a ++ b).length := by simp; omega
      rw [writeAll_of_lt hf hab, writeAll_of_lt hf (Nat.lt_of_not_le hle),
        List.take_append_of_le_length (by omega)]
  · rw [writeAll_of_fault (by simp [ha]) hf, writeAll_of_fault ha hf]

/-- A read either fails and takes nothing, or takes the first `n` waiting bytes. -/
theorem read_cases (s : TcpStream) (n : Nat) :
    (∃ e, s.read n = (s, .error e)) ∨
      (s.fault = none ∧ s.read n = ({ s with inbox := s.inbox.drop n }, .ok (s.inbox.take n))) := by
  obtain ⟨sent, room, _ | ⟨b, bs⟩, _ | _, _ | e⟩ := s <;> simp [read]

/-- `read_to_end` either fails, having taken up to `n` bytes, or takes the first `n` waiting
bytes (all of them once the peer has closed). -/
theorem readToEnd_cases (s : TcpStream) (n : Nat) :
    (∃ k e, s.readToEnd n = ({ s with inbox := s.inbox.drop k }, .error e)) ∨
      s.readToEnd n = ({ s with inbox := s.inbox.drop n }, .ok (s.inbox.take n)) := by
  by_cases hn : n = 0
  · subst hn; exact .inr (by simp [readToEnd])
  obtain ⟨sent, room, inbox, closed, _ | e⟩ := s
  · by_cases hc : n ≤ inbox.length ∨ closed
    · exact .inr (by simp only [readToEnd, hn, if_pos hc, if_false])
    · exact .inl ⟨n, .wouldBlock, by simp only [readToEnd, hn, if_neg hc, if_false]⟩
  · exact .inl ⟨0, e, by simp [readToEnd, hn]⟩

@[simp] theorem recv_sent : (s.recv bytes).sent = s.sent := rfl
@[simp] theorem recv_inbox : (s.recv bytes).inbox = s.inbox ++ bytes := rfl
@[simp] theorem recv_fault : (s.recv bytes).fault = s.fault := rfl
@[simp] theorem drain_sent : (s.drain n).sent = s.sent := rfl
@[simp] theorem drain_inbox : (s.drain n).inbox = s.inbox := rfl
@[simp] theorem drain_fault : (s.drain n).fault = s.fault := rfl
@[simp] theorem finish_sent : s.finish.sent = s.sent := rfl
@[simp] theorem finish_inbox : s.finish.inbox = s.inbox := rfl
@[simp] theorem finish_fault : s.finish.fault = s.fault := rfl
@[simp] theorem reset_sent : (s.reset e).sent = s.sent := rfl
@[simp] theorem reset_inbox : (s.reset e).inbox = s.inbox := rfl
@[simp] theorem reset_fault : (s.reset e).fault = some e := rfl

end TcpStream

/-- `mio::EventLoop<Response>` as the connection uses it: whether `run` goes on, which filters
of the socket's oneshot registration are armed (each fires once, then waits for the next
`reregister`), and whether the timer `new` armed is still pending. -/
structure EventLoop where
  running : Bool
  readArmed : Bool
  writeArmed : Bool
  timer : Bool
  deriving DecidableEq, Repr

namespace EventLoop

/-- `EventLoop::new()`: not running, nothing registered, no timer. -/
def new : EventLoop := ⟨false, false, false, false⟩

/-- `timeout_ms((), 5000)`: the timer is pending. -/
def timeoutMs (el : EventLoop) : EventLoop := { el with timer := true }

/-- `reregister(socket, RESPONSE, EventSet::all(), PollOpt::all())`, accepted: both filters
are armed, oneshot. -/
def reregister (el : EventLoop) : EventLoop := { el with readArmed := true, writeArmed := true }

/-- `event_loop.shutdown()`: `run` returns after the current iteration. -/
def shutdown (el : EventLoop) : EventLoop := { el with running := false }

/-- The event a poll reports for the socket when the OS has `events` for it: readiness of an
armed filter only, and an error or hang-up only while a filter is armed. -/
def report (el : EventLoop) (events : EventSet) : EventSet :=
  { readable := events.readable && el.readArmed, writable := events.writable && el.writeArmed,
    error := events.error && (el.readArmed || el.writeArmed),
    hup := events.hup && (el.readArmed || el.writeArmed) }

/-- The oneshot filters that fired are disabled. -/
def fire (el : EventLoop) (events : EventSet) : EventLoop :=
  { el with readArmed := el.readArmed && !events.readable,
            writeArmed := el.writeArmed && !events.writable }

variable {el : EventLoop} {events : EventSet}

@[simp] theorem shutdown_running : el.shutdown.running = false := rfl
@[simp] theorem shutdown_readArmed : el.shutdown.readArmed = el.readArmed := rfl
@[simp] theorem shutdown_writeArmed : el.shutdown.writeArmed = el.writeArmed := rfl
@[simp] theorem shutdown_timer : el.shutdown.timer = el.timer := rfl
@[simp] theorem fire_running : (el.fire events).running = el.running := rfl
@[simp] theorem fire_timer : (el.fire events).timer = el.timer := rfl
@[simp] theorem fire_readArmed :
    (el.fire events).readArmed = (el.readArmed && !events.readable) := rfl
@[simp] theorem fire_writeArmed :
    (el.fire events).writeArmed = (el.writeArmed && !events.writable) := rfl

end EventLoop

/-! ## The handler -/

/-- The handler's progress. `WillRead` is commented out in the source. -/
inductive ClientState where
  | WillWrite
  deriving DecidableEq, Repr

/-- The state of one exchange: the message to send, the answer once read, the error once
one occurred, and the socket, moved in for the exchange. -/
structure Response where
  state : ClientState
  message : List UInt8
  buf : Option (List UInt8)
  error : Option ClientError
  stream : TcpStream
  deriving DecidableEq, Repr

/-- The two length bytes of the writable branch: `[len >> 8 & 0xFF, len & 0xFF]` as `u8`. -/
def lenBytes (len : Nat) : List UInt8 :=
  [UInt8.ofNat (len >>> 8 &&& 0xFF), UInt8.ofNat (len &&& 0xFF)]

/-- The length the readable branch decodes: `(b0 as u16) << 8 & 0xFF00 | b1 as u16 & 0x00FF`. -/
def decodeLen (b0 b1 : UInt8) : UInt16 :=
  (b0.toUInt16 <<< 8 &&& 0xFF00) ||| (b1.toUInt16 &&& 0x00FF)

/-- The framed message: two length bytes, then the message. -/
def frame (message : List UInt8) : List UInt8 := lenBytes message.length ++ message

@[simp] theorem length_frame (message : List UInt8) :
    (frame message).length = message.length + 2 := by
  simp [frame, lenBytes]

theorem frame_ne_nil (message : List UInt8) : frame message ≠ [] := by
  simp [frame, lenBytes]

namespace Response

def new (message : List UInt8) (stream : TcpStream) : Response :=
  { state := .WillWrite, message, buf := none, error := none, stream }

@[simp] theorem new_message (message : List UInt8) (stream : TcpStream) :
    (new message stream).message = message := rfl
@[simp] theorem new_stream (message : List UInt8) (stream : TcpStream) :
    (new message stream).stream = stream := rfl
@[simp] theorem new_buf (message : List UInt8) (stream : TcpStream) :
    (new message stream).buf = none := rfl
@[simp] theorem new_error (message : List UInt8) (stream : TcpStream) :
    (new message stream).error = none := rfl

/-- `Handler::ready`. A writable event writes the length bytes and the message; otherwise a
readable one reads a length and that many bytes, records them and shuts the loop down;
otherwise an error or hang-up records `NoDataReceived` and shuts it down. -/
def ready (self : Response) (el : EventLoop) (token : Token) (events : EventSet) :
    Response × EventLoop :=
  if token = RESPONSE then
    if events.writable then
      let (stream, written) := self.stream.writeAll (lenBytes self.message.length)
      let (stream, written) := match written with
        | .ok () => stream.writeAll self.message
        | .error e => (stream, .error e)
      let self := { self with stream, error := intoError written }
      if self.error.isSome then (self, el)
      else ({ self with error := intoError self.stream.flush }, el)
    else if events.readable then
      match self.stream.read 2 with
      | (stream, .error e) => ({ self with stream, error := some (.io e) }, el)
      | (stream, .ok lenRead) =>
        if lenRead.length ≠ 2 then
          ({ self with stream, error := some (.notAllBytesReceived lenRead.length 2) }, el)
        else
          let len := decodeLen (lenRead.getD 0 0) (lenRead.getD 1 0)
          match stream.readToEnd len.toNat with
          | (stream, .error e) => ({ self with stream, error := some (.io e) }, el)
          | (stream, .ok buf) =>
            if buf.length ≠ len.toNat then
              ({ self with stream, error := some (.notAllBytesReceived buf.length len.toNat) }, el)
            else ({ self with stream, buf := some buf }, el.shutdown)
    else if events.error || events.hup then
      ({ self with error := some .noDataReceived }, el.shutdown)
    else (self, el)
  else ({ self with error := some .noDataReceived }, el)

/-- `Handler::timeout`. -/
def timeout (self : Response) (el : EventLoop) : Response × EventLoop :=
  ({ self with error := some .timedOut }, el.shutdown)

variable {h : Response} {el : EventLoop} {ev : EventSet}

/-- A writable event writes the frame as one buffer and records how that went. -/
theorem ready_writable (hw : ev.writable = true) :
    h.ready el RESPONSE ev =
      ({ h with stream := (h.stream.writeAll (frame h.message)).1,
                error := intoError (h.stream.writeAll (frame h.message)).2 }, el) := by
  simp only [ready, if_pos rfl, hw, if_true, frame, TcpStream.writeAll_append]
  rcases h.stream.writeAll (lenBytes h.message.length) with ⟨s, e | ⟨⟨⟩⟩⟩
  · rfl
  · dsimp only
    rcases s.writeAll h.message with ⟨s', e | ⟨⟨⟩⟩⟩ <;> rfl

/-- On a healthy socket with room for the frame, a writable event writes all of it. -/
theorem ready_writable_of_room (hf : h.stream.fault = none)
    (hroom : (frame h.message).length ≤ h.stream.room) (hw : ev.writable = true) :
    h.ready el RESPONSE ev =
      ({ h with stream.sent := h.stream.sent ++ frame h.message,
                stream.room := h.stream.room - (frame h.message).length, error := none }, el) := by
  rw [ready_writable hw, TcpStream.writeAll_of_le hf hroom]
  rfl

/-- On a healthy socket holding two length bytes and at least as many bytes as they announce, a
readable event that is not writable reads them, records them and shuts the loop down. -/
theorem ready_read_frame {b0 b1 : UInt8} {rest : List UInt8} (hf : h.stream.fault = none)
    (hw : ev.writable = false) (hr : ev.readable = true)
    (hin : h.stream.inbox = b0 :: b1 :: rest) (hlen : (decodeLen b0 b1).toNat ≤ rest.length) :
    h.ready el RESPONSE ev =
      ({ h with stream.inbox := rest.drop (decodeLen b0 b1).toNat,
                buf := some (rest.take (decodeLen b0 b1).toNat) }, el.shutdown) := by
  have h₂ : h.stream.read 2 = ({ h.stream with inbox := rest }, .ok [b0, b1]) := by
    simp [TcpStream.read, hf, hin]
  have hn : ({ h.stream with inbox := rest } : TcpStream).readToEnd (decodeLen b0 b1).toNat =
      ({ h.stream with inbox := rest.drop (decodeLen b0 b1).toNat },
        .ok (rest.take (decodeLen b0 b1).toNat)) := by
    by_cases h0 : (decodeLen b0 b1).toNat = 0
    · simp [TcpStream.readToEnd, h0]
    · simp [TcpStream.readToEnd, h0, hf, hlen]
  simp [ready, hw, hr, h₂, hn, Nat.min_eq_left hlen]

/-- An event that is neither readable nor writable: an error or hang-up ends the exchange, and
anything else is ignored. -/
theorem ready_idle (hw : ev.writable = false) (hr : ev.readable = false) :
    h.ready el RESPONSE ev = if ev.error || ev.hup then
      ({ h with error := some .noDataReceived }, el.shutdown) else (h, el) := by
  simp [ready, hw, hr]

end Response

/-! ## The event loop -/

/-- What the OS does next while the loop runs. -/
inductive Tick where
  /-- One `run_once`: the poll reports `events` for the socket, and the timer has `expired`. -/
  | poll (events : EventSet) (expired : Bool)
  /-- The poll fails with an error other than `Interrupted` (an interrupted poll is a poll
  without event). -/
  | pollError (e : IoError)
  /-- Bytes from the peer reach the socket. -/
  | recv (bytes : List UInt8)
  /-- The peer acknowledges `n` bytes, freeing room in the send buffer. -/
  | drain (n : Nat)
  /-- The peer closes its side. -/
  | finish
  /-- The connection fails with `e`. -/
  | reset (e : IoError)
  deriving DecidableEq, Repr

namespace EventLoop

/-- One `run_once`: `io_process` dispatches the socket's event to `ready` (an empty set, which
`ready` ignores, stands for no event), then `timer_process` dispatches the timer to `timeout`
if it expired and is still pending, and drops it. -/
def runOnce (el : EventLoop) (h : Response) (events : EventSet) (expired : Bool) :
    Response × EventLoop :=
  let ev := el.report events
  let (h, el) := h.ready (el.fire ev) RESPONSE ev
  if expired && el.timer then h.timeout { el with timer := false } else (h, el)

/-- What one tick does to the handler and the loop; a failed poll ends `run` with its error. -/
def step (el : EventLoop) (h : Response) : Tick → Except IoError (Response × EventLoop)
  | .poll events expired => .ok (el.runOnce h events expired)
  | .pollError e => .error e
  | .recv bytes => .ok ({ h with stream := h.stream.recv bytes }, el)
  | .drain n => .ok ({ h with stream := h.stream.drain n }, el)
  | .finish => .ok ({ h with stream := h.stream.finish }, el)
  | .reset e => .ok ({ h with stream := h.stream.reset e }, el)

/-- The loop of `EventLoop::run`, `while self.run { try!(self.run_once(handler)) }`, over the
OS's ticks. Only `run_once` changes the run flag, so reading it after every tick is reading it
after every iteration. `none` when the ticks end while it runs: `run` has not returned. -/
def loop (el : EventLoop) (h : Response) :
    List Tick → Option (Except IoError Unit × Response × EventLoop)
  | [] => none
  | t :: ticks =>
    match el.step h t with
    | .error e => some (.error e, h, el)
    | .ok (h, el) => if el.running then loop el h ticks else some (.ok (), h, el)

/-- `EventLoop::run(handler)`: set the run flag, then loop until a handler shuts it down. -/
def run (el : EventLoop) (h : Response) (ticks : List Tick) :
    Option (Except IoError Unit × Response × EventLoop) :=
  loop { el with running := true } h ticks

end EventLoop

/-! ## The connection -/

structure TcpClientConnection where
  socket : Option TcpStream
  eventLoop : EventLoop
  deriving DecidableEq, Repr

/-- What the OS does during one `send`: its answer to re-registering the socket, and the
ticks the event loop then delivers. -/
structure Exchange where
  reregister : Except IoError Unit
  ticks : List Tick

namespace TcpClientConnection

/-- `TcpClientConnection::new`: the connect, the loop's creation and the 5 s timer are the
OS's answers; the timer is armed once, for the connection's lifetime. -/
def new (connect : Except IoError TcpStream) (eventLoop : Except IoError Unit)
    (timer : Except IoError Unit) : Except ClientError TcpClientConnection := do
  let stream ← connect.mapError .io
  eventLoop.mapError .io
  if timer matches .error _ then throw .timerError
  pure { socket := some stream, eventLoop := EventLoop.new.timeoutMs }

/-- `ClientConnection::send`. `none` when the event loop does not return; otherwise the call
panics, or returns its `ClientResult` and the connection after it. The socket is moved into
the `Response` before the loop runs and put back only on the success path. -/
def send (self : TcpClientConnection) (buffer : List UInt8) (os : Exchange) :
    Option (Except Panic (Except ClientError (List UInt8) × TcpClientConnection)) :=
  match expect self.socket "never none" with
  | .error p => some (.error p)
  | .ok _ =>
    match os.reregister with
    | .error e => some (.ok (.error (.io e), self))
    | .ok () =>
      let self := { self with eventLoop := self.eventLoop.reregister }
      match expect self.socket "Only one user at a time" with
      | .error p => some (.error p)
      | .ok stream =>
        let self := { self with socket := none }
        (self.eventLoop.run (Response.new buffer stream) os.ticks).map
          fun (ran, response, eventLoop) =>
            let self := { self with eventLoop }
            match ran with
            | .error e => .ok (.error (.io e), self)
            | .ok () =>
              match response.error with
              | some e => .ok (.error e, self)
              | none =>
                match response.buf with
                | none => .ok (.error .noDataReceived, self)
                | some buf => .ok (.ok buf, { self with socket := some response.stream })

end TcpClientConnection

end TrustDns.Tcp
