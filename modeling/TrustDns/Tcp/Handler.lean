import TrustDns.Tcp.Framing

/-! # The handler over the states of one exchange

`Response` carries a `state`, but `ready` never reads or changes it: the
client is always in `WillWrite` and keeps no record of having written. What
bounds the writes is the registration: `PollOpt::all()` is oneshot, so each of
the socket's two filters fires once per `reregister`. The writable branch runs
at most once per `send` and writes one prefix of the frame; the readable branch
runs at most once, at an event that is readable and not writable, and nothing
makes it wait for the write. One tick's effect is `Inv.step`; by induction it
holds in every state an exchange reaches. -/

namespace TrustDns.Tcp.Handler
open TrustDns.Rust Response EventLoop

variable {h h' h₀ : Response} {el el' el₀ : EventLoop} {ev : EventSet} {ticks : List Tick}

/-! ## One event -/

/-- On an event that is readable and not writable, `ready` records an error, having taken some
of the waiting bytes, or reads one whole frame of a healthy socket, records its payload and shuts
the loop down. -/
theorem ready_readable (h : Response) (el : EventLoop) (hw : ev.writable = false)
    (hr : ev.readable = true) :
    (∃ c inbox e, h.stream.inbox = c ++ inbox ∧
      h.ready el RESPONSE ev = ({ h with stream.inbox := inbox, error := some e }, el)) ∨
    ∃ answer inbox, answer.length < 65536 ∧ h.stream.fault = none ∧
      h.stream.inbox = frame answer ++ inbox ∧
      h.ready el RESPONSE ev =
        ({ h with stream.inbox := inbox, buf := some answer }, el.shutdown) := by
  rcases TcpStream.read_cases h.stream 2 with ⟨e, he⟩ | ⟨hf, he⟩
  · exact .inl ⟨[], h.stream.inbox, .io e, rfl, by simp [ready, hw, hr, he]⟩
  rcases hin : h.stream.inbox with _ | ⟨b0, _ | ⟨b1, rest⟩⟩
  · exact .inl ⟨[], [], .notAllBytesReceived 0 2, rfl, by simp [ready, hw, hr, he, hin]⟩
  · exact .inl ⟨[b0], [], .notAllBytesReceived 1 2, rfl, by simp [ready, hw, hr, he, hin]⟩
  have h₂ : h.stream.read 2 = ({ h.stream with inbox := rest }, .ok [b0, b1]) := by
    simp [he, hin]
  rcases TcpStream.readToEnd_cases { h.stream with inbox := rest } (decodeLen b0 b1).toNat with
    ⟨k, e, hn⟩ | hn
  · exact .inl ⟨b0 :: b1 :: rest.take k, rest.drop k, .io e, by simp,
      by simp [ready, hw, hr, h₂, hn]⟩
  by_cases hlen : (rest.take (decodeLen b0 b1).toNat).length = (decodeLen b0 b1).toNat
  · refine .inr ⟨rest.take (decodeLen b0 b1).toNat, rest.drop (decodeLen b0 b1).toNat,
      by rw [hlen]; exact (decodeLen b0 b1).toNat_lt_size, hf, ?_,
      by simp [ready, hw, hr, h₂, hn, hlen]⟩
    simp [frame, hlen, Framing.lenBytes_decodeLen]
  · exact .inl ⟨b0 :: b1 :: rest.take (decodeLen b0 b1).toNat, rest.drop (decodeLen b0 b1).toNat,
      .notAllBytesReceived (rest.take (decodeLen b0 b1).toNat).length (decodeLen b0 b1).toNat,
      by simp, by simp only [List.length_take] at hlen; simp [ready, hw, hr, h₂, hn, hlen]⟩

/-- `ready` at most shuts the loop down. -/
theorem ready_loop (h : Response) (el : EventLoop) (ev : EventSet) :
    (h.ready el RESPONSE ev).2 = el ∨ (h.ready el RESPONSE ev).2 = el.shutdown := by
  cases hw : ev.writable
  · cases hr : ev.readable
    · rw [ready_idle hw hr]
      split <;> simp
    · rcases ready_readable h el hw hr with ⟨_, _, _, _, he⟩ | ⟨_, _, _, _, _, he⟩ <;>
        simp [he]
  · simp [ready_writable hw]

/-- `ready` records an answer only at an event that is readable and not writable. -/
theorem ready_buf (hb : (h.ready el RESPONSE ev).1.buf ≠ h.buf) :
    ev.readable = true ∧ ev.writable = false := by
  cases hw : ev.writable
  · cases hr : ev.readable
    · rw [ready_idle hw hr] at hb
      split at hb <;> simp at hb
    · exact ⟨rfl, rfl⟩
  · simp [ready_writable hw] at hb

/-! ## The ticks of an exchange -/

/-- The bytes a tick brings from the peer. -/
def payload : Tick → List UInt8
  | .recv bytes => bytes
  | _ => []

/-- The bytes that reach the socket over a sequence of ticks, in order. -/
def received (ticks : List Tick) : List UInt8 := (ticks.map payload).flatten

@[simp] theorem received_nil : received [] = [] := rfl

@[simp] theorem received_cons (t : Tick) (ticks : List Tick) :
    received (t :: ticks) = payload t ++ received ticks := rfl

@[simp] theorem received_append (ticks ticks' : List Tick) :
    received (ticks ++ ticks') = received ticks ++ received ticks' := by
  simp [received]

/-- Whether a tick leaves the poll and the connection working. -/
def delivers : Tick → Bool
  | .pollError _ | .reset _ => false
  | _ => true

/-- `run_once` records an answer only where its event does: the timer does not touch it. -/
theorem runOnce_buf (el : EventLoop) (h : Response) (events : EventSet) (expired : Bool) :
    (el.runOnce h events expired).1.buf =
      (h.ready (el.fire (el.report events)) RESPONSE (el.report events)).1.buf := by
  simp only [runOnce]
  split <;> rfl

/-- A tick records an answer only as a poll whose event is readable and not writable. -/
theorem step_buf {t : Tick} (hs : el.step h t = .ok (h', el')) (hb : h'.buf ≠ h.buf) :
    ∃ events expired, t = .poll events expired ∧ (el.report events).readable = true ∧
      (el.report events).writable = false := by
  cases t with
  | poll events expired =>
    simp only [EventLoop.step, Except.ok.injEq] at hs
    have hb' :
        (h.ready (el.fire (el.report events)) RESPONSE (el.report events)).1.buf ≠ h.buf := by
      rwa [← runOnce_buf el h events expired, hs]
    exact ⟨events, expired, rfl, ready_buf hb'⟩
  | pollError e => cases hs
  | recv _ | drain _ | finish | reset _ => cases hs; exact absurd rfl hb

theorem delivers_append {t : Tick} (hs : ∀ t' ∈ ticks, delivers t' = true)
    (ht : delivers t = true) : ∀ t' ∈ ticks ++ [t], delivers t' = true :=
  List.forall_mem_append.2 ⟨hs, List.forall_mem_singleton.2 ht⟩

/-- The states one exchange passes through, with the ticks that led there: from the handler
and loop `run` starts with, each tick a running loop processes. -/
inductive Reaches (h₀ : Response) (el₀ : EventLoop) : List Tick → Response → EventLoop → Prop
  | start : Reaches h₀ el₀ [] h₀ el₀
  | step {ticks : List Tick} {h h' : Response} {el el' : EventLoop} (t : Tick) :
      Reaches h₀ el₀ ticks h el → el.running = true → el.step h t = .ok (h', el') →
      Reaches h₀ el₀ (ticks ++ [t]) h' el'

/-! ## The invariant -/

/-- What one exchange from `h₀` and `el₀` has done by the state `h`, `el` that `ticks` reach.
One prefix of the frame is written, none while the write filter is armed, and the whole frame
unless an error is recorded. While the read filter is armed nothing was read; an answer is the
frame at the head of the bytes, read by the filter's one event, which stopped the loop. -/
structure Inv (h₀ : Response) (el₀ : EventLoop) (ticks : List Tick) (h : Response)
    (el : EventLoop) : Prop where
  message : h.message = h₀.message
  sent : ∃ k, h.stream.sent = h₀.stream.sent ++ (frame h₀.message).take k
  unsent : el.writeArmed = true → h.stream.sent = h₀.stream.sent
  whole : h₀.error = none → h.error = none →
    h.stream.sent = h₀.stream.sent ∨ h.stream.sent = h₀.stream.sent ++ frame h₀.message
  unread : el.readArmed = true →
    el₀.readArmed = true ∧ h.buf = h₀.buf ∧ h.stream.inbox = h₀.stream.inbox ++ received ticks
  read : h.buf = h₀.buf ∨ el₀.readArmed = true ∧ ∃ answer, answer.length < 65536 ∧
    h.buf = some answer ∧ h₀.stream.inbox ++ received ticks = frame answer ++ h.stream.inbox ∧
    h.stream.fault = none ∧ el.running = false
  fault : h.stream.fault = none → h₀.stream.fault = none ∧ ∀ t ∈ ticks, delivers t = true
  timer : el.timer = el₀.timer ∨ h.error = some .timedOut ∧ el.running = false

theorem Inv.start (h₀ : Response) (el₀ : EventLoop) : Inv h₀ el₀ [] h₀ el₀ :=
  ⟨rfl, ⟨0, by simp⟩, fun _ => rfl, fun _ _ => .inl rfl, fun hr => ⟨hr, rfl, by simp⟩, .inl rfl,
    fun hf => ⟨hf, by simp⟩, .inl rfl⟩

section running
variable (hi : Inv h₀ el₀ ticks h el) (hr : el.running = true)
include hi hr

theorem Inv.buf_eq : h.buf = h₀.buf :=
  hi.read.elim id fun ⟨_, _, _, _, _, _, hs⟩ => absurd hr (by simp [hs])

theorem Inv.timer_eq : el.timer = el₀.timer :=
  hi.timer.elim id fun ⟨_, hs⟩ => absurd hr (by simp [hs])

/-- A tick that writes nothing, records no answer, takes bytes only once the read filter has
fired, and records no error clearance keeps the invariant. -/
theorem Inv.transfer (t : Tick) (hm : h'.message = h.message) (hs : h'.stream.sent = h.stream.sent)
    (hb : h'.buf = h.buf)
    (hin : el'.readArmed = true → h'.stream.inbox = h.stream.inbox ++ payload t)
    (hf : h'.stream.fault = none → h.stream.fault = none ∧ delivers t = true)
    (he : h'.error = none → h.error = none) (hw : el'.writeArmed = true → el.writeArmed = true)
    (hra : el'.readArmed = true → el.readArmed = true) (ht : el'.timer = el.timer) :
    Inv h₀ el₀ (ticks ++ [t]) h' el' where
  message := hm.trans hi.message
  sent := hs ▸ hi.sent
  unsent hw' := hs.trans (hi.unsent (hw hw'))
  whole h0 he' := hs ▸ hi.whole h0 (he he')
  unread hra' := by
    obtain ⟨h1, -, h3⟩ := hi.unread (hra hra')
    exact ⟨h1, hb.trans (hi.buf_eq hr), by rw [hin hra', h3]; simp⟩
  read := .inl (hb.trans (hi.buf_eq hr))
  fault hf' := by
    obtain ⟨h1, h2⟩ := hf hf'
    obtain ⟨h3, h4⟩ := hi.fault h1
    exact ⟨h3, delivers_append h4 h2⟩
  timer := .inl (ht.trans (hi.timer_eq hr))

/-- The writable branch: the one event of the write filter writes a prefix of the frame. -/
theorem Inv.writable {events : EventSet} (expired : Bool)
    (hw : (el.report events).writable = true) :
    Inv h₀ el₀ (ticks ++ [.poll events expired])
      (h.ready (el.fire (el.report events)) RESPONSE (el.report events)).1
      (h.ready (el.fire (el.report events)) RESPONSE (el.report events)).2 := by
  have hwa : el.writeArmed = true := by simp [report] at hw; exact hw.2
  rw [ready_writable hw]
  obtain ⟨k, hk, hok⟩ := TcpStream.writeAll_prefix h.stream (frame h.message)
  have hs := hi.unsent hwa
  refine ⟨hi.message, ⟨k, by rw [hk]; simp [hs, hi.message]⟩, by simp [fire, hw], ?_, ?_,
    .inl (hi.buf_eq hr), ?_, .inl (hi.timer_eq hr)⟩
  · intro _ he
    right
    rcases hw' : (h.stream.writeAll (frame h.message)).2 with e | ⟨⟨⟩⟩
    · simp [hw', intoError] at he
    · rw [hk, hok hw', hs, hi.message]
  · intro hra
    obtain ⟨h1, h2, h3⟩ := hi.unread (by simp [fire] at hra; exact hra.1)
    exact ⟨h1, h2, by rw [hk]; simpa [payload] using h3⟩
  · intro hf
    rw [hk] at hf
    obtain ⟨h1, h2⟩ := hi.fault hf
    exact ⟨h1, delivers_append h2 rfl⟩

/-- The readable branch: the one event of the read filter records an error or the frame at the
head of the bytes. -/
theorem Inv.readable {events : EventSet} (expired : Bool)
    (hw : (el.report events).writable = false) (hrd : (el.report events).readable = true) :
    Inv h₀ el₀ (ticks ++ [.poll events expired])
      (h.ready (el.fire (el.report events)) RESPONSE (el.report events)).1
      (h.ready (el.fire (el.report events)) RESPONSE (el.report events)).2 := by
  have hra : el.readArmed = true := by simp [report] at hrd; exact hrd.2
  rcases ready_readable h (el.fire (el.report events)) hw hrd with
    ⟨c, inbox, e, -, he⟩ | ⟨answer, inbox, hlen, hf, hin, he⟩ <;> rw [he]
  · exact hi.transfer hr _ rfl rfl rfl (by simp [hrd]) (fun hf => ⟨hf, rfl⟩) (by simp)
      (by simp [hw]) (by simp [hrd]) rfl
  obtain ⟨h1, h2, h3⟩ := hi.unread hra
  refine ⟨hi.message, hi.sent, fun hw' => hi.unsent (by simpa [hw] using hw'), hi.whole,
    by simp [hrd], .inr ⟨h1, answer, hlen, rfl, ?_, hf, rfl⟩, fun _ => ?_, .inl (hi.timer_eq hr)⟩
  · simp [payload, ← h3, hin]
  · obtain ⟨h4, h5⟩ := hi.fault hf
    exact ⟨h4, delivers_append h5 rfl⟩

/-- The event of one `run_once`. -/
theorem Inv.event (events : EventSet) (expired : Bool) :
    Inv h₀ el₀ (ticks ++ [.poll events expired])
      (h.ready (el.fire (el.report events)) RESPONSE (el.report events)).1
      (h.ready (el.fire (el.report events)) RESPONSE (el.report events)).2 := by
  cases hw : (el.report events).writable
  · cases hrd : (el.report events).readable
    · rw [ready_idle hw hrd]
      split
      · exact hi.transfer hr _ rfl rfl rfl (by simp [payload]) (fun hf => ⟨hf, rfl⟩) (by simp)
          (by simp [hw]) (by simp [hrd]) rfl
      · exact hi.transfer hr _ rfl rfl rfl (by simp [payload]) (fun hf => ⟨hf, rfl⟩) id
          (by simp [hw]) (by simp [hrd]) rfl
    · exact hi.readable hr expired hw hrd
  · exact hi.writable hr expired hw

end running

/-- The timer: `TimedOut` is recorded and the loop stops; nothing else changes. -/
theorem Inv.timeout (hi : Inv h₀ el₀ ticks h el) :
    Inv h₀ el₀ ticks (h.timeout { el with timer := false }).1
      (h.timeout { el with timer := false }).2 :=
  ⟨hi.message, hi.sent, hi.unsent, fun _ he => by simp [Response.timeout] at he, hi.unread,
    hi.read.imp id fun ⟨h1, a, h2, h3, h4, h5, _⟩ => ⟨h1, a, h2, h3, h4, h5, rfl⟩, hi.fault,
    .inr ⟨rfl, rfl⟩⟩

/-- **One tick keeps the invariant.** -/
theorem Inv.step {t : Tick} (hi : Inv h₀ el₀ ticks h el) (hr : el.running = true)
    (hs : el.step h t = .ok (h', el')) : Inv h₀ el₀ (ticks ++ [t]) h' el' := by
  cases t with
  | poll events expired =>
    simp only [EventLoop.step, runOnce, Except.ok.injEq] at hs
    have he := hi.event hr events expired
    revert hs he
    generalize h.ready (el.fire (el.report events)) RESPONSE (el.report events) = r
    obtain ⟨h₁, el₁⟩ := r
    intro hs he
    split at hs
    · cases hs; exact he.timeout
    · cases hs; exact he
  | pollError e => cases hs
  | recv bytes =>
    cases hs
    exact hi.transfer hr _ rfl rfl rfl (fun _ => rfl) (fun hf => ⟨hf, rfl⟩) id id id rfl
  | drain n =>
    cases hs
    exact hi.transfer hr _ rfl rfl rfl (fun _ => by simp [payload]) (fun hf => ⟨hf, rfl⟩) id id id
      rfl
  | finish =>
    cases hs
    exact hi.transfer hr _ rfl rfl rfl (fun _ => by simp [payload]) (fun hf => ⟨hf, rfl⟩) id id id
      rfl
  | reset e =>
    cases hs
    exact hi.transfer hr _ rfl rfl rfl (fun _ => by simp [payload]) (fun hf => by simp at hf) id id
      id rfl

/-- **Every state an exchange reaches satisfies the invariant.** -/
theorem Inv.reaches (hr : Reaches h₀ el₀ ticks h el) : Inv h₀ el₀ ticks h el := by
  induction hr with
  | start => exact .start _ _
  | step t _ hrun hs ih => exact ih.step hrun hs

/-! ## Runs of the loop -/

/-- A first tick followed by a run from where it leads is a run. -/
theorem Reaches.cons {h₁ : Response} {el₁ : EventLoop} {t : Tick} (hr : el.running = true)
    (hs : el.step h t = .ok (h₁, el₁)) (hreach : Reaches h₁ el₁ ticks h' el') :
    Reaches h el (t :: ticks) h' el' := by
  induction hreach with
  | start => exact .step t .start hr hs
  | step u _ hrun hs' ih => exact .step u ih hrun hs'

/-- Every run of the loop that returns ends, after a prefix of the ticks, in a state the
exchange reaches; it returns `Ok` once a handler has shut the loop down. -/
theorem loop_reaches {r : Except IoError Unit} : ∀ {ticks : List Tick} {h : Response}
    {el : EventLoop}, el.running = true → loop el h ticks = some (r, h', el') →
      ∃ pre, pre <+: ticks ∧ Reaches h el pre h' el' ∧ (r = .ok () → el'.running = false)
  | [], _, _, _, hl => by cases hl
  | t :: ticks, h, el, hr, hl => by
    simp only [loop] at hl
    rcases hs : el.step h t with e | ⟨h₁, el₁⟩ <;> rw [hs] at hl
    · cases hl
      exact ⟨[], List.nil_prefix, .start, nofun⟩
    · dsimp only at hl
      split at hl
      · obtain ⟨pre, hp, hre, hrr⟩ := loop_reaches ‹_› hl
        exact ⟨t :: pre, (List.prefix_cons_inj t).2 hp, hre.cons hr hs, hrr⟩
      · cases hl
        exact ⟨[t], ⟨ticks, rfl⟩, .step t .start hr hs, fun _ => Bool.eq_false_iff.2 ‹_›⟩

/-! ## One `send` -/

/-- **The request is written at most once, and the answer read whenever it comes.** In every
state one `send`'s exchange reaches, whatever the OS delivers, the stream has received one prefix
of the framed request, nothing of it while the write filter is armed; the answer is recorded
only once the read filter has fired, by a poll whose event is readable and not writable, whether
or not the request was written before. -/
theorem exchange_writes_request_at_most_once {stream : TcpStream} {buffer : List UInt8}
    {el₀ : EventLoop}
    (hr : Reaches (Response.new buffer stream) { el₀.reregister with running := true } ticks h el) :
    (∃ k, h.stream.sent = stream.sent ++ (frame buffer).take k) ∧
      (el.writeArmed = true → h.stream.sent = stream.sent) ∧
      (el.readArmed = true → h.buf = none) ∧
      ∀ t h' el', el.step h t = .ok (h', el') → h'.buf ≠ h.buf →
        ∃ events expired, t = .poll events expired ∧ (el.report events).readable = true ∧
          (el.report events).writable = false :=
  have hi := Inv.reaches hr
  ⟨hi.sent, hi.unsent, fun hra => (hi.unread hra).2.1, fun _ _ _ => step_buf⟩

/-- A socket whose send buffer has room for 3 bytes. -/
def smallSocket : TcpStream := ⟨[], 3, [], false, none⟩

/-- The exchange of `[7]` on `smallSocket` after its first poll, which reported it writable. -/
def firstPoll : Response × EventLoop :=
  ({ EventLoop.new.timeoutMs.reregister with running := true } : EventLoop).runOnce
    (Response.new [7] smallSocket) ⟨false, true, false, false⟩ false

theorem exchange_writes_request_at_most_once_firstPoll :
    (∃ k, firstPoll.1.stream.sent = smallSocket.sent ++ (frame [7]).take k) ∧
      (firstPoll.2.writeArmed = true → firstPoll.1.stream.sent = smallSocket.sent) ∧
      (firstPoll.2.readArmed = true → firstPoll.1.buf = none) ∧
      ∀ t h' el', firstPoll.2.step firstPoll.1 t = .ok (h', el') → h'.buf ≠ firstPoll.1.buf →
        ∃ events expired, t = .poll events expired ∧
          (firstPoll.2.report events).readable = true ∧
          (firstPoll.2.report events).writable = false :=
  exchange_writes_request_at_most_once
    (show Reaches (Response.new [7] smallSocket) { EventLoop.new.timeoutMs.reregister with
      running := true } [.poll ⟨false, true, false, false⟩ false] firstPoll.1 firstPoll.2 from
      .step (.poll ⟨false, true, false, false⟩ false) .start rfl rfl)

/-- The first exchange on `smallSocket`: the request `[7]` fills the send buffer, the peer's
answer `[9]` and a second frame `[5]` arrive, and the answer is read. -/
def firstExchange : Exchange :=
  ⟨.ok (), [.poll ⟨false, true, false, false⟩ false, .recv [0, 1, 9, 0, 1, 5],
    .poll ⟨true, false, false, false⟩ false]⟩

/-- The second exchange: its one poll reports the socket readable and, its send buffer full,
not writable. -/
def secondExchange : Exchange := ⟨.ok (), [.poll ⟨true, false, false, false⟩ false]⟩

/-- On a connection from `new` whose first request filled the send buffer and whose peer sent a
second frame, the next `send` records and returns that frame without writing any of its
request. -/
theorem answer_recorded_before_request_written :
    ∃ conn₀ conn₁ conn₂ stream₁ stream₂,
      TcpClientConnection.new (.ok smallSocket) (.ok ()) (.ok ()) = .ok conn₀ ∧
      conn₀.send [7] firstExchange = some (.ok (.ok [9], conn₁)) ∧
      conn₁.socket = some stream₁ ∧ stream₁.room = 0 ∧ stream₁.inbox = [0, 1, 5] ∧
      conn₁.send [8] secondExchange = some (.ok (.ok [5], conn₂)) ∧
      conn₂.socket = some stream₂ ∧ stream₂.sent = stream₁.sent :=
  ⟨_, _, _, _, _, rfl, rfl, rfl, rfl, rfl, rfl, rfl, rfl⟩

end TrustDns.Tcp.Handler
