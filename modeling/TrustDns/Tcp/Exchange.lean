import TrustDns.Tcp.Handler
import TrustDns.Tcp.Send

/-! # What `send` returns, over every order of events

`send` runs the event loop over whatever the OS delivers. By the invariant of
`Handler`, an answer `send` returns is the frame at the very head of the bytes
the socket held and those that arrived before the loop stopped, read by the
read filter's one event before the timer fired or anything failed; what the
client wrote is at most one whole copy of its framed request. Conversely, when
the peer's chunks and a writable poll, in any order, bring the socket one
frame, the first poll that reports it readable and not writable makes `send`
return its payload; a poll at which the timer expired makes it fail, even one
that read the answer, and so does a read before the whole frame. -/

namespace TrustDns.Tcp.Exchange
open TrustDns.Rust Response EventLoop Handler

variable {h h' : Response} {el el' : EventLoop} {conn conn' : TcpClientConnection}
  {buffer answer : List UInt8} {os : Exchange}

/-! ## The loop, tick by tick -/

/-- A tick after which the loop still runs: it goes on from where the tick leads. -/
theorem loop_cons_running {t : Tick} {h₁ : Response} {el₁ : EventLoop}
    (hs : el.step h t = .ok (h₁, el₁)) (hrun : el₁.running = true) (ticks : List Tick) :
    loop el h (t :: ticks) = loop el₁ h₁ ticks := by
  simp [loop, hs, hrun]

/-- A tick after which the loop was shut down: `run` returns there. -/
theorem loop_cons_stopped {t : Tick} {h₁ : Response} {el₁ : EventLoop}
    (hs : el.step h t = .ok (h₁, el₁)) (hstop : el₁.running = false) (ticks : List Tick) :
    loop el h (t :: ticks) = some (.ok (), h₁, el₁) := by
  simp [loop, hs, hstop]

/-- A poll before the timer expires is its event alone. -/
theorem runOnce_unexpired (el : EventLoop) (h : Response) (events : EventSet) :
    el.runOnce h events false =
      h.ready (el.fire (el.report events)) RESPONSE (el.report events) := by
  simp only [runOnce, Bool.false_and, Bool.false_eq_true, if_false]

/-- A poll at which the pending timer expired: whatever the event did, `TimedOut` is recorded and
the loop stops. -/
theorem runOnce_timeout (ht : el.timer = true) (events : EventSet) :
    (el.runOnce h events true).1.error = some .timedOut ∧
      (el.runOnce h events true).2.running = false := by
  have ht' : (h.ready (el.fire (el.report events)) RESPONSE (el.report events)).2.timer = true := by
    rcases ready_loop h (el.fire (el.report events)) (el.report events) with hel | hel <;>
      simp [hel, ht]
  simp only [runOnce]
  revert ht'
  rcases h.ready (el.fire (el.report events)) RESPONSE (el.report events) with ⟨h₁, el₁⟩
  intro (ht' : el₁.timer = true)
  simp [ht', Response.timeout]

/-- Once a tick has fired the read filter, the rest of the run records no answer. -/
theorem loop_buf_of_fired {t : Tick} {h₁ : Response} {el₁ : EventLoop} {r : Except IoError Unit}
    {ticks : List Tick} (hs : el.step h t = .ok (h₁, el₁)) (hra : el₁.readArmed = false)
    (hl : loop el h (t :: ticks) = some (r, h', el')) : h'.buf = h₁.buf := by
  cases hrun : el₁.running
  · rw [loop_cons_stopped hs hrun] at hl
    cases hl; rfl
  · rw [loop_cons_running hs hrun] at hl
    obtain ⟨pre, -, hre, -⟩ := loop_reaches hrun hl
    exact (Inv.reaches hre).read.elim id fun ⟨h1, _⟩ => absurd h1 (by simp [hra])

/-! ## What `send` returns -/

/-- A `send` that returns an answer had a socket and ran the loop, from the re-registered
filters, to a response holding that answer and no error, and put the response's socket back. -/
theorem send_eq_ok (h : conn.send buffer os = some (.ok (.ok answer, conn'))) :
    ∃ stream response el, conn.socket = some stream ∧
      loop { conn.eventLoop.reregister with running := true } (Response.new buffer stream)
        os.ticks = some (.ok (), response, el) ∧
      response.error = none ∧ response.buf = some answer ∧ conn'.socket = some response.stream ∧
      conn'.eventLoop = el := by
  unfold TcpClientConnection.send at h
  cases hs : conn.socket with
  | none => simp [hs] at h
  | some stream =>
    rcases hr : os.reregister with e | ⟨⟨⟩⟩
    · simp [hs, hr] at h
    simp only [hs, hr, expect_some] at h
    obtain ⟨⟨ran, response, el⟩, hrun, hout⟩ := Option.map_eq_some'.1 h
    rcases ran with e | ⟨⟨⟩⟩
    · cases hout
    simp only at hout
    split at hout
    · cases hout
    split at hout
    · cases hout
    · cases hout
      exact ⟨stream, response, el, rfl, hrun, ‹_›, ‹_›, rfl, rfl⟩

/-- With a socket, `send` does not panic. -/
theorem send_ne_panic {stream : TcpStream} (hs : conn.socket = some stream) {p : Panic} :
    conn.send buffer os ≠ some (.error p) := by
  intro h
  simp only [TcpClientConnection.send, hs, expect_some] at h
  split at h
  · cases h
  · obtain ⟨⟨ran, response, el⟩, -, hout⟩ := Option.map_eq_some'.1 h
    simp only at hout
    split at hout <;> (try split at hout) <;> (try split at hout) <;> cases hout

section accepted
variable {stream : TcpStream} {ticks : List Tick} {response : Response} {el : EventLoop}
  (hs : conn.socket = some stream)
  (hl : loop { conn.eventLoop.reregister with running := true } (Response.new buffer stream)
    ticks = some (.ok (), response, el))
include hs hl

/-- A loop that stopped with an error recorded: `send` returns it, without the socket. -/
theorem send_of_loop_error {e : ClientError} (he : response.error = some e) :
    conn.send buffer ⟨.ok (), ticks⟩ = some (.ok (.error e, ⟨none, el⟩)) := by
  simp only [TcpClientConnection.send, hs, expect_some]
  rw [EventLoop.run, hl]
  simp [he]

/-- A loop that stopped with an answer and no error: `send` returns it, with the socket. -/
theorem send_of_loop_answer (he : response.error = none) (hb : response.buf = some answer) :
    conn.send buffer ⟨.ok (), ticks⟩ = some (.ok (.ok answer, ⟨some response.stream, el⟩)) := by
  simp only [TcpClientConnection.send, hs, expect_some]
  rw [EventLoop.run, hl]
  simp [he, hb]

end accepted

/-- A `send` that returns an answer ran its exchange, over a prefix of the ticks, to a state of
the invariant with no error recorded and the answer's frame at the head of the bytes. -/
theorem send_eq_ok_framed (h : conn.send buffer os = some (.ok (.ok answer, conn'))) :
    ∃ stream response el pre, conn.socket = some stream ∧ conn'.socket = some response.stream ∧
      conn'.eventLoop = el ∧ pre <+: os.ticks ∧
      Inv (Response.new buffer stream) { conn.eventLoop.reregister with running := true } pre
        response el ∧
      response.error = none ∧ answer.length < 65536 ∧ response.stream.fault = none ∧
      stream.inbox ++ received pre = frame answer ++ response.stream.inbox := by
  obtain ⟨stream, response, el, hs, hrun, he, hb, hs', hel⟩ := send_eq_ok h
  obtain ⟨pre, hp, hre, -⟩ := loop_reaches rfl hrun
  have hi := Inv.reaches hre
  rcases hi.read with hb' | ⟨-, a, hlen, ha, hin, hf, -⟩
  · simp [hb] at hb'
  rw [hb, Option.some.injEq] at ha
  subst ha
  exact ⟨stream, response, el, pre, hs, hs', hel, hp, hi, he, hlen, hf, hin⟩

/-- A connection from `new` on a socket with a 512-byte send buffer, its loop not running. -/
def idleConn : TcpClientConnection := ⟨some ⟨[], 512, [], false, none⟩, EventLoop.new.timeoutMs⟩

/-- The request `[7]` written, the answer `[9]` arriving framed, then read. -/
def answeredTicks : List Tick :=
  [.poll ⟨false, true, false, false⟩ false, .recv [0, 1, 9],
    .poll ⟨true, false, false, false⟩ false]

/-- The connection after that exchange. -/
def answeredConn : TcpClientConnection :=
  ⟨some ⟨[0, 1, 7], 509, [], false, none⟩, ⟨false, false, false, true⟩⟩

/-- Successive `send`s of a client on one connection, each of which returned an answer: the
requests with what the OS did during each, and the answers in order. -/
inductive Answered : TcpClientConnection → List (List UInt8 × Exchange) → List (List UInt8) →
    TcpClientConnection → Prop
  | nil (conn : TcpClientConnection) : Answered conn [] [] conn
  | cons {conn conn₁ conn' : TcpClientConnection} {buffer answer : List UInt8} {os : Exchange}
      {sends : List (List UInt8 × Exchange)} {answers : List (List UInt8)} :
      conn.send buffer os = some (.ok (.ok answer, conn₁)) → Answered conn₁ sends answers conn' →
      Answered conn ((buffer, os) :: sends) (answer :: answers) conn'

/-- The bytes successive exchanges write: `k` framed copies of each request. -/
def writtenBytes (ks : List Nat) (sends : List (List UInt8 × Exchange)) : List UInt8 :=
  (List.zipWith (fun k send => (List.replicate k (frame send.1)).flatten) ks sends).flatten

/-- **Answers are read in order, and each request is written at most once.** Over sends on one
connection that all returned answers, the bytes the socket held followed by those of the ticks
each exchange ran are the answers' frames, in order, then what the socket holds at the end: no
byte is read twice or skipped. Meanwhile each request was written, in order, not at all or once,
whole. -/
theorem answered_reads_frames_in_order {sends : List (List UInt8 × Exchange)}
    {answers : List (List UInt8)} (h : Answered conn sends answers conn') {stream : TcpStream}
    (hs : conn.socket = some stream) :
    ∃ stream', conn'.socket = some stream' ∧
      (∃ pres, List.Forall₂ (fun pre send => pre <+: send.2.ticks) pres sends ∧
        stream.inbox ++ (pres.map received).flatten =
          (answers.map frame).flatten ++ stream'.inbox) ∧
      ∃ ks, ks.length = sends.length ∧ (∀ k ∈ ks, k ≤ 1) ∧
        stream'.sent = stream.sent ++ writtenBytes ks sends := by
  induction h generalizing stream with
  | nil conn =>
    exact ⟨stream, hs, ⟨[], .nil, by simp⟩, [], rfl, by simp, by simp [writtenBytes]⟩
  | cons hsend _ ih =>
    obtain ⟨stream₀, response, el, pre, hs₀, hs₁, -, hp, hi, he, -, -, hin⟩ :=
      send_eq_ok_framed hsend
    obtain rfl := Option.some.inj (hs.symm.trans hs₀)
    obtain ⟨stream', hs', ⟨pres, hF, hin'⟩, ks, hks, hk1, hsent'⟩ := ih hs₁
    obtain ⟨k, hk, hsent⟩ : ∃ k ≤ 1, response.stream.sent =
        stream.sent ++ (List.replicate k (frame _)).flatten := by
      rcases hi.whole rfl he with hw | hw
      · exact ⟨0, by omega, by simpa using hw⟩
      · exact ⟨1, le_rfl, by simpa using hw⟩
    refine ⟨stream', hs', ⟨pre :: pres, .cons hp hF, ?_⟩, k :: ks, by simp [hks], ?_, ?_⟩
    · simp only [List.map_cons, List.flatten_cons]
      rw [← List.append_assoc, hin, List.append_assoc, hin']
      simp
    · simpa using ⟨hk, hk1⟩
    · rw [hsent', hsent]
      simp [writtenBytes]

/-- Two requests, `[7]` then `[8]`, answered by `[9]` then `[5]`. -/
def twoSends : List (List UInt8 × Exchange) :=
  [([7], ⟨.ok (), answeredTicks⟩),
    ([8], ⟨.ok (), [.poll ⟨false, true, false, false⟩ false, .recv [0, 1, 5],
      .poll ⟨true, false, false, false⟩ false]⟩)]

/-- The connection after both. -/
def twiceAnswered : TcpClientConnection :=
  ⟨some ⟨[0, 1, 7, 0, 1, 8], 506, [], false, none⟩, ⟨false, false, false, true⟩⟩

theorem answered_reads_frames_in_order_example :
    ∃ stream', twiceAnswered.socket = some stream' ∧
      (∃ pres, List.Forall₂ (fun pre send => pre <+: send.2.ticks) pres twoSends ∧
        [] ++ (pres.map received).flatten = ([[9], [5]].map frame).flatten ++ stream'.inbox) ∧
      ∃ ks, ks.length = twoSends.length ∧ (∀ k ∈ ks, k ≤ 1) ∧
        stream'.sent = [] ++ writtenBytes ks twoSends :=
  answered_reads_frames_in_order
    (show Answered idleConn twoSends [[9], [5]] twiceAnswered from .cons rfl (.cons rfl (.nil _)))
    (show idleConn.socket = some ⟨[], 512, [], false, none⟩ from rfl)

/-! ## When `send` returns an answer -/

/-- Whether a tick is a poll whose event has the writable bit. -/
def writes : Tick → Bool
  | .poll events _ => events.writable
  | _ => false

/-- A tick before the answer can be read: bytes arriving, room freed, the peer closing, or a
poll at which the timer has not expired, reporting at most that the socket is writable. -/
def Preparatory : Tick → Prop
  | .poll events expired =>
    events.readable = false ∧ events.error = false ∧ events.hup = false ∧ expired = false
  | .recv _ | .drain _ | .finish => True
  | .pollError _ | .reset _ => False

/-- A tick that is not a writable poll leaves the write filter as it was. -/
theorem disarm_of_not_writes {t : Tick} (ht : writes t = false) :
    ({ el with writeArmed := el.writeArmed && !writes t } : EventLoop) = el := by
  rw [ht, Bool.not_false, Bool.and_true]

/-- One preparatory tick, on a healthy socket with the read filter armed: it appends the bytes
that arrive and keeps the loop running, and a writable poll while the write filter is armed
writes the frame, all of it when the send buffer has room. -/
theorem step_preparatory {t : Tick} (ht : Preparatory t) (hr : el.readArmed = true)
    (hf : h.stream.fault = none) :
    ∃ h₁, el.step h t = .ok (h₁, { el with writeArmed := el.writeArmed && !writes t }) ∧
      h₁.message = h.message ∧ h₁.buf = h.buf ∧ h₁.stream.fault = none ∧
      h₁.stream.inbox = h.stream.inbox ++ payload t ∧
      (h.error = none → (el.writeArmed = true → (frame h.message).length ≤ h.stream.room) →
        h₁.error = none ∧
        h₁.stream.sent =
          h.stream.sent ++ (if el.writeArmed && writes t then frame h.message else []) ∧
        ((el.writeArmed && !writes t) = true → (frame h.message).length ≤ h₁.stream.room)) := by
  cases t with
  | poll events expired =>
    obtain ⟨hrd, her, hhup, rfl⟩ := ht
    have hfire : el.fire (el.report events) =
        { el with writeArmed := el.writeArmed && !events.writable } := by
      obtain ⟨_, _, _ | _, _⟩ := el <;> simp [fire, report, hrd]
    have hrd' : (el.report events).readable = false := by simp [report, hrd]
    simp only [EventLoop.step, runOnce_unexpired, hfire]
    cases hw : events.writable && el.writeArmed
    · have hw' : (el.writeArmed && events.writable) = false := by rw [Bool.and_comm]; exact hw
      rw [ready_idle hw hrd', if_neg (by simp [report, her, hhup])]
      exact ⟨h, rfl, rfl, rfl, hf, by simp [payload], fun he hroom => ⟨he, by simp [writes, hw'],
        fun hwa => hroom (by simp at hwa; exact hwa.1)⟩⟩
    · obtain ⟨hw₁, hwa⟩ := Bool.and_eq_true_iff.1 hw
      rw [ready_writable hw]
      obtain ⟨k, hk, -⟩ := TcpStream.writeAll_prefix h.stream (frame h.message)
      refine ⟨_, rfl, rfl, rfl, by simpa [hk] using hf, by simp [hk, payload], fun he hroom => ?_⟩
      rw [TcpStream.writeAll_of_le hf (hroom hwa)]
      simp [intoError, writes, hwa, hw₁]
  | pollError e => exact ht.elim
  | recv bytes =>
    exact ⟨{ h with stream := h.stream.recv bytes },
      by rw [disarm_of_not_writes (t := .recv bytes) rfl]; rfl, rfl, rfl, hf, rfl,
      fun he hroom => ⟨he, by simp [writes], by simpa [writes] using hroom⟩⟩
  | drain n =>
    exact ⟨{ h with stream := h.stream.drain n },
      by rw [disarm_of_not_writes (t := .drain n) rfl]; rfl, rfl, rfl, hf, by simp [payload],
      fun he hroom => ⟨he, by simp [writes],
        fun hwa => (hroom (by simpa [writes] using hwa)).trans (Nat.le_add_right _ _)⟩⟩
  | finish =>
    exact ⟨{ h with stream := h.stream.finish },
      by rw [disarm_of_not_writes (t := .finish) rfl]; rfl, rfl, rfl, hf, by simp [payload],
      fun he hroom => ⟨he, by simp [writes], by simpa [writes] using hroom⟩⟩
  | reset e => exact ht.elim

/-- Preparatory ticks keep the loop running with the read filter armed: they bring the bytes
that arrive, and the first writable poll writes the frame, all of it when it fits. -/
theorem loop_preparatory : ∀ (h : Response) (el : EventLoop) {ws : List Tick},
    el.running = true → el.readArmed = true → h.stream.fault = none → (∀ t ∈ ws, Preparatory t) →
    ∀ ticks, ∃ h' el', loop el h (ws ++ ticks) = loop el' h' ticks ∧
      el' = { el with writeArmed := el.writeArmed && !ws.any writes } ∧
      h'.message = h.message ∧ h'.buf = h.buf ∧ h'.stream.fault = none ∧
      h'.stream.inbox = h.stream.inbox ++ received ws ∧
      (h.error = none → (el.writeArmed = true → (frame h.message).length ≤ h.stream.room) →
        h'.error = none ∧ h'.stream.sent =
          h.stream.sent ++ (if el.writeArmed && ws.any writes then frame h.message else []))
  | h, el, [], _, _, _, _, ticks =>
    ⟨h, el, rfl, by cases el; simp, rfl, rfl, ‹_›, by simp, fun he _ => ⟨he, by simp⟩⟩
  | h, el, t :: ws, hrun, hr, hf, hws, ticks => by
    obtain ⟨h₁, hs, hm, hb, hf₁, hin, hw⟩ :=
      step_preparatory (hws t (List.mem_cons_self _ _)) hr hf
    obtain ⟨h', el', hl, hel', hm', hb', hf', hin', hw'⟩ := loop_preparatory h₁
      { el with writeArmed := el.writeArmed && !writes t } hrun hr hf₁
      (fun t' ht' => hws t' (List.mem_cons_of_mem _ ht')) ticks
    refine ⟨h', el', by rw [List.cons_append, loop_cons_running hs hrun, hl], ?_,
      hm'.trans hm, hb'.trans hb, hf', by simp [hin', hin], fun he hroom => ?_⟩
    · rw [hel']; cases el; simp [Bool.and_assoc]
    obtain ⟨he₁, hs₁, hroom₁⟩ := hw he hroom
    obtain ⟨he', hs'⟩ := hw' he₁ (fun hwa => hm ▸ hroom₁ hwa)
    refine ⟨he', ?_⟩
    rw [hs', hs₁, hm]
    cases hwt : writes t <;> cases el.writeArmed <;> simp [hwt]

/-- Preparatory ticks from where `send` starts its loop, with both filters armed. -/
theorem send_preparatory (conn : TcpClientConnection) (buffer : List UInt8) {stream : TcpStream}
    (hf : stream.fault = none) {ws : List Tick} (hws : ∀ t ∈ ws, Preparatory t)
    (ticks : List Tick) :
    ∃ h' el', loop { conn.eventLoop.reregister with running := true } (Response.new buffer stream)
        (ws ++ ticks) = loop el' h' ticks ∧
      el' = ⟨true, true, !ws.any writes, conn.eventLoop.timer⟩ ∧ h'.buf = none ∧
      h'.stream.fault = none ∧ h'.stream.inbox = stream.inbox ++ received ws ∧
      ((frame buffer).length ≤ stream.room → h'.error = none ∧
        h'.stream.sent = stream.sent ++ (if ws.any writes then frame buffer else [])) := by
  obtain ⟨h', el', hl, hel', -, hb, hf', hin, hw⟩ := loop_preparatory (Response.new buffer stream)
    { conn.eventLoop.reregister with running := true } rfl rfl hf hws ticks
  refine ⟨h', el', hl, by rw [hel']; rfl, hb, hf', hin, fun hroom => ?_⟩
  obtain ⟨he, hs⟩ := hw rfl fun _ => hroom
  exact ⟨he, by simpa [EventLoop.reregister] using hs⟩

/-- **`send` returns the answer the peer framed.** On a healthy socket with room for the framed
request, when preparatory ticks in any order bring the socket one frame of an answer, the next
poll that reports it readable and not writable makes `send` return that answer, whatever follows.
The request was written once if a writable poll came, the socket holds what followed the frame,
and the loop is shut down with its timer as it was. -/
theorem send_returns_framed_answer {stream : TcpStream} (hs : conn.socket = some stream)
    (hf : stream.fault = none) (hroom : (frame buffer).length ≤ stream.room) (ws : List Tick)
    (hws : ∀ t ∈ ws, Preparatory t) (extra : List UInt8)
    (hin : stream.inbox ++ received ws = frame answer ++ extra) (hlen : answer.length < 65536)
    {events : EventSet} (hw : events.writable = false) (hr : events.readable = true)
    (rest : List Tick) :
    ∃ stream', conn.send buffer ⟨.ok (), ws ++ .poll events false :: rest⟩ =
        some (.ok (.ok answer,
          ⟨some stream', ⟨false, false, !ws.any writes, conn.eventLoop.timer⟩⟩)) ∧
      stream'.sent = stream.sent ++ (if ws.any writes then frame buffer else []) ∧
      stream'.inbox = extra ∧ stream'.fault = none := by
  obtain ⟨h₂, el₂, hloop, hel₂, -, hf₂, hin₂, hw₂⟩ :=
    send_preparatory conn buffer hf hws (.poll events false :: rest)
  obtain ⟨he₂, hs₂⟩ := hw₂ hroom
  have hd := (Framing.decodeLen_lenBytes answer.length).trans (Nat.mod_eq_of_lt hlen)
  have hin' : h₂.stream.inbox = UInt8.ofNat (answer.length >>> 8 &&& 0xFF) ::
      UInt8.ofNat (answer.length &&& 0xFF) :: (answer ++ extra) := by
    rw [hin₂]; simpa [frame, lenBytes] using hin
  have hw' : (el₂.report events).writable = false := by simp [report, hw]
  have hr' : (el₂.report events).readable = true := by simp [hel₂, report, hr]
  have hstep : el₂.step h₂ (.poll events false) =
      .ok ({ h₂ with stream.inbox := extra, buf := some answer },
        ⟨false, false, !ws.any writes, conn.eventLoop.timer⟩) := by
    rw [EventLoop.step, runOnce_unexpired, ready_read_frame hf₂ hw' hr' hin' (by simp [hd])]
    simp [hd, hel₂, fire, report, shutdown, hr, hw]
  exact ⟨_, send_of_loop_answer hs (hloop.trans (loop_cons_stopped hstep rfl rest)) he₂ rfl,
    hs₂, rfl, hf₂⟩

/-- The request `[7]` written, then its answer `[9]` arriving framed. -/
def writeThenAnswer : List Tick := [.poll ⟨false, true, false, false⟩ false, .recv [0, 1, 9]]

theorem send_returns_framed_answer_example :
    ∃ stream', idleConn.send [7]
        ⟨.ok (), writeThenAnswer ++ .poll ⟨true, false, false, false⟩ false :: []⟩ =
        some (.ok (.ok [9], ⟨some stream',
          ⟨false, false, !writeThenAnswer.any writes, idleConn.eventLoop.timer⟩⟩)) ∧
      stream'.sent = [] ++ (if writeThenAnswer.any writes then frame [7] else []) ∧
      stream'.inbox = [] ∧ stream'.fault = none :=
  send_returns_framed_answer (show idleConn.socket = some ⟨[], 512, [], false, none⟩ from rfl)
    rfl (by decide) writeThenAnswer (by simp [writeThenAnswer, Preparatory]) []
    (show [] ++ received writeThenAnswer = frame [9] ++ [] from rfl) (by decide) rfl rfl []

/-- **The timer fails the exchange, even after the answer.** On a healthy socket with the timer
pending, preparatory ticks then a poll at which the timer expired make `send` return `TimedOut`
whatever the poll's event, even one that read the whole answer; a poll before the timer reporting
only an error or hang-up makes it return `NoDataReceived`. Either way the socket is gone. -/
theorem send_fails_before_readable {stream : TcpStream} (hs : conn.socket = some stream)
    (hf : stream.fault = none) (ht : conn.eventLoop.timer = true) (ws : List Tick)
    (hws : ∀ t ∈ ws, Preparatory t) (buffer : List UInt8) (rest : List Tick) :
    (∀ events : EventSet, ∃ el', conn.send buffer ⟨.ok (), ws ++ .poll events true :: rest⟩ =
        some (.ok (.error .timedOut, ⟨none, el'⟩))) ∧
      ∀ events : EventSet, events.writable = false → events.readable = false →
        (events.error || events.hup) = true → ∃ el',
          conn.send buffer ⟨.ok (), ws ++ .poll events false :: rest⟩ =
            some (.ok (.error .noDataReceived, ⟨none, el'⟩)) := by
  refine ⟨fun events => ?_, fun events hw hr he => ?_⟩
  · obtain ⟨h₂, el₂, hloop, hel₂, -⟩ :=
      send_preparatory conn buffer hf hws (.poll events true :: rest)
    obtain ⟨herr, hstop⟩ := runOnce_timeout (h := h₂) (show el₂.timer = true by rw [hel₂]; exact ht)
      events
    have hs₂ : el₂.step h₂ (.poll events true) =
        .ok ((el₂.runOnce h₂ events true).1, (el₂.runOnce h₂ events true).2) := rfl
    exact ⟨_, send_of_loop_error hs (hloop.trans (loop_cons_stopped hs₂ hstop rest)) herr⟩
  · obtain ⟨h₂, el₂, hloop, hel₂, -⟩ :=
      send_preparatory conn buffer hf hws (.poll events false :: rest)
    have hw' : (el₂.report events).writable = false := by simp [report, hw]
    have hr' : (el₂.report events).readable = false := by simp [report, hr]
    have hrep : ((el₂.report events).error || (el₂.report events).hup) = true := by
      simpa [hel₂, report] using he
    have hs₂ : el₂.step h₂ (.poll events false) = .ok ({ h₂ with error := some .noDataReceived },
        (el₂.fire (el₂.report events)).shutdown) := by
      rw [EventLoop.step, runOnce_unexpired, ready_idle hw' hr', if_pos hrep]
    exact ⟨_, send_of_loop_error hs (hloop.trans (loop_cons_stopped hs₂ rfl rest)) rfl⟩

theorem send_fails_before_readable_example :
    (∀ events : EventSet, ∃ el', idleConn.send [7]
        ⟨.ok (), writeThenAnswer ++ .poll events true :: []⟩ =
          some (.ok (.error .timedOut, ⟨none, el'⟩))) ∧
      ∀ events : EventSet, events.writable = false → events.readable = false →
        (events.error || events.hup) = true → ∃ el', idleConn.send [7]
          ⟨.ok (), writeThenAnswer ++ .poll events false :: []⟩ =
            some (.ok (.error .noDataReceived, ⟨none, el'⟩)) :=
  send_fails_before_readable (show idleConn.socket = some ⟨[], 512, [], false, none⟩ from rfl) rfl
    rfl writeThenAnswer (by simp [writeThenAnswer, Preparatory]) [7] []

/-! ## A read before the whole frame

The readable branch assumes "we will always be able to read two bytes", and
then the bytes they announce. When they have not all arrived it records an
error and returns with the loop running, the bytes it took gone; and the read
filter, oneshot, has fired. No later event reads, so the answer never comes. -/

/-- The answer `[0, 0]` split after its length bytes: the read takes them and finds nothing more,
the rest arrives after the read filter has fired, and the timer ends the exchange. -/
def splitTicks : List Tick :=
  [.poll ⟨false, true, false, false⟩ false, .recv [0, 2], .poll ⟨true, false, false, false⟩ false,
    .recv [0, 0], .poll ⟨true, false, false, false⟩ false, .poll ⟨false, false, false, false⟩ true]

end TrustDns.Tcp.Exchange
