import TrustDns.Tcp.ClientConnection

/-! # What `send` leaves behind

`send` re-registers the socket, moves it into the `Response`, runs the event
loop, and puts it back only when an answer was read. Every other way out after
the re-registration (the loop's own error, an error the handler recorded, no
data) returns with the socket gone, and the next `send` panics at
`expect("never none")`. -/

namespace TrustDns.Tcp.Send
open TrustDns.Rust TcpClientConnection

variable {self self' : TcpClientConnection} {buffer : List UInt8} {os : Exchange}
  {res : Except ClientError (List UInt8)}

/-- Without a socket, `send` panics before doing anything. -/
theorem send_of_socket_none (h : self.socket = none) :
    self.send buffer os = some (.error (.expect "never none")) := by
  simp [send, h]

/-- A `send` that returns had a socket, and keeps one exactly when the re-registration failed
or an answer was read. -/
theorem send_socket (h : self.send buffer os = some (.ok (res, self'))) :
    self.socket.isSome ∧ (self'.socket.isSome ↔ (os.reregister.isOk = false ∨ res.isOk)) := by
  unfold send at h
  cases hs : self.socket with
  | none => simp [hs] at h
  | some stream =>
    rcases hr : os.reregister with e | ⟨⟨⟩⟩
    · simp only [hs, hr, expect_some] at h
      cases h; simp [hs, Except.isOk, Except.toBool]
    · simp only [hs, hr, expect_some] at h
      obtain ⟨⟨ran, response, el⟩, -, hout⟩ := Option.map_eq_some'.1 h
      rcases ran with e | ⟨⟨⟩⟩
      · cases hout; simp [Except.isOk, Except.toBool]
      · simp only at hout
        split at hout <;> (try split at hout) <;> cases hout <;> simp [Except.isOk, Except.toBool]

/-- After a `send` that failed past the re-registration, every `send` panics. -/
theorem send_after_failure_panics {e : ClientError} (hr : os.reregister = .ok ())
    (h : self.send buffer os = some (.ok (.error e, self'))) (buffer' : List UInt8)
    (os' : Exchange) : self'.send buffer' os' = some (.error (.expect "never none")) := by
  have hs := ((send_socket h).2.not.2 (by simp [hr, Except.isOk, Except.toBool]))
  exact send_of_socket_none (Option.not_isSome_iff_eq_none.1 hs)

/-- A socket just connected, with nothing sent or received. -/
def freshSocket : TcpStream := ⟨[], 65536, [], false, none⟩

/-- A connection from `new` whose first `send` times out at its first poll, before any answer,
has lost its socket: whatever it sends next, `send` panics at `expect("never none")`. -/
theorem send_after_timeout_panics :
    ∃ conn, new (.ok freshSocket) (.ok ()) (.ok ()) = .ok conn ∧
      ∀ buffer, conn.send buffer ⟨.ok (), [.poll ⟨false, false, false, false⟩ true]⟩ =
          some (.ok (.error .timedOut, ⟨none, ⟨false, true, true, false⟩⟩)) ∧
        ∀ buffer' os', (⟨none, ⟨false, true, true, false⟩⟩ : TcpClientConnection).send buffer' os' =
          some (.error (.expect "never none")) :=
  ⟨⟨some freshSocket, EventLoop.new.timeoutMs⟩, rfl, fun buffer =>
    have h : (⟨some freshSocket, EventLoop.new.timeoutMs⟩ : TcpClientConnection).send buffer
        ⟨.ok (), [.poll ⟨false, false, false, false⟩ true]⟩ =
          some (.ok (.error .timedOut, ⟨none, ⟨false, true, true, false⟩⟩)) := rfl
    ⟨h, send_after_failure_panics rfl h⟩⟩

end TrustDns.Tcp.Send
