import TokenTransfer.Proofs.PayloadRoundTrip
import TokenTransfer.Proofs.Reconstruction

namespace TokenTransfer

def TransferOrder.Readable (encoding : PayloadEncoding) (order : TransferOrder) : Prop :=
  order.denom ≠ "" ∧ (encoding = .json → order.receiver ≠ "")

theorem Payload.refusal_readable (encoding : PayloadEncoding) (caller : Address) (order : TransferOrder) :
    refusal? encoding (Chain.orderData caller order) = none ↔ order.Readable encoding := by
  have named : caller.text ≠ "" := by
    intro nothing
    have filled := Address.text_filled caller
    rw [nothing] at filled
    cases filled
  rw [refusal_none]
  exact and_congr_right fun _ => forall_congr' fun _ => and_iff_right named

namespace Host
variable {host : Host} {request : Request} {packet : Packet} {caller : Address}

theorem receive_reads (granted : (host.step (.receive caller packet)).1.isOk = true) :
    ∃ data, Payload.decode host.chain.config.encoding packet.data = .ok data := by
  obtain ⟨reply,stepped⟩ := step_granted granted
  obtain ⟨event,_,received⟩ := step_receive stepped
  obtain ⟨credit,receipt,_⟩ := Chain.receive_exact.mp received
  obtain ⟨_,_,_,data,_,decoded,_⟩ := Chain.receipt_exact.mp receipt
  exact ⟨data,decoded⟩

theorem recover_reads (asked : request.refunds? = some packet)
    (lost : host.chain.outbound.inFlight.find packet.id = none) (granted : (host.step request).1.isOk = true) :
    ∃ data, Payload.decode host.chain.config.encoding packet.data = .ok data := by
  obtain ⟨reply,stepped⟩ := step_granted granted
  obtain ⟨event,debit,refunded⟩ := refund_granted asked stepped
  obtain ⟨_,entry,_,charged,_⟩ := Chain.refund_exact.mp refunded
  unfold Chain.charged at charged
  rw [lost] at charged
  obtain ⟨data,_,_,decoded,_⟩ := Chain.reconstruct_exact.mp charged
  exact ⟨data,decoded⟩

theorem unread_refused (unread : ¬∃ data, Payload.decode host.chain.config.encoding packet.data = .ok data) :
    (∀ relayer, (host.step (.receive relayer packet)).1.isOk = false) ∧
      (host.chain.outbound.inFlight.find packet.id = none →
        ∀ request, request.refunds? = some packet → (host.step request).1.isOk = false) := by
  refine ⟨fun relayer => ?_,fun lost request asked => ?_⟩
  · rw [Bool.eq_false_iff]
    exact fun granted => unread (receive_reads granted)
  · rw [Bool.eq_false_iff]
    exact fun granted => unread (recover_reads asked lost granted)

-- The packet of a readable order says what was asked. That of any other is sent all the
-- same: nobody can receive it then, nor refund it but from a record.
theorem sent_readable (host : Host) (caller : Address) (order : TransferOrder) (sent : SentPacket)
    (answered : (host.step (.send caller order)).1 = .ok (.sent sent))
    (short : sent.packet.data.length < UInt32.size) :
    let encoding := host.chain.config.encoding
    let read := Payload.decode encoding sent.packet.data
    (order.Readable encoding → ∃ data, read = .ok data ∧ data.denom = order.denom ∧ data.amount = order.amount ∧
      data.memo = order.memo ∧ Address.read? data.sender = some caller) ∧
      (¬order.Readable encoding → (∃ error, read = .error error) ∧
        ∀ other : Host, other.chain.config.encoding = encoding →
          (∀ relayer, (other.step (.receive relayer sent.packet)).1.isOk = false) ∧
            (other.chain.outbound.inFlight.find sent.packet.id = none →
              ∀ request, request.refunds? = some sent.packet → (other.step request).1.isOk = false)) := by
  intro encoding read
  have outcome := Payload.decode_written (sent_leaves answered).written short
  have fine := Payload.refusal_readable encoding caller order
  cases refused : Payload.refusal? encoding (Chain.orderData caller order) with
  | none =>
    rw [refused] at outcome fine
    refine ⟨fun _ => ⟨_,outcome,Payload.delivered_denom,Payload.delivered_amount,Payload.delivered_memo,?_⟩,
      fun unreadable => absurd (fine.mp rfl) unreadable⟩
    exact Payload.delivered_sender.trans (Address.text_roundtrip caller)
  | some error =>
    rw [refused] at outcome fine
    refine ⟨fun readable => absurd (fine.mpr readable) nofun,fun _ => ⟨⟨error,outcome⟩,?_⟩⟩
    intro other same
    apply unread_refused
    intro found
    obtain ⟨data,decoded⟩ := found
    rw [same] at decoded
    cases outcome.symm.trans decoded

theorem sent_readable_delivery :
    ∃ sent, (loaded.step (delivery 4)).1 = .ok (.sent sent) ∧ sent.packet.data.length < UInt32.size ∧
      ∃ data, Payload.decode loaded.chain.config.encoding sent.packet.data = .ok data ∧ data.denom = "stone" ∧
        data.amount = stones 4 ∧ data.memo = "" ∧ Address.read? data.sender = some guest := by
  have facts : ∃ departure ∈ loaded.departed (delivery 4),
      (loaded.step (delivery 4)).1 = .ok (.sent departure.sent) ∧ departure.packet.data.length < UInt32.size := by
    decide +kernel
  obtain ⟨departure,_,answered,short⟩ := facts
  have readable := (sent_readable loaded guest _ departure.sent answered short).1 ⟨by decide,nofun⟩
  exact ⟨departure.sent,answered,short,readable⟩

-- A relay that writes JSON sends for its guest to a receiver without a name, and
-- tokens without one: both are charged, and neither packet is read again.
def jsonRelayed : Host :=
  (relayed.run (.restart {Config.new relay with encoding := .json} :: opening ++ [.mint relay guest "" (stones 3)])).2

def toNobody : TransferOrder := ⟨reported.source,"stone",stones 4,"","",.zero,0⟩

def ofNothing : TransferOrder := ⟨reported.source,"",stones 3,relay.text,"",.zero,0⟩

theorem sent_unreadable :
    (∃ sent, (jsonRelayed.step (.send guest toNobody)).1 = .ok (.sent sent) ∧ sent.packet.data.length < UInt32.size ∧
      Payload.decode jsonRelayed.chain.config.encoding sent.packet.data = .error .receiverMissing) ∧
    ∃ sent, (jsonRelayed.step (.send guest ofNothing)).1 = .ok (.sent sent) ∧ sent.packet.data.length < UInt32.size ∧
      Payload.decode jsonRelayed.chain.config.encoding sent.packet.data = .error .denomMissing := by
  have facts : (∃ departure ∈ jsonRelayed.departed (.send guest toNobody),
      (jsonRelayed.step (.send guest toNobody)).1 = .ok (.sent departure.sent) ∧
        departure.packet.data.length < UInt32.size ∧
        Payload.decode jsonRelayed.chain.config.encoding departure.packet.data = .error .receiverMissing) ∧
      ∃ departure ∈ jsonRelayed.departed (.send guest ofNothing),
        (jsonRelayed.step (.send guest ofNothing)).1 = .ok (.sent departure.sent) ∧
          departure.packet.data.length < UInt32.size ∧
          Payload.decode jsonRelayed.chain.config.encoding departure.packet.data = .error .denomMissing := by decide +kernel
  obtain ⟨⟨first,_,one⟩,⟨second,_,two⟩⟩ := facts
  exact ⟨⟨first.sent,one⟩,⟨second.sent,two⟩⟩

end Host
end TokenTransfer
