import Sponge.StreamReassemblerReach
import Sponge.TCPConnectionInbound
import Sponge.TCPReceiverSynPosition

namespace Sponge.TCPConnection

/-!
# The flag that skips the final wait

A FIN that arrives before the local one is sent means that this side closes
last and need not linger.  The flag is cleared from the header bit alone, before
the window test and the reassembly.  It therefore stands for a passive close
only if the FIN then ends the inbound stream, which the state before the segment
decides.
-/

/-- A payload is a string, and no string is longer than this. -/
def Op.Sized : Op → Prop
  | .segmentReceived _ seg => seg.payload.length < 2 ^ 63
  | _ => True

theorem confined_after
    (cfg : TCPConfig)
    (random : WrappingInt32)
    {calls : List Op}
    (sized : ∀ call ∈ calls, call.Sized) :
    (Session.after cfg random
      calls).connection.receiver.reassembler.Confined := by
  refine Execution.EveryStep.invariant
    (fun session : Session =>
      session.connection.receiver.reassembler.Confined)
    ?_ (StreamReassembler.confined_new cfg.recvCapacity)
    (Execution.EveryStep.of_forall_mem sized _)
  intro session op confined opSized
  refine perform_receiver_of_received
    (fun receiver => receiver.reassembler.Confined)
    (fun _ held => held.congr rfl rfl) (fun _ _ held => held.congr rfl rfl)
    session.connection op ?_ confined
  rintro receiver order seg rfl held
  exact TCPReceiver.confined_segmentReceived held opSized order

section Ended

variable {seg : TCPSegment} {connection : TCPConnection}

end Ended

end Sponge.TCPConnection
