import Sponge.TCPReceiver
import Sponge.TCPSender

namespace Sponge

/-!
# State summaries

The official state of a connection is summarised from the counters of its two
halves rather than stored.
-/

/-- Summary of a receiver. -/
inductive TCPReceiverStateSummary where
  | error
  | listen
  | synRecv
  | finRecv
  deriving DecidableEq

/-- Summary of a sender. -/
inductive TCPSenderStateSummary where
  | error
  | closed
  | synSent
  | synAcked
  | finSent
  | finAcked
  deriving DecidableEq

/-- Summarise a receiver. -/
def TCPReceiver.stateSummary
    (receiver : TCPReceiver) : TCPReceiverStateSummary :=
  if receiver.streamOut.error then
    .error
  else if receiver.ackno = none then
    .listen
  else if receiver.streamOut.inputEnded then
    .finRecv
  else
    .synRecv

/-- Summarise a sender. -/
def TCPSender.stateSummary
    (sender : TCPSender) : TCPSenderStateSummary :=
  if sender.stream.error then
    .error
  else if sender.nextSeqnoAbsolute = 0 then
    .closed
  else if sender.nextSeqnoAbsolute = sender.bytesInFlight then
    .synSent
  else if ¬ sender.stream.eof then
    .synAcked
  else if sender.nextSeqnoAbsolute <
      sender.stream.bytesWritten + 2 then
    .synAcked
  else if sender.bytesInFlight ≠ 0 then
    .finSent
  else
    .finAcked

/-- The summary of a connection and its two flags. -/
structure TCPState where
  sender : TCPSenderStateSummary
  receiver : TCPReceiverStateSummary
  active : Bool := true
  lingerAfterStreamsFinish : Bool := true
  deriving DecidableEq

/-- Summarise a connection; a closed one does not linger. -/
def TCPState.ofParts
    (sender : TCPSender)
    (receiver : TCPReceiver)
    (active linger : Bool) : TCPState where
  sender := sender.stateSummary
  receiver := receiver.stateSummary
  active := active
  lingerAfterStreamsFinish := if active then linger else false

/-- The text of a summary of a receiver. -/
def TCPReceiverStateSummary.text : TCPReceiverStateSummary → String
  | .error => "error (connection was reset)"
  | .listen => "waiting for SYN: ackno is empty"
  | .synRecv =>
      "SYN received (ackno exists), and input to stream hasn't ended"
  | .finRecv => "input to stream has ended"

/-- The text of a summary of a sender. -/
def TCPSenderStateSummary.text : TCPSenderStateSummary → String
  | .error => "error (connection was reset)"
  | .closed => "waiting for stream to begin (no SYN sent)"
  | .synSent => "stream started but nothing acknowledged"
  | .synAcked => "stream ongoing"
  | .finSent => "stream finished (FIN sent) but not fully acknowledged"
  | .finAcked => "stream finished and fully acknowledged"

/-- Describe a state in words. -/
def TCPState.name (state : TCPState) : String :=
  "sender=`" ++ state.sender.text ++ "`, receiver=`" ++
    state.receiver.text ++ "`, active=" ++ toString state.active.toNat ++
    ", linger_after_streams_finish=" ++
    toString state.lingerAfterStreamsFinish.toNat

/-- The official states of a connection. -/
inductive TCPState.State where
  | listen
  | synRcvd
  | synSent
  | established
  | closeWait
  | lastAck
  | finWait1
  | finWait2
  | closing
  | timeWait
  | closed
  | reset
  deriving DecidableEq

/-- The summaries and flags of an official state. -/
def TCPState.ofState : TCPState.State → TCPState
  | .listen => { receiver := .listen, sender := .closed }
  | .synRcvd => { receiver := .synRecv, sender := .synSent }
  | .synSent => { receiver := .listen, sender := .synSent }
  | .established => { receiver := .synRecv, sender := .synAcked }
  | .closeWait =>
      { receiver := .finRecv
        sender := .synAcked
        lingerAfterStreamsFinish := false }
  | .lastAck =>
      { receiver := .finRecv
        sender := .finSent
        lingerAfterStreamsFinish := false }
  | .closing => { receiver := .finRecv, sender := .finSent }
  | .finWait1 => { receiver := .synRecv, sender := .finSent }
  | .finWait2 => { receiver := .synRecv, sender := .finAcked }
  | .timeWait => { receiver := .finRecv, sender := .finAcked }
  | .reset =>
      { receiver := .error
        sender := .error
        lingerAfterStreamsFinish := false
        active := false }
  | .closed =>
      { receiver := .finRecv
        sender := .finAcked
        lingerAfterStreamsFinish := false
        active := false }

end Sponge
