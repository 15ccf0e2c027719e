import Sponge.Execution
import Sponge.TCPOverIPv4

namespace Sponge.TCPOverIPv4Adapter

/-!
# One connection for each listening adapter

A listening adapter binds itself to the first peer that opens a connection.
`Accepts` says when a datagram is unwrapped and what becomes of the adapter;
every other datagram, malformed or spoofed, leaves the adapter as it was.
-/

/-- The segment a datagram carries, if it is a TCP segment that parses. -/
structure Carries
    (dgram : InternetDatagram)
    (seg : TCPSegment) : Prop where
  proto : dgram.header.proto = IPv4Header.protoTcp
  parsed :
    ∃ buffer,
      dgram.payload.toBuffer = .ok buffer ∧
        ({} : TCPSegment).parse buffer dgram.header.pseudoCksum =
          .ok .noError seg

/-- The datagram opens a connection to the port the adapter listens on. -/
structure Opens
    (adapter : TCPOverIPv4Adapter)
    (seg : TCPSegment) : Prop where
  listening : adapter.listen = true
  port : seg.header.dport = adapter.config.source.port
  syn : seg.header.syn = true
  noRst : seg.header.rst = false

/-- The datagram travels between the two ends the adapter is bound to. -/
structure Belongs
    (adapter : TCPOverIPv4Adapter)
    (dgram : InternetDatagram)
    (seg : TCPSegment) : Prop where
  bound : adapter.listen = false
  dst : dgram.header.dst = adapter.config.source.ipv4Numeric
  src : dgram.header.src = adapter.config.destination.ipv4Numeric
  dport : seg.header.dport = adapter.config.source.port
  sport : seg.header.sport = adapter.config.destination.port

/-- A datagram that is unwrapped, and the adapter afterwards. -/
def Accepts
    (adapter : TCPOverIPv4Adapter)
    (dgram : InternetDatagram)
    (seg : TCPSegment)
    (after : TCPOverIPv4Adapter) : Prop :=
  Carries dgram seg ∧
    (adapter.Opens seg ∧ after = adapter.adoptPeer dgram seg ∨
      adapter.Belongs dgram seg ∧ after = adapter)

/-- No segment is returned and the adapter stays as it was. -/
structure Ignores
    (adapter : TCPOverIPv4Adapter)
    (result :
      EStateM.Result StdException TCPOverIPv4Adapter
        (Option TCPSegment)) : Prop where
  unchanged : finalState result = adapter
  nothing : ∀ seg, returned result ≠ some (some seg)

theorem ignores_none
    (adapter : TCPOverIPv4Adapter) :
    adapter.Ignores (.ok none adapter) :=
  ⟨rfl, by simp [returned]⟩

theorem ignores_error
    (adapter : TCPOverIPv4Adapter)
    (thrown : StdException) :
    adapter.Ignores (.error thrown adapter) :=
  ⟨rfl, by simp [returned]⟩

/-- The last part of `unwrap_tcp_in_ip`, for a segment that parsed. -/
def dispatch
    (dgram : InternetDatagram)
    (seg : TCPSegment)
    (adapter : TCPOverIPv4Adapter) :
    EStateM.Result StdException TCPOverIPv4Adapter (Option TCPSegment) :=
  if seg.header.dport ≠ adapter.config.source.port then
    .ok none adapter
  else if adapter.listen ∧ ¬ (seg.header.syn ∧ ¬ seg.header.rst) then
    .ok none adapter
  else
    let adapter :=
      if adapter.listen then
        adapter.adoptPeer dgram seg
      else
        adapter
    if seg.header.sport ≠ adapter.config.destination.port then
      .ok none adapter
    else
      .ok (some seg) adapter

/-- The addresses of a datagram only matter once the adapter is bound. -/
structure EndsMatch
    (adapter : TCPOverIPv4Adapter)
    (dgram : InternetDatagram) : Prop where
  dst :
    adapter.listen = false →
    dgram.header.dst = adapter.config.source.ipv4Numeric
  src :
    adapter.listen = false →
    dgram.header.src = adapter.config.destination.ipv4Numeric

/-- The tests that come before the segment is looked at. -/
theorem unwrapTcpInIp_parses
    (dgram : InternetDatagram)
    (adapter : TCPOverIPv4Adapter) :
    adapter.Ignores (adapter.unwrapTcpInIp dgram) ∨
      ∃ seg,
        Carries dgram seg ∧ adapter.EndsMatch dgram ∧
          adapter.unwrapTcpInIp dgram = adapter.dispatch dgram seg := by
  unfold unwrapTcpInIp
  by_cases notForUs :
      ¬ adapter.listen ∧
        dgram.header.dst ≠ adapter.config.source.ipv4Numeric
  · rw [if_pos notForUs]
    exact .inl (ignores_none adapter)
  by_cases notFromPeer :
      ¬ adapter.listen ∧
        dgram.header.src ≠ adapter.config.destination.ipv4Numeric
  · rw [if_neg notForUs, if_pos notFromPeer]
    exact .inl (ignores_none adapter)
  by_cases otherProto : dgram.header.proto ≠ IPv4Header.protoTcp
  · rw [if_neg notForUs, if_neg notFromPeer, if_pos otherProto]
    exact .inl (ignores_none adapter)
  rw [if_neg notForUs, if_neg notFromPeer, if_neg otherProto]
  cases toBuffer : dgram.payload.toBuffer with
  | error thrown =>
      exact .inl (ignores_error adapter thrown)
  | ok buffer =>
      dsimp only
      cases parsed :
          ({} : TCPSegment).parse buffer dgram.header.pseudoCksum with
      | error thrown left =>
          exact .inl (ignores_error adapter thrown)
      | ok result seg =>
          dsimp only
          by_cases invalid : result ≠ .noError
          · rw [if_pos invalid]
            exact .inl (ignores_none adapter)
          have valid : result = .noError := Decidable.not_not.mp invalid
          subst valid
          rw [if_neg invalid]
          refine .inr ⟨seg, ⟨Decidable.not_not.mp otherProto, buffer,
            toBuffer, parsed⟩, ⟨?_, ?_⟩, rfl⟩
          · intro bound
            simpa [bound] using notForUs
          · intro bound
            simpa [bound] using notFromPeer

/-- The tests on the segment, of which the last follows the binding. -/
theorem dispatch_cases
    {dgram : InternetDatagram}
    {seg : TCPSegment}
    {adapter : TCPOverIPv4Adapter}
    (carries : Carries dgram seg)
    (endsMatch : adapter.EndsMatch dgram) :
    adapter.Ignores (adapter.dispatch dgram seg) ∨
      ∃ after,
        adapter.dispatch dgram seg = .ok (some seg) after ∧
          adapter.Accepts dgram seg after := by
  unfold dispatch
  by_cases otherPort : seg.header.dport ≠ adapter.config.source.port
  · rw [if_pos otherPort]
    exact .inl (ignores_none adapter)
  have port := Decidable.not_not.mp otherPort
  rw [if_neg otherPort]
  cases listens : adapter.listen with
  | true =>
      by_cases opens : seg.header.syn ∧ ¬ seg.header.rst
      · refine .inr ⟨adapter.adoptPeer dgram seg, ?_, carries,
          .inl ⟨⟨listens, port, opens.1, ?_⟩, rfl⟩⟩
        · simp [opens, adoptPeer]
        · exact Bool.eq_false_of_not_eq_true opens.2
      · rw [if_pos ⟨rfl, opens⟩]
        exact .inl (ignores_none adapter)
  | false =>
      by_cases stranger :
          seg.header.sport ≠ adapter.config.destination.port
      · left
        simpa [stranger] using ignores_none adapter
      · right
        exact ⟨adapter, by simp [stranger], carries,
          .inr ⟨⟨listens, endsMatch.dst listens, endsMatch.src listens,
            port, Decidable.not_not.mp stranger⟩, rfl⟩⟩

/-- A call either returns a segment it accepts or changes nothing. -/
theorem unwrapTcpInIp_cases
    (dgram : InternetDatagram)
    (adapter : TCPOverIPv4Adapter) :
    adapter.Ignores (adapter.unwrapTcpInIp dgram) ∨
      ∃ seg after,
        adapter.unwrapTcpInIp dgram = .ok (some seg) after ∧
          adapter.Accepts dgram seg after := by
  rcases unwrapTcpInIp_parses dgram adapter with
    ignored | ⟨seg, carries, endsMatch, same⟩
  · exact .inl ignored
  · rw [same]
    exact (dispatch_cases carries endsMatch).imp_right
      fun ⟨after, returned, accepts⟩ => ⟨seg, after, returned, accepts⟩

/-- An adapter and the segments it returned, with the datagrams they came in. -/
structure Inbox where
  adapter : TCPOverIPv4Adapter
  delivered : List (InternetDatagram × TCPSegment) := []

namespace Inbox

/-- Feed one datagram to the adapter. -/
def step
    (inbox : Inbox)
    (dgram : InternetDatagram) : Inbox where
  adapter := finalState (inbox.adapter.unwrapTcpInIp dgram)
  delivered :=
    inbox.delivered ++
      match returned (inbox.adapter.unwrapTcpInIp dgram) with
      | some (some seg) => [(dgram, seg)]
      | _ => []

/-- Feed a sequence of datagrams to an adapter. -/
def after
    (adapter : TCPOverIPv4Adapter)
    (dgrams : List InternetDatagram) : Inbox :=
  Execution.run step { adapter := adapter } dgrams

/-- A delivery between the same two ends as an earlier one. -/
def SameEnds
    (first later : InternetDatagram × TCPSegment) : Prop :=
  later.1.header.src = first.1.header.src ∧
    later.2.header.sport = first.2.header.sport ∧
    later.1.header.dst = first.1.header.dst ∧
    later.2.header.dport = first.2.header.dport

/--
What was delivered so far: nothing, and the adapter is untouched, or first the
opening of a connection, and the adapter is bound to it.
-/
inductive Isolated
    (initial : TCPOverIPv4Adapter) :
    Inbox → Prop where
  | waiting :
      Isolated initial { adapter := initial }
  | bound
      {first : InternetDatagram × TCPSegment}
      {rest : List (InternetDatagram × TCPSegment)}
      (opens : initial.Opens first.2)
      (sameEnds : ∀ later ∈ rest, SameEnds first later) :
      Isolated initial {
        adapter := initial.adoptPeer first.1 first.2
        delivered := first :: rest
      }

theorem step_of_accepted
    {inbox : Inbox}
    {dgram : InternetDatagram}
    {seg : TCPSegment}
    {after : TCPOverIPv4Adapter}
    (returns : inbox.adapter.unwrapTcpInIp dgram = .ok (some seg) after) :
    inbox.step dgram =
      { adapter := after
        delivered := inbox.delivered ++ [(dgram, seg)] } := by
  simp only [step, returns, finalState, returned]

theorem step_of_ignored
    {inbox : Inbox}
    {dgram : InternetDatagram}
    (ignored :
      inbox.adapter.Ignores (inbox.adapter.unwrapTcpInIp dgram)) :
    inbox.step dgram = inbox := by
  have silent :
      (match returned (inbox.adapter.unwrapTcpInIp dgram) with
        | some (some seg) => [(dgram, seg)]
        | _ => []) = [] := by
    split
    · rename_i seg returns
      exact (ignored.nothing seg returns).elim
    · rfl
  rw [step, ignored.unchanged, silent, List.append_nil]

theorem Isolated.step
    {initial : TCPOverIPv4Adapter}
    {inbox : Inbox}
    (isolated : Isolated initial inbox)
    (listening : initial.listen = true)
    (dgram : InternetDatagram) :
    Isolated initial (inbox.step dgram) := by
  rcases unwrapTcpInIp_cases dgram inbox.adapter with
    ignored | ⟨seg, after, returns, _, accepted⟩
  · rw [step_of_ignored ignored]
    exact isolated
  · rw [step_of_accepted returns]
    cases isolated with
    | waiting =>
        rcases accepted with ⟨opens, rfl⟩ | ⟨belongs, _⟩
        · exact @Isolated.bound initial (dgram, seg) [] opens (by simp)
        · have bound : initial.listen = false := belongs.bound
          rw [listening] at bound
          cases bound
    | @bound first rest opens sameEnds =>
        rcases accepted with ⟨again, _⟩ | ⟨belongs, rfl⟩
        · cases again.listening
        · refine .bound opens ?_
          intro later member
          rcases List.mem_append.mp member with earlier | last
          · exact sameEnds later earlier
          · rw [List.mem_singleton.mp last]
            exact ⟨belongs.src, belongs.sport, belongs.dst,
              belongs.dport.trans opens.port.symm⟩

end Inbox

/--
A listening adapter serves one connection.  Whatever datagrams it is fed, the
first segment it returns is a SYN without RST for the port it was configured
with, every later one travels between the same two addresses and ports, and a
datagram for which nothing is returned leaves the adapter unchanged.
-/
theorem listening_isolates_connection
    (adapter : TCPOverIPv4Adapter)
    (listening : adapter.listen = true)
    (dgrams : List InternetDatagram) :
    let inbox := Inbox.after adapter dgrams
    (∀ first rest,
      inbox.delivered = first :: rest →
      first.2.header.syn = true ∧
        first.2.header.rst = false ∧
        first.2.header.dport = adapter.config.source.port ∧
        ∀ later ∈ rest,
          later.1.header.src = first.1.header.src ∧
            later.2.header.sport = first.2.header.sport ∧
            later.1.header.dst = first.1.header.dst ∧
            later.2.header.dport = first.2.header.dport) ∧
      ∀ dgram,
        (∀ seg,
          returned (inbox.adapter.unwrapTcpInIp dgram) ≠
            some (some seg)) →
        finalState (inbox.adapter.unwrapTcpInIp dgram) =
          inbox.adapter := by
  intro inbox
  have isolated : Inbox.Isolated adapter inbox :=
    Execution.run_invariant (Inbox.Isolated adapter)
      (fun _ dgram isolated => isolated.step listening dgram)
      .waiting dgrams
  constructor
  · intro first rest delivered
    generalize inbox = final at isolated delivered
    cases isolated with
    | waiting =>
        cases delivered
    | bound opens sameEnds =>
        cases delivered
        exact ⟨opens.syn, opens.noRst, opens.port, sameEnds⟩
  · intro dgram nothing
    rcases unwrapTcpInIp_cases dgram inbox.adapter with
      ignored | ⟨seg, after, returns, _⟩
    · exact ignored.unchanged
    · exact (nothing seg (by rw [returns]; rfl)).elim

/-- The server of `serverAdapter` before it knows its peer. -/
def listeningAdapter : TCPOverIPv4Adapter where
  config := { source := { ipv4Numeric := 0, port := 80 } }
  listen := true

/-- A segment of the client as it arrives, in one buffer. -/
def arriving (seg : TCPSegment) : InternetDatagram :=
  match clientAdapter.wrapTcpInIp seg with
  | .ok dgram _ =>
      { dgram with payload := [Buffer.ofString dgram.payload.concatenate] }
  | .error _ _ => {}

/-- Data before the SYN is not returned, the SYN is, and data after it. -/
theorem listening_isolates_connection_syn :
    let inbox :=
      Inbox.after listeningAdapter
        [arriving { payload := [97] },
          arriving { header := { syn := true } },
          arriving { payload := [97] }]
    inbox.delivered.length = 2 ∧
      ∀ first rest,
        inbox.delivered = first :: rest →
        first.2.header.syn = true ∧
          ∀ later ∈ rest, later.1.header.src = first.1.header.src := by
  refine ⟨by decide +kernel, ?_⟩
  intro first rest delivered
  obtain ⟨syn, _, _, same⟩ :=
    (listening_isolates_connection listeningAdapter rfl _).1 first rest
      delivered
  exact ⟨syn, fun later member => (same later member).1⟩

end Sponge.TCPOverIPv4Adapter
