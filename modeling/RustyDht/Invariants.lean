import RustyDht.System

set_option linter.unusedSectionVars false

/-! Invariants of every run: who enters the routing table and votes on our address, how
long an announce token stays good, and how our id and the storage's key move together. -/
namespace RustyDht

section

variable {σ α π : Type} [NodeStorage σ] [IPV4AddrSource α] [PeerStorage π] [Bep42]

theorem mem_periodicIp4Maintenance {st : DHTState σ α π} {randomId : Id} {eff : Effect}
    (made : eff ∈ (st.periodicIp4Maintenance randomId).2) :
    eff = .setId (st.periodicIp4Maintenance randomId).1.ourId := by
  rcases (periodicIp4Maintenance_spec st randomId).2.2.2.2 with ⟨-, -, -, -, calls⟩ | ⟨-, calls, -⟩ <;>
    rw [calls] at made
  · exact List.mem_singleton.mp made
  · cases made

theorem step_upsert {s s' : Sys σ α π} {e : Event} {effects : List Effect}
    (stepped : s.step e = some (s', effects)) {node : Node} {verified : Bool}
    (made : .addOrUpdate node verified ∈ effects) :
    Bep42.isValidForIp node.id node.address.ip = true ∧
    ((∃ throttled now msg, e = .receive (.ok (msg, node.address)) throttled now ∧
        msg.getAuthorId = some node.id ∧ msg.readOnly ≠ some true ∧ verified = false) ∨
      (∃ i reply now t request response, e = .deliver i (some reply) now ∧
        s.tasks[i]? = some t ∧ t.phase = .awaiting request ∧
        reply.messageType = .response response ∧ node = ⟨response.responderId, t.target⟩ ∧
        verified = true) ∨
      (∃ i now t nodes, e = .store i now ∧ s.tasks[i]? = some t ∧ t.phase = .storing nodes ∧
        node ∈ nodes ∧ verified = false)) := by
  cases mem_step stepped made with
  | request throttled now msg _ _ _ _ _ common =>
    obtain ⟨sender, upsert, author, valid, writable⟩ := mem_commonRequestHandling common
    cases upsert
    exact ⟨valid, .inl ⟨throttled, now, msg, rfl, author, writable, rfl⟩⟩
  | answer _ _ _ _ _ _ _ _ answer =>
    obtain (⟨_, -, -, ⟨⟩⟩ | ⟨_, _, _, ⟨⟩⟩) := mem_answerRequest answer
  | response i reply now t request response _ found waiting isResponse handled =>
    obtain ⟨valid, upsert | ⟨-, -, -, ⟨⟩, -⟩⟩ := mem_handleResponse handled
    cases upsert
    exact ⟨valid, .inr (.inl ⟨i, reply, now, t, request, response, rfl, found, waiting,
      isResponse, rfl, rfl⟩)⟩
  | store i now t nodes _ found storing stored =>
    obtain ⟨n, listed, upsert, valid⟩ := mem_storeFoundNodes stored
    cases upsert
    exact ⟨valid, .inr (.inr ⟨i, now, t, nodes, rfl, found, storing, listed, rfl⟩)⟩
  | maintenance _ _ maintained => cases mem_periodicIp4Maintenance maintained

theorem step_vote {s s' : Sys σ α π} {e : Event} {effects : List Effect}
    (stepped : s.step e = some (s', effects)) {voter proposed : Ipv4Addr}
    (made : .addVote voter proposed ∈ effects) :
    ∃ i reply now t request response port, e = .deliver i (some reply) now ∧
      s.tasks[i]? = some t ∧ t.phase = .awaiting request ∧
      reply.messageType = .response response ∧
      Bep42.isValidForIp response.responderId t.target.ip = true ∧
      t.target.ip = .v4 voter ∧ reply.requesterIp = some ⟨.v4 proposed, port⟩ := by
  cases mem_step stepped made with
  | request _ _ _ _ _ _ _ _ common => obtain ⟨_, ⟨⟩, -, -, -⟩ := mem_commonRequestHandling common
  | answer _ _ _ _ _ _ _ _ answer =>
    obtain (⟨_, -, -, ⟨⟩⟩ | ⟨_, _, _, ⟨⟩⟩) := mem_answerRequest answer
  | response i reply now t request response _ found waiting isResponse handled =>
    obtain ⟨valid, upsert | ⟨_, _, port, vote, ip, claimed⟩⟩ := mem_handleResponse handled
    · cases upsert
    cases vote
    exact ⟨i, reply, now, t, request, response, port, rfl, found, waiting, isResponse, valid, ip,
      claimed⟩
  | store _ _ _ _ _ _ _ stored => obtain ⟨_, -, ⟨⟩, -⟩ := mem_storeFoundNodes stored
  | maintenance _ _ maintained => cases mem_periodicIp4Maintenance maintained

theorem reachable_upserts_valid {s : Sys σ α π} {log : List Effect} (reach : Reachable s log)
    {node : Node} {verified : Bool} (made : .addOrUpdate node verified ∈ log) :
    Bep42.isValidForIp node.id node.address.ip = true := by
  induction reach with
  | init => simp [DHT.new] at made
  | step _ stepped ih =>
    rcases List.mem_append.mp made with old | new
    exacts [ih old, (step_upsert stepped new).1]

/-- What the routing table and the address votes admit. -/
structure Admission (s : Sys σ α π) (log : List Effect) (e : Event) (effects : List Effect) :
    Prop where
  upsertsValid : ∀ node verified, .addOrUpdate node verified ∈ log →
    Bep42.isValidForIp node.id node.address.ip = true
  requesterUpserts : ∀ received throttled now node verified, e = .receive received throttled now →
    .addOrUpdate node verified ∈ effects →
    ∃ msg, received = .ok (msg, node.address) ∧ msg.getAuthorId = some node.id ∧
      msg.readOnly ≠ some true ∧ verified = false
  fromResponses : ∀ eff ∈ effects,
    ((∃ node, eff = .addOrUpdate node true) ∨ ∃ voter proposed, eff = .addVote voter proposed) →
    ∃ i reply now t request, e = .deliver i (some reply) now ∧ s.tasks[i]? = some t ∧
      t.phase = .awaiting request ∧ .sendTo request t.target t.targetId ∈ log ∧
      reply.isResponse = true ∧
      ((∃ author, reply.getAuthorId = some author ∧ eff = .addOrUpdate ⟨author, t.target⟩ true) ∨
        ∃ voter proposed port, eff = .addVote voter proposed ∧ t.target.ip = .v4 voter ∧
          reply.requesterIp = some ⟨.v4 proposed, port⟩)

theorem response_author {reply : Message} {response : ResponseSpecific}
    (isResponse : reply.messageType = .response response) :
    reply.isResponse = true ∧ reply.getAuthorId = some response.responderId := by
  simp [Message.isResponse, Message.getAuthorId, isResponse]

end

section

variable {σ α π : Type} [NodeStorage σ] [IPV4AddrSource α] [PeerStorage π] [Bep42]

theorem run_cons {s s' : Sys σ α π} {e : Event} {rest : List Event} {effects : List Effect}
    (ran : s.run (e :: rest) = some (s', effects)) :
    ∃ s₁ first more, s.step e = some (s₁, first) ∧ s₁.run rest = some (s', more) ∧
      effects = first ++ more := by
  simp only [Sys.run, Option.pure_def, Option.bind_eq_bind] at ran
  obtain ⟨⟨s₁, first⟩, stepped, after⟩ := Option.bind_eq_some.mp ran
  obtain ⟨⟨s₂, more⟩, rest_ran, finished⟩ := Option.bind_eq_some.mp after
  cases finished
  exact ⟨s₁, first, more, stepped, rest_ran, rfl⟩

theorem reachable_run {s s' : Sys σ α π} {log : List Effect} {events : List Event}
    {effects : List Effect} (reach : Reachable s log) (ran : s.run events = some (s', effects)) :
    Reachable s' (log ++ effects) := by
  induction events generalizing s log effects with
  | nil =>
    cases ran
    simpa using reach
  | cons e rest ih =>
    obtain ⟨s₁, first, more, stepped, rest_ran, rfl⟩ := run_cons ran
    simpa using ih (reach.step stepped) rest_ran

theorem Event.isRotation_iff {e : Event} :
    e.isRotation = true ↔ ∃ draw, e = .rotateTokenSecrets draw := by
  cases e <;> simp [Event.isRotation]

theorem step_secrets {s s' : Sys σ α π} {e : Event} {effects : List Effect}
    (stepped : s.step e = some (s', effects)) :
    s'.state.settings = s.state.settings ∧
    (e.isRotation = false → s'.state.tokenSecret = s.state.tokenSecret ∧
      s'.state.oldTokenSecret = s.state.oldTokenSecret) ∧
    (∀ draw, e = .rotateTokenSecrets draw → s'.state.oldTokenSecret = s.state.tokenSecret ∧
      s'.state.tokenSecret = makeTokenSecret s.state.settings.tokenSecretSize draw) := by
  have rotation : ∀ draw, e = .rotateTokenSecrets draw →
      s'.state = s.state.rotateTokenSecrets draw := by
    rintro draw rfl
    exact congrArg Sys.state (some_pair_eq stepped).1
  refine ⟨?_, fun kept => ?_, fun draw rotated => by simp [rotation draw rotated,
    DHTState.rotateTokenSecrets]⟩
  all_goals
    rcases (step_core stepped).2 with ⟨-, token, old, settings⟩ | ⟨randomId, rfl, maintained⟩ |
      ⟨draw, rfl, rotated⟩
  · exact settings
  · simp [maintained, periodicIp4Maintenance_spec]
  · simp [rotated, DHTState.rotateTokenSecrets]
  · exact ⟨token, old⟩
  · simp [maintained, periodicIp4Maintenance_spec]
  · cases kept

theorem run_secrets {s s' : Sys σ α π} {events : List Event} {effects : List Effect}
    (ran : s.run events = some (s', effects)) :
    s'.state.settings = s.state.settings ∧
    (events.filter Event.isRotation = [] →
      s'.state.tokenSecret = s.state.tokenSecret ∧
        s'.state.oldTokenSecret = s.state.oldTokenSecret) ∧
    (∀ draw, events.filter Event.isRotation = [.rotateTokenSecrets draw] →
      s'.state.oldTokenSecret = s.state.tokenSecret ∧
        s'.state.tokenSecret = makeTokenSecret s.state.settings.tokenSecretSize draw) := by
  induction events generalizing s effects with
  | nil =>
    cases ran
    exact ⟨rfl, fun _ => ⟨rfl, rfl⟩, fun _ none => by cases none⟩
  | cons e rest ih =>
    obtain ⟨s₁, first, more, stepped, rest_ran, -⟩ := run_cons ran
    obtain ⟨settings₁, kept₁, rotated₁⟩ := step_secrets stepped
    obtain ⟨settings', kept', rotated'⟩ := ih rest_ran
    refine ⟨settings'.trans settings₁, fun unrotated => ?_, fun draw rotatedOnce => ?_⟩
    · cases rot : e.isRotation <;> simp only [List.filter_cons, rot] at unrotated
      · rw [← (kept₁ rot).1, ← (kept₁ rot).2]
        exact kept' unrotated
      · cases unrotated
    · cases rot : e.isRotation <;> simp only [List.filter_cons, rot] at rotatedOnce
      · rw [← (kept₁ rot).1, ← settings₁]
        exact rotated' draw rotatedOnce
      · simp only [ite_true, List.cons.injEq] at rotatedOnce
        obtain ⟨rfl, unrotated⟩ := rotatedOnce
        rw [(kept' unrotated).1, (kept' unrotated).2]
        exact rotated₁ draw rfl

theorem reachable_secret_lengths {s : Sys σ α π} {log : List Effect} (reach : Reachable s log) :
    s.state.tokenSecret.length = s.state.settings.tokenSecretSize ∧
      s.state.oldTokenSecret.length = s.state.settings.tokenSecretSize := by
  induction reach with
  | init id ip4Source buckets settings randomId secretDraw =>
    obtain ⟨old, token⟩ := DHT.new_secrets (π := π) id ip4Source buckets settings randomId secretDraw
    exact ⟨token, old ▸ token⟩
  | @step s log e s' effects _ stepped ih =>
    obtain ⟨settings, kept, rotated⟩ := step_secrets stepped
    rw [settings]
    cases rot : e.isRotation
    · rw [(kept rot).1, (kept rot).2]
      exact ih
    · obtain ⟨draw, rfl⟩ := Event.isRotation_iff.mp rot
      rw [(rotated draw rfl).1, (rotated draw rfl).2, makeTokenSecret_length]
      exact ⟨rfl, ih.1⟩

theorem rotations_le_one {events : List Event}
    (atMostOne : (events.filter Event.isRotation).length ≤ 1) :
    events.filter Event.isRotation = [] ∨
      ∃ draw, events.filter Event.isRotation = [.rotateTokenSecrets draw] := by
  rcases window : events.filter Event.isRotation with _ | ⟨e, _ | ⟨f, rest⟩⟩
  · exact .inl rfl
  · obtain ⟨draw, rfl⟩ := Event.isRotation_iff.mp
      (List.mem_filter.mp (window ▸ List.mem_singleton_self e)).2
    exact .inr ⟨draw, rfl⟩
  · rw [window] at atMostOne
    simp at atMostOne

theorem step_answer_announce {s : Sys σ α π} {msg : Message} {addr : SocketAddr}
    {arguments : AnnouncePeerRequestArguments}
    (phase : s.accept = .answering msg addr (.announcePeerRequest arguments))
    (valid : s.state.isTokenValid addr arguments.token = true) (now : Instant)
    (shuffle : Nat → Nat) (sent : Except RustyDHTError Unit) :
    ∃ s', s.step (.answer now shuffle sent) = some (s',
      [.announcePeer arguments.infoHash (announcedAddr addr arguments),
        .sendTo (MessageBuilder.newAnnouncePeerResponse s.state.ourId msg.transactionId addr) addr
          (some arguments.requesterId)]) := by
  simp only [Sys.step, phase, DHTState.answerRequest, valid, ite_true]
  exact ⟨_, rfl⟩

end

section

variable {σ α π : Type} [NodeStorage σ] [IPV4AddrSource α] [PeerStorage π] [Bep42]

theorem reachable_answering {s : Sys σ α π} {log : List Effect} (reach : Reachable s log) :
    ∀ msg addr request, s.accept = .answering msg addr request →
      addr.port ≠ 0 ∧ s.readOnly = false ∧ msg.messageType = .request request := by
  induction reach with
  | init => intro _ _ _ answering; cases answering
  | step _ stepped ih =>
    intro msg addr request answering
    rw [(step_core stepped).1]
    rcases step_answering stepped answering with old | ⟨_, -, port, writable, isRequest⟩
    exacts [ih msg addr request old, ⟨port, writable, isRequest⟩]

/-- Announce admission. -/
theorem announce_admission {s s' : Sys σ α π} {log : List Effect} {e : Event}
    {effects : List Effect} (reach : Reachable s log) (stepped : s.step e = some (s', effects))
    {infoHash : Id} {peer : SocketAddr} (made : .announcePeer infoHash peer ∈ effects) :
    ∃ now shuffle sent msg addr arguments, e = .answer now shuffle sent ∧
      s.accept = .answering msg addr (.announcePeerRequest arguments) ∧
      msg.messageType = .request (.announcePeerRequest arguments) ∧ addr.port ≠ 0 ∧
      s.readOnly = false ∧
      (arguments.token = calculateToken addr s.state.tokenSecret ∨
        arguments.token = calculateToken addr s.state.oldTokenSecret) ∧
      infoHash = arguments.infoHash ∧
      peer = (if arguments.impliedPort = some true then addr else ⟨addr.ip, arguments.port⟩) := by
  cases mem_step stepped made with
  | request _ _ _ _ _ _ _ _ common => obtain ⟨_, ⟨⟩, -⟩ := mem_commonRequestHandling common
  | answer now shuffle sent msg addr request _ phase answer =>
    rcases mem_answerRequest answer with ⟨arguments, rfl, valid, recorded⟩ | ⟨_, _, _, ⟨⟩⟩
    cases recorded
    obtain ⟨port, writable, isRequest⟩ := reachable_answering reach _ _ _ phase
    simp only [DHTState.isTokenValid, Bool.or_eq_true, beq_iff_eq] at valid
    exact ⟨now, shuffle, sent, msg, addr, arguments, rfl, phase, isRequest, port, writable, valid,
      rfl, announcedAddr_eq addr arguments⟩
  | response _ _ _ _ _ _ _ _ _ _ handled =>
    obtain ⟨-, upsert | ⟨_, _, _, ⟨⟩, -⟩⟩ := mem_handleResponse handled
    cases upsert
  | store _ _ _ _ _ _ _ stored => obtain ⟨_, -, ⟨⟩, -⟩ := mem_storeFoundNodes stored
  | maintenance _ _ maintained => cases mem_periodicIp4Maintenance maintained

end

theorem announce_admission_of_example :
    ∃ (s s' : Sys NodeTable StaticIPV4AddrSource PeerTable) (log effects : List Effect),
      Reachable s log ∧ s.step (.answer 0 id (.ok ())) = some (s', effects) ∧
      .announcePeer testId exampleRequester ∈ effects ∧
      ∃ now shuffle sent msg addr arguments, Event.answer 0 id (.ok ()) = .answer now shuffle sent ∧
        s.accept = .answering msg addr (.announcePeerRequest arguments) ∧
        msg.messageType = .request (.announcePeerRequest arguments) ∧ addr.port ≠ 0 ∧
        s.readOnly = false ∧
        (arguments.token = calculateToken addr s.state.tokenSecret ∨
          arguments.token = calculateToken addr s.state.oldTokenSecret) ∧
        testId = arguments.infoHash ∧
        exampleRequester =
          (if arguments.impliedPort = some true then addr else ⟨addr.ip, arguments.port⟩) := by
  have first : (Sys.init exampleDht).step (.receive (.ok (exampleAnnounce, exampleRequester)) false 0) =
      some ((Sys.init exampleDht).receive (.ok (exampleAnnounce, exampleRequester)) false 0) := rfl
  have reach := reachable_exampleDht.step first
  have valid : ((Sys.init exampleDht).receive (.ok (exampleAnnounce, exampleRequester)) false
      0).1.state.isTokenValid exampleRequester
        (calculateToken exampleRequester exampleDht.tokenSecret) = true := by
    show (calculateToken exampleRequester exampleDht.tokenSecret ==
      calculateToken exampleRequester exampleDht.tokenSecret || _) = true
    rw [beq_self_eq_true, Bool.true_or]
  have phase : ((Sys.init exampleDht).receive (.ok (exampleAnnounce, exampleRequester)) false
      0).1.accept = .answering exampleAnnounce exampleRequester (.announcePeerRequest
        ⟨exampleRequesterId, testId, 6881, some true,
          calculateToken exampleRequester exampleDht.tokenSecret⟩) := rfl
  obtain ⟨s', stepped⟩ := step_answer_announce phase valid 0 id (.ok ())
  exact ⟨_, s', _, _, reach, stepped, List.mem_cons_self _ _,
    announce_admission reach stepped (List.mem_cons_self _ _)⟩

section

variable {σ α π : Type} [NodeStorage σ] [IPV4AddrSource α] [PeerStorage π] [Bep42]

theorem mem_step_sendTo {s s' : Sys σ α π} {e : Event} {effects : List Effect}
    (stepped : s.step e = some (s', effects)) {reply : Message} {dest : SocketAddr}
    {destId : Option Id} (made : .sendTo reply dest destId ∈ effects) :
    reply.isRequest = true ∨
      ∃ now shuffle sent msg addr request, e = .answer now shuffle sent ∧
        s.accept = .answering msg addr request ∧
        .sendTo reply dest destId ∈ (s.state.answerRequest msg addr request now shuffle sent).effects := by
  cases mem_step stepped made with
  | request _ _ _ _ _ _ _ _ common => obtain ⟨_, ⟨⟩, -⟩ := mem_commonRequestHandling common
  | answer now shuffle sent msg addr request _ phase answer =>
    exact .inr ⟨now, shuffle, sent, msg, addr, request, rfl, phase, answer⟩
  | send _ _ _ task _ _ => exact .inl (buildOutbound_request _ task).1
  | response _ _ _ _ _ _ _ _ _ _ handled =>
    obtain ⟨-, upsert | ⟨_, _, _, ⟨⟩, -⟩⟩ := mem_handleResponse handled
    cases upsert
  | store _ _ _ _ _ _ _ stored => obtain ⟨_, -, ⟨⟩, -⟩ := mem_storeFoundNodes stored
  | sendRequest _ _ _ _ isRequest => exact .inl isRequest
  | maintenance _ _ maintained => cases mem_periodicIp4Maintenance maintained

/-- What the DHT hands to the socket. -/
theorem step_sendTo {s s' : Sys σ α π} {log : List Effect} {e : Event} {effects : List Effect}
    (reach : Reachable s log) (stepped : s.step e = some (s', effects)) {reply : Message}
    {dest : SocketAddr} {destId : Option Id} (made : .sendTo reply dest destId ∈ effects) :
    reply.isRequest = true ∨
      ∃ now shuffle sent msg request, e = .answer now shuffle sent ∧
        s.accept = .answering msg dest request ∧ msg.messageType = .request request ∧
        dest.port ≠ 0 ∧ s.readOnly = false ∧ destId = some request.requesterId ∧
        Answers s.state.ourId msg dest reply := by
  rcases mem_step_sendTo stepped made with
    isRequest | ⟨now, shuffle, sent, msg, addr, request, rfl, phase, answer⟩
  · exact .inl isRequest
  obtain ⟨rfl, toRequester, answers⟩ := answerRequest_sendTo answer
  obtain ⟨port, writable, isRequest⟩ := reachable_answering reach _ _ _ phase
  exact .inr ⟨now, shuffle, sent, msg, request, rfl, phase, isRequest, port, writable,
    toRequester, answers⟩

end

theorem step_sendTo_of_ping :
    ∃ (s s' : Sys NodeTable StaticIPV4AddrSource PeerTable) (log effects : List Effect)
      (reply : Message) (dest : SocketAddr) (destId : Option Id),
      Reachable s log ∧ s.step (.answer 0 id (.ok ())) = some (s', effects) ∧
      .sendTo reply dest destId ∈ effects ∧
      (reply.isRequest = true ∨
        ∃ now shuffle sent msg request, Event.answer 0 id (.ok ()) = .answer now shuffle sent ∧
          s.accept = .answering msg dest request ∧ msg.messageType = .request request ∧
          dest.port ≠ 0 ∧ s.readOnly = false ∧ destId = some request.requesterId ∧
          Answers s.state.ourId msg dest reply) := by
  have first : (Sys.init exampleDht).step (.receive (.ok (examplePing, exampleRequester)) false 0) =
      some ((Sys.init exampleDht).receive (.ok (examplePing, exampleRequester)) false 0) := rfl
  have reach := reachable_exampleDht.step first
  obtain ⟨s', stepped⟩ : ∃ s', ((Sys.init exampleDht).receive (.ok (examplePing, exampleRequester))
      false 0).1.step (.answer 0 id (.ok ())) = some (s', [.sendTo (MessageBuilder.newPingResponse
        testId examplePing.transactionId exampleRequester) exampleRequester
        (some exampleRequesterId)]) := ⟨_, rfl⟩
  exact ⟨_, s', _, _, _, _, _, reach, stepped, List.mem_singleton_self _,
    step_sendTo reach stepped (List.mem_singleton_self _)⟩

def Effect.keyedId : Effect → Option Id
  | .setId id => some id
  | _ => none

/-- The id the node storage was last keyed by, read off the call log. -/
def lastSetId (log : List Effect) : Option Id := log.reverse.findSome? Effect.keyedId

theorem lastSetId_append_unkeyed {log effects : List Effect}
    (unkeyed : ∀ eff ∈ effects, eff.keyedId = none) : lastSetId (log ++ effects) = lastSetId log := by
  have none : effects.reverse.findSome? Effect.keyedId = none :=
    List.findSome?_eq_none_iff.mpr fun eff made => unkeyed eff (List.mem_reverse.mp made)
  simp [lastSetId, List.findSome?_append, none]

section

variable {σ α π : Type} [NodeStorage σ] [IPV4AddrSource α] [PeerStorage π] [Bep42]

theorem step_keyedId {s s' : Sys σ α π} {e : Event} {effects : List Effect}
    (stepped : s.step e = some (s', effects)) {eff : Effect} (made : eff ∈ effects)
    (keyed : eff.keyedId ≠ none) : ∃ randomId, e = .ip4Maintenance randomId := by
  obtain ⟨id, rfl⟩ : ∃ id, eff = .setId id := by
    cases eff <;> simp_all [Effect.keyedId]
  cases mem_step stepped made with
  | request _ _ _ _ _ _ _ _ common => obtain ⟨_, ⟨⟩, -⟩ := mem_commonRequestHandling common
  | answer _ _ _ _ _ _ _ _ answer =>
    obtain (⟨_, -, -, ⟨⟩⟩ | ⟨_, _, _, ⟨⟩⟩) := mem_answerRequest answer
  | response _ _ _ _ _ _ _ _ _ _ handled =>
    obtain ⟨-, upsert | ⟨_, _, _, ⟨⟩, -⟩⟩ := mem_handleResponse handled
    cases upsert
  | store _ _ _ _ _ _ _ stored => obtain ⟨_, -, ⟨⟩, -⟩ := mem_storeFoundNodes stored
  | maintenance randomId _ _ => exact ⟨randomId, rfl⟩

theorem step_ourId {s s' : Sys σ α π} {e : Event} {effects : List Effect}
    (stepped : s.step e = some (s', effects)) :
    (s'.state.ourId = s.state.ourId ∧ ∀ eff ∈ effects, eff.keyedId = none) ∨
    (∃ randomId ip, e = .ip4Maintenance randomId ∧
      IPV4AddrSource.getBestIpv4 (IPV4AddrSource.decay s.state.ip4Source) = some ip ∧
      Bep42.isValidForIp s.state.ourId (.v4 ip) = false ∧
      s'.state.ourId = Bep42.fromIp (.v4 ip) randomId ∧ effects = [.setId s'.state.ourId]) := by
  by_cases maintenance : ∃ randomId, e = .ip4Maintenance randomId
  · obtain ⟨randomId, rfl⟩ := maintenance
    obtain ⟨rfl, rfl⟩ := some_pair_eq stepped
    rcases (periodicIp4Maintenance_spec s.state randomId).2.2.2.2 with
      ⟨ip, best, invalid, adopted, calls⟩ | ⟨kept, calls, -⟩
    · exact .inr ⟨randomId, ip, rfl, best, invalid, adopted, calls⟩
    · exact .inl ⟨kept, by simp [calls]⟩
  · refine .inl ⟨?_, fun eff made => ?_⟩
    · rcases (step_core stepped).2 with core | ⟨randomId, rfl, -⟩ | ⟨draw, -, rotated⟩
      · exact core.1
      · exact absurd ⟨randomId, rfl⟩ maintenance
      · rw [rotated]; rfl
    · by_contra keyed
      exact maintenance (step_keyedId stepped made keyed)

theorem reachable_lastSetId {s : Sys σ α π} {log : List Effect} (reach : Reachable s log) :
    lastSetId log = some s.state.ourId := by
  induction reach with
  | init => rfl
  | step _ stepped ih =>
    rcases step_ourId stepped with ⟨kept, unkeyed⟩ | ⟨_, _, _, _, _, _, calls⟩
    · rw [lastSetId_append_unkeyed unkeyed, ih, kept]
    · simp [calls, lastSetId, List.findSome?_append, Effect.keyedId]

end

section

variable {σ α π : Type} [NodeStorage σ] [KeyedStorage σ] [IPV4AddrSource α] [PeerStorage π]
  [Bep42]

theorem commonRequestHandling_key (st : DHTState σ α π) (addr : SocketAddr) (msg : Message)
    (now : Instant) :
    KeyedStorage.key (st.commonRequestHandling addr msg now).state.buckets =
      KeyedStorage.key st.buckets := by
  unfold DHTState.commonRequestHandling
  split
  · rfl
  · dsimp only
    split
    · exact KeyedStorage.key_addOrUpdate _ _ _ _
    · rfl

theorem handleResponse_key (st : DHTState σ α π) (target : SocketAddr) (reply : Message)
    (response : ResponseSpecific) (now : Instant) :
    KeyedStorage.key (st.handleResponse target reply response now).1.buckets =
      KeyedStorage.key st.buckets := by
  unfold DHTState.handleResponse
  dsimp only
  split
  · obtain ⟨ip4Source, voted⟩ := ip4VoteHelper_state st target reply
    rw [KeyedStorage.key_addOrUpdate, voted]
  · rfl

theorem storeFoundNodes_key (st : DHTState σ α π) (now : Instant) (nodes : List Node) :
    KeyedStorage.key (st.storeFoundNodes now nodes).1.buckets = KeyedStorage.key st.buckets := by
  induction nodes generalizing st with
  | nil => rfl
  | cons node rest ih =>
    unfold DHTState.storeFoundNodes
    split
    · exact (ih _).trans (KeyedStorage.key_addOrUpdate _ _ _ _)
    · exact ih st

theorem periodicIp4Maintenance_keyed (st : DHTState σ α π) (randomId : Id)
    (keyed : KeyedStorage.key st.buckets = st.ourId) :
    KeyedStorage.key (st.periodicIp4Maintenance randomId).1.buckets =
      (st.periodicIp4Maintenance randomId).1.ourId := by
  unfold DHTState.periodicIp4Maintenance
  dsimp only
  split
  · split
    · exact KeyedStorage.key_setId _ _
    · exact keyed
  · exact keyed

theorem receive_key (s : Sys σ α π) (received : Except RustyDHTError (Message × SocketAddr))
    (throttled : Bool) (now : Instant) :
    KeyedStorage.key (s.receive received throttled now).1.state.buckets =
      KeyedStorage.key s.state.buckets := by
  rcases received with e | ⟨msg, addr⟩
  · rfl
  · simp only [Sys.receive]
    split
    · rfl
    · split
      · rfl
      · split
        · split <;> exact commonRequestHandling_key _ _ _ _
        · rfl

theorem deliver_key (s : Sys σ α π) (i : Nat) (t : RequestTask) (received : Option Message)
    (now : Instant) :
    KeyedStorage.key (s.deliver i t received now).1.state.buckets =
      KeyedStorage.key s.state.buckets := by
  rcases received with _ | reply
  · rfl
  · simp only [Sys.deliver]
    split
    · exact handleResponse_key _ _ _ _ _
    · rfl

theorem step_key {s s' : Sys σ α π} {e : Event} {effects : List Effect}
    (stepped : s.step e = some (s', effects)) (other : ∀ randomId, e ≠ .ip4Maintenance randomId) :
    KeyedStorage.key s'.state.buckets = KeyedStorage.key s.state.buckets := by
  cases e with
  | receive received throttled now =>
    obtain ⟨-, rfl, rfl⟩ := Sys.step_receive stepped
    exact receive_key s received throttled now
  | answer now shuffle sent =>
    obtain ⟨msg, addr, request, -, rfl, rfl⟩ := Sys.step_answer stepped
    obtain ⟨peerStorage, answer⟩ := answerRequest_state s.state msg addr request now shuffle sent
    simp only [answer]
  | deliver i received now =>
    obtain ⟨t, _, -, -, rfl, rfl⟩ := Sys.step_deliver stepped
    exact deliver_key s i t received now
  | store i now =>
    obtain ⟨_, nodes, -, -, rfl, rfl⟩ := Sys.step_store stepped
    exact storeFoundNodes_key s.state now nodes
  | prune now =>
    obtain ⟨rfl, rfl⟩ := some_pair_eq stepped
    exact KeyedStorage.key_prune _ _ _ _
  | ip4Maintenance randomId => exact absurd rfl (other randomId)
  | notify =>
    obtain ⟨_, -, rfl, rfl⟩ := Sys.step_notify stepped
    rfl
  | send =>
    obtain ⟨_, _, -, -, rfl, rfl⟩ := Sys.step_send stepped
    rfl
  | drop =>
    obtain ⟨-, rfl, rfl⟩ := Sys.step_drop stepped
    rfl
  | sendRequest =>
    obtain ⟨-, -, ⟨-, rfl⟩ | rfl⟩ | ⟨-, rfl, -⟩ := Sys.step_sendRequest stepped <;> rfl
  | pingRouter | buddyPing | findNode | rotateTokenSecrets | subscribe =>
    obtain ⟨rfl, rfl⟩ := some_pair_eq stepped
    rfl

theorem step_keyed {s s' : Sys σ α π} {e : Event} {effects : List Effect}
    (stepped : s.step e = some (s', effects))
    (keyed : KeyedStorage.key s.state.buckets = s.state.ourId) :
    KeyedStorage.key s'.state.buckets = s'.state.ourId := by
  by_cases maintenance : ∃ randomId, e = .ip4Maintenance randomId
  · obtain ⟨randomId, rfl⟩ := maintenance
    obtain ⟨rfl, rfl⟩ := some_pair_eq stepped
    exact periodicIp4Maintenance_keyed s.state randomId keyed
  · have other : ∀ randomId, e ≠ .ip4Maintenance randomId :=
      fun randomId same => maintenance ⟨randomId, same⟩
    rcases step_ourId stepped with ⟨kept, -⟩ | ⟨randomId, _, same, -⟩
    · rw [step_key stepped other, keyed, kept]
    · exact absurd same (other randomId)

/-- Our id read off the state. -/
theorem reachable_storageKey {s : Sys σ α π} {log : List Effect} (reach : Reachable s log) :
    KeyedStorage.key s.state.buckets = s.state.ourId := by
  induction reach with
  | init => exact KeyedStorage.key_setId _ _
  | step _ stepped ih => exact step_keyed stepped ih

end

theorem reachable_storageKey_of_maintenance :
    ∃ s' effects, (Sys.init exampleDht).step (.ip4Maintenance testId) = some (s', effects) ∧
      KeyedStorage.key s'.state.buckets = s'.state.ourId := by
  obtain ⟨s', effects, stepped⟩ : ∃ s' effects,
      (Sys.init exampleDht).step (.ip4Maintenance testId) = some (s', effects) := ⟨_, _, rfl⟩
  exact ⟨s', effects, stepped, reachable_storageKey (reachable_exampleDht.step stepped)⟩

end RustyDht
