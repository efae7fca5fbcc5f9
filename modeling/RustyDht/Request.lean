import RustyDht.Collaborators

set_option linter.unusedSectionVars false

/-! `common_request_handling` and the arms of `accept_single_packet`; `sent` is what
`socket.send_to` returned. -/
namespace RustyDht

structure Outcome (σ α π β : Type) where
  state : DHTState σ α π
  effects : List Effect
  result : Except RustyDHTError β

def Effect.sends : List Effect → List (Message × SocketAddr)
  | [] => []
  | .sendTo msg dest _ :: rest => (msg, dest) :: sends rest
  | _ :: rest => sends rest

@[simp] theorem Effect.sends_append (xs ys : List Effect) :
    Effect.sends (xs ++ ys) = Effect.sends xs ++ Effect.sends ys := by
  induction xs with
  | nil => rfl
  | cons e xs ih => cases e <;> simp [Effect.sends, ih]

theorem Effect.mem_sends {effects : List Effect} {msg : Message} {dest : SocketAddr} :
    (msg, dest) ∈ Effect.sends effects ↔ ∃ destId, Effect.sendTo msg dest destId ∈ effects := by
  induction effects with
  | nil => simp [Effect.sends]
  | cons e effects ih =>
    cases e with
    | sendTo m d i =>
      simp only [Effect.sends, List.mem_cons, Prod.mk.injEq, ih, Effect.sendTo.injEq]
      constructor
      · rintro (⟨rfl, rfl⟩ | ⟨j, hj⟩)
        exacts [⟨i, .inl ⟨rfl, rfl, rfl⟩⟩, ⟨j, .inr hj⟩]
      · rintro ⟨j, ⟨rfl, rfl, rfl⟩ | hj⟩
        exacts [.inl ⟨rfl, rfl⟩, .inr ⟨j, hj⟩]
    | _ => simp [Effect.sends, ih]

def swapAt {β : Type} (xs : List β) (i j : Nat) : List β :=
  match xs[i]?, xs[j]? with
  | some a, some b => (xs.set i b).set j a
  | _, _ => xs

/-- `rand`'s `partial_shuffle`; its `k`-th `gen_index(rng, i + 1)` is `draw k % (i + 1)`. -/
def partialShuffle {β : Type} (xs : List β) (amount : Nat) (draw : Nat → Nat) : List β :=
  let len := xs.length
  let stop := if amount ≥ len then 0 else len - amount
  let shuffled := (List.range (len - stop)).foldl
    (fun ys k => swapAt ys (len - 1 - k) (draw k % (len - k))) xs
  shuffled.drop stop

theorem swapAt_perm {β : Type} (xs : List β) (i j : Nat) : (swapAt xs i j).Perm xs := by
  unfold swapAt
  split
  · rename_i atI atJ
    classical
    obtain ⟨hi, rfl⟩ := List.getElem?_eq_some_iff.mp atI
    obtain ⟨hj, rfl⟩ := List.getElem?_eq_some_iff.mp atJ
    refine List.perm_iff_count.mpr fun c => ?_
    have hj' : j < (xs.set i xs[j]).length := by simpa using hj
    have moved : (xs.set i xs[j])[j] = xs[j] := by
      rw [List.getElem_set]; split <;> simp_all
    have present : (if xs[i] == c then 1 else 0) ≤ xs.count c := by
      split
      · exact List.count_pos_iff.mpr (beq_iff_eq.mp ‹_› ▸ List.getElem_mem hi)
      · exact Nat.zero_le _
    rw [List.count_set _ _ _ _ hj', moved, List.count_set _ _ _ _ hi]
    omega
  · exact List.Perm.refl xs

theorem foldl_swapAt_perm {β : Type} (pick : Nat → Nat × Nat) (ks : List Nat) (ys : List β) :
    (ks.foldl (fun ys k => swapAt ys (pick k).1 (pick k).2) ys).Perm ys := by
  induction ks generalizing ys with
  | nil => exact List.Perm.refl ys
  | cons k ks ih => exact (ih _).trans (swapAt_perm ys _ _)

theorem partialShuffle_subperm {β : Type} (xs : List β) (amount : Nat) (draw : Nat → Nat) :
    (partialShuffle xs amount draw).Subperm xs ∧
      (partialShuffle xs amount draw).length = min amount xs.length := by
  have perm := foldl_swapAt_perm (fun k => (xs.length - 1 - k, draw k % (xs.length - k)))
    (List.range (xs.length - if amount ≥ xs.length then 0 else xs.length - amount)) xs
  refine ⟨(List.drop_sublist _ _).subperm.trans perm.subperm, ?_⟩
  simp only [partialShuffle, List.length_drop, perm.length_eq]
  split <;> omega

section

variable {σ α π : Type} [NodeStorage σ] [IPV4AddrSource α] [PeerStorage π] [Bep42]

def DHTState.commonRequestHandling (st : DHTState σ α π) (remoteAddr : SocketAddr)
    (msg : Message) (now : Instant) : Outcome σ α π Unit :=
  match msg.getAuthorId with
  | none => ⟨st, [], .error (.packetParseError "Failed to extract sender's id")⟩
  | some senderId =>
    let isIdValid := Bep42.isValidForIp senderId remoteAddr.ip
    let readOnly := msg.readOnly.getD false
    if isIdValid && !readOnly then
      ⟨{ st with buckets := NodeStorage.addOrUpdate st.buckets ⟨senderId, remoteAddr⟩ false now },
       [.addOrUpdate ⟨senderId, remoteAddr⟩ false], .ok ()⟩
    else ⟨st, [], .ok ()⟩

def DHTState.isTokenValid (st : DHTState σ α π) (addr : SocketAddr) (token : List UInt8) :
    Bool :=
  token == calculateToken addr st.tokenSecret || token == calculateToken addr st.oldTokenSecret

def announcedAddr (addr : SocketAddr) (arguments : AnnouncePeerRequestArguments) : SocketAddr :=
  match arguments.impliedPort with
  | some true => addr
  | _ => addr.setPort arguments.port

theorem announcedAddr_eq (addr : SocketAddr) (arguments : AnnouncePeerRequestArguments) :
    announcedAddr addr arguments =
      if arguments.impliedPort = some true then addr else ⟨addr.ip, arguments.port⟩ := by
  unfold announcedAddr
  split <;> simp_all [SocketAddr.setPort]

/-- The reply section of each arm of `accept_single_packet` and its `send_to`. -/
def DHTState.answerRequest (st : DHTState σ α π) (msg : Message) (addr : SocketAddr)
    (request : RequestSpecific) (now : Instant) (shuffle : Nat → Nat)
    (sent : Except RustyDHTError Unit) : Outcome σ α π Unit :=
  match request with
  | .pingRequest arguments =>
    let reply := MessageBuilder.newPingResponse st.ourId msg.transactionId addr
    ⟨st, [.sendTo reply addr (some arguments.requesterId)], sent⟩
  | .getPeersRequest arguments =>
    let newerThan := Instant.checkedSub now st.settings.getPeersFreshnessSecs
    let peers := (PeerStorage.getPeers st.peerStorage arguments.infoHash newerThan).take
      st.settings.maxPeersResponse
    let token := calculateToken addr st.tokenSecret
    let values :=
      match peers with
      | [] => GetPeersResponseValues.nodes
          (NodeStorage.getNearestNodes st.buckets arguments.infoHash (some arguments.requesterId))
      | _ => .peers peers
    let reply := MessageBuilder.newGetPeersResponse st.ourId msg.transactionId addr token values
    ⟨st, [.sendTo reply addr (some arguments.requesterId)], sent⟩
  | .findNodeRequest arguments =>
    let nearest := NodeStorage.getNearestNodes st.buckets arguments.target (some arguments.requesterId)
    let reply := MessageBuilder.newFindNodeResponse st.ourId msg.transactionId addr nearest
    ⟨st, [.sendTo reply addr (some arguments.requesterId)], sent⟩
  | .announcePeerRequest arguments =>
    if st.isTokenValid addr arguments.token then
      let sockaddr := announcedAddr addr arguments
      let reply := MessageBuilder.newAnnouncePeerResponse st.ourId msg.transactionId addr
      ⟨{ st with peerStorage :=
          PeerStorage.announcePeer st.peerStorage arguments.infoHash sockaddr now },
       [.announcePeer arguments.infoHash sockaddr, .sendTo reply addr (some arguments.requesterId)],
       sent⟩
    else ⟨st, [], .ok ()⟩
  | .sampleInfoHashesRequest arguments =>
    let nearest := NodeStorage.getNearestNodes st.buckets arguments.target (some arguments.requesterId)
    let infoHashes := PeerStorage.getInfoHashes st.peerStorage
    let samples := partialShuffle infoHashes st.settings.maxSampleResponse shuffle
    let reply := MessageBuilder.newSampleInfohashesResponse st.ourId msg.transactionId addr
      st.settings.minSampleIntervalSecs nearest samples infoHashes.length
    ⟨st, [.sendTo reply addr (some arguments.requesterId)], sent⟩

def DHTState.acceptSinglePacket (st : DHTState σ α π) (msg : Message) (addr : SocketAddr)
    (now : Instant) (shuffle : Nat → Nat) (sent : Except RustyDHTError Unit) : Outcome σ α π Unit :=
  match msg.messageType with
  | .request request =>
    let common := st.commonRequestHandling addr msg now
    match common.result with
    | .error e => ⟨common.state, common.effects, .error e⟩
    | .ok () =>
      let answer := common.state.answerRequest msg addr request now shuffle sent
      ⟨answer.state, common.effects ++ answer.effects, answer.result⟩
  | _ => ⟨st, [], .ok ()⟩

def Answers (ourId : Id) (msg : Message) (addr : SocketAddr) (reply : Message) : Prop :=
  reply.isResponse = true ∧ reply.transactionId = msg.transactionId ∧
    reply.requesterIp = some addr ∧ reply.getAuthorId = some ourId

theorem commonRequestHandling_state (st : DHTState σ α π) (addr : SocketAddr) (msg : Message)
    (now : Instant) :
    ∃ buckets, (st.commonRequestHandling addr msg now).state = { st with buckets } := by
  unfold DHTState.commonRequestHandling
  split
  · exact ⟨st.buckets, rfl⟩
  · dsimp only
    split
    · exact ⟨_, rfl⟩
    · exact ⟨st.buckets, rfl⟩

theorem mem_commonRequestHandling {st : DHTState σ α π} {addr : SocketAddr} {msg : Message}
    {now : Instant} {e : Effect} (made : e ∈ (st.commonRequestHandling addr msg now).effects) :
    ∃ sender, e = .addOrUpdate ⟨sender, addr⟩ false ∧ msg.getAuthorId = some sender ∧
      Bep42.isValidForIp sender addr.ip = true ∧ msg.readOnly ≠ some true := by
  unfold DHTState.commonRequestHandling at made
  split at made
  · cases made
  · rename_i sender hsender
    dsimp only at made
    split at made
    · rename_i admitted
      simp only [Bool.and_eq_true, Bool.not_eq_true'] at admitted
      refine ⟨sender, List.mem_singleton.mp made, hsender, admitted.1, fun ro => ?_⟩
      simp [ro] at admitted
    · cases made

theorem commonRequestHandling_result {st : DHTState σ α π} {addr : SocketAddr} {msg : Message}
    {now : Instant} {request : RequestSpecific} (isRequest : msg.messageType = .request request) :
    (st.commonRequestHandling addr msg now).result = .ok () := by
  have author : msg.getAuthorId = some request.requesterId := by
    simp [Message.getAuthorId, isRequest]
  simp only [DHTState.commonRequestHandling, author]
  split <;> rfl

theorem answerRequest_state (st : DHTState σ α π) (msg : Message) (addr : SocketAddr)
    (request : RequestSpecific) (now : Instant) (shuffle : Nat → Nat)
    (sent : Except RustyDHTError Unit) :
    ∃ peerStorage,
      (st.answerRequest msg addr request now shuffle sent).state = { st with peerStorage } := by
  cases request
  case announcePeerRequest arguments =>
    simp only [DHTState.answerRequest]
    split <;> exact ⟨_, rfl⟩
  all_goals exact ⟨st.peerStorage, rfl⟩

theorem answerRequest_sends (st : DHTState σ α π) (msg : Message) (addr : SocketAddr)
    (request : RequestSpecific) (now : Instant) (shuffle : Nat → Nat)
    (sent : Except RustyDHTError Unit) :
    let sends := Effect.sends (st.answerRequest msg addr request now shuffle sent).effects
    sends.length ≤ 1 ∧ ∀ p ∈ sends, p.2 = addr ∧ Answers st.ourId msg addr p.1 := by
  cases request <;>
    simp [DHTState.answerRequest, Effect.sends, Answers, MessageBuilder.newPingResponse,
      MessageBuilder.newGetPeersResponse, MessageBuilder.newFindNodeResponse,
      MessageBuilder.newAnnouncePeerResponse, MessageBuilder.newSampleInfohashesResponse,
      ResponseSpecific.responderId]
  split <;> simp [Effect.sends, ResponseSpecific.responderId]

theorem answerRequest_sendTo {st : DHTState σ α π} {msg : Message} {addr : SocketAddr}
    {request : RequestSpecific} {now : Instant} {shuffle : Nat → Nat}
    {sent : Except RustyDHTError Unit} {reply : Message} {dest : SocketAddr} {destId : Option Id}
    (made : .sendTo reply dest destId ∈ (st.answerRequest msg addr request now shuffle sent).effects) :
    dest = addr ∧ destId = some request.requesterId ∧ Answers st.ourId msg addr reply := by
  obtain ⟨toAddr, answers⟩ := (answerRequest_sends st msg addr request now shuffle sent).2 _
    (Effect.mem_sends.mpr ⟨destId, made⟩)
  refine ⟨toAddr, ?_, answers⟩
  cases request <;> simp only [DHTState.answerRequest, List.mem_singleton, Effect.sendTo.injEq] at made
  case announcePeerRequest arguments =>
    split at made
    · rcases List.mem_pair.mp made with announced | answered
      · cases announced
      · cases answered; rfl
    · cases made
  all_goals exact made.2.2

theorem answerRequest_announce_sends (st : DHTState σ α π) (msg : Message) (addr : SocketAddr)
    (arguments : AnnouncePeerRequestArguments) (now : Instant) (shuffle : Nat → Nat)
    (sent : Except RustyDHTError Unit) :
    Effect.sends (st.answerRequest msg addr (.announcePeerRequest arguments) now shuffle
      sent).effects ≠ [] ↔ st.isTokenValid addr arguments.token = true := by
  simp only [DHTState.answerRequest]
  split <;> simp_all [Effect.sends]

theorem mem_answerRequest {st : DHTState σ α π} {msg : Message} {addr : SocketAddr}
    {request : RequestSpecific} {now : Instant} {shuffle : Nat → Nat}
    {sent : Except RustyDHTError Unit} {e : Effect}
    (made : e ∈ (st.answerRequest msg addr request now shuffle sent).effects) :
    (∃ arguments, request = .announcePeerRequest arguments ∧
      st.isTokenValid addr arguments.token = true ∧
      e = .announcePeer arguments.infoHash (announcedAddr addr arguments)) ∨
      ∃ reply dest destId, e = .sendTo reply dest destId := by
  cases request <;> simp only [DHTState.answerRequest, List.mem_singleton] at made
  case announcePeerRequest arguments =>
    split at made
    · rename_i valid
      rcases List.mem_pair.mp made with h | h
      exacts [.inl ⟨arguments, rfl, valid, h⟩, .inr ⟨_, _, _, h⟩]
    · cases made
  all_goals exact .inr ⟨_, _, _, made⟩

theorem commonRequestHandling_sends (st : DHTState σ α π) (addr : SocketAddr) (msg : Message)
    (now : Instant) : Effect.sends (st.commonRequestHandling addr msg now).effects = [] := by
  unfold DHTState.commonRequestHandling
  split
  · rfl
  · dsimp only
    split <;> rfl

theorem acceptSinglePacket_request {st : DHTState σ α π} {msg : Message}
    {request : RequestSpecific} (hm : msg.messageType = .request request) (addr : SocketAddr)
    (now : Instant) (shuffle : Nat → Nat) (sent : Except RustyDHTError Unit) :
    st.acceptSinglePacket msg addr now shuffle sent =
      let common := st.commonRequestHandling addr msg now
      let answer := common.state.answerRequest msg addr request now shuffle sent
      ⟨answer.state, common.effects ++ answer.effects, answer.result⟩ := by
  simp only [DHTState.acceptSinglePacket, hm, commonRequestHandling_result hm]

/-- What `accept_single_packet` sends, and that it leaves responses and errors alone. -/
theorem acceptSinglePacket_answers (st : DHTState σ α π) (msg : Message) (addr : SocketAddr)
    (now : Instant) (shuffle : Nat → Nat) (sent : Except RustyDHTError Unit) :
    let out := st.acceptSinglePacket msg addr now shuffle sent
    (Effect.sends out.effects).length ≤ 1 ∧
    (∀ p ∈ Effect.sends out.effects, p.2 = addr ∧ Answers st.ourId msg addr p.1) ∧
    (∀ arguments, msg.messageType = .request (.announcePeerRequest arguments) →
      (Effect.sends out.effects ≠ [] ↔ st.isTokenValid addr arguments.token = true)) ∧
    (msg.isRequest = false → out.state = st ∧ out.effects = []) := by
  intro out
  cases hm : msg.messageType with
  | request request =>
    obtain ⟨buckets, hstate⟩ := commonRequestHandling_state st addr msg now
    have answered := answerRequest_sends { st with buckets } msg addr request now shuffle sent
    simp only [out, acceptSinglePacket_request hm, hstate, Effect.sends_append,
      commonRequestHandling_sends, List.nil_append]
    refine ⟨answered.1, answered.2, fun arguments announce => ?_, by simp [Message.isRequest, hm]⟩
    simp only [hm, MessageType.request.injEq] at announce
    subst announce
    exact answerRequest_announce_sends { st with buckets } msg addr arguments now shuffle sent
  | response _ | error _ _ =>
    simp [out, DHTState.acceptSinglePacket, hm, Effect.sends]

/-- The answer to sample_infohashes, whatever the random draws. -/
theorem sampleInfoHashes_samples {st : DHTState σ α π} {msg : Message}
    {arguments : SampleInfoHashesRequestArguments}
    (isSample : msg.messageType = .request (.sampleInfoHashesRequest arguments))
    (addr : SocketAddr) (now : Instant) (shuffle : Nat → Nat) (sent : Except RustyDHTError Unit) :
    ∃ reply sample,
      Effect.sends (st.acceptSinglePacket msg addr now shuffle sent).effects = [(reply, addr)] ∧
      reply.messageType = .response (.sampleInfoHashesResponse sample) ∧
      sample.samples.Subperm (PeerStorage.getInfoHashes st.peerStorage) ∧
      sample.samples.length =
        min st.settings.maxSampleResponse (PeerStorage.getInfoHashes st.peerStorage).length ∧
      sample.num = (PeerStorage.getInfoHashes st.peerStorage).length := by
  obtain ⟨buckets, hstate⟩ := commonRequestHandling_state st addr msg now
  obtain ⟨subperm, length⟩ := partialShuffle_subperm (PeerStorage.getInfoHashes st.peerStorage)
    st.settings.maxSampleResponse shuffle
  simp only [acceptSinglePacket_request isSample, hstate, Effect.sends_append,
    commonRequestHandling_sends, List.nil_append, DHTState.answerRequest, Effect.sends]
  exact ⟨_, _, rfl, rfl, subperm, length, rfl⟩

end

def exampleDhtWithInfoHashes : DHTState NodeTable StaticIPV4AddrSource PeerTable :=
  { exampleDht with
    peerStorage := PeerStorage.announcePeer
      (PeerStorage.announcePeer exampleDht.peerStorage testId exampleRequester 0)
      exampleRequesterId exampleRequester 0
    settings := { exampleSettings with maxSampleResponse := 1 } }

theorem sampleInfoHashes_samples_example :
    let st := exampleDhtWithInfoHashes
    let msg := MessageBuilder.request false (.sampleInfoHashesRequest ⟨exampleRequesterId, testId⟩)
    PeerStorage.getInfoHashes st.peerStorage = [testId, exampleRequesterId] ∧
    msg.messageType = .request (.sampleInfoHashesRequest ⟨exampleRequesterId, testId⟩) ∧
    ∃ reply sample,
      Effect.sends (st.acceptSinglePacket msg exampleRequester 0 id (.ok ())).effects =
        [(reply, exampleRequester)] ∧
      reply.messageType = .response (.sampleInfoHashesResponse sample) ∧
      sample.samples.Subperm (PeerStorage.getInfoHashes st.peerStorage) ∧
      sample.samples.length = min st.settings.maxSampleResponse
        (PeerStorage.getInfoHashes st.peerStorage).length ∧
      sample.num = (PeerStorage.getInfoHashes st.peerStorage).length :=
  ⟨by decide, rfl, sampleInfoHashes_samples rfl exampleRequester 0 id (.ok ())⟩

end RustyDht
