import RustyDht.Request

set_option linter.unusedSectionVars false

/-! Requests the DHT sends itself. `sent` is the socket's answer, `Ok true` when it handed
back a reply channel. -/
namespace RustyDht

section

variable {σ α π : Type} [NodeStorage σ] [IPV4AddrSource α] [PeerStorage π] [Bep42]

/-- The first critical section after a response from `target`: vote and verified upsert. -/
def DHTState.handleResponse (st : DHTState σ α π) (target : SocketAddr) (reply : Message)
    (response : ResponseSpecific) (now : Instant) : DHTState σ α π × List Effect :=
  let theirId := response.responderId
  if Bep42.isValidForIp theirId target.ip then
    let voted := st.ip4VoteHelper target reply
    ({ voted.1 with buckets := NodeStorage.addOrUpdate voted.1.buckets ⟨theirId, target⟩ true now },
     voted.2 ++ [.addOrUpdate ⟨theirId, target⟩ true])
  else (st, [])

def DHTState.storeFoundNodes (st : DHTState σ α π) (now : Instant) :
    List Node → DHTState σ α π × List Effect
  | [] => (st, [])
  | node :: rest =>
    if Bep42.isValidForIp node.id node.address.ip then
      let stored :=
        ({ st with buckets := NodeStorage.addOrUpdate st.buckets node false now } :
          DHTState σ α π).storeFoundNodes now rest
      (stored.1, .addOrUpdate node false :: stored.2)
    else st.storeFoundNodes now rest

def ResponseSpecific.foundNodes : ResponseSpecific → List Node
  | .findNodeResponse arguments => arguments.nodes
  | _ => []

/-- `DHT::common_send_and_handle_response` run without interleaving. -/
def DHTState.commonSendAndHandleResponse (st : DHTState σ α π) (msg : Message)
    (target : SocketAddr) (targetId : Option Id) (sent : Except RustyDHTError Bool)
    (received : Option Message) (now : Instant) : Outcome σ α π Message :=
  if !msg.isRequest then
    ⟨st, [], .error (.generalError "This method is only for sending requests")⟩
  else
    let request := [Effect.sendTo msg target targetId]
    match sent with
    | .error e => ⟨st, request, .error e⟩
    | .ok false => ⟨st, request, .error (.generalError "Didn't get a response channel")⟩
    | .ok true =>
      match received with
      | none => ⟨st, request, .error (.timeoutError "Response channel was cleaned up")⟩
      | some reply =>
        match reply.messageType with
        | .response response =>
          let handled := st.handleResponse target reply response now
          let stored := handled.1.storeFoundNodes now response.foundNodes
          ⟨stored.1, request ++ handled.2 ++ stored.2, .ok reply⟩
        | _ => ⟨st, request, .error (.generalError "Received wrong Message type as response")⟩

def DHTState.buildOutbound (st : DHTState σ α π) : Outbound → Message
  | .ping => MessageBuilder.newPingRequest st.ourId st.settings.readOnly
  | .findNode target => MessageBuilder.newFindNodeRequest st.ourId st.settings.readOnly target

theorem buildOutbound_request (st : DHTState σ α π) (task : Outbound) :
    (st.buildOutbound task).isRequest = true ∧
      (st.buildOutbound task).readOnly = some st.settings.readOnly := by
  cases task <;> simp [DHTState.buildOutbound, MessageBuilder.newPingRequest,
    MessageBuilder.newFindNodeRequest]

theorem handleResponse_state (st : DHTState σ α π) (target : SocketAddr) (reply : Message)
    (response : ResponseSpecific) (now : Instant) :
    ∃ ip4Source buckets,
      (st.handleResponse target reply response now).1 = { st with ip4Source, buckets } := by
  unfold DHTState.handleResponse DHTState.ip4VoteHelper
  dsimp only
  split
  · split <;> exact ⟨_, _, rfl⟩
  · exact ⟨st.ip4Source, st.buckets, rfl⟩

theorem mem_handleResponse {st : DHTState σ α π} {target : SocketAddr} {reply : Message}
    {response : ResponseSpecific} {now : Instant} {e : Effect}
    (made : e ∈ (st.handleResponse target reply response now).2) :
    Bep42.isValidForIp response.responderId target.ip = true ∧
      (e = .addOrUpdate ⟨response.responderId, target⟩ true ∨
        ∃ voter proposed port, e = .addVote voter proposed ∧ target.ip = .v4 voter ∧
          reply.requesterIp = some ⟨.v4 proposed, port⟩) := by
  unfold DHTState.handleResponse at made
  dsimp only at made
  split at made
  · rename_i valid
    refine ⟨valid, ?_⟩
    rcases List.mem_append.mp made with vote | upsert
    · exact .inr (mem_ip4VoteHelper vote)
    · exact .inl (List.mem_singleton.mp upsert)
  · cases made

theorem storeFoundNodes_state (st : DHTState σ α π) (now : Instant) (nodes : List Node) :
    ∃ buckets, (st.storeFoundNodes now nodes).1 = { st with buckets } := by
  induction nodes generalizing st with
  | nil => exact ⟨st.buckets, rfl⟩
  | cons node rest ih =>
    unfold DHTState.storeFoundNodes
    split
    · exact ih _
    · exact ih st

theorem mem_storeFoundNodes {st : DHTState σ α π} {now : Instant} {nodes : List Node}
    {e : Effect} (made : e ∈ (st.storeFoundNodes now nodes).2) :
    ∃ node ∈ nodes, e = .addOrUpdate node false ∧
      Bep42.isValidForIp node.id node.address.ip = true := by
  induction nodes generalizing st with
  | nil => cases made
  | cons node rest ih =>
    unfold DHTState.storeFoundNodes at made
    split at made
    · rename_i valid
      rcases List.mem_cons.mp made with here | later
      · exact ⟨node, List.mem_cons_self _ _, here, valid⟩
      · obtain ⟨n, hn, rest⟩ := ih later
        exact ⟨n, List.mem_cons_of_mem _ hn, rest⟩
    · obtain ⟨n, hn, rest⟩ := ih made
      exact ⟨n, List.mem_cons_of_mem _ hn, rest⟩

end

def pingInternal (target : SocketAddr) (targetId : Option Id) :
    List Effect × Except RustyDHTError Unit :=
  ([.spawn .ping target targetId], .ok ())

def findNodeInternal (dest : SocketAddr) (destId : Option Id) (target : Id) :
    List Effect × Except RustyDHTError Unit :=
  ([.spawn (.findNode target) dest destId], .ok ())

/-- A loop body followed by `?`: an error ends the loop, with the calls made so far. -/
def forEachTry {β : Type} (body : β → List Effect × Except RustyDHTError Unit) :
    List β → List Effect × Except RustyDHTError Unit
  | [] => ([], .ok ())
  | x :: rest =>
    match body x with
    | (effects, .error e) => (effects, .error e)
    | (effects, .ok ()) =>
      let (more, result) := forEachTry body rest
      (effects ++ more, result)

def pingRouter (resolved : Except RustyDHTError (List SocketAddr)) :
    List Effect × Except RustyDHTError Unit :=
  match resolved with
  | .error _ => ([], .ok ())
  | .ok addrs =>
    match addrs.find? (·.isIpv4) with
    | some addr => pingInternal addr none
    | none => ([], .ok ())

def pingRouters (resolutions : List (Except RustyDHTError (List SocketAddr))) :
    List Effect × Except RustyDHTError Unit :=
  forEachTry pingRouter resolutions

theorem forEachTry_ok {β : Type} {body : β → List Effect × Except RustyDHTError Unit}
    (never : ∀ x, (body x).2 = .ok ()) (xs : List β) :
    forEachTry body xs = ((xs.map (fun x => (body x).1)).flatten, .ok ()) := by
  induction xs with
  | nil => rfl
  | cons x rest ih =>
    rcases hx : body x with ⟨effects, result⟩
    have ok : result = .ok () := by simpa [hx] using never x
    subst ok
    simp [forEachTry, hx, ih]

theorem pingRouter_ok (resolved : Except RustyDHTError (List SocketAddr)) :
    (pingRouter resolved).2 = .ok () := by
  unfold pingRouter
  split
  · rfl
  · split <;> rfl

theorem pingRouters_ok (resolutions : List (Except RustyDHTError (List SocketAddr))) :
    (pingRouters resolutions).2 = .ok () := by
  simp [pingRouters, forEachTry_ok pingRouter_ok]

end RustyDht
