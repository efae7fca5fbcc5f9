import RustyDht.Accept

set_option linter.unusedSectionVars false

/-! The DHT as tasks sharing `DHTState` under one mutex. A step is one critical section of
one task with the I/O around it, and steps of different tasks interleave in any order. -/
namespace RustyDht

/-- Where a request task stands: spawned, waiting on its reply channel, or storing. -/
inductive TaskPhase
  | spawned (task : Outbound)
  | awaiting (request : Message)
  | storing (nodes : List Node)

structure RequestTask where
  target : SocketAddr
  targetId : Option Id
  phase : TaskPhase

inductive AcceptPhase
  | receiving
  | answering (msg : Message) (addr : SocketAddr) (request : RequestSpecific)
  | notifying (msg : Message)
  | stopped (e : RustyDHTError)

def AcceptPhase.afterError (e : RustyDHTError) : AcceptPhase :=
  if e.isRecoverable then .receiving else .stopped e

structure Sys (σ α π : Type) where
  state : DHTState σ α π
  readOnly : Bool
  accept : AcceptPhase
  tasks : List RequestTask

inductive Event
  | receive (received : Except RustyDHTError (Message × SocketAddr)) (throttled : Bool)
      (now : Instant)
  | answer (now : Instant) (shuffle : Nat → Nat) (sent : Except RustyDHTError Unit)
  | notify (channel : Nat → TrySendResult)
  | send (task : Nat) (sent : Except RustyDHTError Bool)
  | deliver (task : Nat) (received : Option Message) (now : Instant)
  | store (task : Nat) (now : Instant)
  | drop (task : Nat)
  | sendRequest (msg : Message) (dest : SocketAddr) (destId : Option Id)
      (sent : Except RustyDHTError Bool)
  | pingRouter (resolved : Except RustyDHTError (List SocketAddr))
  | prune (now : Instant)
  | buddyPing (now : Instant)
  | findNode (countUnverified : Nat) (draw : Id)
  | ip4Maintenance (randomId : Id)
  | rotateTokenSecrets (draw : Nat → UInt8)
  | subscribe (handle : Nat)

def Event.isRotation : Event → Bool
  | .rotateTokenSecrets _ => true
  | _ => false

def spawnedTasks : List Effect → List RequestTask
  | [] => []
  | .spawn task dest destId :: rest => ⟨dest, destId, .spawned task⟩ :: spawnedTasks rest
  | _ :: rest => spawnedTasks rest

section

variable {σ α π : Type} [NodeStorage σ] [IPV4AddrSource α] [PeerStorage π] [Bep42]

def Sys.init (st : DHTState σ α π) : Sys σ α π := ⟨st, st.settings.readOnly, .receiving, []⟩

/-- The first step of a turn: receive, filter, and for a request the requester's upsert. -/
def Sys.receive (s : Sys σ α π) (received : Except RustyDHTError (Message × SocketAddr))
    (throttled : Bool) (now : Instant) : Sys σ α π × List Effect :=
  match received with
  | .error e => ({ s with accept := .afterError e }, [])
  | .ok (msg, addr) =>
    if throttled || addr.port == 0 then (s, [])
    else if s.readOnly then ({ s with accept := .notifying msg }, [])
    else
      match msg.messageType with
      | .request request =>
        let common := s.state.commonRequestHandling addr msg now
        match common.result with
        | .error e => ({ s with state := common.state, accept := .afterError e }, common.effects)
        | .ok () =>
          ({ s with state := common.state, accept := .answering msg addr request }, common.effects)
      | _ => ({ s with accept := .notifying msg }, [])

def Sys.send (s : Sys σ α π) (i : Nat) (t : RequestTask) (task : Outbound)
    (sent : Except RustyDHTError Bool) : Sys σ α π × List Effect :=
  let request := s.state.buildOutbound task
  let tasks :=
    match sent with
    | .ok true => s.tasks.set i { t with phase := .awaiting request }
    | _ => s.tasks.eraseIdx i
  ({ s with tasks }, [.sendTo request t.target t.targetId])

def Sys.deliver (s : Sys σ α π) (i : Nat) (t : RequestTask) (received : Option Message)
    (now : Instant) : Sys σ α π × List Effect :=
  match received with
  | some reply =>
    match reply.messageType with
    | .response response =>
      let handled := s.state.handleResponse t.target reply response now
      ({ s with state := handled.1,
                tasks := s.tasks.set i { t with phase := .storing response.foundNodes } },
       handled.2)
    | _ => ({ s with tasks := s.tasks.eraseIdx i }, [])
  | none => ({ s with tasks := s.tasks.eraseIdx i }, [])

def Sys.spawning (s : Sys σ α π) (effects : List Effect) : Sys σ α π × List Effect :=
  ({ s with tasks := s.tasks ++ spawnedTasks effects }, effects)

def Sys.step (s : Sys σ α π) : Event → Option (Sys σ α π × List Effect)
  | .receive received throttled now =>
    match s.accept with
    | .receiving => some (s.receive received throttled now)
    | _ => none
  | .answer now shuffle sent =>
    match s.accept with
    | .answering msg addr request =>
      let out := s.state.answerRequest msg addr request now shuffle sent
      let accept :=
        match out.result with
        | .error e => AcceptPhase.afterError e
        | .ok () => .notifying msg
      some ({ s with state := out.state, accept }, out.effects)
    | _ => none
  | .notify channel =>
    match s.accept with
    | .notifying msg =>
      let notified := s.state.sendPacketToSubscribers msg channel
      some ({ s with state := notified.1, accept := .receiving }, notified.2)
    | _ => none
  | .send i sent =>
    match s.tasks[i]? with
    | some t =>
      match t.phase with
      | .spawned task => some (s.send i t task sent)
      | _ => none
    | none => none
  | .deliver i received now =>
    match s.tasks[i]? with
    | some t =>
      match t.phase with
      | .awaiting _ => some (s.deliver i t received now)
      | _ => none
    | none => none
  | .store i now =>
    match s.tasks[i]? with
    | some t =>
      match t.phase with
      | .storing nodes =>
        let stored := s.state.storeFoundNodes now nodes
        some ({ s with state := stored.1, tasks := s.tasks.eraseIdx i }, stored.2)
      | _ => none
    | none => none
  | .drop i => if i < s.tasks.length then some ({ s with tasks := s.tasks.eraseIdx i }, []) else none
  | .sendRequest msg dest destId sent =>
    if msg.isRequest then
      let tasks :=
        match sent with
        | .ok true => s.tasks ++ [⟨dest, destId, .awaiting msg⟩]
        | _ => s.tasks
      some ({ s with tasks }, [.sendTo msg dest destId])
    else some (s, [])
  | .pingRouter resolved => some (s.spawning (pingRouter resolved).1)
  | .prune now => some ({ s with state := s.state.pruneBuckets now }, [])
  | .buddyPing now => some (s.spawning (s.state.buddyPings now).1)
  | .findNode countUnverified draw => some (s.spawning (s.state.findNodeRound countUnverified draw).1)
  | .ip4Maintenance randomId =>
    let maintained := s.state.periodicIp4Maintenance randomId
    some ({ s with state := maintained.1 }, maintained.2)
  | .rotateTokenSecrets draw => some ({ s with state := s.state.rotateTokenSecrets draw }, [])
  | .subscribe handle => some ({ s with state := s.state.subscribe handle }, [])

section

variable {s s' : Sys σ α π} {effects : List Effect}

/-! What each guarded step does once enabled; the invariants below cite these and never
unfold `Sys.step`. -/

theorem Sys.step_receive {received : Except RustyDHTError (Message × SocketAddr)}
    {throttled : Bool} {now : Instant}
    (stepped : s.step (.receive received throttled now) = some (s', effects)) :
    s.accept = .receiving ∧ s' = (s.receive received throttled now).1 ∧
      effects = (s.receive received throttled now).2 := by
  simp only [Sys.step] at stepped
  split at stepped
  · exact ⟨‹_›, some_pair_eq stepped⟩
  · cases stepped

theorem Sys.step_answer {now : Instant} {shuffle : Nat → Nat} {sent : Except RustyDHTError Unit}
    (stepped : s.step (.answer now shuffle sent) = some (s', effects)) :
    ∃ msg addr request, s.accept = .answering msg addr request ∧
      s' = { s with state := (s.state.answerRequest msg addr request now shuffle sent).state,
                    accept := match (s.state.answerRequest msg addr request now shuffle sent).result with
                      | .error e => AcceptPhase.afterError e
                      | .ok () => .notifying msg } ∧
      effects = (s.state.answerRequest msg addr request now shuffle sent).effects := by
  simp only [Sys.step] at stepped
  split at stepped
  · exact ⟨_, _, _, ‹_›, some_pair_eq stepped⟩
  · cases stepped

theorem Sys.step_notify {channel : Nat → TrySendResult}
    (stepped : s.step (.notify channel) = some (s', effects)) :
    ∃ msg, s.accept = .notifying msg ∧
      s' = { s with state := (s.state.sendPacketToSubscribers msg channel).1, accept := .receiving } ∧
      effects = (s.state.sendPacketToSubscribers msg channel).2 := by
  simp only [Sys.step] at stepped
  split at stepped
  · exact ⟨_, ‹_›, some_pair_eq stepped⟩
  · cases stepped

theorem Sys.step_send {i : Nat} {sent : Except RustyDHTError Bool}
    (stepped : s.step (.send i sent) = some (s', effects)) :
    ∃ t task, s.tasks[i]? = some t ∧ t.phase = .spawned task ∧
      s' = (s.send i t task sent).1 ∧ effects = (s.send i t task sent).2 := by
  simp only [Sys.step] at stepped
  split at stepped
  · split at stepped
    · exact ⟨_, _, ‹_›, ‹_›, some_pair_eq stepped⟩
    all_goals cases stepped
  · cases stepped

theorem Sys.step_deliver {i : Nat} {received : Option Message} {now : Instant}
    (stepped : s.step (.deliver i received now) = some (s', effects)) :
    ∃ t request, s.tasks[i]? = some t ∧ t.phase = .awaiting request ∧
      s' = (s.deliver i t received now).1 ∧ effects = (s.deliver i t received now).2 := by
  simp only [Sys.step] at stepped
  split at stepped
  · split at stepped
    · exact ⟨_, _, ‹_›, ‹_›, some_pair_eq stepped⟩
    all_goals cases stepped
  · cases stepped

theorem Sys.step_store {i : Nat} {now : Instant}
    (stepped : s.step (.store i now) = some (s', effects)) :
    ∃ t nodes, s.tasks[i]? = some t ∧ t.phase = .storing nodes ∧
      s' = { s with state := (s.state.storeFoundNodes now nodes).1, tasks := s.tasks.eraseIdx i } ∧
      effects = (s.state.storeFoundNodes now nodes).2 := by
  simp only [Sys.step] at stepped
  split at stepped
  · split at stepped
    · exact ⟨_, _, ‹_›, ‹_›, some_pair_eq stepped⟩
    all_goals cases stepped
  · cases stepped

theorem Sys.step_drop {i : Nat} (stepped : s.step (.drop i) = some (s', effects)) :
    i < s.tasks.length ∧ s' = { s with tasks := s.tasks.eraseIdx i } ∧ effects = [] := by
  simp only [Sys.step] at stepped
  split at stepped
  · exact ⟨‹_›, some_pair_eq stepped⟩
  · cases stepped

theorem Sys.step_sendRequest {msg : Message} {dest : SocketAddr} {destId : Option Id}
    {sent : Except RustyDHTError Bool}
    (stepped : s.step (.sendRequest msg dest destId sent) = some (s', effects)) :
    (msg.isRequest = true ∧ effects = [.sendTo msg dest destId] ∧
      ((sent = .ok true ∧ s' = { s with tasks := s.tasks ++ [⟨dest, destId, .awaiting msg⟩] }) ∨
        s' = s)) ∨
    (msg.isRequest = false ∧ s' = s ∧ effects = []) := by
  simp only [Sys.step] at stepped
  split at stepped
  · rename_i isRequest
    obtain ⟨rfl, rfl⟩ := some_pair_eq stepped
    refine .inl ⟨isRequest, rfl, ?_⟩
    split
    exacts [.inl ⟨rfl, rfl⟩, .inr rfl]
  · rename_i notRequest
    exact .inr ⟨by simpa using notRequest, some_pair_eq stepped⟩

end

def Sys.run (s : Sys σ α π) : List Event → Option (Sys σ α π × List Effect)
  | [] => some (s, [])
  | e :: rest => do
    let (s, effects) ← s.step e
    let (s, more) ← s.run rest
    pure (s, effects ++ more)

/-- The systems reachable from `DHT::new`, with every call made so far. -/
inductive Reachable : Sys σ α π → List Effect → Prop
  | init (id : Option Id) (ip4Source : α) (buckets : σ) (settings : DHTSettings) (randomId : Id)
      (secretDraw : Nat → UInt8) :
      Reachable (Sys.init (DHT.new id ip4Source buckets settings randomId secretDraw).1)
        (DHT.new (π := π) id ip4Source buckets settings randomId secretDraw).2
  | step {s : Sys σ α π} {log : List Effect} {e : Event} {s' : Sys σ α π} {effects : List Effect} :
      Reachable s log → s.step e = some (s', effects) → Reachable s' (log ++ effects)

theorem reachable_exampleDht : Reachable (Sys.init exampleDht) [.setId testId] :=
  Reachable.init (π := PeerTable) (some testId) (⟨⟨1, 2, 3, 4⟩⟩ : StaticIPV4AddrSource)
    (⟨testId, []⟩ : NodeTable) exampleSettings testId (fun _ => 0)

def DHTState.SameCore (st st' : DHTState σ α π) : Prop :=
  st'.ourId = st.ourId ∧ st'.tokenSecret = st.tokenSecret ∧
    st'.oldTokenSecret = st.oldTokenSecret ∧ st'.settings = st.settings

theorem DHTState.sameCore_refl (st : DHTState σ α π) : st.SameCore st := ⟨rfl, rfl, rfl, rfl⟩

theorem receive_core (s : Sys σ α π) (received : Except RustyDHTError (Message × SocketAddr))
    (throttled : Bool) (now : Instant) :
    let s' := (s.receive received throttled now).1
    s'.readOnly = s.readOnly ∧ s'.tasks = s.tasks ∧ s.state.SameCore s'.state := by
  rcases received with e | ⟨msg, addr⟩
  · exact ⟨rfl, rfl, DHTState.sameCore_refl _⟩
  · simp only [Sys.receive]
    split
    · exact ⟨rfl, rfl, DHTState.sameCore_refl _⟩
    · split
      · exact ⟨rfl, rfl, DHTState.sameCore_refl _⟩
      · split
        · obtain ⟨buckets, common⟩ := commonRequestHandling_state s.state addr msg now
          split <;> exact ⟨rfl, rfl, by simp only [common]; exact ⟨rfl, rfl, rfl, rfl⟩⟩
        · exact ⟨rfl, rfl, DHTState.sameCore_refl _⟩

theorem deliver_core (s : Sys σ α π) (i : Nat) (t : RequestTask) (received : Option Message)
    (now : Instant) :
    let s' := (s.deliver i t received now).1
    s'.readOnly = s.readOnly ∧ s.state.SameCore s'.state := by
  rcases received with _ | reply
  · exact ⟨rfl, DHTState.sameCore_refl _⟩
  · simp only [Sys.deliver]
    cases hm : reply.messageType with
    | response response =>
      obtain ⟨ip4Source, buckets, handled⟩ := handleResponse_state s.state t.target reply response now
      exact ⟨rfl, by simp only [handled]; exact ⟨rfl, rfl, rfl, rfl⟩⟩
    | request _ | error _ _ => exact ⟨rfl, DHTState.sameCore_refl _⟩

/-- Only address maintenance and token rotation change our id, the secrets or the settings. -/
theorem step_core {s s' : Sys σ α π} {e : Event} {effects : List Effect}
    (stepped : s.step e = some (s', effects)) :
    s'.readOnly = s.readOnly ∧
      (s.state.SameCore s'.state ∨
        (∃ randomId, e = .ip4Maintenance randomId ∧
          s'.state = (s.state.periodicIp4Maintenance randomId).1) ∨
        (∃ draw, e = .rotateTokenSecrets draw ∧ s'.state = s.state.rotateTokenSecrets draw)) := by
  cases e with
  | receive received throttled now =>
    obtain ⟨-, rfl, rfl⟩ := Sys.step_receive stepped
    obtain ⟨ro, -, core⟩ := receive_core s received throttled now
    exact ⟨ro, .inl core⟩
  | answer now shuffle sent =>
    obtain ⟨msg, addr, request, -, rfl, rfl⟩ := Sys.step_answer stepped
    obtain ⟨peerStorage, answer⟩ := answerRequest_state s.state msg addr request now shuffle sent
    exact ⟨rfl, .inl (by simp only [answer]; exact ⟨rfl, rfl, rfl, rfl⟩)⟩
  | notify channel =>
    obtain ⟨_, -, rfl, rfl⟩ := Sys.step_notify stepped
    exact ⟨rfl, .inl ⟨rfl, rfl, rfl, rfl⟩⟩
  | deliver i received now =>
    obtain ⟨t, _, -, -, rfl, rfl⟩ := Sys.step_deliver stepped
    obtain ⟨ro, core⟩ := deliver_core s i t received now
    exact ⟨ro, .inl core⟩
  | store i now =>
    obtain ⟨_, nodes, -, -, rfl, rfl⟩ := Sys.step_store stepped
    obtain ⟨buckets, stored⟩ := storeFoundNodes_state s.state now nodes
    exact ⟨rfl, .inl (by simp only [stored]; exact ⟨rfl, rfl, rfl, rfl⟩)⟩
  | send i sent =>
    obtain ⟨_, _, -, -, rfl, rfl⟩ := Sys.step_send stepped
    exact ⟨rfl, .inl (DHTState.sameCore_refl _)⟩
  | drop i =>
    obtain ⟨-, rfl, rfl⟩ := Sys.step_drop stepped
    exact ⟨rfl, .inl (DHTState.sameCore_refl _)⟩
  | sendRequest msg dest destId sent =>
    obtain ⟨-, -, ⟨-, rfl⟩ | rfl⟩ | ⟨-, rfl, -⟩ := Sys.step_sendRequest stepped <;>
      exact ⟨rfl, .inl (DHTState.sameCore_refl _)⟩
  | pingRouter resolved | buddyPing now | findNode count draw =>
    obtain ⟨rfl, rfl⟩ := some_pair_eq stepped
    exact ⟨rfl, .inl (DHTState.sameCore_refl _)⟩
  | prune now | subscribe handle =>
    obtain ⟨rfl, rfl⟩ := some_pair_eq stepped
    exact ⟨rfl, .inl ⟨rfl, rfl, rfl, rfl⟩⟩
  | ip4Maintenance randomId =>
    obtain ⟨rfl, rfl⟩ := some_pair_eq stepped
    exact ⟨rfl, .inr (.inl ⟨randomId, rfl, rfl⟩)⟩
  | rotateTokenSecrets draw =>
    obtain ⟨rfl, rfl⟩ := some_pair_eq stepped
    exact ⟨rfl, .inr (.inr ⟨draw, rfl, rfl⟩)⟩

theorem mem_sendPacketToSubscribers {st : DHTState σ α π} {msg : Message}
    (channel : Nat → TrySendResult) {eff : Effect}
    (made : eff ∈ (st.sendPacketToSubscribers msg channel).2) : ∃ sub, eff = .trySend sub ⟨msg⟩ := by
  simp only [DHTState.sendPacketToSubscribers, List.mem_map] at made
  obtain ⟨sub, -, rfl⟩ := made
  exact ⟨sub, rfl⟩

/-- Where a call of a step comes from. -/
inductive CallOrigin (s : Sys σ α π) : Event → Effect → Prop
  | request (throttled : Bool) (now : Instant) (msg : Message) (addr : SocketAddr)
      (request : RequestSpecific) (eff : Effect) (writable : s.readOnly = false)
      (isRequest : msg.messageType = .request request)
      (made : eff ∈ (s.state.commonRequestHandling addr msg now).effects) :
      CallOrigin s (.receive (.ok (msg, addr)) throttled now) eff
  | answer (now : Instant) (shuffle : Nat → Nat) (sent : Except RustyDHTError Unit)
      (msg : Message) (addr : SocketAddr) (request : RequestSpecific) (eff : Effect)
      (answering : s.accept = .answering msg addr request)
      (made : eff ∈ (s.state.answerRequest msg addr request now shuffle sent).effects) :
      CallOrigin s (.answer now shuffle sent) eff
  | notify (channel : Nat → TrySendResult) (sub : Nat) (msg : Message) :
      CallOrigin s (.notify channel) (.trySend sub ⟨msg⟩)
  | send (i : Nat) (sent : Except RustyDHTError Bool) (t : RequestTask) (task : Outbound)
      (found : s.tasks[i]? = some t) (spawned : t.phase = .spawned task) :
      CallOrigin s (.send i sent) (.sendTo (s.state.buildOutbound task) t.target t.targetId)
  | response (i : Nat) (reply : Message) (now : Instant) (t : RequestTask) (request : Message)
      (response : ResponseSpecific) (eff : Effect) (found : s.tasks[i]? = some t)
      (waiting : t.phase = .awaiting request) (isResponse : reply.messageType = .response response)
      (made : eff ∈ (s.state.handleResponse t.target reply response now).2) :
      CallOrigin s (.deliver i (some reply) now) eff
  | store (i : Nat) (now : Instant) (t : RequestTask) (nodes : List Node) (eff : Effect)
      (found : s.tasks[i]? = some t) (storing : t.phase = .storing nodes)
      (made : eff ∈ (s.state.storeFoundNodes now nodes).2) :
      CallOrigin s (.store i now) eff
  | sendRequest (msg : Message) (dest : SocketAddr) (destId : Option Id)
      (sent : Except RustyDHTError Bool) (isRequest : msg.isRequest = true) :
      CallOrigin s (.sendRequest msg dest destId sent) (.sendTo msg dest destId)
  | spawn (e : Event) (task : Outbound) (dest : SocketAddr) (destId : Option Id) :
      CallOrigin s e (.spawn task dest destId)
  | maintenance (randomId : Id) (eff : Effect)
      (made : eff ∈ (s.state.periodicIp4Maintenance randomId).2) :
      CallOrigin s (.ip4Maintenance randomId) eff

theorem mem_step {s s' : Sys σ α π} {e : Event} {effects : List Effect}
    (stepped : s.step e = some (s', effects)) {eff : Effect} (made : eff ∈ effects) :
    CallOrigin s e eff := by
  cases e with
  | receive received throttled now =>
    obtain ⟨-, rfl, rfl⟩ := Sys.step_receive stepped
    rcases received with _ | ⟨msg, addr⟩
    · cases made
    · simp only [Sys.receive] at made
      split at made
      · cases made
      · split at made
        · cases made
        · split at made
          · rename_i notReadOnly _ request isRequest
            refine .request throttled now msg addr request eff (by simpa using notReadOnly)
              isRequest ?_
            split at made <;> exact made
          · cases made
  | answer now shuffle sent =>
    obtain ⟨msg, addr, request, phase, rfl, rfl⟩ := Sys.step_answer stepped
    exact .answer now shuffle sent msg addr request eff phase made
  | notify channel =>
    obtain ⟨msg, -, rfl, rfl⟩ := Sys.step_notify stepped
    obtain ⟨sub, rfl⟩ := mem_sendPacketToSubscribers channel made
    exact .notify channel sub msg
  | send i sent =>
    obtain ⟨t, task, found, phase, rfl, rfl⟩ := Sys.step_send stepped
    cases List.mem_singleton.mp made
    exact .send i sent t task found phase
  | deliver i received now =>
    obtain ⟨t, request, found, phase, rfl, rfl⟩ := Sys.step_deliver stepped
    rcases received with _ | reply
    · cases made
    · simp only [Sys.deliver] at made
      split at made
      · exact .response i reply now t request _ eff found phase ‹_› made
      · cases made
  | store i now =>
    obtain ⟨t, nodes, found, phase, rfl, rfl⟩ := Sys.step_store stepped
    exact .store i now t nodes eff found phase made
  | drop i =>
    obtain ⟨-, rfl, rfl⟩ := Sys.step_drop stepped
    cases made
  | sendRequest msg dest destId sent =>
    rcases Sys.step_sendRequest stepped with ⟨isRequest, rfl, -⟩ | ⟨-, -, rfl⟩
    · cases List.mem_singleton.mp made
      exact .sendRequest msg dest destId sent isRequest
    · cases made
  | pingRouter resolved =>
    obtain ⟨rfl, rfl⟩ := some_pair_eq stepped
    obtain ⟨task, dest, destId, rfl⟩ := (spawns_of_rounds (σ := σ) (α := α) (π := π)).2.2 resolved made
    exact .spawn _ task dest destId
  | buddyPing now =>
    obtain ⟨rfl, rfl⟩ := some_pair_eq stepped
    obtain ⟨task, dest, destId, rfl⟩ := spawns_of_rounds.1 s.state now made
    exact .spawn _ task dest destId
  | findNode count draw =>
    obtain ⟨rfl, rfl⟩ := some_pair_eq stepped
    obtain ⟨task, dest, destId, rfl⟩ := spawns_of_rounds.2.1 s.state count draw made
    exact .spawn _ task dest destId
  | prune now | rotateTokenSecrets draw | subscribe handle =>
    obtain ⟨rfl, rfl⟩ := some_pair_eq stepped
    cases made
  | ip4Maintenance randomId =>
    obtain ⟨rfl, rfl⟩ := some_pair_eq stepped
    exact .maintenance randomId eff made

theorem spawned_phase {effects : List Effect} {t : RequestTask} (mem : t ∈ spawnedTasks effects) :
    ∃ task, t.phase = .spawned task := by
  induction effects with
  | nil => cases mem
  | cons eff rest ih =>
    cases eff <;> simp only [spawnedTasks, List.mem_cons] at mem <;> try exact ih mem
    rcases mem with rfl | mem
    exacts [⟨_, rfl⟩, ih mem]

theorem deliver_tasks (s : Sys σ α π) (i : Nat) (t : RequestTask) (received : Option Message)
    (now : Instant) {t' : RequestTask} (mem : t' ∈ (s.deliver i t received now).1.tasks) :
    t' ∈ s.tasks ∨ ∃ nodes, t'.phase = .storing nodes := by
  rcases received with _ | reply
  · exact .inl (List.mem_of_mem_eraseIdx mem)
  · simp only [Sys.deliver] at mem
    split at mem
    · rcases List.mem_or_eq_of_mem_set mem with old | rfl
      exacts [.inl old, .inr ⟨_, rfl⟩]
    · exact .inl (List.mem_of_mem_eraseIdx mem)

theorem step_awaiting {s s' : Sys σ α π} {e : Event} {effects : List Effect}
    (stepped : s.step e = some (s', effects)) {t' : RequestTask} (mem : t' ∈ s'.tasks)
    {request : Message} (waiting : t'.phase = .awaiting request) :
    t' ∈ s.tasks ∨ .sendTo request t'.target t'.targetId ∈ effects := by
  cases e with
  | receive received throttled now =>
    obtain ⟨-, rfl, rfl⟩ := Sys.step_receive stepped
    exact .inl ((receive_core s received throttled now).2.1 ▸ mem)
  | answer =>
    obtain ⟨_, _, _, -, rfl, rfl⟩ := Sys.step_answer stepped
    exact .inl mem
  | notify =>
    obtain ⟨_, -, rfl, rfl⟩ := Sys.step_notify stepped
    exact .inl mem
  | send i sent =>
    obtain ⟨t, task, -, -, rfl, rfl⟩ := Sys.step_send stepped
    simp only [Sys.send] at mem ⊢
    split at mem
    · rcases List.mem_or_eq_of_mem_set mem with old | rfl
      · exact .inl old
      · cases waiting
        exact .inr (List.mem_singleton_self _)
    · exact .inl (List.mem_of_mem_eraseIdx mem)
  | deliver i received now =>
    obtain ⟨t, _, -, -, rfl, rfl⟩ := Sys.step_deliver stepped
    rcases deliver_tasks s i t received now mem with old | ⟨nodes, storing⟩
    · exact .inl old
    · rw [storing] at waiting; cases waiting
  | store =>
    obtain ⟨_, _, -, -, rfl, rfl⟩ := Sys.step_store stepped
    exact .inl (List.mem_of_mem_eraseIdx mem)
  | drop =>
    obtain ⟨-, rfl, rfl⟩ := Sys.step_drop stepped
    exact .inl (List.mem_of_mem_eraseIdx mem)
  | sendRequest =>
    obtain ⟨-, rfl, ⟨-, rfl⟩ | rfl⟩ | ⟨-, rfl, -⟩ := Sys.step_sendRequest stepped
    · rcases List.mem_append.mp mem with old | added
      · exact .inl old
      · cases List.mem_singleton.mp added
        cases waiting
        exact .inr (List.mem_singleton_self _)
    all_goals exact .inl mem
  | pingRouter | buddyPing | findNode =>
    obtain ⟨rfl, rfl⟩ := some_pair_eq stepped
    rcases List.mem_append.mp mem with old | added
    · exact .inl old
    · obtain ⟨task, spawned⟩ := spawned_phase added
      rw [spawned] at waiting; cases waiting
  | prune | ip4Maintenance | rotateTokenSecrets | subscribe =>
    obtain ⟨rfl, rfl⟩ := some_pair_eq stepped
    exact .inl mem

def SentLogged (s : Sys σ α π) (log : List Effect) : Prop :=
  ∀ t ∈ s.tasks, ∀ request, t.phase = .awaiting request → .sendTo request t.target t.targetId ∈ log

theorem reachable_sentLogged {s : Sys σ α π} {log : List Effect} (reach : Reachable s log) :
    SentLogged s log := by
  induction reach with
  | init => intro t mem; cases mem
  | step _ stepped ih =>
    intro t mem request waiting
    rcases step_awaiting stepped mem waiting with old | sent
    · exact List.mem_append_left _ (ih t old request waiting)
    · exact List.mem_append_right _ sent

theorem afterError_ne_answering (e : RustyDHTError) (msg : Message) (addr : SocketAddr)
    (request : RequestSpecific) : AcceptPhase.afterError e ≠ .answering msg addr request := by
  unfold AcceptPhase.afterError
  split <;> exact AcceptPhase.noConfusion

theorem receive_answering {s : Sys σ α π} (receiving : s.accept = .receiving)
    {received : Except RustyDHTError (Message × SocketAddr)} {throttled : Bool} {now : Instant}
    {msg : Message} {addr : SocketAddr} {request : RequestSpecific}
    (answering : (s.receive received throttled now).1.accept = .answering msg addr request) :
    received = .ok (msg, addr) ∧ throttled = false ∧ addr.port ≠ 0 ∧ s.readOnly = false ∧
      msg.messageType = .request request := by
  rcases received with e | ⟨msg', addr'⟩
  · exact absurd answering (afterError_ne_answering e msg addr request)
  · simp only [Sys.receive] at answering
    split at answering
    · rw [receiving] at answering; cases answering
    · rename_i fresh
      simp only [Bool.or_eq_true, beq_iff_eq, not_or, Bool.not_eq_true] at fresh
      split at answering
      · cases answering
      · rename_i writable
        split at answering
        · rename_i request' isRequest
          split at answering
          · exact absurd answering (afterError_ne_answering _ _ _ _)
          · cases answering
            exact ⟨rfl, fresh.1, fresh.2, by simpa using writable, isRequest⟩
        · cases answering

theorem step_answering {s s' : Sys σ α π} {e : Event} {effects : List Effect}
    (stepped : s.step e = some (s', effects)) {msg : Message} {addr : SocketAddr}
    {request : RequestSpecific} (answering : s'.accept = .answering msg addr request) :
    s.accept = .answering msg addr request ∨
      ∃ now, e = .receive (.ok (msg, addr)) false now ∧ addr.port ≠ 0 ∧ s.readOnly = false ∧
        msg.messageType = .request request := by
  cases e with
  | receive received throttled now =>
    obtain ⟨receiving, rfl, rfl⟩ := Sys.step_receive stepped
    obtain ⟨rfl, rfl, port, writable, isRequest⟩ := receive_answering receiving answering
    exact .inr ⟨now, rfl, port, writable, isRequest⟩
  | answer =>
    obtain ⟨_, _, _, -, rfl, rfl⟩ := Sys.step_answer stepped
    dsimp only at answering
    split at answering
    · exact absurd answering (afterError_ne_answering _ _ _ _)
    · cases answering
  | notify =>
    obtain ⟨_, -, rfl, rfl⟩ := Sys.step_notify stepped
    cases answering
  | deliver i received now =>
    obtain ⟨t, _, -, -, rfl, rfl⟩ := Sys.step_deliver stepped
    refine .inl (Eq.trans ?_ answering)
    unfold Sys.deliver
    split
    · split <;> rfl
    · rfl
  | send =>
    obtain ⟨_, _, -, -, rfl, rfl⟩ := Sys.step_send stepped
    exact .inl answering
  | store =>
    obtain ⟨_, _, -, -, rfl, rfl⟩ := Sys.step_store stepped
    exact .inl answering
  | drop =>
    obtain ⟨-, rfl, rfl⟩ := Sys.step_drop stepped
    exact .inl answering
  | sendRequest =>
    obtain ⟨-, -, ⟨-, rfl⟩ | rfl⟩ | ⟨-, rfl, -⟩ := Sys.step_sendRequest stepped <;>
      exact .inl answering
  | pingRouter | buddyPing | findNode | prune | ip4Maintenance | rotateTokenSecrets | subscribe =>
    obtain ⟨rfl, rfl⟩ := some_pair_eq stepped
    exact .inl answering

end

end RustyDht
