import RustyDht.Refinement

set_option linter.unusedSectionVars false

/-! What the DHT delivers over whole runs and any interleaving: answers, subscriber events
and requests, each counted against what one step can do. -/
namespace RustyDht

/-- Whether the accept task holds a received request it has not answered yet. -/
def AcceptPhase.pending : AcceptPhase → Nat
  | .answering _ _ _ => 1
  | _ => 0

def Event.isReceive : Event → Bool
  | .receive _ _ _ => true
  | _ => false

def Event.isNotify : Event → Bool
  | .notify _ => true
  | _ => false

def Event.ofAcceptTask : Event → Bool
  | .receive _ _ _ | .answer _ _ _ | .notify _ => true
  | _ => false

def Effect.answers (effects : List Effect) : Nat :=
  (Effect.sends effects).countP fun p => !p.1.isRequest

@[simp] theorem Effect.answers_append (xs ys : List Effect) :
    Effect.answers (xs ++ ys) = Effect.answers xs + Effect.answers ys := by
  simp [Effect.answers, List.countP_append]

theorem Effect.answers_eq_zero {effects : List Effect}
    (requests : ∀ reply dest destId, .sendTo reply dest destId ∈ effects → reply.isRequest = true) :
    Effect.answers effects = 0 := by
  refine List.countP_eq_zero.mpr fun ⟨reply, dest⟩ mem => ?_
  obtain ⟨destId, made⟩ := Effect.mem_sends.mp mem
  simp [requests reply dest destId made]

theorem AcceptPhase.pending_le_one (phase : AcceptPhase) : phase.pending ≤ 1 := by
  cases phase <;> simp [AcceptPhase.pending]

@[simp] theorem AcceptPhase.afterError_pending (e : RustyDHTError) :
    (AcceptPhase.afterError e).pending = 0 := by
  unfold AcceptPhase.afterError
  split <;> rfl

section

variable {σ α π : Type} [NodeStorage σ] [IPV4AddrSource α] [PeerStorage π] [Bep42]

theorem deliver_accept (s : Sys σ α π) (i : Nat) (t : RequestTask) (received : Option Message)
    (now : Instant) : (s.deliver i t received now).1.accept = s.accept := by
  unfold Sys.deliver
  split
  · split <;> rfl
  · rfl

theorem step_accept_frame {s s' : Sys σ α π} {e : Event} {effects : List Effect}
    (stepped : s.step e = some (s', effects)) (other : e.ofAcceptTask = false) :
    s'.accept = s.accept := by
  cases e with
  | receive | answer | notify => cases other
  | send =>
    obtain ⟨_, _, -, -, rfl, rfl⟩ := Sys.step_send stepped
    rfl
  | deliver i received now =>
    obtain ⟨t, _, -, -, rfl, rfl⟩ := Sys.step_deliver stepped
    exact deliver_accept s i t received now
  | store =>
    obtain ⟨_, _, -, -, rfl, rfl⟩ := Sys.step_store stepped
    rfl
  | drop =>
    obtain ⟨-, rfl, rfl⟩ := Sys.step_drop stepped
    rfl
  | sendRequest =>
    obtain ⟨-, -, ⟨-, rfl⟩ | rfl⟩ | ⟨-, rfl, -⟩ := Sys.step_sendRequest stepped <;> rfl
  | pingRouter | buddyPing | findNode | prune | ip4Maintenance | rotateTokenSecrets | subscribe =>
    obtain ⟨rfl, rfl⟩ := some_pair_eq stepped
    rfl

theorem step_answers {s s' : Sys σ α π} {e : Event} {effects : List Effect}
    (stepped : s.step e = some (s', effects)) :
    Effect.answers effects + s'.accept.pending ≤ e.isReceive.toNat + s.accept.pending := by
  have quiet : (∀ now shuffle sent, e ≠ .answer now shuffle sent) → Effect.answers effects = 0 :=
    fun notAnswer => Effect.answers_eq_zero fun _ _ _ made =>
      (mem_step_sendTo stepped made).resolve_right
        fun ⟨now, shuffle, sent, _, _, _, answer, _⟩ => notAnswer now shuffle sent answer
  cases e with
  | receive received throttled now =>
    have receiving := (Sys.step_receive stepped).1
    rw [quiet (by rintro _ _ _ ⟨⟩), receiving]
    simpa [Event.isReceive, AcceptPhase.pending] using AcceptPhase.pending_le_one s'.accept
  | answer now shuffle sent =>
    obtain ⟨msg, addr, request, phase, rfl, rfl⟩ := Sys.step_answer stepped
    have once : Effect.answers (s.state.answerRequest msg addr request now shuffle sent).effects ≤ 1 :=
      (List.countP_le_length _).trans (answerRequest_sends s.state msg addr request now shuffle sent).1
    dsimp only
    rw [phase]
    split
    · rw [AcceptPhase.afterError_pending]
      exact once
    · exact once
  | notify channel =>
    obtain ⟨msg, phase, rfl, rfl⟩ := Sys.step_notify stepped
    rw [quiet (by rintro _ _ _ ⟨⟩), phase]
    rfl
  | _ =>
    rw [quiet (by rintro _ _ _ ⟨⟩), step_accept_frame stepped rfl]
    simp [Event.isReceive]

/-- At most one answer per received packet. -/
theorem run_answers {s s' : Sys σ α π} {events : List Event} {effects : List Effect}
    (ran : s.run events = some (s', effects)) :
    Effect.answers effects + s'.accept.pending ≤ events.countP Event.isReceive + s.accept.pending := by
  induction events generalizing s effects with
  | nil =>
    cases ran
    simp [Effect.answers, Effect.sends]
  | cons e rest ih =>
    obtain ⟨s₁, first, more, stepped, later, rfl⟩ := run_cons ran
    have counted : (e :: rest).countP Event.isReceive =
        rest.countP Event.isReceive + e.isReceive.toNat := by
      cases receive : e.isReceive <;> simp [List.countP_cons, receive]
    have now := step_answers stepped
    have after := ih later
    rw [Effect.answers_append, counted]
    omega

end

theorem run_answers_of_ping :
    ∃ s' effects, (Sys.init exampleDht).run examplePingTurn.events = some (s', effects) ∧
      Effect.answers effects + s'.accept.pending ≤
        examplePingTurn.events.countP Event.isReceive + (Sys.init exampleDht).accept.pending := by
  obtain ⟨s', effects, ran⟩ : ∃ s' effects,
      (Sys.init exampleDht).run examplePingTurn.events = some (s', effects) := ⟨_, _, rfl⟩
  exact ⟨s', effects, ran, run_answers ran⟩

section

variable {σ α π : Type} [NodeStorage σ] [IPV4AddrSource α] [PeerStorage π] [Bep42]

theorem receive_subscribers (s : Sys σ α π) (received : Except RustyDHTError (Message × SocketAddr))
    (throttled : Bool) (now : Instant) :
    (s.receive received throttled now).1.state.subscribers = s.state.subscribers := by
  rcases received with e | ⟨msg, addr⟩
  · rfl
  simp only [Sys.receive]
  split
  · rfl
  split
  · rfl
  split
  · obtain ⟨buckets, common⟩ := commonRequestHandling_state s.state addr msg now
    split <;> simp only [common]
  · rfl

theorem deliver_subscribers (s : Sys σ α π) (i : Nat) (t : RequestTask) (received : Option Message)
    (now : Instant) : (s.deliver i t received now).1.state.subscribers = s.state.subscribers := by
  rcases received with _ | reply
  · rfl
  simp only [Sys.deliver]
  cases kind : reply.messageType with
  | response response =>
    obtain ⟨ip4Source, buckets, handled⟩ := handleResponse_state s.state t.target reply response now
    simp only [handled]
  | request _ | error _ _ => rfl

theorem periodicIp4Maintenance_subscribers (st : DHTState σ α π) (randomId : Id) :
    (st.periodicIp4Maintenance randomId).1.subscribers = st.subscribers := by
  unfold DHTState.periodicIp4Maintenance
  dsimp only
  split
  · split <;> rfl
  · rfl

theorem step_subscribers {s s' : Sys σ α π} {e : Event} {effects : List Effect}
    (stepped : s.step e = some (s', effects)) :
    (∃ channel msg, e = .notify channel ∧ s.accept = .notifying msg ∧
      s'.state.subscribers = s.state.subscribers.filter (fun sub => channel sub != .closed) ∧
      Effect.events effects = s.state.subscribers.map fun sub => (sub, ⟨msg⟩)) ∨
    (e.isNotify = false ∧
      (s'.state.subscribers = s.state.subscribers ∨
        ∃ handle, e = .subscribe handle ∧ s'.state.subscribers = s.state.subscribers ++ [handle])) := by
  cases e with
  | notify channel =>
    obtain ⟨msg, phase, rfl, rfl⟩ := Sys.step_notify stepped
    exact .inl ⟨channel, msg, rfl, phase, rfl, sendPacketToSubscribers_events s.state msg channel⟩
  | subscribe handle =>
    obtain ⟨rfl, rfl⟩ := some_pair_eq stepped
    exact .inr ⟨rfl, .inr ⟨handle, rfl, rfl⟩⟩
  | receive received throttled now =>
    obtain ⟨-, rfl, rfl⟩ := Sys.step_receive stepped
    exact .inr ⟨rfl, .inl (receive_subscribers s received throttled now)⟩
  | answer now shuffle sent =>
    obtain ⟨msg, addr, request, -, rfl, rfl⟩ := Sys.step_answer stepped
    obtain ⟨peerStorage, answer⟩ := answerRequest_state s.state msg addr request now shuffle sent
    exact .inr ⟨rfl, .inl (by simp only [answer])⟩
  | deliver i received now =>
    obtain ⟨t, _, -, -, rfl, rfl⟩ := Sys.step_deliver stepped
    exact .inr ⟨rfl, .inl (deliver_subscribers s i t received now)⟩
  | store i now =>
    obtain ⟨_, nodes, -, -, rfl, rfl⟩ := Sys.step_store stepped
    obtain ⟨buckets, stored⟩ := storeFoundNodes_state s.state now nodes
    exact .inr ⟨rfl, .inl (by simp only [stored])⟩
  | ip4Maintenance randomId =>
    obtain ⟨rfl, rfl⟩ := some_pair_eq stepped
    exact .inr ⟨rfl, .inl (periodicIp4Maintenance_subscribers s.state randomId)⟩
  | send =>
    obtain ⟨_, _, -, -, rfl, rfl⟩ := Sys.step_send stepped
    exact .inr ⟨rfl, .inl rfl⟩
  | drop =>
    obtain ⟨-, rfl, rfl⟩ := Sys.step_drop stepped
    exact .inr ⟨rfl, .inl rfl⟩
  | sendRequest =>
    obtain ⟨-, -, ⟨-, rfl⟩ | rfl⟩ | ⟨-, rfl, -⟩ := Sys.step_sendRequest stepped <;>
      exact .inr ⟨rfl, .inl rfl⟩
  | pingRouter | buddyPing | findNode | prune | rotateTokenSecrets =>
    obtain ⟨rfl, rfl⟩ := some_pair_eq stepped
    exact .inr ⟨rfl, .inl rfl⟩

theorem step_subscriber {s s' : Sys σ α π} {e : Event} {effects : List Effect}
    (stepped : s.step e = some (s', effects)) {sub : Nat} (subscribed : sub ∈ s.state.subscribers)
    (live : ∀ channel, e = .notify channel → channel sub ≠ .closed) :
    sub ∈ s'.state.subscribers ∧
      e.isNotify.toNat ≤ (Effect.events effects).countP fun offer => offer.1 == sub := by
  rcases step_subscribers stepped with
    ⟨channel, msg, rfl, -, kept, offered⟩ | ⟨quiet, same | ⟨handle, -, added⟩⟩
  · refine ⟨?_, ?_⟩
    · rw [kept, List.mem_filter]
      exact ⟨subscribed, by simpa using live channel rfl⟩
    · rw [offered]
      exact List.countP_pos_iff.mpr ⟨(sub, ⟨msg⟩), List.mem_map_of_mem _ subscribed, by simp⟩
  · exact ⟨same ▸ subscribed, by simp [quiet]⟩
  · exact ⟨added ▸ List.mem_append_left _ subscribed, by simp [quiet]⟩

/-- Subscriber liveness. -/
theorem run_subscriber {s s' : Sys σ α π} {events : List Event} {effects : List Effect}
    (ran : s.run events = some (s', effects)) {sub : Nat} (subscribed : sub ∈ s.state.subscribers)
    (live : ∀ channel, .notify channel ∈ events → channel sub ≠ .closed) :
    sub ∈ s'.state.subscribers ∧
      events.countP Event.isNotify ≤ (Effect.events effects).countP fun offer => offer.1 == sub := by
  induction events generalizing s effects with
  | nil =>
    cases ran
    exact ⟨subscribed, Nat.zero_le _⟩
  | cons e rest ih =>
    obtain ⟨s₁, first, more, stepped, later, rfl⟩ := run_cons ran
    obtain ⟨kept, offered⟩ := step_subscriber stepped subscribed
      fun channel notify => live channel (notify ▸ List.mem_cons_self _ _)
    obtain ⟨stays, offeredLater⟩ :=
      ih later kept fun channel mem => live channel (List.mem_cons_of_mem _ mem)
    have counted : (e :: rest).countP Event.isNotify = rest.countP Event.isNotify + e.isNotify.toNat := by
      cases notify : e.isNotify <;> simp [List.countP_cons, notify]
    refine ⟨stays, ?_⟩
    rw [Effect.events_append, List.countP_append, counted]
    omega

end

theorem run_subscriber_of_ping :
    ∃ s' effects, (Sys.init (exampleDht.subscribe 7)).run examplePingTurn.events = some (s', effects) ∧
      7 ∈ (Sys.init (exampleDht.subscribe 7)).state.subscribers ∧
      (∀ channel, .notify channel ∈ examplePingTurn.events → channel 7 ≠ .closed) ∧
      7 ∈ s'.state.subscribers ∧
      examplePingTurn.events.countP Event.isNotify ≤
        (Effect.events effects).countP fun offer => offer.1 == 7 := by
  obtain ⟨s', effects, ran⟩ : ∃ s' effects,
      (Sys.init (exampleDht.subscribe 7)).run examplePingTurn.events = some (s', effects) :=
    ⟨_, _, rfl⟩
  have subscribed : 7 ∈ (Sys.init (exampleDht.subscribe 7)).state.subscribers :=
    List.mem_append_right _ (List.mem_singleton_self 7)
  have live : ∀ channel, .notify channel ∈ examplePingTurn.events → channel 7 ≠ .closed := by
    intro channel mem
    simp only [examplePingTurn, Turn.events, List.mem_cons, List.mem_singleton, Event.notify.injEq,
      reduceCtorEq, false_or, List.not_mem_nil, or_false] at mem
    subst mem
    decide
  exact ⟨s', effects, ran, subscribed, live, run_subscriber ran subscribed live⟩

def TaskPhase.isSpawned : TaskPhase → Bool
  | .spawned _ => true
  | _ => false

@[simp] theorem TaskPhase.isSpawned_spawned (task : Outbound) :
    (TaskPhase.spawned task).isSpawned = true := rfl

/-- The request tasks that have not sent their request yet. -/
def Sys.unsent {σ α π : Type} (s : Sys σ α π) : Nat := s.tasks.countP fun t => t.phase.isSpawned

def Effect.requests (effects : List Effect) : Nat :=
  (Effect.sends effects).countP fun p => p.1.isRequest

def Effect.isSpawn : Effect → Bool
  | .spawn _ _ _ => true
  | _ => false

def Event.isSendRequest : Event → Bool
  | .sendRequest msg _ _ _ => msg.isRequest
  | _ => false

@[simp] theorem Effect.requests_append (xs ys : List Effect) :
    Effect.requests (xs ++ ys) = Effect.requests xs + Effect.requests ys := by
  simp [Effect.requests, List.countP_append]

theorem Message.isRequest_of_isResponse {msg : Message} (response : msg.isResponse = true) :
    msg.isRequest = false := by
  unfold Message.isResponse at response
  unfold Message.isRequest
  split <;> simp_all

theorem spawnedTasks_unsent (effects : List Effect) :
    (spawnedTasks effects).countP (fun t => t.phase.isSpawned) = effects.countP Effect.isSpawn := by
  induction effects with
  | nil => rfl
  | cons eff effects ih =>
    cases eff <;> simp [spawnedTasks, Effect.isSpawn, List.countP_cons, ih]

theorem countP_eraseIdx {β : Type} (p : β → Bool) {l : List β} {i : Nat} {a : β}
    (found : l[i]? = some a) : (l.eraseIdx i).countP p + (if p a then 1 else 0) = l.countP p := by
  induction l generalizing i with
  | nil => cases found
  | cons x l ih =>
    cases i with
    | zero =>
      simp only [List.getElem?_cons_zero, Option.some.injEq] at found
      subst found
      simp [List.countP_cons]
    | succ i =>
      simp only [List.getElem?_cons_succ] at found
      have before := ih found
      simp only [List.eraseIdx_cons_succ, List.countP_cons]
      omega

theorem countP_set_of_getElem? {β : Type} (p : β → Bool) {l : List β} {i : Nat} {a : β}
    (found : l[i]? = some a) (b : β) :
    (l.set i b).countP p + (if p a then 1 else 0) = l.countP p + (if p b then 1 else 0) := by
  obtain ⟨within, rfl⟩ := List.getElem?_eq_some_iff.mp found
  have bounded := List.boole_getElem_le_countP p l i within
  rw [List.countP_set p l i b within]
  omega

section

variable {σ α π : Type} [NodeStorage σ] [IPV4AddrSource α] [PeerStorage π] [Bep42]

theorem step_request_sent {s s' : Sys σ α π} {e : Event} {effects : List Effect}
    (stepped : s.step e = some (s', effects)) {reply : Message} {dest : SocketAddr}
    {destId : Option Id} (made : .sendTo reply dest destId ∈ effects)
    (isRequest : reply.isRequest = true) :
    (∃ i sent, e = .send i sent) ∨ ∃ dest' destId' sent, e = .sendRequest reply dest' destId' sent := by
  cases mem_step stepped made with
  | request _ _ _ _ _ _ _ _ common => obtain ⟨_, ⟨⟩, -⟩ := mem_commonRequestHandling common
  | answer _ _ _ _ _ _ _ _ answer =>
    rw [Message.isRequest_of_isResponse (answerRequest_sendTo answer).2.2.1] at isRequest
    cases isRequest
  | send i sent => exact .inl ⟨i, sent, rfl⟩
  | response _ _ _ _ _ _ _ _ _ _ handled =>
    obtain ⟨-, upsert | ⟨_, _, _, ⟨⟩, -⟩⟩ := mem_handleResponse handled
    cases upsert
  | store _ _ _ _ _ _ _ stored => obtain ⟨_, -, ⟨⟩, -⟩ := mem_storeFoundNodes stored
  | sendRequest _ _ _ sent => exact .inr ⟨_, _, sent, rfl⟩
  | maintenance _ _ maintained => cases mem_periodicIp4Maintenance maintained

theorem unsent_eraseIdx {tasks : List RequestTask} {i : Nat} {t : RequestTask}
    (found : tasks[i]? = some t) (sent : t.phase.isSpawned = false) :
    (tasks.eraseIdx i).countP (fun t => t.phase.isSpawned) = tasks.countP fun t => t.phase.isSpawned := by
  simpa [sent] using countP_eraseIdx (fun t => t.phase.isSpawned) found

theorem unsent_set {tasks : List RequestTask} {i : Nat} {t : RequestTask}
    (found : tasks[i]? = some t) (sent : t.phase.isSpawned = false) {t' : RequestTask}
    (still : t'.phase.isSpawned = false) :
    (tasks.set i t').countP (fun t => t.phase.isSpawned) = tasks.countP fun t => t.phase.isSpawned := by
  simpa [sent, still] using countP_set_of_getElem? (fun t => t.phase.isSpawned) found t'

theorem step_requests {s s' : Sys σ α π} {e : Event} {effects : List Effect}
    (stepped : s.step e = some (s', effects)) :
    Effect.requests effects + s'.unsent ≤
      effects.countP Effect.isSpawn + e.isSendRequest.toNat + s.unsent := by
  have quiet : (∀ i sent, e ≠ .send i sent) →
      (∀ msg dest destId sent, e ≠ .sendRequest msg dest destId sent) →
      Effect.requests effects = 0 := fun notSend notCall =>
    List.countP_eq_zero.mpr fun ⟨reply, dest⟩ mem isRequest => by
      obtain ⟨destId, made⟩ := Effect.mem_sends.mp mem
      rcases step_request_sent stepped made isRequest with ⟨i, sent, rfl⟩ | ⟨_, _, sent, rfl⟩
      exacts [notSend i sent rfl, notCall _ _ _ sent rfl]
  have frame : s'.tasks = s.tasks → (∀ i sent, e ≠ .send i sent) →
      (∀ msg dest destId sent, e ≠ .sendRequest msg dest destId sent) →
      Effect.requests effects + s'.unsent ≤
        effects.countP Effect.isSpawn + e.isSendRequest.toNat + s.unsent := by
    intro same notSend notCall
    rw [quiet notSend notCall, Sys.unsent, Sys.unsent, same]
    omega
  cases e with
  | send i sent =>
    obtain ⟨t, task, found, phase, rfl, rfl⟩ := Sys.step_send stepped
    have spawned : t.phase.isSpawned = true := by rw [phase]; rfl
    have once : Effect.requests [.sendTo (s.state.buildOutbound task) t.target t.targetId] = 1 := by
      simp [Effect.requests, Effect.sends, (buildOutbound_request s.state task).1]
    simp only [Sys.send, Sys.unsent, once]
    split
    · have consumed := countP_set_of_getElem? (fun t => t.phase.isSpawned) found
        { t with phase := .awaiting (s.state.buildOutbound task) }
      simp only [spawned, if_true] at consumed
      simp [Effect.isSpawn, Event.isSendRequest, TaskPhase.isSpawned] at consumed ⊢
      omega
    · have consumed := countP_eraseIdx (fun t => t.phase.isSpawned) found
      simp only [spawned, if_true] at consumed
      simp [Effect.isSpawn, Event.isSendRequest]
      omega
  | sendRequest msg dest destId sent =>
    rcases Sys.step_sendRequest stepped with ⟨isRequest, rfl, ⟨-, rfl⟩ | rfl⟩ | ⟨-, rfl, rfl⟩
    · simp [Effect.requests, Effect.sends, isRequest, Sys.unsent, Event.isSendRequest,
        List.countP_append, TaskPhase.isSpawned]
    · simp [Effect.requests, Effect.sends, isRequest, Event.isSendRequest]
    · simp [Effect.requests, Effect.sends, Event.isSendRequest]
  | pingRouter | buddyPing | findNode =>
    obtain ⟨rfl, rfl⟩ := some_pair_eq stepped
    rw [quiet (by rintro _ _ ⟨⟩) (by rintro _ _ _ _ ⟨⟩)]
    simp [Sys.spawning, Sys.unsent, List.countP_append, spawnedTasks_unsent, Event.isSendRequest]
    omega
  | deliver i received now =>
    obtain ⟨t, request, found, phase, rfl, rfl⟩ := Sys.step_deliver stepped
    have sent : t.phase.isSpawned = false := by rw [phase]; rfl
    rw [quiet (by rintro _ _ ⟨⟩) (by rintro _ _ _ _ ⟨⟩), Sys.unsent, Sys.unsent]
    unfold Sys.deliver
    split
    · split
      · rw [unsent_set found sent]
        · omega
        · rfl
      · rw [unsent_eraseIdx found sent]
        omega
    · rw [unsent_eraseIdx found sent]
      omega
  | store i now =>
    obtain ⟨t, nodes, found, phase, rfl, rfl⟩ := Sys.step_store stepped
    rw [quiet (by rintro _ _ ⟨⟩) (by rintro _ _ _ _ ⟨⟩), Sys.unsent, Sys.unsent,
      unsent_eraseIdx found (by rw [phase]; rfl)]
    omega
  | drop i =>
    obtain ⟨-, rfl, rfl⟩ := Sys.step_drop stepped
    have fewer := (List.eraseIdx_sublist s.tasks i).countP_le (fun t => t.phase.isSpawned)
    simp only [Effect.requests, Effect.sends, Sys.unsent, List.countP_nil]
    omega
  | receive received throttled now =>
    obtain ⟨-, rfl, rfl⟩ := Sys.step_receive stepped
    exact frame (receive_core s received throttled now).2.1 (by rintro _ _ ⟨⟩) (by rintro _ _ _ _ ⟨⟩)
  | answer now shuffle sent =>
    obtain ⟨_, _, _, -, rfl, rfl⟩ := Sys.step_answer stepped
    exact frame rfl (by rintro _ _ ⟨⟩) (by rintro _ _ _ _ ⟨⟩)
  | notify channel =>
    obtain ⟨_, -, rfl, rfl⟩ := Sys.step_notify stepped
    exact frame rfl (by rintro _ _ ⟨⟩) (by rintro _ _ _ _ ⟨⟩)
  | prune | ip4Maintenance | rotateTokenSecrets | subscribe =>
    obtain ⟨rfl, rfl⟩ := some_pair_eq stepped
    exact frame rfl (by rintro _ _ ⟨⟩) (by rintro _ _ _ _ ⟨⟩)

/-- Each request is sent once. -/
theorem run_requests {s s' : Sys σ α π} {events : List Event} {effects : List Effect}
    (ran : s.run events = some (s', effects)) :
    Effect.requests effects + s'.unsent ≤
      effects.countP Effect.isSpawn + events.countP Event.isSendRequest + s.unsent := by
  induction events generalizing s effects with
  | nil =>
    cases ran
    simp [Effect.requests, Effect.sends]
  | cons e rest ih =>
    obtain ⟨s₁, first, more, stepped, later, rfl⟩ := run_cons ran
    have counted : (e :: rest).countP Event.isSendRequest =
        rest.countP Event.isSendRequest + e.isSendRequest.toNat := by
      cases called : e.isSendRequest <;> simp [List.countP_cons, called]
    have now := step_requests stepped
    have after := ih later
    rw [Effect.requests_append, List.countP_append, counted]
    omega

end

theorem run_requests_of_ping :
    ∃ s' effects, examplePingTask.run [.send 0 (.ok true)] = some (s', effects) ∧
      Effect.requests effects + s'.unsent ≤
        effects.countP Effect.isSpawn + ([.send 0 (.ok true)] : List Event).countP Event.isSendRequest +
          examplePingTask.unsent := by
  obtain ⟨s', effects, ran⟩ : ∃ s' effects,
      examplePingTask.run [.send 0 (.ok true)] = some (s', effects) := ⟨_, _, rfl⟩
  exact ⟨s', effects, ran, run_requests ran⟩

end RustyDht
