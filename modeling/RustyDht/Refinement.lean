import RustyDht.ReadOnly

set_option linter.unusedSectionVars false

/-! The two levels agree: the steps of one task, run with no other task in between, do
what the sequential function does. -/
namespace RustyDht

/-- The events of one turn, in the order its critical sections run. -/
def Turn.events (turn : Turn) : List Event :=
  [.receive turn.received turn.throttled turn.now, .answer turn.now turn.shuffle turn.sent,
   .notify turn.channel]

def AcceptPhase.afterTurn : Except RustyDHTError Unit → AcceptPhase
  | .ok () => .receiving
  | .error e => .afterError e

def AcceptPhase.afterLoop : Except RustyDHTError Unit → AcceptPhase
  | .ok () => .receiving
  | .error e => .stopped e

theorem eraseIdx_concat_length {β : Type} (l : List β) (a : β) :
    (l ++ [a]).eraseIdx l.length = l := by
  rw [List.eraseIdx_append_of_length_le (Nat.le_refl _)]
  simp

theorem eraseIdx_set_self {β : Type} (l : List β) (i : Nat) (a : β) :
    (l.set i a).eraseIdx i = l.eraseIdx i := by
  induction l generalizing i with
  | nil => rfl
  | cons x l ih => cases i <;> simp [ih]

section

variable {σ α π : Type} [NodeStorage σ] [IPV4AddrSource α] [PeerStorage π] [Bep42]

theorem Sys.run_cons_eq {s s₁ : Sys σ α π} {e : Event} {first : List Effect}
    (stepped : s.step e = some (s₁, first)) (rest : List Event) :
    s.run (e :: rest) = (s₁.run rest).map fun out => (out.1, first ++ out.2) := by
  simp only [Sys.run, stepped, Option.pure_def, Option.bind_eq_bind, Option.some_bind]
  cases s₁.run rest <;> rfl

theorem Sys.run_append {s s₁ s₂ : Sys σ α π} {xs ys : List Event} {first more : List Effect}
    (ran : s.run xs = some (s₁, first)) (rest : s₁.run ys = some (s₂, more)) :
    s.run (xs ++ ys) = some (s₂, first ++ more) := by
  induction xs generalizing s first with
  | nil =>
    cases ran
    simpa using rest
  | cons e xs ih =>
    obtain ⟨s₀, now, later, stepped, after, rfl⟩ := run_cons ran
    rw [List.cons_append, Sys.run_cons_eq stepped, ih after]
    simp

theorem acceptTurn_steps {s : Sys σ α π} (receiving : s.accept = .receiving) (turn : Turn) :
    ∃ events, events.Sublist turn.events ∧
      s.run events = some
        ({ s with
            state := (s.state.acceptTurn s.readOnly turn).state
            accept := AcceptPhase.afterTurn (s.state.acceptTurn s.readOnly turn).result },
          (s.state.acceptTurn s.readOnly turn).effects) := by
  obtain ⟨received, throttled, now, shuffle, sent, channel⟩ := turn
  obtain ⟨st, readOnly, _, tasks⟩ := s
  cases receiving
  rcases received with e | ⟨msg, addr⟩
  · refine ⟨[.receive (.error e) throttled now], by simp [Turn.events], ?_⟩
    simp [Sys.run, Sys.step, Sys.receive, DHTState.acceptTurn, AcceptPhase.afterTurn]
  by_cases dropped : throttled = true ∨ addr.port = 0
  · refine ⟨[.receive (.ok (msg, addr)) throttled now], by simp [Turn.events], ?_⟩
    rcases dropped with throttled | zero
    · simp [Sys.run, Sys.step, Sys.receive, DHTState.acceptTurn, AcceptPhase.afterTurn, throttled]
    · simp [Sys.run, Sys.step, Sys.receive, DHTState.acceptTurn, AcceptPhase.afterTurn, zero]
  simp only [not_or, Bool.not_eq_true] at dropped
  obtain ⟨fresh, port⟩ := dropped
  cases readOnly with
  | true =>
    refine ⟨[.receive (.ok (msg, addr)) throttled now, .notify channel], by simp [Turn.events], ?_⟩
    simp [Sys.run, Sys.step, Sys.receive, DHTState.acceptTurn, AcceptPhase.afterTurn, fresh, port]
  | false =>
    cases kind : msg.messageType with
    | request request =>
      have common : (st.commonRequestHandling addr msg now).result = .ok () :=
        commonRequestHandling_result kind
      cases answered : ((st.commonRequestHandling addr msg now).state.answerRequest msg addr
          request now shuffle sent).result with
      | error e =>
        refine ⟨[.receive (.ok (msg, addr)) throttled now, .answer now shuffle sent],
          by simp [Turn.events], ?_⟩
        simp [Sys.run, Sys.step, Sys.receive, DHTState.acceptTurn, acceptSinglePacket_request kind,
          AcceptPhase.afterTurn, fresh, port, kind, common, answered]
      | ok _ =>
        refine ⟨[.receive (.ok (msg, addr)) throttled now, .answer now shuffle sent,
          .notify channel], by simp [Turn.events], ?_⟩
        simp [Sys.run, Sys.step, Sys.receive, DHTState.acceptTurn, acceptSinglePacket_request kind,
          AcceptPhase.afterTurn, fresh, port, kind, common, answered]
    | response _ | error _ _ =>
      refine ⟨[.receive (.ok (msg, addr)) throttled now, .notify channel], by simp [Turn.events], ?_⟩
      simp [Sys.run, Sys.step, Sys.receive, DHTState.acceptTurn, DHTState.acceptSinglePacket,
        AcceptPhase.afterTurn, fresh, port, kind]

theorem acceptLoop_steps {s : Sys σ α π} (receiving : s.accept = .receiving) (turns : List Turn) :
    ∃ events, events.Sublist (turns.flatMap Turn.events) ∧
      s.run events = some
        ({ s with
            state := (s.state.acceptLoop s.readOnly turns).state
            accept := AcceptPhase.afterLoop (s.state.acceptLoop s.readOnly turns).result },
          (s.state.acceptLoop s.readOnly turns).effects) := by
  induction turns generalizing s with
  | nil =>
    obtain ⟨st, readOnly, _, tasks⟩ := s
    cases receiving
    exact ⟨[], List.Sublist.slnil, rfl⟩
  | cons turn rest ih =>
    obtain ⟨first, within, ran⟩ := acceptTurn_steps receiving turn
    cases result : (s.state.acceptTurn s.readOnly turn).result with
    | error e =>
      cases fatal : e.isRecoverable
      · refine ⟨first, within.trans (List.sublist_append_left _ _), ?_⟩
        have stops : s.state.acceptLoop s.readOnly (turn :: rest) =
            s.state.acceptTurn s.readOnly turn := by
          simp [DHTState.acceptLoop, result, fatal]
        rw [stops, ran]
        simp [result, AcceptPhase.afterTurn, AcceptPhase.afterError, AcceptPhase.afterLoop, fatal]
      · obtain ⟨more, within', ran'⟩ := ih (s := { s with
          state := (s.state.acceptTurn s.readOnly turn).state
          accept := AcceptPhase.afterTurn (s.state.acceptTurn s.readOnly turn).result })
          (by simp [result, AcceptPhase.afterTurn, AcceptPhase.afterError, fatal])
        refine ⟨first ++ more, by rw [List.flatMap_cons]; exact within.append within', ?_⟩
        rw [Sys.run_append ran ran']
        simp [DHTState.acceptLoop, result, fatal]
    | ok _ =>
      obtain ⟨more, within', ran'⟩ := ih (s := { s with
        state := (s.state.acceptTurn s.readOnly turn).state
        accept := AcceptPhase.afterTurn (s.state.acceptTurn s.readOnly turn).result })
        (by simp [result, AcceptPhase.afterTurn])
      refine ⟨first ++ more, by rw [List.flatMap_cons]; exact within.append within', ?_⟩
      rw [Sys.run_append ran ran']
      simp [DHTState.acceptLoop, result]

/-- The accept loop as the system runs it. -/
theorem acceptIncomingPackets_steps {s : Sys σ α π} {log : List Effect} (reach : Reachable s log)
    (receiving : s.accept = .receiving) (turns : List Turn) :
    ∃ events, events.Sublist (turns.flatMap Turn.events) ∧
      s.run events = some
        ({ s with
            state := (s.state.acceptIncomingPackets turns).state
            accept := AcceptPhase.afterLoop (s.state.acceptIncomingPackets turns).result },
          (s.state.acceptIncomingPackets turns).effects) := by
  rw [DHTState.acceptIncomingPackets, ← reachable_readOnly reach]
  exact acceptLoop_steps receiving turns

end

def examplePingTurn : Turn := ⟨.ok (examplePing, exampleRequester), false, 0, id, .ok (), fun _ => .ok⟩

theorem acceptIncomingPackets_steps_of_ping :
    Reachable (Sys.init exampleDht) [.setId testId] ∧ (Sys.init exampleDht).accept = .receiving ∧
    ∃ events, events.Sublist ([examplePingTurn].flatMap Turn.events) ∧
      (Sys.init exampleDht).run events = some
        ({ Sys.init exampleDht with
            state := (exampleDht.acceptIncomingPackets [examplePingTurn]).state
            accept := AcceptPhase.afterLoop (exampleDht.acceptIncomingPackets [examplePingTurn]).result },
          (exampleDht.acceptIncomingPackets [examplePingTurn]).effects) :=
  ⟨reachable_exampleDht, rfl, acceptIncomingPackets_steps reachable_exampleDht rfl _⟩

section

variable {σ α π : Type} [NodeStorage σ] [IPV4AddrSource α] [PeerStorage π] [Bep42]

theorem awaiting_steps (s : Sys σ α π) {i : Nat} {t : RequestTask} {request msg : Message}
    (found : s.tasks[i]? = some t) (phase : t.phase = .awaiting request)
    (isRequest : msg.isRequest = true) (received : Option Message) (now : Instant) :
    ∃ events more, events.Sublist [.deliver i received now, .store i now] ∧
      (s.state.commonSendAndHandleResponse msg t.target t.targetId (.ok true) received now).effects =
        .sendTo msg t.target t.targetId :: more ∧
      s.run events = some
        ({ s with
            state := (s.state.commonSendAndHandleResponse msg t.target t.targetId (.ok true) received
              now).state
            tasks := s.tasks.eraseIdx i },
          more) := by
  have within : i < s.tasks.length := (List.getElem?_eq_some_iff.mp found).1
  rcases received with _ | reply
  · refine ⟨[.deliver i none now], [], by simp,
      by simp [DHTState.commonSendAndHandleResponse, isRequest], ?_⟩
    simp [Sys.run, Sys.step, Sys.deliver, found, phase, DHTState.commonSendAndHandleResponse, isRequest]
  cases kind : reply.messageType with
  | response response =>
    refine ⟨[.deliver i (some reply) now, .store i now],
      (s.state.handleResponse t.target reply response now).2 ++
        ((s.state.handleResponse t.target reply response now).1.storeFoundNodes now
          response.foundNodes).2, List.Sublist.refl _,
      by simp [DHTState.commonSendAndHandleResponse, isRequest, kind], ?_⟩
    simp [Sys.run, Sys.step, Sys.deliver, found, phase, within, kind,
      DHTState.commonSendAndHandleResponse, isRequest, eraseIdx_set_self]
  | request _ | error _ _ =>
    refine ⟨[.deliver i (some reply) now], [], by simp,
      by simp [DHTState.commonSendAndHandleResponse, isRequest, kind], ?_⟩
    simp [Sys.run, Sys.step, Sys.deliver, found, phase, kind, DHTState.commonSendAndHandleResponse,
      isRequest]

/-- `send_request` without a timeout, as the system runs it. -/
theorem sendRequest_steps (s : Sys σ α π) (msg : Message) (target : SocketAddr)
    (targetId : Option Id) (sent : Except RustyDHTError Bool) (received : Option Message)
    (now : Instant) :
    ∃ events, events.Sublist [.sendRequest msg target targetId sent,
        .deliver s.tasks.length received now, .store s.tasks.length now] ∧
      s.run events = some
        ({ s with state := (s.state.commonSendAndHandleResponse msg target targetId sent received
            now).state },
          (s.state.commonSendAndHandleResponse msg target targetId sent received now).effects) := by
  cases request : msg.isRequest
  · refine ⟨[.sendRequest msg target targetId sent], by simp, ?_⟩
    simp [Sys.run, Sys.step, DHTState.commonSendAndHandleResponse, request]
  rcases sent with e | _ | _
  · refine ⟨[.sendRequest msg target targetId (.error e)], by simp, ?_⟩
    simp [Sys.run, Sys.step, DHTState.commonSendAndHandleResponse, request]
  · refine ⟨[.sendRequest msg target targetId (.ok false)], by simp, ?_⟩
    simp [Sys.run, Sys.step, DHTState.commonSendAndHandleResponse, request]
  have stepped : s.step (.sendRequest msg target targetId (.ok true)) =
      some ({ s with tasks := s.tasks ++ [⟨target, targetId, .awaiting msg⟩] },
        [.sendTo msg target targetId]) := by
    simp [Sys.step, request]
  obtain ⟨events, more, within, effects, ran⟩ :=
    awaiting_steps { s with tasks := s.tasks ++ [⟨target, targetId, .awaiting msg⟩] }
      (List.getElem?_concat_length s.tasks _) rfl request received now
  refine ⟨.sendRequest msg target targetId (.ok true) :: events, within.cons₂ _, ?_⟩
  rw [Sys.run_cons_eq stepped, ran]
  simp [effects, eraseIdx_concat_length]

/-- A task spawned by `ping_internal` or `find_node_internal`, as the system runs it. -/
theorem spawned_steps (s : Sys σ α π) {i : Nat} {t : RequestTask} {task : Outbound}
    (found : s.tasks[i]? = some t) (phase : t.phase = .spawned task)
    (sent : Except RustyDHTError Bool) (received : Option Message) (now : Instant) :
    ∃ events, events.Sublist [.send i sent, .deliver i received now, .store i now] ∧
      s.run events = some
        ({ s with
            state := (s.state.commonSendAndHandleResponse (s.state.buildOutbound task) t.target
              t.targetId sent received now).state
            tasks := s.tasks.eraseIdx i },
          (s.state.commonSendAndHandleResponse (s.state.buildOutbound task) t.target t.targetId
            sent received now).effects) := by
  have request := (buildOutbound_request s.state task).1
  rcases sent with e | _ | _
  · refine ⟨[.send i (.error e)], by simp, ?_⟩
    simp [Sys.run, Sys.step, Sys.send, found, phase, DHTState.commonSendAndHandleResponse, request]
  · refine ⟨[.send i (.ok false)], by simp, ?_⟩
    simp [Sys.run, Sys.step, Sys.send, found, phase, DHTState.commonSendAndHandleResponse, request]
  have within : i < s.tasks.length := (List.getElem?_eq_some_iff.mp found).1
  have stepped : s.step (.send i (.ok true)) =
      some ({ s with tasks := s.tasks.set i { t with phase := .awaiting (s.state.buildOutbound task) } },
        [.sendTo (s.state.buildOutbound task) t.target t.targetId]) := by
    simp [Sys.step, Sys.send, found, phase]
  obtain ⟨events, more, inner, effects, ran⟩ :=
    awaiting_steps
      { s with tasks := s.tasks.set i { t with phase := .awaiting (s.state.buildOutbound task) } }
      (List.getElem?_set_self within) rfl request received now
  refine ⟨.send i (.ok true) :: events, inner.cons₂ _, ?_⟩
  rw [Sys.run_cons_eq stepped, ran]
  simp [effects, eraseIdx_set_self]

end

def examplePingTask : Sys NodeTable StaticIPV4AddrSource PeerTable :=
  ⟨exampleDht, false, .receiving, [⟨exampleRequester, none, .spawned .ping⟩]⟩

theorem spawned_steps_of_ping :
    examplePingTask.tasks[0]? = some ⟨exampleRequester, none, .spawned .ping⟩ ∧
    (⟨exampleRequester, none, .spawned .ping⟩ : RequestTask).phase = .spawned .ping ∧
    ∃ events, events.Sublist [.send 0 (.ok true), .deliver 0 none 0, .store 0 0] ∧
      examplePingTask.run events = some
        ({ examplePingTask with
            state := (exampleDht.commonSendAndHandleResponse (exampleDht.buildOutbound .ping)
              exampleRequester none (.ok true) none 0).state
            tasks := [] },
          (exampleDht.commonSendAndHandleResponse (exampleDht.buildOutbound .ping)
            exampleRequester none (.ok true) none 0).effects) := by
  have found : examplePingTask.tasks[0]? = some ⟨exampleRequester, none, .spawned .ping⟩ := rfl
  exact ⟨found, rfl, spawned_steps examplePingTask found rfl (.ok true) none 0⟩

end RustyDht
