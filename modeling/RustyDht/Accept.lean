import RustyDht.Periodic

set_option linter.unusedSectionVars false

/-! `accept_incoming_packets`. A turn's body is an `async` block whose `?` skips the rest of
the turn; `read_only` is read once, before the loop. -/
namespace RustyDht

inductive TrySendResult
  | ok
  | full
  | closed
  deriving DecidableEq, Repr

/-- What one turn gets from the socket, the throttler, the clock and the channels. -/
structure Turn where
  received : Except RustyDHTError (Message × SocketAddr)
  throttled : Bool
  now : Instant
  shuffle : Nat → Nat
  sent : Except RustyDHTError Unit
  channel : Nat → TrySendResult

def Effect.events : List Effect → List (Nat × DHTEvent)
  | [] => []
  | .trySend subscriber event :: rest => (subscriber, event) :: events rest
  | _ :: rest => events rest

@[simp] theorem Effect.events_append (xs ys : List Effect) :
    Effect.events (xs ++ ys) = Effect.events xs ++ Effect.events ys := by
  induction xs with
  | nil => rfl
  | cons e xs ih => cases e <;> simp [Effect.events, ih]

section

variable {σ α π : Type} [NodeStorage σ] [IPV4AddrSource α] [PeerStorage π] [Bep42]

def DHTState.sendPacketToSubscribers (st : DHTState σ α π) (msg : Message)
    (channel : Nat → TrySendResult) : DHTState σ α π × List Effect :=
  let event : DHTEvent := ⟨msg⟩
  ({ st with subscribers := st.subscribers.filter (fun sub => channel sub != .closed) },
   st.subscribers.map (fun sub => .trySend sub event))

def DHTState.acceptTurn (st : DHTState σ α π) (readOnly : Bool) (turn : Turn) :
    Outcome σ α π Unit :=
  match turn.received with
  | .error e => ⟨st, [], .error e⟩
  | .ok (msg, addr) =>
    if turn.throttled then ⟨st, [], .ok ()⟩
    else if addr.port = 0 then ⟨st, [], .ok ()⟩
    else
      let handled : Outcome σ α π Unit :=
        if !readOnly then st.acceptSinglePacket msg addr turn.now turn.shuffle turn.sent
        else ⟨st, [], .ok ()⟩
      match handled.result with
      | .error e => ⟨handled.state, handled.effects, .error e⟩
      | .ok () =>
        let (st, events) := handled.state.sendPacketToSubscribers msg turn.channel
        ⟨st, handled.effects ++ events, .ok ()⟩

/-- The accept loop over the turns it gets; `Ok` means it is still running. -/
def DHTState.acceptLoop (st : DHTState σ α π) (readOnly : Bool) :
    List Turn → Outcome σ α π Unit
  | [] => ⟨st, [], .ok ()⟩
  | turn :: rest =>
    let this := st.acceptTurn readOnly turn
    let goOn :=
      match this.result with
      | .error e => e.isRecoverable
      | .ok () => true
    if goOn then
      let more := this.state.acceptLoop readOnly rest
      ⟨more.state, this.effects ++ more.effects, more.result⟩
    else this

def DHTState.acceptIncomingPackets (st : DHTState σ α π) (turns : List Turn) :
    Outcome σ α π Unit :=
  st.acceptLoop st.settings.readOnly turns

theorem sendPacketToSubscribers_events (st : DHTState σ α π) (msg : Message)
    (channel : Nat → TrySendResult) :
    Effect.events (st.sendPacketToSubscribers msg channel).2 =
      st.subscribers.map (fun sub => (sub, ⟨msg⟩)) := by
  simp only [DHTState.sendPacketToSubscribers]
  induction st.subscribers with
  | nil => rfl
  | cons sub rest ih => simp [Effect.events, ih]

theorem acceptSinglePacket_events (st : DHTState σ α π) (msg : Message) (addr : SocketAddr)
    (now : Instant) (shuffle : Nat → Nat) (sent : Except RustyDHTError Unit) :
    Effect.events (st.acceptSinglePacket msg addr now shuffle sent).effects = [] := by
  unfold DHTState.acceptSinglePacket
  split
  · rename_i request _
    have common : Effect.events (st.commonRequestHandling addr msg now).effects = [] := by
      unfold DHTState.commonRequestHandling
      split
      · rfl
      · dsimp only
        split <;> rfl
    dsimp only
    split
    · exact common
    · simp only [Effect.events_append, common, List.nil_append]
      unfold DHTState.answerRequest
      split
      case h_4 => split <;> rfl
      all_goals rfl
  · rfl

theorem acceptSinglePacket_subscribers (st : DHTState σ α π) (msg : Message) (addr : SocketAddr)
    (now : Instant) (shuffle : Nat → Nat) (sent : Except RustyDHTError Unit) :
    (st.acceptSinglePacket msg addr now shuffle sent).state.subscribers = st.subscribers := by
  unfold DHTState.acceptSinglePacket
  split
  · obtain ⟨buckets, common⟩ := commonRequestHandling_state st addr msg now
    dsimp only
    split
    · simp [common]
    · rename_i request _ _ _
      obtain ⟨peerStorage, answer⟩ :=
        answerRequest_state { st with buckets } msg addr request now shuffle sent
      simp [common, answer]
  · rfl

theorem acceptLoop_result (st : DHTState σ α π) (readOnly : Bool) (turns : List Turn)
    (e : RustyDHTError) (stopped : (st.acceptLoop readOnly turns).result = .error e) :
    e.isRecoverable = false := by
  induction turns generalizing st with
  | nil => cases stopped
  | cons turn rest ih =>
    simp only [DHTState.acceptLoop] at stopped
    split at stopped
    · exact ih _ stopped
    · rename_i goOn
      split at goOn
      · rename_i e' fatal
        rw [fatal] at stopped
        cases stopped
        simpa using goOn
      · simp at goOn

/-- What the accept contract says a turn offers the subscribers. -/
def Turn.offers (turn : Turn) (st : DHTState σ α π) (readOnly : Bool) : List (Nat × DHTEvent) :=
  match turn.received with
  | .ok (msg, addr) =>
    if !turn.throttled && addr.port != 0 &&
        (readOnly || (st.acceptSinglePacket msg addr turn.now turn.shuffle turn.sent).result.toBool)
    then st.subscribers.map fun sub => (sub, ⟨msg⟩)
    else []
  | .error _ => []

theorem acceptTurn_offers (st : DHTState σ α π) (readOnly : Bool) (turn : Turn) :
    Effect.events (st.acceptTurn readOnly turn).effects = turn.offers st readOnly := by
  rcases received : turn.received with e | ⟨msg, addr⟩
  · simp [DHTState.acceptTurn, Turn.offers, received, Effect.events]
  cases throttled : turn.throttled
  · by_cases port : addr.port = 0
    · simp [DHTState.acceptTurn, Turn.offers, received, throttled, port, Effect.events]
    cases readOnly
    · cases result : (st.acceptSinglePacket msg addr turn.now turn.shuffle turn.sent).result <;>
        simp [DHTState.acceptTurn, Turn.offers, received, throttled, port, result, Except.toBool,
          sendPacketToSubscribers_events, acceptSinglePacket_events, acceptSinglePacket_subscribers]
    · simp [DHTState.acceptTurn, Turn.offers, received, throttled, port,
        sendPacketToSubscribers_events]
  · simp [DHTState.acceptTurn, Turn.offers, received, throttled, Effect.events]

def continuesAfter : Except RustyDHTError Unit → Bool
  | .error e => e.isRecoverable
  | .ok () => true

def DHTState.acceptStarts (st : DHTState σ α π) (readOnly : Bool) :
    List Turn → List (DHTState σ α π × Turn)
  | [] => []
  | turn :: rest =>
    (st, turn) :: if continuesAfter (st.acceptTurn readOnly turn).result
      then (st.acceptTurn readOnly turn).state.acceptStarts readOnly rest else []

theorem acceptLoop_cons (st : DHTState σ α π) (readOnly : Bool) (turn : Turn) (rest : List Turn) :
    st.acceptLoop readOnly (turn :: rest) =
      if continuesAfter (st.acceptTurn readOnly turn).result then
        ⟨((st.acceptTurn readOnly turn).state.acceptLoop readOnly rest).state,
          (st.acceptTurn readOnly turn).effects ++
            ((st.acceptTurn readOnly turn).state.acceptLoop readOnly rest).effects,
          ((st.acceptTurn readOnly turn).state.acceptLoop readOnly rest).result⟩
      else st.acceptTurn readOnly turn :=
  rfl

theorem acceptLoop_turns (st : DHTState σ α π) (readOnly : Bool) (turns : List Turn) :
    let ran := st.acceptStarts readOnly turns
    ran.map Prod.snd <+: turns ∧
    (ran.length < turns.length →
      ∃ e, (st.acceptLoop readOnly turns).result = .error e ∧ e.isRecoverable = false) ∧
    (st.acceptLoop readOnly turns).effects =
      ran.flatMap fun start => (start.1.acceptTurn readOnly start.2).effects := by
  induction turns generalizing st with
  | nil => exact ⟨List.prefix_refl _, nofun, rfl⟩
  | cons turn rest ih =>
    simp only [DHTState.acceptStarts, acceptLoop_cons]
    cases goOn : continuesAfter (st.acceptTurn readOnly turn).result <;>
      simp only [Bool.false_eq_true, ↓reduceIte]
    · refine ⟨List.cons_prefix_cons.mpr ⟨rfl, List.nil_prefix⟩, fun _ => ?_, by simp⟩
      unfold continuesAfter at goOn
      split at goOn
      · exact ⟨_, ‹_›, goOn⟩
      · cases goOn
    · obtain ⟨taken, stopped, calls⟩ := ih (st.acceptTurn readOnly turn).state
      refine ⟨List.cons_prefix_cons.mpr ⟨rfl, taken⟩, fun shorter => ?_, by simp [calls]⟩
      simpa using stopped (by simpa using shorter)

/-- The accept loop as the turns it takes, their calls and what they offer. -/
theorem acceptIncomingPackets_turns (st : DHTState σ α π) (turns : List Turn) :
    let readOnly := st.settings.readOnly
    let ran := st.acceptStarts readOnly turns
    ran.map Prod.snd <+: turns ∧
    (ran.length < turns.length →
      ∃ e, (st.acceptIncomingPackets turns).result = .error e ∧ e.isRecoverable = false) ∧
    (st.acceptIncomingPackets turns).effects =
      ran.flatMap (fun start => (start.1.acceptTurn readOnly start.2).effects) ∧
    Effect.events (st.acceptIncomingPackets turns).effects =
      ran.flatMap fun start => start.2.offers start.1 readOnly := by
  obtain ⟨taken, stopped, calls⟩ := acceptLoop_turns st st.settings.readOnly turns
  refine ⟨taken, stopped, calls, ?_⟩
  rw [DHTState.acceptIncomingPackets, calls]
  induction st.acceptStarts st.settings.readOnly turns with
  | nil => rfl
  | cons start rest ih => simp [ih, acceptTurn_offers]

end

end RustyDht
