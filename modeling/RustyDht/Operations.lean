import RustyDht.Collaborators

set_option linter.unusedSectionVars false

/-! `operations.rs`: `find_node`, `get_peers` and `announce_peer`. The overall timeout may
cut a lookup at any await, so a result is taken after any prefix of a run. -/
namespace RustyDht

/-- The operation-local `Buckets` (not under `src/`): the calls the lookups make on it. -/
class LookupBuckets (β : Type) where
  new : Id → Nat → β
  contains : β → Id → Bool
  add : β → NodeWrapper → β
  getNearestNodes : β → Id → List NodeWrapper

def NodeWrapper.new (node : Node) (now : Instant) : NodeWrapper := ⟨node, now, none⟩

structure GetPeersResponder where
  node : Node
  token : List UInt8
  deriving DecidableEq, Repr

structure GetPeersResult where
  infoHash : Id
  peers : List SocketAddr
  responders : List GetPeersResponder
  deriving DecidableEq, Repr

/-- The order of `GetPeersResult::new`, `a_dist.partial_cmp(&b_dist).unwrap()`. -/
def responderLe (infoHash : Id) (a b : GetPeersResponder) : Prop :=
  (a.node.id.xor infoHash).partialCmp (b.node.id.xor infoHash) ≠ some .gt

instance (infoHash : Id) : DecidableRel (responderLe infoHash) :=
  fun _ _ => inferInstanceAs (Decidable (_ ≠ _))

theorem responderLe_iff (infoHash : Id) (a b : GetPeersResponder) :
    responderLe infoHash a b ↔ a.node.id.distance infoHash ≤ b.node.id.distance infoHash := by
  simp [responderLe, Id.partialCmp, Id.distance, Nat.compare_eq_gt]

theorem responderLe_total (infoHash : Id) (a b : GetPeersResponder) :
    responderLe infoHash a b ∨ responderLe infoHash b a := by
  simp only [responderLe_iff]; omega

theorem responderLe_trans (infoHash : Id) (a b c : GetPeersResponder) :
    responderLe infoHash a b → responderLe infoHash b c → responderLe infoHash a c := by
  simp only [responderLe_iff]; omega

instance (infoHash : Id) : IsTotal GetPeersResponder (responderLe infoHash) :=
  ⟨responderLe_total infoHash⟩

instance (infoHash : Id) : IsTrans GetPeersResponder (responderLe infoHash) :=
  ⟨responderLe_trans infoHash⟩

def GetPeersResult.new (infoHash : Id) (peers : List SocketAddr)
    (responders : List GetPeersResponder) : GetPeersResult :=
  ⟨infoHash, peers, responders.insertionSort (responderLe infoHash)⟩

structure LookupState (β γ : Type) where
  buckets : β
  bestIds : List Id
  inFlight : List Node
  stopped : Bool
  found : γ

inductive LookupEvent
  /-- The top of a round, with `dht.get_id()` and `dht.get_nodes()` as they are then. -/
  | round (ourId : Id) (dhtNodes : List NodeWrapper)
  /-- The `i`-th request still in flight completes with what `send_request` returned. -/
  | reply (i : Nat) (result : Except RustyDHTError Message) (now : Instant)

inductive LookupEffect
  | sent (request : Message) (node : Node)
  | received (node : Node) (result : Except RustyDHTError Message)

def LookupEvent.completion : LookupEvent → Option (Except RustyDHTError Message)
  | .reply _ result _ => some result
  | .round .. => none

def LookupEffect.completion : LookupEffect → Option (Except RustyDHTError Message)
  | .received _ result => some result
  | .sent .. => none

theorem LookupEvent.mem_completions {events : List LookupEvent}
    {r : Except RustyDHTError Message} :
    r ∈ events.filterMap LookupEvent.completion ↔ ∃ i now, .reply i r now ∈ events := by
  simp only [List.mem_filterMap]
  constructor
  · rintro ⟨_ | ⟨i, r, now⟩, mem, ⟨⟩⟩
    exact ⟨i, now, mem⟩
  · rintro ⟨i, now, mem⟩
    exact ⟨_, mem, rfl⟩

theorem LookupEffect.mem_completions {effects : List LookupEffect}
    {r : Except RustyDHTError Message} :
    r ∈ effects.filterMap LookupEffect.completion ↔ ∃ node, .received node r ∈ effects := by
  simp only [List.mem_filterMap]
  constructor
  · rintro ⟨_ | ⟨node, r⟩, mem, ⟨⟩⟩
    exact ⟨node, mem⟩
  · rintro ⟨node, mem⟩
    exact ⟨_, mem, rfl⟩

def insertAll (unique peers : List SocketAddr) : List SocketAddr :=
  peers.foldl (fun acc peer => acc.insert peer) unique

def LookupEffect.responder : LookupEffect → Option GetPeersResponder
  | .received node (.ok reply) =>
    match reply.messageType with
    | .response (.getPeersResponse arguments) => some ⟨node, arguments.token⟩
    | _ => none
  | _ => none

def LookupEffect.peers : LookupEffect → List SocketAddr
  | .received _ (.ok reply) =>
    match reply.messageType with
    | .response (.getPeersResponse arguments) =>
      match arguments.values with
      | .peers peers => peers
      | .nodes _ => []
    | _ => []
  | _ => []

theorem nodup_insertAll {unique : List SocketAddr} (distinct : unique.Nodup)
    (peers : List SocketAddr) : (insertAll unique peers).Nodup := by
  induction peers generalizing unique with
  | nil => exact distinct
  | cons peer rest ih => exact ih distinct.insert

@[simp] theorem mem_insertAll {unique peers : List SocketAddr} {peer : SocketAddr} :
    peer ∈ insertAll unique peers ↔ peer ∈ unique ∨ peer ∈ peers := by
  induction peers generalizing unique with
  | nil => simp [insertAll]
  | cons p rest ih =>
    simp only [insertAll, List.foldl_cons] at ih ⊢
    rw [ih, List.mem_insert_iff, List.mem_cons, @or_comm (peer = p), or_assoc]

theorem insertAll_append (unique peers more : List SocketAddr) :
    insertAll unique (peers ++ more) = insertAll (insertAll unique peers) more :=
  List.foldl_append _ _ _ _

section

variable {β γ : Type} [LookupBuckets β]

def addNew (buckets : β) (wrappers : List NodeWrapper) : β :=
  wrappers.foldl (fun b w => if LookupBuckets.contains b w.node.id then b else LookupBuckets.add b w)
    buckets

def LookupState.start (target : Id) (found : γ) : LookupState β γ :=
  ⟨LookupBuckets.new target 8, [], [], false, found⟩

def LookupState.round (st : LookupState β γ) (target : Id) (request : Message)
    (dhtNodes : List NodeWrapper) : LookupState β γ × List LookupEffect :=
  let buckets := addNew st.buckets dhtNodes
  let nearest := LookupBuckets.getNearestNodes buckets target
  if nearest.isEmpty then ({ st with buckets }, [])
  else
    let bestIdsCurrent := nearest.map (·.node.id)
    if st.bestIds == bestIdsCurrent then ({ st with buckets, stopped := true }, [])
    else
      ({ st with buckets, bestIds := bestIdsCurrent, inFlight := nearest.map (·.node) },
       nearest.map fun w => .sent request w.node)

/-- One step of a lookup; a round starts once every request of the last one completed. -/
def LookupState.step (st : LookupState β γ) (target : Id) (request : Id → Message)
    (handle : Node → Message → Instant → β × γ → β × γ) :
    LookupEvent → Option (LookupState β γ × List LookupEffect)
  | .round ourId dhtNodes =>
    if st.inFlight.isEmpty && !st.stopped then some (st.round target (request ourId) dhtNodes)
    else none
  | .reply i result now =>
    match st.inFlight[i]? with
    | none => none
    | some node =>
      let rest := st.inFlight.eraseIdx i
      match result with
      | .ok reply =>
        let handled := handle node reply now (st.buckets, st.found)
        some ({ st with inFlight := rest, buckets := handled.1, found := handled.2 },
          [.received node result])
      | .error _ => some ({ st with inFlight := rest }, [.received node result])

def LookupState.run (st : LookupState β γ) (target : Id) (request : Id → Message)
    (handle : Node → Message → Instant → β × γ → β × γ) :
    List LookupEvent → Option (LookupState β γ × List LookupEffect)
  | [] => some (st, [])
  | e :: rest => do
    let (st, effects) ← st.step target request handle e
    let (st, more) ← st.run target request handle rest
    pure (st, effects ++ more)

theorem LookupState.run_cons {st st' : LookupState β γ} {target : Id} {request : Id → Message}
    {handle : Node → Message → Instant → β × γ → β × γ} {e : LookupEvent}
    {rest : List LookupEvent} {effects : List LookupEffect}
    (ran : st.run target request handle (e :: rest) = some (st', effects)) :
    ∃ st₁ first more, st.step target request handle e = some (st₁, first) ∧
      st₁.run target request handle rest = some (st', more) ∧ effects = first ++ more := by
  simp only [LookupState.run, Option.pure_def, Option.bind_eq_bind] at ran
  obtain ⟨⟨st₁, first⟩, stepped, after⟩ := Option.bind_eq_some.mp ran
  obtain ⟨⟨st₂, more⟩, rest_ran, finished⟩ := Option.bind_eq_some.mp after
  cases finished
  exact ⟨st₁, first, more, stepped, rest_ran, rfl⟩

section

variable {st st' : LookupState β γ} {target : Id} {request : Id → Message}
  {handle : Node → Message → Instant → β × γ → β × γ} {e : LookupEvent}
  {effects : List LookupEffect}

theorem LookupState.round_spec (st : LookupState β γ) (target : Id) (request : Message)
    (dhtNodes : List NodeWrapper) :
    let out := st.round target request dhtNodes
    let nearest := LookupBuckets.getNearestNodes (addNew st.buckets dhtNodes) target
    out.1.found = st.found ∧
    ((out.1.inFlight = st.inFlight ∧ out.2 = []) ∨
      (out.1.inFlight = nearest.map (·.node) ∧ out.2 = nearest.map fun w => .sent request w.node)) := by
  simp only [LookupState.round]
  split
  · exact ⟨rfl, .inl ⟨rfl, rfl⟩⟩
  · split
    · exact ⟨rfl, .inl ⟨rfl, rfl⟩⟩
    · exact ⟨rfl, .inr ⟨rfl, rfl⟩⟩

theorem LookupState.step_reply {i : Nat} {r : Except RustyDHTError Message} {now : Instant}
    (stepped : st.step target request handle (.reply i r now) = some (st', effects)) :
    ∃ node, st.inFlight[i]? = some node ∧ st'.inFlight = st.inFlight.eraseIdx i ∧
      effects = [.received node r] ∧
      (st'.buckets, st'.found) = match r with
        | .ok reply => handle node reply now (st.buckets, st.found)
        | .error _ => (st.buckets, st.found) := by
  simp only [LookupState.step] at stepped
  split at stepped
  · cases stepped
  · rename_i node found
    split at stepped <;> obtain ⟨rfl, rfl⟩ := some_pair_eq stepped
    exacts [⟨node, found, rfl, rfl, rfl⟩, ⟨node, found, rfl, rfl, rfl⟩]

theorem LookupState.step_round {ourId : Id} {dhtNodes : List NodeWrapper}
    (stepped : st.step target request handle (.round ourId dhtNodes) = some (st', effects)) :
    st' = (st.round target (request ourId) dhtNodes).1 ∧
      effects = (st.round target (request ourId) dhtNodes).2 := by
  simp only [LookupState.step] at stepped
  split at stepped
  · exact some_pair_eq stepped
  · cases stepped

theorem LookupState.round_buckets (st : LookupState β γ) (target : Id) (request : Message)
    (dhtNodes : List NodeWrapper) :
    (st.round target request dhtNodes).1.buckets = addNew st.buckets dhtNodes := by
  simp only [LookupState.round]
  split
  · rfl
  · split <;> rfl

theorem LookupState.step_inFlight (stepped : st.step target request handle e = some (st', effects)) :
    (∀ node ∈ st'.inFlight, node ∈ st.inFlight ∨ ∃ msg, .sent msg node ∈ effects) ∧
    (∀ node r, .received node r ∈ effects → node ∈ st.inFlight) := by
  cases e with
  | round ourId dhtNodes =>
    obtain ⟨rfl, rfl⟩ := LookupState.step_round stepped
    rcases (st.round_spec target (request ourId) dhtNodes).2 with ⟨kept, none⟩ | ⟨sent, calls⟩
    · rw [kept, none]
      exact ⟨fun node mem => .inl mem, fun _ _ made => by cases made⟩
    · rw [sent, calls]
      refine ⟨fun node mem => .inr ?_, fun _ _ made => ?_⟩
      · obtain ⟨w, listed, rfl⟩ := List.mem_map.mp mem
        exact ⟨_, List.mem_map.mpr ⟨w, listed, rfl⟩⟩
      · obtain ⟨_, _, ⟨⟩⟩ := List.mem_map.mp made
  | reply i r now =>
    obtain ⟨node, found, flight, rfl, -⟩ := LookupState.step_reply stepped
    refine ⟨fun _ mem => .inl (List.mem_of_mem_eraseIdx (flight ▸ mem)), fun _ _ made => ?_⟩
    cases List.mem_singleton.mp made
    exact List.getElem?_mem found

theorem LookupState.step_found (stepped : st.step target request handle e = some (st', effects)) :
    (st'.found = st.found ∧ ∀ eff ∈ effects, ∀ node reply, eff ≠ .received node (.ok reply)) ∨
    ∃ node reply now, effects = [.received node (.ok reply)] ∧
      st'.found = (handle node reply now (st.buckets, st.found)).2 := by
  cases e with
  | round ourId dhtNodes =>
    obtain ⟨rfl, rfl⟩ := LookupState.step_round stepped
    obtain ⟨same, ⟨-, none⟩ | ⟨-, calls⟩⟩ := st.round_spec target (request ourId) dhtNodes
    · exact .inl ⟨same, by simp [none]⟩
    · refine .inl ⟨same, fun eff made node reply => ?_⟩
      rw [calls] at made
      obtain ⟨_, _, rfl⟩ := List.mem_map.mp made
      exact LookupEffect.noConfusion
  | reply i r now =>
    obtain ⟨node, -, -, rfl, handled⟩ := LookupState.step_reply stepped
    rcases r with e | reply
    · exact .inl ⟨congrArg Prod.snd handled, by simp⟩
    · exact .inr ⟨node, reply, now, rfl, congrArg Prod.snd handled⟩

theorem LookupState.step_completions (stepped : st.step target request handle e = some (st', effects)) :
    effects.filterMap LookupEffect.completion = e.completion.toList := by
  cases e with
  | round ourId dhtNodes =>
    obtain ⟨-, rfl⟩ := LookupState.step_round stepped
    rcases (st.round_spec target (request ourId) dhtNodes).2 with ⟨-, none⟩ | ⟨-, calls⟩
    · simp [none, LookupEvent.completion]
    · simp [calls, LookupEvent.completion, LookupEffect.completion, Function.comp_def]
  | reply i r now =>
    obtain ⟨_, -, -, rfl, -⟩ := LookupState.step_reply stepped
    rfl

theorem LookupState.run_completions {events : List LookupEvent}
    (ran : st.run target request handle events = some (st', effects)) :
    effects.filterMap LookupEffect.completion = events.filterMap LookupEvent.completion := by
  induction events generalizing st effects with
  | nil => cases ran; rfl
  | cons e rest ih =>
    obtain ⟨st₁, first, more, stepped, rest_ran, rfl⟩ := LookupState.run_cons ran
    rw [List.filterMap_append, LookupState.step_completions stepped, ih rest_ran, List.filterMap_cons]
    cases e.completion <;> rfl

end

def findNodeHandle (_node : Node) (reply : Message) (now : Instant) (acc : β × Unit) : β × Unit :=
  match reply.messageType with
  | .response (.findNodeResponse arguments) =>
    (addNew acc.1 (arguments.nodes.map (NodeWrapper.new · now)), ())
  | _ => acc

def getPeersHandle (node : Node) (reply : Message) (now : Instant)
    (acc : β × (List SocketAddr × List GetPeersResponder)) :
    β × (List SocketAddr × List GetPeersResponder) :=
  match reply.messageType with
  | .response (.getPeersResponse arguments) =>
    let responders := acc.2.2 ++ [⟨node, arguments.token⟩]
    match arguments.values with
    | .nodes nodes => (addNew acc.1 (nodes.map (NodeWrapper.new · now)), (acc.2.1, responders))
    | .peers peers => (acc.1, (insertAll acc.2.1 peers, responders))
  | _ => acc

/-- `operations::find_node` when the loop stops or the timeout fires, after the events given. -/
def findNode (target : Id) (readOnly : Bool) (events : List LookupEvent) :
    Option (Except RustyDHTError (List Node) × List LookupEffect) :=
  ((LookupState.start target () : LookupState β Unit).run target
    (fun ourId => MessageBuilder.newFindNodeRequest ourId readOnly target) findNodeHandle events).map
    fun out => (.ok ((LookupBuckets.getNearestNodes out.1.buckets target).map (·.node)), out.2)

/-- `operations::get_peers` when the loop stops or the timeout fires, after the events given. -/
def getPeers (infoHash : Id) (readOnly : Bool) (events : List LookupEvent) :
    Option (Except RustyDHTError GetPeersResult × List LookupEffect) :=
  ((LookupState.start infoHash ([], []) : LookupState β _).run infoHash
    (fun ourId => MessageBuilder.newGetPeersRequest ourId readOnly infoHash) getPeersHandle
    events).map
    fun out => (.ok (GetPeersResult.new infoHash out.1.found.1 out.1.found.2), out.2)

theorem LookupState.run_sent {st st' : LookupState β γ} {target : Id} {request : Id → Message}
    {handle : Node → Message → Instant → β × γ → β × γ} {events : List LookupEvent}
    {effects : List LookupEffect} (ran : st.run target request handle events = some (st', effects))
    {msg : Message} {node : Node} (made : .sent msg node ∈ effects) : ∃ ourId, msg = request ourId := by
  induction events generalizing st effects with
  | nil => cases ran; cases made
  | cons e rest ih =>
    obtain ⟨st₁, first, more, stepped, rest_ran, rfl⟩ := LookupState.run_cons ran
    rcases List.mem_append.mp made with here | later
    · cases e with
      | round ourId dhtNodes =>
        obtain ⟨-, rfl⟩ := LookupState.step_round stepped
        rcases (st.round_spec target (request ourId) dhtNodes).2 with ⟨-, none⟩ | ⟨-, calls⟩
        · rw [none] at here; cases here
        · rw [calls] at here
          obtain ⟨_, _, same⟩ := List.mem_map.mp here
          cases same
          exact ⟨ourId, rfl⟩
      | reply =>
        obtain ⟨_, -, -, rfl, -⟩ := LookupState.step_reply stepped
        cases List.mem_singleton.mp here
    · exact ih rest_ran later

theorem getPeersHandle_found (node : Node) (reply : Message) (now : Instant)
    (acc : β × (List SocketAddr × List GetPeersResponder)) :
    (getPeersHandle node reply now acc).2 =
      (insertAll acc.2.1 (LookupEffect.received node (.ok reply)).peers,
        acc.2.2 ++ ((LookupEffect.received node (.ok reply)).responder).toList) := by
  simp only [getPeersHandle, LookupEffect.peers, LookupEffect.responder]
  split
  · split <;> simp_all [insertAll]
  · simp [insertAll]

theorem LookupEffect.observes_nothing {eff : LookupEffect}
    (noReply : ∀ node reply, eff ≠ .received node (.ok reply)) :
    eff.peers = [] ∧ eff.responder = none := by
  rcases eff with _ | ⟨node, _ | reply⟩
  · exact ⟨rfl, rfl⟩
  · exact ⟨rfl, rfl⟩
  · exact absurd rfl (noReply node reply)

theorem LookupEffect.mem_peers {eff : LookupEffect} {peer : SocketAddr} :
    peer ∈ eff.peers ↔ ∃ node reply arguments peers, eff = .received node (.ok reply) ∧
      reply.messageType = .response (.getPeersResponse arguments) ∧
      arguments.values = .peers peers ∧ peer ∈ peers := by
  rcases eff with _ | ⟨node, _ | reply⟩
  · simp [LookupEffect.peers]
  · simp [LookupEffect.peers]
  · constructor
    · intro mem
      simp only [LookupEffect.peers] at mem
      split at mem
      · rename_i arguments kind
        split at mem
        · exact ⟨node, reply, arguments, _, rfl, kind, by assumption, mem⟩
        · cases mem
      · cases mem
    · rintro ⟨_, _, arguments, peers, ⟨⟩, kind, values, mem⟩
      simpa [LookupEffect.peers, kind, values] using mem

theorem LookupEffect.responder_eq_some {eff : LookupEffect} {responder : GetPeersResponder} :
    eff.responder = some responder ↔ ∃ node reply arguments, eff = .received node (.ok reply) ∧
      reply.messageType = .response (.getPeersResponse arguments) ∧
      responder = ⟨node, arguments.token⟩ := by
  rcases eff with _ | ⟨node, _ | reply⟩
  · simp [LookupEffect.responder]
  · simp [LookupEffect.responder]
  · simp only [LookupEffect.responder]
    split
    · rename_i arguments kind
      constructor
      · rintro ⟨⟩
        exact ⟨node, reply, arguments, rfl, kind, rfl⟩
      · rintro ⟨_, _, arguments', ⟨⟩, kind', rfl⟩
        cases kind.symm.trans kind'
        rfl
    · rename_i other
      refine ⟨nofun, ?_⟩
      rintro ⟨_, _, arguments, ⟨⟩, kind, -⟩
      exact (other arguments kind).elim

/-- What a get_peers lookup holds, read off the calls it made. -/
def GetPeersFound (st : LookupState β (List SocketAddr × List GetPeersResponder))
    (log : List LookupEffect) : Prop :=
  st.found.1 = insertAll [] (log.flatMap LookupEffect.peers) ∧
    st.found.2 = log.filterMap LookupEffect.responder ∧
    (∀ node ∈ st.inFlight, ∃ msg, .sent msg node ∈ log) ∧
    ∀ node r, .received node r ∈ log → ∃ msg, .sent msg node ∈ log

theorem getPeersFound_step {st st' : LookupState β (List SocketAddr × List GetPeersResponder)}
    {log effects : List LookupEffect} {infoHash : Id} {request : Id → Message} {e : LookupEvent}
    (holds : GetPeersFound st log)
    (stepped : st.step infoHash request getPeersHandle e = some (st', effects)) :
    GetPeersFound st' (log ++ effects) := by
  obtain ⟨peers, responders, flying, answered⟩ := holds
  obtain ⟨stillFlying, fromFlight⟩ := LookupState.step_inFlight stepped
  refine ⟨?_, ?_, fun node mem => ?_, fun node r made => ?_⟩
  · rcases LookupState.step_found stepped with ⟨same, quiet⟩ | ⟨node, reply, now, rfl, found⟩
    · have none : effects.flatMap LookupEffect.peers = [] := by
        simp only [List.flatMap_eq_nil_iff]
        exact fun eff made => (LookupEffect.observes_nothing (quiet eff made)).1
      rw [same, peers, List.flatMap_append, none, List.append_nil]
    · rw [found, getPeersHandle_found, peers, List.flatMap_append, insertAll_append]
      simp
  · rcases LookupState.step_found stepped with ⟨same, quiet⟩ | ⟨node, reply, now, rfl, found⟩
    · have none : effects.filterMap LookupEffect.responder = [] := by
        simp only [List.filterMap_eq_nil_iff]
        exact fun eff made => (LookupEffect.observes_nothing (quiet eff made)).2
      rw [same, responders, List.filterMap_append, none, List.append_nil]
    · rw [found, getPeersHandle_found, responders, List.filterMap_append]
      cases made : (LookupEffect.received node (.ok reply)).responder <;> simp [made]
  · rcases stillFlying node mem with old | ⟨msg, sent⟩
    · obtain ⟨msg, sent⟩ := flying node old
      exact ⟨msg, List.mem_append_left _ sent⟩
    · exact ⟨msg, List.mem_append_right _ sent⟩
  · rcases List.mem_append.mp made with old | new
    · obtain ⟨msg, sent⟩ := answered node r old
      exact ⟨msg, List.mem_append_left _ sent⟩
    · obtain ⟨msg, sent⟩ := flying node (fromFlight node r new)
      exact ⟨msg, List.mem_append_left _ sent⟩

theorem getPeersFound_run {st st' : LookupState β (List SocketAddr × List GetPeersResponder)}
    {log effects : List LookupEffect} {infoHash : Id} {request : Id → Message}
    {events : List LookupEvent} (holds : GetPeersFound st log)
    (ran : st.run infoHash request getPeersHandle events = some (st', effects)) :
    GetPeersFound st' (log ++ effects) := by
  induction events generalizing st log effects with
  | nil =>
    cases ran
    simpa using holds
  | cons e rest ih =>
    obtain ⟨st₁, first, more, stepped, rest_ran, rfl⟩ := LookupState.run_cons ran
    simpa using ih (getPeersFound_step holds stepped) rest_ran

theorem getPeers_found {infoHash : Id} {readOnly : Bool} {events : List LookupEvent}
    {result : Except RustyDHTError GetPeersResult} {effects : List LookupEffect}
    (ran : getPeers (β := β) infoHash readOnly events = some (result, effects)) :
    ∃ st : LookupState β (List SocketAddr × List GetPeersResponder),
      result = .ok (GetPeersResult.new infoHash st.found.1 st.found.2) ∧ GetPeersFound st effects := by
  obtain ⟨⟨st, log⟩, lookup, finished⟩ := Option.map_eq_some'.mp ran
  cases finished
  have start : GetPeersFound (LookupState.start (β := β) infoHash ([], [])) [] := by
    refine ⟨rfl, rfl, ?_, ?_⟩ <;> simp [LookupState.start]
  exact ⟨st, rfl, by simpa using getPeersFound_run start lookup⟩

theorem getPeers_completions {infoHash : Id} {readOnly : Bool} {events : List LookupEvent}
    {result : Except RustyDHTError GetPeersResult} {effects : List LookupEffect}
    (ran : getPeers (β := β) infoHash readOnly events = some (result, effects)) :
    effects.filterMap LookupEffect.completion = events.filterMap LookupEvent.completion := by
  obtain ⟨⟨st, log⟩, lookup, finished⟩ := Option.map_eq_some'.mp ran
  cases finished
  exact LookupState.run_completions lookup

end

def announceRequests (result : GetPeersResult) (ourId : Id) (readOnly : Bool)
    (port : Option UInt16) : List (Message × Node) :=
  (result.responders.take 8).map fun responder =>
    (MessageBuilder.newAnnouncePeerRequest ourId readOnly result.infoHash (port.getD 0)
      port.isNone responder.token, responder.node)

/-- `operations::announce_peer` after its `get_peers`. -/
def announcePeer (lookup : Except RustyDHTError GetPeersResult) (ourId : Id) (readOnly : Bool)
    (port : Option UInt16) (completions : List (Nat × Except RustyDHTError Message)) :
    Except RustyDHTError (List Node) :=
  match lookup with
  | .error e => .error e
  | .ok result =>
    let requests := announceRequests result ourId readOnly port
    .ok (completions.filterMap fun completion =>
      match completion.2 with
      | .ok _ => (requests[completion.1]?).map (·.2)
      | .error _ => none)

/-- Modelled from the spec: buckets that keep every node added and return the nearest eight. -/
structure LookupTable where
  target : Id
  wrappers : List NodeWrapper
  deriving DecidableEq, Repr

instance : LookupBuckets LookupTable where
  new target _ := ⟨target, []⟩
  contains t id := t.wrappers.any (·.node.id == id)
  add t w := { t with wrappers := t.wrappers ++ [w] }
  getNearestNodes t target :=
    (t.wrappers.insertionSort (fun a b => a.node.id.distance target ≤ b.node.id.distance target)).take 8

def nodeNear : Node := ⟨⟨testId.value ^^^ 1#160⟩, ⟨.v4 ⟨10, 0, 0, 1⟩, 6881⟩⟩

def nodeFar : Node := ⟨⟨testId.value ^^^ 0x100#160⟩, ⟨.v4 ⟨10, 0, 0, 2⟩, 6881⟩⟩

def examplePeer : SocketAddr := ⟨.v4 ⟨10, 0, 0, 9⟩, 51413⟩

/-- A get_peers lookup in which `nodeNear` answers in two rounds. -/
def exampleLookup : List LookupEvent :=
  [.round exampleRequesterId [⟨nodeNear, 0, some 0⟩],
   .reply 0 (.ok (MessageBuilder.newGetPeersResponse nodeNear.id [] exampleRequester [1]
     (.nodes [nodeFar]))) 0,
   .round exampleRequesterId [⟨nodeNear, 0, some 0⟩],
   .reply 0 (.ok (MessageBuilder.newGetPeersResponse nodeNear.id [] exampleRequester [2]
     (.peers [examplePeer]))) 1,
   .reply 0 (.ok (MessageBuilder.newGetPeersResponse nodeFar.id [] exampleRequester [3]
     (.peers [examplePeer]))) 1,
   .round exampleRequesterId [⟨nodeNear, 0, some 0⟩]]

/-- A node that answers in two rounds is announced to twice. -/
theorem announcePeer_repeats_responder :
    ∃ result effects, getPeers (β := LookupTable) testId false exampleLookup =
        some (.ok result, effects) ∧
      (announceRequests result exampleRequesterId false none).map (·.2) =
        [nodeNear, nodeNear, nodeFar] ∧
      announcePeer (.ok result) exampleRequesterId false none
        [(0, .ok (MessageBuilder.newPingResponse nodeNear.id [] exampleRequester)),
         (1, .ok (MessageBuilder.newPingResponse nodeNear.id [] exampleRequester)),
         (2, .ok (MessageBuilder.newPingResponse nodeFar.id [] exampleRequester))] =
        .ok [nodeNear, nodeNear, nodeFar] :=
  ⟨_, _, rfl, rfl, rfl⟩


theorem addNew_wrappers {b : LookupTable} {ws : List NodeWrapper} {w : NodeWrapper}
    (mem : w ∈ (addNew b ws).wrappers) : w ∈ b.wrappers ∨ w ∈ ws := by
  induction ws generalizing b with
  | nil => exact .inl mem
  | cons w' rest ih =>
    rcases ih mem with old | later
    · dsimp only at old
      split at old
      · exact .inl old
      · rcases List.mem_append.mp old with old | added
        · exact .inl old
        · exact .inr (List.mem_singleton.mp added ▸ List.mem_cons_self _ _)
    · exact .inr (List.mem_cons_of_mem _ later)

theorem addNew_mono {b : LookupTable} (ws : List NodeWrapper) {w : NodeWrapper}
    (mem : w ∈ b.wrappers) : w ∈ (addNew b ws).wrappers := by
  induction ws generalizing b with
  | nil => exact mem
  | cons w' rest ih =>
    apply ih
    dsimp only
    split
    · exact mem
    · exact List.mem_append_left _ mem

theorem addNew_covers {b : LookupTable} {ws : List NodeWrapper} {w : NodeWrapper} (mem : w ∈ ws) :
    ∃ w' ∈ (addNew b ws).wrappers, w'.node.id = w.node.id := by
  induction ws generalizing b with
  | nil => cases mem
  | cons w' rest ih =>
    rcases List.mem_cons.mp mem with rfl | later
    · show ∃ w' ∈ (addNew (if LookupBuckets.contains b w.node.id then b else LookupBuckets.add b w)
        rest).wrappers, w'.node.id = w.node.id
      split
      · rename_i present
        obtain ⟨x, listed, same⟩ := List.any_eq_true.mp present
        exact ⟨x, addNew_mono rest listed, beq_iff_eq.mp same⟩
      · exact ⟨w, addNew_mono rest (List.mem_append_right _ (List.mem_singleton_self _)), rfl⟩
    · exact ih later

/-- Where a find_node lookup learnt a node. -/
def FindNodeLearnt (events : List LookupEvent) (log : List LookupEffect) (node : Node) : Prop :=
  (∃ ourId dhtNodes, LookupEvent.round ourId dhtNodes ∈ events ∧ ∃ w ∈ dhtNodes, w.node = node) ∨
  ∃ responder reply arguments, LookupEffect.received responder (.ok reply) ∈ log ∧
    reply.messageType = .response (.findNodeResponse arguments) ∧ node ∈ arguments.nodes

theorem findNodeLearnt_append {seen more : List LookupEvent} {log effects : List LookupEffect}
    {node : Node} : FindNodeLearnt (seen ++ more) (log ++ effects) node ↔
      FindNodeLearnt seen log node ∨ FindNodeLearnt more effects node := by
  simp only [FindNodeLearnt, List.mem_append, or_and_right, exists_or]
  exact or_or_or_comm

theorem findNode_step_buckets {st st' : LookupState LookupTable Unit} {target : Id}
    {request : Id → Message} {e : LookupEvent} {effects : List LookupEffect}
    (stepped : st.step target request findNodeHandle e = some (st', effects)) :
    ∃ added, st'.buckets = addNew st.buckets added ∧
      ∀ node, (∃ w ∈ added, w.node = node) ↔ FindNodeLearnt [e] effects node := by
  cases e with
  | round ourId dhtNodes =>
    obtain ⟨rfl, rfl⟩ := LookupState.step_round stepped
    refine ⟨dhtNodes, LookupState.round_buckets _ _ _ _, fun node => ⟨fun listed => ?_, ?_⟩⟩
    · exact .inl ⟨ourId, dhtNodes, List.mem_singleton_self _, listed⟩
    · rintro (⟨_, _, round, listed⟩ | ⟨_, _, _, made, -⟩)
      · cases List.mem_singleton.mp round
        exact listed
      · have completed := LookupEffect.mem_completions.mpr ⟨_, made⟩
        rw [LookupState.step_completions stepped] at completed
        cases completed
  | reply i r now =>
    obtain ⟨node, -, -, rfl, handled⟩ := LookupState.step_reply stepped
    have buckets := congrArg Prod.fst handled
    have learns : ∀ n, FindNodeLearnt [.reply i r now] [.received node r] n ↔
        ∃ reply arguments, r = .ok reply ∧
          reply.messageType = .response (.findNodeResponse arguments) ∧ n ∈ arguments.nodes := by
      intro n
      simp only [FindNodeLearnt, List.mem_singleton, LookupEffect.received.injEq]
      constructor
      · rintro (⟨_, _, ⟨⟩, -⟩ | ⟨_, reply, arguments, ⟨rfl, rfl⟩, kind, mem⟩)
        exact ⟨reply, arguments, rfl, kind, mem⟩
      · rintro ⟨reply, arguments, rfl, kind, mem⟩
        exact .inr ⟨node, reply, arguments, ⟨rfl, rfl⟩, kind, mem⟩
    rcases r with _ | reply
    · exact ⟨[], buckets, fun n => by simp [learns]⟩
    · simp only [findNodeHandle] at buckets
      split at buckets
      · rename_i arguments kind
        refine ⟨_, buckets, fun n => ?_⟩
        simp [learns, kind, NodeWrapper.new]
      · rename_i other
        refine ⟨[], buckets, fun n => ?_⟩
        simp only [learns, List.not_mem_nil, false_and, exists_false, false_iff]
        rintro ⟨_, arguments, ⟨⟩, kind, -⟩
        exact other arguments kind

def FindNodeTable (st : LookupState LookupTable Unit) (seen : List LookupEvent)
    (log : List LookupEffect) : Prop :=
  (∀ w ∈ st.buckets.wrappers, FindNodeLearnt seen log w.node) ∧
    ∀ node, FindNodeLearnt seen log node → ∃ w ∈ st.buckets.wrappers, w.node.id = node.id

theorem findNodeTable_step {st st' : LookupState LookupTable Unit} {target : Id}
    {request : Id → Message} {seen : List LookupEvent} {log effects : List LookupEffect}
    {e : LookupEvent} (holds : FindNodeTable st seen log)
    (stepped : st.step target request findNodeHandle e = some (st', effects)) :
    FindNodeTable st' (seen ++ [e]) (log ++ effects) := by
  obtain ⟨learnt, covered⟩ := holds
  obtain ⟨added, buckets, learns⟩ := findNode_step_buckets stepped
  rw [FindNodeTable, buckets]
  refine ⟨fun w mem => findNodeLearnt_append.mpr ?_, fun node new => ?_⟩
  · rcases addNew_wrappers mem with old | fresh
    exacts [.inl (learnt w old), .inr ((learns w.node).mp ⟨w, fresh, rfl⟩)]
  · rcases findNodeLearnt_append.mp new with old | fresh
    · obtain ⟨w, mem, same⟩ := covered node old
      exact ⟨w, addNew_mono added mem, same⟩
    · obtain ⟨w, listed, rfl⟩ := (learns node).mpr fresh
      exact addNew_covers listed

theorem findNodeTable_run {st st' : LookupState LookupTable Unit} {target : Id}
    {request : Id → Message} {seen events : List LookupEvent} {log effects : List LookupEffect}
    (holds : FindNodeTable st seen log)
    (ran : st.run target request findNodeHandle events = some (st', effects)) :
    FindNodeTable st' (seen ++ events) (log ++ effects) := by
  induction events generalizing st seen log effects with
  | nil =>
    cases ran
    simpa using holds
  | cons e rest ih =>
    obtain ⟨st₁, first, more, stepped, rest_ran, rfl⟩ := LookupState.run_cons ran
    simpa using ih (findNodeTable_step holds stepped) rest_ran

theorem mem_take_or_after {β : Type} {r : β → β → Prop} {l : List β} (sorted : l.Sorted r)
    (n : Nat) {x : β} (mem : x ∈ l) :
    x ∈ l.take n ∨ ((l.take n).length = n ∧ ∀ y ∈ l.take n, r y x) := by
  rw [← List.take_append_drop n l] at sorted mem
  rcases List.mem_append.mp mem with kept | dropped
  · exact .inl kept
  · refine .inr ⟨?_, fun y taken => (List.pairwise_append.mp sorted).2.2 y taken x dropped⟩
    have longer := List.length_pos_of_mem dropped
    rw [List.length_drop] at longer
    rw [List.length_take]
    omega

end RustyDht
