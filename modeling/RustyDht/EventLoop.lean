import RustyDht.Accept

set_option linter.unusedSectionVars false

/-! `run_event_loop`: a `try_join!` over the router ping, the accept task, the periodic
tasks and a shutdown watcher, each branch taken as far as it has run. -/
namespace RustyDht

inductive Branch
  | pingRouters
  | accept
  | periodicRouterPing
  | periodicBuddyPing
  | periodicFindNode
  | periodicIp4Maintenance
  | periodicTokenRotation
  | shutdown
  deriving DecidableEq, Repr

/-- `tokio::try_join!` over branches whose completions arrive in the order given. -/
def tryJoin (count : Nat) : List (Except RustyDHTError Unit) → Option (Except RustyDHTError Unit)
  | [] => if count = 0 then some (.ok ()) else none
  | .error e :: _ => some (.error e)
  | .ok () :: rest => tryJoin (count - 1) rest

def loopCompletion : Except RustyDHTError Unit → Option (Except RustyDHTError Unit)
  | .error e => some (.error e)
  | .ok () => none

structure LoopInputs (σ α π : Type) where
  state : DHTState σ α π
  routers : List (Except RustyDHTError (List SocketAddr))
  turns : List Turn
  routerRounds : List (List (Except RustyDHTError (List SocketAddr)))
  buddyRounds : List (DHTState σ α π × Instant)
  findNodeRounds :
    List (DHTState σ α π × (Nat × Nat) × List (Except RustyDHTError (List SocketAddr)) × Id)
  shutdownFired : Bool

section

variable {σ α π : Type} [NodeStorage σ] [IPV4AddrSource α] [PeerStorage π] [Bep42]

def LoopInputs.completion (run : LoopInputs σ α π) : Branch → Option (Except RustyDHTError Unit)
  | .pingRouters => some (pingRouters run.routers).2
  | .accept => loopCompletion (run.state.acceptIncomingPackets run.turns).result
  | .periodicRouterPing => loopCompletion (forEachTry pingRouters run.routerRounds).2
  | .periodicBuddyPing =>
    loopCompletion (forEachTry (fun round => round.1.buddyPings round.2) run.buddyRounds).2
  | .periodicFindNode =>
    loopCompletion (forEachTry (fun round => round.1.periodicFindNodeRound round.2.1 round.2.2.1
      round.2.2.2) run.findNodeRounds).2
  | .periodicIp4Maintenance => none
  | .periodicTokenRotation => none
  | .shutdown =>
    if run.shutdownFired then some (.error (.shutdownError "run_event_loop should shutdown"))
    else none

/-- `DHT::run_event_loop`; a shutdown error is turned into `Ok`. -/
def LoopInputs.runEventLoop (run : LoopInputs σ α π) (order : List Branch) :
    Option (Except RustyDHTError Unit) :=
  match tryJoin 8 (order.filterMap run.completion) with
  | some (.error e) => some (if e.isShutdown then .ok () else .error e)
  | other => other

theorem tryJoin_error {count : Nat} {completions : List (Except RustyDHTError Unit)}
    {e : RustyDHTError} (joined : tryJoin count completions = some (.error e)) :
    .error e ∈ completions := by
  induction completions generalizing count with
  | nil => simp only [tryJoin] at joined; split at joined <;> cases joined
  | cons c rest ih =>
    rcases c with e' | ⟨⟩
    · cases joined
      exact List.mem_cons_self _ _
    · exact List.mem_cons_of_mem _ (ih joined)

theorem tryJoin_prefix_error {count : Nat} {earlier rest : List (Except RustyDHTError Unit)}
    {e : RustyDHTError} (before : ∀ c ∈ earlier, c = .ok () ∨ c = .error e) :
    tryJoin count (earlier ++ .error e :: rest) = some (.error e) := by
  induction earlier generalizing count with
  | nil => rfl
  | cons c earlier ih =>
    rcases before c (List.mem_cons_self _ _) with rfl | rfl
    · exact ih (fun c' mem => before c' (List.mem_cons_of_mem _ mem))
    · rfl

theorem completion_error (run : LoopInputs σ α π) {b : Branch} {e : RustyDHTError}
    (failed : run.completion b = some (.error e)) :
    (b = .accept ∧ (run.state.acceptIncomingPackets run.turns).result = .error e) ∨
      (b = .shutdown ∧ e = .shutdownError "run_event_loop should shutdown") := by
  cases b with
  | pingRouters => simp [LoopInputs.completion, pingRouters_ok] at failed
  | accept =>
    simp only [LoopInputs.completion, loopCompletion] at failed
    split at failed <;> cases failed
    exact .inl ⟨rfl, by assumption⟩
  | periodicRouterPing =>
    simp [LoopInputs.completion, forEachTry_ok pingRouters_ok, loopCompletion] at failed
  | periodicBuddyPing =>
    have never : ∀ round : DHTState σ α π × Instant, (round.1.buddyPings round.2).2 = .ok () :=
      fun round => buddyPings_ok round.1 round.2
    simp [LoopInputs.completion, forEachTry_ok never, loopCompletion] at failed
  | periodicFindNode =>
    have never : ∀ round : DHTState σ α π × (Nat × Nat) ×
        List (Except RustyDHTError (List SocketAddr)) × Id,
        (round.1.periodicFindNodeRound round.2.1 round.2.2.1 round.2.2.2).2 = .ok () :=
      fun round => periodicFindNodeRound_ok round.1 round.2.1 round.2.2.1 round.2.2.2
    simp [LoopInputs.completion, forEachTry_ok never, loopCompletion] at failed
  | periodicIp4Maintenance | periodicTokenRotation => cases failed
  | shutdown =>
    simp only [LoopInputs.completion] at failed
    split at failed <;> cases failed
    exact .inr ⟨rfl, rfl⟩

/-- Error containment of the event loop. -/
theorem eventLoop_containment (run : LoopInputs σ α π) (order : List Branch) :
    (∀ b e, run.completion b = some (.error e) → b = .accept ∨ b = .shutdown) ∧
    (∀ e, run.runEventLoop order = some (.error e) →
      (run.state.acceptIncomingPackets run.turns).result = .error e ∧
        e.isRecoverable = false ∧ e.isShutdown = false) ∧
    (∀ pre post, run.shutdownFired = true → order = pre ++ .shutdown :: post →
      .accept ∉ pre → run.runEventLoop order = some (.ok ())) := by
  refine ⟨fun b e failed => ?_, fun e stopped => ?_, fun pre post fired split fine => ?_⟩
  · rcases completion_error run failed with ⟨rfl, -⟩ | ⟨rfl, -⟩
    exacts [.inl rfl, .inr rfl]
  · unfold LoopInputs.runEventLoop at stopped
    split at stopped
    · rename_i e' joined
      obtain ⟨b, -, failed⟩ := List.mem_filterMap.mp (tryJoin_error joined)
      rcases completion_error run failed with ⟨-, accepted⟩ | ⟨-, rfl⟩
      · cases shut : e'.isShutdown <;> simp only [shut] at stopped <;> cases stopped
        exact ⟨accepted, acceptLoop_result _ _ _ _ accepted, shut⟩
      · cases stopped
    · rename_i notError
      exact absurd stopped (notError e)
  · have earlier : ∀ c ∈ pre.filterMap run.completion,
        c = .ok () ∨ c = .error (.shutdownError "run_event_loop should shutdown") := by
      intro c made
      obtain ⟨b, before, done⟩ := List.mem_filterMap.mp made
      rcases c with e | ⟨⟩
      · rcases completion_error run done with ⟨rfl, -⟩ | ⟨-, rfl⟩
        exacts [absurd before fine, .inr rfl]
      · exact .inl rfl
    have watched : run.completion .shutdown =
        some (.error (.shutdownError "run_event_loop should shutdown")) := by
      simp [LoopInputs.completion, fired]
    simp only [LoopInputs.runEventLoop, split, List.filterMap_append, List.filterMap_cons,
      watched, tryJoin_prefix_error earlier]
    rfl

end

end RustyDht
