import RustyDht.Outbound

set_option linter.unusedSectionVars false

/-! The periodic tasks, one round each, cut at their critical sections; a task is
`loop { round? }`. -/
namespace RustyDht

def needsPing (pingIfOlderThan : Instant) (wrapper : NodeWrapper) : Bool :=
  match wrapper.lastVerified with
  | some lastVerified => !(lastVerified ≥ pingIfOlderThan)
  | none => true

def pingWrappers (pingIfOlderThan : Instant) (wrappers : List NodeWrapper) :
    List Effect × Except RustyDHTError Unit :=
  forEachTry (fun wrapper =>
    if needsPing pingIfOlderThan wrapper then
      pingInternal wrapper.node.address (some wrapper.node.id)
    else ([], .ok ())) wrappers

def findNodes (target : Id) (nearest : List Node) : List Effect × Except RustyDHTError Unit :=
  forEachTry (fun node => findNodeInternal node.address (some node.id) target) nearest

section

variable {σ α π : Type} [NodeStorage σ] [IPV4AddrSource α] [PeerStorage π] [Bep42]

def DHTState.pruneBuckets (st : DHTState σ α π) (now : Instant) : DHTState σ α π :=
  { st with buckets := (NodeStorage.prune st.buckets st.settings.reverifyGracePeriodSecs
      st.settings.verifyGracePeriodSecs now) }

def DHTState.buddyPings (st : DHTState σ α π) (now : Instant) :
    List Effect × Except RustyDHTError Unit :=
  match Instant.checkedSub now st.settings.reverifyIntervalSecs with
  | none => ([], .ok ())
  | some pingIfOlderThan =>
    let unverified := NodeStorage.getAllUnverified st.buckets
    let verified := NodeStorage.getAllVerified st.buckets
    match pingWrappers pingIfOlderThan unverified with
    | (effects, .error e) => (effects, .error e)
    | (effects, .ok ()) =>
      let (more, result) := pingWrappers pingIfOlderThan verified
      (effects ++ more, result)

def DHTState.findNodeRound (st : DHTState σ α π) (countUnverified : Nat) (draw : Id) :
    List Effect × Except RustyDHTError Unit :=
  if countUnverified > st.settings.findNodesSkipCount then ([], .ok ())
  else
    let idNearUs := Bep42.makeMutant st.ourId 4 draw
    findNodes idNearUs (NodeStorage.getNearestNodes st.buckets idNearUs none)

/-- One round of `periodic_find_node`; `count` is `buckets.count()` read at its top. -/
def DHTState.periodicFindNodeRound (st : DHTState σ α π) (count : Nat × Nat)
    (resolutions : List (Except RustyDHTError (List SocketAddr))) (draw : Id) :
    List Effect × Except RustyDHTError Unit :=
  let (countUnverified, countVerified) := count
  match (if countVerified ≤ 0 then pingRouters resolutions else ([], .ok ())) with
  | (effects, .error e) => (effects, .error e)
  | (effects, .ok ()) =>
    let (more, result) := st.findNodeRound countUnverified draw
    (effects ++ more, result)

end

theorem pingWrappers_ok (pingIfOlderThan : Instant) (wrappers : List NodeWrapper) :
    pingWrappers pingIfOlderThan wrappers =
      ((wrappers.filter (needsPing pingIfOlderThan)).map
        (fun w => Effect.spawn .ping w.node.address (some w.node.id)), .ok ()) := by
  unfold pingWrappers
  rw [forEachTry_ok (fun w => by split <;> rfl)]
  congr 1
  induction wrappers with
  | nil => rfl
  | cons w rest ih =>
    simp only [pingInternal] at ih
    by_cases ping : needsPing pingIfOlderThan w <;> simp [ping, pingInternal, ih]

theorem findNodes_ok (target : Id) (nearest : List Node) :
    findNodes target nearest =
      (nearest.map (fun n => Effect.spawn (.findNode target) n.address (some n.id)), .ok ()) := by
  unfold findNodes
  rw [forEachTry_ok (fun _ => rfl)]
  congr 1
  induction nearest with
  | nil => rfl
  | cons n rest ih =>
    simp only [findNodeInternal] at ih
    simp [findNodeInternal, ih]

theorem needsPing_eq (pingIfOlderThan : Instant) :
    needsPing pingIfOlderThan = fun wrapper => wrapper.lastVerified.all (· < pingIfOlderThan) := by
  funext wrapper
  unfold needsPing
  cases wrapper.lastVerified with
  | none => rfl
  | some lastVerified => simp only [ge_iff_le, Option.all_some, ← decide_not, Nat.not_le]

section

variable {σ α π : Type} [NodeStorage σ] [IPV4AddrSource α] [PeerStorage π] [Bep42]

theorem buddyPings_eq (st : DHTState σ α π) (now : Instant) :
    st.buddyPings now =
      match Instant.checkedSub now st.settings.reverifyIntervalSecs with
      | none => ([], .ok ())
      | some cutoff =>
        (((NodeStorage.getAllUnverified st.buckets ++ NodeStorage.getAllVerified st.buckets).filter
            (needsPing cutoff)).map (fun w => Effect.spawn .ping w.node.address (some w.node.id)),
          .ok ()) := by
  unfold DHTState.buddyPings
  split
  · rfl
  · simp [pingWrappers_ok]

/-- Which wrappers a buddy-ping round pings. -/
theorem buddyPings_selection (st : DHTState σ α π) (now : Instant) :
    (now < st.settings.reverifyIntervalSecs → st.buddyPings now = ([], .ok ())) ∧
    (st.settings.reverifyIntervalSecs ≤ now →
      st.buddyPings now =
        (((NodeStorage.getAllUnverified st.buckets ++ NodeStorage.getAllVerified st.buckets).filter
            (fun w => w.lastVerified.all (· < now - st.settings.reverifyIntervalSecs))).map
          (fun w => Effect.spawn .ping w.node.address (some w.node.id)), .ok ())) := by
  refine ⟨fun underflow => ?_, fun fits => ?_⟩
  · rw [buddyPings_eq, Instant.checkedSub_eq_none.mpr underflow]
  · rw [buddyPings_eq, Instant.checkedSub_eq_some.mpr ⟨fits, rfl⟩]
    simp only [needsPing_eq]

theorem findNodeRound_ok (st : DHTState σ α π) (countUnverified : Nat) (draw : Id) :
    (st.findNodeRound countUnverified draw).2 = .ok () := by
  unfold DHTState.findNodeRound
  split
  · rfl
  · simp [findNodes_ok]

theorem buddyPings_ok (st : DHTState σ α π) (now : Instant) : (st.buddyPings now).2 = .ok () := by
  rw [buddyPings_eq]
  split <;> rfl

theorem periodicFindNodeRound_ok (st : DHTState σ α π) (count : Nat × Nat)
    (resolutions : List (Except RustyDHTError (List SocketAddr))) (draw : Id) :
    (st.periodicFindNodeRound count resolutions draw).2 = .ok () := by
  have routers : (if count.2 ≤ 0 then pingRouters resolutions else ([], .ok ())).2 = .ok () := by
    split
    · exact pingRouters_ok resolutions
    · rfl
  rcases hr : (if count.2 ≤ 0 then pingRouters resolutions else ([], .ok ())) with ⟨effects, result⟩
  rw [hr] at routers
  subst routers
  simp only [DHTState.periodicFindNodeRound, hr]
  exact findNodeRound_ok st count.1 draw

theorem spawns_of_rounds {eff : Effect} :
    (∀ (st : DHTState σ α π) now, eff ∈ (st.buddyPings now).1 →
      ∃ task dest destId, eff = .spawn task dest destId) ∧
    (∀ (st : DHTState σ α π) count draw, eff ∈ (st.findNodeRound count draw).1 →
      ∃ task dest destId, eff = .spawn task dest destId) ∧
    (∀ resolved, eff ∈ (pingRouter resolved).1 → ∃ task dest destId, eff = .spawn task dest destId) := by
  refine ⟨fun st now made => ?_, fun st count draw made => ?_, fun resolved made => ?_⟩
  · rw [buddyPings_eq] at made
    split at made
    · cases made
    · obtain ⟨w, -, rfl⟩ := List.mem_map.mp made
      exact ⟨_, _, _, rfl⟩
  · unfold DHTState.findNodeRound at made
    split at made
    · cases made
    · simp only [findNodes_ok, List.mem_map] at made
      obtain ⟨n, -, rfl⟩ := made
      exact ⟨_, _, _, rfl⟩
  · unfold pingRouter at made
    split at made
    · cases made
    · split at made
      · exact ⟨_, _, _, List.mem_singleton.mp made⟩
      · cases made

end

end RustyDht
