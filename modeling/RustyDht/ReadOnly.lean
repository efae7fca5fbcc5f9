import RustyDht.Invariants
import RustyDht.Operations

set_option linter.unusedSectionVars false

/-! Read-only mode (BEP-43) over whole runs: `read_only` is read once by the accept loop and
by every builder, and it agrees with the settings in every reachable state. -/
namespace RustyDht

section

variable {σ α π : Type} [NodeStorage σ] [IPV4AddrSource α] [PeerStorage π] [Bep42]

theorem reachable_readOnly {s : Sys σ α π} {log : List Effect} (reach : Reachable s log) :
    s.readOnly = s.state.settings.readOnly := by
  induction reach with
  | init => rfl
  | step _ stepped ih => rw [(step_core stepped).1, (step_secrets stepped).1, ih]

theorem receive_readOnly (s : Sys σ α π) (readOnly : s.readOnly = true)
    (received : Except RustyDHTError (Message × SocketAddr)) (throttled : Bool) (now : Instant) :
    let out := s.receive received throttled now
    out.1.state = s.state ∧ out.2 = [] := by
  rcases received with e | ⟨msg, addr⟩
  · exact ⟨rfl, rfl⟩
  · simp only [Sys.receive, readOnly, if_true]
    split <;> exact ⟨rfl, rfl⟩

theorem step_readOnly {s s' : Sys σ α π} {e : Event} {effects : List Effect}
    (stepped : s.step e = some (s', effects)) (readOnly : s.readOnly = true)
    (quiet : ∀ msg addr request, s.accept ≠ .answering msg addr request) {eff : Effect}
    (made : eff ∈ effects) :
    (∀ msg dest destId, eff = .sendTo msg dest destId → msg.isRequest = true) ∧
      ∀ infoHash peer, eff ≠ .announcePeer infoHash peer := by
  cases mem_step stepped made with
  | request _ _ _ _ _ _ writable => rw [readOnly] at writable; cases writable
  | answer _ _ _ _ _ _ _ answering => exact absurd answering (quiet _ _ _)
  | send _ _ _ task => exact ⟨by rintro _ _ _ ⟨⟩; exact (buildOutbound_request _ task).1, by rintro _ _ ⟨⟩⟩
  | sendRequest _ _ _ _ isRequest => exact ⟨by rintro _ _ _ ⟨⟩; exact isRequest, by rintro _ _ ⟨⟩⟩
  | response _ _ _ _ _ _ _ _ _ _ handled =>
    obtain ⟨-, rfl | ⟨_, _, _, rfl, -⟩⟩ := mem_handleResponse handled <;>
      exact ⟨by rintro _ _ _ ⟨⟩, by rintro _ _ ⟨⟩⟩
  | store _ _ _ _ _ _ _ stored =>
    obtain ⟨_, -, rfl, -⟩ := mem_storeFoundNodes stored
    exact ⟨by rintro _ _ _ ⟨⟩, by rintro _ _ ⟨⟩⟩
  | maintenance _ _ maintained =>
    rw [mem_periodicIp4Maintenance maintained]
    exact ⟨by rintro _ _ _ ⟨⟩, by rintro _ _ ⟨⟩⟩
  | notify | spawn => exact ⟨by rintro _ _ _ ⟨⟩, by rintro _ _ ⟨⟩⟩

theorem reachable_readOnly_quiet {s : Sys σ α π} {log : List Effect} (reach : Reachable s log)
    (readOnly : s.state.settings.readOnly = true) :
    (∀ msg addr request, s.accept ≠ .answering msg addr request) ∧
    (∀ msg dest destId, .sendTo msg dest destId ∈ log → msg.isRequest = true) ∧
    ∀ infoHash peer, .announcePeer infoHash peer ∉ log := by
  induction reach with
  | init => exact ⟨fun _ _ _ none => (by cases none), by simp [DHT.new], by simp [DHT.new]⟩
  | step reach stepped ih =>
    have before := (congrArg DHTSettings.readOnly (step_secrets stepped).1).symm.trans readOnly
    obtain ⟨quiet, requests, unannounced⟩ := ih before
    have ro := (reachable_readOnly reach).trans before
    refine ⟨fun msg addr request answering => ?_, fun msg dest destId sent => ?_,
      fun infoHash peer recorded => ?_⟩
    · rcases step_answering stepped answering with old | ⟨_, -, -, writable, -⟩
      · exact quiet _ _ _ old
      · rw [ro] at writable; cases writable
    · rcases List.mem_append.mp sent with old | new
      exacts [requests _ _ _ old, (step_readOnly stepped ro quiet new).1 _ _ _ rfl]
    · rcases List.mem_append.mp recorded with old | new
      exacts [unannounced _ _ old, (step_readOnly stepped ro quiet new).2 _ _ rfl]

end

def exampleReadOnlyDht : DHTState NodeTable StaticIPV4AddrSource PeerTable :=
  (DHT.new (some testId) ⟨⟨1, 2, 3, 4⟩⟩ ⟨testId, []⟩ { exampleSettings with readOnly := true } testId
    (fun _ => 0)).1

end RustyDht
