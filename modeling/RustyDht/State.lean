import RustyDht.Packets

set_option linter.unusedSectionVars false

/-! `DHTState`, its collaborators as classes over abstract carriers, and the critical
sections that touch only the state. Every call the DHT makes on a collaborator, the socket or a
subscriber is an `Effect`, in the order the code makes it. -/
namespace RustyDht

/-- The `NodeStorage` trait; the methods that read the clock take `now`. -/
class NodeStorage (σ : Type) where
  addOrUpdate : σ → Node → Bool → Instant → σ
  count : σ → Nat × Nat
  getAllUnverified : σ → List NodeWrapper
  getAllVerified : σ → List NodeWrapper
  getNearestNodes : σ → Id → Option Id → List Node
  prune : σ → Nat → Nat → Instant → σ
  setId : σ → Id → σ

/-- A node storage that keeps the id `set_id` keys it by, as `Buckets` keeps `our_id`. -/
class KeyedStorage (σ : Type) [NodeStorage σ] where
  key : σ → Id
  key_setId (buckets : σ) (id : Id) : key (NodeStorage.setId buckets id) = id
  key_addOrUpdate (buckets : σ) (node : Node) (verified : Bool) (now : Instant) :
    key (NodeStorage.addOrUpdate buckets node verified now) = key buckets
  key_prune (buckets : σ) (reverifyGrace verifyGrace : Nat) (now : Instant) :
    key (NodeStorage.prune buckets reverifyGrace verifyGrace now) = key buckets

class IPV4AddrSource (α : Type) where
  getBestIpv4 : α → Option Ipv4Addr
  addVote : α → Ipv4Addr → Ipv4Addr → α
  decay : α → α

class PeerStorage (π : Type) where
  new : Nat → Nat → π
  announcePeer : π → Id → SocketAddr → Instant → π
  getPeers : π → Id → Option Instant → List SocketAddr
  getInfoHashes : π → List Id

/- The settings the modelled code reads; the sleep intervals are left out with time. -/
structure DHTSettings where
  tokenSecretSize : Nat
  maxTorrents : Nat
  maxPeersPerTorrent : Nat
  getPeersFreshnessSecs : Nat
  maxPeersResponse : Nat
  maxSampleResponse : Nat
  minSampleIntervalSecs : Nat
  reverifyIntervalSecs : Nat
  verifyGracePeriodSecs : Nat
  reverifyGracePeriodSecs : Nat
  findNodesSkipCount : Nat
  readOnly : Bool
  deriving DecidableEq, Repr

structure DHTEvent where
  message : Message
  deriving DecidableEq, Repr

inductive Outbound
  | ping
  | findNode (target : Id)
  deriving DecidableEq, Repr

inductive Effect
  | addOrUpdate (node : Node) (verified : Bool)
  | setId (id : Id)
  | addVote (voter proposed : Ipv4Addr)
  | announcePeer (infoHash : Id) (addr : SocketAddr)
  | sendTo (msg : Message) (dest : SocketAddr) (destId : Option Id)
  | trySend (subscriber : Nat) (event : DHTEvent)
  | spawn (task : Outbound) (dest : SocketAddr) (destId : Option Id)
  deriving DecidableEq, Repr

/- Subscribers are the handles of their `mpsc::Sender`s. -/
structure DHTState (σ α π : Type) where
  ip4Source : α
  ourId : Id
  buckets : σ
  peerStorage : π
  tokenSecret : List UInt8
  oldTokenSecret : List UInt8
  settings : DHTSettings
  subscribers : List Nat

/- CRC-32C (Castagnoli), reflected, as `crc32::Digest::new(crc32::CASTAGNOLI)` computes
it over everything written to it. -/
def crc32cShift (c : UInt32) : UInt32 :=
  if c &&& 1 = 1 then (c >>> 1) ^^^ 0x82F63B78 else c >>> 1

def crc32cByte (crc : UInt32) (b : UInt8) : UInt32 := Nat.iterate crc32cShift 8 (crc ^^^ b.toUInt32)

def crc32c (bytes : List UInt8) : UInt32 := ~~~ (bytes.foldl crc32cByte 0xFFFFFFFF)

def UInt32.toBeBytes (c : UInt32) : List UInt8 :=
  [(c >>> 24).toUInt8, (c >>> 16).toUInt8, (c >>> 8).toUInt8, c.toUInt8]

/-- `calculate_token`: the checksum of the remote IP's octets and the secret. -/
def calculateToken (remote : SocketAddr) (secret : List UInt8) : List UInt8 :=
  UInt32.toBeBytes (crc32c (remote.ip.octets ++ secret))

def makeTokenSecret (size : Nat) (draw : Nat → UInt8) : List UInt8 := (List.range size).map draw

@[simp] theorem makeTokenSecret_length (size : Nat) (draw : Nat → UInt8) :
    (makeTokenSecret size draw).length = size := by
  simp [makeTokenSecret]

theorem calculateToken_of_ip {a b : SocketAddr} (same : a.ip = b.ip) (secret : List UInt8) :
    calculateToken a secret = calculateToken b secret := by
  simp only [calculateToken, same]

section

variable {σ α π : Type} [NodeStorage σ] [IPV4AddrSource α] [PeerStorage π] [Bep42]

/-- `DHT::new` up to the socket; `randomId` is the id `from_ip` or `from_random` draws. -/
def DHT.new (id : Option Id) (ip4Source : α) (buckets : σ) (settings : DHTSettings)
    (randomId : Id) (secretDraw : Nat → UInt8) : DHTState σ α π × List Effect :=
  let ourId :=
    match id with
    | some id => id
    | none =>
      match IPV4AddrSource.getBestIpv4 ip4Source with
      | some ip => Bep42.fromIp (.v4 ip) randomId
      | none => randomId
  let tokenSecret := makeTokenSecret settings.tokenSecretSize secretDraw
  ({ ip4Source, ourId, buckets := NodeStorage.setId buckets ourId,
     peerStorage := PeerStorage.new settings.maxTorrents settings.maxPeersPerTorrent,
     tokenSecret, oldTokenSecret := tokenSecret, settings, subscribers := [] },
   [.setId ourId])

def DHTState.rotateTokenSecrets (st : DHTState σ α π) (draw : Nat → UInt8) : DHTState σ α π :=
  { st with oldTokenSecret := st.tokenSecret,
            tokenSecret := makeTokenSecret st.settings.tokenSecretSize draw }

def DHTState.ip4VoteHelper (st : DHTState σ α π) (addr : SocketAddr) (msg : Message) :
    DHTState σ α π × List Effect :=
  match addr.ip, msg.requesterIp with
  | .v4 theirIp, some ⟨.v4 claimed, _⟩ =>
    ({ st with ip4Source := IPV4AddrSource.addVote st.ip4Source theirIp claimed },
     [.addVote theirIp claimed])
  | _, _ => (st, [])

def DHTState.periodicIp4Maintenance (st : DHTState σ α π) (randomId : Id) :
    DHTState σ α π × List Effect :=
  let ip4Source := IPV4AddrSource.decay st.ip4Source
  let st := { st with ip4Source }
  match IPV4AddrSource.getBestIpv4 ip4Source with
  | some ip =>
    if !Bep42.isValidForIp st.ourId (.v4 ip) then
      let newId := Bep42.fromIp (.v4 ip) randomId
      ({ st with ourId := newId, buckets := NodeStorage.setId st.buckets newId }, [.setId newId])
    else (st, [])
  | none => (st, [])

def DHTState.subscribe (st : DHTState σ α π) (handle : Nat) : DHTState σ α π :=
  { st with subscribers := st.subscribers ++ [handle] }

theorem DHT.new_secrets (id : Option Id) (ip4Source : α) (buckets : σ)
    (settings : DHTSettings) (randomId : Id) (secretDraw : Nat → UInt8) :
    let st := (DHT.new (π := π) id ip4Source buckets settings randomId secretDraw).1
    st.oldTokenSecret = st.tokenSecret ∧ st.tokenSecret.length = settings.tokenSecretSize := by
  simp [DHT.new]

theorem ip4VoteHelper_state (st : DHTState σ α π) (addr : SocketAddr) (msg : Message) :
    ∃ ip4Source, (st.ip4VoteHelper addr msg).1 = { st with ip4Source } := by
  unfold DHTState.ip4VoteHelper
  split
  · exact ⟨_, rfl⟩
  · exact ⟨st.ip4Source, rfl⟩

theorem periodicIp4Maintenance_spec (st : DHTState σ α π) (randomId : Id) :
    let out := st.periodicIp4Maintenance randomId
    out.1.tokenSecret = st.tokenSecret ∧ out.1.oldTokenSecret = st.oldTokenSecret ∧
    out.1.settings = st.settings ∧ out.1.ip4Source = IPV4AddrSource.decay st.ip4Source ∧
    ((∃ ip, IPV4AddrSource.getBestIpv4 (IPV4AddrSource.decay st.ip4Source) = some ip ∧
        Bep42.isValidForIp st.ourId (.v4 ip) = false ∧
        out.1.ourId = Bep42.fromIp (.v4 ip) randomId ∧ out.2 = [.setId out.1.ourId]) ∨
      (out.1.ourId = st.ourId ∧ out.2 = [] ∧
        ∀ ip, IPV4AddrSource.getBestIpv4 (IPV4AddrSource.decay st.ip4Source) = some ip →
          Bep42.isValidForIp st.ourId (.v4 ip) = true)) := by
  cases best : IPV4AddrSource.getBestIpv4 (IPV4AddrSource.decay st.ip4Source) with
  | none => simp [DHTState.periodicIp4Maintenance, best]
  | some ip =>
    cases valid : Bep42.isValidForIp st.ourId (.v4 ip) <;>
      simp [DHTState.periodicIp4Maintenance, best, valid]

theorem mem_ip4VoteHelper {st : DHTState σ α π} {addr : SocketAddr} {msg : Message}
    {e : Effect} (made : e ∈ (st.ip4VoteHelper addr msg).2) :
    ∃ voter proposed port, e = .addVote voter proposed ∧ addr.ip = .v4 voter ∧
      msg.requesterIp = some ⟨.v4 proposed, port⟩ := by
  unfold DHTState.ip4VoteHelper at made
  split at made
  · rename_i theirIp claimed port hip hreq
    exact ⟨theirIp, claimed, port, List.mem_singleton.mp made, hip, hreq⟩
  · cases made

end

end RustyDht
