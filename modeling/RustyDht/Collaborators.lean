import RustyDht.State

/-! Modelled from the spec: concrete collaborators, so that the model runs on explicit
inputs. -/
namespace RustyDht

structure NodeTable where
  ourId : Id
  wrappers : List NodeWrapper
  deriving DecidableEq, Repr

def NodeTable.refresh (now : Instant) (verified : Bool) (w : NodeWrapper) : NodeWrapper :=
  { w with lastSeen := now, lastVerified := if verified then some now else w.lastVerified }

def NodeTable.verified (t : NodeTable) : List NodeWrapper := t.wrappers.filter (·.lastVerified.isSome)

def NodeTable.unverified (t : NodeTable) : List NodeWrapper := t.wrappers.filter (·.lastVerified.isNone)

def NodeTable.keep (reverifyGrace verifyGrace : Nat) (now : Instant) (w : NodeWrapper) : Bool :=
  match w.lastVerified with
  | some lastVerified => now ≤ lastVerified + reverifyGrace
  | none => now ≤ w.lastSeen + verifyGrace

instance : NodeStorage NodeTable where
  addOrUpdate t node verified now :=
    if t.wrappers.any (·.node.id == node.id) then
      { t with wrappers := t.wrappers.map fun w =>
          if w.node.id == node.id then NodeTable.refresh now verified w else w }
    else
      { t with wrappers := t.wrappers ++ [⟨node, now, if verified then some now else none⟩] }
  count t := (t.unverified.length, t.verified.length)
  getAllUnverified t := t.unverified
  getAllVerified t := t.verified
  getNearestNodes t target exclude :=
    (((t.verified.filter (fun w => some w.node.id != exclude)).map (·.node)).insertionSort
      (fun a b => a.id.distance target ≤ b.id.distance target)).take 8
  prune t reverifyGrace verifyGrace now :=
    { t with wrappers := t.wrappers.filter (NodeTable.keep reverifyGrace verifyGrace now) }
  setId t id := { t with ourId := id }

theorem NodeTable.addOrUpdate_ourId (t : NodeTable) (node : Node) (verified : Bool) (now : Instant) :
    (NodeStorage.addOrUpdate t node verified now).ourId = t.ourId := by
  show (if _ then _ else _ : NodeTable).ourId = _
  split <;> rfl

instance : KeyedStorage NodeTable where
  key t := t.ourId
  key_setId _ _ := rfl
  key_addOrUpdate := NodeTable.addOrUpdate_ourId
  key_prune _ _ _ _ := rfl

structure PeerTable where
  maxInfoHashes : Nat
  maxPeersPerInfoHash : Nat
  entries : List (Id × SocketAddr × Instant)
  deriving DecidableEq, Repr

instance : PeerStorage PeerTable where
  new maxInfoHashes maxPeersPerInfoHash := ⟨maxInfoHashes, maxPeersPerInfoHash, []⟩
  announcePeer t infoHash addr now :=
    { t with entries :=
        t.entries.filter (fun e => !(e.1 == infoHash && e.2.1 == addr)) ++ [(infoHash, addr, now)] }
  getPeers t infoHash newerThan :=
    (t.entries.filter (fun e => e.1 == infoHash && newerThan.all (· ≤ e.2.2))).map (·.2.1)
  getInfoHashes t := (t.entries.map (·.1)).dedup

structure StaticIPV4AddrSource where
  ip : Ipv4Addr
  deriving DecidableEq, Repr

instance : IPV4AddrSource StaticIPV4AddrSource where
  getBestIpv4 s := some s.ip
  addVote s _ _ := s
  decay s := s

/-- Loopback, link-local and RFC 1918 addresses, for which any id is valid. -/
def Ipv4Addr.isNonPublic (ip : Ipv4Addr) : Bool :=
  ip.a == 10 || ip.a == 127 || (ip.a == 169 && ip.b == 254) ||
    (ip.a == 172 && 16 ≤ ip.b && ip.b < 32) || (ip.a == 192 && ip.b == 168)

def bep42Checksum (ip : Ipv4Addr) (r : Nat) : Nat :=
  (crc32c [(ip.a &&& (0x03 : UInt8)) ||| (UInt8.ofNat r <<< (5 : UInt8)),
    ip.b &&& (0x0f : UInt8), ip.c &&& (0x3f : UInt8), ip.d]).toNat

def Id.prefix21 (id : Id) : Nat := id.value.toNat / 2 ^ 139

instance : Bep42 where
  isValidForIp id ip :=
    match ip with
    | .v4 ip => ip.isNonPublic || bep42Checksum ip (id.value.toNat % 8) / 2 ^ 11 == id.prefix21
    | .v6 _ => true
  fromIp ip draw :=
    match ip with
    | .v4 ip =>
      if ip.isNonPublic then draw
      else ⟨BitVec.ofNat 160 (bep42Checksum ip (draw.value.toNat % 8) / 2 ^ 11 * 2 ^ 139 +
        draw.value.toNat % 2 ^ 139)⟩
    | .v6 _ => draw
  makeMutant id bits draw := ⟨id.value ^^^ (draw.value &&& BitVec.ofNat 160 (2 ^ bits - 1))⟩

theorem bep42Checksum_lt (ip : Ipv4Addr) (r : Nat) : bep42Checksum ip r < 2 ^ 32 :=
  (crc32c _).val.isLt

theorem bep42_layout {c d : Nat} (hc : c < 2 ^ 32) :
    (BitVec.ofNat 160 (c / 2 ^ 11 * 2 ^ 139 + d % 2 ^ 139)).toNat % 8 = d % 8 ∧
      (BitVec.ofNat 160 (c / 2 ^ 11 * 2 ^ 139 + d % 2 ^ 139)).toNat / 2 ^ 139 = c / 2 ^ 11 := by
  have fits : c / 2 ^ 11 * 2 ^ 139 + d % 2 ^ 139 < 2 ^ 160 := by omega
  rw [BitVec.toNat_ofNat, Nat.mod_eq_of_lt fits]
  omega

theorem fromIp_valid (ip : Ipv4Addr) (draw : Id) :
    Bep42.isValidForIp (Bep42.fromIp (.v4 ip) draw) (.v4 ip) = true := by
  simp only [Bep42.isValidForIp, Bep42.fromIp]
  split
  · simp_all
  · obtain ⟨low, top⟩ :=
      bep42_layout (d := draw.value.toNat) (bep42Checksum_lt ip (draw.value.toNat % 8))
    simp only [Id.prefix21, low, top, beq_self_eq_true, Bool.or_true]

def testId : Id := ⟨0x0011223344556677889900112233445566778899#160⟩

def Ipv4Addr.localhost : Ipv4Addr := ⟨127, 0, 0, 1⟩

def exampleSettings : DHTSettings :=
  { tokenSecretSize := 20, maxTorrents := 50, maxPeersPerTorrent := 100,
    getPeersFreshnessSecs := 900, maxPeersResponse := 128, maxSampleResponse := 50,
    minSampleIntervalSecs := 0, reverifyIntervalSecs := 900, verifyGracePeriodSecs := 60,
    reverifyGracePeriodSecs := 1800, findNodesSkipCount := 32, readOnly := false }

/-- The DHT of the test suite: its id, a static source reporting 1.2.3.4, an empty table. -/
def exampleDht : DHTState NodeTable StaticIPV4AddrSource PeerTable :=
  (DHT.new (some testId) ⟨⟨1, 2, 3, 4⟩⟩ ⟨testId, []⟩ exampleSettings testId (fun _ => 0)).1

def exampleRequester : SocketAddr := ⟨.v4 Ipv4Addr.localhost, 6881⟩

def exampleRequesterOtherPort : SocketAddr := ⟨.v4 Ipv4Addr.localhost, 6882⟩

def exampleRequesterId : Id := ⟨0xabcdef#160⟩

def examplePing : Message := MessageBuilder.newPingRequest exampleRequesterId false

def exampleGetPeers : Message := MessageBuilder.newGetPeersRequest exampleRequesterId false testId

def exampleAnnounce : Message :=
  MessageBuilder.newAnnouncePeerRequest exampleRequesterId false testId 6881 true
    (calculateToken exampleRequester exampleDht.tokenSecret)

end RustyDht
