import RustyDht.Basic

/-! KRPC messages and the `MessageBuilder` chains the DHT uses, following the spec;
`build()` succeeds on each of them. -/
namespace RustyDht

structure PingRequestArguments where
  requesterId : Id
  deriving DecidableEq, Repr

structure FindNodeRequestArguments where
  requesterId : Id
  target : Id
  deriving DecidableEq, Repr

structure GetPeersRequestArguments where
  requesterId : Id
  infoHash : Id
  deriving DecidableEq, Repr

structure AnnouncePeerRequestArguments where
  requesterId : Id
  infoHash : Id
  port : UInt16
  impliedPort : Option Bool
  token : List UInt8
  deriving DecidableEq, Repr

structure SampleInfoHashesRequestArguments where
  requesterId : Id
  target : Id
  deriving DecidableEq, Repr

inductive RequestSpecific
  | pingRequest (arguments : PingRequestArguments)
  | findNodeRequest (arguments : FindNodeRequestArguments)
  | getPeersRequest (arguments : GetPeersRequestArguments)
  | announcePeerRequest (arguments : AnnouncePeerRequestArguments)
  | sampleInfoHashesRequest (arguments : SampleInfoHashesRequestArguments)
  deriving DecidableEq, Repr

inductive GetPeersResponseValues
  | nodes (nodes : List Node)
  | peers (peers : List SocketAddr)
  deriving DecidableEq, Repr

structure PingResponseArguments where
  responderId : Id
  deriving DecidableEq, Repr

structure FindNodeResponseArguments where
  responderId : Id
  nodes : List Node
  deriving DecidableEq, Repr

structure GetPeersResponseArguments where
  responderId : Id
  token : List UInt8
  values : GetPeersResponseValues
  deriving DecidableEq, Repr

structure SampleInfoHashesResponseArguments where
  responderId : Id
  interval : Nat
  nodes : List Node
  samples : List Id
  num : Nat
  deriving DecidableEq, Repr

inductive ResponseSpecific
  | pingResponse (arguments : PingResponseArguments)
  | findNodeResponse (arguments : FindNodeResponseArguments)
  | getPeersResponse (arguments : GetPeersResponseArguments)
  | sampleInfoHashesResponse (arguments : SampleInfoHashesResponseArguments)
  deriving DecidableEq, Repr

inductive MessageType
  | request (request : RequestSpecific)
  | response (response : ResponseSpecific)
  | error (code : Int) (description : String)
  deriving DecidableEq, Repr

structure Message where
  transactionId : List UInt8
  requesterIp : Option SocketAddr
  readOnly : Option Bool
  messageType : MessageType
  deriving DecidableEq, Repr

def RequestSpecific.requesterId : RequestSpecific → Id
  | .pingRequest arguments => arguments.requesterId
  | .findNodeRequest arguments => arguments.requesterId
  | .getPeersRequest arguments => arguments.requesterId
  | .announcePeerRequest arguments => arguments.requesterId
  | .sampleInfoHashesRequest arguments => arguments.requesterId

def ResponseSpecific.responderId : ResponseSpecific → Id
  | .pingResponse arguments => arguments.responderId
  | .findNodeResponse arguments => arguments.responderId
  | .getPeersResponse arguments => arguments.responderId
  | .sampleInfoHashesResponse arguments => arguments.responderId

/-- `Message::get_author_id`: errors carry no sender id. -/
def Message.getAuthorId (msg : Message) : Option Id :=
  match msg.messageType with
  | .request request => some request.requesterId
  | .response response => some response.responderId
  | .error _ _ => none

def Message.isRequest (msg : Message) : Bool :=
  match msg.messageType with
  | .request _ => true
  | _ => false

def Message.isResponse (msg : Message) : Bool :=
  match msg.messageType with
  | .response _ => true
  | _ => false

namespace MessageBuilder

/- Requests leave the transaction id empty: `DHTSocket::send_to` stamps a fresh one. -/
def request (senderReadOnly : Bool) (request : RequestSpecific) : Message :=
  { transactionId := [], requesterIp := none, readOnly := some senderReadOnly,
    messageType := .request request }

def response (transactionId : List UInt8) (requesterIp : SocketAddr)
    (response : ResponseSpecific) : Message :=
  { transactionId, requesterIp := some requesterIp, readOnly := none,
    messageType := .response response }

def newPingRequest (senderId : Id) (readOnly : Bool) : Message :=
  request readOnly (.pingRequest ⟨senderId⟩)

def newFindNodeRequest (senderId : Id) (readOnly : Bool) (target : Id) : Message :=
  request readOnly (.findNodeRequest ⟨senderId, target⟩)

def newGetPeersRequest (senderId : Id) (readOnly : Bool) (target : Id) : Message :=
  request readOnly (.getPeersRequest ⟨senderId, target⟩)

def newAnnouncePeerRequest (senderId : Id) (readOnly : Bool) (target : Id) (port : UInt16)
    (impliedPort : Bool) (token : List UInt8) : Message :=
  request readOnly (.announcePeerRequest ⟨senderId, target, port, some impliedPort, token⟩)

def newPingResponse (senderId : Id) (transactionId : List UInt8) (requesterIp : SocketAddr) :
    Message :=
  response transactionId requesterIp (.pingResponse ⟨senderId⟩)

/-- The reply to `announce_peer` is built as a ping response. -/
def newAnnouncePeerResponse (senderId : Id) (transactionId : List UInt8)
    (requesterIp : SocketAddr) : Message :=
  response transactionId requesterIp (.pingResponse ⟨senderId⟩)

def newFindNodeResponse (senderId : Id) (transactionId : List UInt8) (requesterIp : SocketAddr)
    (nodes : List Node) : Message :=
  response transactionId requesterIp (.findNodeResponse ⟨senderId, nodes⟩)

def newGetPeersResponse (senderId : Id) (transactionId : List UInt8) (requesterIp : SocketAddr)
    (token : List UInt8) (values : GetPeersResponseValues) : Message :=
  response transactionId requesterIp (.getPeersResponse ⟨senderId, token, values⟩)

def newSampleInfohashesResponse (senderId : Id) (transactionId : List UInt8)
    (requesterIp : SocketAddr) (interval : Nat) (nodes : List Node) (samples : List Id)
    (num : Nat) : Message :=
  response transactionId requesterIp
    (.sampleInfoHashesResponse ⟨senderId, interval, nodes, samples, num⟩)

@[simp] theorem request_isRequest (ro : Bool) (r : RequestSpecific) :
    (request ro r).isRequest = true := rfl

@[simp] theorem request_readOnly (ro : Bool) (r : RequestSpecific) :
    (request ro r).readOnly = some ro := rfl

@[simp] theorem response_isRequest (tid : List UInt8) (addr : SocketAddr) (r : ResponseSpecific) :
    (response tid addr r).isRequest = false := rfl

@[simp] theorem response_isResponse (tid : List UInt8) (addr : SocketAddr)
    (r : ResponseSpecific) : (response tid addr r).isResponse = true := rfl

@[simp] theorem response_transactionId (tid : List UInt8) (addr : SocketAddr)
    (r : ResponseSpecific) : (response tid addr r).transactionId = tid := rfl

@[simp] theorem response_requesterIp (tid : List UInt8) (addr : SocketAddr)
    (r : ResponseSpecific) : (response tid addr r).requesterIp = some addr := rfl

@[simp] theorem response_getAuthorId (tid : List UInt8) (addr : SocketAddr)
    (r : ResponseSpecific) : (response tid addr r).getAuthorId = some r.responderId := rfl

end MessageBuilder

end RustyDht
