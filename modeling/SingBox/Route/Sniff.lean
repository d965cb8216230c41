import SingBox.Route.Action
/-!
# Sniffing

`PeekStream`, `PeekPacket` (`common/sniff/sniff.go`) and `actionSniff`
(`route/route.go`). A connection is what the client sent and how its coming
reads turn out; every byte and every packet carries the position it was sent
at, so two equal ones are told apart. Sniffers only see the bytes.
-/
namespace SingBox.Route

/-- A byte of the client and its position in the stream. -/
abbrev Octet := UInt8 × Nat

/-- What a datagram carries. -/
structure Packet where
  payload : List UInt8
  destination : Socksaddr := {}

/-- `N.PacketBuffer`: a packet and its number. -/
abbrev PacketBuffer := Packet × Nat

/-- How one iteration of `PeekStream` turns out: setting the deadline fails, or the read returns
some of the bytes (at least one, while there are any) with or without an error. -/
inductive StreamRead where
  | deadline
  | data (more : Nat) (failed : Bool)

/-- A stream connection: the bytes not yet read and the outcome of the coming reads. Once these
are used up reads time out. -/
structure StreamConn where
  remaining : List Octet
  reads : List StreamRead

/-- How one `ReadPacket` turns out; `canceled` is the context ending before it does. -/
inductive PacketRead where
  | packet
  | timeout
  | failed (err : String)
  | canceled (err : String)

/-- A packet connection, as `StreamConn`. -/
structure PacketConn where
  remaining : List PacketBuffer
  reads : List PacketRead

/-- The connection `matchRule` sniffs: `inputConn` or `inputPacketConn`. -/
inductive Input where
  | none
  | stream (conn : StreamConn)
  | packets (conn : PacketConn)

/-- The sniffers of the repository the router uses by default, and the size of a sniff buffer. -/
structure SniffEnv extends RouteEnv where
  defaultStreamSniffers : List Sniffer := []
  defaultPacketSniffers : List Sniffer := []
  quicClientHello : Sniffer := fun fields _ => (some ⟨false⟩, fields)
  bufferSize : Nat := 16384
  bufferSize_pos : 0 < bufferSize := by decide

/-- `sniff.Skip`: ports of server-first protocols. -/
def skip (md : InboundContext) : Bool :=
  md.destination.port ∈ [25, 465, 587, 143, 993, 110, 995]

def sniffFields (md : InboundContext) : SniffFields where
  protocol := md.protocol
  sniffHost := md.sniffHost
  client := md.client
  sniffContext := md.sniffContext

def setSniffFields (md : InboundContext) (fields : SniffFields) : InboundContext :=
  { md with
    protocol := fields.protocol
    sniffHost := fields.sniffHost
    client := fields.client
    sniffContext := fields.sniffContext }

/-- The loop over sniffers: the first success, else all errors together. -/
def trySniffers (bytes : List UInt8) :
    List Sniffer → Option SniffError → SniffFields → Option SniffError × SniffFields
  | [], sniffError, fields => (sniffError, fields)
  | sniffer :: sniffers, sniffError, fields =>
    match sniffer fields bytes with
    | (none, fields) => (none, fields)
    | (some err, fields) =>
      trySniffers bytes sniffers
        (some ⟨err.needMoreData || (sniffError.map (·.needMoreData)).getD false⟩) fields

def peekPacket (sniffers : List Sniffer) (fields : SniffFields) (packet : List UInt8) :
    Option SniffError × SniffFields :=
  trySniffers packet sniffers none fields

/-- What `PeekStream` returns, and its effects on the buffer, the metadata and the connection. -/
structure Peeked where
  err : Option SniffError
  buffer : List Octet
  fields : SniffFields
  conn : StreamConn

/-- The loop of `PeekStream`; `sniffError` is `none` in the first iteration. -/
def peekStreamLoop (sniffers : List Sniffer) (size : Nat) (earlier : List Octet) (sniffError : Option SniffError)
    (buffer : List Octet) (fields : SniffFields) (remaining : List Octet) : List StreamRead → Peeked
  | [] => ⟨some (sniffError.getD ⟨false⟩), buffer, fields, ⟨remaining, []⟩⟩
  | .deadline :: reads => ⟨some ⟨false⟩, buffer, fields, ⟨remaining, reads⟩⟩
  | .data more failed :: reads =>
    let n := min (more + 1) (size - buffer.length)
    let taken := remaining.take n
    let buffer := buffer ++ taken
    let remaining := remaining.drop n
    if failed || taken.isEmpty then
      -- an error ends the first iteration, and a later one with what the sniffers said before
      ⟨some (sniffError.getD ⟨false⟩), buffer, fields, ⟨remaining, reads⟩⟩
    else
      match trySniffers ((earlier ++ buffer).map Prod.fst) sniffers none fields with
      | (none, fields) => ⟨none, buffer, fields, ⟨remaining, reads⟩⟩
      | (some err, fields) =>
        if err.needMoreData then
          peekStreamLoop sniffers size earlier (some err) buffer fields remaining reads
        else ⟨some err, buffer, fields, ⟨remaining, reads⟩⟩

/-- `PeekStream` into a fresh buffer; `buffers` are those of earlier sniff actions. -/
def peekStream (sniffers : List Sniffer) (size : Nat) (buffers : List (List Octet)) (fields : SniffFields)
    (conn : StreamConn) : Peeked :=
  peekStreamLoop sniffers size buffers.flatten none [] fields conn.remaining conn.reads

/-! ## The sniff action -/

variable (env : SniffEnv)
variable (md : InboundContext)

/-- `processQUICSniff`. That a sniffed name is stored for later connections is not modelled. -/
def processQUICSniff : InboundContext :=
  if md.protocol ≠ protocolQUIC then md
  else if md.sniffHost ≠ "" then md
  else match env.lookupQUICSniff md.source md.destination with
  | some sniffHost => { md with sniffHost := sniffHost }
  | none => md

section
variable (action : SniffAction)

/-- Whether an earlier sniff with these sniffers failed for good. -/
def previouslyFailed : Bool :=
  md.snifferNames = action.snifferNames && md.sniffError.isSome && md.sniffError ≠ some ⟨true⟩

/-- What `actionSniff` returns, and its effects on the metadata and the connection. -/
structure Sniffed where
  md : InboundContext
  buffer : Option (List Octet) := none
  packetBuffers : List PacketBuffer := []
  fatalErr : Option String := none
  input : Input

/-- What the stream part of `actionSniff` makes of its `PeekStream`. -/
def Peeked.sniffed (peeked : Peeked) (md : InboundContext) (action : SniffAction) : Sniffed where
  md := { setSniffFields md peeked.fields with snifferNames := action.snifferNames, sniffError := peeked.err }
  buffer := if peeked.buffer ≠ [] then some peeked.buffer else none
  input := .stream peeked.conn

/-- The stream part of `actionSniff`. -/
def sniffStream (buffers : List (List Octet)) (conn : StreamConn) : Sniffed :=
  if action.streamSniffers = [] && action.packetSniffers ≠ [] then { md, input := .stream conn }
  else if previouslyFailed md action then { md, input := .stream conn }
  else
    let sniffers := if action.streamSniffers ≠ [] then action.streamSniffers else env.defaultStreamSniffers
    (peekStream sniffers env.bufferSize buffers (sniffFields md) conn).sniffed md action

/-- One `PeekPacket` of `actionSniff`: only the QUIC sniffer while a client hello is incomplete. -/
def sniffPacket (packet : List UInt8) : InboundContext :=
  let quicMoreData := md.snifferNames = action.snifferNames && md.sniffError = some ⟨true⟩
  let sniffers := if quicMoreData then [env.quicClientHello]
    else if action.packetSniffers ≠ [] then action.packetSniffers
    else env.defaultPacketSniffers
  let (err, fields) := peekPacket sniffers (sniffFields md) packet
  { setSniffFields md fields with snifferNames := action.snifferNames, sniffError := err }

/-- The end of the packet part: a success goes on to the QUIC name cache. -/
def finishPackets : InboundContext :=
  if md.sniffError.isNone then processQUICSniff env md else md

/-- The loop over the packets of earlier sniff actions, with whether one of them settled it. -/
def resniffPackets (env : SniffEnv) (action : SniffAction) :
    List PacketBuffer → InboundContext → Bool × InboundContext
  | [], md => (false, md)
  | packet :: packets, md =>
    let md := sniffPacket env md action packet.1.payload
    if md.sniffError = some ⟨true⟩ then resniffPackets env action packets md else (true, md)

def readPackets (env : SniffEnv) (action : SniffAction) (sniffed : List PacketBuffer) (md : InboundContext)
    (remaining : List PacketBuffer) : List PacketRead → Sniffed
  | .packet :: reads =>
    match remaining with
    -- nothing arrives, the read times out
    | [] => { md, packetBuffers := sniffed, input := .packets ⟨[], reads⟩ }
    | packet :: remaining =>
      let md := sniffPacket env md action packet.1.payload
      let sniffed := sniffed ++ [packet]
      if md.sniffError = some ⟨true⟩ then readPackets env action sniffed md remaining reads
      else { md := finishPackets env md, packetBuffers := sniffed, input := .packets ⟨remaining, reads⟩ }
  | .failed err :: reads =>
    { md, packetBuffers := sniffed, fatalErr := some err, input := .packets ⟨remaining, reads⟩ }
  | .canceled err :: reads =>
    { md, packetBuffers := sniffed, fatalErr := some err, input := .packets ⟨remaining, reads⟩ }
  | .timeout :: reads => { md, packetBuffers := sniffed, input := .packets ⟨remaining, reads⟩ }
  | [] => { md, packetBuffers := sniffed, input := .packets ⟨remaining, []⟩ }

/-- The packet part of `actionSniff`. -/
def sniffPackets (packetBuffers : List PacketBuffer) (conn : PacketConn) : Sniffed :=
  if action.packetSniffers = [] && action.streamSniffers ≠ [] then { md, input := .packets conn }
  else if previouslyFailed md action then { md, input := .packets conn }
  else
    let (settled, md) := resniffPackets env action packetBuffers md
    if settled then { md := finishPackets env md, input := .packets conn }
    else readPackets env action [] md conn.remaining conn.reads

def actionSniff (input : Input) (buffers : List (List Octet)) (packetBuffers : List PacketBuffer) : Sniffed :=
  if skip md then { md, input }
  else if md.protocol ≠ "" then { md, input }
  else match input with
  | .none => { md, input }
  | .stream conn => sniffStream env md action buffers conn
  | .packets conn => sniffPackets env md action packetBuffers conn

end

/-- `actionSniffOverrideDestination` on the metadata of a stream (`inputConn`), else of packets. -/
def overrideDestination (stream : Bool) : InboundContext :=
  if !env.isDomain md.destination && env.isDomainName md.sniffHost then
    let destination : Socksaddr := { fqdn := md.sniffHost, port := md.destination.port }
    if stream then { md with destination }
    else { md with originDestination := md.destination, destination, destOverride := true }
  else md

def actionSniffOverrideDestination (input : Input) (preMatch : Bool) : InboundContext :=
  match input with
  | .stream _ => overrideDestination env md true
  | .packets _ => overrideDestination env md false
  | .none => if preMatch then overrideDestination env md false else md

end SingBox.Route
