import SingBox.Route.Action
/-!
# What the DNS client does to messages

The functions of `dns/client.go` and `dns/extension_edns0_subnet.go` that read
or rewrite one message: lifetimes, round robin, address hints, EDNS0 options.
-/
namespace SingBox.Dns
open Route (DomainStrategy DNSQueryOptions)

def RR.mapHdr (f : RRHeader → RRHeader) : RR → RR
  | .a h ip => .a (f h) ip
  | .aaaa h ip => .aaaa (f h) ip
  | .https h value => .https (f h) value
  | .cname h target => .cname (f h) target
  | .soa h minttl => .soa (f h) minttl
  | .opt h option => .opt (f h) option
  | .other h rdata => .other (f h) rdata

def Msg.mapRecords (f : RR → RR) (m : Msg) : Msg :=
  { m with answer := m.answer.map f, ns := m.ns.map f, extra := m.extra.map f }

section
variable (message : Msg)

def fixedResponseStatus (rcode : Nat) : Msg where
  id := message.id
  response := true
  authoritative := true
  recursionDesired := true
  recursionAvailable := true
  rcode := rcode
  question := message.question

/-! ## Lifetimes -/

section
variable (response : Msg)

def extractNegativeTTL : Option UInt32 :=
  response.ns.findSome? fun
    | .soa h minttl => some (if h.ttl < minttl then h.ttl else minttl)
    | _ => none

/-- One round of the loop of `computeTimeToLive`. -/
def shorterTTL (timeToLive : UInt32) (record : RR) : UInt32 :=
  if record.hdr.rrtype = typeOPT then timeToLive
  else if timeToLive = 0 || record.hdr.ttl > 0 && record.hdr.ttl < timeToLive then record.hdr.ttl
  else timeToLive

def computeTimeToLive : UInt32 :=
  match (if response.answer.isEmpty then extractNegativeTTL response else none) with
  | some soaTTL => soaTTL
  | none => (response.answer ++ response.ns ++ response.extra).foldl shorterTTL 0

/-- `normalizeTTL` on one record. -/
def RR.normalizeTTL (timeToLive : UInt32) (record : RR) : RR :=
  if record.hdr.rrtype = typeOPT then record else record.mapHdr fun h => { h with ttl := timeToLive }

def normalizeTTL (timeToLive : UInt32) : Msg := response.mapRecords (·.normalizeTTL timeToLive)

/-! ## Round robin -/

def removeAnswersOfType (answers : List RR) (rrType : UInt16) : List RR :=
  answers.filter fun ans => ans.hdr.rrtype ≠ rrType

def reverseRotateSlice {α : Type} (slice : List α) (steps : UInt32) : List α :=
  if slice.length ≤ 1 then slice
  else
    let steps := steps.toNat % slice.length
    slice.drop (slice.length - steps) ++ slice.take (slice.length - steps)

/-- The rotation indices of a `dnsMsg`. -/
structure Rotation where
  ipv4Index : UInt32 := 0
  ipv6Index : UInt32 := 0

/-- `nextRotation`: the value returned, which is also the new index. -/
def nextRotation (index : UInt32) (length : Nat) : UInt32 :=
  let length := UInt32.ofNat length
  (index % length + 1) % length

/-- One of the two parts of `applyRoundRobin`: the records that `isType`
selects, of header type `rrType`, are moved to the end and rotated. -/
def rotateAnswers (isType : RR → Bool) (rrType : UInt16) (index : UInt32) (found answer : List RR) :
    UInt32 × List RR :=
  let answers := found.filter isType
  if answers.length > 1 then
    let newIndex := nextRotation index answers.length
    (newIndex, removeAnswersOfType answer rrType ++ reverseRotateSlice answers newIndex)
  else (index, answer)

def RR.isA : RR → Bool
  | .a .. => true
  | _ => false

def RR.isAAAA : RR → Bool
  | .aaaa .. => true
  | _ => false

/-- `applyRoundRobin`; both lists of addresses are collected first. -/
def applyRoundRobin (r : Rotation) (msg : Msg) : Rotation × Msg :=
  let (ipv4Index, answer) := rotateAnswers RR.isA typeA r.ipv4Index msg.answer msg.answer
  let (ipv6Index, answer) := rotateAnswers RR.isAAAA typeAAAA r.ipv6Index msg.answer answer
  (⟨ipv4Index, ipv6Index⟩, { msg with answer })

/-! ## Address hints -/

def keepsHint (strategy : DomainStrategy) : SvcbValue → Bool
  | .ipv4Hint _ => strategy ≠ .ipv6Only
  | .ipv6Hint _ => strategy ≠ .ipv4Only
  | .other _ => true

/-- The filter of `applyResponseOptions` on one record. -/
def RR.filterHints (strategy : DomainStrategy) : RR → RR
  | .https h value => .https h (value.filter (keepsHint strategy))
  | rr => rr

/-- The first part of `applyResponseOptions`. Only answers are filtered. -/
def filterHints (question : Question) (response : Msg) (strategy : DomainStrategy) : Msg :=
  if question.qtype = typeHTTPS && (strategy = .ipv4Only || strategy = .ipv6Only) then
    { response with answer := response.answer.map (·.filterHints strategy) }
  else response

/-! ## EDNS0 -/

def stripDNSPadding : Msg :=
  { response with extra := response.extra.map fun
      | .opt h option => .opt h (option.filter fun it => it.code ≠ edns0Padding)
      | rr => rr }

end

/-- `netip.PrefixFrom`. A length out of range makes the prefix invalid. -/
def prefixFrom (address : Addr) (bits : Nat) : Prefix :=
  if (Prefix.mk address bits).isValid then ⟨address, bits⟩ else ⟨address, 129⟩

def subnetOptions : List (Addr × UInt8) :=
  message.extra.flatMap fun
    | .opt _ option => option.filterMap fun
      | .subnet _ sourceNetmask _ address => some (address, sourceNetmask)
      | .other .. => none
    | _ => []

def clientSubnetFromMessage : Prefix :=
  match (subnetOptions message).head? with
  | some (address, sourceNetmask) =>
    if address.isValid then prefixFrom address.unmap sourceNetmask.toNat else ⟨.invalid, 0⟩
  | none => ⟨.invalid, 0⟩

def removeClientSubnet : Msg :=
  { message with extra := message.extra.map fun
      | .opt h option => .opt h (option.filter fun option => option.code ≠ edns0Subnet)
      | rr => rr }

def Edns0.isSubnet : Edns0 → Bool
  | .subnet .. => true
  | .other .. => false

def newSubnet (clientSubnet : Prefix) (sourceScope : UInt8) : Edns0 :=
  .subnet (if clientSubnet.addr.is4 then 1 else 2) (UInt8.ofNat clientSubnet.bits) sourceScope clientSubnet.addr

def setSubnetOption (clientSubnet : Prefix) : List Edns0 → List Edns0
  | [] => []
  | .subnet _ _ sourceScope _ :: rest => newSubnet clientSubnet sourceScope :: rest
  | .other code data :: rest => .other code data :: setSubnetOption clientSubnet rest

/-- The first OPT record with a subnet option takes the new prefix. -/
def replaceSubnet (clientSubnet : Prefix) : List RR → Option (List RR)
  | [] => none
  | .opt h option :: rest =>
    if option.any Edns0.isSubnet then some (.opt h (setSubnetOption clientSubnet option) :: rest)
    else (replaceSubnet clientSubnet rest).map (.opt h option :: ·)
  | rr :: rest => (replaceSubnet clientSubnet rest).map (rr :: ·)

/-- What the writes of `setClientSubnet` make of the records when its search ends with an OPT record. When no record
has the option, the loop leaves the last record in `optRecord` if it is an OPT record, and nothing otherwise. -/
def writeSubnet (clientSubnet : Prefix) : Option (List RR) :=
  match replaceSubnet clientSubnet message.extra with
  | some extra => some extra
  | none =>
    match message.extra.getLast? with
    | some (.opt h option) => some (message.extra.dropLast ++ [.opt h (option ++ [newSubnet clientSubnet 0])])
    | _ => none

/-- `setClientSubnet`: the message that was passed, as the call leaves it, and the one it returns. A new record goes
to a message of its own. A record that is there is written in place, or in a copy with `clone`. -/
def setClientSubnet (clientSubnet : Prefix) (clone : Bool) : Msg × Msg :=
  match writeSubnet message clientSubnet with
  | none => (message, { message with
      extra := message.extra ++ [.opt { name := ".", rrtype := typeOPT, rrclass := 0 } [newSubnet clientSubnet 0]] })
  | some extra => (if clone then message else { message with extra }, { message with extra })

/-- The requests whose responses may be cached, `isSimpleRequest` in `beginExchange`. -/
def isSimpleRequest : Bool :=
  message.question.length == 1 && message.ns.isEmpty &&
    match message.extra with
    | [] => true
    | [.opt h option] =>
      h.rrtype = typeOPT && h.rrclass > 0 && h.ttl = 0 && option.all fun it => it.code = edns0Subnet
    | _ => false

/-- `IsEdns0` of the DNS library, the header of the last OPT record. -/
def isEdns0 : Option RRHeader :=
  (message.extra.reverse.find? fun rr => rr.hdr.rrtype = typeOPT).map RR.hdr

/-- `Version()` of an OPT record. -/
def optVersion (h : RRHeader) : UInt32 := (h.ttl &&& 0x00FF0000) >>> 16

/-- `SetEdns0` of the DNS library. -/
def setEdns0 (udpSize : UInt16) (do_ : Bool) : Msg :=
  { message with
    extra := message.extra ++
      [.opt { name := ".", rrtype := typeOPT, rrclass := udpSize, ttl := if do_ then 0x8000 else 0 } []] }

end

/-- The end of `finishExchange`: an OPT record the request did not ask for is taken out. -/
def matchEdns0 (request response : Msg) : Msg :=
  match isEdns0 response with
  | none => response
  | some responseOpt =>
    let removed := { response with extra := response.extra.filter fun it => it.hdr.rrtype ≠ typeOPT }
    match isEdns0 request with
    | none => removed
    | some requestOpt =>
      if optVersion requestOpt < optVersion responseOpt then
        setEdns0 removed responseOpt.rrclass (responseOpt.ttl &&& 0x8000 = 0x8000)
      else response

end SingBox.Dns
