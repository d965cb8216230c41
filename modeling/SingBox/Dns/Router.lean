import SingBox.Dns.Rule
/-!
# The DNS router

What the walk over the DNS rules (`Dns/Walk.lean`) is built from: the options
of an exchange, the responses the router makes itself, and the following of
predefined aliases.
-/
namespace SingBox.Dns
open Route (DomainStrategy DNSQueryOptions)

/-- `adapter.DNSTransport`. -/
structure Transport where
  tag : String
  isFakeIP : Bool := false
  deriving DecidableEq

/-- A message with the question the router reads, `message.Question[0]`. -/
structure Query where
  message : Msg
  question : Question
  asked : message.question.head? = some question

/-- The part of `Router` a walk reads. -/
structure Router where
  env : Env
  /-- `dns.IsFqdn`. -/
  isFqdn : String → Bool
  transport : String → Option Transport
  default : Transport
  defaultDomainStrategy : DomainStrategy := .asIS
  defaultRejectRcode : Int := -1
  rules : List DNSRule

/-- `exchangeWithRulesResult`. -/
structure Result where
  response : Option Msg := none
  transport : Option Transport := none
  rejectAction : Option Reject := none
  err : Option String := none

def respondMissingResponseMessage : String :=
  "respond action requires an evaluated response from a preceding evaluate action"

def errDrop : String := "packet dropped"

/-! ## Options -/

/-- What `applyDNSRouteOptions` and `matchDNS` both do with the options of an action. -/
def applyQueryOptions (options : DNSQueryOptions) (r : RouteOptions) : DNSQueryOptions :=
  let options := if r.rewriteTTL.isSome then { options with rewriteTTL := r.rewriteTTL } else options
  let options := if r.timeout > 0 then { options with timeout := r.timeout } else options
  let options :=
    if r.clientSubnet.isValid then { options with clientSubnet := r.clientSubnet, removeClientSubnet := false }
    else options
  if r.removeClientSubnet then { options with clientSubnet := ⟨.invalid, 0⟩, removeClientSubnet := true } else options

/-- `applyDNSRouteOptions`; the strategy is skipped. -/
def applyDNSRouteOptions (options : DNSQueryOptions) (r : RouteOptions) : DNSQueryOptions :=
  let options := if r.disableCache then { options with disableCache := true } else options
  let options := if r.disableOptimisticCache then { options with disableOptimisticCache := true } else options
  applyQueryOptions options r

namespace Router

def finalizeExchangeOptions (r : Router) (options : DNSQueryOptions) : DNSQueryOptions :=
  if options.strategy = .asIS then { options with strategy := r.defaultDomainStrategy } else options

/-- `resolveDNSRoute`, `none` for a missing or skipped route. -/
def resolveDNSRoute (r : Router) (server : String) (routeOptions : RouteOptions) (allowFakeIP : Bool)
    (options : DNSQueryOptions) : Option (Transport × DNSQueryOptions) :=
  match r.transport server with
  | none => none
  | some transport =>
    if transport.isFakeIP && !allowFakeIP then none
    else
      let options := applyDNSRouteOptions options routeOptions
      some (transport, if transport.isFakeIP then { options with disableCache := true } else options)

end Router

/-! ## Responses the router makes -/

def resolveRejectRcode (actionRcode defaultRcode : Int) : Nat :=
  if actionRcode ≠ -1 then actionRcode.toNat
  else if defaultRcode ≠ -1 then defaultRcode.toNat
  else rcodeRefused

/-- `dnsRejectResponse`. -/
def rejectResponse (query : Query) (actionRcode defaultRcode : Int) : Msg where
  id := query.message.id
  rcode := resolveRejectRcode actionRcode defaultRcode
  response := true
  question := [query.question]

def RR.setName (name : String) : RR → RR
  | .a h ip => .a { h with name } ip
  | .aaaa h ip => .aaaa { h with name } ip
  | .https h value => .https { h with name } value
  | .cname h target => .cname { h with name } target
  | .soa h minttl => .soa { h with name } minttl
  | .opt h option => .opt { h with name } option
  | .other h rdata => .other { h with name } rdata

/-- `rewriteRecords`: wildcard names become the name asked for. -/
def rewriteRecords (records : List RR) (question : Question) : List RR :=
  records.map fun it =>
    match it.hdr.name.toList with
    | '*' :: suffix => if suffix <:+ question.name.toList then it.setName question.name else it
    | _ => it

def Predefined.response (action : Predefined) (request : Query) : Msg where
  id := request.message.id
  response := true
  authoritative := true
  recursionDesired := true
  recursionAvailable := true
  rcode := action.rcode
  question := request.message.question
  answer := rewriteRecords action.answer request.question
  ns := rewriteRecords action.ns request.question
  extra := rewriteRecords action.extra request.question

/-! ## Following predefined aliases -/

namespace Router
variable (r : Router)

def fqdnToDomain (fqdn : String) : String :=
  if r.isFqdn fqdn then String.ofList fqdn.toList.dropLast else fqdn

def aliasOf (current : String) (records : List RR) : Option String :=
  records.findSome? fun
    | .cname hdr target => if r.env.canonicalName hdr.name = current then some (r.env.canonicalName target) else none
    | _ => none

/-- The loop of `findLastCNAMETarget`; `none` when the aliases form a cycle. -/
def lastAlias (records : List RR) : Nat → String → List String → Option String
  | 0, current, _ => some current
  | n + 1, current, visited =>
    match r.aliasOf current records with
    | none => some current
    | some target => if target ∈ visited then none else lastAlias records n target (target :: visited)

/-- A record that answers the query type at the end of the chain. -/
def answers (qtype : UInt16) : RR → Bool
  | .a .. => qtype = 0 || qtype = typeA
  | .aaaa .. => qtype = 0 || qtype = typeAAAA
  | _ => false

def findLastCNAMETarget (name : String) (records : List RR) (qtype : UInt16) : String :=
  let name := r.env.canonicalName name
  match r.lastAlias records records.length name [name] with
  | none => ""
  | some current =>
    if current = name then ""
    else if records.any fun rr => r.env.canonicalName rr.hdr.name = current && answers qtype rr then ""
    else current

/-- `ContextWithAliasResolution`: the longer chain, `none` for a loop. -/
def contextWithAliasResolution (chain : List String) (source target : String) : Option (List String) :=
  let source := r.env.canonicalName source
  let target := r.env.canonicalName target
  if source = target || target ∈ chain then none else some (source :: target :: chain)

def withLookupQueryMetadata (md : InboundContext) (qtype : UInt16) : InboundContext :=
  { md with
    queryType := qtype
    queryClientSubnet := ⟨.invalid, 0⟩
    queryDNSSEC := false
    ipVersion := if qtype = typeA then 4 else if qtype = typeAAAA then 6 else 0 }

/-- `followMsg`. -/
def followQuery (target : String) (qtype : UInt16) : Query where
  message := { recursionDesired := true, question := [⟨target, qtype, classINET⟩] }
  question := ⟨target, qtype, classINET⟩
  asked := rfl

/-- The answers of the alias joined to the predefined response. -/
def mergeAnswers (response : Msg) (qtype : UInt16) (result : Result) : Msg :=
  match result.err, result.response with
  | none, some followResponse =>
    if followResponse.rcode ≠ rcodeSuccess || followResponse.answer.length = 0 then response
    else
      { response with
        answer := response.answer ++
          followResponse.answer.filter fun rr => rr.hdr.rrtype = qtype || rr.hdr.rrtype = typeCNAME }
  | _, _ => response

/-- The nested exchange a predefined response asks for: its chain, metadata, query and options. -/
def followArgs (chain : List String) (md : InboundContext) (query : Query) (response : Msg)
    (options : DNSQueryOptions) : Option (List String × InboundContext × Query × DNSQueryOptions) :=
  let qtype := query.question.qtype
  if qtype ≠ typeA && qtype ≠ typeAAAA then none
  else
    let target := r.findLastCNAMETarget query.question.name response.answer qtype
    if target = "" then none
    else
      match r.contextWithAliasResolution chain query.question.name target with
      | none => none
      | some chain =>
        some (chain, { withLookupQueryMetadata md qtype with domain := r.fqdnToDomain target },
          followQuery target qtype, { options with disableOptimisticCache := true })

/-- `followPredefinedCNAME`; `exchange` is the nested `exchangeWithRules`. -/
def followPredefinedCNAME (exchange : List String → InboundContext → Query → DNSQueryOptions → Result)
    (chain : List String) (md : InboundContext) (query : Query) (response : Msg) (options : DNSQueryOptions) : Msg :=
  match r.followArgs chain md query response options with
  | none => response
  | some (chain, md, follow, options) =>
    mergeAnswers response query.question.qtype (exchange chain md follow options)

end Router
end SingBox.Dns
