import SingBox.Dns.Mode
import SingBox.Dns.Router
/-!
# The legacy DNS mode

`matchDNS` finds the transport of a query before the query is made. A rule
whose addresses limit it (`WithAddressLimit`) is checked again on the response;
if that is refused, the search goes on behind the rule.
-/
namespace SingBox

def RuleSetItem.containsDestinationIPCIDRRule (item : RuleSetItem) : Bool :=
  !item.ipCidrMatchSource && item.setList.any (·.containsIPCIDRRule)

namespace Rule

mutual

def withAddressLimit : Rule → Bool
  | .default items ruleSetItem _ _ =>
    items.destinationIPCIDRItems.length > 0 || ruleSetItem.any (·.containsDestinationIPCIDRRule)
  | .logical _ rules _ => anyWithAddressLimit rules

def anyWithAddressLimit : List Rule → Bool
  | [] => false
  | rule :: rules => rule.withAddressLimit || anyWithAddressLimit rules

end
end Rule

namespace Dns
open Route (DomainStrategy DNSQueryOptions)

/-- What `matchDNS` does with the options of an action. -/
def applyLegacyRouteOptions (options : DNSQueryOptions) (r : RouteOptions) (isFakeIP : Bool) : DNSQueryOptions :=
  let options := if r.strategy ≠ .asIS then { options with strategy := r.strategy } else options
  let options := if isFakeIP || r.disableCache then { options with disableCache := true } else options
  applyQueryOptions options r

/-- What `matchDNS` returns, with the metadata it leaves. A rule comes with its index. -/
structure LegacyMatch where
  transport : Option Transport
  rule : Option (Nat × DNSRule)
  metadata : InboundContext
  options : DNSQueryOptions

/-- What a query in the legacy mode is made with. -/
structure LegacyQuery where
  router : Router
  disabled : Nat → Bool
  allowFakeIP : Bool
  isAddressQuery : Bool

namespace LegacyQuery
variable (q : LegacyQuery)

/-- What `matchDNS` makes of the action of a matched rule: what it returns, or the options with which
it goes on. -/
def legacyAction (action : RuleAction) (options : DNSQueryOptions) :
    Except DNSQueryOptions (Option Transport × DNSQueryOptions) :=
  match action with
  | .route server routeOptions _ =>
    match q.router.transport server with
    | none => .error options
    | some transport =>
      if transport.isFakeIP && !q.allowFakeIP then .error options
      else .ok (some transport, applyLegacyRouteOptions options routeOptions transport.isFakeIP)
  | .routeOptions routeOptions => .error (applyLegacyRouteOptions options routeOptions false)
  | .reject _ | .predefined _ => .ok (none, options)
  | .evaluate .. | .respond => .error options

/-- The loop of `matchDNS`, from the rule with the given index on. -/
def matchDNS : Nat → List DNSRule → InboundContext → DNSQueryOptions → LegacyMatch
  | _, [], metadata, options => ⟨some q.router.default, none, metadata, options⟩
  | index, rule :: rules, metadata, options =>
    if q.disabled index then matchDNS (index + 1) rules metadata options
    else if rule.rule.withAddressLimit && !q.isAddressQuery then matchDNS (index + 1) rules metadata options
    else
      let (matched, metadata) := rule.rule.legacyPreMatch q.router.env
        { metadata.resetRuleCache with destinationAddressMatchFromResponse := false }
      if matched then
        match q.legacyAction rule.action options with
        | .ok (transport, options) => ⟨transport, some (index, rule), metadata, options⟩
        | .error options => matchDNS (index + 1) rules metadata options
      else matchDNS (index + 1) rules metadata options

/-- The transports that `exchangeLegacy` and the loop of `Lookup` ask, from a rule index on: as long as
the response to a limited rule is refused, they match again behind it. `refused` says for which rules
it is. The index grows with each turn, so `fuel` above the number of rules does not run out. -/
def transportsFrom (refused : Nat → Bool) (options : DNSQueryOptions) : Nat → Nat → InboundContext → List Transport
  | 0, _, _ => []
  | fuel + 1, index, metadata =>
    let m := q.matchDNS index (q.router.rules.drop index) metadata options
    match m.transport, m.rule with
    | none, _ => []
    | some transport, none => [transport]
    | some transport, some (i, rule) =>
      if rule.rule.withAddressLimit && refused i then
        transport :: transportsFrom refused options fuel (i + 1) m.metadata
      else [transport]

def transports (refused : Nat → Bool) (options : DNSQueryOptions) (metadata : InboundContext) : List Transport :=
  q.transportsFrom refused options (q.router.rules.length + 1) 0 metadata

end LegacyQuery
end Dns
end SingBox
