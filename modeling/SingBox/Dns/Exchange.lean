import SingBox.Dns.Race
/-!
# Runs of the walk

`exchangeWithRules` and `exchangeWithRulesAsync` run the machine to its end, and
follow the alias of a predefined response with a nested walk. A run is cut off
after `fuel` steps; it never gets that far (`run_finishes`).
-/
namespace SingBox.Dns
open Route (DNSQueryOptions)

namespace Walk
variable (w : Walk)

def start (md : InboundContext) (options : DNSQueryOptions) : Config :=
  ⟨.walk, { effectiveOptions := options, metadata := md }⟩

def run (n : Nat) (c : Config) : Config := w.step^[n] c

/-- A state of the run that starts in `c`. -/
def Reaches (c c' : Config) : Prop := ∃ n, w.run n c = c'
def horizon : Nat := (List.range (w.router.rules.length + 1)).foldr (fun k t => max (w.sched k) t) 0
def fuel : Nat := 5 * (w.router.rules.length + w.horizon + 1)

/-- The outcome of the run that starts in `c`. -/
def outcomeOf (c : Config) : Outcome :=
  match (w.run w.fuel c).control with
  | .finished outcome => outcome
  | .walk | .resume _ => .result {}

/-- `walkDNSRules`: up to the first suspension. -/
def walkDNSRules : Nat → Config → Config
  | 0, c => c
  | n + 1, c =>
    match c.control with
    | .walk => walkDNSRules n (w.step c)
    | .resume _ | .finished _ => c

/-- `exchangeWithRules`, up to the alias of a predefined response. -/
def exchangeWithRules (md : InboundContext) (options : DNSQueryOptions) : Outcome :=
  w.outcomeOf (w.walkDNSRules (w.router.rules.length + 1) (start md options))

/-- `exchangeWithRulesAsync`, up to the alias of a predefined response: a pending exchange is made at
once, without the loop that resumes the walk. -/
def exchangeWithRulesAsync (md : InboundContext) (options : DNSQueryOptions) : Outcome :=
  let c := w.walkDNSRules (w.router.rules.length + 1) (start md options)
  match c.control with
  | .resume (.pending p) =>
    if p.future.isNone then w.outcomeOf (w.finishPendingExchange c.state p) else w.outcomeOf c
  | _ => w.outcomeOf c

end Walk

/-! ## Aliases -/

namespace Router
variable (r : Router)

/-- The result of a walk, with the alias of a predefined response followed. -/
def resultOf (exchange : List String → InboundContext → Query → DNSQueryOptions → Result) (chain : List String)
    (query : Query) : Outcome → Result
  | .result result => result
  | .predefined response md options =>
    { response := some (r.followPredefinedCNAME exchange chain md query response options) }

/-- What the walks of nested exchanges are run with, by their depth. -/
structure Runs where
  outcomes : Nat → Outcomes
  sched : Nat → Schedule
  disabled : Nat → Nat → Nat → Bool

def walkAt (runs : Runs) (depth : Nat) (query : Query) (allowFakeIP : Bool) : Walk where
  router := r
  outcomes := runs.outcomes depth
  sched := runs.sched depth
  disabled := runs.disabled depth
  query := query
  allowFakeIP := allowFakeIP

/-- The nested exchanges, at most `hops` of them. -/
def exchangeAlias (runs : Runs) : Nat → Nat → List String → InboundContext → Query → DNSQueryOptions → Result
  | 0, _ => fun _ _ _ _ => {}
  | hops + 1, depth => fun chain md query options =>
    r.resultOf (exchangeAlias runs hops (depth + 1)) chain query
      ((r.walkAt runs depth query false).exchangeWithRules md options)

/-- The canonical targets of the aliases the rules predefine. -/
def aliasTargets : List String :=
  r.rules.flatMap fun rule =>
    match rule.action with
    | .predefined action => action.answer.filterMap fun
      | .cname _ target => some (r.env.canonicalName target)
      | _ => none
    | _ => []

def exchangeWithRules (runs : Runs) (allowFakeIP : Bool) (chain : List String) (md : InboundContext) (query : Query)
    (options : DNSQueryOptions) : Result :=
  r.resultOf (r.exchangeAlias runs r.aliasTargets.length 1) chain query
    ((r.walkAt runs 0 query allowFakeIP).exchangeWithRules md options)

/-- `exchangeWithRulesAsync`: what its callback is given. -/
def exchangeWithRulesAsync (runs : Runs) (allowFakeIP : Bool) (chain : List String) (md : InboundContext)
    (query : Query) (options : DNSQueryOptions) : Result :=
  r.resultOf (r.exchangeAlias runs r.aliasTargets.length 1) chain query
    ((r.walkAt runs 0 query allowFakeIP).exchangeWithRulesAsync md options)

end Router
end SingBox.Dns
