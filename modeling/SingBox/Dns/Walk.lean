import SingBox.Dns.Router
/-!
# The walk over the DNS rules

`walkDNSRules`, `sweepArmedDNSRules` and `resumeExchangeWithRules` as a machine.
The rules are examined in order; `evaluate` starts an exchange in the background
and goes on; a rule that binds the response of such an exchange suspends the
walk until it is there, and a `race` rule that does is armed instead. One step is
one round of the walk's loop or of the loop that resumes it.

Interleavings are a `Schedule`: the tick at which each background exchange
completes. The clock moves between any two looks at a future, so every order of
completions and looks is some schedule.
-/
namespace SingBox.Dns
open Route (DNSQueryOptions)

/-- What the exchanges of one walk return: the exchange by its number, its transport, message and
options. -/
abbrev Outcomes := Nat → Transport → Msg → DNSQueryOptions → Except String Msg

/-- The tick at which each exchange of a walk completes. -/
abbrev Schedule := Nat → Nat

/-- `dnsEvaluatedFuture`, with the outcome it will have. -/
structure Future where
  tag : String
  transport : Transport
  outcome : Except String Msg

/-- `dnsArmedRule`; futures are named by their position in the list of the walk. -/
structure ArmedRule where
  ruleIndex : Nat
  rule : DNSRule
  futures : List Nat
  anonymousFuture : Option Nat
  bindsAnonymous : Bool
  options : DNSQueryOptions

/-- Why a sweep drops an armed rule. -/
inductive Dismissal where
  | disabled | notMatching | notRoutable
  deriving DecidableEq

/-- What a walk does, for the record: a rule by its index, `none` for the default transport. -/
inductive Event where
  | armed (rule : Nat)
  | dismissed (rule : Nat) (reason : Dismissal)
  | launched (rule : Option Nat)
  | effect (rule : Option Nat)

/-- `dnsRuleWalkState`, with the metadata of the walk's context, the clock and the record of what
was done. `settled` is the flag of each future. -/
structure WalkState where
  effectiveOptions : DNSQueryOptions
  metadata : InboundContext
  ruleIndex : Nat := 0
  anonymousFuture : Option Nat := none
  namedFutures : String → Option Nat := fun _ => none
  namedResponses : String → Option Msg := fun _ => none
  namedTransports : String → Option Transport := fun _ => none
  futures : List Future := []
  settled : Nat → Bool := fun _ => false
  armedRules : List ArmedRule := []
  terminalFuture : Option Nat := none
  terminalIndex : Nat := 0
  clock : Nat := 0
  trace : List Event := []

/-- `dnsPendingExchange`, with the rule it is made for. -/
structure PendingExchange where
  transport : Transport
  options : DNSQueryOptions
  future : Option Nat := none
  rule : Option Nat

/-- `dnsWalkSuspension`. -/
inductive Suspension where
  | await (future : Nat)
  | drain
  | pending (exchange : PendingExchange)

/-- How a walk ends: with a result, or with a predefined response whose alias is still to be
followed. -/
inductive Outcome where
  | result (result : Result)
  | predefined (response : Msg) (metadata : InboundContext) (options : DNSQueryOptions)

/-- Where the walk stands: in its loop, in the loop that resumes it, or at its end. -/
inductive Control where
  | walk
  | resume (suspension : Suspension)
  | finished (outcome : Outcome)

structure Config where
  control : Control
  state : WalkState

namespace WalkState

section
variable (s : WalkState)

def tick : WalkState := { s with clock := s.clock + 1 }
def record (e : Event) : WalkState := { s with trace := s.trace ++ [e] }
def next : Config := ⟨.walk, { s.tick with ruleIndex := s.ruleIndex + 1 }⟩
def suspend (suspension : Suspension) : Config := ⟨.resume suspension, s.tick⟩
def finish (outcome : Outcome) : Config := ⟨.finished outcome, s⟩

/-- The response of a future, `none` for an error. -/
def responseOf (k : Nat) : Option Msg := s.futures[k]?.bind (·.outcome.toOption)
def transportOf (k : Nat) : Option Transport := s.futures[k]?.map (·.transport)

end

/-! ## Looking at futures -/

variable (sched : Schedule)

section
variable (s : WalkState)

def resolved (k : Nat) : Bool := sched k ≤ s.clock
def view (k : Nat) : Option Msg := if s.resolved sched k then s.responseOf k else none
def anonymousResponse : Option Msg := s.anonymousFuture.bind (s.view sched)

/-- One round of `settleDNSFutures`. -/
def settleFuture (future : Future × Nat) : WalkState :=
  let (f, k) := future
  if s.settled k || !s.resolved sched k then s.tick
  else
    let s := { s with settled := Function.update s.settled k true }
    if f.tag = "" then s.tick
    else
      { s.tick with
        namedResponses := Function.update s.namedResponses f.tag (s.view sched k)
        namedTransports := Function.update s.namedTransports f.tag (some f.transport) }

def settleDNSFutures : WalkState := s.futures.zipIdx.foldl (settleFuture sched) s

end

/-- The futures a rule binds: those of its tags in order, then the anonymous one. -/
def boundFutures (rule : Rule) (s : WalkState) : List Nat :=
  rule.matchResponseTags.filterMap s.namedFutures ++
    (if rule.matchResponseAnonymous then s.anonymousFuture else none).toList

/-- The first of the futures that is not resolved when it is looked at. -/
def awaitFuture : List Nat → WalkState → Option Nat × WalkState
  | [], s => (none, s)
  | k :: ks, s => if s.resolved sched k then awaitFuture ks s.tick else (some k, s.tick)

/-- The futures that are not resolved when they are looked at. -/
def pendingFutures : List Nat → WalkState → List Nat × WalkState
  | [], s => ([], s)
  | k :: ks, s =>
    let (pending, s') := pendingFutures ks s.tick
    (if s.resolved sched k then pending else k :: pending, s')

def visit (rule : Rule) (s : WalkState) : Option Nat × WalkState :=
  let s := s.settleDNSFutures sched
  awaitFuture sched (s.boundFutures rule) s

end WalkState

def forRule (md : InboundContext) (response : Option Msg) (named : String → Option Msg) : InboundContext :=
  { md.resetRuleCache with
    dnsResponse := response
    namedDNSResponses := named
    destinationAddressMatchFromResponse := false }

/-- `Match` of a rule with the responses known at this moment. -/
def examine (env : Env) (rule : Rule) (response : Option Msg) (s : WalkState) : Bool × WalkState :=
  let (matched, md) := rule.match env (forRule s.metadata response s.namedResponses)
  (matched, { s.tick with metadata := md })

def respondWith (response : Option Msg) (transport : Option Transport) : Outcome :=
  match response with
  | none => .result { err := some respondMissingResponseMessage }
  | some response => .result { response := some response, transport }

def rejectWith (r : Router) (query : Query) (action : Reject) : Outcome :=
  match action.method with
  | .default =>
    .result { response := some (rejectResponse query action.rcode r.defaultRejectRcode), rejectAction := some action }
  | .drop => .result { rejectAction := some action, err := some errDrop }

/-- What a walk is run with: `disabled` is the status of each rule at each tick. -/
structure Walk where
  router : Router
  outcomes : Outcomes
  sched : Schedule
  disabled : Nat → Nat → Bool
  query : Query
  allowFakeIP : Bool

inductive Commit where
  | outcome (outcome : Outcome)
  | pending (exchange : PendingExchange)

namespace Walk
variable (w : Walk)

section
variable (s : WalkState)

/-- `launchDNSEvaluate` by the rule at the walk's index. -/
def launchDNSEvaluate (tag : String) (transport : Transport) (options : DNSQueryOptions) : WalkState :=
  let outcome := w.outcomes s.futures.length transport w.query.message (w.router.finalizeExchangeOptions options)
  { s with futures := s.futures ++ [Future.mk tag transport outcome] }.record (.launched (some s.ruleIndex))

/-! ## Sweeping armed rules -/

/-- The response and the transport of an armed `respond` rule. -/
def armedResponse (a : ArmedRule) (s : WalkState) : Outcome :=
  let tag := a.rule.rule.matchResponseTag
  if tag ≠ "" then respondWith (s.namedResponses tag) (s.namedTransports tag)
  else
    match a.anonymousFuture with
    | some k => respondWith (s.view w.sched k) (s.transportOf k)
    | none => respondWith (s.anonymousResponse w.sched) (s.anonymousFuture.bind s.transportOf)

/-- The action of an armed rule that matched: what to commit to, or why to go on. -/
def commitArmed (a : ArmedRule) (s : WalkState) : Except (Option Dismissal) Commit :=
  match a.rule.action with
  | .respond => .ok (.outcome (w.armedResponse a s))
  | .route server options _ =>
    match w.router.resolveDNSRoute server options w.allowFakeIP a.options with
    | none => .error (some .notRoutable)
    | some (transport, options) => .ok (.pending { transport, options, rule := some a.ruleIndex })
  | .reject action => .ok (.outcome (rejectWith w.router w.query action))
  | .predefined action => .ok (.outcome (.predefined (action.response w.query) s.metadata a.options))
  | .routeOptions _ | .evaluate .. => .error none

def armedView (a : ArmedRule) (s : WalkState) : Option Msg :=
  if a.bindsAnonymous then a.anonymousFuture.bind (s.view w.sched) else s.anonymousResponse w.sched

/-- `sweepArmedDNSRules`: `kept` are the rules it has passed over. -/
def sweep (kept : List ArmedRule) : List ArmedRule → WalkState → Option Commit × WalkState
  | [], s => (none, { s with armedRules := kept })
  | a :: todo, s =>
    match s.awaitFuture w.sched a.futures with
    | (some _, s) => sweep (kept ++ [a]) todo s
    | (none, s) =>
      if w.disabled a.ruleIndex s.clock then sweep kept todo (s.tick.record (.dismissed a.ruleIndex .disabled))
      else
        let (matched, s) := examine w.router.env a.rule.rule (w.armedView a s) s
        if matched then
          match w.commitArmed a s with
          | .ok commit => (some commit, { s with armedRules := kept ++ todo }.record (.effect (some a.ruleIndex)))
          | .error reason =>
            sweep kept todo ((reason.map (.dismissed a.ruleIndex)).elim s s.record)
        else sweep kept todo (s.record (.dismissed a.ruleIndex .notMatching))

def sweepArmedDNSRules : Option Commit × WalkState :=
  w.sweep [] s.armedRules s

/-! ## The loop over the rules -/

/-- A terminal action at the walk's rule waits until no rule is armed. -/
def terminal (act : WalkState → Config) : Config :=
  if s.armedRules.length > 0 then s.suspend .drain else act (s.record (.effect (some s.ruleIndex)))

/-- The `evaluate` action: the launch, with its bookkeeping. -/
def evaluate (tag : String) (transport : Transport) (options : RouteOptions) : Config :=
  let k := s.futures.length
  let s := w.launchDNSEvaluate s tag transport (applyDNSRouteOptions s.effectiveOptions options)
  if tag = "" then { s with anonymousFuture := some k }.next
  else { s with namedFutures := Function.update s.namedFutures tag (some k) }.next

/-- The `respond` action, once no rule is armed. -/
def respond (rule : Rule) (s : WalkState) : Config :=
  if rule.matchResponseTag ≠ "" then
    s.finish (respondWith (s.namedResponses rule.matchResponseTag) (s.namedTransports rule.matchResponseTag))
  else s.finish (respondWith (s.anonymousResponse w.sched) (s.anonymousFuture.bind s.transportOf))

/-- The anonymous future a `respond` action without bindings has to wait for. -/
def respondAwait (rule : Rule) (s : WalkState) : Option Nat :=
  if rule.matchResponseTag ≠ "" || hasBindings rule then none
  else s.anonymousFuture.filter fun k => !s.resolved w.sched k

/-- The `route` action to a transport that is there. -/
def route (transport : Transport) (options : DNSQueryOptions) (speculative : Bool) : Config :=
  if s.armedRules.length > 0 then
    if speculative && s.terminalFuture.isNone then
      { w.launchDNSEvaluate s "" transport options with
        terminalFuture := some s.futures.length
        terminalIndex := s.ruleIndex }.suspend .drain
    else s.suspend .drain
  else
    let s := s.record (.effect (some s.ruleIndex))
    match s.terminalFuture with
    | some k =>
      if s.terminalIndex = s.ruleIndex then
        s.suspend (.pending { transport := (s.transportOf k).getD transport, options := {}, future := some k,
                              rule := some s.ruleIndex })
      else s.suspend (.pending { transport, options, rule := some s.ruleIndex })
    | none => s.suspend (.pending { transport, options, rule := some s.ruleIndex })

def act (rule : DNSRule) (s : WalkState) : Config :=
  match rule.action with
  | .routeOptions options => { s with effectiveOptions := applyDNSRouteOptions s.effectiveOptions options }.next
  | .evaluate server tag options speculative =>
    match w.router.transport server with
    | none => (if tag = "" then { s with anonymousFuture := none } else s).next
    | some transport =>
      if speculative then w.evaluate s tag transport options
      else terminal s fun s => w.evaluate s tag transport options
  | .respond =>
    if s.armedRules.length > 0 then s.suspend .drain
    else
      match w.respondAwait rule.rule s with
      | some k => s.suspend (.await k)
      | none => w.respond rule.rule (s.tick.record (.effect (some s.ruleIndex)))
  | .route server options speculative =>
    match w.router.resolveDNSRoute server options w.allowFakeIP s.effectiveOptions with
    | none => s.next
    | some (transport, options) => w.route s transport options speculative
  | .reject action => terminal s fun s => s.finish (rejectWith w.router w.query action)
  | .predefined action =>
    terminal s fun s => s.finish (.predefined (action.response w.query) s.metadata s.effectiveOptions)

/-- What becomes of a sweep that a race rule without anything to wait for starts. -/
def afterSweep : Option Commit × WalkState → Config
  | (none, s) => s.next
  | (some (.outcome outcome), s) => s.finish outcome
  | (some (.pending exchange), s) => { s with armedRules := [] }.suspend (.pending exchange)

/-- A `race` rule is armed, and swept at once if it has nothing to wait for. -/
def arm (rule : DNSRule) (s : WalkState) : Config :=
  let s := s.settleDNSFutures w.sched
  let bindsAnonymous := rule.rule.matchResponseAnonymous
  let (pending, s) := s.pendingFutures w.sched (s.boundFutures rule.rule)
  let armed : ArmedRule :=
    { ruleIndex := s.ruleIndex, rule, futures := pending,
      anonymousFuture := if bindsAnonymous then s.anonymousFuture else none, bindsAnonymous,
      options := s.effectiveOptions }
  let s := { s with armedRules := s.armedRules ++ [armed] }.record (.armed s.ruleIndex)
  if pending.length = 0 then afterSweep (w.sweepArmedDNSRules s) else s.next

/-- A rule that is not armed: it waits for what it binds, is matched, and acts. -/
def examineRule (rule : DNSRule) (s : WalkState) : Config :=
  match if hasBindings rule.rule then s.visit w.sched rule.rule else (none, s) with
  | (some k, s) => s.suspend (.await k)
  | (none, s) =>
    let (matched, s) := examine w.router.env rule.rule (s.anonymousResponse w.sched) s
    if matched then w.act rule s else s.next

/-- One round of the loop of `walkDNSRules`. -/
def walkStep : Config :=
  match w.router.rules[s.ruleIndex]? with
  | none =>
    if s.armedRules.length > 0 then s.suspend .drain
    else (s.record (.effect none)).suspend
      (.pending { transport := w.router.default, options := s.effectiveOptions, rule := none })
  | some rule =>
    if w.disabled s.ruleIndex s.clock then s.next
    else if hasBindings rule.rule && rule.race then w.arm rule s
    else w.examineRule rule s

/-- The outcome of an exchange that was made for the walk's result. -/
def exchangeResult (transport : Option Transport) : Except String Msg → Result
  | .ok response => { response := some response, transport }
  | .error err => { transport, err := some err }

/-- `finishPendingExchange`; it waits for a future that was started before. -/
def finishPendingExchange (p : PendingExchange) : Config :=
  match p.future.bind (s.futures[·]?) with
  | some future => s.finish (.result (exchangeResult (some future.transport) future.outcome))
  | none =>
    let outcome := w.outcomes s.futures.length p.transport w.query.message (w.router.finalizeExchangeOptions p.options)
    (s.record (.launched p.rule)).finish (.result (exchangeResult (some p.transport) outcome))

end

/-- One round of the loop of `resumeExchangeWithRules`; while it waits the clock moves on. -/
def resumeStep (suspension : Suspension) (s : WalkState) : Config :=
  match w.sweepArmedDNSRules (s.settleDNSFutures w.sched) with
  | (some (.outcome outcome), s) => s.finish outcome
  | (some (.pending exchange), s) => w.finishPendingExchange s exchange
  | (none, s) =>
    match suspension with
    | .pending exchange => w.finishPendingExchange s exchange
    | .await k => if s.resolved w.sched k then ⟨.walk, s.tick⟩ else s.suspend (.await k)
    | .drain => if s.armedRules.length > 0 then s.suspend .drain else ⟨.walk, s.tick⟩

def step (c : Config) : Config :=
  match c.control with
  | .walk => w.walkStep c.state
  | .resume suspension => w.resumeStep suspension c.state
  | .finished _ => c

end Walk
end SingBox.Dns
