import SingBox.Route.Sniff
/-!
# The rule walk

`matchRule` walks the route rules once; a matched rule changes the metadata,
sniffs, or ends the walk (`matchStep`). `routeConnection` and
`routePacketConnection` then hand the connection over, with what was sniffed
wrapped around it again.
-/
namespace SingBox.Route

/-- What `matchRule` carries from rule to rule. -/
structure WalkState where
  md : InboundContext
  buffers : List (List Octet) := []
  packetBuffers : List PacketBuffer := []
  input : Input

/-- How the walk goes on after a rule. -/
inductive Step (σ ρ : Type) where
  | next (s : σ)
  | select (r : ρ)
  | fail (err : String) (s : σ)

/-- The sniff case of `matchRule`. -/
def WalkState.sniff (s : WalkState) (env : SniffEnv) (action : SniffAction) : Step WalkState WalkState :=
  let sniffed := actionSniff env s.md action s.input s.buffers s.packetBuffers
  let s := match sniffed.buffer with
    | some buffer => { s with md := sniffed.md, buffers := s.buffers ++ [buffer], input := sniffed.input }
    | none =>
      { s with md := sniffed.md, packetBuffers := s.packetBuffers ++ sniffed.packetBuffers, input := sniffed.input }
  match sniffed.fatalErr with
  | some err => .fail err s
  | none => .next s

section
variable (env : SniffEnv)

/-- The body of `matchRule`'s loop for a matched rule. -/
def matchedStep (action : RuleAction) (s : WalkState) : Step WalkState WalkState :=
  match action with
  | .route outbound options =>
    if isPassOutbound env.toRouteEnv outbound then .next s
    else .select { s with md := applyRouteOptions env.toRouteEnv s.md options }
  | .routeOptions options => .next { s with md := applyRouteOptions env.toRouteEnv s.md options }
  | .bypass outbound options =>
    if outbound = "" then .next s else .select { s with md := applyRouteOptions env.toRouteEnv s.md options }
  | .direct => .next s
  | .reject .. | .hijackDNS => .select s
  | .sniff action => s.sniff env action
  | .sniffOverrideDestination =>
    .next (if s.md.sniffHost ≠ "" then
      { s with md := actionSniffOverrideDestination env s.md s.input false } else s)
  | .resolve action =>
    match actionResolve env.toRouteEnv s.md action with
    | .error err => .fail err s
    | .ok md => .next { s with md }

/-- The body of `matchRule`'s loop. -/
def matchStep (rule : RouteRule) (s : WalkState) : Step WalkState WalkState :=
  if rule.disabled then .next s
  else
    let (matched, md) := rule.matches env.toRouteEnv s.md
    if matched then matchedStep env rule.action { s with md } else .next { s with md }

/-- How `matchRule` ends: the selected rule and its index, no rule, or a fatal error, raised by the
rule at `index` or before the first rule. -/
inductive Matched where
  | selected (index : Nat) (action : RuleAction) (s : WalkState)
  | unmatched (s : WalkState)
  | failed (index : Option Nat) (err : String)

def matchLoop (env : SniffEnv) : Nat → List RouteRule → WalkState → Matched
  | _, [], s => .unmatched s
  | index, rule :: rules, s =>
    match matchStep env rule s with
    | .next s => matchLoop env (index + 1) rules s
    | .select s => .selected index rule.action s
    | .fail err _ => .failed (some index) err

variable (rules : List RouteRule)
variable (md : InboundContext)

def matchRule (input : Input) : Matched :=
  match prepareMatchMetadata env.toRouteEnv md with
  | .error err => .failed none err
  | .ok md => matchLoop env 0 rules { md, input }

/-! ## Handing the connection over -/

/-- A connection as its reader sees it: `raw` goes on reading, `cached` is `bufio.NewCachedConn`. -/
inductive Conn (α : Type) where
  | raw (remaining : List α)
  | cached (conn : Conn α) (buffer : List α)

/-- All a reader gets: a cached connection first yields its buffer, then what it wraps. -/
def Conn.yields {α : Type} : Conn α → List α
  | .raw remaining => remaining
  | .cached conn buffer => buffer ++ conn.yields

/-- Who gets the connection. -/
inductive Target where
  | inbound (tag : String)
  | hijackDNS
  | outbound (chain : List Outbound)

inductive Routed (α : Type) where
  | handed (target : Target) (conn : Conn α)
  | refused (err : String)

/-- The switch on the selected action, up to the outbound; `none` is the DNS hijack. -/
def selectOutbound (network : String) : Matched → Except String (Option (List Outbound) × WalkState)
  | .failed _ err => .error err
  | .unmatched s =>
    (resolveOutbound env.toRouteEnv env.outbound.default network s.md).map (some ·, s)
  | .selected _ action s =>
    let named := fun tag => match env.outbound.outbound tag with
      | none => .error ("outbound not found: " ++ tag)
      | some outbound => (resolveOutbound env.toRouteEnv outbound network s.md).map (some ·, s)
    match action with
    | .route tag _ | .bypass tag _ => named tag
    | .reject .reply _ _ =>
      .error ("reject method `reply` is not supported for " ++ network.toUpper ++ " connections")
    | .reject method noDrop recent =>
      .error (if rejectError method noDrop recent = some .drop then "packet dropped" else "connection reset")
    | .hijackDNS => .ok (none, s)
    -- never selected
    | .routeOptions _ | .direct | .sniff _ | .sniffOverrideDestination | .resolve _ =>
      (resolveOutbound env.toRouteEnv env.outbound.default network s.md).map (some ·, s)

lemma named_outbound {env : SniffEnv} {network tag : String} {s s' : WalkState} {chain : Option (List Outbound)}
    (h : (match env.outbound.outbound tag with
      | none => .error ("outbound not found: " ++ tag)
      | some outbound => (resolveOutbound env.toRouteEnv outbound network s.md).map (some ·, s) :
        Except String (Option (List Outbound) × WalkState)) = .ok (chain, s')) :
    ∃ outbound, env.outbound.outbound tag = some outbound ∧
      (resolveOutbound env.toRouteEnv outbound network s.md).map (some ·, s) = .ok (chain, s') := by
  split at h
  · cases h
  next outbound hfound => exact ⟨outbound, hfound, h⟩

def injectDetour {α : Type} (network : String) (injectable : Bool × Bool → Bool)
    (md : InboundContext) (remaining : List α) : Routed α :=
  if md.lastInbound = md.inboundDetour then .refused ("routing loop on detour: " ++ md.inboundDetour)
  else match env.inbound md.inboundDetour with
  | none => .refused ("inbound detour not found: " ++ md.inboundDetour)
  | some detour =>
    if injectable detour then .handed (.inbound md.inboundDetour) (.raw remaining)
    else .refused ("inbound detour is not " ++ network.toUpper ++ " injectable: " ++ md.inboundDetour)

/-- A DNS connection of the tun inbound is hijacked at once. -/
def hijacksTun : Bool :=
  md.inboundType = "tun" && md.protocol = protocolDNS

def Input.remainingOctets : Input → List Octet
  | .stream conn => conn.remaining
  | .packets _ | .none => []

def Input.remainingPackets : Input → List PacketBuffer
  | .packets conn => conn.remaining
  | .stream _ | .none => []

/-- The loop `for _, buffer := range buffers { conn = bufio.NewCachedConn(conn, buffer) }`. -/
def wrapBuffers {α : Type} (conn : Conn α) (buffers : List (List α)) : Conn α :=
  buffers.foldl .cached conn

def routeConnection (conn : StreamConn) : Routed Octet :=
  if md.inboundDetour ≠ "" then injectDetour env networkTCP Prod.fst md conn.remaining
  else
    let md := { md with network := networkTCP }
    match env.globalDestination md.destination.fqdn with
    | some err => .refused err
    | none =>
      if hijacksTun md then .handed .hijackDNS (.raw conn.remaining)
      else match selectOutbound env networkTCP (matchRule env rules md (.stream conn)) with
      | .error err => .refused err
      | .ok (chain, s) =>
        .handed ((chain.map Target.outbound).getD .hijackDNS)
          (wrapBuffers (.raw s.input.remainingOctets) s.buffers)

/-- The order in which `NewDNSPacketConnection` takes the packets of a hijacked connection. -/
def newDNSPacketConnection (conn : Conn PacketBuffer) (cachedPackets : List PacketBuffer) : Conn PacketBuffer :=
  .cached conn cachedPackets.reverse

def routePacketConnection (conn : PacketConn) : Routed PacketBuffer :=
  if md.inboundDetour ≠ "" then injectDetour env networkUDP Prod.snd md conn.remaining
  else
    let md := { md with network := networkUDP }
    if hijacksTun md then .handed .hijackDNS (newDNSPacketConnection (.raw conn.remaining) [])
    else match selectOutbound env networkUDP (matchRule env rules md (.packets conn)) with
    | .error err => .refused err
    | .ok (none, s) =>
      .handed .hijackDNS (newDNSPacketConnection (.raw s.input.remainingPackets) s.packetBuffers)
    | .ok (some chain, s) =>
      .handed (.outbound chain)
        -- `slices.Backward(packetBuffers)`
        (wrapBuffers (.raw s.input.remainingPackets) (s.packetBuffers.reverse.map ([·])))

end

/-! ## Concrete routers -/

/-- A router without rules of its own: no DNS, and the direct outbound. -/
def SniffEnv.bare : SniffEnv where
  toEnv := Env.bare
  isIPv4 a := a.addr.is4
  isValid a := a.addr.isValid || a.fqdn ≠ ""
  isDomainName s := s ≠ ""
  lookup _ _ := .error "no DNS"
  outbound := { outbounds := [], default := { tag := "direct", type := "direct" } }

def always (action : RuleAction) : RouteRule where
  rule := .default {} none false none
  action := action

end SingBox.Route
