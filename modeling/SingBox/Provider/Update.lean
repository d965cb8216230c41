import SingBox.Lib.DepthFirst
/-!
# Updates of a provider

`adapter/provider/update.go`: a subscription brings a new list of outbounds and
endpoints. `UpdateNodes` orders them by their dependencies, replaces those that
have changed and removes those that are gone; a node whose replacement fails
keeps running as it was.
-/
namespace SingBox.Provider

/-! ## Nodes and managers -/

inductive Kind where
  | outbound
  | endpoint
  deriving DecidableEq

/-- `option.Outbound` and `option.Endpoint`: `detour` of the dialer options, `outbounds` of a selector,
a load-balancer or a URL test, and the other settings. -/
structure NodeOptions where
  tag : String := ""
  type : String := ""
  detour : String := ""
  outbounds : List String := []
  settings : String := ""
  deriving DecidableEq, Inhabited

/-- The dependencies `UpdateNodes` looks at. -/
def NodeOptions.dependencies (o : NodeOptions) : List String :=
  (if o.detour ≠ "" then [o.detour] else []) ++ o.outbounds

/-- A node of a manager, with the options it was made from. -/
structure Node where
  tag : String
  options : NodeOptions
  deriving DecidableEq

/-- `outboundByTag` of the outbound manager and `endpointByTag` of the endpoint manager. -/
structure Manager where
  nodeByTag : Kind → String → Option Node

namespace Manager
variable (m : Manager)

/-- `Outbound` of the outbound manager, which asks the endpoint manager last. -/
def outbound (tag : String) : Option Node := m.nodeByTag .outbound tag <|> m.nodeByTag .endpoint tag

/-- `Outbound` for an outbound, `Get` of the endpoint manager for an endpoint. -/
def get : Kind → String → Option Node
  | .outbound, tag => m.outbound tag
  | .endpoint, tag => m.nodeByTag .endpoint tag

def set (kind : Kind) (tag : String) (node : Option Node) : Manager :=
  ⟨Function.update m.nodeByTag kind (Function.update (m.nodeByTag kind) tag node)⟩

/-- `Replace` of either manager, once the node has been made and started. -/
def replace (kind : Kind) (node : Node) : Manager := m.set kind node.tag (some node)

/-- `Remove` of either manager. -/
def remove (kind : Kind) (tag : String) : Manager := m.set kind tag none

end Manager

/-- `Adapter`: `outbounds` and `endpoints`, and the options each of them was last made from. -/
structure Adapter where
  providerTag : String
  nodes : Kind → List Node := fun _ => []
  applied : Kind → String → Option NodeOptions := fun _ _ => none

variable (a : Adapter)

/-- `activeOutboundTags` and `activeEndpointTags`. -/
def Adapter.active (kind : Kind) (tag : String) : Bool := (a.nodes kind).any (·.tag = tag)

/-! ## Tags -/

/-- The first of `base`, `base (2)`, `base (3)`, … that has not been seen; one of as many as have been
seen and one more has not. -/
def uniqueTag (seen : List String) (base : String) : String :=
  ((base :: (List.range seen.length).map fun n => base ++ " (" ++ toString (n + 2) ++ ")").find? (· ∉ seen)).getD base

def baseTag (providerTag : String) (kind : Kind) (i : Nat) (o : NodeOptions) : String :=
  if o.tag ≠ "" then providerTag ++ "/" ++ o.tag
  else
    match kind with
    | .outbound => providerTag ++ "/" ++ toString i
    | .endpoint => providerTag ++ "/endpoint-" ++ toString i

/-- A node of an update: `updateNode`. -/
structure UpdateNode where
  tag : String
  kind : Kind
  options : NodeOptions

/-- `resolveOutboundTags` and `resolveEndpointTags`: the nodes behind those in `seen`. -/
def resolveTags (providerTag : String) (kind : Kind) : Nat → List String → List NodeOptions → List UpdateNode
  | _, _, [] => []
  | i, seen, o :: opts =>
    let tag := uniqueTag seen (baseTag providerTag kind i o)
    ⟨tag, kind, o⟩ :: resolveTags providerTag kind (i + 1) (seen ++ [tag]) opts

/-! ## The order -/

/-- The errors of the ordering phase; the last one does not happen. -/
inductive OrderError where
  | duplicate (tag : String)
  | circular (tag : String)
  | notFound (tag : String)
  | removed (tag : String)
  | exhausted

def OrderError.message : OrderError → String
  | .duplicate tag => "duplicate provider node tag: " ++ tag
  | .circular tag => "circular provider dependency: " ++ tag
  | .notFound tag => "provider dependency not found: " ++ tag
  | .removed tag => "provider dependency removed: " ++ tag
  | .exhausted => ""

/-- The new nodes, and which calls of `Replace` fail, with which error. -/
structure Update where
  outbounds : List NodeOptions := []
  endpoints : List NodeOptions := []
  fails : String → Option String := fun _ => none

/-- The nodes of an update; an endpoint must not have the tag of another node. -/
def collectNodes (providerTag : String) (u : Update) : Except OrderError (List UpdateNode) :=
  (resolveTags providerTag .endpoint 0 [] u.endpoints).foldlM
    (fun nodes node => if nodes.any (·.tag = node.tag) then .error (.duplicate node.tag) else .ok (nodes ++ [node]))
    (resolveTags providerTag .outbound 0 [] u.outbounds)

def lookup (nodes : List UpdateNode) (tag : String) : Option UpdateNode := nodes.find? (·.tag = tag)

/-- What `visit` goes by. A node of the old subscription that is not in the new one is no usable
dependency. -/
def graph (m : Manager) (nodes : List UpdateNode) : DepthFirst.Graph String OrderError where
  edges tag := (lookup nodes tag).elim [] (·.options.dependencies)
  inside dep :=
    if (lookup nodes dep).isSome then .ok true
    else if (m.outbound dep).isNone then .error (.notFound dep)
    else if (a.applied .outbound dep).isSome || (a.applied .endpoint dep).isSome then .error (.removed dep)
    else .ok false
  circular := .circular
  exhausted := .exhausted

def orderNodes (m : Manager) (u : Update) : Except OrderError (List UpdateNode × List UpdateNode) := do
  let nodes ← collectNodes a.providerTag u
  let tags ← (graph a m nodes).order (nodes.length + 1) (nodes.map (·.tag))
  return (nodes, tags.filterMap (lookup nodes))

/-! ## Applying -/

/-- The state of the loop over the ordered nodes: `byTag` are `outByTag` and `epByTag`, which may have
a nil node. -/
structure Applying where
  manager : Manager
  applied : Kind → String → Option NodeOptions
  byTag : Kind → String → Option (Option Node) := fun _ _ => none
  updateErr : List String := []

/-- Whether the loop calls `Replace` for a node. -/
def replaces (m : Manager) (applied : Kind → String → Option NodeOptions) (node : UpdateNode) : Bool :=
  (m.get node.kind node.tag).isNone || !a.active node.kind node.tag ||
    (applied node.kind node.tag).getD default ≠ node.options

def applyNode (u : Update) (s : Applying) (node : UpdateNode) : Applying :=
  let setByTag (value : Option Node) := Function.update s.byTag node.kind
    (Function.update (s.byTag node.kind) node.tag (some value))
  let current := s.manager.get node.kind node.tag
  if replaces a s.manager s.applied node then
    match u.fails node.tag with
    | some err =>
      { s with
        updateErr := s.updateErr ++ [node.tag ++ ": " ++ err]
        byTag := if a.active node.kind node.tag then setByTag current else s.byTag }
    | none =>
      let manager := s.manager.replace node.kind ⟨node.tag, node.options⟩
      { s with
        manager
        applied := Function.update s.applied node.kind
          (Function.update (s.applied node.kind) node.tag (some node.options))
        byTag := setByTag (manager.get node.kind node.tag) }
  else { s with byTag := setByTag current }

/-- `removeUseless` and `removeUselessEndpoints`. -/
def removeUseless (kind : Kind) (newTags : List String) (m : Manager) : Manager :=
  (a.nodes kind).foldl (fun m node => if node.tag ∈ newTags then m else m.remove kind node.tag) m

def newTags (nodes : List UpdateNode) (kind : Kind) : List String := (nodes.filter (·.kind = kind)).map (·.tag)

/-- `UpdateNodes`: its errors, the adapter and the managers afterwards. -/
def updateNodes (m : Manager) (u : Update) : Except String (List String) × Adapter × Manager :=
  match orderNodes a m u with
  | .error err => (.error err.message, a, m)
  | .ok (nodes, ordered) =>
    let s := ordered.foldl (applyNode a u) { manager := m, applied := a.applied }
    let manager := removeUseless a .outbound (newTags nodes .outbound) s.manager
    let manager := removeUseless a .endpoint (newTags nodes .endpoint) manager
    (.ok s.updateErr,
      { a with
        nodes := fun kind => (newTags nodes kind).filterMap fun tag => (s.byTag kind tag).join
        applied := fun kind tag => if (s.byTag kind tag).isSome then s.applied kind tag else none },
      manager)

end SingBox.Provider
