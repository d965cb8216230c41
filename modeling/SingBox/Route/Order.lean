import SingBox.Route.Stream
import SingBox.Lib.Lists
/-!
# The order in which a connection is handed over

Whether the reader of a routed connection gets the client's bytes in order
depends on how the sniffed pieces are wrapped around the connection again:
stream buffers, and the packets of a hijacked connection, come out last piece
first, so the order is right just while there is at most one piece.
-/
namespace SingBox.Route
open List
variable {rule : RouteRule} {network : String} {c : Conn Octet}

/-! ## Which rules read -/

/-- In this state the rule reads bytes from the stream: it is a sniff rule that matches, nothing
makes it skip the sniffing, and the connection has data. -/
def RouteRule.readsStream (env : SniffEnv) (rule : RouteRule) (s : WalkState) : Bool :=
  let (matched, md) := rule.matches env.toRouteEnv s.md
  match rule.action, s.input with
  | .sniff action, .stream conn =>
    !rule.disabled && matched && !skip md && md.protocol = "" &&
      !(action.streamSniffers = [] && action.packetSniffers ≠ []) && !previouslyFailed md action && conn.hasData
  | _, _ => false

lemma peekStream_sniffed_buffer (sniffers : List Sniffer) {size : Nat} (hs : 0 < size)
    (buffers : List (List Octet)) (fields : SniffFields) (conn : StreamConn) (md : InboundContext)
    (action : SniffAction) : ((peekStream sniffers size buffers fields conn).sniffed md action).buffer.toList.length =
      if conn.hasData then 1 else 0 := by
  have hbuf := peekStream_buffer sniffers hs buffers fields conn
  unfold Peeked.sniffed
  cases hdata : conn.hasData with
  | true => simp [hbuf.2 hdata]
  | false =>
    rw [hdata] at hbuf
    have hempty := not_not.1 (fun h => Bool.false_ne_true (hbuf.1 h))
    simp [hempty]

variable {env : SniffEnv} {md : InboundContext} {conn : StreamConn} {s : WalkState} {target : Target}
  {rules : List RouteRule}

lemma actionSniff_buffer {action : SniffAction} {buffers : List (List Octet)} {packetBuffers : List PacketBuffer} :
    (actionSniff env md action (.stream conn) buffers packetBuffers).buffer.toList.length =
      if !skip md && md.protocol = "" && !(action.streamSniffers = [] && action.packetSniffers ≠ []) &&
        !previouslyFailed md action && conn.hasData then 1 else 0 := by
  unfold actionSniff sniffStream
  cases hskip : skip md with
  | true => simp
  | false =>
    by_cases hproto : md.protocol = ""
    · cases honly : (decide (action.streamSniffers = []) && decide (action.packetSniffers ≠ [])) with
      | true => simp [hproto]
      | false =>
        cases hprev : previouslyFailed md action with
        | true => simp [hproto]
        | false =>
          simp [hproto, peekStream_sniffed_buffer _ env.bufferSize_pos]
    · simp [hproto]

lemma newBuffers_length :
    (rule.newBuffers env s).length = if rule.readsStream env s then 1 else 0 := by
  unfold RouteRule.newBuffers RouteRule.readsStream RouteRule.sniffs
  rcases rule.matches env.toRouteEnv s.md with ⟨matched, md⟩
  cases ha : rule.action with
  | sniff action =>
    cases hd : rule.disabled with
    | true => cases s.input <;> simp
    | false =>
      cases matched with
      | false => cases s.input <;> simp
      | true =>
        cases hi : s.input with
        | stream conn => simpa using actionSniff_buffer
        | none =>
          simp [(actionSniff_takes env md action .none s.buffers s.packetBuffers).no_buffer rfl]
        | packets conn =>
          simp [(actionSniff_takes env md action (.packets conn) s.buffers s.packetBuffers).no_buffer rfl]
  | _ => cases s.input <;> rfl

/-! ## Handing over -/

lemma wrapBuffers_yields {α : Type} (conn : Conn α) (buffers : List (List α)) :
    (wrapBuffers conn buffers).yields = buffers.reverse.flatten ++ conn.yields := by
  induction buffers generalizing conn with
  | nil => rfl
  | cons buffer buffers ih =>
    rw [wrapBuffers, foldl_cons, ← wrapBuffers, ih]
    simp [Conn.yields]

lemma selectOutbound_ends {m : Matched} {chain : Option (List Outbound)}
    (h : selectOutbound env network m = .ok (chain, s)) : m.Ends s := by
  have map_ok {α : Type} {x : Except String α} {f : α → Option (List Outbound) × WalkState} {t : WalkState}
      (hf : ∀ a, (f a).2 = t) (hx : x.map f = .ok (chain, s)) : t = s := by
    cases x with
    | error e => cases hx
    | ok a =>
      have ha : f a = (chain, s) := Except.ok.inj hx
      rw [← hf a, ha]
  cases m with
  | failed index err => cases h
  | unmatched t => exact Matched.ends_unmatched.2 (map_ok (fun _ => rfl) h)
  | selected index action t =>
    rw [Matched.ends_selected]
    cases action with
    | route tag _ | bypass tag _ =>
      obtain ⟨outbound, -, h⟩ := named_outbound h
      exact map_ok (fun _ => rfl) h
    | reject method _ _ => cases method <;> cases h
    | hijackDNS => exact (Prod.mk.inj (Except.ok.inj h)).2
    | routeOptions _ | direct | sniff _ | sniffOverrideDestination | resolve _ => exact map_ok (fun _ => rfl) h

def EntersWalk (md : InboundContext) : Prop := md.inboundDetour = "" ∧ hijacksTun md = false

lemma injectDetour_handed {α : Type} {injectable : Bool × Bool → Bool} {remaining : List α}
    {conn : Conn α} (h : injectDetour env network injectable md remaining = .handed target conn) :
    target = .inbound md.inboundDetour ∧ conn = .raw remaining := by
  unfold injectDetour at h
  split at h
  · cases h
  split at h
  · cases h
  split at h
  · cases h
    exact ⟨rfl, rfl⟩
  · cases h

lemma matchRule_ends {input : Input} (h : (matchRule env rules md input).Ends s) :
    ∃ md', prepareMatchMetadata env.toRouteEnv md = .ok md' ∧
      (matchLoop env 0 rules { md := md', input }).Ends s := by
  unfold matchRule at h
  split at h
  · exact absurd h Matched.not_ends_failed
  rename_i md' hmd
  exact ⟨md', hmd, h⟩

/-- How a stream connection is handed over: untouched, or wrapped in what the walk sniffed. -/
lemma routeConnection_handed (h : routeConnection env rules md conn = .handed target c) :
    (¬ EntersWalk md ∧ c = .raw conn.remaining) ∨
      (EntersWalk md ∧ ∃ md' s, prepareMatchMetadata env.toRouteEnv { md with network := networkTCP } = .ok md' ∧
        (matchLoop env 0 rules { md := md', input := .stream conn }).Ends s ∧
        c = wrapBuffers (.raw s.input.remainingOctets) s.buffers) := by
  unfold routeConnection at h
  split at h
  · rename_i hdetour
    exact .inl ⟨fun he => hdetour he.1, (injectDetour_handed h).2⟩
  rename_i hdetour
  simp only at h
  split at h
  · cases h
  split at h
  · rename_i htun
    exact .inl ⟨fun he => Bool.false_ne_true (he.2.symm.trans htun), (Routed.handed.inj h).2.symm⟩
  rename_i htun
  refine .inr ⟨⟨not_not.1 hdetour, Bool.eq_false_iff.2 htun⟩, ?_⟩
  split at h
  · cases h
  rename_i chain s hsel
  obtain ⟨md', hmd, hends⟩ := matchRule_ends (selectOutbound_ends hsel)
  exact ⟨md', s, hmd, hends, (Routed.handed.inj h).2.symm⟩

/-- How a packet connection is handed over: the outbound gets the packets from the first to the
last, the DNS hijack from the last to the first. -/
lemma routePacketConnection_handed {conn : PacketConn} {c : Conn PacketBuffer}
    (h : routePacketConnection env rules md conn = .handed target c) : (¬ EntersWalk md ∧ c.yields = conn.remaining) ∨
      (EntersWalk md ∧ ∃ md' s, prepareMatchMetadata env.toRouteEnv { md with network := networkUDP } = .ok md' ∧
        (matchLoop env 0 rules { md := md', input := .packets conn }).Ends s ∧
        (target = .hijackDNS ∧ c.yields = s.packetBuffers.reverse ++ s.input.remainingPackets ∨
          (∃ chain, target = .outbound chain) ∧ c.yields = s.packetBuffers ++ s.input.remainingPackets)) := by
  unfold routePacketConnection at h
  split at h
  · rename_i hdetour
    rw [(injectDetour_handed h).2]
    exact .inl ⟨fun he => hdetour he.1, rfl⟩
  rename_i hdetour
  simp only at h
  split at h
  · rename_i htun
    rw [← (Routed.handed.inj h).2]
    exact .inl ⟨fun he => Bool.false_ne_true (he.2.symm.trans htun), rfl⟩
  rename_i htun
  refine .inr ⟨⟨not_not.1 hdetour, Bool.eq_false_iff.2 htun⟩, ?_⟩
  split at h
  · cases h
  · rename_i s hsel
    obtain ⟨md', hmd, hends⟩ := matchRule_ends (selectOutbound_ends hsel)
    obtain ⟨rfl, rfl⟩ := Routed.handed.inj h
    exact ⟨md', s, hmd, hends, .inl ⟨rfl, rfl⟩⟩
  rename_i chain s hsel
  obtain ⟨md', hmd, hends⟩ := matchRule_ends (selectOutbound_ends hsel)
  obtain ⟨rfl, rfl⟩ := Routed.handed.inj h
  refine ⟨md', s, hmd, hends, .inr ⟨⟨chain, rfl⟩, ?_⟩⟩
  rw [wrapBuffers_yields, ← map_reverse, reverse_reverse, Conn.yields, ← flatMap_def,
    flatMap_singleton']

/-! ## When the order is kept -/

/-- No sniff action reads from the stream once an earlier one has. -/
def StreamSniffedOnce (env : SniffEnv) (rules : List RouteRule) (md : InboundContext) (conn : StreamConn) : Prop :=
  EntersWalk md → ∀ md', prepareMatchMetadata env.toRouteEnv { md with network := networkTCP } = .ok md' →
    ∀ rule s, Visits env rules { md := md', input := .stream conn } rule s → s.buffers ≠ [] →
      rule.readsStream env s = false

def PacketSniffedOnce (env : SniffEnv) (rules : List RouteRule) (md : InboundContext) (conn : PacketConn) : Prop :=
  EntersWalk md → ∀ md', prepareMatchMetadata env.toRouteEnv { md with network := networkUDP } = .ok md' →
    ∀ rule s, Visits env rules { md := md', input := .packets conn } rule s →
      s.packetBuffers.length + (rule.newPackets env s).length ≤ 1

/-- Where reading only ever happens with nothing held, at most one buffer is held and read. -/
lemma held_and_read_le_one {u : WalkState} (hv : Visits env rules s rule u) (hs : s.buffers.length ≤ 1)
    (hall : ∀ rule u, Visits env rules s rule u → u.buffers ≠ [] → rule.readsStream env u = false) :
    u.buffers.length + (rule.newBuffers env u).length ≤ 1 := by
  have here {rule : RouteRule} {rules : List RouteRule} {s : WalkState} (hs : s.buffers.length ≤ 1)
      (hall : ∀ r u, Visits env (rule :: rules) s r u → u.buffers ≠ [] → r.readsStream env u = false) :
      s.buffers.length + (rule.newBuffers env s).length ≤ 1 := by
    rw [newBuffers_length]
    by_cases hne : s.buffers = []
    · simp only [hne, length_nil]
      split <;> omega
    rw [hall rule s .here hne]
    simpa using hs
  induction hv with
  | here => exact here hs hall
  | next hn _ ih =>
    refine ih ?_ (fun r u hv => hall r u (.next hn hv))
    rw [matchStep_buffers env _ _ _ (.inl hn), length_append]
    exact here hs hall

lemma streamSniffedOnce_iff (hs : s.buffers = []) :
    (∀ rule u, Visits env rules s rule u → u.buffers.length + (rule.newBuffers env u).length ≤ 1) ↔
      ∀ rule u, Visits env rules s rule u → u.buffers ≠ [] → rule.readsStream env u = false := by
  constructor
  · intro hall rule u hv hne
    have hle := hall rule u hv
    rw [newBuffers_length] at hle
    have hpos := length_pos_iff.2 hne
    cases hr : rule.readsStream env u with
    | false => rfl
    | true =>
      rw [hr, if_pos rfl] at hle
      omega
  · intro hall rule u hv
    exact held_and_read_le_one hv (by simp [hs]) hall

lemma stream_order (hd : conn.remaining.Nodup) (h : routeConnection env rules md conn = .handed target c) :
    c.yields.Perm conn.remaining ∧ (c.yields = conn.remaining ↔ StreamSniffedOnce env rules md conn) := by
  rcases routeConnection_handed h with ⟨hno, rfl⟩ | ⟨hwalk, md', s, hmd, hends, rfl⟩
  · exact ⟨.refl _, fun _ he => absurd he hno, fun _ => rfl⟩
  obtain ⟨hsent, -, hne⟩ := matchLoop_sent (by simp) hends
  replace hsent : s.buffers.flatten ++ s.input.remainingOctets = conn.remaining := hsent
  rw [wrapBuffers_yields, Conn.yields, ← hsent]
  refine ⟨List.Perm.append_right _ (reverse_perm _).flatten, ?_⟩
  rw [append_left_inj, Lists.reverse_flatten_eq_iff hne (hsent ▸ hd).of_append_left,
    matchLoop_held_le_one (matchStep_buffers env) (by simp) hends, streamSniffedOnce_iff rfl]
  constructor
  · intro hall _ md'' hmd''
    obtain rfl : md' = md'' := Except.ok.inj (hmd.symm.trans hmd'')
    exact hall
  · intro hall
    exact hall hwalk md' hmd

/-- A packet connection comes out in order, the hijacked one just if no two packets are sniffed. -/
lemma packet_order {conn : PacketConn} (hd : conn.remaining.Nodup) {c : Conn PacketBuffer}
    (h : routePacketConnection env rules md conn = .handed target c) : c.yields.Perm conn.remaining ∧
      (c.yields = conn.remaining ↔ target = .hijackDNS → PacketSniffedOnce env rules md conn) := by
  rcases routePacketConnection_handed h with ⟨hno, hy⟩ | ⟨hwalk, md', s, hmd, hends, hy⟩
  · rw [hy]
    exact ⟨.refl _, fun _ _ he => absurd he hno, fun _ => rfl⟩
  obtain ⟨-, hsent, -⟩ := matchLoop_sent (by simp) hends
  replace hsent : s.packetBuffers ++ s.input.remainingPackets = conn.remaining := hsent
  rcases hy with ⟨rfl, hy⟩ | ⟨⟨chain, rfl⟩, hy⟩
  · rw [hy, ← hsent]
    refine ⟨List.Perm.append_right _ (reverse_perm _), ?_⟩
    rw [append_left_inj, Lists.reverse_eq_iff (hsent ▸ hd).of_append_left,
      matchLoop_held_le_one (matchStep_packets env) (by simp) hends]
    constructor
    · intro hall _ _ md'' hmd''
      obtain rfl : md' = md'' := Except.ok.inj (hmd.symm.trans hmd'')
      exact hall
    · intro hall
      exact hall rfl hwalk md' hmd
  · rw [hy, hsent]
    exact ⟨.refl _, by simp⟩

/-- Routing loses and duplicates nothing of what the client sends. A stream comes out in the order
it was sent in just if at most one sniff action reads from it; packets always come out in order for
an outbound, and for the DNS hijack just if at most one was sniffed. -/
theorem routing_keeps_order (env : SniffEnv) (rules : List RouteRule) (md : InboundContext) :
    (∀ (client : List UInt8) (reads : List StreamRead) (target : Target) (conn : Conn Octet),
      routeConnection env rules md ⟨client.zipIdx, reads⟩ = .handed target conn →
        conn.yields.Perm client.zipIdx ∧
        (conn.yields = client.zipIdx ↔ StreamSniffedOnce env rules md ⟨client.zipIdx, reads⟩)) ∧
    (∀ (packets : List Packet) (reads : List PacketRead) (target : Target) (conn : Conn PacketBuffer),
      routePacketConnection env rules md ⟨packets.zipIdx, reads⟩ = .handed target conn →
        conn.yields.Perm packets.zipIdx ∧
        (conn.yields = packets.zipIdx ↔
          target = .hijackDNS → PacketSniffedOnce env rules md ⟨packets.zipIdx, reads⟩)) := by
  refine ⟨?_, ?_⟩
  · intro client reads target conn h
    exact stream_order (Lists.nodup_zipIdx client) h
  intro packets reads target conn h
  exact packet_order (Lists.nodup_zipIdx packets) h

/-! ## Two sniff actions -/

def blindSniffer : Sniffer := fun fields _ => (some ⟨false⟩, fields)

def twoSniffs : List RouteRule :=
  [always (.sniff { snifferNames := ["http"], streamSniffers := [blindSniffer] }),
    always (.sniff { snifferNames := ["tls"], streamSniffers := [blindSniffer] })]

/-- The client sends 1, 2, 3; the outbound reads 2, 1, 3. -/
theorem second_sniff_reorders : ∃ target conn, routeConnection SniffEnv.bare twoSniffs {}
        ⟨[1, 2, 3].zipIdx, [.data 0 false, .data 0 false]⟩ = .handed target conn ∧
      conn.yields.map Prod.fst = [2, 1, 3] :=
  ⟨_, _, rfl, rfl⟩

/-- With the first of the two sniff actions alone the stream is sniffed once. -/
theorem routing_keeps_order_one_sniff : StreamSniffedOnce SniffEnv.bare (twoSniffs.take 1) {}
      ⟨[1, 2, 3].zipIdx, [.data 0 false, .data 0 false]⟩ := by
  obtain ⟨target, conn, h, hy⟩ : ∃ target conn, routeConnection SniffEnv.bare (twoSniffs.take 1) {}
      ⟨[1, 2, 3].zipIdx, [.data 0 false, .data 0 false]⟩ = .handed target conn ∧
        conn.yields = [1, 2, 3].zipIdx := ⟨_, _, rfl, rfl⟩
  exact ((routing_keeps_order SniffEnv.bare (twoSniffs.take 1) {}).1 _ _ target conn h).2.1 hy

end SingBox.Route
