import SingBox.Route.Match
/-!
# Sniffing and the client's stream

What a rule walk sniffs, together with what it leaves on the connection, is what
the client sent (`matchLoop_sent`): one lemma for a sniff action, one for a rule
(`matchStep_cases`), and the walk by induction over the rules.
-/
namespace SingBox.Route
open List

/-! ## What one sniff action takes -/

/-- The bytes and packets of the client: what has been sniffed, and the rest. -/
def WalkState.sentOctets (s : WalkState) : List Octet := s.buffers.flatten ++ s.input.remainingOctets
def WalkState.sentPackets (s : WalkState) : List PacketBuffer := s.packetBuffers ++ s.input.remainingPackets

open RouteRule Step

variable (sniffers : List Sniffer) (md : InboundContext)

/-- The loop loses nothing, and what is in the buffer stays there. -/
lemma peekStreamLoop_spec (size : Nat) (earlier : List Octet)
    (sniffError : Option SniffError) (buffer : List Octet) (fields : SniffFields) (remaining : List Octet)
    (reads : List StreamRead) :
    let peeked := peekStreamLoop sniffers size earlier sniffError buffer fields remaining reads
    peeked.buffer ++ peeked.conn.remaining = buffer ++ remaining ∧ buffer <+: peeked.buffer := by
  induction reads generalizing sniffError buffer fields remaining with
  | nil => exact ⟨rfl, prefix_rfl⟩
  | cons read reads ih =>
    cases read with
    | deadline => exact ⟨rfl, prefix_rfl⟩
    | data more failed =>
      simp only [peekStreamLoop]
      split
      · exact ⟨by simp, prefix_append _ _⟩
      split
      · exact ⟨by simp, prefix_append _ _⟩
      split
      · exact ⟨by simp [ih], (prefix_append _ _).trans (ih _ _ _ _).2⟩
      · exact ⟨by simp, prefix_append _ _⟩

def StreamConn.hasData (conn : StreamConn) : Bool :=
  !conn.remaining.isEmpty && match conn.reads with
    | .data _ _ :: _ => true
    | _ => false

lemma peekStream_buffer {size : Nat} (hs : 0 < size) (buffers : List (List Octet))
    (fields : SniffFields) (conn : StreamConn) :
    (peekStream sniffers size buffers fields conn).buffer ≠ [] ↔ conn.hasData = true := by
  rcases conn with ⟨remaining, reads⟩
  rcases reads with _ | ⟨read, reads⟩
  · simp [peekStream, peekStreamLoop, StreamConn.hasData]
  · cases read with
    | deadline => simp [peekStream, peekStreamLoop, StreamConn.hasData]
    | data more failed =>
      cases remaining with
      | nil => simp [peekStream, peekStreamLoop, StreamConn.hasData]
      | cons octet remaining =>
        -- the first read already puts a byte in the buffer
        have hn : ∃ n, min (more + 1) (size - 0) = n + 1 := ⟨min more (size - 1), by omega⟩
        obtain ⟨n, hn⟩ := hn
        simp only [StreamConn.hasData, isEmpty_cons, Bool.not_false, Bool.true_and, iff_true]
        simp only [peekStream, peekStreamLoop, length_nil, hn, take_succ_cons, nil_append]
        split
        · simp
        split
        · simp
        split
        · exact fun h => cons_ne_nil _ _ (prefix_nil.1 (h ▸ (peekStreamLoop_spec ..).2))
        · simp

/-- The packets a reading loop adds to those it starts from, and what it leaves, are what was there. -/
lemma readPackets_sent (env : SniffEnv) (action : SniffAction) (sniffed : List PacketBuffer) (md : InboundContext)
    (remaining : List PacketBuffer) (reads : List PacketRead) :
    let r := readPackets env action sniffed md remaining reads
    r.packetBuffers ++ r.input.remainingPackets = sniffed ++ remaining ∧ r.buffer = none ∧
      r.input.remainingOctets = [] := by
  induction reads generalizing sniffed md remaining with
  | nil => simp [readPackets, Input.remainingPackets, Input.remainingOctets]
  | cons read reads ih =>
    cases read with
    | timeout | failed _ | canceled _ => simp [readPackets, Input.remainingPackets, Input.remainingOctets]
    | packet =>
      cases remaining with
      | nil => simp [readPackets, Input.remainingPackets, Input.remainingOctets]
      | cons packet remaining =>
        simp only [readPackets]
        split
        · simpa using ih (sniffed ++ [packet]) _ remaining
        · simp [Input.remainingPackets, Input.remainingOctets]

/-- What a sniff action takes off the connection it returns. -/
structure Sniffed.Takes (input : Input) (r : Sniffed) : Prop where
  octets : r.buffer.getD [] ++ r.input.remainingOctets = input.remainingOctets
  packets : r.packetBuffers ++ r.input.remainingPackets = input.remainingPackets
  buffer_ne : r.buffer ≠ some []
  packets_of_buffer : r.buffer ≠ none → r.packetBuffers = []

lemma Sniffed.takes_nothing (input : Input) : Sniffed.Takes input { md, input } :=
  ⟨rfl, rfl, by simp, by simp⟩

lemma Sniffed.Takes.no_buffer {input : Input} {r : Sniffed} (h : r.Takes input) (hi : input.remainingOctets = []) :
    r.buffer = none := by
  have ho := h.octets
  rw [hi, append_eq_nil_iff] at ho
  cases hb : r.buffer with
  | none => rfl
  | some buffer =>
    rw [hb] at ho
    exact absurd (hb.trans (congrArg some ho.1)) h.buffer_ne

lemma Peeked.sniffed_takes {peeked : Peeked} {conn : StreamConn} (action : SniffAction)
    (h : peeked.buffer ++ peeked.conn.remaining = conn.remaining) :
    Sniffed.Takes (.stream conn) (peeked.sniffed md action) := by
  by_cases hb : peeked.buffer = []
  · refine ⟨?_, rfl, by simp [Peeked.sniffed, hb], fun _ => rfl⟩
    simpa [Peeked.sniffed, hb, Input.remainingOctets] using h
  refine ⟨?_, rfl, by simp [Peeked.sniffed, hb], fun _ => rfl⟩
  simpa [Peeked.sniffed, hb, Input.remainingOctets] using h

section
variable (env : SniffEnv)

section
variable (md : InboundContext)

section
variable (action : SniffAction)
include action

lemma sniffStream_takes (buffers : List (List Octet)) (conn : StreamConn) :
    Sniffed.Takes (.stream conn) (sniffStream env md action buffers conn) := by
  unfold sniffStream
  split
  · exact Sniffed.takes_nothing md _
  split
  · exact Sniffed.takes_nothing md _
  · exact Peeked.sniffed_takes md action (peekStreamLoop_spec ..).1

lemma readPackets_takes (conn : PacketConn) :
    Sniffed.Takes (.packets conn) (readPackets env action [] md conn.remaining conn.reads) := by
  obtain ⟨hp, hb, ho⟩ := readPackets_sent env action [] md conn.remaining conn.reads
  exact ⟨by rw [hb]; exact ho, hp, by simp [hb], by simp [hb]⟩

lemma sniffPackets_takes (packetBuffers : List PacketBuffer) (conn : PacketConn) :
    Sniffed.Takes (.packets conn) (sniffPackets env md action packetBuffers conn) := by
  unfold sniffPackets
  split
  · exact Sniffed.takes_nothing md _
  split
  · exact Sniffed.takes_nothing md _
  rcases resniffPackets env action packetBuffers md with ⟨settled, md'⟩
  cases settled with
  | true => exact ⟨rfl, rfl, by simp, by simp⟩
  | false => exact readPackets_takes env md' action conn

lemma actionSniff_takes (input : Input) (buffers : List (List Octet)) (packetBuffers : List PacketBuffer) :
    Sniffed.Takes input (actionSniff env md action input buffers packetBuffers) := by
  unfold actionSniff
  split
  · exact Sniffed.takes_nothing md input
  split
  · exact Sniffed.takes_nothing md input
  · cases input with
    | none => exact Sniffed.takes_nothing md _
    | stream conn => exact sniffStream_takes env md action buffers conn
    | packets conn => exact sniffPackets_takes env md action packetBuffers conn

end
end

/-! ## One rule of the walk -/

/-- What the rule sniffs in a state, if it is a sniff rule that matches there. -/
def RouteRule.sniffs (rule : RouteRule) (s : WalkState) : Option Sniffed :=
  let (matched, md) := rule.matches env.toRouteEnv s.md
  match rule.action with
  | .sniff action =>
    if !rule.disabled && matched then some (actionSniff env md action s.input s.buffers s.packetBuffers) else none
  | _ => none

def RouteRule.newBuffers (rule : RouteRule) (s : WalkState) : List (List Octet) :=
  (rule.sniffs env s).elim [] (·.buffer.toList)

def RouteRule.newPackets (rule : RouteRule) (s : WalkState) : List PacketBuffer :=
  (rule.sniffs env s).elim [] (·.packetBuffers)

end

def Step.Reaches {σ : Type} (step : Step σ σ) (s : σ) : Prop := step = .next s ∨ step = .select s

variable {σ : Type} {s t : WalkState} {s' : σ} {env : SniffEnv} {index : Nat} {rules : List RouteRule}

lemma Step.reaches_next {s : σ} : (Step.next s : Step σ σ).Reaches s' ↔ s = s' := by
  simp [Step.Reaches]

lemma Step.reaches_select {s : σ} : (select s : Step σ σ).Reaches s' ↔ s = s' := by
  simp [Step.Reaches]

variable {err : String} {rule : RouteRule}

lemma Step.not_reaches_fail {s : σ} : ¬ (fail err s : Step σ σ).Reaches s' := by
  simp [Step.Reaches]

lemma matchedStep_metadata {action : RuleAction} {s' : WalkState}
    (hs : ∀ a, action ≠ .sniff a) (h : (matchedStep env action s).Reaches s') : s' = { s with md := s'.md } := by
  cases action with
  | sniff a => exact absurd rfl (hs a)
  | direct | hijackDNS | reject _ _ _ | routeOptions _ =>
    simp only [matchedStep, reaches_next, reaches_select] at h
    subst h; rfl
  | route _ _ | bypass _ _ =>
    simp only [matchedStep] at h
    split at h <;> simp only [reaches_next, reaches_select] at h <;> subst h <;> rfl
  | sniffOverrideDestination =>
    simp only [matchedStep, reaches_next] at h
    split at h <;> subst h <;> rfl
  | resolve a =>
    simp only [matchedStep] at h
    split at h
    · exact absurd h not_reaches_fail
    · rw [reaches_next] at h; subst h; rfl

lemma sniff_reaches {action : SniffAction} {s' : WalkState} (h : (s.sniff env action).Reaches s') :
    let r := actionSniff env s.md action s.input s.buffers s.packetBuffers
    s'.buffers = s.buffers ++ r.buffer.toList ∧ s'.packetBuffers = s.packetBuffers ++ r.packetBuffers ∧
      s'.input = r.input := by
  have htakes := actionSniff_takes env s.md action s.input s.buffers s.packetBuffers
  unfold WalkState.sniff at h
  generalize actionSniff env s.md action s.input s.buffers s.packetBuffers = r at h htakes ⊢
  rcases r with ⟨md, buffer, packetBuffers, fatalErr, input⟩
  cases fatalErr with
  | some err => exact absurd h not_reaches_fail
  | none =>
    rw [reaches_next] at h
    subst h
    cases buffer with
    | none => exact ⟨(append_nil _).symm, rfl, rfl⟩
    | some buffer =>
      have hp : packetBuffers = [] := htakes.packets_of_buffer (by simp)
      exact ⟨rfl, by simp [hp], rfl⟩

/-- What a rule does to the sniffed data and the connection: nothing, unless it sniffs. -/
lemma matchStep_cases {s' : WalkState} (h : (matchStep env rule s).Reaches s') :
    (rule.sniffs env s = none ∧ s' = { s with md := s'.md }) ∨
      ∃ r, rule.sniffs env s = some r ∧ r.Takes s.input ∧ s'.buffers = s.buffers ++ r.buffer.toList ∧
        s'.packetBuffers = s.packetBuffers ++ r.packetBuffers ∧ s'.input = r.input := by
  unfold matchStep at h
  rcases hm : rule.matches env.toRouteEnv s.md with ⟨matched, md⟩
  rw [hm] at h
  by_cases hsniff : ∃ a, rule.action = .sniff a
  · obtain ⟨a, ha⟩ := hsniff
    cases hd : rule.disabled with
    | true =>
      simp only [hd, if_true, reaches_next] at h
      subst h
      exact .inl ⟨by simp [sniffs, ha, hd], rfl⟩
    | false =>
      cases matched with
      | false =>
        simp only [hd, Bool.false_eq_true, if_false, reaches_next] at h
        subst h
        exact .inl ⟨by simp [sniffs, ha, hm], rfl⟩
      | true =>
        simp only [hd, Bool.false_eq_true, if_false, if_true, ha, matchedStep] at h
        exact .inr ⟨_, by simp [sniffs, ha, hd, hm], actionSniff_takes .., sniff_reaches (s := { s with md }) h⟩
  · have hno : ∀ a, rule.action ≠ .sniff a := fun a ha => hsniff ⟨a, ha⟩
    refine .inl ⟨?_, ?_⟩
    · unfold sniffs
      cases ha : rule.action <;> first | rfl | exact absurd ha (hno _)
    simp only at h
    split at h
    · rw [reaches_next] at h; subst h; rfl
    split at h
    · rw [matchedStep_metadata hno h]
    · rw [reaches_next] at h; subst h; rfl

/-! ## The walk -/

/-- The walk over the rules from a state comes to a rule in a state. -/
inductive Visits (env : SniffEnv) : List RouteRule → WalkState → RouteRule → WalkState → Prop where
  | here {rule : RouteRule} {rules : List RouteRule} {s : WalkState} : Visits env (rule :: rules) s rule s
  | next {rule r : RouteRule} {rules : List RouteRule} {s s' t : WalkState} :
    matchStep env rule s = .next s' → Visits env rules s' r t → Visits env (rule :: rules) s r t

/-- The state in which a walk ends, with or without a selected rule. -/
def Matched.Ends (m : Matched) (s : WalkState) : Prop :=
  m = .unmatched s ∨ ∃ index action, m = .selected index action s

@[simp] lemma Matched.ends_unmatched : (Matched.unmatched s).Ends t ↔ s = t := by
  simp [Matched.Ends]

@[simp] lemma Matched.ends_selected {action : RuleAction} : (Matched.selected index action s).Ends t ↔ s = t := by
  simp [Matched.Ends]

@[simp] lemma Matched.not_ends_failed {index : Option Nat} :
    ¬ (Matched.failed index err).Ends t := by
  simp [Matched.Ends]

lemma matchLoop_ends (h : (matchLoop env index (rule :: rules) s).Ends t) :
    (matchStep env rule s).Reaches t ∧ (∃ t, matchStep env rule s = .select t) ∨
      ∃ s', matchStep env rule s = .next s' ∧ (matchLoop env (index + 1) rules s').Ends t := by
  rw [matchLoop] at h
  cases hstep : matchStep env rule s with
  | next s' =>
    rw [hstep] at h
    exact .inr ⟨s', rfl, h⟩
  | select s' =>
    simp only [hstep, Matched.ends_selected] at h
    subst h
    exact .inl ⟨.inr rfl, s', rfl⟩
  | fail err s' => simp [hstep] at h

lemma matchLoop_inv {P : WalkState → Prop}
    (hstep : ∀ rule s s', P s → (matchStep env rule s).Reaches s' → P s') (hs : P s)
    (h : (matchLoop env index rules s).Ends t) : P t := by
  induction rules generalizing index s with
  | nil =>
    rw [matchLoop, Matched.ends_unmatched] at h
    exact h ▸ hs
  | cons rule rules ih =>
    rcases matchLoop_ends h with ⟨hr, -⟩ | ⟨s', hn, h'⟩
    · exact hstep rule s t hs hr
    · exact ih (hstep rule s s' hs (.inl hn)) h'

section
variable {β : Type} {env : SniffEnv} {held : WalkState → List β} {taken : RouteRule → WalkState → List β}
  (hstep : ∀ rule s s', (matchStep env rule s).Reaches s' → held s' = held s ++ taken rule s)
include hstep

lemma matchLoop_held (h : (matchLoop env index rules s).Ends t) : (held s).length ≤ (held t).length := by
  refine matchLoop_inv (P := fun t => (held s).length ≤ (held t).length) ?_ le_rfl h
  intro rule s₁ s₂ hle hr
  rw [hstep rule s₁ s₂ hr, length_append]
  omega

/-- A walk that collects pieces ends with at most one just if no rule on its way takes one while
one is held, or more than one. -/
lemma matchLoop_held_le_one (hs : (held s).length ≤ 1) (h : (matchLoop env index rules s).Ends t) :
    (held t).length ≤ 1 ↔
      ∀ rule u, Visits env rules s rule u → (held u).length + (taken rule u).length ≤ 1 := by
  induction rules generalizing index s with
  | nil =>
    rw [matchLoop, Matched.ends_unmatched] at h
    subst h
    refine ⟨fun _ rule u hv => ?_, fun _ => hs⟩
    cases hv
  | cons rule rules ih =>
    rcases matchLoop_ends h with ⟨hr, t', hsel⟩ | ⟨s', hn, h'⟩
    · -- the walk ends here, and this is the only rule it comes to
      have ht : (held t).length = (held s).length + (taken rule s).length := by
        rw [hstep rule s t hr, length_append]
      refine ⟨fun hle r u hv => ?_, fun hall => ht ▸ hall rule s .here⟩
      cases hv with
      | here => omega
      | next hn => rw [hsel] at hn; cases hn
    · have hs' : (held s').length = (held s).length + (taken rule s).length := by
        rw [hstep rule s s' (.inl hn), length_append]
      by_cases hle' : (held s').length ≤ 1
      · rw [ih hle' h']
        refine ⟨fun hall r u hv => ?_, fun hall r u hv => hall r u (.next hn hv)⟩
        cases hv with
        | here => omega
        | next hn' hv =>
          rw [hn] at hn'
          cases hn'
          exact hall r u hv
      · have hmono := matchLoop_held hstep h'
        refine ⟨fun hle => by omega, fun hall => ?_⟩
        have := hall rule s .here
        omega

end

section
variable (env : SniffEnv) (rule : RouteRule) (s s' : WalkState) (h : (matchStep env rule s).Reaches s')
include h

lemma matchStep_buffers : s'.buffers = s.buffers ++ rule.newBuffers env s := by
  rcases matchStep_cases h with ⟨hn, h⟩ | ⟨r, hr, -, hb, -⟩
  · rw [h]; simp [newBuffers, hn]
  · simp [newBuffers, hr, hb]

lemma matchStep_packets : s'.packetBuffers = s.packetBuffers ++ rule.newPackets env s := by
  rcases matchStep_cases h with ⟨hn, h⟩ | ⟨r, hr, -, -, hp, -⟩
  · rw [h]; simp [newPackets, hn]
  · simp [newPackets, hr, hp]

end

/-- Nothing is lost: the walk keeps the client's bytes and packets, and never holds an empty buffer. -/
lemma matchLoop_sent (hs : ∀ b ∈ s.buffers, b ≠ []) (h : (matchLoop env index rules s).Ends t) :
    t.sentOctets = s.sentOctets ∧ t.sentPackets = s.sentPackets ∧ ∀ b ∈ t.buffers, b ≠ [] := by
  refine matchLoop_inv (P := fun t => t.sentOctets = s.sentOctets ∧ t.sentPackets = s.sentPackets ∧
    ∀ b ∈ t.buffers, b ≠ []) ?_ ⟨rfl, rfl, hs⟩ h
  rintro rule s₁ s₂ ⟨ho, hp, hne⟩ hr
  rcases matchStep_cases hr with ⟨-, h⟩ | ⟨r, -, htakes, hb, hpb, hi⟩
  · rw [h]; exact ⟨ho, hp, hne⟩
  refine ⟨?_, ?_, ?_⟩
  · rw [← ho, WalkState.sentOctets, WalkState.sentOctets, ← htakes.octets, hb, hi]
    cases r.buffer <;> simp
  · rw [← hp, WalkState.sentPackets, WalkState.sentPackets, ← htakes.packets, hpb, hi, append_assoc]
  rw [hb]
  intro b hmem
  rcases mem_append.1 hmem with hmem | hmem
  · exact hne b hmem
  rintro rfl
  exact htakes.buffer_ne (Option.mem_toList.1 hmem)

end SingBox.Route
