import SingBox.Dns.Transport.ExactlyOnce
/-!
# Responses and the connection they come from

IDs are shared by all connections, and `recvLoop` completes whatever query is
stored under the ID of a message. `answers_from_own_conn`: the response is the
query's own as long as a connection only delivers IDs that were sent on it, and
an ID goes to another connection only after the old one is drained.
-/
namespace SingBox.Dns.Transport
open List Option
variable {conn : MultiplexConn} {actions : List Action}

/-- A message of `conn` waits to be completed. -/
def Action.completesFrom (conn : MultiplexConn) : Action → Bool
  | .complete c _ => c = conn
  | _ => false

@[simp] def Outcome.Own : Outcome → Prop
  | .response _ readFrom writtenTo => readFrom = writtenTo
  | .failure _ => True

/-- What is known of an action: `sent` holds the IDs that were sent, with their connections. -/
def Action.Sound (sent : List (UInt16 × MultiplexConn)) : Action → Prop
  | .complete conn message => (message.id, conn) ∈ sent
  | .callback _ outcome => outcome.Own
  | _ => True

@[simp] def Action.Plain : Action → Prop
  | .complete _ _ => False
  | .callback _ outcome => outcome.Own
  | _ => True

lemma Action.Plain.sound {action : Action} (h : action.Plain) (sent : List (UInt16 × MultiplexConn)) :
    action.Sound sent ∧ ∀ conn, action.completesFrom conn = false := by
  cases action <;> first | exact h.elim | exact ⟨h, fun _ => rfl⟩

/-- The message that a receive loop reads, by its ID and its connection. -/
def Action.received : Action → QueryMultiplexer.Choice → Option (UInt16 × MultiplexConn)
  | .recvLoop conn, .reads (some message) => some (message.id, conn)
  | _, _ => none

def Action.registersOn : Action → Option MultiplexConn
  | .register _ conn _ => some conn
  | _ => none

namespace QueryMultiplexer
variable {m m' : QueryMultiplexer}

def Event.choice : Event → Option Choice
  | .run _ c => some c
  | _ => none

section
variable (m : QueryMultiplexer)

/-- The IDs that were given to a query, with its connection. -/
def sent : List (UInt16 × MultiplexConn) := m.registrations.map fun r => (r.queryId, r.conn)

/-- Nothing more comes from `conn`: a read failed, and no message that was read is left. -/
def Drained (conn : MultiplexConn) : Prop :=
  conn ∈ m.readFailed ∧ ∀ actions ∈ m.goroutines, ∀ action ∈ actions, action.completesFrom conn = false

def freeQueryId : UInt16 :=
  (nextQueryId (fun queryId => (m.lookup queryId).isSome) m.queryId (2 ^ 16) m.queryId).1

/-- A message carries an ID that was sent on its connection, which has not failed; an ID is given to a query on
a connection when every other connection it was sent on is drained. -/
def Proper (action : Action) (c : Choice) : Prop :=
  (∀ r ∈ action.received c, r ∈ m.sent ∧ r.2 ∉ m.readFailed) ∧
  ∀ conn ∈ action.registersOn, ∀ s ∈ m.sent, s.1 = m.freeQueryId → s.2 ≠ conn → m.Drained s.2

def ProperStep (e : Event) : Prop :=
  ∀ action ∈ m.nextAction e, ∀ c ∈ e.choice, m.Proper action c

end

instance (m : QueryMultiplexer) (conn : MultiplexConn) : Decidable (m.Drained conn) :=
  inferInstanceAs (Decidable (_ ∧ _))

instance (m : QueryMultiplexer) (action : Action) (c : Choice) : Decidable (m.Proper action c) :=
  inferInstanceAs (Decidable (_ ∧ _))

instance (m : QueryMultiplexer) (e : Event) : Decidable (m.ProperStep e) :=
  inferInstanceAs (Decidable (∀ action ∈ m.nextAction e, ∀ c ∈ e.choice, m.Proper action c))

/-! ## What every step keeps -/

structure Matched (m : QueryMultiplexer) : Prop where
  others : ∀ e ∈ m.queries, ∀ s ∈ m.sent, s.1 = e.1 → s.2 ≠ e.2.conn → m.Drained s.2
  sound : ∀ actions ∈ m.goroutines, ∀ action ∈ actions, action.Sound m.sent
  answers : ∀ a ∈ m.answers, a.outcome.Own

lemma Matched.goroutines (h : Matched m) (hsent : m'.sent = m.sent) (hq : m'.queries ⊆ m.queries)
    (hf : m.readFailed ⊆ m'.readFailed) (ha : ∀ a ∈ m'.answers, a.outcome.Own)
    (hg : ∀ actions ∈ m'.goroutines, ∀ action ∈ actions, (∃ as ∈ m.goroutines, action ∈ as) ∨
      action.Sound m.sent ∧ ∀ conn ∈ m.readFailed, action.completesFrom conn = false) : Matched m' where
  others e he s hs hid hne := by
    obtain ⟨hfail, hnone⟩ := h.others e (hq he) s (hsent ▸ hs) hid hne
    refine ⟨hf hfail, fun actions hact action ha => ?_⟩
    rcases hg actions hact action ha with ⟨as, has, hold⟩ | ⟨-, hnew⟩
    · exact hnone as has action hold
    · exact hnew s.2 hfail
  sound actions hact action ha := by
    rw [hsent]
    rcases hg actions hact action ha with ⟨as, has, hold⟩ | ⟨hnew, -⟩
    · exact h.sound as has action hold
    · exact hnew
  answers := ha

variable {k : Nat} {action : Action} {next rest : List Action} {started : List (List Action)}

section
variable (h : Matched m) (hk : m.goroutines[k]? = some (action :: rest))
include h hk

lemma Matched.run (hg : m'.goroutines = m.goroutines) (hsent : m'.sent = m.sent) (hq : m'.queries ⊆ m.queries)
    (hf : m.readFailed ⊆ m'.readFailed) (ha : ∀ a ∈ m'.answers, a.outcome.Own)
    (hnew : ∀ action ∈ next ++ started.flatten, action.Sound m.sent ∧
      ∀ conn ∈ m.readFailed, action.completesFrom conn = false) :
    Matched { m' with goroutines := m'.goroutines.set k (next ++ rest) ++ started } := by
  refine Matched.goroutines h hsent hq hf ha fun actions hact action' ha' => ?_
  rcases mem_append.1 hact with hact | hact
  · rw [hg] at hact
    rcases mem_or_eq_of_mem_set hact with hact | rfl
    · exact .inl ⟨actions, hact, ha'⟩
    rcases mem_append.1 ha' with ha' | ha'
    · exact .inr (hnew action' (mem_append_left _ ha'))
    · exact .inl ⟨_, mem_of_getElem? hk, mem_cons_of_mem _ ha'⟩
  · exact .inr (hnew action' (mem_append_right _ (mem_flatten.2 ⟨actions, hact, ha'⟩)))

lemma Matched.quiet (hu : Undisturbed m m')
    (hf : m.readFailed ⊆ m'.readFailed) (hnew : ∀ action ∈ next ++ started.flatten, action.Plain) :
    Matched { m' with goroutines := m'.goroutines.set k (next ++ rest) ++ started } :=
  h.run hk hu.goroutines (by rw [sent, hu.registrations]; rfl) (hu.queries ▸ Subset.refl _) hf
    (hu.answers ▸ h.answers) fun action ha =>
      ⟨((hnew action ha).sound m.sent).1, fun conn _ => ((hnew action ha).sound m.sent).2 conn⟩

lemma Matched.taking {queryId : UInt16} {found : PendingQuery → List Action} {missing : List Action}
    (hfound : ∀ p, m.lookup queryId = some p → ∀ action ∈ found p, action.Plain)
    (hmissing : ∀ action ∈ missing, action.Plain) : Matched { (m.taking queryId found missing).1 with
      goroutines := (m.taking queryId found missing).1.goroutines.set k ((m.taking queryId found missing).2 ++ rest) ++
        [] } := by
  refine h.run hk rfl rfl eraseP_subset (Subset.refl _) h.answers fun action ha => ?_
  rw [flatten_nil, append_nil] at ha
  have hplain : action.Plain := by
    cases hl : m.lookup queryId with
    | none => exact hmissing action (by simpa only [QueryMultiplexer.taking, take, hl] using ha)
    | some p => exact hfound p hl action (by simpa only [QueryMultiplexer.taking, take, hl] using ha)
  exact ⟨(hplain.sound _).1, fun conn _ => (hplain.sound m.sent).2 conn⟩

end

lemma Matched.own (h : Matched m) {message : Response}
    (hk : m.goroutines[k]? = some (.complete conn message :: rest)) {p : PendingQuery}
    (hp : m.lookup message.id = some p) : conn = p.conn := by
  obtain ⟨e, he, rfl⟩ := map_eq_some_iff.1 hp
  have hid : e.1 = message.id := by simpa using find?_some he
  have hmem := mem_of_getElem? hk
  by_contra hne
  have hd := h.others e (mem_of_find?_eq_some he) (message.id, conn) (h.sound _ hmem _ mem_cons_self)
    hid.symm hne
  simpa [Action.completesFrom] using hd.2 _ hmem _ mem_cons_self

lemma nextQueryId_free {used : UInt16 → Bool} {start : UInt16} :
    ∀ {n : Nat} {queryId r : UInt16}, nextQueryId used start n queryId = (r, true) → used r = false
  | 0, _, _, h => absurd h (by simp [nextQueryId])
  | n + 1, queryId, r, h => by
    rw [nextQueryId] at h
    split at h
    next hfree =>
      obtain ⟨rfl, -⟩ := Prod.mk.inj h
      simpa using hfree
    next =>
      split at h
      · cases h
      · exact nextQueryId_free h

lemma Matched.register (h : Matched m) {a : Attempt} {created : Bool}
    (hk : m.goroutines[k]? = some (.register a conn created :: rest)) (hc : m.Proper (.register a conn created) .go) :
    Matched { (m.register a conn created).1 with
      goroutines := (m.register a conn created).1.goroutines.set k ((m.register a conn created).2 ++ rest) ++ [] } := by
  unfold QueryMultiplexer.register
  split
  next queryId hid =>
    have hfree : (m.lookup queryId).isSome = false := nextQueryId_free hid
    have hnot : ∀ e ∈ m.queries, e.1 ≠ queryId := by
      have hnone : m.queries.find? (·.1 = queryId) = none :=
        map_eq_none_iff.1 (isSome_eq_false_iff.1 hfree |> isNone_iff_eq_none.1)
      intro e he
      simpa using find?_eq_none.1 hnone e he
    have hc' : ∀ s ∈ m.sent, s.1 = queryId → s.2 ≠ conn → m.Drained s.2 := by
      have : m.freeQueryId = queryId := congrArg Prod.fst hid
      rw [← this]
      exact hc.2 conn rfl
    have hmem : ∀ actions ∈ m.goroutines.set k (.write a conn created queryId m.registrations.length :: rest),
        ∀ action ∈ actions, (∃ as ∈ m.goroutines, action ∈ as) ∨
          action = .write a conn created queryId m.registrations.length := by
      intro actions hact action ha
      rcases mem_or_eq_of_mem_set hact with hact | rfl
      · exact .inl ⟨actions, hact, ha⟩
      rcases mem_cons.1 ha with rfl | ha
      · exact .inr rfl
      · exact .inl ⟨_, mem_of_getElem? hk, mem_cons_of_mem _ ha⟩
    have hdrained : ∀ c, m.Drained c → c ∈ m.readFailed ∧ ∀ actions ∈ m.goroutines.set k
        (.write a conn created queryId m.registrations.length :: rest), ∀ action ∈ actions,
          action.completesFrom c = false := by
      refine fun c hd => ⟨hd.1, fun actions hact action ha => ?_⟩
      rcases hmem actions hact action ha with ⟨as, has, hold⟩ | rfl
      · exact hd.2 as has action hold
      · rfl
    simp only [append_nil]
    refine ⟨fun e he s hs hsid hne => ?_, fun actions hact action ha => ?_, h.answers⟩
    · have hsent : s ∈ m.sent ∨ s = (queryId, conn) := by
        simpa [sent] using hs
      rcases mem_cons.1 he with rfl | he
      · rcases hsent with hs | rfl
        · exact hdrained _ (hc' s hs hsid hne)
        · exact absurd rfl hne
      rcases hsent with hs | rfl
      · exact hdrained _ (h.others e he s hs hsid hne)
      · exact absurd hsid.symm (hnot e he)
    · have hgrow : ∀ {x r}, x ∈ m.sent →
          x ∈ (m.registrations ++ [r]).map (fun r : Registration => (r.queryId, r.conn)) := fun hx => by
        rw [map_append]
        exact mem_append_left _ hx
      rcases hmem actions hact action ha with ⟨as, has, hold⟩ | rfl
      · have := h.sound as has action hold
        cases action <;> first | exact this | exact hgrow this
      · trivial
  next queryId hid =>
    exact h.quiet hk ⟨rfl, rfl, rfl, rfl, rfl⟩ (Subset.refl _) (by simp)

/-! ### Actions that deliver nothing -/

lemma plain_nil : ∀ action ∈ ([] : List Action) ++ [].flatten, action.Plain := by simp

lemma maybeStartProbe_readFailed (message : Query) (now : Nat) :
    m.readFailed ⊆ (m.maybeStartProbe message now).1.readFailed := by
  unfold maybeStartProbe
  repeat' split
  all_goals exact Subset.refl _

lemma maybeStartProbe_plain (message : Query) (now : Nat) :
    ∀ action ∈ [] ++ (m.maybeStartProbe message now).2.flatten, action.Plain := by
  unfold maybeStartProbe
  repeat' split
  all_goals simp

lemma runReuseProbe_readFailed (epoch : UInt32) (supported dialFailed : Bool) :
    m.readFailed ⊆ (m.runReuseProbe epoch supported dialFailed).readFailed := by
  unfold runReuseProbe
  repeat' split
  all_goals exact Subset.refl _

lemma recordConnDeath_readFailed (conn : MultiplexConn) : m.readFailed ⊆ (m.recordConnDeath conn).1.readFailed := by
  unfold recordConnDeath
  repeat' split
  all_goals exact Subset.refl _

lemma recordConnDeath_plain (conn : MultiplexConn) :
    ∀ action ∈ (m.recordConnDeath conn).2 ++ [].flatten, action.Plain := by
  unfold recordConnDeath
  repeat' split
  all_goals simp

lemma demote_readFailed (now : Nat) : m.readFailed ⊆ (m.demote now).readFailed := by
  unfold demote
  split <;> exact Subset.refl _

lemma closeIdleConnection_readFailed : m.readFailed ⊆ m.closeIdleConnection.readFailed := by
  unfold closeIdleConnection
  split <;> exact Subset.refl _

lemma resetProbe_readFailed : m.readFailed ⊆ m.resetProbe.readFailed := by
  unfold resetProbe
  split <;> exact Subset.refl _

lemma acquired_plain (a : Attempt) (r : Acquired MultiplexConn) :
    ∀ action ∈ (acquired a r).1 ++ (acquired a r).2.flatten, action.Plain := by
  unfold acquired
  split
  · simp
  · simp
  · split <;> simp

lemma sent_stop (registration : Nat) : (m.stop registration).sent = m.sent := by
  apply ext_getElem?
  intro i
  rw [sent, sent, stop, getElem?_map, getElem?_map, getElem?_modify]
  cases m.registrations[i]? with
  | none => rfl
  | some r =>
    simp only [map_some]
    split <;> rfl

section
variable (h : Matched m)
include h

lemma Matched.perform {c : Choice} (hk : m.goroutines[k]? = some (action :: rest))
    (hs : m.perform action c = some (m', next, started)) (hc : m.Proper action c) :
    Matched { m' with goroutines := m'.goroutines.set k (next ++ rest) ++ started } := by
  cases performed hs with
  | single x retryReadError | dispatch x retryReadError => exact h.quiet hk (.refl _) (Subset.refl _) (by simp)
  | maybeStartProbe message now =>
    exact h.quiet hk (maybeStartProbe_idle message now).1 (maybeStartProbe_readFailed message now)
      (maybeStartProbe_plain message now)
  | goExchangeSingle x | writeFails a conn created queryId registration err | singleDial x
  | singleDialFails x err | singleWrite x | singleWriteFails x err | singleReadNothing x | singleRead x message
  | singleReadFails x err =>
    exact h.quiet hk (.refl _) (Subset.refl _) (by simp)
  | probe epoch supported dialFailed =>
    exact h.quiet hk (runReuseProbe_undisturbed epoch supported dialFailed) (runReuseProbe_readFailed epoch supported dialFailed) plain_nil
  | acquire a at_ move connection r =>
    exact h.quiet hk ⟨rfl, rfl, rfl, rfl, rfl⟩ (Subset.refl _) (acquired_plain a r)
  | register a conn created =>
    exact h.register hk hc
  | write =>
    exact h.quiet hk (.refl _) (Subset.refl _) plain_nil
  | writeFailed a conn created queryId registration err =>
    refine h.taking hk (fun p _ => ?_) (by simp)
    split <;> simp
  | completeContextDone queryId ctx =>
    exact h.taking hk (fun p _ => by simp) plain_nil
  | completeConnDone queryId conn =>
    refine h.taking hk (fun p _ => ?_) plain_nil
    split <;> simp
  | recvNothing conn =>
    exact h.quiet hk ⟨rfl, rfl, rfl, rfl, rfl⟩ (Subset.refl _) (by simp)
  | recv conn message =>
    refine h.run hk rfl rfl (Subset.refl _) (Subset.refl _) h.answers fun action ha => ?_
    obtain ⟨hsent, hfail⟩ := hc.1 _ rfl
    rcases mem_cons.1 ha with rfl | ha
    · exact ⟨hsent, fun c hcf => decide_eq_false fun hcc => hfail (hcc ▸ hcf)⟩
    obtain rfl := mem_singleton.1 ha
    exact ⟨trivial, fun _ _ => rfl⟩
  | recvFails conn err =>
    exact h.quiet hk ⟨rfl, rfl, rfl, rfl, rfl⟩ (subset_cons_self _ _) (by simp)
  | complete conn message =>
    refine h.taking hk (fun p hp => ?_) plain_nil
    simp [h.own hk hp]
  | recordConnDeath conn =>
    exact h.quiet hk (recordConnDeath_idle conn).1 (recordConnDeath_readFailed conn) (recordConnDeath_plain conn)
  | demote now =>
    exact h.quiet hk (demote_undisturbed now) (demote_readFailed now) plain_nil
  | stop registration =>
    exact h.run hk rfl (sent_stop registration) (Subset.refl _) (Subset.refl _) h.answers (by simp)
  | release conn | invalidate conn cause | settle p err | closeIdle | setKeepIdle keep | resetPool | closePool =>
    exact h.quiet hk ⟨rfl, rfl, rfl, rfl, rfl⟩ (Subset.refl _) plain_nil
  | callback x outcome =>
    refine h.run hk rfl rfl (Subset.refl _) (Subset.refl _) (forall_mem_cons.2 ⟨?_, h.answers⟩)
      (by simp)
    exact h.sound _ (mem_of_getElem? hk) _ mem_cons_self
  | closeIdleConnection =>
    exact h.quiet hk closeIdleConnection_undisturbed closeIdleConnection_readFailed plain_nil
  | resetProbe =>
    exact h.quiet hk resetProbe_undisturbed resetProbe_readFailed plain_nil

/-! ## Runs -/

lemma Matched.goes (hp : ∀ action ∈ actions, action.Plain) : Matched (m.goes actions) := by
  refine h.goroutines rfl (Subset.refl _) (Subset.refl _) h.answers fun as has action ha => ?_
  rcases mem_append.1 has with has | has
  · exact .inl ⟨as, has, ha⟩
  obtain rfl := mem_singleton.1 has
  have := (hp action ha).sound m.sent
  exact .inr ⟨this.1, fun conn _ => this.2 conn⟩

lemma Matched.undisturbed (hu : Undisturbed m m') (hf : m.readFailed ⊆ m'.readFailed) : Matched m' :=
  h.goroutines (by rw [sent, hu.registrations]; rfl) (hu.queries ▸ Subset.refl _) hf (hu.answers ▸ h.answers)
    fun actions ha action hac => .inl ⟨actions, hu.goroutines ▸ ha, hac⟩

lemma Matched.fires {i : Nat} {r r' : Registration} (hi : m.registrations[i]? = some r)
    (hr : (r'.queryId, r'.conn) = (r.queryId, r.conn))
    (hp : ∀ action ∈ actions, action.Plain) :
    Matched (QueryMultiplexer.goes { m with registrations := m.registrations.set i r' } actions) := by
  have hsent : ({ m with registrations := m.registrations.set i r' } : QueryMultiplexer).sent = m.sent := by
    apply ext_getElem?
    intro j
    rw [sent, sent, getElem?_map, getElem?_map]
    by_cases hj : i = j
    · subst hj
      rw [List.getElem?_set_self (List.getElem?_eq_some_iff.1 hi).1, hi]
      exact congrArg some hr
    · rw [getElem?_set_ne hj]
  refine Matched.goes ?_ hp
  exact h.goroutines hsent (Subset.refl _) (Subset.refl _) h.answers fun actions ha action hac =>
    .inl ⟨actions, ha, hac⟩

lemma step_matched (e : Event) (hc : m.ProperStep e) (hs : m.step e = some m') : Matched m' := by
  cases e with
  | exchangeAsync ctx message =>
    cases hs
    have h' : Matched (m.goes [.dispatch { number := m.exchanges, ctx, message } true]) := h.goes (by simp)
    exact { h' with }
  | setKeepIdleConnections keep | closeIdleConnections | reset | close =>
    cases hs
    exact h.goes (by simp)
  | run k c =>
    simp only [step] at hs
    split at hs
    next action rest hk =>
      obtain ⟨⟨m₁, next, started⟩, hp, rfl⟩ := map_eq_some_iff.1 hs
      exact h.perform hk hp (hc action (by simp [nextAction, hk]) c rfl)
    next => cases hs
  | cancel ctx done | closeState g =>
    simp only [step] at hs
    split at hs
    · cases hs
      exact h.undisturbed ⟨rfl, rfl, rfl, rfl, rfl⟩ (Subset.refl _)
    · cases hs
  | contextDone i | connDone i =>
    simp only [step] at hs
    split at hs
    next r hr =>
      split at hs
      · cases hs
        refine h.fires hr ?_ (by simp)
        rfl
      · cases hs
    next => cases hs
  | dialReturns d result stateFirst | connectSingle d | closeConn k =>
    obtain ⟨connection, -, rfl⟩ := map_eq_some_iff.1 hs
    exact h.undisturbed ⟨rfl, rfl, rfl, rfl, rfl⟩ (Subset.refl _)

end

/-- In every run of proper steps, a response was read from the connection on which its query was written. -/
theorem answers_from_own_conn (retryReadError probeReuse : Bool) (es : List Event) (t : QueryMultiplexer)
    (hc : Machine.Along step ProperStep (start retryReadError probeReuse) es)
    (h : Machine.run step (start retryReadError probeReuse) es = some t) :
    ∀ a ∈ t.answers, ∀ message readFrom writtenTo, a.outcome = .response message readFrom writtenTo →
      readFrom = writtenTo := by
  have hmatched : Matched t := Machine.run_inv (fun _ e _ hm hc hs => step_matched hm e hc hs)
    ⟨by simp [start], by simp [start], by simp [start]⟩ hc h
  intro a ha message readFrom writtenTo ho
  have := hmatched.answers a ha
  rwa [ho] at this

/-- A query is answered after a reset, over a new connection. -/
def answeredAfterReset : List Event :=
  [.exchangeAsync 0 ⟨5, true⟩, .run 0 .go, .run 0 (.move (.look true)), .dialReturns 0 (.ok 7) false, .connectSingle 0,
    .run 0 (.move (.collect true)), .run 0 .go, .run 0 .done, .reset, .run 2 .go, .run 2 .go,
    .exchangeAsync 1 ⟨6, true⟩, .run 3 .go, .run 3 (.move (.look true)), .dialReturns 1 (.ok 8) false, .connectSingle 1,
    .run 3 (.move (.collect true)), .run 3 .go, .run 3 .done, .run 4 (.reads (some ⟨2, 9⟩)), .run 4 .go, .run 4 .go,
    .run 4 .go, .run 4 .go]

theorem answers_from_own_conn_after_reset : ∃ t, Machine.run step (start false false) answeredAfterReset = some t ∧
    (∀ a ∈ t.answers, ∀ message readFrom writtenTo, a.outcome = .response message readFrom writtenTo →
      readFrom = writtenTo) ∧
    t.answers.map Answer.outcome = [.response ⟨6, 9⟩ (.shared 8) (.shared 8)] := by
  have hrun : (Machine.run step (start false false) answeredAfterReset).map (fun t => t.answers.map Answer.outcome) =
      some [.response ⟨6, 9⟩ (.shared 8) (.shared 8)] := by decide +kernel
  obtain ⟨t, ht, he⟩ := map_eq_some_iff.1 hrun
  have hc : Machine.Along step ProperStep (start false false) answeredAfterReset := by decide +kernel
  exact ⟨t, ht, answers_from_own_conn false false answeredAfterReset t hc ht, he⟩

/-- A message of the old connection that carries the ID of a query on the new one answers that query. -/
theorem answered_by_old_conn : ∃ es t, Machine.run step (start false false) es = some t ∧
    t.answers.map Answer.outcome = [.response ⟨6, 9⟩ (.shared 7) (.shared 8)] := by
  refine ⟨[.exchangeAsync 0 ⟨5, true⟩, .run 0 .go, .run 0 (.move (.look true)), .dialReturns 0 (.ok 7) false,
    .connectSingle 0, .run 0 (.move (.collect true)), .run 0 .go, .run 0 .done, .run 1 (.reads (some ⟨2, 9⟩)), .reset,
    .run 2 .go, .run 2 .go, .exchangeAsync 1 ⟨6, true⟩, .run 3 .go, .run 3 (.move (.look true)),
    .dialReturns 1 (.ok 8) false, .connectSingle 1, .run 3 (.move (.collect true)), .run 3 .go, .run 3 .done,
    .run 1 .go, .run 1 .go, .run 1 .go, .run 1 .go], map_eq_some_iff.1 ?_⟩
  decide +kernel

end QueryMultiplexer
end SingBox.Dns.Transport
