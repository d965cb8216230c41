import SingBox.Dns.Transport.Multiplexer
import SingBox.Lib.Lists
import SingBox.Lib.Machine
/-!
# Every query is answered exactly once

An issued query is a token. It lies with the goroutine that dispatches or
completes it, in the table of pending queries, or with its callback; each
action moves it from one place to another.

The one exception is a write that fails after its own entry is gone: `take`
then takes what is stored under the ID by that time. `queries_held_once`: as
long as no failed write meets a foreign entry, no query is lost and no callback
is invoked twice.
-/
namespace SingBox.Dns.Transport
open List Option Machine
variable {actions after : List Action} {queryId : UInt16} {l : List (List Action)} {i k n : Nat} {conn : MultiplexConn}

/-! ## Where a query is -/

/-- The goroutine has to see to the answer of exchange `n`. -/
@[simp] def Action.holds (n : Nat) : Action → Bool
  | .dispatch x _ => x.number = n
  | .goExchangeSingle x => x.number = n
  | .acquire a _ => a.exchange.number = n
  | .register a _ _ => a.exchange.number = n
  | .callback x _ => x.number = n
  | .singleDial x => x.number = n
  | .singleWrite x => x.number = n
  | .singleRead x => x.number = n
  | _ => false

def heldBy (n : Nat) (actions : List Action) : Nat := actions.countP (·.holds n)

@[simp] lemma heldBy_nil (n : Nat) : heldBy n [] = 0 := rfl

@[simp] lemma heldBy_cons (n : Nat) (action : Action) (actions : List Action) :
    heldBy n (action :: actions) = (action.holds n).toNat + heldBy n actions := by
  rw [heldBy, countP_cons, Nat.add_comm]
  cases action.holds n <;> rfl

namespace QueryMultiplexer
variable (m : QueryMultiplexer)

/-- Goroutines that hold exchange `n`. -/
def held (n : Nat) : Nat := (m.goroutines.map (heldBy n)).sum

/-- Entries of exchange `n` in the table. -/
def pending (n : Nat) : Nat := m.queries.countP (·.2.exchange.number = n)

/-- Invocations of the callback of exchange `n`. -/
def answered (n : Nat) : Nat := m.answers.countP (·.exchange.number = n)

def owner (registration : Nat) : Option Exchange :=
  m.registrations[registration]?.map Registration.exchange

end QueryMultiplexer

/-- A write knows the registration its query was stored with. -/
@[simp] def Action.Owned (m : QueryMultiplexer) : Action → Prop
  | .write a _ _ _ registration => m.owner registration = some a.exchange
  | .writeFailed a _ _ _ registration _ => m.owner registration = some a.exchange
  | _ => True

def Action.failedWrite : Action → Option (UInt16 × Nat)
  | .writeFailed _ _ _ queryId registration _ => some (queryId, registration)
  | _ => none

namespace QueryMultiplexer
variable {m m' : QueryMultiplexer}

def nextAction (m : QueryMultiplexer) : Event → Option Action
  | .run k _ => m.goroutines[k]?.bind head?
  | _ => none

/-- A failed write finds its ID free or still in use for its own registration. -/
def OwnEntry (m : QueryMultiplexer) (action : Action) : Prop :=
  ∀ w ∈ action.failedWrite, ∀ p ∈ m.lookup w.1, p.registration = w.2

def NoForeignEntry (m : QueryMultiplexer) (e : Event) : Prop := ∀ action ∈ m.nextAction e, m.OwnEntry action

instance (m : QueryMultiplexer) (action : Action) : Decidable (m.OwnEntry action) :=
  inferInstanceAs (Decidable (∀ w ∈ action.failedWrite, ∀ p ∈ m.lookup w.1, p.registration = w.2))

instance (m : QueryMultiplexer) (e : Event) : Decidable (m.NoForeignEntry e) :=
  inferInstanceAs (Decidable (∀ action ∈ m.nextAction e, m.OwnEntry action))

/-! ## What an action moves -/

/-- Between two states that differ by one action, `before` and `after` are what the goroutines hold. -/
structure Moves (m m' : QueryMultiplexer) (before after : List Action) : Prop where
  tokens : ∀ n, heldBy n after + m'.pending n + m'.answered n = heldBy n before + m.pending n + m.answered n
  goroutines : m'.goroutines = m.goroutines
  exchanges : m'.exchanges = m.exchanges
  owners : ∀ i x, m.owner i = some x → m'.owner i = some x
  entries : (∀ e ∈ m.queries, m.owner e.2.registration = some e.2.exchange) →
    ∀ e ∈ m'.queries, m'.owner e.2.registration = some e.2.exchange
  owned : ∀ action ∈ after, action.Owned m'

/-- The tables stay as they are. -/
structure Undisturbed (m m' : QueryMultiplexer) : Prop where
  queries : m'.queries = m.queries
  answers : m'.answers = m.answers
  registrations : m'.registrations = m.registrations
  goroutines : m'.goroutines = m.goroutines
  exchanges : m'.exchanges = m.exchanges

lemma Undisturbed.refl (m : QueryMultiplexer) : Undisturbed m m := ⟨rfl, rfl, rfl, rfl, rfl⟩

variable {before next rest : List Action} {action : Action} {c : Choice} {started : List (List Action)}
  {p : PendingQuery}

lemma Undisturbed.moves (h : Undisturbed m m')
    (hh : ∀ n, heldBy n after = heldBy n before) (ho : ∀ action ∈ after, ∀ m', action.Owned m') :
    Moves m m' before after where
  tokens n := by rw [hh, pending, pending, answered, answered, h.queries, h.answers]
  __ := h
  owners i x hx := by rwa [owner, h.registrations]
  entries hm e he := by
    rw [owner, h.registrations]
    exact hm e (h.queries ▸ he)
  owned action ha := ho action ha m'

def Idle (actions : List Action) : Prop := (∀ n, heldBy n actions = 0) ∧ ∀ action ∈ actions, ∀ m', action.Owned m'

lemma Undisturbed.idle_moves (h : Undisturbed m m') (hb : ∀ n, heldBy n before = 0)
    (ha : Idle after) : Moves m m' before after :=
  h.moves (fun n => (ha.1 n).trans (hb n).symm) ha.2

lemma taking_moves {found : PendingQuery → List Action} {missing : List Action}
    (hmissing : ∀ n, heldBy n missing = heldBy n before) (hfound : ∀ p, m.lookup queryId = some p → ∀ n,
      heldBy n (found p) = heldBy n before + (decide (p.exchange.number = n)).toNat)
    (ho : ∀ p, ∀ action ∈ found p, ∀ m', action.Owned m') (ho' : ∀ action ∈ missing, ∀ m', action.Owned m') :
    Moves m (m.taking queryId found missing).1 before (m.taking queryId found missing).2 where
  tokens n := by
    cases h : m.lookup queryId with
    | none =>
      have hnone : m.queries.find? (·.1 = queryId) = none := map_eq_none_iff.1 h
      have : m.queries.eraseP (·.1 = queryId) = m.queries :=
        eraseP_of_forall_not fun e he => by simpa using find?_eq_none.1 hnone e he
      simp only [taking, take, h, hmissing, pending, answered, this]
    | some p =>
      obtain ⟨e, he, rfl⟩ := map_eq_some_iff.1 h
      have := Lists.countP_eraseP_add he (fun e => decide (e.2.exchange.number = n))
      simp only [taking, take, h, hfound _ h, pending, answered] at this ⊢
      omega
  goroutines := rfl
  exchanges := rfl
  owners _ _ := id
  entries h e he := h e (eraseP_subset he)
  owned action ha := by
    cases h : m.lookup queryId with
    | none => exact ho' action (by simpa only [taking, take, h] using ha) _
    | some p => exact ho p action (by simpa only [taking, take, h] using ha) _

lemma owner_append {l : List Registration} (h : m'.registrations = m.registrations ++ l) {x : Exchange}
    (hx : m.owner i = some x) : m'.owner i = some x := by
  obtain ⟨r, hr, rfl⟩ := map_eq_some_iff.1 hx
  have hi : i < m.registrations.length := (List.getElem?_eq_some_iff.1 hr).1
  rw [owner, h, getElem?_append_left hi, hr]
  rfl

lemma register_moves (a : Attempt) (conn : MultiplexConn) (created : Bool) :
    Moves m (m.register a conn created).1 [.register a conn created] (m.register a conn created).2 := by
  unfold register
  split
  next queryId _ =>
    exact {
      tokens := fun n => by
        simp only [heldBy, pending, answered, countP_cons, countP_nil, Action.holds]
        by_cases hn : a.exchange.number = n <;> simp [hn] <;> omega
      goroutines := rfl
      exchanges := rfl
      owners := fun i x hx => owner_append rfl hx
      entries := fun h e he => by
        rcases mem_cons.1 he with rfl | he
        · simp [owner]
        · exact owner_append rfl (h e he)
      owned := fun action ha => by
        obtain rfl := mem_singleton.1 ha
        simp [owner] }
  next queryId _ =>
    refine Undisturbed.moves ⟨rfl, rfl, rfl, rfl, rfl⟩ (fun n => ?_) ?_
    · simp
    · simp

lemma complete_moves (conn : MultiplexConn) (message : Response) :
    Moves m (m.complete conn message).1 [.complete conn message] (m.complete conn message).2 := by
  refine taking_moves (fun n => rfl) (fun p _ n => ?_) (fun p => ?_) (by simp)
  · simp
  · simp

lemma completeContextDone_moves (queryId : UInt16) (ctx : Nat) :
    Moves m (m.completeContextDone queryId ctx).1 [.completeContextDone queryId ctx]
      (m.completeContextDone queryId ctx).2 := by
  refine taking_moves (fun n => rfl) (fun p _ n => ?_) (fun p => ?_) (by simp)
  · simp
  · simp

lemma completeConnDone_moves (queryId : UInt16) (conn : MultiplexConn) :
    Moves m (m.completeConnDone queryId conn).1 [.completeConnDone queryId conn]
      (m.completeConnDone queryId conn).2 := by
  refine taking_moves (fun n => rfl) (fun p _ n => ?_) (fun p => ?_) (by simp)
  · split <;> simp
  · split <;> simp

lemma writeFailed_moves {a : Attempt} {created : Bool} {registration : Nat}
    {err : Err} (hown : m.OwnEntry (.writeFailed a conn created queryId registration err))
    (howner : m.owner registration = some a.exchange)
    (hentries : ∀ e ∈ m.queries, m.owner e.2.registration = some e.2.exchange) :
    Moves m (m.writeFailed a conn created queryId err).1 [.writeFailed a conn created queryId registration err]
      (m.writeFailed a conn created queryId err).2 := by
  refine taking_moves (fun n => rfl) (fun p hp n => ?_) (fun p => ?_) ?_
  · have hx : p.exchange = a.exchange := by
      obtain ⟨e, he, rfl⟩ := map_eq_some_iff.1 hp
      have := hentries e (mem_of_find?_eq_some he)
      rw [hown _ rfl _ hp, howner] at this
      exact (some.inj this).symm
    rw [hx]
    split <;> simp
  · split <;> simp
  · simp

lemma owner_modify (i : Nat) (f : Registration → Registration) (hf : ∀ r, (f r).exchange = r.exchange)
    (h : m'.registrations = m.registrations.modify i f) : m'.owner = m.owner := by
  funext j
  rw [owner, owner, h, getElem?_modify]
  cases m.registrations[j]? with
  | none => rfl
  | some r =>
    simp only [map_some]
    split
    · simp [hf]
    · rfl

lemma stop_moves (registration : Nat) : Moves m (m.stop registration) [.stop registration] [] := by
  have ho : (m.stop registration).owner = m.owner := by
    refine owner_modify registration _ ?_ rfl
    exact fun _ => rfl
  exact {
    tokens := fun n => rfl
    goroutines := rfl
    exchanges := rfl
    owners := fun i x h => by rwa [ho]
    entries := fun h => by rw [ho]; exact h
    owned := by simp }

lemma acquired_moves {connection : ConnPool MultiplexConn} (a : Attempt) (at_ : Acquire)
    (r : Acquired MultiplexConn) :
    Moves m { m with connection } [.acquire a at_] ((acquired a r).1 ++ (acquired a r).2.flatten) := by
  refine Undisturbed.moves ⟨rfl, rfl, rfl, rfl, rfl⟩ (fun n => ?_) ?_ <;> unfold acquired <;> split
  · rfl
  · rfl
  · split <;> simp
  · simp
  · simp
  · split <;> simp

/-! ### Actions that touch no query -/

lemma idle_nil : Idle [] := ⟨fun _ => rfl, by simp⟩

lemma maybeStartProbe_idle (message : Query) (now : Nat) :
    Undisturbed m (m.maybeStartProbe message now).1 ∧ Idle (m.maybeStartProbe message now).2.flatten := by
  unfold maybeStartProbe
  split
  · exact ⟨.refl m, idle_nil⟩
  split
  · exact ⟨.refl m, idle_nil⟩
  split
  · exact ⟨.refl m, idle_nil⟩
  · exact ⟨⟨rfl, rfl, rfl, rfl, rfl⟩, fun n => rfl, by simp⟩

lemma runReuseProbe_undisturbed (epoch : UInt32) (supported dialFailed : Bool) :
    Undisturbed m (m.runReuseProbe epoch supported dialFailed) := by
  unfold runReuseProbe
  split
  · exact .refl m
  split
  · exact ⟨rfl, rfl, rfl, rfl, rfl⟩
  · split <;> exact ⟨rfl, rfl, rfl, rfl, rfl⟩

lemma recordConnDeath_idle (conn : MultiplexConn) :
    Undisturbed m (m.recordConnDeath conn).1 ∧ Idle (m.recordConnDeath conn).2 := by
  unfold recordConnDeath
  split
  · exact ⟨.refl m, idle_nil⟩
  split
  · exact ⟨.refl m, idle_nil⟩
  split
  · exact ⟨⟨rfl, rfl, rfl, rfl, rfl⟩, idle_nil⟩
  split
  · exact ⟨⟨rfl, rfl, rfl, rfl, rfl⟩, idle_nil⟩
  · exact ⟨⟨rfl, rfl, rfl, rfl, rfl⟩, fun n => rfl, by simp⟩

lemma demote_undisturbed (now : Nat) : Undisturbed m (m.demote now) := by
  unfold demote
  split <;> exact ⟨rfl, rfl, rfl, rfl, rfl⟩

lemma resetProbe_undisturbed : Undisturbed m m.resetProbe := by
  unfold resetProbe
  split
  · exact ⟨rfl, rfl, rfl, rfl, rfl⟩
  · exact .refl m

lemma closeIdleConnection_undisturbed : Undisturbed m m.closeIdleConnection := by
  unfold closeIdleConnection
  split
  · exact .refl m
  · exact ⟨rfl, rfl, rfl, rfl, rfl⟩

lemma perform_moves
    (hs : m.perform action c = some (m', next, started)) (hown : m.OwnEntry action) (howned : action.Owned m)
    (hentries : ∀ e ∈ m.queries, m.owner e.2.registration = some e.2.exchange) :
    Moves m m' [action] (next ++ started.flatten) := by
  cases performed hs with
  | single x retryReadError =>
    exact (Undisturbed.refl _).moves (fun n => by simp) (by simp)
  | dispatch x retryReadError => exact (Undisturbed.refl _).moves (fun n => rfl) (by simp)
  | maybeStartProbe message now =>
    obtain ⟨hu, hi⟩ := maybeStartProbe_idle (m := m) message now
    exact hu.idle_moves (fun _ => rfl) hi
  | goExchangeSingle x | singleDial x | singleDialFails x err | singleWrite x | singleWriteFails x err
  | singleReadNothing x | singleRead x message | singleReadFails x err =>
    exact (Undisturbed.refl _).moves (fun n => rfl) (by simp)
  | probe epoch supported dialFailed =>
    exact (runReuseProbe_undisturbed epoch supported dialFailed).idle_moves (fun _ => rfl) idle_nil
  | acquire a at_ move connection r => exact acquired_moves a at_ r
  | register a conn created =>
    rw [flatten_nil, append_nil]
    exact register_moves a conn created
  | write =>
    exact (Undisturbed.refl _).idle_moves (fun _ => rfl) idle_nil
  | writeFails a conn created queryId registration err =>
    refine ⟨fun _ => rfl, rfl, rfl, fun _ _ => id, id, fun action ha => ?_⟩
    obtain rfl := mem_singleton.1 ha
    exact howned
  | writeFailed a conn created queryId registration err =>
    rw [flatten_nil, append_nil]
    exact writeFailed_moves hown howned hentries
  | completeContextDone queryId ctx =>
    rw [flatten_nil, append_nil]
    exact completeContextDone_moves queryId ctx
  | completeConnDone queryId conn =>
    rw [flatten_nil, append_nil]
    exact completeConnDone_moves queryId conn
  | recvNothing conn
  | recv conn message => exact Undisturbed.moves ⟨rfl, rfl, rfl, rfl, rfl⟩ (fun n => rfl) (by simp)
  | recvFails conn err =>
    exact Undisturbed.moves ⟨rfl, rfl, rfl, rfl, rfl⟩ (fun n => rfl) (by simp)
  | complete conn message =>
    rw [flatten_nil, append_nil]
    exact complete_moves conn message
  | recordConnDeath conn =>
    rw [flatten_nil, append_nil]
    obtain ⟨hu, hi⟩ := recordConnDeath_idle (m := m) conn
    exact hu.idle_moves (fun _ => rfl) hi
  | demote now =>
    exact (demote_undisturbed now).idle_moves (fun _ => rfl) idle_nil
  | stop registration =>
    exact stop_moves registration
  | release conn | invalidate conn cause | settle p err | closeIdle | setKeepIdle keep | resetPool | closePool =>
    exact Undisturbed.idle_moves ⟨rfl, rfl, rfl, rfl, rfl⟩ (fun _ => rfl) idle_nil
  | callback x outcome =>
    refine ⟨fun n => ?_, rfl, rfl, fun _ _ => id, id, by simp⟩
    simp only [heldBy, pending, answered, append_nil, flatten_nil, countP_cons, countP_nil, Action.holds]
    omega
  | closeIdleConnection =>
    exact closeIdleConnection_undisturbed.idle_moves (fun _ => rfl) idle_nil
  | resetProbe =>
    exact resetProbe_undisturbed.idle_moves (fun _ => rfl) idle_nil

/-! ## Runs -/

/-- Every issued query is in one place. -/
structure Once (m : QueryMultiplexer) : Prop where
  tokens : ∀ n, m.held n + m.pending n + m.answered n = if n < m.exchanges then 1 else 0
  entries : ∀ e ∈ m.queries, m.owner e.2.registration = some e.2.exchange
  owned : ∀ actions ∈ m.goroutines, ∀ action ∈ actions, action.Owned m

lemma owned_mono (h : action.Owned m) (ho : ∀ i x, m.owner i = some x → m'.owner i = some x) : action.Owned m' := by
  cases action <;> first | trivial | exact ho _ _ h

lemma Once.undisturbed (ho : Once m) (h : Undisturbed m m') : Once m' where
  tokens n := by
    rw [held, pending, answered, h.goroutines, h.queries, h.answers, h.exchanges]
    exact ho.tokens n
  entries e he := by
    rw [owner, h.registrations]
    exact ho.entries e (h.queries ▸ he)
  owned actions ha action hac := by
    refine owned_mono (ho.owned actions (h.goroutines ▸ ha) action hac) fun i x hx => ?_
    rwa [owner, h.registrations]

lemma held_goes (actions : List Action) (n : Nat) : (m.goes actions).held n = m.held n + heldBy n actions := by
  simp [QueryMultiplexer.goes, held]

lemma Once.goes (h : Once m) (hi : Idle actions) : Once (m.goes actions) where
  tokens n := by
    rw [held_goes, hi.1 n, Nat.add_zero]
    exact h.tokens n
  entries := h.entries
  owned as ha action hac := by
    rcases mem_append.1 ha with ha | ha
    · exact h.owned as ha action hac
    obtain rfl := mem_singleton.1 ha
    exact hi.2 action hac _

lemma Once.exchangeAsync (h : Once m) (ctx : Nat) (message : Query) :
    Once { m.goes [.dispatch { number := m.exchanges, ctx, message } true] with exchanges := m.exchanges + 1 } where
  tokens n := by
    have h0 := h.tokens n
    change (m.goes _).held n + m.pending n + m.answered n = if n < m.exchanges + 1 then 1 else 0
    rw [held_goes]
    have hb : heldBy n [.dispatch { number := m.exchanges, ctx, message } true] = if m.exchanges = n then 1 else 0 := by
      by_cases hn : m.exchanges = n <;> simp [hn]
    rw [hb]
    split at h0 <;> split <;> split <;> omega
  entries := h.entries
  owned as ha action hac := by
    rcases mem_append.1 ha with ha | ha
    · exact h.owned as ha action hac
    obtain rfl := mem_singleton.1 ha
    obtain rfl := mem_singleton.1 hac
    trivial

lemma Once.fires (h : Once m) {r r' : Registration} (hi : m.registrations[i]? = some r)
    (hr : r'.exchange = r.exchange) (hidle : Idle actions) :
    Once ({ m with registrations := m.registrations.set i r' }.goes actions) := by
  have ho : ∀ j, ({ m with registrations := m.registrations.set i r' } : QueryMultiplexer).owner j = m.owner j := by
    intro j
    by_cases hj : i = j
    · subst hj
      rw [owner, owner, List.getElem?_set_self (List.getElem?_eq_some_iff.1 hi).1, hi]
      exact congrArg some hr
    · rw [owner, owner, getElem?_set_ne hj]
  refine Once.goes (m := { m with registrations := m.registrations.set i r' })
    ⟨h.tokens, fun e he => ?_, fun as ha action hac => ?_⟩ hidle
  · rw [ho]
    exact h.entries e he
  · exact owned_mono (h.owned as ha action hac) fun j x hx => by rwa [ho]

lemma Once.run (h : Once m) (hk : m.goroutines[k]? = some (action :: rest))
    (hs : m.perform action c = some (m', next, started)) (hown : m.OwnEntry action) :
    Once { m' with goroutines := m'.goroutines.set k (next ++ rest) ++ started } := by
  have hmem := mem_of_getElem? hk
  have hm := perform_moves hs hown (h.owned _ hmem action mem_cons_self) h.entries
  exact {
    tokens := fun n => by
      have htok := hm.tokens n
      have hsum := Lists.sum_map_set_add (b := next ++ rest) hk (heldBy n)
      have hstarted : (started.map (heldBy n)).sum = heldBy n started.flatten := (countP_flatten ..).symm
      have := h.tokens n
      simp only [held, map_append, sum_append, hm.goroutines, hm.exchanges, hstarted] at this ⊢
      simp only [heldBy, countP_append, countP_cons, countP_nil] at htok hsum
      simp only [heldBy, pending, answered] at *
      omega
    entries := hm.entries h.entries
    owned := fun as ha a' ha' => by
      have hkeep : ∀ as ∈ m.goroutines, ∀ a' ∈ as, a'.Owned m' := fun as ha a' ha' =>
        owned_mono (h.owned as ha a' ha') hm.owners
      rcases mem_append.1 ha with ha | ha
      · rw [hm.goroutines] at ha
        rcases mem_or_eq_of_mem_set ha with ha | rfl
        · exact hkeep as ha a' ha'
        rcases mem_append.1 ha' with ha' | ha'
        · exact hm.owned a' (mem_append_left _ ha')
        · exact hkeep _ hmem a' (mem_cons_of_mem _ ha')
      · exact hm.owned a' (mem_append_right _ (mem_flatten.2 ⟨as, ha, ha'⟩)) }

lemma step_once (h : Once m) (e : Event) (hc : m.NoForeignEntry e) (hs : m.step e = some m') : Once m' := by
  cases e with
  | exchangeAsync ctx message =>
    cases hs
    exact h.exchangeAsync ctx message
  | setKeepIdleConnections keep | closeIdleConnections | reset | close =>
    cases hs
    exact h.goes ⟨fun _ => rfl, by simp⟩
  | run k c =>
    simp only [step] at hs
    split at hs
    next action rest hk =>
      obtain ⟨⟨m₁, next, started⟩, hp, rfl⟩ := map_eq_some_iff.1 hs
      exact h.run hk hp (hc action (by simp [nextAction, hk]))
    next => cases hs
  | cancel ctx done | closeState g =>
    simp only [step] at hs
    split at hs
    · cases hs
      exact h.undisturbed ⟨rfl, rfl, rfl, rfl, rfl⟩
    · cases hs
  | contextDone i | connDone i =>
    simp only [step] at hs
    split at hs
    next r hr =>
      split at hs
      · cases hs
        refine h.fires hr ?_ ?_
        · rfl
        · exact ⟨fun _ => rfl, by simp⟩
      · cases hs
    next => cases hs
  | dialReturns d result stateFirst | connectSingle d | closeConn k =>
    obtain ⟨connection, -, rfl⟩ := map_eq_some_iff.1 hs
    exact h.undisturbed ⟨rfl, rfl, rfl, rfl, rfl⟩

lemma start_once (retryReadError probeReuse : Bool) : Once (start retryReadError probeReuse) :=
  ⟨fun _ => rfl, by simp [start], by simp [start]⟩

/-- In every run in which a failed write never finds the entry of another query under its ID, each issued
query is answered once, or has not been answered and is in one place: with one goroutine or in the table. -/
theorem queries_held_once (retryReadError probeReuse : Bool) (es : List Event) (t : QueryMultiplexer)
    (hc : Machine.Along step NoForeignEntry (start retryReadError probeReuse) es)
    (h : run step (start retryReadError probeReuse) es = some t) :
    ∀ n, t.answered n ≤ 1 ∧ (n < t.exchanges → t.answered n = 0 → t.held n + t.pending n = 1) := by
  have honce : Once t := run_inv (fun _ e _ ho hc hs => step_once ho e hc hs)
    (start_once retryReadError probeReuse) hc h
  intro n
  have := honce.tokens n
  refine ⟨by split at this <;> omega, fun hn h0 => ?_⟩
  rw [if_pos hn] at this
  omega

/-- A query is written, then answered by its connection; a second one fails to be written and is told so. -/
def answeredAndFailed : List Event :=
  [.exchangeAsync 0 ⟨5, true⟩, .run 0 .go, .run 0 (.move (.look true)), .dialReturns 0 (.ok 7) false, .connectSingle 0,
    .run 0 (.move (.collect true)), .run 0 .go, .run 0 .done, .run 1 (.reads (some ⟨1, 9⟩)), .run 1 .go, .run 1 .go,
    .run 1 .go, .run 1 .go, .exchangeAsync 1 ⟨6, true⟩, .run 2 .go, .run 2 (.move (.look true)), .run 2 .go,
    .run 2 (.fails (.external 1)), .run 2 .go]

theorem queries_held_once_answered : ∃ t, run step (start false false) answeredAndFailed = some t ∧
    (∀ n, t.answered n ≤ 1 ∧ (n < t.exchanges → t.answered n = 0 → t.held n + t.pending n = 1)) ∧
    t.answered 0 = 1 ∧ t.held 1 = 1 := by
  have hrun : (run step (start false false) answeredAndFailed).map (fun t => (t.answered 0, t.held 1)) =
      some (1, 1) := by decide +kernel
  obtain ⟨t, ht, he⟩ := map_eq_some_iff.1 hrun
  obtain ⟨h0, h1⟩ := Prod.mk.inj he
  have hc : Machine.Along step NoForeignEntry (start false false) answeredAndFailed := by decide +kernel
  exact ⟨t, ht, queries_held_once false false answeredAndFailed t hc ht, h0, h1⟩

/-! ## A failed write and a reused ID -/

lemma step_run (hk : m.goroutines[k]? = some (action :: rest)) (hp : m.perform action c = some (m', next, started)) :
    m.step (.run k c) = some { m' with goroutines := m'.goroutines.set k (next ++ rest) ++ started } := by
  simp only [step, hk, hp, map_some]

lemma step_last (hg : m.goroutines = l ++ [action :: rest]) (hp : m.perform action c = some (m', next, []))
    (hg' : m'.goroutines = m.goroutines) :
    m.step (.run l.length c) = some { m' with goroutines := l ++ [next ++ rest] } := by
  have hk : m.goroutines[l.length]? = some (action :: rest) := by rw [hg, getElem?_concat_length]
  rw [step_run hk hp, hg', hg]
  simp

def stuckAttempt : Attempt :=
  { exchange := { number := 0, ctx := 0, message := ⟨5, true⟩ }, retryReadError := true, firstAttempt := true }

/-- The first query was answered while its write is stuck, and the pool still shares its connection. -/
structure Stuck (m : QueryMultiplexer) : Prop where
  once : Once m
  probeReuse : m.probeReuse = false
  goroutine : m.goroutines[0]? = some [.write stuckAttempt 7 true 1 0]
  ctx : (m.ctxs 0).isSome
  mode : m.connection.mode = .single
  closed : m.connection.closed = false
  shared : m.connection.current.shared = some 7
  claimed : m.connection.current.sharedClaimed = true
  answered : m.answered 0 = 1

/-- What a step has to leave alone. -/
structure KeepsStuck (m m' : QueryMultiplexer) : Prop where
  probeReuse : m'.probeReuse = m.probeReuse
  ctxs : m'.ctxs = m.ctxs
  mode : m'.connection.mode = m.connection.mode
  closed : m'.connection.closed = m.connection.closed
  shared : m'.connection.current.shared = m.connection.current.shared
  claimed : m.connection.current.sharedClaimed = true → m'.connection.current.sharedClaimed = true
  answers : m'.answers = m.answers

lemma Stuck.step (h : Stuck m) {e : Event} (hc : m.NoForeignEntry e) (hs : m.step e = some m')
    (hk : KeepsStuck m m') (hg : m'.goroutines[0]? = m.goroutines[0]?) : Stuck m' where
  once := step_once h.once e hc hs
  probeReuse := hk.probeReuse.trans h.probeReuse
  goroutine := hg.trans h.goroutine
  ctx := by rw [hk.ctxs]; exact h.ctx
  mode := hk.mode.trans h.mode
  closed := hk.closed.trans h.closed
  shared := hk.shared.trans h.shared
  claimed := hk.claimed h.claimed
  answered := by
    rw [QueryMultiplexer.answered, hk.answers]
    exact h.answered

lemma Stuck.last (h : Stuck m)
    (hl : 0 < l.length) (hg : m.goroutines = l ++ [action :: rest]) (hw : action.failedWrite = none)
    (hp : m.perform action c = some (m', next, [])) (hk : KeepsStuck m m') (hg' : m'.goroutines = m.goroutines) :
    m.step (.run l.length c) = some { m' with goroutines := l ++ [next ++ rest] } ∧
      Stuck { m' with goroutines := l ++ [next ++ rest] } := by
  have hs := step_last hg hp hg'
  refine ⟨hs, h.step ?_ hs { hk with } ?_⟩
  · intro a ha
    have hnext : m.nextAction (.run l.length c) = some action := by
      simp only [nextAction, hg, getElem?_concat_length, bind_some, head?_cons]
    obtain rfl := some.inj (hnext.symm.trans ha)
    simp [OwnEntry, hw]
  · rw [hg]
    change (l ++ [next ++ rest])[0]? = _
    rw [getElem?_append_left hl, getElem?_append_left hl]

/-- Another query was given the ID the counter is at. -/
structure Issued (m : QueryMultiplexer) (number : Nat) (p : PendingQuery) : Prop where
  queries : m.queries = [(m.queryId, p)]
  exchange : p.exchange.number = number
  exchanges : m.exchanges = number + 1
  registration : m.registrations[p.registration]? =
    some { queryId := m.queryId, exchange := p.exchange, conn := p.conn }
  ctx : p.exchange.ctx = 0

lemma perform_dispatch (h : m.probeReuse = false) (x : Exchange) (retryReadError : Bool) :
    m.perform (.dispatch x retryReadError) .go =
      some (m, [.acquire { exchange := x, retryReadError, firstAttempt := true } .looking], []) := by
  simp [perform.eq_def, h]

lemma perform_acquire (hm : m.connection.mode = .single) (hc : m.connection.closed = false)
    (hs : m.connection.current.shared = some conn) (hcl : m.connection.current.sharedClaimed = true) (a : Attempt) :
    m.perform (.acquire a .looking) (.move (.look true)) =
      some ({ m with connection := m.connection.setState m.connection.state { m.connection.current with
        sharedClaimed := true, sharedUsers := m.connection.current.sharedUsers + 1 } }, [.register a conn false], []) := by
  simp [perform.eq_def, ConnPool.Move.alive, ConnPool.acquireStep, hm, ConnPool.acquireShared, hc, hs, ConnPool.takeShared, hcl,
    acquired]

lemma perform_register (hq : m.queries = []) (a : Attempt) (conn : MultiplexConn) (created : Bool) :
    ∃ p, p.conn = conn ∧ p.exchange = a.exchange ∧ p.registration = m.registrations.length ∧
      m.perform (.register a conn created) .go = some ({ m with
        queryId := m.queryId + 1
        queries := [(m.queryId + 1, p)]
        registrations := m.registrations ++ [{ queryId := m.queryId + 1, exchange := a.exchange, conn }] },
        [.write a conn created (m.queryId + 1) m.registrations.length], []) := by
  have hfree : nextQueryId (fun queryId => (m.lookup queryId).isSome) m.queryId (2 ^ 16) m.queryId =
      (m.queryId + 1, true) := by
    rw [show 2 ^ 16 = 65535 + 1 from rfl, nextQueryId]
    simp [lookup, hq]
  refine ⟨⟨conn, a.exchange, m.readEpoch conn, a.retryReadError && m.retryReadError && !created,
    m.registrations.length⟩, rfl, rfl, rfl, ?_⟩
  simp only [perform.eq_def, register, hfree, hq]

lemma Stuck.acquires (h : Stuck m) : ∃ es m' a, run QueryMultiplexer.step m es = some m' ∧ Stuck m' ∧
    m'.goroutines = m.goroutines ++ [[.register a 7 false]] ∧ m'.queries = m.queries ∧ m'.queryId = m.queryId ∧
    m'.registrations = m.registrations ∧ m'.exchanges = m.exchanges + 1 ∧ a.exchange.number = m.exchanges ∧
    a.exchange.ctx = 0 := by
  have hl : 0 < m.goroutines.length := (List.getElem?_eq_some_iff.1 h.goroutine).1
  have s₁ : m.step (.exchangeAsync 0 ⟨0, true⟩) = some _ := rfl
  have h₁ := h.step (by simp [NoForeignEntry, nextAction]) s₁ ⟨rfl, rfl, rfl, rfl, rfl, id, rfl⟩
    (getElem?_append_left hl)
  obtain ⟨s₂, h₂⟩ := h₁.last hl rfl rfl (perform_dispatch h₁.probeReuse _ _) ⟨rfl, rfl, rfl, rfl, rfl, id, rfl⟩ rfl
  obtain ⟨s₃, h₃⟩ := h₂.last hl rfl rfl (perform_acquire h₂.mode h₂.closed h₂.shared h₂.claimed _)
    ⟨rfl, rfl, rfl, rfl, by simp, by simp, rfl⟩ rfl
  exact ⟨_, _, _, run_of_step s₁ (run_of_step s₂ (run_one s₃)), h₃, rfl, rfl, rfl, rfl, rfl, rfl, rfl⟩

lemma Stuck.issues (h : Stuck m) (hq : m.queries = []) : ∃ es m' p,
    run QueryMultiplexer.step m es = some m' ∧ Stuck m' ∧ Issued m' m.exchanges p ∧
      m'.queryId = m.queryId + 1 := by
  have hl : 0 < m.goroutines.length := (List.getElem?_eq_some_iff.1 h.goroutine).1
  obtain ⟨es, m₁, a, s₁, h₁, hg, hq₁, hid, hr, hex, hnum, hctx⟩ := h.acquires
  obtain ⟨p, hconn, hx, hreg, p₂⟩ := perform_register (hq₁.trans hq) a 7 false
  obtain ⟨s₂, h₂⟩ := h₁.last hl hg rfl p₂ ⟨rfl, rfl, rfl, rfl, rfl, id, rfl⟩ rfl
  refine ⟨_, _, p, run_append s₁ (run_one s₂), h₂, ?_, congrArg (· + 1) hid⟩
  exact {
    queries := rfl
    exchange := hx ▸ hnum
    exchanges := hex
    registration := by
      change (m₁.registrations ++ [_])[p.registration]? = _
      rw [hreg, getElem?_concat_length, hx, hconn]
    ctx := hx ▸ hctx }

lemma Stuck.completes (h : Stuck m) (hi : Issued m n p) : ∃ es m',
    run QueryMultiplexer.step m es = some m' ∧ Stuck m' ∧ m'.queries = [] ∧ m'.exchanges = m.exchanges ∧
      m'.queryId = m.queryId := by
  have hl : 0 < m.goroutines.length := (List.getElem?_eq_some_iff.1 h.goroutine).1
  have s₁ : m.step (.contextDone p.registration) = some (QueryMultiplexer.goes { m with
      registrations := m.registrations.set p.registration (
        { queryId := m.queryId, exchange := p.exchange, conn := p.conn, contextRan := true }) }
      [.completeContextDone m.queryId p.exchange.ctx]) := by
    simp only [QueryMultiplexer.step, hi.registration, hi.ctx, h.ctx]
    rfl
  have h₁ := h.step (by simp [NoForeignEntry, nextAction]) s₁ ⟨rfl, rfl, rfl, rfl, rfl, id, rfl⟩
    (getElem?_append_left hl)
  obtain ⟨s₂, h₂⟩ := h₁.last (c := .go) hl rfl rfl rfl ⟨rfl, rfl, rfl, rfl, rfl, id, rfl⟩ rfl
  refine ⟨_, _, run_of_step s₁ (run_one s₂), h₂, ?_, rfl, rfl⟩
  change m.queries.eraseP (·.1 = m.queryId) = []
  rw [hi.queries]
  simp

lemma Stuck.cycles (h : Stuck m) (hq : m.queries = []) (k : Nat) : ∃ es m',
    run QueryMultiplexer.step m es = some m' ∧ Stuck m' ∧ m'.queries = [] ∧ m'.exchanges = m.exchanges + k ∧
      m'.queryId = m.queryId + UInt16.ofNat k := by
  induction k with
  | zero => exact ⟨[], m, rfl, h, hq, rfl, by simp⟩
  | succ k ih =>
    obtain ⟨es, m₁, s₁, h₁, hq₁, hx₁, hid₁⟩ := ih
    obtain ⟨es', m₂, p, s₂, h₂, hi, hid₂⟩ := h₁.issues hq₁
    obtain ⟨es'', m₃, s₃, h₃, hq₃, hx₃, hid₃⟩ := h₂.completes hi
    refine ⟨_, m₃, run_append s₁ (run_append s₂ s₃), h₃, hq₃, ?_, ?_⟩
    · rw [hx₃, hi.exchanges, hx₁, Nat.add_assoc]
    rw [hid₃, hid₂, hid₁, UInt16.add_assoc]
    congr 1
    rw [UInt16.ofNat_add]
    rfl

lemma stuck_write_fails {gs : List (List Action)}
    (hg : m.goroutines = [.write stuckAttempt 7 true 1 0] :: gs) (hq : m.queries = [(1, p)]) : ∃ m',
    run step m [.run 0 (.fails (.external 1)), .run 0 .go, .run 0 .go, .run 0 .go, .run 0 .go] = some m' ∧
      m'.queries = [] ∧ m'.goroutines = [] :: gs ∧ m'.exchanges = m.exchanges ∧
      m'.answers = ⟨stuckAttempt.exchange, .failure (.wrapped (.external 1) "write request")⟩ :: m.answers := by
  obtain ⟨⟩ := m
  obtain rfl : _ = _ := hg
  obtain rfl : _ = _ := hq
  refine ⟨_, rfl, rfl, ?_, rfl, rfl⟩
  change [] :: (((((gs ++ []) ++ []) ++ []) ++ []) ++ []) = [] :: gs
  simp only [append_nil]

/-- The query that uses the ID by then is dropped, and the callback of the first query is invoked once more. -/
lemma Stuck.fails (h : Stuck m) (hi : Issued m n p) (hid : m.queryId = 1) (hn : n ≠ 0) :
    ∃ es m', run QueryMultiplexer.step m es = some m' ∧ m'.answered 0 = 2 ∧ n < m'.exchanges ∧
      m'.answered n = 0 ∧ m'.held n + m'.pending n = 0 := by
  obtain ⟨gs, hg⟩ : ∃ gs, m.goroutines = [.write stuckAttempt 7 true 1 0] :: gs := by
    have := h.goroutine
    cases hm : m.goroutines with
    | nil => rw [hm] at this; exact absurd this nofun
    | cons g gs =>
      rw [hm] at this
      exact ⟨gs, by rw [some.inj this]⟩
  obtain ⟨m', hrun, hq', hg', hx', ha'⟩ := stuck_write_fails hg (hid ▸ hi.queries)
  have hlt : n < m.exchanges := by rw [hi.exchanges]; exact Nat.lt_succ_self n
  have htok := h.once.tokens n
  have hpend : m.pending n = 1 := by simp [pending, hi.queries, hi.exchange]
  rw [if_pos hlt, hpend, held, hg, map_cons, sum_cons] at htok
  refine ⟨_, m', hrun, ?_, hx' ▸ hlt, ?_, ?_⟩
  · rw [QueryMultiplexer.answered, ha', countP_cons, ← QueryMultiplexer.answered, h.answered]
    rfl
  · rw [QueryMultiplexer.answered, ha', countP_cons, ← QueryMultiplexer.answered]
    simp only [stuckAttempt, decide_eq_true_eq, Ne.symm hn, if_false]
    omega
  rw [held, pending, hg', hq', map_cons, sum_cons]
  simp only [heldBy, countP_nil] at htok ⊢
  omega

/-- A query whose write gets stuck and whose context ends meanwhile. -/
def stuckWrite : List Event :=
  [.exchangeAsync 0 ⟨5, true⟩, .run 0 .go, .run 0 (.move (.look true)), .dialReturns 0 (.ok 7) false, .connectSingle 0,
    .run 0 (.move (.collect true)), .run 0 .go, .cancel 0 ⟨.canceled, .canceled⟩, .contextDone 0, .run 2 .go, .run 2 .go,
    .run 2 .go, .run 2 .go]

lemma stuckWrite_stuck : ∃ m, run step (start false false) stuckWrite = some m ∧ Stuck m ∧ m.queries = [] ∧
    m.queryId = 1 ∧ m.exchanges = 1 := by
  have hrun : ((run step (start false false) stuckWrite).any fun m =>
      m.probeReuse = false ∧ m.goroutines[0]? = some [.write stuckAttempt 7 true 1 0] ∧ (m.ctxs 0).isSome ∧
      m.connection.mode = .single ∧ m.connection.closed = false ∧ m.connection.current.shared = some 7 ∧
      m.connection.current.sharedClaimed = true ∧ m.answered 0 = 1 ∧ m.queries = [] ∧ m.queryId = 1 ∧
      m.exchanges = 1) = true := by decide +kernel
  obtain ⟨m, hm, hp⟩ := (any_eq_true _ _).1 hrun
  obtain ⟨hp, hg, hx, hmode, hcl, hsh, hclaim, ha, hq, hid, hn⟩ := of_decide_eq_true hp
  have hc : Machine.Along step NoForeignEntry (start false false) stuckWrite := by decide +kernel
  have honce : Once m := run_inv (fun _ e _ ho hc hs => step_once ho e hc hs) (start_once false false) hc hm
  exact ⟨m, hm, ⟨honce, hp, hg, hx, hmode, hcl, hsh, hclaim, ha⟩, hq, hid, hn⟩

/-- A write may fail so late that its ID is in use again: with 65536 further queries one is never answered, and
one is answered twice. -/
theorem queries_dropped_and_repeated : ∃ es t n, run step (start false false) es = some t ∧
    t.answered 0 = 2 ∧ n < t.exchanges ∧ t.answered n = 0 ∧ t.held n + t.pending n = 0 := by
  obtain ⟨m, hm, hs, hq, hid, hx⟩ := stuckWrite_stuck
  obtain ⟨es₁, m₁, s₁, h₁, hq₁, hx₁, hid₁⟩ := hs.cycles hq 65535
  obtain ⟨es₂, m₂, p, s₂, h₂, hi, hid₂⟩ := h₁.issues hq₁
  have hid' : m₂.queryId = 1 := by rw [hid₂, hid₁, hid]; decide
  obtain ⟨es₃, t, s₃, ht⟩ := h₂.fails hi hid' (by rw [hx₁, hx]; decide)
  exact ⟨_, t, m₁.exchanges, run_append hm (run_append s₁ (run_append s₂ s₃)), ht⟩

end QueryMultiplexer
end SingBox.Dns.Transport
