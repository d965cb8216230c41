import SingBox.Dns.Transport.ConnPool
import SingBox.Lib.Lists
import SingBox.Lib.Machine
/-!
# A pool and its callers

Any number of calls of `Acquire` run against one pool, next to its dials and
the calls that close connections. A call that got a connection holds it until
it releases or invalidates it, once; others, as a receive loop, may invalidate it too.

`Books` says what the pool's fields count. Below it, one lemma for each way in
which the pool and its calls change together.
-/
namespace SingBox.Dns.Transport
open List Function ConnPool ConnPoolState
variable {T : Type} [DecidableEq T]

/-! ## Calls and their counts -/

/-- Where a call of `Acquire` and its user stand. -/
inductive CallPhase (T : Type)
  | acquiring (at_ : Acquire)
  | failed (err : Err)
  | holding (conn : T) (created : Bool)
  /-- Released or invalidated. -/
  | left (conn : T) (created : Bool)

namespace CallPhase

def ofAcquired : Acquired T → CallPhase T
  | .running a => .acquiring a
  | .acquired conn created => .holding conn created
  | .failed err => .failed err

def waits (g : Nat) : CallPhase T → Bool
  | .acquiring (.waiting g' _ _) => g' = g
  | _ => false

def holds (conn : T) : CallPhase T → Bool
  | .holding c _ => c = conn
  | _ => false

/-- The call was handed `conn` at some time. -/
def had (conn : T) : CallPhase T → Bool
  | .holding c _ => c = conn
  | .left c _ => c = conn
  | _ => false

/-- The call was handed `conn` and told `created = true`. -/
def toldCreated (conn : T) : CallPhase T → Bool
  | .holding c created => created && c = conn
  | .left c created => created && c = conn
  | _ => false

/-- The call counts nowhere: it waits for no dial and never got a connection. -/
def Neutral : CallPhase T → Prop
  | .acquiring (.waiting _ _ _) => False
  | .acquiring _ => True
  | .failed _ => True
  | _ => False

end CallPhase

structure Call (T : Type) where
  ctx : Nat
  phase : CallPhase T

section
variable (calls : List (Call T))

/-- Callers that began to wait on the state object `g` and have not left the wait. -/
def waiters (g : Nat) : Nat := calls.countP (·.phase.waits g)
def holders (conn : T) : Nat := calls.countP (·.phase.holds conn)
def acquisitions (conn : T) : Nat := calls.countP (·.phase.had conn)
def creators (conn : T) : Nat := calls.countP (·.phase.toldCreated conn)

end

/-! ## The pool and its callers -/

structure PoolRun (T : Type) where
  pool : ConnPool T
  ctxs : Nat → Option Done := fun _ => none
  calls : List (Call T) := []

inductive PoolEvent (T : Type)
  | acquire (ctx : Nat) (sharedOnly : Bool)
  | cancel (ctx : Nat) (done : Done)
  | move (i : Nat) (m : ConnPool.Move)
  | release (i : Nat) (reuse alive : Bool)
  | invalidate (i : Nat) (cause : Err)
  /-- A call of `Invalidate` by someone who does not hold the connection. -/
  | invalidateConn (conn : T) (cause : Err)
  | closeIdle
  | reset
  | close
  | dialReturns (d : Nat) (result : Except Err T) (stateFirst : Bool)
  | connectSingle (d : Nat)
  | closeState (g : Nat)
  | closeConn (k : Nat)

namespace PoolRun

def start (mode : ConnPoolMode) (maxInflight : Nat) : PoolRun T := { pool := .newConnPool mode maxInflight }

def step (s : PoolRun T) : PoolEvent T → Option (PoolRun T)
  | .acquire ctx sharedOnly => some { s with calls := s.calls ++ [⟨ctx, .ofAcquired (s.pool.acquire sharedOnly)⟩] }
  | .cancel ctx done =>
    if s.ctxs ctx = none then some { s with ctxs := update s.ctxs ctx (some done) } else none
  | .move i m =>
    match s.calls[i]? with
    | some ⟨ctx, .acquiring a⟩ =>
      (s.pool.acquireStep s.ctxs ctx a m).map fun r =>
        { s with pool := r.1, calls := s.calls.set i ⟨ctx, .ofAcquired r.2⟩ }
    | _ => none
  | .release i reuse alive =>
    match s.calls[i]? with
    | some ⟨ctx, .holding conn created⟩ =>
      some { s with pool := s.pool.release conn reuse alive, calls := s.calls.set i ⟨ctx, .left conn created⟩ }
    | _ => none
  | .invalidate i cause =>
    match s.calls[i]? with
    | some ⟨ctx, .holding conn created⟩ =>
      some { s with pool := s.pool.invalidate conn cause, calls := s.calls.set i ⟨ctx, .left conn created⟩ }
    | _ => none
  | .invalidateConn conn cause => some { s with pool := s.pool.invalidate conn cause }
  | .closeIdle => some { s with pool := s.pool.closeIdle }
  | .reset => some { s with pool := s.pool.reset }
  | .close => some { s with pool := s.pool.close }
  | .dialReturns d result stateFirst =>
    (s.pool.dialReturns s.ctxs d result stateFirst).map fun pool => { s with pool }
  | .connectSingle d => (s.pool.connectSingle d).map fun pool => { s with pool }
  | .closeState g => if g ∈ s.pool.retired then some { s with pool := s.pool.closeState g } else none
  | .closeConn k => (s.pool.closeConn k).map fun pool => { s with pool }

end PoolRun

/-! ## The books -/

/-- The dial `d` returned `conn` and has not installed it yet. -/
def ConnPool.InHand (p : ConnPool T) (d : Nat) (conn : T) : Prop := ∃ dial, p.dials d = some dial ∧ dial.phase = .dialed conn

omit [DecidableEq T] in
lemma ConnPool.inHand_setDial (p : ConnPool T) (d : Nat) (dial : Dial T) (d' : Nat) (c : T) :
    (p.setDial d dial).InHand d' c ↔ (d' = d ∧ dial.phase = .dialed c) ∨ (d' ≠ d ∧ p.InHand d' c) := by
  by_cases hd : d' = d
  · subst hd
    simp [ConnPool.InHand, setDial]
  · simp [ConnPool.InHand, setDial, hd]

/-- Someone is about to install or to close `conn`. -/
def ConnPool.Underway (p : ConnPool T) (conn : T) : Prop :=
  (∃ cause, (conn, cause) ∈ p.closing) ∨ (∃ g ∈ p.retired, conn ∈ (p.states g).all) ∨ ∃ d, p.InHand d conn

/-- Tracked by the pool's state object, closed, or on the way to either. -/
def ConnPool.Placed (p : ConnPool T) (conn : T) : Prop :=
  (p.closed = false ∧ conn ∈ p.current.all) ∨ (∃ cause, (conn, cause) ∈ p.closedConns) ∨ p.Underway conn

namespace ConnPool.Placed
variable {p : ConnPool T} {conn : T}
omit [DecidableEq T]

lemma closing {cause : Err} (h : (conn, cause) ∈ p.closing) : p.Placed conn := .inr (.inr (.inl ⟨cause, h⟩))

lemma retired {g : Nat} (hg : g ∈ p.retired) (h : conn ∈ (p.states g).all) : p.Placed conn :=
  .inr (.inr (.inr (.inl ⟨g, hg, h⟩)))

lemma inHand {d : Nat} (h : p.InHand d conn) : p.Placed conn := .inr (.inr (.inr (.inr ⟨d, h⟩)))

end ConnPool.Placed

omit [DecidableEq T] in
lemma ConnPool.forall_setState {p : ConnPool T} {g : Nat} {st : ConnPoolState T}
    {P : Nat → ConnPoolState T → Prop} (hst : P g st) (hrest : ∀ g', P g' (p.states g')) (g' : Nat) :
    P g' ((p.setState g st).states g') := by
  by_cases hg : g' = g
  · subst hg
    rwa [setState_states_self]
  rw [p.setState_states_ne hg]
  exact hrest g'

/-- What holds of every state object, the swapped ones included. -/
structure StateBooks (p : ConnPool T) (st : ConnPoolState T) : Prop where
  dialed : ∀ c ∈ st.all, c ∈ p.dialed
  shared : ∀ c, st.shared = some c → c ∈ st.all
  ordered : p.mode = .ordered → st.shared = none
  installed : ∀ c ∈ st.all, ∀ d, ¬ p.InHand d c

/-- The counters of the pool's own state object. -/
structure CurrentBooks (mode : ConnPoolMode) (calls : List (Call T)) (st : ConnPoolState T) : Prop where
  unshared : st.shared = none → st.sharedUsers = 0 ∧ st.sharedClaimed = false
  users : ∀ c, st.shared = some c → st.sharedUsers = holders calls c
  claimed : ∀ c, st.shared = some c → (st.sharedClaimed = true ↔ 0 < acquisitions calls c)
  idleNodup : st.idle.Nodup
  idle : mode = .ordered → ∀ c ∈ st.idle, c ∈ st.all ∧ holders calls c = 0 ∧ 0 < acquisitions calls c

/-- The pool agrees with the calls. -/
structure Books (p : ConnPool T) (calls : List (Call T)) : Prop where
  waiting : ∀ g, (p.states g).sharedWaiters = waiters calls g
  ahead : ∀ g, p.state < g → waiters calls g = 0
  created : ∀ c, 0 < acquisitions calls c → creators calls c = 1
  acquired : ∀ c, 0 < acquisitions calls c → c ∈ p.dialed
  ordered : p.mode = .ordered → ∀ c, holders calls c ≤ 1
  hand : ∀ d c, p.InHand d c → c ∈ p.dialed ∧ acquisitions calls c = 0
  handOnce : ∀ d d' c, p.InHand d c → p.InHand d' c → d = d'
  states : ∀ g, StateBooks p (p.states g)
  current : p.closed = false → CurrentBooks p.mode calls p.current
  placed : ∀ c ∈ p.dialed, p.Placed c

/-! ## One call changes its phase -/

section Counts
variable {calls : List (Call T)} {i : Nat} {call : Call T} (hi : calls[i]? = some call) (call' : Call T)
include hi

omit [DecidableEq T] in
lemma waiters_set (g : Nat) :
    waiters (calls.set i call') g + (call.phase.waits g).toNat = waiters calls g + (call'.phase.waits g).toNat :=
  Lists.countP_set_add hi _

lemma holders_set (c : T) :
    holders (calls.set i call') c + (call.phase.holds c).toNat = holders calls c + (call'.phase.holds c).toNat :=
  Lists.countP_set_add hi _

lemma acquisitions_set (c : T) : acquisitions (calls.set i call') c + (call.phase.had c).toNat =
      acquisitions calls c + (call'.phase.had c).toNat :=
  Lists.countP_set_add hi _

lemma creators_set (c : T) : creators (calls.set i call') c + (call.phase.toldCreated c).toNat =
      creators calls c + (call'.phase.toldCreated c).toNat :=
  Lists.countP_set_add hi _

end Counts

lemma holders_le_acquisitions (calls : List (Call T)) (c : T) : holders calls c ≤ acquisitions calls c := by
  apply countP_mono_left
  intro call _ h
  cases hp : call.phase <;> simp_all [CallPhase.holds, CallPhase.had]

lemma creators_le_acquisitions (calls : List (Call T)) (c : T) : creators calls c ≤ acquisitions calls c := by
  apply countP_mono_left
  intro call _ h
  cases hp : call.phase <;> simp_all [CallPhase.toldCreated, CallPhase.had]

namespace CallPhase.Neutral
variable {ph : CallPhase T} (h : ph.Neutral)
include h

omit [DecidableEq T] in
lemma waits (g : Nat) : ph.waits g = false := by
  cases ph with
  | acquiring a => cases a <;> first | exact h.elim | rfl
  | failed => rfl
  | holding | left => exact h.elim

lemma holds (c : T) : ph.holds c = false := by cases ph <;> first | exact h.elim | rfl
lemma had (c : T) : ph.had c = false := by cases ph <;> first | exact h.elim | rfl
lemma toldCreated (c : T) : ph.toldCreated c = false := by cases ph <;> first | exact h.elim | rfl

end CallPhase.Neutral

section HandOut
variable {calls : List (Call T)} {i : Nat} {call : Call T} (hi : calls[i]? = some call)
include hi

lemma counts_holding (hn : call.phase.Neutral) (ctx : Nat) (conn : T) (created : Bool) :
    (∀ g, waiters (calls.set i ⟨ctx, .holding conn created⟩) g = waiters calls g) ∧
    ∀ c, holders (calls.set i ⟨ctx, .holding conn created⟩) c = holders calls c + (if conn = c then 1 else 0) ∧
      acquisitions (calls.set i ⟨ctx, .holding conn created⟩) c = acquisitions calls c + (if conn = c then 1 else 0) ∧
      creators (calls.set i ⟨ctx, .holding conn created⟩) c =
        creators calls c + (if created ∧ conn = c then 1 else 0) := by
  refine ⟨fun g => ?_, fun c => ⟨?_, ?_, ?_⟩⟩
  · have := waiters_set hi ⟨ctx, .holding conn created⟩ g
    rw [hn.waits] at this
    exact this
  · have := holders_set hi ⟨ctx, .holding conn created⟩ c
    rw [hn.holds] at this
    by_cases hc : conn = c <;> simpa [CallPhase.holds, hc] using this
  · have := acquisitions_set hi ⟨ctx, .holding conn created⟩ c
    rw [hn.had] at this
    by_cases hc : conn = c <;> simpa [CallPhase.had, hc] using this
  have := creators_set hi ⟨ctx, .holding conn created⟩ c
  rw [hn.toldCreated] at this
  cases created <;> by_cases hc : conn = c <;> simpa [CallPhase.toldCreated, hc] using this

lemma counts_left {conn : T} {created : Bool} (hph : call.phase = .holding conn created) (ctx : Nat) :
    (∀ g, waiters (calls.set i ⟨ctx, .left conn created⟩) g = waiters calls g) ∧
    ∀ c, holders (calls.set i ⟨ctx, .left conn created⟩) c + (if conn = c then 1 else 0) = holders calls c ∧
      acquisitions (calls.set i ⟨ctx, .left conn created⟩) c = acquisitions calls c ∧
      creators (calls.set i ⟨ctx, .left conn created⟩) c = creators calls c := by
  refine ⟨fun g => ?_, fun c => ⟨?_, ?_, ?_⟩⟩
  · simpa [hph, CallPhase.waits] using waiters_set hi ⟨ctx, .left conn created⟩ g
  · have := holders_set hi ⟨ctx, .left conn created⟩ c
    by_cases hc : conn = c <;> simpa [hph, CallPhase.holds, hc] using this
  · simpa [hph, CallPhase.had] using acquisitions_set hi ⟨ctx, .left conn created⟩ c
  · simpa [hph, CallPhase.toldCreated] using creators_set hi ⟨ctx, .left conn created⟩ c

end HandOut

variable {st : ConnPoolState T}

lemma CurrentBooks.congr_calls {mode : ConnPoolMode} {calls calls' : List (Call T)}
    (h : CurrentBooks mode calls st) (hh : ∀ c, holders calls' c = holders calls c)
    (ha : ∀ c, acquisitions calls' c = acquisitions calls c) : CurrentBooks mode calls' st where
  __ := h
  users := by simpa only [hh] using h.users
  claimed := by simpa only [ha] using h.claimed
  idle := by simpa only [hh, ha] using h.idle

lemma CurrentBooks.of_eq {mode : ConnPoolMode} {calls : List (Call T)} {st' : ConnPoolState T}
    (h : CurrentBooks mode calls st) (he : st' = st) : CurrentBooks mode calls st' := he ▸ h

namespace Books
variable {p : ConnPool T} {calls : List (Call T)} {i : Nat} {call call' : Call T}

lemma congr_calls (h : Books p calls) {calls' : List (Call T)} (hw : ∀ g, waiters calls' g = waiters calls g)
    (hh : ∀ c, holders calls' c = holders calls c) (ha : ∀ c, acquisitions calls' c = acquisitions calls c)
    (hc : ∀ c, creators calls' c = creators calls c) : Books p calls' where
  waiting := by simpa only [hw] using h.waiting
  ahead := by simpa only [hw] using h.ahead
  created := by simpa only [ha, hc] using h.created
  acquired := by simpa only [ha] using h.acquired
  ordered := by simpa only [hh] using h.ordered
  hand := by simpa only [ha] using h.hand
  __ := h
  current hcl := (h.current hcl).congr_calls hh ha

lemma relabel (h : Books p calls) (hi : calls[i]? = some call) (hn : call.phase.Neutral)
    (hn' : call'.phase.Neutral) : Books p (calls.set i call') := by
  refine h.congr_calls (fun g => ?_) (fun c => ?_) (fun c => ?_) (fun c => ?_)
  · simpa [hn.waits, hn'.waits] using waiters_set hi call' g
  · simpa [hn.holds, hn'.holds] using holders_set hi call' c
  · simpa [hn.had, hn'.had] using acquisitions_set hi call' c
  · simpa [hn.toldCreated, hn'.toldCreated] using creators_set hi call' c

lemma append (h : Books p calls) (hn : call.phase.Neutral) : Books p (calls ++ [call]) := by
  refine h.congr_calls (fun g => ?_) (fun c => ?_) (fun c => ?_) (fun c => ?_)
  · simp [waiters, hn.waits]
  · simp [holders, hn.holds]
  · simp [acquisitions, hn.had]
  · simp [creators, hn.toldCreated]

end Books

/-! ## Changes of the state objects -/

omit [DecidableEq T] in
lemma StateBooks.transfer {p p' : ConnPool T} (h : StateBooks p st) (hm : p'.mode = p.mode)
    (hd : p.dialed ⊆ p'.dialed) (hh : ∀ c ∈ st.all, ∀ d, p'.InHand d c → p.InHand d c) : StateBooks p' st where
  dialed c hc := hd (h.dialed c hc)
  shared := h.shared
  ordered hm' := h.ordered (hm ▸ hm')
  installed c hc d hd := h.installed c hc d (hh c hc d hd)

omit [DecidableEq T] in
lemma StateBooks.same {p p' : ConnPool T} (h : StateBooks p st)
    (hsame : (p'.mode, p'.dialed, p'.dials) = (p.mode, p.dialed, p.dials)) : StateBooks p' st := by
  simp only [Prod.mk.injEq] at hsame
  obtain ⟨hm, hd, hdials⟩ := hsame
  refine h.transfer hm (hd ▸ List.Subset.refl _) fun c _ d hc => ?_
  rwa [ConnPool.InHand, ← hdials]

omit [DecidableEq T] in
/-- A connection stays placed while the lists only grow and every dial keeps or places what it has. -/
lemma ConnPool.Placed.mono {p p' : ConnPool T} {c : T} (h : p.Placed c)
    (hsame : (p'.closed, p'.state, p'.closedConns, p'.retired) = (p.closed, p.state, p.closedConns, p.retired))
    (hcl : p.closing ⊆ p'.closing) (hh : ∀ d, p.InHand d c → p'.Placed c)
    (hall : ∀ g, c ∈ (p.states g).all → c ∈ (p'.states g).all) : p'.Placed c := by
  simp only [Prod.mk.injEq] at hsame
  obtain ⟨hclosed, hstate, hcc, hr⟩ := hsame
  rcases h with ⟨ho, hc⟩ | ⟨cause, hc⟩ | ⟨cause, hc⟩ | ⟨g, hg, hc⟩ | ⟨d, hd⟩
  · exact .inl ⟨hclosed.trans ho, by rw [current, hstate]; exact hall _ hc⟩
  · exact .inr (.inl ⟨cause, hcc ▸ hc⟩)
  · exact .closing (hcl hc)
  · exact .retired (hr ▸ hg) (hall g hc)
  · exact hh d hd

namespace Books
variable {p : ConnPool T} {calls calls' : List (Call T)} {i : Nat} {call call' : Call T}

lemma willClose (h : Books p calls) (conn : T) (cause : Err) : Books (p.willClose conn cause) calls :=
  { h with
    states := fun g => (h.states g).same rfl
    placed := fun c hc =>
      (h.placed c hc).mono rfl (subset_cons_self _ _) (fun _ hd => .inHand hd) fun _ => id }

lemma setWaiters (h : Books p calls) {g : Nat} (hg : g ≤ p.state) {w : Int} (x : Option Nat)
    (hw : ∀ g', (waiters calls' g' : Int) = if g' = g then w else waiters calls g')
    (hh : ∀ c, holders calls' c = holders calls c) (ha : ∀ c, acquisitions calls' c = acquisitions calls c)
    (hc : ∀ c, creators calls' c = creators calls c) :
    Books (p.setState g { p.states g with sharedWaiters := w, connecting := x }) calls' := by
  have hst : ∀ g', ∃ w' x', (p.setState g { p.states g with sharedWaiters := w, connecting := x }).states g' =
      { p.states g' with sharedWaiters := w', connecting := x' } := by
    intro g'
    by_cases hg' : g' = g
    · subst hg'
      exact ⟨w, x, p.setState_states_self ..⟩
    · exact ⟨_, _, p.setState_states_ne hg' _⟩
  exact {
    waiting := fun g' => by
      rw [hw g']
      by_cases hg' : g' = g
      · subst hg'
        simp
      · rw [p.setState_states_ne hg', if_neg hg', h.waiting g']
    ahead := fun g' hg' => by
      have hlt : g' ≠ g := by rintro rfl; exact absurd hg' (by simpa [setState] using hg)
      have := hw g'
      rw [if_neg hlt, h.ahead g' hg'] at this
      exact_mod_cast this
    created := by simpa only [ha, hc] using h.created
    acquired := fun c hc => h.acquired c (ha c ▸ hc)
    ordered := fun hm c => hh c ▸ h.ordered hm c
    hand := fun d c hd => ha c ▸ h.hand d c hd
    handOnce := h.handOnce
    states := fun g' => by
      obtain ⟨w', x', he⟩ := hst g'
      rw [he]
      exact ⟨(h.states g').dialed, (h.states g').shared, (h.states g').ordered, (h.states g').installed⟩
    current := fun hcl => by
      obtain ⟨w', x', he⟩ := hst p.state
      have hcur := (h.current hcl).congr_calls hh ha
      rw [ConnPool.current, show (p.setState g _).state = p.state from rfl, he]
      exact { hcur with }
    placed := fun c hc => by
      refine (h.placed c hc).mono rfl (fun _ => id) (fun _ hd => .inHand hd) fun g' hg' => ?_
      obtain ⟨w', x', he⟩ := hst g'
      rwa [he] }

variable {st : ConnPoolState T} {conn : T} {d : Nat} {dial : Dial T}

section
variable (h : Books p calls)
include h

section
variable (hwait : st.sharedWaiters = p.current.sharedWaiters) (hall : st.all = p.current.all)
  (hshared : st.shared = p.current.shared)
include hwait hall hshared

/-- The pool's state object gets new counters and a new idle queue, as the calls ask for. -/
lemma setCurrent (hw : ∀ g, waiters calls' g = waiters calls g)
    (hnew : ∀ c, 0 < acquisitions calls' c → 0 < acquisitions calls c ∨ c ∈ p.current.all)
    (hc : ∀ c, 0 < acquisitions calls' c → creators calls' c = 1)
    (ho : p.mode = .ordered → ∀ c, holders calls' c ≤ 1) (hcur : p.closed = false → CurrentBooks p.mode calls' st) :
    Books (p.setState p.state st) calls' where
  waiting g := by
    rw [hw g]
    exact forall_setState (P := fun g st => st.sharedWaiters = waiters calls g)
      (hwait.trans (h.waiting p.state)) h.waiting g
  ahead g hg := by rw [hw g]; exact h.ahead g hg
  created := hc
  acquired c hc := (hnew c hc).elim (h.acquired c) ((h.states p.state).dialed c)
  ordered := ho
  hand d c hd := by
    refine ⟨(h.hand d c hd).1, Nat.eq_zero_of_not_pos fun hpos => ?_⟩
    rcases hnew c hpos with ha | ha
    · exact ha.ne' (h.hand d c hd).2
    · exact (h.states p.state).installed c ha d hd
  handOnce := h.handOnce
  states := by
    have hs := h.states p.state
    refine forall_setState (P := fun _ => StateBooks _) ?_ fun g =>
      (h.states g).same rfl
    exact ⟨by rw [hall]; exact hs.dialed, by rw [hall, hshared]; exact hs.shared,
      by rw [hshared]; exact hs.ordered, by rw [hall]; exact hs.installed⟩
  current hcl := by rw [setState_current]; exact hcur hcl
  placed c hc := by
    refine (h.placed c hc).mono rfl (fun _ => id) (fun _ hd => .inHand hd) ?_
    refine forall_setState (P := fun g st => c ∈ (p.states g).all → c ∈ st.all) ?_ fun _ => id
    rw [hall]
    exact id

lemma handOut (hi : calls[i]? = some call) (hn : call.phase.Neutral) (ctx : Nat)
    {created : Bool} (hin : conn ∈ p.current.all)
    (hcr : created = true ↔ acquisitions calls conn = 0) (hord : p.mode = .ordered → holders calls conn = 0)
    (hcur : p.closed = false → CurrentBooks p.mode (calls.set i ⟨ctx, .holding conn created⟩) st) :
    Books (p.setState p.state st) (calls.set i ⟨ctx, .holding conn created⟩) := by
  obtain ⟨hw, hcs⟩ := counts_holding hi hn ctx conn created
  refine h.setCurrent hwait hall hshared hw (fun c hc => ?_) (fun c hc => ?_) (fun hm c => ?_) hcur
  · by_cases hcc : conn = c
    · exact .inr (hcc ▸ hin)
    rw [(hcs c).2.1, if_neg hcc] at hc
    exact .inl hc
  · rw [(hcs c).2.2]
    by_cases hcc : conn = c
    · subst hcc
      -- the first one to get the connection is told, and no one after them
      cases hb : created with
      | true =>
        have h0 := creators_le_acquisitions calls conn
        simp only [hcr.1 hb, Nat.le_zero] at h0
        simp [h0]
      | false =>
        have hpos : 0 < acquisitions calls conn := Nat.pos_of_ne_zero fun h0 => by simp [hcr.2 h0] at hb
        simp [h.created conn hpos]
    · rw [(hcs c).2.1, if_neg hcc] at hc
      simp [hcc, h.created c hc]
  · rw [(hcs c).1]
    by_cases hcc : conn = c
    · subst hcc
      simp [hord hm]
    · simpa [hcc] using h.ordered hm c

lemma handBack (hi : calls[i]? = some call) {created : Bool} (hph : call.phase = .holding conn created) (ctx : Nat)
    (hcur : p.closed = false → CurrentBooks p.mode (calls.set i ⟨ctx, .left conn created⟩) st) :
    Books (p.setState p.state st) (calls.set i ⟨ctx, .left conn created⟩) := by
  obtain ⟨hw, hcs⟩ := counts_left hi hph ctx
  refine h.setCurrent hwait hall hshared hw (fun c hc => .inl ?_) (fun c hc => ?_) (fun hm c => ?_) hcur
  · rwa [(hcs c).2.1] at hc
  · rw [(hcs c).2.1] at hc
    rw [(hcs c).2.2, h.created c hc]
  have := h.ordered hm c
  have := (hcs c).1
  omega

end

/-- The books do not see the semaphore, the next number of a dial and the shared contexts. -/
lemma frame (inflight nextDial : Nat) (sharedCtx : T → Option Err) :
    Books { p with inflight, nextDial, sharedCtx } calls :=
  { h with
    states := fun g => (h.states g).same rfl
    placed := h.placed }

lemma removeConn {cause : Err} (hclosing : (conn, cause) ∈ p.closing) :
    Books (p.setState p.state (p.current.removeConn p.mode conn)) calls where
  waiting := by
    refine forall_setState (P := fun g st => st.sharedWaiters = waiters calls g) ?_ h.waiting
    rw [removeConn_sharedWaiters]
    exact h.waiting p.state
  __ := h
  states := by
    have hs := h.states p.state
    refine forall_setState (P := fun _ => StateBooks _) ?_ fun g =>
      (h.states g).same rfl
    refine ⟨fun c hc => hs.dialed c ?_, fun c hc => ?_, fun hm => ?_, fun c hc => hs.installed c ?_⟩
    · exact (mem_removeConn_all.1 hc).1
    · rcases p.current.removeConn_cases hs.ordered with ⟨he, -⟩ | ⟨he, -, -, hne⟩
      · exact nomatch he.symm.trans hc
      rw [he] at hc
      exact mem_removeConn_all.2 ⟨hs.shared c hc, fun hcc => hne (hcc ▸ hc)⟩
    · rcases p.current.removeConn_cases hs.ordered with ⟨he, -⟩ | ⟨he, -⟩
      · exact he
      · exact he.trans (hs.ordered hm)
    · exact (mem_removeConn_all.1 hc).1
  current hcl := by
    rw [setState_current]
    have hcur := h.current hcl
    have hidle := p.current.removeConn_idle p.mode conn
    refine ⟨?_, ?_, ?_, hidle.nodup hcur.idleNodup, fun hm c hc => ?_⟩
    rotate_left 3
    · obtain ⟨hall, hrest⟩ := hcur.idle hm c (hidle.subset hc)
      exact ⟨mem_removeConn_all.2 ⟨hall, removeConn_idle_ne hm hc⟩, hrest⟩
    all_goals
      rcases p.current.removeConn_cases (h.states p.state).ordered with ⟨he, hu, hc, -⟩ | ⟨he, hu, hc, -⟩ <;> rw [he]
    · exact fun _ => ⟨hu, hc⟩
    · rw [hu, hc]; exact hcur.unshared
    · exact nofun
    · rw [hu]; exact hcur.users
    · exact nofun
    · rw [hc]; exact hcur.claimed
  placed c hc := by
    by_cases hcc : c = conn
    · exact .closing (hcc ▸ hclosing)
    refine (h.placed c hc).mono rfl (fun _ => id) (fun _ hd => .inHand hd) ?_
    exact forall_setState (P := fun g st => c ∈ (p.states g).all → c ∈ st.all)
      (fun hg => mem_removeConn_all.2 ⟨hg, hcc⟩) fun _ => id

lemma setDial {phase : DialPhase T} (hd : p.dials d = some dial)
    (hph : ∀ c, phase ≠ .dialed c) (hclosing : ∀ c, dial.phase = .dialed c → ∃ cause, (c, cause) ∈ p.closing) :
    Books (p.setDial d { dial with phase }) calls := by
  have hold : ∀ d' c, (p.setDial d { dial with phase }).InHand d' c → p.InHand d' c := fun d' c hd' =>
    ((p.inHand_setDial d _ d' c).1 hd').elim (fun h => absurd h.2 (hph c)) And.right
  exact {
    h with
    hand := fun d' c hd' => h.hand d' c (hold d' c hd')
    handOnce := fun d₁ d₂ c h₁ h₂ => h.handOnce d₁ d₂ c (hold d₁ c h₁) (hold d₂ c h₂)
    states := fun g => (h.states g).transfer rfl (fun _ => id) (fun c _ d' => hold d' c)
    placed := fun c hc => by
      refine (h.placed c hc).mono rfl (fun _ => id) (fun d' hd' => ?_) fun _ => id
      by_cases hdd : d' = d
      · subst hdd
        obtain ⟨dial', he, hdc⟩ := hd'
        obtain rfl := Option.some.inj (hd.symm.trans he)
        obtain ⟨cause, hcause⟩ := hclosing c hdc
        exact .closing hcause
      · exact .inHand ((p.inHand_setDial d _ d' c).2 (.inr ⟨hdd, hd'⟩)) }

lemma startDial (hd : p.dials p.nextDial = none) (g ctx : Nat) : Books (p.startDial g ctx) calls := by
  have hiff : ∀ d' c, (p.startDial g ctx).InHand d' c ↔ p.InHand d' c := by
    intro d' c
    refine (p.inHand_setDial _ _ d' c).trans ⟨fun h => h.elim (fun h => absurd h.2 nofun) And.right, fun h => .inr ⟨?_, h⟩⟩
    rintro rfl
    obtain ⟨dial, he, -⟩ := h
    exact nomatch hd.symm.trans he
  exact {
    h with
    hand := fun d' c hd' => h.hand d' c ((hiff d' c).1 hd')
    handOnce := fun d₁ d₂ c h₁ h₂ => h.handOnce d₁ d₂ c ((hiff d₁ c).1 h₁) ((hiff d₂ c).1 h₂)
    states := fun g => (h.states g).transfer rfl (fun _ => id) (fun c _ d' => (hiff d' c).1)
    placed := fun c hc => (h.placed c hc).mono rfl (fun _ => id) (fun d' hd' => .inHand ((hiff d' c).2 hd')) fun _ => id }

lemma dialed (hd : p.dials d = some dial) (hph : dial.phase = .dialing) (hnew : conn ∉ p.dialed) :
    Books (({ p with dialed := conn :: p.dialed } : ConnPool T).setDial d { dial with phase := .dialed conn }) calls := by
  have hiff : ∀ d' c, (({ p with dialed := conn :: p.dialed } : ConnPool T).setDial d
      { dial with phase := .dialed conn }).InHand d' c ↔ (d' = d ∧ c = conn) ∨ p.InHand d' c := by
    intro d' c
    refine (inHand_setDial _ _ _ d' c).trans (or_congr ?_ ?_)
    · simp [eq_comm]
    refine ⟨And.right, fun h => ⟨?_, h⟩⟩
    rintro rfl
    obtain ⟨dial', he, hdc⟩ := h
    obtain rfl := Option.some.inj (hd.symm.trans he)
    exact nomatch hph.symm.trans hdc
  have hacq : acquisitions calls conn = 0 := Nat.eq_zero_of_not_pos fun hpos => hnew (h.acquired conn hpos)
  exact {
    h with
    acquired := fun c hc => mem_cons_of_mem _ (h.acquired c hc)
    hand := fun d' c hd' => by
      rcases (hiff d' c).1 hd' with ⟨-, rfl⟩ | hd'
      · exact ⟨mem_cons_self, hacq⟩
      · exact ⟨mem_cons_of_mem _ (h.hand d' c hd').1, (h.hand d' c hd').2⟩
    handOnce := fun d₁ d₂ c h₁ h₂ => by
      rcases (hiff d₁ c).1 h₁ with ⟨rfl, rfl⟩ | k₁
      · rcases (hiff d₂ c).1 h₂ with ⟨rfl, -⟩ | k₂
        · rfl
        · exact absurd (h.hand d₂ c k₂).1 hnew
      rcases (hiff d₂ c).1 h₂ with ⟨-, rfl⟩ | k₂
      · exact absurd (h.hand d₁ c k₁).1 hnew
      · exact h.handOnce d₁ d₂ c k₁ k₂
    states := fun g => by
      refine (h.states g).transfer rfl (subset_cons_self _ _) fun c hc d' hd' => ?_
      rcases (hiff d' c).1 hd' with ⟨-, rfl⟩ | hd'
      · exact absurd ((h.states g).dialed c hc) hnew
      · exact hd'
    placed := fun c hc => by
      rcases mem_cons.1 hc with rfl | hc
      · exact .inHand ((hiff d c).2 (.inl ⟨rfl, rfl⟩))
      · exact (h.placed c hc).mono rfl (fun _ => id) (fun d' hd' => .inHand ((hiff d' c).2 (.inr hd'))) fun _ => id }

lemma install (hcl : p.closed = false) (hd : p.dials d = some dial)
    (hph : dial.phase = .dialed conn) (st : ConnPoolState T)
    (hwait : st.sharedWaiters = p.current.sharedWaiters) (hall : st.all = conn :: p.current.all)
    (hshared : ∀ c, st.shared = some c → p.current.shared = some c ∨ c = conn)
    (hord : p.mode = .ordered → st.shared = none) (hcur : CurrentBooks p.mode calls st) (err : Option Err) :
    Books ((p.setState p.state st).setDial d { dial with phase := .ended err }) calls := by
  have hold : ∀ d' c, ((p.setState p.state st).setDial d { dial with phase := .ended err }).InHand d' c ↔
      d' ≠ d ∧ p.InHand d' c := fun d' c =>
    (inHand_setDial _ _ _ d' c).trans ⟨fun h => h.elim (fun h => absurd h.2 nofun) id, .inr⟩
  have hin : p.InHand d conn := ⟨dial, hd, hph⟩
  exact {
    h with
    waiting := forall_setState (P := fun g st => st.sharedWaiters = waiters calls g)
      (hwait.trans (h.waiting p.state)) h.waiting
    hand := fun d' c hd' => h.hand d' c ((hold d' c).1 hd').2
    handOnce := fun d₁ d₂ c h₁ h₂ => h.handOnce d₁ d₂ c ((hold d₁ c).1 h₁).2 ((hold d₂ c).1 h₂).2
    states := by
      have hs := h.states p.state
      refine forall_setState (P := fun _ => StateBooks _) ⟨?_, fun c hc => ?_, hord, ?_⟩ fun g =>
        (h.states g).transfer rfl (fun _ => id) fun c _ d' hd' => ((hold d' c).1 hd').2
      · rw [hall]
        exact forall_mem_cons.2 ⟨(h.hand d conn hin).1, hs.dialed⟩
      · rw [hall]
        rcases hshared c hc with hc | rfl
        · exact mem_cons_of_mem _ (hs.shared c hc)
        · exact mem_cons_self
      rw [hall]
      refine forall_mem_cons.2 ⟨fun d' hd' => ?_, fun c hc d' hd' => hs.installed c hc d' ((hold d' c).1 hd').2⟩
      obtain ⟨hne, hd'⟩ := (hold d' conn).1 hd'
      exact hne (h.handOnce d' d conn hd' hin)
    current := fun _ => by
      change CurrentBooks p.mode calls (p.setState p.state st).current
      rw [setState_current]
      exact hcur
    placed := fun c hc => by
      have hgrow : ∀ g, c ∈ (p.states g).all → c ∈ ((p.setState p.state st).states g).all :=
        forall_setState (P := fun g st => c ∈ (p.states g).all → c ∈ st.all)
          (fun hg => by rw [hall]; exact mem_cons_of_mem _ hg) fun _ => id
      refine (h.placed c hc).mono rfl (fun _ => id) (fun d' hd' => ?_) hgrow
      by_cases hdd : d' = d
      · subst hdd
        obtain ⟨dial', he, hdc⟩ := hd'
        obtain rfl := Option.some.inj (hd.symm.trans he)
        obtain rfl := DialPhase.dialed.inj (hph.symm.trans hdc)
        refine .inl ⟨hcl, ?_⟩
        change conn ∈ (p.setState p.state st).current.all
        rw [setState_current, hall]
        exact mem_cons_self
      · exact .inHand ((hold d' c).2 ⟨hdd, hd'⟩) }

lemma reset (hr : ∀ g ∈ p.retired, g ≤ p.state) : Books p.reset calls := by
  unfold ConnPool.reset
  split
  · exact h
  have hne : ∀ g, g ≠ p.state + 1 → update p.states (p.state + 1) {} g = p.states g :=
    fun g hg => update_of_ne hg ..
  have hself : update p.states (p.state + 1) ({} : ConnPoolState T) (p.state + 1) = {} := update_self ..
  exact {
    h with
    waiting := fun g => by
      by_cases hg : g = p.state + 1
      · subst hg
        simp only [hself]
        rw [h.ahead _ (Nat.lt_succ_self _)]
        rfl
      · simp only [hne g hg]
        exact h.waiting g
    ahead := fun g hg => h.ahead g (Nat.lt_of_succ_lt hg)
    states := fun g => by
      by_cases hg : g = p.state + 1
      · subst hg
        simp only [hself]
        exact ⟨nofun, nofun, fun _ => rfl, nofun⟩
      · simp only [hne g hg]
        exact (h.states g).same rfl
    current := fun _ => by
      simp only [ConnPool.current, hself]
      exact ⟨fun _ => ⟨rfl, rfl⟩, nofun, nofun, nodup_nil, nofun⟩
    placed := fun c hc => by
      -- the old state object waits to be closed
      rcases h.placed c hc with ⟨-, hc⟩ | hc | hc | ⟨g, hg, hc⟩ | hc
      · refine .retired mem_cons_self ?_
        simp only [hne p.state (by omega)]
        exact hc
      · exact .inr (.inl hc)
      · exact .inr (.inr (.inl hc))
      · refine .retired (mem_cons_of_mem _ hg) ?_
        simp only [hne g (by have := hr g hg; omega)]
        exact hc
      · exact .inr (.inr (.inr (.inr hc))) }

lemma close : Books p.close calls := by
  unfold ConnPool.close
  split
  · exact h
  exact {
    h with
    states := fun g => (h.states g).same rfl
    current := nofun
    placed := fun c hc => by
      rcases h.placed c hc with ⟨-, hc⟩ | hc | hc | ⟨g, hg, hc⟩ | hc
      · exact .retired mem_cons_self hc
      · exact .inr (.inl hc)
      · exact .inr (.inr (.inl hc))
      · exact .retired (mem_cons_of_mem _ hg) hc
      · exact .inr (.inr (.inr (.inr hc))) }

lemma closeState (g : Nat) : Books (p.closeState g) calls := by
  have hst : ∀ g', ∃ x, update p.states g { p.states g with ctx := some .closed } g' =
      { p.states g' with ctx := x } := by
    intro g'
    by_cases hg : g' = g
    · subst hg
      exact ⟨some .closed, update_self ..⟩
    · exact ⟨_, update_of_ne hg ..⟩
  have h' : Books { p with
      states := update p.states g { p.states g with ctx := some .closed }
      retired := p.retired.erase g
      closing := (p.states g).all.map (·, Err.closed) ++ p.closing } calls := {
    h with
    waiting := fun g' => by
      obtain ⟨x, he⟩ := hst g'
      simp only [he]
      exact h.waiting g'
    states := fun g' => by
      obtain ⟨x, he⟩ := hst g'
      simp only [he]
      exact ⟨(h.states g').dialed, (h.states g').shared, (h.states g').ordered, (h.states g').installed⟩
    current := fun hcl => by
      obtain ⟨x, he⟩ := hst p.state
      have hcur := h.current hcl
      simp only [ConnPool.current, he]
      exact { hcur with }
    placed := fun c hc => by
      have hgrow : ∀ g', c ∈ (p.states g').all →
          c ∈ (update p.states g { p.states g with ctx := some .closed } g').all := by
        intro g' hg'
        obtain ⟨x, he⟩ := hst g'
        rw [he]
        exact hg'
      rcases h.placed c hc with ⟨ho, hc⟩ | hc | ⟨cause, hc⟩ | ⟨g', hg', hc⟩ | hc
      · exact .inl ⟨ho, hgrow _ hc⟩
      · exact .inr (.inl hc)
      · exact .closing (mem_append_right _ hc)
      · by_cases hgg : g' = g
        · exact .closing (mem_append_left _ (mem_map.2 ⟨c, hgg ▸ hc, rfl⟩))
        · exact .retired ((mem_erase_of_ne hgg).2 hg') (hgrow g' hc)
      · exact .inr (.inr (.inr (.inr hc))) }
  unfold ConnPool.closeState
  dsimp only
  split
  · exact h'.frame _ _ _
  · exact h'

lemma closeConn {k : Nat} {p' : ConnPool T} (hs : p.closeConn k = some p') : Books p' calls := by
  obtain ⟨x, hx, rfl⟩ := Option.map_eq_some_iff.1 hs
  exact {
    h with
    states := fun g => (h.states g).same rfl
    placed := fun c hc => by
      rcases h.placed c hc with hc | ⟨cause, hc⟩ | ⟨cause, hc⟩ | hc
      · exact .inl hc
      · exact .inr (.inl ⟨cause, mem_cons_of_mem _ hc⟩)
      · obtain ⟨j, hj⟩ := mem_iff_getElem?.1 hc
        by_cases hjk : j = k
        · subst hjk
          obtain rfl := Option.some.inj (hx.symm.trans hj)
          exact .inr (.inl ⟨cause, mem_cons_self⟩)
        · exact .closing (mem_eraseIdx_iff_getElem?.2 ⟨j, hjk, hj⟩)
      · exact .inr (.inr (.inr hc)) }

end
end Books

/-! ## Numbers of dials and state objects -/

/-- Numbers are given out in order, and a state object without a shared connection has at most one dial. -/
structure Numbered (p : ConnPool T) : Prop where
  below : ∀ d, p.nextDial ≤ d → p.dials d = none
  retired : ∀ g ∈ p.retired, g ≤ p.state
  connecting : p.mode = .single → ∀ d dial, p.dials d = some dial → (∀ err, dial.phase ≠ .ended err) →
    dial.state ≤ p.state ∧ (p.states dial.state).connecting = some d ∧ (p.states dial.state).shared = none

namespace Numbered
variable {p : ConnPool T} (h : Numbered p)
include h

section
omit [DecidableEq T]

lemma frame (inflight : Nat) (sharedCtx : T → Option Err) (dialed : List T) (closing closedConns : List (T × Err)) :
    Numbered { p with inflight, sharedCtx, dialed, closing, closedConns } :=
  { h with }

lemma willClose (conn : T) (cause : Err) : Numbered (p.willClose conn cause) := h.frame _ _ _ _ _

lemma setState {g : Nat} {st : ConnPoolState T} (hc : st.connecting = (p.states g).connecting)
    (hs : (p.states g).shared = none → st.shared = none) : Numbered (p.setState g st) where
  __ := h
  connecting hm d dial hd hph := by
    obtain ⟨hle, hcon, hsh⟩ := h.connecting hm d dial hd hph
    refine ⟨hle, ?_⟩
    by_cases hg : dial.state = g
    · subst hg
      rw [setState_states_self]
      exact ⟨hc.trans hcon, hs hsh⟩
    · rw [p.setState_states_ne hg]
      exact ⟨hcon, hsh⟩

lemma startDial {g ctx : Nat} (hc : p.mode = .single →
      g ≤ p.state ∧ (p.states g).connecting = some p.nextDial ∧ (p.states g).shared = none) :
    Numbered (p.startDial g ctx) where
  below d hd := by
    change update p.dials p.nextDial _ d = none
    rw [update_of_ne (by have : p.nextDial + 1 ≤ d := hd; omega)]
    exact h.below d (Nat.le_of_succ_le hd)
  retired := h.retired
  connecting hm d dial hd hph := by
    change update p.dials p.nextDial _ d = some dial at hd
    by_cases hdd : d = p.nextDial
    · subst hdd
      rw [update_self] at hd
      cases hd
      exact hc hm
    · rw [update_of_ne hdd] at hd
      exact h.connecting hm d dial hd hph

lemma setDial {d : Nat} {dial : Dial T} {phase : DialPhase T} (hd : p.dials d = some dial)
    (hph : ∀ err, dial.phase ≠ .ended err) : Numbered (p.setDial d { dial with phase }) where
  below d' hd' := by
    have hne : d' ≠ d := by rintro rfl; exact nomatch (h.below d' hd').symm.trans hd
    exact (update_of_ne hne ..).trans (h.below d' hd')
  retired := h.retired
  connecting hm d' dial' hd' hph' := by
    change update p.dials d _ d' = some dial' at hd'
    by_cases hdd : d' = d
    · subst hdd
      rw [update_self] at hd'
      cases hd'
      exact h.connecting hm d' dial hd hph
    · rw [update_of_ne hdd] at hd'
      exact h.connecting hm d' dial' hd' hph'

lemma endDial (hm : p.mode = .single) {d : Nat} {dial : Dial T} {st : ConnPoolState T}
    (hd : p.dials d = some dial) (hph : ∀ err, dial.phase ≠ .ended err) (err : Option Err) :
    Numbered ((p.setState dial.state st).setDial d { dial with phase := .ended err }) where
  below := (h.setDial hd hph).below
  retired := h.retired
  connecting _ d' dial' hd' hph' := by
    change update p.dials d _ d' = some dial' at hd'
    by_cases hdd : d' = d
    · subst hdd
      rw [update_self] at hd'
      cases hd'
      exact absurd rfl (hph' err)
    rw [update_of_ne hdd] at hd'
    obtain ⟨hle, hcon, hsh⟩ := h.connecting hm d' dial' hd' hph'
    -- no two dials of one state object are unfinished
    have hne : dial'.state ≠ dial.state := by
      intro he
      have := (h.connecting hm d dial hd hph).2.1
      rw [← he, hcon] at this
      exact hdd (Option.some.inj this)
    rw [show ((p.setState dial.state st).setDial d _).states = (p.setState dial.state st).states from rfl,
      p.setState_states_ne hne]
    exact ⟨hle, hcon, hsh⟩

lemma reset : Numbered p.reset := by
  unfold ConnPool.reset
  split
  · exact h
  refine ⟨h.below, forall_mem_cons.2 ⟨Nat.le_succ _, fun g hg => Nat.le_succ_of_le (h.retired g hg)⟩, ?_⟩
  intro hm d dial hd hph
  obtain ⟨hle, hcon⟩ := h.connecting hm d dial hd hph
  refine ⟨Nat.le_succ_of_le hle, ?_⟩
  simp only [update_of_ne (show dial.state ≠ p.state + 1 by omega)]
  exact hcon

lemma close : Numbered p.close := by
  unfold ConnPool.close
  split
  · exact h
  · exact ⟨h.below, forall_mem_cons.2 ⟨Nat.le_refl _, h.retired⟩, h.connecting⟩

end

lemma removeConn (conn : T) (cause : Err) : Numbered (p.removeConn p.state conn cause) := by
  have h' : Numbered (p.setState p.state (p.current.removeConn p.mode conn)) := by
    apply h.setState
    · cases hm : p.mode with
      | single => unfold ConnPoolState.removeConn; dsimp only; split <;> rfl
      | ordered => rfl
    intro hs
    cases hm : p.mode with
    | single => simp [ConnPoolState.removeConn, current, hs]
    | ordered => exact hs
  unfold ConnPool.removeConn
  split
  · exact h'.frame _ _ _ _ _
  · exact h'

lemma closeState (g : Nat) : Numbered (p.closeState g) := by
  have h' : Numbered (p.setState g { p.states g with ctx := some .closed }) := h.setState rfl id
  have h' : Numbered { p with
      states := update p.states g { p.states g with ctx := some .closed }
      retired := p.retired.erase g
      closing := (p.states g).all.map (·, Err.closed) ++ p.closing } :=
    ⟨h'.below, fun g' hg' => h.retired g' (mem_of_mem_erase hg'), h'.connecting⟩
  unfold ConnPool.closeState
  dsimp only
  split
  · exact h'.frame _ _ _ _ _
  · exact h'

end Numbered
end SingBox.Dns.Transport
