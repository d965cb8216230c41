import Mathlib.Data.List.Basic
/-!
# The connection pool of the DNS transports

`ConnPool` hands out connections under one lock. In single mode the callers
share one connection and wait together for its dial; in ordered mode a
connection has one holder at a time and the released ones queue up. `Reset`
swaps the whole state object, so a call may end on a state object that is no
longer the pool's.

Each function below is one critical section of the source. What a call does
after it unlocked is work left for later: a `Close` of a connection
(`closing`), a `closeState` of a swapped state object (`retired`), a running
`dial` (`dials`). State objects are numbered in the order of their creation.
-/
namespace SingBox.Dns.Transport
open Function

/-- An error, as far as the pool and its users tell errors apart. -/
inductive Err
  /-- Stands for `net.ErrClosed`. -/
  | closed
  | canceled
  | deadlineExceeded
  /-- An error of the dialer or of the connection. -/
  | external (code : Nat)
  | queryMultiplexerReadError (cause : Err)
  /-- An error made by `E.Cause`. -/
  | wrapped (err : Err) (text : String)
  /-- An error made by `E.New`. -/
  | text (text : String)
  deriving DecidableEq

/-- A finished context: `ctx.Err()` and `context.Cause(ctx)`. -/
structure Done where
  err : Err
  cause : Err

inductive ConnPoolMode
  | single
  | ordered
  deriving DecidableEq

/-- A state object. `ctx` is the cause its context was cancelled with; the keys of `idleElements` are the
members of `idle`. -/
structure ConnPoolState (T : Type) where
  ctx : Option Err := none
  all : List T := []
  idle : List T := []
  shared : Option T := none
  sharedClaimed : Bool := false
  sharedUsers : Int := 0
  sharedWaiters : Int := 0
  connecting : Option Nat := none

/-- How far a call of `dial` is. In single mode `ended` is `state.done` closed, with `state.err`. -/
inductive DialPhase (T : Type)
  | dialing
  | failed (err : Err)
  | dialed (conn : T)
  | ended (err : Option Err)
  deriving DecidableEq

/-- A dial for a state object, under the context of the call that started it. -/
structure Dial (T : Type) where
  state : Nat
  ctx : Nat
  phase : DialPhase T

structure ConnPool (T : Type) where
  mode : ConnPoolMode
  /-- No semaphore if zero. -/
  maxInflight : Nat
  inflight : Nat := 0
  closed : Bool := false
  /-- The number of the current state object. -/
  state : Nat := 0
  states : Nat → ConnPoolState T := fun _ => {}
  dials : Nat → Option (Dial T) := fun _ => none
  nextDial : Nat := 0
  /-- The cause with which the shared context of a connection was cancelled. -/
  sharedCtx : T → Option Err := fun _ => none
  /-- Every connection `dial` ever returned. -/
  dialed : List T := []
  retired : List Nat := []
  closing : List (T × Err) := []
  closedConns : List (T × Err) := []

/-- Where a call of `Acquire` stands between two critical sections. -/
inductive Acquire
  | looking
  | waiting (state dial : Nat) (startDial : Bool)
  | slot (state : Nat)
  | dialing (dial : Nat)
  deriving DecidableEq

inductive Acquired (T : Type)
  | running (at_ : Acquire)
  | acquired (conn : T) (created : Bool)
  | failed (err : Err)

variable {T : Type} [DecidableEq T]

/-- What `removeConn` does to the fields of the state object. -/
def ConnPoolState.removeConn (st : ConnPoolState T) (mode : ConnPoolMode) (conn : T) : ConnPoolState T :=
  let st := { st with all := st.all.filter (· ≠ conn) }
  match mode with
  | .single =>
    if st.shared = some conn then { st with shared := none, sharedClaimed := false, sharedUsers := 0 } else st
  | .ordered => { st with idle := st.idle.filter (· ≠ conn) }

namespace ConnPoolState
variable (st : ConnPoolState T) {mode : ConnPoolMode} {conn c : T}

lemma removeConn_sharedWaiters : (st.removeConn mode conn).sharedWaiters = st.sharedWaiters := by
  cases mode with
  | single => unfold removeConn; dsimp only; split <;> rfl
  | ordered => rfl

lemma mem_removeConn_all {st : ConnPoolState T} : c ∈ (st.removeConn mode conn).all ↔ c ∈ st.all ∧ c ≠ conn := by
  cases mode with
  | single => unfold removeConn; dsimp only; split <;> simp
  | ordered => simp [removeConn]

/-- Apart from `all`, a state object only loses its shared connection, or an idle one. -/
lemma removeConn_cases (ho : mode = .ordered → st.shared = none) :
    ((st.removeConn mode conn).shared = none ∧ (st.removeConn mode conn).sharedUsers = 0 ∧
      (st.removeConn mode conn).sharedClaimed = false ∧ st.shared = some conn) ∨
    ((st.removeConn mode conn).shared = st.shared ∧ (st.removeConn mode conn).sharedUsers = st.sharedUsers ∧
      (st.removeConn mode conn).sharedClaimed = st.sharedClaimed ∧ st.shared ≠ some conn) := by
  cases mode with
  | single =>
    by_cases h : st.shared = some conn
    · exact .inl (by simp [removeConn, h])
    · exact .inr (by simp [removeConn, h])
  | ordered => exact .inr (by simp [removeConn, ho rfl])

lemma removeConn_idle (mode : ConnPoolMode) (conn : T) : (st.removeConn mode conn).idle.Sublist st.idle := by
  cases mode with
  | single => unfold removeConn; dsimp only; split <;> exact List.Sublist.refl _
  | ordered => exact List.filter_sublist

lemma removeConn_idle_ne {st : ConnPoolState T} (hm : mode = .ordered) (h : c ∈ (st.removeConn mode conn).idle) :
    c ≠ conn := by
  subst hm
  simpa using (List.mem_filter.1 h).2

end ConnPoolState

namespace ConnPool

def newConnPool (mode : ConnPoolMode) (maxInflight : Nat) : ConnPool T := { mode, maxInflight }
def current (p : ConnPool T) : ConnPoolState T := p.states p.state

def setState (p : ConnPool T) (g : Nat) (st : ConnPoolState T) : ConnPool T :=
  { p with states := update p.states g st }

omit [DecidableEq T] in
@[simp] lemma setState_states_self (p : ConnPool T) (g : Nat) (st : ConnPoolState T) :
    (p.setState g st).states g = st := update_self ..

omit [DecidableEq T] in
lemma setState_states_ne (p : ConnPool T) {g g' : Nat} (h : g' ≠ g) (st : ConnPoolState T) :
    (p.setState g st).states g' = p.states g' := update_of_ne h ..

omit [DecidableEq T] in
@[simp] lemma setState_current (p : ConnPool T) (st : ConnPoolState T) :
    (p.setState p.state st).current = st := update_self ..

omit [DecidableEq T] in
lemma setState_self (p : ConnPool T) : p.setState p.state p.current = p := by
  unfold setState current
  rw [update_eq_self]

section
variable (p : ConnPool T)

def setDial (d : Nat) (dial : Dial T) : ConnPool T :=
  { p with dials := update p.dials d (some dial) }

/-- The call of `options.Close` that follows the critical section. -/
def willClose (conn : T) (cause : Err) : ConnPool T :=
  { p with closing := (conn, cause) :: p.closing }

def cancelShared (conn : T) (cause : Err) : ConnPool T :=
  { p with sharedCtx := update p.sharedCtx conn (some ((p.sharedCtx conn).getD cause)) }

def removeConn (g : Nat) (conn : T) (cause : Err) : ConnPool T :=
  let p' := p.setState g ((p.states g).removeConn p.mode conn)
  if p.mode = .single ∧ (p.states g).shared = some conn then p'.cancelShared conn cause else p'

lemma removeConn_shared_ne {p : ConnPool T} (ho : p.mode = .ordered → p.current.shared = none) (conn : T)
    (cause : Err) : (p.removeConn p.state conn cause).current.shared ≠ some conn := by
  have h : (p.current.removeConn p.mode conn).shared ≠ some conn := by
    rcases p.current.removeConn_cases ho with ⟨he, -⟩ | ⟨he, -, -, hne⟩ <;> rw [he]
    · exact nofun
    · exact hne
  have hcur : (p.removeConn p.state conn cause).current = p.current.removeConn p.mode conn := by
    unfold removeConn
    split <;> exact update_self ..
  rwa [hcur]

/-! ## Giving connections back -/

/-- Releases `conn`; `alive` is what `IsAlive(conn)` says, should it be asked. -/
def release (conn : T) (reuse alive : Bool) : ConnPool T :=
  if p.closed then p.willClose conn .closed
  else if conn ∉ p.current.all then p.willClose conn .closed
  else if !reuse || !alive then (p.removeConn p.state conn .closed).willClose conn .closed
  else
    match p.mode with
    | .single =>
      if p.current.shared = some conn ∧ 0 < p.current.sharedUsers then
        p.setState p.state { p.current with sharedUsers := p.current.sharedUsers - 1 }
      else p
    | .ordered =>
      if conn ∈ p.current.idle then p
      else p.setState p.state { p.current with idle := p.current.idle ++ [conn] }

def invalidate (conn : T) (cause : Err) : ConnPool T :=
  if p.closed then p.willClose conn cause
  else if conn ∉ p.current.all then p
  else (p.removeConn p.state conn cause).willClose conn cause

def closeIdle : ConnPool T :=
  if p.closed then p
  else
    match p.mode, p.current.shared with
    | .single, some conn =>
      if 0 < p.current.sharedUsers ∨ 0 < p.current.sharedWaiters then p
      else (p.removeConn p.state conn .closed).willClose conn .closed
    | _, _ => p

def reset : ConnPool T :=
  if p.closed then p
  else
    { p with
      state := p.state + 1
      states := update p.states (p.state + 1) {}
      retired := p.state :: p.retired }

def close : ConnPool T :=
  if p.closed then p else { p with closed := true, retired := p.state :: p.retired }

/-- Cancels the context of a swapped state object, the shared context below it included, and closes its
connections. -/
def closeState (g : Nat) : ConnPool T :=
  let p := { p with
    states := update p.states g { p.states g with ctx := some .closed }
    retired := p.retired.erase g
    closing := (p.states g).all.map (·, Err.closed) ++ p.closing }
  match (p.states g).shared with
  | some conn => p.cancelShared conn .closed
  | none => p

/-- Runs the `k`-th outstanding call of `options.Close`. -/
def closeConn (k : Nat) : Option (ConnPool T) :=
  p.closing[k]?.map fun c => { p with closing := p.closing.eraseIdx k, closedConns := c :: p.closedConns }

/-! ## Dialing -/

/-- `context.Cause(dialCtx)`, or the state object's cause if its cancellation could not be stopped. When
both contexts are done, `stateFirst` says which one reached `dialCtx` first. -/
def dialErr (ctx : Option Done) (state : Option Err) (stateFirst : Bool) : Option Err :=
  match ctx, state with
  | none, state => state
  | some done, none => some done.cause
  | some done, some cause => some (if stateFirst then cause else done.cause)

def startDial (g ctx : Nat) : ConnPool T :=
  { p.setDial p.nextDial { state := g, ctx, phase := .dialing } with nextDial := p.nextDial + 1 }

/-- The return of `dial`, with a connection it has not returned before or an error. -/
def dialReturns (ctxs : Nat → Option Done) (d : Nat) (result : Except Err T) (stateFirst : Bool) :
    Option (ConnPool T) :=
  match p.dials d with
  | some dial =>
    if dial.phase ≠ .dialing then none
    else
      let dialErr := dialErr (ctxs dial.ctx) (p.states dial.state).ctx stateFirst
      match result, dialErr with
      | .error err, dialErr => some (p.setDial d { dial with phase := .failed (dialErr.getD err) })
      | .ok conn, dialErr =>
        if conn ∈ p.dialed then none
        else
          let p := { p with dialed := conn :: p.dialed }
          match dialErr with
          | some err => some ((p.willClose conn err).setDial d { dial with phase := .failed err })
          | none => some (p.setDial d { dial with phase := .dialed conn })
  | none => none

/-- The critical section at the end of `connectSingle`, and what follows it. -/
def connectSingle (d : Nat) : Option (ConnPool T) :=
  match p.mode, p.dials d with
  | .single, some dial =>
    let st := { p.states dial.state with connecting := none }
    match dial.phase with
    | .failed err => some ((p.setState dial.state st).setDial d { dial with phase := .ended (some err) })
    | .dialed conn =>
      if p.closed ∨ p.state ≠ dial.state then
        some (((p.setState dial.state st).setDial d { dial with phase := .ended (some .closed) }).willClose conn .closed)
      else
        some ((p.setState dial.state { st with shared := some conn, all := conn :: st.all }).setDial d
          { dial with phase := .ended none })
    | _ => none
  | _, _ => none

/-! ## Acquiring -/

def leaveWait (g : Nat) : ConnPool T :=
  p.setState g { p.states g with sharedWaiters := (p.states g).sharedWaiters - 1 }

/-- Hands out the shared connection `conn`, or drops it if it is dead. -/
def takeShared (conn : T) (alive : Bool) : ConnPool T × Acquired T :=
  if alive then
    (p.setState p.state { p.current with sharedClaimed := true, sharedUsers := p.current.sharedUsers + 1 },
      .acquired conn (!p.current.sharedClaimed))
  else ((p.removeConn p.state conn .closed).willClose conn .closed, .running .looking)

/-- The first critical section of a round of `acquireShared`. -/
def acquireShared (ctx : Nat) (alive : Bool) : ConnPool T × Acquired T :=
  if p.closed then (p, .failed .closed)
  else
    match p.current.shared with
    | some conn => p.takeShared conn alive
    | none =>
      let waiters := p.current.sharedWaiters + 1
      match p.current.connecting with
      | some d => (p.setState p.state { p.current with sharedWaiters := waiters }, .running (.waiting p.state d false))
      | none =>
        ((p.setState p.state { p.current with sharedWaiters := waiters, connecting := some p.nextDial }).startDial
          p.state ctx, .running (.waiting p.state p.nextDial true))

def collectShared (g : Nat) (err : Option Err) (startDial alive : Bool) : ConnPool T × Acquired T :=
  let p := p.leaveWait g
  match err with
  | some err => (p, if startDial then .failed err else .running .looking)
  | none =>
    if p.closed ∨ p.state ≠ g then (p, .failed .closed)
    else
      match p.current.shared with
      | none => (p, .running .looking)
      | some conn => p.takeShared conn alive

/-- A round of `acquireOrdered`. -/
def acquireOrdered (alive : Bool) : ConnPool T × Acquired T :=
  if p.closed then (p, .failed .closed)
  else
    match p.current.idle with
    | [] => (p, .running (.slot p.state))
    | conn :: idle =>
      if alive then (p.setState p.state { p.current with idle }, .acquired conn false)
      else
        ((p.setState p.state { p.current with idle, all := p.current.all.filter (· ≠ conn) }).willClose conn .closed,
          .running .looking)

def acquireSlot : Option (ConnPool T) :=
  if p.maxInflight = 0 then some p
  else if p.inflight < p.maxInflight then some { p with inflight := p.inflight + 1 }
  else none

end

omit [DecidableEq T] in
lemma acquireSlot_eq {p p' : ConnPool T} (h : p.acquireSlot = some p') : ∃ n, p' = { p with inflight := n } := by
  unfold acquireSlot at h
  split at h
  · exact ⟨p.inflight, (Option.some.inj h).symm⟩
  split at h
  · exact ⟨_, (Option.some.inj h).symm⟩
  · cases h

variable (p : ConnPool T)

def releaseSlot : ConnPool T :=
  { p with inflight := if p.maxInflight = 0 then p.inflight else p.inflight - 1 }

/-- The end of `dialAndInstall`, after the dial `d` returned. -/
def dialAndInstall (d : Nat) : Option (ConnPool T × Acquired T) :=
  match p.dials d with
  | some dial =>
    match dial.phase with
    | .failed err => some (p.releaseSlot.setDial d { dial with phase := .ended (some err) }, .failed err)
    | .dialed conn =>
      if p.closed ∨ p.state ≠ dial.state then
        some ((p.releaseSlot.setDial d { dial with phase := .ended (some .closed) }).willClose conn .closed,
          .failed .closed)
      else
        some ((p.releaseSlot.setState p.state { p.current with all := conn :: p.current.all }).setDial d
          { dial with phase := .ended none }, .acquired conn true)
    | _ => none
  | none => none

/-- Which way a call of `Acquire` goes on. -/
inductive Move
  /-- The next round of the loop. -/
  | look (alive : Bool)
  /-- The three cases of the `select`. -/
  | collect (alive : Bool)
  | ctxDone
  | stateDone
  | slot
  | noSlot
  | install

/-- What the connection's `IsAlive` answers on the way. -/
def Move.alive : Move → Bool
  | .look alive => alive
  | .collect alive => alive
  | _ => true

/-- The next critical section of a call of `Acquire` with the context `ctx`. -/
def acquireStep (ctxs : Nat → Option Done) (ctx : Nat) : Acquire → Move → Option (ConnPool T × Acquired T)
  | .looking, .look alive =>
    match p.mode with
    | .single => some (p.acquireShared ctx alive)
    | .ordered => some (p.acquireOrdered alive)
  | .waiting g d startDial, .collect alive =>
    match p.dials d with
    | some { phase := .ended err, .. } => some (p.collectShared g err startDial alive)
    | _ => none
  | .waiting g _ _, .ctxDone => (ctxs ctx).map fun done => (p.leaveWait g, .failed done.err)
  | .waiting g _ _, .stateDone =>
    (p.states g).ctx.map fun _ => (p.leaveWait g, if p.closed then .failed .closed else .running .looking)
  | .slot g, .slot =>
    if p.mode = .ordered then p.acquireSlot.map fun p => (p.startDial g ctx, .running (.dialing p.nextDial)) else none
  | .slot g, .noSlot =>
    if p.maxInflight = 0 then none
    else
      match ctxs ctx, (p.states g).ctx with
      | some done, _ => some (p, .failed done.err)
      | none, some cause => some (p, .failed cause)
      | none, none => none
  | .dialing d, .install => if p.mode = .ordered then p.dialAndInstall d else none
  | _, _ => none

/-- How `Acquire` starts, and `AcquireShared` (`sharedOnly`), which wants the single mode. -/
def acquire (sharedOnly : Bool) : Acquired T :=
  if sharedOnly ∧ p.mode ≠ .single then .failed .closed else .running .looking

end ConnPool
end SingBox.Dns.Transport
