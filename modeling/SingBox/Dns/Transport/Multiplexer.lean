import Mathlib.Algebra.Ring.Nat
import SingBox.Dns.Transport.ConnPool
/-!
# The query multiplexer

`queryMultiplexer` sends the queries of many callers over one connection of a
pool. A query waits in `queries` under a 16-bit ID; a response, the query's
context, the end of its connection and a failed write all try to take it from
there.

A goroutine is the list of what it still has to do (`Action`), and a step of
the system is one action of one goroutine: one critical section, one operation
on an atomic, or one call into the pool, the connection or a callback. What
the network or the clock answers is the choice of the step.
-/
namespace SingBox.Dns.Transport

/-! ## Data -/

def Err.isReadError : Err → Bool
  | .queryMultiplexerReadError _ => true
  | _ => false

/-- A request: its own ID, and whether it has a question. -/
structure Query where
  id : UInt16
  hasQuestion : Bool
  deriving DecidableEq

structure Response where
  id : UInt16
  body : Nat
  deriving DecidableEq

/-- One call of `ExchangeAsync`; its number stands for its callback. -/
structure Exchange where
  number : Nat
  ctx : Nat
  message : Query
  deriving DecidableEq

abbrev MultiplexConn := Nat

/-- An entry of `queries`. `retry` says that `retryCtx` is set, then to the context of the exchange; `registration`
is the number of the pair of `AfterFunc`s behind `stopContext` and `stopConn`. -/
structure PendingQuery where
  conn : MultiplexConn
  exchange : Exchange
  readEpoch : UInt64
  retry : Bool
  registration : Nat
  deriving DecidableEq

/-- The two `AfterFunc`s of an entry. One that was stopped in time never runs. -/
structure Registration where
  queryId : UInt16
  exchange : Exchange
  conn : MultiplexConn
  contextStopped : Bool := false
  contextRan : Bool := false
  connStopped : Bool := false
  connRan : Bool := false

inductive ReuseState
  | unknown
  | probing
  | supported
  | unsupported
  deriving DecidableEq

def reuseProbeRetryInterval : Nat := 60
def reuseDemoteFailureLimit : Nat := 3

/-- Where a response was read. -/
inductive Origin
  | shared (conn : MultiplexConn)
  /-- The connection of one call of `exchangeSingle`. -/
  | single (number : Nat)
  deriving DecidableEq

/-- What a callback is invoked with. For a response, `readFrom` is where it was read and `writtenTo` where the
query was written. -/
inductive Outcome
  | response (message : Response) (readFrom writtenTo : Origin)
  | failure (err : Err)
  deriving DecidableEq

/-- The query that `exchangeAsync` is working on, and its locals. -/
structure Attempt where
  exchange : Exchange
  retryReadError : Bool
  firstAttempt : Bool
  deriving DecidableEq

inductive Action
  /-- The start of `dispatch`. -/
  | dispatch (x : Exchange) (retryReadError : Bool)
  | maybeStartProbe (message : Query)
  | goExchangeSingle (x : Exchange)
  /-- The end of `runReuseProbe`. -/
  | probe (epoch : UInt32)
  | acquire (a : Attempt) (at_ : Acquire)
  | register (a : Attempt) (conn : MultiplexConn) (created : Bool)
  | write (a : Attempt) (conn : MultiplexConn) (created : Bool) (queryId : UInt16) (registration : Nat)
  | writeFailed (a : Attempt) (conn : MultiplexConn) (created : Bool) (queryId : UInt16) (registration : Nat)
      (err : Err)
  | completeContextDone (queryId : UInt16) (ctx : Nat)
  | completeConnDone (queryId : UInt16) (conn : MultiplexConn)
  | recvLoop (conn : MultiplexConn)
  | complete (conn : MultiplexConn) (message : Response)
  | recordConnDeath (conn : MultiplexConn)
  | demote
  | stop (registration : Nat)
  | release (conn : MultiplexConn)
  | invalidate (conn : MultiplexConn) (cause : Err)
  /-- What `completeContextDone` does to the connection of the entry it took. -/
  | settle (pending : PendingQuery) (err : Err)
  | callback (x : Exchange) (outcome : Outcome)
  | closeIdleConnection
  | closeIdle
  | setKeepIdle (keep : Bool)
  | resetProbe
  | resetPool
  | closePool
  | singleDial (x : Exchange)
  | singleWrite (x : Exchange)
  | singleRead (x : Exchange)
  deriving DecidableEq

/-- An invocation of a callback. -/
structure Answer where
  exchange : Exchange
  outcome : Outcome

structure QueryMultiplexer where
  retryReadError : Bool
  probeReuse : Bool
  connection : ConnPool MultiplexConn := .newConnPool .single 0
  queryId : UInt16 := 0
  queries : List (UInt16 × PendingQuery) := []
  reuseState : ReuseState := .unknown
  demoteFailures : Nat := 0
  keepIdle : Bool := true
  probeEpoch : UInt32 := 0
  /-- In seconds, once there was a probe. -/
  lastProbeTime : Option Nat := none
  readEpoch : MultiplexConn → UInt64 := fun _ => 0
  -- the world around it
  ctxs : Nat → Option Done := fun _ => none
  registrations : List Registration := []
  goroutines : List (List Action) := []
  exchanges : Nat := 0
  answers : List Answer := []
  /-- The connections on which a read failed. -/
  readFailed : List MultiplexConn := []

namespace QueryMultiplexer

/-! ## The table of pending queries -/

section
variable (m : QueryMultiplexer)

section
variable (queryId : UInt16)

def lookup : Option PendingQuery :=
  (m.queries.find? (·.1 = queryId)).map Prod.snd

/-- The loop of `register`: counts on to an ID that is not in use, until it is back at `start`. -/
def nextQueryId (used : UInt16 → Bool) (start : UInt16) : Nat → UInt16 → UInt16 × Bool
  | 0, queryId => (queryId, false)
  | n + 1, queryId =>
    if !used (queryId + 1) then (queryId + 1, true)
    else if queryId + 1 = start then (queryId + 1, false)
    else nextQueryId used start n (queryId + 1)

/-- Registers the query; the retry flag is `retryReadError && options.retryReadError && !created`. -/
def register (a : Attempt) (conn : MultiplexConn) (created : Bool) : QueryMultiplexer × List Action :=
  match nextQueryId (fun queryId => (m.lookup queryId).isSome) m.queryId (2 ^ 16) m.queryId with
  | (queryId, true) =>
    let pending := {
      conn, exchange := a.exchange, readEpoch := m.readEpoch conn
      retry := a.retryReadError && m.retryReadError && !created, registration := m.registrations.length }
    ({ m with
        queryId, queries := (queryId, pending) :: m.queries
        registrations := m.registrations ++ [{ queryId, exchange := a.exchange, conn }] },
      [.write a conn created queryId m.registrations.length])
  | (queryId, false) =>
    ({ m with queryId },
      [.release conn, .closeIdleConnection, .callback a.exchange (.failure (.text "no available query ID"))])

/-- The critical section of `take`. -/
def take : QueryMultiplexer × Option PendingQuery :=
  ({ m with queries := m.queries.eraseP (·.1 = queryId) }, m.lookup queryId)

/-- A `take` and what follows it, with the entry or without it. -/
def taking (found : PendingQuery → List Action) (missing : List Action) : QueryMultiplexer × List Action :=
  ((m.take queryId).1,
    match (m.take queryId).2 with
    | some pending => found pending
    | none => missing)

/-! ## Reuse of connections -/

def maybeStartProbe (message : Query) (now : Nat) : QueryMultiplexer × List (List Action) :=
  if !message.hasQuestion then (m, [])
  else if m.reuseState = .probing then (m, [])
  else if (m.lastProbeTime.any fun last => now - last < reuseProbeRetryInterval) then (m, [])
  else ({ m with reuseState := .probing, lastProbeTime := some now }, [[.probe m.probeEpoch]])

/-- `supported` and `dialFailed` are the results of `executeReuseProbe`. -/
def runReuseProbe (epoch : UInt32) (supported dialFailed : Bool) : QueryMultiplexer :=
  if m.probeEpoch ≠ epoch then m
  else if supported then { m with reuseState := .supported, demoteFailures := 0 }
  else if dialFailed then { m with reuseState := .unknown }
  else { m with reuseState := .unsupported }

def recordConnDeath (conn : MultiplexConn) : QueryMultiplexer × List Action :=
  if !m.probeReuse || m.reuseState ≠ .supported then (m, [])
  else if m.readEpoch conn = 0 then (m, [])
  else if m.queries.countP (·.2.conn = conn) = 0 then ({ m with demoteFailures := 0 }, [])
  else if m.demoteFailures + 1 < reuseDemoteFailureLimit then ({ m with demoteFailures := m.demoteFailures + 1 }, [])
  else ({ m with demoteFailures := m.demoteFailures + 1 }, [.demote])

def demote (now : Nat) : QueryMultiplexer :=
  if m.reuseState = .supported then
    { m with reuseState := .unsupported, lastProbeTime := some now, demoteFailures := 0 }
  else { m with demoteFailures := 0 }

def resetProbe : QueryMultiplexer :=
  if m.probeReuse then
    { m with probeEpoch := m.probeEpoch + 1, reuseState := .unknown, lastProbeTime := none, demoteFailures := 0 }
  else m

/-! ## Completing a query -/

def ctxErr (ctx : Nat) : Option Err := (m.ctxs ctx).map Done.err

/-- `stopContext()` and `stopConn()`: too late once the context is done. -/
def stop (registration : Nat) : QueryMultiplexer :=
  { m with registrations := m.registrations.modify registration fun r => { r with
      contextStopped := r.contextStopped || (m.ctxs r.exchange.ctx).isNone
      connStopped := r.connStopped || (m.connection.sharedCtx r.conn).isNone } }

def complete (conn : MultiplexConn) (message : Response) : QueryMultiplexer × List Action :=
  m.taking message.id (fun pending =>
    [.stop pending.registration, .release pending.conn,
      .callback pending.exchange (.response { message with id := pending.exchange.message.id } (.shared conn)
        (.shared pending.conn)), .closeIdleConnection]) []

def completeContextDone (ctx : Nat) : QueryMultiplexer × List Action :=
  let err := (m.ctxErr ctx).getD .canceled
  m.taking queryId (fun pending =>
    [.stop pending.registration, .settle pending err, .callback pending.exchange (.failure err),
      .closeIdleConnection]) []

def settle (pending : PendingQuery) (err : Err) : QueryMultiplexer :=
  { m with connection :=
      if err = .deadlineExceeded ∧ m.readEpoch pending.conn = pending.readEpoch then
        m.connection.invalidate pending.conn err
      else m.connection.release pending.conn true true }

def completeConnDone (conn : MultiplexConn) : QueryMultiplexer × List Action :=
  let connErr := (m.connection.sharedCtx conn).getD .canceled
  m.taking queryId (fun pending =>
    [.stop pending.registration,
      if pending.retry && connErr.isReadError then .dispatch pending.exchange false
      else .callback pending.exchange (.failure connErr)]) []

end

/-- What `exchangeAsync` does after a write failed. -/
def writeFailed (a : Attempt) (conn : MultiplexConn) (created : Bool) (queryId : UInt16)
    (err : Err) : QueryMultiplexer × List Action :=
  m.taking queryId (fun pending =>
    [.stop pending.registration, .invalidate conn err,
      if !created && a.firstAttempt then .acquire { a with firstAttempt := false } .looking
      else .callback a.exchange (.failure (.wrapped err "write request"))]) [.invalidate conn err]

def closeIdleConnection : QueryMultiplexer :=
  if m.keepIdle then m else { m with connection := m.connection.closeIdle }

/-! ## Steps -/

/-- How the network, the clock or the scheduler answers an action. -/
inductive Choice
  | go
  | move (m : ConnPool.Move)
  | done
  | fails (err : Err)
  | reads (message : Option Response)
  | time (now : Nat)
  | probed (supported dialFailed : Bool)

/-- `exchangeAsync` around a step of `AcquireShared`: the rest of its goroutine, and the receive loop of a new
connection. -/
def acquired (a : Attempt) : Acquired MultiplexConn → List Action × List (List Action)
  | .running at_ => ([.acquire a at_], [])
  | .failed err => ([.callback a.exchange (.failure err)], [])
  | .acquired conn created => ([.register a conn created], if created then [[.recvLoop conn]] else [])

/-- One action: the multiplexer after it, what the goroutine does instead, and the goroutines it starts. -/
def perform : Action → Choice → Option (QueryMultiplexer × List Action × List (List Action))
  | .dispatch x retryReadError, .go =>
    if m.probeReuse && m.reuseState ≠ .supported then
      some (m, [.maybeStartProbe x.message, .goExchangeSingle x], [])
    else some (m, [.acquire { exchange := x, retryReadError, firstAttempt := true } .looking], [])
  | .maybeStartProbe message, .time now =>
    let (m, started) := m.maybeStartProbe message now
    some (m, [], started)
  | .goExchangeSingle x, .go => some (m, [], [[.singleDial x]])
  | .probe epoch, .probed supported dialFailed => some (m.runReuseProbe epoch supported dialFailed, [], [])
  | .acquire a at_, .move move =>
    -- `IsAlive` is `conn != nil`
    if move.alive then
      (m.connection.acquireStep m.ctxs a.exchange.ctx at_ move).map fun (connection, r) =>
        ({ m with connection }, acquired a r)
    else none
  | .register a conn created, .go =>
    let (m, next) := m.register a conn created
    some (m, next, [])
  | .write _ _ _ _ _, .done => some (m, [], [])
  | .write a conn created queryId registration, .fails err =>
    some (m, [.writeFailed a conn created queryId registration err], [])
  | .writeFailed a conn created queryId _ err, .go =>
    let (m, next) := m.writeFailed a conn created queryId err
    some (m, next, [])
  | .completeContextDone queryId ctx, .go =>
    let (m, next) := m.completeContextDone queryId ctx
    some (m, next, [])
  | .completeConnDone queryId conn, .go =>
    let (m, next) := m.completeConnDone queryId conn
    some (m, next, [])
  | .recvLoop conn, .reads message =>
    let m := { m with readEpoch := Function.update m.readEpoch conn (m.readEpoch conn + 1) }
    match message with
    | none => some (m, [.recvLoop conn], [])
    | some message => some (m, [.complete conn message, .recvLoop conn], [])
  | .recvLoop conn, .fails err =>
    some ({ m with readFailed := conn :: m.readFailed },
      [.recordConnDeath conn, .invalidate conn (.queryMultiplexerReadError err)], [])
  | .complete conn message, .go =>
    let (m, next) := m.complete conn message
    some (m, next, [])
  | .recordConnDeath conn, .go =>
    let (m, next) := m.recordConnDeath conn
    some (m, next, [])
  | .demote, .time now => some (m.demote now, [], [])
  | .stop registration, .go => some (m.stop registration, [], [])
  | .release conn, .go => some ({ m with connection := m.connection.release conn true true }, [], [])
  | .invalidate conn cause, .go => some ({ m with connection := m.connection.invalidate conn cause }, [], [])
  | .settle pending err, .go => some (m.settle pending err, [], [])
  | .callback exchange outcome, .go => some ({ m with answers := { exchange, outcome } :: m.answers }, [], [])
  | .closeIdleConnection, .go => some (m.closeIdleConnection, [], [])
  | .closeIdle, .go => some ({ m with connection := m.connection.closeIdle }, [], [])
  | .setKeepIdle keep, .go => some ({ m with keepIdle := keep }, [], [])
  | .resetProbe, .go => some (m.resetProbe, [], [])
  | .resetPool, .go => some ({ m with connection := m.connection.reset }, [], [])
  | .closePool, .go => some ({ m with connection := m.connection.close }, [], [])
  | .singleDial x, .done => some (m, [.singleWrite x], [])
  | .singleDial x, .fails err => some (m, [.callback x (.failure err)], [])
  | .singleWrite x, .done => some (m, [.singleRead x], [])
  | .singleWrite x, .fails err =>
    some (m, [.callback x (.failure ((m.ctxErr x.ctx).getD (.wrapped err "write request")))], [])
  | .singleRead x, .reads none => some (m, [.singleRead x], [])
  | .singleRead x, .reads (some message) =>
    some (m, [.callback x (.response { message with id := x.message.id } (.single x.number) (.single x.number))], [])
  | .singleRead x, .fails err =>
    some (m, [.callback x (.failure ((m.ctxErr x.ctx).getD (.wrapped err "read response")))], [])
  | _, _ => none

/-! ## What an action can do -/

/-- `perform` as a relation, one case for each way an action can go. -/
inductive Performed (m : QueryMultiplexer) :
    Action → Choice → QueryMultiplexer → List Action → List (List Action) → Prop
  | single (x : Exchange) (retryReadError : Bool) :
    Performed m (.dispatch x retryReadError) .go m [.maybeStartProbe x.message, .goExchangeSingle x] []
  | dispatch (x : Exchange) (retryReadError : Bool) :
    Performed m (.dispatch x retryReadError) .go m
      [.acquire { exchange := x, retryReadError, firstAttempt := true } .looking] []
  | maybeStartProbe (message : Query) (now : Nat) :
    Performed m (.maybeStartProbe message) (.time now) (m.maybeStartProbe message now).1 []
      (m.maybeStartProbe message now).2
  | goExchangeSingle (x : Exchange) : Performed m (.goExchangeSingle x) .go m [] [[.singleDial x]]
  | probe (epoch : UInt32) (supported dialFailed : Bool) :
    Performed m (.probe epoch) (.probed supported dialFailed) (m.runReuseProbe epoch supported dialFailed) [] []
  | acquire (a : Attempt) (at_ : Acquire) (move : ConnPool.Move) (connection : ConnPool MultiplexConn)
      (r : Acquired MultiplexConn) :
    Performed m (.acquire a at_) (.move move) { m with connection } (acquired a r).1 (acquired a r).2
  | register (a : Attempt) (conn : MultiplexConn) (created : Bool) :
    Performed m (.register a conn created) .go (m.register a conn created).1 (m.register a conn created).2 []
  | write (a : Attempt) (conn : MultiplexConn) (created : Bool) (queryId : UInt16) (registration : Nat) :
    Performed m (.write a conn created queryId registration) .done m [] []
  | writeFails (a : Attempt) (conn : MultiplexConn) (created : Bool) (queryId : UInt16) (registration : Nat)
      (err : Err) :
    Performed m (.write a conn created queryId registration) (.fails err) m
      [.writeFailed a conn created queryId registration err] []
  | writeFailed (a : Attempt) (conn : MultiplexConn) (created : Bool) (queryId : UInt16) (registration : Nat)
      (err : Err) :
    Performed m (.writeFailed a conn created queryId registration err) .go (m.writeFailed a conn created queryId err).1
      (m.writeFailed a conn created queryId err).2 []
  | completeContextDone (queryId : UInt16) (ctx : Nat) :
    Performed m (.completeContextDone queryId ctx) .go (m.completeContextDone queryId ctx).1
      (m.completeContextDone queryId ctx).2 []
  | completeConnDone (queryId : UInt16) (conn : MultiplexConn) :
    Performed m (.completeConnDone queryId conn) .go (m.completeConnDone queryId conn).1
      (m.completeConnDone queryId conn).2 []
  | recvNothing (conn : MultiplexConn) :
    Performed m (.recvLoop conn) (.reads none)
      { m with readEpoch := Function.update m.readEpoch conn (m.readEpoch conn + 1) } [.recvLoop conn] []
  | recv (conn : MultiplexConn) (message : Response) :
    Performed m (.recvLoop conn) (.reads (some message))
      { m with readEpoch := Function.update m.readEpoch conn (m.readEpoch conn + 1) }
      [.complete conn message, .recvLoop conn] []
  | recvFails (conn : MultiplexConn) (err : Err) :
    Performed m (.recvLoop conn) (.fails err) { m with readFailed := conn :: m.readFailed }
      [.recordConnDeath conn, .invalidate conn (.queryMultiplexerReadError err)] []
  | complete (conn : MultiplexConn) (message : Response) :
    Performed m (.complete conn message) .go (m.complete conn message).1 (m.complete conn message).2 []
  | recordConnDeath (conn : MultiplexConn) :
    Performed m (.recordConnDeath conn) .go (m.recordConnDeath conn).1 (m.recordConnDeath conn).2 []
  | demote (now : Nat) : Performed m .demote (.time now) (m.demote now) [] []
  | stop (registration : Nat) : Performed m (.stop registration) .go (m.stop registration) [] []
  | release (conn : MultiplexConn) :
    Performed m (.release conn) .go { m with connection := m.connection.release conn true true } [] []
  | invalidate (conn : MultiplexConn) (cause : Err) :
    Performed m (.invalidate conn cause) .go { m with connection := m.connection.invalidate conn cause } [] []
  | settle (pending : PendingQuery) (err : Err) : Performed m (.settle pending err) .go (m.settle pending err) [] []
  | callback (exchange : Exchange) (outcome : Outcome) :
    Performed m (.callback exchange outcome) .go { m with answers := { exchange, outcome } :: m.answers } [] []
  | closeIdleConnection : Performed m .closeIdleConnection .go m.closeIdleConnection [] []
  | closeIdle : Performed m .closeIdle .go { m with connection := m.connection.closeIdle } [] []
  | setKeepIdle (keep : Bool) : Performed m (.setKeepIdle keep) .go { m with keepIdle := keep } [] []
  | resetProbe : Performed m .resetProbe .go m.resetProbe [] []
  | resetPool : Performed m .resetPool .go { m with connection := m.connection.reset } [] []
  | closePool : Performed m .closePool .go { m with connection := m.connection.close } [] []
  | singleDial (x : Exchange) : Performed m (.singleDial x) .done m [.singleWrite x] []
  | singleDialFails (x : Exchange) (err : Err) :
    Performed m (.singleDial x) (.fails err) m [.callback x (.failure err)] []
  | singleWrite (x : Exchange) : Performed m (.singleWrite x) .done m [.singleRead x] []
  | singleWriteFails (x : Exchange) (err : Err) :
    Performed m (.singleWrite x) (.fails err) m
      [.callback x (.failure ((m.ctxErr x.ctx).getD (.wrapped err "write request")))] []
  | singleReadNothing (x : Exchange) : Performed m (.singleRead x) (.reads none) m [.singleRead x] []
  | singleRead (x : Exchange) (message : Response) :
    Performed m (.singleRead x) (.reads (some message)) m
      [.callback x (.response { message with id := x.message.id } (.single x.number) (.single x.number))] []
  | singleReadFails (x : Exchange) (err : Err) :
    Performed m (.singleRead x) (.fails err) m
      [.callback x (.failure ((m.ctxErr x.ctx).getD (.wrapped err "read response")))] []

variable {action : Action} {c : Choice} {next : List Action} {started : List (List Action)}

lemma Performed.result {m m₁ m' : QueryMultiplexer} {next₁ : List Action}
    {started₁ : List (List Action)} (hs : some (m₁, next₁, started₁) = some (m', next, started))
    (h : Performed m action c m₁ next₁ started₁) : Performed m action c m' next started := by
  cases hs
  exact h

lemma not_performed {r : QueryMultiplexer × List Action × List (List Action)} {P : Prop}
    (h : (none : Option (QueryMultiplexer × List Action × List (List Action))) = some r) : P := nomatch h

lemma performed {m m' : QueryMultiplexer} (hs : m.perform action c = some (m', next, started)) :
    Performed m action c m' next started := by
  cases action with
  | dispatch x retryReadError =>
    cases c <;> try exact not_performed hs
    change (if m.probeReuse && m.reuseState ≠ .supported then _ else _) = _ at hs
    split at hs
    · exact .result hs (.single x retryReadError)
    · exact .result hs (.dispatch x retryReadError)
  | acquire a at_ =>
    cases c <;> try exact not_performed hs
    next move =>
      change (if move.alive then _ else _) = _ at hs
      split at hs
      · obtain ⟨⟨connection, r⟩, -, hr⟩ := Option.map_eq_some_iff.1 hs
        obtain ⟨rfl, hnext⟩ := Prod.mk.inj hr
        obtain ⟨rfl, rfl⟩ := Prod.mk.inj hnext
        exact .acquire a at_ move connection r
      · cases hs
  | recvLoop conn =>
    cases c <;> try exact not_performed hs
    · exact .result hs (.recvFails conn _)
    next message =>
      cases message with
      | none => exact .result hs (.recvNothing conn)
      | some message => exact .result hs (.recv conn message)
  | singleRead x =>
    cases c <;> try exact not_performed hs
    · exact .result hs (.singleReadFails x _)
    next message =>
      cases message with
      | none => exact .result hs (.singleReadNothing x)
      | some message => exact .result hs (.singleRead x message)
  | write a conn created queryId registration =>
    cases c <;> try exact not_performed hs
    · exact .result hs (.write a conn created queryId registration)
    · exact .result hs (.writeFails a conn created queryId registration _)
  | singleDial x =>
    cases c <;> try exact not_performed hs
    · exact .result hs (.singleDial x)
    · exact .result hs (.singleDialFails x _)
  | singleWrite x =>
    cases c <;> try exact not_performed hs
    · exact .result hs (.singleWrite x)
    · exact .result hs (.singleWriteFails x _)
  | _ =>
    cases c <;> try exact not_performed hs
    refine .result hs ?_
    constructor

inductive Event
  | exchangeAsync (ctx : Nat) (message : Query)
  | setKeepIdleConnections (keep : Bool)
  | closeIdleConnections
  | reset
  | close
  /-- The next action of a goroutine. -/
  | run (k : Nat) (c : Choice)
  | cancel (ctx : Nat) (done : Done)
  /-- The `AfterFunc`s of a registration. -/
  | contextDone (registration : Nat)
  | connDone (registration : Nat)
  -- what the pool left behind
  | dialReturns (d : Nat) (result : Except Err MultiplexConn) (stateFirst : Bool)
  | connectSingle (d : Nat)
  | closeState (g : Nat)
  | closeConn (k : Nat)

def goes (actions : List Action) : QueryMultiplexer :=
  { m with goroutines := m.goroutines ++ [actions] }

def step : Event → Option QueryMultiplexer
  | .exchangeAsync ctx message =>
    some { m.goes [.dispatch { number := m.exchanges, ctx, message } true] with exchanges := m.exchanges + 1 }
  | .setKeepIdleConnections keep => some (m.goes [.setKeepIdle keep, .closeIdleConnection])
  | .closeIdleConnections => some (m.goes [.closeIdle])
  | .reset => some (m.goes [.resetProbe, .resetPool])
  | .close => some (m.goes [.closePool])
  | .run k c =>
    match m.goroutines[k]? with
    | some (action :: rest) =>
      (m.perform action c).map fun (m, next, started) =>
        { m with goroutines := m.goroutines.set k (next ++ rest) ++ started }
    | _ => none
  | .cancel ctx done =>
    if m.ctxs ctx = none then some { m with ctxs := Function.update m.ctxs ctx (some done) } else none
  | .contextDone i =>
    match m.registrations[i]? with
    | some r =>
      if (m.ctxs r.exchange.ctx).isSome && !r.contextStopped && !r.contextRan then
        some ({ m with registrations := m.registrations.set i { r with contextRan := true } }.goes
          [.completeContextDone r.queryId r.exchange.ctx])
      else none
    | none => none
  | .connDone i =>
    match m.registrations[i]? with
    | some r =>
      if (m.connection.sharedCtx r.conn).isSome && !r.connStopped && !r.connRan then
        some ({ m with registrations := m.registrations.set i { r with connRan := true } }.goes
          [.completeConnDone r.queryId r.conn])
      else none
    | none => none
  | .dialReturns d result stateFirst =>
    (m.connection.dialReturns m.ctxs d result stateFirst).map fun connection => { m with connection }
  | .connectSingle d => (m.connection.connectSingle d).map fun connection => { m with connection }
  | .closeState g =>
    if g ∈ m.connection.retired then some { m with connection := m.connection.closeState g } else none
  | .closeConn k => (m.connection.closeConn k).map fun connection => { m with connection }

end

def start (retryReadError probeReuse : Bool) : QueryMultiplexer := { retryReadError, probeReuse }

end QueryMultiplexer
end SingBox.Dns.Transport
