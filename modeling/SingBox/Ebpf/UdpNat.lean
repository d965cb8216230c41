import SingBox.Ebpf.UdpTable
import SingBox.Lib.Stacks
import SingBox.Lib.Weights
/-!
# The UDP NAT service

A session is found in the cache by its key; a packet for an unknown key makes
a new one. A session queues its packets until it has a handler. Its user, the
release of its socket or the cache closes it, and its callback runs once.

Each goroutine has a stack of instructions. An instruction is what happens under
one lock, or one access to an atomic or a channel. The two locks of a
session are always taken together by writers, and are free when no pending
instruction holds them.

The cache is not part of the repository. It may evict any of its entries in any
operation, and calls `closeFromCache` for each before the operation returns;
whether it keeps its own lock meanwhile is the parameter `locked`. The cleanup
loop may look at any session at any time, so the queue of its deadlines is left
out, and with it `SetTimeout`.
-/
namespace SingBox.Ebpf
open Threads Weights List Function

/-- A `sync.Once`: a call that finds it running waits. -/
inductive Once
  | fresh
  | running
  | finished
  deriving DecidableEq

/-- A session. `onCloseRuns` and `closedFor` are history: how often the callback has run, and the cookie of the
`ReleaseSocket` that closed the session. -/
structure UdpNatConn where
  key : UdpSessionKey := ⟨⟨.invalid, 0⟩, .localCgroup, 0, 0⟩
  hasOnClose : Bool := false
  packetChan : List Nat := []
  handler : Bool := false
  done : Bool := false
  closeOnce : Once := .fresh
  cleanupOnce : Once := .fresh
  onCloseRuns : Nat := 0
  closedFor : Option Nat := none

def packetChanCapacity : Nat := 64
def udpNATPendingReleaseCapacity : Nat := 1024
def udpNATPendingReleaseTTL : Nat := 5 * 1000000000

abbrev SessionCache := AList fun _ : UdpSessionKey => Nat

/-- The service with all its sessions. The last fields are history: whether `Close` has emptied the cache, what became
of the packets, the registered sessions, and each finished `ReleaseSocket` with the sessions registered before it. -/
structure UdpNatService where
  conns : Nat → UdpNatConn := fun _ => {}
  next : Nat := 0
  nextBuffer : Nat := 0
  cache : SessionCache := ∅
  releaseConnections : AList (fun _ : Nat => Nat) := ∅
  pendingReleases : AList (fun _ : Nat => Nat) := ∅
  closed : Bool := false
  closeOnce : Once := .fresh
  cleanupStopped : Bool := false
  purged : Bool := false
  handed : List Nat := []
  released : List Nat := []
  registered : List Nat := []
  releases : List (Nat × List Nat) := []

def evictFrom : List UdpSessionKey → SessionCache → SessionCache × List Nat
  | [], cache => (cache, [])
  | key :: keys, cache =>
    match cache.lookup key with
    | none => evictFrom keys cache
    | some id => ((evictFrom keys (cache.erase key)).1, id :: (evictFrom keys (cache.erase key)).2)

/-- The release index has the session: `conn.key.Scope == udpSessionScopeLocalCgroup` and a cookie. -/
def UdpSessionKey.releasable (key : UdpSessionKey) : Bool := key.scope == .localCgroup && key.socketCookie != 0

namespace UdpNatService
variable (s : UdpNatService)

def setConn (id : Nat) (conn : UdpNatConn) : UdpNatService :=
  { s with conns := update s.conns id conn }

def create (key : UdpSessionKey) (hasOnClose : Bool) : UdpNatService :=
  { s with
    conns := update s.conns s.next { key, hasOnClose }
    cache := s.cache.insert key s.next
    next := s.next + 1 }

def hand (b : Nat) : UdpNatService := { s with handed := b :: s.handed }
def release (b : Nat) : UdpNatService := { s with released := b :: s.released }

/-- `registerReleaseConnection`: refused after an early release of the socket. -/
def registerReleaseConnection (id now : Nat) : UdpNatService × Bool :=
  let key := (s.conns id).key
  if !key.releasable then (s, true)
  else
    let expiry := s.pendingReleases.lookup key.socketCookie
    let s := { s with pendingReleases := s.pendingReleases.erase key.socketCookie }
    if expiry.any fun expiry => decide (expiry > now) then (s, false)
    else
      ({ s with
          releaseConnections := s.releaseConnections.insert key.socketCookie id
          registered := id :: s.registered }, true)

def unregisterReleaseConnection (id : Nat) : UdpNatService :=
  let key := (s.conns id).key
  if key.releasable && s.releaseConnections.lookup key.socketCookie == some id then
    { s with releaseConnections := s.releaseConnections.erase key.socketCookie }
  else s

/-- An early release is remembered, if there is room among those that have not expired. -/
def addPendingRelease (cookie now : Nat) : UdpNatService :=
  let pending := (s.pendingReleases.entries.filter fun e => decide (e.2 ≤ now)).foldl
    (fun m e => m.erase e.1) s.pendingReleases
  if pending.entries.length < udpNATPendingReleaseCapacity then
    { s with pendingReleases := pending.insert cookie (now + udpNATPendingReleaseTTL) }
  else { s with pendingReleases := pending }

end UdpNatService

/-- What is left to do. The instructions of `connection` have its packet buffer, which `NewPacket` does not have yet. -/
inductive Instr
  | connClosed (key : UdpSessionKey) (packet : Option Nat)
  | connGet (key : UdpSessionKey) (packet : Option Nat)
  | connCheck (key : UdpSessionKey) (packet : Option Nat) (id : Nat) (updated : Bool)
  | connRegister (packet : Option Nat) (id : Nat)
  | connIsClosed (packet : Option Nat) (id : Nat)
  | connRemove (key : UdpSessionKey) (packet : Option Nat) (created : Option Nat)
  | connFail (packet : Option Nat)
  | newPacket (packet : Option Nat) (id : Nat)
  | handle (id b : Nat)
  | enqueueCheck (id b : Nat)
  | enqueue (id b : Nat)
  | setHandler (id : Nat)
  | drainToHandler (id : Nat) (queued : List Nat)
  | readPacket (id : Nat)
  | waitReadPackets (id batchSize : Nat)
  | readMore (id left : Nat)
  | evicted (id : Nat)
  | cacheUnlock
  | close (id : Nat) (cookie : Option Nat)
  | closeUnregister (id : Nat) (cookie : Option Nat)
  | closeLock (id : Nat) (cookie : Option Nat)
  | closeDrain (id : Nat) (cookie : Option Nat)
  | closeReturn (id : Nat)
  | handleClose (id : Nat) (fromCache : Bool)
  | onClose (id : Nat) (fromCache : Bool)
  | releaseSocket (cookie : Nat)
  | releaseTake (cookie : Nat) (before : List Nat)
  | releaseReturn (cookie : Nat) (before : List Nat)
  | cleanupEntry (id : Nat)
  | cleanupRemove (key : UdpSessionKey)
  | cleanupReturn
  | evict
  | purge
  | serviceClose
  | serviceStore
  | serviceWait
  | servicePurge
  | serviceClear
  deriving DecidableEq

/-- The session whose `handlerAccess` and `packetAccess` the instruction is under, for writing. -/
def Instr.writes : Instr → Option Nat
  | .drainToHandler id _ | .closeDrain id _ => some id
  | _ => none

/-- The session whose `handlerAccess` the instruction is under, for reading. -/
def Instr.reads : Instr → Option Nat
  | .enqueueCheck id _ | .enqueue id _ => some id
  | _ => none

inductive ReadChoice
  | packet
  | done
  | deadline
  deriving DecidableEq

/-- What an instruction meets: the clock, the entries the cache evicts, what `prepare` answers, the ready case of a
`select`, and whether a cached entry has a deadline. -/
structure NatInput where
  now : Nat := 0
  evict : List UdpSessionKey := []
  prepared : Bool := true
  hasOnClose : Bool := true
  choice : ReadChoice := .packet
  lifetime : Bool := true

section Machine
variable {n : Nat}

abbrev NatConfig (n : Nat) := Config UdpNatService (List Instr) n

section
variable (c : NatConfig n)

/-- No goroutine is in `Q`. -/
def NatConfig.noneIn (Q : Instr → Bool) : Bool := decide (∀ j, (c.pc j).all (!Q ·) = true)

/-- A writer can take the locks of the session, and a reader. -/
def NatConfig.writable (id : Nat) : Bool :=
  c.noneIn fun a => a.writes == some id || a.reads == some id

def NatConfig.readable (id : Nat) : Bool := c.noneIn fun a => a.writes == some id
def NatConfig.cacheFree (locked : Bool) : Bool := !locked || c.noneIn (· == .cacheUnlock)

end

/-- An operation of the cache that only evicts: the callbacks of the evicted sessions come next. -/
def UdpNatService.evict (s : UdpNatService) (keys : List UdpSessionKey) (next : List Instr) :
    UdpNatService × List Instr :=
  ({ s with cache := (evictFrom keys s.cache).1 }, (evictFrom keys s.cache).2.map .evicted ++ .cacheUnlock :: next)

/-- `GetAndRefreshOrAdd` with the rest of `connection` after it. -/
def UdpNatService.getOrAdd (s : UdpNatService) (key : UdpSessionKey) (packet : Option Nat) (x : NatInput) :
    UdpNatService × List Instr :=
  match (evictFrom x.evict s.cache).1.lookup key with
  | some id => s.evict x.evict [.connCheck key packet id true]
  | none =>
    if x.prepared then
      let r := s.evict x.evict [.connCheck key packet s.next false]
      (r.1.create key x.hasOnClose, r.2)
    else s.evict x.evict [.connFail packet]

variable (locked : Bool)

section
variable (c : NatConfig n)

/-- The instructions of `connection`, up to the packet's delivery to the session. -/
def execConnection (a : Instr) (x : NatInput) : Option (UdpNatService × List Instr) :=
  let s := c.shared
  match a with
  | .connClosed key packet => if s.closed then some (s, [.connFail packet]) else some (s, [.connGet key packet])
  | .connGet key packet => if c.cacheFree locked then some (s.getOrAdd key packet x) else none
  | .connCheck key packet id updated =>
    if s.closed then some (s, [.connRemove key packet (if updated then none else some id)])
    else if updated then some (s, [.newPacket packet id])
    else some (s, [.connRegister packet id])
  | .connRegister packet id =>
    let r := s.registerReleaseConnection id x.now
    if r.2 then some (r.1, [.connIsClosed packet id])
    else some (r.1, [.connRemove (s.conns id).key packet (some id)])
  | .connIsClosed packet id =>
    if (s.conns id).done then some (s, [.connRemove (s.conns id).key packet (some id)])
    else some (s, [.newPacket packet id])
  | .connRemove key packet created =>
    if c.cacheFree locked then
      some (s.evict [key] ((created.map (Instr.handleClose · false)).toList ++ [.connFail packet]))
    else none
  | .connFail packet => match packet with
    | some b => some (s.release b, [])
    | none => some (s, [])
  | _ => none

def UdpNatService.pop (s : UdpNatService) (id : Nat) : Option (Nat × UdpNatService) :=
  match (s.conns id).packetChan with
  | [] => none
  | b :: rest => some (b, s.setConn id { s.conns id with packetChan := rest })

def execPacket (a : Instr) (x : NatInput) : Option (UdpNatService × List Instr) :=
  let s := c.shared
  match a with
  | .newPacket packet id =>
    if c.readable id then
      let r := match packet with
        | some b => (b, s)
        | none => (s.nextBuffer, { s with nextBuffer := s.nextBuffer + 1 })
      if (s.conns id).handler then some (r.2, [.handle id r.1]) else some (r.2, [.enqueueCheck id r.1])
    else none
  | .handle id b => if (s.conns id).done then some (s.release b, []) else some (s.hand b, [])
  | .enqueueCheck id b => if (s.conns id).done then some (s.release b, []) else some (s, [.enqueue id b])
  | .enqueue id b =>
    if (s.conns id).packetChan.length < packetChanCapacity then
      some (s.setConn id { s.conns id with packetChan := (s.conns id).packetChan ++ [b] }, [])
    else some (s.release b, [])
  | .setHandler id =>
    if c.writable id then
      if (s.conns id).done then some (s, [])
      else some (s.setConn id { s.conns id with handler := true }, [.drainToHandler id []])
    else none
  | .drainToHandler id queued => match s.pop id with
    | some (b, s') => some (s', [.drainToHandler id (queued ++ [b])])
    | none => some (s, queued.map (.handle id))
  | .readPacket id => match x.choice with
    | .packet => (s.pop id).map fun r => (r.2.hand r.1, [])
    | .done => if (s.conns id).done then some (s, []) else none
    | .deadline => some (s, [])
  | .waitReadPackets id batchSize => match x.choice with
    | .packet => (s.pop id).map fun r => (r.2.hand r.1, [.readMore id (batchSize - 1)])
    | .done => if (s.conns id).done then some (s, []) else none
    | .deadline => some (s, [])
  | .readMore id left =>
    if left = 0 then some (s, [])
    else match s.pop id with
      | some (b, s') => some (s'.hand b, [.readMore id (left - 1)])
      | none => some (s, [])
  | _ => none

def execClose (a : Instr) : Option (UdpNatService × List Instr) :=
  let s := c.shared
  match a with
  | .evicted id => some (s, [.close id none, .handleClose id true])
  | .close id cookie => match (s.conns id).closeOnce with
    | .fresh => some (s.setConn id { s.conns id with closeOnce := .running }, [.closeUnregister id cookie])
    | .running => none
    | .finished => some (s, [])
  | .closeUnregister id cookie => some (s.unregisterReleaseConnection id, [.closeLock id cookie])
  | .closeLock id cookie => if c.writable id then some (s, [.closeDrain id cookie]) else none
  | .closeDrain id cookie => match s.pop id with
    | some (b, s') => some (s'.release b, [.closeDrain id cookie])
    | none => some (s.setConn id { s.conns id with done := true, closedFor := cookie }, [.closeReturn id])
  | .closeReturn id => some (s.setConn id { s.conns id with closeOnce := .finished }, [])
  | .handleClose id fromCache => match (s.conns id).cleanupOnce with
    | .fresh => some (s.setConn id { s.conns id with cleanupOnce := .running }, [.onClose id fromCache])
    | .running => none
    | .finished => some (s, [])
  | .onClose id _ =>
    let conn := s.conns id
    some (s.setConn id { conn with
      cleanupOnce := .finished
      onCloseRuns := if conn.hasOnClose then conn.onCloseRuns + 1 else conn.onCloseRuns }, [])
  | _ => none

/-- The instructions of the service: releases of sockets, the cleanup loop and `Close`. -/
def execService (a : Instr) (x : NatInput) : Option (UdpNatService × List Instr) :=
  let s := c.shared
  match a with
  | .cacheUnlock | .cleanupReturn => some (s, [])
  | .releaseSocket cookie =>
    if cookie = 0 || s.closed then some (s, [.releaseReturn cookie s.registered])
    else some (s, [.releaseTake cookie s.registered])
  | .releaseTake cookie before => match s.releaseConnections.lookup cookie with
    | some id =>
      some ({ s with releaseConnections := s.releaseConnections.erase cookie },
        [.close id (some cookie), .releaseReturn cookie before])
    | none => some (s.addPendingRelease cookie x.now, [.releaseReturn cookie before])
  | .releaseReturn cookie before => some ({ s with releases := (cookie, before) :: s.releases }, [])
  | .cleanupEntry id =>
    if s.cache.lookup (s.conns id).key = some id && x.lifetime && (s.conns id).done then
      some (s, [.cleanupRemove (s.conns id).key])
    else some (s, [])
  | .cleanupRemove key => if c.cacheFree locked then some (s.evict [key] []) else none
  | .evict => if c.cacheFree locked then some (s.evict x.evict []) else none
  | .purge => if c.cacheFree locked then some (s.evict s.cache.keys []) else none
  | .serviceClose => match s.closeOnce with
    | .fresh => some ({ s with closeOnce := .running }, [.serviceStore])
    | .running => none
    | .finished => some (s, [])
  | .serviceStore => some ({ s with closed := true }, [.serviceWait])
  | .serviceWait =>
    if c.noneIn (· == .cleanupReturn) then some ({ s with cleanupStopped := true }, [.servicePurge]) else none
  | .servicePurge =>
    if c.cacheFree locked then
      let r := s.evict s.cache.keys [.serviceClear]
      some ({ r.1 with purged := true }, r.2)
    else none
  | .serviceClear =>
    some ({ s with releaseConnections := ∅, pendingReleases := ∅, closeOnce := .finished }, [])
  | _ => none

def exec (a : Instr) (x : NatInput) : Option (UdpNatService × List Instr) :=
  (execConnection locked c a x).or ((execPacket c a x).or ((execClose c a).or (execService locked c a x)))

/-- What a goroutine can begin. The downstream handler of a session reads it, sets a handler, closes it and calls its
callback. -/
inductive NatOp
  | newPacket (key : UdpSessionKey)
  | newPacketBuffer (key : UdpSessionKey)
  | setHandler (id : Nat)
  | readPacket (id : Nat)
  | waitReadPackets (id batchSize : Nat)
  | close (id : Nat)
  | handleClose (id : Nat)
  | releaseSocket (cookie : Nat)
  | cleanup (id : Nat)
  | evict
  | purge
  | serviceClose
  deriving DecidableEq

def UdpNatService.onConn (s : UdpNatService) (id : Nat) (l : List Instr) : Option (UdpNatService × List Instr) :=
  if id < s.next then some (s, l) else none

def NatOp.start (s : UdpNatService) : NatOp → Option (UdpNatService × List Instr)
  | .newPacket key => some (s, [.connClosed key none])
  | .newPacketBuffer key =>
    some ({ s with nextBuffer := s.nextBuffer + 1 }, [.connClosed key (some s.nextBuffer)])
  | .setHandler id => s.onConn id [.setHandler id]
  | .readPacket id => s.onConn id [.readPacket id]
  | .waitReadPackets id batchSize => s.onConn id [.waitReadPackets id batchSize]
  | .close id => s.onConn id [.close id none]
  | .handleClose id => s.onConn id [.handleClose id false]
  | .releaseSocket cookie => some (s, [.releaseSocket cookie])
  | .cleanup id => if s.cleanupStopped then none else s.onConn id [.cleanupEntry id, .cleanupReturn]
  | .evict => some (s, [.evict])
  | .purge => some (s, [.purge])
  | .serviceClose => some (s, [.serviceClose])

inductive NatAction
  | start (op : NatOp)
  | next (x : NatInput)

def NatConfig.act (i : Fin n) : NatAction → Option (UdpNatService × List Instr)
  | .start op => if c.pc i = [] then op.start c.shared else none
  | .next x => call (exec locked) c i x

end

def NatConfig.init : NatConfig n := ⟨{}, fun _ => []⟩
def natStep : NatConfig n → Fin n × NatAction → Option (NatConfig n) := step (NatConfig.act locked)

end Machine

/-! ## What a step can do -/

open UdpNatService
variable {n : Nat} {locked : Bool} {c c' : NatConfig n} {a : Instr} {x : NatInput} {s s' : UdpNatService}
  {pushed : List Instr}
variable {conn : UdpNatConn} {b : Nat} {l next : List Instr}

/-- A step is the beginning of an operation or one instruction of the four kinds. -/
inductive Stepped (locked : Bool) (c : NatConfig n) (i : Fin n) : NatAction → UdpNatService → List Instr → Prop
  | start {op s l} (hi : c.pc i = []) (h : op.start c.shared = some (s, l)) :
    Stepped locked c i (.start op) s l
  | connection {a rest pushed x s} (hi : c.pc i = a :: rest) (h : execConnection locked c a x = some (s, pushed)) :
    Stepped locked c i (.next x) s (pushed ++ rest)
  | packet {a rest pushed x s} (hi : c.pc i = a :: rest) (h : execPacket c a x = some (s, pushed)) :
    Stepped locked c i (.next x) s (pushed ++ rest)
  | close {a rest pushed x s} (hi : c.pc i = a :: rest) (h : execClose c a = some (s, pushed)) :
    Stepped locked c i (.next x) s (pushed ++ rest)
  | service {a rest pushed x s} (hi : c.pc i = a :: rest) (h : execService locked c a x = some (s, pushed)) :
    Stepped locked c i (.next x) s (pushed ++ rest)

lemma natStep_cases {e : Fin n × NatAction} (h : natStep locked c e = some c') :
    ∃ s l, Stepped locked c e.1 e.2 s l ∧ c' = c.move e.1 (s, l) := by
  obtain ⟨i, a⟩ := e
  obtain ⟨s, l, hact, rfl⟩ := step_cases h
  refine ⟨s, l, ?_, rfl⟩
  cases a with
  | start op =>
    simp only [NatConfig.act] at hact
    split at hact
    next hi => exact .start hi hact
    · cases hact
  | next x =>
    obtain ⟨a, rest, pushed, hi, hexec, rfl⟩ := call_cases hact
    simp only [exec, Option.or_eq_some_iff] at hexec
    obtain h | ⟨-, h | ⟨-, h | ⟨-, h⟩⟩⟩ := hexec
    · exact .connection hi h
    · exact .packet hi h
    · exact .close hi h
    · exact .service hi h

/-- What is never taken back. -/
structure Later (s s' : UdpNatService) : Prop where
  next : s.next ≤ s'.next
  key : ∀ id < s.next, (s'.conns id).key = (s.conns id).key
  done : ∀ id < s.next, (s.conns id).done = true → (s'.conns id).done = true
  finished : ∀ id < s.next, (s.conns id).closeOnce = .finished → (s'.conns id).closeOnce = .finished
  registered : s.registered ⊆ s'.registered

lemma Later.same (h : (s'.conns, s'.next, s'.registered) = (s.conns, s.next, s.registered)) : Later s s' := by
  simp only [Prod.mk.injEq] at h
  obtain ⟨hconns, hnext, hregistered⟩ := h
  exact ⟨hnext ▸ Nat.le_refl _, fun _ _ => by rw [hconns], fun _ _ => by rw [hconns]; exact id, fun _ _ => by
    rw [hconns]; exact id, hregistered ▸ List.Subset.refl _⟩

lemma Later.refl (s : UdpNatService) : Later s s := .same rfl

variable {id : Nat} {keys : List UdpSessionKey} {cache : SessionCache} {key : UdpSessionKey}

lemma Later.setConn (hkey : conn.key = (s.conns id).key := by rfl)
    (hdone : (s.conns id).done = true → conn.done = true := by exact fun h => h)
    (hfinished : (s.conns id).closeOnce = .finished → conn.closeOnce = .finished := by exact fun h => h) :
    Later s (s.setConn id conn) := by
  refine ⟨Nat.le_refl _, fun id' _ => ?_, fun id' _ => ?_, fun id' _ => ?_, List.Subset.refl _⟩ <;>
    by_cases heq : id' = id <;> simp_all [UdpNatService.setConn]

lemma Later.trans {s₁ s₂ s₃ : UdpNatService} (h : Later s₁ s₂) (h' : Later s₂ s₃) : Later s₁ s₃ where
  next := Nat.le_trans h.next h'.next
  key id hid := (h'.key id (Nat.lt_of_lt_of_le hid h.next)).trans (h.key id hid)
  done id hid hd := h'.done id (Nat.lt_of_lt_of_le hid h.next) (h.done id hid hd)
  finished id hid hf := h'.finished id (Nat.lt_of_lt_of_le hid h.next) (h.finished id hid hf)
  registered := List.Subset.trans h.registered h'.registered

lemma Later.create (s : UdpNatService) (key : UdpSessionKey) (hasOnClose : Bool) :
    Later s (s.create key hasOnClose) := by
  have hold : ∀ id < s.next, (s.create key hasOnClose).conns id = s.conns id := fun id hid =>
    update_of_ne (Nat.ne_of_lt hid) ..
  exact ⟨Nat.le_succ _, fun id hid => by rw [hold id hid], fun id hid => by rw [hold id hid]; exact fun h => h,
    fun id hid => by rw [hold id hid]; exact fun h => h, List.Subset.refl _⟩

lemma UdpNatService.pop_eq (h : s.pop id = some (b, s')) :
    ∃ rest, (s.conns id).packetChan = b :: rest ∧ s' = s.setConn id { s.conns id with packetChan := rest } := by
  rw [pop] at h
  split at h
  · cases h
  next rest hq =>
    cases h
    exact ⟨rest, hq, rfl⟩

section
variable (s : UdpNatService)

lemma Later.register (id now : Nat) : Later s (s.registerReleaseConnection id now).1 := by
  rw [registerReleaseConnection]
  dsimp only
  split
  · exact .refl s
  split
  · exact .same rfl
  · exact { Later.refl s with registered := subset_cons_self _ _ }

lemma Later.unregister (id : Nat) : Later s (s.unregisterReleaseConnection id) := by
  rw [unregisterReleaseConnection]
  split <;> exact .same rfl

lemma UdpNatService.addPending_eq (cookie now : Nat) :
    ∃ pending, s.addPendingRelease cookie now = { s with pendingReleases := pending } := by
  rw [addPendingRelease]
  split <;> exact ⟨_, rfl⟩

end

@[simp] def Instr.ids : Instr → List Nat
  | .connCheck _ _ id _ | .connRegister _ id | .connIsClosed _ id | .newPacket _ id | .handle id _
  | .enqueueCheck id _ | .enqueue id _ | .setHandler id | .drainToHandler id _ | .readPacket id
  | .waitReadPackets id _ | .readMore id _ | .evicted id | .close id _ | .closeUnregister id _ | .closeLock id _
  | .closeDrain id _ | .closeReturn id | .handleClose id _ | .onClose id _ | .cleanupEntry id => [id]
  | .connRemove _ _ created => created.toList
  | _ => []

def UdpNatConn.core (conn : UdpNatConn) : UdpNatConn := { conn with packetChan := [], handler := false }

def UdpNatService.core (s : UdpNatService) : UdpNatService :=
  { s with conns := fun id => (s.conns id).core, nextBuffer := 0, handed := [], released := [] }

lemma UdpNatService.core_conn (h : s'.core = s.core) (id : Nat) : (s'.conns id).core = (s.conns id).core :=
  congrFun (congrArg (·.conns) h) id

lemma Later.core (h : s'.core = s.core) : Later s s' where
  next := Nat.le_of_eq (congrArg (·.next) h.symm)
  key id _ := congrArg (·.key) (core_conn h id)
  done id _ hd := (congrArg (·.done) (core_conn h id)).trans hd
  finished id _ hf := (congrArg (·.closeOnce) (core_conn h id)).trans hf
  registered := by rw [show s'.registered = s.registered from congrArg (·.registered) h]; exact List.Subset.refl _

lemma UdpNatService.core_setConn (h : conn.core = (s.conns id).core) :
    (s.setConn id conn).core = s.core := by
  have hconns : (fun id' => (update s.conns id conn id').core) = fun id' => (s.conns id').core := by
    funext id'
    by_cases heq : id' = id
    · subst heq
      rw [update_self, h]
    · rw [update_of_ne heq]
  simp only [core, setConn, hconns]

lemma UdpNatService.core_pop (h : s.pop id = some (b, s')) : s'.core = s.core := by
  obtain ⟨rest, -, rfl⟩ := pop_eq h
  exact core_setConn rfl

@[simp] def Instr.isPacket : Instr → Bool
  | .newPacket _ _ | .handle _ _ | .enqueueCheck _ _ | .enqueue _ _ | .setHandler _ | .drainToHandler _ _
  | .readPacket _ | .waitReadPackets _ _ | .readMore _ _ => true
  | _ => false

lemma execPacket_core (h : execPacket c a x = some (s, pushed)) :
    s.core = c.shared.core ∧ a.isPacket = true ∧ ∀ b ∈ pushed, b.isPacket = true ∧ ∀ id ∈ b.ids, id ∈ a.ids := by
  cases a <;> simp only [execPacket, reduceCtorEq] at h
  case newPacket packet id =>
    split at h
    · split at h <;> cases h <;> cases packet <;> exact ⟨rfl, rfl, by simp⟩
    · cases h
  case handle id b | enqueueCheck id b => split at h <;> cases h <;> exact ⟨rfl, rfl, by simp⟩
  case enqueue id b =>
    split at h <;> cases h
    · exact ⟨core_setConn rfl, rfl, by simp⟩
    · exact ⟨rfl, rfl, by simp⟩
  case setHandler id =>
    split at h
    · split at h <;> cases h
      · exact ⟨rfl, rfl, by simp⟩
      · exact ⟨core_setConn rfl, rfl, by simp⟩
    · cases h
  case drainToHandler id queued =>
    split at h <;> cases h
    next hpop => exact ⟨core_pop hpop, rfl, by simp⟩
    · exact ⟨rfl, rfl, by simp⟩
  case readPacket id | waitReadPackets id batchSize =>
    split at h
    · obtain ⟨⟨b, s'⟩, hpop, heq⟩ := Option.map_eq_some_iff.1 h
      cases heq
      have hcore := core_pop hpop
      exact ⟨hcore, rfl, by simp⟩
    · split at h <;> cases h
      exact ⟨rfl, rfl, by simp⟩
    · cases h
      exact ⟨rfl, rfl, by simp⟩
  case readMore id left =>
    split at h
    · cases h
      exact ⟨rfl, rfl, by simp⟩
    split at h <;> cases h
    next hpop =>
      have hcore := core_pop hpop
      exact ⟨hcore, rfl, by simp⟩
    · exact ⟨rfl, rfl, by simp⟩

/-! ## Sessions that exist -/

lemma evictFrom_lookup (h : (evictFrom keys cache).1.lookup key = some id) : cache.lookup key = some id := by
  induction keys generalizing cache with
  | nil => exact h
  | cons k keys ih =>
    rw [evictFrom] at h
    split at h
    · exact ih h
    · exact lookup_of_erase (ih h)

lemma evictFrom_stays (h : cache.lookup key = some id) :
    (evictFrom keys cache).1.lookup key = some id ∨ id ∈ (evictFrom keys cache).2 := by
  induction keys generalizing cache with
  | nil => exact .inl h
  | cons k keys ih =>
    rw [evictFrom]
    split
    · exact ih h
    next id' hk =>
      by_cases heq : key = k
      · rw [heq, hk] at h
        cases h
        exact .inr mem_cons_self
      · exact (ih (by rwa [AList.lookup_erase_ne heq])).imp_right (mem_cons_of_mem _)

lemma evictFrom_was (h : id ∈ (evictFrom keys cache).2) : ∃ key, cache.lookup key = some id := by
  induction keys generalizing cache with
  | nil => cases h
  | cons k keys ih =>
    rw [evictFrom] at h
    split at h
    · exact ih h
    next id' hk =>
      obtain rfl | h := mem_cons.1 h
      · exact ⟨k, hk⟩
      obtain ⟨key, hl⟩ := ih h
      exact ⟨key, lookup_of_erase hl⟩

lemma evictFrom_gone (h : key ∈ keys) : (evictFrom keys cache).1.lookup key = none := by
  induction keys generalizing cache with
  | nil => cases h
  | cons k keys ih =>
    have hnone : ∀ {cache : SessionCache}, cache.lookup key = none → (evictFrom keys cache).1.lookup key = none := by
      intro cache hl
      cases hs : (evictFrom keys cache).1.lookup key with
      | none => rfl
      | some id => rw [evictFrom_lookup hs] at hl; cases hl
    rw [evictFrom]
    obtain rfl | h := mem_cons.1 h
    · split
      next hl => exact hnone hl
      · exact hnone (AList.lookup_erase ..)
    · split <;> exact ih h

/-- The cache and the release index lead to sessions that have the key and the cookie. -/
structure UdpNatService.Valid (s : UdpNatService) : Prop where
  cached : ∀ key id, s.cache.lookup key = some id → id < s.next ∧ (s.conns id).key = key
  index : ∀ cookie id, s.releaseConnections.lookup cookie = some id →
    id < s.next ∧ (s.conns id).key.releasable = true ∧ (s.conns id).key.socketCookie = cookie

structure NatConfig.Valid (c : NatConfig n) : Prop where
  service : c.shared.Valid
  instrs : c.All fun a => ∀ id ∈ a.ids, id < c.shared.next

namespace UdpNatService.Valid

lemma later (h : s.Valid) (hl : Later s s')
    (hcache : ∀ key id, s'.cache.lookup key = some id → s.cache.lookup key = some id)
    (hindex : ∀ cookie id, s'.releaseConnections.lookup cookie = some id →
      s.releaseConnections.lookup cookie = some id) : s'.Valid where
  cached key id he := by
    obtain ⟨hid, hkey⟩ := h.cached key id (hcache key id he)
    exact ⟨Nat.lt_of_lt_of_le hid hl.next, (hl.key id hid).trans hkey⟩
  index cookie id he := by
    obtain ⟨hid, hkey⟩ := h.index cookie id (hindex cookie id he)
    exact ⟨Nat.lt_of_lt_of_le hid hl.next, by rw [hl.key id hid]; exact hkey⟩

lemma evict (h : s.Valid) (keys : List UdpSessionKey) (next : List Instr) :
    (s.evict keys next).1.Valid :=
  h.later (.same rfl) (fun _ _ => evictFrom_lookup) fun _ _ hi => hi

lemma create (h : s.Valid) (key : UdpSessionKey) (hasOnClose : Bool) :
    (s.create key hasOnClose).Valid where
  cached key' id he := by
    change (s.cache.insert key s.next).lookup key' = some id at he
    by_cases heq : key' = key
    · subst heq
      rw [AList.lookup_insert] at he
      cases he
      exact ⟨Nat.lt_succ_self _, congrArg (·.key) (update_self s.next _ s.conns)⟩
    · rw [AList.lookup_insert_ne heq] at he
      obtain ⟨hid, hkey⟩ := h.cached key' id he
      exact ⟨Nat.lt_succ_of_lt hid, ((Later.create s key hasOnClose).key id hid).trans hkey⟩
  index cookie id he := by
    obtain ⟨hid, hkey⟩ := h.index cookie id he
    exact ⟨Nat.lt_succ_of_lt hid, by rw [(Later.create s key hasOnClose).key id hid]; exact hkey⟩

lemma register (h : s.Valid) (hid : id < s.next) (now : Nat) :
    (s.registerReleaseConnection id now).1.Valid := by
  rw [registerReleaseConnection]
  dsimp only
  split
  · exact h
  next hrel =>
    split
    · exact ⟨h.cached, h.index⟩
    refine ⟨h.cached, fun cookie id' he => ?_⟩
    by_cases heq : cookie = (s.conns id).key.socketCookie
    · subst heq
      rw [AList.lookup_insert] at he
      cases he
      exact ⟨hid, by simpa using hrel, rfl⟩
    · rw [AList.lookup_insert_ne heq] at he
      exact h.index cookie id' he

end UdpNatService.Valid

lemma UdpNatService.unregister_index {cookie id' : Nat}
    (h : (s.unregisterReleaseConnection id).releaseConnections.lookup cookie = some id') :
    s.releaseConnections.lookup cookie = some id' := by
  rw [unregisterReleaseConnection] at h
  split at h
  · exact lookup_of_erase h
  · exact h

lemma UdpNatService.unregister_cache (s : UdpNatService) (id : Nat) :
    (s.unregisterReleaseConnection id).cache = s.cache := by
  rw [unregisterReleaseConnection]
  split <;> rfl

lemma UdpNatService.unregister_cases (s : UdpNatService) (id : Nat) : s.unregisterReleaseConnection id = s ∨
    (s.releaseConnections.lookup (s.conns id).key.socketCookie = some id ∧ s.unregisterReleaseConnection id =
      { s with releaseConnections := s.releaseConnections.erase (s.conns id).key.socketCookie }) := by
  rw [unregisterReleaseConnection]
  split
  next h =>
    simp only [Bool.and_eq_true, beq_iff_eq] at h
    exact .inr ⟨h.2, rfl⟩
  · exact .inl rfl

/-- After an operation of the cache come the callbacks of sessions that were in it, and what was to come anyway. -/
lemma UdpNatService.forall_evict {Q : Instr → Prop}
    (hevicted : ∀ key id, s.cache.lookup key = some id → Q (.evicted id)) (hunlock : Q .cacheUnlock)
    (hnext : ∀ b ∈ next, Q b) : ∀ b ∈ (s.evict keys next).2, Q b := by
  intro b hb
  simp only [evict, mem_append, mem_cons] at hb
  obtain hb | rfl | hb := hb
  · obtain ⟨id, hid, rfl⟩ := mem_map.1 hb
    obtain ⟨key, hl⟩ := evictFrom_was hid
    exact hevicted key id hl
  · exact hunlock
  · exact hnext b hb

lemma NatConfig.Valid.evicted_ids (hv : c.Valid) (hnext : ∀ b ∈ next, ∀ id ∈ b.ids, id < c.shared.next) :
    ∀ b ∈ (c.shared.evict keys next).2, ∀ id ∈ b.ids, id < c.shared.next :=
  forall_evict (fun key id hl => by simpa using (hv.service.cached key id hl).1)
    (by simp) hnext

lemma execClose_ids (h : execClose c a = some (s, pushed)) : ∀ b ∈ pushed, ∀ id ∈ b.ids, id ∈ a.ids := by
  cases a <;> simp only [execClose, reduceCtorEq] at h
  all_goals
    repeat' split at h
    all_goals cases h
    all_goals simp

/-- One instruction leads to a later state, in which the sessions it goes on with exist. -/
structure ValidStep (c : NatConfig n) (s : UdpNatService) (pushed : List Instr) : Prop where
  later : Later c.shared s
  valid : s.Valid
  ids : ∀ b ∈ pushed, ∀ id ∈ b.ids, id < s.next

section
variable (hv : c.Valid)
include hv

lemma ValidStep.of_later (hl : Later c.shared s)
    (hcache : ∀ key id, s.cache.lookup key = some id → c.shared.cache.lookup key = some id)
    (hindex : ∀ cookie id, s.releaseConnections.lookup cookie = some id →
      c.shared.releaseConnections.lookup cookie = some id)
    (hids : ∀ b ∈ pushed, ∀ id ∈ b.ids, id < c.shared.next) : ValidStep c s pushed :=
  ⟨hl, hv.service.later hl hcache hindex, fun b hb id hid => Nat.lt_of_lt_of_le (hids b hb id hid) hl.next⟩

lemma ValidStep.still (hids : ∀ b ∈ pushed, ∀ id ∈ b.ids, id < c.shared.next := by simp)
    (hl : Later c.shared s := by exact .same rfl) (hcache : s.cache = c.shared.cache := by rfl)
    (hindex : s.releaseConnections = c.shared.releaseConnections := by rfl) : ValidStep c s pushed :=
  .of_later hv hl (fun _ _ he => hcache ▸ he) (fun _ _ he => hindex ▸ he) hids

lemma ValidStep.evict (hnext : ∀ b ∈ next, ∀ id ∈ b.ids, id < c.shared.next := by simp)
    (hl : Later c.shared s := by exact .same rfl) (hcache : s.cache = (evictFrom keys c.shared.cache).1 := by rfl)
    (hindex : s.releaseConnections = c.shared.releaseConnections := by rfl) :
    ValidStep c s ((evictFrom keys c.shared.cache).2.map .evicted ++ .cacheUnlock :: next) :=
  .of_later hv hl (fun _ _ he => evictFrom_lookup (hcache ▸ he)) (fun _ _ he => hindex ▸ he) (hv.evicted_ids hnext)

lemma execService_valid (h : execService locked c a x = some (s, pushed)) : ValidStep c s pushed := by
  cases a <;> simp only [execService, reduceCtorEq] at h
  case releaseTake cookie before =>
    split at h <;> cases h
    next id hindex =>
      refine .of_later hv (.same rfl) (fun _ _ he => he) (fun _ _ => lookup_of_erase) ?_
      simpa using (hv.service.index cookie id hindex).1
    · obtain ⟨pending, heq⟩ := addPending_eq c.shared cookie x.now
      rw [heq]
      exact .still hv
  case cleanupRemove | evict | purge | servicePurge =>
    split at h <;> cases h
    exact .evict hv
  case serviceClear =>
    cases h
    exact .of_later hv (.same rfl) (fun _ _ he => he) (fun _ _ he => by simp at he) (by simp)
  all_goals
    repeat' split at h
    all_goals cases h
    all_goals exact .still hv

variable (ha : ∀ id ∈ a.ids, id < c.shared.next)
include ha

lemma execConnection_valid (h : execConnection locked c a x = some (s, pushed)) : ValidStep c s pushed := by
  cases a <;> simp only [execConnection, reduceCtorEq] at h
  case connClosed key packet => split at h <;> cases h <;> exact .still hv
  case connGet key packet =>
    split at h
    · simp only [Option.some.injEq, getOrAdd] at h
      split at h
      next id hl =>
        cases h
        have hid := (hv.service.cached key id (evictFrom_lookup hl)).1
        exact .evict hv (by simpa using hid)
      split at h <;> cases h
      · have hevict : Later c.shared (c.shared.evict x.evict []).1 := .same rfl
        refine ⟨hevict.trans (.create ..), (hv.service.evict _ []).create .., fun b hb => ?_⟩
        simp only [evict, mem_append, mem_cons, not_mem_nil, or_false] at hb
        obtain hb | rfl | rfl := hb
        · have hmem : b ∈ (c.shared.evict x.evict []).2 := mem_append_left _ hb
          exact fun id hid => Nat.lt_succ_of_lt (hv.evicted_ids (by simp) b hmem id hid)
        · simp
        · simp [create, evict]
      · exact .evict hv
    · cases h
  case connCheck key packet id updated =>
    have hid := ha id (by simp)
    split at h
    · cases h
      refine .still hv ?_
      cases updated
      · simpa using hid
      · simp
    · split at h <;> cases h <;> exact .still hv (by simpa using hid)
  case connRegister packet id =>
    have hid := ha id (by simp)
    have hl := Later.register c.shared id x.now
    have hnext := Nat.lt_of_lt_of_le hid hl.next
    split at h <;> cases h <;> exact ⟨hl, hv.service.register hid _, by simpa using hnext⟩
  case connIsClosed packet id =>
    have hid := ha id (by simp)
    split at h <;> cases h <;> exact .still hv (by simpa using hid)
  case connRemove key packet created =>
    split at h <;> cases h
    refine .evict hv ?_
    cases created with
    | none => simp
    | some id => simpa using ha id (by simp)
  case connFail packet => split at h <;> cases h <;> exact .still hv

lemma execPacket_valid (h : execPacket c a x = some (s, pushed)) : ValidStep c s pushed := by
  obtain ⟨hcore, -, hids⟩ := execPacket_core h
  exact .still hv (fun b hb id hid => ha id ((hids b hb).2 id hid)) (.core hcore) (congrArg (·.cache) hcore)
    (congrArg (·.releaseConnections) hcore)

lemma execClose_valid (h : execClose c a = some (s, pushed)) : ValidStep c s pushed := by
  have hids : ∀ b ∈ pushed, ∀ id ∈ b.ids, id < c.shared.next := fun b hb id hid => ha id (execClose_ids h b hb id hid)
  cases a <;> simp only [execClose, reduceCtorEq] at h
  case close id cookie =>
    split at h
    next hfresh =>
      cases h
      exact .still hv hids (.setConn rfl (fun hd => hd) (fun hf => by rw [hfresh] at hf; cases hf))
    · cases h
    · cases h
      exact .still hv hids
  case closeUnregister id cookie =>
    cases h
    exact .of_later hv (.unregister ..) (fun _ _ he => unregister_cache .. ▸ he)
      (fun _ _ => unregister_index) hids
  case closeDrain id cookie =>
    split at h <;> cases h
    next hpop =>
      have hcore := core_pop hpop
      exact .still hv hids (.core hcore) (congrArg (·.cache) hcore) (congrArg (·.releaseConnections) hcore)
    · exact .still hv hids (.setConn rfl fun _ => rfl)
  case closeReturn id =>
    cases h
    exact .still hv hids (.setConn rfl (fun hd => hd) fun _ => rfl)
  case handleClose id fromCache =>
    split at h <;> cases h
    · exact .still hv hids .setConn
    · exact .still hv hids
  case onClose id fromCache =>
    cases h
    exact .still hv hids .setConn
  case evicted id =>
    cases h
    exact .still hv hids
  case closeLock id cookie =>
    split at h <;> cases h
    exact .still hv hids

end

lemma NatOp.start_valid {op : NatOp} (hv : c.Valid) (h : op.start c.shared = some (s, l)) :
    ValidStep c s l := by
  cases op <;> simp only [NatOp.start, onConn] at h
  case newPacketBuffer key =>
    cases h
    exact ⟨.same rfl, ⟨hv.service.cached, hv.service.index⟩, by simp⟩
  all_goals
    repeat' split at h
    all_goals cases h
    all_goals refine ⟨.refl _, hv.service, ?_⟩
    all_goals simp_all

lemma NatConfig.valid_init : (NatConfig.init : NatConfig n).Valid :=
  ⟨⟨fun _ _ h => absurd h (by simp [NatConfig.init]), fun _ _ h => absurd h (by simp [NatConfig.init])⟩,
    fun _ _ h => nomatch h⟩

lemma Stepped.later_valid {i : Fin n} {act : NatAction} (hv : c.Valid)
    (h : Stepped locked c i act s l) : Later c.shared s ∧ NatConfig.Valid (c.move i (s, l)) := by
  have hgrow : ∀ {s : UdpNatService} (b : Instr), Later c.shared s → (∀ id ∈ b.ids, id < c.shared.next) →
      ∀ id ∈ b.ids, id < s.next := fun _ hl hb id hid => Nat.lt_of_lt_of_le (hb id hid) hl.next
  have hmove {a : Instr} {rest pushed : List Instr} {s : UdpNatService} (hi : c.pc i = a :: rest)
      (hs : ValidStep c s pushed) : Later c.shared s ∧ NatConfig.Valid (c.move i (s, pushed ++ rest)) :=
    ⟨hs.later, hs.valid, hv.instrs.move hi (fun b => hgrow b hs.later) hs.ids⟩
  cases h with
  | start hi h =>
    obtain ⟨hl, hs, hids⟩ := NatOp.start_valid hv h
    exact ⟨hl, hs, hv.instrs.start (fun b => hgrow b hl) hids⟩
  | connection hi h => exact hmove hi (execConnection_valid hv (hv.instrs.head hi) h)
  | packet hi h => exact hmove hi (execPacket_valid hv (hv.instrs.head hi) h)
  | close hi h => exact hmove hi (execClose_valid hv (hv.instrs.head hi) h)
  | service hi h => exact hmove hi (execService_valid hv h)

end SingBox.Ebpf
