import SingBox.Ebpf.UdpTable
import SingBox.Lib.Weights
/-!
# The pool of UDP reply sockets

`get` finds a pooled socket under its shard's lock alone; a miss is served under
the one lock `createAccess`, where the pool makes room and adds the new socket.
A sweeper closes idle sockets, `reset` and `close` all of them.

A step below is what happens under one lock of a shard, or one access to an
atomic variable. The step of a shard counts as one: all that others can do to its
entries meanwhile is a release, which might as well come before or after. What
`get` returns beside a socket, the deadlines of the sweeper and the statistics
other than the count are left out.
-/
namespace SingBox.Ebpf
open Function Threads Machine Weights

def udpReplySocketCapacity : Nat := 4096
def udpReplyShardCount : Nat := 16
def shardIndex (source : AddrPort) : Nat := (shardIndexForAddrPort source udpClientShardCount).toNat

inductive ClosedBy
  | eviction
  | sweep
  | wholePool
  deriving DecidableEq

structure UdpReplySocketEntry where
  lastUsed : Nat := 0
  inUse : Nat := 0
  closed : Option ClosedBy := none

/-- The pool. `sockets` holds the maps of all shards together; an entry is a cell of the heap `entries`. The last two
fields are history: whether a call of `close` has returned, and whether the one that closed the pool has. -/
structure UdpReplySocketPool where
  capacity : Nat := 0
  sockets : AList (fun _ : AddrPort => Nat) := ∅
  entries : Nat → UdpReplySocketEntry := fun _ => {}
  next : Nat := 0
  closed : Bool := false
  count : Int := 0
  closeReturned : Bool := false
  closeFinished : Bool := false

namespace UdpReplySocketPool
variable (p : UdpReplySocketPool)

def socketCapacity : Nat := if p.capacity > 0 then p.capacity else udpReplySocketCapacity
def pooled : Nat := p.sockets.entries.length

def setEntry (id : Nat) (e : UdpReplySocketEntry) : UdpReplySocketPool :=
  { p with entries := update p.entries id e }

def use (id now : Nat) : UdpReplySocketPool :=
  p.setEntry id { p.entries id with lastUsed := now, inUse := (p.entries id).inUse + 1 }

def release (id : Nat) : UdpReplySocketPool :=
  p.setEntry id { p.entries id with inUse := (p.entries id).inUse - 1 }

/-- A new entry for the source, in use by the goroutine that made it. -/
def add (source : AddrPort) (now : Nat) : UdpReplySocketPool :=
  { p with
    sockets := p.sockets.insert source p.next
    entries := update p.entries p.next { lastUsed := now, inUse := 1 }
    next := p.next + 1 }

def evict (source : AddrPort) (id : Nat) : UdpReplySocketPool :=
  { p.setEntry id { p.entries id with closed := some .eviction } with sockets := p.sockets.erase source }

/-- All entries that pass the test are closed, leave the pool and are counted off. -/
def closeAll (by_ : ClosedBy) (test : Sigma (fun _ : AddrPort => Nat) → Bool) : UdpReplySocketPool :=
  { p with
    sockets := keep (fun e => !test e) p.sockets
    entries := fun id =>
      if p.sockets.entries.any (fun e => e.2 == id && test e) then { p.entries id with closed := some by_ }
      else p.entries id
    count := p.count - p.sockets.entries.countP test }

def idleIn (shard : Nat) (e : Sigma fun _ : AddrPort => Nat) : Bool :=
  shardIndex e.1 == shard && (p.entries e.2).inUse == 0

def expiredIn (shard now idleTimeout : Nat) (e : Sigma fun _ : AddrPort => Nat) : Bool :=
  p.idleIn shard e && decide (((p.entries e.2).lastUsed : Int) ≤ now - idleTimeout)

end UdpReplySocketPool

/-- The entry an eviction has selected so far, with the time it was last used then. -/
structure Selected where
  source : AddrPort
  entry : Nat
  lastUsed : Nat

/-- The scan of one shard may end with `pick`: the oldest idle entry of the shard, if it is older than the selected
one. Which one of several is the oldest depends on the order of a Go map. -/
def UdpReplySocketPool.scan (p : UdpReplySocketPool) (shard : Nat) (selected : Option Selected)
    (pick : Option AddrPort) : Option (Option Selected) :=
  let lastUsed := fun (e : Sigma fun _ : AddrPort => Nat) => (p.entries e.2).lastUsed
  let idle := p.sockets.entries.filter (p.idleIn shard)
  match pick with
  | none =>
    if idle.all fun e => selected.any fun s => decide (s.lastUsed ≤ lastUsed e) then some selected else none
  | some source =>
    match p.sockets.lookup source with
    | some id =>
      if p.idleIn shard ⟨source, id⟩ && selected.all (fun s => decide ((p.entries id).lastUsed < s.lastUsed)) &&
          idle.all (fun e => decide ((p.entries id).lastUsed ≤ lastUsed e)) then
        some (some ⟨source, id, (p.entries id).lastUsed⟩)
      else none
    | none => none

/-- Where a goroutine is: before the named step. `holding` is where the caller of `get` has its socket. -/
inductive PoolPlace
  | idle
  | getClosed (source : AddrPort)
  | getShard (source : AddrPort)
  | getCreate (source : AddrPort)
  | getClosedAgain (source : AddrPort)
  | getShardAgain (source : AddrPort)
  | getCapacity (source : AddrPort)
  | evictScan (source : AddrPort) (attempt shard : Nat) (selected : Option Selected)
  | evictTake (source : AddrPort) (attempt : Nat) (selected : Selected)
  | evictCount (source : AddrPort)
  | getSocket (source : AddrPort)
  | getPublish (source : AddrPort) (now : Nat)
  | getInsert (source : AddrPort) (now : Nat)
  | getCount (entry : Nat)
  | holding (entry : Nat)
  | sweepClosed (now idleTimeout : Nat)
  | sweepShard (now idleTimeout shard : Nat)
  | closeSwap
  | resetClosed
  | closeCreate (won : Bool)
  | closeShard (won : Bool) (shard : Nat)

/-- Whether `createAccess` is held. -/
def PoolPlace.creates : PoolPlace → Bool
  | .getClosedAgain _ | .getShardAgain _ | .getCapacity _ | .evictScan _ _ _ _ | .evictTake _ _ _ | .evictCount _
  | .getSocket _ | .getPublish _ _ | .getInsert _ _ | .getCount _ | .closeShard _ _ => true
  | _ => false

inductive PoolOp
  | get (source : AddrPort)
  | sweepIdleAt (now idleTimeout : Nat)
  | close
  | reset

def PoolOp.start : PoolOp → PoolPlace
  | .get source => .getClosed source
  | .sweepIdleAt now idleTimeout => .sweepClosed now idleTimeout
  | .close => .closeSwap
  | .reset => .resetClosed

/-- What a step meets: the clock, whether `create` succeeds, and the entry a scan picks. -/
structure PoolInput where
  now : Nat := 0
  created : Bool := true
  pick : Option AddrPort := none

inductive PoolAction
  | start (op : PoolOp)
  | next (input : PoolInput)
  | release

section Machine
variable {n : Nat}

abbrev PoolConfig (n : Nat) := Config UdpReplySocketPool PoolPlace n

variable (c : PoolConfig n)

/-- `createAccess` is free. -/
def PoolConfig.createFree : Bool := decide (∀ j, (c.pc j).creates = false)

/-- `evictOldestIdle` gives up on this attempt. -/
def evictRetry (source : AddrPort) (attempt : Nat) : PoolPlace :=
  if attempt + 1 < 2 then .evictScan source (attempt + 1) 0 none else .idle

def PoolConfig.advance (i : Fin n) (input : PoolInput) : Option (UdpReplySocketPool × PoolPlace) :=
  let p := c.shared
  match c.pc i with
  | .idle | .holding _ => none
  | .getClosed source => if p.closed then some (p, .idle) else some (p, .getShard source)
  | .getShard source =>
    if p.closed then some (p, .idle)
    else match p.sockets.lookup source with
      | some id => some (p.use id input.now, .holding id)
      | none => some (p, .getCreate source)
  | .getCreate source => if c.createFree then some (p, .getClosedAgain source) else none
  | .getClosedAgain source => if p.closed then some (p, .idle) else some (p, .getShardAgain source)
  | .getShardAgain source =>
    match p.sockets.lookup source with
    | some id => some (p.use id input.now, .holding id)
    | none => some (p, .getCapacity source)
  | .getCapacity source =>
    if p.count ≥ p.socketCapacity then some (p, .evictScan source 0 0 none) else some (p, .getSocket source)
  | .evictScan source attempt shard selected =>
    if shard < udpReplyShardCount then
      (p.scan shard selected input.pick).map fun selected => (p, .evictScan source attempt (shard + 1) selected)
    else match selected with
      | some selected => some (p, .evictTake source attempt selected)
      | none => some (p, .idle)
  | .evictTake source attempt selected =>
    if p.sockets.lookup selected.source ≠ some selected.entry || (p.entries selected.entry).inUse ≠ 0 ||
        (p.entries selected.entry).lastUsed ≠ selected.lastUsed then some (p, evictRetry source attempt)
    else some (p.evict selected.source selected.entry, .evictCount source)
  | .evictCount source => some ({ p with count := p.count - 1 }, .getSocket source)
  | .getSocket source => if input.created then some (p, .getPublish source input.now) else some (p, .idle)
  | .getPublish source now => if p.closed then some (p, .idle) else some (p, .getInsert source now)
  | .getInsert source now => some (p.add source now, .getCount p.next)
  | .getCount id => some ({ p with count := p.count + 1 }, .holding id)
  | .sweepClosed now idleTimeout => if p.closed then some (p, .idle) else some (p, .sweepShard now idleTimeout 0)
  | .sweepShard now idleTimeout shard =>
    if shard < udpReplyShardCount then
      some (p.closeAll .sweep (p.expiredIn shard now idleTimeout), .sweepShard now idleTimeout (shard + 1))
    else some (p, .idle)
  | .closeSwap =>
    if p.closed then some ({ p with closeReturned := true }, .idle)
    else some ({ p with closed := true }, .closeCreate true)
  | .resetClosed => if p.closed then some (p, .idle) else some (p, .closeCreate false)
  | .closeCreate won => if c.createFree then some (p, .closeShard won 0) else none
  | .closeShard won shard =>
    if shard < udpReplyShardCount then
      some (p.closeAll .wholePool (fun e => shardIndex e.1 == shard), .closeShard won (shard + 1))
    else if won then some ({ p with closeReturned := true, closeFinished := true }, .idle)
    else some (p, .idle)

def PoolConfig.act (i : Fin n) : PoolAction → Option (UdpReplySocketPool × PoolPlace)
  | .start op => match c.pc i with
    | .idle => some (c.shared, op.start)
    | _ => none
  | .next input => c.advance i input
  | .release => match c.pc i with
    | .holding id => some (c.shared.release id, .idle)
    | _ => none

def PoolConfig.init (capacity : Nat) : PoolConfig n := ⟨{ capacity }, fun _ => .idle⟩
def PoolConfig.Quiet : Prop := ∀ i, c.pc i = .idle ∨ ∃ id, c.pc i = .holding id

end Machine
variable {attempt id now shard : Nat} {cause : ClosedBy} {selected : Selected}

open UdpReplySocketPool PoolConfig PoolPlace

/-! ## What the goroutines know -/

lemma shardIndex_lt (source : AddrPort) : shardIndex source < udpReplyShardCount := by
  have hand : shardIndex source ≤ (udpClientShardCount - 1).toNat := by
    rw [shardIndex, shardIndexForAddrPort, UInt64.toNat_and]
    exact Nat.and_le_right
  exact Nat.lt_of_le_of_lt hand (by decide)

/-- What a goroutine adds to the count of the pool that has not been counted, or not been counted off, yet. -/
def PoolPlace.owed : PoolPlace → Int
  | .evictCount _ => 1
  | .getCount _ => -1
  | _ => 0

def PoolPlace.holds (id : Nat) : PoolPlace → Nat
  | .getCount id' | .holding id' => if id' = id then 1 else 0
  | _ => 0

namespace UdpReplySocketPool

/-- An entry that neither an eviction nor the sweeper has closed. -/
structure Spared (p : UdpReplySocketPool) (id : Nat) : Prop where
  allocated : id < p.next
  eviction : (p.entries id).closed ≠ some .eviction
  sweep : (p.entries id).closed ≠ some .sweep

def PlaceGood (p : UdpReplySocketPool) : PoolPlace → Prop
  | .getShardAgain _ => p.closeFinished = false
  | .getCapacity source | .evictScan source _ _ _ | .evictTake source _ _ =>
    p.closeFinished = false ∧ p.sockets.lookup source = none
  | .evictCount source | .getSocket source | .getPublish source _ | .getInsert source _ =>
    p.closeFinished = false ∧ p.sockets.lookup source = none ∧ p.pooled < p.socketCapacity
  | .getCount id => p.closeFinished = false ∧ p.Spared id
  | .holding id => p.Spared id
  | .closeCreate won => won = true → p.closed = true
  | .closeShard won shard =>
    (won = true → p.closed = true) ∧ ∀ source id, p.sockets.lookup source = some id → shard ≤ shardIndex source
  | _ => True

/-- The facts about the memory alone. -/
structure Good (p : UdpReplySocketPool) : Prop where
  bounded : p.pooled ≤ p.socketCapacity
  allocated : ∀ source id, p.sockets.lookup source = some id → id < p.next
  distinct : ∀ source source' id, p.sockets.lookup source = some id → p.sockets.lookup source' = some id →
    source = source'
  unclosed : ∀ source id, p.sockets.lookup source = some id → (p.entries id).closed = none
  finished : p.closeFinished = true → p.closed = true ∧ p.pooled = 0

end UdpReplySocketPool

variable {n : Nat}

structure PoolConfig.Good (c : PoolConfig n) : Prop where
  pool : c.shared.Good
  place : ∀ i, c.shared.PlaceGood (c.pc i)
  apart : ∀ i j, i ≠ j → ¬ ((c.pc i).creates = true ∧ (c.pc j).creates = true)
  count : c.shared.count = c.shared.pooled + ∑ j, (c.pc j).owed
  inUse : ∀ id, (c.shared.entries id).inUse = ∑ j, (c.pc j).holds id

lemma PoolConfig.good_init (capacity : Nat) : (init capacity : PoolConfig n).Good where
  pool := ⟨Nat.zero_le _, fun _ _ h => absurd h (by simp [init]),
    fun _ _ _ h => absurd h (by simp [init]), fun _ _ h => absurd h (by simp [init]),
    fun h => absurd h (by simp [init])⟩
  place _ := trivial
  apart _ _ _ h := by cases h.1
  count := by simp [init, pooled, owed]
  inUse _ := by simp [init, holds]

variable {c : PoolConfig n} {i : Fin n} {p : UdpReplySocketPool} {q : PoolPlace}

/-- The invariant holds after the step, and a finished pool stays so. -/
structure PoolConfig.Keeps (c c' : PoolConfig n) : Prop where
  good : c'.Good
  finished : c.shared.closeFinished = true → c'.shared.closeFinished = true

/-- The invariant after goroutine `i` has moved, from what it did to the memory and to the others. -/
lemma PoolConfig.Good.move (h : c.Good) (hp : p.Good) (hq : p.PlaceGood q)
    (hfinished : c.shared.closeFinished = true → p.closeFinished = true)
    (hothers : ∀ j, j ≠ i → p.PlaceGood (c.pc j))
    (hcreates : q.creates = true → (c.pc i).creates = true ∨ c.createFree = true)
    (hcount : p.count + c.shared.pooled + (c.pc i).owed = c.shared.count + p.pooled + q.owed)
    (hinUse : ∀ id, (p.entries id).inUse + (c.pc i).holds id = (c.shared.entries id).inUse + q.holds id) :
    Keeps c (c.move i (p, q)) := by
  refine ⟨{ pool := hp, place := Config.forall_move hq hothers, apart := ?_, count := ?_, inUse := fun id => ?_ },
    hfinished⟩
  · refine Config.pairs_move (M := fun x y : PoolPlace => ¬ (x.creates = true ∧ y.creates = true))
      (fun _ _ hne hboth => hne hboth.symm) h.apart fun j hji hboth => ?_
    obtain hi | hfree := hcreates hboth.1
    · exact h.apart i j (Ne.symm hji) ⟨hi, hboth.2⟩
    have hj := (of_decide_eq_true hfree) j
    rw [hj] at hboth
    cases hboth.2
  · have hsum := c.sum_move owed i (p, q)
    have hbefore := h.count
    dsimp only [Config.move_shared] at hsum ⊢
    omega
  · have hsum := c.sum_move (holds id) i (p, q)
    have hbefore := h.inUse id
    have := hinUse id
    dsimp only [Config.move_shared] at hsum ⊢
    omega

lemma PoolConfig.Good.count_eq (h : c.Good) (hi : (c.pc i).creates = true) :
    c.shared.count = c.shared.pooled + (c.pc i).owed := by
  rw [h.count, Config.sum_eq (i := i)]
  intro j hji
  have hj : (c.pc j).creates ≠ true := fun hj => h.apart i j (Ne.symm hji) ⟨hi, hj⟩
  cases hp : c.pc j <;> rw [hp] at hj <;> first | rfl | exact absurd rfl hj

lemma PoolConfig.Good.inUse_pos (h : c.Good) (j : Fin n) (hj : (c.pc j).holds id = 1) :
    (c.shared.entries id).inUse ≠ 0 := by
  rw [h.inUse id]
  have := c.le_sum (holds id) j
  omega

/-! ## Changes of the memory -/

namespace UdpReplySocketPool
variable {p p' : UdpReplySocketPool} {q : PoolPlace}

/-- Two memories with the same sockets, open or closed in the same way. -/
structure Like (p p' : UdpReplySocketPool) : Prop where
  sockets : p'.sockets = p.sockets
  closed : p'.closed = p.closed
  closeFinished : p'.closeFinished = p.closeFinished
  capacity : p'.capacity = p.capacity
  next : p'.next = p.next
  entries : ∀ id, (p'.entries id).closed = (p.entries id).closed

lemma Like.refl (p : UdpReplySocketPool) : Like p p := ⟨rfl, rfl, rfl, rfl, rfl, fun _ => rfl⟩

variable {source : AddrPort}

lemma Like.setEntry (p : UdpReplySocketPool) {e : UdpReplySocketEntry}
    (h : e.closed = (p.entries id).closed) : Like p (p.setEntry id e) := by
  refine ⟨rfl, rfl, rfl, rfl, rfl, fun id' => ?_⟩
  by_cases heq : id' = id
  · subst heq
    simpa [UdpReplySocketPool.setEntry] using h
  · simp [UdpReplySocketPool.setEntry, update_of_ne heq]

/-- Sockets leave the pool, and those that stay are left as they are. -/
structure Shrinks (p p' : UdpReplySocketPool) : Prop where
  closed : p'.closed = p.closed
  closeFinished : p'.closeFinished = p.closeFinished
  capacity : p'.capacity = p.capacity
  next : p'.next = p.next
  pooled : p'.pooled ≤ p.pooled
  lookup : ∀ source id, p'.sockets.lookup source = some id →
    p.sockets.lookup source = some id ∧ (p'.entries id).closed = (p.entries id).closed

lemma Shrinks.good (h : Shrinks p p') (hp : p.Good) : p'.Good where
  bounded := by
    rw [socketCapacity, h.capacity]
    exact Nat.le_trans h.pooled hp.bounded
  allocated source id hl := h.next ▸ hp.allocated source id (h.lookup _ _ hl).1
  distinct source source' id hl hl' := hp.distinct _ _ id (h.lookup _ _ hl).1 (h.lookup _ _ hl').1
  unclosed source id hl := (h.lookup _ _ hl).2.trans (hp.unclosed _ _ (h.lookup _ _ hl).1)
  finished hf := by
    obtain ⟨hc, hz⟩ := hp.finished (h.closeFinished ▸ hf)
    exact ⟨h.closed ▸ hc, Nat.le_zero.1 (hz ▸ h.pooled)⟩

lemma Shrinks.lookup_none (h : Shrinks p p') (hl : p.sockets.lookup source = none) :
    p'.sockets.lookup source = none := by
  cases hs : p'.sockets.lookup source with
  | none => rfl
  | some id => rw [(h.lookup source id hs).1] at hl; cases hl

lemma Shrinks.placeGood (h : Shrinks p p') (hq : p.PlaceGood q)
    (hspared : ∀ id, q.holds id = 1 → p.Spared id → p'.Spared id) : p'.PlaceGood q := by
  have hcap : p'.socketCapacity = p.socketCapacity := by
    rw [socketCapacity, socketCapacity, h.capacity]
  cases q with
  | getShardAgain source => exact h.closeFinished.trans hq
  | getCapacity source
  | evictScan source attempt shard selected
  | evictTake source attempt selected => exact ⟨h.closeFinished.trans hq.1, h.lookup_none hq.2⟩
  | evictCount source | getSocket source | getPublish source now | getInsert source now =>
    exact ⟨h.closeFinished.trans hq.1, h.lookup_none hq.2.1, hcap ▸ Nat.lt_of_le_of_lt h.pooled hq.2.2⟩
  | getCount id => exact ⟨h.closeFinished.trans hq.1, hspared id (if_pos rfl) hq.2⟩
  | holding id => exact hspared id (if_pos rfl) hq
  | closeCreate won => exact fun hw => h.closed.trans (hq hw)
  | closeShard won shard =>
    exact ⟨fun hw => h.closed.trans (hq.1 hw), fun source id hl => hq.2 source id (h.lookup source id hl).1⟩
  | _ => trivial

section
variable (h : Like p p')
include h

lemma Like.shrinks : Shrinks p p' where
  pooled := (congrArg (·.entries.length) h.sockets).le
  lookup source id hl := ⟨h.sockets ▸ hl, h.entries id⟩
  __ := h

lemma Like.spared (hs : p.Spared id) : p'.Spared id :=
  ⟨h.next ▸ hs.allocated, h.entries id ▸ hs.eviction, h.entries id ▸ hs.sweep⟩

end

lemma Good.evict_shrinks (hp : p.Good) (hl : p.sockets.lookup source = some id) :
    Shrinks p (p.evict source id) ∧ (p.evict source id).pooled + 1 = p.pooled := by
  have hlength : (p.evict source id).pooled + 1 = p.pooled := length_erase hl
  refine ⟨⟨rfl, rfl, rfl, rfl, by omega, fun source' id' hl' => ?_⟩, hlength⟩
  change (p.sockets.erase source).lookup source' = some id' at hl'
  have hne : source' ≠ source := by
    rintro rfl
    rw [AList.lookup_erase] at hl'
    cases hl'
  rw [AList.lookup_erase_ne hne] at hl'
  have hid : id' ≠ id := fun heq => hne (hp.distinct _ _ _ hl' (heq ▸ hl))
  exact ⟨hl', by simp [UdpReplySocketPool.evict, setEntry, update_of_ne hid]⟩

lemma evict_spared {id' : Nat} (hne : id' ≠ id) (h : p.Spared id') : (p.evict source id).Spared id' := by
  have hentry : (p.evict source id).entries id' = p.entries id' := update_of_ne hne ..
  exact ⟨h.allocated, hentry ▸ h.eviction, hentry ▸ h.sweep⟩

lemma Good.closeAll_shrinks (hp : p.Good) (cause : ClosedBy) (test : Sigma (fun _ : AddrPort => Nat) → Bool) :
    Shrinks p (p.closeAll cause test) ∧
    (p.closeAll cause test).count + p.pooled = p.count + (p.closeAll cause test).pooled := by
  have hlength := length_keep (fun e => !test e) p.sockets
  simp only [Bool.not_not] at hlength
  have hpooled : (p.closeAll cause test).pooled + p.sockets.entries.countP test = p.pooled := hlength
  refine ⟨⟨rfl, rfl, rfl, rfl, by omega, fun source id hl => ?_⟩, ?_⟩
  · obtain ⟨hl, htest⟩ := lookup_keep.1 hl
    refine ⟨hl, ?_⟩
    have hnot : ¬ (p.sockets.entries.any fun e => e.2 == id && test e) = true := by
      intro hany
      obtain ⟨⟨source', id'⟩, hmem, hboth⟩ := List.any_eq_true.1 hany
      simp only [Bool.and_eq_true, beq_iff_eq] at hboth
      obtain ⟨rfl, ht⟩ := hboth
      obtain rfl := hp.distinct _ _ _ (AList.mem_lookup_iff.2 hmem) hl
      simp [ht] at htest
    simp only [UdpReplySocketPool.closeAll]
    rw [if_neg hnot]
  · have : (p.closeAll cause test).count = p.count - p.sockets.entries.countP test := rfl
    omega

lemma closeAll_spared {test : Sigma (fun _ : AddrPort => Nat) → Bool}
    (h : p.Spared id) (htest : cause = .wholePool ∨ ∀ e, e.2 = id → test e = false) :
    (p.closeAll cause test).Spared id := by
  have hclosed : ((p.closeAll cause test).entries id).closed = (p.entries id).closed ∨
      ((p.closeAll cause test).entries id).closed = some .wholePool := by
    simp only [UdpReplySocketPool.closeAll]
    split
    next hany =>
      obtain rfl | hno := htest
      · exact .inr rfl
      obtain ⟨e, -, he⟩ := List.any_eq_true.1 hany
      simp only [Bool.and_eq_true, beq_iff_eq] at he
      rw [hno e he.1] at he
      cases he.2
    · exact .inl rfl
  obtain hclosed | hclosed := hclosed
  · exact ⟨h.allocated, hclosed ▸ h.eviction, hclosed ▸ h.sweep⟩
  · exact ⟨h.allocated, by simp [hclosed], by simp [hclosed]⟩

lemma closeAll_inUse (p : UdpReplySocketPool) (cause : ClosedBy) (test : Sigma (fun _ : AddrPort => Nat) → Bool)
    (id : Nat) : ((p.closeAll cause test).entries id).inUse = (p.entries id).inUse := by
  simp only [UdpReplySocketPool.closeAll]
  split <;> rfl

lemma add_entries_ne (h : id < p.next) :
    (p.add source now).entries id = p.entries id := update_of_ne (Nat.ne_of_lt h) ..

lemma add_lookup {source' : AddrPort} (h : (p.add source now).sockets.lookup source' = some id) :
    (source' = source ∧ id = p.next) ∨ p.sockets.lookup source' = some id := by
  change (p.sockets.insert source p.next).lookup source' = some id at h
  by_cases heq : source' = source
  · subst heq
    rw [AList.lookup_insert] at h
    exact .inl ⟨rfl, (Option.some.inj h).symm⟩
  · rw [AList.lookup_insert_ne heq] at h
    exact .inr h

lemma add_spared (h : p.Spared id) : (p.add source now).Spared id := by
  have hentry : (p.add source now).entries id = p.entries id := add_entries_ne h.allocated
  exact ⟨Nat.lt_succ_of_lt h.allocated, hentry ▸ h.eviction, hentry ▸ h.sweep⟩

lemma add_spared_next (source : AddrPort) (now : Nat) : (p.add source now).Spared p.next := by
  have hentry : (p.add source now).entries p.next = { lastUsed := now, inUse := 1 } := update_self ..
  exact ⟨Nat.lt_succ_self _, by rw [hentry]; simp, by rw [hentry]; simp⟩

lemma add_pooled (hl : p.sockets.lookup source = none) :
    (p.add source now).pooled = p.pooled + 1 := length_insert hl _

lemma Good.add (hp : p.Good) (hopen : p.closeFinished = false)
    (hl : p.sockets.lookup source = none) (hroom : p.pooled < p.socketCapacity) : (p.add source now).Good where
  bounded := by
    rw [add_pooled hl]
    exact hroom
  allocated source' id h := by
    obtain ⟨-, rfl⟩ | h := add_lookup h
    · exact Nat.lt_succ_self _
    · exact Nat.lt_succ_of_lt (hp.allocated _ _ h)
  distinct source₁ source₂ id h₁ h₂ := by
    obtain ⟨hs₁, hid₁⟩ | ho₁ := add_lookup h₁ <;> obtain ⟨hs₂, hid₂⟩ | ho₂ := add_lookup h₂
    · rw [hs₁, hs₂]
    · exact absurd (hp.allocated _ _ ho₂) (by omega)
    · exact absurd (hp.allocated _ _ ho₁) (by omega)
    · exact hp.distinct _ _ _ ho₁ ho₂
  unclosed source' id h := by
    obtain ⟨-, rfl⟩ | h := add_lookup h
    · exact congrArg (·.closed) (update_self p.next _ p.entries)
    rw [add_entries_ne (hp.allocated _ _ h)]
    exact hp.unclosed _ _ h
  finished h := by
    change p.closeFinished = true at h
    rw [hopen] at h
    cases h

/-- A goroutine without `createAccess` relies on its socket and on the pool staying closed only. -/
lemma placeGood_of_free (hq : p.PlaceGood q) (hfree : q.creates = false)
    (hclosed : p.closed = true → p'.closed = true) (hspared : ∀ id, p.Spared id → p'.Spared id) : p'.PlaceGood q := by
  cases q with
  | holding id => exact hspared id hq
  | closeCreate won => exact fun hw => hclosed (hq hw)
  | idle | getClosed | getShard | getCreate | sweepClosed | sweepShard | closeSwap | resetClosed
  | getClosedAgain => trivial
  | _ => cases hfree

end UdpReplySocketPool

/-! ## The steps -/

namespace PoolConfig.Good
variable {q₀ : PoolPlace}

section
variable (h : c.Good) (hi : c.pc i = q₀)
include h hi

/-- The sockets stay as they are; the goroutine may count something or take a socket in use. -/
lemma like (hlike : c.shared.Like p) (hq : p.PlaceGood q)
    (hcreates : q.creates = true → q₀.creates = true ∨ c.createFree = true)
    (hcount : p.count + q₀.owed = c.shared.count + q.owed)
    (hinUse : ∀ id, (p.entries id).inUse + q₀.holds id = (c.shared.entries id).inUse + q.holds id) :
    Keeps c (c.move i (p, q)) := by
  subst hi
  have hpooled : p.pooled = c.shared.pooled := congrArg (·.entries.length) hlike.sockets
  exact h.move (hlike.shrinks.good h.pool) hq hlike.closeFinished.trans
    (fun j _ => hlike.shrinks.placeGood (h.place j) fun _ _ => hlike.spared) hcreates (by omega) hinUse

lemma stay (hq : c.shared.PlaceGood q) (hcreates : q.creates = true → q₀.creates = true ∨ c.createFree = true)
    (hsame : (q₀.owed, q₀.holds) = (q.owed, q.holds)) : Keeps c (c.move i (c.shared, q)) :=
  h.like hi (.refl _) hq hcreates (by rw [(Prod.mk.inj hsame).1]) fun id =>
    congrArg ((c.shared.entries id).inUse + ·) (congrFun (Prod.mk.inj hsame).2 id)

lemma leave (hsame : (q₀.owed, q₀.holds) = (0, fun _ => 0)) : Keeps c (c.move i (c.shared, .idle)) :=
  h.stay hi trivial (fun hc => nomatch hc) hsame

end

variable {source : AddrPort}
variable (h : c.Good)
include h

lemma use (hi : c.pc i = q₀)
    (hl : c.shared.sockets.lookup source = some id) (hsame : (q₀.owed, q₀.holds) = (0, fun _ => 0)) :
    Keeps c (c.move i (c.shared.use id now, .holding id)) := by
  have hlike : c.shared.Like (c.shared.use id now) := .setEntry _ rfl
  have hopen := h.pool.unclosed source id hl
  refine h.like hi hlike (hlike.spared ⟨h.pool.allocated source id hl, ?_, ?_⟩) (fun hc => nomatch hc) ?_ fun id' => ?_
  · rw [hopen]; simp
  · rw [hopen]; simp
  · rw [(Prod.mk.inj hsame).1]; rfl
  rw [show q₀.holds id' = 0 from congrFun (Prod.mk.inj hsame).2 id']
  by_cases heq : id' = id
  · subst heq
    simp [UdpReplySocketPool.use, setEntry, holds]
  · simp [UdpReplySocketPool.use, setEntry, holds, update_of_ne heq, Ne.symm heq]

lemma release (hi : c.pc i = .holding id) : Keeps c (c.move i (c.shared.release id, .idle)) := by
  have hpos := h.inUse_pos i (by rw [hi]; exact if_pos rfl)
  refine h.like hi (.setEntry _ rfl) trivial (fun hc => nomatch hc) rfl fun id' => ?_
  by_cases heq : id' = id
  · subst heq
    simp only [UdpReplySocketPool.release, setEntry, holds, update_self, if_true]
    omega
  · simp [UdpReplySocketPool.release, setEntry, holds, update_of_ne heq, Ne.symm heq]

lemma shrink (hs : c.shared.Shrinks p) (hq : p.PlaceGood q)
    (hspared : ∀ id, (c.shared.entries id).inUse ≠ 0 → c.shared.Spared id → p.Spared id)
    (hcreates : q.creates = true → (c.pc i).creates = true ∨ c.createFree = true)
    (hcount : p.count + c.shared.pooled + (c.pc i).owed = c.shared.count + p.pooled + q.owed)
    (hinUse : ∀ id, (p.entries id).inUse = (c.shared.entries id).inUse)
    (hholds : ∀ id, (c.pc i).holds id = q.holds id) : Keeps c (c.move i (p, q)) :=
  h.move (hs.good h.pool) hq hs.closeFinished.trans
    (fun j _ => hs.placeGood (h.place j) fun id hj => hspared id (h.inUse_pos j hj)) hcreates hcount
    fun id => by rw [hinUse, hholds]

lemma evict (hi : c.pc i = .evictTake source attempt selected)
    (hl : c.shared.sockets.lookup selected.source = some selected.entry)
    (hidle : (c.shared.entries selected.entry).inUse = 0) :
    Keeps c (c.move i (c.shared.evict selected.source selected.entry, .evictCount source)) := by
  obtain ⟨hs, hpooled⟩ := h.pool.evict_shrinks hl
  have hplace := h.place i
  rw [hi] at hplace
  have hroom : (c.shared.evict selected.source selected.entry).pooled < c.shared.socketCapacity := by
    have := h.pool.bounded
    omega
  refine h.shrink hs ⟨hplace.1, hs.lookup_none hplace.2, hroom⟩ (fun id hused hspared => ?_)
    (fun _ => .inl (by rw [hi]; rfl)) ?_ (fun id => ?_) (fun _ => by rw [hi]; rfl)
  · exact evict_spared (fun heq => hused (heq ▸ hidle)) hspared
  · rw [hi]
    change c.shared.count + _ + 0 = c.shared.count + _ + 1
    omega
  by_cases heq : id = selected.entry
  · subst heq
    simp [UdpReplySocketPool.evict, setEntry]
  · simp [UdpReplySocketPool.evict, setEntry, update_of_ne heq]

lemma closeAll (hi : c.pc i = q₀) {test : Sigma (fun _ : AddrPort => Nat) → Bool}
    (hq : c.shared.Shrinks (c.shared.closeAll cause test) → (c.shared.closeAll cause test).PlaceGood q)
    (htest : cause = .wholePool ∨ ∀ e, test e = true → (c.shared.entries e.2).inUse = 0)
    (hcreates : q.creates = true → q₀.creates = true ∨ c.createFree = true)
    (howed : q₀.owed = q.owed) (hholds : ∀ id, q₀.holds id = q.holds id) :
    Keeps c (c.move i (c.shared.closeAll cause test, q)) := by
  subst hi
  obtain ⟨hs, hcount⟩ := h.pool.closeAll_shrinks cause test
  refine h.shrink hs (hq hs) (fun id hused hspared => ?_) hcreates (by omega)
    (fun id => closeAll_inUse ..) hholds
  refine closeAll_spared hspared (htest.imp_right fun hidle e he => ?_)
  subst he
  exact Bool.eq_false_iff.2 fun ht => hused (hidle e ht)

lemma others_free (hi : (c.pc i).creates = true) (j : Fin n) (hj : j ≠ i) :
    (c.pc j).creates = false := Bool.eq_false_iff.2 fun hcj => h.apart i j (Ne.symm hj) ⟨hi, hcj⟩

lemma add (hi : c.pc i = .getInsert source now) :
    Keeps c (c.move i (c.shared.add source now, .getCount c.shared.next)) := by
  have hplace := h.place i
  rw [hi] at hplace
  obtain ⟨hopen, hl, hroom⟩ := hplace
  have hcreates : (c.pc i).creates = true := by rw [hi]; rfl
  refine h.move (h.pool.add hopen hl hroom) ⟨hopen, add_spared_next ..⟩ id (fun j hj => ?_)
    (fun _ => .inl hcreates) ?_ fun id => ?_
  · exact placeGood_of_free (h.place j) (h.others_free hcreates j hj) id
      fun _ => add_spared
  · rw [add_pooled hl, hi]
    change c.shared.count + _ + 0 = c.shared.count + _ + -1
    omega
  rw [hi]
  by_cases heq : id = c.shared.next
  · -- nobody can be a user of an entry that was not there
    subst heq
    have hnone : (c.shared.entries c.shared.next).inUse = 0 := by
      rw [h.inUse]
      refine Finset.sum_eq_zero fun j _ => ?_
      have hj := h.place j
      cases hpj : c.pc j with
      | getCount id =>
        rw [hpj] at hj
        exact if_neg (Nat.ne_of_lt hj.2.allocated)
      | holding id =>
        rw [hpj] at hj
        exact if_neg (Nat.ne_of_lt hj.allocated)
      | _ => rfl
    rw [hnone]
    simp [UdpReplySocketPool.add, holds]
  · simp [UdpReplySocketPool.add, holds, update_of_ne heq, Ne.symm heq]

lemma close (hi : c.pc i = .closeSwap) :
    Keeps c (c.move i ({ c.shared with closed := true }, .closeCreate true)) := by
  have hpool : UdpReplySocketPool.Good { c.shared with closed := true } :=
    { h.pool with finished := fun hf => ⟨rfl, (h.pool.finished hf).2⟩ }
  refine h.move hpool (fun _ => rfl) id (fun j _ => ?_) (fun hc => nomatch hc) (by rw [hi]; rfl) (fun _ => by rw [hi]; rfl)
  have hj := h.place j
  cases hpj : c.pc j with
  | closeCreate won => exact fun _ => rfl
  | closeShard won shard =>
    rw [hpj] at hj
    exact ⟨fun _ => rfl, hj.2⟩
  | getCount id =>
    rw [hpj] at hj
    exact ⟨hj.1, hj.2.allocated, hj.2.eviction, hj.2.sweep⟩
  | holding id =>
    rw [hpj] at hj
    exact { hj with }
  | _ => rw [hpj] at hj; exact hj

lemma finish (hi : c.pc i = .closeShard true shard) (hall : udpReplyShardCount ≤ shard) :
    Keeps c (c.move i ({ c.shared with closeReturned := true, closeFinished := true }, .idle)) := by
  have hplace := h.place i
  rw [hi] at hplace
  have hempty : c.shared.pooled = 0 := by
    cases hentries : c.shared.sockets.entries with
    | nil => rw [pooled, hentries]; rfl
    | cons e rest =>
      have hl : c.shared.sockets.lookup e.1 = some e.2 := AList.mem_lookup_iff.2 (hentries ▸ List.mem_cons_self)
      have := hplace.2 _ _ hl
      have := shardIndex_lt e.1
      omega
  have hpool : UdpReplySocketPool.Good { c.shared with closeReturned := true, closeFinished := true } :=
    { h.pool with finished := fun _ => ⟨hplace.1 rfl, hempty⟩ }
  have hcreates : (c.pc i).creates = true := by rw [hi]; rfl
  refine h.move hpool trivial (fun _ => rfl) (fun j hj => ?_) (fun hc => nomatch hc) (by rw [hi]; rfl) (fun _ => by rw [hi]; rfl)
  exact placeGood_of_free (h.place j) (h.others_free hcreates j hj) id
    fun _ hs => { hs with }

section
variable {input : PoolInput} (ha : c.advance i input = some (p, q))
include ha

lemma getShard (hi : c.pc i = .getShard source) : Keeps c (c.move i (p, q)) := by
  simp only [PoolConfig.advance, hi] at ha
  split at ha
  · cases ha
    exact h.leave hi rfl
  split at ha <;> cases ha
  next hl => exact h.use hi hl rfl
  · exact h.stay hi trivial (fun hc => nomatch hc) rfl

lemma getClosedAgain (hi : c.pc i = .getClosedAgain source) : Keeps c (c.move i (p, q)) := by
  simp only [PoolConfig.advance, hi] at ha
  split at ha <;> cases ha
  · exact h.leave hi rfl
  next hclosed =>
    -- the pool can be finished only once it is closed
    have hopen : c.shared.closeFinished = false := Bool.eq_false_iff.2 fun hf => hclosed (h.pool.finished hf).1
    exact h.stay hi hopen (fun _ => .inl rfl) rfl

lemma getCapacity (hi : c.pc i = .getCapacity source) : Keeps c (c.move i (p, q)) := by
  have hplace := hi ▸ h.place i
  have hcount := h.count_eq (i := i) (by rw [hi]; rfl)
  rw [hi] at hcount
  change c.shared.count = c.shared.pooled + 0 at hcount
  simp only [PoolConfig.advance, hi] at ha
  split at ha <;> cases ha
  · exact h.stay hi hplace (fun _ => .inl rfl) rfl
  · exact h.stay hi ⟨hplace.1, hplace.2, by omega⟩ (fun _ => .inl rfl) rfl

lemma evictScan {selected : Option Selected}
    (hi : c.pc i = .evictScan source attempt shard selected) : Keeps c (c.move i (p, q)) := by
  have hplace := hi ▸ h.place i
  simp only [PoolConfig.advance, hi] at ha
  split at ha
  · obtain ⟨selected', -, ha⟩ := Option.map_eq_some_iff.1 ha
    cases ha
    exact h.stay hi hplace (fun _ => .inl rfl) rfl
  split at ha <;> cases ha
  · exact h.stay hi hplace (fun _ => .inl rfl) rfl
  · exact h.leave hi rfl

lemma evictTake (hi : c.pc i = .evictTake source attempt selected) :
    Keeps c (c.move i (p, q)) := by
  have hplace := hi ▸ h.place i
  simp only [PoolConfig.advance, hi] at ha
  split at ha <;> cases ha
  · rw [evictRetry]
    split
    · exact h.stay hi hplace (fun _ => .inl rfl) rfl
    · exact h.leave hi rfl
  next hsame =>
    simp only [Bool.or_eq_true, decide_eq_true_eq, not_or, not_not] at hsame
    exact h.evict hi hsame.1.1 hsame.1.2

lemma sweepShard {idleTimeout : Nat} (hi : c.pc i = .sweepShard now idleTimeout shard) :
    Keeps c (c.move i (p, q)) := by
  simp only [PoolConfig.advance, hi] at ha
  split at ha <;> cases ha
  · refine h.closeAll hi (fun _ => trivial) (.inr fun e he => ?_) (fun hc => nomatch hc) rfl (fun _ => rfl)
    simp only [expiredIn, idleIn, Bool.and_eq_true, beq_iff_eq] at he
    exact he.1.2
  · exact h.leave hi rfl

lemma closeShard {won : Bool} (hi : c.pc i = .closeShard won shard) : Keeps c (c.move i (p, q)) := by
  have hplace := hi ▸ h.place i
  simp only [PoolConfig.advance, hi] at ha
  split at ha
  · cases ha
    refine h.closeAll hi (fun _ => ⟨hplace.1, fun source id hl => ?_⟩) (.inl rfl) (fun _ => .inl rfl)
      rfl (fun _ => rfl)
    -- the sockets of this shard are gone, and those of the shards before it were
    obtain ⟨hl, hne⟩ := lookup_keep.1 hl
    have hle := hplace.2 source id hl
    simp only [Bool.not_eq_true', beq_eq_false_iff_ne] at hne
    omega
  next hall =>
    split at ha <;> cases ha
    next hwon => exact h.finish (hwon ▸ hi) (Nat.not_lt.1 hall)
    · exact h.leave hi rfl

/-- One step of a goroutine inside an operation. -/
lemma advance : Keeps c (c.move i (p, q)) := by
  have hplace := h.place i
  cases hi : c.pc i
  case getShard => exact h.getShard ha hi
  case getClosedAgain => exact h.getClosedAgain ha hi
  case getCapacity => exact h.getCapacity ha hi
  case evictScan => exact h.evictScan ha hi
  case evictTake => exact h.evictTake ha hi
  case sweepShard => exact h.sweepShard ha hi
  case closeShard => exact h.closeShard ha hi
  all_goals simp only [PoolConfig.advance, hi] at ha; rw [hi] at hplace
  case idle | holding => cases ha
  case getClosed | sweepClosed | resetClosed =>
    split at ha <;> cases ha
    · exact h.leave hi rfl
    · exact h.stay hi (by simp [UdpReplySocketPool.PlaceGood]) (fun hc => nomatch hc) rfl
  case getCreate | closeCreate =>
    split at ha <;> cases ha
    next hfree => exact h.stay hi (by simpa [UdpReplySocketPool.PlaceGood] using hplace) (fun _ => .inr hfree) rfl
  case getShardAgain =>
    split at ha <;> cases ha
    next hl => exact h.use hi hl rfl
    next hl => exact h.stay hi ⟨hplace, hl⟩ (fun _ => .inl rfl) rfl
  case evictCount =>
    cases ha
    refine h.like hi ⟨rfl, rfl, rfl, rfl, rfl, fun _ => rfl⟩ hplace (fun _ => .inl rfl) ?_ (fun _ => rfl)
    change c.shared.count - 1 + 1 = c.shared.count + 0
    omega
  case getSocket | getPublish =>
    split at ha <;> cases ha <;> first | exact h.leave hi rfl | exact h.stay hi hplace (fun _ => .inl rfl) rfl
  case getInsert => cases ha; exact h.add hi
  case getCount =>
    cases ha
    refine h.like hi ⟨rfl, rfl, rfl, rfl, rfl, fun _ => rfl⟩ { hplace.2 with } (fun hc => nomatch hc) ?_ (fun _ => rfl)
    change c.shared.count + 1 + -1 = c.shared.count + 0
    omega
  case closeSwap =>
    split at ha <;> cases ha
    · exact h.like hi ⟨rfl, rfl, rfl, rfl, rfl, fun _ => rfl⟩ trivial (fun hc => nomatch hc) rfl (fun _ => rfl)
    · exact h.close hi

end

lemma step {c' : PoolConfig n} {e : Fin n × PoolAction} (hs : step act c e = some c') : Keeps c c' := by
  obtain ⟨i, a⟩ := e
  obtain ⟨p, q, hact, rfl⟩ := step_cases hs
  cases a with
  | start op =>
    simp only [act] at hact
    split at hact <;> cases hact
    next hi => cases op <;> exact h.stay hi trivial (fun hc => nomatch hc) rfl
  | next input => exact h.advance hact
  | release =>
    simp only [act] at hact
    split at hact <;> cases hact
    next hi => exact h.release hi

end PoolConfig.Good

/-- In every interleaving of the steps of any number of goroutines the pool keeps to its capacity, a socket that a
caller of `get` has is closed by no eviction and no sweep, the count is the number of pooled sockets whenever no
operation is in progress, and from the return of the `close` that closed the pool on no socket is pooled. -/
theorem reply_pool_bounded (capacity : Nat) (es es' : List (Fin n × PoolAction)) (c c' : PoolConfig n)
    (hrun : run (step PoolConfig.act) (PoolConfig.init capacity) es = some c)
    (hrun' : run (step PoolConfig.act) c es' = some c') : c.shared.pooled ≤ c.shared.socketCapacity ∧
    (∀ i id, c.pc i = .holding id →
      (c.shared.entries id).closed ≠ some .eviction ∧ (c.shared.entries id).closed ≠ some .sweep) ∧
    (c.Quiet → c.shared.count = c.shared.pooled) ∧
    (c.shared.closeFinished = true → c'.shared.pooled = 0) := by
  have hg : PoolConfig.Good c := run_keeps (fun _ _ _ hg hs => (PoolConfig.Good.step hg hs).good) (good_init capacity) hrun
  have hg' : Keeps c c' := run_keeps (fun _ _ _ hk hs =>
    have hnext := PoolConfig.Good.step hk.good hs
    ⟨hnext.good, fun hf => hnext.finished (hk.finished hf)⟩) ⟨hg, id⟩ hrun'
  refine ⟨hg.pool.bounded, fun i id hi => ?_, fun hquiet => ?_, fun hf => ?_⟩
  · have hplace := hg.place i
    rw [hi] at hplace
    exact ⟨hplace.eviction, hplace.sweep⟩
  · rw [hg.count, Finset.sum_eq_zero, Int.add_zero]
    intro j _
    obtain hj | ⟨id, hj⟩ := hquiet j <;> rw [hj] <;> rfl
  exact (hg'.good.pool.finished (hg'.finished hf)).2

instance (c : PoolConfig n) : Decidable c.Quiet :=
  decidable_of_iff (∀ i, (c.pc i matches .idle | .holding _) = true) <| by
    refine forall_congr' fun i => ?_
    cases c.pc i <;> simp

/-- A socket is created and kept by its caller, a `close` comes by, and the caller releases it. -/
def getThenClose : List (Fin 2 × PoolAction) :=
  [(0, .start (.get ⟨.v4 0x01010101#32, 53⟩))] ++ List.replicate 10 (0, .next {}) ++
  [(1, .start .close)] ++ List.replicate 19 (1, .next {}) ++ [(0, .release)]

theorem reply_pool_bounded_closed : ∃ c : PoolConfig 2,
    run (step PoolConfig.act) (PoolConfig.init 1) getThenClose = some c ∧ c.Quiet ∧
    c.shared.closeFinished = true ∧ c.shared.pooled = 0 ∧ c.shared.count = 0 := by
  have hrun : run (step act) (init 1) getThenClose = some _ := rfl
  obtain ⟨-, -, hquiet, hfinished⟩ := reply_pool_bounded 1 getThenClose [] _ _ hrun rfl
  have hempty := hfinished rfl
  exact ⟨_, hrun, by decide +kernel, rfl, hempty, by rw [hquiet (by decide +kernel), hempty]; rfl⟩

/-- A second `close` finds the pool marked as closed and returns while the first one still waits to close the
sockets. -/
theorem reply_pool_not_empty : ∃ (es : List (Fin 3 × PoolAction)) (c : PoolConfig 3),
    run (step PoolConfig.act) (PoolConfig.init 1) es = some c ∧
    c.shared.closeReturned = true ∧ c.shared.pooled ≠ 0 := by
  refine ⟨[(0, .start (.get ⟨.v4 0x01010101#32, 53⟩))] ++ List.replicate 10 (0, .next {}) ++ [(0, .release)] ++
    [(1, .start .close), (1, .next {}), (2, .start .close), (2, .next {})], _, rfl, ?_, ?_⟩ <;> decide +kernel

end SingBox.Ebpf
