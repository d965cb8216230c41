import Mathlib.Algebra.Group.Prod
import Mathlib.Algebra.BigOperators.Group.List.Basic
import Mathlib.Data.BitVec
import SingBox.Lib.Machine
/-!
# The totals of the traffic manager

The bytes of a connection are counted by its tracker while it is open or in the
list of closed connections, and in a total once it has left the list. Each
operation moves a tracker from one of these places to another.
-/
namespace SingBox.TrafficControl
open List Machine

/-- The upload and the download counter, of type `int64`. -/
abbrev Counters := BitVec 64 × BitVec 64

/-- The manager with what the counters of all trackers hold. A closed connection has its tracker and `ClosedAt`.
`joined` is history. -/
structure Manager where
  connections : List Nat := []
  closedConnections : List (Nat × Int) := []
  -- `closedUploadTotal` and `closedDownloadTotal`
  closedTotal : Counters := 0
  closedConnectionsLimit : Nat := 1000
  closedConnectionsTTL : Int := 0
  counters : Nat → Counters := fun _ => 0
  joined : List Nat := []

namespace Manager
variable (m : Manager)

def count (closed : List (Nat × Int)) : Counters := (closed.map fun e => m.counters e.1).sum

/-- Some closed connections are removed, the rest stays. -/
def evict (gone rest : List (Nat × Int)) : Manager :=
  { m with closedConnections := rest, closedTotal := m.closedTotal + m.count gone }

def setClosedConnectionsLimit (limit : Int) : Manager :=
  let excess := m.closedConnections.length - limit.toNat
  { m.evict (m.closedConnections.take excess) (m.closedConnections.drop excess) with
    closedConnectionsLimit := limit.toNat }

def join (id : Nat) : Manager :=
  { m with connections := id :: m.connections, joined := id :: m.joined }

/-- Before a connection is added, the oldest one makes room. -/
def makeRoom : Manager :=
  if m.closedConnectionsLimit > 0 ∧ m.closedConnections.length ≥ m.closedConnectionsLimit then
    m.evict (m.closedConnections.take 1) (m.closedConnections.drop 1)
  else m

def leave (id : Nat) (closedAt : Int) : Manager :=
  if id ∉ m.connections then m
  else
    let m := { m.makeRoom with connections := m.connections.erase id }
    if m.closedConnectionsLimit > 0 then { m with closedConnections := m.closedConnections ++ [(id, closedAt)] }
    else { m with closedTotal := m.closedTotal + m.counters id }

def total : Counters :=
  m.closedTotal + m.count m.closedConnections + (m.connections.map m.counters).sum

def clear : Manager := m.evict m.closedConnections []

def cleanupClosedConnectionsAt (now : Int) : Manager :=
  let expired (e : Nat × Int) : Bool := m.closedConnectionsTTL ≤ 0 || e.2 < now - m.closedConnectionsTTL
  m.evict (m.closedConnections.filter expired) (m.closedConnections.filter (!expired ·))

end Manager

/-- An operation, or a change of the counters of a tracker. -/
inductive Op
  | join (id : Nat)
  | leave (id : Nat) (closedAt : Int)
  | setClosedConnectionsLimit (limit : Int)
  | setClosedConnectionsTTL (ttl : Int)
  | clear
  | cleanupClosedConnectionsAt (now : Int)
  | transfer (id : Nat) (value : Counters)

/-- A tracker joins once, and its counters do not change after it has left. -/
def step (m : Manager) : Op → Option Manager
  | .join id => if id ∈ m.joined then none else some (m.join id)
  | .leave id closedAt => some (m.leave id closedAt)
  | .setClosedConnectionsLimit limit => some (m.setClosedConnectionsLimit limit)
  | .setClosedConnectionsTTL ttl => some { m with closedConnectionsTTL := ttl }
  | .clear => some m.clear
  | .cleanupClosedConnectionsAt now => some (m.cleanupClosedConnectionsAt now)
  | .transfer id value =>
    if id ∈ m.joined ∧ id ∉ m.connections then none
    else some { m with counters := Function.update m.counters id value }

/-- The trackers that have left are counted once, in the list or in the total. -/
structure Books (m : Manager) (left : List Nat) : Prop where
  joined : m.joined ~ m.connections ++ left
  nodup : m.joined.Nodup
  closed : ∀ e ∈ m.closedConnections, e.1 ∈ left
  total : m.closedTotal + m.count m.closedConnections = (left.map m.counters).sum
  limit : m.closedConnections.length ≤ m.closedConnectionsLimit

section
variable {m m' : Manager} {left : List Nat}

lemma count_append (m : Manager) (l l' : List (Nat × Int)) : m.count (l ++ l') = m.count l + m.count l' := by
  rw [Manager.count, map_append]
  exact sum_append

section
variable (h : Books m left)
include h

lemma Books.evict {gone rest : List (Nat × Int)} (hperm : gone ++ rest ~ m.closedConnections) :
    Books (m.evict gone rest) left where
  __ := h
  closed e he := h.closed e (hperm.subset (mem_append_right gone he))
  total := by
    have hcount : m.count (gone ++ rest) = m.count m.closedConnections := (hperm.map _).sum_eq
    change m.closedTotal + m.count gone + m.count rest = (left.map m.counters).sum
    rw [← h.total, ← hcount, count_append, add_assoc]
  limit := by
    have hlength := hperm.length_eq
    rw [length_append] at hlength
    have hlimit := h.limit
    change rest.length ≤ m.closedConnectionsLimit
    omega

lemma Books.setLimit (limit : Int) : Books (m.setClosedConnectionsLimit limit) left := by
  have hevict := h.evict (Perm.of_eq (take_append_drop (m.closedConnections.length - limit.toNat) m.closedConnections))
  refine { hevict with limit := ?_ }
  change (m.closedConnections.drop _).length ≤ limit.toNat
  rw [length_drop]
  omega

lemma Books.makeRoom :
    Books m.makeRoom left ∧ m.makeRoom.connections = m.connections ∧ (m.makeRoom.closedConnectionsLimit > 0 →
      m.makeRoom.closedConnections.length < m.makeRoom.closedConnectionsLimit) := by
  unfold Manager.makeRoom
  split
  · refine ⟨h.evict (Perm.of_eq (take_append_drop 1 _)), rfl, fun _ => ?_⟩
    change (m.closedConnections.drop 1).length < m.closedConnectionsLimit
    have hlimit := h.limit
    rw [length_drop]
    omega
  · exact ⟨h, rfl, fun hpos => by omega⟩

lemma Books.leave (id : Nat) (closedAt : Int) : ∃ left, Books (m.leave id closedAt) left := by
  unfold Manager.leave
  split
  · exact ⟨left, h⟩
  next hid =>
    obtain ⟨hroom, hconns, hlength⟩ := h.makeRoom
    have hperm := perm_cons_erase (not_not.1 hid)
    have hjoined : m.makeRoom.joined ~ m.connections.erase id ++ id :: left := by
      rw [← hconns] at hperm
      exact hroom.joined.trans ((hperm.append_right left).trans (hconns ▸ perm_middle.symm))
    have hmem : ∀ e ∈ m.makeRoom.closedConnections, e.1 ∈ id :: left := fun e he =>
      mem_cons_of_mem id (hroom.closed e he)
    refine ⟨id :: left, ?_⟩
    dsimp only
    split
    next hpos =>
      refine ⟨hjoined, hroom.nodup, forall_mem_append.2 ⟨hmem, by simp⟩, ?_, ?_⟩
      · change m.makeRoom.closedTotal + m.makeRoom.count (m.makeRoom.closedConnections ++ [(id, closedAt)]) = _
        rw [count_append, ← add_assoc, hroom.total, add_comm, Manager.count, map_singleton, sum_singleton]
        rfl
      · rw [length_append]
        exact hlength hpos
    · refine ⟨hjoined, hroom.nodup, hmem, ?_, hroom.limit⟩
      change m.makeRoom.closedTotal + m.makeRoom.counters id + m.makeRoom.count m.makeRoom.closedConnections = _
      rw [add_right_comm, hroom.total, add_comm]
      rfl

lemma Books.transfer {id : Nat} (hid : id ∉ left) (value : Counters) :
    Books { m with counters := Function.update m.counters id value } left where
  __ := h
  total := by
    have hsame : ∀ id' ∈ left, Function.update m.counters id value id' = m.counters id' := fun id' hid' =>
      Function.update_of_ne (ne_of_mem_of_not_mem hid' hid) ..
    have hclosed : ∀ e ∈ m.closedConnections, Function.update m.counters id value e.1 = m.counters e.1 := fun e he =>
      hsame e.1 (h.closed e he)
    change m.closedTotal + (m.closedConnections.map _).sum = (left.map _).sum
    rw [map_congr_left hclosed, map_congr_left hsame]
    exact h.total

lemma Books.step {op : Op} (hs : TrafficControl.step m op = some m') : ∃ left, Books m' left := by
  cases op <;> simp only [TrafficControl.step] at hs
  case join id =>
    split at hs <;> cases hs
    next hnew =>
      exact ⟨left, h.joined.cons id, nodup_cons.2 ⟨hnew, h.nodup⟩, h.closed, h.total, h.limit⟩
  case leave id closedAt => cases hs; exact h.leave id closedAt
  case setClosedConnectionsLimit limit => cases hs; exact ⟨left, h.setLimit limit⟩
  case setClosedConnectionsTTL ttl => cases hs; exact ⟨left, h.joined, h.nodup, h.closed, h.total, h.limit⟩
  case clear => cases hs; exact ⟨left, h.evict (Perm.of_eq (append_nil _))⟩
  case cleanupClosedConnectionsAt now => cases hs; exact ⟨left, h.evict (filter_append_perm _ _)⟩
  case transfer id value =>
    split at hs <;> cases hs
    next hnot =>
      refine ⟨left, h.transfer (fun hid => hnot ⟨h.joined.mem_iff.2 (mem_append_right _ hid), fun hlive => ?_⟩) value⟩
      exact (nodup_append.1 (h.joined.nodup_iff.1 h.nodup)).2.2 id hlive id hid rfl

end

/-- After every sequence of operations the totals are the sums over all trackers that have joined, and the list of
closed connections keeps to the limit. -/
theorem traffic_conserved (ops : List Op) (h : run step {} ops = some m) :
    m.total = (m.joined.map m.counters).sum ∧ m.closedConnections.length ≤ m.closedConnectionsLimit := by
  have hinit : ∃ left, Books {} left := ⟨[], .nil, nodup_nil, by simp, rfl, Nat.zero_le _⟩
  obtain ⟨left, hbooks⟩ := run_keeps (I := fun m => ∃ left, Books m left) (fun _ _ _ ⟨_, hb⟩ hs => hb.step hs) hinit h
  have hsum := (hbooks.joined.map m.counters).sum_eq
  rw [map_append, sum_append] at hsum
  exact ⟨by rw [Manager.total, hbooks.total, hsum, add_comm], hbooks.limit⟩

end

/-- Two connections, of which the first has left the list. -/
def twoConnections : List Op :=
  [.join 1, .setClosedConnectionsLimit 1, .transfer 1 (5, 7), .leave 1 0, .join 2, .transfer 2 (1, 2), .leave 2 3,
    .leave 2 4]

theorem traffic_conserved_two : ∃ m, run step {} twoConnections = some m ∧ m.total = (6, 9) ∧
    m.closedConnections = [(2, 3)] ∧ m.closedConnections.length ≤ 1 := by
  have hrun : run step {} twoConnections = some _ := rfl
  exact ⟨_, hrun, (traffic_conserved twoConnections hrun).1.trans (by decide), rfl,
    (traffic_conserved twoConnections hrun).2⟩

end SingBox.TrafficControl
