import Mathlib.Algebra.BigOperators.Intervals
import SingBox.Ebpf.UdpNat
/-!
# Who has a packet

A packet buffer is in the queue of a session, with a goroutine, handed to a
reader or the handler, or released. Every step moves it from one of these to
another, so it is always in exactly one. A closed session has no packets: who closes it
holds its locks for writing and has emptied the queue, and who fills it holds
a lock for reading and has seen it open.
-/
namespace SingBox.Ebpf
open List Function Threads UdpNatService NatConfig Config
variable {keys : List UdpSessionKey} {next : List Instr} {b b' id : Nat} {conn : UdpNatConn}

/-- The packet buffers that a goroutine has with the instruction. -/
@[simp] def Instr.carries : Instr → List Nat
  | .connClosed _ packet | .connGet _ packet | .connCheck _ packet _ _ | .connRegister packet _
  | .connIsClosed packet _ | .connRemove _ packet _ | .connFail packet | .newPacket packet _ => packet.toList
  | .handle _ b | .enqueueCheck _ b | .enqueue _ b => [b]
  | .drainToHandler _ queued => queued
  | _ => []

@[simp] def flight (l : List Instr) (b : Nat) : Nat := (l.map fun a => a.carries.count b).sum

namespace UdpNatService

/-- How often the buffer is in the queue of a session, handed to a consumer or released. -/
def accounted (s : UdpNatService) (b : Nat) : Nat :=
  ∑ id ∈ Finset.range s.next, (s.conns id).packetChan.count b + (s.handed.count b + s.released.count b)

def given (s : UdpNatService) (b : Nat) : Nat := if b < s.nextBuffer then 1 else 0

end UdpNatService

variable {n : Nat} {locked : Bool} {c : NatConfig n} {i : Fin n} {a : Instr} {rest pushed l : List Instr} {x : NatInput}
  {s s' : UdpNatService}

/-! ## The ledger -/

namespace UdpNatService

lemma accounted_congr (hnext : s'.next = s.next)
    (hchan : ∀ id < s.next, (s'.conns id).packetChan = (s.conns id).packetChan)
    (hhanded : s'.handed = s.handed) (hreleased : s'.released = s.released) (b : Nat) :
    s'.accounted b = s.accounted b := by
  rw [accounted, accounted, hnext, hhanded, hreleased, Finset.sum_congr rfl fun id hid => by
    rw [hchan id (Finset.mem_range.1 hid)]]

lemma accounted_create (s : UdpNatService) (key : UdpSessionKey) (hasOnClose : Bool) (b : Nat) :
    (s.create key hasOnClose).accounted b = s.accounted b := by
  have hold : ∀ id ∈ Finset.range s.next, (update s.conns s.next { key, hasOnClose } id).packetChan.count b =
      (s.conns id).packetChan.count b := fun id hid => by
    rw [update_of_ne (Nat.ne_of_lt (Finset.mem_range.1 hid))]
  simp only [accounted, create, Finset.sum_range_succ, update_self, count_nil, Nat.add_zero]
  rw [Finset.sum_congr rfl hold]

lemma accounted_setConn (hid : id < s.next) (conn : UdpNatConn) (b : Nat) :
    (s.setConn id conn).accounted b + (s.conns id).packetChan.count b = s.accounted b + conn.packetChan.count b := by
  have hmem := Finset.mem_range.2 hid
  have hnew := Finset.add_sum_erase _ (fun id' => (update s.conns id conn id').packetChan.count b) hmem
  have hold := Finset.add_sum_erase _ (fun id' => (s.conns id').packetChan.count b) hmem
  have hrest : ∑ id' ∈ (Finset.range s.next).erase id, (update s.conns id conn id').packetChan.count b =
      ∑ id' ∈ (Finset.range s.next).erase id, (s.conns id').packetChan.count b :=
    Finset.sum_congr rfl fun id' hid' => by rw [update_of_ne (Finset.ne_of_mem_erase hid')]
  simp only [update_self] at hnew
  simp only [accounted, setConn]
  omega

lemma accounted_pop (hid : id < s.next) (h : s.pop id = some (b', s')) (b : Nat) :
    s'.accounted b + [b'].count b = s.accounted b := by
  obtain ⟨rest, hchan, rfl⟩ := pop_eq h
  have hset := accounted_setConn hid { s.conns id with packetChan := rest } b
  rw [hchan] at hset
  simp only [count_cons, count_nil] at hset ⊢
  omega

section
variable (s : UdpNatService)

@[simp] lemma accounted_hand (b' b : Nat) : (s.hand b').accounted b = s.accounted b + [b'].count b := by
  simp only [accounted, hand, count_cons, count_nil]
  omega

@[simp] lemma accounted_release (b' b : Nat) : (s.release b').accounted b = s.accounted b + [b'].count b := by
  simp only [accounted, release, count_cons, count_nil]
  omega

@[simp] lemma given_hand (b' b : Nat) : (s.hand b').given b = s.given b := rfl
@[simp] lemma given_release (b' b : Nat) : (s.release b').given b = s.given b := rfl

@[simp] lemma given_setConn (id : Nat) (conn : UdpNatConn) (b : Nat) :
    (s.setConn id conn).given b = s.given b := rfl

lemma given_succ (b : Nat) : [s.nextBuffer].count b + s.given b = if b < s.nextBuffer + 1 then 1 else 0 := by
  simp only [given, count_cons, count_nil, beq_iff_eq]
  split <;> split <;> split <;> omega

end

lemma given_pop (h : s.pop id = some (b', s')) (b : Nat) : s'.given b = s.given b := by
  obtain ⟨rest, -, rfl⟩ := pop_eq h
  rfl

end UdpNatService

def Balanced (c : NatConfig n) (a : Instr) (s : UdpNatService) (pushed : List Instr) : Prop :=
  ∀ b, s.accounted b + flight pushed b + c.shared.given b = c.shared.accounted b + a.carries.count b + s.given b

lemma flight_evict (b : Nat) :
    flight (s.evict keys next).2 b = flight next b := by
  have hzero : ((evictFrom keys s.cache).2.map Instr.evicted |>.map fun a => a.carries.count b).sum = 0 := by
    refine sum_eq_zero fun m hm => ?_
    simp only [map_map, mem_map, comp_apply, Instr.carries, count_nil] at hm
    obtain ⟨_, -, rfl⟩ := hm
    rfl
  simp only [flight, evict, map_append, sum_append, hzero, map_cons, sum_cons]
  simp

lemma flight_handle (id : Nat) (queued : List Nat) (b : Nat) :
    flight (queued.map (.handle id)) b = queued.count b := by
  induction queued with
  | nil => rfl
  | cons b' queued ih =>
    simp only [flight, map_cons, sum_cons, Instr.carries, count_cons, count_nil] at ih ⊢
    omega

def UdpNatService.books (s : UdpNatService) : Nat × List Nat × List Nat × Nat :=
  (s.next, s.handed, s.released, s.nextBuffer)

section
variable (hflight : ∀ b, flight pushed b = a.carries.count b)
include hflight

lemma Balanced.of_chan (hchan : ∀ id < c.shared.next, (s.conns id).packetChan = (c.shared.conns id).packetChan)
    (hsame : s.books = c.shared.books) : Balanced c a s pushed := by
  simp only [books, Prod.mk.injEq] at hsame
  obtain ⟨hnext, hhanded, hreleased, hbuffer⟩ := hsame
  intro b
  rw [accounted_congr hnext hchan hhanded hreleased, hflight, given, given, hbuffer]

lemma Balanced.same (hconns : s.conns = c.shared.conns) (hsame : s.books = c.shared.books) : Balanced c a s pushed :=
  .of_chan hflight (fun _ _ => by rw [hconns]) hsame

end

section
variable {id : Nat}

lemma Balanced.setConn (h : conn.packetChan = (c.shared.conns id).packetChan)
    (hflight : ∀ b, flight pushed b = a.carries.count b) : Balanced c a (c.shared.setConn id conn) pushed := by
  refine .of_chan hflight (fun id' _ => ?_) rfl
  by_cases heq : id' = id
  · subst heq
    simpa [setConn] using h
  · simp [UdpNatService.setConn, update_of_ne heq]

lemma balanced_read {id : Nat} (hid : id < c.shared.next) (hpop : c.shared.pop id = some (b', s'))
    (ha : a.carries = []) (hpushed : ∀ b, flight pushed b = 0) : Balanced c a (s'.hand b') pushed := by
  intro b
  have hbalance := accounted_pop hid hpop b
  simp only [accounted_hand, given_hand, given_pop hpop, ha, hpushed, count_nil]
  omega

/-! ## Locks and closed sessions -/

def NatConfig.writers (c : NatConfig n) (id : Nat) : Nat := c.count (·.writes == some id)
def NatConfig.readers (c : NatConfig n) (id : Nat) : Nat := c.count (·.reads == some id)

/-- A closed session has no packets, and a finished `close` has closed it. -/
structure UdpNatConn.Good (conn : UdpNatConn) : Prop where
  empty : conn.done = true → conn.packetChan = []
  finished : conn.closeOnce = .finished → conn.done = true

def UdpNatService.Seen (s : UdpNatService) : Instr → Prop
  | .enqueue id _ => (s.conns id).done = false
  | .closeReturn id => (s.conns id).done = true
  | _ => True

structure NatConfig.Packets (c : NatConfig n) : Prop where
  valid : c.Valid
  ledger : ∀ b, c.shared.accounted b + c.total (fun a => a.carries.count b) = c.shared.given b
  locks : ∀ id, c.writers id ≤ 1 ∧ (c.writers id = 0 ∨ c.readers id = 0)
  conns : ∀ id < c.shared.next, (c.shared.conns id).Good
  seen : c.All c.shared.Seen

lemma NatConfig.noneIn_iff {Q : Instr → Bool} : c.noneIn Q = true ↔ c.count Q = 0 := by
  rw [Config.count_eq_zero, noneIn, decide_eq_true_eq]
  simp [Config.All]

lemma NatConfig.writers_of_readable (h : c.readable id = true) : c.writers id = 0 := noneIn_iff.1 h

lemma NatConfig.free_of_writable (h : c.writable id = true) : c.writers id = 0 ∧ c.readers id = 0 := by
  have hall := Config.count_eq_zero.1 (noneIn_iff.1 h)
  refine ⟨Config.count_eq_zero.2 fun j a ha => ?_, Config.count_eq_zero.2 fun j a ha => ?_⟩
  · exact (Bool.or_eq_false_iff.1 (hall j a ha)).1
  · exact (Bool.or_eq_false_iff.1 (hall j a ha)).2

/-- The instruction keeps its locks, gives them back, or takes them when they are free. -/
def LockStep (c : NatConfig n) (a : Instr) (pushed : List Instr) : Prop :=
  ∀ id, (pushed.countP (·.writes == some id) ≤ (a.writes == some id).toNat ∧
      pushed.countP (·.reads == some id) ≤ (a.reads == some id).toNat) ∨
    (c.writers id = 0 ∧ c.readers id = 0 ∧ pushed.countP (·.writes == some id) ≤ 1 ∧
      pushed.countP (·.reads == some id) = 0) ∨
    (c.writers id = 0 ∧ pushed.countP (·.writes == some id) = 0)

lemma LockStep.free (h : ∀ b ∈ pushed, b.writes = none ∧ b.reads = none := by simp [Instr.writes, Instr.reads]) :
    LockStep c a pushed := by
  intro id
  have hw : pushed.countP (·.writes == some id) = 0 := countP_eq_zero.2 fun b hb => by rw [(h b hb).1]; simp
  have hr : pushed.countP (·.reads == some id) = 0 := countP_eq_zero.2 fun b hb => by rw [(h b hb).2]; simp
  exact .inl ⟨by omega, by omega⟩

lemma LockStep.keep {b : Instr} (hw : b.writes = a.writes) (hr : b.reads = a.reads) : LockStep c a [b] := by
  intro id
  left
  simp only [countP_cons, countP_nil, hw, hr]
  cases a.writes == some id <;> cases a.reads == some id <;> simp

lemma LockStep.write {b : Instr} (h : c.writable id = true) (hw : b.writes = some id)
    (hr : b.reads = none) : LockStep c a [b] := by
  intro id'
  by_cases heq : id = id'
  · subst heq
    obtain ⟨hwriters, hreaders⟩ := free_of_writable h
    exact .inr (.inl ⟨hwriters, hreaders, by simp [hw], by simp [hr]⟩)
  · exact .inl ⟨by simp [hw, heq], by simp [hr]⟩

lemma LockStep.read {b : Instr} (h : c.readable id = true) (hw : b.writes = none)
    (hr : b.reads = some id) : LockStep c a [b] := by
  intro id'
  by_cases heq : id = id'
  · subst heq
    exact .inr (.inr ⟨writers_of_readable h, by simp [hw]⟩)
  · exact .inl ⟨by simp [hw], by simp [hr, heq]⟩

lemma LockStep.locks (h : LockStep c a pushed) (hi : c.pc i = a :: rest)
    (hlocks : ∀ id, c.writers id ≤ 1 ∧ (c.writers id = 0 ∨ c.readers id = 0)) (id : Nat) :
    writers (c.move i (s, pushed ++ rest)) id ≤ 1 ∧ (writers (c.move i (s, pushed ++ rest)) id = 0 ∨
      readers (c.move i (s, pushed ++ rest)) id = 0) := by
  have hw := count_move (·.writes == some id) s pushed hi
  have hr := count_move (·.reads == some id) s pushed hi
  have hold := hlocks id
  have hstep := h id
  simp only [writers, readers] at hold hstep ⊢
  omega

/-- What one instruction does to locks and sessions. -/
structure ConnStep (c : NatConfig n) (a : Instr) (s : UdpNatService) (pushed : List Instr) : Prop where
  lock : LockStep c a pushed
  conns : ∀ id < s.next, (s.conns id).Good
  pushed : ∀ b ∈ pushed, s.Seen b
  done : ∀ id < c.shared.next, (s.conns id).done = (c.shared.conns id).done ∨ a.writes = some id

@[simp] def Instr.blind : Instr → Bool
  | .enqueueCheck _ _ | .enqueue _ _ | .drainToHandler _ _ | .closeDrain _ _ | .closeReturn _ => false
  | _ => true

lemma Instr.unlocked_of_blind (h : a.blind = true) : a.writes = none ∧ a.reads = none := by
  cases a <;> first | exact ⟨rfl, rfl⟩ | cases h

lemma UdpNatService.seen_of_blind (h : a.blind = true) : s.Seen a := by
  cases a <;> trivial

lemma ConnStep.same (h : c.Packets) (hpushed : ∀ b ∈ pushed, b.blind = true)
    (hconns : ∀ id < s.next, id < c.shared.next ∧ s.conns id = c.shared.conns id ∨ (s.conns id).Good)
    (hold : ∀ id < c.shared.next, s.conns id = c.shared.conns id) : ConnStep c a s pushed where
  lock := .free fun b hb => Instr.unlocked_of_blind (hpushed b hb)
  conns id hid := by
    obtain ⟨hlt, heq⟩ | hgood := hconns id hid
    · exact heq ▸ h.conns id hlt
    · exact hgood
  pushed b hb := seen_of_blind (hpushed b hb)
  done id hid := .inl (by rw [hold id hid])

lemma ConnStep.still (h : c.Packets) (hpushed : ∀ b ∈ pushed, b.blind = true := by simp)
    (hsame : (s.next, s.conns) = (c.shared.next, c.shared.conns) := by rfl) : ConnStep c a s pushed := by
  obtain ⟨hnext, hconns⟩ := Prod.mk.inj hsame
  exact .same h hpushed (fun id hid => .inl ⟨hnext ▸ hid, by rw [hconns]⟩) fun id _ => by rw [hconns]

lemma UdpNatService.evict_blind (h : ∀ b ∈ next, b.blind = true) : ∀ b ∈ (s.evict keys next).2, b.blind = true :=
  forall_evict (fun _ _ _ => rfl) rfl h

/-- One instruction keeps the ledger, the locks and the sessions. -/
def PacketStep (c : NatConfig n) (a : Instr) (s : UdpNatService) (pushed : List Instr) : Prop :=
  Balanced c a s pushed ∧ ConnStep c a s pushed

section
variable (hp : c.Packets)
include hp

lemma PacketStep.still (hflight : ∀ b, flight pushed b = a.carries.count b := by simp)
    (hpushed : ∀ b ∈ pushed, b.blind = true := by simp) (hconns : s.conns = c.shared.conns := by rfl)
    (hbooks : s.books = c.shared.books := by rfl) : PacketStep c a s pushed :=
  ⟨.same hflight hconns hbooks, .still hp hpushed (Prod.ext (Prod.mk.inj hbooks).1 hconns)⟩

lemma PacketStep.evict
    (hflight : ∀ b, flight next b = a.carries.count b := by simp) (hnext : ∀ b ∈ next, b.blind = true := by simp)
    (hconns : s'.conns = c.shared.conns := by rfl) (hbooks : s'.books = c.shared.books := by rfl) :
    PacketStep c a s' (s.evict keys next).2 :=
  .still hp (fun b => (flight_evict b).trans (hflight b)) (evict_blind hnext) hconns hbooks

lemma execConnection_packetStep (h : execConnection locked c a x = some (s, pushed)) : PacketStep c a s pushed := by
  cases a <;> simp only [execConnection, reduceCtorEq] at h
  case connGet key packet =>
    split at h
    · simp only [Option.some.injEq, getOrAdd] at h
      split at h
      · cases h
        exact .evict hp
      split at h <;> cases h
      · refine ⟨fun b => ?_, .same hp (evict_blind (by simp)) (fun id hid => ?_) fun id hid => ?_⟩
        · rw [accounted_create, flight_evict]
          rfl
        · by_cases hnew : id = c.shared.next
          · right
            subst hnew
            constructor <;> simp [create, UdpNatService.evict]
          · left
            exact ⟨Nat.lt_of_le_of_ne (Nat.le_of_lt_succ hid) hnew, update_of_ne hnew ..⟩
        · exact update_of_ne (Nat.ne_of_lt hid) ..
      · exact .evict hp
    · cases h
  case connRegister packet id =>
    rw [registerReleaseConnection] at h
    dsimp only at h
    repeat' split at h
    all_goals cases h
    all_goals exact .still hp
  case connRemove key packet created =>
    split at h <;> cases h
    refine .evict hp ?_ ?_ <;> cases created <;> simp
  case connFail packet =>
    split at h <;> cases h
    · exact ⟨fun b => by simp, .still hp⟩
    · exact .still hp
  all_goals
    repeat' split at h
    all_goals cases h
    all_goals exact .still hp

lemma execService_packetStep (h : execService locked c a x = some (s, pushed)) : PacketStep c a s pushed := by
  cases a <;> simp only [execService, reduceCtorEq] at h
  case releaseTake cookie before =>
    split at h <;> cases h
    · exact .still hp
    obtain ⟨pending, heq⟩ := addPending_eq c.shared cookie x.now
    rw [heq]
    exact .still hp
  case cleanupRemove | evict | purge | servicePurge =>
    split at h <;> cases h
    exact .evict hp
  all_goals
    repeat' split at h
    all_goals cases h
    all_goals exact .still hp

end

lemma ConnStep.setConn (hp : c.Packets) (hlock : LockStep c a pushed)
    (hgood : (c.shared.conns id).Good → conn.Good) (hid : id < c.shared.next)
    (hpushed : ∀ b ∈ pushed, (c.shared.setConn id conn).Seen b)
    (hdone : conn.done = (c.shared.conns id).done ∨ a.writes = some id) :
    ConnStep c a (c.shared.setConn id conn) pushed where
  lock := hlock
  conns id' hid' := by
    by_cases heq : id' = id
    · subst heq
      simpa [setConn] using hgood (hp.conns id' hid)
    · simpa [UdpNatService.setConn, update_of_ne heq] using hp.conns id' hid'
  pushed := hpushed
  done id' _ := by
    by_cases heq : id' = id
    · subst heq
      simpa [setConn] using hdone
    · exact .inl (by simp [UdpNatService.setConn, update_of_ne heq])

end

lemma ConnStep.hand (h : ConnStep c a s pushed) (b : Nat) : ConnStep c a (s.hand b) pushed := { h with }
lemma ConnStep.release (h : ConnStep c a s pushed) (b : Nat) : ConnStep c a (s.release b) pushed := { h with }

lemma ConnStep.pop (hp : c.Packets) (hid : id < c.shared.next) (hpop : c.shared.pop id = some (b, s))
    (hlock : LockStep c a pushed) (hpushed : ∀ b ∈ pushed, ∀ s : UdpNatService, s.Seen b) :
    ConnStep c a s pushed := by
  obtain ⟨rest, hchan, rfl⟩ := pop_eq hpop
  refine .setConn hp hlock (fun hgood => ⟨fun hd => ?_, hgood.finished⟩) hid (fun b hb => hpushed b hb _) (.inl rfl)
  rw [hgood.empty hd] at hchan
  cases hchan

section
variable (hp : c.Packets) {id : Nat}
include hp

lemma PacketStep.setConn (hid : id < c.shared.next) (hlock : LockStep c a pushed)
    (hgood : (c.shared.conns id).Good → conn.Good := by exact fun h => ⟨h.empty, h.finished⟩)
    (hpushed : ∀ b ∈ pushed, (c.shared.setConn id conn).Seen b := by simp [Seen])
    (hdone : conn.done = (c.shared.conns id).done ∨ a.writes = some id := by exact .inl rfl)
    (hchan : conn.packetChan = (c.shared.conns id).packetChan := by rfl)
    (hflight : ∀ b, flight pushed b = a.carries.count b := by simp) :
    PacketStep c a (c.shared.setConn id conn) pushed :=
  ⟨.setConn hchan hflight, .setConn hp hlock hgood hid hpushed hdone⟩

lemma PacketStep.read (hid : id < c.shared.next) (hpop : c.shared.pop id = some (b, s))
    (ha : a.carries = []) (hflight : ∀ b, flight pushed b = 0) (hlock : LockStep c a pushed)
    (hpushed : ∀ b ∈ pushed, ∀ s : UdpNatService, s.Seen b) : PacketStep c a (s.hand b) pushed :=
  ⟨balanced_read hid hpop ha hflight, (ConnStep.pop hp hid hpop hlock hpushed).hand b⟩

lemma execPacket_packetStep (hi : c.pc i = a :: rest) (h : execPacket c a x = some (s, pushed)) :
    PacketStep c a s pushed := by
  have hids := hp.valid.instrs.head hi
  have hseen := hp.seen.head hi
  cases a <;> simp only [execPacket, reduceCtorEq] at h
  case newPacket packet id =>
    have hnew : ∀ b, c.shared.accounted b + [c.shared.nextBuffer].count b + c.shared.given b =
        c.shared.accounted b + (if b < c.shared.nextBuffer + 1 then 1 else 0) := fun b => by
      rw [← given_succ, Nat.add_assoc]
    split at h
    next hreadable =>
      split at h <;> cases h
      · cases packet with
        | none => exact ⟨hnew, .still hp⟩
        | some b => exact .still hp
      have hstill : ConnStep c (.newPacket packet id) c.shared [] := .still hp
      refine ⟨?_, .read hreadable rfl rfl, ?_, by simp [Seen], ?_⟩
      · cases packet with
        | none => exact hnew
        | some b => exact .same (by simp) rfl rfl
      · cases packet <;> exact hstill.conns
      · cases packet <;> exact hstill.done
    · cases h
  case handle id b =>
    split at h <;> cases h <;> exact ⟨fun b => by simp, .still hp⟩
  case enqueueCheck id b =>
    split at h <;> cases h
    · exact ⟨fun b => by simp, .still hp⟩
    next hopen =>
      have hstill : ConnStep c (.enqueueCheck id b) c.shared [] := .still hp
      refine ⟨.same (by simp) rfl rfl, { hstill with lock := .keep rfl rfl, pushed := ?_ }⟩
      simpa [Seen] using hopen
  case enqueue id b =>
    have hid := hids id (by simp)
    split at h <;> cases h
    · refine ⟨fun b' => ?_, .setConn hp .free (fun hgood => ⟨fun hd => ?_, hgood.finished⟩) hid (by simp)
        (.inl rfl)⟩
      · have hset := accounted_setConn hid
          { c.shared.conns id with packetChan := (c.shared.conns id).packetChan ++ [b] } b'
        simp only [count_append] at hset
        simp only [flight, Instr.carries, map_nil, sum_nil, given_setConn]
        omega
      · rw [show (c.shared.conns id).done = false from hseen] at hd
        cases hd
    · exact ⟨fun b => by simp, .still hp⟩
  case setHandler id =>
    split at h
    next hwritable =>
      split at h <;> cases h
      · exact .still hp
      exact .setConn hp (hids id (by simp)) (.write hwritable rfl rfl)
    · cases h
  case drainToHandler id queued =>
    split at h <;> cases h
    next b s' hpop =>
      have hid := hids id (by simp)
      refine ⟨fun b' => ?_, .pop hp hid hpop (.keep rfl rfl) (by simp [Seen])⟩
      have hbalance := accounted_pop hid hpop b'
      simp only [flight, Instr.carries, map_cons, map_nil, sum_cons, sum_nil, count_append, given_pop hpop]
      omega
    · exact .still hp (flight_handle id queued)
  case readPacket id | waitReadPackets id batchSize =>
    split at h
    · obtain ⟨⟨b, s'⟩, hpop, heq⟩ := Option.map_eq_some_iff.1 h
      cases heq
      exact .read hp (hids id (by simp)) hpop rfl (fun _ => rfl) .free
        (by simp [Seen])
    · split at h <;> cases h
      exact .still hp
    · cases h
      exact .still hp
  case readMore id left =>
    split at h
    · cases h
      exact .still hp
    split at h <;> cases h
    next hpop =>
      exact .read hp (hids id (by simp)) hpop rfl (fun _ => rfl) .free
        (by simp [Seen])
    · exact .still hp

lemma execClose_packetStep (hi : c.pc i = a :: rest) (h : execClose c a = some (s, pushed)) :
    PacketStep c a s pushed := by
  have hids := hp.valid.instrs.head hi
  have hseen := hp.seen.head hi
  cases a <;> simp only [execClose, reduceCtorEq] at h
  case evicted id =>
    cases h
    exact .still hp
  case close id cookie =>
    split at h
    · cases h
      exact .setConn hp (hids id (by simp)) .free fun hgood => ⟨hgood.empty, fun hf => by cases hf⟩
    · cases h
    · cases h
      exact .still hp
  case closeUnregister id cookie =>
    cases h
    obtain heq | ⟨-, heq⟩ := unregister_cases c.shared id <;> rw [heq] <;>
      exact .still hp
  case closeLock id cookie =>
    split at h <;> cases h
    next hwritable =>
    have hstill : ConnStep c (.closeLock id cookie) c.shared [] := .still hp
    exact ⟨.same (by simp) rfl rfl,
      { hstill with lock := .write hwritable rfl rfl, pushed := by simp [Seen] }⟩
  case closeDrain id cookie =>
    have hid := hids id (by simp)
    split at h
    next b s' hpop =>
      cases h
      refine ⟨fun b' => ?_, (ConnStep.pop hp hid hpop (.keep rfl rfl) (by simp [Seen])).release b⟩
      have hbalance := accounted_pop hid hpop b'
      simp only [flight, Instr.carries, map_cons, map_nil, sum_cons, sum_nil, count_nil,
        accounted_release, given_release, given_pop hpop]
      omega
    next hpop =>
      cases h
      have hempty : (c.shared.conns id).packetChan = [] := by
        rw [pop] at hpop
        split at hpop
        · assumption
        · cases hpop
      exact .setConn hp hid .free (fun _ => ⟨fun _ => hempty, fun _ => rfl⟩) (by simp [Seen, UdpNatService.setConn])
        (.inr rfl)
  case closeReturn id =>
    cases h
    exact .setConn hp (hids id (by simp)) .free fun hgood => ⟨hgood.empty, fun _ => hseen⟩
  case handleClose id fromCache =>
    split at h
    · cases h
      exact .setConn hp (hids id (by simp)) .free
    · cases h
    · cases h
      exact .still hp
  case onClose id fromCache =>
    cases h
    exact .setConn hp (hids id (by simp)) .free

end

/-! ## Runs -/

namespace NatConfig

lemma packets_init : (init : NatConfig n).Packets where
  valid := valid_init
  ledger b := by simp [init, accounted, given, total]
  locks id := by simp [writers, init, Config.count, total]
  conns id hid := nomatch hid
  seen _ _ h := nomatch h

lemma Packets.move (h : c.Packets) (hi : c.pc i = a :: rest) (hl : Later c.shared s)
    (hv : NatConfig.Valid (c.move i (s, pushed ++ rest))) (hs : PacketStep c a s pushed) :
    NatConfig.Packets (c.move i (s, pushed ++ rest)) where
  valid := hv
  ledger b := by
    have htotal := total_move (fun a => a.carries.count b) s pushed hi
    have hbalance := hs.1 b
    have hold := h.ledger b
    simp only [flight] at hbalance
    dsimp only [move_shared]
    omega
  locks := hs.2.lock.locks hi h.locks
  conns := hs.2.conns
  seen := by
    have hall : c.All fun b => c.shared.Seen b ∧ (∀ id ∈ b.ids, id < c.shared.next) ∧
        ∀ id, b.reads = some id → a.writes ≠ some id := by
      intro j b hb
      refine ⟨h.seen j b hb, h.valid.instrs j b hb, fun id hr hw => ?_⟩
      have hwriters : 0 < c.writers id := count_head hi (by simp [hw])
      have hreaders := Config.count_eq_zero.1 ((h.locks id).2.resolve_left (by omega)) j b hb
      simp [hr] at hreaders
    refine hall.move hi (fun b hb => ?_) hs.2.pushed
    obtain ⟨hseen, hids, hlocks⟩ := hb
    cases b with
    | enqueue id b' =>
      have hdone := (hs.2.done id (hids id (by simp))).resolve_right (hlocks id rfl)
      exact hdone.trans hseen
    | closeReturn id => exact hl.done id (hids id (by simp)) hseen
    | _ => trivial

lemma Packets.start (h : c.Packets) {op : NatOp} (hi : c.pc i = [])
    (hv : NatConfig.Valid (c.move i (s, l))) (hstart : op.start c.shared = some (s, l)) :
    NatConfig.Packets (c.move i (s, l)) := by
  have hblind : ∀ b ∈ l, b.blind = true := by
    cases op <;> simp only [NatOp.start, onConn] at hstart
    all_goals
      repeat' split at hstart
      all_goals cases hstart
      all_goals simp
  have hsame : s.conns = c.shared.conns ∧ s.next = c.shared.next ∧
      ∀ b, s.accounted b + flight l b + c.shared.given b = c.shared.accounted b + s.given b := by
    cases op <;> simp only [NatOp.start, onConn] at hstart
    case newPacketBuffer key =>
      cases hstart
      refine ⟨rfl, rfl, fun b => ?_⟩
      change c.shared.accounted b + [c.shared.nextBuffer].count b + c.shared.given b =
        c.shared.accounted b + (if b < c.shared.nextBuffer + 1 then 1 else 0)
      rw [← given_succ, Nat.add_assoc]
    all_goals
      repeat' split at hstart
      all_goals cases hstart
      all_goals exact ⟨rfl, rfl, fun b => by simp⟩
  obtain ⟨hconns, hnext, hledger⟩ := hsame
  refine ⟨hv, fun b => ?_, fun id => ?_, fun id hid => ?_, ?_⟩
  · have htotal := total_start (fun a => a.carries.count b) s l hi
    have hbalance := hledger b
    have hold := h.ledger b
    simp only [flight] at hbalance
    dsimp only [move_shared]
    omega
  · have hw := count_start (·.writes == some id) s l hi
    have hr := count_start (·.reads == some id) s l hi
    rw [countP_eq_zero.2 fun b hb => by rw [(Instr.unlocked_of_blind (hblind b hb)).1]; simp] at hw
    rw [countP_eq_zero.2 fun b hb => by rw [(Instr.unlocked_of_blind (hblind b hb)).2]; simp] at hr
    rw [writers, readers, hw, hr]
    exact h.locks id
  · dsimp only [move_shared] at hid ⊢
    rw [hconns]
    exact h.conns id (hnext ▸ hid)
  · refine h.seen.start (fun b hb => ?_) fun b hb => seen_of_blind (hblind b hb)
    cases b <;> first | trivial | (simp only [Seen, move_shared, hconns] at hb ⊢; exact hb)

lemma Packets.step {c' : NatConfig n} {e : Fin n × NatAction} (h : c.Packets)
    (hs : natStep locked c e = some c') : NatConfig.Packets c' := by
  obtain ⟨i, act⟩ := e
  obtain ⟨s, l, hstepped, rfl⟩ := natStep_cases hs
  obtain ⟨hl, hv⟩ := hstepped.later_valid h.valid
  cases hstepped with
  | start hi hstart => exact h.start hi hv hstart
  | connection hi hexec => exact h.move hi hl hv (execConnection_packetStep h hexec)
  | packet hi hexec => exact h.move hi hl hv (execPacket_packetStep h hi hexec)
  | close hi hexec => exact h.move hi hl hv (execClose_packetStep h hi hexec)
  | service hi hexec => exact h.move hi hl hv (execService_packetStep h hexec)

def Holds (c : NatConfig n) (b : Nat) : Prop :=
  (∃ id < c.shared.next, b ∈ (c.shared.conns id).packetChan) ∨ c.Any fun a => b ∈ a.carries

/-- A buffer that nobody holds any more has been handed to one consumer or released, once; one that somebody holds
has not. -/
lemma Packets.disposed (h : c.Packets) (hb : b < c.shared.nextBuffer) :
    (c.Holds b → c.shared.handed.count b + c.shared.released.count b = 0) ∧
    (¬ c.Holds b → c.shared.handed.count b + c.shared.released.count b = 1) := by
  have hledger := h.ledger b
  rw [given, if_pos hb, accounted] at hledger
  constructor
  · rintro (⟨id, hid, hmem⟩ | ⟨j, a, ha, hmem⟩)
    · have hle := Finset.single_le_sum (f := fun id => (c.shared.conns id).packetChan.count b)
        (fun _ _ => Nat.zero_le _) (Finset.mem_range.2 hid)
      have hpos := count_pos_iff.2 hmem
      omega
    · have hle := Config.le_total (fun a => a.carries.count b) j ha
      have hpos := count_pos_iff.2 hmem
      omega
  · intro hnone
    have hqueues : ∑ id ∈ Finset.range c.shared.next, (c.shared.conns id).packetChan.count b = 0 :=
      Finset.sum_eq_zero fun id hid => count_eq_zero.2 fun hmem =>
        hnone (.inl ⟨id, Finset.mem_range.1 hid, hmem⟩)
    have hflight : c.total (fun a => a.carries.count b) = 0 := total_eq_zero.2 fun j a ha =>
      count_eq_zero.2 fun hmem => hnone (.inr ⟨j, a, ha, hmem⟩)
    omega

end NatConfig
end SingBox.Ebpf
