import SingBox.Ebpf.UdpNatPackets
/-!
# The callback of a session

A session is created into the cache, and whoever takes it out of the cache owes
it a call of its callback. `cleanupOnce` lets one call through. After `Close`
has emptied the cache, an entry can only come from a call of `connection` that
was on its way, and that call will take it out again.
-/
namespace SingBox.Ebpf
open List Threads Machine UdpNatService Instr Config NatConfig Function UdpNatConn

namespace Instr

@[simp] def calling : Instr → Option Nat
  | .onClose id _ => some id
  | _ => none

/-- The evicted session that the instruction will call back. -/
@[simp] def owes : Instr → Option Nat
  | .evicted id | .handleClose id true | .onClose id true => some id
  | _ => none

/-- The key that the instruction will remove from the cache once the service is closed. -/
@[simp] def removes : Instr → Option UdpSessionKey
  | .connCheck key _ _ _ | .connRemove key _ _ => some key
  | _ => none

/-- An instruction of `connection`. -/
@[simp] def isConn : Instr → Bool
  | .connClosed _ _ | .connGet _ _ | .connCheck _ _ _ _ | .connRegister _ _ | .connIsClosed _ _ | .connRemove _ _ _
  | .connFail _ => true
  | _ => false

/-- An instruction of the one `Close` that closes the service. -/
@[simp] def stage : Instr → Bool
  | .serviceStore | .serviceWait | .servicePurge | .serviceClear => true
  | _ => false

@[simp] def bottom (a : Instr) : Bool := a.isConn || a.stage
@[simp] def outer (a : Instr) : Bool := a.bottom || a == .serviceClose

/-- Callbacks come before the cache is unlocked, and `connection` and `Close` go on after them. -/
def Nested : List Instr → Prop
  | [] => True
  | a :: rest => (a.owes.isSome → .cacheUnlock ∈ rest) ∧ (a.outer = true → ∀ b ∈ rest, b.owes = none) ∧ Nested rest

end Instr

open Instr (Nested)

/-- The callback has run once if it is through, and not before. -/
def UdpNatConn.Ran (conn : UdpNatConn) : Prop :=
  conn.onCloseRuns = if conn.cleanupOnce = .finished ∧ conn.hasOnClose = true then 1 else 0

def UdpNatConn.calls (conn : UdpNatConn) : Nat := if conn.cleanupOnce = .running then 1 else 0
def UdpNatService.closings (s : UdpNatService) : Nat := if s.closeOnce = .running then 1 else 0

/-- What the steps of `Close` before the instruction have done. -/
def UdpNatService.Passed (s : UdpNatService) : Instr → Prop
  | .serviceWait | .servicePurge => s.closed = true
  | .serviceClear => s.purged = true
  | _ => True

section
variable {n : Nat}

structure NatConfig.Sessions (locked : Bool) (c : NatConfig n) : Prop where
  valid : c.Valid
  calls : ∀ id < c.shared.next, c.count (·.calling == some id) = (c.shared.conns id).calls
  ran : ∀ id < c.shared.next, (c.shared.conns id).Ran
  owed : ∀ id < c.shared.next, c.shared.cache.lookup (c.shared.conns id).key = some id ∨
    (c.shared.conns id).cleanupOnce = .finished ∨ c.Any (·.owes = some id)
  nested : ∀ j, Nested (c.pc j)
  emptied : c.shared.purged = true → ∀ key id, c.shared.cache.lookup key = some id → c.Any (·.removes = some key)
  closed : c.shared.purged = true → c.shared.closed = true
  backed : locked = true → c.shared.purged = true → ∀ j, (∃ b ∈ c.pc j, b.owes.isSome) →
    (∃ b ∈ c.pc j, b.bottom = true) ∨ c.Any (·.removes.isSome)
  unlock : locked = true → c.count (· == .cacheUnlock) ≤ 1
  stages : c.count Instr.stage = c.shared.closings
  passed : c.All c.shared.Passed
  finished : c.shared.closeOnce = .finished → c.shared.purged = true

variable {locked : Bool} {c : NatConfig n} {i : Fin n} {a : Instr} {rest pushed l : List Instr} {x : NatInput}
  {s s' : UdpNatService}

/-- What one instruction does to the sessions in the cache and their callbacks. -/
structure SessionStep (locked : Bool) (c : NatConfig n) (a : Instr) (s : UdpNatService) (pushed : List Instr) :
    Prop where
  calls : ∀ id < c.shared.next, (s.conns id).calls + (a.calling == some id).toNat =
    (c.shared.conns id).calls + pushed.countP (·.calling == some id)
  ran : ∀ id < s.next, (s.conns id).Ran
  finished : ∀ id < c.shared.next, (c.shared.conns id).cleanupOnce = .finished → (s.conns id).cleanupOnce = .finished
  cached : ∀ key id, c.shared.cache.lookup key = some id →
    s.cache.lookup key = some id ∨ ∃ b ∈ pushed, b.owes = some id
  owes : ∀ id, a.owes = some id → (s.conns id).cleanupOnce = .finished ∨ ∃ b ∈ pushed, b.owes = some id
  fresh : ∀ id, c.shared.next ≤ id → id < s.next →
    (s.conns id).cleanupOnce = .fresh ∧ s.cache.lookup (s.conns id).key = some id
  calling : ∀ b ∈ pushed, ∀ id, b.calling = some id → id < c.shared.next
  nested : ∀ rest, Nested (a :: rest) → Nested (pushed ++ rest)
  emptied : s.purged = true → ∀ key id, s.cache.lookup key = some id →
    (c.shared.purged = true ∧ c.shared.cache.lookup key = some id ∧ a.removes ≠ some key) ∨
    ∃ b ∈ pushed, b.removes = some key
  closed : s.purged = true → s.closed = true
  removes : c.shared.purged = true → a.removes.isSome → (∃ b ∈ pushed, b.removes.isSome) ∨ c.cacheFree locked = true
  evicts : ∀ b ∈ pushed, b.owes.isSome → a.owes.isSome ∨ (∃ b ∈ pushed, b.bottom = true) ∨
    (a.bottom = false ∧ ∃ key id, c.shared.cache.lookup key = some id)
  purged : s.purged = true → c.shared.purged = true ∨ (c.cacheFree locked = true ∧ ∃ b ∈ pushed, b.bottom = true)
  unlock : pushed.countP (· == .cacheUnlock) ≤ (a == .cacheUnlock).toNat ∨
    (c.cacheFree locked = true ∧ pushed.countP (· == .cacheUnlock) ≤ 1)
  stages : s.closings + a.stage.toNat = c.shared.closings + pushed.countP Instr.stage
  keeps : c.shared.purged = true → s.purged = true
  stays : c.shared.closed = true → s.closed = true
  passed : ∀ b ∈ pushed, s.Passed b
  finishes : s.closeOnce = .finished → c.shared.closeOnce = .finished ∨ a = .serviceClear

lemma Instr.bottom_of_removes (h : a.removes.isSome) : a.bottom = true := by
  cases a <;> first | rfl | cases h

lemma Instr.not_bottom_of_owes (h : a.owes.isSome) : a.bottom = false := by
  cases a <;> first | rfl | cases h

lemma Instr.outer_of_bottom (h : a.bottom = true) : a.outer = true := by rw [outer, h, Bool.true_or]

lemma Instr.not_outer_of_owes (h : a.owes.isSome) : a.outer = false := by
  cases a <;> first | rfl | cases h

lemma UdpNatService.Passed.mono (h : s.Passed a) (hclosed : s.closed = true → s'.closed = true)
    (hpurged : s.purged = true → s'.purged = true) : s'.Passed a := by
  cases a <;> first | trivial | exact hclosed h | exact hpurged h

lemma UdpNatService.passed_of_stage (h : a.stage = false) : s.Passed a := by
  cases a <;> trivial

lemma Instr.Nested.unlock (h : Nested l) (ho : ∃ b ∈ l, b.owes.isSome) : .cacheUnlock ∈ l := by
  induction l with
  | nil => obtain ⟨_, hb, -⟩ := ho; cases hb
  | cons a rest ih =>
    obtain ⟨b, hb, hob⟩ := ho
    obtain rfl | hb := mem_cons.1 hb
    · exact mem_cons_of_mem _ (h.1 hob)
    · exact mem_cons_of_mem _ (ih h.2.2 ⟨b, hb, hob⟩)

lemma NatConfig.Sessions.no_owes (h : c.Sessions locked) (hlocked : locked = true) (hfree : c.cacheFree locked = true)
    (j : Fin n) : ¬ ∃ b ∈ c.pc j, b.owes.isSome := by
  intro ho
  rw [cacheFree, hlocked, Bool.not_true, Bool.false_or] at hfree
  have hnone := Config.count_eq_zero.1 (noneIn_iff.1 hfree) j _ ((h.nested j).unlock ho)
  simp at hnone

namespace NatConfig.Sessions

section
variable (h : c.Sessions locked) (e : SessionStep locked c a s pushed) (hi : c.pc i = a :: rest)
include h e hi

/-- The goroutine that moves owes a callback after its step: it is in `connection` or `Close`, or someone else is
going to remove what it has evicted. -/
lemma backed_mover (hlocked : locked = true) (hpurged : c.shared.purged = true) (ho : ∃ b ∈ pushed ++ rest, b.owes.isSome) :
    (∃ b ∈ pushed ++ rest, b.bottom = true) ∨ Config.Any (·.removes.isSome) (c.move i (s, pushed ++ rest)) := by
  have hnested := h.nested i
  rw [hi] at hnested
  -- what was promised to an evictor, if the executed instruction is none of `connection`
  have hkept : a.bottom = false → (∃ b ∈ a :: rest, b.bottom = true) ∨ c.Any (·.removes.isSome) →
      (∃ b ∈ pushed ++ rest, b.bottom = true) ∨ Config.Any (·.removes.isSome) (c.move i (s, pushed ++ rest)) := by
    rintro hbottom (⟨b, hb, hbb⟩ | hany)
    · obtain rfl | hb := mem_cons.1 hb
      · rw [hbottom] at hbb
        cases hbb
      · exact .inl ⟨b, mem_append_right pushed hb, hbb⟩
    obtain ha | hany := hany.move hi
    · rw [bottom_of_removes ha] at hbottom
      cases hbottom
    · exact .inr hany
  obtain ⟨b, hb, hob⟩ := ho
  obtain hb | hb := mem_append.1 hb
  · obtain ha | ⟨b', hb', hbottom⟩ | ⟨hbottom, key, id, hl⟩ := e.evicts b hb hob
    · exact hkept (not_bottom_of_owes ha)
        (hi ▸ h.backed hlocked hpurged i ⟨a, hi ▸ mem_cons_self, ha⟩)
    · exact .inl ⟨b', mem_append_left rest hb', hbottom⟩
    obtain ⟨j, b', hb', hr⟩ := h.emptied hpurged key id hl
    exact hkept hbottom (.inr ⟨j, b', hb', Option.isSome_iff_exists.2 ⟨key, hr⟩⟩)
  · have hbottom : a.bottom = false := Bool.eq_false_iff.2 fun hbottom => by
      rw [hnested.2.1 (outer_of_bottom hbottom) b hb] at hob
      cases hob
    exact hkept hbottom (hi ▸ h.backed hlocked hpurged i ⟨b, hi ▸ mem_cons_of_mem a hb, hob⟩)

lemma backed_step (hlocked : locked = true) (hpurged : s.purged = true) (j : Fin n)
    (ho : ∃ b ∈ (c.move i (s, pushed ++ rest)).pc j, b.owes.isSome) :
    (∃ b ∈ (c.move i (s, pushed ++ rest)).pc j, b.bottom = true) ∨
    Config.Any (·.removes.isSome) (c.move i (s, pushed ++ rest)) := by
  by_cases hj : j = i
  · subst hj
    rw [move_same] at ho ⊢
    obtain hpurged | ⟨-, b, hb, hbottom⟩ := e.purged hpurged
    · exact h.backed_mover e hi hlocked hpurged ho
    · exact .inl ⟨b, mem_append_left rest hb, hbottom⟩
  rw [move_other _ hj] at ho ⊢
  obtain hpurged | ⟨hfree, -⟩ := e.purged hpurged
  · obtain hbottom | hany := h.backed hlocked hpurged j ho
    · exact .inl hbottom
    obtain ha | hany := hany.move hi
    · obtain ⟨b, hb, hr⟩ | hfree := e.removes hpurged ha
      · exact .inr (any_pushed hb hr)
      · exact absurd ho (h.no_owes hlocked hfree j)
    · exact .inr hany
  · exact absurd ho (h.no_owes hlocked hfree j)

lemma move (hl : Later c.shared s) (hv : NatConfig.Valid (c.move i (s, pushed ++ rest))) :
    NatConfig.Sessions locked (c.move i (s, pushed ++ rest)) where
  valid := hv
  calls id hid := by
    have hcount := count_move (·.calling == some id) s pushed hi
    by_cases hold : id < c.shared.next
    · have hcalls := e.calls id hold
      rw [← h.calls id hold] at hcalls
      dsimp only [move_shared]
      omega
    -- nobody can call a session that was not there
    have hids : ∀ b : Instr, (∀ id ∈ b.ids, id < c.shared.next) → (b.calling == some id) = false := by
      intro b hb
      cases b <;> first | rfl | skip
      case onClose id' fromCache =>
        have := hb id' (by simp)
        simp only [calling, beq_eq_false_iff_ne, ne_eq, Option.some.injEq]
        omega
    have hzero : c.count (·.calling == some id) = 0 :=
      Config.count_eq_zero.2 fun j b hb => hids b (h.valid.instrs j b hb)
    have hpushed : pushed.countP (·.calling == some id) = 0 := countP_eq_zero.2 fun b hb hcalling =>
      hold (e.calling b hb id (beq_iff_eq.1 hcalling))
    have hfresh := (e.fresh id (Nat.not_lt.1 hold) hid).1
    dsimp only [move_shared]
    rw [UdpNatConn.calls, hfresh, if_neg (by decide)]
    omega
  __ := e
  owed id hid := by
    by_cases hold : id < c.shared.next
    · dsimp only [move_shared]
      rw [hl.key id hold]
      obtain hcached | hfinished | hany := h.owed id hold
      · obtain hcached | ⟨b, hb, hob⟩ := e.cached _ id hcached
        · exact .inl hcached
        · exact .inr (.inr (any_pushed hb hob))
      · exact .inr (.inl (e.finished id hold hfinished))
      obtain ha | hany := hany.move hi
      · obtain hfinished | ⟨b, hb, hob⟩ := e.owes id ha
        · exact .inr (.inl hfinished)
        · exact .inr (.inr (any_pushed hb hob))
      · exact .inr (.inr hany)
    · exact .inl (e.fresh id (Nat.not_lt.1 hold) hid).2
  nested := forall_move (e.nested rest (hi ▸ h.nested i)) fun j _ => h.nested j
  emptied hpurged key id hcached := by
    obtain ⟨hpurged, hcached, ha⟩ | ⟨b, hb, hr⟩ := e.emptied hpurged key id hcached
    · exact ((h.emptied hpurged key id hcached).move hi).resolve_left ha
    · exact any_pushed hb hr
  backed hlocked hpurged j ho := h.backed_step e hi hlocked hpurged j ho
  unlock hlocked := by
    have hcount := count_move (· == .cacheUnlock) s pushed hi
    have hle := h.unlock hlocked
    obtain hkeep | ⟨hfree, hone⟩ := e.unlock
    · omega
    rw [cacheFree, hlocked, Bool.not_true, Bool.false_or] at hfree
    have := noneIn_iff.1 hfree
    omega
  stages := by
    have hcount := count_move stage s pushed hi
    have hstages := e.stages
    rw [← h.stages] at hstages
    dsimp only [move_shared]
    omega
  passed := h.passed.move hi (fun b hb => hb.mono e.stays e.keeps) e.passed
  finished hfinished := by
    obtain hold | rfl := e.finishes hfinished
    · exact e.keeps (h.finished hold)
    · exact e.keeps (h.passed.head hi)

end
end NatConfig.Sessions

/-! ## The instructions -/

/-- What an instruction pushes that calls nobody back and evicts nothing comes to the stack in order. -/
lemma Instr.Nested.push (h : Nested (a :: rest)) (howes : ∀ b ∈ pushed, b.owes.isSome → a.owes.isSome)
    (houter : ∀ b ∈ pushed, b.outer = true → a.outer = true) : Nested (pushed ++ rest) := by
  induction pushed with
  | nil => exact h.2.2
  | cons b pushed ih =>
    have ih := ih (fun b hb => howes b (mem_cons_of_mem _ hb)) fun b hb => houter b (mem_cons_of_mem _ hb)
    refine ⟨fun ho => ?_, fun hb b' hb' => ?_, ih⟩
    · exact mem_append_right pushed (h.1 (howes b mem_cons_self ho))
    have ha := houter b mem_cons_self hb
    obtain hb' | hb' := mem_append.1 hb'
    · cases ho : b'.owes with
      | none => rfl
      | some id =>
        rw [not_outer_of_owes (howes b' (mem_cons_of_mem _ hb') (ho ▸ rfl))] at ha
        cases ha
    · exact h.2.1 ha b' hb'

/-- The cache stays as it is. -/
structure SessionStep.Calm (c : NatConfig n) (a : Instr) (s : UdpNatService) (pushed : List Instr) : Prop where
  next : s.next = c.shared.next
  cache : s.cache = c.shared.cache
  purged : s.purged = c.shared.purged
  stays : c.shared.closed = true → s.closed = true
  unlock : ∀ b ∈ pushed, b ≠ .cacheUnlock
  passed : ∀ b ∈ pushed, s.Passed b
  owes : ∀ b ∈ pushed, b.owes.isSome → a.owes.isSome
  outer : ∀ b ∈ pushed, b.outer = true → a.outer = true
  removes : c.shared.purged = true → ∀ key, a.removes = some key → ∃ b ∈ pushed, b.removes = some key
  stages : s.closings + a.stage.toNat = c.shared.closings + pushed.countP Instr.stage
  finishes : s.closeOnce = .finished → c.shared.closeOnce = .finished ∨ a = .serviceClear

lemma SessionStep.calm (h : c.Sessions locked) (e : Calm c a s pushed)
    (calls : ∀ id < c.shared.next, (s.conns id).calls + (a.calling == some id).toNat =
      (c.shared.conns id).calls + pushed.countP (·.calling == some id))
    (ran : ∀ id < c.shared.next, (s.conns id).Ran)
    (finished : ∀ id < c.shared.next, (c.shared.conns id).cleanupOnce = .finished →
      (s.conns id).cleanupOnce = .finished)
    (owes : ∀ id, a.owes = some id → (s.conns id).cleanupOnce = .finished ∨ ∃ b ∈ pushed, b.owes = some id)
    (calling : ∀ b ∈ pushed, ∀ id, b.calling = some id → id < c.shared.next) : SessionStep locked c a s pushed where
  calls := calls
  ran id hid := ran id (e.next ▸ hid)
  finished := finished
  cached key id hl := .inl (e.cache ▸ hl)
  owes := owes
  fresh id hge hlt := absurd (e.next ▸ hlt) (Nat.not_lt.2 hge)
  calling := calling
  nested rest hn := hn.push e.owes e.outer
  emptied hp key id hl := by
    rw [e.purged] at hp
    by_cases ha : a.removes = some key
    · exact .inr (e.removes hp key ha)
    · exact .inl ⟨hp, e.cache ▸ hl, ha⟩
  closed hp := e.stays (h.closed (e.purged ▸ hp))
  removes hp ha := by
    obtain ⟨key, hkey⟩ := Option.isSome_iff_exists.1 ha
    obtain ⟨b, hb, hr⟩ := e.removes hp key hkey
    exact .inl ⟨b, hb, hr ▸ rfl⟩
  evicts b hb ho := .inl (e.owes b hb ho)
  purged hp := .inl (e.purged ▸ hp)
  unlock := .inl (by
    rw [countP_eq_zero.2 fun b hb => by simpa using e.unlock b hb]
    exact Nat.zero_le _)
  __ := e
  keeps hp := e.purged.trans hp

def UdpNatConn.callback (conn : UdpNatConn) : UdpSessionKey × Bool × Once × Nat :=
  (conn.key, conn.hasOnClose, conn.cleanupOnce, conn.onCloseRuns)

variable {conn : UdpNatConn} {id : Nat} {next : List Instr}

lemma UdpNatConn.Ran.congr {conn' : UdpNatConn} (h : conn'.callback = conn.callback) (hr : conn.Ran) :
    conn'.Ran := by
  simp only [callback, Prod.mk.injEq] at h
  rw [UdpNatConn.Ran, h.2.1, h.2.2.1, h.2.2.2]
  exact hr

lemma SessionStep.still (h : c.Sessions locked) (e : Calm c a s pushed)
    (hconns : ∀ id, (s.conns id).callback = (c.shared.conns id).callback) (hcalling : a.calling = none)
    (howes : a.owes = none) (hpushed : ∀ b ∈ pushed, b.calling = none) : SessionStep locked c a s pushed := by
  have honce : ∀ id, (s.conns id).cleanupOnce = (c.shared.conns id).cleanupOnce := fun id =>
    congrArg (·.2.2.1) (hconns id)
  refine .calm h e (fun id _ => ?_) (fun id hid => (h.ran id hid).congr (hconns id)) (fun id _ hf => (honce id).trans hf)
    (fun id ho => ?_) fun b hb id hc => ?_
  · rw [UdpNatConn.calls, UdpNatConn.calls, honce, hcalling, countP_eq_zero.2 fun b hb => by
      rw [hpushed b hb]; simp]
    rfl
  · rw [howes] at ho
    cases ho
  · rw [hpushed b hb] at hc
    cases hc

/-- An instruction that has nothing to do with the cache or a callback. -/
@[simp] def Instr.aside : Instr → Bool
  | .evicted _ | .cacheUnlock | .handleClose _ true | .onClose _ _ => false
  | a => !a.outer

lemma Instr.aside_spec (h : a.aside = true) : a.calling = none ∧ a.owes = none ∧ a.outer = false ∧
    a ≠ .cacheUnlock := by
  have hne : a ≠ .cacheUnlock := by
    rintro rfl
    cases h
  cases a <;> first | exact ⟨rfl, rfl, rfl, hne⟩ | cases h | skip
  case handleClose id fromCache =>
    cases fromCache
    · exact ⟨rfl, rfl, rfl, hne⟩
    · cases h

lemma Instr.bottom_of_outer (h : a.outer = false) : a.bottom = false := (Bool.or_eq_false_iff.1 h).1
lemma Instr.stage_of_outer (h : a.outer = false) : a.stage = false := (Bool.or_eq_false_iff.1 (bottom_of_outer h)).2

lemma SessionStep.Calm.inner (ha : a.outer = false) (hpushed : ∀ b ∈ pushed, b.outer = false ∧ b ≠ .cacheUnlock)
    (howes : ∀ b ∈ pushed, b.owes.isSome → a.owes.isSome) (hnext : s.next = c.shared.next)
    (hcache : s.cache = c.shared.cache) (hpurged : s.purged = c.shared.purged) (hclosed : s.closed = c.shared.closed)
    (hclose : s.closeOnce = c.shared.closeOnce) : Calm c a s pushed where
  next := hnext
  cache := hcache
  purged := hpurged
  stays hc := hclosed.trans hc
  unlock b hb := (hpushed b hb).2
  passed b hb := passed_of_stage (stage_of_outer (hpushed b hb).1)
  owes := howes
  outer b hb ho := by
    rw [(hpushed b hb).1] at ho
    cases ho
  removes _ key hr := by
    have := bottom_of_removes (Option.isSome_iff_exists.2 ⟨key, hr⟩)
    rw [bottom_of_outer ha] at this
    cases this
  stages := by
    rw [closings, closings, hclose, stage_of_outer ha, countP_eq_zero.2 fun b hb => by
      rw [stage_of_outer (hpushed b hb).1]; simp]
    rfl
  finishes hf := .inl (hclose.symm.trans hf)

lemma SessionStep.aside (h : c.Sessions locked)
    (hconns : ∀ id, (s.conns id).callback = (c.shared.conns id).callback := by exact fun _ => rfl)
    (ha : a.aside = true := by rfl) (hpushed : ∀ b ∈ pushed, b.aside = true := by simp)
    (hnext : s.next = c.shared.next := by rfl) (hcache : s.cache = c.shared.cache := by rfl)
    (hpurged : s.purged = c.shared.purged := by rfl) (hclosed : s.closed = c.shared.closed := by rfl)
    (hclose : s.closeOnce = c.shared.closeOnce := by rfl) : SessionStep locked c a s pushed := by
  obtain ⟨hcalling, howes, houter, -⟩ := aside_spec ha
  have hinner : ∀ b ∈ pushed, b.outer = false ∧ b ≠ .cacheUnlock := fun b hb => (aside_spec (hpushed b hb)).2.2
  refine .still h (.inner houter hinner (fun b hb ho => ?_) hnext hcache hpurged hclosed hclose) hconns hcalling howes
    fun b hb => (aside_spec (hpushed b hb)).1
  rw [(aside_spec (hpushed b hb)).2.1] at ho
  cases ho

lemma Instr.aside_of_isPacket (h : a.isPacket = true) : a.aside = true := by
  cases a <;> first | rfl | cases h

lemma execPacket_session (h : c.Sessions locked) (hexec : execPacket c a x = some (s, pushed)) :
    SessionStep locked c a s pushed := by
  obtain ⟨hcore, ha, hpushed⟩ := execPacket_core hexec
  have hconns : ∀ id, (s.conns id).core.callback = (c.shared.conns id).core.callback := fun id =>
    congrArg callback (core_conn hcore id)
  exact .aside h hconns (aside_of_isPacket ha) (fun b hb => aside_of_isPacket (hpushed b hb).1)
    (congrArg (·.next) hcore) (congrArg (·.cache) hcore) (congrArg (·.purged) hcore)
    (congrArg (·.closed) hcore) (congrArg (·.closeOnce) hcore)

lemma UdpNatService.setConn_self (s : UdpNatService) (id : Nat) : s.setConn id (s.conns id) = s := by
  rw [setConn, update_eq_self]

lemma UdpNatService.setConn_callback (h : conn.callback = (s.conns id).callback)
    (id' : Nat) : ((s.setConn id conn).conns id').callback = (s.conns id').callback := by
  by_cases heq : id' = id
  · subst heq
    exact (congrArg _ (update_self ..)).trans h
  · exact congrArg _ (update_of_ne heq ..)

lemma Instr.mem_ids_of_calling (h : a.calling = some id) : id ∈ a.ids := by
  cases a <;> cases h
  exact mem_singleton_self _

lemma Instr.mem_ids_of_owes (h : a.owes = some id) : id ∈ a.ids := by
  cases a <;> first | (cases h; done) | skip
  case evicted => cases h; exact mem_singleton_self _
  case handleClose id' fromCache | onClose id' fromCache => cases fromCache <;> cases h; exact mem_singleton_self _

lemma SessionStep.call (h : c.Sessions locked) (hid : id < c.shared.next) (conn : UdpNatConn)
    (ha : a.outer = false) (hpushed : ∀ b ∈ pushed, b.outer = false ∧ b ≠ .cacheUnlock)
    (hsame : ∀ b ∈ a :: pushed, b.ids = [id]) (hcalls : conn.calls + (a.calling == some id).toNat =
      (c.shared.conns id).calls + pushed.countP (·.calling == some id))
    (hran : conn.Ran) (hfinished : (c.shared.conns id).cleanupOnce = .finished → conn.cleanupOnce = .finished)
    (howes : a.owes.isSome → conn.cleanupOnce = .finished ∨ ∃ b ∈ pushed, b.owes = some id)
    (howed : ∀ b ∈ pushed, b.owes.isSome → a.owes.isSome) :
    SessionStep locked c a (c.shared.setConn id conn) pushed := by
  have hself : (c.shared.setConn id conn).conns id = conn := update_self ..
  have hother : ∀ {id'}, id' ≠ id → (c.shared.setConn id conn).conns id' = c.shared.conns id' := fun hne =>
    update_of_ne hne ..
  have hcalling : ∀ b ∈ a :: pushed, ∀ id', b.calling = some id' → id' = id := fun b hb id' hc =>
    mem_singleton.1 (hsame b hb ▸ mem_ids_of_calling hc)
  have howing : ∀ id', a.owes = some id' → id' = id := fun id' ho =>
    mem_singleton.1 (hsame a mem_cons_self ▸ mem_ids_of_owes ho)
  refine .calm h (.inner ha hpushed howed rfl rfl rfl rfl rfl) (fun id' hid' => ?_) (fun id' hid' => ?_) (fun id' hid' => ?_)
    (fun id' ho => ?_) fun b hb id' hc => ?_
  · by_cases heq : id' = id
    · subst heq
      rw [hself]
      exact hcalls
    have hnot : ∀ b ∈ a :: pushed, (b.calling == some id') = false := fun b hb =>
      beq_eq_false_iff_ne.2 fun hc => heq (hcalling b hb id' hc)
    rw [hother heq, hnot a mem_cons_self, countP_eq_zero.2 fun b hb => by
      rw [hnot b (mem_cons_of_mem _ hb)]; simp]
    rfl
  · by_cases heq : id' = id
    · subst heq
      rw [hself]
      exact hran
    · rw [hother heq]
      exact h.ran id' hid'
  · by_cases heq : id' = id
    · subst heq
      rw [hself]
      exact hfinished
    · rw [hother heq]
      exact fun hf => hf
  · obtain rfl := howing id' ho
    rw [hself]
    exact howes (ho ▸ rfl)
  · rw [hcalling b (mem_cons_of_mem _ hb) id' hc]
    exact hid

lemma execClose_session (h : c.Sessions locked) (hi : c.pc i = a :: rest) (hexec : execClose c a = some (s, pushed)) :
    SessionStep locked c a s pushed := by
  have hids := h.valid.instrs.head hi
  cases a <;> simp only [execClose, reduceCtorEq] at hexec
  case evicted id =>
    cases hexec
    have hid := hids id (by simp)
    have hstep : SessionStep locked c (.evicted id) (c.shared.setConn id (c.shared.conns id))
        [.close id none, .handleClose id true] :=
      .call h hid _ rfl (by simp) (by simp) (by
        simp) (h.ran id hid) (fun hf => hf) (fun _ => .inr (by simp)) (fun _ _ _ => rfl)
    rwa [setConn_self] at hstep
  case handleClose id fromCache =>
    have hid := hids id (by simp)
    have hran := h.ran id hid
    split at hexec
    next hfresh =>
      cases hexec
      refine .call h hid _ rfl (by simp) (by simp)
        ?_ ?_ (fun hf => ?_) (fun ho => .inr ?_) (fun b hb ho => ?_)
      · simp [calls, hfresh]
      · simpa [UdpNatConn.Ran, hfresh] using hran
      · rw [hfresh] at hf
        cases hf
      · cases fromCache
        · cases ho
        · simp
      · obtain rfl := mem_singleton.1 hb
        cases fromCache
        · cases ho
        · rfl
    · cases hexec
    next hfinished =>
      cases hexec
      have hstep : SessionStep locked c (.handleClose id fromCache) (c.shared.setConn id (c.shared.conns id)) [] :=
        .call h hid _ rfl (by simp) (by simp) (by simp) hran (fun hf => hf)
          (fun _ => .inl hfinished) (by simp)
      rwa [setConn_self] at hstep
  case onClose id fromCache =>
    have hid := hids id (by simp)
    have hran := h.ran id hid
    cases hexec
    -- the callback is running, because it is counted
    have hrunning : (c.shared.conns id).cleanupOnce = .running := by
      have hcount := h.calls id hid
      have hpos := count_head (p := (·.calling == some id)) hi (by simp)
      by_contra hnot
      rw [calls, if_neg hnot] at hcount
      omega
    refine .call h hid _ rfl (by simp) (by simp) ?_ ?_ (fun _ => rfl) (fun _ => .inl rfl) (by simp)
    · simp [calls, hrunning]
    simp only [UdpNatConn.Ran, hrunning] at hran ⊢
    cases hc : (c.shared.conns id).hasOnClose <;> simp_all
  case close id cookie =>
    split at hexec <;> cases hexec
    · exact .aside h (setConn_callback rfl)
    · exact .aside h
  case closeUnregister id cookie =>
    cases hexec
    obtain heq | ⟨-, heq⟩ := c.shared.unregister_cases id <;> rw [heq] <;>
      exact .aside h
  case closeLock id cookie =>
    split at hexec <;> cases hexec
    exact .aside h
  case closeDrain id cookie =>
    split at hexec <;> cases hexec
    next hpop =>
      obtain ⟨queue, -, rfl⟩ := pop_eq hpop
      exact .aside h (setConn_callback rfl)
    · exact .aside h (setConn_callback rfl)
  case closeReturn id =>
    cases hexec
    exact .aside h (setConn_callback rfl)

/-- What comes after the callbacks of an operation of the cache. -/
def Instr.follows (next : List Instr) : Prop :=
  ∀ b ∈ next, b.calling = none ∧ b.owes = none ∧ b ≠ .cacheUnlock

variable {keys : List UdpSessionKey} {c' : NatConfig n}

lemma Instr.Nested.evict (h : Nested (next ++ rest)) :
    Nested ((s.evict keys next).2 ++ rest) := by
  have hunlock : Nested (.cacheUnlock :: (next ++ rest)) := by
    refine ⟨(fun ho => nomatch ho), fun hb => ?_, h⟩
    cases hb
  simp only [UdpNatService.evict, append_assoc, cons_append]
  induction (evictFrom keys s.cache).2 with
  | nil => exact hunlock
  | cons id ids ih =>
    refine ⟨fun _ => mem_append_right _ mem_cons_self, fun hb => ?_, ih⟩
    cases hb

lemma UdpNatService.countP_evict {p : Instr → Bool} (h : ∀ id, p (.evicted id) = false) :
    (s.evict keys next).2.countP p = (p .cacheUnlock).toNat + next.countP p := by
  have hzero : ((evictFrom keys s.cache).2.map evicted).countP p = 0 := countP_eq_zero.2 fun b hb => by
    obtain ⟨id, -, rfl⟩ := mem_map.1 hb
    rw [h id]
    simp
  simp only [UdpNatService.evict]
  rw [countP_append, hzero, countP_cons]
  cases p .cacheUnlock <;> simp [Nat.add_comm]

/-- An operation of the cache that only evicts. `s` may differ from the shared state in the cache and in `purged`. -/
lemma SessionStep.evict (h : c.Sessions locked) (hfree : c.cacheFree locked = true) (ha : a.calling = none)
    (howes : a.owes = none) (keys : List UdpSessionKey) (hnext : follows next)
    (hs : s.conns = c.shared.conns ∧ s.next = c.shared.next ∧ s.cache = (evictFrom keys c.shared.cache).1 ∧
      s.closeOnce = c.shared.closeOnce)
    (hnested : ∀ rest, Nested (a :: rest) → Nested (next ++ rest))
    (hempty : s.purged = true → ∀ key id, s.cache.lookup key = some id →
      c.shared.purged = true ∧ a.removes ≠ some key)
    (hclosed : s.purged = true → s.closed = true) (hstays : c.shared.closed = true → s.closed = true)
    (hpurged : s.purged = true → c.shared.purged = true ∨ ∃ b ∈ next, b.bottom = true)
    (hkeeps : c.shared.purged = true → s.purged = true)
    (hbottom : a.bottom = false ∨ ∃ b ∈ next, b.bottom = true)
    (hstage : a.stage.toNat = next.countP stage) (hpassed : ∀ b ∈ next, s.Passed b) :
    SessionStep locked c a s (c.shared.evict keys next).2 := by
  obtain ⟨hconns, hids, hcache, hclose⟩ := hs
  have hsub : ∀ b ∈ next, b ∈ (c.shared.evict keys next).2 := fun b hb =>
    mem_append_right _ (mem_cons_of_mem _ hb)
  have hcalling : ∀ b ∈ (c.shared.evict keys next).2, b.calling = none :=
    forall_evict (fun _ _ _ => rfl) rfl fun b hb => (hnext b hb).1
  exact {
    calls := fun id _ => by
      rw [hconns, ha, countP_eq_zero.2 fun b hb => by rw [hcalling b hb]; simp]
      rfl
    ran := fun id hid => by
      rw [hconns]
      exact h.ran id (hids ▸ hid)
    finished := fun id _ hf => by rwa [hconns]
    cached := fun key id hl => by
      rw [hcache]
      refine (evictFrom_stays hl).imp_right fun hmem => ?_
      exact ⟨.evicted id, mem_append_left _ (mem_map_of_mem hmem), rfl⟩
    owes := fun id ho => by rw [howes] at ho; cases ho
    fresh := fun id hge hlt => absurd (hids ▸ hlt) (Nat.not_lt.2 hge)
    calling := fun b hb id hc => by rw [hcalling b hb] at hc; cases hc
    nested := fun rest hn => (hnested rest hn).evict
    emptied := fun hp key id hl => by
      obtain ⟨hold, hr⟩ := hempty hp key id hl
      rw [hcache] at hl
      exact .inl ⟨hold, evictFrom_lookup hl, hr⟩
    closed := hclosed
    removes := fun _ _ => .inr hfree
    evicts := forall_evict
      (fun key id hl _ => by
        obtain hb | ⟨b, hb, hbb⟩ := hbottom
        · exact .inr (.inr ⟨hb, key, id, hl⟩)
        · exact .inr (.inl ⟨b, hsub b hb, hbb⟩))
      (fun ho => nomatch ho) fun b hb ho => by
        rw [(hnext b hb).2.1] at ho
        cases ho
    purged := fun hp => (hpurged hp).imp_right fun ⟨b, hb, hbb⟩ => ⟨hfree, b, hsub b hb, hbb⟩
    unlock := .inr ⟨hfree, by
      rw [countP_evict fun _ => rfl, countP_eq_zero.2 fun b hb => by
        simpa using (hnext b hb).2.2]
      exact Nat.le_refl 1⟩
    stages := by
      rw [closings, closings, hclose, countP_evict fun _ => rfl, hstage]
      exact congrArg _ (Nat.zero_add _).symm
    keeps := hkeeps
    stays := hstays
    passed := forall_evict (fun _ _ _ => trivial) trivial hpassed
    finishes := fun hf => .inl (hclose ▸ hf) }

/-- A new session in the cache, which its maker will remove if the service is closed. -/
lemma SessionStep.create (e : SessionStep locked c a s pushed) (hnext : s.next = c.shared.next)
    (howes : a.owes = none) {key : UdpSessionKey} (hnone : s.cache.lookup key = none) (hasOnClose : Bool)
    (hremoves : ∃ b ∈ pushed, b.removes = some key) : SessionStep locked c a (s.create key hasOnClose) pushed := by
  have hnew : (s.create key hasOnClose).conns s.next = { key, hasOnClose } := update_self ..
  have hold : ∀ id < c.shared.next, (s.create key hasOnClose).conns id = s.conns id := fun id hid =>
    update_of_ne (Nat.ne_of_lt (hnext ▸ hid)) ..
  refine { e with calls := fun id hid => ?_, ran := fun id hid => ?_, finished := fun id hid hf => ?_,
                  cached := fun key' id hl => ?_, owes := fun id ho => ?_, fresh := fun id hge hlt => ?_,
                  emptied := fun hp key' id hl => ?_ }
  · rw [hold id hid]
    exact e.calls id hid
  · obtain hid | rfl : id < s.next ∨ id = s.next := Nat.lt_succ_iff_lt_or_eq.1 hid
    · rw [hold id (hnext ▸ hid)]
      exact e.ran id hid
    rw [hnew]
    rfl
  · rw [hold id hid]
    exact e.finished id hid hf
  · refine (e.cached key' id hl).imp_left fun hl' => ?_
    have hne : key' ≠ key := fun heq => by rw [heq, hnone] at hl'; cases hl'
    exact (AList.lookup_insert_ne hne).trans hl'
  · rw [howes] at ho
    cases ho
  · obtain rfl : id = s.next := Nat.le_antisymm (Nat.le_of_lt_succ hlt) (hnext ▸ hge)
    rw [hnew]
    exact ⟨rfl, AList.lookup_insert s.cache⟩
  · by_cases heq : key' = key
    · exact .inr (heq ▸ hremoves)
    · exact e.emptied hp key' id ((AList.lookup_insert_ne heq).symm.trans hl)

lemma SessionStep.connection (h : c.Sessions locked) (ha : a.isConn = true)
    (hpushed : ∀ b ∈ pushed, b.isConn = true ∨ b.aside = true)
    (hconns : s.conns = c.shared.conns) (hnext : s.next = c.shared.next) (hcache : s.cache = c.shared.cache)
    (hpurged : s.purged = c.shared.purged) (hclosed : s.closed = c.shared.closed)
    (hclose : s.closeOnce = c.shared.closeOnce)
    (hremoves : c.shared.closed = true → ∀ key, a.removes = some key → ∃ b ∈ pushed, b.removes = some key) :
    SessionStep locked c a s pushed := by
  have hconn : ∀ {a : Instr}, a.isConn = true → a.calling = none ∧ a.owes = none ∧ a.stage = false ∧
      a ≠ .cacheUnlock := by
    intro a ha
    cases a <;> first | (cases ha; done) | exact ⟨rfl, rfl, rfl, by simp⟩
  have hspec : ∀ b ∈ pushed, b.calling = none ∧ b.owes = none ∧ b.stage = false ∧
      b ≠ .cacheUnlock := by
    intro b hb
    obtain hb | hb := hpushed b hb
    · exact hconn hb
    obtain ⟨hcalling, howes, houter, hne⟩ := aside_spec hb
    have hstage := stage_of_outer houter
    exact ⟨hcalling, howes, hstage, hne⟩
  obtain ⟨hcalling, howes, hstage, -⟩ := hconn ha
  refine .still h ?_ (fun id => by rw [hconns]) hcalling howes fun b hb => (hspec b hb).1
  exact {
    next := hnext
    cache := hcache
    purged := hpurged
    stays := fun hc => hclosed.trans hc
    unlock := fun b hb => (hspec b hb).2.2.2
    passed := fun b hb => passed_of_stage (hspec b hb).2.2.1
    owes := fun b hb ho => by rw [(hspec b hb).2.1] at ho; cases ho
    outer := fun _ _ _ => outer_of_bottom (by rw [bottom, ha, Bool.true_or])
    removes := fun hp => hremoves (h.closed hp)
    stages := by
      rw [closings, closings, hclose, hstage, countP_eq_zero.2 fun b hb => by
        rw [(hspec b hb).2.2.1]; simp]
      rfl
    finishes := fun hf => .inl (hclose ▸ hf) }

lemma UdpNatService.register_eq (s : UdpNatService) (id now : Nat) : ∃ index pending registered,
    (s.registerReleaseConnection id now).1 =
      { s with releaseConnections := index, pendingReleases := pending, registered := registered } := by
  rw [registerReleaseConnection]
  dsimp only
  split
  · exact ⟨_, _, _, rfl⟩
  · split <;> exact ⟨_, _, _, rfl⟩

section
variable (h : c.Sessions locked)
include h

lemma getOrAdd_session (key : UdpSessionKey) (packet : Option Nat)
    (hfree : c.cacheFree locked = true) : SessionStep locked c (.connGet key packet)
      (c.shared.getOrAdd key packet x).1 (c.shared.getOrAdd key packet x).2 := by
  have hevict : ∀ b : Instr, b.isConn = true → SessionStep locked c (.connGet key packet)
      { c.shared with cache := (evictFrom x.evict c.shared.cache).1 } (c.shared.evict x.evict [b]).2 := by
    intro b hb
    have hspec : b.calling = none ∧ b.owes = none ∧ b.stage = false ∧ b ≠ .cacheUnlock ∧ b.bottom = true := by
      cases b <;> first | (cases hb; done) | exact ⟨rfl, rfl, rfl, (by simp), rfl⟩
    obtain ⟨hcalling, howes, hstage, hunlock, hbottom⟩ := hspec
    refine .evict h hfree rfl rfl x.evict (by simpa [follows] using ⟨hcalling, howes, hunlock⟩)
      ⟨rfl, rfl, rfl, rfl⟩ (fun rest hn => hn.push (by simp [howes, -owes]) fun _ _ _ => rfl) (fun hp key' id hl => ⟨hp, ?_⟩)
      h.closed (fun hc => hc) .inl (fun hp => hp) (.inr ⟨b, mem_singleton_self b, hbottom⟩) ?_ ?_
    · simp
    · change 0 = [b].countP stage
      simp [hstage, -stage]
    · simpa using passed_of_stage hstage
  rw [getOrAdd]
  split
  · exact hevict _ rfl
  next hnone =>
    split
    · exact (hevict (.connCheck key packet c.shared.next false) rfl).create rfl rfl hnone x.hasOnClose
        ⟨_, mem_append_right _ (mem_cons_of_mem _ (mem_singleton_self _)), rfl⟩
    · exact hevict _ rfl

lemma execConnection_session (hexec : execConnection locked c a x = some (s, pushed)) :
    SessionStep locked c a s pushed := by
  cases a <;> simp only [execConnection, reduceCtorEq] at hexec
  case connGet key packet =>
    split at hexec
    next hfree =>
      have hstep := getOrAdd_session (x := x) h key packet hfree
      rwa [Option.some.inj hexec] at hstep
    · cases hexec
  case connCheck key packet id updated =>
    split at hexec
    · cases hexec
      exact .connection h rfl (by simp) rfl rfl rfl rfl rfl rfl (by simp)
    next hopen =>
      split at hexec <;> cases hexec <;>
        exact .connection h rfl (by simp)
          rfl rfl rfl rfl rfl rfl fun hclosed => absurd hclosed hopen
  case connRegister packet id =>
    obtain ⟨index, pending, registered, heq⟩ := c.shared.register_eq id x.now
    rw [heq] at hexec
    split at hexec <;> cases hexec <;>
      exact .connection h rfl (by simp) rfl rfl rfl rfl rfl rfl (by simp)
  case connRemove key packet created =>
    split at hexec <;> cases hexec
    next hfree =>
    have hfail : .connFail packet ∈ (created.map (handleClose · false)).toList ++ [.connFail packet] :=
      mem_append_right _ (mem_singleton_self _)
    refine .evict h hfree rfl rfl [key] ?_ ⟨rfl, rfl, rfl, rfl⟩ (fun rest hn => hn.push ?_ fun _ _ _ => rfl)
      (fun hp key' id hl => ⟨hp, fun hr => ?_⟩) h.closed (fun hc => hc) .inl (fun hp => hp)
      (.inr ⟨_, hfail, rfl⟩) ?_ ?_
    · cases created <;> simp [follows]
    · cases created <;> simp
    · cases hr
      rw [evictFrom_gone (mem_singleton_self key)] at hl
      cases hl
    · cases created <;> simp
    · cases created <;> simp [Passed]
  all_goals
    repeat' split at hexec
    all_goals cases hexec
    all_goals exact .connection h rfl (by simp) rfl rfl rfl rfl rfl rfl (by simp)

lemma execService_session (hi : c.pc i = a :: rest)
    (hexec : execService locked c a x = some (s, pushed)) : SessionStep locked c a s pushed := by
  have hrunning : a.stage = true → c.shared.closeOnce = .running := by
    intro ha
    by_contra hnot
    have hpos := count_head (p := stage) hi ha
    have hcount := h.stages
    rw [closings, if_neg hnot] at hcount
    omega
  cases a <;> simp only [execService, reduceCtorEq] at hexec
  case cacheUnlock =>
    cases hexec
    exact .still h ⟨rfl, rfl, rfl, fun hc => hc, by simp, by simp, by simp, by simp, by simp, rfl, .inl⟩
      (fun _ => rfl) rfl rfl (by simp)
  case releaseTake cookie before =>
    split at hexec <;> cases hexec
    · exact .aside h
    obtain ⟨pending, heq⟩ := c.shared.addPending_eq cookie x.now
    rw [heq]
    exact .aside h
  case cleanupRemove | evict | purge =>
    split at hexec <;> cases hexec
    next hfree =>
    exact .evict h hfree rfl rfl _ (by simp [follows]) ⟨rfl, rfl, rfl, rfl⟩ (fun _ hn => hn.2.2)
      (fun hp _ _ _ => ⟨hp, by simp⟩) h.closed (fun hc => hc) .inl (fun hp => hp) (.inl rfl) rfl
      (by simp)
  case serviceClose =>
    split at hexec
    next hfresh =>
      cases hexec
      exact .still h
        ⟨rfl, rfl, rfl, fun hc => hc, by simp, by simp [Passed], by simp, fun _ _ _ => rfl, by simp,
          by simp [closings, hfresh], fun hf => by cases hf⟩
        (fun _ => rfl) rfl rfl (by simp)
    · cases hexec
    · cases hexec
      exact .still h ⟨rfl, rfl, rfl, fun hc => hc, by simp, by simp, by simp, by simp, by simp, rfl, .inl⟩
        (fun _ => rfl) rfl rfl (by simp)
  case serviceStore =>
    cases hexec
    exact .still h
      ⟨rfl, rfl, rfl, fun _ => rfl, by simp, by simp [Passed], by simp, fun _ _ _ => rfl, by simp,
        by simp [closings], .inl⟩
      (fun _ => rfl) rfl rfl (by simp)
  case serviceWait =>
    have hclosed : c.shared.closed = true := h.passed.head hi
    split at hexec <;> cases hexec
    exact .still h
      ⟨rfl, rfl, rfl, fun hc => hc, by simp, by simpa [Passed] using hclosed, by simp, fun _ _ _ => rfl, by simp,
        by simp [closings], .inl⟩
      (fun _ => rfl) rfl rfl (by simp)
  case servicePurge =>
    split at hexec <;> cases hexec
    next hfree =>
    have hclosed : c.shared.closed = true := h.passed.head hi
    refine .evict h hfree rfl rfl c.shared.cache.keys (by simp [follows])
      ⟨rfl, rfl, rfl, rfl⟩ (fun rest hn => hn.push (by simp) fun _ _ _ => rfl) (fun _ key id hl => ?_)
      (fun _ => hclosed) (fun hc => hc) (fun _ => .inr ⟨_, mem_singleton_self _, rfl⟩) (fun _ => rfl)
      (.inr ⟨_, mem_singleton_self _, rfl⟩) rfl (by simp [Passed])
    -- every entry was among the keys
    have hkey : key ∈ c.shared.cache.keys :=
      AList.mem_keys.1 (AList.lookup_isSome.1 (Option.isSome_iff_exists.2 ⟨id, evictFrom_lookup hl⟩))
    cases (evictFrom_gone hkey).symm.trans hl
  case serviceClear =>
    cases hexec
    exact .still h
      ⟨rfl, rfl, rfl, fun hc => hc, by simp, by simp, by simp, by simp, by simp,
        by simp [closings, hrunning rfl], fun _ => .inr rfl⟩
      (fun _ => rfl) rfl rfl (by simp)
  all_goals
    repeat' split at hexec
    all_goals cases hexec
    all_goals exact .aside h

end

/-! ## Runs -/

lemma NatConfig.sessions_init : (init : NatConfig n).Sessions locked where
  valid := valid_init
  calls _ h := nomatch h
  ran _ h := nomatch h
  owed _ h := nomatch h
  nested _ := trivial
  emptied h := nomatch h
  closed h := nomatch h
  backed _ h := nomatch h
  unlock _ := Nat.le_trans (Nat.le_of_eq (Config.count_eq_zero.2 fun _ _ h => nomatch h)) (Nat.zero_le 1)
  stages := Config.count_eq_zero.2 fun _ _ h => nomatch h
  passed _ _ h := nomatch h
  finished h := nomatch h

lemma NatConfig.Sessions.start (h : c.Sessions locked) {op : NatOp} (hi : c.pc i = [])
    (hv : NatConfig.Valid (c.move i (s, l))) (hstart : op.start c.shared = some (s, l)) :
    NatConfig.Sessions locked (c.move i (s, l)) := by
  obtain ⟨⟨b, rfl⟩, hl⟩ : (∃ b, s = { c.shared with nextBuffer := b }) ∧
      ∀ b ∈ l, b.calling = none ∧ b.owes = none ∧ b.stage = false ∧ b ≠ .cacheUnlock := by
    cases op <;> simp only [NatOp.start, onConn] at hstart
    all_goals
      repeat' split at hstart
      all_goals cases hstart
      all_goals exact ⟨⟨_, rfl⟩, by simp⟩
  have hcount : ∀ p : Instr → Bool, (∀ b ∈ l, p b = false) → Config.count p
      (c.move i ({ c.shared with nextBuffer := b }, l)) = c.count p := fun p hp => by
    rw [count_start p _ l hi, countP_eq_zero.2 fun b hb => by rw [hp b hb]; simp, Nat.add_zero]
  have hnested : Nested l := by
    clear hv hcount hstart
    induction l with
    | nil => trivial
    | cons a l ih =>
      have hrest := fun b hb => hl b (mem_cons_of_mem a hb)
      refine ⟨fun ho => ?_, fun _ b hb => (hrest b hb).2.1, ih hrest⟩
      rw [(hl a mem_cons_self).2.1] at ho
      cases ho
  exact {
    valid := hv
    calls := fun id hid => (hcount _ fun b hb => by rw [(hl b hb).1]; rfl).trans (h.calls id hid)
    __ := h
    owed := fun id hid => (h.owed id hid).imp_right (.imp_right fun hany => hany.start hi)
    nested := forall_move hnested fun j _ => h.nested j
    emptied := fun hp key id hc => (h.emptied hp key id hc).start hi
    backed := fun hlocked hp j ho => by
      obtain ⟨b, hb, ho⟩ := ho
      by_cases hj : j = i
      · subst hj
        rw [move_same] at hb
        rw [(hl b hb).2.1] at ho
        cases ho
      · rw [move_other _ hj] at hb ⊢
        exact (h.backed hlocked hp j ⟨b, hb, ho⟩).imp_right fun hany => hany.start hi
    unlock := fun hlocked => by
      rw [hcount _ fun b hb => beq_eq_false_iff_ne.2 (hl b hb).2.2.2]
      exact h.unlock hlocked
    stages := (hcount _ fun b hb => (hl b hb).2.2.1).trans h.stages
    passed := h.passed.start (fun b hb => hb.mono (fun hc => hc) fun hp => hp) fun b hb =>
      passed_of_stage (hl b hb).2.2.1 }

lemma NatConfig.Sessions.step {e : Fin n × NatAction} (h : c.Sessions locked)
    (hs : natStep locked c e = some c') : NatConfig.Sessions locked c' := by
  obtain ⟨i, act⟩ := e
  obtain ⟨s, l, hstepped, rfl⟩ := natStep_cases hs
  obtain ⟨hl, hv⟩ := hstepped.later_valid h.valid
  cases hstepped with
  | start hi hstart => exact h.start hi hv hstart
  | connection hi hexec => exact h.move (execConnection_session h hexec) hi hl hv
  | packet hi hexec => exact h.move (execPacket_session h hexec) hi hl hv
  | close hi hexec => exact h.move (execClose_session h hi hexec) hi hl hv
  | service hi hexec => exact h.move (execService_session h hi hexec) hi hl hv

lemma UdpNatConn.Ran.le_one (h : conn.Ran) : conn.onCloseRuns ≤ 1 := by
  rw [UdpNatConn.Ran] at h
  split at h <;> omega

/-- `Close` has returned, no call of `connection` is under way, and no callback of the cache. -/
structure NatConfig.Ended (locked : Bool) (c : NatConfig n) : Prop where
  returned : c.shared.closeOnce = .finished
  conns : c.All fun a => a.isConn = false
  cache : locked = true ∨ c.All fun a => a ≠ .cacheUnlock

lemma NatConfig.Sessions.ended (h : c.Sessions locked) (he : c.Ended locked) (hid : id < c.shared.next) :
    (c.shared.conns id).cleanupOnce = .finished := by
  have hpurged := h.finished he.returned
  have hremoves : ∀ {key}, ¬ c.Any (·.removes = some key) := by
    rintro key ⟨j, b, hb, hr⟩
    have hconn := he.conns j b hb
    cases b <;> first | (cases hr; done) | cases hconn
  have howes : ∀ j, ¬ ∃ b ∈ c.pc j, b.owes.isSome := by
    intro j ho
    rcases he.cache with hlocked | hnone
    · rcases h.backed hlocked hpurged j ho with ⟨b, hb, hbottom⟩ | ⟨j, b, hb, hr⟩
      · have hstage : c.count stage = 0 := by
          rw [h.stages, closings, he.returned]
          rfl
        rw [bottom, he.conns j b hb, Config.count_eq_zero.1 hstage j b hb] at hbottom
        cases hbottom
      · obtain ⟨key, hkey⟩ := Option.isSome_iff_exists.1 hr
        exact hremoves ⟨j, b, hb, hkey⟩
    · exact hnone j _ ((h.nested j).unlock ho) rfl
  obtain hcached | hfinished | ⟨j, b, hb, ho⟩ := h.owed id hid
  · exact absurd (h.emptied hpurged _ id hcached) hremoves
  · exact hfinished
  · exact absurd ⟨b, hb, ho ▸ rfl⟩ (howes j)

lemma Later.run {es : List (Fin n × NatAction)} (h : c.Valid)
    (hrun : run (natStep locked) c es = some c') : c'.Valid ∧ Later c.shared c'.shared :=
  run_keeps (I := fun c' => NatConfig.Valid c' ∧ Later c.shared c'.shared)
    (fun _ _ _ ⟨hv, hl⟩ hs => by
      obtain ⟨s, l, hstepped, rfl⟩ := natStep_cases hs
      obtain ⟨hl', hv'⟩ := hstepped.later_valid hv
      exact ⟨hv', hl.trans hl'⟩)
    ⟨h, .refl _⟩ hrun

/-- In every run a packet that nobody holds has been handed to one consumer or released, once. The queue of a closed
session is empty from then on. Its callback has run at most once, and once for every session when all has ended. -/
theorem udp_nat_ownership (locked : Bool) (es es' : List (Fin n × NatAction)) (c c' : NatConfig n)
    (hrun : run (natStep locked) NatConfig.init es = some c) (hrun' : run (natStep locked) c es' = some c') :
    (∀ b < c.shared.nextBuffer, (c.Holds b → c.shared.handed.count b + c.shared.released.count b = 0) ∧
      (¬ c.Holds b → c.shared.handed.count b + c.shared.released.count b = 1)) ∧
    (∀ id < c.shared.next, (c.shared.conns id).closeOnce = .finished → (c'.shared.conns id).packetChan = []) ∧
    (∀ id < c.shared.next, (c.shared.conns id).onCloseRuns ≤ 1) ∧
    (c.Ended locked → ∀ id < c.shared.next,
      (c.shared.conns id).onCloseRuns = if (c.shared.conns id).hasOnClose then 1 else 0) := by
  have hpackets : c.Packets := run_keeps (fun _ _ _ h hs => h.step hs) packets_init hrun
  have hsessions : c.Sessions locked := run_keeps (fun _ _ _ h hs => h.step hs) sessions_init hrun
  refine ⟨fun b hb => hpackets.disposed hb, fun id hid hclosed => ?_, fun id hid => (hsessions.ran id hid).le_one,
    fun hended id hid => ?_⟩
  · have hpackets' : c'.Packets := run_keeps (fun _ _ _ h hs => h.step hs) hpackets hrun'
    have hlater := (Later.run hpackets.valid hrun').2
    have hgood := hpackets'.conns id (Nat.lt_of_lt_of_le hid hlater.next)
    exact hgood.empty (hgood.finished (hlater.finished id hid hclosed))
  · have hran := hsessions.ran id hid
    rw [UdpNatConn.Ran, hsessions.ended hended hid] at hran
    simpa using hran

end

def packetThenClose : List (Fin 1 × NatAction) :=
  (alone, .start (.newPacketBuffer ⟨⟨.v4 0xc000020a#32, 53000⟩, .localCgroup, 42, 0⟩)) ::
    (replicate 9 (alone, .next {}) ++ (alone, .start .serviceClose) :: replicate 15 (alone, .next {}))

theorem udp_nat_ownership_closed : ∃ c : NatConfig 1,
    run (natStep true) NatConfig.init packetThenClose = some c ∧ c.shared.released = [0] ∧ c.shared.handed = [] ∧
    (c.shared.conns 0).packetChan = [] ∧ (c.shared.conns 0).onCloseRuns = 1 := by
  have hrun : run (natStep true) init packetThenClose = some _ := rfl
  have hall := udp_nat_ownership true packetThenClose [] _ _ hrun rfl
  refine ⟨_, hrun, rfl, rfl, ?_, ?_⟩
  · exact hall.2.1 0 (by decide +kernel) rfl
  · exact hall.2.2.2 ⟨rfl, Config.count_eq_zero.1 (by decide +kernel), .inl rfl⟩ 0 (by decide +kernel)

end SingBox.Ebpf
