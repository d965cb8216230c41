import SingBox.Ebpf.UdpNat
/-!
# Releasing a socket

`ReleaseSocket` finds the session of a cookie in the release index, which has
room for one session. A second local session of the same cookie takes the place
of the first in it, and the release of the socket then ends the second one only.
The theorem below is about the runs in which this does not happen.
-/
namespace SingBox.Ebpf
open List Threads Machine

/-- The session that the instruction is about to close for good: one that `ReleaseSocket` has taken, or one whose
`closeOnce` runs. -/
def Instr.closing : Instr → Option Nat
  | .close id (some _) | .closeUnregister id _ | .closeLock id _ | .closeDrain id _ => some id
  | _ => none

def UdpNatService.Keyed (s : UdpNatService) (id cookie : Nat) : Prop :=
  (s.conns id).key.releasable = true ∧ (s.conns id).key.socketCookie = cookie

instance (s : UdpNatService) (id cookie : Nat) : Decidable (s.Keyed id cookie) :=
  inferInstanceAs (Decidable (_ ∧ _))

def UdpNatService.registers (s : UdpNatService) (id now : Nat) : Bool :=
  let key := (s.conns id).key
  key.releasable && !(s.pendingReleases.lookup key.socketCookie).any fun expiry => decide (expiry > now)

section
variable {n : Nat}

/-- The service stays open; a session is registered when those registered before with its cookie are closed; and
`ReleaseSocket` looks into the index when no session of its cookie is on its way from the index to being closed. -/
def NatConfig.Undisturbed (c : NatConfig n) (e : Fin n × NatAction) : Prop :=
  match e.2, c.pc e.1 with
  | .start op, _ => op ≠ .serviceClose
  | .next x, .connRegister _ id :: _ =>
    c.shared.registers id x.now = true → ∀ id' ∈ c.shared.registered, id' ≠ id →
      c.shared.Keyed id' (c.shared.conns id).key.socketCookie → (c.shared.conns id').done = true
  | .next _, .releaseTake cookie _ :: _ =>
    ∀ id ∈ c.shared.registered, c.shared.Keyed id cookie → (c.shared.conns id).done = true ∨
      ∀ j, ∀ a ∈ c.pc j, a.closing ≠ some id
  | _, _ => True

instance (c : NatConfig n) (e : Fin n × NatAction) : Decidable (c.Undisturbed e) := by
  unfold NatConfig.Undisturbed
  split <;> infer_instance

end

/-! ## The invariant -/

namespace UdpNatService

def InstrGood (s : UdpNatService) : Instr → Prop
  | .closeReturn id => (s.conns id).done = true
  | .close id cookie | .closeUnregister id cookie | .closeLock id cookie | .closeDrain id cookie =>
    ∀ k ∈ cookie, s.Keyed id k
  | .releaseTake _ before | .releaseReturn _ before => before ⊆ s.registered
  | .serviceClose | .serviceStore | .serviceWait | .servicePurge | .serviceClear => False
  | _ => True

/-- The sessions of `before` are closed, or one of the instructions is about to. -/
def Ended (s : UdpNatService) (cookie : Nat) (before : List Nat) (l : List Instr) : Prop :=
  ∀ id ∈ before, s.Keyed id cookie → (s.conns id).done = true ∨ ∃ a ∈ l, a.closing = some id

end UdpNatService

open UdpNatService

section
variable {n : Nat}

structure NatConfig.Releases (c : NatConfig n) : Prop where
  valid : c.Valid
  registered : ∀ id ∈ c.shared.registered, id < c.shared.next ∧ (c.shared.conns id).key.releasable = true
  tracked : ∀ id ∈ c.shared.registered, (c.shared.conns id).done = true ∨
    c.shared.releaseConnections.lookup (c.shared.conns id).key.socketCookie = some id ∨ c.Any (·.closing = some id)
  finished : ∀ id < c.shared.next, (c.shared.conns id).closeOnce = .finished → (c.shared.conns id).done = true
  closedFor : ∀ id < c.shared.next, ∀ cookie, (c.shared.conns id).closedFor = some cookie → c.shared.Keyed id cookie
  instrs : c.All c.shared.InstrGood
  returns : ∀ j l rest cookie before, c.pc j = l ++ .releaseReturn cookie before :: rest →
    c.shared.Ended cookie before l
  releases : ∀ r ∈ c.shared.releases, c.shared.Ended r.1 r.2 []
  before : ∀ r ∈ c.shared.releases, r.2 ⊆ c.shared.registered
  closed : c.shared.closed = false

variable {locked : Bool} {c : NatConfig n} {i : Fin n} {a : Instr} {rest pushed l : List Instr} {x : NatInput}
  {s s' : UdpNatService}

variable {cookie id : Nat} {before : List Nat}

lemma UdpNatService.Keyed.later (hl : Later s s') (hid : id < s.next) : s'.Keyed id cookie ↔ s.Keyed id cookie := by
  rw [Keyed, Keyed, hl.key id hid]

lemma UdpNatService.InstrGood.later (hl : Later s s') (hids : ∀ id ∈ a.ids, id < s.next) (h : s.InstrGood a) :
    s'.InstrGood a := by
  cases a with
  | closeReturn id => exact hl.done id (hids id (by simp)) h
  | close id cookie | closeUnregister id cookie | closeLock id cookie | closeDrain id cookie =>
    exact fun k hk => (Keyed.later hl (hids id (by simp))).2 (h k hk)
  | releaseTake cookie before | releaseReturn cookie before => exact List.Subset.trans h hl.registered
  | serviceClose | serviceStore | serviceWait | servicePurge | serviceClear => exact h
  | _ => trivial

/-- Everything one instruction does to the release of sockets. -/
structure Effect (c : NatConfig n) (a : Instr) (s : UdpNatService) (pushed : List Instr) : Prop where
  registered : ∀ id ∈ s.registered, id ∈ c.shared.registered ∨
    (id < c.shared.next ∧ s.Keyed id (c.shared.conns id).key.socketCookie ∧
      s.releaseConnections.lookup (s.conns id).key.socketCookie = some id)
  index : ∀ id ∈ c.shared.registered,
    c.shared.releaseConnections.lookup (c.shared.conns id).key.socketCookie = some id →
    s.releaseConnections.lookup (c.shared.conns id).key.socketCookie = some id ∨ (s.conns id).done = true ∨
      ∃ b ∈ pushed, b.closing = some id
  closing : ∀ id, a.closing = some id → (s.conns id).done = true ∨ ∃ b ∈ pushed, b.closing = some id
  finished : ∀ id < s.next, (s.conns id).closeOnce = .finished → (s.conns id).done = true
  closedFor : ∀ id < s.next, ∀ cookie, (s.conns id).closedFor = some cookie → s.Keyed id cookie
  instrs : ∀ b ∈ pushed, s.InstrGood b
  returns : ∀ l rest cookie before, pushed = l ++ .releaseReturn cookie before :: rest → s.Ended cookie before l
  releases : ∀ r ∈ s.releases, r ∈ c.shared.releases ∨ a = .releaseReturn r.1 r.2
  closed : s.closed = false

lemma UdpNatService.Ended.later (hl : Later s s')
    (hbefore : ∀ id ∈ before, id < s.next) (h : s.Ended cookie before l) : s'.Ended cookie before l := by
  intro id hid hkeyed
  obtain hd | hc := h id hid ((Keyed.later hl (hbefore id hid)).1 hkeyed)
  · exact .inl (hl.done id (hbefore id hid) hd)
  · exact .inr hc

lemma NatConfig.Releases.lt_next (h : c.Releases) (hb : before ⊆ c.shared.registered) :
    ∀ id ∈ before, id < c.shared.next := fun id hid => (h.registered id (hb hid)).1

lemma Effect.ended (e : Effect c a s pushed) (hl : Later c.shared s)
    (hbefore : ∀ id ∈ before, id < c.shared.next) (h : c.shared.Ended cookie before (a :: l)) :
    s.Ended cookie before (pushed ++ l) := by
  intro id hid hkeyed
  obtain hd | ⟨b, hb, hclosing⟩ := h.later hl hbefore id hid hkeyed
  · exact .inl hd
  obtain rfl | hb := mem_cons.1 hb
  · obtain hd | ⟨b', hb', hclosing'⟩ := e.closing id hclosing
    · exact .inl hd
    · exact .inr ⟨b', mem_append_left l hb', hclosing'⟩
  · exact .inr ⟨b, mem_append_right pushed hb, hclosing⟩

lemma NatConfig.Releases.move (h : c.Releases) (hi : c.pc i = a :: rest) (hl : Later c.shared s)
    (hv : NatConfig.Valid (c.move i (s, pushed ++ rest))) (e : Effect c a s pushed) :
    NatConfig.Releases (c.move i (s, pushed ++ rest)) where
  valid := hv
  registered id hid := by
    obtain hid | ⟨hlt, hkeyed, -⟩ := e.registered id hid
    · obtain ⟨hlt, hrel⟩ := h.registered id hid
      exact ⟨Nat.lt_of_lt_of_le hlt hl.next, by rw [Config.move_shared, hl.key id hlt]; exact hrel⟩
    · exact ⟨Nat.lt_of_lt_of_le hlt hl.next, hkeyed.1⟩
  tracked id hid := by
    obtain hid | ⟨-, -, hindex⟩ := e.registered id hid
    · have hlt := (h.registered id hid).1
      have hkey : ((c.move i (s, pushed ++ rest)).shared.conns id).key = (c.shared.conns id).key := hl.key id hlt
      rw [hkey]
      obtain hd | hindex | hany := h.tracked id hid
      · exact .inl (hl.done id hlt hd)
      · obtain hindex | hd | ⟨b, hb, hclosing⟩ := e.index id hid hindex
        · exact .inr (.inl hindex)
        · exact .inl hd
        · exact .inr (.inr (Config.any_pushed hb hclosing))
      obtain ha | hany := hany.move hi
      · obtain hd | ⟨b, hb, hclosing⟩ := e.closing id ha
        · exact .inl hd
        · exact .inr (.inr (Config.any_pushed hb hclosing))
      · exact .inr (.inr hany)
    · exact .inr (.inl hindex)
  __ := e
  instrs := by
    intro j b hb
    have hgood : c.All fun b => c.shared.InstrGood b ∧ ∀ id ∈ b.ids, id < c.shared.next :=
      fun j b hb => ⟨h.instrs j b hb, h.valid.instrs j b hb⟩
    exact hgood.move hi (fun b hb => hb.1.later hl hb.2) e.instrs j b hb
  returns := by
    refine Config.forall_move (Q := fun stack => ∀ l rest cookie before,
      stack = l ++ .releaseReturn cookie before :: rest → s.Ended cookie before l) ?_ ?_
    · intro l r cookie before heq
      have hold : ∀ l', rest = l' ++ .releaseReturn cookie before :: r → s.Ended cookie before (pushed ++ l') := by
        intro l' hrest
        have hstack : c.pc i = (a :: l') ++ .releaseReturn cookie before :: r := by rw [hi, hrest]; rfl
        have hgood := h.instrs i (.releaseReturn cookie before) (by rw [hstack]; simp)
        exact e.ended hl (h.lt_next hgood) (h.returns i _ _ _ _ hstack)
      obtain ⟨l', rfl, hrest⟩ | ⟨l', hpushed, hrest⟩ := append_eq_append_iff.1 heq
      · exact hold l' hrest
      · cases l' with
        | nil =>
          obtain rfl : pushed = l := by simpa using hpushed
          simpa using hold [] hrest.symm
        | cons b l' =>
          obtain ⟨rfl, -⟩ := cons.inj hrest
          exact e.returns l l' cookie before hpushed
    · intro j _ l r cookie before heq
      have hgood := h.instrs j (.releaseReturn cookie before) (by rw [heq]; simp)
      exact (h.returns j l r cookie before heq).later hl (h.lt_next hgood)
  releases r hr := by
    obtain hr | rfl := e.releases r hr
    · exact (h.releases r hr).later hl (h.lt_next (h.before r hr))
    · exact (h.returns i [] rest r.1 r.2 hi).later hl (h.lt_next (h.instrs.head hi))
  before r hr := by
    obtain hr | rfl := e.releases r hr
    · exact List.Subset.trans (h.before r hr) hl.registered
    · exact List.Subset.trans (h.instrs.head hi) hl.registered

/-! ## The instructions -/

/-- An instruction that the release of sockets has nothing to do with. -/
@[simp] def Instr.plain : Instr → Bool
  | .closeReturn _ | .close _ (some _) | .closeUnregister _ _ | .closeLock _ _ | .closeDrain _ _ | .releaseTake _ _
  | .releaseReturn _ _ | .serviceClose | .serviceStore | .serviceWait | .servicePurge | .serviceClear => false
  | _ => true

lemma UdpNatService.InstrGood.plain (h : a.plain = true) : s.InstrGood a := by
  cases a <;> first | trivial | cases h | skip
  case close id cookie =>
    cases cookie with
    | none => exact fun k hk => nomatch hk
    | some k => cases h

lemma Instr.closing_of_plain (h : a.plain = true) : a.closing = none := by
  cases a <;> first | rfl | cases h | skip
  case close id cookie =>
    cases cookie with
    | none => rfl
    | some k => cases h

section
variable (h : c.Releases)
include h

/-- An instruction that leaves the sessions, the registrations and the releases alone. -/
lemma Effect.kept (hclosing : ∀ id, a.closing = some id → ∃ b ∈ pushed, b.closing = some id)
    (hpushed : ∀ b ∈ pushed, s.InstrGood b) (hreturn : ∀ cookie before, .releaseReturn cookie before ∉ pushed)
    (hconns : ∀ id < s.next, id < c.shared.next ∧ (s.conns id).core = (c.shared.conns id).core ∨
      (s.conns id).closeOnce = .fresh ∧ (s.conns id).closedFor = none)
    (hindex : ∀ id ∈ c.shared.registered,
      c.shared.releaseConnections.lookup (c.shared.conns id).key.socketCookie = some id →
      s.releaseConnections.lookup (c.shared.conns id).key.socketCookie = some id ∨ ∃ b ∈ pushed, b.closing = some id)
    (hsame : (s.registered, s.releases, s.closed) = (c.shared.registered, c.shared.releases, c.shared.closed)) :
    Effect c a s pushed := by
  simp only [Prod.mk.injEq] at hsame
  obtain ⟨hregistered, hreleases, hclosed⟩ := hsame
  refine ⟨fun id hid => .inl (hregistered ▸ hid), fun id hid hl => (hindex id hid hl).imp_right .inr,
    fun id hc => .inr (hclosing id hc), fun id hid hf => ?_, fun id hid cookie hcookie => ?_, hpushed,
    fun l rest cookie before heq => absurd (by rw [heq]; simp) (hreturn cookie before),
    fun r hr => .inl (hreleases ▸ hr), hclosed.trans h.closed⟩
  · obtain ⟨hlt, hcore⟩ | ⟨hfresh, -⟩ := hconns id hid
    · exact (congrArg (·.done) hcore).trans (h.finished id hlt ((congrArg (·.closeOnce) hcore).symm.trans hf))
    · cases hfresh.symm.trans hf
  · obtain ⟨hlt, hcore⟩ | ⟨-, hnone⟩ := hconns id hid
    · have hkeyed := h.closedFor id hlt cookie ((congrArg (·.closedFor) hcore).symm.trans hcookie)
      rw [Keyed, show (s.conns id).key = _ from congrArg (·.key) hcore]
      exact hkeyed
    · cases hnone.symm.trans hcookie

lemma Effect.quiet (ha : a.closing = none) (hpushed : ∀ b ∈ pushed, b.plain = true)
    (hconns : ∀ id < s.next, id < c.shared.next ∧ (s.conns id).core = (c.shared.conns id).core ∨
      (s.conns id).closeOnce = .fresh ∧ (s.conns id).closedFor = none)
    (hindex : s.releaseConnections = c.shared.releaseConnections)
    (hsame : (s.registered, s.releases, s.closed) = (c.shared.registered, c.shared.releases, c.shared.closed)) :
    Effect c a s pushed :=
  .kept h (fun _ hc => by cases ha.symm.trans hc) (fun b hb => .plain (hpushed b hb))
    (fun _ _ hmem => by cases hpushed _ hmem) hconns (fun _ _ hl => .inl (hindex ▸ hl)) hsame

lemma Effect.same (ha : a.closing = none := by rfl) (hpushed : ∀ b ∈ pushed, b.plain = true := by simp)
    (hsame : (s.conns, s.next, s.releaseConnections, s.registered, s.releases, s.closed) =
      (c.shared.conns, c.shared.next, c.shared.releaseConnections, c.shared.registered, c.shared.releases,
        c.shared.closed) := by rfl) : Effect c a s pushed := by
  obtain ⟨hconns, hsame⟩ := Prod.mk.inj hsame
  obtain ⟨hnext, hsame⟩ := Prod.mk.inj hsame
  obtain ⟨hindex, hsame⟩ := Prod.mk.inj hsame
  exact .quiet h ha hpushed (fun id hid => .inl ⟨hnext ▸ hid, by rw [hconns]⟩) hindex hsame

end

lemma execPacket_effect (h : c.Releases) (hexec : execPacket c a x = some (s, pushed)) : Effect c a s pushed := by
  obtain ⟨hcore, ha, hpushed⟩ := execPacket_core hexec
  have hplain : ∀ b : Instr, b.isPacket = true → b.plain = true := fun b hb => by cases b <;> first | rfl | cases hb
  refine .quiet h (Instr.closing_of_plain (hplain a ha)) (fun b hb => hplain b (hpushed b hb).1) (fun id hid => ?_)
    (congrArg (·.releaseConnections) hcore) (congrArg (fun s => (s.registered, s.releases, s.closed)) hcore)
  exact .inl ⟨Nat.lt_of_lt_of_eq hid (congrArg (·.next) hcore), core_conn hcore id⟩

lemma UdpNatService.evict_plain {keys : List UdpSessionKey} {next : List Instr}
    (h : ∀ b ∈ next, b.plain = true := by simp) : ∀ b ∈ (s.evict keys next).2, b.plain = true :=
  forall_evict (fun _ _ _ => rfl) rfl h

section
variable (h : c.Releases)
include h

lemma register_effect {packet : Option Nat} (hid : id < c.shared.next)
    (hfree : c.shared.registers id x.now = true → ∀ id' ∈ c.shared.registered, id' ≠ id →
      c.shared.Keyed id' (c.shared.conns id).key.socketCookie → (c.shared.conns id').done = true)
    (hpushed : ∀ b ∈ pushed, b.plain = true) :
    Effect c (.connRegister packet id) (c.shared.registerReleaseConnection id x.now).1 pushed := by
  rw [registerReleaseConnection]
  dsimp only
  split
  · exact .same h rfl hpushed
  next hrel =>
    simp only [Bool.not_eq_true', Bool.not_eq_false] at hrel
    split
    · exact .same h rfl hpushed
    next hpending =>
      have hfree := hfree (by simp [registers, hrel, hpending])
      refine ⟨fun id' hid' => ?_, fun id' hid' hl => ?_, fun _ hc => (by cases hc), h.finished, h.closedFor,
        fun b hb => .plain (hpushed b hb), fun l rest cookie before heq => ?_, fun r hr => .inl hr, h.closed⟩
      · obtain rfl | hid' := mem_cons.1 hid'
        · exact .inr ⟨hid, ⟨hrel, rfl⟩, AList.lookup_insert ..⟩
        · exact .inl hid'
      · by_cases hne : id' = id
        · subst hne
          exact .inl (AList.lookup_insert ..)
        by_cases hcookie : (c.shared.conns id').key.socketCookie = (c.shared.conns id).key.socketCookie
        · exact .inr (.inl (hfree id' hid' hne ⟨(h.registered id' hid').2, hcookie⟩))
        · exact .inl ((AList.lookup_insert_ne hcookie).trans hl)
      · cases hpushed (.releaseReturn cookie before) (by rw [heq]; simp)

lemma execConnection_effect (hi : c.pc i = a :: rest) (hu : c.Undisturbed (i, .next x))
    (hexec : execConnection locked c a x = some (s, pushed)) : Effect c a s pushed := by
  have hids := h.valid.instrs.head hi
  cases a <;> simp only [execConnection, reduceCtorEq] at hexec
  case connGet key packet =>
    split at hexec
    · simp only [Option.some.injEq, getOrAdd] at hexec
      split at hexec
      · cases hexec
        exact .same h rfl evict_plain
      split at hexec <;> cases hexec
      · refine .quiet h rfl evict_plain (fun id hid => ?_) rfl rfl
        by_cases hnew : id = c.shared.next
        · right
          simp [create, evict, hnew]
        left
        have hlt : id < c.shared.next := Nat.lt_of_le_of_ne (Nat.le_of_lt_succ hid) hnew
        exact ⟨hlt, by simp [create, evict, Function.update_of_ne hnew]⟩
      · exact .same h rfl evict_plain
    · cases hexec
  case connRegister packet id =>
    have hfree : c.shared.registers id x.now = true → ∀ id' ∈ c.shared.registered, id' ≠ id →
        c.shared.Keyed id' (c.shared.conns id).key.socketCookie → (c.shared.conns id').done = true := by
      simpa [NatConfig.Undisturbed, hi] using hu
    split at hexec <;> cases hexec <;>
      exact register_effect h (hids id (by simp)) hfree (by simp)
  case connRemove key packet created =>
    split at hexec <;> cases hexec
    refine .same h rfl (evict_plain ?_)
    cases created <;> simp
  all_goals
    repeat' split at hexec
    all_goals cases hexec
    all_goals exact .same h

lemma Effect.setConn {conn : UdpNatConn} (hfinished : conn.closeOnce = .finished → conn.done = true)
    (hclosedFor : ∀ cookie, conn.closedFor = some cookie → c.shared.Keyed id cookie)
    (hclosing : ∀ id', a.closing = some id' → id' = id ∧ (conn.done = true ∨ ∃ b ∈ pushed, b.closing = some id) := by
      exact fun _ hc => by cases hc)
    (hpushed : ∀ b ∈ pushed, (c.shared.setConn id conn).InstrGood b := by simp [InstrGood])
    (hreturn : ∀ cookie before, .releaseReturn cookie before ∉ pushed := by simp)
    (hkey : conn.key = (c.shared.conns id).key := by rfl) : Effect c a (c.shared.setConn id conn) pushed where
  registered id' hid' := .inl hid'
  index id' _ hl := .inl hl
  closing id' ha := by
    obtain ⟨rfl, hd | hb⟩ := hclosing id' ha
    · exact .inl (by simpa [UdpNatService.setConn] using hd)
    · exact .inr hb
  finished id' hid' hf := by
    by_cases heq : id' = id
    · subst heq
      simp only [UdpNatService.setConn, Function.update_self] at hf ⊢
      exact hfinished hf
    · simp only [UdpNatService.setConn, Function.update_of_ne heq] at hf ⊢
      exact h.finished id' hid' hf
  closedFor id' hid' cookie hcookie := by
    by_cases heq : id' = id
    · subst heq
      simp only [Keyed, UdpNatService.setConn, Function.update_self, hkey] at hcookie ⊢
      exact hclosedFor cookie hcookie
    · simp only [Keyed, UdpNatService.setConn, Function.update_of_ne heq] at hcookie ⊢
      exact h.closedFor id' hid' cookie hcookie
  instrs := hpushed
  returns l rest cookie before heq := absurd (by rw [heq]; simp) (hreturn cookie before)
  releases r hr := .inl hr
  closed := h.closed

lemma Effect.goOn {b : Instr} (hgood : s.InstrGood b)
    (hindex : ∀ id ∈ c.shared.registered,
      c.shared.releaseConnections.lookup (c.shared.conns id).key.socketCookie = some id →
      s.releaseConnections.lookup (c.shared.conns id).key.socketCookie = some id ∨ b.closing = some id := by
        exact fun _ _ hl => .inl hl)
    (hconns : ∀ id, (s.conns id).core = (c.shared.conns id).core := by exact fun _ => rfl)
    (hnext : s.next = c.shared.next := by rfl)
    (hsame : (s.registered, s.releases, s.closed) = (c.shared.registered, c.shared.releases, c.shared.closed) := by rfl)
    (hclosing : a.closing = b.closing := by rfl) (hreturn : ∀ cookie before, .releaseReturn cookie before ∉ [b] := by
      simp) : Effect c a s [b] :=
  .kept h (fun _ ha => ⟨b, mem_singleton_self b, hclosing ▸ ha⟩) (forall_mem_singleton.2 hgood) hreturn
    (fun id hid => .inl ⟨hnext ▸ hid, hconns id⟩)
    (fun id hid hl => (hindex id hid hl).imp_right fun hb => ⟨b, mem_singleton_self b, hb⟩) hsame

lemma execClose_effect (hi : c.pc i = a :: rest) (hexec : execClose c a = some (s, pushed)) :
    Effect c a s pushed := by
  have hids := h.valid.instrs.head hi
  have hgood := h.instrs.head hi
  cases a <;> simp only [execClose, reduceCtorEq] at hexec
  case evicted id =>
    cases hexec
    exact .same h
  case close id cookie =>
    have hid := hids id (by simp)
    split at hexec
    next hfresh =>
      cases hexec
      refine .setConn h (fun hf => by cases hf) (h.closedFor id hid) (fun id' hc => ?_) ?_
      · cases cookie with
        | none => cases hc
        | some k =>
          cases hc
          exact ⟨rfl, .inr ⟨_, mem_singleton_self _, rfl⟩⟩
      intro b hb
      obtain rfl := mem_singleton.1 hb
      refine InstrGood.later (a := .close id cookie) (.setConn rfl (fun hd => hd) fun hf => ?_) hids hgood
      rw [hfresh] at hf
      cases hf
    · cases hexec
    next hfinished =>
      cases hexec
      have hsame : Effect c (.close id none) c.shared [] := .same h
      refine { hsame with closing := fun id' hc => .inl ?_, releases := fun r hr => .inl hr }
      cases cookie with
      | none => cases hc
      | some k =>
        cases hc
        exact h.finished id hid hfinished
  case closeUnregister id cookie =>
    cases hexec
    have hgood' := InstrGood.later (.unregister c.shared id) hids hgood
    obtain heq | ⟨hindexed, heq⟩ := unregister_cases c.shared id <;> rw [heq] at hgood' ⊢
    · exact .goOn h hgood'
    refine .goOn h hgood' fun id' _ hl' => ?_
    by_cases hcookie : (c.shared.conns id').key.socketCookie = (c.shared.conns id).key.socketCookie
    · rw [hcookie, hindexed] at hl'
      exact .inr hl'
    · exact .inl ((AList.lookup_erase_ne hcookie).trans hl')
  case closeLock id cookie =>
    split at hexec <;> cases hexec
    exact .goOn h hgood
  case closeDrain id cookie =>
    have hid := hids id (by simp)
    split at hexec
    next b s' hpop =>
      have hcore := core_pop hpop
      cases hexec
      have hindex : s'.releaseConnections = c.shared.releaseConnections := congrArg (·.releaseConnections) hcore
      refine .goOn h (InstrGood.later (.core hcore) hids hgood) (fun _ _ hl => .inl ?_) (core_conn hcore)
        (congrArg (·.next) hcore) (congrArg (fun s => (s.registered, s.releases, s.closed)) hcore)
      exact (congrArg (AList.lookup _) hindex).trans hl
    · cases hexec
      refine .setConn h (fun _ => rfl) hgood (fun id' hc => ?_) ?_
      · cases hc
        exact ⟨rfl, .inl rfl⟩
      · simp [InstrGood, setConn]
  case closeReturn id =>
    cases hexec
    exact .setConn h (fun _ => hgood) (h.closedFor id (hids id (by simp)))
  case handleClose id fromCache =>
    have hid := hids id (by simp)
    split at hexec
    · cases hexec
      exact .setConn h (h.finished id hid) (h.closedFor id hid)
    · cases hexec
    · cases hexec
      exact .same h
  case onClose id fromCache =>
    cases hexec
    have hid := hids id (by simp)
    exact .setConn h (h.finished id hid) (h.closedFor id hid)

/-- With nobody on the way from the index, every registered session of the cookie is closed or is the one there. -/
lemma NatConfig.Releases.ended_take (hbefore : before ⊆ c.shared.registered)
    (hu : ∀ id ∈ c.shared.registered, c.shared.Keyed id cookie → (c.shared.conns id).done = true ∨
      ∀ j, ∀ a ∈ c.pc j, a.closing ≠ some id)
    (hindex : ∀ id, c.shared.releaseConnections.lookup cookie = some id → ∃ b ∈ l, b.closing = some id) :
    c.shared.Ended cookie before l := by
  intro id hid hkeyed
  obtain hd | hlookup | ⟨j, a, ha, hclosing⟩ := h.tracked id (hbefore hid)
  · exact .inl hd
  · exact .inr (hindex id (hkeyed.2 ▸ hlookup))
  obtain hd | hnone := hu id (hbefore hid) hkeyed
  · exact .inl hd
  · exact absurd hclosing (hnone j a ha)

lemma releaseSocket_effect (hexec : execService locked c (.releaseSocket cookie) x = some (s, pushed)) :
    Effect c (.releaseSocket cookie) s pushed := by
  have hsame : Effect c (.releaseSocket cookie) c.shared [] := .same h
  simp only [execService] at hexec
  split at hexec
  next hzero =>
    cases hexec
    rw [h.closed, Bool.or_false, decide_eq_true_eq] at hzero
    refine { hsame with
      index := fun id _ hl => .inl hl
      closing := fun id hc => by cases hc
      instrs := by simp [InstrGood]
      returns := fun l rest cookie' before heq => ?_ }
    cases l with
    | nil =>
      cases heq
      -- no session is registered without a cookie
      intro id hid hkeyed
      have hrel := hkeyed.1
      simp [UdpSessionKey.releasable, hkeyed.2, hzero] at hrel
    | cons b l => simp at heq
  · cases hexec
    refine { hsame with
      index := fun id _ hl => .inl hl
      closing := fun id hc => by cases hc
      instrs := by simp [InstrGood]
      returns := fun l rest cookie' before heq => ?_ }
    have hmem : Instr.releaseReturn cookie' before ∈ [Instr.releaseTake cookie c.shared.registered] := by
      rw [heq]; simp
    simp at hmem

lemma releaseTake_effect (hi : c.pc i = .releaseTake cookie before :: rest) (hu : c.Undisturbed (i, .next x))
    (hexec : execService locked c (.releaseTake cookie before) x = some (s, pushed)) :
    Effect c (.releaseTake cookie before) s pushed := by
  have hu : ∀ id ∈ c.shared.registered, c.shared.Keyed id cookie → (c.shared.conns id).done = true ∨
      ∀ j, ∀ a ∈ c.pc j, a.closing ≠ some id := by simpa [NatConfig.Undisturbed, hi] using hu
  have hbefore : before ⊆ c.shared.registered := h.instrs.head hi
  simp only [execService] at hexec
  split at hexec
  next id hindex =>
    cases hexec
    have hkeyed := (h.valid.service.index cookie id hindex).2
    refine ⟨fun _ hid => .inl hid, fun id' hid' hl => ?_, (fun _ hc => by cases hc), h.finished, h.closedFor, ?_,
      fun l rest cookie' before' heq => ?_, fun r hr => .inl hr, h.closed⟩
    · by_cases hcookie : (c.shared.conns id').key.socketCookie = cookie
      · rw [hcookie, hindex] at hl
        exact .inr (.inr ⟨_, mem_cons_self, hl⟩)
      · exact .inl ((AList.lookup_erase_ne hcookie).trans hl)
    · simpa [InstrGood] using ⟨hkeyed, hbefore⟩
    obtain ⟨rfl, hreturn⟩ : l = [.close id (some cookie)] ∧
        Instr.releaseReturn cookie' before' = .releaseReturn cookie before := by
      cases l with
      | nil => cases heq
      | cons b l =>
        obtain ⟨rfl, htail⟩ := cons.inj heq
        cases l with
        | nil => exact ⟨rfl, (cons.inj htail).1.symm⟩
        | cons b l => simp at htail
    cases hreturn
    exact h.ended_take hbefore hu fun id' hid' => ⟨_, mem_cons_self, (hindex.symm.trans hid')⟩
  next hindex =>
    cases hexec
    obtain ⟨pending, heq⟩ := addPending_eq c.shared cookie x.now
    rw [heq]
    refine ⟨fun _ hid => .inl hid, fun _ _ hl => .inl hl, (fun _ hc => by cases hc), h.finished, h.closedFor, ?_,
      fun l rest cookie' before' heq => ?_, fun r hr => .inl hr, h.closed⟩
    · simpa [InstrGood] using hbefore
    · cases l with
      | nil =>
        cases heq
        exact h.ended_take hbefore hu fun id hid => by rw [hindex] at hid; cases hid
      | cons b l => simp at heq

lemma execService_effect (hi : c.pc i = a :: rest) (hu : c.Undisturbed (i, .next x))
    (hexec : execService locked c a x = some (s, pushed)) : Effect c a s pushed := by
  have hgood := h.instrs.head hi
  have hservice := hexec
  cases a <;> simp only [execService, reduceCtorEq] at hexec
  case releaseSocket cookie => exact releaseSocket_effect h hservice
  case releaseTake cookie before => exact releaseTake_effect h hi hu hservice
  case releaseReturn cookie before =>
    cases hexec
    have hsame : Effect c (.releaseReturn cookie before) c.shared [] := .same h
    refine { hsame with releases := fun r hr => ?_ }
    obtain rfl | hr := mem_cons.1 hr
    · exact .inr rfl
    · exact .inl hr
  case serviceClose | serviceStore | serviceWait | servicePurge | serviceClear => exact hgood.elim
  case cleanupRemove | evict | purge =>
    split at hexec <;> cases hexec
    exact .same h rfl evict_plain
  all_goals
    repeat' split at hexec
    all_goals cases hexec
    all_goals exact .same h

end

lemma NatConfig.releases_init : (NatConfig.init : NatConfig n).Releases where
  valid := NatConfig.valid_init
  registered _ h := nomatch h
  tracked _ h := nomatch h
  finished _ h := nomatch h
  closedFor _ h := nomatch h
  instrs _ _ h := nomatch h
  returns j l rest cookie before h := by simp [NatConfig.init] at h
  releases _ h := nomatch h
  before _ h := nomatch h
  closed := rfl

lemma NatConfig.Releases.start (h : c.Releases) {op : NatOp} (hi : c.pc i = []) (hop : op ≠ .serviceClose)
    (hv : NatConfig.Valid (c.move i (s, l))) (hstart : op.start c.shared = some (s, l)) :
    NatConfig.Releases (c.move i (s, l)) := by
  obtain ⟨⟨b, rfl⟩, hplain⟩ : (∃ b, s = { c.shared with nextBuffer := b }) ∧ ∀ b ∈ l, b.plain = true := by
    cases op <;> simp only [NatOp.start, onConn] at hstart
    case serviceClose => exact absurd rfl hop
    all_goals
      repeat' split at hstart
      all_goals cases hstart
      all_goals exact ⟨⟨_, rfl⟩, by simp⟩
  exact {
    valid := hv
    __ := h
    tracked := fun id hid => (h.tracked id hid).imp_right (.imp_right fun hany => hany.start hi)
    instrs := h.instrs.start (fun b hb => hb) fun b hb => .plain (hplain b hb)
    returns := Config.forall_move (Q := fun stack => ∀ l rest cookie before,
        stack = l ++ .releaseReturn cookie before :: rest → c.shared.Ended cookie before l)
      (fun l' rest cookie before heq => by
        cases hplain (.releaseReturn cookie before) (by rw [heq]; simp))
      fun j _ => h.returns j }

lemma NatConfig.Releases.step {c' : NatConfig n} {e : Fin n × NatAction} (h : c.Releases) (hu : c.Undisturbed e)
    (hs : natStep locked c e = some c') : NatConfig.Releases c' := by
  obtain ⟨i, act⟩ := e
  obtain ⟨s, l, hstepped, rfl⟩ := natStep_cases hs
  obtain ⟨hl, hv⟩ := hstepped.later_valid h.valid
  cases hstepped with
  | start hi hstart => exact h.start hi hu hv hstart
  | connection hi hexec => exact h.move hi hl hv (execConnection_effect h hi hu hexec)
  | packet hi hexec => exact h.move hi hl hv (execPacket_effect h hexec)
  | close hi hexec => exact h.move hi hl hv (execClose_effect h hi hexec)
  | service hi hexec => exact h.move hi hl hv (execService_effect h hi hu hexec)

/-- In every run whose steps are undisturbed a finished `ReleaseSocket` has ended all sessions of its cookie that were
registered before it, and it has ended no other ones. -/
theorem release_socket_ends_sessions (locked : Bool) (es : List (Fin n × NatAction)) (c : NatConfig n)
    (hu : Along (natStep locked) NatConfig.Undisturbed NatConfig.init es)
    (hrun : run (natStep locked) NatConfig.init es = some c) :
    (∀ r ∈ c.shared.releases, ∀ id ∈ r.2, (c.shared.conns id).key.scope = .localCgroup →
      (c.shared.conns id).key.socketCookie = r.1 → (c.shared.conns id).done = true) ∧
    ∀ id < c.shared.next, ∀ cookie, (c.shared.conns id).closedFor = some cookie →
      (c.shared.conns id).key.scope = .localCgroup ∧ (c.shared.conns id).key.socketCookie = cookie := by
  have h : NatConfig.Releases c :=
    run_inv (fun _ _ _ hg hu hs => NatConfig.Releases.step hg hu hs) NatConfig.releases_init hu hrun
  refine ⟨fun r hr id hid _ hcookie => ?_, fun id hid cookie hclosed => ?_⟩
  · have hrel := (h.registered id (h.before r hr hid)).2
    obtain hd | ⟨b, hb, -⟩ := h.releases r hr id hid ⟨hrel, hcookie⟩
    · exact hd
    · cases hb
  · obtain ⟨hrel, hcookie⟩ := h.closedFor id hid cookie hclosed
    simp only [UdpSessionKey.releasable, Bool.and_eq_true, beq_iff_eq] at hrel
    exact ⟨hrel.1, hcookie⟩

end

def packetFrom (source : AddrPort) (cookie : Nat := 42) : List (Fin 1 × NatAction) :=
  (alone, .start (.newPacket ⟨source, .localCgroup, cookie, 0⟩)) :: replicate 9 (alone, .next {})

def releaseOf (cookie steps : Nat) : List (Fin 1 × NatAction) :=
  (alone, .start (.releaseSocket cookie)) :: replicate steps (alone, .next {})

/-- The sessions of two sockets, of which one is released. -/
def twoSockets : List (Fin 1 × NatAction) :=
  packetFrom ⟨.v4 0xc000020a#32, 53000⟩ ++ packetFrom ⟨.v4 0xc000020a#32, 53001⟩ 43 ++ releaseOf 42 9

theorem release_socket_ends_sessions_two : ∃ c : NatConfig 1, run (natStep true) NatConfig.init twoSockets = some c ∧
    (42, [1, 0]) ∈ c.shared.releases ∧ (c.shared.conns 0).done = true ∧ (c.shared.conns 1).done = false := by
  have hrun : run (natStep true) NatConfig.init twoSockets = some _ := rfl
  refine ⟨_, hrun, by decide +kernel, ?_, by decide +kernel⟩
  exact (release_socket_ends_sessions true _ _ (by decide +kernel) hrun).1 (42, [1, 0]) (by decide +kernel) 0
    (by decide +kernel) rfl rfl

/-- Two sessions of one socket with different source addresses: the release of the socket ends the second only. -/
theorem release_socket_leaves_session : ∃ (es : List (Fin 1 × NatAction)) (c : NatConfig 1),
    run (natStep true) NatConfig.init es = some c ∧ (∀ i, c.pc i = []) ∧ (42, [1, 0]) ∈ c.shared.releases ∧
    (c.shared.conns 0).key.scope = .localCgroup ∧ (c.shared.conns 0).key.socketCookie = 42 ∧
    (c.shared.conns 0).done = false ∧ (c.shared.conns 1).done = true := by
  refine ⟨packetFrom ⟨.v4 0xc000020a#32, 53000⟩ ++ packetFrom ⟨.v4 0xc633640a#32, 53000⟩ ++ releaseOf 42 9, _, rfl, ?_⟩
  decide +kernel

end SingBox.Ebpf
