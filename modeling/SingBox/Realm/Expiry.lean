import Mathlib.Order.Nat
import SingBox.Lib.Machine
/-!
# Expiry of realms

A realm session has a timer for its deadline, which a heartbeat moves. The callback
of the timer removes the session only if the clock is past the deadline, and it does
not arm the timer again. A session is its place in `heap`.
-/
namespace SingBox.Realm
open Function Machine

/-- One minute, in seconds. -/
def sessionTTL : Nat := 60

/-- `timer` is the time it is armed for, and `callbacks` counts those that are started and not finished. -/
structure RealmSession where
  realmID : String
  expires : Nat
  timer : Option Nat
  callbacks : Nat := 0
  closed : Bool := false

/-- `authorized` are the sessions that `authSession` let a request in for. -/
structure Server where
  now : Nat := 0
  realms : String → Option Nat := fun _ => none
  heap : List RealmSession := []
  authorized : List Nat := []

/-- What a request or the timer does with a session. -/
inductive Action
  | authSession (realm : String)
  | deregister
  | heartbeat (delay : Nat)
  | fire
  | callback

inductive Event
  | tick (delay : Nat)
  | register (realm : String) (allowed : Bool) (delay : Nat)
  | act (p : Nat) (a : Action)

namespace Server
variable (s : Server) (p : Nat) (sess : RealmSession) (delay : Nat)

def removeSessionLocked : Server :=
  if sess.closed then s else
    { s with
      realms := if s.realms sess.realmID = some p then update s.realms sess.realmID none else s.realms
      heap := s.heap.set p { sess with closed := true, timer := none } }

def removeExpiredSession : Server :=
  if sess.closed || !(sess.expires < s.now) then s else s.removeSessionLocked p sess

/-- `allowed` is whether the user may have one more realm. The clock may go on between its reading for `expires` and
the start of the timer. -/
def handleRegister (realm : String) (allowed : Bool) : Server :=
  if (s.realms realm).isSome || !allowed then s else
    { s with
      realms := update s.realms realm (some s.heap.length)
      heap := s.heap ++
        [{ realmID := realm, expires := s.now + sessionTTL, timer := some (s.now + delay + sessionTTL) }]
      now := s.now + delay }

def handleHeartbeat : Server :=
  { s with
    heap := s.heap.set p { sess with expires := s.now + sessionTTL, timer := some (s.now + delay + sessionTTL) }
    now := s.now + delay }

/-- A handler works on the session it was let in for, which may be closed by then. -/
def act : Action → Option Server
  | .authSession realm =>
    if sess.closed || sess.expires < s.now || sess.realmID != realm then some s
    else some { s with authorized := p :: s.authorized }
  | .deregister => if p ∈ s.authorized then some (s.removeSessionLocked p sess) else none
  | .heartbeat delay => if p ∈ s.authorized then some (s.handleHeartbeat p sess delay) else none
  | .fire =>
    if ∃ due ∈ sess.timer, due ≤ s.now then
      some { s with heap := s.heap.set p { sess with timer := none, callbacks := sess.callbacks + 1 } }
    else none
  | .callback =>
    let sess' := { sess with callbacks := sess.callbacks - 1 }
    if sess.callbacks = 0 then none
    else some ({ s with heap := s.heap.set p sess' }.removeExpiredSession p sess')

def step : Event → Option Server
  | .tick delay => some { s with now := s.now + delay }
  | .register realm allowed delay => some (s.handleRegister delay realm allowed)
  | .act p a => s.heap[p]?.bind (s.act p · a)

/-- No callback reads the clock at the very deadline. -/
def strict : Event → Bool
  | .act p .callback => s.heap[p]?.all (·.expires != s.now)
  | _ => true

end Server

open Server

/-- A timer is armed for the deadline or later, or a callback has started since. -/
def Timed (now : Nat) (sess : RealmSession) : Prop :=
  sess.closed = true ∨ (∃ due ∈ sess.timer, sess.expires ≤ due) ∨ 0 < sess.callbacks ∧ sess.expires ≤ now

section
variable {s s' : Server} {sess : RealmSession} {p now : Nat}

lemma Timed.mono (h : Timed s.now sess) (hle : s.now ≤ now) : Timed now sess := by
  obtain h | h | ⟨hstarted, hpast⟩ := h
  · exact .inl h
  · exact .inr (.inl h)
  · exact .inr (.inr ⟨hstarted, hpast.trans hle⟩)

variable (h : ∀ sess ∈ s.heap, Timed s.now sess)
include h

lemma timed_set (hle : s.now ≤ now) (hsess : Timed now sess) : ∀ x ∈ s.heap.set p sess, Timed now x := by
  intro x hx
  rcases List.mem_or_eq_of_mem_set hx with hx | rfl
  · exact (h x hx).mono hle
  · exact hsess

lemma timed_callback (hsess : Timed s.now sess) (hstrict : sess.expires ≠ s.now)
    (hs : s.act p sess .callback = some s') : ∀ x ∈ s'.heap, Timed s'.now x := by
  simp only [act] at hs
  split at hs <;> cases hs
  unfold removeExpiredSession
  split
  next hkept =>
    refine timed_set h le_rfl ?_
    obtain hclosed | harmed | ⟨-, hpast⟩ := hsess
    · exact .inl hclosed
    · exact .inr (.inl harmed)
    -- past the deadline only a closed session is kept
    have hover : sess.expires < s.now := lt_of_le_of_ne hpast hstrict
    exact .inl (by simpa [hover] using hkept)
  next hgone =>
    have hopen : ¬sess.closed = true := fun hclosed => hgone (by simp [hclosed])
    rw [removeSessionLocked, if_neg hopen]
    simp only [List.set_set]
    exact timed_set h le_rfl (.inl rfl)

lemma timed_act {a : Action} (hsess : Timed s.now sess) (hstrict : a = .callback → sess.expires ≠ s.now)
    (hs : s.act p sess a = some s') : ∀ x ∈ s'.heap, Timed s'.now x := by
  cases a with
  | authSession realm =>
    simp only [act] at hs
    split at hs <;> cases hs <;> exact h
  | deregister =>
    simp only [act] at hs
    split at hs <;> cases hs
    unfold removeSessionLocked
    split
    · exact h
    · exact timed_set h le_rfl (.inl rfl)
  | heartbeat delay =>
    simp only [act] at hs
    split at hs <;> cases hs
    exact timed_set h (Nat.le_add_right ..) (.inr (.inl ⟨_, rfl, Nat.add_le_add_right (Nat.le_add_right ..) _⟩))
  | fire =>
    simp only [act] at hs
    split at hs <;> cases hs
    next hdue =>
    obtain ⟨due, htimer, hdue⟩ := hdue
    refine timed_set h le_rfl ?_
    obtain hclosed | ⟨due', htimer', hle⟩ | ⟨-, hpast⟩ := hsess
    · exact .inl hclosed
    · rw [Option.mem_unique htimer' htimer] at hle
      exact .inr (.inr ⟨Nat.succ_pos _, hle.trans hdue⟩)
    · exact .inr (.inr ⟨Nat.succ_pos _, hpast⟩)
  | callback => exact timed_callback h hsess (hstrict rfl) hs

lemma timed_step {e : Event} (he : s.strict e = true) (hs : s.step e = some s') :
    ∀ sess ∈ s'.heap, Timed s'.now sess := by
  cases e with
  | tick delay =>
    cases hs
    exact fun sess hsess => (h sess hsess).mono (Nat.le_add_right ..)
  | register realm allowed delay =>
    cases hs
    unfold handleRegister
    split
    · exact h
    refine List.forall_mem_append.2 ⟨fun sess hsess => (h sess hsess).mono (Nat.le_add_right ..), ?_⟩
    rintro _ (_ | ⟨_, ⟨⟩⟩)
    exact .inr (.inl ⟨_, rfl, Nat.add_le_add_right (Nat.le_add_right ..) _⟩)
  | act p a =>
    obtain ⟨sess, hsess, hs⟩ := Option.bind_eq_some_iff.1 hs
    refine timed_act h (h sess (List.mem_of_getElem? hsess)) ?_ hs
    rintro rfl
    simpa [strict, hsess] using he

end

/-- If no callback reads the clock at the very deadline, every open session has an armed timer or a callback that is
not finished. -/
theorem expired_realm_reclaimed (es : List Event) (s : Server) (hstrict : Along step (strict · · = true) {} es)
    (hrun : run step {} es = some s) (sess : RealmSession) (hsess : sess ∈ s.heap) (hopen : sess.closed = false) :
    sess.timer.isSome = true ∨ 0 < sess.callbacks := by
  have hinv : ∀ sess ∈ s.heap, Timed s.now sess :=
    run_inv (I := fun s => ∀ sess ∈ s.heap, Timed s.now sess) (fun _ _ _ h => timed_step h) (by simp) hstrict hrun
  obtain hclosed | ⟨due, hdue, -⟩ | ⟨hstarted, -⟩ := hinv sess hsess
  · rw [hopen] at hclosed
    cases hclosed
  · exact .inl (Option.isSome_iff_exists.2 ⟨due, hdue⟩)
  · exact .inr hstarted

/-- A heartbeat comes between the timer and its callback. -/
def beatRun : List Event :=
  [.register "a" true 0, .act 0 (.authSession "a"), .tick 60, .act 0 .fire, .act 0 (.heartbeat 1), .act 0 .callback]

theorem expired_realm_reclaimed_beat :
    ∃ s sess, run step {} beatRun = some s ∧ sess ∈ s.heap ∧ (sess.timer.isSome = true ∨ 0 < sess.callbacks) :=
  ⟨_, _, rfl, .head _, expired_realm_reclaimed beatRun _ (by decide) rfl _ (.head _) rfl⟩

/-- The callback runs at the very deadline. -/
theorem expired_realm_kept : ∃ s sess, run step {} [.register "a" true 0, .tick 60, .act 0 .fire, .act 0 .callback] =
    some s ∧ s.realms "a" = some 0 ∧ s.heap = [sess] ∧ sess.closed = false ∧ sess.timer = none ∧ sess.callbacks = 0 :=
  ⟨_, _, rfl, rfl, rfl, rfl, rfl, rfl⟩

end SingBox.Realm
