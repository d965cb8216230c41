import SingBox.Lib.Lists
import SingBox.Lib.Threads
/-!
# Shared references to an HTTP transport

Each `sharedRef` has an idle flag, and all refs on a transport count the active
ones in `activeRefs`. A call changes the flag and the counter in two steps, so
the counter can lag behind the flags.
-/
namespace SingBox.HttpClient
open Threads Machine

/-- The flags of all refs and their counter. `clock` and `lastIdle` are history: the number of steps so far, and the
last instant at which every ref was idle. -/
structure SharedRefs where
  idle : List Bool := []
  activeRefs : Int := 0
  clock : Nat := 0
  lastIdle : Nat := 0

def SharedRefs.tick (s : SharedRefs) : SharedRefs :=
  { s with clock := s.clock + 1, lastIdle := if s.idle.all id then s.clock + 1 else s.lastIdle }

/-- The next step of a call on ref `ref`. Calls of `CloseIdleConnections` know when they started. -/
inductive RefPlace
  | idle
  | roundTrip (ref : Nat)
  | addActive
  | request
  | closeIdle (ref started : Nat)
  | subActive (started : Nat)
  | release (started : Nat)
  deriving DecidableEq

inductive RefAction
  | newSharedRef
  | roundTrip (ref : Nat)
  | closeIdleConnections (ref : Nat)
  | next

/-- One step of a goroutine at a place. -/
def SharedRefs.act (s : SharedRefs) : RefPlace → RefAction → Option (SharedRefs × RefPlace)
  | .idle, .newSharedRef => some ({ s with idle := s.idle ++ [false], activeRefs := s.activeRefs + 1 }, .idle)
  | .idle, .roundTrip ref => if ref < s.idle.length then some (s, .roundTrip ref) else none
  | .idle, .closeIdleConnections ref =>
    if ref < s.idle.length then some (s, .closeIdle ref (s.clock + 1)) else none
  | .roundTrip ref, .next =>
    if s.idle[ref]? = some true then some ({ s with idle := s.idle.set ref false }, .addActive) else some (s, .request)
  | .addActive, .next => some ({ s with activeRefs := s.activeRefs + 1 }, .request)
  | .request, .next => some (s, .idle)
  | .closeIdle ref started, .next =>
    if s.idle[ref]? = some false then some ({ s with idle := s.idle.set ref true }, .subActive started)
    else some (s, .idle)
  | .subActive started, .next =>
    some ({ s with activeRefs := s.activeRefs - 1 }, if s.activeRefs - 1 = 0 then .release started else .idle)
  | .release _, .next => some (s, .idle)
  | _, _ => none

abbrev RefConfig (n : Nat) := Config SharedRefs RefPlace n

variable {n : Nat}

def refStep : RefConfig n → Fin n × RefAction → Option (RefConfig n) :=
  step fun c i a => (c.shared.act (c.pc i) a).map fun r => (r.1.tick, r.2)

def RefConfig.init : RefConfig n := ⟨{}, fun _ => .idle⟩

def RefPlace.adds : RefPlace → Int
  | .addActive => 1
  | _ => 0

def RefPlace.subs : RefPlace → Int
  | .subActive _ => 1
  | _ => 0

open RefPlace SharedRefs

lemma RefPlace.subs_nonneg (p : RefPlace) : 0 ≤ p.subs := by cases p <;> simp [subs]

def RefPlace.started : RefPlace → Option Nat
  | .closeIdle _ started | .subActive started | .release started => some started
  | _ => none

def SharedRefs.active (s : SharedRefs) : Nat := s.idle.countP (!·)

/-- No `RoundTrip` stands between its two steps when a `CloseIdleConnections` takes its second one. -/
def RefConfig.Settled (c : RefConfig n) (e : Fin n × RefAction) : Prop :=
  (c.pc e.1).subs = 1 → ∀ j, c.pc j ≠ .addActive

instance (c : RefConfig n) (e : Fin n × RefAction) : Decidable (RefConfig.Settled c e) :=
  inferInstanceAs (Decidable (_ → _))

section
variable {c c' : RefConfig n} {i : Fin n} {a : RefAction} {s : SharedRefs} {p : RefPlace}

/-- A step changes the counter, or it changes a flag and comes to the place before the change of the counter. -/
lemma SharedRefs.act_spec {s₀ : SharedRefs} {q : RefPlace} (h : s₀.act q a = some (s, p)) :
    s.activeRefs + p.adds - p.subs - s.active = s₀.activeRefs + q.adds - q.subs - s₀.active ∧
    (s.clock = s₀.clock ∧ s.lastIdle = s₀.lastIdle) ∧
    (∀ t, p.started = some t → q.started = some t ∨ t = s₀.clock + 1) ∧
    ∀ t, p = .release t → q = .subActive t ∧ s.activeRefs = 0 := by
  cases q <;> cases a <;> simp only [act, reduceCtorEq] at h
  case roundTrip.next ref =>
    split at h <;> cases h
    next hidle =>
      have := Lists.countP_set_add (b := false) hidle (!·)
      simp [RefPlace.adds, RefPlace.subs, RefPlace.started, active] at this ⊢
      omega
    · simp [RefPlace.adds, RefPlace.subs, RefPlace.started]
  case closeIdle.next ref started =>
    split at h <;> cases h
    next hidle =>
      have := Lists.countP_set_add (b := true) hidle (!·)
      simp [RefPlace.adds, RefPlace.subs, RefPlace.started, active] at this ⊢
      omega
    · simp [RefPlace.adds, RefPlace.subs, RefPlace.started]
  case subActive.next started =>
    cases h
    split <;> simp_all [RefPlace.adds, RefPlace.subs, RefPlace.started, active]
  all_goals
    repeat' split at h
    all_goals cases h
    all_goals simp [RefPlace.adds, RefPlace.subs, RefPlace.started, active]

section
variable {e : Fin n × RefAction}

lemma refStep_cases (h : refStep c e = some c') :
    ∃ s p, c.shared.act (c.pc e.1) e.2 = some (s, p) ∧ c' = c.move e.1 (s.tick, p) := by
  obtain ⟨_, _, hmap, rfl⟩ := step_cases h
  obtain ⟨⟨s, p⟩, hact, heq⟩ := Option.map_eq_some_iff.1 hmap
  cases heq
  exact ⟨s, p, hact, rfl⟩

/-- The counter differs from the flags by the calls between their two steps. -/
def RefConfig.Counted (c : RefConfig n) : Prop :=
  c.shared.activeRefs + ∑ j, (c.pc j).adds - ∑ j, (c.pc j).subs = c.shared.active

lemma RefConfig.Counted.step (h : c.Counted) (hs : refStep c e = some c') : RefConfig.Counted c' := by
  obtain ⟨s, p, hact, rfl⟩ := refStep_cases hs
  have hspec := (act_spec hact).1
  have hadds := c.sum_move adds e.1 (s.tick, p)
  have hsubs := c.sum_move subs e.1 (s.tick, p)
  unfold Counted at h ⊢
  dsimp only [Config.move_shared, tick, active] at *
  omega

/-- Calls know when they started, and those that release the transport have seen every ref idle since. -/
structure RefConfig.Seen (c : RefConfig n) : Prop where
  counted : c.Counted
  started : ∀ j t, (c.pc j).started = some t → t ≤ c.shared.clock
  released : ∀ j t, c.pc j = .release t → t ≤ c.shared.lastIdle
  past : c.shared.lastIdle ≤ c.shared.clock

lemma RefConfig.Seen.step (h : c.Seen) (hc : RefConfig.Settled c e)
    (hs : refStep c e = some c') : RefConfig.Seen c' := by
  have hcounted := h.counted.step hs
  obtain ⟨s, p, hact, rfl⟩ := refStep_cases hs
  obtain ⟨-, ⟨hclock, hlast⟩, hstarted, hrelease⟩ := act_spec hact
  have hmono : c.shared.lastIdle ≤ s.tick.lastIdle ∧ s.tick.lastIdle ≤ s.clock + 1 := by
    have := h.past
    unfold tick
    dsimp only
    split <;> omega
  have hclock' : s.tick.clock = c.shared.clock + 1 := congrArg (· + 1) hclock
  refine ⟨hcounted, Config.forall_move (Q := fun p : RefPlace => ∀ t, p.started = some t → t ≤ s.tick.clock) ?_ ?_,
    Config.forall_move (Q := fun p : RefPlace => ∀ t, p = .release t → t ≤ s.tick.lastIdle) ?_ ?_, ?_⟩
  · intro t ht
    rcases hstarted t ht with ht | rfl
    · have := h.started e.1 t ht
      omega
    · omega
  · intro j _ t ht
    have := h.started j t ht
    omega
  · -- the counter has come to 0 and no call is behind with adding to it, so every flag is up
    intro t ht
    obtain ⟨hpc, hzero⟩ := hrelease t ht
    have hadds : ∀ j, ((c.move e.1 (s.tick, p)).pc j).adds = 0 :=
      Config.forall_move (Q := fun p : RefPlace => p.adds = 0) (ht ▸ rfl) fun j _ => by
        have := hc (hpc ▸ rfl) j
        cases hj : c.pc j <;> first | rfl | exact absurd hj this
    have hsubs := Finset.sum_nonneg fun j (_ : j ∈ Finset.univ) => ((c.move e.1 (s.tick, p)).pc j).subs_nonneg
    unfold RefConfig.Counted at hcounted
    rw [Finset.sum_eq_zero fun j _ => hadds j, show (c.move e.1 (s.tick, p)).shared.activeRefs = 0 from hzero] at hcounted
    have hnone : s.active = 0 := by
      change _ = (s.active : Int) at hcounted
      omega
    have hidle : s.idle.all id = true :=
      List.all_eq_true.2 fun b hb => by simpa using List.countP_eq_zero.1 hnone b hb
    have := h.started e.1 t (hpc ▸ rfl)
    unfold tick
    dsimp only
    rw [if_pos hidle]
    omega
  · intro j _ t ht
    exact Nat.le_trans (h.released j t ht) hmono.1
  · dsimp only [Config.move_shared]
    omega

end

/-- A call releases the transport only after an instant of it at which every ref was idle, if no `RoundTrip` stands
between its two steps when a `CloseIdleConnections` takes its second one. The counter is right whenever no call is
under way. -/
theorem release_when_idle (events : List (Fin n × RefAction)) (c : RefConfig n)
    (h : run refStep RefConfig.init events = some c) : (Along refStep RefConfig.Settled RefConfig.init events →
      ∀ j started, c.pc j = .release started → started ≤ c.shared.lastIdle) ∧
    ((∀ j, c.pc j = .idle) → c.shared.activeRefs = c.shared.active) := by
  have hinit : RefConfig.Counted (RefConfig.init : RefConfig n) := by
    simp [RefConfig.Counted, RefConfig.init, adds, subs, active]
  refine ⟨fun hsettled => ?_, fun hidle => ?_⟩
  · have hseen : RefConfig.Seen (RefConfig.init : RefConfig n) :=
      ⟨hinit, fun _ _ h => (by cases h), fun _ _ h => (by cases h), Nat.le.refl⟩
    exact (run_inv (fun _ _ _ h hc hs => h.step hc hs) hseen hsettled h).released
  · have hcounted := run_keeps (fun _ _ _ h hs => RefConfig.Counted.step h hs) hinit h
    simpa [RefConfig.Counted, hidle, adds, subs] using hcounted

end

/-- Two refs. The second one becomes idle, begins a request and has not added itself to the counter when the first one
becomes idle. -/
def laggingCounter : List (Fin 2 × RefAction) :=
  [(left, .newSharedRef), (left, .newSharedRef), (right, .closeIdleConnections 1), (right, .next), (right, .next),
    (right, .roundTrip 1), (right, .next), (left, .closeIdleConnections 0), (left, .next), (left, .next)]

theorem release_while_active : ∃ c, run refStep RefConfig.init laggingCounter = some c ∧ c.pc left = .release 8 ∧
    c.shared.lastIdle = 0 ∧ c.shared.idle = [true, false] := by
  refine ⟨_, rfl, ?_⟩
  decide

/-- Both refs become idle, one after the other. -/
def becomeIdle : List (Fin 1 × RefAction) :=
  [(alone, .newSharedRef), (alone, .newSharedRef), (alone, .closeIdleConnections 1), (alone, .next), (alone, .next),
    (alone, .closeIdleConnections 0), (alone, .next), (alone, .next)]

theorem release_when_idle_two : ∃ c, run refStep RefConfig.init becomeIdle = some c ∧ c.pc alone = .release 6 ∧
    6 ≤ c.shared.lastIdle :=
  ⟨_, rfl, rfl, (release_when_idle becomeIdle _ rfl).1 (by decide) alone 6 rfl⟩

end SingBox.HttpClient
