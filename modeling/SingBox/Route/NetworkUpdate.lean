import SingBox.Lib.Machine
/-!
# Network resets

A notification of the interface monitor asks for a reset of the network. Once the
manager is started it also starts `updateInterface`, which cancels the update
before it, waits for its turn, and resets the network at its end. An update that
is cancelled leaves the reset to the next one.
-/
namespace SingBox.Route
open Function Machine

/-- Where an `updateInterface` is: before `resetRunAccess`, before its first checks, in `UpdateWIFIState`, before the
lock of the flag, and in `ResetNetwork`. -/
inductive UpdatePhase
  | waiting
  | locked
  | checked
  | updated
  | resetting
  deriving DecidableEq

/-- `updates` are the running updates with the interface they are for, and `interfaces` the platform's list, if it is
asked. `sawDefault` is history: whether the last dispatch found a default interface. -/
structure NetworkManager where
  started : Bool := false
  networkResetPending : Bool := false
  defaultInterface : Option Nat := none
  interfaces : Option (List Nat) := none
  resetRunAccess : Option Nat := none
  updates : Nat → Option (Nat × UpdatePhase) := fun _ => none
  next : Nat := 0
  -- the update that `interfaceUpdateCancel` cancels
  current : Option Nat := none
  sawDefault : Bool := false

namespace NetworkManager
variable (r : NetworkManager)

def dispatchInterfaceUpdateLocked : NetworkManager :=
  match r.defaultInterface with
  | none => { r with sawDefault := false }
  | some index =>
    { r with
      sawDefault := true
      updates := update r.updates r.next (some (index, .waiting))
      current := some r.next
      next := r.next + 1 }

def notifyInterfaceUpdate : NetworkManager :=
  let r := { r with networkResetPending := true }
  if r.started then r.dispatchInterfaceUpdateLocked else r

def cancelled (id : Nat) : Bool := r.current ≠ some id

/-- The platform's list does not have the interface. -/
def missing (index : Nat) : Bool := r.interfaces.any fun interfaces => !interfaces.contains index

def enter (id index : Nat) (phase : UpdatePhase) : NetworkManager :=
  { r with updates := update r.updates id (some (index, phase)) }

def leave (id : Nat) : NetworkManager := { r with updates := update r.updates id none, resetRunAccess := none }

/-- One part of `updateInterface`. -/
def updateInterface (id index : Nat) : UpdatePhase → Option NetworkManager
  | .waiting =>
    if r.resetRunAccess = none then some { r.enter id index .locked with resetRunAccess := some id } else none
  | .locked => if r.cancelled id || r.missing index then some (r.leave id) else some (r.enter id index .checked)
  | .checked => if r.cancelled id then some (r.leave id) else some (r.enter id index .updated)
  | .updated =>
    if !r.cancelled id && r.networkResetPending then
      some { r.enter id index .resetting with networkResetPending := false }
    else some (r.leave id)
  | .resetting => some (r.leave id)

/-- A notification has seen a default interface, and its reset is forgotten. -/
def Forgotten : Prop :=
  r.started = true ∧ r.sawDefault = true ∧ r.networkResetPending = true ∧ ∀ id, r.updates id = none

end NetworkManager

open NetworkManager

inductive NetworkEvent
  | start
  | notify
  | setDefaultInterface (index : Option Nat)
  | setInterfaces (interfaces : Option (List Nat))
  | next (id : Nat)

def networkStep (r : NetworkManager) : NetworkEvent → Option NetworkManager
  | .start => if r.started then none else some { r with started := true }.dispatchInterfaceUpdateLocked
  | .notify => some r.notifyInterfaceUpdate
  | .setDefaultInterface index => some { r with defaultInterface := index }
  | .setInterfaces interfaces => some { r with interfaces }
  | .next id => (r.updates id).bind fun u => r.updateInterface id u.1 u.2

/-- The update that is not cancelled finds its interface in the platform's list. -/
def Listed (r : NetworkManager) : NetworkEvent → Prop
  | .next id => r.current = some id → ∀ u ∈ r.updates id, u.2 = .locked → r.missing u.1 = false
  | _ => True

instance (r : NetworkManager) : ∀ e, Decidable (Listed r e)
  | .next _ => inferInstanceAs (Decidable (_ → _))
  | .start | .notify | .setDefaultInterface _ | .setInterfaces _ => .isTrue trivial

/-- An update that is not cancelled will do the reset. -/
def Pending (r : NetworkManager) : Prop :=
  r.started = true → r.sawDefault = true → r.networkResetPending = true →
    ∃ id index phase, r.current = some id ∧ r.updates id = some (index, phase) ∧ phase ≠ .resetting

section
variable {r r' : NetworkManager} {id index : Nat} {phase : UpdatePhase}

lemma pending_dispatch (r : NetworkManager) : Pending r.dispatchInterfaceUpdateLocked := by
  unfold dispatchInterfaceUpdateLocked
  split
  · exact fun _ hsaw => by cases hsaw
  next index _ => exact fun _ _ _ => ⟨r.next, index, .waiting, rfl, update_self .., by simp⟩

lemma Pending.enter (h : Pending r) (hphase : phase ≠ .resetting) :
    Pending (r.enter id index phase) := by
  intro hstarted hsaw hpending
  obtain ⟨id', index', phase', hcurrent, hupdate, hphase'⟩ := h hstarted hsaw hpending
  by_cases heq : id' = id
  · exact ⟨id', index, phase, hcurrent, by rw [heq]; exact update_self .., hphase⟩
  · exact ⟨id', index', phase', hcurrent, (update_of_ne heq ..).trans hupdate, hphase'⟩

lemma Pending.leave (h : Pending r) (hid : r.cancelled id = true) : Pending (r.leave id) := by
  intro hstarted hsaw hpending
  obtain ⟨id', index, phase, hcurrent, hupdate, hphase⟩ := h hstarted hsaw hpending
  have hne : id' ≠ id := by
    rintro rfl
    simp [cancelled, hcurrent] at hid
  exact ⟨id', index, phase, hcurrent, (update_of_ne hne ..).trans hupdate, hphase⟩

lemma Pending.updateInterface (h : Pending r) (hid : r.updates id = some (index, phase))
    (hlisted : phase = .locked → r.current = some id → r.missing index = false)
    (hs : r.updateInterface id index phase = some r') : Pending r' := by
  cases phase <;> simp only [NetworkManager.updateInterface] at hs
  case waiting =>
    split at hs <;> cases hs
    exact h.enter (by simp)
  case locked =>
    split at hs <;> cases hs
    next hleave =>
      refine h.leave (Bool.of_not_eq_false fun hcancelled => ?_)
      have hcurrent : r.current = some id := by simpa [cancelled] using hcancelled
      rw [hcancelled, hlisted rfl hcurrent] at hleave
      cases hleave
    · exact h.enter (by simp)
  case checked =>
    split at hs <;> cases hs
    next hcancelled => exact h.leave hcancelled
    · exact h.enter (by simp)
  case updated =>
    split at hs <;> cases hs
    · exact fun _ _ hpending => by cases hpending
    next hleave =>
      intro hstarted hsaw hpending
      have hpending' : r.networkResetPending = true := hpending
      refine h.leave ?_ hstarted hsaw hpending
      simpa [hpending'] using hleave
  case resetting =>
    cases hs
    intro hstarted hsaw hpending
    -- the update that resets the network is not the one that will do so
    refine h.leave ?_ hstarted hsaw hpending
    obtain ⟨id', index', phase', hcurrent, hupdate, hphase⟩ := h hstarted hsaw hpending
    have hne : id' ≠ id := by
      rintro rfl
      rw [hid] at hupdate
      cases hupdate
      exact hphase rfl
    simpa [cancelled, hcurrent] using hne

lemma Pending.step {e : NetworkEvent} (h : Pending r) (hlisted : Listed r e) (hs : networkStep r e = some r') :
    Pending r' := by
  cases e <;> simp only [networkStep] at hs
  case start =>
    split at hs <;> cases hs
    exact pending_dispatch _
  case notify =>
    cases hs
    unfold notifyInterfaceUpdate
    dsimp only
    split
    · exact pending_dispatch _
    next hstarted => exact fun h => absurd h hstarted
  case setDefaultInterface | setInterfaces => cases hs; exact h
  case next id =>
    obtain ⟨⟨index, phase⟩, hid, hs⟩ := Option.bind_eq_some_iff.1 hs
    exact h.updateInterface hid (fun hphase hcurrent => hlisted hcurrent (index, phase) hid hphase) hs

/-- No reset is forgotten in a run in which every update that is not cancelled finds its interface in the platform's
list. -/
theorem reset_not_forgotten (es : List NetworkEvent) (hlisted : Along networkStep Listed {} es)
    (hrun : run networkStep {} es = some r) : ¬ r.Forgotten := by
  rintro ⟨hstarted, hsaw, hpending, hnone⟩
  have hinit : Pending {} := fun h => by cases h
  have hinv : Pending r := run_inv (fun _ _ _ h => h.step) hinit hlisted hrun
  obtain ⟨id, index, phase, -, hid, -⟩ := hinv hstarted hsaw hpending
  rw [hnone id] at hid
  cases hid

end

/-- A notification, and the update for it up to the reset. -/
def notified : List NetworkEvent :=
  [.setDefaultInterface (some 1), .notify, .start, .next 0, .next 0, .next 0, .next 0, .next 0]

theorem reset_not_forgotten_notified : ∃ r, run networkStep {} notified = some r ∧ ¬ r.Forgotten := by
  have hrun : run networkStep {} notified = some _ := rfl
  exact ⟨_, hrun, reset_not_forgotten notified (by decide) hrun⟩

/-- The platform's list does not have the new default interface yet. -/
theorem reset_forgotten : ∃ r, run networkStep {} [.setDefaultInterface (some 1), .setInterfaces (some []), .start,
    .notify, .next 0, .next 0, .next 1, .next 1] = some r ∧ r.Forgotten := by
  refine ⟨_, rfl, rfl, rfl, rfl, fun id => ?_⟩
  rcases id with _ | _ | id <;> rfl

end SingBox.Route
