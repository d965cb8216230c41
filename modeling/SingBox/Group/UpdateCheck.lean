import SingBox.Lib.Machine
/-!
# Scheduled checks of provider updates

`providerUpdateCheckScheduler`: a runner repeats the check as long as calls of
`Schedule` arrive. Each section under the lock, and each start and end of a
check, is one step; calls and runners interleave.
-/
namespace SingBox.UpdateCheck

inductive Stage where
  | clear
  | start
  | checking
  | test
  deriving DecidableEq

/-- The two flags and the runners; `calls` counts the calls of `Schedule`, `covered` those made before the last
start of a check. -/
structure State where
  running : Bool := false
  pending : Bool := false
  runners : List Stage := []
  calls : Nat := 0
  covered : Nat := 0

inductive Event where
  | schedule
  | run (i : Nat)

def step (s : State) : Event → Option State
  | .schedule =>
    let s := { s with calls := s.calls + 1, pending := true }
    if s.running then some s else some { s with running := true, runners := s.runners ++ [.clear] }
  | .run i =>
    match s.runners[i]? with
    | none => none
    | some .clear => some { s with pending := false, runners := s.runners.set i .start }
    | some .start => some { s with covered := s.calls, runners := s.runners.set i .checking }
    | some .checking => some { s with runners := s.runners.set i .test }
    | some .test =>
      if s.pending then some { s with runners := s.runners.set i .clear }
      else some { s with running := false, runners := s.runners.eraseIdx i }

/-- There is a runner exactly while the flag says so. A call that no check has followed is marked as pending,
unless the runner is on its way to a check. -/
inductive Inv : State → Prop
  | idle (calls : Nat) : Inv { calls, covered := calls }
  | running {pending : Bool} {stage : Stage} {calls covered : Nat}
      (h : stage = .checking ∨ stage = .test → pending = true ∨ covered = calls) :
      Inv { running := true, pending, runners := [stage], calls, covered }

lemma inv_step (s : State) (e : Event) (s' : State) (h : Inv s) (hs : step s e = some s') : Inv s' := by
  cases e with
  | schedule =>
    cases h with
    | idle => exact Option.some.inj hs ▸ .running (by simp)
    | running => exact Option.some.inj hs ▸ .running fun _ => .inl rfl
  | run i =>
    cases h with
    | idle => cases hs
    | @running pending stage calls covered h =>
      cases i with
      | succ i => cases hs
      | zero =>
        cases stage with
        | clear => exact Option.some.inj hs ▸ .running (by simp)
        | start => exact Option.some.inj hs ▸ .running fun _ => .inr rfl
        | checking => exact Option.some.inj hs ▸ .running fun _ => h (.inl rfl)
        | test =>
          cases pending with
          | true => exact Option.some.inj hs ▸ .running (by simp)
          | false =>
            obtain rfl : covered = calls := (h (.inr rfl)).resolve_left (by simp)
            exact Option.some.inj hs ▸ .idle covered

/-- However calls and checks interleave, there is one runner while the flag says so and none otherwise, and at most
one check runs. When every runner is past its check and nothing is pending, a check has started after every call;
in any other state the runner starts one within four steps. -/
theorem schedule_never_lost (es : List Event) (s : State) (h : Machine.run step {} es = some s) :
    s.runners.length = (if s.running then 1 else 0) ∧ s.runners.count .checking ≤ 1 ∧
      ((∀ stage ∈ s.runners, stage = .test) → s.pending = false → s.covered = s.calls) ∧
      ∃ n ≤ 4, ∃ t, Machine.run step s (List.replicate n (.run 0)) = some t ∧ t.covered = s.calls := by
  have hinv : Inv s := Machine.run_keeps inv_step (.idle 0) h
  cases hinv with
  | idle => exact ⟨rfl, by simp, fun _ _ => rfl, 0, by simp, _, rfl, rfl⟩
  | @running pending stage calls covered hcovered =>
    refine ⟨rfl, List.count_le_length, fun hstages hpending => ?_, ?_⟩
    · exact (hcovered (.inr (hstages stage (by simp)))).resolve_left (Bool.eq_false_iff.1 hpending)
    cases stage with
    | clear => exact ⟨2, by simp, _, rfl, rfl⟩
    | start => exact ⟨1, by simp, _, rfl, rfl⟩
    | checking =>
      rcases hcovered (.inl rfl) with rfl | rfl
      · exact ⟨4, by simp, _, rfl, rfl⟩
      · exact ⟨0, by simp, _, rfl, rfl⟩
    | test =>
      rcases hcovered (.inr rfl) with rfl | rfl
      · exact ⟨3, by simp, _, rfl, rfl⟩
      · exact ⟨0, by simp, _, rfl, rfl⟩

def callDuringCheck : List Event := [.schedule, .run 0, .run 0, .schedule]

/-- The check that runs began before the second call. -/
def uncovered : State := { running := true, pending := true, runners := [.checking], calls := 2, covered := 1 }

theorem schedule_never_lost_again : Machine.run step {} callDuringCheck = some uncovered ∧
    ∃ n ≤ 4, ∃ t, Machine.run step uncovered (List.replicate n (.run 0)) = some t ∧ t.covered = 2 :=
  ⟨rfl, (schedule_never_lost callDuringCheck uncovered rfl).2.2.2⟩

end SingBox.UpdateCheck
