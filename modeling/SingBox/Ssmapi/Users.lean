import SingBox.Lib.Machine
/-!
# Users of a managed server

The user manager changes its map first, and hands all the users to the inbound
afterwards. An inbound that refuses them leaves the map as it was changed.
-/
namespace SingBox.SSM
open Function Machine

/-- `server` is the last list that the inbound accepted, and `traffic` the users that are counted. -/
structure UserManager where
  usersMap : String → Option String := fun _ => none
  server : String → Option String := fun _ => none
  traffic : String → Bool := fun _ => false

section
variable (m : UserManager)

/-- The answer of `UpdateUsers` comes with the call. -/
def UserManager.postUpdate (updated : Bool) (answer : Except String Unit) : UserManager × Except String Unit :=
  match answer with
  | .error err => (m, .error err)
  | .ok () =>
    ({ m with server := m.usersMap, traffic := if updated then (m.usersMap · |>.isSome) else m.traffic }, .ok ())

def UserManager.get (username : String) : String × Bool :=
  match m.usersMap username with
  | some password => (password, true)
  | none => ("", false)

inductive UserCall
  | add (username password : String)
  | update (username password : String)
  | delete (username : String)

def UserManager.call (answer : Except String Unit) : UserCall → UserManager × Except String Unit
  | .add username password =>
    if (m.usersMap username).isSome then (m, .error ("user " ++ username ++ " already exists"))
    else { m with usersMap := update m.usersMap username (some password) }.postUpdate true answer
  | .update username password =>
    { m with usersMap := update m.usersMap username (some password) }.postUpdate true answer
  | .delete username => { m with usersMap := update m.usersMap username none }.postUpdate true answer

def step (e : UserCall × Except String Unit) : Option UserManager := some (m.call e.2 e.1).1

/-- The call asks for no change. -/
def Idle : UserCall → Prop
  | .add username _ => (m.usersMap username).isSome = true
  | .update username password => m.usersMap username = some password
  | .delete username => m.usersMap username = none

end

instance (m : UserManager) : ∀ c, Decidable (Idle m c)
  | .add .. | .update .. | .delete _ => inferInstanceAs (Decidable (_ = _))

/-- The inbound refuses no change. -/
def Accepts (m : UserManager) (e : UserCall × Except String Unit) : Prop := e.2.isOk = true ∨ Idle m e.1

instance (m : UserManager) (e : UserCall × Except String Unit) : Decidable (Accepts m e) :=
  inferInstanceAs (Decidable (_ ∨ _))

/-- A call that is refused leaves the users as they were, if and only if it asks for no change. -/
lemma call_refused (m : UserManager) (c : UserCall) (err : String) :
    (m.call (.error err) c).1.usersMap = m.usersMap ↔ Idle m c := by
  cases c with
  | add username password =>
    simp only [UserManager.call]
    split
    next h => exact ⟨fun _ => h, fun _ => rfl⟩
    next h =>
      refine ⟨fun heq => ?_, fun hidle => absurd hidle h⟩
      have hnew := congrFun heq username
      exact Option.isSome_iff_exists.2 ⟨password, hnew.symm.trans (update_self ..)⟩
  | update username password =>
    exact update_eq_self_iff.trans ⟨Eq.symm, Eq.symm⟩
  | delete username => exact update_eq_self_iff.trans ⟨Eq.symm, Eq.symm⟩

variable {m : UserManager} {c : UserCall} {answer : Except String Unit}

lemma call_error (h : Accepts m (c, answer)) (herr : (m.call answer c).2.isOk = false) :
    (m.call answer c).1.usersMap = m.usersMap := by
  cases answer with
  | error err => exact (call_refused m c err).2 (h.resolve_left nofun)
  | ok u =>
    cases c with
    | add username password =>
      simp only [UserManager.call] at herr ⊢
      split at herr
      next hfound => rw [if_pos hfound]
      · cases herr
    | update username password => cases herr
    | delete username => cases herr

/-- What the manager reports is what the inbound accepted last. -/
lemma call_agrees (hm : m.usersMap = m.server) (h : Accepts m (c, answer)) :
    (m.call answer c).1.usersMap = (m.call answer c).1.server := by
  cases answer with
  | error err =>
    rw [(call_refused m c err).2 (h.resolve_left nofun), hm]
    cases c <;> simp only [UserManager.call] <;> first | rfl | split <;> rfl
  | ok u =>
    cases c with
    | add username password =>
      simp only [UserManager.call]
      split
      · exact hm
      · rfl
    | update username password => rfl
    | delete username => rfl

/-- In every run in which the inbound refuses no change, the users are those it accepted last, and a call that fails
leaves them as they were. -/
theorem failed_change_unchanged (calls : List (UserCall × Except String Unit)) (m : UserManager)
    (hcalls : Along step Accepts {} calls) (hrun : run step {} calls = some m) :
    m.usersMap = m.server ∧ ∀ c answer, Accepts m (c, answer) → (m.call answer c).2.isOk = false →
      (m.call answer c).1.usersMap = m.usersMap := by
  refine ⟨run_inv (I := fun m => m.usersMap = m.server) (fun m e m' hm he hs => ?_) rfl hcalls hrun,
    fun c answer => call_error⟩
  cases hs
  exact call_agrees hm he

theorem failed_change_unchanged_twice : ∃ m, run step {}
    [(.add "a" "p", .ok ()), (.add "a" "q", .ok ()), (.update "a" "p", .error "refused")] = some m ∧
      m.usersMap = m.server := by
  have hrun : run step {}
      [(.add "a" "p", .ok ()), (.add "a" "q", .ok ()), (.update "a" "p", .error "refused")] = some _ := rfl
  exact ⟨_, hrun, (failed_change_unchanged _ _ (by decide) hrun).1⟩

/-- A user that the inbound refused is reported. -/
theorem refused_user_reported : ∃ m, run step {} [(.add "a" "p", .error "refused")] = some m ∧
    (UserManager.call {} (.error "refused") (.add "a" "p")).2 = .error "refused" ∧
    m.get "a" = ("p", true) ∧ m.server "a" = none :=
  ⟨_, rfl, rfl, rfl, rfl⟩

end SingBox.SSM
