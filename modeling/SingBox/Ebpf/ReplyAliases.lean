import SingBox.Lib.Weights
import SingBox.Ebpf.UdpTable
/-!
# Reply aliases and TC return handles

The bindings of one client state with their TC part. Every operation runs under
the lock of the state. A state leaves the table and is closed under one lock of
its shard, so the test that the table still has the state is the test of `closed`.
-/
namespace SingBox.Ebpf
open Machine Weights
variable {H A : Type}

/-- `udpRedirectBinding` with a TC assignment, if its key is valid, and a TC return handle, if that is valid. -/
structure TcBinding (H A : Type) extends UdpRedirectBinding where
  redirectAddress := .invalid
  tcAssignment : Option (Nat × A) := none
  tcReturn : Option H := none

structure TcClientState (H A : Type) where
  bindings : AList (fun _ : AddrPort => TcBinding H A) := ∅
  replyAliasCount : Nat := 0
  closed : Bool := false

namespace TcClientState
variable (s : TcClientState H A) (destination : AddrPort)

def setCgroupBinding (original : OriginalDestination) (address : Addr) : TcClientState H A :=
  { s with
    bindings := s.bindings.insert original.destination
      { redirectAddress := address, connected := original.connectedUDP } }

def setCgroupReplyBinding (address : Addr) : TcClientState H A × Bool :=
  if s.closed || udpReplyAliasLimit ≤ s.replyAliasCount then (s, false)
  else ({ s with
    bindings := s.bindings.insert destination { replyAlias := true, redirectAddress := address }
    replyAliasCount := s.replyAliasCount + 1 }, true)

def setDirectAssignmentBinding (keyInterfaceIndex : Nat) (assignment : A) : TcClientState H A :=
  let previous := (s.bindings.lookup destination).getD {}
  { s with
    bindings := s.bindings.insert destination
      { tcReturn := previous.tcReturn, tcAssignment := some (keyInterfaceIndex, assignment) }
    replyAliasCount := s.replyAliasCount - previous.replyAlias.toNat }

def setDirectReplyBinding : TcClientState H A × Bool :=
  if s.closed then (s, false)
  else if (s.bindings.lookup destination).isSome then (s, true)
  else if udpReplyAliasLimit ≤ s.replyAliasCount then (s, false)
  else ({ s with
    bindings := s.bindings.insert destination { replyAlias := true }
    replyAliasCount := s.replyAliasCount + 1 }, true)

/-- `acquired` is the answer of `AcquireReturnRoute`. With the new state comes the handle that is stored. -/
def retainTCReturn (acquired : Except String H) : Except String (TcClientState H A × Option H) :=
  if s.closed then .error "TC UDP session is closed"
  else match s.bindings.lookup destination with
    | none => .error "TC UDP assignment binding is missing"
    | some binding =>
      if binding.tcReturn.isSome then .ok (s, none)
      else acquired.map fun handle =>
        ({ s with bindings := s.bindings.insert destination { binding with tcReturn := some handle } }, some handle)

/-- With the new state come the assignments and the return handles to clean up. -/
def deleteWithCleanup : TcClientState H A × List (AddrPort × Nat × A) × List H :=
  if s.closed then (s, [], [])
  else ({ closed := true },
    s.bindings.entries.filterMap fun e => e.2.tcAssignment.map fun assignment => (e.1, assignment),
    s.bindings.entries.filterMap fun e => e.2.tcReturn)

end TcClientState

inductive TcOp (H A : Type)
  | setCgroupBinding (original : OriginalDestination) (address : Addr)
  | setCgroupReplyBinding (destination : AddrPort) (address : Addr)
  | setDirectAssignmentBinding (destination : AddrPort) (keyInterfaceIndex : Nat) (assignment : A)
  | setDirectReplyBinding (destination : AddrPort)
  | retainTCReturn (destination : AddrPort) (acquired : Except String H)
  | deleteWithCleanup

/-- A client state, the handles stored in it so far and the ones handed back. -/
structure TcLedger (H A : Type) where
  state : TcClientState H A := {}
  stored : List H := []
  returned : List H := []

namespace TcLedger

def step (l : TcLedger H A) : TcOp H A → Option (TcLedger H A)
  | .setCgroupBinding original address => some { l with state := l.state.setCgroupBinding original address }
  | .setCgroupReplyBinding destination address =>
    some { l with state := (l.state.setCgroupReplyBinding destination address).1 }
  | .setDirectAssignmentBinding destination keyInterfaceIndex assignment =>
    some { l with state := l.state.setDirectAssignmentBinding destination keyInterfaceIndex assignment }
  | .setDirectReplyBinding destination => some { l with state := (l.state.setDirectReplyBinding destination).1 }
  | .retainTCReturn destination acquired => match l.state.retainTCReturn destination acquired with
    | .ok (s, handle) => some { l with state := s, stored := handle.toList ++ l.stored }
    | .error _ => some l
  | .deleteWithCleanup =>
    let (s, _, returns) := l.state.deleteWithCleanup
    some { l with state := s, returned := returns ++ l.returned }

/-- The two cgroup operations replace neither an alias nor a binding with a handle. -/
def Plain (l : TcLedger H A) : TcOp H A → Prop
  | .setCgroupBinding { destination, .. } _ | .setCgroupReplyBinding destination _ =>
    (l.state.bindings.lookup destination).all fun b => !b.replyAlias && b.tcReturn.isNone
  | _ => True

instance (l : TcLedger H A) (op : TcOp H A) : Decidable (l.Plain op) := by
  cases op <;> unfold Plain <;> infer_instance

end TcLedger

/-! ## What is counted -/

namespace TcClientState

def aliases (s : TcClientState H A) : Nat := count (fun e => e.2.replyAlias) s.bindings

variable [DecidableEq H]

def handles (s : TcClientState H A) (x : H) : Nat := count (fun e => e.2.tcReturn == some x) s.bindings

end TcClientState

open TcClientState

lemma retainTCReturn_ok {s s' : TcClientState H A} {d : AddrPort} {acquired : Except String H} {handle : Option H}
    (h : s.retainTCReturn d acquired = .ok (s', handle)) : s' = s ∧ handle = none ∨
      ∃ b x, s.closed = false ∧ s.bindings.lookup d = some b ∧ b.tcReturn = none ∧ handle = some x ∧
        s' = { s with bindings := s.bindings.insert d { b with tcReturn := some x } } := by
  unfold retainTCReturn at h
  split at h
  · cases h
  next hc =>
    split at h
    · cases h
    next b hb =>
      split at h
      · cases h
        exact .inl ⟨rfl, rfl⟩
      next hr =>
        cases acquired with
        | error _ => cases h
        | ok x =>
          cases h
          exact .inr ⟨b, x, by simpa using hc, hb, by simpa using hr, rfl, rfl⟩

lemma lookup_of_plain [DecidableEq H] {m : AList fun _ : AddrPort => TcBinding H A} {d : AddrPort}
    (h : (m.lookup d).all (fun b => !b.replyAlias && b.tcReturn.isNone) = true) :
    (m.lookup d).elim false (·.replyAlias) = false ∧ ∀ x, (m.lookup d).elim false (·.tcReturn == some x) = false := by
  cases hd : m.lookup d with
  | none => exact ⟨rfl, fun _ => rfl⟩
  | some b =>
    rw [hd] at h
    obtain ⟨ha, hr⟩ : b.replyAlias = false ∧ b.tcReturn = none := by simpa using h
    exact ⟨ha, fun x => by simp [hr]⟩

lemma handles_eq_count [DecidableEq H] (s : TcClientState H A) (x : H) :
    s.handles x = (s.bindings.entries.filterMap fun e => e.2.tcReturn).count x := by
  unfold handles count weigh
  induction s.bindings.entries with
  | nil => rfl
  | cons e es ih =>
    rw [List.map_cons, List.sum_cons, ih, List.filterMap_cons]
    cases hr : e.2.tcReturn with
    | none => simp [hr]
    | some y =>
      simp only [List.count_cons, Nat.add_comm]
      by_cases hxy : y = x <;> simp [hr, hxy]

namespace TcLedger
variable [DecidableEq H] {l l' : TcLedger H A}

structure Exact (l : TcLedger H A) : Prop where
  aliases : l.state.replyAliasCount = l.state.aliases
  handles : ∀ x, l.stored.count x = l.returned.count x + l.state.handles x
  closed : l.state.closed = true → ∀ x, l.state.handles x = 0

/-- A binding is replaced and the counter and the history move with what it was and what it is now. -/
lemma Exact.insert (h : l.Exact) {d : AddrPort} {b : TcBinding H A} {n : Nat} {stored : List H}
    (hn : n + ((l.state.bindings.lookup d).elim false (·.replyAlias)).toNat =
      l.state.replyAliasCount + b.replyAlias.toNat)
    (hstored : ∀ x, stored.count x + ((l.state.bindings.lookup d).elim false (·.tcReturn == some x)).toNat =
      l.stored.count x + (b.tcReturn == some x).toNat)
    (hclosed : l.state.closed = true → stored = l.stored) :
    Exact { l with state := { l.state with bindings := l.state.bindings.insert d b, replyAliasCount := n }, stored } := by
  have haliases := count_insert (fun e => e.2.replyAlias) l.state.bindings d b
  have hhandles := fun x => count_insert (fun e => e.2.tcReturn == some x) l.state.bindings d b
  have hl := h.aliases
  refine ⟨?_, fun x => ?_, fun hc x => ?_⟩
  · unfold TcClientState.aliases at hl ⊢
    dsimp only at haliases ⊢
    omega
  · have hx := h.handles x
    have hx' := hstored x
    have hx'' := hhandles x
    unfold TcClientState.handles at hx ⊢
    dsimp only at hx'' ⊢
    omega
  · have hx := h.closed hc x
    have hx' := hstored x
    have hx'' := hhandles x
    rw [hclosed hc] at hx'
    unfold TcClientState.handles at hx ⊢
    dsimp only at hx'' ⊢
    omega

lemma Exact.step (h : l.Exact) {op : TcOp H A} (hop : l.Plain op) (hstep : l.step op = some l') : l'.Exact := by
  cases op with
  | setCgroupBinding original address =>
    cases hstep
    obtain ⟨ha, hr⟩ := lookup_of_plain hop
    refine h.insert ?_ (fun x => ?_) fun _ => rfl
    · rw [ha]
    rw [hr]
    rfl
  | setCgroupReplyBinding destination address =>
    cases hstep
    obtain ⟨ha, hr⟩ := lookup_of_plain hop
    unfold setCgroupReplyBinding
    split
    · exact h
    refine h.insert ?_ (fun x => ?_) fun _ => rfl
    · rw [ha]
      rfl
    rw [hr]
    rfl
  | setDirectAssignmentBinding destination keyInterfaceIndex assignment =>
    cases hstep
    have hle := weightAt_le (fun e => e.2.replyAlias.toNat) l.state.bindings destination
    have ha := h.aliases
    change _ ≤ l.state.aliases at hle
    unfold weightAt at hle
    refine h.insert ?_ (fun x => ?_) fun _ => rfl
    · cases hd : l.state.bindings.lookup destination with
      | none => rfl
      | some b =>
        simp only [hd, Option.elim_some] at hle
        simp only [Option.getD_some, Option.elim_some, Bool.toNat_false]
        omega
    · cases hd : l.state.bindings.lookup destination <;> rfl
  | setDirectReplyBinding destination =>
    cases hstep
    unfold setDirectReplyBinding
    split_ifs with hc hd hn
    · exact h
    · exact h
    · exact h
    have hd : l.state.bindings.lookup destination = none := by simpa using hd
    refine h.insert ?_ (fun x => ?_) fun _ => rfl
    · rw [hd]
      rfl
    rw [hd]
    rfl
  | retainTCReturn destination acquired =>
    simp only [TcLedger.step] at hstep
    split at hstep
    next s handle hok =>
      cases hstep
      rcases retainTCReturn_ok hok with ⟨rfl, rfl⟩ | ⟨b, x, hc, hb, hr, rfl, rfl⟩
      · exact h
      refine h.insert ?_ (fun y => ?_) fun hc' => nomatch hc.symm.trans hc'
      · rw [hb]
        rfl
      rw [hb, Option.elim_some, hr, Option.toList_some, List.singleton_append, List.count_cons]
      by_cases hxy : x = y <;> simp [hxy]
    · cases hstep
      exact h
  | deleteWithCleanup =>
    simp only [TcLedger.step, deleteWithCleanup] at hstep
    split at hstep <;> cases hstep
    · exact h
    refine ⟨rfl, fun x => ?_, fun _ x => rfl⟩
    have hx := h.handles x
    have hcount := handles_eq_count l.state x
    have hnone : ({ closed := true } : TcClientState H A).handles x = 0 := rfl
    dsimp only
    rw [List.count_append, hnone]
    omega

/-- If the cgroup operations replace neither an alias nor a binding with a handle, the counter counts the aliases, and
a closed state has handed back every handle stored in it. -/
theorem reply_aliases_counted (ops : List (TcOp H A)) (l : TcLedger H A) (h : run TcLedger.step {} ops = some l)
    (hops : Along TcLedger.step TcLedger.Plain {} ops) :
    l.state.replyAliasCount = l.state.aliases ∧ (l.state.closed = true → l.stored.Perm l.returned) := by
  have hinit : Exact ({} : TcLedger H A) := ⟨rfl, fun _ => rfl, fun _ _ => rfl⟩
  have hl := run_inv (fun _ _ _ h hop hs => h.step hop hs) hinit hops h
  refine ⟨hl.aliases, fun hc => List.perm_iff_count.2 fun x => ?_⟩
  have hx := hl.handles x
  rw [hl.closed hc x] at hx
  exact hx

end TcLedger

/-- A destination that was first an alias of replies becomes a flow of its own, and the client is closed. -/
def aliasThenFlow : List (TcOp Nat Unit) :=
  [.setDirectReplyBinding ⟨.v4 1, 53⟩, .retainTCReturn ⟨.v4 1, 53⟩ (.ok 7), .setDirectAssignmentBinding ⟨.v4 1, 53⟩ 2 (),
    .deleteWithCleanup]

theorem reply_aliases_counted_flow : ∃ l, run TcLedger.step {} aliasThenFlow = some l ∧ l.stored.Perm l.returned :=
  ⟨_, rfl, (TcLedger.reply_aliases_counted aliasThenFlow _ rfl (by decide)).2 rfl⟩

/-- The same on the cgroup data plane. -/
def aliasThenCgroupFlow : List (TcOp Nat Unit) :=
  [.setCgroupReplyBinding ⟨.v4 1, 53⟩ (.v4 2), .setCgroupBinding { destination := ⟨.v4 1, 53⟩ } (.v4 3)]

theorem replaced_alias_counted : ∃ l, run TcLedger.step {} aliasThenCgroupFlow = some l ∧
    l.state.replyAliasCount = 1 ∧ l.state.aliases = 0 := by
  refine ⟨_, rfl, ?_⟩
  decide

end SingBox.Ebpf
