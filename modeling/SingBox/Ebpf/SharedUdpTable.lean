import SingBox.Ebpf.UdpTable
import SingBox.Lib.Weights
/-!
# The table of shared UDP clients

A binding of a client state retains a reference to its redirect address unless
the socket is connected; the references are counted over all states, because
sessions with one source share them. A call holds the shard's lock, the state's
lock and the redirect lock until it returns, and repeats under them what it
looked up before: calls take effect one after the other.

The count of references is a `uint32` in the source and a number here: it is at
most the number of bindings held in memory.
-/
namespace SingBox.Ebpf
open Function Weights Bool

structure SharedUdpRedirectReference where
  client : AddrPort
  address : Addr
  deriving DecidableEq

/-- `sharedFlow` is the handle of a kernel flow, when there is one. -/
structure SharedUdpRedirectBinding where
  address : Addr
  connected : Bool
  reference : SharedUdpRedirectReference
  sharedFlow : Option Nat
  replyAlias : Bool

structure SharedUdpOriginalDestination where
  destination : AddrPort
  connectedUDP : Bool := false
  sourceMAC : List UInt8 := []
  sharedFlow : Option Nat := none
  replyAlias : Bool := false

structure SharedUdpRedirectRelease where
  reference : SharedUdpRedirectReference
  sharedFlow : Option Nat

def sharedUDPReplyAliasLimit : Nat := 64

structure SharedUdpClientState where
  connectedBinding : Option SharedUdpRedirectBinding := none
  connected : Bool := false
  connectedDestination : AddrPort := ⟨.invalid, 0⟩
  sourceMAC : List UInt8 := []
  bindings : AList (fun _ : AddrPort => SharedUdpRedirectBinding) := ∅
  originals : AList (fun _ : Addr => SharedUdpOriginalDestination) := ∅
  replyAliasCount : Nat := 0

namespace SharedUdpClientState
variable (s : SharedUdpClientState) (redirectAddress : Addr) (reference : SharedUdpRedirectReference)
  (original : SharedUdpOriginalDestination)

def bound : Bool :=
  match s.bindings.lookup original.destination with
  | some current => current.address == redirectAddress && current.connected == original.connectedUDP &&
      current.replyAlias == original.replyAlias
  | none => false

def aliasAt (destination : AddrPort) : Bool :=
  (s.bindings.lookup destination).elim false (·.replyAlias)

def full : Bool :=
  original.replyAlias && !s.aliasAt original.destination && decide (s.replyAliasCount ≥ sharedUDPReplyAliasLimit)

def deleteUnusedOriginalLocked (address : Addr) : SharedUdpClientState × Bool :=
  if s.bindings.entries.any (·.2.address == address) then (s, false)
  else ({ s with originals := s.originals.erase address }, true)

def newBinding : SharedUdpRedirectBinding :=
  { address := redirectAddress, connected := original.connectedUDP, reference, sharedFlow := original.sharedFlow,
    replyAlias := original.replyAlias }

/-- The part of `setClientBinding` under the state's lock before the old address is looked at. -/
def write : SharedUdpClientState :=
  let binding := newBinding redirectAddress reference original
  let wasAlias := s.aliasAt original.destination
  { s with
    originals := s.originals.insert redirectAddress original
    sourceMAC := if original.sourceMAC = [] then s.sourceMAC else original.sourceMAC
    bindings := s.bindings.insert original.destination binding
    replyAliasCount :=
      if original.replyAlias && !wasAlias then s.replyAliasCount + 1
      else if !original.replyAlias && wasAlias then s.replyAliasCount - 1
      else s.replyAliasCount
    connectedBinding :=
      if s.connected && s.connectedDestination == original.destination then some binding else s.connectedBinding }

/-- The state after a binding, and whether the address it had before is used no more. -/
def bind : SharedUdpClientState × Bool :=
  match s.bindings.lookup original.destination with
  | some current =>
    if current.address ≠ redirectAddress then
      (s.write redirectAddress reference original).deleteUnusedOriginalLocked current.address
    else (s.write redirectAddress reference original, false)
  | none => (s.write redirectAddress reference original, false)

def setConnected (connected : Bool) (destination : AddrPort) : SharedUdpClientState :=
  if connected then
    { s with connected, connectedDestination := destination, connectedBinding := s.bindings.lookup destination }
  else { s with connected, connectedDestination := ⟨.invalid, 0⟩, connectedBinding := none }

def clear : SharedUdpClientState :=
  { s with bindings := ∅, originals := ∅, replyAliasCount := 0, connectedBinding := none }

def retained (r : SharedUdpRedirectReference) (s : SharedUdpClientState) : Nat :=
  count (fun e => !e.2.connected && e.2.reference == r) s.bindings

end SharedUdpClientState

/-- The table. A client state is a cell of the heap `states`, a missing count is `0`. -/
structure SharedUdpClientTable where
  clients : AList (fun _ : UdpSessionKey => Nat) := ∅
  states : Nat → SharedUdpClientState := fun _ => {}
  next : Nat := 0
  redirectReferences : SharedUdpRedirectReference → Nat := fun _ => 0
  redirectSessions : SharedUdpRedirectReference → Option UdpSessionKey := fun _ => none

namespace SharedUdpClientTable
variable (t : SharedUdpClientTable) (key : UdpSessionKey) (r : SharedUdpRedirectReference)

def setState (id : Nat) (s : SharedUdpClientState) : SharedUdpClientTable :=
  { t with states := update t.states id s }

def loadOrCreateLocked : SharedUdpClientTable × Nat :=
  match t.clients.lookup key with
  | some id => (t, id)
  | none =>
    ({ t with clients := t.clients.insert key t.next, states := update t.states t.next {},
              next := t.next + 1 }, t.next)

def retainRedirectLocked : SharedUdpClientTable :=
  { t with redirectReferences := update t.redirectReferences r (t.redirectReferences r + 1) }

/-- The release of a reference, and whether it was the last one. -/
def releaseRedirectLocked : SharedUdpClientTable × Bool :=
  if t.redirectReferences r > 1 then
    ({ t with redirectReferences := update t.redirectReferences r (t.redirectReferences r - 1) }, false)
  else if t.redirectReferences r = 1 then
    ({ t with redirectReferences := update t.redirectReferences r 0 }, true)
  else (t, false)

def setSession (reference : SharedUdpRedirectReference) (key : UdpSessionKey) : SharedUdpClientTable :=
  { t with redirectSessions := update t.redirectSessions reference (some key) }

def dropSession (address : Addr) : SharedUdpClientTable :=
  if t.redirectSessions ⟨key.source, address⟩ = some key then
    { t with redirectSessions := update t.redirectSessions ⟨key.source, address⟩ none }
  else t

def releaseBinding (b : SharedUdpRedirectBinding) : SharedUdpClientTable × List SharedUdpRedirectRelease :=
  if b.connected then (t, [])
  else
    let released := t.releaseRedirectLocked b.reference
    (released.1, if released.2 then [⟨b.reference, b.sharedFlow⟩] else [])

/-- `setClientBinding` on the client state `id`, with its releases and whether it installed the binding. -/
def setClientBinding (id : Nat) (redirectAddress : Addr)
    (reference : SharedUdpRedirectReference) (original : SharedUdpOriginalDestination) :
    SharedUdpClientTable × List SharedUdpRedirectRelease × Bool :=
  let s := t.states id
  if s.bound redirectAddress original || s.full original then (t, [], false)
  else
    let current := s.bindings.lookup original.destination
    let written := s.bind redirectAddress reference original
    let t := (t.setState id written.1).setSession reference key
    let t := match current with
      | some current => if written.2 then t.dropSession key current.address else t
      | none => t
    let t := if original.connectedUDP then t else t.retainRedirectLocked reference
    match current with
    | some current =>
      let released := t.releaseBinding current
      (released.1, released.2, true)
    | none => (t, [], true)

def setExistingBindingState (expectedState : Nat)
    (redirectAddress : Addr) (reference : SharedUdpRedirectReference) (original : SharedUdpOriginalDestination) :
    SharedUdpClientTable × List SharedUdpRedirectRelease × Bool :=
  if t.clients.lookup key ≠ some expectedState then (t, [], false)
  else t.setClientBinding key expectedState redirectAddress reference original

def setBindingState (redirectAddress : Addr)
    (reference : SharedUdpRedirectReference) (original : SharedUdpOriginalDestination) :
    SharedUdpClientTable × List SharedUdpRedirectRelease × Bool :=
  let loaded := t.loadOrCreateLocked key
  loaded.1.setClientBinding key loaded.2 redirectAddress reference original

/-- The loop of `deleteClient` over the bindings. -/
def releaseAll (t : SharedUdpClientTable) : List SharedUdpRedirectBinding →
    SharedUdpClientTable × List SharedUdpRedirectRelease
  | [] => (t, [])
  | b :: bindings =>
    let here := t.releaseBinding b
    let rest := here.1.releaseAll bindings
    (rest.1, here.2 ++ rest.2)

def deleteClient (expectedState : Nat) : SharedUdpClientTable × List SharedUdpRedirectRelease :=
  if t.clients.lookup key ≠ some expectedState then (t, [])
  else
    let s := t.states expectedState
    let t := { t with clients := t.clients.erase key }
    let t := s.originals.keys.foldl (fun t address => t.dropSession key address) t
    let released := t.releaseAll (s.bindings.entries.map (·.2))
    (released.1.setState expectedState s.clear, released.2)

end SharedUdpClientTable

/-- A call on the table, or on a client state a caller has a pointer to. -/
inductive SharedCall
  | setBindingState (key : UdpSessionKey) (redirectAddress : Addr) (reference : SharedUdpRedirectReference)
      (original : SharedUdpOriginalDestination)
  | setExistingBindingState (key : UdpSessionKey) (expectedState : Nat) (redirectAddress : Addr)
      (reference : SharedUdpRedirectReference) (original : SharedUdpOriginalDestination)
  | setConnected (state : Nat) (connected : Bool) (destination : AddrPort)
  | deleteClient (key : UdpSessionKey) (expectedState : Nat)

def SharedUdpClientTable.call (t : SharedUdpClientTable) :
    SharedCall → SharedUdpClientTable × List SharedUdpRedirectRelease
  | .setBindingState key address reference original =>
    let result := t.setBindingState key address reference original
    (result.1, result.2.1)
  | .setExistingBindingState key expected address reference original =>
    let result := t.setExistingBindingState key expected address reference original
    (result.1, result.2.1)
  | .setConnected state connected destination =>
    (t.setState state ((t.states state).setConnected connected destination), [])
  | .deleteClient key expected => t.deleteClient key expected

def SharedUdpClientTable.after (t : SharedUdpClientTable) (calls : List SharedCall) : SharedUdpClientTable :=
  calls.foldl (fun t call => (t.call call).1) t

/-! ## One client state -/

/-- What a client state keeps by itself. -/
structure SharedUdpClientState.Good (s : SharedUdpClientState) : Prop where
  aliases : s.replyAliasCount = count (fun e => e.2.replyAlias) s.bindings
  limit : s.replyAliasCount ≤ sharedUDPReplyAliasLimit
  originals : ∀ destination b, s.bindings.lookup destination = some b → b.address ∈ s.originals
  connected : s.connectedBinding = none ∨ s.connectedBinding = s.bindings.lookup s.connectedDestination
  disconnected : s.connected = false → s.connectedBinding = none

open SharedUdpClientState SharedUdpRedirectBinding AList

namespace SharedUdpClientState
variable {s : SharedUdpClientState} {address : Addr} {reference : SharedUdpRedirectReference}
  {original : SharedUdpOriginalDestination}

lemma good_empty : ({} : SharedUdpClientState).Good where
  aliases := rfl
  limit := Nat.zero_le _
  originals _ _ h := by cases h
  connected := .inl rfl
  disconnected _ := rfl

lemma Good.clear (_ : s.Good) : s.clear.Good := { good_empty with disconnected := fun _ => rfl }

lemma Good.setConnected (h : s.Good) (connected : Bool) (destination : AddrPort) :
    (s.setConnected connected destination).Good := by
  cases connected with
  | true => exact ⟨h.aliases, h.limit, h.originals, .inr rfl, fun hc => by cases hc⟩
  | false => exact ⟨h.aliases, h.limit, h.originals, .inl rfl, fun _ => rfl⟩

lemma aliasAt_count (h : s.Good) (original : SharedUdpOriginalDestination) :
    s.aliasAt original.destination = true → 0 < s.replyAliasCount := by
  intro ha
  have := weightAt_le (fun e => e.2.replyAlias.toNat) s.bindings original.destination
  rw [h.aliases]
  refine Nat.lt_of_lt_of_le ?_ this
  unfold aliasAt at ha
  cases hl : s.bindings.lookup original.destination with
  | none => simp [hl] at ha
  | some b =>
    rw [hl] at ha
    have halias : b.replyAlias = true := ha
    simp [weightAt, hl, halias]

lemma Good.write (h : s.Good) (hfull : s.full original = false) : (s.write address reference original).Good := by
  have hcount := count_insert (fun e => e.2.replyAlias) s.bindings original.destination
    (newBinding address reference original)
  have hpos := aliasAt_count h original
  have hlimit := h.limit
  rw [← h.aliases] at hcount
  refine ⟨?_, ?_, fun destination b hb => ?_, ?_, fun hc => ?_⟩
  · change _ = count _ (s.bindings.insert original.destination (newBinding address reference original))
    change count _ _ + (s.aliasAt original.destination).toNat = _ + original.replyAlias.toNat at hcount
    simp only [SharedUdpClientState.write]
    cases ho : original.replyAlias <;> cases ha : s.aliasAt original.destination <;>
      simp only [ho, ha, Bool.toNat_true, Bool.toNat_false, Bool.not_true, Bool.not_false, Bool.and_true,
        Bool.and_false, Bool.false_eq_true, if_true, if_false] at hcount hpos ⊢ <;> omega
  · simp only [SharedUdpClientState.write]
    cases ho : original.replyAlias <;> cases ha : s.aliasAt original.destination <;>
      simp [SharedUdpClientState.full, ho, ha] at hfull ⊢ <;> omega
  · change (s.bindings.insert original.destination _).lookup destination = some b at hb
    change b.address ∈ s.originals.insert address original
    rw [mem_insert]
    by_cases hd : destination = original.destination
    · subst hd
      rw [lookup_insert] at hb
      exact .inl (Option.some.inj hb ▸ rfl)
    · rw [lookup_insert_ne hd] at hb
      exact .inr (h.originals _ _ hb)
  · simp only [SharedUdpClientState.write]
    by_cases hd : s.connectedDestination = original.destination
    · rw [hd, lookup_insert]
      cases hc : s.connected with
      | true => exact .inr (by simp)
      | false => exact .inl (by simp [h.disconnected hc])
    · rw [lookup_insert_ne hd]
      simpa [hd] using h.connected
  · have hc' : s.connected = false := hc
    simp [SharedUdpClientState.write, hc', h.disconnected hc']

lemma Good.deleteUnusedOriginalLocked (h : s.Good) (address : Addr) :
    (s.deleteUnusedOriginalLocked address).1.Good := by
  unfold SharedUdpClientState.deleteUnusedOriginalLocked
  split
  · exact h
  next hunused =>
    refine { h with originals := fun destination b hb => ?_ }
    refine mem_erase.2 ⟨fun heq => ?_, h.originals _ _ hb⟩
    exact hunused (List.any_eq_true.2 ⟨_, mem_lookup_iff.1 hb, by simpa using heq⟩)

lemma Good.bind (h : s.Good) (address : Addr) (reference : SharedUdpRedirectReference)
    (hfull : s.full original = false) : (s.bind address reference original).1.Good := by
  unfold SharedUdpClientState.bind
  split
  · split
    · exact (h.write hfull).deleteUnusedOriginalLocked _
    · exact h.write hfull
  · exact h.write hfull

lemma bind_bindings (s : SharedUdpClientState) (address : Addr) (reference : SharedUdpRedirectReference)
    (original : SharedUdpOriginalDestination) : (s.bind address reference original).1.bindings =
      s.bindings.insert original.destination (newBinding address reference original) := by
  unfold bind deleteUnusedOriginalLocked
  split
  · split
    · split <;> rfl
    · rfl
  · rfl

end SharedUdpClientState

/-! ## References -/

def SharedUdpRedirectBinding.hold (b : SharedUdpRedirectBinding) (r : SharedUdpRedirectReference) : Nat :=
  (!b.connected && b.reference == r).toNat

def reported (releases : List SharedUdpRedirectRelease) (r : SharedUdpRedirectReference) : Nat :=
  (releases.map (·.reference)).count r

def drops (before after : Nat) : Nat := if 0 < before ∧ after = 0 then 1 else 0

lemma drops_self (a : Nat) : drops a a = 0 := if_neg (by omega)

lemma drops_trans {a b c : Nat} (hab : b ≤ a) (hbc : c ≤ b) : drops a b + drops b c = drops a c := by
  unfold drops
  split <;> split <;> split <;> omega

namespace SharedUdpClientTable
variable {t : SharedUdpClientTable}

lemma releaseBinding_refs {b : SharedUdpRedirectBinding} (h : ∀ r, b.hold r ≤ t.redirectReferences r)
    (r : SharedUdpRedirectReference) :
    (t.releaseBinding b).1.redirectReferences r + b.hold r = t.redirectReferences r ∧
    reported (t.releaseBinding b).2 r =
      drops (t.redirectReferences r) ((t.releaseBinding b).1.redirectReferences r) := by
  have hb := h b.reference
  cases hc : b.connected with
  | true => simp [releaseBinding, hc, hold, reported, drops_self]
  | false =>
    simp only [hold, hc, Bool.not_false, Bool.true_and, beq_self_eq_true, Bool.toNat_true] at hb ⊢
    simp only [releaseBinding, releaseRedirectLocked, hc, Bool.false_eq_true, if_false]
    by_cases hr : b.reference = r
    · subst hr
      by_cases hmany : t.redirectReferences b.reference > 1
      · simp only [hmany, reported, drops, if_true, update_self]
        exact ⟨by simp; omega, (if_neg (by omega)).symm⟩
      have hone : t.redirectReferences b.reference = 1 := by omega
      simp [hone, reported, drops]
    · have hne : r ≠ b.reference := Ne.symm hr
      by_cases hmany : t.redirectReferences b.reference > 1
      · simp [hmany, hr, hne, reported, drops_self]
      have hone : t.redirectReferences b.reference = 1 := by omega
      simp [hone, hr, hne, reported, drops_self]

variable (bindings : List SharedUdpRedirectBinding)

lemma releaseAll_refs
    (h : ∀ r, (bindings.map (·.hold r)).sum ≤ t.redirectReferences r) (r : SharedUdpRedirectReference) :
    (t.releaseAll bindings).1.redirectReferences r + (bindings.map (·.hold r)).sum = t.redirectReferences r ∧
    reported (t.releaseAll bindings).2 r =
      drops (t.redirectReferences r) ((t.releaseAll bindings).1.redirectReferences r) := by
  induction bindings generalizing t with
  | nil => exact ⟨rfl, (drops_self _).symm⟩
  | cons b bindings ih =>
    simp only [List.map_cons, List.sum_cons] at h ⊢
    have hhere := releaseBinding_refs (t := t) (b := b) fun r => Nat.le_trans (Nat.le_add_right ..) (h r)
    obtain ⟨hrefs, hreport⟩ := ih (t := (t.releaseBinding b).1) fun r => by have := (hhere r).1; have := h r; omega
    obtain ⟨hrefs', hreport'⟩ := hhere r
    refine ⟨by simp only [releaseAll]; omega, ?_⟩
    simp only [releaseAll, reported, List.map_append, List.count_append] at hreport hreport' ⊢
    rw [hreport, hreport']
    exact drops_trans (by omega) (by omega)

/-! ## The table -/

/-- How many bindings that retain the reference the client states of the table have. -/
def number (t : SharedUdpClientTable) (r : SharedUdpRedirectReference) : Nat :=
  weigh (fun e => (t.states e.2).retained r) t.clients

structure Good (t : SharedUdpClientTable) : Prop where
  states : ∀ id, (t.states id).Good
  injective : ∀ k k' id, t.clients.lookup k = some id → t.clients.lookup k' = some id → k = k'
  allocated : ∀ k id, t.clients.lookup k = some id → id < t.next
  counted : ∀ r, t.redirectReferences r = t.number r

lemma good_empty : ({} : SharedUdpClientTable).Good where
  states _ := SharedUdpClientState.good_empty
  injective _ _ _ h := by cases h
  allocated _ _ h := by cases h
  counted _ := rfl

/-- Two tables that differ in the index and the counts only. -/
structure SameClients (t t' : SharedUdpClientTable) : Prop where
  clients : t'.clients = t.clients
  states : t'.states = t.states
  next : t'.next = t.next

lemma SameClients.refl (t : SharedUdpClientTable) : SameClients t t := ⟨rfl, rfl, rfl⟩

variable {t' : SharedUdpClientTable} {key : UdpSessionKey} {id : Nat}

lemma SameClients.trans {t t'' : SharedUdpClientTable} (h : SameClients t t') (h' : SameClients t' t'') :
    SameClients t t'' :=
  ⟨h'.clients.trans h.clients, h'.states.trans h.states, h'.next.trans h.next⟩

section
variable (t : SharedUdpClientTable)

lemma dropSession_same (key : UdpSessionKey) (address : Addr) : SameClients t (t.dropSession key address) ∧
    (t.dropSession key address).redirectReferences = t.redirectReferences := by
  unfold dropSession
  split <;> exact ⟨⟨rfl, rfl, rfl⟩, rfl⟩

lemma dropSessions_same (key : UdpSessionKey) (addresses : List Addr) :
    SameClients t (addresses.foldl (fun t address => t.dropSession key address) t) ∧
    (addresses.foldl (fun t address => t.dropSession key address) t).redirectReferences = t.redirectReferences := by
  induction addresses generalizing t with
  | nil => exact ⟨.refl t, rfl⟩
  | cons a addresses ih =>
    obtain ⟨hsame, hrefs⟩ := t.dropSession_same key a
    obtain ⟨hsame', hrefs'⟩ := ih (t.dropSession key a)
    exact ⟨hsame.trans hsame', hrefs'.trans hrefs⟩

lemma releaseBinding_same (b : SharedUdpRedirectBinding) : SameClients t (t.releaseBinding b).1 := by
  unfold releaseBinding releaseRedirectLocked
  split
  · exact .refl t
  split
  · exact ⟨rfl, rfl, rfl⟩
  · split <;> exact ⟨rfl, rfl, rfl⟩

lemma releaseAll_same : SameClients t (t.releaseAll bindings).1 := by
  induction bindings generalizing t with
  | nil => exact .refl t
  | cons b bindings ih => exact (t.releaseBinding_same b).trans (ih _)

end

lemma Good.number_setState (h : t.Good) (hkey : t.clients.lookup key = some id)
    (s : SharedUdpClientState) (r : SharedUdpRedirectReference) :
    (t.setState id s).number r + (t.states id).retained r = t.number r + s.retained r := by
  have hupdate := weigh_update (m := t.clients) (a := key) (f := fun e => (t.states e.2).retained r)
    (g := fun e => ((t.setState id s).states e.2).retained r) (fun e he hne => by
      have hid : e.2 ≠ id := fun heq =>
        hne (h.injective _ _ _ (mem_lookup_iff.2 he) (hkey.trans (congrArg some heq.symm)))
      simp [setState, update_of_ne hid])
  have hold : weightAt (fun e => (t.states e.2).retained r) t.clients key = (t.states id).retained r := by
    simp [weightAt, hkey]
  have hnew : weightAt (fun e => ((t.setState id s).states e.2).retained r) t.clients key = s.retained r := by
    simp [weightAt, hkey, setState]
  rw [hold, hnew] at hupdate
  exact hupdate

lemma Good.retained_le (h : t.Good) (hkey : t.clients.lookup key = some id)
    (r : SharedUdpRedirectReference) : (t.states id).retained r ≤ t.redirectReferences r := by
  rw [h.counted]
  have := weightAt_le (fun e => (t.states e.2).retained r) t.clients key
  simpa [weightAt, hkey, number] using this

section
variable (s : SharedUdpClientState)

/-- What one binding holds of the references, when there is one. -/
def holdAt (destination : AddrPort) (r : SharedUdpRedirectReference) : Nat :=
  (s.bindings.lookup destination).elim 0 (·.hold r)

lemma holdAt_le (destination : AddrPort) (r : SharedUdpRedirectReference) :
    holdAt s destination r ≤ s.retained r := by
  have := weightAt_le (fun e => e.2.hold r) s.bindings destination
  exact this

lemma retained_bind (address : Addr) (reference r : SharedUdpRedirectReference)
    (original : SharedUdpOriginalDestination) :
    (s.bind address reference original).1.retained r + holdAt s original.destination r =
      s.retained r + (newBinding address reference original).hold r := by
  have := weigh_insert (fun e => e.2.hold r) s.bindings original.destination
    (newBinding address reference original)
  rw [retained, bind_bindings]
  exact this

end

lemma Good.of_states (h : t.Good) (hclients : t'.clients = t.clients)
    (hnext : t'.next = t.next) (hstates : ∀ id, (t'.states id).Good)
    (hcounted : ∀ r, t'.redirectReferences r = t'.number r) : t'.Good where
  states := hstates
  injective := hclients ▸ h.injective
  allocated := by rw [hclients, hnext]; exact h.allocated
  counted := hcounted

lemma setState_good (id : Nat) {s : SharedUdpClientState} (h : ∀ id, (t.states id).Good) (hs : s.Good) (id' : Nat) :
    ((t.setState id s).states id').Good := by
  by_cases heq : id' = id
  · subst heq
    simpa [setState] using hs
  · simpa [setState, update_of_ne heq] using h id'

/-- Writing the index and retaining the new reference, before the old binding is released. -/
lemma setClientBinding_installed (key : UdpSessionKey) {address : Addr}
    (reference : SharedUdpRedirectReference) {original : SharedUdpOriginalDestination}
    (hnot : ((t.states id).bound address original || (t.states id).full original) = false) :
    ∃ t₁, SameClients (t.setState id ((t.states id).bind address reference original).1) t₁ ∧
      (∀ r, t₁.redirectReferences r = t.redirectReferences r + (newBinding address reference original).hold r) ∧
      t.setClientBinding key id address reference original =
        match (t.states id).bindings.lookup original.destination with
        | some current => ((t₁.releaseBinding current).1, (t₁.releaseBinding current).2, true)
        | none => (t₁, [], true) := by
  have hretain : ∀ t₀ : SharedUdpClientTable, t₀.redirectReferences = t.redirectReferences →
      SameClients t₀ (if original.connectedUDP then t₀ else t₀.retainRedirectLocked reference) ∧
      ∀ r, (if original.connectedUDP then t₀ else t₀.retainRedirectLocked reference).redirectReferences r =
        t.redirectReferences r + (newBinding address reference original).hold r := by
    intro t₀ ht₀
    cases hc : original.connectedUDP with
    | true => exact ⟨.refl t₀, fun r => by simp [newBinding, hold, hc, ht₀]⟩
    | false =>
      refine ⟨⟨rfl, rfl, rfl⟩, fun r => ?_⟩
      by_cases hr : r = reference
      · simp [retainRedirectLocked, newBinding, hold, hc, hr, ht₀]
      · simp [retainRedirectLocked, newBinding, hold, hc, hr, ht₀, Ne.symm hr]
  let t₁ := (t.setState id ((t.states id).bind address reference original).1).setSession reference key
  have hindex : SameClients (t.setState id ((t.states id).bind address reference original).1) t₁ := ⟨rfl, rfl, rfl⟩
  obtain ⟨hsame, hrefs⟩ := hretain t₁ rfl
  simp only [setClientBinding, hnot, false_eq_true, if_false]
  cases hl : (t.states id).bindings.lookup original.destination with
  | none => exact ⟨_, hindex.trans hsame, hrefs, rfl⟩
  | some current =>
    cases hunused : ((t.states id).bind address reference original).2 with
    | false => exact ⟨_, hindex.trans hsame, hrefs, rfl⟩
    | true =>
      obtain ⟨hdrop, hdropRefs⟩ := dropSession_same t₁ key current.address
      obtain ⟨hsame, hrefs⟩ := hretain _ hdropRefs
      exact ⟨_, (hindex.trans hdrop).trans hsame, hrefs, rfl⟩

lemma SameClients.number (h : SameClients t t') (r : SharedUdpRedirectReference) : t'.number r = t.number r := by
  rw [SharedUdpClientTable.number, SharedUdpClientTable.number, h.clients, h.states]

/-- What a call leaves: a good table, with a release reported for each number that drops to zero. -/
structure Reports (t t' : SharedUdpClientTable) (releases : List SharedUdpRedirectRelease) : Prop where
  good : t'.Good
  reports : ∀ r, reported releases r = drops (t.number r) (t'.number r)

lemma Good.reports_nothing (h : t.Good) : Reports t t [] := ⟨h, fun _ => (drops_self _).symm⟩

lemma Good.setClientBinding (h : t.Good) (hkey : t.clients.lookup key = some id)
    (address : Addr) (reference : SharedUdpRedirectReference) (original : SharedUdpOriginalDestination) :
    Reports t (t.setClientBinding key id address reference original).1
      (t.setClientBinding key id address reference original).2.1 := by
  cases hnot : ((t.states id).bound address original || (t.states id).full original) with
  | true =>
    simp only [SharedUdpClientTable.setClientBinding, hnot, if_true]
    exact h.reports_nothing
  | false =>
    obtain ⟨t₁, hsame, hrefs, heq⟩ := setClientBinding_installed key reference hnot
    have hfull : (t.states id).full original = false := (or_eq_false_iff.1 hnot).2
    have hstates := setState_good id h.states ((h.states id).bind address reference hfull)
    -- the number moves by the new binding and the one it replaces
    have hnumber : ∀ r, t₁.number r + holdAt (t.states id) original.destination r =
        t.number r + (SharedUdpClientState.newBinding address reference original).hold r := by
      intro r
      have h1 := h.number_setState hkey ((t.states id).bind address reference original).1 r
      have h2 := retained_bind (t.states id) address reference r original
      rw [hsame.number r]
      omega
    have hle : ∀ r, holdAt (t.states id) original.destination r ≤ t.redirectReferences r :=
      fun r => Nat.le_trans (holdAt_le ..) (h.retained_le hkey r)
    rw [heq]
    cases hl : (t.states id).bindings.lookup original.destination with
    | none =>
      have hzero : ∀ r, holdAt (t.states id) original.destination r = 0 := fun r => by simp [holdAt, hl]
      refine ⟨h.of_states hsame.clients hsame.next (by rw [hsame.states]; exact hstates) fun r => ?_, fun r => ?_⟩
      · have := hnumber r
        have := hzero r
        change t₁.redirectReferences r = t₁.number r
        rw [hrefs, h.counted]
        omega
      · have := hnumber r
        have := hzero r
        exact (if_neg (show ¬ (0 < t.number r ∧ t₁.number r = 0) by omega)).symm
    | some current =>
      have hold : ∀ r, holdAt (t.states id) original.destination r = current.hold r := fun r => by simp [holdAt, hl]
      have hreleased := releaseBinding_refs (t := t₁) (b := current) fun r => by
        have := hle r
        rw [hold] at this
        rw [hrefs]
        omega
      have hsame' := hsame.trans (t₁.releaseBinding_same current)
      have hcounted : ∀ r, (t₁.releaseBinding current).1.redirectReferences r = (t₁.releaseBinding current).1.number r := by
        intro r
        have h1 := hnumber r
        have h2 := (hreleased r).1
        rw [hold] at h1
        rw [hrefs, h.counted] at h2
        rw [(t₁.releaseBinding_same current).number r]
        omega
      refine ⟨h.of_states hsame'.clients hsame'.next (by rw [hsame'.states]; exact hstates) hcounted, fun r => ?_⟩
      have h2 := (hreleased r).1
      have h3 := hle r
      rw [hold] at h3
      rw [(hreleased r).2, ← hcounted, ← h.counted]
      rw [hrefs] at h2 ⊢
      unfold drops
      split <;> split <;> omega

lemma Good.loadOrCreateLocked (h : t.Good) (key : UdpSessionKey) :
    (t.loadOrCreateLocked key).1.Good ∧ (∀ r, (t.loadOrCreateLocked key).1.number r = t.number r) ∧
    (t.loadOrCreateLocked key).1.clients.lookup key = some (t.loadOrCreateLocked key).2 := by
  unfold SharedUdpClientTable.loadOrCreateLocked
  split
  next id hid => exact ⟨h, fun _ => rfl, hid⟩
  next hnone =>
    have hstates : ∀ id, id ≠ t.next → update t.states t.next {} id = t.states id :=
      fun id hne => update_of_ne hne ..
    have hold : ∀ e ∈ t.clients.entries, e.2 ≠ t.next := fun e he heq =>
      absurd (h.allocated _ _ (mem_lookup_iff.2 he)) (by omega)
    have hnumber : ∀ r, weigh (fun e => (update t.states t.next {} e.2).retained r)
        (t.clients.insert key t.next) = t.number r := by
      intro r
      have hinsert := weigh_insert (fun e => (update t.states t.next {} e.2).retained r) t.clients key t.next
      have hempty : (update t.states t.next {} t.next).retained r = 0 := by
        rw [update_self]
        rfl
      have hsame : weigh (fun e => (update t.states t.next {} e.2).retained r) t.clients = t.number r :=
        weigh_congr fun e he => by rw [hstates e.2 (hold e he)]
      simp only [weightAt, hnone, Option.elim_none, hempty, hsame] at hinsert
      omega
    have hlookup : ∀ k id, (t.clients.insert key t.next).lookup k = some id →
        k = key ∧ id = t.next ∨ k ≠ key ∧ t.clients.lookup k = some id := by
      intro k id hk
      by_cases heq : k = key
      · subst heq
        rw [lookup_insert] at hk
        exact .inl ⟨rfl, (Option.some.inj hk).symm⟩
      · rw [lookup_insert_ne heq] at hk
        exact .inr ⟨heq, hk⟩
    refine ⟨⟨fun id => ?_, fun k k' id hk hk' => ?_, fun k id hk => ?_, fun r => ?_⟩, hnumber, lookup_insert _⟩
    · by_cases heq : id = t.next
      · subst heq
        dsimp only
        rw [update_self]
        exact SharedUdpClientState.good_empty
      · dsimp only
        rw [hstates id heq]
        exact h.states id
    · obtain ⟨hkey, hid⟩ | ⟨-, hold⟩ := hlookup k id hk <;> obtain ⟨hkey', hid'⟩ | ⟨-, hold'⟩ := hlookup k' id hk'
      · exact hkey.trans hkey'.symm
      · exact absurd (h.allocated _ _ hold') (by omega)
      · exact absurd (h.allocated _ _ hold) (by omega)
      · exact h.injective _ _ _ hold hold'
    · obtain ⟨-, hid⟩ | ⟨-, hold⟩ := hlookup k id hk
      · exact Nat.lt_succ_of_le (Nat.le_of_eq hid)
      · exact Nat.lt_succ_of_lt (h.allocated _ _ hold)
    · exact (h.counted r).trans (hnumber r).symm

/-- What a deletion that finds its state does to the counts: every binding of the state is released. -/
lemma Good.deleteClient_found (h : t.Good) (hkey : t.clients.lookup key = some id) :
    ∃ t₁, SameClients { t with clients := t.clients.erase key } t₁ ∧
      (t.deleteClient key id).1 = t₁.setState id (t.states id).clear ∧
      ∀ r, t₁.redirectReferences r + (t.states id).retained r = t.redirectReferences r ∧
        reported (t.deleteClient key id).2 r = drops (t.redirectReferences r) (t₁.redirectReferences r) := by
  obtain ⟨hdrop, hdropRefs⟩ := dropSessions_same { t with clients := t.clients.erase key } key
    (t.states id).originals.keys
  have hsum : ∀ r, (((t.states id).bindings.entries.map (·.2)).map (·.hold r)).sum = (t.states id).retained r := by
    intro r
    rw [List.map_map]
    rfl
  have hreleased := fun r => releaseAll_refs ((t.states id).bindings.entries.map (·.2)) (fun r => by
    rw [hsum, hdropRefs]
    exact h.retained_le hkey r) r
  simp only [hsum, hdropRefs] at hreleased
  simp only [deleteClient, hkey, ne_eq, not_true_eq_false, if_false]
  exact ⟨_, hdrop.trans (releaseAll_same _ _), rfl, hreleased⟩

lemma lookup_of_erase {k : UdpSessionKey} (h : (t.clients.erase key).lookup k = some id) :
    k ≠ key ∧ t.clients.lookup k = some id := by
  by_cases heq : k = key
  · subst heq
    rw [lookup_erase] at h
    cases h
  · rw [lookup_erase_ne heq] at h
    exact ⟨heq, h⟩

lemma Good.deleteClient (h : t.Good) (key : UdpSessionKey) (id : Nat) :
    Reports t (t.deleteClient key id).1 (t.deleteClient key id).2 := by
  by_cases hkey : t.clients.lookup key = some id
  · obtain ⟨t₁, hsame, heq, hreleased⟩ := h.deleteClient_found hkey
    rw [heq]
    have hclients : (t₁.setState id (t.states id).clear).clients = t.clients.erase key := hsame.clients
    have hnumber : ∀ r, (t₁.setState id (t.states id).clear).number r + (t.states id).retained r = t.number r := by
      intro r
      have herase := weigh_erase (fun e => (t.states e.2).retained r) t.clients key
      simp only [weightAt, hkey, Option.elim_some] at herase
      have hrest : (t₁.setState id (t.states id).clear).number r =
          weigh (fun e => (t.states e.2).retained r) (t.clients.erase key) := by
        rw [SharedUdpClientTable.number, SharedUdpClientTable.setState, hsame.states, hsame.clients]
        refine weigh_congr fun e he => ?_
        -- no other key has the state that is cleared
        obtain ⟨hne, hk⟩ := lookup_of_erase (mem_lookup_iff.2 he)
        have hid : e.2 ≠ id := fun hid => hne (h.injective _ _ _ (hid ▸ hk) hkey)
        dsimp only
        rw [update_of_ne hid]
      rw [hrest]
      exact herase
    have hcounted : ∀ r, t₁.redirectReferences r = (t₁.setState id (t.states id).clear).number r := by
      intro r
      have h1 := (hreleased r).1
      have h2 := hnumber r
      rw [h.counted] at h1
      omega
    refine ⟨⟨setState_good id (by rw [hsame.states]; exact h.states) (h.states id).clear, fun k k' id' hk hk' => ?_,
      fun k id' hk => ?_, hcounted⟩, fun r => ?_⟩
    · rw [hclients] at hk hk'
      exact h.injective _ _ _ (lookup_of_erase hk).2 (lookup_of_erase hk').2
    · rw [hclients] at hk
      have hnext : (t₁.setState id (t.states id).clear).next = t.next := hsame.next
      rw [hnext]
      exact h.allocated _ _ (lookup_of_erase hk).2
    · rw [(hreleased r).2, ← hcounted r, ← h.counted r]
  · simp only [SharedUdpClientTable.deleteClient, ne_eq, hkey, not_false_eq_true, if_true]
    exact h.reports_nothing

lemma Good.call (h : t.Good) (call : SharedCall) : Reports t (t.call call).1 (t.call call).2 := by
  cases call with
  | setBindingState key address reference original =>
    obtain ⟨hgood, hnumber, hkey⟩ := h.loadOrCreateLocked key
    obtain ⟨hres, hreports⟩ := hgood.setClientBinding hkey address reference original
    exact ⟨hres, fun r => (hreports r).trans (by rw [hnumber r]; rfl)⟩
  | setExistingBindingState key expected address reference original =>
    simp only [SharedUdpClientTable.call, SharedUdpClientTable.setExistingBindingState]
    split
    · exact h.reports_nothing
    next hkey => exact h.setClientBinding (not_not.1 hkey) address reference original
  | setConnected state connected destination =>
    have hretained : ∀ id r, ((t.setState state ((t.states state).setConnected connected destination)).states id).retained
        r = (t.states id).retained r := by
      intro id r
      by_cases heq : id = state
      · subst heq
        cases connected <;> simp [SharedUdpClientTable.setState, SharedUdpClientState.setConnected,
          SharedUdpClientState.retained]
      · simp [SharedUdpClientTable.setState, update_of_ne heq]
    have hnumber : ∀ r, (t.setState state ((t.states state).setConnected connected destination)).number r = t.number r :=
      fun r => weigh_congr fun e _ => hretained e.2 r
    refine ⟨h.of_states rfl rfl (setState_good state h.states ((h.states state).setConnected connected destination)) fun r => ?_,
      fun r => ?_⟩
    · exact (h.counted r).trans (hnumber r).symm
    change 0 = drops _ ((t.setState state ((t.states state).setConnected connected destination)).number r)
    rw [hnumber r, drops_self]
  | deleteClient key expected => exact h.deleteClient key expected

lemma Good.after (h : t.Good) (calls : List SharedCall) : (t.after calls).Good := by
  induction calls generalizing t with
  | nil => exact h
  | cons call calls ih => exact ih (h.call call).good

end SharedUdpClientTable

open SharedUdpClientTable in
/-- After any calls on any keys: the count of a reference is the number of bindings that retain it over the client
states of the table, and the next call reports its release exactly when it makes that number drop to zero; the count
of reply aliases of a state is the number of its alias bindings and at most 64; every bound address has its original;
and the connected binding is none or the one of the connected destination. -/
theorem shared_references_counted (calls : List SharedCall) :
    (∀ r, (after {} calls).redirectReferences r = (after {} calls).number r) ∧
    (∀ call r, ((((after {} calls).call call).2).map (·.reference)).count r =
      if 0 < (after {} calls).number r ∧
        ((after {} calls).call call).1.number r = 0 then 1 else 0) ∧
    ∀ id, (((after {} calls).states id).replyAliasCount =
        count (fun e => e.2.replyAlias) ((after {} calls).states id).bindings ∧
      ((after {} calls).states id).replyAliasCount ≤ 64) ∧
      (∀ destination b, ((after {} calls).states id).bindings.lookup destination = some b →
        b.address ∈ ((after {} calls).states id).originals) ∧
      (((after {} calls).states id).connectedBinding = none ∨
        ((after {} calls).states id).connectedBinding =
          ((after {} calls).states id).bindings.lookup
            ((after {} calls).states id).connectedDestination) := by
  have hgood := good_empty.after calls
  refine ⟨hgood.counted, fun call r => (hgood.call call).reports r, fun id => ?_⟩
  have hs := hgood.states id
  exact ⟨⟨hs.aliases, hs.limit⟩, hs.originals, hs.connected⟩

end SingBox.Ebpf
