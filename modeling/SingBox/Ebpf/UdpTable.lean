import Mathlib.Data.List.AList
import SingBox.Lib.Threads
import SingBox.Netip
/-!
# The table of UDP clients

A client state is found by its session key in one of sixteen shards, and by the
client and a redirect address in the index `redirectSessions`. Each shard, each client state and the index have
their own lock. The machine takes the steps they protect, in any interleaving.

The direct (TC) bindings are left out, and with them the TC part of a cleanup.
-/
namespace SingBox.Ebpf
open List Function Threads Machine

inductive UdpSessionScope
  | localCgroup
  | localTC
  | sharedTC
  | sharedRewrite
  deriving DecidableEq

structure UdpSessionKey where
  source : AddrPort
  scope : UdpSessionScope
  socketCookie : Nat
  interfaceIndex : Nat := 0
  deriving DecidableEq

/-- `commonEBPF.OriginalDestination`, as far as the table reads it. -/
structure OriginalDestination where
  destination : AddrPort
  connectedUDP : Bool := false
  socketCookie : Nat := 0
  deriving DecidableEq

/-- The bytes of `As16`: an IPv4 address is mapped. -/
def as16 (a : Addr) : List UInt64 :=
  let bits : Nat := match a with
    | .invalid => 0
    | .v4 b => 0xffff * 2 ^ 32 + b.toNat
    | .v6 b => b.toNat
  (range 16).map fun i => UInt64.ofNat (bits / 2 ^ (8 * (15 - i)) % 256)

def shardIndexForAddrPort (addrPort : AddrPort) (shardCount : UInt64) : UInt64 :=
  let mix := fun (hash b : UInt64) => (hash ^^^ b) * 1099511628211
  let hash := (as16 addrPort.addr).foldl mix 14695981039346656037
  let hash := mix (mix hash addrPort.port.toUInt64) (addrPort.port >>> 8).toUInt64
  hash &&& (shardCount - 1)

def udpClientShardCount : UInt64 := 16
def udpReplyAliasLimit : Nat := 64
def UdpSessionKey.clientShard (key : UdpSessionKey) : UInt64 := shardIndexForAddrPort key.source udpClientShardCount

structure UdpRedirectBinding where
  replyAlias : Bool := false
  redirectAddress : Addr
  connected : Bool := false

structure UdpClientState where
  socketCookie : Nat := 0
  bindings : AList (fun _ : AddrPort => UdpRedirectBinding) := ∅
  replyAliasCount : Nat := 0
  closed : Bool := false
  cgroupDataPlane : Bool := false
  cgroupOriginals : AList (fun _ : Addr => OriginalDestination) := ∅

/-- The part of `setCgroupBinding` under the state's lock. -/
def UdpClientState.bind (s : UdpClientState) (original : OriginalDestination) (address : Addr) : UdpClientState :=
  { s with
    cgroupOriginals := s.cgroupOriginals.insert address original
    socketCookie := original.socketCookie
    cgroupDataPlane := true
    bindings := s.bindings.insert original.destination
      { redirectAddress := address, connected := original.connectedUDP } }

/-- The part of `setCgroupReplyBinding` under the state's lock, when the binding is not refused. -/
def UdpClientState.bindReply (s : UdpClientState) (destination : AddrPort) (address : Addr) : UdpClientState :=
  { s with
    cgroupOriginals := s.cgroupOriginals.insert address { destination }
    cgroupDataPlane := true
    bindings := s.bindings.insert destination { replyAlias := true, redirectAddress := address }
    replyAliasCount := s.replyAliasCount + 1 }

/-- The part of `deleteWithCleanup` under the state's lock. -/
def UdpClientState.clear (s : UdpClientState) : UdpClientState :=
  { s with closed := true, bindings := ∅, cgroupOriginals := ∅, cgroupDataPlane := false, replyAliasCount := 0 }

/-- The table. A client state is a cell of the heap `states`; `next` is the first cell not yet allocated. The last
two fields are history: the addresses recorded in each state and the ones returned by the deletion of each. -/
structure UdpClientTable where
  clients : UdpSessionKey → Option Nat := fun _ => none
  states : Nat → UdpClientState := fun _ => {}
  next : Nat := 0
  redirectSessions : AddrPort × Addr → Option UdpSessionKey := fun _ => none
  recorded : List (Nat × Addr) := []
  returned : List (Nat × Addr) := []

/-- The operations, with the client state that a caller expects under the key. -/
inductive TableOp
  | setCgroupBinding (key : UdpSessionKey) (original : OriginalDestination) (address : Addr)
  | setCgroupReplyBinding (key : UdpSessionKey) (expected : Nat) (destination : AddrPort) (address : Addr)
  | cachedCgroupOriginal (client : AddrPort) (address : Addr)
  | deleteWithCleanup (key : UdpSessionKey) (expected : Nat)

/-- Where a goroutine is: before the named step of its operation. -/
inductive TablePlace
  | idle
  | bindLoad (key : UdpSessionKey) (original : OriginalDestination) (address : Addr)
  | bindCreate (key : UdpSessionKey) (original : OriginalDestination) (address : Addr)
  | bindState (key : UdpSessionKey) (state : Nat) (original : OriginalDestination) (address : Addr)
  | bindRedirect (key : UdpSessionKey) (state : Nat) (address : Addr)
  | replyShard (key : UdpSessionKey) (expected : Nat) (destination : AddrPort) (address : Addr)
  | replyState (key : UdpSessionKey) (expected : Nat) (destination : AddrPort) (address : Addr)
  | replyRedirect (key : UdpSessionKey) (expected : Nat) (address : Addr)
  | cachedSession (client : AddrPort) (address : Addr)
  | cachedLoad (key : UdpSessionKey) (address : Addr)
  | cachedState (state : Nat) (address : Addr)
  | deleteShard (key : UdpSessionKey) (expected : Nat)
  | deleteState (key : UdpSessionKey) (expected : Nat)
  | deleteRedirect (key : UdpSessionKey) (expected : Nat) (redirects : List Addr)
  deriving DecidableEq

def TableOp.start : TableOp → TablePlace
  | .setCgroupBinding key original address => .bindLoad key original address
  | .setCgroupReplyBinding key expected destination address => .replyShard key expected destination address
  | .cachedCgroupOriginal client address => .cachedSession client address
  | .deleteWithCleanup key expected => .deleteShard key expected

namespace TablePlace

/-- The shard whose lock is held for writing. A deletion keeps it to its end. -/
def writes : TablePlace → Option UInt64
  | .deleteState key _ | .deleteRedirect key _ _ => some key.clientShard
  | _ => none

/-- The shard whose lock is held for reading. A reply binding keeps it to its end. -/
def reads : TablePlace → Option UInt64
  | .replyState key _ _ _ | .replyRedirect key _ _ => some key.clientShard
  | _ => none

def locks : TablePlace → Option Nat
  | .replyRedirect _ state _ => some state
  | _ => none

/-- The client state a `setCgroupBinding` has loaded and not yet finished with. -/
def binds : TablePlace → Option Nat
  | .bindState _ state _ _ | .bindRedirect _ state _ => some state
  | _ => none

end TablePlace

inductive TableAction
  | start (op : TableOp)
  | next

section Machine
variable {n : Nat}

abbrev TableConfig (n : Nat) := Config UdpClientTable TablePlace n

def TableConfig.readable (c : TableConfig n) (key : UdpSessionKey) : Bool :=
  decide (∀ j, (c.pc j).writes ≠ some key.clientShard)

def TableConfig.writable (c : TableConfig n) (key : UdpSessionKey) : Bool :=
  decide (∀ j, (c.pc j).writes ≠ some key.clientShard ∧ (c.pc j).reads ≠ some key.clientShard)

def TableConfig.unlocked (c : TableConfig n) (state : Nat) : Bool := decide (∀ j, (c.pc j).locks ≠ some state)

namespace UdpClientTable
variable (t : UdpClientTable)

def setState (id : Nat) (s : UdpClientState) : UdpClientTable :=
  { t with states := update t.states id s }

variable (key : UdpSessionKey)

def create : UdpClientTable :=
  { t with
    clients := update t.clients key (some t.next)
    states := update t.states t.next {}
    next := t.next + 1 }

/-- `state.cgroupOriginals[address]` is written: the new state and the record of it. -/
def record (id : Nat) (s : UdpClientState) (address : Addr) : UdpClientTable :=
  { t.setState id s with recorded := (id, address) :: t.recorded }

def setSession (address : Addr) : UdpClientTable :=
  { t with redirectSessions := update t.redirectSessions (key.source, address) (some key) }

def remove : UdpClientTable :=
  { t with clients := update t.clients key none }

/-- The last part of `deleteWithCleanup`: its entries leave the index and it returns the addresses. -/
def finishDelete (id : Nat) (redirects : List Addr) : UdpClientTable :=
  { t with
    redirectSessions := fun entry =>
      if entry.1 = key.source ∧ entry.2 ∈ redirects ∧ t.redirectSessions entry = some key then none
      else t.redirectSessions entry
    returned := redirects.map (fun address => (id, address)) ++ t.returned }

end UdpClientTable

/-- The next step of the operation that goroutine `i` is in, when the locks it takes are free. -/
def TableConfig.advance (c : TableConfig n) (i : Fin n) : Option (UdpClientTable × TablePlace) :=
  let t := c.shared
  match c.pc i with
  | .idle => none
  | .bindLoad key original address =>
    if c.readable key then
      match t.clients key with
      | some state => some (t, .bindState key state original address)
      | none => some (t, .bindCreate key original address)
    else none
  | .bindCreate key original address =>
    if c.writable key then
      match t.clients key with
      | some state => some (t, .bindState key state original address)
      | none => some (t.create key, .bindState key t.next original address)
    else none
  | .bindState key state original address =>
    if c.unlocked state then
      some (t.record state ((t.states state).bind original address) address, .bindRedirect key state address)
    else none
  | .bindRedirect key _ address => some (t.setSession key address, .idle)
  | .replyShard key expected destination address =>
    if c.readable key then
      if t.clients key = some expected then some (t, .replyState key expected destination address) else some (t, .idle)
    else none
  | .replyState key expected destination address =>
    if c.unlocked expected then
      if (t.states expected).closed || decide ((t.states expected).replyAliasCount ≥ udpReplyAliasLimit) then
        some (t, .idle)
      else
        some (t.record expected ((t.states expected).bindReply destination address) address,
          .replyRedirect key expected address)
    else none
  | .replyRedirect key _ address => some (t.setSession key address, .idle)
  | .cachedSession client address =>
    match t.redirectSessions (client, address) with
    | some key => some (t, .cachedLoad key address)
    | none => some (t, .idle)
  | .cachedLoad key address =>
    if c.readable key then
      match t.clients key with
      | some state => some (t, .cachedState state address)
      | none => some (t, .idle)
    else none
  | .cachedState state _ => if c.unlocked state then some (t, .idle) else none
  | .deleteShard key expected =>
    if c.writable key then
      if t.clients key = some expected then
        some (t.remove key, .deleteState key expected)
      else some (t, .idle)
    else none
  | .deleteState key expected =>
    if c.unlocked expected then
      some (t.setState expected (t.states expected).clear,
        .deleteRedirect key expected (t.states expected).cgroupOriginals.keys)
    else none
  | .deleteRedirect key expected redirects => some (t.finishDelete key expected redirects, .idle)

def TableConfig.act (c : TableConfig n) (i : Fin n) : TableAction → Option (UdpClientTable × TablePlace)
  | .start op => match c.pc i with
    | .idle => some (c.shared, op.start)
    | _ => none
  | .next => c.advance i

def TableConfig.init : TableConfig n := ⟨{}, fun _ => .idle⟩
def TableConfig.Quiet (c : TableConfig n) : Prop := ∀ i, c.pc i = .idle

instance (c : TableConfig n) : Decidable c.Quiet := inferInstanceAs (Decidable (∀ i, c.pc i = .idle))

end Machine

/-! ## What the goroutines know -/

namespace UdpClientTable

/-- The client state `id` records the address. -/
def Records (t : UdpClientTable) (id : Nat) (address : Addr) : Prop := address ∈ (t.states id).cgroupOriginals

/-- A deletion still has the address of state `id`, under `key`, to hand back and to take from the index. -/
def Owes (t : UdpClientTable) (key : UdpSessionKey) (id : Nat) (address : Addr) : TablePlace → Prop
  | .deleteState key' id' => key' = key ∧ id' = id ∧ t.Records id address
  | .deleteRedirect key' id' redirects => key' = key ∧ id' = id ∧ address ∈ redirects
  | _ => False

/-- State `id` has been in the table, has left it and nothing of it has been returned yet. -/
structure Left (t : UdpClientTable) (id : Nat) : Prop where
  absent : ∀ key, t.clients key ≠ some id
  allocated : id < t.next
  unreturned : ∀ address, (id, address) ∉ t.returned

def PlaceGood (t : UdpClientTable) : TablePlace → Prop
  | .bindState key id _ _ | .replyState key id _ _ => t.clients key = some id
  | .bindRedirect key id address | .replyRedirect key id address => t.clients key = some id ∧ t.Records id address
  | .deleteState key id => t.clients key = none ∧ t.Left id
  | .deleteRedirect key id redirects => t.clients key = none ∧ t.Left id ∧ redirects.Nodup
  | _ => True

end UdpClientTable

def TablePlace.deletes : TablePlace → Option Nat
  | .deleteState _ id | .deleteRedirect _ id _ => some id
  | _ => none

/-- Two goroutines exclude each other on the shard locks, and delete different states. -/
def TablePlace.Apart (p q : TablePlace) : Prop :=
  (∀ s, p.writes = some s → q.writes ≠ some s ∧ q.reads ≠ some s) ∧
  (∀ s, q.writes = some s → p.writes ≠ some s ∧ p.reads ≠ some s) ∧
  ∀ id, p.deletes = some id → q.deletes ≠ some id

open UdpClientTable TablePlace TableConfig Config

lemma TablePlace.Apart.symm {p q : TablePlace} (h : p.Apart q) : q.Apart p :=
  ⟨h.2.1, h.1, fun id hq hp => h.2.2 id hp hq⟩

lemma TablePlace.apart_of_free {p q : TablePlace} (h : (p.writes, p.reads, p.deletes) = (none, none, none)) :
    p.Apart q := by
  simp only [Prod.mk.injEq] at h
  obtain ⟨hw, hr, hd⟩ := h
  refine ⟨fun s hs => ?_, fun s _ => ?_, fun id hid => ?_⟩
  · rw [hw] at hs
    cases hs
  · rw [hw, hr]
    exact ⟨nofun, nofun⟩
  rw [hd] at hid
  cases hid

/-- The facts about the memory alone. -/
structure UdpClientTable.Good (t : UdpClientTable) : Prop where
  injective : ∀ k k' id, t.clients k = some id → t.clients k' = some id → k = k'
  allocated : ∀ k id, t.clients k = some id → id < t.next
  recorded_allocated : ∀ id address, (id, address) ∈ t.recorded → id < t.next
  returned_allocated : ∀ id address, (id, address) ∈ t.returned → id < t.next
  unreturned : ∀ k id, t.clients k = some id → ∀ address, (id, address) ∉ t.returned

section
variable {n : Nat}

/-- Between any two steps: an index entry leads to a recorded address or to a deletion that will take it out, and an
address ever recorded is still in a state of the table, is owed by a deletion, or has been returned once. -/
structure TableConfig.Good (c : TableConfig n) : Prop where
  table : c.shared.Good
  place : ∀ i, c.shared.PlaceGood (c.pc i)
  apart : ∀ i j, i ≠ j → (c.pc i).Apart (c.pc j)
  session : ∀ entry key, c.shared.redirectSessions entry = some key → key.source = entry.1 ∧
    ((∃ id, c.shared.clients key = some id ∧ c.shared.Records id entry.2) ∨
      ∃ i id, c.shared.Owes key id entry.2 (c.pc i))
  account : ∀ id address, (id, address) ∈ c.shared.recorded →
    ((∃ key, c.shared.clients key = some id) ∧ c.shared.Records id address) ∨
    (∃ i key, c.shared.Owes key id address (c.pc i)) ∨
    (∀ key, c.shared.clients key ≠ some id) ∧ c.shared.returned.count (id, address) = 1

lemma TableConfig.good_init : (init : TableConfig n).Good where
  table := ⟨nofun, nofun, nofun, nofun, nofun⟩
  place _ := trivial
  apart _ _ _ := apart_of_free rfl
  session := nofun
  account := nofun

variable {c : TableConfig n} {i : Fin n} {t : UdpClientTable} {p q : TablePlace}
variable {k key : UdpSessionKey} {id id' : Nat} {address : Addr} {state : UdpClientState}
  {redirects : List Addr}

/-- What a goroutine knows stays true when the states it is at work on stay, the keys it holds stay free, and the state
it deletes stays out of the table. -/
lemma UdpClientTable.PlaceGood.mono {t' : UdpClientTable} (h : t.PlaceGood p)
    (hlive : ∀ key id, p.binds = some id ∨ p.reads = some key.clientShard → t.clients key = some id →
      t'.clients key = some id ∧ ∀ address, t.Records id address → t'.Records id address)
    (hfree : ∀ key, p.writes = some key.clientShard → t.clients key = none → t'.clients key = none)
    (hleft : ∀ id, p.deletes = some id → t.Left id → t'.Left id) : t'.PlaceGood p := by
  cases p with
  | bindState key id original address => exact (hlive key id (.inl rfl) h).1
  | replyState key id destination address => exact (hlive key id (.inr rfl) h).1
  | bindRedirect key id address =>
    obtain ⟨hkey, hrec⟩ := hlive key id (.inl rfl) h.1
    exact ⟨hkey, hrec _ h.2⟩
  | replyRedirect key id address =>
    obtain ⟨hkey, hrec⟩ := hlive key id (.inr rfl) h.1
    exact ⟨hkey, hrec _ h.2⟩
  | deleteState key id => exact ⟨hfree key rfl h.1, hleft id rfl h.2⟩
  | deleteRedirect key id redirects => exact ⟨hfree key rfl h.1, hleft id rfl h.2.1, h.2.2⟩
  | _ => trivial

lemma TablePlace.not_owes (h : q.deletes = none) : ¬ t.Owes key id address q := by
  intro ho
  cases q <;> first | exact ho | cases h

/-! ## Steps that only add -/

namespace UdpClientTable

lemma record_records (t : UdpClientTable) (id : Nat)
    (h : address ∈ state.cgroupOriginals) : (t.record id state address).Records id address := by
  simpa [UdpClientTable.Records, record, setState] using h

lemma remove_clients (t : UdpClientTable) (key k : UdpSessionKey) :
    (t.remove key).clients k = if k = key then none else t.clients k := update_apply ..

lemma of_remove (h : (t.remove key).clients k = some id) : k ≠ key ∧ t.clients k = some id := by
  rw [t.remove_clients] at h
  split at h
  · cases h
  next hne => exact ⟨hne, h⟩

lemma remove_none (h : t.clients k = none) : (t.remove key).clients k = none := by
  rw [t.remove_clients, h, ite_self]

lemma Left.remove (h : t.Left id) (key : UdpSessionKey) : (t.remove key).Left id :=
  ⟨fun k hk => h.absent k (of_remove hk).2, h.allocated, h.unreturned⟩

lemma remove_other (hkey : t.clients key = some id) (hk : t.clients k = some id') (hne : id' ≠ id) :
    (t.remove key).clients k = some id' := by
  rw [t.remove_clients, if_neg]
  · exact hk
  rintro rfl
  exact hne (Option.some.inj (hk.symm.trans hkey))

lemma Good.remove_left (h : t.Good) (hkey : t.clients key = some id) : (t.remove key).Left id where
  absent k hk := by
    obtain ⟨hne, hk⟩ := of_remove hk
    exact hne (h.injective _ _ _ hk hkey)
  allocated := h.allocated _ _ hkey
  unreturned := h.unreturned _ _ hkey

lemma returned_finish (hne : id' ≠ id) :
    (t.finishDelete key id redirects).returned.count (id', address) = t.returned.count (id', address) := by
  rw [finishDelete, count_append, count_eq_zero_of_not_mem, Nat.zero_add]
  intro hm
  obtain ⟨a, -, ha⟩ := mem_map.1 hm
  exact hne (congrArg Prod.fst ha).symm

lemma Left.finish (h : t.Left id') (hne : id' ≠ id) : (t.finishDelete key id redirects).Left id' :=
  ⟨h.absent, h.allocated, fun a hm => h.unreturned a (count_pos_iff.1
    (returned_finish hne ▸ count_pos_iff.2 hm))⟩

end UdpClientTable

namespace TableConfig

/-- The memory `t` has everything of the memory before it. -/
structure Grows (c : TableConfig n) (t : UdpClientTable) : Prop where
  next : c.shared.next ≤ t.next
  returned : t.returned = c.shared.returned
  live : ∀ key id, c.shared.clients key = some id → t.clients key = some id
  records : ∀ id address, id < c.shared.next → c.shared.Records id address → t.Records id address
  absent : ∀ id, id < c.shared.next → (∀ key, c.shared.clients key ≠ some id) → ∀ key, t.clients key ≠ some id
  -- a deletion's key stays free
  free : ∀ j key, (c.pc j).writes = some key.clientShard → c.shared.clients key = none → t.clients key = none

lemma Grows.left (hg : c.Grows t) (h : c.shared.Left id) : t.Left id where
  absent := hg.absent id h.allocated h.absent
  allocated := Nat.lt_of_lt_of_le h.allocated hg.next
  unreturned := hg.returned ▸ h.unreturned

lemma Grows.placeGood (hg : c.Grows t) (h : c.Good) (j : Fin n) : t.PlaceGood (c.pc j) := by
  refine (h.place j).mono (fun key id _ hkey => ?_) (hg.free j) fun _ _ => hg.left
  exact ⟨hg.live _ _ hkey, fun a => hg.records id a (h.table.allocated _ _ hkey)⟩

lemma Grows.owes (hg : c.Grows t) (h : c.Good) {j : Fin n}
    (ho : c.shared.Owes key id address (c.pc j)) : t.Owes key id address (c.pc j) := by
  have hj := h.place j
  cases hp : c.pc j with
  | deleteState key' id' =>
    rw [hp] at hj ho
    obtain ⟨rfl, rfl, hrec⟩ := ho
    exact ⟨rfl, rfl, hg.records _ _ hj.2.allocated hrec⟩
  | deleteRedirect key' id' redirects =>
    rw [hp] at ho
    exact ho
  | _ => exact absurd ho (by rw [hp]; exact not_false)

lemma Good.grow (h : c.Good) (hg : c.Grows t) (ht : t.Good) (hp : t.PlaceGood p)
    (ha : ∀ j, j ≠ i → p.Apart (c.pc j)) (hi : c.pc i = q) (hq : q.deletes = none)
    (hsession : ∀ entry key, t.redirectSessions entry = some key → c.shared.redirectSessions entry = some key ∨
      key.source = entry.1 ∧ ∃ id, t.clients key = some id ∧ t.Records id entry.2)
    (hrecorded : ∀ id address, (id, address) ∈ t.recorded → (id, address) ∈ c.shared.recorded ∨
      (∃ key, t.clients key = some id) ∧ t.Records id address) : Good (c.move i (t, p)) := by
  have hstill : ∀ key id address, (∃ j, c.shared.Owes key id address (c.pc j)) →
      ∃ j, t.Owes key id address ((c.move i (t, p)).pc j) := by
    rintro key id address ⟨j, hj⟩
    have hji : j ≠ i := fun heq => absurd (heq ▸ hj) (not_owes (hi ▸ hq))
    exact ⟨j, by rw [c.move_other hji]; exact hg.owes h hj⟩
  refine ⟨ht, forall_move hp fun j _ => hg.placeGood h j,
    pairs_move (fun _ _ => TablePlace.Apart.symm) h.apart ha, fun entry key he => ?_, fun id address hr => ?_⟩
  · obtain he | ⟨hsource, hlive⟩ := hsession entry key he
    · obtain ⟨hsource, ⟨id, hid, hrec⟩ | ⟨j, id, hj⟩⟩ := h.session entry key he
      · exact ⟨hsource, .inl ⟨id, hg.live _ _ hid, hg.records _ _ (h.table.allocated _ _ hid) hrec⟩⟩
      obtain ⟨k, hk⟩ := hstill key id entry.2 ⟨j, hj⟩
      exact ⟨hsource, .inr ⟨k, id, hk⟩⟩
    · exact ⟨hsource, .inl hlive⟩
  · obtain hr | hlive := hrecorded id address hr
    · obtain ⟨⟨key, hkey⟩, hrec⟩ | ⟨j, key, hj⟩ | ⟨hgone, hcount⟩ := h.account id address hr
      · exact .inl ⟨⟨key, hg.live _ _ hkey⟩, hg.records _ _ (h.table.allocated _ _ hkey) hrec⟩
      · obtain ⟨k, hk⟩ := hstill key id address ⟨j, hj⟩
        exact .inr (.inl ⟨k, key, hk⟩)
      · exact .inr (.inr ⟨hg.absent id (h.table.recorded_allocated _ _ hr) hgone, hg.returned ▸ hcount⟩)
    · exact .inl hlive

lemma Grows.refl (c : TableConfig n) : c.Grows c.shared :=
  ⟨Nat.le_refl _, rfl, fun _ _ h => h, fun _ _ _ h => h, fun _ _ h => h, fun _ _ _ h => h⟩

lemma Good.quiet (h : c.Good) (hp : c.shared.PlaceGood p) (hi : c.pc i = q)
    (ha : ∀ j, j ≠ i → p.Apart (c.pc j) := by exact fun _ _ => TablePlace.apart_of_free rfl)
    (hq : q.deletes = none := by rfl) : Good (c.move i (c.shared, p)) :=
  h.grow (.refl c) h.table hp ha hi hq (fun _ _ he => .inl he) fun _ _ hr => .inl hr

lemma Good.create (h : c.Good) {original : OriginalDestination}
    (hw : c.writable key = true) (hnone : c.shared.clients key = none) (hi : c.pc i = q)
    (hq : q.deletes = none := by rfl) :
    Good (c.move i (c.shared.create key, .bindState key c.shared.next original address)) := by
  have hclients : ∀ k, (c.shared.create key).clients k = if k = key then some c.shared.next else c.shared.clients k :=
    fun k => update_apply ..
  have hfresh : ∀ k, c.shared.clients k ≠ some c.shared.next := fun k hk =>
    absurd (h.table.allocated _ _ hk) (Nat.lt_irrefl _)
  have hg : c.Grows (c.shared.create key) := by
    refine ⟨Nat.le_succ _, rfl, fun k id hk => ?_, fun id a hid hrec => ?_, fun id hid habsent k => ?_,
      fun j k hj hk => ?_⟩
    · rw [hclients, if_neg (fun heq => by rw [heq, hnone] at hk; cases hk)]
      exact hk
    · have hstate : (c.shared.create key).states id = c.shared.states id :=
        update_of_ne (Nat.ne_of_lt hid) ..
      rw [UdpClientTable.Records, hstate]
      exact hrec
    · rw [hclients]
      split
      · intro heq
        exact absurd (Option.some.inj heq) (Nat.ne_of_gt hid)
      · exact habsent k
    have hother : k ≠ key := by
      rintro rfl
      exact ((of_decide_eq_true hw) j).1 hj
    rw [hclients, if_neg hother]
    exact hk
  refine h.grow hg ⟨fun k k' id hk hk' => ?_, fun k id hk => ?_, fun id a hr => ?_, fun id a hr => ?_,
    fun k id hk a => ?_⟩ ?_ (fun j _ => apart_of_free rfl) hi hq (fun _ _ he => .inl he)
    fun _ _ hr => .inl hr
  · rw [hclients] at hk hk'
    split at hk <;> split at hk'
    · simp_all
    · exact absurd (hk'.trans hk.symm) (hfresh k' ∘ fun heq => by simp_all)
    · exact absurd (hk.trans hk'.symm) (hfresh k ∘ fun heq => by simp_all)
    · exact h.table.injective _ _ _ hk hk'
  · rw [hclients] at hk
    split at hk
    · exact Option.some.inj hk ▸ Nat.lt_succ_self _
    · exact Nat.lt_succ_of_lt (h.table.allocated _ _ hk)
  · exact Nat.lt_succ_of_lt (h.table.recorded_allocated _ _ hr)
  · exact Nat.lt_succ_of_lt (h.table.returned_allocated _ _ hr)
  · rw [hclients] at hk
    split at hk
    · intro hmem
      exact absurd (h.table.returned_allocated _ _ hmem) (Option.some.inj hk ▸ Nat.lt_irrefl _)
    · exact h.table.unreturned _ _ hk a
  · exact (hclients key).trans (if_pos rfl)

lemma Grows.record (c : TableConfig n)
    (hstate : ∀ a, a ∈ (c.shared.states id).cgroupOriginals → a ∈ state.cgroupOriginals) :
    c.Grows (c.shared.record id state address) := by
  refine { Grows.refl c with records := fun id' a _ hrec => ?_ }
  by_cases heq : id' = id
  · subst heq
    simpa [UdpClientTable.Records, UdpClientTable.record, UdpClientTable.setState] using hstate a hrec
  · simpa [UdpClientTable.Records, UdpClientTable.record, UdpClientTable.setState, update_of_ne heq] using hrec

lemma Good.record (h : c.Good) (hkey : c.shared.clients key = some id)
    (hstate : ∀ a, a ∈ state.cgroupOriginals ↔ a = address ∨ a ∈ (c.shared.states id).cgroupOriginals)
    (hp : (c.shared.record id state address).PlaceGood p) (ha : ∀ j, j ≠ i → p.Apart (c.pc j))
    (hi : c.pc i = q) (hq : q.deletes = none := by rfl) :
    Good (c.move i (c.shared.record id state address, p)) := by
  have hrec := c.shared.record_records id ((hstate address).2 (.inl rfl))
  refine h.grow (.record c fun a hm => (hstate a).2 (.inr hm)) ?_ hp ha hi hq (fun _ _ he => .inl he)
    fun id' a hr => ?_
  · refine { h.table with recorded_allocated := fun id' a hr => ?_ }
    rcases mem_cons.1 hr with heq | hr
    · cases heq
      exact h.table.allocated _ _ hkey
    · exact h.table.recorded_allocated _ _ hr
  · rcases mem_cons.1 hr with heq | hr
    · cases heq
      exact .inr ⟨⟨key, hkey⟩, hrec⟩
    · exact .inl hr

/-- The last step of a binding: the state it recorded the address in is in the table. -/
lemma Good.setSession (h : c.Good)
    (hkey : c.shared.clients key = some id) (hrec : c.shared.Records id address) (hi : c.pc i = q)
    (hq : q.deletes = none := by rfl) : Good (c.move i (c.shared.setSession key address, .idle)) := by
  refine h.grow { Grows.refl c with } { h.table with } trivial (fun j _ => TablePlace.apart_of_free rfl) hi hq (fun entry k he => ?_)
    fun _ _ hr => .inl hr
  simp only [UdpClientTable.setSession, update_apply] at he
  split at he
  next heq =>
    cases he
    exact .inr ⟨by rw [heq], id, hkey, by rw [heq]; exact hrec⟩
  · exact .inl he

/-! ## The steps of a deletion -/

section
variable (h : c.Good) (hw : c.writable key = true) (hkey : c.shared.clients key = some id)
include h hw hkey

/-- The others at a removal. No binding may be in progress on the state, and no reply binding is: it would hold the
shard's lock. -/
lemma Good.remove_place (hb : ∀ j, (c.pc j).binds ≠ some id) (j : Fin n) :
    (c.shared.remove key).PlaceGood (c.pc j) := by
  refine (h.place j).mono (fun k id' hat hk => ?_) (fun _ _ => remove_none) fun _ _ hl => hl.remove key
  refine ⟨remove_other hkey hk ?_, fun _ hrec => hrec⟩
  -- a goroutine at work on a state of the table is at work on another one
  rintro rfl
  rcases hat with hbind | hread
  · exact hb j hbind
  rw [h.table.injective _ _ _ hk hkey] at hread
  exact ((of_decide_eq_true hw) j).2 hread

lemma Good.remove_apart (j : Fin n) : (deleteState key id).Apart (c.pc j) := by
  have hfree := (of_decide_eq_true hw) j
  refine ⟨fun s hs => Option.some.inj hs ▸ hfree, fun s hs => ⟨fun hws => hfree.1 (hs.trans hws.symm), nofun⟩,
    fun id' hid' hd => ?_⟩
  cases hid'
  have hj := h.place j
  cases hp : c.pc j with
  | deleteState k id' =>
    rw [hp] at hj hd
    cases hd
    exact hj.2.absent key hkey
  | deleteRedirect k id' redirects =>
    rw [hp] at hj hd
    cases hd
    exact hj.2.1.absent key hkey
  | _ => rw [hp] at hd; cases hd

lemma Good.remove (hb : ∀ j, (c.pc j).binds ≠ some id) (hi : c.pc i = q)
    (hq : q.deletes = none := by rfl) : Good (c.move i (c.shared.remove key, .deleteState key id)) := by
  have hstill : ∀ k id' a, (∃ j, c.shared.Owes k id' a (c.pc j)) →
      ∃ j, (c.shared.remove key).Owes k id' a ((c.move i (c.shared.remove key, .deleteState key id)).pc j) :=
    fun k id' a => exists_move fun ho => absurd ho (not_owes (hi ▸ hq))
  refine ⟨{ h.table with
      injective := fun k k' id' hk hk' => ?_
      allocated := fun k id' hk => ?_
      unreturned := fun k id' hk => ?_ }, forall_move ?_ fun j _ => h.remove_place hw hkey hb j,
    pairs_move (fun _ _ => TablePlace.Apart.symm) h.apart fun j _ => h.remove_apart hw hkey j,
    fun entry k he => ?_, fun id' a hr => ?_⟩
  · exact h.table.injective _ _ _ (of_remove hk).2 (of_remove hk').2
  · exact h.table.allocated _ _ (of_remove hk).2
  · exact h.table.unreturned _ _ (of_remove hk).2
  · exact ⟨(c.shared.remove_clients key key).trans (if_pos rfl), h.table.remove_left hkey⟩
  · obtain ⟨hsource, ⟨id', hid', hrec⟩ | ⟨j, id', hj⟩⟩ := h.session entry k he
    · refine ⟨hsource, ?_⟩
      by_cases heq : id' = id
      · subst heq
        exact .inr ⟨i, id', by rw [c.move_same]; exact ⟨h.table.injective _ _ _ hkey hid', rfl, hrec⟩⟩
      · exact .inl ⟨id', remove_other hkey hid' heq, hrec⟩
    · obtain ⟨j', hj'⟩ := hstill k id' entry.2 ⟨j, hj⟩
      exact ⟨hsource, .inr ⟨j', id', hj'⟩⟩
  · obtain ⟨⟨k, hk⟩, hrec⟩ | ⟨j, k, hj⟩ | ⟨habsent, hcount⟩ := h.account id' a hr
    · by_cases heq : id' = id
      · subst heq
        exact .inr (.inl ⟨i, key, by rw [c.move_same]; exact ⟨rfl, rfl, hrec⟩⟩)
      · exact .inl ⟨⟨k, remove_other hkey hk heq⟩, hrec⟩
    · obtain ⟨j', hj'⟩ := hstill k id' a ⟨j, hj⟩
      exact .inr (.inl ⟨j', k, hj'⟩)
    · exact .inr (.inr ⟨fun k hk => habsent k (of_remove hk).2, hcount⟩)

end

lemma Good.clear (h : c.Good) (hi : c.pc i = .deleteState key id) :
    Good (c.move i (c.shared.setState id (c.shared.states id).clear,
      .deleteRedirect key id (c.shared.states id).cgroupOriginals.keys)) := by
  have hself := h.place i
  rw [hi] at hself
  obtain ⟨hfree, hleft⟩ := hself
  have hrec : ∀ id' a, id' ≠ id → c.shared.Records id' a →
      (c.shared.setState id (c.shared.states id).clear).Records id' a := by
    intro id' a hne hr
    simpa [UdpClientTable.Records, setState, update_of_ne hne] using hr
  have hlive : ∀ k id', c.shared.clients k = some id' → id' ≠ id := fun k id' hk heq => hleft.absent k (heq ▸ hk)
  have hleft' : ∀ id', c.shared.Left id' → (c.shared.setState id (c.shared.states id).clear).Left id' :=
    fun _ hl => { hl with }
  have howes : ∀ k id' a, (∃ j, c.shared.Owes k id' a (c.pc j)) → ∃ j,
      (c.shared.setState id (c.shared.states id).clear).Owes k id' a ((c.move i (c.shared.setState id
        (c.shared.states id).clear, .deleteRedirect key id (c.shared.states id).cgroupOriginals.keys)).pc j) := by
    rintro k id' a ⟨j, hj⟩
    refine ⟨j, ?_⟩
    by_cases hji : j = i
    · subst hji
      rw [hi] at hj
      obtain ⟨rfl, rfl, hr⟩ := hj
      rw [c.move_same]
      exact ⟨rfl, rfl, AList.mem_keys.1 hr⟩
    rw [c.move_other hji]
    have hapart := (h.apart i j (Ne.symm hji)).2.2 id (by rw [hi]; rfl)
    cases hp : c.pc j with
    | deleteState k' id'' =>
      rw [hp] at hj hapart
      obtain ⟨rfl, rfl, hr⟩ := hj
      exact ⟨rfl, rfl, hrec _ _ (fun heq => hapart (congrArg some heq)) hr⟩
    | deleteRedirect k' id'' redirects =>
      rw [hp] at hj
      exact hj
    | _ => rw [hp] at hj; exact hj.elim
  refine ⟨{ h.table with }, forall_move ⟨hfree, hleft' id hleft, AList.keys_nodup _⟩ fun j _ => ?_,
    pairs_move (fun _ _ => TablePlace.Apart.symm) h.apart fun j hji => ?_, fun entry k he => ?_,
    fun id' a hr => ?_⟩
  · refine (h.place j).mono (fun k id' _ hk => ?_) (fun _ _ hk => hk) fun id' _ => hleft' id'
    exact ⟨hk, fun a => hrec id' a (hlive k id' hk)⟩
  · have hapart := h.apart i j (Ne.symm hji)
    rw [hi] at hapart
    exact hapart
  · obtain ⟨hsource, ⟨id', hid', hr⟩ | ⟨j, id', hj⟩⟩ := h.session entry k he
    · exact ⟨hsource, .inl ⟨id', hid', hrec _ _ (hlive _ _ hid') hr⟩⟩
    obtain ⟨j', hj'⟩ := howes k id' entry.2 ⟨j, hj⟩
    exact ⟨hsource, .inr ⟨j', id', hj'⟩⟩
  obtain ⟨⟨k, hk⟩, hr⟩ | ⟨j, k, hj⟩ | hdone := h.account id' a hr
  · exact .inl ⟨⟨k, hk⟩, hrec _ _ (hlive _ _ hk) hr⟩
  · obtain ⟨j', hj'⟩ := howes k id' a ⟨j, hj⟩
    exact .inr (.inl ⟨j', k, hj'⟩)
  · exact .inr (.inr hdone)

lemma Good.finish (h : c.Good) (hi : c.pc i = .deleteRedirect key id redirects) :
    Good (c.move i (c.shared.finishDelete key id redirects, .idle)) := by
  have hself := h.place i
  rw [hi] at hself
  obtain ⟨-, hleft, hnodup⟩ := hself
  have hlive : ∀ k id', c.shared.clients k = some id' → id' ≠ id := fun k id' hk heq => hleft.absent k (heq ▸ hk)
  have hother : ∀ j, j ≠ i → ∀ id', (c.pc j).deletes = some id' → id' ≠ id := by
    rintro j hji id' hj rfl
    exact (h.apart i j (Ne.symm hji)).2.2 id' (by rw [hi]; rfl) hj
  have howes : ∀ k id' a j, c.shared.Owes k id' a (c.pc j) → j ≠ i →
      ∃ j, (c.shared.finishDelete key id redirects).Owes k id' a
        ((c.move i (c.shared.finishDelete key id redirects, .idle)).pc j) :=
    fun k id' a j hj hji => ⟨j, by rw [c.move_other hji]; exact hj⟩
  refine ⟨{ h.table with returned_allocated := fun id' a hr => ?_, unreturned := fun k id' hk a => ?_ },
    forall_move trivial fun j hji => ?_,
    pairs_move (fun _ _ => TablePlace.Apart.symm) h.apart fun j _ => apart_of_free rfl,
    fun entry k he => ?_, fun id' a hr => ?_⟩
  · rcases mem_append.1 hr with hr | hr
    · obtain ⟨a', -, ha'⟩ := mem_map.1 hr
      obtain rfl : id = id' := congrArg Prod.fst ha'
      exact hleft.allocated
    · exact h.table.returned_allocated _ _ hr
  · rw [← List.count_eq_zero, c.move_shared, returned_finish (hlive k id' hk)]
    exact List.count_eq_zero.2 (h.table.unreturned k id' hk a)
  · refine (h.place j).mono (fun _ _ _ hk => ?_) (fun _ _ hk => hk) fun id' hd hl => hl.finish (hother j hji id' hd)
    exact ⟨hk, fun _ hrec => hrec⟩
  · simp only [move_shared, finishDelete] at he
    split at he
    · cases he
    next hkept =>
      obtain ⟨hsource, hl | ⟨j, id', hj⟩⟩ := h.session entry k he
      · exact ⟨hsource, .inl hl⟩
      by_cases hji : j = i
      · subst hji
        rw [hi] at hj
        obtain ⟨rfl, rfl, hm⟩ := hj
        exact absurd ⟨hsource.symm, hm, he⟩ hkept
      · obtain ⟨j', hj'⟩ := howes k id' entry.2 j hj hji
        exact ⟨hsource, .inr ⟨j', id', hj'⟩⟩
  · obtain hl | ⟨j, k, hj⟩ | ⟨habsent, hcount⟩ := h.account id' a hr
    · exact .inl hl
    · by_cases hji : j = i
      · subst hji
        rw [hi] at hj
        obtain ⟨rfl, rfl, hm⟩ := hj
        refine .inr (.inr ⟨hleft.absent, ?_⟩)
        have hinj : Function.Injective fun address : Addr => (id, address) := fun _ _ heq => congrArg Prod.snd heq
        rw [move_shared, finishDelete, count_append,
          count_map_of_injective redirects _ hinj, count_eq_one_of_mem hnodup hm,
          count_eq_zero_of_not_mem (hleft.unreturned a)]
      · obtain ⟨j', hj'⟩ := howes k id' a j hj hji
        exact .inr (.inl ⟨j', k, hj'⟩)
    · refine .inr (.inr ⟨habsent, ?_⟩)
      have hne : id' ≠ id := by
        rintro rfl
        exact hleft.unreturned a (count_pos_iff.1 (by omega))
      exact (returned_finish hne).trans hcount

/-! ## Runs -/

/-- A deletion does not take its state out of the table while a `setCgroupBinding` is at work on that state. -/
def Undisturbed (c : TableConfig n) (e : Fin n × TableAction) : Prop :=
  match e.2, c.pc e.1 with
  | .next, .deleteShard _ expected => ∀ j, (c.pc j).binds ≠ some expected
  | _, _ => True

instance (c : TableConfig n) (e : Fin n × TableAction) : Decidable (c.Undisturbed e) := by
  unfold TableConfig.Undisturbed
  split <;> infer_instance

lemma Good.advance (h : c.Good) (hi : c.advance i = some (t, p))
    (hu : c.Undisturbed (i, .next)) : Good (c.move i (t, p)) := by
  have hplace := h.place i
  unfold TableConfig.advance at hi
  cases hpc : c.pc i <;> simp only [hpc] at hi hplace
  case idle => cases hi
  case bindLoad key original address =>
    split at hi
    · split at hi <;> cases hi
      next hkey => exact h.quiet hkey hpc
      · exact h.quiet trivial hpc
    · cases hi
  case bindCreate key original address =>
    split at hi
    next hw =>
      split at hi <;> cases hi
      next hkey => exact h.quiet hkey hpc
      next hnone => exact h.create hw hnone hpc
    · cases hi
  case bindState key id original address =>
    split at hi
    · cases hi
      have hstate : ∀ a, a ∈ ((c.shared.states id).bind original address).cgroupOriginals ↔
          a = address ∨ a ∈ (c.shared.states id).cgroupOriginals := fun a => AList.mem_insert _
      exact h.record hplace hstate ⟨hplace, c.shared.record_records id ((hstate address).2 (.inl rfl))⟩
        (fun j _ => TablePlace.apart_of_free rfl) hpc
    · cases hi
  case bindRedirect key id address | replyRedirect key id address =>
    cases hi
    exact h.setSession hplace.1 hplace.2 hpc
  case replyShard key id destination address =>
    split at hi
    next hr =>
      split at hi <;> cases hi
      next hkey =>
        have hfree := of_decide_eq_true hr
        refine h.quiet hkey hpc fun j _ => ⟨nofun, fun s hs => ⟨nofun, fun heq => ?_⟩, nofun⟩
        exact hfree j (hs.trans heq.symm)
      · exact h.quiet trivial hpc
    · cases hi
  case replyState key id destination address =>
    -- the shard's lock is kept
    have hkeep : ∀ j, j ≠ i → (TablePlace.replyRedirect key id address).Apart (c.pc j) := by
      intro j hji
      have hapart := h.apart i j (Ne.symm hji)
      rw [hpc] at hapart
      exact hapart
    split at hi
    · split at hi <;> cases hi
      · exact h.quiet trivial hpc
      have hstate : ∀ a, a ∈ ((c.shared.states id).bindReply destination address).cgroupOriginals ↔
          a = address ∨ a ∈ (c.shared.states id).cgroupOriginals := fun a => AList.mem_insert _
      exact h.record hplace hstate ⟨hplace, c.shared.record_records id ((hstate address).2 (.inl rfl))⟩
        hkeep hpc
    · cases hi
  case cachedSession client address =>
    split at hi <;> cases hi
    all_goals exact h.quiet trivial hpc
  case cachedLoad key address =>
    split at hi
    · split at hi <;> cases hi
      all_goals exact h.quiet trivial hpc
    · cases hi
  case cachedState id address =>
    split at hi
    · cases hi
      exact h.quiet trivial hpc
    · cases hi
  case deleteShard key id =>
    split at hi
    next hw =>
      split at hi <;> cases hi
      next hkey =>
        simp only [TableConfig.Undisturbed, hpc] at hu
        exact h.remove hw hkey hu hpc
      · exact h.quiet trivial hpc
    · cases hi
  case deleteState key id =>
    split at hi
    · cases hi
      exact h.clear hpc
    · cases hi
  case deleteRedirect key id redirects =>
    cases hi
    exact h.finish hpc

lemma Good.step {c' : TableConfig n} {e : Fin n × TableAction} (h : c.Good) (hu : c.Undisturbed e)
    (hs : step act c e = some c') : Good c' := by
  obtain ⟨i, a⟩ := e
  obtain ⟨t, p, hact, rfl⟩ := step_cases hs
  cases a with
  | start op =>
    simp only [act] at hact
    split at hact
    next hidle =>
      cases hact
      have hp : c.shared.PlaceGood op.start := by cases op <;> exact trivial
      refine h.quiet hp hidle (fun j _ => apart_of_free ?_)
      cases op <;> rfl
    · cases hact
  | next => exact h.advance hact hu

end TableConfig

/-- In every run in which no deletion removes a state under a `setCgroupBinding` that has loaded it: whenever no
operation is in progress, every entry of the index leads to a state of the table that records the address, and every
address ever recorded in a state that has left the table has been returned exactly once. -/
theorem udp_table_consistent {es : List (Fin n × TableAction)}
    (hu : Along (step TableConfig.act) TableConfig.Undisturbed TableConfig.init es)
    (hrun : run (step TableConfig.act) TableConfig.init es = some c) (hquiet : c.Quiet) :
    (∀ client address key, c.shared.redirectSessions (client, address) = some key →
      ∃ id, c.shared.clients key = some id ∧ address ∈ (c.shared.states id).cgroupOriginals) ∧
    ∀ id address, (id, address) ∈ c.shared.recorded → (∀ key, c.shared.clients key ≠ some id) →
      c.shared.returned.count (id, address) = 1 := by
  have hg : TableConfig.Good c := run_inv (fun _ _ _ hg hu hs => TableConfig.Good.step hg hu hs) good_init hu hrun
  have hidle : ∀ j key id address, ¬ c.shared.Owes key id address (c.pc j) :=
    fun j _ _ _ => not_owes (by rw [hquiet j]; rfl)
  refine ⟨fun client address key he => ?_, fun id address hr habsent => ?_⟩
  · obtain ⟨-, hlive | ⟨j, id, hj⟩⟩ := hg.session (client, address) key he
    · exact hlive
    · exact absurd hj (hidle j key id address)
  obtain ⟨⟨key, hkey⟩, -⟩ | ⟨j, key, hj⟩ | ⟨-, hcount⟩ := hg.account id address hr
  · exact absurd hkey (habsent key)
  · exact absurd hj (hidle j key id address)
  · exact hcount

end

def someKey : UdpSessionKey := ⟨⟨.v4 0xc000020a#32, 53000⟩, .localCgroup, 42, 0⟩

/-- A binding from its start to its end, and then the deletion of the session. -/
def bindThenDelete : List (Fin 1 × TableAction) :=
  [(alone, .start (.setCgroupBinding someKey ⟨⟨.v4 0x01010101#32, 53⟩, false, 42⟩ (.v4 0x0a000001#32))),
    (alone, .next), (alone, .next), (alone, .next), (alone, .next),
    (alone, .start (.deleteWithCleanup someKey 0)), (alone, .next), (alone, .next), (alone, .next)]

theorem udp_table_consistent_deleted : ∃ c : TableConfig 1,
    run (step TableConfig.act) TableConfig.init bindThenDelete = some c ∧
    c.shared.returned.count (0, .v4 0x0a000001#32) = 1 := by
  have hrun : run (step act) init bindThenDelete = some _ := rfl
  refine ⟨_, hrun, (udp_table_consistent (by decide +kernel) hrun (by decide +kernel)).2 0 _ (by decide +kernel) ?_⟩
  intro key
  change update (update (fun _ => none) someKey (some 0)) someKey none key ≠ some 0
  rw [update_idem]
  by_cases hkey : key = someKey <;> simp [hkey]

/-- A second binding that has loaded the state when the deletion begins: its entry of the index leads nowhere, and
its address is never returned. -/
theorem udp_table_not_consistent : ∃ (es : List (Fin 2 × TableAction)) (c : TableConfig 2),
    run (step TableConfig.act) TableConfig.init es = some c ∧ c.Quiet ∧
    (∃ client address key, c.shared.redirectSessions (client, address) = some key ∧ c.shared.clients key = none) ∧
    ∃ address, (0, address) ∈ c.shared.recorded ∧ (0, address) ∉ c.shared.returned := by
  let bind (address : Addr) : TableAction :=
    .start (.setCgroupBinding someKey ⟨⟨.v4 0x01010101#32, 53⟩, false, 42⟩ address)
  refine ⟨[(0, bind (.v4 0x0a000001#32)), (0, .next), (0, .next), (0, .next), (0, .next),
    (0, bind (.v4 0x0a000002#32)), (0, .next),
    (1, .start (.deleteWithCleanup someKey 0)), (1, .next), (1, .next), (1, .next),
    (0, .next), (0, .next)], _, rfl, by decide +kernel, ⟨someKey.source, .v4 0x0a000002#32, someKey, ?_⟩,
    .v4 0x0a000002#32, ?_⟩ <;> decide +kernel

end SingBox.Ebpf
