import SingBox.Dns.Client.Message
/-!
# Setting the client subnet

`setClientSubnet` writes the first subnet option it finds. Without one it adds
an option to the OPT record its search ended with, which a record after the
OPT record hides from it.
-/
namespace SingBox.Dns
open List

def RR.isOPT : RR → Bool
  | .opt .. => true
  | _ => false

open Edns0

@[simp] lemma RR.isOPT_opt (h : RRHeader) (option : List Edns0) : (RR.opt h option).isOPT = true := rfl

def RR.options : RR → List Edns0
  | .opt _ option => option
  | _ => []

def Edns0.subnet? : Edns0 → Option (Addr × UInt8)
  | .subnet _ sourceNetmask _ address => some (address, sourceNetmask)
  | .other .. => none

def subnets (extra : List RR) : List (Addr × UInt8) := extra.flatMap fun rr => rr.options.filterMap Edns0.subnet?
def otherOptions (extra : List RR) : List Edns0 := extra.flatMap fun rr => rr.options.filter (!·.isSubnet)

/-- What `SetClientSubnet` is for: one OPT record, one subnet option, which reads back, and nothing else changed. -/
structure SubnetSet (message result : Msg) (clientSubnet : Prefix) : Prop where
  record : result.extra.countP RR.isOPT = 1
  option : (subnets result.extra).length = 1
  reads : clientSubnetFromMessage result = clientSubnet
  records : result.extra.filter (!·.isOPT) = message.extra.filter (!·.isOPT)
  options : otherOptions result.extra = otherOptions message.extra
  rest : { result with extra := message.extra } = message

@[simp] lemma subnetOptions_eq (message : Msg) : subnetOptions message = subnets message.extra := by
  unfold subnetOptions subnets
  congr
  funext rr
  cases rr <;> rfl

variable {p : Prefix}

lemma subnets_eq_nil {l : List Edns0} : l.filterMap subnet? = [] ↔ l.any isSubnet = false := by
  rw [filterMap_eq_nil_iff, any_eq_false]
  refine forall₂_congr fun it _ => ?_
  cases it <;> simp [subnet?, isSubnet]

lemma setSubnetOption_spec {l : List Edns0} (h : l.any isSubnet = true) : (setSubnetOption p l).filterMap subnet? =
        (p.addr, UInt8.ofNat p.bits) :: (l.filterMap subnet?).tail ∧
      (setSubnetOption p l).filter (!·.isSubnet) = l.filter (!·.isSubnet) := by
  induction l with
  | nil => cases h
  | cons it l ih => cases it <;> grind [setSubnetOption, newSubnet, subnet?, isSubnet]

@[simp] lemma subnets_cons (rr : RR) (l : List RR) :
    subnets (rr :: l) = rr.options.filterMap subnet? ++ subnets l := rfl

@[simp] lemma otherOptions_cons (rr : RR) (l : List RR) :
    otherOptions (rr :: l) = rr.options.filter (!·.isSubnet) ++ otherOptions l := rfl

@[simp] lemma subnets_append (l l' : List RR) : subnets (l ++ l') = subnets l ++ subnets l' := flatMap_append

@[simp] lemma otherOptions_append (l l' : List RR) : otherOptions (l ++ l') = otherOptions l ++ otherOptions l' :=
  flatMap_append

/-- The option that is there takes the prefix; only a list without one is left to the rest of the function. -/
def Replaced (p : Prefix) (l : List RR) : Option (List RR) → Prop
  | none => subnets l = []
  | some l' => subnets l ≠ [] ∧ subnets l' = (p.addr, UInt8.ofNat p.bits) :: (subnets l).tail ∧
      l'.countP RR.isOPT = l.countP RR.isOPT ∧ l'.filter (!·.isOPT) = l.filter (!·.isOPT) ∧
      otherOptions l' = otherOptions l

lemma Replaced.cons {rr : RR} {l : List RR} {r : Option (List RR)} (hrr : rr.options.any isSubnet = false)
    (h : Replaced p l r) : Replaced p (rr :: l) (r.map (rr :: ·)) := by
  have hnil := subnets_eq_nil.2 hrr
  cases r with
  | none => simpa [Replaced, hnil] using h
  | some l' =>
    obtain ⟨hsome, hset, hcount, hrecords, hoptions⟩ := h
    refine ⟨by simpa [hnil] using hsome, by simpa [hnil] using hset, ?_, ?_, ?_⟩
    · simp only [countP_cons, hcount]
    · simp only [filter_cons, hrecords]
    · simp only [otherOptions_cons, hoptions]

lemma replaceSubnet_spec (l : List RR) : Replaced p l (replaceSubnet p l) := by
  induction l with
  | nil => rfl
  | cons rr l ih =>
    cases rr with
    | opt h option =>
      unfold replaceSubnet
      split
      next hany =>
        obtain ⟨hset, hothers⟩ := setSubnetOption_spec (p := p) hany
        have hsome : option.filterMap subnet? ≠ [] := by rw [ne_eq, subnets_eq_nil, hany]; simp
        refine ⟨?_, ?_, rfl, rfl, ?_⟩
        · simp [RR.options, hsome]
        · simp [RR.options, hset, tail_append_of_ne_nil hsome]
        · simp [RR.options, hothers]
      next hany => exact ih.cons (Bool.eq_false_iff.2 hany)
    | _ => exact ih.cons rfl

/-! ## The message -/

lemma clientSubnetFromMessage_eq {message : Msg} (hp : p.isValid = true) {rest : List (Addr × UInt8)}
    (h : subnets message.extra = (p.addr, UInt8.ofNat p.bits) :: rest) :
    clientSubnetFromMessage message = p ↔ p.addr.is4In6 = false := by
  obtain ⟨addr, bits⟩ := p
  have hbits : (UInt8.ofNat bits).toNat = bits := by
    cases addr <;> simp [Prefix.isValid] at hp ⊢ <;> omega
  simp only [clientSubnetFromMessage, subnetOptions_eq, h, head?_cons, hbits]
  cases addr with
  | invalid => cases hp
  | v4 a => simp [Addr.isValid, Addr.unmap, prefixFrom, Addr.is4In6, hp]
  | v6 a =>
    by_cases hmapped : a >>> 32 = 0xffff#128
    · simp [Addr.isValid, Addr.unmap, prefixFrom, Addr.is4In6, hmapped]
      split <;> simp
    · simp [Addr.isValid, Addr.unmap, prefixFrom, Addr.is4In6, hmapped, hp]

lemma subnets_of_count {l : List RR} (h : l.countP RR.isOPT = 0) : subnets l = [] := by
  rw [countP_eq_zero] at h
  refine flatMap_eq_nil_iff.2 fun rr hrr => ?_
  cases rr
  case opt => exact absurd rfl (h _ hrr)
  all_goals rfl

/-- Where `SetClientSubnet` does what it is for. -/
structure SubnetSettable (message : Msg) (clientSubnet : Prefix) : Prop where
  notMapped : clientSubnet.addr.is4In6 = false
  single : (subnetOptions message).length ≤ 1
  last : subnetOptions message = [] → ∀ rr ∈ message.extra.dropLast, rr.isOPT = false

section
variable {message : Msg} (hp : p.isValid = true)
include hp

lemma subnetSet_replaced {extra : List RR} (hopt : message.extra.countP RR.isOPT ≤ 1)
    (h : Replaced p message.extra (some extra)) :
    SubnetSet message { message with extra } p ↔ SubnetSettable message p := by
  obtain ⟨hsome, hset, hcount, hrecords, hoptions⟩ := h
  have hrecord : message.extra.countP RR.isOPT ≠ 0 := fun hnone => hsome (subnets_of_count hnone)
  constructor
  · rintro ⟨-, hone, hreads, -⟩
    rw [hset, length_cons, length_tail] at hone
    exact ⟨(clientSubnetFromMessage_eq hp hset).1 hreads, by rw [subnetOptions_eq]; omega,
      fun h => absurd (subnetOptions_eq _ ▸ h) hsome⟩
  rintro ⟨hmapped, hsingle, -⟩
  rw [subnetOptions_eq] at hsingle
  exact ⟨by rw [hcount]; omega, by rw [hset, length_cons, length_tail]; omega,
    (clientSubnetFromMessage_eq hp hset).2 hmapped, hrecords, hoptions, rfl⟩

variable (hnone : subnets message.extra = [])
include hnone

/-- A new record, when the search ended with none. -/
lemma subnetSet_added {h : RRHeader}
    (hlast : message.extra.countP RR.isOPT = 0 ↔ ∀ rr ∈ message.extra.dropLast, rr.isOPT = false) :
    SubnetSet message { message with extra := message.extra ++ [.opt h [newSubnet p 0]] } p ↔
      SubnetSettable message p := by
  have hset : subnets (message.extra ++ [.opt h [newSubnet p 0]]) = [(p.addr, UInt8.ofNat p.bits)] := by
    rw [subnets_append, hnone]
    rfl
  constructor
  · rintro ⟨hrecord, -, hreads, -⟩
    refine ⟨(clientSubnetFromMessage_eq hp hset).1 hreads, by simp [hnone], fun _ => hlast.1 ?_⟩
    simpa [RR.isOPT] using hrecord
  rintro ⟨hmapped, -, hends⟩
  refine ⟨?_, by rw [hset]; rfl, (clientSubnetFromMessage_eq hp hset).2 hmapped, ?_, ?_, rfl⟩
  · simp [RR.isOPT, hlast.2 (hends (by rw [subnetOptions_eq, hnone]))]
  · simp [RR.isOPT]
  · simp [otherOptions, RR.options, newSubnet, isSubnet]

/-- An OPT record without a subnet option that is the last record. -/
lemma subnetSet_last {init : List RR} {h : RRHeader} {option : List Edns0}
    (hopt : message.extra.countP RR.isOPT ≤ 1) (hextra : message.extra = init ++ [.opt h option]) :
    SubnetSet message { message with extra := init ++ [.opt h (option ++ [newSubnet p 0])] } p ↔
      SubnetSettable message p := by
  have hinit : init.countP RR.isOPT = 0 := by simpa [hextra] using hopt
  have hnone' : subnets init = [] ∧ option.filterMap subnet? = [] := by
    rw [hextra, subnets_append, append_eq_nil_iff, subnets_cons, append_eq_nil_iff] at hnone
    exact ⟨hnone.1, hnone.2.1⟩
  have hset : subnets (init ++ [.opt h (option ++ [newSubnet p 0])]) = [(p.addr, UInt8.ofNat p.bits)] := by
    rw [subnets_append, hnone'.1, nil_append, subnets_cons, RR.options, filterMap_append, hnone'.2]
    rfl
  constructor
  · rintro ⟨-, -, hreads, -⟩
    refine ⟨(clientSubnetFromMessage_eq hp hset).1 hreads, by simp [hnone], fun _ => ?_⟩
    simpa [hextra] using hinit
  rintro ⟨hmapped, -, -⟩
  refine ⟨by simp [hinit], by rw [hset]; rfl, (clientSubnetFromMessage_eq hp hset).2 hmapped, ?_, ?_, rfl⟩
  · simp [hextra]
  · simp [hextra, RR.options, newSubnet, isSubnet]

end

/-- `SetClientSubnet` does not change the message it is given. It returns a message with one OPT record and one subnet
option, which is the prefix, and otherwise as before, exactly if the prefix is not of IPv4-mapped addresses, the
message has at most one subnet option, and an OPT record without one is the last record. -/
theorem set_client_subnet_iff (message : Msg) (clientSubnet : Prefix) (hopt : message.extra.countP RR.isOPT ≤ 1)
    (hp : clientSubnet.isValid = true) : (setClientSubnet message clientSubnet true).1 = message ∧
    (SubnetSet message (setClientSubnet message clientSubnet true).2 clientSubnet ↔
      SubnetSettable message clientSubnet) := by
  have hspec := replaceSubnet_spec (p := clientSubnet) message.extra
  cases hreplace : replaceSubnet clientSubnet message.extra with
  | some extra =>
    have hwrite : writeSubnet message clientSubnet = some extra := by rw [writeSubnet, hreplace]
    rw [setClientSubnet, hwrite]
    exact ⟨rfl, subnetSet_replaced hp hopt (hreplace ▸ hspec)⟩
  | none =>
    rw [hreplace] at hspec
    rcases eq_nil_or_concat message.extra with hextra | ⟨init, rr, hextra⟩
    · have hwrite : writeSubnet message clientSubnet = none := by simp [writeSubnet, hextra, replaceSubnet]
      rw [setClientSubnet, hwrite]
      exact ⟨rfl, subnetSet_added hp hspec (by simp [hextra])⟩
    rw [concat_eq_append] at hextra
    cases rr with
    | opt h option =>
      have hwrite : writeSubnet message clientSubnet = some (init ++ [.opt h (option ++ [newSubnet clientSubnet 0])]) := by
        rw [writeSubnet, hreplace, hextra]
        simp
      rw [setClientSubnet, hwrite]
      exact ⟨rfl, subnetSet_last hp hspec hopt hextra⟩
    | _ =>
      have hwrite : writeSubnet message clientSubnet = none := by
        rw [writeSubnet, hreplace, hextra]
        simp
      rw [setClientSubnet, hwrite]
      exact ⟨rfl, subnetSet_added hp hspec (by simp [hextra, RR.isOPT])⟩

def optRecord (option : List Edns0) : RR := .opt { name := ".", rrtype := typeOPT, rrclass := 1232 } option
def subnet24 : Prefix := ⟨.v4 0x0a000000#32, 24⟩

theorem set_client_subnet_iff_cookie : SubnetSet { extra := [optRecord [.other 10 []]] }
    (setClientSubnet { extra := [optRecord [.other 10 []]] } subnet24 true).2 subnet24 :=
  (set_client_subnet_iff { extra := [optRecord [.other 10 []]] } subnet24 (by decide) (by decide)).2.2
    ⟨by decide, by decide, fun _ => by decide⟩

/-- An OPT record before a TSIG record: the result has two OPT records. -/
theorem set_client_subnet_before_tsig :
    ([optRecord [], .other { name := "key.", rrtype := 250 } []].countP RR.isOPT = 1) ∧ subnet24.isValid = true ∧
    ¬ SubnetSet { extra := [optRecord [], .other { name := "key.", rrtype := 250 } []] }
      (setClientSubnet { extra := [optRecord [], .other { name := "key.", rrtype := 250 } []] } subnet24 true).2
      subnet24 :=
  ⟨by decide, by decide, fun h => absurd h.record (by decide)⟩

-- without `clone` the record is written in place
example : (setClientSubnet { extra := [optRecord []] } subnet24 false).1 =
    { extra := [optRecord [newSubnet subnet24 0]] } := by decide

end SingBox.Dns
