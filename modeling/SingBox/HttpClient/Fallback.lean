import Mathlib.Data.List.AList
/-!
# Falling back from HTTP/3

`http3FallbackTransport.RoundTrip` first tries a cached HTTP/3 connection, then
a new one or HTTP/2, which in turn falls back to HTTP/1. The race between HTTP/3
and HTTP/2, which only replayable requests come to, is the parameter `race`.
-/
namespace SingBox.HttpClient

/-- What the transports ask of an error with `errors.Is`. -/
structure TripError where
  noCachedConn : Bool := false
  http2Fallback : Bool := false

inductive Attempt
  | http3Cached
  | http3
  | http2
  | http1
  deriving DecidableEq

structure Request where
  https : Bool
  requiresHTTP1 : Bool
  hasBody : Bool
  hasGetBody : Bool
  authority : String

def requestReplayable (request : Request) : Bool := !request.hasBody || request.hasGetBody

/-- `http3BrokenEntry`; the zero time of `until` is `none`. -/
structure BrokenEntry where
  deadline : Option Nat := none
  backoff : Nat := 0

/-- The broken table of the HTTP/3 transport and the fallback table of the HTTP/2 one. -/
structure FallbackTables where
  broken : AList fun _ : String => BrokenEntry := ∅
  fallbackAuthority : List String := []

/-- The tables after a round trip, the attempts it started, and its error. -/
abbrev Trip := FallbackTables × List Attempt × Option TripError

namespace FallbackTables

def minute : Nat := 60000000000

variable (t : FallbackTables)
variable (authority : String)

/-- An entry that has run out is deleted. -/
def h3Broken (now : Nat) : Bool × FallbackTables :=
  if authority = "" then (false, t)
  else match t.broken.lookup authority with
    | none => (false, t)
    | some entry =>
      if entry.deadline.all (· ≤ now) then (false, { t with broken := t.broken.erase authority }) else (true, t)

def clearH3Broken : FallbackTables :=
  if authority = "" then t else { t with broken := t.broken.erase authority }

def markH3Broken (now : Nat) : FallbackTables :=
  if authority = "" then t
  else
    let entry := (t.broken.lookup authority).getD {}
    let backoff := if entry.backoff = 0 then 5 * minute else min (entry.backoff * 2) (48 * 60 * minute)
    { t with broken := t.broken.insert authority ⟨some (now + backoff), backoff⟩ }

def isH2Fallback : Bool :=
  authority != "" && t.fallbackAuthority.contains authority

def markH2Fallback : FallbackTables :=
  if authority = "" then t else { t with fallbackAuthority := authority :: t.fallbackAuthority }

end FallbackTables

section
variable (outcome : Attempt → Option TripError) (now : Nat)

/-- `http2FallbackTransport.roundTrip`. A clone for a retry keeps a body that has no `GetBody`. -/
def roundTripHTTP2 (t : FallbackTables) (request : Request) (allowHTTP1Fallback : Bool) : Trip :=
  if !request.https || request.requiresHTTP1 then (t, [.http1], outcome .http1)
  else if t.isH2Fallback request.authority then
    if !allowHTTP1Fallback then (t, [], some { http2Fallback := true }) else (t, [.http1], outcome .http1)
  else match outcome .http2 with
    | none => (t, [.http2], none)
    | some err =>
      if !err.http2Fallback || !allowHTTP1Fallback then (t, [.http2], some err)
      else (t.markH2Fallback request.authority, [.http2, .http1], outcome .http1)

def roundTripHTTP3 (race : FallbackTables → Trip) (t : FallbackTables) (request : Request) : Trip :=
  let (isBroken, t) := t.h3Broken request.authority now
  if isBroken then roundTripHTTP2 outcome t request true
  else match outcome .http3Cached with
    | none => (t.clearH3Broken request.authority, [.http3Cached], none)
    | some err =>
      if !err.noCachedConn then
        let r := roundTripHTTP2 outcome (t.markH3Broken request.authority now) request true
        (r.1, .http3Cached :: r.2.1, r.2.2)
      else if !requestReplayable request then
        match outcome .http3 with
        | none => (t.clearH3Broken request.authority, [.http3Cached, .http3], none)
        | some err => (t.markH3Broken request.authority now, [.http3Cached, .http3], some err)
      else race t

def roundTrip (race : FallbackTables → Trip) (t : FallbackTables) (request : Request) : Trip :=
  if !request.https || request.requiresHTTP1 then roundTripHTTP2 outcome t request true
  else roundTripHTTP3 outcome now race t request

/-- Every attempt but the last failed before it read the body. -/
def BodyOnce (attempts : List Attempt) : Prop :=
  ∀ a ∈ attempts.dropLast, ∃ err, outcome a = some err ∧ (err.noCachedConn = true ∨ err.http2Fallback = true)

variable {outcome now} {t : FallbackTables} {request : Request}

/-- The HTTP/2 transport goes on to HTTP/1 only after an error that it takes for a fallback. -/
lemma roundTripHTTP2_attempts (t : FallbackTables) (request : Request) :
    (roundTripHTTP2 outcome t request true).2.1 ≠ [] ∧ BodyOnce outcome (roundTripHTTP2 outcome t request true).2.1 := by
  unfold roundTripHTTP2
  split
  · exact ⟨by simp, by simp [BodyOnce]⟩
  split
  · exact ⟨by simp, by simp [BodyOnce]⟩
  cases h : outcome .http2 with
  | none => exact ⟨by simp, by simp [BodyOnce]⟩
  | some err =>
    cases hf : err.http2Fallback
    · exact ⟨by simp [hf], by simp [BodyOnce, hf]⟩
    · exact ⟨by simp [hf], by simp [BodyOnce, hf, h]⟩

/-- A body that cannot be replayed is handed to one attempt, exactly unless an attempt on a cached HTTP/3
connection fails with another error: the request then goes on to HTTP/2. -/
theorem body_sent_once_iff (outcome : Attempt → Option TripError) (now : Nat) (race : FallbackTables → Trip)
    (t : FallbackTables) (request : Request) (hhttps : request.https = true) (hbody : request.hasBody = true)
    (hget : request.hasGetBody = false) : BodyOnce outcome (roundTrip outcome now race t request).2.1 ↔
      request.requiresHTTP1 = true ∨ (t.h3Broken request.authority now).1 = true ∨
      ∀ err, outcome .http3Cached = some err → err.noCachedConn = true ∨ err.http2Fallback = true := by
  unfold roundTrip
  cases h1 : request.requiresHTTP1
  · have hreplay : requestReplayable request = false := by simp [requestReplayable, hbody, hget]
    simp only [hhttps, Bool.not_true, Bool.or_self, Bool.false_eq_true, if_false, false_or]
    unfold roundTripHTTP3
    dsimp only
    cases hbroken : (t.h3Broken request.authority now).1
    · cases hcached : outcome .http3Cached with
      | none => simp [BodyOnce]
      | some err =>
        cases hno : err.noCachedConn
        · -- the attempts go on over HTTP/2
          obtain ⟨hne, honce⟩ := @roundTripHTTP2_attempts outcome
            ((t.h3Broken request.authority now).2.markH3Broken request.authority now) request
          simp only [BodyOnce] at honce ⊢
          simpa [List.dropLast_cons_of_ne_nil hne, hno, hcached] using fun _ => honce
        · cases h3 : outcome .http3 <;> simp [BodyOnce, hno, hreplay, hcached]
    · simp [(roundTripHTTP2_attempts _ request).2]
  · simp [(roundTripHTTP2_attempts t request).2]

end

/-- An upload, without and with an HTTP/3 connection in the cache. -/
def upload : Request := ⟨true, false, true, false, "example.com:443"⟩
def uncached (_ : Attempt) : Option TripError := some { noCachedConn := true }
def breaks (a : Attempt) : Option TripError := if a = .http3Cached then some {} else none

theorem body_sent_once_iff_uncached : BodyOnce uncached (roundTrip uncached 0 (·, [], none) {} upload).2.1 := by
  refine (body_sent_once_iff uncached 0 (·, [], none) {} upload rfl rfl rfl).2 (.inr (.inr fun err herr => ?_))
  cases herr
  exact .inl rfl

/-- The connection breaks during the upload, and what is left of the body goes to HTTP/2. -/
theorem body_sent_twice : (roundTrip breaks 0 (·, [], none) {} upload).2.1 = [.http3Cached, .http2] ∧
    ¬ BodyOnce breaks [.http3Cached, .http2] := by
  refine ⟨by decide, ?_⟩
  intro h
  obtain ⟨err, herr, hkind⟩ := h .http3Cached (by simp)
  cases herr
  rcases hkind with h | h <;> cases h

end SingBox.HttpClient
