import SingBox.Dns.Transport.PoolRun
/-!
# What the pool's counters count

Each critical section of the pool keeps the books. `pool_accounts`: whatever
the interleaving, the counters of the pool agree with the calls, and no
connection is lost.
-/
namespace SingBox.Dns.Transport
open List Option ConnPool PoolRun Machine
variable {T : Type} [DecidableEq T]

/-! ## The critical sections -/

section Sections
variable {p : ConnPool T} {calls : List (Call T)} {i : Nat} {call : Call T} {ctx : Nat}

lemma Books.drop (h : Books p calls) (conn : T) (cause cause' : Err) :
    Books ((p.removeConn p.state conn cause).willClose conn cause') calls := by
  have h' := (h.willClose conn cause').removeConn (mem_cons_self (a := (conn, cause')))
  unfold ConnPool.removeConn
  split
  · exact h'.frame _ _ _
  · exact h'

lemma Books.unsharedOrdered (h : Books p calls) : p.mode = .ordered → p.current.shared = none :=
  (h.states p.state).ordered

variable {conn : T} {ctxs : Nat → Option Done} {d g : Nat} {p' : ConnPool T} {startDial : Bool}
  {r : ConnPool T × Acquired T}

section
variable (h : Books p calls)
include h

lemma Books.leaveHolder {created : Bool} (hi : calls[i]? = some call)
    (hph : call.phase = .holding conn created) (hne : p.closed = false → p.current.shared ≠ some conn) :
    Books p (calls.set i ⟨ctx, .left conn created⟩) := by
  obtain ⟨-, hcs⟩ := counts_left hi hph ctx
  have h' : Books (p.setState p.state p.current) (calls.set i ⟨ctx, .left conn created⟩) := by
    refine h.handBack rfl rfl rfl hi hph ctx fun hcl => ?_
    have hcur := h.current hcl
    refine ⟨hcur.unshared, fun c hc => ?_, fun c hc => ?_, hcur.idleNodup, fun hm c hc => ?_⟩
    · have hcc : conn ≠ c := fun hcc => hne hcl (hcc ▸ hc)
      have := (hcs c).1
      rw [if_neg hcc] at this
      rw [hcur.users c hc, ← this, Nat.add_zero]
    · rw [(hcs c).2.1]
      exact hcur.claimed c hc
    · obtain ⟨hall, h0, hpos⟩ := hcur.idle hm c hc
      have := (hcs c).1
      exact ⟨hall, by omega, (hcs c).2.1 ▸ hpos⟩
  rwa [setState_self] at h'

lemma Books.release (hnum : Numbered p) {created : Bool} (hi : calls[i]? = some call)
    (hph : call.phase = .holding conn created) (reuse alive : Bool) :
    Books (p.release conn reuse alive) (calls.set i ⟨ctx, .left conn created⟩) ∧
      Numbered (p.release conn reuse alive) := by
  obtain ⟨-, hcs⟩ := counts_left hi hph ctx
  have huntracked : conn ∉ p.current.all → p.current.shared ≠ some conn := fun hnot hs =>
    hnot ((h.states p.state).shared conn hs)
  unfold ConnPool.release
  split
  next hcl => exact ⟨(h.leaveHolder hi hph fun hf => by cases hcl.symm.trans hf).willClose _ _, hnum.willClose _ _⟩
  next hcl =>
  have hcl : p.closed = false := by simpa using hcl
  have hcur := h.current hcl
  split
  next hnot => exact ⟨(h.leaveHolder hi hph fun _ => huntracked hnot).willClose _ _, hnum.willClose _ _⟩
  next htracked =>
  split
  · exact ⟨(h.drop conn _ _).leaveHolder hi hph fun _ => removeConn_shared_ne h.unsharedOrdered conn _,
      (hnum.removeConn _ _).willClose _ _⟩
  split
  next hm =>
    split
    next hs =>
      refine ⟨h.handBack (by rfl) (by rfl) (by rfl) hi hph ctx fun _ => ?_, hnum.setState rfl id⟩
      refine ⟨fun hn => (by cases hn.symm.trans hs.1), fun c hc => ?_, fun c hc => ?_, hcur.idleNodup, ?_⟩
      · obtain rfl : conn = c := some.inj (hs.1.symm.trans hc)
        have := (hcs conn).1
        rw [if_pos rfl] at this
        rw [hcur.users conn hc, ← this]
        simp
      · rw [(hcs c).2.1]
        exact hcur.claimed c hc
      · exact fun hm' => by cases hm.symm.trans hm'
    next hs =>
      refine ⟨h.leaveHolder hi hph fun _ hsh => hs ⟨hsh, ?_⟩, hnum⟩
      have := (hcs conn).1
      rw [if_pos rfl] at this
      rw [hcur.users conn hsh, ← this]
      omega
  next hm =>
    have hsh : p.current.shared = none := (h.states p.state).ordered hm
    split
    next hidle => exact ⟨h.leaveHolder hi hph fun _ he => (by cases hsh.symm.trans he), hnum⟩
    next hidle =>
      refine ⟨h.handBack (by rfl) (by rfl) (by rfl) hi hph ctx fun _ => ?_, hnum.setState rfl id⟩
      refine ⟨hcur.unshared, fun c hc => (by cases hsh.symm.trans hc),
        fun c hc => (by cases hsh.symm.trans hc), ?_, fun _ c hc => ?_⟩
      · exact nodup_append.2 ⟨hcur.idleNodup, nodup_singleton _, by rintro a ha b hb rfl; simp_all⟩
      have h1 := h.ordered hm c
      have h2 := (hcs c).1
      rw [(hcs c).2.1]
      rcases mem_append.1 hc with hc | hc
      · obtain ⟨hall, h0, hpos⟩ := hcur.idle hm c hc
        exact ⟨hall, by omega, hpos⟩
      obtain rfl := mem_singleton.1 hc
      rw [if_pos rfl] at h2
      exact ⟨not_not.1 htracked, by omega, lt_of_lt_of_le (by omega) (holders_le_acquisitions calls c)⟩

lemma Books.invalidate (hnum : Numbered p) (conn : T) (cause : Err) :
    Books (p.invalidate conn cause) calls ∧ Numbered (p.invalidate conn cause) := by
  unfold ConnPool.invalidate
  split
  · exact ⟨h.willClose conn cause, hnum.willClose _ _⟩
  split
  · exact ⟨h, hnum⟩
  · exact ⟨h.drop conn cause cause, (hnum.removeConn _ _).willClose _ _⟩

lemma Books.invalidate_shared_ne (conn : T) (cause : Err)
    (hcl : (p.invalidate conn cause).closed = false) : (p.invalidate conn cause).current.shared ≠ some conn := by
  unfold ConnPool.invalidate at hcl ⊢
  split
  next hc => rw [if_pos hc] at hcl; cases hc.symm.trans hcl
  next =>
    split
    next hnot => exact fun hs => hnot ((h.states p.state).shared conn hs)
    next => exact removeConn_shared_ne h.unsharedOrdered conn cause

lemma Books.closeIdle (hnum : Numbered p) : Books p.closeIdle calls ∧ Numbered p.closeIdle := by
  unfold ConnPool.closeIdle
  split
  · exact ⟨h, hnum⟩
  split
  · split
    · exact ⟨h, hnum⟩
    · exact ⟨h.drop _ _ _, (hnum.removeConn _ _).willClose _ _⟩
  · exact ⟨h, hnum⟩

lemma Books.dialReturns (hnum : Numbered p) {result : Except Err T} {stateFirst : Bool}
    (hs : p.dialReturns ctxs d result stateFirst = some p') : Books p' calls ∧ Numbered p' := by
  unfold ConnPool.dialReturns at hs
  split at hs
  next dial hd =>
    split at hs
    · cases hs
    next hph =>
    have hph : dial.phase = .dialing := not_not.1 hph
    have hnone : ∀ c, dial.phase = .dialed c → ∃ cause, (c, cause) ∈ p.closing := fun c hc =>
      by cases hph.symm.trans hc
    have hne : ∀ err, dial.phase ≠ .ended err := fun err he => by cases hph.symm.trans he
    dsimp only at hs
    split at hs
    · cases hs
      exact ⟨h.setDial hd (by simp) hnone, hnum.setDial hd hne⟩
    next conn =>
      split at hs
      · cases hs
      next hnew =>
      have h' := h.dialed hd hph hnew
      split at hs
      next err _ =>
        -- the connection goes from the dial to the caller of `Close`
        cases hs
        refine ⟨?_, (hnum.frame _ _ _ _ _).setDial hd hne⟩
        have hd' : ((({ p with dialed := conn :: p.dialed } : ConnPool T).setDial d
            { dial with phase := .dialed conn }).willClose conn err).dials d = some { dial with phase := .dialed conn } :=
          Function.update_self ..
        have hclosing : ∀ c, DialPhase.dialed conn = .dialed c → ∃ cause, (c, cause) ∈ (conn, err) :: p.closing :=
          fun c hc => ⟨err, DialPhase.dialed.inj hc ▸ mem_cons_self⟩
        have hph' : ∀ c : T, DialPhase.failed err ≠ .dialed c := by simp
        simpa [ConnPool.setDial, ConnPool.willClose, Function.update_idem] using
          (h'.willClose conn err).setDial hd' hph' hclosing
      next =>
        cases hs
        exact ⟨h', (hnum.frame _ _ _ _ _).setDial hd hne⟩
  next => cases hs

lemma Books.connectSingle (hn : Numbered p) (hs : p.connectSingle d = some p') : Books p' calls ∧ Numbered p' := by
  unfold ConnPool.connectSingle at hs
  split at hs
  next dial hm hd =>
    have hsame : ∀ g' : Nat, (waiters calls g' : Int) =
        if g' = dial.state then (p.states dial.state).sharedWaiters else waiters calls g' := by
      intro g'
      split
      next hg => rw [hg, h.waiting]
      next => rfl
    split at hs
    next err hph =>
      cases hs
      have hne : ∀ err, dial.phase ≠ .ended err := fun _ he => by cases hph.symm.trans he
      refine ⟨?_, hn.endDial hm hd hne _⟩
      have h' := h.setWaiters (hn.connecting hm d dial hd hne).1 none hsame (fun _ => rfl) (fun _ => rfl) (fun _ => rfl)
      exact h'.setDial hd (by simp) fun c hc => by cases hph.symm.trans hc
    next conn hph =>
      have hne : ∀ err, dial.phase ≠ .ended err := fun _ he => by cases hph.symm.trans he
      obtain ⟨hle, -, hnone⟩ := hn.connecting hm d dial hd hne
      split at hs
      next =>
        cases hs
        refine ⟨?_, (hn.endDial hm hd hne _).frame _ _ _ _ _⟩
        have h' := (h.willClose conn .closed).setWaiters hle none hsame (fun _ => rfl) (fun _ => rfl) (fun _ => rfl)
        exact h'.setDial hd (by simp) fun c hc =>
          ⟨.closed, DialPhase.dialed.inj (hph.symm.trans hc) ▸ mem_cons_self⟩
      next hcond =>
        cases hs
        refine ⟨?_, hn.endDial hm hd hne _⟩
        obtain ⟨hcl, hstate⟩ := not_or.1 hcond
        have hcl : p.closed = false := by simpa using hcl
        have hstate : dial.state = p.state := (not_not.1 hstate).symm
        have hst : p.states dial.state = p.current := by rw [hstate]; rfl
        rw [show p.setState dial.state = p.setState p.state by rw [hstate], hst]
        rw [hst] at hnone
        have hcur := h.current hcl
        obtain ⟨hu, hclaim⟩ := hcur.unshared hnone
        have hacq := (h.hand d conn ⟨dial, hd, hph⟩).2
        refine h.install hcl hd hph
          { p.current with connecting := none, shared := some conn, all := conn :: p.current.all } rfl rfl
          (fun c hc => .inr (some.inj hc).symm) (fun ho => by cases hm.symm.trans ho)
          ⟨by simp, fun c hc => ?_, fun c hc => ?_, hcur.idleNodup, ?_⟩ none
        · cases hc
          have := holders_le_acquisitions calls conn
          exact hu.trans (by exact_mod_cast (show 0 = holders calls conn by omega))
        · cases hc
          exact iff_of_false (by simpa using hclaim) (by omega)
        · exact fun ho => by cases hm.symm.trans ho
    next => cases hs
  next => cases hs

section
variable (hi : calls[i]? = some call)
include hi

lemma Books.waits_le (hph : call.phase = .acquiring (.waiting g d startDial)) : g ≤ p.state := by
  by_contra hlt
  have h0 := h.ahead g (Nat.lt_of_not_le hlt)
  have hpos : 0 < waiters calls g := countP_pos_iff.2 ⟨call, mem_of_getElem? hi, by simp [hph, CallPhase.waits]⟩
  omega

/-- A call begins or ends to wait, on the state object `g`. -/
lemma Books.setWait {call' : Call T} (hg : g ≤ p.state) (x : Option Nat)
    (hwaits : ∀ g', g' ≠ g → call'.phase.waits g' = call.phase.waits g') {w : Int}
    (hw : w + (call.phase.waits g).toNat = (p.states g).sharedWaiters + (call'.phase.waits g).toNat)
    (hsame : ∀ c, call'.phase.holds c = call.phase.holds c ∧ call'.phase.had c = call.phase.had c ∧
      call'.phase.toldCreated c = call.phase.toldCreated c) :
    Books (p.setState g { p.states g with sharedWaiters := w, connecting := x }) (calls.set i call') := by
  refine h.setWaiters hg x (fun g' => ?_) (fun c => ?_) (fun c => ?_) fun c => ?_
  · have hset := waiters_set hi call' g'
    split
    next heq =>
      subst heq
      have := h.waiting g'
      omega
    next hne =>
      rw [hwaits g' hne] at hset
      exact_mod_cast Nat.add_right_cancel hset
  · exact Nat.add_right_cancel ((hsame c).1 ▸ holders_set hi call' c)
  · exact Nat.add_right_cancel ((hsame c).2.1 ▸ acquisitions_set hi call' c)
  · exact Nat.add_right_cancel ((hsame c).2.2 ▸ creators_set hi call' c)

lemma Books.leaveWait (hph : call.phase = .acquiring (.waiting g d startDial)) {call' : Call T}
    (hn : call'.phase.Neutral) : Books (p.leaveWait g) (calls.set i call') := by
  refine h.setWait hi (h.waits_le hi hph) _ (fun g' hg' => ?_) ?_ fun c => ?_
  · rw [hph, hn.waits]
    simp [CallPhase.waits, Ne.symm hg']
  · rw [hph, hn.waits]
    simp [CallPhase.waits]
  · rw [hph, hn.holds, hn.had, hn.toldCreated]
    exact ⟨rfl, rfl, rfl⟩

lemma Books.enterWait (hn : call.phase.Neutral) (d : Nat) (startDial : Bool) (x : Option Nat) :
    Books (p.setState p.state { p.current with sharedWaiters := p.current.sharedWaiters + 1, connecting := x })
      (calls.set i ⟨ctx, .acquiring (.waiting p.state d startDial)⟩) := by
  refine h.setWait hi (Nat.le_refl _) x (fun g' hg' => ?_) ?_ fun c => ?_
  · rw [hn.waits]
    simp [CallPhase.waits, Ne.symm hg']
  · rw [hn.waits]
    simp [CallPhase.waits, ConnPool.current]
  · rw [hn.holds, hn.had, hn.toldCreated]
    exact ⟨rfl, rfl, rfl⟩

end

section
variable (hnum : Numbered p)
include hnum

lemma Books.takeShared (hcl : p.closed = false) (hs : p.current.shared = some conn)
    (hi : calls[i]? = some call) (hn : call.phase.Neutral) (alive : Bool) :
    Books (p.takeShared conn alive).1 (calls.set i ⟨ctx, .ofAcquired (p.takeShared conn alive).2⟩) ∧
      Numbered (p.takeShared conn alive).1 := by
  have hcur := h.current hcl
  have hm : p.mode ≠ .ordered := fun hm => by cases (h.unsharedOrdered hm).symm.trans hs
  unfold ConnPool.takeShared
  split
  next =>
    refine ⟨?_, hnum.setState rfl fun hnone => by cases hs.symm.trans hnone⟩
    obtain ⟨-, hcs⟩ := counts_holding hi hn ctx conn (!p.current.sharedClaimed)
    refine h.handOut ?_ ?_ ?_ hi hn ctx ((h.states p.state).shared conn hs) ?_ (fun ho => absurd ho hm) fun _ =>
      ⟨?_, fun c hc => ?_, fun c hc => ?_, ?_, fun ho => absurd ho hm⟩
    · rfl
    · rfl
    · rfl
    · rw [Bool.not_eq_true', ← Bool.not_eq_true, hcur.claimed conn hs]
      omega
    · exact fun hnone => by cases hs.symm.trans hnone
    · obtain rfl := some.inj (hs.symm.trans hc)
      rw [(hcs conn).1, if_pos rfl, hcur.users conn hs]
      rfl
    · obtain rfl := some.inj (hs.symm.trans hc)
      rw [(hcs conn).2.1, if_pos rfl]
      exact iff_of_true rfl (Nat.succ_pos _)
    · exact hcur.idleNodup
  next => exact ⟨(h.drop conn _ _).relabel hi hn trivial, (hnum.removeConn conn .closed).frame _ _ _ _ _⟩

lemma Books.acquireShared (hi : calls[i]? = some call) (hn : call.phase.Neutral) (alive : Bool) :
    Books (p.acquireShared ctx alive).1 (calls.set i ⟨ctx, .ofAcquired (p.acquireShared ctx alive).2⟩) ∧
      Numbered (p.acquireShared ctx alive).1 := by
  unfold ConnPool.acquireShared
  split
  next => exact ⟨h.relabel hi hn trivial, hnum⟩
  next hcl =>
    have hcl : p.closed = false := by simpa using hcl
    split
    next conn hs => exact h.takeShared hnum hcl hs hi hn alive
    next hs =>
      split
      next d hd => exact ⟨h.enterWait hi hn d false _, hnum.setState rfl id⟩
      next hnone =>
        refine ⟨(h.enterWait hi hn _ true _).startDial (hnum.below _ (Nat.le_refl _)) _ _, ?_⟩
        -- the state object had no unfinished dial
        have h' : Numbered (p.setState p.state
            { p.current with sharedWaiters := p.current.sharedWaiters + 1, connecting := some p.nextDial }) := by
          refine ⟨hnum.below, hnum.retired, fun hm d dial hd hph => ?_⟩
          obtain ⟨hle, hcon, hsh⟩ := hnum.connecting hm d dial hd hph
          have hne : dial.state ≠ p.state := fun he => by
            rw [he] at hcon
            cases hnone.symm.trans hcon
          rw [p.setState_states_ne hne]
          exact ⟨hle, hcon, hsh⟩
        refine h'.startDial fun _ => ⟨Nat.le_refl _, ?_⟩
        rw [setState_states_self]
        exact ⟨rfl, hs⟩

lemma Books.collectShared (hi : calls[i]? = some call)
    (hph : call.phase = .acquiring (.waiting g d startDial)) (err : Option Err) (alive : Bool) :
    Books (p.collectShared g err startDial alive).1
      (calls.set i ⟨ctx, .ofAcquired (p.collectShared g err startDial alive).2⟩) ∧
      Numbered (p.collectShared g err startDial alive).1 := by
  have hlen : i < calls.length := (List.getElem?_eq_some_iff.1 hi).1
  -- the wait is left first, as if to look again
  have h' : Books (p.leaveWait g) (calls.set i ⟨ctx, .acquiring .looking⟩) := h.leaveWait hi hph trivial
  have hi' : (calls.set i ⟨ctx, .acquiring .looking⟩)[i]? = some ⟨ctx, .acquiring .looking⟩ := getElem?_set_self hlen
  have hnum' : Numbered (p.leaveWait g) := hnum.setState rfl id
  unfold ConnPool.collectShared
  dsimp only
  split
  next err =>
    refine ⟨h.leaveWait hi hph ?_, hnum'⟩
    cases startDial <;> trivial
  next =>
    split
    next => exact ⟨h.leaveWait hi hph trivial, hnum'⟩
    next hcond =>
      have hcl : (p.leaveWait g).closed = false := by simpa using (not_or.1 hcond).1
      split
      next => exact ⟨h', hnum'⟩
      next conn hs =>
        rw [← set_set ⟨ctx, .acquiring .looking⟩]
        exact h'.takeShared hnum' hcl hs hi' trivial alive

lemma Books.acquireOrdered (hm : p.mode = .ordered) (hi : calls[i]? = some call)
    (hn : call.phase.Neutral) (alive : Bool) :
    Books (p.acquireOrdered alive).1 (calls.set i ⟨ctx, .ofAcquired (p.acquireOrdered alive).2⟩) ∧
      Numbered (p.acquireOrdered alive).1 := by
  have hsh := h.unsharedOrdered hm
  unfold ConnPool.acquireOrdered
  split
  next => exact ⟨h.relabel hi hn trivial, hnum⟩
  next hcl =>
    have hcl : p.closed = false := by simpa using hcl
    have hcur := h.current hcl
    split
    next => exact ⟨h.relabel hi hn trivial, hnum⟩
    next conn idle hidle =>
      have hnd := hcur.idleNodup
      rw [hidle] at hnd
      obtain ⟨hnot, hnd⟩ := nodup_cons.1 hnd
      obtain ⟨htracked, hfree, hacq⟩ := hcur.idle hm conn (hidle ▸ mem_cons_self)
      split
      next =>
        refine ⟨?_, hnum.setState rfl id⟩
        obtain ⟨-, hcs⟩ := counts_holding hi hn ctx conn false
        refine h.handOut ?_ ?_ ?_ hi hn ctx ?_ ?_ (fun _ => hfree) fun _ =>
          ⟨?_, fun c hc => ?_, fun c hc => ?_, ?_, fun _ c hc => ?_⟩
        · rfl
        · rfl
        · rfl
        · exact htracked
        · exact iff_of_false (by simp) (by omega)
        · exact hcur.unshared
        · cases hsh.symm.trans hc
        · cases hsh.symm.trans hc
        · exact hnd
        · have hne : conn ≠ c := fun hcc => hnot (hcc ▸ hc)
          rw [(hcs c).1, (hcs c).2.1, if_neg hne]
          exact hcur.idle hm c (hidle ▸ mem_cons_of_mem _ hc)
      next =>
        refine ⟨?_, Numbered.willClose (hnum.setState (by rfl) (by exact id)) _ _⟩
        -- taking the head of the queue is removing the connection
        have hfilter : (conn :: idle).filter (· ≠ conn) = idle := by
          rw [filter_cons_of_neg (by simp), filter_eq_self]
          intro c hc
          exact decide_eq_true fun hcc => hnot (hcc ▸ hc)
        have hremove : (p.removeConn p.state conn .closed).willClose conn .closed =
            (p.setState p.state { p.current with idle, all := p.current.all.filter (· ≠ conn) }).willClose conn .closed := by
          unfold ConnPool.removeConn ConnPoolState.removeConn
          simp only [hm, show (p.states p.state).idle = conn :: idle from hidle, hfilter]
          rfl
        rw [← hremove]
        exact (h.drop conn .closed .closed).relabel hi hn trivial

lemma Books.dialAndInstall (hm : p.mode = .ordered) (hi : calls[i]? = some call)
    (hn : call.phase.Neutral) (hs : p.dialAndInstall d = some r) :
    Books r.1 (calls.set i ⟨ctx, .ofAcquired r.2⟩) ∧ Numbered r.1 := by
  have h' : Books p.releaseSlot calls := h.frame _ _ _
  have hnum' : Numbered p.releaseSlot := hnum.frame _ _ _ _ _
  unfold ConnPool.dialAndInstall at hs
  split at hs
  next dial hd =>
    split at hs
    next err hph =>
      cases hs
      refine ⟨Books.relabel ?_ hi hn trivial, hnum'.setDial hd fun _ he => by cases hph.symm.trans he⟩
      refine h'.setDial hd ?_ fun c hc => by cases hph.symm.trans hc
      simp
    next conn hph =>
      have hne : ∀ err, dial.phase ≠ .ended err := fun _ he => by cases hph.symm.trans he
      split at hs
      next =>
        cases hs
        refine ⟨Books.relabel ?_ hi hn trivial, (hnum'.setDial hd hne).willClose _ _⟩
        refine (h'.willClose conn .closed).setDial hd ?_ fun c hc =>
          ⟨.closed, DialPhase.dialed.inj (hph.symm.trans hc) ▸ mem_cons_self⟩
        simp
      next hcond =>
        cases hs
        refine ⟨?_, Numbered.setDial (hnum'.setState (by rfl) (by exact id)) hd hne⟩
        have hcl : p.closed = false := by simpa using (not_or.1 hcond).1
        have hsh := h.unsharedOrdered hm
        have hcur := h.current hcl
        have hacq := (h.hand d conn ⟨dial, hd, hph⟩).2
        have hcur' : CurrentBooks p.mode calls { p.current with all := conn :: p.current.all } :=
          { hcur with idle := fun ho c hc => ⟨mem_cons_of_mem _ (hcur.idle ho c hc).1, (hcur.idle ho c hc).2⟩ }
        -- first into the state object, then to the caller
        have hin := h'.install hcl hd hph { p.current with all := conn :: p.current.all } rfl rfl (fun c hc => .inl hc)
          (fun _ => hsh) hcur' none
        have hst := p.releaseSlot.setState_current { p.current with all := conn :: p.current.all }
        obtain ⟨-, hcs⟩ := counts_holding hi hn ctx conn true
        rw [← ConnPool.setState_self (ConnPool.setDial _ _ _)]
        refine hin.handOut rfl rfl rfl hi hn ctx ?_ (iff_of_true rfl hacq) (fun _ => ?_) fun _ => ?_
        · exact hst.symm ▸ mem_cons_self
        · exact Nat.le_zero.1 (hacq ▸ holders_le_acquisitions calls conn)
        refine CurrentBooks.of_eq ?_ hst
        refine ⟨hcur.unshared, fun c hc => (by cases hsh.symm.trans hc),
          fun c hc => (by cases hsh.symm.trans hc), hcur.idleNodup, fun ho c hc => ?_⟩
        obtain ⟨hall, h0, hpos⟩ := hcur'.idle ho c hc
        have hne : conn ≠ c := by
          rintro rfl
          exact hpos.ne' hacq
        rw [(hcs c).1, (hcs c).2.1, if_neg hne]
        exact ⟨hall, h0, hpos⟩
    next => cases hs
  next => cases hs

lemma Books.acquireStep {a : Acquire}
    {m : ConnPool.Move} (hi : calls[i]? = some ⟨ctx, .acquiring a⟩) (hs : p.acquireStep ctxs ctx a m = some r) :
    Books r.1 (calls.set i ⟨ctx, .ofAcquired r.2⟩) ∧ Numbered r.1 := by
  unfold ConnPool.acquireStep at hs
  split at hs
  next alive =>
    split at hs
    · cases hs
      exact h.acquireShared hnum hi trivial alive
    next hm =>
      cases hs
      exact h.acquireOrdered hnum hm hi trivial alive
  next g d startDial alive =>
    split at hs
    · cases hs
      exact h.collectShared hnum hi rfl _ alive
    · cases hs
  next g d startDial =>
    obtain ⟨done, -, rfl⟩ := map_eq_some_iff.1 hs
    exact ⟨h.leaveWait hi rfl trivial, hnum.setState rfl id⟩
  next g d startDial =>
    obtain ⟨cause, -, rfl⟩ := map_eq_some_iff.1 hs
    refine ⟨h.leaveWait hi rfl ?_, hnum.setState rfl id⟩
    cases p.closed <;> trivial
  next g =>
    split at hs
    next hm =>
      obtain ⟨p', hp', rfl⟩ := map_eq_some_iff.1 hs
      obtain ⟨n, rfl⟩ := acquireSlot_eq hp'
      have h' : Books { p with inflight := n } calls := h.frame _ _ _
      have hnum' : Numbered { p with inflight := n } := hnum.frame _ _ _ _ _
      exact ⟨(h'.startDial (hnum.below _ (Nat.le_refl _)) _ _).relabel hi trivial trivial,
        hnum'.startDial fun hm' => by cases hm.symm.trans hm'⟩
    next => cases hs
  next g =>
    split at hs
    · cases hs
    split at hs
    · cases hs
      exact ⟨h.relabel hi trivial trivial, hnum⟩
    · cases hs
      exact ⟨h.relabel hi trivial trivial, hnum⟩
    · cases hs
  next d =>
    split at hs
    next hm => exact h.dialAndInstall hnum hm hi trivial hs
    next => cases hs
  next => cases hs

end
end
end Sections

/-! ## Runs -/

namespace PoolRun
variable {s s' : PoolRun T}

structure Kept (s : PoolRun T) : Prop where
  books : Books s.pool s.calls
  numbered : Numbered s.pool

lemma Kept.of (h : Books s.pool s.calls ∧ Numbered s.pool) : s.Kept := ⟨h.1, h.2⟩

lemma start_kept (mode : ConnPoolMode) (maxInflight : Nat) : (start mode maxInflight : PoolRun T).Kept where
  books := {
    waiting := fun _ => rfl
    ahead := fun _ _ => rfl
    created := nofun
    acquired := nofun
    ordered := fun _ _ => Nat.zero_le _
    hand := by rintro d c ⟨dial, h, -⟩; cases h
    handOnce := by rintro d d' c ⟨dial, h, -⟩; cases h
    states := fun _ => ⟨nofun, nofun, fun _ => rfl, nofun⟩
    current := fun _ => ⟨fun _ => ⟨rfl, rfl⟩, nofun, nofun, nodup_nil, nofun⟩
    placed := nofun }
  numbered := ⟨fun _ _ => rfl, nofun, nofun⟩

lemma step_kept (h : s.Kept) (e : PoolEvent T) (hs : s.step e = some s') : s'.Kept := by
  obtain ⟨hb, hn⟩ := h
  cases e with
  | acquire ctx sharedOnly =>
    cases hs
    refine ⟨hb.append ?_, hn⟩
    unfold acquire
    split <;> trivial
  | cancel ctx done =>
    simp only [step] at hs
    split at hs
    · cases hs
      exact ⟨hb, hn⟩
    · cases hs
  | move i m =>
    simp only [step] at hs
    split at hs
    next ctx a hi =>
      obtain ⟨r, hr, rfl⟩ := map_eq_some_iff.1 hs
      exact .of (hb.acquireStep hn hi hr)
    next => cases hs
  | release i reuse alive =>
    simp only [step] at hs
    split at hs
    next ctx conn created hi =>
      cases hs
      exact .of (hb.release hn hi rfl reuse alive)
    next => cases hs
  | invalidate i cause =>
    simp only [step] at hs
    split at hs
    next ctx conn created hi =>
      cases hs
      obtain ⟨hb', hn'⟩ := hb.invalidate hn conn cause
      refine ⟨hb'.leaveHolder hi rfl fun hcl => ?_, hn'⟩
      exact hb.invalidate_shared_ne conn cause hcl
    next => cases hs
  | invalidateConn conn cause =>
    cases hs
    exact .of (hb.invalidate hn conn cause)
  | closeIdle =>
    cases hs
    exact .of (hb.closeIdle hn)
  | reset =>
    cases hs
    exact ⟨hb.reset hn.retired, hn.reset⟩
  | close =>
    cases hs
    exact ⟨hb.close, hn.close⟩
  | dialReturns d result stateFirst =>
    obtain ⟨p, hp, rfl⟩ := map_eq_some_iff.1 hs
    exact .of (hb.dialReturns hn hp)
  | connectSingle d =>
    obtain ⟨p, hp, rfl⟩ := map_eq_some_iff.1 hs
    exact .of (hb.connectSingle hn hp)
  | closeState g =>
    simp only [step] at hs
    split at hs
    · cases hs
      exact ⟨hb.closeState g, hn.closeState g⟩
    · cases hs
  | closeConn k =>
    obtain ⟨p, hp, rfl⟩ := map_eq_some_iff.1 hs
    refine ⟨hb.closeConn hp, ?_⟩
    obtain ⟨x, -, rfl⟩ := map_eq_some_iff.1 hp
    exact hn.frame _ _ _ _ _

/-- The accounts of a pool. A caller counts as waiting from the critical section in which it began to wait to
the one in which it left the wait, be its dial over or not. -/
structure Accounts (s : PoolRun T) : Prop where
  users : s.pool.closed = false →
    s.pool.current.sharedUsers = match s.pool.current.shared with
      | some c => (holders s.calls c : Int)
      | none => 0
  waiting : ∀ g, (s.pool.states g).sharedWaiters = waiters s.calls g
  created : ∀ c, 0 < acquisitions s.calls c → creators s.calls c = 1
  closeIdle : ∀ c cause, s.pool.closeIdle.closing = (c, cause) :: s.pool.closing →
    holders s.calls c = 0 ∧ waiters s.calls s.pool.state = 0
  ordered : s.pool.mode = .ordered → ∀ c, holders s.calls c ≤ 1
  idle : s.pool.mode = .ordered → s.pool.closed = false →
    s.pool.current.idle.Nodup ∧ ∀ c ∈ s.pool.current.idle, holders s.calls c = 0
  placed : ∀ c ∈ s.pool.dialed, s.pool.Placed c

lemma Kept.closeIdle (h : s.Kept) {c : T} {cause : Err}
    (hc : s.pool.closeIdle.closing = (c, cause) :: s.pool.closing) :
    holders s.calls c = 0 ∧ waiters s.calls s.pool.state = 0 := by
  have hne : ∀ x : T × Err, s.pool.closing ≠ x :: s.pool.closing := fun x he => by
    simpa using congrArg length he
  unfold ConnPool.closeIdle at hc
  split at hc
  · exact absurd hc (hne _)
  next hcl =>
    split at hc
    next conn hm hs =>
      split at hc
      · exact absurd hc (hne _)
      next hidle =>
        have hclosing : ((s.pool.removeConn s.pool.state conn .closed).willClose conn .closed).closing =
            (conn, .closed) :: s.pool.closing := by
          unfold removeConn
          split <;> rfl
        obtain ⟨rfl, -⟩ := Prod.mk.inj (cons.inj (hclosing.symm.trans hc)).1
        have hu := (h.books.current (by simpa using hcl)).users conn hs
        have hw : s.pool.current.sharedWaiters = _ := h.books.waiting s.pool.state
        omega
    next => exact absurd hc (hne _)

lemma Kept.accounts (h : s.Kept) : s.Accounts where
  users hcl := by
    have hcur := h.books.current hcl
    split
    next c hc => exact hcur.users c hc
    next hc => exact (hcur.unshared hc).1
  __ := h.books
  closeIdle _ _ := h.closeIdle
  idle hm hcl := ⟨(h.books.current hcl).idleNodup, fun c hc => ((h.books.current hcl).idle hm c hc).2.1⟩

end PoolRun

/-- In every run, the counters of the pool agree with the calls, an idle close closes nothing in use, a
connection of the ordered mode has one holder, and no dialed connection is lost. -/
theorem pool_accounts (mode : ConnPoolMode) (maxInflight : Nat) (es : List (PoolEvent T)) (t : PoolRun T)
    (h : run step (.start mode maxInflight) es = some t) : t.Accounts := by
  have hkept : t.Kept := run_keeps (fun _ e _ hk hs => step_kept hk e hs)
    (start_kept mode maxInflight) h
  exact hkept.accounts

def sharedDial : List (PoolEvent Nat) :=
  [.acquire 0 true, .acquire 1 false, .move 0 (.look true), .move 1 (.look true), .dialReturns 0 (.ok 7) false,
    .connectSingle 0, .move 1 (.collect true), .move 0 (.collect true)]

theorem pool_accounts_shared : ∃ t, run step (.start .single 0) sharedDial = some t ∧
    t.Accounts ∧ t.pool.current.sharedUsers = 2 ∧ creators t.calls 7 = 1 := by
  have hrun : (run step (.start .single 0) sharedDial).map
      (fun t => (t.pool.current.sharedUsers, creators t.calls 7)) = some (2, 1) := by decide +kernel
  obtain ⟨t, ht, he⟩ := map_eq_some_iff.1 hrun
  obtain ⟨hu, hc⟩ := Prod.mk.inj he
  exact ⟨t, ht, pool_accounts .single 0 sharedDial t ht, hu, hc⟩

/-- Callers that wait for the dial the pool's state object is running now. -/
def PoolRun.blockedOnDial (s : PoolRun T) : Nat :=
  s.calls.countP fun call =>
    match call.phase, s.pool.current.connecting with
    | .acquiring (.waiting g d _), some d' => g = s.pool.state ∧ d = d'
    | _, _ => false

/-- A caller of a dial that failed counts until it resumes; a connection may be installed before anyone was
told of it; and a dialed connection is for a while in no one's books but the dial's. -/
theorem pool_accounts_between_sections :
    (∃ t : PoolRun Nat, run step (.start .single 0) [.acquire 0 true, .move 0 (.look true),
        .dialReturns 0 (.error (.external 1)) false, .connectSingle 0, .acquire 1 true, .move 1 (.look true)] = some t ∧
      t.pool.current.sharedWaiters = 2 ∧ t.blockedOnDial = 1) ∧
    (∃ t : PoolRun Nat, run step (.start .single 0) [.acquire 0 true, .move 0 (.look true),
        .dialReturns 0 (.ok 7) false, .connectSingle 0] = some t ∧
      t.pool.current.shared = some 7 ∧ creators t.calls 7 = 0) ∧
    (∃ t : PoolRun Nat, run step (.start .single 0) [.acquire 0 true, .move 0 (.look true),
        .dialReturns 0 (.ok 7) false] = some t ∧
      7 ∈ t.pool.dialed ∧ 7 ∉ t.pool.current.all ∧ t.pool.closedConns = []) :=
  ⟨⟨_, rfl, by decide, by decide⟩, ⟨_, rfl, by decide, by decide⟩, ⟨_, rfl, by decide, by decide, by decide⟩⟩

end SingBox.Dns.Transport
