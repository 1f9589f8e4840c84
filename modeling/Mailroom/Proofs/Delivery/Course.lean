import Mailroom.Delivery.Consignment

/-!
The course of one consignment. It may be asked anything, in any order and for any transaction, and
the mailer may take the message or not; still it is sent at most once, and only after it began and
voted in the transaction that it is in and was never aborted. What a call that returns makes of a
consignment is said once; what holds of a run follows by induction on its calls.
-/

namespace Mailroom.Delivery.Consignment

open Mailroom.Action

variable {mailer : Mailer} {c c' : Consignment} {box : Outbox} {m : Message} {done : List Call}
  {call : Call} {t : Nat}

/-- A call with what the transaction says to a newcomer, which matters to a call to join only. -/
structure Request where
  call : Call
  welcome : Except Fault Unit

def Request.act (mailer : Mailer) (r : Request) : Action (Consignment × Outbox) Unit :=
  match r.call with
  | .join t => .onFirst (join t r.welcome)
  | call => perform mailer call

/-- A consignment and the outbox after some requests, those that were refused included. -/
def follow (mailer : Mailer) : List Request → Consignment × Outbox → Consignment × Outbox
  | [], w => w
  | r :: rest, w => follow mailer rest ((r.act mailer).run w).state

/-- The calls of a run that returned. -/
def returned (mailer : Mailer) : List Request → Consignment × Outbox → List Call
  | [], _ => []
  | r :: rest, w =>
      (if ((r.act mailer).run w).result.isOk then [r.call] else []) ++
        returned mailer rest ((r.act mailer).run w).state

/-! ### One call -/

/-- What a call that returns makes of a consignment. -/
inductive Passes (c : Consignment) : Call → Consignment → Prop
  | join (t : Nat) (free : ∀ u, c.joined = some u → u = t) :
      Passes c (.join t) { c with
        listings := if c.listings.contains t then c.listings else c.listings ++ [t]
        joined := some t }
  | commit (t : Nat) : Passes c (.commit t) c
  | abort (t : Nat) (joined : c.joined = some t)
      (stage : c.stage ∈ [.initial, .begun, .aborted]) :
      Passes c (.abort t) { c with stage := .aborted }
  | start (t : Nat) (joined : c.joined = some t) (stage : c.stage = .initial) :
      Passes c (.start t false) { c with stage := .begun }
  | vote (t : Nat) (joined : c.joined = some t) (stage : c.stage = .begun) :
      Passes c (.vote t) { c with stage := .voted }
  | finish (t : Nat) (joined : c.joined = some t) (stage : c.stage = .voted) :
      Passes c (.finish t) { c with stage := .sent }
  | withdraw (t : Nat) (joined : c.joined = some t)
      (stage : c.stage ∈ [.begun, .voted, .aborted]) :
      Passes c (.withdraw t) { c with stage := .aborted }
  | savepoint : Passes c .savepoint c

/-- What the mailer takes when a call returns. -/
def Call.hands (m : Message) : Call → List Message
  | .finish _ => [m]
  | _ => []

/-- A call returns and does its part, or it is refused and leaves the consignment as it was; the
mailer has taken nothing then. -/
inductive Ends (c : Consignment) (box : Outbox) (call : Call)
    (o : Outcome (Consignment × Outbox) Unit) : Prop
  | passed (result : o.result = .ok ()) (passes : Passes c call o.state.1)
      (accepted : o.state.2.accepted = box.accepted ++ call.hands c.message)
  | refused (e : Fault) (result : o.result = .error e) (kept : o.state.1 = c)
      (accepted : o.state.2.accepted = box.accepted)

theorem run_join (t : Nat) (welcome : Except Fault Unit) (c : Consignment) :
    (∃ e, (join t welcome).run c = ⟨.error e, c, []⟩) ∨
      (∀ u, c.joined = some u → u = t) ∧ (join t welcome).run c = ⟨.ok (), { c with
        listings := if c.listings.contains t then c.listings else c.listings ++ [t]
        joined := some t }, []⟩ := by
  by_cases helsewhere : c.joined.any (· != t)
  · refine .inl ⟨.value .joinedElsewhere, ?_⟩
    simp [join, run_bind, helsewhere]
  · have hfree : ∀ u, c.joined = some u → u = t := by
      intro u hu
      simpa [hu] using helsewhere
    cases hlisted : c.listings.contains t with
    | true =>
        refine .inr ⟨hfree, ?_⟩
        simp only [join, run_bind, run_state, helsewhere, hlisted]
        rfl
    | false =>
        cases welcome with
        | error e =>
            refine .inl ⟨e, ?_⟩
            simp only [join, run_bind, run_state, helsewhere, hlisted]
            rfl
        | ok u =>
            refine .inr ⟨hfree, ?_⟩
            simp only [join, run_bind, run_state, helsewhere, hlisted]
            rfl

/-- A call that only takes a consignment from some stages to another one. -/
theorem run_advance (t : Nat) (stages : List Stage) (stage : Stage) (c : Consignment) :
    (∃ e, (requireStage t stages >>= fun _ => enter stage).run c = ⟨.error e, c, []⟩) ∨
      (c.joined = some t ∧ c.stage ∈ stages) ∧
        (requireStage t stages >>= fun _ => enter stage).run c =
          ⟨.ok (), { c with stage := stage }, []⟩ := by
  cases hcheck : c.checkStage t stages with
  | error e => exact .inl ⟨e, by simp [run_bind, hcheck]⟩
  | ok u => exact .inr ⟨checkStage_eq_ok_iff.mp hcheck, by simp [run_bind, hcheck, enter]⟩

theorem run_start (t : Nat) (nested : Bool) (c : Consignment) :
    (∃ e, (start t nested).run c = ⟨.error e, c, []⟩) ∨
      nested = false ∧ (c.joined = some t ∧ c.stage ∈ [.initial]) ∧
        (start t nested).run c = ⟨.ok (), { c with stage := .begun }, []⟩ := by
  cases nested with
  | false =>
      rcases run_advance t [.initial] .begun c with hrefused | ⟨hcheck, hrun⟩
      · exact .inl hrefused
      · exact .inr ⟨rfl, hcheck, hrun⟩
  | true =>
      cases hcheck : c.checkStage t [.initial] with
      | error e => exact .inl ⟨e, by simp [start, run_bind, hcheck]⟩
      | ok u => exact .inl ⟨_, by simp [start, run_bind, hcheck]; rfl⟩

/-- If the mailer fails, the consignment stays as it is and nothing is taken. -/
theorem run_finish_of_error (hjoined : c.joined = some t) (hstage : c.stage = .voted) {e : Fault}
    (hfails : (mailer box.handed c.message).result = .error e) :
    (finish mailer t).run (c, box) = ⟨.error e, (c, ((Outbox.hand mailer c.message).run box).state),
      ((Outbox.hand mailer c.message).run box).log⟩ := by
  have hcheck : c.checkStage t [.voted] = .ok () :=
    checkStage_eq_ok_iff.mpr ⟨hjoined, List.mem_singleton.mpr hstage⟩
  simp [finish, run_bind, hcheck, Outbox.hand, hfails]

theorem ends_finish (mailer : Mailer) (t : Nat) (c : Consignment) (box : Outbox) :
    Ends c box (.finish t) ((finish mailer t).run (c, box)) := by
  cases hcheck : c.checkStage t [.voted] with
  | error e =>
      have hrun : (finish mailer t).run (c, box) = ⟨.error e, (c, box), []⟩ := by
        simp [finish, run_bind, hcheck]
      rw [hrun]
      exact .refused e rfl rfl rfl
  | ok u =>
      obtain ⟨hjoined, hstage⟩ := checkStage_eq_ok_iff.mp hcheck
      have hvoted := List.mem_singleton.mp hstage
      cases hresult : (mailer box.handed c.message).result with
      | error e =>
          rw [run_finish_of_error hjoined hvoted hresult]
          exact .refused e rfl rfl (Outbox.hand_accepted_of_error hresult)
      | ok u =>
          let handed := (Outbox.hand mailer c.message).run box
          have hrun : (finish mailer t).run (c, box) =
              ⟨.ok (), ({ c with stage := .sent }, handed.state), handed.log⟩ := by
            simp [finish, run_bind, hcheck, Outbox.hand, hresult, handed, enter]
          rw [hrun]
          exact .passed rfl (.finish t hjoined hvoted) (Outbox.hand_accepted_of_ok hresult)

/-- A call that says nothing to the mailer. -/
theorem ends_onFirst {x : Action Consignment Unit} {box : Outbox}
    (hhands : call.hands c.message = [])
    (h : (∃ e, x.run c = ⟨.error e, c, []⟩) ∨
      ∃ c', Passes c call c' ∧ x.run c = ⟨.ok (), c', []⟩) :
    Ends c box call ((onFirst x : Action (Consignment × Outbox) Unit).run (c, box)) := by
  rw [run_onFirst]
  rcases h with ⟨e, hrun⟩ | ⟨c', hpasses, hrun⟩
  · rw [hrun]
    exact .refused e rfl rfl rfl
  · rw [hrun]
    exact .passed rfl hpasses (by rw [hhands, List.append_nil])

theorem ends_act (mailer : Mailer) (r : Request) (c : Consignment) (box : Outbox) :
    Ends c box r.call ((r.act mailer).run (c, box)) := by
  obtain ⟨call, welcome⟩ := r
  cases call with
  | join t =>
      refine ends_onFirst rfl ((run_join t welcome c).imp_right ?_)
      exact fun ⟨hfree, hrun⟩ => ⟨_, .join t hfree, hrun⟩
  | commit t =>
      refine ends_onFirst rfl ?_
      cases hcheck : c.checkJoined t with
      | error e => exact .inl ⟨e, by simp [commit, hcheck]⟩
      | ok u => exact .inr ⟨c, .commit t, by simp [commit, hcheck]⟩
  | abort t =>
      refine ends_onFirst rfl ((run_advance t _ .aborted c).imp_right ?_)
      exact fun ⟨hcheck, hrun⟩ => ⟨_, .abort t hcheck.1 hcheck.2, hrun⟩
  | start t nested =>
      refine ends_onFirst rfl ((run_start t nested c).imp_right ?_)
      rintro ⟨rfl, hcheck, hrun⟩
      exact ⟨_, .start t hcheck.1 (List.mem_singleton.mp hcheck.2), hrun⟩
  | vote t =>
      refine ends_onFirst rfl ((run_advance t _ .voted c).imp_right ?_)
      exact fun ⟨hcheck, hrun⟩ => ⟨_, .vote t hcheck.1 (List.mem_singleton.mp hcheck.2), hrun⟩
  | finish t => exact ends_finish mailer t c box
  | withdraw t =>
      refine ends_onFirst rfl ((run_advance t _ .aborted c).imp_right ?_)
      exact fun ⟨hcheck, hrun⟩ => ⟨_, .withdraw t hcheck.1 hcheck.2, hrun⟩
  | savepoint =>
      refine ends_onFirst rfl ?_
      cases hjoined : c.joined with
      | none =>
          refine .inl ⟨.value .notJoined, ?_⟩
          simp [savepoint, run_bind, hjoined]
      | some t => exact .inr ⟨c, .savepoint, by simp [savepoint, run_bind, hjoined]⟩

/-! ### Runs -/

/-- The calls that take a consignment to a stage within a transaction, in their order. -/
def milestones (t : Nat) : Stage → List Call
  | .begun => [.start t false]
  | .voted => [.start t false, .vote t]
  | .sent => [.start t false, .vote t, .finish t]
  | _ => []

/-- A call that takes a consignment back. -/
def Call.isAbort : Call → Bool
  | .abort _ | .withdraw _ => true
  | _ => false

/-- Where a new consignment is after some calls that returned, and what the mailer took. -/
structure Courses (m : Message) (done : List Call) (c : Consignment) (accepted : List Message) :
    Prop where
  message : c.message = m
  listed : c.listings = c.joined.toList
  taken : accepted = if c.stage = .sent then [m] else []
  waits : c.joined = none → c.stage = .initial
  passed : c.stage ≠ .aborted → ∀ t, c.joined = some t → (milestones t c.stage).Sublist done
  unbroken : c.stage ≠ .aborted → ∀ call ∈ done, call.isAbort = false

theorem courses_ofMessage (m : Message) : Courses m [] (ofMessage m) [] where
  message := rfl
  listed := rfl
  taken := rfl
  waits _ := rfl
  passed _ _ h := nomatch h
  unbroken _ _ h := nomatch h

/-- A call that leaves a consignment at its stage. -/
theorem Courses.resting {accepted : List Message} (h : Courses m done c accepted)
    (hcall : call.isAbort = false) : Courses m (done ++ [call]) c accepted where
  message := h.message
  listed := h.listed
  taken := h.taken
  waits := h.waits
  passed hstage t ht := (h.passed hstage t ht).trans (List.sublist_append_left _ _)
  unbroken hstage := List.forall_mem_append.mpr
    ⟨h.unbroken hstage, List.forall_mem_singleton.mpr hcall⟩

/-- A call that takes a consignment on to its next stage. -/
theorem Courses.advancing {accepted : List Message} (h : Courses m done c accepted)
    (hjoined : c.joined = some t) (hcall : call.isAbort = false) {stage : Stage}
    (hbefore : c.stage ≠ .aborted) (hnext : milestones t stage = milestones t c.stage ++ [call])
    {handed : List Message}
    (hhanded : accepted ++ handed = if stage = .sent then [m] else []) :
    Courses m (done ++ [call]) { c with stage := stage } (accepted ++ handed) where
  message := h.message
  listed := h.listed
  taken := hhanded
  waits hnone := by simp [hjoined] at hnone
  passed _ u hu := by
    obtain rfl : t = u := Option.some.inj (hjoined.symm.trans hu)
    rw [hnext]
    exact (h.passed hbefore t hjoined).append (List.Sublist.refl _)
  unbroken _ := List.forall_mem_append.mpr
    ⟨h.unbroken hbefore, List.forall_mem_singleton.mpr hcall⟩

theorem Courses.aborting {accepted : List Message} (h : Courses m done c accepted)
    (hjoined : c.joined = some t) (hbefore : c.stage ≠ .sent) :
    Courses m (done ++ [call]) { c with stage := .aborted } accepted where
  message := h.message
  listed := h.listed
  taken := by rw [h.taken, if_neg hbefore, if_neg nofun]
  waits hnone := by simp [hjoined] at hnone
  passed hstage := absurd rfl hstage
  unbroken hstage := absurd rfl hstage

theorem Courses.joining {accepted : List Message} (h : Courses m done c accepted)
    (hfree : ∀ u, c.joined = some u → u = t) :
    Courses m (done ++ [.join t]) { c with
      listings := if c.listings.contains t then c.listings else c.listings ++ [t]
      joined := some t } accepted where
  message := h.message
  listed := by
    cases hjoined : c.joined with
    | none => simp [h.listed, hjoined]
    | some u => simp [h.listed, hjoined, hfree u hjoined]
  taken := h.taken
  waits hnone := nomatch hnone
  passed hstage u hu := by
    obtain rfl : t = u := Option.some.inj hu
    cases hjoined : c.joined with
    | none => simp [h.waits hjoined, milestones]
    | some u =>
        obtain rfl := hfree u hjoined
        exact (h.passed hstage u hjoined).trans (List.sublist_append_left _ _)
  unbroken hstage := List.forall_mem_append.mpr
    ⟨h.unbroken hstage, List.forall_mem_singleton.mpr rfl⟩

theorem Courses.passing {accepted : List Message} (h : Courses m done c accepted)
    (hpasses : Passes c call c') :
    Courses m (done ++ [call]) c' (accepted ++ call.hands c.message) := by
  have hquiet (hhands : call.hands c.message = [])
      (hrest : Courses m (done ++ [call]) c' accepted) :
      Courses m (done ++ [call]) c' (accepted ++ call.hands c.message) := by
    rw [hhands, List.append_nil]
    exact hrest
  cases hpasses with
  | join t hfree => exact hquiet rfl (h.joining hfree)
  | commit t | savepoint => exact hquiet rfl (h.resting rfl)
  | abort t hjoined hstage =>
      exact hquiet rfl (h.aborting hjoined fun hsent => by simp [hsent] at hstage)
  | withdraw t hjoined hstage =>
      exact hquiet rfl (h.aborting hjoined fun hsent => by simp [hsent] at hstage)
  | start t hjoined hstage | vote t hjoined hstage | finish t hjoined hstage =>
      refine h.advancing hjoined rfl (by simp [hstage]) (by rw [hstage]; rfl) ?_
      simp [h.taken, hstage, Call.hands, h.message]

theorem Courses.following (mailer : Mailer) (requests : List Request)
    (h : Courses m done c box.accepted) :
    let w := follow mailer requests (c, box)
    Courses m (done ++ returned mailer requests (c, box)) w.1 w.2.accepted := by
  induction requests generalizing done c box with
  | nil => simpa [follow, returned] using h
  | cons r rest ih =>
      dsimp only [follow, returned]
      rw [← List.append_assoc]
      refine ih ?_
      cases ends_act mailer r c box with
      | passed hresult hpasses haccepted =>
          rw [hresult, haccepted]
          exact h.passing hpasses
      | refused e hresult hkept haccepted =>
          rw [hresult, haccepted, hkept]
          simpa using h

/-- Sent and aborted are final, and the mailer takes nothing more. -/
theorem Passes.final (h : Passes c call c') (hstage : c.stage = .sent ∨ c.stage = .aborted) :
    c'.stage = c.stage ∧ call.hands c.message = [] := by
  cases h with
  | join | commit | savepoint => exact ⟨rfl, rfl⟩
  | abort t _ hfrom | withdraw t _ hfrom =>
      rcases hstage with hsent | haborted
      · simp [hsent] at hfrom
      · exact ⟨haborted.symm, rfl⟩
  | start t _ hfrom | vote t _ hfrom | finish t _ hfrom => simp [hfrom] at hstage

theorem final_follow (mailer : Mailer) (requests : List Request) {w : Consignment × Outbox}
    (hstage : w.1.stage = .sent ∨ w.1.stage = .aborted) :
    (follow mailer requests w).1.stage = w.1.stage ∧
      (follow mailer requests w).2.accepted = w.2.accepted := by
  induction requests generalizing w with
  | nil => exact ⟨rfl, rfl⟩
  | cons r rest ih =>
      obtain ⟨hsame, hkept⟩ : ((r.act mailer).run w).state.1.stage = w.1.stage ∧
          ((r.act mailer).run w).state.2.accepted = w.2.accepted := by
        cases ends_act mailer r w.1 w.2 with
        | passed _ hpasses haccepted =>
            obtain ⟨hfinal, hhands⟩ := hpasses.final hstage
            exact ⟨hfinal, by rw [haccepted, hhands, List.append_nil]⟩
        | refused _ _ hkept haccepted => exact ⟨congrArg Consignment.stage hkept, haccepted⟩
      obtain ⟨hstages, haccepted⟩ := ih (hsame ▸ hstage)
      exact ⟨hstages.trans hsame, haccepted.trans hkept⟩

/-- Whatever is asked of a new consignment, the mailer takes its message at most once, and has taken
it just if the consignment is sent. A sent consignment began, voted and finished in this order in
the transaction that it is in, and no call to abort it ever returned. Sent and aborted are final,
and the mailer takes nothing more then. A call that is refused changes nothing; so a consignment
whose mailer fails has still only voted, and can be withdrawn. The transaction that it is in lists
it once, and no other one does. -/
theorem sent_once_after_both_phases (mailer : Mailer) (m : Message) (requests : List Request) :
    let w := follow mailer requests (ofMessage m, .empty)
    let c := w.1
    let done := returned mailer requests (ofMessage m, .empty)
    w.2.accepted = (if c.stage = .sent then [m] else []) ∧
    (c.stage = .sent → ∃ t, c.joined = some t ∧
      List.Sublist [.start t false, .vote t, .finish t] done ∧
      ∀ u, .abort u ∉ done ∧ .withdraw u ∉ done) ∧
    (c.stage = .sent ∨ c.stage = .aborted → ∀ more,
      (follow mailer more w).1.stage = c.stage ∧
        (follow mailer more w).2.accepted = w.2.accepted) ∧
    (∀ r : Request, ((r.act mailer).run w).result.isOk = false →
      ((r.act mailer).run w).state.1 = c) ∧
    (∀ t e, c.joined = some t → c.stage = .voted → (mailer w.2.handed m).result = .error e →
      let tried := (finish mailer t).run w
      tried.result = .error e ∧ tried.state.1 = c ∧ tried.state.2.accepted = w.2.accepted ∧
        (withdraw t).run c = ⟨.ok (), { c with stage := .aborted }, []⟩) ∧
    c.listings = c.joined.toList := by
  intro w c done
  have hfirst : Courses m [] (ofMessage m) Outbox.empty.accepted := courses_ofMessage m
  have h : Courses m done c w.2.accepted := hfirst.following mailer requests
  refine ⟨h.taken, fun hsent => ?_, fun hfinal more => final_follow mailer more hfinal,
    fun r hresult => ?_, fun t e hjoined hvoted hfails => ?_, h.listed⟩
  · cases hjoined : c.joined with
    | none => simp [h.waits hjoined] at hsent
    | some t =>
        have hcourse : c.stage ≠ .aborted := by simp [hsent]
        have hpassed := h.passed hcourse t hjoined
        rw [hsent] at hpassed
        refine ⟨t, rfl, hpassed, fun u => ⟨fun hmem => ?_, fun hmem => ?_⟩⟩
        · exact nomatch h.unbroken hcourse _ hmem
        · exact nomatch h.unbroken hcourse _ hmem
  · cases ends_act mailer r w.1 w.2 with
    | passed hok => simp [hok] at hresult
    | refused _ _ hkept _ => exact hkept
  · have hmailer : (mailer w.2.handed c.message).result = .error e := by rw [h.message, hfails]
    have hcheck : c.checkStage t [.begun, .voted, .aborted] = .ok () :=
      checkStage_eq_ok_iff.mpr ⟨hjoined, by simp [hvoted]⟩
    have htried := run_finish_of_error hjoined hvoted hmailer
    refine ⟨congrArg Outcome.result htried, congrArg (·.state.1) htried, ?_, ?_⟩
    · exact (congrArg (·.state.2.accepted) htried).trans (Outbox.hand_accepted_of_error hmailer)
    · simp [withdraw, run_bind, hcheck, enter]

/-- A consignment that goes all the way is sent. -/
example (m : Message) :
    let calls : List Call := [.join 0, .start 0 false, .vote 0, .finish 0]
    let w := follow .accepting (calls.map (⟨·, .ok ()⟩)) (ofMessage m, .empty)
    w.1.stage = .sent ∧ w.2.accepted = [m] := ⟨rfl, rfl⟩

end Mailroom.Delivery.Consignment
