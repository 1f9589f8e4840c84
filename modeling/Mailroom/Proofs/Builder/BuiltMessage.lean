import Mathlib.Data.List.Induction
import Mailroom.Proofs.Builder.Replay

/-!
The built message, part by part: which calls a part of it comes from, and that the calls on other
parts do not matter. Runs with the same calls on each part lead to the same builder, so they build
the same message.
-/

namespace Mailroom.Builder

open Mailroom.Action

variable {σ τ α : Type} {rules : Rules} {b : Builder} {call : Call} {change : Change}

/-! ### Headers -/

/-- The value that was written last under a name. -/
def lastValue? (name : String) (writes : List (String × String)) : Option String :=
  (writes.filterMap fun write => if write.1 = name then some write.2 else none).getLast?

/-- Each name has the place of its first write and the value of its last. -/
structure IsLastWrites (writes : List (String × String)) (entries : Entries String String) :
    Prop where
  names : entries.map Prod.fst = (writes.map Prod.fst).eraseDups
  values : ∀ name, entries.find? (· == ·) name = lastValue? name writes

theorem eraseDups_concat (names : List String) (name : String) :
    (names ++ [name]).eraseDups =
      if name ∈ names then names.eraseDups else names.eraseDups ++ [name] := by
  rw [List.eraseDups_append]
  by_cases h : name ∈ names
  · simp [List.removeAll, h]
  · simp [List.removeAll, h, List.eraseDups_cons]

theorem isLastWrites_putAll (writes : List (String × String)) :
    IsLastWrites writes (Entries.putAll (· == ·) [] writes) := by
  induction writes using List.reverseRecOn with
  | nil => exact ⟨rfl, fun _ => rfl⟩
  | append_singleton writes write ih =>
      let entries := Entries.putAll (· == ·) [] writes
      have hput : Entries.putAll (· == ·) [] (writes ++ [write]) =
          entries.put (· == ·) write.1 write.2 := by
        simp [Entries.putAll, entries]
      have hwritten : entries.any (fun entry => entry.1 == write.1) = true ↔
          write.1 ∈ writes.map Prod.fst := by
        rw [← List.mem_eraseDups, ← ih.names]
        simp [entries]
      refine ⟨?_, fun name => ?_⟩
      · rw [hput, Entries.map_fst_put, ih.names, List.map_append, List.map_singleton,
          eraseDups_concat]
        simp only [hwritten]
      · rw [hput, Entries.find?_put, ih.values]
        by_cases h : write.1 = name <;> simp [lastValue?, h]

/-! ### The message -/

/-- The parts of a message are those that changes ask for. -/
structure IsFold (rules : Rules) (changes : List Change) (m : Message) : Prop where
  sender : ∃ a, last? Change.sender? changes = some a ∧ m.sender = .address a
  addressees : m.addressees = (listAfter .addressee changes).map .address
  cc : m.cc = (listAfter .cc changes).map .address
  bcc : m.bcc = (listAfter .bcc changes).map .address
  replyTo : m.replyTo = (listAfter .replyTo changes).map .address
  headers : ∃ entries, IsLastWrites (writes changes) entries ∧
    m.headers = entries.map fun header => (.text header.1, .text header.2)
  subject : m.subject = (last? Change.subject? changes).getD .nothing
  body : m.body = (last? Change.body? changes).getD .nothing
  sentDate : m.sentDate = match last? Change.sentDate? changes with
    | none | some .nothing => .moment rules.now
    | some v => v
  recipients : m.recipients = (listAfter .addressee changes ++ listAfter .cc changes ++
    listAfter .bcc changes).map .address
  reachesSomeone : rules.policy = .warn ∨ m.recipients ≠ []

/-- A build that succeeds has all that it needs and gives what the parts make up. -/
theorem message_of_build {m : Message} (h : ((build rules).run b).result = .ok m) :
    b.IsReady rules ∧ ∃ sender s, b.sender = some sender ∧ m = b.compose rules.now sender s := by
  have hready : b.IsReady rules := by
    by_contra hnot
    have hfailed := (run_build_of_not_ready hnot).1
    rw [h] at hfailed
    cases hfailed
  obtain ⟨sender, s, found, log, hsender, hrun⟩ := run_build_eq_report hready
  refine ⟨hready, sender, s, hsender, ?_⟩
  rw [hrun] at h
  obtain ⟨u, -, hm⟩ := exists_of_map_eq_ok h
  exact hm.symm

theorem Reflects.isFold {c : Settings} {changes : List Change} (hb : Reflects c changes b)
    {m : Message} (h : ((build rules).run b).result = .ok m) : IsFold rules changes m := by
  obtain ⟨hready, sender, s, hsender, rfl⟩ := message_of_build h
  exact {
    sender := ⟨sender, by rw [← hb.sender, hsender], rfl⟩
    addressees := congrArg (List.map Value.address) (hb.list .addressee)
    cc := congrArg (List.map Value.address) (hb.list .cc)
    bcc := congrArg (List.map Value.address) (hb.list .bcc)
    replyTo := congrArg (List.map Value.address) (hb.list .replyTo)
    headers := ⟨b.headers.items, by rw [hb.headers]; exact isLastWrites_putAll _, rfl⟩
    subject := hb.subject
    body := hb.body
    sentDate := by
      rw [show (b.compose rules.now sender s).sentDate = b.sentDateOr rules.now from rfl,
        sentDateOr, hb.sentDate]
      cases last? Change.sentDate? changes with
      | none => rfl
      | some v => cases v <;> rfl
    recipients := by
      simp [Message.recipients, compose, ← hb.list, Recipients.list]
    reachesSomeone := by
      refine hready.recipients.symm.imp_right fun hprimary hnobody => ?_
      simp [Message.recipients, compose] at hnobody
      simp [Recipients.hasPrimary, Role.primary, Recipients.list, hnobody] at hprimary }

/-! ### Interleavings -/

/-- The parts of a builder that calls write to. -/
inductive Part
  | setting (s : Setting)
  | session
  | sender
  | list (role : Role)
  | headers
  | subject
  | body
  | sentDate
  deriving DecidableEq

def Call.writesTo (part : Part) : Call → Bool
  | .setSetting s _ => part = .setting s
  | .setAccount .. => part = .setting .username || part = .setting .password
  | .setSession _ => part = .session
  | .setSender .. => part = .sender
  | .addRecipients role _ | .setRecipients role _ => part = .list role
  | .addHeader .. | .setHeaders _ => part = .headers
  | .setSubject _ => part = .subject
  | .setBody _ => part = .body
  | .setSentDate _ => part = .sentDate
  | .getSession | .getHost | .getHeader _ | .getSentDate | .build => false

def Change.writesTo (part : Part) : Change → Bool
  | .setting s _ => part = .setting s
  | .account .. => part = .setting .username || part = .setting .password
  | .session _ => part = .session
  | .sender _ => part = .sender
  | .append role _ | .replace role _ => part = .list role
  | .write _ => part = .headers
  | .subject _ => part = .subject
  | .body _ => part = .body
  | .sentDate _ => part = .sentDate

/-- The two lists have the same calls on each part, in the same order. -/
def SameByPart (first second : List Call) : Prop :=
  ∀ part, first.filter (Call.writesTo part) = second.filter (Call.writesTo part)

theorem writesTo_of_change? (h : call.change? = some (.ok change)) (part : Part) :
    call.writesTo part = change.writesTo part := by
  cases call with
  | setSetting | setAccount | setSession | setSubject | setBody | setSentDate =>
      obtain rfl := Except.ok.inj (Option.some.inj h)
      rfl
  | setSender | addRecipients | addHeader | setHeaders =>
      obtain ⟨_, -, rfl⟩ := exists_of_map_eq_ok (Option.some.inj h)
      rfl
  | setRecipients role entries =>
      have hasked := Option.some.inj h
      cases hbatch : Recipients.parseAll Address.parse entries with
      | error e => simp [hbatch] at hasked
      | ok batch =>
          cases batch with
          | nil => simp [hbatch] at hasked
          | cons a rest =>
              rw [hbatch] at hasked
              obtain rfl := Except.ok.inj hasked
              rfl
  | getSession | getHost | getHeader | getSentDate | build => cases h

theorem changesOf_filter (part : Part) (calls : List Call) :
    changesOf (calls.filter (Call.writesTo part)) =
      (changesOf calls).filter (Change.writesTo part) := by
  unfold changesOf
  rw [List.filterMap_filter, List.filter_filterMap]
  congr 1
  funext call
  cases hasked : call.change? with
  | none => cases call.writesTo part <;> rfl
  | some asked =>
      cases asked with
      | error e => cases call.writesTo part <;> rfl
      | ok change =>
          rw [writesTo_of_change? hasked]
          exact (Option.filter_some).symm

/-- Changes of two runs that agree on each part. -/
def AgreeByPart (first second : List Change) : Prop :=
  ∀ part, first.filter (Change.writesTo part) = second.filter (Change.writesTo part)

theorem SameByPart.agree {first second : List Call} (h : SameByPart first second) :
    AgreeByPart (changesOf first) (changesOf second) := by
  intro part
  rw [← changesOf_filter, ← changesOf_filter, h part]

/-- Nothing is read off changes of other parts. -/
def ReadsOnly (part : Part) (read : Change → Option α) : Prop :=
  ∀ change, change.writesTo part = false → read change = none

theorem AgreeByPart.filterMap_eq {first second : List Change} (h : AgreeByPart first second)
    {part : Part} {read : Change → Option α} (hread : ReadsOnly part read) :
    first.filterMap read = second.filterMap read := by
  have hpart (changes : List Change) :
      changes.filterMap read = (changes.filter (Change.writesTo part)).filterMap read := by
    rw [List.filterMap_filter]
    congr 1
    funext change
    cases hwrites : change.writesTo part with
    | false => rw [hread change hwrites]; rfl
    | true => rfl
  rw [hpart first, hpart second, h part]

theorem AgreeByPart.last?_eq {first second : List Change} (h : AgreeByPart first second)
    {part : Part} {read : Change → Option α} (hread : ReadsOnly part read) :
    last? read first = last? read second :=
  congrArg List.getLast? (h.filterMap_eq hread)

theorem readsOnly_setting (s : Setting) : ReadsOnly (.setting s) (Change.setting? s) := by
  intro change h
  cases change with
  | setting t v =>
      have hne : t ≠ s := by simpa [Change.writesTo, eq_comm] using h
      exact if_neg hne
  | account user password =>
      have hne : s ≠ .username ∧ s ≠ .password := by simpa [Change.writesTo] using h
      exact (if_neg hne.1).trans (if_neg hne.2)
  | _ => rfl

theorem readsOnly_list (role : Role) : ReadsOnly (.list role) (Change.edit? role) := by
  intro change h
  cases change with
  | append r batch | replace r batch =>
      have hne : r ≠ role := by simpa [Change.writesTo, eq_comm] using h
      exact if_neg hne
  | _ => rfl

theorem readsOnly_session : ReadsOnly .session Change.session? := by
  intro change h
  cases change <;> first | rfl | cases h

theorem readsOnly_sender : ReadsOnly .sender Change.sender? := by
  intro change h
  cases change <;> first | rfl | cases h

theorem readsOnly_headers : ReadsOnly .headers Change.headers? := by
  intro change h
  cases change <;> first | rfl | cases h

theorem readsOnly_subject : ReadsOnly .subject Change.subject? := by
  intro change h
  cases change <;> first | rfl | cases h

theorem readsOnly_body : ReadsOnly .body Change.body? := by
  intro change h
  cases change <;> first | rfl | cases h

theorem readsOnly_sentDate : ReadsOnly .sentDate Change.sentDate? := by
  intro change h
  cases change <;> first | rfl | cases h

theorem Reflects.sender_eq {c : Settings} {first second : List Change} {b' : Builder}
    (hb : Reflects c first b) (hb' : Reflects c second b') (h : AgreeByPart first second) :
    b.sender = b'.sender := by
  rw [hb.sender, hb'.sender, h.last?_eq readsOnly_sender]

/-- Builders whose parts come from changes that agree, and that are equally far, are one. -/
theorem Reflects.eq {c : Settings} {first second : List Change} {b' : Builder}
    (hb : Reflects c first b) (hb' : Reflects c second b') (h : AgreeByPart first second)
    (hsession : b.session = b'.session) (hfound : b.found = b'.found)
    (hmessage : b.message = b'.message) (hprogress : b.progress = b'.progress) : b = b' := by
  have hsettings : b.settings = b'.settings := by
    refine Settings.eq_of_get fun s => ?_
    rw [hb.settings, hb'.settings, h.last?_eq (readsOnly_setting s)]
  have hexplicit : b.explicit = b'.explicit := by
    rw [hb.explicit, hb'.explicit, h.last?_eq readsOnly_session]
  have hsender := hb.sender_eq hb' h
  have hrecipients : b.recipients = b'.recipients := by
    refine Recipients.eq_of_list fun role => ?_
    rw [hb.list, hb'.list, listAfter, listAfter, h.filterMap_eq (readsOnly_list role)]
  have hheaders : b.headers = b'.headers := by
    refine congrArg Header.Store.mk ?_
    rw [hb.headers, hb'.headers, writes, writes, h.filterMap_eq readsOnly_headers]
  have hsubject : b.subject = b'.subject := by
    rw [hb.subject, hb'.subject, h.last?_eq readsOnly_subject]
  have hbody : b.body = b'.body := by
    rw [hb.body, hb'.body, h.last?_eq readsOnly_body]
  have hsentDate : b.sentDate = b'.sentDate := by
    rw [hb.sentDate, hb'.sentDate, h.last?_eq readsOnly_sentDate]
  cases b
  cases b'
  simp only [mk.injEq]
  exact ⟨hsettings, hsender, hrecipients, hheaders, hsubject, hbody, hsentDate, hexplicit,
    hsession, hmessage, hprogress, hfound⟩

/-! ### The main statement -/

theorem Sound.configured (hb : b.Sound) (hopen : b.progress ≠ .built)
    (hsender : b.sender.isSome = true) : b.progress = .configured := by
  cases hprogress : b.progress with
  | built => exact absurd hprogress hopen
  | configured => rfl
  | empty => simp [hb.sender hprogress] at hsender

/-- Two runs that leave the builder open, find no session and have the same calls on each part lead
to the same builder, if they give it a sender. -/
theorem follow_eq_of_sameByPart {c : Settings} {first : List (Step σ)} {second : List (Step τ)}
    {s : σ} {t : τ} (hfirst : (follow first (ofSettings c, s)).1.progress ≠ .built)
    (hsecond : (follow second (ofSettings c, t)).1.progress ≠ .built)
    (hsender : (follow first (ofSettings c, s)).1.sender.isSome = true)
    (hnone : .getSession ∉ accepted first (ofSettings c, s))
    (hnone' : .getSession ∉ accepted second (ofSettings c, t))
    (h : SameByPart (calls first) (calls second)) :
    (follow first (ofSettings c, s)).1 = (follow second (ofSettings c, t)).1 := by
  have hb := (reflects_ofSettings c).follow first hfirst
  have hb' := (reflects_ofSettings c).follow second hsecond
  have hsound := sound_follow (w := (ofSettings c, s)) first (sound_ofSettings c)
  have hsound' := sound_follow (w := (ofSettings c, t)) second (sound_ofSettings c)
  obtain ⟨hsession, hfound⟩ := Unresolved.follow first hfirst hnone ⟨rfl, rfl⟩
  obtain ⟨hsession', hfound'⟩ := Unresolved.follow second hsecond hnone' ⟨rfl, rfl⟩
  have hsender' : (follow second (ofSettings c, t)).1.sender.isSome = true := by
    rw [← hb.sender_eq hb' h.agree]
    exact hsender
  -- Neither has a message yet, and the sender tells both from a new builder.
  refine hb.eq hb' h.agree (hsession.trans hsession'.symm) (hfound.trans hfound'.symm) ?_ ?_
  · exact (hsound.message.mpr hfirst).trans (hsound'.message.mpr hsecond).symm
  · exact (hsound.configured hfirst hsender).trans (hsound'.configured hsecond hsender').symm

/-- The message of a build is the fold of the calls that were not refused. Without a session found
beforehand it depends on the calls on each part only: any other run that leaves the builder open and
has the same calls on each part builds the same message. -/
theorem built_message_is_fold (c : Settings) (rules : Rules) (steps : List (Step τ)) (t : τ)
    {m : Message} (h : ((build rules).run (follow steps (ofSettings c, t)).1).result = .ok m) :
    IsFold rules (changesOf (accepted steps (ofSettings c, t))) m ∧
      (.getSession ∉ accepted steps (ofSettings c, t) →
        ∀ (σ : Type) (others : List (Step σ)) (s : σ),
          (follow others (ofSettings c, s)).1.progress ≠ .built →
          .getSession ∉ accepted others (ofSettings c, s) →
          SameByPart (calls steps) (calls others) →
          ((build rules).run (follow others (ofSettings c, s)).1).result = .ok m) := by
  obtain ⟨hready, -⟩ := message_of_build h
  refine ⟨?_, fun hnone σ others s hopen hnone' hsame => ?_⟩
  · rw [changesOf_accepted steps hready.isOpen]
    exact ((reflects_ofSettings c).follow steps hready.isOpen).isFold h
  · rw [← follow_eq_of_sameByPart hready.isOpen hopen hready.sender hnone hnone' hsame]
    exact h

/-! ### A draft -/

def noon : Moment := ⟨2024, 1, 1, 12, 0, 0, 0, none⟩

def draftRules : Rules := ⟨Session.standardLinks, .required, noon⟩

/-- Two of the calls are refused. -/
def draftCalls : List Call :=
  [.setSender (.text "nobody") .nothing, .setSender (.text "a@b.c") .nothing,
    .addRecipients .cc [.text "x@y.z", .text "nobody"],
    .addRecipients .addressee [.text "x@y.z"], .addRecipients .addressee [.text "d@e.f"],
    .addHeader (.text "X-A") (.text "1"),
    .setHeaders (.table [("X-B", .text "2"), ("X-A", .text "3")]), .setSubject (.text "s")]

/-- The same calls on each part, in another order. -/
def shuffledCalls : List Call :=
  [.setSubject (.text "s"), .addHeader (.text "X-A") (.text "1"),
    .addRecipients .addressee [.text "x@y.z"], .setSender (.text "nobody") .nothing,
    .setHeaders (.table [("X-B", .text "2"), ("X-A", .text "3")]),
    .addRecipients .addressee [.text "d@e.f"], .setSender (.text "a@b.c") .nothing,
    .addRecipients .cc [.text "x@y.z", .text "nobody"]]

def draftSteps (calls : List Call) : List (Step Unit) := calls.map (.call draftRules)

def draftMessage : Message where
  sender := .address ⟨"a@b.c", none⟩
  addressees := [.address ⟨"x@y.z", none⟩, .address ⟨"d@e.f", none⟩]
  cc := []
  bcc := []
  replyTo := []
  subject := .text "s"
  body := .nothing
  headers := [(.text "X-A", .text "3"), (.text "X-B", .text "2")]
  sentDate := .moment noon
  session := some ⟨.opened 0, [], .nothing⟩

def blank : Builder × Unit := (ofSettings .initial, ())

theorem draft_in_two_orders :
    SameByPart (calls (draftSteps draftCalls)) (calls (draftSteps shuffledCalls)) ∧
      IsFold draftRules (changesOf (accepted (draftSteps draftCalls) blank)) draftMessage ∧
      ((build draftRules).run (follow (draftSteps shuffledCalls) blank).1).result =
        .ok draftMessage := by
  have hsame : SameByPart (calls (draftSteps draftCalls)) (calls (draftSteps shuffledCalls)) := by
    intro part
    cases part with
    | setting s => cases s <;> rfl
    | list role => cases role <;> rfl
    | _ => rfl
  have hbuild : ((build draftRules).run (follow (draftSteps draftCalls) blank).1).result =
      .ok draftMessage := rfl
  have hnone {calls : List Call} (hcalls : calls.all Call.isMutator = true) :
      .getSession ∉ calls := fun hasked => nomatch List.all_eq_true.mp hcalls _ hasked
  obtain ⟨hfold, hothers⟩ :=
    built_message_is_fold .initial draftRules (draftSteps draftCalls) () hbuild
  exact ⟨hsame, hfold, hothers (hnone rfl) Unit (draftSteps shuffledCalls) () nofun (hnone rfl)
    hsame⟩

end Mailroom.Builder
