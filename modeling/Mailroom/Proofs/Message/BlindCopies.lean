import Mailroom.Proofs.Relay.Order
import Mailroom.Proofs.Relay.Views

/-!
Blind copies are invisible. Neither the blind copy list nor a header under its name, in whatever
spelling, reaches the mail; the relay is told of the blind copies with the other recipients, and of
nothing else that depends on them.
-/

namespace Mailroom

namespace Message

/-- Whether a header name is that of the blind copy list. -/
def isBlindName : Value → Bool
  | .text name => Header.isReserved name.toList
  | _ => false

/-- What is left of a message when its blind copies are taken away. -/
def withoutBlindCopies (m : Message) : Message :=
  { m with bcc := [], headers := m.headers.filter fun header => !isBlindName header.1 }

@[simp] theorem session_withoutBlindCopies (m : Message) :
    m.withoutBlindCopies.session = m.session := rfl

theorem isHidden_of_isBlindName {name : Value} (h : isBlindName name = true) :
    isHidden name = .ok true := by
  cases name with
  | text name => exact congrArg Except.ok h
  | _ => cases h

theorem entity_withoutBlindCopies (m : Message) : m.withoutBlindCopies.entity = m.entity := by
  have hvisible : visibleHeaders m.withoutBlindCopies.headers = visibleHeaders m.headers := by
    refine filterM_filter (fun header hheader => ?_) m.headers
    rw [isHidden_of_isBlindName (by simpa using hheader)]
    rfl
  simp only [entity, hvisible]
  rfl

end Message

namespace Relay

variable {server : Server} {s : Session} {m m' : Message} {l l' : Letter}

def Call.withoutRecipients : Call → Call
  | .sendMail sender _ text => .sendMail sender [] text
  | c => c

theorem Call.name_withoutRecipients (c : Call) : c.withoutRecipients.name = c.name := by
  cases c <;> rfl

def Letter.withoutRecipients (l : Letter) : Letter := { l with recipients := [] }

theorem conversation_alike (h : l.withoutRecipients = l'.withoutRecipients) :
    (conversation server s l).map (Turn.seen Call.withoutRecipients) =
      (conversation server s l').map (Turn.seen Call.withoutRecipients) := by
  obtain ⟨sender, recipients, text⟩ := l
  obtain ⟨sender', recipients', text'⟩ := l'
  obtain ⟨rfl, -, rfl⟩ := Letter.mk.inj h
  simp only [conversation, delivery, List.map_append]
  rfl

/-- The letter that a message gives, but for the recipients. Those that are no blind copies must be
addresses all the same. -/
def letterBody (s : Session) (m : Message) : Except Fault Letter := do
  let sender ← envelopeSender s m
  let _ ← (m.addressees ++ m.cc).mapM emailOf
  let entity ← m.entity
  let text ← entity.write
  return ⟨sender, [], text⟩

theorem letterBody_withoutBlindCopies (s : Session) (m : Message) :
    letterBody s m.withoutBlindCopies = letterBody s m := by
  simp only [letterBody, Message.entity_withoutBlindCopies]
  rfl

theorem letterOf_withoutRecipients (s : Session) (hany : m.recipients ≠ [])
    (haddresses : ∀ v ∈ m.bcc, ∃ a, v = .address a) :
    (letterOf s m).map Letter.withoutRecipients = letterBody s m := by
  obtain ⟨hidden, hhidden⟩ : ∃ hidden, m.bcc.mapM emailOf = .ok hidden := by
    refine exists_of_isOk (isOk_mapM.mpr fun v hv => ?_)
    obtain ⟨a, rfl⟩ := haddresses v hv
    rfl
  have hrecipients : m.recipients.mapM emailOf =
      ((m.addressees ++ m.cc).mapM emailOf).map (· ++ hidden) := by
    rw [Message.recipients, List.mapM_append, hhidden]
    cases (m.addressees ++ m.cc).mapM emailOf <;> rfl
  unfold letterOf letterBody
  rw [hrecipients]
  cases envelopeSender s m with
  | error e => rfl
  | ok sender =>
      cases hnamed : (m.addressees ++ m.cc).mapM emailOf with
      | error e => rfl
      | ok named =>
          have hnonempty : (named ++ hidden).isEmpty = false := by
            rw [hnamed] at hrecipients
            exact List.isEmpty_eq_false_iff.mpr fun hnone =>
              hany (eq_nil_of_mapM (hrecipients.trans (congrArg Except.ok hnone)))
          change ((if (named ++ hidden).isEmpty = true then _ else _) : Except Fault _).map _ = _
          rw [hnonempty]
          cases m.entity with
          | error e => rfl
          | ok entity =>
              change (entity.write >>= _).map _ = (entity.write >>= _)
              cases entity.write <;> rfl

theorem agenda_withoutRecipients (server : Server) (s : Session) (m : Message) :
    (agenda server s m).map (Turn.seen Call.withoutRecipients) =
      match (letterOf s m).map Letter.withoutRecipients with
      | .error e => [.error e]
      | .ok l => (conversation server s l).map (Turn.seen Call.withoutRecipients) := by
  unfold agenda
  cases letterOf s m with
  | error e => rfl
  | ok l => exact conversation_alike rfl

/-- What the relay hears of two messages, and how that ends, is the same but for the recipients; and
these are each message's own, the blind copies last. -/
structure SameBesidesRecipients (server : Server) (m m' : Message) : Prop where
  calls : ((send server (some m)).run .initial).state.calls.map Call.withoutRecipients =
    ((send server (some m')).run .initial).state.calls.map Call.withoutRecipients
  result : ((send server (some m)).run .initial).result =
    ((send server (some m')).run .initial).result
  recipients : ∀ n ∈ [m, m'], ∀ sender recipients text,
    .sendMail sender recipients text ∈ ((send server (some n)).run .initial).state.calls →
      (n.addressees ++ n.cc ++ n.bcc).mapM emailOf = .ok recipients

theorem mapM_emailOf_of_mem_send {sender : Value} {recipients : List String} {text : List UInt8}
    (h : .sendMail sender recipients text ∈ ((send server (some m)).run .initial).state.calls) :
    (m.addressees ++ m.cc ++ m.bcc).mapM emailOf = .ok recipients := by
  cases hsession : m.session with
  | none => simp [send, hsession, Dialogue.initial] at h
  | some s =>
      rw [calls_send server hsession, agenda] at h
      cases hletter : letterOf s m with
      | error e => simp [hletter] at h
      | ok l =>
          rw [hletter] at h
          rw [recipients_of_mem h]
          exact (letterOf_eq_ok hletter).2.1

theorem sameBesidesRecipients (server : Server)
    (h : m.withoutBlindCopies = m'.withoutBlindCopies)
    (hany : m.recipients ≠ [] ∧ m'.recipients ≠ [])
    (haddresses : ∀ v ∈ m.bcc ++ m'.bcc, ∃ a, v = .address a) :
    SameBesidesRecipients server m m' := by
  have hsame : m.session = m'.session := by
    rw [← m.session_withoutBlindCopies, h, m'.session_withoutBlindCopies]
  have halike : ((send server (some m)).run .initial).state.calls.map Call.withoutRecipients =
        ((send server (some m')).run .initial).state.calls.map Call.withoutRecipients ∧
      ((send server (some m)).run .initial).result =
        ((send server (some m')).run .initial).result := by
    cases hsession : m.session with
    | none => simp [send, hsession, hsame ▸ hsession]
    | some s =>
        refine send_alike Call.name_withoutRecipients hsession (hsame ▸ hsession) ?_
        rw [agenda_withoutRecipients, agenda_withoutRecipients,
          letterOf_withoutRecipients s hany.1 fun v hv => haddresses v (List.mem_append_left _ hv),
          letterOf_withoutRecipients s hany.2 fun v hv => haddresses v (List.mem_append_right _ hv),
          ← letterBody_withoutBlindCopies s m, h, letterBody_withoutBlindCopies]
  exact ⟨halike.1, halike.2, fun _ _ _ _ _ => mapM_emailOf_of_mem_send⟩

end Relay

namespace Message

open Mailroom.Relay

/-- Messages that differ in their blind copies only, and in headers under that name, give the same
mail; and whatever the relay is like, it hears the same of them but for the recipients. -/
theorem blind_copies_leave_no_trace {m m' : Message}
    (h : m.withoutBlindCopies = m'.withoutBlindCopies) :
    m.entity = m'.entity ∧ (m.entity >>= Wire.Entity.write) = (m'.entity >>= Wire.Entity.write) ∧
      (m.recipients ≠ [] ∧ m'.recipients ≠ [] → (∀ v ∈ m.bcc ++ m'.bcc, ∃ a, v = .address a) →
        ∀ server, SameBesidesRecipients server m m') := by
  have hentity : m.entity = m'.entity := by
    rw [← m.entity_withoutBlindCopies, h, m'.entity_withoutBlindCopies]
  exact ⟨hentity, by rw [hentity], fun hany haddresses server =>
    sameBesidesRecipients server h hany haddresses⟩

/-- A message to one recipient in the open, with blind copies as given. -/
def discreetMessage (bcc : List Value) (headers : Entries Value Value) : Message where
  sender := .address ⟨"a@b.c", none⟩
  addressees := [.address ⟨"x@y.z", none⟩]
  cc := []
  bcc := bcc
  replyTo := []
  subject := .text "s"
  body := .nothing
  headers := headers
  sentDate := .nothing
  session := some ⟨.supplied 0, [(.text Property.host.name, .text "h")], .nothing⟩

theorem discreet_message_leaves_no_trace :
    let m := discreetMessage [] [(.text "X-Note", .text "n")]
    let m' := discreetMessage [.address ⟨"d@e.f", none⟩]
      [(.text "BCC", .text "d@e.f"), (.text "X-Note", .text "n"), (.text "bCc", .nothing)]
    m.withoutBlindCopies = m'.withoutBlindCopies ∧ m.entity = m'.entity ∧
      SameBesidesRecipients .obliging m m' := by
  intro m m'
  have hsame : m.withoutBlindCopies = m'.withoutBlindCopies := by rfl
  obtain ⟨hentity, -, hrelay⟩ := blind_copies_leave_no_trace hsame
  refine ⟨hsame, hentity, hrelay ⟨nofun, nofun⟩ (fun v hv => ?_) .obliging⟩
  exact ⟨_, List.mem_singleton.mp hv⟩

end Message

end Mailroom
