import Mailroom.Proofs.Relay.Order

/-!
What becomes of the connection. It is released only on the way out of a dialogue whose message the
server has taken; a dialogue that ends before leaves the connection behind.
-/

namespace Mailroom.Relay

variable {server : Server} {s : Session} {m : Message} {l : Letter} {first : List Turn}
  {names : List String}

/-- A connection has come about. -/
def Server.Connects (server : Server) (calls : List Call) : Prop :=
  ∃ c ∈ server.returned 0 calls, c.name = "connect"

/-- The server has taken the message. -/
def Server.Takes (server : Server) (calls : List Call) : Prop :=
  ∃ sender recipients text, .sendMail sender recipients text ∈ server.returned 0 calls

/-- The last that is said is a farewell, whether it succeeds or not. -/
def IsReleased (calls : List Call) : Prop :=
  calls.getLast? = some .quit ∨ calls.getLast? = some .close

/-- How a dialogue ends: it holds the connection at the fault, or parts from it after the message
was taken, and then only the farewell may fail. -/
inductive Ends (server : Server) (calls : List Call) : Except Fault Unit → Prop
  | holding {e : Fault} (htakes : ¬server.Takes calls) (hquit : .quit ∉ calls)
      (hclose : .close ∉ calls) : Ends server calls (.error e)
  | parting {result : Except Fault Unit} (htakes : server.Takes calls)
      (hreleased : IsReleased calls)
      (hresult : result = .ok () ∨ result = .error (.sendFailed "quit") ∨
        result = .error (.sendFailed "close")) : Ends server calls result

theorem not_isReleased_of_notin {calls : List Call} (hquit : .quit ∉ calls)
    (hclose : .close ∉ calls) : ¬IsReleased calls := by
  rintro (hlast | hlast)
  · exact hquit (List.mem_of_getLast? hlast)
  · exact hclose (List.mem_of_getLast? hlast)

/-- The farewell is the last call, or closing the connection after it. -/
theorem play_leaving (server : Server) (place : Nat) :
    let heard := server.play place (leaving server)
    IsReleased heard.1 ∧ (heard.2 = .ok () ∨ heard.2 = .error (.sendFailed "quit") ∨
      heard.2 = .error (.sendFailed "close")) := by
  cases hbreaks : server.breaksOnQuit <;> cases hquit : server.fails place "quit" <;>
    cases hclose : server.fails (place + 1) "close" <;>
    simp [leaving, IsReleased, Server.play, Call.name, hbreaks, hquit, hclose]

theorem IsReleased.append {calls : List Call} (h : IsReleased calls) (before : List Call) :
    IsReleased (before ++ calls) := by
  rcases h with h | h
  · exact .inl (by rw [List.getLast?_append, h]; rfl)
  · exact .inr (by rw [List.getLast?_append, h]; rfl)

section Delivery

variable (hfirst : Fits first names) (hmessage : "sendmail" ∉ names) (hquit : "quit" ∉ names)
  (hclose : "close" ∉ names)
include hfirst hmessage

theorem takes_iff : server.Takes (server.play 0 (first ++ delivery server l)).1 ↔
    (server.play 0 first).2 = .ok () ∧ server.fails first.length "sendmail" = false := by
  have hearly (sender : Value) (recipients : List String) (text : List UInt8) :
      .sendMail sender recipients text ∉ server.returned 0 (server.play 0 first).1 :=
    hfirst.not_mem_returned hmessage
  simp only [Server.Takes, Server.mem_returned_play_append, hearly, false_or, Nat.zero_add,
    delivery, leaving]
  cases server.breaksOnQuit <;> simp [Call.name]

include hquit hclose

/-- Behind turns that neither hand the message over nor say farewell, the delivery decides. -/
theorem ends_delivery : Ends server (server.play 0 (first ++ delivery server l)).1
    (server.play 0 (first ++ delivery server l)).2 := by
  have htakes : server.Takes (server.play 0 (first ++ delivery server l)).1 ↔ _ :=
    takes_iff hfirst hmessage
  have hnoQuit : .quit ∉ (server.play 0 first).1 := hfirst.not_mem hquit
  have hnoClose : .close ∉ (server.play 0 first).1 := hfirst.not_mem hclose
  cases hearly : (server.play 0 first).2 with
  | error e =>
      rw [hearly] at htakes
      rw [Server.play_append_of_error hearly] at htakes ⊢
      rw [hearly]
      refine .holding (fun h => ?_) hnoQuit hnoClose
      cases (htakes.mp h).1
  | ok u =>
      rw [hearly] at htakes
      rw [Server.play_append_of_ok hearly, Nat.zero_add] at htakes ⊢
      cases hsend : server.fails first.length "sendmail" with
      | true =>
          rw [hsend] at htakes
          rw [delivery, List.singleton_append, Server.play_of_fails hsend] at htakes ⊢
          refine .holding (fun h => ?_) (by simp [hnoQuit]) (by simp [hnoClose])
          cases (htakes.mp h).2
      | false =>
          obtain ⟨hreleased, hresult⟩ := play_leaving server (first.length + 1)
          rw [delivery, List.singleton_append, Server.play_of_returns hsend] at htakes ⊢
          refine .parting (htakes.mpr ⟨rfl, hsend⟩) ?_ hresult
          exact (hreleased.append [_]).append _

end Delivery

/-- A message is only taken over a connection. -/
theorem connects_of_takes (h : server.Takes (server.play 0 (conversation server s l)).1) :
    server.Connects (server.play 0 (conversation server s l)).1 := by
  obtain ⟨rest, hrest⟩ : ∃ rest, conversation server s l = connection s :: rest := ⟨_, rfl⟩
  rw [hrest] at h ⊢
  obtain ⟨sender, recipients, text, hsent⟩ := h
  cases hconnection : connection s with
  | error e =>
      rw [hconnection] at hsent
      cases hsent
  | ok c =>
      obtain ⟨port, timeout, hc⟩ := connection_eq_ok hconnection
      rw [hconnection, Server.mem_returned_play_call] at hsent
      exact ⟨c, Server.mem_returned_play_call.mpr ⟨hsent.1, .inl rfl⟩, by rw [hc]; rfl⟩

theorem ends_conversation (server : Server) (s : Session) (l : Letter) :
    Ends server (server.play 0 (conversation server s l)).1
      (server.play 0 (conversation server s l)).2 := by
  rw [conversation_eq_message]
  refine ends_delivery (fits_message server s) ?_ ?_ ?_ <;>
    simp [Outline.opening, Outline.introduction, Outline.protection, Outline.naming]

/-- What holds of a dialogue that does not come about, and of each that is a conversation, holds of
every dialogue. -/
theorem send_rule (server : Server) (item : Option Message)
    {P : List Call → Except Fault Unit → Prop} (hsilent : ∀ e, P [] (.error e))
    (hconversation : ∀ s l, P (server.play 0 (conversation server s l)).1
      (server.play 0 (conversation server s l)).2) :
    P ((send server item).run .initial).state.calls ((send server item).run .initial).result := by
  cases item with
  | none => exact hsilent _
  | some m =>
      cases hsession : m.session with
      | none =>
          have hsend : send server (some m) = .fail (.relay .noSession) := by
            simp [send, hsession]
          rw [hsend]
          exact hsilent _
      | some s =>
          rw [calls_send server hsession, result_send server hsession, agenda]
          cases letterOf s m with
          | error e => exact hsilent e
          | ok l => exact hconversation s l

theorem ends_send (server : Server) (item : Option Message) :
    Ends server ((send server item).run .initial).state.calls
      ((send server item).run .initial).result :=
  send_rule server item
    (fun _ => .holding (by simp [Server.Takes]) List.not_mem_nil List.not_mem_nil)
    (ends_conversation server)

theorem connects_send (server : Server) (item : Option Message) :
    server.Takes ((send server item).run .initial).state.calls →
      server.Connects ((send server item).run .initial).state.calls :=
  send_rule (P := fun calls _ => server.Takes calls → server.Connects calls) server item
    (fun _ h => absurd h (by simp [Server.Takes])) fun _ _ => connects_of_takes

/-- A dialogue releases its connection just if the server has taken the message. Then only the
farewell itself can fail; otherwise the dialogue ends in a fault and says no farewell, whether there
is a connection or not. -/
theorem released_iff_taken (server : Server) (item : Option Message) :
    let o := (send server item).run .initial
    (IsReleased o.state.calls ↔ server.Takes o.state.calls) ∧
      (server.Takes o.state.calls → server.Connects o.state.calls ∧
        (o.result = .ok () ∨ o.result = .error (.sendFailed "quit") ∨
          o.result = .error (.sendFailed "close"))) ∧
      (¬server.Takes o.state.calls → .quit ∉ o.state.calls ∧ .close ∉ o.state.calls ∧
        ∃ e, o.result = .error e) := by
  intro o
  have hends : Ends server o.state.calls o.result := ends_send server item
  have hconnects : server.Takes o.state.calls → server.Connects o.state.calls :=
    connects_send server item
  generalize o.state.calls = calls at hends hconnects ⊢
  generalize o.result = result at hends ⊢
  cases hends with
  | holding htakes hquit hclose =>
      exact ⟨iff_of_false (not_isReleased_of_notin hquit hclose) htakes, fun h => absurd h htakes,
        fun _ => ⟨hquit, hclose, _, rfl⟩⟩
  | parting htakes hreleased hresult =>
      exact ⟨iff_of_true hreleased htakes, fun h => ⟨hconnects h, hresult⟩,
        fun h => absurd htakes h⟩

/-- Refuses both greetings. -/
def Server.unwelcoming : Server := { Server.obliging with
  greetings := [⟨500, "no"⟩], helo := ⟨500, "no"⟩ }

def plainMessage : Message :=
  let a : Value := .address ⟨"a@b.c", none⟩
  ⟨a, [a], [], [], [], .nothing, .nothing, [], .nothing,
    some ⟨.supplied 0, [(.text "mail.smtp.host", .text "h")], .nothing⟩⟩

/-- A connection can be left behind. -/
theorem refused_connection_not_released :
    ¬∀ (server : Server) (item : Option Message),
      server.Connects ((send server item).run .initial).state.calls →
      IsReleased ((send server item).run .initial).state.calls := by
  intro h
  let calls := ((send .unwelcoming (some plainMessage)).run .initial).state.calls
  have hconnects : Server.unwelcoming.Connects calls := by
    have hname : "connect" ∈ (Server.unwelcoming.returned 0 calls).map Call.name := by
      decide +kernel
    exact List.mem_map.mp hname
  have hlast : (calls.map Call.name).getLast? = some "helo" := by decide +kernel
  rw [List.getLast?_map] at hlast
  rcases h .unwelcoming (some plainMessage) hconnects with hquit | hclose
  · rw [show calls.getLast? = some .quit from hquit] at hlast
    simp [Call.name] at hlast
  · rw [show calls.getLast? = some .close from hclose] at hlast
    simp [Call.name] at hlast

end Mailroom.Relay
