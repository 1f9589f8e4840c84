import Mailroom.Proofs.Relay.Turns

/-!
Dialogues seen through a view of their calls. Whether a call fails depends on its place and its name
only. So a view that keeps the names of the calls can be taken before the turns are played or after,
and two lists of turns that look alike are played alike.
-/

namespace Mailroom.Relay

/-- The turn whose call is seen through a view. -/
abbrev Turn.seen (view : Call → Call) : Turn → Turn := Except.map view

variable {server : Server} {view : Call → Call}

theorem Server.play_seen (hview : ∀ c, (view c).name = c.name) (server : Server) (place : Nat)
    (turns : List Turn) :
    server.play place (turns.map (Turn.seen view)) =
      ((server.play place turns).1.map view, (server.play place turns).2) := by
  induction turns generalizing place with
  | nil => rfl
  | cons turn rest ih =>
      cases turn with
      | error e => rfl
      | ok c =>
          change server.play place (.ok (view c) :: rest.map (Turn.seen view)) = _
          cases hfails : server.fails place c.name with
          | true =>
              have hseen : server.fails place (view c).name = true := by rw [hview, hfails]
              rw [play_of_fails hfails, play_of_fails hseen, hview]
              rfl
          | false =>
              have hseen : server.fails place (view c).name = false := by rw [hview, hfails]
              rw [play_of_returns hfails, play_of_returns hseen, ih]
              rfl

theorem Server.play_alike (hview : ∀ c, (view c).name = c.name) {place : Nat}
    {turns others : List Turn}
    (h : turns.map (Turn.seen view) = others.map (Turn.seen view)) :
    (server.play place turns).1.map view = (server.play place others).1.map view ∧
      (server.play place turns).2 = (server.play place others).2 := by
  have hplay := congrArg (server.play place) h
  rw [play_seen hview, play_seen hview] at hplay
  exact Prod.mk.inj hplay

theorem send_alike (hview : ∀ c, (view c).name = c.name) {s s' : Session} {m m' : Message}
    (hm : m.session = some s) (hm' : m'.session = some s')
    (h : (agenda server s m).map (Turn.seen view) = (agenda server s' m').map (Turn.seen view)) :
    ((send server (some m)).run .initial).state.calls.map view =
        ((send server (some m')).run .initial).state.calls.map view ∧
      ((send server (some m)).run .initial).result =
        ((send server (some m')).run .initial).result := by
  rw [calls_send server hm, calls_send server hm', result_send server hm, result_send server hm']
  exact Server.play_alike hview h

end Mailroom.Relay
